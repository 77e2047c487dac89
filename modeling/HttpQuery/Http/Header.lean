import HttpQuery.Text.Utf8
/-! # Headers

A header name is a text of certain ASCII characters and is kept in lower case; a header value is a
list of bytes without control characters. A list of headers may hold several values of one name.

* `headerName?`, `headerValue?`: the name and value of two texts, if they are valid.
* `Headers.set`, `Headers.add`, `Headers.values`: a list of headers as a map from names to lists of
  values. -/

namespace HttpQuery

open Text

/-- The signs that a token may hold. -/
def tokenSigns : List Char :=
  ['!', '#', '$', '%', '&', '\x27', '*', '+', '-', '.', '^', '_', '\x60', '|', '~']

/-- The characters of a token. -/
def isTokenChar (c : Char) : Bool := c.isAlphanum || tokenSigns.contains c

/-- The characters of a header name: those of a token, and the quotation mark. -/
def isNameChar (c : Char) : Bool := isTokenChar c || c == '"'

/-- The largest length of a header name. -/
def maxNameLength : Nat := 65535

/-- **The header name of a text**, in lower case. -/
def headerName? (text : String) : Option String :=
  if text ≠ "" ∧ text.toList.all isNameChar ∧ text.length ≤ maxNameLength then
    some (text.map Char.toLower)
  else none

/-- The bytes of a header value: no control characters but the tabulator. -/
def isValueByte (b : UInt8) : Bool := (32 ≤ b && b != 127) || b == 9

/-- **The header value of a text**: its UTF-8 bytes. -/
def headerValue? (text : String) : Option Bytes :=
  if (utf8Bytes text).all isValueByte then some (utf8Bytes text) else none

/-- The visible ASCII characters, the space and the tabulator. -/
def isVisibleByte (b : UInt8) : Bool := (32 ≤ b && b < 127) || b == 9

/-- The text of a header value of visible ASCII bytes. -/
def visibleText? (value : Bytes) : Option String :=
  if value.all isVisibleByte then
    some (String.ofList (value.map fun b => Char.ofNat b.toNat))
  else none

/-- **A list of headers**: names in lower case and values, in order. -/
abbrev Headers := List (String × Bytes)

namespace Headers

/-- The values of a name, in order. -/
def values (headers : Headers) (name : String) : List Bytes :=
  (headers.filter (·.1 = name)).map (·.2)

/-- The first value of a name. -/
def first? (headers : Headers) (name : String) : Option Bytes := headers.lookup name

/-- Add a value to those of a name. -/
def add (headers : Headers) (name : String) (value : Bytes) : Headers := headers ++ [(name, value)]

/-- Replace all values of a name by one. -/
def set (headers : Headers) (name : String) (value : Bytes) : Headers :=
  add (headers.filter (·.1 ≠ name)) name value

/-- Replace the values of each name that the other list has. -/
def setAll (headers more : Headers) : Headers :=
  headers.filter (fun h => !more.any (·.1 = h.1)) ++ more

/-- Set a value unless the name has one. -/
def setDefault (headers : Headers) (name : String) (value : Bytes) : Headers :=
  if headers.any (·.1 = name) then headers else headers.add name value

/-- The headers in the order of their names; values of one name keep their order. -/
def sorted (headers : Headers) : Headers := headers.mergeSort fun a b => a.1 ≤ b.1

/-- The headers by names in the order of first appearance; values of one name keep their order. -/
def grouped (headers : Headers) : Headers :=
  (headers.map (·.1)).eraseDups.flatMap fun name => headers.filter (·.1 = name)

end Headers

end HttpQuery
