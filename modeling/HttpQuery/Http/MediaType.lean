import HttpQuery.Http.Header
/-! # Media types

A media type is written as a type and a subtype with a slash between them, and parameters after
semicolons. A value is a token or stands in quotation marks; the first character after the opening
mark never closes it. Blanks may stand before a parameter and after a closing mark only. A value
without marks may be empty at the very end only.

* `MediaType.ofText?`: the media type of a text.
* `MediaType.parameter?`: the value of a parameter. -/

namespace HttpQuery

/-- **A media type.** -/
structure MediaType where
  /-- What stands before the slash. -/
  main : String
  /-- What stands after the slash. -/
  sub : String
  parameters : List (String × String)
deriving DecidableEq, Repr

namespace MediaType

/-- Characters that may stand between quotation marks. -/
def isQuotable (c : Char) : Bool := 32 ≤ c.toNat && c.toNat != 127

/-- The value that some text starts with after its opening quotation mark, and what follows the
closing mark and the blanks after it. -/
def quotedValue? : List Char → Option (List Char × List Char)
  | [] => none
  | c :: cs =>
    let value := c :: cs.takeWhile (· != '"')
    match cs.dropWhile (· != '"') with
    | [] => none
    | _ :: rest =>
      if value.all isQuotable then some (value, rest.dropWhile (· = ' ')) else none

/-- The value of a parameter, and what follows it. -/
def value? : List Char → Option (List Char × List Char)
  | '"' :: cs => quotedValue? cs
  | cs =>
    let value := cs.takeWhile isTokenChar
    match cs.dropWhile isTokenChar with
    | [] => some (value, [])
    | rest => if value = [] then none else some (value, rest)

/-- Reads parameters; every turn reads at least one character. -/
def readParameters? : Nat → List Char → Option (List (String × String))
  | 0, _ => none
  | _ + 1, [] => some []
  | fuel + 1, ' ' :: cs => readParameters? fuel cs
  | fuel + 1, cs =>
    let name := cs.takeWhile isTokenChar
    match cs.dropWhile isTokenChar with
    | '=' :: rest => do
      let (value, rest) ← value? rest
      if name = [] then none
      else
        let parameter := (String.ofList (name.map Char.toLower), String.ofList value)
        match rest with
        | [] => return [parameter]
        | ';' :: rest => return parameter :: (← readParameters? fuel rest)
        | _ => none
    | _ => none

/-- **The media type of a text.** -/
def ofText? (text : String) : Option MediaType :=
  let main := text.toList.takeWhile isTokenChar
  match text.toList.dropWhile isTokenChar with
  | '/' :: rest =>
    let sub := rest.takeWhile isTokenChar
    let written (parameters : List (String × String)) : MediaType :=
      ⟨String.ofList main, String.ofList sub, parameters⟩
    if main = [] then none
    else
      match rest.dropWhile isTokenChar with
      | [] => some (written [])
      | ';' :: rest =>
        if sub = [] then none else (readParameters? (rest.length + 1) rest).map written
      | _ => none
  | _ => none

/-- The first value of a parameter by its name in lower case. -/
def parameter? (m : MediaType) (name : String) : Option String := m.parameters.lookup name

end MediaType

end HttpQuery
