import HttpQuery.Http.Header
import HttpQuery.Text.Digits
/-! # Heads of responses

The head of a response is a status line, the header lines, and an empty line. A line ends with a
line feed, which a carriage return may precede; empty lines before the status line are skipped. The
phrase after the status is not kept, and neither are the blanks around a value.

* `readHead?`: the head at the start of some bytes, and the bytes after it. -/

namespace HttpQuery

open Text

/-- **The head of a response.** -/
structure Head where
  /-- The digit of the version after `HTTP/1.`. -/
  minorVersion : Nat
  status : Nat
  headers : Headers

/-- A line without its end, and what follows it; a carriage return stands only at the end. -/
def splitLine? (bytes : Bytes) : Option (Bytes × Bytes) :=
  let inLine (b : UInt8) : Bool := b != 10 && b != 13
  match bytes.dropWhile inLine with
  | 10 :: rest => some (bytes.takeWhile inLine, rest)
  | 13 :: 10 :: rest => some (bytes.takeWhile inLine, rest)
  | _ => none

/-- What follows the empty lines at the start. -/
def skipEmptyLines : Bytes → Bytes
  | 10 :: rest => skipEmptyLines rest
  | 13 :: 10 :: rest => skipEmptyLines rest
  | bytes => bytes

/-- The status of three digits, if it is at least 100. -/
def statusOfDigits? (digits : List UInt8) : Option Nat := do
  let n ← valueInBase 10 (digits.map fun b => Char.ofNat b.toNat)
  if 100 ≤ n then some n else none

/-- The version and the status of a status line; there may be no phrase. -/
def statusLine? (line : Bytes) : Option (Nat × Nat) :=
  if (utf8Bytes "HTTP/1.").isPrefixOf line then
    match line.drop 7 with
    | version :: 32 :: a :: b :: c :: phrase => do
      let minor ← if version = 48 then some 0 else if version = 49 then some 1 else none
      let status ← statusOfDigits? [a, b, c]
      if (phrase.head?.all (· = 32)) && phrase.all isValueByte then some (minor, status) else none
    | _ => none
  else none

/-- A value without the blanks around it. -/
def trimValue (value : Bytes) : Bytes :=
  let blank (b : UInt8) : Bool := b == 32 || b == 9
  ((value.dropWhile blank).reverse.dropWhile blank).reverse

/-- The bytes of a name in a header line, which is a token. -/
def isTokenByte (b : UInt8) : Bool := isTokenChar (Char.ofNat b.toNat)

/-- The name and the value of a header line. -/
def headerLine? (line : Bytes) : Option (String × Bytes) :=
  match line.dropWhile isTokenByte with
  | 58 :: value => do
    let letters := (line.takeWhile isTokenByte).map fun b => Char.ofNat b.toNat
    let name ← headerName? (String.ofList letters)
    if (trimValue value).all isValueByte then some (name, trimValue value) else none
  | _ => none

/-- The largest number of headers in a head. -/
def maxHeaders : Nat := 100

/-- The headers at the start of some bytes, at most `limit` of them, and what follows the empty line
after them. -/
def readHeaders? (limit : Nat) (bytes : Bytes) : Option (Headers × Bytes) := do
  let (line, rest) ← splitLine? bytes
  if line = [] then some ([], rest)
  else
    match limit with
    | 0 => none
    | n + 1 => do
      let header ← headerLine? line
      let (headers, rest) ← readHeaders? n rest
      return (header :: headers, rest)

/-- **The head at the start of some bytes**, and the bytes after it. -/
def readHead? (bytes : Bytes) : Option (Head × Bytes) := do
  let (line, rest) ← splitLine? (skipEmptyLines bytes)
  let (minor, status) ← statusLine? line
  let (headers, rest) ← readHeaders? maxHeaders rest
  return (⟨minor, status, headers⟩, rest)

end HttpQuery
