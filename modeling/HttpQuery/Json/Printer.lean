import HttpQuery.Decimal.Shortest
import HttpQuery.Json.Value
/-! # JSON as text

Two forms are written: the compact one without any blanks, and the indented one with two spaces for
each level and a line for each item. In texts only the quote, the backslash and the control
characters below U+0020 are escaped. Floating-point numbers have the fewest digits that read back;
the decimal point is written for exponents of the first digit from -5 to 15, and an exponent
otherwise.

* `Json.compact`: the compact form.
* `Json.indented`: the indented form. -/

namespace HttpQuery

namespace Json

/-- A hexadecimal digit in lower case. -/
def hexDigit (n : Nat) : Char := Nat.digitChar n

/-- A character within a quoted text. -/
def escapeChar (c : Char) : List Char :=
  if c = '"' then ['\\', '"']
  else if c = '\\' then ['\\', '\\']
  else if c = '\x08' then ['\\', 'b']
  else if c = '\x0C' then ['\\', 'f']
  else if c = '\n' then ['\\', 'n']
  else if c = '\r' then ['\\', 'r']
  else if c = '\t' then ['\\', 't']
  else if c.toNat < 0x20 then
    ['\\', 'u', '0', '0', hexDigit (c.toNat / 16), hexDigit (c.toNat % 16)]
  else [c]

/-- A text in quotes. -/
def quote (text : String) : String :=
  "\"" ++ String.ofList (text.toList.flatMap escapeChar) ++ "\""

/-! ### Numbers -/

/-- Some zeros. -/
def zeros (n : Nat) : List Char := List.replicate n '0'

/-- Digits with a decimal point after the first `n` of them, and one zero after the point if no
digit is left. -/
def withPoint (digits : List Char) (n : Nat) : List Char :=
  digits.take n ++ '.' :: (if digits.length ≤ n then ['0'] else digits.drop n)

/-- **The layout of a decimal**, by the exponent `e` of its first digit. -/
def layout (d : Decimal) : List Char :=
  let digits := Nat.toDigits 10 d.digits
  let e : Int := d.scale + digits.length - 1
  if 0 ≤ e ∧ e ≤ 15 then
    let n := e.toNat + 1
    withPoint (digits ++ zeros (n - digits.length)) n
  else if -5 ≤ e ∧ e < 0 then '0' :: '.' :: zeros ((-e).toNat - 1) ++ digits
  else
    (if digits.length ≤ 1 then digits else withPoint digits 1) ++ 'e' ::
      (if 0 < e then '+' else '-') :: Nat.toDigits 10 e.natAbs

/-- The text of a finite floating-point number. -/
def realText (x : Binary64) : String :=
  (if x.isNegative then "-" else "") ++
    (if x.significand = 0 then "0.0" else String.ofList (layout x.shortest))

/-- The text of a number. -/
def numberText : JsonNumber → String
  | .integer n => toString n
  | .real x => realText x

/-! ### The two forms -/

mutual

/-- **The compact form.** -/
def compact : Json → String
  | .null => "null"
  | .bool true => "true"
  | .bool false => "false"
  | .number n => numberText n
  | .string s => quote s
  | .array [] => "[]"
  | .array (item :: items) => "[" ++ compact item ++ compactItems items
  | .object [] => "\x7b\x7d"
  | .object (member :: members) => "\x7b" ++ compactMember member ++ compactMembers members

/-- The items after the first, and the closing bracket. -/
def compactItems : List Json → String
  | [] => "]"
  | item :: items => "," ++ compact item ++ compactItems items

/-- A key and its value. -/
def compactMember : String × Json → String
  | (key, value) => quote key ++ ":" ++ compact value

/-- The members after the first, and the closing brace. -/
def compactMembers : List (String × Json) → String
  | [] => "\x7d"
  | member :: members => "," ++ compactMember member ++ compactMembers members

end

/-- The start of a line at a level. -/
def newLine (level : Nat) : String := "\n" ++ String.ofList (List.replicate (2 * level) ' ')

mutual

/-- The indented form of a value that starts at a level. -/
def indentedAt (level : Nat) : Json → String
  | .null => "null"
  | .bool true => "true"
  | .bool false => "false"
  | .number n => numberText n
  | .string s => quote s
  | .array [] => "[]"
  | .array (item :: items) =>
    "[" ++ newLine (level + 1) ++ indentedAt (level + 1) item ++ indentedItems level items
  | .object [] => "\x7b\x7d"
  | .object (member :: members) =>
    "\x7b" ++ newLine (level + 1) ++ indentedMember (level + 1) member ++
      indentedMembers level members

/-- The items after the first, and the closing bracket. -/
def indentedItems (level : Nat) : List Json → String
  | [] => newLine level ++ "]"
  | item :: items =>
    "," ++ newLine (level + 1) ++ indentedAt (level + 1) item ++ indentedItems level items

/-- A key and its value. -/
def indentedMember (level : Nat) : String × Json → String
  | (key, value) => quote key ++ ": " ++ indentedAt level value

/-- The members after the first, and the closing brace. -/
def indentedMembers (level : Nat) : List (String × Json) → String
  | [] => newLine level ++ "\x7d"
  | member :: members =>
    "," ++ newLine (level + 1) ++ indentedMember (level + 1) member ++ indentedMembers level members

end

/-- **The indented form**, with two spaces for each level. -/
def indented (value : Json) : String := indentedAt 0 value

end Json

end HttpQuery
