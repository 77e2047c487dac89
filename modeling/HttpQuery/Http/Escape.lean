import HttpQuery.Text.Digits
import HttpQuery.Text.Utf8
/-! # Escapes in URLs

A character that cannot stand in a part of a URL is written by its bytes, each as `%` and two
hexadecimal digits.

* `percentEncode`, `percentDecode`: a text with escapes, and the bytes that it stands for. -/

namespace HttpQuery

open Text

/-- Upper-case hexadecimal digits of a byte. -/
def hexByte (b : UInt8) : List Char :=
  let digit (n : Nat) : Char := (Nat.digitChar n).toUpper
  [digit (b.toNat / 16), digit (b.toNat % 16)]

/-- Whether a character is a control character or is not ASCII. -/
def isOutsideAscii (c : Char) : Bool := c.toNat < 0x20 || 0x7E < c.toNat

/-- Replaces the characters of a set, and those that are not printable ASCII, by `%xx` for each of
their bytes. -/
def percentEncode (inSet : Char → Bool) (text : List Char) : List Char :=
  text.flatMap fun c =>
    if isOutsideAscii c || inSet c then (String.utf8EncodeChar c).flatMap fun b => '%' :: hexByte b
    else [c]

/-- Resolves the escapes `%xx`; any other character stands for its bytes. -/
def percentDecode : List Char → Bytes
  | [] => []
  | '%' :: a :: b :: cs =>
    match hexDigitValue? a, hexDigitValue? b with
    | some x, some y => (x * 16 + y).toUInt8 :: percentDecode cs
    | _, _ => 0x25 :: percentDecode (a :: b :: cs)
  | c :: cs => String.utf8EncodeChar c ++ percentDecode cs
termination_by cs => cs.length

end HttpQuery
