import HttpQuery.Text.Utf8
/-! # Units of 16 bits

In UTF-16 a character takes one unit of two bytes or, as a pair of a high and a low surrogate, two
units. A surrogate without its partner is a fault. What is missing at the end, a byte or a low
surrogate or both, is one fault.

* `decodeUnits`: the characters of some bytes. -/

namespace HttpQuery.Text

/-- The unit of two bytes. -/
def unitOf (littleEndian : Bool) (a b : UInt8) : Nat :=
  if littleEndian then b.toNat * 256 + a.toNat else a.toNat * 256 + b.toNat

/-- Whether a unit opens a pair. -/
def isHighSurrogate (unit : Nat) : Bool := 0xD800 ≤ unit && unit ≤ 0xDBFF

/-- Whether a unit closes a pair. -/
def isLowSurrogate (unit : Nat) : Bool := 0xDC00 ≤ unit && unit ≤ 0xDFFF

/-- The character of a pair. -/
def pairedChar (high low : Nat) : Char :=
  Char.ofNat (0x10000 + (high - 0xD800) * 0x400 + (low - 0xDC00))

/-- **The characters of bytes in UTF-16.** -/
def decodeUnits (littleEndian : Bool) : Bytes → List Char
  | [] => []
  | [_] => [faultMark]
  | a :: b :: rest =>
    let unit := unitOf littleEndian a b
    if isHighSurrogate unit then
      match rest with
      | c :: d :: more =>
        let next := unitOf littleEndian c d
        if isLowSurrogate next then pairedChar unit next :: decodeUnits littleEndian more
        else faultMark :: decodeUnits littleEndian (c :: d :: more)
      | _ => [faultMark]
    else (if isLowSurrogate unit then faultMark else Char.ofNat unit) ::
      decodeUnits littleEndian rest

end HttpQuery.Text
