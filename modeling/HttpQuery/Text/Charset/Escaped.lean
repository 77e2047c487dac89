import HttpQuery.Text.Charset.Pairs
/-! # Charsets with escapes

In the Japanese charset of seven bits an escape sequence tells how the bytes after it are read: as
ASCII, as its Roman variant, as half-width kana, or in pairs as places in JIS X 0208. An escape
right after another one is a fault, and so is an escape that begins no such sequence; what follows
the latter is read as before.

* `decodeEscaped`: the characters of some bytes. -/

namespace HttpQuery.Text

/-- How bytes are read. -/
inductive EscapedMode where
  | ascii
  | roman
  | kana
  | places
deriving DecidableEq, Repr

/-- The mode that the bytes after an escape begin with, and what follows them. -/
def escapeSequence? : Bytes → Option (EscapedMode × Bytes)
  | 0x28 :: 0x42 :: rest => some (.ascii, rest)
  | 0x28 :: 0x4A :: rest => some (.roman, rest)
  | 0x28 :: 0x49 :: rest => some (.kana, rest)
  | 0x24 :: 0x40 :: rest => some (.places, rest)
  | 0x24 :: 0x42 :: rest => some (.places, rest)
  | _ => none

/-- The character of a byte in a mode of single bytes. -/
def escapedChar? (mode : EscapedMode) (b : UInt8) : Option Char :=
  match mode with
  | .ascii => if isAsciiByte b && b != 0x0E && b != 0x0F then some (Char.ofNat b.toNat) else none
  | .roman =>
    if b = 0x5C then some '¥'
    else if b = 0x7E then some '\u203E'
    else if isAsciiByte b && b != 0x0E && b != 0x0F then some (Char.ofNat b.toNat)
    else none
  | .kana => if isWithin 0x21 0x5F b then some (Char.ofNat (0xFF61 + (b.toNat - 0x21))) else none
  | .places => none

/-- Whether a byte is one of a place. -/
def isEscapedPlaceByte (b : UInt8) : Bool := isWithin 0x21 0x7E b

/-- The characters of some bytes in a mode; `escaped` tells whether an escape sequence stands right
before them. Every turn reads at least one byte. -/
def decodeEscapedFrom : Nat → EscapedMode → Bool → Bytes → List Char
  | 0, _, _, _ => []
  | _ + 1, _, _, [] => []
  | fuel + 1, mode, escaped, b :: rest =>
    if b = 0x1B then
      match escapeSequence? rest with
      | some (next, more) =>
        if escaped then faultMark :: decodeEscapedFrom fuel next true more
        else decodeEscapedFrom fuel next true more
      | none => faultMark :: decodeEscapedFrom fuel mode false rest
    else if mode = .places ∧ isEscapedPlaceByte b then
      match rest with
      | [] => [faultMark]
      | second :: more =>
        if second = 0x1B then faultMark :: decodeEscapedFrom fuel mode false (second :: more)
        else if isEscapedPlaceByte second then
          (cell? jisTable (b.toNat - 0x21) (second.toNat - 0x21)).getD faultMark ::
            decodeEscapedFrom fuel mode false more
        else faultMark :: decodeEscapedFrom fuel mode false more
    else (escapedChar? mode b).getD faultMark :: decodeEscapedFrom fuel mode false rest

/-- **The characters of bytes in the Japanese charset with escapes.** -/
def decodeEscaped (bytes : Bytes) : List Char :=
  decodeEscapedFrom (bytes.length + 1) .ascii false bytes

end HttpQuery.Text
