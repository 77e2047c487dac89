/-! # Texts as bytes

A text is sent as its UTF-8 bytes. Bytes that are read need not be UTF-8: a sequence starts with a
byte that tells its length and the bounds of the second byte, and the further bytes lie between 80
and BF. Where a sequence breaks off, the bytes of it that were right are taken together as one
fault.

* `utf8Bytes`: the bytes of a text.
* `decodeUtf8?`: the text of bytes that are UTF-8.
* `decodeUtf8`: the text of any bytes, with U+FFFD for each fault. -/

namespace HttpQuery.Text

/-- Bytes, as they are sent and received. -/
abbrev Bytes := List UInt8

/-- The character that stands for a fault. -/
abbrev faultMark : Char := '\uFFFD'

/-- **The UTF-8 bytes of a text.** -/
def utf8Bytes (text : String) : Bytes := text.toList.flatMap String.utf8EncodeChar

/-- What a first byte says: how many bytes follow, the bounds of the second one, and the bits that
the first one gives. -/
def sequenceStart (b : Nat) : Option (Nat × Nat × Nat × Nat) :=
  if b < 0x80 then some (0, 0x80, 0xBF, b)
  else if 0xC2 ≤ b ∧ b ≤ 0xDF then some (1, 0x80, 0xBF, b - 0xC0)
  else if b = 0xE0 then some (2, 0xA0, 0xBF, 0)
  else if b = 0xED then some (2, 0x80, 0x9F, 0xD)
  else if 0xE1 ≤ b ∧ b ≤ 0xEF then some (2, 0x80, 0xBF, b - 0xE0)
  else if b = 0xF0 then some (3, 0x90, 0xBF, 0)
  else if b = 0xF4 then some (3, 0x80, 0x8F, 4)
  else if 0xF1 ≤ b ∧ b ≤ 0xF3 then some (3, 0x80, 0xBF, b - 0xF0)
  else none

/-- A sequence that is being read: how many bytes are missing, the bounds of the next one, and the
bits so far. -/
structure OpenSequence where
  missing : Nat
  low : Nat
  high : Nat
  bits : Nat

/-- The characters of bytes that come after an open sequence, if one is open; `none` stands for a
fault. -/
def decodeAfter : Option OpenSequence → Bytes → List (Option Char)
  | none, [] => []
  | some _, [] => [none]
  | sequence, byte :: bytes =>
    let b := byte.toNat
    let start (faults : List (Option Char)) : List (Option Char) :=
      match sequenceStart b with
      | none => faults ++ none :: decodeAfter none bytes
      | some (0, _, _, bits) => faults ++ some (Char.ofNat bits) :: decodeAfter none bytes
      | some (missing, low, high, bits) =>
        faults ++ decodeAfter (some ⟨missing, low, high, bits⟩) bytes
    match sequence with
    | none => start []
    | some s =>
      if s.low ≤ b ∧ b ≤ s.high then
        let bits := s.bits * 64 + (b - 0x80)
        if s.missing ≤ 1 then some (Char.ofNat bits) :: decodeAfter none bytes
        else decodeAfter (some ⟨s.missing - 1, 0x80, 0xBF, bits⟩) bytes
      else start [none]

/-- **The text of bytes that are UTF-8.** -/
def decodeUtf8? (bytes : Bytes) : Option String :=
  ((decodeAfter none bytes).mapM id).map String.ofList

/-- The characters of any bytes, with U+FFFD for each fault. -/
def decodeUtf8Chars (bytes : Bytes) : List Char :=
  (decodeAfter none bytes).map fun c => c.getD faultMark

/-- **The text of any bytes**, with U+FFFD for each fault. -/
def decodeUtf8 (bytes : Bytes) : String := String.ofList (decodeUtf8Chars bytes)

end HttpQuery.Text
