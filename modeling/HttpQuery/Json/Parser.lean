import HttpQuery.Json.Error
import HttpQuery.Json.Value
import HttpQuery.Text.Digits
/-! # Reading JSON

A text is read from left to right. Arrays and objects may be nested 127 deep. Integers that fit into
64 bits with or without a sign are exact. Other numbers are rounded: the digits that fit into 64
bits make a significand, which is rounded to floating point and then multiplied with, or divided by,
a power of ten; so the last digit of a long number may differ from that of the nearest value.

* `Json.parse`: the value of a text, or its first fault. -/

namespace HttpQuery

open Text

namespace Json

/-- What is left of a text, and where it starts. -/
structure Cursor where
  rest : List Char
  position : TextPosition := {}

/-- A step of the reader: a result and what is left. -/
abbrev Reader (α : Type) := Cursor → Except JsonError (α × Cursor)

namespace Cursor

/-- A fault at the bytes read so far. -/
def fail {α : Type} (c : Cursor) (fault : JsonFault) : Except JsonError α :=
  .error ⟨fault, c.position⟩

/-- A fault at the byte that comes next. -/
def failAhead {α : Type} (c : Cursor) (fault : JsonFault) : Except JsonError α :=
  .error ⟨fault, c.position.after 1 c.rest⟩

/-- A fault a number of bytes further. -/
def failAfter {α : Type} (c : Cursor) (bytes : Nat) (fault : JsonFault) : Except JsonError α :=
  .error ⟨fault, c.position.after bytes c.rest⟩

/-- The place after the next character. -/
def advance (c : Cursor) : Cursor :=
  match c.rest with
  | [] => c
  | d :: ds => ⟨ds, c.position.after d.utf8Size c.rest⟩

/-- The place after some characters. -/
def advanceBy (c : Cursor) : Nat → Cursor
  | 0 => c
  | n + 1 => c.advance.advanceBy n

end Cursor

/-- Whether a character may stand between the parts of a text. -/
def isSpace (c : Char) : Bool := c = ' ' || c = '\n' || c = '\t' || c = '\r'

/-- The place after leading spaces. -/
def skipSpaces (c : Cursor) : Cursor := c.advanceBy (c.rest.takeWhile isSpace).length

/-- Reads the rest of one of the three words, of which the first letter is read. -/
def readWord (value : Json) : List Char → Reader Json
  | [], c => .ok (value, c)
  | w :: ws, c =>
    match c.rest with
    | [] => c.fail .endInValue
    | d :: _ => if d = w then readWord value ws c.advance else c.failAfter 1 .expectedIdent

/-! ### Numbers -/

/-- The largest number of 64 bits. -/
def maxNatural : Nat := Nat.pow 2 64 - 1

/-- The value of a significand times a power of ten, rounded step by step; `fuel` bounds the number
of divisions, after three of which the value is zero. -/
def scaled : Nat → Binary64 → Int → Option Binary64
  | 0, x, _ => some x
  | fuel + 1, x, e =>
    if 0 ≤ e ∧ e ≤ 308 then
      let y := x.scaleUp e.toNat
      if y.isFinite then some y else none
    else if -308 ≤ e ∧ e < 0 then some (x.scaleDown (-e).toNat)
    else if x.significand = 0 then some x
    else if 0 ≤ e then none
    else scaled fuel (x.scaleDown 308) (e + 308)

/-- The number with this sign, significand and power of ten. -/
def finishReal (positive : Bool) (significand : Nat) (e : Int) : Reader JsonNumber := fun c =>
  match scaled 5 (Binary64.ofNat significand) e with
  | none => c.fail .numberOutOfRange
  | some x => .ok (.real (if positive then x else x.neg), c)

/-- The place after leading digits. -/
def skipDigits (c : Cursor) : Cursor := c.advanceBy (c.rest.takeWhile Char.isDigit).length

/-- The largest exponent that is read as a number. -/
def maxExponent : Nat := Nat.pow 2 31 - 1

/-- The digits of an exponent after others of value `e`; `none` if it gets too large. -/
def readExponentDigits (e : Nat) : List Char → Nat → Option Nat × Nat
  | [], n => (some e, n)
  | d :: ds, n =>
    match digitValue? d with
    | none => (some e, n)
    | some v =>
      if e * 10 + v ≤ maxExponent then readExponentDigits (e * 10 + v) ds (n + 1) else (none, n + 1)

/-- Reads an exponent, of which the letter comes next. -/
def readExponent (positive : Bool) (significand : Nat) (start : Int) : Reader JsonNumber := fun c =>
  let c := c.advance
  let (up, c) : Bool × Cursor :=
    match c.rest with
    | '+' :: _ => (true, c.advance)
    | '-' :: _ => (false, c.advance)
    | _ => (true, c)
  match c.rest with
  | [] => c.fail .endInValue
  | d :: ds =>
    match digitValue? d with
    | none => c.failAfter 1 .invalidNumber
    | some v =>
      match readExponentDigits v ds 1 with
      | (some e, n) =>
        let total := if up then start + e else start - e
        finishReal positive significand total (c.advanceBy n)
      | (none, n) =>
        let c := c.advanceBy n
        if significand ≠ 0 ∧ up then c.fail .numberOutOfRange
        else
          let zero : Binary64 := ⟨0⟩
          .ok (.real (if positive then zero else zero.neg), skipDigits c)

/-- Reads an exponent, if one follows. -/
def readOptionalExponent (positive : Bool) (significand : Nat) (e : Int) :
    Reader JsonNumber := fun c =>
  match c.rest with
  | 'e' :: _ => readExponent positive significand e c
  | 'E' :: _ => readExponent positive significand e c
  | _ => finishReal positive significand e c

/-- The digits after the point as far as the significand fits: the significand, how many digits were
taken, and whether a digit was refused. -/
def fractionDigits (significand taken : Nat) : List Char → Nat × Nat × Bool
  | [] => (significand, taken, false)
  | d :: ds =>
    match digitValue? d with
    | none => (significand, taken, false)
    | some v =>
      if significand * 10 + v ≤ maxNatural then fractionDigits (significand * 10 + v) (taken + 1) ds
      else (significand, taken, true)

/-- Reads the digits after the point, which comes next. The digits that do not fit into the
significand are dropped. -/
def readFraction (positive : Bool) (significand : Nat) (start : Int) : Reader JsonNumber := fun c =>
  let c := c.advance
  let (significand, taken, refused) := fractionDigits significand 0 c.rest
  let c := c.advanceBy taken
  if refused then readOptionalExponent positive significand (start - taken) (skipDigits c)
  else if taken = 0 then
    match c.rest with
    | [] => c.failAhead .endInValue
    | _ => c.failAhead .invalidNumber
  else readOptionalExponent positive significand (start - taken) c

/-- The digits of an integer after others: its value as far as it fits, how many digits were taken,
and whether a digit was refused. -/
def integerDigits (value taken : Nat) : List Char → Nat × Nat × Bool
  | [] => (value, taken, false)
  | d :: ds =>
    match digitValue? d with
    | none => (value, taken, false)
    | some v =>
      if value * 10 + v ≤ maxNatural then integerDigits (value * 10 + v) (taken + 1) ds
      else (value, taken, true)

/-- What follows the digits of an integer that fit: the digits that do not fit count as zeros. -/
def readLongInteger (positive : Bool) (significand : Nat) : Reader JsonNumber := fun c =>
  let dropped := (c.rest.takeWhile Char.isDigit).length
  let c := c.advanceBy dropped
  match c.rest with
  | '.' :: _ => readFraction positive significand dropped c
  | _ => readOptionalExponent positive significand dropped c

/-- What follows an integer that fits. -/
def readAfterInteger (positive : Bool) (value : Nat) : Reader JsonNumber := fun c =>
  match c.rest with
  | '.' :: _ => readFraction positive value 0 c
  | 'e' :: _ => readExponent positive value 0 c
  | 'E' :: _ => readExponent positive value 0 c
  | _ =>
    if positive then .ok (.integer value, c)
    else if value = 0 ∨ Nat.pow 2 63 < value then .ok (.real (Binary64.ofNat value).neg, c)
    else .ok (.integer (-value), c)

/-- Reads a number after its sign. -/
def readNumber (positive : Bool) : Reader JsonNumber := fun c =>
  match c.rest with
  | [] => c.fail .endInValue
  | d :: ds =>
    match digitValue? d with
    | none => c.failAfter 1 .invalidNumber
    | some 0 =>
      let c := c.advance
      match ds with
      | d' :: _ => if d'.isDigit then c.failAhead .invalidNumber else readAfterInteger positive 0 c
      | [] => readAfterInteger positive 0 c
    | some v =>
      let (value, taken, refused) := integerDigits v 1 ds
      let c := c.advanceBy taken
      if refused then readLongInteger positive value c else readAfterInteger positive value c

/-! ### Texts -/

/-- Whether a text has fewer than four bytes. -/
def isShort (text : List Char) : Bool :=
  (text.take 4).foldl (fun size c => size + c.utf8Size) 0 < 4

/-- Reads four hexadecimal digits. -/
def readHex : Reader Nat := fun c =>
  let invalid : Except JsonError (Nat × Cursor) :=
    if isShort c.rest then c.failAfter 4 .endInString else c.failAfter 4 .invalidEscape
  match c.rest with
  | d1 :: d2 :: d3 :: d4 :: _ =>
    match hexDigitValue? d1, hexDigitValue? d2, hexDigitValue? d3, hexDigitValue? d4 with
    | some v1, some v2, some v3, some v4 =>
      .ok (((v1 * 16 + v2) * 16 + v3) * 16 + v4, c.advanceBy 4)
    | _, _, _, _ => invalid
  | _ => invalid

/-- Reads the sign `expected` between the two halves of a character beyond U+FFFF. -/
def readHalfMark (expected : Char) (c : Cursor) : Except JsonError Cursor :=
  match c.rest with
  | [] => c.fail .endInString
  | d :: _ => if d = expected then .ok c.advance else c.failAfter 1 .unfinishedSurrogate

/-- Reads the character of an escape by number, after the letter `u`. -/
def readUnicode : Reader Char := fun c => do
  let (n, c) ← readHex c
  if 0xDC00 ≤ n ∧ n ≤ 0xDFFF then c.fail .loneSurrogate
  else if 0xD800 ≤ n ∧ n ≤ 0xDBFF then
    let c ← readHalfMark '\\' c
    let c ← readHalfMark 'u' c
    let (m, c) ← readHex c
    if 0xDC00 ≤ m ∧ m ≤ 0xDFFF then
      .ok (Char.ofNat (0x10000 + (n - 0xD800) * 0x400 + (m - 0xDC00)), c)
    else c.fail .loneSurrogate
  else .ok (Char.ofNat n, c)

/-- Reads the character of an escape, after the backslash. -/
def readEscape : Reader Char := fun c =>
  match c.rest with
  | [] => c.fail .endInString
  | '"' :: _ => .ok ('"', c.advance)
  | '\\' :: _ => .ok ('\\', c.advance)
  | '/' :: _ => .ok ('/', c.advance)
  | 'b' :: _ => .ok ('\x08', c.advance)
  | 'f' :: _ => .ok ('\x0C', c.advance)
  | 'n' :: _ => .ok ('\n', c.advance)
  | 'r' :: _ => .ok ('\r', c.advance)
  | 't' :: _ => .ok ('\t', c.advance)
  | 'u' :: _ => readUnicode c.advance
  | _ => c.failAfter 1 .invalidEscape

/-- Reads a text after its opening quote; `read` holds the characters so far, the last one first.
Each turn reads at least one character. -/
def readText : Nat → List Char → Reader String
  | 0, _, c => c.fail .endInString
  | fuel + 1, read, c =>
    match c.rest with
    | [] => c.fail .endInString
    | '"' :: _ => .ok (String.ofList read.reverse, c.advance)
    | '\\' :: _ => do
      let (d, c) ← readEscape c.advance
      readText fuel (d :: read) c
    | d :: _ =>
      if d.toNat < 0x20 then c.failAfter 1 .controlCharacter
      else readText fuel (d :: read) c.advance

/-! ### Values -/

/-- Reads the colon after a key. -/
def readColon (c : Cursor) : Except JsonError Cursor :=
  let c := skipSpaces c
  match c.rest with
  | ':' :: _ => .ok c.advance
  | [] => c.failAhead .endInObject
  | _ => c.failAhead .expectedColon

mutual

/-- Reads a value. `depth` is the number of levels that may still be opened, plus one; `fuel` bounds
the number of turns, of which every second one reads a character, and the length of a text. -/
def readValue : Nat → Nat → Reader Json
  | 0, _, c => c.fail .endInValue
  | fuel + 1, depth, c =>
    let c := skipSpaces c
    match c.rest with
    | [] => c.failAhead .endInValue
    | 'n' :: _ => readWord .null ['u', 'l', 'l'] c.advance
    | 't' :: _ => readWord (.bool true) ['r', 'u', 'e'] c.advance
    | 'f' :: _ => readWord (.bool false) ['a', 'l', 's', 'e'] c.advance
    | '-' :: _ => do
      let (n, c) ← readNumber false c.advance
      .ok (.number n, c)
    | '"' :: _ => do
      let (s, c) ← readText fuel [] c.advance
      .ok (.string s, c)
    | '[' :: _ =>
      if depth ≤ 1 then c.failAhead .tooDeep else readItems fuel (depth - 1) true [] c.advance
    | '\x7b' :: _ =>
      if depth ≤ 1 then c.failAhead .tooDeep else readMembers fuel (depth - 1) true .empty c.advance
    | d :: _ =>
      if d.isDigit then do
        let (n, c) ← readNumber true c
        .ok (.number n, c)
      else c.failAhead .expectedValue

/-- Reads the items of an array from here on; `read` holds those before, the last one first. -/
def readItems : Nat → Nat → Bool → List Json → Reader Json
  | 0, _, _, _, c => c.fail .endInList
  | fuel + 1, depth, first, read, c =>
    let c := skipSpaces c
    match c.rest with
    | [] => c.failAhead .endInList
    | ']' :: _ => .ok (.array read.reverse, c.advance)
    | d :: _ =>
      if first then do
        let (v, c) ← readValue fuel depth c
        readItems fuel depth false (v :: read) c
      else if d = ',' then
        let c := skipSpaces c.advance
        match c.rest with
        | [] => c.failAhead .endInValue
        | ']' :: _ => c.failAhead .trailingComma
        | _ => do
          let (v, c) ← readValue fuel depth c
          readItems fuel depth false (v :: read) c
      else c.failAhead .expectedListEnd

/-- Reads the members of an object from here on; `read` holds those before. -/
def readMembers : Nat → Nat → Bool → KeyMap Json → Reader Json
  | 0, _, _, _, c => c.fail .endInObject
  | fuel + 1, depth, first, read, c =>
    let c := skipSpaces c
    match c.rest with
    | [] => c.failAhead .endInObject
    | '\x7d' :: _ => .ok (.ofMap read, c.advance)
    | d :: _ =>
      if first then
        if d = '"' then readMember fuel depth read c else c.failAhead .keyNotString
      else if d = ',' then
        let c := skipSpaces c.advance
        match c.rest with
        | [] => c.failAhead .endInValue
        | '"' :: _ => readMember fuel depth read c
        | '\x7d' :: _ => c.failAhead .trailingComma
        | _ => c.failAhead .keyNotString
      else c.failAhead .expectedObjectEnd

/-- Reads a member, whose key comes next, and those after it. -/
def readMember : Nat → Nat → KeyMap Json → Reader Json
  | 0, _, _, c => c.fail .endInObject
  | fuel + 1, depth, read, c => do
    let (key, c) ← readText fuel [] c.advance
    let c ← readColon c
    let (value, c) ← readValue fuel depth c
    readMembers fuel depth false (read.insert key value) c

end

/-- The number of levels that may be opened, plus one. -/
def maxDepth : Nat := 128

/-- **The value of a JSON text**, or its first fault. -/
def parse (text : String) : Except JsonError Json := do
  let start : Cursor := ⟨text.toList, {}⟩
  let (value, c) ← readValue (3 * start.rest.length + 3) maxDepth start
  let c := skipSpaces c
  match c.rest with
  | [] => .ok value
  | _ => c.failAhead .trailingCharacters

end Json

end HttpQuery
