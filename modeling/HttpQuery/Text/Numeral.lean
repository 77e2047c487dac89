import HttpQuery.Text.Digits
/-! # Unsigned numerals of 64 bits

A numeral is an optional `+` and one or more ASCII digits, and its value is below 2^64. Three things
can be wrong with a text, and they are found from left to right: it is empty, a character is no
digit, or the value of the digits read so far does not fit. -/

namespace HttpQuery.Text

/-- Why a text is no numeral of 64 bits. -/
inductive NumeralError where
  | empty
  | invalidDigit
  | tooLarge
deriving DecidableEq, Repr

/-- The wording of each cause. -/
def NumeralError.message : NumeralError → String
  | .empty => "cannot parse integer from empty string"
  | .invalidDigit => "invalid digit found in string"
  | .tooLarge => "number too large to fit in target type"

/-- Reads digits after others whose value is `value`. At each character the digit is checked first
and the size second. -/
def readDigits (value : Nat) : List Char → Except NumeralError Nat
  | [] => .ok value
  | c :: cs =>
    match digitValue? c with
    | none => .error .invalidDigit
    | some d =>
      if value * 10 + d < Nat.pow 2 64 then readDigits (value * 10 + d) cs else .error .tooLarge

/-- **The value of a numeral**: an optional `+`, then at least one digit. -/
def readNumeral : List Char → Except NumeralError Nat
  | [] => .error .empty
  | ['+'] => .error .invalidDigit
  | '+' :: cs => readDigits 0 cs
  | cs => readDigits 0 cs

end HttpQuery.Text
