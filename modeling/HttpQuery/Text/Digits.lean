/-! # Digits

Digits of a base up to sixteen, and the numbers that they write.

* `digitValue?`, `hexDigitValue?`, `digitInBase?`: the value of a digit.
* `ofDigits`: the number of some values of digits, most significant first.
* `valueInBase`: the number of some digits. -/

namespace HttpQuery.Text

/-- The value of a decimal digit. -/
def digitValue? (c : Char) : Option Nat := if c.isDigit then some (c.toNat - '0'.toNat) else none

/-- The value of a hexadecimal digit. -/
def hexDigitValue? (c : Char) : Option Nat :=
  if 'a' ≤ c ∧ c ≤ 'f' then some (c.toNat - 'a'.toNat + 10)
  else if 'A' ≤ c ∧ c ≤ 'F' then some (c.toNat - 'A'.toNat + 10)
  else digitValue? c

/-- The value of a digit in a base. -/
def digitInBase? (base : Nat) (c : Char) : Option Nat := (hexDigitValue? c).filter (· < base)

/-- The number of some digits, given by their values. -/
def ofDigits (base : Nat) (digits : List Nat) : Nat := digits.foldl (fun n d => n * base + d) 0

/-- The number of some digits in a base; `none` if a character is no digit. -/
def valueInBase (base : Nat) (digits : List Char) : Option Nat :=
  (digits.mapM (digitInBase? base)).map (ofDigits base)

end HttpQuery.Text
