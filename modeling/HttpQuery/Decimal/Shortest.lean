import HttpQuery.Decimal.Binary64
/-! # The shortest decimal that reads back

A binary value stands for all real numbers that round to it. Among the decimals of that interval one
with the fewest digits is selected, and of these the nearest to the value; of two equally near ones
the even one. The search compares natural numbers and never rounds.

* `Binary64.readsBack`: whether a decimal lies in the interval of a value.
* `Binary64.shortest`: the selected decimal. -/

namespace HttpQuery

/-- The decimal `digits * 10 ^ scale`. -/
structure Decimal where
  digits : Nat
  scale : Int
deriving DecidableEq, Repr

namespace Binary64

/-- Compare `a * 10 ^ i` with `b * 2 ^ j`. -/
def compareScaled (a : Nat) (i : Int) (b : Nat) (j : Int) : Ordering :=
  compare (a * Nat.pow 10 i.toNat * Nat.pow 2 (-j).toNat)
    (b * Nat.pow 2 j.toNat * Nat.pow 10 (-i).toNat)

/-- **Whether a decimal rounds to this value**: it lies between the middles towards the neighbours,
the ends included if the significand is even. -/
def readsBack (x : Binary64) (d : Decimal) : Bool :=
  let low := if x.isNarrowBelow then 4 * x.significand - 1 else 4 * x.significand - 2
  let high := 4 * x.significand + 2
  let closed := x.significand % 2 == 0
  let atLow := compareScaled d.digits d.scale low (x.exponent - 2)
  let atHigh := compareScaled d.digits d.scale high (x.exponent - 2)
  (atLow == .gt || (closed && atLow == .eq)) && (atHigh == .lt || (closed && atHigh == .eq))

/-- The least `k` for which a positive quotient is below `10 ^ k`. -/
def decimalScale (num den : Nat) : Int :=
  if den ≤ num then (Nat.toDigits 10 (num / den)).length
  else
    let j := (Nat.toDigits 10 (den / num)).length
    if den ≤ num * Nat.pow 10 (j - 1) then 2 - (j : Int) else 1 - (j : Int)

/-- The decimals next to a quotient on the grid of the multiples of `10 ^ scale`, the nearer one
first. -/
def neighbours (num den : Nat) (scale : Int) : List Decimal :=
  let a := num * Nat.pow 10 (-scale).toNat
  let b := den * Nat.pow 10 scale.toNat
  let below := a / b
  let distance := a % b
  if 2 * distance < b ∨ (2 * distance = b ∧ below % 2 = 0) then
    [⟨below, scale⟩, ⟨below + 1, scale⟩]
  else [⟨below + 1, scale⟩, ⟨below, scale⟩]

/-- A decimal without trailing zeros among its digits; `fuel` bounds how many are dropped. -/
def withoutZeros : Nat → Decimal → Decimal
  | 0, d => d
  | fuel + 1, d =>
    if d.digits % 10 = 0 ∧ d.digits ≠ 0 then withoutZeros fuel ⟨d.digits / 10, d.scale + 1⟩ else d

/-- **The shortest decimal that reads back**, for a positive finite value: the grids of one digit,
two digits, and so on are searched in turn; seventeen digits always suffice. -/
def shortest (x : Binary64) : Decimal :=
  let num := x.significand * Nat.pow 2 x.exponent.toNat
  let den := Nat.pow 2 (-x.exponent).toNat
  let k := decimalScale num den
  let found := (List.range 17).findSome? fun n =>
    (neighbours num den (k - (n + 1 : Nat))).find? x.readsBack
  withoutZeros 20 (found.getD ⟨num, 0⟩)

end Binary64

end HttpQuery
