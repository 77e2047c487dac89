/-! # Binary floating point of 64 bits

A value is kept as its bits: a sign, an exponent of 11 bits and a fraction of 52. The finite values
are `± m * 2 ^ q` with a natural number `m` below 2^53.

* `Binary64.ofRatio`: the value nearest to a quotient of natural numbers, of two equally near ones
  the one with an even fraction.
* `Binary64.scaleUp`, `Binary64.scaleDown`: the rounded product and quotient with a power of ten
  that is itself rounded. -/

namespace HttpQuery

/-- **A binary floating-point number of 64 bits.** -/
structure Binary64 where
  bits : UInt64
deriving DecidableEq, Repr

namespace Binary64

/-- The natural number `m` of a finite value `± m * 2 ^ q`. -/
def significand (x : Binary64) : Nat :=
  let fraction := x.bits.toNat % Nat.pow 2 52
  if x.bits.toNat / Nat.pow 2 52 % Nat.pow 2 11 = 0 then fraction else Nat.pow 2 52 + fraction

/-- The exponent `q` of a finite value `± m * 2 ^ q`. -/
def exponent (x : Binary64) : Int :=
  let e : Nat := x.bits.toNat / Nat.pow 2 52 % Nat.pow 2 11
  if e = 0 then -1074 else (e : Int) - 1075

/-- Whether the sign is minus. -/
def isNegative (x : Binary64) : Bool := x.bits.toNat / Nat.pow 2 63 = 1

/-- Whether the value is neither infinite nor undefined. -/
def isFinite (x : Binary64) : Bool := x.bits.toNat / Nat.pow 2 52 % Nat.pow 2 11 ≠ 2047

/-- Whether the gap to the value below is half the gap to the value above, as it is at the powers of
two. -/
def isNarrowBelow (x : Binary64) : Bool :=
  x.bits.toNat % Nat.pow 2 52 = 0 ∧ 1 < x.bits.toNat / Nat.pow 2 52 % Nat.pow 2 11

/-- The value with the opposite sign. -/
def neg (x : Binary64) : Binary64 := ⟨x.bits ^^^ 0x8000000000000000⟩

/-- Infinity. -/
def infinity : Binary64 := ⟨0x7FF0000000000000⟩

/-- The natural number nearest to a quotient, of two equally near ones the even one. -/
def roundDiv (num den : Nat) : Nat :=
  let q := num / den
  let r := num % den
  if 2 * r < den then q
  else if den < 2 * r then q + 1
  else if q % 2 = 0 then q else q + 1

/-- The least exponent `q ≥ -1074` for which the quotient is below `2 ^ (53 + q)`. -/
def scaleOfRatio (num den : Nat) : Int :=
  let q : Int := (num.log2 : Int) - den.log2 - 52
  let q := if num * Nat.pow 2 (-q).toNat < den * Nat.pow 2 q.toNat * Nat.pow 2 52 then q - 1 else q
  max q (-1074)

/-- **The value nearest to a quotient** with a positive denominator, of two equally near ones the
one with an even fraction; infinity from 2^1024 on. -/
def ofRatio (num den : Nat) : Binary64 :=
  if num = 0 then ⟨0⟩
  else
    let q := scaleOfRatio num den
    let m := roundDiv (num * Nat.pow 2 (-q).toNat) (den * Nat.pow 2 q.toNat)
    let bits := (q + 1074).toNat * Nat.pow 2 52 + m
    if bits < 2047 * Nat.pow 2 52 then ⟨bits.toUInt64⟩ else infinity

/-- The value nearest to a natural number. -/
def ofNat (n : Nat) : Binary64 := ofRatio n 1

/-- The value nearest to an integer. -/
def ofInt : Int → Binary64
  | .ofNat n => ofNat n
  | .negSucc n => (ofNat (n + 1)).neg

/-- The value nearest to `m * 2 ^ q / d`. -/
def ofScaled (m : Nat) (q : Int) (d : Nat) : Binary64 :=
  ofRatio (m * Nat.pow 2 q.toNat) (d * Nat.pow 2 (-q).toNat)

/-- The product of a finite value that is not negative with the value nearest to `10 ^ k`. -/
def scaleUp (x : Binary64) (k : Nat) : Binary64 :=
  let p := ofNat (Nat.pow 10 k)
  ofScaled (x.significand * p.significand) (x.exponent + p.exponent) 1

/-- The quotient of a finite value that is not negative by the value nearest to `10 ^ k`. -/
def scaleDown (x : Binary64) (k : Nat) : Binary64 :=
  let p := ofNat (Nat.pow 10 k)
  ofScaled x.significand (x.exponent - p.exponent) p.significand

end Binary64

end HttpQuery
