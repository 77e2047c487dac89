import HttpQuery.Decimal.Binary64
import HttpQuery.Text.Digits
import HttpQuery.Toml.Item
/-! # TOML numbers, words and dates

A value that is neither a text nor in brackets is written without blanks, but for the one blank that
may stand between a date and a time. Integers fit into 64 bits with a sign; underscores may stand
between digits; numbers other than decimal integers have a base mark or a fraction or an exponent.

* `tomlScalar?`: the item of such a text. -/

namespace HttpQuery

open Text

/-- The values of digits, with single underscores between them. -/
def digitGroup? (base : Nat) : List Char → Option (List Nat)
  | [] => none
  | [c] => (digitInBase? base c).map ([·])
  | c :: '_' :: cs => do
    let d ← digitInBase? base c
    let ds ← digitGroup? base cs
    return d :: ds
  | c :: cs => do
    let d ← digitInBase? base c
    let ds ← digitGroup? base cs
    return d :: ds

/-- The digits of a decimal integer: no zero stands before others. -/
def decimalDigits? (text : List Char) : Option (List Nat) := do
  let digits ← digitGroup? 10 text
  if digits.head? = some 0 ∧ 1 < digits.length then none else some digits

/-- A text without its sign, and whether the sign is minus. -/
def splitSign : List Char → Bool × List Char
  | '-' :: cs => (true, cs)
  | '+' :: cs => (false, cs)
  | cs => (false, cs)

/-- The integer of a text. -/
def tomlInteger? (text : List Char) : Option Int :=
  let inBase (base : Nat) (digits : List Char) : Option Int := do
    let n := ofDigits base (← digitGroup? base digits)
    if n < Nat.pow 2 63 then some (n : Int) else none
  match text with
  | '0' :: 'x' :: cs => inBase 16 cs
  | '0' :: 'o' :: cs => inBase 8 cs
  | '0' :: 'b' :: cs => inBase 2 cs
  | _ => do
    let (negative, cs) := splitSign text
    let n := ofDigits 10 (← decimalDigits? cs)
    if negative then if n ≤ Nat.pow 2 63 then some (-(n : Int)) else none
    else if n < Nat.pow 2 63 then some (n : Int) else none

/-- Whether `significand * 10 ^ e`, the significand with so many digits, is too large for floating
point. -/
def overflows (significand digits : Nat) (e : Int) : Bool :=
  if significand = 0 ∨ e + digits < 300 then false
  else if 400 < e + digits then true
  else
    !(Binary64.ofRatio (significand * Nat.pow 10 e.toNat) (Nat.pow 10 (-e).toNat)).isFinite

/-- Whether a text is a floating-point number: decimal digits, then a fraction or an exponent or
both. A positive number must not be too large. -/
def isTomlFloat (text : List Char) : Bool :=
  let (negative, cs) := splitSign text
  if cs = ['i', 'n', 'f'] ∨ cs = ['n', 'a', 'n'] then true
  else
    let isMark (c : Char) : Bool := c == 'e' || c == 'E'
    let mantissa := cs.takeWhile (!isMark ·)
    let whole := mantissa.takeWhile (· ≠ '.')
    let checked : Option Bool := do
      let wholeDigits ← decimalDigits? whole
      let fraction ← match mantissa.dropWhile (· ≠ '.') with
        | [] => some []
        | _ :: ds => digitGroup? 10 ds
      let (exponent, hasExponent) ← match cs.dropWhile (!isMark ·) with
        | [] => some (0, false)
        | _ :: ds =>
          let (minus, ds) := splitSign ds
          (digitGroup? 10 ds).map fun v =>
            let n : Int := ofDigits 10 v
            (if minus then -n else n, true)
      if fraction.isEmpty && !hasExponent then none
      else
        let digits := wholeDigits ++ fraction
        some (negative ||
          !overflows (ofDigits 10 digits) digits.length (exponent - fraction.length))
    checked.getD false

/-! ### Dates and times -/

/-- The number of exactly `n` decimal digits at the start, and what follows. -/
def digitsAtStart? (n : Nat) (text : List Char) : Option (Nat × List Char) := do
  if text.length < n then none
  else
    let digits ← (text.take n).mapM (digitInBase? 10)
    some (ofDigits 10 digits, text.drop n)

/-- A number below a bound, of exactly two digits. -/
def twoDigits? (low high : Nat) (text : List Char) : Option (Nat × List Char) :=
  (digitsAtStart? 2 text).filter fun p => low ≤ p.1 && p.1 ≤ high

/-- What follows a mark. -/
def afterMark? (mark : Char) : List Char → Option (List Char)
  | [] => none
  | c :: cs => if c = mark then some cs else none

/-- The days of a month. -/
def daysInMonth (year month : Nat) : Nat :=
  if month = 2 then
    if year % 4 = 0 ∧ (year % 100 ≠ 0 ∨ year % 400 = 0) then 29 else 28
  else if month = 4 ∨ month = 6 ∨ month = 9 ∨ month = 11 then 30
  else 31

/-- A number with at least two digits. -/
def padTwo (n : Nat) : String := (if n < 10 then "0" else "") ++ toString n

/-- A date at the start of a text. -/
def dateAtStart? (text : List Char) : Option (String × List Char) := do
  let (_, rest) ← digitsAtStart? 4 text
  let (year, _) ← digitsAtStart? 4 text
  let rest ← afterMark? '-' rest
  let (month, rest) ← twoDigits? 1 12 rest
  let rest ← afterMark? '-' rest
  let (day, rest) ← twoDigits? 1 (daysInMonth year month) rest
  return (String.ofList (text.take 4) ++ "-" ++ padTwo month ++ "-" ++ padTwo day, rest)

/-- The digits of a second's fraction: at most nine, and no zeros at the end. -/
def fractionText (digits : List Char) : String :=
  let kept := ((digits.take 9).reverse.dropWhile (· = '0')).reverse
  if kept = [] then "" else "." ++ String.ofList kept

/-- A time of day at the start of a text. -/
def timeAtStart? (text : List Char) : Option (String × List Char) := do
  let (hour, rest) ← twoDigits? 0 23 text
  let rest ← afterMark? ':' rest
  let (minute, rest) ← twoDigits? 0 59 rest
  let rest ← afterMark? ':' rest
  let (second, rest) ← twoDigits? 0 60 rest
  let plain := padTwo hour ++ ":" ++ padTwo minute ++ ":" ++ padTwo second
  match rest with
  | '.' :: ds =>
    let digits := ds.takeWhile Char.isDigit
    if digits = [] then none else some (plain ++ fractionText digits, ds.dropWhile Char.isDigit)
  | _ => some (plain, rest)

/-- The distance from universal time, as the whole of a text; an empty text has none. -/
def offset? : List Char → Option String
  | [] => some ""
  | ['Z'] => some "Z"
  | ['z'] => some "Z"
  | sign :: cs =>
    if sign = '+' ∨ sign = '-' then do
      let (hour, rest) ← twoDigits? 0 23 cs
      let rest ← afterMark? ':' rest
      let (minute, rest) ← twoDigits? 0 59 rest
      if rest = [] then
        let shown := if hour = 0 ∧ minute = 0 then "+" else String.ofList [sign]
        some (shown ++ padTwo hour ++ ":" ++ padTwo minute)
      else none
    else none

/-- A date, a time or both, as the whole of a text. -/
def datetime? (text : List Char) : Option String :=
  match dateAtStart? text with
  | some (date, []) => some date
  | some (date, mark :: rest) =>
    if mark = 'T' ∨ mark = 't' ∨ mark = ' ' then do
      let (time, rest) ← timeAtStart? rest
      let offset ← offset? rest
      return date ++ "T" ++ time ++ offset
    else none
  | none =>
    match timeAtStart? text with
    | some (time, []) => some time
    | _ => none

/-- **The item of a number, a word or a date.** -/
def tomlScalar? (text : List Char) : Option TomlItem :=
  if text = ['t', 'r', 'u', 'e'] ∨ text = ['f', 'a', 'l', 's', 'e'] then some .boolean
  else
    match datetime? text with
    | some t => some (.datetime t)
    | none =>
      match tomlInteger? text with
      | some n => some (.integer n)
      | none => if isTomlFloat text then some .float else none

end HttpQuery
