import SliderMixer.Binary32

/-! # Decimal text of a volume

The text of a number is the shortest decimal that reads back as the same number,
written without an exponent.

* `Binary32.shortest` finds the largest power of ten that has a multiple in the
  interval of values that round to the number, and of those multiples the one
  nearest to it (the upper one of two equally near).
* `Binary32.text` writes that multiple out in full.
-/

namespace SliderMixer.Binary32

/-! ## The interval that reads back -/

/-- The values that round to one positive number, in quarters of a unit. -/
structure RoundingInterval where
  low : Nat
  value : Nat
  high : Nat
  /-- Both ends round to the number, since its significand is even. -/
  closed : Bool

/-- The interval of a finite `x` without its sign. -/
def roundingInterval (x : Binary32) : RoundingInterval :=
  let exponent := x.payload / fractionSize
  let gap := 1 <<< (exponent - 1)
  let below := if x.payload % fractionSize = 0 ∧ 1 < exponent then gap else 2 * gap
  { low := 4 * x.magnitude - below
    value := 4 * x.magnitude
    high := 4 * x.magnitude + 2 * gap
    closed := x.payload % 2 = 0 }

/-- The fraction `num / den` lies in the interval. -/
def RoundingInterval.holds (i : RoundingInterval) (num den : Nat) : Bool :=
  if i.closed then i.low * den ≤ num && num ≤ i.high * den
  else i.low * den < num && num < i.high * den

/-- The multiple of `num / den` nearest to the interval's value among its two
    neighbours that lie in the interval. -/
def RoundingInterval.multiple? (i : RoundingInterval) (num den : Nat) : Option Nat :=
  let below := i.value * den / num
  let above := below + 1
  let low := i.holds (below * num) den && below != 0
  let high := i.holds (above * num) den
  if low && high then
    if i.value * den - below * num < above * num - i.value * den then some below
    else some above
  else if low then some below
  else if high then some above
  else none

/-! ## Shortest decimal -/

/-- The power `10 ^ e` in quarters of a unit, as a fraction. -/
def tenPower (e : Int) : Nat × Nat :=
  if 0 ≤ e then (Nat.pow 10 e.toNat <<< 151, 1) else (1 <<< 151, Nat.pow 10 e.natAbs)

/-- The first power of ten, going down from `10 ^ e`, with a multiple in the
    interval. -/
def RoundingInterval.search (i : RoundingInterval) : Nat → Int → Nat × Int
  | 0, e => (0, e)
  | steps + 1, e =>
    let (num, den) := tenPower e
    match i.multiple? num den with
    | some n => (n, e)
    | none => i.search steps (e - 1)

/-- The shortest decimal `n * 10 ^ e` that reads back as the finite `x` without its
    sign.  The widest spacing is below `10 ^ 39` and the narrowest above `10 ^ -45`. -/
def shortest (x : Binary32) : Nat × Int :=
  if x.magnitude = 0 then (0, 0) else x.roundingInterval.search 85 39

/-! ## Text -/

/-- The digits of `n * 10 ^ e` in positional notation. -/
def positional (n : Nat) (e : Int) : String :=
  let digits := Nat.toDigits 10 n
  if 0 ≤ e then
    String.ofList (digits ++ List.replicate (if n = 0 then 0 else e.toNat) '0')
  else
    let places := e.natAbs
    let padded := List.replicate (places + 1 - digits.length) '0' ++ digits
    let whole := padded.take (padded.length - places)
    let fraction := padded.drop (padded.length - places)
    String.ofList (whole ++ '.' :: fraction)

/-- The number as shown to a user. -/
def text (x : Binary32) : String :=
  if x.isNaN then "NaN"
  else
    let sign := if x.negative then "-" else ""
    if x.isInfinite then sign ++ "inf"
    else
      let (n, e) := x.shortest
      sign ++ positional n e

end SliderMixer.Binary32
