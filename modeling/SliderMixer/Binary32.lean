/-! # Volumes as single-precision numbers

A volume is a 32-bit IEEE 754 number, kept as its bit pattern so that every
operation on it is a function on natural numbers and integers.

* `Binary32.units` reads a number as an integer multiple of `2^-149`, the
  spacing of the smallest numbers.  Infinities read as `±2^277`, which is above
  every finite value, so one integer order serves all numbers but NaN.
* `Binary32.ofQuotient` rounds a quotient to the nearest number, a tie going to
  the even significand.
* `Binary32.sub` is the exact difference, rounded once.
-/

namespace SliderMixer

/-- The quotient `num / den` rounded to the nearest integer, a half to the even one. -/
def roundDiv (num den : Nat) : Nat :=
  let floor := num / den
  let rest := 2 * (num % den)
  if rest < den then floor
  else if den < rest then floor + 1
  else floor + floor % 2

/-- The quotient `num / den` as `(significand, shift)`: the significand has at most
    `precision` bits (or is `2 ^ precision` after a carry) and stands for
    `significand * 2 ^ shift`. -/
def significand (precision num den : Nat) : Nat × Nat :=
  let shift := (num / den).log2 + 1 - precision
  (roundDiv num (den <<< shift), shift)

/-- A single-precision number, by its bit pattern. -/
structure Binary32 where
  bits : UInt32
  deriving DecidableEq, Inhabited

namespace Binary32

/-! ## Parts of the pattern -/

def negative (x : Binary32) : Bool := 0x80000000 ≤ x.bits.toNat

/-- The pattern without its sign: exponent field and fraction. -/
def payload (x : Binary32) : Nat := x.bits.toNat % 0x80000000

/-- The number of fractions, `2 ^ 23`. -/
def fractionSize : Nat := 0x800000

def infinityPayload : Nat := 0x7f800000

def isNaN (x : Binary32) : Bool := infinityPayload < x.payload

def isInfinite (x : Binary32) : Bool := x.payload == infinityPayload

def isFinite (x : Binary32) : Bool := x.payload < infinityPayload

/-- The pattern with the given sign and payload. -/
def ofPayload (negative : Bool) (payload : Nat) : Binary32 :=
  ⟨UInt32.ofNat ((if negative then 0x80000000 else 0) + payload)⟩

def zero : Binary32 := ⟨0⟩

def one : Binary32 := ⟨0x3f800000⟩

def nan : Binary32 := ⟨0x7fc00000⟩

def infinity (negative : Bool) : Binary32 := ofPayload negative infinityPayload

/-! ## Value -/

/-- The absolute value in units of `2^-149`. -/
def magnitude (x : Binary32) : Nat :=
  let exponent := x.payload / fractionSize
  let fraction := x.payload % fractionSize
  if exponent = 0 then fraction else (fractionSize + fraction) <<< (exponent - 1)

/-- The value in units of `2^-149`. -/
def units (x : Binary32) : Int :=
  if x.negative then -(x.magnitude : Int) else x.magnitude

/-- `x < y`; false when either is NaN. -/
def lt (x y : Binary32) : Bool :=
  !x.isNaN && !y.isNaN && x.units < y.units

/-- `x ≤ y`; false when either is NaN. -/
def le (x y : Binary32) : Bool :=
  !x.isNaN && !y.isNaN && x.units ≤ y.units

/-- `x` lies in the closed interval from `0` to `1`; NaN does not. -/
def inUnitInterval (x : Binary32) : Bool := zero.le x && x.le one

/-! ## Rounding -/

/-- The nearest number to `num / den` units, a tie going to the even significand;
    beyond the largest finite number it is an infinity. -/
def ofUnits (negative : Bool) (num den : Nat) : Binary32 :=
  let (mantissa, shift) := significand 24 num den
  ofPayload negative (min infinityPayload (shift * fractionSize + mantissa))

/-- The nearest number to `num / den`. -/
def ofQuotient (negative : Bool) (num den : Nat) : Binary32 :=
  ofUnits negative (num <<< 149) den

/-- The sign bit cleared. -/
def abs (x : Binary32) : Binary32 := ofPayload false x.payload

/-- The exact difference, rounded once.  Two infinities of one sign have no
    difference, and equal numbers differ by `0`, which is negative only for
    `-0 - 0`. -/
def sub (x y : Binary32) : Binary32 :=
  if x.isNaN || y.isNaN then nan
  else if x.isInfinite then
    if y.isInfinite && x.negative == y.negative then nan else infinity x.negative
  else if y.isInfinite then infinity (!y.negative)
  else
    let difference := x.units - y.units
    if difference = 0 then
      ofPayload (x.magnitude = 0 && x.negative && !y.negative) 0
    else ofUnits (difference < 0) difference.natAbs 1

instance : Sub Binary32 := ⟨sub⟩

end Binary32

end SliderMixer
