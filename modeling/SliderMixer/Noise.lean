import SliderMixer.Binary32
import SliderMixer.Text.Blank
import SliderMixer.Text.Lowercase

/-! # Noise filter

A slider jitters by a few steps even when nobody touches it.  The filter decides
whether a reading differs enough from the last accepted one to count as a move.

* `NoiseThresholds.significant` is that decision.
* Near either end of the range the threshold drops to the `low` one, and a change
  onto `0` or the largest reading always counts, so a slider pushed to its stop
  reaches exactly that end.
* `normalized` turns a reading into a volume with two decimals, rounded down.
-/

namespace SliderMixer

/-! ## Levels -/

/-- How much jitter is filtered out. -/
inductive NoiseLevel where
  | off
  | low
  | normal
  | high
  deriving DecidableEq, Repr, Inhabited

def NoiseLevel.name : NoiseLevel → String
  | off => "none"
  | low => "low"
  | normal => "default"
  | high => "high"

/-- The level a setting names, in any case and with blanks around it; every other
    text means the normal level. -/
def NoiseLevel.ofText (text : String) : NoiseLevel :=
  let word := lower (trimmed text)
  if word = "none" then off
  else if word = "low" then low
  else if word = "high" then high
  else normal

/-! ## Thresholds -/

/-- The thresholds of the levels, as differences between readings, and the range they
    apply to. -/
structure NoiseThresholds where
  off : Nat := 1
  low : Nat := 5
  normal : Nat := 10
  high : Nat := 20
  /-- Distance from either end within which the threshold drops to `low`. -/
  edgeMargin : Nat := 10
  /-- The largest reading of the board's converter. -/
  maxReading : Nat := 1023
  deriving DecidableEq, Repr, Inhabited

namespace NoiseThresholds

def threshold (t : NoiseThresholds) : NoiseLevel → Nat
  | .off => t.off
  | .low => t.low
  | .normal => t.normal
  | .high => t.high

/-- The reading lies within the margin of either end. -/
def nearEdge (t : NoiseThresholds) (reading : Nat) : Bool :=
  reading ≤ t.edgeMargin || t.maxReading - t.edgeMargin ≤ reading

/-- The threshold applied to a move onto `new`. -/
def effective (t : NoiseThresholds) (new : Nat) (level : NoiseLevel) : Nat :=
  if t.nearEdge new then min (t.threshold level) t.low else t.threshold level

def distance (old new : Nat) : Nat := (old - new) + (new - old)

/-- Going from `old` to `new` is a move. -/
def significant (t : NoiseThresholds) (old new : Nat) (level : NoiseLevel) : Bool :=
  old != new
    -- a slider pushed to its stop has to reach the end, however small the step
    && (t.effective new level ≤ distance old new || new == 0 || new == t.maxReading)

end NoiseThresholds

/-! ## Volumes of readings -/

/-- The percentage of the range a reading covers, rounded down; readings above the
    range count as its end. -/
def percent (reading maxReading : Nat) : Nat := min reading maxReading * 100 / maxReading

/-- The volume of a reading, with two decimals.  An empty range gives `0`. -/
def normalized (reading maxReading : Nat) : Binary32 :=
  if maxReading = 0 then Binary32.zero
  else Binary32.ofQuotient false (percent reading maxReading) 100

end SliderMixer
