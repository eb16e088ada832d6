import SliderMixer.Frame
import SliderMixer.Noise

/-! # Frame decoder

The board reports every slider many times a second.  The decoder remembers the
last accepted reading of each slider and gives out only the moves.

* `Decoder.decode` reads one line; a line that is no frame changes nothing.
* A frame with another number of sliders than before makes every slider report
  again, as does `Decoder.reset`.
-/

namespace SliderMixer

/-! ## Settings and moves -/

/-- What the decoder looks up on every line. -/
structure DecoderSettings where
  invert : Bool := false
  noise : NoiseLevel := .normal
  thresholds : NoiseThresholds := {}
  deriving DecidableEq, Repr, Inhabited

def DecoderSettings.volume (s : DecoderSettings) (reading : Nat) : Binary32 :=
  let scalar := normalized reading s.thresholds.maxReading
  if s.invert then Binary32.one - scalar else scalar

/-- A slider, by its position in the frame, was moved to a volume. -/
structure Move where
  slider : Nat
  value : Binary32
  deriving DecidableEq, Inhabited

/-! ## State -/

/-- The last accepted reading of a slider and the volume it stood for. -/
structure Accepted where
  reading : Nat
  value : Binary32
  deriving DecidableEq, Inhabited

/-- One entry per slider of the last frame; `none` before anything was accepted. -/
structure Decoder where
  settings : DecoderSettings := {}
  sliders : List (Option Accepted) := []
  deriving DecidableEq, Inhabited

namespace Decoder

def new (settings : DecoderSettings) : Decoder := { settings }

/-- Changes the settings of the lines to come and keeps the readings. -/
def setSettings (d : Decoder) (settings : DecoderSettings) : Decoder := { d with settings }

def reset (d : Decoder) : Decoder := { d with sliders := [] }

/-- The number of sliders of the last frame, `0` before the first. -/
def sliderCount (d : Decoder) : Nat := d.sliders.length

/-- The last volume given out for a slider. -/
def lastValue? (d : Decoder) (slider : Nat) : Option Binary32 :=
  (d.sliders[slider]?).join.map (·.value)

/-! ## Decoding -/

/-- The new entry of a slider that reads `value`, if the reading is accepted.  The
    first reading always is. -/
def accept? (s : DecoderSettings) (old : Option Accepted) (value : Nat) : Option Accepted :=
  let reading := min value s.thresholds.maxReading
  let moved :=
    match old with
    | none => true
    | some last => s.thresholds.significant last.reading reading s.noise
  if moved then some { reading, value := s.volume reading } else none

/-- The entries a frame is compared with: those of the frame before it, or unknown
    ones when the number of sliders changed. -/
def entriesFor (d : Decoder) (count : Nat) : List (Option Accepted) :=
  if d.sliders.length = count then d.sliders else List.replicate count none

/-- The accepted changes of a frame, one place per slider. -/
def changes (d : Decoder) (values : List Nat) : List (Option Accepted) :=
  List.zipWith (accept? d.settings) (d.entriesFor values.length) values

/-- The moves of the changes, the first of which belongs to slider `slider`. -/
def movesFrom (slider : Nat) : List (Option Accepted) → List Move
  | [] => []
  | none :: rest => movesFrom (slider + 1) rest
  | some entry :: rest => { slider, value := entry.value } :: movesFrom (slider + 1) rest

def take (d : Decoder) (values : List Nat) : List Move × Decoder :=
  let changed := d.changes values
  -- a reading that is not accepted leaves the entry as it was
  (movesFrom 0 changed,
    { d with sliders := List.zipWith Option.or changed (d.entriesFor values.length) })

/-- Takes in one line and gives out its moves in slider order. -/
def decode (d : Decoder) (line : String) : List Move × Decoder :=
  match Frame.parse line.toList d.settings.thresholds.maxReading with
  | .ok values => d.take values
  | .error _ => ([], d)

end Decoder

end SliderMixer
