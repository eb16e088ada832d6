import SliderMixer.Mapping

/-! # Settings

What the user configures, as written and as the flows use it.

* `Settings` holds the entries of a settings file, with a default for each.
* `Settings.mapping`, `Settings.routing` and `Settings.link` are the views the flows
  work with.
-/

namespace SliderMixer

/-! ## Connection -/

/-- Where the board is connected and at which speed. -/
structure Connection where
  port : String := "/dev/ttyUSB0"
  baudRate : Nat := 9600
  deriving DecidableEq, Repr, Inhabited

/-- All the link reads from the settings. -/
structure LinkSettings where
  connection : Connection := {}
  decoder : DecoderSettings := {}
  deriving DecidableEq, Repr, Inhabited

/-! ## Entries as written -/

/-- The targets of one slider as written: one or a list. -/
inductive TargetEntry where
  | one (target : String)
  | many (targets : List String)
  deriving DecidableEq, Repr

/-- The targets without blanks around them; blank ones do not count. -/
def TargetEntry.targets (e : TargetEntry) : List String :=
  let written :=
    match e with
    | one target => [target]
    | many targets => targets
  (written.map trimmed).filter (· ≠ "")

/-- The entries of a settings file.  The slider entries stand in the order of their
    keys, each key once; the speed is kept as written, even if it makes no sense. -/
structure Settings where
  invert : Bool := false
  noise : NoiseLevel := .normal
  sliders : List (String × TargetEntry) := [("0", .one masterKey)]
  port : String := "/dev/ttyUSB0"
  baudRate : Int := 9600
  logLevel : String := "info"
  deriving DecidableEq, Repr, Inhabited

/-! ## Slider numbers -/

/-- One past the largest slider number. -/
def sliderLimit : Nat := UInt64.size

/-- The number that decimal digits stand for, at least one and nothing else. -/
def digitsNumber? (digits : List Char) : Option Nat :=
  if digits.isEmpty then none
  else if digits.all Char.isDigit then some (Frame.decimal digits) else none

/-- The slider a key names: decimal digits, with or without a plus sign, of a number
    below the limit. -/
def sliderNumber? (key : List Char) : Option Nat :=
  let digits :=
    match key with
    | '+' :: rest => rest
    | _ => key
  match digitsNumber? digits with
  | some n => if n < sliderLimit then some n else none
  | none => none

/-! ## Views -/

namespace Settings

/-- What an entry contributes to the mapping: nothing if its key names no slider or
    no target is left. -/
def assignment? (entry : String × TargetEntry) : Option (Nat × List String) :=
  match sliderNumber? (trim entry.1.toList) with
  | none => none
  | some slider => if entry.2.targets.isEmpty then none else some (slider, entry.2.targets)

/-- The targets of each slider.  Of several keys for one slider the last one counts. -/
def mapping (s : Settings) : SliderMapping :=
  .ofList (s.sliders.filterMap assignment?)

def routing (s : Settings) : RoutingSettings :=
  { mapping := s.mapping, invert := s.invert, noise := s.noise }

/-- The speed of the connection; what is not a positive 32-bit number is replaced by
    the usual speed. -/
def speed (s : Settings) : Nat :=
  if 0 < s.baudRate ∧ s.baudRate < UInt32.size then s.baudRate.toNat else ({} : Connection).baudRate

def connection (s : Settings) : Connection := { port := s.port, baudRate := s.speed }

def link (s : Settings) : LinkSettings :=
  { connection := s.connection, decoder := s.routing.decoder }

end Settings

end SliderMixer
