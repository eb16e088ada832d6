import SliderMixer.Decoder
import SliderMixer.Session
import SliderMixer.Target

/-! # Slider mapping

The mapping says which targets each slider controls.

* `placed` is a table in the order of its keys, with one more entry.
* `SliderMapping` keeps its sliders in ascending order, each once.
* `RoutingSettings` are the mapping and the two settings of the decoder.
-/

namespace SliderMixer

/-! ## Tables -/

/-- The table with an entry put into its place, instead of one with its key. -/
def placed {κ β : Type} [LT κ] [DecidableLT κ] [DecidableEq κ] (key : κ) (value : β) :
    List (κ × β) → List (κ × β)
  | [] => [(key, value)]
  | (other, old) :: rest =>
    if key < other then (key, value) :: (other, old) :: rest
    else if key = other then (key, value) :: rest
    else (other, old) :: placed key value rest

/-! ## Mapping -/

/-- The targets of each slider, in ascending order of sliders. -/
structure SliderMapping where
  entries : List (Nat × List String) := []
  deriving DecidableEq, Repr, Inhabited

namespace SliderMapping

def empty : SliderMapping := {}

/-- The mapping with the targets of `slider` replaced. -/
def set (m : SliderMapping) (slider : Nat) (targets : List String) : SliderMapping :=
  ⟨placed slider targets m.entries⟩

/-- The targets of a slider, if it has an entry. -/
def get? (m : SliderMapping) (slider : Nat) : Option (List String) :=
  m.entries.lookup slider

/-- The mapping of a list of entries, the last one of a slider counting. -/
def ofList (entries : List (Nat × List String)) : SliderMapping :=
  entries.foldl (fun m (slider, targets) => m.set slider targets) empty

def size (m : SliderMapping) : Nat := m.entries.length

def isEmpty (m : SliderMapping) : Bool := m.entries.isEmpty

/-- The mapping in use where nothing is configured: the first slider is the master
    volume. -/
def masterOnly : SliderMapping := ofList [(0, [masterKey])]

/-- The session keys that some slider names, in lowercase. -/
def keys (m : SliderMapping) : List String :=
  (m.entries.flatMap (·.2)).filterMap fun text => (Target.ofText text).key?

end SliderMapping

/-! ## Settings of the routing -/

/-- All that routing reads from the settings. -/
structure RoutingSettings where
  mapping : SliderMapping := .masterOnly
  invert : Bool := false
  noise : NoiseLevel := .normal
  deriving DecidableEq, Repr, Inhabited

/-- The part the decoder needs. -/
def RoutingSettings.decoder (s : RoutingSettings) : DecoderSettings :=
  { invert := s.invert, noise := s.noise }

end SliderMixer
