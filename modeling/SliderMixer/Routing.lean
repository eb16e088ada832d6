import SliderMixer.Focus
import SliderMixer.Mapping
import SliderMixer.RefreshSignal
import SliderMixer.Tracker

/-! # Routing

A move of a slider sets the volume of every session its targets stand for.

* `Mixer.resolve` turns a target into session keys.
* `Mixer.route` goes through targets, keys and sessions in order.  A session already
  at the volume is left alone, and one that fails does not stop the others.
* If nothing was found where sessions have to be asked for, or if a session failed,
  a refresh is requested.
-/

namespace SliderMixer

/-- What the flows of the mixer share. -/
structure Mixer (α : Type) where
  tracker : Tracker α
  focus : Focus := {}
  signal : RefreshSignal := {}

/-- What a move led to. -/
structure RouteOutcome where
  /-- The slider is configured. -/
  mapped : Bool := false
  /-- Its targets stand for some session. -/
  found : Bool := false
  /-- How many volumes were set. -/
  adjusted : Nat := 0
  /-- Some volume could not be set. -/
  failed : Bool := false
  /-- The refresh requested in the end. -/
  refresh : Option RefreshKind := none
  deriving DecidableEq, Repr, Inhabited

/-- Volumes closer than this count as equal. -/
def volumeTolerance : Binary32 := .ofQuotient false 1 1000000

def closeVolumes (x y : Binary32) : Bool := (x - y).abs.lt volumeTolerance

/-- The refresh a finished pass asks for: a lazy one if nothing was found and sessions
    have to be asked for, or else a forced one if a session failed. -/
def RouteOutcome.wanted (o : RouteOutcome) (mode : TrackingMode) : Option RefreshKind :=
  if !o.found && mode == .polling then some .lazy
  else if o.failed then some .forced
  else none

namespace Mixer

variable {α : Type} [AudioSystem α]

/-! ## Targets -/

def foregroundKeys (m : Mixer α) (fullscreen : Bool) : List String × Mixer α :=
  let (answer, focus) := m.focus.ask m.tracker.now fullscreen
  let keys :=
    match answer with
    | .ok names => Directory.distinct (names.map lower)
    | .error _ => []
  (keys, { m with focus })

/-- The keys a target stands for at present. -/
def resolve (m : Mixer α) (target : String) : List String × Mixer α :=
  match Target.ofText target with
  | .key k => ([k], m)
  | .special .currentWindow => m.foregroundKeys false
  | .special .currentFullscreenWindow => m.foregroundKeys true
  | .special .allUnmapped => (m.tracker.directory.unmappedKeys, m)
  | .unknown _ => ([], m)

/-! ## One pass -/

/-- The mixer with another state of the audio system. -/
def withAudio (m : Mixer α) (audio : α) : Mixer α := { m with tracker := { m.tracker with audio } }

def atVolume (m : Mixer α) (s : Session) (volume : Binary32) : Bool :=
  closeVolumes (AudioSystem.volume m.tracker.audio s) volume

def adjust (m : Mixer α) (o : RouteOutcome) (s : Session) (volume : Binary32) :
    RouteOutcome × Mixer α :=
  let (r, audio) := AudioSystem.setVolume m.tracker.audio s volume
  let o :=
    match r with
    | .ok _ => { o with adjusted := o.adjusted + 1 }
    | .error _ => { o with failed := true }
  (o, m.withAudio audio)

/-- Brings a session to the volume. -/
def visitSession (volume : Binary32) (p : RouteOutcome × Mixer α) (s : Session) :
    RouteOutcome × Mixer α :=
  if p.2.atVolume s volume then p else p.2.adjust p.1 s volume

/-- Brings the sessions of a key to the volume. -/
def visitKey (volume : Binary32) (p : RouteOutcome × Mixer α) (key : String) :
    RouteOutcome × Mixer α :=
  match p.2.tracker.lookup key with
  | none => p
  | some sessions => sessions.foldl (visitSession volume) ({ p.1 with found := true }, p.2)

/-- Brings the sessions of a target to the volume. -/
def visitTarget (volume : Binary32) (p : RouteOutcome × Mixer α) (target : String) :
    RouteOutcome × Mixer α :=
  let (keys, m) := p.2.resolve target
  keys.foldl (visitKey volume) (p.1, m)

/-- Follows a move.  A slider without an entry does nothing. -/
def route (m : Mixer α) (mapping : SliderMapping) (move : Move) : RouteOutcome × Mixer α :=
  match mapping.get? move.slider with
  | none => ({}, m)
  | some targets =>
    let (o, m) := targets.foldl (visitTarget move.value) ({ mapped := true }, m)
    match o.wanted m.tracker.mode with
    | none => (o, m)
    -- the refresh itself is the work of another flow
    | some kind => ({ o with refresh := some kind }, { m with signal := m.signal.request kind })

def routeAll (m : Mixer α) (mapping : SliderMapping) : List Move → List RouteOutcome × Mixer α
  | [] => ([], m)
  | move :: rest =>
    let (o, m) := m.route mapping move
    let (os, m) := m.routeAll mapping rest
    (o :: os, m)

end Mixer

end SliderMixer
