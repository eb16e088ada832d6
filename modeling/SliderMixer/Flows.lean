import SliderMixer.Routing.Pass
import SliderMixer.Schedule
import SliderMixer.Tracker.Call

/-! # Flows of the mixer

Four flows share the mixer, and each goes on by itself:

* the event pump follows the changes that the audio system reports;
* the refresh worker serves requests for a refresh, one at a time;
* the settings sync sorts the sessions anew when the settings change;
* the router follows the moves, one at a time.

Each flow has a state, a step `proceed?`, and a step `stop?` by which it heeds the
stop signal.  A flow heeds it only while it waits; when a flow could also go on,
either step may come first.
-/

namespace SliderMixer

variable {α : Type} [AudioSystem α]

/-! ## Event pump -/

inductive EventPump where
  | waiting
  | handling (call : Call)
  | ended

namespace EventPump

def stop? (f : EventPump) (m : Mixer α) : Option (EventPump × Mixer α) :=
  match f with
  | .waiting => some (.ended, m.withAudio (AudioSystem.unsubscribe m.tracker.audio))
  | .handling _ | .ended => none

def proceed? (f : EventPump) (m : Mixer α) : Option (EventPump × Mixer α) :=
  match f with
  | .waiting =>
    let (r, audio) := AudioSystem.nextEvent m.tracker.audio
    let m := m.withAudio audio
    match r with
    | .item e => some (.handling (.handle e), m)
    | .waiting => none
    | .ended => some (.ended, m)
  | .handling (.finished _) => some (.waiting, m)
  | .handling c =>
    let (c, tracker) := c.step m.tracker
    some (.handling c, { m with tracker })
  | .ended => none

def hasEnded : EventPump → Bool
  | .ended => true
  | .waiting | .handling _ => false

end EventPump

/-! ## Refresh worker -/

inductive RefreshWorker where
  | waiting
  /-- The signal is taken and the forced flag still up. -/
  | taking
  | refreshing (call : Call)
  | ended

namespace RefreshWorker

def stop? (f : RefreshWorker) : Option RefreshWorker :=
  match f with
  | .waiting => some .ended
  | .taking | .refreshing _ | .ended => none

def proceed? (f : RefreshWorker) (m : Mixer α) : Option (RefreshWorker × Mixer α) :=
  match f with
  | .waiting => m.signal.answer.map fun signal => (.taking, { m with signal })
  | .taking =>
    let (kind, signal) := m.signal.lower
    some (.refreshing (.refresh (kind == .forced)), { m with signal })
  | .refreshing (.finished _) => some (.waiting, m)
  | .refreshing c =>
    let (c, tracker) := c.step m.tracker
    some (.refreshing c, { m with tracker })
  | .ended => none

def hasEnded : RefreshWorker → Bool
  | .ended => true
  | .waiting | .taking | .refreshing _ => false

end RefreshWorker

/-! ## Settings sync -/

inductive SettingsSyncPhase where
  | waiting
  | classifying (settings : RoutingSettings)
  | raising
  | ringing
  | ended

structure SettingsSync where
  phase : SettingsSyncPhase := .waiting
  /-- How many settings it has seen. -/
  seen : Nat := 0

namespace SettingsSync

def stop? (f : SettingsSync) : Option SettingsSync :=
  match f.phase with
  | .waiting => some { f with phase := .ended }
  | .classifying _ | .raising | .ringing | .ended => none

def proceed? (f : SettingsSync) (settings : Watched RoutingSettings) (m : Mixer α) :
    Option (SettingsSync × Mixer α) :=
  match f.phase with
  | .waiting =>
    -- news that came before the sender went away still count
    if settings.news f.seen then
      some ({ phase := .classifying settings.value, seen := settings.version }, m)
    else if settings.closed then some ({ f with phase := .ended }, m)
    else none
  | .classifying s =>
    let m := { m with tracker := m.tracker.classify s.mapping.keys }
    match m.tracker.mode with
    | .eventDriven => some ({ f with phase := .waiting }, m)
    -- new targets may mean sessions that have not been asked for yet
    | .polling => some ({ f with phase := .raising }, m)
  | .raising => some ({ f with phase := .ringing }, { m with signal := m.signal.raise .forced })
  | .ringing => some ({ f with phase := .waiting }, { m with signal := m.signal.ring })
  | .ended => none

def hasEnded (f : SettingsSync) : Bool :=
  match f.phase with
  | .ended => true
  | .waiting | .classifying _ | .raising | .ringing => false

end SettingsSync

/-! ## Router -/

inductive Router where
  | waiting
  | routing (pass : Pass)
  | ended

namespace Router

def stop? (f : Router) (moves : Mailbox Move) : Option (Router × Mailbox Move) :=
  match f with
  | .waiting => some (.ended, moves.dropReceiver)
  | .routing _ | .ended => none

def proceed? (f : Router) (mapping : SliderMapping) (moves : Mailbox Move) (m : Mixer α) :
    Option (Router × Mailbox Move × Mixer α) :=
  match f with
  | .waiting =>
    match moves.receive with
    | (.item move, moves) => some (.routing (.begun move), moves, m)
    | (.waiting, _) => none
    | (.ended, moves) => some (.ended, moves.dropReceiver, m)
  | .routing (.finished _) => some (.waiting, moves, m)
  | .routing p =>
    let (p, m) := p.step mapping m
    some (.routing p, moves, m)
  | .ended => none

def hasEnded : Router → Bool
  | .ended => true
  | .waiting | .routing _ => false

end Router

/-! ## All four -/

/-- The mixer with its flows and the settings they watch. -/
structure Flows (α : Type) where
  mixer : Mixer α
  settings : Watched RoutingSettings
  pump : EventPump := .waiting
  worker : RefreshWorker := .waiting
  sync : SettingsSync := {}
  router : Router := .waiting
  stop : Bool := false

inductive FlowName where
  | pump
  | worker
  | sync
  | router
  deriving DecidableEq, Repr

/-- Whether a flow heeds the stop signal or goes on with its work. -/
inductive Choice where
  | stop
  | proceed
  deriving DecidableEq, Repr

namespace Flows

/-- One step of a flow; `moves` is the mailbox of the router. -/
def step? (f : Flows α) (moves : Mailbox Move) :
    FlowName → Choice → Option (Flows α × Mailbox Move)
  | .pump, .stop =>
    if f.stop then
      (f.pump.stop? f.mixer).map fun (pump, mixer) => ({ f with pump, mixer }, moves)
    else none
  | .pump, .proceed =>
    (f.pump.proceed? f.mixer).map fun (pump, mixer) => ({ f with pump, mixer }, moves)
  | .worker, .stop =>
    if f.stop then f.worker.stop?.map fun worker => ({ f with worker }, moves) else none
  | .worker, .proceed =>
    (f.worker.proceed? f.mixer).map fun (worker, mixer) => ({ f with worker, mixer }, moves)
  | .sync, .stop =>
    if f.stop then f.sync.stop?.map fun sync => ({ f with sync }, moves) else none
  | .sync, .proceed =>
    (f.sync.proceed? f.settings f.mixer).map fun (sync, mixer) => ({ f with sync, mixer }, moves)
  | .router, .stop =>
    if f.stop then
      (f.router.stop? moves).map fun (router, moves) => ({ f with router }, moves)
    else none
  | .router, .proceed =>
    (f.router.proceed? f.settings.value.mapping moves f.mixer).map fun (router, moves, mixer) =>
      ({ f with router, mixer }, moves)

/-- The order in which the schedule asks the flows. -/
def order : List (FlowName × Choice) :=
  [.pump, .worker, .sync, .router].flatMap fun name => [(name, .stop), (name, .proceed)]

end Flows

/-- The flows and the mailbox of the router. -/
structure FlowGroup (α : Type) where
  flows : Flows α
  moves : Mailbox Move

/-- The group has no timers. -/
instance : FlowSystem (FlowGroup α) where
  next? g :=
    Flows.order.findSome? fun (name, choice) =>
      (g.flows.step? g.moves name choice).map fun (flows, moves) => ⟨flows, moves⟩
  timer? _ := none
  clock _ := 0
  setClock g _ := g

end SliderMixer
