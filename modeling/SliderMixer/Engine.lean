import SliderMixer.Flows
import SliderMixer.Link
import SliderMixer.Settings.Reload

/-! # Engine

The engine is the whole mixer at work: the flows of the mixer, the link to the board,
the fan-out that splits new settings between them, and the watcher of the settings
file.

* `Engine.start` sets all of it up.
* `Engine.step?` is one step of one part; several may be possible at the same time.
* `Engine.shutdown` makes every part stop.  When all have ended, the sessions and the
  audio system are given up.
-/

namespace SliderMixer

/-! ## Fan-out of the settings -/

/-- What the fan-out does next. -/
inductive FanOutPhase where
  | waiting
  /-- Send the settings of the flows. -/
  | routing (settings : Settings)
  /-- Send the settings of the link. -/
  | linking (settings : Settings)
  | ended

structure FanOut where
  phase : FanOutPhase := .waiting
  /-- How many settings it has seen. -/
  seen : Nat := 0

namespace FanOut

def hasEnded (f : FanOut) : Bool :=
  match f.phase with
  | .ended => true
  | .waiting | .routing _ | .linking _ => false

end FanOut

/-! ## State -/

/-- What is set when the mixer is started, and not in the settings file. -/
structure EngineOptions where
  /-- The port to open instead of the one in the settings. -/
  port : Option String := none
  timing : LinkTiming := {}
  minRefreshInterval : Nat := defaultRefreshInterval

inductive EngineError where
  | initialSnapshot (cause : BackendError)
  deriving DecidableEq, Repr

def EngineError.message : EngineError → String
  | initialSnapshot cause =>
    "failed to load audio sessions during initialization: " ++ cause.message

/-- How far the engine is with stopping. -/
inductive EnginePhase where
  | running
  /-- The parts have been told to stop. -/
  | stopping
  /-- All parts have ended, and the audio system is given up. -/
  | closing (call : Call)

structure Engine (α : Type) where
  flows : Flows α
  link : Link
  settings : Watched Settings
  fanOut : FanOut := {}
  /-- There is none if no settings file is watched. -/
  watcher : Option Watcher := none
  port : Option String := none
  phase : EnginePhase := .running

/-- The steps of the parts by name. -/
inductive EngineChoice where
  | flow (name : FlowName) (choice : Choice)
  | fanOut (choice : Choice)
  | link (choice : LinkChoice)
  | watcher (choice : Choice)
  | close
  deriving DecidableEq, Repr

/-- What the link gets to know of the settings. -/
def Settings.linkAt (s : Settings) (port : Option String) : LinkSettings :=
  match port with
  | none => s.link
  | some port => { s.link with connection := { s.link.connection with port } }

namespace Engine

variable {α : Type} [AudioSystem α]

/-! ## Start and stop -/

/-- Starts the engine.  Where sessions have to be asked for, those there are have to be
    known before anything else. -/
def start (settings : Settings) (audio : α) (focus : Focus) (board : Board)
    (options : EngineOptions) : Except EngineError (Engine α) :=
  let (reported, audio) := AudioSystem.subscribe audio
  let mode : TrackingMode := if reported then .eventDriven else .polling
  let tracker : Tracker α := .new audio mode settings.mapping.keys options.minRefreshInterval
  let begin (tracker : Tracker α) : Engine α :=
    { flows :=
        { mixer := { tracker, focus }
          settings := { value := settings.routing }
          pump := if reported then .waiting else .ended }
      link := .new (settings.linkAt options.port) board options.timing 1
      settings := { value := settings }
      port := options.port }
  match mode with
  | .eventDriven => .ok (begin tracker)
  -- without a first snapshot no slider could move anything
  | .polling =>
    match tracker.refresh true with
    | (.error cause, _) => .error (.initialSnapshot cause)
    | (.ok _, tracker) => .ok (begin tracker)

/-- Has the settings file at a path watched, unless there is an obstacle to that. -/
def follow (e : Engine α) (path : String) (content : FileContent) (obstacle : Option String) :
    Engine α :=
  { e with watcher :=
      (Watcher.watch (directoryName path) (fileName path) content obstacle).toOption }

/-- Publishes settings, just as the watcher does. -/
def apply (e : Engine α) (settings : Settings) : Engine α :=
  { e with settings := e.settings.send settings }

def shutdown (e : Engine α) : Engine α :=
  { e with
    flows := { e.flows with stop := true }
    link := { e.link with stop := true }
    phase := .stopping }

def allEnded (e : Engine α) : Bool :=
  e.flows.pump.hasEnded && e.flows.worker.hasEnded && e.flows.sync.hasEnded
    && e.flows.router.hasEnded && e.fanOut.hasEnded && e.link.hasEnded
    && e.watcher.all Watcher.hasEnded

/-- How giving up the audio system went, once it is over. -/
def outcome? (e : Engine α) : Option (Except BackendError Unit) :=
  match e.phase with
  | .closing (.finished (.closed r)) => some r
  | _ => none

/-! ## Steps -/

/-- The fan-out ends, and nobody gets new settings from it any more. -/
def stopFanOut? (e : Engine α) : Option (Engine α) :=
  match e.fanOut.phase with
  | .waiting => some { e with
      fanOut := { e.fanOut with phase := .ended }
      flows := { e.flows with settings := e.flows.settings.close }
      link := { e.link with settings := e.link.settings.close } }
  | .routing _ | .linking _ | .ended => none

/-- The fan-out takes the latest settings and sends them on, first to the flows and
    then to the link. -/
def proceedFanOut? (e : Engine α) : Option (Engine α) :=
  match e.fanOut.phase with
  | .waiting =>
    if e.settings.news e.fanOut.seen then
      some { e with fanOut := { phase := .routing e.settings.value, seen := e.settings.version } }
    else none
  -- the flows first: a move made under new settings is routed under them, too
  | .routing s => some { e with
      fanOut := { e.fanOut with phase := .linking s }
      flows := { e.flows with settings := e.flows.settings.send s.routing } }
  | .linking s => some { e with
      fanOut := { e.fanOut with phase := .waiting }
      link := { e.link with settings := e.link.settings.send (s.linkAt e.port) } }
  | .ended => none

/-- The moves on their way from the link to the router. -/
def moves (e : Engine α) : Mailbox Move := e.link.subscribers.headD { capacity := 1 }

def stepFlow? (e : Engine α) (name : FlowName) (choice : Choice) : Option (Engine α) :=
  (e.flows.step? e.moves name choice).map fun (flows, moves) =>
    { e with flows, link := { e.link with subscribers := e.link.subscribers.set 0 moves } }

/-- Once all parts have ended, the sessions and the audio system are given up. -/
def close? (e : Engine α) : Option (Engine α) :=
  match e.phase with
  | .running => none
  | .stopping => if e.allEnded then some { e with phase := .closing .shutdown } else none
  | .closing (.finished _) => none
  | .closing call =>
    let (call, tracker) := call.step e.flows.mixer.tracker
    some { e with
      phase := .closing call
      flows := { e.flows with mixer := { e.flows.mixer with tracker } } }

def step? (e : Engine α) : EngineChoice → Option (Engine α)
  | .flow name choice => e.stepFlow? name choice
  | .fanOut .stop => if e.flows.stop then e.stopFanOut? else none
  | .fanOut .proceed => e.proceedFanOut?
  | .link choice => (e.link.step? choice).map fun link => { e with link }
  | .watcher .stop =>
    if e.flows.stop then
      (e.watcher.bind Watcher.stop?).map fun watcher => { e with watcher := some watcher }
    else none
  | .watcher .proceed =>
    (e.watcher.bind fun w => w.proceed? e.link.now e.settings).map fun (watcher, settings) =>
      { e with watcher := some watcher, settings }
  | .close => e.close?

/-- The order in which the schedule asks the parts. -/
def order : List EngineChoice :=
  Flows.order.map (fun (name, choice) => .flow name choice)
    ++ [.fanOut .stop, .fanOut .proceed, .watcher .stop, .watcher .proceed]
    ++ Link.order.map .link ++ [.close]

/-- The time of the next timer. -/
def timer? (e : Engine α) : Option Nat :=
  match e.link.timer?, e.watcher.bind Watcher.timer? with
  | some x, some y => some (min x y)
  | x, y => x.or y

end Engine

/-- The clock of the engine is the one of the link; the watcher goes by it, too. -/
instance {α : Type} [AudioSystem α] : FlowSystem (Engine α) where
  next? e := Engine.order.findSome? e.step?
  timer? := Engine.timer?
  clock e := e.link.now
  setClock e now := { e with link := { e.link with now } }

end SliderMixer
