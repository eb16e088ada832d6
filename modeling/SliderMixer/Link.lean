import SliderMixer.Channel.Watched
import SliderMixer.Link.LineReader
import SliderMixer.Schedule

/-! # Slider link

The link keeps the connection to the board and turns its lines into moves.

* It opens the port, and tries again after a while if that fails or the connection
  gets lost.
* Every move goes to the subscribers in order; each of them has room for one move, so
  that a slow one delays the link and loses nothing.
* New settings make every slider report again; another port or speed makes the link
  open the port again.

`Link.step?` is one step of the link; several may be possible at the same time.
-/

namespace SliderMixer

/-! ## State -/

/-- What the link tells about its connection. -/
inductive LinkState where
  | connected (port : String)
  | disconnected
  deriving DecidableEq, Repr

/-- How long the link waits, in milliseconds. -/
structure LinkTiming where
  /-- After the port could not be opened. -/
  retry : Nat := 2000
  /-- After the connection got lost. -/
  reconnect : Nat := 2000
  deriving DecidableEq, Repr, Inhabited

inductive LinkPhase where
  /-- Look at the settings. -/
  | observing
  | opening (c : Connection)
  /-- Wait until the given time. -/
  | pausing (resumeAt : Nat)
  /-- Wait for a line, for new settings, or for the stop signal. -/
  | reading (c : Connection)
  /-- Give out the moves of a line; the first of them went to `served` subscribers. -/
  | delivering (c : Connection) (moves : List Move) (served : Nat)
  | ended
  deriving DecidableEq

/-- The link with all it is connected to. -/
structure Link where
  settings : Watched LinkSettings
  board : Board
  timing : LinkTiming := {}
  subscribers : List (Mailbox Move) := []
  phase : LinkPhase := .observing
  decoder : Decoder
  /-- How many settings it has seen. -/
  seen : Nat := 0
  /-- It has noticed that no new settings will come. -/
  settled : Bool := false
  /-- The reader of the connection, while there is one. -/
  reader : Option LineReader := none
  /-- What it has told, oldest first. -/
  states : List LinkState := []
  stop : Bool := false
  /-- The time, in milliseconds. -/
  now : Nat := 0

/-- The ways in which the link goes on. -/
inductive LinkChoice where
  | stop
  | notice
  | proceed
  | read
  deriving DecidableEq, Repr

namespace Link

def new (settings : LinkSettings) (board : Board) (timing : LinkTiming) (subscribers : Nat) :
    Link :=
  { settings := { value := settings }
    board
    timing
    subscribers := List.replicate subscribers { capacity := 1 }
    decoder := .new settings.decoder }

def hasEnded (l : Link) : Bool := l.phase == .ended

/-! ## Transitions -/

def publish (l : Link) (s : LinkState) : Link := { l with states := l.states ++ [s] }

def leave (l : Link) : Link := { l.publish .disconnected with reader := none }

/-- Stops for good; no subscriber gets a move any more. -/
def finish (l : Link) : Link :=
  { l with phase := .ended, subscribers := l.subscribers.map Mailbox.dropSender }

/-- Takes over the settings there are. -/
def observe (l : Link) : Link :=
  { l with
    decoder := l.decoder.setSettings l.settings.value.decoder
    seen := l.settings.version
    phase := .opening l.settings.value.connection }

/-- Opens the port.  The decoder forgets what it knows, so that every slider reports
    again. -/
def openPort (l : Link) (c : Connection) : Link :=
  let (r, board) := l.board.openPort c
  match r with
  -- nothing is told, since nothing was connected
  | .error _ => { l with board, phase := .pausing (l.now + l.timing.retry) }
  | .ok stream =>
    { (l.publish (.connected c.port)) with
      board
      decoder := l.decoder.reset
      reader := some { stream }
      phase := .reading c }

def lose (l : Link) : Link := { l.leave with phase := .pausing (l.now + l.timing.reconnect) }

/-- Takes the next line, if there is one. -/
def takeLine? (l : Link) (c : Connection) : Option Link :=
  match l.reader with
  | none => none
  | some r =>
    match r.lines.receive with
    | (.item (.line text), lines) =>
      let (moves, decoder) := l.decoder.decode text
      some { l with
        decoder
        reader := some { r with lines }
        phase := .delivering c moves 0 }
    -- a failure and the end of the stream come to the same
    | (.item (.failure _), _) | (.ended, _) => some l.lose
    | (.waiting, _) => none

/-- Gives the first move to the next subscriber, once it has room.  One that is gone
    is passed over. -/
def deliver? (l : Link) (c : Connection) (moves : List Move) (served : Nat) : Option Link :=
  match moves with
  | [] => some { l with phase := .reading c }
  | move :: rest =>
    match l.subscribers[served]? with
    -- every subscriber has had its turn
    | none => some { l with phase := .delivering c rest 0 }
    | some m =>
      if m.receiverGone || m.hasRoom then
        some { l with
          subscribers := l.subscribers.set served (m.offer move).2
          phase := .delivering c moves (served + 1) }
      else none

/-! ## Steps -/

/-- The stop signal is heeded at the port, in a pause, and between two lines. -/
def stop? (l : Link) : Option Link :=
  match l.phase with
  | .opening _ | .pausing _ => some l.finish
  | .reading _ => some l.leave.finish
  | .observing | .delivering .. | .ended => none

/-- New settings are noticed between two lines.  They make every slider report again,
    and make the link leave a connection that is not the one wanted. -/
def notice? (l : Link) : Option Link :=
  match l.phase with
  | .reading c =>
    if l.settings.news l.seen then
      let s := l.settings.value
      let l := { l with
        decoder := (l.decoder.setSettings s.decoder).reset
        seen := l.settings.version }
      some (if s.connection = c then l else { l.leave with phase := .observing })
    -- from now on only lines and the stop signal matter
    else if l.settings.closed && !l.settled then some { l with settled := true }
    else none
  | .observing | .opening _ | .pausing _ | .delivering .. | .ended => none

def proceed? (l : Link) : Option Link :=
  match l.phase with
  | .observing => some l.observe
  | .opening c => some (l.openPort c)
  | .pausing resumeAt => if resumeAt ≤ l.now then some { l with phase := .observing } else none
  | .reading c => l.takeLine? c
  | .delivering c moves served => l.deliver? c moves served
  | .ended => none

def read? (l : Link) : Option Link :=
  match l.reader with
  | none => none
  | some r => (r.step? l.board).map fun (r, board) => { l with reader := some r, board }

def step? (l : Link) : LinkChoice → Option Link
  | .stop => if l.stop then l.stop? else none
  | .notice => l.notice?
  | .proceed => l.proceed?
  | .read => l.read?

/-- The order in which the schedule asks the link. -/
def order : List LinkChoice := [.stop, .notice, .proceed, .read]

/-- The time at which a pause ends. -/
def timer? (l : Link) : Option Nat :=
  match l.phase with
  | .pausing resumeAt => some resumeAt
  | .observing | .opening _ | .reading _ | .delivering .. | .ended => none

def unsubscribe (l : Link) (subscriber : Nat) : Link :=
  { l with subscribers := l.subscribers.modify subscriber Mailbox.dropReceiver }

def receive (l : Link) (subscriber : Nat) : Received Move × Link :=
  match l.subscribers[subscriber]? with
  | none => (.ended, l)
  | some m =>
    let (found, m) := m.receive
    (found, { l with subscribers := l.subscribers.set subscriber m })

end Link

instance : FlowSystem Link where
  next? l := Link.order.findSome? l.step?
  timer? := Link.timer?
  clock l := l.now
  setClock l now := { l with now }

end SliderMixer
