import SliderMixer.Routing

/-! # A routing pass, step by step

While a move is followed, other flows may change the directory between any two
steps: the handles a pass works on were copied out of the directory before.

* `Pass` is what is left to do for one move.
* `Pass.step` does the next thing: one look into the settings or the directory, or
  one call of the audio system.
-/

namespace SliderMixer

/-- Something left to do in a pass. -/
inductive Visit where
  | target (text : String)
  | key (key : String)
  /-- Compare a session's volume. -/
  | session (s : Session)
  /-- Set a session's volume. -/
  | adjust (s : Session)
  deriving DecidableEq

/-- How far a pass has come. -/
inductive Pass where
  /-- The targets of the slider are to be looked up. -/
  | begun (move : Move)
  | visiting (move : Move) (visits : List Visit) (outcome : RouteOutcome)
  /-- A refresh is to be requested: first the flag, then the bell. -/
  | raising (kind : RefreshKind) (outcome : RouteOutcome)
  | ringing (outcome : RouteOutcome)
  | finished (outcome : RouteOutcome)
  deriving DecidableEq

namespace Pass

variable {α : Type} [AudioSystem α]

/-- Does one visit: a target makes way for its keys, a key for its sessions. -/
def visit (m : Mixer α) (move : Move) (o : RouteOutcome) :
    Visit → List Visit × RouteOutcome × Mixer α
  | .target text =>
    let (keys, m) := m.resolve text
    (keys.map .key, o, m)
  | .key k =>
    match m.tracker.lookup k with
    | none => ([], o, m)
    | some sessions => (sessions.map .session, { o with found := true }, m)
  | .session s => (if m.atVolume s move.value then [] else [.adjust s], o, m)
  | .adjust s =>
    let (o, m) := m.adjust o s move.value
    ([], o, m)

/-- Does the next thing; `mapping` is the one in force. -/
def step (p : Pass) (mapping : SliderMapping) (m : Mixer α) : Pass × Mixer α :=
  match p with
  | .begun move =>
    match mapping.get? move.slider with
    | none => (.finished {}, m)
    | some targets => (.visiting move (targets.map .target) { mapped := true }, m)
  | .visiting move (v :: rest) o =>
    let (first, o, m) := visit m move o v
    (.visiting move (first ++ rest) o, m)
  | .visiting _ [] o =>
    match o.wanted m.tracker.mode with
    | none => (.finished o, m)
    | some kind => (.raising kind { o with refresh := some kind }, m)
  | .raising kind o => (.ringing o, { m with signal := m.signal.raise kind })
  | .ringing o => (.finished o, { m with signal := m.signal.ring })
  | .finished o => (.finished o, m)

end Pass

end SliderMixer
