import SliderMixer.Tracker

/-! # Tracker operations, section by section

Several callers work on one tracker at the same time.  Each goes through the sections
of its operation, and sections of different callers may come in any order.

* `Call` says which section a caller comes to next.
* `Call.step` does that section.
-/

namespace SliderMixer

inductive CallResult where
  | done
  | removed (found : Bool)
  | refreshed (outcome : Except BackendError RefreshOutcome)
  | closed (outcome : Except BackendError Unit)

/-- What follows once the number of sessions is published. -/
inductive AfterCount where
  | finish (result : CallResult)
  /-- The audio system is given up. -/
  | close

/-- The next section of a caller. -/
inductive Call where
  | insert (s : Session)
  | erase (s : Session)
  | classify (mappedKeys : List String)
  | beginRefresh (force : Bool)
  | enumerate
  | replace (fresh : List Session)
  | takeAll
  /-- Gives handles back, one in each section. -/
  | giveBack (handles : List Session) (next : AfterCount)
  | countSessions (next : AfterCount)
  | publishCount (sessions : Nat) (next : AfterCount)
  | claimClosing
  | closeAudio
  | finished (result : CallResult)

namespace Call

/-! ## First sections -/

def add (s : Session) : Call := .insert s

def remove (s : Session) : Call := .erase s

/-- Following a reported change. -/
def handle (e : SessionEvent) : Call :=
  match e.change with
  | .added => add e.session
  | .removed => remove e.session

def refresh (force : Bool) : Call := .beginRefresh force

def shutdown : Call := .takeAll

/-! ## Sections -/

variable {α : Type} [AudioSystem α]

def step (c : Call) (t : Tracker α) : Call × Tracker α :=
  match c with
  | .insert s => (.countSessions (.finish .done), t.insert s)
  | .erase s =>
    let (found, t) := t.erase s
    if found then (.countSessions (.finish (.removed true)), t) else (.finished (.removed false), t)
  | .classify mappedKeys => (.finished .done, t.classify mappedKeys)
  | .beginRefresh force =>
    match t.beginRefresh force with
    | none => (.finished (.refreshed (.ok .throttled)), t)
    | some t => (.enumerate, t)
  | .enumerate =>
    match t.enumerate with
    | (.error e, t) => (.finished (.refreshed (.error e)), t)
    | (.ok fresh, t) => (.replace fresh, t)
  | .replace fresh =>
    let (stale, t) := t.replace fresh
    (.giveBack stale (.finish (.refreshed (.ok (.refreshed fresh.length)))), t)
  | .takeAll =>
    let (held, t) := t.takeAll
    (.giveBack held .close, t)
  | .giveBack [] next => (.countSessions next, t)
  | .giveBack (s :: rest) next => (.giveBack rest next, t.giveBack s)
  | .countSessions next => (.publishCount t.directory.count next, t)
  | .publishCount n (.finish result) => (.finished result, t.publishCount n)
  | .publishCount n .close => (.claimClosing, t.publishCount n)
  | .claimClosing =>
    match t.claimClosing with
    | (true, t) => (.closeAudio, t)
    | (false, t) => (.finished (.closed (.ok ())), t)
  | .closeAudio =>
    let (r, t) := t.closeAudio
    (.finished (.closed r), t)
  | .finished result => (.finished result, t)

end Call

end SliderMixer
