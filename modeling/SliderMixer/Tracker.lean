import SliderMixer.Audio
import SliderMixer.Channel.Watched
import SliderMixer.Directory

/-! # Session tracking

A tracker keeps a directory in step with an audio system and tells how many
sessions there are.

* `Tracker.add`, `remove`, `handle`, `classify`, `refresh` and `shutdown` are its
  operations, each done as a whole.
* They are made of the sections in the first part.  A section either changes the
  directory, or calls the audio system, and never both, since the directory is not
  held while the audio system works.
-/

namespace SliderMixer

/-- How long at least lies between two refreshes that are not forced. -/
def defaultRefreshInterval : Nat := 2000

/-- A directory, the audio system it follows, and the count it publishes. -/
structure Tracker (α : Type) where
  audio : α
  mode : TrackingMode
  minInterval : Nat := defaultRefreshInterval
  /-- The time, in milliseconds. -/
  now : Nat := 0
  directory : Directory := {}
  count : Watched Nat := { value := 0 }
  /-- Someone has set out to give up the audio system. -/
  closing : Bool := false

inductive RefreshOutcome where
  /-- The last refresh is too recent. -/
  | throttled
  | refreshed (sessions : Nat)
  deriving DecidableEq, Repr

namespace Tracker

variable {α : Type} [AudioSystem α]

/-- A tracker with an empty directory. -/
def new (audio : α) (mode : TrackingMode) (mappedKeys : List String) (minInterval : Nat) :
    Tracker α :=
  { audio, mode, minInterval, directory := .new mappedKeys }

/-! ## Sections -/

def publishCount (t : Tracker α) (n : Nat) : Tracker α := { t with count := t.count.send n }

def countChanged (t : Tracker α) : Tracker α := t.publishCount t.directory.count

def insert (t : Tracker α) (s : Session) : Tracker α :=
  { t with directory := t.directory.insert s }

def erase (t : Tracker α) (s : Session) : Bool × Tracker α :=
  let (found, directory) := t.directory.remove s
  (found, { t with directory })

/-- Notes the begin of a refresh, if it may begin. -/
def beginRefresh (t : Tracker α) (force : Bool) : Option (Tracker α) :=
  (t.directory.beginRefresh t.now t.minInterval force).map fun directory => { t with directory }

def enumerate (t : Tracker α) : Except BackendError (List Session) × Tracker α :=
  let (r, audio) := AudioSystem.enumerate t.audio
  (r, { t with audio })

/-- Fills the directory anew and gives out the handles that no longer belong to it.
    Where the system reports changes they are still in use. -/
def replace (t : Tracker α) (fresh : List Session) : List Session × Tracker α :=
  let (stale, directory) := t.directory.replaceAll fresh
  let given :=
    match t.mode with
    -- a handle that was given out again stays in use
    | .polling => stale.filter fun old => !fresh.any fun new => old.same new
    | .eventDriven => []
  (given, { t with directory })

def giveBack (t : Tracker α) (s : Session) : Tracker α :=
  { t with audio := AudioSystem.releaseSession t.audio s }

/-- Empties the directory and gives out the handles to be given back. -/
def takeAll (t : Tracker α) : List Session × Tracker α :=
  let (held, directory) := t.directory.takeAll
  let given :=
    match t.mode with
    | .polling => held
    | .eventDriven => []
  (given, { t with directory })

/-- Sets out to give up the audio system; only the first to do so may go on. -/
def claimClosing (t : Tracker α) : Bool × Tracker α := (!t.closing, { t with closing := true })

def closeAudio (t : Tracker α) : Except BackendError Unit × Tracker α :=
  let (r, audio) := AudioSystem.releaseBackend t.audio
  (r, { t with audio })

/-! ## Operations -/

def add (t : Tracker α) (s : Session) : Tracker α := (t.insert s).countChanged

def remove (t : Tracker α) (s : Session) : Bool × Tracker α :=
  let (found, t) := t.erase s
  (found, if found then t.countChanged else t)

def handle (t : Tracker α) (e : SessionEvent) : Tracker α :=
  match e.change with
  | .added => t.add e.session
  | .removed => (t.remove e.session).2

/-- Follows the next reported change, if there is one. -/
def handleNext (t : Tracker α) : Option SessionEvent × Tracker α :=
  match AudioSystem.nextEvent t.audio with
  | (.item e, audio) => (some e, ({ t with audio } : Tracker α).handle e)
  | (.waiting, audio) | (.ended, audio) => (none, { t with audio })

/-- Follows the reported changes that wait, at most `n` of them. -/
def handleUpTo (t : Tracker α) : Nat → List SessionEvent × Tracker α
  | 0 => ([], t)
  | n + 1 =>
    match t.handleNext with
    | (none, t) => ([], t)
    | (some e, t) =>
      let (rest, t) := t.handleUpTo n
      (e :: rest, t)

def classify (t : Tracker α) (mappedKeys : List String) : Tracker α :=
  { t with directory := t.directory.classify mappedKeys }

/-- Replaces the sessions by those there are now.  If they cannot be listed, the
    sessions stay. -/
def refresh (t : Tracker α) (force : Bool) : Except BackendError RefreshOutcome × Tracker α :=
  match t.beginRefresh force with
  | none => (.ok .throttled, t)
  | some t =>
    match t.enumerate with
    | (.error e, t) => (.error e, t)
    | (.ok fresh, t) =>
      -- the old handles are given back only after nobody can look them up any more
      let (stale, t) := t.replace fresh
      (.ok (.refreshed fresh.length), (stale.foldl giveBack t).countChanged)

/-- Empties the directory and gives up the audio system, once. -/
def shutdown (t : Tracker α) : Except BackendError Unit × Tracker α :=
  let (held, t) := t.takeAll
  let t := (held.foldl giveBack t).countChanged
  match t.claimClosing with
  -- somebody else gives it up, or has already done so
  | (false, t) => (.ok (), t)
  | (true, t) => t.closeAudio

/-! ## Views -/

def lookup (t : Tracker α) (key : String) : Option (List Session) := t.directory.lookup key

def sessionCount (t : Tracker α) : Nat := t.directory.count

/-- The tracker as shown to a user. -/
def text (t : Tracker α) : String := "<" ++ toString t.sessionCount ++ " audio sessions>"

end Tracker

end SliderMixer
