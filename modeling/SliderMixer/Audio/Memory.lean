import SliderMixer.Audio

/-! # Sessions in memory

An audio system without sound: its sessions are started and ended by calls, and it
records every volume change.

* A `Control` is a session; every handle to it shares the volume.
* Where the system has to be asked, each enumeration gives new handles; otherwise a
  session has one handle, and its start and end are reported through a mailbox, a
  moment after they happen.
* A handle that was given back refuses volume changes, through that handle alone.
-/

namespace SliderMixer

/-! ## State -/

structure Control where
  /-- The name under which it was started. -/
  name : String
  key : String
  volume : Binary32
  /-- The volumes applied so far, oldest first. -/
  applied : List Binary32 := []
  /-- Volume changes fail, as when the application is gone. -/
  failing : Bool := false
  deriving DecidableEq, Inhabited

/-- A session that has not ended, with the handle that stands for it in reports. -/
structure Live where
  control : Nat
  handle : Session
  deriving DecidableEq, Inhabited

/-- How many reports wait at most for the receiver. -/
def eventCapacity : Nat := 100

/-- The sessions ever started and the handles ever made, each known by its number. -/
structure MemoryAudio where
  mode : TrackingMode
  controls : List Control := []
  /-- The session behind each handle. -/
  handles : List Nat := []
  released : List Nat := []
  live : List Live := []
  failEnumeration : Bool := false
  events : Mailbox SessionEvent := { capacity := eventCapacity }
  subscribed : Bool := false
  backendReleases : Nat := 0
  deriving DecidableEq, Inhabited

/-- The volume of a session where none is given. -/
def defaultVolume : Binary32 := Binary32.one

namespace MemoryAudio

def new (mode : TrackingMode) : MemoryAudio := { mode }

/-! ## Sessions -/

/-- The session behind a handle. -/
def control? (a : MemoryAudio) (s : Session) : Option Nat := a.handles[s.id]?

def isReleased (a : MemoryAudio) (s : Session) : Bool := a.released.contains s.id

def makeHandle (a : MemoryAudio) (control : Nat) (key : String) : Session × MemoryAudio :=
  ({ id := a.handles.length, key }, { a with handles := a.handles ++ [control] })

/-- Reports a change, if the system reports changes.  A report that finds no room is
    lost. -/
def publish (a : MemoryAudio) (change : SessionChange) (s : Session) (control : Nat) :
    MemoryAudio :=
  match a.mode with
  | .polling => a
  | .eventDriven =>
    let name := (a.controls[control]?).elim "" Control.name
    { a with events := (a.events.offer { change, name, session := s }).2 }

/-- Starts a session and does not report it yet. -/
def startSession (a : MemoryAudio) (name key : String) (volume : Binary32) : Live × MemoryAudio :=
  let control := a.controls.length
  let a := { a with controls := a.controls ++ [({ name, key, volume } : Control)] }
  let (handle, a) := a.makeHandle control key
  let l : Live := { control, handle }
  (l, { a with live := a.live ++ [l] })

/-- Starts a session, reports it, and gives its number. -/
def addSession (a : MemoryAudio) (name key : String) (volume : Binary32) : Nat × MemoryAudio :=
  let (l, a) := a.startSession name key volume
  (l.control, a.publish .added l.handle l.control)

/-- Ends a session, if it is live, and does not report it yet. -/
def endSession (a : MemoryAudio) (control : Nat) : Option Live × MemoryAudio :=
  match a.live.find? fun l => l.control == control with
  | none => (none, a)
  | some l => (some l, { a with live := a.live.filter fun l => l.control != control })

/-- Ends a session, if it is live, and reports its end; says whether it was live. -/
def removeSession (a : MemoryAudio) (control : Nat) : Bool × MemoryAudio :=
  match a.endSession control with
  | (none, a) => (false, a)
  | (some l, a) => (true, a.publish .removed l.handle control)

def changeControl (a : MemoryAudio) (control : Nat) (f : Control → Control) : MemoryAudio :=
  { a with controls := a.controls.modify control f }

def setFailing (a : MemoryAudio) (control : Nat) (failing : Bool) : MemoryAudio :=
  a.changeControl control fun c => { c with failing }

def setFailEnumeration (a : MemoryAudio) (fail : Bool) : MemoryAudio :=
  { a with failEnumeration := fail }

/-- The number of the latest session started under a name. -/
def named? (a : MemoryAudio) (name : String) : Option Nat :=
  let latest := a.controls.reverse.findIdx? fun c => c.name == name
  latest.map fun i => a.controls.length - 1 - i

def releasedCount (a : MemoryAudio) : Nat := a.released.length

/-! ## Calls of the mixer -/

/-- New handles to live sessions, in order. -/
def freshHandles (a : MemoryAudio) : List Live → List Session × MemoryAudio
  | [] => ([], a)
  | l :: rest =>
    let (s, a) := a.makeHandle l.control l.handle.key
    let (ss, a) := a.freshHandles rest
    (s :: ss, a)

def enumerate (a : MemoryAudio) : Except BackendError (List Session) × MemoryAudio :=
  if a.failEnumeration then (.error (.enumerate "in-memory backend set to fail"), a)
  else
    match a.mode with
    | .eventDriven => (.ok (a.live.map (·.handle)), a)
    | .polling =>
      let (ss, a) := a.freshHandles a.live
      (.ok ss, a)

def volume (a : MemoryAudio) (s : Session) : Binary32 :=
  match (a.control? s).bind fun c => a.controls[c]? with
  | some c => c.volume
  | none => Binary32.zero

/-- Sets a volume through a handle: it must not be given back, the volume must lie
    between `0` and `1`, and the session must not be failing. -/
def setVolume (a : MemoryAudio) (s : Session) (volume : Binary32) :
    Except SessionError Unit × MemoryAudio :=
  if a.isReleased s then (.error (.released s.key), a)
  else if !volume.inUnitInterval then (.error (.volumeOutOfRange volume), a)
  else
    match a.control? s with
    | none => (.error (.setVolume s.key "session is no longer available"), a)
    | some control =>
      -- the application behind the session is gone
      if (a.controls[control]?).any (·.failing) then
        (.error (.setVolume s.key "session is no longer available"), a)
      else
        (.ok (), a.changeControl control fun c => { c with volume, applied := c.applied ++ [volume] })

/-- Gives a handle back; a second time changes nothing. -/
def releaseSession (a : MemoryAudio) (s : Session) : MemoryAudio :=
  if a.isReleased s then a else { a with released := a.released ++ [s.id] }

/-- Hands out the stream of reports, once. -/
def subscribe (a : MemoryAudio) : Bool × MemoryAudio :=
  match a.mode with
  | .polling => (false, a)
  | .eventDriven => (!a.subscribed, { a with subscribed := true })

instance : AudioSystem MemoryAudio where
  subscribe := subscribe
  nextEvent a := let (r, events) := a.events.receive; (r, { a with events })
  unsubscribe a := { a with events := a.events.dropReceiver }
  enumerate := enumerate
  volume := volume
  setVolume := setVolume
  releaseSession := releaseSession
  releaseBackend a := (.ok (), { a with backendReleases := a.backendReleases + 1 })

end MemoryAudio

end SliderMixer
