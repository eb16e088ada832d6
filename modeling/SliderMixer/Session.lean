import SliderMixer.Binary32.Decimal

/-! # Audio sessions

A session is one thing with a volume: an application, a device, or one of the
three system sessions.

* `Session` is a handle to one, as an audio backend gave it out.
* `isReservedKey` and `isDeviceKey` tell the keys that never count as an
  application left over by the settings.
* `SessionError` and `BackendError` are the ways a session or a backend can fail.
-/

namespace SliderMixer

/-! ## Handles -/

/-- A handle to a session.  Two handles are the same object exactly when their
    identities agree. -/
structure Session where
  id : Nat
  /-- What targets are matched against: a lowercase application name, a device's
      own name, or a reserved key. -/
  key : String
  deriving DecidableEq, Repr, Inhabited

/-- The same object, whatever the keys say. -/
def Session.same (a b : Session) : Bool := a.id == b.id

/-! ## Keys -/

def masterKey : String := "master"
def systemKey : String := "system"
def inputKey : String := "mic"

/-- The keys of the system sessions. -/
def isReservedKey (key : String) : Bool :=
  key == masterKey || key == systemKey || key == inputKey

/-- Some place in `body`, after at least one character, reads `" ("` with something
    behind it. -/
def opensParenthesis : List Char → Bool
  | [] => false
  | _ :: rest =>
    (match rest with
      | ' ' :: '(' :: _ :: _ => true
      | _ => false)
    || opensParenthesis rest

/-- A device's name ends in a parenthesis, as in `Headphones (Realtek Audio)`: some
    text, a space, and something in parentheses up to the end. -/
def isDeviceKey (key : String) : Bool :=
  match key.toList.reverse with
  | ')' :: body => opensParenthesis body.reverse
  | _ => false

/-! ## Events -/

inductive SessionChange where
  | added
  | removed
  deriving DecidableEq, Repr

/-- A backend reports that a session appeared or went away. -/
structure SessionEvent where
  change : SessionChange
  /-- The backend's own name for the session, for the record only. -/
  name : String
  session : Session
  deriving DecidableEq, Repr

/-! ## Failures -/

/-- Why a session's volume could not be set. -/
inductive SessionError where
  | setVolume (key reason : String)
  | volumeOutOfRange (volume : Binary32)
  /-- The handle was given back before. -/
  | released (key : String)
  deriving DecidableEq

def SessionError.message : SessionError → String
  | setVolume key reason => "failed to set volume on session " ++ key ++ ": " ++ reason
  | volumeOutOfRange volume => "volume " ++ volume.text ++ " is outside the range 0.0..=1.0"
  | released key => "session " ++ key ++ " has already been released"

/-- Why a backend could not do its work. -/
inductive BackendError where
  | unsupported (platform : String)
  | enumerate (reason : String)
  | release (reason : String)
  deriving DecidableEq, Repr

def BackendError.message : BackendError → String
  | unsupported platform => "audio backend is not supported on this platform: " ++ platform
  | enumerate reason => "failed to enumerate audio sessions: " ++ reason
  | release reason => "failed to release audio backend: " ++ reason

end SliderMixer
