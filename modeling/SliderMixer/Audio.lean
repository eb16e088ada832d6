import SliderMixer.Channel.Mailbox
import SliderMixer.Session

/-! # Audio systems

What the mixer needs of the system that plays sound.

* `AudioSystem` lists the calls; a state of the audio system goes in and comes out.
* `UnsupportedAudio` is the system of a platform that has none.
-/

namespace SliderMixer

/-- How the sessions of an audio system become known. -/
inductive TrackingMode where
  /-- The system reports each change. -/
  | eventDriven
  /-- The system has to be asked. -/
  | polling
  deriving DecidableEq, Repr, Inhabited

/-- A system that plays sound, with states `α`. -/
class AudioSystem (α : Type) where
  /-- Hands out the stream of changes, once, if the system reports changes. -/
  subscribe : α → Bool × α
  nextEvent : α → Received SessionEvent × α
  /-- The receiver of the changes goes away. -/
  unsubscribe : α → α
  /-- All sessions there are.  A system that has to be asked gives new handles each
      time. -/
  enumerate : α → Except BackendError (List Session) × α
  volume : α → Session → Binary32
  setVolume : α → Session → Binary32 → Except SessionError Unit × α
  releaseSession : α → Session → α
  /-- Gives up the system itself. -/
  releaseBackend : α → Except BackendError Unit × α

/-- The audio system of a platform without one. -/
inductive UnsupportedAudio where
  | unsupported

/-- The name of the platform in messages. -/
def platformName : String := "linux"

instance : AudioSystem UnsupportedAudio where
  subscribe a := (false, a)
  nextEvent a := (.ended, a)
  unsubscribe a := a
  enumerate a := (.error (.unsupported platformName), a)
  volume _ _ := Binary32.zero
  setVolume a s _ := (.error (.released s.key), a)
  releaseSession a _ := a
  releaseBackend a := (.ok (), a)

end SliderMixer
