/-! # Refresh requests

Requests for a refresh are a signal: those that arrive before the signal is taken
are served together, and one forced request makes the whole forced.

A request raises the forced flag, if it is forced, and then rings; taking the signal
stops the ringing and then lowers the flag.
-/

namespace SliderMixer

/-- Whether a refresh may be put off because the last one is recent. -/
inductive RefreshKind where
  /-- It may. -/
  | lazy
  | forced
  deriving DecidableEq, Repr

/-- Someone asked, and someone asked for a forced refresh. -/
structure RefreshSignal where
  ringing : Bool := false
  forced : Bool := false
  deriving DecidableEq, Repr, Inhabited

namespace RefreshSignal

/-- The first half of a request. -/
def raise (s : RefreshSignal) (kind : RefreshKind) : RefreshSignal :=
  match kind with
  | .forced => { s with forced := true }
  | .lazy => s

/-- The second half of a request. -/
def ring (s : RefreshSignal) : RefreshSignal := { s with ringing := true }

def request (s : RefreshSignal) (kind : RefreshKind) : RefreshSignal := (s.raise kind).ring

/-- The first half of taking the signal, if there is one. -/
def answer (s : RefreshSignal) : Option RefreshSignal :=
  if s.ringing then some { s with ringing := false } else none

/-- The second half of taking the signal. -/
def lower (s : RefreshSignal) : RefreshKind × RefreshSignal :=
  (if s.forced then .forced else .lazy, { s with forced := false })

/-- Takes the signal, if there is one. -/
def take (s : RefreshSignal) : Option (RefreshKind × RefreshSignal) := s.answer.map lower

end RefreshSignal

end SliderMixer
