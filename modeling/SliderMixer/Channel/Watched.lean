/-! # Watched values

A watched value always holds the latest value sent.  A reader remembers how many
values it has seen, so values sent in between are skipped.
-/

namespace SliderMixer

/-- The latest value, the number of values sent since the first one, and whether
    the sender is gone. -/
structure Watched (β : Type) where
  value : β
  version : Nat := 0
  closed : Bool := false
  deriving DecidableEq, Inhabited

namespace Watched

variable {β : Type}

def send (w : Watched β) (value : β) : Watched β :=
  { w with value, version := w.version + 1 }

/-- The sender goes away; the value stays. -/
def close (w : Watched β) : Watched β := { w with closed := true }

/-- A reader that saw `seen` values has a new one to look at. -/
def news (w : Watched β) (seen : Nat) : Bool := w.version != seen

end Watched

end SliderMixer
