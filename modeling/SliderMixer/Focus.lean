/-! # Foreground window

Some targets mean the applications behind the foreground window.

* `FocusCache` remembers the last answer to either question for a while; failures are
  not remembered.
* `Focus` is the question as the mixer asks it, with a cache or without.
-/

namespace SliderMixer

inductive FocusError where
  | unsupported
  | query (reason : String)
  deriving DecidableEq, Repr

def FocusError.message : FocusError → String
  | unsupported => "foreground window lookup is not supported on this platform"
  | query reason => "foreground window query failed: " ++ reason

abbrev FocusAnswer := Except FocusError (List String)

/-! ## Cache -/

/-- How long an answer is used again, in milliseconds. -/
def defaultFocusCooldown : Nat := 350

/-- An answer and when it was given. -/
structure FocusMemory where
  time : Nat
  names : List String
  deriving DecidableEq, Repr

/-- The last answers to the plain question and to the one about a full screen. -/
structure FocusCache where
  cooldown : Nat := defaultFocusCooldown
  windowed : Option FocusMemory := none
  fullscreen : Option FocusMemory := none
  deriving DecidableEq, Repr

namespace FocusCache

def slot (c : FocusCache) (fullscreen : Bool) : Option FocusMemory :=
  if fullscreen then c.fullscreen else c.windowed

def setSlot (c : FocusCache) (fullscreen : Bool) (m : FocusMemory) : FocusCache :=
  if fullscreen then { c with fullscreen := some m } else { c with windowed := some m }

/-- The names remembered for a question, while they are recent. -/
def recent? (c : FocusCache) (now : Nat) (fullscreen : Bool) : Option (List String) :=
  (c.slot fullscreen).bind fun m => if now - m.time < c.cooldown then some m.names else none

/-- Remembers an answer, unless it is a failure. -/
def record (c : FocusCache) (now : Nat) (fullscreen : Bool) (answer : FocusAnswer) : FocusCache :=
  match answer with
  | .ok names => c.setSlot fullscreen { time := now, names }
  | .error _ => c

end FocusCache

/-! ## Asking -/

/-- What the desktop answers at present, the cache in front of it, and how often it
    was asked. -/
structure Focus where
  answers : Bool → FocusAnswer := fun _ => .error .unsupported
  cache : Option FocusCache := none
  queries : Nat := 0

namespace Focus

/-- Asks the desktop. -/
def query (f : Focus) (fullscreen : Bool) : FocusAnswer × Focus :=
  (f.answers fullscreen, { f with queries := f.queries + 1 })

/-- Asks through the cache, if there is one.  The desktop takes until `answered`. -/
def askUntil (f : Focus) (asked answered : Nat) (fullscreen : Bool) : FocusAnswer × Focus :=
  match f.cache with
  | none => f.query fullscreen
  | some c =>
    match c.recent? asked fullscreen with
    | some names => (.ok names, f)
    | none =>
      -- a failure is passed on, and asked for again the next time
      let (answer, f) := f.query fullscreen
      (answer, { f with cache := some (c.record answered fullscreen answer) })

/-- Asks a desktop that takes no time, as the mixer does. -/
def ask (f : Focus) (now : Nat) (fullscreen : Bool) : FocusAnswer × Focus :=
  f.askUntil now now fullscreen

end Focus

end SliderMixer
