import SliderMixer.Text.Lowercase

/-! # Targets

A target is what a slider controls: a session key, or a special name that is
looked up anew for every move.

* `Target.ofText` reads a target in any letter case.
* Names that start with `deej.` are special, so that they cannot be mistaken for
  an application.
-/

namespace SliderMixer

/-- The targets that are looked up for every move. -/
inductive SpecialTarget where
  /-- The applications behind the foreground window. -/
  | currentWindow
  /-- As `currentWindow`, while that window fills the screen. -/
  | currentFullscreenWindow
  /-- Every application that no slider names. -/
  | allUnmapped
  deriving DecidableEq, Repr

/-- The name after the prefix. -/
def SpecialTarget.name : SpecialTarget → String
  | currentWindow => "current"
  | currentFullscreenWindow => "current.fullscreen"
  | allUnmapped => "unmapped"

def SpecialTarget.ofName? (name : String) : Option SpecialTarget :=
  [currentWindow, currentFullscreenWindow, allUnmapped].find? fun t => t.name == name

/-- What marks a special target. -/
def specialMark : String := "deej."

/-- A target in lowercase. -/
inductive Target where
  | key (key : String)
  | special (target : SpecialTarget)
  /-- The mark followed by a name that means nothing. -/
  | unknown (name : String)
  deriving DecidableEq, Repr

/-- `text` without `mark` at its front, if it is there. -/
def stripMark? (mark text : List Char) : Option (List Char) :=
  match mark, text with
  | [], rest => some rest
  | m :: mark, c :: rest => if m = c then stripMark? mark rest else none
  | _ :: _, [] => none

namespace Target

def ofText (text : String) : Target :=
  let lowered := lower text
  match stripMark? specialMark.toList lowered.toList with
  | none => key lowered
  | some rest =>
    let name := String.ofList rest
    match SpecialTarget.ofName? name with
    | some t => special t
    | none => unknown name

def isSpecial : Target → Bool
  | key _ => false
  | special _ | unknown _ => true

/-- The session key, if the target is one. -/
def key? : Target → Option String
  | key k => some k
  | special _ | unknown _ => none

end Target

end SliderMixer
