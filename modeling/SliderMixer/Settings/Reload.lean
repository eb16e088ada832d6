import SliderMixer.Channel.Watched
import SliderMixer.Settings.File

/-! # Reloading settings

The settings file is watched while the mixer runs.

* A `Reloader` keeps attempts to load the file apart, and waits a little before each
  of them so that the writer can finish.
* The `Watcher` is the flow that follows the changes of the file.  Changes that come
  while it is busy are served together, once.
* Settings that cannot be loaded, or that are the current ones, are not published.
-/

namespace SliderMixer

/-! ## Attempts -/

/-- Times in milliseconds. -/
structure ReloadTiming where
  /-- How long at least lies between two attempts. -/
  minInterval : Nat := 500
  /-- How long the file is left alone before it is read. -/
  settle : Nat := 50
  deriving DecidableEq, Repr, Inhabited

/-- When the last attempt was made. -/
structure Reloader where
  timing : ReloadTiming := {}
  last : Option Nat := none
  deriving DecidableEq, Repr, Inhabited

namespace Reloader

/-- Notes an attempt, and gives the time at which the file is to be read.  An attempt
    too soon after the last one is not made, and does not count as the last one. -/
def attempt? (r : Reloader) (now : Nat) : Option (Nat × Reloader) :=
  let tooSoon := r.last.any fun last => now - last < r.timing.minInterval
  if tooSoon then none else some (now + r.timing.settle, { r with last := some now })

end Reloader

/-- The settings in a file's content, if they can be loaded. -/
def Settings.ofContent? (content : FileContent) : Option Settings :=
  (Settings.load "" content).toOption

/-! ## Watcher -/

inductive WatcherPhase where
  | waiting
  /-- Read the file at the given time. -/
  | settling (readAt : Nat)
  /-- See whether the settings are new. -/
  | comparing (loaded : Settings)
  | publishing (loaded : Settings)
  | ended
  deriving DecidableEq

/-- The watcher of a settings file, with the file it watches. -/
structure Watcher where
  /-- The name of the file in its directory. -/
  name : String
  content : FileContent := .missing
  reloader : Reloader := {}
  /-- A change is to be served. -/
  changed : Bool := false
  phase : WatcherPhase := .waiting
  deriving DecidableEq

namespace Watcher

/-- Begins to watch a file.  Its directory has to be there, or has to be made; what
    prevents that is the `obstacle`. -/
def watch (directory name : String) (content : FileContent) (obstacle : Option String) :
    Except SettingsError Watcher :=
  match obstacle with
  | some reason => .error (.unwatchable directory reason)
  | none => .ok { name, content }

/-- A file of the directory gets a new content. -/
def write (w : Watcher) (name : String) (content : FileContent) : Watcher :=
  if name = w.name then { w with content, changed := true } else w

/-- The file goes away, which does not count as a change. -/
def remove (w : Watcher) : Watcher := { w with content := .missing }

/-- The stop signal is heeded between two changes. -/
def stop? (w : Watcher) : Option Watcher :=
  match w.phase with
  | .waiting => some { w with phase := .ended }
  | .settling _ | .comparing _ | .publishing _ | .ended => none

def proceed? (w : Watcher) (now : Nat) (settings : Watched Settings) :
    Option (Watcher × Watched Settings) :=
  match w.phase with
  | .waiting =>
    if w.changed then
      let w := { w with changed := false }
      match w.reloader.attempt? now with
      -- the change is forgotten, not put off
      | none => some (w, settings)
      | some (readAt, reloader) => some ({ w with reloader, phase := .settling readAt }, settings)
    else none
  | .settling readAt =>
    if readAt ≤ now then
      match Settings.ofContent? w.content with
      | none => some ({ w with phase := .waiting }, settings)
      | some loaded => some ({ w with phase := .comparing loaded }, settings)
    else none
  | .comparing loaded =>
    some ({ w with phase := if settings.value = loaded then .waiting else .publishing loaded },
      settings)
  | .publishing loaded => some ({ w with phase := .waiting }, settings.send loaded)
  | .ended => none

/-- The time at which the file is to be read. -/
def timer? (w : Watcher) : Option Nat :=
  match w.phase with
  | .settling readAt => some readAt
  | .waiting | .comparing _ | .publishing _ | .ended => none

def hasEnded (w : Watcher) : Bool :=
  match w.phase with
  | .ended => true
  | .waiting | .settling _ | .comparing _ | .publishing _ => false

end Watcher

end SliderMixer
