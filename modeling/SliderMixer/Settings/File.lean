import SliderMixer.FileTree
import SliderMixer.Settings
import SliderMixer.Text.Utf8
import SliderMixer.Toml.Document

/-! # Settings files

* `Settings.ofFields?` reads the settings from the fields of a file.
* `Settings.load` reads what stands at a path; a missing file means the defaults.
* `settingsFile?` is the path of the file where none is given.
-/

namespace SliderMixer

/-! ## Reading fields -/

namespace Settings

/-- What becomes of the items of a list for which a record has no field. -/
inductive Surplus where
  | ignored
  | refused
  deriving DecidableEq, Repr

/-- The fields of a record: those of the value, or the items of a list in the order of
    the record's own fields. -/
def recordFields? (surplus : Surplus) (names : List String) :
    Toml.Value → Option (List (String × Toml.Value))
  | .list items =>
    if surplus = .refused ∧ names.length < items.length then none else some (names.zip items)
  | v => v.fields?

/-- The value of a field read by `read`, or the default if it is absent. -/
def readField? {α : Type} (fields : List (String × Toml.Value)) (name : String) (absent : α)
    (read : Toml.Value → Option α) : Option α :=
  match Toml.Value.field? fields name with
  | some v => read v
  | none => some absent

def text? : Toml.Value → Option String
  | .text s => some s
  | _ => none

def boolean? : Toml.Value → Option Bool
  | .boolean b => some b
  | _ => none

def integer? : Toml.Value → Option Int
  | .integer n => if Int64.minValue.toInt ≤ n ∧ n ≤ Int64.maxValue.toInt then some n else none
  | _ => none

def entryValue? : Toml.Value → Option TargetEntry
  | .text s => some (.one s)
  | .list items => (items.mapM text?).map .many
  | _ => none

/-- The slider entries in the fields of a value. -/
def sliders? (v : Toml.Value) : Option (List (String × TargetEntry)) :=
  v.fields?.bind fun fields =>
    fields.foldlM
      (fun entries (key, v) => (entryValue? v).map fun entry => placed key entry entries) []

/-- The settings of a file's fields.  Unknown fields do not matter; a field with a
    value of the wrong kind does. -/
def ofFields? (surplus : Surplus) (fields : List (String × Toml.Value)) : Option Settings := do
  let d : Settings := {}
  let invert ← readField? fields "invert_sliders" d.invert boolean?
  let noise ← readField? fields "noise_reduction" d.noise fun v => (text? v).map NoiseLevel.ofText
  let sliders ← readField? fields "slider_mapping" d.sliders sliders?
  let connection ← readField? fields "connection" [] (recordFields? surplus ["port", "baud_rate"])
  let port ← readField? connection "port" d.port text?
  let baudRate ← readField? connection "baud_rate" d.baudRate integer?
  let logging ← readField? fields "logging" [] (recordFields? surplus ["log_level"])
  let logLevel ← readField? logging "log_level" d.logLevel text?
  return { invert, noise, sliders, port, baudRate, logLevel }

/-- The settings in a value, which may be a record like any other.  A list must not be
    longer than its record. -/
def ofValue? (v : Toml.Value) : Option Settings :=
  (recordFields? .refused
    ["invert_sliders", "noise_reduction", "slider_mapping", "connection", "logging"] v).bind
      (ofFields? .refused)

/-- The settings in a text, where a list may be longer than its record. -/
def ofText? (text : String) : Option Settings := (Toml.read text).bind (ofFields? .ignored)

end Settings

/-! ## Files -/

inductive SettingsError where
  | noDirectory
  | unreadable (path reason : String)
  | malformed
  /-- The directory to be watched cannot be made. -/
  | unwatchable (path reason : String)
  deriving DecidableEq, Repr

def SettingsError.message : SettingsError → String
  | noDirectory => "could not determine platform config directory"
  | unreadable path reason | unwatchable path reason =>
    "I/O error accessing config at " ++ path ++ ": " ++ reason
  | malformed => "failed to parse config TOML"

/-- The settings in a file's content.  A missing file means the defaults. -/
def Settings.load (path : String) : FileContent → Except SettingsError Settings
  | .missing => .ok {}
  | .unreachable reason | .unreadable reason => .error (.unreadable path reason)
  | .bytes content =>
    match Utf8.decode? content with
    -- text that is damaged counts as a file that cannot be read
    | none => .error (.unreadable path "stream did not contain valid UTF-8")
    | some text =>
      match Settings.ofText? text with
      | some s => .ok s
      | none => .error .malformed

/-! ## Location -/

def joinPath (directory name : String) : String :=
  if directory = "" ∨ directory.toList.getLast? = some '/' then directory ++ name
  else directory ++ "/" ++ name

/-- The name of a file without its directory. -/
def fileName (path : String) : String :=
  String.ofList (path.toList.reverse.takeWhile (· ≠ '/')).reverse

def directoryName (path : String) : String :=
  match path.toList.reverse.dropWhile (· ≠ '/') with
  | [] => "."
  | [_] => "/"
  | _ :: rest => String.ofList rest.reverse

/-- The directory of the settings: below the directory for settings, or else below the
    home directory. -/
def settingsDirectory? (configHome home : Option String) : Option String :=
  let base :=
    match configHome with
    | some path => some path
    | none => home.map fun path => joinPath path ".config"
  base.map fun path => joinPath path "deej"

def settingsFile? (configHome home : Option String) : Option String :=
  (settingsDirectory? configHome home).map fun path => joinPath path "config.toml"

end SliderMixer
