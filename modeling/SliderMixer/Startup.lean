import SliderMixer.Audio.Memory
import SliderMixer.CommandLine
import SliderMixer.Engine
import SliderMixer.LogFilter

/-! # Starting the program

From a command line to a running engine, or to the reason why there is none.

* `startup` needs the environment and what stands at a path, and nothing else.
* `StartupError.exitCode` and `StartupError.report` are what the user gets to see.
-/

namespace SliderMixer

/-! ## Failures -/

/-- The first line of a text that has a line end, which is a newline with or without a
    carriage return before it. -/
def firstLine (text : String) : String :=
  match (text.toList.takeWhile (· ≠ '\n')).reverse with
  | '\r' :: line => String.ofList line.reverse
  | line => String.ofList line.reverse

/-- Why the program ends before it has begun. -/
inductive StartupError where
  | usage (cause : UsageError)
  | noSettingsPath
  | settings (path : String) (cause : SettingsError)
  /-- The log filter breaks the program. -/
  | logFilter (directive : IgnoredDirective)
  /-- Some directives of the log filter were passed over before. -/
  | engine (ignored : List IgnoredDirective) (cause : EngineError)
  deriving DecidableEq, Repr

namespace StartupError

def exitCode : StartupError → Nat
  | usage _ => 2
  | noSettingsPath | settings .. | engine .. => 1
  | logFilter _ => 101

def message : StartupError → String
  | usage cause => "error: " ++ cause.message
  | noSettingsPath => "Error: no --config given and no platform config directory"
  | settings path _ => "Error: failed to load config from " ++ path
  | logFilter directive => "Error: " ++ directive.message
  | engine .. => "Error: failed to start deej"

/-- What lies behind it, if anything does. -/
def detail : StartupError → String
  | usage _ | logFilter _ => ""
  | noSettingsPath => SettingsError.noDirectory.message
  | settings _ cause => cause.message
  | engine _ cause => cause.message

/-- The directives that were passed over before. -/
def ignored : StartupError → List IgnoredDirective
  | engine ignored _ => ignored
  | usage _ | noSettingsPath | settings .. | logFilter _ => []

def report (e : StartupError) : String :=
  String.join (e.ignored.map fun d => d.message ++ "\n") ++ e.message ++ "\n" ++ (if e.detail = "" then "" else "\nCaused by:\n    " ++ e.detail ++ "\n")

/-- The first line of the report.  A path or a directive in it may contain line ends of
    its own. -/
def headline (e : StartupError) : String := firstLine e.report

end StartupError

/-! ## Running -/

/-- The audio system in memory, with a session for each reserved key. -/
def seededAudio : MemoryAudio :=
  [masterKey, systemKey, inputKey].foldl
    (fun a key => (a.addSession key key defaultVolume).2) (.new .polling)

/-- An engine with the audio system that was chosen. -/
inductive Running where
  | memory (engine : Engine MemoryAudio)
  | native (engine : Engine UnsupportedAudio)

/-- The log filter of the settings, unless the log is to hold everything of note. -/
def ownLogFilter (c : CommandLine) (s : Settings) : String :=
  if c.verbose then "debug" else s.logLevel

/-- Sets up the log, and tells which directives were passed over.  The filter of the
    environment counts only if all of it is understood. -/
def startLog (filter : Option String) (own : String) :
    Except StartupError (List IgnoredDirective) :=
  match filter.map LogFilter.ignored with
  | some [] => .ok []
  | some (⟨text, .cutCharacter⟩ :: _) => .error (.logFilter ⟨text, .cutCharacter⟩)
  | some (_ :: _) | none =>
    let ignored := LogFilter.ignored own
    match ignored.find? fun d => d.fault == .cutCharacter with
    | some d => .error (.logFilter d)
    | none => .ok ignored

def launch (c : CommandLine) (settings : Settings) (ignored : List IgnoredDirective) :
    Except StartupError Running :=
  let focus : Focus := { cache := some {} }
  let options : EngineOptions := { port := c.port }
  match c.audio.getD .memory with
  | .memory =>
    match Engine.start settings seededAudio focus {} options with
    | .error cause => .error (.engine ignored cause)
    | .ok engine => .ok (.memory engine)
  | .native =>
    match Engine.start settings UnsupportedAudio.unsupported focus {} options with
    | .error cause => .error (.engine ignored cause)
    | .ok engine => .ok (.native engine)

/-- The path of the settings file: the one given, or else the usual one. -/
def settingsPath? (c : CommandLine) (env : Environment) : Option String :=
  c.settingsPath.or (settingsFile? env.configHome env.home)

/-- The version of the program. -/
def versionText : String := "deej 0.1.0\n"

/-- What the program can be told. -/
def helpText : String :=
  "Hardware slider volume mixer host\n\n" ++
  "Usage: deej [OPTIONS]\n\n" ++
  "Options:\n" ++
  "      --config <CONFIG>    Path of the TOML config file [env: DEEJ_CONFIG=]\n" ++
  "      --port <PORT>        Serial device of the board, overriding `connection.port` [env: DEEJ_PORT=]\n" ++
  "      --backend <BACKEND>  Audio backend to use [default: memory] [possible values: memory, native]\n" ++
  "  -v, --verbose            Log every serial line and slider move\n" ++
  "  -h, --help               Print help\n" ++
  "  -V, --version            Print version\n"

inductive Outcome where
  /-- The program shows a text and ends. -/
  | shown (text : String)
  | failed (error : StartupError)
  /-- The program runs with the settings file at the path. -/
  | running (path : String) (ignored : List IgnoredDirective) (running : Running)

/-- Starts the program, given what stands at a path. -/
def startup (words : List String) (env : Environment) (contentAt : String → FileContent) :
    Outcome :=
  match CommandLine.parse words env with
  | .error cause => .failed (.usage cause)
  | .ok .help => .shown helpText
  | .ok .version => .shown versionText
  | .ok (.run c) =>
    match settingsPath? c env with
    | none => .failed .noSettingsPath
    | some path =>
      match Settings.load path (contentAt path) with
      | .error cause => .failed (.settings path cause)
      | .ok settings =>
        match startLog env.logFilter (ownLogFilter c settings) with
        | .error e => .failed e
        | .ok ignored =>
          match launch c settings ignored with
          | .error e => .failed e
          | .ok r => .running path ignored r

/-- The settings file that an invocation reads, if it reads one. -/
def settingsRead? (words : List String) (env : Environment) : Option String :=
  match CommandLine.parse words env with
  | .ok (.run c) => settingsPath? c env
  | .ok .help | .ok .version | .error _ => none

namespace Outcome

/-- The exit code of the program, if it runs until it is told to stop. -/
def exitCode : Outcome → Nat
  | shown _ | running .. => 0
  | failed e => e.exitCode

end Outcome

end SliderMixer
