import SliderMixer.Startup
import Std.Async.Signal

/-! # The program

The outer layer: it reads the environment, files and the device, keeps the clock, and
leaves every decision to the engine.
-/

namespace SliderMixer.Program

/-! ## Files and environment -/

def environment : IO Environment := do
  return {
    settingsPath := ← IO.getEnv "DEEJ_CONFIG"
    port := ← IO.getEnv "DEEJ_PORT"
    configHome := ← IO.getEnv "XDG_CONFIG_HOME"
    home := ← IO.getEnv "HOME"
    logFilter := ← IO.getEnv "RUST_LOG" }

/-- What stands at a path. -/
def contentAt (path : String) : IO FileContent := do
  try
    return .bytes (← IO.FS.readBinFile path).toList
  catch
    | .noFileOrDirectory .. => return .missing
    | e => return .unreadable (toString e)

/-- What keeps the directory of the settings from being made. -/
def obstacleTo (directory : String) : IO (Option String) := do
  try
    IO.FS.createDirAll directory
    return none
  catch e => return some (toString e)

/-! ## The device -/

/-- The open device, the number of its stream, and the read that is going on. -/
structure Device where
  stream : Nat
  handle : IO.FS.Handle
  reading : Task (Except IO.Error ByteArray)

/-- How many bytes are read at once. -/
def chunkSize : USize := 4096

def beginReading (handle : IO.FS.Handle) : IO (Task (Except IO.Error ByteArray)) :=
  IO.asTask (handle.read chunkSize) .dedicated

/-- Opens the device at a port, and adds to the board what comes of that. -/
def plugIn (port : String) (board : Board) : IO (Board × Option Device) := do
  match deviceStream port (.bytes []) with
  | .error e => return (board.pushRefusal e.message, none)
  | .ok _ =>
    try
      let handle ← IO.FS.Handle.mk port .read
      let (stream, board) := board.pushStream {}
      return (board, some { stream, handle, reading := ← beginReading handle })
    catch e => return (board.pushRefusal (toString e), none)

/-- Writes to the stream what the device has sent. -/
def pump (device : Device) (board : Board) : IO (Board × Option Device) := do
  if !(← IO.hasFinished device.reading) then return (board, some device)
  match device.reading.get with
  | .error e => return (board.changeStream device.stream fun s => s.fail (toString e), none)
  | .ok bytes =>
    if bytes.isEmpty then return (board.close device.stream, none)
    else
      return (board.write device.stream bytes.toList,
        some { device with reading := ← beginReading device.handle })

/-! ## The loop -/

/-- The link is about to open the port. -/
def opensPort (link : Link) : Bool :=
  match link.phase with
  | .observing | .opening _ => true
  | .pausing resumeAt => resumeAt ≤ link.now
  | .reading _ | .delivering .. | .ended => false

/-- More steps than the flows ever take at once. -/
def stepLimit : Nat := 1000000

/-- How long the loop sleeps, in milliseconds. -/
def tick : UInt32 := 5

/-- How many ticks lie between two looks at the settings file. -/
def ticksPerLook : Nat := 20

variable {α : Type} [AudioSystem α]

def setTime (e : Engine α) (now : Nat) : Engine α :=
  { e with
    link := { e.link with now }
    flows := { e.flows with mixer := { e.flows.mixer with
      tracker := { e.flows.mixer.tracker with now } } } }

/-- Tells the watcher when the settings file has changed. -/
def look (path : String) (e : Engine α) : IO (Engine α) := do
  match e.watcher with
  | none => return e
  | some w =>
    let content ← contentAt path
    if content = w.content then return e
    else if content = .missing then return { e with watcher := some w.remove }
    else return { e with watcher := some (w.write w.name content) }

/-- Lets the engine run until it has stopped; `interrupted` says when it should. -/
partial def drive (path : String) (interrupted : IO Bool) (device : Option Device) (count : Nat)
    (e : Engine α) : IO (Except BackendError Unit) := do
  let e := setTime e (← IO.monoMsNow)
  let e := if (← interrupted) && !e.link.stop then e.shutdown else e
  let e ← if count % ticksPerLook = 0 then look path e else pure e
  let (board, device) ←
    match device with
    | some d => pump d e.link.board
    | none =>
      if opensPort e.link then plugIn (e.settings.value.linkAt e.port).connection.port e.link.board
      else pure (e.link.board, none)
  let e := settle stepLimit { e with link := { e.link with board } }
  match e.outcome? with
  | some r => return r
  | none =>
    let device := device.filter fun d => e.link.reader.any fun r => r.stream == d.stream
    IO.sleep tick
    drive path interrupted device (count + 1) e

def run (path : String) (content : FileContent) (ignored : List IgnoredDirective)
    (e : Engine α) : IO UInt32 := do
  for d in ignored do IO.eprintln d.message
  let e := e.follow path content (← obstacleTo (directoryName path))
  let waiter ← Std.Async.Signal.Waiter.mk .sigint false
  let signalled ← waiter.wait
  match ← drive path (IO.hasFinished signalled) none 0 e with
  | .ok () => return 0
  | .error e =>
    IO.eprintln ("Error: failed to release audio backend\n\nCaused by:\n    " ++ e.message)
    return 1

end SliderMixer.Program

open SliderMixer SliderMixer.Program in
def main (words : List String) : IO UInt32 := do
  let env ← environment
  let path := (settingsRead? words env).getD ""
  let content ← contentAt path
  match startup words env fun _ => content with
  | .shown text => IO.print text; return 0
  | .failed e => IO.eprint e.report; return e.exitCode.toUInt32
  | .running path ignored (.memory e) => run path content ignored e
  | .running path ignored (.native e) => run path content ignored e
