import SliderMixer.Settings.File

/-! # Boards

What the link meets when it opens the port.

* A `Board` is a script of connections, one for each attempt to open the port.  When
  the script is used up, nothing is plugged in.
* A connection is a `Stream` of bytes, written by the board and read by the link.
* `deviceStream` is the connection that a device path stands for.
-/

namespace SliderMixer

/-- What goes wrong between the link and the board. -/
inductive LinkError where
  | noPort
  | openFailed (port reason : String)
  | readFailed (reason : String)
  deriving DecidableEq, Repr

def LinkError.message : LinkError → String
  | noPort => "no serial port configured"
  | openFailed port reason => "failed to open serial port " ++ port ++ ": " ++ reason
  | readFailed reason => "serial read failed: " ++ reason

/-! ## Streams -/

inductive StreamEnd where
  | closed
  | failed (reason : String)
  deriving DecidableEq, Repr

/-- How many bytes a stream takes before they are read. -/
def streamCapacity : Nat := 4096

/-- The bytes not yet read, and what follows them; `none` while the board may still
    write. -/
structure Stream where
  waiting : List UInt8 := []
  ending : Option StreamEnd := none
  deriving DecidableEq, Repr, Inhabited

/-- What a read finds. -/
inductive Reading where
  | bytes (chunk : List UInt8)
  /-- Nothing yet. -/
  | waiting
  | ended
  | failed (reason : String)
  deriving DecidableEq, Repr

namespace Stream

/-- The board writes; after the end it cannot. -/
def write (s : Stream) (bytes : List UInt8) : Stream :=
  match s.ending with
  | none => { s with waiting := s.waiting ++ bytes }
  | some _ => s

/-- More bytes wait than the stream takes, so that the board is still busy writing. -/
def overfull (s : Stream) : Bool := s.ending.isNone && streamCapacity < s.waiting.length

/-- The board ends the stream, if nothing ended it before. -/
def close (s : Stream) : Stream := { s with ending := s.ending.or (some .closed) }

/-- The stream breaks, if nothing ended it before. -/
def fail (s : Stream) (reason : String) : Stream :=
  { s with ending := s.ending.or (some (.failed reason)) }

def read (s : Stream) : Reading × Stream :=
  match s.waiting, s.ending with
  | [], none => (.waiting, s)
  | [], some .closed => (.ended, s)
  | [], some (.failed reason) => (.failed reason, s)
  | bytes, _ => (.bytes bytes, { s with waiting := [] })

/-- All bytes up to the end, unless the stream fails. -/
def contents (s : Stream) : Except LinkError (List UInt8) :=
  match s.ending with
  | some (.failed reason) => .error (.readFailed reason)
  | some .closed | none => .ok s.waiting

end Stream

/-- The connection that a device path stands for, given what is found there. -/
def deviceStream (port : String) (content : FileContent) : Except LinkError Stream :=
  if trimmed port = "" then .error .noPort
  else
    match content with
    | .missing => .error (.openFailed port "No such file or directory (os error 2)")
    | .unreachable reason => .error (.openFailed port reason)
    -- a directory can be opened and not read, so it is no failure to open
    | .unreadable reason => .ok { ending := some (.failed reason) }
    | .bytes bytes => .ok { waiting := bytes, ending := some .closed }

/-! ## Boards -/

/-- What an attempt to open the port leads to. -/
inductive Attempt where
  | refused (reason : String)
  /-- The connection with this number. -/
  | stream (number : Nat)
  deriving DecidableEq, Repr

/-- The attempts to come, all streams by number, and the settings of the attempts
    made so far. -/
structure Board where
  script : List Attempt := []
  streams : List Stream := []
  opened : List Connection := []
  deriving DecidableEq, Inhabited

namespace Board

def pushRefusal (b : Board) (reason : String) : Board :=
  { b with script := b.script ++ [.refused reason] }

/-- Adds an attempt that succeeds, and gives the number of its stream. -/
def pushStream (b : Board) (s : Stream) : Nat × Board :=
  (b.streams.length,
    { b with script := b.script ++ [.stream b.streams.length], streams := b.streams ++ [s] })

def changeStream (b : Board) (stream : Nat) (f : Stream → Stream) : Board :=
  { b with streams := b.streams.modify stream f }

def write (b : Board) (stream : Nat) (bytes : List UInt8) : Board :=
  b.changeStream stream fun s => s.write bytes

def close (b : Board) (stream : Nat) : Board := b.changeStream stream Stream.close

/-- The board is still writing to a stream that the link has not opened. -/
def isWriting (b : Board) : Bool :=
  b.script.any fun
    | .refused _ => false
    | .stream n => (b.streams[n]?).any Stream.overfull

def openPort (b : Board) (c : Connection) : Except LinkError Nat × Board :=
  let noted := { b with opened := b.opened ++ [c] }
  match b.script with
  | [] => (.error (.openFailed c.port "no scripted connection left"), noted)
  | .refused reason :: rest => (.error (.openFailed c.port reason), { noted with script := rest })
  | .stream number :: rest => (.ok number, { noted with script := rest })

def read (b : Board) (stream : Nat) : Reading × Board :=
  match b.streams[stream]? with
  | none => (.ended, b)
  | some s =>
    let (r, s) := s.read
    (r, { b with streams := b.streams.set stream s })

end Board

end SliderMixer
