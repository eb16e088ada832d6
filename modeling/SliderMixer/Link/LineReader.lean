import SliderMixer.Channel.Mailbox
import SliderMixer.Link.Board
import SliderMixer.Link.LineSplitter

/-! # Line reader

A connection is read by a flow of its own, so that a line may arrive in pieces while
the link does something else.

* `LineReader.take` is what a read does to the reader.
* `LineReader.step?` reads, or passes on one line; it waits while the lines ahead are
  not taken.
-/

namespace SliderMixer

/-- How many lines wait at most. -/
def lineBuffer : Nat := 16

/-- What the reader passes on. -/
inductive LineItem where
  | line (text : String)
  | failure (error : LinkError)
  deriving DecidableEq, Repr

structure LineReader where
  /-- The number of the stream that is read. -/
  stream : Nat
  splitter : LineSplitter := {}
  /-- Read, and to be passed on. -/
  ready : List LineItem := []
  /-- There is nothing more to read. -/
  finished : Bool := false
  /-- Passed on. -/
  lines : Mailbox LineItem := { capacity := lineBuffer }
  deriving DecidableEq

namespace LineReader

/-- Takes in what a read found, if it found anything.  An unfinished line is passed on
    at the end of the stream, but not when the stream fails. -/
def take (r : LineReader) : Reading → Option LineReader
  | .bytes chunk =>
    let (lines, splitter) := r.splitter.feed chunk
    some { r with splitter, ready := r.ready ++ lines.map .line }
  | .waiting => none
  | .ended => some { r with
      splitter := {}
      ready := r.ready ++ r.splitter.finish.map .line
      finished := true }
  | .failed reason =>
    some { r with
      splitter := {}
      ready := r.ready ++ [.failure (.readFailed reason)]
      finished := true }

/-- Passes on what is ready, one item at a time, and then reads on. -/
def step? (r : LineReader) (b : Board) : Option (LineReader × Board) :=
  match r.ready with
  | item :: rest =>
    -- without room the reader waits, and so does the board
    if r.lines.hasRoom then some ({ r with ready := rest, lines := (r.lines.offer item).2 }, b)
    else none
  | [] =>
    if r.lines.senderGone then none
    else if r.finished then some ({ r with lines := r.lines.dropSender }, b)
    else
      let (found, b) := b.read r.stream
      (r.take found).map fun r => (r, b)

end LineReader

end SliderMixer
