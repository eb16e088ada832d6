import SliderMixer.Text.Utf8

/-! # Line splitter

The board sends bytes, and every line ends in a newline.  The splitter cuts the lines
out of the bytes, however these arrive.

* `LineSplitter.feed` takes in some bytes and gives out the lines they complete.
* `LineSplitter.finish` gives out what stands after the last newline.
* A line longer than `lineLimit` is line noise and is dropped as a whole.
-/

namespace SliderMixer

/-- The longest line kept, in bytes, with its newline. -/
def lineLimit : Nat := 512

/-- What is left over between two pieces of input. -/
structure LineSplitter where
  /-- The bytes of the unfinished line, latest first. -/
  pending : List UInt8 := []
  /-- The unfinished line is already too long. -/
  dropping : Bool := false
  deriving DecidableEq, Repr, Inhabited

namespace LineSplitter

def newline : UInt8 := 0x0a

/-- The text of a line whose bytes are given latest first. -/
def lineText (reversed : List UInt8) : String := Utf8.decodeLossy reversed.reverse

/-- Takes in a byte that does not end the line. -/
def grow (s : LineSplitter) (b : UInt8) : LineSplitter :=
  if s.dropping then s
  else if s.pending.length + 1 < lineLimit then { s with pending := b :: s.pending }
  else { pending := [], dropping := true }

/-- The line that a newline completes, unless it is dropped. -/
def complete (s : LineSplitter) : List String :=
  if s.dropping then [] else [lineText (newline :: s.pending)]

/-- Takes in bytes and gives out the lines that they complete. -/
def feed (s : LineSplitter) : List UInt8 → List String × LineSplitter
  | [] => ([], s)
  | b :: rest =>
    if b = newline then
      -- whatever was dropped, the next line begins afresh
      let (lines, left) := feed {} rest
      (s.complete ++ lines, left)
    else (s.grow b).feed rest

/-- The unfinished line at the end of the input, unless it is empty or dropped. -/
def finish (s : LineSplitter) : List String :=
  if s.dropping || s.pending.isEmpty then [] else [lineText s.pending]

end LineSplitter

end SliderMixer
