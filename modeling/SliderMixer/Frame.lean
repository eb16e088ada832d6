import SliderMixer.Text.Quoted

/-! # Frames

The board sends one line per frame, one value per slider:

    value ('|' value)* end        value = one to four digits, end = "\r\n" or "\n"

* `Frame.parse` reads a line and reports the first thing wrong with it.
* `Frame.render` writes one.
-/

namespace SliderMixer

inductive FrameError where
  | missingTerminator
  | empty
  /-- The value at `index` is empty, too long or holds something else than digits. -/
  | malformedValue (index : Nat) (group : String)
  /-- The first value is beyond the range, as after a torn read. -/
  | firstValueOutOfRange (value : Nat)
  deriving DecidableEq, Repr

def FrameError.message : FrameError → String
  | missingTerminator => "line has no line terminator"
  | empty => "line is empty"
  | malformedValue index group =>
    "malformed value group " ++ toString index ++ ": " ++ quoted group
  | firstValueOutOfRange value =>
    "first value " ++ toString value ++ " exceeds the raw range"

namespace Frame

/-! ## Splitting -/

/-- The line without its line terminator, if it has one. -/
def body? (line : List Char) : Option (List Char) :=
  match line.reverse with
  | '\n' :: '\r' :: rest => some rest.reverse
  | '\n' :: rest => some rest.reverse
  | _ => none

/-- The pieces between the separators; a text without one is a single piece. -/
def groups : List Char → List (List Char)
  | [] => [[]]
  | c :: rest =>
    if c = '|' then [] :: groups rest
    else
      match groups rest with
      | group :: others => (c :: group) :: others
      | [] => [[c]]

/-! ## Values -/

/-- The largest number of digits of a value. -/
def maxDigits : Nat := 4

/-- One to four ASCII digits. -/
def isValue (group : List Char) : Bool :=
  0 < group.length && group.length ≤ maxDigits && group.all Char.isDigit

def decimal (digits : List Char) : Nat :=
  digits.foldl (fun n c => 10 * n + (c.toNat - '0'.toNat)) 0

/-- The number that digits write, if sixteen bits can hold it. -/
def word? (digits : List Char) : Option Nat :=
  if decimal digits < UInt16.size then some (decimal digits) else none

/-- The numbers of the groups, the first of which has position `index`. -/
def values (index : Nat) : List (List Char) → Except FrameError (List Nat)
  | [] => .ok []
  | group :: rest =>
    if isValue group then
      match word? group with
      | none => .error (.malformedValue index (String.ofList group))
      | some n =>
        match values (index + 1) rest with
        | .ok ns => .ok (n :: ns)
        | .error e => .error e
    else .error (.malformedValue index (String.ofList group))

/-! ## Lines -/

/-- The values of a frame whose first one is at most `maxReading`. -/
def parse (line : List Char) (maxReading : Nat) : Except FrameError (List Nat) :=
  match body? line with
  | none => .error .missingTerminator
  -- nothing before the terminator, which is not the same as one empty value
  | some [] => .error .empty
  | some body =>
    match values 0 (groups body) with
    | .error e => .error e
    | .ok [] => .ok []
    | .ok (first :: rest) =>
      -- the first value is the one that a torn read lengthens
      if maxReading < first then .error (.firstValueOutOfRange first) else .ok (first :: rest)

/-- How a line ends. -/
inductive Terminator where
  | lineFeed
  | carriageReturnLineFeed

def Terminator.text : Terminator → List Char
  | lineFeed => ['\n']
  | carriageReturnLineFeed => ['\r', '\n']

/-- The line made of groups of digits. -/
def render (first : List Char) (rest : List (List Char)) (terminator : Terminator) : List Char :=
  first ++ rest.flatMap ('|' :: ·) ++ terminator.text

end Frame

end SliderMixer
