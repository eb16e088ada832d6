import SliderMixer.Text.Blank

/-! # Options of a pattern

A pattern may change how its rest is read, as in `(?x)` and `(?i-u:a)`.

* `Options.change?` takes in the letters of a change.
* `Options.skip` passes over the layout of a pattern that is laid out freely.
-/

namespace SliderMixer.Pattern

/-- How a pattern is read.  The other options make no difference to whether it can be
    used. -/
structure Options where
  /-- It is about characters, and not about bytes. -/
  unicode : Bool := true
  ignoreCase : Bool := false
  /-- Blanks and comments in it mean nothing. -/
  freeLayout : Bool := false
  deriving DecidableEq, Repr

def optionLetters : List Char := ['i', 'm', 's', 'U', 'u', 'R', 'x']

/-- The text without the layout in front.  A comment goes to the end of its line. -/
def withoutLayout (inComment : Bool) : List Char → List Char
  | [] => []
  | c :: rest =>
    if inComment then withoutLayout (c ≠ '\n') rest
    else if isBlank c then withoutLayout false rest
    else if c = '#' then withoutLayout true rest
    else c :: rest

namespace Options

/-- Takes in the letters of a change.  Those before the minus sign are switched on, those
    behind it off.  Nothing comes twice, and something has to follow the minus sign. -/
def change? (o : Options) (letters : List Char) : Option Options :=
  let on := letters.takeWhile (· ≠ '-')
  let off := letters.dropWhile (· ≠ '-')
  let switched (letter : Char) (old : Bool) : Bool :=
    on.contains letter || (old && !off.contains letter)
  if letters.all ('-' :: optionLetters).contains ∧ letters.Nodup ∧ letters.getLast? ≠ some '-' then
    some
      { unicode := switched 'u' o.unicode
        ignoreCase := switched 'i' o.ignoreCase
        freeLayout := switched 'x' o.freeLayout }
  else none

/-- The text without the layout in front, if it means nothing. -/
def skip (o : Options) (text : List Char) : List Char :=
  if o.freeLayout then withoutLayout false text else text

/-- The character that decides whether the dash before it makes a range.  Of a comment,
    only the mark is passed over. -/
def afterDash? (o : Options) (text : List Char) : Option Char :=
  if o.freeLayout then
    match trimStart text with
    | '#' :: comment => (trimStart comment).head?
    | text => text.head?
  else text.head?

end Options

end SliderMixer.Pattern
