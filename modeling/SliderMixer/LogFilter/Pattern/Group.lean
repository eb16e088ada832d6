import SliderMixer.LogFilter.Pattern.Options
import SliderMixer.Text.CodePoint.Alphanumeric

/-! # Groups of a pattern

* `groupStart?` reads what belongs to the opening parenthesis of a group.
-/

namespace SliderMixer.Pattern

/-- How a group begins. -/
inductive GroupStart where
  /-- With options for what it holds. -/
  | group (options : Options)
  | named (name : List Char)
  /-- No group at all, but options for what follows. -/
  | change (options : Options)
  deriving DecidableEq, Repr

def isNameStart (c : Char) : Bool := c == '_' || CodePoint.alphabetic.has c

def isNameChar (c : Char) : Bool :=
  ['_', '.', '[', ']'].contains c || CodePoint.isAlphanumeric c

/-- Reads the name of a group, up to its angle bracket. -/
def groupName? (text : List Char) : Option (GroupStart × List Char) :=
  match text.takeWhile (· ≠ '>'), text.dropWhile (· ≠ '>') with
  | first :: more, _ :: rest =>
    if isNameStart first && more.all isNameChar then some (.named (first :: more), rest) else none
  | _, _ => none

/-- Reads a change of options, up to a colon or a closing parenthesis. -/
def optionChange? (o : Options) (text : List Char) : Option (GroupStart × List Char) := do
  let isEnd (c : Char) : Bool := c == ':' || c == ')'
  let letters := text.takeWhile (!isEnd ·)
  let changed ← o.change? letters
  match text.dropWhile (!isEnd ·) with
  | [] => none
  | ':' :: rest => some (.group changed, rest)
  | _ :: rest => if letters.isEmpty then none else some (.change changed, rest)

/-- Reads what stands after an opening parenthesis, as far as it belongs to it. -/
def groupStart? (o : Options) (text : List Char) : Option (GroupStart × List Char) :=
  match o.skip text with
  | '?' :: 'P' :: '<' :: rest => groupName? rest
  | '?' :: '<' :: rest => groupName? rest
  | '?' :: rest => optionChange? o rest
  | rest => some (.group o, rest)

end SliderMixer.Pattern
