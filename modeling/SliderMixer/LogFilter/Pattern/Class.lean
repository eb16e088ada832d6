import SliderMixer.LogFilter.Pattern.Escape

/-! # Classes of a pattern

A class is a set of characters in brackets, such as `[a-z&&[^x]]`.

* `OpenClass` is a class as far as it was read.
* `readClass` reads a class to its end, and tells how deep it is.
-/

namespace SliderMixer.Pattern

/-- The depth of parts that stand side by side, from their depths.  A single part is not
    put into anything. -/
def depthTogether : List Nat → Nat
  | [] => 0
  | [depth] => depth
  | depths => depths.foldl max 0 + 1

/-- A class as far as it was read, by the depths of its parts. -/
structure OpenClass where
  /-- What stands before the last operator. -/
  left : Option Nat := none
  /-- The members behind it. -/
  members : List Nat := []
  /-- There were only dashes, which stand for themselves here. -/
  atStart : Bool := true
  deriving DecidableEq, Repr

namespace OpenClass

def add (k : OpenClass) (depth : Nat) : OpenClass :=
  { k with members := depth :: k.members, atStart := false }

/-- The depth of all that was read. -/
def depth (k : OpenClass) : Nat :=
  let right := depthTogether k.members
  match k.left with
  | none => right
  | some left => depthTogether [left, right]

/-- Goes on behind an operator. -/
def operator (k : OpenClass) : OpenClass := { left := some k.depth, atStart := false }

/-- A dash in front of everything else, or a closing bracket there, stands for itself. -/
def isLiteral (k : OpenClass) (c : Char) : Bool :=
  k.atStart && (c == '-' || (c == ']' && k.members.isEmpty))

end OpenClass

/-- The named sets that a class may hold. -/
def setNames : List String :=
  ["alnum", "alpha", "ascii", "blank", "cntrl", "digit", "graph", "lower", "print", "punct",
    "space", "upper", "word", "xdigit"]

/-- Reads the rest of a named set, such as `[:alpha:]`, and tells whether it is negated. -/
def namedSet? : List Char → Option (Bool × List Char)
  | ':' :: text =>
    let (negated, text) :=
      match text with
      | '^' :: rest => (true, rest)
      | _ => (false, text)
    let name := String.ofList (text.takeWhile (· ≠ ':'))
    match text.dropWhile (· ≠ ':') with
    | ':' :: ']' :: rest => if setNames.contains name then some (negated, rest) else none
    | _ => none
  | _ => none

/-- A named set can be used.  It is known among characters too, without its cases. -/
def namedSetIsUsable (o : Options) (negated : Bool) : Bool :=
  if o.unicode then !o.ignoreCase else !negated

/-- Reads what stands before the members.  All bytes but a few are not all parts of
    characters, so only a class of characters may be negated. -/
def classStart? (o : Options) (text : List Char) : Option (List Char) :=
  match o.skip text with
  | '^' :: rest => if o.unicode then some rest else none
  | text => some text

/-- Reads a character or an escape. -/
def atom? (o : Options) : List Char → Option (Escape × List Char)
  | [] => none
  | '\\' :: rest => escape? o rest
  | c :: rest => some (.literal c false, rest)

/-- Reads a character, a range of them or a set. -/
def member? (o : Options) (text : List Char) : Option (List Char) := do
  let (low, rest) ← atom? o text
  let rest := o.skip rest
  let (high, rest) ←
    match rest with
    | '-' :: after =>
      if [some ']', some '-'].contains (o.afterDash? after) then pure (low, rest)
      else
        match low, ← atom? o (o.skip after) with
        | .literal a _, (.literal b asByte, rest) =>
          if a ≤ b then pure (Escape.literal b asByte, rest) else none
        | _, _ => none
    | _ => pure (low, rest)
  if low.isUsable o true && high.isUsable o true then some rest else none

/-- Reads the innermost open class and those around it to their end, and tells how deep
    the outermost one is; `fuel` bounds the members. -/
def readClass (o : Options) : Nat → OpenClass → List OpenClass → List Char →
    Option (Nat × List Char)
  | 0, _, _, _ => none
  | fuel + 1, inner, outer, text => do
    match o.skip text with
    | [] => none
    | c :: rest =>
      if inner.isLiteral c then
        if (Escape.literal c false).isUsable o true then
          readClass o fuel { inner.add 0 with atStart := c = '-' } outer rest
        else none
      else if c = '[' then
        match namedSet? rest with
        | some (negated, rest) =>
          if namedSetIsUsable o negated then readClass o fuel (inner.add 0) outer rest else none
        | none => readClass o fuel {} (inner :: outer) (← classStart? o rest)
      else if c = ']' then
        match outer with
        | [] => some (inner.depth + 1, rest)
        | parent :: outer => readClass o fuel (parent.add (inner.depth + 1)) outer rest
      else if ['&', '-', '~'].contains c ∧ rest.head? = some c then
        readClass o fuel inner.operator outer rest.tail
      else readClass o fuel (inner.add 0) outer (← member? o (c :: rest))

/-- Reads a class after its opening bracket, and tells how deep it is. -/
def class? (o : Options) (text : List Char) : Option (Nat × List Char) := do
  readClass o (text.length + 1) {} [] (← classStart? o text)

end SliderMixer.Pattern
