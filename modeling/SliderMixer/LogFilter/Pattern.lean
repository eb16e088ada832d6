import SliderMixer.LogFilter.Pattern.Class
import SliderMixer.LogFilter.Pattern.Group

/-! # Patterns

A log filter may compare a field with a pattern, which is a regular expression.  All
that matters here is whether the pattern can be used.

* `Pattern.Reader` holds what was read of a pattern, group by group.
* `Pattern.fault?` tells what is wrong with a pattern, if anything is.

A pattern ends before the first closing brace of the filter.  So nothing in a pattern
that needs one, like a count in braces, is ever complete.
-/

namespace SliderMixer

inductive PatternFault where
  | malformed
  /-- It asks for the begin or the end of a word of characters. -/
  | wordEdge
  deriving DecidableEq, Repr

def PatternFault.message : PatternFault → String
  | malformed => "error building NFA"
  | wordEdge =>
    "unsupported regex feature for DFAs: cannot build DFAs for regexes with Unicode word " ++
    "boundaries; switch to ASCII word boundaries, or heuristically enable Unicode word " ++
    "boundaries or use a different regex engine"

namespace Pattern

/-! ## Parts -/

/-- A part of a pattern that was read. -/
structure Part where
  depth : Nat := 0
  /-- It only changes options, so it cannot be repeated. -/
  isChange : Bool := false
  deriving DecidableEq, Repr

/-- A group as far as it was read. -/
structure OpenGroup where
  /-- How its next part is read. -/
  options : Options := {}
  /-- The parts of the last branch, the last one first. -/
  parts : List Part := []
  /-- The depths of the branches before it. -/
  branches : List Nat := []
  deriving DecidableEq, Repr

namespace OpenGroup

def add (g : OpenGroup) (depth : Nat) : OpenGroup := { g with parts := { depth } :: g.parts }

def branchDepth (g : OpenGroup) : Nat := depthTogether (g.parts.map (·.depth))

/-- The depth of all that was read. -/
def depth (g : OpenGroup) : Nat := depthTogether (g.branchDepth :: g.branches)

def branch (g : OpenGroup) : OpenGroup :=
  { g with parts := [], branches := g.branchDepth :: g.branches }

/-- Repeats the last part, if there is one that can be repeated. -/
def repeat? (g : OpenGroup) : Option OpenGroup :=
  match g.parts with
  | ⟨depth, false⟩ :: parts => some { g with parts := { depth := depth + 1 } :: parts }
  | ⟨_, true⟩ :: _ | [] => none

end OpenGroup

/-! ## Reading -/

/-- What was read of a pattern. -/
structure Reader where
  /-- The innermost group that is open; the pattern itself counts as one. -/
  group : OpenGroup := {}
  /-- The groups around it. -/
  outer : List OpenGroup := []
  /-- The names of groups. -/
  names : List (List Char) := []
  /-- There is a begin or an end of a word of characters. -/
  wordEdge : Bool := false
  deriving DecidableEq, Repr

namespace Reader

/-- Begins a group with options of its own. -/
def enter (r : Reader) (options : Options) : Reader :=
  { r with group := { options }, outer := r.group :: r.outer }

/-- Ends a group.  The options before it hold again. -/
def leave? (r : Reader) : Option Reader :=
  match r.outer with
  | parent :: outer => some { r with group := parent.add (r.group.depth + 1), outer }
  | [] => none

/-- Takes in a character or an escape. -/
def atom? (r : Reader) (escape : Escape) : Option Reader :=
  if escape.isUsable r.group.options false then
    some
      { r with
        group := r.group.add 0
        wordEdge := r.wordEdge || (escape == .wordEdge && r.group.options.unicode) }
  else none

/-- Takes in what belongs to an opening parenthesis. -/
def start? (r : Reader) : GroupStart → Option Reader
  | .group options => some (r.enter options)
  | .named name =>
    if r.names.contains name then none
    else some { r.enter r.group.options with names := name :: r.names }
  | .change options =>
    some { r with group := { r.group with options, parts := { isChange := true } :: r.group.parts } }

/-- Takes in a character, and as much of the rest as belongs to it. -/
def step? (r : Reader) (c : Char) (rest : List Char) : Option (Reader × List Char) := do
  let o := r.group.options
  if c = '(' then
    let (start, rest) ← groupStart? o rest
    return (← r.start? start, rest)
  else if c = ')' then return (← r.leave?, rest)
  else if c = '|' then return ({ r with group := r.group.branch }, rest)
  else if c = '[' then
    let (depth, rest) ← class? o rest
    return ({ r with group := r.group.add depth }, rest)
  else if c = '*' ∨ c = '+' ∨ c = '?' then
    -- a question mark behind it asks for few repetitions
    let rest := if rest.head? = some '?' then rest.tail else rest
    return ({ r with group := ← r.group.repeat? }, rest)
  -- a count, which is never complete
  else if c = '\x7b' then none
  else if c = '\\' then
    let (escape, rest) ← escape? o rest
    return (← r.atom? escape, rest)
  else if c = '.' then
    -- any byte would do, also one that is only a part of a character
    if o.unicode then return (← r.atom? .place, rest) else none
  else if c = '^' ∨ c = '$' then return (← r.atom? .place, rest)
  else return (← r.atom? (.literal c false), rest)

/-- Reads a pattern to its end; `fuel` bounds its parts. -/
def read? : Nat → Reader → List Char → Option Reader
  | 0, _, _ => none
  | fuel + 1, r, text => do
    match r.group.options.skip text with
    | [] => if r.outer.isEmpty then return r else none
    | c :: rest =>
      let (r, rest) ← r.step? c rest
      read? fuel r rest

end Reader

/-! ## Use -/

/-- No pattern may be deeper. -/
def maxDepth : Nat := 250

/-- What is wrong with a pattern, if anything is. -/
def fault? (pattern : List Char) : Option PatternFault :=
  match Reader.read? (pattern.length + 1) {} pattern with
  | none => some .malformed
  | some r =>
    if maxDepth < r.group.depth then some .malformed
    else if r.wordEdge then some .wordEdge
    else none

end Pattern

end SliderMixer
