import SliderMixer.LogFilter.Pattern.Options

/-! # Escapes of a pattern

* `escape?` reads what stands after a backslash.
* `Escape.isUsable` tells which characters and sets can be used under which options.

Sets and letter cases are known among bytes only.  So a pattern about characters has no
sets like `\d`, and cannot ignore cases.  A pattern about bytes may not ask for a byte
that is only a part of a character.
-/

namespace SliderMixer.Pattern

/-- What a backslash and the characters behind it stand for. -/
inductive Escape where
  /-- A character, which may be given as a byte. -/
  | literal (c : Char) (asByte : Bool)
  /-- A set of characters, or all others. -/
  | set (negated : Bool)
  /-- A place between characters. -/
  | place
  /-- The begin or the end of a word, or neither. -/
  | wordEdge
  deriving DecidableEq, Repr

/-- It can be used.  A class holds characters and sets, and no places. -/
def Escape.isUsable (o : Options) (inClass : Bool) : Escape → Bool
  | literal c asByte =>
    if o.unicode then !o.ignoreCase else c.toNat < 0x80 || !(asByte || inClass)
  | set negated => !o.unicode && !negated
  | place | wordEdge => !inClass

/-- The value of a hexadecimal digit. -/
def hexValue? (c : Char) : Option Nat :=
  if c.isDigit then some (c.toNat - '0'.toNat)
  else if 'a' ≤ c ∧ c ≤ 'f' then some (c.toNat - 'a'.toNat + 10)
  else if 'A' ≤ c ∧ c ≤ 'F' then some (c.toNat - 'A'.toNat + 10)
  else none

/-- The number that exactly `count` hexadecimal digits append to the digits of `n`. -/
def hexNumber? (o : Options) (count n : Nat) (text : List Char) : Option (Nat × List Char) :=
  match count, o.skip text with
  | 0, _ => some (n, text)
  | _ + 1, [] => none
  | count + 1, c :: rest => do hexNumber? o count (16 * n + (← hexValue? c)) rest

/-- A character by its code point. -/
def codePoint? (o : Options) (digits : Nat) (text : List Char) : Option (Escape × List Char) := do
  let (n, rest) ← hexNumber? o digits 0 text
  if n.isValidChar then return (.literal (Char.ofNat n) (digits = 2), rest) else none

/-- The letters of the control characters. -/
def controls : List (Char × Char) :=
  [('a', '\x07'), ('f', '\x0c'), ('t', '\t'), ('n', '\n'), ('r', '\r'), ('v', '\x0b')]

/-- Reads what stands after a backslash.  Letters and digits without a meaning are
    refused, so that they may get one later. -/
def escape? (o : Options) : List Char → Option (Escape × List Char)
  | [] => none
  | 'x' :: rest => codePoint? o 2 rest
  | 'u' :: rest => codePoint? o 4 rest
  | 'U' :: rest => codePoint? o 8 rest
  | c :: rest =>
    if ['d', 's', 'w'].contains c then some (.set false, rest)
    else if ['D', 'S', 'W'].contains c then some (.set true, rest)
    else if ['A', 'z'].contains c then some (.place, rest)
    else if ['b', 'B', '<', '>'].contains c then some (.wordEdge, rest)
    else
      match controls.lookup c with
      | some control => some (.literal control false, rest)
      | none => if c.toNat < 0x80 ∧ !c.isAlphanum then some (.literal c false, rest) else none

end SliderMixer.Pattern
