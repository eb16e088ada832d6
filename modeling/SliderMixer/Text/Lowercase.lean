import SliderMixer.Text.CodePoint.Case

/-! # Lowercase text

Names are compared in lowercase, by the full Unicode mapping.

* `lowerChar` is the mapping of one character, which may give two.
* `lower` maps a text; a capital sigma at the end of a word becomes the final one.
-/

namespace SliderMixer

/-! ## One character -/

/-- The lowercase form of a character regardless of its neighbours.  Only `İ` has a
    form of two characters. -/
def lowerChar (c : Char) : List Char :=
  if c.toNat < 0x80 then [c.toLower]
  else if c.toNat = 0x130 then ['i', Char.ofNat 0x307]
  else
    match CodePoint.lowerRuns.find? fun run =>
        run.first ≤ c.toNat && c.toNat ≤ run.last && (c.toNat - run.first) % run.step == 0 with
    | some run => [Char.ofNat (Int.toNat (c.toNat + run.shift))]
    | none => [c]

/-! ## Sigma -/

/-- The first character that is not ignorable is a letter with case. -/
def startsCased (text : List Char) : Bool :=
  match text.dropWhile CodePoint.caseIgnorable.has with
  | c :: _ => CodePoint.cased.has c
  | [] => false

/-- The lowercase sigma between `before` (nearest character first) and `after`: the
    final form when a letter precedes and none follows. -/
def lowerSigma (before after : List Char) : Char :=
  if startsCased before && !startsCased after then 'ς' else 'σ'

/-! ## Text -/

/-- The lowercase form of `text` that follows `before` (nearest character first). -/
def lowerAfter (before : List Char) : List Char → List Char
  | [] => []
  | c :: rest =>
    (if c = 'Σ' then [lowerSigma before rest] else lowerChar c)
      ++ lowerAfter (c :: before) rest

def lower (text : String) : String := String.ofList (lowerAfter [] text.toList)

end SliderMixer
