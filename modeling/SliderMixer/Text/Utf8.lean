/-! # Text from bytes

Bytes are read as UTF-8.  The wire may hold anything, so a damaged sequence is
replaced; a file must be intact.

* `Utf8.leadLength` and `Utf8.secondRange` are the table of well-formed sequences.
* `Utf8.scan` cuts the next character, or the longest damaged start, from the front.
* `Utf8.decodeLossy` puts `U+FFFD` for each damaged start, `Utf8.decode?` refuses.
-/

namespace SliderMixer.Utf8

/-! ## Well-formed sequences -/

/-- The length of the sequence a byte may start, `0` for a byte that starts none. -/
def leadLength (b : UInt8) : Nat :=
  if b < 0x80 then 1
  else if 0xc2 ≤ b && b ≤ 0xdf then 2
  else if 0xe0 ≤ b && b ≤ 0xef then 3
  else if 0xf0 ≤ b && b ≤ 0xf4 then 4
  else 0

/-- The bounds of the byte after a lead byte; they keep out overlong forms,
    surrogates and values above `U+10FFFF`. -/
def secondRange (lead : UInt8) : UInt8 × UInt8 :=
  if lead = 0xe0 then (0xa0, 0xbf)
  else if lead = 0xed then (0x80, 0x9f)
  else if lead = 0xf0 then (0x90, 0xbf)
  else if lead = 0xf4 then (0x80, 0x8f)
  else (0x80, 0xbf)

/-- The bytes at the front that continue a sequence after `lead`, at most `limit`. -/
def continuation (range : UInt8 × UInt8) : Nat → List UInt8 → List UInt8
  | 0, _ => []
  | _, [] => []
  | limit + 1, b :: rest =>
    if range.1 ≤ b && b ≤ range.2 then b :: continuation (0x80, 0xbf) limit rest else []

/-- The bits of a lead byte and its continuation bytes. -/
def codePoint (lead : UInt8) (tail : List UInt8) : Nat :=
  let top :=
    match tail.length with
    | 0 => lead.toNat
    | 1 => lead.toNat % 0x20
    | 2 => lead.toNat % 0x10
    | _ => lead.toNat % 0x08
  tail.foldl (fun n b => n * 0x40 + b.toNat % 0x40) top

/-! ## Reading -/

/-- What stands at the front: a character, or a damaged start, with the number of
    bytes after the lead byte that belong to it. -/
def scan (lead : UInt8) (rest : List UInt8) : Option Char × Nat :=
  let wanted := leadLength lead - 1
  let tail := continuation (secondRange lead) wanted rest
  if leadLength lead ≠ 0 ∧ tail.length = wanted then
    (some (Char.ofNat (codePoint lead tail)), wanted)
  else (none, tail.length)

/-- Reads every byte; `none` marks a damaged start. -/
def pieces (bytes : List UInt8) : List (Option Char) :=
  match bytes with
  | [] => []
  | lead :: rest => (scan lead rest).1 :: pieces (rest.drop (scan lead rest).2)
  termination_by bytes.length
  decreasing_by simp only [List.length_drop, List.length_cons]; omega

/-- The text, with the replacement character for each damaged start. -/
def decodeLossy (bytes : List UInt8) : String :=
  String.ofList ((pieces bytes).map fun c => c.getD (Char.ofNat 0xfffd))

/-- The text, if no sequence is damaged. -/
def decode? (bytes : List UInt8) : Option String :=
  (pieces bytes).mapM id |>.map String.ofList

end SliderMixer.Utf8
