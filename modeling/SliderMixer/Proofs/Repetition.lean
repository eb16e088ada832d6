import Mathlib.Data.List.Destutter
import SliderMixer.Proofs.Readings

/-! # Lines that tell nothing

A line that is no frame, or that is the same as the frame before it, might as well not have come.

* `accept?_again`: a reading that was rejected is rejected again, and one that was accepted is now
  the one it is compared with.
* `take_again`, `decode_again`: so the same line once more makes no move and changes nothing,
  whatever was known before.
* `telling` leaves out all such lines, and `decodeAll_telling` says that nobody notices.
-/

namespace SliderMixer

theorem NoiseThresholds.significant_self (t : NoiseThresholds) (reading : Nat)
    (level : NoiseLevel) : t.significant reading reading level = false := by
  simp [significant]

/-- The line is a frame. -/
def Frame.isFrame (maxReading : Nat) (line : String) : Bool := (parse? line maxReading).isSome

theorem Frame.isFrame_eq_false_iff {maxReading : Nat} {line : String} :
    isFrame maxReading line = false ↔ ∃ e, parse line.toList maxReading = .error e := by
  unfold isFrame parse?
  cases parse line.toList maxReading <;> simp [Except.toOption]

namespace Decoder

/-! ## The same once more -/

theorem accept?_again (s : DecoderSettings) (old : Option Accepted) (value : Nat) :
    accept? s ((accept? s old value).or old) value = none := by
  cases haccept : accept? s old value with
  | none => simpa using haccept
  | some e =>
    have hreading : e.reading = min value s.thresholds.maxReading := (accept?_eq_some haccept).1
    simp [accept?, hreading, NoiseThresholds.significant_self]

theorem changes_take (d : Decoder) (values : List Nat) :
    (d.take values).2.changes values = values.map fun _ => none := by
  -- slider by slider, with what the decoder knows of it by now
  refine List.ext_getElem? fun slider => ?_
  rw [getElem?_changes, List.getElem?_map]
  cases hv : values[slider]? with
  | none => rfl
  | some v => simp [known?_take hv, accept?_again]

/-- A frame without a change is as good as none. -/
theorem take_of_changes_eq_none {d : Decoder} {values : List Nat}
    (hcount : d.sliders.length = values.length)
    (hnone : d.changes values = values.map fun _ => none) : d.take values = ([], d) := by
  have hmoves : movesFrom 0 (values.map fun _ => none) = [] := by
    refine List.eq_nil_iff_forall_not_mem.mpr fun move hmove => ?_
    obtain ⟨i, e, hchange, -⟩ := mem_movesFrom.mp hmove
    rw [List.getElem?_map, Option.map_eq_some_iff] at hchange
    obtain ⟨v, -, hv⟩ := hchange
    cases hv
  have hsliders : List.zipWith Option.or (values.map fun _ => none) d.sliders = d.sliders := by
    refine List.ext_getElem (by simp [hcount]) fun i _ _ => ?_
    simp
  simp only [take, hnone, hmoves, entriesFor, if_pos hcount, hsliders]

theorem take_again (d : Decoder) (values : List Nat) :
    (d.take values).2.take values = ([], (d.take values).2) :=
  take_of_changes_eq_none (sliderCount_take d values) (changes_take d values)

theorem decode_again (d : Decoder) (line : String) :
    (d.decode line).2.decode line = ([], (d.decode line).2) := by
  cases hparse : Frame.parse line.toList d.settings.thresholds.maxReading with
  | error e => rw [decode_of_error hparse, decode_of_error hparse]
  | ok values =>
    have hagain := (settings_take d values).symm ▸ hparse
    rw [decode_of_ok hparse, decode_of_ok hagain, take_again]

/-! ## Many lines -/

theorem decodeAll_filter_isFrame (d : Decoder) (lines : List String) :
    d.decodeAll (lines.filter (Frame.isFrame d.settings.thresholds.maxReading)) =
      d.decodeAll lines := by
  induction lines generalizing d with
  | nil => rfl
  | cons line rest ih =>
    cases hframe : Frame.isFrame d.settings.thresholds.maxReading line with
    | false =>
      obtain ⟨e, hparse⟩ := Frame.isFrame_eq_false_iff.mp hframe
      simp [hframe, decodeAll, decode_of_error hparse, ih]
    | true =>
      have hrest := ih (d.decode line).2
      rw [settings_decode] at hrest
      simp [hframe, decodeAll, hrest]

/-- Of a line and the lines after it, repetitions do not count. -/
theorem decodeAll_destutter' (d : Decoder) (line : String) (lines : List String) :
    d.decodeAll (lines.destutter' (· ≠ ·) line) = d.decodeAll (line :: lines) := by
  -- as `destutter'` goes on: the line in hand is the last that was kept
  induction lines generalizing d line with
  | nil => rfl
  | cons next rest ih =>
    by_cases hsame : line ≠ next
    · rw [List.destutter'_cons_pos _ hsame]
      simp only [decodeAll, ih]
    · obtain rfl : line = next := not_not.mp hsame
      rw [List.destutter'_cons_neg _ hsame, ih]
      simp [decodeAll, decode_again]

theorem decodeAll_destutter (d : Decoder) (lines : List String) :
    d.decodeAll (lines.destutter (· ≠ ·)) = d.decodeAll lines := by
  cases lines with
  | nil => rfl
  | cons line rest => exact decodeAll_destutter' d line rest

/-- The frames among the lines, each without its repetitions right after it. -/
def telling (maxReading : Nat) (lines : List String) : List String :=
  (lines.filter (Frame.isFrame maxReading)).destutter (· ≠ ·)

/-- Whatever the decoder knows and is set to: the lines that are no frames, and the frames that are
    the same as the frame before, can be left out.  The moves are the same, and so is the decoder
    after them.  In particular a line makes no move the second time. -/
theorem decodeAll_telling (d : Decoder) (lines : List String) :
    d.decodeAll (telling d.settings.thresholds.maxReading lines) = d.decodeAll lines ∧
    ∀ line, ((d.decode line).2.decode line).1 = [] := by
  refine ⟨?_, fun line => ?_⟩
  · rw [telling, decodeAll_destutter, decodeAll_filter_isFrame]
  · rw [decode_again]

example : telling 1023 ["5|6\n", "5|6", "5|6\n", "5|6\r\n", "5|\n", "5|6\r\n", "5|6\n"] =
    ["5|6\n", "5|6\r\n", "5|6\n"] := by decide +kernel

end Decoder

end SliderMixer
