import SliderMixer.Proofs.Columns
import SliderMixer.Proofs.Readings

/-! # Jitter

A slider that nobody touches reads a few steps up and down.  However long it does, the decoder gives
out next to nothing.

* `NoiseThresholds.least`: the lowest threshold that a level ever applies.
* `Decoder.allowance`: how many moves a slider can still make while its readings stay within an
  interval narrower than that; `allowance_lt_of_accept?`: each move uses some of it up.
* `jitter_bounded`: so a whole stream makes at most two moves of the slider.
-/

namespace SliderMixer

/-! ## Readings close together -/

namespace NoiseThresholds

/-- The threshold near the ends of the range. -/
def least (t : NoiseThresholds) (level : NoiseLevel) : Nat := min (t.threshold level) t.low

theorem least_le_effective (t : NoiseThresholds) (new : Nat) (level : NoiseLevel) :
    t.least level ≤ t.effective new level := by
  unfold effective
  split
  · exact Nat.le_refl _
  · exact Nat.min_le_left _ _

/-- Between readings closer together than the least threshold only a stop counts as a move. -/
theorem stop_of_significant {t : NoiseThresholds} {old new : Nat} {level : NoiseLevel}
    (h : t.significant old new level = true) (near : distance old new < t.least level) :
    old ≠ new ∧ (new = 0 ∨ new = t.maxReading) := by
  have hbelow : ¬ t.effective new level ≤ distance old new :=
    Nat.not_le_of_lt (Nat.lt_of_lt_of_le near (t.least_le_effective new level))
  exact (significant_iff.mp h).imp_right fun hmoved => hmoved.resolve_left hbelow

end NoiseThresholds

namespace Decoder

/-! ## Allowance -/

section

variable (s : DecoderSettings) (lo hi : Nat)

/-- The reading, cut off at the end of the range, lies in the interval. -/
def Within (value : Nat) : Prop :=
  lo ≤ min value s.thresholds.maxReading ∧ min value s.thresholds.maxReading ≤ hi

/-- The moves that a slider can still make while its readings stay in the interval: one into it, and
    one onto a stop. -/
def allowance : Option Accepted → Nat
  | none => 2
  | some e =>
    if e.reading < lo ∨ hi < e.reading then 2
    else if e.reading = 0 ∨ e.reading = s.thresholds.maxReading then 0
    else 1

theorem allowance_le (old : Option Accepted) : allowance s lo hi old ≤ 2 := by
  unfold allowance
  split
  · exact Nat.le_refl 2
  · split
    · exact Nat.le_refl 2
    · split <;> decide

variable {s lo hi}

/-- In an interval narrower than the least threshold, which is not wider than the range, a move takes
    a slider into the interval, or from there onto the only stop in it. -/
theorem allowance_lt_of_accept? {old : Option Accepted} {value : Nat} {e : Accepted}
    (range : s.thresholds.least s.noise ≤ s.thresholds.maxReading)
    (narrow : hi - lo < s.thresholds.least s.noise) (within : Within s lo hi value)
    (h : accept? s old value = some e) : allowance s lo hi (some e) < allowance s lo hi old := by
  obtain ⟨hlo, hhi⟩ := within
  have hreading : e.reading = min value s.thresholds.maxReading := (accept?_eq_some h).1
  have hinside : ¬ (e.reading < lo ∨ hi < e.reading) := by omega
  have hone : allowance s lo hi (some e) ≤ 1 := by
    simp only [allowance, if_neg hinside]
    split <;> decide
  cases old with
  | none => exact Nat.lt_succ_of_le hone
  | some last =>
    by_cases houtside : last.reading < lo ∨ hi < last.reading
    · have htwo : allowance s lo hi (some last) = 2 := by simp only [allowance, if_pos houtside]
      exact htwo ▸ Nat.lt_succ_of_le hone
    · -- a move between two readings of the interval ends at a stop
      have hmoved : s.thresholds.significant last.reading e.reading s.noise = true := by
        rw [hreading]
        by_contra hstays
        simp [accept?, hstays] at h
      have hnear : NoiseThresholds.distance last.reading e.reading < s.thresholds.least s.noise := by
        unfold NoiseThresholds.distance
        omega
      obtain ⟨hother, hstop⟩ := NoiseThresholds.stop_of_significant hmoved hnear
      -- and begins at none, since the interval is too narrow to hold both
      have hbegan : ¬ (last.reading = 0 ∨ last.reading = s.thresholds.maxReading) := by omega
      simp only [allowance, if_neg hinside, if_neg houtside, if_pos hstop, if_neg hbegan]
      exact Nat.zero_lt_one

end

/-! ## Streams -/

/-- A stream uses up what it is allowed, at most. -/
theorem length_moves_le {d : Decoder} {slider n lo hi : Nat} {lines : List String}
    {frames : List (List Nat)} (hslider : slider < n)
    (steady : Frame.Steady d.settings.thresholds.maxReading n lines frames)
    (range : d.settings.thresholds.least d.settings.noise ≤ d.settings.thresholds.maxReading)
    (narrow : hi - lo < d.settings.thresholds.least d.settings.noise)
    (within : ∀ value ∈ Frame.column slider frames, Within d.settings lo hi value) :
    ((d.decodeAll lines).1.filter (·.slider == slider)).length ≤
      allowance d.settings lo hi (d.known? n slider) := by
  induction lines generalizing d frames with
  | nil => exact Nat.zero_le _
  | cons line rest ih =>
    obtain _ | @⟨_, values, _, frames, ⟨hparse, rfl⟩, steady⟩ := steady
    obtain ⟨hwithin, within⟩ := List.forall_mem_cons.mp within
    have hv : values[slider]? = some (values.getD slider 0) := by simp [hslider]
    have hlater := ih (d := (d.take values).2) steady range narrow within
    have hmoves : (d.decodeAll (line :: rest)).1 =
        (d.take values).1 ++ ((d.take values).2.decodeAll rest).1 := by
      rw [← decode_of_ok hparse]
      rfl
    rw [known?_take hv, settings_take] at hlater
    rw [hmoves, List.filter_append, List.length_append, filter_take d hv]
    cases haccept : accept? d.settings (d.known? values.length slider) (values.getD slider 0) with
    | none =>
      rw [haccept, Option.none_or] at hlater
      simpa using hlater
    | some e =>
      have hless := allowance_lt_of_accept? range narrow hwithin haccept
      rw [haccept, Option.some_or] at hlater
      rw [Option.map_some, Option.toList_some, List.length_singleton]
      omega

/-- Whatever the decoder knows and is set to, with a least threshold not wider than the range: if all
    readings of a slider in frames of a constant size lie, cut off at the end of the range, in an
    interval narrower than that threshold, the slider moves at most twice, however long the stream. -/
theorem jitter_bounded (d : Decoder) {slider n lo hi : Nat} {lines : List String}
    {frames : List (List Nat)} (hslider : slider < n)
    (steady : Frame.Steady d.settings.thresholds.maxReading n lines frames)
    (range : min (d.settings.thresholds.threshold d.settings.noise) d.settings.thresholds.low ≤
      d.settings.thresholds.maxReading)
    (narrow : hi - lo <
      min (d.settings.thresholds.threshold d.settings.noise) d.settings.thresholds.low)
    (within : ∀ value ∈ Frame.column slider frames,
      lo ≤ min value d.settings.thresholds.maxReading ∧
        min value d.settings.thresholds.maxReading ≤ hi) :
    ((d.decodeAll lines).1.filter (·.slider == slider)).length ≤ 2 :=
  Nat.le_trans (length_moves_le hslider steady range narrow within)
    (allowance_le d.settings lo hi (d.known? n slider))

/-- A slider that was far away comes near the upper stop and snaps onto it, beyond the range for a
    moment.  The interval is as wide as it may be, and both moves are made. -/
theorem jitter_bounded_at_stop :
    let d := ((new { noise := .high }).decodeAll ["7|500\n"]).2
    let lines := ["8|1019\r\n", "9|1021\n", "10|1023\n", "11|1020\n", "9|4000\n", "8|1019\n"]
    let frames := [[8, 1019], [9, 1021], [10, 1023], [11, 1020], [9, 4000], [8, 1019]]
    Frame.Steady 1023 2 lines frames ∧
    (∀ value ∈ Frame.column 1 frames, 1019 ≤ min value 1023 ∧ min value 1023 ≤ 1023) ∧
    ((d.decodeAll lines).1.filter (·.slider == 1)).length ≤ 2 ∧
    (d.decodeAll lines).1.map (·.slider) = [1, 1] := by
  intro d lines frames
  have steady : Frame.Steady 1023 2 lines frames :=
    .cons ⟨by decide +kernel, rfl⟩ (.cons ⟨by decide +kernel, rfl⟩ (.cons ⟨by decide +kernel, rfl⟩
      (.cons ⟨by decide +kernel, rfl⟩ (.cons ⟨by decide +kernel, rfl⟩
        (.cons ⟨by decide +kernel, rfl⟩ .nil)))))
  have within : ∀ value ∈ Frame.column 1 frames, 1019 ≤ min value 1023 ∧ min value 1023 ≤ 1023 := by
    decide
  have hsettings : d.settings = { noise := .high } := by decide +kernel
  refine ⟨steady, within, ?_, by decide +kernel⟩
  apply @jitter_bounded d 1 2 1019 1023 lines frames Nat.one_lt_two
  · rwa [hsettings]
  · rw [hsettings]
    decide
  · rw [hsettings]
    decide
  · rwa [hsettings]

end Decoder

end SliderMixer
