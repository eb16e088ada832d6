import SliderMixer.Proofs.Readings

/-! # Noise levels compared

A higher level filters out more.  The thresholds are looked up in two ways, one of them near the ends
of the range, and the stops are excepted from both; all the same no reading counts at a level and
not at a lower one.

* `NoiseThresholds.Ascending`: a higher level has no lower threshold.
* `NoiseThresholds.effective_le_effective`: nor a lower one near the ends of the range.
* `NoiseThresholds.significant_at_lower`: so moves are moves at all lower levels.
* `Decoder.decode_at_lower`: and so are all the moves of a line.
-/

namespace SliderMixer

/-! ## Levels -/

namespace NoiseLevel

/-- The place among the levels, from the one that filters out least. -/
def rank : NoiseLevel → Nat
  | off => 0
  | low => 1
  | normal => 2
  | high => 3

instance : LE NoiseLevel := ⟨fun lower level => lower.rank ≤ level.rank⟩

instance (lower level : NoiseLevel) : Decidable (lower ≤ level) :=
  inferInstanceAs (Decidable (lower.rank ≤ level.rank))

theorem le_iff_rank {lower level : NoiseLevel} : lower ≤ level ↔ lower.rank ≤ level.rank := Iff.rfl

end NoiseLevel

/-! ## Thresholds -/

namespace NoiseThresholds

/-- No level has a threshold below that of a lower level.  The margin and the range may be anything. -/
structure Ascending (t : NoiseThresholds) : Prop where
  off_le_low : t.off ≤ t.low
  low_le_normal : t.low ≤ t.normal
  normal_le_high : t.normal ≤ t.high

variable {t : NoiseThresholds} {lower level : NoiseLevel} {old new : Nat}

theorem threshold_le_threshold (h : t.Ascending) (hle : lower ≤ level) :
    t.threshold lower ≤ t.threshold level := by
  obtain ⟨hlow, hnormal, hhigh⟩ := h
  rw [NoiseLevel.le_iff_rank] at hle
  cases lower <;> cases level <;> simp only [NoiseLevel.rank, threshold] at hle ⊢ <;> omega

/-- Both ways to look up a threshold keep the order of the levels, and which of them is taken does
    not depend on the level. -/
theorem effective_le_effective (h : t.Ascending) (hle : lower ≤ level) (new : Nat) :
    t.effective new lower ≤ t.effective new level := by
  have hthreshold := threshold_le_threshold h hle
  unfold effective
  split
  · omega
  · exact hthreshold

theorem effective_le_threshold (t : NoiseThresholds) (new : Nat) (level : NoiseLevel) :
    t.effective new level ≤ t.threshold level := by
  unfold effective
  split
  · exact Nat.min_le_left _ _
  · exact Nat.le_refl _

theorem significant_of_le (h : t.Ascending) (hle : lower ≤ level)
    (hmoved : t.significant old new level = true) : t.significant old new lower = true := by
  rw [significant_iff] at hmoved ⊢
  exact hmoved.imp_right (Or.imp_left (Nat.le_trans (effective_le_effective h hle new)))

/-- Whatever the margin and the range are: what is a move at a level is one at all lower levels.  The
    same reading never is one; another reading is one if it is as far away as the level's threshold,
    and always if it is at a stop. -/
theorem significant_at_lower (ascending : t.Ascending) (old new : Nat) :
    (∀ lower level, lower ≤ level → t.significant old new level = true →
      t.significant old new lower = true) ∧
    (∀ level, t.significant old old level = false) ∧
    (∀ level, old ≠ new → t.threshold level ≤ ((old : Int) - new).natAbs →
      t.significant old new level = true) ∧
    (∀ level, old ≠ new → new = 0 ∨ new = t.maxReading → t.significant old new level = true) := by
  refine ⟨fun lower level => significant_of_le ascending, fun level => ?_, fun level hne hfar => ?_,
    fun level hne hstop => significant_iff.mpr ⟨hne, .inr hstop⟩⟩
  · rw [Bool.eq_false_iff, ne_eq, significant_iff]
    exact fun h => h.1 rfl
  · rw [natAbs_sub] at hfar
    exact significant_iff.mpr ⟨hne, .inl (Nat.le_trans (effective_le_threshold t new level) hfar)⟩

/-- With a margin wider than the range the low threshold applies everywhere, also at the highest
    level. -/
theorem significant_at_lower_wide_margin :
    let t : NoiseThresholds := { edgeMargin := 2000 }
    t.Ascending ∧ t.significant 500 506 .high = true ∧ t.significant 500 506 .low = true ∧
      t.significant 500 500 .off = false ∧ t.significant 500 520 .high = true ∧
      t.significant 1021 1023 .high = true := by
  intro t
  have ascending : t.Ascending := ⟨by decide, by decide, by decide⟩
  have hhigh : t.significant 500 506 .high = true := by decide
  obtain ⟨hlower, -⟩ := significant_at_lower ascending 500 506
  obtain ⟨-, hsame, hfar, -⟩ := significant_at_lower ascending 500 520
  obtain ⟨-, -, -, hstop⟩ := significant_at_lower ascending 1021 1023
  exact ⟨ascending, hhigh, hlower .low .high (by decide) hhigh, hsame .off,
    hfar .high (by decide) (by decide), hstop .high (by decide) (.inr rfl)⟩

end NoiseThresholds

/-! ## Moves of a line -/

namespace Decoder

variable {d : Decoder} {lower : NoiseLevel}

/-- Changes of frames that agree wherever there is one on the left. -/
def Extends (changes more : List (Option Accepted)) : Prop :=
  List.Forall₂ (fun change other => ∀ e, change = some e → other = some e) changes more

theorem movesFrom_sublist {changes more : List (Option Accepted)} (h : Extends changes more)
    (slider : Nat) : (movesFrom slider changes).Sublist (movesFrom slider more) := by
  induction h generalizing slider with
  | nil => exact .slnil
  | @cons change other changes more hchange _ ih =>
    cases change with
    | some e =>
      obtain rfl : other = some e := hchange e rfl
      exact (ih (slider + 1)).cons_cons _
    | none =>
      cases other with
      | none => exact ih (slider + 1)
      | some e => exact (ih (slider + 1)).cons _

theorem accept?_at_lower {s : DecoderSettings} (h : s.thresholds.Ascending) (hle : lower ≤ s.noise)
    {old : Option Accepted} {value : Nat} {e : Accepted} (haccept : accept? s old value = some e) :
    accept? { s with noise := lower } old value = some e := by
  simp only [accept?, Option.ite_none_right_eq_some, Option.some.injEq] at haccept ⊢
  refine haccept.imp_left fun hmoved => ?_
  cases old with
  | none => rfl
  | some last => exact NoiseThresholds.significant_of_le h hle hmoved

theorem extends_zipWith {accept more : Option Accepted → Nat → Option Accepted}
    (h : ∀ old value e, accept old value = some e → more old value = some e)
    (entries : List (Option Accepted)) (values : List Nat) :
    Extends (List.zipWith accept entries values) (List.zipWith more entries values) := by
  induction entries generalizing values with
  | nil => exact .nil
  | cons old entries ih =>
    cases values with
    | nil => exact .nil
    | cons value values => exact .cons (h old value) (ih values)

/-- The readings that a frame is compared with are the same, whatever the level. -/
theorem extends_changes (h : d.settings.thresholds.Ascending) (hle : lower ≤ d.settings.noise)
    (values : List Nat) :
    Extends (d.changes values)
      ((d.setSettings { d.settings with noise := lower }).changes values) :=
  extends_zipWith (fun _ _ _ => accept?_at_lower h hle) (d.entriesFor values.length) values

/-- A line makes at a lower level all the moves that it makes at a higher one, in the same order. -/
theorem decode_at_lower (h : d.settings.thresholds.Ascending) (hle : lower ≤ d.settings.noise)
    (line : String) :
    (d.decode line).1.Sublist
      ((d.setSettings { d.settings with noise := lower }).decode line).1 := by
  have hparse : Frame.parse line.toList
      (d.setSettings { d.settings with noise := lower }).settings.thresholds.maxReading =
      Frame.parse line.toList d.settings.thresholds.maxReading := rfl
  unfold decode
  rw [hparse]
  cases Frame.parse line.toList d.settings.thresholds.maxReading with
  | ok values => exact movesFrom_sublist (extends_changes h hle values) 0
  | error _ => exact .slnil

end Decoder

end SliderMixer
