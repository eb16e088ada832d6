import Mathlib.Order.Lattice
import SliderMixer.Mapping

/-! # Tables in the order of their keys

The targets of the sliders and the entries of the settings are kept in the same way: each key once,
in ascending order.

* `ascending_placed`: a table with an entry put into its place is in order if the table was.
* `lookup_placed`: nothing but the entry of that key is new.
* `find?_reverse_eq_some_iff`: in a table in order, last means with the largest key.
-/

namespace SliderMixer

variable {κ β : Type} [LinearOrder κ]

theorem eq_or_mem_of_mem_placed {key : κ} {value : β} {e : κ × β} {entries : List (κ × β)}
    (h : e ∈ placed key value entries) : e = (key, value) ∨ e ∈ entries := by
  induction entries with
  | nil => exact .inl (List.mem_singleton.mp h)
  | cons e' rest ih =>
    unfold placed at h
    split at h
    · exact List.mem_cons.mp h
    · split at h
      · exact (List.mem_cons.mp h).imp_right (List.mem_cons_of_mem e')
      · rcases List.mem_cons.mp h with rfl | h
        · exact .inr List.mem_cons_self
        · exact (ih h).imp_right (List.mem_cons_of_mem e')

theorem ascending_placed (key : κ) (value : β) {entries : List (κ × β)}
    (h : entries.Pairwise fun e e' => e.1 < e'.1) :
    (placed key value entries).Pairwise fun e e' => e.1 < e'.1 := by
  induction entries with
  | nil => exact List.pairwise_singleton _ _
  | cons e rest ih =>
    obtain ⟨hfirst, hrest⟩ := List.pairwise_cons.mp h
    unfold placed
    split
    · next hbefore =>
      refine List.pairwise_cons.mpr ⟨fun e' he' => ?_, h⟩
      rcases List.mem_cons.mp he' with rfl | he'
      · exact hbefore
      · exact lt_trans hbefore (hfirst e' he')
    · split
      · next hsame => exact List.pairwise_cons.mpr ⟨fun e' he' => hsame ▸ hfirst e' he', hrest⟩
      · next hnot hother =>
        refine List.pairwise_cons.mpr ⟨fun e' he' => ?_, ih hrest⟩
        rcases eq_or_mem_of_mem_placed he' with rfl | he'
        · exact lt_of_le_of_ne (le_of_not_gt hnot) (Ne.symm hother)
        · exact hfirst e' he'

theorem lookup_cons_eq_ite (key other : κ) (value : β) (entries : List (κ × β)) :
    ((key, value) :: entries).lookup other =
      if other = key then some value else entries.lookup other := by
  rw [List.lookup_cons]
  by_cases h : other = key
  · rw [if_pos h, beq_iff_eq.mpr h]
  · rw [if_neg h, beq_eq_false_iff_ne.mpr h]

theorem lookup_placed (key other : κ) (value : β) (entries : List (κ × β)) :
    (placed key value entries).lookup other =
      if other = key then some value else entries.lookup other := by
  induction entries with
  | nil => exact lookup_cons_eq_ite key other value []
  | cons e rest ih =>
    obtain ⟨first, old⟩ := e
    unfold placed
    split
    · exact lookup_cons_eq_ite key other value _
    · split
      · next hsame =>
        subst hsame
        rw [lookup_cons_eq_ite, lookup_cons_eq_ite]
        split <;> rfl
      · next hother =>
        rw [lookup_cons_eq_ite, lookup_cons_eq_ite, ih]
        by_cases h : other = first
        · have hkey : other ≠ key := fun hkey => hother (hkey.symm.trans h)
          rw [if_pos h, if_pos h, if_neg hkey]
        · rw [if_neg h, if_neg h]

/-- The last entry with a property is the one with the largest key. -/
theorem find?_reverse_eq_some_iff {entries : List (κ × β)}
    (h : entries.Pairwise fun e e' => e.1 < e'.1) {p : κ × β → Bool} {e : κ × β} :
    entries.reverse.find? p = some e ↔
      e ∈ entries ∧ p e = true ∧ ∀ e' ∈ entries, p e' = true → e'.1 ≤ e.1 := by
  rw [List.find?_eq_some_iff_append]
  constructor
  · rintro ⟨he, later, earlier, hsplit, hlater⟩
    obtain rfl : entries = earlier.reverse ++ e :: later.reverse := by
      simpa using congrArg List.reverse hsplit
    refine ⟨by simp, he, fun e' he' hp => ?_⟩
    rcases List.mem_append.mp he' with hbefore | hafter
    · exact le_of_lt ((List.pairwise_append.mp h).2.2 e' hbefore e List.mem_cons_self)
    · rcases List.mem_cons.mp hafter with rfl | hafter
      · exact le_rfl
      · -- none of those after it has the property
        have hnot := hlater e' (List.mem_reverse.mp hafter)
        rw [hp] at hnot
        cases hnot
  · rintro ⟨hmem, he, hlargest⟩
    obtain ⟨earlier, later, rfl⟩ := List.append_of_mem hmem
    refine ⟨he, later.reverse, earlier.reverse, by simp, fun e' hlater => ?_⟩
    have hlater : e' ∈ later := List.mem_reverse.mp hlater
    have hbeyond : e.1 < e'.1 :=
      (List.pairwise_cons.mp (List.pairwise_append.mp h).2.1).1 e' hlater
    have hnot : ¬ p e' = true := fun hp =>
      not_lt_of_ge (hlargest e' (by simp [hlater]) hp) hbeyond
    simpa using hnot

end SliderMixer
