import Mathlib.Data.List.Induction
import SliderMixer.Proofs.KeyOrder
import SliderMixer.Proofs.Reach

/-! # Sliders and their targets

A mapping keeps each slider once, so that what it finds for a slider and what it counts as named
agree.

* `SliderMapping.get?_ofList`: the targets of a slider are those given last.
* `SliderMapping.Carries`: a slider has a target.
* `SliderMapping.mem_keys`: the keys named are those of the targets carried.
* `Mixer.mem_standsFor_plain`, `Mixer.mem_standsFor_unmapped`: the sessions of a plain target, and
  those left over.
-/

namespace SliderMixer

/-! ## Targets -/

namespace Target

/-- The target is a session key. -/
def IsPlain (text : String) : Prop := (ofText text).isSpecial = false

instance (text : String) : Decidable (IsPlain text) := inferInstanceAs (Decidable (_ = false))

theorem ofText_of_isPlain {text : String} (h : IsPlain text) : ofText text = key (lower text) := by
  unfold IsPlain ofText at h
  unfold ofText
  simp only at h ⊢
  split at h
  · rfl
  · split at h <;> cases h

theorem key?_eq_some_iff {text k : String} :
    (ofText text).key? = some k ↔ IsPlain text ∧ lower text = k := by
  constructor
  · intro h
    have hplain : IsPlain text := by
      unfold IsPlain
      cases hread : ofText text with
      | key => rfl
      | special => simp [hread, key?] at h
      | unknown => simp [hread, key?] at h
    rw [ofText_of_isPlain hplain, key?, Option.some.injEq] at h
    exact ⟨hplain, h⟩
  · rintro ⟨hplain, rfl⟩
    rw [ofText_of_isPlain hplain, key?]

end Target

/-! ## Mappings -/

namespace SliderMapping

/-- The sliders ascend, so that none has two entries. -/
def Ascending (entries : List (Nat × List String)) : Prop :=
  entries.Pairwise fun e e' => e.1 < e'.1

theorem ascending_ofList (given : List (Nat × List String)) : Ascending (ofList given).entries := by
  have hempty : Ascending empty.entries := List.Pairwise.nil
  unfold ofList
  generalize empty = m at hempty ⊢
  induction given generalizing m with
  | nil => exact hempty
  | cons e rest ih => exact ih _ (ascending_placed e.1 e.2 hempty)

theorem get?_set (m : SliderMapping) (slider other : Nat) (targets : List String) :
    (m.set slider targets).get? other = if other = slider then some targets else m.get? other :=
  lookup_placed slider other targets m.entries

/-- Of several entries for a slider the last one counts. -/
theorem get?_ofList (given : List (Nat × List String)) (slider : Nat) :
    (ofList given).get? slider = given.reverse.lookup slider := by
  induction given using List.reverseRecOn with
  | nil => rfl
  | append_singleton front e ih =>
    have hset : ofList (front ++ [e]) = (ofList front).set e.1 e.2 := by simp [ofList]
    rw [hset, get?_set, ih, List.reverse_append]
    exact (lookup_cons_eq_ite e.1 slider e.2 front.reverse).symm

/-- A slider has the target. -/
def Carries (m : SliderMapping) (slider : Nat) (target : String) : Prop :=
  ∃ targets, m.get? slider = some targets ∧ target ∈ targets

theorem mem_entries_of_get? {m : SliderMapping} {slider : Nat} {targets : List String}
    (h : m.get? slider = some targets) : (slider, targets) ∈ m.entries := by
  obtain ⟨front, back, hsplit, -⟩ := List.lookup_eq_some_iff.mp h
  simp [hsplit]

theorem get?_of_mem_entries {m : SliderMapping} (h : Ascending m.entries) {slider : Nat}
    {targets : List String} (he : (slider, targets) ∈ m.entries) : m.get? slider = some targets := by
  obtain ⟨front, back, hsplit⟩ := List.append_of_mem he
  refine List.lookup_eq_some_iff.mpr ⟨front, back, hsplit, fun e hfront => ?_⟩
  rw [hsplit] at h
  have hbelow : e.1 < slider := (List.pairwise_append.mp h).2.2 e hfront _ List.mem_cons_self
  exact bne_iff_ne.mpr hbelow.ne'

theorem mem_keys_of_carries {m : SliderMapping} {slider : Nat} {target : String}
    (h : m.Carries slider target) (hplain : Target.IsPlain target) : lower target ∈ m.keys := by
  obtain ⟨targets, hget, htarget⟩ := h
  refine List.mem_filterMap.mpr ⟨target, ?_, Target.key?_eq_some_iff.mpr ⟨hplain, rfl⟩⟩
  exact List.mem_flatMap.mpr ⟨_, mem_entries_of_get? hget, htarget⟩

theorem lower_of_mem_keys {m : SliderMapping} {key : String} (h : key ∈ m.keys) :
    ∃ target, lower target = key := by
  obtain ⟨target, -, hkey⟩ := List.mem_filterMap.mp h
  exact ⟨target, (Target.key?_eq_some_iff.mp hkey).2⟩

/-- The keys named are those of the plain targets that sliders carry: what is special names
    none. -/
theorem mem_keys {m : SliderMapping} (h : Ascending m.entries) {key : String} :
    key ∈ m.keys ↔
      ∃ slider target, m.Carries slider target ∧ Target.IsPlain target ∧ lower target = key := by
  constructor
  · intro hkey
    obtain ⟨target, htarget, hkey⟩ := List.mem_filterMap.mp hkey
    obtain ⟨⟨slider, targets⟩, he, htarget⟩ := List.mem_flatMap.mp htarget
    exact ⟨slider, target, ⟨targets, get?_of_mem_entries h he, htarget⟩,
      Target.key?_eq_some_iff.mp hkey⟩
  · rintro ⟨slider, target, hcarries, hplain, rfl⟩
    exact mem_keys_of_carries hcarries hplain

end SliderMapping

/-! ## Sessions of a target -/

theorem FlatDirectory.leavesOver_iff {f : FlatDirectory} {s : Session} :
    f.leavesOver s = true ↔
      isReservedKey s.key = false ∧ isDeviceKey s.key = false ∧ s.key ∉ f.mappedKeys := by
  simp [leavesOver, and_assoc]

/-- Sessions of one key are left over together. -/
theorem Directory.Lists.mem_unmappedKeys {d : Directory} {f : FlatDirectory} (h : d.Lists f)
    {s : Session} (hs : s ∈ f.held) : s.key ∈ d.unmappedKeys ↔ f.leavesOver s = true := by
  rw [h.shows.mem_unmappedKeys]
  constructor
  · rintro ⟨other, hother, hkey⟩
    have hleft := (List.mem_filter.mp hother).2
    rw [FlatDirectory.leavesOver_iff] at hleft ⊢
    exact hkey ▸ hleft
  · intro hleft
    exact ⟨s, List.mem_filter.mpr ⟨hs, hleft⟩, rfl⟩

namespace Mixer

variable {α : Type} {m : Mixer α} {f : FlatDirectory}

theorem mem_standsFor_plain (h : m.tracker.directory.Lists f) {target : String}
    (hplain : Target.IsPlain target) {s : Session} :
    s ∈ m.standsFor target ↔ s ∈ f.held ∧ s.key = lower target := by
  rw [standsFor, mem_under h, resolve, Target.ofText_of_isPlain hplain, List.mem_singleton]

theorem mem_standsFor_unmapped (h : m.tracker.directory.Lists f) {target : String}
    (hunmapped : Target.ofText target = .special .allUnmapped) {s : Session} :
    s ∈ m.standsFor target ↔ s ∈ f.held ∧ f.leavesOver s = true := by
  rw [standsFor, mem_under h, resolve, hunmapped]
  exact and_congr_right h.mem_unmappedKeys

theorem mem_reached_of_carries {mapping : SliderMapping} {slider : Nat} {target : String}
    (h : mapping.Carries slider target) {s : Session} (hs : s ∈ m.standsFor target) :
    ∃ targets, mapping.get? slider = some targets ∧ s ∈ m.reached targets := by
  obtain ⟨targets, hget, htarget⟩ := h
  exact ⟨targets, hget, List.mem_flatMap.mpr ⟨target, htarget, hs⟩⟩

end Mixer

end SliderMixer
