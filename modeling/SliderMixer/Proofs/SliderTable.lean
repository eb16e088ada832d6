import Mathlib.Data.String.Basic
import SliderMixer.Proofs.SliderKeys
import SliderMixer.Proofs.Sliders
import SliderMixer.Settings.File

/-! # The table of sliders

Each entry of the settings gives its targets to the slider that its key names.  Keys that look
different may name the same slider, and then one of them counts.

* `Settings.InKeyOrder`: the entries are in order; `inKeyOrder_load`: all settings that are read have
  them so.
* `Settings.Assigns`: an entry that counts, `get?_mapping`: the last of those for a slider gives it
  its targets.
* `Settings.mapping_of_table`: so for every slider of a table in order.
-/

namespace SliderMixer

/-! ## Targets of an entry -/

namespace TargetEntry

/-- The targets as they are written. -/
def asWritten : TargetEntry → List String
  | one target => [target]
  | many targets => targets

/-- The targets that are more than blanks, as they are written. -/
def nonBlank (e : TargetEntry) : List String := e.asWritten.filter fun text => ¬ AllBlank text.toList

theorem trimmed_eq_empty_iff {text : String} : trimmed text = "" ↔ AllBlank text.toList := by
  rw [← trim_eq_nil_iff, trimmed, ← String.ofList_nil, String.ofList_inj]

theorem targets_eq (e : TargetEntry) : e.targets = e.nonBlank.map trimmed := by
  have hwritten : e.targets = (e.asWritten.map trimmed).filter (· ≠ "") := by cases e <;> rfl
  rw [hwritten, List.filter_map, nonBlank]
  refine congrArg (List.map trimmed) (List.filter_congr fun text _ => ?_)
  simp [trimmed_eq_empty_iff]

/-- The targets that count are those that are more than blanks, in order and without the blanks
    around them. -/
theorem eq_targets_iff {e : TargetEntry} {targets : List String} :
    targets = e.targets ↔
      List.Forall₂ (fun text target : String => Trims text.toList target.toList)
        e.nonBlank targets := by
  have htrims (text target : String) : Trims text.toList target.toList ↔ trimmed text = target := by
    rw [← trim_eq_iff, ← String.ofList_inj, String.ofList_toList, trimmed]
  simp only [htrims]
  rw [← List.forall₂_map_left_iff (f := trimmed) (R := Eq), List.forall₂_eq_eq_eq, ← targets_eq, eq_comm]

theorem targets_ne_nil_iff {e : TargetEntry} :
    e.targets ≠ [] ↔ ∃ text ∈ e.asWritten, ¬ AllBlank text.toList := by
  rw [targets_eq, ne_eq, List.map_eq_nil_iff, nonBlank, List.filter_eq_nil_iff]
  simp

theorem tight_of_mem_targets {e : TargetEntry} {target : String} (h : target ∈ e.targets) :
    target ≠ "" ∧ Tight target.toList := by
  rw [targets_eq] at h
  obtain ⟨text, htext, rfl⟩ := List.mem_map.mp h
  have hblank : ¬ AllBlank text.toList := by simpa using (List.mem_filter.mp htext).2
  refine ⟨fun hempty => hblank (trimmed_eq_empty_iff.mp hempty), ?_⟩
  rw [trimmed, String.toList_ofList]
  exact tight_trim text.toList

end TargetEntry

/-! ## Entries that count -/

namespace Settings

/-- The entries stand in ascending order of their keys, so that no key has two. -/
def InKeyOrder (s : Settings) : Prop := s.sliders.Pairwise fun e e' => e.1 < e'.1

/-- The key of the entry names the slider, and one of its targets is more than blanks. -/
structure Assigns (e : String × TargetEntry) (slider : Nat) : Prop where
  names : NamesSlider e.1 slider
  target : ∃ text ∈ e.2.asWritten, ¬ AllBlank text.toList

theorem assignment?_eq_some_iff {e : String × TargetEntry} {slider : Nat} {targets : List String} :
    assignment? e = some (slider, targets) ↔ Assigns e slider ∧ targets = e.2.targets := by
  constructor
  · intro h
    unfold assignment? at h
    split at h
    · cases h
    · next hnumber =>
      obtain ⟨hne, h⟩ := Option.ite_none_left_eq_some.mp h
      cases h
      exact ⟨⟨sliderNumber?_trim.mp hnumber, TargetEntry.targets_ne_nil_iff.mp (by simpa using hne)⟩,
        rfl⟩
  · rintro ⟨⟨hnames, htarget⟩, rfl⟩
    have hne : e.2.targets.isEmpty = false := by
      simpa using TargetEntry.targets_ne_nil_iff.mpr htarget
    simp [assignment?, sliderNumber?_trim.mpr hnames, hne]

theorem assigns_iff {e : String × TargetEntry} {slider : Nat} :
    Assigns e slider ↔ assignment? e = some (slider, e.2.targets) := by
  rw [assignment?_eq_some_iff, and_iff_left rfl]

instance (e : String × TargetEntry) (slider : Nat) : Decidable (Assigns e slider) :=
  decidable_of_iff _ assigns_iff.symm

theorem lookup_filterMap_assignment? (entries : List (String × TargetEntry)) (slider : Nat) :
    (entries.filterMap assignment?).lookup slider =
      (entries.find? fun e => decide (Assigns e slider)).map (·.2.targets) := by
  induction entries with
  | nil => rfl
  | cons e rest ih =>
    rw [List.filterMap_cons, List.find?_cons]
    cases hassignment : assignment? e with
    | none =>
      have hnot : ¬ Assigns e slider := by simp [assigns_iff, hassignment]
      rw [decide_eq_false hnot]
      exact ih
    | some assignment =>
      obtain ⟨named, targets⟩ := assignment
      obtain ⟨hnamed, rfl⟩ := assignment?_eq_some_iff.mp hassignment
      rw [lookup_cons_eq_ite, ih]
      by_cases h : slider = named
      · rw [if_pos h, h, decide_eq_true hnamed]
        rfl
      · have hnot : ¬ Assigns e slider := by simp [assigns_iff, hassignment, Ne.symm h]
        rw [if_neg h, decide_eq_false hnot]

/-- The last entry that assigns targets to a slider counts. -/
theorem get?_mapping (s : Settings) (slider : Nat) :
    s.mapping.get? slider =
      (s.sliders.reverse.find? fun e => decide (Assigns e slider)).map (·.2.targets) := by
  rw [mapping, SliderMapping.get?_ofList, ← List.filterMap_reverse, lookup_filterMap_assignment?]

/-! ## Order of the entries -/

theorem ascending_of_sliders? {v : Toml.Value} {entries : List (String × TargetEntry)}
    (h : sliders? v = some entries) : entries.Pairwise fun e e' => e.1 < e'.1 := by
  obtain ⟨fields, -, hfold⟩ := Option.bind_eq_some_iff.mp h
  have hstart : ([] : List (String × TargetEntry)).Pairwise fun e e' => e.1 < e'.1 := .nil
  generalize ([] : List (String × TargetEntry)) = start at hfold hstart
  induction fields generalizing start with
  | nil => exact Option.some.inj hfold ▸ hstart
  | cons field rest ih =>
    rw [List.foldlM_cons] at hfold
    obtain ⟨next, hnext, hfold⟩ := Option.bind_eq_some_iff.mp hfold
    obtain ⟨entry, -, rfl⟩ := Option.map_eq_some_iff.mp hnext
    exact ih _ hfold (ascending_placed field.1 entry hstart)

theorem inKeyOrder_default : ({} : Settings).InKeyOrder := List.pairwise_singleton _ _

theorem inKeyOrder_ofFields? {surplus : Surplus} {fields : List (String × Toml.Value)} {s : Settings}
    (h : ofFields? surplus fields = some s) : s.InKeyOrder := by
  simp only [ofFields?, Option.bind_eq_bind, Option.bind_eq_some_iff, Option.pure_def,
    Option.some.injEq] at h
  obtain ⟨_, -, _, -, sliders, hsliders, _, -, _, -, _, -, _, -, _, -, rfl⟩ := h
  unfold readField? at hsliders
  split at hsliders
  · exact ascending_of_sliders? hsliders
  · exact Option.some.inj hsliders ▸ inKeyOrder_default

/-- All settings that are read from a file have their entries in order. -/
theorem inKeyOrder_load {path : String} {content : FileContent} {s : Settings}
    (h : load path content = .ok s) : s.InKeyOrder := by
  unfold load at h
  split at h
  · exact Except.ok.inj h ▸ inKeyOrder_default
  · cases h
  · cases h
  · split at h
    · cases h
    · split at h
      · next hread =>
        obtain ⟨fields, -, hfields⟩ := Option.bind_eq_some_iff.mp hread
        exact Except.ok.inj h ▸ inKeyOrder_ofFields? hfields
      · cases h

/-! ## Sliders of a table -/

/-- The order decides among the entries for a slider: the one with the largest key counts. -/
theorem get?_mapping_eq_some_iff {s : Settings} (ordered : s.InKeyOrder) {slider : Nat}
    {targets : List String} :
    s.mapping.get? slider = some targets ↔
      ∃ e ∈ s.sliders, Assigns e slider ∧ (∀ e' ∈ s.sliders, Assigns e' slider → e'.1 ≤ e.1) ∧
        targets = e.2.targets := by
  rw [get?_mapping, Option.map_eq_some_iff]
  refine exists_congr fun e => ?_
  rw [find?_reverse_eq_some_iff ordered]
  simp only [decide_eq_true_eq, eq_comm (a := targets), and_assoc]

theorem isSome_get?_mapping {s : Settings} {slider : Nat} :
    (s.mapping.get? slider).isSome = true ↔ ∃ e ∈ s.sliders, Assigns e slider := by
  rw [get?_mapping, Option.isSome_map, List.find?_isSome]
  simp

/-- An entry that counts for no slider does not matter. -/
theorem mapping_of_idle {s : Settings} {front back : List (String × TargetEntry)}
    {e : String × TargetEntry} (hsplit : s.sliders = front ++ e :: back)
    (hidle : ∀ slider, ¬ Assigns e slider) :
    ({ s with sliders := front ++ back } : Settings).mapping = s.mapping := by
  have hnone : assignment? e = none := by
    cases h : assignment? e with
    | none => rfl
    | some a => exact absurd (assignment?_eq_some_iff.mp h).1 (hidle a.1)
  simp [mapping, hsplit, hnone]

/-- For settings with their entries in order, as all are that are read.  A slider has targets exactly
    if some entry assigns it any; of several such entries the one with the largest key counts, and
    its targets that are more than blanks, in order and trimmed, are those of the slider.  So the
    mapping holds no empty list and no blank or untrimmed target, and an entry whose key names no
    slider or whose targets are all blank might as well not be there. -/
theorem mapping_of_table {s : Settings} (ordered : s.InKeyOrder) :
    (∀ slider, (s.mapping.get? slider).isSome = true ↔ ∃ e ∈ s.sliders, Assigns e slider) ∧
    (∀ slider targets, s.mapping.get? slider = some targets ↔
      ∃ e ∈ s.sliders, Assigns e slider ∧ (∀ e' ∈ s.sliders, Assigns e' slider → e'.1 ≤ e.1) ∧
        List.Forall₂ (fun text target : String => Trims text.toList target.toList)
          (e.2.asWritten.filter fun text => ¬ AllBlank text.toList) targets) ∧
    (∀ slider targets, (slider, targets) ∈ s.mapping.entries ↔
      s.mapping.get? slider = some targets) ∧
    (∀ slider targets, s.mapping.get? slider = some targets →
      targets ≠ [] ∧ ∀ target ∈ targets, target ≠ "" ∧ Tight target.toList) ∧
    (∀ front e back, s.sliders = front ++ e :: back →
      ((∀ slider, ¬ NamesSlider e.1 slider) ∨ ∀ text ∈ e.2.asWritten, AllBlank text.toList) →
      ({ s with sliders := front ++ back } : Settings).mapping = s.mapping) := by
  refine ⟨fun slider => isSome_get?_mapping, fun slider targets => ?_, fun slider targets => ?_,
    fun slider targets h => ?_, fun front e back hsplit hidle => ?_⟩
  · rw [get?_mapping_eq_some_iff ordered]
    simp only [TargetEntry.eq_targets_iff, TargetEntry.nonBlank]
  · have hascending := SliderMapping.ascending_ofList (s.sliders.filterMap assignment?)
    exact ⟨SliderMapping.get?_of_mem_entries hascending, SliderMapping.mem_entries_of_get?⟩
  · obtain ⟨e, -, hassigns, -, rfl⟩ := (get?_mapping_eq_some_iff ordered).mp h
    exact ⟨TargetEntry.targets_ne_nil_iff.mpr hassigns.target,
      fun target => TargetEntry.tight_of_mem_targets⟩
  · refine mapping_of_idle hsplit fun slider hassigns => ?_
    rcases hidle with hunnamed | hblank
    · exact hunnamed slider hassigns.names
    · obtain ⟨text, htext, hnot⟩ := hassigns.target
      exact hnot (hblank text htext)

/-- Four keys for the second slider.  The last of them has nothing but blanks, and so the one before
    it counts; a number that is too large and a word name no slider. -/
theorem mapping_of_table_alike :
    let text := "[slider_mapping]\n1 = '  '\n01 = [' ', ' Firefox.exe']\n' +1 ' = []\n' 1' = 'b'\n" ++
      "knob = 'master'\n18446744073709551616 = 'mic'\n"
    let s : Settings := { sliders := [(" +1 ", .many []), (" 1", .one "b"),
      ("01", .many [" ", " Firefox.exe"]), ("1", .one "  "), ("18446744073709551616", .one "mic"),
      ("knob", .one "master")] }
    load "" (.bytes text.toUTF8.data.toList) = .ok s ∧ s.InKeyOrder ∧
    s.mapping.get? 1 = some ["Firefox.exe"] ∧
    (s.mapping.get? 18446744073709551616).isSome = false ∧
    ({ s with sliders := s.sliders.take 3 ++ s.sliders.drop 4 } : Settings).mapping = s.mapping := by
  intro text s
  have hload : load "" (.bytes text.toUTF8.data.toList) = .ok s := by decide +kernel
  have ordered : s.InKeyOrder := inKeyOrder_load hload
  obtain ⟨hsome, hget, -, -, hidle⟩ := mapping_of_table ordered
  refine ⟨hload, ordered, (hget 1 _).mpr ?_, ?_, ?_⟩
  · refine ⟨("01", .many [" ", " Firefox.exe"]), by decide +kernel, by decide +kernel,
      by decide +kernel, ?_⟩
    exact .cons (trim_eq_iff.mp (by decide +kernel)) .nil
  · rw [Bool.eq_false_iff, ne_eq, hsome]
    decide +kernel
  · exact hidle (s.sliders.take 3) ("1", .one "  ") (s.sliders.drop 4) rfl (.inr (by decide +kernel))

end Settings

end SliderMixer
