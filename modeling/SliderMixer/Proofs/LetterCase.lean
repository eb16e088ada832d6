import SliderMixer.Proofs.Callers
import SliderMixer.Proofs.Sliders

/-! # Letter case

Targets are put into lowercase, and keys of sessions stay as the audio system gives them.

* `lower_lower`: lowercase text is its own lowercase form, in all scripts.
* `Mixer.found_iff_lowercase`: a target finds a session whose key differs from it in letter case
  only exactly if the key is in lowercase.
* `Mixer.capital_device_not_found`: so a device whose name has capitals is never found.
-/

namespace SliderMixer

/-! ## Characters -/

namespace CodePoint.LowerRun

/-- The character lies in the run. -/
def has (r : LowerRun) (n : Nat) : Bool :=
  r.first ≤ n && n ≤ r.last && (n - r.first) % r.step == 0

/-- The lowercase form of a character of the run. -/
def image (r : LowerRun) (n : Nat) : Nat := Int.toNat (n + r.shift)

/-- No lowercase form of the first run lies in the second: the two lie apart, or the forms lie
    between the characters of a run that takes every other one. -/
def avoids (r q : LowerRun) : Bool :=
  Nat.blt (r.image r.last) q.first || Nat.blt q.last (r.image r.first) ||
    (q.step == 2 && (r.step == 2 || r.first == r.last) && (r.image r.first - q.first) % 2 == 1)

/-- The lowercase forms of the run are characters, and none of them has a lowercase form of
    its own. -/
def isFinal (r : LowerRun) : Bool :=
  0 ≤ r.first + r.shift &&
    (r.image r.last < 0xd800 || (0xdfff < r.image r.first && r.image r.last < 0x110000)) &&
    r.avoids ⟨0x130, 0x130, 1, 0⟩ && lowerRuns.toList.all r.avoids

theorem isFinal_of_mem : ∀ r ∈ lowerRuns.toList, r.isFinal = true :=
  List.all_eq_true.mp (by decide +kernel)

theorem has_iff {r : LowerRun} {n : Nat} :
    r.has n = true ↔ r.first ≤ n ∧ n ≤ r.last ∧ (n - r.first) % r.step = 0 := by
  simp [has, and_assoc]

theorem not_has_image {r q : LowerRun} {n : Nat} (havoids : r.avoids q = true)
    (_hpositive : 0 ≤ r.first + r.shift) (h : r.has n = true) : q.has (r.image n) = false := by
  obtain ⟨hfirst, hlast, hstep⟩ := has_iff.mp h
  rw [Bool.eq_false_iff]
  intro hq
  obtain ⟨hqfirst, hqlast, hqstep⟩ := has_iff.mp hq
  simp only [avoids, image, Bool.or_eq_true, Bool.and_eq_true, Nat.blt_eq, beq_iff_eq] at havoids
  simp only [image] at hqfirst hqlast hqstep
  rcases havoids with (hbelow | habove) | ⟨⟨heven, hcharacters⟩, hodd⟩
  · omega
  · omega
  · rw [heven] at hqstep
    rcases hcharacters with htwo | hone
    · rw [htwo] at hstep
      omega
    · omega

end CodePoint.LowerRun

open CodePoint (lowerRuns)

/-- The character has no other lowercase form, and is not the capital sigma, whose form depends
    on its neighbours. -/
def IsLower (c : Char) : Prop := lowerChar c = [c] ∧ c ≠ 'Σ'

instance (c : Char) : Decidable (IsLower c) := inferInstanceAs (Decidable (_ ∧ _))

theorem isLower_toLower : ∀ n < 0x80, IsLower (Char.ofNat n).toLower := by decide +kernel

theorem isLower_or_has : ∀ n < 0x80,
    IsLower (Char.ofNat n) ∨ (lowerRuns.toList.any fun q => q.has n) = true := by
  decide +kernel

theorem has_sigma : (lowerRuns.toList.any fun q => q.has 'Σ'.toNat) = true := by decide +kernel

theorem lowerChar_eq {c : Char} (hascii : ¬ c.toNat < 0x80) (hdotted : c.toNat ≠ 0x130) :
    lowerChar c =
      match lowerRuns.find? fun r => r.has c.toNat with
      | some r => [Char.ofNat (r.image c.toNat)]
      | none => [c] := by
  rw [lowerChar, if_neg hascii, if_neg hdotted]
  generalize lowerRuns = runs
  rfl

/-- A character in no run is lowercase, but for the one with two characters in its form. -/
theorem isLower_of_no_run {c : Char} (hruns : ∀ q ∈ lowerRuns.toList, q.has c.toNat = false)
    (hdotted : c.toNat ≠ 0x130) : IsLower c := by
  have hno : (lowerRuns.toList.any fun q => q.has c.toNat) = false := by
    rw [List.any_eq_false]
    intro q hq
    rw [hruns q hq]
    exact Bool.false_ne_true
  by_cases hascii : c.toNat < 0x80
  · have hlower := (isLower_or_has c.toNat hascii).resolve_right (by simp [hno])
    rwa [Char.ofNat_toNat] at hlower
  · refine ⟨?_, ?_⟩
    · have hnone : (lowerRuns.find? fun q => q.has c.toNat) = none := by
        rw [← Array.find?_toList, List.find?_eq_none]
        intro q hq
        rw [hruns q hq]
        exact Bool.false_ne_true
      rw [lowerChar_eq hascii hdotted, hnone]
    · rintro rfl
      rw [has_sigma] at hno
      cases hno

theorem isLower_dotted : ∀ c ∈ lowerChar 'İ', IsLower c := by
  have hdot : ∀ q ∈ lowerRuns.toList, (!q.has 0x307) = true := List.all_eq_true.mp (by decide +kernel)
  have hletter : IsLower 'i' := by decide +kernel
  intro c hc
  rcases List.mem_cons.mp hc with rfl | hc
  · exact hletter
  · rw [List.mem_singleton.mp hc]
    exact isLower_of_no_run (fun q hq => by simpa using hdot q hq) (by decide)

theorem isLower_image {r : CodePoint.LowerRun} {n : Nat} (hr : r.isFinal = true)
    (h : r.has n = true) : IsLower (Char.ofNat (r.image n)) := by
  simp only [CodePoint.LowerRun.isFinal, Bool.and_eq_true, decide_eq_true_eq, List.all_eq_true,
    Bool.or_eq_true] at hr
  obtain ⟨⟨⟨hpositive, hvalid⟩, hdotted⟩, hruns⟩ := hr
  have hchar : (r.image n).isValidChar := by
    obtain ⟨hfirst, hlast, -⟩ := CodePoint.LowerRun.has_iff.mp h
    simp only [CodePoint.LowerRun.image, Nat.isValidChar] at hvalid ⊢
    omega
  have hnat : (Char.ofNat (r.image n)).toNat = r.image n := by
    rw [Char.ofNat, dif_pos hchar]
    rfl
  apply isLower_of_no_run
  · intro q hq
    rw [hnat]
    exact CodePoint.LowerRun.not_has_image (hruns q hq) hpositive h
  · rw [hnat]
    intro hsame
    have hno := CodePoint.LowerRun.not_has_image hdotted hpositive h
    rw [hsame] at hno
    cases hno

/-- A lowercase form consists of lowercase characters. -/
theorem isLower_of_mem_lowerChar {c d : Char} (hd : d ∈ lowerChar c) : IsLower d := by
  by_cases hascii : c.toNat < 0x80
  · rw [lowerChar, if_pos hascii, List.mem_singleton] at hd
    have hlower := isLower_toLower c.toNat hascii
    rwa [Char.ofNat_toNat, ← hd] at hlower
  by_cases hdotted : c.toNat = 0x130
  · have hc : c = 'İ' := by rw [← Char.ofNat_toNat c, hdotted]
    exact isLower_dotted d (hc ▸ hd)
  rw [lowerChar_eq hascii hdotted] at hd
  cases hfind : lowerRuns.find? fun r : CodePoint.LowerRun => r.has c.toNat with
  | none =>
    rw [hfind, List.mem_singleton] at hd
    subst hd
    refine isLower_of_no_run (fun q hq => ?_) hdotted
    rw [← Array.find?_toList, List.find?_eq_none] at hfind
    exact Bool.eq_false_iff.mpr (hfind q hq)
  | some r =>
    rw [hfind, List.mem_singleton] at hd
    rw [← Array.find?_toList] at hfind
    have hr := CodePoint.LowerRun.isFinal_of_mem r (List.mem_of_find?_eq_some hfind)
    have hhas := @List.find?_some _ (fun q : CodePoint.LowerRun => q.has c.toNat) _ _ hfind
    rw [hd]
    exact isLower_image hr hhas

/-! ## Texts -/

/-- Text of lowercase characters stays as it is. -/
theorem lowerAfter_of_isLower {text : List Char} (h : ∀ c ∈ text, IsLower c) (before : List Char) :
    lowerAfter before text = text := by
  induction text generalizing before with
  | nil => rfl
  | cons c rest ih =>
    obtain ⟨hform, hsigma⟩ := h c List.mem_cons_self
    rw [lowerAfter, if_neg hsigma, hform, ih fun d hd => h d (List.mem_cons_of_mem c hd)]
    rfl

theorem isLower_of_mem_lowerAfter {before text : List Char} {d : Char}
    (hd : d ∈ lowerAfter before text) : IsLower d := by
  induction text generalizing before with
  | nil => cases hd
  | cons c rest ih =>
    rw [lowerAfter, List.mem_append] at hd
    rcases hd with hd | hd
    · split at hd
      · have hsigmas : IsLower 'ς' ∧ IsLower 'σ' := by decide +kernel
        rw [List.mem_singleton, lowerSigma] at hd
        split at hd
        · exact hd ▸ hsigmas.1
        · exact hd ▸ hsigmas.2
      · exact isLower_of_mem_lowerChar hd
    · exact ih hd

/-- Lowercase text is its own lowercase form. -/
theorem lower_lower (text : String) : lower (lower text) = lower text := by
  simp only [lower, String.toList_ofList]
  rw [lowerAfter_of_isLower fun c hc => isLower_of_mem_lowerAfter hc]

/-! ## Sessions -/

theorem lower_of_isReservedKey {key : String} (h : isReservedKey key = true) : lower key = key := by
  have hreserved : ∀ k ∈ [masterKey, systemKey, inputKey], lower k = k := by decide +kernel
  apply hreserved
  simpa [isReservedKey, or_assoc] using h

theorem SliderMapping.lower_eq_of_mem_keys {mapping : SliderMapping} {key : String}
    (h : key ∈ mapping.keys) : lower key = key := by
  obtain ⟨target, rfl⟩ := lower_of_mem_keys h
  exact lower_lower target

/-- A session that is named but for letter case is left over, unless its key is in lowercase or a
    device's. -/
theorem FlatDirectory.leavesOver_eq_false_iff {f : FlatDirectory} {mapping : SliderMapping}
    {s : Session} (applied : f.mappedKeys = mapping.keys) (named : lower s.key ∈ mapping.keys) :
    f.leavesOver s = false ↔ lower s.key = s.key ∨ isDeviceKey s.key = true := by
  rw [← Bool.not_eq_true, leavesOver_iff, applied]
  constructor
  · intro hnot
    by_contra hneither
    obtain ⟨hupper, hdevice⟩ := not_or.mp hneither
    -- reserved keys and keys that are named are in lowercase
    refine hnot ⟨?_, Bool.eq_false_iff.mpr hdevice, ?_⟩
    · exact Bool.eq_false_iff.mpr fun hreserved => hupper (lower_of_isReservedKey hreserved)
    · exact fun hkey => hupper (SliderMapping.lower_eq_of_mem_keys hkey)
  · rintro (hlower | hdevice) ⟨-, hother, hkey⟩
    · exact hkey (hlower ▸ named)
    · rw [hother] at hdevice
      cases hdevice

namespace Mixer

variable {α : Type} [AudioSystem α]

/-- A target that differs from a session's key in letter case only stands for the session exactly
    if the key is in lowercase.  Otherwise the session counts as left over, unless it is a
    device. -/
theorem found_iff_lowercase {keyOf : Nat → String} {audio : α} {mode : TrackingMode}
    {mappedKeys : List String} {minInterval : Nat} {turns : List (Turn α)} {c : Callers α}
    {m : Mixer α} {mapping : SliderMapping} {move : Move} {targets : List String} {target : String}
    {s : Session}
    (constant : Run.Along Callers.turn? (Callers.KeysConstant keyOf)
      (.new audio mode mappedKeys minInterval) turns)
    (run : Run.after? Callers.turn? (.new audio mode mappedKeys minInterval) turns = some c)
    (tracker : m.tracker = c.tracker)
    (applied : c.flat.mappedKeys = mapping.keys)
    (entry : mapping.get? move.slider = some targets) (carried : target ∈ targets)
    (plain : Target.IsPlain target) (held : s ∈ m.tracker.directory.held)
    (same : lower target = lower s.key) :
    (s ∈ m.standsFor target ↔ lower s.key = s.key) ∧
    (s.key ∉ m.tracker.directory.unmappedKeys ↔ lower s.key = s.key ∨ isDeviceKey s.key = true) ∧
    (lower s.key = s.key → s ∈ m.reached targets ∧ (m.route mapping move).1.found = true) := by
  have hlists : m.tracker.directory.Lists c.flat :=
    tracker ▸ (Callers.follows_of_run constant run).lists
  have hheld : s ∈ c.flat.held := hlists.mem_held.mp held
  have hstands : s ∈ m.standsFor target ↔ lower s.key = s.key := by
    rw [mem_standsFor_plain hlists plain, same, and_iff_right hheld, eq_comm]
  refine ⟨hstands, ?_, fun hlower => ?_⟩
  · have hnamed : lower s.key ∈ mapping.keys :=
      same ▸ SliderMapping.mem_keys_of_carries ⟨targets, entry, carried⟩ plain
    rw [hlists.mem_unmappedKeys hheld, Bool.not_eq_true,
      FlatDirectory.leavesOver_eq_false_iff applied hnamed]
  · have hreached : s ∈ m.reached targets :=
      List.mem_flatMap.mpr ⟨target, carried, hstands.mpr hlower⟩
    obtain ⟨focus, -, hroute⟩ := m.route_of_get? entry
    refine ⟨hreached, ?_⟩
    rw [hroute]
    exact (found_iff hlists targets).mpr (List.ne_nil_of_mem hreached)

/-- A target in capitals stands for two handles of one key, added before and after the mapping was
    applied. -/
theorem found_in_capitals :
    let s : Session := { id := 0, key := "firefox.exe" }
    let t : Session := { id := 1, key := "firefox.exe" }
    let first := ((MemoryAudio.new .eventDriven).startSession "a" s.key defaultVolume).2
    let audio := (first.startSession "b" t.key defaultVolume).2
    let targets := ["Chrome.exe", "FireFox.EXE"]
    let mapping : SliderMapping := .ofList [(0, ["deej.current"]), (1, targets)]
    let move : Move := { slider := 1, value := Binary32.zero }
    let turns : List (Turn MemoryAudio) :=
      [.perform (.add s), .perform (.classify mapping.keys), .perform (.add t)]
    let m : Mixer MemoryAudio :=
      { tracker := (((Tracker.new audio .eventDriven [] 2000).add s).classify mapping.keys).add t }
    (∃ c, Run.after? Callers.turn? (.new audio .eventDriven [] 2000) turns = some c ∧
      m.tracker = c.tracker) ∧
    m.tracker.directory.held = [s, t] ∧ s ∈ m.standsFor "FireFox.EXE" ∧
    s.key ∉ m.tracker.directory.unmappedKeys ∧ s ∈ m.reached targets ∧
    (m.route mapping move).1.found = true := by
  intro s t first audio targets mapping move turns m
  have constant : Run.Along Callers.turn? (Callers.KeysConstant fun _ => s.key)
      (.new audio .eventDriven [] 2000) turns := by decide +kernel
  have same : lower "FireFox.EXE" = lower s.key := by decide +kernel
  have hlower : lower s.key = s.key := by decide +kernel
  have hentry : mapping.get? move.slider = some targets := by decide +kernel
  obtain ⟨hstands, hunmapped, hfound⟩ :=
    found_iff_lowercase constant rfl (show m.tracker = _ from rfl) (by decide +kernel) hentry
      (by decide) (by decide +kernel) (by decide +kernel) same
  exact ⟨⟨_, rfl, rfl⟩, by decide +kernel, hstands.mpr hlower, hunmapped.mpr (.inl hlower),
    hfound hlower⟩

/-- A device is not found by its own name, for the name has capitals. -/
theorem capital_device_not_found :
    let s : Session := { id := 0, key := "Speakers (Realtek Audio)" }
    let audio := ((MemoryAudio.new .eventDriven).startSession "speakers" s.key defaultVolume).2
    let mapping : SliderMapping := .ofList [(0, [s.key])]
    let move : Move := { slider := 0, value := Binary32.zero }
    let m : Mixer MemoryAudio :=
      { tracker := ((Tracker.new audio .eventDriven mapping.keys 2000).refresh true).2 }
    s ∈ m.tracker.directory.held ∧ m.tracker.directory.mappedKeys = mapping.keys ∧
      mapping.get? move.slider = some [s.key] ∧ Target.IsPlain s.key ∧
      m.reached [s.key] = [] ∧ (m.route mapping move).1.found = false := by
  decide +kernel

end Mixer

end SliderMixer
