import SliderMixer.Proofs.Callers
import SliderMixer.Proofs.Sliders

/-! # Named sessions and the rest

What a mapping names and what a move looks up are worked out apart from each other, and the
directory keeps the sessions left over beside all of them.  The three agree.

* `Mixer.Divides`: plain targets and the one for the rest divide the sessions held.
* `Mixer.divides_of_run`: they do in every directory that callers make.
-/

namespace SliderMixer

namespace Mixer

variable {α : Type}

/-- How the targets of a mapping divide the sessions held. -/
structure Divides (m : Mixer α) (mapping : SliderMapping) : Prop where
  /-- A plain target stands for the sessions whose key is its lowercase form. -/
  plain : ∀ target, Target.IsPlain target → ∀ s,
    s ∈ m.standsFor target ↔ s ∈ m.tracker.directory.held ∧ s.key = lower target
  /-- The target for the rest stands for what no plain target of any slider does, but for reserved
      keys and devices. -/
  rest : ∀ target, Target.ofText target = .special .allUnmapped → ∀ s,
    s ∈ m.standsFor target ↔ s ∈ m.tracker.directory.held ∧ isReservedKey s.key = false ∧
      isDeviceKey s.key = false ∧
      ∀ slider named, mapping.Carries slider named → Target.IsPlain named → s ∉ m.standsFor named
  /-- No session belongs to both. -/
  apart : ∀ slider named target, mapping.Carries slider named → Target.IsPlain named →
    Target.ofText target = .special .allUnmapped →
    ∀ s ∈ m.standsFor named, s ∉ m.standsFor target
  /-- With a slider for the rest, only reserved keys and devices can be out of reach, and only if
      no target names them. -/
  covered : ∀ slider target, mapping.Carries slider target →
    Target.ofText target = .special .allUnmapped → ∀ s ∈ m.tracker.directory.held,
    (∃ slider targets, mapping.get? slider = some targets ∧ s ∈ m.reached targets) ∨
      (isReservedKey s.key = true ∨ isDeviceKey s.key = true) ∧
        ∀ slider named, mapping.Carries slider named → Target.IsPlain named → s.key ≠ lower named
  /-- Only plain targets make a session count as named. -/
  named : ∀ s ∈ m.tracker.directory.held,
    s ∉ m.tracker.directory.unmapped ↔ isReservedKey s.key = true ∨ isDeviceKey s.key = true ∨
      ∃ slider named, mapping.Carries slider named ∧ Target.IsPlain named ∧ lower named = s.key

section

variable {m : Mixer α} {f : FlatDirectory} {mapping : SliderMapping}
  (h : m.tracker.directory.Lists f) (hascending : SliderMapping.Ascending mapping.entries)

include h hascending

/-- A key is not among those named exactly if no plain target stands for its sessions. -/
theorem not_mem_keys_iff {s : Session} (hs : s ∈ f.held) :
    s.key ∉ mapping.keys ↔
      ∀ slider named, mapping.Carries slider named → Target.IsPlain named →
        s ∉ m.standsFor named := by
  rw [SliderMapping.mem_keys hascending]
  constructor
  · intro hunnamed slider named hcarries hplain hstands
    have hkey := ((mem_standsFor_plain h hplain).mp hstands).2
    exact hunnamed ⟨slider, named, hcarries, hplain, hkey.symm⟩
  · rintro hunnamed ⟨slider, named, hcarries, hplain, hkey⟩
    exact hunnamed slider named hcarries hplain ((mem_standsFor_plain h hplain).mpr ⟨hs, hkey.symm⟩)

variable (hmapped : f.mappedKeys = mapping.keys)

include hmapped

theorem mem_standsFor_rest {target : String}
    (htarget : Target.ofText target = .special .allUnmapped) {s : Session} :
    s ∈ m.standsFor target ↔ s ∈ f.held ∧ isReservedKey s.key = false ∧
      isDeviceKey s.key = false ∧
      ∀ slider named, mapping.Carries slider named → Target.IsPlain named →
        s ∉ m.standsFor named := by
  rw [mem_standsFor_unmapped h htarget]
  refine and_congr_right fun hs => ?_
  rw [FlatDirectory.leavesOver_iff, hmapped, not_mem_keys_iff h hascending hs]

/-- What no plain target reaches, the one for the rest does, but for reserved keys and devices. -/
theorem reached_or_kept {slider : Nat} {target : String} (hcarries : mapping.Carries slider target)
    (htarget : Target.ofText target = .special .allUnmapped) {s : Session} (hs : s ∈ f.held) :
    (∃ slider targets, mapping.get? slider = some targets ∧ s ∈ m.reached targets) ∨
      (isReservedKey s.key = true ∨ isDeviceKey s.key = true) ∧
        ∀ slider named, mapping.Carries slider named → Target.IsPlain named →
          s.key ≠ lower named := by
  by_cases hnamed : ∃ slider named, mapping.Carries slider named ∧ Target.IsPlain named ∧
      s ∈ m.standsFor named
  · obtain ⟨other, named, hother, -, hstands⟩ := hnamed
    exact .inl ⟨other, mem_reached_of_carries hother hstands⟩
  · have hunnamed : ∀ slider named, mapping.Carries slider named → Target.IsPlain named →
        s ∉ m.standsFor named :=
      fun slider named hcarries hplain hs => hnamed ⟨slider, named, hcarries, hplain, hs⟩
    by_cases hkept : isReservedKey s.key = true ∨ isDeviceKey s.key = true
    · refine .inr ⟨hkept, fun slider named hcarries hplain hkey => ?_⟩
      exact hunnamed slider named hcarries hplain ((mem_standsFor_plain h hplain).mpr ⟨hs, hkey⟩)
    · obtain ⟨hreserved, hdevice⟩ := not_or.mp hkept
      have hstands := (mem_standsFor_rest h hascending hmapped htarget).mpr
        ⟨hs, Bool.eq_false_iff.mpr hreserved, Bool.eq_false_iff.mpr hdevice, hunnamed⟩
      exact .inl ⟨slider, mem_reached_of_carries hcarries hstands⟩

theorem divides_of_lists : m.Divides mapping where
  plain target hplain s := by
    rw [mem_standsFor_plain h hplain, h.mem_held]
  rest target htarget s := by
    rw [mem_standsFor_rest h hascending hmapped htarget, h.mem_held]
  apart slider named target hcarries hplain htarget s hs hrest := by
    have hrest := (mem_standsFor_rest h hascending hmapped htarget).mp hrest
    exact hrest.2.2.2 slider named hcarries hplain hs
  covered slider target hcarries htarget s hs :=
    reached_or_kept h hascending hmapped hcarries htarget (h.mem_held.mp hs)
  named s hs := by
    -- the sessions left over are kept beside those under keys
    rw [h.unmapped.mem_iff, FlatDirectory.leftOver, List.mem_filter,
      and_iff_right (h.mem_held.mp hs), FlatDirectory.leavesOver_iff, hmapped,
      SliderMapping.mem_keys hascending]
    simp only [Bool.eq_false_iff, ne_eq, ← not_or, not_not]

end

/-- In every directory that callers make, the targets of the mapping it was classified for last
    divide the sessions held. -/
theorem divides_of_run [AudioSystem α] {keyOf : Nat → String} {audio : α} {mode : TrackingMode}
    {mappedKeys : List String} {minInterval : Nat} {turns : List (Turn α)} {c : Callers α}
    {m : Mixer α} {entries : List (Nat × List String)}
    (constant : Run.Along Callers.turn? (Callers.KeysConstant keyOf)
      (.new audio mode mappedKeys minInterval) turns)
    (run : Run.after? Callers.turn? (.new audio mode mappedKeys minInterval) turns = some c)
    (tracker : m.tracker = c.tracker)
    (applied : c.flat.mappedKeys = (SliderMapping.ofList entries).keys) :
    m.Divides (.ofList entries) := by
  have hlists : m.tracker.directory.Lists c.flat :=
    tracker ▸ (Callers.follows_of_run constant run).lists
  exact divides_of_lists hlists (SliderMapping.ascending_ofList entries) applied

/-- A refresh is under way while the mapping changes and a session is added twice. -/
theorem divides_reloaded :
    let keyOf (id : Nat) : String :=
      ["firefox.exe", "chrome.exe", "mic", "Speakers (Realtek Audio)", masterKey].getD id ""
    let session (id : Nat) : Session := { id, key := keyOf id }
    let audio := (List.range 5).foldl (fun a id => (a.startSession "" (keyOf id) defaultVolume).2)
      (MemoryAudio.new .eventDriven)
    let entries := [(0, ["chrome.exe"]), (0, ["Firefox.EXE", "deej.chrome.exe"]),
      (1, ["deej.Unmapped", "Master", "deej.current"])]
    let start : Callers MemoryAudio := .new audio .eventDriven ["chrome.exe"] 2000
    let turns : List (Turn MemoryAudio) :=
      [.begin (.refresh true), .proceed 0, .proceed 0,
        .perform (.classify (SliderMapping.ofList entries).keys), .proceed 0,
        .perform (.add (session 1))]
    Run.Along Callers.turn? (Callers.KeysConstant keyOf) start turns ∧
    ∃ c, Run.after? Callers.turn? start turns = some c ∧
      let m : Mixer MemoryAudio := { tracker := c.tracker }
      m.Divides (.ofList entries) ∧ m.standsFor "deej.Unmapped" = [session 1, session 1] ∧
        m.standsFor "Firefox.EXE" = [session 0] ∧ m.standsFor "Master" = [session 4] := by
  intro keyOf session audio entries start turns
  have constant : Run.Along Callers.turn? (Callers.KeysConstant keyOf) start turns := by
    decide +kernel
  have hdivides (c : Callers MemoryAudio) (run : Run.after? Callers.turn? start turns = some c)
      (applied : c.flat.mappedKeys = (SliderMapping.ofList entries).keys) :
      Divides { tracker := c.tracker } (.ofList entries) :=
    divides_of_run constant run rfl applied
  exact ⟨constant, _, rfl, hdivides _ rfl (by decide +kernel), by decide +kernel, by decide +kernel,
    by decide +kernel⟩

end Mixer

end SliderMixer
