import SliderMixer.Proofs.Run
import SliderMixer.Settings.Reload

/-! # Changes of the settings file

The settings file may be altered at any time.  Each change is reported some time later, and the watcher
may go on at any time when it can.

* `Watcher.Step`: every step of a watcher, with what it finds.
* `WatcherLog`: the watcher with what it last read of the file and whether it forgot the last report.
* `Kept`: where the settings in use come from, and `kept_turn`: every turn keeps that so.
* `uses_file`: a watcher at rest uses the settings in the file, unless the last report came too soon
  after an attempt; `forgets_last_change`: then it goes on with the old ones.
-/

namespace SliderMixer

/-! ## Steps -/

namespace Watcher

/-- Every step of a watcher, with what it finds. -/
inductive Step (w : Watcher) (now : Nat) (settings : Watched Settings) :
    Watcher → Watched Settings → Prop where
  | forgets {last : Nat} (phase : w.phase = .waiting) (changed : w.changed = true)
      (attempt : w.reloader.last = some last)
      (soon : now - last < w.reloader.timing.minInterval) :
      Step w now settings { w with changed := false } settings
  | attempts (phase : w.phase = .waiting) (changed : w.changed = true)
      (free : ∀ last ∈ w.reloader.last, w.reloader.timing.minInterval ≤ now - last) :
      Step w now settings { w with
        changed := false
        reloader := { w.reloader with last := some now }
        phase := .settling (now + w.reloader.timing.settle) } settings
  | fails {readAt : Nat} (phase : w.phase = .settling readAt) (due : readAt ≤ now)
      (broken : Settings.ofContent? w.content = none) :
      Step w now settings { w with phase := .waiting } settings
  | loads {readAt : Nat} {loaded : Settings} (phase : w.phase = .settling readAt)
      (due : readAt ≤ now) (sound : Settings.ofContent? w.content = some loaded) :
      Step w now settings { w with phase := .comparing loaded } settings
  | keeps {loaded : Settings} (phase : w.phase = .comparing loaded)
      (same : settings.value = loaded) : Step w now settings { w with phase := .waiting } settings
  | differs {loaded : Settings} (phase : w.phase = .comparing loaded)
      (new : settings.value ≠ loaded) :
      Step w now settings { w with phase := .publishing loaded } settings
  | publishes {loaded : Settings} (phase : w.phase = .publishing loaded) :
      Step w now settings { w with phase := .waiting } (settings.send loaded)

theorem step_of_proceed? {w w' : Watcher} {now : Nat} {settings settings' : Watched Settings}
    (h : w.proceed? now settings = some (w', settings')) : w.Step now settings w' settings' := by
  obtain ⟨name, content, reloader, changed, phase⟩ := w
  cases phase with
  | waiting =>
    simp only [proceed?, Option.ite_none_right_eq_some] at h
    obtain ⟨hchanged, h⟩ := h
    cases hlast : reloader.last with
    | none =>
      simp only [Reloader.attempt?, hlast, Option.any_none, Bool.false_eq_true, if_false] at h
      cases h
      exact .attempts rfl hchanged (by simp [hlast])
    | some last =>
      by_cases hsoon : now - last < reloader.timing.minInterval
      · simp only [Reloader.attempt?, hlast, Option.any_some, hsoon, decide_true, if_true] at h
        cases h
        exact .forgets rfl hchanged hlast hsoon
      · simp only [Reloader.attempt?, hlast, Option.any_some, hsoon, decide_false,
          Bool.false_eq_true, if_false] at h
        cases h
        exact .attempts rfl hchanged (by simpa [hlast] using hsoon)
  | settling readAt =>
    simp only [proceed?, Option.ite_none_right_eq_some] at h
    obtain ⟨hdue, h⟩ := h
    cases hload : Settings.ofContent? content with
    | none =>
      simp only [hload] at h
      cases h
      exact .fails rfl hdue hload
    | some loaded =>
      simp only [hload] at h
      cases h
      exact .loads rfl hdue hload
  | comparing loaded =>
    simp only [proceed?] at h
    by_cases hsame : settings.value = loaded
    · simp only [hsame, if_true] at h
      cases h
      exact .keeps rfl hsame
    · simp only [hsame, if_false] at h
      cases h
      exact .differs rfl hsame
  | publishing loaded =>
    cases h
    exact .publishes rfl
  | ended => cases h

end Watcher

/-! ## Turns -/

/-- What can happen next. -/
inductive FileTurn where
  /-- The settings file gets another content, which is reported later. -/
  | alter (content : FileContent)
  /-- A file of the directory gets another content, which is reported at once.  If it has this
      content already, that is a late report. -/
  | write (name : String) (content : FileContent)
  | proceed
  | stop
  | pass (time : Nat)

/-- A watcher, the settings it publishes, and what it made of the file. -/
structure WatcherLog where
  watcher : Watcher
  settings : Watched Settings
  now : Nat := 0
  /-- The content last read, or the one at the start. -/
  read : FileContent
  /-- The file was altered, and that is still to be reported. -/
  unreported : Bool := false
  /-- When the change last reported was forgotten, if it was. -/
  forgotten : Option Nat := none

namespace WatcherLog

/-- The settings in use at the start are those in the file, if it can be loaded. -/
def start (name : String) (content : FileContent) (settings : Settings) (timing : ReloadTiming) :
    WatcherLog where
  watcher := { name, content, reloader := { timing } }
  settings := { value := (Settings.ofContent? content).getD settings }
  read := content

/-- Notes what a step did, that led to the watcher and the settings. -/
def next (x : WatcherLog) (watcher : Watcher) (settings : Watched Settings) : WatcherLog :=
  match x.watcher.phase with
  | .waiting =>
    { x with watcher, settings, forgotten := if watcher.phase = .waiting then some x.now else none }
  | .settling _ => { x with watcher, settings, read := x.watcher.content }
  | .comparing _ | .publishing _ | .ended => { x with watcher, settings }

def turn? (x : WatcherLog) : FileTurn → Option WatcherLog
  | .alter content => some { x with watcher := { x.watcher with content }, unreported := true }
  | .write name content =>
    let watcher := x.watcher.write name content
    if name = x.watcher.name then some { x with watcher, unreported := false, forgotten := none }
    else some { x with watcher }
  | .proceed =>
    (x.watcher.proceed? x.now x.settings).map fun (watcher, settings) => x.next watcher settings
  | .stop => x.watcher.stop?.map fun watcher => { x with watcher }
  | .pass time => some { x with now := x.now + time }

/-- The watcher waits, and nothing is left to be reported or served. -/
structure AtRest (x : WatcherLog) : Prop where
  phase : x.watcher.phase = .waiting
  changed : x.watcher.changed = false
  reported : x.unreported = false

/-- The change last reported was forgotten: it came after the last reading, and too soon after the
    attempt before it. -/
def Forgot (timing : ReloadTiming) (x : WatcherLog) : Prop :=
  ∃ time last, x.forgotten = some time ∧ x.watcher.reloader.last = some last ∧
    last + timing.settle ≤ time ∧ time < last + timing.minInterval

/-- Where the settings in use come from. -/
structure Kept (timing : ReloadTiming) (x : WatcherLog) : Prop where
  timed : x.watcher.reloader.timing = timing
  used : x.watcher.phase = .waiting →
    ∀ s, Settings.ofContent? x.read = some s → x.settings.value = s
  loaded : ∀ s, x.watcher.phase = .comparing s ∨ x.watcher.phase = .publishing s →
    Settings.ofContent? x.read = some s
  settling : ∀ readAt, x.watcher.phase = .settling readAt →
    ∃ last, x.watcher.reloader.last = some last ∧ readAt = last + timing.settle
  settled : (∀ readAt, x.watcher.phase ≠ .settling readAt) →
    ∀ last ∈ x.watcher.reloader.last, last + timing.settle ≤ x.now
  noticed : (∀ readAt, x.watcher.phase ≠ .settling readAt) →
    x.watcher.content = x.read ∨ x.watcher.changed = true ∨ x.unreported = true ∨ x.Forgot timing

variable {timing : ReloadTiming} {x y : WatcherLog}

theorem kept_start (name : String) (content : FileContent) (settings : Settings)
    (timing : ReloadTiming) : (start name content settings timing).Kept timing where
  timed := rfl
  used _ s hload := by simp [start, show Settings.ofContent? content = some s from hload]
  loaded s h := by rcases h with h | h <;> cases h
  settling readAt h := by cases h
  settled _ last h := by cases h
  noticed _ := .inl rfl

/-- The time of a reading lies behind the attempt by the time to settle. -/
theorem Kept.settled_of_settling (h : x.Kept timing) {readAt : Nat}
    (hphase : x.watcher.phase = .settling readAt) (hdue : readAt ≤ x.now) :
    ∀ last ∈ x.watcher.reloader.last, last + timing.settle ≤ x.now := by
  intro last hlast
  obtain ⟨last', hlast', rfl⟩ := h.settling readAt hphase
  obtain rfl : last = last' := by simpa [hlast'] using hlast.symm
  exact hdue

theorem kept_step (h : x.Kept timing) {w : Watcher} {settings : Watched Settings}
    (hstep : x.watcher.Step x.now x.settings w settings) : (x.next w settings).Kept timing := by
  cases hstep with
  | @forgets last hphase hchanged hattempt hsoon =>
    have hnext : x.next { x.watcher with changed := false } x.settings =
        { x with watcher := { x.watcher with changed := false }, forgotten := some x.now } := by
      simp [next, hphase]
    have hsettled := h.settled (by simp [hphase])
    have htime : last + timing.settle ≤ x.now := hsettled last hattempt
    -- the file has settled since the attempt, and the attempt is still too recent
    rw [h.timed] at hsoon
    rw [hnext]
    exact ⟨h.timed, h.used, h.loaded, h.settling, fun _ => hsettled,
      fun _ => .inr (.inr (.inr ⟨x.now, last, rfl, hattempt, htime, by omega⟩))⟩
  | attempts hphase hchanged hfree =>
    -- nothing is due before the file has been read
    simp only [next, hphase]
    refine ⟨h.timed, by simp, by simp, ?_, by simp, by simp⟩
    rintro readAt ⟨⟩
    exact ⟨x.now, rfl, by rw [h.timed]⟩
  | fails hphase hdue hbroken =>
    simp only [next, hphase]
    exact ⟨h.timed, by simp [hbroken], by simp, by simp,
      fun _ => h.settled_of_settling hphase hdue, fun _ => .inl rfl⟩
  | @loads readAt loaded hphase hdue hsound =>
    simp only [next, hphase]
    exact ⟨h.timed, by simp, by simp [hsound], by simp,
      fun _ => h.settled_of_settling hphase hdue, fun _ => .inl rfl⟩
  | @keeps loaded hphase hsame =>
    have hread := h.loaded loaded (.inl hphase)
    simp only [next, hphase]
    exact ⟨h.timed, by simp [hread, hsame], by simp, by simp,
      fun _ => h.settled (by simp [hphase]), fun _ => h.noticed (by simp [hphase])⟩
  | @differs loaded hphase hnew =>
    have hread := h.loaded loaded (.inl hphase)
    simp only [next, hphase]
    exact ⟨h.timed, by simp, by simp [hread], by simp,
      fun _ => h.settled (by simp [hphase]), fun _ => h.noticed (by simp [hphase])⟩
  | @publishes loaded hphase =>
    have hread := h.loaded loaded (.inr hphase)
    simp only [next, hphase]
    exact ⟨h.timed, by simp [hread, Watched.send], by simp, by simp,
      fun _ => h.settled (by simp [hphase]), fun _ => h.noticed (by simp [hphase])⟩

theorem kept_turn {turn : FileTurn} (h : x.Kept timing) (hturn : x.turn? turn = some y) :
    y.Kept timing := by
  cases turn with
  | alter content =>
    cases hturn
    exact ⟨h.timed, h.used, h.loaded, h.settling, h.settled, fun _ => .inr (.inr (.inl rfl))⟩
  | write name content =>
    simp only [turn?, Watcher.write] at hturn
    split at hturn
    · cases hturn
      exact ⟨h.timed, h.used, h.loaded, h.settling, h.settled, fun _ => .inr (.inl rfl)⟩
    · cases hturn
      exact h
  | proceed =>
    obtain ⟨⟨w, settings⟩, hproceed, rfl⟩ := Option.map_eq_some_iff.mp hturn
    exact kept_step h (Watcher.step_of_proceed? hproceed)
  | stop =>
    obtain ⟨w, hstop, rfl⟩ := Option.map_eq_some_iff.mp hturn
    cases hphase : x.watcher.phase with
    | waiting =>
      simp only [Watcher.stop?, hphase] at hstop
      cases hstop
      exact ⟨h.timed, by simp, by simp, by simp, fun _ => h.settled (by simp [hphase]),
        fun _ => h.noticed (by simp [hphase])⟩
    | settling _ | comparing _ | publishing _ | ended => simp [Watcher.stop?, hphase] at hstop
  | pass time =>
    cases hturn
    exact ⟨h.timed, h.used, h.loaded, h.settling,
      fun hphase last hlast => Nat.le_trans (h.settled hphase last hlast) (Nat.le_add_right _ _),
      h.noticed⟩

/-! ## At rest -/

/-- Whenever the watcher waits and no change is left to be reported or served: if the file can be
    loaded, the settings in use are those in it, unless the file was altered after it was last read
    and the last report of a change was forgotten, because it came too soon after the last attempt.
    If the file settles for at least the time between two attempts, that cannot be.  In any case the
    settings in use are those last read, if they could be loaded. -/
theorem uses_file {name : String} {content : FileContent} {settings : Settings}
    {turns : List FileTurn}
    (hrun : Run.after? turn? (start name content settings timing) turns = some x)
    (rest : x.AtRest) :
    (∀ s, Settings.ofContent? x.watcher.content = some s →
      (x.settings.value = s ∨ x.watcher.content ≠ x.read ∧ x.Forgot timing) ∧
      (timing.minInterval ≤ timing.settle → x.settings.value = s)) ∧
    ∀ s, Settings.ofContent? x.read = some s → x.settings.value = s := by
  have h : x.Kept timing := Run.invariant (kept_start name content settings timing)
    (fun _ _ _ hx hturn => kept_turn hx hturn) hrun
  refine ⟨fun s hload => ?_, h.used rest.phase⟩
  -- at rest no change is on its way any more
  have hnoticed : x.watcher.content = x.read ∨ x.Forgot timing := by
    simpa [rest.changed, rest.reported] using h.noticed (by simp [rest.phase])
  by_cases hread : x.watcher.content = x.read
  · have hvalue : x.settings.value = s := h.used rest.phase s (hread ▸ hload)
    exact ⟨.inl hvalue, fun _ => hvalue⟩
  · obtain ⟨time, last, hforgot, hlast, hsettle, hsoon⟩ := hnoticed.resolve_left hread
    exact ⟨.inr ⟨hread, time, last, hforgot, hlast, hsettle, hsoon⟩, fun _ => by omega⟩

/-- While the file settles it is altered twice, and once it cannot be loaded; the report that is
    still to be served then leads to a second attempt. -/
theorem uses_file_altered_twice :
    let bytes (text : String) : FileContent := .bytes text.toUTF8.toList
    let turns : List FileTurn :=
      [.alter (bytes ""), .write "notes" .missing, .write "c" (bytes ""), .proceed,
        .write "c" (bytes "[[["), .write "c" (bytes "invert_sliders = true"), .pass 50, .proceed,
        .proceed, .proceed, .pass 450, .proceed, .pass 50, .proceed, .proceed]
    ∃ x ∈ Run.after? turn? (start "c" .missing { noise := .high } {}) turns,
      x.AtRest ∧ x.watcher.reloader.last = some 500 ∧ x.settings.version = 1 ∧
      Settings.ofContent? x.watcher.content = some { invert := true } ∧
      x.settings.value = { invert := true } := by
  intro bytes turns
  have hrun : ∃ x ∈ Run.after? turn? (start "c" .missing { noise := .high } {}) turns,
      (x.watcher.phase = .waiting ∧ x.watcher.changed = false ∧ x.unreported = false) ∧
      x.watcher.reloader.last = some 500 ∧ x.settings.version = 1 ∧ x.forgotten = none ∧
      Settings.ofContent? x.watcher.content = some { invert := true } := by
    decide +kernel
  obtain ⟨x, hx, ⟨hphase, hchanged, hreported⟩, hlast, hversion, hforgotten, hload⟩ := hrun
  have rest : x.AtRest := ⟨hphase, hchanged, hreported⟩
  obtain ⟨huses, -⟩ := uses_file hx rest
  refine ⟨x, hx, rest, hlast, hversion, hload, (huses _ hload).1.resolve_right ?_⟩
  rintro ⟨-, time, last, hforgot, -⟩
  cases hforgotten.symm.trans hforgot

/-- A file that is altered again right after it was read is not read again, and the watcher waits with
    the settings from before. -/
theorem forgets_last_change :
    let bytes (text : String) : FileContent := .bytes text.toUTF8.toList
    let turns : List FileTurn :=
      [.write "c" (bytes "invert_sliders = true"), .proceed, .pass 50, .proceed, .proceed, .proceed,
        .write "c" (bytes "noise_reduction = \"low\""), .proceed]
    ∃ x ∈ Run.after? turn? (start "c" .missing {} {}) turns,
      x.AtRest ∧ Settings.ofContent? x.watcher.content = some { noise := .low } ∧
      x.settings.value = { invert := true } ∧ x.settings.value ≠ { noise := .low } := by
  intro bytes turns
  have hrun : ∃ x ∈ Run.after? turn? (start "c" .missing {} {}) turns,
      (x.watcher.phase = .waiting ∧ x.watcher.changed = false ∧ x.unreported = false) ∧
      Settings.ofContent? x.watcher.content = some { noise := .low } ∧
      x.settings.value = { invert := true } ∧ x.settings.value ≠ { noise := .low } := by
    decide +kernel
  obtain ⟨x, hx, ⟨hphase, hchanged, hreported⟩, hload, hvalue⟩ := hrun
  exact ⟨x, hx, ⟨hphase, hchanged, hreported⟩, hload, hvalue⟩

end WatcherLog

end SliderMixer
