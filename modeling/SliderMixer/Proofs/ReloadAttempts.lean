import SliderMixer.Proofs.FileChanges

/-! # Attempts to reload

Changes of the settings file are reported at any time, the file gets other contents at any time, and
others publish settings at any time.

* `ReloadEvent`: what happens, on one line of time; `ReloadDiary`: the watcher with all of it.
* `ReloadEvent.Fits`: what an event says of those before it; `Lawful`: all of them do.
* `Watcher.Step.passes_attempts`, `passes_loaded` and `passes_new`: an attempt leads to a reading, that
  to a comparison, and that to a publication; every step passes on what is pending.
* `ReloadDiary.publishes_new_loads`: which changes lead to an attempt, when the file is read for it, and
  what is published.
-/

namespace SliderMixer

/-! ## Events -/

inductive ReloadEvent where
  /-- The settings file gets a content. -/
  | written (content : FileContent)
  /-- A change that was reported is taken, and leads to an attempt or not. -/
  | served (time : Nat) (admitted : Bool)
  | read (time : Nat) (content : FileContent)
  | compared (loaded current : Settings)
  | published (settings : Settings)
  /-- Others publish settings. -/
  | imposed (settings : Settings)
  deriving DecidableEq

namespace ReloadEvent

def written? : ReloadEvent → Option FileContent
  | written content => some content
  | served _ _ | read _ _ | compared _ _ | published _ | imposed _ => none

/-- The time of an attempt. -/
def attempt? : ReloadEvent → Option Nat
  | served time admitted => if admitted then some time else none
  | written _ | read _ _ | compared _ _ | published _ | imposed _ => none

/-- The time at which the file is read. -/
def reading? : ReloadEvent → Option Nat
  | read time _ => some time
  | written _ | served _ _ | compared _ _ | published _ | imposed _ => none

/-- The settings in the file that is read, if they can be loaded. -/
def loaded? : ReloadEvent → Option Settings
  | read _ content => Settings.ofContent? content
  | written _ | served _ _ | compared _ _ | published _ | imposed _ => none

def compared? : ReloadEvent → Option Settings
  | compared loaded _ => some loaded
  | written _ | served _ _ | read _ _ | published _ | imposed _ => none

/-- The settings that were loaded, if they are not the current ones. -/
def new? : ReloadEvent → Option Settings
  | compared loaded current => if current = loaded then none else some loaded
  | written _ | served _ _ | read _ _ | published _ | imposed _ => none

def published? : ReloadEvent → Option Settings
  | published settings => some settings
  | written _ | served _ _ | read _ _ | compared _ _ | imposed _ => none

/-- The settings that are the current ones from now on. -/
def current? : ReloadEvent → Option Settings
  | published settings | imposed settings => some settings
  | written _ | served _ _ | read _ _ | compared _ _ => none

/-- What the event says of those before it: a change leads to an attempt if the last attempt is long
    enough ago, the content read is the last one written, and the settings compared with are the
    current ones. -/
def Fits (timing : ReloadTiming) (content : FileContent) (settings : Settings)
    (past : List ReloadEvent) : ReloadEvent → Prop
  | served time admitted =>
    admitted = true ↔
      ∀ last ∈ (past.filterMap attempt?).getLast?, last + timing.minInterval ≤ time
  | read _ found => found = (past.filterMap written?).getLast?.getD content
  | compared _ current => current = (past.filterMap current?).getLast?.getD settings
  | written _ | published _ | imposed _ => True

end ReloadEvent

/-- Every event fits those before it. -/
def Lawful (timing : ReloadTiming) (content : FileContent) (settings : Settings)
    (events : List ReloadEvent) : Prop :=
  ∀ front e back, events = front ++ e :: back → e.Fits timing content settings front

section Lawful

variable {timing : ReloadTiming} {content : FileContent} {settings : Settings}
  {events : List ReloadEvent} {e : ReloadEvent}

theorem lawful_nil : Lawful timing content settings [] := by
  intro front e back h
  simp at h

theorem Lawful.snoc (h : Lawful timing content settings events)
    (fits : e.Fits timing content settings events) :
    Lawful timing content settings (events ++ [e]) := by
  intro front d back hsplit
  -- the event is the last one, or one of those before
  obtain rfl | ⟨back, last, rfl⟩ := back.eq_nil_or_concat'
  · obtain ⟨rfl, hlast⟩ := List.append_inj' hsplit rfl
    cases hlast
    exact fits
  · rw [← List.cons_append, ← List.append_assoc] at hsplit
    exact h front d back (List.append_inj' hsplit rfl).1

end Lawful

/-! ## What is pending -/

namespace Reloader

theorem attempt?_isSome_iff (r : Reloader) (now : Nat) :
    (r.attempt? now).isSome = true ↔ ∀ last ∈ r.last, r.timing.minInterval ≤ now - last := by
  cases hlast : r.last with
  | none => simp [attempt?, hlast]
  | some last =>
    by_cases hsoon : now - last < r.timing.minInterval
    · simp [attempt?, hlast, hsoon]
    · simpa [attempt?, hlast, hsoon] using Nat.le_of_not_lt hsoon

theorem attempt?_isSome_eq_false (r : Reloader) {now last : Nat} (h : r.last = some last)
    (soon : now - last < r.timing.minInterval) : (r.attempt? now).isSome = false := by
  simp [attempt?, h, soon]

end Reloader

namespace Watcher

/-- Loaded, and to be compared. -/
def comparing? (w : Watcher) : Option Settings :=
  match w.phase with
  | .comparing loaded => some loaded
  | .waiting | .settling _ | .publishing _ | .ended => none

def publishing? (w : Watcher) : Option Settings :=
  match w.phase with
  | .publishing loaded => some loaded
  | .waiting | .settling _ | .comparing _ | .ended => none

/-- What happens when the watcher goes on. -/
def event? (w : Watcher) (now : Nat) (settings : Watched Settings) : Option ReloadEvent :=
  match w.phase with
  | .waiting => some (.served now (w.reloader.attempt? now).isSome)
  | .settling _ => some (.read now w.content)
  | .comparing loaded => some (.compared loaded settings.value)
  | .publishing loaded => some (.published loaded)
  | .ended => none

theorem written_event? (w : Watcher) (now : Nat) (settings : Watched Settings) :
    (w.event? now settings).toList.filterMap ReloadEvent.written? = [] := by
  unfold event?
  split <;> rfl

namespace Step

variable {w w' : Watcher} {now : Nat} {settings settings' : Watched Settings}

theorem frame (h : w.Step now settings w' settings') :
    w'.content = w.content ∧ w'.reloader.timing = w.reloader.timing := by
  cases h <;> exact ⟨rfl, rfl⟩

theorem last (h : w.Step now settings w' settings') :
    w'.reloader.last =
      (((w.event? now settings).toList.filterMap ReloadEvent.attempt?).getLast?).or
        w.reloader.last := by
  cases h with
  | @forgets last hphase _ hlast hsoon =>
    have hrefused := w.reloader.attempt?_isSome_eq_false hlast hsoon
    simp [event?, hphase, hrefused, ReloadEvent.attempt?]
  | attempts hphase _ hfree =>
    have hadmitted := (w.reloader.attempt?_isSome_iff now).mpr hfree
    simp [event?, hphase, hadmitted, ReloadEvent.attempt?]
  | fails hphase _ _ | loads hphase _ _ | keeps hphase _ | differs hphase _ | publishes hphase =>
    simp [event?, hphase, List.filterMap_cons, ReloadEvent.attempt?]

theorem past (h : w.Step now settings w' settings') (past : ∀ last ∈ w.reloader.last, last ≤ now) :
    ∀ last ∈ w'.reloader.last, last ≤ now := by
  cases h with
  | attempts => simp
  | _ => exact past

theorem due (h : w.Step now settings w' settings') : ∀ readAt ∈ w'.timer?, now ≤ readAt := by
  cases h with
  | attempts => simp [timer?]
  | forgets hphase _ _ _ => simp [timer?, hphase]
  | _ => simp [timer?]

theorem current (h : w.Step now settings w' settings') :
    settings'.value =
      (((w.event? now settings).toList.filterMap ReloadEvent.current?).getLast?).getD
        settings.value := by
  cases h with
  | publishes hphase =>
    simp [event?, hphase, ReloadEvent.current?, Watched.send]
  | forgets hphase _ _ _ | attempts hphase _ _ | fails hphase _ _ | loads hphase _ _
  | keeps hphase _ | differs hphase _ =>
    simp [event?, hphase, List.filterMap_cons, ReloadEvent.current?]

/-- The file is read for each attempt, exactly when it has settled. -/
theorem passes_attempts (h : w.Step now settings w' settings')
    (prompt : ∀ readAt ∈ w.timer?, now ≤ readAt) :
    w.timer?.toList ++
        ((w.event? now settings).toList.filterMap ReloadEvent.attempt?).map
          (· + w.reloader.timing.settle) =
      (w.event? now settings).toList.filterMap ReloadEvent.reading? ++ w'.timer?.toList := by
  cases h with
  | @forgets last hphase _ hlast hsoon =>
    have hrefused := w.reloader.attempt?_isSome_eq_false hlast hsoon
    simp [timer?, event?, hphase, List.filterMap_cons, hrefused, ReloadEvent.attempt?,
      ReloadEvent.reading?]
  | attempts hphase _ hfree =>
    have hadmitted := (w.reloader.attempt?_isSome_iff now).mpr hfree
    simp [timer?, event?, hphase, List.filterMap_cons, hadmitted, ReloadEvent.attempt?,
      ReloadEvent.reading?]
  | @fails readAt hphase hdue _ | @loads readAt _ hphase hdue _ =>
    -- the step needs the time to have come, and the clock has not gone past it
    have hnow : now = readAt := Nat.le_antisymm (prompt readAt (by simp [timer?, hphase])) hdue
    simp [timer?, event?, hphase, List.filterMap_cons, hnow, ReloadEvent.attempt?,
      ReloadEvent.reading?]
  | keeps hphase _ | differs hphase _ | publishes hphase =>
    simp [timer?, event?, hphase, List.filterMap_cons, ReloadEvent.attempt?, ReloadEvent.reading?]

theorem passes_loaded (h : w.Step now settings w' settings') :
    w.comparing?.toList ++ (w.event? now settings).toList.filterMap ReloadEvent.loaded? =
      (w.event? now settings).toList.filterMap ReloadEvent.compared? ++ w'.comparing?.toList := by
  cases h with
  | fails hphase _ hload | loads hphase _ hload =>
    simp [comparing?, event?, hphase, List.filterMap_cons, hload, ReloadEvent.loaded?,
      ReloadEvent.compared?]
  | forgets hphase _ _ _ | attempts hphase _ _ | keeps hphase _ | differs hphase _
  | publishes hphase =>
    simp [comparing?, event?, hphase, List.filterMap_cons, ReloadEvent.loaded?,
      ReloadEvent.compared?]

theorem passes_new (h : w.Step now settings w' settings') :
    w.publishing?.toList ++ (w.event? now settings).toList.filterMap ReloadEvent.new? =
      (w.event? now settings).toList.filterMap ReloadEvent.published? ++
        w'.publishing?.toList := by
  cases h with
  | keeps hphase hcurrent | differs hphase hcurrent =>
    simp [publishing?, event?, hphase, List.filterMap_cons, hcurrent, ReloadEvent.new?,
      ReloadEvent.published?]
  | forgets hphase _ _ _ | attempts hphase _ _ | fails hphase _ _ | loads hphase _ _
  | publishes hphase =>
    simp [publishing?, event?, hphase, List.filterMap_cons, ReloadEvent.new?,
      ReloadEvent.published?]

end Step

end Watcher

/-! ## Runs -/

/-- What can happen next. -/
inductive WatcherTurn where
  | file (turn : FileTurn)
  /-- Others publish settings. -/
  | impose (settings : Settings)

/-- A watcher, the settings it publishes, and what happened so far, oldest first. -/
structure ReloadDiary where
  watcher : Watcher
  settings : Watched Settings
  now : Nat := 0
  events : List ReloadEvent := []

namespace ReloadDiary

def start (name : String) (content : FileContent) (settings : Settings) (timing : ReloadTiming) :
    ReloadDiary where
  watcher := { name, content, reloader := { timing } }
  settings := { value := settings }

def turn? (x : ReloadDiary) : WatcherTurn → Option ReloadDiary
  | .file (.alter content) => some { x with
      watcher := { x.watcher with content }
      events := x.events ++ [.written content] }
  | .file (.write name content) => some { x with
      watcher := x.watcher.write name content
      events := x.events ++ if name = x.watcher.name then [.written content] else [] }
  | .file .proceed =>
    (x.watcher.proceed? x.now x.settings).map fun (watcher, settings) => { x with
      watcher
      settings
      events := x.events ++ (x.watcher.event? x.now x.settings).toList }
  | .file .stop => x.watcher.stop?.map fun watcher => { x with watcher }
  | .file (.pass time) =>
    -- a time at which the file is to be read does not pass before it is read
    if ∀ readAt ∈ x.watcher.timer?, x.now + time ≤ readAt then some { x with now := x.now + time }
    else none
  | .impose settings => some { x with
      settings := x.settings.send settings
      events := x.events ++ [.imposed settings] }

/-- The events account for the state. -/
structure Kept (timing : ReloadTiming) (content : FileContent) (settings : Settings)
    (x : ReloadDiary) : Prop where
  timed : x.watcher.reloader.timing = timing
  last : x.watcher.reloader.last = (x.events.filterMap ReloadEvent.attempt?).getLast?
  past : ∀ last ∈ x.watcher.reloader.last, last ≤ x.now
  prompt : ∀ readAt ∈ x.watcher.timer?, x.now ≤ readAt
  written : x.watcher.content = (x.events.filterMap ReloadEvent.written?).getLast?.getD content
  current : x.settings.value = (x.events.filterMap ReloadEvent.current?).getLast?.getD settings
  lawful : Lawful timing content settings x.events
  attempts : (x.events.filterMap ReloadEvent.attempt?).map (· + timing.settle) =
    x.events.filterMap ReloadEvent.reading? ++ x.watcher.timer?.toList
  loads : x.events.filterMap ReloadEvent.loaded? =
    x.events.filterMap ReloadEvent.compared? ++ x.watcher.comparing?.toList
  news : x.events.filterMap ReloadEvent.new? =
    x.events.filterMap ReloadEvent.published? ++ x.watcher.publishing?.toList

variable {timing : ReloadTiming} {content : FileContent} {settings : Settings} {x y : ReloadDiary}

theorem kept_start (name : String) (content : FileContent) (settings : Settings)
    (timing : ReloadTiming) : (start name content settings timing).Kept timing content settings where
  timed := rfl
  last := rfl
  past _ h := by cases h
  prompt _ h := by cases h
  written := rfl
  current := rfl
  lawful := lawful_nil
  attempts := rfl
  loads := rfl
  news := rfl

/-- What the watcher does next fits what happened before. -/
theorem fits_event (h : x.Kept timing content settings) {e : ReloadEvent}
    (hevent : x.watcher.event? x.now x.settings = some e) :
    e.Fits timing content settings x.events := by
  unfold Watcher.event? at hevent
  split at hevent <;> cases hevent
  · show _ = true ↔ _
    rw [Reloader.attempt?_isSome_iff, h.timed, ← h.last]
    -- the difference of the times is exact, since no attempt lies in the future
    refine forall₂_congr fun last hlast => ?_
    have hpast := h.past last hlast
    omega
  · exact h.written
  · exact h.current
  · trivial

theorem kept_step (h : x.Kept timing content settings) {w : Watcher} {s : Watched Settings}
    (hstep : x.watcher.Step x.now x.settings w s) :
    Kept timing content settings { x with
      watcher := w
      settings := s
      events := x.events ++ (x.watcher.event? x.now x.settings).toList } := by
  obtain ⟨hcontent, htiming⟩ := hstep.frame
  have hpassed := hstep.passes_attempts h.prompt
  rw [h.timed] at hpassed
  constructor
  case timed => exact htiming.trans h.timed
  case last => rw [List.filterMap_append, List.getLast?_append, ← h.last, hstep.last]
  case past => exact hstep.past h.past
  case prompt => exact hstep.due
  case written =>
    rw [List.filterMap_append, Watcher.written_event?, List.append_nil, ← h.written, hcontent]
  case current =>
    rw [List.filterMap_append, List.getLast?_append, Option.getD_or, ← h.current, hstep.current]
  case lawful =>
    cases hevent : x.watcher.event? x.now x.settings with
    | none => simpa using h.lawful
    | some e => exact h.lawful.snoc (fits_event h hevent)
  -- what was pending, with what the step adds to it, is done by the step or still pending
  case attempts =>
    rw [List.filterMap_append, List.map_append, h.attempts, List.append_assoc, hpassed,
      List.filterMap_append, List.append_assoc]
  case loads =>
    rw [List.filterMap_append, h.loads, List.append_assoc, hstep.passes_loaded,
      List.filterMap_append, List.append_assoc]
  case news =>
    rw [List.filterMap_append, h.news, List.append_assoc, hstep.passes_new,
      List.filterMap_append, List.append_assoc]

/-- What others do is noted, and changes nothing that is pending. -/
theorem Kept.outside (h : x.Kept timing content settings) {e : ReloadEvent}
    (outside : (∃ found, e = .written found) ∨ ∃ s, e = .imposed s)
    (events : y.events = x.events ++ [e]) (now : y.now = x.now)
    (reloader : y.watcher.reloader = x.watcher.reloader) (phase : y.watcher.phase = x.watcher.phase)
    (written : y.watcher.content = e.written?.getD x.watcher.content)
    (current : y.settings.value = e.current?.getD x.settings.value) :
    y.Kept timing content settings := by
  obtain ⟨hattempt, hreading, hloaded, hcompared, hnew, hpublished⟩ :
      e.attempt? = none ∧ e.reading? = none ∧ e.loaded? = none ∧ e.compared? = none ∧
        e.new? = none ∧ e.published? = none := by
    rcases outside with ⟨found, rfl⟩ | ⟨s, rfl⟩ <;> exact ⟨rfl, rfl, rfl, rfl, rfl, rfl⟩
  have hfits : e.Fits timing content settings x.events := by
    rcases outside with ⟨found, rfl⟩ | ⟨s, rfl⟩ <;> trivial
  constructor
  case timed => exact reloader ▸ h.timed
  case last => simpa [events, reloader, List.filterMap_cons, hattempt] using h.last
  case past => exact now ▸ reloader ▸ h.past
  case prompt => simpa [Watcher.timer?, now, phase] using h.prompt
  case written =>
    rw [written, h.written, events, List.filterMap_append, List.getLast?_append, Option.getD_or]
    cases hwritten : e.written? <;> simp [hwritten]
  case current =>
    rw [current, h.current, events, List.filterMap_append, List.getLast?_append, Option.getD_or]
    cases hcurrent : e.current? <;> simp [hcurrent]
  case lawful => exact events ▸ h.lawful.snoc hfits
  case attempts =>
    simpa [events, List.filterMap_cons, hattempt, hreading, Watcher.timer?, phase] using h.attempts
  case loads =>
    simpa [events, List.filterMap_cons, hloaded, hcompared, Watcher.comparing?, phase] using h.loads
  case news =>
    simpa [events, List.filterMap_cons, hnew, hpublished, Watcher.publishing?, phase] using h.news

theorem kept_turn {turn : WatcherTurn} (h : x.Kept timing content settings)
    (hturn : x.turn? turn = some y) : y.Kept timing content settings := by
  cases turn with
  | impose s =>
    cases hturn
    exact h.outside (.inr ⟨s, rfl⟩) rfl rfl rfl rfl rfl rfl
  | file turn =>
    cases turn with
    | alter found =>
      cases hturn
      exact h.outside (.inl ⟨found, rfl⟩) rfl rfl rfl rfl rfl rfl
    | write name found =>
      simp only [turn?, Watcher.write] at hturn
      by_cases hname : name = x.watcher.name
      · simp only [hname, if_true] at hturn
        cases hturn
        exact h.outside (.inl ⟨found, rfl⟩) rfl rfl rfl rfl rfl rfl
      · simp only [hname, if_false, List.append_nil] at hturn
        cases hturn
        exact h
    | proceed =>
      obtain ⟨⟨w, s⟩, hproceed, rfl⟩ := Option.map_eq_some_iff.mp hturn
      exact kept_step h (Watcher.step_of_proceed? hproceed)
    | stop =>
      obtain ⟨w, hstop, rfl⟩ := Option.map_eq_some_iff.mp hturn
      unfold Watcher.stop? at hstop
      split at hstop <;> cases hstop
      next hphase =>
      -- a watcher that waits has nothing pending
      exact ⟨h.timed, h.last, h.past, by simp [Watcher.timer?], h.written, h.current, h.lawful,
        by simpa [Watcher.timer?, hphase] using h.attempts,
        by simpa [Watcher.comparing?, hphase] using h.loads,
        by simpa [Watcher.publishing?, hphase] using h.news⟩
    | pass time =>
      simp only [turn?, Option.ite_none_right_eq_some, Option.some.injEq] at hturn
      obtain ⟨hprompt, rfl⟩ := hturn
      exact ⟨h.timed, h.last, fun last hlast => Nat.le_add_right_of_le (h.past last hlast), hprompt,
        h.written, h.current, h.lawful, h.attempts, h.loads, h.news⟩

/-- Once the file has settled, it can be read. -/
theorem proceeds_of_due {readAt : Nat} (hpending : x.watcher.timer? = some readAt)
    (hdue : readAt ≤ x.now) : ∃ y, x.turn? (.file .proceed) = some y := by
  unfold Watcher.timer? at hpending
  split at hpending <;> cases hpending
  next hphase =>
  cases hload : Settings.ofContent? x.watcher.content <;>
    simp [turn?, Watcher.proceed?, hphase, hdue, hload]

/-- In every run of the watcher, whatever is reported, whatever stands in the file, and whatever others
    publish.  A change that is served leads to an attempt exactly if the last attempt is at least the
    least interval ago.  For every attempt, and for nothing else, the file is read, exactly when it has
    settled, which is always possible then, with the content last written; a missing file holds the
    defaults.  The settings that could be loaded are compared, in order, with the current ones, and
    published, in order, exactly if they are not the same.  So the current settings are those last
    published, by the watcher or by others. -/
theorem publishes_new_loads {name : String} {turns : List WatcherTurn}
    (hrun : Run.after? turn? (start name content settings timing) turns = some x) :
    (∀ front time admitted back, x.events = front ++ .served time admitted :: back →
      (admitted = true ↔ ∀ last ∈ (front.filterMap ReloadEvent.attempt?).getLast?,
        last + timing.minInterval ≤ time)) ∧
    (x.events.filterMap ReloadEvent.attempt?).map (· + timing.settle) =
      x.events.filterMap ReloadEvent.reading? ++ x.watcher.timer?.toList ∧
    (∀ readAt ∈ x.watcher.timer?, x.now ≤ readAt ∧
      (x.now = readAt → ∃ y, x.turn? (.file .proceed) = some y)) ∧
    (∀ front time found back, x.events = front ++ .read time found :: back →
      found = (front.filterMap ReloadEvent.written?).getLast?.getD content) ∧
    Settings.ofContent? .missing = some {} ∧
    x.events.filterMap ReloadEvent.loaded? =
      x.events.filterMap ReloadEvent.compared? ++ x.watcher.comparing?.toList ∧
    (∀ front loaded current back, x.events = front ++ .compared loaded current :: back →
      current = (front.filterMap ReloadEvent.current?).getLast?.getD settings) ∧
    x.events.filterMap ReloadEvent.new? =
      x.events.filterMap ReloadEvent.published? ++ x.watcher.publishing?.toList ∧
    x.settings.value = (x.events.filterMap ReloadEvent.current?).getLast?.getD settings := by
  have h : x.Kept timing content settings :=
    Run.invariant (kept_start name content settings timing)
      (fun _ _ _ hx hturn => kept_turn hx hturn) hrun
  exact ⟨fun front time admitted back hevents => h.lawful front _ back hevents, h.attempts,
    fun readAt hpending => ⟨h.prompt readAt hpending,
      fun hnow => proceeds_of_due hpending (Nat.le_of_eq hnow.symm)⟩,
    fun front time found back hevents => h.lawful front _ back hevents, rfl, h.loads,
    fun front loaded current back hevents => h.lawful front _ back hevents, h.news, h.current⟩

/-- A change right after a reading leads to no attempt; a file that cannot be loaded leaves the settings that
    others published, until the file is gone. -/
theorem publishes_new_loads_missing_file :
    let bytes (text : String) : FileContent := .bytes text.toUTF8.toList
    let turns : List WatcherTurn :=
      [.file (.write "c" (bytes "invert_sliders = true")), .file .proceed, .file (.pass 50),
        .file .proceed, .file .proceed, .file .proceed, .file (.write "c" (bytes "[[[")),
        .file .proceed, .file (.pass 450), .file (.write "c" (bytes "[[[")), .file .proceed,
        .impose { noise := .low }, .file (.pass 50), .file .proceed, .file (.pass 450),
        .file (.write "c" .missing), .file .proceed, .file (.pass 50), .file .proceed,
        .file .proceed, .file .proceed]
    let events : List ReloadEvent :=
      [.written (bytes "invert_sliders = true"), .served 0 true,
        .read 50 (bytes "invert_sliders = true"), .compared { invert := true } { noise := .high },
        .published { invert := true }, .written (bytes "[[["), .served 50 false,
        .written (bytes "[[["), .served 500 true, .imposed { noise := .low },
        .read 550 (bytes "[[["), .written .missing, .served 1000 true, .read 1050 .missing,
        .compared {} { noise := .low }, .published {}]
    ∃ x ∈ Run.after? turn? (start "c" .missing { noise := .high } {}) turns,
      x.events = events ∧
      (x.events.filterMap ReloadEvent.attempt?).map (· + 50) = [50, 550, 1050] ∧
      x.settings.value = {} := by
  intro bytes turns events
  have hrun : ∃ x ∈ Run.after? turn? (start "c" .missing { noise := .high } {}) turns,
      x.watcher.timer? = none ∧ x.events = events := by
    decide +kernel
  obtain ⟨x, hx, htimer, hevents⟩ := hrun
  obtain ⟨-, hattempts, -, -, -, -, -, -, hcurrent⟩ := publishes_new_loads hx
  rw [htimer, hevents] at hattempts
  rw [hevents] at hcurrent
  exact ⟨x, hx, hevents, hevents ▸ hattempts, hcurrent⟩

end ReloadDiary

end SliderMixer
