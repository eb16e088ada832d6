import SliderMixer.Proofs.Audited
import SliderMixer.Proofs.Claim

/-! # The cooldown of refreshes

A refresh that is not forced is put off if the last one started too recently.  The start of a refresh is
noted in one section, and the caller asks for the sessions in the next; others may come in between.

* `RefreshStart`: a start that was noted, `Callers.starts`: that of a turn.
* `Paced`: all starts up to now, and the one that the directory remembers; `paced_turn`.
* `Section`: what a caller did in one turn, `Tracker.Spared`: all that a refresh leaves alone until it
  replaces the sessions.
* `Call.Refreshes`: how far a refresh has come, by its sections; `Refreshes.step`: each takes it further.
* `Callers.refreshes_paced`: the starts of a run, and what comes of every caller that refreshes.
-/

namespace SliderMixer

/-! ## Starts -/

/-- The start of a refresh that was not put off. -/
structure RefreshStart where
  /-- The caller, unless the refresh was done as a whole. -/
  caller : Option Nat
  force : Bool
  /-- The time that was noted. -/
  time : Nat
  deriving DecidableEq

variable {α : Type}

theorem Directory.lastRefresh_foldl_insert (d : Directory) (fresh : List Session) :
    (fresh.foldl insert d).lastRefresh = d.lastRefresh := by
  induction fresh generalizing d with
  | nil => rfl
  | cons s rest ih => exact ih (d.insert s)

/-- Only a refresh that is not forced is put off, and only if the last one is too recent. -/
theorem Tracker.beginRefresh_cases (t : Tracker α) (force : Bool) :
    (t.beginRefresh force = none ∧ force = false) ∨
    (t.beginRefresh force =
        some { t with directory := { t.directory with lastRefresh := some t.now } } ∧
      (force = false → ∀ last ∈ t.directory.lastRefresh, t.minInterval ≤ t.now - last)) := by
  cases hbegin : t.beginRefresh force with
  | none =>
    cases force with
    | true => simp [beginRefresh, Directory.beginRefresh] at hbegin
    | false => exact .inl ⟨rfl, rfl⟩
  | some begun =>
    obtain ⟨directory, hdirectory, rfl⟩ := beginRefresh_eq_some hbegin
    obtain rfl := Directory.beginRefresh_eq_some hdirectory
    refine .inr ⟨rfl, ?_⟩
    rintro rfl last hlast
    rw [Option.mem_def] at hlast
    simpa [Directory.beginRefresh, hlast] using hdirectory

namespace Call

/-- The start that the next section notes. -/
def start? (t : Tracker α) (caller : Option Nat) : Call → Option RefreshStart
  | beginRefresh force => (t.beginRefresh force).map fun _ => { caller, force, time := t.now }
  | insert _ | erase _ | classify _ | enumerate | replace _ | takeAll | giveBack _ _
  | countSessions _ | publishCount _ _ | claimClosing | closeAudio | finished _ => none

variable {t u : Tracker α} {caller : Option Nat}

theorem start?_eq_some {c : Call} {a : RefreshStart} (h : c.start? t caller = some a) :
    a.caller = caller ∧ a.time = t.now ∧
      (a.force = false → ∀ last ∈ t.directory.lastRefresh, t.minInterval ≤ t.now - last) := by
  cases c with
  | beginRefresh force =>
    obtain ⟨begun, hbegin, rfl⟩ := Option.map_eq_some_iff.mp h
    refine ⟨rfl, rfl, ?_⟩
    rcases t.beginRefresh_cases force with ⟨hnone, -⟩ | ⟨-, hrecent⟩
    · simp [hnone] at hbegin
    · exact hrecent
  | _ => cases h

theorem filter_start? (c : Call) (t : Tracker α) (caller : Option Nat) (i : Nat) :
    (c.start? t caller).toList.filter (·.caller == some i) =
      if caller = some i then (c.start? t caller).toList else [] := by
  cases hnoted : c.start? t caller with
  | none => simp
  | some a => by_cases h : caller = some i <;> simp [(start?_eq_some hnoted).1, h]

variable [AudioSystem α]

/-- Only the first section of a caller notes a start. -/
theorem start?_step (c : Call) (t u : Tracker α) (caller : Option Nat) :
    (c.step t).1.start? u caller = none := by
  have hstep := c.stepped t
  generalize c.step t = next at hstep ⊢
  cases hstep <;> rfl

theorem lastRefresh_step (c : Call) (t : Tracker α) (caller : Option Nat) :
    (c.step t).2.directory.lastRefresh =
      ((c.start? t caller).map (·.time)).or t.directory.lastRefresh := by
  have hstep := c.stepped t
  generalize c.step t = next at hstep ⊢
  cases hstep with
  | begins free =>
    obtain rfl := Directory.beginRefresh_eq_some free
    simp [start?, Tracker.beginRefresh, free]
  | throttles recent => simp [start?, Tracker.beginRefresh, recent]
  | replaces fresh => exact Directory.lastRefresh_foldl_insert _ fresh
  | _ => rfl

theorem clock_step (c : Call) (t : Tracker α) :
    (c.step t).2.now = t.now ∧ (c.step t).2.minInterval = t.minInterval := by
  have hstep := c.stepped t
  generalize c.step t = next at hstep ⊢
  cases hstep <;> exact ⟨rfl, rfl⟩

theorem ComesTo.lastRefresh {c d : Call} (h : c.ComesTo t d u) (hd : d.isFinished = true) :
    u.directory.lastRefresh =
      ((c.start? t caller).map (·.time)).or t.directory.lastRefresh := by
  -- the sections after the first note nothing
  induction h with
  | refl c t =>
    obtain ⟨r, rfl⟩ := eq_finished_of_isFinished hd
    rfl
  | @step c d t u _ ih =>
    have hlater := ih hd
    rwa [start?_step, Option.map_none, Option.none_or, lastRefresh_step c t caller] at hlater

theorem ComesTo.clock {c d : Call} (h : c.ComesTo t d u) :
    u.now = t.now ∧ u.minInterval = t.minInterval := by
  induction h with
  | refl => exact ⟨rfl, rfl⟩
  | @step c d t u _ ih => exact ⟨ih.1.trans (c.clock_step t).1, ih.2.trans (c.clock_step t).2⟩

end Call

namespace Callers

def starts (c : Callers α) : Turn α → List RefreshStart
  | .proceed i =>
    (c.callers[i]?.bind fun caller => caller.call.start? c.tracker (some i)).toList
  | .perform op => (op.call.start? c.tracker none).toList
  | .begin _ | .audio _ | .clock _ => []

/-- The clock does not go back. -/
def ClockRises (c : Callers α) : Turn α → Prop
  | .clock now => c.tracker.now ≤ now
  | .begin _ | .proceed _ | .perform _ | .audio _ => True

instance (c : Callers α) (turn : Turn α) : Decidable (c.ClockRises turn) := by
  cases turn <;> unfold ClockRises <;> infer_instance

end Callers

/-! ## Attempts in a row -/

/-- The starts so far, oldest first.  One that is not forced is late enough after all before it, and the
    directory remembers the last. -/
structure Paced (starts : List RefreshStart) (t : Tracker α) : Prop where
  last : t.directory.lastRefresh = starts.getLast?.map (·.time)
  past : ∀ a ∈ starts, a.time ≤ t.now
  spaced : starts.Pairwise fun a b =>
    a.time ≤ b.time ∧ (b.force = false → a.time + t.minInterval ≤ b.time)

namespace Paced

variable {starts : List RefreshStart} {t u : Tracker α}

theorem exists_last (h : Paced starts t) {a : RefreshStart} (ha : a ∈ starts) :
    ∃ last ∈ t.directory.lastRefresh, a.time ≤ last ∧ last ≤ t.now := by
  have hspaced := h.spaced
  rw [h.last]
  obtain rfl | ⟨front, l, rfl⟩ := starts.eq_nil_or_concat'
  · cases ha
  · refine ⟨l.time, by simp, ?_, h.past l (by simp)⟩
    rcases List.mem_append.mp ha with ha | ha
    · exact ((List.pairwise_append.mp hspaced).2.2 a ha l (by simp)).1
    · exact Nat.le_of_eq (congrArg _ (List.mem_singleton.mp ha))

/-- What was noted is kept if time passes, and nothing else. -/
theorem frame (h : Paced starts t) (directory : u.directory.lastRefresh = t.directory.lastRefresh)
    (now : t.now ≤ u.now) (interval : u.minInterval = t.minInterval) : Paced starts u where
  last := directory.trans h.last
  past a ha := Nat.le_trans (h.past a ha) now
  spaced := interval ▸ h.spaced

/-- A section notes a start, or none. -/
theorem noted {c : Call} {caller : Option Nat} (h : Paced starts t)
    (directory : u.directory.lastRefresh =
      ((c.start? t caller).map (·.time)).or t.directory.lastRefresh)
    (clock : u.now = t.now ∧ u.minInterval = t.minInterval) :
    Paced (starts ++ (c.start? t caller).toList) u := by
  cases hnoted : c.start? t caller with
  | none =>
    rw [hnoted, Option.map_none, Option.none_or] at directory
    simpa using h.frame directory (Nat.le_of_eq clock.1.symm) clock.2
  | some b =>
    obtain ⟨-, hstart, hrecent⟩ := Call.start?_eq_some hnoted
    rw [hnoted] at directory
    constructor
    case last => simpa using directory
    case past =>
      intro a ha
      rw [clock.1]
      rcases List.mem_append.mp ha with ha | ha
      · exact h.past a ha
      · obtain rfl : a = b := by simpa using ha
        exact Nat.le_of_eq hstart
    case spaced =>
      rw [clock.2]
      refine List.pairwise_append.mpr ⟨h.spaced, by simp, fun a ha b' hb' => ?_⟩
      obtain rfl : b' = b := by simpa using hb'
      rw [hstart]
      refine ⟨h.past a ha, fun hforce => ?_⟩
      -- the section looked at the last start only, which is at least as recent as `a`
      obtain ⟨last, hlast, hbefore, hnow⟩ := h.exists_last ha
      have hinterval := hrecent hforce last hlast
      omega

end Paced

theorem Callers.minInterval_turn [AudioSystem α] {c d : Callers α} {turn : Turn α}
    (hturn : c.turn? turn = some d) : d.tracker.minInterval = c.tracker.minInterval := by
  cases turn with
  | proceed i =>
    simp only [turn?, Option.map_eq_some_iff] at hturn
    obtain ⟨caller, -, rfl⟩ := hturn
    exact (caller.call.clock_step c.tracker).2
  | perform op =>
    cases hturn
    exact (op.comesTo_perform c.tracker).clock.2
  | begin op | audio audio | clock now =>
    cases hturn
    rfl

theorem paced_turn [AudioSystem α] {starts : List RefreshStart} {c d : Callers α} {turn : Turn α}
    (h : Paced starts c.tracker) (rises : c.ClockRises turn)
    (hturn : c.turn? turn = some d) : Paced (starts ++ c.starts turn) d.tracker := by
  cases turn with
  | begin op | audio audio =>
    cases hturn
    rw [Callers.starts, List.append_nil]
    exact h.frame rfl (Nat.le_refl _) rfl
  | clock now =>
    cases hturn
    rw [Callers.starts, List.append_nil]
    exact h.frame rfl rises rfl
  | proceed i =>
    simp only [Callers.turn?, Option.map_eq_some_iff] at hturn
    obtain ⟨caller, hget, rfl⟩ := hturn
    rw [Callers.starts, hget, Option.bind_some]
    exact h.noted (caller.call.lastRefresh_step c.tracker _) (caller.call.clock_step c.tracker)
  | perform op =>
    cases hturn
    -- an operation done as a whole notes what its first section does
    have hsections := op.comesTo_perform c.tracker
    exact h.noted (hsections.lastRefresh rfl) hsections.clock

/-! ## Sections of one caller -/

/-- A section, and what it finds. -/
structure Section (α : Type) where
  call : Call
  before : Tracker α

namespace Section

def after [AudioSystem α] (x : Section α) : Tracker α := (x.call.step x.before).2

/-- The starts that caller `i` noted in its sections. -/
def starts (i : Nat) (own : List (Section α)) : List RefreshStart :=
  own.filterMap fun x => x.call.start? x.before (some i)

/-- What was asked of the audio system in the sections. -/
def asked (own : List (Section α)) : List AudioCall := own.flatMap (·.call.audioCalls)

variable (i : Nat) (own : List (Section α)) (x : Section α)

theorem starts_singleton : starts i [x] = (x.call.start? x.before (some i)).toList := by
  cases hnoted : x.call.start? x.before (some i) <;> simp [starts, hnoted]

theorem starts_snoc :
    starts i (own ++ [x]) = starts i own ++ (x.call.start? x.before (some i)).toList := by
  rw [← starts_singleton, starts, List.filterMap_append, starts, starts]

theorem asked_snoc : asked (own ++ [x]) = asked own ++ x.call.audioCalls := by
  simp [asked]

variable {i own x}

theorem starts_snoc_of_none (h : x.call.start? x.before (some i) = none) :
    starts i (own ++ [x]) = starts i own := by
  rw [starts_snoc, h, Option.toList_none, List.append_nil]

theorem asked_snoc_of_nil (h : x.call.audioCalls = []) : asked (own ++ [x]) = asked own := by
  rw [asked_snoc, h, List.append_nil]

end Section

def Callers.sections (i : Nat) (c : Callers α) : Turn α → List (Section α)
  | .proceed j =>
    if j = i then (c.callers[i]?.map fun caller => { call := caller.call, before := c.tracker }).toList
    else []
  | .begin _ | .perform _ | .audio _ | .clock _ => []

/-- The operation that somebody sets out for. -/
def Turn.begun? : Turn α → Option Operation
  | .begin op => some op
  | .proceed _ | .perform _ | .audio _ | .clock _ => none

theorem Callers.sections_proceed {c : Callers α} {i : Nat} {caller : Caller}
    (hget : c.callers[i]? = some caller) :
    c.sections i (.proceed i) = [{ call := caller.call, before := c.tracker }] := by
  simp [sections, hget]

theorem Callers.sections_proceed_of_ne (c : Callers α) {i j : Nat} (h : j ≠ i) :
    c.sections i (.proceed j) = [] := if_neg h

theorem Callers.filter_starts (c : Callers α) (turn : Turn α) (i : Nat) :
    (c.starts turn).filter (·.caller == some i) = Section.starts i (c.sections i turn) := by
  cases turn with
  | proceed j =>
    cases hget : c.callers[j]? with
    | none => by_cases hj : j = i <;> simp_all [starts, sections, Section.starts]
    | some caller =>
      rw [starts, hget, Option.bind_some, Call.filter_start?]
      by_cases hj : j = i
      · subst hj
        rw [if_pos rfl, sections_proceed hget, Section.starts_singleton]
      · rw [if_neg (fun h => hj (Option.some.inj h)), c.sections_proceed_of_ne hj]
        rfl
  | perform op => exact Call.filter_start? op.call c.tracker none i
  | begin op | audio audio | clock now => rfl

/-- What is filtered out of every step is filtered out of the run. -/
theorem Run.filter_collect {σ χ β γ : Type} {step? : σ → χ → Option σ} {emit : σ → χ → List β}
    {other : σ → χ → List γ} {p : β → Bool} {g : γ → Option β}
    (h : ∀ s c, (emit s c).filter p = (other s c).filterMap g) (s : σ) (choices : List χ) :
    (collect step? emit s choices).filter p = (collect step? other s choices).filterMap g := by
  induction choices generalizing s with
  | nil => rfl
  | cons c rest ih => cases hstep : step? s c <;> simp [collect, hstep, h, ih]

/-- The first tracker and the second show the same sessions under the same keys, published the same
    counts, and gave back the same handles. -/
structure Tracker.Spared (t u : Tracker (Audited α)) : Prop where
  lookup : ∀ key, u.lookup key = t.lookup key
  keys : u.directory.keys = t.directory.keys
  unmapped : u.directory.unmapped = t.directory.unmapped
  mappedKeys : u.directory.mappedKeys = t.directory.mappedKeys
  count : u.count = t.count
  givenBack : ∀ s, u.audio.timesGivenBack s = t.audio.timesGivenBack s

/-! ## How far a refresh has come -/

deriving instance DecidableEq for CallResult

namespace Call

/-- Whether the caller has come to its end with this result. -/
def hasReturned (r : CallResult) : Call → Bool
  | finished result => result == r
  | insert _ | erase _ | classify _ | beginRefresh _ | enumerate | replace _ | takeAll
  | giveBack _ _ | countSessions _ | publishCount _ _ | claimClosing | closeAudio => false

theorem eq_finished_of_hasReturned {c : Call} {r : CallResult} (h : c.hasReturned r = true) :
    c = finished r := by
  cases c with
  | finished result => exact congrArg finished (beq_iff_eq.mp h)
  | _ => cases h

/-- The caller puts the sessions it has listed in place of those there are, or has done so. -/
def Replaces (c : Call) : Prop :=
  (∃ fresh, c = .replace fresh) ∨ ∃ n, c.outcome? = some (.refreshed (.ok (.refreshed n)))

variable {c : Call}

/-- By then it has started, and does not ask for sessions any more. -/
theorem Replaces.silent (h : c.Replaces) :
    (∀ (t : Tracker α) caller, c.start? t caller = none) ∧ .enumerate ∉ c.audioCalls := by
  rcases h with ⟨fresh, rfl⟩ | ⟨n, h⟩
  · exact ⟨fun _ _ => rfl, List.not_mem_nil⟩
  · cases c with
    | giveBack handles next => cases handles <;> exact ⟨fun _ _ => rfl, by simp [audioCalls]⟩
    | countSessions _ | publishCount _ _ | finished _ => exact ⟨fun _ _ => rfl, List.not_mem_nil⟩
    | _ => cases h

variable [AudioSystem α]

theorem Replaces.step (h : c.Replaces) (t : Tracker α) : (c.step t).1.Replaces := by
  rcases h with ⟨fresh, rfl⟩ | ⟨n, h⟩
  · exact .inr ⟨fresh.length, rfl⟩
  · exact .inr ⟨n, outcome?_step h t⟩

/-- Caller `i` did these sections of a refresh, and comes to the section `c` next. -/
inductive Refreshes (i : Nat) (force : Bool) (own : List (Section (Audited α))) : Call → Prop where
  | waits (unbegun : own = []) : Refreshes i force own (.beginRefresh force)
  | throttled (unforced : force = false) (unnoted : Section.starts i own = [])
      (silent : Section.asked own = []) (idle : ∀ x ∈ own, x.after = x.before) :
      Refreshes i force own (.finished (.refreshed (.ok .throttled)))
  | begun {a : RefreshStart} (noted : Section.starts i own = [a]) (forced : a.force = force)
      (silent : Section.asked own = []) (spared : ∀ x ∈ own, x.before.Spared x.after) :
      Refreshes i force own .enumerate
  | failed {a : RefreshStart} {cause : BackendError} (noted : Section.starts i own = [a])
      (forced : a.force = force) (asked : (Section.asked own).count .enumerate = 1)
      (spared : ∀ x ∈ own, x.before.Spared x.after) :
      Refreshes i force own (.finished (.refreshed (.error cause)))
  | listed {a : RefreshStart} {c : Call} (replaces : c.Replaces) (noted : Section.starts i own = [a])
      (forced : a.force = force) (asked : (Section.asked own).count .enumerate = 1) :
      Refreshes i force own c

namespace Refreshes

variable {i : Nat} {force : Bool} {own : List (Section (Audited α))} {t : Tracker (Audited α)}

/-- A refresh that cannot start is put off, and one that can leaves all but the time as it was. -/
theorem step_waits (t : Tracker (Audited α)) :
    Refreshes i force [{ call := .beginRefresh force, before := t }]
      ((beginRefresh force).step t).1 := by
  rcases t.beginRefresh_cases force with ⟨hbegin, hforce⟩ | ⟨hbegin, -⟩
  · have hstep : (beginRefresh force).step t = (.finished (.refreshed (.ok .throttled)), t) := by
      simp [step, hbegin]
    rw [hstep]
    exact .throttled hforce (by simp [Section.starts, start?, hbegin]) rfl
      (by simp [Section.after, hstep])
  · have hstep : (beginRefresh force).step t =
        (.enumerate, { t with directory := { t.directory with lastRefresh := some t.now } }) := by
      simp [step, hbegin]
    have hnoted : Section.starts i [{ call := .beginRefresh force, before := t }] =
        [{ caller := some i, force, time := t.now }] := by
      simp [Section.starts, start?, hbegin]
    have hspared : t.Spared (Section.mk (.beginRefresh force) t).after := by
      rw [Section.after, hstep]
      exact ⟨fun _ => rfl, rfl, rfl, rfl, rfl, fun _ => rfl⟩
    rw [hstep]
    exact .begun hnoted rfl rfl (List.forall_mem_singleton.mpr hspared)

/-- Asking for the sessions leaves the directory, the counts and the handles given back. -/
theorem spared_enumerate (t : Tracker (Audited α)) : t.Spared (Section.mk .enumerate t).after := by
  have haudio : ∀ audio r, AudioSystem.enumerate t.audio = (r, audio) →
      t.Spared { t with audio } := by
    rintro audio r hlist
    obtain rfl : (AudioSystem.enumerate t.audio).2 = audio := congrArg (·.2) hlist
    exact ⟨fun _ => rfl, rfl, rfl, rfl, rfl, fun _ => rfl⟩
  rw [Section.after]
  rcases hlist : AudioSystem.enumerate t.audio with ⟨cause | fresh, audio⟩
  · rw [step_enumerate_error hlist]
    exact haudio audio _ hlist
  · rw [step_enumerate_ok hlist]
    exact haudio audio _ hlist

/-- A caller that may ask for the sessions does so, and goes on if they can be listed. -/
theorem step_begun {a : RefreshStart} (noted : Section.starts i own = [a]) (forced : a.force = force)
    (silent : Section.asked own = []) (spared : ∀ x ∈ own, x.before.Spared x.after) :
    Refreshes i force (own ++ [{ call := .enumerate, before := t }]) (Call.enumerate.step t).1 := by
  have hnoted : Section.starts i (own ++ [{ call := .enumerate, before := t }]) = [a] := by
    rw [Section.starts_snoc, noted]
    rfl
  have hasked : (Section.asked (own ++ [{ call := .enumerate, before := t }])).count .enumerate = 1 := by
    rw [Section.asked_snoc, silent]
    rfl
  rcases hlist : AudioSystem.enumerate t.audio with ⟨cause | fresh, audio⟩
  · -- the sections before this one have changed nothing either
    rw [step_enumerate_error hlist]
    exact .failed hnoted forced hasked
      (List.forall_mem_append.mpr ⟨spared, List.forall_mem_singleton.mpr (spared_enumerate t)⟩)
  · rw [step_enumerate_ok hlist]
    exact .listed (.inl ⟨fresh, rfl⟩) hnoted forced hasked

theorem step {c : Call} (h : Refreshes i force own c) (t : Tracker (Audited α)) :
    Refreshes i force (own ++ [{ call := c, before := t }]) (c.step t).1 := by
  cases h with
  | waits unbegun =>
    rw [unbegun, List.nil_append]
    exact step_waits t
  | throttled unforced unnoted silent idle =>
    exact .throttled unforced ((Section.starts_snoc_of_none rfl).trans unnoted)
      ((Section.asked_snoc_of_nil rfl).trans silent)
      (List.forall_mem_append.mpr ⟨idle, List.forall_mem_singleton.mpr rfl⟩)
  | begun noted forced silent spared => exact step_begun noted forced silent spared
  | failed noted forced asked spared =>
    have hspared : t.Spared t := ⟨fun _ => rfl, rfl, rfl, rfl, rfl, fun _ => rfl⟩
    exact .failed ((Section.starts_snoc_of_none rfl).trans noted) forced
      ((congrArg _ (Section.asked_snoc_of_nil rfl)).trans asked)
      (List.forall_mem_append.mpr ⟨spared, List.forall_mem_singleton.mpr hspared⟩)
  | listed replaces noted forced asked =>
    obtain ⟨hstart, hasks⟩ := replaces.silent (α := Audited α)
    refine .listed (replaces.step t) ((Section.starts_snoc_of_none (hstart t _)).trans noted) forced ?_
    rw [Section.asked_snoc, List.count_append, asked, List.count_eq_zero_of_not_mem hasks]

/-- Who asks for the sessions has started. -/
theorem started_of_asked {c : Call} (h : Refreshes i force own c)
    (asked : .enumerate ∈ Section.asked own) : ∃ a, Section.starts i own = [a] ∧ a.force = force := by
  cases h with
  | waits unbegun => simp [unbegun, Section.asked] at asked
  | throttled _ _ silent _ | begun _ _ silent _ => simp [silent] at asked
  | failed noted forced _ _ | listed _ noted forced _ => exact ⟨_, noted, forced⟩

/-- What has come of the refresh when the caller returns. -/
theorem of_finished {r : CallResult} (h : Refreshes i force own (.finished r)) :
    ∃ outcome, r = .refreshed outcome ∧
      (outcome = .ok .throttled → force = false ∧ Section.starts i own = [] ∧
        Section.asked own = [] ∧ ∀ x ∈ own, x.after = x.before) ∧
      (force = true ∨ outcome ≠ .ok .throttled → (Section.asked own).count .enumerate = 1) ∧
      ∀ cause, outcome = .error cause → ∀ x ∈ own, x.before.Spared x.after := by
  cases h with
  | throttled unforced unnoted silent idle =>
    exact ⟨_, rfl, fun _ => ⟨unforced, unnoted, silent, idle⟩, by simp [unforced], by simp⟩
  | failed noted forced asked spared => exact ⟨_, rfl, by simp, fun _ => asked, fun _ _ => spared⟩
  | listed replaces noted forced asked =>
    obtain ⟨fresh, hcall⟩ | ⟨n, houtcome⟩ := replaces
    · cases hcall
    · obtain rfl : r = .refreshed (.ok (.refreshed n)) := by simpa [outcome?] using houtcome
      exact ⟨_, rfl, by simp, fun _ => asked, by simp⟩

end Refreshes

end Call

namespace Callers

variable [AudioSystem α]

/-- These operations were begun, and `own` tells the sections of each caller. -/
structure Traced (begun : List Operation) (own : Nat → List (Section (Audited α)))
    (c : Callers (Audited α)) : Prop where
  length : c.callers.length = begun.length
  unbegun : ∀ i, begun.length ≤ i → own i = []
  refreshes : ∀ (i : Nat) (force : Bool), begun[i]? = some (.refresh force) →
    ∃ caller, c.callers[i]? = some caller ∧ caller.call.Refreshes i force (own i)

variable {begun : List Operation} {own : Nat → List (Section (Audited α))}
  {c d : Callers (Audited α)} {turn : Turn (Audited α)}

theorem traced_begin (h : Traced begun own c) (op : Operation) :
    Traced (begun ++ [op]) own { c with callers := c.callers ++ [{ call := op.call }] } where
  length := by simp [h.length]
  unbegun i hi := h.unbegun i (by simp at hi; omega)
  refreshes i force hop := by
    rcases Nat.lt_trichotomy i begun.length with hi | rfl | hi
    · rw [List.getElem?_append_left hi] at hop
      obtain ⟨caller, hget, hrefreshes⟩ := h.refreshes i force hop
      exact ⟨caller, by rw [List.getElem?_append_left (h.length ▸ hi), hget], hrefreshes⟩
    · -- the caller that sets out is the last, and has done nothing
      obtain rfl : op = .refresh force := by simpa using hop
      refine ⟨{ call := .refresh force }, by simp [← h.length, Operation.call], ?_⟩
      exact .waits (h.unbegun _ (Nat.le_refl _))
    · have hlength : (begun ++ [op]).length ≤ i := by
        rw [List.length_append]
        exact hi
      rw [List.getElem?_eq_none hlength] at hop
      cases hop

theorem traced_proceed (h : Traced begun own c) {j : Nat} {caller : Caller}
    (hget : c.callers[j]? = some caller) :
    Traced begun (fun i => own i ++ c.sections i (.proceed j)) {
      tracker := (caller.call.step c.tracker).2
      callers := c.callers.set j (caller.proceed c.tracker c.flat)
      flat := caller.call.flat c.flat } where
  length := by simp [h.length]
  unbegun i hi := by
    have hj : j < begun.length := h.length ▸ (List.getElem?_eq_some_iff.mp hget).1
    have hne : j ≠ i := by omega
    rw [h.unbegun i hi, c.sections_proceed_of_ne hne, List.append_nil]
  refreshes i force hop := by
    obtain ⟨other, hother, hrefreshes⟩ := h.refreshes i force hop
    by_cases hj : j = i
    · subst hj
      obtain rfl : caller = other := by simpa [hget] using hother
      have hi : j < c.callers.length := (List.getElem?_eq_some_iff.mp hget).1
      refine ⟨_, List.getElem?_set_self hi, ?_⟩
      rw [sections_proceed hget]
      exact hrefreshes.step c.tracker
    · refine ⟨other, by rw [List.getElem?_set_ne hj, hother], ?_⟩
      rwa [c.sections_proceed_of_ne hj, List.append_nil]

theorem traced_turn (h : Traced begun own c) (hturn : c.turn? turn = some d) :
    Traced (begun ++ turn.begun?.toList) (fun i => own i ++ c.sections i turn) d := by
  cases turn with
  | begin op =>
    cases hturn
    simpa [sections, Turn.begun?] using traced_begin h op
  | proceed j =>
    simp only [turn?, Option.map_eq_some_iff] at hturn
    obtain ⟨caller, hget, rfl⟩ := hturn
    simpa [Turn.begun?] using traced_proceed h hget
  | perform op | audio audio | clock now =>
    cases hturn
    simp only [sections, Turn.begun?, Option.toList_none, List.append_nil]
    exact ⟨h.length, h.unbegun, h.refreshes⟩

theorem paced_of_run {audio : Audited α} {mode : TrackingMode} {mappedKeys : List String}
    {minInterval : Nat} {turns : List (Turn (Audited α))}
    (rises : Run.Along turn? ClockRises (new audio mode mappedKeys minInterval) turns)
    (run : Run.after? turn? (new audio mode mappedKeys minInterval) turns = some c) :
    c.tracker.minInterval = minInterval ∧
      Paced (Run.collect turn? starts (new audio mode mappedKeys minInterval) turns) c.tracker := by
  refine Run.invariant_of_history
    (P := fun front d => d.tracker.minInterval = minInterval ∧
      Paced (Run.collect turn? starts (new audio mode mappedKeys minInterval) front) d.tracker)
    ⟨rfl, rfl, by simp [Run.collect], List.Pairwise.nil⟩ ?_ rises run
  rintro front u turn v hfront ⟨hinterval, hpaced⟩ hrises hturn
  rw [Run.collect_snoc hfront]
  exact ⟨(minInterval_turn hturn).trans hinterval, paced_turn hpaced hrises hturn⟩

theorem traced_of_run {audio : Audited α} {mode : TrackingMode} {mappedKeys : List String}
    {minInterval : Nat} {turns : List (Turn (Audited α))}
    (run : Run.after? turn? (new audio mode mappedKeys minInterval) turns = some c) :
    Traced (turns.filterMap Turn.begun?)
      (fun i => Run.collect turn? (sections i) (new audio mode mappedKeys minInterval) turns) c := by
  refine Run.invariant_of_history
    (P := fun front d => Traced (front.filterMap Turn.begun?)
      (fun i => Run.collect turn? (sections i) (new audio mode mappedKeys minInterval) front) d)
    (Q := fun _ _ => True) ⟨rfl, fun _ _ => rfl, by simp⟩ ?_
    (Run.along_of_forall (fun _ _ => trivial) _ _) run
  intro front u turn v hfront htraced _ hturn
  have hbegun : (front ++ [turn]).filterMap Turn.begun? =
      front.filterMap Turn.begun? ++ turn.begun?.toList := by
    rw [List.filterMap_append]
    cases turn <;> rfl
  simp only [Run.collect_snoc hfront, hbegun]
  exact traced_turn htraced hturn

/-- However the sections of the callers come, with a clock that does not go back: a refresh that is not
    forced starts at least the interval after every start before it, and the directory remembers the
    last.  Each section of a caller does to the audio system what it asks of it, and nothing else.  A
    caller asks for the sessions only if it has started, and every caller returns.  One that was put off
    was not forced; it has not started nor asked, and left everything as it was.  All others that refresh
    have asked, once, and so have all that were forced.  If the sessions could not be listed, no section
    of the caller changed the sessions and their keys, the published counts, or the handles given
    back. -/
theorem refreshes_paced {audio : Audited α} {mode : TrackingMode} {mappedKeys : List String}
    {minInterval : Nat} {turns : List (Turn (Audited α))}
    (rises : Run.Along turn? ClockRises (new audio mode mappedKeys minInterval) turns)
    (run : Run.after? turn? (new audio mode mappedKeys minInterval) turns = some c) :
    let start := new audio mode mappedKeys minInterval
    let starts := Run.collect turn? Callers.starts start turns
    starts.Pairwise (fun a b =>
      a.time ≤ b.time ∧ (b.force = false → a.time + minInterval ≤ b.time)) ∧
    c.tracker.directory.lastRefresh = starts.getLast?.map (·.time) ∧
    ∀ (i : Nat) (force : Bool), (turns.filterMap Turn.begun?)[i]? = some (.refresh force) →
      let own := Run.collect turn? (sections i) start turns
      let mine := starts.filter (·.caller == some i)
      let asked := Section.asked own
      ∃ caller, c.callers[i]? = some caller ∧ Call.Ends (Audited α) caller.call ∧
        (∀ x ∈ own, x.after.audio = x.call.audioCalls.foldl AudioCall.after x.before.audio) ∧
        (.enumerate ∈ asked → ∃ a, mine = [a] ∧ a.force = force) ∧
        ∀ r, caller.call = .finished r → ∃ outcome, r = .refreshed outcome ∧
          (outcome = .ok .throttled →
            force = false ∧ mine = [] ∧ asked = [] ∧ ∀ x ∈ own, x.after = x.before) ∧
          (force = true ∨ outcome ≠ .ok .throttled → asked.count .enumerate = 1) ∧
          ∀ cause, outcome = .error cause → ∀ x ∈ own, x.before.Spared x.after := by
  intro start starts
  obtain ⟨hinterval, hpaced⟩ := paced_of_run rises run
  refine ⟨hinterval ▸ hpaced.spaced, hpaced.last, fun i force hop => ?_⟩
  intro own mine asked
  obtain ⟨caller, hget, hrefreshes⟩ := (traced_of_run run).refreshes i force hop
  have hmine : mine = Section.starts i own :=
    Run.filter_collect (fun c turn => c.filter_starts turn i) start turns
  rw [hmine]
  -- a caller that has not returned yet still will, by the sections left to it
  refine ⟨caller, hget, caller.call.ends, fun x _ => x.call.audio_section x.before,
    hrefreshes.started_of_asked, fun r hr => ?_⟩
  rw [hr] at hrefreshes
  exact hrefreshes.of_finished

/-- Three callers refresh.  The first is forced and fails to list the sessions, the second comes too
    early, and the third comes at the end of the interval and lists them, before the first has asked. -/
theorem refreshes_paced_overlapping :
    let start : Callers (Audited MemoryAudio) := .new { audio := .new .polling } .polling [] 2000
    let turns : List (Turn (Audited MemoryAudio)) :=
      [.perform (.add { id := 0, key := "a.exe" }), .begin (.refresh true), .begin (.refresh false),
        .begin (.refresh false), .clock 500, .proceed 0, .clock 2499, .proceed 1, .clock 2500,
        .proceed 2, .proceed 2,
        .audio { audio := { MemoryAudio.new .polling with failEnumeration := true } }, .proceed 0]
    let starts := Run.collect turn? Callers.starts start turns
    Run.Along turn? ClockRises start turns ∧
    starts.map (·.time) = [500, 2500] ∧
    starts.Pairwise (fun a b => a.time ≤ b.time ∧ (b.force = false → a.time + 2000 ≤ b.time)) ∧
    ∃ c, Run.after? turn? start turns = some c ∧ c.tracker.directory.lastRefresh = some 2500 ∧
      (∃ caller cause, c.callers[0]? = some caller ∧
        caller.call = .finished (.refreshed (.error cause)) ∧
        (Section.asked (Run.collect turn? (sections 0) start turns)).count .enumerate = 1 ∧
        ∀ x ∈ Run.collect turn? (sections 0) start turns, x.before.Spared x.after) ∧
      ∃ caller, c.callers[1]? = some caller ∧
        caller.call = .finished (.refreshed (.ok .throttled)) ∧
        Section.asked (Run.collect turn? (sections 1) start turns) = [] := by
  intro start turns starts
  let cause : BackendError := .enumerate "in-memory backend set to fail"
  have rises : Run.Along turn? ClockRises start turns := by decide +kernel
  have hends : (Run.after? turn? start turns).any (fun c =>
      c.tracker.directory.lastRefresh == some 2500 &&
      c.callers[0]?.any (·.call.hasReturned (.refreshed (.error cause))) &&
      c.callers[1]?.any (·.call.hasReturned (.refreshed (.ok .throttled)))) = true := by
    decide +kernel
  obtain ⟨c, run, hends⟩ := (Option.any_eq_true _ _).mp hends
  obtain ⟨hspaced, hlast, hcallers⟩ := refreshes_paced rises run
  simp only [Bool.and_eq_true, beq_iff_eq] at hends
  obtain ⟨⟨hremembered, hfails⟩, hputOff⟩ := hends
  refine ⟨rises, by decide +kernel, hspaced, c, run, hremembered, ?_, ?_⟩
  · obtain ⟨caller, hget, -, -, -, hfinished⟩ := hcallers 0 true rfl
    rw [hget, Option.any_some] at hfails
    have hcall := Call.eq_finished_of_hasReturned hfails
    obtain ⟨outcome, houtcome, -, hasked, hspared⟩ := hfinished _ hcall
    cases houtcome
    exact ⟨caller, cause, hget, hcall, hasked (.inl rfl), hspared cause rfl⟩
  · obtain ⟨caller, hget, -, -, -, hfinished⟩ := hcallers 1 false rfl
    rw [hget, Option.any_some] at hputOff
    have hcall := Call.eq_finished_of_hasReturned hputOff
    obtain ⟨outcome, houtcome, hthrottled, -, -⟩ := hfinished _ hcall
    cases houtcome
    exact ⟨caller, hget, hcall, (hthrottled rfl).2.2.1⟩

end Callers

end SliderMixer
