import SliderMixer.Proofs.EngineSteps
import SliderMixer.Proofs.Run

/-! # Refresh requests

Any number of callers ask for refreshes, each in two steps, and one worker takes the requests, in
two steps as well, and refreshes.

* `Requests` is the mixer with the worker, the callers, and a log of what happened.
* `Requests.Step`: every step of a caller, of the worker, and of what is around them.
* `Requests.Due`: a refresh was asked for and has not begun; `Step.due` and `Step.forcedDue`: it
  stays due until it begins.
* `Requests.Kept`: what was asked for is followed by a refresh, and takes are paid for by requests.
-/

namespace SliderMixer

/-! ## Events -/

inductive RequestEvent where
  /-- A caller began a request; if it is forced, the flag is up. -/
  | raised (caller : Nat) (kind : RefreshKind)
  /-- A caller completed its request. -/
  | rung (caller : Nat)
  | taken (kind : RefreshKind)
  /-- A refresh began. -/
  | begun (force : Bool)
  /-- A refresh was to begin, and the last one is recent. -/
  | putOff (force : Bool)
  deriving DecidableEq

namespace RequestEvent

def isRequest : RequestEvent → Bool
  | raised _ _ | rung _ => true
  | taken _ | begun _ | putOff _ => false

def isForced : RequestEvent → Bool
  | raised _ .forced => true
  | raised _ .lazy | rung _ | taken _ | begun _ | putOff _ => false

def isRung : RequestEvent → Bool
  | rung _ => true
  | raised _ _ | taken _ | begun _ | putOff _ => false

def isAttempt : RequestEvent → Bool
  | begun _ | putOff _ => true
  | raised _ _ | rung _ | taken _ => false

theorem isRequest_of_isForced {e : RequestEvent} (h : e.isForced = true) : e.isRequest = true := by
  cases e with
  | raised _ _ => rfl
  | _ => cases h

theorem isRequest_of_isRung {e : RequestEvent} (h : e.isRung = true) : e.isRequest = true := by
  cases e with
  | rung _ => rfl
  | _ => cases h

def taken? : RequestEvent → Option RefreshKind
  | taken kind => some kind
  | raised _ _ | rung _ | begun _ | putOff _ => none

/-- What the worker took in the course of the events. -/
def takes (events : List RequestEvent) : List RefreshKind := events.filterMap taken?

@[simp] theorem takes_nil : takes [] = [] := rfl

@[simp] theorem takes_singleton (e : RequestEvent) : takes [e] = e.taken?.toList := by
  cases e <;> rfl

@[simp] theorem takes_taken (kind : RefreshKind) (back : List RequestEvent) :
    takes (taken kind :: back) = kind :: takes back :=
  rfl

@[simp] theorem takes_append (front back : List RequestEvent) :
    takes (front ++ back) = takes front ++ takes back :=
  List.filterMap_append

/-- Whatever asks in the log has been served after it, unless that is still due. -/
def Followed (asks serves : RequestEvent → Bool) (log : List RequestEvent) (due : Prop) : Prop :=
  ∀ front e back, log = front ++ e :: back → asks e = true → due ∨ back.any serves = true

theorem followed_nil (asks serves : RequestEvent → Bool) (due : Prop) :
    Followed asks serves [] due := by
  simp [Followed]

theorem Followed.append {asks serves : RequestEvent → Bool} {log events : List RequestEvent}
    {due due' : Prop} (h : Followed asks serves log due)
    (hdue : due → due' ∨ events.any serves = true) (hnew : events.any asks = true → due') :
    Followed asks serves (log ++ events) due' := by
  intro front e back hlog hasks
  obtain ⟨early, -, rfl⟩ | ⟨late, rfl, hevents⟩ := List.append_eq_append_iff.mp hlog
  · exact .inl (hnew (by simp [hasks]))
  · cases late with
    | nil =>
      rw [List.nil_append] at hevents
      exact .inl (hnew (by simp [← hevents, hasks]))
    | cons e' rest =>
      rw [List.cons_append] at hevents
      obtain ⟨rfl, rfl⟩ := List.cons_eq_cons.mp hevents
      rw [List.any_append, Bool.or_eq_true]
      obtain hdue' | hserved := h front e rest rfl hasks
      · exact (hdue hdue').imp_right .inr
      · exact .inr (.inl hserved)

end RequestEvent

/-! ## Turns -/

def RefreshWorker.isTaking : RefreshWorker → Bool
  | taking => true
  | waiting | refreshing _ | ended => false

def RefreshWorker.isRefreshing : RefreshWorker → Bool
  | refreshing _ => true
  | waiting | taking | ended => false

theorem RefreshWorker.eq_refreshing {w : RefreshWorker} (h : w.isRefreshing = true) :
    ∃ c, w = .refreshing c := by
  cases w with
  | refreshing c => exact ⟨c, rfl⟩
  | _ => cases h

/-- The mixer with its worker and those who ask for refreshes. -/
structure Requests (α : Type) where
  mixer : Mixer α
  worker : RefreshWorker := .waiting
  /-- Which of the callers have begun a request and not completed it. -/
  callers : List Bool
  /-- What happened, oldest first. -/
  log : List RequestEvent := []

/-- What can happen next. -/
inductive RequestTurn (α : Type) where
  | raise (caller : Nat) (kind : RefreshKind)
  | ring (caller : Nat)
  | work
  /-- The worker is told to stop. -/
  | stop
  /-- Somebody else has used the tracker. -/
  | tracker (t : Tracker α)

namespace Requests

open RequestEvent (takes takes_append Followed followed_nil isRequest isForced isRung isAttempt)

variable {α : Type}

def start (tracker : Tracker α) (focus : Focus) (callers : Nat) : Requests α :=
  { mixer := { tracker, focus }, callers := List.replicate callers false }

/-- Somebody will look whether the flag is up. -/
def Awaited (x : Requests α) : Prop :=
  true ∈ x.callers ∨ x.mixer.signal.ringing = true ∨ x.worker.isTaking = true

/-- A refresh that has not begun yet was asked for. -/
def Due (x : Requests α) : Prop :=
  x.Awaited ∨ ∃ force, x.worker = .refreshing (.refresh force)

def ForcedDue (x : Requests α) : Prop :=
  x.mixer.signal.forced = true ∨ x.worker = .refreshing (.refresh true)

/-- How many takes are still to come of what was rung by now. -/
def pending (x : Requests α) : Nat := x.worker.isTaking.toNat + x.mixer.signal.ringing.toNat

/-- The worker waits, nobody has rung, and nobody is about to. -/
structure Quiet (x : Requests α) : Prop where
  worker : x.worker = .waiting
  silent : x.mixer.signal.ringing = false
  idle : true ∉ x.callers

theorem Quiet.not_due {x : Requests α} (h : x.Quiet) : ¬ x.Due := by
  rintro ((hcaller | hringing | htaking) | ⟨force, hphase⟩)
  · exact h.idle hcaller
  · simp [h.silent] at hringing
  · simp [h.worker, RefreshWorker.isTaking] at htaking
  · cases h.worker.symm.trans hphase

structure Kept (x : Requests α) : Prop where
  awaited : x.mixer.signal.forced = true → x.Awaited
  forced : Followed isForced (· == .begun true) x.log x.ForcedDue
  served : Followed isRequest isAttempt x.log x.Due
  takes : (takes x.log).length + x.pending ≤ x.log.countP isRung

theorem Kept.not_forcedDue {x : Requests α} (h : x.Kept) (hquiet : x.Quiet) : ¬ x.ForcedDue := by
  rintro (hup | hphase)
  · exact hquiet.not_due (.inl (h.awaited hup))
  · exact hquiet.not_due (.inr ⟨true, hphase⟩)

theorem kept_start (tracker : Tracker α) (focus : Focus) (callers : Nat) :
    (start tracker focus callers).Kept :=
  ⟨Bool.noConfusion, followed_nil _ _ _, followed_nil _ _ _, Nat.zero_le 0⟩

theorem mem_set_of_idle {x : Requests α} {i : Nat} (hidle : x.callers[i]? = some false) :
    true ∈ x.callers.set i true :=
  List.mem_set (List.getElem?_eq_some_iff.mp hidle).1 true

/-! ## Steps -/

/-- What the next step of the worker is noted as. -/
def noted (x : Requests α) : List RequestEvent :=
  match x.worker with
  | .taking => [.taken x.mixer.signal.lower.1]
  | .refreshing (.beginRefresh force) =>
    [if (x.mixer.tracker.beginRefresh force).isSome then .begun force else .putOff force]
  | .waiting | .refreshing _ | .ended => []

theorem noted_of_refreshing {x : Requests α} {c : Call} (hphase : x.worker = .refreshing c)
    (hbegun : ∀ force, c ≠ .beginRefresh force) : x.noted = [] := by
  cases c with
  | beginRefresh force => exact absurd rfl (hbegun force)
  | _ => simp [noted, hphase]

variable [AudioSystem α]

def turn? (x : Requests α) : RequestTurn α → Option (Requests α)
  | .raise i kind =>
    if x.callers[i]? = some false then
      some { x with
        mixer := { x.mixer with signal := x.mixer.signal.raise kind }
        callers := x.callers.set i true
        log := x.log ++ [.raised i kind] }
    else none
  | .ring i =>
    if x.callers[i]? = some true then
      some { x with
        mixer := { x.mixer with signal := x.mixer.signal.ring }
        callers := x.callers.set i false
        log := x.log ++ [.rung i] }
    else none
  | .work => (x.worker.proceed? x.mixer).map fun (worker, mixer) =>
    { x with worker, mixer, log := x.log ++ x.noted }
  | .stop => x.worker.stop?.map fun worker => { x with worker }
  | .tracker t => some { x with mixer := { x.mixer with tracker := t } }

/-- Each step, with what is noted of it. -/
inductive Step (x : Requests α) : RequestTurn α → List RequestEvent → Requests α → Prop where
  | raises {i : Nat} (kind : RefreshKind) (idle : x.callers[i]? = some false) :
      Step x (.raise i kind) [.raised i kind] { x with
        mixer := { x.mixer with signal := x.mixer.signal.raise kind }
        callers := x.callers.set i true
        log := x.log ++ [.raised i kind] }
  | rings {i : Nat} (halfway : x.callers[i]? = some true) :
      Step x (.ring i) [.rung i] { x with
        mixer := { x.mixer with signal := x.mixer.signal.ring }
        callers := x.callers.set i false
        log := x.log ++ [.rung i] }
  | answers (phase : x.worker = .waiting) (ringing : x.mixer.signal.ringing = true) :
      Step x .work [] { x with
        worker := .taking
        mixer := { x.mixer with signal := { x.mixer.signal with ringing := false } }
        log := x.log ++ [] }
  | lowers (phase : x.worker = .taking) :
      Step x .work [.taken x.mixer.signal.lower.1] { x with
        worker := .refreshing (.refresh (x.mixer.signal.lower.1 == .forced))
        mixer := { x.mixer with signal := x.mixer.signal.lower.2 }
        log := x.log ++ [.taken x.mixer.signal.lower.1] }
  | begins {force : Bool} {t : Tracker α} (phase : x.worker = .refreshing (.beginRefresh force))
      (free : x.mixer.tracker.beginRefresh force = some t) :
      Step x .work [.begun force] { x with
        worker := .refreshing .enumerate
        mixer := { x.mixer with tracker := t }
        log := x.log ++ [.begun force] }
  | putsOff {force : Bool} (phase : x.worker = .refreshing (.beginRefresh force))
      (recent : x.mixer.tracker.beginRefresh force = none) :
      Step x .work [.putOff force] { x with
        worker := .refreshing (.finished (.refreshed (.ok .throttled)))
        log := x.log ++ [.putOff force] }
  | refreshes {c : Call} (phase : x.worker = .refreshing c) (unfinished : c.isFinished = false)
      (begun : ∀ force, c ≠ .beginRefresh force) :
      Step x .work [] { x with
        worker := .refreshing (c.step x.mixer.tracker).1
        mixer := { x.mixer with tracker := (c.step x.mixer.tracker).2 }
        log := x.log ++ [] }
  | finishes {r : CallResult} (phase : x.worker = .refreshing (.finished r)) :
      Step x .work [] { x with worker := .waiting, log := x.log ++ [] }
  | stops (phase : x.worker = .waiting) : Step x .stop [] { x with worker := .ended }
  | uses (t : Tracker α) : Step x (.tracker t) [] { x with mixer := { x.mixer with tracker := t } }

variable {x y : Requests α} {turn : RequestTurn α} {events : List RequestEvent}

theorem step_of_call {c : Call} (hphase : x.worker = .refreshing c) (hc : c.isFinished = false) :
    ∃ events, x.Step .work events { x with
      worker := .refreshing (c.step x.mixer.tracker).1
      mixer := { x.mixer with tracker := (c.step x.mixer.tracker).2 }
      log := x.log ++ x.noted } := by
  by_cases hbegins : ∃ force, c = .beginRefresh force
  · obtain ⟨force, rfl⟩ := hbegins
    cases hbegin : x.mixer.tracker.beginRefresh force with
    | some t =>
      have hnoted : x.noted = [.begun force] := by simp [noted, hphase, hbegin]
      simp only [hnoted, Call.step, hbegin]
      exact ⟨_, .begins hphase hbegin⟩
    | none =>
      have hnoted : x.noted = [.putOff force] := by simp [noted, hphase, hbegin]
      simp only [hnoted, Call.step, hbegin]
      exact ⟨_, .putsOff hphase hbegin⟩
  · rw [noted_of_refreshing hphase (not_exists.mp hbegins)]
    exact ⟨_, .refreshes hphase hc (not_exists.mp hbegins)⟩

theorem step_of_work (h : x.turn? .work = some y) : ∃ events, x.Step .work events y := by
  obtain ⟨⟨worker, mixer⟩, hproceed, rfl⟩ := Option.map_eq_some_iff.mp h
  have hproceeds := RefreshWorker.proceeds_of_proceed? hproceed
  generalize hphase : x.worker = w at hproceeds
  cases hproceeds with
  | answers hrung =>
    have hnoted : x.noted = [] := by simp [noted, hphase]
    simp only [RefreshSignal.answer, Option.ite_none_right_eq_some, Option.some.injEq] at hrung
    obtain ⟨hringing, rfl⟩ := hrung
    simp only [hnoted]
    exact ⟨_, .answers hphase hringing⟩
  | lowers =>
    have hnoted : x.noted = [.taken x.mixer.signal.lower.1] := by simp [noted, hphase]
    simp only [hnoted]
    exact ⟨_, .lowers hphase⟩
  | refreshes hc => exact step_of_call hphase hc
  | refreshed r =>
    have hnoted : x.noted = [] := by simp [noted, hphase]
    simp only [hnoted]
    exact ⟨_, .finishes hphase⟩

theorem step_of_turn? (h : x.turn? turn = some y) : ∃ events, x.Step turn events y := by
  cases turn with
  | raise i kind =>
    simp only [turn?, Option.ite_none_right_eq_some, Option.some.injEq] at h
    obtain ⟨hidle, rfl⟩ := h
    exact ⟨_, .raises kind hidle⟩
  | ring i =>
    simp only [turn?, Option.ite_none_right_eq_some, Option.some.injEq] at h
    obtain ⟨hhalfway, rfl⟩ := h
    exact ⟨_, .rings hhalfway⟩
  | work => exact step_of_work h
  | stop =>
    obtain ⟨worker, hstop, rfl⟩ := Option.map_eq_some_iff.mp h
    cases hphase : x.worker <;> rw [hphase] at hstop <;> cases hstop
    exact ⟨_, .stops hphase⟩
  | tracker t =>
    cases h
    exact ⟨_, .uses t⟩

theorem Step.log (h : x.Step turn events y) : y.log = x.log ++ events := by
  cases h <;> simp

/-! ## What a step does -/

theorem Step.awaited (h : x.Step turn events y) (hawaited : x.Awaited) :
    y.Awaited ∨
      y.mixer.signal.forced = false ∧ ∃ force, y.worker = .refreshing (.refresh force) := by
  cases h with
  | raises kind idle => exact .inl (.inl (mem_set_of_idle idle))
  | rings _ => exact .inl (.inr (.inl rfl))
  | answers _ _ => exact .inl (.inr (.inr rfl))
  | lowers _ => exact .inr ⟨rfl, _, rfl⟩
  | begins phase _ | putsOff phase _ | refreshes phase _ _ | finishes phase | stops phase =>
    obtain hcaller | hringing | htaking := hawaited
    · exact .inl (.inl hcaller)
    · exact .inl (.inr (.inl hringing))
    · simp [phase, RefreshWorker.isTaking] at htaking
  | uses t => exact .inl hawaited

theorem Step.awaited_of_request (h : x.Step turn events y)
    (hrequest : events.any isRequest = true) : y.Awaited := by
  cases h with
  | raises kind idle => exact .inl (mem_set_of_idle idle)
  | rings _ => exact .inr (.inl rfl)
  | _ => cases hrequest

/-- A step that takes the signal lowers the flag, and no other one does. -/
theorem Step.taken (h : x.Step turn events y) :
    (∃ kind, events = [.taken kind] ∧ (kind = .forced ↔ x.mixer.signal.forced = true) ∧
      y.mixer.signal.forced = false ∧ y.worker = .refreshing (.refresh (kind == .forced))) ∨
    (takes events = [] ∧ x.pending ≤ y.pending ∧
      y.mixer.signal.forced = (x.mixer.signal.forced || events.any isForced)) := by
  cases h with
  | raises kind idle =>
    refine .inr ?_
    cases kind <;> simp [RequestEvent.taken?, pending, RefreshSignal.raise, isForced]
  | rings halfway =>
    refine .inr ⟨rfl, Nat.add_le_add_left ?_ _, by simp [RefreshSignal.ring, isForced]⟩
    exact x.mixer.signal.ringing.toNat_le
  | answers phase ringing =>
    refine .inr ⟨rfl, ?_, by simp⟩
    simp [pending, phase, ringing, RefreshWorker.isTaking]
  | lowers phase =>
    refine .inl ⟨_, rfl, ?_, rfl, rfl⟩
    simp [RefreshSignal.lower]
  | begins phase _ | putsOff phase _ | refreshes phase _ _ | finishes phase | stops phase =>
    refine .inr ⟨rfl, ?_, by simp [isForced]⟩
    simp [pending, phase, RefreshWorker.isTaking]
  | uses t => exact .inr ⟨rfl, Nat.le_refl _, by simp⟩

/-- Each take is paid for by a ring. -/
theorem Step.paid (h : x.Step turn events y) :
    (takes events).length + y.pending ≤ x.pending + events.countP isRung := by
  cases h with
  | raises kind idle =>
    cases kind <;> simp [pending, RequestEvent.taken?, RefreshSignal.raise]
  | rings halfway => simp [pending, RequestEvent.taken?, RefreshSignal.ring, isRung]
  | answers phase ringing => simp [pending, RefreshWorker.isTaking, phase, ringing]
  | lowers phase =>
    simp [pending, RequestEvent.taken?, RefreshWorker.isTaking, phase, RefreshSignal.lower,
      Nat.add_comm]
  | begins phase _ | putsOff phase _ | refreshes phase _ _ | finishes phase | stops phase =>
    simp [pending, RequestEvent.taken?, RefreshWorker.isTaking, phase]
  | uses t => exact Nat.le_of_eq (Nat.zero_add _)

/-- A refresh that is to begin does; only a lazy one is put off. -/
theorem Step.begun (h : x.Step turn events y) {force : Bool}
    (hphase : x.worker = .refreshing (.refresh force)) :
    y.worker = .refreshing (.refresh force) ∨ events = [.begun force] ∨
      force = false ∧ events = [.putOff force] := by
  cases h with
  | raises _ _ | rings _ | uses _ => exact .inl hphase
  -- all other steps are the worker's, and it is at the begin of its refresh
  | begins phase _ =>
    cases phase.symm.trans hphase
    exact .inr (.inl rfl)
  | putsOff phase recent =>
    cases phase.symm.trans hphase
    cases force with
    | false => exact .inr (.inr ⟨rfl, rfl⟩)
    | true => simp [Tracker.beginRefresh, Directory.beginRefresh] at recent
  | refreshes phase _ begun =>
    cases phase.symm.trans hphase
    exact absurd rfl (begun force)
  | answers phase _ | lowers phase | finishes phase | stops phase =>
    cases phase.symm.trans hphase

/-! ## What is due -/

theorem Step.due (h : x.Step turn events y) (hdue : x.Due) :
    y.Due ∨ events.any isAttempt = true := by
  obtain hawaited | ⟨force, hphase⟩ := hdue
  · obtain hawaited | ⟨-, hphase⟩ := h.awaited hawaited
    · exact .inl (.inl hawaited)
    · exact .inl (.inr hphase)
  · obtain hphase | rfl | ⟨-, rfl⟩ := h.begun hphase
    · exact .inl (.inr ⟨force, hphase⟩)
    · exact .inr rfl
    · exact .inr rfl

theorem Step.forcedDue (h : x.Step turn events y) (hdue : x.ForcedDue) :
    y.ForcedDue ∨ events.any (· == .begun true) = true := by
  obtain hup | hphase := hdue
  · obtain ⟨kind, -, hkind, -, hphase⟩ | ⟨-, -, hup'⟩ := h.taken
    · rw [hkind.mpr hup] at hphase
      exact .inl (.inr hphase)
    · exact .inl (.inl (by simp [hup', hup]))
  · obtain hphase | rfl | ⟨hlazy, -⟩ := h.begun hphase
    · exact .inl (.inr hphase)
    · exact .inr rfl
    · cases hlazy

theorem Step.forcedDue_of_request (h : x.Step turn events y)
    (hforced : events.any isForced = true) : y.ForcedDue := by
  obtain ⟨kind, rfl, -⟩ | ⟨-, -, hup⟩ := h.taken
  · cases hforced
  · exact .inl (by simp [hup, hforced])

theorem Kept.step (h : x.Kept) (hstep : x.Step turn events y) : y.Kept where
  awaited := by
    intro hup
    -- the flag goes up with a request, and nobody who would look at it goes without lowering it
    obtain ⟨-, -, -, hdown, -⟩ | ⟨-, -, hup'⟩ := hstep.taken
    · simp [hup] at hdown
    · rw [hup', Bool.or_eq_true] at hup
      obtain hup | hforced := hup
      · obtain hawaited | ⟨hdown, -⟩ := hstep.awaited (h.awaited hup)
        · exact hawaited
        · simp [hup', hup] at hdown
      · obtain ⟨e, he, hforced⟩ := List.any_eq_true.mp hforced
        exact hstep.awaited_of_request
          (List.any_eq_true.mpr ⟨e, he, RequestEvent.isRequest_of_isForced hforced⟩)
  forced := hstep.log ▸ h.forced.append hstep.forcedDue hstep.forcedDue_of_request
  served := hstep.log ▸ h.served.append hstep.due fun hrequest =>
    .inl (hstep.awaited_of_request hrequest)
  takes := by
    have htakes := h.takes
    have hpaid := hstep.paid
    rw [hstep.log, RequestEvent.takes_append, List.length_append, List.countP_append]
    omega

theorem kept_turn (h : x.Kept) (hturn : x.turn? turn = some y) : y.Kept := by
  obtain ⟨events, hstep⟩ := step_of_turn? hturn
  exact h.step hstep

end Requests

end SliderMixer
