import SliderMixer.Audio.Memory
import SliderMixer.Proofs.RefreshRequests
import SliderMixer.Proofs.Sections

/-! # Requests during a refresh

Whatever is asked for while one refresh is running is served by one more take.

* `Requests.Gathers`: what is asked for during a refresh stays with the signal.
* `Requests.Serves`: what the takes make of it; each further take is paid for by a later request.
* `Requests.takes_of_refreshing`: a worker that gets its turn again and again comes to the next
  take.
* `Requests.none_lost`: no request is lost, and those that come during a refresh are served at once.
-/

namespace SliderMixer

namespace Requests

open RequestEvent (takes isRequest isForced isRung isAttempt)

variable {α : Type} {x y : Requests α} {turn : RequestTurn α} {events : List RequestEvent}

/-! ## Groups of requests -/

/-- The worker is refreshing, and since `start` the events of `group` were noted. -/
structure Gathers (start : Requests α) (group : List RequestEvent) (x : Requests α) : Prop where
  log : x.log = start.log ++ group
  ringing : x.mixer.signal.ringing = group.any isRung
  forced : x.mixer.signal.forced = group.any isForced

/-- Of the requests of the group: the first take after them serves them, together with those that
    came before it; every further take is paid for by a later request. -/
def ServedBy (group later : List RequestEvent) : Prop :=
  ∃ front kind back, later = front ++ .taken kind :: back ∧ takes front = [] ∧
    (kind = .forced ↔ (group ++ front).any isForced = true) ∧
    (takes back).length ≤ later.countP isRung

/-- Since the group, the events of `later` were noted. -/
structure Serves (start : Requests α) (group later : List RequestEvent) (x : Requests α) :
    Prop where
  log : x.log = start.log ++ later
  paid : (takes later).length + x.pending ≤ later.countP isRung + 1
  first : takes later = [] ∧ 0 < x.pending ∧
      x.mixer.signal.forced = (group ++ later).any isForced ∨
    ∃ front kind back, later = front ++ .taken kind :: back ∧ takes front = [] ∧
      (kind = .forced ↔ (group ++ front).any isForced = true)

theorem Serves.servedBy {start : Requests α} {group later : List RequestEvent}
    (h : Serves start group later x) :
    takes later = [] ∧ 0 < x.pending ∨ ServedBy group later := by
  obtain ⟨hnone, hpending, -⟩ | ⟨front, kind, back, hlater, hnone, hkind⟩ := h.first
  · exact .inl ⟨hnone, hpending⟩
  · refine .inr ⟨front, kind, back, hlater, hnone, hkind, ?_⟩
    have hpaid := h.paid
    have htakes : takes later = kind :: takes back := by
      rw [hlater, RequestEvent.takes_append, hnone, RequestEvent.takes_taken, List.nil_append]
    rw [htakes, List.length_cons] at hpaid
    omega

/-- Only requests make for further takes. -/
theorem Serves.takes_prefix {start : Requests α} {group later : List RequestEvent}
    (h : Serves start group later x) (hnone : later.any isRequest = false) :
    takes later <+: [if group.any isForced then .forced else .lazy] := by
  obtain ⟨htakes, -⟩ | ⟨front, kind, back, rfl, hfront, hkind, hback⟩ := h.servedBy
  · rw [htakes]
    exact List.nil_prefix
  -- without requests nobody rings, so the first take is the only one
  have hsilent := List.any_eq_false.mp hnone
  have hrung : (front ++ .taken kind :: back).countP isRung = 0 :=
    List.countP_eq_zero.mpr fun e he => mt RequestEvent.isRequest_of_isRung (hsilent e he)
  have hlazy : front.any isForced = false := by
    refine List.any_eq_false.mpr fun e he => ?_
    exact mt RequestEvent.isRequest_of_isForced (hsilent e (List.mem_append_left _ he))
  have hback : takes back = [] := List.eq_nil_of_length_eq_zero (by omega)
  have htakes : takes (front ++ .taken kind :: back) = [kind] := by
    rw [RequestEvent.takes_append, hfront, RequestEvent.takes_taken, hback]
    rfl
  rw [htakes]
  rw [List.any_append, hlazy, Bool.or_false] at hkind
  cases kind <;> simp_all

variable [AudioSystem α]

/-! ## Gathering -/

theorem Step.gathers {start : Requests α} {group : List RequestEvent}
    (hstep : x.Step turn events y) (hworker : x.worker.isRefreshing = true)
    (h : Gathers start group x) : Gathers start (group ++ events) y := by
  have hsignal : y.mixer.signal.ringing = (x.mixer.signal.ringing || events.any isRung) ∧
      y.mixer.signal.forced = (x.mixer.signal.forced || events.any isForced) := by
    cases hstep with
    | raises kind _ => cases kind <;> simp [RefreshSignal.raise, isRung, isForced]
    | rings _ => simp [RefreshSignal.ring, isRung, isForced]
    | begins _ _ | putsOff _ _ | refreshes _ _ _ | finishes _ | uses _ => simp [isRung, isForced]
    | answers phase _ | lowers phase | stops phase =>
      simp [phase, RefreshWorker.isRefreshing] at hworker
  obtain ⟨hringing, hforced⟩ := hsignal
  exact ⟨by rw [hstep.log, h.log, List.append_assoc],
    by rw [hringing, h.ringing, List.any_append], by rw [hforced, h.forced, List.any_append]⟩

theorem gathers_of_run {start : Requests α} {turns : List (RequestTurn α)}
    (hsignal : start.mixer.signal = {})
    (halways : Run.Always turn? (fun x => x.worker.isRefreshing = true) start turns)
    (hrun : Run.after? turn? start turns = some x) : ∃ group, Gathers start group x := by
  refine Run.invariant_of_step (P := fun x => ∃ group, Gathers start group x)
    ⟨[], by simp, by simp [hsignal], by simp [hsignal]⟩ ?_
    (Run.along_of_always (fun x _ (hworker : x.worker.isRefreshing = true) => hworker) halways) hrun
  rintro x turn y ⟨group, hgathers⟩ hworker hturn
  obtain ⟨events, hstep⟩ := step_of_turn? hturn
  exact ⟨group ++ events, hstep.gathers hworker hgathers⟩

/-! ## How they are served -/

theorem Step.serves {start : Requests α} {group later : List RequestEvent}
    (hstep : x.Step turn events y) (h : Serves start group later x) :
    Serves start group (later ++ events) y := by
  refine ⟨by rw [hstep.log, h.log, List.append_assoc], ?_, ?_⟩
  · have hpaid := h.paid
    have hpaid' := hstep.paid
    rw [RequestEvent.takes_append, List.length_append, List.countP_append]
    omega
  · obtain ⟨hnone, hpending, hforced⟩ | ⟨front, kind, back, rfl, hfirst⟩ := h.first
    -- until the first take, the flag tells whether a forced request is among those gathered
    · obtain ⟨kind, rfl, hkind, -⟩ | ⟨hnone', hpending', hup⟩ := hstep.taken
      · exact .inr ⟨later, kind, [], rfl, hnone, by rw [hkind, hforced]⟩
      · refine .inl ⟨?_, hpending.trans_le hpending', ?_⟩
        · rw [RequestEvent.takes_append, hnone, hnone', List.append_nil]
        · simp [hup, hforced, Bool.or_assoc]
    · exact .inr ⟨front, kind, back ++ events, by simp, hfirst⟩

theorem serves_of_run {start : Requests α} {group : List RequestEvent}
    {turns : List (RequestTurn α)} (h : Serves start group [] start)
    (hrun : Run.after? turn? start turns = some x) : ∃ later, Serves start group later x := by
  refine Run.invariant (P := fun x => ∃ later, Serves start group later x) ⟨[], h⟩ ?_ hrun
  rintro x turn y ⟨later, hserves⟩ hturn
  obtain ⟨events, hstep⟩ := step_of_turn? hturn
  exact ⟨later ++ events, hstep.serves hserves⟩

/-! ## Fair runs -/

/-- The worker gets its turn: it goes on, or heeds that it is told to stop. -/
def WorkersTurn (turn : RequestTurn α) : Prop := turn = .work ∨ turn = .stop

/-- The worker is at a place where it can go on. -/
def Ready (worker : RefreshWorker) (x : Requests α) : Prop :=
  x.worker = worker ∧ worker ≠ .ended ∧
    (x.worker.isTaking = false → x.mixer.signal.ringing = true)

theorem Ready.goesOn {worker : RefreshWorker} (h : Ready worker x) :
    ∃ turn, WorkersTurn turn ∧ (x.turn? turn).isSome = true := by
  obtain ⟨rfl, hgoing, hringing⟩ := h
  refine ⟨.work, .inl rfl, ?_⟩
  rw [turn?, Option.isSome_map]
  cases hworker : x.worker with
  | waiting =>
    simp only [hworker] at hringing
    simp [RefreshWorker.proceed?, RefreshSignal.answer, hringing rfl]
  | taking => rfl
  | refreshing c =>
    cases hc : c.isFinished with
    | true =>
      obtain ⟨r, rfl⟩ := Call.eq_finished_of_isFinished hc
      rfl
    | false => simp [RefreshWorker.proceed?_refreshing hc]
  | ended => exact absurd hworker hgoing

/-- Nobody else moves the worker, and what was rung stays so. -/
theorem Ready.other {worker : RefreshWorker} (h : Ready worker x) (hother : ¬ WorkersTurn turn)
    (hturn : x.turn? turn = some y) : Ready worker y := by
  obtain ⟨rfl, hgoing, hringing⟩ := h
  obtain ⟨events, hstep⟩ := step_of_turn? hturn
  cases hstep with
  | raises kind _ => cases kind <;> exact ⟨rfl, hgoing, hringing⟩
  | rings _ => exact ⟨rfl, hgoing, fun _ => rfl⟩
  | uses _ => exact ⟨rfl, hgoing, hringing⟩
  | stops _ => exact absurd (.inr rfl) hother
  | _ => exact absurd (.inl rfl) hother

theorem Ready.work_taking (h : Ready .taking x) (hstep : x.Step .work events y) :
    ∃ kind, y.log = x.log ++ [.taken kind] := by
  obtain ⟨hworker, -⟩ := h
  cases hstep with
  | lowers _ => exact ⟨_, rfl⟩
  | answers phase _ | begins phase _ | putsOff phase _ | refreshes phase _ _ | finishes phase =>
    cases phase.symm.trans hworker

theorem Ready.work_waiting (h : Ready .waiting x) (hstep : x.Step .work events y) :
    Ready .taking y := by
  obtain ⟨hworker, -⟩ := h
  cases hstep with
  | answers _ _ => exact ⟨rfl, RefreshWorker.noConfusion, Bool.noConfusion⟩
  | lowers phase | begins phase _ | putsOff phase _ | refreshes phase _ _ | finishes phase =>
    cases phase.symm.trans hworker

theorem Ready.work_refreshing {c : Call} (h : Ready (.refreshing c) x)
    (hstep : x.Step .work events y) :
    c.isFinished = true ∧ Ready .waiting y ∨
      c.isFinished = false ∧ ∃ t : Tracker α, Ready (.refreshing (c.step t).1) y := by
  obtain ⟨hworker, -, hringing⟩ := h
  have hringing : x.mixer.signal.ringing = true := hringing (by rw [hworker]; rfl)
  cases hstep with
  | begins phase free =>
    cases phase.symm.trans hworker
    refine .inr ⟨rfl, x.mixer.tracker, ?_⟩
    simp only [Call.step, free]
    exact ⟨rfl, RefreshWorker.noConfusion, fun _ => hringing⟩
  | putsOff phase recent =>
    cases phase.symm.trans hworker
    refine .inr ⟨rfl, x.mixer.tracker, ?_⟩
    simp only [Call.step, recent]
    exact ⟨rfl, RefreshWorker.noConfusion, fun _ => hringing⟩
  | refreshes phase unfinished _ =>
    cases phase.symm.trans hworker
    exact .inr ⟨unfinished, _, rfl, RefreshWorker.noConfusion, fun _ => hringing⟩
  | finishes phase =>
    cases phase.symm.trans hworker
    exact .inl ⟨rfl, rfl, RefreshWorker.noConfusion, fun _ => hringing⟩
  | answers phase _ | lowers phase => cases phase.symm.trans hworker

/-- At some time from `n` on, the worker takes the signal. -/
def TakesFrom (states : Nat → Requests α) (n : Nat) : Prop :=
  ∃ k ≥ n, ∃ kind, (states (k + 1)).log = (states k).log ++ [.taken kind]

omit [AudioSystem α] in
theorem TakesFrom.after {states : Nat → Requests α} {n k : Nat} (h : TakesFrom states (k + 1))
    (hk : k ≥ n) : TakesFrom states n := by
  obtain ⟨j, hj, htaken⟩ := h
  exact ⟨j, by omega, htaken⟩

section Fair

variable {states : Nat → Requests α} {choices : Nat → RequestTurn α} {n : Nat}
  (run : Run.Endless turn? states choices) (fair : Run.Fair turn? WorkersTurn states choices)
  (going : ∀ n, choices n ≠ .stop)

include run fair going

theorem work_of_fair {worker : RefreshWorker} (h : Ready worker (states n)) :
    ∃ k ≥ n, Ready worker (states k) ∧ ∃ events, (states k).Step .work events (states (k + 1)) := by
  obtain ⟨k, hk, hall, hown⟩ :=
    fair.next run (fun _ => Ready.goesOn) (fun _ _ _ => Ready.other) h
  have hstep := step_of_turn? (run k)
  rw [hown.resolve_right (going k)] at hstep
  exact ⟨k, hk, hall k hk (Nat.le_refl k), hstep⟩

theorem takes_of_taking (h : Ready .taking (states n)) : TakesFrom states n := by
  obtain ⟨k, hk, hready, events, hstep⟩ := work_of_fair run fair going h
  exact ⟨k, hk, hready.work_taking hstep⟩

theorem takes_of_waiting (h : Ready .waiting (states n)) : TakesFrom states n := by
  obtain ⟨k, hk, hready, events, hstep⟩ := work_of_fair run fair going h
  exact (takes_of_taking run fair going (hready.work_waiting hstep)).after hk

/-- The worker comes to the end of its refresh, and then to the signal. -/
theorem takes_of_refreshing {c : Call} (hends : c.Ends α) (h : Ready (.refreshing c) (states n)) :
    TakesFrom states n := by
  -- on how the refresh ends: each of its sections is one turn of the worker
  induction hends generalizing n with
  | finished r =>
    obtain ⟨k, hk, hready, events, hstep⟩ := work_of_fair run fair going h
    obtain ⟨-, hwaiting⟩ | ⟨hunfinished, -⟩ := hready.work_refreshing hstep
    · exact (takes_of_waiting run fair going hwaiting).after hk
    · cases hunfinished
  | step _ ih =>
    obtain ⟨k, hk, hready, events, hstep⟩ := work_of_fair run fair going h
    obtain ⟨-, hwaiting⟩ | ⟨-, t, hrefreshing⟩ := hready.work_refreshing hstep
    · exact (takes_of_waiting run fair going hwaiting).after hk
    · exact (ih t hrefreshing).after hk

omit fair going in
theorem serves_of_endless {group : List RequestEvent} (h : Serves (states 0) group [] (states 0))
    (n : Nat) : ∃ later, Serves (states 0) group later (states n) := by
  induction n with
  | zero => exact ⟨[], h⟩
  | succ n ih =>
    obtain ⟨later, hlater⟩ := ih
    obtain ⟨events, hstep⟩ := step_of_turn? (run n)
    exact ⟨later ++ events, hstep.serves hlater⟩

theorem served_of_fair {group : List RequestEvent} {c : Call}
    (hserves : Serves (states 0) group [] (states 0)) (h : Ready (.refreshing c) (states 0)) :
    ∃ n later, (states n).log = (states 0).log ++ later ∧ ServedBy group later := by
  obtain ⟨k, -, kind, htaken⟩ := takes_of_refreshing run fair going c.ends h
  obtain ⟨early, hearly⟩ := serves_of_endless run hserves k
  obtain ⟨later, hlater⟩ := serves_of_endless run hserves (k + 1)
  refine ⟨k + 1, later, hlater.log, hlater.servedBy.resolve_left ?_⟩
  rintro ⟨hnone, -⟩
  have hsame : later = early ++ [.taken kind] := by
    have hlog := hlater.log
    rw [htaken, hearly.log, List.append_assoc] at hlog
    exact (List.append_cancel_left hlog).symm
  simp [hsame, RequestEvent.taken?] at hnone

end Fair

/-! ## All requests -/

/-- No request is lost, however the steps of the callers, of the worker and of all around come.
    Where the worker waits and nobody is ringing, a refresh was attempted after every request, and a
    forced one began after every forced request.  There are no more takes than completed requests.
    And whatever is asked for while one refresh is running, with nothing pending before, is served
    by the next take, which is forced exactly if some request is; that take comes unless the worker
    is told to stop, and is the only one as long as nobody asks again. -/
theorem none_lost {tracker : Tracker α} {focus : Focus} {callers : Nat}
    {turns : List (RequestTurn α)}
    (hrun : Run.after? turn? (start tracker focus callers) turns = some x) :
    (x.Quiet → ∀ front i kind back, x.log = front ++ .raised i kind :: back →
      (kind = .forced → .begun true ∈ back) ∧ back.any isAttempt = true) ∧
    (takes x.log).length ≤ x.log.countP isRung ∧
    (x.mixer.signal = {} → ∀ meanwhile y group,
      Run.Always turn? (fun z => z.worker.isRefreshing = true) x meanwhile →
      Run.after? turn? x meanwhile = some y → y.log = x.log ++ group → group.any isRung = true →
        (∀ more z, Run.after? turn? y more = some z → ∃ later, z.log = y.log ++ later ∧
          (takes later = [] ∧ 0 < z.pending ∨ ServedBy group later) ∧
          (later.any isRequest = false →
            takes later <+: [if group.any isForced then .forced else .lazy])) ∧
        (∀ states choices, states 0 = y → Run.Endless turn? states choices →
          Run.Fair turn? WorkersTurn states choices → (∀ n, choices n ≠ .stop) →
            ∃ n later, (states n).log = y.log ++ later ∧ ServedBy group later)) := by
  have h : x.Kept := Run.invariant (kept_start tracker focus callers)
    (fun _ _ _ hx hturn => kept_turn hx hturn) hrun
  refine ⟨fun hquiet front i kind back hlog => ⟨?_, ?_⟩, ?_, ?_⟩
  · rintro rfl
    obtain hdue | hbegun := h.forced front _ back hlog rfl
    · exact absurd hdue (h.not_forcedDue hquiet)
    · simpa using hbegun
  · exact (h.served front _ back hlog rfl).resolve_left hquiet.not_due
  · exact (Nat.le_add_right _ _).trans h.takes
  · intro hsignal meanwhile y group halways hmeanwhile hlog hrung
    obtain ⟨group', hgathers⟩ := gathers_of_run hsignal halways hmeanwhile
    obtain rfl : group' = group := List.append_cancel_left (hgathers.log.symm.trans hlog)
    have hrefreshing : y.worker.isRefreshing = true :=
      Run.always_last (P := fun z => z.worker.isRefreshing = true) halways hmeanwhile
    obtain ⟨c, hworker⟩ := RefreshWorker.eq_refreshing hrefreshing
    have hringing : y.mixer.signal.ringing = true := hgathers.ringing.trans hrung
    have hpending : y.pending = 1 := by
      simp [pending, hworker, RefreshWorker.isTaking, hringing]
    have hserves : Serves y group' [] y :=
      ⟨by simp, by simp [hpending], .inl ⟨rfl, by simp [hpending], by simpa using hgathers.forced⟩⟩
    refine ⟨fun more z hmore => ?_, ?_⟩
    · obtain ⟨later, hlater⟩ := serves_of_run hserves hmore
      exact ⟨later, hlater.log, hlater.servedBy, hlater.takes_prefix⟩
    · rintro states choices rfl run fair going
      exact served_of_fair run fair going hserves
        ⟨hworker, RefreshWorker.noConfusion, fun _ => hringing⟩

/-- While a lazy refresh is running, one caller asks for a forced one and another one for a lazy
    one; one forced refresh serves both. -/
theorem none_lost_together :
    let tracker : Tracker MemoryAudio := { audio := .new .polling, mode := .polling }
    let turns : List (RequestTurn MemoryAudio) :=
      [.raise 0 .lazy, .ring 0, .work, .work, .raise 0 .forced, .raise 1 .lazy, .ring 1, .ring 0] ++
        List.replicate 16 .work
    ∃ x ∈ Run.after? turn? (start tracker {} 2) turns,
      takes x.log = [.lazy, .forced] ∧ x.log.countP isRung = 3 ∧
      ∃ front back, x.log = front ++ .raised 0 .forced :: back ∧ .begun true ∈ back := by
  intro tracker turns
  have hrun : ∃ x ∈ Run.after? turn? (start tracker {} 2) turns,
      (x.worker.isTaking || x.worker.isRefreshing || x.worker.hasEnded) = false ∧
      x.mixer.signal.ringing = false ∧ true ∉ x.callers ∧
      takes x.log = [.lazy, .forced] ∧ x.log.countP isRung = 3 ∧
      x.log = x.log.take 3 ++ .raised 0 .forced :: x.log.drop 4 := by
    decide +kernel
  obtain ⟨x, hx, hworker, hsilent, hidle, htakes, hrung, hlog⟩ := hrun
  have hwaiting : x.worker = .waiting := by
    cases hphase : x.worker with
    | waiting => rfl
    | _ => simp [hphase, RefreshWorker.isTaking, RefreshWorker.isRefreshing,
        RefreshWorker.hasEnded] at hworker
  obtain ⟨hserved, -⟩ := none_lost hx
  exact ⟨x, hx, htakes, hrung, _, _, hlog,
    (hserved ⟨hwaiting, hsilent, hidle⟩ _ 0 .forced _ hlog).1 rfl⟩

end Requests

end SliderMixer
