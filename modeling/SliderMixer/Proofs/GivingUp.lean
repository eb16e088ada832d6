import SliderMixer.Proofs.Claim

/-! # Giving up the audio system

The audio system is given up last: when all parts of the engine have ended, the handles are given
back, and then the system itself is.

* `Engine.Open`: nobody has set out to give up the audio system.
* `Engine.Closing`: all parts have ended, and what was asked since then, with what is due, are the
  handles and the audio system.
* `Engine.given_up_last`: so every run ends, and many callers give up one tracker but once.
-/

namespace SliderMixer

variable {α : Type} [AudioSystem α]

namespace Engine

variable {e x y : Engine α} {choice : EngineChoice}

/-! ## Before all parts have ended -/

/-- Nobody has set out to give up the audio system. -/
structure Open (e : Engine α) : Prop where
  phase : ∀ c, e.phase ≠ .closing c
  closing : e.flows.mixer.tracker.closing = false
  callers : ∀ c ∈ e.flows.callers, c.shutsDown = false

theorem Open.calls (h : e.Open) (turn : Occurrence α) : .giveUp ∉ e.audioCalls turn := by
  intro hgives
  obtain ⟨c, hc, hgives⟩ | ⟨p, -, hgives⟩ | hother | hother := mem_audioCalls hgives
  · rcases List.mem_append.mp hc with hc | hc
    · exact (Call.claim_of_not_shutsDown e.flows.mixer.tracker (h.callers c hc)).1 hgives
    · cases hphase : e.phase with
      | closing c => exact absurd hphase (h.phase c)
      | _ =>
        rw [hphase] at hc
        cases hc
  · obtain ⟨s, hother | ⟨value, hother⟩⟩ := Pass.mem_audioCalls hgives <;> cases hother
  · cases hother
  · cases hother

theorem open_flow {name : FlowName} {choice : Choice} {flows : Flows α} {moves : Mailbox Move}
    (h : e.Open) (hstep : e.flows.Step e.moves name choice flows moves) (link : Link) :
    Open { e with flows, link } := by
  refine ⟨h.phase, ?_, ?_⟩
  · cases hstep with
    | @handles c hphase _ =>
      have hcaller := h.callers c (by simp [Flows.callers, EventPump.callers, hphase])
      exact (Call.claim_of_not_shutsDown _ hcaller).2.trans h.closing
    | @refreshes c hphase _ =>
      have hcaller := h.callers c (by simp [Flows.callers, RefreshWorker.callers, hphase])
      exact (Call.claim_of_not_shutsDown _ hcaller).2.trans h.closing
    | @routes p _ _ =>
      rw [p.tracker_step]
      exact h.closing
    | _ => exact h.closing
  · refine hstep.callers (fun c hc => ?_) (fun event _ _ => ?_) (fun _ => rfl) h.callers
    · rw [Call.shutsDown_step, hc, Bool.false_and]
    · cases hchange : event.change <;> simp only [Call.handle, hchange] <;> rfl

theorem open_step (h : e.Open) (hstep : e.Step choice x) :
    x.Open ∨ e.Ended ∧ x = { e with phase := .closing .shutdown } := by
  cases hstep with
  | flow step => exact .inl (open_flow h step _)
  | closes _ hended => exact .inr ⟨allEnded_iff.mp hended, rfl⟩
  | givesUp hphase _ => exact absurd hphase (h.phase _)
  | _ => exact .inl { h with }

/-! ## After all parts have ended -/

/-- Only the reader of a board and the shutdown go on. -/
theorem Ended.step (h : e.Ended) (hstep : e.Step choice x) :
    (∃ l, choice = .link .read ∧ l.phase = .ended ∧ x = { e with link := l }) ∨
    e.phase = .stopping ∧ x = { e with phase := .closing .shutdown } ∨
    ∃ c, choice = .close ∧ e.phase = .closing c ∧ c.isFinished = false ∧ x = { e with
      phase := .closing (c.step e.flows.mixer.tracker).1
      flows := { e.flows with mixer := { e.flows.mixer with
        tracker := (c.step e.flows.mixer.tracker).2 } } } := by
  cases hstep with
  | flow step =>
    cases step with
    | unsubscribes _ hphase | hears hphase _ | cutOff hphase _ | handles hphase _
    | handled hphase =>
      rw [h.pump] at hphase
      cases hphase
    | rests _ hphase | answers hphase _ | lowers hphase | refreshes hphase _ | refreshed hphase =>
      rw [h.worker] at hphase
      cases hphase
    | unwatches _ hphase | adopts hphase _ | concludes hphase _ _ | classifies hphase
    | raises hphase | rings hphase =>
      rw [h.sync] at hphase
      cases hphase
    | retires _ hphase | takes hphase _ | outlasts hphase _ _ | routes hphase _ | routed hphase =>
      rw [h.router] at hphase
      cases hphase
  | fanOutEnds _ hphase | takes hphase _ | sendsRouting hphase | sendsLink hphase =>
    rw [h.fanOut] at hphase
    cases hphase
  | link step =>
    cases step with
    | reads _ _ =>
      refine .inl ⟨_, rfl, ?_, rfl⟩
      exact h.link
    | stops _ hphase =>
      rw [h.link] at hphase
      rcases hphase with ⟨c, hphase⟩ | ⟨n, hphase⟩ <;> cases hphase
    | observes hphase | fails hphase _ | opens hphase _ | resumes hphase _ | decodes hphase _ _
    | loses hphase _ _ | delivered hphase | served hphase _ | offers hphase _ _ | leaves _ hphase
    | adopts hphase _ _ | reconnects hphase _ _ | settles hphase _ _ _ =>
      rw [h.link] at hphase
      cases hphase
  | @watcherEnds w _ _ hw hstop => simp [Watcher.stop?, h.watcher w hw] at hstop
  | @watches w _ _ hw hproceed => simp [Watcher.proceed?, h.watcher w hw] at hproceed
  | closes hphase _ => exact .inr (.inl ⟨hphase, rfl⟩)
  | givesUp hphase hc => exact .inr (.inr ⟨_, rfl, hphase, hc, rfl⟩)

/-- Since all parts ended in `y`, the mixer asked for `asked`. -/
structure Closing (y : Engine α) (asked : List AudioCall) (e : Engine α) : Prop where
  ended : e.Ended
  mode : e.flows.mixer.tracker.mode = y.flows.mixer.tracker.mode
  call : ∃ c, e.phase = .closing c ∧
    asked ++ c.due e.flows.mixer.tracker = Call.shutdown.due y.flows.mixer.tracker ∧
    (c.shutsDown = true ∧ e.flows.mixer.tracker.closing = c.holdsClaim ∨
      ∃ r, c = .finished (.closed r))

variable {asked : List AudioCall}

/-- Nothing around the engine changes what is due. -/
theorem Closing.keep (h : Closing y asked e) (ended : x.Ended) (phase : x.phase = e.phase)
    (directory : x.flows.mixer.tracker.directory = e.flows.mixer.tracker.directory)
    (mode : x.flows.mixer.tracker.mode = e.flows.mixer.tracker.mode)
    (closing : x.flows.mixer.tracker.closing = e.flows.mixer.tracker.closing) :
    Closing y asked x := by
  obtain ⟨c, hphase, hasked, hclaim⟩ := h.call
  refine ⟨ended, mode.trans h.mode, c, phase.trans hphase, ?_, ?_⟩
  · rcases hclaim with ⟨hshuts, -⟩ | ⟨r, rfl⟩
    · rw [Call.due_congr hshuts directory mode closing, hasked]
    · exact hasked
  · rw [closing]
    exact hclaim

theorem Closing.shutsDown (h : Closing y asked e) {c : Call} (hphase : e.phase = .closing c)
    (hc : c.isFinished = false) :
    c.shutsDown = true ∧ e.flows.mixer.tracker.closing = c.holdsClaim := by
  obtain ⟨c', hphase', -, hclaim⟩ := h.call
  cases hphase.symm.trans hphase'
  rcases hclaim with hclaim | ⟨r, rfl⟩
  · exact hclaim
  · cases hc

theorem closing_step (h : Closing y asked e) {c : Call} (hphase : e.phase = .closing c)
    (hc : c.isFinished = false) :
    Closing y (asked ++ c.audioCalls) { e with
      phase := .closing (c.step e.flows.mixer.tracker).1
      flows := { e.flows with mixer := { e.flows.mixer with
        tracker := (c.step e.flows.mixer.tracker).2 } } } := by
  obtain ⟨hshuts, hclaim⟩ := h.shutsDown hphase hc
  obtain ⟨c', hphase', hasked, -⟩ := h.call
  cases hphase.symm.trans hphase'
  refine ⟨{ h.ended with }, (c.mode_step _).trans h.mode, _, rfl, ?_, ?_⟩
  · rw [List.append_assoc, ← Call.due_step, hasked]
  · cases hnext : (c.step e.flows.mixer.tracker).1.isFinished with
    | false =>
      refine .inl ⟨?_, (Call.claim_of_shutsDown hclaim hnext).2⟩
      rw [Call.shutsDown_step, hshuts, hnext]
      rfl
    | true => exact .inr (Call.finished_of_shutsDown _ hshuts hnext)

theorem closing_happen (h : Closing y asked e) {turn : Occurrence α}
    (hturn : e.happen? turn = some x) : Closing y (asked ++ e.audioCalls turn) x := by
  have hnone : asked ++ [] = asked := List.append_nil asked
  obtain ⟨c, hphase, -⟩ := h.call
  cases turn with
  | step choice =>
    rcases h.ended.step (step_of_step? hturn) with
      ⟨l, rfl, hl, rfl⟩ | ⟨hstopping, -⟩ | ⟨c', rfl, hclosing, hc, rfl⟩
    · rw [audioCalls, hnone]
      exact h.keep { h.ended with link := hl } rfl rfl rfl rfl
    · rw [hphase] at hstopping
      cases hstopping
    · simpa [audioCalls, hclosing, EnginePhase.callers] using closing_step h hclosing hc
  | shutdown =>
    obtain ⟨hrunning, -⟩ := shutdown_of_happen? hturn
    rw [hphase] at hrunning
    cases hrunning
  | write name content =>
    cases hturn
    rw [audioCalls, hnone]
    refine h.keep { h.ended with watcher := fun w hw => ?_ } rfl rfl rfl rfl
    obtain ⟨old, hold, rfl⟩ := Option.map_eq_some_iff.mp hw
    exact (old.phase_write name content).trans (h.ended.watcher old hold)
  | remove =>
    cases hturn
    rw [audioCalls, hnone]
    refine h.keep { h.ended with watcher := fun w hw => ?_ } rfl rfl rfl rfl
    obtain ⟨old, hold, rfl⟩ := Option.map_eq_some_iff.mp hw
    exact h.ended.watcher old hold
  | apply _ | board _ | clock _ | world _ _ _ =>
    cases hturn
    rw [audioCalls, hnone]
    exact h.keep { h.ended with } rfl rfl rfl rfl

/-! ## Runs -/

/-- Either nobody has set out to give up the audio system, or all parts have ended before. -/
def Stage (e : Engine α) (front : List (Occurrence α)) (x : Engine α) : Prop :=
  x.Open ∧ .giveUp ∉ Run.collect happen? audioCalls e front ∨
  ∃ before after y, front = before ++ after ∧ Run.after? happen? e before = some y ∧ y.Ended ∧
    y.flows.mixer.tracker.closing = false ∧ .giveUp ∉ Run.collect happen? audioCalls e before ∧
    Closing y (Run.collect happen? audioCalls y after) x

theorem open_happen (h : x.Open) {turn : Occurrence α} (hturn : x.happen? turn = some y) :
    y.Open ∨ x.Ended ∧ y = { x with phase := .closing .shutdown } := by
  cases turn with
  | step choice => exact open_step h (step_of_step? hturn)
  | shutdown =>
    obtain ⟨-, rfl⟩ := shutdown_of_happen? hturn
    exact .inl { h with phase := fun c hc => by cases hc }
  | apply _ | board _ | clock _ | world _ _ _ | write _ _ | remove =>
    cases hturn
    exact .inl { h with }

theorem stage_happen {front : List (Occurrence α)} (hfront : Run.after? happen? e front = some x)
    (h : Stage e front x) {turn : Occurrence α} (hturn : x.happen? turn = some y) :
    Stage e (front ++ [turn]) y := by
  rcases h with ⟨hopen, hnone⟩ | ⟨before, after, z, rfl, hbefore, hended, hclosing, hnone, h⟩
  · have hsnoc : .giveUp ∉ Run.collect happen? audioCalls e (front ++ [turn]) := by
      rw [Run.collect_snoc hfront, List.mem_append, not_or]
      exact ⟨hnone, hopen.calls turn⟩
    rcases open_happen hopen hturn with hopen' | ⟨hended, rfl⟩
    · exact .inl ⟨hopen', hsnoc⟩
    · refine .inr ⟨front ++ [turn], [], { x with phase := .closing .shutdown },
        (List.append_nil _).symm, ?_, { hended with }, hopen.closing, hsnoc,
        { hended with }, rfl, _, rfl, rfl, .inl ⟨rfl, hopen.closing⟩⟩
      rw [Run.after?_append hfront, Run.after?_cons, hturn]
      rfl
  · have hafter : Run.after? happen? z after = some x := by rw [← Run.after?_append hbefore, hfront]
    refine .inr ⟨before, after ++ [turn], z, List.append_assoc _ _ _, hbefore, hended, hclosing,
      hnone, ?_⟩
    rw [Run.collect_snoc hafter]
    exact closing_happen h hturn

variable {settings : Settings} {audio : α} {focus : Focus} {board : Board}
  {options : EngineOptions} {turns : List (Occurrence α)}

theorem open_start (hstart : Engine.start settings audio focus board options = .ok e)
    (watcher : Option Watcher) : Open { e with watcher } := by
  have hcallers : ∀ c ∈ callers { e with watcher }, c.shutsDown = false := by
    simp [callers_start hstart watcher]
  obtain ⟨tracker, pump, rfl, hcases⟩ := start_cases hstart
  refine ⟨fun c hc => (by cases hc), ?_, fun c hc => hcallers c (List.mem_append_left _ hc)⟩
  rcases hcases with ⟨-, rfl⟩ | ⟨-, outcome, hrefresh⟩
  · rfl
  · have hsame :=
      (Call.comesTo_refresh (firstTracker settings audio options .polling) true).closing rfl
    rw [hrefresh] at hsame
    exact hsame

theorem stage_of_run (hstart : Engine.start settings audio focus board options = .ok e)
    (watcher : Option Watcher)
    (hrun : Run.after? happen? { e with watcher } turns = some x) :
    Stage { e with watcher } turns x :=
  Run.invariant_of_history (P := Stage { e with watcher }) (Q := fun _ _ => True)
    (.inl ⟨open_start hstart watcher, List.not_mem_nil⟩)
    (fun _ _ _ _ hfront h _ hturn => stage_happen hfront h hturn)
    (Run.along_of_forall (fun _ _ => trivial) _ _) hrun

/-! ## Where changes are reported -/

end Engine

namespace Call

omit [AudioSystem α]

/-- The handles that the caller is about to give back. -/
def handles : Call → List Session
  | giveBack handles _ => handles
  | insert _ | erase _ | classify _ | beginRefresh _ | enumerate | replace _ | takeAll
  | countSessions _ | publishCount _ _ | claimClosing | closeAudio | finished _ => []

theorem giveBack_mem_audioCalls {c : Call} {s : Session} (h : .giveBack s ∈ c.audioCalls) :
    s ∈ c.handles := by
  cases c with
  | giveBack handles next => cases handles <;> simp_all [audioCalls, handles]
  | _ => simp [audioCalls] at h

variable [AudioSystem α]

/-- Where changes are reported, no handle is given back. -/
theorem handles_step {c : Call} {t : Tracker α} (hmode : t.mode = .eventDriven)
    (h : c.handles = []) : (c.step t).1.handles = [] := by
  have hstep := c.stepped t
  generalize c.step t = next at hstep ⊢
  cases hstep with
  | replaces fresh => simp [Tracker.replace_eventDriven hmode, handles]
  | empties => simp [Tracker.takeAll, hmode, handles]
  | returns s rest next => cases h
  | _ => rfl

end Call

namespace Engine

variable {e x y : Engine α} {choice : EngineChoice}

theorem mode_happen {turn : Occurrence α} (hturn : e.happen? turn = some x) :
    x.flows.mixer.tracker.mode = e.flows.mixer.tracker.mode := by
  cases turn with
  | step choice =>
    obtain htracker | ⟨c, -, htracker⟩ | ⟨s, -, -, htracker⟩ := (step_of_step? hturn).tracker
    · rw [htracker]
    · rw [htracker, c.mode_step]
    · rw [htracker]
      rfl
  | shutdown =>
    obtain ⟨-, rfl⟩ := shutdown_of_happen? hturn
    rfl
  | apply _ | board _ | clock _ | world _ _ _ | write _ _ | remove =>
    cases hturn
    rfl

theorem mode_of_run {turns : List (Occurrence α)} (hrun : Run.after? happen? e turns = some x) :
    x.flows.mixer.tracker.mode = e.flows.mixer.tracker.mode :=
  Run.invariant (P := fun u : Engine α =>
    u.flows.mixer.tracker.mode = e.flows.mixer.tracker.mode) rfl
    (fun _ _ _ h hturn => (mode_happen hturn).trans h) hrun

theorem handles_happen (hmode : e.flows.mixer.tracker.mode = .eventDriven)
    (h : ∀ c ∈ e.callers, c.handles = []) {turn : Occurrence α}
    (hturn : e.happen? turn = some x) : ∀ c ∈ x.callers, c.handles = [] := by
  cases turn with
  | step choice =>
    refine (step_of_step? hturn).callers (fun c hc => Call.handles_step hmode hc)
      (fun event _ _ => ?_) (fun _ => rfl) rfl h
    cases hchange : event.change <;> simp only [Call.handle, hchange] <;> rfl
  | shutdown =>
    obtain ⟨hphase, rfl⟩ := shutdown_of_happen? hturn
    exact callers_shutdown hphase ▸ h
  | apply _ | board _ | clock _ | world _ _ _ | write _ _ | remove =>
    cases hturn
    exact h

theorem no_giveBack_of_run {turns : List (Occurrence α)}
    (hmode : e.flows.mixer.tracker.mode = .eventDriven)
    (hfirst : ∀ c ∈ e.callers, c.handles = [])
    (hrun : Run.after? happen? e turns = some x) (s : Session) :
    .giveBack s ∉ Run.collect happen? audioCalls e turns := by
  have hall : x.flows.mixer.tracker.mode = .eventDriven ∧ (∀ c ∈ x.callers, c.handles = []) ∧
      .giveBack s ∉ Run.collect happen? audioCalls e turns := by
    refine Run.invariant_of_history (P := fun front u =>
      u.flows.mixer.tracker.mode = .eventDriven ∧ (∀ c ∈ u.callers, c.handles = []) ∧
        .giveBack s ∉ Run.collect happen? audioCalls e front)
      (Q := fun _ _ => True) ⟨hmode, hfirst, List.not_mem_nil⟩ ?_
      (Run.along_of_forall (fun _ _ => trivial) _ _) hrun
    rintro front u turn v hfront ⟨hmode, hhandles, hnone⟩ - hturn
    refine ⟨(mode_happen hturn).trans hmode, handles_happen hmode hhandles hturn, ?_⟩
    rw [Run.collect_snoc hfront, List.mem_append, not_or]
    refine ⟨hnone, fun hgives => ?_⟩
    obtain ⟨c, hc, hgives⟩ | ⟨p, -, hgives⟩ | hother | hother := mem_audioCalls hgives
    · have hs := Call.giveBack_mem_audioCalls hgives
      rw [hhandles c hc] at hs
      cases hs
    · obtain ⟨s, hother | ⟨value, hother⟩⟩ := Pass.mem_audioCalls hgives <;> cases hother
    · cases hother
    · cases hother
  exact hall.2.2

/-! ## The end of the shutdown -/

/-- Once all parts have ended, the shutdown alone comes to its end. -/
theorem closes_of_comesTo {c d : Call} {t u : Tracker α} (h : c.ComesTo t d u)
    (hd : d.isFinished = true) (hphase : e.phase = .closing c)
    (htracker : e.flows.mixer.tracker = t) :
    ∃ n x, Run.after? happen? e (List.replicate n (.step .close)) = some x ∧
      x.phase = .closing d := by
  induction h generalizing e with
  | refl c t => exact ⟨0, e, rfl, hphase⟩
  | @step c d t u _ ih =>
    cases hc : c.isFinished with
    | true =>
      obtain ⟨r, rfl⟩ := Call.eq_finished_of_isFinished hc
      exact ih hd hphase htracker
    | false =>
      subst htracker
      let next : Engine α := { e with
        phase := .closing (c.step e.flows.mixer.tracker).1
        flows := { e.flows with mixer := { e.flows.mixer with
          tracker := (c.step e.flows.mixer.tracker).2 } } }
      obtain ⟨n, x, hrun, hx⟩ := ih (e := next) hd rfl rfl
      refine ⟨n + 1, x, ?_, hx⟩
      rw [List.replicate_succ, Run.after?_cons]
      simp only [happen?, step?, close?_closing hphase hc, Option.bind_some]
      exact hrun

variable {settings : Settings} {audio : α} {focus : Focus} {board : Board}
  {options : EngineOptions} {turns : List (Occurrence α)}

omit [AudioSystem α] in
theorem outcome?_of_closed {r : Except BackendError Unit}
    (hphase : x.phase = .closing (.finished (.closed r))) : x.outcome?.isSome = true := by
  simp [outcome?, hphase]

omit [AudioSystem α] in
theorem outcome?_of_not_finished (h : ∀ r, x.phase ≠ .closing (.finished r)) :
    x.outcome?.isSome = false := by
  unfold outcome?
  split
  · next r hphase => exact absurd hphase (h _)
  · rfl

/-- The handles that there are to be given back when all parts have ended. -/
def heldHandles (e : Engine α) : List Session :=
  match e.flows.mixer.tracker.mode with
  | .polling => e.flows.mixer.tracker.directory.held
  | .eventDriven => []

theorem due_shutdown (h : e.flows.mixer.tracker.closing = false) :
    Call.shutdown.due e.flows.mixer.tracker = e.heldHandles.map .giveBack ++ [.giveUp] := by
  simp only [Call.shutdown, Call.due, Call.dueGivenUp, h, heldHandles, Tracker.takeAll]
  rfl

/-- Whether the audio system was given up, and what came before. -/
theorem Closing.calls {asked : List AudioCall} (h : Closing y asked x)
    (hy : y.flows.mixer.tracker.closing = false) :
    (x.outcome?.isSome = false ∧ .giveUp ∉ asked) ∨
    (x.outcome?.isSome = true ∧ asked = y.heldHandles.map .giveBack ++ [.giveUp]) := by
  obtain ⟨c, hphase, hasked, ⟨hshuts, hclaim⟩ | ⟨r, rfl⟩⟩ := h.call
  · obtain ⟨handles, hdue⟩ := Call.due_of_shutsDown hshuts hclaim
    rw [hdue, due_shutdown hy, ← List.append_assoc] at hasked
    have hfront := List.append_cancel_right hasked
    refine .inl ⟨outcome?_of_not_finished fun r hr => ?_, fun hgives => ?_⟩
    · cases hphase.symm.trans hr
      cases hshuts
    · have hmem : .giveUp ∈ y.heldHandles.map AudioCall.giveBack :=
        hfront ▸ List.mem_append_left _ hgives
      simp at hmem
  · rw [due_shutdown hy] at hasked
    exact .inr ⟨outcome?_of_closed hphase, by simpa [Call.due] using hasked⟩

theorem closes (hstart : Engine.start settings audio focus board options = .ok e)
    (watcher : Option Watcher) (hrun : Run.after? happen? { e with watcher } turns = some x)
    (hphase : x.phase ≠ .running) (hended : x.allEnded = true) :
    ∃ n z, Run.after? happen? x (List.replicate n (.step .close)) = some z ∧
      z.outcome?.isSome = true := by
  have hcloses (y : Engine α) (c : Call) (hy : y.phase = .closing c) : ∃ n z r,
      Run.after? happen? y (List.replicate n (.step .close)) = some z ∧
        z.phase = .closing (.finished r) := by
    obtain ⟨r, u, hcomes⟩ := c.comesTo_finished y.flows.mixer.tracker
    obtain ⟨n, z, hz, hfinished⟩ := closes_of_comesTo hcomes rfl hy rfl
    exact ⟨n, z, r, hz, hfinished⟩
  obtain ⟨n, z, r, hz, hfinished⟩ : ∃ n z r,
      Run.after? happen? x (List.replicate n (.step .close)) = some z ∧
        z.phase = .closing (.finished r) := by
    cases hx : x.phase with
    | running => exact absurd hx hphase
    | stopping =>
      obtain ⟨n, z, r, hz, hfinished⟩ := hcloses { x with phase := .closing .shutdown } _ rfl
      refine ⟨n + 1, z, r, ?_, hfinished⟩
      rw [List.replicate_succ, Run.after?_cons]
      simp only [happen?, step?, close?, hx, hended, if_true, Option.bind_some]
      exact hz
    | closing c => exact hcloses x c hx
  refine ⟨n, z, hz, ?_⟩
  -- a shutdown that is finished has an outcome
  have hrun' : Run.after? happen? { e with watcher } (turns ++ List.replicate n (.step .close)) =
      some z := by
    rw [Run.after?_append hrun, hz]
  obtain ⟨hopen, -⟩ | ⟨_, _, y, -, -, -, -, -, hclosing⟩ :=
    stage_of_run hstart watcher hrun'
  · exact absurd hfinished (hopen.phase _)
  · obtain ⟨c, hc, -, ⟨hshuts, -⟩ | ⟨r', rfl⟩⟩ := hclosing.call
    · cases hfinished.symm.trans hc
      cases hshuts
    · exact outcome?_of_closed hc

theorem calls_of_run (hstart : Engine.start settings audio focus board options = .ok e)
    (watcher : Option Watcher) (hrun : Run.after? happen? { e with watcher } turns = some x) :
    let calls := Run.collect happen? audioCalls { e with watcher } turns
    (x.outcome?.isSome = false ∧ .giveUp ∉ calls) ∨
    (x.outcome?.isSome = true ∧ ∃ front back y, turns = front ++ back ∧
      Run.after? happen? { e with watcher } front = some y ∧ y.allEnded = true ∧
      .giveUp ∉ Run.collect happen? audioCalls { e with watcher } front ∧
      calls = Run.collect happen? audioCalls { e with watcher } front ++
        (y.heldHandles.map .giveBack ++ [.giveUp])) := by
  intro calls
  obtain ⟨hopen, hnone⟩ | ⟨front, back, y, rfl, hfront, hended, hclosing, hnone, h⟩ :=
    stage_of_run hstart watcher hrun
  · refine .inl ⟨outcome?_of_not_finished fun r hr => ?_, hnone⟩
    exact hopen.phase _ hr
  · have hcalls : calls = _ := Run.collect_append hfront back
    rcases h.calls hclosing with ⟨houtcome, hnone'⟩ | ⟨houtcome, hasked⟩
    · refine .inl ⟨houtcome, ?_⟩
      rw [hcalls, List.mem_append, not_or]
      exact ⟨hnone, hnone'⟩
    · refine .inr ⟨houtcome, front, back, y, rfl, hfront, allEnded_iff.mpr hended, hnone, ?_⟩
      rw [hcalls, hasked]

/-- In every run of a started engine: the audio system is given up once, if the engine has come to
    the end of its shutdown, and not before.  It is given up last, after the handles that were held
    when all parts had ended; where changes are reported, no handle is ever given back.  And any
    number of callers give up one tracker once.  What is done to the audio system is all by calls. -/
theorem given_up_last (hstart : Engine.start settings audio focus board options = .ok e)
    (watcher : Option Watcher) (hrun : Run.after? happen? { e with watcher } turns = some x) :
    let calls := Run.collect happen? audioCalls { e with watcher } turns
    calls.count .giveUp = (if x.outcome?.isSome then 1 else 0) ∧
    (x.outcome?.isSome = true → ∃ front back y, turns = front ++ back ∧
      Run.after? happen? { e with watcher } front = some y ∧ y.allEnded = true ∧
      calls = Run.collect happen? audioCalls { e with watcher } front ++
        (y.heldHandles.map .giveBack ++ [.giveUp])) ∧
    (x.flows.mixer.tracker.mode = .eventDriven → ∀ s, .giveBack s ∉ calls) ∧
    (x.phase ≠ .running → x.allEnded = true → ∃ n z,
      Run.after? happen? x (List.replicate n (.step .close)) = some z ∧
        z.outcome?.isSome = true) ∧
    (∀ (z z' : Engine α) choice, z.happen? (.step choice) = some z' →
      z'.flows.mixer.tracker.audio =
        (z.audioCalls (.step choice)).foldl AudioCall.after z.flows.mixer.tracker.audio) ∧
    (∀ (audio : α) mode mappedKeys minInterval (turns : List (Turn α)) (c : Callers α),
      Run.after? Callers.turn? (.new audio mode mappedKeys minInterval) turns = some c →
      let calls :=
        Run.collect Callers.turn? Callers.audioCalls (.new audio mode mappedKeys minInterval) turns
      calls.count .giveUp ≤ 1 ∧
      ((.begin .shutdown ∈ turns ∨ .perform .shutdown ∈ turns) →
        (∀ caller ∈ c.callers, caller.call.isFinished = true) → calls.count .giveUp = 1)) ∧
    ∀ (c d : Callers α) turn, c.turn? turn = some d → (∀ audio, turn ≠ .audio audio) →
      d.tracker.audio = (c.audioCalls turn).foldl AudioCall.after c.tracker.audio := by
  intro calls
  refine ⟨?_, ?_, ?_, closes hstart watcher hrun,
    fun z z' choice hturn => audio_step (step_of_step? hturn),
    fun audio mode mappedKeys minInterval turns c => Callers.claim_of_run,
    fun c d turn => Callers.audio_turn⟩
  · rcases calls_of_run hstart watcher hrun with
      ⟨houtcome, hnone⟩ | ⟨houtcome, front, back, y, -, -, -, hnone, hcalls⟩
    · rw [houtcome]
      exact List.count_eq_zero_of_not_mem hnone
    · have hhandles : .giveUp ∉ y.heldHandles.map AudioCall.giveBack := by simp
      rw [houtcome, show calls = _ from hcalls, List.count_append, List.count_append,
        List.count_eq_zero_of_not_mem hnone, List.count_eq_zero_of_not_mem hhandles]
      rfl
  · intro houtcome
    rcases calls_of_run hstart watcher hrun with
      ⟨hnone, -⟩ | ⟨-, front, back, y, hturns, hfront, hended, -, hcalls⟩
    · rw [hnone] at houtcome
      cases houtcome
    · exact ⟨front, back, y, hturns, hfront, hended, hcalls⟩
  · intro hmode
    exact no_giveBack_of_run ((mode_of_run hrun).symm.trans hmode)
      (by simp [callers_start hstart watcher]) hrun

/-- A refresh and a pass are under way when the engine is told to stop. -/
theorem given_up_last_polling :
    let audio := ((MemoryAudio.new .polling).addSession "speakers" masterKey defaultVolume).2
    -- the line 512
    let board : Board := (({} : Board).pushStream { waiting := [53, 49, 50, 13, 10] }).2
    let link (choice : LinkChoice) : Occurrence MemoryAudio := .step (.link choice)
    let worker : Occurrence MemoryAudio := .step (.flow .worker .proceed)
    let router : Occurrence MemoryAudio := .step (.flow .router .proceed)
    let sync : Occurrence MemoryAudio := .step (.flow .sync .proceed)
    let fanOut : Occurrence MemoryAudio := .step (.fanOut .proceed)
    let turns : List (Occurrence MemoryAudio) :=
      [link .proceed, link .proceed, link .read, link .read, link .proceed, link .proceed,
        .apply {}, fanOut, fanOut, fanOut, sync, sync, sync, sync, worker, worker, worker, router,
        router, .shutdown, worker, worker, worker, worker, worker, worker, worker, router, router,
        router, router, router, router, link .proceed, link .proceed, .step (.link .stop),
        .step (.flow .sync .stop), .step (.flow .worker .stop), .step (.flow .router .stop),
        .step (.fanOut .stop), .step .close, .step .close, .step .close, .step .close, .step .close,
        .step .close, .step .close, .step .close]
    ∃ e ∈ (Engine.start {} audio {} board {}).toOption,
      let calls := Run.collect happen? audioCalls { e with watcher := none } turns
      calls.length = 6 ∧ calls.count .giveUp = 1 ∧ ∃ front back y, turns = front ++ back ∧
        Run.after? happen? { e with watcher := none } front = some y ∧ y.allEnded = true ∧
        calls = Run.collect happen? audioCalls { e with watcher := none } front ++
          (y.heldHandles.map .giveBack ++ [.giveUp]) := by
  intro audio board link worker router sync fanOut turns
  have hrun : ∃ e ∈ (Engine.start {} audio {} board {}).toOption,
      ∃ x ∈ Run.after? happen? { e with watcher := none } turns,
        (Run.collect happen? audioCalls { e with watcher := none } turns).length = 6 ∧
        x.outcome?.isSome = true := by
    decide +kernel
  obtain ⟨e, hstart, x, hx, hlength, houtcome⟩ := hrun
  have hcalls := given_up_last (eq_ok_of_mem_toOption hstart) none hx
  rw [houtcome] at hcalls
  exact ⟨e, hstart, hlength, hcalls.1, hcalls.2.1 rfl⟩

end Engine

end SliderMixer
