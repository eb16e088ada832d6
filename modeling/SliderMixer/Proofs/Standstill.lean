import SliderMixer.Proofs.GivingUp

/-! # No standstill

Once the engine has been told to stop, some part that has not ended can always go on, or waits for
its timer.

* `Pass.ends`: a pass comes to its end, whatever the other flows do to the mixer in between.
* `Engine.Wired`: what the link and the router have in common, kept by all that happens.
* `Engine.Wired.goesOn`: only the link can have to wait for another part, which is the router.
* `Engine.Wired.freed`: the router makes room for it, or goes away.
* `Engine.no_standstill`: so it is in every run.
-/

namespace SliderMixer

variable {α : Type} [AudioSystem α]

/-! ## Passes -/

namespace Pass

/-- The pass comes to its end, with other steps before and between its own. -/
inductive Ends (α : Type) [AudioSystem α] : Pass → Prop where
  | finished (o : RouteOutcome) : Ends α (.finished o)
  | step {p : Pass} (rest : ∀ mapping (m : Mixer α), Ends α (p.step mapping m).1) : Ends α p

theorem ends_raising (kind : RefreshKind) (o : RouteOutcome) : Ends α (.raising kind o) :=
  .step fun _ _ => .step fun _ _ => .finished o

theorem ends_visiting (visits : List Visit) (move : Move) (o : RouteOutcome) :
    Ends α (.visiting move visits o) := by
  -- a visit makes way only for lesser ones, whatever mixer it finds
  induction visits using visits_induction (α := α) generalizing o with
  | nil =>
    refine .step fun mapping m => ?_
    cases hwanted : o.wanted m.tracker.mode <;> simp only [step, hwanted]
    · exact .finished o
    · exact ends_raising _ _
  | visit v rest ih => exact .step fun mapping m => ih m move o _

theorem ends (p : Pass) : p.Ends α := by
  cases p with
  | begun move =>
    refine .step fun mapping m => ?_
    cases htargets : mapping.get? move.slider <;> simp only [step, htargets]
    · exact .finished _
    · exact ends_visiting _ _ _
  | visiting move visits o => exact ends_visiting visits move o
  | raising kind o => exact ends_raising kind o
  | ringing o => exact .step fun _ _ => .finished o
  | finished o => exact .finished o

end Pass

/-! ## Link and router -/

theorem Mailbox.offer_cases {β : Type} (m : Mailbox β) (value : β) :
    (m.offer value).2 = m ∨
    m.receiverGone = false ∧ m.hasRoom = true ∧
      (m.offer value).2 = { m with items := m.items ++ [value] } := by
  unfold offer
  cases hgone : m.receiverGone <;> cases hroom : m.hasRoom <;> simp

/-- The link has a move for a subscriber that has no room. -/
def Link.Blocked (l : Link) (move : Move) : Prop :=
  (∃ c rest served, l.phase = .delivering c (move :: rest) served) ∧ l.proceed? = none

/-- A mailbox of one place, whose receiver goes away when the router ends. -/
structure Mailbox.Joins {β : Type} (m : Mailbox β) (r : Router) : Prop where
  capacity : m.capacity = 1
  room : m.items.length ≤ 1
  gone : m.receiverGone = true ↔ r = .ended

theorem Link.joins_step {l l' : Link} {choice : LinkChoice} {m : Mailbox Move} {r : Router}
    (hm : l.subscribers = [m]) (hjoins : m.Joins r) (h : l.Step choice l') :
    ∃ m', l'.subscribers = [m'] ∧ m'.Joins r := by
  cases h with
  | @offers c move rest served m' hphase hnext hfree =>
    obtain ⟨rfl, rfl⟩ := only_subscriber hm hnext
    refine ⟨(m'.offer move).2, by simp [hm], ?_⟩
    -- a move is put in only where there is room, and then it is the only one
    obtain hsame | ⟨-, hroom, hoffer⟩ := m'.offer_cases move
    · rwa [hsame]
    · rw [hoffer]
      refine ⟨hjoins.capacity, ?_, hjoins.gone⟩
      simpa [Mailbox.hasRoom, hjoins.capacity] using hroom
  | stops _ _ => exact ⟨m.dropSender, by simp [finish, hm], { hjoins with }⟩
  | leaves _ _ => exact ⟨m.dropSender, by simp [finish, leave, publish, hm], { hjoins with }⟩
  | _ => exact ⟨m, hm, hjoins⟩

/-- While the router goes on, its receiver stays. -/
theorem Mailbox.Joins.goOn {β : Type} {m m' : Mailbox β} {r r' : Router} (h : m.Joins r)
    (hr : r ≠ .ended) (hr' : r' ≠ .ended) (capacity : m'.capacity = m.capacity)
    (room : m'.items.length ≤ m.items.length) (gone : m'.receiverGone = m.receiverGone) :
    m'.Joins r' where
  capacity := capacity.trans h.capacity
  room := room.trans h.room
  gone := by simp [gone, h.gone, hr, hr']

theorem Flows.Step.joins {f f' : Flows α} {m m' : Mailbox Move} {name : FlowName} {choice : Choice}
    (hjoins : m.Joins f.router) (h : f.Step m name choice f' m') : m'.Joins f'.router := by
  cases h with
  | retires _ _ => exact ⟨hjoins.capacity, Nat.zero_le 1, iff_of_true rfl rfl⟩
  | outlasts _ _ _ => exact ⟨hjoins.capacity, Nat.zero_le 1, iff_of_true rfl rfl⟩
  | takes hphase hitems =>
    exact hjoins.goOn (by simp [hphase]) Router.noConfusion rfl (by simp [hitems]) rfl
  | routes hphase _ =>
    exact hjoins.goOn (by simp [hphase]) Router.noConfusion rfl (Nat.le_refl _) rfl
  | routed hphase =>
    exact hjoins.goOn (by simp [hphase]) Router.noConfusion rfl (Nat.le_refl _) rfl
  | _ => exact hjoins

namespace Engine

variable {e e' x : Engine α} {choice : EngineChoice}

/-- How the stop signal, the link and the router hang together. -/
structure Wired (e : Engine α) : Prop where
  signal : e.flows.stop = true → e.link.stop = true ∧ e.phase ≠ .running
  subscribers : e.link.subscribers = [e.moves]
  joins : e.moves.Joins e.flows.router

omit [AudioSystem α] in
theorem moves_of_subscribers {m : Mailbox Move} (h : e.link.subscribers = [m]) : e.moves = m := by
  rw [moves, h]
  rfl

omit [AudioSystem α] in
theorem Wired.of_subscribers {m : Mailbox Move}
    (signal : e.flows.stop = true → e.link.stop = true ∧ e.phase ≠ .running)
    (hm : e.link.subscribers = [m]) (hjoins : m.Joins e.flows.router) : e.Wired := by
  have hmoves := moves_of_subscribers hm
  exact ⟨signal, hmoves ▸ hm, hmoves ▸ hjoins⟩

theorem wired_step (h : e.Wired) (hstep : e.Step choice e') : e'.Wired := by
  cases hstep with
  | flow step =>
    refine .of_subscribers (fun hstop => ?_) (by rw [h.subscribers]; rfl) (step.joins h.joins)
    exact h.signal (step.stop ▸ hstop)
  | link step =>
    obtain ⟨m, hm, hjoins⟩ := Link.joins_step h.subscribers h.joins step
    refine .of_subscribers (fun hstop => ?_) hm hjoins
    rw [step.stop]
    exact h.signal hstop
  | closes _ _ | givesUp _ _ =>
    exact ⟨fun hstop => ⟨(h.signal hstop).1, EnginePhase.noConfusion⟩, h.subscribers, h.joins⟩
  | _ => exact { h with }

theorem wired_happen (h : e.Wired) {turn : Occurrence α} (hturn : e.happen? turn = some e') :
    e'.Wired := by
  cases turn with
  | step choice => exact wired_step h (step_of_step? hturn)
  | shutdown =>
    obtain ⟨-, rfl⟩ := shutdown_of_happen? hturn
    exact ⟨fun _ => ⟨rfl, EnginePhase.noConfusion⟩, h.subscribers, h.joins⟩
  | _ =>
    cases hturn
    exact { h with }

theorem wired_start {settings : Settings} {audio : α} {focus : Focus} {board : Board}
    {options : EngineOptions} (hstart : Engine.start settings audio focus board options = .ok e)
    (watcher : Option Watcher) : Wired { e with watcher } := by
  obtain ⟨tracker, pump, rfl, -⟩ := start_cases hstart
  exact ⟨fun hstop => absurd hstop Bool.noConfusion, rfl, rfl, Nat.zero_le 1,
    iff_of_false Bool.noConfusion Router.noConfusion⟩

omit [AudioSystem α] in
/-- A blocked link waits for the router, which has not taken up the move before. -/
theorem Wired.blocked (h : e.Wired) {move : Move} (hblocked : e.link.Blocked move) :
    ∃ c rest held, e.link.phase = .delivering c (move :: rest) 0 ∧ e.moves.items = [held] ∧
      e.moves.receiverGone = false := by
  obtain ⟨⟨c, rest, served, hphase⟩, hnone⟩ := hblocked
  simp only [Link.proceed?, hphase, Link.deliver?, h.subscribers] at hnone
  cases served with
  | succ n => cases hnone
  | zero =>
    simp only [List.getElem?_cons_zero, ite_eq_right_iff, reduceCtorEq, imp_false,
      Bool.or_eq_true, not_or, Bool.not_eq_true] at hnone
    obtain ⟨hgone, hroom⟩ := hnone
    have hlength : e.moves.items.length = 1 := by
      have hroom' := h.joins.room
      simp only [Mailbox.hasRoom, h.joins.capacity, decide_eq_false_iff_not] at hroom
      omega
    obtain ⟨held, hitems⟩ := List.length_eq_one_iff.mp hlength
    exact ⟨c, rest, held, hphase, hitems, hgone⟩

end Engine

/-! ## Parts that go on -/

inductive EnginePart where
  | flow (name : FlowName)
  | fanOut
  | link
  | watcher
  deriving DecidableEq

/-- The steps of the part; the reader of the board goes on beside the link. -/
def EnginePart.choices : EnginePart → List EngineChoice
  | flow name => [.flow name .stop, .flow name .proceed]
  | fanOut => [.fanOut .stop, .fanOut .proceed]
  | link => [.link .stop, .link .notice, .link .proceed]
  | watcher => [.watcher .stop, .watcher .proceed]

def Flows.partEnded (f : Flows α) : FlowName → Bool
  | .pump => f.pump.hasEnded
  | .worker => f.worker.hasEnded
  | .sync => f.sync.hasEnded
  | .router => f.router.hasEnded

namespace Engine

def partEnded (e : Engine α) : EnginePart → Bool
  | .flow name => e.flows.partEnded name
  | .fanOut => e.fanOut.hasEnded
  | .link => e.link.hasEnded
  | .watcher => e.watcher.all Watcher.hasEnded

def CanGoOn (e : Engine α) (part : EnginePart) : Prop :=
  ∃ choice ∈ part.choices, (e.step? choice).isSome = true

instance (e : Engine α) (part : EnginePart) : Decidable (e.CanGoOn part) :=
  inferInstanceAs (Decidable (∃ choice ∈ part.choices, (e.step? choice).isSome = true))

/-- When its timer is over, the part can go on. -/
def Sleeps (e : Engine α) (part : EnginePart) : Prop :=
  part = .watcher ∧ ∃ readAt ∈ e.watcher.bind Watcher.timer?, ∀ now ≥ readAt,
    CanGoOn { e with link := { e.link with now } } part

variable {e e' : Engine α}

omit [AudioSystem α] in
theorem allEnded_eq_false (h : e.allEnded = false) : ∃ part, e.partEnded part = false := by
  by_contra hnone
  simp only [not_exists, Bool.not_eq_false] at hnone
  have hended : e.allEnded = true := by
    simp only [allEnded, Bool.and_eq_true]
    exact ⟨⟨⟨⟨⟨⟨hnone (.flow .pump), hnone (.flow .worker)⟩, hnone (.flow .sync)⟩,
      hnone (.flow .router)⟩, hnone .fanOut⟩, hnone .link⟩, hnone .watcher⟩
  rw [hended] at h
  cases h

theorem canGoOn_flow {name : FlowName} (choice : Choice)
    (h : (e.flows.step? e.moves name choice).isSome = true) : e.CanGoOn (.flow name) := by
  refine ⟨.flow name choice, ?_, by simpa [step?, stepFlow?] using h⟩
  cases choice <;> simp [EnginePart.choices]

theorem flow_goesOn (hstop : e.flows.stop = true) (name : FlowName)
    (h : e.flows.partEnded name = false) : e.CanGoOn (.flow name) := by
  cases name with
  | pump =>
    cases hphase : e.flows.pump with
    | waiting =>
      refine canGoOn_flow .stop ?_
      simp [Flows.step?, hstop, hphase, EventPump.stop?]
    | handling c =>
      refine canGoOn_flow .proceed ?_
      cases c <;> simp [Flows.step?, hphase, EventPump.proceed?]
    | ended => simp [Flows.partEnded, EventPump.hasEnded, hphase] at h
  | worker =>
    cases hphase : e.flows.worker with
    | waiting =>
      refine canGoOn_flow .stop ?_
      simp [Flows.step?, hstop, hphase, RefreshWorker.stop?]
    | taking =>
      refine canGoOn_flow .proceed ?_
      simp [Flows.step?, hphase, RefreshWorker.proceed?]
    | refreshing c =>
      refine canGoOn_flow .proceed ?_
      cases c <;> simp [Flows.step?, hphase, RefreshWorker.proceed?]
    | ended => simp [Flows.partEnded, RefreshWorker.hasEnded, hphase] at h
  | sync =>
    cases hphase : e.flows.sync.phase with
    | waiting =>
      refine canGoOn_flow .stop ?_
      simp [Flows.step?, hstop, hphase, SettingsSync.stop?]
    | classifying s =>
      refine canGoOn_flow .proceed ?_
      simp only [Flows.step?, hphase, SettingsSync.proceed?]
      split <;> rfl
    | raising | ringing =>
      refine canGoOn_flow .proceed ?_
      simp [Flows.step?, hphase, SettingsSync.proceed?]
    | ended => simp [Flows.partEnded, SettingsSync.hasEnded, hphase] at h
  | router =>
    cases hphase : e.flows.router with
    | waiting =>
      refine canGoOn_flow .stop ?_
      simp [Flows.step?, hstop, hphase, Router.stop?]
    | routing p =>
      refine canGoOn_flow .proceed ?_
      cases p <;> simp [Flows.step?, hphase, Router.proceed?]
    | ended => simp [Flows.partEnded, Router.hasEnded, hphase] at h

theorem fanOut_goesOn (hstop : e.flows.stop = true) (h : e.partEnded .fanOut = false) :
    e.CanGoOn .fanOut := by
  cases hphase : e.fanOut.phase with
  | waiting =>
    refine ⟨.fanOut .stop, by simp [EnginePart.choices], ?_⟩
    simp [step?, hstop, stopFanOut?, hphase]
  | routing s | linking s =>
    refine ⟨.fanOut .proceed, by simp [EnginePart.choices], ?_⟩
    simp [step?, proceedFanOut?, hphase]
  | ended => simp [partEnded, FanOut.hasEnded, hphase] at h

theorem canGoOn_link (choice : LinkChoice) (hchoice : choice ≠ .read)
    (h : (e.link.step? choice).isSome = true) : e.CanGoOn .link := by
  refine ⟨.link choice, ?_, by simpa [step?] using h⟩
  cases choice <;> simp_all [EnginePart.choices]

/-- The link can have to wait for room. -/
theorem link_goesOn (hstop : e.link.stop = true) (h : e.partEnded .link = false) :
    e.CanGoOn .link ∨ ∃ move, e.link.Blocked move := by
  cases hphase : e.link.phase with
  | observing =>
    refine .inl (canGoOn_link .proceed LinkChoice.noConfusion ?_)
    simp [Link.step?, Link.proceed?, hphase]
  | opening _ | pausing _ | reading _ =>
    refine .inl (canGoOn_link .stop LinkChoice.noConfusion ?_)
    simp [Link.step?, hstop, Link.stop?, hphase]
  | delivering c moves served =>
    cases hproceed : e.link.proceed? with
    | some l =>
      refine .inl (canGoOn_link .proceed LinkChoice.noConfusion ?_)
      simp [Link.step?, hproceed]
    | none =>
      cases moves with
      | nil => simp [Link.proceed?, hphase, Link.deliver?] at hproceed
      | cons move rest => exact .inr ⟨move, ⟨c, rest, served, hphase⟩, hproceed⟩
  | ended => simp [partEnded, Link.hasEnded_iff.mpr hphase] at h

theorem watcher_goesOn (hstop : e.flows.stop = true) (h : e.partEnded .watcher = false) :
    e.CanGoOn .watcher ∨ e.Sleeps .watcher := by
  cases hw : e.watcher with
  | none => simp [partEnded, hw] at h
  | some w =>
    cases hphase : w.phase with
    | waiting =>
      refine .inl ⟨.watcher .stop, by simp [EnginePart.choices], ?_⟩
      simp [step?, hstop, hw, Watcher.stop?, hphase]
    | settling readAt =>
      refine .inr ⟨rfl, readAt, by simp [hw, Watcher.timer?, hphase], fun now hnow => ?_⟩
      refine ⟨.watcher .proceed, by simp [EnginePart.choices], ?_⟩
      simp only [step?, hw, Option.bind_some, Watcher.proceed?, hphase, if_pos hnow]
      split <;> rfl
    | comparing _ | publishing _ =>
      refine .inl ⟨.watcher .proceed, by simp [EnginePart.choices], ?_⟩
      simp [step?, hw, Watcher.proceed?, hphase]
    | ended => simp [partEnded, hw, Watcher.hasEnded_iff.mpr hphase] at h

/-- A router that has not ended can take up a move, or go on with its pass. -/
theorem router_goesOn (hgoing : e.flows.router ≠ .ended) {held : Move} {rest : List Move}
    (hitems : e.moves.items = held :: rest) :
    (e.step? (.flow .router .proceed)).isSome = true := by
  cases hphase : e.flows.router with
  | waiting =>
    simp [step?, stepFlow?, Flows.step?, hphase, Router.proceed?, Mailbox.receive, hitems]
  | routing p => cases p <;> simp [step?, stepFlow?, Flows.step?, hphase, Router.proceed?]
  | ended => exact absurd hphase hgoing

/-- Only the link can have to wait for another part, which is the router and can go on. -/
theorem Wired.goesOn (h : e.Wired) (hstop : e.flows.stop = true) (part : EnginePart)
    (hgoing : e.partEnded part = false) :
    e.CanGoOn part ∨ e.Sleeps part ∨
      part = .link ∧ (∃ move, e.link.Blocked move) ∧
        e.partEnded (.flow .router) = false ∧ e.CanGoOn (.flow .router) := by
  cases part with
  | flow name => exact .inl (flow_goesOn hstop name hgoing)
  | fanOut => exact .inl (fanOut_goesOn hstop hgoing)
  | watcher => exact (watcher_goesOn hstop hgoing).imp_right .inl
  | link =>
    obtain hgoes | ⟨move, hblocked⟩ := link_goesOn (h.signal hstop).1 hgoing
    · exact .inl hgoes
    obtain ⟨c, rest, held, -, hitems, hlistens⟩ := h.blocked hblocked
    have hrouter : e.partEnded (.flow .router) = false := by
      rw [← Bool.not_eq_true]
      intro hended
      simp [h.joins.gone.mpr (Router.hasEnded_iff.mp hended)] at hlistens
    exact .inr (.inr ⟨rfl, ⟨move, hblocked⟩, hrouter, flow_goesOn hstop .router hrouter⟩)

/-! ## Room for a move -/

def RoutersTurn (turn : Occurrence α) : Prop := ∃ choice, turn = .step (.flow .router choice)

/-- The one place of the mailbox is taken by the move. -/
structure Full (m : Mailbox Move) (held : Move) : Prop where
  capacity : m.capacity = 1
  items : m.items = [held]
  listens : m.receiverGone = false

/-- The link is at this point, with the mailbox of the router, which is at that point. -/
structure At (e : Engine α) (phase : LinkPhase) (m : Mailbox Move) (r : Router) : Prop where
  phase : e.link.phase = phase
  subscribers : e.link.subscribers = [m]
  router : e.flows.router = r

/-- The router has taken up the move before, or has gone away, and the link can give out the move it
    is at. -/
structure Freed (e : Engine α) (phase : LinkPhase) (held : Move) : Prop where
  phase : e.link.phase = phase
  router : e.flows.router = .routing (.begun held) ∨ e.moves.receiverGone = true
  goesOn : (e.step? (.link .proceed)).isSome = true

variable {c : Connection} {move held : Move} {rest : List Move} {m : Mailbox Move} {r : Router}

omit [AudioSystem α] in
theorem At.blocked (h : e.At (.delivering c (move :: rest) 0) m r) (hfull : Full m held) :
    e.link.Blocked move := by
  refine ⟨⟨c, rest, 0, h.phase⟩, ?_⟩
  simp [Link.proceed?, h.phase, Link.deliver?, h.subscribers, Mailbox.hasRoom, hfull.capacity,
    hfull.items, hfull.listens]

/-- Nothing but the router's own turns makes a difference to a blocked link and to the router. -/
theorem at_happen (h : e.At (.delivering c (move :: rest) 0) m r) (hfull : Full m held)
    {turn : Occurrence α} (hother : ¬ RoutersTurn turn) (hturn : e.happen? turn = some e') :
    e'.At (.delivering c (move :: rest) 0) m r := by
  cases turn with
  | step choice =>
    cases step_of_step? hturn with
    | flow step =>
      have hsubscribers := e.set_moves.trans h.subscribers
      cases step with
      | retires | takes | outlasts | routes | routed => exact absurd ⟨_, rfl⟩ hother
      | _ => exact ⟨h.phase, hsubscribers, h.router⟩
    | link step =>
      -- a blocked link cannot proceed or stop, but what it has not read still comes in
      have hnone := (h.blocked hfull).2
      cases step with
      | reads _ _ => exact ⟨h.phase, h.subscribers, h.router⟩
      | offers hphase hnext hfree =>
        simp [Link.proceed?, hphase, Link.deliver?, hnext, hfree] at hnone
      | served hphase hall => simp [Link.proceed?, hphase, Link.deliver?, hall] at hnone
      | stops _ hphase => simp [h.phase] at hphase
      | observes hphase | fails hphase | opens hphase | resumes hphase | decodes hphase
      | loses hphase | delivered hphase | leaves _ hphase | adopts hphase | reconnects hphase
      | settles hphase => simp [h.phase] at hphase
    | _ => exact ⟨h.phase, h.subscribers, h.router⟩
  | shutdown =>
    obtain ⟨-, rfl⟩ := shutdown_of_happen? hturn
    exact ⟨h.phase, h.subscribers, h.router⟩
  | _ =>
    cases hturn
    exact ⟨h.phase, h.subscribers, h.router⟩

omit [AudioSystem α] in
theorem gives_of_room {l : Link} (hphase : l.phase = .delivering c (move :: rest) 0)
    (hsubscribers : l.subscribers = [m]) (hfree : m.receiverGone = true ∨ m.hasRoom = true) :
    (l.step? .proceed).isSome = true := by
  simp [Link.step?, Link.proceed?, hphase, Link.deliver?, hsubscribers, hfree]

theorem freed_of_waiting (h : e.At (.delivering c (move :: rest) 0) m .waiting)
    (hfull : Full m held) {choice : Choice}
    (hstep : e.step? (.flow .router choice) = some e') :
    e'.Freed (.delivering c (move :: rest) 0) held := by
  have hm := moves_of_subscribers h.subscribers
  cases step_of_step? hstep with
  | @flow _ _ f' m' step =>
    have hsubscribers : e.link.subscribers.set 0 m' = [m'] := by rw [h.subscribers]; rfl
    cases step with
    | retires _ _ | outlasts _ _ _ =>
      refine ⟨h.phase, .inr (by rw [moves_of_subscribers hsubscribers]; rfl), ?_⟩
      exact Option.isSome_map.trans (gives_of_room h.phase hsubscribers (.inl rfl))
    | @takes move' rest' hphase hitems =>
      -- the move that is taken up is the one that was in the way
      rw [hm, hfull.items] at hitems
      cases hitems
      have hroom : ({ e.moves with items := [] } : Mailbox Move).hasRoom = true := by
        simp [Mailbox.hasRoom, hm, hfull.capacity]
      refine ⟨h.phase, .inl rfl, ?_⟩
      exact Option.isSome_map.trans (gives_of_room h.phase hsubscribers (.inr hroom))
    | routes hphase _ | routed hphase => cases h.router.symm.trans hphase

theorem at_of_routing {p : Pass} (h : e.At (.delivering c (move :: rest) 0) m (.routing p))
    {choice : Choice} (hstep : e.step? (.flow .router choice) = some e') :
    e'.At (.delivering c (move :: rest) 0) m .waiting ∨
    p.isFinished = false ∧ ∃ (mapping : SliderMapping) (mixer : Mixer α),
      e'.At (.delivering c (move :: rest) 0) m (.routing (p.step mapping mixer).1) := by
  cases step_of_step? hstep with
  | flow step =>
    have hsubscribers := e.set_moves.trans h.subscribers
    cases step with
    | routes hphase hunfinished =>
      cases h.router.symm.trans hphase
      exact .inr ⟨hunfinished, _, _, h.phase, hsubscribers, rfl⟩
    | routed _ => exact .inl ⟨h.phase, hsubscribers, rfl⟩
    | retires _ hphase | takes hphase | outlasts hphase => cases h.router.symm.trans hphase

/-- The link is blocked from here on, until it is freed. -/
def UntilFreed (states : Nat → Engine α) (phase : LinkPhase) (move held : Move) (n : Nat) : Prop :=
  ∃ k ≥ n, (∀ j, n ≤ j → j ≤ k → (states j).link.Blocked move) ∧ (states (k + 1)).Freed phase held

theorem UntilFreed.after {states : Nat → Engine α} {phase : LinkPhase} {n k : Nat}
    (h : UntilFreed states phase move held (k + 1)) (hk : k ≥ n)
    (hblocked : ∀ j, n ≤ j → j ≤ k → (states j).link.Blocked move) :
    UntilFreed states phase move held n := by
  obtain ⟨k', hk', hall, hfreed⟩ := h
  refine ⟨k', by omega, fun j hn hj => ?_, hfreed⟩
  obtain hle | hlt := Nat.lt_or_ge k j
  · exact hall j hle hj
  · exact hblocked j hn hlt

section Fair

variable {states : Nat → Engine α} {choices : Nat → Occurrence α} {n : Nat}
  (run : Run.Endless happen? states choices) (fair : Run.Fair happen? RoutersTurn states choices)
  (hfull : Full m held)

include run fair hfull

/-- The link is at its move until the router's next turn. -/
theorem at_of_fair (h : (states n).At (.delivering c (move :: rest) 0) m r) (hgoing : r ≠ .ended) :
    ∃ k ≥ n, (∀ j, n ≤ j → j ≤ k → (states j).At (.delivering c (move :: rest) 0) m r) ∧
      ∃ choice, (states k).step? (.flow .router choice) = some (states (k + 1)) := by
  -- the mailbox has a move for a waiting router, so that it always has a turn to take
  have able (e : Engine α) (he : e.At (.delivering c (move :: rest) 0) m r) :
      ∃ turn, RoutersTurn turn ∧ (e.happen? turn).isSome = true := by
    have hitems : e.moves.items = [held] := by
      rw [moves_of_subscribers he.subscribers]
      exact hfull.items
    exact ⟨_, ⟨.proceed, rfl⟩, router_goesOn (he.router ▸ hgoing) hitems⟩
  obtain ⟨k, hk, hall, choice, hchoice⟩ := fair.next run able
    (fun e turn e' he hother hturn => at_happen he hfull hother hturn) h
  have hturn := run k
  rw [hchoice] at hturn
  exact ⟨k, hk, hall, choice, hturn⟩

theorem freed_of_fair_waiting (h : (states n).At (.delivering c (move :: rest) 0) m .waiting) :
    UntilFreed states (.delivering c (move :: rest) 0) move held n := by
  obtain ⟨k, hk, hall, choice, hstep⟩ := at_of_fair run fair hfull h Router.noConfusion
  exact ⟨k, hk, fun j hn hj => (hall j hn hj).blocked hfull,
    freed_of_waiting (hall k hk (Nat.le_refl k)) hfull hstep⟩

/-- The router comes to the end of its pass, and then to the move in its mailbox. -/
theorem freed_of_fair_routing {p : Pass} (hends : p.Ends α)
    (h : (states n).At (.delivering c (move :: rest) 0) m (.routing p)) :
    UntilFreed states (.delivering c (move :: rest) 0) move held n := by
  -- on how the pass ends: each of its steps is one turn of the router, and the link stays blocked
  -- from one turn to the next
  induction hends generalizing n with
  | finished o =>
    obtain ⟨k, hk, hall, choice, hstep⟩ := at_of_fair run fair hfull h Router.noConfusion
    obtain hwaiting | ⟨hunfinished, -⟩ := at_of_routing (hall k hk (Nat.le_refl k)) hstep
    · exact (freed_of_fair_waiting run fair hfull hwaiting).after hk
        fun j hn hj => (hall j hn hj).blocked hfull
    · cases hunfinished
  | step _ ih =>
    obtain ⟨k, hk, hall, choice, hstep⟩ := at_of_fair run fair hfull h Router.noConfusion
    refine .after ?_ hk fun j hn hj => (hall j hn hj).blocked hfull
    obtain hwaiting | ⟨-, mapping, mixer, hrouting⟩ :=
      at_of_routing (hall k hk (Nat.le_refl k)) hstep
    · exact freed_of_fair_waiting run fair hfull hwaiting
    · exact ih mapping mixer hrouting

end Fair

/-- A blocked link is freed in every run that is fair to the router. -/
theorem Wired.freed {states : Nat → Engine α} {choices : Nat → Occurrence α}
    (h : (states 0).Wired) (hblocked : (states 0).link.Blocked move)
    (run : Run.Endless happen? states choices)
    (fair : Run.Fair happen? RoutersTurn states choices) :
    ∃ held, (states 0).moves.items = [held] ∧
      UntilFreed states (states 0).link.phase move held 0 := by
  obtain ⟨c, rest, held, hphase, hitems, hlistens⟩ := h.blocked hblocked
  have hfull : Full (states 0).moves held := ⟨h.joins.capacity, hitems, hlistens⟩
  refine ⟨held, hitems, ?_⟩
  rw [hphase]
  cases hrouter : (states 0).flows.router with
  | waiting => exact freed_of_fair_waiting run fair hfull ⟨hphase, h.subscribers, hrouter⟩
  | routing p => exact freed_of_fair_routing run fair hfull p.ends ⟨hphase, h.subscribers, hrouter⟩
  | ended => simp [h.joins.gone.mpr hrouter] at hlistens

variable {x : Engine α} {settings : Settings} {audio : α} {focus : Focus} {board : Board}
  {options : EngineOptions} {turns : List (Occurrence α)}

/-- In every run of a started engine, from the stop signal on: as long as not all parts have ended,
    one that has not can go on, or waits for its timer.  Each of them can, but for a link that waits
    until the router, which can go on, takes up a move or goes away; and it does, in every run that
    is fair to the router.  Whatever is under way comes to its end. -/
theorem no_standstill (hstart : Engine.start settings audio focus board options = .ok e)
    (watcher : Option Watcher) (hrun : Run.after? happen? { e with watcher } turns = some x)
    (hstop : x.flows.stop = true) :
    (x.allEnded = false → ∃ part, x.partEnded part = false ∧ (x.CanGoOn part ∨ x.Sleeps part)) ∧
    (∀ part, x.partEnded part = false → x.CanGoOn part ∨ x.Sleeps part ∨
      part = .link ∧ (∃ move, x.link.Blocked move) ∧
        x.partEnded (.flow .router) = false ∧ x.CanGoOn (.flow .router)) ∧
    (∀ move, x.link.Blocked move → ∀ states choices, states 0 = x →
      Run.Endless happen? states choices → Run.Fair happen? RoutersTurn states choices →
        ∃ held, x.moves.items = [held] ∧ UntilFreed states x.link.phase move held 0) ∧
    (∀ c ∈ x.callers, c.Ends α) ∧
    (∀ p, x.flows.router = .routing p → p.Ends α) ∧
    (x.allEnded = true → ∃ n z, Run.after? happen? x (List.replicate n (.step .close)) = some z ∧
      z.outcome?.isSome = true) := by
  have hwired : x.Wired := Run.invariant (wired_start hstart watcher)
    (fun _ _ _ h hturn => wired_happen h hturn) hrun
  refine ⟨fun hgoing => ?_, hwired.goesOn hstop, ?_, fun c _ => c.ends, fun p _ => p.ends,
    closes hstart watcher hrun (hwired.signal hstop).2⟩
  · obtain ⟨part, hpart⟩ := allEnded_eq_false hgoing
    obtain hgoes | hsleeps | ⟨-, -, hrouter, hgoes⟩ := hwired.goesOn hstop part hpart
    · exact ⟨part, hpart, .inl hgoes⟩
    · exact ⟨part, hpart, .inr hsleeps⟩
    · exact ⟨.flow .router, hrouter, .inl hgoes⟩
  · rintro move hblocked states choices rfl run fair
    exact hwired.freed hblocked run fair

/-- The engine is told to stop while the link is blocked: the router has not yet taken up the first
    of two moves. -/
theorem no_standstill_blocked :
    let audio := ((MemoryAudio.new .polling).addSession "speakers" masterKey defaultVolume).2
    -- the line 512|300
    let board : Board :=
      (({} : Board).pushStream { waiting := [53, 49, 50, 124, 51, 48, 48, 13, 10] }).2
    let link (choice : LinkChoice) : Occurrence MemoryAudio := .step (.link choice)
    let turns : List (Occurrence MemoryAudio) :=
      [link .proceed, link .proceed, link .read, link .read, link .proceed, link .proceed,
        link .proceed, .shutdown]
    ∃ e ∈ (Engine.start {} audio {} board {}).toOption,
      ∃ x ∈ Run.after? happen? { e with watcher := none } turns,
        ¬ x.CanGoOn .link ∧ x.allEnded = false ∧ (∃ move, x.link.Blocked move) ∧
          x.CanGoOn (.flow .router) := by
  intro audio board link turns
  have hrun : ∃ e ∈ (Engine.start {} audio {} board {}).toOption,
      ∃ x ∈ Run.after? happen? { e with watcher := none } turns,
        x.flows.stop = true ∧ x.partEnded .link = false ∧ x.allEnded = false ∧
        ¬ x.CanGoOn .link := by
    decide +kernel
  obtain ⟨e, hstart, x, hx, hstop, hlink, hgoing, hwaits⟩ := hrun
  obtain ⟨-, hparts, -⟩ := no_standstill (eq_ok_of_mem_toOption hstart) none hx hstop
  obtain hgoes | ⟨hother, -⟩ | ⟨-, hblocked, -, hrouter⟩ := hparts .link hlink
  · exact absurd hgoes hwaits
  · cases hother
  · exact ⟨e, hstart, x, hx, hwaits, hgoing, hblocked, hrouter⟩

end Engine

end SliderMixer
