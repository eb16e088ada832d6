import SliderMixer.Proofs.Subscribers

/-! # Heeding the stop signal

The link heeds the stop signal at the port, in a pause, and between two lines.  The moves of a line
it gives out first, and for that it may have to wait.

* `Link.WaitsFor`: the link has a move for a subscriber that has not taken the one before.
* `Link.goesOn_iff`: for nothing else does it ever wait; `Link.WaitsFor.attended`: nobody else ends
  that.
* `Link.patience`: how many steps it takes until it heeds the signal.
* `Link.heeds_iff_not_waiting`: what that means for every run; `Link.stop_unheeded`: a run in which
  the signal is not heeded.
-/

namespace SliderMixer

/-- The link itself makes the turn; the reader of the connection goes on beside it. -/
def AudienceTurn.isOwn : AudienceTurn → Bool
  | link (.step .read) => false
  | link (.step _) => true
  | link _ | take _ | leave _ => false

theorem AudienceTurn.eq_step_of_isOwn {turn : AudienceTurn} (h : turn.isOwn = true) :
    ∃ choice, choice ≠ .read ∧ turn = .link (.step choice) := by
  unfold isOwn at h
  split at h
  · cases h
  · next choice hchoice => exact ⟨choice, fun hread => hchoice (by rw [hread]), rfl⟩
  all_goals cases h

namespace Link

variable {l l' : Link} {turn : AudienceTurn} {i : Nat}

/-- The signal was given, and the link has not ended. -/
structure Signalled (l : Link) : Prop where
  stop : l.stop = true
  going : l.hasEnded = false

def GoesOn (l : Link) : Prop := ∃ turn, turn.isOwn = true ∧ (l.attended? turn).isSome = true

def WaitsFor (l : Link) (i : Nat) : Prop :=
  ∃ c move rest m held, l.phase = .delivering c (move :: rest) i ∧ l.subscribers[i]? = some m ∧
    m.items = [held] ∧ m.receiverGone = false

/-! ## Waiting -/

theorem goesOn_of_step {choice : LinkChoice} (hown : choice ≠ .read) (h : l.Step choice l') :
    l.GoesOn := by
  refine ⟨.link (.step choice), ?_, ?_⟩
  · cases choice <;> simp_all [AudienceTurn.isOwn]
  · have hstep : l.attended? (.link (.step choice)) = some l' := step?_of_step h
    simp [hstep]

/-- A link that waits does nothing itself. -/
theorem WaitsFor.choice_eq_read (h : l.WaitsFor i) (hnarrow : l.Narrow) {choice : LinkChoice}
    (hstep : l.Step choice l') : choice = .read := by
  obtain ⟨c, move, rest, m, held, hphase, hm, hitems, hhere⟩ := h
  cases hstep with
  | offers hphase' hnext hfree =>
    rw [hphase] at hphase'
    cases hphase'
    cases hm.symm.trans hnext
    simp [hhere, Mailbox.hasRoom, hitems, (hnarrow i m hm).capacity] at hfree
  | served hphase' hall =>
    rw [hphase] at hphase'
    cases hphase'
    simp [hm] at hall
  | stops _ hphase' =>
    obtain ⟨c, hphase'⟩ | ⟨resumeAt, hphase'⟩ := hphase' <;> simp [hphase] at hphase'
  | reads _ _ => rfl
  | observes hphase' | fails hphase' _ | opens hphase' _ | resumes hphase' _
  | decodes hphase' _ _ | loses hphase' _ _ | delivered hphase' | leaves _ hphase'
  | adopts hphase' _ _ | reconnects hphase' _ _ | settles hphase' _ _ _ =>
    simp [hphase] at hphase'

/-- Told to stop, the link waits for nothing but a subscriber. -/
theorem goesOn_iff (hnarrow : l.Narrow) (h : l.Signalled) :
    l.GoesOn ↔ ∀ i, ¬ l.WaitsFor i := by
  constructor
  · rintro ⟨turn, hown, hsome⟩ i hwaits
    obtain ⟨choice, hchoice, rfl⟩ := AudienceTurn.eq_step_of_isOwn hown
    obtain ⟨l', hturn⟩ := Option.isSome_iff_exists.mp hsome
    exact hchoice (hwaits.choice_eq_read hnarrow (step_of_step? hturn))
  · intro hfree
    cases hphase : l.phase with
    | observing => exact goesOn_of_step LinkChoice.noConfusion (.observes hphase)
    | opening c => exact goesOn_of_step LinkChoice.noConfusion (.stops h.stop (.inl ⟨c, hphase⟩))
    | pausing resumeAt =>
      exact goesOn_of_step LinkChoice.noConfusion (.stops h.stop (.inr ⟨resumeAt, hphase⟩))
    | reading c => exact goesOn_of_step LinkChoice.noConfusion (.leaves h.stop hphase)
    -- the only place where the signal does not help
    | delivering c moves served =>
      cases moves with
      | nil => exact goesOn_of_step LinkChoice.noConfusion (.delivered hphase)
      | cons move rest =>
        cases hm : l.subscribers[served]? with
        | none => exact goesOn_of_step LinkChoice.noConfusion (.served hphase hm)
        | some m =>
          refine goesOn_of_step LinkChoice.noConfusion (.offers hphase hm ?_)
          -- a mailbox without room holds one move, since it has one place
          by_contra hfull
          simp only [not_or, Bool.not_eq_true] at hfull
          have hone : m.items.length = 1 := by
            have hroom := (hnarrow served m hm).room
            have hfull := hfull.2
            simp only [Mailbox.hasRoom, (hnarrow served m hm).capacity, decide_eq_false_iff_not]
              at hfull
            omega
          obtain ⟨held, hitems⟩ := List.length_eq_one_iff.mp hone
          exact hfree served ⟨c, move, rest, m, held, hphase, hm, hitems, hfull.1⟩
    | ended => simpa [hasEnded, hphase] using h.going

/-- Only the subscriber itself ends the wait, by whatever it does. -/
theorem WaitsFor.attended (h : l.WaitsFor i) (hnarrow : l.Narrow)
    (hturn : l.attended? turn = some l') :
    (turn.isBy i = false → l'.WaitsFor i) ∧ (turn.isBy i = true → l'.GoesOn) := by
  have hread {choice : LinkChoice} (hstep : l.Step choice l') : choice = .read :=
    h.choice_eq_read hnarrow hstep
  obtain ⟨c, move, rest, m, held, hphase, hm, hitems, hhere⟩ := h
  have hlt := (List.getElem?_eq_some_iff.mp hm).1
  cases attended_of_attended? hturn with
  | step step =>
    refine ⟨fun _ => ?_, fun hby => Bool.noConfusion hby⟩
    obtain rfl := hread step
    cases step with
    | reads _ _ => exact ⟨c, move, rest, m, held, hphase, hm, hitems, hhere⟩
  | around _ _ _ _ _ =>
    exact ⟨fun _ => ⟨c, move, rest, m, held, hphase, hm, hitems, hhere⟩,
      fun hby => Bool.noConfusion hby⟩
  | @takes j m' move' rest' hm' hitems' =>
    simp only [AudienceTurn.isBy, beq_eq_false_iff_ne, beq_iff_eq]
    refine ⟨fun hj => ⟨c, move, rest, m, held, hphase, by simp [hj, hm], hitems, hhere⟩, ?_⟩
    rintro rfl
    cases hm.symm.trans hm'
    cases hitems.symm.trans hitems'
    refine goesOn_of_step LinkChoice.noConfusion
      (.offers hphase (List.getElem?_set_self hlt) (.inr ?_))
    simp [Mailbox.hasRoom, (hnarrow j m hm).capacity]
  | leaves j =>
    simp only [AudienceTurn.isBy, beq_eq_false_iff_ne, beq_iff_eq]
    refine ⟨fun hj => ⟨c, move, rest, m, held, hphase, by simp [getElem?_unsubscribe, hj, hm],
      hitems, hhere⟩, ?_⟩
    rintro rfl
    have hgone : (l.unsubscribe j).subscribers[j]? = some m.dropReceiver := by
      simp [getElem?_unsubscribe, hm]
    exact goesOn_of_step LinkChoice.noConfusion (.offers hphase hgone (.inl rfl))

/-! ## Patience -/

/-- How many steps the link takes until it heeds the stop signal. -/
def patience (l : Link) : Nat :=
  match l.phase with
  | .observing => 1
  | .delivering _ [] _ => 1
  | .delivering _ (_ :: rest) served =>
    -- each of the other moves is offered to everybody, and one more step goes on to the next move
    rest.length * (l.subscribers.length + 1) + (l.subscribers.length - served) + 2
  | .opening _ | .pausing _ | .reading _ | .ended => 0

theorem Signalled.heeds_iff (h : l.Signalled) :
    (l.step? .stop).isSome = true ↔ l.patience = 0 := by
  have hgoing := h.going
  cases hphase : l.phase with
  | ended => simp [hasEnded, hphase] at hgoing
  | delivering c moves served => cases moves <;> simp [step?, h.stop, stop?, patience, hphase]
  | _ => simp [step?, h.stop, stop?, patience, hphase]

theorem Step.patience {choice : LinkChoice} (h : l.Step choice l') (hpatience : 0 < l.patience) :
    l.patience = l'.patience + (if choice = .read then 0 else 1) ∧ l'.hasEnded = l.hasEnded := by
  cases h with
  | observes hphase => simp [Link.patience, hasEnded, observe, hphase]
  | delivered hphase => simp [Link.patience, hasEnded, hphase]
  | @served c move rest served hphase hall =>
    have hserved : l.subscribers.length - served = 0 := by
      have := List.getElem?_eq_none_iff.mp hall
      omega
    refine ⟨?_, by simp [hasEnded, hphase]⟩
    cases rest with
    | nil => simp [Link.patience, hphase, hserved]
    | cons next rest =>
      simp only [Link.patience, hphase, hserved, List.length_cons, Nat.sub_zero, Nat.add_zero,
        reduceCtorEq, if_false]
      rw [Nat.succ_mul]
      omega
  | @offers c move rest served m hphase hnext hfree =>
    have hlt := (List.getElem?_eq_some_iff.mp hnext).1
    refine ⟨?_, by simp [hasEnded, hphase]⟩
    simp only [Link.patience, hphase, List.length_set, reduceCtorEq, if_false]
    omega
  | stops _ hphase =>
    obtain ⟨c, hphase⟩ | ⟨resumeAt, hphase⟩ := hphase <;> simp [Link.patience, hphase] at hpatience
  | fails hphase _ | opens hphase _ | resumes hphase _ | decodes hphase _ _ | loses hphase _ _
  | leaves _ hphase | adopts hphase _ _ | reconnects hphase _ _ | settles hphase _ _ _ =>
    simp [Link.patience, hphase] at hpatience
  | reads _ _ => exact ⟨rfl, rfl⟩

theorem Signalled.step {choice : LinkChoice} (h : l.Signalled)
    (hpatience : choice ≠ .read → 0 < l.patience) (hstep : l.Step choice l') :
    l'.Signalled ∧ l.patience = l'.patience + if choice = .read then 0 else 1 := by
  by_cases hread : choice = .read
  · subst hread
    cases hstep with
    | reads _ _ => exact ⟨⟨h.stop, h.going⟩, rfl⟩
  · obtain ⟨hless, hended⟩ := hstep.patience (hpatience hread)
    exact ⟨⟨hstep.stop.trans h.stop, hended.trans h.going⟩, hless⟩

/-- Every step of the link brings it nearer, and nothing else matters. -/
theorem Signalled.attended (h : l.Signalled) (hpatience : turn.isOwn = true → 0 < l.patience)
    (hturn : l.attended? turn = some l') :
    l'.Signalled ∧ l.patience = l'.patience + if turn.isOwn then 1 else 0 := by
  cases turn with
  | link turn =>
    cases turn with
    | step choice =>
      have := h.step (by cases choice <;> simp_all [AudienceTurn.isOwn]) (step_of_step? hturn)
      cases choice <;> exact this
    | subscribers _ => cases hturn
    | stop =>
      cases hturn
      exact ⟨⟨rfl, h.going⟩, rfl⟩
    | publish _ | close | board _ | clock _ =>
      cases hturn
      exact ⟨⟨h.stop, h.going⟩, rfl⟩
  | take i =>
    obtain ⟨m, move, rest, -, -, rfl⟩ := take_of_attended? hturn
    exact ⟨⟨h.stop, h.going⟩, by simp [patience, AudienceTurn.isOwn]⟩
  | leave i =>
    cases hturn
    exact ⟨⟨h.stop, h.going⟩, by simp [patience, unsubscribe, AudienceTurn.isOwn]⟩

/-! ## Runs -/

variable {turns : List AudienceTurn}

/-- The wait lasts until the subscriber does something. -/
theorem WaitsFor.run (h : l.WaitsFor i) (hnarrow : l.Narrow)
    (hothers : ∀ turn ∈ turns, turn.isBy i = false)
    (hrun : Run.after? attended? l turns = some l') :
    l'.WaitsFor i := by
  induction turns generalizing l with
  | nil =>
    cases hrun
    exact h
  | cons turn rest ih =>
    obtain ⟨u, hturn, hrun⟩ := Option.bind_eq_some_iff.mp (Run.after?_cons _ _ _ _ ▸ hrun)
    simp only [List.forall_mem_cons] at hothers
    exact ih ((h.attended hnarrow hturn).1 hothers.1)
      (narrow_attended hnarrow (attended_of_attended? hturn)) hothers.2 hrun

/-- As long as the patience lasts, every step of the link uses some of it up. -/
theorem Signalled.run (h : l.Signalled) (hown : turns.countP AudienceTurn.isOwn ≤ l.patience)
    (hrun : Run.after? attended? l turns = some l') :
    l'.Signalled ∧ l.patience = l'.patience + turns.countP AudienceTurn.isOwn := by
  induction turns generalizing l with
  | nil =>
    cases hrun
    exact ⟨h, rfl⟩
  | cons turn rest ih =>
    obtain ⟨u, hturn, hrun⟩ := Option.bind_eq_some_iff.mp (Run.after?_cons _ _ _ _ ▸ hrun)
    rw [List.countP_cons] at hown ⊢
    have hpatience : turn.isOwn = true → 0 < l.patience := by
      intro hturn
      rw [if_pos hturn] at hown
      omega
    obtain ⟨hu, hless⟩ := h.attended hpatience hturn
    obtain ⟨hl', hrest⟩ := ih hu (by omega) hrun
    exact ⟨hl', by omega⟩

/-- The signal was given, and the link has not ended.  It goes on exactly if it waits for no
    subscriber; where it waits for one, it does until that one takes a move or leaves.  It heeds the
    signal once its patience is used up, which takes that many steps of its own and nothing else. -/
theorem heeds_iff_not_waiting {settings : LinkSettings} {board : Board} {timing : LinkTiming}
    {subscribers : Nat} {turns : List AudienceTurn}
    (hrun : Run.after? attended? (.new settings board timing subscribers) turns = some l)
    (hstop : l.stop = true) (hgoing : l.hasEnded = false) :
    (l.GoesOn ↔ ∀ i, ¬ l.WaitsFor i) ∧
    (∀ i, l.WaitsFor i →
      (∀ more l', (∀ turn ∈ more, turn.isBy i = false) → Run.after? attended? l more = some l' →
        l'.WaitsFor i) ∧
      ∀ turn l', turn.isBy i = true → l.attended? turn = some l' → l'.GoesOn) ∧
    (∀ more l', more.countP AudienceTurn.isOwn ≤ l.patience →
      Run.after? attended? l more = some l' →
      l.patience = l'.patience + more.countP AudienceTurn.isOwn ∧
      ((l'.step? .stop).isSome = true ↔ l'.patience = 0)) := by
  have hnarrow : l.Narrow := Run.invariant (narrow_new settings board timing subscribers)
    (fun _ _ _ h hturn => narrow_attended h (attended_of_attended? hturn)) hrun
  refine ⟨goesOn_iff hnarrow ⟨hstop, hgoing⟩, fun i hwaits => ⟨fun more l' => hwaits.run hnarrow,
    fun turn l' hby hturn => (hwaits.attended hnarrow hturn).2 hby⟩, fun more l' hown hmore => ?_⟩
  obtain ⟨hsignalled, hless⟩ := Signalled.run ⟨hstop, hgoing⟩ hown hmore
  exact ⟨hless, hsignalled.heeds_iff⟩

/-- Up to the stop signal in the middle of a line; the first move waits to be taken. -/
def untilStop : List AudienceTurn :=
  [.link (.step .proceed), .link (.step .proceed), .link (.board (.write 0 [53, 124, 55, 10])),
    .link (.step .read), .link (.step .read), .link (.step .proceed), .link (.step .proceed),
    .link (.step .proceed), .link .stop]

/-- The link waits; once the move is taken, it heeds the signal after three steps. -/
theorem heeds_after_take :
    let board : Board := { script := [.stream 0], streams := [{}] }
    let more := .take 0 :: List.replicate 3 (.link (.step .proceed))
    ∃ l ∈ Run.after? attended? (.new {} board {} 1) untilStop, (∃ i, l.WaitsFor i) ∧
      ∃ l' ∈ Run.after? attended? l more, (l'.step? .stop).isSome = true := by
  intro board more
  have hrun : ∃ l ∈ Run.after? attended? (.new {} board {} 1) untilStop,
      l.stop = true ∧ l.hasEnded = false ∧ l.patience = 3 ∧
      (∀ choice ∈ order, l.step? choice = none) ∧
      (Run.after? attended? l more).isSome = true := by decide +kernel
  obtain ⟨l, hl, hstop, hgoing, hpatience, hstuck, hmore⟩ := hrun
  obtain ⟨l', hl'⟩ := Option.isSome_iff_exists.mp hmore
  obtain ⟨hgoes, -, hheeds⟩ := heeds_iff_not_waiting hl hstop hgoing
  refine ⟨l, hl, ?_, l', hl', ?_⟩
  · by_contra hfree
    obtain ⟨turn, hown, hsome⟩ := hgoes.mpr (not_exists.mp hfree)
    obtain ⟨choice, -, rfl⟩ := AudienceTurn.eq_step_of_isOwn hown
    have hchoice : l.step? choice = none := hstuck choice (by cases choice <;> decide)
    simp [attended?, turn?, hchoice] at hsome
  · have hcount : more.countP AudienceTurn.isOwn = 3 := by decide
    obtain ⟨hless, hheeds⟩ := hheeds more l' (by omega) hl'
    exact hheeds.mpr (by omega)

/-- A subscriber that takes no move keeps the link from heeding the signal. -/
theorem stop_unheeded :
    let board : Board := { script := [.stream 0], streams := [{}] }
    ∃ l ∈ Run.after? attended? (.new {} board {} 1) untilStop,
      l.stop = true ∧ l.hasEnded = false ∧ l.subscribers.any (·.receiverGone) = false ∧
        ∀ choice ∈ order, l.step? choice = none := by
  decide +kernel

end Link

end SliderMixer
