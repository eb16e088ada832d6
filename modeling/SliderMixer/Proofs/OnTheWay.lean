import SliderMixer.Proofs.EngineSteps

/-! # Moves on their way

A move is found by the link, waits for room with the router, and is taken up by the router when that
is done with the move before it.

* `Link.undelivered`: the moves found and not yet given out; `delivers_step`: no step of the link
  loses one.
* `Router.begun`: the move taken up, whose targets are to be looked up.
* `Queued`: the moves found are those looked up and those on their way, in order; `Queued.flow`: the
  router takes them up in order, until it ends.
-/

namespace SliderMixer

/-! ## Link -/

namespace Link

/-- The moves of the last line that have not been given out. -/
def undelivered (l : Link) : List Move :=
  match l.phase with
  | .delivering _ moves 0 => moves
  | .delivering _ moves (_ + 1) => moves.tail
  | .observing | .opening _ | .pausing _ | .reading _ | .ended => []

variable {l l' : Link} {choice : LinkChoice} {m : Mailbox Move}

/-- As long as the one subscriber listens, what it has to receive and what is not yet given out are
    the moves found, in order. -/
theorem delivers_step (hm : l.subscribers = [m]) (h : l.Step choice l') :
    ∃ m', l'.subscribers = [m'] ∧ m'.receiverGone = m.receiverGone ∧
      (m.receiverGone = false →
        m'.items ++ l'.undelivered = m.items ++ l.undelivered ++ l.decoded (.step choice)) := by
  cases h with
  | observes hphase | fails hphase _ | opens hphase _ | resumes hphase _ =>
    refine ⟨m, hm, rfl, fun _ => ?_⟩
    rw [decoded_of_none (by simp [line?, hphase])]
    simp [undelivered, observe, hphase]
  | decodes hphase hreader hitems =>
    refine ⟨m, hm, rfl, fun _ => ?_⟩
    rw [decoded_of_line (line?_of_items hphase hreader hitems)]
    simp [undelivered, hphase]
  | loses hphase hreader hlost =>
    refine ⟨m, hm, rfl, fun _ => ?_⟩
    rw [decoded_of_none (line?_of_lost hreader hlost)]
    simp [undelivered, lose, hphase]
  | @delivered c served hphase =>
    refine ⟨m, hm, rfl, fun _ => ?_⟩
    rw [decoded_of_none (by simp [line?, hphase])]
    cases served <;> simp [undelivered, hphase]
  | @served c move rest served hphase hall =>
    refine ⟨m, hm, rfl, fun _ => ?_⟩
    rw [decoded_of_none (by simp [line?, hphase])]
    cases served with
    | zero => simp [hm] at hall
    | succ n => simp [undelivered, hphase]
  | @offers c move rest served m' hphase hnext hfree =>
    obtain ⟨rfl, rfl⟩ := only_subscriber hm hnext
    refine ⟨(m'.offer move).2, by simp [hm], ?_, fun hlistens => ?_⟩
    · unfold Mailbox.offer
      split
      · rfl
      · split <;> rfl
    · have hroom : m'.hasRoom = true := by simpa [hlistens] using hfree
      rw [decoded_of_none (by simp [line?, hphase])]
      simp [undelivered, hphase, Mailbox.offer, hlistens, hroom]
  | stops hsignal hphase =>
    refine ⟨m.dropSender, by simp [finish, hm], rfl, fun _ => ?_⟩
    rw [decoded_of_none rfl]
    obtain ⟨c, hphase⟩ | ⟨resumeAt, hphase⟩ := hphase <;>
      simp [undelivered, finish, Mailbox.dropSender, hphase]
  | leaves hsignal hphase =>
    refine ⟨m.dropSender, by simp [finish, leave, publish, hm], rfl, fun _ => ?_⟩
    rw [decoded_of_none rfl]
    simp [undelivered, finish, Mailbox.dropSender, hphase]
  | adopts hphase _ _ | reconnects hphase _ _ =>
    refine ⟨m, hm, rfl, fun _ => ?_⟩
    rw [decoded_of_none rfl]
    simp [undelivered, hphase]
  | settles hphase _ _ _ =>
    refine ⟨m, hm, rfl, fun _ => ?_⟩
    rw [decoded_of_none rfl, List.append_nil]
    rfl
  | reads hreader hread =>
    refine ⟨m, hm, rfl, fun _ => ?_⟩
    rw [decoded_of_none rfl, List.append_nil]
    rfl

end Link

/-! ## Router -/

variable {α : Type} [AudioSystem α]

theorem Pass.step_ne_begun (p : Pass) (mapping : SliderMapping) (m : Mixer α) (move : Move) :
    (p.step mapping m).1 ≠ .begun move := by
  unfold step
  split
  · split <;> simp
  · simp
  · split <;> simp
  all_goals simp

/-- The mapping is looked at once, when the pass begins. -/
theorem Pass.step_of_ne_begun {p : Pass} (h : ∀ move, p ≠ .begun move)
    (mapping mapping' : SliderMapping) (m : Mixer α) : p.step mapping m = p.step mapping' m := by
  cases p with
  | begun move => exact absurd rfl (h move)
  | visiting move visits outcome => cases visits <;> rfl
  | raising _ _ | ringing _ | finished _ => rfl

namespace Router

/-- The move whose targets are to be looked up. -/
def begun : Router → List Move
  | routing (.begun move) => [move]
  | waiting | routing _ | ended => []

theorem begun_eq_nil {p : Pass} (h : ∀ move, p ≠ .begun move) : (routing p).begun = [] := by
  cases p with
  | begun move => exact absurd rfl (h move)
  | _ => rfl

end Router

/-! ## In order -/

/-- As long as the router listens, the moves found are those it has looked up and those on their way
    to it. -/
structure Queued (l : Link) (r : Router) (found lookedUp : List Move) : Prop where
  mailbox : ∃ m, l.subscribers = [m] ∧ (m.receiverGone = true → r = .ended) ∧
    (m.receiverGone = false → found = lookedUp ++ r.begun ++ (m.items ++ l.undelivered))
  first : lookedUp <+: found

namespace Queued

variable {l l' : Link} {r r' : Router} {found lookedUp : List Move}

theorem congr (h : Queued l r found lookedUp) (hsubscribers : l'.subscribers = l.subscribers)
    (hundelivered : l'.undelivered = l.undelivered) : Queued l' r found lookedUp := by
  refine ⟨?_, h.first⟩
  rw [hsubscribers, hundelivered]
  exact h.mailbox

theorem link (h : Queued l r found lookedUp) {choice : LinkChoice} (hstep : l.Step choice l') :
    Queued l' r (found ++ l.decoded (.step choice)) lookedUp := by
  obtain ⟨m, hm, hgone, horder⟩ := h.mailbox
  obtain ⟨m', hm', hsame, hitems⟩ := Link.delivers_step hm hstep
  refine ⟨⟨m', hm', fun hgone' => hgone (hsame ▸ hgone'), fun hlistens' => ?_⟩,
    h.first.trans (List.prefix_append _ _)⟩
  have hlistens : m.receiverGone = false := hsame ▸ hlistens'
  rw [horder hlistens, hitems hlistens, List.append_assoc (lookedUp ++ r.begun)]

/-- The router and its mailbox have the same moves before them as they had. -/
theorem goOn {moves : Mailbox Move} {lookedUp' : List Move} (h : Queued l r found lookedUp)
    (hgoes : r ≠ .ended)
    (hsame : moves.receiverGone = (l.subscribers.headD { capacity := 1 }).receiverGone)
    (hmoves : lookedUp' ++ r'.begun ++ moves.items =
      lookedUp ++ r.begun ++ (l.subscribers.headD { capacity := 1 }).items) :
    Queued { l with subscribers := l.subscribers.set 0 moves } r' found lookedUp' := by
  obtain ⟨m, hm, hgone, horder⟩ := h.mailbox
  simp only [hm, List.headD_cons] at hsame hmoves
  have hlistens : m.receiverGone = false := by
    rw [← Bool.not_eq_true]
    exact fun hgone' => hgoes (hgone hgone')
  have hfound : found = lookedUp' ++ r'.begun ++ (moves.items ++ l.undelivered) := by
    rw [horder hlistens, ← List.append_assoc, ← hmoves, List.append_assoc]
  refine ⟨⟨moves, by simp [hm], fun hgone' => ?_, fun _ => hfound⟩, ?_⟩
  · simp [hsame, hlistens] at hgone'
  · rw [hfound, List.append_assoc]
    exact List.prefix_append _ _

/-- Nothing is looked up any more. -/
theorem stop {moves : Mailbox Move} (h : Queued l r found lookedUp)
    (hgone : moves.receiverGone = true) :
    Queued { l with subscribers := l.subscribers.set 0 moves } .ended found lookedUp := by
  obtain ⟨m, hm, -⟩ := h.mailbox
  refine ⟨⟨moves, by simp [hm], fun _ => rfl, fun hlistens => ?_⟩, h.first⟩
  simp [hgone] at hlistens

/-- The router takes up the move that has waited longest, or goes on with the one it has, unless
    nothing can come any more. -/
theorem flow {f f' : Flows α} {moves : Mailbox Move} {name : FlowName} {choice : Choice}
    (h : Queued l f.router found lookedUp)
    (hstep : f.Step (l.subscribers.headD { capacity := 1 }) name choice f' moves) :
    Queued { l with subscribers := l.subscribers.set 0 moves } f'.router found
      (lookedUp ++ if name = .router ∧ choice = .proceed then f.router.begun else []) := by
  have hsame : Queued { l with
      subscribers := l.subscribers.set 0 (l.subscribers.headD { capacity := 1 }) } f.router found
      lookedUp := by
    obtain ⟨m, hm, -⟩ := h.mailbox
    exact h.congr (by simp [hm]) rfl
  cases hstep with
  | retires => simpa using h.stop (by rfl)
  | outlasts hphase => simpa [hphase, Router.begun] using h.stop (by rfl)
  | takes hphase hitems =>
    refine h.goOn (by simp [hphase]) rfl ?_
    rw [hitems]
    simp [hphase, Router.begun]
  | @routes p hphase _ =>
    have hnone := Router.begun_eq_nil (p.step_ne_begun f.settings.value.mapping f.mixer)
    exact h.goOn (by simp [hphase]) rfl (by simp [hnone])
  | routed hphase => exact h.goOn (by simp [hphase]) rfl (by simp [hphase, Router.begun])
  | _ => simpa using hsame

end Queued

end SliderMixer
