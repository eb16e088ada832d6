import SliderMixer.Proofs.Subscribers

/-! # Leaving

The link goes on without a subscriber as it would with one that takes its moves in time.

* `Link.Step.unsubscribe`: what the link can do with a subscriber, it can do without it.
* `Link.Step.of_unsubscribe`: what it can do without the subscriber, it can do with it, unless that
  one has yet to take a move.
-/

namespace SliderMixer

namespace Mailbox

variable {β : Type} (m : Mailbox β)

theorem offer_dropReceiver (value : β) : (m.dropReceiver.offer value).2 = m.dropReceiver := rfl

theorem dropReceiver_offer (value : β) : (m.offer value).2.dropReceiver = m.dropReceiver := by
  unfold offer
  split
  · rfl
  · split <;> rfl

end Mailbox

namespace Link

variable {l l' : Link} {choice : LinkChoice} {turn : AudienceTurn} {i : Nat}

theorem eq_of_subscribers (hrest : { l with subscribers := [] } = { l' with subscribers := [] })
    (hmailboxes : ∀ j : Nat, l.subscribers[j]? = l'.subscribers[j]?) : l = l' := by
  have hsubscribers : l.subscribers = l'.subscribers := List.ext_getElem? hmailboxes
  calc l
    _ = { ({ l with subscribers := [] } : Link) with subscribers := l.subscribers } := rfl
    _ = { ({ l' with subscribers := [] } : Link) with subscribers := l'.subscribers } := by
      rw [hrest, hsubscribers]
    _ = l' := rfl

theorem unsubscribe_unsubscribe (l : Link) (i : Nat) :
    (l.unsubscribe i).unsubscribe i = l.unsubscribe i := by
  refine eq_of_subscribers rfl fun k => ?_
  simp only [getElem?_unsubscribe]
  cases l.subscribers[k]? with
  | none => rfl
  | some m =>
    simp only [Option.map_some]
    split <;> rfl

theorem unsubscribe_comm (l : Link) (i j : Nat) :
    (l.unsubscribe i).unsubscribe j = (l.unsubscribe j).unsubscribe i := by
  refine eq_of_subscribers rfl fun k => ?_
  simp only [getElem?_unsubscribe]
  cases l.subscribers[k]? with
  | none => rfl
  | some m =>
    simp only [Option.map_some]
    split <;> split <;> rfl

theorem unsubscribe_finish (l : Link) (i : Nat) :
    (l.unsubscribe i).finish = l.finish.unsubscribe i := by
  refine eq_of_subscribers rfl fun k => ?_
  simp only [getElem?_unsubscribe, finish, List.getElem?_map]
  cases l.subscribers[k]? with
  | none => rfl
  | some m =>
    simp only [Option.map_some]
    split <;> rfl

theorem modify_set {α : Type} (items : List α) (i j : Nat) (f : α → α) (a : α) :
    (items.set j a).modify i f = (items.modify i f).set j (if i = j then f a else a) := by
  refine List.ext_getElem? fun k => ?_
  obtain rfl | hj := eq_or_ne j k
  · by_cases hlt : j < items.length <;> by_cases hi : i = j <;> simp [hlt, hi]
  · simp [List.getElem?_modify, hj]

theorem unsubscribe_set_self {m m' : Mailbox Move} (hm : l.subscribers[i]? = some m)
    (hleft : m'.dropReceiver = m.dropReceiver) :
    ({ l with subscribers := l.subscribers.set i m' } : Link).unsubscribe i = l.unsubscribe i := by
  refine eq_of_subscribers rfl fun k => ?_
  have hgone : (l.unsubscribe i).subscribers[i]? = some m.dropReceiver := by
    simp [getElem?_unsubscribe, hm]
  have hlt := (List.getElem?_eq_some_iff.mp hgone).1
  show ((l.subscribers.set i m').modify i .dropReceiver)[k]? = _
  rw [modify_set, if_pos rfl, hleft]
  obtain rfl | hk := eq_or_ne i k
  · rw [hgone]
    exact List.getElem?_set_self hlt
  · exact List.getElem?_set_ne hk

theorem unsubscribe_set_ne {j : Nat} (hj : j ≠ i) {m : Mailbox Move} :
    ({ l with subscribers := l.subscribers.set j m } : Link).unsubscribe i =
      { l with subscribers := (l.unsubscribe i).subscribers.set j m } := by
  show ({ l with subscribers := (l.subscribers.set j m).modify i .dropReceiver } : Link) = _
  rw [modify_set, if_neg hj.symm]
  rfl

/-- What a subscriber does is lost once it leaves. -/
theorem unsubscribe_of_isBy (hby : turn.isBy i = true) (h : l.attended? turn = some l') :
    l'.unsubscribe i = l.unsubscribe i := by
  cases turn with
  | link _ => cases hby
  | take j =>
    obtain rfl : j = i := by simpa [AudienceTurn.isBy] using hby
    obtain ⟨m, move, rest, hm, -, rfl⟩ := take_of_attended? h
    exact unsubscribe_set_self hm rfl
  | leave j =>
    obtain rfl : j = i := by simpa [AudienceTurn.isBy] using hby
    cases h
    exact unsubscribe_unsubscribe l j

/-! ## Steps -/

theorem Step.unsubscribe (h : l.Step choice l') (i : Nat) :
    (l.unsubscribe i).Step choice (l'.unsubscribe i) := by
  cases h with
  | observes hphase => exact .observes hphase
  | fails hphase hport => exact .fails hphase hport
  | opens hphase hport => exact .opens hphase hport
  | resumes hphase hdue => exact .resumes hphase hdue
  | decodes hphase hreader hitems => exact .decodes hphase hreader hitems
  | loses hphase hreader hlost => exact .loses hphase hreader hlost
  | delivered hphase => exact .delivered hphase
  | served hphase hall => exact .served hphase (by simp [getElem?_unsubscribe, hall])
  | @offers c move rest served m hphase hnext hfree =>
    have hnext' : (l.unsubscribe i).subscribers[served]? =
        some (if i = served then m.dropReceiver else m) := by
      simp [getElem?_unsubscribe, hnext]
    have hfree' : (if i = served then m.dropReceiver else m).receiverGone = true ∨
        (if i = served then m.dropReceiver else m).hasRoom = true := by
      split
      · exact .inl rfl
      · exact hfree
    -- offered or not, the move does not reach one that has left
    have hoffer : ((if i = served then m.dropReceiver else m).offer move).2 =
        if i = served then (m.offer move).2.dropReceiver else (m.offer move).2 := by
      split
      · rw [Mailbox.dropReceiver_offer, Mailbox.offer_dropReceiver]
      · rfl
    have hstep := Step.offers (l := l.unsubscribe i) hphase hnext' hfree'
    rw [hoffer] at hstep
    show Step _ _ { l with
      subscribers := (l.subscribers.set served (m.offer move).2).modify i .dropReceiver
      phase := .delivering c (move :: rest) (served + 1) }
    rw [modify_set]
    exact hstep
  | stops hsignal hphase =>
    rw [← unsubscribe_finish]
    exact .stops hsignal hphase
  | leaves hsignal hphase =>
    rw [← unsubscribe_finish]
    exact .leaves hsignal hphase
  | adopts hphase hnews hsame => exact .adopts hphase hnews hsame
  | reconnects hphase hnews hother => exact .reconnects hphase hnews hother
  | settles hphase hnews hclosed hunsettled => exact .settles hphase hnews hclosed hunsettled
  | reads hreader hread => exact .reads hreader hread

/-- The subscriber, if it is still there, has taken what it was sent. -/
def HasTaken (l : Link) (i : Nat) : Prop :=
  ∀ m, l.subscribers[i]? = some m → m.receiverGone = true ∨ m.hasRoom = true

theorem Step.of_unsubscribe (h : (l.unsubscribe i).Step choice l') (htaken : l.HasTaken i) :
    ∃ l'', l.Step choice l'' ∧ l' = l''.unsubscribe i := by
  -- a choice leads to one state only, so it is enough that it is possible
  suffices hstep : ∃ l'', l.Step choice l'' by
    obtain ⟨l'', hstep⟩ := hstep
    exact ⟨l'', hstep, Option.some.inj ((step?_of_step h).symm.trans
      (step?_of_step (hstep.unsubscribe i)))⟩
  cases h with
  | observes hphase => exact ⟨_, .observes hphase⟩
  | fails hphase hport => exact ⟨_, .fails hphase hport⟩
  | opens hphase hport => exact ⟨_, .opens hphase hport⟩
  | resumes hphase hdue => exact ⟨_, .resumes hphase hdue⟩
  | decodes hphase hreader hitems => exact ⟨_, .decodes hphase hreader hitems⟩
  | loses hphase hreader hlost => exact ⟨_, .loses hphase hreader hlost⟩
  | delivered hphase => exact ⟨_, .delivered hphase⟩
  | served hphase hall =>
    exact ⟨_, .served hphase (by simpa [getElem?_unsubscribe] using hall)⟩
  | offers hphase hnext hfree =>
    rw [getElem?_unsubscribe, Option.map_eq_some_iff] at hnext
    obtain ⟨m, hm, rfl⟩ := hnext
    refine ⟨_, .offers hphase hm ?_⟩
    split at hfree
    · next heq => exact htaken m (heq ▸ hm)
    · exact hfree
  | stops hsignal hphase => exact ⟨_, .stops hsignal hphase⟩
  | leaves hsignal hphase => exact ⟨_, .leaves hsignal hphase⟩
  | adopts hphase hnews hsame => exact ⟨_, .adopts hphase hnews hsame⟩
  | reconnects hphase hnews hother => exact ⟨_, .reconnects hphase hnews hother⟩
  | settles hphase hnews hclosed hunsettled =>
    exact ⟨_, .settles hphase hnews hclosed hunsettled⟩
  | reads hreader hread => exact ⟨_, .reads hreader hread⟩

/-! ## Turns -/

theorem getElem?_unsubscribe_ne (l : Link) {j : Nat} (hj : j ≠ i) :
    (l.unsubscribe i).subscribers[j]? = l.subscribers[j]? := by
  simp [getElem?_unsubscribe, hj.symm]

theorem attended?_unsubscribe (hby : turn.isBy i = false) (h : l.attended? turn = some l') :
    (l.unsubscribe i).attended? turn = some (l'.unsubscribe i) := by
  cases turn with
  | link turn =>
    cases turn with
    | step choice => exact step?_of_step ((step_of_step? h).unsubscribe i)
    | subscribers _ => cases h
    | publish _ | close | stop | board _ | clock _ =>
      cases h
      rfl
  | take j =>
    have hj : j ≠ i := by simpa [AudienceTurn.isBy] using hby
    obtain ⟨m, move, rest, hm, hitems, rfl⟩ := take_of_attended? h
    rw [attended?_take ((getElem?_unsubscribe_ne l hj).trans hm) hitems, unsubscribe_set_ne hj]
    rfl
  | leave j =>
    cases h
    exact congrArg some (unsubscribe_comm l i j)

theorem attended?_of_unsubscribe (hby : turn.isBy i = false) (htaken : l.HasTaken i)
    (h : (l.unsubscribe i).attended? turn = some l') :
    ∃ l'', l.attended? turn = some l'' ∧ l' = l''.unsubscribe i := by
  suffices hturn : ∃ l'', l.attended? turn = some l'' by
    obtain ⟨l'', hturn⟩ := hturn
    exact ⟨l'', hturn, Option.some.inj (h.symm.trans (attended?_unsubscribe hby hturn))⟩
  cases turn with
  | link turn =>
    cases turn with
    | step choice =>
      obtain ⟨l'', hstep, -⟩ := (step_of_step? h).of_unsubscribe htaken
      exact ⟨l'', step?_of_step hstep⟩
    | subscribers _ => cases h
    | publish _ | close | stop | board _ | clock _ => exact ⟨_, rfl⟩
  | take j =>
    have hj : j ≠ i := by simpa [AudienceTurn.isBy] using hby
    obtain ⟨m, move, rest, hm, hitems, -⟩ := take_of_attended? h
    exact ⟨_, attended?_take ((getElem?_unsubscribe_ne l hj).symm.trans hm) hitems⟩
  | leave j => exact ⟨_, rfl⟩

theorem HasTaken.take {m : Mailbox Move} {move : Move} {rest : List Move} (hnarrow : l.Narrow)
    (hm : l.subscribers[i]? = some m) (hitems : m.items = move :: rest) :
    HasTaken { l with subscribers := l.subscribers.set i { m with items := rest } } i := by
  have hlt := (List.getElem?_eq_some_iff.mp hm).1
  intro m' hm'
  cases hm'.symm.trans (List.getElem?_set_self hlt)
  have hroom := (hnarrow i m hm).room
  rw [hitems, List.length_cons] at hroom
  refine .inr (decide_eq_true ?_)
  show rest.length < m.capacity
  rw [(hnarrow i m hm).capacity]
  omega

end Link

end SliderMixer
