import SliderMixer.Proofs.LinkSteps
import SliderMixer.Proofs.Run

/-! # Subscribers

Any number of subscribers may listen to the link.  Each of them takes its moves whenever it likes,
stops taking them, or goes away.

* `AudienceTurn`: what the link, its subscribers and all around them do, in any order.
* `Link.Attended`: every turn, with the state in which it is made.
* `Link.Step.mailbox`: what a step of the link puts into the mailbox of a subscriber.
* `Mailbox.Narrow`: a mailbox for one move; `Link.narrow_attended`: all of them stay such.
-/

namespace SliderMixer

/-! ## Mailboxes -/

namespace Mailbox

variable {β : Type}

/-- A mailbox for one item. -/
structure Narrow (m : Mailbox β) : Prop where
  capacity : m.capacity = 1
  room : m.items.length ≤ 1

/-- Of `m` becomes `m'` when these items are put into it. -/
structure Gets (m m' : Mailbox β) (given : List β) : Prop where
  items : m'.items = m.items ++ given
  capacity : m'.capacity = m.capacity
  gone : m'.receiverGone = m.receiverGone
  room : given = [] ∨ m.receiverGone = false ∧ m.hasRoom = true ∧ given.length = 1

variable {m m' : Mailbox β} {given : List β}

theorem Gets.refl (m : Mailbox β) : m.Gets m [] := ⟨(List.append_nil _).symm, rfl, rfl, .inl rfl⟩

theorem gets_dropSender (m : Mailbox β) : m.Gets m.dropSender [] :=
  ⟨(List.append_nil _).symm, rfl, rfl, .inl rfl⟩

theorem gets_offer (m : Mailbox β) (value : β) :
    m.Gets (m.offer value).2 (if !m.receiverGone && m.hasRoom then [value] else []) := by
  unfold offer
  cases hgone : m.receiverGone <;> cases hroom : m.hasRoom
  · exact .refl m
  · exact ⟨rfl, rfl, hgone.symm, .inr ⟨hgone, hroom, rfl⟩⟩
  · exact .refl m
  · exact .refl m

theorem Narrow.gets (h : m.Narrow) (hgets : m.Gets m' given) : m'.Narrow where
  capacity := hgets.capacity.trans h.capacity
  room := by
    rw [hgets.items]
    obtain rfl | ⟨-, hroom, hone⟩ := hgets.room
    · simpa using h.room
    · have hempty : m.items.length < 1 := by simpa [hasRoom, h.capacity] using hroom
      rw [List.length_append]
      omega

theorem Narrow.take {item : β} {rest : List β} (h : m.Narrow) (hitems : m.items = item :: rest) :
    Narrow { m with items := rest } where
  capacity := h.capacity
  room := by
    have := h.room
    rw [hitems, List.length_cons] at this
    exact Nat.le_of_succ_le this

theorem Narrow.dropReceiver (h : m.Narrow) : m.dropReceiver.Narrow :=
  ⟨h.capacity, Nat.zero_le 1⟩

end Mailbox

/-! ## Turns -/

/-- What can happen next. -/
inductive AudienceTurn where
  /-- The link goes on, or something else than a mailbox changes. -/
  | link (turn : LinkTurn)
  /-- A subscriber takes the move that waits for it. -/
  | take (subscriber : Nat)
  | leave (subscriber : Nat)
  deriving DecidableEq

/-- The turn is made by the subscriber. -/
def AudienceTurn.isBy (subscriber : Nat) : AudienceTurn → Bool
  | take i | leave i => i == subscriber
  | link _ => false

namespace Link

def attended? (l : Link) : AudienceTurn → Option Link
  | .link (.subscribers _) => none
  | .link turn => l.turn? turn
  | .take i =>
    match l.receive i with
    | (.item _, l') => some l'
    | (.waiting, _) | (.ended, _) => none
  | .leave i => some (l.unsubscribe i)

variable {l l' : Link} {choice : LinkChoice}

theorem take_of_attended? {i : Nat} (h : l.attended? (.take i) = some l') :
    ∃ m move rest, l.subscribers[i]? = some m ∧ m.items = move :: rest ∧
      l' = { l with subscribers := l.subscribers.set i { m with items := rest } } := by
  simp only [attended?, receive] at h
  cases hm : l.subscribers[i]? with
  | none => simp [hm] at h
  | some m =>
    cases hitems : m.items with
    | nil => cases hgone : m.senderGone <;> simp [hm, Mailbox.receive, hitems, hgone] at h
    | cons move rest =>
      simp only [hm, Mailbox.receive, hitems, Option.some.injEq] at h
      exact ⟨m, move, rest, rfl, hitems, h.symm⟩

theorem attended?_take {i : Nat} {m : Mailbox Move} {move : Move} {rest : List Move}
    (hm : l.subscribers[i]? = some m) (hitems : m.items = move :: rest) :
    l.attended? (.take i) =
      some { l with subscribers := l.subscribers.set i { m with items := rest } } := by
  simp [attended?, receive, hm, Mailbox.receive, hitems]

/-- Of all that is around the link but the subscribers, only the connection is looked at. -/
inductive Attended (l : Link) : AudienceTurn → Link → Prop where
  | step {choice : LinkChoice} {l' : Link} (step : l.Step choice l') :
      Attended l (.link (.step choice)) l'
  | around {turn : LinkTurn} (settings : Watched LinkSettings) (board : Board) (stop : Bool)
      (now : Nat) (quiet : ∀ choice, turn ≠ .step choice) :
      Attended l (.link turn) { l with settings, board, stop, now }
  | takes {i : Nat} {m : Mailbox Move} {move : Move} {rest : List Move}
      (mailbox : l.subscribers[i]? = some m) (items : m.items = move :: rest) :
      Attended l (.take i)
        { l with subscribers := l.subscribers.set i { m with items := rest } }
  | leaves (i : Nat) : Attended l (.leave i) (l.unsubscribe i)

theorem attended_of_attended? {turn : AudienceTurn} (h : l.attended? turn = some l') :
    l.Attended turn l' := by
  cases turn with
  | link turn =>
    cases turn with
    | step choice => exact .step (step_of_step? h)
    | subscribers _ => cases h
    | publish s =>
      cases h
      exact .around (l.settings.send s) l.board l.stop l.now (by simp)
    | close =>
      cases h
      exact .around l.settings.close l.board l.stop l.now (by simp)
    | stop =>
      cases h
      exact .around l.settings l.board true l.now (by simp)
    | board turn =>
      cases h
      exact .around l.settings (l.board.turn turn) l.stop l.now (by simp)
    | clock now =>
      cases h
      exact .around l.settings l.board l.stop now (by simp)
  | take i =>
    obtain ⟨m, move, rest, hm, hitems, rfl⟩ := take_of_attended? h
    exact .takes hm hitems
  | leave i =>
    cases h
    exact .leaves i

/-! ## What a step puts into the mailboxes -/

/-- The moves of the last line that the subscriber has not been given. -/
def owed (l : Link) (i : Nat) : List Move :=
  match l.phase with
  | .delivering _ moves served => if i < served then moves.tail else moves
  | .observing | .opening _ | .pausing _ | .reading _ | .ended => []

theorem Step.length_subscribers (h : l.Step choice l') :
    l'.subscribers.length = l.subscribers.length := by
  cases h <;> simp [observe, publish, lose, leave, finish]

theorem Step.exists_mailbox (h : l.Step choice l') {i : Nat} {m' : Mailbox Move}
    (hm' : l'.subscribers[i]? = some m') : ∃ m, l.subscribers[i]? = some m := by
  have hi := (List.getElem?_eq_some_iff.mp hm').1
  rw [h.length_subscribers] at hi
  exact ⟨_, List.getElem?_eq_getElem hi⟩

theorem lt_of_getElem?_eq_none {i served : Nat} {m : Mailbox Move}
    (hm : l.subscribers[i]? = some m) (hall : l.subscribers[served]? = none) : i < served := by
  obtain ⟨hi, -⟩ := List.getElem?_eq_some_iff.mp hm
  exact hi.trans_le (List.getElem?_eq_none_iff.mp hall)

theorem Step.mailbox (h : l.Step choice l') {i : Nat} {m : Mailbox Move}
    (hm : l.subscribers[i]? = some m) :
    ∃ m' given, l'.subscribers[i]? = some m' ∧ m.Gets m' given ∧
      (m.receiverGone = false → given ++ l'.owed i = l.owed i ++ l.decoded (.step choice)) := by
  cases h with
  | observes hphase | fails hphase _ | opens hphase _ | resumes hphase _ =>
    refine ⟨m, [], hm, .refl m, fun _ => ?_⟩
    rw [decoded_of_none (by simp [line?, hphase])]
    simp [owed, observe, hphase]
  | decodes hphase hreader hitems =>
    refine ⟨m, [], hm, .refl m, fun _ => ?_⟩
    rw [decoded_of_line (line?_of_items hphase hreader hitems)]
    simp [owed, hphase]
  | loses hphase hreader hlost =>
    refine ⟨m, [], hm, .refl m, fun _ => ?_⟩
    rw [decoded_of_none (line?_of_lost hreader hlost)]
    simp [owed, lose, hphase]
  | delivered hphase =>
    refine ⟨m, [], hm, .refl m, fun _ => ?_⟩
    rw [decoded_of_none (by simp [line?, hphase])]
    simp [owed, hphase]
  | served hphase hall =>
    refine ⟨m, [], hm, .refl m, fun _ => ?_⟩
    rw [decoded_of_none (by simp [line?, hphase])]
    simp [owed, hphase, lt_of_getElem?_eq_none hm hall]
  | @offers c move rest served m' hphase hnext hfree =>
    rw [decoded_of_none (by simp [line?, hphase]), List.append_nil]
    -- the move was owed to the subscriber that it is offered to, and to nobody else that is served
    obtain rfl | hi := eq_or_ne served i
    · cases hm.symm.trans hnext
      have hlt := (List.getElem?_eq_some_iff.mp hm).1
      refine ⟨_, _, by simp [hlt], m.gets_offer move, fun hhere => ?_⟩
      have hroom : m.hasRoom = true := by simpa [hhere] using hfree
      simp [owed, hphase, hhere, hroom]
    · refine ⟨m, [], by simp [hi, hm], .refl m, fun _ => ?_⟩
      have hnext : i < served + 1 ↔ i < served := by omega
      simp [owed, hphase, hnext]
  -- the link heeds the signal only where nothing is owed
  | stops hsignal hphase =>
    refine ⟨m.dropSender, [], by simp [finish, hm], m.gets_dropSender, fun _ => ?_⟩
    rw [decoded_of_none rfl]
    obtain ⟨c, hphase⟩ | ⟨resumeAt, hphase⟩ := hphase <;> simp [owed, finish, hphase]
  | leaves hsignal hphase =>
    refine ⟨m.dropSender, [], by simp [finish, leave, publish, hm], m.gets_dropSender, fun _ => ?_⟩
    rw [decoded_of_none rfl]
    simp [owed, finish, hphase]
  | adopts hphase _ _ | reconnects hphase _ _ =>
    refine ⟨m, [], hm, .refl m, fun _ => ?_⟩
    rw [decoded_of_none rfl]
    simp [owed, hphase]
  | settles _ _ _ _ | reads _ _ =>
    refine ⟨m, [], hm, .refl m, fun _ => ?_⟩
    rw [decoded_of_none rfl, List.append_nil]
    rfl

/-! ## Mailboxes in every run -/

def Narrow (l : Link) : Prop :=
  ∀ (i : Nat) (m : Mailbox Move), l.subscribers[i]? = some m → m.Narrow

theorem getElem?_unsubscribe (l : Link) (i j : Nat) :
    (l.unsubscribe i).subscribers[j]? =
      (l.subscribers[j]?).map fun m => if i = j then m.dropReceiver else m := by
  simp [unsubscribe, List.getElem?_modify]

theorem narrow_attended {turn : AudienceTurn} (h : l.Narrow) (hturn : l.Attended turn l') :
    l'.Narrow := by
  intro j m' hm'
  cases hturn with
  | step step =>
    obtain ⟨m, hm⟩ := step.exists_mailbox hm'
    obtain ⟨m'', given, hsome, hgets, -⟩ := step.mailbox hm
    cases hm'.symm.trans hsome
    exact (h j m hm).gets hgets
  | around _ _ _ _ _ => exact h j m' hm'
  | @takes i m move rest hm hitems =>
    rw [List.getElem?_set] at hm'
    split at hm'
    · simp only [Option.ite_none_right_eq_some, Option.some.injEq] at hm'
      obtain ⟨-, rfl⟩ := hm'
      exact (h i m hm).take hitems
    · exact h j m' hm'
  | leaves i =>
    rw [getElem?_unsubscribe, Option.map_eq_some_iff] at hm'
    obtain ⟨m, hm, rfl⟩ := hm'
    split
    · exact (h j m hm).dropReceiver
    · exact h j m hm

theorem narrow_new (settings : LinkSettings) (board : Board) (timing : LinkTiming)
    (subscribers : Nat) : (Link.new settings board timing subscribers).Narrow := by
  intro i m hm
  obtain ⟨-, rfl⟩ := List.mem_replicate.mp (List.mem_of_getElem? hm)
  exact ⟨rfl, Nat.zero_le 1⟩

end Link

end SliderMixer
