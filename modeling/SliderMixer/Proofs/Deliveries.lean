import SliderMixer.Proofs.Leaving

/-! # Deliveries

Every move that the decoder finds goes to all subscribers, in the order in which they came.

* `Deliveries` is the link with all that was found and all that was sent so far.
* `Deliveries.Kept`: what a subscriber was sent and what it is still owed make up what was found.
* `Deliveries.SameBut`: two runs that differ in nothing but one subscriber; `SameBut.run_left` and
  `SameBut.run_staying`: whether that one leaves makes no difference for the others.
* `Deliveries.fans_out`: what all this comes to in every run.
-/

namespace SliderMixer

namespace Link

variable {l l' : Link} {i : Nat}

/-! ## What is sent -/

/-- The subscriber is there and has not left. -/
def Listens (l : Link) (i : Nat) : Prop :=
  ∃ m, l.subscribers[i]? = some m ∧ m.receiverGone = false

/-- What waits to be taken by the subscriber. -/
def waiting (l : Link) (i : Nat) : List Move := (l.subscribers[i]?).elim [] Mailbox.items

/-- What was put into the mailbox of the subscriber on the way to `l'`. -/
def given (l l' : Link) (i : Nat) : List Move := (l'.waiting i).drop (l.waiting i).length

theorem given_of_mailbox {m m' : Mailbox Move} {given : List Move}
    (hm : l.subscribers[i]? = some m) (hm' : l'.subscribers[i]? = some m')
    (hgets : m.Gets m' given) : l.given l' i = given := by
  simp [Link.given, waiting, hm, hm', hgets.items]

/-- Nobody comes back. -/
theorem listens_of_attended {turn : AudienceTurn} (h : l.Attended turn l') (hl' : l'.Listens i) :
    l.Listens i := by
  obtain ⟨m', hm', hhere⟩ := hl'
  cases h with
  | step step =>
    obtain ⟨m, hm⟩ := step.exists_mailbox hm'
    obtain ⟨m'', given, hsome, hgets, -⟩ := step.mailbox hm
    cases hm'.symm.trans hsome
    exact ⟨m, hm, hgets.gone ▸ hhere⟩
  | around _ _ _ _ _ => exact ⟨m', hm', hhere⟩
  | @takes j m move rest hm hitems =>
    rw [List.getElem?_set] at hm'
    split at hm'
    · next heq =>
      simp only [Option.ite_none_right_eq_some, Option.some.injEq] at hm'
      obtain ⟨-, rfl⟩ := hm'
      exact ⟨m, heq ▸ hm, hhere⟩
    · exact ⟨m', hm', hhere⟩
  | leaves j =>
    rw [getElem?_unsubscribe, Option.map_eq_some_iff] at hm'
    obtain ⟨m, hm, rfl⟩ := hm'
    split at hhere
    · cases hhere
    · exact ⟨m, hm, hhere⟩

/-- What a subscriber is not given of the decoded moves, it is owed; one that left is given none. -/
theorem given_owed {turn : LinkTurn} (h : l.attended? (.link turn) = some l') (i : Nat) :
    (l.Listens i → l.given l' i ++ l'.owed i = l.owed i ++ l.decoded turn) ∧
      (¬ l.Listens i → l.given l' i = []) := by
  cases attended_of_attended? h with
  | step step =>
    cases hm : l.subscribers[i]? with
    | none =>
      have hm' : l'.subscribers[i]? = none := by simpa [step.length_subscribers] using hm
      -- there is no such subscriber
      exact ⟨fun ⟨m, hsome, _⟩ => by simp [hm] at hsome, fun _ => by simp [given, waiting, hm']⟩
    | some m =>
      obtain ⟨m', given, hm', hgets, howed⟩ := step.mailbox hm
      rw [given_of_mailbox hm hm' hgets]
      refine ⟨?_, fun hleft => ?_⟩
      · rintro ⟨_, hsome, hhere⟩
        cases hm.symm.trans hsome
        exact howed hhere
      · obtain rfl | ⟨hhere, -⟩ := hgets.room
        · rfl
        · exact absurd ⟨m, hm, hhere⟩ hleft
  | around _ _ _ _ quiet =>
    have hline : l.line? turn = none := by
      cases turn with
      | step choice => exact absurd rfl (quiet choice)
      | _ => rfl
    simp [decoded_of_none hline, given, waiting, owed]

theorem owed_ahead (l : Link) {i j : Nat} (hij : i < j) :
    (l.owed j).length = (l.owed i).length ∨ (l.owed j).length = (l.owed i).length + 1 := by
  cases hphase : l.phase with
  | delivering c moves served =>
    simp only [owed, hphase]
    cases moves <;> split <;> split <;> simp
    all_goals omega
  | _ => simp [owed, hphase]

/-- A line is decoded when nothing is owed any more. -/
theorem owed_of_line? {turn : LinkTurn} {text : String} (h : l.line? turn = some text) (i : Nat) :
    l.owed i = [] := by
  obtain ⟨-, c, r, rest, hphase, -⟩ := line?_eq_some h
  simp [owed, hphase]

/-- So are new settings looked at. -/
theorem owed_of_observes? {turn : LinkTurn} {s : LinkSettings} (h : l.observes? turn = some s)
    (i : Nat) : l.owed i = [] := by
  cases hphase : l.phase with
  | delivering c moves served =>
    unfold observes? at h
    split at h <;> simp [hphase] at h
  | _ => simp [owed, hphase]

end Link

/-- The link with all that was found and sent. -/
structure Deliveries where
  link : Link
  /-- The moves that the decoder found, oldest first. -/
  found : List Move := []
  /-- The moves that each subscriber was sent, oldest first. -/
  sent : Nat → List Move := fun _ => []

namespace Deliveries

variable {x y z : Deliveries} {turn : AudienceTurn} {turns : List AudienceTurn} {i : Nat}

/-- The turn leads the link to `link`. -/
def noted (x : Deliveries) (turn : AudienceTurn) (link : Link) : Deliveries :=
  match turn with
  | .link turn =>
    { link
      found := x.found ++ x.link.decoded turn
      sent := fun i => x.sent i ++ x.link.given link i }
  | .take _ | .leave _ => { x with link }

def turn? (x : Deliveries) (turn : AudienceTurn) : Option Deliveries :=
  (x.link.attended? turn).map (x.noted turn)

def start (settings : LinkSettings) (board : Board) (timing : LinkTiming) (subscribers : Nat) :
    Deliveries :=
  { link := .new settings board timing subscribers }

theorem turn?_eq_some_iff :
    x.turn? turn = some y ↔ ∃ l, x.link.attended? turn = some l ∧ x.noted turn l = y :=
  Option.map_eq_some_iff

@[simp] theorem link_noted (x : Deliveries) (turn : AudienceTurn) (l : Link) :
    (x.noted turn l).link = l := by
  cases turn <;> rfl

/-! ## What is owed -/

structure Kept (x : Deliveries) : Prop where
  narrow : x.link.Narrow
  sent : ∀ i, x.sent i <+: x.found
  owed : ∀ i, x.link.Listens i → x.sent i ++ x.link.owed i = x.found

theorem kept_start (settings : LinkSettings) (board : Board) (timing : LinkTiming)
    (subscribers : Nat) : (start settings board timing subscribers).Kept :=
  ⟨Link.narrow_new settings board timing subscribers, fun _ => List.nil_prefix, fun _ _ => rfl⟩

theorem kept_turn (h : x.Kept) (hturn : x.turn? turn = some y) : y.Kept := by
  obtain ⟨l, hl, rfl⟩ := turn?_eq_some_iff.mp hturn
  have hattended := Link.attended_of_attended? hl
  have hlistens (i : Nat) (hi : (x.noted turn l).link.Listens i) : x.link.Listens i :=
    Link.listens_of_attended hattended (link_noted x turn l ▸ hi)
  have hnarrow : (x.noted turn l).link.Narrow := by
    rw [link_noted]
    exact Link.narrow_attended h.narrow hattended
  cases turn with
  | link turn =>
    have howed (i : Nat) (hi : x.link.Listens i) :
        x.sent i ++ x.link.given l i ++ l.owed i = x.found ++ x.link.decoded turn := by
      rw [List.append_assoc, (Link.given_owed hl i).1 hi, ← List.append_assoc, h.owed i hi]
    refine ⟨hnarrow, fun i => ?_, fun i hi => howed i (hlistens i hi)⟩
    by_cases hi : x.link.Listens i
    · exact ⟨l.owed i, howed i hi⟩
    · simpa [noted, (Link.given_owed hl i).2 hi] using (h.sent i).trans (List.prefix_append _ _)
  | take j =>
    refine ⟨hnarrow, h.sent, fun i hi => ?_⟩
    have howed := h.owed i (hlistens i hi)
    obtain ⟨m, move, rest, -, -, rfl⟩ := Link.take_of_attended? hl
    exact howed
  | leave j =>
    cases hl
    exact ⟨hnarrow, h.sent, fun i hi => h.owed i (hlistens i hi)⟩

/-- The subscribers are served in their order. -/
theorem Kept.ahead (h : x.Kept) {i j : Nat} (hij : i < j) (hi : x.link.Listens i)
    (hj : x.link.Listens j) :
    (x.sent i).length = (x.sent j).length ∨ (x.sent i).length = (x.sent j).length + 1 := by
  have hi := congrArg List.length (h.owed i hi)
  have hj := congrArg List.length (h.owed j hj)
  rw [List.length_append] at hi hj
  have howed := x.link.owed_ahead hij
  omega

/-- All has been sent where nothing is owed. -/
theorem Kept.all_sent (h : x.Kept) (hi : x.link.Listens i) (howed : x.link.owed i = []) :
    x.sent i = x.found := by
  simpa [howed] using h.owed i hi

/-! ## With and without one subscriber -/

/-- The two differ in nothing but the subscriber, which has left in `y`. -/
structure SameBut (i : Nat) (x y : Deliveries) : Prop where
  link : y.link = x.link.unsubscribe i
  found : y.found = x.found
  sent : ∀ j, j ≠ i → y.sent j = x.sent j

theorem sameBut_leave (h : x.turn? (.leave i) = some y) : SameBut i x y := by
  cases h
  exact ⟨rfl, rfl, fun _ _ => rfl⟩

theorem SameBut.of_isBy (h : SameBut i x z) (hby : turn.isBy i = true)
    (hturn : x.turn? turn = some y) : SameBut i y z := by
  obtain ⟨l, hl, rfl⟩ := turn?_eq_some_iff.mp hturn
  have hlink : z.link = l.unsubscribe i :=
    h.link.trans (Link.unsubscribe_of_isBy hby hl).symm
  cases turn with
  | link _ => cases hby
  | take _ | leave _ => exact ⟨hlink, h.found, h.sent⟩

/-- Nobody else can tell the two apart. -/
theorem SameBut.noted (h : SameBut i x y) (turn : AudienceTurn) (l : Link) :
    SameBut i (x.noted turn l) (y.noted turn (l.unsubscribe i)) := by
  cases turn with
  | link turn =>
    refine ⟨rfl, ?_, fun j hj => ?_⟩
    · simp only [Deliveries.noted, h.found, h.link]
      rfl
    · simp only [Deliveries.noted, h.sent j hj, h.link, Link.given, Link.waiting,
        Link.getElem?_unsubscribe_ne _ hj]
  | take _ | leave _ => exact ⟨rfl, h.found, h.sent⟩

theorem SameBut.turn_left (h : SameBut i x y) (hby : turn.isBy i = false) {x' : Deliveries}
    (hturn : x.turn? turn = some x') : ∃ y', y.turn? turn = some y' ∧ SameBut i x' y' := by
  obtain ⟨l, hl, rfl⟩ := turn?_eq_some_iff.mp hturn
  refine ⟨_, turn?_eq_some_iff.mpr ⟨l.unsubscribe i, ?_, rfl⟩, h.noted turn l⟩
  rw [h.link]
  exact Link.attended?_unsubscribe hby hl

theorem SameBut.turn_staying (h : SameBut i x y) (hby : turn.isBy i = false)
    (htaken : x.link.HasTaken i) {y' : Deliveries} (hturn : y.turn? turn = some y') :
    ∃ x', x.turn? turn = some x' ∧ SameBut i x' y' := by
  obtain ⟨l, hl, rfl⟩ := turn?_eq_some_iff.mp hturn
  rw [h.link] at hl
  obtain ⟨l', hl', rfl⟩ := Link.attended?_of_unsubscribe hby htaken hl
  exact ⟨_, turn?_eq_some_iff.mpr ⟨l', hl', rfl⟩, h.noted turn l'⟩

/-- Whatever comes with the subscriber comes without it, too. -/
theorem SameBut.run_left (h : SameBut i x y) {x' : Deliveries}
    (hrun : Run.after? turn? x turns = some x') :
    ∃ y', Run.after? turn? y (turns.filter (!·.isBy i)) = some y' ∧ SameBut i x' y' := by
  induction turns generalizing x y with
  | nil =>
    cases hrun
    exact ⟨y, rfl, h⟩
  | cons turn rest ih =>
    obtain ⟨u, hturn, hrun⟩ := Option.bind_eq_some_iff.mp (Run.after?_cons _ _ _ _ ▸ hrun)
    cases hby : turn.isBy i with
    | true =>
      rw [List.filter_cons_of_neg (by simp [hby])]
      exact ih (h.of_isBy hby hturn) hrun
    | false =>
      obtain ⟨v, hv, hsame⟩ := h.turn_left hby hturn
      rw [List.filter_cons_of_pos (by simp [hby]), Run.after?_cons, hv]
      exact ih hsame hrun

/-- The subscriber takes what it was sent, if anything. -/
theorem Kept.exists_taken (h : x.Kept) (hsame : SameBut i x z) :
    ∃ taken y, Run.after? turn? x taken = some y ∧ (∀ turn ∈ taken, turn = .take i) ∧ y.Kept ∧
      y.link.HasTaken i ∧ SameBut i y z := by
  by_cases htaken : x.link.HasTaken i
  · exact ⟨[], x, rfl, by simp, h, htaken, hsame⟩
  simp only [Link.HasTaken, not_forall, not_or, Bool.not_eq_true] at htaken
  obtain ⟨m, hm, -, hfull⟩ := htaken
  cases hitems : m.items with
  | nil => simp [Mailbox.hasRoom, hitems, (h.narrow i m hm).capacity] at hfull
  | cons move rest =>
    have hturn := turn?_eq_some_iff.mpr ⟨_, Link.attended?_take hm hitems, rfl⟩
    have hby : (AudienceTurn.take i).isBy i = true := beq_self_eq_true i
    exact ⟨[.take i], _, by simp [hturn], by simp, kept_turn h hturn,
      .take h.narrow hm hitems, hsame.of_isBy hby hturn⟩

/-- Whatever comes without the subscriber would have come with it as well, had it stayed and taken
    its moves in time. -/
theorem SameBut.run_staying (h : SameBut i x y) (hkept : x.Kept)
    (hothers : ∀ turn ∈ turns, turn.isBy i = false) {y' : Deliveries}
    (hrun : Run.after? turn? y turns = some y') :
    ∃ staying x', Run.after? turn? x staying = some x' ∧ staying.filter (!·.isBy i) = turns ∧
      .leave i ∉ staying ∧ SameBut i x' y' := by
  induction turns generalizing x y with
  | nil =>
    cases hrun
    exact ⟨[], x, rfl, rfl, by simp, h⟩
  | cons turn rest ih =>
    obtain ⟨v, hturn, hrun⟩ := Option.bind_eq_some_iff.mp (Run.after?_cons _ _ _ _ ▸ hrun)
    obtain ⟨hby, hothers⟩ := List.forall_mem_cons.mp hothers
    -- before each turn the subscriber empties its mailbox, so that the link never waits for it
    obtain ⟨taken, u, htaken, hown, hkept, hroom, hsame⟩ := hkept.exists_taken h
    obtain ⟨u', hu', hsame⟩ := hsame.turn_staying hby hroom hturn
    obtain ⟨staying, x', hx', hfilter, hstays, hsame⟩ := ih hsame (kept_turn hkept hu') hothers hrun
    refine ⟨taken ++ turn :: staying, x', ?_, ?_, ?_, hsame⟩
    · rw [Run.after?_append htaken, Run.after?_cons, hu']
      exact hx'
    · have hnone : taken.filter (!·.isBy i) = [] := by
        refine List.filter_eq_nil_iff.mpr fun t ht => ?_
        simp [hown t ht, AudienceTurn.isBy]
      rw [List.filter_append, hnone, List.nil_append, List.filter_cons_of_pos (by simp [hby]),
        hfilter]
    · simp only [List.mem_append, List.mem_cons, not_or]
      refine ⟨fun hleave => ?_, ?_, hstays⟩
      · cases hown _ hleave
      · rintro rfl
        simp [AudienceTurn.isBy] at hby

/-! ## Runs -/

/-- Any number of subscribers, each at its own pace: what one is sent is what the decoder found,
    from the first move on; an earlier one is at most one move ahead of a later one; when a line is
    decoded or settings are looked at, all of them have been sent everything; and whether one of
    them leaves makes no difference for what can happen to the others. -/
theorem fans_out {settings : LinkSettings} {board : Board} {timing : LinkTiming} {subscribers : Nat}
    (hrun : Run.after? turn? (start settings board timing subscribers) turns = some x) :
    (∀ i, x.sent i <+: x.found) ∧
    (∀ i j, i < j → x.link.Listens i → x.link.Listens j →
      (x.sent i).length = (x.sent j).length ∨ (x.sent i).length = (x.sent j).length + 1) ∧
    (∀ turn i, (x.link.line? turn).isSome = true ∨ (x.link.observes? turn).isSome = true →
      x.link.Listens i → x.sent i = x.found) ∧
    (∀ i gone, x.turn? (.leave i) = some gone →
      (∀ more y, Run.after? turn? x more = some y →
        ∃ z, Run.after? turn? gone (more.filter (!·.isBy i)) = some z ∧ SameBut i y z) ∧
      (∀ more z, (∀ turn ∈ more, turn.isBy i = false) → Run.after? turn? gone more = some z →
        ∃ staying y, Run.after? turn? x staying = some y ∧ staying.filter (!·.isBy i) = more ∧
          .leave i ∉ staying ∧ SameBut i y z)) := by
  have h : x.Kept := Run.invariant (kept_start settings board timing subscribers)
    (fun _ _ _ hx hturn => kept_turn hx hturn) hrun
  refine ⟨h.sent, fun i j => h.ahead, ?_, fun i gone hleave => ⟨fun more y hmore => ?_,
    fun more z hothers hmore => ?_⟩⟩
  · rintro turn i (hline | hobserves) hi
    · obtain ⟨text, hline⟩ := Option.isSome_iff_exists.mp hline
      exact h.all_sent hi (Link.owed_of_line? hline i)
    · obtain ⟨s, hobserves⟩ := Option.isSome_iff_exists.mp hobserves
      exact h.all_sent hi (Link.owed_of_observes? hobserves i)
  · exact (sameBut_leave hleave).run_left hmore
  · exact (sameBut_leave hleave).run_staying h hothers hmore

/-- The first of two subscribers leaves in the middle of a line; the second one gets all of it. -/
theorem fans_out_after_leaving :
    let board : Board := { script := [.stream 0], streams := [{}] }
    let turns : List AudienceTurn :=
      [.link (.step .proceed), .link (.step .proceed), .link (.board (.write 0 [53, 124, 55, 10])),
        .link (.step .read), .link (.step .read), .link (.step .proceed), .link (.step .proceed),
        .leave 0, .link (.step .proceed), .link (.step .proceed), .link (.step .proceed), .take 1,
        .link (.step .proceed), .link (.step .proceed), .link (.step .proceed),
        .link (.publish {})]
    ∃ x ∈ Run.after? turn? (start {} board {} 2) turns,
      (x.sent 0).length = 1 ∧ x.sent 0 <+: x.found ∧ x.found.length = 2 ∧ x.sent 1 = x.found := by
  intro board turns
  have hrun : ∃ x ∈ Run.after? turn? (start {} board {} 2) turns,
      (x.sent 0).length = 1 ∧ x.found.length = 2 ∧
      (x.link.observes? (.step .notice)).isSome = true ∧
      x.link.subscribers.map (·.receiverGone) = [true, false] := by decide +kernel
  obtain ⟨x, hx, hone, htwo, hobserves, hgone⟩ := hrun
  obtain ⟨hsent, -, hall, -⟩ := fans_out hx
  have hlistens : x.link.Listens 1 := by
    have hsecond := congrArg (·[1]?) hgone
    rw [List.getElem?_map] at hsecond
    exact Option.map_eq_some_iff.mp hsecond
  exact ⟨x, hx, hone, hsent 0, htwo, hall (.step .notice) 1 (.inr hobserves) hlistens⟩

end Deliveries

end SliderMixer
