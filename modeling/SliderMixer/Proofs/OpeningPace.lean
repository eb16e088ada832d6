import SliderMixer.Proofs.LinkSteps
import SliderMixer.Proofs.Run

/-! # Pace of the openings

However the attempts to open the port go, however soon a connection is lost, and whatever settings come:
the link waits between two attempts, unless it was told while connected to use another connection.

* `PortMark`: what happens at the port, with its time; `PortDiary`: the link with all of it.
* `Approach`: when the link may open the port again, and `Approach.after?`: how a mark changes that.
* `Approach.between_calls`: what lies between two attempts.
* `slots`: how many attempts there is room for, and `Approach.attempts_le`: there are no more.
* `Link.marked_turn`: the marks of every turn fit the way that the link is on.
* `PortDiary.openings_paced`: the pace of the attempts in every run of the link.
-/

namespace SliderMixer

/-! ## Marks -/

inductive PortEvent where
  /-- The link sets out to open the port, and may have to wait there. -/
  | called (c : Connection)
  | refused (c : Connection)
  | opened (c : Connection)
  | lost
  /-- While connected, the link looks at settings with another connection. -/
  | redirected (was wanted : Connection)
  deriving DecidableEq

structure PortMark where
  time : Nat
  event : PortEvent
  deriving DecidableEq

/-- The two sides of an attempt to open the port, which may take its time. -/
inductive AttemptSide where
  | start
  | finish
  deriving DecidableEq

namespace PortMark

/-- An attempt begins or ends here. -/
def isAttempt (side : AttemptSide) (k : PortMark) : Bool :=
  match side, k.event with
  | .start, .called _ | .finish, .refused _ | .finish, .opened _ => true
  | _, _ => false

def isRedirection (k : PortMark) : Bool :=
  match k.event with
  | .redirected _ _ => true
  | .called _ | .refused _ | .opened _ | .lost => false

/-- The connection that was tried, if an attempt has come to its end. -/
def tried? (k : PortMark) : Option Connection :=
  match k.event with
  | .refused c | .opened c => some c
  | .called _ | .lost | .redirected _ _ => none

/-- The mark lies in the span of time, both ends included. -/
def within (start span : Nat) (k : PortMark) : Bool := start ≤ k.time && k.time ≤ start + span

end PortMark

namespace Link

variable {l l' : Link}

/-- What happens at the port in a turn that leads to `l'`. -/
def portEvent? (l : Link) (turn : LinkTurn) (l' : Link) : Option PortEvent :=
  match turn, l.phase with
  | .step .proceed, .observing => some (.called l.settings.value.connection)
  | .step .proceed, .opening c =>
    match (l.board.openPort c).1 with
    | .ok _ => some (.opened c)
    | .error _ => some (.refused c)
  | .step .proceed, .reading _ => if l'.isConnected then none else some .lost
  | .step .notice, .reading c =>
    match l.observes? turn with
    | some s => if s.connection = c then none else some (.redirected c s.connection)
    | none => none
  | _, _ => none

end Link

/-! ## Ways to the port -/

/-- When the link may open the port again. -/
inductive Approach where
  | free
  | calling (c : Connection)
  | connected (c : Connection)
  /-- Not before this time. -/
  | waiting (resumeAt : Nat)
  deriving DecidableEq

namespace Approach

def after? (timing : LinkTiming) : Approach → PortMark → Option Approach
  | free, ⟨_, .called c⟩ => some (calling c)
  | waiting resumeAt, ⟨time, .called c⟩ => if resumeAt ≤ time then some (calling c) else none
  | calling c, ⟨time, .refused d⟩ => if d = c then some (waiting (time + timing.retry)) else none
  | calling c, ⟨_, .opened d⟩ => if d = c then some (connected c) else none
  | connected _, ⟨time, .lost⟩ => some (waiting (time + timing.reconnect))
  | connected c, ⟨_, .redirected was wanted⟩ => if was = c ∧ wanted ≠ c then some free else none
  | _, _ => none

inductive Follows (timing : LinkTiming) : Approach → PortMark → Approach → Prop where
  | first (time : Nat) (c : Connection) : Follows timing free ⟨time, .called c⟩ (calling c)
  | again {resumeAt time : Nat} (c : Connection) (due : resumeAt ≤ time) :
      Follows timing (waiting resumeAt) ⟨time, .called c⟩ (calling c)
  | refused (time : Nat) (c : Connection) :
      Follows timing (calling c) ⟨time, .refused c⟩ (waiting (time + timing.retry))
  | opened (time : Nat) (c : Connection) :
      Follows timing (calling c) ⟨time, .opened c⟩ (connected c)
  | lost (time : Nat) (c : Connection) :
      Follows timing (connected c) ⟨time, .lost⟩ (waiting (time + timing.reconnect))
  | redirected (time : Nat) {was wanted : Connection} (other : wanted ≠ was) :
      Follows timing (connected was) ⟨time, .redirected was wanted⟩ free

variable {timing : LinkTiming} {u v : Approach} {k : PortMark} {marks : List PortMark}

theorem follows_of_after? (h : u.after? timing k = some v) : u.Follows timing k v := by
  unfold after? at h
  split at h
  · cases h
    exact .first _ _
  · simp only [Option.ite_none_right_eq_some, Option.some.injEq] at h
    obtain ⟨hdue, rfl⟩ := h
    exact .again _ hdue
  · simp only [Option.ite_none_right_eq_some, Option.some.injEq] at h
    obtain ⟨rfl, rfl⟩ := h
    exact .refused _ _
  · simp only [Option.ite_none_right_eq_some, Option.some.injEq] at h
    obtain ⟨rfl, rfl⟩ := h
    exact .opened _ _
  · cases h
    exact .lost _ _
  · simp only [Option.ite_none_right_eq_some, Option.some.injEq] at h
    obtain ⟨⟨rfl, hother⟩, rfl⟩ := h
    exact .redirected _ hother
  · cases h

/-! ### Between two attempts -/

/-- How it stands since an attempt for the connection `c` began, after these marks. -/
inductive Since (timing : LinkTiming) (c : Connection) (marks : List PortMark) : Approach → Prop where
  | calling : Since timing c marks (calling c)
  | connected : Since timing c marks (connected c)
  | refused {time : Nat} (mark : ⟨time, .refused c⟩ ∈ marks) :
      Since timing c marks (waiting (time + timing.retry))
  | lost {time : Nat} (mark : ⟨time, .lost⟩ ∈ marks) :
      Since timing c marks (waiting (time + timing.reconnect))
  | redirected {time : Nat} {wanted : Connection} (other : wanted ≠ c)
      (mark : ⟨time, .redirected c wanted⟩ ∈ marks) : Since timing c marks free

theorem since_called {c : Connection} (quiet : ∀ k ∈ marks, k.isAttempt .start = false)
    (run : Run.after? (after? timing) (calling c) marks = some v) : Since timing c marks v := by
  refine Run.invariant_of_history (Q := fun _ _ => True)
    (P := fun marks v => (∀ k ∈ marks, k.isAttempt .start = false) → Since timing c marks v)
    (fun _ => .calling) ?_ (Run.along_of_forall (fun _ _ => trivial) _ _) run quiet
  intro front u k v _ h _ hstep hquiet
  have hsince := h fun k hk => hquiet k (List.mem_append_left _ hk)
  have hlast : k ∈ front ++ [k] := List.mem_append_right _ (List.mem_singleton_self k)
  cases follows_of_after? hstep with
  | first _ _ | again _ _ => exact absurd (hquiet _ hlast) (by simp [PortMark.isAttempt])
  | refused time d =>
    cases hsince
    exact .refused hlast
  | opened time d =>
    cases hsince
    exact .connected
  | lost time d =>
    cases hsince
    exact .lost hlast
  | redirected time hother =>
    cases hsince
    exact .redirected hother hlast

/-- What lies between two attempts that follow each other. -/
theorem between_calls {front between back : List PortMark} {a b : Nat} {c d : Connection}
    (quiet : ∀ k ∈ between, k.isAttempt .start = false)
    (run : Run.after? (after? timing) u
      (front ++ ⟨a, .called c⟩ :: between ++ ⟨b, .called d⟩ :: back) = some v) :
    (∃ time, ⟨time, .refused c⟩ ∈ between ∧ time + timing.retry ≤ b) ∨
    (∃ time, ⟨time, .lost⟩ ∈ between ∧ time + timing.reconnect ≤ b) ∨
    ∃ time wanted, ⟨time, .redirected c wanted⟩ ∈ between ∧ wanted ≠ c := by
  obtain ⟨w, hfront, hback⟩ := Run.after?_append_eq_some_iff.mp run
  obtain ⟨w', -, hcalled⟩ := Run.after?_append_eq_some_iff.mp hfront
  simp only [Run.after?_cons, Option.bind_eq_some_iff] at hcalled hback
  obtain ⟨x, hfirst, hbetween⟩ := hcalled
  obtain ⟨y, hsecond, -⟩ := hback
  obtain rfl : x = calling c := by cases follows_of_after? hfirst <;> rfl
  -- the second attempt cannot begin before the first one, or its connection, has come to an end
  cases since_called quiet hbetween with
  | calling | connected => cases follows_of_after? hsecond
  | refused hmark =>
    cases follows_of_after? hsecond with
    | again _ hdue => exact .inl ⟨_, hmark, hdue⟩
  | lost hmark =>
    cases follows_of_after? hsecond with
    | again _ hdue => exact .inr (.inl ⟨_, hmark, hdue⟩)
  | redirected hother hmark => exact .inr (.inr ⟨_, _, hmark, hother⟩)

/-! ### Room for attempts -/

/-- The time before which no other attempt begins or ends. -/
def due (side : AttemptSide) (gap now : Nat) : Approach → Nat
  | free => now
  | waiting resumeAt => max resumeAt now
  | connected _ => now + gap
  | calling _ => match side with
    | .start => now + gap
    | .finish => now

variable {gap now : Nat}

theorem le_due (side : AttemptSide) (gap now : Nat) (u : Approach) : now ≤ u.due side gap now := by
  cases u with
  | free => exact Nat.le_refl now
  | waiting resumeAt => exact Nat.le_max_right resumeAt now
  | connected c => exact Nat.le_add_right now gap
  | calling c => cases side <;> simp [due]

/-- An attempt puts off the next one, and only a change of the connection brings it nearer. -/
theorem due_follows (side : AttemptSide) (hretry : gap ≤ timing.retry)
    (hreconnect : gap ≤ timing.reconnect) (h : u.Follows timing k v) (hnow : now ≤ k.time) :
    (k.isAttempt side = true →
      u.due side gap now ≤ k.time ∧ k.time + gap ≤ v.due side gap k.time) ∧
    u.due side gap now ≤ v.due side gap k.time + if k.isRedirection then gap else 0 := by
  cases h with
  | first time c | again c _ | refused time c | opened time c =>
    cases side <;> simp [due, PortMark.isAttempt, PortMark.isRedirection] at hnow ⊢ <;> omega
  | lost time c | redirected time other =>
    simp [due, PortMark.isAttempt, PortMark.isRedirection] at hnow ⊢
    omega

end Approach

/-- How many times there is room for from `time` until `last`, with `gap` between them. -/
def slots (gap last time : Nat) : Nat := (last + gap - time) / gap

section Slots

variable {gap last time later : Nat}

theorem slots_le_slots (h : time ≤ later) : slots gap last later ≤ slots gap last time :=
  Nat.div_le_div_right (Nat.sub_le_sub_left h _)

theorem slots_eq_succ (hgap : 0 < gap) (h : time ≤ last) :
    slots gap last time = slots gap last (time + gap) + 1 := by
  have hsplit : last + gap - time = last + gap - (time + gap) + gap := by omega
  rw [slots, slots, hsplit, Nat.add_div_right _ hgap]

theorem slots_le_succ (hgap : 0 < gap) : slots gap last time ≤ slots gap last (time + gap) + 1 := by
  by_cases h : time ≤ last
  · exact Nat.le_of_eq (slots_eq_succ hgap h)
  · have hzero : slots gap last time = 0 := Nat.div_eq_of_lt (by omega)
    omega

theorem slots_start (hgap : 0 < gap) (start span : Nat) :
    slots gap (start + span) start = 1 + span / gap := by
  rw [slots, Nat.add_assoc, Nat.add_sub_cancel_left, Nat.add_div_right _ hgap, Nat.add_comm]

end Slots

namespace Approach

variable {timing : LinkTiming} {u v : Approach} {k : PortMark} {marks : List PortMark}
  {gap now start : Nat}

/-- An attempt takes up room, and only a change of the connection makes some. -/
theorem slots_follows (side : AttemptSide) (hgap : 0 < gap) (hretry : gap ≤ timing.retry)
    (hreconnect : gap ≤ timing.reconnect) (h : u.Follows timing k v) (hnow : now ≤ k.time)
    {last : Nat} (hlast : k.time ≤ last) :
    slots gap last (v.due side gap k.time) + (if k.isAttempt side then 1 else 0) ≤
      slots gap last (u.due side gap now) + if k.isRedirection then 1 else 0 := by
  obtain ⟨hattempt, hnext⟩ := due_follows side hretry hreconnect h hnow
  by_cases hside : k.isAttempt side = true
  · obtain ⟨hbefore, hafter⟩ := hattempt hside
    calc slots gap last (v.due side gap k.time) + (if k.isAttempt side then 1 else 0)
      _ ≤ slots gap last (k.time + gap) + 1 := by
        rw [if_pos hside]
        exact Nat.add_le_add_right (slots_le_slots hafter) 1
      _ = slots gap last k.time := (slots_eq_succ hgap hlast).symm
      _ ≤ slots gap last (u.due side gap now) := slots_le_slots hbefore
      _ ≤ _ := Nat.le_add_right _ _
  · rw [if_neg hside, Nat.add_zero]
    by_cases hredirection : k.isRedirection = true
    · rw [if_pos hredirection] at hnext ⊢
      calc slots gap last (v.due side gap k.time)
        _ ≤ slots gap last (v.due side gap k.time + gap) + 1 := slots_le_succ hgap
        _ ≤ slots gap last (u.due side gap now) + 1 :=
          Nat.add_le_add_right (slots_le_slots hnext) 1
    · rw [if_neg hredirection] at hnext ⊢
      exact slots_le_slots hnext

/-- There are no more attempts than there is room for. -/
theorem attempts_le_slots (side : AttemptSide) (span : Nat) (hgap : 0 < gap)
    (hretry : gap ≤ timing.retry) (hreconnect : gap ≤ timing.reconnect)
    (run : Run.after? (after? timing) u marks = some v)
    (sorted : marks.Pairwise (·.time ≤ ·.time)) (later : ∀ k ∈ marks, now ≤ k.time)
    (hstart : start ≤ now) :
    marks.countP (fun k => k.isAttempt side && k.within start span) ≤
      slots gap (start + span) (u.due side gap now) +
        marks.countP (fun k => k.isRedirection && k.within start span) := by
  induction marks generalizing u now with
  | nil => simp
  | cons k rest ih =>
    simp only [Run.after?_cons, Option.bind_eq_some_iff] at run
    obtain ⟨w, hstep, hrest⟩ := run
    obtain ⟨hafter, hsorted⟩ := List.pairwise_cons.mp sorted
    have hnow : now ≤ k.time := later k (List.mem_cons_self ..)
    by_cases hlast : k.time ≤ start + span
    · have hwithin : k.within start span = true := by
        simp only [PortMark.within, Bool.and_eq_true, decide_eq_true_eq]
        exact ⟨Nat.le_trans hstart hnow, hlast⟩
      have hroom := slots_follows side hgap hretry hreconnect (follows_of_after? hstep) hnow hlast
      have hlater := ih hrest hsorted hafter (Nat.le_trans hstart hnow)
      simp only [List.countP_cons, hwithin, Bool.and_true]
      omega
    · -- the marks are in the order of time, so the others lie behind the span as well
      have hhead : ∀ k' ∈ k :: rest, k.time ≤ k'.time :=
        List.forall_mem_cons.mpr ⟨Nat.le_refl _, hafter⟩
      have hnone : (k :: rest).countP (fun k => k.isAttempt side && k.within start span) = 0 := by
        refine List.countP_eq_zero.mpr fun k' hk' => ?_
        have hbehind : ¬ k'.time ≤ start + span := by
          have := hhead k' hk'
          omega
        simp [PortMark.within, hbehind]
      exact hnone ▸ Nat.zero_le _

/-- In any span of time there is at most one attempt, and one more for each change of the connection
    and each gap that fits into the span. -/
theorem attempts_le (hgap : 0 < gap) (hretry : gap ≤ timing.retry)
    (hreconnect : gap ≤ timing.reconnect) (run : Run.after? (after? timing) u marks = some v)
    (sorted : marks.Pairwise (·.time ≤ ·.time)) (side : AttemptSide) (start span : Nat) :
    marks.countP (fun k => k.isAttempt side && k.within start span) ≤
      1 + marks.countP (fun k => k.isRedirection && k.within start span) + span / gap := by
  induction marks generalizing u with
  | nil => simp
  | cons k rest ih =>
    obtain ⟨hafter, hsorted⟩ := List.pairwise_cons.mp sorted
    by_cases hbefore : k.time < start
    · simp only [Run.after?_cons, Option.bind_eq_some_iff] at run
      obtain ⟨w, -, hrest⟩ := run
      have hwithin : k.within start span = false := by simp [PortMark.within, hbefore]
      simpa [List.countP_cons, hwithin] using ih hrest hsorted
    · -- the first mark in the span finds room from the begin of the span on, whatever came before
      have hbegin : start ≤ k.time := Nat.le_of_not_lt hbefore
      have hstart : ∀ k' ∈ k :: rest, start ≤ k'.time :=
        List.forall_mem_cons.mpr ⟨hbegin, fun k' hk' => Nat.le_trans hbegin (hafter k' hk')⟩
      have hslots : slots gap (start + span) (u.due side gap start) ≤ 1 + span / gap :=
        slots_start hgap start span ▸ slots_le_slots (le_due side gap start u)
      have hattempts :=
        attempts_le_slots side span hgap hretry hreconnect run sorted hstart (Nat.le_refl start)
      omega

end Approach

/-! ## The link on its way -/

namespace Link

variable {l l' : Link}

/-- How the link stands to the port. -/
def StandsAt (l : Link) (u : Approach) : Prop :=
  match l.phase with
  -- after a pause the way still tells when it ended, and that time has come
  | .observing => u = .free ∨ ∃ resumeAt ≤ l.now, u = .waiting resumeAt
  | .opening c => u = .calling c
  | .pausing resumeAt => u = .waiting resumeAt
  | .reading c | .delivering c _ _ => u = .connected c
  | .ended => True

theorem Step.clock {choice : LinkChoice} (h : l.Step choice l') :
    l'.now = l.now ∧ l'.timing = l.timing := by
  cases h <;> exact ⟨rfl, rfl⟩

/-- The marks of a turn that leads to `l'`. -/
def marked (l : Link) (turn : LinkTurn) (l' : Link) : List PortMark :=
  (l.portEvent? turn l').toList.map (PortMark.mk l'.now)

theorem standsAt_of_unmarked {turn : LinkTurn} {u : Approach} (hevent : l.portEvent? turn l' = none)
    (stands : l'.StandsAt u) :
    ∃ v, l'.StandsAt v ∧
      Run.after? (Approach.after? l.timing) u (l.marked turn l') = some v :=
  ⟨u, stands, by simp [marked, hevent]⟩

/-- What a step marks fits the way that the link is on, and leads it on. -/
theorem marked_step {choice : LinkChoice} {u : Approach} (h : l.Step choice l')
    (stands : l.StandsAt u) :
    ∃ v, l'.StandsAt v ∧
      Run.after? (Approach.after? l.timing) u (l.marked (.step choice) l') = some v := by
  cases h with
  | observes hphase =>
    refine ⟨.calling l.settings.value.connection, rfl, ?_⟩
    simp only [StandsAt, hphase] at stands
    obtain rfl | ⟨resumeAt, hdue, rfl⟩ := stands
    · simp [marked, portEvent?, hphase, Approach.after?]
    · simp [marked, portEvent?, hphase, Approach.after?, observe, hdue]
  | fails hphase hport =>
    simp only [StandsAt, hphase] at stands
    subst stands
    exact ⟨_, rfl, by simp [marked, portEvent?, hphase, hport, Approach.after?]⟩
  | opens hphase hport =>
    simp only [StandsAt, hphase] at stands
    subst stands
    exact ⟨_, rfl, by simp [marked, portEvent?, hphase, hport, Approach.after?]⟩
  | @resumes resumeAt hphase hdue =>
    simp only [StandsAt, hphase] at stands
    exact standsAt_of_unmarked (by simp [portEvent?, hphase]) (.inr ⟨resumeAt, hdue, stands⟩)
  | decodes hphase _ _ =>
    simp only [StandsAt, hphase] at stands
    exact standsAt_of_unmarked (by simp [portEvent?, hphase, isConnected]) stands
  | loses hphase _ _ =>
    simp only [StandsAt, hphase] at stands
    subst stands
    refine ⟨.waiting (l.now + l.timing.reconnect), rfl, ?_⟩
    simp [marked, portEvent?, hphase, isConnected, lose, leave, publish, Approach.after?]
  | delivered hphase | served hphase _ | offers hphase _ _ =>
    simp only [StandsAt, hphase] at stands
    exact standsAt_of_unmarked (by simp [portEvent?, hphase]) stands
  | stops _ _ => exact standsAt_of_unmarked rfl trivial
  | leaves _ _ => exact standsAt_of_unmarked rfl trivial
  | adopts hphase hnews hsame =>
    simp only [StandsAt, hphase] at stands
    exact standsAt_of_unmarked (by simp [portEvent?, hphase, observes?, hnews, hsame])
      (by simpa [StandsAt, hphase] using stands)
  | reconnects hphase hnews hother =>
    simp only [StandsAt, hphase] at stands
    subst stands
    refine ⟨.free, .inl rfl, ?_⟩
    simp [marked, portEvent?, hphase, observes?, hnews, hother, Approach.after?]
  | settles hphase hnews _ _ =>
    exact standsAt_of_unmarked (by simp [portEvent?, hphase, observes?, hnews])
      (by simpa [StandsAt, hphase] using stands)
  | reads _ _ => exact standsAt_of_unmarked rfl stands

/-- So does every turn, unless the clock goes back. -/
theorem marked_turn {turn : LinkTurn} {u : Approach} (h : l.turn? turn = some l')
    (rises : l.now ≤ l'.now) (stands : l.StandsAt u) :
    l'.timing = l.timing ∧ ∃ v, l'.StandsAt v ∧
      Run.after? (Approach.after? l.timing) u (l.marked turn l') = some v := by
  cases turn with
  | step choice =>
    have hstep := step_of_step? h
    exact ⟨hstep.clock.2, marked_step hstep stands⟩
  | clock now =>
    cases h
    refine ⟨rfl, standsAt_of_unmarked rfl ?_⟩
    unfold StandsAt at stands ⊢
    cases hphase : l.phase with
    | observing =>
      simp only [hphase] at stands ⊢
      obtain hfree | ⟨resumeAt, hdue, hwaiting⟩ := stands
      · exact .inl hfree
      · exact .inr ⟨resumeAt, Nat.le_trans hdue rises, hwaiting⟩
    | ended => trivial
    | opening _ | pausing _ | reading _ | delivering _ _ _ => simpa [hphase] using stands
  | _ =>
    -- settings, boards and subscribers do not bear on how the link stands
    cases h
    exact ⟨rfl, standsAt_of_unmarked rfl stands⟩

end Link

/-! ## What is tried -/

theorem Board.opened_openPort (b : Board) (c : Connection) :
    (b.openPort c).2.opened = b.opened ++ [c] := by
  unfold openPort
  split <;> rfl

theorem Board.opened_turn (b : Board) (turn : BoardTurn) : (b.turn turn).opened = b.opened := by
  cases turn <;> rfl

theorem Board.opened_read (b : Board) (stream : Nat) : (b.read stream).2.opened = b.opened := by
  unfold read
  split <;> rfl

theorem LineReader.opened_step? {r r' : LineReader} {b b' : Board} (h : r.step? b = some (r', b')) :
    b'.opened = b.opened := by
  unfold step? at h
  split at h
  · simp only [Option.ite_none_right_eq_some, Option.some.injEq, Prod.mk.injEq] at h
    rw [← h.2.2]
  · split at h
    · cases h
    split at h
    · cases h
      rfl
    · obtain ⟨r'', -, hboard⟩ := Option.map_eq_some_iff.mp h
      cases hboard
      exact b.opened_read r.stream

namespace Link

variable {l l' : Link}

theorem tried_step {choice : LinkChoice} (h : l.Step choice l') :
    l'.board.opened = l.board.opened ++ (l.marked (.step choice) l').filterMap PortMark.tried? := by
  cases h with
  | @fails c _ _ hphase hport =>
    have hopened := l.board.opened_openPort c
    simpa [hport, marked, portEvent?, hphase, PortMark.tried?] using hopened
  | @opens c _ _ hphase hport =>
    have hopened := l.board.opened_openPort c
    simpa [hport, marked, portEvent?, hphase, PortMark.tried?] using hopened
  | loses hphase _ _ =>
    simp [marked, portEvent?, hphase, isConnected, lose, leave, publish, PortMark.tried?]
  | reconnects hphase hnews hother =>
    simp [marked, portEvent?, hphase, observes?, hnews, hother, PortMark.tried?, leave, publish]
  | adopts hphase hnews hsame => simp [marked, portEvent?, hphase, observes?, hnews, hsame]
  | settles hphase hnews _ _ => simp [marked, portEvent?, hphase, observes?, hnews]
  | reads _ hread => simpa [marked, portEvent?] using LineReader.opened_step? hread
  | observes hphase | resumes hphase _ | decodes hphase _ _ | delivered hphase | served hphase _
  | offers hphase _ _ =>
    simp [marked, portEvent?, hphase, observe, isConnected, PortMark.tried?]
  | stops _ _ | leaves _ _ => simp [marked, portEvent?, finish, leave, publish]

/-- The board notes exactly the attempts that come to an end. -/
theorem tried_turn {turn : LinkTurn} (h : l.turn? turn = some l') :
    l'.board.opened = l.board.opened ++ (l.marked turn l').filterMap PortMark.tried? := by
  cases turn with
  | step choice => exact tried_step (step_of_step? h)
  | board turn =>
    cases h
    simpa [marked, portEvent?] using l.board.opened_turn turn
  | _ =>
    cases h
    simp [marked, portEvent?]

end Link

/-! ## Runs -/

/-- The link with all that happened at the port, oldest first. -/
structure PortDiary where
  link : Link
  marks : List PortMark := []

namespace PortDiary

variable {x y : PortDiary} {turn : LinkTurn}

/-- The clock does not go back. -/
def turn? (x : PortDiary) (turn : LinkTurn) : Option PortDiary :=
  (x.link.turn? turn).bind fun link =>
    if x.link.now ≤ link.now then some { link, marks := x.marks ++ x.link.marked turn link }
    else none

def start (settings : LinkSettings) (board : Board) (timing : LinkTiming) (subscribers : Nat) :
    PortDiary :=
  { link := .new settings board timing subscribers }

structure Kept (timing : LinkTiming) (tried : List Connection) (x : PortDiary) : Prop where
  timed : x.link.timing = timing
  way : ∃ u, x.link.StandsAt u ∧ Run.after? (Approach.after? timing) .free x.marks = some u
  sorted : x.marks.Pairwise (·.time ≤ ·.time)
  past : ∀ k ∈ x.marks, k.time ≤ x.link.now
  tried : x.link.board.opened = tried ++ x.marks.filterMap PortMark.tried?

variable {timing : LinkTiming} {tried : List Connection}

theorem kept_start (settings : LinkSettings) (board : Board) (timing : LinkTiming)
    (subscribers : Nat) : (start settings board timing subscribers).Kept timing board.opened where
  timed := rfl
  way := ⟨.free, Or.inl rfl, rfl⟩
  sorted := .nil
  past := by simp [start]
  tried := by simp [start, Link.new]

theorem kept_turn (h : x.Kept timing tried) (hturn : x.turn? turn = some y) :
    y.Kept timing tried := by
  simp only [turn?, Option.bind_eq_some_iff, Option.ite_none_right_eq_some,
    Option.some.injEq] at hturn
  obtain ⟨l, hlink, hrises, rfl⟩ := hturn
  obtain ⟨u, hstands, hmarks⟩ := h.way
  obtain ⟨htiming, v, hnext, hnew⟩ := Link.marked_turn hlink hrises hstands
  have htime : ∀ k ∈ x.link.marked turn l, k.time = l.now := by simp [Link.marked]
  have hpast : ∀ k ∈ x.marks, k.time ≤ l.now := fun k hk => Nat.le_trans (h.past k hk) hrises
  rw [h.timed] at htiming hnew
  refine ⟨htiming, ⟨v, hnext, Run.after?_append_eq_some_iff.mpr ⟨u, hmarks, hnew⟩⟩,
    List.pairwise_append.mpr ⟨h.sorted, ?_, fun k hk k' hk' => htime k' hk' ▸ hpast k hk⟩,
    fun k hk => ?_, ?_⟩
  · unfold Link.marked
    cases x.link.portEvent? turn l <;> simp
  · obtain hk | hk := List.mem_append.mp hk
    · exact hpast k hk
    · exact Nat.le_of_eq (htime k hk)
  · rw [Link.tried_turn hlink, h.tried, List.filterMap_append, List.append_assoc]

/-- In every run of the link whose clock does not go back, whatever becomes of its attempts and its
    connections.  The board notes the attempts that come to an end, in order.  Between two attempts that
    follow each other, either the first one failed, and the pause after a failure has passed since; or
    its connection was lost, and the pause after a loss has passed since; or, while it was connected,
    the link looked at settings with another connection.  So in any span of time no more attempts begin,
    and no more come to an end, than one, and one for each time it looked at such settings, and one for
    each time that the shorter pause fits into the span. -/
theorem openings_paced {settings : LinkSettings} {board : Board} {subscribers : Nat}
    {turns : List LinkTurn} (hretry : 0 < timing.retry) (hreconnect : 0 < timing.reconnect)
    (hrun : Run.after? turn? (start settings board timing subscribers) turns = some x) :
    x.link.board.opened = board.opened ++ x.marks.filterMap PortMark.tried? ∧
    (∀ front a c between b d back,
      x.marks = front ++ ⟨a, .called c⟩ :: between ++ ⟨b, .called d⟩ :: back →
      (∀ k ∈ between, k.isAttempt .start = false) →
      (∃ time, ⟨time, .refused c⟩ ∈ between ∧ time + timing.retry ≤ b) ∨
      (∃ time, ⟨time, .lost⟩ ∈ between ∧ time + timing.reconnect ≤ b) ∨
      ∃ time wanted, ⟨time, .redirected c wanted⟩ ∈ between ∧ wanted ≠ c) ∧
    ∀ side start span,
      x.marks.countP (fun k => k.isAttempt side && k.within start span) ≤
        1 + x.marks.countP (fun k => k.isRedirection && k.within start span) +
          span / min timing.retry timing.reconnect := by
  have h : x.Kept timing board.opened :=
    Run.invariant (kept_start settings board timing subscribers)
      (fun _ _ _ hx hturn => kept_turn hx hturn) hrun
  obtain ⟨u, -, hway⟩ := h.way
  refine ⟨h.tried, ?_, ?_⟩
  · intro front a c between b d back hmarks hquiet
    exact Approach.between_calls hquiet (hmarks ▸ hway)
  · intro side start span
    exact Approach.attempts_le (Nat.lt_min.mpr ⟨hretry, hreconnect⟩) (Nat.min_le_left _ _)
      (Nat.min_le_right _ _) hway h.sorted side start span

/-- The first attempt fails, the first connection ends at once, and the second one is left for
    another port right after it was opened. -/
theorem openings_paced_three_ways :
    let board : Board :=
      { script := [.refused "busy", .stream 0, .stream 1, .stream 2]
        streams := [{ ending := some .closed }, {}, {}] }
    let there : LinkSettings := { connection := { port := "there" } }
    let turns : List LinkTurn :=
      [.step .proceed, .step .proceed, .clock 3, .step .proceed, .step .proceed, .step .proceed,
        .step .read, .step .read, .step .proceed, .clock 8, .step .proceed, .step .proceed,
        .step .proceed, .publish there, .step .notice, .step .proceed, .step .proceed]
    ∃ x ∈ Run.after? turn? (start {} board { retry := 3, reconnect := 5 } 0) turns,
      x.marks = [⟨0, .called {}⟩, ⟨0, .refused {}⟩, ⟨3, .called {}⟩, ⟨3, .opened {}⟩, ⟨3, .lost⟩,
        ⟨8, .called {}⟩, ⟨8, .opened {}⟩, ⟨8, .redirected {} there.connection⟩,
        ⟨8, .called there.connection⟩, ⟨8, .opened there.connection⟩] ∧
      x.link.board.opened = [{}, {}, {}, there.connection] ∧
      x.marks.countP (fun k => k.isAttempt .start && k.within 0 8) ≤ 4 := by
  intro board there turns
  have hrun : ∃ x ∈ Run.after? turn? (start {} board { retry := 3, reconnect := 5 } 0) turns,
      x.marks = [⟨0, .called {}⟩, ⟨0, .refused {}⟩, ⟨3, .called {}⟩, ⟨3, .opened {}⟩, ⟨3, .lost⟩,
        ⟨8, .called {}⟩, ⟨8, .opened {}⟩, ⟨8, .redirected {} there.connection⟩,
        ⟨8, .called there.connection⟩, ⟨8, .opened there.connection⟩] := by decide +kernel
  obtain ⟨x, hx, hmarks⟩ := hrun
  obtain ⟨htried, -, hcount⟩ := openings_paced (by decide) (by decide) hx
  have hfour := hcount .start 0 8
  rw [hmarks] at htried hfour
  refine ⟨x, hx, hmarks, htried, ?_⟩
  rw [hmarks]
  exact hfour

end PortDiary

end SliderMixer
