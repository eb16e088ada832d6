import Mathlib.Data.Bool.Basic
import SliderMixer.Proofs.AudioCalls

/-! # The claim to give up the audio system

Any number of callers may shut down one tracker.  The first of them to come so far takes a claim,
and the one that holds it gives up the audio system.

* `Call.shutsDown`: the callers that shut down; `Call.holdsClaim`: the one that holds the claim.
* `Call.claim_step`: a section takes the claim if it is free, and uses it once.
* `Callers.claim_of_run`: so do the sections of all callers together.
-/

namespace SliderMixer

variable {α : Type} [AudioSystem α]

namespace Call

/-! ## Callers that shut down -/

section

omit [AudioSystem α]

def shutsDown : Call → Bool
  | takeAll | giveBack _ .close | countSessions .close | publishCount _ .close | claimClosing
  | closeAudio => true
  | giveBack _ (.finish _) | countSessions (.finish _) | publishCount _ (.finish _) | insert _
  | erase _ | classify _ | beginRefresh _ | enumerate | replace _ | finished _ => false

/-- The caller has set out to give up the audio system, and nobody else will. -/
def holdsClaim : Call → Bool
  | closeAudio => true
  | insert _ | erase _ | classify _ | beginRefresh _ | enumerate | replace _ | takeAll
  | giveBack _ _ | countSessions _ | publishCount _ _ | claimClosing | finished _ => false

/-- Only the caller that holds the claim gives up the audio system. -/
theorem giveUp_mem_audioCalls {c : Call} : .giveUp ∈ c.audioCalls ↔ c.holdsClaim = true := by
  cases c with
  | giveBack handles next => cases handles <;> simp [audioCalls, holdsClaim]
  | _ => simp [audioCalls, holdsClaim]

end

theorem shutsDown_step (c : Call) (t : Tracker α) :
    (c.step t).1.shutsDown = (c.shutsDown && !(c.step t).1.isFinished) := by
  have hstep := c.stepped t
  generalize c.step t = next at hstep ⊢
  cases hstep with
  | returns _ _ next | returned next | counts next => cases next <;> rfl
  | _ => rfl

/-- The claim is taken by a caller that finds it free, and never given back. -/
theorem claim_step (c : Call) (t : Tracker α) :
    c.audioCalls.count .giveUp + (c.step t).1.holdsClaim.toNat + t.closing.toNat =
      c.holdsClaim.toNat + (c.step t).2.closing.toNat := by
  have hstep := c.stepped t
  generalize c.step t = next at hstep ⊢
  cases hstep with
  | claims free => simp [free, audioCalls, holdsClaim]
  | yields taken => simp [taken, audioCalls, holdsClaim]
  | closes => simp [audioCalls, holdsClaim, Tracker.closeAudio]
  | _ => simp [audioCalls, holdsClaim] <;> rfl

theorem shutsDown_of_holdsClaim {c : Call} (h : c.holdsClaim = true) : c.shutsDown = true := by
  cases c with
  | closeAudio => rfl
  | _ => cases h

/-- Other callers neither give up the audio system nor take the claim. -/
theorem claim_of_not_shutsDown {c : Call} (t : Tracker α) (h : c.shutsDown = false) :
    .giveUp ∉ c.audioCalls ∧ (c.step t).2.closing = t.closing := by
  have hnone {d : Call} (hd : d.shutsDown = false) : d.holdsClaim = false := by
    rw [← Bool.not_eq_true]
    intro hholds
    rw [shutsDown_of_holdsClaim hholds] at hd
    cases hd
  have hgives : .giveUp ∉ c.audioCalls := by simp [giveUp_mem_audioCalls, hnone h]
  have hnext : (c.step t).1.shutsDown = false := by rw [shutsDown_step, h, Bool.false_and]
  have hstep := c.claim_step t
  rw [List.count_eq_zero_of_not_mem hgives, hnone hnext, hnone h] at hstep
  exact ⟨hgives, (Function.LeftInverse.injective Bool.ofNat_toNat) (by simpa using hstep.symm)⟩

theorem ComesTo.closing {c d : Call} {t u : Tracker α} (h : c.ComesTo t d u)
    (hc : c.shutsDown = false) : u.closing = t.closing := by
  induction h with
  | refl c t => rfl
  | @step c d t u _ ih =>
    have hnext : (c.step t).1.shutsDown = false := by rw [shutsDown_step, hc, Bool.false_and]
    exact (ih hnext).trans (claim_of_not_shutsDown t hc).2

/-- A caller that has the claim or finds it free goes on like that, until it is finished. -/
theorem claim_of_shutsDown {c : Call} {t : Tracker α} (hclaim : t.closing = c.holdsClaim)
    (hnext : (c.step t).1.isFinished = false) :
    .giveUp ∉ c.audioCalls ∧ (c.step t).2.closing = (c.step t).1.holdsClaim := by
  have hgives : .giveUp ∉ c.audioCalls := by
    rw [giveUp_mem_audioCalls]
    intro hholds
    cases c with
    | closeAudio => cases hnext
    | _ => cases hholds
  have hstep := c.claim_step t
  rw [List.count_eq_zero_of_not_mem hgives, hclaim] at hstep
  exact ⟨hgives, (Function.LeftInverse.injective Bool.ofNat_toNat) (by omega)⟩

/-- A caller that has the claim, or finds it free, gives back its handles and gives up the audio
    system. -/
theorem due_of_shutsDown {c : Call} {t : Tracker α} (h : c.shutsDown = true)
    (hclaim : t.closing = c.holdsClaim) :
    ∃ handles : List Session, c.due t = handles.map .giveBack ++ [.giveUp] := by
  cases c with
  | takeAll => exact ⟨t.takeAll.1, by simp [due, dueGivenUp, hclaim, holdsClaim]⟩
  | giveBack handles next =>
    cases next with
    | finish r => cases h
    | close => exact ⟨handles, by simp [due, dueAfter, dueGivenUp, hclaim, holdsClaim]⟩
  | countSessions next | publishCount _ next =>
    cases next with
    | finish r => cases h
    | close => exact ⟨[], by simp [due, dueAfter, dueGivenUp, hclaim, holdsClaim]⟩
  | claimClosing => exact ⟨[], by simp [due, dueGivenUp, hclaim, holdsClaim]⟩
  | closeAudio => exact ⟨[], rfl⟩
  | _ => cases h

/-- What a shutdown still asks depends on the directory, the mode and the claim. -/
theorem due_congr {c : Call} {t t' : Tracker α} (h : c.shutsDown = true)
    (hdirectory : t'.directory = t.directory) (hmode : t'.mode = t.mode)
    (hclosing : t'.closing = t.closing) : c.due t' = c.due t := by
  have htakeAll : t'.takeAll.1 = t.takeAll.1 := by simp only [Tracker.takeAll, hdirectory, hmode]
  cases c with
  | takeAll => simp only [due, dueGivenUp, htakeAll, hclosing]
  | giveBack handles next => cases next <;> simp only [due, dueAfter, dueGivenUp, hclosing]
  | countSessions next => cases next <;> simp only [due, dueAfter, dueGivenUp, hclosing]
  | publishCount n next => cases next <;> simp only [due, dueAfter, dueGivenUp, hclosing]
  | claimClosing => simp only [due, dueGivenUp, hclosing]
  | closeAudio => rfl
  | _ => cases h

/-- A shutdown finishes with the outcome of giving up the audio system. -/
theorem finished_of_shutsDown {c : Call} (t : Tracker α) (h : c.shutsDown = true)
    (hnext : (c.step t).1.isFinished = true) : ∃ r, (c.step t).1 = .finished (.closed r) := by
  cases c with
  | giveBack handles next =>
    cases next with
    | finish r => cases h
    | close => cases handles <;> cases hnext
  | countSessions next => cases hnext
  | publishCount n next =>
    cases next with
    | finish r => cases h
    | close => cases hnext
  | takeAll => cases hnext
  | claimClosing =>
    cases hclosing : t.closing
    · simp [step, Tracker.claimClosing, hclosing, isFinished] at hnext
    · exact ⟨.ok (), by simp [step, Tracker.claimClosing, hclosing]⟩
  | closeAudio => exact ⟨_, rfl⟩
  | _ => cases h

/-- The claim is never given back. -/
theorem closing_mono (c : Call) {t : Tracker α} (h : t.closing = true) :
    (c.step t).2.closing = true := by
  have hstep := c.claim_step t
  cases hclaim : c.holdsClaim with
  | true =>
    cases c with
    | closeAudio => exact h
    | _ => cases hclaim
  | false =>
    rw [hclaim, h] at hstep
    cases hnext : (c.step t).2.closing with
    | true => rfl
    | false =>
      rw [hnext] at hstep
      simp at hstep

/-- A shutdown has a result only when the claim is taken. -/
theorem closed_step {c : Call} {t : Tracker α} {r : Except BackendError Unit}
    (h : (c.step t).1.outcome? = some (.closed r)) :
    c.outcome? = some (.closed r) ∨ t.closing = true ∨ c.holdsClaim = true := by
  have hstep := c.stepped t
  generalize c.step t = next at hstep h
  cases hstep with
  | returns _ _ next | returned next | counts next => cases next <;> exact .inl h
  | publishes _ _ | rests _ => exact .inl h
  | yields taken => exact .inr (.inl taken)
  | closes => exact .inr (.inr rfl)
  | _ => cases h

/-- Who has a result keeps it. -/
theorem outcome?_step {c : Call} {r : CallResult} (h : c.outcome? = some r) (t : Tracker α) :
    (c.step t).1.outcome? = some r := by
  cases c with
  | giveBack handles next => cases handles <;> cases next <;> exact h
  | countSessions next => cases next <;> exact h
  | publishCount n next =>
    cases next with
    | finish result => exact h
    | close => cases h
  | finished r => exact h
  | _ => cases h

/-- The caller has set out to shut down, and is not done, or has the outcome. -/
def Shuts (c : Call) : Prop := c.shutsDown = true ∨ ∃ r, c.outcome? = some (.closed r)

theorem Shuts.step {c : Call} (h : c.Shuts) (t : Tracker α) : (c.step t).1.Shuts := by
  rcases h with h | ⟨r, h⟩
  · cases hnext : (c.step t).1.isFinished with
    | false => exact .inl (by rw [shutsDown_step, h, hnext]; rfl)
    | true =>
      obtain ⟨r, hr⟩ := finished_of_shutsDown t h hnext
      exact .inr ⟨r, by rw [hr]; rfl⟩
  · exact .inr ⟨r, outcome?_step h t⟩

theorem ComesTo.claim {c d : Call} {t u : Tracker α} (h : c.ComesTo t d u)
    (hd : d.isFinished = true) :
    (c.due t).count .giveUp + t.closing.toNat = c.holdsClaim.toNat + u.closing.toNat := by
  induction h with
  | refl c t =>
    obtain ⟨r, rfl⟩ := eq_finished_of_isFinished hd
    simp [due, holdsClaim]
  | @step c d t u _ ih =>
    have hsection := c.claim_step t
    have hrest := ih hd
    rw [due_step, List.count_append]
    omega

end Call

/-! ## Many callers -/

namespace Callers

/-- The audio system was given up, or one caller is about to do it, if the claim is taken. -/
structure Claimed (front : List (Turn α)) (asked : List AudioCall) (c : Callers α) : Prop where
  once : asked.count .giveUp + c.callers.countP (fun caller => caller.call.holdsClaim) =
    c.tracker.closing.toNat
  closed : ∀ caller ∈ c.callers, ∀ r, caller.call.outcome? = some (.closed r) →
    c.tracker.closing = true
  begun : .begin .shutdown ∈ front → ∃ caller ∈ c.callers, caller.call.Shuts
  performed : .perform .shutdown ∈ front → c.tracker.closing = true

variable {front : List (Turn α)} {asked : List AudioCall} {c d : Callers α}

omit [AudioSystem α] in
/-- The claim is taken if someone holds it. -/
theorem Claimed.taken (h : Claimed front asked c) {caller : Caller} (hcaller : caller ∈ c.callers)
    (hholds : caller.call.holdsClaim = true) : c.tracker.closing = true := by
  have hpos : 0 < c.callers.countP fun caller => caller.call.holdsClaim :=
    List.countP_pos_iff.mpr ⟨caller, hcaller, hholds⟩
  have honce := h.once
  cases hclosing : c.tracker.closing with
  | true => rfl
  | false =>
    rw [hclosing] at honce
    simp only [Bool.toNat_false] at honce
    omega

/-- A caller in place of another counts instead of it. -/
theorem countP_set {callers : List Caller} {i : Nat} {caller : Caller}
    (hget : callers[i]? = some caller) (p : Caller → Bool) (new : Caller) :
    (callers.set i new).countP p + (p caller).toNat = callers.countP p + (p new).toNat := by
  obtain ⟨hi, rfl⟩ := List.getElem?_eq_some_iff.mp hget
  have hle := List.boole_getElem_le_countP (p := p) hi
  rw [List.countP_set hi]
  cases hp : p callers[i] <;> cases p new <;>
    simp only [hp, if_true, Bool.false_eq_true, if_false, Bool.toNat_true, Bool.toNat_false]
      at hle ⊢ <;> omega

theorem holdsClaim_call (op : Operation) : op.call.holdsClaim = false := by
  cases op with
  | handle e =>
    cases hchange : e.change <;> simp only [Operation.call, Call.handle, hchange] <;> rfl
  | _ => rfl

theorem outcome?_call (op : Operation) : op.call.outcome? = none := by
  cases op with
  | handle e =>
    cases hchange : e.change <;> simp only [Operation.call, Call.handle, hchange] <;> rfl
  | _ => rfl

theorem claimed_proceed (h : Claimed front asked c) {i : Nat} {caller : Caller}
    (hget : c.callers[i]? = some caller) :
    Claimed (front ++ [.proceed i]) (asked ++ caller.call.audioCalls) {
      tracker := (caller.call.step c.tracker).2
      callers := c.callers.set i (caller.proceed c.tracker c.flat)
      flat := caller.call.flat c.flat } := by
  have hmem := List.mem_of_getElem? hget
  refine ⟨?_, fun other hother r hr => ?_, fun hbegun => ?_, fun hperformed => ?_⟩
  · have hcount := countP_set hget (fun caller => caller.call.holdsClaim)
      (caller.proceed c.tracker c.flat)
    have hclaim := caller.call.claim_step c.tracker
    have honce := h.once
    simp only [Caller.proceed] at hcount ⊢
    rw [List.count_append]
    omega
  · rcases List.mem_or_eq_of_mem_set hother with hother | rfl
    · exact caller.call.closing_mono (h.closed other hother r hr)
    · rcases Call.closed_step hr with hr | hclosing | hholds
      · exact caller.call.closing_mono (h.closed caller hmem r hr)
      · exact caller.call.closing_mono hclosing
      · exact caller.call.closing_mono (h.taken hmem hholds)
  · exact exists_mem_set hget (fun hshuts => hshuts.step c.tracker)
      (h.begun (by simpa using hbegun))
  · exact caller.call.closing_mono (h.performed (by simpa using hperformed))

theorem claimed_perform (h : Claimed front asked c) (op : Operation) :
    Claimed (front ++ [.perform op]) (asked ++ op.call.due c.tracker)
      { c with tracker := op.perform c.tracker, flat := op.flat c.tracker c.flat } := by
  have hsections := op.comesTo_perform c.tracker
  have hclaim := hsections.claim rfl
  rw [holdsClaim_call, Bool.toNat_false, Nat.zero_add] at hclaim
  have hmono (hclosing : c.tracker.closing = true) : (op.perform c.tracker).closing = true := by
    rw [hclosing, Bool.toNat_true] at hclaim
    cases hnext : (op.perform c.tracker).closing with
    | true => rfl
    | false => simp [hnext] at hclaim
  refine ⟨?_, fun other hother r hr => hmono (h.closed other hother r hr),
    fun hbegun => h.begun (by simpa using hbegun), fun hperformed => ?_⟩
  · have honce := h.once
    rw [List.count_append]
    dsimp only
    omega
  · cases hclosing : c.tracker.closing with
    | true => exact hmono hclosing
    | false =>
      rcases List.mem_append.mp hperformed with hperformed | hperformed
      · exact absurd (h.performed hperformed) (by simp [hclosing])
      · obtain rfl : Operation.shutdown = op := by simpa using hperformed
        obtain ⟨handles, hdue⟩ := Call.due_of_shutsDown (c := .shutdown) rfl hclosing
        simp only [Operation.call] at hclaim
        rw [hdue, List.count_append] at hclaim
        cases hnext : (Operation.shutdown.perform c.tracker).closing with
        | true => rfl
        | false => simp [hnext] at hclaim

theorem claimed_turn (h : Claimed front asked c) {turn : Turn α} (hturn : c.turn? turn = some d) :
    Claimed (front ++ [turn]) (asked ++ c.audioCalls turn) d := by
  cases turn with
  | begin op =>
    cases hturn
    rw [audioCalls, List.append_nil]
    refine ⟨?_, fun caller hcaller r hr => ?_, fun hbegun => ?_,
      fun hperformed => h.performed (by simpa using hperformed)⟩
    · simpa [holdsClaim_call] using h.once
    · rcases List.mem_append.mp hcaller with hcaller | hcaller
      · exact h.closed caller hcaller r hr
      · rw [List.mem_singleton.mp hcaller, outcome?_call] at hr
        cases hr
    · rcases List.mem_append.mp hbegun with hbegun | hbegun
      · obtain ⟨caller, hcaller, hshuts⟩ := h.begun hbegun
        exact ⟨caller, List.mem_append_left _ hcaller, hshuts⟩
      · obtain rfl : Operation.shutdown = op := by simpa using hbegun
        exact ⟨_, List.mem_append_right _ (List.mem_singleton_self _), .inl rfl⟩
  | proceed i =>
    simp only [turn?, Option.map_eq_some_iff] at hturn
    obtain ⟨caller, hget, rfl⟩ := hturn
    rw [audioCalls, hget]
    exact claimed_proceed h hget
  | perform op =>
    cases hturn
    exact claimed_perform h op
  | audio audio | clock now =>
    cases hturn
    rw [audioCalls, List.append_nil]
    exact { h with
      begun := fun hbegun => h.begun (by simpa using hbegun)
      performed := fun hperformed => h.performed (by simpa using hperformed) }

/-- The audio system is given up once at most, and once if someone has shut down the tracker and all
    callers are finished. -/
theorem claim_of_run {audio : α} {mode : TrackingMode} {mappedKeys : List String}
    {minInterval : Nat} {turns : List (Turn α)}
    (hrun : Run.after? turn? (new audio mode mappedKeys minInterval) turns = some c) :
    let calls := Run.collect turn? audioCalls (new audio mode mappedKeys minInterval) turns
    calls.count .giveUp ≤ 1 ∧
    ((.begin .shutdown ∈ turns ∨ .perform .shutdown ∈ turns) →
      (∀ caller ∈ c.callers, caller.call.isFinished = true) → calls.count .giveUp = 1) := by
  intro calls
  have h : Claimed turns calls c := by
    refine Run.invariant_of_history
      (P := fun front d => Claimed front
        (Run.collect turn? audioCalls (new audio mode mappedKeys minInterval) front) d)
      (Q := fun _ _ => True) ?_ ?_ (Run.along_of_forall (fun _ _ => trivial) _ _) hrun
    · exact ⟨rfl, fun _ hcaller => absurd hcaller List.not_mem_nil,
        fun hbegun => absurd hbegun List.not_mem_nil,
        fun hperformed => absurd hperformed List.not_mem_nil⟩
    · intro front u turn v hfront hu _ hturn
      rw [Run.collect_snoc hfront]
      exact claimed_turn hu hturn
  have honce := h.once
  refine ⟨?_, fun hshutdown hfinished => ?_⟩
  · have hle := Bool.toNat_le c.tracker.closing
    omega
  · have hnobody : c.callers.countP (fun caller => caller.call.holdsClaim) = 0 := by
      refine List.countP_eq_zero.mpr fun caller hcaller hholds => ?_
      obtain ⟨r, hr⟩ := Call.eq_finished_of_isFinished (hfinished caller hcaller)
      simp [hr, Call.holdsClaim] at hholds
    have hclosing : c.tracker.closing = true := by
      rcases hshutdown with hbegun | hperformed
      · obtain ⟨caller, hcaller, hshuts | ⟨r, hr⟩⟩ := h.begun hbegun
        · obtain ⟨r, hr⟩ := Call.eq_finished_of_isFinished (hfinished caller hcaller)
          simp [hr, Call.shutsDown] at hshuts
        · exact h.closed caller hcaller r hr
      · exact h.performed hperformed
    rw [hnobody, hclosing] at honce
    simpa using honce

end Callers

end SliderMixer
