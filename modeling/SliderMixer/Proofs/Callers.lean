import SliderMixer.Audio.Memory
import SliderMixer.Proofs.FlatDirectory
import SliderMixer.Proofs.Run
import SliderMixer.Proofs.Sections

/-! # Callers at one tracker

Any number of callers may work on a tracker at the same time, and their sections come
in any order.

* `Operation` is what a caller can ask for, `Turn` what can happen next.
* `Operation.comesTo_perform`: an operation done as a whole is its sections in a row.
* `Callers` puts beside the tracker the flat directory that the sections done so far
  make, and beside each caller the answer that the flat directory gives it.
* `Callers.performs_alone`: a caller that goes on alone does its operation as a whole.
* `Callers.shows_flat`: in every order of the turns, the tracker shows the flat directory
  and gives its answers.
-/

namespace SliderMixer

variable {α : Type} [AudioSystem α]

/-! ## Operations -/

inductive Operation where
  | add (s : Session)
  | remove (s : Session)
  | handle (e : SessionEvent)
  | classify (mappedKeys : List String)
  | refresh (force : Bool)
  | shutdown

namespace Operation

/-- The first section of the operation. -/
def call : Operation → Call
  | add s => .add s
  | remove s => .remove s
  | handle e => .handle e
  | classify mappedKeys => .classify mappedKeys
  | refresh force => .refresh force
  | shutdown => .shutdown

/-- The operation as a whole. -/
def perform (t : Tracker α) : Operation → Tracker α
  | add s => t.add s
  | remove s => (t.remove s).2
  | handle e => t.handle e
  | classify mappedKeys => t.classify mappedKeys
  | refresh force => (t.refresh force).2
  | shutdown => t.shutdown.2

/-- What the operation as a whole returns. -/
def result (t : Tracker α) : Operation → CallResult
  | add _ | classify _ => .done
  | remove s => .removed (t.remove s).1
  | handle e =>
    match e.change with
    | .added => .done
    | .removed => .removed (t.remove e.session).1
  | refresh force => .refreshed (t.refresh force).1
  | shutdown => .closed t.shutdown.1

/-- What the operation makes of a flat directory.  A refresh that is put off or fails
    leaves it alone. -/
def flat (t : Tracker α) (f : FlatDirectory) : Operation → FlatDirectory
  | add s => f.add s
  | remove s => f.remove s
  | handle e =>
    match e.change with
    | .added => f.add e.session
    | .removed => f.remove e.session
  | classify mappedKeys => f.classify mappedKeys
  | refresh force =>
    match (t.refresh force).1 with
    | .ok (.refreshed _) => f.replace (listed t.audio)
    | .ok .throttled | .error _ => f
  | shutdown => f.replace []

/-- The sessions that the operation brings along. -/
def sessions : Operation → List Session
  | add s | remove s => [s]
  | handle e => [e.session]
  | classify _ | refresh _ | shutdown => []

end Operation

/-- The flat directory with the sessions there are, if they can be listed. -/
def FlatDirectory.listing (f : FlatDirectory) (audio : α) : FlatDirectory :=
  match (AudioSystem.enumerate audio).1 with
  | .ok fresh => f.replace fresh
  | .error _ => f

/-! ## Sections -/

namespace Call

/-- The answer of a flat directory to a removal. -/
def answer? (f : FlatDirectory) : Call → Option Bool
  | erase s => some (decide (s ∈ f.held))
  | insert _ | classify _ | beginRefresh _ | enumerate | replace _ | takeAll | giveBack _ _
  | countSessions _ | publishCount _ _ | claimClosing | closeAudio | finished _ => none

/-- What the sections left to the caller make of a flat directory, if nobody comes in
    between. -/
def flatDue (t : Tracker α) (f : FlatDirectory) : Call → FlatDirectory
  | insert s => f.add s
  | erase s => f.remove s
  | classify mappedKeys => f.classify mappedKeys
  | beginRefresh force => (t.beginRefresh force).elim f fun t => f.listing t.audio
  | enumerate => f.listing t.audio
  | replace fresh => f.replace fresh
  | takeAll => f.replace []
  | giveBack _ _ | countSessions _ | publishCount _ _ | claimClosing | closeAudio | finished _ => f

theorem flatDue_step (c : Call) (t : Tracker α) (f : FlatDirectory) :
    c.flatDue t f = (c.step t).1.flatDue (c.step t).2 (c.flat f) := by
  have hstep := c.stepped t
  generalize c.step t = next at hstep ⊢
  cases hstep with
  | begins free => simp [flatDue, flat, Tracker.beginRefresh, free]
  | throttles recent => simp [flatDue, flat, Tracker.beginRefresh, recent]
  | lists answer | fails answer => simp [flatDue, flat, FlatDirectory.listing, answer]
  | _ => rfl

/-- The sessions that the caller still brings into the directory or takes out of it. -/
def sessions : Call → List Session
  | insert s | erase s => [s]
  | replace fresh => fresh
  | classify _ | beginRefresh _ | enumerate | takeAll | giveBack _ _ | countSessions _
  | publishCount _ _ | claimClosing | closeAudio | finished _ => []

theorem sessions_call (op : Operation) : op.call.sessions ⊆ op.sessions := by
  cases op with
  | handle e =>
    obtain ⟨change, name, s⟩ := e
    cases change <;> exact List.Subset.refl _
  | _ => exact List.Subset.refl _

/-- A caller brings what it brought before, or what it has just listed. -/
theorem sessions_step (c : Call) (t : Tracker α) :
    (c.step t).1.sessions ⊆ c.sessions ++ listed t.audio := by
  have hstep := c.stepped t
  generalize c.step t = next at hstep ⊢
  cases hstep with
  | lists answer => simp [sessions, listed, answer, Except.toOption]
  | _ => simp [sessions]

variable {keyOf : Nat → String} {t : Tracker α} {f : FlatDirectory}

/-- A section does to the directory what it does to the flat one. -/
theorem follows_step (c : Call) (h : t.directory.Follows keyOf f)
    (keyed : ∀ s ∈ c.sessions, s.KeyedBy keyOf) :
    (c.step t).2.directory.Follows keyOf (c.flat f) where
  lists := by
    apply c.lists_step_directory h.lists
    rintro s rfl
    exact h.copies (keyed s List.mem_cons_self)
  keyed := by
    cases c with
    | insert s => exact (h.insert (keyed s List.mem_cons_self)).keyed
    | erase s => exact (h.remove (keyed s List.mem_cons_self)).keyed
    | replace fresh => exact keyed
    | takeAll => exact h.takeAll.keyed
    | _ => exact h.keyed

end Call

namespace Operation

/-- An operation done as a whole is its sections in a row. -/
theorem comesTo_perform (op : Operation) (t : Tracker α) :
    op.call.ComesTo t (.finished (op.result t)) (op.perform t) := by
  have hadd (s : Session) : (Call.add s).ComesTo t (.finished .done) (t.add s) :=
    .step (.step (.step (.refl _ _)))
  have hremove (s : Session) :
      (Call.remove s).ComesTo t (.finished (.removed (t.remove s).1)) (t.remove s).2 := by
    refine .step ?_
    cases hfound : (t.directory.remove s).1 <;>
      simp only [Call.remove, Call.step, Tracker.remove, Tracker.erase, hfound, if_true]
    · exact .refl _ _
    · exact .step (.step (.refl _ _))
  cases op with
  | add s => exact hadd s
  | remove s => exact hremove s
  | handle e =>
    cases hchange : e.change <;>
      simp only [call, result, perform, Call.handle, Tracker.handle, hchange]
    · exact hadd e.session
    · exact hremove e.session
  | classify mappedKeys => exact .step (.refl _ _)
  | refresh force => exact Call.comesTo_refresh t force
  | shutdown => exact Call.comesTo_shutdown t

theorem flat_eq_due (op : Operation) (t : Tracker α) (f : FlatDirectory) :
    op.flat t f = op.call.flatDue t f := by
  cases op with
  | handle e => cases hchange : e.change <;> simp [flat, call, Call.handle, hchange] <;> rfl
  | refresh force =>
    rcases t.refresh_cases force with
      ⟨hbegin, hrefresh⟩ | ⟨begun, e, audio, hbegin, hlist, hrefresh⟩ |
      ⟨begun, fresh, audio, hbegin, hlist, hrefresh⟩
    · simp [flat, call, Call.refresh, Call.flatDue, hbegin, hrefresh]
    · simp [flat, call, Call.refresh, Call.flatDue, FlatDirectory.listing, hbegin, hlist, hrefresh]
    · obtain ⟨directory, -, rfl⟩ := Tracker.beginRefresh_eq_some hbegin
      simp [flat, call, Call.refresh, Call.flatDue, FlatDirectory.listing, listed, hbegin, hlist,
        hrefresh, Except.toOption]
  | _ => rfl

variable {keyOf : Nat → String} {t : Tracker α} {f : FlatDirectory}

theorem follows_refresh (force : Bool) (h : t.directory.Follows keyOf f)
    (keyed : ∀ s ∈ listed t.audio, s.KeyedBy keyOf) :
    (t.refresh force).2.directory.Follows keyOf ((refresh force).flat t f) := by
  rcases t.refresh_cases force with
    ⟨-, hrefresh⟩ | ⟨begun, e, audio, hbegin, -, hrefresh⟩ |
    ⟨begun, fresh, audio, hbegin, hlist, hrefresh⟩
  · simpa [flat, hrefresh] using h
  · obtain ⟨directory, hdirectory, rfl⟩ := Tracker.beginRefresh_eq_some hbegin
    simpa [flat, hrefresh] using h.beginRefresh hdirectory
  · obtain ⟨directory, hdirectory, rfl⟩ := Tracker.beginRefresh_eq_some hbegin
    have hlisted : listed t.audio = fresh := by simp [listed, hlist, Except.toOption]
    rw [hlisted] at keyed
    simpa [flat, hrefresh, hlisted, Tracker.replace]
      using (h.beginRefresh hdirectory).replaceAll keyed

/-- An operation done as a whole does to the directory what it does to the flat one. -/
theorem follows_perform (op : Operation) (h : t.directory.Follows keyOf f)
    (keyed : ∀ s ∈ op.sessions ++ listed t.audio, s.KeyedBy keyOf) :
    (op.perform t).directory.Follows keyOf (op.flat t f) := by
  cases op with
  | add s => exact h.insert (keyed s (by simp [sessions]))
  | remove s =>
    rw [perform, Tracker.directory_remove]
    exact h.remove (keyed s (by simp [sessions]))
  | handle e =>
    have hs : e.session.KeyedBy keyOf := keyed e.session (by simp [sessions])
    simp only [perform, Tracker.handle, flat]
    cases e.change with
    | added => exact h.insert hs
    | removed => rw [Tracker.directory_remove]; exact h.remove hs
  | classify mappedKeys => exact h.classify mappedKeys
  | refresh force =>
    exact follows_refresh force h fun s hs => keyed s (List.mem_append_right _ hs)
  | shutdown =>
    rw [perform, Tracker.directory_shutdown]
    exact h.takeAll

end Operation

/-! ## Callers -/

/-- A caller, and the answer of the flat directory to its removal. -/
structure Caller where
  call : Call
  answer : Option Bool := none

/-- A tracker with its callers, and the flat directory that their sections make. -/
structure Callers (α : Type) where
  tracker : Tracker α
  callers : List Caller := []
  flat : FlatDirectory

/-- What can happen next. -/
inductive Turn (α : Type) where
  /-- A caller sets out. -/
  | begin (op : Operation)
  /-- A caller does its next section. -/
  | proceed (caller : Nat)
  /-- An operation is done as a whole. -/
  | perform (op : Operation)
  /-- The audio system changes. -/
  | audio (audio : α)
  | clock (now : Nat)

/-- The sessions that come in with the turn. -/
def Turn.sessions : Turn α → List Session
  | begin op | perform op => op.sessions
  | proceed _ | audio _ | clock _ => []

/-- The caller after its next section. -/
def Caller.proceed (caller : Caller) (t : Tracker α) (f : FlatDirectory) : Caller where
  call := (caller.call.step t).1
  answer := (caller.call.answer? f).or caller.answer

/-- A caller brings sessions with constant keys, and the result of its removal is the
    answer of the flat directory. -/
structure Caller.Fits (keyOf : Nat → String) (caller : Caller) : Prop where
  keyed : ∀ s ∈ caller.call.sessions, s.KeyedBy keyOf
  answer : ∀ found, caller.call.outcome? = some (.removed found) → caller.answer = some found

namespace Callers

/-- Nobody has called yet. -/
def new (audio : α) (mode : TrackingMode) (mappedKeys : List String) (minInterval : Nat) :
    Callers α :=
  { tracker := .new audio mode mappedKeys minInterval, flat := { mappedKeys } }

def turn? (c : Callers α) : Turn α → Option (Callers α)
  | .begin op => some { c with callers := c.callers ++ [{ call := op.call }] }
  | .proceed i => c.callers[i]?.map fun caller =>
    { tracker := (caller.call.step c.tracker).2
      callers := c.callers.set i (caller.proceed c.tracker c.flat)
      flat := caller.call.flat c.flat }
  | .perform op => some { c with tracker := op.perform c.tracker, flat := op.flat c.tracker c.flat }
  | .audio audio => some { c with tracker := { c.tracker with audio } }
  | .clock now => some { c with tracker := { c.tracker with now } }

/-- Each session that comes in or could be listed has the key of its identity. -/
def KeysConstant (keyOf : Nat → String) (c : Callers α) (turn : Turn α) : Prop :=
  ∀ s ∈ turn.sessions ++ listed c.tracker.audio, s.KeyedBy keyOf

instance (keyOf : Nat → String) (c : Callers α) (turn : Turn α) :
    Decidable (c.KeysConstant keyOf turn) :=
  inferInstanceAs (Decidable (∀ s ∈ turn.sessions ++ listed c.tracker.audio, s.KeyedBy keyOf))

/-- What holds of some caller still does after one of them went on, if it did not lose it. -/
theorem exists_mem_set {callers : List Caller} {i : Nat} {caller new : Caller}
    (hget : callers[i]? = some caller) {p : Caller → Prop} (hnew : p caller → p new)
    (h : ∃ other ∈ callers, p other) : ∃ other ∈ callers.set i new, p other := by
  obtain ⟨other, hother, hp⟩ := h
  obtain ⟨j, hj⟩ := List.mem_iff_getElem?.mp hother
  by_cases hij : i = j
  · subst hij
    cases hget.symm.trans hj
    have hi : i < callers.length := (List.getElem?_eq_some_iff.mp hget).1
    exact ⟨new, List.mem_of_getElem? (List.getElem?_set_self hi), hnew hp⟩
  · exact ⟨other, List.mem_iff_getElem?.mpr ⟨j, by rw [List.getElem?_set_ne hij, hj]⟩, hp⟩

/-! ## Every order of turns -/

/-- The tracker follows the flat directory, and so do its callers. -/
structure Fits (keyOf : Nat → String) (c : Callers α) : Prop where
  follows : c.tracker.directory.Follows keyOf c.flat
  callers : ∀ caller ∈ c.callers, caller.Fits keyOf

variable {keyOf : Nat → String}

/-- Whoever sets out has no result yet. -/
theorem fits_begin {op : Operation} (keyed : ∀ s ∈ op.sessions, s.KeyedBy keyOf) :
    Caller.Fits keyOf { call := op.call } where
  keyed s hs := keyed s (Call.sessions_call op hs)
  answer found h := by
    cases op with
    | handle e =>
      obtain ⟨change, name, s⟩ := e
      cases change <;> cases h
    | _ => cases h

theorem fits_proceed {caller : Caller} {t : Tracker α} {f : FlatDirectory}
    (h : caller.Fits keyOf) (follows : t.directory.Follows keyOf f)
    (keyed : ∀ s ∈ listed t.audio, s.KeyedBy keyOf) : (caller.proceed t f).Fits keyOf where
  keyed s hs := by
    rcases List.mem_append.mp (Call.sessions_step caller.call t hs) with hs | hs
    · exact h.keyed s hs
    · exact keyed s hs
  answer found hout := by
    by_cases herase : ∃ s, caller.call = .erase s
    · -- the erasure finds the session exactly if the flat directory holds it
      obtain ⟨s, hcall⟩ := herase
      have hs : s.KeyedBy keyOf := h.keyed s (by simp [hcall, Call.sessions])
      simp only [Caller.proceed, hcall, Call.outcome?_erase, follows.remove_found hs,
        Option.some.injEq, CallResult.removed.injEq] at hout
      simp [Caller.proceed, hcall, Call.answer?, hout]
    · have hout := (Call.outcome?_of_step hout).resolve_right herase
      have hanswer : caller.call.answer? f = none := by
        cases hcall : caller.call with
        | erase s => exact absurd ⟨s, hcall⟩ herase
        | _ => rfl
      simpa [Caller.proceed, hanswer] using h.answer found hout

theorem fits_turn {c d : Callers α} {turn : Turn α} (h : c.Fits keyOf)
    (constant : c.KeysConstant keyOf turn) (hturn : c.turn? turn = some d) : d.Fits keyOf := by
  have hturned (s : Session) (hs : s ∈ turn.sessions) : s.KeyedBy keyOf :=
    constant s (List.mem_append_left _ hs)
  have hlisted (s : Session) (hs : s ∈ listed c.tracker.audio) : s.KeyedBy keyOf :=
    constant s (List.mem_append_right _ hs)
  cases turn with
  | begin op =>
    cases hturn
    refine ⟨h.follows, fun caller hcaller => ?_⟩
    rcases List.mem_append.mp hcaller with hcaller | hcaller
    · exact h.callers caller hcaller
    · exact List.mem_singleton.mp hcaller ▸ fits_begin hturned
  | proceed i =>
    simp only [turn?, Option.map_eq_some_iff] at hturn
    obtain ⟨caller, hget, rfl⟩ := hturn
    have hfits := h.callers caller (List.mem_of_getElem? hget)
    refine ⟨caller.call.follows_step h.follows hfits.keyed, fun other hother => ?_⟩
    rcases List.mem_or_eq_of_mem_set hother with hother | rfl
    · exact h.callers other hother
    · exact fits_proceed hfits h.follows hlisted
  | perform op =>
    cases hturn
    exact ⟨op.follows_perform h.follows constant, h.callers⟩
  | audio audio =>
    cases hturn
    exact ⟨h.follows, h.callers⟩
  | clock now =>
    cases hturn
    exact ⟨h.follows, h.callers⟩

/-- However the sections of the callers come, the directory follows the flat one. -/
theorem follows_of_run {audio : α} {mode : TrackingMode} {mappedKeys : List String}
    {minInterval : Nat} {turns : List (Turn α)} {c : Callers α}
    (constant : Run.Along turn? (KeysConstant keyOf) (new audio mode mappedKeys minInterval) turns)
    (run : Run.after? turn? (new audio mode mappedKeys minInterval) turns = some c) :
    c.tracker.directory.Follows keyOf c.flat := by
  have hfits : c.Fits keyOf :=
    Run.invariant_of_step ⟨.new mappedKeys, fun _ h => absurd h List.not_mem_nil⟩
      (fun _ _ _ h hconstant hturn => fits_turn h hconstant hturn) constant run
  exact hfits.follows

/-! ## One caller alone -/

/-- A caller that goes on alone, the last of all, comes to what its sections in a row come to. -/
theorem proceeds_alone {call d : Call} {t u : Tracker α} (h : call.ComesTo t d u)
    (others : List Caller) (answer : Option Bool) (f : FlatDirectory) :
    ∃ n answer' f', d.flatDue u f' = call.flatDue t f ∧
      Run.after? turn? { tracker := t, callers := others ++ [{ call, answer }], flat := f }
        (List.replicate n (.proceed others.length)) =
          some { tracker := u, callers := others ++ [{ call := d, answer := answer' }], flat := f' } := by
  induction h generalizing answer f with
  | refl call t => exact ⟨0, answer, f, rfl, rfl⟩
  | @step call d t u _ ih =>
    obtain ⟨n, answer', f', hdue, hrun⟩ := ih ((call.answer? f).or answer) (call.flat f)
    refine ⟨n + 1, answer', f', hdue.trans (call.flatDue_step t f).symm, ?_⟩
    rw [List.replicate_succ, Run.after?_cons, ← hrun]
    simp [turn?, Caller.proceed]

/-- So a caller does what its operation does as a whole, if nobody comes in between. -/
theorem performs_alone (c : Callers α) (op : Operation) : ∃ n answer,
    Run.after? turn? c (.begin op :: List.replicate n (.proceed c.callers.length)) =
      some {
        tracker := op.perform c.tracker
        callers := c.callers ++ [{ call := .finished (op.result c.tracker), answer }]
        flat := op.flat c.tracker c.flat } := by
  obtain ⟨n, answer, f, hflat, hrun⟩ :=
    proceeds_alone (op.comesTo_perform c.tracker) c.callers none c.flat
  obtain rfl : f = op.flat c.tracker c.flat := hflat.trans (op.flat_eq_due c.tracker c.flat).symm
  exact ⟨n, answer, hrun⟩

/-- However the sections of the callers come, the tracker shows the flat directory, and a
    removal, done as a whole or by a caller, gives the answer of the flat directory.  The sections
    of a caller are its operation: one that sets out now and goes on alone does to the tracker and
    to the flat directory what the operation does as a whole, and returns what it returns. -/
theorem shows_flat {audio : α} {mode : TrackingMode} {mappedKeys : List String}
    {minInterval : Nat} {turns : List (Turn α)} {c : Callers α}
    (constant : Run.Along turn? (KeysConstant keyOf) (new audio mode mappedKeys minInterval) turns)
    (run : Run.after? turn? (new audio mode mappedKeys minInterval) turns = some c) :
    c.tracker.directory.Shows c.flat ∧
    (∀ s : Session, s.KeyedBy keyOf → (c.tracker.remove s).1 = decide (s ∈ c.flat.held) ∧
      (c.flat.remove s).held = c.flat.held.filter fun other => other ≠ s) ∧
    (∀ caller ∈ c.callers, ∀ found, caller.call = .finished (.removed found) →
      caller.answer = some found) ∧
    ∀ op : Operation, ∃ n answer,
      Run.after? turn? c (.begin op :: List.replicate n (.proceed c.callers.length)) =
        some {
          tracker := op.perform c.tracker
          callers := c.callers ++ [{ call := .finished (op.result c.tracker), answer }]
          flat := op.flat c.tracker c.flat } := by
  have hfits : c.Fits keyOf :=
    Run.invariant_of_step ⟨.new mappedKeys, fun _ h => absurd h List.not_mem_nil⟩
      (fun _ _ _ h hconstant hturn => fits_turn h hconstant hturn) constant run
  refine ⟨hfits.follows.lists.shows, fun s hs => ⟨hfits.follows.remove_found hs, ?_⟩, ?_,
    c.performs_alone⟩
  · apply List.filter_congr
    intro other hother
    simp [← Session.same_iff (hfits.follows.keyed other hother) hs]
  · intro caller hcaller found hcall
    exact (hfits.callers caller hcaller).answer found (by rw [hcall]; rfl)

/-- One session is added twice, by a report and by a refresh, while a caller removes it. -/
theorem shows_flat_twice_added :
    let a : Session := { id := 0, key := "a.exe" }
    let b : Session := { id := 1, key := "b.exe" }
    let keyOf (id : Nat) : String := if id = 0 then "a.exe" else "b.exe"
    let audio := ((MemoryAudio.new .eventDriven).startSession "a" "a.exe" defaultVolume).2
    let start : Callers MemoryAudio := .new audio .eventDriven ["b.exe"] 2000
    let turns : List (Turn MemoryAudio) :=
      [.begin (.refresh true), .begin (.remove a), .proceed 0, .proceed 0, .proceed 0,
        .perform (.add a), .perform (.add b), .proceed 1, .proceed 1, .proceed 1]
    Run.Along turn? (KeysConstant keyOf) start turns ∧
    ∃ c, Run.after? turn? start turns = some c ∧ c.flat.held = [b] ∧ c.tracker.directory.Shows c.flat ∧
      (c.tracker.remove a).1 = decide (a ∈ c.flat.held) ∧
      ∀ caller ∈ c.callers, ∀ found, caller.call = .finished (.removed found) →
        caller.answer = some found := by
  intro a b keyOf audio start turns
  have constant : Run.Along turn? (KeysConstant keyOf) start turns := by decide +kernel
  have shows := shows_flat constant rfl
  exact ⟨constant, _, rfl, rfl, shows.1, (shows.2.1 a rfl).1, shows.2.2.1⟩

end Callers

end SliderMixer
