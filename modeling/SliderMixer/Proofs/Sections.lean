import SliderMixer.Proofs.FlatDirectory
import SliderMixer.Tracker.Call

/-! # What the sections of a tracker do

Each operation of a tracker is looked at once here, so that no later proof opens it.

* The directory after an operation, and what the operation leaves alone.
* `Tracker.refresh_cases`: the three ways in which a refresh ends.
* `Call.Step`: every section that a caller can do, with what it finds.
* `Call.outcome?`: the result a caller is bound to finish with.
* `Call.ends`: every caller finishes.
-/

namespace SliderMixer

variable {α : Type}

/-- The sessions there are, as far as they can be listed. -/
def listed [AudioSystem α] (audio : α) : List Session :=
  (AudioSystem.enumerate audio).1.toOption.getD []

namespace Tracker

/-! ## Frames -/

@[simp] theorem directory_countChanged (t : Tracker α) :
    t.countChanged.directory = t.directory := rfl

theorem directory_remove (t : Tracker α) (s : Session) :
    (t.remove s).2.directory = (t.directory.remove s).2 := by
  cases hfound : (t.directory.remove s).1 <;> simp [remove, erase, hfound]

theorem handle_frame (t : Tracker α) (e : SessionEvent) :
    (t.handle e).audio = t.audio ∧ (t.handle e).mode = t.mode := by
  simp only [handle]
  split
  · exact ⟨rfl, rfl⟩
  · simp only [remove]
    split <;> exact ⟨rfl, rfl⟩

theorem directory_handle (t : Tracker α) (e : SessionEvent) :
    (t.handle e).directory =
      match e.change with
      | .added => t.directory.insert e.session
      | .removed => (t.directory.remove e.session).2 := by
  cases hchange : e.change with
  | added => simp only [handle, hchange]; rfl
  | removed => simp only [handle, hchange, directory_remove]

/-- Where sessions have to be asked for, old handles that are not among the new ones are
    given out. -/
theorem replace_polling {t : Tracker α} (hmode : t.mode = .polling) (fresh : List Session) :
    t.replace fresh =
      (t.directory.held.filter fun old => !fresh.any fun new => old.same new,
        { t with directory := (t.directory.replaceAll fresh).2 }) := by
  simp only [replace, hmode]
  rfl

/-- Where changes are reported, the old handles are still in use. -/
theorem replace_eventDriven {t : Tracker α} (hmode : t.mode = .eventDriven) (fresh : List Session) :
    t.replace fresh = ([], { t with directory := (t.directory.replaceAll fresh).2 }) := by
  simp only [replace, hmode]

theorem takeAll_polling {t : Tracker α} (hmode : t.mode = .polling) :
    t.takeAll = (t.directory.held, { t with directory := t.directory.takeAll.2 }) := by
  simp only [takeAll, hmode]
  rfl

/-- The begin of a refresh is one of the directory. -/
theorem beginRefresh_eq_some {t begun : Tracker α} {force : Bool}
    (h : t.beginRefresh force = some begun) :
    ∃ directory, t.directory.beginRefresh t.now t.minInterval force = some directory ∧
      begun = { t with directory } := by
  simp only [beginRefresh, Option.map_eq_some_iff] at h
  obtain ⟨directory, hdirectory, rfl⟩ := h
  exact ⟨directory, hdirectory, rfl⟩

theorem held_beginRefresh {t begun : Tracker α} {force : Bool}
    (h : t.beginRefresh force = some begun) : begun.directory.held = t.directory.held := by
  obtain ⟨directory, hdirectory, rfl⟩ := beginRefresh_eq_some h
  obtain rfl := Directory.beginRefresh_eq_some hdirectory
  rfl

variable [AudioSystem α]

@[simp] theorem directory_foldl_giveBack (t : Tracker α) (ss : List Session) :
    (ss.foldl giveBack t).directory = t.directory := by
  induction ss generalizing t with
  | nil => rfl
  | cons s rest ih => exact ih (t.giveBack s)

@[simp] theorem mode_foldl_giveBack (t : Tracker α) (ss : List Session) :
    (ss.foldl giveBack t).mode = t.mode := by
  induction ss generalizing t with
  | nil => rfl
  | cons s rest ih => exact ih (t.giveBack s)

/-! ## Operations -/

/-- The directory emptied, and the handles to be given back given back. -/
def emptied (t : Tracker α) : Tracker α :=
  (t.takeAll.1.foldl giveBack t.takeAll.2).countChanged

/-- Only the first shutdown gives up the audio system. -/
theorem shutdown_cases (t : Tracker α) :
    (t.emptied.closing = true ∧ t.shutdown = (.ok (), { t.emptied with closing := true })) ∨
    (t.emptied.closing = false ∧
      t.shutdown = ({ t.emptied with closing := true } : Tracker α).closeAudio) := by
  cases hclosing : t.emptied.closing with
  | true =>
    refine .inl ⟨rfl, ?_⟩
    unfold emptied at hclosing ⊢
    simp only [shutdown, claimClosing, hclosing]
    rfl
  | false =>
    refine .inr ⟨rfl, ?_⟩
    unfold emptied at hclosing ⊢
    simp only [shutdown, claimClosing, hclosing]
    rfl

theorem directory_shutdown (t : Tracker α) :
    t.shutdown.2.directory = t.directory.takeAll.2 := by
  have hemptied : t.emptied.directory = t.directory.takeAll.2 := by
    rw [emptied, directory_countChanged, directory_foldl_giveBack]
    rfl
  rcases t.shutdown_cases with ⟨-, hshutdown⟩ | ⟨-, hshutdown⟩
  · rw [hshutdown, hemptied]
  · rw [hshutdown]
    exact hemptied

/-- A refresh is put off, fails to list the sessions, or replaces them all. -/
theorem refresh_cases (t : Tracker α) (force : Bool) :
    (t.beginRefresh force = none ∧ t.refresh force = (.ok .throttled, t)) ∨
    (∃ begun e audio, t.beginRefresh force = some begun ∧
      AudioSystem.enumerate begun.audio = (.error e, audio) ∧
      t.refresh force = (.error e, { begun with audio })) ∨
    (∃ begun fresh audio, t.beginRefresh force = some begun ∧
      AudioSystem.enumerate begun.audio = (.ok fresh, audio) ∧
      t.refresh force = (.ok (.refreshed fresh.length),
        ((({ begun with audio } : Tracker α).replace fresh).1.foldl giveBack
          (({ begun with audio } : Tracker α).replace fresh).2).countChanged)) := by
  cases hbegin : t.beginRefresh force with
  | none => exact .inl ⟨rfl, by simp only [refresh, hbegin]⟩
  | some begun =>
    cases hlist : AudioSystem.enumerate begun.audio with
    | mk r audio =>
      cases r with
      | error e =>
        exact .inr (.inl ⟨begun, e, audio, rfl, hlist,
          by simp only [refresh, hbegin, enumerate, hlist]⟩)
      | ok fresh =>
        exact .inr (.inr ⟨begun, fresh, audio, rfl, hlist,
          by simp only [refresh, hbegin, enumerate, hlist]⟩)

end Tracker

namespace Call

/-! ## Results -/

/-- The result of a caller that has done all its changes. -/
def outcome? : Call → Option CallResult
  | .giveBack _ (.finish result) | .countSessions (.finish result)
  | .publishCount _ (.finish result) | .finished result => some result
  | .giveBack _ .close | .countSessions .close | .publishCount _ .close
  | .insert _ | .erase _ | .classify _ | .beginRefresh _ | .enumerate | .replace _
  | .takeAll | .claimClosing | .closeAudio => none

variable [AudioSystem α]

/-! ## Single sections -/

/-- Every section that a caller can do, with what it finds. -/
inductive Step (t : Tracker α) : Call → Call × Tracker α → Prop where
  | inserts (s : Session) : Step t (.insert s) (.countSessions (.finish .done), t.insert s)
  | erases {s : Session} (found : (t.directory.remove s).1 = true) :
      Step t (.erase s) (.countSessions (.finish (.removed true)), (t.erase s).2)
  | misses {s : Session} (absent : (t.directory.remove s).1 = false) :
      Step t (.erase s) (.finished (.removed false), (t.erase s).2)
  | classifies (mappedKeys : List String) :
      Step t (.classify mappedKeys) (.finished .done, t.classify mappedKeys)
  | begins {force : Bool} {directory : Directory}
      (free : t.directory.beginRefresh t.now t.minInterval force = some directory) :
      Step t (.beginRefresh force) (.enumerate, { t with directory })
  | throttles {force : Bool}
      (recent : t.directory.beginRefresh t.now t.minInterval force = none) :
      Step t (.beginRefresh force) (.finished (.refreshed (.ok .throttled)), t)
  | lists {fresh : List Session} {audio : α}
      (answer : AudioSystem.enumerate t.audio = (.ok fresh, audio)) :
      Step t .enumerate (.replace fresh, { t with audio })
  | fails {cause : BackendError} {audio : α}
      (answer : AudioSystem.enumerate t.audio = (.error cause, audio)) :
      Step t .enumerate (.finished (.refreshed (.error cause)), { t with audio })
  | replaces (fresh : List Session) :
      Step t (.replace fresh)
        (.giveBack (t.replace fresh).1 (.finish (.refreshed (.ok (.refreshed fresh.length)))),
          (t.replace fresh).2)
  | empties : Step t .takeAll (.giveBack t.takeAll.1 .close, t.takeAll.2)
  | returns (s : Session) (rest : List Session) (next : AfterCount) :
      Step t (.giveBack (s :: rest) next) (.giveBack rest next, t.giveBack s)
  | returned (next : AfterCount) : Step t (.giveBack [] next) (.countSessions next, t)
  | counts (next : AfterCount) :
      Step t (.countSessions next) (.publishCount t.directory.count next, t)
  | publishes (n : Nat) (result : CallResult) :
      Step t (.publishCount n (.finish result)) (.finished result, t.publishCount n)
  | turns (n : Nat) : Step t (.publishCount n .close) (.claimClosing, t.publishCount n)
  | claims (free : t.closing = false) :
      Step t .claimClosing (.closeAudio, { t with closing := true })
  | yields (taken : t.closing = true) :
      Step t .claimClosing (.finished (.closed (.ok ())), { t with closing := true })
  | closes : Step t .closeAudio (.finished (.closed t.closeAudio.1), t.closeAudio.2)
  | rests (r : CallResult) : Step t (.finished r) (.finished r, t)

theorem stepped (c : Call) (t : Tracker α) : Step t c (c.step t) := by
  cases c with
  | insert s => exact .inserts s
  | erase s =>
    cases hfound : (t.directory.remove s).1 with
    | true =>
      have hstep : (erase s).step t =
          (.countSessions (.finish (.removed true)), (t.erase s).2) := by
        simp [step, Tracker.erase, hfound]
      exact hstep ▸ .erases hfound
    | false =>
      have hstep : (erase s).step t = (.finished (.removed false), (t.erase s).2) := by
        simp [step, Tracker.erase, hfound]
      exact hstep ▸ .misses hfound
  | classify mappedKeys => exact .classifies mappedKeys
  | beginRefresh force =>
    cases hbegin : t.directory.beginRefresh t.now t.minInterval force <;>
      simp only [step, Tracker.beginRefresh, hbegin, Option.map_none, Option.map_some]
    · exact .throttles hbegin
    · exact .begins hbegin
  | enumerate =>
    rcases hlist : AudioSystem.enumerate t.audio with ⟨cause | fresh, audio⟩ <;>
      simp only [step, Tracker.enumerate, hlist]
    · exact .fails hlist
    · exact .lists hlist
  | replace fresh => exact .replaces fresh
  | takeAll => exact .empties
  | giveBack handles next =>
    cases handles with
    | nil => exact .returned next
    | cons s rest => exact .returns s rest next
  | countSessions next => exact .counts next
  | publishCount n next =>
    cases next with
    | finish result => exact .publishes n result
    | close => exact .turns n
  | claimClosing =>
    cases hclosing : t.closing <;> simp only [step, Tracker.claimClosing, hclosing]
    · exact .claims hclosing
    · exact .yields hclosing
  | closeAudio => exact .closes
  | finished r => exact .rests r

/-! ## Results of removals -/

/-- Only its erasure tells a caller the result of a removal. -/
theorem outcome?_of_step {c : Call} {t : Tracker α} {found : Bool}
    (h : (c.step t).1.outcome? = some (.removed found)) :
    c.outcome? = some (.removed found) ∨ ∃ s, c = .erase s := by
  have hstep := c.stepped t
  generalize c.step t = next at hstep h
  cases hstep with
  | erases _ | misses _ => exact .inr ⟨_, rfl⟩
  | returns _ _ next | returned next | counts next => cases next <;> exact .inl h
  | publishes _ _ | rests _ => exact .inl h
  | _ => cases h

theorem outcome?_erase (t : Tracker α) (s : Session) :
    ((Call.erase s).step t).1.outcome? = some (.removed (t.directory.remove s).1) := by
  cases hfound : (t.directory.remove s).1 <;> simp [step, Tracker.erase, hfound, outcome?]

/-! ## The mode -/

@[simp] theorem mode_step (c : Call) (t : Tracker α) : (c.step t).2.mode = t.mode := by
  have hstep := c.stepped t
  generalize c.step t = next at hstep ⊢
  cases hstep <;> rfl

/-! ## The directory -/

/-- What the next section makes of a flat directory. -/
def flat (f : FlatDirectory) : Call → FlatDirectory
  | insert s => f.add s
  | erase s => f.remove s
  | classify mappedKeys => f.classify mappedKeys
  | replace fresh => f.replace fresh
  | takeAll => f.replace []
  | beginRefresh _ | enumerate | giveBack _ _ | countSessions _ | publishCount _ _
  | claimClosing | closeAudio | finished _ => f

/-- A section does to the directory what it does to the flat one. -/
theorem lists_step_directory (c : Call) {t : Tracker α} {f : FlatDirectory}
    (h : t.directory.Lists f)
    (copies : ∀ s, c = .erase s → ∀ other ∈ f.held, other.same s = true → other = s) :
    (c.step t).2.directory.Lists (c.flat f) := by
  have hstep := c.stepped t
  generalize c.step t = next at hstep ⊢
  cases hstep with
  | inserts s => exact h.insert s
  | erases _ | misses _ => exact h.remove (copies _ rfl)
  | classifies mappedKeys => exact h.classify mappedKeys
  | begins free => exact h.beginRefresh free
  | replaces fresh => exact h.replaceAll fresh
  | empties => exact h.takeAll
  | _ => exact h

/-! ## The audio system -/

theorem step_enumerate_error {t : Tracker α} {e : BackendError} {audio : α}
    (h : AudioSystem.enumerate t.audio = (.error e, audio)) :
    Call.enumerate.step t = (.finished (.refreshed (.error e)), { t with audio }) := by
  simp only [step, Tracker.enumerate, h]

theorem step_enumerate_ok {t : Tracker α} {fresh : List Session} {audio : α}
    (h : AudioSystem.enumerate t.audio = (.ok fresh, audio)) :
    Call.enumerate.step t = (.replace fresh, { t with audio }) := by
  simp only [step, Tracker.enumerate, h]

/-- The handle that the next section gives back. -/
def givesBack : Call → List Session
  | giveBack (s :: _) _ => [s]
  | giveBack [] _ | insert _ | erase _ | classify _ | beginRefresh _ | enumerate | replace _
  | takeAll | countSessions _ | publishCount _ _ | claimClosing | closeAudio | finished _ => []

/-- The audio system is asked for its sessions, gets a handle back, is given up, or is
    left alone. -/
theorem audio_step (c : Call) (t : Tracker α) :
    (c = .enumerate ∧ (c.step t).2.audio = (AudioSystem.enumerate t.audio).2) ∨
    (∃ s rest next, c = .giveBack (s :: rest) next ∧
      (c.step t).2.audio = AudioSystem.releaseSession t.audio s) ∨
    (c = .closeAudio ∧ (c.step t).2.audio = (AudioSystem.releaseBackend t.audio).2) ∨
    (c.givesBack = [] ∧ (c.step t).2.audio = t.audio) := by
  have hstep := c.stepped t
  generalize c.step t = next at hstep ⊢
  cases hstep with
  | lists answer | fails answer => exact .inl ⟨rfl, by rw [answer]⟩
  | returns s rest next => exact .inr (.inl ⟨s, rest, next, rfl, rfl⟩)
  | closes => exact .inr (.inr (.inl ⟨rfl, rfl⟩))
  | _ => exact .inr (.inr (.inr ⟨rfl, rfl⟩))

/-! ## Sections in a row -/

/-- The second caller and tracker come of the first by sections of this caller alone. -/
inductive ComesTo : Call → Tracker α → Call → Tracker α → Prop where
  | refl (c : Call) (t : Tracker α) : ComesTo c t c t
  | step {c d : Call} {t u : Tracker α} (rest : ComesTo (c.step t).1 (c.step t).2 d u) :
      ComesTo c t d u

theorem comesTo_giveBack (handles : List Session) (next : AfterCount) {t u : Tracker α} {d : Call}
    (rest : ComesTo (.countSessions next) (handles.foldl Tracker.giveBack t) d u) :
    ComesTo (.giveBack handles next) t d u := by
  induction handles generalizing t with
  | nil => exact .step rest
  | cons s handles ih => exact .step (ih rest)

/-- A refresh is its sections in a row. -/
theorem comesTo_refresh (t : Tracker α) (force : Bool) :
    ComesTo (.refresh force) t (.finished (.refreshed (t.refresh force).1)) (t.refresh force).2 := by
  refine .step ?_
  rcases t.refresh_cases force with
    ⟨hbegin, hrefresh⟩ | ⟨begun, e, audio, hbegin, hlist, hrefresh⟩ |
    ⟨begun, fresh, audio, hbegin, hlist, hrefresh⟩
  · simp only [refresh, Call.step, hbegin, hrefresh]
    exact .refl _ _
  · simp only [refresh, Call.step, hbegin, hrefresh]
    refine .step ?_
    simp only [Call.step, Tracker.enumerate, hlist]
    exact .refl _ _
  · simp only [refresh, Call.step, hbegin, hrefresh]
    refine .step ?_
    simp only [Call.step, Tracker.enumerate, hlist]
    exact .step (comesTo_giveBack _ _ (.step (.step (.refl _ _))))

/-- A shutdown is its sections in a row. -/
theorem comesTo_shutdown (t : Tracker α) :
    ComesTo .shutdown t (.finished (.closed t.shutdown.1)) t.shutdown.2 := by
  have hclaim : ComesTo .claimClosing t.emptied (.finished (.closed t.shutdown.1)) t.shutdown.2 := by
    refine .step ?_
    rcases t.shutdown_cases with ⟨hclosing, hshutdown⟩ | ⟨hclosing, hshutdown⟩
    · simp only [Call.step, Tracker.claimClosing, hclosing, hshutdown]
      exact .refl _ _
    · simp only [Call.step, Tracker.claimClosing, hclosing, hshutdown]
      exact .step (.refl _ _)
  exact .step (comesTo_giveBack _ _ (.step (.step hclaim)))

/-! ## Every caller finishes -/

/-- However others change the tracker between its sections, the caller finishes. -/
inductive Ends (α : Type) [AudioSystem α] : Call → Prop where
  | finished (r : CallResult) : Ends α (.finished r)
  | step {c : Call} (rest : ∀ t : Tracker α, Ends α (c.step t).1) : Ends α c

theorem ends_claimClosing : Ends α .claimClosing := by
  refine .step fun t => ?_
  cases hclosing : t.closing <;> simp only [step, Tracker.claimClosing, hclosing]
  · exact .step fun _ => .finished _
  · exact .finished _

theorem ends_countSessions (next : AfterCount) : Ends α (.countSessions next) := by
  refine .step fun _ => .step fun _ => ?_
  cases next with
  | finish result => exact .finished result
  | close => exact ends_claimClosing

theorem ends_giveBack (handles : List Session) (next : AfterCount) :
    Ends α (.giveBack handles next) := by
  induction handles with
  | nil => exact .step fun _ => ends_countSessions next
  | cons s rest ih => exact .step fun _ => ih

theorem ends_enumerate : Ends α .enumerate := by
  refine .step fun t => ?_
  cases hlist : AudioSystem.enumerate t.audio with
  | mk r audio =>
    cases r with
    | error e =>
      rw [step_enumerate_error hlist]
      exact .finished _
    | ok fresh =>
      rw [step_enumerate_ok hlist]
      exact .step fun _ => ends_giveBack _ _

theorem ends (c : Call) : c.Ends α := by
  cases c with
  | insert s => exact .step fun _ => ends_countSessions _
  | erase s =>
    refine .step fun t => ?_
    cases hfound : (t.directory.remove s).1 <;> simp only [step, Tracker.erase, hfound]
    · exact .finished _
    · exact ends_countSessions _
  | classify mappedKeys => exact .step fun _ => .finished _
  | beginRefresh force =>
    refine .step fun t => ?_
    cases hbegin : t.beginRefresh force <;> simp only [step, hbegin]
    · exact .finished _
    · exact ends_enumerate
  | enumerate => exact ends_enumerate
  | replace fresh => exact .step fun _ => ends_giveBack _ _
  | takeAll => exact .step fun _ => ends_giveBack _ _
  | giveBack handles next => exact ends_giveBack handles next
  | countSessions next => exact ends_countSessions next
  | publishCount n next =>
    refine .step fun _ => ?_
    cases next with
    | finish result => exact .finished result
    | close => exact ends_claimClosing
  | claimClosing => exact ends_claimClosing
  | closeAudio => exact .step fun _ => .finished _
  | finished r => exact .finished r

/-- In particular, if nobody comes in between. -/
theorem comesTo_finished (c : Call) (t : Tracker α) : ∃ r u, c.ComesTo t (.finished r) u := by
  induction c.ends (α := α) generalizing t with
  | finished r => exact ⟨r, t, .refl _ _⟩
  | step rest ih =>
    obtain ⟨r, u, h⟩ := ih t _
    exact ⟨r, u, .step h⟩

end Call

end SliderMixer
