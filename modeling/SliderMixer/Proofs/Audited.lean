import SliderMixer.Audio

/-! # Audited audio systems

An audited audio system behaves like the one inside, and keeps a record of the handles
it gave out, of those given back to it, and of the volumes it was told to set.
-/

namespace SliderMixer

/-- An audio system with a record of its calls, oldest first. -/
structure Audited (α : Type) where
  audio : α
  /-- The handles that successful enumerations gave out. -/
  obtained : List Session := []
  /-- The handles given back, as often as they were. -/
  givenBack : List Session := []
  /-- The volume changes and what they came to. -/
  attempts : List (Session × Except SessionError Unit) := []

namespace Audited

/-- How often a handle was given back. -/
def timesGivenBack {α : Type} (a : Audited α) (s : Session) : Nat :=
  a.givenBack.countP fun other => other.same s

theorem timesGivenBack_eq_count {α : Type} (a : Audited α) (s : Session) :
    a.timesGivenBack s = (a.givenBack.map (·.id)).count s.id := by
  rw [List.count_eq_countP, List.countP_map]
  rfl

theorem timesGivenBack_append {α : Type} {a b : Audited α} {back : List Session}
    (h : b.givenBack = a.givenBack ++ back) (s : Session) :
    b.timesGivenBack s = a.timesGivenBack s + back.countP fun other => other.same s := by
  rw [timesGivenBack, h, List.countP_append, timesGivenBack]

/-- From the first to the second, volumes were set of these sessions only. -/
def SetsOnly {α : Type} (ss : List Session) (a b : Audited α) : Prop :=
  ∃ made, b.attempts = a.attempts ++ made ∧ ∀ attempt ∈ made, attempt.1 ∈ ss

theorem SetsOnly.of_attempts_eq {α : Type} {ss : List Session} {a b : Audited α}
    (h : b.attempts = a.attempts) : SetsOnly ss a b :=
  ⟨[], h.trans (List.append_nil _).symm, fun _ hmade => absurd hmade List.not_mem_nil⟩

variable {α : Type} [AudioSystem α]

instance : AudioSystem (Audited α) where
  subscribe a := let (r, audio) := AudioSystem.subscribe a.audio; (r, { a with audio })
  nextEvent a := let (r, audio) := AudioSystem.nextEvent a.audio; (r, { a with audio })
  unsubscribe a := { a with audio := AudioSystem.unsubscribe a.audio }
  enumerate a :=
    let (r, audio) := AudioSystem.enumerate a.audio
    (r, { a with audio, obtained := a.obtained ++ r.toOption.getD [] })
  volume a s := AudioSystem.volume a.audio s
  setVolume a s volume :=
    let (r, audio) := AudioSystem.setVolume a.audio s volume
    (r, { a with audio, attempts := a.attempts ++ [(s, r)] })
  releaseSession a s :=
    { a with audio := AudioSystem.releaseSession a.audio s, givenBack := a.givenBack ++ [s] }
  releaseBackend a := let (r, audio) := AudioSystem.releaseBackend a.audio; (r, { a with audio })

theorem enumerate_error {a : Audited α} {e : BackendError} {audio : α}
    (h : AudioSystem.enumerate a.audio = (.error e, audio)) :
    AudioSystem.enumerate a = (.error e, { a with audio }) := by
  simp [AudioSystem.enumerate, h, Except.toOption]

theorem enumerate_ok {a : Audited α} {fresh : List Session} {audio : α}
    (h : AudioSystem.enumerate a.audio = (.ok fresh, audio)) :
    AudioSystem.enumerate a = (.ok fresh, { a with audio, obtained := a.obtained ++ fresh }) := by
  simp [AudioSystem.enumerate, h, Except.toOption]

end Audited

end SliderMixer
