import Mathlib.Data.List.Basic
import Mathlib.Data.List.Nodup
import SliderMixer.Audio.Memory

/-! # Handles of the audio system in memory

* An enumeration of a system that has to be asked makes new handles.
* Handles that were not given back refuse no volume change as given back.
* `MemoryAudio.Grows`: all that is done short of giving a handle back leaves the
  handles given back alone, and loses none.
-/

namespace SliderMixer.MemoryAudio

/-! ## New handles -/

theorem freshHandles_snd (a : MemoryAudio) (ls : List Live) :
    (a.freshHandles ls).2 = { a with handles := a.handles ++ ls.map (·.control) } := by
  induction ls generalizing a with
  | nil => simp [freshHandles]
  | cons l rest ih => simp [freshHandles, makeHandle, ih]

/-- New handles are numbered on from those that were made before. -/
theorem freshHandles_ids (a : MemoryAudio) (ls : List Live) :
    (a.freshHandles ls).1.map (·.id) = List.range' a.handles.length ls.length := by
  induction ls generalizing a with
  | nil => rfl
  | cons l rest ih =>
    simp only [freshHandles, makeHandle, List.map_cons, ih, List.length_append, List.length_cons,
      List.length_nil, List.range'_succ]

/-- A system that has to be asked fails, or makes one new handle for each live session. -/
theorem enumerate_polling {a : MemoryAudio} (hmode : a.mode = .polling) :
    (∃ e, a.enumerate = (.error e, a)) ∨
    a.enumerate = (.ok (a.freshHandles a.live).1,
      { a with handles := a.handles ++ a.live.map (·.control) }) := by
  by_cases hfail : a.failEnumeration
  · exact .inl ⟨_, by simp only [enumerate, hfail, if_true]; rfl⟩
  · right
    rw [← freshHandles_snd]
    simp only [enumerate, hfail, hmode]
    rfl

/-- A system that reports changes fails, or lists its live sessions. -/
theorem enumerate_eventDriven {a : MemoryAudio} (hmode : a.mode = .eventDriven) :
    (∃ e, a.enumerate = (.error e, a)) ∨ a.enumerate = (.ok (a.live.map (·.handle)), a) := by
  by_cases hfail : a.failEnumeration
  · exact .inl ⟨_, by simp only [enumerate, hfail, if_true]; rfl⟩
  · right
    simp only [enumerate, hfail, hmode]
    rfl

/-! ## Sessions that start and end -/

theorem endSession_eq_some {a b : MemoryAudio} {control : Nat} {l : Live}
    (h : a.endSession control = (some l, b)) :
    l ∈ a.live ∧ l.control = control ∧
      b = { a with live := a.live.filter fun l => l.control != control } := by
  simp only [endSession] at h
  split at h
  · cases h
  · next hfound =>
    cases h
    exact ⟨List.mem_of_find?_eq_some hfound, by simpa using List.find?_some hfound, rfl⟩

/-- A report waits behind the others, or is lost. -/
theorem publish_eventDriven {a : MemoryAudio} (hmode : a.mode = .eventDriven)
    (change : SessionChange) (s : Session) (control : Nat) :
    ∃ events : Mailbox SessionEvent, a.publish change s control = { a with events } ∧
      (events.items = a.events.items ∨
        ∃ name, events.items = a.events.items ++ [{ change, name, session := s }]) := by
  simp only [publish, hmode]
  refine ⟨_, rfl, ?_⟩
  unfold Mailbox.offer
  split
  · exact .inl rfl
  · split
    · exact .inr ⟨_, rfl⟩
    · exact .inl rfl

/-- A report that finds room waits behind the others. -/
theorem publish_of_room {a : MemoryAudio} (hmode : a.mode = .eventDriven)
    (hroom : a.events.hasRoom = true) (hreceiver : a.events.receiverGone = false)
    (change : SessionChange) (s : Session) (control : Nat) :
    ∃ name, a.publish change s control =
      { a with events := { a.events with items := a.events.items ++ [{ change, name, session := s }] } } := by
  simp only [publish, hmode, Mailbox.offer, hreceiver, hroom]
  exact ⟨_, rfl⟩

/-! ## Handles given back -/

theorem isReleased_iff {a : MemoryAudio} {s : Session} :
    a.isReleased s = true ↔ s.id ∈ a.released := by
  simp [isReleased]

/-- A handle that is given back for the first time is noted. -/
theorem releaseSession_of_not_released {a : MemoryAudio} {s : Session} (hs : s.id ∉ a.released) :
    a.releaseSession s = { a with released := a.released ++ [s.id] } := by
  have hs : ¬ a.isReleased s = true := fun h => hs (isReleased_iff.mp h)
  simp [releaseSession, hs]

/-- Only a handle that was given back refuses a volume as given back. -/
theorem setVolume_ne_released {a : MemoryAudio} {s : Session} (hs : s.id ∉ a.released)
    (volume : Binary32) (key : String) : (a.setVolume s volume).1 ≠ .error (.released key) := by
  have hs : ¬ a.isReleased s = true := fun h => hs (isReleased_iff.mp h)
  simp only [setVolume, hs]
  split
  · contradiction
  · split
    · simp
    · split
      · simp
      · split <;> simp

/-! ## Growing -/

/-- The same handles are given back, and no handle is lost. -/
structure Grows (a b : MemoryAudio) : Prop where
  mode : b.mode = a.mode
  released : b.released = a.released
  handles : a.handles.length ≤ b.handles.length

theorem Grows.refl (a : MemoryAudio) : a.Grows a := ⟨rfl, rfl, Nat.le_refl _⟩

theorem grows_changeControl (a : MemoryAudio) (control : Nat) (f : Control → Control) :
    a.Grows (a.changeControl control f) := ⟨rfl, rfl, Nat.le_refl _⟩

theorem grows_publish (a : MemoryAudio) (change : SessionChange) (s : Session) (control : Nat) :
    a.Grows (a.publish change s control) := by
  unfold publish
  split
  · exact .refl a
  · exact ⟨rfl, rfl, Nat.le_refl _⟩

theorem grows_addSession (a : MemoryAudio) (name key : String) (volume : Binary32) :
    a.Grows (a.addSession name key volume).2 := by
  have hpublish := grows_publish (a.startSession name key volume).2 .added
    (a.startSession name key volume).1.handle (a.startSession name key volume).1.control
  refine ⟨hpublish.mode, hpublish.released, Nat.le_trans ?_ hpublish.handles⟩
  simp [startSession, makeHandle]

theorem grows_removeSession (a : MemoryAudio) (control : Nat) :
    a.Grows (a.removeSession control).2 := by
  simp only [removeSession, endSession]
  cases a.live.find? fun l => l.control == control with
  | none => exact .refl a
  | some l =>
    have hpublish := grows_publish { a with live := a.live.filter fun l => l.control != control }
      .removed l.handle control
    exact ⟨hpublish.mode, hpublish.released, hpublish.handles⟩

theorem grows_setVolume (a : MemoryAudio) (s : Session) (volume : Binary32) :
    a.Grows (a.setVolume s volume).2 := by
  simp only [setVolume]
  split
  · exact .refl a
  · split
    · exact .refl a
    · split
      · exact .refl a
      · split
        · exact .refl a
        · exact grows_changeControl a _ _

end SliderMixer.MemoryAudio
