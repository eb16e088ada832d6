import SliderMixer.Proofs.HandleBalance
import SliderMixer.Proofs.MemoryHandles
import SliderMixer.Proofs.Moves

/-! # Accounting for handles

Where sessions have to be asked for, each enumeration gives out new handles, and the
tracker has to give every one of them back once.

* `Work` is anything that can be done as a whole, or can happen to the audio system.
* `Accounted`: the handles obtained are those held and those given back, each once.
* `handles_accounted`: so it is after any works in any order.
-/

namespace SliderMixer

/-! ## Works -/

inductive Work where
  | refresh (force : Bool)
  | classify (mappedKeys : List String)
  | follow (mapping : SliderMapping) (move : Move)
  | shutdown
  | clock (now : Nat)
  | desktop (focus : Focus)
  /-- A session starts, or ends. -/
  | addSession (name key : String) (volume : Binary32)
  | removeSession (control : Nat)
  /-- The volume changes of a session, or the enumerations, fail from now on or no more. -/
  | setFailing (control : Nat) (failing : Bool)
  | setFailEnumeration (fail : Bool)

/-- What happens to the audio system inside. -/
def Mixer.change (m : Mixer (Audited MemoryAudio)) (f : MemoryAudio → MemoryAudio) :
    Mixer (Audited MemoryAudio) :=
  m.withAudio { m.tracker.audio with audio := f m.tracker.audio.audio }

namespace Work

/-- An empty directory, and no session yet. -/
def start (mappedKeys : List String) (minInterval : Nat) : Mixer (Audited MemoryAudio) :=
  { tracker := .new { audio := .new .polling } .polling mappedKeys minInterval }

def perform (m : Mixer (Audited MemoryAudio)) : Work → Mixer (Audited MemoryAudio)
  | refresh force => { m with tracker := (m.tracker.refresh force).2 }
  | classify mappedKeys => { m with tracker := m.tracker.classify mappedKeys }
  | follow mapping move => (m.route mapping move).2
  | shutdown => { m with tracker := m.tracker.shutdown.2 }
  | clock now => { m with tracker := { m.tracker with now } }
  | desktop focus => { m with focus }
  | addSession name key volume => m.change fun a => (a.addSession name key volume).2
  | removeSession control => m.change fun a => (a.removeSession control).2
  | setFailing control failing => m.change fun a => a.setFailing control failing
  | setFailEnumeration fail => m.change fun a => a.setFailEnumeration fail

end Work

/-! ## Invariant -/

/-- No handle obtained is numbered beyond those made, and the audio system knows those
    given back.  No volume change met one of them. -/
structure Known (a : Audited MemoryAudio) : Prop where
  asked : a.audio.mode = .polling
  made : ∀ s ∈ a.obtained, s.id < a.audio.handles.length
  released : a.audio.released = a.givenBack.map (·.id)
  accepted : ∀ attempt ∈ a.attempts, ∀ key, attempt.2 ≠ .error (.released key)

/-- The handles are balanced, and known to the audio system. -/
structure Accounted (a : Audited MemoryAudio) (d : Directory) (loose : List Session) : Prop
    extends Balanced a d loose, Known a

namespace Known

variable {a : Audited MemoryAudio}

theorem grow (h : Known a) {b : MemoryAudio} (hgrows : a.audio.Grows b) :
    Known { a with audio := b } where
  asked := hgrows.mode.trans h.asked
  made s hs := Nat.lt_of_lt_of_le (h.made s hs) hgrows.handles
  released := hgrows.released.trans h.released
  accepted := h.accepted

theorem setVolume (h : Known a) {s : Session} (hs : s.id ∉ a.audio.released) (volume : Binary32) :
    Known (AudioSystem.setVolume a s volume).2 := by
  refine { h.grow (MemoryAudio.grows_setVolume a.audio s volume) with
    accepted := fun attempt hattempt => ?_ }
  rcases List.mem_append.mp hattempt with hattempt | hattempt
  · exact h.accepted attempt hattempt
  · rw [List.mem_singleton.mp hattempt]
    exact MemoryAudio.setVolume_ne_released hs volume

theorem releaseSession (h : Known a) {s : Session} (hs : s.id ∉ a.audio.released) :
    Known (AudioSystem.releaseSession a s) := by
  have hnoted : AudioSystem.releaseSession a s =
      { a with
        audio := { a.audio with released := a.audio.released ++ [s.id] }
        givenBack := a.givenBack ++ [s] } := by
    rw [← MemoryAudio.releaseSession_of_not_released hs]
    rfl
  rw [hnoted]
  exact { h with released := by simp [h.released] }

theorem enumerate (h : Known a) : Known (AudioSystem.enumerate a).2 := by
  rcases MemoryAudio.enumerate_polling h.asked with ⟨e, hfails⟩ | hlists
  · rw [Audited.enumerate_error hfails]
    exact h
  · rw [Audited.enumerate_ok hlists]
    refine { h with made := fun s hs => ?_ }
    simp only [List.length_append, List.length_map]
    rcases List.mem_append.mp hs with hs | hs
    · exact Nat.lt_add_right _ (h.made s hs)
    · have hid := MemoryAudio.freshHandles_ids a.audio a.audio.live ▸ List.mem_map_of_mem hs
      exact (List.mem_range'_1.mp hid).2

end Known

namespace Accounted

variable {a : Audited MemoryAudio} {d : Directory} {loose : List Session}

/-- A handle that is not given back yet is not known as given back. -/
theorem not_released (h : Accounted a d loose) {s : Session} (hs : s ∈ d.held ++ loose) :
    s.id ∉ a.audio.released := by
  rw [h.released, ← List.count_eq_zero, ← Audited.timesGivenBack_eq_count]
  exact h.toBalanced.not_given_back hs

/-- New handles are numbered beyond those made before. -/
theorem fresh (h : Accounted a d loose) : FreshHandles a := by
  have hids : (listed a.audio).map (·.id) = [] ∨ (listed a.audio).map (·.id) =
      List.range' a.audio.handles.length a.audio.live.length := by
    rcases MemoryAudio.enumerate_polling h.asked with ⟨e, hfails⟩ | hlists
    · exact .inl (by simp [listed, AudioSystem.enumerate, hfails, Except.toOption])
    · right
      rw [← MemoryAudio.freshHandles_ids]
      simp [listed, AudioSystem.enumerate, hlists, Except.toOption]
  rw [FreshHandles, List.map_append, List.nodup_append]
  rcases hids with hids | hids
  · simpa [hids] using h.distinct
  · rw [hids]
    refine ⟨h.distinct, List.nodup_range', ?_⟩
    rintro i hi j hj rfl
    obtain ⟨s, hs, rfl⟩ := List.mem_map.mp hi
    have hmade := h.made s hs
    have hbeyond := (List.mem_range'_1.mp hj).1
    omega

/-- What the audio system does by itself takes no handle away. -/
theorem grow (h : Accounted a d loose) {b : MemoryAudio} (hgrows : a.audio.Grows b) :
    Accounted { a with audio := b } d loose where
  toBalanced := h.toBalanced.frame rfl rfl rfl h.lists
  toKnown := h.toKnown.grow hgrows

theorem setVolume (h : Accounted a d loose) {s : Session} (hs : s ∈ d.held) (volume : Binary32) :
    Accounted (AudioSystem.setVolume a s volume).2 d loose where
  toBalanced := h.toBalanced.frame rfl rfl rfl h.lists
  toKnown := h.toKnown.setVolume (h.not_released (List.mem_append_left _ hs)) volume

/-! ## Sections -/

variable {t : Tracker (Audited MemoryAudio)}

theorem step {c : Call} (h : Accounted t.audio t.directory c.loose) (hmode : t.mode = .polling)
    (hlists : c.lists = true) :
    (c.step t).2.mode = .polling ∧
      Accounted (c.step t).2.audio (c.step t).2.directory (c.step t).1.loose := by
  have hbalanced : Balanced t.audio t.directory (c.loose ++ []) := by
    rw [List.append_nil]
    exact h.toBalanced
  obtain ⟨hmode', hbalanced'⟩ := hbalanced.step hmode hlists fun _ => h.fresh
  rw [List.append_nil] at hbalanced'
  refine ⟨hmode', hbalanced', ?_⟩
  rcases c.audio_step t with ⟨-, haudio⟩ | ⟨s, rest, next, rfl, haudio⟩ | ⟨-, haudio⟩ | ⟨-, haudio⟩
  all_goals rw [haudio]
  · exact h.toKnown.enumerate
  · have hloose : s ∈ t.directory.held ++ (Call.giveBack (s :: rest) next).loose :=
      List.mem_append_right _ List.mem_cons_self
    exact h.toKnown.releaseSession (h.not_released hloose)
  · exact h.toKnown.grow ⟨rfl, rfl, Nat.le_refl _⟩
  · exact h.toKnown

theorem comesTo {c d : Call} {u : Tracker (Audited MemoryAudio)} (hto : c.ComesTo t d u)
    (h : Accounted t.audio t.directory c.loose) (hmode : t.mode = .polling)
    (hlists : c.lists = true) :
    u.mode = .polling ∧ Accounted u.audio u.directory d.loose := by
  induction hto with
  | refl c t => exact ⟨hmode, h⟩
  | step _ ih =>
    obtain ⟨hmode', hstep⟩ := h.step hmode hlists
    exact ih hstep hmode' (Call.lists_step hlists _)

end Accounted

/-! ## Runs of works -/

/-- The tracker asks for its sessions, and its handles are accounted for. -/
def Mixer.Accounts (m : Mixer (Audited MemoryAudio)) : Prop :=
  m.tracker.mode = .polling ∧ Accounted m.tracker.audio m.tracker.directory []

namespace Work

theorem accounts_start (mappedKeys : List String) (minInterval : Nat) :
    (start mappedKeys minInterval).Accounts := by
  refine ⟨rfl, ⟨⟨_, .new mappedKeys⟩, .nil, List.nodup_nil⟩, ?_⟩
  exact ⟨rfl, fun _ h => absurd h List.not_mem_nil, rfl, fun _ h => absurd h List.not_mem_nil⟩

theorem accounts_perform {m : Mixer (Audited MemoryAudio)} (h : m.Accounts) (w : Work) :
    (perform m w).Accounts := by
  obtain ⟨hmode, h⟩ := h
  cases w with
  | refresh force => exact h.comesTo (Call.comesTo_refresh m.tracker force) hmode rfl
  | classify mappedKeys =>
    obtain ⟨f, hf⟩ := h.lists
    exact ⟨hmode, h.toBalanced.frame rfl rfl rfl ⟨_, hf.classify mappedKeys⟩, h.toKnown⟩
  | follow mapping move =>
    refine m.route_induction (P := Mixer.Accounts) (fun _ _ h => h) (fun _ _ h => h) ?_ mapping move
      ⟨hmode, h⟩
    intro m o s volume h hs
    exact ⟨h.1, h.2.setVolume hs volume⟩
  | shutdown => exact h.comesTo (Call.comesTo_shutdown m.tracker) hmode rfl
  | clock now => exact ⟨hmode, h⟩
  | desktop focus => exact ⟨hmode, h⟩
  | addSession name key volume =>
    exact ⟨hmode, h.grow (MemoryAudio.grows_addSession _ name key volume)⟩
  | removeSession control => exact ⟨hmode, h.grow (MemoryAudio.grows_removeSession _ control)⟩
  | setFailing control failing => exact ⟨hmode, h.grow (MemoryAudio.grows_changeControl _ control _)⟩
  | setFailEnumeration fail => exact ⟨hmode, h.grow ⟨rfl, rfl, Nat.le_refl _⟩⟩

theorem accounts_foldl {m : Mixer (Audited MemoryAudio)} (h : m.Accounts) (works : List Work) :
    (works.foldl perform m).Accounts := by
  induction works generalizing m with
  | nil => exact h
  | cons w rest ih => exact ih (accounts_perform h w)

/-- After any works in any order: each handle obtained is either held and was never given
    back, or was given back once; a shutdown leaves no handle that was not; and no volume
    change of a move met a handle given back. -/
theorem handles_accounted (mappedKeys : List String) (minInterval : Nat) (works : List Work) :
    let m := works.foldl perform (start mappedKeys minInterval)
    let a := m.tracker.audio
    let ended := perform m .shutdown
    (∀ s ∈ a.obtained, (s ∈ m.tracker.directory.held ∧ a.timesGivenBack s = 0) ∨
      (s ∉ m.tracker.directory.held ∧ a.timesGivenBack s = 1)) ∧
    a.obtained.length = m.tracker.sessionCount + a.audio.releasedCount ∧
    (ended.tracker.sessionCount = 0 ∧ a.obtained ⊆ ended.tracker.audio.obtained ∧
      ∀ s ∈ ended.tracker.audio.obtained, ended.tracker.audio.timesGivenBack s = 1) ∧
    ∀ attempt ∈ a.attempts, ∀ key, attempt.2 ≠ .error (.released key) := by
  intro m a ended
  have hm : m.Accounts := accounts_foldl (accounts_start mappedKeys minInterval) works
  have hended : ended.Accounts := accounts_perform hm .shutdown
  have hempty : ended.tracker.directory.held = [] := by
    simp only [ended, perform, Tracker.directory_shutdown]
    rfl
  refine ⟨fun s hs => hm.2.held_or_given_back hs, ?_, ⟨?_, ?_, fun s hs => ?_⟩, hm.2.accepted⟩
  · have hlength := hm.2.obtained.length_eq
    rw [List.append_nil, List.length_append] at hlength
    rw [hlength, Tracker.sessionCount, Directory.count_eq_length_held, MemoryAudio.releasedCount,
      hm.2.released, List.length_map]
  · rw [Tracker.sessionCount, Directory.count_eq_length_held, hempty, List.length_nil]
  · exact Call.obtained_comesTo (Call.comesTo_shutdown m.tracker)
  · rcases hended.2.held_or_given_back hs with ⟨hheld, -⟩ | ⟨-, honce⟩
    · rw [hempty] at hheld
      cases hheld
    · exact honce

/-- Two sessions, of which one ends before the second refresh; a throttled refresh and a
    failing one, and a move. -/
example :
    let works : List Work :=
      [.addSession "a" "a.exe" defaultVolume, .addSession "b" "b.exe" defaultVolume,
        .refresh false, .removeSession 0, .refresh false, .setFailEnumeration true,
        .refresh true, .setFailEnumeration false,
        .follow (.ofList [(0, ["b.exe"])]) { slider := 0, value := Binary32.zero }, .refresh true]
    let m := works.foldl perform (start [] 2000)
    (m.tracker.audio.obtained.length, m.tracker.sessionCount, m.tracker.audio.audio.releasedCount,
      m.tracker.audio.attempts.length) = (3, 1, 2, 1) := by
  decide +kernel

end Work

end SliderMixer
