import Mathlib.Data.List.Nodup
import SliderMixer.Proofs.Audited
import SliderMixer.Proofs.FlatDirectory
import SliderMixer.Proofs.Sections

/-! # The balance of handles

Where sessions have to be asked for, the tracker owns every handle it gets: it is in the
directory, or on its way into it or out of it, or was given back.

* `Call.loose`: the handles on their way with a caller.
* `Balanced`: every handle obtained is in one of these places, and in one only.
* `Balanced.step`: so it stays with every section of a caller that lists or gives up the
  sessions.
-/

namespace SliderMixer

variable {α : Type}

namespace Call

/-- The handles on their way into the directory, or back to the audio system. -/
def loose : Call → List Session
  | replace fresh => fresh
  | giveBack handles _ => handles
  | insert _ | erase _ | classify _ | beginRefresh _ | enumerate | takeAll | countSessions _
  | publishCount _ _ | claimClosing | closeAudio | finished _ => []

/-- The caller does not follow a report. -/
def lists : Call → Bool
  | insert _ | erase _ => false
  | classify _ | beginRefresh _ | enumerate | replace _ | takeAll | giveBack _ _
  | countSessions _ | publishCount _ _ | claimClosing | closeAudio | finished _ => true

theorem lists_step [AudioSystem α] {c : Call} (h : c.lists = true) (t : Tracker α) :
    (c.step t).1.lists = true := by
  have hstep := c.stepped t
  generalize c.step t = next at hstep ⊢
  cases hstep with
  | inserts _ | erases _ | misses _ => cases h
  | _ => rfl

/-- No section forgets a handle that was obtained. -/
theorem obtained_step [AudioSystem α] (c : Call) (t : Tracker (Audited α)) :
    t.audio.obtained ⊆ (c.step t).2.audio.obtained := by
  rcases c.audio_step t with ⟨-, haudio⟩ | ⟨s, rest, next, -, haudio⟩ | ⟨-, haudio⟩ | ⟨-, haudio⟩
  all_goals rw [haudio]
  · exact List.subset_append_left _ _
  · exact List.Subset.refl _
  · exact List.Subset.refl _
  · exact List.Subset.refl _

theorem logs_step [AudioSystem α] (c : Call) (t : Tracker (Audited α)) :
    (c.step t).2.audio.givenBack = t.audio.givenBack ++ c.givesBack ∧
      (c.step t).2.audio.attempts = t.audio.attempts := by
  rcases c.audio_step t with
    ⟨rfl, haudio⟩ | ⟨s, rest, next, rfl, haudio⟩ | ⟨rfl, haudio⟩ | ⟨hnone, haudio⟩
  · rw [haudio]
    exact ⟨(List.append_nil _).symm, rfl⟩
  · rw [haudio]
    exact ⟨rfl, rfl⟩
  · rw [haudio]
    exact ⟨(List.append_nil _).symm, rfl⟩
  · rw [haudio, hnone, List.append_nil]
    exact ⟨rfl, rfl⟩

theorem obtained_comesTo [AudioSystem α] {c d : Call} {t u : Tracker (Audited α)}
    (h : c.ComesTo t d u) : t.audio.obtained ⊆ u.audio.obtained := by
  induction h with
  | refl c t => exact List.Subset.refl _
  | step _ ih => exact List.Subset.trans (obtained_step _ _) ih

end Call

/-- Every handle obtained is held, on its way, or given back; no two are the same. -/
structure Balanced (a : Audited α) (d : Directory) (loose : List Session) : Prop where
  lists : ∃ f, d.Lists f
  obtained : a.obtained.Perm (d.held ++ loose ++ a.givenBack)
  distinct : (a.obtained.map (·.id)).Nodup

/-- The handles that could be listed now are new, and no two are the same. -/
def FreshHandles [AudioSystem α] (a : Audited α) : Prop :=
  ((a.obtained ++ listed a.audio).map (·.id)).Nodup

instance [AudioSystem α] (a : Audited α) : Decidable (FreshHandles a) :=
  inferInstanceAs (Decidable ((a.obtained ++ listed a.audio).map (·.id)).Nodup)

namespace Balanced

variable {a : Audited α} {d : Directory} {loose : List Session}

theorem distinct_places (h : Balanced a d loose) :
    ((d.held ++ loose ++ a.givenBack).map (·.id)).Nodup :=
  (h.obtained.map (·.id)).nodup_iff.mp h.distinct

theorem not_given_back (h : Balanced a d loose) {s : Session} (hs : s ∈ d.held ++ loose) :
    a.timesGivenBack s = 0 := by
  have hplaces := h.distinct_places
  rw [List.map_append, List.nodup_append] at hplaces
  rw [Audited.timesGivenBack_eq_count, List.count_eq_zero]
  intro hback
  exact hplaces.2.2 s.id (List.mem_map_of_mem hs) s.id hback rfl

/-- Without handles on their way, each is either held and was never given back, or was
    given back once. -/
theorem held_or_given_back (h : Balanced a d []) {s : Session} (hs : s ∈ a.obtained) :
    (s ∈ d.held ∧ a.timesGivenBack s = 0) ∨ (s ∉ d.held ∧ a.timesGivenBack s = 1) := by
  by_cases hheld : s ∈ d.held
  · exact .inl ⟨hheld, h.not_given_back (List.mem_append_left _ hheld)⟩
  · have hplace := h.obtained.mem_iff.mp hs
    rw [List.append_nil] at hplace
    have hback : s ∈ a.givenBack := (List.mem_append.mp hplace).resolve_left hheld
    have hgiven := h.distinct_places
    rw [List.map_append] at hgiven
    rw [Audited.timesGivenBack_eq_count]
    exact .inr ⟨hheld, List.count_eq_one_of_mem (List.nodup_append.mp hgiven).2.1
      (List.mem_map_of_mem hback)⟩

theorem perm (h : Balanced a d loose) {loose' : List Session} (hperm : loose.Perm loose') :
    Balanced a d loose' where
  lists := h.lists
  obtained := h.obtained.trans ((hperm.append_left d.held).append_right a.givenBack)
  distinct := h.distinct

/-- Another directory, another audio system, and the same handles. -/
theorem frame (h : Balanced a d loose) {b : Audited α} {d' : Directory}
    (obtained : b.obtained = a.obtained) (givenBack : b.givenBack = a.givenBack)
    (held : d'.held = d.held) (lists : ∃ f, d'.Lists f) : Balanced b d' loose where
  lists := lists
  obtained := by rw [obtained, givenBack, held]; exact h.obtained
  distinct := by rw [obtained]; exact h.distinct

/-- New handles are on their way into the directory. -/
theorem obtain (h : Balanced a d loose) {fresh : List Session}
    (hfresh : ((a.obtained ++ fresh).map (·.id)).Nodup) (audio : α) :
    Balanced { a with audio, obtained := a.obtained ++ fresh } d (fresh ++ loose) where
  lists := h.lists
  obtained := by
    rw [List.perm_iff_count]
    intro s
    have hcount := h.obtained.count_eq s
    simp only [List.count_append] at hcount ⊢
    omega
  distinct := hfresh

/-- The new handles take the place of those held. -/
theorem replaceAll {fresh : List Session} (h : Balanced a d (fresh ++ loose)) :
    Balanced a (d.replaceAll fresh).2 (d.held ++ loose) := by
  obtain ⟨f, hlists⟩ := h.lists
  have hrefilled := hlists.replaceAll fresh
  refine ⟨⟨_, hrefilled⟩, ?_, h.distinct⟩
  rw [List.perm_iff_count]
  intro s
  have hcount := h.obtained.count_eq s
  have hheld : (d.replaceAll fresh).2.held.count s = fresh.count s := hrefilled.held_perm.count_eq s
  simp only [List.count_append] at hcount ⊢
  omega

/-- New handles are other handles than those held. -/
theorem filter_stale {fresh : List Session} (h : Balanced a d (fresh ++ loose)) :
    (d.held.filter fun old => !fresh.any fun new => old.same new) = d.held := by
  rw [List.filter_eq_self]
  intro old hold
  rw [Bool.not_eq_true', List.any_eq_false]
  intro new hnew hsame
  have hid : old.id = new.id := by simpa [Session.same] using hsame
  have hplaces := h.distinct_places
  simp only [List.append_assoc, List.map_append] at hplaces
  refine (List.nodup_append.mp hplaces).2.2 old.id (List.mem_map_of_mem hold) new.id ?_ hid
  exact List.mem_append_left _ (List.mem_map_of_mem hnew)

/-- The handles held are on their way back. -/
theorem takeAll (h : Balanced a d loose) : Balanced a d.takeAll.2 (d.held ++ loose) := by
  have hnone : Balanced a d ([] ++ loose) := h
  exact hnone.replaceAll

theorem giveBack [AudioSystem α] {s : Session} (h : Balanced a d (s :: loose)) :
    Balanced (AudioSystem.releaseSession a s) d loose where
  lists := h.lists
  obtained := by
    rw [List.perm_iff_count]
    intro other
    have hcount := h.obtained.count_eq other
    simp only [AudioSystem.releaseSession, List.count_append, List.count_cons, List.count_nil]
      at hcount ⊢
    omega
  distinct := h.distinct

/-! ## Sections -/

variable [AudioSystem α] {t : Tracker (Audited α)}

/-- A section of one caller keeps the balance, whatever is on its way with others. -/
theorem step {c : Call} (h : Balanced t.audio t.directory (c.loose ++ loose))
    (hmode : t.mode = .polling) (hlists : c.lists = true)
    (hfresh : c = .enumerate → FreshHandles t.audio) :
    (c.step t).2.mode = .polling ∧
      Balanced (c.step t).2.audio (c.step t).2.directory ((c.step t).1.loose ++ loose) := by
  obtain ⟨f, hf⟩ := h.lists
  cases c with
  | insert s => cases hlists
  | erase s => cases hlists
  | classify mappedKeys => exact ⟨hmode, h.frame rfl rfl rfl ⟨_, hf.classify mappedKeys⟩⟩
  | beginRefresh force =>
    cases hbegin : t.beginRefresh force with
    | none => simpa [Call.step, hbegin] using ⟨hmode, h⟩
    | some begun =>
      have hheld := Tracker.held_beginRefresh hbegin
      obtain ⟨directory, hdirectory, rfl⟩ := Tracker.beginRefresh_eq_some hbegin
      simp only [Call.step, hbegin]
      exact ⟨hmode, h.frame rfl rfl hheld ⟨f, hf.beginRefresh hdirectory⟩⟩
  | enumerate =>
    cases hlist : AudioSystem.enumerate t.audio.audio with
    | mk r audio =>
      cases r with
      | error e =>
        rw [Call.step_enumerate_error (Audited.enumerate_error hlist)]
        exact ⟨hmode, h.frame rfl rfl rfl h.lists⟩
      | ok fresh =>
        have hnew : ((t.audio.obtained ++ fresh).map (·.id)).Nodup := by
          simpa [FreshHandles, listed, hlist, Except.toOption] using hfresh rfl
        rw [Call.step_enumerate_ok (Audited.enumerate_ok hlist)]
        exact ⟨hmode, h.obtain hnew audio⟩
  | replace fresh =>
    have hloose : Balanced t.audio t.directory (fresh ++ loose) := h
    have hstep : (Call.replace fresh).step t =
        (.giveBack t.directory.held (.finish (.refreshed (.ok (.refreshed fresh.length)))),
          { t with directory := (t.directory.replaceAll fresh).2 }) := by
      simp only [Call.step, Tracker.replace_polling hmode, filter_stale hloose]
    rw [hstep]
    exact ⟨hmode, hloose.replaceAll⟩
  | takeAll =>
    simp only [Call.step, Tracker.takeAll_polling hmode]
    exact ⟨hmode, h.takeAll⟩
  | giveBack handles next =>
    cases handles with
    | nil => exact ⟨hmode, h⟩
    | cons s rest => exact ⟨hmode, giveBack h⟩
  | countSessions next => exact ⟨hmode, h⟩
  | publishCount n next => cases next <;> exact ⟨hmode, h⟩
  | claimClosing =>
    cases hclosing : t.closing <;>
      simpa [Call.step, Tracker.claimClosing, hclosing] using ⟨hmode, h⟩
  | closeAudio => exact ⟨hmode, h.frame rfl rfl rfl h.lists⟩
  | finished r => exact ⟨hmode, h⟩

/-! ## Refreshes -/

theorem foldl_giveBack {handles : List Session} (h : Balanced t.audio t.directory handles) :
    Balanced (handles.foldl Tracker.giveBack t).audio (handles.foldl Tracker.giveBack t).directory
      [] := by
  induction handles generalizing t with
  | nil => exact h
  | cons s rest ih => exact ih h.giveBack

theorem refresh (h : Balanced t.audio t.directory []) (hmode : t.mode = .polling)
    (hfresh : FreshHandles t.audio) (force : Bool) :
    (t.refresh force).2.mode = .polling ∧
      Balanced (t.refresh force).2.audio (t.refresh force).2.directory [] := by
  have hbegun := step (c := .beginRefresh force) h hmode rfl fun _ => hfresh
  have hfresh' : ∀ begun, t.beginRefresh force = some begun → FreshHandles begun.audio := by
    intro begun hbegin
    obtain ⟨directory, -, rfl⟩ := Tracker.beginRefresh_eq_some hbegin
    exact hfresh
  rcases t.refresh_cases force with
    ⟨-, hrefresh⟩ | ⟨begun, e, audio, hbegin, hlist, hrefresh⟩ |
    ⟨begun, fresh, audio, hbegin, hlist, hrefresh⟩
  · rw [hrefresh]
    exact ⟨hmode, h⟩
  · simp only [Call.step, hbegin] at hbegun
    have hfailed := step (c := .enumerate) hbegun.2 hbegun.1 rfl fun _ => hfresh' begun hbegin
    rw [Call.step_enumerate_error hlist] at hfailed
    rw [hrefresh]
    exact hfailed
  · simp only [Call.step, hbegin] at hbegun
    have hlisted := step (c := .enumerate) hbegun.2 hbegun.1 rfl fun _ => hfresh' begun hbegin
    rw [Call.step_enumerate_ok hlist] at hlisted
    obtain ⟨hmode', hreplaced⟩ :=
      step (c := .replace fresh) hlisted.2 hlisted.1 rfl fun h => by cases h
    rw [List.append_nil] at hreplaced
    rw [hrefresh]
    exact ⟨(Tracker.mode_foldl_giveBack _ _).trans hmode', foldl_giveBack hreplaced⟩

end Balanced

end SliderMixer
