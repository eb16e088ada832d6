import SliderMixer.Flows
import SliderMixer.Proofs.Audited
import SliderMixer.Proofs.Moves

/-! # Copied handles

A pass copies handles out of the directory and calls them one after the other, while other
flows go on.

* `copies` are the handles it has before it, `calls` those that its next step calls.
* `Mixer.Keeps`: a step of a pass moves no handle.
* What a pass has before it was there before or is held when it is copied.
-/

namespace SliderMixer

variable {α : Type}

/-- The sessions whose volume the visit asks for, or sets. -/
def Visit.called : Visit → List Session
  | session s | adjust s => [s]
  | target _ | key _ => []

namespace Pass

def copies : Pass → List Session
  | visiting _ visits _ => visits.flatMap Visit.called
  | begun _ | raising .. | ringing _ | finished _ => []

def calls : Pass → List Session
  | visiting _ (v :: _) _ => v.called
  | visiting _ [] _ | begun _ | raising .. | ringing _ | finished _ => []

theorem calls_subset (p : Pass) : p.calls ⊆ p.copies := by
  cases p with
  | visiting move visits o =>
    cases visits with
    | nil => exact List.Subset.refl _
    | cons v rest => exact List.subset_append_left _ _
  | _ => exact List.Subset.refl _

end Pass

namespace Router

def copies : Router → List Session
  | routing p => p.copies
  | waiting | ended => []

def calls : Router → List Session
  | routing p => p.calls
  | waiting | ended => []

theorem calls_subset (f : Router) : f.calls ⊆ f.copies := by
  cases f with
  | routing p => exact p.calls_subset
  | _ => exact List.Subset.refl _

end Router

/-- No handle was obtained, given back, or moved into the directory or out of it. -/
structure Mixer.Keeps (m m' : Mixer (Audited α)) : Prop where
  mode : m'.tracker.mode = m.tracker.mode
  directory : m'.tracker.directory = m.tracker.directory
  obtained : m'.tracker.audio.obtained = m.tracker.audio.obtained
  givenBack : m'.tracker.audio.givenBack = m.tracker.audio.givenBack

theorem Mixer.Keeps.refl (m : Mixer (Audited α)) : m.Keeps m := ⟨rfl, rfl, rfl, rfl⟩

variable [AudioSystem α]

namespace Pass

theorem keeps_visit (m : Mixer (Audited α)) (move : Move) (o : RouteOutcome) (v : Visit) :
    m.Keeps (visit m move o v).2.2 := by
  cases v with
  | target text =>
    have htracker : (m.resolve text).2.tracker = m.tracker := m.tracker_resolve text
    exact ⟨by rw [visit, htracker], by rw [visit, htracker], by rw [visit, htracker],
      by rw [visit, htracker]⟩
  | key k => cases hlookup : m.tracker.lookup k <;> simpa [visit, hlookup] using .refl m
  | session s => exact .refl m
  | adjust s => exact ⟨rfl, rfl, rfl, rfl⟩

theorem keeps_step (p : Pass) (mapping : SliderMapping) (m : Mixer (Audited α)) :
    m.Keeps (p.step mapping m).2 := by
  cases p with
  | begun move => cases htargets : mapping.get? move.slider <;> simpa [step, htargets] using .refl m
  | visiting move visits o =>
    cases visits with
    | nil => cases hwanted : o.wanted m.tracker.mode <;> simpa [step, hwanted] using .refl m
    | cons v rest => exact keeps_visit m move o v
  | raising kind o => exact ⟨rfl, rfl, rfl, rfl⟩
  | ringing o => exact ⟨rfl, rfl, rfl, rfl⟩
  | finished o => exact .refl m

/-- A visit sets no volume but that of the session it calls. -/
theorem setsOnly_visit (m : Mixer (Audited α)) (move : Move) (o : RouteOutcome) (v : Visit) :
    Audited.SetsOnly v.called m.tracker.audio (visit m move o v).2.2.tracker.audio := by
  cases v with
  | target text =>
    refine .of_attempts_eq ?_
    rw [visit, Mixer.tracker_resolve]
  | key k =>
    refine .of_attempts_eq ?_
    cases hlookup : m.tracker.lookup k <;> simp [visit, hlookup]
  | session s => exact .of_attempts_eq rfl
  | adjust s =>
    refine ⟨[(s, (AudioSystem.setVolume m.tracker.audio s move.value).1)], rfl, fun attempt h => ?_⟩
    rw [List.mem_singleton.mp h]
    exact List.mem_singleton_self s

theorem setsOnly_step (p : Pass) (mapping : SliderMapping) (m : Mixer (Audited α)) :
    Audited.SetsOnly p.calls m.tracker.audio (p.step mapping m).2.tracker.audio := by
  cases p with
  | begun move =>
    refine .of_attempts_eq ?_
    cases htargets : mapping.get? move.slider <;> simp [step, htargets]
  | visiting move visits o =>
    cases visits with
    | nil =>
      refine .of_attempts_eq ?_
      cases hwanted : o.wanted m.tracker.mode <;> simp [step, hwanted]
    | cons v rest => exact setsOnly_visit m move o v
  | raising kind o => exact .of_attempts_eq rfl
  | ringing o => exact .of_attempts_eq rfl
  | finished o => exact .of_attempts_eq rfl

/-- A visit copies handles only out of the directory. -/
theorem called_visit {m : Mixer (Audited α)} {move : Move} {o : RouteOutcome} {v : Visit}
    {s : Session} (hs : s ∈ (visit m move o v).1.flatMap Visit.called) :
    s ∈ v.called ∨ s ∈ m.tracker.directory.held := by
  cases v with
  | target text =>
    simp only [visit, List.mem_flatMap, List.mem_map] at hs
    obtain ⟨-, ⟨k, -, rfl⟩, hs⟩ := hs
    cases hs
  | key k =>
    cases hlookup : m.tracker.lookup k with
    | none => simp [visit, hlookup] at hs
    | some sessions =>
      simp only [visit, hlookup, List.mem_flatMap, List.mem_map] at hs
      obtain ⟨-, ⟨copy, hcopy, rfl⟩, hs⟩ := hs
      rw [List.mem_singleton.mp hs]
      exact .inr (Directory.mem_held_of_lookup hlookup hcopy)
  | session copy =>
    left
    cases hat : m.atVolume copy move.value with
    | true => simp [visit, hat] at hs
    | false => simpa [visit, hat, Visit.called] using hs
  | adjust copy => cases hs

theorem copies_step {p : Pass} {mapping : SliderMapping} {m : Mixer (Audited α)} {s : Session}
    (hs : s ∈ (p.step mapping m).1.copies) : s ∈ p.copies ∨ s ∈ m.tracker.directory.held := by
  cases p with
  | begun move =>
    cases htargets : mapping.get? move.slider with
    | none => simp [step, htargets, copies] at hs
    | some targets =>
      simp only [step, htargets, copies, List.mem_flatMap, List.mem_map] at hs
      obtain ⟨-, ⟨text, -, rfl⟩, hs⟩ := hs
      cases hs
  | visiting move visits o =>
    cases visits with
    | nil => cases hwanted : o.wanted m.tracker.mode <;> simp [step, hwanted, copies] at hs
    | cons v rest =>
      simp only [step, copies, List.flatMap_append, List.flatMap_cons, List.mem_append] at hs ⊢
      rcases hs with hs | hs
      · exact (called_visit hs).imp_left .inl
      · exact .inl (.inr hs)
  | raising kind o => cases hs
  | ringing o => cases hs
  | finished o => cases hs

/-- What a pass has before it stays so until the pass calls it. -/
theorem calls_or_copies {p : Pass} {s : Session} (hs : s ∈ p.copies) (mapping : SliderMapping)
    (m : Mixer (Audited α)) : s ∈ p.calls ∨ s ∈ (p.step mapping m).1.copies := by
  cases p with
  | visiting move visits o =>
    cases visits with
    | nil => cases hs
    | cons v rest =>
      rw [copies, List.flatMap_cons, List.mem_append] at hs
      refine hs.imp id fun hs => ?_
      rw [step, copies, List.flatMap_append]
      exact List.mem_append_right _ hs
  | _ => cases hs

end Pass

end SliderMixer
