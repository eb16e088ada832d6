import SliderMixer.Audio.Memory
import SliderMixer.Proofs.Audited
import SliderMixer.Proofs.Distance
import SliderMixer.Proofs.Reach

/-! # Bringing sessions to a volume

What the volume changes of a pass do to the audio system in memory.

* `MemoryAudio.brought`: every session that is reached, and not failing, is at the volume.
* `setVolumes_cons`: one volume change brings one session, `setVolumes_snd`: a pass brings all.
* `countP_setVolumes`: each of them has got one volume change, or none if it was at the volume.
* `setVolumes_brought_sublist`: what was brought before only saves volume changes.
-/

namespace SliderMixer

/-! ## Sessions -/

/-- The session at a volume, unless it fails. -/
def Control.brought (volume : Binary32) (c : Control) : Control :=
  if c.failing || closeVolumes c.volume volume then c
  else { c with volume, applied := c.applied ++ [volume] }

namespace Control

variable {volume : Binary32} {c : Control}

theorem brought_of_failing (h : c.failing = true) : c.brought volume = c := by
  simp [brought, h]

theorem brought_of_close (h : closeVolumes c.volume volume = true) : c.brought volume = c := by
  simp [brought, h]

theorem brought_of_far (hfailing : c.failing = false) (h : closeVolumes c.volume volume = false) :
    c.brought volume = { c with volume, applied := c.applied ++ [volume] } := by
  simp [brought, hfailing, h]

theorem brought_eq (hfailing : c.failing = false) :
    c.brought volume =
      { c with
        volume := (c.brought volume).volume
        applied := c.applied ++ if closeVolumes c.volume volume then [] else [volume] } := by
  cases h : closeVolumes c.volume volume with
  | true => simp only [brought_of_close h, if_true, List.append_nil]
  | false => simp only [brought_of_far hfailing h, Bool.false_eq_true, if_false]

@[simp] theorem failing_brought : (c.brought volume).failing = c.failing := by
  unfold brought
  split <;> rfl

theorem close_brought (hvolume : volume.isFinite = true) (hfailing : c.failing = false) :
    closeVolumes (c.brought volume).volume volume = true := by
  cases h : closeVolumes c.volume volume with
  | true => rw [brought_of_close h, h]
  | false => rw [brought_of_far hfailing h, closeVolumes_self hvolume]

theorem close_brought_of_close (h : closeVolumes c.volume volume = true) :
    closeVolumes (c.brought volume).volume volume = true := by
  rw [brought_of_close h, h]

theorem brought_brought (hvolume : volume.isFinite = true) :
    (c.brought volume).brought volume = c.brought volume := by
  cases hfailing : c.failing with
  | true => rw [brought_of_failing hfailing, brought_of_failing hfailing]
  | false => exact brought_of_close (close_brought hvolume hfailing)

end Control

namespace MemoryAudio

/-- The session behind a handle, as it is at present. -/
def behind? (a : MemoryAudio) (s : Session) : Option Control :=
  (a.control? s).bind fun i => a.controls[i]?

/-- The handle is not given back, and its session is not failing. -/
def accepts (a : MemoryAudio) (s : Session) : Bool :=
  !a.isReleased s && (a.behind? s).any fun c => !c.failing

/-- Some handle to the session, not given back, is in the list. -/
def reaches (a : MemoryAudio) (ss : List Session) (i : Nat) : Bool :=
  ss.any fun s => !a.isReleased s && a.control? s == some i

/-- The audio system with the sessions of the list at a volume. -/
def brought (a : MemoryAudio) (volume : Binary32) (ss : List Session) : MemoryAudio :=
  { a with controls := a.controls.mapIdx fun i c => if a.reaches ss i then c.brought volume else c }

variable {a : MemoryAudio} {volume : Binary32} {ss ts : List Session} {s : Session} {i : Nat}

@[simp] theorem isReleased_brought : (a.brought volume ss).isReleased s = a.isReleased s := rfl

@[simp] theorem control?_brought : (a.brought volume ss).control? s = a.control? s := rfl

@[simp] theorem reaches_brought : (a.brought volume ss).reaches ts i = a.reaches ts i := rfl

theorem reaches_iff : a.reaches ss i = true ↔
    ∃ s ∈ ss, a.isReleased s = false ∧ a.control? s = some i := by
  simp [reaches]

theorem reaches_append : a.reaches (ss ++ ts) i = (a.reaches ss i || a.reaches ts i) :=
  List.any_append

theorem getElem?_brought : (a.brought volume ss).controls[i]? =
    (a.controls[i]?).map fun c => if a.reaches ss i then c.brought volume else c := by
  simp [brought, List.getElem?_mapIdx]

theorem behind?_brought : (a.brought volume ss).behind? s =
    (a.control? s).bind fun i =>
      (a.controls[i]?).map fun c => if a.reaches ss i then c.brought volume else c := by
  simp only [behind?, control?_brought, getElem?_brought]

@[simp] theorem isSome_behind?_brought :
    ((a.brought volume ss).behind? s).isSome = (a.behind? s).isSome := by
  rw [behind?_brought, behind?]
  cases a.control? s <;> simp

@[simp] theorem accepts_brought : (a.brought volume ss).accepts s = a.accepts s := by
  rw [accepts, accepts, isReleased_brought, behind?_brought, behind?]
  cases a.control? s with
  | none => rfl
  | some i =>
    cases hc : a.controls[i]? with
    | none => simp [hc]
    | some c =>
      simp only [Option.bind_some, Option.map_some, hc, Option.any_some]
      split <;> simp

theorem brought_eq_self (h : ∀ i c, a.reaches ss i = true → a.controls[i]? = some c →
    c.brought volume = c) : a.brought volume ss = a := by
  have hcontrols : (a.brought volume ss).controls = a.controls := by
    apply List.ext_getElem?
    intro i
    rw [getElem?_brought]
    cases hc : a.controls[i]? with
    | none => rfl
    | some c => cases hreaches : a.reaches ss i <;> simp [h i c, hreaches, hc]
  exact congrArg (fun controls => { a with controls }) hcontrols

theorem brought_brought (hvolume : volume.isFinite = true) :
    (a.brought volume ss).brought volume ts = a.brought volume (ss ++ ts) := by
  have hcontrols : ((a.brought volume ss).brought volume ts).controls =
      (a.brought volume (ss ++ ts)).controls := by
    apply List.ext_getElem?
    intro i
    simp only [getElem?_brought, reaches_brought, reaches_append]
    cases a.controls[i]? with
    | none => rfl
    | some c =>
      by_cases hss : a.reaches ss i = true <;> by_cases hts : a.reaches ts i = true <;>
        simp [hss, hts, Control.brought_brought hvolume]
  exact congrArg (fun controls => { a with controls }) hcontrols

theorem brought_comm (hvolume : volume.isFinite = true) :
    (a.brought volume ss).brought volume ts = (a.brought volume ts).brought volume ss := by
  rw [brought_brought hvolume, brought_brought hvolume]
  simp only [brought, reaches_append, Bool.or_comm]

theorem brought_self (hvolume : volume.isFinite = true) :
    (a.brought volume ss).brought volume ss = a.brought volume ss := by
  rw [brought_brought hvolume]
  simp only [brought, reaches_append, Bool.or_self]

theorem accepts_iff : a.accepts s = true ↔ a.isReleased s = false ∧
    ∃ i c, a.control? s = some i ∧ a.controls[i]? = some c ∧ c.failing = false := by
  cases hcontrol : a.control? s with
  | none => simp [accepts, behind?, hcontrol]
  | some i => cases hc : a.controls[i]? <;> simp [accepts, behind?, hcontrol, hc]

/-- A session whose handles are given back, or that is failing, is left alone. -/
theorem getElem?_brought_of_refused
    (h : ∀ s ∈ ss, a.control? s = some i → a.accepts s = false) :
    (a.brought volume ss).controls[i]? = a.controls[i]? := by
  rw [getElem?_brought]
  cases hc : a.controls[i]? with
  | none => rfl
  | some c =>
    cases hreaches : a.reaches ss i with
    | false => simp
    | true =>
      obtain ⟨s, hs, hreleased, hcontrol⟩ := reaches_iff.mp hreaches
      have hfailing : c.failing = true := by
        simpa [accepts, behind?, hreleased, hcontrol, hc] using h s hs hcontrol
      simp [Control.brought_of_failing hfailing]

/-! ## One volume change -/

theorem volume_eq (a : MemoryAudio) (s : Session) :
    a.volume s = ((a.behind? s).map (·.volume)).getD Binary32.zero := by
  unfold volume behind?
  cases (a.control? s).bind fun i => a.controls[i]? <;> rfl

/-- A session that is reached stays at the volume. -/
theorem close_volume_brought (h : closeVolumes (a.volume s) volume = true) :
    closeVolumes ((a.brought volume ss).volume s) volume = true := by
  rw [volume_eq, behind?] at h
  rw [volume_eq, behind?_brought]
  cases hcontrol : a.control? s with
  | none => simpa [hcontrol] using h
  | some i =>
    cases hc : a.controls[i]? with
    | none => simpa [hcontrol, hc] using h
    | some c =>
      simp only [hcontrol, hc, Option.bind_some, Option.map_some, Option.getD_some] at h ⊢
      split
      · exact Control.close_brought_of_close h
      · exact h

theorem brought_of_close (h : closeVolumes (a.volume s) volume = true) :
    a.brought volume [s] = a := by
  refine brought_eq_self fun i c hreaches hc => Control.brought_of_close ?_
  obtain ⟨t, ht, -, hcontrol⟩ := reaches_iff.mp hreaches
  rw [List.mem_singleton.mp ht] at hcontrol
  simpa [volume_eq, behind?, hcontrol, hc] using h

/-- The answer to a volume within bounds. -/
def answer (a : MemoryAudio) (s : Session) : Except SessionError Unit :=
  if a.isReleased s then .error (.released s.key)
  else if a.accepts s then .ok ()
  else .error (.setVolume s.key "session is no longer available")

@[simp] theorem answer_brought : (a.brought volume ss).answer s = a.answer s := by
  simp [answer]

theorem succeeded_answer : succeeded (s, a.answer s) = a.accepts s := by
  unfold answer
  split
  · next hreleased => simp [succeeded, accepts, hreleased]
  · split
    · next haccepts => rw [haccepts]; rfl
    · next haccepts => rw [Bool.eq_false_iff.mpr haccepts]; rfl

/-- One volume change brings one session. -/
theorem setVolume_eq (hvolume : volume.inUnitInterval = true) (hs : (a.behind? s).isSome = true)
    (hfar : closeVolumes (a.volume s) volume = false) :
    a.setVolume s volume = (a.answer s, a.brought volume [s]) := by
  obtain ⟨c, hc⟩ := Option.isSome_iff_exists.mp hs
  obtain ⟨i, hcontrol, hget⟩ := Option.bind_eq_some_iff.mp hc
  have hfar : closeVolumes c.volume volume = false := by simpa [volume_eq, hc] using hfar
  have hreaches (j : Nat) : a.reaches [s] j = (!a.isReleased s && i == j) := by
    simp [reaches, hcontrol]
  cases hreleased : a.isReleased s with
  | true =>
    -- the handle alone refuses, its session is not reached through it
    rw [brought_eq_self fun j d h => by simp [hreaches, hreleased] at h]
    simp [setVolume, answer, hreleased]
  | false =>
    cases hfailing : c.failing with
    | true =>
      have hkept : a.brought volume [s] = a := by
        refine brought_eq_self fun j d h hd => ?_
        obtain rfl : i = j := by simpa [hreaches, hreleased] using h
        rw [hget, Option.some.injEq] at hd
        exact Control.brought_of_failing (hd ▸ hfailing)
      rw [hkept]
      simp [setVolume, answer, accepts, hreleased, hvolume, hcontrol, hc, hget, hfailing]
    | false =>
      -- the only session reached is the one that the call changes
      have hcontrols : (a.changeControl i fun c =>
          { c with volume, applied := c.applied ++ [volume] }).controls =
          (a.brought volume [s]).controls := by
        apply List.ext_getElem?
        intro j
        rw [getElem?_brought, changeControl, List.getElem?_modify]
        by_cases hj : i = j
        · subst hj
          simp [hreaches, hreleased, hget, Control.brought_of_far hfailing hfar]
        · simp [hreaches, hj]
      have hbrought : a.changeControl i (fun c =>
          { c with volume, applied := c.applied ++ [volume] }) = a.brought volume [s] :=
        congrArg (fun controls => { a with controls }) hcontrols
      rw [← hbrought]
      simp [setVolume, answer, accepts, hreleased, hvolume, hcontrol, hc, hget, hfailing]

/-! ## A pass -/

/-- Whatever a session is at, one volume change more or none brings it. -/
theorem setVolumes_cons (hvolume : volume.inUnitInterval = true) (hs : (a.behind? s).isSome = true) :
    setVolumes volume a (s :: ss) =
      let later := setVolumes volume (a.brought volume [s]) ss
      (if closeVolumes (a.volume s) volume then later.1 else (s, a.answer s) :: later.1, later.2) := by
  cases hclose : closeVolumes (a.volume s) volume with
  | true =>
    have hclose' : closeVolumes (AudioSystem.volume a s) volume = true := hclose
    simp only [setVolumes, hclose', brought_of_close hclose, if_true]
  | false =>
    have hclose' : closeVolumes (AudioSystem.volume a s) volume = false := hclose
    have hset : AudioSystem.setVolume a s volume = (a.answer s, a.brought volume [s]) :=
      setVolume_eq hvolume hs hclose
    simp only [setVolumes, hclose', hset, Bool.false_eq_true, if_false]

variable (hvolume : volume.inUnitInterval = true) (hin : ∀ s ∈ ss, (a.behind? s).isSome = true)

include hvolume hin

theorem setVolumes_snd : (setVolumes volume a ss).2 = a.brought volume ss := by
  induction ss generalizing a with
  | nil => exact (brought_eq_self fun i c h => by simp [reaches] at h).symm
  | cons s rest ih =>
    rw [setVolumes_cons hvolume (hin s List.mem_cons_self),
      ih fun t ht => by simpa using hin t (List.mem_cons_of_mem s ht),
      brought_brought (Binary32.isFinite_of_inUnitInterval hvolume)]
    rfl

theorem of_mem_setVolumes {call : Session × Except SessionError Unit}
    (h : call ∈ (setVolumes volume a ss).1) : call.1 ∈ ss ∧ call.2 = a.answer call.1 := by
  induction ss generalizing a with
  | nil => cases h
  | cons s rest ih =>
    have hrest (h : call ∈ (setVolumes volume (a.brought volume [s]) rest).1) :
        call.1 ∈ s :: rest ∧ call.2 = a.answer call.1 := by
      have hlater := ih (fun t ht => by simpa using hin t (List.mem_cons_of_mem s ht)) h
      exact ⟨List.mem_cons_of_mem s hlater.1, by simpa using hlater.2⟩
    rw [setVolumes_cons hvolume (hin s List.mem_cons_self)] at h
    dsimp only at h
    split at h
    · exact hrest h
    · rcases List.mem_cons.mp h with rfl | h
      · exact ⟨List.mem_cons_self, rfl⟩
      · exact hrest h

/-- A session that is reached and not failing gets one volume change through its handles, unless
    it is at the volume. -/
theorem countP_setVolumes {c : Control} (hc : a.controls[i]? = some c) (hfailing : c.failing = false) :
    ((setVolumes volume a ss).1.countP fun call =>
        !a.isReleased call.1 && a.control? call.1 == some i) =
      if a.reaches ss i && !closeVolumes c.volume volume then 1 else 0 := by
  induction ss generalizing a c with
  | nil => rfl
  | cons s rest ih =>
    have hfinite := Binary32.isFinite_of_inUnitInterval hvolume
    have hrest (t : Session) (ht : t ∈ rest) : ((a.brought volume [s]).behind? t).isSome = true := by
      simpa using hin t (List.mem_cons_of_mem s ht)
    have hreaches : a.reaches (s :: rest) i =
        (!a.isReleased s && a.control? s == some i || a.reaches rest i) := rfl
    have hafter : (a.brought volume [s]).controls[i]? =
        some (if a.reaches [s] i then c.brought volume else c) := by
      rw [getElem?_brought, hc, Option.map_some]
    have hone : a.reaches [s] i = (!a.isReleased s && a.control? s == some i) := by simp [reaches]
    -- after a call through `s` the session is at the volume, so that none is left for the rest
    have hlater := ih hrest hafter (by split <;> simp [hfailing])
    simp only [isReleased_brought, control?_brought, reaches_brought, hone] at hlater
    rw [setVolumes_cons hvolume (hin s List.mem_cons_self), hreaches]
    dsimp only
    cases hhead : !a.isReleased s && a.control? s == some i with
    | true =>
      have hcontrol : a.control? s = some i := by simpa using (Bool.and_eq_true_iff.mp hhead).2
      have hat : a.volume s = c.volume := by simp [volume_eq, behind?, hcontrol, hc]
      simp only [hhead, if_true, Control.close_brought hfinite hfailing, Bool.not_true, Bool.and_false,
        Bool.false_eq_true, if_false] at hlater
      cases hclose : closeVolumes c.volume volume with
      | true => simp [hat, hclose, hlater]
      | false => simp [hat, hclose, hlater, hhead]
    | false =>
      simp only [hhead, Bool.false_eq_true, if_false] at hlater
      split
      · simpa using hlater
      · simpa [List.countP_cons, hhead] using hlater

/-- After a pass, only calls that fail are left to make. -/
theorem not_succeeded_of_brought {call : Session × Except SessionError Unit}
    (h : call ∈ (setVolumes volume (a.brought volume ss) ss).1) : succeeded call = false := by
  have hin' (s : Session) (hs : s ∈ ss) : ((a.brought volume ss).behind? s).isSome = true := by
    simpa using hin s hs
  obtain ⟨hs, hanswer⟩ := of_mem_setVolumes hvolume hin' h
  have hcall : succeeded call = a.accepts call.1 := by
    rw [← accepts_brought, ← succeeded_answer, ← hanswer]
  rw [hcall, Bool.eq_false_iff]
  intro haccepts
  -- a session that accepts the volume has been brought, and gets no call
  obtain ⟨hreleased, i, c, hcontrol, hc, hfailing⟩ := accepts_iff.mp haccepts
  have hreaches : a.reaches ss i = true := reaches_iff.mpr ⟨call.1, hs, hreleased, hcontrol⟩
  have hafter : (a.brought volume ss).controls[i]? = some (c.brought volume) := by
    simp [getElem?_brought, hc, hreaches]
  have hcount := countP_setVolumes hvolume hin' hafter (by simpa using hfailing)
  have hclose := Control.close_brought (Binary32.isFinite_of_inUnitInterval hvolume) hfailing
  rw [hclose, Bool.not_true, Bool.and_false, if_neg Bool.false_ne_true, List.countP_eq_zero] at hcount
  exact hcount call h (by simp [hreleased, hcontrol])

/-- Sessions that were brought before only save volume changes. -/
theorem setVolumes_brought_sublist (ts : List Session) :
    (setVolumes volume (a.brought volume ts) ss).1.Sublist (setVolumes volume a ss).1 := by
  induction ss generalizing a with
  | nil => exact List.Sublist.refl _
  | cons s rest ih =>
    have hs := hin s List.mem_cons_self
    have hlater := ih (a := a.brought volume [s])
      fun t ht => by simpa using hin t (List.mem_cons_of_mem s ht)
    rw [brought_comm (Binary32.isFinite_of_inUnitInterval hvolume)] at hlater
    rw [setVolumes_cons hvolume hs, setVolumes_cons hvolume (by simpa using hs)]
    dsimp only
    rw [answer_brought]
    cases hclose : closeVolumes (a.volume s) volume with
    | true =>
      -- what is at the volume stays there, so that neither pass calls `s`
      rw [close_volume_brought hclose]
      exact hlater
    | false =>
      split
      · exact hlater.cons _
      · exact hlater.cons_cons _

end MemoryAudio

end SliderMixer
