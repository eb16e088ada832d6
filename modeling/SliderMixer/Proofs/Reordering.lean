import Mathlib.Data.List.Perm.Basic
import SliderMixer.Proofs.Moves
import SliderMixer.Proofs.OnePass

/-! # The order of the sessions left over

Sorting the sessions anew leaves those left over in no particular order, and a pass comes to them in
that order.  If every handle has a session of its own, no session can tell.

* `MemoryAudio.filter_setVolumes`: a pass calls a session as if it came to no other one.
* `Mixer.Reordered`: two mixers that differ in the order of the sessions left over, and in how the
  calls of different sessions were mixed.
* `Reordered.route`: the same move keeps two mixers so, and has the same outcome in both;
  `Reordered.routeAll`: so have all moves.
* `Mixer.route_reordered`: what this means for one move.
-/

namespace SliderMixer

/-! ## Calls of one session -/

/-- The same calls of each session are the same calls. -/
theorem perm_of_filter_eq {calls later : List (Session × Except SessionError Unit)}
    (h : ∀ s, calls.filter (·.1 == s) = later.filter (·.1 == s)) : calls.Perm later := by
  classical
  rw [List.perm_iff_count]
  intro call
  have hcount := congrArg (List.count call) (h call.1)
  rwa [List.count_filter (by simp), List.count_filter (by simp)] at hcount

theorem RouteOutcome.after_perm (o : RouteOutcome)
    {calls later : List (Session × Except SessionError Unit)} (h : calls.Perm later) (found : Bool) :
    o.after calls found = o.after later found := by
  simp only [after, h.countP_eq, h.any_eq]

namespace MemoryAudio

variable {a : MemoryAudio} {volume : Binary32} {ss ts : List Session} {s t : Session}

theorem brought_perm (h : ts.Perm ss) : a.brought volume ts = a.brought volume ss := by
  have hreaches (i : Nat) : a.reaches ts i = a.reaches ss i := h.any_eq
  simp only [brought, hreaches]

theorem volume_brought_of_other (h : a.control? s ≠ a.control? t) :
    (a.brought volume [t]).volume s = a.volume s := by
  rw [volume_eq, volume_eq, behind?_brought, behind?]
  cases hcontrol : a.control? s with
  | none => rfl
  | some i =>
    have hreaches : a.reaches [t] i = false := by
      refine Bool.eq_false_iff.mpr fun hreaches => ?_
      obtain ⟨u, hu, -, hcontrol'⟩ := reaches_iff.mp hreaches
      rw [List.mem_singleton.mp hu] at hcontrol'
      exact h (hcontrol.trans hcontrol'.symm)
    simp [hreaches]

section

variable (hvolume : volume.inUnitInterval = true) (hin : ∀ s ∈ ss, (a.behind? s).isSome = true)

include hvolume hin

/-- A session brought before makes no difference to the calls of others. -/
theorem setVolumes_brought_of_other (h : ∀ s ∈ ss, a.control? s ≠ a.control? t) :
    (setVolumes volume (a.brought volume [t]) ss).1 = (setVolumes volume a ss).1 := by
  induction ss generalizing a with
  | nil => rfl
  | cons s rest ih =>
    have hs := hin s List.mem_cons_self
    have hlater := ih (a := a.brought volume [s])
      (fun t ht => by simpa using hin t (List.mem_cons_of_mem s ht))
      (fun t ht => h t (List.mem_cons_of_mem s ht))
    rw [brought_comm (Binary32.isFinite_of_inUnitInterval hvolume)] at hlater
    rw [setVolumes_cons hvolume hs, setVolumes_cons hvolume (by simpa using hs)]
    simp only [volume_brought_of_other (h s List.mem_cons_self), answer_brought, hlater]

/-- A session that is alone behind its handle is called as if there were no others. -/
theorem filter_setVolumes (alone : ∀ t ∈ ss, a.control? t = a.control? s → t = s) :
    (setVolumes volume a ss).1.filter (·.1 == s) =
      (setVolumes volume a (ss.filter (· == s))).1 := by
  induction ss generalizing a with
  | nil => rfl
  | cons t rest ih =>
    have ht := hin t List.mem_cons_self
    have hrest (u : Session) (hu : u ∈ rest) : (a.behind? u).isSome = true :=
      hin u (List.mem_cons_of_mem t hu)
    have hlater := ih (a := a.brought volume [t]) (fun u hu => by simpa using hrest u hu)
      (fun u hu => alone u (List.mem_cons_of_mem t hu))
    rw [setVolumes_cons hvolume ht]
    by_cases hsame : t = s
    · subst hsame
      have hkept : (t :: rest).filter (· == t) = t :: rest.filter (· == t) :=
        List.filter_cons_of_pos (beq_self_eq_true t)
      rw [hkept, setVolumes_cons hvolume ht]
      dsimp only
      rw [← hlater]
      split
      · rfl
      · exact List.filter_cons_of_pos (beq_self_eq_true t)
    · have hother : ¬ (t == s) = true := by simpa using hsame
      have hdropped : (t :: rest).filter (· == s) = rest.filter (· == s) :=
        List.filter_cons_of_neg hother
      -- bringing `t` is not seen by the calls of `s`
      have hunseen : (setVolumes volume (a.brought volume [t]) (rest.filter (· == s))).1 =
          (setVolumes volume a (rest.filter (· == s))).1 := by
        refine setVolumes_brought_of_other hvolume (fun u hu => ?_) fun u hu hcontrol => ?_
        · exact hrest u (List.mem_filter.mp hu).1
        · obtain rfl : u = s := by simpa using (List.mem_filter.mp hu).2
          exact hsame (alone t List.mem_cons_self hcontrol.symm)
      rw [hdropped, ← hunseen, ← hlater]
      dsimp only
      split
      · rfl
      · exact List.filter_cons_of_neg hother

/-- In whatever order a pass comes to the sessions, each of them gets the same calls. -/
theorem filter_setVolumes_perm
    (independent : ∀ s ∈ ss, ∀ t ∈ ss, a.control? s = a.control? t → s = t) (perm : ts.Perm ss)
    (s : Session) :
    (setVolumes volume a ts).1.filter (·.1 == s) = (setVolumes volume a ss).1.filter (·.1 == s) := by
  have hin' (t : Session) (ht : t ∈ ts) : (a.behind? t).isSome = true := hin t (perm.mem_iff.mp ht)
  by_cases hs : s ∈ ss
  · have hsame : ts.filter (· == s) = ss.filter (· == s) := by
      rw [List.filter_beq, List.filter_beq, perm.count_eq]
    rw [filter_setVolumes hvolume hin fun t ht => independent t ht s hs,
      filter_setVolumes hvolume hin' fun t ht => independent t (perm.mem_iff.mp ht) s hs, hsame]
  · have hnone (us : List Session) (hus : us.Perm ss) :
        (setVolumes volume a us).1.filter (·.1 == s) = [] := by
      refine List.filter_eq_nil_iff.mpr fun call hcall hcalled => ?_
      have hmem := (of_mem_setVolumes hvolume (fun t ht => hin t (hus.mem_iff.mp ht)) hcall).1
      obtain rfl : call.1 = s := by simpa using hcalled
      exact hs (hus.mem_iff.mp hmem)
    rw [hnone ts perm, hnone ss (.refl ss)]

end

end MemoryAudio

/-! ## Reached sessions -/

theorem Directory.distinct_perm {keys others : List String} (h : keys.Perm others) :
    (distinct keys).Perm (distinct others) := by
  refine (List.perm_ext_iff_of_nodup (nodup_distinct _) (nodup_distinct _)).mpr fun key => ?_
  rw [mem_distinct, mem_distinct, h.mem_iff]

namespace Mixer

theorem mem_held_of_mem_reached {α : Type} {m : Mixer α} {targets : List String} {s : Session}
    (h : s ∈ m.reached targets) : s ∈ m.tracker.directory.held := by
  rw [reached_eq_under, under] at h
  obtain ⟨key, -, hs⟩ := List.mem_flatMap.mp h
  cases hlookup : m.tracker.lookup key with
  | none => simp [hlookup] at hs
  | some ss => exact Directory.mem_held_of_lookup hlookup (by simpa [hlookup] using hs)

/-- The mixer with the sessions left over in another order. -/
def withUnmapped {α : Type} (m : Mixer α) (order : List Session) : Mixer α :=
  { m with tracker :=
    { m.tracker with directory := { m.tracker.directory with unmapped := order } } }

/-- From the first mixer to the second, the sessions left over may be in another order, and so may
    the calls, but for those of one session. -/
structure Reordered (m m' : Mixer (Audited MemoryAudio)) : Prop where
  unmapped : m'.tracker.directory.unmapped.Perm m.tracker.directory.unmapped
  calls : ∀ s, m'.tracker.audio.attempts.filter (·.1 == s) =
    m.tracker.audio.attempts.filter (·.1 == s)
  tracker : m'.tracker =
    { m.tracker with
      directory := { m.tracker.directory with unmapped := m'.tracker.directory.unmapped }
      audio := { m.tracker.audio with attempts := m'.tracker.audio.attempts } }
  answer : m'.focus.answer m.tracker.now = m.focus.answer m.tracker.now
  signal : m'.signal = m.signal

/-- The sessions held are in memory, each handle with a session of its own. -/
structure Separate (m : Mixer (Audited MemoryAudio)) : Prop where
  inMemory : ∀ s ∈ m.tracker.directory.held, (m.memory.behind? s).isSome = true
  independent : ∀ s ∈ m.tracker.directory.held, ∀ t ∈ m.tracker.directory.held,
    m.memory.control? s = m.memory.control? t → s = t

namespace Reordered

variable {m m' : Mixer (Audited MemoryAudio)} {move : Move}

theorem memory (h : Reordered m m') : m'.memory = m.memory := by
  rw [Mixer.memory, h.tracker]
  rfl

theorem mode (h : Reordered m m') : m'.tracker.mode = m.tracker.mode := by rw [h.tracker]

theorem now (h : Reordered m m') : m'.tracker.now = m.tracker.now := by rw [h.tracker]

theorem lookup (h : Reordered m m') (key : String) : m'.tracker.lookup key = m.tracker.lookup key := by
  rw [h.tracker]
  rfl

theorem resolve (h : Reordered m m') (target : String) :
    (m'.resolve target).1.Perm (m.resolve target).1 := by
  unfold Mixer.resolve
  split
  · exact .refl _
  · rw [foregroundKeys_eq, foregroundKeys_eq, h.now, h.answer]
  · rw [foregroundKeys_eq, foregroundKeys_eq, h.now, h.answer]
  · exact Directory.distinct_perm (h.unmapped.map _)
  · exact .refl _

theorem keysOf (h : Reordered m m') (targets : List String) :
    (m'.keysOf targets).Perm (m.keysOf targets) :=
  List.Perm.flatMap_left targets fun target _ => h.resolve target

theorem reached (h : Reordered m m') (targets : List String) :
    (m'.reached targets).Perm (m.reached targets) := by
  have hunder (keys : List String) : m'.under keys = m.under keys := by simp only [under, h.lookup]
  rw [reached_eq_under, reached_eq_under, hunder]
  exact (h.keysOf targets).flatMap_right _

/-- A move keeps the order as the only difference, and has the same outcome. -/
theorem route (h : Reordered m m') (separate : m.Separate) (mapping : SliderMapping)
    (value : move.value.inUnitInterval = true) :
    (m'.route mapping move).1 = (m.route mapping move).1 ∧
      Reordered (m.route mapping move).2 (m'.route mapping move).2 := by
  cases entry : mapping.get? move.slider with
  | none =>
    rw [m.route_of_get?_none entry, m'.route_of_get?_none entry]
    exact ⟨rfl, h⟩
  | some targets =>
    have hreached := h.reached targets
    have hin (s : Session) (hs : s ∈ m.reached targets) : (m.memory.behind? s).isSome = true :=
      separate.inMemory s (mem_held_of_mem_reached hs)
    have hin' (s : Session) (hs : s ∈ m'.reached targets) : (m.memory.behind? s).isSome = true :=
      hin s (hreached.mem_iff.mp hs)
    -- the outcome counts the calls and looks for failures among them, in whatever order
    have hcalls := MemoryAudio.filter_setVolumes_perm value hin
      (fun s hs t ht => separate.independent s (mem_held_of_mem_reached hs) t
        (mem_held_of_mem_reached ht)) hreached
    have hafter : (setVolumes move.value m.memory (m'.reached targets)).2 =
        (setVolumes move.value m.memory (m.reached targets)).2 := by
      rw [MemoryAudio.setVolumes_snd value hin, MemoryAudio.setVolumes_snd value hin',
        MemoryAudio.brought_perm hreached]
    have hfound : ((m'.keysOf targets).any fun key => (m'.tracker.lookup key).isSome) =
        (m.keysOf targets).any fun key => (m.tracker.lookup key).isSome := by
      simp only [h.lookup]
      exact (h.keysOf targets).any_eq
    obtain ⟨focus, hfocus, hroute⟩ := m.route_of_get? entry
    obtain ⟨focus', hfocus', hroute'⟩ := m'.route_of_get? entry
    have hmemory : m'.tracker.audio.audio = m.memory := h.memory
    -- what the second move does, told by the first mixer
    rw [Audited.setVolumes_eq] at hroute hroute'
    rw [hmemory, hafter, RouteOutcome.after_perm _ (perm_of_filter_eq hcalls), hfound, h.mode,
      h.signal] at hroute'
    rw [hroute, hroute']
    refine ⟨rfl, ?_⟩
    constructor
    case unmapped => exact h.unmapped
    case calls =>
      intro s
      rw [List.filter_append, List.filter_append, h.calls, hcalls]
      rfl
    case tracker =>
      rw [h.tracker]
      rfl
    case answer =>
      rw [h.now, h.answer] at hfocus'
      exact hfocus'.trans hfocus.symm
    case signal => rfl

end Reordered

theorem Separate.route {m : Mixer (Audited MemoryAudio)} (h : m.Separate) (mapping : SliderMapping)
    {move : Move} (value : move.value.inUnitInterval = true) :
    (m.route mapping move).2.Separate := by
  cases entry : mapping.get? move.slider with
  | none => rwa [m.route_of_get?_none entry]
  | some targets =>
    have hin (s : Session) (hs : s ∈ m.reached targets) : (m.memory.behind? s).isSome = true :=
      h.inMemory s (mem_held_of_mem_reached hs)
    obtain ⟨focus, -, hroute⟩ := m.route_of_get? entry
    have hbrought : (setVolumes move.value m.tracker.audio.audio (m.reached targets)).2 =
        m.memory.brought move.value (m.reached targets) := MemoryAudio.setVolumes_snd value hin
    rw [Audited.setVolumes_eq, hbrought] at hroute
    rw [hroute]
    exact ⟨fun s hs => MemoryAudio.isSome_behind?_brought.trans (h.inMemory s hs), h.independent⟩

/-- Nor can moves in a row tell the order. -/
theorem Reordered.routeAll {m m' : Mixer (Audited MemoryAudio)} {moves : List Move}
    (h : Reordered m m') (separate : m.Separate) (mapping : SliderMapping)
    (values : ∀ move ∈ moves, move.value.inUnitInterval = true) :
    (m'.routeAll mapping moves).1 = (m.routeAll mapping moves).1 ∧
      Reordered (m.routeAll mapping moves).2 (m'.routeAll mapping moves).2 := by
  induction moves generalizing m m' with
  | nil => exact ⟨rfl, h⟩
  | cons move rest ih =>
    obtain ⟨hmove, hrest⟩ := List.forall_mem_cons.mp values
    obtain ⟨houtcome, hnext⟩ := h.route separate mapping hmove
    obtain ⟨houtcomes, hlater⟩ := ih hnext (separate.route mapping hmove) hrest
    exact ⟨congrArg₂ List.cons houtcome houtcomes, hlater⟩

/-- Whatever the directory holds, if it is in memory and every handle has a session of its own, and
    whatever the sliders are mapped to: in any two orders of the sessions left over a move has the
    same outcome, requests the same refresh, leaves all sessions the same, and makes the same calls
    of each of them in the same sequence. -/
theorem route_reordered {m : Mixer (Audited MemoryAudio)}
    (inMemory : ∀ s ∈ m.tracker.directory.held, (m.memory.behind? s).isSome = true)
    (independent : ∀ s ∈ m.tracker.directory.held, ∀ t ∈ m.tracker.directory.held,
      m.memory.control? s = m.memory.control? t → s = t)
    (mapping : SliderMapping) {move : Move} (value : move.value.inUnitInterval = true)
    {order : List Session} (perm : order.Perm m.tracker.directory.unmapped) :
    let p := m.route mapping move
    let p' := (m.withUnmapped order).route mapping move
    p'.1 = p.1 ∧ p'.2.signal = p.2.signal ∧ p'.2.memory = p.2.memory ∧
    ∀ s, p'.2.tracker.audio.attempts.filter (·.1 == s) =
      p.2.tracker.audio.attempts.filter (·.1 == s) := by
  intro p p'
  have hstart : Reordered m (m.withUnmapped order) := ⟨perm, fun s => rfl, rfl, rfl, rfl⟩
  obtain ⟨houtcome, hafter⟩ : p'.1 = p.1 ∧ Reordered p.2 p'.2 :=
    hstart.route ⟨inMemory, independent⟩ mapping value
  exact ⟨houtcome, hafter.signal, hafter.memory, hafter.calls⟩

/-- Four sessions are left over, one of them at the volume already, one failing and one with its
    handle given back.  The slider has a target for the failing one, and twice for those left over.
    The last session is reached first in the other order. -/
theorem route_reordered_failing :
    let keyOf (id : Nat) : String := ["a.exe", "b.exe", "c.exe", "d.exe"].getD (id % 4) ""
    let half : Binary32 := ⟨0x3f000000⟩
    let started := (List.range 4).foldl
      (fun a id => (a.startSession "" (keyOf id) (if id = 0 then half else Binary32.one)).2)
      (MemoryAudio.new .polling)
    let handles := (List.range 4).map fun id => ({ id, key := keyOf id } : Session)
    let audio := (started.setFailing 1 true).releaseSession { id := 2, key := keyOf 2 }
    let mapping : SliderMapping := .ofList [(0, ["deej.unmapped", "B.EXE", "deej.unmapped"])]
    let move : Move := { slider := 0, value := half }
    let tracker : Tracker (Audited MemoryAudio) := .new { audio := audio } .polling [] 2000
    let m : Mixer (Audited MemoryAudio) := { tracker := handles.foldl Tracker.add tracker }
    let p := m.route mapping move
    let p' := (m.withUnmapped handles.reverse).route mapping move
    p.1 = { mapped := true, found := true, adjusted := 1, failed := true, refresh := some .forced } ∧
    p.2.tracker.audio.attempts.map (·.1.id) = [1, 2, 3, 1, 1, 2] ∧
    p'.2.tracker.audio.attempts.map (·.1.id) = [3, 2, 1, 1, 2, 1] ∧
    p'.1 = p.1 ∧ p'.2.signal = p.2.signal ∧ p'.2.memory = p.2.memory ∧
    ∀ s, p'.2.tracker.audio.attempts.filter (·.1 == s) =
      p.2.tracker.audio.attempts.filter (·.1 == s) := by
  intro keyOf half started handles audio mapping move tracker m
  have inMemory : ∀ s ∈ m.tracker.directory.held, (m.memory.behind? s).isSome = true := by
    decide +kernel
  have independent : ∀ s ∈ m.tracker.directory.held, ∀ t ∈ m.tracker.directory.held,
      m.memory.control? s = m.memory.control? t → s = t := by decide +kernel
  have perm : handles.reverse.Perm m.tracker.directory.unmapped := by decide +kernel
  have value : move.value.inUnitInterval = true := by decide +kernel
  exact ⟨by decide +kernel, by decide +kernel, by decide +kernel,
    route_reordered inMemory independent mapping value perm⟩

end Mixer

end SliderMixer
