import SliderMixer.Proofs.Bringing
import SliderMixer.Proofs.Callers

/-! # One pass of the routing

What a move comes to from end to end, with the audio system in memory.

* `Mixer.Routed`: the volume changes a move made, the sessions after it, and its outcome.
* `Mixer.route_once`: every move comes to that, and made once more changes nothing.
-/

namespace SliderMixer

/-- The record takes up the volume changes in order. -/
theorem Audited.setVolumes_eq {α : Type} [AudioSystem α] (a : Audited α) (volume : Binary32)
    (ss : List Session) :
    setVolumes volume a ss =
      ((setVolumes volume a.audio ss).1,
        { a with
          audio := (setVolumes volume a.audio ss).2
          attempts := a.attempts ++ (setVolumes volume a.audio ss).1 }) := by
  induction ss generalizing a with
  | nil => simp [setVolumes]
  | cons s rest ih =>
    have hat : AudioSystem.volume a s = AudioSystem.volume a.audio s := rfl
    cases hclose : closeVolumes (AudioSystem.volume a.audio s) volume with
    | true => simp only [setVolumes, hat, hclose, if_true, ih]
    | false =>
      have hset : AudioSystem.setVolume a s volume =
          ((AudioSystem.setVolume a.audio s volume).1,
            { a with
              audio := (AudioSystem.setVolume a.audio s volume).2
              attempts := a.attempts ++ [(s, (AudioSystem.setVolume a.audio s volume).1)] }) := rfl
      simp only [setVolumes, hat, hclose, Bool.false_eq_true, if_false, hset, ih,
        List.append_assoc, List.singleton_append]

namespace RouteOutcome

variable {o : RouteOutcome} {mode : TrackingMode}

theorem wanted_eq_lazy : o.wanted mode = some .lazy ↔ o.found = false ∧ mode = .polling := by
  cases hfound : o.found <;> cases mode <;> cases hfailed : o.failed <;> simp [wanted, hfound, hfailed]

theorem wanted_eq_forced (h : o.failed = true → o.found = true) :
    o.wanted mode = some .forced ↔ o.failed = true := by
  cases hfailed : o.failed with
  | true => simp [wanted, hfailed, h hfailed]
  | false =>
    simp only [wanted, hfailed, Bool.false_eq_true, if_false, iff_false]
    split <;> simp

end RouteOutcome

namespace Mixer

/-- The audio system without the record. -/
def memory (m : Mixer (Audited MemoryAudio)) : MemoryAudio := m.tracker.audio.audio

/-- What a move of a slider with these targets comes to, `made` being its volume changes. -/
structure Routed (m : Mixer (Audited MemoryAudio)) (targets : List String) (volume : Binary32)
    (made : List (Session × Except SessionError Unit))
    (p : RouteOutcome × Mixer (Audited MemoryAudio)) : Prop where
  attempts : p.2.tracker.audio.attempts = m.tracker.audio.attempts ++ made
  /-- Only sessions reached are called, and those that accept a volume take it. -/
  calls : ∀ call ∈ made, call.1 ∈ m.reached targets ∧ succeeded call = m.memory.accepts call.1
  /-- A session reached that accepts a volume ends at it.  It got it once, however often it is
      reached, or not at all if it was there before (`closeVolumes_iff`). -/
  brought : ∀ s ∈ m.reached targets, m.memory.accepts s = true →
    ∀ i c, m.memory.control? s = some i → m.memory.controls[i]? = some c →
    ∃ reached : Binary32, reached.WithinMillionth volume ∧
      p.2.memory.controls[i]? = some { c with
        volume := reached
        applied := c.applied ++ if closeVolumes c.volume volume then [] else [volume] } ∧
      (made.countP fun call => !m.memory.isReleased call.1 && m.memory.control? call.1 == some i) =
        if closeVolumes c.volume volume then 0 else 1
  /-- All other sessions keep their volumes and what was applied to them. -/
  untouched : ∀ i,
    (∀ s ∈ m.reached targets, m.memory.control? s = some i → m.memory.accepts s = false) →
    p.2.memory.controls[i]? = m.memory.controls[i]?
  /-- Nothing else changes but what is remembered of the foreground, and the signal. -/
  tracker : p.2.tracker =
    { m.tracker with
      audio :=
        { m.tracker.audio with
          audio := { m.memory with controls := p.2.memory.controls }
          attempts := p.2.tracker.audio.attempts } }
  mapped : p.1.mapped = true
  found : p.1.found = true ↔ m.reached targets ≠ []
  adjusted : p.1.adjusted = made.countP succeeded
  failed : p.1.failed = true ↔ ∃ call ∈ made, succeeded call = false
  lazily : p.1.refresh = some .lazy ↔ m.reached targets = [] ∧ m.tracker.mode = .polling
  forced : p.1.refresh = some .forced ↔ p.1.failed = true
  signal : p.2.signal = (p.1.refresh.map m.signal.request).getD m.signal

variable {m : Mixer (Audited MemoryAudio)} {f : FlatDirectory} {mapping : SliderMapping} {move : Move}
  {targets : List String}

/-- A move sets the volumes of the sessions it reaches, once each. -/
theorem route_inMemory (lists : m.tracker.directory.Lists f)
    (value : move.value.inUnitInterval = true)
    (hin : ∀ s ∈ m.reached targets, (m.memory.behind? s).isSome = true)
    (entry : mapping.get? move.slider = some targets) :
    let made := (setVolumes move.value m.memory (m.reached targets)).1
    let o := RouteOutcome.after { mapped := true } made (decide (m.reached targets ≠ []))
    let refresh := o.wanted m.tracker.mode
    ∃ focus, focus.answer m.tracker.now = m.focus.answer m.tracker.now ∧
      m.route mapping move =
        ({ o with refresh },
          { tracker :=
              { m.tracker with
                audio :=
                  { m.tracker.audio with
                    audio := m.memory.brought move.value (m.reached targets)
                    attempts := m.tracker.audio.attempts ++ made } }
            focus
            signal := (refresh.map m.signal.request).getD m.signal }) := by
  intro made o refresh
  obtain ⟨focus, hfocus, hroute⟩ := m.route_of_get? entry
  have hfound : ((m.keysOf targets).any fun key => (m.tracker.lookup key).isSome) =
      decide (m.reached targets ≠ []) :=
    Bool.eq_iff_iff.mpr ((found_iff lists targets).trans decide_eq_true_iff.symm)
  have hbrought : (setVolumes move.value m.tracker.audio.audio (m.reached targets)).2 =
      m.memory.brought move.value (m.reached targets) := MemoryAudio.setVolumes_snd value hin
  rw [hfound, Audited.setVolumes_eq, hbrought] at hroute
  exact ⟨focus, hfocus, hroute⟩

/-- What a pass made of a session reached that accepts a volume. -/
theorem brought_of_accepts (value : move.value.inUnitInterval = true)
    (hin : ∀ s ∈ m.reached targets, (m.memory.behind? s).isSome = true) {s : Session}
    (hs : s ∈ m.reached targets) (haccepts : m.memory.accepts s = true) {i : Nat} {c : Control}
    (hcontrol : m.memory.control? s = some i) (hc : m.memory.controls[i]? = some c) :
    ∃ reached : Binary32, reached.WithinMillionth move.value ∧
      (m.memory.brought move.value (m.reached targets)).controls[i]? = some { c with
        volume := reached
        applied := c.applied ++ if closeVolumes c.volume move.value then [] else [move.value] } ∧
      ((setVolumes move.value m.memory (m.reached targets)).1.countP fun call =>
          !m.memory.isReleased call.1 && m.memory.control? call.1 == some i) =
        if closeVolumes c.volume move.value then 0 else 1 := by
  obtain ⟨hreleased, j, d, hcontrol', hd, hfailing⟩ := MemoryAudio.accepts_iff.mp haccepts
  obtain rfl : i = j := by simpa [hcontrol] using hcontrol'
  obtain rfl : c = d := by simpa [hc] using hd
  have hreaches : m.memory.reaches (m.reached targets) i = true :=
    MemoryAudio.reaches_iff.mpr ⟨s, hs, hreleased, hcontrol⟩
  have hclose := Control.close_brought (Binary32.isFinite_of_inUnitInterval value) hfailing
  have hcount := MemoryAudio.countP_setVolumes value hin hc hfailing
  rw [hreaches, Bool.true_and] at hcount
  refine ⟨_, Binary32.withinMillionth_of_closeVolumes hclose, ?_, ?_⟩
  · rw [MemoryAudio.getElem?_brought, hc, Option.map_some, hreaches, if_pos rfl,
      ← Control.brought_eq hfailing]
  · rw [hcount]
    cases closeVolumes c.volume move.value <;> rfl

/-- The same sessions are reached afterwards, and have been brought. -/
theorem agrees_route (lists : m.tracker.directory.Lists f)
    (value : move.value.inUnitInterval = true)
    (hin : ∀ s ∈ m.reached targets, (m.memory.behind? s).isSome = true)
    (entry : mapping.get? move.slider = some targets) :
    m.Agrees (m.route mapping move).2 ∧
      (m.route mapping move).2.memory = m.memory.brought move.value (m.reached targets) := by
  obtain ⟨focus, hfocus, hroute⟩ := route_inMemory lists value hin entry
  rw [hroute]
  exact ⟨⟨rfl, rfl, rfl, hfocus⟩, rfl⟩

theorem routed (lists : m.tracker.directory.Lists f) (value : move.value.inUnitInterval = true)
    (hin : ∀ s ∈ m.reached targets, (m.memory.behind? s).isSome = true)
    (entry : mapping.get? move.slider = some targets) :
    m.Routed targets move.value (setVolumes move.value m.memory (m.reached targets)).1
      (m.route mapping move) := by
  have hcalls (call : Session × Except SessionError Unit)
      (h : call ∈ (setVolumes move.value m.memory (m.reached targets)).1) :
      call.1 ∈ m.reached targets ∧ succeeded call = m.memory.accepts call.1 := by
    obtain ⟨hs, hanswer⟩ := MemoryAudio.of_mem_setVolumes value hin h
    exact ⟨hs, by rw [← MemoryAudio.succeeded_answer, ← hanswer]⟩
  obtain ⟨focus, -, hroute⟩ := route_inMemory lists value hin entry
  constructor
  case attempts => rw [hroute]
  case calls => exact hcalls
  case brought =>
    intro s hs haccepts i c hcontrol hc
    rw [hroute]
    exact brought_of_accepts value hin hs haccepts hcontrol hc
  case untouched =>
    intro i hnone
    rw [hroute]
    exact MemoryAudio.getElem?_brought_of_refused hnone
  case tracker => rw [hroute]; rfl
  case mapped => rw [hroute]; rfl
  case found => rw [hroute]; simp [RouteOutcome.after]
  case adjusted => rw [hroute]; exact Nat.zero_add _
  case failed => rw [hroute]; simp [RouteOutcome.after]
  case lazily =>
    rw [hroute, RouteOutcome.wanted_eq_lazy]
    simp [RouteOutcome.after]
  case forced =>
    rw [hroute]
    refine RouteOutcome.wanted_eq_forced fun hfailed => ?_
    -- a call that failed was one of a session that was found
    simp only [RouteOutcome.after, Bool.false_or, List.any_eq_true] at hfailed
    obtain ⟨call, hcall, -⟩ := hfailed
    simpa [RouteOutcome.after] using List.ne_nil_of_mem (hcalls call hcall).1
  case signal => rw [hroute]

/-- The same move once more calls sessions only that failed, and changes nothing. -/
theorem routed_again (lists : m.tracker.directory.Lists f)
    (value : move.value.inUnitInterval = true)
    (hin : ∀ s ∈ m.reached targets, (m.memory.behind? s).isSome = true)
    (entry : mapping.get? move.slider = some targets) :
    let once := m.route mapping move
    let twice := once.2.route mapping move
    ∃ made again, m.Routed targets move.value made once ∧
      once.2.Routed targets move.value again twice ∧ again.Sublist made ∧
      (∀ call ∈ again, succeeded call = false) ∧ twice.2.memory = once.2.memory := by
  intro once twice
  obtain ⟨hagrees, hmemory⟩ : m.Agrees once.2 ∧
      once.2.memory = m.memory.brought move.value (m.reached targets) :=
    agrees_route lists value hin entry
  have hin' (s : Session) (hs : s ∈ once.2.reached targets) :
      (once.2.memory.behind? s).isSome = true := by
    rw [hagrees.reached] at hs
    simpa [hmemory] using hin s hs
  have hlists : once.2.tracker.directory.Lists f := hagrees.directory ▸ lists
  refine ⟨_, _, routed lists value hin entry, routed hlists value hin' entry, ?_, ?_, ?_⟩
  · rw [hagrees.reached, hmemory]
    exact MemoryAudio.setVolumes_brought_sublist value hin _
  · rw [hagrees.reached, hmemory]
    exact fun call h => MemoryAudio.not_succeeded_of_brought value hin h
  · have htwice : twice.2.memory = once.2.memory.brought move.value (once.2.reached targets) :=
      (agrees_route hlists value hin' entry).2
    rw [htwice, hagrees.reached, hmemory,
      MemoryAudio.brought_self (Binary32.isFinite_of_inUnitInterval value)]

/-- In every directory that callers make, of sessions in memory, a move of a slider without an
    entry does nothing.  Otherwise the sessions its targets stand for are brought to the volume,
    and the same move once more calls sessions only that failed, and changes nothing. -/
theorem route_once {keyOf : Nat → String} {audio : Audited MemoryAudio} {mode : TrackingMode}
    {mappedKeys : List String} {minInterval : Nat} {turns : List (Turn (Audited MemoryAudio))}
    {c : Callers (Audited MemoryAudio)}
    (constant : Run.Along Callers.turn? (Callers.KeysConstant keyOf)
      (.new audio mode mappedKeys minInterval) turns)
    (run : Run.after? Callers.turn? (.new audio mode mappedKeys minInterval) turns = some c)
    (tracker : m.tracker = c.tracker)
    (inMemory : ∀ s ∈ m.tracker.directory.held, (m.memory.behind? s).isSome = true)
    (value : move.value.inUnitInterval = true) :
    (mapping.get? move.slider = none → m.route mapping move = ({}, m)) ∧
    ∀ targets, mapping.get? move.slider = some targets →
      let once := m.route mapping move
      let twice := once.2.route mapping move
      ∃ made again, m.Routed targets move.value made once ∧
        once.2.Routed targets move.value again twice ∧ again.Sublist made ∧
        (∀ call ∈ again, succeeded call = false) ∧ twice.2.memory = once.2.memory := by
  have hlists : m.tracker.directory.Lists c.flat :=
    tracker ▸ (Callers.follows_of_run constant run).lists
  refine ⟨m.route_of_get?_none, fun targets entry => routed_again hlists value ?_ entry⟩
  intro s hs
  rw [reached_eq_under] at hs
  exact inMemory s (hlists.mem_held.mpr ((mem_under hlists).mp hs).1)

/-- Two targets reach one session, which is at the volume already, and another; then come one that
    fails and one whose handle is given back. -/
theorem route_once_overlapping :
    let half : Binary32 := ⟨0x3f000000⟩
    let keyOf (id : Nat) : String := ["a.exe", "a.exe", "b.exe", "c.exe", "d.exe"].getD (id % 5) ""
    let started := (List.range 5).foldl
      (fun a id => (a.startSession "" (keyOf id) (if id = 1 then half else Binary32.one)).2)
      (MemoryAudio.new .polling)
    let handles := (List.range 5).map fun id => ({ id, key := keyOf id } : Session)
    let audio := (started.setFailing 2 true).releaseSession { id := 3, key := keyOf 3 }
    let mapping : SliderMapping :=
      .ofList [(0, ["A.exe", "a.EXE", "b.exe", "deej.unmapped"]), (1, ["d.exe"])]
    let move : Move := { slider := 0, value := half }
    let start : Callers (Audited MemoryAudio) := .new { audio := started } .polling mapping.keys 2000
    let turns := handles.map (fun s => Turn.perform (.add s)) ++ [Turn.audio { audio := audio }]
    let m : Mixer (Audited MemoryAudio) :=
      { tracker := { handles.foldl Tracker.add start.tracker with audio := { audio := audio } } }
    let once := m.route mapping move
    let twice := once.2.route mapping move
    (∃ c, Run.after? Callers.turn? start turns = some c ∧ m.tracker = c.tracker) ∧
    once.1 = { mapped := true, found := true, adjusted := 1, failed := true, refresh := some .forced } ∧
    twice.1 = { once.1 with adjusted := 0 } ∧
    ∃ targets made again, mapping.get? move.slider = some targets ∧
      m.Routed targets move.value made once ∧ once.2.Routed targets move.value again twice ∧
      again.Sublist made ∧ (∀ call ∈ again, succeeded call = false) ∧
      twice.2.memory = once.2.memory := by
  intro half keyOf started handles audio mapping move start turns m once twice
  have constant : Run.Along Callers.turn? (Callers.KeysConstant keyOf) start turns := by
    decide +kernel
  have inMemory : ∀ s ∈ m.tracker.directory.held, (m.memory.behind? s).isSome = true := by
    decide +kernel
  have entry : mapping.get? move.slider = some ["A.exe", "a.EXE", "b.exe", "deej.unmapped"] := by
    decide +kernel
  obtain ⟨made, again, hrouted⟩ :=
    (route_once constant rfl (show m.tracker = _ from rfl) inMemory (by decide +kernel)).2 _ entry
  exact ⟨⟨_, rfl, rfl⟩, by decide +kernel, by decide +kernel, _, made, again, entry, hrouted⟩

end Mixer

end SliderMixer
