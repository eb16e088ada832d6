import Mathlib.Algebra.Ring.Int.Defs
import Mathlib.Data.List.Dedup
import SliderMixer.Proofs.Convergence

/-! # Volumes of sessions in memory

Sessions start and end, handles to them are given out and given back, and volumes are set through any of
the handles, in any order.

* `MemoryTurn`: what can happen, `MemoryLog`: an audio system with the handles given out, each with the
  session it was given out for, and with the volumes that the sessions took.
* `MemoryLog.Turned`: what a turn does, `turned_of_turn?`: and nothing else.
* `MemoryLog.Placed`, `Counted`, `Sound`: what every turn keeps of the handles, of those given back, and
  of the sessions.
* `MemoryLog.applies_whole_or_not`: what a volume change comes to, from what was done before.
-/

namespace SliderMixer

theorem Binary32.inUnitInterval_iff {x : Binary32} :
    x.inUnitInterval = true ↔ x.isNaN = false ∧ 0 ≤ x.units ∧ x.units ≤ 2 ^ 149 := by
  have hbounds : zero.units = 0 ∧ one.units = 2 ^ 149 ∧ zero.isNaN = false ∧ one.isNaN = false := by
    decide +kernel
  simp [inUnitInterval, le, hbounds]
  tauto

/-- The session takes a volume. -/
def Control.take (volume : Binary32) (c : Control) : Control :=
  { c with volume, applied := c.applied ++ [volume] }

@[simp] theorem Control.applied_take (volume : Binary32) (c : Control) :
    (c.take volume).applied = c.applied ++ [volume] := rfl

/-! ## Turns -/

/-- What can happen next. -/
inductive MemoryTurn where
  | add (name key : String) (volume : Binary32)
  | remove (session : Nat)
  | enumerate
  | setVolume (s : Session) (volume : Binary32)
  | release (s : Session)
  | setFailing (session : Nat) (failing : Bool)
  | failEnumeration (fail : Bool)
  /-- Reports are taken, or not wanted any more. -/
  | reports (events : Mailbox SessionEvent)
  deriving DecidableEq

namespace MemoryTurn

/-- The volume of the session that the turn starts. -/
def initial? : MemoryTurn → Option Binary32
  | add _ _ volume => some volume
  | remove _ | enumerate | setVolume _ _ | release _ | setFailing _ _ | failEnumeration _
  | reports _ => none

def givenBack? : MemoryTurn → Option Session
  | release s => some s
  | add _ _ _ | remove _ | enumerate | setVolume _ _ | setFailing _ _ | failEnumeration _
  | reports _ => none

/-- Whether the session fails from now on, if the turn says so. -/
def fails? (session : Nat) : MemoryTurn → Option Bool
  | setFailing i failing => if i = session then some failing else none
  | add _ _ _ | remove _ | enumerate | setVolume _ _ | release _ | failEnumeration _
  | reports _ => none

/-- The handles given back, as often as they were. -/
def givenBack (turns : List MemoryTurn) : List Nat := (turns.filterMap givenBack?).map (·.id)

/-- Whether the session fails after the turns. -/
def failing (turns : List MemoryTurn) (session : Nat) : Bool :=
  ((turns.filterMap (fails? session)).getLast?).getD false

variable (turns : List MemoryTurn) (turn : MemoryTurn) (session : Nat)

theorem givenBack_snoc :
    givenBack (turns ++ [turn]) = givenBack turns ++ (turn.givenBack?.map (·.id)).toList := by
  cases h : turn.givenBack? <;> simp [givenBack, h]

theorem failing_snoc :
    failing (turns ++ [turn]) session = (turn.fails? session).getD (failing turns session) := by
  cases h : turn.fails? session <;> simp [failing, h]

end MemoryTurn

/-- An audio system and what was done with it. -/
structure MemoryLog where
  audio : MemoryAudio
  /-- The handles given out, each with the session it was given out for. -/
  given : List (Session × Nat) := []
  /-- The volumes taken, oldest first, each with the session that took it. -/
  taken : List (Nat × Binary32) := []

namespace MemoryLog

def start (mode : TrackingMode) : MemoryLog := { audio := .new mode }

/-- The volumes that the session took. -/
def takenBy (x : MemoryLog) (session : Nat) : List Binary32 :=
  (x.taken.filter (·.1 == session)).map (·.2)

/-- A session that starts is reported with its handle, if the system reports changes; an enumeration
    gives out one handle for each session.  Volumes are set through handles that were given out. -/
def turn? (x : MemoryLog) : MemoryTurn → Option MemoryLog
  | .add name key volume =>
    let (l, _) := x.audio.startSession name key volume
    let reported :=
      match x.audio.mode with
      | .eventDriven => [(l.handle, l.control)]
      | .polling => []
    some { x with
      audio := (x.audio.addSession name key volume).2
      given := x.given ++ reported }
  | .remove session => some { x with audio := (x.audio.removeSession session).2 }
  | .enumerate =>
    match x.audio.enumerate with
    | (.ok handles, audio) =>
      some { x with audio, given := x.given ++ handles.zip (x.audio.live.map (·.control)) }
    | (.error _, audio) => some { x with audio }
  | .setVolume s volume =>
    (x.given.lookup s).map fun session =>
      match x.audio.setVolume s volume with
      | (.ok (), audio) => { x with audio, taken := x.taken ++ [(session, volume)] }
      | (.error _, audio) => { x with audio }
  | .release s =>
    (x.given.lookup s).map fun _ => { x with audio := x.audio.releaseSession s }
  | .setFailing session failing =>
    if session < x.audio.controls.length then
      some { x with audio := x.audio.setFailing session failing }
    else none
  | .failEnumeration fail => some { x with audio := x.audio.setFailEnumeration fail }
  | .reports events => some { x with audio := { x.audio with events } }

end MemoryLog

/-! ## What a turn does -/

namespace MemoryAudio

variable {a b : MemoryAudio} {s : Session} {session : Nat}

/-- The handle stands for the session, and has its key. -/
structure HandleOf (a : MemoryAudio) (s : Session) (session : Nat) : Prop where
  control : a.control? s = some session
  key : (a.controls[session]?).map Control.key = some s.key

/-- Handles stay what they are when further ones are made and further sessions are started. -/
theorem HandleOf.extend (h : a.HandleOf s session) (handles : a.handles <+: b.handles)
    (keys : a.controls.map Control.key <+: b.controls.map Control.key) : b.HandleOf s session where
  control := handles.getElem?_eq_some h.control
  key := by
    rw [← List.getElem?_map]
    exact keys.getElem?_eq_some (by rw [List.getElem?_map, h.key])

theorem publish_events (a : MemoryAudio) (change : SessionChange) (s : Session) (control : Nat) :
    ∃ events, a.publish change s control = { a with events } := by
  unfold publish
  split
  · exact ⟨a.events, rfl⟩
  · exact ⟨_, rfl⟩

theorem removeSession_changes (a : MemoryAudio) (control : Nat) :
    ∃ live events, (a.removeSession control).2 = { a with live, events } ∧ ∀ l ∈ live, l ∈ a.live := by
  cases hend : a.endSession control with
  | mk ended left =>
    cases ended with
    | none =>
      have hleft : left = a := by
        simp only [endSession] at hend
        split at hend
        · exact (congrArg (·.2) hend).symm
        · cases hend
      exact ⟨a.live, a.events, by simp [removeSession, hend, hleft], fun _ hl => hl⟩
    | some l =>
      obtain ⟨-, -, rfl⟩ := endSession_eq_some hend
      obtain ⟨events, hevents⟩ := publish_events
        { a with live := a.live.filter fun l => l.control != control } .removed l.handle control
      exact ⟨a.live.filter fun l => l.control != control, events,
        by simp [removeSession, hend, hevents], fun _ hl => (List.mem_filter.mp hl).1⟩

/-- New handles stand for the sessions that they are made for. -/
theorem handleOf_freshHandles {ls : List Live} (h : ∀ l ∈ ls, a.HandleOf l.handle l.control) :
    ∀ p ∈ (a.freshHandles ls).1.zip (ls.map (·.control)), HandleOf (a.freshHandles ls).2 p.1 p.2 := by
  induction ls generalizing a with
  | nil => simp [freshHandles]
  | cons l rest ih =>
    obtain ⟨hl, hrest⟩ := List.forall_mem_cons.mp h
    have hmade := a.freshHandles_snd (l :: rest)
    intro p hp
    rcases List.mem_cons.mp hp with rfl | hp
    · rw [hmade]
      refine ⟨?_, hl.key⟩
      simp [control?]
    · exact ih (a := (a.makeHandle l.control l.handle.key).2)
        (fun l' hl' => (hrest l' hl').extend (List.prefix_append _ _) (List.prefix_refl _)) p hp

theorem enumerate_changes (h : ∀ l ∈ a.live, a.HandleOf l.handle l.control) :
    (∃ e, a.enumerate = (.error e, a)) ∨
    ∃ handles made, a.enumerate = (.ok handles, { a with handles := a.handles ++ made }) ∧
      (∀ p ∈ handles.zip (a.live.map (·.control)),
        HandleOf { a with handles := a.handles ++ made } p.1 p.2) ∧
      (a.mode = .polling ∧ handles.map (·.id) = List.range' a.handles.length a.live.length ∨
        a.mode = .eventDriven ∧ made = []) := by
  obtain hmode | hmode : a.mode = .polling ∨ a.mode = .eventDriven := by cases a.mode <;> simp
  · rcases enumerate_polling hmode with hfails | hlists
    · exact .inl hfails
    · refine .inr ⟨_, _, hlists, ?_, .inl ⟨hmode, a.freshHandles_ids a.live⟩⟩
      rw [← freshHandles_snd]
      exact handleOf_freshHandles h
  · rcases enumerate_eventDriven hmode with hfails | hlists
    · exact .inl hfails
    · refine .inr ⟨_, [], by rw [hlists, List.append_nil], ?_, .inr ⟨hmode, rfl⟩⟩
      rw [List.append_nil, List.zip_map']
      rintro p hp
      obtain ⟨l, hl, rfl⟩ := List.mem_map.mp hp
      exact h l hl

/-- What a volume change through a handle comes to. -/
theorem setVolume_of_handleOf {c : Control} (h : a.HandleOf s session)
    (hc : a.controls[session]? = some c) (volume : Binary32) :
    a.setVolume s volume =
      if s.id ∈ a.released then (.error (.released s.key), a)
      else if volume.inUnitInterval = false then (.error (.volumeOutOfRange volume), a)
      else if c.failing = true then
        (.error (.setVolume s.key "session is no longer available"), a)
      else (.ok (), a.changeControl session (.take volume)) := by
  simp only [setVolume, isReleased_iff, h.control, hc, Option.any_some, Bool.not_eq_true']
  rfl

theorem HandleOf.exists_control (h : a.HandleOf s session) :
    ∃ c, a.controls[session]? = some c ∧ c.key = s.key :=
  Option.map_eq_some_iff.mp h.key

/-- Of three reasons to refuse a volume the first is told, and nothing else happens. -/
theorem setVolume_iff {c : Control} (h : a.HandleOf s session) (hc : a.controls[session]? = some c)
    (volume : Binary32) :
    ((a.setVolume s volume).1 = .ok () ↔
      s.id ∉ a.released ∧ volume.inUnitInterval = true ∧ ¬ c.failing = true) ∧
    ((a.setVolume s volume).1 = .error (.released s.key) ↔ s.id ∈ a.released) ∧
    ((a.setVolume s volume).1 = .error (.volumeOutOfRange volume) ↔
      s.id ∉ a.released ∧ ¬ volume.inUnitInterval = true) ∧
    ((a.setVolume s volume).1 = .error (.setVolume s.key "session is no longer available") ↔
      s.id ∉ a.released ∧ volume.inUnitInterval = true ∧ c.failing = true) ∧
    ((a.setVolume s volume).1 ≠ .ok () → (a.setVolume s volume).2 = a) ∧
    ((a.setVolume s volume).1 = .ok () →
      (a.setVolume s volume).2 = a.changeControl session (.take volume)) := by
  rw [setVolume_of_handleOf h hc]
  by_cases hreleased : s.id ∈ a.released
  · simp [hreleased]
  · cases hrange : volume.inUnitInterval with
    | false => simp [hreleased]
    | true => cases hfailing : c.failing <;> simp [hreleased]

theorem volume_of_handleOf {c : Control} (h : a.HandleOf s session)
    (hc : a.controls[session]? = some c) : a.volume s = c.volume := by
  simp [volume, h.control, hc]

theorem getElem?_changeControl {i : Nat} {f : Control → Control} :
    (a.changeControl session f).controls[i]? =
      (a.controls[i]?).map fun c => if session = i then f c else c := by
  rw [changeControl, List.getElem?_modify]
  rfl

/-- What a session takes is seen through all its handles, and through no others. -/
theorem volume_changeControl (h : a.HandleOf s session) (other : Nat) (volume : Binary32) :
    (a.changeControl other (.take volume)).volume s =
      if session = other then volume else a.volume s := by
  obtain ⟨c, hc, -⟩ := h.exists_control
  have hkeys := keys_changeControl a other fun c => show (c.take volume).key = c.key from rfl
  have hkept : (a.changeControl other (.take volume)).HandleOf s session :=
    h.extend (List.prefix_refl _) (hkeys ▸ List.prefix_refl _)
  have htaken : (a.changeControl other (.take volume)).controls[session]? =
      some (if other = session then c.take volume else c) := by rw [getElem?_changeControl, hc]; rfl
  rw [volume_of_handleOf hkept htaken, volume_of_handleOf h hc]
  by_cases hsame : other = session
  · rw [if_pos hsame, if_pos hsame.symm]
    rfl
  · rw [if_neg hsame, if_neg (Ne.symm hsame)]

end MemoryAudio

namespace MemoryLog

variable {x y : MemoryLog} {turns : List MemoryTurn} {turn : MemoryTurn}

inductive Turned (x : MemoryLog) : MemoryTurn → MemoryLog → Prop where
  | adds {name key : String} {volume : Binary32} (events : Mailbox SessionEvent)
      {given : List (Session × Nat)}
      (new : x.audio.mode = .polling ∧ given = [] ∨ x.audio.mode = .eventDriven ∧
        given = [({ id := x.audio.handles.length, key }, x.audio.controls.length)]) :
      Turned x (.add name key volume) { x with
        audio := { x.audio with
          controls := x.audio.controls ++ [{ name, key, volume }]
          handles := x.audio.handles ++ [x.audio.controls.length]
          live := x.audio.live ++
            [{ control := x.audio.controls.length, handle := { id := x.audio.handles.length, key } }]
          events }
        given := x.given ++ given }
  | removes {session : Nat} {live : List Live} (events : Mailbox SessionEvent)
      (left : ∀ l ∈ live, l ∈ x.audio.live) :
      Turned x (.remove session) { x with audio := { x.audio with live, events } }
  | lists (made : List Nat) {given : List (Session × Nat)}
      (stand : ∀ p ∈ given,
        MemoryAudio.HandleOf { x.audio with handles := x.audio.handles ++ made } p.1 p.2)
      (new : x.audio.mode = .polling ∧
          given.map (·.1.id) = List.range' x.audio.handles.length given.length ∨
        x.audio.mode = .eventDriven ∧ made = []) :
      Turned x .enumerate { x with
        audio := { x.audio with handles := x.audio.handles ++ made }
        given := x.given ++ given }
  | takes {s : Session} {session : Nat} {volume : Binary32}
      (known : session < x.audio.controls.length) (legal : volume.inUnitInterval = true) :
      Turned x (.setVolume s volume) { x with
        audio := x.audio.changeControl session (.take volume)
        taken := x.taken ++ [(session, volume)] }
  | refuses {s : Session} {volume : Binary32} : Turned x (.setVolume s volume) x
  | releases {s : Session} (new : s.id ∉ x.audio.released) :
      Turned x (.release s) { x with
        audio := { x.audio with released := x.audio.released ++ [s.id] } }
  | repeats {s : Session} (old : s.id ∈ x.audio.released) : Turned x (.release s) x
  | fails {session : Nat} {failing : Bool} (known : session < x.audio.controls.length) :
      Turned x (.setFailing session failing) { x with
        audio := x.audio.changeControl session fun c => { c with failing } }
  | failsEnumeration (fail : Bool) :
      Turned x (.failEnumeration fail) { x with audio := x.audio.setFailEnumeration fail }
  | reports (events : Mailbox SessionEvent) :
      Turned x (.reports events) { x with audio := { x.audio with events } }

/-- Every handle stands for the session that it was given out for. -/
structure Placed (x : MemoryLog) : Prop where
  live : ∀ l ∈ x.audio.live, x.audio.HandleOf l.handle l.control
  given : ∀ p ∈ x.given, x.audio.HandleOf p.1 p.2

theorem mem_given_of_lookup {s : Session} {session : Nat} {given : List (Session × Nat)}
    (h : given.lookup s = some session) : (s, session) ∈ given := by
  obtain ⟨front, back, rfl, -⟩ := List.lookup_eq_some_iff.mp h
  simp

theorem turned_of_turn? (h : x.Placed) (hturn : x.turn? turn = some y) : x.Turned turn y := by
  cases turn with
  | add name key volume =>
    obtain ⟨events, hevents⟩ := (x.audio.startSession name key volume).2.publish_events .added
      { id := x.audio.handles.length, key } x.audio.controls.length
    have hadd : (x.audio.addSession name key volume).2 =
        { (x.audio.startSession name key volume).2 with events } := hevents
    rw [turn?, hadd] at hturn
    cases hturn
    refine .adds events ?_
    cases x.audio.mode with
    | polling => exact .inl ⟨rfl, rfl⟩
    | eventDriven => exact .inr ⟨rfl, rfl⟩
  | remove session =>
    obtain ⟨live, events, hremove, hleft⟩ := x.audio.removeSession_changes session
    rw [turn?, hremove] at hturn
    cases hturn
    exact .removes events hleft
  | enumerate =>
    obtain ⟨e, hlist⟩ | ⟨handles, made, hlist, hstand, hnew⟩ := x.audio.enumerate_changes h.live
    · rw [turn?, hlist] at hturn
      cases hturn
      have hlists : x.Turned .enumerate { x with
          audio := { x.audio with handles := x.audio.handles ++ [] }
          given := x.given ++ [] } :=
        .lists [] (by simp) (by cases x.audio.mode <;> simp)
      simpa using hlists
    · rw [turn?, hlist] at hturn
      cases hturn
      refine .lists made hstand (hnew.imp_left fun ⟨hmode, hids⟩ => ⟨hmode, ?_⟩)
      have hlength : handles.length = x.audio.live.length := by simpa using congrArg List.length hids
      have hfirst : (handles.zip (x.audio.live.map (·.control))).map Prod.fst = handles :=
        List.map_fst_zip (by simp [hlength])
      have hgiven := congrArg (List.map (·.id)) hfirst
      rw [List.map_map, hids] at hgiven
      simpa [hlength, Function.comp_def] using hgiven
  | setVolume s volume =>
    obtain ⟨session, hlookup, hy⟩ := Option.map_eq_some_iff.mp hturn
    have hhandle := h.given _ (mem_given_of_lookup hlookup)
    obtain ⟨c, hc, -⟩ := hhandle.exists_control
    rw [MemoryAudio.setVolume_of_handleOf hhandle hc] at hy
    split_ifs at hy with hreleased hrange hfailing
    all_goals cases hy
    · exact .refuses
    · exact .refuses
    · exact .refuses
    · exact .takes (List.getElem?_eq_some_iff.mp hc).1 (by simpa using hrange)
  | release s =>
    obtain ⟨session, hlookup, rfl⟩ := Option.map_eq_some_iff.mp hturn
    by_cases hreleased : s.id ∈ x.audio.released
    · rw [MemoryAudio.releaseSession, if_pos (MemoryAudio.isReleased_iff.mpr hreleased)]
      exact .repeats hreleased
    · rw [MemoryAudio.releaseSession_of_not_released hreleased]
      exact .releases hreleased
  | setFailing session failing =>
    obtain ⟨hknown, hy⟩ := Option.ite_none_right_eq_some.mp hturn
    cases hy
    exact .fails hknown
  | failEnumeration fail =>
    cases hturn
    exact .failsEnumeration fail
  | reports events =>
    cases hturn
    exact .reports events

/-! ## What every turn keeps -/

theorem Placed.extend (h : x.Placed) (handles : x.audio.handles <+: y.audio.handles)
    (keys : x.audio.controls.map Control.key <+: y.audio.controls.map Control.key)
    (live : ∀ l ∈ y.audio.live, l ∈ x.audio.live ∨ y.audio.HandleOf l.handle l.control)
    (given : ∀ p ∈ y.given, p ∈ x.given ∨ y.audio.HandleOf p.1 p.2) : y.Placed where
  live l hl := (live l hl).elim (fun hold => (h.live l hold).extend handles keys) id
  given p hp := (given p hp).elim (fun hold => (h.given p hold).extend handles keys) id

/-- Neither handles nor sessions are added. -/
theorem Placed.keep (h : x.Placed) (handles : y.audio.handles = x.audio.handles)
    (keys : y.audio.controls.map Control.key = x.audio.controls.map Control.key)
    (live : ∀ l ∈ y.audio.live, l ∈ x.audio.live) (given : y.given = x.given) : y.Placed :=
  h.extend (handles ▸ List.prefix_refl _) (keys ▸ List.prefix_refl _) (fun l hl => .inl (live l hl))
    fun _ hp => .inl (given ▸ hp)

theorem placed_turned (h : x.Placed) (hturn : x.Turned turn y) : y.Placed := by
  cases hturn with
  | @adds name key volume events given new =>
    have hnew : MemoryAudio.HandleOf
        { x.audio with
          controls := x.audio.controls ++ [{ name, key, volume }]
          handles := x.audio.handles ++ [x.audio.controls.length] }
        { id := x.audio.handles.length, key } x.audio.controls.length :=
      ⟨by simp [MemoryAudio.control?], by simp⟩
    refine h.extend (List.prefix_append _ _) (by simp) (fun l hl => ?_) (fun p hp => ?_)
    · refine (List.mem_append.mp hl).imp_right fun hl => ?_
      rw [List.mem_singleton.mp hl]
      exact ⟨hnew.control, hnew.key⟩
    · refine (List.mem_append.mp hp).imp_right fun hp => ?_
      obtain ⟨-, rfl⟩ | ⟨-, rfl⟩ := new
      · cases hp
      · rw [List.mem_singleton.mp hp]
        exact ⟨hnew.control, hnew.key⟩
  | removes events left => exact h.keep rfl rfl left rfl
  | lists made stand new =>
    exact h.extend (List.prefix_append _ _) (List.prefix_refl _) (fun _ hl => .inl hl)
      fun p hp => (List.mem_append.mp hp).imp_right (stand p)
  | takes _ _ | fails _ =>
    exact h.keep rfl (MemoryAudio.keys_changeControl _ _ fun _ => rfl) (fun _ hl => hl) rfl
  | refuses | repeats old => exact h
  | releases new | failsEnumeration fail | reports events =>
    exact h.keep rfl rfl (fun _ hl => hl) rfl

/-- A system that has to be asked gives out every handle once; one that reports changes has one handle
    for each session. -/
structure Numbered (x : MemoryLog) : Prop where
  polling : x.audio.mode = .polling → (x.given.map (·.1.id)).Nodup
  eventDriven : x.audio.mode = .eventDriven → x.audio.handles = List.range x.audio.controls.length

theorem Numbered.keep (h : x.Numbered) (mode : y.audio.mode = x.audio.mode)
    (given : y.given = x.given) (handles : y.audio.handles = x.audio.handles)
    (controls : y.audio.controls.length = x.audio.controls.length) : y.Numbered :=
  ⟨fun hmode => given ▸ h.polling (mode ▸ hmode),
    fun hmode => by rw [handles, controls, h.eventDriven (mode ▸ hmode)]⟩

theorem numbered_turned (hplaced : x.Placed) (h : x.Numbered) (hturn : x.Turned turn y) :
    y.Numbered := by
  cases hturn with
  | adds events new =>
    constructor
    case polling =>
      intro hmode
      obtain ⟨-, rfl⟩ | ⟨hevents, -⟩ := new
      · simpa using h.polling hmode
      · cases hmode.symm.trans hevents
    case eventDriven =>
      intro hmode
      simp [h.eventDriven hmode, List.range_succ]
  | lists made stand new =>
    constructor
    case polling =>
      intro hmode
      obtain ⟨-, hids⟩ | ⟨hevents, -⟩ := new
      · rw [List.map_append, hids]
        refine List.nodup_append.mpr ⟨h.polling hmode, List.nodup_range', ?_⟩
        rintro n hn m hm rfl
        -- a handle given out before has a smaller number
        obtain ⟨p, hp, rfl⟩ := List.mem_map.mp hn
        have hsmall := (List.getElem?_eq_some_iff.mp (hplaced.given p hp).control).1
        have hlarge := (List.mem_range'_1.mp hm).1
        omega
      · cases hmode.symm.trans hevents
    case eventDriven =>
      intro hmode
      obtain ⟨hpolling, -⟩ | ⟨-, rfl⟩ := new
      · cases hmode.symm.trans hpolling
      · simpa using h.eventDriven hmode
  | refuses | repeats old => exact h
  | takes _ _ | fails _ => exact h.keep rfl rfl rfl (by simp [MemoryAudio.changeControl])
  | _ => exact h.keep rfl rfl rfl rfl

/-- The handles given back are counted, each of them once. -/
structure Counted (turns : List MemoryTurn) (x : MemoryLog) : Prop where
  nodup : x.audio.released.Nodup
  all : ∀ n, n ∈ x.audio.released ↔ n ∈ MemoryTurn.givenBack turns

theorem Counted.keep (h : x.Counted turns) (released : y.audio.released = x.audio.released)
    (quiet : ∀ s, turn.givenBack? = some s → s.id ∈ x.audio.released) :
    y.Counted (turns ++ [turn]) where
  nodup := released ▸ h.nodup
  all n := by
    rw [released, MemoryTurn.givenBack_snoc, List.mem_append, ← h.all]
    refine ⟨.inl, Or.rec id fun hn => ?_⟩
    obtain ⟨s, hs, rfl⟩ : ∃ s, turn.givenBack? = some s ∧ s.id = n := by simpa using hn
    exact quiet s hs

theorem counted_turned (h : x.Counted turns) (hturn : x.Turned turn y) :
    y.Counted (turns ++ [turn]) := by
  cases hturn with
  | @releases s new =>
    refine ⟨List.nodup_append.mpr ⟨h.nodup, List.nodup_singleton _, ?_⟩, fun n => ?_⟩
    · rintro n hn m hm rfl
      exact new (List.mem_singleton.mp hm ▸ hn)
    · rw [MemoryTurn.givenBack_snoc, List.mem_append, List.mem_append, h.all]
      simp [MemoryTurn.givenBack?]
  | repeats old => exact h.keep rfl (by simpa [MemoryTurn.givenBack?] using old)
  | _ => exact h.keep rfl (by simp [MemoryTurn.givenBack?])

/-- The session is what the turns and the volumes it took have made of it. -/
structure Sound (turns : List MemoryTurn) (x : MemoryLog) (session : Nat) (c : Control) : Prop where
  volume : ∃ initial, (turns.filterMap MemoryTurn.initial?)[session]? = some initial ∧
    c.volume = c.applied.getLast?.getD initial
  taken : c.applied = x.takenBy session
  legal : ∀ v ∈ c.applied, v.inUnitInterval = true
  failing : c.failing = MemoryTurn.failing turns session

structure Recorded (turns : List MemoryTurn) (x : MemoryLog) : Prop where
  started : (turns.filterMap MemoryTurn.initial?).length = x.audio.controls.length
  sessions : ∀ i c, x.audio.controls[i]? = some c → x.Sound turns i c
  unknown : ∀ i, x.audio.controls.length ≤ i →
    x.takenBy i = [] ∧ MemoryTurn.failing turns i = false

theorem takenBy_snoc (x : MemoryLog) (audio : MemoryAudio) (session i : Nat) (volume : Binary32) :
    takenBy { x with audio, taken := x.taken ++ [(session, volume)] } i =
      x.takenBy i ++ if session = i then [volume] else [] := by
  by_cases h : session = i <;> simp [takenBy, h]

theorem initials_snoc (turns : List MemoryTurn) (turn : MemoryTurn) :
    (turns ++ [turn]).filterMap MemoryTurn.initial? =
      turns.filterMap MemoryTurn.initial? ++ turn.initial?.toList := by
  cases h : turn.initial? <;> simp [h]

theorem initial_snoc {i : Nat} {initial : Binary32}
    (h : (turns.filterMap MemoryTurn.initial?)[i]? = some initial) (turn : MemoryTurn) :
    ((turns ++ [turn]).filterMap MemoryTurn.initial?)[i]? = some initial := by
  rw [initials_snoc]
  exact (List.prefix_append _ _).getElem?_eq_some h

/-- Nothing is done to the session. -/
theorem Sound.keep {i : Nat} {c : Control} (h : x.Sound turns i c) (taken : y.takenBy i = x.takenBy i)
    (quiet : turn.fails? i = none) : y.Sound (turns ++ [turn]) i c where
  volume := by
    obtain ⟨initial, hinitial, hvolume⟩ := h.volume
    exact ⟨initial, initial_snoc hinitial turn, hvolume⟩
  taken := h.taken.trans taken.symm
  legal := h.legal
  failing := by rw [MemoryTurn.failing_snoc, quiet, Option.getD_none, h.failing]

/-- Nothing is done to any session. -/
theorem Recorded.keep (h : x.Recorded turns) (controls : y.audio.controls = x.audio.controls)
    (taken : y.taken = x.taken) (initial : turn.initial? = none)
    (quiet : ∀ i, turn.fails? i = none) : y.Recorded (turns ++ [turn]) := by
  have htaken (i : Nat) : y.takenBy i = x.takenBy i := by rw [takenBy, taken, takenBy]
  refine ⟨?_, fun i c hc => ?_, fun i hi => ?_⟩
  · rw [initials_snoc, initial, controls, ← h.started, Option.toList_none, List.append_nil]
  · exact (h.sessions i c (controls ▸ hc)).keep (htaken i) (quiet i)
  · rw [htaken, MemoryTurn.failing_snoc, quiet, Option.getD_none]
    exact h.unknown i (controls ▸ hi)

theorem recorded_turned (h : x.Recorded turns) (hturn : x.Turned turn y) :
    y.Recorded (turns ++ [turn]) := by
  cases hturn with
  | @adds name key volume events given new =>
    refine ⟨by simp [MemoryTurn.initial?, h.started], fun i c hc => ?_, fun i hi => ?_⟩
    · rw [List.getElem?_append] at hc
      split at hc
      · exact (h.sessions i c hc).keep rfl rfl
      · next hlength =>
        simp only [List.getElem?_singleton, Option.ite_none_right_eq_some, Option.some.injEq] at hc
        obtain ⟨hzero, rfl⟩ := hc
        obtain rfl : i = x.audio.controls.length := by omega
        obtain ⟨htaken, hfailing⟩ := h.unknown _ (Nat.le_refl _)
        refine ⟨⟨volume, ?_, rfl⟩, htaken.symm, by simp, ?_⟩
        · rw [initials_snoc, ← h.started]
          simp [MemoryTurn.initial?]
        · rw [MemoryTurn.failing_snoc]
          exact hfailing.symm
    · rw [List.length_append] at hi
      rw [MemoryTurn.failing_snoc]
      exact h.unknown i (Nat.le_trans (Nat.le_add_right _ _) hi)
  | @takes s session volume known legal =>
    refine ⟨by simp [MemoryTurn.initial?, MemoryAudio.changeControl, h.started], fun i c hc => ?_,
      fun i hi => ?_⟩
    · rw [MemoryAudio.getElem?_changeControl, Option.map_eq_some_iff] at hc
      obtain ⟨d, hd, rfl⟩ := hc
      have hsound := h.sessions i d hd
      by_cases hi : session = i
      · obtain ⟨initial, hinitial, -⟩ := hsound.volume
        rw [if_pos hi]
        refine ⟨⟨initial, initial_snoc hinitial _, by simp [Control.take]⟩, ?_, ?_, ?_⟩
        · rw [takenBy_snoc, if_pos hi, Control.applied_take, hsound.taken]
        · intro v hv
          rcases List.mem_append.mp hv with hv | hv
          · exact hsound.legal v hv
          · rw [List.mem_singleton.mp hv, legal]
        · rw [MemoryTurn.failing_snoc]
          exact hsound.failing
      · rw [if_neg hi]
        refine hsound.keep ?_ rfl
        rw [takenBy_snoc, if_neg hi, List.append_nil]
    · have hlength : x.audio.controls.length ≤ i := by simpa [MemoryAudio.changeControl] using hi
      have hne : session ≠ i := (known.trans_le hlength).ne
      rw [takenBy_snoc, if_neg hne, List.append_nil, MemoryTurn.failing_snoc]
      exact h.unknown i hlength
  | @fails session failing known =>
    refine ⟨by simp [MemoryTurn.initial?, MemoryAudio.changeControl, h.started], fun i c hc => ?_,
      fun i hi => ?_⟩
    · rw [MemoryAudio.getElem?_changeControl, Option.map_eq_some_iff] at hc
      obtain ⟨d, hd, rfl⟩ := hc
      have hsound := h.sessions i d hd
      by_cases hi : session = i
      · rw [if_pos hi]
        obtain ⟨initial, hinitial, hvolume⟩ := hsound.volume
        refine ⟨⟨initial, initial_snoc hinitial _, hvolume⟩, hsound.taken, hsound.legal, ?_⟩
        rw [MemoryTurn.failing_snoc, MemoryTurn.fails?, if_pos hi, Option.getD_some]
      · rw [if_neg hi]
        exact hsound.keep rfl (if_neg hi)
    · have hlength : x.audio.controls.length ≤ i := by
        simpa [MemoryAudio.changeControl] using hi
      have hne : session ≠ i := (known.trans_le hlength).ne
      rw [MemoryTurn.failing_snoc, MemoryTurn.fails?, if_neg hne]
      exact h.unknown i hlength
  | _ => exact h.keep rfl rfl rfl fun _ => rfl

/-! ## Runs -/

/-- What every turn keeps. -/
structure Kept (mode : TrackingMode) (turns : List MemoryTurn) (x : MemoryLog) : Prop where
  mode : x.audio.mode = mode
  placed : x.Placed
  numbered : x.Numbered
  counted : x.Counted turns
  recorded : x.Recorded turns

theorem mode_turned (hturn : x.Turned turn y) : y.audio.mode = x.audio.mode := by
  cases hturn <;> rfl

theorem kept_start (mode : TrackingMode) : Kept mode [] (start mode) where
  mode := rfl
  placed := ⟨fun _ hl => absurd hl List.not_mem_nil, fun _ hp => absurd hp List.not_mem_nil⟩
  numbered := ⟨fun _ => List.nodup_nil, fun _ => rfl⟩
  counted := ⟨List.nodup_nil, fun _ => Iff.rfl⟩
  recorded := ⟨rfl, fun i c hc => by simp [start, MemoryAudio.new] at hc, fun _ _ => ⟨rfl, rfl⟩⟩

theorem kept_of_run {mode : TrackingMode} (run : Run.after? turn? (start mode) turns = some x) :
    Kept mode turns x := by
  refine Run.invariant_of_history (Q := fun _ _ => True) (kept_start mode) ?_
    (Run.along_of_forall (fun _ _ => trivial) _ _) run
  intro front u turn v _ h _ hturn
  have hturned := turned_of_turn? h.placed hturn
  exact ⟨(mode_turned hturned).trans h.mode, placed_turned h.placed hturned,
    numbered_turned h.placed h.numbered hturned, counted_turned h.counted hturned,
    recorded_turned h.recorded hturned⟩

/-- However sessions start and end and handles are given out, used and given back, and whichever sessions
    fail.  A volume set through a handle is taken exactly if the handle was not given back, the volume is
    a number from `0` to `1`, and the session was not told to fail last; else the first of these that is
    not so is told, and nothing changes.  A volume that is taken is seen through every handle given out
    for its session, and no other session changes.  A session has the volume that it took last, or
    else the one it was started with, and all that it took are numbers from `0` to `1`.  Handles given
    back are counted once.  A system that has to be asked gives out each handle once, and one that
    reports changes has one for each session. -/
theorem applies_whole_or_not {mode : TrackingMode}
    (run : Run.after? turn? (start mode) turns = some x) :
    (∀ s session, (s, session) ∈ x.given → ∀ volume : Binary32,
      let released := s.id ∈ MemoryTurn.givenBack turns
      let legal := volume.isNaN = false ∧ 0 ≤ volume.units ∧ volume.units ≤ 2 ^ 149
      let failing := MemoryTurn.failing turns session = true
      let answer := (x.audio.setVolume s volume).1
      let audio := (x.audio.setVolume s volume).2
      (answer = .ok () ↔ ¬ released ∧ legal ∧ ¬ failing) ∧
      (answer = .error (.released s.key) ↔ released) ∧
      (answer = .error (.volumeOutOfRange volume) ↔ ¬ released ∧ ¬ legal) ∧
      (answer = .error (.setVolume s.key "session is no longer available") ↔
        ¬ released ∧ legal ∧ failing) ∧
      (answer ≠ .ok () → audio = x.audio) ∧
      (answer = .ok () →
        (∀ t other, (t, other) ∈ x.given →
          audio.volume t = if other = session then volume else x.audio.volume t) ∧
        ∀ i, audio.controls[i]? =
          (x.audio.controls[i]?).map fun c => if session = i then c.take volume else c)) ∧
    x.audio.controls.length = (turns.filterMap MemoryTurn.initial?).length ∧
    (∀ i c, x.audio.controls[i]? = some c →
      (∃ initial, (turns.filterMap MemoryTurn.initial?)[i]? = some initial ∧
        c.volume = c.applied.getLast?.getD initial) ∧
      c.applied = x.takenBy i ∧
      (∀ v ∈ c.applied, v.isNaN = false ∧ 0 ≤ v.units ∧ v.units ≤ 2 ^ 149) ∧
      ∀ s, (s, i) ∈ x.given → x.audio.volume s = c.volume ∧ c.key = s.key) ∧
    x.audio.releasedCount = (MemoryTurn.givenBack turns).dedup.length ∧
    (mode = .polling → (x.given.map (·.1.id)).Nodup) ∧
    (mode = .eventDriven → ∀ p ∈ x.given, ∀ q ∈ x.given, p.1.id = q.1.id ↔ p.2 = q.2) := by
  have h := kept_of_run run
  refine ⟨fun s session hs volume => ?_, h.recorded.started.symm, fun i c hc => ?_, ?_, ?_, ?_⟩
  · have hhandle := h.placed.given _ hs
    obtain ⟨c, hc, -⟩ := hhandle.exists_control
    have hfailing := (h.recorded.sessions session c hc).failing
    obtain ⟨hok, hreleased, hrange, hfails, hrefused, htaken⟩ :=
      MemoryAudio.setVolume_iff hhandle hc volume
    rw [h.counted.all, Binary32.inUnitInterval_iff, hfailing] at hok hfails
    rw [h.counted.all, Binary32.inUnitInterval_iff] at hrange
    rw [h.counted.all] at hreleased
    refine ⟨hok, hreleased, hrange, hfails, hrefused, fun hanswer => ?_⟩
    rw [htaken hanswer]
    exact ⟨fun t other ht => MemoryAudio.volume_changeControl (h.placed.given _ ht) session volume,
      fun i => MemoryAudio.getElem?_changeControl⟩
  · have hsound := h.recorded.sessions i c hc
    refine ⟨hsound.volume, hsound.taken,
      fun v hv => Binary32.inUnitInterval_iff.mp (hsound.legal v hv), fun s hs => ?_⟩
    have hhandle := h.placed.given _ hs
    obtain ⟨d, hd, hkey⟩ := hhandle.exists_control
    obtain rfl : c = d := by simpa [hc] using hd
    exact ⟨MemoryAudio.volume_of_handleOf hhandle hc, hkey⟩
  · have hperm : x.audio.released.Perm (MemoryTurn.givenBack turns).dedup :=
      (List.perm_ext_iff_of_nodup h.counted.nodup (List.nodup_dedup _)).mpr fun n => by
        rw [h.counted.all, List.mem_dedup]
    exact hperm.length_eq
  · exact fun hmode => h.numbered.polling (h.mode.trans hmode)
  · intro hmode
    have hnumber (p : Session × Nat) (hp : p ∈ x.given) : p.1.id = p.2 := by
      have hcontrol := (h.placed.given p hp).control
      rw [MemoryAudio.control?, h.numbered.eventDriven (h.mode.trans hmode)] at hcontrol
      obtain ⟨hlength, hnumber⟩ := List.getElem?_eq_some_iff.mp hcontrol
      rwa [List.getElem_range] at hnumber
    intro p hp q hq
    rw [hnumber p hp, hnumber q hq]

/-- Two snapshots are taken.  A handle of the first sets a volume and is given back twice, and the other
    session fails from then on. -/
theorem applies_whole_or_not_two_snapshots :
    let half : Binary32 := ⟨0x3f000000⟩
    let turns : List MemoryTurn :=
      [.add "1" "a.exe" Binary32.one, .add "2" "b.exe" Binary32.zero, .enumerate, .enumerate,
        .setVolume ⟨2, "a.exe"⟩ half, .release ⟨2, "a.exe"⟩, .release ⟨2, "a.exe"⟩,
        .setVolume ⟨2, "a.exe"⟩ Binary32.one, .setFailing 1 true, .remove 0]
    ∃ x, Run.after? turn? (start .polling) turns = some x ∧
      x.given = [(⟨2, "a.exe"⟩, 0), (⟨3, "b.exe"⟩, 1), (⟨4, "a.exe"⟩, 0), (⟨5, "b.exe"⟩, 1)] ∧
      x.audio.volume ⟨4, "a.exe"⟩ = half ∧
      (x.audio.setVolume ⟨4, "a.exe"⟩ Binary32.zero).1 = .ok () ∧
      (x.audio.setVolume ⟨2, "a.exe"⟩ Binary32.nan).1 = .error (.released "a.exe") ∧
      (x.audio.setVolume ⟨3, "b.exe"⟩ Binary32.nan).1 = .error (.volumeOutOfRange Binary32.nan) ∧
      (x.audio.setVolume ⟨3, "b.exe"⟩ half).1 =
        .error (.setVolume "b.exe" "session is no longer available") ∧
      x.audio.releasedCount = 1 := by
  intro half turns
  have hruns : ∃ x ∈ Run.after? turn? (start .polling) turns,
      x.given = [(⟨2, "a.exe"⟩, 0), (⟨3, "b.exe"⟩, 1), (⟨4, "a.exe"⟩, 0), (⟨5, "b.exe"⟩, 1)] ∧
      x.takenBy 0 = [half] ∧ 0 < x.audio.controls.length := by decide +kernel
  obtain ⟨x, run, hgiven, htaken, hstarted⟩ := hruns
  obtain ⟨hanswers, -, hsessions, hcount, -, -⟩ := applies_whole_or_not run
  refine ⟨x, run, hgiven, ?_, ?_, ?_, ?_, ?_, ?_⟩
  · obtain ⟨⟨initial, -, hvolume⟩, happlied, -, hseen⟩ :=
      hsessions 0 _ (List.getElem?_eq_getElem hstarted)
    rw [(hseen ⟨4, "a.exe"⟩ (by simp [hgiven])).1, hvolume, happlied, htaken]
    rfl
  · exact (hanswers ⟨4, "a.exe"⟩ 0 (by simp [hgiven]) Binary32.zero).1.mpr (by decide +kernel)
  · exact (hanswers ⟨2, "a.exe"⟩ 0 (by simp [hgiven]) Binary32.nan).2.1.mpr (by decide +kernel)
  · exact (hanswers ⟨3, "b.exe"⟩ 1 (by simp [hgiven]) Binary32.nan).2.2.1.mpr (by decide +kernel)
  · exact (hanswers ⟨3, "b.exe"⟩ 1 (by simp [hgiven]) half).2.2.2.1.mpr (by decide +kernel)
  · rw [hcount]
    decide +kernel

end MemoryLog

end SliderMixer
