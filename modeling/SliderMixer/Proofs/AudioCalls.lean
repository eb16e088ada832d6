import SliderMixer.Proofs.Callers
import SliderMixer.Proofs.EngineSteps

/-! # Calls of the audio system

* `AudioCall`: what the mixer asks of the audio system while it runs.
* `Call.audioCalls`, `Pass.audioCalls`, `Engine.audioCalls`, `Callers.audioCalls`: what the next
  step asks; the `audio_` lemmas: these calls, and no others, change the audio system.
* `Call.due`: what a caller asks until it is finished, if nobody comes in between.
-/

namespace SliderMixer

inductive AudioCall where
  | nextEvent
  | unsubscribe
  | enumerate
  | volume (s : Session)
  | setVolume (s : Session) (value : Binary32)
  | giveBack (s : Session)
  /-- The system itself is given up. -/
  | giveUp
  deriving DecidableEq

variable {α : Type} [AudioSystem α]

/-- The audio system after a call. -/
def AudioCall.after (audio : α) : AudioCall → α
  | .nextEvent => (AudioSystem.nextEvent audio).2
  | .unsubscribe => AudioSystem.unsubscribe audio
  | .enumerate => (AudioSystem.enumerate audio).2
  | .volume _ => audio
  | .setVolume s value => (AudioSystem.setVolume audio s value).2
  | .giveBack s => AudioSystem.releaseSession audio s
  | .giveUp => (AudioSystem.releaseBackend audio).2

/-! ## Callers -/

namespace Call

omit [AudioSystem α] in
/-- What the next section asks of the audio system. -/
def audioCalls : Call → List AudioCall
  | enumerate => [.enumerate]
  | giveBack (s :: _) _ => [.giveBack s]
  | closeAudio => [.giveUp]
  | insert _ | erase _ | classify _ | beginRefresh _ | replace _ | takeAll | giveBack [] _
  | countSessions _ | publishCount _ _ | claimClosing | finished _ => []

theorem audio_section (c : Call) (t : Tracker α) :
    (c.step t).2.audio = c.audioCalls.foldl AudioCall.after t.audio := by
  have hstep := c.stepped t
  generalize c.step t = next at hstep ⊢
  cases hstep with
  | lists answer | fails answer => simp [audioCalls, AudioCall.after, answer]
  | _ => rfl

/-- Where sessions can be listed, those of the directory are replaced. -/
def dueListed (t : Tracker α) : List AudioCall :=
  .enumerate ::
    match t.enumerate with
    | (.error _, _) => []
    | (.ok fresh, t) => (t.replace fresh).1.map .giveBack

omit [AudioSystem α] in
def dueGivenUp (t : Tracker α) : List AudioCall := if t.closing then [] else [.giveUp]

omit [AudioSystem α] in
def dueAfter (t : Tracker α) : AfterCount → List AudioCall
  | .finish _ => []
  | .close => dueGivenUp t

/-- What the caller asks of the audio system until it is finished, if nobody comes in between. -/
def due (t : Tracker α) : Call → List AudioCall
  | insert _ | erase _ | classify _ | finished _ => []
  | beginRefresh force => (t.beginRefresh force).elim [] dueListed
  | enumerate => dueListed t
  | replace fresh => (t.replace fresh).1.map .giveBack
  | takeAll => t.takeAll.1.map .giveBack ++ dueGivenUp t
  | giveBack handles next => handles.map .giveBack ++ dueAfter t next
  | countSessions next | publishCount _ next => dueAfter t next
  | claimClosing => dueGivenUp t
  | closeAudio => [.giveUp]

theorem due_step (c : Call) (t : Tracker α) :
    c.due t = c.audioCalls ++ (c.step t).1.due (c.step t).2 := by
  have hstep := c.stepped t
  generalize c.step t = next at hstep ⊢
  cases hstep with
  | begins free => simp [due, Tracker.beginRefresh, free, audioCalls]
  | throttles recent => simp [due, Tracker.beginRefresh, recent, audioCalls]
  | lists answer | fails answer => simp [due, dueListed, Tracker.enumerate, answer, audioCalls]
  | replaces fresh => simp [due, dueAfter, audioCalls]
  | claims free => simp [due, dueGivenUp, free, audioCalls]
  | yields taken => simp [due, dueGivenUp, taken, audioCalls]
  | returns _ _ next | returned next | counts next => cases next <;> rfl
  | _ => rfl

/-- A caller alone asks for what is due. -/
theorem ComesTo.audio {c d : Call} {t u : Tracker α} (h : c.ComesTo t d u)
    (hd : d.isFinished = true) : u.audio = (c.due t).foldl AudioCall.after t.audio := by
  induction h with
  | refl c t =>
    obtain ⟨r, rfl⟩ := eq_finished_of_isFinished hd
    rfl
  | @step c d t u _ ih => rw [ih hd, due_step c t, List.foldl_append, audio_section]

end Call

namespace Operation

theorem audio_perform (op : Operation) (t : Tracker α) :
    (op.perform t).audio = (op.call.due t).foldl AudioCall.after t.audio :=
  (op.comesTo_perform t).audio rfl

end Operation

namespace Callers

/-- What the turn asks of the audio system. -/
def audioCalls (c : Callers α) : Turn α → List AudioCall
  | .proceed i => (c.callers[i]?.map fun caller => caller.call.audioCalls).getD []
  | .perform op => op.call.due c.tracker
  | .begin _ | .audio _ | .clock _ => []

/-- Callers change the audio system by their calls, and by nothing else. -/
theorem audio_turn {c d : Callers α} {turn : Turn α} (hturn : c.turn? turn = some d)
    (hself : ∀ audio, turn ≠ .audio audio) :
    d.tracker.audio = (c.audioCalls turn).foldl AudioCall.after c.tracker.audio := by
  cases turn with
  | begin op | clock now =>
    cases hturn
    rfl
  | proceed i =>
    simp only [turn?, Option.map_eq_some_iff] at hturn
    obtain ⟨caller, hget, rfl⟩ := hturn
    rw [audioCalls, hget]
    exact caller.call.audio_section c.tracker
  | perform op =>
    cases hturn
    exact op.audio_perform c.tracker
  | audio audio => exact absurd rfl (hself audio)

end Callers

/-! ## Passes -/

namespace Pass

omit [AudioSystem α] in
def audioCalls : Pass → List AudioCall
  | visiting _ (.session s :: _) _ => [.volume s]
  | visiting move (.adjust s :: _) _ => [.setVolume s move.value]
  | visiting _ (.target _ :: _) _ | visiting _ (.key _ :: _) _ | visiting _ [] _ | begun _
  | raising .. | ringing _ | finished _ => []

omit [AudioSystem α] in
/-- A pass asks for volumes and sets them. -/
theorem mem_audioCalls {p : Pass} {call : AudioCall} (h : call ∈ p.audioCalls) :
    ∃ s, call = .volume s ∨ ∃ value, call = .setVolume s value := by
  unfold audioCalls at h
  split at h
  · exact ⟨_, .inl (List.mem_singleton.mp h)⟩
  · exact ⟨_, .inr ⟨_, List.mem_singleton.mp h⟩⟩
  all_goals cases h

theorem audio_step (p : Pass) (mapping : SliderMapping) (m : Mixer α) :
    (p.step mapping m).2.tracker.audio = p.audioCalls.foldl AudioCall.after m.tracker.audio := by
  cases p with
  | begun move => cases htargets : mapping.get? move.slider <;> simp [step, htargets, audioCalls]
  | visiting move visits o =>
    cases visits with
    | nil => cases hwanted : o.wanted m.tracker.mode <;> simp [step, hwanted, audioCalls]
    | cons v rest =>
      cases v with
      | target text =>
        simp [step, visit, audioCalls]
      | key k => cases hlookup : m.tracker.lookup k <;> simp [step, visit, hlookup, audioCalls]
      | session s => rfl
      | adjust s => rfl
  | raising kind o => rfl
  | ringing o => rfl
  | finished o => rfl

end Pass

/-! ## The engine -/

namespace Engine

omit [AudioSystem α] in
/-- What the turn asks of the audio system. -/
def audioCalls (e : Engine α) : Occurrence α → List AudioCall
  | .step (.flow .pump choice) =>
    match e.flows.pump, choice with
    | .waiting, .stop => [.unsubscribe]
    | .waiting, .proceed => [.nextEvent]
    | .handling c, _ => c.audioCalls
    | .ended, _ => []
  | .step (.flow .worker .proceed) => e.flows.worker.callers.flatMap Call.audioCalls
  | .step (.flow .router .proceed) =>
    match e.flows.router with
    | .routing p => p.audioCalls
    | .waiting | .ended => []
  | .step .close => e.phase.callers.flatMap Call.audioCalls
  | .step (.flow .worker .stop) | .step (.flow .sync _) | .step (.flow .router .stop)
  | .step (.fanOut _) | .step (.link _) | .step (.watcher _) | .apply _ | .shutdown | .board _
  | .clock _ | .world .. | .write .. | .remove => []

variable {e e' : Engine α} {choice : EngineChoice}

omit [AudioSystem α] in
/-- The pump asks for reports; all else is asked by callers and by passes. -/
theorem mem_audioCalls {turn : Occurrence α} {call : AudioCall} (h : call ∈ e.audioCalls turn) :
    (∃ c ∈ e.callers, call ∈ c.audioCalls) ∨
    (∃ p, e.flows.router = .routing p ∧ call ∈ p.audioCalls) ∨
    call = .nextEvent ∨ call = .unsubscribe := by
  unfold audioCalls at h
  split at h
  · next choice =>
    split at h
    · exact .inr (.inr (.inr (List.mem_singleton.mp h)))
    · exact .inr (.inr (.inl (List.mem_singleton.mp h)))
    · next c hpump =>
      exact .inl ⟨c, by simp [callers, Flows.callers, EventPump.callers, hpump], h⟩
    · cases h
  · obtain ⟨c, hc, h⟩ := List.mem_flatMap.mp h
    exact .inl ⟨c, List.mem_append_left _ (List.mem_append_right _ hc), h⟩
  · split at h
    · next p hrouter => exact .inr (.inl ⟨p, hrouter, h⟩)
    all_goals cases h
  · obtain ⟨c, hc, h⟩ := List.mem_flatMap.mp h
    exact .inl ⟨c, List.mem_append_right _ hc, h⟩
  all_goals cases h

theorem audio_step (h : e.Step choice e') :
    e'.flows.mixer.tracker.audio =
      (e.audioCalls (.step choice)).foldl AudioCall.after e.flows.mixer.tracker.audio := by
  cases h with
  | flow step =>
    cases step with
    | unsubscribes _ hphase | handled hphase | refreshed hphase =>
      simp only [audioCalls, hphase]
      rfl
    | hears hphase hnext | cutOff hphase hnext =>
      simp only [audioCalls, hphase, List.foldl_cons, AudioCall.after, hnext]
      rfl
    | handles hphase _ =>
      simp only [audioCalls, hphase]
      exact Call.audio_section _ _
    | refreshes hphase _ =>
      simp only [audioCalls, hphase, RefreshWorker.callers, List.flatMap_singleton]
      exact Call.audio_section _ _
    | answers hphase _ | lowers hphase =>
      simp only [audioCalls, hphase]
      rfl
    | takes hphase _ | outlasts hphase _ _ | routed hphase =>
      simp only [audioCalls, hphase]
      rfl
    | routes hphase _ =>
      simp only [audioCalls, hphase]
      exact Pass.audio_step _ _ _
    | _ => rfl
  | closes hphase _ =>
    simp only [audioCalls, hphase]
    rfl
  | givesUp hphase _ =>
    simp only [audioCalls, hphase, EnginePhase.callers, List.flatMap_singleton]
    exact Call.audio_section _ _
  | _ => rfl

end Engine

end SliderMixer
