import SliderMixer.Engine
import SliderMixer.Proofs.LinkSteps
import SliderMixer.Proofs.Moves
import SliderMixer.Proofs.Run

/-! # Steps of the engine

The parts of the engine go on in any order, and what is around the engine changes in between.

* `RefreshWorker.Proceeds`, `Flows.Step` and `Engine.Step`: every step that the refresh worker, a
  flow, and a part of the engine can take, with the state in which it is taken.
* `Occurrence`: the steps of the engine and all that happens around it.
* `Engine.callers`: the operations on the tracker that are under way; `Engine.Step.callers` and
  `Engine.Step.tracker`: what a step makes of them and of the tracker.
-/

namespace SliderMixer

variable {α : Type}

/-- The caller has done its last section. -/
def Call.isFinished : Call → Bool
  | finished _ => true
  | insert _ | erase _ | classify _ | beginRefresh _ | enumerate | replace _ | takeAll
  | giveBack _ _ | countSessions _ | publishCount _ _ | claimClosing | closeAudio => false

def Pass.isFinished : Pass → Bool
  | finished _ => true
  | begun _ | visiting .. | raising .. | ringing _ => false

theorem Call.eq_finished_of_isFinished {c : Call} (h : c.isFinished = true) :
    ∃ r, c = .finished r := by
  cases c with
  | finished r => exact ⟨r, rfl⟩
  | _ => cases h

theorem Pass.eq_finished_of_isFinished {p : Pass} (h : p.isFinished = true) :
    ∃ o, p = .finished o := by
  cases p with
  | finished o => exact ⟨o, rfl⟩
  | _ => cases h

variable [AudioSystem α]

/-! ## Sections and steps of a pass -/

theorem EventPump.proceed?_handling {c : Call} (h : c.isFinished = false) (m : Mixer α) :
    (handling c).proceed? m =
      some (.handling (c.step m.tracker).1, { m with tracker := (c.step m.tracker).2 }) := by
  cases c with
  | finished r => cases h
  | _ => rfl

theorem RefreshWorker.proceed?_refreshing {c : Call} (h : c.isFinished = false) (m : Mixer α) :
    (refreshing c).proceed? m =
      some (.refreshing (c.step m.tracker).1, { m with tracker := (c.step m.tracker).2 }) := by
  cases c with
  | finished r => cases h
  | _ => rfl

/-- Every step of the worker, by where it is. -/
inductive RefreshWorker.Proceeds (m : Mixer α) :
    RefreshWorker → RefreshWorker → Mixer α → Prop where
  | answers {signal : RefreshSignal} (rung : m.signal.answer = some signal) :
      Proceeds m .waiting .taking { m with signal }
  | lowers :
      Proceeds m .taking (.refreshing (.refresh (m.signal.lower.1 == .forced)))
        { m with signal := m.signal.lower.2 }
  | refreshes {c : Call} (unfinished : c.isFinished = false) :
      Proceeds m (.refreshing c) (.refreshing (c.step m.tracker).1)
        { m with tracker := (c.step m.tracker).2 }
  | refreshed (r : CallResult) : Proceeds m (.refreshing (.finished r)) .waiting m

theorem RefreshWorker.proceeds_of_proceed? {w w' : RefreshWorker} {m m' : Mixer α}
    (h : w.proceed? m = some (w', m')) : Proceeds m w w' m' := by
  cases w with
  | waiting =>
    simp only [proceed?, Option.map_eq_some_iff] at h
    obtain ⟨signal, hrung, h⟩ := h
    cases h
    exact .answers hrung
  | taking =>
    cases h
    exact .lowers
  | refreshing c =>
    cases hc : c.isFinished with
    | true =>
      obtain ⟨r, rfl⟩ := Call.eq_finished_of_isFinished hc
      cases h
      exact .refreshed r
    | false =>
      rw [proceed?_refreshing hc] at h
      cases h
      exact .refreshes hc
  | ended => cases h

theorem Router.proceed?_routing {p : Pass} (h : p.isFinished = false) (mapping : SliderMapping)
    (moves : Mailbox Move) (m : Mixer α) :
    (routing p).proceed? mapping moves m =
      some (.routing (p.step mapping m).1, moves, (p.step mapping m).2) := by
  cases p with
  | finished o => cases h
  | _ => rfl

/-! ## Single steps of a flow -/

namespace Flows

inductive Step (f : Flows α) (moves : Mailbox Move) :
    FlowName → Choice → Flows α → Mailbox Move → Prop where
  | unsubscribes (signal : f.stop = true) (phase : f.pump = .waiting) :
      Step f moves .pump .stop { f with
        pump := .ended
        mixer := f.mixer.withAudio (AudioSystem.unsubscribe f.mixer.tracker.audio) } moves
  | hears {event : SessionEvent} {audio : α} (phase : f.pump = .waiting)
      (next : AudioSystem.nextEvent f.mixer.tracker.audio = (.item event, audio)) :
      Step f moves .pump .proceed { f with
        pump := .handling (.handle event)
        mixer := f.mixer.withAudio audio } moves
  | cutOff {audio : α} (phase : f.pump = .waiting)
      (next : AudioSystem.nextEvent f.mixer.tracker.audio = (.ended, audio)) :
      Step f moves .pump .proceed { f with
        pump := .ended
        mixer := f.mixer.withAudio audio } moves
  | handles {c : Call} (phase : f.pump = .handling c) (unfinished : c.isFinished = false) :
      Step f moves .pump .proceed { f with
        pump := .handling (c.step f.mixer.tracker).1
        mixer := { f.mixer with tracker := (c.step f.mixer.tracker).2 } } moves
  | handled {r : CallResult} (phase : f.pump = .handling (.finished r)) :
      Step f moves .pump .proceed { f with pump := .waiting } moves
  | rests (signal : f.stop = true) (phase : f.worker = .waiting) :
      Step f moves .worker .stop { f with worker := .ended } moves
  | answers {signal : RefreshSignal} (phase : f.worker = .waiting)
      (rung : f.mixer.signal.answer = some signal) :
      Step f moves .worker .proceed { f with
        worker := .taking
        mixer := { f.mixer with signal } } moves
  | lowers (phase : f.worker = .taking) :
      Step f moves .worker .proceed { f with
        worker := .refreshing (.refresh (f.mixer.signal.lower.1 == .forced))
        mixer := { f.mixer with signal := f.mixer.signal.lower.2 } } moves
  | refreshes {c : Call} (phase : f.worker = .refreshing c) (unfinished : c.isFinished = false) :
      Step f moves .worker .proceed { f with
        worker := .refreshing (c.step f.mixer.tracker).1
        mixer := { f.mixer with tracker := (c.step f.mixer.tracker).2 } } moves
  | refreshed {r : CallResult} (phase : f.worker = .refreshing (.finished r)) :
      Step f moves .worker .proceed { f with worker := .waiting } moves
  | unwatches (signal : f.stop = true) (phase : f.sync.phase = .waiting) :
      Step f moves .sync .stop { f with sync := { f.sync with phase := .ended } } moves
  | adopts (phase : f.sync.phase = .waiting) (news : f.settings.news f.sync.seen = true) :
      Step f moves .sync .proceed { f with
        sync := { phase := .classifying f.settings.value, seen := f.settings.version } } moves
  | concludes (phase : f.sync.phase = .waiting) (news : f.settings.news f.sync.seen = false)
      (closed : f.settings.closed = true) :
      Step f moves .sync .proceed { f with sync := { f.sync with phase := .ended } } moves
  | classifies {s : RoutingSettings} (phase : f.sync.phase = .classifying s) :
      Step f moves .sync .proceed { f with
        sync := { f.sync with phase :=
          match f.mixer.tracker.mode with
          | .eventDriven => .waiting
          | .polling => .raising }
        mixer := { f.mixer with tracker := f.mixer.tracker.classify s.mapping.keys } } moves
  | raises (phase : f.sync.phase = .raising) :
      Step f moves .sync .proceed { f with
        sync := { f.sync with phase := .ringing }
        mixer := { f.mixer with signal := f.mixer.signal.raise .forced } } moves
  | rings (phase : f.sync.phase = .ringing) :
      Step f moves .sync .proceed { f with
        sync := { f.sync with phase := .waiting }
        mixer := { f.mixer with signal := f.mixer.signal.ring } } moves
  | retires (signal : f.stop = true) (phase : f.router = .waiting) :
      Step f moves .router .stop { f with router := .ended } moves.dropReceiver
  | takes {move : Move} {rest : List Move} (phase : f.router = .waiting)
      (items : moves.items = move :: rest) :
      Step f moves .router .proceed { f with router := .routing (.begun move) }
        { moves with items := rest }
  | outlasts (phase : f.router = .waiting) (items : moves.items = [])
      (alone : moves.senderGone = true) :
      Step f moves .router .proceed { f with router := .ended } moves.dropReceiver
  | routes {p : Pass} (phase : f.router = .routing p) (unfinished : p.isFinished = false) :
      Step f moves .router .proceed { f with
        router := .routing (p.step f.settings.value.mapping f.mixer).1
        mixer := (p.step f.settings.value.mapping f.mixer).2 } moves
  | routed {o : RouteOutcome} (phase : f.router = .routing (.finished o)) :
      Step f moves .router .proceed { f with router := .waiting } moves

variable {f f' : Flows α} {moves moves' : Mailbox Move}

theorem step_of_pump {choice : Choice} (h : f.step? moves .pump choice = some (f', moves')) :
    f.Step moves .pump choice f' moves' := by
  cases choice with
  | stop =>
    simp only [step?, Option.ite_none_right_eq_some, Option.map_eq_some_iff] at h
    obtain ⟨hsignal, ⟨pump, mixer⟩, hstop, h⟩ := h
    cases h
    cases hphase : f.pump <;> rw [hphase] at hstop <;> cases hstop
    exact .unsubscribes hsignal hphase
  | proceed =>
    simp only [step?, Option.map_eq_some_iff] at h
    obtain ⟨⟨pump, mixer⟩, hproceed, h⟩ := h
    cases h
    cases hphase : f.pump with
    | waiting =>
      simp only [hphase, EventPump.proceed?] at hproceed
      rcases hnext : AudioSystem.nextEvent f.mixer.tracker.audio with ⟨event | _ | _, audio⟩ <;>
        rw [hnext] at hproceed <;> cases hproceed
      · exact .hears hphase hnext
      · exact .cutOff hphase hnext
    | handling c =>
      rw [hphase] at hproceed
      cases hc : c.isFinished with
      | true =>
        obtain ⟨r, rfl⟩ := Call.eq_finished_of_isFinished hc
        cases hproceed
        exact .handled hphase
      | false =>
        rw [EventPump.proceed?_handling hc] at hproceed
        cases hproceed
        exact .handles hphase hc
    | ended =>
      rw [hphase] at hproceed
      cases hproceed

theorem step_of_worker {choice : Choice} (h : f.step? moves .worker choice = some (f', moves')) :
    f.Step moves .worker choice f' moves' := by
  cases choice with
  | stop =>
    simp only [step?, Option.ite_none_right_eq_some, Option.map_eq_some_iff] at h
    obtain ⟨hsignal, worker, hstop, h⟩ := h
    cases h
    cases hphase : f.worker <;> rw [hphase] at hstop <;> cases hstop
    exact .rests hsignal hphase
  | proceed =>
    simp only [step?, Option.map_eq_some_iff] at h
    obtain ⟨⟨worker, mixer⟩, hproceed, h⟩ := h
    cases h
    have hproceeds := RefreshWorker.proceeds_of_proceed? hproceed
    generalize hphase : f.worker = w at hproceeds
    cases hproceeds with
    | answers hrung => exact .answers hphase hrung
    | lowers => exact .lowers hphase
    | refreshes hc => exact .refreshes hphase hc
    | refreshed r => exact .refreshed hphase

theorem step_of_sync {choice : Choice} (h : f.step? moves .sync choice = some (f', moves')) :
    f.Step moves .sync choice f' moves' := by
  cases choice with
  | stop =>
    simp only [step?, Option.ite_none_right_eq_some, Option.map_eq_some_iff] at h
    obtain ⟨hsignal, sync, hstop, h⟩ := h
    cases h
    cases hphase : f.sync.phase <;> simp only [SettingsSync.stop?, hphase] at hstop <;> cases hstop
    exact .unwatches hsignal hphase
  | proceed =>
    simp only [step?, Option.map_eq_some_iff] at h
    obtain ⟨⟨sync, mixer⟩, hproceed, h⟩ := h
    cases h
    cases hphase : f.sync.phase with
    | waiting =>
      simp only [SettingsSync.proceed?, hphase] at hproceed
      split at hproceed
      · next hnews =>
        cases hproceed
        exact .adopts hphase hnews
      next hnews =>
      split at hproceed
      · next hclosed =>
        cases hproceed
        exact .concludes hphase (Bool.eq_false_iff.mpr hnews) hclosed
      · cases hproceed
    | classifying s =>
      have hstep : f.Step moves .sync .proceed _ moves := .classifies hphase
      cases hmode : f.mixer.tracker.mode <;>
        simp only [SettingsSync.proceed?, hphase, Tracker.classify, hmode] at hproceed hstep <;>
        cases hproceed <;> exact hstep
    | raising =>
      simp only [SettingsSync.proceed?, hphase] at hproceed
      cases hproceed
      exact .raises hphase
    | ringing =>
      simp only [SettingsSync.proceed?, hphase] at hproceed
      cases hproceed
      exact .rings hphase
    | ended =>
      simp only [SettingsSync.proceed?, hphase] at hproceed
      cases hproceed

theorem step_of_router {choice : Choice} (h : f.step? moves .router choice = some (f', moves')) :
    f.Step moves .router choice f' moves' := by
  cases choice with
  | stop =>
    simp only [step?, Option.ite_none_right_eq_some, Option.map_eq_some_iff] at h
    obtain ⟨hsignal, ⟨router, box⟩, hstop, h⟩ := h
    cases h
    cases hphase : f.router <;> rw [hphase] at hstop <;> cases hstop
    exact .retires hsignal hphase
  | proceed =>
    simp only [step?, Option.map_eq_some_iff] at h
    obtain ⟨⟨router, box, mixer⟩, hproceed, h⟩ := h
    cases h
    cases hphase : f.router with
    | waiting =>
      simp only [hphase, Router.proceed?] at hproceed
      cases hitems : moves.items with
      | nil =>
        cases halone : moves.senderGone <;>
          simp only [Mailbox.receive, hitems, halone] at hproceed <;> cases hproceed
        exact .outlasts hphase hitems halone
      | cons move rest =>
        simp only [Mailbox.receive, hitems] at hproceed
        cases hproceed
        exact .takes hphase hitems
    | routing p =>
      rw [hphase] at hproceed
      cases hp : p.isFinished with
      | true =>
        obtain ⟨o, rfl⟩ := Pass.eq_finished_of_isFinished hp
        cases hproceed
        exact .routed hphase
      | false =>
        rw [Router.proceed?_routing hp] at hproceed
        cases hproceed
        exact .routes hphase hp
    | ended =>
      rw [hphase] at hproceed
      cases hproceed

theorem step_of_step? {name : FlowName} {choice : Choice}
    (h : f.step? moves name choice = some (f', moves')) : f.Step moves name choice f' moves' := by
  cases name with
  | pump => exact step_of_pump h
  | worker => exact step_of_worker h
  | sync => exact step_of_sync h
  | router => exact step_of_router h

variable {name : FlowName} {choice : Choice}

theorem Step.settings (h : f.Step moves name choice f' moves') : f'.settings = f.settings := by
  cases h <;> rfl

theorem Step.stop (h : f.Step moves name choice f' moves') : f'.stop = f.stop := by
  cases h <;> rfl

end Flows

/-! ## Single steps of the engine -/

namespace Engine

inductive Step (e : Engine α) : EngineChoice → Engine α → Prop where
  | flow {name : FlowName} {choice : Choice} {flows : Flows α} {moves : Mailbox Move}
      (step : e.flows.Step e.moves name choice flows moves) :
      Step e (.flow name choice) { e with
        flows
        link := { e.link with subscribers := e.link.subscribers.set 0 moves } }
  | fanOutEnds (signal : e.flows.stop = true) (phase : e.fanOut.phase = .waiting) :
      Step e (.fanOut .stop) { e with
        fanOut := { e.fanOut with phase := .ended }
        flows := { e.flows with settings := e.flows.settings.close }
        link := { e.link with settings := e.link.settings.close } }
  | takes (phase : e.fanOut.phase = .waiting) (news : e.settings.news e.fanOut.seen = true) :
      Step e (.fanOut .proceed) { e with
        fanOut := { phase := .routing e.settings.value, seen := e.settings.version } }
  | sendsRouting {s : Settings} (phase : e.fanOut.phase = .routing s) :
      Step e (.fanOut .proceed) { e with
        fanOut := { e.fanOut with phase := .linking s }
        flows := { e.flows with settings := e.flows.settings.send s.routing } }
  | sendsLink {s : Settings} (phase : e.fanOut.phase = .linking s) :
      Step e (.fanOut .proceed) { e with
        fanOut := { e.fanOut with phase := .waiting }
        link := { e.link with settings := e.link.settings.send (s.linkAt e.port) } }
  | link {choice : LinkChoice} {l : Link} (step : e.link.Step choice l) :
      Step e (.link choice) { e with link := l }
  | watcherEnds {w w' : Watcher} (signal : e.flows.stop = true) (watcher : e.watcher = some w)
      (step : w.stop? = some w') : Step e (.watcher .stop) { e with watcher := some w' }
  | watches {w w' : Watcher} {settings : Watched Settings} (watcher : e.watcher = some w)
      (step : w.proceed? e.link.now e.settings = some (w', settings)) :
      Step e (.watcher .proceed) { e with watcher := some w', settings }
  | closes (phase : e.phase = .stopping) (ended : e.allEnded = true) :
      Step e .close { e with phase := .closing .shutdown }
  | givesUp {c : Call} (phase : e.phase = .closing c) (unfinished : c.isFinished = false) :
      Step e .close { e with
        phase := .closing (c.step e.flows.mixer.tracker).1
        flows := { e.flows with mixer := { e.flows.mixer with
          tracker := (c.step e.flows.mixer.tracker).2 } } }

variable {e e' : Engine α}

theorem close?_closing {c : Call} (hphase : e.phase = .closing c) (hc : c.isFinished = false) :
    e.close? = some { e with
      phase := .closing (c.step e.flows.mixer.tracker).1
      flows := { e.flows with mixer := { e.flows.mixer with
        tracker := (c.step e.flows.mixer.tracker).2 } } } := by
  simp only [close?, hphase]
  cases c with
  | finished r => cases hc
  | _ => rfl

theorem step_of_fanOut {choice : Choice} (h : e.step? (.fanOut choice) = some e') :
    e.Step (.fanOut choice) e' := by
  cases choice with
  | stop =>
    simp only [step?, stopFanOut?, Option.ite_none_right_eq_some] at h
    obtain ⟨hsignal, h⟩ := h
    cases hphase : e.fanOut.phase <;> rw [hphase] at h <;> cases h
    exact .fanOutEnds hsignal hphase
  | proceed =>
    simp only [step?, proceedFanOut?] at h
    cases hphase : e.fanOut.phase with
    | waiting =>
      simp only [hphase, Option.ite_none_right_eq_some, Option.some.injEq] at h
      obtain ⟨hnews, rfl⟩ := h
      exact .takes hphase hnews
    | routing s =>
      rw [hphase] at h
      cases h
      exact .sendsRouting hphase
    | linking s =>
      rw [hphase] at h
      cases h
      exact .sendsLink hphase
    | ended =>
      rw [hphase] at h
      cases h

theorem step_of_close (h : e.close? = some e') : e.Step .close e' := by
  cases hphase : e.phase with
  | running => simp [close?, hphase] at h
  | stopping =>
    simp only [close?, hphase, Option.ite_none_right_eq_some, Option.some.injEq] at h
    obtain ⟨hended, rfl⟩ := h
    exact .closes hphase hended
  | closing c =>
    cases hc : c.isFinished with
    | true =>
      obtain ⟨r, rfl⟩ := Call.eq_finished_of_isFinished hc
      simp [close?, hphase] at h
    | false =>
      rw [close?_closing hphase hc] at h
      cases h
      exact .givesUp hphase hc

theorem step_of_step? {choice : EngineChoice} (h : e.step? choice = some e') :
    e.Step choice e' := by
  cases choice with
  | flow name choice =>
    obtain ⟨⟨flows, moves⟩, hflow, rfl⟩ := Option.map_eq_some_iff.mp h
    exact .flow (Flows.step_of_step? hflow)
  | fanOut choice => exact step_of_fanOut h
  | link choice =>
    obtain ⟨l, hlink, rfl⟩ := Option.map_eq_some_iff.mp h
    exact .link (Link.step_of_step? hlink)
  | watcher choice =>
    cases choice with
    | stop =>
      simp only [step?, Option.ite_none_right_eq_some, Option.map_eq_some_iff,
        Option.bind_eq_some_iff] at h
      obtain ⟨hsignal, w', ⟨w, hw, hstop⟩, rfl⟩ := h
      exact .watcherEnds hsignal hw hstop
    | proceed =>
      simp only [step?, Option.map_eq_some_iff, Option.bind_eq_some_iff] at h
      obtain ⟨⟨w', settings⟩, ⟨w, hw, hproceed⟩, rfl⟩ := h
      exact .watches hw hproceed
  | close => exact step_of_close h

end Engine

/-! ## Start -/

omit [AudioSystem α] in
theorem eq_ok_of_mem_toOption {ε : Type} {r : Except ε α} {a : α} (h : a ∈ r.toOption) :
    r = .ok a := by
  cases r with
  | error cause => cases h
  | ok b =>
    cases h
    rfl

namespace Engine

/-- The tracker that an engine starts with. -/
def firstTracker (settings : Settings) (audio : α) (options : EngineOptions)
    (mode : TrackingMode) : Tracker α :=
  .new (AudioSystem.subscribe audio).2 mode settings.mapping.keys options.minRefreshInterval

/-- A started engine has just subscribed to the changes, or has just asked for its sessions. -/
theorem start_cases {settings : Settings} {audio : α} {focus : Focus} {board : Board}
    {options : EngineOptions} {e : Engine α}
    (h : Engine.start settings audio focus board options = .ok e) :
    ∃ tracker pump, e =
      { flows :=
          { mixer := { tracker, focus }, settings := { value := settings.routing }, pump }
        link := .new (settings.linkAt options.port) board options.timing 1
        settings := { value := settings }
        port := options.port } ∧
      (((AudioSystem.subscribe audio).1 = true ∧ pump = .waiting) ∧
          tracker = firstTracker settings audio options .eventDriven ∨
        ((AudioSystem.subscribe audio).1 = false ∧ pump = .ended) ∧
          ∃ outcome, (firstTracker settings audio options .polling).refresh true =
            (.ok outcome, tracker)) := by
  simp only [Engine.start] at h
  cases hreported : (AudioSystem.subscribe audio).1 with
  | true =>
    simp only [hreported, ↓reduceIte, Except.ok.injEq] at h
    exact ⟨_, _, h.symm, .inl ⟨⟨rfl, rfl⟩, rfl⟩⟩
  | false =>
    simp only [hreported, Bool.false_eq_true, ↓reduceIte] at h
    split at h
    · cases h
    · next outcome tracker hrefresh =>
      simp only [Except.ok.injEq] at h
      exact ⟨_, _, h.symm, .inr ⟨⟨rfl, rfl⟩, outcome, hrefresh⟩⟩

end Engine

/-! ## Everything that can happen -/

/-- What can happen next. -/
inductive Occurrence (α : Type) where
  | step (choice : EngineChoice)
  | apply (settings : Settings)
  | shutdown
  | board (turn : BoardTurn)
  /-- The clock of the link and of the watcher. -/
  | clock (now : Nat)
  /-- The audio system, the windows, and the clock of the mixer. -/
  | world (audio : α) (focus : Focus) (now : Nat)
  /-- A file beside the settings file, or the settings file itself, is written. -/
  | write (name : String) (content : FileContent)
  | remove

namespace Engine

variable {e e' : Engine α}

def happen? (e : Engine α) : Occurrence α → Option (Engine α)
  | .step choice => e.step? choice
  | .apply settings => some (e.apply settings)
  | .shutdown =>
    match e.phase with
    | .running => some e.shutdown
    | .stopping | .closing _ => none
  | .board turn => some { e with link := { e.link with board := e.link.board.turn turn } }
  | .clock now => some { e with link := { e.link with now } }
  | .world audio focus now =>
    let tracker := { e.flows.mixer.tracker with audio, now }
    some { e with flows := { e.flows with mixer := { e.flows.mixer with tracker, focus } } }
  | .write name content => some { e with watcher := e.watcher.map fun w => w.write name content }
  | .remove => some { e with watcher := e.watcher.map Watcher.remove }

theorem shutdown_of_happen? (h : e.happen? .shutdown = some e') :
    e.phase = .running ∧ e' = e.shutdown := by
  simp only [happen?] at h
  split at h
  · next hphase =>
    cases h
    exact ⟨hphase, rfl⟩
  · cases h
  · cases h

omit [AudioSystem α] in
/-- A flow that takes no move leaves the mailbox as it is. -/
@[simp] theorem set_moves (e : Engine α) :
    e.link.subscribers.set 0 e.moves = e.link.subscribers := by
  unfold moves
  cases e.link.subscribers <;> rfl

end Engine

/-! ## Parts that have ended -/

section Ended

omit [AudioSystem α]

theorem EventPump.hasEnded_iff {f : EventPump} : f.hasEnded = true ↔ f = .ended := by
  cases f <;> simp [hasEnded]

theorem RefreshWorker.hasEnded_iff {f : RefreshWorker} : f.hasEnded = true ↔ f = .ended := by
  cases f <;> simp [hasEnded]

theorem SettingsSync.hasEnded_iff {f : SettingsSync} : f.hasEnded = true ↔ f.phase = .ended := by
  cases hphase : f.phase <;> simp [hasEnded, hphase]

theorem Router.hasEnded_iff {f : Router} : f.hasEnded = true ↔ f = .ended := by
  cases f <;> simp [hasEnded]

theorem FanOut.hasEnded_iff {f : FanOut} : f.hasEnded = true ↔ f.phase = .ended := by
  cases hphase : f.phase <;> simp [hasEnded, hphase]

theorem Link.hasEnded_iff {l : Link} : l.hasEnded = true ↔ l.phase = .ended := by
  simp [hasEnded]

theorem Watcher.phase_write (w : Watcher) (name : String) (content : FileContent) :
    (w.write name content).phase = w.phase := by
  unfold write
  split <;> rfl

theorem Watcher.hasEnded_iff {w : Watcher} : w.hasEnded = true ↔ w.phase = .ended := by
  cases hphase : w.phase <;> simp [hasEnded, hphase]

structure Engine.Ended (e : Engine α) : Prop where
  pump : e.flows.pump = .ended
  worker : e.flows.worker = .ended
  sync : e.flows.sync.phase = .ended
  router : e.flows.router = .ended
  fanOut : e.fanOut.phase = .ended
  link : e.link.phase = .ended
  watcher : ∀ w ∈ e.watcher, w.phase = .ended

theorem Engine.allEnded_iff {e : Engine α} : e.allEnded = true ↔ e.Ended := by
  simp only [allEnded, Bool.and_eq_true, EventPump.hasEnded_iff, RefreshWorker.hasEnded_iff,
    SettingsSync.hasEnded_iff, Router.hasEnded_iff, FanOut.hasEnded_iff, Link.hasEnded_iff]
  constructor
  · rintro ⟨⟨⟨⟨⟨⟨hpump, hworker⟩, hsync⟩, hrouter⟩, hfanOut⟩, hlink⟩, hwatcher⟩
    refine ⟨hpump, hworker, hsync, hrouter, hfanOut, hlink, fun w hw => ?_⟩
    rw [Option.mem_def.mp hw] at hwatcher
    exact Watcher.hasEnded_iff.mp hwatcher
  · intro h
    refine ⟨⟨⟨⟨⟨⟨h.pump, h.worker⟩, h.sync⟩, h.router⟩, h.fanOut⟩, h.link⟩, ?_⟩
    cases hw : e.watcher with
    | none => rfl
    | some w => exact Watcher.hasEnded_iff.mpr (h.watcher w hw)

end Ended

/-! ## The tracker -/

theorem Pass.tracker_visit (m : Mixer α) (move : Move) (o : RouteOutcome) (v : Visit) :
    (visit m move o v).2.2.tracker =
      { m.tracker with audio := (visit m move o v).2.2.tracker.audio } := by
  cases v with
  | target text =>
    have htracker : (m.resolve text).2.tracker = m.tracker := m.tracker_resolve text
    simp only [visit, htracker]
  | key k => cases hlookup : m.tracker.lookup k <;> simp only [visit, hlookup]
  | session s => rfl
  | adjust s => rfl

/-- A pass changes the audio system, and nothing else that the tracker has. -/
theorem Pass.tracker_step (p : Pass) (mapping : SliderMapping) (m : Mixer α) :
    (p.step mapping m).2.tracker =
      { m.tracker with audio := (p.step mapping m).2.tracker.audio } := by
  cases p with
  | begun move => cases htargets : mapping.get? move.slider <;> simp only [step, htargets]
  | visiting move visits o =>
    cases visits with
    | nil => cases hwanted : o.wanted m.tracker.mode <;> simp only [step, hwanted]
    | cons v rest => exact tracker_visit m move o v
  | raising kind o => rfl
  | ringing o => rfl
  | finished o => rfl

section Callers

omit [AudioSystem α]

def EventPump.callers : EventPump → List Call
  | handling c => [c]
  | waiting | ended => []

def RefreshWorker.callers : RefreshWorker → List Call
  | refreshing c => [c]
  | waiting | taking | ended => []

def EnginePhase.callers : EnginePhase → List Call
  | closing c => [c]
  | running | stopping => []

def Flows.callers (f : Flows α) : List Call := f.pump.callers ++ f.worker.callers

/-- The operations on the tracker that are under way. -/
def Engine.callers (e : Engine α) : List Call := e.flows.callers ++ e.phase.callers

theorem Engine.callers_shutdown {e : Engine α} (h : e.phase = .running) :
    e.shutdown.callers = e.callers := by
  unfold callers
  rw [h]
  rfl

end Callers

/-- A started engine has no operation under way. -/
theorem Engine.callers_start {settings : Settings} {audio : α} {focus : Focus} {board : Board}
    {options : EngineOptions} {e : Engine α}
    (hstart : Engine.start settings audio focus board options = .ok e) (watcher : Option Watcher) :
    callers { e with watcher } = [] := by
  obtain ⟨tracker, pump, rfl, ⟨⟨-, rfl⟩, -⟩ | ⟨⟨-, rfl⟩, -⟩⟩ := start_cases hstart <;> rfl

/-- What holds of each new caller, and is kept by the sections, holds of every caller. -/
theorem Flows.Step.callers {f f' : Flows α} {moves moves' : Mailbox Move} {name : FlowName}
    {choice : Choice} {P : Call → Prop} (goesOn : ∀ c, P c → P (c.step f.mixer.tracker).1)
    (follows : ∀ event audio,
      AudioSystem.nextEvent f.mixer.tracker.audio = (.item event, audio) → P (.handle event))
    (refreshes : ∀ force, P (.refresh force)) (h : f.Step moves name choice f' moves')
    (hall : ∀ c ∈ f.callers, P c) : ∀ c ∈ f'.callers, P c := by
  have hpump (c : Call) (hc : c ∈ f.pump.callers) : P c := hall c (List.mem_append_left _ hc)
  have hworker (c : Call) (hc : c ∈ f.worker.callers) : P c := hall c (List.mem_append_right _ hc)
  intro c hc
  rcases List.mem_append.mp hc with hc | hc
  · cases h with
    | hears _ hnext => exact List.mem_singleton.mp hc ▸ follows _ _ hnext
    | handles hcaller _ =>
      exact List.mem_singleton.mp hc ▸ goesOn _ (hpump _ (by simp [EventPump.callers, hcaller]))
    | unsubscribes | cutOff | handled => cases hc
    | _ => exact hpump c hc
  · cases h with
    | lowers _ => exact List.mem_singleton.mp hc ▸ refreshes _
    | refreshes hcaller _ =>
      exact List.mem_singleton.mp hc ▸
        goesOn _ (hworker _ (by simp [RefreshWorker.callers, hcaller]))
    | rests | answers | refreshed => cases hc
    | _ => exact hworker c hc

namespace Engine

variable {e e' : Engine α} {choice : EngineChoice}

/-- The tracker changes by a section of a caller and by the sync; else only the audio system
    does. -/
theorem Step.tracker (h : e.Step choice e') :
    e'.flows.mixer.tracker =
      { e.flows.mixer.tracker with audio := e'.flows.mixer.tracker.audio } ∨
    (∃ c ∈ e.callers, e'.flows.mixer.tracker = (c.step e.flows.mixer.tracker).2) ∨
    ∃ s, choice = .flow .sync .proceed ∧ e.flows.sync.phase = .classifying s ∧
      e'.flows.mixer.tracker = e.flows.mixer.tracker.classify s.mapping.keys := by
  cases h with
  | flow step =>
    cases step with
    | handles hphase _ =>
      exact .inr (.inl ⟨_, by simp [callers, Flows.callers, EventPump.callers, hphase], rfl⟩)
    | refreshes hphase _ =>
      exact .inr (.inl ⟨_, by simp [callers, Flows.callers, RefreshWorker.callers, hphase], rfl⟩)
    | classifies hphase => exact .inr (.inr ⟨_, rfl, hphase, rfl⟩)
    | @routes p hphase _ => exact .inl (p.tracker_step _ _)
    | _ => exact .inl rfl
  | givesUp hphase _ =>
    exact .inr (.inl ⟨_, by simp [callers, EnginePhase.callers, hphase], rfl⟩)
  | _ => exact .inl rfl

/-- The same for the callers of the engine, of which one gives up the audio system. -/
theorem Step.callers {P : Call → Prop} (goesOn : ∀ c, P c → P (c.step e.flows.mixer.tracker).1)
    (follows : ∀ event audio,
      AudioSystem.nextEvent e.flows.mixer.tracker.audio = (.item event, audio) →
        P (.handle event))
    (refreshes : ∀ force, P (.refresh force)) (shutdown : P .shutdown) (h : e.Step choice e')
    (hall : ∀ c ∈ e.callers, P c) : ∀ c ∈ e'.callers, P c := by
  have hflows (c : Call) (hc : c ∈ e.flows.callers) : P c := hall c (List.mem_append_left _ hc)
  have hphase (c : Call) (hc : c ∈ e.phase.callers) : P c := hall c (List.mem_append_right _ hc)
  intro c hc
  rcases List.mem_append.mp hc with hc | hc
  · cases h with
    | flow step => exact step.callers goesOn follows refreshes hflows c hc
    | _ => exact hflows c hc
  · cases h with
    | closes _ _ => exact List.mem_singleton.mp hc ▸ shutdown
    | givesUp hcaller _ =>
      exact List.mem_singleton.mp hc ▸
        goesOn _ (hphase _ (by simp [EnginePhase.callers, hcaller]))
    | _ => exact hphase c hc

end Engine

end SliderMixer
