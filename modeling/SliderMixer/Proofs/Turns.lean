import SliderMixer.Proofs.Copies
import SliderMixer.Proofs.EngineSteps
import SliderMixer.Proofs.HandleBalance

/-! # Turns of the engine

Where sessions have to be asked for, a refresh gives back the handles it replaces, and the
shutdown gives back the rest.  All the while a pass may call handles it has copied.

* `Engine.turn?` takes the steps of all parts in any order, and lets anything happen around
  the mixer in between.
* `Engine.Lawful`: the turn calls no handle that was given back.
* `Engine.Overtakes`: a refresh gives back a handle that a pass has before it.
* `Engine.turned`: the handles stay balanced, and a pass gets handles only from the directory.
-/

namespace SliderMixer

variable {α : Type}

/-! ## On the way back -/

namespace RefreshWorker

def loose : RefreshWorker → List Session
  | refreshing c => c.loose
  | waiting | taking | ended => []

def givesBack : RefreshWorker → List Session
  | refreshing c => c.givesBack
  | waiting | taking | ended => []

def lists : RefreshWorker → Bool
  | refreshing c => c.lists
  | waiting | taking | ended => true

end RefreshWorker

namespace EnginePhase

def loose : EnginePhase → List Session
  | closing c => c.loose
  | running | stopping => []

def lists : EnginePhase → Bool
  | closing c => c.lists
  | running | stopping => true

end EnginePhase

/-! ## Turns -/

/-- What can happen next. -/
inductive EngineTurn (α : Type) where
  | step (choice : EngineChoice)
  | apply (settings : Settings)
  | shutdown
  /-- All that is around the mixer may change at any time. -/
  | outside (audio : α) (focus : Focus) (link : Link) (watcher : Option Watcher) (now : Nat)

/-- The router goes on. -/
def EngineTurn.route : EngineTurn α := step (.flow .router .proceed)

namespace Engine

def tracker (e : Engine (Audited α)) : Tracker (Audited α) := e.flows.mixer.tracker

def isRunning (e : Engine α) : Bool :=
  match e.phase with
  | .running => true
  | .stopping | .closing _ => false

variable [AudioSystem α]

def turn? (e : Engine (Audited α)) : EngineTurn α → Option (Engine (Audited α))
  | .step choice => e.step? choice
  | .apply settings => some (e.apply settings)
  | .shutdown => if e.isRunning then some e.shutdown else none
  | .outside audio focus link watcher now =>
    let tracker := { e.tracker with audio := { e.tracker.audio with audio }, now }
    let mixer := { e.flows.mixer with tracker, focus }
    some { e with flows := { e.flows with mixer }, link, watcher }

omit [AudioSystem α]

/-- The handles whose volume the turn asks for, or sets. -/
def calls (e : Engine (Audited α)) : EngineTurn α → List Session
  | .step (.flow .router .proceed) => e.flows.router.calls
  | _ => []

/-- The handle that the turn makes a refresh give back. -/
def returns (e : Engine (Audited α)) : EngineTurn α → List Session
  | .step (.flow .worker .proceed) => e.flows.worker.givesBack
  | _ => []

def Lawful (e : Engine (Audited α)) (turn : EngineTurn α) : Prop :=
  ∀ s ∈ e.calls turn, e.tracker.audio.timesGivenBack s = 0

/-- A refresh gives back a handle that a pass has before it. -/
def Overtakes (e : Engine (Audited α)) (turn : EngineTurn α) : Prop :=
  ∃ s ∈ e.returns turn, ∃ copy ∈ e.flows.router.copies, s.same copy = true

instance (e : Engine (Audited α)) (turn : EngineTurn α) : Decidable (e.Lawful turn) :=
  inferInstanceAs (Decidable (∀ s ∈ e.calls turn, e.tracker.audio.timesGivenBack s = 0))

instance (e : Engine (Audited α)) (turn : EngineTurn α) : Decidable (e.Overtakes turn) :=
  inferInstanceAs (Decidable
    (∃ s ∈ e.returns turn, ∃ copy ∈ e.flows.router.copies, s.same copy = true))

end Engine

theorem Balanced.keep {m m' : Mixer (Audited α)} {loose : List Session} (hkeeps : m.Keeps m')
    (h : Balanced m.tracker.audio m.tracker.directory loose) :
    Balanced m'.tracker.audio m'.tracker.directory loose := by
  refine h.frame hkeeps.obtained hkeeps.givenBack ?_ ?_ <;> rw [hkeeps.directory]
  exact h.lists

variable [AudioSystem α]

/-! ## What a turn does -/

namespace Engine

/-- The mixer asks for its sessions, and its handles are balanced.  When they are given up,
    no pass is under way. -/
structure Sound (e : Engine (Audited α)) : Prop where
  mode : e.tracker.mode = .polling
  pump : e.flows.pump = .ended
  worker : e.flows.worker.lists = true
  phase : e.phase.lists = true
  balanced : Balanced e.tracker.audio e.tracker.directory (e.flows.worker.loose ++ e.phase.loose)
  router : ∀ c, e.phase = .closing c → e.flows.router = .ended

/-- What a turn does to the handles. -/
structure Turned (e : Engine (Audited α)) (turn : EngineTurn α) (e' : Engine (Audited α)) :
    Prop where
  sound : e'.Sound
  copies : ∀ s ∈ e'.flows.router.copies, s ∈ e.flows.router.copies ∨
    s ∈ e.tracker.directory.held ∧ e.returns turn = []
  called : ∀ s ∈ e.flows.router.copies, s ∈ e.calls turn ∨ s ∈ e'.flows.router.copies
  returned : e'.flows.router.copies = [] ∨
    e'.tracker.audio.givenBack = e.tracker.audio.givenBack ++ e.returns turn
  grows : ∃ back, e'.tracker.audio.givenBack = e.tracker.audio.givenBack ++ back
  sets : Audited.SetsOnly (e.calls turn) e.tracker.audio e'.tracker.audio

variable {e e' : Engine (Audited α)} {turn : EngineTurn α}

omit [AudioSystem α] in
/-- The passes have before them what they had, so that no volume is set, and no handle is given
    back but by a refresh. -/
theorem Turned.of_copies_eq (sound : e'.Sound)
    (copies : e'.flows.router.copies = e.flows.router.copies)
    (returned : e'.tracker.audio.givenBack = e.tracker.audio.givenBack ++ e.returns turn)
    (attempts : e'.tracker.audio.attempts = e.tracker.audio.attempts) : Turned e turn e' where
  sound := sound
  copies := fun _ hs => .inl (copies ▸ hs)
  called := fun _ hs => .inr (copies ▸ hs)
  returned := .inr returned
  grows := ⟨_, returned⟩
  sets := .of_attempts_eq attempts

theorem turned_worker (h : e.Sound) (hfresh : FreshHandles e.tracker.audio) {choice : Choice}
    {flows : Flows (Audited α)} {moves : Mailbox Move}
    (hstep : e.flows.Step e.moves .worker choice flows moves) (link : Link) :
    Turned e (.step (.flow .worker choice)) { e with flows, link } := by
  have hlists := h.worker
  have hbalanced := h.balanced
  cases hstep with
  | rests _ hphase =>
    rw [hphase] at hbalanced
    exact .of_copies_eq { h with worker := rfl, balanced := hbalanced } rfl
      (List.append_nil _).symm rfl
  | answers hphase _ | lowers hphase | refreshed hphase =>
    rw [hphase] at hbalanced
    refine .of_copies_eq { h with worker := rfl, balanced := hbalanced } rfl ?_ rfl
    simp [returns, hphase, RefreshWorker.givesBack, Call.givesBack, tracker]
  | @refreshes c hphase _ =>
    rw [hphase] at hlists hbalanced
    obtain ⟨hmode, hbalanced⟩ := Balanced.step hbalanced h.mode hlists fun _ => hfresh
    obtain ⟨hback, hattempts⟩ := c.logs_step e.tracker
    refine .of_copies_eq { h with
      mode := hmode, worker := Call.lists_step hlists _, balanced := hbalanced } rfl ?_ hattempts
    rw [returns, hphase]
    exact hback

theorem turned_sync (h : e.Sound) {choice : Choice} {flows : Flows (Audited α)}
    {moves : Mailbox Move} (hstep : e.flows.Step e.moves .sync choice flows moves) (link : Link) :
    Turned e (.step (.flow .sync choice)) { e with flows, link } := by
  have hnone : e.tracker.audio.givenBack = e.tracker.audio.givenBack ++ [] :=
    (List.append_nil _).symm
  cases hstep with
  | @classifies s hphase =>
    obtain ⟨f, hf⟩ := h.balanced.lists
    have hclassified := hf.classify s.mapping.keys
    exact .of_copies_eq { h with balanced := h.balanced.frame rfl rfl rfl ⟨_, hclassified⟩ } rfl hnone
      rfl
  | _ => exact .of_copies_eq { h with } rfl hnone rfl

theorem turned_router (h : e.Sound) {choice : Choice} {flows : Flows (Audited α)}
    {moves : Mailbox Move} (hstep : e.flows.Step e.moves .router choice flows moves) (link : Link) :
    Turned e (.step (.flow .router choice)) { e with flows, link } := by
  have hnone : e.tracker.audio.givenBack = e.tracker.audio.givenBack ++ [] :=
    (List.append_nil _).symm
  -- when the handles are given up, the router has ended
  have hgoes {c : Call} (hclosing : e.phase = .closing c) (hrouter : e.flows.router ≠ .ended) :
      flows.router = .ended := absurd (h.router c hclosing) hrouter
  cases hstep with
  | retires _ hphase | outlasts hphase _ _ =>
    exact .of_copies_eq { h with router := fun _ _ => rfl } (by rw [hphase]; rfl) hnone rfl
  | takes hphase _ | routed hphase =>
    exact .of_copies_eq { h with router := fun _ hc => hgoes hc (by simp [hphase]) }
      (by rw [hphase]; rfl) hnone rfl
  | @routes p hphase _ =>
    have hkeeps := p.keeps_step e.flows.settings.value.mapping e.flows.mixer
    have hback := hkeeps.givenBack.trans hnone
    refine ⟨{ h with
        mode := hkeeps.mode.trans h.mode, balanced := h.balanced.keep hkeeps
        router := fun _ hc => hgoes hc (by simp [hphase]) },
      fun s hs => ?_, fun s hs => ?_, .inr hback, ⟨_, hback⟩, ?_⟩
    · rw [hphase]
      exact (Pass.copies_step hs).imp_right fun hheld => ⟨hheld, rfl⟩
    · rw [hphase] at hs
      rw [calls, hphase]
      exact Pass.calls_or_copies hs _ _
    · rw [calls, hphase]
      exact p.setsOnly_step _ _

theorem turned_route (h : e.Sound) (hturn : e.turn? .route = some e') : Turned e .route e' := by
  have hstep : e.Step (.flow .router .proceed) e' := step_of_step? hturn
  cases hstep with
  | flow step => exact turned_router h step _

/-! ## Other parts -/

theorem turned_closing (h : e.Sound) (hfresh : FreshHandles e.tracker.audio) {c : Call}
    (hphase : e.phase = .closing c) :
    Turned e (.step .close) { e with
      phase := .closing (c.step e.tracker).1
      flows := { e.flows with
        mixer := { e.flows.mixer with tracker := (c.step e.tracker).2 } } } := by
  have hrouter := h.router c hphase
  have hlists := h.phase
  have hbalanced := h.balanced
  rw [hphase] at hlists hbalanced
  obtain ⟨hmode, hbalanced⟩ :=
    Balanced.step (hbalanced.perm List.perm_append_comm) h.mode hlists fun _ => hfresh
  obtain ⟨hback, hattempts⟩ := c.logs_step e.tracker
  have hnone : e.flows.router.copies = [] := by rw [hrouter]; rfl
  exact ⟨{ h with
      mode := hmode
      phase := Call.lists_step hlists _
      balanced := hbalanced.perm List.perm_append_comm
      router := fun _ _ => hrouter },
    fun s hs => .inl hs, fun s hs => .inr hs, .inl hnone, ⟨_, hback⟩, .of_attempts_eq hattempts⟩

theorem turned_step (h : e.Sound) (hfresh : FreshHandles e.tracker.audio) {choice : EngineChoice}
    (hstep : e.Step choice e') : Turned e (.step choice) e' := by
  have hnone : e.tracker.audio.givenBack = e.tracker.audio.givenBack ++ [] :=
    (List.append_nil _).symm
  cases hstep with
  | @flow name choice flows moves step =>
    cases name with
    | pump =>
      -- the pump has ended
      cases step with
      | unsubscribes _ hphase | hears hphase _ | cutOff hphase _ | handles hphase _
      | handled hphase => simp [h.pump] at hphase
    | worker => exact turned_worker h hfresh step _
    | sync => exact turned_sync h step _
    | router => exact turned_router h step _
  | closes hphase hended =>
    have hbalanced := h.balanced
    rw [hphase] at hbalanced
    have hrouter : e.flows.router = .ended := (allEnded_iff.mp hended).router
    exact .of_copies_eq
      { h with phase := rfl, balanced := hbalanced, router := fun _ _ => hrouter } rfl hnone rfl
  | givesUp hphase _ => exact turned_closing h hfresh hphase
  | _ => exact .of_copies_eq { h with } rfl hnone rfl

theorem turned (h : e.Sound) (hfresh : FreshHandles e.tracker.audio)
    (hturn : e.turn? turn = some e') : Turned e turn e' := by
  have hnone : e.tracker.audio.givenBack = e.tracker.audio.givenBack ++ [] :=
    (List.append_nil _).symm
  cases turn with
  | step choice => exact turned_step h hfresh (step_of_step? hturn)
  | apply settings =>
    cases hturn
    exact .of_copies_eq { h with } rfl hnone rfl
  | shutdown =>
    simp only [turn?, Option.ite_none_right_eq_some] at hturn
    obtain ⟨hrunning, hturn⟩ := hturn
    cases hturn
    have hphase : e.phase = .running := by
      cases hphase : e.phase with
      | running => rfl
      | _ => simp [isRunning, hphase] at hrunning
    have hbalanced := h.balanced
    rw [hphase] at hbalanced
    exact .of_copies_eq
      { h with phase := rfl, balanced := hbalanced, router := fun c hc => by cases hc } rfl hnone rfl
  | outside audio focus link watcher now =>
    cases hturn
    have hbalanced := h.balanced.frame (b := { e.tracker.audio with audio }) rfl rfl rfl h.balanced.lists
    exact .of_copies_eq { h with balanced := hbalanced } rfl hnone rfl

end Engine

end SliderMixer
