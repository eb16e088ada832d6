import SliderMixer.Audio.Memory
import SliderMixer.Proofs.Turns

/-! # Handles given back

A pass calls a handle after it was given back exactly if a refresh gives it back while the
pass has it before it.

* `Engine.clean_turned`: nothing else makes a pass have such a handle before it.
* `Engine.doomed_of_not_clean`: the pass comes to every handle it has before it.
* `Engine.lawful_iff_not_overtaken`: so it is in every run of a started engine.
-/

namespace SliderMixer.Engine

variable {α : Type}

/-- No handle that a pass has before it was given back. -/
def Clean (e : Engine (Audited α)) : Prop :=
  ∀ s ∈ e.flows.router.copies, e.tracker.audio.timesGivenBack s = 0

theorem calls_subset (e : Engine (Audited α)) (turn : EngineTurn α) :
    e.calls turn ⊆ e.flows.router.copies := by
  unfold calls
  split
  · exact e.flows.router.calls_subset
  · exact List.nil_subset _

theorem calls_eq_nil {e : Engine (Audited α)} {turn : EngineTurn α} {s : Session}
    (hs : s ∈ e.returns turn) : e.calls turn = [] := by
  unfold returns at hs
  split at hs
  · rfl
  · cases hs

theorem Clean.lawful {e : Engine (Audited α)} (h : e.Clean) (turn : EngineTurn α) :
    e.Lawful turn := fun s hs => h s (e.calls_subset turn hs)

variable {e e' : Engine (Audited α)} {turn : EngineTurn α}

/-- Only a refresh that overtakes a pass gives back a handle that the pass has before it. -/
theorem clean_turned (h : e.Sound) (hclean : e.Clean) (hturned : Turned e turn e') :
    e'.Clean ↔ ¬ e.Overtakes turn := by
  constructor
  · rintro hclean' ⟨s, hs, copy, hcopy, hsame⟩
    have hleft : copy ∈ e'.flows.router.copies := by
      refine (hturned.called copy hcopy).resolve_left ?_
      rw [calls_eq_nil hs]
      exact List.not_mem_nil
    rcases hturned.returned with hnone | hback
    · rw [hnone] at hleft
      cases hleft
    · have hzero := hclean' copy hleft
      rw [Audited.timesGivenBack_append hback, Nat.add_eq_zero_iff, List.countP_eq_zero] at hzero
      exact hzero.2 s hs hsame
  · intro hnot s hs
    rcases hturned.returned with hnone | hback
    · rw [hnone] at hs
      cases hs
    rw [Audited.timesGivenBack_append hback, Nat.add_eq_zero_iff, List.countP_eq_zero]
    rcases hturned.copies s hs with hcopy | ⟨hheld, hnone⟩
    · exact ⟨hclean s hcopy, fun other hother hsame => hnot ⟨other, hother, s, hcopy, hsame⟩⟩
    · rw [hnone]
      exact ⟨h.balanced.not_given_back (List.mem_append_left _ hheld),
        fun other hother => absurd hother List.not_mem_nil⟩

/-- A handle given back stays before the pass until the pass calls it. -/
theorem unclean_turned (hclean : ¬ e.Clean) (hlawful : e.Lawful turn) (hturned : Turned e turn e') :
    ¬ e'.Clean := by
  simp only [Clean, not_forall] at hclean
  obtain ⟨s, hs, hback⟩ := hclean
  obtain ⟨back, hgrows⟩ := hturned.grows
  have hleft := (hturned.called s hs).resolve_left fun hcall => hback (hlawful s hcall)
  intro hclean'
  have hzero := hclean' s hleft
  rw [Audited.timesGivenBack_append hgrows] at hzero
  omega

/-! ## The pass comes to all it has before it -/

variable [AudioSystem α]

/-- The router goes on alone, and calls a handle given back. -/
def Doomed (e : Engine (Audited α)) : Prop :=
  ∃ n, ¬ Run.Along turn? Lawful e (List.replicate n .route)

theorem doomed_of_turn (hturn : e.turn? .route = some e') (h : e'.Doomed) : e.Doomed := by
  obtain ⟨n, hn⟩ := h
  refine ⟨n + 1, fun hlawful => hn ?_⟩
  exact hlawful.2 e' hturn

theorem turn?_visiting {move : Move} {v : Visit} {rest : List Visit} {o : RouteOutcome}
    (hrouter : e.flows.router = .routing (.visiting move (v :: rest) o)) :
    ∃ e' o', e.turn? .route = some e' ∧
      e'.flows.router =
        .routing (.visiting move ((Pass.visit e.flows.mixer move o v).1 ++ rest) o') ∧
      e'.tracker.audio.givenBack = e.tracker.audio.givenBack := by
  let after : Pass × Mixer (Audited α) :=
    (Pass.visiting move (v :: rest) o).step e.flows.settings.value.mapping e.flows.mixer
  refine ⟨{ e with
    flows := { e.flows with router := .routing after.1, mixer := after.2 }
    link := { e.link with subscribers := e.link.subscribers.set 0 e.moves } }, _, ?_, rfl,
    (Pass.keeps_visit e.flows.mixer move o v).givenBack⟩
  simp only [turn?, EngineTurn.route, step?, stepFlow?, Flows.step?, hrouter, Router.proceed?]
  rfl

/-- With these visits before it, a pass comes to the handle. -/
def Dooms (visits : List Visit) (s : Session) : Prop :=
  ∀ (e : Engine (Audited α)) (move : Move) (o : RouteOutcome),
    e.flows.router = .routing (.visiting move visits o) → e.tracker.audio.timesGivenBack s ≠ 0 →
      e.Doomed

theorem dooms_of_mem {v : Visit} {s : Session} (hs : s ∈ v.called) (rest : List Visit) :
    Dooms (α := α) (v :: rest) s := by
  intro e move o hrouter hback
  refine ⟨1, fun hlawful => hback (hlawful.1 s ?_)⟩
  show s ∈ e.flows.router.calls
  rw [hrouter]
  exact hs

theorem dooms_of_visit {v : Visit} {rest : List Visit} {s : Session}
    (h : ∀ (m : Mixer (Audited α)) move o, Dooms (α := α) ((Pass.visit m move o v).1 ++ rest) s) :
    Dooms (α := α) (v :: rest) s := by
  intro e move o hrouter hback
  obtain ⟨e', o', hturn, hrouter', hback'⟩ := turn?_visiting hrouter
  refine doomed_of_turn hturn (h _ _ _ e' move o' hrouter' ?_)
  rwa [Audited.timesGivenBack, hback']

theorem dooms_copies (visits : List Visit) :
    ∀ s ∈ visits.flatMap Visit.called, Dooms (α := α) visits s := by
  induction visits using Pass.visits_induction (α := Audited α) with
  | nil =>
    intro s hs
    cases hs
  | visit v rest ih =>
    intro s hs
    rw [List.flatMap_cons, List.mem_append] at hs
    rcases hs with hs | hs
    · exact dooms_of_mem hs rest
    · refine dooms_of_visit fun m move o => ih m move o s ?_
      rw [List.flatMap_append]
      exact List.mem_append_right _ hs

theorem doomed_of_not_clean (hclean : ¬ e.Clean) : e.Doomed := by
  simp only [Clean, not_forall] at hclean
  obtain ⟨s, hs, hback⟩ := hclean
  cases hrouter : e.flows.router with
  | routing p =>
    rw [hrouter] at hs
    cases p with
    | visiting move visits o => exact dooms_copies visits s hs e move o hrouter hback
    | _ => cases hs
  | _ =>
    rw [hrouter] at hs
    cases hs

/-! ## Runs -/

variable {turns : List (EngineTurn α)} {f : Engine (Audited α)}

/-- A pass that has a handle given back before it comes to it, whatever happens meanwhile. -/
theorem not_lawful_of_not_clean (h : e.Sound) (hclean : ¬ e.Clean)
    (hfresh : Run.Along turn? (fun e _ => FreshHandles e.tracker.audio) e turns)
    (hrun : Run.after? turn? e turns = some f) :
    ∃ n, ¬ Run.Along turn? Lawful e (turns ++ List.replicate n .route) := by
  induction turns generalizing e with
  | nil => exact doomed_of_not_clean hclean
  | cons turn rest ih =>
    simp only [Run.after?_cons, Option.bind_eq_some_iff] at hrun
    obtain ⟨e', hturn, hrun⟩ := hrun
    have hturned := turned h hfresh.1 hturn
    by_cases hlawful : e.Lawful turn
    · obtain ⟨n, hn⟩ :=
        ih hturned.sound (unclean_turned hclean hlawful hturned) (hfresh.2 e' hturn) hrun
      exact ⟨n, fun halong => hn (halong.2 e' hturn)⟩
    · exact ⟨0, fun halong => hlawful halong.1⟩

/-- The router alone calls no handle given back, if no pass has one before it. -/
theorem lawful_replicate (h : e.Sound) (hclean : e.Clean) (n : Nat) :
    Run.Along turn? Lawful e (List.replicate n .route) := by
  induction n generalizing e with
  | zero => trivial
  | succ n ih =>
    refine ⟨hclean.lawful _, fun e' hturn => ?_⟩
    have hturned := turned_route h hturn
    refine ih hturned.sound ((clean_turned h hclean hturned).mpr ?_)
    rintro ⟨s, hs, -⟩
    cases hs

theorem lawful_iff_of_sound (h : e.Sound) (hclean : e.Clean)
    (hfresh : Run.Along turn? (fun e _ => FreshHandles e.tracker.audio) e turns)
    (hrun : Run.after? turn? e turns = some f) :
    (∀ n, Run.Along turn? Lawful e (turns ++ List.replicate n .route)) ↔
      Run.Along turn? (fun e turn => ¬ e.Overtakes turn) e turns := by
  induction turns generalizing e with
  | nil => exact iff_of_true (lawful_replicate h hclean) trivial
  | cons turn rest ih =>
    simp only [Run.after?_cons, Option.bind_eq_some_iff] at hrun
    obtain ⟨e', hturn, hrun⟩ := hrun
    have hturned := turned h hfresh.1 hturn
    have hrest := hfresh.2 e' hturn
    by_cases hover : e.Overtakes turn
    · have hclean' : ¬ e'.Clean := fun hc => (clean_turned h hclean hturned).mp hc hover
      obtain ⟨n, hn⟩ := not_lawful_of_not_clean hturned.sound hclean' hrest hrun
      exact iff_of_false (fun hall => hn ((hall n).2 e' hturn)) fun halong => halong.1 hover
    · have hih := ih hturned.sound ((clean_turned h hclean hturned).mpr hover) hrest hrun
      constructor
      · intro hall
        refine ⟨hover, fun u hu => ?_⟩
        cases hturn.symm.trans hu
        exact hih.mp fun n => (hall n).2 e' hturn
      · intro halong n
        refine ⟨hclean.lawful turn, fun u hu => ?_⟩
        cases hturn.symm.trans hu
        exact hih.mpr (halong.2 e' hturn) n

/-! ## Started engines -/

/-- Where sessions have to be asked for, a started engine holds the handles of its first
    snapshot, and has no work under way. -/
theorem Sound.start {settings : Settings} {audio : α} {focus : Focus} {board : Board}
    {options : EngineOptions}
    (hstart : Engine.start settings ({ audio } : Audited α) focus board options = .ok e)
    (hasked : (AudioSystem.subscribe audio).1 = false)
    (hfirst : FreshHandles ({ audio := (AudioSystem.subscribe audio).2 } : Audited α)) :
    e.Sound ∧ e.Clean := by
  have hempty : Balanced ({ audio := (AudioSystem.subscribe audio).2 } : Audited α)
      (.new settings.mapping.keys) [] := ⟨⟨_, .new settings.mapping.keys⟩, .nil, List.nodup_nil⟩
  obtain ⟨tracker, pump, rfl, ⟨⟨hreported, -⟩, -⟩ | ⟨⟨-, rfl⟩, outcome, hrefresh⟩⟩ :=
    start_cases hstart
  · exact absurd (hasked.symm.trans hreported) Bool.noConfusion
  · obtain ⟨hmode, hbalanced⟩ := Balanced.refresh
      (t := firstTracker settings ({ audio } : Audited α) options .polling) hempty rfl hfirst true
    rw [hrefresh] at hmode hbalanced
    exact ⟨⟨hmode, rfl, rfl, rfl, hbalanced, fun c hc => by cases hc⟩, fun s hs => by cases hs⟩

/-- In every order of the steps: whatever a pass goes on to do, it calls no handle that was
    given back exactly if no refresh gave back a handle that a pass had before it.  The
    shutdown gives none back too early.  No turn sets the volume of a handle that it does not
    call. -/
theorem lawful_iff_not_overtaken {settings : Settings} {audio : α} {focus : Focus} {board : Board}
    {options : EngineOptions}
    (hstart : Engine.start settings ({ audio } : Audited α) focus board options = .ok e)
    (hasked : (AudioSystem.subscribe audio).1 = false)
    (hfirst : FreshHandles ({ audio := (AudioSystem.subscribe audio).2 } : Audited α))
    (hfresh : Run.Along turn? (fun e _ => FreshHandles e.tracker.audio) e turns)
    (hrun : Run.after? turn? e turns = some f) :
    ((∀ n, Run.Along turn? Lawful e (turns ++ List.replicate n .route)) ↔
      Run.Along turn? (fun e turn => ¬ e.Overtakes turn) e turns) ∧
    Run.Along turn? (fun e turn => ∀ e', e.turn? turn = some e' →
      Audited.SetsOnly (e.calls turn) e.tracker.audio e'.tracker.audio) e turns := by
  obtain ⟨hsound, hclean⟩ := Sound.start hstart hasked hfirst
  refine ⟨lawful_iff_of_sound hsound hclean hfresh hrun, ?_⟩
  exact Run.along_of_invariant hsound (fun _ _ _ h hfresh hturn => (turned h hfresh hturn).sound)
    (fun _ _ h hfresh _ hturn => (turned h hfresh hturn).sets) hfresh

/-- A pass copies the handle that a reload has just obtained; the engine stops after that. -/
theorem lawful_reload :
    let audio := ((MemoryAudio.new .polling).addSession "speakers" masterKey defaultVolume).2
    -- the line 512
    let board : Board := (({} : Board).pushStream { waiting := [53, 49, 50, 13, 10] }).2
    let worker : EngineTurn MemoryAudio := .step (.flow .worker .proceed)
    let sync : EngineTurn MemoryAudio := .step (.flow .sync .proceed)
    let turns : List (EngineTurn MemoryAudio) :=
      [.step (.link .proceed), .step (.link .proceed), .step (.link .read), .step (.link .read),
        .step (.link .proceed), .step (.link .proceed), .route,
        .apply {}, .step (.fanOut .proceed), .step (.fanOut .proceed), sync, sync, sync, sync,
        worker, worker, worker, worker, worker, .route, .route, .route,
        worker, worker, worker, worker, worker, .route, .route, .route, .route,
        .step (.fanOut .proceed), .step (.link .proceed), .step (.link .proceed),
        .shutdown, .step (.flow .worker .stop), .step (.flow .sync .stop),
        .step (.flow .router .stop), .step (.fanOut .stop), .step (.link .stop),
        .step .close, .step .close, .step .close]
    ∃ e ∈ (Engine.start {} ({ audio } : Audited MemoryAudio) {} board {}).toOption,
      ∃ f ∈ Run.after? turn? e turns, f.tracker.audio.givenBack.length = 2 ∧
        ∀ n, Run.Along turn? Lawful e (turns ++ List.replicate n .route) := by
  intro audio board worker sync turns
  have hrun : ∃ e ∈ (Engine.start {} ({ audio } : Audited MemoryAudio) {} board {}).toOption,
      Run.Along turn? (fun e _ => FreshHandles e.tracker.audio) e turns ∧
      Run.Along turn? (fun e turn => ¬ e.Overtakes turn) e turns ∧
      ∃ f ∈ Run.after? turn? e turns, f.tracker.audio.givenBack.length = 2 := by
    decide +kernel
  obtain ⟨e, hstart, hfresh, hnot, f, hf, hlength⟩ := hrun
  have hasked : (AudioSystem.subscribe audio).1 = false := rfl
  have hfirst : FreshHandles ({ audio := (AudioSystem.subscribe audio).2 } : Audited MemoryAudio) := by
    decide +kernel
  have hok := eq_ok_of_mem_toOption hstart
  exact ⟨e, hstart, f, hf, hlength, (lawful_iff_not_overtaken hok hasked hfirst hfresh hf).1.mpr hnot⟩

/-- The settings are reloaded while a pass has the handle of the only session before it. -/
theorem reload_overtakes_pass :
    let audio := ((MemoryAudio.new .polling).addSession "speakers" masterKey defaultVolume).2
    -- the line 512
    let board : Board := (({} : Board).pushStream { waiting := [53, 49, 50, 13, 10] }).2
    let worker : EngineTurn MemoryAudio := .step (.flow .worker .proceed)
    let sync : EngineTurn MemoryAudio := .step (.flow .sync .proceed)
    let turns : List (EngineTurn MemoryAudio) :=
      [.step (.link .proceed), .step (.link .proceed), .step (.link .read), .step (.link .read),
        .step (.link .proceed), .step (.link .proceed), .route, .route, .route, .route,
        .apply {}, .step (.fanOut .proceed), .step (.fanOut .proceed), sync, sync, sync, sync,
        worker, worker, worker, worker, worker, worker, .route, .route]
    ∃ e ∈ (Engine.start {} ({ audio } : Audited MemoryAudio) {} board {}).toOption,
      Run.Along turn? (fun e _ => FreshHandles e.tracker.audio) e turns ∧
      ¬ Run.Along turn? Lawful e turns ∧
      ∃ f ∈ Run.after? turn? e turns, ∃ attempt ∈ f.tracker.audio.attempts,
        attempt.2 = .error (.released masterKey) := by
  decide +kernel

end SliderMixer.Engine
