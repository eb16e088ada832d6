import SliderMixer.Audio.Memory
import SliderMixer.Proofs.FileChanges
import SliderMixer.Proofs.OnTheWay

/-! # Reloads

New settings go to the flows first and to the link after that.  So the router, which looks at its
settings when it takes up a move, has those under which the move was found, or newer ones.

* `ReloadTurn`: the steps of all parts of the engine, and all that happens around them.
* `Reloads`: the engine with the settings published, and the moves found and routed.
* `Ordered`: the settings that the link has are no newer than those that the flows have.
* `Queued`: moves are routed in the order in which they were found.
* `LooksUp`: the router looks up the targets of a move; `looksUp_of_turn?`: what is noted for it.
* `routed_in_force`: what follows for a move found under new settings.
-/

namespace SliderMixer

/-! ## Turns -/

/-- What can happen next. -/
inductive ReloadTurn (α : Type) where
  | step (choice : EngineChoice)
  | apply (settings : Settings)
  | shutdown
  | board (turn : BoardTurn)
  | clock (now : Nat)
  /-- The mixer and the watched file may change at any time. -/
  | outside (mixer : Mixer α) (watcher : Option Watcher)

/-- The settings that the watcher is about to publish. -/
def Watcher.publishes? (w : Watcher) : Option Settings :=
  match w.phase with
  | .publishing loaded => some loaded
  | .waiting | .settling _ | .comparing _ | .ended => none

/-- Only a watcher that is about to publish settings does so. -/
theorem Watcher.proceed?_cases {w w' : Watcher} {now : Nat} {settings settings' : Watched Settings}
    (h : w.proceed? now settings = some (w', settings')) :
    w.publishes? = none ∧ settings' = settings ∨
      ∃ s, w.publishes? = some s ∧ settings' = settings.send s := by
  cases step_of_proceed? h with
  | publishes hphase => exact .inr ⟨_, by rw [publishes?, hphase], rfl⟩
  | forgets hphase _ _ _ | attempts hphase _ _ | fails hphase _ _ | loads hphase _ _
  | keeps hphase _ | differs hphase _ => exact .inl ⟨by rw [publishes?, hphase], rfl⟩

namespace Engine

variable {α : Type}

/-- The settings on their way stay where they are. -/
structure SameSettings (e e' : Engine α) : Prop where
  settings : e'.settings = e.settings
  fanOut : e'.fanOut = e.fanOut
  routing : e'.flows.settings = e.flows.settings
  linking : e'.link.settings = e.link.settings
  port : e'.port = e.port

/-- The moves on their way stay where they are. -/
structure SameMoves (e e' : Engine α) : Prop where
  router : e'.flows.router = e.flows.router
  subscribers : e'.link.subscribers = e.link.subscribers
  undelivered : e'.link.undelivered = e.link.undelivered

/-- The moves found that are not yet routed. -/
def underway (e : Engine α) : List Move :=
  e.flows.router.begun ++ e.moves.items ++ e.link.undelivered

variable [AudioSystem α]

def reload? (e : Engine α) : ReloadTurn α → Option (Engine α)
  | .step choice => e.step? choice
  | .apply settings => some (e.apply settings)
  | .shutdown => some e.shutdown
  | .board turn => some { e with link := { e.link with board := e.link.board.turn turn } }
  | .clock now => some { e with link := { e.link with now } }
  | .outside mixer watcher => some { e with flows := { e.flows with mixer }, watcher }

end Engine

/-! ## Histories -/

/-- An engine with what has happened to its settings and its moves. -/
structure Reloads (α : Type) where
  engine : Engine α
  /-- The settings that there were, oldest first. -/
  published : List Settings
  /-- Which of them the flows have. -/
  routing : Nat := 0
  /-- Which of them the link finds when it looks. -/
  linking : Nat := 0
  /-- Which of them the link has looked at, and what it found. -/
  observed : List (Nat × LinkSettings) := []
  /-- The moves found, and which settings the link had looked at before. -/
  decoded : List (Move × List Nat) := []
  /-- The moves whose targets were looked up, and the mapping they were looked up in. -/
  routed : List (Move × SliderMapping) := []

namespace Reloads

variable {α : Type}

def start (settings : Settings) (engine : Engine α) : Reloads α :=
  { engine, published := [settings] }

/-- Notes what the turn did, that led to `e`. -/
def next (x : Reloads α) (turn : ReloadTurn α) (e : Engine α) : Reloads α :=
  match turn with
  | .apply settings => { x with engine := e, published := x.published ++ [settings] }
  | .step (.watcher .proceed) => { x with
      engine := e
      published := x.published ++ (x.engine.watcher.bind Watcher.publishes?).toList }
  | .step (.fanOut .proceed) =>
    match x.engine.fanOut.phase with
    | .routing _ => { x with engine := e, routing := x.engine.fanOut.seen }
    | .linking _ => { x with engine := e, linking := x.engine.fanOut.seen }
    | .waiting | .ended => { x with engine := e }
  | .step (.link choice) => { x with
      engine := e
      observed :=
        x.observed ++ ((x.engine.link.observes? (.step choice)).map (x.linking, ·)).toList
      decoded :=
        x.decoded ++ (x.engine.link.decoded (.step choice)).map (·, x.observed.map (·.1)) }
  | .step (.flow .router .proceed) => { x with
      engine := e
      routed := x.routed ++
        x.engine.flows.router.begun.map (·, x.engine.flows.settings.value.mapping) }
  | .step _ | .shutdown | .board _ | .clock _ | .outside .. => { x with engine := e }

def turn? [AudioSystem α] (x : Reloads α) (turn : ReloadTurn α) : Option (Reloads α) :=
  (x.engine.reload? turn).map (x.next turn)

variable {x y : Reloads α} {e : Engine α} {port : Option String}

/-! ## Order of the settings -/

/-- The link is behind the flows, and the flows are behind the fan-out. -/
structure Ordered (port : Option String) (x : Reloads α) : Prop where
  samePort : x.engine.port = port
  latest : x.published[x.engine.settings.version]? = some x.engine.settings.value
  count : x.published.length = x.engine.settings.version + 1
  taken : x.engine.fanOut.seen ≤ x.engine.settings.version
  /-- The fan-out sends on what it took last. -/
  sending : ∀ s, x.engine.fanOut.phase = .routing s ∨ x.engine.fanOut.phase = .linking s →
    x.published[x.engine.fanOut.seen]? = some s
  routing : ∃ s, x.published[x.routing]? = some s ∧ x.engine.flows.settings.value = s.routing
  linking : ∃ s, x.published[x.linking]? = some s ∧ x.engine.link.settings.value = s.linkAt port
  behind : x.routing ≤ x.engine.fanOut.seen
  /-- The flows have the settings that the link is about to get. -/
  even : ∀ s, x.engine.fanOut.phase = .linking s → x.routing = x.engine.fanOut.seen
  first : x.linking ≤ x.routing
  observed : ∀ o ∈ x.observed, o.1 ≤ x.linking ∧
    ∃ s, x.published[o.1]? = some s ∧ o.2 = s.linkAt port
  decoded : ∀ d ∈ x.decoded, ∀ n ∈ d.2, n ≤ x.linking
  routed : ∀ (i : Nat) r d, x.routed[i]? = some r → x.decoded[i]? = some d →
    ∃ n s, x.published[n]? = some s ∧ r.2 = s.mapping ∧ ∀ k ∈ d.2, k ≤ n

theorem Ordered.keep (h : x.Ordered port) (hsame : x.engine.SameSettings e) :
    Ordered port { x with engine := e } := by
  obtain ⟨hsettings, hfanOut, hrouting, hlinking, hport⟩ := hsame
  refine ⟨?_, ?_, ?_, ?_, ?_, ?_, ?_, ?_, ?_, h.first, h.observed, h.decoded, h.routed⟩ <;>
    simp only [hsettings, hfanOut, hrouting, hlinking, hport]
  · exact h.samePort
  · exact h.latest
  · exact h.count
  · exact h.taken
  · exact h.sending
  · exact h.routing
  · exact h.linking
  · exact h.behind
  · exact h.even

theorem Ordered.publish (h : x.Ordered port) (s : Settings) (watcher : Option Watcher) :
    Ordered port { x with
      engine := { x.engine with settings := x.engine.settings.send s, watcher }
      published := x.published ++ [s] } := by
  have hgrows : x.published <+: x.published ++ [s] := List.prefix_append _ _
  refine ⟨h.samePort, ?_, ?_, ?_, fun s' hs' => ?_, ?_, ?_, h.behind, h.even, h.first,
    fun o ho => ?_, h.decoded, fun i r d hr hd => ?_⟩
  · simp [Watched.send, ← h.count]
  · simp [Watched.send, h.count]
  · exact Nat.le_succ_of_le h.taken
  · exact hgrows.getElem?_eq_some (h.sending s' hs')
  · obtain ⟨s', hs', hvalue⟩ := h.routing
    exact ⟨s', hgrows.getElem?_eq_some hs', hvalue⟩
  · obtain ⟨s', hs', hvalue⟩ := h.linking
    exact ⟨s', hgrows.getElem?_eq_some hs', hvalue⟩
  · obtain ⟨hle, s', hs', hvalue⟩ := h.observed o ho
    exact ⟨hle, s', hgrows.getElem?_eq_some hs', hvalue⟩
  · obtain ⟨n, s', hs', hmapping, hle⟩ := h.routed i r d hr hd
    exact ⟨n, s', hgrows.getElem?_eq_some hs', hmapping, hle⟩

/-- The fan-out takes the latest settings; what was published in between is skipped. -/
theorem Ordered.fanOut_takes (h : x.Ordered port) :
    Ordered port { x with engine := { x.engine with
      fanOut := { phase := .routing x.engine.settings.value, seen := x.engine.settings.version } } } := by
  refine { h with taken := Nat.le_refl _, sending := ?_, behind := ?_, even := ?_ }
  · rintro s (hs | hs) <;> cases hs
    exact h.latest
  · exact Nat.le_trans h.behind h.taken
  · intro s hs
    cases hs

theorem Ordered.fanOut_routes (h : x.Ordered port) {s : Settings}
    (hphase : x.engine.fanOut.phase = .routing s) :
    Ordered port { x with
      engine := { x.engine with
        fanOut := { x.engine.fanOut with phase := .linking s }
        flows := { x.engine.flows with settings := x.engine.flows.settings.send s.routing } }
      routing := x.engine.fanOut.seen } := by
  have hs := h.sending s (.inl hphase)
  refine { h with
    sending := ?_, routing := ⟨s, hs, rfl⟩, behind := Nat.le_refl _, even := fun _ _ => rfl
    first := Nat.le_trans h.first h.behind }
  rintro s' (hs' | hs') <;> cases hs'
  exact hs

/-- The link gets settings that the flows have already. -/
theorem Ordered.fanOut_links (h : x.Ordered port) {s : Settings}
    (hphase : x.engine.fanOut.phase = .linking s) :
    Ordered port { x with
      engine := { x.engine with
        fanOut := { x.engine.fanOut with phase := .waiting }
        link := { x.engine.link with
          settings := x.engine.link.settings.send (s.linkAt x.engine.port) } }
      linking := x.engine.fanOut.seen } := by
  have hs := h.sending s (.inr hphase)
  have heven : x.routing = x.engine.fanOut.seen := h.even s hphase
  have hgrows : x.linking ≤ x.engine.fanOut.seen := heven ▸ h.first
  refine { h with
    sending := ?_, linking := ⟨s, hs, ?_⟩, even := ?_, first := Nat.le_of_eq heven.symm
    observed := ?_, decoded := ?_ }
  · rintro s' (hs' | hs') <;> cases hs'
  · simp [Watched.send, h.samePort]
  · intro s' hs'
    cases hs'
  · intro o ho
    obtain ⟨hle, hvalue⟩ := h.observed o ho
    exact ⟨Nat.le_trans hle hgrows, hvalue⟩
  · exact fun d hd n hn => Nat.le_trans (h.decoded d hd n hn) hgrows

theorem Ordered.fanOut_ends (h : x.Ordered port) :
    Ordered port { x with engine := { x.engine with
      fanOut := { x.engine.fanOut with phase := .ended }
      flows := { x.engine.flows with settings := x.engine.flows.settings.close }
      link := { x.engine.link with settings := x.engine.link.settings.close } } } := by
  refine { h with sending := ?_, even := ?_ }
  · rintro s (hs | hs) <;> cases hs
  · intro s hs
    cases hs

theorem Ordered.link (h : x.Ordered port) (hcount : x.routed.length ≤ x.decoded.length)
    {choice : LinkChoice} {l : Link} (hstep : x.engine.link.Step choice l) :
    (x.next (.step (.link choice)) { x.engine with link := l }).Ordered port := by
  have hlinking : ∃ s, x.published[x.linking]? = some s ∧ l.settings.value = s.linkAt port := by
    rw [Link.settings_step hstep]
    exact h.linking
  refine { h with linking := hlinking, observed := ?_, decoded := ?_, routed := ?_ }
  · intro o ho
    rcases List.mem_append.mp ho with ho | ho
    · exact h.observed o ho
    · simp only [Option.mem_toList, Option.map_eq_some_iff] at ho
      obtain ⟨found, hfound, rfl⟩ := ho
      rw [Link.observes?_eq_some hfound]
      exact ⟨Nat.le_refl _, h.linking⟩
  · intro d hd
    rcases List.mem_append.mp hd with hd | hd
    · exact h.decoded d hd
    · obtain ⟨move, -, rfl⟩ := List.mem_map.mp hd
      intro n hn
      obtain ⟨o, ho, rfl⟩ := List.mem_map.mp hn
      exact (h.observed o ho).1
  · intro i r d hr hd
    -- no move is routed before it is found
    have hi : i < x.decoded.length :=
      Nat.lt_of_lt_of_le (List.getElem?_eq_some_iff.mp hr).1 hcount
    rw [next, List.getElem?_append_left hi] at hd
    exact h.routed i r d hr hd

/-- The router looks at the settings that the flows have, and the link has none newer. -/
theorem Ordered.route (h : x.Ordered port) (hsame : x.engine.SameSettings e) :
    (x.next (.step (.flow .router .proceed)) e).Ordered port := by
  refine { h.keep hsame with routed := ?_ }
  intro i r d hr hd
  by_cases hi : i < x.routed.length
  · rw [next, List.getElem?_append_left hi] at hr
    exact h.routed i r d hr hd
  · rw [next, List.getElem?_append_right (Nat.le_of_not_lt hi)] at hr
    obtain ⟨move, -, rfl⟩ := List.mem_map.mp (List.mem_of_getElem? hr)
    obtain ⟨s, hs, hvalue⟩ := h.routing
    -- whenever the move was found, the link had looked at nothing newer than it could look at now
    refine ⟨x.routing, s, hs, by rw [hvalue]; rfl, fun n hn => ?_⟩
    exact Nat.le_trans (h.decoded d (List.mem_of_getElem? hd) n hn) h.first

/-! ## Look-ups -/

section LookUps

variable [AudioSystem α]

/-- The router has the move taken up.  What it does next is to look up the targets, in the mapping
    that is noted. -/
structure LooksUp (x y : Reloads α) (move : Move) (mapping : SliderMapping) : Prop where
  begun : x.engine.flows.router = .routing (.begun move)
  router : y.engine.flows.router =
    .routing ((Pass.begun move).step mapping x.engine.flows.mixer).1
  mixer : y.engine.flows.mixer = ((Pass.begun move).step mapping x.engine.flows.mixer).2
  noted : y.routed = x.routed ++ [(move, mapping)]

/-- Nothing else is noted, and nothing else comes of a move taken up. -/
theorem looksUp_of_turn? {turn : ReloadTurn α} (hturn : x.turn? turn = some y) :
    (∃ move mapping, x.LooksUp y move mapping) ∨
    (y.routed = x.routed ∧ ∀ move, x.engine.flows.router = .routing (.begun move) →
      y.engine.flows.router = x.engine.flows.router) := by
  obtain ⟨e, hreload, rfl⟩ := Option.map_eq_some_iff.mp hturn
  cases turn with
  | step choice =>
    cases Engine.step_of_step? hreload with
    | flow step =>
      cases step with
      | @routes p hphase _ =>
        cases p with
        | begun move =>
          exact .inl ⟨move, _, hphase, rfl, rfl, by simp [next, hphase, Router.begun]⟩
        | _ => exact .inr ⟨by simp [next, hphase, Router.begun], by simp [hphase]⟩
      | takes hphase _ | outlasts hphase _ _ | routed hphase =>
        exact .inr ⟨by simp [next, hphase, Router.begun], by simp [hphase]⟩
      | retires _ hphase => exact .inr ⟨rfl, by simp [hphase]⟩
      | _ => exact .inr ⟨rfl, fun _ _ => rfl⟩
    | takes hphase _ | sendsRouting hphase | sendsLink hphase =>
      exact .inr ⟨by simp [next, hphase], fun _ _ => by simp [next, hphase]⟩
    | _ => exact .inr ⟨rfl, fun _ _ => rfl⟩
  | apply settings | shutdown | board _ | clock _ | outside _ _ =>
    cases hreload
    exact .inr ⟨rfl, fun _ _ => rfl⟩

end LookUps

/-! ## Turns -/

/-- The settings and the moves are where they should be. -/
structure Sound (port : Option String) (x : Reloads α) : Prop where
  ordered : x.Ordered port
  queued : Queued x.engine.link x.engine.flows.router (x.decoded.map (·.1)) (x.routed.map (·.1))

theorem Sound.count (h : x.Sound port) : x.routed.length ≤ x.decoded.length := by
  simpa using h.queued.first.length_le

theorem Sound.keep (h : x.Sound port) (hsettings : x.engine.SameSettings e)
    (hmoves : x.engine.SameMoves e) : Sound port { x with engine := e } := by
  refine ⟨h.ordered.keep hsettings, ?_⟩
  have hqueued := h.queued.congr hmoves.subscribers hmoves.undelivered
  rwa [← hmoves.router] at hqueued

variable [AudioSystem α]

theorem sound_flow (h : x.Sound port) {name : FlowName} {choice : Choice} {flows : Flows α}
    {moves : Mailbox Move} (hstep : x.engine.flows.Step x.engine.moves name choice flows moves) :
    (x.next (.step (.flow name choice)) { x.engine with
      flows
      link := { x.engine.link with
        subscribers := x.engine.link.subscribers.set 0 moves } }).Sound port := by
  have hqueued := h.queued.flow hstep
  have hsame : x.engine.SameSettings { x.engine with
      flows, link := { x.engine.link with
        subscribers := x.engine.link.subscribers.set 0 moves } } :=
    ⟨rfl, rfl, hstep.settings, rfl, rfl⟩
  by_cases hroute : name = .router ∧ choice = .proceed
  · obtain ⟨rfl, rfl⟩ := hroute
    refine ⟨h.ordered.route hsame, ?_⟩
    simpa [next, Function.comp_def] using hqueued
  · have hnext (e : Engine α) : x.next (.step (.flow name choice)) e = { x with engine := e } := by
      cases name <;> cases choice <;> first | rfl | exact absurd ⟨rfl, rfl⟩ hroute
    rw [if_neg hroute, List.append_nil] at hqueued
    rw [hnext]
    exact ⟨h.ordered.keep hsame, hqueued⟩

theorem sound_step (h : x.Sound port) {choice : EngineChoice} (hstep : x.engine.Step choice e) :
    (x.next (.step choice) e).Sound port := by
  cases hstep with
  | flow step => exact sound_flow h step
  | link step =>
    refine ⟨h.ordered.link h.count step, ?_⟩
    simpa [next, Function.comp_def] using h.queued.link step
  | fanOutEnds => exact ⟨h.ordered.fanOut_ends, h.queued.congr rfl rfl⟩
  | takes hphase _ =>
    simp only [next, hphase]
    exact ⟨h.ordered.fanOut_takes, h.queued⟩
  | sendsRouting hphase =>
    simp only [next, hphase]
    exact ⟨h.ordered.fanOut_routes hphase, h.queued⟩
  | sendsLink hphase =>
    simp only [next, hphase]
    exact ⟨h.ordered.fanOut_links hphase, h.queued.congr rfl rfl⟩
  | watches hw hproceed =>
    rcases Watcher.proceed?_cases hproceed with ⟨hnone, rfl⟩ | ⟨s, hs, rfl⟩
    · simp only [next, hw, Option.bind_some, hnone, Option.toList_none, List.append_nil]
      exact h.keep ⟨rfl, rfl, rfl, rfl, rfl⟩ ⟨rfl, rfl, rfl⟩
    · simp only [next, hw, Option.bind_some, hs, Option.toList_some]
      exact ⟨h.ordered.publish s _, h.queued⟩
  | watcherEnds | closes | givesUp => exact h.keep ⟨rfl, rfl, rfl, rfl, rfl⟩ ⟨rfl, rfl, rfl⟩

theorem sound_turn (h : x.Sound port) {turn : ReloadTurn α} (hturn : x.turn? turn = some y) :
    y.Sound port := by
  obtain ⟨e, hreload, rfl⟩ := Option.map_eq_some_iff.mp hturn
  cases turn with
  | step choice => exact sound_step h (Engine.step_of_step? hreload)
  | apply settings =>
    cases hreload
    exact ⟨h.ordered.publish settings _, h.queued⟩
  | shutdown | board _ | clock _ | outside _ _ =>
    cases hreload
    exact h.keep ⟨rfl, rfl, rfl, rfl, rfl⟩ ⟨rfl, rfl, rfl⟩

theorem sound_start {settings : Settings} {audio : α} {focus : Focus} {board : Board}
    {options : EngineOptions} (hstart : Engine.start settings audio focus board options = .ok e) :
    (start settings e).Sound options.port := by
  obtain ⟨tracker, pump, rfl, -⟩ := Engine.start_cases hstart
  constructor
  · constructor <;> simp [start, Link.new]
  · refine ⟨⟨{ capacity := 1 }, rfl, fun hgone => ?_, fun _ => rfl⟩, List.nil_prefix⟩
    cases hgone

/-- After any turns: every move whose targets were looked up is the next one that was found.  They
    were looked up in the mapping of published settings that are none older than any that the link
    had looked at when the move was found.  While the router goes on, the other moves found are on
    their way to it.  The mapping noted for a move is the one in which the router looks up its
    targets; no move goes on without that, and the router looks at the mapping once for each move. -/
theorem routed_in_force {settings : Settings} {audio : α} {focus : Focus} {board : Board}
    {options : EngineOptions} (hstart : Engine.start settings audio focus board options = .ok e)
    {turns : List (ReloadTurn α)} (hrun : Run.after? turn? (start settings e) turns = some x) :
    (∀ (i : Nat) move mapping, x.routed[i]? = some (move, mapping) →
      ∃ seen n s, x.decoded[i]? = some (move, seen) ∧ x.published[n]? = some s ∧
        mapping = s.mapping ∧ ∀ k ∈ seen, k ≤ n) ∧
    (∀ k found, (k, found) ∈ x.observed →
      ∃ s, x.published[k]? = some s ∧ found = s.linkAt options.port) ∧
    (x.engine.flows.router.hasEnded = false →
      x.decoded.map (·.1) = x.routed.map (·.1) ++ x.engine.underway) ∧
    (∀ (u v : Reloads α) turn, u.turn? turn = some v →
      (∃ move mapping, u.LooksUp v move mapping) ∨
      (v.routed = u.routed ∧ ∀ move, u.engine.flows.router = .routing (.begun move) →
        v.engine.flows.router = u.engine.flows.router)) ∧
    ∀ (p : Pass) mapping mapping' (m : Mixer α), (∀ move, p ≠ .begun move) →
      p.step mapping m = p.step mapping' m := by
  have h : x.Sound options.port :=
    Run.invariant (sound_start hstart) (fun _ _ _ hx hturn => sound_turn hx hturn) hrun
  refine ⟨fun i move mapping hrouted => ?_, fun k found hfound => (h.ordered.observed _ hfound).2,
    fun hgoes => ?_, fun u v turn hturn => looksUp_of_turn? hturn,
    fun p mapping mapping' m hp => Pass.step_of_ne_begun hp mapping mapping' m⟩
  · have hi : i < x.routed.length := (List.getElem?_eq_some_iff.mp hrouted).1
    obtain ⟨⟨move', seen⟩, hdecoded⟩ : ∃ d, x.decoded[i]? = some d :=
      ⟨_, List.getElem?_eq_getElem (Nat.lt_of_lt_of_le hi h.count)⟩
    obtain rfl : move' = move := by
      obtain ⟨later, hlater⟩ := h.queued.first
      have hfound : (x.decoded.map (·.1))[i]? = (x.routed.map (·.1))[i]? := by
        rw [← hlater, List.getElem?_append_left (by simpa using hi)]
      simpa [hdecoded, hrouted] using hfound
    obtain ⟨n, s, hs, hmapping, hle⟩ := h.ordered.routed i _ _ hrouted hdecoded
    exact ⟨seen, n, s, hdecoded, hs, hmapping, hle⟩
  · obtain ⟨m, hm, hgone, horder⟩ := h.queued.mailbox
    have hmoves : x.engine.moves = m := by simp [Engine.moves, hm]
    have hlistens : m.receiverGone = false := by
      rw [← Bool.not_eq_true]
      intro hgone'
      simp [hgone hgone', Router.hasEnded] at hgoes
    rw [horder hlistens, Engine.underway, hmoves]
    simp only [List.append_assoc]

/-- Settings with another target for the slider come while a pass goes on.  The next line is decoded
    under them, and its move is looked up in their mapping. -/
theorem routed_in_force_changed :
    let changed : Settings := { invert := true, sliders := [("0", .one "other")] }
    let board : Board := (({} : Board).pushStream { waiting := [53, 10, 57, 10] }).2
    let link (choice : LinkChoice) : ReloadTurn MemoryAudio := .step (.link choice)
    let fanOut : ReloadTurn MemoryAudio := .step (.fanOut .proceed)
    let router : ReloadTurn MemoryAudio := .step (.flow .router .proceed)
    let turns : List (ReloadTurn MemoryAudio) :=
      [link .proceed, link .proceed, link .read, link .read, link .read, link .proceed,
        link .proceed, router, router, .apply changed, fanOut, fanOut, link .proceed, link .proceed,
        fanOut, link .notice, link .proceed, link .proceed, router, router, router, router, router]
    ∃ e ∈ (Engine.start {} (MemoryAudio.new .eventDriven) {} board {}).toOption,
      ∃ x ∈ Run.after? turn? (start {} e) turns, ∃ y ∈ x.turn? router,
        y.published = [{}, changed] ∧ y.decoded.map (·.2) = [[0], [0, 1]] ∧
        ∃ move, y.routed[1]? = some (move, changed.mapping) ∧
          changed.mapping.get? move.slider = some ["other"] ∧ x.LooksUp y move changed.mapping := by
  intro changed board link fanOut router turns
  have hrun : ∃ e ∈ (Engine.start {} (MemoryAudio.new .eventDriven) {} board {}).toOption,
      ∃ x ∈ Run.after? turn? (start {} e) turns, ∃ y ∈ x.turn? router,
        y.published = [{}, changed] ∧ y.decoded.map (·.2) = [[0], [0, 1]] ∧
        x.routed.length = 1 ∧ y.routed.map (·.1.slider) = [0, 0] := by
    decide +kernel
  obtain ⟨e, hstart, x, hx, y, hturn, hpublished, hdecoded, hcount, hsliders⟩ := hrun
  have hy : Run.after? turn? (start {} e) (turns ++ [router]) = some y := by
    rw [Run.after?_append hx, Run.after?_cons, hturn]
    rfl
  obtain ⟨hrouted, -, -, hlooks, -⟩ := routed_in_force (eq_ok_of_mem_toOption hstart) hy
  obtain ⟨move, mapping, hlooksUp⟩ : ∃ move mapping, x.LooksUp y move mapping := by
    refine (hlooks x y router hturn).resolve_right fun hnot => ?_
    have hlength : y.routed.length = 2 := by simpa using congrArg List.length hsliders
    rw [hnot.1, hcount] at hlength
    cases hlength
  have hlast : y.routed[1]? = some (move, mapping) := by
    rw [hlooksUp.noted, ← hcount, List.getElem?_concat_length]
  obtain ⟨seen, n, s, hfound, hs, rfl, hle⟩ := hrouted 1 move mapping hlast
  obtain rfl : [0, 1] = seen := by
    have hseen : (y.decoded.map (·.2))[1]? = some seen := by rw [List.getElem?_map, hfound]; rfl
    rw [hdecoded] at hseen
    exact Option.some.inj hseen
  have hnew : 1 ≤ n := hle 1 (by decide)
  have hn : n < y.published.length := (List.getElem?_eq_some_iff.mp hs).1
  obtain rfl : n = 1 := by
    simp only [hpublished, List.length_cons, List.length_nil] at hn
    omega
  rw [hpublished] at hs
  obtain rfl : changed = s := Option.some.inj hs
  have hslider : move.slider = 0 := by
    have hmoved : (y.routed.map (·.1.slider))[1]? = some move.slider := by
      rw [List.getElem?_map, hlast]
      rfl
    rw [hsliders] at hmoved
    exact (Option.some.inj hmoved).symm
  refine ⟨e, hstart, x, hx, y, hturn, hpublished, hdecoded, move, hlast, ?_, hlooksUp⟩
  rw [hslider]
  decide +kernel

end Reloads

end SliderMixer
