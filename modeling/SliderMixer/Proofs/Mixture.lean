import SliderMixer.Proofs.Restarts

/-! # Mixture of mapping and classification

A pass reads the mapping when it begins, and looks up the sessions left over when it comes to the
target for the rest.  In between and before that, settings are published that the directory is not
yet classified for.

* `Directory.Sorted`: the sessions stand under their keys, and those left over have none that a
  slider names; kept by all that callers do.
* `Passing`: the engine with the mapping of the pass under way, and the target behind each of its
  visits.
* `Passing.Mixed`: the router looks up the rest, and finds what its mapping names.
* `Passing.apart_iff_not_mixed`: nothing else brings a named session before a target for the rest.
* `Passing.mixes`: and that happens.
-/

namespace SliderMixer

variable {α : Type} [AudioSystem α]

/-! ## The directory -/

namespace Directory

structure Sorted (d : Directory) : Prop where
  keyed : ∀ entry ∈ d.sessions, ∀ s ∈ entry.2, s.key = entry.1
  unnamed : ∀ s ∈ d.unmapped, s.key ∉ d.mappedKeys

namespace Sorted

variable {d : Directory}

theorem new (mappedKeys : List String) : (Directory.new mappedKeys).Sorted :=
  ⟨fun _ h => absurd h List.not_mem_nil, fun _ h => absurd h List.not_mem_nil⟩

theorem keyed_insertInto {s : Session} {entries : List (String × List Session)}
    (h : ∀ entry ∈ entries, ∀ s ∈ entry.2, s.key = entry.1) :
    ∀ entry ∈ insertInto s entries, ∀ s ∈ entry.2, s.key = entry.1 := by
  induction entries with
  | nil => simp [insertInto]
  | cons e rest ih =>
    obtain ⟨key, ss⟩ := e
    have hfirst := h (key, ss) List.mem_cons_self
    have hrest (entry) (he : entry ∈ rest) := h entry (List.mem_cons_of_mem _ he)
    unfold insertInto
    split
    · next hkey =>
      intro entry he other hother
      rcases List.mem_cons.mp he with rfl | he
      · rcases List.mem_append.mp hother with hother | hother
        · exact hfirst other hother
        · rw [List.mem_singleton.mp hother]
          exact hkey.symm
      · exact hrest entry he other hother
    · intro entry he
      rcases List.mem_cons.mp he with rfl | he
      · exact hfirst
      · exact ih hrest entry he

theorem insert (h : d.Sorted) (s : Session) : (d.insert s).Sorted := by
  refine ⟨keyed_insertInto h.keyed, ?_⟩
  unfold Directory.insert
  cases hmapped : d.isMappedKey s.key with
  | true => exact h.unnamed
  | false =>
    have hs : s.key ∉ d.mappedKeys := by simp_all [isMappedKey]
    intro other hother
    rcases List.mem_append.mp hother with hother | hother
    · exact h.unnamed other hother
    · rwa [List.mem_singleton.mp hother]

theorem foldl_insert (h : d.Sorted) (ss : List Session) : (ss.foldl Directory.insert d).Sorted := by
  induction ss generalizing d with
  | nil => exact h
  | cons s rest ih => exact ih (h.insert s)

theorem remove (h : d.Sorted) (s : Session) : (d.remove s).2.Sorted := by
  refine ⟨fun entry he other hother => ?_, fun other hother =>
    h.unnamed other (List.mem_of_mem_filter hother)⟩
  -- every entry left was there before, with more sessions or the same
  obtain ⟨entry', he', hwithout⟩ := List.mem_filterMap.mp he
  have hkeyed := h.keyed entry' he'
  unfold withoutSession at hwithout
  split at hwithout
  · split at hwithout
    · cases hwithout
    · cases hwithout
      exact hkeyed other (List.mem_of_mem_filter hother)
  · cases hwithout
    exact hkeyed other hother

theorem takeAll (d : Directory) : d.takeAll.2.Sorted :=
  ⟨fun _ h => absurd h List.not_mem_nil, fun _ h => absurd h List.not_mem_nil⟩

theorem classify (h : d.Sorted) (mappedKeys : List String) : (d.classify mappedKeys).Sorted := by
  refine ⟨h.keyed, fun s hs => ?_⟩
  have hs := (List.mem_filter.mp hs).2
  simp_all [isMappedKey, Directory.classify]

theorem beginRefresh (h : d.Sorted) {now minInterval : Nat} {force : Bool} {d' : Directory}
    (hbegin : d.beginRefresh now minInterval force = some d') : d'.Sorted := by
  obtain rfl := beginRefresh_eq_some hbegin
  exact ⟨h.keyed, h.unnamed⟩

theorem key_of_lookup (h : d.Sorted) {key : String} {ss : List Session} {s : Session}
    (hlookup : d.lookup key = some ss) (hs : s ∈ ss) : s.key = key := by
  obtain ⟨front, back, hsplit, -⟩ := List.lookup_eq_some_iff.mp hlookup
  exact h.keyed (key, ss) (by simp [hsplit]) s hs

end Sorted

end Directory

theorem Call.sorted_step (c : Call) {t : Tracker α} (h : t.directory.Sorted) :
    (c.step t).2.directory.Sorted := by
  have hstep := c.stepped t
  generalize c.step t = next at hstep ⊢
  cases hstep with
  | inserts s => exact h.insert s
  | erases _ | misses _ => exact h.remove _
  | classifies mappedKeys => exact h.classify mappedKeys
  | begins free => exact h.beginRefresh free
  | replaces fresh => exact (Directory.Sorted.takeAll t.directory).foldl_insert fresh
  | empties => exact .takeAll t.directory
  | _ => exact h

theorem Call.ComesTo.sorted {c d : Call} {t u : Tracker α} (h : c.ComesTo t d u)
    (ht : t.directory.Sorted) : u.directory.Sorted := by
  induction h with
  | refl c t => exact ht
  | step _ ih => exact ih (Call.sorted_step _ ht)

namespace Engine

variable {e e' : Engine α}

theorem sorted_happen (h : e.flows.mixer.tracker.directory.Sorted) {turn : Occurrence α}
    (hturn : e.happen? turn = some e') : e'.flows.mixer.tracker.directory.Sorted := by
  cases turn with
  | step choice =>
    obtain haudio | ⟨c, -, hsection⟩ | ⟨s, -, -, hclassify⟩ := (step_of_step? hturn).tracker
    · rw [haudio]
      exact h
    · rw [hsection]
      exact c.sorted_step h
    · rw [hclassify]
      exact h.classify _
  | shutdown =>
    obtain ⟨-, rfl⟩ := shutdown_of_happen? hturn
    exact h
  | _ =>
    cases hturn
    exact h

theorem sorted_start {settings : Settings} {audio : α} {focus : Focus} {board : Board}
    {options : EngineOptions} (hstart : Engine.start settings audio focus board options = .ok e) :
    e.flows.mixer.tracker.directory.Sorted := by
  obtain ⟨tracker, pump, rfl, ⟨-, rfl⟩ | ⟨-, outcome, hrefresh⟩⟩ := start_cases hstart
  · exact .new _
  · have hsorted :=
      (Call.comesTo_refresh (firstTracker settings audio options .polling) true).sorted (.new _)
    rw [hrefresh] at hsorted
    exact hsorted

end Engine

/-! ## Passes with their targets -/

/-- The session whose volume the visit sets. -/
def Visit.adjusted : Visit → List Session
  | adjust s => [s]
  | target _ | key _ | session _ => []

/-- The key that the visit is about. -/
def Visit.key? : Visit → Option String
  | target _ => none
  | key k => some k
  | session s | adjust s => some s.key

/-- A visit and the target for which it is made. -/
structure Errand where
  target : String
  visit : Visit
  deriving DecidableEq

/-- The visits, each for the same target. -/
def Errand.follow (e : Errand) (visits : List Visit) : List Errand :=
  visits.map fun visit => { e with visit }

theorem Errand.visit_follow (e : Errand) (visits : List Visit) :
    (e.follow visits).map Errand.visit = visits := by
  simp [follow, Function.comp_def]

/-- Only the begin of a pass brings targets before it. -/
theorem Pass.target_not_mem_visit (m : Mixer α) (move : Move) (o : RouteOutcome) (v : Visit)
    (text : String) : .target text ∉ (visit m move o v).1 := by
  cases v with
  | target _ => simp [visit]
  | key k => cases hlookup : m.tracker.lookup k <;> simp [visit, hlookup]
  | session s => cases hat : m.atVolume s move.value <;> simp [visit, hat]
  | adjust s => simp [visit]

def Errand.ofTarget (text : String) : Errand := { target := text, visit := .target text }

/-- The errand is made for all that no slider names. -/
def Errand.IsRest (e : Errand) : Prop := Target.ofText e.target = .special .allUnmapped

instance (e : Errand) : Decidable e.IsRest := inferInstanceAs (Decidable (_ = _))

/-- Some slider names the key, in any letter case. -/
def SliderMapping.Names (m : SliderMapping) (key : String) : Prop := lower key ∈ m.keys

instance (m : SliderMapping) (key : String) : Decidable (m.Names key) :=
  inferInstanceAs (Decidable (_ ∈ _))

def Pass.visits : Pass → List Visit
  | visiting _ visits _ => visits
  | begun _ | raising .. | ringing _ | finished _ => []

def Router.visits : Router → List Visit
  | routing p => p.visits
  | waiting | ended => []

/-- The engine, the mapping under which the last pass began, and what is left of the pass. -/
structure Passing (α : Type) where
  engine : Engine α
  mapping : SliderMapping := {}
  errands : List Errand := []

namespace Passing

/-- The router goes on. -/
def route (x : Passing α) (engine : Engine α) : Passing α :=
  match x.engine.flows.router with
  | .routing (.begun move) =>
    let mapping := x.engine.flows.settings.value.mapping
    { engine, mapping, errands := ((mapping.get? move.slider).getD []).map .ofTarget }
  | .routing (.visiting move _ o) =>
    match x.errands with
    | [] => { x with engine }
    | e :: rest =>
      let visits := (Pass.visit x.engine.flows.mixer move o e.visit).1
      { x with engine, errands := e.follow visits ++ rest }
  | .routing (.raising ..) | .routing (.ringing _) | .routing (.finished _) | .waiting | .ended =>
    { x with engine }

def after (x : Passing α) (turn : Occurrence α) (engine : Engine α) : Passing α :=
  match turn with
  | .step (.flow .router .proceed) => x.route engine
  | _ => { x with engine }

def turn? (x : Passing α) (turn : Occurrence α) : Option (Passing α) :=
  (x.engine.happen? turn).map (x.after turn)

omit [AudioSystem α]

/-- The errand that the turn does. -/
def next? (x : Passing α) : Occurrence α → Option Errand
  | .step (.flow .router .proceed) =>
    match x.engine.flows.router with
    | .routing (.visiting ..) => x.errands.head?
    | _ => none
  | _ => none

/-- No session is adjusted for the rest whose key the mapping names. -/
def Lawful (x : Passing α) (turn : Occurrence α) : Prop :=
  ∀ e ∈ x.next? turn, e.IsRest → ∀ s ∈ e.visit.adjusted, ¬ x.mapping.Names s.key

instance (x : Passing α) (turn : Occurrence α) : Decidable (x.Lawful turn) :=
  inferInstanceAs (Decidable
    (∀ e ∈ x.next? turn, e.IsRest → ∀ s ∈ e.visit.adjusted, ¬ x.mapping.Names s.key))

/-- The rest is looked up, and there are sessions left over whose key the mapping names. -/
def Mixed (x : Passing α) (turn : Occurrence α) : Prop :=
  ∃ e ∈ x.next? turn, e.IsRest ∧ e.visit = .target e.target ∧
    ∃ key ∈ x.engine.flows.mixer.tracker.directory.unmappedKeys, x.mapping.Names key

instance (x : Passing α) (turn : Occurrence α) : Decidable (x.Mixed turn) :=
  inferInstanceAs (Decidable (∃ e ∈ x.next? turn, e.IsRest ∧ e.visit = .target e.target ∧
    ∃ key ∈ x.engine.flows.mixer.tracker.directory.unmappedKeys, x.mapping.Names key))

/-- The pass has no key before it, for the rest, that the mapping names. -/
def Apart (x : Passing α) : Prop :=
  ∀ e ∈ x.errands, e.IsRest → ∀ key ∈ e.visit.key?, ¬ x.mapping.Names key

/-- The errands are the visits of the router. -/
structure Faithful (x : Passing α) : Prop where
  visits : x.errands.map Errand.visit = x.engine.flows.router.visits
  targets : ∀ e ∈ x.errands, ∀ text, e.visit = .target text → text = e.target

/-- What becomes of the errands, one of which may be done. -/
inductive Turned [AudioSystem α] (x y : Passing α) : Option Errand → Prop where
  | stays (mapping : y.mapping = x.mapping) (errands : y.errands = x.errands) : Turned x y none
  | begins {texts : List String} (idle : x.errands = [])
      (errands : y.errands = texts.map .ofTarget) : Turned x y none
  | visits {e : Errand} {rest : List Errand} (move : Move) (o : RouteOutcome)
      (mapping : y.mapping = x.mapping) (errands : x.errands = e :: rest)
      (left : y.errands =
        e.follow (Pass.visit x.engine.flows.mixer move o e.visit).1 ++ rest) : Turned x y (some e)

end Passing

section Turns

variable {e e' : Engine α} {x y : Passing α} {turn : Occurrence α}

theorem Engine.visits_happen (hother : turn ≠ .step (.flow .router .proceed))
    (hturn : e.happen? turn = some e') : e'.flows.router.visits = e.flows.router.visits := by
  cases turn with
  | step choice =>
    cases step_of_step? hturn with
    | flow step =>
      cases step with
      | takes _ _ | outlasts _ _ _ | routes _ _ | routed _ => exact absurd rfl hother
      | retires _ hphase => simp [hphase, Router.visits]
      | _ => rfl
    | _ => rfl
  | shutdown =>
    obtain ⟨-, rfl⟩ := shutdown_of_happen? hturn
    rfl
  | _ =>
    cases hturn
    rfl

namespace Passing

theorem after_of_ne (hother : turn ≠ .step (.flow .router .proceed)) :
    x.after turn e = { x with engine := e } ∧ x.next? turn = none := by
  unfold after next?
  split
  · exact absurd rfl hother
  · exact ⟨rfl, rfl⟩

omit [AudioSystem α] in
theorem Faithful.errands_eq_nil (h : x.Faithful) (hvisits : x.engine.flows.router.visits = []) :
    x.errands = [] := List.map_eq_nil_iff.mp (h.visits.trans hvisits)

omit [AudioSystem α] in
theorem faithful_of_nil (hvisits : x.engine.flows.router.visits = []) (hnone : x.errands = []) :
    x.Faithful := ⟨by simp [hvisits, hnone], by simp [hnone]⟩

theorem turned_idle (h : x.Faithful) (hroute : x.route e = { x with engine := e })
    (hbefore : x.engine.flows.router.visits = []) (hafter : e.flows.router.visits = []) :
    Turned x (x.route e) x.errands.head? ∧ (x.route e).Faithful := by
  have hnone := h.errands_eq_nil hbefore
  rw [hroute, hnone]
  exact ⟨.stays rfl hnone.symm, faithful_of_nil hafter rfl⟩

theorem turned_pass (h : x.Faithful) {p : Pass} (hphase : x.engine.flows.router = .routing p)
    (hunfinished : p.isFinished = false)
    (hrouter : e.flows.router =
      .routing (p.step x.engine.flows.settings.value.mapping x.engine.flows.mixer).1) :
    Turned x (x.route e) x.errands.head? ∧ (x.route e).Faithful := by
  cases p with
  | finished o => cases hunfinished
  | begun move =>
    have hnone := h.errands_eq_nil (by rw [hphase]; rfl)
    rw [hnone]
    cases htargets : x.engine.flows.settings.value.mapping.get? move.slider with
    | none =>
      simp only [Pass.step, htargets] at hrouter
      have herrands : (x.route e).errands = [] := by simp [route, hphase, htargets]
      have hvisits : (x.route e).engine.flows.router.visits = [] := by
        simp [route, hphase, hrouter, Router.visits, Pass.visits]
      exact ⟨@Turned.begins _ _ _ _ [] hnone herrands, faithful_of_nil hvisits herrands⟩
    | some texts =>
      simp only [Pass.step, htargets] at hrouter
      refine ⟨.begins hnone (by simp [route, hphase, htargets]; rfl), ?_, ?_⟩
      · simp [route, hphase, htargets, hrouter, Router.visits, Pass.visits, Errand.ofTarget]
      · simp [route, hphase, htargets, Errand.ofTarget]
  | visiting move visits o =>
    have hvisits := h.visits
    rw [hphase] at hvisits
    cases hx : x.errands with
    | nil =>
      rw [hx] at hvisits
      rw [← hx]
      refine turned_idle h (by simp [route, hphase, hx]) ?_ ?_
      · rw [hphase]
        exact hvisits.symm
      · rw [hrouter, ← show [] = visits from hvisits]
        cases hwanted : o.wanted x.engine.flows.mixer.tracker.mode <;>
          simp only [Pass.step, hwanted] <;> rfl
    | cons errand rest =>
      rw [hx] at hvisits
      obtain rfl : errand.visit :: rest.map Errand.visit = visits := hvisits
      have hleft : (x.route e).errands = errand.follow
          (Pass.visit x.engine.flows.mixer move o errand.visit).1 ++ rest := by
        simp [route, hphase, hx]
      have hsame : (x.route e).engine = e := by simp [route, hphase, hx]
      refine ⟨.visits move o (by simp [route, hphase, hx]) hx hleft, ?_, fun e' he' => ?_⟩
      · rw [hleft, hsame, hrouter, List.map_append, Errand.visit_follow]
        rfl
      · rw [hleft] at he'
        rcases List.mem_append.mp he' with he' | he'
        · -- a target is never brought in by a visit
          obtain ⟨v, hv, rfl⟩ := List.mem_map.mp he'
          rintro text rfl
          exact absurd hv (Pass.target_not_mem_visit _ _ _ _ _)
        · exact h.targets e' (hx ▸ List.mem_cons_of_mem _ he')
  | raising kind o =>
    exact turned_idle h (by simp [route, hphase]) (by rw [hphase]; rfl) (by rw [hrouter]; rfl)
  | ringing o =>
    exact turned_idle h (by simp [route, hphase]) (by rw [hphase]; rfl) (by rw [hrouter]; rfl)

theorem turned_route (h : x.Faithful)
    (hturn : x.engine.step? (.flow .router .proceed) = some e) :
    Turned x (x.route e) x.errands.head? ∧ (x.route e).Faithful := by
  cases Engine.step_of_step? hturn with
  | flow step =>
    cases step with
    | routes hphase hunfinished => exact turned_pass h hphase hunfinished rfl
    | takes hphase _ | outlasts hphase _ _ =>
      exact turned_idle h (by simp [route, hphase]) (by rw [hphase]; rfl) rfl
    | routed hphase => exact turned_idle h (by simp [route, hphase]) (by rw [hphase]; rfl) rfl

omit [AudioSystem α] in
theorem next?_route (h : x.Faithful) :
    x.next? (.step (.flow .router .proceed)) = x.errands.head? := by
  simp only [next?]
  split
  · rfl
  · next hother =>
    rw [h.errands_eq_nil, List.head?_nil]
    cases hphase : x.engine.flows.router with
    | routing p =>
      cases p with
      | visiting move visits o => exact absurd hphase (hother move visits o)
      | _ => rfl
    | _ => rfl

theorem turned (h : x.Faithful) (hturn : x.turn? turn = some y) :
    Turned x y (x.next? turn) ∧ y.Faithful := by
  obtain ⟨e, he, rfl⟩ := Option.map_eq_some_iff.mp hturn
  by_cases hrouter : turn = .step (.flow .router .proceed)
  · subst hrouter
    rw [next?_route h]
    exact turned_route h he
  · obtain ⟨hafter, hnext⟩ := x.after_of_ne (e := e) hrouter
    rw [hafter, hnext]
    refine ⟨.stays rfl rfl, ⟨?_, h.targets⟩⟩
    exact h.visits.trans (Engine.visits_happen hrouter he).symm

/-- A pass can always go on. -/
theorem next?_of_stuck (hstuck : x.turn? turn = none) : x.next? turn = none := by
  have hnone : x.engine.happen? turn = none := Option.map_eq_none_iff.mp hstuck
  unfold next?
  split
  · split
    · next hphase =>
      simp [Engine.happen?, Engine.step?, Engine.stepFlow?, Flows.step?, hphase,
        Router.proceed?] at hnone
    · rfl
  · rfl

theorem happen?_of_turn? (hturn : x.turn? turn = some y) :
    x.engine.happen? turn = some y.engine := by
  obtain ⟨e, he, rfl⟩ := Option.map_eq_some_iff.mp hturn
  rw [he, Option.some.injEq]
  unfold after route
  repeat' split
  all_goals rfl

/-! ## Mixed look-ups -/

/-- What a visit makes way for has the key of the visit, unless that is a target. -/
theorem key_of_visit {m : Mixer α} (hsorted : m.tracker.directory.Sorted) {move : Move}
    {o : RouteOutcome} {v w : Visit} (hw : w ∈ (Pass.visit m move o v).1) {key : String}
    (hkey : key ∈ w.key?) : key ∈ v.key? ∨ ∃ text, v = .target text := by
  cases v with
  | target text => exact .inr ⟨text, rfl⟩
  | key k =>
    left
    cases hlookup : m.tracker.lookup k with
    | none => simp [Pass.visit, hlookup] at hw
    | some sessions =>
      simp only [Pass.visit, hlookup, List.mem_map] at hw
      obtain ⟨s, hs, rfl⟩ := hw
      cases hkey
      exact congrArg some (hsorted.key_of_lookup hlookup hs).symm
  | session s =>
    left
    cases hat : m.atVolume s move.value <;> simp [Pass.visit, hat] at hw
    subst hw
    exact hkey
  | adjust s => simp [Pass.visit] at hw

theorem visit_rest {m : Mixer α} {move : Move} {o : RouteOutcome} {text : String}
    (hrest : Target.ofText text = .special .allUnmapped) :
    (Pass.visit m move o (.target text)).1 = m.tracker.directory.unmappedKeys.map .key := by
  simp only [Pass.visit, Mixer.resolve, hrest]

variable (hsorted : x.engine.flows.mixer.tracker.directory.Sorted)

include hsorted

/-- Only a mixed look-up brings a key before the pass that is not apart. -/
theorem apart_turned (h : x.Faithful) (hturned : Turned x y (x.next? turn)) (hapart : x.Apart) :
    y.Apart ↔ ¬ x.Mixed turn := by
  cases hnext : x.next? turn with
  | none =>
    rw [hnext] at hturned
    refine iff_of_true ?_ (fun ⟨errand, hmem, _⟩ => by simp [hnext] at hmem)
    cases hturned with
    | stays hmapping herrands =>
      unfold Apart
      rw [hmapping, herrands]
      exact hapart
    | begins _ herrands =>
      intro errand hmem _ key hkey
      rw [herrands] at hmem
      obtain ⟨text, -, rfl⟩ := List.mem_map.mp hmem
      cases hkey
  | some errand =>
    rw [hnext] at hturned
    cases hturned with
    | @visits _ rest move o hmapping herrands hleft =>
      have hmem : errand ∈ x.errands := herrands ▸ List.mem_cons_self
      have hrest : ∀ e ∈ rest, e.IsRest → ∀ key ∈ e.visit.key?, ¬ x.mapping.Names key :=
        fun e he => hapart e (herrands ▸ List.mem_cons_of_mem _ he)
      unfold Apart
      rw [hmapping, hleft]
      constructor
      · -- the look-up brings the key before the pass
        rintro hy ⟨e, he, hisRest, hvisit, key, hkey, hnames⟩
        obtain rfl := Option.some.inj (hnext.symm.trans he)
        refine hy { errand with visit := .key key } (List.mem_append_left _ ?_) hisRest key rfl
          hnames
        rw [hvisit, visit_rest hisRest]
        exact List.mem_map.mpr ⟨.key key, List.mem_map_of_mem hkey, rfl⟩
      · intro hmixed e he hisRest key hkey hnames
        rcases List.mem_append.mp he with he | he
        · obtain ⟨w, hw, rfl⟩ := List.mem_map.mp he
          -- the key was before the pass already, or is looked up now
          obtain hsame | ⟨text, htext⟩ := key_of_visit hsorted hw hkey
          · exact hapart errand hmem hisRest key hsame hnames
          · obtain rfl := h.targets errand hmem text htext
            refine hmixed ⟨errand, hnext, hisRest, htext, key, ?_, hnames⟩
            rw [htext, visit_rest hisRest] at hw
            obtain ⟨k, hk, rfl⟩ := List.mem_map.mp hw
            cases hkey
            exact hk
        · exact hrest e he hisRest key hkey hnames

omit hsorted [AudioSystem α]

theorem Apart.lawful (h : x.Apart) (turn : Occurrence α) : x.Lawful turn := by
  intro errand hnext hrest s hs
  have hmem : errand ∈ x.errands := by
    unfold next? at hnext
    split at hnext
    · split at hnext
      · exact List.mem_of_mem_head? hnext
      · cases hnext
    · cases hnext
  refine h errand hmem hrest s.key ?_
  cases hvisit : errand.visit with
  | adjust other =>
    rw [hvisit] at hs
    rw [List.mem_singleton.mp hs]
    rfl
  | _ =>
    rw [hvisit] at hs
    cases hs

end Passing

end Turns

/-- The sync has sorted the sessions for the latest settings. -/
def Flows.Synced (f : Flows α) : Prop :=
  f.settings.news f.sync.seen = false ∧ ∀ s, f.sync.phase ≠ .classifying s

omit [AudioSystem α] in
theorem Flows.Classified.mappedKeys {f : Flows α} (h : f.Classified) (hsynced : f.Synced) :
    f.mixer.tracker.directory.mappedKeys = f.settings.value.mapping.keys := by
  obtain ⟨hnews, hphase⟩ := hsynced
  have hseen : f.settings.version = f.sync.seen := by simpa [Watched.news] using hnews
  have hlatest := h.latest hseen.symm
  cases hsync : f.sync.phase with
  | classifying s => exact absurd hsync (hphase s)
  | _ => simpa [hsync] using hlatest

namespace Passing

variable {x y : Passing α} {turn : Occurrence α} {port : Option String}

/-- What holds of the engine and of the errands, whatever happens. -/
structure Kept (port : Option String) (x : Passing α) : Prop where
  sorted : x.engine.flows.mixer.tracker.directory.Sorted
  configured : x.engine.Configured port
  faithful : x.Faithful

theorem kept_turn (h : x.Kept port) (hturn : x.turn? turn = some y) : y.Kept port where
  sorted := Engine.sorted_happen h.sorted (happen?_of_turn? hturn)
  configured := Engine.configured_happen h.configured (happen?_of_turn? hturn)
  faithful := (turned h.faithful hturn).2

omit [AudioSystem α] in
/-- A mixed look-up comes of settings published after the pass began, or for which the sessions are
    not yet sorted, or of a key that is not in lowercase. -/
theorem Mixed.cause (hmixed : x.Mixed turn) (h : x.Kept port) :
    x.mapping ≠ x.engine.flows.settings.value.mapping ∨ ¬ x.engine.flows.Synced ∨
      ∃ s ∈ x.engine.flows.mixer.tracker.directory.unmapped, lower s.key ≠ s.key := by
  obtain ⟨-, -, -, -, key, hkey, hnames⟩ := hmixed
  obtain ⟨s, hs, rfl⟩ := List.mem_map.mp (Directory.mem_distinct.mp hkey)
  by_contra! hnone
  obtain ⟨hmapping, hsynced, hlower⟩ := hnone
  -- in lowercase, what the mapping names is what the directory is classified for
  refine h.sorted.unnamed s hs ?_
  rw [h.configured.classified.mappedKeys hsynced, ← hmapping, ← hlower s hs]
  exact hnames

/-- In every run of a started engine, in any order of the steps: what a pass has before it for the
    rest is apart from what its mapping names exactly if no look-up was mixed, and then no session
    that the mapping names is adjusted for the rest.  A look-up is mixed only while the mapping of
    the pass, the settings in force and the classification differ, or for a key that is not in
    lowercase. -/
theorem apart_iff_not_mixed {e : Engine α} {settings : Settings} {audio : α} {focus : Focus}
    {board : Board} {options : EngineOptions}
    (hstart : Engine.start settings audio focus board options = .ok e) (watcher : Option Watcher)
    (turns : List (Occurrence α)) :
    let start : Passing α := { engine := { e with watcher } }
    (Run.Always turn? Apart start turns ↔
      Run.Along turn? (fun x turn => ¬ x.Mixed turn) start turns) ∧
    (Run.Along turn? (fun x turn => ¬ x.Mixed turn) start turns →
      Run.Along turn? Lawful start turns) ∧
    ∀ x, Run.after? turn? start turns = some x →
      x.errands.map Errand.visit = x.engine.flows.router.visits ∧
      ∀ turn, x.Mixed turn →
        x.mapping ≠ x.engine.flows.settings.value.mapping ∨ ¬ x.engine.flows.Synced ∨
          ∃ s ∈ x.engine.flows.mixer.tracker.directory.unmapped, lower s.key ≠ s.key := by
  intro start
  have hkept : start.Kept options.port := by
    have hsorted := Engine.sorted_start hstart
    have hconfigured := Engine.configured_start hstart watcher
    obtain ⟨tracker, pump, rfl, -⟩ := Engine.start_cases hstart
    exact ⟨hsorted, hconfigured, rfl, fun e he => absurd he List.not_mem_nil⟩
  have hiff : Run.Always turn? Apart start turns ↔
      Run.Along turn? (fun x turn => ¬ x.Mixed turn) start turns := by
    refine Run.always_iff_along (I := Kept options.port) (fun _ _ _ h hturn => kept_turn h hturn)
      (fun x turn y h hapart hturn => ?_) ?_ hkept ?_ turns
    · exact apart_turned h.sorted h.faithful (turned h.faithful hturn).1 hapart
    · rintro x turn hstuck ⟨errand, hnext, -⟩
      rw [next?_of_stuck hstuck] at hnext
      cases hnext
    · exact fun e he => absurd he List.not_mem_nil
  refine ⟨hiff, fun halong => ?_, fun x hx => ?_⟩
  · exact Run.along_of_always (fun _ turn h => h.lawful turn) (hiff.mpr halong)
  · have h := Run.invariant hkept (fun _ _ _ h hturn => kept_turn h hturn) hx
    exact ⟨h.faithful.visits, fun turn hmixed => hmixed.cause h⟩

/-- The sessions are sorted for the new settings before the move is taken up. -/
theorem apart_after_reload :
    let audio := (((MemoryAudio.new .polling).addSession "a" "firefox.exe" defaultVolume).2
      |>.addSession "b" "chrome.exe" defaultVolume).2
    -- the line 512
    let board : Board := (({} : Board).pushStream { waiting := [53, 49, 50, 13, 10] }).2
    let first : Settings := { sliders := [("0", .one "deej.unmapped")] }
    let second : Settings :=
      { sliders := [("0", .one "deej.unmapped"), ("1", .one "firefox.exe")] }
    let link (choice : LinkChoice) : Occurrence MemoryAudio := .step (.link choice)
    let fanOut : Occurrence MemoryAudio := .step (.fanOut .proceed)
    let sync : Occurrence MemoryAudio := .step (.flow .sync .proceed)
    let router : Occurrence MemoryAudio := .step (.flow .router .proceed)
    let turns : List (Occurrence MemoryAudio) :=
      [link .proceed, link .proceed, link .read, link .read, link .proceed, link .proceed,
        .apply second, fanOut, fanOut, sync, sync, router, router, router, router, router]
    ∃ e ∈ (Engine.start first audio {} board {}).toOption,
      let start : Passing MemoryAudio := { engine := { e with watcher := none } }
      Run.Along turn? Lawful start turns ∧ ∃ x ∈ Run.after? turn? start turns,
        x.Apart ∧ x.errands.map (fun errand => (errand.target, errand.visit.key?)) =
          [("deej.unmapped", some "chrome.exe")] := by
  intro audio board first second link fanOut sync router turns
  have hrun : ∃ e ∈ (Engine.start first audio {} board {}).toOption,
      let start : Passing MemoryAudio := { engine := { e with watcher := none } }
      Run.Along turn? (fun x turn => ¬ x.Mixed turn) start turns ∧
        ∃ x ∈ Run.after? turn? start turns,
          x.errands.map (fun errand => (errand.target, errand.visit.key?)) =
            [("deej.unmapped", some "chrome.exe")] := by
    decide +kernel
  obtain ⟨e, hstart, halong, x, hx, herrands⟩ := hrun
  obtain ⟨hiff, hlawful, -⟩ := apart_iff_not_mixed (eq_ok_of_mem_toOption hstart) none turns
  exact ⟨e, hstart, hlawful halong, x, hx, Run.always_last (hiff.mpr halong) hx, herrands⟩

/-- A pass begins under new settings before the sessions are sorted for them, and sets for the rest
    the volume of a session that they name.  So does one without any reload, if the session's name
    has capitals. -/
theorem mixes :
    let audio (key : String) := ((MemoryAudio.new .polling).addSession "a" key defaultVolume).2
    -- the line 512
    let board : Board := (({} : Board).pushStream { waiting := [53, 49, 50, 13, 10] }).2
    let rest : Settings := { sliders := [("0", .one "deej.unmapped")] }
    let naming (key : String) : Settings :=
      { sliders := [("0", .one "deej.unmapped"), ("1", .one key)] }
    let link (choice : LinkChoice) : Occurrence MemoryAudio := .step (.link choice)
    let fanOut : Occurrence MemoryAudio := .step (.fanOut .proceed)
    let router : Occurrence MemoryAudio := .step (.flow .router .proceed)
    let arrives : List (Occurrence MemoryAudio) :=
      [link .proceed, link .proceed, link .read, link .read, link .proceed, link .proceed]
    let routed : List (Occurrence MemoryAudio) := List.replicate 6 router
    (∃ e ∈ (Engine.start rest (audio "firefox.exe") {} board {}).toOption,
      let start : Passing MemoryAudio := { engine := { e with watcher := none } }
      let turns := arrives ++ [.apply (naming "firefox.exe"), fanOut, fanOut] ++ routed
      (Run.after? turn? start turns).isSome = true ∧ ¬ Run.Along turn? Lawful start turns) ∧
    ∃ e ∈ (Engine.start (naming "USB Audio") (audio "USB Audio") {} board {}).toOption,
      let start : Passing MemoryAudio := { engine := { e with watcher := none } }
      let turns := arrives ++ routed
      (Run.after? turn? start turns).isSome = true ∧ ¬ Run.Along turn? Lawful start turns := by
  decide +kernel

end Passing

end SliderMixer
