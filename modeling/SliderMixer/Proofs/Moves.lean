import SliderMixer.Routing.Pass

/-! # What a move can change

A move asks for the foreground windows, sets volumes of sessions that the directory
holds, and may ask for a refresh.

* `Mixer.route_induction`: what all of this keeps, a move keeps.
* `Pass.visits_induction`: what holds of visits if it holds of what the first makes way for, holds of
  all visits.
-/

namespace SliderMixer

theorem Directory.mem_held_of_lookup {d : Directory} {key : String} {ss : List Session}
    (h : d.lookup key = some ss) {s : Session} (hs : s ∈ ss) : s ∈ d.held := by
  obtain ⟨front, back, hsplit, -⟩ := List.lookup_eq_some_iff.mp h
  simp only [held, hsplit, List.mem_flatMap]
  exact ⟨(key, ss), by simp, hs⟩

namespace Mixer

variable {α : Type} {P : Mixer α → Prop}

@[simp] theorem tracker_resolve (m : Mixer α) (target : String) :
    (m.resolve target).2.tracker = m.tracker := by
  unfold resolve
  split <;> rfl

theorem resolve_keeps (focus : ∀ m focus, P m → P { m with focus }) {m : Mixer α} (h : P m)
    (target : String) : P (m.resolve target).2 := by
  unfold resolve
  split
  · exact h
  · exact focus m _ h
  · exact focus m _ h
  · exact h
  · exact h

variable [AudioSystem α]

theorem directory_visitSession (volume : Binary32) (p : RouteOutcome × Mixer α) (s : Session) :
    (visitSession volume p s).2.tracker.directory = p.2.tracker.directory := by
  unfold visitSession
  split <;> rfl

theorem foldl_visitSession_keeps
    (adjust : ∀ m o s volume, P m → s ∈ m.tracker.directory.held → P (m.adjust o s volume).2)
    (volume : Binary32) (ss : List Session) (p : RouteOutcome × Mixer α) (h : P p.2)
    (held : ∀ s ∈ ss, s ∈ p.2.tracker.directory.held) :
    P (ss.foldl (visitSession volume) p).2 := by
  induction ss generalizing p with
  | nil => exact h
  | cons s rest ih =>
    apply ih
    · unfold visitSession
      split
      · exact h
      · exact adjust p.2 p.1 s volume h (held s List.mem_cons_self)
    · -- the sessions were copied before, and nobody removes them meanwhile
      intro other hother
      rw [directory_visitSession]
      exact held other (List.mem_cons_of_mem s hother)

theorem visitKey_keeps
    (adjust : ∀ m o s volume, P m → s ∈ m.tracker.directory.held → P (m.adjust o s volume).2)
    (volume : Binary32) (p : RouteOutcome × Mixer α) (h : P p.2) (key : String) :
    P (visitKey volume p key).2 := by
  unfold visitKey
  split
  · exact h
  · next sessions hlookup =>
    exact foldl_visitSession_keeps adjust volume sessions _ h
      fun s hs => Directory.mem_held_of_lookup hlookup hs

theorem foldl_visitKey_keeps
    (adjust : ∀ m o s volume, P m → s ∈ m.tracker.directory.held → P (m.adjust o s volume).2)
    (volume : Binary32) (keys : List String) (p : RouteOutcome × Mixer α) (h : P p.2) :
    P (keys.foldl (visitKey volume) p).2 := by
  induction keys generalizing p with
  | nil => exact h
  | cons key rest ih => exact ih _ (visitKey_keeps adjust volume p h key)

/-- What the volume changes of held sessions keep, and all changes of the focus and the
    signal, a move keeps. -/
theorem route_induction (focus : ∀ m focus, P m → P { m with focus })
    (signal : ∀ m signal, P m → P { m with signal })
    (adjust : ∀ m o s volume, P m → s ∈ m.tracker.directory.held → P (m.adjust o s volume).2)
    (m : Mixer α) (mapping : SliderMapping) (move : Move) (h : P m) :
    P (m.route mapping move).2 := by
  have htargets (targets : List String) (p : RouteOutcome × Mixer α) (hp : P p.2) :
      P (targets.foldl (visitTarget move.value) p).2 := by
    induction targets generalizing p with
    | nil => exact hp
    | cons target rest ih =>
      exact ih _ (foldl_visitKey_keeps adjust move.value _ _ (resolve_keeps focus hp target))
  unfold route
  split
  · exact h
  · next targets _ =>
    have hrouted := htargets targets ({ mapped := true }, m) h
    simp only
    split
    · exact hrouted
    · exact signal _ _ hrouted

end Mixer

namespace Pass

variable {α : Type} [AudioSystem α]

/-- A target makes way for keys, a key for sessions, and a session for its adjustment at most: so a
    pass comes to the end of its visits. -/
theorem visits_induction {P : List Visit → Prop} (nil : P [])
    (visit : ∀ v rest, (∀ (m : Mixer α) move o, P ((Pass.visit m move o v).1 ++ rest)) →
      P (v :: rest)) (visits : List Visit) : P visits := by
  have happend {front rest : List Visit} (h : ∀ v ∈ front, ∀ rest, P rest → P (v :: rest))
      (hrest : P rest) : P (front ++ rest) := by
    induction front with
    | nil => exact hrest
    | cons v front ih =>
      exact h v List.mem_cons_self _ (ih fun w hw => h w (List.mem_cons_of_mem v hw))
  have hadjust (s : Session) (rest : List Visit) (hrest : P rest) : P (.adjust s :: rest) :=
    visit _ rest fun _ _ _ => hrest
  have hsession (s : Session) (rest : List Visit) (hrest : P rest) : P (.session s :: rest) := by
    refine visit _ rest fun m move o => ?_
    cases hat : m.atVolume s move.value <;> simp only [Pass.visit, hat]
    · exact hadjust s rest hrest
    · exact hrest
  have hkey (key : String) (rest : List Visit) (hrest : P rest) : P (.key key :: rest) := by
    refine visit _ rest fun m move o => ?_
    cases hlookup : m.tracker.lookup key <;> simp only [Pass.visit, hlookup]
    · exact hrest
    · refine happend (fun v hv => ?_) hrest
      obtain ⟨s, -, rfl⟩ := List.mem_map.mp hv
      exact hsession s
  have htarget (text : String) (rest : List Visit) (hrest : P rest) :
      P (.target text :: rest) := by
    refine visit _ rest fun m move o => happend (fun v hv => ?_) hrest
    obtain ⟨key, -, rfl⟩ := List.mem_map.mp hv
    exact hkey key
  induction visits with
  | nil => exact nil
  | cons v rest ih =>
    cases v with
    | target text => exact htarget text rest ih
    | key key => exact hkey key rest ih
    | session s => exact hsession s rest ih
    | adjust s => exact hadjust s rest ih

end Pass

end SliderMixer
