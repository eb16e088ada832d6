import SliderMixer.Proofs.FlatDirectory
import SliderMixer.Proofs.Moves

/-! # The sessions a move reaches

The targets of a slider stand for keys, and a move reaches the sessions that the directory has
under these keys.

* `Mixer.standsFor`: the sessions of one target, `Mixer.reached`: those of all targets, in the
  order in which a pass comes to them.
* `Focus.answer_ask`: asking for the foreground window changes no later answer.
* `setVolumes`: the volume changes made for sessions one after the other.
* `Mixer.route_of_get?`: a move makes these calls for the sessions it reaches, and nothing else.
-/

namespace SliderMixer

/-! ## Foreground windows -/

namespace Focus

/-- What is answered to the question at a time. -/
def answer (f : Focus) (now : Nat) (fullscreen : Bool) : FocusAnswer := (f.ask now fullscreen).1

theorem answer_eq (f : Focus) (now : Nat) (fullscreen : Bool) :
    f.answer now fullscreen =
      ((f.cache.bind fun c => c.recent? now fullscreen).map .ok).getD (f.answers fullscreen) := by
  cases hcache : f.cache with
  | none => simp [answer, ask, askUntil, query, hcache]
  | some c =>
    cases hrecent : c.recent? now fullscreen <;>
      simp [answer, ask, askUntil, query, hcache, hrecent]

theorem answers_ask (f : Focus) (now : Nat) (asked : Bool) :
    (f.ask now asked).2.answers = f.answers := by
  unfold ask askUntil
  split
  · rfl
  · split <;> rfl

/-- A question to which no recent answer is remembered leaves one behind. -/
theorem cache_ask (f : Focus) (now : Nat) (asked : Bool) :
    (f.ask now asked).2.cache = f.cache.map fun c =>
      if (c.recent? now asked).isSome then c else c.record now asked (f.answers asked) := by
  cases hcache : f.cache with
  | none => simp [ask, askUntil, query, hcache]
  | some c =>
    cases hrecent : c.recent? now asked <;> simp [ask, askUntil, query, hcache, hrecent]

end Focus

/-- An answer is remembered for its own question only, and a failure for none. -/
theorem FocusCache.recent?_record (c : FocusCache) (now : Nat) (asked fullscreen : Bool)
    (given : FocusAnswer) :
    (c.record now asked given).recent? now fullscreen =
      match given with
      | .ok names =>
        if fullscreen = asked then if 0 < c.cooldown then some names else none
        else c.recent? now fullscreen
      | .error _ => c.recent? now fullscreen := by
  cases given with
  | error e => rfl
  | ok names => cases asked <;> cases fullscreen <;> simp [record, setSlot, recent?, slot]

/-- What was asked before changes no answer at the same time. -/
theorem Focus.answer_ask (f : Focus) (now : Nat) (asked fullscreen : Bool) :
    (f.ask now asked).2.answer now fullscreen = f.answer now fullscreen := by
  rw [answer_eq, answer_eq, answers_ask, cache_ask]
  cases f.cache with
  | none => rfl
  | some c =>
    cases hrecent : c.recent? now asked with
    | some names => simp [hrecent]
    | none =>
      simp only [Option.map_some, hrecent, Option.isSome_none, Bool.false_eq_true, if_false,
        Option.bind_some, FocusCache.recent?_record]
      cases hgiven : f.answers asked with
      | error e => rfl
      | ok names =>
        by_cases hsame : fullscreen = asked
        · -- the answer just recorded is the one the desktop still gives
          subst hsame
          by_cases hcooldown : 0 < c.cooldown <;> simp [hcooldown, hgiven, hrecent]
        · simp [hsame]

/-! ## Reached sessions -/

namespace Mixer

variable {α : Type}

/-- The sessions under keys, in order. -/
def under (m : Mixer α) (keys : List String) : List Session :=
  keys.flatMap fun key => (m.tracker.lookup key).getD []

/-- The sessions of a target. -/
def standsFor (m : Mixer α) (target : String) : List Session := m.under (m.resolve target).1

/-- The sessions of all targets, in the order in which a pass comes to them. -/
def reached (m : Mixer α) (targets : List String) : List Session := targets.flatMap m.standsFor

/-- The keys of all targets. -/
def keysOf (m : Mixer α) (targets : List String) : List String :=
  targets.flatMap fun target => (m.resolve target).1

theorem reached_eq_under (m : Mixer α) (targets : List String) :
    m.reached targets = m.under (m.keysOf targets) := by
  rw [under, keysOf, List.flatMap_assoc]
  rfl

theorem mem_under {m : Mixer α} {f : FlatDirectory} (h : m.tracker.directory.Lists f)
    {keys : List String} {s : Session} : s ∈ m.under keys ↔ s ∈ f.held ∧ s.key ∈ keys := by
  simp only [under, Tracker.lookup, h.lookup, Directory.getD_nonempty?, List.mem_flatMap,
    FlatDirectory.mem_withKey]
  constructor
  · rintro ⟨key, hkey, hs, rfl⟩
    exact ⟨hs, hkey⟩
  · rintro ⟨hs, hkey⟩
    exact ⟨s.key, hkey, hs, rfl⟩

/-- No key has an empty list, so that a session is found exactly if one is reached. -/
theorem found_iff {m : Mixer α} {f : FlatDirectory} (h : m.tracker.directory.Lists f)
    (targets : List String) :
    ((m.keysOf targets).any fun key => (m.tracker.lookup key).isSome) = true ↔
      m.reached targets ≠ [] := by
  have hkey (key : String) : (m.tracker.lookup key).isSome = true ↔
      (m.tracker.lookup key).getD [] ≠ [] := by
    rw [Tracker.lookup, h.lookup, Directory.getD_nonempty?]
    by_cases hempty : f.withKey key = [] <;> simp [Directory.nonempty?, hempty]
  simp only [reached_eq_under, under, List.any_eq_true, hkey, ne_eq, List.flatMap_eq_nil_iff,
    not_forall, exists_prop]

/-- The same directory at the same time, and the same answers about the foreground. -/
structure Agrees (m m' : Mixer α) : Prop where
  directory : m'.tracker.directory = m.tracker.directory
  mode : m'.tracker.mode = m.tracker.mode
  now : m'.tracker.now = m.tracker.now
  answer : m'.focus.answer m'.tracker.now = m.focus.answer m.tracker.now

theorem Agrees.trans {m m' m'' : Mixer α} (h : m.Agrees m') (h' : m'.Agrees m'') : m.Agrees m'' :=
  ⟨h'.directory.trans h.directory, h'.mode.trans h.mode, h'.now.trans h.now,
    h'.answer.trans h.answer⟩

theorem foregroundKeys_eq (m : Mixer α) (fullscreen : Bool) :
    (m.foregroundKeys fullscreen).1 =
      match m.focus.answer m.tracker.now fullscreen with
      | .ok names => Directory.distinct (names.map lower)
      | .error _ => [] := rfl

theorem Agrees.resolve {m m' : Mixer α} (h : m.Agrees m') (target : String) :
    (m'.resolve target).1 = (m.resolve target).1 := by
  unfold Mixer.resolve
  split
  · rfl
  · rw [foregroundKeys_eq, foregroundKeys_eq, h.answer]
  · rw [foregroundKeys_eq, foregroundKeys_eq, h.answer]
  · rw [h.directory]
  · rfl

theorem Agrees.under {m m' : Mixer α} (h : m.Agrees m') (keys : List String) :
    m'.under keys = m.under keys := by
  simp only [Mixer.under, Tracker.lookup, h.directory]

theorem Agrees.keysOf {m m' : Mixer α} (h : m.Agrees m') (targets : List String) :
    m'.keysOf targets = m.keysOf targets := by
  simp only [Mixer.keysOf, h.resolve]

theorem Agrees.reached {m m' : Mixer α} (h : m.Agrees m') (targets : List String) :
    m'.reached targets = m.reached targets := by
  rw [reached_eq_under, reached_eq_under, h.keysOf, h.under]

/-- A target is looked up without any change but that of the focus. -/
theorem resolve_snd (m : Mixer α) (target : String) :
    ∃ focus, (m.resolve target).2 = { m with focus } ∧
      focus.answer m.tracker.now = m.focus.answer m.tracker.now := by
  unfold resolve
  split
  · exact ⟨m.focus, rfl, rfl⟩
  · exact ⟨_, rfl, funext (m.focus.answer_ask m.tracker.now false)⟩
  · exact ⟨_, rfl, funext (m.focus.answer_ask m.tracker.now true)⟩
  · exact ⟨m.focus, rfl, rfl⟩
  · exact ⟨m.focus, rfl, rfl⟩

theorem agrees_withAudio (m : Mixer α) (audio : α) : m.Agrees (m.withAudio audio) :=
  ⟨rfl, rfl, rfl, rfl⟩

theorem agrees_focus {m : Mixer α} {focus : Focus}
    (h : focus.answer m.tracker.now = m.focus.answer m.tracker.now) : m.Agrees { m with focus } :=
  ⟨rfl, rfl, rfl, h⟩

end Mixer

/-! ## Volume changes -/

variable {α : Type} [AudioSystem α]

/-- Brings sessions to a volume, one after the other: the volume changes, with what they come
    to, and the audio system after them.  A session at the volume is left alone. -/
def setVolumes (volume : Binary32) :
    α → List Session → List (Session × Except SessionError Unit) × α
  | a, [] => ([], a)
  | a, s :: rest =>
    if closeVolumes (AudioSystem.volume a s) volume then setVolumes volume a rest
    else
      let (r, a) := AudioSystem.setVolume a s volume
      let (calls, a) := setVolumes volume a rest
      ((s, r) :: calls, a)

theorem setVolumes_append (volume : Binary32) (a : α) (ss ts : List Session) :
    setVolumes volume a (ss ++ ts) =
      ((setVolumes volume a ss).1 ++ (setVolumes volume (setVolumes volume a ss).2 ts).1,
        (setVolumes volume (setVolumes volume a ss).2 ts).2) := by
  induction ss generalizing a with
  | nil => rfl
  | cons s rest ih =>
    by_cases hclose : closeVolumes (AudioSystem.volume a s) volume <;>
      simp [setVolumes, hclose, ih]

/-- The call succeeded. -/
def succeeded (call : Session × Except SessionError Unit) : Bool :=
  match call.2 with
  | .ok _ => true
  | .error _ => false

/-- What is noted of calls, and of whether sessions were found. -/
def RouteOutcome.after (o : RouteOutcome) (calls : List (Session × Except SessionError Unit))
    (found : Bool) : RouteOutcome :=
  { o with
    found := o.found || found
    adjusted := o.adjusted + calls.countP succeeded
    failed := o.failed || calls.any fun call => !succeeded call }

theorem RouteOutcome.after_nil (o : RouteOutcome) : o.after [] false = o := by
  simp [after]

theorem RouteOutcome.after_after (o : RouteOutcome)
    (calls later : List (Session × Except SessionError Unit)) (found foundLater : Bool) :
    (o.after calls found).after later foundLater = o.after (calls ++ later) (found || foundLater) := by
  simp [after, Nat.add_assoc, Bool.or_assoc]

namespace Mixer

theorem foldl_visitSession (volume : Binary32) (ss : List Session) (o : RouteOutcome) (m : Mixer α) :
    ss.foldl (visitSession volume) (o, m) =
      (o.after (setVolumes volume m.tracker.audio ss).1 false,
        m.withAudio (setVolumes volume m.tracker.audio ss).2) := by
  induction ss generalizing o m with
  | nil => simp [setVolumes, withAudio, RouteOutcome.after_nil]
  | cons s rest ih =>
    rw [List.foldl_cons]
    cases hclose : closeVolumes (AudioSystem.volume m.tracker.audio s) volume with
    | true =>
      have hleft : visitSession volume (o, m) s = (o, m) := by
        simp [visitSession, atVolume, hclose]
      rw [hleft, ih]
      simp [setVolumes, hclose]
    | false =>
      let r := AudioSystem.setVolume m.tracker.audio s volume
      have hset : visitSession volume (o, m) s = (o.after [(s, r.1)] false, m.withAudio r.2) := by
        cases hr : (AudioSystem.setVolume m.tracker.audio s volume).1 <;>
          simp [visitSession, atVolume, hclose, adjust, RouteOutcome.after, succeeded, hr, r]
      rw [hset, ih, RouteOutcome.after_after]
      simp [setVolumes, hclose, withAudio, r]

theorem foldl_visitKey (volume : Binary32) (keys : List String) (o : RouteOutcome) (m : Mixer α) :
    keys.foldl (visitKey volume) (o, m) =
      (o.after (setVolumes volume m.tracker.audio (m.under keys)).1
          (keys.any fun key => (m.tracker.lookup key).isSome),
        m.withAudio (setVolumes volume m.tracker.audio (m.under keys)).2) := by
  induction keys generalizing o m with
  | nil => simp [under, setVolumes, withAudio, RouteOutcome.after_nil]
  | cons key rest ih =>
    have hkey : visitKey volume (o, m) key =
        (o.after (setVolumes volume m.tracker.audio (m.under [key])).1 (m.tracker.lookup key).isSome,
          m.withAudio (setVolumes volume m.tracker.audio (m.under [key])).2) := by
      cases hlookup : m.tracker.lookup key with
      | none => simp [visitKey, under, hlookup, setVolumes, withAudio, RouteOutcome.after_nil]
      | some sessions =>
        have hunder : m.under [key] = sessions := by simp [under, hlookup]
        simp only [visitKey, hlookup, foldl_visitSession, hunder]
        simp [RouteOutcome.after]
    have hunder : m.under (key :: rest) = m.under [key] ++ m.under rest := by simp [under]
    rw [List.foldl_cons, hkey, ih, hunder, setVolumes_append, RouteOutcome.after_after]
    rfl

/-- A pass sets the volumes of the sessions its targets stand for. -/
theorem foldl_visitTarget (volume : Binary32) (targets : List String) (o : RouteOutcome)
    (m : Mixer α) :
    ∃ focus, focus.answer m.tracker.now = m.focus.answer m.tracker.now ∧
      targets.foldl (visitTarget volume) (o, m) =
        (o.after (setVolumes volume m.tracker.audio (m.reached targets)).1
            ((m.keysOf targets).any fun key => (m.tracker.lookup key).isSome),
          { m with focus }.withAudio (setVolumes volume m.tracker.audio (m.reached targets)).2) := by
  induction targets generalizing o m with
  | nil => exact ⟨m.focus, rfl, by simp [reached, keysOf, setVolumes, withAudio, RouteOutcome.after_nil]⟩
  | cons target rest ih =>
    obtain ⟨focus, hresolve, hfocus⟩ := m.resolve_snd target
    have hlooked : m.Agrees { m with focus } := agrees_focus hfocus
    have hvisit : visitTarget volume (o, m) target =
        (o.after (setVolumes volume m.tracker.audio (m.standsFor target)).1
            ((m.resolve target).1.any fun key => (m.tracker.lookup key).isSome),
          { m with focus }.withAudio (setVolumes volume m.tracker.audio (m.standsFor target)).2) := by
      simp only [visitTarget, hresolve, foldl_visitKey, hlooked.under]
      rfl
    have hreached : m.reached (target :: rest) = m.standsFor target ++ m.reached rest := rfl
    have hkeys : m.keysOf (target :: rest) = (m.resolve target).1 ++ m.keysOf rest := rfl
    rw [List.foldl_cons, hvisit, hreached, hkeys, setVolumes_append, List.any_append,
      ← RouteOutcome.after_after]
    generalize setVolumes volume m.tracker.audio (m.standsFor target) = brought
    -- the rest of the targets stand for the same sessions as before
    have hagrees : m.Agrees ({ m with focus }.withAudio brought.2) :=
      hlooked.trans (agrees_withAudio _ brought.2)
    obtain ⟨later, hlater, hrest⟩ := ih
      (o.after brought.1 ((m.resolve target).1.any fun key => (m.tracker.lookup key).isSome))
      ({ m with focus }.withAudio brought.2)
    refine ⟨later, hlater.trans hagrees.answer, ?_⟩
    rw [hrest, hagrees.reached, hagrees.keysOf]
    rfl

/-- A slider without an entry moves nothing. -/
theorem route_of_get?_none (m : Mixer α) {mapping : SliderMapping} {move : Move}
    (h : mapping.get? move.slider = none) : m.route mapping move = ({}, m) := by
  simp only [route, h]

/-- A move sets the volumes of the sessions it reaches, and requests the refresh its outcome
    asks for.  Nothing else changes but what is remembered of the foreground. -/
theorem route_of_get? (m : Mixer α) {mapping : SliderMapping} {move : Move} {targets : List String}
    (h : mapping.get? move.slider = some targets) :
    let brought := setVolumes move.value m.tracker.audio (m.reached targets)
    let found := (m.keysOf targets).any fun key => (m.tracker.lookup key).isSome
    let o := RouteOutcome.after { mapped := true } brought.1 found
    let refresh := o.wanted m.tracker.mode
    ∃ focus, focus.answer m.tracker.now = m.focus.answer m.tracker.now ∧
      m.route mapping move =
        ({ o with refresh },
          { tracker := { m.tracker with audio := brought.2 }
            focus
            signal := (refresh.map m.signal.request).getD m.signal }) := by
  intro brought found o refresh
  obtain ⟨focus, hfocus, hpass⟩ := foldl_visitTarget move.value targets { mapped := true } m
  refine ⟨focus, hfocus, ?_⟩
  have hwanted : o.wanted m.tracker.mode = refresh := rfl
  have hpass : targets.foldl (visitTarget move.value) ({ mapped := true }, m) =
      (o, { m with focus }.withAudio brought.2) := hpass
  have hmode : ({ m with focus }.withAudio brought.2).tracker.mode = m.tracker.mode := rfl
  simp only [route, h, hpass, hmode, hwanted]
  cases refresh with
  | none => rfl
  | some kind => rfl

end Mixer

end SliderMixer
