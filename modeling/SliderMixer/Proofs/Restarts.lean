import SliderMixer.Proofs.Callers
import SliderMixer.Proofs.EngineSteps
import SliderMixer.Proofs.InForce
import SliderMixer.Proofs.Reloads

/-! # Reloading and restarting

New settings reach the flows, the directory and the link through three watched values, each read
by a part of its own.  Once every part has looked at the latest value, all is as if the engine had
been started with the latest settings.

* `Watched.UpTo`: what holds of the latest value, as far as a reader has come.
* `Link.Adopted`, `Flows.Classified`, `Engine.FannedOut`: what each of the three readers has done.
* `Engine.SetUpLike`: the settings in force and the sessions left over are those of another engine.
* `Engine.reload_eq_restart`: in every order of the steps.
-/

namespace SliderMixer

/-! ## Readers of a watched value -/

/-- `P` holds of the latest value, unless a reader that has seen `seen` values has a newer one to
    look at. -/
structure Watched.UpTo {β : Type} (w : Watched β) (seen : Nat) (P : β → Prop) : Prop where
  seen_le : seen ≤ w.version
  latest : seen = w.version → P w.value

namespace Watched.UpTo

variable {β : Type} {w : Watched β} {seen : Nat} {P Q : β → Prop}

theorem imp (h : w.UpTo seen P) (himp : P w.value → Q w.value) : w.UpTo seen Q :=
  ⟨h.seen_le, fun hseen => himp (h.latest hseen)⟩

/-- The reader has a new value to look at. -/
theorem send (h : w.UpTo seen P) (value : β) : (w.send value).UpTo seen Q where
  seen_le := Nat.le_succ_of_le h.seen_le
  latest hseen := absurd hseen (Nat.ne_of_lt (Nat.lt_succ_of_le h.seen_le))

theorem close (h : w.UpTo seen P) : w.close.UpTo seen P := ⟨h.seen_le, h.latest⟩

theorem take (h : P w.value) : w.UpTo w.version P := ⟨Nat.le_refl _, fun _ => h⟩

end Watched.UpTo

/-! ## The link -/

namespace Link

/-- The link has taken over the latest settings, as far as it has looked at them. -/
def Adopted (l : Link) : Prop :=
  l.settings.UpTo l.seen fun s =>
    l.decoder.settings = s.decoder ∧ ∀ c ∈ l.connection?, c = s.connection

variable {l l' : Link} {choice : LinkChoice}

theorem Adopted.keep (h : l.Adopted) (hsettings : l'.settings = l.settings)
    (hseen : l'.seen = l.seen) (hdecoder : l'.decoder.settings = l.decoder.settings)
    (hconnection : ∀ c ∈ l'.connection?, c ∈ l.connection?) : l'.Adopted := by
  unfold Adopted
  rw [hsettings, hseen, hdecoder]
  exact h.imp fun hlatest => ⟨hlatest.1, fun c hc => hlatest.2 c (hconnection c hc)⟩

theorem adopted_step (h : l.Adopted) (hstep : l.Step choice l') : l'.Adopted := by
  cases hstep with
  | observes _ => exact .take ⟨rfl, fun c hc => (Option.some.inj hc).symm⟩
  | adopts hphase _ hsame =>
    refine .take ⟨rfl, fun c hc => ?_⟩
    simp only [connection?, hphase, Option.mem_def, Option.some.injEq] at hc
    exact hc.symm.trans hsame.symm
  | reconnects _ _ _ => exact .take ⟨rfl, fun c hc => by cases hc⟩
  | decodes hphase _ _ =>
    refine h.keep rfl rfl (Decoder.settings_decode _ _) fun c hc => ?_
    simpa [connection?, hphase] using hc
  | opens hphase _ | delivered hphase | served hphase _ | offers hphase _ _ =>
    refine h.keep rfl rfl rfl fun c hc => ?_
    simpa [connection?, hphase] using hc
  | fails _ _ | resumes _ _ | loses _ _ _ | stops _ _ | leaves _ _ =>
    exact h.keep rfl rfl rfl fun c hc => by cases hc
  | settles _ _ _ _ | reads _ _ => exact h.keep rfl rfl rfl fun c hc => hc

end Link

/-! ## The directory -/

variable {α : Type} [AudioSystem α]

/-- The caller sorts the sessions anew. -/
def Call.classifies : Call → Bool
  | classify _ => true
  | insert _ | erase _ | beginRefresh _ | enumerate | replace _ | takeAll | giveBack _ _
  | countSessions _ | publishCount _ _ | claimClosing | closeAudio | finished _ => false

theorem Directory.mappedKeys_foldl_insert (d : Directory) (ss : List Session) :
    (ss.foldl insert d).mappedKeys = d.mappedKeys := by
  induction ss generalizing d with
  | nil => rfl
  | cons s rest ih => exact ih (d.insert s)

namespace Call

variable (c : Call) (t : Tracker α)

/-- No caller comes to do so. -/
theorem classifies_step : (c.step t).1.classifies = false := by
  have hstep := c.stepped t
  generalize c.step t = next at hstep ⊢
  cases hstep <;> rfl

/-- Other callers leave the keys that sliders name alone. -/
theorem mappedKeys_step (h : c.classifies = false) :
    (c.step t).2.directory.mappedKeys = t.directory.mappedKeys := by
  have hstep := c.stepped t
  generalize c.step t = next at hstep ⊢
  cases hstep with
  | classifies _ => cases h
  | begins free =>
    obtain rfl := Directory.beginRefresh_eq_some free
    rfl
  | replaces fresh => exact Directory.mappedKeys_foldl_insert _ fresh
  | _ => rfl

end Call

/-- The directory knows the latest settings of the flows, as far as the sync has come. -/
def Flows.Classified (f : Flows α) : Prop :=
  f.settings.UpTo f.sync.seen fun s =>
    match f.sync.phase with
    | .classifying found => found = s
    | .waiting | .raising | .ringing | .ended =>
      f.mixer.tracker.directory.mappedKeys = s.mapping.keys

namespace Flows

variable {f f' : Flows α} {moves moves' : Mailbox Move} {name : FlowName} {choice : Choice}

omit [AudioSystem α] in
theorem Classified.keep (h : f.Classified) (hsettings : f'.settings = f.settings)
    (hsync : f'.sync = f.sync) (hkeys : f'.mixer.tracker.directory.mappedKeys =
      f.mixer.tracker.directory.mappedKeys) : f'.Classified := by
  unfold Classified
  rw [hsettings, hsync, hkeys]
  exact h

theorem classified_step (h : f.Classified)
    (hcallers : ∀ c ∈ f.callers, c.classifies = false)
    (hstep : f.Step moves name choice f' moves') : f'.Classified := by
  cases hstep with
  | handles hphase _ =>
    refine h.keep rfl rfl (Call.mappedKeys_step _ _ (hcallers _ ?_))
    simp [callers, EventPump.callers, hphase]
  | refreshes hphase _ =>
    refine h.keep rfl rfl (Call.mappedKeys_step _ _ (hcallers _ ?_))
    simp [callers, RefreshWorker.callers, hphase]
  | @routes p _ _ => exact h.keep rfl rfl (by rw [p.tracker_step])
  | adopts _ _ => exact .take rfl
  | unwatches _ hphase | concludes hphase _ _ | raises hphase | rings hphase =>
    exact h.imp fun hlatest => by simpa [hphase] using hlatest
  | classifies hphase =>
    refine h.imp fun hlatest => ?_
    simp only [hphase] at hlatest
    subst hlatest
    cases hmode : f.mixer.tracker.mode <;> rfl
  | _ => exact h.keep rfl rfl rfl

end Flows

/-! ## The engine -/

namespace Engine

omit [AudioSystem α] in
/-- The flows and the link have the latest settings, as far as the fan-out has come. -/
def FannedOut (e : Engine α) : Prop :=
  e.settings.UpTo e.fanOut.seen fun s =>
    match e.fanOut.phase with
    | .routing found => found = s
    | .linking found => found = s ∧ e.flows.settings.value = s.routing
    | .waiting | .ended =>
      e.flows.settings.value = s.routing ∧ e.link.settings.value = s.linkAt e.port

structure Configured (port : Option String) (e : Engine α) : Prop where
  port : e.port = port
  fannedOut : e.FannedOut
  classified : e.flows.Classified
  adopted : e.link.Adopted
  callers : ∀ c ∈ e.callers, c.classifies = false

variable {e e' : Engine α} {port : Option String} {choice : EngineChoice}

omit [AudioSystem α] in
theorem FannedOut.keep (h : e.FannedOut) (hsame : e.SameSettings e') : e'.FannedOut := by
  obtain ⟨hsettings, hfanOut, hrouting, hlinking, hport⟩ := hsame
  unfold FannedOut
  rw [hsettings, hfanOut, hrouting, hlinking, hport]
  exact h

theorem classifies_callers (h : ∀ c ∈ e.callers, c.classifies = false)
    (hstep : e.Step choice e') : ∀ c ∈ e'.callers, c.classifies = false := by
  refine hstep.callers (fun c _ => c.classifies_step _) (fun event _ _ => ?_)
    (fun _ => rfl) rfl h
  cases hchange : event.change <;> simp only [Call.handle, hchange] <;> rfl

theorem configured_step (h : e.Configured port) (hstep : e.Step choice e') :
    e'.Configured port := by
  have hcallers := classifies_callers h.callers hstep
  cases hstep with
  | flow step =>
    refine ⟨h.port, h.fannedOut.keep ⟨rfl, rfl, step.settings, rfl, rfl⟩,
      Flows.classified_step h.classified (fun c hc => h.callers c ?_) step,
      h.adopted.keep rfl rfl rfl fun c hc => hc, hcallers⟩
    exact List.mem_append_left _ hc
  | fanOutEnds _ hphase =>
    refine ⟨h.port, ?_, h.classified.close, h.adopted.close, hcallers⟩
    exact h.fannedOut.imp fun hlatest => by simpa [hphase, Watched.close] using hlatest
  | takes _ _ => exact { h with fannedOut := .take rfl, callers := hcallers }
  | sendsRouting hphase =>
    refine { h with fannedOut := ?_, classified := h.classified.send _, callers := hcallers }
    refine h.fannedOut.imp fun hlatest => ?_
    simp only [hphase] at hlatest
    exact ⟨hlatest, by rw [← hlatest]; rfl⟩
  | sendsLink hphase =>
    refine { h with fannedOut := ?_, adopted := h.adopted.send _, callers := hcallers }
    refine h.fannedOut.imp fun hlatest => ?_
    simp only [hphase] at hlatest
    exact ⟨hlatest.2, by rw [← hlatest.1]; rfl⟩
  | link step =>
    exact ⟨h.port, h.fannedOut.keep ⟨rfl, rfl, rfl, Link.settings_step step, rfl⟩, h.classified,
      Link.adopted_step h.adopted step, hcallers⟩
  | watcherEnds _ _ _ => exact { h with callers := hcallers }
  | watches _ step =>
    rcases Watcher.proceed?_cases step with ⟨-, rfl⟩ | ⟨s, -, rfl⟩
    · exact { h with callers := hcallers }
    · exact { h with fannedOut := h.fannedOut.send s, callers := hcallers }
  | closes _ _ => exact { h with callers := hcallers }
  | givesUp hphase _ =>
    refine { h with classified := ?_, callers := hcallers }
    refine h.classified.keep rfl rfl (Call.mappedKeys_step _ _ (h.callers _ ?_))
    simp [Engine.callers, EnginePhase.callers, hphase]

theorem configured_happen (h : e.Configured port) {turn : Occurrence α}
    (hturn : e.happen? turn = some e') : e'.Configured port := by
  cases turn with
  | step choice => exact configured_step h (step_of_step? hturn)
  | apply settings =>
    cases hturn
    exact { h with fannedOut := h.fannedOut.send settings }
  | shutdown =>
    obtain ⟨hphase, rfl⟩ := shutdown_of_happen? hturn
    exact { h with callers := callers_shutdown hphase ▸ h.callers }
  | board _ | clock _ | world _ _ _ | write _ _ | remove =>
    cases hturn
    exact { h with }

/-! ## The sessions -/

/-- The session whose change is reported next. -/
def reported (audio : α) : List Session :=
  match (AudioSystem.nextEvent audio).1 with
  | .item event => [event.session]
  | .waiting | .ended => []

/-- Each session that can be listed or is reported next has the key of its identity. -/
def KeysConstant (keyOf : Nat → String) (e : Engine α) : Prop :=
  ∀ s ∈ listed e.flows.mixer.tracker.audio ++ reported e.flows.mixer.tracker.audio,
    s.KeyedBy keyOf

instance (keyOf : Nat → String) (e : Engine α) : Decidable (e.KeysConstant keyOf) :=
  inferInstanceAs (Decidable (∀ s ∈ listed e.flows.mixer.tracker.audio ++
    reported e.flows.mixer.tracker.audio, s.KeyedBy keyOf))

/-- The directory is that of the sessions it holds, and so it stays. -/
structure Tracks (keyOf : Nat → String) (e : Engine α) : Prop where
  follows : ∃ f, e.flows.mixer.tracker.directory.Follows keyOf f
  keyed : ∀ c ∈ e.callers, ∀ s ∈ c.sessions, s.KeyedBy keyOf

variable {keyOf : Nat → String}

theorem tracks_step (h : e.Tracks keyOf) (hkeys : e.KeysConstant keyOf)
    (hstep : e.Step choice e') : e'.Tracks keyOf where
  follows := by
    obtain ⟨f, hf⟩ := h.follows
    obtain htracker | ⟨c, hc, htracker⟩ | ⟨s, -, -, htracker⟩ := hstep.tracker
    · rw [htracker]
      exact ⟨f, hf⟩
    · rw [htracker]
      exact ⟨_, c.follows_step hf (h.keyed c hc)⟩
    · rw [htracker]
      exact ⟨_, hf.classify s.mapping.keys⟩
  keyed := by
    refine hstep.callers (fun c hc s hs => ?_) (fun event audio hnext s hs => ?_)
      (fun _ _ hs => by cases hs) (fun _ hs => by cases hs) h.keyed
    · rcases List.mem_append.mp (c.sessions_step _ hs) with hs | hs
      · exact hc s hs
      · exact hkeys s (List.mem_append_left _ hs)
    · have hsession := Call.sessions_call (.handle event) hs
      refine hkeys s (List.mem_append_right _ ?_)
      simpa [reported, hnext, Operation.sessions] using hsession

theorem tracks_happen (h : e.Tracks keyOf) (hkeys : e.KeysConstant keyOf) {turn : Occurrence α}
    (hturn : e.happen? turn = some e') : e'.Tracks keyOf := by
  cases turn with
  | step choice => exact tracks_step h hkeys (step_of_step? hturn)
  | shutdown =>
    obtain ⟨hphase, rfl⟩ := shutdown_of_happen? hturn
    exact ⟨h.follows, callers_shutdown hphase ▸ h.keyed⟩
  | apply _ | board _ | clock _ | world _ _ _ | write _ _ | remove =>
    cases hturn
    exact { h with }

end Engine

/-! ## Starting -/

/-- A forced refresh succeeds exactly if the sessions can be listed. -/
theorem Tracker.refresh_forced (t : Tracker α) :
    (t.refresh true).1 =
      (AudioSystem.enumerate t.audio).1.map fun fresh => .refreshed fresh.length := by
  rcases t.refresh_cases true with
    ⟨hbegin, -⟩ | ⟨begun, e, audio, hbegin, hlist, hrefresh⟩ |
    ⟨begun, fresh, audio, hbegin, hlist, hrefresh⟩
  · simp [beginRefresh, Directory.beginRefresh] at hbegin
  · obtain ⟨directory, -, rfl⟩ := beginRefresh_eq_some hbegin
    rw [hrefresh, hlist]
    rfl
  · obtain ⟨directory, -, rfl⟩ := beginRefresh_eq_some hbegin
    rw [hrefresh, hlist]
    rfl

theorem Call.ComesTo.mappedKeys {c d : Call} {t u : Tracker α} (h : c.ComesTo t d u)
    (hc : c.classifies = false) : u.directory.mappedKeys = t.directory.mappedKeys := by
  induction h with
  | refl c t => rfl
  | @step c d t u _ ih =>
    exact (ih (c.classifies_step t)).trans (c.mappedKeys_step t hc)

namespace Engine

variable {e e' : Engine α} {settings : Settings} {audio : α} {focus : Focus} {board : Board}
  {options : EngineOptions}

/-- Whether an engine starts does not depend on the settings. -/
theorem start_ok_of_ok (hstart : Engine.start settings audio focus board options = .ok e)
    (other : Settings) : ∃ e', Engine.start other audio focus board options = .ok e' := by
  simp only [Engine.start] at hstart ⊢
  cases hreported : (AudioSystem.subscribe audio).1 with
  | true => simp
  | false =>
    simp only [hreported, Bool.false_eq_true, ↓reduceIte] at hstart ⊢
    have hsame : ((firstTracker other audio options .polling).refresh true).1 =
        ((firstTracker settings audio options .polling).refresh true).1 := by
      rw [Tracker.refresh_forced, Tracker.refresh_forced]
      rfl
    split at hstart
    · cases hstart
    next outcome tracker hrefresh =>
    simp only [firstTracker, hrefresh] at hsame
    split
    · next cause _ hfails => simp [hfails] at hsame
    · exact ⟨_, rfl⟩

/-- A started engine has looked at its settings everywhere. -/
theorem configured_start (hstart : Engine.start settings audio focus board options = .ok e)
    (watcher : Option Watcher) : Configured options.port { e with watcher } := by
  have hcallers : ∀ c ∈ callers { e with watcher }, c.classifies = false := by
    simp [callers_start hstart watcher]
  obtain ⟨tracker, pump, rfl, hcases⟩ := start_cases hstart
  have hkeys : tracker.directory.mappedKeys = settings.mapping.keys := by
    rcases hcases with ⟨-, rfl⟩ | ⟨-, outcome, hrefresh⟩
    · rfl
    · have hsame :=
        (Call.comesTo_refresh (firstTracker settings audio options .polling) true).mappedKeys rfl
      rw [hrefresh] at hsame
      exact hsame
  exact ⟨rfl, .take ⟨rfl, rfl⟩, .take hkeys, .take ⟨rfl, fun c hc => by cases hc⟩, hcallers⟩

theorem tracks_start {keyOf : Nat → String}
    (hstart : Engine.start settings audio focus board options = .ok e)
    (hkeys : ∀ s ∈ listed (AudioSystem.subscribe audio).2, s.KeyedBy keyOf)
    (watcher : Option Watcher) : Tracks keyOf { e with watcher } := by
  refine ⟨?_, by simp [callers_start hstart watcher]⟩
  obtain ⟨tracker, pump, rfl, ⟨-, rfl⟩ | ⟨-, outcome, hrefresh⟩⟩ := start_cases hstart
  · exact ⟨_, .new settings.mapping.keys⟩
  · have hfollows := Operation.follows_refresh true
      (t := firstTracker settings audio options .polling) (.new settings.mapping.keys) hkeys
    rw [hrefresh] at hfollows
    exact ⟨_, hfollows⟩

end Engine

/-! ## Reloading equals restarting -/

/-- The fan-out is between two steps. -/
def FanOut.isIdle (f : FanOut) : Bool :=
  match f.phase with
  | .waiting | .ended => true
  | .routing _ | .linking _ => false

def SettingsSync.isIdle (f : SettingsSync) : Bool :=
  match f.phase with
  | .waiting | .ended => true
  | .classifying _ | .raising | .ringing => false

namespace Engine

variable {e e' : Engine α} {settings : Settings} {audio : α} {focus : Focus} {board : Board}
  {options : EngineOptions}

/-- The settings that the turn publishes. -/
def publishes (e : Engine α) : Occurrence α → List Settings
  | .apply settings => [settings]
  | .step (.watcher .proceed) => (e.watcher.bind Watcher.publishes?).toList
  | .step (.watcher .stop) | .step (.flow ..) | .step (.fanOut _) | .step (.link _) | .step .close
  | .shutdown | .board _ | .clock _ | .world .. | .write .. | .remove => []

theorem settings_happen {turn : Occurrence α} (hturn : e.happen? turn = some e') :
    e'.settings.value = (e.publishes turn).getLastD e.settings.value := by
  cases turn with
  | step choice =>
    cases step_of_step? hturn with
    | @flow name choice _ _ _ => cases name <;> cases choice <;> rfl
    | watches hwatcher step =>
      rcases Watcher.proceed?_cases step with ⟨hnone, rfl⟩ | ⟨s, hs, rfl⟩
      · simp [publishes, hwatcher, hnone]
      · simp [publishes, hwatcher, hs, Watched.send]
    | _ => rfl
  | apply settings =>
    cases hturn
    rfl
  | shutdown =>
    obtain ⟨-, rfl⟩ := shutdown_of_happen? hturn
    rfl
  | board _ | clock _ | world _ _ _ | write _ _ | remove =>
    cases hturn
    rfl

/-- What was published last is there. -/
theorem latest_of_run {turns : List (Occurrence α)}
    (hrun : Run.after? happen? e turns = some e') :
    e'.settings.value = (Run.collect happen? publishes e turns).getLastD e.settings.value := by
  refine Run.invariant_of_history (P := fun front u => u.settings.value =
    (Run.collect happen? publishes e front).getLastD e.settings.value) rfl ?_
    (Run.along_of_forall (Q := fun _ _ => True) (fun _ _ => trivial) _ _) hrun
  intro front u turn v hfront hlatest _ hturn
  rw [Run.collect_snoc hfront, settings_happen hturn, hlatest]
  simp [List.getLastD_eq_getLast?]

/-- The fan-out, the sync and the link are between two steps, and none has a newer value to look
    at. -/
structure UpToDate (e : Engine α) : Prop where
  fanOut : e.fanOut.isIdle = true ∧ e.settings.news e.fanOut.seen = false
  sync : e.flows.sync.isIdle = true ∧ e.flows.settings.news e.flows.sync.seen = false
  link : e.link.settings.news e.link.seen = false

instance (e : Engine α) : Decidable e.UpToDate :=
  decidable_of_iff
    ((e.fanOut.isIdle = true ∧ e.settings.news e.fanOut.seen = false) ∧
      (e.flows.sync.isIdle = true ∧ e.flows.settings.news e.flows.sync.seen = false) ∧
      e.link.settings.news e.link.seen = false)
    ⟨fun ⟨hfanOut, hsync, hlink⟩ => ⟨hfanOut, hsync, hlink⟩,
      fun h => ⟨h.fanOut, h.sync, h.link⟩⟩

/-- The settings in force are those of the other engine, and so are the sessions left over, if it
    holds the same sessions. -/
structure SetUpLike (e e' : Engine α) : Prop where
  routing : e.flows.settings.value = e'.flows.settings.value
  link : e.link.settings.value = e'.link.settings.value
  connection : ∀ c ∈ e.link.connection?, c = e'.link.settings.value.connection
  decoder : e.link.decoder.settings = e'.link.decoder.settings
  mappedKeys : e.flows.mixer.tracker.directory.mappedKeys =
    e'.flows.mixer.tracker.directory.mappedKeys
  unmapped : e.flows.mixer.tracker.directory.unmapped.Perm
    (e'.flows.mixer.tracker.directory.replaceAll e.flows.mixer.tracker.directory.held).2.unmapped

/-- What is in force comes of the latest settings alone. -/
structure SetUpFrom (port : Option String) (s : Settings) (e : Engine α) : Prop where
  routing : e.flows.settings.value = s.routing
  link : e.link.settings.value = s.linkAt port
  connection : ∀ c ∈ e.link.connection?, c = (s.linkAt port).connection
  decoder : e.link.decoder.settings = (s.linkAt port).decoder
  mappedKeys : e.flows.mixer.tracker.directory.mappedKeys = s.mapping.keys

omit [AudioSystem α] in
theorem Configured.setUpFrom {port : Option String} (h : e.Configured port)
    (hcurrent : e.UpToDate) : e.SetUpFrom port e.settings.value := by
  obtain ⟨⟨hfanOut, hsettings⟩, ⟨hsync, hrouting⟩, hlink⟩ := hcurrent
  simp only [Watched.news, bne_eq_false_iff_eq] at hsettings hrouting hlink
  have hfanned : e.flows.settings.value = e.settings.value.routing ∧
      e.link.settings.value = e.settings.value.linkAt e.port := by
    have hlatest := h.fannedOut.latest hsettings.symm
    cases hphase : e.fanOut.phase <;> simp [FanOut.isIdle, hphase] at hfanOut hlatest <;>
      exact hlatest
  have hkeys : e.flows.mixer.tracker.directory.mappedKeys =
      e.flows.settings.value.mapping.keys := by
    have hlatest := h.classified.latest hrouting.symm
    cases hphase : e.flows.sync.phase <;> simp [SettingsSync.isIdle, hphase] at hsync hlatest <;>
      exact hlatest
  obtain ⟨hdecoder, hconnection⟩ := h.adopted.latest hlink.symm
  rw [hfanned.2, h.port] at hdecoder hconnection
  exact ⟨hfanned.1, h.port ▸ hfanned.2, hconnection, hdecoder, by rw [hkeys, hfanned.1]; rfl⟩

theorem setUpFrom_start (hstart : Engine.start settings audio focus board options = .ok e) :
    e.SetUpFrom options.port settings := by
  have hconfigured := configured_start hstart e.watcher
  obtain ⟨tracker, pump, rfl, -⟩ := start_cases hstart
  exact hconfigured.setUpFrom ⟨⟨rfl, rfl⟩, ⟨rfl, rfl⟩, rfl⟩

end Engine

/-- Which sessions are left over depends on the keys alone that sliders name. -/
theorem Directory.Lists.unmapped_replaceAll {d d' : Directory} {f : FlatDirectory} (h : d.Lists f)
    (hkeys : d.mappedKeys = d'.mappedKeys) :
    d.unmapped.Perm (d'.replaceAll d.held).2.unmapped := by
  have hemptied : d'.takeAll.2.Lists { mappedKeys := d'.mappedKeys } :=
    ⟨rfl, List.nodup_nil, fun _ => rfl, .nil⟩
  have hfilled := hemptied.foldl_insert d.held
  have hleft : f.leavesOver = ({ held := d.held, mappedKeys := d'.mappedKeys } :
      FlatDirectory).leavesOver := by
    funext s
    simp [FlatDirectory.leavesOver, ← h.mappedKeys, hkeys]
  refine h.unmapped.trans (.trans ?_ hfilled.unmapped.symm)
  unfold FlatDirectory.leftOver
  rw [hleft]
  exact (h.held_perm.filter _).symm

namespace Engine

variable {e x : Engine α} {settings : Settings} {audio : α} {focus : Focus} {board : Board}
  {options : EngineOptions} {keyOf : Nat → String} {turns : List (Occurrence α)}

/-- In every order of the steps, whatever happens around the engine: once the fan-out, the sync and
    the link have looked at all that was published, the settings in force and the sessions left over
    are those of an engine started with what was published last. -/
theorem reload_eq_restart (hstart : Engine.start settings audio focus board options = .ok e)
    (hfirst : ∀ s ∈ listed (AudioSystem.subscribe audio).2, s.KeyedBy keyOf)
    (watcher : Option Watcher)
    (hkeys : Run.Along happen? (fun e _ => e.KeysConstant keyOf) { e with watcher } turns)
    (hrun : Run.after? happen? { e with watcher } turns = some x) (hcurrent : x.UpToDate) :
    let latest := (Run.collect happen? publishes { e with watcher } turns).getLastD settings
    (∃ e', Engine.start latest audio focus board options = .ok e') ∧
    ∀ (audio' : α) focus' board' e',
      Engine.start latest audio' focus' board' options = .ok e' → x.SetUpLike e' := by
  intro latest
  refine ⟨start_ok_of_ok hstart latest, fun audio' focus' board' e' hstart' => ?_⟩
  have hvalue : x.settings.value = latest := by
    rw [latest_of_run hrun]
    obtain ⟨tracker, pump, rfl, -⟩ := start_cases hstart
    rfl
  have hconfigured : x.Configured options.port :=
    Run.invariant (configured_start hstart watcher) (fun _ _ _ h hturn => configured_happen h hturn)
      hrun
  have htracks : x.Tracks keyOf :=
    Run.invariant_of_step (tracks_start hstart hfirst watcher)
      (fun _ _ _ h hconstant hturn => tracks_happen h hconstant hturn) hkeys hrun
  have hx := hconfigured.setUpFrom hcurrent
  rw [hvalue] at hx
  have he' := setUpFrom_start hstart'
  have hmapped := hx.mappedKeys.trans he'.mappedKeys.symm
  obtain ⟨f, hf⟩ := htracks.follows
  exact {
    routing := hx.routing.trans he'.routing.symm
    link := hx.link.trans he'.link.symm
    connection := fun c hc => (hx.connection c hc).trans (by rw [he'.link])
    decoder := hx.decoder.trans he'.decoder.symm
    mappedKeys := hmapped
    unmapped := hf.lists.unmapped_replaceAll hmapped }

/-- Two reloads come one after the other, and the parts look at the second alone.  The port stays
    the one set at the start. -/
theorem reload_eq_restart_twice :
    let audio := ((MemoryAudio.new .polling).addSession "firefox" "firefox.exe" defaultVolume).2
    let board : Board := (({} : Board).pushStream {}).2
    let options : EngineOptions := { port := some "/dev/ttyACM0" }
    let first : Settings := { sliders := [("0", .one "firefox.exe")] }
    let second : Settings := { invert := true, port := "/dev/ttyUSB1", baudRate := 115200 }
    let fanOut : Occurrence MemoryAudio := .step (.fanOut .proceed)
    let sync : Occurrence MemoryAudio := .step (.flow .sync .proceed)
    let worker : Occurrence MemoryAudio := .step (.flow .worker .proceed)
    let turns : List (Occurrence MemoryAudio) :=
      [.step (.link .proceed), .step (.link .proceed), .apply first, fanOut, fanOut, sync, sync,
        fanOut, .apply second, fanOut, sync, sync, worker, worker, worker, worker, worker, fanOut,
        fanOut, .step (.link .notice), .step (.link .proceed), sync, sync, sync, sync]
    ∃ e ∈ (Engine.start first audio {} board options).toOption,
      ∃ x ∈ Run.after? happen? { e with watcher := none } turns,
        x.link.connection? = some { port := "/dev/ttyACM0", baudRate := 115200 } ∧
        ∃ e' ∈ (Engine.start second audio {} board options).toOption, x.SetUpLike e' := by
  intro audio board options first second fanOut sync worker turns
  let keyOf (_ : Nat) : String := "firefox.exe"
  have hrun : ∃ e ∈ (Engine.start first audio {} board options).toOption,
      (∀ s ∈ listed (AudioSystem.subscribe audio).2, s.KeyedBy keyOf) ∧
      Run.Along happen? (fun e _ => e.KeysConstant keyOf) { e with watcher := none } turns ∧
      ∃ x ∈ Run.after? happen? { e with watcher := none } turns, x.UpToDate ∧
        Run.collect happen? publishes { e with watcher := none } turns = [first, second] ∧
        x.link.connection? = some { port := "/dev/ttyACM0", baudRate := 115200 } := by
    decide +kernel
  obtain ⟨e, hstart, hfirst, hkeys, x, hx, hcurrent, hpublished, hconnection⟩ := hrun
  have hrestart := reload_eq_restart (eq_ok_of_mem_toOption hstart) hfirst none hkeys hx hcurrent
  rw [hpublished] at hrestart
  obtain ⟨⟨e', he'⟩, hlike⟩ := hrestart
  have hstart' : e' ∈ (Engine.start second audio {} board options).toOption := by
    change Engine.start second audio {} board options = .ok e' at he'
    rw [he']
    rfl
  exact ⟨e, hstart, x, hx, hconnection, e', hstart', hlike audio {} board e' he'⟩

end Engine

end SliderMixer
