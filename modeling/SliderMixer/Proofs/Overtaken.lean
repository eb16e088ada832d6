import SliderMixer.Proofs.MemoryHandles
import SliderMixer.Proofs.ReportOrder
import SliderMixer.Proofs.Reports

/-! # Overtaken refreshes

What every step keeps: the reports are followed in order, and the list of a refresh differs
from the live sessions by what started and ended since.  From this follows when a step
breaks the law, and so when a run does.
-/

namespace SliderMixer

/-! ## Shapes of callers -/

namespace Call

/-- The directory is changed, if at all, and the number of its sessions is published. -/
def counts : Call → Bool
  | countSessions (.finish _) | publishCount _ (.finish _) | finished _ => true
  | _ => false

/-- A caller that follows a report. -/
def follows : Call → Bool
  | insert _ | erase _ => true
  | c => c.counts

/-- A caller that refreshes. -/
def refreshes : Call → Bool
  | beginRefresh _ | enumerate | replace _ | giveBack _ (.finish _) => true
  | c => c.counts

variable {t : Tracker MemoryAudio}

theorem counts_step {c : Call} (h : c.counts = true) (t : Tracker MemoryAudio) :
    (c.step t).1.counts = true ∧ (c.step t).2.audio = t.audio ∧ ∀ f, c.flat f = f := by
  cases c with
  | countSessions next => cases next <;> first | exact ⟨rfl, rfl, fun _ => rfl⟩ | cases h
  | publishCount n next => cases next <;> first | exact ⟨rfl, rfl, fun _ => rfl⟩ | cases h
  | finished r => exact ⟨rfl, rfl, fun _ => rfl⟩
  | _ => cases h

theorem follows_cases {c : Call} (h : c.follows = true) :
    (∃ s, c = .insert s) ∨ (∃ s, c = .erase s) ∨ c.counts = true := by
  cases c with
  | insert s => exact .inl ⟨s, rfl⟩
  | erase s => exact .inr (.inl ⟨s, rfl⟩)
  | _ => exact .inr (.inr h)

theorem counts_of_follows {c : Call} (h : c.follows = true) (t : Tracker MemoryAudio) :
    (c.step t).1.counts = true ∧ (c.step t).2.audio = t.audio := by
  rcases follows_cases h with ⟨s, rfl⟩ | ⟨s, rfl⟩ | hcounts
  · exact ⟨rfl, rfl⟩
  · cases hfound : (t.directory.remove s).1 <;> simp [step, Tracker.erase, hfound, counts]
  · exact ⟨(counts_step hcounts t).1, (counts_step hcounts t).2.1⟩

/-- Where changes are reported, a refresh lists the live sessions, and changes nothing of
    the audio system but the handles given back. -/
theorem refreshes_step {c : Call} (h : c.refreshes = true) (hmode : t.audio.mode = .eventDriven) :
    (c.step t).1.refreshes = true ∧ (∃ released, (c.step t).2.audio = { t.audio with released }) ∧
    ∀ fresh, (c.step t).1 = .replace fresh →
      c = .enumerate ∧ fresh = t.audio.live.map (·.handle) := by
  cases c with
  | beginRefresh force =>
    cases hbegin : t.beginRefresh force with
    | none =>
      simp only [step, hbegin]
      exact ⟨rfl, ⟨_, rfl⟩, fun _ h => by cases h⟩
    | some begun =>
      obtain ⟨directory, -, rfl⟩ := Tracker.beginRefresh_eq_some hbegin
      simp only [step, hbegin]
      exact ⟨rfl, ⟨_, rfl⟩, fun _ h => by cases h⟩
  | enumerate =>
    rcases MemoryAudio.enumerate_eventDriven hmode with ⟨e, hfails⟩ | hlists
    · rw [step_enumerate_error hfails]
      exact ⟨rfl, ⟨_, rfl⟩, fun _ h => by cases h⟩
    · rw [step_enumerate_ok hlists]
      exact ⟨rfl, ⟨_, rfl⟩, fun fresh h => by cases h; exact ⟨rfl, rfl⟩⟩
  | replace fresh => exact ⟨rfl, ⟨_, rfl⟩, fun _ h => by cases h⟩
  | giveBack handles next =>
    cases next with
    | close => cases h
    | finish r =>
      cases handles with
      | nil => exact ⟨rfl, ⟨_, rfl⟩, fun _ h => by cases h⟩
      | cons s rest =>
        refine ⟨rfl, ?_, fun _ h => by cases h⟩
        by_cases hs : s.id ∈ t.audio.released
        · refine ⟨t.audio.released, ?_⟩
          have hs : t.audio.isReleased s = true := MemoryAudio.isReleased_iff.mpr hs
          simp [step, Tracker.giveBack, AudioSystem.releaseSession, MemoryAudio.releaseSession, hs]
        · exact ⟨_, MemoryAudio.releaseSession_of_not_released hs⟩
  | countSessions next =>
    cases next <;> first | exact ⟨rfl, ⟨_, rfl⟩, fun _ h => by cases h⟩ | cases h
  | publishCount n next =>
    cases next <;> first | exact ⟨rfl, ⟨_, rfl⟩, fun _ h => by cases h⟩ | cases h
  | finished r => exact ⟨rfl, ⟨_, rfl⟩, fun _ h => by cases h⟩
  | _ => cases h

/-- Only the replacement changes which sessions the directory holds. -/
theorem flat_of_refreshes {c : Call} (h : c.refreshes = true) (f : FlatDirectory) :
    (∃ fresh, c = .replace fresh) ∨ (∀ fresh, c ≠ .replace fresh) ∧ c.flat f = f := by
  cases c with
  | replace fresh => exact .inl ⟨fresh, rfl⟩
  | insert s => cases h
  | erase s => cases h
  | classify mappedKeys => cases h
  | takeAll => cases h
  | _ => exact .inr ⟨fun _ hreplace => (by cases hreplace), rfl⟩

end Call

namespace EventPump

/-- The pump waits, or follows a report. -/
def follows : EventPump → Bool
  | .handling c => c.follows
  | .waiting | .ended => true

theorem adds_removes (p : EventPump) :
    (∃ s, p.adds = [s] ∧ p.removes = []) ∨ (∃ s, p.adds = [] ∧ p.removes = [s]) ∨
      (p.adds = [] ∧ p.removes = []) := by
  cases p with
  | handling c =>
    cases c with
    | insert s => exact .inl ⟨s, rfl, rfl⟩
    | erase s => exact .inr (.inl ⟨s, rfl, rfl⟩)
    | _ => exact .inr (.inr ⟨rfl, rfl⟩)
  | _ => exact .inr (.inr ⟨rfl, rfl⟩)

theorem idle_of_counts {c : Call} (h : c.counts = true) :
    (handling c).adds = [] ∧ (handling c).removes = [] ∧ (handling c).follows = true := by
  cases c with
  | insert s => cases h
  | erase s => cases h
  | _ => exact ⟨rfl, rfl, h⟩

theorem handle_event (e : SessionEvent) :
    (handling (.handle e)).adds.map (SessionChange.added, ·) ++
        (handling (.handle e)).removes.map (SessionChange.removed, ·) = [(e.change, e.session)] ∧
      (handling (.handle e)).follows = true := by
  obtain ⟨change, name, s⟩ := e
  cases change <;> exact ⟨rfl, rfl⟩

/-- The pump receives a report, ends, is done with one, or does a section. -/
theorem proceed?_cases {p p' : EventPump} {m m' : Mixer MemoryAudio}
    (h : p.proceed? m = some (p', m')) :
    (p = .waiting ∧ ∃ e rest, m.tracker.audio.events.items = e :: rest ∧ p' = .handling (.handle e) ∧
      m' = m.withAudio { m.tracker.audio with events := { m.tracker.audio.events with items := rest } }) ∨
    (p = .waiting ∧ p' = .ended ∧ m' = m) ∨
    (∃ r, p = .handling (.finished r) ∧ p' = .waiting ∧ m' = m) ∨
    ∃ c, p = .handling c ∧ p' = .handling (c.step m.tracker).1 ∧
      m' = { m with tracker := (c.step m.tracker).2 } := by
  cases p with
  | waiting =>
    cases hitems : m.tracker.audio.events.items with
    | nil =>
      cases hgone : m.tracker.audio.events.senderGone <;>
        simp [proceed?, AudioSystem.nextEvent, Mailbox.receive, hitems, hgone] at h
      exact .inr (.inl ⟨rfl, h.1.symm, h.2.symm⟩)
    | cons e rest =>
      simp only [proceed?, AudioSystem.nextEvent, Mailbox.receive, hitems, Option.some.injEq,
        Prod.mk.injEq] at h
      exact .inl ⟨rfl, e, rest, rfl, h.1.symm, h.2.symm⟩
  | handling c =>
    cases c with
    | finished r =>
      cases h
      exact .inr (.inr (.inl ⟨r, rfl, rfl, rfl⟩))
    | _ =>
      cases h
      exact .inr (.inr (.inr ⟨_, rfl, rfl, rfl⟩))
  | ended => cases h

end EventPump

namespace Reports

/-! ## Invariant -/

structure Sound (r : Reports) : Prop where
  mode : r.mixer.tracker.mode = .eventDriven
  audioMode : r.audio.mode = .eventDriven
  lists : ∃ f, r.mixer.tracker.directory.Lists f
  held : ∀ s ∈ r.held, s ∈ r.started
  added : ∀ s ∈ r.added, s ∈ r.started
  /-- A session and its handle have the same number. -/
  numbered : r.audio.controls.length = r.audio.handles.length
  live : ∀ l ∈ r.audio.live, l.control = l.handle.id ∧ l.handle ∈ r.started
  made : ∀ s ∈ r.started, s.id < r.audio.handles.length
  distinct : ∀ s ∈ r.started, ∀ t ∈ r.started, s.id = t.id → s = t
  order : InOrder r.started r.live r.removed r.queue r.coming
  pump : r.pump.follows = true
  refreshes : ∀ f ∈ r.refreshers, f.call.refreshes = true
  since : ∀ f ∈ r.refreshers, ∀ fresh, f.call = .replace fresh →
    (∀ s ∈ fresh, s ∈ r.started) ∧ Since fresh f.started f.ended r.live

namespace Sound

variable {r r' : Reports}

theorem new (mappedKeys : List String) (minInterval : Nat) :
    (Reports.new mappedKeys minInterval).Sound where
  mode := rfl
  audioMode := rfl
  lists := ⟨_, .new mappedKeys⟩
  held _ h := absurd h List.not_mem_nil
  added _ h := absurd h List.not_mem_nil
  numbered := rfl
  live _ h := absurd h List.not_mem_nil
  made _ h := absurd h List.not_mem_nil
  distinct _ h := absurd h List.not_mem_nil
  order := .nil
  pump := rfl
  refreshes _ h := absurd h List.not_mem_nil
  since _ h := absurd h List.not_mem_nil

theorem live_mem (h : r.Sound) {s : Session} (hs : s ∈ r.live) : s ∈ r.started := by
  obtain ⟨l, hl, rfl⟩ := List.mem_map.mp hs
  exact (h.live l hl).2

theorem start (h : r.Sound) {name key : String} {volume : Binary32}
    (hturn : r.turn? (.start name key volume) = some r') : r'.Sound := by
  cases hturn
  have hnew : ({ id := r.audio.handles.length, key } : Session) ∉ r.started :=
    fun hs => Nat.lt_irrefl _ (h.made _ hs)
  refine
    { mode := h.mode, audioMode := h.audioMode, lists := h.lists
      held := fun t ht => List.mem_append_left _ (h.held t ht)
      added := fun t ht => List.mem_append_left _ (h.added t ht)
      numbered := ?_, live := ?_, made := ?_, distinct := ?_, order := ?_
      pump := h.pump
      refreshes := ?_, since := ?_ }
  · show (r.audio.controls ++ [_]).length = (r.audio.handles ++ [_]).length
    rw [List.length_append, List.length_append, h.numbered]
    rfl
  · intro l hl
    rcases List.mem_append.mp hl with hl | hl
    · exact ⟨(h.live l hl).1, List.mem_append_left _ (h.live l hl).2⟩
    · rw [List.mem_singleton.mp hl]
      exact ⟨h.numbered, List.mem_append_right _ (List.mem_singleton_self _)⟩
  · intro t ht
    show t.id < (r.audio.handles ++ [_]).length
    rw [List.length_append]
    rcases List.mem_append.mp ht with ht | ht
    · exact Nat.lt_add_right _ (h.made t ht)
    · rw [List.mem_singleton.mp ht]
      exact Nat.lt_succ_self _
  · intro t ht u hu hid
    rcases List.mem_append.mp ht with ht | ht <;> rcases List.mem_append.mp hu with hu | hu
    · exact h.distinct t ht u hu hid
    · rw [List.mem_singleton.mp hu] at hid
      exact absurd hid (Nat.ne_of_lt (h.made t ht))
    · rw [List.mem_singleton.mp ht] at hid
      exact absurd hid.symm (Nat.ne_of_lt (h.made u hu))
    · rw [List.mem_singleton.mp ht, List.mem_singleton.mp hu]
  · show InOrder _ (List.map _ (r.audio.live ++ [_])) _ _ (List.map _ (r.unreported ++ [_]))
    rw [List.map_append, List.map_append]
    exact h.order.start hnew
  · intro f hf
    obtain ⟨g, hg, rfl⟩ := List.mem_map.mp hf
    exact h.refreshes g hg
  · intro f hf fresh hcall
    obtain ⟨g, hg, rfl⟩ := List.mem_map.mp hf
    obtain ⟨hknown, hsince⟩ := h.since g hg fresh hcall
    refine ⟨fun s hs => List.mem_append_left _ (hknown s hs), ?_⟩
    show Since _ _ _ (List.map _ (r.audio.live ++ [_]))
    rw [List.map_append]
    exact hsince.start fun hs => hnew (hknown _ hs)

theorem finish (h : r.Sound) {control : Nat} (hturn : r.turn? (.finish control) = some r') :
    r'.Sound := by
  simp only [turn?] at hturn
  split at hturn
  · cases hturn
  · next l audio hend =>
    split at hturn
    · cases hturn
    next hreported =>
    cases hturn
    obtain ⟨hl, rfl, rfl⟩ := MemoryAudio.endSession_eq_some hend
    obtain ⟨hid, hstarted⟩ := h.live l hl
    -- the session that ends is the only one that is live no more
    have hleft (t : Session) :
        t ∈ (r.audio.live.filter fun other => other.control != l.control).map (·.handle) →
          t ∈ r.live ∧ t ≠ l.handle := by
      intro ht
      obtain ⟨other, hother, rfl⟩ := List.mem_map.mp ht
      obtain ⟨hother, hcontrol⟩ := List.mem_filter.mp hother
      refine ⟨List.mem_map_of_mem hother, fun hsame => ?_⟩
      rw [(h.live other hother).1, hid, hsame] at hcontrol
      simp at hcontrol
    have hgone (t : Session) (ht : t ∈ r.live) :
        t ∈ (r.audio.live.filter fun other => other.control != l.control).map (·.handle) ∨
          t = l.handle := by
      obtain ⟨other, hother, rfl⟩ := List.mem_map.mp ht
      by_cases hcontrol : other.control = l.control
      · right
        obtain ⟨hid', hstarted'⟩ := h.live other hother
        exact h.distinct _ hstarted' _ hstarted (by rw [← hid', ← hid, hcontrol])
      · exact .inl (List.mem_map_of_mem (List.mem_filter.mpr ⟨hother, by simpa using hcontrol⟩))
    refine
      { mode := h.mode, audioMode := h.audioMode, lists := h.lists, held := h.held
        added := h.added, numbered := h.numbered
        live := fun l hl => h.live l (List.mem_of_mem_filter hl)
        made := h.made, distinct := h.distinct, order := ?_, pump := h.pump
        refreshes := ?_, since := ?_ }
    · show InOrder _ _ _ _ (List.map _ (r.unreported ++ [_]))
      rw [List.map_append]
      exact h.order.finish hstarted hreported hleft
    · intro f hf
      obtain ⟨g, hg, rfl⟩ := List.mem_map.mp hf
      exact h.refreshes g hg
    · intro f hf fresh hcall
      obtain ⟨g, hg, rfl⟩ := List.mem_map.mp hf
      obtain ⟨hknown, hsince⟩ := h.since g hg fresh hcall
      exact ⟨hknown, hsince.finish (List.mem_map_of_mem hl) (fun t ht => (hleft t ht).1) hgone⟩

theorem report (h : r.Sound) {i : Nat} (hturn : r.turn? (.report i) = some r') : r'.Sound := by
  simp only [turn?, Option.map_eq_some_iff] at hturn
  obtain ⟨⟨change, l⟩, hget, rfl⟩ := hturn
  have hmem : (change, l.handle) ∈ r.coming :=
    List.mem_map.mpr ⟨(change, l), List.mem_of_getElem? hget, rfl⟩
  have hrest : (r.unreported.eraseIdx i).map (fun p => (p.1, p.2.handle)) ⊆ r.coming := by
    intro p hp
    obtain ⟨q, hq, rfl⟩ := List.mem_map.mp hp
    exact List.mem_map.mpr ⟨q, List.mem_of_mem_eraseIdx hq, rfl⟩
  obtain ⟨events, hpublish, hitems⟩ :=
    MemoryAudio.publish_eventDriven h.audioMode change l.handle l.control
  rw [hpublish]
  refine
    { mode := h.mode, audioMode := h.audioMode, lists := h.lists, held := h.held
      added := h.added, numbered := h.numbered, live := h.live, made := h.made
      distinct := h.distinct, order := ?_, pump := h.pump, refreshes := h.refreshes
      since := h.since }
  show InOrder _ _ _ (_ ++ events.items.map _) _
  rcases hitems with hitems | ⟨name, hitems⟩
  · rw [hitems]
    exact h.order.lose hrest
  · rw [hitems, List.map_append, ← List.append_assoc]
    exact h.order.report hmem hrest

end Sound

/-! ## The pump -/

/-- The pump follows its next change, if it has one. -/
structure Pumped (r : Reports) (pump : EventPump) (mixer : Mixer MemoryAudio) : Prop where
  mode : mixer.tracker.mode = .eventDriven
  audio : ∃ events, mixer.tracker.audio = { r.audio with events } ∧
    r.queue = r.pump.adds.map (.added, ·) ++ r.pump.removes.map (.removed, ·) ++
      (pump.adds.map (.added, ·) ++ pump.removes.map (.removed, ·) ++
        events.items.map fun e => (e.change, e.session))
  lists : ∃ f, mixer.tracker.directory.Lists f
  held : ∀ s, s ∈ mixer.tracker.directory.held ↔
    (s ∈ r.held ∨ s ∈ r.pump.adds) ∧ s ∉ r.pump.removes
  follows : pump.follows = true

namespace Sound

variable {r r' : Reports}

theorem pumped_section (h : r.Sound) {c : Call} (hpump : r.pump = .handling c) :
    Pumped r (.handling (c.step r.mixer.tracker).1)
      { r.mixer with tracker := (c.step r.mixer.tracker).2 } := by
  have hfollows : c.follows = true := by
    have hpumping := h.pump
    rwa [hpump] at hpumping
  obtain ⟨hcounts, haudio⟩ := Call.counts_of_follows hfollows r.mixer.tracker
  obtain ⟨hadds, hremoves, hnext⟩ := EventPump.idle_of_counts hcounts
  obtain ⟨f, hf⟩ := h.lists
  have hcopies (s : Session) (hc : c = .erase s) (other : Session) (hother : other ∈ f.held)
      (hsame : other.same s = true) : other = s := by
    have hs : s ∈ r.started := by
      apply h.order.known (.removed, s)
      simp [Reports.queue, hpump, hc, EventPump.adds, EventPump.removes]
    exact h.distinct other (h.held other (hf.mem_held.mpr hother)) s hs
      (by simpa [Session.same] using hsame)
  have hlists := c.lists_step_directory hf hcopies
  refine
    { mode := (Call.mode_step c r.mixer.tracker).trans h.mode
      audio := ⟨r.audio.events, haudio, ?_⟩
      lists := ⟨_, hlists⟩
      held := fun s => ?_
      follows := hnext }
  · rw [hadds, hremoves]
    rfl
  · rw [hlists.mem_held, Reports.held, hf.mem_held, hpump]
    rcases Call.follows_cases hfollows with ⟨t, rfl⟩ | ⟨t, rfl⟩ | hcounts
    · simp [Call.flat, EventPump.adds, EventPump.removes]
    · have hsame (hs : s ∈ f.held) : s.same t = true ↔ s = t :=
        ⟨hcopies t rfl s hs, by rintro rfl; simp [Session.same]⟩
      simp only [Call.flat, EventPump.adds, EventPump.removes, FlatDirectory.held_remove,
        List.mem_filter, Bool.not_eq_true', List.not_mem_nil, or_false, List.mem_singleton]
      exact and_congr_right fun hs => by rw [← hsame hs, Bool.not_eq_true]
    · obtain ⟨hadds, hremoves, -⟩ := EventPump.idle_of_counts hcounts
      simp [hadds, hremoves, (Call.counts_step hcounts r.mixer.tracker).2.2]

theorem pumped (h : r.Sound) {pump : EventPump} {mixer : Mixer MemoryAudio}
    (hproceed : r.pump.proceed? r.mixer = some (pump, mixer)) : Pumped r pump mixer := by
  have hidle (adds : r.pump.adds = []) (removes : r.pump.removes = []) (s : Session) :
      s ∈ r.held ↔ (s ∈ r.held ∨ s ∈ r.pump.adds) ∧ s ∉ r.pump.removes := by
    simp [adds, removes]
  rcases EventPump.proceed?_cases hproceed with
    ⟨hpump, e, rest, hitems, rfl, rfl⟩ | ⟨hpump, rfl, rfl⟩ | ⟨result, hpump, rfl, rfl⟩ |
    ⟨c, hpump, rfl, rfl⟩
  · obtain ⟨hqueue, hfollows⟩ := EventPump.handle_event e
    refine ⟨h.mode, ⟨_, rfl, ?_⟩, h.lists, hidle ?_ ?_, hfollows⟩
    · rw [hqueue]
      simp [Reports.queue, Reports.audio, hpump, hitems, EventPump.adds, EventPump.removes]
    all_goals rw [hpump]; rfl
  · refine ⟨h.mode, ⟨r.audio.events, rfl, ?_⟩, h.lists, hidle ?_ ?_, rfl⟩
    all_goals simp [Reports.queue, hpump, EventPump.adds, EventPump.removes]
  · refine ⟨h.mode, ⟨r.audio.events, rfl, ?_⟩, h.lists, hidle ?_ ?_, rfl⟩
    all_goals simp [Reports.queue, hpump, EventPump.adds, EventPump.removes]
  · exact h.pumped_section hpump

/-- All the pump adds or removes is next in the queue. -/
theorem follow (h : r.Sound) {queue : List (SessionChange × Session)}
    (hqueue : r.queue = r.pump.adds.map (.added, ·) ++ r.pump.removes.map (.removed, ·) ++ queue) :
    InOrder r.started r.live (r.removed ++ r.pump.removes) queue r.coming := by
  have horder := h.order
  rw [hqueue] at horder
  rcases r.pump.adds_removes with ⟨s, hadds, hremoves⟩ | ⟨s, hadds, hremoves⟩ | ⟨hadds, hremoves⟩
  · rw [hadds, hremoves] at horder
    rw [hremoves]
    exact horder.follow
  · rw [hadds, hremoves] at horder
    rw [hremoves]
    exact horder.follow
  · rw [hadds, hremoves] at horder
    rw [hremoves, List.append_nil]
    exact horder

theorem pump_turn (h : r.Sound) (hturn : r.turn? .pump = some r') : r'.Sound := by
  simp only [turn?, Option.map_eq_some_iff] at hturn
  obtain ⟨⟨pump, mixer⟩, hproceed, rfl⟩ := hturn
  obtain ⟨hmode, ⟨events, haudio, hqueue⟩, hlists, hheld, hfollows⟩ := h.pumped hproceed
  have hadds (s : Session) (hs : s ∈ r.pump.adds) : s ∈ r.started := by
    apply h.order.known (.added, s)
    simp [Reports.queue, hs]
  obtain ⟨tracker, focus, signal⟩ := mixer
  obtain ⟨audio, mode, minInterval, now, directory, count, closing⟩ := tracker
  simp only at hmode haudio hqueue hlists hheld
  subst haudio
  exact
    { mode := hmode, audioMode := h.audioMode, lists := hlists
      held := fun s hs => ((hheld s).mp hs).1.elim (h.held s) (hadds s)
      added := fun s hs => (List.mem_append.mp hs).elim (h.added s) (hadds s)
      numbered := h.numbered, live := h.live, made := h.made, distinct := h.distinct
      order := h.follow hqueue, pump := hfollows, refreshes := h.refreshes, since := h.since }

/-! ## Refreshes -/

theorem refresh_turn (h : r.Sound) {force : Bool} (hturn : r.turn? (.refresh force) = some r') :
    r'.Sound := by
  cases hturn
  refine { h with refreshes := fun f hf => ?_, since := fun f hf => ?_ }
  · rcases List.mem_append.mp hf with hf | hf
    · exact h.refreshes f hf
    · rw [List.mem_singleton.mp hf]
      rfl
  · rcases List.mem_append.mp hf with hf | hf
    · exact h.since f hf
    · rw [List.mem_singleton.mp hf]
      intro fresh hcall
      cases hcall

theorem lists_refresh (h : r.Sound) {f : Refresher} (hf : f ∈ r.refreshers)
    {flat : FlatDirectory} (hflat : r.mixer.tracker.directory.Lists flat) :
    (f.call.step r.mixer.tracker).2.directory.Lists (f.call.flat flat) := by
  apply f.call.lists_step_directory hflat
  intro s hcall
  have hrefreshes := h.refreshes f hf
  rw [hcall] at hrefreshes
  cases hrefreshes

theorem proceed_turn (h : r.Sound) {i : Nat} (hturn : r.turn? (.proceed i) = some r') :
    r'.Sound := by
  simp only [turn?, Option.map_eq_some_iff] at hturn
  obtain ⟨f, hget, rfl⟩ := hturn
  have hf := List.mem_of_getElem? hget
  obtain ⟨hnext, ⟨released, haudio⟩, hlisted⟩ := Call.refreshes_step (h.refreshes f hf) h.audioMode
  obtain ⟨flat, hflat⟩ := h.lists
  have hlists := h.lists_refresh hf hflat
  have hmode := (Call.mode_step f.call r.mixer.tracker).trans h.mode
  have hheld (s : Session) (hs : s ∈ (f.call.step r.mixer.tracker).2.directory.held) :
      s ∈ r.started := by
    rw [hlists.mem_held] at hs
    rcases Call.flat_of_refreshes (h.refreshes f hf) flat with ⟨fresh, hcall⟩ | ⟨-, hsame⟩
    · rw [hcall] at hs
      exact (h.since f hf fresh hcall).1 s hs
    · rw [hsame, ← hflat.mem_held] at hs
      exact h.held s hs
  have hproceed : (f.proceed r.mixer.tracker).call = (f.call.step r.mixer.tracker).1 := by
    cases hcall : f.call <;> simp [Refresher.proceed, hcall]
  have hrefreshes (g : Refresher) (hg : g ∈ r.refreshers.set i (f.proceed r.mixer.tracker)) :
      g.call.refreshes = true := by
    rcases List.mem_or_eq_of_mem_set hg with hg | rfl
    · exact h.refreshes g hg
    · rwa [hproceed]
  have hsince (g : Refresher) (hg : g ∈ r.refreshers.set i (f.proceed r.mixer.tracker))
      (fresh : List Session) (hcall : g.call = .replace fresh) :
      (∀ s ∈ fresh, s ∈ r.started) ∧ Since fresh g.started g.ended r.live := by
    rcases List.mem_or_eq_of_mem_set hg with hg | rfl
    · exact h.since g hg fresh hcall
    · -- only an enumeration comes to a replacement, and it starts with what is live now
      obtain ⟨henumerate, rfl⟩ := hlisted fresh (hproceed ▸ hcall)
      simp only [Refresher.proceed, henumerate]
      exact ⟨fun s hs => h.live_mem hs, .now r.live⟩
  generalize (f.call.step r.mixer.tracker).2 = tracker at haudio hlists hmode hheld ⊢
  obtain ⟨audio, mode, minInterval, now, directory, count, closing⟩ := tracker
  simp only at haudio hlists hmode hheld
  subst haudio
  exact
    { mode := hmode, audioMode := h.audioMode, lists := ⟨_, hlists⟩, held := hheld
      added := h.added, numbered := h.numbered, live := h.live, made := h.made
      distinct := h.distinct, order := h.order, pump := h.pump, refreshes := hrefreshes
      since := hsince }

/-! ## All steps -/

theorem turn (h : r.Sound) {happening : Happening} (hturn : r.turn? happening = some r') :
    r'.Sound := by
  cases happening with
  | start name key volume => exact h.start hturn
  | finish control => exact h.finish hturn
  | report i => exact h.report hturn
  | pump => exact h.pump_turn hturn
  | refresh force => exact h.refresh_turn hturn
  | proceed i => exact h.proceed_turn hturn
  | classify mappedKeys =>
    cases hturn
    obtain ⟨f, hf⟩ := h.lists
    exact { h with lists := ⟨_, hf.classify mappedKeys⟩ }
  | failEnumeration fail =>
    cases hturn
    exact { h with }
  | clock now =>
    cases hturn
    exact { h with }

end Sound

/-! ## The law -/

theorem lawful_pump {r r' : Reports} (h : r.Sound) (hturn : r.turn? .pump = some r')
    (hlaw : r.Lawful) : r'.Lawful := by
  simp only [turn?, Option.map_eq_some_iff] at hturn
  obtain ⟨⟨pump, mixer⟩, hproceed, rfl⟩ := hturn
  obtain ⟨-, ⟨events, haudio, -⟩, -, hheld, -⟩ := h.pumped hproceed
  have hlive (s : Session) : s ∈ mixer.tracker.audio.live.map (·.handle) ↔ s ∈ r.live := by
    rw [haudio]
    rfl
  constructor
  · intro s hs hs'
    have hs' : s ∈ r.live := (hlive s).mp hs'
    refine (hheld s).mpr ⟨?_, fun hremoved => ?_⟩
    · exact (List.mem_append.mp hs).imp_left fun hs => hlaw.1 s hs hs'
    · exact h.order.gone s (.inr (by simp [Reports.queue, hremoved])) hs'
  · intro s hs hs'
    obtain ⟨hs', hleft⟩ := (hheld s).mp hs'
    rcases List.mem_append.mp hs with hs | hs
    · rcases hs' with hs' | hs'
      · exact hlaw.2 s hs hs'
      · exact h.order.done s hs (by simp [Reports.queue, hs'])
    · exact hleft hs

/-- A refresh breaks the law exactly if it was overtaken when it fills the directory. -/
theorem lawful_proceed {r r' : Reports} {i : Nat} (h : r.Sound)
    (hturn : r.turn? (.proceed i) = some r') (hlaw : r.Lawful) :
    r'.Lawful ↔ ¬ r.Overtaken (.proceed i) := by
  simp only [turn?, Option.map_eq_some_iff] at hturn
  obtain ⟨f, hget, rfl⟩ := hturn
  have hf := List.mem_of_getElem? hget
  obtain ⟨-, ⟨released, haudio⟩, -⟩ := Call.refreshes_step (h.refreshes f hf) h.audioMode
  obtain ⟨flat, hflat⟩ := h.lists
  have hlists := h.lists_refresh hf hflat
  rcases Call.flat_of_refreshes (h.refreshes f hf) flat with ⟨fresh, hcall⟩ | ⟨hcall, hsame⟩
  · obtain ⟨-, hsince⟩ := h.since f hf fresh hcall
    have hreplaced := hsince.replace_iff r.added fun s hs => h.order.gone s (.inl hs)
    simp only [Lawful, Reports.live, Reports.audio, Reports.held, haudio, hlists.mem_held]
    rw [hcall]
    refine hreplaced.trans (not_congr ⟨fun hover => ⟨f, fresh, hget, hcall, hover⟩, ?_⟩)
    rintro ⟨g, listed, hg, hlisted, hover⟩
    cases hget.symm.trans hg
    cases hcall.symm.trans hlisted
    exact hover
  · refine iff_of_true ?_ ?_
    · simp only [Lawful, Reports.live, Reports.audio, Reports.held, haudio, hlists.mem_held, hsame,
        ← hflat.mem_held]
      exact hlaw
    · rintro ⟨g, listed, hg, hlisted, -⟩
      cases hget.symm.trans hg
      exact hcall listed hlisted

/-- Nothing but an overtaken refresh breaks the law. -/
theorem lawful_turn {r r' : Reports} {happening : Happening} (h : r.Sound)
    (hturn : r.turn? happening = some r') (hlaw : r.Lawful) :
    r'.Lawful ↔ ¬ r.Overtaken happening := by
  cases happening with
  | proceed i => exact lawful_proceed h hturn hlaw
  | pump => exact iff_of_true (lawful_pump h hturn hlaw) id
  | start name key volume =>
    cases hturn
    refine iff_of_true ⟨fun s hs hlive => ?_, hlaw.2⟩ id
    obtain ⟨l, hl, rfl⟩ := List.mem_map.mp hlive
    rcases List.mem_append.mp hl with hl | hl
    · exact hlaw.1 _ hs (List.mem_map_of_mem hl)
    · -- the directory cannot have followed a start that was not reported
      rw [List.mem_singleton.mp hl] at hs
      exact absurd (h.made _ (h.added _ hs)) (Nat.lt_irrefl _)
  | finish control =>
    simp only [turn?] at hturn
    split at hturn
    · cases hturn
    · next l audio hend =>
      split at hturn
      · cases hturn
      next =>
      cases hturn
      obtain ⟨-, -, rfl⟩ := MemoryAudio.endSession_eq_some hend
      refine iff_of_true ⟨fun s hs hlive => ?_, hlaw.2⟩ id
      obtain ⟨other, hother, rfl⟩ := List.mem_map.mp hlive
      exact hlaw.1 _ hs (List.mem_map_of_mem (List.mem_of_mem_filter hother))
  | report i =>
    simp only [turn?, Option.map_eq_some_iff] at hturn
    obtain ⟨⟨change, l⟩, -, rfl⟩ := hturn
    obtain ⟨events, hpublish, -⟩ :=
      MemoryAudio.publish_eventDriven h.audioMode change l.handle l.control
    rw [hpublish]
    exact iff_of_true hlaw id
  | refresh force =>
    cases hturn
    exact iff_of_true hlaw id
  | classify mappedKeys =>
    cases hturn
    exact iff_of_true hlaw id
  | failEnumeration fail =>
    cases hturn
    exact iff_of_true hlaw id
  | clock now =>
    cases hturn
    exact iff_of_true hlaw id

theorem not_overtaken_of_stuck {r : Reports} {happening : Happening}
    (hturn : r.turn? happening = none) : ¬ r.Overtaken happening := by
  cases happening with
  | proceed i =>
    rintro ⟨f, -, hget, -⟩
    rw [turn?, hget] at hturn
    cases hturn
  | _ => exact id

/-- In every order of the steps: the law holds all along exactly if no refresh is overtaken
    when it fills the directory. -/
theorem lawful_iff (mappedKeys : List String) (minInterval : Nat) (happenings : List Happening) :
    Run.Always turn? Lawful (new mappedKeys minInterval) happenings ↔
      Run.Along turn? (fun r happening => ¬ r.Overtaken happening) (new mappedKeys minInterval)
        happenings :=
  Run.always_iff_along (fun _ _ _ h hturn => Sound.turn h hturn)
    (fun _ _ _ h hlaw hturn => lawful_turn h hturn hlaw)
    (fun _ _ hturn => not_overtaken_of_stuck hturn) (Sound.new mappedKeys minInterval)
    ⟨fun _ hs => absurd hs List.not_mem_nil, fun _ hs => absurd hs List.not_mem_nil⟩ happenings

/-- A refresh lists the only session; then its end, or the start of a second one, is reported
    and followed before the list takes effect. -/
theorem overtaken_breaks_law :
    let begun : List Happening :=
      [.start "a" "a.exe" defaultVolume, .report 0, .pump, .pump, .pump, .pump, .pump,
        .refresh true, .proceed 0, .proceed 0]
    let ended : List Happening := begun ++ [.finish 0, .report 0, .pump, .pump, .pump, .proceed 0]
    let started : List Happening :=
      begun ++ [.start "b" "b.exe" defaultVolume, .report 0, .pump, .pump, .proceed 0]
    (Run.Along turn? Lossless (new [] 2000) ended ∧
      ¬ Run.Always turn? Lawful (new [] 2000) ended ∧
      ∃ r, Run.after? turn? (new [] 2000) ended = some r ∧ ∃ s ∈ r.removed, s ∈ r.held) ∧
    Run.Along turn? Lossless (new [] 2000) started ∧
      ¬ Run.Always turn? Lawful (new [] 2000) started ∧
      ∃ r, Run.after? turn? (new [] 2000) started = some r ∧ ∃ s ∈ r.added, s ∈ r.live ∧ s ∉ r.held := by
  refine ⟨⟨by decide +kernel, by decide +kernel, _, rfl, by decide +kernel⟩,
    by decide +kernel, by decide +kernel, _, rfl, by decide +kernel⟩

end Reports

end SliderMixer
