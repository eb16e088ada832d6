import SliderMixer.Proofs.Accounting
import SliderMixer.Proofs.Run

/-! # Convergence

Where the audio system reports changes, the directory may be ahead of the reports that wait,
after a refresh, or behind them.  Once it has followed them all, it holds the live sessions.

* `ReportedWork` is anything that can be done as a whole, the next report being one of them.
* `heldAfter`: whether the directory is going to hold a session.
* `Converging`: the reports that wait lead from what the directory holds to what is live.
* `holds_live_when_followed`: so it is after any works in any order, if no report is lost.
-/

namespace SliderMixer

/-! ## Works -/

/-- Anything that can be done as a whole while the mixer runs. -/
inductive ReportedWork where
  | work (w : Work) (running : w ≠ .shutdown := by nofun)
  | handleNext

namespace ReportedWork

/-- An empty directory, no session yet, and the stream of reports handed out. -/
def start (mappedKeys : List String) (minInterval : Nat) : Mixer (Audited MemoryAudio) :=
  { tracker := .new { audio := (MemoryAudio.new .eventDriven).subscribe.2 } .eventDriven mappedKeys
      minInterval }

def perform (m : Mixer (Audited MemoryAudio)) : ReportedWork → Mixer (Audited MemoryAudio)
  | work w _ => w.perform m
  | handleNext => { m with tracker := m.tracker.handleNext.2 }

def turn? (m : Mixer (Audited MemoryAudio)) (w : ReportedWork) : Option (Mixer (Audited MemoryAudio)) :=
  some (w.perform m)

/-- The work reports a change. -/
def reports (a : MemoryAudio) : ReportedWork → Bool
  | work (.addSession ..) _ => true
  | work (.removeSession control) _ => a.live.any fun l => l.control == control
  | work _ _ | handleNext => false

/-- What the work reports finds room, so that no report is lost. -/
def Lossless (m : Mixer (Audited MemoryAudio)) (w : ReportedWork) : Prop :=
  w.reports m.tracker.audio.audio = true → m.tracker.audio.audio.events.hasRoom = true

instance (m : Mixer (Audited MemoryAudio)) (w : ReportedWork) : Decidable (Lossless m w) :=
  inferInstanceAs (Decidable (_ → _))

end ReportedWork

/-! ## Reports that wait -/

/-- Whether a session is held after the reports were followed in order. -/
def heldAfter (s : Session) (held : Bool) (reports : List SessionEvent) : Bool :=
  reports.foldl (fun held e => if e.session = s then e.change == .added else held) held

theorem heldAfter_append_singleton (s : Session) (held : Bool) (reports : List SessionEvent)
    (e : SessionEvent) :
    heldAfter s held (reports ++ [e]) =
      if e.session = s then e.change == .added else heldAfter s held reports := by
  simp [heldAfter]

/-- Following the same reports again changes nothing: only the last report of the session
    counts, if there is one. -/
theorem heldAfter_heldAfter (s : Session) (held : Bool) (reports : List SessionEvent) :
    heldAfter s (heldAfter s held reports) reports = heldAfter s held reports := by
  induction reports generalizing held with
  | nil => rfl
  | cons e rest ih =>
    by_cases h : e.session = s
    · simp [heldAfter, h]
    · simpa [heldAfter, h] using ih held

namespace MemoryAudio

/-- The session was started here, under its key. -/
def Knows (a : MemoryAudio) (s : Session) : Prop :=
  (a.controls[s.id]?).map Control.key = some s.key

theorem Knows.eq_of_same {a : MemoryAudio} {s t : Session} (hs : a.Knows s) (ht : a.Knows t)
    (h : s.same t = true) : s = t := by
  have hid : s.id = t.id := by simpa [Session.same] using h
  obtain ⟨id, key⟩ := s
  obtain ⟨id', key'⟩ := t
  cases hid
  cases hs.symm.trans ht
  rfl

theorem Knows.of_keys {a b : MemoryAudio} {s : Session} (h : a.Knows s)
    (keys : a.controls.map Control.key <+: b.controls.map Control.key) : b.Knows s := by
  rw [Knows, ← List.getElem?_map] at h ⊢
  exact keys.getElem?_eq_some h

theorem keys_changeControl (a : MemoryAudio) (control : Nat) {f : Control → Control}
    (hf : ∀ c, (f c).key = c.key) :
    (a.changeControl control f).controls.map Control.key = a.controls.map Control.key := by
  apply List.ext_getElem?
  intro i
  simp only [changeControl, List.getElem?_map, List.getElem?_modify]
  by_cases h : control = i <;> cases a.controls[i]? <;> simp [h, hf]

theorem setVolume_changes (a : MemoryAudio) (s : Session) (volume : Binary32) :
    ∃ controls : List Control, (a.setVolume s volume).2 = { a with controls } ∧
      controls.map Control.key = a.controls.map Control.key := by
  simp only [setVolume]
  split
  · exact ⟨_, rfl, rfl⟩
  · split
    · exact ⟨_, rfl, rfl⟩
    · split
      · exact ⟨_, rfl, rfl⟩
      · split
        · exact ⟨_, rfl, rfl⟩
        · exact ⟨_, rfl, keys_changeControl a _ fun _ => rfl⟩

end MemoryAudio

/-! ## Invariant -/

/-- The directory holds sessions of the audio system, and the reports that wait make of them
    the live ones. -/
structure Converging (a : MemoryAudio) (d : Directory) : Prop where
  mode : a.mode = .eventDriven
  receiver : a.events.receiverGone = false
  lists : ∃ f, d.Lists f
  /-- A session and its handle have the same number. -/
  numbered : a.controls.length = a.handles.length
  live : ∀ l ∈ a.live, l.control = l.handle.id ∧ a.Knows l.handle
  held : ∀ s ∈ d.held, a.Knows s
  reported : ∀ e ∈ a.events.items, a.Knows e.session
  settled : ∀ s, heldAfter s (decide (s ∈ d.held)) a.events.items =
    decide (s ∈ a.live.map (·.handle))

namespace Converging

variable {a : MemoryAudio} {d : Directory}

theorem new (mappedKeys : List String) :
    Converging (MemoryAudio.new .eventDriven).subscribe.2 (.new mappedKeys) where
  mode := rfl
  receiver := rfl
  lists := ⟨_, .new mappedKeys⟩
  numbered := rfl
  live _ h := absurd h List.not_mem_nil
  held _ h := absurd h List.not_mem_nil
  reported _ h := absurd h List.not_mem_nil
  settled _ := rfl

/-- With nothing left to follow, the directory holds the live sessions. -/
theorem holds_live (h : Converging a d) (hitems : a.events.items = []) (s : Session) :
    s ∈ d.held ↔ s ∈ a.live.map (·.handle) := by
  have hsettled := h.settled s
  rw [hitems] at hsettled
  exact decide_eq_decide.mp hsettled

/-- Changes of volumes, and of what fails, neither start nor end a session. -/
theorem quiet (h : Converging a d) {controls : List Control} {failEnumeration : Bool}
    (hkeys : controls.map Control.key = a.controls.map Control.key) :
    Converging { a with controls, failEnumeration } d := by
  have hknows (s : Session) (hs : a.Knows s) :
      MemoryAudio.Knows { a with controls, failEnumeration } s :=
    hs.of_keys (hkeys ▸ List.prefix_refl _)
  have hlength : controls.length = a.controls.length := by
    simpa using congrArg List.length hkeys
  exact
    { mode := h.mode, receiver := h.receiver, lists := h.lists
      numbered := hlength.trans h.numbered
      live := fun l hl => ⟨(h.live l hl).1, hknows _ (h.live l hl).2⟩
      held := fun s hs => hknows s (h.held s hs)
      reported := fun e he => hknows _ (h.reported e he)
      settled := h.settled }

/-- Another directory that holds the same. -/
theorem directory (h : Converging a d) {d' : Directory} (held : d'.held = d.held)
    (lists : ∃ f, d'.Lists f) : Converging a d' :=
  { h with
    lists := lists
    held := by rw [held]; exact h.held
    settled := by rw [held]; exact h.settled }

theorem setVolume (h : Converging a d) (s : Session) (volume : Binary32) :
    Converging (a.setVolume s volume).2 d := by
  obtain ⟨controls, haudio, hkeys⟩ := a.setVolume_changes s volume
  rw [haudio]
  exact h.quiet hkeys

/-- A session starts, and its start is reported. -/
theorem addSession (h : Converging a d) (hroom : a.events.hasRoom = true)
    (name key : String) (volume : Binary32) : Converging (a.addSession name key volume).2 d := by
  let s : Session := { id := a.handles.length, key }
  let started := (a.startSession name key volume).2
  have hkeys : a.controls.map Control.key <+: started.controls.map Control.key :=
    (List.prefix_append a.controls _).map _
  have hnew : started.Knows s := by
    simp [MemoryAudio.Knows, started, s, MemoryAudio.startSession, MemoryAudio.makeHandle,
      ← h.numbered]
  obtain ⟨reportName, hpublish⟩ :=
    started.publish_of_room h.mode hroom h.receiver .added s a.controls.length
  have hadded : (a.addSession name key volume).2 = started.publish .added s a.controls.length := rfl
  rw [hadded, hpublish]
  refine
    { mode := h.mode, receiver := h.receiver, lists := h.lists
      numbered := ?_, live := ?_
      held := fun t ht => (h.held t ht).of_keys hkeys
      reported := ?_, settled := ?_ }
  · show (a.controls ++ [_]).length = (a.handles ++ [_]).length
    rw [List.length_append, List.length_append, h.numbered]
    rfl
  · intro l hl
    rcases List.mem_append.mp hl with hl | hl
    · exact ⟨(h.live l hl).1, (h.live l hl).2.of_keys hkeys⟩
    · rw [List.mem_singleton.mp hl]
      exact ⟨h.numbered, hnew⟩
  · intro e he
    rcases List.mem_append.mp he with he | he
    · exact (h.reported e he).of_keys hkeys
    · rw [List.mem_singleton.mp he]
      exact hnew
  · intro t
    show heldAfter t _ (a.events.items ++ [_]) = decide (t ∈ List.map _ (a.live ++ [_]))
    rw [heldAfter_append_singleton, h.settled t, List.map_append]
    by_cases ht : s = t
    · simp [ht, s]
    · have ht' : t ≠ s := fun h => ht h.symm
      simp [ht, ht', s]

/-- A session ends, and its end is reported. -/
theorem removeSession (h : Converging a d) (control : Nat)
    (hroom : (a.live.any fun l => l.control == control) = true → a.events.hasRoom = true) :
    Converging (a.removeSession control).2 d := by
  cases hend : a.endSession control with
  | mk found b =>
    cases found with
    | none =>
      have hb : b = a := by
        simp only [MemoryAudio.endSession] at hend
        split at hend <;> cases hend
        rfl
      have hsame : (a.removeSession control).2 = a := by
        simp only [MemoryAudio.removeSession, hend, hb]
      rw [hsame]
      exact h
    | some l =>
      obtain ⟨hl, rfl, rfl⟩ := MemoryAudio.endSession_eq_some hend
      obtain ⟨hid, hknown⟩ := h.live l hl
      let ended : MemoryAudio :=
        { a with live := a.live.filter fun other => other.control != l.control }
      have hroom : ended.events.hasRoom = true := hroom (List.any_eq_true.mpr ⟨l, hl, by simp⟩)
      obtain ⟨reportName, hpublish⟩ :=
        ended.publish_of_room h.mode hroom h.receiver .removed l.handle l.control
      have hremoved : (a.removeSession l.control).2 = ended.publish .removed l.handle l.control := by
        simp only [MemoryAudio.removeSession, hend]
        rfl
      -- the session that ends is the only one with its number
      have hleft (t : Session) : t ∈ ended.live.map (·.handle) ↔
          t ∈ a.live.map (·.handle) ∧ t ≠ l.handle := by
        simp only [ended, List.mem_map, List.mem_filter, bne_iff_ne]
        constructor
        · rintro ⟨other, ⟨hother, hcontrol⟩, rfl⟩
          refine ⟨⟨other, hother, rfl⟩, fun hsame => hcontrol ?_⟩
          rw [(h.live other hother).1, hid, hsame]
        · rintro ⟨⟨other, hother, rfl⟩, hne⟩
          refine ⟨other, ⟨hother, fun hcontrol => hne ?_⟩, rfl⟩
          apply (h.live other hother).2.eq_of_same hknown
          rw [Session.same, ← (h.live other hother).1, ← hid, hcontrol, beq_self_eq_true]
      rw [hremoved, hpublish]
      refine
        { mode := h.mode, receiver := h.receiver, lists := h.lists, numbered := h.numbered
          live := fun other hother => h.live other (List.mem_of_mem_filter hother)
          held := h.held, reported := ?_, settled := ?_ }
      · intro e he
        rcases List.mem_append.mp he with he | he
        · exact h.reported e he
        · rw [List.mem_singleton.mp he]
          exact hknown
      · intro t
        show heldAfter t _ (a.events.items ++ [_]) = decide (t ∈ ended.live.map (·.handle))
        rw [heldAfter_append_singleton, h.settled t]
        by_cases ht : l.handle = t
        · simp [ht, hleft]
        · have ht' : t ≠ l.handle := fun h => ht h.symm
          simp only [ht, if_false, hleft, ht', ne_eq, not_false_eq_true, and_true]

/-- The next report is followed. -/
theorem follow (h : Converging a d) {e : SessionEvent} {rest : List SessionEvent}
    (hitems : a.events.items = e :: rest) {d' : Directory} (lists : ∃ f, d'.Lists f)
    (held : ∀ s, s ∈ d'.held ↔
      match e.change with
      | .added => s ∈ d.held ∨ s = e.session
      | .removed => s ∈ d.held ∧ s ≠ e.session) :
    Converging { a with events := { a.events with items := rest } } d' where
  mode := h.mode
  receiver := h.receiver
  lists := lists
  numbered := h.numbered
  live := h.live
  held s hs := by
    have hsession : a.Knows e.session := h.reported e (by rw [hitems]; exact List.mem_cons_self)
    have hs := (held s).mp hs
    split at hs
    · exact hs.elim (h.held s) fun hs => hs ▸ hsession
    · exact h.held s hs.1
  reported other hother := h.reported other (by rw [hitems]; exact List.mem_cons_of_mem e hother)
  settled s := by
    rw [← h.settled s, hitems]
    show heldAfter s _ rest = heldAfter s (if e.session = s then _ else _) rest
    congr 1
    have hs := held s
    by_cases hsame : e.session = s
    · cases hchange : e.change <;> simp [hchange, hsame] at hs <;> simp [hs, hsame]
    · have hsame' : s ≠ e.session := fun h => hsame h.symm
      cases hchange : e.change <;> simp [hchange, hsame'] at hs <;> simp [hs, hsame]

/-- The directory is filled with the live sessions, and the reports that wait are followed
    after that. -/
theorem replaceAll (h : Converging a d) :
    Converging a (d.replaceAll (a.live.map (·.handle))).2 := by
  obtain ⟨f, hf⟩ := h.lists
  have hlists := hf.replaceAll (a.live.map (·.handle))
  refine { h with lists := ⟨_, hlists⟩, held := fun s hs => ?_, settled := fun s => ?_ }
  · obtain ⟨l, hl, rfl⟩ := List.mem_map.mp (hlists.mem_held.mp hs)
    exact (h.live l hl).2
  · have hheld : decide (s ∈ (d.replaceAll (a.live.map (·.handle))).2.held) =
        heldAfter s (decide (s ∈ d.held)) a.events.items := by
      rw [h.settled s]
      exact decide_eq_decide.mpr hlists.mem_held
    rw [hheld, heldAfter_heldAfter, h.settled s]

end Converging

/-! ## Operations of the tracker -/

namespace Tracker

variable {t : Tracker (Audited MemoryAudio)}

theorem handleNext_of_nil (hitems : t.audio.audio.events.items = []) : t.handleNext.2 = t := by
  simp only [handleNext, AudioSystem.nextEvent, Mailbox.receive, hitems]
  cases t.audio.audio.events.senderGone <;> rfl

theorem handleNext_of_cons {e : SessionEvent} {rest : List SessionEvent}
    (hitems : t.audio.audio.events.items = e :: rest) :
    t.handleNext.2 =
      ({ t with
        audio := { t.audio with
          audio := { t.audio.audio with
            events := { t.audio.audio.events with items := rest } } } } :
        Tracker (Audited MemoryAudio)).handle e := by
  simp [handleNext, AudioSystem.nextEvent, Mailbox.receive, hitems]

end Tracker

/-! ## Runs of works -/

/-- The tracker follows reports, and they lead to the live sessions. -/
def Mixer.Converges (m : Mixer (Audited MemoryAudio)) : Prop :=
  m.tracker.mode = .eventDriven ∧ Converging m.tracker.audio.audio m.tracker.directory

namespace ReportedWork

variable {m : Mixer (Audited MemoryAudio)}

theorem converges_handleNext (h : m.Converges) : (handleNext.perform m).Converges := by
  obtain ⟨hmode, h⟩ := h
  cases hitems : m.tracker.audio.audio.events.items with
  | nil =>
    rw [perform, Tracker.handleNext_of_nil hitems]
    exact ⟨hmode, h⟩
  | cons e rest =>
    obtain ⟨f, hf⟩ := h.lists
    have hknown : m.tracker.audio.audio.Knows e.session :=
      h.reported e (by rw [hitems]; exact List.mem_cons_self)
    have hcopies (t : Session) (ht : t ∈ f.held) (hsame : t.same e.session = true) :
        t = e.session :=
      (h.held t (hf.mem_held.mpr ht)).eq_of_same hknown hsame
    rw [perform, Tracker.handleNext_of_cons hitems]
    refine ⟨(Tracker.handle_frame _ e).2.trans hmode, ?_⟩
    simp only [(Tracker.handle_frame _ e).1, Tracker.directory_handle]
    cases hchange : e.change with
    | added =>
      have hlists := hf.insert e.session
      refine h.follow hitems ⟨_, hlists⟩ fun s => ?_
      simp [hchange, hlists.mem_held, hf.mem_held]
    | removed =>
      have hlists := hf.remove hcopies
      refine h.follow hitems ⟨_, hlists⟩ fun s => ?_
      simp only [hchange, hlists.mem_held, hf.mem_held, FlatDirectory.held_remove, List.mem_filter,
        Bool.not_eq_true', Bool.eq_false_iff]
      refine and_congr_right fun hs => not_congr ⟨hcopies s hs, ?_⟩
      rintro rfl
      simp [Session.same]

theorem converges_refresh (h : m.Converges) (force : Bool) :
    ((Work.refresh force).perform m).Converges := by
  have hbegun (begun : Tracker (Audited MemoryAudio)) (hbegin : m.tracker.beginRefresh force = some begun) :
      begun.mode = .eventDriven ∧ begun.audio = m.tracker.audio ∧
        Converging m.tracker.audio.audio begun.directory := by
    have hheld := Tracker.held_beginRefresh hbegin
    obtain ⟨directory, hdirectory, rfl⟩ := Tracker.beginRefresh_eq_some hbegin
    obtain ⟨f, hf⟩ := h.2.lists
    exact ⟨h.1, rfl, h.2.directory hheld ⟨f, hf.beginRefresh hdirectory⟩⟩
  rcases m.tracker.refresh_cases force with
    ⟨-, hrefresh⟩ | ⟨begun, e, audio, hbegin, hlist, hrefresh⟩ |
    ⟨begun, fresh, audio, hbegin, hlist, hrefresh⟩
  · rw [Work.perform, hrefresh]
    exact h
  · obtain ⟨hmode, haudio, hconverging⟩ := hbegun begun hbegin
    rw [haudio] at hlist
    rw [Work.perform, hrefresh]
    rcases MemoryAudio.enumerate_eventDriven h.2.mode with ⟨error, hfails⟩ | hlists
    · cases hlist.symm.trans (Audited.enumerate_error hfails)
      exact ⟨hmode, hconverging⟩
    · cases hlist.symm.trans (Audited.enumerate_ok hlists)
  · obtain ⟨hmode, haudio, hconverging⟩ := hbegun begun hbegin
    have hreplace := Tracker.replace_eventDriven (t := { begun with audio }) hmode fresh
    rw [haudio] at hlist
    rw [Work.perform, hrefresh, hreplace]
    rcases MemoryAudio.enumerate_eventDriven h.2.mode with ⟨error, hfails⟩ | hlists
    · cases hlist.symm.trans (Audited.enumerate_error hfails)
    · cases hlist.symm.trans (Audited.enumerate_ok hlists)
      exact ⟨hmode, hconverging.replaceAll⟩

theorem converges_work (h : m.Converges) (w : Work) (running : w ≠ .shutdown)
    (lossless : Lossless m (.work w running)) : (w.perform m).Converges := by
  cases w with
  | refresh force => exact converges_refresh h force
  | classify mappedKeys =>
    obtain ⟨f, hf⟩ := h.2.lists
    exact ⟨h.1, h.2.directory rfl ⟨_, hf.classify mappedKeys⟩⟩
  | follow mapping move =>
    refine m.route_induction (P := Mixer.Converges) (fun _ _ h => h) (fun _ _ h => h) ?_ mapping move h
    intro m o s volume h _
    exact ⟨h.1, h.2.setVolume s volume⟩
  | shutdown => exact absurd rfl running
  | clock now => exact h
  | desktop focus => exact h
  | addSession name key volume => exact ⟨h.1, h.2.addSession (lossless rfl) name key volume⟩
  | removeSession control => exact ⟨h.1, h.2.removeSession control lossless⟩
  | setFailing control failing =>
    exact ⟨h.1, h.2.quiet (MemoryAudio.keys_changeControl _ control fun _ => rfl)⟩
  | setFailEnumeration fail => exact ⟨h.1, h.2.quiet rfl⟩

/-- After any works in any order, as long as no report was lost: once no report waits, the
    directory holds exactly the handles of the live sessions. -/
theorem holds_live_when_followed {mappedKeys : List String} {minInterval : Nat}
    {works : List ReportedWork} {m : Mixer (Audited MemoryAudio)}
    (lossless : Run.Along turn? Lossless (start mappedKeys minInterval) works)
    (run : Run.after? turn? (start mappedKeys minInterval) works = some m)
    (followed : m.tracker.audio.audio.events.items = []) (s : Session) :
    s ∈ m.tracker.directory.held ↔ s ∈ m.tracker.audio.audio.live.map (·.handle) := by
  have hm : m.Converges := by
    refine Run.invariant_of_step ⟨rfl, .new mappedKeys⟩ ?_ lossless run
    rintro m w - h hlossless ⟨⟩
    cases w with
    | work w running => exact converges_work h w running hlossless
    | handleNext => exact converges_handleNext h
  exact hm.2.holds_live followed s

/-- A refresh lists one session twice, whose start is still to be followed, and misses one
    that has started and ended by then. -/
theorem holds_live_after_early_refresh :
    let works : List ReportedWork :=
      [.work (.addSession "a" "a.exe" defaultVolume), .work (.addSession "b" "b.exe" defaultVolume),
        .work (.removeSession 1), .work (.refresh true), .handleNext, .handleNext,
        .work (.addSession "c" "c.exe" defaultVolume), .work (.refresh false),
        .work (.classify ["a.exe"]),
        .work (.follow (.ofList [(0, ["a.exe"])]) { slider := 0, value := Binary32.zero }),
        .handleNext, .handleNext]
    Run.Along turn? Lossless (start [] 2000) works ∧
    ∃ m, Run.after? turn? (start [] 2000) works = some m ∧
      m.tracker.audio.audio.events.items = [] ∧ m.tracker.directory.count = 3 ∧
      ∀ s, s ∈ m.tracker.directory.held ↔ s ∈ m.tracker.audio.audio.live.map (·.handle) := by
  intro works
  have lossless : Run.Along turn? Lossless (start [] 2000) works := by decide +kernel
  exact ⟨lossless, _, rfl, by decide +kernel, by decide +kernel,
    holds_live_when_followed lossless rfl (by decide +kernel)⟩

end ReportedWork

end SliderMixer
