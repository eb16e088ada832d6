import SliderMixer.Proofs.AudioCalls

/-! # The order of the published counts

A caller that changed the directory counts the sessions and publishes the number, in two sections.
Others may change the directory and publish in between.

* `Call.owesCount`: the caller has still to publish the number of sessions.
* `Call.outdated`: the number it is about to publish is not the number of sessions any more.
* `CountLog`: the callers with whether the number last published was outdated.
* `tells_count_iff`: once every caller has returned, the number last published is that of the sessions
  exactly if it was not outdated when it was published; `tells_older_count`: it may have been.
-/

namespace SliderMixer

/-! ## Entries -/

namespace Directory

/-- No key has two entries. -/
def NodupKeys (d : Directory) : Prop := (d.sessions.map (·.1)).Nodup

variable {d : Directory}

theorem NodupKeys.insert (h : d.NodupKeys) (s : Session) : (d.insert s).NodupKeys :=
  nodup_keys_insertInto h s

theorem NodupKeys.remove (h : d.NodupKeys) (s : Session) : (d.remove s).2.NodupKeys :=
  List.Nodup.sublist (keys_withoutSession_sublist s d.sessions) h

theorem NodupKeys.foldl_insert (h : d.NodupKeys) (fresh : List Session) :
    (fresh.foldl Directory.insert d).NodupKeys := by
  induction fresh generalizing d with
  | nil => exact h
  | cons s rest ih => exact ih (h.insert s)

/-- An entry without this object keeps the others. -/
theorem held_withoutSession (s : Session) (entries : List (String × List Session)) :
    (entries.filterMap (withoutSession s)).flatMap (·.2) =
      entries.flatMap fun e => if e.1 = s.key then e.2.filter fun other => !other.same s else e.2 := by
  induction entries with
  | nil => rfl
  | cons e rest ih =>
    by_cases hkey : e.1 = s.key
    · -- an entry of which nothing is left goes, which takes no session away
      cases hleft : e.2.filter fun other => !other.same s with
      | nil => simp [withoutSession, hkey, hleft, ih]
      | cons t ts => simp [withoutSession, hkey, hleft, ih]
    · simp [withoutSession, hkey, ih]

/-- A removal that finds nothing takes nothing away. -/
theorem count_remove_of_absent (h : d.NodupKeys) {s : Session} (absent : (d.remove s).1 = false) :
    (d.remove s).2.count = d.count := by
  suffices hheld : (d.remove s).2.held = d.held by
    rw [count_eq_length_held, hheld, count_eq_length_held]
  simp only [held, Directory.remove, held_withoutSession]
  refine List.flatMap_congr fun e he => ?_
  split
  · next hkey =>
    -- the key has no other entry than the one looked up
    have hlookup : d.lookup s.key = some e.2 := lookup_of_mem h (hkey ▸ he)
    simp only [Directory.remove, hlookup, Option.getD_some, List.any_eq_false] at absent
    exact List.filter_eq_self.mpr fun other hother => by simpa using absent other hother
  · rfl

end Directory

/-! ## Sections -/

namespace Call

/-- The caller has still to publish the number of sessions. -/
def owesCount : Call → Bool
  | giveBack _ _ | countSessions _ | publishCount _ _ => true
  | insert _ | erase _ | classify _ | beginRefresh _ | enumerate | replace _ | takeAll
  | claimClosing | closeAudio | finished _ => false

theorem owesCount_of_isFinished {c : Call} (h : c.isFinished = true) : c.owesCount = false := by
  obtain ⟨r, rfl⟩ := eq_finished_of_isFinished h
  rfl

variable {α : Type} {s t : Tracker α}

/-- The caller is about to publish a number that is not the number of sessions any more. -/
def outdated (t : Tracker α) : Call → Bool
  | publishCount n _ => n != t.directory.count
  | insert _ | erase _ | classify _ | beginRefresh _ | enumerate | replace _ | takeAll | giveBack _ _
  | countSessions _ | claimClosing | closeAudio | finished _ => false

variable [AudioSystem α]

theorem nodupKeys_step (c : Call) (h : t.directory.NodupKeys) :
    (c.step t).2.directory.NodupKeys := by
  have hstep := c.stepped t
  generalize c.step t = next at hstep ⊢
  cases hstep with
  | inserts s => exact h.insert s
  | erases _ | misses _ => exact h.remove _
  | begins free =>
    obtain rfl := Directory.beginRefresh_eq_some free
    exact h
  | replaces fresh =>
    have hempty : t.directory.takeAll.2.NodupKeys := List.nodup_nil
    exact hempty.foldl_insert fresh
  | empties => exact List.nodup_nil
  | _ => exact h

/-- A section publishes a number, or leaves the one published.  If it changes the number of sessions,
    the caller owes it from then on. -/
theorem count_step (c : Call) (h : t.directory.NodupKeys) :
    (∃ n next, c = .publishCount n next ∧ (c.step t).2 = t.publishCount n) ∨
    (c.step t).2.count = t.count ∧
      ((c.step t).1.owesCount = true ∨
        c.owesCount = false ∧ (c.step t).2.directory.count = t.directory.count) := by
  have hstep := c.stepped t
  generalize c.step t = next at hstep ⊢
  cases hstep with
  | publishes n result => exact .inl ⟨n, _, rfl, rfl⟩
  | turns n => exact .inl ⟨n, _, rfl, rfl⟩
  | misses absent => exact .inr ⟨rfl, .inr ⟨rfl, Directory.count_remove_of_absent h absent⟩⟩
  | begins free =>
    obtain rfl := Directory.beginRefresh_eq_some free
    exact .inr ⟨rfl, .inr ⟨rfl, rfl⟩⟩
  -- whoever changes the sessions goes on to count them
  | inserts _ | erases _ | replaces _ | empties | returns _ _ _ | returned _ | counts _ =>
    exact .inr ⟨rfl, .inl rfl⟩
  | _ => exact .inr ⟨rfl, .inr ⟨rfl, rfl⟩⟩

/-- A number that has just been counted is not outdated. -/
theorem outdated_step (c : Call) (t : Tracker α) : (c.step t).1.outdated (c.step t).2 = false := by
  have hstep := c.stepped t
  generalize c.step t = next at hstep ⊢
  cases hstep with
  | counts _ => simp [outdated]
  | _ => rfl

/-! ## Operations as a whole -/

/-- What a caller has made of the tracker by itself: it owes the number of sessions, or left it as it
    was, or has published it. -/
structure Counts (s : Tracker α) (c : Call) (t : Tracker α) : Prop where
  nodupKeys : t.directory.NodupKeys
  later : s.count.version ≤ t.count.version
  current : c.outdated t = false
  settled : c.owesCount = true ∨ t.count = s.count ∧ t.directory.count = s.directory.count ∨
    s.count.version < t.count.version ∧ t.count.value = t.directory.count

theorem Counts.step {c : Call} (h : Counts s c t) : Counts s (c.step t).1 (c.step t).2 := by
  have hnodup := c.nodupKeys_step h.nodupKeys
  have hcurrent := outdated_step c t
  rcases c.count_step h.nodupKeys with ⟨n, next, rfl, hstep⟩ | ⟨hcount, howes | ⟨howes, hsame⟩⟩
  · -- nobody came in between, so what it counted is still right
    have hn : n = t.directory.count := by simpa [outdated] using h.current
    rw [hstep] at hnodup hcurrent ⊢
    exact ⟨hnodup, Nat.le_succ_of_le h.later, hcurrent, .inr (.inr ⟨Nat.lt_succ_of_le h.later, hn⟩)⟩
  · exact ⟨hnodup, hcount ▸ h.later, hcurrent, .inl howes⟩
  · refine ⟨hnodup, hcount ▸ h.later, hcurrent, .inr ?_⟩
    rw [hcount, hsame]
    exact h.settled.resolve_left (by simp [howes])

theorem ComesTo.counts {c d : Call} {u : Tracker α} (hto : c.ComesTo t d u) (h : Counts s c t) :
    Counts s d u := by
  induction hto with
  | refl => exact h
  | step _ ih => exact ih h.step

end Call

variable {α : Type}

theorem Operation.outdated_call (op : Operation) (t : Tracker α) : op.call.outdated t = false := by
  cases op with
  | handle e => cases hchange : e.change <;> simp only [call, Call.handle, hchange] <;> rfl
  | _ => rfl

variable [AudioSystem α]

/-- An operation done as a whole leaves the number of sessions, or publishes the one it makes. -/
theorem Operation.counts_perform (op : Operation) {t : Tracker α} (h : t.directory.NodupKeys) :
    (op.perform t).directory.NodupKeys ∧
      ((op.perform t).count = t.count ∧ (op.perform t).directory.count = t.directory.count ∨
        t.count.version < (op.perform t).count.version ∧
          (op.perform t).count.value = (op.perform t).directory.count) := by
  have hcounts : Call.Counts t (.finished (op.result t)) (op.perform t) :=
    (op.comesTo_perform t).counts ⟨h, Nat.le_refl _, op.outdated_call t, .inr (.inl ⟨rfl, rfl⟩)⟩
  exact ⟨hcounts.nodupKeys, hcounts.settled.resolve_left (by simp [Call.owesCount])⟩

/-! ## Callers -/

namespace Callers

/-- The number that the turn publishes is not the number of sessions any more. -/
def outdated (c : Callers α) : Turn α → Bool
  | .proceed i => c.callers[i]?.any fun caller => caller.call.outdated c.tracker
  | .begin _ | .perform _ | .audio _ | .clock _ => false

end Callers

/-- The callers at a tracker, and whether the number last published was outdated by then. -/
structure CountLog (α : Type) extends Callers α where
  /-- At the start the number published is that of an empty directory. -/
  late : Bool := false

namespace CountLog

def start (audio : α) (mode : TrackingMode) (mappedKeys : List String) (minInterval : Nat) :
    CountLog α :=
  { Callers.new audio mode mappedKeys minInterval with }

def turn? (x : CountLog α) (turn : Turn α) : Option (CountLog α) :=
  (x.toCallers.turn? turn).map fun c =>
    { c with
      late := if c.tracker.count.news x.tracker.count.version then x.outdated turn else x.late }

def Returned (x : CountLog α) : Prop := ∀ caller ∈ x.callers, caller.call.isFinished = true

instance (x : CountLog α) : Decidable x.Returned :=
  inferInstanceAs (Decidable (∀ caller ∈ x.callers, caller.call.isFinished = true))

def TellsCount (x : CountLog α) : Prop := x.tracker.count.value = x.tracker.sessionCount

instance (x : CountLog α) : Decidable x.TellsCount :=
  inferInstanceAs (Decidable (x.tracker.count.value = x.tracker.sessionCount))

/-- Someone has still to publish the number of sessions, or the number last published is right
    unless it was outdated. -/
structure Told (x : CountLog α) : Prop where
  nodupKeys : x.tracker.directory.NodupKeys
  tells : (∃ caller ∈ x.callers, caller.call.owesCount = true) ∨ (x.TellsCount ↔ x.late = false)

variable {x y : CountLog α}

omit [AudioSystem α] in
theorem told_start (audio : α) (mode : TrackingMode) (mappedKeys : List String)
    (minInterval : Nat) : (start audio mode mappedKeys minInterval).Told :=
  ⟨List.nodup_nil, .inr (iff_of_true rfl rfl)⟩

/-- A turn that leaves the number of sessions and the one published leaves it as it was. -/
theorem tellsCount_iff_of_unchanged {turn : Turn α} (hturn : x.turn? turn = some y)
    (hcount : y.tracker.count = x.tracker.count)
    (hsame : y.tracker.directory.count = x.tracker.directory.count)
    (h : x.TellsCount ↔ x.late = false) : y.TellsCount ↔ y.late = false := by
  have hlate : y.late = x.late := by
    obtain ⟨c, -, rfl⟩ := Option.map_eq_some_iff.mp hturn
    dsimp only at hcount
    simp [hcount, Watched.news]
  rw [hlate, ← h, TellsCount, TellsCount, Tracker.sessionCount, Tracker.sessionCount, hcount, hsame]

theorem told_proceed (h : x.Told) {i : Nat} (hturn : x.turn? (.proceed i) = some y) : y.Told := by
  have hunchanged := tellsCount_iff_of_unchanged hturn
  simp only [turn?, Callers.turn?, Option.map_eq_some_iff] at hturn
  obtain ⟨_, ⟨caller, hget, rfl⟩, rfl⟩ := hturn
  refine ⟨caller.call.nodupKeys_step h.nodupKeys, ?_⟩
  have hi : i < x.callers.length := (List.getElem?_eq_some_iff.mp hget).1
  rcases caller.call.count_step h.nodupKeys with
    ⟨n, next, hcall, hstep⟩ | ⟨hcount, howes | ⟨howes, hsame⟩⟩
  · -- what is published is right exactly if it is not outdated
    have houtdated : x.outdated (.proceed i) = (n != x.tracker.directory.count) := by
      simp [Callers.outdated, hget, hcall, Call.outdated]
    refine .inr ?_
    simp [TellsCount, hstep, Tracker.publishCount, Tracker.sessionCount, Watched.send, Watched.news,
      houtdated]
  · exact .inl ⟨_, List.mem_of_getElem? (List.getElem?_set_self hi), howes⟩
  · -- the caller that owes a number, if there is one, is another
    exact h.tells.imp (Callers.exists_mem_set hget fun howed => by simp [howes] at howed)
      (hunchanged hcount hsame)

theorem told_turn {turn : Turn α} (h : x.Told) (hturn : x.turn? turn = some y) : y.Told := by
  have hunchanged := tellsCount_iff_of_unchanged hturn
  cases turn with
  | begin op =>
    cases hturn
    refine ⟨h.nodupKeys, h.tells.imp ?_ (hunchanged rfl rfl)⟩
    rintro ⟨caller, hcaller, howes⟩
    exact ⟨caller, List.mem_append_left _ hcaller, howes⟩
  | proceed i => exact told_proceed h hturn
  | perform op =>
    cases hturn
    obtain ⟨hnodup, ⟨hcount, hsame⟩ | ⟨hlater, hvalue⟩⟩ := op.counts_perform h.nodupKeys
    · exact ⟨hnodup, h.tells.imp_right (hunchanged hcount hsame)⟩
    · refine ⟨hnodup, .inr (iff_of_true hvalue ?_)⟩
      simp [Watched.news, Callers.outdated, hlater.ne']
  | audio audio | clock now =>
    cases hturn
    exact ⟨h.nodupKeys, h.tells.imp_right (hunchanged rfl rfl)⟩

/-- However the sections of the callers come: once all have returned, the number last published is the
    number of sessions exactly if it was so when it was published.  In particular it is, if no caller
    publishes a number that others have outdated since it was counted. -/
theorem tells_count_iff {audio : α} {mode : TrackingMode} {mappedKeys : List String}
    {minInterval : Nat} {turns : List (Turn α)}
    (run : Run.after? turn? (start audio mode mappedKeys minInterval) turns = some x)
    (returned : x.Returned) :
    (x.TellsCount ↔ x.late = false) ∧
    (Run.Along turn? (fun y turn => y.outdated turn = false)
        (start audio mode mappedKeys minInterval) turns → x.TellsCount) := by
  have h : x.Told := Run.invariant (told_start audio mode mappedKeys minInterval)
    (fun _ _ _ h hturn => told_turn h hturn) run
  have hiff : x.TellsCount ↔ x.late = false := by
    refine h.tells.resolve_left ?_
    rintro ⟨caller, hcaller, howes⟩
    simp [Call.owesCount_of_isFinished (returned caller hcaller)] at howes
  -- what is not outdated when it is published is never noted as late
  refine ⟨hiff, fun current => hiff.mpr ?_⟩
  refine Run.invariant_of_step (P := fun y => y.late = false) rfl ?_ current run
  intro y turn z hlate hcurrent hturn
  obtain ⟨callers, -, rfl⟩ := Option.map_eq_some_iff.mp hturn
  simp [hlate, hcurrent]

/-- Two sessions are added at the same time.  First one caller publishes an outdated number, and the
    other one a number that is right; then both count when both sessions are there. -/
theorem tells_count_two_adds :
    let start : CountLog MemoryAudio := .start (.new .polling) .polling [] 2000
    let adds : List (Turn MemoryAudio) :=
      [.begin (.add { id := 0, key := "a.exe" }), .begin (.add { id := 1, key := "b.exe" })]
    let overtaken : List (Turn MemoryAudio) :=
      adds ++ [.proceed 0, .proceed 0, .proceed 1, .proceed 0, .proceed 1, .proceed 1]
    let inTime : List (Turn MemoryAudio) :=
      adds ++ [.proceed 0, .proceed 1, .proceed 1, .proceed 0, .proceed 1, .proceed 0]
    (∃ x, Run.after? turn? start overtaken = some x ∧ x.Returned ∧
      ¬ Run.Along turn? (fun y turn => y.outdated turn = false) start overtaken ∧
      (x.TellsCount ↔ x.late = false) ∧ x.TellsCount) ∧
    ∃ x, Run.after? turn? start inTime = some x ∧ x.Returned ∧
      Run.Along turn? (fun y turn => y.outdated turn = false) start inTime ∧ x.TellsCount := by
  intro start adds overtaken inTime
  obtain ⟨x, run, returned, hlate⟩ : ∃ x ∈ Run.after? turn? start overtaken,
      x.Returned ∧ x.late = false := by
    decide +kernel
  have hovertaken : ¬ Run.Along turn? (fun y turn => y.outdated turn = false) start overtaken := by
    decide +kernel
  obtain ⟨y, run', returned'⟩ : ∃ y ∈ Run.after? turn? start inTime, y.Returned := by
    decide +kernel
  have current : Run.Along turn? (fun y turn => y.outdated turn = false) start inTime := by
    decide +kernel
  obtain ⟨hiff, -⟩ := tells_count_iff run returned
  obtain ⟨-, htells⟩ := tells_count_iff run' returned'
  exact ⟨⟨x, run, returned, hovertaken, hiff, hiff.mpr hlate⟩, y, run', returned', current,
    htells current⟩

/-- Of two sessions added at the same time the directory holds both, and the number last published
    is one. -/
theorem tells_older_count :
    let turns : List (Turn MemoryAudio) :=
      [.begin (.add { id := 0, key := "a.exe" }), .begin (.add { id := 1, key := "b.exe" }),
        .proceed 0, .proceed 0, .proceed 1, .proceed 1, .proceed 1, .proceed 0]
    ∃ x, Run.after? turn? (.start (.new .polling) .polling [] 2000) turns = some x ∧ x.Returned ∧
      x.tracker.sessionCount = 2 ∧ x.tracker.count.value = 1 ∧ ¬ x.TellsCount := by
  intro turns
  obtain ⟨x, run, returned, hsessions, hvalue⟩ : ∃ x ∈ Run.after? turn?
      (.start (.new .polling) .polling [] 2000) turns,
      x.Returned ∧ x.tracker.sessionCount = 2 ∧ x.tracker.count.value = 1 := by
    decide +kernel
  refine ⟨x, run, returned, hsessions, hvalue, fun h => ?_⟩
  rw [TellsCount, hsessions, hvalue] at h
  cases h

end CountLog

end SliderMixer
