import SliderMixer.Proofs.OnePass
import SliderMixer.Proofs.Readings
import SliderMixer.Proofs.Sliders

/-! # Volumes follow the sliders

Lines are decoded one after the other, and their moves are routed in order, with an audio system in
memory and plain targets only.

* `Mixer.follow`: the mixer after the moves of all lines.
* `Mixer.Followed`: every session held is at the volume of the latest move of a slider that names it.
* `followed_route`: each move keeps that up, and `volumes_follow`: so do all lines.
-/

namespace SliderMixer

/-! ## Lines -/

namespace Decoder

theorem inUnitInterval_of_mem_decode {d : Decoder} {line : String} {move : Move}
    (h : move ∈ (d.decode line).1) : move.value.inUnitInterval = true := by
  cases hparse : Frame.parse line.toList d.settings.thresholds.maxReading with
  | error e => simp [decode_of_error hparse] at h
  | ok values =>
    rw [decode_of_ok hparse] at h
    obtain ⟨i, e, hchange, rfl⟩ := mem_movesFrom.mp h
    rw [getElem?_changes] at hchange
    obtain ⟨v, -, haccept⟩ := Option.map_eq_some_iff.mp hchange
    simp only
    rw [(accept?_eq_some haccept).2]
    exact d.settings.inUnitInterval_volume e.reading

theorem inUnitInterval_of_mem_decodeAll {d : Decoder} {lines : List String} {move : Move}
    (h : move ∈ (d.decodeAll lines).1) : move.value.inUnitInterval = true := by
  induction lines generalizing d with
  | nil => cases h
  | cons line rest ih =>
    rcases List.mem_append.mp h with h | h
    · exact inUnitInterval_of_mem_decode h
    · exact ih h

end Decoder

theorem Observed.foldl_line (o : Observed) (lines : List String) :
    ((lines.map Decoder.Call.line).foldl call o).decoder = (o.decoder.decodeAll lines).2 ∧
      ((lines.map Decoder.Call.line).foldl call o).table =
        heard o.table (o.decoder.decodeAll lines).1 := by
  induction lines generalizing o with
  | nil => exact ⟨rfl, rfl⟩
  | cons line rest ih =>
    obtain ⟨hdecoder, htable⟩ := ih (o.call (.line line))
    refine ⟨hdecoder, htable.trans ?_⟩
    simp [heard, call, Decoder.decodeAll]

/-- The latest move of a slider of the last frame is what the decoder gave out last for it. -/
theorem Decoder.latest_decodeAll {settings : DecoderSettings} {lines : List String} {slider : Nat}
    (h : slider < ((Decoder.new settings).decodeAll lines).2.sliderCount) :
    ∃ v, latest (· == slider) ((Decoder.new settings).decodeAll lines).1 = some v ∧
      ((Decoder.new settings).decodeAll lines).2.lastValue? slider = some v := by
  obtain ⟨hdecoder, htable⟩ := Observed.foldl_line (.start settings) lines
  have hstep := Observed.inStep_foldl (.start settings) (lines.map Decoder.Call.line)
  have hknown := hstep.known slider
  rw [hdecoder, htable, heard_eq_latest] at hknown
  obtain ⟨e, hentry, hlatest⟩ := hknown h
  -- the table was empty, so the entry can only come from a move
  exact ⟨e.value, by simpa [Observed.start] using hlatest, lastValue?_eq_some hentry⟩

namespace Mixer

section

variable {α : Type} [AudioSystem α]

/-- Decodes lines and routes their moves, one line after the other. -/
def follow (m : Mixer α) (mapping : SliderMapping) (d : Decoder) : List String → Decoder × Mixer α
  | [] => (d, m)
  | line :: rest =>
    let (moves, d) := d.decode line
    (m.routeAll mapping moves).2.follow mapping d rest

theorem routeAll_append (m : Mixer α) (mapping : SliderMapping) (moves later : List Move) :
    (m.routeAll mapping (moves ++ later)).2 =
      ((m.routeAll mapping moves).2.routeAll mapping later).2 := by
  induction moves generalizing m with
  | nil => rfl
  | cons move rest ih => exact ih _

theorem follow_eq (m : Mixer α) (mapping : SliderMapping) (d : Decoder) (lines : List String) :
    m.follow mapping d lines =
      ((d.decodeAll lines).2, (m.routeAll mapping (d.decodeAll lines).1).2) := by
  induction lines generalizing m d with
  | nil => rfl
  | cons line rest ih =>
    have hmoves : (d.decodeAll (line :: rest)).1 =
        (d.decode line).1 ++ ((d.decode line).2.decodeAll rest).1 := rfl
    rw [hmoves, routeAll_append]
    exact ih _ _

end

end Mixer

/-! ## Naming -/

/-- Some target of the slider is the key, in any letter case. -/
def SliderMapping.names (mapping : SliderMapping) (key : String) (slider : Nat) : Bool :=
  ((mapping.get? slider).getD []).any fun target => lower target == key

theorem Mixer.mem_reached_plain {α : Type} {m : Mixer α} {f : FlatDirectory}
    (h : m.tracker.directory.Lists f) {mapping : SliderMapping} {slider : Nat}
    {targets : List String} (entry : mapping.get? slider = some targets)
    (plain : ∀ target ∈ targets, Target.IsPlain target) {s : Session} :
    s ∈ m.reached targets ↔ s ∈ f.held ∧ mapping.names s.key slider = true := by
  simp only [reached, List.mem_flatMap, SliderMapping.names, entry, Option.getD_some, List.any_eq_true,
    beq_iff_eq]
  constructor
  · rintro ⟨target, htarget, hs⟩
    obtain ⟨hheld, hkey⟩ := (mem_standsFor_plain h (plain target htarget)).mp hs
    exact ⟨hheld, target, htarget, hkey.symm⟩
  · rintro ⟨hheld, target, htarget, hkey⟩
    exact ⟨target, htarget, (mem_standsFor_plain h (plain target htarget)).mpr ⟨hheld, hkey.symm⟩⟩

namespace MemoryAudio

/-- The handle is not given back, and its session does not fail and has the key of the handle. -/
structure Responds (a : MemoryAudio) (s : Session) : Prop where
  accepts : a.accepts s = true
  keyed : ∀ c, a.behind? s = some c → c.key = s.key

variable {a : MemoryAudio} {s t : Session} {i : Nat}

theorem Responds.isSome_behind? (h : a.Responds s) : (a.behind? s).isSome = true := by
  obtain ⟨-, i, c, hcontrol, hc, -⟩ := accepts_iff.mp h.accepts
  simp [behind?, hcontrol, hc]

theorem Responds.control (h : a.Responds s) (hcontrol : a.control? s = some i) :
    ∃ c, a.controls[i]? = some c ∧ c.failing = false ∧ c.key = s.key := by
  obtain ⟨-, j, c, hcontrol', hc, hfailing⟩ := accepts_iff.mp h.accepts
  obtain rfl : i = j := by simpa [hcontrol] using hcontrol'
  exact ⟨c, hc, hfailing, h.keyed c (by simp [behind?, hcontrol, hc])⟩

theorem Responds.key_eq (hs : a.Responds s) (ht : a.Responds t) (hcontrol : a.control? s = some i)
    (hsame : a.control? t = some i) : s.key = t.key := by
  obtain ⟨c, hc, -, hkey⟩ := hs.control hcontrol
  obtain ⟨d, hd, -, hkey'⟩ := ht.control hsame
  obtain rfl : c = d := by simpa [hc] using hd
  exact hkey.symm.trans hkey'

end MemoryAudio

/-! ## Following moves -/

namespace Mixer

/-- From the first mixer to the second, moves were routed.  The directory is the same, calls were
    made for sessions that a move named, and every session is at the volume of the latest move that
    names it, or untouched. -/
structure Followed (mapping : SliderMapping) (m : Mixer (Audited MemoryAudio)) (moves : List Move)
    (m' : Mixer (Audited MemoryAudio)) : Prop where
  directory : m'.tracker.directory = m.tracker.directory
  memory : m'.memory = { m.memory with controls := m'.memory.controls }
  calls : ∃ made, m'.tracker.audio.attempts = m.tracker.audio.attempts ++ made ∧
    ∀ call ∈ made, call.1 ∈ m.tracker.directory.held ∧
      (latest (mapping.names call.1.key) moves).isSome = true
  volumes : ∀ s ∈ m.tracker.directory.held, ∀ i c, m.memory.control? s = some i →
    m.memory.controls[i]? = some c → ∃ c', m'.memory.controls[i]? = some c' ∧
      c'.key = c.key ∧ c'.failing = c.failing ∧
      (latest (mapping.names s.key) moves = none → c' = c) ∧
      ∀ v, latest (mapping.names s.key) moves = some v → c'.volume.WithinMillionth v

namespace Followed

variable {mapping : SliderMapping} {m m' : Mixer (Audited MemoryAudio)} {f : FlatDirectory}
  {moves : List Move} {move : Move}

theorem refl (m : Mixer (Audited MemoryAudio)) : Followed mapping m [] m where
  directory := rfl
  memory := rfl
  calls := ⟨[], by simp, by simp⟩
  volumes _ _ _ c _ hc := ⟨c, hc, rfl, rfl, fun _ => rfl, fun v hv => by simp [latest] at hv⟩

theorem control? (h : Followed mapping m moves m') (s : Session) :
    m'.memory.control? s = m.memory.control? s := by
  rw [h.memory]
  rfl

theorem isReleased (h : Followed mapping m moves m') (s : Session) :
    m'.memory.isReleased s = m.memory.isReleased s := by
  rw [h.memory]
  rfl

theorem responds (h : Followed mapping m moves m') {s : Session}
    (hs : s ∈ m.tracker.directory.held) (hresponds : m.memory.Responds s) : m'.memory.Responds s := by
  obtain ⟨hreleased, i, c, hcontrol, hc, hfailing⟩ := MemoryAudio.accepts_iff.mp hresponds.accepts
  obtain ⟨c', hc', hkey, hfails, -⟩ := h.volumes s hs i c hcontrol hc
  have hbehind : m.memory.behind? s = some c := by simp [MemoryAudio.behind?, hcontrol, hc]
  have hbehind' : m'.memory.behind? s = some c' := by
    simp [MemoryAudio.behind?, h.control?, hcontrol, hc']
  refine ⟨MemoryAudio.accepts_iff.mpr ⟨(h.isReleased s).trans hreleased, i, c',
    (h.control? s).trans hcontrol, hc', hfails.trans hfailing⟩, fun d hd => ?_⟩
  obtain rfl : c' = d := by simpa [hbehind'] using hd
  exact hkey.trans (hresponds.keyed c hbehind)

theorem skip (h : Followed mapping m moves m') (entry : mapping.get? move.slider = none) :
    Followed mapping m (moves ++ [move]) (m'.route mapping move).2 := by
  -- a slider without targets names no session
  have hlatest (key : String) :
      latest (mapping.names key) (moves ++ [move]) = latest (mapping.names key) moves := by
    simp [latest_snoc, SliderMapping.names, entry]
  rw [m'.route_of_get?_none entry]
  exact { h with
    calls := by simpa only [hlatest] using h.calls
    volumes := by simpa only [hlatest] using h.volumes }

theorem route (h : Followed mapping m moves m') (lists : m.tracker.directory.Lists f)
    (responds : ∀ s ∈ m.tracker.directory.held, m.memory.Responds s)
    (value : move.value.inUnitInterval = true) {targets : List String}
    (entry : mapping.get? move.slider = some targets)
    (plain : ∀ target ∈ targets, Target.IsPlain target) :
    Followed mapping m (moves ++ [move]) (m'.route mapping move).2 := by
  have lists' : m'.tracker.directory.Lists f := h.directory ▸ lists
  have hreached (s : Session) : s ∈ m'.reached targets ↔
      s ∈ m.tracker.directory.held ∧ mapping.names s.key move.slider = true := by
    rw [mem_reached_plain lists' entry plain, lists.mem_held]
  have hresponds (s : Session) (hs : s ∈ m.tracker.directory.held) : m'.memory.Responds s :=
    h.responds hs (responds s hs)
  have hin (s : Session) (hs : s ∈ m'.reached targets) : (m'.memory.behind? s).isSome = true :=
    (hresponds s ((hreached s).mp hs).1).isSome_behind?
  have hrouted := routed lists' value hin entry
  constructor
  case directory => exact (congrArg (·.directory) hrouted.tracker).trans h.directory
  case memory =>
    have hmemory : (m'.route mapping move).2.memory =
        { m'.memory with controls := (m'.route mapping move).2.memory.controls } :=
      congrArg (·.audio.audio) hrouted.tracker
    exact hmemory.trans (by rw [h.memory])
  case calls =>
    obtain ⟨made, hmade, hcalls⟩ := h.calls
    refine ⟨_, by rw [hrouted.attempts, hmade, List.append_assoc], fun call hcall => ?_⟩
    rcases List.mem_append.mp hcall with hcall | hcall
    · refine ⟨(hcalls call hcall).1, ?_⟩
      rw [latest_snoc]
      split
      · rfl
      · exact (hcalls call hcall).2
    · obtain ⟨hheld, hnames⟩ := (hreached call.1).mp (hrouted.calls call hcall).1
      exact ⟨hheld, by simp [latest_snoc, hnames]⟩
  case volumes =>
    intro s hs i c hcontrol hc
    obtain ⟨c', hc', hkey, hfailing, hnone, hsome⟩ := h.volumes s hs i c hcontrol hc
    have hcontrol' : m'.memory.control? s = some i := (h.control? s).trans hcontrol
    cases hnames : mapping.names s.key move.slider with
    | true =>
      obtain ⟨v, hwithin, hbrought, -⟩ := hrouted.brought s ((hreached s).mpr ⟨hs, hnames⟩)
        (hresponds s hs).accepts i c' hcontrol' hc'
      exact ⟨_, hbrought, hkey, hfailing, by simp [latest_snoc, hnames],
        by simpa [latest_snoc, hnames] using hwithin⟩
    | false =>
      -- another handle that is reached has another key, and so another session behind it
      have huntouched : (m'.route mapping move).2.memory.controls[i]? = m'.memory.controls[i]? := by
        refine hrouted.untouched i fun t ht htcontrol => ?_
        obtain ⟨htheld, htnames⟩ := (hreached t).mp ht
        rw [(hresponds t htheld).key_eq (hresponds s hs) htcontrol hcontrol', hnames] at htnames
        cases htnames
      refine ⟨c', huntouched.trans hc', hkey, hfailing, ?_, ?_⟩
      · simpa [latest_snoc, hnames] using hnone
      · simpa [latest_snoc, hnames] using hsome

end Followed

theorem followed_route {mapping : SliderMapping} {m m' : Mixer (Audited MemoryAudio)}
    {f : FlatDirectory} {moves : List Move} {move : Move} (h : Followed mapping m moves m')
    (lists : m.tracker.directory.Lists f)
    (responds : ∀ s ∈ m.tracker.directory.held, m.memory.Responds s)
    (plain : ∀ slider target, mapping.Carries slider target → Target.IsPlain target)
    (value : move.value.inUnitInterval = true) :
    Followed mapping m (moves ++ [move]) (m'.route mapping move).2 := by
  cases entry : mapping.get? move.slider with
  | none => exact h.skip entry
  | some targets =>
    exact h.route lists responds value entry fun target htarget =>
      plain move.slider target ⟨targets, entry, htarget⟩

theorem followed_routeAll {mapping : SliderMapping} {m m' : Mixer (Audited MemoryAudio)}
    {f : FlatDirectory} {past : List Move} (h : Followed mapping m past m')
    (lists : m.tracker.directory.Lists f)
    (responds : ∀ s ∈ m.tracker.directory.held, m.memory.Responds s)
    (plain : ∀ slider target, mapping.Carries slider target → Target.IsPlain target)
    {moves : List Move} (values : ∀ move ∈ moves, move.value.inUnitInterval = true) :
    Followed mapping m (past ++ moves) (m'.routeAll mapping moves).2 := by
  induction moves generalizing past m' with
  | nil => simpa [routeAll] using h
  | cons move rest ih =>
    obtain ⟨hmove, hrest⟩ := List.forall_mem_cons.mp values
    have hnext := ih (followed_route h lists responds plain hmove) hrest
    simpa [routeAll] using hnext

/-- In every directory that callers make, of sessions in memory that accept volumes: after any lines,
    each session is at the volume of the latest move of a slider that has a target for it, or is as
    it was and got no call.  If a slider of the last frame is the only one with a target for it, it
    is at the last volume of that slider. -/
theorem volumes_follow {keyOf : Nat → String} {audio : Audited MemoryAudio} {mode : TrackingMode}
    {mappedKeys : List String} {minInterval : Nat} {turns : List (Turn (Audited MemoryAudio))}
    {callers : Callers (Audited MemoryAudio)} {m : Mixer (Audited MemoryAudio)}
    {mapping : SliderMapping}
    (constant : Run.Along Callers.turn? (Callers.KeysConstant keyOf)
      (.new audio mode mappedKeys minInterval) turns)
    (run : Run.after? Callers.turn? (.new audio mode mappedKeys minInterval) turns = some callers)
    (tracker : m.tracker = callers.tracker)
    (responds : ∀ s ∈ m.tracker.directory.held, m.memory.Responds s)
    (plain : ∀ slider target, mapping.Carries slider target → Target.IsPlain target)
    (settings : DecoderSettings) (lines : List String) :
    let moves := ((Decoder.new settings).decodeAll lines).1
    let decoder := (m.follow mapping (.new settings) lines).1
    let after := (m.follow mapping (.new settings) lines).2
    after.tracker.directory = m.tracker.directory ∧
    ∃ made, after.tracker.audio.attempts = m.tracker.audio.attempts ++ made ∧
      ∀ s ∈ m.tracker.directory.held, ∀ i c, m.memory.control? s = some i →
        m.memory.controls[i]? = some c → ∃ c', after.memory.controls[i]? = some c' ∧
          (∀ v, latest (mapping.names s.key) moves = some v → c'.volume.WithinMillionth v) ∧
          (latest (mapping.names s.key) moves = none →
            c' = c ∧ ∀ call ∈ made, m.memory.control? call.1 ≠ some i) ∧
          ∀ slider < decoder.sliderCount,
            (∀ other, mapping.names s.key other = true ↔ other = slider) →
            ∃ v, decoder.lastValue? slider = some v ∧ c'.volume.WithinMillionth v := by
  intro moves decoder after
  have hlists : m.tracker.directory.Lists callers.flat :=
    tracker ▸ (Callers.follows_of_run constant run).lists
  have hfollowed : Followed mapping m moves (m.routeAll mapping moves).2 :=
    followed_routeAll (.refl m) hlists responds plain
      fun _ hmove => Decoder.inUnitInterval_of_mem_decodeAll hmove
  have hafter : after = (m.routeAll mapping moves).2 := congrArg (·.2) (m.follow_eq mapping _ lines)
  have hdecoder : decoder = ((Decoder.new settings).decodeAll lines).2 :=
    congrArg (·.1) (m.follow_eq mapping _ lines)
  obtain ⟨made, hmade, hcalls⟩ := hfollowed.calls
  rw [hafter]
  refine ⟨hfollowed.directory, made, hmade, fun s hs i c hcontrol hc => ?_⟩
  obtain ⟨c', hc', -, -, hnone, hsome⟩ := hfollowed.volumes s hs i c hcontrol hc
  refine ⟨c', hc', hsome, fun hsilent => ⟨hnone hsilent, fun call hcall hsame => ?_⟩, ?_⟩
  · -- handles of one session have one key, and no move named it
    obtain ⟨hheld, hnamed⟩ := hcalls call hcall
    rw [(responds call.1 hheld).key_eq (responds s hs) hsame hcontrol, hsilent] at hnamed
    cases hnamed
  · intro slider hslider honly
    rw [hdecoder] at hslider ⊢
    obtain ⟨v, hlatest, hlast⟩ := Decoder.latest_decodeAll hslider
    have hnames : mapping.names s.key = (· == slider) := by
      funext other
      rw [Bool.eq_iff_iff, honly, beq_iff_eq]
    exact ⟨v, hlast, hsome v (hnames ▸ hlatest)⟩

/-- Two sliders have a target for one session, and one of them also for another.  A line is torn, and
    the last one moves the first slider only.  The third session has no slider. -/
theorem volumes_follow_shared :
    let keyOf (id : Nat) : String := ["a.exe", "b.exe", "c.exe"].getD (id % 3) ""
    let started := (List.range 3).foldl (fun a id => (a.startSession "" (keyOf id) defaultVolume).2)
      (MemoryAudio.new .polling)
    let handles := (List.range 3).map fun id => ({ id, key := keyOf id } : Session)
    let mapping : SliderMapping := .ofList [(0, ["A.exe"]), (1, ["a.exe", "B.EXE"])]
    let start : Callers (Audited MemoryAudio) := .new { audio := started } .polling mapping.keys 2000
    let turns : List (Turn (Audited MemoryAudio)) := handles.map fun s => .perform (.add s)
    let m : Mixer (Audited MemoryAudio) := { tracker := handles.foldl Tracker.add start.tracker }
    let lines := ["0|512\n", "512|1023", "1023|515\r\n"]
    let decoder := (m.follow mapping (.new {}) lines).1
    let after := (m.follow mapping (.new {}) lines).2
    Run.Along Callers.turn? (Callers.KeysConstant keyOf) start turns ∧
    (∃ callers, Run.after? Callers.turn? start turns = some callers ∧ m.tracker = callers.tracker) ∧
    decoder.sliderCount = 2 ∧
    (∃ c, after.memory.controls[0]? = some c ∧ c.volume.WithinMillionth Binary32.one) ∧
    (∃ c v, after.memory.controls[1]? = some c ∧ decoder.lastValue? 1 = some v ∧
      c.volume.WithinMillionth v) ∧
    after.memory.controls[2]? = m.memory.controls[2]? := by
  intro keyOf started handles mapping start turns m lines decoder after
  have constant : Run.Along Callers.turn? (Callers.KeysConstant keyOf) start turns := by
    decide +kernel
  have responds : ∀ s ∈ m.tracker.directory.held, m.memory.Responds s := by
    have hall : ∀ s ∈ m.tracker.directory.held, m.memory.accepts s = true ∧
        (m.memory.behind? s).all (fun c => c.key == s.key) = true := by decide +kernel
    intro s hs
    obtain ⟨haccepts, hkeys⟩ := hall s hs
    exact ⟨haccepts, fun c hc => by simpa [hc] using hkeys⟩
  have plain : ∀ slider target, mapping.Carries slider target → Target.IsPlain target := by
    have hall : ∀ e ∈ mapping.entries, ∀ target ∈ e.2, Target.IsPlain target := by decide +kernel
    rintro slider target ⟨targets, hget, htarget⟩
    exact hall _ (SliderMapping.mem_entries_of_get? hget) target htarget
  have honly (other : Nat) : mapping.names "b.exe" other = true ↔ other = 1 := by
    have hentries : mapping.entries = [(0, ["A.exe"]), (1, ["a.exe", "B.EXE"])] := by decide +kernel
    match other with
    | 0 | 1 => decide +kernel
    | other + 2 => simp [SliderMapping.names, SliderMapping.get?, hentries, List.lookup_cons]
  obtain ⟨-, made, -, hsessions⟩ :=
    volumes_follow constant rfl (show m.tracker = _ from rfl) responds plain {} lines
  have hcount : decoder.sliderCount = 2 := by decide +kernel
  refine ⟨constant, ⟨_, rfl, rfl⟩, hcount, ?_, ?_, ?_⟩
  · obtain ⟨c, hc, hlatest, -⟩ := hsessions (Session.mk 0 "a.exe") (by decide +kernel) 0 _ rfl rfl
    exact ⟨c, hc, hlatest _ (by decide +kernel)⟩
  · obtain ⟨c, hc, -, -, hlast⟩ := hsessions (Session.mk 1 "b.exe") (by decide +kernel) 1 _ rfl rfl
    obtain ⟨v, hv, hwithin⟩ := hlast 1 (hcount ▸ Nat.one_lt_two) honly
    exact ⟨c, v, hc, hv, hwithin⟩
  · obtain ⟨c, hc, -, hnone, -⟩ := hsessions (Session.mk 2 "c.exe") (by decide +kernel) 2 _ rfl rfl
    rw [hc, (hnone (by decide +kernel)).1]
    rfl

end Mixer

end SliderMixer
