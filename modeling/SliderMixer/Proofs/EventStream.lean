import SliderMixer.Proofs.Decoding
import SliderMixer.Proofs.LineGrammar

/-! # What the moves tell of the decoder

Whoever listens to the moves of a decoder knows the last volume of every slider, whatever lines come
and whenever the settings change or the readings are forgotten.

* `Decoder.Call` is anything that is done to a decoder.
* `Observed` puts beside the decoder what its moves have told so far.
* `inStep_call`: each call keeps the two in step, and `table_in_step`: so does every run.
-/

namespace SliderMixer

/-! ## Calls -/

inductive Decoder.Call where
  | line (text : String)
  | adopt (settings : DecoderSettings)
  | reset

/-- A decoder, what its moves have told, and what happened since it was new or reset. -/
structure Observed where
  decoder : Decoder
  table : Nat → Option Binary32 := fun _ => none
  /-- The frames taken in since then. -/
  frames : Nat := 0
  /-- The settings were changed since then. -/
  changed : Bool := false

namespace Observed

def start (settings : DecoderSettings) : Observed := { decoder := .new settings }

def call (o : Observed) : Decoder.Call → Observed
  | .line text =>
    let (moves, decoder) := o.decoder.decode text
    let frames :=
      match Frame.parse text.toList o.decoder.settings.thresholds.maxReading with
      | .ok _ => o.frames + 1
      | .error _ => o.frames
    { o with decoder, table := heard o.table moves, frames }
  | .adopt settings =>
    { o with
      decoder := o.decoder.setSettings settings
      changed := o.changed || settings != o.decoder.settings }
  | .reset => { o with decoder := o.decoder.reset, frames := 0, changed := false }

/-- The decoder after a frame, and what is known then. -/
def take (o : Observed) (values : List Nat) : Observed :=
  { o with
    decoder := (o.decoder.take values).2
    table := heard o.table (o.decoder.take values).1
    frames := o.frames + 1 }

variable {o : Observed} {values : List Nat}

theorem call_line_of_ok {text : String}
    (h : Frame.parse text.toList o.decoder.settings.thresholds.maxReading = .ok values) :
    o.call (.line text) = o.take values := by
  simp [call, take, Decoder.decode_of_ok h, h]

theorem call_line_of_error {text : String} {e : FrameError}
    (h : Frame.parse text.toList o.decoder.settings.thresholds.maxReading = .error e) :
    o.call (.line text) = o := by
  simp [call, Decoder.decode_of_error h, h, heard]

/-! ## In step -/

/-- Every slider has an entry, whose volume the table has.  There are sliders as soon as there was a
    frame. -/
structure InStep (o : Observed) : Prop where
  known : ∀ i < o.decoder.sliderCount, ∃ e,
    o.decoder.sliders[i]? = some (some e) ∧ o.table i = some e.value
  begun : o.decoder.sliderCount = 0 ↔ o.frames = 0

theorem InStep.start (settings : DecoderSettings) : (start settings).InStep where
  known i hi := absurd hi (Nat.not_lt_zero i)
  begun := iff_of_true rfl rfl

theorem table_take (o : Observed) (values : List Nat) (i : Nat) :
    (o.take values).table i =
      (((values[i]?).bind fun v =>
        Decoder.accept? o.decoder.settings (o.decoder.known? values.length i) v).map (·.value)).or
          (o.table i) := by
  have hlatest := Decoder.latest_movesFrom 0 (o.decoder.changes values) i
  have htable : (o.take values).table i =
      (latest (· == i) (Decoder.movesFrom 0 (o.decoder.changes values))).or (o.table i) :=
    heard_eq_latest _ _ i
  rw [Nat.zero_add, Decoder.getElem?_changes] at hlatest
  rw [htable, hlatest]
  cases values[i]? <;> rfl

theorem InStep.take (h : o.InStep) (hvalues : values ≠ []) : (o.take values).InStep where
  known i hi := by
    have hi : i < values.length := by simpa [Observed.take] using hi
    have hv : values[i]? = some values[i] := List.getElem?_eq_getElem hi
    obtain ⟨e, hentry, haccept | ⟨haccept, hold⟩⟩ := Decoder.entry_take (d := o.decoder) hv
    · exact ⟨e, hentry, by simp [table_take, hv, haccept]⟩
    · -- no move, but then the table has the volume from before
      obtain ⟨hcount, hslider⟩ := Decoder.known?_eq_some hold
      have hknown : i < o.decoder.sliderCount := Nat.lt_of_lt_of_eq hi hcount.symm
      obtain ⟨e', hentry', htable⟩ := h.known i hknown
      obtain rfl : e = e' := by simpa [hslider] using hentry'
      exact ⟨e, hentry, by simp [table_take, hv, haccept, htable]⟩
  begun := by simp [Observed.take, hvalues]

theorem inStep_call (h : o.InStep) (c : Decoder.Call) : (o.call c).InStep := by
  cases c with
  | line text =>
    cases hparse : Frame.parse text.toList o.decoder.settings.thresholds.maxReading with
    | error e =>
      rw [call_line_of_error hparse]
      exact h
    | ok values =>
      rw [call_line_of_ok hparse]
      exact h.take (Frame.ne_nil_of_parse hparse)
  | adopt settings => exact ⟨h.known, h.begun⟩
  | reset =>
    -- what is known stays in the table, but no slider counts any more
    exact ⟨fun i hi => absurd hi (Nat.not_lt_zero i), iff_of_true rfl rfl⟩

theorem inStep_foldl (h : o.InStep) (calls : List Decoder.Call) : (calls.foldl call o).InStep := by
  induction calls generalizing o with
  | nil => exact h
  | cons c rest ih => exact ih (inStep_call h c)

/-! ## Moves of a frame -/

theorem slider_lt_of_mem_take {move : Move} (h : move ∈ (o.decoder.take values).1) :
    move.slider < values.length := by
  obtain ⟨i, e, hchange, rfl⟩ := Decoder.mem_movesFrom.mp h
  have hi : i < (o.decoder.changes values).length := (List.getElem?_eq_some_iff.mp hchange).1
  rw [Decoder.length_changes] at hi
  simpa using hi

theorem sliders_take_of_new_count (h : values.length ≠ o.decoder.sliderCount) :
    (o.decoder.take values).1.map (·.slider) = List.range values.length := by
  have hmoves : (o.decoder.take values).1 = Decoder.movesFrom 0 (o.decoder.changes values) := rfl
  rw [hmoves, Decoder.sliders_movesFrom, Decoder.length_changes, List.range_eq_range']
  intro c hc
  obtain ⟨i, hi⟩ := List.mem_iff_getElem?.mp hc
  -- nothing is known of any slider, and a first reading is always accepted
  rw [Decoder.getElem?_changes, Decoder.known?_of_new_count (Ne.symm h)] at hi
  obtain ⟨v, -, rfl⟩ := Option.map_eq_some_iff.mp hi
  rw [Decoder.accept?_none]
  rfl

/-- After any calls: the table that the moves have written has the last volume of every slider.
    A line makes sliders move in order, each of them one of the frame.  A frame leaves as many
    sliders as it has values, all with a volume, and moves all of them if their number is a new one,
    or if it is the first frame since the decoder was new or reset. -/
theorem table_in_step (settings : DecoderSettings) (calls : List Decoder.Call) :
    let o := calls.foldl call (start settings)
    (∀ i < o.decoder.sliderCount, o.table i = o.decoder.lastValue? i) ∧
    ∀ line,
      let moves := (o.decoder.decode line).1
      let after := (o.decoder.decode line).2
      (moves.map (·.slider)).Pairwise (· < ·) ∧ (∀ move ∈ moves, move.slider < after.sliderCount) ∧
      ∀ values, Frame.parse line.toList o.decoder.settings.thresholds.maxReading = .ok values →
        after.sliderCount = values.length ∧
        (∀ i < values.length, (after.lastValue? i).isSome = true) ∧
        (values.length ≠ o.decoder.sliderCount ∨ o.frames = 0 →
          moves.map (·.slider) = List.range values.length) := by
  intro o
  have hstep : o.InStep := inStep_foldl (.start settings) calls
  have hlast (o : Observed) (h : o.InStep) (i : Nat) (hi : i < o.decoder.sliderCount) :
      o.table i = o.decoder.lastValue? i := by
    obtain ⟨e, hentry, htable⟩ := h.known i hi
    rw [htable, Decoder.lastValue?_eq_some hentry]
  refine ⟨hlast o hstep, fun line => ?_⟩
  cases hparse : Frame.parse line.toList o.decoder.settings.thresholds.maxReading with
  | error e =>
    rw [Decoder.decode_of_error hparse]
    exact ⟨List.Pairwise.nil, by simp, by simp⟩
  | ok values =>
    have hvalues : values ≠ [] := Frame.ne_nil_of_parse hparse
    rw [Decoder.decode_of_ok hparse]
    refine ⟨Decoder.pairwise_movesFrom 0 _, fun move hmove => ?_, ?_⟩
    · rw [Decoder.sliderCount_take]
      exact slider_lt_of_mem_take hmove
    · rintro values ⟨⟩
      refine ⟨Decoder.sliderCount_take _ _, fun i hi => ?_, fun hnew => ?_⟩
      · obtain ⟨e, hentry, -⟩ := Decoder.entry_take (List.getElem?_eq_getElem hi)
        rw [Decoder.lastValue?_eq_some hentry]
        rfl
      · refine sliders_take_of_new_count ?_
        rcases hnew with hcount | hfirst
        · exact hcount
        · -- before the first frame there are no sliders
          rw [hstep.begun.mpr hfirst]
          simpa using hvalues

/-- A torn line, new settings and a frame with fewer sliders come before the frame asked for. -/
theorem table_in_step_after_change :
    let calls : List Decoder.Call :=
      [.line "512|0|1023\r\n", .line "51", .adopt { invert := true, noise := .off },
        .line "513|0|1023\n", .line "513|9\n"]
    let o := calls.foldl call (start {})
    o.decoder.sliderCount = 2 ∧ o.table 1 = o.decoder.lastValue? 1 ∧ o.table 2 = some Binary32.one ∧
    (o.decoder.decode "100|200|300\n").1.map (·.slider) = [0, 1, 2] := by
  intro calls o
  obtain ⟨htable, hline⟩ := table_in_step {} calls
  have hcount : o.decoder.sliderCount = 2 := by decide +kernel
  have hparse : Frame.parse "100|200|300\n".toList o.decoder.settings.thresholds.maxReading =
      .ok [100, 200, 300] := by decide +kernel
  refine ⟨hcount, htable 1 (hcount ▸ Nat.one_lt_two), by decide +kernel, ?_⟩
  exact ((hline "100|200|300\n").2.2 _ hparse).2.2 (.inl (hcount ▸ (by decide)))

end Observed

end SliderMixer
