import Mathlib.Logic.Function.Basic
import SliderMixer.Decoder

/-! # What a line does to a decoder

* `decode_of_ok`, `decode_of_error`: a line is taken in as a frame, or dropped; `decodeAll`: all lines
  in order.
* `entry_take`: after a frame every slider has an entry, the one accepted now or the one it had.
* `mem_movesFrom`, `pairwise_movesFrom`, `sliders_movesFrom`: the moves of the changes, in the order
  of the sliders.
* `heard`: what moves tell somebody who keeps the latest volume of each slider.
-/

namespace SliderMixer

/-! ## Moves in a row -/

/-- The latest volume that moves give to one of the sliders. -/
def latest (p : Nat → Bool) (moves : List Move) : Option Binary32 :=
  ((moves.filter fun move => p move.slider).getLast?).map (·.value)

theorem latest_append (p : Nat → Bool) (moves later : List Move) :
    latest p (moves ++ later) = (latest p later).or (latest p moves) := by
  simp only [latest, List.filter_append, List.getLast?_append]
  cases (later.filter fun move => p move.slider).getLast? <;> rfl

theorem latest_singleton (p : Nat → Bool) (move : Move) :
    latest p [move] = if p move.slider then some move.value else none := by
  cases h : p move.slider <;> simp [latest, h]

theorem latest_snoc (p : Nat → Bool) (moves : List Move) (move : Move) :
    latest p (moves ++ [move]) = if p move.slider then some move.value else latest p moves := by
  rw [latest_append, latest_singleton]
  split <;> simp

/-- A table of volumes, each move overwriting the entry of its slider. -/
def heard (table : Nat → Option Binary32) (moves : List Move) : Nat → Option Binary32 :=
  moves.foldl (fun table move => Function.update table move.slider (some move.value)) table

theorem heard_eq_latest (table : Nat → Option Binary32) (moves : List Move) (slider : Nat) :
    heard table moves slider = (latest (· == slider) moves).or (table slider) := by
  induction moves generalizing table with
  | nil => rfl
  | cons move rest ih =>
    have hcons : latest (· == slider) (move :: rest) =
        (latest (· == slider) rest).or (latest (· == slider) [move]) := latest_append _ [move] rest
    have hrest : heard table (move :: rest) slider =
        heard (Function.update table move.slider (some move.value)) rest slider := rfl
    rw [hrest, ih, hcons, latest_singleton, Option.or_assoc]
    by_cases h : move.slider = slider
    · simp [h]
    · simp [h, Function.update_of_ne (Ne.symm h)]

/-! ## Frames -/

/-- The values of a line that is a frame. -/
def Frame.parse? (line : String) (maxReading : Nat) : Option (List Nat) :=
  (parse line.toList maxReading).toOption

theorem Frame.parse?_eq_some_iff {line : String} {maxReading : Nat} {values : List Nat} :
    parse? line maxReading = some values ↔ parse line.toList maxReading = .ok values := by
  unfold parse?
  cases parse line.toList maxReading <;> simp [Except.toOption]

namespace Decoder

/-! ## Lines -/

variable {d : Decoder} {line : String} {values : List Nat}

theorem decode_of_ok (h : Frame.parse line.toList d.settings.thresholds.maxReading = .ok values) :
    d.decode line = d.take values := by
  simp [decode, h]

theorem decode_of_error {e : FrameError}
    (h : Frame.parse line.toList d.settings.thresholds.maxReading = .error e) :
    d.decode line = ([], d) := by
  simp [decode, h]

theorem settings_decode (d : Decoder) (line : String) :
    (d.decode line).2.settings = d.settings := by
  unfold decode
  split <;> rfl

/-- The moves of lines, and the decoder after them. -/
def decodeAll (d : Decoder) : List String → List Move × Decoder
  | [] => ([], d)
  | line :: rest =>
    let (moves, d) := d.decode line
    let (later, d) := d.decodeAll rest
    (moves ++ later, d)

theorem decodeAll_append (d : Decoder) (front back : List String) :
    d.decodeAll (front ++ back) =
      ((d.decodeAll front).1 ++ ((d.decodeAll front).2.decodeAll back).1,
        ((d.decodeAll front).2.decodeAll back).2) := by
  induction front generalizing d with
  | nil => rfl
  | cons line rest ih => simp [decodeAll, ih]

/-! ## Entries -/

theorem lastValue?_eq_some {slider : Nat} {e : Accepted} (h : d.sliders[slider]? = some (some e)) :
    d.lastValue? slider = some e.value := by
  simp [lastValue?, h]

/-- The entry that a reading of the slider is compared with. -/
def known? (d : Decoder) (count slider : Nat) : Option Accepted := (d.entriesFor count)[slider]?.join

theorem length_entriesFor (d : Decoder) (count : Nat) : (d.entriesFor count).length = count := by
  unfold entriesFor
  split
  · assumption
  · exact List.length_replicate

/-- Nothing is known of a slider where the number of sliders is another one. -/
theorem known?_eq_some {count slider : Nat} {e : Accepted} (h : d.known? count slider = some e) :
    d.sliders.length = count ∧ d.sliders[slider]? = some (some e) := by
  unfold known? entriesFor at h
  split at h
  · next hcount => exact ⟨hcount, Option.join_eq_some_iff.mp h⟩
  · rw [List.getElem?_replicate] at h
    split at h <;> cases h

theorem known?_of_new_count {count : Nat} (h : d.sliders.length ≠ count) (slider : Nat) :
    d.known? count slider = none := by
  cases hentry : d.known? count slider with
  | none => rfl
  | some e => exact absurd (known?_eq_some hentry).1 h

theorem getElem?_changes (d : Decoder) (values : List Nat) (slider : Nat) :
    (d.changes values)[slider]? =
      (values[slider]?).map fun v => accept? d.settings (d.known? values.length slider) v := by
  rw [changes, List.getElem?_zipWith, known?]
  cases hv : values[slider]? with
  | none => cases (d.entriesFor values.length)[slider]? <;> rfl
  | some v =>
    -- both lists are as long as the frame
    have hslider : slider < (d.entriesFor values.length).length := by
      rw [length_entriesFor]
      exact (List.getElem?_eq_some_iff.mp hv).1
    simp [List.getElem?_eq_getElem hslider]

theorem length_changes (d : Decoder) (values : List Nat) :
    (d.changes values).length = values.length := by
  simp [changes, length_entriesFor]

@[simp] theorem settings_take (d : Decoder) (values : List Nat) :
    (d.take values).2.settings = d.settings := rfl

@[simp] theorem sliderCount_take (d : Decoder) (values : List Nat) :
    (d.take values).2.sliderCount = values.length := by
  simp [take, sliderCount, length_changes, length_entriesFor]

theorem accept?_none (s : DecoderSettings) (value : Nat) :
    accept? s none value =
      some { reading := min value s.thresholds.maxReading
             value := s.volume (min value s.thresholds.maxReading) } := by
  simp [accept?]

theorem getElem?_sliders_take {slider v : Nat} (h : values[slider]? = some v) :
    (d.take values).2.sliders[slider]? =
      some ((accept? d.settings (d.known? values.length slider) v).or
        (d.known? values.length slider)) := by
  have hslider : slider < (d.entriesFor values.length).length := by
    rw [length_entriesFor]
    exact (List.getElem?_eq_some_iff.mp h).1
  have hentry : (d.entriesFor values.length)[slider]? = some (d.known? values.length slider) := by
    simp [known?, List.getElem?_eq_getElem hslider]
  simp [take, List.getElem?_zipWith, getElem?_changes, h, hentry]

/-- The next reading of the slider is compared with the one accepted now, or else with the same as
    before. -/
theorem known?_take {slider v : Nat} (h : values[slider]? = some v) :
    (d.take values).2.known? values.length slider =
      (accept? d.settings (d.known? values.length slider) v).or
        (d.known? values.length slider) := by
  have hcount : (d.take values).2.sliders.length = values.length := sliderCount_take d values
  rw [known?, entriesFor, if_pos hcount, getElem?_sliders_take h]
  rfl

/-- After a frame every slider has an entry: the one accepted now, or else the one it had. -/
theorem entry_take {slider v : Nat} (h : values[slider]? = some v) :
    ∃ e, (d.take values).2.sliders[slider]? = some (some e) ∧
      (accept? d.settings (d.known? values.length slider) v = some e ∨
        accept? d.settings (d.known? values.length slider) v = none ∧
          d.known? values.length slider = some e) := by
  rw [getElem?_sliders_take h]
  cases haccept : accept? d.settings (d.known? values.length slider) v with
  | some e => exact ⟨e, rfl, .inl rfl⟩
  | none =>
    cases hold : d.known? values.length slider with
    | none => simp [hold, accept?_none] at haccept
    | some e => exact ⟨e, rfl, .inr ⟨rfl, rfl⟩⟩

/-! ## Moves -/

theorem mem_movesFrom {first : Nat} {changed : List (Option Accepted)} {move : Move} :
    move ∈ movesFrom first changed ↔
      ∃ i e, changed[i]? = some (some e) ∧ move = { slider := first + i, value := e.value } := by
  induction changed generalizing first with
  | nil => simp [movesFrom]
  | cons c rest ih =>
    -- the first place is the head, the others are counted one further
    have hplaces (P : Nat → Prop) : (∃ i, P i) ↔ P 0 ∨ ∃ i, P (i + 1) :=
      ⟨fun ⟨i, h⟩ => by cases i with | zero => exact .inl h | succ i => exact .inr ⟨i, h⟩,
        fun h => h.elim (⟨0, ·⟩) fun ⟨i, h⟩ => ⟨i + 1, h⟩⟩
    rw [hplaces]
    cases c with
    | none => simp [movesFrom, ih, Nat.add_assoc, Nat.add_comm 1]
    | some entry => simp [movesFrom, ih, Nat.add_assoc, Nat.add_comm 1]

theorem pairwise_movesFrom (first : Nat) (changed : List (Option Accepted)) :
    ((movesFrom first changed).map (·.slider)).Pairwise (· < ·) := by
  induction changed generalizing first with
  | nil => exact List.Pairwise.nil
  | cons c rest ih =>
    cases c with
    | none => exact ih (first + 1)
    | some entry =>
      refine List.pairwise_cons.mpr ⟨fun slider hslider => ?_, ih (first + 1)⟩
      obtain ⟨move, hmove, rfl⟩ := List.mem_map.mp hslider
      obtain ⟨i, e, -, rfl⟩ := mem_movesFrom.mp hmove
      simp only
      omega

/-- If every slider changed, each of them moves. -/
theorem sliders_movesFrom {first : Nat} {changed : List (Option Accepted)}
    (h : ∀ c ∈ changed, c.isSome = true) :
    (movesFrom first changed).map (·.slider) = List.range' first changed.length := by
  induction changed generalizing first with
  | nil => rfl
  | cons c rest ih =>
    obtain ⟨hc, hrest⟩ := List.forall_mem_cons.mp h
    cases c with
    | none => cases hc
    | some entry => simp [movesFrom, ih hrest, List.range'_succ]

/-- A slider moves at most once, namely if its entry changed. -/
theorem filter_movesFrom (first : Nat) (changed : List (Option Accepted)) (i : Nat) :
    (movesFrom first changed).filter (·.slider == first + i) =
      ((changed[i]?).join.map fun e => { slider := first + i, value := e.value }).toList := by
  induction changed generalizing first i with
  | nil => rfl
  | cons c rest ih =>
    cases i with
    | zero =>
      -- the sliders of the rest come later
      have hrest : (movesFrom (first + 1) rest).filter (·.slider == first) = [] := by
        refine List.filter_eq_nil_iff.mpr fun move hmove => ?_
        obtain ⟨j, e, -, rfl⟩ := mem_movesFrom.mp hmove
        simp only [beq_iff_eq]
        omega
      cases c <;> simp [movesFrom, hrest]
    | succ j =>
      have hrest := ih (first + 1) j
      rw [Nat.add_assoc, Nat.add_comm 1] at hrest
      cases c <;> simp [movesFrom, hrest]

theorem latest_movesFrom (first : Nat) (changed : List (Option Accepted)) (i : Nat) :
    latest (· == first + i) (movesFrom first changed) = (changed[i]?).join.map (·.value) := by
  rw [latest, filter_movesFrom]
  cases (changed[i]?).join <;> rfl

end Decoder

end SliderMixer
