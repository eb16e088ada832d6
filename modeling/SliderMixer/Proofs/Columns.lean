import Mathlib.Data.List.Forall2
import SliderMixer.Proofs.Decoding
import SliderMixer.Proofs.LineGrammar

/-! # One slider among many

As long as the number of sliders stays the same, each of them is filtered as if it were the only one.

* `Frame.Steady`: lines that are frames of one size; `Frame.column`: the readings of one slider in them.
* `Tracks`: a decoder of one slider that knows what a decoder of many knows of that slider;
  `Tracks.take`: it makes the moves of that slider, and goes on to do so.
* `moves_of_column`: so whole streams are told apart by their columns alone.
-/

namespace SliderMixer

namespace Frame

/-! ## Lines of one value -/

/-- The line of a single value. -/
def single (n : Nat) : String := String.ofList (render (padded 1 n) [] .lineFeed)

theorem parse_single {n maxReading : Nat} (hdigits : n ≤ 9999) (hrange : n ≤ maxReading) :
    parse (single n).toList maxReading = .ok [n] := by
  have hvalue : isValue (padded 1 n) = true := isValue_padded (by decide) hdigits
  have hread : Reads maxReading (render (padded 1 n) [] .lineFeed) (.ok [decimal (padded 1 n)]) :=
    .frame .lineFeed (by simpa using hvalue) (by rwa [decimal_padded])
  rw [single, String.toList_ofList, parse_of_reads hread, decimal_padded]

/-- Four digits write no more. -/
theorem le_of_mem_parse {line : List Char} {maxReading n : Nat} {values : List Nat}
    (h : parse line maxReading = .ok values) (hn : n ∈ values) : n ≤ 9999 := by
  have hreads := reads_parse maxReading line
  rw [h] at hreads
  cases hreads with
  | frame terminator hvalues hrange =>
    obtain ⟨group, hgroup, rfl⟩ := List.mem_map.mp hn
    obtain ⟨-, hlength, hdigits⟩ := isValue_iff.mp (hvalues group hgroup)
    have hpow : 10 ^ group.length ≤ 10 ^ maxDigits := Nat.pow_le_pow_right (by decide) hlength
    exact Nat.le_of_lt_succ (Nat.lt_of_lt_of_le (decimal_lt hdigits) hpow)

/-! ## Streams of frames -/

/-- The lines are frames of `n` values. -/
def Steady (maxReading n : Nat) (lines : List String) (frames : List (List Nat)) : Prop :=
  List.Forall₂ (fun line values => parse line.toList maxReading = .ok values ∧ values.length = n)
    lines frames

/-- The readings of one slider, frame by frame. -/
def column (slider : Nat) (frames : List (List Nat)) : List Nat :=
  frames.map fun values => values.getD slider 0

/-- The lines that a board with this slider alone would send, as far as the range goes. -/
def alone (maxReading slider : Nat) (frames : List (List Nat)) : List String :=
  (column slider frames).map fun reading => single (min reading maxReading)

end Frame

namespace Decoder

/-- The moves of each line. -/
def decodeEach (d : Decoder) : List String → List (List Move)
  | [] => []
  | line :: rest => (d.decode line).1 :: (d.decode line).2.decodeEach rest

/-- The moves of one slider on each line. -/
def movesOf (slider : Nat) (d : Decoder) (lines : List String) : List (List Move) :=
  (d.decodeEach lines).map fun moves => moves.filter (·.slider == slider)

/-! ## A decoder for one slider -/

theorem accept?_min (s : DecoderSettings) (old : Option Accepted) (value : Nat) :
    accept? s old (min value s.thresholds.maxReading) = accept? s old value := by
  simp [accept?]

theorem known?_new (s : DecoderSettings) (count slider : Nat) :
    (new s).known? count slider = none := by
  cases hentry : (new s).known? count slider with
  | none => rfl
  | some e => cases (known?_eq_some hentry).2

theorem filter_take (d : Decoder) {values : List Nat} {slider v : Nat}
    (h : values[slider]? = some v) :
    (d.take values).1.filter (·.slider == slider) =
      ((accept? d.settings (d.known? values.length slider) v).map fun e =>
        { slider, value := e.value }).toList := by
  have hfilter := filter_movesFrom 0 (d.changes values) slider
  rw [Nat.zero_add, getElem?_changes, h] at hfilter
  exact hfilter

theorem take_singleton (d : Decoder) (value : Nat) :
    (d.take [value]).1 =
      ((accept? d.settings (d.known? 1 0) value).map fun e =>
        { slider := 0, value := e.value }).toList := by
  have hchanges : d.changes [value] = [accept? d.settings (d.known? 1 0) value] := by
    have hlength : (d.changes [value]).length = 1 := length_changes d [value]
    have hfirst := getElem?_changes d [value] 0
    obtain ⟨c, hc⟩ := List.length_eq_one_iff.mp hlength
    rw [hc] at hfirst ⊢
    simpa using hfirst
  have hmoves : (d.take [value]).1 = movesFrom 0 (d.changes [value]) := rfl
  rw [hmoves, hchanges]
  cases accept? d.settings (d.known? 1 0) value <;> rfl

/-- `e` knows of its only slider what `d` knows of the slider, one of `n`. -/
structure Tracks (slider n : Nat) (d e : Decoder) : Prop where
  settings : e.settings = d.settings
  known : e.known? 1 0 = d.known? n slider

theorem Tracks.new (s : DecoderSettings) (slider n : Nat) : Tracks slider n (.new s) (.new s) where
  settings := rfl
  known := by rw [known?_new, known?_new]

theorem Tracks.take {slider v : Nat} {values : List Nat} {d e : Decoder}
    (h : Tracks slider values.length d e) (hv : values[slider]? = some v) :
    let reading := min v d.settings.thresholds.maxReading
    (d.take values).1.filter (·.slider == slider) =
      (e.take [reading]).1.map ({ · with slider }) ∧
    Tracks slider values.length (d.take values).2 (e.take [reading]).2 := by
  intro reading
  have haccept : accept? e.settings (e.known? 1 0) reading =
      accept? d.settings (d.known? values.length slider) v := by
    rw [h.settings, h.known, accept?_min]
  refine ⟨?_, h.settings, ?_⟩
  · rw [filter_take d hv, take_singleton, haccept]
    cases accept? d.settings (d.known? values.length slider) v <;> rfl
  · have hfirst : [reading][0]? = some reading := rfl
    rw [known?_take hv, ← haccept, ← h.known]
    exact known?_take hfirst

/-! ## Streams -/

theorem Tracks.movesOf {slider n : Nat} {d e : Decoder} {lines : List String}
    {frames : List (List Nat)} (h : Tracks slider n d e) (hslider : slider < n)
    (steady : Frame.Steady d.settings.thresholds.maxReading n lines frames) :
    d.movesOf slider lines =
      (e.decodeEach (Frame.alone d.settings.thresholds.maxReading slider frames)).map
        (·.map ({ · with slider })) := by
  -- on the lines, for whatever the two decoders know by then
  induction lines generalizing d e frames with
  | nil =>
    cases steady
    rfl
  | cons line rest ih =>
    obtain _ | @⟨_, values, _, frames, ⟨hparse, rfl⟩, steady⟩ := steady
    have hv : values[slider]? = some (values.getD slider 0) := by simp [hslider]
    have hdigits : values.getD slider 0 ≤ 9999 :=
      Frame.le_of_mem_parse hparse (List.mem_of_getElem? hv)
    have halone : Frame.parse (Frame.single (min (values.getD slider 0)
        d.settings.thresholds.maxReading)).toList e.settings.thresholds.maxReading = .ok _ :=
      Frame.parse_single (Nat.le_trans (Nat.min_le_left _ _) hdigits)
        (h.settings.symm ▸ Nat.min_le_right _ _)
    obtain ⟨hmoves, hnext⟩ := h.take hv
    have hrest := ih hnext (by rwa [settings_take])
    rw [settings_take] at hrest
    simp only [Decoder.movesOf, Frame.alone, Frame.column, List.map_cons, decodeEach] at hrest ⊢
    rw [decode_of_ok hparse, decode_of_ok halone, hmoves, hrest]

/-- Under any settings, what a new decoder makes of one slider in frames of a constant size is what a
    new decoder makes of the readings of this slider alone, line by line.  So two streams with the
    same readings of a slider make the same moves of it, whatever the other sliders do. -/
theorem moves_of_column (s : DecoderSettings) {slider n : Nat} {lines : List String}
    {frames : List (List Nat)} (steady : Frame.Steady s.thresholds.maxReading n lines frames)
    (hslider : slider < n) :
    (new s).movesOf slider lines =
      ((new s).decodeEach (Frame.alone s.thresholds.maxReading slider frames)).map
        (·.map ({ · with slider })) ∧
    ∀ (m : Nat) (others : List String) (frames' : List (List Nat)),
      Frame.Steady s.thresholds.maxReading m others frames' → slider < m →
      Frame.column slider frames' = Frame.column slider frames →
      (new s).movesOf slider others = (new s).movesOf slider lines := by
  have halone := (Tracks.new s slider n).movesOf hslider steady
  refine ⟨halone, fun m others frames' steady' hslider' hcolumn => ?_⟩
  have halone' := (Tracks.new s slider m).movesOf hslider' steady'
  rw [halone, halone', Frame.alone, Frame.alone, hcolumn]

/-- The last of three sliders begins beyond the range; with another number of sliders that move in
    another way it tells the same. -/
theorem moves_of_column_beyond_range :
    let s : DecoderSettings := { noise := .high }
    let lines := ["500|3|1500\n", "509|999|1023\r\n", "560|1|1000\n"]
    let others := ["0|0|1500|7\n", "900|0|1023|8\n", "0|44|1000|9\n"]
    Frame.Steady 1023 3 lines [[500, 3, 1500], [509, 999, 1023], [560, 1, 1000]] ∧
    Frame.Steady 1023 4 others [[0, 0, 1500, 7], [900, 0, 1023, 8], [0, 44, 1000, 9]] ∧
    (new s).movesOf 2 lines =
      ((new s).decodeEach ["1023\n", "1023\n", "1000\n"]).map (·.map ({ · with slider := 2 })) ∧
    (new s).movesOf 2 others = (new s).movesOf 2 lines := by
  intro s lines others
  have steady : Frame.Steady 1023 3 lines [[500, 3, 1500], [509, 999, 1023], [560, 1, 1000]] :=
    .cons ⟨by decide +kernel, rfl⟩ (.cons ⟨by decide +kernel, rfl⟩
      (.cons ⟨by decide +kernel, rfl⟩ .nil))
  have steady' : Frame.Steady 1023 4 others [[0, 0, 1500, 7], [900, 0, 1023, 8], [0, 44, 1000, 9]] :=
    .cons ⟨by decide +kernel, rfl⟩ (.cons ⟨by decide +kernel, rfl⟩
      (.cons ⟨by decide +kernel, rfl⟩ .nil))
  have hslider : 2 < 3 := by decide
  obtain ⟨halone, hothers⟩ := moves_of_column s steady hslider
  have hlines : Frame.alone 1023 2 [[500, 3, 1500], [509, 999, 1023], [560, 1, 1000]] =
      ["1023\n", "1023\n", "1000\n"] := by decide +kernel
  exact ⟨steady, steady', hlines ▸ halone, hothers 4 others _ steady' (by decide) rfl⟩

end Decoder

end SliderMixer
