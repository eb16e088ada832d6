import Mathlib.Data.Nat.SuccPred
import Mathlib.Data.UInt
import Mathlib.Order.Interval.Set.Monotone
import SliderMixer.Proofs.Following

/-! # Volumes of moves

A reading becomes a percentage by a division of integers, and a volume by one of single-precision
numbers, which may then be taken from `1`.  Whatever is rounded on the way, the order of the readings
is kept, and every session takes the volume.

* `percent32`: the percentage in words of 32 bits, none of whose products is too large.
* `DecoderSettings.volume_le`: volumes are ordered as the readings, `units_volume_eq_iff`: the end of
  the volumes is that of the range alone.
* `Decoder.Emits`: a move with the reading that its slider had.
* `Mixer.moves_legal`: what all this comes to for the moves of a line, up to the audio system.
-/

namespace SliderMixer

/-! ## Percentages -/

/-- The percentage of the range that a reading of 16 bits covers, in words of 32 bits. -/
def percent32 (reading full : UInt16) : UInt32 := (min reading full).toUInt32 * 100 / full.toUInt32

theorem percent32_product_lt (reading full : UInt16) : (min reading full).toNat * 100 < 2 ^ 32 := by
  have hword := (min reading full).toNat_lt
  omega

theorem toNat_percent32 (reading full : UInt16) :
    (percent32 reading full).toNat = percent reading.toNat full.toNat := by
  have hproduct := percent32_product_lt reading full
  simp only [percent32, percent, UInt32.toNat_div, UInt32.toNat_mul, UInt16.toNat_toUInt32,
    UInt32.toNat_ofNat, ← UInt16.toNat_min]
  exact congrArg (· / full.toNat) (Nat.mod_eq_of_lt hproduct)

theorem percent_le_percent {reading other full : Nat} (h : min reading full ≤ min other full) :
    percent reading full ≤ percent other full :=
  Nat.div_le_div_right (Nat.mul_le_mul_right 100 h)

theorem percent_eq_hundred_iff {reading full : Nat} (hfull : 0 < full) :
    percent reading full = 100 ↔ full ≤ reading := by
  have hleast : 100 ≤ percent reading full ↔ 100 * full ≤ min reading full * 100 :=
    Nat.le_div_iff_mul_le hfull
  have hmost := percent_le reading full
  omega

/-! ## Hundredths -/

namespace Binary32

def hundredths (p : Nat) : Binary32 := ofQuotient false p 100

/-- Rounding keeps percentages apart. -/
theorem units_hundredths_lt {p q : Nat} (h : p < q) (hq : q ≤ 100) :
    (hundredths p).units < (hundredths q).units := by
  -- the hundred steps from one percentage to the next are computed
  have hsteps : ∀ p < 100, (hundredths p).units < (hundredths (p + 1)).units := by decide +kernel
  have hmono : StrictMonoOn (fun p => (hundredths p).units) (Set.Iic 100) :=
    strictMonoOn_Iic_of_lt_succ hsteps
  exact hmono (Set.mem_Iic.mpr (h.le.trans hq)) (Set.mem_Iic.mpr hq) h

/-- So does taking them from `1`. -/
theorem units_sub_hundredths_lt {p q : Nat} (h : p < q) (hq : q ≤ 100) :
    (one - hundredths q).units < (one - hundredths p).units := by
  have hsteps : ∀ p < 100, (one - hundredths (p + 1)).units < (one - hundredths p).units := by
    decide +kernel
  have hanti : StrictAntiOn (fun p => (one - hundredths p).units) (Set.Iic 100) :=
    strictAntiOn_Iic_of_succ_lt hsteps
  exact hanti (Set.mem_Iic.mpr (h.le.trans hq)) (Set.mem_Iic.mpr hq) h

theorem le_of_units_le {x y : Binary32} (hx : x.inUnitInterval = true)
    (hy : y.inUnitInterval = true) (h : x.units ≤ y.units) : x.le y = true := by
  simp only [inUnitInterval, le, Bool.and_eq_true, decide_eq_true_eq] at hx hy ⊢
  exact ⟨⟨hx.1.1.2, hy.1.1.2⟩, h⟩

end Binary32

/-! ## Volumes -/

namespace DecoderSettings

variable (s : DecoderSettings) {reading other : Nat}

/-- The volume at the end of the range. -/
def fullScale : Binary32 := if s.invert then Binary32.zero else Binary32.one

theorem volume_eq_hundredths (hfull : 0 < s.thresholds.maxReading) (reading : Nat) :
    s.volume reading =
      if s.invert then Binary32.one - .hundredths (percent reading s.thresholds.maxReading)
      else .hundredths (percent reading s.thresholds.maxReading) := by
  simp only [volume, normalized, if_neg (Nat.ne_of_gt hfull), Binary32.hundredths]

theorem units_volume_le (h : min reading s.thresholds.maxReading ≤ min other s.thresholds.maxReading) :
    if s.invert then (s.volume other).units ≤ (s.volume reading).units
    else (s.volume reading).units ≤ (s.volume other).units := by
  rcases Nat.eq_zero_or_pos s.thresholds.maxReading with hempty | hfull
  · -- every reading of an empty range has the same volume
    have hsame : s.volume reading = s.volume other := by simp only [volume, normalized, if_pos hempty]
    rw [hsame]
    split <;> exact Int.le_refl _
  · rw [s.volume_eq_hundredths hfull, s.volume_eq_hundredths hfull]
    have hother := percent_le other s.thresholds.maxReading
    rcases Nat.eq_or_lt_of_le (percent_le_percent h) with hsame | hless
    · rw [hsame]
      split <;> exact Int.le_refl _
    · cases s.invert with
      | true =>
        simp only [if_true]
        exact Int.le_of_lt (Binary32.units_sub_hundredths_lt hless hother)
      | false =>
        simp only [Bool.false_eq_true, if_false]
        exact Int.le_of_lt (Binary32.units_hundredths_lt hless hother)

/-- Volumes are ordered as the readings, or the other way around. -/
theorem volume_le (h : min reading s.thresholds.maxReading ≤ min other s.thresholds.maxReading) :
    if s.invert then (s.volume other).le (s.volume reading) = true
    else (s.volume reading).le (s.volume other) = true := by
  have hunits := s.units_volume_le h
  have hreading := s.inUnitInterval_volume reading
  have hother := s.inUnitInterval_volume other
  by_cases hinvert : s.invert = true
  · rw [if_pos hinvert] at hunits ⊢
    exact Binary32.le_of_units_le hother hreading hunits
  · rw [if_neg hinvert] at hunits ⊢
    exact Binary32.le_of_units_le hreading hother hunits

theorem volume_min (reading : Nat) :
    s.volume (min reading s.thresholds.maxReading) = s.volume reading := by
  simp only [volume, normalized, percent, Nat.min_assoc, Nat.min_self]

theorem units_volume_eq_iff (hfull : 0 < s.thresholds.maxReading) (reading : Nat) :
    (s.volume reading).units = s.fullScale.units ↔ s.thresholds.maxReading ≤ reading := by
  have hends : (Binary32.hundredths 100).units = Binary32.one.units ∧
      (Binary32.one - .hundredths 100).units = Binary32.zero.units := by decide +kernel
  rw [s.volume_eq_hundredths hfull, fullScale, ← percent_eq_hundred_iff hfull]
  rcases Nat.eq_or_lt_of_le (percent_le reading s.thresholds.maxReading) with hfullScale | hbelow
  · rw [hfullScale]
    cases s.invert with
    | true => exact iff_of_true hends.2 rfl
    | false => exact iff_of_true hends.1 rfl
  · -- rounding does not bring a smaller percentage to the end
    refine iff_of_false ?_ (Nat.ne_of_lt hbelow)
    cases s.invert with
    | true =>
      simp only [if_true, ← hends.2]
      exact Int.ne_of_gt (Binary32.units_sub_hundredths_lt hbelow (Nat.le_refl 100))
    | false =>
      simp only [Bool.false_eq_true, if_false, ← hends.1]
      exact Int.ne_of_lt (Binary32.units_hundredths_lt hbelow (Nat.le_refl 100))

end DecoderSettings

/-! ## Moves -/

namespace Decoder

/-- The decoder gives out the move for the line, in which its slider reads `raw`. -/
def Emits (d : Decoder) (line : String) (raw : Nat) (move : Move) : Prop :=
  move ∈ (d.decode line).1 ∧ ∃ values,
    Frame.parse line.toList d.settings.thresholds.maxReading = .ok values ∧
      values[move.slider]? = some raw

variable {d : Decoder} {line : String} {raw : Nat} {move : Move}

theorem emits_of_mem_decode (h : move ∈ (d.decode line).1) : ∃ raw, d.Emits line raw move := by
  cases hparse : Frame.parse line.toList d.settings.thresholds.maxReading with
  | error e => simp [decode_of_error hparse] at h
  | ok values =>
    have htake : move ∈ (d.take values).1 := by rwa [← decode_of_ok hparse]
    obtain ⟨i, e, hchange, rfl⟩ := mem_movesFrom.mp htake
    rw [getElem?_changes] at hchange
    obtain ⟨raw, hraw, -⟩ := Option.map_eq_some_iff.mp hchange
    exact ⟨raw, h, values, hparse, by rwa [Nat.zero_add]⟩

theorem Emits.value (h : d.Emits line raw move) : move.value = d.settings.volume raw := by
  obtain ⟨hmove, values, hparse, hraw⟩ := h
  rw [decode_of_ok hparse] at hmove
  obtain ⟨i, e, hchange, rfl⟩ := mem_movesFrom.mp hmove
  rw [Nat.zero_add] at hraw
  rw [getElem?_changes, hraw] at hchange
  obtain ⟨hreading, hvalue⟩ := accept?_eq_some (Option.some.inj hchange)
  rw [hvalue, hreading, DecoderSettings.volume_min]

end Decoder

/-! ## Sessions in memory -/

namespace MemoryAudio

variable {a : MemoryAudio} {volume : Binary32} {s : Session}

theorem setVolume_ne_outOfRange (hvolume : volume.inUnitInterval = true) (other : Binary32) :
    (a.setVolume s volume).1 ≠ .error (.volumeOutOfRange other) := by
  unfold setVolume
  cases a.isReleased s <;> simp only [hvolume, Bool.not_true, Bool.false_eq_true, if_true, if_false]
  · split
    · simp
    · split <;> simp
  · simp

theorem setVolume_of_accepts (hvolume : volume.inUnitInterval = true) (h : a.accepts s = true) :
    (a.setVolume s volume).1 = .ok () := by
  obtain ⟨hreleased, i, c, hcontrol, hc, hfailing⟩ := accepts_iff.mp h
  simp [setVolume, hreleased, hvolume, hcontrol, hc, hfailing]

theorem accepts_changeControl {f : Control → Control} (hf : ∀ c, (f c).failing = c.failing) (i : Nat) :
    (a.changeControl i f).accepts s = a.accepts s := by
  have hreleased : (a.changeControl i f).isReleased s = a.isReleased s := rfl
  have hbehind : (a.changeControl i f).behind? s =
      (a.control? s).bind fun j => (a.controls.modify i f)[j]? := rfl
  rw [accepts, accepts, hreleased, hbehind, behind?]
  cases a.control? s with
  | none => rfl
  | some j =>
    simp only [Option.bind_some, List.getElem?_modify]
    cases a.controls[j]? with
    | none => rfl
    | some c => by_cases h : i = j <;> simp [h, hf]

/-- A volume change leaves a session as failing as it was. -/
theorem accepts_setVolume (a : MemoryAudio) (s : Session) (volume : Binary32) (t : Session) :
    (a.setVolume s volume).2.accepts t = a.accepts t := by
  unfold setVolume
  split
  · rfl
  · split
    · rfl
    · cases a.control? s with
      | none => rfl
      | some i =>
        simp only
        split
        · rfl
        · apply accepts_changeControl
          exact fun c => rfl

/-- No volume change of a pass fails because of the volume, and none fails that goes to a handle not
    given back whose session is not failing. -/
theorem legal_setVolumes (hvolume : volume.inUnitInterval = true) {ss : List Session}
    {call : Session × Except SessionError Unit} (h : call ∈ (setVolumes volume a ss).1) :
    (∀ other, call.2 ≠ .error (.volumeOutOfRange other)) ∧
      (a.accepts call.1 = true → call.2 = .ok ()) := by
  induction ss generalizing a with
  | nil => cases h
  | cons s rest ih =>
    unfold setVolumes at h
    split at h
    · exact ih h
    · rcases List.mem_cons.mp h with rfl | hlater
      · exact ⟨setVolume_ne_outOfRange hvolume, setVolume_of_accepts hvolume⟩
      · have hlegal := ih (a := (a.setVolume s volume).2) hlater
        rwa [accepts_setVolume] at hlegal

end MemoryAudio

namespace Mixer

theorem legal_route (m : Mixer (Audited MemoryAudio)) (mapping : SliderMapping) {move : Move}
    (value : move.value.inUnitInterval = true) :
    ∃ made, (m.route mapping move).2.tracker.audio.attempts = m.tracker.audio.attempts ++ made ∧
      ∀ call ∈ made, (∀ volume, call.2 ≠ .error (.volumeOutOfRange volume)) ∧
        (m.memory.accepts call.1 = true → call.2 = .ok ()) := by
  cases entry : mapping.get? move.slider with
  | none =>
    rw [m.route_of_get?_none entry]
    exact ⟨[], (List.append_nil _).symm, fun call hcall => absurd hcall List.not_mem_nil⟩
  | some targets =>
    obtain ⟨focus, -, hroute⟩ := m.route_of_get? entry
    rw [Audited.setVolumes_eq] at hroute
    rw [hroute]
    exact ⟨_, rfl, fun call hcall => MemoryAudio.legal_setVolumes value hcall⟩

/-- Every move of a line has a reading and a volume between `0` and `1`, so that no volume change it
    leads to fails for its volume, whatever is mapped and held, and none of a handle not given back
    whose session is not failing fails at all.  Of two moves under the same settings the one with the
    larger reading, cut off at the end of the range, has no smaller volume, or no larger one if
    inverted.  Unless the range is empty, the end of the volumes is reached by the readings at its
    end and beyond, and by no others.  The percentage is computed in 32 bits without overflow. -/
theorem moves_legal {d d' : Decoder} (same : d'.settings = d.settings) (line line' : String) :
    let s := d.settings
    let full := s.thresholds.maxReading
    (∀ move ∈ (d.decode line).1,
      (∃ raw, d.Emits line raw move) ∧ move.value.inUnitInterval = true ∧
      ∀ (m : Mixer (Audited MemoryAudio)) (mapping : SliderMapping),
        ∃ made, (m.route mapping move).2.tracker.audio.attempts = m.tracker.audio.attempts ++ made ∧
          ∀ call ∈ made, (∀ volume, call.2 ≠ .error (.volumeOutOfRange volume)) ∧
            (m.memory.accepts call.1 = true → call.2 = .ok ())) ∧
    (∀ raw raw' move move', d.Emits line raw move → d'.Emits line' raw' move' →
      min raw full ≤ min raw' full →
      if s.invert then move'.value.le move.value = true else move.value.le move'.value = true) ∧
    (∀ raw move, d.Emits line raw move → 0 < full →
      let fullScale := if s.invert then Binary32.zero else Binary32.one
      (move.value.units = fullScale.units ↔ full ≤ raw) ∧ (full ≤ raw → move.value = fullScale)) ∧
    ∀ raw full : UInt16, (min raw full).toNat * 100 < 2 ^ 32 ∧
      normalized raw.toNat full.toNat =
        if full = 0 then Binary32.zero else .ofQuotient false (percent32 raw full).toNat 100 := by
  intro s full
  refine ⟨?legal, ?ordered, ?ends, fun raw full => ⟨percent32_product_lt raw full, ?percentage⟩⟩
  case legal =>
    intro move hmove
    have hvalue := Decoder.inUnitInterval_of_mem_decode hmove
    exact ⟨Decoder.emits_of_mem_decode hmove, hvalue, fun m mapping => legal_route m mapping hvalue⟩
  case ordered =>
    intro raw raw' move move' hmove hmove' hreadings
    rw [hmove.value, hmove'.value, same]
    exact s.volume_le hreadings
  case ends =>
    intro raw move hmove hfull fullScale
    have hends : move.value.units = fullScale.units ↔ full ≤ raw := by
      rw [hmove.value]
      exact s.units_volume_eq_iff hfull raw
    refine ⟨hends, fun hbeyond => ?_⟩
    rw [hmove.value, ← s.volume_min, Nat.min_eq_right hbeyond]
    exact s.volume_full (Nat.ne_of_gt hfull)
  case percentage =>
    have hempty : full.toNat = 0 ↔ full = 0 := UInt16.toNat_inj (b := 0)
    simp only [normalized, toNat_percent32, hempty]

/-- A line whose second value is beyond the range, with the volumes inverted, and the moves of another
    decoder before it has heard of any slider. -/
theorem moves_legal_beyond_range :
    let settings : DecoderSettings := { invert := true, thresholds := { maxReading := 1000 } }
    let d := ((Decoder.new settings).decode "500|0|999\n").2
    let line := "1000|1023|999\n"
    let near : Move := { slider := 2, value := Binary32.one - .hundredths 99 }
    let beyond : Move := { slider := 1, value := Binary32.zero }
    d.settings = settings ∧
    d.Emits line 1023 beyond ∧ (Decoder.new settings).Emits line 999 near ∧
    beyond.value.inUnitInterval = true ∧ beyond.value.le near.value = true ∧
    (beyond.value.units = Binary32.zero.units ↔ 1000 ≤ 1023) := by
  intro settings d line near beyond
  have hparse : Frame.parse line.toList 1000 = .ok [1000, 1023, 999] := by decide +kernel
  have hsettings : d.settings = settings := by decide +kernel
  have hbeyond : d.Emits line 1023 beyond :=
    ⟨by decide +kernel, [1000, 1023, 999], by rwa [hsettings], rfl⟩
  have hnear : (Decoder.new settings).Emits line 999 near :=
    ⟨by decide +kernel, [1000, 1023, 999], hparse, rfl⟩
  obtain ⟨hlegal, -, hends, -⟩ := moves_legal (d := d) rfl line line
  obtain ⟨-, hordered, -⟩ := moves_legal (d := .new settings) hsettings line line
  refine ⟨hsettings, hbeyond, hnear, (hlegal beyond hbeyond.1).2.1, ?_, ?_⟩
  · exact hordered 999 1023 near beyond hnear hbeyond (by decide)
  · simpa [hsettings, settings] using (hends 1023 beyond hbeyond (by rw [hsettings]; decide)).1

end Mixer

end SliderMixer
