import SliderMixer.Proofs.EventStream

/-! # Accepted readings and true ones

A reading that is filtered out leaves the decoder with an older one.  However many are filtered out
in a row, the one that is kept was held against the last of them, and is as near as the filter says.

* `DecoderSettings.volume_eq`: the volume of a reading, `inUnitInterval_volume`: it is one that every
  session accepts.
* `near_take`: what the decoder keeps is the true reading, or near it and away from the stops.
* `Decoder.Settled`: all entries were made under the settings in force.
-/

namespace SliderMixer

/-! ## Volumes of readings -/

theorem percent_le (reading full : Nat) : percent reading full ≤ 100 := by
  have hmin : min reading full * 100 ≤ 100 * full := by omega
  exact Nat.div_le_of_le_mul (Nat.mul_comm full 100 ▸ hmin)

/-- All volumes with two decimals lie between `0` and `1`, and so does what they leave of `1`. -/
theorem inUnitInterval_hundredth {p : Nat} (h : p ≤ 100) :
    (Binary32.ofQuotient false p 100).inUnitInterval = true ∧
      (Binary32.one - Binary32.ofQuotient false p 100).inUnitInterval = true := by
  have hall : ∀ p < 101, (Binary32.ofQuotient false p 100).inUnitInterval = true ∧
      (Binary32.one - Binary32.ofQuotient false p 100).inUnitInterval = true := by decide +kernel
  exact hall p (by omega)

namespace DecoderSettings

theorem inUnitInterval_volume (s : DecoderSettings) (reading : Nat) :
    (s.volume reading).inUnitInterval = true := by
  have hzero : Binary32.zero.inUnitInterval = true ∧
      (Binary32.one - Binary32.zero).inUnitInterval = true := by decide +kernel
  unfold volume normalized
  have hpercent := inUnitInterval_hundredth (percent_le reading s.thresholds.maxReading)
  split <;> split <;> simp [hzero, hpercent]

theorem volume_eq (s : DecoderSettings) {reading : Nat} (h : reading ≤ s.thresholds.maxReading) :
    s.volume reading =
      let scalar :=
        if s.thresholds.maxReading = 0 then Binary32.zero
        else Binary32.ofQuotient false (100 * reading / s.thresholds.maxReading) 100
      if s.invert then Binary32.one - scalar else scalar := by
  simp only [volume, normalized, percent, Nat.min_eq_left h, Nat.mul_comm reading]

theorem volume_zero (s : DecoderSettings) :
    s.volume 0 = if s.invert then Binary32.one else Binary32.zero := by
  have hends : Binary32.ofQuotient false 0 100 = Binary32.zero ∧
      Binary32.one - Binary32.zero = Binary32.one := by decide +kernel
  simp [s.volume_eq (Nat.zero_le _), hends]

theorem volume_full (s : DecoderSettings) (h : s.thresholds.maxReading ≠ 0) :
    s.volume s.thresholds.maxReading = if s.invert then Binary32.zero else Binary32.one := by
  have hends : Binary32.ofQuotient false 100 100 = Binary32.one ∧
      Binary32.one - Binary32.one = Binary32.zero := by decide +kernel
  have hpercent : 100 * s.thresholds.maxReading / s.thresholds.maxReading = 100 :=
    Nat.mul_div_cancel 100 (Nat.pos_of_ne_zero h)
  simp [s.volume_eq (Nat.le_refl _), h, hpercent, hends]

end DecoderSettings

/-! ## Filtered readings -/

theorem NoiseThresholds.natAbs_sub (old new : Nat) :
    ((old : Int) - new).natAbs = distance old new := by
  unfold distance
  omega

theorem NoiseThresholds.significant_iff {t : NoiseThresholds} {old new : Nat} {level : NoiseLevel} :
    t.significant old new level = true ↔
      old ≠ new ∧ (t.effective new level ≤ distance old new ∨ new = 0 ∨ new = t.maxReading) := by
  simp [significant, or_assoc]

theorem NoiseThresholds.significant_eq_false {t : NoiseThresholds} {old new : Nat}
    {level : NoiseLevel} (h : t.significant old new level = false) :
    old = new ∨ distance old new < t.effective new level ∧ new ≠ 0 ∧ new ≠ t.maxReading := by
  rw [Bool.eq_false_iff, ne_eq, significant_iff] at h
  omega

namespace Decoder

variable {d : Decoder} {values : List Nat}

theorem accept?_eq_some {s : DecoderSettings} {old : Option Accepted} {value : Nat} {e : Accepted}
    (h : accept? s old value = some e) :
    e.reading = min value s.thresholds.maxReading ∧ e.value = s.volume e.reading := by
  simp only [accept?, Option.ite_none_right_eq_some, Option.some.injEq] at h
  obtain ⟨-, rfl⟩ := h
  exact ⟨rfl, rfl⟩

theorem significant_of_accept?_eq_none {s : DecoderSettings} {last : Accepted} {value : Nat}
    (h : accept? s (some last) value = none) :
    s.thresholds.significant last.reading (min value s.thresholds.maxReading) s.noise = false := by
  simpa [accept?] using h

theorem near_take {slider v : Nat} (h : values[slider]? = some v) :
    let s := d.settings
    let r := min v s.thresholds.maxReading
    ∃ e, (d.take values).2.sliders[slider]? = some (some e) ∧
      (e.reading = r ∨ ((e.reading : Int) - r).natAbs < s.thresholds.effective r s.noise ∧
        r ≠ 0 ∧ r ≠ s.thresholds.maxReading) := by
  intro s r
  obtain ⟨e, hentry, haccept | ⟨haccept, hold⟩⟩ := entry_take (d := d) h
  · exact ⟨e, hentry, .inl (accept?_eq_some haccept).1⟩
  · -- the reading was held against the one that is kept
    refine ⟨e, hentry, ?_⟩
    rw [hold] at haccept
    have hnear := NoiseThresholds.significant_eq_false (significant_of_accept?_eq_none haccept)
    refine hnear.imp_right fun ⟨hdistance, hstops⟩ => ⟨?_, hstops⟩
    rw [NoiseThresholds.natAbs_sub]
    exact hdistance

/-- All entries are readings of the range in force, and have the volumes of the settings in force. -/
def Settled (d : Decoder) : Prop :=
  ∀ (slider : Nat) (e : Accepted), d.sliders[slider]? = some (some e) →
    e.reading ≤ d.settings.thresholds.maxReading ∧ e.value = d.settings.volume e.reading

theorem settled_of_sliders_eq_nil (h : d.sliders = []) : d.Settled := by
  intro slider e hentry
  simp [h] at hentry

theorem Settled.take (h : d.Settled) : (d.take values).2.Settled := by
  intro slider e hentry
  have hslider : slider < values.length := by
    rw [← sliderCount_take d values]
    exact (List.getElem?_eq_some_iff.mp hentry).1
  obtain ⟨e', hentry', hcase⟩ := entry_take (d := d) (List.getElem?_eq_getElem hslider)
  obtain rfl : e = e' := by simpa [hentry] using hentry'
  rw [settings_take]
  rcases hcase with haccept | ⟨-, hold⟩
  · obtain ⟨hreading, hvalue⟩ := accept?_eq_some haccept
    exact ⟨hreading ▸ Nat.min_le_right _ _, hvalue⟩
  · exact h slider e (known?_eq_some hold).2

end Decoder

namespace Observed

variable {o : Observed}

theorem settled_call (h : o.changed = false → o.decoder.Settled) (c : Decoder.Call)
    (unchanged : (o.call c).changed = false) : (o.call c).decoder.Settled := by
  cases c with
  | line text =>
    cases hparse : Frame.parse text.toList o.decoder.settings.thresholds.maxReading with
    | error e =>
      rw [call_line_of_error hparse] at unchanged ⊢
      exact h unchanged
    | ok values =>
      rw [call_line_of_ok hparse] at unchanged ⊢
      exact (h unchanged).take
  | adopt settings =>
    -- the same settings once more are no change
    obtain ⟨hchanged, rfl⟩ : o.changed = false ∧ settings = o.decoder.settings := by
      simpa [call] using unchanged
    exact h hchanged
  | reset => exact Decoder.settled_of_sliders_eq_nil rfl

theorem settled_foldl (h : o.changed = false → o.decoder.Settled) (calls : List Decoder.Call)
    (unchanged : (calls.foldl call o).changed = false) : (calls.foldl call o).decoder.Settled := by
  induction calls generalizing o with
  | nil => exact h unchanged
  | cons c rest ih => exact ih (settled_call h c) unchanged

/-- After any calls and a frame: what is kept of each slider is its reading, cut off at the end of
    the range, or within the threshold of it, and then the reading is at neither stop.  If the
    settings are those at the last reset, the last volume is that of the reading kept, with two
    decimals, and at the stops it is an end of the volumes. -/
theorem reading_near (settings : DecoderSettings) (calls : List Decoder.Call) :
    let o := calls.foldl call (start settings)
    let s := o.decoder.settings
    let full := s.thresholds.maxReading
    ∀ line values, Frame.parse line.toList full = .ok values →
      ∀ (i v : Nat), values[i]? = some v →
        let r := min v full
        let after := (o.decoder.decode line).2
        ∃ e, after.sliders[i]? = some (some e) ∧
          (e.reading = r ∨
            ((e.reading : Int) - r).natAbs < s.thresholds.effective r s.noise ∧ r ≠ 0 ∧ r ≠ full) ∧
          (o.changed = false →
            (let scalar :=
              if full = 0 then Binary32.zero
              else Binary32.ofQuotient false (100 * e.reading / full) 100
            after.lastValue? i = some (if s.invert then Binary32.one - scalar else scalar)) ∧
            (r = 0 → after.lastValue? i = some (if s.invert then Binary32.one else Binary32.zero)) ∧
            (r = full → full ≠ 0 →
              after.lastValue? i = some (if s.invert then Binary32.zero else Binary32.one))) := by
  intro o s full line values hparse i v hv r after
  have htake : after = (o.decoder.take values).2 := by rw [← Decoder.decode_of_ok hparse]
  obtain ⟨e, hentry, hnear⟩ := Decoder.near_take (d := o.decoder) hv
  rw [← htake] at hentry
  refine ⟨e, hentry, hnear, fun unchanged => ?_⟩
  have hsettled : after.Settled := by
    rw [htake]
    refine Decoder.Settled.take (settled_foldl ?_ calls unchanged)
    exact fun _ => Decoder.settled_of_sliders_eq_nil rfl
  have hsettings : after.settings = s := by rw [htake, Decoder.settings_take]
  obtain ⟨hreading, hvalue⟩ := hsettled i e hentry
  rw [hsettings] at hreading hvalue
  have hlast : after.lastValue? i = some (s.volume e.reading) := by
    rw [Decoder.lastValue?_eq_some hentry, hvalue]
  -- at a stop nothing but the reading itself is kept
  have hstop (h : r = 0 ∨ r = full) : e.reading = r := by
    rcases hnear with hsame | ⟨-, hzero, hfull⟩
    · exact hsame
    · exact absurd h (not_or.mpr ⟨hzero, hfull⟩)
  refine ⟨?_, fun hzero => ?_, fun hfull hrange => ?_⟩
  · rw [hlast, s.volume_eq hreading]
  · rw [hlast, hstop (.inl hzero), hzero, s.volume_zero]
  · rw [hlast, hstop (.inr hfull), hfull, s.volume_full hrange]

/-- A slider drifts a step at a time and stays where it was, and two are pushed to their stops. -/
theorem reading_near_after_drift :
    let calls : List Decoder.Call := [.line "500|1012|7\n", .line "504|1016|3\n", .line "x"]
    let o := calls.foldl call (start {})
    let after := (o.decoder.decode "509|1023|0\n").2
    (∃ e, after.sliders[0]? = some (some e) ∧ e.reading = 500 ∧
      (e.reading = 509 ∨ ((e.reading : Int) - 509).natAbs < 10 ∧ 509 ≠ 0 ∧ 509 ≠ 1023)) ∧
    after.lastValue? 1 = some Binary32.one ∧ after.lastValue? 2 = some Binary32.zero := by
  intro calls o after
  have hparse : Frame.parse "509|1023|0\n".toList 1023 = .ok [509, 1023, 0] := by decide +kernel
  have hnear := reading_near {} calls "509|1023|0\n" [509, 1023, 0] hparse
  obtain ⟨e, hentry, hreading, -⟩ := hnear 0 509 rfl
  obtain ⟨_, -, -, hfull⟩ := hnear 1 1023 rfl
  obtain ⟨_, -, -, hzero⟩ := hnear 2 0 rfl
  have hkept : (after.sliders[0]?.join.map (·.reading)) = some 500 := by decide +kernel
  refine ⟨⟨e, hentry, ?_, hreading⟩, (hfull rfl).2.2 rfl (by decide), (hzero rfl).2.1 rfl⟩
  simpa [show after.sliders[0]? = some (some e) from hentry] using hkept

end Observed

end SliderMixer
