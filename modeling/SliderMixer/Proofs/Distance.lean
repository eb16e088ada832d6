import Mathlib.Order.Monotone.Basic
import Mathlib.Tactic.Ring
import SliderMixer.Routing

/-! # Distances of volumes

Volumes are compared by their difference, which is rounded before it is compared.

* `Binary32.payload_sub`: the difference of finite numbers, rounded once.
* `closeVolumes_iff`: which distances count as equal, as an exact number of units.
* `Binary32.WithinMillionth`: volumes that count as equal lie less than a millionth apart.
-/

namespace SliderMixer

/-! ## Rounding -/

theorem div_le_roundDiv (num den : Nat) : num / den ≤ roundDiv num den := by
  unfold roundDiv
  dsimp only
  split
  · exact Nat.le_refl _
  · split <;> omega

theorem roundDiv_le_succ (num den : Nat) : roundDiv num den ≤ num / den + 1 := by
  unfold roundDiv
  dsimp only
  split
  · omega
  · split <;> omega

/-- A quotient is rounded down to an even number exactly up to the middle behind it. -/
theorem roundDiv_le_iff_of_even {num den n : Nat} (hden : 0 < den) (heven : n % 2 = 0) :
    roundDiv num den ≤ n ↔ 2 * num ≤ (2 * n + 1) * den := by
  have hparts := Nat.div_add_mod num den
  have hrest := Nat.mod_lt num hden
  have htwice : (2 * n + 1) * den = 2 * (den * n) + den := by ring
  rcases Nat.lt_trichotomy (num / den) n with hless | hsame | hmore
  · have hmul : den * (num / den + 1) ≤ den * n := Nat.mul_le_mul_left den hless
    rw [Nat.mul_add, Nat.mul_one] at hmul
    exact iff_of_true ((roundDiv_le_succ num den).trans hless) (by omega)
  · rw [hsame] at hparts
    unfold roundDiv
    dsimp only
    rw [hsame]
    split
    · omega
    · split <;> omega
  · have hmul : den * (n + 1) ≤ den * (num / den) := Nat.mul_le_mul_left den hmore
    rw [Nat.mul_add, Nat.mul_one] at hmul
    exact iff_of_false (by have := div_le_roundDiv num den; omega) (by omega)

namespace Binary32

/-! ## Payloads -/

/-- The value of a payload in units. -/
def payloadUnits (payload : Nat) : Nat :=
  if payload / fractionSize = 0 then payload % fractionSize
  else (fractionSize + payload % fractionSize) <<< (payload / fractionSize - 1)

theorem magnitude_eq (x : Binary32) : x.magnitude = payloadUnits x.payload := rfl

/-- Payloads are ordered as their values. -/
theorem payloadUnits_strictMono : StrictMono payloadUnits := by
  refine strictMono_nat_of_lt_succ fun p => ?_
  simp only [payloadUnits, fractionSize, Nat.shiftLeft_eq]
  by_cases hlast : p % 0x800000 = 0x7fffff
  · -- the next payload has the next exponent
    have hdiv : (p + 1) / 0x800000 = p / 0x800000 + 1 := by omega
    have hmod : (p + 1) % 0x800000 = 0 := by omega
    rw [hdiv, hmod, hlast]
    by_cases hzero : p / 0x800000 = 0
    · simp [hzero]
    · obtain ⟨e, he⟩ := Nat.exists_eq_succ_of_ne_zero hzero
      simp only [he, Nat.succ_ne_zero, if_false, Nat.succ_eq_add_one, Nat.add_sub_cancel, Nat.pow_succ]
      have hpos := Nat.two_pow_pos e
      omega
  · have hdiv : (p + 1) / 0x800000 = p / 0x800000 := by omega
    have hmod : (p + 1) % 0x800000 = p % 0x800000 + 1 := by omega
    rw [hdiv, hmod]
    split
    · exact Nat.lt_succ_self _
    · exact Nat.mul_lt_mul_of_pos_right (by omega) (Nat.two_pow_pos _)

theorem payload_ofPayload {negative : Bool} {payload : Nat} (h : payload < 0x80000000) :
    (ofPayload negative payload).payload = payload := by
  cases negative <;> simp [ofPayload, Binary32.payload] <;> omega

theorem negative_ofPayload {payload : Nat} (h : payload < 0x80000000) :
    (ofPayload false payload).negative = false := by
  simp [ofPayload, negative]
  omega

theorem payload_lt (x : Binary32) : x.payload < 0x80000000 := Nat.mod_lt _ (by decide)

/-! ## Differences -/

/-- The payload of a number of units, rounded to the nearest number. -/
def roundedPayload (units : Nat) : Nat :=
  let shift := units.log2 + 1 - 24
  min infinityPayload (shift * fractionSize + roundDiv units (2 ^ shift))

theorem roundedPayload_le (units : Nat) : roundedPayload units ≤ infinityPayload :=
  Nat.min_le_left _ _

theorem payload_ofUnits (negative : Bool) (units : Nat) :
    (ofUnits negative units 1).payload = roundedPayload units := by
  have hpayload : ofUnits negative units 1 = ofPayload negative (roundedPayload units) := by
    simp only [ofUnits, significand, roundedPayload, Nat.div_one, Nat.one_shiftLeft]
  rw [hpayload, payload_ofPayload]
  exact (roundedPayload_le units).trans_lt (by decide)

/-- The difference of finite numbers is rounded once. -/
theorem payload_sub {x y : Binary32} (hx : x.isFinite = true) (hy : y.isFinite = true) :
    (x - y).payload = roundedPayload (x.units - y.units).natAbs := by
  have hparts (z : Binary32) (hz : z.isFinite = true) : z.isNaN = false ∧ z.isInfinite = false := by
    simp only [isFinite, isNaN, isInfinite, decide_eq_true_eq, decide_eq_false_iff_not,
      beq_eq_false_iff_ne] at hz ⊢
    omega
  show (sub x y).payload = _
  simp only [sub, hparts x hx, hparts y hy, Bool.or_self, Bool.false_eq_true, if_false]
  split
  · next hsame => rw [payload_ofPayload (by decide), hsame]; decide +kernel
  · exact payload_ofUnits _ _

/-- A difference with what is not finite is not finite. -/
theorem infinityPayload_le_payload_sub {x y : Binary32}
    (h : ¬ (x.isFinite = true ∧ y.isFinite = true)) : infinityPayload ≤ (x - y).payload := by
  have hinfinity (negative : Bool) : (infinity negative).payload = infinityPayload :=
    payload_ofPayload (by decide)
  have hnan : infinityPayload ≤ nan.payload := by decide
  show infinityPayload ≤ (sub x y).payload
  unfold sub
  split
  · exact hnan
  · split
    · split
      · exact hnan
      · exact (hinfinity _).ge
    · split
      · exact (hinfinity _).ge
      · next hneither hx hy =>
        simp only [isNaN, isInfinite, isFinite, Bool.or_eq_true, decide_eq_true_eq, beq_iff_eq]
          at hneither hx hy h
        omega

end Binary32

/-! ## Close volumes -/

open Binary32

theorem payload_volumeTolerance : volumeTolerance.payload = 0x358637bd := by decide +kernel

/-- The difference is compared by its payload. -/
theorem closeVolumes_iff_payload {x y : Binary32} :
    closeVolumes x y = true ↔ (x - y).payload < 0x358637bd := by
  have habs (z : Binary32) : z.abs.payload = z.payload := payload_ofPayload z.payload_lt
  have hsign (z : Binary32) : z.abs.negative = false := negative_ofPayload z.payload_lt
  have htolerance : volumeTolerance.negative = false := by decide +kernel
  simp only [closeVolumes, Binary32.lt, isNaN, units, magnitude_eq, habs, hsign, htolerance,
    payload_volumeTolerance, infinityPayload, Bool.and_eq_true, Bool.not_eq_true',
    decide_eq_false_iff_not, decide_eq_true_eq, Bool.false_eq_true, if_false, Int.ofNat_lt,
    payloadUnits_strictMono.lt_iff_lt]
  omega

/-- The largest distance, in units, that is rounded to one below the tolerance. -/
def closeUnits : Nat := (2 * 0x8637bd - 1) * 2 ^ 105

theorem roundedPayload_lt_iff (units : Nat) :
    roundedPayload units < 0x358637bd ↔ units ≤ closeUnits := by
  have hclose : 2 ^ 129 ≤ closeUnits ∧ closeUnits < 2 ^ 130 := by decide +kernel
  have hupper : units < 2 ^ (units.log2 + 1) := Nat.lt_log2_self
  simp only [roundedPayload, infinityPayload, fractionSize]
  rcases Nat.lt_trichotomy units.log2 129 with hsmall | hsame | hlarge
  · -- a smaller exponent
    have hunits : units < 2 ^ 129 := hupper.trans_le (Nat.pow_le_pow_right (by decide) (by omega))
    have hmantissa : units / 2 ^ (units.log2 + 1 - 24) < 2 ^ 24 := by
      rw [Nat.div_lt_iff_lt_mul (Nat.two_pow_pos _), ← Nat.pow_add]
      exact hupper.trans_le (Nat.pow_le_pow_right (by decide) (by omega))
    have hround := roundDiv_le_succ units (2 ^ (units.log2 + 1 - 24))
    exact iff_of_true (by omega) (by omega)
  · -- the exponent of the tolerance
    have hshift : units.log2 + 1 - 24 = 106 := by omega
    rw [hshift]
    have hhalf : roundDiv units (2 ^ 106) ≤ 0x8637bc ↔
        2 * units ≤ (2 * 0x8637bc + 1) * 2 ^ 106 :=
      roundDiv_le_iff_of_even (Nat.two_pow_pos 106) rfl
    have hunits : 2 * units ≤ (2 * 0x8637bc + 1) * 2 ^ 106 ↔ units ≤ closeUnits := by
      simp only [closeUnits]
      omega
    rw [← hunits, ← hhalf]
    omega
  · -- a larger exponent
    have hnonzero : units ≠ 0 := by
      rintro rfl
      simp at hlarge
    have hlower : 2 ^ units.log2 ≤ units := Nat.log2_self_le hnonzero
    have hunits : 2 ^ 130 ≤ units := (Nat.pow_le_pow_right (by decide) hlarge).trans hlower
    have hmantissa : 2 ^ 23 ≤ units / 2 ^ (units.log2 + 1 - 24) := by
      rw [Nat.le_div_iff_mul_le (Nat.two_pow_pos _), ← Nat.pow_add]
      exact (Nat.pow_le_pow_right (by decide) (by omega)).trans hlower
    have hround := div_le_roundDiv units (2 ^ (units.log2 + 1 - 24))
    exact iff_of_false (by omega) (by omega)

/-- Volumes count as equal exactly up to a distance. -/
theorem closeVolumes_iff {x y : Binary32} :
    closeVolumes x y = true ↔
      x.isFinite = true ∧ y.isFinite = true ∧ (x.units - y.units).natAbs ≤ closeUnits := by
  rw [closeVolumes_iff_payload]
  by_cases hfinite : x.isFinite = true ∧ y.isFinite = true
  · rw [payload_sub hfinite.1 hfinite.2, roundedPayload_lt_iff]
    simp only [hfinite, true_and]
  · have hinfinite := infinityPayload_le_payload_sub hfinite
    simp only [infinityPayload] at hinfinite
    constructor
    · omega
    · rintro ⟨hx, hy, -⟩
      exact absurd ⟨hx, hy⟩ hfinite

theorem closeVolumes_self {x : Binary32} (h : x.isFinite = true) : closeVolumes x x = true :=
  closeVolumes_iff.mpr ⟨h, h, by simp⟩

namespace Binary32

/-- Less than a millionth apart; a unit is `2 ^ -149`. -/
def WithinMillionth (x y : Binary32) : Prop := (x.units - y.units).natAbs * 1000000 < 2 ^ 149

theorem withinMillionth_of_closeVolumes {x y : Binary32} (h : closeVolumes x y = true) :
    x.WithinMillionth y := by
  obtain ⟨-, -, hclose⟩ := closeVolumes_iff.mp h
  have hbound : closeUnits * 1000000 < 2 ^ 149 := by decide +kernel
  exact (Nat.mul_le_mul_right 1000000 hclose).trans_lt hbound

theorem isFinite_of_inUnitInterval {x : Binary32} (h : x.inUnitInterval = true) :
    x.isFinite = true := by
  have hbounds : zero.units = 0 ∧ one.units = 2 ^ 149 := by decide +kernel
  have hlarge : 2 ^ 149 < payloadUnits infinityPayload := by decide +kernel
  simp only [inUnitInterval, le, Bool.and_eq_true, decide_eq_true_eq, hbounds] at h
  obtain ⟨⟨-, hpositive⟩, -, hupper⟩ := h
  simp only [isFinite, decide_eq_true_eq]
  by_contra hinfinite
  have hmagnitude : payloadUnits infinityPayload ≤ x.magnitude :=
    payloadUnits_strictMono.monotone (Nat.le_of_not_lt hinfinite)
  cases hnegative : x.negative with
  | true =>
    simp only [units, hnegative, if_true] at hpositive
    omega
  | false =>
    simp only [units, hnegative, Bool.false_eq_true, if_false] at hupper
    omega

end Binary32

end SliderMixer
