import Mathlib.Data.List.DropRight
import SliderMixer.Proofs.LineGrammar
import SliderMixer.Settings

/-! # Keys of sliders

A key of the settings names a slider by its number, in any of the ways in which a number may be
written.

* `trim_eq_iff`: what is left of a text without the blanks around it.
* `Frame.eq_padded`: digits are the number that they write, with zeros in front of it.
* `NamesSlider`: the keys of a slider as they are written, `sliderNumber?_trim`: they are the keys
  that are read as its number.
-/

namespace SliderMixer

/-! ## Blanks around a text -/

/-- There is nothing but blanks. -/
def AllBlank (text : List Char) : Prop := ∀ c ∈ text, isBlank c = true

-- by the characters of the text, and not by all characters that there are
instance (text : List Char) : Decidable (AllBlank text) := List.decidableBAll _ text

/-- There is no blank at either end. -/
structure Tight (text : List Char) : Prop where
  front : ∀ c ∈ text.head?, isBlank c = false
  back : ∀ c ∈ text.getLast?, isBlank c = false

/-- `core` is `text` without the blanks at both ends. -/
def Trims (text core : List Char) : Prop :=
  Tight core ∧ ∃ front back, AllBlank front ∧ AllBlank back ∧ text = front ++ core ++ back

theorem trim_eq_rdropWhile (text : List Char) :
    trim text = (text.dropWhile isBlank).rdropWhile isBlank := rfl

theorem exists_eq_append_trim (text : List Char) :
    ∃ front back, AllBlank front ∧ AllBlank back ∧ text = front ++ trim text ++ back := by
  refine ⟨text.takeWhile isBlank, (text.dropWhile isBlank).rtakeWhile isBlank,
    fun c => List.mem_takeWhile_imp, fun c => List.mem_rtakeWhile_imp, ?_⟩
  rw [trim_eq_rdropWhile, List.append_assoc, List.rdropWhile_append_rtakeWhile,
    List.takeWhile_append_dropWhile]

theorem trim_eq_nil_iff {text : List Char} : trim text = [] ↔ AllBlank text := by
  constructor
  · intro h
    obtain ⟨front, back, hfront, hback, htext⟩ := exists_eq_append_trim text
    rw [h, List.append_nil] at htext
    rw [htext]
    exact List.forall_mem_append.mpr ⟨hfront, hback⟩
  · intro h
    rw [trim_eq_rdropWhile, List.dropWhile_eq_nil_iff.mpr h]
    rfl

theorem tight_trim (text : List Char) : Tight (trim text) where
  front c hc := by
    -- the characters cut off at the end leave the first one where it is
    obtain ⟨cut, hcut⟩ := List.rdropWhile_prefix isBlank (text.dropWhile isBlank)
    have hhead : (text.dropWhile isBlank).head? = some c := by
      rw [← hcut, List.head?_append, ← trim_eq_rdropWhile, hc]
      rfl
    have hstops := List.head?_dropWhile_not isBlank text
    rwa [hhead] at hstops
  back c hc := by
    obtain ⟨hne, rfl⟩ := List.mem_getLast?_eq_getLast hc
    exact Bool.eq_false_iff.mpr (List.rdropWhile_last_not isBlank (text.dropWhile isBlank) hne)

theorem rdropWhile_append_blank {back : List Char} (h : AllBlank back) (text : List Char) :
    (text ++ back).rdropWhile isBlank = text.rdropWhile isBlank := by
  have hreverse : AllBlank back.reverse := fun c hc => h c (List.mem_reverse.mp hc)
  rw [List.rdropWhile, List.reverse_append, List.dropWhile_append_of_pos hreverse]
  rfl

theorem trim_append_of_tight {front core back : List Char} (hfront : AllBlank front)
    (hback : AllBlank back) (h : Tight core) : trim (front ++ core ++ back) = core := by
  cases core with
  | nil =>
    rw [List.append_nil, trim_eq_nil_iff]
    exact List.forall_mem_append.mpr ⟨hfront, hback⟩
  | cons c rest =>
    have hfirst : ¬ isBlank c = true := Bool.eq_false_iff.mp (h.front c rfl)
    have hlast : (c :: rest).rdropWhile isBlank = c :: rest :=
      List.rdropWhile_eq_self_iff.mpr fun hne =>
        Bool.eq_false_iff.mp (h.back _ (List.getLast?_eq_some_getLast hne))
    calc trim (front ++ c :: rest ++ back)
        = ((c :: rest ++ back).dropWhile isBlank).rdropWhile isBlank := by
          rw [trim_eq_rdropWhile, List.append_assoc, List.dropWhile_append_of_pos hfront]
      _ = (c :: rest ++ back).rdropWhile isBlank := by
          rw [List.cons_append, List.dropWhile_cons_of_neg hfirst]
      _ = c :: rest := by rw [rdropWhile_append_blank hback, hlast]

/-- Trimming is the only way to take blanks away from both ends until none is left there. -/
theorem trim_eq_iff {text core : List Char} : trim text = core ↔ Trims text core := by
  constructor
  · rintro rfl
    exact ⟨tight_trim text, exists_eq_append_trim text⟩
  · rintro ⟨htight, front, back, hfront, hback, rfl⟩
    exact trim_append_of_tight hfront hback htight

/-! ## Digits -/

namespace Frame

theorem digitChar_of_isDigit {c : Char} (h : c.isDigit = true) :
    c.toNat - '0'.toNat < 10 ∧ (c.toNat - '0'.toNat).digitChar = c := by
  obtain ⟨hlow, hhigh⟩ := Char.isDigit_iff_toNat.mp h
  have hlt : c.toNat - '0'.toNat < 10 := Nat.lt_succ_of_le (Nat.sub_le_of_le_add hhigh)
  refine ⟨hlt, Char.toNat_inj.mp ?_⟩
  rw [Nat.toNat_digitChar_of_lt_ten hlt]
  exact Nat.add_sub_cancel' hlow

theorem exists_zeros {digits : List Char} (hne : digits ≠ [])
    (h : ∀ c ∈ digits, c.isDigit = true) :
    ∃ zeros, digits = List.replicate zeros '0' ++ Nat.toDigits 10 (decimal digits) := by
  induction digits using List.reverseRecOn with
  | nil => exact absurd rfl hne
  | append_singleton front c ih =>
    obtain ⟨hc, hchar⟩ := digitChar_of_isDigit (h c (by simp))
    rw [decimal_append_singleton]
    by_cases hfront : front = []
    · subst hfront
      refine ⟨0, ?_⟩
      rw [show decimal [] = 0 from rfl, Nat.mul_zero, Nat.zero_add, Nat.toDigits_of_lt_base hc, hchar]
      rfl
    · obtain ⟨zeros, hzeros⟩ := ih hfront fun d hd => h d (by simp [hd])
      rcases Nat.eq_zero_or_pos (decimal front) with hzero | hpos
      · -- the zero of the number in front is one zero more
        refine ⟨zeros + 1, ?_⟩
        rw [hzero, Nat.toDigits_zero, ← List.replicate_succ'] at hzeros
        rw [hzero, Nat.mul_zero, Nat.zero_add, Nat.toDigits_of_lt_base hc, hchar, ← hzeros]
      · refine ⟨zeros, ?_⟩
        rw [← Nat.toDigits_append_toDigits (by decide) hpos hc, Nat.toDigits_of_lt_base hc, hchar,
          ← List.append_assoc, ← hzeros]

/-- Digits are the number that they write, with zeros in front of it. -/
theorem exists_eq_padded {digits : List Char} (hne : digits ≠ [])
    (h : ∀ c ∈ digits, c.isDigit = true) : ∃ width, digits = padded width (decimal digits) := by
  obtain ⟨zeros, hzeros⟩ := exists_zeros hne h
  refine ⟨zeros + (Nat.toDigits 10 (decimal digits)).length, ?_⟩
  rw [padded, List.leftpad, Nat.add_sub_cancel]
  exact hzeros

theorem padded_ne_nil (width n : Nat) : padded width n ≠ [] :=
  List.append_ne_nil_of_right_ne_nil _ Nat.toDigits_ne_nil

end Frame

theorem digitsNumber?_eq_some_iff {digits : List Char} {n : Nat} :
    digitsNumber? digits = some n ↔ ∃ width, digits = Frame.padded width n := by
  constructor
  · intro h
    unfold digitsNumber? at h
    split at h
    · cases h
    · next hne =>
      obtain ⟨hdigits, hn⟩ := Option.ite_none_right_eq_some.mp h
      obtain rfl : Frame.decimal digits = n := Option.some.inj hn
      exact Frame.exists_eq_padded (by simpa using hne) (List.all_eq_true.mp hdigits)
  · rintro ⟨width, rfl⟩
    have hne : (Frame.padded width n).isEmpty = false := by simp [Frame.padded_ne_nil]
    have hdigits : (Frame.padded width n).all Char.isDigit = true :=
      List.all_eq_true.mpr fun c => Frame.isDigit_of_mem_padded
    rw [digitsNumber?, hne, hdigits, Frame.decimal_padded]
    rfl

/-! ## Numbers of sliders -/

/-- The digits of a number, with any zeros in front and maybe a plus sign before them. -/
def WritesNumber (text : List Char) (n : Nat) : Prop :=
  ∃ width, text = Frame.padded width n ∨ text = '+' :: Frame.padded width n

/-- The text without the plus sign at its front, if there is one. -/
def unsigned (text : List Char) : List Char :=
  match text with
  | '+' :: rest => rest
  | _ => text

theorem writesNumber_iff_unsigned {text : List Char} {n : Nat} :
    WritesNumber text n ↔ ∃ width, unsigned text = Frame.padded width n := by
  refine exists_congr fun width => ?_
  unfold unsigned
  split
  · next rest =>
    refine ⟨?_, fun h => .inr (congrArg _ h)⟩
    rintro (hplain | hplus)
    · -- a number begins with a digit
      have hdigit : '+'.isDigit = true :=
        Frame.isDigit_of_mem_padded (hplain ▸ List.mem_cons_self : '+' ∈ Frame.padded width n)
      exact absurd hdigit (by decide)
    · exact (List.cons.inj hplus).2
  · next hplain => exact or_iff_left (hplain _)

theorem sliderNumber?_eq_filter (text : List Char) :
    sliderNumber? text = (digitsNumber? (unsigned text)).filter (· < sliderLimit) := by
  unfold sliderNumber? unsigned
  split
  · next rest => cases hread : digitsNumber? rest <;> simp [hread, Option.filter]
  · cases hread : digitsNumber? text <;> simp [hread, Option.filter]

theorem sliderNumber?_eq_some_iff {text : List Char} {n : Nat} :
    sliderNumber? text = some n ↔ n < sliderLimit ∧ WritesNumber text n := by
  rw [sliderNumber?_eq_filter, Option.filter_eq_some_iff, digitsNumber?_eq_some_iff,
    decide_eq_true_eq, writesNumber_iff_unsigned, and_comm]

/-! ## Keys -/

/-- The key is the number of the slider, with blanks around it. -/
def NamesSlider (key : String) (slider : Nat) : Prop :=
  slider < sliderLimit ∧ ∃ front number back, AllBlank front ∧ AllBlank back ∧
    WritesNumber number slider ∧ key.toList = front ++ number ++ back

theorem isBlank_of_isDigit {c : Char} (h : c.isDigit = true) : isBlank c = false := by
  have hlow : 48 ≤ c.toNat := (Char.isDigit_iff_toNat.mp h).1
  have hhigh : c.toNat ≤ 57 := (Char.isDigit_iff_toNat.mp h).2
  simp only [isBlank, Bool.or_eq_false_iff, Bool.and_eq_false_imp, decide_eq_true_eq,
    decide_eq_false_iff_not, beq_eq_false_iff_ne]
  omega

theorem tight_of_forall {text : List Char} (h : ∀ c ∈ text, isBlank c = false) : Tight text where
  front c hc := h c (List.mem_of_mem_head? hc)
  back c hc := h c (List.mem_of_mem_getLast? hc)

theorem tight_of_writesNumber {text : List Char} {n : Nat} (h : WritesNumber text n) :
    Tight text := by
  have hdigits (width : Nat) : ∀ c ∈ Frame.padded width n, isBlank c = false :=
    fun c hc => isBlank_of_isDigit (Frame.isDigit_of_mem_padded hc)
  obtain ⟨width, rfl | rfl⟩ := h
  · exact tight_of_forall (hdigits width)
  · exact tight_of_forall (List.forall_mem_cons.mpr ⟨by decide, hdigits width⟩)

/-- The keys of a slider are those that are read as its number. -/
theorem sliderNumber?_trim {key : String} {slider : Nat} :
    sliderNumber? (trim key.toList) = some slider ↔ NamesSlider key slider := by
  rw [sliderNumber?_eq_some_iff]
  refine and_congr_right fun _ => ⟨fun h => ?_, ?_⟩
  · obtain ⟨front, back, hfront, hback, hkey⟩ := exists_eq_append_trim key.toList
    exact ⟨front, trim key.toList, back, hfront, hback, h, hkey⟩
  · rintro ⟨front, number, back, hfront, hback, hnumber, hkey⟩
    rwa [hkey, trim_append_of_tight hfront hback (tight_of_writesNumber hnumber)]

instance (key : String) (slider : Nat) : Decidable (NamesSlider key slider) :=
  decidable_of_iff _ sliderNumber?_trim

end SliderMixer
