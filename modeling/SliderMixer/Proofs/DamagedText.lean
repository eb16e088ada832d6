import Mathlib.Data.List.Basic
import SliderMixer.Text.Utf8

/-! # Damaged text

Bytes that are no text are replaced, and nothing else happens to the ASCII characters around them.

* `scan_of_ascii`, `scan_of_not_ascii`: an ASCII byte is a character of its own, and any other byte
  belongs to a character that is not ASCII, with nothing but such bytes.
* `filter_ascii_decodeLossy`: the ASCII characters of the text are the ASCII bytes, in order.
* `decodeLossy_eq_iff`: a text of ASCII characters comes from its own bytes only.
-/

namespace SliderMixer.Utf8

/-! ## The table -/

def ascii (b : UInt8) : Char := Char.ofNat b.toNat

theorem toNat_ofNat {n : Nat} (h : n.isValidChar) : (Char.ofNat n).toNat = n := by
  rw [Char.ofNat, dif_pos h]
  rfl

theorem toNat_ascii {b : UInt8} (h : b.toNat < 0x80) : (ascii b).toNat = b.toNat :=
  toNat_ofNat (.inl (Nat.lt_trans h (by decide)))

theorem ascii_toUInt8 {c : Char} (h : c.toNat < 0x80) :
    c.toUInt8.toNat = c.toNat ∧ ascii c.toUInt8 = c := by
  have hnat : c.toUInt8.toNat = c.toNat := by
    have hval : c.val.toNat = c.toNat := rfl
    rw [Char.toUInt8, UInt32.toNat_toUInt8, hval]
    omega
  exact ⟨hnat, by rw [ascii, hnat, Char.ofNat_toNat]⟩

theorem toUInt8_ascii {b : UInt8} (h : b.toNat < 0x80) : (ascii b).toUInt8 = b := by
  have hchar : (ascii b).toNat < 0x80 := by rwa [toNat_ascii h]
  rw [← UInt8.toNat_inj, (ascii_toUInt8 hchar).1, toNat_ascii h]

/-- The bytes that start a sequence, and where the byte after them lies. -/
theorem leadLength_cases {lead : UInt8} (h : ¬ lead.toNat < 0x80) :
    leadLength lead = 0 ∨
    leadLength lead = 2 ∧ 0xc2 ≤ lead.toNat ∧ lead.toNat ≤ 0xdf ∨
    leadLength lead = 3 ∧ 0xe0 ≤ lead.toNat ∧ lead.toNat ≤ 0xef ∨
    leadLength lead = 4 ∧ 0xf0 ≤ lead.toNat ∧ lead.toNat ≤ 0xf4 := by
  have hascii : ¬ lead < 0x80 := fun hlead => h (UInt8.lt_iff_toNat_lt.mp hlead)
  simp only [leadLength, hascii, if_false, Bool.and_eq_true, decide_eq_true_eq,
    UInt8.le_iff_toNat_le, UInt8.toNat_ofNat]
  split
  · exact .inr (.inl ⟨rfl, by omega⟩)
  · split
    · exact .inr (.inr (.inl ⟨rfl, by omega⟩))
    · split
      · exact .inr (.inr (.inr ⟨rfl, by omega⟩))
      · exact .inl rfl

theorem secondRange_cases (lead : UInt8) :
    0x80 ≤ (secondRange lead).1.toNat ∧ (secondRange lead).2.toNat ≤ 0xbf ∧
    (lead.toNat = 0xe0 → 0xa0 ≤ (secondRange lead).1.toNat) ∧
    (lead.toNat = 0xed → (secondRange lead).2.toNat ≤ 0x9f) ∧
    (lead.toNat = 0xf0 → 0x90 ≤ (secondRange lead).1.toNat) ∧
    (lead.toNat = 0xf4 → (secondRange lead).2.toNat ≤ 0x8f) := by
  simp only [secondRange, ← UInt8.toNat_inj, UInt8.toNat_ofNat]
  split
  · simp; omega
  · split
    · simp; omega
    · split
      · simp; omega
      · split
        · simp; omega
        · simp; omega

/-! ## Characters -/

theorem continuation_eq (range : UInt8 × UInt8) (limit : Nat) (bytes : List UInt8) :
    continuation range limit bytes = bytes.take (continuation range limit bytes).length := by
  fun_induction continuation range limit bytes with
  | case1 => simp
  | case2 => simp
  | case3 range limit b rest hrange ih => simpa using ih
  | case4 => simp

theorem not_ascii_of_mem_continuation {range : UInt8 × UInt8} (h : 0x80 ≤ range.1.toNat)
    {limit : Nat} {bytes : List UInt8} :
    ∀ b ∈ continuation range limit bytes, ¬ b.toNat < 0x80 := by
  fun_induction continuation range limit bytes with
  | case1 => simp
  | case2 => simp
  | case3 range limit b rest hrange ih =>
    simp only [Bool.and_eq_true, decide_eq_true_eq, UInt8.le_iff_toNat_le] at hrange
    have hb : ¬ b.toNat < 0x80 := Nat.not_lt.mpr (Nat.le_trans h hrange.1)
    exact List.forall_mem_cons.mpr ⟨hb, ih (by decide)⟩
  | case4 => simp

theorem head_continuation {range : UInt8 × UInt8} {limit : Nat} {bytes tail : List UInt8}
    {b : UInt8} (h : continuation range limit bytes = b :: tail) :
    range.1.toNat ≤ b.toNat ∧ b.toNat ≤ range.2.toNat := by
  match limit, bytes with
  | 0, _ => simp [continuation] at h
  | _ + 1, [] => simp [continuation] at h
  | limit + 1, c :: rest =>
    simp only [continuation] at h
    split at h
    · next hrange =>
      cases h
      simpa only [Bool.and_eq_true, decide_eq_true_eq, UInt8.le_iff_toNat_le] using hrange
    · cases h

/-- A sequence of several bytes stands for a character beyond ASCII. -/
theorem codePoint_not_ascii {lead : UInt8} {tail : List UInt8} (hlead : ¬ lead.toNat < 0x80)
    (hlength : leadLength lead = tail.length + 1)
    (hsecond : ∀ b ∈ tail.head?,
      (secondRange lead).1.toNat ≤ b.toNat ∧ b.toNat ≤ (secondRange lead).2.toNat) :
    0x80 ≤ codePoint lead tail ∧ (codePoint lead tail).isValidChar := by
  obtain ⟨hlow, hhigh, he0, hed, hf0, hf4⟩ := secondRange_cases lead
  rcases leadLength_cases hlead with h | ⟨h, hrange⟩ | ⟨h, hrange⟩ | ⟨h, hrange⟩ <;>
    rw [h] at hlength
  · omega
  · match tail, hlength with
    | [b], _ =>
      simp only [codePoint, List.length_singleton, List.foldl_cons, List.foldl_nil, Nat.isValidChar]
      omega
  · match tail, hlength with
    | [b, c], _ =>
      have hb := hsecond b rfl
      simp only [codePoint, List.length_cons, List.length_nil, List.foldl_cons, List.foldl_nil,
        Nat.isValidChar]
      omega
  · match tail, hlength with
    | [b, c, d], _ =>
      have hb := hsecond b rfl
      simp only [codePoint, List.length_cons, List.length_nil, List.foldl_cons, List.foldl_nil,
        Nat.isValidChar]
      omega

/-! ## Scanning -/

/-- The character that is read from the front. -/
def front (lead : UInt8) (rest : List UInt8) : Char := (scan lead rest).1.getD (Char.ofNat 0xfffd)

theorem scan_of_ascii {lead : UInt8} (h : lead.toNat < 0x80) (rest : List UInt8) :
    scan lead rest = (some (ascii lead), 0) := by
  have hlead : lead < 0x80 := UInt8.lt_iff_toNat_lt.mpr h
  have hlength : leadLength lead = 1 := by simp [leadLength, hlead]
  simp [scan, hlength, continuation, codePoint, ascii]

theorem scan_of_not_ascii {lead : UInt8} (h : ¬ lead.toNat < 0x80) (rest : List UInt8) :
    ¬ (front lead rest).toNat < 0x80 ∧ ∀ b ∈ rest.take (scan lead rest).2, ¬ b.toNat < 0x80 := by
  have hlow := (secondRange_cases lead).1
  let tail := continuation (secondRange lead) (leadLength lead - 1) rest
  have htake := continuation_eq (secondRange lead) (leadLength lead - 1) rest
  have hbytes : ∀ b ∈ tail, ¬ b.toNat < 0x80 := not_ascii_of_mem_continuation hlow
  by_cases hwhole : leadLength lead ≠ 0 ∧ tail.length = leadLength lead - 1
  · have hscan : scan lead rest = (some (Char.ofNat (codePoint lead tail)), tail.length) := by
      simp only [scan]
      rw [if_pos hwhole, hwhole.2]
    have hfirst : ∀ b ∈ tail.head?,
        (secondRange lead).1.toNat ≤ b.toNat ∧ b.toNat ≤ (secondRange lead).2.toNat := by
      intro b hb
      obtain ⟨more, htail⟩ := List.head?_eq_some_iff.mp hb
      exact head_continuation htail
    have hcode := codePoint_not_ascii h (by omega) hfirst
    refine ⟨?_, by rw [hscan, ← htake]; exact hbytes⟩
    rw [front, hscan, Option.getD_some, toNat_ofNat hcode.2]
    exact Nat.not_lt.mpr hcode.1
  · have hscan : scan lead rest = (none, tail.length) := by
      simp only [scan]
      rw [if_neg hwhole]
    refine ⟨?_, by rw [hscan, ← htake]; exact hbytes⟩
    rw [front, hscan, Option.getD_none]
    decide

/-! ## Texts -/

theorem toList_decodeLossy_nil : (decodeLossy []).toList = [] := by
  simp [decodeLossy, pieces]

theorem toList_decodeLossy_cons (lead : UInt8) (rest : List UInt8) :
    (decodeLossy (lead :: rest)).toList =
      front lead rest :: (decodeLossy (rest.drop (scan lead rest).2)).toList := by
  simp [decodeLossy, pieces, front]

/-- A text is read from its first character on: an ASCII byte, or bytes that are all beyond ASCII,
    just as their character. -/
@[elab_as_elim]
theorem decodeLossy_induction {P : List UInt8 → Prop} (nil : P [])
    (asciiFirst : ∀ lead rest, lead.toNat < 0x80 →
      (decodeLossy (lead :: rest)).toList = ascii lead :: (decodeLossy rest).toList →
      P rest → P (lead :: rest))
    (otherFirst : ∀ lead tail rest c, (∀ b ∈ lead :: tail, ¬ b.toNat < 0x80) → ¬ c.toNat < 0x80 →
      (decodeLossy (lead :: tail ++ rest)).toList = c :: (decodeLossy rest).toList →
      P rest → P (lead :: tail ++ rest))
    (bytes : List UInt8) : P bytes := by
  fun_induction pieces bytes with
  | case1 => exact nil
  | case2 lead rest ih =>
    have htext := toList_decodeLossy_cons lead rest
    by_cases hlead : lead.toNat < 0x80
    · rw [front, scan_of_ascii hlead, List.drop_zero] at htext
      rw [scan_of_ascii hlead, List.drop_zero] at ih
      exact asciiFirst lead rest hlead htext ih
    · obtain ⟨hchar, hbytes⟩ := scan_of_not_ascii hlead rest
      rw [← List.take_append_drop (scan lead rest).2 rest, ← List.cons_append]
      refine otherFirst lead _ _ _ (List.forall_mem_cons.mpr ⟨hlead, hbytes⟩) hchar ?_ ih
      rwa [List.cons_append, List.take_append_drop]

/-- Damaged sequences neither make an ASCII character nor take one away. -/
theorem filter_ascii_decodeLossy (bytes : List UInt8) :
    (decodeLossy bytes).toList.filter (fun c => decide (c.toNat < 0x80)) =
      (bytes.filter fun b => decide (b.toNat < 0x80)).map ascii := by
  induction bytes using decodeLossy_induction with
  | nil => simp [toList_decodeLossy_nil]
  | asciiFirst lead rest hlead htext ih => simp [htext, ih, hlead, toNat_ascii hlead]
  | otherFirst lead tail rest c hbytes hc htext ih =>
    have hnone : (lead :: tail).filter (fun b => decide (b.toNat < 0x80)) = [] := by
      simpa using hbytes
    rw [htext, List.filter_append, hnone, List.nil_append, ← ih]
    simp [hc]

/-- A text of ASCII characters is read from its own bytes, and from no others. -/
theorem decodeLossy_eq_iff {bytes : List UInt8} {text : List Char}
    (h : ∀ c ∈ text, c.toNat < 0x80) :
    (decodeLossy bytes).toList = text ↔ bytes = text.map Char.toUInt8 := by
  induction bytes using decodeLossy_induction generalizing text with
  | nil => simp [toList_decodeLossy_nil, eq_comm]
  | asciiFirst lead rest hlead htext ih =>
    rw [htext]
    cases text with
    | nil => simp
    | cons c later =>
      obtain ⟨hc, hlater⟩ := List.forall_mem_cons.mp h
      have hfirst : ascii lead = c ↔ lead = c.toUInt8 := by
        constructor
        · rintro rfl
          exact (toUInt8_ascii hlead).symm
        · rintro rfl
          exact (ascii_toUInt8 hc).2
      simp [ih hlater, hfirst]
  | otherFirst lead tail rest c hbytes hc htext ih =>
    rw [htext]
    refine iff_of_false ?_ ?_
    · rintro rfl
      exact hc (h c List.mem_cons_self)
    · intro heq
      cases text with
      | nil => simp at heq
      | cons d later =>
        obtain ⟨rfl, -⟩ := List.cons.inj heq
        have hd := h d List.mem_cons_self
        exact hbytes _ List.mem_cons_self ((ascii_toUInt8 hd).1 ▸ hd)

end SliderMixer.Utf8
