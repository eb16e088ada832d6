import Mathlib.Algebra.Group.Nat.Defs
import Mathlib.Data.List.Induction
import SliderMixer.Frame

/-! # The grammar of lines

A frame is read from a line exactly if the line has the form that the board writes.

* `body?_eq_some_iff`: the text before the line ending, and `groups_eq_splitOn`: its groups.
* `values_of_isValue` and `values_of_malformed`: what the groups are read as, or the first of them
  that is no value.
* `parse_iff_grammar`: the frames and the errors of all lines.
-/

namespace SliderMixer.Frame

/-! ## Endings -/

/-- The line is a body with its ending.  A carriage return right before the line feed is part of
    the ending. -/
structure EndsAs (line body : List Char) (terminator : Terminator) : Prop where
  text : line = body ++ terminator.text
  whole : terminator = .lineFeed → body.getLast? ≠ some '\r'

theorem body?_of_endsAs {line body : List Char} {terminator : Terminator}
    (h : EndsAs line body terminator) : body? line = some body := by
  obtain ⟨rfl, whole⟩ := h
  cases terminator with
  | carriageReturnLineFeed => simp [body?, Terminator.text]
  | lineFeed =>
    rcases List.eq_nil_or_concat body with rfl | ⟨front, c, rfl⟩
    · rfl
    · have hc : c ≠ '\r' := by simpa using whole rfl
      simp [body?, Terminator.text, hc]

theorem endsAs_of_body? {line body : List Char} (h : body? line = some body) :
    ∃ terminator, EndsAs line body terminator := by
  unfold body? at h
  split at h
  next rest hreverse =>
    obtain rfl : rest.reverse = body := by simpa using h
    exact ⟨.carriageReturnLineFeed,
      by simpa [Terminator.text] using congrArg List.reverse hreverse, by simp⟩
  next rest hreturn hreverse =>
    obtain rfl : rest.reverse = body := by simpa using h
    refine ⟨.lineFeed, by simpa [Terminator.text] using congrArg List.reverse hreverse, fun _ => ?_⟩
    cases rest with
    | nil => simp
    | cons c front =>
      intro hlast
      obtain rfl : c = '\r' := by simpa using hlast
      exact hreturn front rfl
  next => cases h

theorem body?_eq_some_iff {line body : List Char} :
    body? line = some body ↔ ∃ terminator, EndsAs line body terminator :=
  ⟨endsAs_of_body?, fun ⟨_, h⟩ => body?_of_endsAs h⟩

theorem body?_eq_none_iff {line : List Char} : body? line = none ↔ line.getLast? ≠ some '\n' := by
  rw [← not_iff_not, ← ne_eq, Option.ne_none_iff_exists', not_not]
  simp only [body?_eq_some_iff]
  constructor
  · rintro ⟨body, terminator, rfl, -⟩
    cases terminator <;> simp [Terminator.text]
  · intro hlast
    obtain ⟨front, rfl⟩ := List.getLast?_eq_some_iff.mp hlast
    by_cases hreturn : front.getLast? = some '\r'
    · obtain ⟨body, rfl⟩ := List.getLast?_eq_some_iff.mp hreturn
      exact ⟨body, .carriageReturnLineFeed, by simp [Terminator.text], by simp⟩
    · exact ⟨front, .lineFeed, rfl, fun _ => hreturn⟩

/-! ## Groups -/

theorem groups_eq_splitOn (text : List Char) : groups text = text.splitOn '|' := by
  induction text with
  | nil => rfl
  | cons c rest ih =>
    rw [groups, List.splitOn_cons_eq_if_modifyHead, ih]
    by_cases hc : c = '|'
    · simp [hc]
    · cases hrest : rest.splitOn '|' with
      | nil => exact absurd hrest (List.splitOn_ne_nil '|' rest)
      | cons group others => simp [hc]

theorem intercalate_bar (first : List Char) (rest : List (List Char)) :
    ['|'].intercalate (first :: rest) = first ++ rest.flatMap ('|' :: ·) := by
  induction rest generalizing first with
  | nil => simp
  | cons second rest ih => simp [List.intercalate_cons_cons, ih]

theorem splitOn_joined {first : List Char} {rest : List (List Char)}
    (h : ∀ group ∈ first :: rest, '|' ∉ group) :
    (first ++ rest.flatMap ('|' :: ·)).splitOn '|' = first :: rest := by
  rw [← intercalate_bar]
  exact List.splitOn_intercalate '|' h (List.cons_ne_nil first rest)

/-! ## Values -/

theorem isValue_iff {group : List Char} :
    isValue group = true ↔
      0 < group.length ∧ group.length ≤ maxDigits ∧ ∀ c ∈ group, c.isDigit = true := by
  simp [isValue, and_assoc]

theorem not_mem_of_isValue {group : List Char} (h : isValue group = true) {c : Char}
    (hc : c.isDigit = false) : c ∉ group := by
  intro hmem
  simp [(isValue_iff.mp h).2.2 c hmem] at hc

theorem decimal_eq_ofDigitChars (digits : List Char) : decimal digits = Nat.ofDigitChars 10 digits 0 :=
  Nat.ofDigitChars_eq_foldl.symm

theorem decimal_append_singleton (front : List Char) (c : Char) :
    decimal (front ++ [c]) = 10 * decimal front + (c.toNat - '0'.toNat) := by
  simp [decimal]

theorem decimal_lt {digits : List Char} (h : ∀ c ∈ digits, c.isDigit = true) :
    decimal digits < 10 ^ digits.length := by
  induction digits using List.reverseRecOn with
  | nil => simp [decimal]
  | append_singleton front c ih =>
    have hfront : decimal front < 10 ^ front.length := ih fun d hd => h d (by simp [hd])
    have hdigit : c.toNat - '0'.toNat ≤ 9 :=
      Nat.sub_le_of_le_add (Char.isDigit_iff_toNat.mp (h c (by simp))).2
    rw [decimal_append_singleton, List.length_append, List.length_singleton, Nat.pow_succ]
    omega

/-- A value has at most four digits, so that sixteen bits always hold it. -/
theorem word?_of_isValue {group : List Char} (h : isValue group = true) :
    word? group = some (decimal group) := by
  obtain ⟨-, hshort, hdigits⟩ := isValue_iff.mp h
  have hpow : 10 ^ group.length ≤ 10 ^ maxDigits := Nat.pow_le_pow_right (by decide) hshort
  have hlt : decimal group < 10 ^ maxDigits := Nat.lt_of_lt_of_le (decimal_lt hdigits) hpow
  have hsize : 10 ^ maxDigits ≤ UInt16.size := by decide
  rw [word?, if_pos (Nat.lt_of_lt_of_le hlt hsize)]

theorem values_of_isValue (index : Nat) {gs : List (List Char)} (h : ∀ g ∈ gs, isValue g = true) :
    values index gs = .ok (gs.map decimal) := by
  induction gs generalizing index with
  | nil => rfl
  | cons g rest ih =>
    obtain ⟨hg, hrest⟩ := List.forall_mem_cons.mp h
    simp [values, hg, word?_of_isValue hg, ih (index + 1) hrest]

theorem values_of_malformed (index : Nat) {i : Nat} {gs : List (List Char)} {g : List Char}
    (hget : gs[i]? = some g) (hbad : isValue g = false)
    (hbefore : ∀ j < i, ∀ g', gs[j]? = some g' → isValue g' = true) :
    values index gs = .error (.malformedValue (index + i) (String.ofList g)) := by
  induction gs generalizing index i with
  | nil => cases hget
  | cons g' rest ih =>
    cases i with
    | zero =>
      obtain rfl : g' = g := by simpa using hget
      simp [values, hbad]
    | succ i =>
      have hg' : isValue g' = true := hbefore 0 (by omega) g' rfl
      have hrest := ih (index + 1) hget fun j hj => hbefore (j + 1) (by omega)
      -- positions of the rest are counted from the next one
      rw [Nat.add_right_comm, Nat.add_assoc] at hrest
      simp [values, hg', word?_of_isValue hg', hrest]

/-- Either all groups are values, or one of them is the first that is not. -/
theorem isValue_or_malformed (gs : List (List Char)) :
    (∀ g ∈ gs, isValue g = true) ∨
      ∃ (i : Nat) (g : List Char), gs[i]? = some g ∧ isValue g = false ∧
        ∀ j < i, ∀ g', gs[j]? = some g' → isValue g' = true := by
  induction gs with
  | nil => exact .inl (by simp)
  | cons g rest ih =>
    cases hg : isValue g with
    | false => exact .inr ⟨0, g, rfl, hg, by simp⟩
    | true =>
      rcases ih with hrest | ⟨i, bad, hget, hbad, hbefore⟩
      · exact .inl (List.forall_mem_cons.mpr ⟨hg, hrest⟩)
      · refine .inr ⟨i + 1, bad, hget, hbad, fun j hj g' hget' => ?_⟩
        cases j with
        | zero =>
          obtain rfl : g = g' := by simpa using hget'
          exact hg
        | succ j => exact hbefore j (by omega) g' hget'

/-! ## Lines -/

/-- What is read from a line. -/
inductive Reads (maxReading : Nat) : List Char → Except FrameError (List Nat) → Prop where
  | frame {first : List Char} {rest : List (List Char)} (terminator : Terminator) :
      (∀ group ∈ first :: rest, isValue group = true) → decimal first ≤ maxReading →
      Reads maxReading (render first rest terminator) (.ok ((first :: rest).map decimal))
  | unterminated {line : List Char} :
      line.getLast? ≠ some '\n' → Reads maxReading line (.error .missingTerminator)
  | blank (terminator : Terminator) : Reads maxReading terminator.text (.error .empty)
  /-- The group at `index` is the first one that is no value. -/
  | malformed {line body group : List Char} {terminator : Terminator} {index : Nat} :
      EndsAs line body terminator → body ≠ [] → (body.splitOn '|')[index]? = some group →
      isValue group = false →
      (∀ i < index, ∀ before, (body.splitOn '|')[i]? = some before → isValue before = true) →
      Reads maxReading line (.error (.malformedValue index (String.ofList group)))
  | beyond {first : List Char} {rest : List (List Char)} (terminator : Terminator) :
      (∀ group ∈ first :: rest, isValue group = true) → maxReading < decimal first →
      Reads maxReading (render first rest terminator) (.error (.firstValueOutOfRange (decimal first)))

theorem render_eq (first : List Char) (rest : List (List Char)) (terminator : Terminator) :
    render first rest terminator = first ++ rest.flatMap ('|' :: ·) ++ terminator.text := rfl

/-- A line of values ends where it seems to, and falls into its values. -/
theorem endsAs_render {first : List Char} {rest : List (List Char)} (terminator : Terminator)
    (h : ∀ group ∈ first :: rest, isValue group = true) :
    let body := first ++ rest.flatMap ('|' :: ·)
    EndsAs (render first rest terminator) body terminator ∧ body ≠ [] ∧
      body.splitOn '|' = first :: rest := by
  intro body
  have hbar (group : List Char) (hgroup : group ∈ first :: rest) : '|' ∉ group :=
    not_mem_of_isValue (h group hgroup) (by decide)
  -- so a carriage return at the end is never part of the body
  have hreturn : '\r' ∉ body := by
    simp only [body, List.mem_append, List.mem_flatMap, not_or, not_exists, not_and]
    refine ⟨not_mem_of_isValue (h first List.mem_cons_self) (by decide), fun group hgroup => ?_⟩
    have hnot : '\r' ∉ group :=
      not_mem_of_isValue (h group (List.mem_cons_of_mem first hgroup)) (by decide)
    simp [hnot]
  have hfirst : 0 < first.length := (isValue_iff.mp (h first List.mem_cons_self)).1
  refine ⟨⟨rfl, fun _ hlast => hreturn (List.mem_of_getLast? hlast)⟩, ?_, splitOn_joined hbar⟩
  intro hempty
  simp [(List.append_eq_nil_iff.mp hempty).1] at hfirst

theorem parse_of_endsAs {line body : List Char} {terminator : Terminator}
    (h : EndsAs line body terminator) (hbody : body ≠ []) (maxReading : Nat) :
    parse line maxReading =
      match values 0 (body.splitOn '|') with
      | .error e => .error e
      | .ok [] => .ok []
      | .ok (first :: rest) =>
        if maxReading < first then .error (.firstValueOutOfRange first) else .ok (first :: rest) := by
  obtain ⟨c, tail, rfl⟩ := List.exists_cons_of_ne_nil hbody
  rw [← groups_eq_splitOn]
  rcases hread : values 0 (groups (c :: tail)) with e | (_ | ⟨first, rest⟩) <;>
    simp [parse, body?_of_endsAs h, hread]

theorem parse_of_reads {maxReading : Nat} {line : List Char} {r : Except FrameError (List Nat)}
    (h : Reads maxReading line r) : parse line maxReading = r := by
  cases h with
  | frame terminator hvalues hrange =>
    obtain ⟨hends, hbody, hgroups⟩ := endsAs_render terminator hvalues
    rw [parse_of_endsAs hends hbody, hgroups, values_of_isValue 0 hvalues]
    simp [Nat.not_lt.mpr hrange]
  | unterminated hlast => simp [parse, body?_eq_none_iff.mpr hlast]
  | blank terminator => cases terminator <;> rfl
  | malformed hends hbody hget hbad hbefore =>
    rw [parse_of_endsAs hends hbody, values_of_malformed 0 hget hbad hbefore, Nat.zero_add]
  | beyond terminator hvalues hrange =>
    obtain ⟨hends, hbody, hgroups⟩ := endsAs_render terminator hvalues
    rw [parse_of_endsAs hends hbody, hgroups, values_of_isValue 0 hvalues]
    simp [hrange]

/-- Every line is read in some way. -/
theorem reads_parse (maxReading : Nat) (line : List Char) :
    Reads maxReading line (parse line maxReading) := by
  -- a reading by the grammar is enough, since it is the one of the parser
  suffices h : ∃ r, Reads maxReading line r by
    obtain ⟨r, hr⟩ := h
    exact parse_of_reads hr ▸ hr
  cases hbody : body? line with
  | none => exact ⟨_, .unterminated (body?_eq_none_iff.mp hbody)⟩
  | some body =>
    obtain ⟨terminator, hends⟩ := endsAs_of_body? hbody
    by_cases hempty : body = []
    · obtain rfl : line = terminator.text := by simpa [hempty] using hends.text
      exact ⟨_, .blank terminator⟩
    · rcases isValue_or_malformed (body.splitOn '|') with hvalues | ⟨i, g, hget, hbad, hbefore⟩
      · -- the body is what its groups are joined to
        obtain ⟨first, rest, hgroups⟩ := List.exists_cons_of_ne_nil (List.splitOn_ne_nil '|' body)
        have hjoined : first ++ rest.flatMap ('|' :: ·) = body := by
          rw [← intercalate_bar, ← hgroups, List.intercalate_splitOn]
        obtain rfl : line = render first rest terminator := by rw [render_eq, hjoined, hends.text]
        rw [hgroups] at hvalues
        rcases Nat.lt_or_ge maxReading (decimal first) with hrange | hrange
        · exact ⟨_, .beyond terminator hvalues hrange⟩
        · exact ⟨_, .frame terminator hvalues hrange⟩
      · exact ⟨_, .malformed hends hempty hget hbad hbefore⟩

/-- There is no frame without a value. -/
theorem ne_nil_of_parse {line : List Char} {maxReading : Nat} {ns : List Nat}
    (h : parse line maxReading = .ok ns) : ns ≠ [] := by
  have hreads := reads_parse maxReading line
  rw [h] at hreads
  cases hreads
  simp

/-! ## Writing -/

/-- A number with zeros in front of it up to a width. -/
def padded (width n : Nat) : List Char := (Nat.toDigits 10 n).leftpad width '0'

theorem decimal_padded (width n : Nat) : decimal (padded width n) = n := by
  simp [decimal_eq_ofDigitChars, padded, List.leftpad, Nat.ofDigitChars_append,
    Nat.ofDigitChars_replicate_zero, Nat.ofDigitChars_ten_toDigits]

theorem isDigit_of_mem_padded {width n : Nat} {c : Char} (h : c ∈ padded width n) :
    c.isDigit = true := by
  rcases List.mem_append.mp h with hzero | hdigit
  · rw [List.eq_of_mem_replicate hzero]
    rfl
  · exact Nat.isDigit_of_mem_toDigits (by decide) (by decide) hdigit

theorem isValue_padded {width n : Nat} (hwidth : width ≤ maxDigits) (hn : n ≤ 9999) :
    isValue (padded width n) = true := by
  have hshort : (Nat.toDigits 10 n).length ≤ maxDigits :=
    (Nat.length_toDigits_le_iff (by decide) (by decide)).mpr (Nat.lt_succ_of_le hn)
  have hlong : 0 < (Nat.toDigits 10 n).length := Nat.length_toDigits_pos
  rw [isValue_iff, padded, List.length_leftpad]
  exact ⟨by omega, by omega, fun c => isDigit_of_mem_padded⟩

/-- Each line is read as the grammar says, and in no other way.  So numbers of up to four digits
    are read back as they were written, with any zeros in front and either ending.  Where the
    numbers of a body are read there is a first one, and no value is too large to be read. -/
theorem parse_iff_grammar (maxReading : Nat) :
    (∀ line r, parse line maxReading = r ↔ Reads maxReading line r) ∧
    (∀ (first : Nat × Nat) (rest : List (Nat × Nat)) (terminator : Terminator),
      (∀ p ∈ first :: rest, p.1 ≤ maxDigits ∧ p.2 ≤ 9999) → first.2 ≤ maxReading →
      parse (render (padded first.1 first.2) (rest.map fun p => padded p.1 p.2) terminator)
        maxReading = .ok ((first :: rest).map (·.2))) ∧
    (∀ body ns, values 0 (groups body) = .ok ns → ns ≠ []) ∧
    (∀ group, isValue group = true → word? group = some (decimal group)) := by
  refine ⟨fun line r => ⟨?_, parse_of_reads⟩, ?_, ?_, fun _ => word?_of_isValue⟩
  · rintro rfl
    exact reads_parse maxReading line
  · intro first rest terminator hfits hrange
    have hvalues : ∀ group ∈ (first :: rest).map fun p => padded p.1 p.2, isValue group = true := by
      intro group hgroup
      obtain ⟨p, hp, rfl⟩ := List.mem_map.mp hgroup
      exact isValue_padded (hfits p hp).1 (hfits p hp).2
    have hfirst : decimal (padded first.1 first.2) ≤ maxReading := by rwa [decimal_padded]
    have hread := parse_of_reads (.frame terminator hvalues hfirst)
    simpa [decimal_padded, Function.comp_def] using hread
  · intro body ns hread
    rw [groups_eq_splitOn] at hread
    rcases isValue_or_malformed (body.splitOn '|') with hvalues | ⟨i, g, hget, hbad, hbefore⟩
    · rw [values_of_isValue 0 hvalues, Except.ok.injEq] at hread
      rw [← hread, ne_eq, List.map_eq_nil_iff]
      exact List.splitOn_ne_nil '|' body
    · rw [values_of_malformed 0 hget hbad hbefore] at hread
      cases hread

/-- Zeros in front, an empty group before one that is too long, and a first value beyond the
    range. -/
theorem parse_padded :
    parse "0512|7|1023\r\n".toList 1023 = .ok [512, 7, 1023] ∧
    parse "12||30000\r\n".toList 1023 = .error (.malformedValue 1 "") ∧
    Reads 1023 "1024|5\n".toList (.error (.firstValueOutOfRange 1024)) ∧
    values 0 (groups "0007".toList) = .ok [7] ∧ word? "9999".toList = some 9999 := by
  obtain ⟨hreads, hwritten, -, hword⟩ := parse_iff_grammar 1023
  have hends : EndsAs "12||30000\r\n".toList "12||30000".toList .carriageReturnLineFeed :=
    ⟨by decide +kernel, by simp⟩
  refine ⟨?_, (hreads _ _).mpr ?_, (hreads _ _).mp (by decide +kernel), by decide +kernel, ?_⟩
  · exact hwritten (4, 512) [(1, 7), (0, 1023)] .carriageReturnLineFeed (by decide) (by decide)
  · have hget : ("12||30000".toList.splitOn '|')[1]? = some [] := by decide +kernel
    exact .malformed hends (by decide +kernel) hget rfl (by decide +kernel)
  · exact hword _ (by decide +kernel)

end SliderMixer.Frame
