import Mathlib.Data.List.Basic
import SliderMixer.Session

/-! # Keys of devices

The key of a device is a name with something in parentheses at its end.  Either of the two may hold
any characters, parentheses among them.

* `opensParenthesis_iff`: a text falls into a name and what the parenthesis holds.
* `openings`: the byte places at which parentheses open, found one after the other;
  `mem_openings_iff`: none is missed.
* `isDeviceKey_iff_parenthesized`: the keys of devices, and the same test made by byte places.
-/

namespace SliderMixer

/-! ## Parentheses in a text -/

theorem opensParenthesis_cons_iff {c : Char} {rest : List Char} :
    opensParenthesis (c :: rest) = true ↔
      (∃ inside, inside ≠ [] ∧ rest = ' ' :: '(' :: inside) ∨ opensParenthesis rest = true := by
  by_cases here : ∃ first inside, rest = ' ' :: '(' :: first :: inside
  · obtain ⟨first, inside, rfl⟩ := here
    simp [opensParenthesis]
  · have hstep : opensParenthesis (c :: rest) = opensParenthesis rest :=
      opensParenthesis.eq_3 c rest fun first inside hrest => here ⟨first, inside, hrest⟩
    rw [hstep, or_iff_right]
    rintro ⟨inside, hinside, rfl⟩
    obtain ⟨first, inside, rfl⟩ := List.exists_cons_of_ne_nil hinside
    exact here ⟨first, inside, rfl⟩

/-- A parenthesis opens where a text that is not empty goes before it and another one is behind it. -/
theorem opensParenthesis_iff {body : List Char} :
    opensParenthesis body = true ↔
      ∃ name inside, name ≠ [] ∧ inside ≠ [] ∧ body = name ++ ' ' :: '(' :: inside := by
  induction body with
  | nil => simp [opensParenthesis]
  | cons c rest ih =>
    rw [opensParenthesis_cons_iff, ih]
    constructor
    · rintro (⟨inside, hinside, rfl⟩ | ⟨name, inside, -, hinside, rfl⟩)
      · exact ⟨[c], inside, List.cons_ne_nil c [], hinside, rfl⟩
      · exact ⟨c :: name, inside, List.cons_ne_nil c name, hinside, rfl⟩
    · rintro ⟨name, inside, hname, hinside, hsplit⟩
      obtain ⟨first, name, rfl⟩ := List.exists_cons_of_ne_nil hname
      obtain ⟨rfl, rfl⟩ := List.cons.inj hsplit
      cases name with
      | nil => exact .inl ⟨inside, hinside, rfl⟩
      | cons second name => exact .inr ⟨second :: name, inside, List.cons_ne_nil _ _, hinside, rfl⟩

theorem isDeviceKey_iff {key : String} :
    isDeviceKey key = true ↔
      ∃ body, key.toList = body ++ [')'] ∧ opensParenthesis body = true := by
  unfold isDeviceKey
  split
  · next body hreverse =>
    have htext : key.toList = body.reverse ++ [')'] := by
      simpa using congrArg List.reverse hreverse
    simp [htext]
  · next hnot =>
    refine iff_of_false Bool.false_ne_true ?_
    rintro ⟨body, htext, -⟩
    exact hnot body.reverse (by simp [htext])

/-! ## Byte places -/

/-- The bytes that the characters take. -/
def byteSize : List Char → Nat
  | [] => 0
  | c :: rest => c.utf8Size + byteSize rest

theorem byteSize_mark (behind : List Char) : byteSize (' ' :: '(' :: behind) = 2 + byteSize behind := by
  rw [byteSize, byteSize, ← Nat.add_assoc]
  rfl

theorem byteSize_append (text more : List Char) :
    byteSize (text ++ more) = byteSize text + byteSize more := by
  induction text with
  | nil => exact (Nat.zero_add _).symm
  | cons c rest ih => rw [List.cons_append, byteSize, byteSize, ih, Nat.add_assoc]

theorem byteSize_pos_iff {text : List Char} : 0 < byteSize text ↔ text ≠ [] := by
  cases text with
  | nil => simp [byteSize]
  | cons c rest =>
    have hc := c.utf8Size_pos
    simp only [byteSize, ne_eq, reduceCtorEq, not_false_eq_true, iff_true]
    omega

/-- The byte places at which `" ("` stands in a text that begins at `place`.  Each is looked for behind
    the one before it. -/
def openings (place : Nat) : List Char → List Nat
  | [] => []
  | ' ' :: '(' :: rest => place :: openings (place + 2) rest
  | c :: rest => openings (place + c.utf8Size) rest

/-- Looking behind the one before misses none, since two of them never overlap. -/
theorem mem_openings_iff {place i : Nat} {text : List Char} :
    i ∈ openings place text ↔
      ∃ before behind, text = before ++ ' ' :: '(' :: behind ∧ i = place + byteSize before := by
  fun_induction openings place text with
  | case1 place => simp
  | case2 place rest ih =>
    rw [List.mem_cons, ih]
    constructor
    · rintro (rfl | ⟨before, behind, rfl, rfl⟩)
      · exact ⟨[], rest, rfl, rfl⟩
      · exact ⟨' ' :: '(' :: before, behind, rfl, by rw [byteSize_mark, Nat.add_assoc]⟩
    · rintro ⟨_ | ⟨first, _ | ⟨second, before⟩⟩, behind, hsplit, rfl⟩
      · exact .inl rfl
      · -- one that overlaps this one would begin with a parenthesis
        simp at hsplit
      · simp only [List.cons_append, List.cons.injEq] at hsplit
        obtain ⟨rfl, rfl, rfl⟩ := hsplit
        exact .inr ⟨before, behind, rfl, by rw [byteSize_mark, Nat.add_assoc]⟩
  | case3 place c rest hnot ih =>
    rw [ih]
    constructor
    · rintro ⟨before, behind, rfl, rfl⟩
      exact ⟨c :: before, behind, rfl, by rw [byteSize, Nat.add_assoc]⟩
    · rintro ⟨_ | ⟨first, before⟩, behind, hsplit, rfl⟩
      · obtain ⟨rfl, rfl⟩ := List.cons.inj hsplit
        exact absurd rfl (hnot behind rfl)
      · obtain ⟨rfl, rfl⟩ := List.cons.inj hsplit
        exact ⟨before, behind, rfl, by rw [byteSize, Nat.add_assoc]⟩

/-- Some opening is not at the front of the body, and the body does not end with it. -/
def opensWithin (body : List Char) : Bool :=
  (openings 0 body).any fun place => 0 < place && place + 2 < byteSize body

theorem opensWithin_eq (body : List Char) : opensWithin body = opensParenthesis body := by
  rw [Bool.eq_iff_iff, opensParenthesis_iff, opensWithin, List.any_eq_true]
  simp only [mem_openings_iff, Nat.zero_add, Bool.and_eq_true, decide_eq_true_eq]
  constructor
  · rintro ⟨_, ⟨name, inside, rfl, rfl⟩, hname, hinside⟩
    refine ⟨name, inside, byteSize_pos_iff.mp hname, byteSize_pos_iff.mp ?_, rfl⟩
    rw [byteSize_append, byteSize_mark] at hinside
    omega
  · rintro ⟨name, inside, hname, hinside, rfl⟩
    refine ⟨byteSize name, ⟨name, inside, rfl, rfl⟩, byteSize_pos_iff.mpr hname, ?_⟩
    have hpos := byteSize_pos_iff.mpr hinside
    rw [byteSize_append, byteSize_mark]
    omega

/-! ## Keys -/

/-- The test for a device, made by byte places. -/
def isDeviceKeyByPlaces (key : String) : Bool :=
  match key.toList.reverse with
  | ')' :: body => opensWithin body.reverse
  | _ => false

theorem isDeviceKeyByPlaces_eq (key : String) : isDeviceKeyByPlaces key = isDeviceKey key := by
  simp only [isDeviceKeyByPlaces, opensWithin_eq]
  rfl

/-- A key is a device's exactly if it is a name and something in parentheses behind a space, neither of
    them empty, whatever characters they hold.  To find the places of the parentheses one after the
    other and to compare them with the sizes in bytes is the same test. -/
theorem isDeviceKey_iff_parenthesized (key : String) :
    (isDeviceKey key = true ↔
      ∃ name inside : String, name ≠ "" ∧ inside ≠ "" ∧ key = name ++ " (" ++ inside ++ ")") ∧
    isDeviceKeyByPlaces key = isDeviceKey key := by
  refine ⟨?_, isDeviceKeyByPlaces_eq key⟩
  simp only [isDeviceKey_iff, opensParenthesis_iff]
  constructor
  · rintro ⟨_, htext, name, inside, hname, hinside, rfl⟩
    refine ⟨String.ofList name, String.ofList inside, by simpa using hname, by simpa using hinside, ?_⟩
    rw [← String.toList_inj, htext]
    simp
  · rintro ⟨name, inside, hname, hinside, rfl⟩
    exact ⟨name.toList ++ ' ' :: '(' :: inside.toList, by simp, name.toList, inside.toList,
      by simpa using hname, by simpa using hinside, rfl⟩

example : isDeviceKey " (a) (b)" = true ∧ isDeviceKey " (a)" = false ∧ isDeviceKey "a ()" = false := by
  decide

end SliderMixer
