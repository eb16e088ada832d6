import Mathlib.Data.List.Dedup
import Mathlib.Data.String.Basic
import SliderMixer.Directory

/-! # The directory as a flat list

A directory keeps its sessions by key and those left over apart.  Both tables are
determined by the list of the sessions in the order in which they came.

* `FlatDirectory` is that list, with the keys that sliders name.
* `Directory.Lists` ties a directory to it, and every operation keeps the tie.
* `Directory.Shows` is what the tie means for those who look into the directory.
-/

namespace SliderMixer

/-! ## Flat directories -/

/-- The sessions in the order in which they came, and the keys that sliders name. -/
structure FlatDirectory where
  held : List Session := []
  mappedKeys : List String := []
  deriving DecidableEq

namespace FlatDirectory

/-- The sessions with a key, in order. -/
def withKey (f : FlatDirectory) (key : String) : List Session :=
  f.held.filter fun s => s.key == key

/-- The key is not reserved, not a device's, and named by no slider. -/
def leavesOver (f : FlatDirectory) (s : Session) : Bool :=
  !(isReservedKey s.key || isDeviceKey s.key || f.mappedKeys.contains s.key)

def leftOver (f : FlatDirectory) : List Session := f.held.filter f.leavesOver

def add (f : FlatDirectory) (s : Session) : FlatDirectory := { f with held := f.held ++ [s] }

/-- The list without any copy of a session. -/
def remove (f : FlatDirectory) (s : Session) : FlatDirectory :=
  { f with held := f.held.filter fun other => !other.same s }

def replace (f : FlatDirectory) (fresh : List Session) : FlatDirectory := { f with held := fresh }

def classify (f : FlatDirectory) (mappedKeys : List String) : FlatDirectory := { f with mappedKeys }

theorem mem_withKey {f : FlatDirectory} {key : String} {s : Session} :
    s ∈ f.withKey key ↔ s ∈ f.held ∧ s.key = key := by
  simp [withKey]

theorem withKey_add (f : FlatDirectory) (s : Session) (key : String) :
    (f.add s).withKey key = f.withKey key ++ if s.key = key then [s] else [] := by
  by_cases h : s.key = key <;> simp [withKey, add, h]

theorem withKey_remove (f : FlatDirectory) (s : Session) (key : String) :
    (f.remove s).withKey key = (f.withKey key).filter fun other => !other.same s := by
  simp only [withKey, remove, List.filter_filter, Bool.and_comm]

@[simp] theorem held_add (f : FlatDirectory) (s : Session) : (f.add s).held = f.held ++ [s] := rfl

@[simp] theorem held_remove (f : FlatDirectory) (s : Session) :
    (f.remove s).held = f.held.filter fun other => !other.same s := rfl

@[simp] theorem leavesOver_add (f : FlatDirectory) (s : Session) :
    (f.add s).leavesOver = f.leavesOver := rfl

@[simp] theorem leavesOver_remove (f : FlatDirectory) (s : Session) :
    (f.remove s).leavesOver = f.leavesOver := rfl

theorem leftOver_add (f : FlatDirectory) (s : Session) :
    (f.add s).leftOver = f.leftOver ++ if f.leavesOver s then [s] else [] := by
  by_cases h : f.leavesOver s <;> simp [leftOver, h]

theorem leftOver_remove (f : FlatDirectory) (s : Session) :
    (f.remove s).leftOver = f.leftOver.filter fun other => !other.same s := by
  simp [leftOver, Bool.and_comm]

end FlatDirectory

/-- The key of a session never changes: it is a function of the session's identity. -/
def Session.KeyedBy (keyOf : Nat → String) (s : Session) : Prop := s.key = keyOf s.id

instance (keyOf : Nat → String) (s : Session) : Decidable (s.KeyedBy keyOf) :=
  inferInstanceAs (Decidable (s.key = keyOf s.id))

theorem Session.same_iff {keyOf : Nat → String} {s t : Session} (hs : s.KeyedBy keyOf)
    (ht : t.KeyedBy keyOf) : s.same t = true ↔ s = t := by
  constructor
  · intro h
    have hid : s.id = t.id := by simpa [Session.same] using h
    cases s; cases t
    simp only [Session.KeyedBy] at hs ht
    simp_all
  · rintro rfl
    simp [Session.same]

namespace Directory

/-! ## Entries by key -/

/-- A list, unless it is empty: no key has an empty one. -/
def nonempty? (ss : List Session) : Option (List Session) := if ss = [] then none else some ss

theorem nonempty?_append_singleton (ss : List Session) (s : Session) :
    nonempty? (ss ++ [s]) = some (ss ++ [s]) := by
  simp [nonempty?]

theorem getD_nonempty? (ss : List Session) : (nonempty? ss).getD [] = ss := by
  by_cases h : ss = [] <;> simp [nonempty?, h]

theorem bind_nonempty? (ss : List Session) (p : Session → Bool) :
    ((nonempty? ss).bind fun ss => nonempty? (ss.filter p)) = nonempty? (ss.filter p) := by
  by_cases h : ss = [] <;> simp [nonempty?, h]

theorem lookup_cons_of_ne {k key : String} (h : key ≠ k) (ss : List Session)
    (rest : List (String × List Session)) : ((k, ss) :: rest).lookup key = rest.lookup key := by
  rw [List.lookup_cons, beq_false_of_ne h]

theorem lookup_insertInto (s : Session) (entries : List (String × List Session)) (key : String) :
    (insertInto s entries).lookup key =
      if key = s.key then some ((entries.lookup key).getD [] ++ [s]) else entries.lookup key := by
  induction entries with
  | nil =>
    by_cases h : key = s.key
    · simp [insertInto, h]
    · simp [insertInto, lookup_cons_of_ne h, h]
  | cons e rest ih =>
    obtain ⟨k, ss⟩ := e
    by_cases hk : k = s.key
    · subst hk
      by_cases h : key = s.key
      · simp [insertInto, h]
      · simp [insertInto, lookup_cons_of_ne h, h]
    · by_cases h : key = k
      · subst h
        simp [insertInto, hk]
      · simp [insertInto, hk, lookup_cons_of_ne h, ih]

theorem keys_insertInto (s : Session) (entries : List (String × List Session)) :
    (insertInto s entries).map (·.1) =
      if s.key ∈ entries.map (·.1) then entries.map (·.1) else entries.map (·.1) ++ [s.key] := by
  induction entries with
  | nil => simp [insertInto]
  | cons e rest ih =>
    obtain ⟨k, ss⟩ := e
    by_cases hk : k = s.key
    · simp [insertInto, hk]
    · have hk' : ¬ s.key = k := fun h => hk h.symm
      by_cases h : s.key ∈ rest.map (·.1)
      · simp only [h, if_true] at ih
        simp [insertInto, hk, ih] at h ⊢
        simp [h]
      · simp only [h, if_false] at ih
        simp [insertInto, hk, hk', ih] at h ⊢
        simp [h]

theorem nodup_keys_insertInto {entries : List (String × List Session)}
    (nodup : (entries.map (·.1)).Nodup) (s : Session) :
    ((insertInto s entries).map (·.1)).Nodup := by
  rw [keys_insertInto]
  split
  · exact nodup
  · next habsent => exact List.nodup_append_comm.mp (List.nodup_cons.mpr ⟨habsent, nodup⟩)

theorem withoutSession_fst {s : Session} {e e' : String × List Session}
    (h : withoutSession s e = some e') : e'.1 = e.1 := by
  simp only [withoutSession] at h
  split at h
  · split at h
    · cases h
    · cases h; rfl
  · cases h; rfl

theorem keys_withoutSession_sublist (s : Session) (entries : List (String × List Session)) :
    ((entries.filterMap (withoutSession s)).map (·.1)).Sublist (entries.map (·.1)) := by
  induction entries with
  | nil => simp
  | cons e rest ih =>
    cases h : withoutSession s e with
    | none => simpa [List.filterMap_cons, h] using ih.cons e.1
    | some e' =>
      simp only [List.filterMap_cons, h, List.map_cons, withoutSession_fst h]
      exact ih.cons_cons e.1

theorem lookup_eq_none_of_not_mem {entries : List (String × List Session)} {key : String}
    (h : key ∉ entries.map (·.1)) : entries.lookup key = none := by
  simp only [List.lookup_eq_none_iff, bne_iff_ne]
  rintro e he rfl
  exact h (List.mem_map_of_mem he)

/-- What is left of an entry is looked up like any other. -/
theorem lookup_withoutSession (s : Session) {entries : List (String × List Session)}
    (nodup : (entries.map (·.1)).Nodup) (key : String) :
    (entries.filterMap (withoutSession s)).lookup key =
      if key = s.key then
        (entries.lookup key).bind fun ss => nonempty? (ss.filter fun other => !other.same s)
      else entries.lookup key := by
  induction entries with
  | nil => simp
  | cons e rest ih =>
    obtain ⟨k, ss⟩ := e
    simp only [List.map_cons, List.nodup_cons] at nodup
    obtain ⟨hk, nodup⟩ := nodup
    specialize ih nodup
    by_cases hks : k = s.key
    · subst hks
      -- the key is not found again further down
      have hrest : (rest.filterMap (withoutSession s)).lookup s.key = none :=
        lookup_eq_none_of_not_mem fun h => hk ((keys_withoutSession_sublist s rest).subset h)
      cases hf : ss.filter fun other => !other.same s with
      | nil =>
        have hw : withoutSession s (s.key, ss) = none := by simp only [withoutSession, hf, if_true]
        rw [List.filterMap_cons_none hw]
        by_cases h : key = s.key
        · simp only [h, if_true, List.lookup_cons_self, Option.bind_some, hf, hrest]
          rfl
        · rw [ih, if_neg h, if_neg h, lookup_cons_of_ne h]
      | cons t ts =>
        have hw : withoutSession s (s.key, ss) = some (s.key, t :: ts) := by
          simp only [withoutSession, hf, if_true]
        rw [List.filterMap_cons_some hw]
        by_cases h : key = s.key
        · simp only [h, if_true, List.lookup_cons_self, Option.bind_some, hf]
          rfl
        · rw [lookup_cons_of_ne h, ih, if_neg h, if_neg h, lookup_cons_of_ne h]
    · have hw : withoutSession s (k, ss) = some (k, ss) := by simp only [withoutSession, hks, if_false]
      rw [List.filterMap_cons_some hw]
      by_cases h : key = k
      · simp only [h, hks, if_false, List.lookup_cons_self]
      · rw [lookup_cons_of_ne h, ih, lookup_cons_of_ne h]

theorem lookup_of_mem {entries : List (String × List Session)} {key : String} {ss : List Session}
    (nodup : (entries.map (·.1)).Nodup) (h : (key, ss) ∈ entries) : entries.lookup key = some ss := by
  induction entries with
  | nil => cases h
  | cons e rest ih =>
    obtain ⟨k, ts⟩ := e
    simp only [List.map_cons, List.nodup_cons] at nodup
    rcases List.mem_cons.mp h with he | hrest
    · cases he
      exact List.lookup_cons_self
    · have hne : key ≠ k := by
        rintro rfl
        exact nodup.1 (List.mem_map_of_mem hrest)
      rw [lookup_cons_of_ne hne]
      exact ih nodup.2 hrest

/-- The begin of a refresh changes nothing but the time it is noted at. -/
theorem beginRefresh_eq_some {d d' : Directory} {now minInterval : Nat} {force : Bool}
    (h : d.beginRefresh now minInterval force = some d') :
    d' = { d with lastRefresh := some now } := by
  simp only [Directory.beginRefresh, Option.ite_none_left_eq_some, Option.some.injEq] at h
  exact h.2.symm

/-! ## The tie -/

/-- Both tables of the directory follow from the flat one. -/
structure Lists (d : Directory) (f : FlatDirectory) : Prop where
  mappedKeys : d.mappedKeys = f.mappedKeys
  nodup : (d.sessions.map (·.1)).Nodup
  lookup : ∀ key, d.lookup key = nonempty? (f.withKey key)
  unmapped : d.unmapped.Perm f.leftOver

namespace Lists

variable {d : Directory} {f : FlatDirectory}

theorem isMappedKey (h : d.Lists f) (s : Session) : d.isMappedKey s.key = !f.leavesOver s := by
  simp [Directory.isMappedKey, FlatDirectory.leavesOver, h.mappedKeys]

theorem entry (h : d.Lists f) {key : String} {ss : List Session} (he : (key, ss) ∈ d.sessions) :
    ss = f.withKey key ∧ ss ≠ [] := by
  have hlookup := (lookup_of_mem h.nodup he).symm.trans (h.lookup key)
  simp only [nonempty?] at hlookup
  split at hlookup
  · cases hlookup
  · cases hlookup
    exact ⟨rfl, ‹_›⟩

theorem mem_keys (h : d.Lists f) (key : String) :
    key ∈ d.sessions.map (·.1) ↔ ∃ s ∈ f.held, s.key = key := by
  constructor
  · intro hkey
    obtain ⟨⟨k, ss⟩, he, rfl⟩ := List.mem_map.mp hkey
    obtain ⟨rfl, hne⟩ := h.entry he
    obtain ⟨s, hs⟩ := List.exists_mem_of_ne_nil _ hne
    exact ⟨s, FlatDirectory.mem_withKey.mp hs⟩
  · rintro ⟨s, hs, hkey⟩
    by_contra habsent
    have hnone := (h.lookup key).symm.trans (lookup_eq_none_of_not_mem habsent)
    have hempty : f.withKey key = [] := by
      by_contra hne
      simp [nonempty?, hne] at hnone
    exact absurd (FlatDirectory.mem_withKey.mpr ⟨hs, hkey⟩) (by simp [hempty])

/-- Sorting a list by keys that cover it only changes the order. -/
theorem flatMap_filter_perm (keys : List String) (nodup : keys.Nodup) (ss : List Session)
    (cover : ∀ s ∈ ss, s.key ∈ keys) :
    (keys.flatMap fun key => ss.filter fun s => s.key == key).Perm ss := by
  induction keys generalizing ss with
  | nil =>
    cases ss with
    | nil => exact .nil
    | cons s rest => exact absurd (cover s List.mem_cons_self) List.not_mem_nil
  | cons k keys ih =>
    obtain ⟨hk, nodup⟩ := List.nodup_cons.mp nodup
    let others := ss.filter fun s => !(s.key == k)
    have hcover : ∀ s ∈ others, s.key ∈ keys := by
      intro s hs
      obtain ⟨hs, hne⟩ := List.mem_filter.mp hs
      exact (List.mem_cons.mp (cover s hs)).resolve_left (by simpa using hne)
    have hothers : (keys.flatMap fun key => ss.filter fun s => s.key == key)
        = keys.flatMap fun key => others.filter fun s => s.key == key := by
      apply List.flatMap_congr
      intro key hkey
      have hne : key ≠ k := fun h => hk (h ▸ hkey)
      rw [List.filter_filter]
      apply List.filter_congr
      intro s _
      by_cases hs : s.key = key
      · simp [hs, hne]
      · simp [hs]
    rw [List.flatMap_cons, hothers]
    exact ((ih nodup others hcover).append_left _).trans (List.filter_append_perm _ ss)

/-- The directory holds what the flat one holds. -/
theorem held_perm (h : d.Lists f) : d.held.Perm f.held := by
  have hheld : d.held = (d.sessions.map (·.1)).flatMap f.withKey := by
    rw [List.flatMap_map]
    apply List.flatMap_congr
    intro e he
    exact (h.entry he).1
  rw [hheld]
  exact flatMap_filter_perm _ h.nodup f.held fun s hs => (h.mem_keys s.key).mpr ⟨s, hs, rfl⟩

theorem mem_held (h : d.Lists f) {s : Session} : s ∈ d.held ↔ s ∈ f.held := h.held_perm.mem_iff

/-! ## Operations keep the tie -/

theorem new (mappedKeys : List String) : (Directory.new mappedKeys).Lists { mappedKeys } where
  mappedKeys := rfl
  nodup := List.nodup_nil
  lookup _ := rfl
  unmapped := .nil

theorem insert (h : d.Lists f) (s : Session) : (d.insert s).Lists (f.add s) where
  mappedKeys := h.mappedKeys
  nodup := nodup_keys_insertInto h.nodup s
  lookup key := by
    have hlookup := h.lookup key
    simp only [Directory.lookup] at hlookup
    simp only [Directory.insert, Directory.lookup, lookup_insertInto, FlatDirectory.withKey_add]
    by_cases hkey : key = s.key
    · simp only [hkey, if_true] at hlookup ⊢
      rw [hlookup, getD_nonempty?, nonempty?_append_singleton]
    · have hkey' : ¬ s.key = key := fun h => hkey h.symm
      simp only [hkey, hkey', if_false, List.append_nil, hlookup]
  unmapped := by
    simp only [Directory.insert, h.isMappedKey, FlatDirectory.leftOver_add]
    by_cases hs : f.leavesOver s
    · simpa [hs] using h.unmapped.append_right [s]
    · simpa [hs] using h.unmapped

/-- Removing reaches every copy, since all of them have the same key. -/
theorem remove (h : d.Lists f) {s : Session} (copies : ∀ t ∈ f.held, t.same s = true → t = s) :
    (d.remove s).2.Lists (f.remove s) where
  mappedKeys := h.mappedKeys
  nodup := h.nodup.sublist (keys_withoutSession_sublist s d.sessions)
  lookup key := by
    have hlookup := h.lookup key
    simp only [Directory.lookup] at hlookup
    simp only [Directory.remove, Directory.lookup, lookup_withoutSession s h.nodup, hlookup,
      FlatDirectory.withKey_remove]
    split
    · exact bind_nonempty? _ _
    · next hkey =>
      -- the sessions of another key are other sessions
      rw [List.filter_eq_self.mpr]
      intro t ht
      obtain ⟨ht, htkey⟩ := FlatDirectory.mem_withKey.mp ht
      rw [Bool.not_eq_true', Bool.eq_false_iff]
      intro hsame
      exact hkey (copies t ht hsame ▸ htkey.symm)
  unmapped := by
    rw [FlatDirectory.leftOver_remove]
    exact h.unmapped.filter _

theorem takeAll (h : d.Lists f) : d.takeAll.2.Lists (f.replace []) where
  mappedKeys := h.mappedKeys
  nodup := List.nodup_nil
  lookup _ := rfl
  unmapped := .nil

theorem foldl_insert (h : d.Lists f) (fresh : List Session) :
    (fresh.foldl Directory.insert d).Lists (f.replace (f.held ++ fresh)) := by
  induction fresh generalizing d f with
  | nil => simpa [FlatDirectory.replace] using h
  | cons s rest ih => simpa [FlatDirectory.replace, FlatDirectory.add] using ih (h.insert s)

theorem replaceAll (h : d.Lists f) (fresh : List Session) :
    (d.replaceAll fresh).2.Lists (f.replace fresh) := by
  simpa [Directory.replaceAll, FlatDirectory.replace] using h.takeAll.foldl_insert fresh

theorem classify (h : d.Lists f) (mappedKeys : List String) :
    (d.classify mappedKeys).Lists (f.classify mappedKeys) where
  mappedKeys := rfl
  nodup := h.nodup
  lookup := h.lookup
  unmapped := h.held_perm.filter _

theorem beginRefresh (h : d.Lists f) {now minInterval : Nat} {force : Bool} {d' : Directory}
    (hbegin : d.beginRefresh now minInterval force = some d') : d'.Lists f := by
  obtain rfl := beginRefresh_eq_some hbegin
  exact ⟨h.mappedKeys, h.nodup, h.lookup, h.unmapped⟩

end Lists

/-! ## What is seen of it -/

theorem mem_distinct {keys : List String} {key : String} : key ∈ distinct keys ↔ key ∈ keys := by
  induction keys with
  | nil => simp [distinct]
  | cons k rest ih =>
    by_cases h : key = k
    · simp [distinct, h]
    · simp [distinct, ih, h]

theorem nodup_distinct (keys : List String) : (distinct keys).Nodup := by
  induction keys with
  | nil => exact List.nodup_nil
  | cons k rest ih => simp [distinct, ih.filter]

/-- The directory shows the sessions of the flat one. -/
structure Shows (d : Directory) (f : FlatDirectory) : Prop where
  /-- A key has its sessions in order, and never an empty list. -/
  lookup : ∀ key, d.lookup key = if f.withKey key = [] then none else some (f.withKey key)
  keys_ascending : d.keys.Pairwise (· < ·)
  mem_keys : ∀ key, key ∈ d.keys ↔ ∃ s ∈ f.held, s.key = key
  count : d.count = f.held.length
  unmapped : d.unmapped.Perm f.leftOver
  unmappedKeys_nodup : d.unmappedKeys.Nodup
  mem_unmappedKeys : ∀ key, key ∈ d.unmappedKeys ↔ ∃ s ∈ f.leftOver, s.key = key

theorem count_eq_length_held (d : Directory) : d.count = d.held.length := by
  simp only [count, held]
  induction d.sessions with
  | nil => rfl
  | cons e rest ih => simp [ih]

theorem Lists.keys_ascending {d : Directory} {f : FlatDirectory} (h : d.Lists f) :
    d.keys.Pairwise (· < ·) := by
  have hsorted : d.keys.Pairwise fun a b => decide (a ≤ b) = true :=
    List.pairwise_mergeSort
      (fun a b c hab hbc => by
        simp only [decide_eq_true_eq] at hab hbc ⊢
        exact String.le_trans hab hbc)
      (fun a b => by simpa using String.le_total a b)
      _
  have hnodup : d.keys.Nodup := (List.mergeSort_perm _ _).nodup_iff.mpr h.nodup
  refine (hsorted.and hnodup).imp fun {a b} hab => ?_
  obtain ⟨hle, hne⟩ := hab
  simp only [decide_eq_true_eq] at hle
  exact lt_of_le_of_ne hle hne

theorem Lists.shows {d : Directory} {f : FlatDirectory} (h : d.Lists f) : d.Shows f where
  lookup := h.lookup
  keys_ascending := h.keys_ascending
  mem_keys key := ((List.mergeSort_perm _ _).mem_iff).trans (h.mem_keys key)
  count := (count_eq_length_held d).trans h.held_perm.length_eq
  unmapped := h.unmapped
  unmappedKeys_nodup := nodup_distinct _
  mem_unmappedKeys key := by
    simp only [unmappedKeys, mem_distinct, List.mem_map, h.unmapped.mem_iff]

theorem Lists.remove_found {d : Directory} {f : FlatDirectory} (h : d.Lists f) {s : Session}
    (copies : ∀ t ∈ f.held, t.same s = true → t = s) : (d.remove s).1 = true ↔ s ∈ f.held := by
  simp only [Directory.remove, h.lookup, getD_nonempty?, List.any_eq_true]
  constructor
  · rintro ⟨t, ht, hsame⟩
    obtain ⟨ht, -⟩ := FlatDirectory.mem_withKey.mp ht
    exact copies t ht hsame ▸ ht
  · intro hmem
    exact ⟨s, FlatDirectory.mem_withKey.mpr ⟨hmem, rfl⟩, by simp [Session.same]⟩

/-! ## Sessions with constant keys -/

/-- The directory lists the flat one, whose sessions have the keys of their identities. -/
structure Follows (keyOf : Nat → String) (d : Directory) (f : FlatDirectory) : Prop where
  lists : d.Lists f
  keyed : ∀ s ∈ f.held, s.KeyedBy keyOf

namespace Follows

variable {keyOf : Nat → String} {d : Directory} {f : FlatDirectory}

theorem new (mappedKeys : List String) :
    (Directory.new mappedKeys).Follows keyOf { mappedKeys } where
  lists := .new mappedKeys
  keyed _ hs := absurd hs List.not_mem_nil

theorem insert (h : d.Follows keyOf f) {s : Session} (hs : s.KeyedBy keyOf) :
    (d.insert s).Follows keyOf (f.add s) where
  lists := h.lists.insert s
  keyed t ht := by
    rcases List.mem_append.mp ht with ht | ht
    · exact h.keyed t ht
    · exact List.mem_singleton.mp ht ▸ hs

theorem copies (h : d.Follows keyOf f) {s : Session} (hs : s.KeyedBy keyOf) :
    ∀ t ∈ f.held, t.same s = true → t = s :=
  fun t ht => (Session.same_iff (h.keyed t ht) hs).mp

theorem remove (h : d.Follows keyOf f) {s : Session} (hs : s.KeyedBy keyOf) :
    (d.remove s).2.Follows keyOf (f.remove s) where
  lists := h.lists.remove (h.copies hs)
  keyed t ht := h.keyed t (List.mem_of_mem_filter ht)

theorem takeAll (h : d.Follows keyOf f) : d.takeAll.2.Follows keyOf (f.replace []) where
  lists := h.lists.takeAll
  keyed _ hs := absurd hs List.not_mem_nil

theorem replaceAll (h : d.Follows keyOf f) {fresh : List Session}
    (hfresh : ∀ s ∈ fresh, s.KeyedBy keyOf) :
    (d.replaceAll fresh).2.Follows keyOf (f.replace fresh) where
  lists := h.lists.replaceAll fresh
  keyed := hfresh

theorem classify (h : d.Follows keyOf f) (mappedKeys : List String) :
    (d.classify mappedKeys).Follows keyOf (f.classify mappedKeys) where
  lists := h.lists.classify mappedKeys
  keyed := h.keyed

theorem beginRefresh (h : d.Follows keyOf f) {now minInterval : Nat} {force : Bool}
    {d' : Directory} (hbegin : d.beginRefresh now minInterval force = some d') :
    d'.Follows keyOf f where
  lists := h.lists.beginRefresh hbegin
  keyed := h.keyed

theorem remove_found (h : d.Follows keyOf f) {s : Session} (hs : s.KeyedBy keyOf) :
    (d.remove s).1 = decide (s ∈ f.held) :=
  Bool.eq_iff_iff.mpr ((h.lists.remove_found (h.copies hs)).trans decide_eq_true_iff.symm)

end Follows

end Directory

end SliderMixer
