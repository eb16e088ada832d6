import Mathlib.Data.List.Nodup
import SliderMixer.Session

/-! # The order of reports

A session starts before it ends, and its start is reported before its end.  Reports of
different sessions may come in any order.

* `InOrder`: no end of a session is followed before its start, now or later.
* `Since`: how the list of a refresh differs from the sessions that are live now.
-/

namespace SliderMixer

/-- The first is the end of a session, and the second its start. -/
def Contradicts (p q : SessionChange × Session) : Prop :=
  p.1 = .removed ∧ q.1 = .added ∧ p.2 = q.2

/-- The changes in the queue are followed in order, and those still to come after them;
    `removed` are the sessions whose end was followed already. -/
structure InOrder (started live removed : List Session)
    (queue coming : List (SessionChange × Session)) : Prop where
  known : ∀ p ∈ queue ++ coming, p.2 ∈ started
  followed : ∀ s ∈ removed, s ∈ started
  queued : queue.Pairwise fun p q => ¬ Contradicts p q
  later : ∀ p ∈ queue ++ coming, ∀ q ∈ coming, ¬ Contradicts p q
  done : ∀ s ∈ removed, (.added, s) ∉ queue ++ coming
  gone : ∀ s, s ∈ removed ∨ (.removed, s) ∈ queue ++ coming → s ∉ live

namespace InOrder

variable {started live removed : List Session} {queue coming : List (SessionChange × Session)}

theorem nil : InOrder [] [] [] [] [] where
  known _ h := absurd h List.not_mem_nil
  followed _ h := absurd h List.not_mem_nil
  queued := .nil
  later _ h := absurd h List.not_mem_nil
  done _ h := absurd h List.not_mem_nil
  gone _ _ := List.not_mem_nil

/-- A session that is new starts. -/
theorem start (h : InOrder started live removed queue coming) {s : Session} (hs : s ∉ started) :
    InOrder (started ++ [s]) (live ++ [s]) removed queue (coming ++ [(.added, s)]) := by
  have hmem (p : SessionChange × Session) :
      p ∈ queue ++ (coming ++ [(.added, s)]) ↔ p ∈ queue ++ coming ∨ p = (.added, s) := by
    rw [← List.append_assoc, List.mem_append, List.mem_singleton]
  refine ⟨?_, ?_, h.queued, ?_, ?_, ?_⟩
  · intro p hp
    rcases (hmem p).mp hp with hp | rfl
    · exact List.mem_append_left _ (h.known p hp)
    · exact List.mem_append_right _ (List.mem_singleton_self s)
  · intro t ht
    exact List.mem_append_left _ (h.followed t ht)
  · rintro p hp q hq ⟨hremoved, hadded, hsame⟩
    rcases (hmem p).mp hp with hp | rfl
    · rcases List.mem_append.mp hq with hq | hq
      · exact h.later p hp q hq ⟨hremoved, hadded, hsame⟩
      · have hps : p.2 = s := by rw [hsame, List.mem_singleton.mp hq]
        exact hs (hps ▸ h.known p hp)
    · cases hremoved
  · intro t ht hp
    rcases (hmem _).mp hp with hp | hp
    · exact h.done t ht hp
    · cases hp
      exact hs (h.followed s ht)
  · intro t ht hlive
    have htold : t ∈ removed ∨ (SessionChange.removed, t) ∈ queue ++ coming := by
      refine ht.imp_right fun hp => ?_
      rcases (hmem _).mp hp with hp | hp
      · exact hp
      · cases hp
    rcases List.mem_append.mp hlive with hlive | hlive
    · exact h.gone t htold hlive
    · rw [List.mem_singleton.mp hlive] at htold
      exact hs (htold.elim (h.followed s) (h.known _))

/-- A session ends whose start is not still to be reported. -/
theorem finish (h : InOrder started live removed queue coming) {s : Session} (hs : s ∈ started)
    (hcoming : (.added, s) ∉ coming) {left : List Session} (hleft : ∀ t ∈ left, t ∈ live ∧ t ≠ s) :
    InOrder started left removed queue (coming ++ [(.removed, s)]) := by
  have hmem (p : SessionChange × Session) :
      p ∈ queue ++ (coming ++ [(.removed, s)]) ↔ p ∈ queue ++ coming ∨ p = (.removed, s) := by
    rw [← List.append_assoc, List.mem_append, List.mem_singleton]
  refine ⟨?_, h.followed, h.queued, ?_, ?_, ?_⟩
  · intro p hp
    rcases (hmem p).mp hp with hp | rfl
    · exact h.known p hp
    · exact hs
  · rintro p hp q hq ⟨hremoved, hadded, hsame⟩
    rcases List.mem_append.mp hq with hq | hq
    · rcases (hmem p).mp hp with hp | rfl
      · exact h.later p hp q hq ⟨hremoved, hadded, hsame⟩
      · obtain ⟨change, t⟩ := q
        cases hadded
        cases hsame
        exact hcoming hq
    · rw [List.mem_singleton.mp hq] at hadded
      cases hadded
  · intro t ht hp
    rcases (hmem _).mp hp with hp | hp
    · exact h.done t ht hp
    · cases hp
  · intro t ht hlive
    obtain ⟨hlive, hne⟩ := hleft t hlive
    rcases ht with ht | ht
    · exact h.gone t (.inl ht) hlive
    · rcases (hmem _).mp ht with ht | ht
      · exact h.gone t (.inr ht) hlive
      · cases ht
        exact hne rfl

/-- A change is lost, or is not to be reported any more. -/
theorem lose (h : InOrder started live removed queue coming)
    {rest : List (SessionChange × Session)} (hrest : rest ⊆ coming) :
    InOrder started live removed queue rest := by
  have hmem {p : SessionChange × Session} (hp : p ∈ queue ++ rest) : p ∈ queue ++ coming :=
    List.mem_append.mpr ((List.mem_append.mp hp).imp_right fun hp => hrest hp)
  exact
    { known := fun p hp => h.known p (hmem hp)
      followed := h.followed
      queued := h.queued
      later := fun p hp q hq => h.later p (hmem hp) q (hrest hq)
      done := fun s hs hp => h.done s hs (hmem hp)
      gone := fun s hs => h.gone s (hs.imp_right hmem) }

/-- A change is reported. -/
theorem report (h : InOrder started live removed queue coming) {p : SessionChange × Session}
    (hp : p ∈ coming) {rest : List (SessionChange × Session)} (hrest : rest ⊆ coming) :
    InOrder started live removed (queue ++ [p]) rest := by
  have hmem {q : SessionChange × Session} (hq : q ∈ queue ++ [p] ++ rest) : q ∈ queue ++ coming := by
    rcases List.mem_append.mp hq with hq | hq
    · rcases List.mem_append.mp hq with hq | hq
      · exact List.mem_append_left _ hq
      · exact List.mem_append_right _ (List.mem_singleton.mp hq ▸ hp)
    · exact List.mem_append_right _ (hrest hq)
  exact
    { known := fun q hq => h.known q (hmem hq)
      followed := h.followed
      queued := by
        rw [List.pairwise_append]
        refine ⟨h.queued, List.pairwise_singleton _ p, fun q hq p' hp' => ?_⟩
        rw [List.mem_singleton.mp hp']
        exact h.later q (List.mem_append_left _ hq) p hp
      later := fun q hq q' hq' => h.later q (hmem hq) q' (hrest hq')
      done := fun s hs hq => h.done s hs (hmem hq)
      gone := fun s hs => h.gone s (hs.imp_right hmem) }

/-- The next change in the queue is followed. -/
theorem follow {p : SessionChange × Session}
    (h : InOrder started live removed (p :: queue) coming) :
    InOrder started live (removed ++ if p.1 = .removed then [p.2] else []) queue coming := by
  obtain ⟨change, s⟩ := p
  have hmem {q : SessionChange × Session} (hq : q ∈ queue ++ coming) :
      q ∈ (change, s) :: queue ++ coming := List.mem_cons_of_mem _ hq
  have hfollowed (t : Session) (ht : t ∈ removed ++ if change = .removed then [s] else []) :
      t ∈ removed ∨ change = .removed ∧ t = s := by
    refine (List.mem_append.mp ht).imp_right fun ht => ?_
    split at ht
    · exact ⟨‹_›, List.mem_singleton.mp ht⟩
    · cases ht
  refine ⟨fun q hq => h.known q (hmem hq), ?_, (List.pairwise_cons.mp h.queued).2,
    fun q hq => h.later q (hmem hq), ?_, ?_⟩
  · intro t ht
    rcases hfollowed t ht with ht | ⟨-, rfl⟩
    · exact h.followed t ht
    · exact h.known _ List.mem_cons_self
  · intro t ht hadded
    rcases hfollowed t ht with ht | ⟨rfl, rfl⟩
    · exact h.done t ht (hmem hadded)
    · rcases List.mem_append.mp hadded with hadded | hadded
      · exact (List.pairwise_cons.mp h.queued).1 _ hadded ⟨rfl, rfl, rfl⟩
      · exact h.later _ List.mem_cons_self _ hadded ⟨rfl, rfl, rfl⟩
  · intro t ht
    rcases ht with ht | ht
    · rcases hfollowed t ht with ht | ⟨rfl, rfl⟩
      · exact h.gone t (.inl ht)
      · exact h.gone t (.inr List.mem_cons_self)
    · exact h.gone t (.inr (hmem ht))

end InOrder

/-! ## Lists of refreshes -/

/-- The sessions `fresh` were listed, and since then some have started and some have ended. -/
structure Since (fresh started ended live : List Session) : Prop where
  of_live : ∀ s ∈ live, s ∈ fresh ∨ s ∈ started
  of_listed : ∀ s ∈ fresh, s ∈ live ∨ s ∈ ended
  of_started : ∀ s ∈ started, s ∉ fresh
  of_ended : ∀ s ∈ ended, s ∈ fresh ∨ s ∈ started

namespace Since

variable {fresh started ended live : List Session}

theorem now (live : List Session) : Since live [] [] live where
  of_live _ hs := .inl hs
  of_listed _ hs := .inl hs
  of_started _ hs := absurd hs List.not_mem_nil
  of_ended _ hs := absurd hs List.not_mem_nil

theorem start (h : Since fresh started ended live) {s : Session} (hs : s ∉ fresh) :
    Since fresh (started ++ [s]) ended (live ++ [s]) where
  of_live t ht := by
    rcases List.mem_append.mp ht with ht | ht
    · exact (h.of_live t ht).imp_right (List.mem_append_left _)
    · exact .inr (List.mem_append_right _ ht)
  of_listed t ht := (h.of_listed t ht).imp_left (List.mem_append_left _)
  of_started t ht := by
    rcases List.mem_append.mp ht with ht | ht
    · exact h.of_started t ht
    · exact List.mem_singleton.mp ht ▸ hs
  of_ended t ht := (h.of_ended t ht).imp_right (List.mem_append_left _)

theorem finish (h : Since fresh started ended live) {s : Session} (hs : s ∈ live)
    {left : List Session} (hleft : ∀ t ∈ left, t ∈ live) (hgone : ∀ t ∈ live, t ∈ left ∨ t = s) :
    Since fresh started (ended ++ [s]) left where
  of_live t ht := h.of_live t (hleft t ht)
  of_listed t ht := by
    rcases h.of_listed t ht with ht | ht
    · exact (hgone t ht).imp_right fun ht => List.mem_append_right _ (List.mem_singleton.mpr ht)
    · exact .inr (List.mem_append_left _ ht)
  of_started := h.of_started
  of_ended t ht := by
    rcases List.mem_append.mp ht with ht | ht
    · exact h.of_ended t ht
    · exact List.mem_singleton.mp ht ▸ h.of_live s hs

/-- The list misses a live session that counts as added, or has one that counts as removed,
    exactly if a start or an end that counts came after it. -/
theorem replace_iff (h : Since fresh started ended live) (added : List Session)
    {removed : List Session} (gone : ∀ s ∈ removed, s ∉ live) :
    ((∀ s ∈ added, s ∈ live → s ∈ fresh) ∧ ∀ s ∈ removed, s ∉ fresh) ↔
      ¬ ((∃ s ∈ started, s ∈ added ∧ s ∈ live) ∨ ∃ s ∈ ended, s ∉ started ∧ s ∈ removed) := by
  constructor
  · rintro ⟨hadded, hremoved⟩ (⟨s, hstarted, hs, hlive⟩ | ⟨s, hended, hstarted, hs⟩)
    · exact h.of_started s hstarted (hadded s hs hlive)
    · exact hremoved s hs ((h.of_ended s hended).resolve_right hstarted)
  · intro hnone
    constructor
    · intro s hs hlive
      by_contra hmissing
      exact hnone (.inl ⟨s, (h.of_live s hlive).resolve_left hmissing, hs, hlive⟩)
    · intro s hs hlisted
      have hended := (h.of_listed s hlisted).resolve_left (gone s hs)
      exact hnone (.inr ⟨s, hended, fun hstarted => h.of_started s hstarted hlisted, hs⟩)

end Since

end SliderMixer
