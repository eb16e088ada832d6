import Mathlib.Data.List.Basic

/-! # Runs

A run is a list of choices, each of which has to be possible where it is made.

* `after?` is the state a run leads to.
* `Along` says something of every step of a run, `Always` of every state.
* `invariant_of_step` and `invariant` turn what a step keeps into what a run keeps.
* `collect` is what the steps of a run give, one after the other.
* `Endless` runs have no end; they are `Fair` to a part that gets its turn again and again.
-/

/-- What a log has at some place, it still has there when it has grown. -/
theorem List.IsPrefix.getElem?_eq_some {β : Type} {front log : List β} {i : Nat} {b : β}
    (h : front <+: log) (hb : front[i]? = some b) : log[i]? = some b := by
  obtain ⟨hi, rfl⟩ := List.getElem?_eq_some_iff.mp hb
  exact List.prefix_iff_getElem?.mp h i hi

namespace SliderMixer.Run

variable {σ χ : Type} (step? : σ → χ → Option σ)

/-- The state after the choices, unless one of them is not possible. -/
def after? (s : σ) (choices : List χ) : Option σ := choices.foldlM step? s

/-- Every step of the run is made where `Q` holds. -/
def Along (Q : σ → χ → Prop) : σ → List χ → Prop
  | _, [] => True
  | s, c :: rest => Q s c ∧ ∀ t ∈ step? s c, Along Q t rest

instance decidableAlong {Q : σ → χ → Prop} [∀ s c, Decidable (Q s c)] :
    ∀ s choices, Decidable (Along step? Q s choices)
  | _, [] => .isTrue trivial
  | s, c :: rest =>
    have (t : σ) : Decidable (Along step? Q t rest) := decidableAlong t rest
    inferInstanceAs (Decidable (Q s c ∧ ∀ t ∈ step? s c, Along step? Q t rest))

/-- Every state of the run satisfies `P`. -/
def Always (P : σ → Prop) : σ → List χ → Prop
  | s, [] => P s
  | s, c :: rest => P s ∧ ∀ t ∈ step? s c, Always P t rest

instance decidableAlways {P : σ → Prop} [DecidablePred P] :
    ∀ s choices, Decidable (Always step? P s choices)
  | s, [] => inferInstanceAs (Decidable (P s))
  | s, c :: rest =>
    have (t : σ) : Decidable (Always step? P t rest) := decidableAlways t rest
    inferInstanceAs (Decidable (P s ∧ ∀ t ∈ step? s c, Always step? P t rest))

/-! ## Composing runs -/

@[simp] theorem after?_nil (s : σ) : after? step? s [] = some s := rfl

@[simp] theorem after?_cons (s : σ) (c : χ) (rest : List χ) :
    after? step? s (c :: rest) = (step? s c).bind fun t => after? step? t rest := by
  simp only [after?, List.foldlM_cons]; rfl

variable {step?}

theorem after?_append {s t : σ} {front : List χ} (run : after? step? s front = some t)
    (back : List χ) : after? step? s (front ++ back) = after? step? t back := by
  induction front generalizing s with
  | nil =>
    cases run
    rfl
  | cons c rest ih =>
    simp only [after?_cons, Option.bind_eq_some_iff] at run
    obtain ⟨u, hstep, run⟩ := run
    simpa [hstep] using ih run

theorem after?_append_eq_some_iff {s t : σ} {front back : List χ} :
    after? step? s (front ++ back) = some t ↔
      ∃ u, after? step? s front = some u ∧ after? step? u back = some t := by
  simp [after?, List.foldlM_append, Option.bind_eq_some_iff]

/-- What holds at the begin and is kept by every step holds at the end. -/
theorem invariant_of_step {P : σ → Prop} {Q : σ → χ → Prop} {s t : σ} {choices : List χ}
    (first : P s) (kept : ∀ s c t, P s → Q s c → step? s c = some t → P t)
    (along : Along step? Q s choices) (run : after? step? s choices = some t) : P t := by
  induction choices generalizing s with
  | nil => simp only [after?_nil, Option.some.injEq] at run; exact run ▸ first
  | cons c rest ih =>
    simp only [after?_cons, Option.bind_eq_some_iff] at run
    obtain ⟨u, hstep, run⟩ := run
    exact ih (kept s c u first along.1 hstep) (along.2 u hstep) run

theorem along_of_forall {Q : σ → χ → Prop} (h : ∀ s c, Q s c) (s : σ) (choices : List χ) :
    Along step? Q s choices := by
  induction choices generalizing s with
  | nil => trivial
  | cons c rest ih => exact ⟨h s c, fun t _ => ih t⟩

/-- What holds at every step where an invariant does, holds along the run. -/
theorem along_of_invariant {P : σ → Prop} {Q R : σ → χ → Prop} {s : σ} {choices : List χ}
    (first : P s) (kept : ∀ s c t, P s → Q s c → step? s c = some t → P t)
    (h : ∀ s c, P s → Q s c → R s c) (along : Along step? Q s choices) :
    Along step? R s choices := by
  induction choices generalizing s with
  | nil => trivial
  | cons c rest ih =>
    exact ⟨h s c first along.1, fun t ht => ih (kept s c t first along.1 ht) (along.2 t ht)⟩

theorem along_of_always {P : σ → Prop} {Q : σ → χ → Prop} (h : ∀ s c, P s → Q s c) {s : σ}
    {choices : List χ} (always : Always step? P s choices) : Along step? Q s choices := by
  induction choices generalizing s with
  | nil => trivial
  | cons c rest ih => exact ⟨h s c always.1, fun t ht => ih (always.2 t ht)⟩

theorem always_last {P : σ → Prop} {s t : σ} {choices : List χ} (always : Always step? P s choices)
    (run : after? step? s choices = some t) : P t := by
  induction choices generalizing s with
  | nil =>
    cases run
    exact always
  | cons c rest ih =>
    simp only [after?_cons, Option.bind_eq_some_iff] at run
    obtain ⟨u, hstep, run⟩ := run
    exact ih (always.2 u hstep) run

theorem invariant {P : σ → Prop} {s t : σ} {choices : List χ} (first : P s)
    (kept : ∀ s c t, P s → step? s c = some t → P t) (run : after? step? s choices = some t) :
    P t :=
  invariant_of_step first (fun s c t hs _ => kept s c t hs)
    (along_of_forall (fun _ _ => trivial) s choices) run

/-- The same for what refers to the choices made so far. -/
theorem invariant_of_history {P : List χ → σ → Prop} {Q : σ → χ → Prop} {s t : σ}
    {choices : List χ} (first : P [] s)
    (kept : ∀ front u c v, after? step? s front = some u → P front u → Q u c →
      step? u c = some v → P (front ++ [c]) v)
    (along : Along step? Q s choices) (run : after? step? s choices = some t) : P choices t := by
  suffices hall : ∀ front u back, after? step? s front = some u → P front u →
      Along step? Q u back → after? step? u back = some t → P (front ++ back) t from
    hall [] s choices rfl first along run
  intro front u back hfront hP along run
  induction back generalizing front u with
  | nil =>
    cases run
    simpa using hP
  | cons c rest ih =>
    simp only [after?_cons, Option.bind_eq_some_iff] at run
    obtain ⟨v, hstep, run⟩ := run
    have hsnoc : after? step? s (front ++ [c]) = some v := by
      rw [after?_append hfront, after?_cons, hstep]
      rfl
    simpa using ih (front ++ [c]) v hsnoc (kept front u c v hfront hP along.1 hstep)
      (along.2 v hstep) run

/-- If a step keeps `P` exactly where `R` holds, a run does exactly if all its steps are made
    where `R` holds. -/
theorem always_iff_along {I P : σ → Prop} {R : σ → χ → Prop}
    (kept : ∀ s c t, I s → step? s c = some t → I t)
    (keeps : ∀ s c t, I s → P s → step? s c = some t → (P t ↔ R s c))
    (stuck : ∀ s c, step? s c = none → R s c) {s : σ} (first : I s) (holds : P s)
    (choices : List χ) : Always step? P s choices ↔ Along step? R s choices := by
  induction choices generalizing s with
  | nil => exact iff_of_true holds trivial
  | cons c rest ih =>
    simp only [Always, Along, Option.mem_def]
    cases hstep : step? s c with
    | none => simpa [holds] using stuck s c hstep
    | some t =>
      have hkeeps := keeps s c t first holds hstep
      constructor
      · rintro ⟨-, hrest⟩
        have hrest := hrest t rfl
        have ht : P t := by
          cases rest with
          | nil => exact hrest
          | cons d rest => exact hrest.1
        refine ⟨hkeeps.mp ht, ?_⟩
        rintro u ⟨⟩
        exact (ih (kept s c t first hstep) ht).mp hrest
      · rintro ⟨hR, hrest⟩
        refine ⟨holds, ?_⟩
        rintro u ⟨⟩
        exact (ih (kept s c t first hstep) (hkeeps.mpr hR)).mpr (hrest t rfl)

/-! ## What a run gives -/

section Collect

variable {β : Type} (step?) (emit : σ → χ → List β)

def collect : σ → List χ → List β
  | _, [] => []
  | s, c :: rest => emit s c ++ (step? s c).elim [] fun t => collect t rest

variable {step?} {emit}

theorem collect_append {s t : σ} {front : List χ} (run : after? step? s front = some t)
    (back : List χ) :
    collect step? emit s (front ++ back) =
      collect step? emit s front ++ collect step? emit t back := by
  induction front generalizing s with
  | nil =>
    cases run
    rfl
  | cons c rest ih =>
    simp only [after?_cons, Option.bind_eq_some_iff] at run
    obtain ⟨u, hstep, run⟩ := run
    simp [collect, hstep, ih run]

theorem collect_snoc {s t : σ} {front : List χ} (run : after? step? s front = some t) (c : χ) :
    collect step? emit s (front ++ [c]) = collect step? emit s front ++ emit t c := by
  rw [collect_append run]
  cases hstep : step? t c <;> simp [collect, hstep]

end Collect

/-! ## Endless runs -/

section Endless

variable (step?)

/-- Each state comes of the one before by the choice made there. -/
def Endless (states : Nat → σ) (choices : Nat → χ) : Prop :=
  ∀ n, step? (states n) (choices n) = some (states (n + 1))

/-- A choice of the kind is made again and again, as long as one is possible. -/
def Fair (Own : χ → Prop) (states : Nat → σ) (choices : Nat → χ) : Prop :=
  ∀ n, ∃ k ≥ n, Own (choices k) ∨ ∀ c, Own c → step? (states k) c = none

variable {step?}

/-- What makes a choice of the kind possible, and what nothing else ends, lasts until the next
    choice of the kind. -/
theorem Fair.next {Own : χ → Prop} {states : Nat → σ} {choices : Nat → χ} {P : σ → Prop}
    (fair : Fair step? Own states choices) (run : Endless step? states choices)
    (able : ∀ s, P s → ∃ c, Own c ∧ (step? s c).isSome = true)
    (kept : ∀ s c t, P s → ¬ Own c → step? s c = some t → P t) {n : Nat} (h : P (states n)) :
    ∃ k ≥ n, (∀ j, n ≤ j → j ≤ k → P (states j)) ∧ Own (choices k) := by
  obtain ⟨k, hk, hchoice⟩ := fair n
  obtain ⟨d, rfl⟩ := Nat.exists_eq_add_of_le hk
  clear hk
  induction d generalizing n with
  | zero =>
    refine ⟨n, Nat.le_refl n, fun j hn hj => Nat.le_antisymm hj hn ▸ h,
      hchoice.resolve_right fun hnone => ?_⟩
    obtain ⟨c, hc, hsome⟩ := able _ h
    simp [show step? (states n) c = none from hnone c hc] at hsome
  | succ d ih =>
    by_cases hown : Own (choices n)
    · exact ⟨n, Nat.le_refl n, fun j hn hj => Nat.le_antisymm hj hn ▸ h, hown⟩
    · rw [← Nat.add_assoc, Nat.add_right_comm] at hchoice
      obtain ⟨k, hk, hall, hfound⟩ := ih (kept _ _ _ h hown (run n)) hchoice
      refine ⟨k, Nat.le_of_succ_le hk, fun j hn hj => ?_, hfound⟩
      obtain rfl | hlater := Nat.eq_or_lt_of_le hn
      · exact h
      · exact hall j hlater hj

end Endless

end SliderMixer.Run
