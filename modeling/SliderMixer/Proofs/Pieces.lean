import Mathlib.Data.List.SplitBy
import SliderMixer.Link.LineSplitter

/-! # Pieces of a stream

A stream of bytes is cut after every newline.  What the line splitter gives out are the pieces,
except for those that are too long.

* `pieces` and `kept`: the pieces, and those short enough to be lines.
* `line_induction`: a stream has no newline, or it has a first line and what comes after that.
* `feed_append`: it does not matter how the bytes arrive.
* `lines_feed`, `lines_finish`: the lines while the stream goes on, and those at its end.
-/

namespace SliderMixer.LineSplitter

/-! ## Cutting -/

/-- The stream cut after each newline. -/
def pieces (bytes : List UInt8) : List (List UInt8) := bytes.splitBy fun b _ => b != newline

def isComplete (piece : List UInt8) : Bool := piece.getLast? == some newline

/-- A line has up to `lineLimit` bytes with its newline, and fewer where the newline is missing. -/
def kept (piece : List UInt8) : Bool :=
  if isComplete piece then piece.length ≤ lineLimit else piece.length < lineLimit

@[elab_as_elim]
theorem line_induction {P : List UInt8 → Prop} (rest : ∀ bytes, newline ∉ bytes → P bytes)
    (line : ∀ body later, newline ∉ body → P later → P (body ++ newline :: later))
    (bytes : List UInt8) : P bytes := by
  induction hlength : bytes.length using Nat.strongRecOn generalizing bytes with
  | ind n ih =>
    by_cases hnewline : newline ∈ bytes
    · obtain ⟨body, later, rfl, hbody⟩ := List.eq_append_cons_of_mem hnewline
      rw [List.length_append, List.length_cons] at hlength
      exact line body later hbody (ih later.length (by omega) later rfl)
    · exact rest bytes hnewline

theorem isChain_of_not_mem {body : List UInt8} (h : newline ∉ body) (last : List UInt8)
    (hlast : last.length ≤ 1) : (body ++ last).IsChain fun b _ => (b != newline) = true := by
  induction body with
  | nil =>
    match last, hlast with
    | [], _ => exact .nil
    | [b], _ => exact .singleton b
  | cons b rest ih =>
    rw [List.mem_cons, not_or] at h
    exact List.isChain_cons.mpr ⟨fun _ _ => bne_iff_ne.mpr (Ne.symm h.1), ih h.2⟩

theorem pieces_rest {rest : List UInt8} (h : newline ∉ rest) (hrest : rest ≠ []) :
    pieces rest = [rest] := by
  have hchain := isChain_of_not_mem h [] (Nat.zero_le 1)
  rw [List.append_nil] at hchain
  exact List.splitBy_of_isChain hrest hchain

theorem pieces_line {body : List UInt8} (h : newline ∉ body) (later : List UInt8) :
    pieces (body ++ newline :: later) = (body ++ [newline]) :: pieces later := by
  have hline : pieces (body ++ [newline]) = [body ++ [newline]] :=
    List.splitBy_of_isChain (by simp) (isChain_of_not_mem h [newline] (Nat.le_refl 1))
  have hsplit : pieces ((body ++ [newline]) ++ later) =
      pieces (body ++ [newline]) ++ pieces later := List.splitBy_append (by simp)
  rw [List.append_cons, hsplit, hline, List.singleton_append]

theorem isComplete_line (body : List UInt8) : isComplete (body ++ [newline]) = true := by
  simp [isComplete]

theorem isComplete_rest {rest : List UInt8} (h : newline ∉ rest) : isComplete rest = false := by
  simp only [isComplete, beq_eq_false_iff_ne]
  exact fun hlast => h (List.mem_of_getLast? hlast)

theorem kept_iff {piece : List UInt8} (h : isComplete piece = true) :
    kept piece = true ↔ piece.length ≤ lineLimit := by
  simp [kept, h]

/-! ## Feeding -/

theorem feed_append (s : LineSplitter) (front back : List UInt8) :
    s.feed (front ++ back) =
      ((s.feed front).1 ++ ((s.feed front).2.feed back).1, ((s.feed front).2.feed back).2) := by
  induction front generalizing s with
  | nil => rfl
  | cons b rest ih =>
    by_cases hb : b = newline
    · simp [feed, hb, ih]
    · simp [feed, hb, ih]

/-- What the splitter has of a line that has not ended. -/
def holding (body : List UInt8) : LineSplitter :=
  if body.length < lineLimit then { pending := body.reverse } else { dropping := true }

theorem grow_holding (body : List UInt8) (b : UInt8) :
    (holding body).grow b = holding (body ++ [b]) := by
  by_cases hbody : body.length < lineLimit
  · by_cases hline : body.length + 1 < lineLimit
    · simp [holding, grow, hbody, hline]
    · simp [holding, grow, hbody, hline]
  · have hline : ¬ body.length + 1 < lineLimit := by omega
    simp [holding, grow, hbody, hline]

theorem feed_holding (front : List UInt8) {body : List UInt8} (h : newline ∉ body)
    (later : List UInt8) :
    (holding front).feed (body ++ later) = (holding (front ++ body)).feed later := by
  induction body generalizing front with
  | nil => simp
  | cons b rest ih =>
    rw [List.mem_cons, not_or] at h
    have hb : b ≠ newline := Ne.symm h.1
    rw [List.cons_append, feed, if_neg hb, grow_holding, ih _ h.2, List.append_assoc,
      List.singleton_append]

theorem feed_rest {rest : List UInt8} (h : newline ∉ rest) :
    ({} : LineSplitter).feed rest = ([], holding rest) := by
  have hfeed := feed_holding [] h []
  rwa [List.append_nil] at hfeed

theorem feed_line {body : List UInt8} (h : newline ∉ body) (later : List UInt8) :
    ({} : LineSplitter).feed (body ++ newline :: later) =
      ((holding body).complete ++ (({} : LineSplitter).feed later).1,
        (({} : LineSplitter).feed later).2) :=
  feed_holding [] h (newline :: later)

theorem complete_holding (body : List UInt8) :
    (holding body).complete =
      if kept (body ++ [newline]) then [Utf8.decodeLossy (body ++ [newline])] else [] := by
  by_cases hbody : body.length < lineLimit
  · have hkept : body.length + 1 ≤ lineLimit := hbody
    simp [holding, complete, lineText, kept, isComplete_line, hbody, hkept]
  · have hkept : ¬ body.length + 1 ≤ lineLimit := hbody
    simp [holding, complete, kept, isComplete_line, hbody, hkept]

theorem finish_holding {rest : List UInt8} (h : newline ∉ rest) (hrest : rest ≠ []) :
    (holding rest).finish = if kept rest then [Utf8.decodeLossy rest] else [] := by
  by_cases hshort : rest.length < lineLimit
  · simp [holding, finish, lineText, kept, isComplete_rest h, hshort, hrest]
  · simp [holding, finish, kept, isComplete_rest h, hshort]

theorem length_complete_le (s : LineSplitter) : s.complete.length ≤ 1 := by
  unfold complete
  split <;> simp

theorem length_finish_le (s : LineSplitter) : s.finish.length ≤ 1 := by
  unfold finish
  split <;> simp

/-- Every line takes a byte at least. -/
theorem length_feed_le (s : LineSplitter) (bytes : List UInt8) :
    (s.feed bytes).1.length ≤ bytes.length := by
  induction bytes generalizing s with
  | nil => exact Nat.le_refl 0
  | cons b rest ih =>
    by_cases hb : b = newline
    · have hline := s.length_complete_le
      have hrest := ih {}
      simp only [feed, hb, if_true, List.length_append, List.length_cons]
      omega
    · have hrest := ih (s.grow b)
      simp only [feed, hb, if_false, List.length_cons]
      omega

/-! ## Lines -/

/-- The lines of pieces, each piece read on its own. -/
def linesOf (pieces : List (List UInt8)) : List String := (pieces.filter kept).map Utf8.decodeLossy

theorem linesOf_cons (piece : List UInt8) (rest : List (List UInt8)) :
    linesOf (piece :: rest) =
      (if kept piece then [Utf8.decodeLossy piece] else []) ++ linesOf rest := by
  cases h : kept piece <;> simp [linesOf, h]

/-- While the stream goes on, its lines are those of the complete pieces. -/
theorem lines_feed (bytes : List UInt8) :
    (({} : LineSplitter).feed bytes).1 = linesOf ((pieces bytes).filter isComplete) := by
  induction bytes using line_induction with
  | rest rest h =>
    rw [feed_rest h]
    by_cases hrest : rest = []
    · simp [hrest, pieces, linesOf]
    · simp [pieces_rest h hrest, isComplete_rest h, linesOf]
  | line body later h ih =>
    rw [feed_line h, pieces_line h, List.filter_cons_of_pos (isComplete_line body), linesOf_cons,
      complete_holding, ih]

/-- At the end of the stream the last piece counts, too. -/
theorem lines_finish (bytes : List UInt8) :
    (({} : LineSplitter).feed bytes).1 ++ (({} : LineSplitter).feed bytes).2.finish =
      linesOf (pieces bytes) := by
  induction bytes using line_induction with
  | rest rest h =>
    rw [feed_rest h]
    by_cases hrest : rest = []
    · simp [hrest, pieces, linesOf, holding, finish, lineLimit]
    · rw [List.nil_append, pieces_rest h hrest, linesOf_cons, finish_holding h hrest]
      exact (List.append_nil _).symm
  | line body later h ih =>
    rw [feed_line h, pieces_line h, linesOf_cons, complete_holding, List.append_assoc, ih]

end SliderMixer.LineSplitter
