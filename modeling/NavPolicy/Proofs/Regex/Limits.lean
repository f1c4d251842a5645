import NavPolicy.Regex.Parser

/-!
# Within the limits

Bounds on the measures of a piece from bounds on its parts.  A class is measured by its
normal form, which has no more ranges than the class was written with.
-/

namespace NavPolicy.Regex

private theorem CharSet.length_joinRange_le (r : Nat × Nat) (ranges : List (Nat × Nat)) :
    (joinRange r ranges).length ≤ ranges.length + 1 := by
  induction ranges generalizing r with
  | nil => exact Nat.le_refl 1
  | cons q rest ih =>
      rw [joinRange]
      split
      · exact Nat.le_succ_of_le (ih _)
      · exact Nat.le_refl _

/-- Joining ranges makes none. -/
theorem CharSet.rangeCount_le (s : CharSet) : s.rangeCount ≤ s.ranges.length := by
  have hjoin : ∀ ranges : List (Nat × Nat), (ranges.foldr joinRange []).length ≤ ranges.length := by
    intro ranges
    induction ranges with
    | nil => exact Nat.le_refl 0
    | cons r ranges ih =>
        exact Nat.le_trans (length_joinRange_le r _) (Nat.succ_le_succ ih)
  have hsorted := hjoin (s.ranges.mergeSort fun p q => p.1 ≤ q.1)
  rwa [List.length_mergeSort] at hsorted

namespace Piece

variable {ps : List Piece} {least most : Nat}

private theorem heightOver_le (h : ∀ p ∈ ps, p.height ≤ most) : heightOver ps ≤ most + 1 := by
  have hfold : ∀ start, start ≤ most →
      ps.foldl (fun h p => max h p.height) start ≤ most := by
    induction ps with
    | nil => exact fun start hstart => hstart
    | cons p ps ih =>
        intro start hstart
        rw [List.forall_mem_cons] at h
        exact ih h.2 _ (Nat.max_le.2 ⟨hstart, h.1⟩)
  exact Nat.succ_le_succ (hfold 0 (Nat.zero_le _))

private theorem costOf_le (h : ∀ p ∈ ps, p.cost ≤ most) : costOf ps ≤ most * ps.length := by
  have hfold : ∀ start, ps.foldl (fun n p => n + p.cost) start ≤ start + most * ps.length := by
    induction ps with
    | nil => exact fun start => Nat.le_add_right _ _
    | cons p ps ih =>
        intro start
        rw [List.forall_mem_cons] at h
        have hrest := ih h.2 (start + p.cost)
        rw [List.length_cons, Nat.mul_succ]
        have hp := h.1
        simp only [List.foldl_cons]
        omega
  simpa [costOf] using hfold 0

private theorem le_costOf (h : ∀ p ∈ ps, least ≤ p.cost) : least * ps.length ≤ costOf ps := by
  have hfold : ∀ start, start + least * ps.length ≤ ps.foldl (fun n p => n + p.cost) start := by
    induction ps with
    | nil => exact fun start => Nat.le_refl _
    | cons p ps ih =>
        intro start
        rw [List.forall_mem_cons] at h
        have hrest := ih h.2 (start + p.cost)
        rw [List.length_cons, Nat.mul_succ]
        have hp := h.1
        simp only [List.foldl_cons]
        omega
  simpa [costOf] using hfold 0

/-- Putting pieces together adds one level at most. -/
theorem concat_height_le (h : ∀ p ∈ ps, p.height ≤ most) : (concat ps).height ≤ most + 1 := by
  match ps, h with
  | [], _ => exact Nat.zero_le _
  | [p], h => exact Nat.le_succ_of_le (h p List.mem_cons_self)
  | p :: q :: ps, h => exact heightOver_le h

/-- The size of pieces that are put together grows with their number. -/
theorem concat_cost_le (hmost : stateSize ≤ most) (h : ∀ p ∈ ps, p.cost ≤ most) :
    (concat ps).cost ≤ most * (ps.length + 1) := by
  match ps, h with
  | [], _ => simpa [concat, empty] using hmost
  | [p], h =>
      have hp := h p List.mem_cons_self
      simp only [concat, List.length_singleton]
      omega
  | p :: q :: ps, h => exact Nat.le_trans (costOf_le h) (Nat.mul_le_mul_left _ (Nat.le_succ _))

theorem le_concat_cost (h : ∀ p ∈ ps, least ≤ p.cost) : least * ps.length ≤ (concat ps).cost := by
  match ps, h with
  | [], _ => exact Nat.zero_le _
  | [p], h =>
      have hp := h p List.mem_cons_self
      simpa only [concat, List.length_singleton, Nat.mul_one] using hp
  | p :: q :: ps, h => exact le_costOf h

end Piece

/-- Whether the program for an expression is within the limit on sizes. -/
def IsWithinSize (text : List Char) : Prop :=
  ∀ p, parsePiece text = some p → p.cost ≤ Piece.costLimit

/-- An expression that can be read and does not nest too deeply is accepted if it is not too
large. -/
theorem parse_eq_some {text : List Char} {p : Piece} (hread : parsePiece text = some p)
    (hheight : p.height ≤ Piece.heightLimit) (hsize : IsWithinSize text) :
    parse text = some p.expr := by
  have hwithin : p.withinLimits = true := by
    rw [Piece.withinLimits, Bool.and_eq_true, decide_eq_true_eq, decide_eq_true_eq]
    exact ⟨hheight, hsize p hread⟩
  rw [parse, hread, Option.bind_some, if_pos hwithin]

end NavPolicy.Regex
