/-
  Cutting a list into pieces of a fixed size.
-/
import Mathlib

namespace Axtp

namespace Pieces

variable {α : Type*}

/-- The `i`-th piece of size `size`; the last one may be shorter. -/
def piece (size : ℕ) (l : List α) (i : ℕ) : List α := (l.drop (i * size)).take size

/-- The first `n` pieces. -/
def pieces (size n : ℕ) (l : List α) : List (List α) := (List.range n).map (piece size l)

@[simp] theorem length_pieces (size n : ℕ) (l : List α) : (pieces size n l).length = n := by
  simp [pieces]

theorem length_piece (size : ℕ) (l : List α) (i : ℕ) :
    (piece size l i).length = min size (l.length - i * size) := by
  simp [piece]

@[simp] theorem getElem_pieces (size n : ℕ) (l : List α) (i : ℕ)
    (h : i < (pieces size n l).length) : (pieces size n l)[i] = piece size l i := by
  simp [pieces]

/-- The first `n` pieces make up a prefix of the list. -/
theorem flatten_pieces (size n : ℕ) (l : List α) :
    (pieces size n l).flatten = l.take (n * size) := by
  induction n with
  | zero => simp [pieces]
  | succ n ih =>
    rw [pieces, List.range_succ, List.map_append, List.flatten_append, ← pieces, ih,
      List.map_singleton, List.flatten_singleton, piece, Nat.succ_mul, ← List.take_add]

theorem flatten_pieces_eq_iff (size n : ℕ) (l : List α) :
    (pieces size n l).flatten = l ↔ l.length ≤ n * size := by
  rw [flatten_pieces, List.take_eq_self_iff]

end Pieces

end Axtp
