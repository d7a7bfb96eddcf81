/-
  Words and the bits they consist of, the highest bit first.

  `word` makes a word of any width from bits, which it takes from the top, and
  `ofWord` gives the bits of a word back (`word_ofWord`).
-/
import Mathlib

namespace Axtp

namespace Bits

variable {w : ℕ}

/-- A bit at the top of a word. -/
def top (b : Bool) : BitVec w := if b then BitVec.intMin w else 0#w

/-- The bits as a word, the first one at the top. -/
def word : List Bool → BitVec w
  | [] => 0#w
  | b :: bits => top b ^^^ word bits >>> 1

/-- The bits of a word. -/
def ofWord (x : BitVec w) : List Bool := (List.range w).map x.getMsbD

theorem getMsbD_top (b : Bool) (i : ℕ) :
    (top b : BitVec w).getMsbD i = (b && decide (0 < w) && decide (i = 0)) := by
  cases b
  · simp [top]
  · rw [top, if_pos rfl, BitVec.getMsbD_intMin, Bool.true_and]

theorem getMsbD_word (bits : List Bool) (i : ℕ) :
    (word bits : BitVec w).getMsbD i = (bits.getD i false && decide (i < w)) := by
  induction bits generalizing i with
  | nil => simp [word]
  | cons b bits ih =>
    rw [word, BitVec.getMsbD_xor, getMsbD_top, BitVec.getMsbD_ushiftRight, ih]
    cases i with
    | zero => simp
    | succ i =>
      have : decide (i + 1 < w) = true → decide (i < w) = true := by
        simp only [decide_eq_true_eq]
        omega
      cases hw : decide (i + 1 < w) <;> simp_all

@[simp] theorem length_ofWord (x : BitVec w) : (ofWord x).length = w := by
  rw [ofWord, List.length_map, List.length_range]

theorem getD_ofWord (x : BitVec w) (i : ℕ) : (ofWord x).getD i false = x.getMsbD i := by
  by_cases hi : i < w
  · rw [List.getD_eq_getElem _ _ (by simpa using hi)]
    simp [ofWord]
  · rw [List.getD_eq_default _ _ (by simpa using hi), BitVec.getMsbD_of_ge _ _ (not_lt.mp hi)]

/-- A word is made of its bits. -/
theorem word_ofWord (x : BitVec w) : word (ofWord x) = x := by
  refine BitVec.eq_of_getMsbD_eq fun i hi => ?_
  rw [getMsbD_word, getD_ofWord, decide_eq_true hi, Bool.and_true]

theorem ofWord_xor (x y : BitVec w) :
    ofWord (x ^^^ y) = List.zipWith xor (ofWord x) (ofWord y) := by
  simp [ofWord, List.zipWith_map, List.zipWith_self]

/-- The bits of a word, the highest part first. -/
theorem ofWord_setWidth_add (x : BitVec w) (m n : ℕ) : ofWord (x.setWidth (m + n)) =
    ofWord ((x >>> n).setWidth m) ++ ofWord (x.setWidth n) := by
  refine List.ext_getElem (by simp) fun i hi _ => ?_
  simp only [length_ofWord] at hi
  by_cases hlt : i < m
  · have hindex : m + n - 1 - i = n + (m - 1 - i) := by omega
    rw [List.getElem_append_left (by simpa using hlt)]
    simp only [ofWord, List.getElem_map, List.getElem_range, BitVec.getMsbD,
      BitVec.getLsbD_setWidth, BitVec.getLsbD_ushiftRight, hindex, hi, hlt]
    simp [show n + (m - 1 - i) < m + n by omega, show m - 1 - i < m by omega]
  · have hindex : m + n - 1 - i = n - 1 - (i - m) := by omega
    rw [List.getElem_append_right (by simpa using hlt)]
    simp only [ofWord, List.getElem_map, List.getElem_range, BitVec.getMsbD,
      List.length_map, List.length_range, BitVec.getLsbD_setWidth, hindex, hi]
    simp [show n - 1 - (i - m) < m + n by omega, show n - 1 - (i - m) < n by omega,
      show i - m < n by omega]

end Bits

end Axtp
