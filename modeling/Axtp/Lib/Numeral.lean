/-
  Numerals in a base.

  `number b digits` is what digits denote, the most significant one first, as a loop
  that multiplies by the base reads them. Digits without a leading zero are the digits of
  their number (`digits_number`).
-/
import Mathlib.Data.Nat.Digits.Lemmas

namespace Axtp

namespace Numeral

variable {b : ℕ} {digits : List ℕ}

/-- The number of digits that follow those of a number. -/
def numberAfter (b : ℕ) (digits : List ℕ) (n : ℕ) : ℕ :=
  digits.foldl (fun n digit => n * b + digit) n

/-- The number of digits, the most significant one first. -/
def number (b : ℕ) (digits : List ℕ) : ℕ := numberAfter b digits 0

theorem numberAfter_nil (n : ℕ) : numberAfter b [] n = n := rfl

theorem numberAfter_cons (digit : ℕ) (digits : List ℕ) (n : ℕ) :
    numberAfter b (digit :: digits) n = numberAfter b digits (n * b + digit) := rfl

theorem numberAfter_eq (digits : List ℕ) (n : ℕ) :
    numberAfter b digits n = n * b ^ digits.length + Nat.ofDigits b digits.reverse := by
  induction digits generalizing n with
  | nil => simp [numberAfter]
  | cons digit digits ih =>
    rw [numberAfter_cons, ih, Nat.ofDigits_reverse_cons, List.length_cons, pow_succ]
    ring

theorem number_eq_ofDigits (digits : List ℕ) :
    number b digits = Nat.ofDigits b digits.reverse := by
  rw [number, numberAfter_eq, Nat.zero_mul, Nat.zero_add]

/-- More digits do not make a number smaller. -/
theorem le_numberAfter (hb : 0 < b) (digits : List ℕ) (n : ℕ) : n ≤ numberAfter b digits n := by
  rw [numberAfter_eq]
  have hpow : 0 < b ^ digits.length := Nat.pow_pos hb
  have hmul := Nat.le_mul_of_pos_right n hpow
  omega

/-- **Canonical numerals** are the digits of their number. -/
theorem digits_number (hb : 1 < b) (hlt : ∀ digit ∈ digits, digit < b)
    (hhead : digits.head? ≠ some 0) : (Nat.digits b (number b digits)).reverse = digits := by
  rw [number_eq_ofDigits, Nat.digits_ofDigits b hb, List.reverse_reverse]
  · intro digit hdigit
    exact hlt digit (List.mem_reverse.mp hdigit)
  · intro hne hlast
    apply hhead
    rw [List.getLast_reverse] at hlast
    rw [← hlast]
    exact List.head?_eq_some_head _

theorem number_digits (b n : ℕ) : number b (Nat.digits b n).reverse = n := by
  rw [number_eq_ofDigits, List.reverse_reverse, Nat.ofDigits_digits]

end Numeral

end Axtp
