/-
  Searches around a cycle.

  A do-while loop tries one candidate after the other and gives up when the next one is
  the first again. Where the candidates come back to the first after `period` steps and
  not before, the loop ends within that many turns, and it finds a candidate if and only
  if there is one on the cycle.
-/
import Mathlib.Data.Nat.Find
import Mathlib.Logic.Function.Iterate

namespace Axtp.Cycle

variable {α : Type*} [DecidableEq α]

/-- The loop, for at most the given number of turns: `none` if these do not suffice, otherwise
the candidate that was found, if one was. -/
def search (next : α → α) (found : α → Bool) (first : α) : ℕ → α → Option (Option α)
  | 0, _ => none
  | turns + 1, candidate =>
    if found candidate then some (some candidate)
    else if next candidate = first then some none
    else search next found first turns (next candidate)

variable {next : α → α} {found : α → Bool} {first : α}

theorem search_succ (turns : ℕ) (candidate : α) :
    search next found first (turns + 1) candidate =
      if found candidate then some (some candidate)
      else if next candidate = first then some none
      else search next found first turns (next candidate) := rfl

/-- `distance` turns without a find, and then one. -/
theorem search_eq_of_found {distance turns : ℕ} {candidate : α}
    (hpassed : ∀ i < distance, found (next^[i] candidate) = false ∧
      next^[i + 1] candidate ≠ first)
    (hfound : found (next^[distance] candidate) = true) (hturns : distance < turns) :
    search next found first turns candidate = some (some (next^[distance] candidate)) := by
  induction distance generalizing turns candidate with
  | zero =>
    obtain ⟨turns, rfl⟩ := Nat.exists_eq_add_one_of_ne_zero (show turns ≠ 0 by omega)
    exact if_pos hfound
  | succ distance ih =>
    obtain ⟨turns, rfl⟩ := Nat.exists_eq_add_one_of_ne_zero (show turns ≠ 0 by omega)
    obtain ⟨hnot, hne'⟩ := hpassed 0 (by omega)
    have hne : next candidate ≠ first := hne'
    have hnot' : ¬ found candidate = true := by
      intro h
      rw [Function.iterate_zero_apply, h] at hnot
      cases hnot
    rw [search_succ, if_neg hnot', if_neg hne, Function.iterate_succ_apply]
    apply ih
    · intro i hi
      have hpassed' := hpassed (i + 1) (by omega)
      rw [Function.iterate_succ_apply, Function.iterate_succ_apply] at hpassed'
      exact hpassed'
    · exact hfound
    · omega

/-- `distance` turns without a find, and then one that leads back to the first. -/
theorem search_eq_of_back {distance turns : ℕ} {candidate : α}
    (hpassed : ∀ i < distance, next^[i + 1] candidate ≠ first)
    (hnot : ∀ i ≤ distance, found (next^[i] candidate) = false)
    (hback : next^[distance + 1] candidate = first) (hturns : distance < turns) :
    search next found first turns candidate = some none := by
  induction distance generalizing turns candidate with
  | zero =>
    obtain ⟨turns, rfl⟩ := Nat.exists_eq_add_one_of_ne_zero (show turns ≠ 0 by omega)
    have hnot' : found candidate = false := hnot 0 le_rfl
    have hfirst : next candidate = first := hback
    rw [search_succ, if_neg (by rw [hnot']; exact Bool.false_ne_true), if_pos hfirst]
  | succ distance ih =>
    obtain ⟨turns, rfl⟩ := Nat.exists_eq_add_one_of_ne_zero (show turns ≠ 0 by omega)
    have hnot' : found candidate = false := hnot 0 (by omega)
    have hne : next candidate ≠ first := hpassed 0 (by omega)
    rw [search_succ, if_neg (by rw [hnot']; exact Bool.false_ne_true), if_neg hne]
    -- the same three facts, seen from the next candidate
    apply ih
    · intro i hi
      have hpassed' := hpassed (i + 1) (by omega)
      rw [Function.iterate_succ_apply] at hpassed'
      exact hpassed'
    · intro i hi
      have hnot' := hnot (i + 1) (by omega)
      rw [Function.iterate_succ_apply] at hnot'
      exact hnot'
    · rw [Function.iterate_succ_apply] at hback
      exact hback
    · omega

/-- The candidates come back to the first after `period` steps and not before. -/
structure IsCycle (next : α → α) (first : α) (period : ℕ) : Prop where
  pos : 0 < period
  back : next^[period] first = first
  away : ∀ i, 0 < i → i < period → next^[i] first ≠ first

variable {period turns : ℕ}

/-- **Some candidate on the cycle** suffices for one to be found. -/
theorem IsCycle.search_isSome (h : IsCycle next first period) (found : α → Bool) {i : ℕ}
    (hi : i < period) (hfound : found (next^[i] first) = true) :
    ∃ j < period, found (next^[j] first) = true ∧
      ∀ turns ≥ period, search next found first turns first = some (some (next^[j] first)) := by
  -- the nearest one is found
  classical
  have hex : ∃ j, found (next^[j] first) = true := ⟨i, hfound⟩
  have hle := Nat.find_min' hex hfound
  refine ⟨Nat.find hex, by omega, Nat.find_spec hex, fun turns hturns => ?_⟩
  apply search_eq_of_found
  · intro j hj
    refine ⟨?_, h.away (j + 1) (by omega) (by omega)⟩
    have hmin := Nat.find_min hex hj
    rwa [Bool.not_eq_true] at hmin
  · exact Nat.find_spec hex
  · omega

/-- **No candidate on the cycle**: the search comes back to the first and gives up. -/
theorem IsCycle.search_eq_none (h : IsCycle next first period) (hturns : period ≤ turns)
    (hnot : ∀ i < period, found (next^[i] first) = false) :
    search next found first turns first = some none := by
  have hpos := h.pos
  obtain ⟨distance, rfl⟩ := Nat.exists_eq_add_one_of_ne_zero (show period ≠ 0 by omega)
  have haway : ∀ i < distance, next^[i + 1] first ≠ first := by
    intro i hi
    exact h.away (i + 1) (by omega) (by omega)
  exact search_eq_of_back haway (fun i hi => hnot i (by omega)) h.back (by omega)

end Axtp.Cycle
