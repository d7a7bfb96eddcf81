/-
  Collecting the parts of a list into slots, in any order.

  `fill xs S` is the slot list after exactly the parts of `xs` with index in `S`
  have arrived. Filling slot `i` adds `i` to `S` (`fill_set`), all slots are
  taken exactly when every index is in `S` (`fill_all_isSome`), and a full slot
  list gives back `xs` (`fill_reduceOption`). `weight` adds up the sizes of the
  taken slots; it only ever grows towards the total size (`weight_fill_insert`,
  `weight_fill_le`).
-/
import Mathlib

namespace Axtp.Slots

variable {α : Type*}

/-- The slots of `xs` with the parts in `S` arrived. -/
def fill (xs : List α) (S : Finset ℕ) : List (Option α) :=
  xs.mapIdx fun i x => if i ∈ S then some x else none

@[simp] theorem length_fill (xs : List α) (S : Finset ℕ) : (fill xs S).length = xs.length := by
  simp [fill]

theorem getElem_fill (xs : List α) (S : Finset ℕ) (i : ℕ) (h : i < (fill xs S).length) :
    (fill xs S)[i] = if i ∈ S then some (xs.get ⟨i, by simpa using h⟩) else none := by
  simp [fill]

theorem fill_empty (xs : List α) : fill xs ∅ = List.replicate xs.length none := by
  apply List.ext_getElem
  · simp
  · intro i h1 h2
    rw [getElem_fill, List.getElem_replicate, if_neg (Finset.notMem_empty i)]

/-- A part arrives. -/
theorem fill_set (xs : List α) (S : Finset ℕ) (i : ℕ) (h : i < xs.length) :
    (fill xs S).set i (some xs[i]) = fill xs (insert i S) := by
  apply List.ext_getElem
  · simp
  · intro j h1 h2
    rw [getElem_fill, List.getElem_set]
    by_cases hij : i = j
    · subst hij
      simp
    · rw [if_neg hij, getElem_fill]
      simp only [Finset.mem_insert, Ne.symm hij, false_or]

theorem fill_all_isSome (xs : List α) (S : Finset ℕ) :
    (∀ o ∈ fill xs S, o.isSome) ↔ ∀ i < xs.length, i ∈ S := by
  constructor
  · intro h i hi
    have ho := h _ (List.getElem_mem (l := fill xs S) (n := i) (by simpa using hi))
    rw [getElem_fill] at ho
    by_contra hS
    simp [hS] at ho
  · intro h o ho
    obtain ⟨i, hi, rfl⟩ := List.getElem_of_mem ho
    rw [getElem_fill, if_pos (h i (by simpa using hi))]
    rfl

/-- A full slot list gives back the parts, in index order. -/
theorem fill_reduceOption (xs : List α) (S : Finset ℕ) (h : ∀ i < xs.length, i ∈ S) :
    (fill xs S).reduceOption = xs := by
  have hfull : fill xs S = xs.map some := by
    apply List.ext_getElem
    · simp
    · intro i h1 h2
      rw [getElem_fill, if_pos (h i (by simpa using h1)), List.getElem_map, List.get_eq_getElem]
  rw [hfull, List.reduceOption, List.filterMap_map]
  exact List.filterMap_some

/-! ### Sizes -/

variable (size : α → ℕ)

/-- The total size of the parts present. -/
def weight (slots : List (Option α)) : ℕ := (slots.map fun o => (o.map size).getD 0).sum

theorem weight_replicate_none (n : ℕ) : weight size (List.replicate n none) = 0 := by
  simp [weight]

/-- Taking an empty slot adds the part's size. -/
theorem weight_set_some (slots : List (Option α)) (i : ℕ) (h : i < slots.length)
    (hnone : slots[i] = none) (x : α) :
    weight size (slots.set i (some x)) = weight size slots + size x := by
  induction slots generalizing i with
  | nil => simp at h
  | cons o slots ih =>
    cases i with
    | zero =>
      have ho : o = none := hnone
      subst ho
      simp [weight, Nat.add_comm]
    | succ i =>
      have := ih i (by simpa using h) (by simpa using hnone)
      simp only [weight, List.set_cons_succ, List.map_cons, List.sum_cons] at this ⊢
      omega

/-- A new part adds its size to the weight. -/
theorem weight_fill_insert (xs : List α) (S : Finset ℕ) (i : ℕ) (h : i < xs.length)
    (hi : i ∉ S) :
    weight size (fill xs (insert i S)) = weight size (fill xs S) + size xs[i] := by
  rw [← fill_set xs S i h]
  apply weight_set_some
  rw [getElem_fill, if_neg hi]
  simpa using h

theorem weight_fill_le (xs : List α) (S : Finset ℕ) :
    weight size (fill xs S) ≤ (xs.map size).sum := by
  unfold weight fill
  induction xs using List.reverseRecOn with
  | nil => simp
  | append_singleton xs x ih =>
    simp only [List.mapIdx_append, List.map_append, List.sum_append, List.mapIdx_cons,
      List.mapIdx_nil, List.map_cons, List.map_nil, List.sum_cons, List.sum_nil]
    split_ifs
    · simpa using ih
    · simp
      omega

end Axtp.Slots
