/-
  Pairings that are entered one pair at a time.

  A pairing is a bijection between some elements of two types (Mathlib's `PEquiv`). A new
  pair displaces the pairs it shares a side with: at most one on each side. What a pairing
  holds after any sequence of entries is then said without replaying them: a pair is there
  if and only if it was entered, and every later entry that shares a side with it is the
  same pair again (`enterAll_eq_some_iff`).
-/
import Axtp.Lib.Since
import Mathlib.Data.List.Induction
import Mathlib.Data.PEquiv

namespace Axtp.Pairing

variable {α β : Type*} [DecidableEq α] [DecidableEq β]

/-! ### One entry -/

/-- One direction of a pairing after an entry: `a` leads to `b`, and no one else does. -/
def redirect (f : α → Option β) (a : α) (b : β) (x : α) : Option β :=
  if x = a then some b else if f x = some b then none else f x

theorem redirect_eq_some_iff {f : α → Option β} {a x : α} {b y : β} :
    redirect f a b x = some y ↔ (x = a ∧ y = b) ∨ (f x = some y ∧ x ≠ a ∧ y ≠ b) := by
  unfold redirect
  by_cases hxa : x = a
  · rw [if_pos hxa, Option.some_inj]
    constructor
    · intro h
      exact .inl ⟨hxa, h.symm⟩
    · rintro (⟨-, hy⟩ | ⟨-, hne, -⟩)
      · exact hy.symm
      · exact absurd hxa hne
  rw [if_neg hxa]
  by_cases hfx : f x = some b
  · -- `x` was the old partner of `b`
    rw [if_pos hfx, hfx, Option.some_inj]
    constructor
    · intro h
      cases h
    · rintro (⟨hx, -⟩ | ⟨hby, -, hne⟩)
      · exact absurd hx hxa
      · exact absurd hby.symm hne
  · rw [if_neg hfx]
    constructor
    · intro h
      refine .inr ⟨h, hxa, ?_⟩
      rintro rfl
      exact hfx h
    · rintro (⟨hx, -⟩ | ⟨h, -, -⟩)
      · exact absurd hx hxa
      · exact h

/-- Enter a pair. -/
def enter (f : α ≃. β) (a : α) (b : β) : α ≃. β where
  toFun := redirect f a b
  invFun := redirect f.symm b a
  inv x y := by
    rw [redirect_eq_some_iff, redirect_eq_some_iff, f.eq_some_iff, and_comm (a := y = b),
      and_comm (a := y ≠ b)]

theorem enter_apply (f : α ≃. β) (a : α) (b : β) : ⇑(enter f a b) = redirect f a b := rfl

theorem enter_symm_apply (f : α ≃. β) (a : α) (b : β) :
    ⇑(enter f a b).symm = redirect f.symm b a := rfl

/-- **After an entry** the new pair is there, and of the others those that share no side
with it. -/
theorem enter_eq_some_iff {f : α ≃. β} {a x : α} {b y : β} :
    enter f a b x = some y ↔ (x = a ∧ y = b) ∨ (f x = some y ∧ x ≠ a ∧ y ≠ b) :=
  redirect_eq_some_iff

/-! ### Any number of entries -/

/-- The pairing of a list of entries, the first one first. -/
def enterAll (entries : List (α × β)) : α ≃. β :=
  entries.foldl (fun f entry => enter f entry.1 entry.2) ⊥

theorem enterAll_concat (entries : List (α × β)) (a : α) (b : β) :
    enterAll (entries ++ [(a, b)]) = enter (enterAll entries) a b := by
  unfold enterAll
  rw [List.foldl_append]
  rfl

/-- An entry that shares no side with a pair, or is this pair. -/
def Spares (x : α) (y : β) (entry : α × β) : Prop :=
  (entry.1 = x → entry.2 = y) ∧ (entry.2 = y → entry.1 = x)

theorem enterAll_eq_some_iff_since {entries : List (α × β)} {x : α} {y : β} :
    enterAll entries x = some y ↔ Since (fun _ => Spares x y) (fun _ => (· = (x, y))) entries := by
  induction entries using List.reverseRecOn with
  | nil =>
    have hempty : enterAll ([] : List (α × β)) x = none := rfl
    rw [hempty]
    constructor
    · intro h
      cases h
    · intro h
      exact absurd h not_since_nil
  | append_singleton entries entry ih =>
    obtain ⟨a, b⟩ := entry
    rw [enterAll_concat, enter_eq_some_iff, since_concat, ih, Prod.mk.injEq, eq_comm (a := x),
      eq_comm (a := y)]
    constructor
    · rintro (hsame | ⟨hsince, hx, hy⟩)
      · exact .inl hsame
      · exact .inr ⟨hsince, fun h => absurd h.symm hx, fun h => absurd h.symm hy⟩
    · rintro (hsame | ⟨hsince, hleft, hright⟩)
      · exact .inl hsame
      · -- an entry that is spared on one side only by being the pair itself enters it anew
        by_cases hx : a = x
        · exact .inl ⟨hx, hleft hx⟩
        · exact .inr ⟨hsince, Ne.symm hx, fun h => hx (hright h.symm)⟩

/-- **The pairing of any entries** holds a pair if and only if it was entered and no later
entry gave one of its sides another partner. -/
theorem enterAll_eq_some_iff {entries : List (α × β)} {x : α} {y : β} :
    enterAll entries x = some y ↔
      ∃ before after, entries = before ++ (x, y) :: after ∧
        ∀ entry ∈ after, Spares x y entry := by
  rw [enterAll_eq_some_iff_since, since_iff_exists_forall]
  constructor
  · rintro ⟨before, entry, after, heq, rfl, hspares⟩
    exact ⟨before, after, heq, hspares⟩
  · rintro ⟨before, after, heq, hspares⟩
    exact ⟨before, _, after, heq, rfl, hspares⟩

end Axtp.Pairing
