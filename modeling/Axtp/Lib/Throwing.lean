/-
  Computations on a state that return a value or throw.

  What a computation did before it threw stays done. `attempt` catches, and
  `repeatWithin` is a loop with a bound on its turns. Three kinds of rules follow a
  computation through its parts. Those of `Keeps` are for relations between the state
  before and the state after: if the relation is a preorder, a computation keeps it
  whenever its parts do, so that a part which is only known to keep it, such as code of
  somebody else, can stand anywhere. Those of `Returns` say that nothing is thrown, and
  those of `Yields` what is true of every value. A loop is judged by its turns: where
  each turn without a value brings a measure down (`Advances`), a bound above the
  measure is as good as none (`repeatWithin_eq`).
-/
import Mathlib

namespace Axtp

/-- From a state: the state afterwards, and the value unless it threw. -/
def Throwing (S : Type) (α : Type) : Type := S → S × Option α

namespace Throwing

variable {S α β : Type}

def pure (a : α) : Throwing S α := fun s => (s, some a)

def bind (m : Throwing S α) (f : α → Throwing S β) : Throwing S β := fun s =>
  match m s with
  | (s, none) => (s, none)
  | (s, some a) => f a s

instance : Monad (Throwing S) where
  pure := pure
  bind := bind

def get : Throwing S S := fun s => (s, some s)

def modify (f : S → S) : Throwing S Unit := fun s => (f s, some ())

/-- A change of the state that yields a value. -/
def update (f : S → S × α) : Throwing S α := fun s => ((f s).1, some (f s).2)

/-- A `try` block that swallows the exception; `none` where there was one. -/
def attempt (m : Throwing S α) : Throwing S (Option α) := fun s => ((m s).1, some (m s).2)

/-- A `throw`. -/
def throw : Throwing S α := fun s => (s, none)

/-- Turn after turn until one yields a value, for fewer turns than given; a loop that is given too
few turns throws. -/
def repeatWithin (turn : Throwing S (Option α)) : ℕ → Throwing S α
  | 0 => throw
  | turns + 1 => do
    match ← turn with
    | some a => Throwing.pure a
    | none => repeatWithin turn turns

/-! ### Evaluation -/

theorem bind_of_returned {m : Throwing S α} {s s' : S} {a : α} (h : m s = (s', some a))
    (f : α → Throwing S β) : (m >>= f) s = f a s' := by
  show bind m f s = f a s'
  rw [bind, h]

theorem bind_of_threw {m : Throwing S α} {s s' : S} (h : m s = (s', none))
    (f : α → Throwing S β) : (m >>= f) s = (s', none) := by
  show bind m f s = (s', none)
  rw [bind, h]

/-- A bind that returns went through a value of its first part. -/
theorem returned_of_bind {m : Throwing S α} {f : α → Throwing S β} {s s'' : S} {b : β}
    (h : (m >>= f) s = (s'', some b)) : ∃ s' a, m s = (s', some a) ∧ f a s' = (s'', some b) := by
  rcases hfirst : m s with ⟨s', _ | a⟩
  · rw [bind_of_threw hfirst] at h
    cases congrArg Prod.snd h
  · rw [bind_of_returned hfirst] at h
    exact ⟨s', a, rfl, h⟩

/-! ### Relations that are kept -/

/-- The computation relates the state it starts in to the state it leaves, however it ends. -/
def Keeps (R : S → S → Prop) (m : Throwing S α) : Prop := ∀ s, R s (m s).1

variable {R : S → S → Prop}

section Preorder

variable [IsPreorder S R]

theorem keeps_pure (a : α) : Keeps R (Pure.pure a : Throwing S α) := fun s => refl_of R s

theorem keeps_get : Keeps R (get : Throwing S S) := fun s => refl_of R s

theorem Keeps.bind {m : Throwing S α} {f : α → Throwing S β} (hm : Keeps R m)
    (hf : ∀ a, Keeps R (f a)) : Keeps R (m >>= f) := by
  intro s
  have hfirst := hm s
  rcases hresult : m s with ⟨s', _ | a⟩ <;> rw [hresult] at hfirst
  · rw [bind_of_threw hresult]
    exact hfirst
  · rw [bind_of_returned hresult]
    exact trans_of R hfirst (hf a s')

end Preorder

theorem keeps_modify {f : S → S} (h : ∀ s, R s (f s)) : Keeps R (modify f) := h

theorem keeps_update {f : S → S × α} (h : ∀ s, R s (f s).1) : Keeps R (update f) := h

theorem Keeps.attempt {m : Throwing S α} (h : Keeps R m) : Keeps R (attempt m) := h

/-! ### Values -/

/-- Whenever the computation returns, its value is as said. -/
def Yields (P : α → Prop) (m : Throwing S α) : Prop := ∀ s s' a, m s = (s', some a) → P a

section Yields

variable {P : α → Prop} {Q : β → Prop} {m : Throwing S α} {f : α → Throwing S β}

theorem yields_pure {a : α} (h : P a) : Yields P (Pure.pure a : Throwing S α) := by
  intro s s' a' hreturned
  obtain rfl : a = a' := Option.some.inj (congrArg Prod.snd hreturned)
  exact h

theorem Yields.bind (hm : Yields P m) (hf : ∀ a, P a → Yields Q (f a)) : Yields Q (m >>= f) := by
  intro s s'' b hreturned
  obtain ⟨s', a, hfirst, hsecond⟩ := returned_of_bind hreturned
  exact hf a (hm s s' a hfirst) s' s'' b hsecond

/-- The rule for a first part of which nothing is known. -/
theorem yields_bind (hf : ∀ a, Yields Q (f a)) : Yields Q (m >>= f) := by
  intro s s'' b hreturned
  obtain ⟨s', a, -, hsecond⟩ := returned_of_bind hreturned
  exact hf a s' s'' b hsecond

theorem yields_pure_some {a : α} (h : P a) :
    Yields (∀ b ∈ ·, P b) (Pure.pure (some a) : Throwing S (Option α)) := by
  refine yields_pure fun b hb => ?_
  obtain rfl := Option.some.inj hb
  exact h

theorem yields_pure_none : Yields (∀ b ∈ ·, P b) (Pure.pure none : Throwing S (Option α)) :=
  yields_pure fun b hb => absurd hb (Option.not_mem_none b)

theorem Yields.some (hm : Yields P m) :
    Yields (∀ b ∈ ·, P b) (do return Option.some (← m) : Throwing S (Option α)) :=
  hm.bind fun _ ha => yields_pure_some ha

theorem yields_attempt (hm : Yields P m) : Yields (∀ a ∈ ·, P a) (attempt m) := by
  intro s s' result hreturned a hresult
  have hvalue : (m s).2 = result := Option.some.inj (congrArg Prod.snd hreturned)
  rw [hresult] at hvalue
  exact hm s (m s).1 a (Prod.ext rfl hvalue)

theorem yields_repeatWithin {turn : Throwing S (Option α)} (hturn : Yields (∀ a ∈ ·, P a) turn)
    (turns : ℕ) : Yields P (repeatWithin turn turns) := by
  induction turns with
  | zero =>
    intro s s' a hreturned
    cases congrArg Prod.snd hreturned
  | succ turns ih =>
    refine hturn.bind fun result hresult => ?_
    rcases result with _ | a
    · exact ih
    · exact yields_pure (hresult a rfl)

end Yields

/-! ### Computations that return -/

/-- The computation throws from no state. -/
def Returns (m : Throwing S α) : Prop := ∀ s, ∃ s' a, m s = (s', some a)

theorem returns_pure (a : α) : Returns (Pure.pure a : Throwing S α) := fun s => ⟨s, a, rfl⟩

theorem returns_get : Returns (get : Throwing S S) := fun s => ⟨s, s, rfl⟩

theorem returns_update (f : S → S × α) : Returns (update f) := fun s => ⟨(f s).1, (f s).2, rfl⟩

theorem returns_modify (f : S → S) : Returns (modify f) := fun s => ⟨f s, (), rfl⟩

theorem returns_attempt (m : Throwing S α) : Returns (attempt m) := fun s => ⟨(m s).1, (m s).2, rfl⟩

theorem Returns.bind {m : Throwing S α} {f : α → Throwing S β} (hm : Returns m)
    (hf : ∀ a, Returns (f a)) : Returns (m >>= f) := by
  intro s
  obtain ⟨s', a, hfirst⟩ := hm s
  rw [bind_of_returned hfirst]
  exact hf a s'

theorem Returns.value {m : Throwing S α} (hm : Returns m) (f : α → β) :
    Returns (do return f (← m) : Throwing S β) :=
  hm.bind fun a => returns_pure (f a)

/-! ### Loops -/

/-- What a turn that yields no value does to the state. -/
def Advances (D : S → S → Prop) (turn : Throwing S (Option α)) : Prop :=
  ∀ s s', turn s = (s', some none) → D s s'

section Advances

variable {D : S → S → Prop} {turn : Throwing S (Option α)}

theorem advances_of_yields (h : Yields (· ≠ none) turn) : Advances D turn :=
  fun s s' hreturned => absurd rfl (h s s' none hreturned)

/-- What keeps a relation may come before, if the way of the rest is no shorter for it. -/
theorem Advances.bind {m : Throwing S β} {f : β → Throwing S (Option α)} (hm : Keeps R m)
    (hf : ∀ b, Advances D (f b)) (hD : ∀ s₁ s₂ s₃, R s₁ s₂ → D s₂ s₃ → D s₁ s₃) :
    Advances D (m >>= f) := by
  intro s s'' hreturned
  obtain ⟨s', b, hfirst, hsecond⟩ := returned_of_bind hreturned
  have hkept := hm s
  rw [hfirst] at hkept
  exact hD s s' s'' hkept (hf b s' s'' hsecond)

/-- Where the first part yields no value either, the ways of the two parts add up. -/
theorem Advances.bind_none {D₁ D₂ : S → S → Prop} {m : Throwing S (Option β)}
    {f : Option β → Throwing S (Option α)} (hm : Advances D₁ m)
    (hsome : ∀ b, Yields (· ≠ none) (f (some b))) (hnone : Advances D₂ (f none))
    (hD : ∀ s₁ s₂ s₃, D₁ s₁ s₂ → D₂ s₂ s₃ → D s₁ s₃) : Advances D (m >>= f) := by
  intro s s'' hreturned
  obtain ⟨s', result, hfirst, hsecond⟩ := returned_of_bind hreturned
  rcases result with _ | b
  · exact hD s s' s'' (hm s s' hfirst) (hnone s' s'' hsecond)
  · exact absurd rfl (hsome b s' s'' none hsecond)

variable {μ : S → ℕ}

/-- Every bound above the measure gives the same run. -/
theorem repeatWithin_eq (hturn : Advances (μ · > μ ·) turn) {turns turns' : ℕ} {s : S}
    (h : μ s < turns) (h' : μ s < turns') :
    repeatWithin turn turns s = repeatWithin turn turns' s := by
  -- the state varies with the turns, and so does the other bound
  induction turns generalizing turns' s with
  | zero => omega
  | succ turns ih =>
    obtain ⟨turns', rfl⟩ : ∃ n, turns' = n + 1 := ⟨turns' - 1, by omega⟩
    rw [repeatWithin, repeatWithin]
    rcases hresult : turn s with ⟨s', _ | result⟩
    · rw [bind_of_threw hresult, bind_of_threw hresult]
    · rw [bind_of_returned hresult, bind_of_returned hresult]
      rcases result with _ | a
      · have hless : μ s' < μ s := hturn s s' hresult
        exact ih (by omega) (by omega)
      · rfl

/-- A loop whose turns do not throw ends with a value. -/
theorem Returns.repeatWithin (hreturns : Returns turn) (hturn : Advances (μ · > μ ·) turn)
    {turns : ℕ} {s : S} (h : μ s < turns) : ∃ s' a, repeatWithin turn turns s = (s', some a) := by
  induction turns generalizing s with
  | zero => omega
  | succ turns ih =>
    obtain ⟨s', result, hresult⟩ := hreturns s
    rw [Throwing.repeatWithin, bind_of_returned hresult]
    rcases result with _ | a
    · have hless : μ s' < μ s := hturn s s' hresult
      exact ih (by omega)
    · exact ⟨s', a, rfl⟩

end Advances

end Throwing

end Axtp
