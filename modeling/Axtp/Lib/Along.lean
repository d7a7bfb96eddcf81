/-
  Runs that meet a condition at every step.

  `Along step P s as` says that `P` holds of the state and the input at each step of the
  run. The rule is that of a run, with the condition at hand: what a step that meets it
  preserves of the state together with all outputs so far, the run preserves
  (`Along.trace_invariant`).
-/
import Axtp.Lib.Run

namespace Axtp

open Run

variable {σ α β : Type*} {step : σ → α → σ × List β} {P Q : σ → α → Prop}

/-- Every step of the run meets the condition. -/
def Along (step : σ → α → σ × List β) (P : σ → α → Prop) : σ → List α → Prop
  | _, [] => True
  | s, a :: as => P s a ∧ Along step P (step s a).1 as

instance decidableAlong (step : σ → α → σ × List β) (P : σ → α → Prop)
    [∀ s a, Decidable (P s a)] : ∀ (s : σ) (as : List α), Decidable (Along step P s as)
  | _, [] => .isTrue trivial
  | s, a :: as =>
    have := decidableAlong step P (step s a).1 as
    inferInstanceAs (Decidable (P s a ∧ Along step P (step s a).1 as))

theorem Along.imp {s : σ} {as : List α} (h : Along step P s as) (hPQ : ∀ s a, P s a → Q s a) :
    Along step Q s as := by
  induction as generalizing s with
  | nil => trivial
  | cons a as ih => exact ⟨hPQ s a h.1, ih h.2⟩

theorem Along.append {s : σ} {as bs : List α} (h : Along step P s as)
    (h' : Along step P (run step s as).1 bs) : Along step P s (as ++ bs) := by
  induction as generalizing s with
  | nil => exact h'
  | cons a as ih => exact ⟨h.1, ih h.2 h'⟩

/-- **Trace rule** for runs that meet a condition. -/
theorem Along.trace_invariant {I : σ → List β → Prop} {s : σ} {as : List α} {out : List β}
    (h : Along step P s as)
    (hstep : ∀ s out a, I s out → P s a → I (step s a).1 (out ++ (step s a).2)) (hs : I s out) :
    I (run step s as).1 (out ++ (run step s as).2) := by
  induction as generalizing s out with
  | nil =>
    rw [run_nil, List.append_nil]
    exact hs
  | cons a as ih =>
    rw [run_cons, ← List.append_assoc]
    exact ih h.2 (hstep s out a hs h.1)

end Axtp
