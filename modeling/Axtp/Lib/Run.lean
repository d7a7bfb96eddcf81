/-
  Runs of a machine that answers each input with any number of outputs, and
  sinks: machines that may refuse an input by throwing.

  A machine is a function `σ → α → σ × List β`. `run` feeds it a list of inputs
  and collects the outputs in order. The rules below are the ones every
  development over such machines needs: a run splits at an append
  (`run_append`), an invariant of one step is an invariant of a run
  (`run_invariant`), also of the state together with the outputs so far
  (`run_trace_invariant`), and outputs that each step pays for are bounded by the
  budget at the start (`run_countP_le`).

  A sink is a machine without outputs whose step may end by an exception; the
  state it reached stays. `Sink.feed` hands it a list of inputs and stops at the
  first throw; behind a machine it is fed the outputs of the machine's run
  (`feed_through`).
-/
import Mathlib

namespace Axtp

/-! ### Machines with outputs -/

namespace Run

variable {σ τ α β γ : Type*}

/-- Feed the inputs to the machine `step`, collecting the outputs in order. -/
def run (step : σ → α → σ × List β) : σ → List α → σ × List β
  | s, [] => (s, [])
  | s, a :: as => ((run step (step s a).1 as).1, (step s a).2 ++ (run step (step s a).1 as).2)

@[simp] theorem run_nil (step : σ → α → σ × List β) (s : σ) : run step s [] = (s, []) := rfl

theorem run_cons (step : σ → α → σ × List β) (s : σ) (a : α) (as : List α) :
    run step s (a :: as) =
      ((run step (step s a).1 as).1, (step s a).2 ++ (run step (step s a).1 as).2) := rfl

/-- A run splits at an append of its inputs. -/
theorem run_append (step : σ → α → σ × List β) (s : σ) (as bs : List α) :
    run step s (as ++ bs) =
      ((run step (run step s as).1 bs).1,
        (run step s as).2 ++ (run step (run step s as).1 bs).2) := by
  induction as generalizing s with
  | nil => simp
  | cons a as ih => simp only [List.cons_append, run_cons, ih, List.append_assoc]

theorem run_singleton (step : σ → α → σ × List β) (s : σ) (a : α) :
    run step s [a] = step s a := by
  simp [run_cons]

/-- **Invariant rule**: what one step preserves, a run preserves. -/
theorem run_invariant {step : σ → α → σ × List β} {I : σ → Prop} {s : σ} {as : List α}
    (hstep : ∀ s, I s → ∀ a ∈ as, I (step s a).1) (hs : I s) : I (run step s as).1 := by
  induction as generalizing s with
  | nil => exact hs
  | cons a as ih =>
    rw [run_cons]
    exact ih (fun s hs b hb => hstep s hs b (List.mem_cons_of_mem _ hb))
      (hstep s hs a (List.mem_cons_self ..))

/-- **Trace rule**: what each step preserves of its state together with all outputs so far, a run
preserves. -/
theorem run_trace_invariant {step : σ → α → σ × List β} {I : σ → List β → Prop} {s : σ}
    {as : List α} {out : List β}
    (hstep : ∀ s out, I s out → ∀ a ∈ as, I (step s a).1 (out ++ (step s a).2))
    (hs : I s out) : I (run step s as).1 (out ++ (run step s as).2) := by
  induction as generalizing s out with
  | nil =>
    rw [run_nil, List.append_nil]
    exact hs
  | cons a as ih =>
    rw [run_cons, ← List.append_assoc]
    exact ih (fun s out hs b hb => hstep s out hs b (List.mem_cons_of_mem _ hb))
      (hstep s out hs a (List.mem_cons_self ..))

/-- **Budget rule**: if every step pays for the outputs of a kind out of a budget, a run has at most
as many of them as the budget at its start. -/
theorem run_countP_le {step : σ → α → σ × List β} {I : σ → Prop} {P : β → Bool} {B : σ → ℕ}
    {s : σ} {as : List α}
    (hstep : ∀ s, I s → ∀ a ∈ as,
      I (step s a).1 ∧ (step s a).2.countP P + B (step s a).1 ≤ B s)
    (hs : I s) : (run step s as).2.countP P ≤ B s := by
  induction as generalizing s with
  | nil => simp
  | cons a as ih =>
    obtain ⟨hinv, hpaid⟩ := hstep s hs a (List.mem_cons_self ..)
    have := ih (fun s hs b hb => hstep s hs b (List.mem_cons_of_mem _ hb)) hinv
    rw [run_cons, List.countP_append]
    omega

/-- A machine with one output to a step: an output is that of one of the steps, with the outputs
before it and after it those of the steps before and after. -/
theorem exists_of_run_eq_append {step : σ → α → σ × List β} (h1 : ∀ s a, ∃ b, (step s a).2 = [b])
    {s : σ} {as : List α} {xs ys : List β} {b : β} (h : (run step s as).2 = xs ++ b :: ys) :
    ∃ before a after, as = before ++ a :: after ∧ xs = (run step s before).2 ∧
      (step (run step s before).1 a).2 = [b] ∧
      ys = (run step (step (run step s before).1 a).1 after).2 := by
  induction as generalizing s xs with
  | nil => simp at h
  | cons a as ih =>
    obtain ⟨b', hb'⟩ := h1 s a
    simp only [run_cons, hb', List.singleton_append] at h
    rcases xs with _ | ⟨x, xs⟩
    · obtain ⟨rfl, rfl⟩ := List.cons.inj h
      exact ⟨[], a, as, rfl, rfl, hb', rfl⟩
    · rw [List.cons_append, List.cons.injEq] at h
      obtain ⟨rfl, htail⟩ := h
      obtain ⟨before, a', after, rfl, rfl, hstep, rfl⟩ := ih htail
      refine ⟨a :: before, a', after, rfl, ?_, hstep, rfl⟩
      rw [run_cons, hb', List.singleton_append]

end Run

/-! ### Sinks that may throw -/

/-- How a call ends: it returns, or it exits by an exception. -/
inductive Exit where
  | returned
  | threw
  deriving DecidableEq, Repr

/-- A consumer of `α` with state `σ`; what it did before it threw stays done. -/
abbrev Sink (σ α : Type*) := σ → α → σ × Exit

namespace Sink

variable {σ α : Type*}

/-- Hand the inputs to the sink one by one, up to the first throw. -/
def feed (sink : Sink σ α) : σ → List α → σ × Exit
  | s, [] => (s, .returned)
  | s, a :: as =>
    match sink s a with
    | (s', .returned) => feed sink s' as
    | (s', .threw) => (s', .threw)

/-- A sink that collects what it is handed. -/
def collect : Sink (List α) α := fun s a => (s ++ [a], .returned)

@[simp] theorem feed_nil (sink : Sink σ α) (s : σ) : feed sink s [] = (s, .returned) := rfl

theorem feed_append (sink : Sink σ α) (s : σ) (as bs : List α) :
    feed sink s (as ++ bs) =
      match feed sink s as with
      | (s', .returned) => feed sink s' bs
      | (s', .threw) => (s', .threw) := by
  induction as generalizing s with
  | nil => rfl
  | cons a as ih =>
    simp only [List.cons_append, feed]
    rcases sink s a with ⟨s', _ | _⟩
    · exact ih s'
    · rfl

theorem feed_collect (s as : List α) : feed collect s as = (s ++ as, .returned) := by
  induction as generalizing s with
  | nil => simp
  | cons a as ih =>
    simp only [feed, collect]
    rw [ih, List.append_assoc, List.singleton_append]

/-- **Invariant rule** for sinks: what the sink preserves on each input it is handed, whether it
returns or throws, holds after feeding them. -/
theorem feed_invariant {sink : Sink σ α} {I : σ → Prop} {s : σ} {as : List α}
    (hstep : ∀ s, I s → ∀ a ∈ as, I (sink s a).1) (hs : I s) : I (feed sink s as).1 := by
  induction as generalizing s with
  | nil => exact hs
  | cons a as ih =>
    have ha := hstep s hs a (List.mem_cons_self ..)
    simp only [feed]
    rcases h : sink s a with ⟨s', _ | _⟩
    · rw [h] at ha
      exact ih (fun s hs b hb => hstep s hs b (List.mem_cons_of_mem _ hb)) ha
    · rw [h] at ha; exact ha

/-- A sink that never throws is handed all the inputs. -/
theorem feed_of_returned {sink : Sink σ α} (h : ∀ s a, (sink s a).2 = .returned) (s : σ)
    (as : List α) : feed sink s as = (as.foldl (fun s a => (sink s a).1) s, .returned) := by
  induction as generalizing s with
  | nil => rfl
  | cons a as ih =>
    have ha := h s a
    simp only [feed, List.foldl_cons]
    rcases hcall : sink s a with ⟨s', _ | _⟩ <;> rw [hcall] at ha
    · exact ih s'
    · cases ha

/-- A machine in front of a sink: each input makes one step of the machine, whose outputs are
then handed to the sink. -/
def through {τ β : Type*} (step : σ → α → σ × List β) (sink : Sink τ β) : Sink (σ × τ) α :=
  fun s a =>
    (((step s.1 a).1, (feed sink s.2 (step s.1 a).2).1), (feed sink s.2 (step s.1 a).2).2)

/-- **A machine in front of a sink**: the sink is fed the outputs of the machine's run, and unless
it throws the machine ends where its run ends. -/
theorem feed_through {τ β : Type*} (step : σ → α → σ × List β) (sink : Sink τ β) (s : σ) (t : τ)
    (as : List α) :
    (feed (through step sink) (s, t) as).1.2 = (feed sink t (Run.run step s as).2).1 ∧
      (feed (through step sink) (s, t) as).2 = (feed sink t (Run.run step s as).2).2 ∧
      ((feed (through step sink) (s, t) as).2 = .returned →
        (feed (through step sink) (s, t) as).1.1 = (Run.run step s as).1) := by
  induction as generalizing s t with
  | nil => exact ⟨rfl, rfl, fun _ => rfl⟩
  | cons a as ih =>
    rw [Run.run_cons, feed_append]
    rcases hstep : feed sink t (step s a).2 with ⟨t', _ | _⟩
    · simp only [feed, through, hstep]
      exact ih _ _
    · simp [feed, through, hstep]

/-- **Prefix rule**: what the sink preserves of its state together with the inputs it was handed,
holds after feeding it, for the inputs up to where it threw. -/
theorem feed_prefix {sink : Sink σ α} {I : List α → σ → Prop} {s : σ} {all done as : List α}
    (hall : all = done ++ as)
    (hstep : ∀ done a rest, all = done ++ a :: rest → ∀ s, I done s →
      I (done ++ [a]) (sink s a).1)
    (hs : I done s) : ∃ done rest, all = done ++ rest ∧ I done (feed sink s as).1 := by
  induction as generalizing done s with
  | nil => exact ⟨done, [], hall, hs⟩
  | cons a as ih =>
    have ha := hstep done a as hall s hs
    simp only [feed]
    rcases h : sink s a with ⟨s', _ | _⟩
    · rw [h] at ha
      exact ih (by rw [hall, List.append_assoc, List.singleton_append]) ha
    · rw [h] at ha
      exact ⟨done ++ [a], as, by rw [hall, List.append_assoc, List.singleton_append], ha⟩

end Sink

end Axtp
