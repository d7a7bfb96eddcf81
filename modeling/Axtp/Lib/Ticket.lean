/-
  Tickets: good for one answer.

  A ticket is expected once; the first answer that comes in after that is kept until
  it is taken; an abandoned ticket is dead. A machine that keeps many of them is
  described one ticket at a time: `other` is a call about another ticket.

  Whatever the order of the calls, a ticket is accepted at most once
  (`count_accepted_le`), gives at most one answer (`count_taken_le`), namely the first
  that came in after it was accepted (`exists_of_take`), and none once it was abandoned
  or its answer was taken (`no_take_after`).
-/
import Axtp.Lib.Run

namespace Axtp

open Run

inductive Ticket (π : Type*) where
  | fresh
  | pending
  | resolved (answer : π)
  | spent

inductive TicketCall (π : Type*) where
  | expect
  | resolve (answer : π)
  | abandon
  | take
  | other

/-- A call with what it returned. -/
inductive TicketEvent (π : Type*) where
  | expect (accepted : Bool)
  | resolve (answer : π)
  | abandon
  | take (answer : Option π)
  | other

/-- The ticket was accepted. -/
def TicketEvent.isAccepted {π : Type*} : TicketEvent π → Bool
  | expect accepted => accepted
  | _ => false

/-- An answer was taken. -/
def TicketEvent.isTaken {π : Type*} : TicketEvent π → Bool
  | take answer => answer.isSome
  | _ => false

/-- The ticket was abandoned, or its answer was taken. -/
def TicketEvent.isLast {π : Type*} : TicketEvent π → Bool
  | abandon => true
  | e => e.isTaken

namespace Ticket

variable {π : Type*}

/-- One call, and its event. -/
def call : Ticket π → TicketCall π → Ticket π × List (TicketEvent π)
  | fresh, .expect => (pending, [.expect true])
  | ticket, .expect => (ticket, [.expect false])
  | pending, .resolve answer => (resolved answer, [.resolve answer])
  | ticket, .resolve answer => (ticket, [.resolve answer])
  | _, .abandon => (spent, [.abandon])
  | resolved answer, .take => (spent, [.take (some answer)])
  | ticket, .take => (ticket, [.take none])
  | ticket, .other => (ticket, [.other])

theorem exists_event (ticket : Ticket π) (c : TicketCall π) : ∃ e, (ticket.call c).2 = [e] := by
  cases ticket <;> cases c <;> exact ⟨_, rfl⟩

/-! ### At most once -/

/-- How often the ticket can still be accepted. -/
def acceptsLeft : Ticket π → ℕ
  | fresh => 1
  | _ => 0

/-- How many answers can still be taken. -/
def takesLeft : Ticket π → ℕ
  | spent => 0
  | _ => 1

theorem acceptsLeft_le_one (ticket : Ticket π) : ticket.acceptsLeft ≤ 1 := by
  cases ticket <;> simp [acceptsLeft]

theorem takesLeft_le_one (ticket : Ticket π) : ticket.takesLeft ≤ 1 := by
  cases ticket <;> simp [takesLeft]

theorem count_accepted_le (ticket : Ticket π) (calls : List (TicketCall π)) :
    (run call ticket calls).2.countP TicketEvent.isAccepted ≤ ticket.acceptsLeft := by
  refine run_countP_le (I := fun _ => True) (fun ticket _ c _ => ⟨trivial, ?_⟩) trivial
  cases ticket <;> cases c <;> simp [call, TicketEvent.isAccepted, acceptsLeft]

theorem count_taken_le (ticket : Ticket π) (calls : List (TicketCall π)) :
    (run call ticket calls).2.countP TicketEvent.isTaken ≤ ticket.takesLeft := by
  refine run_countP_le (I := fun _ => True) (fun ticket _ c _ => ⟨trivial, ?_⟩) trivial
  cases ticket <;> cases c <;> simp [call, TicketEvent.isTaken, takesLeft]

/-! ### Nothing after the end -/

theorem spent_of_isLast {ticket : Ticket π} {c : TicketCall π} {e : TicketEvent π}
    (h : (ticket.call c).2 = [e]) (hlast : e.isLast) : (ticket.call c).1 = spent := by
  have hmem : e ∈ (ticket.call c).2 := by rw [h]; exact List.mem_singleton_self e
  cases ticket <;> cases c <;> obtain rfl := List.mem_singleton.mp hmem <;>
    first | rfl | cases hlast

/-- After the end no answer is taken any more. -/
theorem no_take_after {ticket : Ticket π} {calls : List (TicketCall π)}
    {before after : List (TicketEvent π)} {e : TicketEvent π}
    (h : (run call ticket calls).2 = before ++ e :: after) (hlast : e.isLast) :
    after.countP TicketEvent.isTaken = 0 := by
  obtain ⟨cs, c, cs', -, -, hc, rfl⟩ := exists_of_run_eq_append exists_event h
  have := count_taken_le (call (run call ticket cs).1 c).1 cs'
  rw [spent_of_isLast hc hlast] at this ⊢
  exact Nat.le_zero.mp this

/-! ### The first answer -/

/-- What the events so far say about where a ticket stands. -/
def Explains : Ticket π → List (TicketEvent π) → Prop
  | fresh, events => .abandon ∉ events
  | pending, events =>
    .abandon ∉ events ∧
      ∃ before waiting, events = before ++ .expect true :: waiting ∧
        ∀ answer, .resolve answer ∉ waiting
  | resolved answer, events =>
    .abandon ∉ events ∧
      ∃ before waiting after,
        events = before ++ .expect true :: (waiting ++ .resolve answer :: after) ∧
          ∀ answer, .resolve answer ∉ waiting
  | spent, _ => True

theorem explains_call {ticket : Ticket π} {events : List (TicketEvent π)}
    (h : Explains ticket events) (c : TicketCall π) :
    Explains (ticket.call c).1 (events ++ (ticket.call c).2) := by
  cases ticket with
  | spent => cases c <;> trivial
  | fresh =>
    cases c with
    | expect => exact ⟨by simpa [call, Explains] using h, events, [], rfl, by simp⟩
    | abandon => trivial
    | _ => simpa [call, Explains] using h
  | pending =>
    obtain ⟨habandon, before, waiting, rfl, hwaiting⟩ := h
    cases c with
    | resolve answer =>
      refine ⟨by simpa [call] using habandon, before, waiting, [], ?_, hwaiting⟩
      simp [call]
    | abandon => trivial
    | expect =>
      refine ⟨by simpa [call] using habandon, before, waiting ++ [.expect false], ?_, ?_⟩
      · simp [call]
      · simpa using hwaiting
    | take =>
      refine ⟨by simpa [call] using habandon, before, waiting ++ [.take none], ?_, ?_⟩
      · simp [call]
      · simpa using hwaiting
    | other =>
      refine ⟨by simpa [call] using habandon, before, waiting ++ [.other], ?_, ?_⟩
      · simp [call]
      · simpa using hwaiting
  | resolved answer =>
    obtain ⟨habandon, before, waiting, after, rfl, hwaiting⟩ := h
    cases c with
    | take => trivial
    | abandon => trivial
    | resolve answer' =>
      refine ⟨by simpa [call] using habandon, before, waiting, after ++ [.resolve answer'], ?_,
        hwaiting⟩
      simp [call]
    | expect =>
      refine ⟨by simpa [call] using habandon, before, waiting, after ++ [.expect false], ?_,
        hwaiting⟩
      simp [call]
    | other =>
      refine ⟨by simpa [call] using habandon, before, waiting, after ++ [.other], ?_, hwaiting⟩
      simp [call]

/-- An answer that is taken is the first that came in after the ticket was accepted, and the ticket
was not abandoned before. -/
theorem exists_of_take {calls : List (TicketCall π)} {before after : List (TicketEvent π)}
    {answer : π} (h : (run call fresh calls).2 = before ++ .take (some answer) :: after) :
    .abandon ∉ before ∧
      ∃ early waiting late,
        before = early ++ .expect true :: (waiting ++ .resolve answer :: late) ∧
          ∀ answer, .resolve answer ∉ waiting := by
  obtain ⟨cs, c, cs', -, rfl, hc, -⟩ := exists_of_run_eq_append exists_event h
  have hexplains : Explains (run call fresh cs).1 ([] ++ (run call fresh cs).2) :=
    run_trace_invariant (fun _ _ h c _ => explains_call h c) (by simp [Explains])
  have hresolved : (run call fresh cs).1 = resolved answer := by
    revert hc
    cases (run call fresh cs).1 <;> cases c <;> simp [call]
  rw [hresolved, List.nil_append] at hexplains
  exact hexplains

end Ticket

end Axtp
