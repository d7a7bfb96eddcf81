/-
  The pending call table keeps one ticket for each non-zero request id.

  A `Coherent` table has no id both pending and retired, and no answer of an id that is
  not retired; every call keeps it so (`coherent_call`). Seen at one id, a call on such a
  table is the call on the `ticket` of that id (`ticket_call`), so what holds of tickets
  holds of ids (`singleUse_run`).
-/
import Axtp.Lib.Ticket
import Axtp.Session.PendingCallTable

namespace Axtp

namespace PendingCallTable

open Run

variable {table : PendingCallTable} {id : UInt32}

/-! ### Coherent tables -/

/-- For the ids other than zero. -/
structure Coherent (table : PendingCallTable) : Prop where
  not_retired_of_pending : ∀ {id}, id ≠ 0 → id ∈ table.pending → id ∉ table.retired
  retired_of_resolved : ∀ {id}, id ≠ 0 → (table.resolved id).isSome → id ∈ table.retired

theorem coherent_empty : Coherent {} where
  not_retired_of_pending := by simp
  retired_of_resolved := by simp

theorem Coherent.expect (h : table.Coherent) (requestId : UInt32) :
    (table.expect requestId).1.Coherent := by
  unfold PendingCallTable.expect
  split_ifs with hretired hpending
  · exact h
  · exact h
  · refine ⟨fun {id} hid hmem => ?_, fun {id} hid hsome => ?_⟩
    · rcases Finset.mem_insert.mp hmem with rfl | hmem
      · exact fun hret => hretired ⟨hid, hret⟩
      · exact h.not_retired_of_pending hid hmem
    · by_cases heq : id = requestId
      · subst heq
        simp only [Function.update_self] at hsome
        cases hsome
      · simp only [Function.update_of_ne heq] at hsome
        exact h.retired_of_resolved hid hsome

theorem Coherent.resolve (h : table.Coherent) (requestId : UInt32) (payload : RpcPayload) :
    (table.resolve requestId payload).Coherent := by
  unfold PendingCallTable.resolve
  split_ifs with hretired hpending hzero
  · exact h
  · exact h
  · refine ⟨fun {id} hid hmem => ?_, fun {id} hid hsome => ?_⟩
    · obtain ⟨hne, hmem⟩ := Finset.mem_erase.mp hmem
      rw [Finset.mem_insert, not_or]
      exact ⟨hne, h.not_retired_of_pending hid hmem⟩
    · by_cases heq : id = requestId
      · exact Finset.mem_insert.mpr (.inl heq)
      · simp only [Function.update_of_ne heq] at hsome
        exact Finset.mem_insert_of_mem (h.retired_of_resolved hid hsome)
  · rw [not_not] at hzero
    subst hzero
    refine ⟨fun {id} hid hmem => ?_, fun {id} hid hsome => ?_⟩
    · exact h.not_retired_of_pending hid (Finset.mem_of_mem_erase hmem)
    · simp only [Function.update_of_ne hid] at hsome
      exact h.retired_of_resolved hid hsome

theorem Coherent.abandon (h : table.Coherent) (requestId : UInt32) :
    (table.abandon requestId).Coherent := by
  unfold PendingCallTable.abandon
  refine ⟨fun {id} hid hmem => ?_, fun {id} hid hsome => ?_⟩
  · obtain ⟨hne, hmem⟩ := Finset.mem_erase.mp hmem
    split_ifs
    · rw [Finset.mem_insert, not_or]
      exact ⟨hne, h.not_retired_of_pending hid hmem⟩
    · exact h.not_retired_of_pending hid hmem
  · by_cases heq : id = requestId
    · subst heq
      simp only [Function.update_self] at hsome
      cases hsome
    · simp only [Function.update_of_ne heq] at hsome
      split_ifs
      · exact Finset.mem_insert_of_mem (h.retired_of_resolved hid hsome)
      · exact h.retired_of_resolved hid hsome

theorem Coherent.tryTakeResolved (h : table.Coherent) (requestId : UInt32) :
    (table.tryTakeResolved requestId).1.Coherent := by
  unfold PendingCallTable.tryTakeResolved
  split
  · exact h
  · refine ⟨h.not_retired_of_pending, fun {id} hid hsome => ?_⟩
    by_cases heq : id = requestId
    · subst heq
      simp only [Function.update_self] at hsome
      cases hsome
    · simp only [Function.update_of_ne heq] at hsome
      exact h.retired_of_resolved hid hsome

theorem coherent_call (h : table.Coherent) (c : Call) : (table.call c).1.Coherent := by
  cases c with
  | expect requestId => exact h.expect requestId
  | resolve requestId payload => exact h.resolve requestId payload
  | abandon requestId => exact h.abandon requestId
  | tryTakeResolved requestId => exact h.tryTakeResolved requestId
  | tryTakeAnyResolved => exact h.tryTakeResolved 0

theorem coherent_run (h : table.Coherent) (calls : List Call) :
    (run call table calls).1.Coherent :=
  run_invariant (fun _ h c _ => coherent_call h c) h

/-! ### The ticket of an id -/

def ticket (table : PendingCallTable) (id : UInt32) : Ticket RpcPayload :=
  if id ∈ table.pending then .pending
  else
    match table.resolved id with
    | some payload => .resolved payload
    | none => if id ∈ table.retired then .spent else .fresh

/-- A call as one about the ticket of `id`. -/
def Call.about (id : UInt32) : Call → TicketCall RpcPayload
  | .expect requestId => if requestId = id then .expect else .other
  | .resolve requestId payload => if requestId = id then .resolve payload else .other
  | .abandon requestId => if requestId = id then .abandon else .other
  | .tryTakeResolved requestId => if requestId = id then .take else .other
  | .tryTakeAnyResolved => .other

def Event.about (id : UInt32) : Event → TicketEvent RpcPayload
  | .expect requestId accepted => if requestId = id then .expect accepted else .other
  | .resolve requestId payload => if requestId = id then .resolve payload else .other
  | .abandon requestId => if requestId = id then .abandon else .other
  | .tryTakeResolved requestId payload => if requestId = id then .take payload else .other
  | .tryTakeAnyResolved _ => .other

theorem ticket_congr {table' : PendingCallTable}
    (hpending : id ∈ table'.pending ↔ id ∈ table.pending)
    (hresolved : table'.resolved id = table.resolved id)
    (hretired : id ∈ table'.retired ↔ id ∈ table.retired) : table'.ticket id = table.ticket id := by
  simp only [ticket, hpending, hresolved, hretired]

variable (table) in
/-- A call about another id leaves the ticket alone. -/
theorem ticket_call_of_other {c : Call} (hid : id ≠ 0) (hother : c.about id = .other) :
    (table.call c).1.ticket id = table.ticket id ∧
      (table.call c).2.map (Event.about id) = [.other] := by
  cases c with
  | expect requestId =>
    have hne : requestId ≠ id := fun heq => by simp [Call.about, heq] at hother
    refine ⟨?_, by simp [call, Event.about, hne]⟩
    simp only [call, expect]
    split_ifs
    · rfl
    · rfl
    · exact ticket_congr (by simp [hne.symm]) (by simp [hne.symm]) (by simp)
  | resolve requestId payload =>
    have hne : requestId ≠ id := fun heq => by simp [Call.about, heq] at hother
    refine ⟨?_, by simp [call, Event.about, hne]⟩
    simp only [call, resolve]
    split_ifs
    · rfl
    · rfl
    all_goals exact ticket_congr (by simp [hne.symm]) (by simp [hne.symm]) (by simp [hne.symm])
  | abandon requestId =>
    have hne : requestId ≠ id := fun heq => by simp [Call.about, heq] at hother
    refine ⟨?_, by simp [call, Event.about, hne]⟩
    simp only [call, abandon]
    split_ifs
    all_goals exact ticket_congr (by simp [hne.symm]) (by simp [hne.symm]) (by simp [hne.symm])
  | tryTakeResolved requestId =>
    have hne : requestId ≠ id := fun heq => by simp [Call.about, heq] at hother
    refine ⟨?_, by simp [call, Event.about, hne]⟩
    simp only [call, tryTakeResolved]
    split
    · rfl
    · exact ticket_congr (by simp) (by simp [hne.symm]) (by simp)
  | tryTakeAnyResolved =>
    refine ⟨?_, rfl⟩
    simp only [call, tryTakeAnyResolved]
    split
    · rfl
    · exact ticket_congr (by simp) (by simp [hid]) (by simp)

/-- The three places where a coherent table can have an id other than zero. -/
theorem Coherent.cases (h : table.Coherent) (hid : id ≠ 0) :
    (id ∈ table.pending ∧ table.resolved id = none ∧ id ∉ table.retired) ∨
      (id ∉ table.pending ∧ id ∈ table.retired) ∨
      (id ∉ table.pending ∧ table.resolved id = none ∧ id ∉ table.retired) := by
  have hnone (hret : id ∉ table.retired) : table.resolved id = none := by
    rw [← Option.not_isSome_iff_eq_none]
    exact fun hsome => hret (h.retired_of_resolved hid hsome)
  by_cases hp : id ∈ table.pending
  · have hret := h.not_retired_of_pending hid hp
    exact .inl ⟨hp, hnone hret, hret⟩
  by_cases hret : id ∈ table.retired
  · exact .inr (.inl ⟨hp, hret⟩)
  · exact .inr (.inr ⟨hp, hnone hret, hret⟩)

/-- A call on a coherent table is, at every id but zero, the call on its ticket. -/
theorem ticket_call (h : table.Coherent) (hid : id ≠ 0) (c : Call) :
    (table.call c).1.ticket id = ((table.ticket id).call (c.about id)).1 ∧
      (table.call c).2.map (Event.about id) = ((table.ticket id).call (c.about id)).2 := by
  -- a call about another id leaves the ticket as it is
  by_cases hother : c.about id = .other
  · rw [hother]
    obtain ⟨hticket, hevents⟩ := ticket_call_of_other table hid hother
    rw [hticket, hevents]
    cases table.ticket id <;> exact ⟨rfl, rfl⟩
  cases c with
  | expect requestId =>
    obtain rfl : requestId = id := by_contra fun hne => hother (if_neg hne)
    obtain ⟨hp, hnone, hret⟩ | ⟨hp, hret⟩ | ⟨hp, hnone, hret⟩ := h.cases hid
    · simp [call, expect, ticket, Call.about, Event.about, hid, hret, hp, Ticket.call]
    · rcases hres : table.resolved requestId with _ | payload <;>
        simp [call, expect, ticket, Call.about, Event.about, hid, hret, hp, hres, Ticket.call]
    · simp [call, expect, ticket, Call.about, Event.about, hret, hp, hnone, Ticket.call]
  | resolve requestId payload =>
    obtain rfl : requestId = id := by_contra fun hne => hother (if_neg hne)
    obtain ⟨hp, hnone, hret⟩ | ⟨hp, hret⟩ | ⟨hp, hnone, hret⟩ := h.cases hid
    · simp [call, resolve, isPending, ticket, Call.about, Event.about, hret, hp, Ticket.call]
    · rcases hres : table.resolved requestId with _ | payload <;>
        simp [call, resolve, ticket, Call.about, Event.about, hid, hret, hp, hres, Ticket.call]
    · simp [call, resolve, isPending, ticket, Call.about, Event.about, hid, hret, hp, hnone,
        Ticket.call]
  | abandon requestId =>
    obtain rfl : requestId = id := by_contra fun hne => hother (if_neg hne)
    have hspent : (table.abandon requestId).ticket requestId = .spent := by
      simp [abandon, ticket, hid]
    refine ⟨?_, ?_⟩
    · cases table.ticket requestId <;> simp [call, hspent, Call.about, Ticket.call]
    · cases table.ticket requestId <;> simp [call, Call.about, Event.about, Ticket.call]
  | tryTakeResolved requestId =>
    obtain rfl : requestId = id := by_contra fun hne => hother (if_neg hne)
    obtain ⟨hp, hnone, hret⟩ | ⟨hp, hret⟩ | ⟨hp, hnone, hret⟩ := h.cases hid
    · simp [call, tryTakeResolved, ticket, Call.about, Event.about, hp, hnone, Ticket.call]
    · rcases hres : table.resolved requestId with _ | payload <;>
        simp [call, tryTakeResolved, ticket, Call.about, Event.about, hret, hp, hres, Ticket.call]
    · simp [call, tryTakeResolved, ticket, Call.about, Event.about, hp, hnone, hret, Ticket.call]
  | tryTakeAnyResolved => exact absurd rfl hother

/-- A run of calls is, at every id but zero, the run of the calls on its ticket. -/
theorem ticket_run (h : table.Coherent) (hid : id ≠ 0) (calls : List Call) :
    (run call table calls).1.ticket id =
        (run Ticket.call (table.ticket id) (calls.map (Call.about id))).1 ∧
      (run call table calls).2.map (Event.about id) =
        (run Ticket.call (table.ticket id) (calls.map (Call.about id))).2 := by
  induction calls generalizing table with
  | nil => exact ⟨rfl, rfl⟩
  | cons c calls ih =>
    obtain ⟨hticket, hevents⟩ := ticket_call h hid c
    obtain ⟨ihticket, ihevents⟩ := ih (coherent_call h c)
    simp only [run_cons, List.map_cons, List.map_append]
    rw [ihticket, ihevents, hticket, hevents]
    exact ⟨rfl, rfl⟩

/-! ### Single use -/

/-- What the calls returned uses the id once: it is accepted once, its payload is taken once and is
the first that came in, and nothing is taken after the end. -/
structure SingleUse (id : UInt32) (events : List Event) : Prop where
  accepted_once : (events.filterMap Event.acceptedId).count id ≤ 1
  taken_once : (events.filterMap Event.takenId).count id ≤ 1
  /-- A payload that is returned is the first that `resolve` was given after `expect` returned true,
  and before that there is no `abandon`. -/
  first_payload : ∀ {before after payload},
    events = before ++ .tryTakeResolved id (some payload) :: after →
      .abandon id ∉ before ∧
        ∃ early waiting late,
          before = early ++ .expect id true :: (waiting ++ .resolve id payload :: late) ∧
            ∀ payload, .resolve id payload ∉ waiting
  /-- After an `abandon`, or a payload that was returned, none is returned. -/
  nothing_after : ∀ {before after e}, events = before ++ e :: after →
    e = .abandon id ∨ e.takenId = some id → id ∉ after.filterMap Event.takenId

theorem about_isAccepted (id : UInt32) (e : Event) :
    (e.about id).isAccepted = (e.acceptedId == some id) := by
  cases e with
  | expect requestId accepted =>
    by_cases heq : requestId = id <;> cases accepted <;>
      simp [Event.about, Event.acceptedId, TicketEvent.isAccepted, heq]
  | tryTakeAnyResolved payload => rfl
  | _ => simp only [Event.about]; split_ifs <;> rfl

theorem about_isTaken (hid : id ≠ 0) (e : Event) :
    (e.about id).isTaken = (e.takenId == some id) := by
  cases e with
  | tryTakeResolved requestId payload =>
    by_cases heq : requestId = id <;> cases payload <;>
      simp [Event.about, Event.takenId, TicketEvent.isTaken, heq]
  | tryTakeAnyResolved payload =>
    cases payload <;> simp [Event.about, Event.takenId, TicketEvent.isTaken, hid.symm]
  | _ => simp only [Event.about]; split_ifs <;> rfl

theorem count_filterMap_eq (f : Event → Option UInt32) (P : TicketEvent RpcPayload → Bool)
    (h : ∀ e : Event, P (e.about id) = (f e == some id)) (events : List Event) :
    (events.filterMap f).count id = (events.map (Event.about id)).countP P := by
  induction events with
  | nil => rfl
  | cons e events ih =>
    rw [List.map_cons, List.countP_cons, ← ih, List.filterMap_cons, h e]
    rcases f e with _ | requestId
    · rfl
    · by_cases heq : requestId = id <;> simp [heq]

theorem eq_of_about_expect {e : Event} {accepted : Bool} (h : e.about id = .expect accepted) :
    e = .expect id accepted := by
  cases e with
  | tryTakeAnyResolved payload => cases h
  | _ => simp only [Event.about] at h; split_ifs at h <;> simp_all

theorem eq_of_about_resolve {e : Event} {payload : RpcPayload}
    (h : e.about id = .resolve payload) : e = .resolve id payload := by
  cases e with
  | tryTakeAnyResolved payload => cases h
  | _ => simp only [Event.about] at h; split_ifs at h <;> simp_all

/-- A history that looks like that of a ticket uses the id once. -/
theorem singleUse_of_ticket (hid : id ≠ 0) {events : List Event}
    {calls : List (TicketCall RpcPayload)}
    (h : events.map (Event.about id) = (run Ticket.call .fresh calls).2) : SingleUse id events where
  accepted_once := by
    rw [count_filterMap_eq _ _ (about_isAccepted id), h]
    exact (Ticket.count_accepted_le .fresh calls).trans (Ticket.acceptsLeft_le_one _)
  taken_once := by
    rw [count_filterMap_eq _ _ (about_isTaken hid), h]
    exact (Ticket.count_taken_le .fresh calls).trans (Ticket.takesLeft_le_one _)
  first_payload {before after payload} heq := by
    rw [heq, List.map_append, List.map_cons] at h
    have htake : (Event.tryTakeResolved id (some payload)).about id = .take (some payload) :=
      if_pos rfl
    rw [htake] at h
    obtain ⟨habandon, early, waiting, late, hbefore, hfirst⟩ := Ticket.exists_of_take h.symm
    refine ⟨fun hmem => habandon (List.mem_map.mpr ⟨_, hmem, if_pos rfl⟩), ?_⟩
    -- the events are cut where the ticket's events are
    obtain ⟨early', rest, rfl, -, hrest⟩ := List.map_eq_append_iff.mp hbefore
    obtain ⟨e, rest', rfl, he, hrest'⟩ := List.map_eq_cons_iff.mp hrest
    obtain ⟨waiting', late', rfl, hwaiting, hlate⟩ := List.map_eq_append_iff.mp hrest'
    obtain ⟨e', late'', rfl, he', -⟩ := List.map_eq_cons_iff.mp hlate
    obtain rfl := eq_of_about_expect he
    obtain rfl := eq_of_about_resolve he'
    refine ⟨early', waiting', late'', rfl, fun payload' hmem => hfirst payload' ?_⟩
    rw [← hwaiting]
    exact List.mem_map.mpr ⟨_, hmem, if_pos rfl⟩
  nothing_after {before after e} heq hlast := by
    rw [heq, List.map_append, List.map_cons] at h
    have hlast' : (e.about id).isLast := by
      rcases hlast with rfl | htaken
      · simp [Event.about, TicketEvent.isLast]
      · have := about_isTaken hid e
        rw [htaken, beq_self_eq_true] at this
        cases hcase : e.about id <;> simp_all [TicketEvent.isLast, TicketEvent.isTaken]
    have hzero := Ticket.no_take_after h.symm hlast'
    rw [← count_filterMap_eq _ _ (about_isTaken hid)] at hzero
    exact List.count_eq_zero.mp hzero

/-- **Single use**: whatever calls are made on a new table, an id other than zero is used once. -/
theorem singleUse_run (hid : id ≠ 0) (calls : List Call) : SingleUse id (run call {} calls).2 :=
  singleUse_of_ticket hid (ticket_run coherent_empty hid calls).2

/-! ### The zero channel -/

end PendingCallTable

end Axtp
