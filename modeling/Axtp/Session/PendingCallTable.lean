/-
  `PendingCallTable` (`protocol/session/pending_call_table.hpp`).

  The payloads kept in the pending map are never read, so the map is the set of its
  ids.
-/
import Axtp.Model.Types

namespace Axtp

structure PendingCallTable where
  pending : Finset UInt32 := ∅
  resolved : UInt32 → Option RpcPayload := fun _ => none
  retired : Finset UInt32 := ∅

namespace PendingCallTable

def isRetired (table : PendingCallTable) (requestId : UInt32) : Bool :=
  requestId ≠ 0 ∧ requestId ∈ table.retired

def isPending (table : PendingCallTable) (requestId : UInt32) : Bool :=
  requestId ∈ table.pending

def expect (table : PendingCallTable) (requestId : UInt32) : PendingCallTable × Bool :=
  if requestId ≠ 0 ∧ requestId ∈ table.retired then (table, false)
  else if requestId ≠ 0 ∧ requestId ∈ table.pending then (table, false)
  else
    ({ table with
        resolved := Function.update table.resolved requestId none
        pending := insert requestId table.pending },
      true)

def resolve (table : PendingCallTable) (requestId : UInt32) (payload : RpcPayload) :
    PendingCallTable :=
  if requestId ≠ 0 ∧ requestId ∈ table.retired then table
  else if requestId ≠ 0 ∧ ¬ table.isPending requestId then table
  else
    { resolved := Function.update table.resolved requestId (some payload)
      pending := table.pending.erase requestId
      retired := if requestId ≠ 0 then insert requestId table.retired else table.retired }

def abandon (table : PendingCallTable) (requestId : UInt32) : PendingCallTable :=
  { pending := table.pending.erase requestId
    resolved := Function.update table.resolved requestId none
    retired := if requestId ≠ 0 then insert requestId table.retired else table.retired }

def tryTakeResolved (table : PendingCallTable) (requestId : UInt32) :
    PendingCallTable × Option RpcPayload :=
  match table.resolved requestId with
  | none => (table, none)
  | some payload =>
    ({ table with resolved := Function.update table.resolved requestId none }, some payload)

def tryTakeAnyResolved (table : PendingCallTable) : PendingCallTable × Option RpcPayload :=
  match table.resolved 0 with
  | none => (table, none)
  | some payload =>
    ({ table with resolved := Function.update table.resolved 0 none }, some payload)

def reset (_ : PendingCallTable) : PendingCallTable := {}

/-! ### Calls and their history -/

/-- The operations other than `reset`. -/
inductive Call where
  | expect (requestId : UInt32)
  | resolve (requestId : UInt32) (payload : RpcPayload)
  | abandon (requestId : UInt32)
  | tryTakeResolved (requestId : UInt32)
  | tryTakeAnyResolved

/-- A call with what it returned. -/
inductive Event where
  | expect (requestId : UInt32) (accepted : Bool)
  | resolve (requestId : UInt32) (payload : RpcPayload)
  | abandon (requestId : UInt32)
  | tryTakeResolved (requestId : UInt32) (payload : Option RpcPayload)
  | tryTakeAnyResolved (payload : Option RpcPayload)

def call (table : PendingCallTable) : Call → PendingCallTable × List Event
  | .expect requestId =>
    ((table.expect requestId).1, [.expect requestId (table.expect requestId).2])
  | .resolve requestId payload => (table.resolve requestId payload, [.resolve requestId payload])
  | .abandon requestId => (table.abandon requestId, [.abandon requestId])
  | .tryTakeResolved requestId =>
    ((table.tryTakeResolved requestId).1,
      [.tryTakeResolved requestId (table.tryTakeResolved requestId).2])
  | .tryTakeAnyResolved =>
    (table.tryTakeAnyResolved.1, [.tryTakeAnyResolved table.tryTakeAnyResolved.2])

/-- The id for which `expect` returned true. -/
def Event.acceptedId : Event → Option UInt32
  | .expect requestId true => some requestId
  | _ => none

/-- The id for which a payload was returned. -/
def Event.takenId : Event → Option UInt32
  | .tryTakeResolved requestId (some _) => some requestId
  | .tryTakeAnyResolved (some _) => some 0
  | _ => none

end PendingCallTable

end Axtp
