/-
  What one call of the JSON-RPC adapter does.

  A message changes the adapter only if it is a well-formed IDENTIFY or REIDENTIFY
  (`fst_onBytes`), and then the sid is announced (`announced_onBytes`). A text is
  forwarded exactly when it is read and the adapter decides so (`forward_mem_onBytes`).
-/
import Axtp.Runtime.WebSocketJsonRpcAdapter

namespace Axtp

namespace WebSocketJsonRpcAdapter

open Json

variable {lib : JsonLibrary} {around : Surroundings} {adapter : WebSocketJsonRpcAdapter}
  {data : Bytes}

/-! ### IDENTIFY -/

/-- The arguments of an IDENTIFY or REIDENTIFY that `handleIdentify` goes through with. -/
def identifying (lib : JsonLibrary) (data : Bytes) : Option (Json × Option UInt32) := do
  let envelope ← readEnvelope lib data
  if envelope.op = RpcOp.identify ∨ envelope.op = RpcOp.reidentify then
    identifyArguments envelope.object
  else none

/-- The adapter after a message. -/
def heard (lib : JsonLibrary) (adapter : WebSocketJsonRpcAdapter) (data : Bytes) :
    WebSocketJsonRpcAdapter :=
  match identifying lib data with
  | some (d, randomSeed) => adapter.identify d randomSeed
  | none => adapter

theorem decision_eq_identify {envelope : Envelope} :
    adapter.decision envelope = .identify ↔
      envelope.op = RpcOp.identify ∨ envelope.op = RpcOp.reidentify := by
  unfold decision
  simp only
  split_ifs <;> simp_all

theorem identifying_of_unread (h : readEnvelope lib data = none) : identifying lib data = none := by
  rw [identifying, h]
  rfl

theorem identifying_of_identify {envelope : Envelope} (h : readEnvelope lib data = some envelope)
    (hdecision : adapter.decision envelope = .identify) :
    identifying lib data = identifyArguments envelope.object := by
  rw [identifying, h]
  simp only [Option.bind_eq_bind, Option.bind_some]
  rw [if_pos (decision_eq_identify.mp hdecision)]

theorem identifying_of_other {envelope : Envelope} (h : readEnvelope lib data = some envelope)
    (hdecision : adapter.decision envelope ≠ .identify) : identifying lib data = none := by
  rw [identifying, h]
  simp only [Option.bind_eq_bind, Option.bind_some]
  rw [if_neg fun hop => hdecision (decision_eq_identify.mpr hop)]

theorem fst_onBytes : (adapter.onBytes lib around data).1 = adapter.heard lib data := by
  have hfst : (adapter.onBytes lib around data).1 = (adapter.tryBytes lib around data).1 := by
    unfold onBytes
    rcases adapter.tryBytes lib around data with ⟨adapter', effects, _ | _⟩ <;> rfl
  rw [hfst, tryBytes, heard]
  rcases hread : readEnvelope lib data with _ | envelope
  · rw [identifying_of_unread hread]
  rcases hdecision : adapter.decision envelope with _ | ⟨sid, code⟩ | _
  · rw [identifying_of_identify hread hdecision]
    simp only [handleIdentify]
    rw [hdecision]
    rcases identifyArguments envelope.object with _ | ⟨d, randomSeed⟩ <;> rfl
  · rw [identifying_of_other hread (by rw [hdecision]; simp)]
    simp only [hdecision]
  · rw [identifying_of_other hread (by rw [hdecision]; simp)]
    simp only [hdecision]

/-- The sids that IDENTIFIED replies announce. -/
def announced (effects : List AdapterEffect) : List Bytes :=
  effects.filterMap fun
    | .write payload _ => if payload.op = RpcOp.identified then some payload.meta_.jsonSid else none
    | .forward _ => none

theorem announced_append (effects effects' : List AdapterEffect) :
    announced (effects ++ effects') = announced effects ++ announced effects' :=
  List.filterMap_append

/-- What a payload that is sent announces, if it can be encoded. -/
theorem announced_sendRpc {n : ℕ} {payload : RpcPayload} :
    announced (sendRpc lib around n payload).1 =
      if payload.op = RpcOp.identified ∧ (JsonRpcEncoder.encode lib payload).isSome then
        [payload.meta_.jsonSid] else [] := by
  unfold sendRpc
  rcases JsonRpcEncoder.encode lib payload with _ | bytes
  · simp [announced]
  · by_cases hop : payload.op = RpcOp.identified <;> simp [announced, hop]

theorem op_errorPayload {sid : Bytes} {requestId : UInt32} {code : ErrorCode} {op : RpcOp}
    {endpoint : EndpointMetadata} :
    (adapter.errorPayload sid requestId code op endpoint).op ≠ RpcOp.identified := by
  simp only [errorPayload]
  split_ifs <;> decide

theorem announced_failure {n : ℕ} : announced (sendRpc lib around n adapter.failure).1 = [] := by
  rw [announced_sendRpc, if_neg]
  rintro ⟨hop, -⟩
  exact op_errorPayload hop

variable (lib around adapter data) in
/-- **The announcement**: a message announces the sid if it is an IDENTIFY whose reply can be
encoded, and otherwise nothing. -/
theorem announced_onBytes : announced (adapter.onBytes lib around data).2.1 =
    if (identifying lib data).isSome ∧ (JsonRpcEncoder.encode lib
        (JsonRpcEncoder.makeIdentified (adapter.heard lib data).sid)).isSome then
      [(adapter.heard lib data).sid] else [] := by
  -- the answer to an exception announces no sid
  have htry : announced (adapter.onBytes lib around data).2.1 =
      announced (adapter.tryBytes lib around data).2.1 := by
    unfold onBytes
    rcases adapter.tryBytes lib around data with ⟨adapter', effects, _ | _⟩
    · rfl
    · simp only
      rw [announced_append, announced_failure, List.append_nil]
  rw [htry, tryBytes, heard]
  rcases hread : readEnvelope lib data with _ | envelope
  · rw [identifying_of_unread hread]
    rfl
  rcases hdecision : adapter.decision envelope with _ | ⟨sid, code⟩ | _
  · rw [identifying_of_identify hread hdecision]
    simp only [hdecision, handleIdentify]
    rcases identifyArguments envelope.object with _ | ⟨d, randomSeed⟩
    · rfl
    · simp only [announced_sendRpc, JsonRpcEncoder.makeIdentified, true_and, Option.isSome_some]
  · rw [identifying_of_other hread (by rw [hdecision]; simp)]
    simp only [hdecision, announced_sendRpc, rejection, op_errorPayload, false_and, if_false,
      Option.isSome_none, Bool.false_eq_true]
  · rw [identifying_of_other hread (by rw [hdecision]; simp)]
    simp [announced, hdecision]

/-! ### Forwarding -/

theorem forward_notMem_sendRpc {n : ℕ} {payload : RpcPayload} {text : Bytes} :
    .forward text ∉ (sendRpc lib around n payload).1 := by
  unfold sendRpc
  rcases JsonRpcEncoder.encode lib payload with _ | bytes <;> simp

/-- **A text is forwarded** if it is read and no condition of `onBytes` holds it back. -/
theorem forward_mem_onBytes {text : Bytes} : .forward text ∈ (adapter.onBytes lib around data).2.1 ↔
    text = data ∧ ∃ envelope, readEnvelope lib data = some envelope ∧
      adapter.decision envelope = .forward := by
  have htry : .forward text ∈ (adapter.onBytes lib around data).2.1 ↔
      .forward text ∈ (adapter.tryBytes lib around data).2.1 := by
    unfold onBytes
    rcases adapter.tryBytes lib around data with ⟨adapter', effects, _ | _⟩
    · rfl
    · simp only [List.mem_append, forward_notMem_sendRpc, or_false]
  rw [htry, tryBytes]
  rcases hread : readEnvelope lib data with _ | envelope
  · simp
  rcases hdecision : adapter.decision envelope with _ | ⟨sid, code⟩ | _
  · simp only [handleIdentify]
    rcases identifyArguments envelope.object with _ | ⟨d, randomSeed⟩
    · simp [hdecision]
    · simp [forward_notMem_sendRpc, hdecision]
  · simp [forward_notMem_sendRpc, hdecision]
  · simp [hdecision]

end WebSocketJsonRpcAdapter

end Axtp
