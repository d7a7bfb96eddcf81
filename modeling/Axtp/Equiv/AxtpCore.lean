/-
  The core: fragmentation as configured, and the reply target around a broker result.

  A send fails exactly when the payload cannot be encoded in the current wire mode
  (`sendRpc_eq_none_iff`). Whatever a core sends, it only changes its outbound side
  (`Wrote`). A broker result that answers a request is sent under that request's
  reply target; afterwards the previous target is back exactly when the two are the
  same or the payload could be encoded (`handleBrokerResult_replyTarget_iff`).
-/
import Axtp.Equiv.MessageFragmenter
import Axtp.Equiv.PayloadCodec
import Axtp.Runtime.AxtpCore

namespace Axtp

open MessageFragmenter PayloadCodec

/-! ### What can be encoded -/

/-- No endpoint field is there and empty. -/
def EndpointMetadata.Writable (metadata : EndpointMetadata) : Prop :=
  metadata.src ≠ some [] ∧ metadata.dst ≠ some []

instance (metadata : EndpointMetadata) : Decidable metadata.Writable := by
  unfold EndpointMetadata.Writable; infer_instance

/-- The document of the op carries endpoint metadata. -/
def RpcOp.CarriesEndpoint (op : RpcOp) : Prop :=
  op ≠ RpcOp.hello ∧ op ≠ RpcOp.identify ∧ op ≠ RpcOp.identified

instance (op : RpcOp) : Decidable op.CarriesEndpoint := by
  unfold RpcOp.CarriesEndpoint; infer_instance

/-- The payload can be written as a JSON text: its endpoint fields are not empty, and the library
accepts the document. -/
def JsonRpcEncoder.Encodes (lib : JsonLibrary) (payload : RpcPayload) : Prop :=
  (payload.op.CarriesEndpoint → payload.meta_.endpoint.Writable) ∧
    ∀ json, document lib payload = some json → (lib.dump json).isSome

/-- The payload can be written in the wire mode. -/
def OutboundProcessor.Encodes (lib : JsonLibrary) (wireMode : AxtpWireMode) (payload : RpcPayload) :
    Prop :=
  match wireMode with
  | .webSocketJsonRpc => JsonRpcEncoder.Encodes lib payload
  | .framedBinary =>
    ¬ PayloadEncoder.Refused payload ∧
      (PayloadEncoder.TakesJson payload → JsonRpcEncoder.Encodes lib payload)

/-- The fixed envelope takes every payload. -/
theorem OutboundProcessor.encodes_fixed {lib : JsonLibrary} {wireMode : AxtpWireMode}
    {payload : RpcPayload} (hmode : wireMode = .framedBinary)
    (h : ¬ PayloadEncoder.Refused payload ∧ ¬ PayloadEncoder.TakesJson payload) :
    OutboundProcessor.Encodes lib wireMode payload := by
  subst hmode
  exact ⟨h.1, fun hjson => absurd hjson h.2⟩

theorem addEndpoint_eq_none_iff (field : String) (endpoint : Option Bytes) (object : Json) :
    addEndpoint field endpoint object = none ↔ endpoint = some [] := by
  rcases endpoint with _ | endpoint
  · simp [addEndpoint]
  · by_cases h : endpoint = [] <;> simp [addEndpoint, h]

theorem addEndpointMetadata_eq_none_iff (object : Json) (metadata : EndpointMetadata) :
    addEndpointMetadata object metadata = none ↔ ¬ metadata.Writable := by
  obtain ⟨src, dst⟩ := metadata
  unfold addEndpointMetadata EndpointMetadata.Writable
  by_cases hhas : hasEndpointMetadata ⟨src, dst⟩
  · rw [if_neg (not_not.mpr hhas)]
    rcases hsrc : addEndpoint "src" src .emptyObject with _ | wire
    · have := (addEndpoint_eq_none_iff _ _ _).mp hsrc
      simp [this]
    · have hsrc' : src ≠ some [] := fun h => by
        rw [(addEndpoint_eq_none_iff "src" src .emptyObject).mpr h] at hsrc
        cases hsrc
      rcases hdst : addEndpoint "dst" dst wire with _ | wire'
      · have := (addEndpoint_eq_none_iff _ _ _).mp hdst
        simp only [Option.bind_eq_bind, Option.bind_some, hdst, Option.bind_none, true_iff]
        exact fun h => h.2 this
      · have hdst' : dst ≠ some [] := fun h => by
          rw [(addEndpoint_eq_none_iff "dst" dst wire).mpr h] at hdst
          cases hdst
        simp [hdst, hsrc', hdst']
  · rw [if_pos hhas]
    rcases src with _ | src <;> rcases dst with _ | dst <;> simp_all [hasEndpointMetadata]

theorem document_eq_none_iff (lib : JsonLibrary) (payload : RpcPayload) :
    JsonRpcEncoder.document lib payload = none ↔
      payload.op.CarriesEndpoint ∧ ¬ payload.meta_.endpoint.Writable := by
  unfold JsonRpcEncoder.document RpcOp.CarriesEndpoint
  by_cases h1 : payload.op = RpcOp.hello
  · simp [h1]
  by_cases h2 : payload.op = RpcOp.identify
  · simp [h2, RpcOp.hello, RpcOp.identify]
  by_cases h3 : payload.op = RpcOp.identified
  · simp [h3, RpcOp.hello, RpcOp.identify, RpcOp.identified]
  simp only [h1, h2, h3, if_false, not_false_eq_true, ne_eq, true_and]
  -- the other documents all end with the endpoint metadata
  split_ifs
  · rw [JsonRpcEncoder.eventDocument, addEndpointMetadata_eq_none_iff]
  · rw [JsonRpcEncoder.requestDocument, addEndpointMetadata_eq_none_iff]
  · rw [JsonRpcEncoder.batchResponseDocument, addEndpointMetadata_eq_none_iff]
  · rw [JsonRpcEncoder.responseDocument, addEndpointMetadata_eq_none_iff]

theorem jsonEncode_eq_none_iff (lib : JsonLibrary) (payload : RpcPayload) :
    JsonRpcEncoder.encode lib payload = none ↔ ¬ JsonRpcEncoder.Encodes lib payload := by
  unfold JsonRpcEncoder.encode JsonRpcEncoder.Encodes
  have hnone := document_eq_none_iff lib payload
  rcases hdocument : JsonRpcEncoder.document lib payload with _ | json
  · rw [hdocument] at hnone
    have := hnone.mp rfl
    simp only [Option.bind_none, true_iff]
    tauto
  · have hwritable : payload.op.CarriesEndpoint → payload.meta_.endpoint.Writable := by
      rw [hdocument] at hnone
      by_contra h
      have := hnone.mpr (by tauto)
      cases this
    simp only [Option.bind_some, Option.some.injEq, forall_eq']
    rcases lib.dump json with _ | text
    · simp
    · simpa using hwritable

theorem sendRpc_eq_none_iff (lib : JsonLibrary) (o : OutboundProcessor) (payload : RpcPayload) :
    o.sendRpc lib payload = none ↔ ¬ OutboundProcessor.Encodes lib o.wireMode payload := by
  unfold OutboundProcessor.sendRpc OutboundProcessor.Encodes
  cases o.wireMode with
  | webSocketJsonRpc =>
    rw [if_pos rfl, ← jsonEncode_eq_none_iff]
    rcases JsonRpcEncoder.encode lib payload with _ | bytes <;> simp
  | framedBinary =>
    rw [if_neg (by simp), PayloadEncoder.encodeRpc]
    by_cases hrefused : PayloadEncoder.Refused payload
    · simp [hrefused]
    by_cases hjson : PayloadEncoder.TakesJson payload
    · have := jsonEncode_eq_none_iff lib payload
      simp only [hrefused, hjson, if_false, if_true, not_false_eq_true, true_and, forall_const,
        ← this]
      rcases JsonRpcEncoder.encode lib payload with _ | bytes <;> simp
    · simp [hrefused, hjson]

namespace AxtpCore

variable {core : AxtpCore}

/-! ### Fragmentation as configured -/

theorem configure_maxFrameSize (core : AxtpCore) (profile : TransportProfile) :
    (core.configure profile).outbound.messageFragmenter.maxFrameSize =
      if profile.preferredFrameSize > 0 then profile.preferredFrameSize
      else core.outbound.messageFragmenter.maxFrameSize := by
  unfold configure
  split_ifs <;> rfl

/-- **Configured fragmentation.** However a core is configured, and whatever it has sent before,
the frames of a message carry all of it exactly when the body fits the frame size in effect. -/
theorem configure_lossless_iff (core : AxtpCore) (profile : TransportProfile) (message : Message) :
    Lossless (core.configure profile).outbound.messageFragmenter message ↔
      Fits (if profile.preferredFrameSize > 0 then profile.preferredFrameSize
        else core.outbound.messageFragmenter.maxFrameSize) message.body := by
  rw [lossless_iff, configure_maxFrameSize]

/-- With one payload byte to a frame, the count of 256 frames wraps to none at all. -/
theorem not_lossless_256 :
    ¬ Lossless (({} : AxtpCore).configure { preferredFrameSize := 15 }).outbound.messageFragmenter
        { body := List.replicate 256 0 } ∧
      ((({} : AxtpCore).configure { preferredFrameSize := 15 }).outbound.messageFragmenter.fragment
        { body := List.replicate 256 0 }).2 = [] := by
  have hbody : List.replicate 256 (0 : UInt8) ≠ [] := List.cons_ne_nil 0 (List.replicate 255 0)
  refine ⟨?_, ?_⟩
  · rw [lossless_iff]
    rintro ⟨h, -, -⟩
    rcases h with h | ⟨-, hlength, -⟩
    · exact hbody h
    · rw [List.length_replicate] at hlength
      revert hlength
      decide
  · rw [fragment_of_wrapped (by decide) hbody]
    rw [List.length_replicate]
    decide

/-! ### What a core writes -/

/-- A core has sent something: only its outbound side changed, and what was written is queued for
the current reply target. -/
def Wrote (origin : Option Ingress) (core core' : AxtpCore) : Prop :=
  ∃ outbound pieces, core' = { core with outbound }.enqueueOutboundBytes origin pieces

theorem Wrote.refl (origin : Option Ingress) (core : AxtpCore) : Wrote origin core core :=
  ⟨core.outbound, [], by simp [enqueueOutboundBytes]⟩

theorem Wrote.trans {origin : Option Ingress} {core core' core'' : AxtpCore}
    (h : Wrote origin core core') (h' : Wrote origin core' core'') : Wrote origin core core'' := by
  obtain ⟨outbound, pieces, rfl⟩ := h
  obtain ⟨outbound', pieces', rfl⟩ := h'
  refine ⟨outbound', pieces ++ pieces', ?_⟩
  simp only [enqueueOutboundBytes, List.map_append, List.append_assoc]

theorem wrote_write (core : AxtpCore) (origin : Option Ingress)
    (sent : OutboundProcessor × List Bytes) : Wrote origin core (core.write origin sent) :=
  ⟨sent.1, sent.2, rfl⟩

theorem wrote_tryWrite (core : AxtpCore) (origin : Option Ingress)
    (sent : Option (OutboundProcessor × List Bytes)) :
    Wrote origin core (core.tryWrite origin sent).1 := by
  rcases sent with _ | sent
  · exact Wrote.refl origin core
  · exact wrote_write core origin sent

theorem wrote_sendBrokerResult (lib : JsonLibrary) (core : AxtpCore)
    (result : Tagged BrokerResult) :
    Wrote result.origin core (core.sendBrokerResult lib result).1 := by
  unfold sendBrokerResult
  cases result.value.type with
  | rpcResponse => exact wrote_tryWrite ..
  | rpcError => exact wrote_tryWrite ..
  | event => exact wrote_tryWrite ..
  | streamData => exact wrote_write ..
  | streamClose => exact wrote_write ..
  | noop => exact Wrote.refl ..

theorem Wrote.outboundReplyTarget {origin : Option Ingress} {core core' : AxtpCore}
    (h : Wrote origin core core') : core'.outboundReplyTarget = core.outboundReplyTarget := by
  obtain ⟨outbound, pieces, rfl⟩ := h
  rfl

theorem Wrote.pendingCalls {origin : Option Ingress} {core core' : AxtpCore}
    (h : Wrote origin core core') : core'.pendingCalls = core.pendingCalls := by
  obtain ⟨outbound, pieces, rfl⟩ := h
  rfl

theorem Wrote.events {origin : Option Ingress} {core core' : AxtpCore}
    (h : Wrote origin core core') : core'.events = core.events := by
  obtain ⟨outbound, pieces, rfl⟩ := h
  rfl

/-- A packet in the queue was there before, or was written for the current reply target. -/
theorem Wrote.mem_outboundBytes {origin : Option Ingress} {core core' : AxtpCore}
    (h : Wrote origin core core') {packet : Tagged OutboundPacket}
    (hmem : packet ∈ core'.outboundBytes) :
    packet ∈ core.outboundBytes ∨
      packet.origin = origin ∧ packet.value.replyTarget = core.outboundReplyTarget := by
  obtain ⟨outbound, pieces, rfl⟩ := h
  rcases List.mem_append.mp hmem with hmem | hmem
  · exact .inl hmem
  · obtain ⟨bytes, -, rfl⟩ := List.mem_map.mp hmem
    exact .inr ⟨rfl, rfl⟩

/-! ### The reply target around a broker result -/

theorem tryWrite_exit (core : AxtpCore) (origin : Option Ingress)
    (sent : Option (OutboundProcessor × List Bytes)) :
    (core.tryWrite origin sent).2 = .threw ↔ sent = none := by
  cases sent <;> simp [tryWrite]

/-- The result answers a request. -/
def IsReply (result : BrokerResult) : Prop :=
  result.type = .rpcResponse ∨ result.type = .rpcError

instance (result : BrokerResult) : Decidable (IsReply result) := by
  unfold IsReply; infer_instance

/-- The core while it sends the result. -/
def targeting (core : AxtpCore) (result : BrokerResult) : AxtpCore :=
  if IsReply result then { core with outboundReplyTarget := result.rpc.meta_.replyTarget }
  else core

theorem targeting_of_reply {result : BrokerResult} (h : IsReply result) :
    core.targeting result =
      { core with outboundReplyTarget := result.rpc.meta_.replyTarget } := if_pos h

theorem targeting_of_not_reply {result : BrokerResult} (h : ¬ IsReply result) :
    core.targeting result = core := if_neg h

/-- Sending an answer throws exactly when it cannot be encoded. -/
theorem sendBrokerResult_exit {lib : JsonLibrary} {result : Tagged BrokerResult}
    (h : IsReply result.value) :
    ((core.targeting result.value).sendBrokerResult lib result).2 = .threw ↔
      ¬ OutboundProcessor.Encodes lib core.outbound.wireMode result.value.rpc := by
  rw [targeting_of_reply h]
  unfold sendBrokerResult
  rcases h with h | h <;> rw [h, tryWrite_exit]
  · exact sendRpc_eq_none_iff lib core.outbound result.value.rpc
  · exact sendRpc_eq_none_iff lib core.outbound result.value.rpc

/-- A broker result that is sent leaves the reply target as it was. -/
theorem handleBrokerResult_of_returned {lib : JsonLibrary} {result : Tagged BrokerResult}
    (h : ((core.targeting result.value).sendBrokerResult lib result).2 = .returned) :
    (core.handleBrokerResult lib result).1 =
      { ((core.targeting result.value).sendBrokerResult lib result).1 with
        outboundReplyTarget := core.outboundReplyTarget } := by
  unfold handleBrokerResult
  simp only [targeting, IsReply] at h ⊢
  split
  · rename_i heq
    rw [heq]
  · rename_i heq
    rw [heq] at h
    cases h

/-- After an exception the core stays as it was while it sent the result. -/
theorem handleBrokerResult_of_threw {lib : JsonLibrary} {result : Tagged BrokerResult}
    (h : ((core.targeting result.value).sendBrokerResult lib result).2 = .threw) :
    (core.handleBrokerResult lib result).1 =
      ((core.targeting result.value).sendBrokerResult lib result).1 := by
  unfold handleBrokerResult
  simp only [targeting, IsReply] at h ⊢
  split
  · rename_i heq
    rw [heq] at h
    cases h
  · rename_i heq
    rw [heq]

/-- **The reply target after a broker result** is the one before it exactly when the result answers
no request, its own target is that one, or it can be encoded in the wire mode. -/
theorem handleBrokerResult_replyTarget_iff (lib : JsonLibrary) (core : AxtpCore)
    (result : Tagged BrokerResult) :
    (core.handleBrokerResult lib result).1.outboundReplyTarget = core.outboundReplyTarget ↔
      ¬ IsReply result.value ∨
        result.value.rpc.meta_.replyTarget = core.outboundReplyTarget ∨
        OutboundProcessor.Encodes lib core.outbound.wireMode result.value.rpc := by
  have htarget := (wrote_sendBrokerResult lib (core.targeting result.value)
    result).outboundReplyTarget
  rcases hexit : ((core.targeting result.value).sendBrokerResult lib result).2 with _ | _
  · rw [handleBrokerResult_of_returned hexit]
    refine ⟨fun _ => ?_, fun _ => rfl⟩
    by_cases hreply : IsReply result.value
    · refine .inr (.inr (by_contra fun h => ?_))
      rw [(sendBrokerResult_exit hreply).mpr h] at hexit
      cases hexit
    · exact .inl hreply
  · rw [handleBrokerResult_of_threw hexit, htarget]
    by_cases hreply : IsReply result.value
    · have hnot := (sendBrokerResult_exit hreply).mp hexit
      rw [targeting_of_reply hreply]
      simp only [hreply, hnot, not_true_eq_false, false_or, or_false]
    · rw [targeting_of_not_reply hreply]
      simp only [hreply, not_false_eq_true, true_or]

/-- A JSON request from reply target 7 with endpoint metadata. -/
def endpointRequest : RpcPayload :=
  { methodOrEventId := 0x0101, requestId := 1, bodyEncoding := RpcBodyEncoding.none
    meta_ := { replyTarget := 7, endpoint := { src := some (ascii "a") } } }

/-- The answer of a handler that switches to `JSON_BINARY`. -/
def binaryAnswer : BrokerResult :=
  BasicBroker.rpcResult (BusinessRouter.applyResponseData
    (BusinessRouter.initialResponse endpointRequest)
    { encoding := jsonBinaryRpcEncoding, overrideEncoding := true })

/-- The answer cannot be encoded, the reply target stays at 7, and a stream packet sent next goes
there. -/
theorem replyTarget_leaks :
    (({} : AxtpCore).handleBrokerResult noJson { value := binaryAnswer, origin := none
      }).1.outboundReplyTarget ≠ ({} : AxtpCore).outboundReplyTarget ∧
      (((({} : AxtpCore).handleBrokerResult noJson { value := binaryAnswer, origin := none
        }).1.handleBrokerResult noJson { value := { type := .streamData }, origin := none
        }).1.outboundBytes.map fun packet => packet.value.replyTarget) = [7] := by
  decide +kernel

end AxtpCore

end Axtp
