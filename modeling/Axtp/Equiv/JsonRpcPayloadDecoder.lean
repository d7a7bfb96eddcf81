/-
  What the JSON decoder makes of a text.

  Whatever its op, a payload that is decoded keeps what the envelope says of its sender:
  the sid and the endpoint, reversed in an answer that the decoder makes itself
  (`fromEnvelope_of_decodePayload`).
-/
import Axtp.Wire.JsonRpcPayloadDecoder

namespace Axtp

namespace JsonRpcPayloadDecoder

variable {lib : JsonLibrary} {object d : Json} {sourceProtocol : SourceProtocol}
  {methodLookup eventLookup : NameLookup} {payload : RpcPayload}

theorem fillJsonMeta_eq_some {filled : RpcPayload} :
    fillJsonMeta payload object sourceProtocol = some filled ↔
      ∃ endpoint, decodeEndpointMetadata object = some endpoint ∧
        filled = { payload with
          meta_ := { payload.meta_ with
            sourceProtocol, requestId := payload.requestId, jsonSid := parseSid object,
            endpoint } } := by
  unfold fillJsonMeta
  rcases decodeEndpointMetadata object with _ | endpoint
  · simp
  · simp [eq_comm]

/-- What a payload keeps of the envelope it was read from. -/
structure FromEnvelope (object : Json) (sourceProtocol : SourceProtocol) (payload : RpcPayload) :
    Prop where
  encoding : payload.encoding = RpcEncoding.json
  sourceProtocol : payload.meta_.sourceProtocol = sourceProtocol
  replyTarget : payload.meta_.replyTarget = 0
  sid : payload.meta_.jsonSid = parseSid object
  endpoint : ∃ endpoint, decodeEndpointMetadata object = some endpoint ∧
    payload.meta_.endpoint =
      if payload.meta_.localGeneratedResponse then responseEndpointMetadata endpoint else endpoint

theorem fromEnvelope_of_fillJsonMeta {filled : RpcPayload}
    (h : fillJsonMeta payload object sourceProtocol = some filled)
    (hencoding : payload.encoding = RpcEncoding.json) (hmeta : payload.meta_ = {}) :
    FromEnvelope object sourceProtocol filled ∧ filled.meta_.localGeneratedResponse = false ∧
      filled.op = payload.op ∧ filled.statusCode = payload.statusCode := by
  obtain ⟨endpoint, hendpoint, rfl⟩ := fillJsonMeta_eq_some.mp h
  rw [hmeta]
  exact ⟨⟨hencoding, rfl, rfl, rfl, endpoint, hendpoint, rfl⟩, rfl, rfl, rfl⟩

/-- An answer of the decoder itself. -/
theorem FromEnvelope.answered (h : FromEnvelope object sourceProtocol payload)
    (hlocal : payload.meta_.localGeneratedResponse = false) {answer : RpcPayload}
    (hencoding : answer.encoding = payload.encoding)
    (hsource : answer.meta_.sourceProtocol = payload.meta_.sourceProtocol)
    (htarget : answer.meta_.replyTarget = payload.meta_.replyTarget)
    (hsid : answer.meta_.jsonSid = payload.meta_.jsonSid)
    (hendpoint : answer.meta_.endpoint = responseEndpointMetadata payload.meta_.endpoint)
    (hanswer : answer.meta_.localGeneratedResponse = true) :
    FromEnvelope object sourceProtocol answer := by
  obtain ⟨endpoint, hdecoded, heq⟩ := h.endpoint
  rw [hlocal, if_neg Bool.false_ne_true] at heq
  refine ⟨hencoding.trans h.encoding, hsource.trans h.sourceProtocol, htarget.trans h.replyTarget,
    hsid.trans h.sid, endpoint, hdecoded, ?_⟩
  rw [hendpoint, hanswer, if_pos rfl, heq]

/-- A method that no lookup knows. -/
structure UnknownMethod (d : Json) (methodLookup : NameLookup) (answer : RpcPayload) : Prop where
  method : (d.find "method").bind Json.getString = some answer.meta_.jsonMethodOrEventName
  unresolved : resolveName answer.meta_.jsonMethodOrEventName methodLookup false = none
  op : answer.op = RpcOp.requestResponse
  localGeneratedResponse : answer.meta_.localGeneratedResponse = true
  statusCode : answer.statusCode = ErrorCode.rpcMethodNotFound

theorem fromEnvelope_of_decodeRequest
    (h : decodeRequest lib object d sourceProtocol methodLookup = some payload) :
    FromEnvelope object sourceProtocol payload ∧
      (payload.op = RpcOp.request ∧ payload.meta_.localGeneratedResponse = false ∨
        UnknownMethod d methodLookup payload) := by
  simp only [decodeRequest, Option.bind_eq_bind, Option.bind_eq_some_iff] at h
  obtain ⟨value, hfind, method, hmethod, h⟩ := h
  split at h
  next hname =>
    simp only [Option.bind_eq_some_iff] at h
    obtain ⟨requestId, -, error, herror, h⟩ := h
    obtain rfl := Option.some.inj h
    obtain ⟨hfrom, hlocal, hop, hstatus⟩ := fromEnvelope_of_fillJsonMeta herror rfl rfl
    exact ⟨hfrom.answered hlocal rfl rfl rfl rfl rfl rfl,
      .inr ⟨by rw [hfind]; exact hmethod, hname, hop, rfl, hstatus⟩⟩
  next methodId hname =>
    simp only [Option.bind_eq_some_iff] at h
    obtain ⟨requestId, -, request, hrequest, body, -, h⟩ := h
    obtain rfl := Option.some.inj h
    obtain ⟨hfrom, hlocal, hop, -⟩ := fromEnvelope_of_fillJsonMeta hrequest rfl rfl
    exact ⟨⟨hfrom.encoding, hfrom.sourceProtocol, hfrom.replyTarget, hfrom.sid, hfrom.endpoint⟩,
      .inl ⟨hop, hlocal⟩⟩

theorem fromEnvelope_of_decodeResponse {op : RpcOp}
    (h : decodeResponse lib object d op sourceProtocol = some payload) :
    FromEnvelope object sourceProtocol payload ∧ payload.meta_.localGeneratedResponse = false ∧
      payload.op = op := by
  simp only [decodeResponse, Option.bind_eq_bind, Option.bind_eq_some_iff] at h
  obtain ⟨requestId, -, statusCode, -, response, hresponse, h⟩ := h
  obtain ⟨hfrom, hlocal, hop, -⟩ := fromEnvelope_of_fillJsonMeta hresponse rfl rfl
  split at h <;> split_ifs at h
  · simp only [Option.bind_eq_some_iff] at h
    obtain ⟨body, -, h⟩ := h
    obtain rfl := Option.some.inj h
    exact ⟨⟨hfrom.encoding, hfrom.sourceProtocol, hfrom.replyTarget, hfrom.sid, hfrom.endpoint⟩,
      hlocal, hop⟩
  · simp only [Option.bind_eq_some_iff] at h
    obtain ⟨body, -, h⟩ := h
    obtain rfl := Option.some.inj h
    exact ⟨⟨hfrom.encoding, hfrom.sourceProtocol, hfrom.replyTarget, hfrom.sid, hfrom.endpoint⟩,
      hlocal, hop⟩
  · obtain rfl := Option.some.inj h
    exact ⟨hfrom, hlocal, hop⟩

theorem fromEnvelope_of_decodeEvent
    (h : decodeEvent lib object d sourceProtocol eventLookup = some payload) :
    FromEnvelope object sourceProtocol payload ∧ payload.op = RpcOp.event := by
  simp only [decodeEvent, Option.bind_eq_bind, Option.bind_eq_some_iff] at h
  obtain ⟨value, -, name, -, eventId, -, event, hevent, body, -, h⟩ := h
  obtain rfl := Option.some.inj h
  obtain ⟨hfrom, -, hop, -⟩ := fromEnvelope_of_fillJsonMeta hevent rfl rfl
  exact ⟨⟨hfrom.encoding, hfrom.sourceProtocol, hfrom.replyTarget, hfrom.sid, hfrom.endpoint⟩, hop⟩

theorem fromEnvelope_of_decodeSessionRpc {op : RpcOp}
    (h : decodeSessionRpc lib object d op sourceProtocol = some payload) :
    FromEnvelope object sourceProtocol payload ∧ payload.op = op := by
  simp only [decodeSessionRpc, Option.bind_eq_bind, Option.bind_eq_some_iff] at h
  obtain ⟨filled, hfilled, h⟩ := h
  obtain ⟨hfrom, -, hop, -⟩ := fromEnvelope_of_fillJsonMeta hfilled rfl rfl
  split_ifs at h
  all_goals
    simp only [Option.bind_eq_some_iff] at h
    obtain ⟨randomSeed, -, body, -, h⟩ := h
    obtain rfl := Option.some.inj h
    cases randomSeed <;> exact ⟨⟨hfrom.encoding, hfrom.sourceProtocol, hfrom.replyTarget, hfrom.sid,
      hfrom.endpoint⟩, hop⟩

theorem fromEnvelope_of_decodeBatch (h : decodeBatch lib object d sourceProtocol = some payload) :
    FromEnvelope object sourceProtocol payload ∧ payload.op = RpcOp.requestBatchResponse := by
  simp only [decodeBatch, Option.bind_eq_bind, Option.bind_eq_some_iff] at h
  obtain ⟨requestId, -, filled, hfilled, body, -, h⟩ := h
  obtain rfl := Option.some.inj h
  obtain ⟨hfrom, hlocal, hop, -⟩ := fromEnvelope_of_fillJsonMeta hfilled rfl rfl
  exact ⟨hfrom.answered hlocal rfl rfl rfl rfl rfl rfl, hop⟩

/-- **A decoded payload** keeps what its envelope says of the sender, and has no reply target yet.
-/
theorem fromEnvelope_of_decodePayload {text : Bytes}
    (h : decodePayload lib text sourceProtocol methodLookup eventLookup = some payload) :
    ∃ object, lib.parse text = some object ∧ FromEnvelope object sourceProtocol payload := by
  simp only [decodePayload, decodeObject, Option.bind_eq_bind, Option.bind_eq_some_iff] at h
  obtain ⟨object, hparse, op, -, d, -, h⟩ := h
  refine ⟨object, hparse, ?_⟩
  split_ifs at h
  · exact (fromEnvelope_of_decodeRequest h).1
  · exact (fromEnvelope_of_decodeResponse h).1
  · exact (fromEnvelope_of_decodeResponse h).1
  · exact (fromEnvelope_of_decodeEvent h).1
  · exact (fromEnvelope_of_decodeSessionRpc h).1
  · exact (fromEnvelope_of_decodeBatch h).1

/-- A request is none of the decoder's own answers. -/
theorem localGeneratedResponse_of_request {text : Bytes}
    (h : decodePayload lib text sourceProtocol methodLookup eventLookup = some payload)
    (hop : payload.op = RpcOp.request) : payload.meta_.localGeneratedResponse = false := by
  simp only [decodePayload, decodeObject, Option.bind_eq_bind, Option.bind_eq_some_iff] at h
  obtain ⟨object, -, op, -, d, -, h⟩ := h
  split_ifs at h with _ hrequest _ _ hevent hsession
  · rcases (fromEnvelope_of_decodeRequest h).2 with ⟨-, hlocal⟩ | hunknown
    · exact hlocal
    · rw [hunknown.op] at hop
      exact absurd hop (by decide)
  · exact (fromEnvelope_of_decodeResponse h).2.1
  · exact (fromEnvelope_of_decodeResponse h).2.1
  · rw [(fromEnvelope_of_decodeEvent h).2] at hop
    exact absurd hop (by decide)
  · rw [(fromEnvelope_of_decodeSessionRpc h).2] at hop
    exact absurd hop hrequest
  · rw [(fromEnvelope_of_decodeBatch h).2] at hop
    exact absurd hop (by decide)

end JsonRpcPayloadDecoder

end Axtp
