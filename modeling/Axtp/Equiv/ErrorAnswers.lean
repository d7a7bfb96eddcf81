/-
  What the JSON-RPC adapter answers by itself.

  Apart from the messages that it rejects for their sid, it writes a response only for
  a request or a batch, with the id of that message, or one with id zero where the
  handling of a message threw (`answers_of_mem_onBytes`). Such a text touches no other
  call of the peer that reads it (`ErrorText.handleBytes`), and a peer adapter that does
  not reject it for its sid passes it on and writes nothing (`ErrorText.onBytes`).
-/
import Axtp.Equiv.JsonRoundTrip
import Axtp.Equiv.SessionGating

namespace Axtp

open Json Run

namespace WebSocketJsonRpcAdapter

variable {lib : JsonLibrary} {around : Surroundings} {adapter : WebSocketJsonRpcAdapter}
  {data : Bytes}
  {payload : RpcPayload} {bytes : Bytes}

/-! ### What is written -/

theorem encode_of_mem_sendRpc {n : ℕ} {sent : RpcPayload}
    (h : .write payload bytes ∈ (sendRpc lib around n sent).1) :
    payload = sent ∧ JsonRpcEncoder.encode lib sent = some bytes := by
  unfold sendRpc at h
  rcases hencode : JsonRpcEncoder.encode lib sent with _ | text <;> rw [hencode] at h
  · cases h
  · obtain ⟨rfl, rfl⟩ := AdapterEffect.write.inj (List.mem_singleton.mp h)
    exact ⟨rfl, rfl⟩

/-- What the handling of a message writes: the sid that is announced, the error for a message that
is rejected, or the error for a handling that threw. -/
theorem cases_of_mem_onBytes (h : .write payload bytes ∈ (adapter.onBytes lib around data).2.1) :
    JsonRpcEncoder.encode lib payload = some bytes ∧
      (payload.op = RpcOp.identified ∨
        (∃ envelope sid code, readEnvelope lib data = some envelope ∧
          adapter.decision envelope = .reject sid code ∧
          payload = adapter.rejection envelope sid code) ∨
        ((adapter.tryBytes lib around data).2.2 = .threw ∧
          payload = (adapter.tryBytes lib around data).1.failure)) := by
  have htry (h : .write payload bytes ∈ (adapter.tryBytes lib around data).2.1) :
      JsonRpcEncoder.encode lib payload = some bytes ∧ (payload.op = RpcOp.identified ∨
        ∃ envelope sid code, readEnvelope lib data = some envelope ∧
          adapter.decision envelope = .reject sid code ∧
          payload = adapter.rejection envelope sid code) := by
    rw [tryBytes] at h
    rcases hread : readEnvelope lib data with _ | envelope <;> rw [hread] at h
    · cases h
    simp only at h
    rcases hdecision : adapter.decision envelope with _ | ⟨sid, code⟩ | _ <;> rw [hdecision] at h
    · simp only [handleIdentify] at h
      rcases harguments : identifyArguments envelope.object with _ | ⟨d, randomSeed⟩ <;>
        rw [harguments] at h
      · cases h
      · obtain ⟨rfl, hencode⟩ := encode_of_mem_sendRpc h
        exact ⟨hencode, .inl rfl⟩
    · obtain ⟨rfl, hencode⟩ := encode_of_mem_sendRpc h
      exact ⟨hencode, .inr ⟨envelope, sid, code, rfl, hdecision, rfl⟩⟩
    · simp at h
  -- what throws inside is answered once more
  unfold onBytes at h
  rcases hresult : adapter.tryBytes lib around data with ⟨after, effects, _ | _⟩ <;>
    rw [hresult] at h htry
  · obtain ⟨hencode, hkind⟩ := htry h
    exact ⟨hencode, hkind.imp id .inl⟩
  · rcases List.mem_append.mp h with h | h
    · obtain ⟨hencode, hkind⟩ := htry h
      exact ⟨hencode, hkind.imp id .inl⟩
    · obtain ⟨rfl, hencode⟩ := encode_of_mem_sendRpc h
      exact ⟨hencode, .inr (.inr ⟨rfl, rfl⟩)⟩

/-! ### The document of an error -/

/-- The `d` of an error. -/
def errorBody (requestId : UInt32) (code : ErrorCode) : Json :=
  (emptyObject.set "id" (.unsigned requestId.toUInt64)).set "status"
    (JsonRpcEncoder.statusObject code)

/-- The op of the error for a message. -/
def errorOp (requestOp : RpcOp) : RpcOp :=
  if requestOp = RpcOp.requestBatch then RpcOp.requestBatchResponse else RpcOp.requestResponse

theorem document_errorPayload {sid : Bytes} {requestId : UInt32} {code : ErrorCode} {op : RpcOp}
    {endpoint : EndpointMetadata} :
    JsonRpcEncoder.document lib (adapter.errorPayload sid requestId code op endpoint) =
      addEndpointMetadata (JsonRpcEncoder.envelope (if sid = [] then adapter.sid else sid)
        (errorOp op) (errorBody requestId code)) endpoint := by
  have hbody : JsonRpcEncoder.bytesToJson lib [] = none := rfl
  by_cases hop : op = RpcOp.requestBatch
  · have hpayload : (adapter.errorPayload sid requestId code op endpoint).op =
        RpcOp.requestBatchResponse := if_pos hop
    unfold JsonRpcEncoder.document
    rw [hpayload, errorOp, if_pos hop]
    rfl
  · have hpayload : (adapter.errorPayload sid requestId code op endpoint).op =
        RpcOp.requestResponse := if_neg hop
    unfold JsonRpcEncoder.document
    rw [hpayload, errorOp, if_neg hop]
    have hstatus : JsonRpcEncoder.responseStatus lib
        (adapter.errorPayload sid requestId code op endpoint) = code :=
      if_neg fun h => h.2.1 rfl
    have hempty : (adapter.errorPayload sid requestId code op endpoint).body = [] := rfl
    simp only [JsonRpcEncoder.responseDocument, hstatus, hempty, hbody]
    rfl

/-- A response that stands for an error: its text is that of an envelope with the error in it. -/
structure ErrorText (lib : JsonLibrary) (op : RpcOp) (requestId : UInt32)
    (bytes : Bytes) : Prop where
  isResponse : op = RpcOp.requestResponse ∨ op = RpcOp.requestBatchResponse
  text : ∃ document sid code endpoint, lib.parse bytes = some document.normalize ∧
    Envelops document sid op (errorBody requestId code) endpoint

theorem errorOp_isResponse (op : RpcOp) :
    errorOp op = RpcOp.requestResponse ∨ errorOp op = RpcOp.requestBatchResponse := by
  unfold errorOp
  split_ifs
  · exact .inr rfl
  · exact .inl rfl

/-- **An error** that is written is the text of its document. -/
theorem errorText_of_encode (hlib : lib.Lawful) (hdump : lib.DumpsText) {sid : Bytes}
    {requestId : UInt32} {code : ErrorCode} {op : RpcOp} {endpoint : EndpointMetadata}
    (h : JsonRpcEncoder.encode lib (adapter.errorPayload sid requestId code op endpoint) =
      some bytes) : ErrorText lib (errorOp op) requestId bytes := by
  obtain ⟨document, hdocument, hparse⟩ := JsonRpcEncoder.parse_of_encode hlib hdump h
  rw [document_errorPayload] at hdocument
  exact ⟨errorOp_isResponse op, document, _, code, endpoint, hparse, envelops_of_add hdocument⟩

/-! ### An error at the core -/

/-- What is decoded of an error is a response with its id that the decoder did not make itself. -/
theorem ErrorText.decodePayload (hlib : lib.Lawful) {op : RpcOp} {requestId : UInt32}
    (h : ErrorText lib op requestId bytes) {source : SourceProtocol}
    {methodLookup eventLookup : NameLookup} {received : RpcPayload}
    (hdecode : JsonRpcPayloadDecoder.decodePayload lib bytes source methodLookup eventLookup =
      some received) :
    received.op = op ∧ received.requestId = requestId ∧
      received.meta_.localGeneratedResponse = false := by
  obtain ⟨document, sid, code, endpoint, hparse, henvelops⟩ := h.text
  have hid : (errorBody requestId code).find "id" = some (.unsigned requestId.toUInt64) := by
    rw [errorBody, find_set_of_ne (by rfl) (by decide), find_set_self (by rfl)]
  have hobject : (errorBody requestId code).isObject = true := by
    rw [errorBody, isObject_set, isObject_set]
    rfl
  have hresponse : JsonRpcPayloadDecoder.decodeResponse lib document (errorBody requestId code) op
      source = some received := by
    rw [decodePayload_of_parse source methodLookup eventLookup hlib hparse] at hdecode
    simp only [JsonRpcPayloadDecoder.decodeObject, henvelops.op, henvelops.body, hobject,
      Option.bind_eq_bind, Option.bind_some] at hdecode
    rcases h.isResponse with rfl | rfl
    · exact hdecode
    · exact hdecode
  simp only [JsonRpcPayloadDecoder.decodeResponse, Option.bind_eq_bind,
    parseRequestId_of_find hid (.inl rfl), Option.bind_some, henvelops.fillJsonMeta,
    Option.bind_eq_some_iff] at hresponse
  obtain ⟨statusCode, -, hresponse⟩ := hresponse
  -- whatever the status says, the op and the id are those of the text
  split at hresponse <;> split_ifs at hresponse
  · simp only [Option.bind_eq_some_iff] at hresponse
    obtain ⟨body, -, hresponse⟩ := hresponse
    obtain rfl := Option.some.inj hresponse
    exact ⟨rfl, rfl, rfl⟩
  · simp only [Option.bind_eq_some_iff] at hresponse
    obtain ⟨body, -, hresponse⟩ := hresponse
    obtain rfl := Option.some.inj hresponse
    exact ⟨rfl, rfl, rfl⟩
  · obtain rfl := Option.some.inj hresponse
    exact ⟨rfl, rfl, rfl⟩

/-- The calls with other ids are as before. -/
def OthersKept (requestId : UInt32) (table table' : PendingCallTable) : Prop :=
  ∀ id, id ≠ requestId →
    (id ∈ table'.pending ↔ id ∈ table.pending) ∧ table'.resolved id = table.resolved id

theorem othersKept_resolve (table : PendingCallTable) (requestId : UInt32) (payload : RpcPayload) :
    OthersKept requestId table (table.resolve requestId payload) := by
  intro id hid
  unfold PendingCallTable.resolve
  split_ifs
  · exact ⟨Iff.rfl, rfl⟩
  · exact ⟨Iff.rfl, rfl⟩
  · exact ⟨by simp [hid], Function.update_of_ne hid _ _⟩
  · exact ⟨by simp [hid], Function.update_of_ne hid _ _⟩

/-- A response that came from the peer is dropped, or resolves the call with its id. -/
theorem handleResponse_of_received (lib : JsonLibrary) (core : AxtpCore) (ingress : Ingress)
    {payload : RpcPayload} (hlocal : payload.meta_.localGeneratedResponse = false) :
    core.handleResponse lib ingress payload = (core, .returned) ∨
      core.handleResponse lib ingress payload =
        ({ core with pendingCalls := core.pendingCalls.resolve payload.requestId payload },
          .returned) := by
  unfold AxtpCore.handleResponse
  rw [if_neg (by rw [hlocal]; decide)]
  split_ifs
  · exact .inl rfl
  · exact .inr rfl

/-- **An error at a core** touches no call but that of its id, and nothing is written. -/
theorem ErrorText.handleBytes (hlib : lib.Lawful) {op : RpcOp} {requestId : UInt32}
    (h : ErrorText lib op requestId bytes) {core : AxtpCore}
    (hmode : core.inbound.wireMode = .webSocketJsonRpc) (ingress : ℕ → Ingress) :
    OthersKept requestId core.pendingCalls (core.handleBytes lib ingress bytes).1.pendingCalls ∧
      (core.handleBytes lib ingress bytes).1.outboundBytes = core.outboundBytes := by
  simp only [AxtpCore.handleBytes, InboundProcessor.onBytes, hmode, if_true, JsonRpcDecoder.onBytes,
    JsonRpcPayloadDecoder.decode]
  rcases hdecode : JsonRpcPayloadDecoder.decodePayload lib bytes .jsonRpc
    core.inbound.jsonRpcDecoder.methodLookup core.inbound.jsonRpcDecoder.eventLookup
      with _ | received
  · exact ⟨fun _ _ => ⟨Iff.rfl, rfl⟩, rfl⟩
  obtain ⟨hop, hid, hlocal⟩ := h.decodePayload hlib hdecode
  have hresponse : (core.handleRpc lib (ingress 0) received) =
      core.countActivity.handleResponse lib (ingress 0) received := by
    rcases h.isResponse with hkind | hkind <;> simp only [AxtpCore.handleRpc, hop, hkind] <;> rfl
  simp only [AxtpCore.payloadSink, AxtpCore.onPayload, hresponse]
  rcases handleResponse_of_received lib core.countActivity (ingress 0) hlocal with hkept | hresolved
  · rw [hkept]
    exact ⟨fun _ _ => ⟨Iff.rfl, rfl⟩, rfl⟩
  · rw [hresolved, ← hid]
    exact ⟨othersKept_resolve _ _ _, rfl⟩

/-! ### An error at another adapter -/

/-- The message is an event or a response that an identified adapter rejects for its sid. -/
def RejectedForSid (lib : JsonLibrary) (adapter : WebSocketJsonRpcAdapter) (data : Bytes) : Prop :=
  ∃ envelope, readEnvelope lib data = some envelope ∧ adapter.identified = true ∧
    (envelope.op = RpcOp.event ∨ envelope.op = RpcOp.requestResponse) ∧
    adapter.isAcceptedSid (parseSid envelope.object) = false

theorem decision_of_response {envelope : Envelope}
    (hop : envelope.op = RpcOp.requestResponse ∨ envelope.op = RpcOp.requestBatchResponse)
    (hsid : ¬ (adapter.identified = true ∧ envelope.op = RpcOp.requestResponse ∧
      adapter.isAcceptedSid (parseSid envelope.object) = false)) :
    adapter.decision envelope = .forward := by
  rcases hop with hop | hop
  · have hrest : ¬ (adapter.identified = true ∧
        ¬ adapter.isAcceptedSid (parseSid envelope.object) = true) := fun h =>
      hsid ⟨h.1, hop, (Bool.not_eq_true _).mp h.2⟩
    simp only [decision, hop]
    rw [if_neg (by decide), if_neg (fun h => absurd h.2 (by decide)),
      if_neg (fun h => hrest ⟨h.1, h.2.2⟩), if_neg (by decide)]
  · simp only [decision, hop]
    rw [if_neg (by decide), if_neg (fun h => absurd h.2 (by decide)),
      if_neg (fun h => absurd h.2.1 (by decide)), if_neg (by decide)]

/-- **An error at an adapter** that does not reject it for its sid is passed on; if the core and the
poll of the endpoint return, nothing is written. -/
theorem ErrorText.onBytes {op : RpcOp} {requestId : UInt32} (h : ErrorText lib op requestId bytes)
    (hforwarding : around.forwarding = .returned) (hsid : ¬ RejectedForSid lib adapter bytes) :
    (adapter.onBytes lib around bytes).2.1 = [.forward bytes] := by
  obtain ⟨document, sid, code, endpoint, hparse, henvelops⟩ := h.text
  have hread : readEnvelope lib bytes = some ⟨document.normalize, op, endpoint⟩ := by
    simp only [readEnvelope, hparse, parseOp, JsonRpcPayloadDecoder.parseOp_normalize,
      decodeEndpointMetadata_normalize, henvelops.op, henvelops.endpoint, Option.bind_eq_bind,
      Option.bind_some]
    rfl
  have hdecision : adapter.decision ⟨document.normalize, op, endpoint⟩ = .forward :=
    decision_of_response h.isResponse fun hrejected =>
      hsid ⟨_, hread, hrejected.1, .inr hrejected.2.1, hrejected.2.2⟩
  have htry : adapter.tryBytes lib around bytes = (adapter, [.forward bytes], .returned) := by
    rw [tryBytes, hread]
    simp only [hdecision, hforwarding]
  rw [WebSocketJsonRpcAdapter.onBytes, htry]

/-! ### Answers -/

/-- The payload answers the request or the batch, with its id. -/
def AnswersRequest (lib : JsonLibrary) (data : Bytes) (payload : RpcPayload) : Prop :=
  ∃ envelope, readEnvelope lib data = some envelope ∧
    (envelope.op = RpcOp.request ∨ envelope.op = RpcOp.requestBatch) ∧
    payload.requestId = parseRequestId envelope.object

theorem op_of_reject {envelope : Envelope} {sid : Bytes} {code : ErrorCode}
    (h : adapter.decision envelope = .reject sid code)
    (hsid : ¬ (adapter.identified = true ∧
      (envelope.op = RpcOp.event ∨ envelope.op = RpcOp.requestResponse) ∧
      adapter.isAcceptedSid (parseSid envelope.object) = false)) :
    envelope.op = RpcOp.request ∨ envelope.op = RpcOp.requestBatch := by
  unfold decision at h
  simp only at h
  split_ifs at h with hidentify hearly hrejected hbatch
  · exact hearly.2
  · obtain ⟨hidentified, hop, haccepted⟩ := hrejected
    have hnotAccepted := (Bool.not_eq_true _).mp haccepted
    rcases hop with hop | hop | hop | hop
    · exact .inl hop
    · exact .inr hop
    · exact absurd ⟨hidentified, .inl hop, hnotAccepted⟩ hsid
    · exact absurd ⟨hidentified, .inr hop, hnotAccepted⟩ hsid
  · exact .inr hbatch

/-- **Answers of the adapter.** In every state, for every message but an event or a response that it
rejects for its sid: a response that the adapter writes answers a request or a batch with the id of
that message, or is the error with id zero for a message whose handling threw. At a core that reads
it, it touches no call of another id, and an adapter that reads it and does not reject it for its
sid writes nothing. -/
theorem answers_of_mem_onBytes (hlib : lib.Lawful) (hdump : lib.DumpsText)
    (hsid : ¬ RejectedForSid lib adapter data)
    (hwrite : .write payload bytes ∈ (adapter.onBytes lib around data).2.1)
    (hop : payload.op = RpcOp.requestResponse ∨ payload.op = RpcOp.requestBatchResponse) :
    (AnswersRequest lib data payload ∨
        (payload.requestId = 0 ∧ payload.statusCode = ErrorCode.rpcPayloadInvalid ∧
          (adapter.tryBytes lib around data).2.2 = .threw)) ∧
      (∀ (core : AxtpCore) ingress, core.inbound.wireMode = .webSocketJsonRpc →
        OthersKept payload.requestId core.pendingCalls
            (core.handleBytes lib ingress bytes).1.pendingCalls ∧
          (core.handleBytes lib ingress bytes).1.outboundBytes = core.outboundBytes) ∧
      ∀ (peer : WebSocketJsonRpcAdapter) (around' : Surroundings), around'.forwarding = .returned →
        ¬ RejectedForSid lib peer bytes →
          (peer.onBytes lib around' bytes).2.1 = [.forward bytes] := by
  obtain ⟨hencode, hidentified | ⟨envelope, sid, code, hread, hdecision, rfl⟩ | ⟨hthrew, rfl⟩⟩ :=
    cases_of_mem_onBytes hwrite
  · rw [hidentified] at hop
    exact absurd hop (by decide)
  · have herror := errorText_of_encode hlib hdump hencode
    refine ⟨.inl ⟨envelope, hread, op_of_reject hdecision fun h => hsid ⟨envelope, hread, h⟩, rfl⟩,
      fun core ingress hmode => herror.handleBytes hlib hmode ingress,
      fun peer around' hforwarding hpeer => herror.onBytes hforwarding hpeer⟩
  · have herror := errorText_of_encode hlib hdump hencode
    exact ⟨.inr ⟨rfl, rfl, hthrew⟩, fun core ingress hmode => herror.handleBytes hlib hmode ingress,
      fun peer around' hforwarding hpeer => herror.onBytes hforwarding hpeer⟩

/-! ### Two answers -/

/-- An error whose strings are UTF-8 can be written. -/
theorem encode_errorPayload (hlib : lib.Lawful) {sid : Bytes} {requestId : UInt32}
    {code : ErrorCode}
    {op : RpcOp} {endpoint : EndpointMetadata} (hwritable : endpoint.Writable)
    (hendpoint : endpoint.IsUtf8) (hsid : isUtf8 (if sid = [] then adapter.sid else sid) = true) :
    ∃ bytes, JsonRpcEncoder.encode lib (adapter.errorPayload sid requestId code op endpoint) =
      some bytes := by
  have hbody : (errorBody requestId code).Valid :=
    (valid_emptyObject.set (.unsigned _)).set (JsonRpcEncoder.valid_statusObject code)
  have hvalid := valid_addEndpointMetadata (JsonRpcEncoder.valid_envelope (errorOp op) hsid hbody)
    hendpoint (addEndpointMetadata_of_writable _ hwritable)
  obtain ⟨bytes, hdumped, -⟩ := hlib.parse_dump hvalid
  refine ⟨bytes, ?_⟩
  rw [JsonRpcEncoder.encode, document_errorPayload, addEndpointMetadata_of_writable _ hwritable]
  exact hdumped

theorem mem_sendRpc {n : ℕ} (h : JsonRpcEncoder.encode lib payload = some bytes) :
    .write payload bytes ∈ (sendRpc lib around n payload).1 := by
  rw [sendRpc, h]
  exact List.mem_singleton.mpr rfl

/-- A message that cannot be read is answered with the error with id zero. -/
theorem failure_mem_onBytes (h : readEnvelope lib data = none)
    (hencode : JsonRpcEncoder.encode lib adapter.failure = some bytes) :
    .write adapter.failure bytes ∈ (adapter.onBytes lib around data).2.1 := by
  rw [WebSocketJsonRpcAdapter.onBytes, tryBytes, h]
  exact mem_sendRpc hencode

/-- A response with id 7 and the sid `X`. -/
def responseText : Bytes :=
  ascii "\x7b\"d\":\x7b\"id\":7,\"status\":\x7b\"code\":0,\"ok\":true\x7d\x7d,\"op\":8,\"sid\":\"X\"\x7d"

/-- The error of a new adapter. -/
def failureText : Bytes :=
  ascii "\x7b\"d\":\x7b\"id\":0," ++
    ascii "\"status\":\x7b\"code\":51,\"msg\":\"RPC_PAYLOAD_INVALID\",\"ok\":false\x7d\x7d," ++
    ascii "\"op\":8,\"sid\":\"9E3779B9\"\x7d"

def responseTexts : List (Bytes × Json) :=
  [(responseText,
      JsonRpcEncoder.envelope (ascii "X") RpcOp.requestResponse (errorBody 7 ErrorCode.success)),
    (failureText, JsonRpcEncoder.envelope (ascii "9E3779B9") RpcOp.requestResponse
      (errorBody 0 ErrorCode.rpcPayloadInvalid))]

theorem proper_responseTexts : JsonLibrary.Proper responseTexts where
  texts := by decide +kernel
  values := by
    simp only [responseTexts, List.forall_mem_cons]
    refine ⟨?_, ?_, List.forall_mem_nil _⟩ <;>
      exact JsonRpcEncoder.valid_envelope _ (isUtf8_ascii _)
        ((valid_emptyObject.set (.unsigned _)).set (JsonRpcEncoder.valid_statusObject _))
  heads := by decide +kernel

theorem readEnvelope_responseText : (readEnvelope (.dumping responseTexts) responseText).map
    (fun envelope => (envelope.op, parseSid envelope.object, parseRequestId envelope.object,
      envelope.endpoint)) = some (RpcOp.requestResponse, ascii "X", 7, {}) := by
  decide +kernel

theorem readEnvelope_brace : readEnvelope (.dumping responseTexts) [0x7B] = none := by
  have hparse : (JsonLibrary.dumping responseTexts).parse [0x7B] = none :=
    (JsonLibrary.parse_brace rfl (by decide +kernel) :
      (JsonLibrary.knowing responseTexts).parse [0x7B] = none)
  rw [readEnvelope, hparse]
  rfl

theorem encode_failure :
    JsonRpcEncoder.encode (.dumping responseTexts) start.failure = some failureText := by
  decide +kernel

/-- A new adapter that cannot read a message answers with id zero. -/
theorem answers_of_mem_onBytes_brace :
    .write start.failure failureText ∈
        (start.onBytes (.dumping responseTexts) {} [0x7B]).2.1 ∧
      (AnswersRequest (.dumping responseTexts) [0x7B] start.failure ∨
        (start.failure.requestId = 0 ∧
          start.failure.statusCode = ErrorCode.rpcPayloadInvalid ∧
          (start.tryBytes (.dumping responseTexts) {} [0x7B]).2.2 = .threw)) := by
  have hlib := JsonLibrary.lawful_dumping proper_responseTexts
  have hwrite := @failure_mem_onBytes _ {} _ _ _ readEnvelope_brace encode_failure
  refine ⟨hwrite, (answers_of_mem_onBytes hlib (JsonLibrary.dumpsText_dumping _) ?_ hwrite
    (.inl rfl)).1⟩
  rintro ⟨envelope, hread, -⟩
  rw [readEnvelope_brace] at hread
  cases hread

/-- An adapter whose session has the sid `S`. -/
def identifiedAdapter : WebSocketJsonRpcAdapter := { identified := true, sid := ascii "S" }

/-- A message that cannot be read is answered although it is no request, and so is a response with
another sid, with the id of that response. -/
theorem not_answersOnlyRequests :
    (∃ payload bytes,
        .write payload bytes ∈ (start.onBytes (.dumping responseTexts) {} [0x7B]).2.1 ∧
        payload.op = RpcOp.requestResponse ∧
        ¬ AnswersRequest (.dumping responseTexts) [0x7B] payload) ∧
      ∃ payload bytes,
        .write payload bytes ∈
          (identifiedAdapter.onBytes (.dumping responseTexts) {} responseText).2.1 ∧
        payload.op = RpcOp.requestResponse ∧ payload.requestId = 7 ∧
        ¬ AnswersRequest (.dumping responseTexts) responseText payload := by
  have hlib := JsonLibrary.lawful_dumping proper_responseTexts
  constructor
  · -- a text that is no envelope is answered with the id 0
    refine ⟨start.failure, failureText,
      @failure_mem_onBytes _ {} _ _ _ readEnvelope_brace encode_failure, rfl, ?_⟩
    rintro ⟨envelope, hread, -⟩
    rw [readEnvelope_brace] at hread
    cases hread
  · -- a response with the wrong sid is answered with a response
    obtain ⟨envelope, hread, heq⟩ := Option.map_eq_some_iff.mp readEnvelope_responseText
    obtain ⟨hop, hsid, hid, hendpoint⟩ : envelope.op = RpcOp.requestResponse ∧
        parseSid envelope.object = ascii "X" ∧ parseRequestId envelope.object = 7 ∧
        envelope.endpoint = {} := by simpa using heq
    have hdecision : identifiedAdapter.decision envelope =
        .reject (ascii "S") ErrorCode.rpcPayloadInvalid := by
      simp only [decision, hop, hsid]
      decide
    have hutf8 : (responseEndpointMetadata envelope.endpoint).IsUtf8 := by
      rw [hendpoint]
      simp [EndpointMetadata.IsUtf8, responseEndpointMetadata]
    obtain ⟨bytes, hencode⟩ := @encode_errorPayload _ identifiedAdapter hlib (ascii "S")
      (parseRequestId envelope.object) ErrorCode.rpcPayloadInvalid envelope.op _
      (by rw [hendpoint]; decide) hutf8 (by decide +kernel)
    refine ⟨identifiedAdapter.rejection envelope (ascii "S") ErrorCode.rpcPayloadInvalid, bytes, ?_,
      ?_, hid, ?_⟩
    · rw [WebSocketJsonRpcAdapter.onBytes, tryBytes, hread]
      simp only [hdecision]
      rw [sendRpc, rejection, hencode]
      exact List.mem_singleton.mpr rfl
    · rw [rejection, hop]
      rfl
    · rintro ⟨envelope', hread', hrequest, -⟩
      obtain rfl := Option.some.inj (hread.symm.trans hread')
      rw [hop] at hrequest
      exact absurd hrequest (by decide)

end WebSocketJsonRpcAdapter

end Axtp
