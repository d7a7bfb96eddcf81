/-
  The addresses of a JSON request in the response that is written for it.

  Whatever a request is answered with keeps its id and its sid and has its endpoint
  reversed (`Outcome.answers`). A text that AxtpCore received in WebSocket mode is
  answered with a text, so that all this reaches the peer; the JSON body of a framed
  message is answered in the fixed envelope, which has no room for it, since the
  decoder marks its payload as `axtpV1` (`reverses_iff`).
-/
import Axtp.Equiv.AxtpCore
import Axtp.Equiv.BusinessRouter
import Axtp.Equiv.JsonRoundTrip
import Axtp.Equiv.Truncation
import Axtp.Equiv.WireModes

namespace Axtp

open Json JsonRpcPayloadDecoder

/-! ### The envelope of a decoded request -/

namespace PayloadDecoder

variable {lib : JsonLibrary} {message : Message} {payload : RpcPayload}

/-- What a framed message is decoded to has no endpoint, or was read from a JSON envelope; either
way it is marked as no JSON-RPC. -/
theorem sourceProtocol_of_payloadOf (h : payloadOf lib message = some (.rpc payload)) :
    payload.meta_.sourceProtocol = .axtpV1 := by
  unfold payloadOf at h
  split at h
  · simp at h
  · split_ifs at h
    · simp only [Option.map_eq_some_iff, Payload.rpc.injEq, exists_eq_right] at h
      obtain ⟨_, _, hfrom⟩ := fromEnvelope_of_decodePayload h
      exact hfrom.sourceProtocol
    · simp only [Option.map_eq_some_iff, Payload.rpc.injEq, exists_eq_right] at h
      obtain ⟨-, hmeta⟩ := Truncation.exists_of_decodeFixed h
      rw [hmeta]
  · simp at h

end PayloadDecoder

namespace InboundProcessor

variable {lib : JsonLibrary} {inbound : InboundProcessor} {data : Bytes} {payload : RpcPayload}

theorem sourceProtocol_of_mem_decoded (hmode : inbound.wireMode = .framedBinary)
    (h : .rpc payload ∈ inbound.decoded lib data) : payload.meta_.sourceProtocol = .axtpV1 := by
  rw [decoded_framed lib hmode] at h
  obtain ⟨message, -, hmessage⟩ := List.mem_filterMap.mp h
  exact PayloadDecoder.sourceProtocol_of_payloadOf hmessage

theorem fromEnvelope_of_mem_decoded (hmode : inbound.wireMode = .webSocketJsonRpc)
    (h : .rpc payload ∈ inbound.decoded lib data) :
    ∃ object, lib.parse data = some object ∧ FromEnvelope object .jsonRpc payload := by
  rw [decoded_webSocket lib hmode, Option.mem_toList, Option.map_eq_some_iff] at h
  obtain ⟨payload', hdecode, heq⟩ := h
  obtain rfl := Payload.rpc.inj heq
  exact fromEnvelope_of_decodePayload hdecode

end InboundProcessor

/-! ### Outcomes -/

namespace BusinessRouter

variable {σ : Type*} {router : BusinessRouter σ} {request response : RpcPayload}

/-- A response that a request gets: what the dispatch yields at once, or what a deferred call is
completed with, also when its poll throws. -/
inductive Outcome (router : BusinessRouter σ) (request : RpcPayload) : RpcPayload → Prop
  | immediate {s s' : σ} {response : RpcPayload}
      (h : BusinessExecutor.executeRpcRequest router s request =
        (s', some { response, deferredPoll := none })) :
      Outcome router request response
  | completed {s s' : σ} {response : RpcPayload} {poll : DeferredRpcPoll σ}
      (h : BusinessExecutor.executeRpcRequest router s request =
        (s', some { response, deferredPoll := some poll })) (data : RpcResponseData) :
      Outcome router request (BusinessExecutor.completeRpcRequest response data)
  | pollThrew {s s' : σ} {response : RpcPayload} {poll : DeferredRpcPoll σ}
      (h : BusinessExecutor.executeRpcRequest router s request =
        (s', some { response, deferredPoll := some poll })) :
      Outcome router request { response with statusCode := ErrorCode.internalError }

theorem Outcome.answers (h : Outcome router request response) : Answers request response := by
  cases h with
  | immediate h => exact answers_of_dispatch h
  | completed h data => exact (answers_of_dispatch h).applyResponseData data
  | pollThrew h => exact (answers_of_dispatch h).withStatus _

end BusinessRouter

namespace AxtpCore

open BusinessRouter

variable {lib : JsonLibrary} {core : AxtpCore} {request response : RpcPayload}
  {peer : InboundProcessor}

theorem captureReplyTarget_eq (meta_ : PayloadMeta) (ingress : Ingress) :
    ∃ replyTarget, captureReplyTarget meta_ ingress = { meta_ with replyTarget } := by
  unfold captureReplyTarget
  rcases ingress.replyTarget with _ | _ | replyTarget
  · exact ⟨meta_.replyTarget, rfl⟩
  · exact ⟨0, rfl⟩
  · exact ⟨replyTarget, rfl⟩

/-- The bytes that the core writes for a response of the broker. -/
def responseBytes (lib : JsonLibrary) (core : AxtpCore) (response : RpcPayload) : List Bytes :=
  ((core.handleBrokerResult lib { value := BasicBroker.rpcResult response, origin := none }
    ).1.outboundBytes.drop core.outboundBytes.length).map fun packet => packet.value.bytes

theorem responseBytes_eq (lib : JsonLibrary) (core : AxtpCore) (response : RpcPayload) :
    core.responseBytes lib response =
      ((core.outbound.sendRpc lib response).map Prod.snd).getD [] := by
  unfold responseBytes BasicBroker.rpcResult
  rcases hsend : core.outbound.sendRpc lib response with _ | ⟨o, pieces⟩ <;> split_ifs <;>
    simp [handleBrokerResult, sendBrokerResult, OutboundProcessor.sendRpcResponse,
      OutboundProcessor.sendRpcError, hsend, tryWrite, write, enqueueOutboundBytes,
      Function.comp_def]

/-- Of what the core writes for the response, the peer receives a response with the id and the sid
of the request and its endpoint reversed, and nothing else. -/
def Reverses (lib : JsonLibrary) (core : AxtpCore) (request response : RpcPayload)
    (peer : InboundProcessor) : Prop :=
  ∃ received : RpcPayload,
    (peer.onChunks lib Sink.collect (core.responseBytes lib response) []).2.1 = [.rpc received] ∧
    received.op = RpcOp.requestResponse ∧ received.requestId = request.requestId ∧
    received.meta_.jsonSid = request.meta_.jsonSid ∧
    received.meta_.endpoint = responseEndpointMetadata request.meta_.endpoint

theorem hasEndpointMetadata_response (metadata : EndpointMetadata) :
    hasEndpointMetadata (responseEndpointMetadata metadata) = hasEndpointMetadata metadata :=
  Bool.or_comm _ _

/-- A request that came as a text. -/
theorem reverses_of_webSocket (hlib : lib.Lawful) (hempty : lib.parse [] = none)
    {object : Json} (hobject : object.Valid) (hfrom : FromEnvelope object .jsonRpc request)
    (hlocal : request.meta_.localGeneratedResponse = false)
    (hanswers : ∃ replyTarget, Answers
      { request with meta_ := { request.meta_ with replyTarget } } response)
    (hmode : core.outbound.wireMode = .webSocketJsonRpc)
    (hpeer : peer.wireMode = .webSocketJsonRpc) : Reverses lib core request response peer := by
  obtain ⟨replyTarget, hop, hid, -, hmeta⟩ := hanswers
  obtain ⟨endpoint, hendpoint, heq⟩ := hfrom.endpoint
  rw [hlocal, if_neg Bool.false_ne_true] at heq
  -- what was read of a text can be written in one again
  obtain ⟨hutf8, hwritable⟩ := of_decodeEndpointMetadata hobject hendpoint
  have hsid : isUtf8 response.meta_.jsonSid = true := by
    rw [hmeta]
    show isUtf8 request.meta_.jsonSid = true
    rw [hfrom.sid, parseSid]
    rcases hfind : (object.find "sid").bind getString with _ | sid
    · rfl
    · exact isUtf8_of_find hobject hfind
  have hreversed : response.meta_.endpoint = responseEndpointMetadata endpoint := by
    rw [hmeta]
    exact congrArg responseEndpointMetadata heq
  obtain ⟨text, body, hencode, hdecode, -⟩ :=
    decodePayload_response .jsonRpc peer.jsonRpcDecoder.methodLookup peer.jsonRpcDecoder.eventLookup
      hlib hempty (JsonRpcEncoder.document_of_response hop) hsid
      (by rw [hreversed]; exact hwritable.response) (by rw [hreversed]; exact hutf8.response)
  refine ⟨JsonRpcEncoder.receivedResponse lib response .jsonRpc body, ?_, rfl, hid, ?_, ?_⟩
  · have hbytes : (peer.onBytes lib Sink.collect text []).2.1 =
        [.rpc (JsonRpcEncoder.receivedResponse lib response .jsonRpc body)] := by
      have := InboundProcessor.decoded_webSocket lib hpeer text
      rw [InboundProcessor.decoded, hdecode] at this
      exact this
    have hexit : (peer.onBytes lib Sink.collect text []).2.2 = .returned := by
      rw [InboundProcessor.onBytes, if_pos hpeer]
    have hwritten : core.responseBytes lib response = [text] := by
      rw [responseBytes_eq, sendRpc_webSocket hmode, hencode]
      rfl
    rw [hwritten, InboundProcessor.onChunks]
    rcases hafter : peer.onBytes lib Sink.collect text [] with ⟨after, received, _ | _⟩
    · rw [hafter] at hbytes
      exact hbytes
    · rw [hafter] at hexit
      cases hexit
  · show response.meta_.jsonSid = _
    rw [hmeta]
  · show response.meta_.endpoint = _
    rw [hmeta]

/-- A request that came in a framed message. -/
theorem not_reverses_of_framed (hsource : request.meta_.sourceProtocol = .axtpV1)
    (hendpoint : hasEndpointMetadata request.meta_.endpoint = true)
    (hanswers : ∃ replyTarget, Answers
      { request with meta_ := { request.meta_ with replyTarget } } response)
    (hencoding : response.encoding = RpcEncoding.json)
    (hmode : core.outbound.wireMode = .framedBinary)
    (hmax : core.outbound.messageFragmenter.maxFrameSize ≤ 65549)
    (hpeer : peer.wireMode = .framedBinary) (hidle : Truncation.Idle peer) :
    ¬ Reverses lib core request response peer := by
  obtain ⟨replyTarget, hop, -, -, hmeta⟩ := hanswers
  rintro ⟨received, hreceived, -, -, -, hreversed⟩
  have hrefused : ¬ PayloadEncoder.Refused response := by
    rintro ⟨hbinary, -⟩
    rw [hencoding] at hbinary
    exact absurd hbinary (by decide)
  have hfixed : ¬ PayloadEncoder.TakesJson response := by
    rintro ⟨hjson, -⟩
    rw [hmeta] at hjson
    exact absurd (hsource.symm.trans hjson) (by decide)
  have hwritten : core.responseBytes lib response =
      (core.outbound.sendMessage
        { payloadType := .rpc, body := PayloadEncoder.fixedEnvelope response }).2 := by
    rw [responseBytes_eq, OutboundProcessor.sendRpc, if_neg (by rw [hmode]; decide),
      PayloadCodec.encodeRpc_of_fixed hfixed hrefused]
    rfl
  rw [hwritten] at hreceived
  obtain ⟨m, htype, hpart, hpayload⟩ := Truncation.exists_of_mem_onChunks lib hmax hpeer hidle
    rfl (by rw [hreceived]; exact List.mem_singleton_self _)
  obtain ⟨rpc, heq, -, hplain⟩ := Truncation.exists_of_payloadOf (by rw [hop]; decide) htype hpart
    hpayload
  obtain rfl := Payload.rpc.inj heq
  -- the fixed envelope has no endpoint
  rw [hplain] at hreversed
  rw [← hasEndpointMetadata_response, ← hreversed] at hendpoint
  exact Bool.false_ne_true hendpoint

/-- **Endpoint reversal.** For every request with an endpoint that the core decodes and every
outcome in JSON, the response that the core writes reaches a peer with nothing in flight with the id
and the sid of the request and the endpoint reversed exactly when the bytes are WebSocket texts. -/
theorem reverses_iff {σ : Type*} (hlib : lib.Lawful) (hempty : lib.parse [] = none)
    (hmodes : core.outbound.wireMode = core.inbound.wireMode)
    (hmax : core.inbound.wireMode = .framedBinary →
      core.outbound.messageFragmenter.maxFrameSize ≤ 65549)
    {data : Bytes} (hdecoded : .rpc request ∈ core.inbound.decoded lib data)
    (hop : request.op = RpcOp.request)
    (hendpoint : hasEndpointMetadata request.meta_.endpoint = true) (ingress : Ingress)
    {router : BusinessRouter σ}
    (houtcome : Outcome router
      { request with meta_ := captureReplyTarget request.meta_ ingress } response)
    (hencoding : response.encoding = RpcEncoding.json)
    (hpeer : peer.wireMode = core.inbound.wireMode)
    (hidle : core.inbound.wireMode = .framedBinary → Truncation.Idle peer) :
    Reverses lib core request response peer ↔ core.inbound.wireMode = .webSocketJsonRpc := by
  obtain ⟨replyTarget, hcapture⟩ := captureReplyTarget_eq request.meta_ ingress
  have hanswers := houtcome.answers
  rw [hcapture] at hanswers
  -- text replies carry the endpoint, the fixed envelope has no place for it
  cases hmode : core.inbound.wireMode with
  | webSocketJsonRpc =>
    rw [hmode] at hmodes hpeer
    simp only [iff_true]
    obtain ⟨object, hparse, hfrom⟩ := InboundProcessor.fromEnvelope_of_mem_decoded hmode hdecoded
    have hlocal : request.meta_.localGeneratedResponse = false := by
      rw [InboundProcessor.decoded_webSocket lib hmode, Option.mem_toList, Option.map_eq_some_iff]
        at hdecoded
      obtain ⟨payload, hdecode, heq⟩ := hdecoded
      obtain rfl := Payload.rpc.inj heq
      exact localGeneratedResponse_of_request hdecode hop
    exact reverses_of_webSocket hlib hempty (hlib.valid_of_parse hparse) hfrom hlocal
      ⟨replyTarget, hanswers⟩ hmodes hpeer
  | framedBinary =>
    rw [hmode] at hmodes hpeer
    simp only [reduceCtorEq, iff_false]
    exact not_reverses_of_framed (InboundProcessor.sourceProtocol_of_mem_decoded hmode hdecoded)
      hendpoint ⟨replyTarget, hanswers⟩ hencoding hmodes (hmax hmode) hpeer (hidle hmode)

/-- A request from `a` to `b`. -/
def addressedObject : Json :=
  (JsonRpcEncoder.envelope (ascii "S") RpcOp.request
    ((emptyObject.set "id" (.unsigned 1)).set "method" (.string (ascii "device.getInfo")))).set "m"
    (wireMetadata { src := some (ascii "a"), dst := some (ascii "b") })

def addressedText : Bytes :=
  ascii "\x7b\"d\":\x7b\"id\":1,\"method\":\"device.getInfo\"\x7d," ++
    ascii "\"m\":\x7b\"dst\":\"b\",\"src\":\"a\"\x7d,\"op\":7,\"sid\":\"S\"\x7d"

/-- The answer of a router without handlers. -/
def answerObject : Json :=
  (JsonRpcEncoder.envelope (ascii "S") RpcOp.requestResponse
    ((emptyObject.set "id" (.unsigned 1)).set "status"
      (JsonRpcEncoder.statusObject ErrorCode.rpcMethodNotFound))).set "m"
    (wireMetadata { src := some (ascii "b"), dst := some (ascii "a") })

def answerText : Bytes :=
  ascii "\x7b\"d\":\x7b\"id\":1," ++
    ascii "\"status\":\x7b\"code\":54,\"msg\":\"RPC_METHOD_NOT_FOUND\",\"ok\":false\x7d\x7d," ++
    ascii "\"m\":\x7b\"dst\":\"a\",\"src\":\"b\"\x7d,\"op\":8,\"sid\":\"S\"\x7d"

def addressedTexts : List (Bytes × Json) :=
  [(addressedText, addressedObject), (answerText, answerObject)]

theorem proper_addressedTexts : JsonLibrary.Proper addressedTexts where
  texts := by decide +kernel
  values := by
    simp only [addressedTexts, List.forall_mem_cons]
    refine ⟨?_, ?_, List.forall_mem_nil _⟩
    · refine (JsonRpcEncoder.valid_envelope _ (isUtf8_ascii "S") ?_).set (valid_wireMetadata ?_)
      · exact (valid_emptyObject.set (.unsigned _)).set (.string (isUtf8_ascii _))
      · rintro endpoint (h | h) <;> obtain rfl := Option.some.inj h <;> exact isUtf8_ascii _
    · refine (JsonRpcEncoder.valid_envelope _ (isUtf8_ascii "S") ?_).set (valid_wireMetadata ?_)
      · exact (valid_emptyObject.set (.unsigned _)).set (JsonRpcEncoder.valid_statusObject _)
      · rintro endpoint (h | h) <;> obtain rfl := Option.some.inj h <;> exact isUtf8_ascii _
  heads := by decide +kernel

/-- What is received of it. -/
def addressedRequest (sourceProtocol : SourceProtocol) : RpcPayload :=
  { requestId := 1, methodOrEventId := 0x0101, bodyEncoding := RpcBodyEncoding.none
    meta_ :=
      { sourceProtocol, requestId := 1, jsonSid := ascii "S"
        jsonMethodOrEventName := ascii "device.getInfo"
        endpoint := { src := some (ascii "a"), dst := some (ascii "b") } } }

theorem decodePayload_addressedText (sourceProtocol : SourceProtocol) :
    decodePayload (.dumping addressedTexts) addressedText sourceProtocol none none =
      some (addressedRequest sourceProtocol) := by
  have hparse :
      (JsonLibrary.dumping addressedTexts).parse addressedText = some addressedObject := by
    rfl
  rw [decodePayload, hparse]
  cases sourceProtocol <;> decide +kernel

/-- A router without handlers answers every request at once. -/
theorem exists_outcome (request : RpcPayload) (hencoding : request.encoding = RpcEncoding.json) :
    ∃ response, Outcome ({} : BusinessRouter Unit) request response ∧
      response.encoding = RpcEncoding.json :=
  ⟨_, .immediate (s := ()) rfl, hencoding⟩

/-- The text as a WebSocket message. -/
theorem reverses_iff_addressed :
    ∃ response, Outcome ({} : BusinessRouter Unit) (addressedRequest .jsonRpc) response ∧
      Reverses (.dumping addressedTexts)
        { inbound := { wireMode := .webSocketJsonRpc },
          outbound := { wireMode := .webSocketJsonRpc } }
        (addressedRequest .jsonRpc) response { wireMode := .webSocketJsonRpc } := by
  obtain ⟨response, houtcome, hencoding⟩ := exists_outcome (addressedRequest .jsonRpc) rfl
  have hdecoded : .rpc (addressedRequest .jsonRpc) ∈ InboundProcessor.decoded
      (.dumping addressedTexts) { wireMode := .webSocketJsonRpc } addressedText := by
    rw [InboundProcessor.decoded_webSocket _ rfl, decodePayload_addressedText]
    exact List.mem_singleton_self _
  exact ⟨response, houtcome, (reverses_iff (JsonLibrary.lawful_dumping proper_addressedTexts)
    proper_addressedTexts.parse_nil rfl (fun h => by cases h) hdecoded rfl rfl {} houtcome hencoding
    rfl (fun h => by cases h)).mpr rfl⟩

/-- The text in a frame. -/
def framedRequest : Bytes :=
  FrameEncoder.encode { payload := RpcEncoding.json.value :: addressedText }

/-- A request in a framed message that carries an endpoint and a sid is answered without them. -/
theorem not_reverses_addressed :
    ∃ request response,
      .rpc request ∈ ({} : AxtpCore).inbound.decoded (.dumping addressedTexts) framedRequest ∧
      request.op = RpcOp.request ∧ hasEndpointMetadata request.meta_.endpoint = true ∧
      request.meta_.jsonSid = ascii "S" ∧
      Outcome ({} : BusinessRouter Unit) request response ∧ response.encoding = RpcEncoding.json ∧
      ¬ Reverses (.dumping addressedTexts) {} request response {} := by
  obtain ⟨response, houtcome, hencoding⟩ := exists_outcome (addressedRequest .axtpV1) rfl
  -- the text is a request with a sid and endpoints in its metadata
  have hpayload : PayloadDecoder.payloadOf (.dumping addressedTexts)
      { body := RpcEncoding.json.value :: addressedText } =
        some (.rpc (addressedRequest .axtpV1)) := by
    have hstarts : PayloadDecoder.startsJson (RpcEncoding.json.value :: addressedText) = true := by
      decide
    simp only [PayloadDecoder.payloadOf, hstarts, if_true, List.drop_succ_cons, List.drop_zero,
      decodePayload_addressedText, Option.map_some]
  have hdecoded : .rpc (addressedRequest .axtpV1) ∈
      ({} : AxtpCore).inbound.decoded (.dumping addressedTexts) framedRequest := by
    have hmessages := messages_of_frame {} (RpcEncoding.json.value :: addressedText)
      (by decide +kernel)
    rw [InboundProcessor.decoded_framed _ rfl]
    refine List.mem_filterMap.mpr ⟨_, ?_, hpayload⟩
    rw [framedRequest]
    simp only [hmessages]
    exact List.mem_singleton_self _
  refine ⟨addressedRequest .axtpV1, response, hdecoded, rfl, rfl, rfl, houtcome, hencoding, ?_⟩
  exact not_reverses_of_framed rfl rfl ⟨0, houtcome.answers⟩ hencoding rfl (by decide) rfl
    ⟨rfl, fun _ => rfl⟩

end AxtpCore

end Axtp
