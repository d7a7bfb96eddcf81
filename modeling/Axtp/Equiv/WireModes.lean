/-
  One JSON envelope in two wire modes.

  A text that arrives as a WebSocket message is decoded with the configured lookups;
  as the body of a framed RPC message it is decoded by the same decoder without them.
  The two hand over the same payload, but for its source, exactly when the lookups
  resolve the name of a request or an event that gets through as the registry does
  (`decodesAlike_iff`).
-/
import Axtp.Equiv.InboundProcessor
import Axtp.Equiv.JsonRoundTrip
import Axtp.Equiv.SessionGating
import Axtp.Equiv.Transfer

namespace Axtp

open Json JsonRpcPayloadDecoder

/-- The payload, whichever protocol it came by. -/
def RpcPayload.withoutSource (payload : RpcPayload) : RpcPayload :=
  { payload with meta_ := { payload.meta_ with sourceProtocol := .axtpV1 } }

def Payload.withoutSource : Payload → Payload
  | .rpc payload => .rpc payload.withoutSource
  | payload => payload

variable {lib : JsonLibrary} {object d : Json} {source source' : SourceProtocol}
  {methodLookup methodLookup' eventLookup eventLookup' : NameLookup} {endpoint : EndpointMetadata}

/-! ### The source -/

theorem decodeResponse_withoutSource (lib : JsonLibrary) (object d : Json) (op : RpcOp)
    (source source' : SourceProtocol) :
    (decodeResponse lib object d op source).map RpcPayload.withoutSource =
      (decodeResponse lib object d op source').map RpcPayload.withoutSource := by
  unfold decodeResponse fillJsonMeta
  rcases parseRequestId d true with _ | requestId
  · rfl
  rcases parseStatusCode d with _ | statusCode
  · rfl
  rcases decodeEndpointMetadata object with _ | endpoint
  · rfl
  simp only [Option.bind_eq_bind, Option.bind_some, Option.pure_def]
  rcases d.find "result" with _ | result
  · simp only
    split_ifs
    · rcases lib.dump d <;> rfl
    · rfl
  · simp only
    split_ifs
    · rfl
    · rcases lib.dump result <;> rfl

theorem decodeSessionRpc_withoutSource (lib : JsonLibrary) (object d : Json) (op : RpcOp)
    (source source' : SourceProtocol) :
    (decodeSessionRpc lib object d op source).map RpcPayload.withoutSource =
      (decodeSessionRpc lib object d op source').map RpcPayload.withoutSource := by
  unfold decodeSessionRpc fillJsonMeta
  rcases decodeEndpointMetadata object with _ | endpoint
  · rfl
  simp only [Option.bind_eq_bind, Option.bind_some, Option.pure_def]
  split_ifs
  · rfl
  · rcases parseRandomSeed d with _ | _ | randomSeed <;> rcases lib.dump d <;> rfl
  · rcases lib.dump d <;> rfl

theorem decodeBatch_withoutSource (lib : JsonLibrary) (object d : Json)
    (source source' : SourceProtocol) :
    (decodeBatch lib object d source).map RpcPayload.withoutSource =
      (decodeBatch lib object d source').map RpcPayload.withoutSource := by
  unfold decodeBatch fillJsonMeta
  rcases parseRequestId d true with _ | requestId
  · rfl
  rcases decodeEndpointMetadata object with _ | endpoint
  · rfl
  rcases hdump : lib.dump d <;> simp [RpcPayload.withoutSource]

/-! ### Names -/

/-- A request that gets through is decoded alike exactly when its name means the same. -/
theorem decodeRequest_alike_iff {name body : Bytes} {requestId : UInt32}
    (hname : (d.find "method").bind getString = some name)
    (hid : parseRequestId d false = some requestId)
    (hendpoint : decodeEndpointMetadata object = some endpoint)
    (hbody : memberToBytes lib d "params" = some body) :
    (decodeRequest lib object d source methodLookup).map RpcPayload.withoutSource =
        (decodeRequest lib object d source' methodLookup').map RpcPayload.withoutSource ↔
      resolveName name methodLookup false = resolveName name methodLookup' false := by
  obtain ⟨value, hfind, hstring⟩ := Option.bind_eq_some_iff.mp hname
  unfold decodeRequest fillJsonMeta
  simp only [hfind, hstring, hid, hendpoint, hbody, Option.bind_eq_bind, Option.bind_some,
    Option.pure_def]
  rcases resolveName name methodLookup false with _ | methodId <;>
    rcases resolveName name methodLookup' false with _ | methodId' <;>
    simp [RpcPayload.withoutSource, RpcOp.request, RpcOp.requestResponse]

/-- A request that does not get through is decoded alike. -/
theorem decodeRequest_alike
    (h : ∀ name requestId, (d.find "method").bind getString = some name →
      parseRequestId d false = some requestId → (decodeEndpointMetadata object).isSome = true →
        resolveName name methodLookup false = resolveName name methodLookup' false) :
    (decodeRequest lib object d source methodLookup).map RpcPayload.withoutSource =
      (decodeRequest lib object d source' methodLookup').map RpcPayload.withoutSource := by
  unfold decodeRequest fillJsonMeta
  simp only [← Option.bind_assoc, Option.bind_eq_bind, Option.pure_def]
  rcases hname : (d.find "method").bind getString with _ | name
  · rfl
  simp only [Option.bind_some]
  rcases hid : parseRequestId d false with _ | requestId
  · rcases resolveName name methodLookup false <;>
      rcases resolveName name methodLookup' false <;> rfl
  rcases hendpoint : decodeEndpointMetadata object with _ | endpoint
  · rcases resolveName name methodLookup false <;>
      rcases resolveName name methodLookup' false <;> rfl
  rw [h name requestId hname hid (by rw [hendpoint]; rfl)]
  rcases resolveName name methodLookup' false with _ | methodId
  · rfl
  · rcases memberToBytes lib d "params" <;> rfl

theorem decodeEvent_alike_iff {name body : Bytes}
    (hname : (d.find "event").bind getString = some name)
    (hendpoint : decodeEndpointMetadata object = some endpoint)
    (hbody : memberToBytes lib d "data" = some body) :
    (decodeEvent lib object d source eventLookup).map RpcPayload.withoutSource =
        (decodeEvent lib object d source' eventLookup').map RpcPayload.withoutSource ↔
      resolveName name eventLookup true = resolveName name eventLookup' true := by
  obtain ⟨value, hfind, hstring⟩ := Option.bind_eq_some_iff.mp hname
  unfold decodeEvent fillJsonMeta
  simp only [hfind, hstring, hendpoint, hbody, Option.bind_eq_bind, Option.bind_some,
    Option.pure_def]
  rcases resolveName name eventLookup true with _ | eventId <;>
    rcases resolveName name eventLookup' true with _ | eventId' <;>
    simp [RpcPayload.withoutSource]

theorem decodeEvent_alike
    (h : ∀ name, (d.find "event").bind getString = some name →
      (decodeEndpointMetadata object).isSome = true →
        resolveName name eventLookup true = resolveName name eventLookup' true) :
    (decodeEvent lib object d source eventLookup).map RpcPayload.withoutSource =
      (decodeEvent lib object d source' eventLookup').map RpcPayload.withoutSource := by
  unfold decodeEvent fillJsonMeta
  simp only [← Option.bind_assoc, Option.bind_eq_bind, Option.pure_def]
  rcases hname : (d.find "event").bind getString with _ | name
  · rfl
  simp only [Option.bind_some]
  rcases hendpoint : decodeEndpointMetadata object with _ | endpoint
  · rcases resolveName name eventLookup true <;> rcases resolveName name eventLookup' true <;> rfl
  rw [h name hname (by rw [hendpoint]; rfl)]
  rcases resolveName name eventLookup' true with _ | eventId
  · rfl
  · rcases memberToBytes lib d "data" <;> rfl

/-- The name of a request or an event that gets through means the same with the lookups as in the
registry alone. -/
def NamesAlike (lib : JsonLibrary) (text : Bytes) (methodLookup eventLookup : NameLookup) : Prop :=
  ∀ object d, lib.parse text = some object → object.find "d" = some d → d.isObject = true →
    (decodeEndpointMetadata object).isSome = true →
      (∀ name requestId, parseOp object = some RpcOp.request →
        (d.find "method").bind getString = some name → parseRequestId d false = some requestId →
          resolveName name methodLookup false = resolveName name none false) ∧
      ∀ name, parseOp object = some RpcOp.event → (d.find "event").bind getString = some name →
        resolveName name eventLookup true = resolveName name none true

theorem memberToBytes_of_valid (hlib : lib.Lawful) (hd : d.Valid) (field : String) :
    ∃ body, memberToBytes lib d field = some body := by
  unfold memberToBytes
  rcases hfind : d.find field with _ | value
  · exact ⟨[], rfl⟩
  · obtain ⟨body, hdump, -⟩ := hlib.parse_dump (hd.find hfind)
    exact ⟨body, hdump⟩

/-- Names that mean the same are decoded alike. -/
theorem decodePayload_alike {text : Bytes} (h : NamesAlike lib text methodLookup eventLookup)
    (source source' : SourceProtocol) :
    (decodePayload lib text source methodLookup eventLookup).map RpcPayload.withoutSource =
      (decodePayload lib text source' none none).map RpcPayload.withoutSource := by
  unfold decodePayload decodeObject
  rcases hparse : lib.parse text with _ | object
  · rfl
  simp only [Option.bind_eq_bind, Option.bind_some]
  rcases hop : parseOp object with _ | op
  · rfl
  simp only [Option.bind_some]
  rcases hd : object.find "d" with _ | d
  · rfl
  simp only [Option.bind_some]
  -- only a request and an event look a name up
  split_ifs with hobject hrequest hresponse hbatchResponse hevent hsession hbatch
  · exact decodeRequest_alike fun name requestId hname hid hendpoint =>
      (h object d hparse hd hobject hendpoint).1 name requestId
        (by rw [hop, hrequest]) hname hid
  · exact decodeResponse_withoutSource lib object d op source source'
  · exact decodeResponse_withoutSource lib object d op source source'
  · exact decodeEvent_alike fun name hname hendpoint =>
      (h object d hparse hd hobject hendpoint).2 name (by rw [hop, hevent]) hname
  · exact decodeSessionRpc_withoutSource lib object d op source source'
  · exact decodeBatch_withoutSource lib object d source source'
  · rfl
  · rfl

/-- What is decoded alike has a name that means the same. -/
theorem namesAlike_of_decodePayload (hlib : lib.Lawful) {text : Bytes}
    {source source' : SourceProtocol}
    (h : (decodePayload lib text source methodLookup eventLookup).map RpcPayload.withoutSource =
      (decodePayload lib text source' none none).map RpcPayload.withoutSource) :
    NamesAlike lib text methodLookup eventLookup := by
  intro object d hparse hd hobject hendpoint
  obtain ⟨endpoint, hendpoint⟩ := Option.isSome_iff_exists.mp hendpoint
  have hvalid : d.Valid := (hlib.valid_of_parse hparse).find hd
  unfold decodePayload decodeObject at h
  refine ⟨fun name requestId hop hname hid => ?_, fun name hop hname => ?_⟩
  · obtain ⟨body, hbody⟩ := memberToBytes_of_valid hlib hvalid "params"
    simp only [hparse, hop, hd, hobject, Option.bind_eq_bind, Option.bind_some] at h
    exact (decodeRequest_alike_iff hname hid hendpoint hbody).mp h
  · obtain ⟨body, hbody⟩ := memberToBytes_of_valid hlib hvalid "data"
    simp only [hparse, hop, hd, hobject, Option.bind_eq_bind, Option.bind_some] at h
    exact (decodeEvent_alike_iff hname hendpoint hbody).mp h

/-! ### The two wire modes -/

theorem withoutSource_toList_inj {payload payload' : Option RpcPayload} :
    ((payload.map Payload.rpc).toList.map Payload.withoutSource =
        (payload'.map Payload.rpc).toList.map Payload.withoutSource) ↔
      payload.map RpcPayload.withoutSource = payload'.map RpcPayload.withoutSource := by
  rcases payload with _ | payload <;> rcases payload' with _ | payload' <;>
    simp [Payload.withoutSource]

open Run FrameScan in
/-- **Wire modes.** A JSON text as a WebSocket message and as the body of a framed RPC message hand
over the same payload, up to its source, exactly when the configured lookups resolve its name as the
registry does. -/
theorem decodesAlike_iff (hlib : lib.Lawful) {inbound framed : InboundProcessor}
    (hmode : inbound.wireMode = .webSocketJsonRpc) (hframed : framed.wireMode = .framedBinary)
    {text data : Bytes} {message : Message} (hhead : text.head? = some 0x7B)
    (hmessages : (run MessageReassembler.onFrame framed.messageReassembler
      (frameScanner.feed framed.buffer data).2).2 = [message])
    (htype : message.payloadType = .rpc) (hbody : message.body = RpcEncoding.json.value :: text) :
    (inbound.decoded lib text).map Payload.withoutSource =
        (framed.decoded lib data).map Payload.withoutSource ↔
      NamesAlike lib text inbound.jsonRpcDecoder.methodLookup inbound.jsonRpcDecoder.eventLookup :=
        by
  have hstarts : PayloadDecoder.startsJson message.body = true := by
    obtain ⟨rest, rfl⟩ : ∃ rest, text = 0x7B :: rest := by
      rcases text with _ | ⟨a, rest⟩
      · cases hhead
      · obtain rfl := Option.some.inj hhead
        exact ⟨rest, rfl⟩
    rw [hbody]
    rfl
  -- a body that starts like JSON goes to the text decoder, without lookups
  have hpayload : PayloadDecoder.payloadOf lib message =
      (decodePayload lib text .axtpV1 none none).map Payload.rpc := by
    unfold PayloadDecoder.payloadOf
    rw [htype]
    simp only [hstarts, if_true]
    rw [hbody]
    rfl
  have hlist : [message].filterMap (PayloadDecoder.payloadOf lib) =
      ((decodePayload lib text .axtpV1 none none).map Payload.rpc).toList := by
    rw [List.filterMap_cons, hpayload]
    rcases decodePayload lib text .axtpV1 none none <;> rfl
  rw [InboundProcessor.decoded_webSocket lib hmode, InboundProcessor.decoded_framed lib hframed,
    hmessages, hlist, withoutSource_toList_inj]
  exact ⟨namesAlike_of_decodePayload hlib, fun h => decodePayload_alike h _ _⟩

open Run FrameScan in
/-- A message in one frame. -/
theorem messages_of_frame (r : MessageReassembler) (body : Bytes) (hlength : body.length < 2 ^ 16) :
    (run MessageReassembler.onFrame r
      (frameScanner.feed [] (FrameEncoder.encode { payload := body })).2).2 = [{ body }] := by
  have hencodable : ∀ frame ∈ [({ payload := body } : Frame)], FrameEncoder.Encodable frame := by
    rw [List.forall_mem_singleton]
    exact ⟨rfl, (by decide : (0 : UInt8) < 1), hlength⟩
  have hscan := Transfer.scan_frames hencodable
  rw [List.map_singleton, List.map_singleton, List.flatten_singleton] at hscan
  rw [Scanner.feed, List.nil_append, hscan, run_singleton]
  rfl

open WebSocketJsonRpcAdapter

/-- A processor whose lookup gives a method the id of the registry. -/
def knowingMethod : InboundProcessor :=
  { wireMode := .webSocketJsonRpc
    jsonRpcDecoder :=
      { methodLookup := some fun name =>
          if name = ascii "device.getInfo" then some 0x0101 else none } }

/-- The request in a frame. -/
def framedNamedRequest : Bytes :=
  FrameEncoder.encode { payload := RpcEncoding.json.value :: namedRequestText }

theorem resolveName_knowingMethod (name : Bytes) :
    resolveName name knowingMethod.jsonRpcDecoder.methodLookup false =
      resolveName name none false := by
  by_cases hname : name = ascii "device.getInfo"
  · rw [hname]
    decide +kernel
  · have hnone : (knowingMethod.jsonRpcDecoder.methodLookup.bind fun find => find name) = none :=
      if_neg hname
    unfold resolveName
    rw [hnone]
    rfl

/-- Both modes hand over the request, with its parameters. -/
theorem decodesAlike_named :
    (knowingMethod.decoded (.dumping rpcTexts) namedRequestText).map Payload.withoutSource =
        (({} : InboundProcessor).decoded (.dumping rpcTexts) framedNamedRequest).map
          Payload.withoutSource ∧
      (knowingMethod.decoded (.dumping rpcTexts) namedRequestText).map Payload.withoutSource =
        [.rpc { namedRequest with
          bodyEncoding := RpcBodyEncoding.none
          meta_ := { namedRequest.meta_ with
            requestId := 1, jsonMethodOrEventName := ascii "device.getInfo" } }] := by
  refine ⟨(decodesAlike_iff lawful_rpcTexts rfl rfl (by decide +kernel)
    (messages_of_frame {} _ (by decide +kernel)) rfl rfl).mpr fun _ _ _ _ _ _ =>
      ⟨fun name _ _ _ _ => resolveName_knowingMethod name, fun _ _ _ => rfl⟩, ?_⟩
  decide +kernel

/-- The event text in a frame. -/
def framedEvent : Bytes :=
  FrameEncoder.encode { payload := RpcEncoding.json.value :: eventMessage.data }

/-- A processor whose lookup knows the event. -/
def knowingEvent : InboundProcessor :=
  { wireMode := .webSocketJsonRpc
    jsonRpcDecoder :=
      { eventLookup := some fun name => if name = ascii "e" then some 5 else none } }

/-- An event that only the lookup knows arrives as a WebSocket message, and not in a frame. -/
theorem not_decodesAlike_event :
    ((knowingEvent.setWireMode .webSocketJsonRpc).decoded (.knowing gatingTexts)
        eventMessage.data).map Payload.withoutSource ≠
      ((knowingEvent.setWireMode .framedBinary).decoded (.knowing gatingTexts) framedEvent).map
        Payload.withoutSource := by
  have hwebSocket : (decodePayload (.knowing gatingTexts) eventMessage.data .jsonRpc none
      knowingEvent.jsonRpcDecoder.eventLookup).isSome = true := by decide +kernel
  have hframed : PayloadDecoder.payloadOf (.knowing gatingTexts)
      { body := RpcEncoding.json.value :: eventMessage.data } = none := by decide +kernel
  have hmessages := messages_of_frame {} (RpcEncoding.json.value :: eventMessage.data)
    (by decide +kernel)
  rw [InboundProcessor.decoded_webSocket _ rfl, InboundProcessor.decoded_framed _ rfl]
  intro h
  have hlength := congrArg List.length h
  obtain ⟨payload, hpayload⟩ := Option.isSome_iff_exists.mp hwebSocket
  simp only [InboundProcessor.setWireMode, knowingEvent, framedEvent, hmessages,
    List.filterMap_cons_none hframed] at hlength
  simp only [knowingEvent] at hpayload
  rw [hpayload] at hlength
  simp at hlength

end Axtp
