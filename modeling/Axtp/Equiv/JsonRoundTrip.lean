/-
  JSON texts from the encoder to the decoder.

  What is encoded is the text of its document, and the document is valid; parsing the
  text gives its normal form (`parse_of_encode`), and the envelope is read as it was
  written (`Envelops`). A response
  comes back with its status and its result (`response_roundTrip`). A request or an
  event comes back whole exactly when its body is empty or JSON, since any other body
  is left out (`bodyKept_iff`). The decoded op is the one that was sent
  (`op_of_decode`).
-/
import Axtp.Equiv.JsonEnvelope
import Axtp.Equiv.JsonRpcPayloadDecoder
import Axtp.Equiv.NormalForm
import Axtp.Json.Lawful
import Axtp.Wire.OutboundProcessor

namespace Axtp

open Json JsonRpcPayloadDecoder

variable {lib : JsonLibrary}

/-! ### Documents -/

theorem isShaped_addEndpointMetadata {object document : Json} {metadata : EndpointMetadata}
    (hobject : object.isShaped = true) (h : addEndpointMetadata object metadata = some document) :
    document.isShaped = true := by
  rw [addEndpointMetadata_of_writable object (writable_of_addEndpointMetadata h)] at h
  obtain rfl := Option.some.inj h
  have hwire : (wireMetadata metadata).isShaped = true := by
    obtain ⟨src, dst⟩ := metadata
    rcases src with _ | src <;> rcases dst with _ | dst
    · rfl
    · exact isShaped_set isShaped_emptyObject (isShaped_string dst)
    · exact isShaped_set isShaped_emptyObject (isShaped_string src)
    · exact isShaped_set (isShaped_set isShaped_emptyObject (isShaped_string src))
        (isShaped_string dst)
  split_ifs
  · exact isShaped_set hobject hwire
  · exact hobject

namespace JsonRpcEncoder

variable {payload : RpcPayload}

theorem isShaped_envelope {sid : Bytes} {op : RpcOp} {d : Json} (hd : d.isShaped = true) :
    (envelope sid op d).isShaped = true :=
  isShaped_set (isShaped_set (isShaped_set rfl rfl) rfl) hd

theorem isShaped_of_bytesToJson (hlib : lib.Lawful) {bytes : Bytes} {value : Json}
    (h : bytesToJson lib bytes = some value) : value.isShaped = true := by
  unfold bytesToJson at h
  split_ifs at h
  exact (hlib.valid_of_parse h).isShaped

/-- The name of a method that is written. -/
def writtenMethod (payload : RpcPayload) : Bytes :=
  if payload.meta_.jsonMethodOrEventName = [] then
    (RegistryLookup.methodById payload.methodOrEventId.toUInt16).getD
      (ascii (toString payload.methodOrEventId.toNat))
  else payload.meta_.jsonMethodOrEventName

/-- The name of an event that is written. -/
def writtenEvent (payload : RpcPayload) : Bytes :=
  if payload.meta_.jsonMethodOrEventName = [] then
    (RegistryLookup.eventById payload.methodOrEventId.toUInt16).getD []
  else payload.meta_.jsonMethodOrEventName

/-- An object with a member more, if there is a value for it. -/
def withMember (object : Json) (key : String) (value : Option Json) : Json :=
  match value with
  | some value => object.set key value
  | none => object

theorem isObject_withMember (object : Json) (key : String) (value : Option Json) :
    (withMember object key value).isObject = object.isObject := by
  cases value with
  | some value => exact isObject_set object key value
  | none => rfl

theorem isShaped_withMember {object : Json} {key : String} {value : Option Json}
    (hobject : object.isShaped = true) (hvalue : ∀ v, value = some v → v.isShaped = true) :
    (withMember object key value).isShaped = true := by
  cases value with
  | some value => exact isShaped_set hobject (hvalue value rfl)
  | none => exact hobject

theorem find_withMember_self {object : Json} (hobject : object.isObject = true) {key : String}
    (hnone : object.find key = none) (value : Option Json) :
    (withMember object key value).find key = value := by
  cases value with
  | some value => exact find_set_self hobject key value
  | none => exact hnone

theorem find_withMember_of_ne {object : Json} (hobject : object.isObject = true) {key k : String}
    (hne : ascii k ≠ ascii key) (value : Option Json) :
    (withMember object key value).find k = object.find k := by
  cases value with
  | some value => exact find_set_of_ne hobject hne value
  | none => rfl

/-- The `d` of a request. -/
def requestBody (lib : JsonLibrary) (payload : RpcPayload) : Json :=
  withMember ((emptyObject.set "id" (.unsigned payload.requestId.toUInt64)).set "method"
    (.string (writtenMethod payload))) "params" (bytesToJson lib payload.body)

/-- The `d` of an event. -/
def eventBody (lib : JsonLibrary) (payload : RpcPayload) : Json :=
  withMember (emptyObject.set "event" (.string (writtenEvent payload))) "data"
    (bytesToJson lib payload.body)

/-- The result of a response: its body, when it reports success. -/
def resultOf (lib : JsonLibrary) (payload : RpcPayload) : Option Json :=
  if responseStatus lib payload = ErrorCode.success then bytesToJson lib payload.body else none

/-- The `d` of a response. -/
def responseBody (lib : JsonLibrary) (payload : RpcPayload) : Json :=
  withMember ((emptyObject.set "id" (.unsigned payload.requestId.toUInt64)).set "status"
    (statusObject (responseStatus lib payload))) "result" (resultOf lib payload)

theorem requestDocument_eq (lib : JsonLibrary) (payload : RpcPayload) :
    requestDocument lib payload =
      addEndpointMetadata (envelope payload.meta_.jsonSid RpcOp.request (requestBody lib payload))
        payload.meta_.endpoint := rfl

theorem responseDocument_eq (lib : JsonLibrary) (payload : RpcPayload) :
    responseDocument lib payload =
      addEndpointMetadata (envelope payload.meta_.jsonSid RpcOp.requestResponse
        (responseBody lib payload)) payload.meta_.endpoint := by
  unfold responseDocument responseBody resultOf withMember
  rcases bytesToJson lib payload.body with _ | result
  · split_ifs <;> rfl
  · simp only
    split_ifs <;> rfl

theorem isShaped_statusObject (code : ErrorCode) : (statusObject code).isShaped = true :=
  (valid_statusObject code).isShaped

/-- Whatever its strings, a document is in shape. -/
theorem isShaped_of_document (hlib : lib.Lawful) {document : Json}
    (h : JsonRpcEncoder.document lib payload = some document) : document.isShaped = true := by
  have hid : (emptyObject.set "id" (.unsigned payload.requestId.toUInt64)).isShaped = true :=
    isShaped_set rfl rfl
  have hbody : ∀ v, bytesToJson lib payload.body = some v → v.isShaped = true :=
    fun v hv => isShaped_of_bytesToJson hlib hv
  have hresult : ∀ v, resultOf lib payload = some v → v.isShaped = true := by
    intro v hv
    unfold resultOf at hv
    split_ifs at hv
    exact hbody v hv
  unfold JsonRpcEncoder.document at h
  split_ifs at h
  · obtain rfl := Option.some.inj h
    exact isShaped_envelope (isShaped_set rfl rfl)
  · obtain rfl := Option.some.inj h
    exact isShaped_envelope (isShaped_set (isShaped_set rfl rfl) rfl)
  · obtain rfl := Option.some.inj h
    exact isShaped_envelope rfl
  · refine isShaped_addEndpointMetadata (isShaped_envelope ?_) h
    exact isShaped_withMember (isShaped_set rfl rfl) hbody
  · refine isShaped_addEndpointMetadata (isShaped_envelope ?_) h
    exact isShaped_withMember (isShaped_set hid rfl) hbody
  · refine isShaped_addEndpointMetadata (isShaped_envelope ?_) h
    exact isShaped_set hid (isShaped_statusObject _)
  · rw [responseDocument_eq] at h
    refine isShaped_addEndpointMetadata (isShaped_envelope ?_) h
    exact isShaped_withMember (isShaped_set hid (isShaped_statusObject _)) hresult

/-- **What is encoded is the text of its document.** A string that is no UTF-8 makes `dump` throw,
so the document of a text is valid. -/
theorem parse_of_encode (hlib : lib.Lawful) (hdump : lib.DumpsText) {text : Bytes}
    (h : encode lib payload = some text) :
    ∃ document, JsonRpcEncoder.document lib payload = some document ∧
      lib.parse text = some document.normalize := by
  obtain ⟨document, hdocument, htext⟩ := Option.bind_eq_some_iff.mp h
  have hisText : document.isText = true := by
    rw [← hdump, htext]
    rfl
  have hvalid := valid_of_isShaped document (isShaped_of_document hlib hdocument) hisText
  obtain ⟨text', hdumped, hparse⟩ := hlib.parse_dump hvalid
  obtain rfl : text' = text := Option.some.inj (hdumped.symm.trans htext)
  exact ⟨document, hdocument, hparse⟩

end JsonRpcEncoder

/-! ### Reading an envelope -/

/-- What the decoder finds in a document. -/
structure Envelops (document : Json) (sid : Bytes) (op : RpcOp) (d : Json)
    (endpoint : EndpointMetadata) : Prop where
  op : parseOp document = some op
  body : document.find "d" = some d
  sid : parseSid document = sid
  endpoint : decodeEndpointMetadata document = some endpoint

/-- An envelope is read as it was written. -/
theorem envelops_of_add {sid : Bytes} {op : RpcOp} {d document : Json} {endpoint : EndpointMetadata}
    (h : addEndpointMetadata (JsonRpcEncoder.envelope sid op d) endpoint = some document) :
    Envelops document sid op d endpoint := by
  obtain ⟨-, hfind⟩ := find_addEndpointMetadata JsonRpcEncoder.isObject_envelope h
  exact {
    op := parseOp_of_find
      ((hfind "op" (by decide)).trans JsonRpcEncoder.find_envelope_op)
    body := (hfind "d" (by decide)).trans JsonRpcEncoder.find_envelope_d
    sid := parseSid_of_find
      ((hfind "sid" (by decide)).trans JsonRpcEncoder.find_envelope_sid)
    endpoint := decodeEndpointMetadata_of_add JsonRpcEncoder.isObject_envelope
      JsonRpcEncoder.find_envelope_m h }

theorem envelops_envelope (sid : Bytes) (op : RpcOp) (d : Json) :
    Envelops (JsonRpcEncoder.envelope sid op d) sid op d {} :=
  envelops_of_add (by rw [addEndpointMetadata, if_pos (by simp [hasEndpointMetadata])])

/-- The request id that was written is read again. -/
theorem parseRequestId_of_find {d : Json} {requestId : UInt32}
    (h : d.find "id" = some (.unsigned requestId.toUInt64)) {allowZero : Bool}
    (hzero : allowZero = true ∨ requestId ≠ 0) :
    parseRequestId d allowZero = some requestId := by
  have hle : ¬ requestId.toUInt64 > 0xFFFFFFFF := by
    rw [gt_iff_lt, UInt64.lt_iff_toNat_lt]
    have := requestId.toNat_lt
    simp
    omega
  have hne : ¬ (¬ allowZero = true ∧ requestId.toUInt64 = 0) := by
    rintro ⟨hnot, heq⟩
    rcases hzero with hallow | hid
    · exact hnot hallow
    · refine hid (UInt32.toNat_inj.mp ?_)
      simpa using congrArg UInt64.toNat heq
  rw [parseRequestId, h]
  simp only [Option.bind_eq_bind, Option.bind_some, getUnsigned]
  rw [if_neg (by tauto)]
  simp

theorem find_statusObject_ok (code : ErrorCode) :
    (JsonRpcEncoder.statusObject code).find "ok" = some (.boolean (code = ErrorCode.success)) := by
  simp only [JsonRpcEncoder.statusObject]
  split_ifs
  · rw [find_set_of_ne (by rfl) (by decide), find_set_of_ne (by rfl) (by decide),
      find_set_self (by rfl)]
  · rw [find_set_of_ne (by rfl) (by decide), find_set_self (by rfl)]

theorem find_statusObject_code (code : ErrorCode) :
    (JsonRpcEncoder.statusObject code).find "code" = some (.unsigned code.value.toUInt64) := by
  simp only [JsonRpcEncoder.statusObject]
  split_ifs
  · rw [find_set_of_ne (by rfl) (by decide), find_set_self (by rfl)]
  · rw [find_set_self (by rfl)]

/-- The status that was written is read again. -/
theorem parseStatusCode_of_find {d : Json} {code : ErrorCode}
    (h : d.find "status" = some (JsonRpcEncoder.statusObject code)) :
    parseStatusCode d = some code := by
  have hle : ¬ code.value.toUInt64 > 0xFFFF := by
    rw [gt_iff_lt, UInt64.lt_iff_toNat_lt]
    have := code.value.toNat_lt
    simp
    omega
  have hsuccess : code = ErrorCode.success ↔ code.value.toUInt64 = 0 := by
    constructor
    · rintro rfl
      rfl
    · intro hzero
      have hvalue : code.value = 0 :=
        UInt16.toNat_inj.mp (by simpa using congrArg UInt64.toNat hzero)
      cases code
      simp_all [ErrorCode.success]
  rw [parseStatusCode, h]
  simp only [Option.bind_eq_bind, Option.bind_some, find_statusObject_ok, find_statusObject_code,
    getBoolean, getUnsigned]
  rw [if_neg hle]
  -- `ok` has to agree with the code, and says so only of success
  by_cases hcode : code = ErrorCode.success
  · rw [if_neg (by simp [hcode, ErrorCode.success])]
    simp
  · have hne := mt hsuccess.mpr hcode
    rw [if_neg (by simp [hcode, hne])]
    simp

variable {document d : Json} {sid : Bytes} {op : RpcOp} {endpoint : EndpointMetadata}
  {payload : RpcPayload} (sourceProtocol : SourceProtocol) (methodLookup eventLookup : NameLookup)

/-- The text of a document is decoded as the document is. -/
theorem decodePayload_of_parse (hlib : lib.Lawful) {text : Bytes}
    (h : lib.parse text = some document.normalize) :
    decodePayload lib text sourceProtocol methodLookup eventLookup =
      decodeObject lib document sourceProtocol methodLookup eventLookup := by
  rw [decodePayload, h, Option.bind_eq_bind, Option.bind_some]
  exact decodeObject_normalize document sourceProtocol methodLookup eventLookup hlib

theorem Envelops.fillJsonMeta (h : Envelops document sid op d endpoint) (payload : RpcPayload) :
    fillJsonMeta payload document sourceProtocol =
      some { payload with
        meta_ := { payload.meta_ with
          sourceProtocol, requestId := payload.requestId, jsonSid := sid, endpoint } } := by
  rw [JsonRpcPayloadDecoder.fillJsonMeta, h.endpoint, h.sid]
  rfl

theorem Envelops.decodeRequestOp (h : Envelops document sid RpcOp.request d endpoint)
    (hd : d.isObject = true) :
    decodeObject lib document sourceProtocol methodLookup eventLookup =
      decodeRequest lib document d sourceProtocol methodLookup := by
  simp only [decodeObject, h.op, h.body, Option.bind_eq_bind, Option.bind_some, hd]
  rfl

theorem Envelops.decodeEventOp (h : Envelops document sid RpcOp.event d endpoint)
    (hd : d.isObject = true) :
    decodeObject lib document sourceProtocol methodLookup eventLookup =
      decodeEvent lib document d sourceProtocol eventLookup := by
  simp only [decodeObject, h.op, h.body, Option.bind_eq_bind, Option.bind_some, hd]
  rfl

theorem Envelops.decodeResponseOp (h : Envelops document sid RpcOp.requestResponse d endpoint)
    (hd : d.isObject = true) :
    decodeObject lib document sourceProtocol methodLookup eventLookup =
      decodeResponse lib document d RpcOp.requestResponse sourceProtocol := by
  simp only [decodeObject, h.op, h.body, Option.bind_eq_bind, Option.bind_some, hd]
  rfl

/-! ### Bodies -/

/-- The received body stands for the same JSON value as the one sent; both are empty, or neither. -/
def SameBody (lib : JsonLibrary) (sent received : Bytes) : Prop :=
  (received = [] ↔ sent = []) ∧
    (sent ≠ [] → ∃ value value', lib.parse sent = some value ∧ lib.parse received = some value' ∧
      value'.same value = true)

/-- The body that the decoder makes of the member that the encoder makes of a body. -/
def bodyReceived (lib : JsonLibrary) (body : Bytes) : Option Bytes :=
  match JsonRpcEncoder.bytesToJson lib body with
  | none => some []
  | some value => lib.dump value

theorem sameBody_of_json (hlib : lib.Lawful) (hempty : lib.parse [] = none) {body : Bytes}
    (hjson : body = [] ∨ (lib.parse body).isSome = true) :
    ∃ received, bodyReceived lib body = some received ∧ SameBody lib body received := by
  by_cases hbody : body = []
  · refine ⟨[], ?_, by simp [SameBody, hbody]⟩
    rw [bodyReceived, JsonRpcEncoder.bytesToJson, if_pos hbody]
  · obtain ⟨value, hparse⟩ := Option.isSome_iff_exists.mp (hjson.resolve_left hbody)
    obtain ⟨received, hdump, hreceived⟩ := hlib.parse_dump (hlib.valid_of_parse hparse)
    refine ⟨received, ?_, ?_, fun _ => ⟨value, _, hparse, hreceived, same_normalize value⟩⟩
    · rw [bodyReceived, JsonRpcEncoder.bytesToJson, if_neg hbody, hparse]
      exact hdump
    · refine iff_of_false (fun h => ?_) hbody
      rw [h, hempty] at hreceived
      cases hreceived

/-- A body that is no JSON text is left out. -/
theorem bodyReceived_of_not_json {body : Bytes} (h : lib.parse body = none) :
    bodyReceived lib body = some [] := by
  by_cases hbody : body = []
  · rw [bodyReceived, JsonRpcEncoder.bytesToJson, if_pos hbody]
  · rw [bodyReceived, JsonRpcEncoder.bytesToJson, if_neg hbody, h]

/-! ### Texts -/

/-- A body. -/
def nameText : Bytes := ascii "\x7b\"name\":\"cam\"\x7d"

def nameObject : Json := emptyObject.set "name" (.string (ascii "cam"))

def fromAToB : EndpointMetadata := { src := some (ascii "a"), dst := some (ascii "b") }

/-- The `d` of a request. -/
def requestD (requestId : UInt64) (method : String) : Json :=
  (emptyObject.set "id" (.unsigned requestId)).set "method" (.string (ascii method))

/-- The `d` of a success. -/
def successD (requestId : UInt64) : Json :=
  (emptyObject.set "id" (.unsigned requestId)).set "status"
    (JsonRpcEncoder.statusObject ErrorCode.success)

def namedRequestText : Bytes :=
  ascii "\x7b\"d\":\x7b\"id\":1,\"method\":\"device.getInfo\"," ++
    ascii "\"params\":\x7b\"name\":\"cam\"\x7d\x7d," ++
    ascii "\"m\":\x7b\"dst\":\"b\",\"src\":\"a\"\x7d,\"op\":7,\"sid\":\"S\"\x7d"

def namedResponseText : Bytes :=
  ascii "\x7b\"d\":\x7b\"id\":7,\"result\":\x7b\"name\":\"cam\"\x7d," ++
    ascii "\"status\":\x7b\"code\":0,\"ok\":true\x7d\x7d," ++
    ascii "\"m\":\x7b\"dst\":\"b\",\"src\":\"a\"\x7d,\"op\":8,\"sid\":\"S\"\x7d"

def bareRequestText : Bytes :=
  ascii "\x7b\"d\":\x7b\"id\":1,\"method\":\"device.getInfo\"\x7d,\"op\":7,\"sid\":\"\"\x7d"

def unknownRequestText : Bytes :=
  ascii "\x7b\"d\":\x7b\"id\":1,\"method\":\"no.such\"\x7d,\"op\":7,\"sid\":\"\"\x7d"

def bareResponseText : Bytes :=
  ascii "\x7b\"d\":\x7b\"id\":0,\"status\":\x7b\"code\":0,\"ok\":true\x7d\x7d," ++
    ascii "\"op\":8,\"sid\":\"\"\x7d"

def rpcTexts : List (Bytes × Json) :=
  [(nameText, nameObject),
    (namedRequestText, (JsonRpcEncoder.envelope (ascii "S") RpcOp.request
      ((requestD 1 "device.getInfo").set "params" nameObject)).set "m" (wireMetadata fromAToB)),
    (namedResponseText, (JsonRpcEncoder.envelope (ascii "S") RpcOp.requestResponse
      ((successD 7).set "result" nameObject)).set "m" (wireMetadata fromAToB)),
    (bareRequestText, JsonRpcEncoder.envelope [] RpcOp.request (requestD 1 "device.getInfo")),
    (unknownRequestText, JsonRpcEncoder.envelope [] RpcOp.request (requestD 1 "no.such")),
    (bareResponseText, JsonRpcEncoder.envelope [] RpcOp.requestResponse (successD 0))]

theorem isUtf8_fromAToB : fromAToB.IsUtf8 := by
  rintro endpoint (h | h) <;> obtain rfl := Option.some.inj h <;> exact isUtf8_ascii _

theorem proper_rpcTexts : JsonLibrary.Proper rpcTexts where
  texts := by decide +kernel
  values := by
    have hname : nameObject.Valid := valid_emptyObject.set (.string (isUtf8_ascii "cam"))
    have hrequest (requestId : UInt64) (method : String) : (requestD requestId method).Valid :=
      (valid_emptyObject.set (.unsigned _)).set (.string (isUtf8_ascii method))
    have hsuccess (requestId : UInt64) : (successD requestId).Valid :=
      (valid_emptyObject.set (.unsigned _)).set (JsonRpcEncoder.valid_statusObject _)
    have hsid := isUtf8_ascii "S"
    have hempty : isUtf8 [] = true := rfl
    have hendpoint := valid_wireMetadata isUtf8_fromAToB
    simp only [rpcTexts, List.forall_mem_cons]
    refine ⟨hname, ?_, ?_, ?_, ?_, ?_, List.forall_mem_nil _⟩
    · exact (JsonRpcEncoder.valid_envelope _ hsid ((hrequest 1 _).set hname)).set hendpoint
    · exact (JsonRpcEncoder.valid_envelope _ hsid ((hsuccess 7).set hname)).set hendpoint
    · exact JsonRpcEncoder.valid_envelope _ hempty (hrequest 1 _)
    · exact JsonRpcEncoder.valid_envelope _ hempty (hrequest 1 _)
    · exact JsonRpcEncoder.valid_envelope _ hempty (hsuccess 0)
  heads := by decide +kernel

theorem lawful_rpcTexts : (JsonLibrary.dumping rpcTexts).Lawful :=
  JsonLibrary.lawful_dumping proper_rpcTexts

theorem parse_nameText : (JsonLibrary.dumping rpcTexts).parse nameText = some nameObject := rfl

/-! ### Responses -/

namespace JsonRpcEncoder

theorem isObject_responseBody (lib : JsonLibrary) (payload : RpcPayload) :
    (responseBody lib payload).isObject = true := by
  rw [responseBody, isObject_withMember, isObject_set, isObject_set]
  rfl

theorem find_responseBody_id :
    (responseBody lib payload).find "id" = some (.unsigned payload.requestId.toUInt64) := by
  rw [responseBody, find_withMember_of_ne (by rfl) (by decide),
    find_set_of_ne (by rfl) (by decide), find_set_self (by rfl)]

theorem find_responseBody_status :
    (responseBody lib payload).find "status" =
      some (statusObject (responseStatus lib payload)) := by
  rw [responseBody, find_withMember_of_ne (by rfl) (by decide), find_set_self (by rfl)]

theorem find_responseBody_result :
    (responseBody lib payload).find "result" = resultOf lib payload := by
  have hnone : ((emptyObject.set "id" (.unsigned payload.requestId.toUInt64)).set "status"
      (statusObject (responseStatus lib payload))).find "result" = none := by
    rw [find_set_of_ne (by rfl) (by decide), find_set_of_ne (by rfl) (by decide)]
    rfl
  exact find_withMember_self (by rfl) hnone _

/-- A response reports success exactly when it is one and its body is empty or JSON. -/
theorem responseStatus_eq_success_iff :
    responseStatus lib payload = ErrorCode.success ↔
      payload.statusCode = ErrorCode.success ∧
        (payload.body = [] ∨ (lib.parse payload.body).isSome = true) := by
  have hbody : payload.body ≠ [] → (bytesToJson lib payload.body).isNone =
      (lib.parse payload.body).isNone := fun h => by rw [bytesToJson, if_neg h]
  unfold responseStatus
  by_cases hcode : payload.statusCode = ErrorCode.success
  · by_cases hempty : payload.body = []
    · simp [hcode, hempty]
    · rcases hparse : lib.parse payload.body with _ | value
      · rw [if_pos ⟨hcode, hempty, by rw [hbody hempty, hparse]; rfl⟩]
        simp [hempty, ErrorCode.rpcBodyDecodeFailed, ErrorCode.success]
      · rw [if_neg fun h => by rw [hbody hempty, hparse] at h; simp at h]
        simp [hcode]
  · rw [if_neg fun h => hcode h.1]
    simp [hcode]

theorem document_of_response (hop : payload.op = RpcOp.requestResponse) :
    JsonRpcEncoder.document lib payload = responseDocument lib payload := by
  rw [JsonRpcEncoder.document, hop]
  rfl

end JsonRpcEncoder

namespace JsonRpcEncoder

theorem valid_responseBody (hlib : lib.Lawful) (payload : RpcPayload) :
    (responseBody lib payload).Valid := by
  have hobject : ((emptyObject.set "id" (.unsigned payload.requestId.toUInt64)).set "status"
      (statusObject (responseStatus lib payload))).Valid :=
    (valid_emptyObject.set (.unsigned _)).set (valid_statusObject _)
  rw [responseBody]
  rcases hresult : resultOf lib payload with _ | result
  · exact hobject
  · refine hobject.set ?_
    unfold resultOf bytesToJson at hresult
    split_ifs at hresult
    exact hlib.valid_of_parse hresult

/-- What a response is received as, with its body. -/
def receivedResponse (lib : JsonLibrary) (payload : RpcPayload) (sourceProtocol : SourceProtocol)
    (body : Bytes) : RpcPayload :=
  { encoding := RpcEncoding.json, op := RpcOp.requestResponse, requestId := payload.requestId
    statusCode := responseStatus lib payload, bodyEncoding := RpcBodyEncoding.none
    meta_ :=
      { sourceProtocol, requestId := payload.requestId, jsonSid := payload.meta_.jsonSid
        endpoint := payload.meta_.endpoint }
    body }

/-- A success carries its result, an error the whole `d`. -/
theorem decodeObject_response (hlib : lib.Lawful) (hempty : lib.parse [] = none)
    (h : Envelops document payload.meta_.jsonSid RpcOp.requestResponse (responseBody lib payload)
      payload.meta_.endpoint) :
    ∃ body, decodeObject lib document sourceProtocol methodLookup eventLookup =
        some (receivedResponse lib payload sourceProtocol body) ∧
      (responseStatus lib payload = ErrorCode.success → SameBody lib payload.body body) := by
  rw [h.decodeResponseOp sourceProtocol methodLookup eventLookup
    (isObject_responseBody lib payload), decodeResponse,
    parseRequestId_of_find find_responseBody_id (.inl rfl),
    parseStatusCode_of_find find_responseBody_status]
  simp only [Option.bind_eq_bind, Option.bind_some, h.fillJsonMeta, find_responseBody_result]
  by_cases hsuccess : responseStatus lib payload = ErrorCode.success
  · obtain ⟨received, hreceived, hsame⟩ := sameBody_of_json hlib hempty
      (responseStatus_eq_success_iff.mp hsuccess).2
    refine ⟨received, ?_, fun _ => hsame⟩
    rw [bodyReceived] at hreceived
    rw [resultOf, if_pos hsuccess]
    rcases hresult : bytesToJson lib payload.body with _ | result <;> rw [hresult] at hreceived
    · obtain rfl := Option.some.inj hreceived
      simp [hsuccess, receivedResponse]
    · simp only at hreceived
      simp [hsuccess, hreceived, receivedResponse]
  · obtain ⟨received, hreceived, -⟩ := hlib.parse_dump (valid_responseBody hlib payload)
    refine ⟨received, ?_, fun h => absurd h hsuccess⟩
    rw [resultOf, if_neg hsuccess]
    simp [hsuccess, hreceived, receivedResponse]

theorem responseStatus_eq (lib : JsonLibrary) (payload : RpcPayload) :
    responseStatus lib payload =
      if payload.statusCode = ErrorCode.success ∧ payload.body ≠ [] ∧
          lib.parse payload.body = none then ErrorCode.rpcBodyDecodeFailed
        else payload.statusCode := by
  unfold responseStatus bytesToJson
  by_cases hbody : payload.body = []
  · simp [hbody]
  · simp only [hbody, if_false, Option.isNone_iff_eq_none]

end JsonRpcEncoder

open JsonRpcEncoder in
/-- What is written as a response is encoded, and decoded as one. -/
theorem decodePayload_response (hlib : lib.Lawful) (hempty : lib.parse [] = none)
    (hdocument : JsonRpcEncoder.document lib payload = responseDocument lib payload)
    (hsid : isUtf8 payload.meta_.jsonSid = true) (hwritable : payload.meta_.endpoint.Writable)
    (hutf8 : payload.meta_.endpoint.IsUtf8) :
    ∃ text body, encode lib payload = some text ∧
      decodePayload lib text sourceProtocol methodLookup eventLookup =
        some (receivedResponse lib payload sourceProtocol body) ∧
      (responseStatus lib payload = ErrorCode.success → SameBody lib payload.body body) := by
  obtain ⟨document, hadded⟩ : ∃ document, addEndpointMetadata (envelope payload.meta_.jsonSid
      RpcOp.requestResponse (responseBody lib payload)) payload.meta_.endpoint = some document :=
    ⟨_, addEndpointMetadata_of_writable _ hwritable⟩
  -- the document is valid, so it can be dumped, and its text is parsed to its normal form
  have hvalid := valid_addEndpointMetadata (valid_envelope _ hsid (valid_responseBody hlib payload))
    hutf8 hadded
  obtain ⟨text, hdump, hparse⟩ := hlib.parse_dump hvalid
  have hencode : encode lib payload = some text := by
    rw [encode, hdocument, responseDocument_eq, hadded]
    exact hdump
  obtain ⟨body, hdecoded, hsame⟩ := decodeObject_response sourceProtocol methodLookup eventLookup
    hlib hempty (envelops_of_add hadded)
  refine ⟨text, body, hencode, ?_, hsame⟩
  rw [decodePayload_of_parse sourceProtocol methodLookup eventLookup hlib hparse]
  exact hdecoded

theorem decode_of_decodePayload {text : Bytes} {received : Option RpcPayload}
    (h : decodePayload lib text sourceProtocol methodLookup eventLookup = received) :
    JsonRpcPayloadDecoder.decode lib Sink.collect text sourceProtocol methodLookup eventLookup [] =
      (received.map Payload.rpc).toList := by
  rw [JsonRpcPayloadDecoder.decode, h]
  rcases received with _ | received <;> rfl

open JsonRpcEncoder in
/-- **Response round trip.** A response is encoded, and decoded once, with its id, sid, endpoint and
status; success with a body that is not JSON is reported as `RPC_BODY_DECODE_FAILED`, and the result
of a success is the body that was sent. -/
theorem response_roundTrip (hlib : lib.Lawful) (hempty : lib.parse [] = none)
    (hop : payload.op = RpcOp.requestResponse) (hsid : isUtf8 payload.meta_.jsonSid = true)
    (hwritable : payload.meta_.endpoint.Writable) (hutf8 : payload.meta_.endpoint.IsUtf8) :
    ∃ text received, encode lib payload = some text ∧
      JsonRpcPayloadDecoder.decode lib Sink.collect text sourceProtocol methodLookup eventLookup
        [] = [.rpc received] ∧
      received.op = RpcOp.requestResponse ∧ received.requestId = payload.requestId ∧
      received.meta_.jsonSid = payload.meta_.jsonSid ∧
      received.meta_.endpoint = payload.meta_.endpoint ∧
      received.statusCode =
        (if payload.statusCode = ErrorCode.success ∧ payload.body ≠ [] ∧
            lib.parse payload.body = none then ErrorCode.rpcBodyDecodeFailed
          else payload.statusCode) ∧
      (received.statusCode = ErrorCode.success ↔ payload.statusCode = ErrorCode.success ∧
        (payload.body = [] ∨ (lib.parse payload.body).isSome = true)) ∧
      (received.statusCode = ErrorCode.success → SameBody lib payload.body received.body) := by
  obtain ⟨text, body, hencode, hdecode, hsame⟩ := decodePayload_response sourceProtocol methodLookup
    eventLookup hlib hempty (document_of_response hop) hsid hwritable hutf8
  exact ⟨text, receivedResponse lib payload sourceProtocol body, hencode,
    decode_of_decodePayload sourceProtocol methodLookup eventLookup hdecode, rfl, rfl, rfl, rfl,
    responseStatus_eq lib payload, responseStatus_eq_success_iff, hsame⟩

/-- A success with a sid, an endpoint and a result. -/
def namedResponse : RpcPayload :=
  { op := RpcOp.requestResponse, requestId := 7, body := nameText
    meta_ := { jsonSid := ascii "S", endpoint := fromAToB } }

theorem encode_namedResponse :
    JsonRpcEncoder.encode (.dumping rpcTexts) namedResponse = some namedResponseText := by
  decide +kernel

theorem response_roundTrip_named :
    ∃ received, JsonRpcPayloadDecoder.decode (.dumping rpcTexts) Sink.collect namedResponseText
        .jsonRpc none none [] = [.rpc received] ∧
      received.requestId = 7 ∧ received.meta_.jsonSid = ascii "S" ∧
      received.meta_.endpoint = fromAToB ∧ received.statusCode = ErrorCode.success ∧
      SameBody (.dumping rpcTexts) nameText received.body := by
  obtain ⟨text, received, hencode, hdecode, -, hid, hsid, hendpoint, -, hsuccess, hbody⟩ :=
    @response_roundTrip (.dumping rpcTexts) namedResponse .jsonRpc none none lawful_rpcTexts
      proper_rpcTexts.parse_nil rfl (isUtf8_ascii "S") (by decide +kernel) isUtf8_fromAToB
  obtain rfl : namedResponseText = text :=
    Option.some.inj (encode_namedResponse.symm.trans hencode)
  have hjson : ((JsonLibrary.dumping rpcTexts).parse namedResponse.body).isSome = true := by
    show ((JsonLibrary.dumping rpcTexts).parse nameText).isSome = true
    rw [parse_nameText]
    rfl
  have hreported : received.statusCode = ErrorCode.success := hsuccess.mpr ⟨rfl, .inr hjson⟩
  exact ⟨received, hdecode, hid, hsid, hendpoint, hreported, hbody hreported⟩

/-! ### Requests and events -/

namespace JsonRpcEncoder

theorem isObject_requestBody (lib : JsonLibrary) (payload : RpcPayload) :
    (requestBody lib payload).isObject = true := by
  rw [requestBody, isObject_withMember, isObject_set, isObject_set]
  rfl

theorem isObject_eventBody (lib : JsonLibrary) (payload : RpcPayload) :
    (eventBody lib payload).isObject = true := by
  rw [eventBody, isObject_withMember, isObject_set]
  rfl

theorem find_requestBody_id :
    (requestBody lib payload).find "id" = some (.unsigned payload.requestId.toUInt64) := by
  rw [requestBody, find_withMember_of_ne (by rfl) (by decide),
    find_set_of_ne (by rfl) (by decide), find_set_self (by rfl)]

theorem find_requestBody_method :
    (requestBody lib payload).find "method" = some (.string (writtenMethod payload)) := by
  rw [requestBody, find_withMember_of_ne (by rfl) (by decide), find_set_self (by rfl)]

theorem find_requestBody_params :
    (requestBody lib payload).find "params" = bytesToJson lib payload.body := by
  have hnone : ((emptyObject.set "id" (.unsigned payload.requestId.toUInt64)).set "method"
      (.string (writtenMethod payload))).find "params" = none := by
    rw [find_set_of_ne (by rfl) (by decide), find_set_of_ne (by rfl) (by decide)]
    rfl
  exact find_withMember_self (by rfl) hnone _

theorem find_eventBody_event :
    (eventBody lib payload).find "event" = some (.string (writtenEvent payload)) := by
  rw [eventBody, find_withMember_of_ne (by rfl) (by decide), find_set_self (by rfl)]

theorem find_eventBody_data :
    (eventBody lib payload).find "data" = bytesToJson lib payload.body := by
  have hnone : (emptyObject.set "event" (.string (writtenEvent payload))).find "data" = none := by
    rw [find_set_of_ne (by rfl) (by decide)]
    rfl
  exact find_withMember_self (by rfl) hnone _

/-- What a request or an event is received as, with its name and its body. -/
def received (payload : RpcPayload) (requestId : UInt32) (name : Bytes)
    (sourceProtocol : SourceProtocol) (body : Bytes) : RpcPayload :=
  { encoding := RpcEncoding.json, op := payload.op, requestId
    methodOrEventId := payload.methodOrEventId, bodyEncoding := RpcBodyEncoding.none
    meta_ :=
      { sourceProtocol, requestId, jsonSid := payload.meta_.jsonSid
        jsonMethodOrEventName := name, endpoint := payload.meta_.endpoint }
    body }

theorem decodeObject_request (hop : payload.op = RpcOp.request) (hid : payload.requestId ≠ 0)
    (hname : resolveName (writtenMethod payload) methodLookup false = some payload.methodOrEventId)
    (h : Envelops document payload.meta_.jsonSid RpcOp.request (requestBody lib payload)
      payload.meta_.endpoint) :
    decodeObject lib document sourceProtocol methodLookup eventLookup =
      (bodyReceived lib payload.body).map
        (received payload payload.requestId (writtenMethod payload) sourceProtocol) := by
  have hbody : memberToBytes lib (requestBody lib payload) "params" =
      bodyReceived lib payload.body := by
    rw [memberToBytes, find_requestBody_params]
    rfl
  rw [h.decodeRequestOp sourceProtocol methodLookup eventLookup (isObject_requestBody lib payload),
    decodeRequest, find_requestBody_method]
  simp only [Option.bind_eq_bind, Option.bind_some, getString, hname,
    parseRequestId_of_find find_requestBody_id (.inr hid), h.fillJsonMeta, hbody]
  rcases bodyReceived lib payload.body with _ | body
  · rfl
  · simp [received, hop]

theorem decodeObject_event (hop : payload.op = RpcOp.event)
    (hname : resolveName (writtenEvent payload) eventLookup true = some payload.methodOrEventId)
    (h : Envelops document payload.meta_.jsonSid RpcOp.event (eventBody lib payload)
      payload.meta_.endpoint) :
    decodeObject lib document sourceProtocol methodLookup eventLookup =
      (bodyReceived lib payload.body).map
        (received payload 0 (writtenEvent payload) sourceProtocol) := by
  have hbody : memberToBytes lib (eventBody lib payload) "data" =
      bodyReceived lib payload.body := by
    rw [memberToBytes, find_eventBody_data]
    rfl
  rw [h.decodeEventOp sourceProtocol methodLookup eventLookup (isObject_eventBody lib payload),
    decodeEvent, find_eventBody_event]
  simp only [Option.bind_eq_bind, Option.bind_some, getString, hname, h.fillJsonMeta, hbody]
  rcases bodyReceived lib payload.body with _ | body
  · rfl
  · simp [received, hop]

end JsonRpcEncoder

/-- A request with an id, or an event, whose name the peer resolves to its id. -/
def Resolved (payload : RpcPayload) (methodLookup eventLookup : NameLookup) : Prop :=
  (payload.op = RpcOp.request ∧ payload.requestId ≠ 0 ∧
      resolveName (JsonRpcEncoder.writtenMethod payload) methodLookup false =
        some payload.methodOrEventId) ∨
    (payload.op = RpcOp.event ∧
      resolveName (JsonRpcEncoder.writtenEvent payload) eventLookup true =
        some payload.methodOrEventId)

/-- The send is rejected, or the peer receives the payload with its body. -/
def ArrivesWhole (lib : JsonLibrary) (o : OutboundProcessor) (payload : RpcPayload)
    (sourceProtocol : SourceProtocol) (methodLookup eventLookup : NameLookup) : Prop :=
  o.sendRpc lib payload = none ∨
    ∃ text received, o.sendRpc lib payload = some (o, [text]) ∧
      JsonRpcPayloadDecoder.decode lib Sink.collect text sourceProtocol methodLookup eventLookup
        [] = [.rpc received] ∧
      received.op = payload.op ∧
      (payload.op = RpcOp.request → received.requestId = payload.requestId) ∧
      received.methodOrEventId = payload.methodOrEventId ∧
      received.meta_.jsonSid = payload.meta_.jsonSid ∧
      received.meta_.endpoint = payload.meta_.endpoint ∧ SameBody lib payload.body received.body

open JsonRpcEncoder in
/-- What is decoded of the text of a request or an event. -/
theorem decodePayload_of_resolved (hlib : lib.Lawful) (hdump : lib.DumpsText)
    (hresolved : Resolved payload methodLookup eventLookup) {text : Bytes}
    (hencode : encode lib payload = some text) :
    ∃ requestId name, (payload.op = RpcOp.request → requestId = payload.requestId) ∧
      decodePayload lib text sourceProtocol methodLookup eventLookup =
        (bodyReceived lib payload.body).map (received payload requestId name sourceProtocol) := by
  obtain ⟨document, hdocument, hparse⟩ := parse_of_encode hlib hdump hencode
  rw [decodePayload_of_parse sourceProtocol methodLookup eventLookup hlib hparse]
  rcases hresolved with ⟨hop, hid, hname⟩ | ⟨hop, hname⟩
  · have hrequest : requestDocument lib payload = some document := by
      rw [← hdocument, JsonRpcEncoder.document, hop]
      rfl
    exact ⟨payload.requestId, writtenMethod payload, fun _ => rfl,
      decodeObject_request sourceProtocol methodLookup eventLookup hop hid hname
        (envelops_of_add hrequest)⟩
  · have hevent : eventDocument lib payload = some document := by
      rw [← hdocument, JsonRpcEncoder.document, hop]
      rfl
    refine ⟨0, writtenEvent payload, fun h => ?_,
      decodeObject_event sourceProtocol methodLookup eventLookup hop hname (envelops_of_add hevent)⟩
    rw [hop] at h
    exact absurd h (by decide)

theorem sendRpc_webSocket {o : OutboundProcessor} (hmode : o.wireMode = .webSocketJsonRpc) :
    o.sendRpc lib payload =
      (JsonRpcEncoder.encode lib payload).map fun text => (o, [text]) := by
  rw [OutboundProcessor.sendRpc, if_pos hmode]
  rcases JsonRpcEncoder.encode lib payload with _ | text <;> rfl

/-- A body that is empty or JSON arrives. -/
theorem arrivesWhole_of_json (hlib : lib.Lawful) (hdump : lib.DumpsText)
    (hempty : lib.parse [] = none) {o : OutboundProcessor} (hmode : o.wireMode = .webSocketJsonRpc)
    (hresolved : Resolved payload methodLookup eventLookup)
    (hjson : payload.body = [] ∨ (lib.parse payload.body).isSome = true) :
    ArrivesWhole lib o payload sourceProtocol methodLookup eventLookup := by
  rcases hencode : JsonRpcEncoder.encode lib payload with _ | text
  · exact .inl (by rw [sendRpc_webSocket hmode, hencode]; rfl)
  · obtain ⟨requestId, name, hid, hdecode⟩ := decodePayload_of_resolved sourceProtocol methodLookup
      eventLookup hlib hdump hresolved hencode
    obtain ⟨body, hbody, hsame⟩ := sameBody_of_json hlib hempty hjson
    rw [hbody] at hdecode
    exact .inr ⟨text, JsonRpcEncoder.received payload requestId name sourceProtocol body,
      by rw [sendRpc_webSocket hmode, hencode]; rfl,
      decode_of_decodePayload sourceProtocol methodLookup eventLookup hdecode,
      rfl, hid, rfl, rfl, rfl, hsame⟩

/-- Another body is left out, and the payload arrives without one. -/
theorem not_arrivesWhole (hlib : lib.Lawful) (hdump : lib.DumpsText)
    {o : OutboundProcessor} (hmode : o.wireMode = .webSocketJsonRpc)
    (hresolved : Resolved payload methodLookup eventLookup)
    (hencodes : JsonRpcEncoder.Encodes lib payload) (hbody : payload.body ≠ [])
    (hjson : lib.parse payload.body = none) :
    ¬ ArrivesWhole lib o payload sourceProtocol methodLookup eventLookup := by
  obtain ⟨text, hencode⟩ : ∃ text, JsonRpcEncoder.encode lib payload = some text := by
    rcases hencode : JsonRpcEncoder.encode lib payload with _ | text
    · exact absurd hencodes ((jsonEncode_eq_none_iff lib payload).mp hencode)
    · exact ⟨text, rfl⟩
  have hsend : o.sendRpc lib payload = some (o, [text]) := by
    rw [sendRpc_webSocket hmode, hencode]
    rfl
  obtain ⟨requestId, name, -, hdecode⟩ := decodePayload_of_resolved sourceProtocol methodLookup
    eventLookup hlib hdump hresolved hencode
  -- a body that is no JSON is written as no body at all
  rw [bodyReceived_of_not_json hjson] at hdecode
  rintro (hnone | ⟨text', received, htext, hreceived, -, -, -, -, -, hsame⟩)
  · rw [hsend] at hnone
    cases hnone
  · obtain rfl : text = text' := by
      rw [hsend] at htext
      simpa using htext
    rw [decode_of_decodePayload sourceProtocol methodLookup eventLookup hdecode] at hreceived
    obtain rfl : JsonRpcEncoder.received payload requestId name sourceProtocol [] = received := by
      simpa using hreceived
    exact hbody (hsame.1.mp rfl)

/-- **Bodies of requests and events.** In WebSocket mode a request or event whose name the peer
resolves arrives whole, unless the send is rejected, exactly when its body is empty or JSON. -/
theorem arrivesWhole_iff (hlib : lib.Lawful) (hdump : lib.DumpsText) (hempty : lib.parse [] = none)
    {o : OutboundProcessor} (hmode : o.wireMode = .webSocketJsonRpc)
    (hresolved : Resolved payload methodLookup eventLookup) :
    ArrivesWhole lib o payload sourceProtocol methodLookup eventLookup ↔
      ¬ JsonRpcEncoder.Encodes lib payload ∨ payload.body = [] ∨
        (lib.parse payload.body).isSome = true := by
  constructor
  · intro harrives
    by_contra hnot
    simp only [not_or, not_not, Option.not_isSome_iff_eq_none] at hnot
    obtain ⟨hencodes, hbody, hjson⟩ := hnot
    exact not_arrivesWhole sourceProtocol methodLookup eventLookup hlib hdump hmode hresolved
      hencodes hbody hjson harrives
  · rintro (hencodes | hjson)
    · exact .inl (by rw [sendRpc_webSocket hmode, (jsonEncode_eq_none_iff lib payload).mpr hencodes]
                     rfl)
    · exact arrivesWhole_of_json sourceProtocol methodLookup eventLookup hlib hdump hempty hmode
        hresolved hjson

/-- A request with a sid, an endpoint and parameters. -/
def namedRequest : RpcPayload :=
  { requestId := 1, methodOrEventId := 0x0101, body := nameText
    meta_ := { jsonSid := ascii "S", endpoint := fromAToB } }

theorem arrivesWhole_named :
    JsonRpcEncoder.encode (.dumping rpcTexts) namedRequest = some namedRequestText ∧
      ArrivesWhole (.dumping rpcTexts) { wireMode := .webSocketJsonRpc } namedRequest .jsonRpc none
        none := by
  refine ⟨by decide +kernel, (arrivesWhole_iff .jsonRpc none none lawful_rpcTexts
    (JsonLibrary.dumpsText_dumping rpcTexts) proper_rpcTexts.parse_nil rfl
    (.inl ⟨rfl, by decide, by decide +kernel⟩)).mpr (.inr (.inr ?_))⟩
  show ((JsonLibrary.dumping rpcTexts).parse nameText).isSome = true
  rw [parse_nameText]
  rfl

/-- A request whose body is an opening brace arrives with no body. -/
theorem not_arrivesWhole_brace :
    ¬ ArrivesWhole (.dumping rpcTexts) { wireMode := .webSocketJsonRpc }
      { requestId := 1, methodOrEventId := 0x0101, body := [0x7B] } .jsonRpc none none := by
  have hjson : (JsonLibrary.dumping rpcTexts).parse [0x7B] = none :=
    (JsonLibrary.parse_brace rfl (by decide +kernel) :
      (JsonLibrary.knowing rpcTexts).parse [0x7B] = none)
  refine not_arrivesWhole .jsonRpc none none lawful_rpcTexts
    (JsonLibrary.dumpsText_dumping rpcTexts) rfl (.inl ⟨rfl, by decide, by decide +kernel⟩)
    ⟨fun _ => by decide, fun document hdocument => ?_⟩ (by decide) hjson
  have hrequest : JsonRpcEncoder.requestDocument (.dumping rpcTexts)
      { requestId := 1, methodOrEventId := 0x0101, body := [0x7B] } = some document := hdocument
  have hbody : JsonRpcEncoder.bytesToJson (.dumping rpcTexts) [0x7B] = none := hjson
  rw [JsonRpcEncoder.requestDocument_eq, JsonRpcEncoder.requestBody, hbody] at hrequest
  obtain rfl := Option.some.inj hrequest
  rw [JsonLibrary.dumpsText_dumping]
  decide +kernel

/-! ### Ops -/

/-- The ops that the decoder can produce. -/
def decoderOps : List RpcOp :=
  [RpcOp.hello, RpcOp.identify, RpcOp.identified, RpcOp.reidentify, RpcOp.event, RpcOp.request,
    RpcOp.requestResponse, RpcOp.requestBatchResponse]

/-- The decoder's own answer to a request whose method it does not know. -/
def IsUnknownMethod (payload received : RpcPayload) (methodLookup : NameLookup) : Prop :=
  payload.op = RpcOp.request ∧
    resolveName (JsonRpcEncoder.writtenMethod payload) methodLookup false = none ∧
    received.op = RpcOp.requestResponse ∧ received.meta_.localGeneratedResponse = true ∧
    received.statusCode = ErrorCode.rpcMethodNotFound

/-- What an envelope that is no batch is decoded as. -/
theorem op_of_decodeObject (h : Envelops document sid op d endpoint)
    (hbatch : op ≠ RpcOp.requestBatch) {received : RpcPayload}
    (hdecode : decodeObject lib document sourceProtocol methodLookup eventLookup = some received) :
    received.op = op ∨ op = RpcOp.request ∧ UnknownMethod d methodLookup received := by
  simp only [decodeObject, h.op, h.body, Option.bind_eq_bind, Option.bind_some] at hdecode
  split_ifs at hdecode with hd hrequest hresponse hbatchResponse hevent hsession
  · rcases (fromEnvelope_of_decodeRequest hdecode).2 with ⟨hop, -⟩ | hunknown
    · exact .inl (hop.trans hrequest.symm)
    · exact .inr ⟨hrequest, hunknown⟩
  · exact .inl (fromEnvelope_of_decodeResponse hdecode).2.2
  · exact .inl (fromEnvelope_of_decodeResponse hdecode).2.2
  · exact .inl ((fromEnvelope_of_decodeEvent hdecode).2.trans hevent.symm)
  · exact .inl (fromEnvelope_of_decodeSessionRpc hdecode).2

open JsonRpcEncoder in
/-- The op in the document of a payload; every op but these eight is written as a response. -/
theorem envelops_of_document (hop : payload.op ∈ decoderOps)
    (hreidentify : payload.op ≠ RpcOp.reidentify)
    (h : JsonRpcEncoder.document lib payload = some document) :
    ∃ sid d endpoint, Envelops document sid payload.op d endpoint ∧
      (payload.op = RpcOp.request → d = requestBody lib payload) := by
  simp only [decoderOps, List.mem_cons, List.not_mem_nil, or_false] at hop
  unfold JsonRpcEncoder.document at h
  rcases hop with hop | hop | hop | hop | hop | hop | hop | hop <;> rw [hop] at h ⊢
  · obtain rfl := Option.some.inj h
    exact ⟨_, _, _, envelops_envelope _ _ _, fun h => absurd h (by decide)⟩
  · obtain rfl := Option.some.inj h
    exact ⟨_, _, _, envelops_envelope _ _ _, fun h => absurd h (by decide)⟩
  · obtain rfl := Option.some.inj h
    exact ⟨_, _, _, envelops_envelope _ _ _, fun h => absurd h (by decide)⟩
  · exact absurd hop hreidentify
  · exact ⟨_, _, _, envelops_of_add h, fun h => absurd h (by decide)⟩
  · exact ⟨_, _, _, envelops_of_add h, fun _ => rfl⟩
  · rw [if_neg (by decide), if_neg (by decide), if_neg (by decide), if_neg (by decide),
      if_neg (by decide), if_neg (by decide), responseDocument_eq] at h
    exact ⟨_, _, _, envelops_of_add h, fun h => absurd h (by decide)⟩
  · exact ⟨_, _, _, envelops_of_add h, fun h => absurd h (by decide)⟩

open JsonRpcEncoder in
/-- **No confusion of ops.** What is decoded of a payload whose op the decoder can produce, other
than `REIDENTIFY`, has the op that was sent, or is the decoder's own answer to an unknown method. -/
theorem op_of_decode (hlib : lib.Lawful) (hdump : lib.DumpsText) (hop : payload.op ∈ decoderOps)
    (hreidentify : payload.op ≠ RpcOp.reidentify) {text : Bytes} {received : RpcPayload}
    (hencode : encode lib payload = some text)
    (hdecode : decodePayload lib text sourceProtocol methodLookup eventLookup = some received) :
    received.op = payload.op ∨ IsUnknownMethod payload received methodLookup := by
  obtain ⟨document, hdocument, hparse⟩ := parse_of_encode hlib hdump hencode
  rw [decodePayload_of_parse sourceProtocol methodLookup eventLookup hlib hparse] at hdecode
  obtain ⟨sid, d, endpoint, henvelops, hd⟩ := envelops_of_document hop hreidentify hdocument
  have hbatch : payload.op ≠ RpcOp.requestBatch := by
    intro h
    rw [h] at hop
    revert hop
    decide
  rcases op_of_decodeObject sourceProtocol methodLookup eventLookup henvelops hbatch hdecode with
    hsame | ⟨hrequest, hunknown⟩
  · exact .inl hsame
  · have hmethod := hunknown.method
    have hname := hunknown.unresolved
    rw [hd hrequest, find_requestBody_method, Option.bind_some, getString, Option.some.injEq]
      at hmethod
    rw [← hmethod] at hname
    exact .inr ⟨hrequest, hname, hunknown.op, hunknown.localGeneratedResponse, hunknown.statusCode⟩

theorem op_of_decode_named :
    ∃ received, decodePayload (.dumping rpcTexts) namedResponseText .jsonRpc none none =
        some received ∧ received.body = nameText ∧
      (received.op = RpcOp.requestResponse ∨ IsUnknownMethod namedResponse received none) := by
  obtain ⟨received, hdecode, hbody⟩ : ∃ received, decodePayload (.dumping rpcTexts)
      namedResponseText .jsonRpc none none = some received ∧ received.body = nameText := by
    have hbody : (decodePayload (.dumping rpcTexts) namedResponseText .jsonRpc none none).map
        RpcPayload.body = some nameText := by decide +kernel
    exact Option.map_eq_some_iff.mp hbody
  exact ⟨received, hdecode, hbody, op_of_decode .jsonRpc none none lawful_rpcTexts
    (JsonLibrary.dumpsText_dumping rpcTexts) (by decide) (by decide) encode_namedResponse hdecode⟩

/-- A request for a method that nobody knows. -/
def unknownRequest : RpcPayload :=
  { requestId := 1, meta_ := { jsonMethodOrEventName := ascii "no.such" } }

/-- A `REIDENTIFY` arrives as a response with id zero that the zero channel takes, and a request for
an unknown method as the decoder's answer to it. -/
theorem not_op_of_decode :
    (∃ text received,
        JsonRpcEncoder.encode (.dumping rpcTexts) { op := RpcOp.reidentify } = some text ∧
        decodePayload (.dumping rpcTexts) text .jsonRpc none none = some received ∧
        received.op = RpcOp.requestResponse ∧ received.requestId = 0 ∧
        received.meta_.localGeneratedResponse = false) ∧
      ∃ text received, JsonRpcEncoder.encode (.dumping rpcTexts) unknownRequest = some text ∧
        decodePayload (.dumping rpcTexts) text .jsonRpc none none = some received ∧
        received.op = RpcOp.requestResponse := by
  constructor
  · have hread : (decodePayload (.dumping rpcTexts) bareResponseText .jsonRpc none none).map
        (fun received => (received.op, received.requestId, received.meta_.localGeneratedResponse)) =
          some (RpcOp.requestResponse, 0, false) := by decide +kernel
    obtain ⟨received, hdecode, heq⟩ := Option.map_eq_some_iff.mp hread
    simp only [Prod.mk.injEq] at heq
    exact ⟨bareResponseText, received, by decide +kernel, hdecode, heq⟩
  · have hread : (decodePayload (.dumping rpcTexts) unknownRequestText .jsonRpc none none).map
        RpcPayload.op = some RpcOp.requestResponse := by decide +kernel
    obtain ⟨received, hdecode, hop⟩ := Option.map_eq_some_iff.mp hread
    exact ⟨unknownRequestText, received, by decide +kernel, hdecode, hop⟩

end Axtp
