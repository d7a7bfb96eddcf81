/-
  `JsonRpcPayloadDecoder` (`wire/websocket_json_rpc/inbound/json_rpc_payload_decoder.hpp`)
  and `JsonRpcDecoder` (`json_rpc_decoder.hpp`).

  A text yields at most one payload. Everything in `decode` stands in one `try`
  block that swallows exceptions, the sink's included; `decodePayload` is `none`
  where a throw or an early return leaves the sink uncalled.
-/
import Axtp.Generated.Registries
import Axtp.Lib.Run
import Axtp.Wire.EndpointMetadataCodec

namespace Axtp

/-- `NameLookup`: the application's lookup, if one is set. -/
abbrev NameLookup := Option (Bytes → Option UInt32)

namespace JsonRpcPayloadDecoder

open Json

variable (lib : JsonLibrary)

def resolveName (name : Bytes) (lookup : NameLookup) (eventName : Bool) : Option UInt32 :=
  match lookup.bind fun find => find name with
  | some id => some id
  | none =>
    if eventName then (RegistryLookup.eventIdByName name).map UInt16.toUInt32
    else (RegistryLookup.methodIdByName name).map UInt16.toUInt32

def parseOp (object : Json) : Option RpcOp := do
  let raw ← (← object.find "op").getInt64
  if raw < 0 ∨ raw > 255 then none else some ⟨UInt8.ofNat raw.toNat⟩

def parseSid (object : Json) : Bytes := ((object.find "sid").bind getString).getD []

def parseRequestId (d : Json) (allowZero : Bool) : Option UInt32 := do
  let raw ← (← d.find "id").getUnsigned
  if (¬ allowZero ∧ raw = 0) ∨ raw > 0xFFFFFFFF then none else some raw.toUInt32

def parseStatusCode (d : Json) : Option ErrorCode := do
  let status ← d.find "status"
  let ok ← (← status.find "ok").getBoolean
  let raw ← (← status.find "code").getUnsigned
  if raw > 0xFFFF then none
  else if (ok ∧ raw ≠ 0) ∨ (¬ ok ∧ raw = 0) then none
  else some ⟨raw.toUInt16⟩

/-- The outer option is the exception, the inner one the field being there. -/
def parseRandomSeed (d : Json) : Option (Option UInt32) :=
  match d.find "randomSeed" with
  | none => some none
  | some randomSeed => do
    let raw ← randomSeed.getUnsigned
    if raw > 0xFFFFFFFF then none else some (some raw.toUInt32)

def hasUnsupportedTransitionRpcVersion (d : Json) (fieldName : String) : Bool :=
  match d.find fieldName with
  | none => false
  | some field => !field.isInteger || field.getInt64 != some 1

def fillJsonMeta (payload : RpcPayload) (object : Json) (sourceProtocol : SourceProtocol) :
    Option RpcPayload := do
  let endpoint ← decodeEndpointMetadata object
  return { payload with
    meta_ := { payload.meta_ with
      sourceProtocol, requestId := payload.requestId, jsonSid := parseSid object, endpoint } }

/-- `jsonToBytes` of a member that may be missing; then the body stays empty. -/
def memberToBytes (d : Json) (field : String) : Option Bytes :=
  match d.find field with
  | none => some []
  | some value => lib.dump value

def decodeRequest (object d : Json) (sourceProtocol : SourceProtocol) (methodLookup : NameLookup) :
    Option RpcPayload := do
  let method ← (← d.find "method").getString
  match resolveName method methodLookup false with
  | none =>
    let requestId ← parseRequestId d false
    let error ← fillJsonMeta
      { encoding := RpcEncoding.json, op := RpcOp.requestResponse, requestId
        statusCode := ErrorCode.rpcMethodNotFound, bodyEncoding := RpcBodyEncoding.none }
      object sourceProtocol
    return { error with
      meta_ := { error.meta_ with
        endpoint := responseEndpointMetadata error.meta_.endpoint
        jsonMethodOrEventName := method
        localGeneratedResponse := true } }
  | some methodId =>
    let requestId ← parseRequestId d false
    let request ← fillJsonMeta
      { encoding := RpcEncoding.json, op := RpcOp.request, requestId, methodOrEventId := methodId
        bodyEncoding := RpcBodyEncoding.none }
      object sourceProtocol
    let body ← memberToBytes lib d "params"
    return { request with
      meta_ := { request.meta_ with jsonMethodOrEventName := method }, body }

def decodeResponse (object d : Json) (op : RpcOp) (sourceProtocol : SourceProtocol) :
    Option RpcPayload := do
  let requestId ← parseRequestId d true
  let statusCode ← parseStatusCode d
  let response ← fillJsonMeta
    { encoding := RpcEncoding.json, op, requestId, statusCode
      bodyEncoding := RpcBodyEncoding.none }
    object sourceProtocol
  match d.find "result" with
  | some result =>
    if statusCode ≠ ErrorCode.success then none
    else return { response with body := ← lib.dump result }
  | none =>
    if statusCode ≠ ErrorCode.success then return { response with body := ← lib.dump d }
    else return response

def decodeEvent (object d : Json) (sourceProtocol : SourceProtocol) (eventLookup : NameLookup) :
    Option RpcPayload := do
  let eventName ← (← d.find "event").getString
  let eventId ← resolveName eventName eventLookup true
  let event ← fillJsonMeta
    { encoding := RpcEncoding.json, op := RpcOp.event, requestId := 0, methodOrEventId := eventId
      bodyEncoding := RpcBodyEncoding.none }
    object sourceProtocol
  let body ← memberToBytes lib d "data"
  return { event with
    meta_ := { event.meta_ with jsonMethodOrEventName := eventName }, body }

def decodeSessionRpc (object d : Json) (op : RpcOp) (sourceProtocol : SourceProtocol) :
    Option RpcPayload := do
  let payload ← fillJsonMeta
    { encoding := RpcEncoding.json, op, bodyEncoding := RpcBodyEncoding.none } object
    sourceProtocol
  if hasUnsupportedTransitionRpcVersion d "rpcVersion" ||
      hasUnsupportedTransitionRpcVersion d "negotiatedRpcVersion" then none
  else
    let randomSeed ←
      if op = RpcOp.identify ∨ op = RpcOp.reidentify then parseRandomSeed d else some none
    let payload :=
      match randomSeed with
      | some randomSeed =>
        { payload with meta_ := { payload.meta_ with hasRandomSeed := true, randomSeed } }
      | none => payload
    return { payload with body := ← lib.dump d }

def decodeBatch (object d : Json) (sourceProtocol : SourceProtocol) : Option RpcPayload := do
  let requestId ← parseRequestId d true
  let payload ← fillJsonMeta
    { encoding := RpcEncoding.json, op := RpcOp.requestBatchResponse, requestId
      statusCode := ErrorCode.rpcBatchUnsupported, bodyEncoding := RpcBodyEncoding.none }
    object sourceProtocol
  return { payload with
    meta_ := { payload.meta_ with
      endpoint := responseEndpointMetadata payload.meta_.endpoint
      localGeneratedResponse := true }
    body := ← lib.dump d }

/-- The dispatch on `op` for a parsed text. -/
def decodeObject (object : Json) (sourceProtocol : SourceProtocol)
    (methodLookup eventLookup : NameLookup) : Option RpcPayload := do
  let op ← parseOp object
  let d ← object.find "d"
  if ¬ d.isObject then none
  else if op = RpcOp.request then decodeRequest lib object d sourceProtocol methodLookup
  else if op = RpcOp.requestResponse then decodeResponse lib object d op sourceProtocol
  else if op = RpcOp.requestBatchResponse then decodeResponse lib object d op sourceProtocol
  else if op = RpcOp.event then decodeEvent lib object d sourceProtocol eventLookup
  else if op = RpcOp.identify ∨ op = RpcOp.reidentify ∨ op = RpcOp.identified ∨
      op = RpcOp.hello then decodeSessionRpc lib object d op sourceProtocol
  else if op = RpcOp.requestBatch then decodeBatch lib object d sourceProtocol
  else none

def decodePayload (text : Bytes) (sourceProtocol : SourceProtocol)
    (methodLookup eventLookup : NameLookup) : Option RpcPayload := do
  decodeObject lib (← lib.parse text) sourceProtocol methodLookup eventLookup

variable {σ : Type*}

/-- `decode`: hand the payload to the sink; an exception of the sink is swallowed too. -/
def decode (sink : Sink σ Payload) (text : Bytes) (sourceProtocol : SourceProtocol)
    (methodLookup eventLookup : NameLookup) (s : σ) : σ :=
  match decodePayload lib text sourceProtocol methodLookup eventLookup with
  | none => s
  | some payload => (sink s (.rpc payload)).1

end JsonRpcPayloadDecoder

structure JsonRpcDecoder where
  methodLookup : NameLookup := none
  eventLookup : NameLookup := none

namespace JsonRpcDecoder

/-- One complete text message. -/
def onBytes {σ : Type*} (lib : JsonLibrary) (sink : Sink σ Payload) (decoder : JsonRpcDecoder)
    (data : Bytes) (s : σ) : σ :=
  JsonRpcPayloadDecoder.decode lib sink data .jsonRpc decoder.methodLookup decoder.eventLookup s

end JsonRpcDecoder

end Axtp
