/-
  `JsonRpcEncoder` (`wire/websocket_json_rpc/outbound/json_rpc_encoder.hpp`).

  Each `serialize…` builds a document and dumps it; the model keeps the document
  (`document`) apart from the dump (`encode`). `none` stands for an exception: an
  empty endpoint field, or a string that `dump` rejects.
-/
import Axtp.Generated.Registries
import Axtp.Wire.EndpointMetadataCodec

namespace Axtp

namespace JsonRpcEncoder

open Json

variable (lib : JsonLibrary)

/-- The greeting of a server. -/
def makeHello : RpcPayload :=
  { encoding := RpcEncoding.json, op := RpcOp.hello, bodyEncoding := RpcBodyEncoding.none
    meta_ := { sourceProtocol := .jsonRpc } }

/-- The answer of a client to the greeting. -/
def makeIdentify (randomSeed : UInt32) (eventMasks : Bytes) : RpcPayload :=
  { encoding := RpcEncoding.json, op := RpcOp.identify, bodyEncoding := RpcBodyEncoding.none
    meta_ :=
      { sourceProtocol := .jsonRpc, hasRandomSeed := true, randomSeed,
        jsonEventMasks := eventMasks } }

/-- The beginning of a session. -/
def makeIdentified (sid : Bytes) : RpcPayload :=
  { encoding := RpcEncoding.json, op := RpcOp.identified, bodyEncoding := RpcBodyEncoding.none
    meta_ := { sourceProtocol := .jsonRpc, jsonSid := sid } }

/-- A body as a value, none if it is empty or no JSON. -/
def bytesToJson (bytes : Bytes) : Option Json := if bytes = [] then none else lib.parse bytes

/-- The name of a status in the registry. -/
def errorName (code : ErrorCode) : Bytes :=
  (RegistryLookup.errorByCode code).getD (ascii "UNKNOWN_ERROR")

/-- The `status` of a response. Only an error has a message. -/
def statusObject (code : ErrorCode) : Json :=
  let status := emptyObject.set "ok" (.boolean (code = ErrorCode.success))
  let status := status.set "code" (.unsigned code.value.toUInt64)
  if code ≠ ErrorCode.success then status.set "msg" (.string (errorName code)) else status

/-- The object of every envelope: `sid`, `op` and `d`. -/
def envelope (sid : Bytes) (op : RpcOp) (d : Json) : Json :=
  ((emptyObject.set "sid" (.string sid)).set "op" (.unsigned op.value.toUInt64)).set "d" d

def helloDocument : Json :=
  envelope [] RpcOp.hello (emptyObject.set "axtpVersion" (.string kSpecVersion))

def identifyDocument (payload : RpcPayload) : Json :=
  let d := emptyObject.set "eventMasks" (.string payload.meta_.jsonEventMasks)
  envelope [] RpcOp.identify (d.set "randomSeed" (.unsigned payload.meta_.randomSeed.toUInt64))

def identifiedDocument (payload : RpcPayload) : Json :=
  envelope payload.meta_.jsonSid RpcOp.identified emptyObject

/-- The status that a response reports: a body that should be a result but is not JSON turns
success into an error. -/
def responseStatus (payload : RpcPayload) : ErrorCode :=
  if payload.statusCode = ErrorCode.success ∧ payload.body ≠ [] ∧
      (bytesToJson lib payload.body).isNone then ErrorCode.rpcBodyDecodeFailed
  else payload.statusCode

/-- `serializeResponse`. The result is left out of an error. -/
def responseDocument (payload : RpcPayload) : Option Json :=
  let d := emptyObject.set "id" (.unsigned payload.requestId.toUInt64)
  let statusCode := responseStatus lib payload
  let d := d.set "status" (statusObject statusCode)
  let d :=
    match bytesToJson lib payload.body with
    | some result => if statusCode = ErrorCode.success then d.set "result" result else d
    | none => d
  addEndpointMetadata (envelope payload.meta_.jsonSid RpcOp.requestResponse d)
    payload.meta_.endpoint

/-- `serializeRequest`. A method without a name goes by that of its id, or by the id in decimal;
only the low 16 bits of an id are looked up. -/
def requestDocument (payload : RpcPayload) : Option Json :=
  let d := emptyObject.set "id" (.unsigned payload.requestId.toUInt64)
  let methodName :=
    if payload.meta_.jsonMethodOrEventName = [] then
      (RegistryLookup.methodById payload.methodOrEventId.toUInt16).getD
        (ascii (toString payload.methodOrEventId.toNat))
    else payload.meta_.jsonMethodOrEventName
  let d := d.set "method" (.string methodName)
  let d :=
    match bytesToJson lib payload.body with
    | some params => d.set "params" params
    | none => d
  addEndpointMetadata (envelope payload.meta_.jsonSid RpcOp.request d) payload.meta_.endpoint

/-- `serializeBatchResponse`. The body is left out. -/
def batchResponseDocument (payload : RpcPayload) : Option Json :=
  let d := emptyObject.set "id" (.unsigned payload.requestId.toUInt64)
  let d := d.set "status" (statusObject payload.statusCode)
  addEndpointMetadata (envelope payload.meta_.jsonSid RpcOp.requestBatchResponse d)
    payload.meta_.endpoint

/-- `serializeEvent`. An event without a name goes by that of its id, or by none. -/
def eventDocument (payload : RpcPayload) : Option Json :=
  let eventName :=
    if payload.meta_.jsonMethodOrEventName = [] then
      (RegistryLookup.eventById payload.methodOrEventId.toUInt16).getD []
    else payload.meta_.jsonMethodOrEventName
  let d := emptyObject.set "event" (.string eventName)
  let d :=
    match bytesToJson lib payload.body with
    | some data => d.set "data" data
    | none => d
  addEndpointMetadata (envelope payload.meta_.jsonSid RpcOp.event d) payload.meta_.endpoint

/-- The document of a payload, by its op. What has no branch of its own is written as a response. -/
def document (payload : RpcPayload) : Option Json :=
  if payload.op = RpcOp.hello then some helloDocument
  else if payload.op = RpcOp.identify then some (identifyDocument payload)
  else if payload.op = RpcOp.identified then some (identifiedDocument payload)
  else if payload.op = RpcOp.event then eventDocument lib payload
  else if payload.op = RpcOp.request then requestDocument lib payload
  else if payload.op = RpcOp.requestBatchResponse then batchResponseDocument payload
  else responseDocument lib payload

/-- The text of a payload. -/
def encode (payload : RpcPayload) : Option Bytes := (document lib payload).bind lib.dump

end JsonRpcEncoder

end Axtp
