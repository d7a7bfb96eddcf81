/-
  The grammar of JSON requests, and what a request stands for.

  A request is an object whose `op` is the integer 7 (`HasOp`) and whose other members
  say who sends it, and which method it calls with which id and parameters (`Says`). It
  stands for one payload, or for one answer if nobody knows the method.
-/
import Axtp.Json.Value
import Axtp.Model.Types

namespace Axtp

namespace RequestGrammar

/-- What a request says. -/
structure Request where
  requestId : UInt32
  method : Bytes
  sid : Bytes
  endpoint : EndpointMetadata
  params : Option Json

/-- The value is an integer, and this one. A number with a fraction part is none. -/
def IsInteger (value : Json) (n : ℤ) : Prop :=
  match value with
  | .unsigned m => (m.toNat : ℤ) = n
  | .integer m => m.toInt = n
  | _ => False

def HasOp (object : Json) : Prop := ∃ value, object.find "op" = some value ∧ IsInteger value 7

/-- A field of the endpoint metadata is absent, or a string that is not empty. -/
def HasEndpoint (metadata : Json) (field : String) : Option Bytes → Prop
  | none => metadata.find field = none
  | some endpoint => endpoint ≠ [] ∧ metadata.find field = some (.string endpoint)

def HasMetadata (object : Json) (endpoint : EndpointMetadata) : Prop :=
  object.find "m" = none ∧ endpoint = {} ∨
    ∃ metadata, object.find "m" = some metadata ∧ metadata.isObject = true ∧
      HasEndpoint metadata "src" endpoint.src ∧ HasEndpoint metadata "dst" endpoint.dst

/-- The sid, empty if it is absent or no string. -/
def HasSid (object : Json) (sid : Bytes) : Prop :=
  match object.find "sid" with
  | some (.string text) => sid = text
  | _ => sid = []

/-- The members `d`, `sid` and `m` of the object say what the request says. -/
structure Says (object : Json) (request : Request) : Prop where
  d : ∃ d, object.find "d" = some d ∧ d.isObject = true ∧
    d.find "method" = some (.string request.method) ∧ d.find "params" = request.params ∧
    ∃ id, d.find "id" = some id ∧ IsInteger id request.requestId.toNat
  requestId : request.requestId ≠ 0
  sid : HasSid object request.sid
  endpoint : HasMetadata object request.endpoint

/-- The parameters as a text, or nothing without parameters. -/
def HasBody (lib : JsonLibrary) (body : Bytes) : Option Json → Prop
  | none => body = []
  | some params => lib.dump params = some body

/-- The payload of a request for a known method. -/
def Request.payload (request : Request) (sourceProtocol : SourceProtocol) (methodId : UInt32)
    (body : Bytes) : RpcPayload where
  encoding := RpcEncoding.json
  op := RpcOp.request
  requestId := request.requestId
  methodOrEventId := methodId
  bodyEncoding := RpcBodyEncoding.none
  meta_ :=
    { sourceProtocol, requestId := request.requestId, jsonSid := request.sid
      endpoint := request.endpoint, jsonMethodOrEventName := request.method }
  body

/-- The answer to a request for an unknown method. -/
def Request.notFound (request : Request) (sourceProtocol : SourceProtocol) : RpcPayload where
  encoding := RpcEncoding.json
  op := RpcOp.requestResponse
  requestId := request.requestId
  statusCode := ErrorCode.rpcMethodNotFound
  bodyEncoding := RpcBodyEncoding.none
  meta_ :=
    { sourceProtocol, requestId := request.requestId, jsonSid := request.sid
      endpoint := responseEndpointMetadata request.endpoint
      jsonMethodOrEventName := request.method, localGeneratedResponse := true }

end RequestGrammar

end Axtp
