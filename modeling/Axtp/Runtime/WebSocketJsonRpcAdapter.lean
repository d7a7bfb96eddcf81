/-
  `WebSocketJsonRpcAdapter` (`json_rpc/websocket_json_rpc_adapter.hpp`).

  The core and the writer are outside. What they do during one `onBytes` call is its
  `Surroundings`: how the forwarding to the core with the poll of the endpoint ends, and
  how each call of the writer ends. An effect is a text forwarded to the core or a
  payload written; it is there as soon as it is handed over, also when that call throws.
-/
import Axtp.Lib.Run
import Axtp.Runtime.AxtpCore

namespace Axtp

structure WebSocketJsonRpcAdapter where
  helloSent : Bool := false
  identified : Bool := false
  activeConnectionGeneration : UInt64 := 0
  nextSessionId : UInt32 := 1
  sid : Bytes := []
  deriving DecidableEq, Repr

/-- How the calls out of one `onBytes` call end. -/
structure Surroundings where
  /-- A standard exception leaves the core or the poll of the endpoint, or none does. -/
  forwarding : Exit := .returned
  /-- The `n`-th call of the writer. -/
  writing : ℕ → Exit := fun _ => .returned

inductive AdapterEffect where
  /-- The text goes to the core, and the endpoint is polled. -/
  | forward (text : Bytes)
  /-- The bytes of the payload go to the writer. -/
  | write (payload : RpcPayload) (bytes : Bytes)
  deriving DecidableEq, Repr

namespace WebSocketJsonRpcAdapter

open Json

variable (lib : JsonLibrary)

def makeSessionId (adapter : WebSocketJsonRpcAdapter) (randomSeed : UInt32) :
    WebSocketJsonRpcAdapter × Bytes :=
  let mixed := randomSeed ^^^ (adapter.nextSessionId * 0x9E3779B9)
  let nextSessionId := adapter.nextSessionId + 1
  ({ adapter with nextSessionId }, AxtpCore.hex8 (if mixed = 0 then nextSessionId else mixed))

/-- `_sid = makeSessionId()`. -/
def renewSid (adapter : WebSocketJsonRpcAdapter) : WebSocketJsonRpcAdapter :=
  let (adapter, sid) := adapter.makeSessionId 0
  { adapter with sid }

/-- A new adapter. -/
def start : WebSocketJsonRpcAdapter := renewSid {}

/-! ### Reading a message -/

/-- The op is read as by the payload decoder. -/
def parseOp (object : Json) : Option RpcOp := JsonRpcPayloadDecoder.parseOp object

def parseSid (object : Json) : Bytes := JsonRpcPayloadDecoder.parseSid object

def isAcceptedSid (adapter : WebSocketJsonRpcAdapter) (sid : Bytes) : Bool :=
  sid ≠ [] ∧ sid = adapter.sid

/-- An id that is missing, no integer or out of range is read as zero. -/
def parseRequestId (object : Json) : UInt32 :=
  match object.find "d" with
  | none => 0
  | some d =>
    match d.find "id" with
    | some (.unsigned raw) => if raw ≤ 0xFFFFFFFF then raw.toUInt32 else 0
    | some (.integer raw) => if raw > 0 ∧ raw ≤ 0xFFFFFFFF then raw.toUInt64.toUInt32 else 0
    | _ => 0

def parseRandomSeed (d : Json) : Option (Option UInt32) := JsonRpcPayloadDecoder.parseRandomSeed d

/-! ### Writing -/

/-- `sendRpc`; `n` counts the calls of the writer. It throws when the encoder or the writer does. -/
def sendRpc (around : Surroundings) (n : ℕ) (payload : RpcPayload) : List AdapterEffect × Exit :=
  match JsonRpcEncoder.encode lib payload with
  | none => ([], .threw)
  | some bytes => ([.write payload bytes], around.writing n)

/-- The payload that `sendError` sends. -/
def errorPayload (adapter : WebSocketJsonRpcAdapter) (sid : Bytes) (requestId : UInt32)
    (code : ErrorCode) (requestOp : RpcOp) (endpoint : EndpointMetadata) : RpcPayload :=
  { encoding := RpcEncoding.json
    op := if requestOp = RpcOp.requestBatch then RpcOp.requestBatchResponse
      else RpcOp.requestResponse
    requestId
    statusCode := code
    bodyEncoding := RpcBodyEncoding.none
    meta_ :=
      { sourceProtocol := .jsonRpc, jsonSid := if sid = [] then adapter.sid else sid, endpoint } }

def sendHelloOnce (around : Surroundings) (adapter : WebSocketJsonRpcAdapter) :
    WebSocketJsonRpcAdapter × List AdapterEffect × Exit :=
  if adapter.helloSent then (adapter, [], .returned)
  else
    match sendRpc lib around 0 JsonRpcEncoder.makeHello with
    | (effects, .threw) => (adapter, effects, .threw)
    | (effects, .returned) => ({ adapter with helloSent := true }, effects, .returned)

/-- `sendEvent`: an event of the application. -/
def sendEvent (around : Surroundings) (adapter : WebSocketJsonRpcAdapter) (payload : RpcPayload) :
    List AdapterEffect × Exit :=
  sendRpc lib around 0
    { payload with
      encoding := RpcEncoding.json, op := RpcOp.event
      meta_ := { payload.meta_ with
        sourceProtocol := .jsonRpc
        jsonSid :=
          if adapter.identified ∧ payload.meta_.jsonSid = [] then adapter.sid
          else payload.meta_.jsonSid } }

/-! ### Receiving -/

/-- The sid of an IDENTIFY that asks to resume a session. -/
def resumeSid (d : Json) : Option Bytes :=
  match (d.find "resumeSid").bind getString with
  | some sid => if sid = [] then none else some sid
  | none => none

/-- The session after an IDENTIFY. -/
def identify (adapter : WebSocketJsonRpcAdapter) (d : Json) (randomSeed : Option UInt32) :
    WebSocketJsonRpcAdapter :=
  if adapter.identified then adapter
  else
    match resumeSid d with
    | some sid => { adapter with identified := true, sid }
    | none =>
      let (adapter, sid) := adapter.makeSessionId (randomSeed.getD 0)
      { adapter with identified := true, sid }

/-- The `d` of an IDENTIFY and its seed, unless `handleIdentify` throws at once. -/
def identifyArguments (object : Json) : Option (Json × Option UInt32) := do
  let d ← object.find "d"
  if d.isObject then return (d, ← parseRandomSeed d) else none

def handleIdentify (around : Surroundings) (adapter : WebSocketJsonRpcAdapter) (object : Json) :
    WebSocketJsonRpcAdapter × List AdapterEffect × Exit :=
  match identifyArguments object with
  | none => (adapter, [], .threw)
  | some (d, randomSeed) =>
    let adapter := adapter.identify d randomSeed
    (adapter, sendRpc lib around 0 (JsonRpcEncoder.makeIdentified adapter.sid))

/-- A message as far as `onBytes` reads it before it acts. -/
structure Envelope where
  object : Json
  op : RpcOp
  endpoint : EndpointMetadata

def readEnvelope (data : Bytes) : Option Envelope := do
  let object ← lib.parse data
  let op ← parseOp object
  let endpoint ← decodeEndpointMetadata object
  return { object, op, endpoint }

/-- What the `try` block of `onBytes` does with a message. -/
inductive Decision where
  | identify
  | reject (sid : Bytes) (code : ErrorCode)
  | forward
  deriving DecidableEq, Repr

/-- The three conditions of `onBytes`, in order. -/
def decision (adapter : WebSocketJsonRpcAdapter) (envelope : Envelope) : Decision :=
  let op := envelope.op
  if op = RpcOp.identify ∨ op = RpcOp.reidentify then .identify
  else if ¬ adapter.identified ∧ (op = RpcOp.request ∨ op = RpcOp.requestBatch) then
    .reject (parseSid envelope.object) ErrorCode.controlOpenRequired
  else if adapter.identified ∧
      (op = RpcOp.request ∨ op = RpcOp.requestBatch ∨ op = RpcOp.event ∨
        op = RpcOp.requestResponse) ∧
      ¬ adapter.isAcceptedSid (parseSid envelope.object) then
    .reject adapter.sid ErrorCode.rpcPayloadInvalid
  else if op = RpcOp.requestBatch then
    .reject (parseSid envelope.object) ErrorCode.rpcBatchUnsupported
  else .forward

/-- The error for a rejected message. -/
def rejection (adapter : WebSocketJsonRpcAdapter) (envelope : Envelope) (sid : Bytes)
    (code : ErrorCode) : RpcPayload :=
  adapter.errorPayload sid (parseRequestId envelope.object) code envelope.op
    (responseEndpointMetadata envelope.endpoint)

/-- The `try` block. -/
def tryBytes (around : Surroundings) (adapter : WebSocketJsonRpcAdapter) (data : Bytes) :
    WebSocketJsonRpcAdapter × List AdapterEffect × Exit :=
  match readEnvelope lib data with
  | none => (adapter, [], .threw)
  | some envelope =>
    match adapter.decision envelope with
    | .identify => adapter.handleIdentify lib around envelope.object
    | .reject sid code => (adapter, sendRpc lib around 0 (adapter.rejection envelope sid code))
    | .forward => (adapter, [.forward data], around.forwarding)

/-- The error for a message whose handling threw. -/
def failure (adapter : WebSocketJsonRpcAdapter) : RpcPayload :=
  adapter.errorPayload [] 0 ErrorCode.rpcPayloadInvalid RpcOp.request {}

/-- `onBytes`: one text message. -/
def onBytes (around : Surroundings) (adapter : WebSocketJsonRpcAdapter) (data : Bytes) :
    WebSocketJsonRpcAdapter × List AdapterEffect × Exit :=
  match adapter.tryBytes lib around data with
  | (adapter, effects, .returned) => (adapter, effects, .returned)
  | (adapter, effects, .threw) =>
    (adapter, effects ++ (sendRpc lib around 1 adapter.failure).1,
      (sendRpc lib around 1 adapter.failure).2)

/-! ### Polling -/

/-- `currentConnectionGeneration` of a transport; a transport without a counter shows none. -/
def currentConnectionGeneration (connected : Bool) (counter : Option UInt64) : UInt64 :=
  match counter with
  | some generation => generation
  | none => if connected then 1 else 0

/-- The comparison that `poll` makes after the poll of the transport. -/
def compareGeneration (adapter : WebSocketJsonRpcAdapter) (connected : Bool)
    (counter : Option UInt64) : WebSocketJsonRpcAdapter :=
  let generation := if connected then currentConnectionGeneration connected counter else 0
  if ¬ connected then { adapter with activeConnectionGeneration := 0 }
  else if adapter.activeConnectionGeneration ≠ generation then
    renewSid
      { adapter with
        activeConnectionGeneration := generation, helloSent := false, identified := false }
  else adapter

/-- `poll`, from where the poll of the transport has returned. -/
def afterTransportPoll (around : Surroundings) (adapter : WebSocketJsonRpcAdapter)
    (connected : Bool) (counter : Option UInt64) :
    WebSocketJsonRpcAdapter × List AdapterEffect × Exit :=
  let adapter := adapter.compareGeneration connected counter
  if connected then adapter.sendHelloOnce lib around else (adapter, [], .returned)

end WebSocketJsonRpcAdapter

end Axtp
