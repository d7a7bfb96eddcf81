/-
  `AxtpCore` (`runtime/core/axtp_core.hpp`).

  The two ingress providers are asked while a payload is handled; what they give
  for it is an argument, its `Ingress`. The packets of the outbound queue are tagged
  with the request they answer (see `Tagged`).
-/
import Axtp.Runtime.BasicBroker
import Axtp.Session.ControlSession
import Axtp.Session.PendingCallTable
import Axtp.Wire.InboundProcessor

namespace Axtp

/-- `AxtpCore::OutboundPacket`. -/
structure OutboundPacket where
  bytes : Bytes
  replyTarget : UInt64 := 0
  deriving DecidableEq, Repr

structure AxtpCore where
  inbound : InboundProcessor := {}
  outbound : OutboundProcessor := {}
  controlSession : ControlSession := {}
  lastStream : Option StreamPayload := none
  pendingCalls : PendingCallTable := {}
  events : List (Tagged CoreEvent) := []
  sessionRpcs : List RpcPayload := []
  controlNotices : List ControlPayload := []
  outboundBytes : List (Tagged OutboundPacket) := []
  outboundReplyTarget : UInt64 := 0
  nextSessionId : UInt32 := 1
  inboundActivityGeneration : UInt64 := 0

namespace AxtpCore

def configure (core : AxtpCore) (profile : TransportProfile) : AxtpCore :=
  let outbound := core.outbound.setWireMode profile.wireMode
  { core with
    inbound := core.inbound.setWireMode profile.wireMode
    outbound :=
      if profile.preferredFrameSize > 0 then outbound.setMaxFrameSize profile.preferredFrameSize
      else outbound }

/-! ### Outbound -/

/-- The pieces written by a send, each queued for the current reply target. -/
def enqueueOutboundBytes (core : AxtpCore) (origin : Option Ingress) (pieces : List Bytes) :
    AxtpCore :=
  { core with
    outboundBytes := core.outboundBytes ++ pieces.map fun bytes =>
      { value := { bytes, replyTarget := core.outboundReplyTarget }, origin } }

/-- A send that cannot throw. -/
def write (core : AxtpCore) (origin : Option Ingress) (sent : OutboundProcessor × List Bytes) :
    AxtpCore :=
  { core with outbound := sent.1 }.enqueueOutboundBytes origin sent.2

/-- A send that throws when there is nothing to write. -/
def tryWrite (core : AxtpCore) (origin : Option Ingress)
    (sent : Option (OutboundProcessor × List Bytes)) : AxtpCore × Exit :=
  match sent with
  | some sent => (core.write origin sent, .returned)
  | none => (core, .threw)

variable (lib : JsonLibrary)

/-- The `switch` of `handleBrokerResult`. -/
def sendBrokerResult (core : AxtpCore) (result : Tagged BrokerResult) : AxtpCore × Exit :=
  let outbound := core.outbound
  match result.value.type with
  | .rpcResponse => core.tryWrite result.origin (outbound.sendRpcResponse lib result.value.rpc)
  | .rpcError => core.tryWrite result.origin (outbound.sendRpcError lib result.value.rpc)
  | .event => core.tryWrite result.origin (outbound.sendEvent lib result.value.rpc)
  | .streamData => (core.write result.origin (outbound.sendStream result.value.stream), .returned)
  | .streamClose => (core.write result.origin (outbound.sendStream result.value.stream), .returned)
  | .noop => (core, .returned)

/-- `handleBrokerResult`. An exception skips the assignment that restores the reply target. -/
def handleBrokerResult (core : AxtpCore) (result : Tagged BrokerResult) : AxtpCore × Exit :=
  let previousReplyTarget := core.outboundReplyTarget
  let core :=
    if result.value.type = .rpcResponse ∨ result.value.type = .rpcError then
      { core with outboundReplyTarget := result.value.rpc.meta_.replyTarget }
    else core
  match core.sendBrokerResult lib result with
  | (core, .returned) => ({ core with outboundReplyTarget := previousReplyTarget }, .returned)
  | (core, .threw) => (core, .threw)

def sendControlOpen (core : AxtpCore) (controlId : UInt16) : AxtpCore :=
  let (controlSession, payload) := core.controlSession.makeOpen controlId
  { core with controlSession }.write none (core.outbound.sendControl payload)

def sendControlHeartbeat (core : AxtpCore) (controlId : UInt16) : AxtpCore :=
  core.write none (core.outbound.sendControl (ControlSession.makeHeartbeat controlId))

def sendRpcRequest (core : AxtpCore) (payload : RpcPayload) : AxtpCore × Exit :=
  core.tryWrite none (core.outbound.sendRpcRequest lib payload)

def sendRpcSession (core : AxtpCore) (payload : RpcPayload) : AxtpCore × Exit :=
  core.tryWrite none (core.outbound.sendRpc lib payload)

/-! ### Inbound -/

/-- Eight upper-case hexadecimal digits. -/
def hex8 (value : UInt32) : Bytes :=
  ([7, 6, 5, 4, 3, 2, 1, 0] : List ℕ).map fun i =>
    (ascii "0123456789ABCDEF").getD (value.toNat / 16 ^ i % 16) 0

def makeSessionId (core : AxtpCore) (randomSeed : UInt32) : AxtpCore × Bytes :=
  let mixed := randomSeed ^^^ (core.nextSessionId * 0x9E3779B9)
  let nextSessionId := core.nextSessionId + 1
  ({ core with nextSessionId }, hex8 (if mixed = 0 then nextSessionId else mixed))

def countActivity (core : AxtpCore) : AxtpCore :=
  { core with inboundActivityGeneration := core.inboundActivityGeneration + 1 }

def handleControl (core : AxtpCore) (payload : ControlPayload) : AxtpCore × Exit :=
  let core := core.countActivity
  let (controlSession, response) := core.controlSession.handle payload
  let core := { core with controlSession, controlNotices := core.controlNotices ++ [payload] }
  match response with
  | none => (core, .returned)
  | some response =>
    let core := core.write none (core.outbound.sendControl response)
    if payload.opcode = ControlOpcode.open_ ∧ core.controlSession.isOpen then
      core.tryWrite none (core.outbound.sendRpc lib JsonRpcEncoder.makeHello)
    else (core, .returned)

def captureReplyTarget (meta_ : PayloadMeta) (ingress : Ingress) : PayloadMeta :=
  match ingress.replyTarget with
  | .unset => meta_
  | .threw => { meta_ with replyTarget := 0 }
  | .returned replyTarget => { meta_ with replyTarget }

/-- A response to a request or a batch: an error that the decoder made goes out again, a response
that is awaited resolves its call, any other is dropped. -/
def handleResponse (core : AxtpCore) (ingress : Ingress) (payload : RpcPayload) :
    AxtpCore × Exit :=
  if payload.meta_.localGeneratedResponse then
    core.tryWrite (some ingress) (core.outbound.sendRpcResponse lib payload)
  else if payload.requestId ≠ 0 ∧ ¬ core.pendingCalls.isPending payload.requestId then
    (core, .returned)
  else
    ({ core with pendingCalls := core.pendingCalls.resolve payload.requestId payload }, .returned)

def handleRpc (core : AxtpCore) (ingress : Ingress) (payload : RpcPayload) : AxtpCore × Exit :=
  let core := core.countActivity
  if payload.op = RpcOp.identify ∨ payload.op = RpcOp.reidentify then
    let randomSeed := if payload.meta_.hasRandomSeed then payload.meta_.randomSeed else 0
    let (core, sid) := core.makeSessionId randomSeed
    let core := { core with sessionRpcs := core.sessionRpcs ++ [payload] }
    core.tryWrite none (core.outbound.sendRpc lib (JsonRpcEncoder.makeIdentified sid))
  else if payload.op = RpcOp.hello ∨ payload.op = RpcOp.identified then
    ({ core with sessionRpcs := core.sessionRpcs ++ [payload] }, .returned)
  else if payload.op = RpcOp.request then
    let payload := { payload with meta_ := captureReplyTarget payload.meta_ ingress }
    let event := { value := .rpcRequest payload, origin := some ingress }
    ({ core with events := core.events ++ [event] }, .returned)
  else if payload.op = RpcOp.event then
    let event := { value := .rpcEvent payload, origin := none }
    ({ core with events := core.events ++ [event] }, .returned)
  else if payload.op = RpcOp.requestResponse then core.handleResponse lib ingress payload
  else if payload.op = RpcOp.requestBatchResponse then core.handleResponse lib ingress payload
  else (core, .returned)

def handleStream (core : AxtpCore) (ingress : Ingress) (payload : StreamPayload) :
    AxtpCore × Exit :=
  let core := core.countActivity
  let payload :=
    match ingress.ingressToken with
    | .unset => payload
    | .threw => { payload with meta_ := { payload.meta_ with ingressToken := 0 } }
    | .returned ingressToken => { payload with meta_ := { payload.meta_ with ingressToken } }
  let event := { value := .streamData payload, origin := none }
  ({ core with lastStream := some payload, events := core.events ++ [event] }, .returned)

/-- The core as a payload sink, for one payload. -/
def onPayload (core : AxtpCore) (ingress : Ingress) : Payload → AxtpCore × Exit
  | .control payload => core.handleControl lib payload
  | .rpc payload => core.handleRpc lib ingress payload
  | .stream payload => core.handleStream ingress payload

/-- The core as a payload sink; `ingress n` holds while the `n`-th payload is handled. -/
def payloadSink (ingress : ℕ → Ingress) : Sink (AxtpCore × ℕ) Payload := fun s payload =>
  (((s.1.onPayload lib (ingress s.2) payload).1, s.2 + 1),
    (s.1.onPayload lib (ingress s.2) payload).2)

def handleBytes (core : AxtpCore) (ingress : ℕ → Ingress) (data : Bytes) : AxtpCore × Exit :=
  let (inbound, (core, _), exit) :=
    core.inbound.onBytes lib (payloadSink lib ingress) data (core, 0)
  ({ core with inbound }, exit)

end AxtpCore

end Axtp
