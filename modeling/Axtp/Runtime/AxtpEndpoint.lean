/-
  `AxtpEndpoint` (`runtime/endpoint/axtp_endpoint.hpp`).

  `step` is what the endpoint can do between two points at which an exception or a
  caller may interrupt it: `receive` is one `onTransportBytes` call, a request or a
  stream is sent and flushed, and `progress` is split into its parts, one broker
  result at a time (`progress_eq_run` puts it together again). The effects of a step
  are the packets handed to the transport and the requests written. `environment`
  is the application changing its own state, as when a deferred result becomes
  ready.
-/
import Axtp.Runtime.AxtpCore

namespace Axtp

structure AxtpEndpoint (σ : Type*) where
  core : AxtpCore := {}
  broker : BasicBroker σ := {}
  world : σ
  /-- `_transport != nullptr`. -/
  attached : Bool := false

/-- What an endpoint does to the outside. -/
inductive Effect where
  /-- `sendRpcRequest` has written a request. -/
  | request (payload : RpcPayload)
  /-- A packet goes to the transport. -/
  | packet (packet : Tagged OutboundPacket)
  deriving DecidableEq, Repr

inductive Action (σ : Type*) where
  | attachTransport (profile : TransportProfile)
  | detachTransport
  | receive (data : Bytes) (ingress : ℕ → Ingress)
  | drainCoreEvents
  | pollBroker (maxTasks : ℕ)
  | handleBrokerResult
  | flushOutbound
  | sendRpcRequest (payload : RpcPayload)
  | sendControlOpen (controlId : UInt16)
  | sendControlHeartbeat (controlId : UInt16)
  | sendRpcSession (payload : RpcPayload)
  | sendStream (payload : StreamPayload)
  | abandonRpcResponse (requestId : UInt32)
  | tryTakeRpcResponse (requestId : UInt32)
  | tryTakeAnyRpcResponse
  | tryTakeSessionRpc (op : RpcOp)
  | tryTakeControlNotice (opcode : ControlOpcode) (controlId : Option UInt16)
  | environment (world : σ)

namespace AxtpEndpoint

variable {σ : Type*} (lib : JsonLibrary)

def attachTransport (endpoint : AxtpEndpoint σ) (profile : TransportProfile) : AxtpEndpoint σ :=
  { endpoint with
    attached := true
    core := { endpoint.core with pendingCalls := endpoint.core.pendingCalls.reset }.configure
      profile }

def detachTransport (endpoint : AxtpEndpoint σ) : AxtpEndpoint σ :=
  { endpoint with
    attached := false
    core := { endpoint.core with pendingCalls := endpoint.core.pendingCalls.reset } }

def onTransportBytes (endpoint : AxtpEndpoint σ) (ingress : ℕ → Ingress) (data : Bytes) :
    AxtpEndpoint σ × Exit :=
  let (core, exit) := endpoint.core.handleBytes lib ingress data
  ({ endpoint with core }, exit)

/-- The loop that submits every core event to the broker. -/
def drainCoreEvents (endpoint : AxtpEndpoint σ) : AxtpEndpoint σ :=
  { endpoint with
    broker := endpoint.core.events.foldl
      (fun broker event =>
        broker.submit { value := .fromCoreEvent event.value, origin := event.origin })
      endpoint.broker
    core := { endpoint.core with events := [] } }

def pollBroker (endpoint : AxtpEndpoint σ) (maxTasks : ℕ) : AxtpEndpoint σ × Exit :=
  let (broker, world, exit) := endpoint.broker.poll endpoint.world maxTasks
  ({ endpoint with broker, world }, exit)

/-- One turn of `drainBrokerResults`. -/
def handleBrokerResult (endpoint : AxtpEndpoint σ) : AxtpEndpoint σ × Exit :=
  match endpoint.broker.results with
  | [] => (endpoint, .returned)
  | result :: results =>
    let (core, exit) := endpoint.core.handleBrokerResult lib result
    ({ endpoint with core, broker := { endpoint.broker with results } }, exit)

/-- `drainBrokerResults`, for at most the given number of turns. -/
def drainBrokerResults : ℕ → AxtpEndpoint σ → AxtpEndpoint σ × Exit
  | 0, endpoint => (endpoint, .returned)
  | turns + 1, endpoint =>
    match endpoint.handleBrokerResult lib with
    | (endpoint, .returned) => drainBrokerResults turns endpoint
    | (endpoint, .threw) => (endpoint, .threw)

/-- The endpoint with an empty outbound queue, and the packets handed to the transport. -/
def flushOutbound (endpoint : AxtpEndpoint σ) : AxtpEndpoint σ × List Effect :=
  if endpoint.attached then
    ({ endpoint with core := { endpoint.core with outboundBytes := [] } },
      endpoint.core.outboundBytes.map .packet)
  else (endpoint, [])

def progress (endpoint : AxtpEndpoint σ) (maxTasks : ℕ) : AxtpEndpoint σ × List Effect × Exit :=
  match endpoint.drainCoreEvents.pollBroker maxTasks with
  | (endpoint, .threw) => (endpoint, [], .threw)
  | (endpoint, .returned) =>
    match drainBrokerResults lib endpoint.broker.results.length endpoint with
    | (endpoint, .threw) => (endpoint, [], .threw)
    | (endpoint, .returned) => (endpoint.flushOutbound.1, endpoint.flushOutbound.2, .returned)

/-- The core after a send; it is flushed unless the send threw. -/
def afterSend (endpoint : AxtpEndpoint σ) (sent : AxtpCore × Exit) :
    AxtpEndpoint σ × List Effect × Exit :=
  match sent with
  | (core, .threw) => ({ endpoint with core }, [], .threw)
  | (core, .returned) =>
    let (endpoint, effects) := { endpoint with core }.flushOutbound
    (endpoint, effects, .returned)

/-- `sendRpcRequest`; the last component is what it returns. -/
def sendRpcRequest (endpoint : AxtpEndpoint σ) (payload : RpcPayload) :
    AxtpEndpoint σ × List Effect × Exit × Bool :=
  let (pendingCalls, expected) := endpoint.core.pendingCalls.expect payload.requestId
  if ¬ expected then (endpoint, [], .returned, false)
  else
    let endpoint := { endpoint with core := { endpoint.core with pendingCalls } }
    match endpoint.afterSend (endpoint.core.sendRpcRequest lib payload) with
    | (endpoint, effects, .threw) => (endpoint, effects, .threw, false)
    | (endpoint, effects, .returned) => (endpoint, .request payload :: effects, .returned, true)

def sendControlOpen (endpoint : AxtpEndpoint σ) (controlId : UInt16) :
    AxtpEndpoint σ × List Effect × Exit :=
  endpoint.afterSend (endpoint.core.sendControlOpen controlId, .returned)

def sendControlHeartbeat (endpoint : AxtpEndpoint σ) (controlId : UInt16) :
    AxtpEndpoint σ × List Effect × Exit :=
  endpoint.afterSend (endpoint.core.sendControlHeartbeat controlId, .returned)

def sendRpcSession (endpoint : AxtpEndpoint σ) (payload : RpcPayload) :
    AxtpEndpoint σ × List Effect × Exit :=
  endpoint.afterSend (endpoint.core.sendRpcSession lib payload)

def sendStream (endpoint : AxtpEndpoint σ) (payload : StreamPayload) :
    AxtpEndpoint σ × List Effect × Exit :=
  endpoint.afterSend (endpoint.core.handleBrokerResult lib
    { value := { type := .streamData, stream := payload }, origin := none })

/-- The first element that matches, and the queue without it; the elements before it go to the
end. -/
def takeFirst {α : Type*} (matching : α → Bool) (queue : List α) : List α × Option α :=
  match queue.span fun a => !matching a with
  | (before, found :: after) => (after ++ before, some found)
  | (before, []) => (before, none)

def tryTakeSessionRpc (endpoint : AxtpEndpoint σ) (op : RpcOp) :
    AxtpEndpoint σ × Option RpcPayload :=
  let (sessionRpcs, payload) :=
    takeFirst (fun payload => payload.op = op) endpoint.core.sessionRpcs
  ({ endpoint with core := { endpoint.core with sessionRpcs } }, payload)

/-- Both forms of `tryTakeControlNotice`; the control id is compared when it is given. -/
def tryTakeControlNotice (endpoint : AxtpEndpoint σ) (opcode : ControlOpcode)
    (controlId : Option UInt16) : AxtpEndpoint σ × Option ControlPayload :=
  let (controlNotices, payload) :=
    takeFirst (fun payload => payload.opcode = opcode ∧ payload.controlId = controlId.getD
      payload.controlId) endpoint.core.controlNotices
  ({ endpoint with core := { endpoint.core with controlNotices } }, payload)

def step (endpoint : AxtpEndpoint σ) : Action σ → AxtpEndpoint σ × List Effect
  | .attachTransport profile => (endpoint.attachTransport profile, [])
  | .detachTransport => (endpoint.detachTransport, [])
  | .receive data ingress => ((endpoint.onTransportBytes lib ingress data).1, [])
  | .drainCoreEvents => (endpoint.drainCoreEvents, [])
  | .pollBroker maxTasks => ((endpoint.pollBroker maxTasks).1, [])
  | .handleBrokerResult => ((endpoint.handleBrokerResult lib).1, [])
  | .flushOutbound => endpoint.flushOutbound
  | .sendRpcRequest payload =>
    ((endpoint.sendRpcRequest lib payload).1, (endpoint.sendRpcRequest lib payload).2.1)
  | .sendControlOpen controlId =>
    ((endpoint.sendControlOpen controlId).1, (endpoint.sendControlOpen controlId).2.1)
  | .sendControlHeartbeat controlId =>
    ((endpoint.sendControlHeartbeat controlId).1, (endpoint.sendControlHeartbeat controlId).2.1)
  | .sendRpcSession payload =>
    ((endpoint.sendRpcSession lib payload).1, (endpoint.sendRpcSession lib payload).2.1)
  | .sendStream payload =>
    ((endpoint.sendStream lib payload).1, (endpoint.sendStream lib payload).2.1)
  | .abandonRpcResponse requestId =>
    ({ endpoint with
        core := { endpoint.core with
          pendingCalls := endpoint.core.pendingCalls.abandon requestId } }, [])
  | .tryTakeRpcResponse requestId =>
    ({ endpoint with
        core := { endpoint.core with
          pendingCalls := (endpoint.core.pendingCalls.tryTakeResolved requestId).1 } }, [])
  | .tryTakeAnyRpcResponse =>
    ({ endpoint with
        core := { endpoint.core with
          pendingCalls := endpoint.core.pendingCalls.tryTakeAnyResolved.1 } }, [])
  | .tryTakeSessionRpc op => ((endpoint.tryTakeSessionRpc op).1, [])
  | .tryTakeControlNotice opcode controlId =>
    ((endpoint.tryTakeControlNotice opcode controlId).1, [])
  | .environment world => ({ endpoint with world }, [])

end AxtpEndpoint

end Axtp
