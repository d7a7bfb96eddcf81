/-
  Two endpoints and the bytes between them.

  The client calls methods of the server and sends streams to it; the server answers.
  The transport between them is lossless and keeps the order, but it hands over the
  bytes in chunks of any size, whenever it likes: `toServer` and `toClient` are the
  bytes that have been written on one side and not yet been read on the other. A step
  of the link is a call on one of the endpoints, or the arrival of a chunk; the packets
  that an endpoint hands to its transport go to the end of the other side's bytes.

  A step is observed as a request that the client wrote, a response that it took, or a
  stream payload that it sent.
-/
import Axtp.Runtime.AxtpEndpoint

namespace Axtp

structure Link (σ τ : Type*) where
  client : AxtpEndpoint τ
  server : AxtpEndpoint σ
  toServer : Bytes := []
  toClient : Bytes := []

namespace Link

/-- What the client does at its interface. -/
inductive Event where
  | called (request : RpcPayload)
  | took (response : RpcPayload)
  | streamed (payload : StreamPayload)
  deriving DecidableEq, Repr

inductive Action (σ : Type*) where
  /-- `sendRpcRequest` of the client. -/
  | call (request : RpcPayload)
  /-- `abandonRpcResponse` of the client. -/
  | abandon (requestId : UInt32)
  /-- `tryTakeRpcResponse` of the client. -/
  | take (requestId : UInt32)
  /-- `sendStream` of the client. -/
  | stream (payload : StreamPayload)
  /-- The server receives some of the bytes. -/
  | deliverToServer (count : ℕ) (ingress : ℕ → Ingress)
  /-- The client receives some of the bytes. -/
  | deliverToClient (count : ℕ)
  /-- The parts of `progress` of the server. -/
  | drainCoreEvents
  | pollBroker (maxTasks : ℕ)
  | handleBrokerResult
  | flushOutbound
  /-- The application of the server changes its own state. -/
  | environment (world : σ)

variable {σ τ : Type*} (lib : JsonLibrary)

/-- The bytes of the packets that an endpoint hands to its transport. -/
def bytesOf (effects : List Effect) : Bytes :=
  effects.flatMap fun
    | .packet packet => packet.value.bytes
    | .request _ => []

/-- The requests that an endpoint has written. -/
def requestsOf (effects : List Effect) : List Event :=
  effects.filterMap fun
    | .request payload => some (.called payload)
    | .packet _ => none

/-- A step of the client. -/
def onClient (link : Link σ τ) (action : Axtp.Action τ) : Link σ τ × List Effect :=
  let (client, effects) := link.client.step lib action
  ({ link with client, toServer := link.toServer ++ bytesOf effects }, effects)

/-- A step of the server. -/
def onServer (link : Link σ τ) (action : Axtp.Action σ) : Link σ τ :=
  let (server, effects) := link.server.step lib action
  { link with server, toClient := link.toClient ++ bytesOf effects }

def step (link : Link σ τ) : Action σ → Link σ τ × List Event
  | .call request =>
    let (link, effects) := link.onClient lib (.sendRpcRequest request)
    (link, requestsOf effects)
  | .abandon requestId => ((link.onClient lib (.abandonRpcResponse requestId)).1, [])
  | .take requestId =>
    ((link.onClient lib (.tryTakeRpcResponse requestId)).1,
      ((link.client.core.pendingCalls.tryTakeResolved requestId).2.map Event.took).toList)
  | .stream payload =>
    ((link.onClient lib (.sendStream payload)).1, [.streamed payload])
  | .deliverToServer count ingress =>
    ({ link.onServer lib (.receive (link.toServer.take count) ingress) with
        toServer := link.toServer.drop count }, [])
  | .deliverToClient count =>
    ({ (link.onClient lib (.receive (link.toClient.take count) fun _ => {})).1 with
        toClient := link.toClient.drop count }, [])
  | .drainCoreEvents => (link.onServer lib .drainCoreEvents, [])
  | .pollBroker maxTasks => (link.onServer lib (.pollBroker maxTasks), [])
  | .handleBrokerResult => (link.onServer lib .handleBrokerResult, [])
  | .flushOutbound => (link.onServer lib .flushOutbound, [])
  | .environment world => (link.onServer lib (.environment world), [])

/-- Two new endpoints, attached to the two ends. -/
def start (profile : TransportProfile) (client : τ) (world : σ) (router : BusinessRouter σ)
    (eventHandler : Option (EventHandler σ)) (streamHandler : Option (StreamHandler σ)) :
    Link σ τ :=
  { client := ({ world := client } : AxtpEndpoint τ).attachTransport profile
    server :=
      ({ world, broker := { router, eventHandler, streamHandler } } :
        AxtpEndpoint σ).attachTransport
        profile }

end Link

end Axtp
