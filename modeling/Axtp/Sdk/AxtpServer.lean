/-
  `AxtpServer` (`sdk/axtp_server.hpp`).

  The server owns one broker and makes a new endpoint over it for every transport
  that is attached; in the model the broker is a field of the endpoint, so it moves
  along. `poll` is what the transport delivers meanwhile and then the parts of
  `progress`, each a step of its own as in `AxtpEndpoint`. The event that `emitRaw`
  stores is read by nothing and left out.
-/
import Axtp.Runtime.AxtpEndpoint

namespace Axtp

structure AxtpServer (σ : Type*) where
  endpoint : AxtpEndpoint σ

namespace AxtpServer

variable {σ : Type*}

inductive Action (σ : Type*) where
  /-- `none` is a null transport. -/
  | attachTransport (profile : Option TransportProfile)
  | close
  /-- `onRaw`, `onJson` and `onTlv`: the router afterwards. -/
  | registerMethods (router : BusinessRouter σ)
  | receive (data : Bytes) (ingress : ℕ → Ingress)
  | drainCoreEvents
  | pollBroker (maxTasks : ℕ)
  | handleBrokerResult
  | flushOutbound
  | environment (world : σ)

def attachTransport (server : AxtpServer σ) (profile : Option TransportProfile) : AxtpServer σ :=
  let endpoint := { broker := server.endpoint.broker, world := server.endpoint.world }
  match profile with
  | some profile => { endpoint := endpoint.attachTransport profile }
  | none => { endpoint }

def registerMethods (server : AxtpServer σ) (router : BusinessRouter σ) : AxtpServer σ :=
  { endpoint := { server.endpoint with broker := { server.endpoint.broker with router } } }

variable (lib : JsonLibrary)

/-- A step of the endpoint. -/
def onEndpoint (server : AxtpServer σ) (action : Axtp.Action σ) :
    AxtpServer σ × List Effect :=
  ({ endpoint := (server.endpoint.step lib action).1 }, (server.endpoint.step lib action).2)

/-- `close` closes the transport; the endpoint is not told. -/
def step (server : AxtpServer σ) : Action σ → AxtpServer σ × List Effect
  | .attachTransport profile => (server.attachTransport profile, [])
  | .close => (server, [])
  | .registerMethods router => (server.registerMethods router, [])
  | .receive data ingress => server.onEndpoint lib (.receive data ingress)
  | .drainCoreEvents => server.onEndpoint lib .drainCoreEvents
  | .pollBroker maxTasks => server.onEndpoint lib (.pollBroker maxTasks)
  | .handleBrokerResult => server.onEndpoint lib .handleBrokerResult
  | .flushOutbound => server.onEndpoint lib .flushOutbound
  | .environment world => server.onEndpoint lib (.environment world)

end AxtpServer

end Axtp
