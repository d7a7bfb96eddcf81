/-
  `TransportProfile` (`runtime/transport/transport_profile.hpp`) and
  `OutboundProcessor` (`wire/outbound_processor.hpp`).

  A send returns the pieces handed to the byte writer, one for each `writeBytes`
  call. An encoder that throws does so before anything is written or numbered, so a
  send that throws is `none`.
-/
import Axtp.Wire.FrameEncoder
import Axtp.Wire.MessageFragmenter
import Axtp.Wire.PayloadEncoder

namespace Axtp

inductive AxtpWireMode where
  | framedBinary
  | webSocketJsonRpc
  deriving DecidableEq, Repr

/-- The fields that the core reads. -/
structure TransportProfile where
  wireMode : AxtpWireMode := .framedBinary
  preferredFrameSize : ℕ := 4096
  deriving DecidableEq, Repr

structure OutboundProcessor where
  messageFragmenter : MessageFragmenter := {}
  wireMode : AxtpWireMode := .framedBinary
  deriving DecidableEq, Repr

namespace OutboundProcessor

def setWireMode (o : OutboundProcessor) (wireMode : AxtpWireMode) : OutboundProcessor :=
  { o with wireMode }

def setMaxFrameSize (o : OutboundProcessor) (maxFrameSize : ℕ) : OutboundProcessor :=
  { o with messageFragmenter := o.messageFragmenter.setMaxFrameSize maxFrameSize }

def sendMessage (o : OutboundProcessor) (message : Message) : OutboundProcessor × List Bytes :=
  let (messageFragmenter, frames) := o.messageFragmenter.fragment message
  ({ o with messageFragmenter }, frames.map FrameEncoder.encode)

def sendControl (o : OutboundProcessor) (payload : ControlPayload) :
    OutboundProcessor × List Bytes :=
  if o.wireMode = .webSocketJsonRpc then (o, [])
  else o.sendMessage (PayloadEncoder.encodeControl payload)

def sendStream (o : OutboundProcessor) (payload : StreamPayload) :
    OutboundProcessor × List Bytes :=
  if o.wireMode = .webSocketJsonRpc then (o, [])
  else o.sendMessage (PayloadEncoder.encodeStream payload)

variable (lib : JsonLibrary)

def sendRpc (o : OutboundProcessor) (payload : RpcPayload) :
    Option (OutboundProcessor × List Bytes) :=
  if o.wireMode = .webSocketJsonRpc then do
    let bytes ← JsonRpcEncoder.encode lib payload
    return (o, [bytes])
  else do
    let message ← PayloadEncoder.encodeRpc lib payload
    return o.sendMessage message

def sendRpcRequest (o : OutboundProcessor) (payload : RpcPayload) :
    Option (OutboundProcessor × List Bytes) := o.sendRpc lib payload

def sendRpcResponse (o : OutboundProcessor) (payload : RpcPayload) :
    Option (OutboundProcessor × List Bytes) := o.sendRpc lib payload

def sendRpcError (o : OutboundProcessor) (payload : RpcPayload) :
    Option (OutboundProcessor × List Bytes) := o.sendRpc lib payload

def sendEvent (o : OutboundProcessor) (payload : RpcPayload) :
    Option (OutboundProcessor × List Bytes) := o.sendRpc lib payload

/-- One send, by the kind of the payload. -/
def send (o : OutboundProcessor) : Payload → Option (OutboundProcessor × List Bytes)
  | .control payload => some (o.sendControl payload)
  | .rpc payload => o.sendRpc lib payload
  | .stream payload => some (o.sendStream payload)

/-- A sequence of sends; `none` if one of them throws. -/
def sendAll : OutboundProcessor → List Payload → Option (OutboundProcessor × List Bytes)
  | o, [] => some (o, [])
  | o, payload :: payloads => do
    let (o, pieces) ← o.send lib payload
    let (o, rest) ← sendAll o payloads
    return (o, pieces ++ rest)

end OutboundProcessor

end Axtp
