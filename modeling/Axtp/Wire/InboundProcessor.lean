/-
  `InboundProcessor` (`wire/inbound_processor.hpp`): the decoder chains of the two
  wire modes, in front of one payload sink.
-/
import Axtp.Wire.FrameDecoder
import Axtp.Wire.MessageReassembler
import Axtp.Wire.OutboundProcessor
import Axtp.Wire.PayloadDecoder

namespace Axtp

structure InboundProcessor where
  buffer : Bytes := []
  messageReassembler : MessageReassembler := {}
  jsonRpcDecoder : JsonRpcDecoder := {}
  wireMode : AxtpWireMode := .framedBinary

namespace InboundProcessor

variable {σ : Type*} (lib : JsonLibrary) (sink : Sink σ Payload)

def setWireMode (inbound : InboundProcessor) (wireMode : AxtpWireMode) : InboundProcessor :=
  { inbound with wireMode }

/-- What the frame decoder hands its frames to: reassembler, payload decoder, sink. -/
def onFrame : Sink (MessageReassembler × σ) Frame :=
  Sink.through MessageReassembler.onFrame (PayloadDecoder.onMessage lib sink)

def onBytes (inbound : InboundProcessor) (data : Bytes) (s : σ) : InboundProcessor × σ × Exit :=
  if inbound.wireMode = .webSocketJsonRpc then
    (inbound, inbound.jsonRpcDecoder.onBytes lib sink data s, .returned)
  else
    let (buffer, (messageReassembler, s), exit) :=
      FrameDecoder.onBytes (onFrame lib sink) inbound.buffer data (inbound.messageReassembler, s)
    ({ inbound with buffer, messageReassembler }, s, exit)

/-- A sequence of `onBytes` calls, up to the first that throws. -/
def onChunks : InboundProcessor → List Bytes → σ → InboundProcessor × σ × Exit
  | inbound, [], s => (inbound, s, .returned)
  | inbound, data :: chunks, s =>
    match onBytes lib sink inbound data s with
    | (inbound', s', .returned) => onChunks inbound' chunks s'
    | (inbound', s', .threw) => (inbound', s', .threw)

end InboundProcessor

end Axtp
