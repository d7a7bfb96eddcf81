/-
  `PayloadDecoder` (`wire/framed_binary/inbound/payload_decoder.hpp`).

  A control, stream or fixed-envelope message becomes one payload, or nothing when it
  is too short. An RPC message that starts like a JSON text is left to the JSON
  decoder, which swallows exceptions of the sink; the others pass them on.
-/
import Axtp.Wire.ControlTlvCodec
import Axtp.Wire.JsonRpcPayloadDecoder

namespace Axtp

namespace PayloadDecoder

def decodeControl (body : Bytes) : Option ControlPayload :=
  if body.length < kControlPayloadHeaderSize then none
  else do
    let (opcode, reader) ← readU8 body
    let (controlId, reader) ← readU16 reader
    let (statusCode, reader) ← readU16 reader
    let (body, _) ← readBytes reader.length reader
    return { opcode := ⟨opcode⟩, controlId, statusCode := ⟨statusCode⟩, body
             tlv := ControlTlvCodec.decode body }

/-- The body has the encoding byte of JSON and goes on like a JSON object or array. -/
def startsJson : Bytes → Bool
  | a :: b :: _ => a == RpcEncoding.json.value && (b == 0x7B || b == 0x5B)
  | _ => false

def decodeFixed (body : Bytes) : Option RpcPayload :=
  if body.length < kBinaryRpcHeaderSize then none
  else do
    let (encoding, reader) ← readU8 body
    let (op, reader) ← readU8 reader
    let (requestId, reader) ← readU32 reader
    let (methodOrEventId, reader) ← readU16 reader
    let (statusCode, reader) ← readU16 reader
    let (bodyEncoding, reader) ← readU8 reader
    let (body, _) ← readBytes reader.length reader
    return { encoding := ⟨encoding⟩, op := ⟨op⟩, requestId
             methodOrEventId := methodOrEventId.toUInt32, statusCode := ⟨statusCode⟩
             bodyEncoding := ⟨bodyEncoding⟩, meta_ := { requestId }, body }

def decodeStream (body : Bytes) : Option StreamPayload :=
  if body.length < kStreamPayloadHeaderSize then none
  else do
    let (streamId, reader) ← readU32 body
    let (seqId, reader) ← readU32 reader
    let (cursor, reader) ← readU64 reader
    let (data, _) ← readBytes reader.length reader
    return { streamId, seqId, cursor, data }

variable {σ : Type*}

/-- Hand over the payload, if there is one. -/
def deliver (sink : Sink σ Payload) (s : σ) : Option Payload → σ × Exit
  | none => (s, .returned)
  | some payload => sink s payload

def decodeRpc (lib : JsonLibrary) (sink : Sink σ Payload) (s : σ) (body : Bytes) : σ × Exit :=
  if startsJson body then
    (JsonRpcPayloadDecoder.decode lib sink (body.drop 1) .axtpV1 none none s, .returned)
  else deliver sink s ((decodeFixed body).map .rpc)

def onMessage (lib : JsonLibrary) (sink : Sink σ Payload) : Sink σ Message := fun s message =>
  match message.payloadType with
  | .control => deliver sink s ((decodeControl message.body).map .control)
  | .rpc => decodeRpc lib sink s message.body
  | .stream => deliver sink s ((decodeStream message.body).map .stream)

end PayloadDecoder

end Axtp
