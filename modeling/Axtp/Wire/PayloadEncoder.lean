/-
  `PayloadEncoder` (`wire/framed_binary/outbound/payload_encoder.hpp`).
-/
import Axtp.Wire.ControlTlvCodec
import Axtp.Wire.JsonRpcEncoder

namespace Axtp

namespace PayloadEncoder

def encodeControl (payload : ControlPayload) : Message :=
  let header := writeU8 payload.opcode.value ++ writeU16 payload.controlId ++
    writeU16 payload.statusCode.value
  let body :=
    if payload.body ≠ [] then payload.body
    else if payload.opcode = ControlOpcode.open_ then ControlTlvCodec.encode payload.tlv false
    else if payload.opcode = ControlOpcode.accept then ControlTlvCodec.encode payload.tlv true
    else []
  { payloadType := .control, body := header ++ body }

/-- The fixed binary envelope. The method or event id is cast to 16 bits. -/
def fixedEnvelope (payload : RpcPayload) : Bytes :=
  writeU8 payload.encoding.value ++ writeU8 payload.op.value ++ writeU32 payload.requestId ++
    writeU16 payload.methodOrEventId.toUInt16 ++ writeU16 payload.statusCode.value ++
    writeU8 payload.bodyEncoding.value ++ payload.body

/-- The payload is refused: `JSON_BINARY` cannot carry endpoint metadata. -/
def Refused (payload : RpcPayload) : Prop :=
  isJsonBinaryRpcEncoding payload.encoding ∧ hasEndpointMetadata payload.meta_.endpoint

instance (payload : RpcPayload) : Decidable (Refused payload) := by unfold Refused; infer_instance

/-- The payload travels as a JSON text behind the encoding byte. -/
def TakesJson (payload : RpcPayload) : Prop :=
  payload.meta_.sourceProtocol = .jsonRpc ∧ payload.encoding = RpcEncoding.json

instance (payload : RpcPayload) : Decidable (TakesJson payload) := by
  unfold TakesJson; infer_instance

/-- `encodeRpc`; `none` where it throws. -/
def encodeRpc (lib : JsonLibrary) (payload : RpcPayload) : Option Message :=
  if Refused payload then none
  else if TakesJson payload then do
    let json ← JsonRpcEncoder.encode lib payload
    return { payloadType := .rpc, body := writeU8 payload.encoding.value ++ json }
  else some { payloadType := .rpc, body := fixedEnvelope payload }

def encodeStream (payload : StreamPayload) : Message :=
  { payloadType := .stream
    body := writeU32 payload.streamId ++ writeU32 payload.seqId ++ writeU64 payload.cursor ++
      payload.data }

end PayloadEncoder

end Axtp
