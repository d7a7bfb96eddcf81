/-
  The protocol value types (`protocol/model`).

  A C++ `enum class` with a fixed underlying type holds every value of that
  type, and the decoders cast received bytes to it unchecked. `RpcOp`,
  `RpcEncoding`, `RpcBodyEncoding`, `ControlOpcode` and `ErrorCode` are therefore
  the underlying value, with the enumerators as names. `PayloadType` is only
  ever cast after a check, so it has just its three enumerators.

  Strings are byte strings, as `std::string` is.
-/
import Axtp.Support.ByteIo

namespace Axtp

/-! ### Enumerations and constants (`protocol_types.hpp`) -/

/-- What the body of a message is. -/
inductive PayloadType where
  | control
  | rpc
  | stream
  deriving DecidableEq, Repr

namespace PayloadType

/-- The byte of the frame header. -/
def toByte : PayloadType → Byte
  | control => 0x01
  | rpc => 0x02
  | stream => 0x03

/-- The checked cast: the enumerator of a byte that `isPayloadType` accepts. -/
def ofByte (value : Byte) : Option PayloadType :=
  if value = 0x01 then some control
  else if value = 0x02 then some rpc
  else if value = 0x03 then some stream
  else none

/-- Each of the enumerators passes the check. -/
@[simp] theorem ofByte_toByte (t : PayloadType) : ofByte t.toByte = some t := by
  cases t <;> rfl

end PayloadType

/-- The first byte of a control payload. -/
structure ControlOpcode where
  value : UInt8
  deriving DecidableEq, Repr

namespace ControlOpcode

def open_ : ControlOpcode := ⟨0x01⟩
def accept : ControlOpcode := ⟨0x02⟩
def heartbeat : ControlOpcode := ⟨0x04⟩
def heartbeatAck : ControlOpcode := ⟨0x05⟩
def close : ControlOpcode := ⟨0x0A⟩
def closeAck : ControlOpcode := ⟨0x0B⟩
def ping : ControlOpcode := ⟨0x0E⟩
def pong : ControlOpcode := ⟨0x0F⟩

end ControlOpcode

/-- The first byte of an RPC payload: the form of what follows it. -/
structure RpcEncoding where
  value : UInt8
  deriving DecidableEq, Repr

namespace RpcEncoding

def json : RpcEncoding := ⟨0x01⟩
def cbor : RpcEncoding := ⟨0x02⟩
def msgpack : RpcEncoding := ⟨0x03⟩
/-- The fixed envelope, with a body in TLV8. -/
def jsonBinary : RpcEncoding := ⟨0x04⟩

end RpcEncoding

/-- The form of an RPC body in the fixed envelope. -/
structure RpcBodyEncoding where
  value : UInt8
  deriving DecidableEq, Repr

namespace RpcBodyEncoding

def none : RpcBodyEncoding := ⟨0x00⟩
/-- Records of a field id, a length and a value. -/
def tlv8 : RpcBodyEncoding := ⟨0x01⟩

end RpcBodyEncoding

/-- What an RPC message is for; the `op` of the JSON envelope. -/
structure RpcOp where
  value : UInt8
  deriving DecidableEq, Repr

namespace RpcOp

/-- A server greets first. -/
def hello : RpcOp := ⟨0x00⟩
def helloAck : RpcOp := ⟨0x01⟩
/-- The client answers the HELLO with a random seed and the events it asks for. -/
def identify : RpcOp := ⟨0x02⟩
/-- The server has begun a session and tells its id. -/
def identified : RpcOp := ⟨0x03⟩
/-- The client changes the events it asks for. -/
def reidentify : RpcOp := ⟨0x04⟩
def subscribe : RpcOp := ⟨0x05⟩
def event : RpcOp := ⟨0x06⟩
def request : RpcOp := ⟨0x07⟩
def requestResponse : RpcOp := ⟨0x08⟩
def requestBatch : RpcOp := ⟨0x09⟩
def requestBatchResponse : RpcOp := ⟨0x0A⟩
def bye : RpcOp := ⟨0x0E⟩
def byeAck : RpcOp := ⟨0x0F⟩

/-- The enumerators. -/
def enumerators : List RpcOp :=
  [hello, helloAck, identify, identified, reidentify, subscribe, event, request,
    requestResponse, requestBatch, requestBatchResponse, bye, byeAck]

/-- The op is one of the enumerators. -/
def IsDefined (op : RpcOp) : Prop := op ∈ enumerators

instance (op : RpcOp) : Decidable op.IsDefined := by unfold IsDefined; infer_instance

end RpcOp

/-- The status of a response or of a control message. Zero is success. -/
structure ErrorCode where
  value : UInt16
  deriving DecidableEq, Repr

namespace ErrorCode

def success : ErrorCode := ⟨0x0000⟩
def notSupported : ErrorCode := ⟨0x0003⟩
def canceled : ErrorCode := ⟨0x0007⟩
def invalidArgument : ErrorCode := ⟨0x000A⟩
def internalError : ErrorCode := ⟨0x000E⟩
def unavailable : ErrorCode := ⟨0x000F⟩
def controlPayloadInvalid : ErrorCode := ⟨0x0022⟩
def controlOpenRequired : ErrorCode := ⟨0x0024⟩
def controlOpenRejected : ErrorCode := ⟨0x0025⟩
def controlNegotiationFailed : ErrorCode := ⟨0x0027⟩
def controlHeartbeatTimeout : ErrorCode := ⟨0x002D⟩
def rpcPayloadInvalid : ErrorCode := ⟨0x0033⟩
def rpcBodyDecodeFailed : ErrorCode := ⟨0x0035⟩
def rpcMethodNotFound : ErrorCode := ⟨0x0036⟩
def rpcResponseTimeout : ErrorCode := ⟨0x003E⟩
def rpcBatchUnsupported : ErrorCode := ⟨0x003F⟩

end ErrorCode

/-- The wire mode that an RPC message came in. -/
inductive SourceProtocol where
  | axtpV1
  | jsonRpc
  deriving DecidableEq, Repr

def kAxtpStandardMagic0 : Byte := 0x41
def kAxtpStandardMagic1 : Byte := 0x58
def kAxtpVersion1 : UInt8 := 0x01
/-- The bytes before the payload of a frame, and those of the checksum behind it. -/
def kStandardFrameHeaderSize : ℕ := 12
def kStandardFrameCrcSize : ℕ := 2
def kControlPayloadHeaderSize : ℕ := 5
/-- The bytes of the fixed envelope before its body. -/
def kBinaryRpcHeaderSize : ℕ := 11
def kStreamPayloadHeaderSize : ℕ := 16

def jsonBinaryRpcEncoding : RpcEncoding := RpcEncoding.jsonBinary

/-- The comparison is with `kRpcEncodingJsonBinaryValue`. -/
def isJsonBinaryRpcEncoding (encoding : RpcEncoding) : Bool := encoding.value == 0x04

/-- The body encoding that goes with an RPC encoding. -/
def bodyEncodingForRpcEncoding (encoding : RpcEncoding) : RpcBodyEncoding :=
  if isJsonBinaryRpcEncoding encoding then RpcBodyEncoding.tlv8 else RpcBodyEncoding.none

/-! ### Frames and messages (`frame.hpp`, `message.hpp`) -/

/-- A message is sent in `frameCount` frames, of which this is the one at `frameIndex`. -/
structure FrameHeader where
  version : UInt8 := kAxtpVersion1
  payloadType : PayloadType := .rpc
  payloadLength : UInt16 := 0
  sourceId : UInt8 := 0
  destinationId : UInt8 := 0
  messageId : UInt16 := 0
  frameIndex : UInt8 := 0
  frameCount : UInt8 := 1
  deriving DecidableEq, Repr

/-- A frame as it was decoded, or as it will be encoded, with its checksum. -/
structure Frame where
  header : FrameHeader := {}
  payload : Bytes := []
  crc16 : UInt16 := 0
  deriving DecidableEq, Repr

/-- What the frames of one message id are put together to. -/
structure Message where
  messageId : UInt16 := 0
  payloadType : PayloadType := .rpc
  body : Bytes := []
  deriving DecidableEq, Repr

/-! ### Endpoint metadata (`endpoint_metadata.hpp`) -/

/-- The addresses in the `m` of a JSON envelope. An empty one is not the same as none. -/
structure EndpointMetadata where
  src : Option Bytes := none
  dst : Option Bytes := none
  deriving DecidableEq, Repr

def hasEndpointMetadata (metadata : EndpointMetadata) : Bool :=
  metadata.src.isSome || metadata.dst.isSome

/-- A response goes back to where its request came from. -/
def responseEndpointMetadata (request : EndpointMetadata) : EndpointMetadata :=
  { src := request.dst, dst := request.src }

/-! ### Payloads (`payload.hpp`) -/

/-- What a payload carries beside the fields of its wire format: where it came from and belongs. -/
structure PayloadMeta where
  sourceProtocol : SourceProtocol := .axtpV1
  sessionId : UInt32 := 0
  requestId : UInt32 := 0
  hasRandomSeed : Bool := false
  randomSeed : UInt32 := 0
  jsonSid : Bytes := []
  jsonMethodOrEventName : Bytes := []
  jsonEventMasks : Bytes := []
  localGeneratedResponse : Bool := false
  ingressToken : UInt64 := 0
  replyTarget : UInt64 := 0
  endpoint : EndpointMetadata := {}
  deriving DecidableEq, Repr

/-- The options of OPEN and ACCEPT. A field counts if its flag is set. -/
structure ControlTlvOptions where
  valid : Bool := true
  hasSessionId : Bool := false
  hasProtocolVersion : Bool := false
  hasMaxFrameSize : Bool := false
  hasMtu : Bool := false
  hasSupportedPayloadTypes : Bool := false
  hasSupportedRpcEncodings : Bool := false
  hasSelectedRpcEncoding : Bool := false
  hasHeartbeatIntervalMs : Bool := false
  hasAckMode : Bool := false
  sessionId : UInt32 := 0
  protocolVersion : UInt8 := 1
  maxFrameSize : UInt32 := 4096
  mtu : UInt32 := 4096
  supportedPayloadTypes : UInt8 := 0x07
  supportedRpcEncodings : UInt8 := 0x09
  selectedRpcEncoding : UInt8 := RpcEncoding.json.value
  heartbeatIntervalMs : UInt32 := 1000
  ackMode : UInt8 := 0
  deriving DecidableEq, Repr

/-- A control message; `tlv` is what was read of the body. -/
structure ControlPayload where
  opcode : ControlOpcode := ControlOpcode.open_
  controlId : UInt16 := 0
  statusCode : ErrorCode := ErrorCode.success
  meta_ : PayloadMeta := {}
  tlv : ControlTlvOptions := {}
  body : Bytes := []
  deriving DecidableEq, Repr

/-- A request, a response, an event or a message of the session. -/
structure RpcPayload where
  encoding : RpcEncoding := RpcEncoding.json
  op : RpcOp := RpcOp.request
  requestId : UInt32 := 0
  methodOrEventId : UInt32 := 0
  statusCode : ErrorCode := ErrorCode.success
  bodyEncoding : RpcBodyEncoding := RpcBodyEncoding.tlv8
  meta_ : PayloadMeta := {}
  body : Bytes := []
  deriving DecidableEq, Repr

/-- A piece of a stream. -/
structure StreamPayload where
  streamId : UInt32 := 0
  seqId : UInt32 := 0
  cursor : UInt64 := 0
  meta_ : PayloadMeta := {}
  data : Bytes := []
  deriving DecidableEq, Repr

/-- What an `IPayloadSink` is handed: the argument of one of its three methods. -/
inductive Payload where
  | control (payload : ControlPayload)
  | rpc (payload : RpcPayload)
  | stream (payload : StreamPayload)
  deriving DecidableEq, Repr

end Axtp
