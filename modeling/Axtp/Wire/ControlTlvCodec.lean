/-
  `ControlTlvCodec` (`wire/framed_binary/control_tlv_codec.hpp`).
-/
import Axtp.Model.Types

namespace Axtp

namespace ControlTlvCodec

/-- The tags of the fields. -/
def kSessionId : UInt8 := 0x01
def kProtocolVersion : UInt8 := 0x02
def kMaxFrameSize : UInt8 := 0x04
def kMtu : UInt8 := 0x06
def kSupportedPayloadTypes : UInt8 := 0x07
def kSupportedRpcEncodings : UInt8 := 0x08
def kHeartbeatIntervalMs : UInt8 := 0x0A
def kAckMode : UInt8 := 0x0B
def kSelectedRpcEncoding : UInt8 := 0x1E

/-- What a client offers. -/
def defaultsForOpen : ControlTlvOptions :=
  { hasMaxFrameSize := true
    hasSupportedPayloadTypes := true
    hasSupportedRpcEncodings := true
    hasHeartbeatIntervalMs := true
    hasAckMode := true
    maxFrameSize := 4096
    supportedPayloadTypes := 0x07
    supportedRpcEncodings := 0x09
    heartbeatIntervalMs := 1000
    ackMode := 0 }

/-- What a server agrees to: what was asked for, with the default where nothing was. The options are
invalid if encodings were offered and JSON is not among them. -/
def defaultsForAccept (requested : ControlTlvOptions) : ControlTlvOptions :=
  { hasSessionId := true
    hasMaxFrameSize := true
    hasMtu := requested.hasMtu
    hasSupportedPayloadTypes := true
    hasSelectedRpcEncoding := true
    hasHeartbeatIntervalMs := true
    hasAckMode := true
    sessionId := if requested.hasSessionId then requested.sessionId else 0
    maxFrameSize := if requested.hasMaxFrameSize then requested.maxFrameSize else 4096
    mtu := if requested.hasMtu then requested.mtu else 4096
    supportedPayloadTypes :=
      if requested.hasSupportedPayloadTypes then requested.supportedPayloadTypes else 0x07
    selectedRpcEncoding := RpcEncoding.json.value
    valid :=
      ¬ (requested.hasSupportedRpcEncodings ∧ requested.supportedRpcEncodings &&& 0x01 = 0)
    heartbeatIntervalMs :=
      if requested.hasHeartbeatIntervalMs then requested.heartbeatIntervalMs else 1000
    ackMode := if requested.hasAckMode then requested.ackMode else 0 }

/-! ### Encoding -/

def writeHeader (tag length : UInt8) : Bytes := Axtp.writeU8 tag ++ Axtp.writeU8 length

/-- A field with a value of one byte. -/
def writeU8 (tag value : UInt8) : Bytes := writeHeader tag 1 ++ Axtp.writeU8 value

def writeU16 (tag : UInt8) (value : UInt16) : Bytes := writeHeader tag 2 ++ Axtp.writeU16 value

def writeU32 (tag : UInt8) (value : UInt32) : Bytes := writeHeader tag 4 ++ Axtp.writeU32 value

/-- A number in as few bytes as it needs, but at least two. -/
def writeU16OrU32 (tag : UInt8) (value : UInt32) : Bytes :=
  if value ≤ 0xFFFF then writeU16 tag value.toUInt16 else writeU32 tag value

/-- The fields whose flags are set. The session and the selected encoding are only in an ACCEPT, the
supported encodings only in an OPEN. -/
def encode (options : ControlTlvOptions) (includeAcceptFields : Bool) : Bytes :=
  (if includeAcceptFields ∧ options.hasSessionId then
    writeU32 kSessionId options.sessionId else []) ++
  (if options.hasProtocolVersion then
    writeU8 kProtocolVersion options.protocolVersion else []) ++
  (if options.hasMaxFrameSize then
    writeU16OrU32 kMaxFrameSize options.maxFrameSize else []) ++
  (if options.hasMtu then writeU16OrU32 kMtu options.mtu else []) ++
  (if options.hasSupportedPayloadTypes then
    writeU8 kSupportedPayloadTypes options.supportedPayloadTypes else []) ++
  (if ¬ includeAcceptFields ∧ options.hasSupportedRpcEncodings then
    writeU8 kSupportedRpcEncodings options.supportedRpcEncodings else []) ++
  (if includeAcceptFields ∧ options.hasSelectedRpcEncoding then
    writeU8 kSelectedRpcEncoding options.selectedRpcEncoding else []) ++
  (if options.hasHeartbeatIntervalMs then
    writeU16OrU32 kHeartbeatIntervalMs options.heartbeatIntervalMs else []) ++
  (if options.hasAckMode then writeU8 kAckMode options.ackMode else [])

/-! ### Decoding -/

/-- A big-endian number of 1, 2 or 4 bytes, up to `maxValue`. -/
def readUnsigned (bytes : Bytes) (maxValue : UInt32) : Option UInt32 :=
  if bytes = [] ∨ bytes.length > 4 ∨ bytes.length = 3 then none
  else
    let parsed : UInt32 := bytes.foldl (fun parsed byte => parsed <<< 8 ||| byte.toUInt32) 0
    if parsed > maxValue then none else some parsed

/-- A number that fits one byte, however many bytes it is written in. -/
def readU8 (bytes : Bytes) : Option UInt8 := (readUnsigned bytes 0xFF).map UInt32.toUInt8

def readU32 (bytes : Bytes) : Option UInt32 := readUnsigned bytes 0xFFFFFFFF

/-- One field. A value that does not parse clears the field's flag, makes the options invalid and
leaves the field's value as it was. -/
def decodeField (options : ControlTlvOptions) (tag : UInt8) (value : Bytes) : ControlTlvOptions :=
  if tag = kSessionId then
    let parsed := readU32 value
    { options with
      hasSessionId := parsed.isSome, valid := options.valid && parsed.isSome
      sessionId := parsed.getD options.sessionId }
  else if tag = kProtocolVersion then
    let parsed := readU8 value
    { options with
      hasProtocolVersion := parsed = some 1, valid := options.valid && parsed = some 1
      protocolVersion := parsed.getD options.protocolVersion }
  else if tag = kMaxFrameSize then
    let parsed := readUnsigned value 0xFFFF
    { options with
      hasMaxFrameSize := parsed.isSome, valid := options.valid && parsed.isSome
      maxFrameSize := parsed.getD options.maxFrameSize }
  else if tag = kMtu then
    let parsed := readUnsigned value 0xFFFF
    { options with
      hasMtu := parsed.isSome, valid := options.valid && parsed.isSome
      mtu := parsed.getD options.mtu }
  else if tag = kSupportedPayloadTypes then
    let parsed := readU8 value
    { options with
      hasSupportedPayloadTypes := parsed.isSome, valid := options.valid && parsed.isSome
      supportedPayloadTypes := parsed.getD options.supportedPayloadTypes }
  else if tag = kSupportedRpcEncodings then
    let parsed := readU8 value
    { options with
      hasSupportedRpcEncodings := parsed.isSome, valid := options.valid && parsed.isSome
      supportedRpcEncodings := parsed.getD options.supportedRpcEncodings }
  else if tag = kSelectedRpcEncoding then
    let parsed := readU8 value
    { options with
      hasSelectedRpcEncoding := parsed.isSome, valid := options.valid && parsed.isSome
      selectedRpcEncoding := parsed.getD options.selectedRpcEncoding }
  else if tag = kHeartbeatIntervalMs then
    let parsed := readU32 value
    { options with
      hasHeartbeatIntervalMs := parsed.isSome, valid := options.valid && parsed.isSome
      heartbeatIntervalMs := parsed.getD options.heartbeatIntervalMs }
  else if tag = kAckMode then
    let parsed := readU8 value
    { options with
      hasAckMode := parsed.isSome, valid := options.valid && parsed.isSome
      ackMode := parsed.getD options.ackMode }
  else options

/-- The loop of `decode`; a field takes at least two bytes, so one turn for each byte is enough. -/
def decodeLoop : ℕ → ControlTlvOptions → Bytes → ControlTlvOptions
  | 0, options, _ => options
  | turns + 1, options, reader =>
    match reader with
    | [] => options
    | [_] => { options with valid := false }
    | tag :: length :: rest =>
      match readBytes length.toNat rest with
      | none => { options with valid := false }
      | some (value, reader) => decodeLoop turns (decodeField options tag value) reader

/-- All fields of a body, the later ones over the earlier ones. A field that is cut off makes the
options invalid and ends the loop. -/
def decode (bytes : Bytes) : ControlTlvOptions := decodeLoop bytes.length {} bytes

end ControlTlvCodec

end Axtp
