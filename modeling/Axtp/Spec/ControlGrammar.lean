/-
  The grammar of the options in a control message.

  The options are complete records. What a record with a known tag may hold is a number
  of one, two or four bytes within the limit of its tag (`InGrammar`); other records may
  hold anything. What such records say is, for each tag, the number of its last record
  (`optionsOf`).
-/
import Axtp.Lib.Tlv8
import Axtp.Wire.ControlTlvCodec

namespace Axtp

namespace ControlTlvCodec

/-- The number that bytes stand for, the highest byte first. -/
def bigEndian (bytes : Bytes) : ℕ := bytes.foldl (fun number byte => 256 * number + byte.toNat) 0

/-- The tags with one byte for a value, whatever it is. -/
def byteTags : List UInt8 :=
  [kSupportedPayloadTypes, kSupportedRpcEncodings, kSelectedRpcEncoding, kAckMode]

def knownTags : List UInt8 :=
  [kSessionId, kProtocolVersion, kMaxFrameSize, kMtu, kHeartbeatIntervalMs] ++ byteTags

/-- The numbers within the limit of a known tag. -/
def WithinLimit (tag : UInt8) (number : ℕ) : Prop :=
  if tag = kProtocolVersion then number = 1
  else if tag ∈ byteTags then number ≤ 0xFF
  else if tag = kMaxFrameSize ∨ tag = kMtu then number ≤ 0xFFFF
  else number < 2 ^ 32

instance (tag : UInt8) (number : ℕ) : Decidable (WithinLimit tag number) := by
  unfold WithinLimit; infer_instance

def IsNumber (bytes : Bytes) : Prop := bytes.length = 1 ∨ bytes.length = 2 ∨ bytes.length = 4

instance (bytes : Bytes) : Decidable (IsNumber bytes) := by unfold IsNumber; infer_instance

def InGrammar (entry : UInt8 × Bytes) : Prop :=
  entry.1 ∈ knownTags → IsNumber entry.2 ∧ WithinLimit entry.1 (bigEndian entry.2)

/-- The number in the last record with the tag. -/
def lastNumber (records : List (UInt8 × Bytes)) (tag : UInt8) : Option ℕ :=
  (records.filter fun entry => entry.1 = tag).getLast?.map fun entry => bigEndian entry.2

/-- What the records say. -/
def optionsOf (records : List (UInt8 × Bytes)) : ControlTlvOptions :=
  let has (tag : UInt8) : Bool := (lastNumber records tag).isSome
  let byte (tag : UInt8) (byDefault : UInt8) : UInt8 :=
    ((lastNumber records tag).map UInt8.ofNat).getD byDefault
  let word (tag : UInt8) (byDefault : UInt32) : UInt32 :=
    ((lastNumber records tag).map UInt32.ofNat).getD byDefault
  { hasSessionId := has kSessionId
    hasProtocolVersion := has kProtocolVersion
    hasMaxFrameSize := has kMaxFrameSize
    hasMtu := has kMtu
    hasSupportedPayloadTypes := has kSupportedPayloadTypes
    hasSupportedRpcEncodings := has kSupportedRpcEncodings
    hasSelectedRpcEncoding := has kSelectedRpcEncoding
    hasHeartbeatIntervalMs := has kHeartbeatIntervalMs
    hasAckMode := has kAckMode
    sessionId := word kSessionId ({} : ControlTlvOptions).sessionId
    protocolVersion := byte kProtocolVersion ({} : ControlTlvOptions).protocolVersion
    maxFrameSize := word kMaxFrameSize ({} : ControlTlvOptions).maxFrameSize
    mtu := word kMtu ({} : ControlTlvOptions).mtu
    supportedPayloadTypes :=
      byte kSupportedPayloadTypes ({} : ControlTlvOptions).supportedPayloadTypes
    supportedRpcEncodings :=
      byte kSupportedRpcEncodings ({} : ControlTlvOptions).supportedRpcEncodings
    selectedRpcEncoding := byte kSelectedRpcEncoding ({} : ControlTlvOptions).selectedRpcEncoding
    heartbeatIntervalMs := word kHeartbeatIntervalMs ({} : ControlTlvOptions).heartbeatIntervalMs
    ackMode := byte kAckMode ({} : ControlTlvOptions).ackMode }

/-- The options with the fields that are written in the direction; the others are not there. -/
def sent (options : ControlTlvOptions) (includeAcceptFields : Bool) : ControlTlvOptions :=
  let hasSessionId := includeAcceptFields && options.hasSessionId
  let hasSupportedRpcEncodings := !includeAcceptFields && options.hasSupportedRpcEncodings
  let hasSelectedRpcEncoding := includeAcceptFields && options.hasSelectedRpcEncoding
  { hasSessionId
    hasProtocolVersion := options.hasProtocolVersion
    hasMaxFrameSize := options.hasMaxFrameSize
    hasMtu := options.hasMtu
    hasSupportedPayloadTypes := options.hasSupportedPayloadTypes
    hasSupportedRpcEncodings
    hasSelectedRpcEncoding
    hasHeartbeatIntervalMs := options.hasHeartbeatIntervalMs
    hasAckMode := options.hasAckMode
    sessionId := if hasSessionId then options.sessionId else ({} : ControlTlvOptions).sessionId
    protocolVersion := if options.hasProtocolVersion then options.protocolVersion
      else ({} : ControlTlvOptions).protocolVersion
    maxFrameSize := if options.hasMaxFrameSize then options.maxFrameSize
      else ({} : ControlTlvOptions).maxFrameSize
    mtu := if options.hasMtu then options.mtu else ({} : ControlTlvOptions).mtu
    supportedPayloadTypes := if options.hasSupportedPayloadTypes then options.supportedPayloadTypes
      else ({} : ControlTlvOptions).supportedPayloadTypes
    supportedRpcEncodings := if hasSupportedRpcEncodings then options.supportedRpcEncodings
      else ({} : ControlTlvOptions).supportedRpcEncodings
    selectedRpcEncoding := if hasSelectedRpcEncoding then options.selectedRpcEncoding
      else ({} : ControlTlvOptions).selectedRpcEncoding
    heartbeatIntervalMs := if options.hasHeartbeatIntervalMs then options.heartbeatIntervalMs
      else ({} : ControlTlvOptions).heartbeatIntervalMs
    ackMode := if options.hasAckMode then options.ackMode else ({} : ControlTlvOptions).ackMode }

end ControlTlvCodec

end Axtp
