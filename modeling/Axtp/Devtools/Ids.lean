/-
  The id enums of the generator: `cppName` and `sortById` (`util.ts`), `enumBlock` and
  `emitIds` (`emitters/cpp.ts`).

  A row of an enum is kept as its enumerator and its id. Names are UTF-8; a byte of a
  character outside ASCII is neither letter nor digit, as is the character in the source.
-/
import Axtp.Devtools.SpecModel

namespace Axtp

namespace Devtools

/-! ### `util.ts` -/

def isLower (ch : Byte) : Bool := 0x61 ≤ ch ∧ ch ≤ 0x7A

def isAlphanumeric (ch : Byte) : Bool := isLower ch ∨ isUpper ch ∨ (0x30 ≤ ch ∧ ch ≤ 0x39)

def toUpper (ch : Byte) : Byte := if isLower ch then ch - 0x20 else ch

/-- The non-empty parts of a name between characters that are neither letters nor digits. -/
def words (name : Bytes) : List Bytes :=
  (name.splitOnP fun ch => !isAlphanumeric ch).filter (· ≠ [])

/-- A part of an identifier. A word without small letters keeps only its first capital. -/
def capitalised (part : Bytes) : Bytes :=
  let normalized := if part = part.map toUpper then part.map toLower else part
  (normalized.take 1).map toUpper ++ normalized.drop 1

def cppName (name : Bytes) : Bytes := (words name).flatMap capitalised

section

-- `String.prototype.localeCompare`
variable (localeCompare : Bytes → Bytes → ℤ)

def sortById (items : List RegistryItem) : List RegistryItem :=
  items.insertionSort fun a b =>
    a.id < b.id ∨ (a.id = b.id ∧ localeCompare a.name b.name ≤ 0)

/-! ### `emitters/cpp.ts` -/

structure Enumerator where
  name : Bytes
  value : ℤ
  deriving DecidableEq

/-- The rows of an enum. -/
def enumBlock (items : List RegistryItem) : List Enumerator :=
  (sortById localeCompare items).map fun item => { name := cppName item.name, value := item.id }

/-- The enums of `axtp_ids_generated.h`, of 8 bits up to `RpcOp` and of 16 bits from
`MethodId` on. -/
structure Ids where
  PayloadType : List Enumerator
  ControlOpcode : List Enumerator
  RpcEncoding : List Enumerator
  RpcBodyEncoding : List Enumerator
  RpcOp : List Enumerator
  MethodId : List Enumerator
  EventId : List Enumerator
  ErrorCode : List Enumerator
  CapabilityId : List Enumerator

def emitIds (spec : SpecModel) : Ids where
  PayloadType := enumBlock localeCompare spec.payloadTypes
  ControlOpcode := enumBlock localeCompare spec.controlOpcodes
  RpcEncoding := enumBlock localeCompare spec.rpcEncodings
  RpcBodyEncoding := enumBlock localeCompare spec.rpcBodyEncodings
  RpcOp := enumBlock localeCompare spec.rpcOps
  MethodId := enumBlock localeCompare (spec.methods.map Method.toRegistryItem)
  EventId := enumBlock localeCompare (spec.events.map Event.toRegistryItem)
  ErrorCode := enumBlock localeCompare (spec.errors.map ErrorItem.toRegistryItem)
  CapabilityId := enumBlock localeCompare (spec.capabilities.map Capability.toRegistryItem)

end

example : cppName (ascii "stream.setHTTP_mode2") = ascii "StreamSetHTTPMode2" := by decide +kernel

example : cppName (ascii "FRAME_CRC_ERROR") = ascii "FrameCrcError" := by decide +kernel

end Devtools

end Axtp
