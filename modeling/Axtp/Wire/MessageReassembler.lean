/-
  `MessageReassembler` (`wire/framed_binary/inbound/message_reassembler.hpp`).

  The `std::map` of assemblies is its lookup function. `onFrame` makes at most one
  message; it is handed to the next stage after the assembly has been erased.
-/
import Axtp.Model.Types

namespace Axtp

/-- `MessageReassembler::Assembly`. -/
structure Assembly where
  payloadType : PayloadType := .rpc
  frameCount : UInt8 := 0
  totalSize : ℕ := 0
  fragments : List (Option Bytes) := []
  deriving DecidableEq, Repr

structure MessageReassembler where
  maxMessageSize : ℕ := 1024 * 1024
  assemblies : UInt16 → Option Assembly := fun _ => none

namespace MessageReassembler

def erase (r : MessageReassembler) (messageId : UInt16) : MessageReassembler :=
  { r with assemblies := Function.update r.assemblies messageId none }

def store (r : MessageReassembler) (messageId : UInt16) (assembly : Assembly) :
    MessageReassembler :=
  { r with assemblies := Function.update r.assemblies messageId (some assembly) }

/-- The reference `_assemblies[messageId]`, initialised from the header when it has no fragments
yet. -/
def openAssembly (r : MessageReassembler) (header : FrameHeader) : Assembly :=
  let assembly := (r.assemblies header.messageId).getD {}
  if assembly.fragments.isEmpty then
    { assembly with
      payloadType := header.payloadType
      frameCount := header.frameCount
      fragments := List.replicate header.frameCount.toNat none }
  else assembly

/-- `onFrame`: the new state and the message completed, if any. -/
def onFrame (r : MessageReassembler) (frame : Frame) : MessageReassembler × List Message :=
  let header := frame.header
  let messageId := header.messageId
  if header.frameCount = 1 then
    if header.frameIndex ≠ 0 then (r, [])
    else (r, [{ messageId, payloadType := header.payloadType, body := frame.payload }])
  else
    let assembly := r.openAssembly header
    let frameIndex := header.frameIndex.toNat
    if assembly.payloadType ≠ header.payloadType ∨ assembly.frameCount ≠ header.frameCount then
      (r.erase messageId, [])
    else
      match assembly.fragments[frameIndex]? with
      | none => (r.erase messageId, [])
      | some (some _) => (r.store messageId assembly, [])
      | some none =>
        let totalSize := assembly.totalSize + frame.payload.length
        if totalSize > r.maxMessageSize then (r.erase messageId, [])
        else
          let fragments := assembly.fragments.set frameIndex (some frame.payload)
          if fragments.all Option.isSome then
            (r.erase messageId,
              [{ messageId, payloadType := assembly.payloadType,
                 body := fragments.reduceOption.flatten }])
          else (r.store messageId { assembly with totalSize, fragments }, [])

end MessageReassembler

end Axtp
