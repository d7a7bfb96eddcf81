/-
  `FrameDecoder` (`wire/framed_binary/inbound/frame_decoder.hpp`).

  The decoder's state is its byte buffer. `parseLoop` pushes each frame it
  completes into the next stage, which may throw; the loop is then left with
  the frame already consumed.

  `turn` is the body of the `while (true)` loop. A turn that goes on removes at
  least one byte, so `buffer.length + 1` turns always suffice; `parseLoop` runs
  the loop for that many.
-/
import Axtp.Lib.Run
import Axtp.Model.Types
import Axtp.Support.Crc16

namespace Axtp

namespace FrameDecoder

def isPayloadType (value : Byte) : Bool := (PayloadType.ofByte value).isSome

/-- `resyncToMagic`: drop everything before the first magic; without one keep at most a trailing
`0x41`. -/
def resyncToMagic : Bytes → Bytes
  | [] => []
  | [a] => if a = kAxtpStandardMagic0 then [a] else []
  | a :: b :: rest =>
    if a = kAxtpStandardMagic0 ∧ b = kAxtpStandardMagic1 then a :: b :: rest
    else resyncToMagic (b :: rest)

/-- The header fields as read, the payload type still a byte. -/
structure RawHeader where
  version : UInt8
  payloadType : Byte
  payloadLength : UInt16
  sourceId : UInt8
  destinationId : UInt8
  messageId : UInt16
  frameIndex : UInt8
  frameCount : UInt8
  deriving DecidableEq, Repr

/-- The reads of `parseLoop` on the header bytes, in its order. -/
def readHeader (headerBytes : Bytes) : Option RawHeader := do
  let (_, reader) ← readU8 headerBytes
  let (_, reader) ← readU8 reader
  let (version, reader) ← readU8 reader
  let (payloadType, reader) ← readU8 reader
  let (payloadLength, reader) ← readU16 reader
  let (sourceId, reader) ← readU8 reader
  let (destinationId, reader) ← readU8 reader
  let (messageId, reader) ← readU16 reader
  let (frameIndex, reader) ← readU8 reader
  let (frameCount, _) ← readU8 reader
  return { version, payloadType, payloadLength, sourceId, destinationId, messageId, frameIndex,
           frameCount }

/-- How one turn of the loop ends: it returns, it continues, or it hands over a frame and
continues; each with the buffer it leaves. -/
inductive Turn where
  | wait (buffer : Bytes)
  | resume (buffer : Bytes)
  | deliver (frame : Frame) (buffer : Bytes)

/-- One turn of the loop, on a buffer already resynchronised. -/
def turnAtMagic (buffer : Bytes) : Turn :=
  if buffer.length < kStandardFrameHeaderSize + kStandardFrameCrcSize then .wait buffer
  else
    match readHeader (buffer.take kStandardFrameHeaderSize) with
    | none => .wait buffer
    | some header =>
      match PayloadType.ofByte header.payloadType with
      | none => .resume (buffer.drop 1)
      | some payloadType =>
        if header.version ≠ kAxtpVersion1 ∨ header.frameCount = 0 ∨
            header.frameIndex ≥ header.frameCount then .resume (buffer.drop 1)
        else
          let totalSize :=
            kStandardFrameHeaderSize + header.payloadLength.toNat + kStandardFrameCrcSize
          if buffer.length < totalSize then .wait buffer
          else
            let frameBytes := buffer.take totalSize
            match readU16 (frameBytes.drop (totalSize - kStandardFrameCrcSize)) with
            | none => .resume (buffer.drop 1)
            | some (expectedCrc, _) =>
              let actualCrc := crc16CcittFalse (frameBytes.take (totalSize - kStandardFrameCrcSize))
              if expectedCrc ≠ actualCrc then .resume (buffer.drop 1)
              else
                .deliver
                  { header :=
                      { version := header.version, payloadType,
                        payloadLength := header.payloadLength, sourceId := header.sourceId,
                        destinationId := header.destinationId, messageId := header.messageId,
                        frameIndex := header.frameIndex, frameCount := header.frameCount }
                    payload :=
                      (frameBytes.drop kStandardFrameHeaderSize).take header.payloadLength.toNat
                    crc16 := expectedCrc }
                  (buffer.drop totalSize)

/-- The body of the `while (true)` loop. -/
def turn (buffer : Bytes) : Turn := turnAtMagic (resyncToMagic buffer)

variable {σ : Type*}

/-- The loop, for at most the given number of turns: the buffer it leaves, the state of the sink
and how the loop ends. -/
def parseLoopFor (sink : Sink σ Frame) : ℕ → Bytes → σ → Bytes × σ × Exit
  | 0, buffer, s => (buffer, s, .returned)
  | turns + 1, buffer, s =>
    match turn buffer with
    | .wait buffer' => (buffer', s, .returned)
    | .resume buffer' => parseLoopFor sink turns buffer' s
    | .deliver frame buffer' =>
      match sink s frame with
      | (s', .returned) => parseLoopFor sink turns buffer' s'
      | (s', .threw) => (buffer', s', .threw)

def parseLoop (sink : Sink σ Frame) (buffer : Bytes) (s : σ) : Bytes × σ × Exit :=
  parseLoopFor sink (buffer.length + 1) buffer s

def onBytes (sink : Sink σ Frame) (buffer data : Bytes) (s : σ) : Bytes × σ × Exit :=
  parseLoop sink (buffer ++ data) s

/-- A sequence of `onBytes` calls, up to the first that throws. -/
def onChunks (sink : Sink σ Frame) : Bytes → List Bytes → σ → Bytes × σ × Exit
  | buffer, [], s => (buffer, s, .returned)
  | buffer, data :: chunks, s =>
    match onBytes sink buffer data s with
    | (buffer', s', .returned) => onChunks sink buffer' chunks s'
    | (buffer', s', .threw) => (buffer', s', .threw)

end FrameDecoder

end Axtp
