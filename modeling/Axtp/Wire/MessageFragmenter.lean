/-
  `MessageFragmenter` (`wire/framed_binary/outbound/message_fragmenter.hpp`).
-/
import Axtp.Model.Types

namespace Axtp

structure MessageFragmenter where
  nextMessageId : UInt16 := 1
  currentMessageId : UInt16 := 1
  maxFrameSize : ℕ := 4096
  deriving DecidableEq, Repr

namespace MessageFragmenter

def setMaxFrameSize (f : MessageFragmenter) (maxFrameSize : ℕ) : MessageFragmenter :=
  { f with maxFrameSize }

def payloadCapacity (f : MessageFragmenter) : ℕ :=
  if f.maxFrameSize ≤ kStandardFrameHeaderSize + kStandardFrameCrcSize then 0
  else f.maxFrameSize - kStandardFrameHeaderSize - kStandardFrameCrcSize

/-- `nextMessageId()`: the id handed out, and the state with the next one, which skips zero. -/
def takeMessageId (f : MessageFragmenter) : UInt16 × MessageFragmenter :=
  let next := f.nextMessageId + 1
  (f.nextMessageId, { f with nextMessageId := if next = 0 then 1 else next })

/-- `makeFrame`: the frame with index 0 takes a new message id, the others keep the current one. -/
def makeFrame (f : MessageFragmenter) (message : Message) (frameIndex frameCount : UInt8)
    (payload : Bytes) : MessageFragmenter × Frame :=
  let f :=
    if frameIndex = 0 then
      let (id, f) := f.takeMessageId
      { f with currentMessageId := id }
    else f
  (f,
    { header :=
        { version := kAxtpVersion1
          payloadType := message.payloadType
          payloadLength := UInt16.ofNat payload.length
          messageId := f.currentMessageId
          frameIndex, frameCount }
      payload })

/-- The fragment loop from `index` on, for `remaining` more frames. -/
def fragmentLoop (message : Message) (maxPayloadSize : ℕ) (frameCount : UInt8) :
    ℕ → ℕ → MessageFragmenter → MessageFragmenter × List Frame
  | 0, _, f => (f, [])
  | remaining + 1, index, f =>
    let offset := index * maxPayloadSize
    let chunkSize := min maxPayloadSize (message.body.length - offset)
    let payload := (message.body.drop offset).take chunkSize
    let (f, frame) := f.makeFrame message (UInt8.ofNat index) frameCount payload
    let (f, frames) := fragmentLoop message maxPayloadSize frameCount remaining (index + 1) f
    (f, frame :: frames)

/-- The frame count as computed: rounded up in `std::size_t` arithmetic and cast to 8 bits. -/
def frameCountFor (size maxPayloadSize : ℕ) : UInt8 :=
  UInt8.ofNat (sizeT (size + maxPayloadSize - 1) / maxPayloadSize)

def fragment (f : MessageFragmenter) (message : Message) : MessageFragmenter × List Frame :=
  let maxPayloadSize := f.payloadCapacity
  if maxPayloadSize = 0 ∨ message.body = [] then
    let (f, frame) := f.makeFrame message 0 1 []
    (f, [frame])
  else
    let frameCount := frameCountFor message.body.length maxPayloadSize
    fragmentLoop message maxPayloadSize frameCount frameCount.toNat 0 f

end MessageFragmenter

end Axtp
