/-
  `FrameEncoder` (`wire/framed_binary/outbound/frame_encoder.hpp`).
-/
import Axtp.Model.Types
import Axtp.Support.Crc16

namespace Axtp

namespace FrameEncoder

/-- What `encode` writes before the CRC: the header and the payload. The length field is the
payload's size cast to 16 bits, whatever `header.payloadLength` says. -/
def encodeBody (frame : Frame) : Bytes :=
  writeU8 kAxtpStandardMagic0 ++ writeU8 kAxtpStandardMagic1 ++ writeU8 frame.header.version ++
    writeU8 frame.header.payloadType.toByte ++ writeU16 (UInt16.ofNat frame.payload.length) ++
    writeU8 frame.header.sourceId ++ writeU8 frame.header.destinationId ++
    writeU16 frame.header.messageId ++ writeU8 frame.header.frameIndex ++
    writeU8 frame.header.frameCount ++ frame.payload

def encode (frame : Frame) : Bytes :=
  encodeBody frame ++ writeU16 (crc16CcittFalse (encodeBody frame))

end FrameEncoder

end Axtp
