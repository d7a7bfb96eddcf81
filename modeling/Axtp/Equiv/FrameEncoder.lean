/-
  An encoded frame is read back by the scan of the stream, whatever follows it.

  `encode` computes the length field and the CRC itself. `Encodable` is what the
  rest of the header has to meet for the receiver; `onWire` is the frame as the
  receiver sees it, with the two computed fields filled in.
-/
import Axtp.Equiv.FrameDecoder
import Axtp.Wire.FrameEncoder

namespace Axtp.FrameEncoder

open FrameScan

/-- A header that the receiver accepts, and a payload that fits the length field. -/
structure Encodable (frame : Frame) : Prop where
  version : frame.header.version = kAxtpVersion1
  frameIndex_lt : frame.header.frameIndex < frame.header.frameCount
  length_lt : frame.payload.length < 2 ^ 16

/-- The frame with the fields that `encode` computes. -/
def onWire (frame : Frame) : Frame :=
  { frame with
    header := { frame.header with payloadLength := UInt16.ofNat frame.payload.length }
    crc16 := crc16CcittFalse (encodeBody frame) }

/-! ### The bytes of an encoded frame -/

variable (frame : Frame) (t : Bytes)

@[simp] theorem length_encodeBody : (encodeBody frame).length = 12 + frame.payload.length := by
  simp only [encodeBody, List.length_append, length_writeU8, length_writeU16]

@[simp] theorem length_encode : (encode frame).length = 14 + frame.payload.length := by
  rw [encode, List.length_append, length_encodeBody, length_writeU16]
  omega

/-- The encoded frame field by field, with what follows it. -/
theorem encode_append : encode frame ++ t =
    kAxtpStandardMagic0 :: kAxtpStandardMagic1 :: frame.header.version ::
      frame.header.payloadType.toByte :: (writeU16 (UInt16.ofNat frame.payload.length) ++
      frame.header.sourceId :: frame.header.destinationId :: (writeU16 frame.header.messageId ++
      frame.header.frameIndex :: frame.header.frameCount :: (frame.payload ++
      (writeU16 (crc16CcittFalse (encodeBody frame)) ++ t)))) := by
  rw [encode]
  nth_rewrite 1 [encodeBody]
  simp only [writeU8, List.append_assoc, List.cons_append, List.nil_append]

theorem byteAt_eq_drop (s : Bytes) (i j : ℕ) : byteAt s (i + j) = byteAt (s.drop i) j := by
  rw [byteAt, byteAt, List.getD_eq_getElem?_getD, List.getD_eq_getElem?_getD, List.getElem?_drop]

/-- A written 16-bit number is found at its place. -/
theorem word16At_of_drop {s : Bytes} (rest : Bytes) {i : ℕ} {v : UInt16}
    (h : s.drop i = writeU16 v ++ rest) : word16At s i = v := by
  have hread := readU16_writeU16 v []
  simp only [writeU16, List.append_nil, readU16, Option.some.injEq, Prod.mk.injEq, and_true,
    FrameDecoder.word16_eq] at hread
  rw [word16At, byteAt_eq_drop, ← Nat.add_zero i, byteAt_eq_drop s i 0, Nat.add_zero, h]
  exact hread

theorem length_encode_field :
    word16At (encode frame ++ t) 4 = UInt16.ofNat frame.payload.length := by
  rw [encode_append]
  exact word16At_of_drop _ rfl

theorem messageId_encode : word16At (encode frame ++ t) 8 = frame.header.messageId := by
  rw [encode_append]
  exact word16At_of_drop _ rfl

theorem payloadLength_encode (hlen : frame.payload.length < 2 ^ 16) :
    payloadLength (encode frame ++ t) = frame.payload.length := by
  rw [payloadLength, length_encode_field, UInt16.toNat_ofNat', Nat.mod_eq_of_lt hlen]

theorem crc_encode : word16At (encode frame ++ t) (12 + frame.payload.length) =
    crc16CcittFalse (encodeBody frame) := by
  refine word16At_of_drop t ?_
  rw [encode, List.append_assoc, ← length_encodeBody, List.drop_left]

theorem payload_encode :
    (encode frame ++ t).drop 12 =
      frame.payload ++ (writeU16 (crc16CcittFalse (encodeBody frame)) ++ t) := by
  rw [encode_append]
  rfl

/-- The single-byte header fields at their places. -/
theorem headerBytes_encode :
    byteAt (encode frame ++ t) 2 = frame.header.version ∧
      byteAt (encode frame ++ t) 3 = frame.header.payloadType.toByte ∧
      byteAt (encode frame ++ t) 6 = frame.header.sourceId ∧
      byteAt (encode frame ++ t) 7 = frame.header.destinationId ∧
      byteAt (encode frame ++ t) 10 = frame.header.frameIndex ∧
      byteAt (encode frame ++ t) 11 = frame.header.frameCount := by
  rw [encode_append]
  exact ⟨rfl, rfl, rfl, rfl, rfl, rfl⟩

theorem frameAt_encode (hlen : frame.payload.length < 2 ^ 16) :
    frameAt (encode frame ++ t) = onWire frame := by
  obtain ⟨h2, h3, h6, h7, h10, h11⟩ := headerBytes_encode frame t
  unfold frameAt
  simp only [payloadLength_encode frame t hlen, crc_encode, messageId_encode, length_encode_field,
    payload_encode, List.take_left, h2, h3, h6, h7, h10, h11, PayloadType.ofByte_toByte,
    Option.getD_some, onWire]

variable {frame} in
/-- **An encoded frame scans as that frame**, whatever follows it. -/
theorem verdict_encode (h : Encodable frame) :
    frameScanner.verdict (encode frame ++ t) = .token (onWire frame) (encode frame).length := by
  have hmagic : AtMagic (encode frame ++ t) := by
    rw [encode_append]
    rfl
  have hlegal : LegalHeader (encode frame ++ t) := by
    obtain ⟨h2, h3, -, -, h10, h11⟩ := headerBytes_encode frame t
    rw [LegalHeader, h2, h3, h10, h11, PayloadType.ofByte_toByte]
    refine ⟨h.version, rfl, fun hcount => ?_, h.frameIndex_lt⟩
    · have hlt := UInt8.lt_iff_toNat_lt.mp h.frameIndex_lt
      rw [show frame.header.frameCount = 0 from hcount, UInt8.toNat_zero] at hlt
      omega
  have hcrc : CrcMatches (encode frame ++ t) := by
    have htake : (encode frame ++ t).take (12 + frame.payload.length) = encodeBody frame := by
      rw [encode, List.append_assoc, ← length_encodeBody, List.take_left]
    rw [CrcMatches, payloadLength_encode frame t h.length_lt, crc_encode, htake]
  have hlen : ¬ (encode frame ++ t).length < 14 := by
    rw [List.length_append, length_encode]
    omega
  have htotal : ¬ (encode frame ++ t).length < 14 + frame.payload.length := by
    rw [List.length_append, length_encode]
    omega
  rw [verdict_eq, verdictAt]
  simp only [hmagic, hlegal, hcrc, hlen, htotal, payloadLength_encode frame t h.length_lt,
    frameAt_encode frame t h.length_lt, length_encode, not_true_eq_false, if_false]

end Axtp.FrameEncoder
