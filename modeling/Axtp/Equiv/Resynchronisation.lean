/-
  The frame decoder finds the first frame behind bytes that are none.

  A position that looks like a header may announce up to 65535 payload bytes, and the
  decoder waits for them all. Once they are there it rejects the position and goes on
  one byte further (`verdictAt_of_garbage`), so nothing of what follows is lost.
-/
import Axtp.Equiv.FrameEncoder

namespace Axtp.FrameDecoder

open FrameScan FrameEncoder

/-- The bytes that start here have the magic, a legal header and a matching CRC. -/
def StartsFrame (s : Bytes) : Prop := AtMagic s ∧ LegalHeader s ∧ CrcMatches s

instance (s : Bytes) : Decidable (StartsFrame s) := by unfold StartsFrame; infer_instance

/-- The size of the longest frame: the header, 65535 payload bytes and the CRC. -/
def kLongestFrame : ℕ := 65549

theorem payloadLength_le (s : Bytes) : 14 + payloadLength s ≤ kLongestFrame := by
  have := (word16At s 4).toNat_lt
  rw [payloadLength, kLongestFrame]
  omega

/-- With as many bytes as any frame can have, a position that starts none is skipped. -/
theorem verdictAt_of_garbage {s : Bytes} (hlen : kLongestFrame ≤ s.length) (h : ¬ StartsFrame s) :
    verdictAt s = .skip := by
  have hpayload := payloadLength_le s
  have hlong : 14 ≤ s.length := le_trans (by simp [kLongestFrame]) hlen
  unfold verdictAt
  by_cases hmagic : AtMagic s
  · rw [if_neg (not_not.mpr hmagic), if_neg (by omega)]
    by_cases hlegal : LegalHeader s
    · have hcrc : ¬ CrcMatches s := fun hcrc => h ⟨hmagic, hlegal, hcrc⟩
      rw [if_neg (not_not.mpr hlegal), if_neg (by omega), if_pos hcrc]
    · rw [if_pos hlegal]
  · rw [if_pos hmagic, if_neg]
    rintro (rfl | rfl)
    · simp at hlong
    · simp at hlong

/-- The scan of a stream whose first frame comes behind garbage. -/
theorem scan_garbage {garbage rest : Bytes} {frame : Frame} (hframe : Encodable frame)
    (hgarbage : ∀ p < garbage.length, ¬ StartsFrame ((garbage ++ encode frame ++ rest).drop p))
    (hlen : garbage.length + kLongestFrame ≤ (garbage ++ encode frame ++ rest).length) :
    (frameScanner.scan (garbage ++ encode frame ++ rest)).1 =
      onWire frame :: (frameScanner.scan rest).1 := by
  rw [List.append_assoc] at hgarbage hlen ⊢
  have hskip (p : ℕ) (hp : p < garbage.length) :
      frameScanner.verdict ((garbage ++ (encode frame ++ rest)).drop p) = .skip := by
    refine verdictAt_of_garbage ?_ (hgarbage p hp)
    rw [List.length_drop]
    omega
  rw [frameScanner.scan_of_skipped hskip, frameScanner.scan_of_token (verdict_encode rest hframe),
    List.drop_left]

/-- The frame on the wire is the frame itself if it carries its own length and CRC. -/
theorem onWire_eq_self {frame : Frame}
    (hlength : frame.header.payloadLength = UInt16.ofNat frame.payload.length)
    (hcrc : frame.crc16 = crc16CcittFalse (encodeBody frame)) : onWire frame = frame := by
  rw [onWire, ← hlength, ← hcrc]

/-- **Guaranteed resynchronisation.** Behind garbage in which no frame starts, and with enough bytes
behind it for the longest frame, a fresh decoder hands the encoded frame to its sink first, however
the stream is cut into chunks. It is the frame with the length and the CRC that the encoder wrote,
so the frame itself if these are its own. -/
theorem onChunks_garbage (garbage rest : Bytes) {frame : Frame} (hframe : Encodable frame)
    (hgarbage : ∀ p < garbage.length, ¬ StartsFrame ((garbage ++ encode frame ++ rest).drop p))
    (hlen : garbage.length + kLongestFrame ≤ (garbage ++ encode frame ++ rest).length)
    (chunks : List Bytes) (hchunks : chunks.flatten = garbage ++ encode frame ++ rest) :
    (onChunks Sink.collect [] chunks []).2.1.head? = some (onWire frame) ∧
      (∀ {σ : Type} (sink : Sink σ Frame) (s : σ), ∃ frames,
        (onChunks sink [] chunks s).2 = sink.feed s (onWire frame :: frames)) ∧
      (frame.header.payloadLength = UInt16.ofNat frame.payload.length →
        frame.crc16 = crc16CcittFalse (encodeBody frame) → onWire frame = frame) := by
  have hscan := scan_garbage hframe hgarbage hlen
  rw [← hchunks] at hscan
  refine ⟨?_, ?_, onWire_eq_self⟩
  · rw [(onChunks_spec Sink.collect [] rfl chunks []).1, Sink.feed_collect, List.nil_append,
      List.nil_append, hscan]
    rfl
  · intro σ sink s
    refine ⟨(frameScanner.scan rest).1, ?_⟩
    rw [(onChunks_spec sink [] rfl chunks s).1, List.nil_append, hscan]

/-- A frame without payload behind three bytes that are the magic and a half of it. -/
theorem onChunks_garbage_magic :
    (onChunks Sink.collect []
      [[0x41, 0x58], 0x41 :: encode {}, List.replicate kLongestFrame 0] []).2.1.head? =
        some (onWire {}) := by
  have hframe : Encodable {} := ⟨rfl, by decide, by decide⟩
  -- whatever comes behind the magic of the frame
  have hnone (t : Bytes) : ∀ p < 3,
      ¬ StartsFrame ((0x41 :: 0x58 :: 0x41 :: 0x41 :: t).drop p) := by
    intro p hp hstarts
    interval_cases p
    · have hversion := hstarts.2.1.1
      simp [byteAt] at hversion
    · have hmagic := hstarts.1
      simp [AtMagic] at hmagic
    · have hmagic := hstarts.1
      simp [AtMagic] at hmagic
  have hgarbage (p : ℕ) (hp : p < [(0x41 : Byte), 0x58, 0x41].length) : ¬ StartsFrame
      (([0x41, 0x58, 0x41] ++ encode {} ++ List.replicate kLongestFrame 0).drop p) := by
    rw [List.append_assoc, encode_append]
    exact hnone _ p hp
  have hlen : [(0x41 : Byte), 0x58, 0x41].length + kLongestFrame ≤
      ([0x41, 0x58, 0x41] ++ encode {} ++ List.replicate kLongestFrame 0).length := by
    rw [List.length_append, List.length_append, List.length_replicate]
    omega
  exact (onChunks_garbage _ _ hframe hgarbage hlen _ (by simp)).1

end Axtp.FrameDecoder
