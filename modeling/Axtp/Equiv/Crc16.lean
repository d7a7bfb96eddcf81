/-
  The CRC of the frames detects bursts.

  The bit loop is the shift of a 16-bit register with the generator `0x1021`, and the
  CRC of some bytes is what their bits make of the register `0xFFFF`
  (`toBitVec_crc16CcittFalse`), so the general result about such checks applies
  (`Crc.divide_ne_of_burst`). A frame hit by a burst elsewhere than in its magic and
  its length is read with the same boundaries, and its check fails.
-/
import Axtp.Equiv.FrameEncoder
import Axtp.Lib.Crc
import Axtp.Support.Bits

namespace Axtp

open Bits FrameScan FrameEncoder

/-! ### The register -/

theorem word_byteBits (byte : Byte) :
    (word (byteBits byte) : BitVec 16) = (byte.toUInt16 <<< 8).toBitVec := by
  refine BitVec.eq_of_getMsbD_eq fun i hi => ?_
  rw [getMsbD_word, byteBits, getD_ofWord]
  simp only [UInt16.toBitVec_shiftLeft, UInt8.toBitVec_toUInt16, BitVec.shiftLeft_eq',
    BitVec.getMsbD_shiftLeft, BitVec.getMsbD_setWidth]
  simp [hi]

theorem word_writeU16 (value : UInt16) : word (bitsOf (writeU16 value)) = value.toBitVec := by
  rw [bitsOf_writeU16, word_ofWord]

/-- The polynomial of the CRC, without its highest term. -/
def kCrcGenerator : BitVec 16 := 0x1021#16

theorem toBitVec_crcBit (crc : UInt16) :
    (crcBit crc).toBitVec = Crc.shift kCrcGenerator crc.toBitVec := by
  have htop : crc &&& 0x8000 ≠ 0 ↔ crc.toBitVec.msb = true := by
    have hmask : (crc &&& 0x8000).toBitVec = crc.toBitVec &&& BitVec.twoPow 16 15 := rfl
    rw [ne_eq, ← UInt16.toBitVec_inj, hmask, BitVec.and_twoPow, BitVec.msb_eq_getLsbD_last]
    cases hbit : crc.toBitVec.getLsbD 15 <;> simp
  rw [crcBit, Crc.shift]
  by_cases hmsb : crc &&& 0x8000 ≠ 0
  · rw [if_pos hmsb, if_pos (htop.mp hmsb)]
    rfl
  · rw [if_neg hmsb, if_neg fun hbit => hmsb (htop.mpr hbit)]
    rfl

theorem toBitVec_iterate_crcBit (crc : UInt16) (n : ℕ) :
    (crcBit^[n] crc).toBitVec = (Crc.shift kCrcGenerator)^[n] crc.toBitVec := by
  induction n generalizing crc with
  | zero => rfl
  | succ n ih => rw [Function.iterate_succ_apply, Function.iterate_succ_apply, ih, toBitVec_crcBit]

theorem toBitVec_crcByte (crc : UInt16) (byte : Byte) :
    (crcByte crc byte).toBitVec = Crc.divide kCrcGenerator crc.toBitVec (byteBits byte) := by
  have hle : (byteBits byte).length ≤ 16 := by simp
  rw [Crc.divide_eq hle, crcByte, toBitVec_iterate_crcBit, word_byteBits]
  rfl

theorem toBitVec_foldl_crcByte (data : Bytes) (crc : UInt16) :
    (data.foldl crcByte crc).toBitVec = Crc.divide kCrcGenerator crc.toBitVec (bitsOf data) := by
  induction data generalizing crc with
  | nil => rfl
  | cons byte data ih =>
    rw [List.foldl_cons, ih, toBitVec_crcByte, bitsOf_cons, Crc.divide_append]

/-- **The CRC** is what the bits of the data make of the register. -/
theorem toBitVec_crc16CcittFalse (data : Bytes) :
    (crc16CcittFalse data).toBitVec = Crc.divide kCrcGenerator 0xFFFF#16 (bitsOf data) :=
  toBitVec_foldl_crcByte data 0xFFFF

/-! ### Bursts -/

/-- The bytes with the bits of the error flipped. -/
def corrupt (data error : Bytes) : Bytes := List.zipWith (· ^^^ ·) data error

theorem bitsOf_corrupt {data error : Bytes} (h : data.length = error.length) :
    bitsOf (corrupt data error) = List.zipWith xor (bitsOf data) (bitsOf error) := by
  induction data generalizing error with
  | nil => rfl
  | cons a data ih =>
    obtain ⟨b, error, rfl⟩ := List.exists_cons_of_length_eq_add_one h.symm
    have hhead : (byteBits a).length = (byteBits b).length := rfl
    rw [corrupt, List.zipWith_cons_cons, bitsOf_cons, bitsOf_cons, bitsOf_cons, byteBits_xor,
      List.zipWith_append hhead, ← ih (Nat.succ.inj h), corrupt]

theorem crc_ne_of_burst {data data' error : Bytes} {crc : UInt16}
    (herror : error.length = data.length + 2) (hburst : Crc.IsBurst 16 (bitsOf error))
    (h : data' ++ writeU16 crc = corrupt (data ++ writeU16 (crc16CcittFalse data)) error) :
    crc16CcittFalse data' ≠ crc := by
  have hlength : (data ++ writeU16 (crc16CcittFalse data)).length = error.length := by
    rw [List.length_append, length_writeU16, herror]
  have hbits := congrArg bitsOf h
  rw [bitsOf_corrupt hlength, bitsOf_append, bitsOf_append] at hbits
  have hword : (word (bitsOf (writeU16 (crc16CcittFalse data))) : BitVec 16) =
      Crc.divide kCrcGenerator 0xFFFF#16 (bitsOf data) := by
    rw [word_writeU16, toBitVec_crc16CcittFalse]
  have hne := Crc.divide_ne_of_burst (by decide) (by simp) (by simp) hword
    (by simp only [← bitsOf_append, length_bitsOf, hlength]) hburst hbits
  rw [word_writeU16, ← toBitVec_crc16CcittFalse] at hne
  exact fun heq => hne (by rw [heq])

/-! ### Frames -/

section

variable {frame : Frame} {error : Bytes}

theorem length_corrupt_encode (herror : error.length = (encode frame).length) :
    (corrupt (encode frame) error).length = 14 + frame.payload.length := by
  rw [corrupt, List.length_zipWith, herror, Nat.min_self, length_encode]

/-- A byte that the error leaves alone. -/
theorem byteAt_corrupt {data : Bytes} (h : error.length = data.length) {i : ℕ}
    (hi : i < data.length)
    (hclean : byteAt error i = 0) (t : Bytes) :
    byteAt (corrupt data error ++ t) i = byteAt (data ++ t) i := by
  have hlen : i < (corrupt data error).length := by
    rw [corrupt, List.length_zipWith]
    omega
  rw [byteAt, List.getD_eq_getElem _ _ (by omega)] at hclean
  rw [byteAt_append hlen, byteAt_append hi, byteAt, byteAt, List.getD_eq_getElem _ _ hlen,
    List.getD_eq_getElem _ _ hi]
  simp only [corrupt, List.getElem_zipWith, hclean, UInt8.xor_zero]

theorem atMagic_iff {s : Bytes} (h : 2 ≤ s.length) :
    AtMagic s ↔ byteAt s 0 = 0x41 ∧ byteAt s 1 = 0x58 := by
  match s, h with
  | a :: b :: s, _ => simp [AtMagic, byteAt]

/-- Every two bytes are a written number. -/
theorem exists_writeU16 (a b : Byte) : ∃ value, writeU16 value = [a, b] := by
  refine ⟨UInt16.ofNat (256 * a.toNat + b.toNat), ?_⟩
  have ha := a.toNat_lt
  have hb := b.toNat_lt
  rw [writeU16, List.cons.injEq, List.cons.injEq]
  refine ⟨UInt8.toNat_inj.mp ?_, UInt8.toNat_inj.mp ?_, rfl⟩
  · simp [Nat.shiftRight_eq_div_pow]
    omega
  · simp

variable (hlength : frame.payload.length < 2 ^ 16) (herror : error.length = (encode frame).length)
  (hmagic : byteAt error 0 = 0 ∧ byteAt error 1 = 0)
  (hfield : byteAt error 4 = 0 ∧ byteAt error 5 = 0) (t : Bytes)

include herror hmagic in
theorem atMagic_corrupt : AtMagic (corrupt (encode frame) error ++ t) := by
  have hencode : AtMagic (encode frame ++ t) := by
    rw [encode_append]
    rfl
  rw [atMagic_iff (length_of_atMagic hencode)] at hencode
  have hlen : 2 ≤ (corrupt (encode frame) error ++ t).length := by
    rw [List.length_append, length_corrupt_encode herror]
    omega
  have hpos : 1 < (encode frame).length := by
    rw [length_encode]
    omega
  rw [atMagic_iff hlen, byteAt_corrupt herror (by omega) hmagic.1,
    byteAt_corrupt herror hpos hmagic.2]
  exact hencode

include hlength herror hfield in
theorem payloadLength_corrupt :
    payloadLength (corrupt (encode frame) error ++ t) = frame.payload.length := by
  have hpos : 5 < (encode frame).length := by
    rw [length_encode]
    omega
  rw [← payloadLength_encode frame t hlength, payloadLength, payloadLength, word16At, word16At,
    byteAt_corrupt herror (by omega) hfield.1, byteAt_corrupt herror hpos hfield.2]

include hlength herror hfield in
theorem not_crcMatches_corrupt (hburst : Crc.IsBurst 16 (bitsOf error)) :
    ¬ CrcMatches (corrupt (encode frame) error ++ t) := by
  have hlen := length_corrupt_encode herror
  set s := corrupt (encode frame) error with hs
  -- the last two bytes are some number, which is the check that is read
  have hdrop : ∃ a b, s.drop (12 + frame.payload.length) = [a, b] := by
    refine List.length_eq_two.mp ?_
    rw [List.length_drop, hlen]
    omega
  obtain ⟨a, b, hab⟩ := hdrop
  obtain ⟨crc, hcrc⟩ := exists_writeU16 a b
  have hsplit : s.take (12 + frame.payload.length) ++ writeU16 crc = s := by
    rw [hcrc, ← hab, List.take_append_drop]
  have hread : word16At (s ++ t) (12 + frame.payload.length) = crc := by
    refine word16At_of_drop t ?_
    rw [List.drop_append_of_le_length (by omega), hab, hcrc]
  have hdata : error.length = (encodeBody frame).length + 2 := by
    rw [herror, length_encode, length_encodeBody]
    omega
  have hne := crc_ne_of_burst hdata hburst (hsplit.trans hs)
  rw [CrcMatches, payloadLength_corrupt hlength herror hfield, hread,
    List.take_append_of_le_length (by omega)]
  exact fun heq => hne heq.symm

theorem resyncToMagic_of_atMagic {s : Bytes} (h : AtMagic s) :
    FrameDecoder.resyncToMagic s = s := by
  match s, length_of_atMagic h with
  | a :: b :: s, _ =>
    obtain ⟨ha, hb⟩ := (atMagic_iff (length_of_atMagic h)).mp h
    exact if_pos ⟨ha, hb⟩

include hlength herror hmagic hfield in
/-- The decoder rejects the frame: it goes on behind its first byte. -/
theorem turn_corrupt (hburst : Crc.IsBurst 16 (bitsOf error)) :
    FrameDecoder.turn (corrupt (encode frame) error ++ t) =
      .resume ((corrupt (encode frame) error ++ t).drop 1) := by
  have hat := atMagic_corrupt herror hmagic t
  have hspec := FrameDecoder.turnAtMagic_spec hat
  have hlen :
      (corrupt (encode frame) error ++ t).length = 14 + frame.payload.length + t.length := by
    rw [List.length_append, length_corrupt_encode herror]
  have hverdict : verdictAt (corrupt (encode frame) error ++ t) = .skip := by
    rw [verdictAt, if_neg (not_not.mpr hat), if_neg (by omega)]
    by_cases hlegal : LegalHeader (corrupt (encode frame) error ++ t)
    · rw [if_neg (not_not.mpr hlegal), payloadLength_corrupt hlength herror hfield,
        if_neg (by omega), if_pos (not_crcMatches_corrupt hlength herror hfield t hburst)]
    · rw [if_pos hlegal]
  rw [hverdict] at hspec
  rw [FrameDecoder.turn, resyncToMagic_of_atMagic hat]
  exact hspec

end

/-- **Bursts are detected.** Where some bits are flipped, all within 16 consecutive ones of the data
and its CRC, the CRC no longer matches, wherever the burst lies and however long the data is. So the
CRC test of the decoder rejects every frame hit by such a burst outside its magic and its length,
whatever follows the frame. -/
theorem crc16CcittFalse_detects {error : Bytes} (hburst : Crc.IsBurst 16 (bitsOf error)) :
    (∀ (data data' : Bytes) (crc : UInt16), error.length = data.length + 2 →
      data' ++ writeU16 crc = corrupt (data ++ writeU16 (crc16CcittFalse data)) error →
      crc16CcittFalse data' ≠ crc) ∧
    ∀ (frame : Frame) (t : Bytes), frame.payload.length < 2 ^ 16 →
      error.length = (encode frame).length → byteAt error 0 = 0 ∧ byteAt error 1 = 0 →
      byteAt error 4 = 0 ∧ byteAt error 5 = 0 →
      ¬ CrcMatches (corrupt (encode frame) error ++ t) ∧
        FrameDecoder.turn (corrupt (encode frame) error ++ t) =
          .resume ((corrupt (encode frame) error ++ t).drop 1) :=
  ⟨fun _ _ _ herror h => crc_ne_of_burst herror hburst h,
    fun _ t hlength herror hmagic hfield =>
      ⟨not_crcMatches_corrupt hlength herror hfield t hburst,
        turn_corrupt hlength herror hmagic hfield t hburst⟩⟩

/-- Three bits across the boundary between the header of an empty frame and its CRC. -/
def boundaryError : Bytes := [0, 0, 0, 0, 0, 0, 0, 0, 0, 0, 0, 3, 0x80, 0]

theorem isBurst_boundaryError : Crc.IsBurst 16 (bitsOf boundaryError) := by
  have hbits : ∀ i < 112, (bitsOf boundaryError).getD i false = true → 94 ≤ i ∧ i < 94 + 16 := by
    decide
  refine ⟨by decide, 94, fun i hi => ?_⟩
  by_cases hlt : i < 112
  · exact hbits i hlt hi
  · rw [List.getD_eq_default _ _ (by rw [length_bitsOf, boundaryError]; simpa using hlt)] at hi
    cases hi

theorem crc16CcittFalse_detects_boundary :
    crc16CcittFalse ((encodeBody {}).set 11 2) ≠ crc16CcittFalse (encodeBody {}) ^^^ 0x8000 ∧
      FrameDecoder.turn (corrupt (encode {}) boundaryError ++ [0x41]) =
        .resume ((corrupt (encode {}) boundaryError ++ [0x41]).drop 1) := by
  obtain ⟨hcrc, hframe⟩ := crc16CcittFalse_detects isBurst_boundaryError
  have hlength : boundaryError.length = (encodeBody {}).length + 2 := by decide
  have hbytes : (encodeBody {}).set 11 2 ++ writeU16 (crc16CcittFalse (encodeBody {}) ^^^ 0x8000) =
      corrupt (encodeBody {} ++ writeU16 (crc16CcittFalse (encodeBody {}))) boundaryError := by
    decide +kernel
  have hsize : boundaryError.length = (encode {}).length := by decide
  exact ⟨hcrc _ _ _ hlength hbytes, (hframe {} [0x41] (by decide) hsize ⟨rfl, rfl⟩ ⟨rfl, rfl⟩).2⟩

end Axtp
