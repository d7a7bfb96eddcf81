/-
  The frame decoder against the scan of the stream.

  One turn of the loop is one or more steps of `frameScanner` (`turn_spec`), so the
  loop hands over exactly the frames of the scan and leaves the scan's rest in the
  buffer (`parseLoop_spec`), for any sink, and `onBytes` calls add up to the scan of
  everything received, wherever the stream is cut (`onChunks_spec`).
-/
import Axtp.Spec.FrameScan
import Axtp.Wire.FrameDecoder

namespace Axtp.FrameDecoder

open FrameScan

/-! ### One turn of the loop -/

theorem word16_eq (a b : UInt8) :
    a.toUInt16 <<< 8 ||| b.toUInt16 = UInt16.ofNat (256 * a.toNat + b.toNat) := by
  apply UInt16.toNat_inj.mp
  have ha := a.toNat_lt
  have hb := b.toNat_lt
  have hor := Nat.shiftLeft_add_eq_or_of_lt (i := 8) (by omega : b.toNat < 2 ^ 8) a.toNat
  have hsh : a.toNat <<< 8 = 256 * a.toNat := by rw [Nat.shiftLeft_eq]; omega
  simp only [UInt16.toNat_or, UInt16.toNat_shiftLeft, UInt8.toNat_toUInt16, UInt16.reduceToNat,
    Nat.reduceMod, UInt16.toNat_ofNat']
  rw [Nat.mod_eq_of_lt (by omega : a.toNat <<< 8 < 2 ^ 16), ← hor, hsh,
    Nat.mod_eq_of_lt (by omega)]

/-- On a full header the reads succeed, each field from its place. -/
theorem readHeader_take {s : Bytes} (h : 12 ≤ s.length) :
    readHeader (s.take 12) =
      some { version := byteAt s 2, payloadType := byteAt s 3, payloadLength := word16At s 4,
             sourceId := byteAt s 6, destinationId := byteAt s 7, messageId := word16At s 8,
             frameIndex := byteAt s 10, frameCount := byteAt s 11 } := by
  match s, h with
  | a0 :: a1 :: a2 :: a3 :: a4 :: a5 :: a6 :: a7 :: a8 :: a9 :: a10 :: a11 :: rest, _ =>
    have hread : readHeader [a0, a1, a2, a3, a4, a5, a6, a7, a8, a9, a10, a11] =
        some { version := a2, payloadType := a3,
               payloadLength := a4.toUInt16 <<< 8 ||| a5.toUInt16, sourceId := a6,
               destinationId := a7, messageId := a8.toUInt16 <<< 8 ||| a9.toUInt16,
               frameIndex := a10, frameCount := a11 } := rfl
    rw [word16_eq, word16_eq] at hread
    exact hread

theorem readU16_drop {s : Bytes} {i : ℕ} (h : i + 2 ≤ s.length) :
    readU16 ((s.take (i + 2)).drop i) = some (word16At s i, []) := by
  have h0 : s.drop i = byteAt s i :: byteAt s (i + 1) :: s.drop (i + 2) := by
    rw [List.drop_eq_getElem_cons (by omega), List.drop_eq_getElem_cons (by omega), byteAt, byteAt,
      List.getD_eq_getElem _ _ (by omega), List.getD_eq_getElem _ _ (by omega)]
  rw [List.drop_take, Nat.add_sub_cancel_left, h0, word16At, ← word16_eq]
  rfl

/-- At the magic, the turn takes the decision of the frame grammar. -/
theorem turnAtMagic_spec {s : Bytes} (hm : AtMagic s) :
    match verdictAt s with
    | .wait => turnAtMagic s = .wait s
    | .skip => turnAtMagic s = .resume (s.drop 1)
    | .token frame n => turnAtMagic s = .deliver frame (s.drop n) := by
  unfold verdictAt turnAtMagic
  rw [if_neg (not_not.mpr hm)]
  by_cases hlen : s.length < 14
  · simp [hlen, kStandardFrameHeaderSize, kStandardFrameCrcSize]
  simp only [kStandardFrameHeaderSize, kStandardFrameCrcSize, Nat.reduceAdd, hlen, if_false]
  rw [readHeader_take (by omega)]
  simp only [kAxtpVersion1]
  -- the checks of the header, then the length, then the checksum
  by_cases hlegal : LegalHeader s
  · have hlegal' := hlegal
    obtain ⟨hversion, htype, hcount, hindex⟩ := hlegal'
    obtain ⟨payloadType, htype⟩ := Option.isSome_iff_exists.mp htype
    have hcond : ¬ (byteAt s 2 ≠ 1 ∨ byteAt s 11 = 0 ∨ byteAt s 10 ≥ byteAt s 11) := by
      rintro (h | h | h)
      · exact h hversion
      · exact hcount h
      · exact absurd hindex (UInt8.not_lt.mpr h)
    rw [if_neg (not_not.mpr hlegal), htype]
    simp only [hcond, if_false]
    have htotal : 12 + (word16At s 4).toNat + 2 = 14 + payloadLength s := by
      rw [payloadLength]; omega
    have hcut : 14 + payloadLength s - 2 = 12 + payloadLength s := by omega
    simp only [htotal, hcut]
    by_cases htot : s.length < 14 + payloadLength s
    · simp [htot]
    have hread : readU16 ((s.take (14 + payloadLength s)).drop (12 + payloadLength s)) =
        some (word16At s (12 + payloadLength s), []) := by
      rw [show 14 + payloadLength s = 12 + payloadLength s + 2 by omega]
      exact readU16_drop (by omega)
    simp only [htot, if_false, hread, List.take_take,
      Nat.min_eq_left (by omega : 12 + payloadLength s ≤ 14 + payloadLength s)]
    by_cases hcrc : CrcMatches s
    · have hpayload : ((s.take (14 + payloadLength s)).drop 12).take (word16At s 4).toNat =
          (s.drop 12).take (payloadLength s) := by
        rw [List.drop_take, List.take_take, payloadLength, Nat.min_eq_left (by omega)]
      have hcrc' : ¬ (word16At s (12 + payloadLength s) ≠
          crc16CcittFalse (s.take (12 + payloadLength s))) := not_not.mpr hcrc
      rw [if_neg (not_not.mpr hcrc), if_neg hcrc', hpayload]
      simp only [frameAt, htype, Option.getD_some]
    · have hcrc' : word16At s (12 + payloadLength s) ≠
          crc16CcittFalse (s.take (12 + payloadLength s)) := hcrc
      simp only [hcrc, not_false_eq_true, if_true, hcrc', ne_eq]
  · rw [if_pos hlegal]
    cases htype : PayloadType.ofByte (byteAt s 3) with
    | none => rfl
    | some payloadType =>
      have hcond : byteAt s 2 ≠ 1 ∨ byteAt s 11 = 0 ∨ byteAt s 10 ≥ byteAt s 11 := by
        by_contra hc
        push Not at hc
        exact hlegal ⟨hc.1, by rw [htype]; rfl, hc.2.1, UInt8.not_le.mp hc.2.2⟩
      simp only [hcond, if_true]

/-- What `resyncToMagic` drops starts no frame, and it stops at the magic or keeps a prefix
of it. -/
theorem resyncToMagic_spec (buffer : Bytes) :
    frameScanner.scan (resyncToMagic buffer) = frameScanner.scan buffer ∧
      (resyncToMagic buffer).length ≤ buffer.length ∧
      (AtMagic (resyncToMagic buffer) ∨ resyncToMagic buffer = [] ∨
        resyncToMagic buffer = [0x41]) := by
  fun_induction resyncToMagic buffer with
  | case1 => simp
  | case2 => simp [kAxtpStandardMagic0]
  | case3 a ha =>
    have hv : frameScanner.verdict [a] = .skip := by
      have ha' : a ≠ 0x41 := ha
      simp [verdict_eq, verdictAt, AtMagic, ha']
    simp [frameScanner.scan_of_skip hv]
  | case4 a b rest h =>
    refine ⟨rfl, le_rfl, .inl ?_⟩
    rw [h.1, h.2]
    rfl
  | case5 a b rest h ih =>
    have hm : ¬ AtMagic (a :: b :: rest) := by
      intro hm
      simp only [AtMagic, List.take_succ_cons, List.take_zero, List.cons.injEq, and_true] at hm
      exact h hm
    have hv : frameScanner.verdict (a :: b :: rest) = .skip := by
      simp [verdict_eq, verdictAt, hm]
    rw [frameScanner.scan_of_skip hv]
    exact ⟨ih.1, le_trans ih.2.1 (by simp), ih.2.2⟩

/-- **One turn of the loop** against the scan: it returns with the scan's rest when the scan finds
nothing more, and otherwise goes on with fewer bytes, having handed over the frame found. -/
theorem turn_spec (buffer : Bytes) :
    match turn buffer with
    | .wait buffer' => frameScanner.scan buffer = ([], buffer')
    | .resume buffer' =>
      frameScanner.scan buffer = frameScanner.scan buffer' ∧ buffer'.length < buffer.length
    | .deliver frame buffer' =>
      frameScanner.scan buffer =
        (frame :: (frameScanner.scan buffer').1, (frameScanner.scan buffer').2) ∧
      buffer'.length < buffer.length := by
  obtain ⟨hscan, hle, hres⟩ := resyncToMagic_spec buffer
  rw [← hscan, turn]
  set s := resyncToMagic buffer with hs
  rcases hres with hm | hshort
  · have hspec := turnAtMagic_spec hm
    have hmlen := length_of_atMagic hm
    cases hv : verdictAt s with
    | wait =>
      rw [hv] at hspec
      rw [hspec]
      exact frameScanner.scan_of_wait hv
    | skip =>
      rw [hv] at hspec
      rw [hspec]
      refine ⟨?_, by rw [List.length_drop]; omega⟩
      rw [frameScanner.scan_of_skip hv, List.drop_one]
    | token frame n =>
      rw [hv] at hspec
      rw [hspec]
      have hn := frameScanner.token_bounds hv
      exact ⟨frameScanner.scan_of_token hv, by rw [List.length_drop]; omega⟩
  · -- an empty buffer or a lone first magic byte: too short for a header
    have hturn : turnAtMagic s = .wait s := by
      rcases hshort with h | h <;> rw [h] <;> rfl
    have hv : frameScanner.verdict s = .wait := by
      rcases hshort with h | h <;> rw [h] <;> rfl
    rw [hturn]
    exact frameScanner.scan_of_wait hv

/-! ### The loop -/

variable {σ : Type*} (sink : Sink σ Frame)

/-- With more turns than bytes the loop feeds the sink the frames of the scan; when it returns, it
leaves the scan's rest. -/
theorem parseLoopFor_spec (turns : ℕ) (buffer : Bytes) (s : σ) (h : buffer.length < turns) :
    (parseLoopFor sink turns buffer s).2 = sink.feed s (frameScanner.scan buffer).1 ∧
      ((parseLoopFor sink turns buffer s).2.2 = .returned →
        (parseLoopFor sink turns buffer s).1 = (frameScanner.scan buffer).2) := by
  induction turns generalizing buffer s with
  | zero => omega
  | succ turns ih =>
    have hturn := turn_spec buffer
    rw [parseLoopFor]
    cases ht : turn buffer with
    | wait buffer' =>
      rw [ht] at hturn
      rw [hturn]
      exact ⟨rfl, fun _ => rfl⟩
    | resume buffer' =>
      rw [ht] at hturn
      simp only [hturn.1]
      exact ih buffer' s (by omega)
    | deliver frame buffer' =>
      rw [ht] at hturn
      simp only [hturn.1, Sink.feed]
      rcases sink s frame with ⟨s', _ | _⟩
      · exact ih buffer' s' (by omega)
      · exact ⟨rfl, fun h => by cases h⟩

/-- **`parseLoop`** hands over the frames of the scan and, when it returns, leaves the scan's
rest. -/
theorem parseLoop_spec (buffer : Bytes) (s : σ) :
    (parseLoop sink buffer s).2 = sink.feed s (frameScanner.scan buffer).1 ∧
      ((parseLoop sink buffer s).2.2 = .returned →
        (parseLoop sink buffer s).1 = (frameScanner.scan buffer).2) :=
  parseLoopFor_spec sink _ buffer s (Nat.lt_succ_self _)

theorem onBytes_spec (buffer data : Bytes) (s : σ) :
    (onBytes sink buffer data s).2 = sink.feed s (frameScanner.feed buffer data).2 ∧
      ((onBytes sink buffer data s).2.2 = .returned →
        (onBytes sink buffer data s).1 = (frameScanner.feed buffer data).1) :=
  parseLoop_spec sink _ s

/-- A sequence of `onBytes` calls feeds the sink what the chunk-wise scan finds. -/
theorem onChunks_feedAll (chunks : List Bytes) (buffer : Bytes) (s : σ) :
    (onChunks sink buffer chunks s).2 = sink.feed s (frameScanner.feedAll buffer chunks).2 ∧
      ((onChunks sink buffer chunks s).2.2 = .returned →
        (onChunks sink buffer chunks s).1 = (frameScanner.feedAll buffer chunks).1) := by
  induction chunks generalizing buffer s with
  | nil => exact ⟨rfl, fun _ => rfl⟩
  | cons data chunks ih =>
    obtain ⟨hout, hbuf⟩ := onBytes_spec sink buffer data s
    rw [onChunks, Scanner.feedAll, Sink.feed_append, ← hout]
    rcases hcall : onBytes sink buffer data s with ⟨buffer', s', _ | _⟩
    · rw [hcall] at hbuf
      rw [← hbuf rfl]
      exact ih buffer' s'
    · exact ⟨rfl, fun h => by cases h⟩

/-- **Any cutting of the stream**: from a buffer the scanner waits on, a sequence of `onBytes`
calls feeds the sink the frames of all bytes received, and leaves the rest of their scan. -/
theorem onChunks_spec (buffer : Bytes) (h : verdictAt buffer = .wait) (chunks : List Bytes)
    (s : σ) :
    (onChunks sink buffer chunks s).2 =
        sink.feed s (frameScanner.scan (buffer ++ chunks.flatten)).1 ∧
      ((onChunks sink buffer chunks s).2.2 = .returned →
        (onChunks sink buffer chunks s).1 =
          (frameScanner.scan (buffer ++ chunks.flatten)).2) := by
  have hspec := onChunks_feedAll sink chunks buffer s
  rw [frameScanner.feedAll_eq h] at hspec
  exact hspec

/-- **The decoder is the scan.** Whatever the chunks, a fresh decoder hands its sink exactly the
frames of the left-to-right scan of the whole stream, in order. -/
theorem onChunks_eq_scanFrames (chunks : List Bytes) :
    (onChunks Sink.collect [] chunks []).2 = (scanFrames chunks.flatten, .returned) := by
  rw [(onChunks_spec Sink.collect [] rfl chunks []).1, Sink.feed_collect, scanFrames_eq]
  rfl

end Axtp.FrameDecoder
