/-
  What a framed byte stream contains, independently of the decoder.

  `scanFrames` reads a whole stream from the left, position by position: `AtMagic`,
  `LegalHeader` and `CrcMatches` are the conditions a frame has to meet at a
  position, stated on the bytes that start there. `frameScanner` packages the same
  decisions as a `Scanner`: no later byte revokes one (`verdictAt_append`), which is
  all the chunk-wise decoder needs (`scanFrom_eq`).
-/
import Axtp.Lib.Scanner
import Axtp.Model.Types
import Axtp.Support.Crc16

namespace Axtp.FrameScan

/-! ### The bytes of a frame -/

def byteAt (s : Bytes) (i : ℕ) : Byte := s.getD i 0

/-- The big-endian 16-bit number at `i`. -/
def word16At (s : Bytes) (i : ℕ) : UInt16 :=
  UInt16.ofNat (256 * (byteAt s i).toNat + (byteAt s (i + 1)).toNat)

def payloadLength (s : Bytes) : ℕ := (word16At s 4).toNat

/-- The two magic bytes. -/
def AtMagic (s : Bytes) : Prop := s.take 2 = [0x41, 0x58]

instance (s : Bytes) : Decidable (AtMagic s) := by unfold AtMagic; infer_instance

/-- Version 1, a known payload type, and a frame index below a non-zero frame count. -/
def LegalHeader (s : Bytes) : Prop :=
  byteAt s 2 = 1 ∧ (PayloadType.ofByte (byteAt s 3)).isSome ∧ byteAt s 11 ≠ 0 ∧
    byteAt s 10 < byteAt s 11

instance (s : Bytes) : Decidable (LegalHeader s) := by unfold LegalHeader; infer_instance

/-- The trailer is the CRC of everything before it. -/
def CrcMatches (s : Bytes) : Prop :=
  word16At s (12 + payloadLength s) = crc16CcittFalse (s.take (12 + payloadLength s))

instance (s : Bytes) : Decidable (CrcMatches s) := by unfold CrcMatches; infer_instance

/-- The frame that starts at the head of `s`. -/
def frameAt (s : Bytes) : Frame where
  header :=
    { version := byteAt s 2
      payloadType := (PayloadType.ofByte (byteAt s 3)).getD .rpc
      payloadLength := word16At s 4
      sourceId := byteAt s 6
      destinationId := byteAt s 7
      messageId := word16At s 8
      frameIndex := byteAt s 10
      frameCount := byteAt s 11 }
  payload := (s.drop 12).take (payloadLength s)
  crc16 := word16At s (12 + payloadLength s)

/-! ### The scan of a whole stream -/

/-- The frames of the stream `stream` from position `p` on. -/
def scanFrom (stream : Bytes) (p : ℕ) : List Frame :=
  if p < stream.length then
    let s := stream.drop p
    if ¬ AtMagic s then scanFrom stream (p + 1)
    else if s.length < 14 then []
    else if ¬ LegalHeader s then scanFrom stream (p + 1)
    else if s.length < 14 + payloadLength s then []
    else if ¬ CrcMatches s then scanFrom stream (p + 1)
    else frameAt s :: scanFrom stream (p + 14 + payloadLength s)
  else []
termination_by stream.length - p

def scanFrames (stream : Bytes) : List Frame := scanFrom stream 0

/-! ### The scan as a scanner -/

/-- The decision at the head of the unread bytes. Before the magic, only an empty input and a lone
first magic byte are undecided. -/
def verdictAt (s : Bytes) : Verdict Frame :=
  if ¬ AtMagic s then if s = [] ∨ s = [0x41] then .wait else .skip
  else if s.length < 14 then .wait
  else if ¬ LegalHeader s then .skip
  else if s.length < 14 + payloadLength s then .wait
  else if ¬ CrcMatches s then .skip
  else .token (frameAt s) (14 + payloadLength s)

theorem byteAt_append {s : Bytes} {i : ℕ} (h : i < s.length) (t : Bytes) :
    byteAt (s ++ t) i = byteAt s i := List.getD_append _ _ _ _ h

theorem word16At_append {s : Bytes} {i : ℕ} (h : i + 1 < s.length) (t : Bytes) :
    word16At (s ++ t) i = word16At s i := by
  rw [word16At, byteAt_append (by omega), byteAt_append h, word16At]

theorem atMagic_append {s : Bytes} (h : 2 ≤ s.length) (t : Bytes) :
    AtMagic (s ++ t) ↔ AtMagic s := by
  rw [AtMagic, List.take_append_of_le_length h, AtMagic]

/-- Off the magic a scanner is undecided only on a prefix of the magic. -/
theorem not_atMagic_append {s : Bytes} (h : ¬ AtMagic s) (hne : ¬ (s = [] ∨ s = [0x41]))
    (t : Bytes) : ¬ AtMagic (s ++ t) := by
  match s with
  | [] => simp at hne
  | [a] =>
    intro hm
    have : a = 0x41 := by simpa [AtMagic] using congrArg List.head? hm
    exact hne (.inr (by rw [this]))
  | a :: b :: s => rwa [atMagic_append (by simp)]

theorem length_of_atMagic {s : Bytes} (h : AtMagic s) : 2 ≤ s.length := by
  have := congrArg List.length h
  simp only [List.length_take, List.length_cons, List.length_nil] at this
  omega

section Append

variable {s : Bytes} (hlen : 14 ≤ s.length) (t : Bytes)

include hlen

theorem legalHeader_append : LegalHeader (s ++ t) ↔ LegalHeader s := by
  unfold LegalHeader
  rw [byteAt_append (by omega), byteAt_append (by omega), byteAt_append (by omega),
    byteAt_append (by omega)]

theorem payloadLength_append : payloadLength (s ++ t) = payloadLength s := by
  rw [payloadLength, word16At_append (by omega), payloadLength]

theorem crcMatches_append (h : 14 + payloadLength s ≤ s.length) :
    CrcMatches (s ++ t) ↔ CrcMatches s := by
  unfold CrcMatches
  rw [payloadLength_append hlen, word16At_append (by omega),
    List.take_append_of_le_length (by omega)]

theorem frameAt_append (h : 14 + payloadLength s ≤ s.length) : frameAt (s ++ t) = frameAt s := by
  unfold frameAt
  simp only [payloadLength_append hlen]
  rw [byteAt_append (by omega), byteAt_append (by omega), byteAt_append (by omega),
    byteAt_append (by omega), byteAt_append (by omega), byteAt_append (by omega),
    word16At_append (by omega), word16At_append (by omega), word16At_append (by omega),
    List.drop_append_of_le_length (by omega),
    List.take_append_of_le_length (by rw [List.length_drop]; omega)]

end Append

/-- **No later byte revokes a decision.** -/
theorem verdictAt_append {s : Bytes} (h : verdictAt s ≠ .wait) (t : Bytes) :
    verdictAt (s ++ t) = verdictAt s := by
  by_cases hm : AtMagic s
  · have hm' := (atMagic_append (length_of_atMagic hm) t).mpr hm
    simp only [verdictAt, hm, hm', not_true_eq_false, if_false] at h ⊢
    -- a verdict other than waiting has read all it depends on
    by_cases hlen : s.length < 14
    · simp [hlen] at h
    have hlen' : ¬ (s ++ t).length < 14 := by rw [List.length_append]; omega
    simp only [hlen, hlen', if_false, legalHeader_append (by omega : 14 ≤ s.length) t,
      payloadLength_append (by omega : 14 ≤ s.length) t] at h ⊢
    by_cases hlegal : LegalHeader s
    · simp only [hlegal, not_true_eq_false, if_false] at h ⊢
      by_cases htot : s.length < 14 + payloadLength s
      · simp [htot] at h
      have htot' : ¬ (s ++ t).length < 14 + payloadLength s := by
        rw [List.length_append]; omega
      simp only [htot, htot', if_false, crcMatches_append (by omega : 14 ≤ s.length) t (by omega),
        frameAt_append (by omega : 14 ≤ s.length) t (by omega)]
    · simp [hlegal]
  · simp only [verdictAt, hm, not_false_eq_true, if_true] at h ⊢
    by_cases hne : s = [] ∨ s = [0x41]
    · simp [hne] at h
    -- two bytes decide that there is no magic, one only if it is no A
    have hne' : ¬ (s ++ t = [] ∨ s ++ t = [0x41]) := by
      intro hc
      match s with
      | [] => exact hne (.inl rfl)
      | [a] => simp at hc hne; exact hne hc.1
      | a :: b :: s => simp at hc
    rw [if_pos (not_atMagic_append hm hne t), if_neg hne, if_neg hne']

/-- A decision for a frame: the stream meets the conditions, and the frame is the one there. -/
theorem verdictAt_eq_token {s : Bytes} {frame : Frame} {n : ℕ} (h : verdictAt s = .token frame n) :
    AtMagic s ∧ LegalHeader s ∧ CrcMatches s ∧ n = 14 + payloadLength s ∧ n ≤ s.length ∧
      frame = frameAt s := by
  unfold verdictAt at h
  split_ifs at h with hmagic hlen hlegal htot hcrc
  injection h with hf hn
  exact ⟨hmagic, hlegal, hcrc, hn.symm, by omega, hf.symm⟩

/-- The frame grammar as a scanner. -/
def frameScanner : Scanner Byte Frame where
  verdict := verdictAt
  verdict_nil := rfl
  token_bounds h := by
    obtain ⟨-, -, -, hn, hle, -⟩ := verdictAt_eq_token h
    exact ⟨by omega, hle⟩
  verdict_append := verdictAt_append

theorem verdict_eq (s : Bytes) : frameScanner.verdict s = verdictAt s := rfl

/-- **The positional scan is the scanner's scan** of the rest of the stream. -/
theorem scanFrom_eq (stream : Bytes) (p : ℕ) :
    scanFrom stream p = (frameScanner.scan (stream.drop p)).1 := by
  induction hn : stream.length - p using Nat.strong_induction_on generalizing p with
  | _ N ih =>
  rw [scanFrom]
  by_cases hp : p < stream.length
  · have hnil : stream.drop p ≠ [] := by simpa using hp
    have htail : (stream.drop p).tail = stream.drop (p + 1) := List.tail_drop
    have hstep : scanFrom stream (p + 1) = (frameScanner.scan (stream.drop (p + 1))).1 :=
      ih _ (by omega) _ rfl
    simp only [hp, if_true]
    set s := stream.drop p with hs
    -- one case per decision at `p`
    by_cases hm : AtMagic s
    · simp only [hm, not_true_eq_false, if_false]
      by_cases hlen : s.length < 14
      · rw [if_pos hlen, frameScanner.scan_of_wait]
        simp [verdict_eq, verdictAt, hm, hlen]
      rw [if_neg hlen]
      by_cases hlegal : LegalHeader s
      · simp only [hlegal, not_true_eq_false, if_false]
        by_cases htot : s.length < 14 + payloadLength s
        · rw [if_pos htot, frameScanner.scan_of_wait]
          simp [verdict_eq, verdictAt, hm, hlen, hlegal, htot]
        rw [if_neg htot]
        by_cases hcrc : CrcMatches s
        · have hv : frameScanner.verdict s = .token (frameAt s) (14 + payloadLength s) := by
            simp [verdict_eq, verdictAt, hm, hlen, hlegal, htot, hcrc]
          simp only [hcrc, not_true_eq_false, if_false]
          rw [frameScanner.scan_of_token hv, ih _ (by omega) _ rfl, hs, List.drop_drop,
            Nat.add_assoc]
        · have hv : frameScanner.verdict s = .skip := by
            simp [verdict_eq, verdictAt, hm, hlen, hlegal, htot, hcrc]
          simp only [hcrc, not_false_eq_true, if_true]
          rw [frameScanner.scan_of_skip hv, htail, hstep]
      · have hv : frameScanner.verdict s = .skip := by
          simp [verdict_eq, verdictAt, hm, hlen, hlegal]
        simp only [hlegal, not_false_eq_true, if_true]
        rw [frameScanner.scan_of_skip hv, htail, hstep]
    · simp only [hm, not_false_eq_true, if_true]
      by_cases hone : s = [0x41]
      · -- a lone first magic byte: the scan steps past it to the end of the stream
        have hlast : stream.drop (p + 1) = [] := by rw [← htail, hone]; rfl
        have hv : frameScanner.verdict s = .wait := by simp [verdict_eq, verdictAt, hone, AtMagic]
        rw [hstep, hlast, frameScanner.scan_of_wait hv, frameScanner.scan_of_wait (by rfl)]
      · have hv : frameScanner.verdict s = .skip := by
          simp [verdict_eq, verdictAt, hm, hone, hnil]
        rw [frameScanner.scan_of_skip hv, htail, hstep]
  · have hnil : stream.drop p = [] := by simpa using hp
    rw [if_neg hp, hnil, frameScanner.scan_of_wait (by rfl)]

theorem scanFrames_eq (stream : Bytes) : scanFrames stream = (frameScanner.scan stream).1 := by
  rw [scanFrames, scanFrom_eq, List.drop_zero]

end Axtp.FrameScan
