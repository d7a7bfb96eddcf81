/-
  What the fragmenter makes of a message.

  With a positive payload capacity and a non-empty body, `fragment` makes the
  first `frameCountFor …` pieces of the body into frames under one new id
  (`fragment_of_body`). They are all of the body exactly when the count, taken in
  `std::size_t` and cast to eight bits, is large enough (`pieces_cover_iff`).

  A body that is cut without loss (`Splits`) becomes a `SplitMessage` (`splitOf`),
  which is how the reassembler sees it. Whether the frames also survive the 16-bit
  length field and stay within the frame size is `Fits`; it is exactly the
  condition under which nothing is lost (`lossless_iff`).
-/
import Axtp.Equiv.FrameEncoder
import Axtp.Equiv.MessageReassembler
import Axtp.Lib.Pieces
import Axtp.Wire.MessageFragmenter

namespace Axtp

open Pieces

namespace MessageFragmenter

variable {f : MessageFragmenter} {message : Message}

/-- The state after a message with at least one frame: its id is used up. -/
def afterMessage (f : MessageFragmenter) : MessageFragmenter :=
  { f.takeMessageId.2 with currentMessageId := f.nextMessageId }

/-- The frame of a message that carries the given payload. -/
def frameOf (message : Message) (messageId : UInt16) (index : ℕ) (frameCount : UInt8)
    (payload : Bytes) : Frame :=
  { header :=
      { version := kAxtpVersion1
        payloadType := message.payloadType
        payloadLength := UInt16.ofNat payload.length
        messageId
        frameIndex := UInt8.ofNat index
        frameCount }
    payload }

@[simp] theorem maxFrameSize_afterMessage (f : MessageFragmenter) :
    f.afterMessage.maxFrameSize = f.maxFrameSize := rfl

/-- The id after the one used up; zero is left out. -/
theorem toNat_takeMessageId {f : MessageFragmenter} (h : f.nextMessageId ≠ 0) :
    f.afterMessage.nextMessageId.toNat = f.nextMessageId.toNat % 65535 + 1 := by
  have hlt := f.nextMessageId.toNat_lt
  have hpos : f.nextMessageId.toNat ≠ 0 := fun h0 => h (UInt16.toNat_inj.mp h0)
  have hadd : (f.nextMessageId + 1).toNat = (f.nextMessageId.toNat + 1) % 2 ^ 16 :=
    UInt16.toNat_add _ _
  simp only [afterMessage, takeMessageId]
  split_ifs with hwrap
  · rw [hwrap, UInt16.toNat_zero] at hadd
    rw [UInt16.toNat_one]
    omega
  · have hne : (f.nextMessageId + 1).toNat ≠ 0 := fun h0 => hwrap (UInt16.toNat_inj.mp h0)
    rw [hadd] at hne ⊢
    omega

theorem payloadCapacity_eq (f : MessageFragmenter) : f.payloadCapacity = f.maxFrameSize - 14 := by
  unfold payloadCapacity kStandardFrameHeaderSize kStandardFrameCrcSize
  split_ifs <;> omega

/-! ### The fragment loop -/

theorem makeFrame_first (f : MessageFragmenter) (message : Message) (frameCount : UInt8)
    (payload : Bytes) :
    f.makeFrame message 0 frameCount payload =
      (f.afterMessage, frameOf message f.nextMessageId 0 frameCount payload) := rfl

theorem makeFrame_later (f : MessageFragmenter) (message : Message) (frameCount : UInt8)
    (payload : Bytes) {index : ℕ} (hpos : 0 < index) (hlt : index < 256) :
    f.makeFrame message (UInt8.ofNat index) frameCount payload =
      (f, frameOf message f.currentMessageId index frameCount payload) := by
  have hne : UInt8.ofNat index ≠ 0 := by
    intro h
    have := congrArg UInt8.toNat h
    rw [UInt8.toNat_ofNat', UInt8.toNat_zero, Nat.mod_eq_of_lt (by omega)] at this
    omega
  unfold makeFrame
  simp only [hne, if_false]
  rfl

/-- The chunk the loop cuts out is the piece at its index. -/
theorem chunk_eq_piece (body : Bytes) (maxPayloadSize index : ℕ) :
    (body.drop (index * maxPayloadSize)).take
        (min maxPayloadSize (body.length - index * maxPayloadSize)) =
      piece maxPayloadSize body index := by
  rw [piece, ← List.length_drop, ← List.take_eq_take_min]

/-- From the second frame on the id stays. -/
theorem fragmentLoop_later (message : Message) (maxPayloadSize : ℕ) (frameCount : UInt8)
    (remaining index : ℕ) (f : MessageFragmenter) (hpos : 0 < index)
    (hlt : index + remaining ≤ 256) :
    fragmentLoop message maxPayloadSize frameCount remaining index f =
      (f, (List.range' index remaining).map fun i =>
        frameOf message f.currentMessageId i frameCount (piece maxPayloadSize message.body i)) := by
  induction remaining generalizing index with
  | zero => rfl
  | succ remaining ih =>
    rw [fragmentLoop]
    simp only [chunk_eq_piece, makeFrame_later f message frameCount _ hpos (by omega : index < 256),
      ih (index + 1) (by omega) (by omega), List.range'_succ, List.map_cons]

theorem fragmentLoop_eq (message : Message) (maxPayloadSize : ℕ) (frameCount : UInt8) {n : ℕ}
    (f : MessageFragmenter) (hpos : 0 < n) (hlt : n ≤ 256) :
    fragmentLoop message maxPayloadSize frameCount n 0 f =
      (f.afterMessage, (List.range n).map fun i =>
        frameOf message f.nextMessageId i frameCount (piece maxPayloadSize message.body i)) := by
  obtain ⟨n, rfl⟩ : ∃ k, n = k + 1 := ⟨n - 1, by omega⟩
  rw [fragmentLoop]
  simp only [chunk_eq_piece]
  rw [show UInt8.ofNat 0 = 0 from rfl, makeFrame_first]
  simp only [fragmentLoop_later message maxPayloadSize frameCount n (0 + 1) f.afterMessage
    (by omega) (by omega), List.range_eq_range', List.range'_succ, List.map_cons]
  rfl

/-- Without a body, or without room for one, there is one empty frame. -/
theorem fragment_of_empty (h : f.payloadCapacity = 0 ∨ message.body = []) :
    f.fragment message = (f.afterMessage, [frameOf message f.nextMessageId 0 1 []]) := by
  unfold fragment
  simp only [h, if_true]
  rfl

theorem fragment_of_body {n : ℕ} (hcapacity : 0 < f.payloadCapacity) (hbody : message.body ≠ [])
    (hn : (frameCountFor message.body.length f.payloadCapacity).toNat = n) (hpos : 0 < n) :
    f.fragment message =
      (f.afterMessage, (List.range n).map fun i =>
        frameOf message f.nextMessageId i (UInt8.ofNat n)
          (piece f.payloadCapacity message.body i)) := by
  have hcount : frameCountFor message.body.length f.payloadCapacity = UInt8.ofNat n := by
    rw [← hn, UInt8.ofNat_toNat]
  have hlt := (frameCountFor message.body.length f.payloadCapacity).toNat_lt
  unfold fragment
  simp only [hcapacity.ne', hbody, or_self, if_false]
  rw [hn, fragmentLoop_eq _ _ _ _ hpos (by omega), hcount]

theorem fragment_of_wrapped (hcapacity : 0 < f.payloadCapacity) (hbody : message.body ≠ [])
    (hn : (frameCountFor message.body.length f.payloadCapacity).toNat = 0) :
    f.fragment message = (f, []) := by
  unfold fragment
  simp only [hcapacity.ne', hbody, or_self, if_false, hn]
  rfl

/-! ### When the count covers the body -/

/-- The 8-bit count covers the body exactly when neither narrowing loses anything. -/
theorem pieces_cover_iff {size maxPayloadSize : ℕ} (hsize : 0 < size) (hpos : 0 < maxPayloadSize) :
    size ≤ (frameCountFor size maxPayloadSize).toNat * maxPayloadSize ↔
      size ≤ 255 * maxPayloadSize ∧ size + maxPayloadSize - 1 < 2 ^ 64 := by
  unfold frameCountFor sizeT
  rw [UInt8.toNat_ofNat']
  constructor
  · intro h
    have hcount : ((size + maxPayloadSize - 1) % 2 ^ 64 / maxPayloadSize) % 2 ^ 8 ≤ 255 := by omega
    have hle := (Nat.mod_le ((size + maxPayloadSize - 1) % 2 ^ 64 / maxPayloadSize) (2 ^ 8))
    have hfit : ((size + maxPayloadSize - 1) % 2 ^ 64 / maxPayloadSize) % 2 ^ 8 * maxPayloadSize ≤
        (size + maxPayloadSize - 1) % 2 ^ 64 :=
      (Nat.mul_le_mul_right _ hle).trans (Nat.div_mul_le_self _ _)
    refine ⟨h.trans (Nat.mul_le_mul_right _ hcount), ?_⟩
    -- a wrapped sum is smaller than the size
    by_contra hwrap
    have hmod : (size + maxPayloadSize - 1) % 2 ^ 64 < 2 ^ 64 := Nat.mod_lt _ (by norm_num)
    have hsub : (size + maxPayloadSize - 1) % 2 ^ 64 ≤ size + maxPayloadSize - 1 - 2 ^ 64 := by
      rw [Nat.mod_eq_sub_mod (by omega)]
      exact Nat.mod_le _ _
    have hcapacity : maxPayloadSize ≤
        ((size + maxPayloadSize - 1) % 2 ^ 64 / maxPayloadSize) % 2 ^ 8 * maxPayloadSize :=
      Nat.le_mul_of_pos_left _ (Nat.pos_of_mul_pos_right (hsize.trans_le h))
    omega
  · rintro ⟨hle, hlt⟩
    have hquot : (size + maxPayloadSize - 1) / maxPayloadSize < 256 := by
      rw [Nat.div_lt_iff_lt_mul hpos]
      omega
    rw [Nat.mod_eq_of_lt hlt, Nat.mod_eq_of_lt (by omega)]
    have hdiv := Nat.div_add_mod (size + maxPayloadSize - 1) maxPayloadSize
    have hmod := Nat.mod_lt (size + maxPayloadSize - 1) hpos
    rw [Nat.mul_comm]
    omega

/-- A body that frames of at most `maxFrameSize` bytes can carry as at most 255 pieces, the
rounded-up count being computed without wrapping. -/
def Splits (maxFrameSize : ℕ) (body : Bytes) : Prop :=
  body = [] ∨ 14 < maxFrameSize ∧ body.length ≤ 255 * (maxFrameSize - 14) ∧
    body.length + (maxFrameSize - 14) - 1 < 2 ^ 64

instance (maxFrameSize : ℕ) (body : Bytes) : Decidable (Splits maxFrameSize body) := by
  unfold Splits; infer_instance

/-- The pieces that the frames carry; an empty body makes one empty piece. -/
def fragmentsOf (maxFrameSize : ℕ) (body : Bytes) : List Bytes :=
  if body = [] then [[]]
  else
    pieces (maxFrameSize - 14) (frameCountFor body.length (maxFrameSize - 14)).toNat body

theorem fragmentsOf_nil (maxFrameSize : ℕ) : fragmentsOf maxFrameSize [] = [[]] := if_pos rfl

theorem fragmentsOf_of_ne {maxFrameSize : ℕ} {body : Bytes} (h : body ≠ []) :
    fragmentsOf maxFrameSize body =
      pieces (maxFrameSize - 14) (frameCountFor body.length (maxFrameSize - 14)).toNat body :=
  if_neg h

theorem length_fragmentsOf_le (maxFrameSize : ℕ) (body : Bytes) :
    (fragmentsOf maxFrameSize body).length ≤ 255 := by
  unfold fragmentsOf
  split_ifs
  · simp
  · rw [length_pieces]
    have := (frameCountFor body.length (maxFrameSize - 14)).toNat_lt
    omega

theorem flatten_fragmentsOf {maxFrameSize : ℕ} {body : Bytes} (h : Splits maxFrameSize body) :
    (fragmentsOf maxFrameSize body).flatten = body := by
  by_cases hbody : body = []
  · rw [hbody, fragmentsOf_nil]
    rfl
  obtain h | ⟨hcapacity, hle⟩ := h
  · exact absurd h hbody
  rw [fragmentsOf_of_ne hbody, flatten_pieces_eq_iff]
  exact (pieces_cover_iff (List.length_pos_of_ne_nil hbody) (by omega)).mpr hle

theorem length_fragmentsOf_pos {maxFrameSize : ℕ} {body : Bytes} (h : Splits maxFrameSize body) :
    0 < (fragmentsOf maxFrameSize body).length := by
  by_cases hbody : body = []
  · rw [hbody, fragmentsOf_nil]
    exact Nat.one_pos
  · apply List.length_pos_of_ne_nil
    intro hnil
    have := flatten_fragmentsOf h
    rw [hnil] at this
    exact hbody this.symm

theorem length_of_mem_fragmentsOf {maxFrameSize : ℕ} {body piece : Bytes}
    (h : piece ∈ fragmentsOf maxFrameSize body) :
    piece.length ≤ min (maxFrameSize - 14) body.length := by
  by_cases hbody : body = []
  · rw [hbody, fragmentsOf_nil, List.mem_singleton] at h
    simp [h]
  · rw [fragmentsOf_of_ne hbody, pieces, List.mem_map] at h
    obtain ⟨i, -, rfl⟩ := h
    rw [length_piece]
    omega

/-- The frames of a message: its fragments under one id. -/
def framesOf (message : Message) (messageId : UInt16) (fragments : List Bytes) : List Frame :=
  (List.range fragments.length).map fun i =>
    frameOf message messageId i (UInt8.ofNat fragments.length) (fragments.getD i [])

theorem length_framesOf (message : Message) (messageId : UInt16) (fragments : List Bytes) :
    (framesOf message messageId fragments).length = fragments.length := by
  simp [framesOf]

theorem mem_framesOf {messageId : UInt16} {fragments : List Bytes} {frame : Frame} :
    frame ∈ framesOf message messageId fragments ↔
      ∃ i, ∃ h : i < fragments.length,
        frame = frameOf message messageId i (UInt8.ofNat fragments.length) fragments[i] := by
  simp only [framesOf, List.mem_map, List.mem_range]
  constructor
  · rintro ⟨i, hi, rfl⟩
    exact ⟨i, hi, by rw [List.getD_eq_getElem _ _ hi]⟩
  · rintro ⟨i, hi, rfl⟩
    exact ⟨i, hi, by rw [List.getD_eq_getElem _ _ hi]⟩

theorem framesOf_payloads (message : Message) (messageId : UInt16) (fragments : List Bytes) :
    (framesOf message messageId fragments).map Frame.payload = fragments := by
  apply List.ext_getElem
  · simp [framesOf]
  · intro i h1 h2
    simp [framesOf, frameOf, h2]

/-- **What `fragment` makes of a message**, when there is room for its body: the pieces under the
next id, or nothing when the count wrapped to zero. -/
theorem fragment_eq (hroom : 14 < f.maxFrameSize ∨ message.body = []) :
    (f.fragment message).2 =
      framesOf message f.nextMessageId (fragmentsOf f.maxFrameSize message.body) := by
  by_cases hbody : message.body = []
  · rw [fragment_of_empty (.inr hbody), hbody, fragmentsOf_nil]
    rfl
  have hcapacity : 0 < f.payloadCapacity := by
    rw [payloadCapacity_eq]
    have := hroom.resolve_right hbody
    omega
  rw [fragmentsOf_of_ne hbody, ← payloadCapacity_eq]
  rcases Nat.eq_zero_or_pos (frameCountFor message.body.length f.payloadCapacity).toNat
    with hzero | hpos
  · rw [fragment_of_wrapped hcapacity hbody hzero, hzero]
    rfl
  · rw [fragment_of_body hcapacity hbody rfl hpos, framesOf, length_pieces]
    apply List.map_congr_left
    intro i hi
    rw [List.getD_eq_getElem _ _ (by simpa using hi), getElem_pieces]

/-- A message with at least one frame uses up one id. -/
theorem fragment_state (h : Splits f.maxFrameSize message.body) :
    (f.fragment message).1 = f.afterMessage := by
  by_cases hbody : message.body = []
  · rw [fragment_of_empty (.inr hbody)]
  have hpos := length_fragmentsOf_pos h
  obtain h | ⟨hcapacity, -⟩ := h
  · exact absurd h hbody
  rw [fragmentsOf_of_ne hbody, length_pieces, ← payloadCapacity_eq] at hpos
  rw [fragment_of_body (by rw [payloadCapacity_eq]; omega) hbody rfl hpos]

/-! ### Lossless fragmentation -/

/-- The frames made of a message carry all of it: between 1 and 255 frames, numbered from zero,
each with their number as frame count; together the body; each encoded with its real payload length
and within the maximum frame size. -/
structure Lossless (f : MessageFragmenter) (message : Message) : Prop where
  count : 1 ≤ (f.fragment message).2.length ∧ (f.fragment message).2.length ≤ 255
  frameIndex : (f.fragment message).2.map (fun frame => frame.header.frameIndex.toNat) =
    List.range (f.fragment message).2.length
  frameCount : ∀ frame ∈ (f.fragment message).2,
    frame.header.frameCount.toNat = (f.fragment message).2.length
  body : ((f.fragment message).2.map Frame.payload).flatten = message.body
  lengthField : ∀ frame ∈ (f.fragment message).2,
    (readU16 ((FrameEncoder.encode frame).drop 4)).map (fun p => p.1.toNat) =
      some frame.payload.length
  encodedSize : ∀ frame ∈ (f.fragment message).2,
    (FrameEncoder.encode frame).length ≤ f.maxFrameSize

/-- The body splits, each piece fits the 16-bit length field, and a frame has room for its header
and CRC. -/
def Fits (maxFrameSize : ℕ) (body : Bytes) : Prop :=
  Splits maxFrameSize body ∧ min (maxFrameSize - 14) body.length < 2 ^ 16 ∧ 14 ≤ maxFrameSize

instance (maxFrameSize : ℕ) (body : Bytes) : Decidable (Fits maxFrameSize body) := by
  unfold Fits; infer_instance

/-- The length field as `encode` writes it. -/
theorem readU16_length (frame : Frame) :
    (readU16 ((FrameEncoder.encode frame).drop 4)).map (fun p => p.1.toNat) =
      some (frame.payload.length % 2 ^ 16) := by
  obtain ⟨rest, hdrop⟩ : ∃ rest, (FrameEncoder.encode frame).drop 4 =
      writeU16 (UInt16.ofNat frame.payload.length) ++ rest := by
    rw [← List.append_nil (FrameEncoder.encode frame), FrameEncoder.encode_append]
    exact ⟨_, rfl⟩
  rw [hdrop, readU16_writeU16, Option.map_some, UInt16.toNat_ofNat']

theorem lossless_of_fits (h : Fits f.maxFrameSize message.body) : Lossless f message := by
  obtain ⟨hsplits, hlength, hroom⟩ := h
  have hroom' : 14 < f.maxFrameSize ∨ message.body = [] := by
    rcases hsplits with h | h
    · exact .inr h
    · exact .inl h.1
  have hframes := fragment_eq (f := f) hroom'
  set fragments := fragmentsOf f.maxFrameSize message.body with hfragments
  have hle : fragments.length ≤ 255 := length_fragmentsOf_le f.maxFrameSize message.body
  -- no frame exceeds the size, and none is longer than the body
  have hbound : ∀ frame ∈ framesOf message f.nextMessageId fragments,
      frame.payload.length ≤ min (f.maxFrameSize - 14) message.body.length := by
    intro frame hframe
    obtain ⟨i, hi, rfl⟩ := mem_framesOf.mp hframe
    exact length_of_mem_fragmentsOf (List.getElem_mem hi)
  refine ⟨?_, ?_, ?_, ?_, ?_, ?_⟩ <;> rw [hframes]
  · rw [length_framesOf]
    exact ⟨length_fragmentsOf_pos hsplits, hle⟩
  · rw [length_framesOf, framesOf, List.map_map]
    conv_rhs => rw [← List.map_id (List.range fragments.length)]
    apply List.map_congr_left
    intro i hi
    have := List.mem_range.mp hi
    rw [Function.comp_apply, frameOf, UInt8.toNat_ofNat', Nat.mod_eq_of_lt (by omega), id_eq]
  · intro frame hframe
    obtain ⟨i, hi, rfl⟩ := mem_framesOf.mp hframe
    rw [length_framesOf, frameOf, UInt8.toNat_ofNat', Nat.mod_eq_of_lt (by omega)]
  · rw [framesOf_payloads, flatten_fragmentsOf hsplits]
  · intro frame hframe
    have := hbound frame hframe
    rw [readU16_length, Nat.mod_eq_of_lt (by omega)]
  · intro frame hframe
    have := hbound frame hframe
    rw [FrameEncoder.length_encode]
    omega

theorem fits_of_lossless (h : Lossless f message) : Fits f.maxFrameSize message.body := by
  have hroom : 14 ≤ f.maxFrameSize := by
    obtain ⟨frame, hframe⟩ := List.exists_mem_of_length_pos h.count.1
    have := h.encodedSize frame hframe
    rw [FrameEncoder.length_encode] at this
    omega
  by_cases hbody : message.body = []
  · rw [hbody]
    exact ⟨.inl rfl, by simp, hroom⟩
  have hpositive := List.length_pos_of_ne_nil hbody
  -- without payload capacity the only frame is empty
  have hcapacity : 14 < f.maxFrameSize := by
    by_contra hsmall
    have hempty := h.body
    rw [fragment_of_empty (.inl (by rw [payloadCapacity_eq]; omega))] at hempty
    exact hbody hempty.symm
  have hframes := fragment_eq (f := f) (.inl hcapacity : _ ∨ message.body = [])
  rw [fragmentsOf_of_ne hbody] at hframes
  set n := (frameCountFor message.body.length (f.maxFrameSize - 14)).toNat with hn
  have hcover := h.body
  rw [hframes, framesOf_payloads, flatten_pieces_eq_iff] at hcover
  refine ⟨.inr ⟨hcapacity, (pieces_cover_iff hpositive (by omega)).mp hcover⟩, ?_, hroom⟩
  -- the first piece is the longest
  have hlt : 0 < (pieces (f.maxFrameSize - 14) n message.body).length := by
    rw [length_pieces]
    by_contra hzero
    rw [Nat.eq_zero_of_not_pos hzero, Nat.zero_mul] at hcover
    omega
  have hfield := h.lengthField _ (hframes ▸ mem_framesOf.mpr ⟨0, hlt, rfl⟩)
  rw [readU16_length, Option.some.injEq] at hfield
  have hpiece : (pieces (f.maxFrameSize - 14) n message.body)[0].length =
      min (f.maxFrameSize - 14) message.body.length := by
    rw [getElem_pieces, length_piece, Nat.zero_mul, Nat.sub_zero]
  simp only [frameOf, hpiece] at hfield
  rw [← hfield]
  exact Nat.mod_lt _ (by norm_num)

theorem lossless_iff : Lossless f message ↔ Fits f.maxFrameSize message.body :=
  ⟨fits_of_lossless, lossless_of_fits⟩

/-! ### The message as the reassembler sees it -/

/-- The message that takes the id `messageId`, split for the frame size. -/
def splitOf (maxFrameSize : ℕ) (messageId : UInt16) (message : Message)
    (h : Splits maxFrameSize message.body) : SplitMessage where
  messageId
  payloadType := message.payloadType
  fragments := fragmentsOf maxFrameSize message.body
  length_pos := length_fragmentsOf_pos h
  length_le := length_fragmentsOf_le maxFrameSize message.body

theorem message_splitOf {maxFrameSize : ℕ} {messageId : UInt16}
    (h : Splits maxFrameSize message.body) :
    (splitOf maxFrameSize messageId message h).message = { message with messageId } := by
  simp only [SplitMessage.message, splitOf, flatten_fragmentsOf h]

/-- Every frame made of a message is one of its fragments. -/
theorem owns_of_mem_fragment (h : Splits f.maxFrameSize message.body) {frame : Frame}
    (hframe : frame ∈ (f.fragment message).2) :
    (splitOf f.maxFrameSize f.nextMessageId message h).Owns frame := by
  have hroom : 14 < f.maxFrameSize ∨ message.body = [] := by
    rcases h with h | h
    · exact .inr h
    · exact .inl h.1
  rw [fragment_eq hroom] at hframe
  obtain ⟨i, hi, rfl⟩ := mem_framesOf.mp hframe
  have hle := length_fragmentsOf_le f.maxFrameSize message.body
  refine ⟨rfl, rfl, rfl, ?_⟩
  have hindex : (UInt8.ofNat i).toNat = i := by
    rw [UInt8.toNat_ofNat', Nat.mod_eq_of_lt (by omega)]
  simp only [frameOf, hindex, splitOf]
  exact List.getElem?_eq_getElem hi

end MessageFragmenter

end Axtp
