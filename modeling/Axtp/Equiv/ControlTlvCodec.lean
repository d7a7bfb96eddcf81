/-
  The control TLV codec on complete records.

  A body of complete records is decoded field by field (`decode_records`), and a number
  that was written is read back (`readUnsigned_writeU16` and its siblings). With these the
  options of an OPEN and of its ACCEPT come through the codec unchanged.
-/
import Axtp.Equiv.PayloadCodec

namespace Axtp

namespace ControlTlvCodec

/-! ### Numbers -/

theorem readUnsigned_writeU8 {value : UInt8} {maxValue : UInt32} (h : value.toUInt32 ≤ maxValue) :
    readUnsigned (Axtp.writeU8 value) maxValue = some value.toUInt32 := by
  have hparsed : (0 : UInt32) <<< 8 ||| value.toUInt32 = value.toUInt32 := by simp
  rw [Axtp.writeU8, readUnsigned, if_neg (by simp)]
  simp only [List.foldl_cons, List.foldl_nil, hparsed, gt_iff_lt, UInt32.not_lt.mpr h, if_false]

theorem readUnsigned_writeU16 {value : UInt16} {maxValue : UInt32} (h : value.toUInt32 ≤ maxValue) :
    readUnsigned (Axtp.writeU16 value) maxValue = some value.toUInt32 := by
  have hv := testBit_of_lt_two_pow value.toNat_lt
  have hparsed : ((0 : UInt32) <<< 8 ||| (value >>> 8).toUInt8.toUInt32) <<< 8 |||
      value.toUInt8.toUInt32 = value.toUInt32 := by
    apply UInt32.toNat_inj.mp
    apply Nat.eq_of_testBit_eq
    intro i
    simp only [UInt32.toNat_or, UInt32.toNat_shiftLeft, UInt8.toNat_toUInt32, UInt16.toNat_toUInt8,
      UInt16.toNat_toUInt32, UInt16.toNat_shiftRight, UInt32.reduceToNat, UInt16.reduceToNat,
      Nat.reduceMod, Nat.testBit_or, Nat.testBit_shiftLeft, Nat.testBit_mod_two_pow,
      Nat.testBit_shiftRight, Nat.zero_testBit]
    grind
  rw [Axtp.writeU16, readUnsigned, if_neg (by simp)]
  simp only [List.foldl_cons, List.foldl_nil, hparsed, gt_iff_lt, UInt32.not_lt.mpr h, if_false]

/-- One more byte of a number with room for it. -/
theorem toNat_shift_or {number : UInt32} {byte : UInt8} (h : number.toNat < 2 ^ 24) :
    (number <<< 8 ||| byte.toUInt32).toNat = number.toNat * 2 ^ 8 + byte.toNat := by
  have hbyte := byte.toNat_lt
  have hshift : number.toNat <<< ((8 : UInt32).toNat % 32) % 2 ^ 32 = number.toNat <<< 8 := by
    rw [show (8 : UInt32).toNat % 32 = 8 from rfl, Nat.shiftLeft_eq]
    omega
  rw [UInt32.toNat_or, UInt32.toNat_shiftLeft, UInt8.toNat_toUInt32, hshift,
    ← Nat.shiftLeft_add_eq_or_of_lt (by omega), Nat.shiftLeft_eq]

theorem toNat_shiftRight_toUInt8 (value : UInt32) {n : UInt32} (h : n.toNat < 32) :
    (value >>> n).toUInt8.toNat = value.toNat / 2 ^ n.toNat % 256 := by
  rw [UInt32.toNat_toUInt8, UInt32.toNat_shiftRight, Nat.shiftRight_eq_div_pow, Nat.mod_eq_of_lt h]

theorem readUnsigned_writeU32 {value maxValue : UInt32} (h : value ≤ maxValue) :
    readUnsigned (Axtp.writeU32 value) maxValue = some value := by
  have hlt := value.toNat_lt
  have hparsed : ((((0 : UInt32) <<< 8 ||| (value >>> 24).toUInt8.toUInt32) <<< 8 |||
      (value >>> 16).toUInt8.toUInt32) <<< 8 ||| (value >>> 8).toUInt8.toUInt32) <<< 8 |||
      value.toUInt8.toUInt32 = value := by
    -- the bytes, and after each of them what has been read
    have hbyte24 := toNat_shiftRight_toUInt8 value (n := 24) (by decide)
    have hbyte16 := toNat_shiftRight_toUInt8 value (n := 16) (by decide)
    have hbyte8 := toNat_shiftRight_toUInt8 value (n := 8) (by decide)
    simp only [UInt32.reduceToNat] at hbyte24 hbyte16 hbyte8
    apply UInt32.toNat_inj.mp
    have hfirst : ((0 : UInt32) <<< 8 ||| (value >>> 24).toUInt8.toUInt32).toNat =
        value.toNat / 2 ^ 24 := by
      rw [toNat_shift_or (by decide), UInt32.toNat_zero, hbyte24]
      omega
    have hsecond : (((0 : UInt32) <<< 8 ||| (value >>> 24).toUInt8.toUInt32) <<< 8 |||
        (value >>> 16).toUInt8.toUInt32).toNat = value.toNat / 2 ^ 16 := by
      rw [toNat_shift_or (by omega), hfirst, hbyte16]
      omega
    have hthird : ((((0 : UInt32) <<< 8 ||| (value >>> 24).toUInt8.toUInt32) <<< 8 |||
        (value >>> 16).toUInt8.toUInt32) <<< 8 ||| (value >>> 8).toUInt8.toUInt32).toNat =
          value.toNat / 2 ^ 8 := by
      rw [toNat_shift_or (by omega), hsecond, hbyte8]
      omega
    rw [toNat_shift_or (by omega), hthird, UInt32.toNat_toUInt8]
    omega
  rw [Axtp.writeU32, readUnsigned, if_neg (by simp)]
  simp only [List.foldl_cons, List.foldl_nil, hparsed, gt_iff_lt, UInt32.not_lt.mpr h, if_false]

theorem readU8_writeU8 (value : UInt8) : readU8 (Axtp.writeU8 value) = some value := by
  have h : value.toUInt32 ≤ 0xFF := by
    have hlt := value.toNat_lt
    simp only [UInt32.le_iff_toNat_le, UInt8.toNat_toUInt32, UInt32.reduceToNat]
    omega
  rw [readU8, readUnsigned_writeU8 h, Option.map_some, UInt8.toUInt8_toUInt32]

theorem le_max (value : UInt32) : value ≤ 0xFFFFFFFF := by
  have hlt := value.toNat_lt
  simp only [UInt32.le_iff_toNat_le, UInt32.reduceToNat]
  omega

theorem readU32_writeU16 (value : UInt16) : readU32 (Axtp.writeU16 value) = some value.toUInt32 :=
  readUnsigned_writeU16 (le_max _)

theorem readU32_writeU32 (value : UInt32) : readU32 (Axtp.writeU32 value) = some value :=
  readUnsigned_writeU32 (le_max _)

/-! ### Records -/

/-- A complete record. -/
def record (field : UInt8 × Bytes) : Bytes :=
  writeHeader field.1 (UInt8.ofNat field.2.length) ++ field.2

theorem decodeLoop_record {field : UInt8 × Bytes} (h : field.2.length < 256) (turns : ℕ)
    (options : ControlTlvOptions) (rest : Bytes) :
    decodeLoop (turns + 1) options (record field ++ rest) =
      decodeLoop turns (decodeField options field.1 field.2) rest := by
  have hlength : (UInt8.ofNat field.2.length).toNat = field.2.length := by
    rw [UInt8.toNat_ofNat']
    exact Nat.mod_eq_of_lt h
  have hread : readBytes field.2.length (field.2 ++ rest) = some (field.2, rest) := by
    simp [readBytes]
  simp only [record, writeHeader, Axtp.writeU8, List.cons_append, List.nil_append, decodeLoop,
    hlength, hread]

theorem decodeLoop_records {fields : List (UInt8 × Bytes)}
    (h : ∀ field ∈ fields, field.2.length < 256) {turns : ℕ} (hturns : fields.length ≤ turns)
    (options : ControlTlvOptions) :
    decodeLoop turns options (fields.flatMap record) =
      fields.foldl (fun options field => decodeField options field.1 field.2) options := by
  induction fields generalizing turns options with
  | nil => cases turns <;> rfl
  | cons field fields ih =>
    rcases turns with _ | turns
    · simp at hturns
    · rw [List.flatMap_cons, decodeLoop_record (h field (List.mem_cons_self ..)), List.foldl_cons]
      exact ih (fun f hf => h f (List.mem_cons_of_mem _ hf)) (Nat.le_of_succ_le_succ hturns) _

theorem length_le_flatMap_record (fields : List (UInt8 × Bytes)) :
    fields.length ≤ (fields.flatMap record).length := by
  induction fields with
  | nil => exact le_rfl
  | cons field fields ih =>
    simp only [List.flatMap_cons, List.length_append, List.length_cons, record, writeHeader,
      length_writeU8]
    omega

/-- **Complete records** are decoded one field after the other. -/
theorem decode_records {fields : List (UInt8 × Bytes)}
    (h : ∀ field ∈ fields, field.2.length < 256) :
    decode (fields.flatMap record) =
      fields.foldl (fun options field => decodeField options field.1 field.2) {} :=
  decodeLoop_records h (length_le_flatMap_record fields) {}

/-! ### The options of an OPEN and of its ACCEPT -/

def openOptions (heartbeatIntervalMs : UInt32) : ControlTlvOptions :=
  { defaultsForOpen with heartbeatIntervalMs }

variable {heartbeatIntervalMs : UInt32}

theorem decode_encode_open (h : heartbeatIntervalMs ≤ 0xFFFF) :
    decode (encode (openOptions heartbeatIntervalMs) false) = openOptions heartbeatIntervalMs := by
  have hcast := (PayloadCodec.toUInt16_toUInt32_eq_iff heartbeatIntervalMs).mpr h
  have hencode : encode (openOptions heartbeatIntervalMs) false =
      [(kMaxFrameSize, Axtp.writeU16 4096), (kSupportedPayloadTypes, Axtp.writeU8 0x07),
        (kSupportedRpcEncodings, Axtp.writeU8 0x09),
        (kHeartbeatIntervalMs, Axtp.writeU16 heartbeatIntervalMs.toUInt16),
        (kAckMode, Axtp.writeU8 0)].flatMap record := by
    simp [encode, openOptions, defaultsForOpen, writeU16OrU32, writeU16, writeU8, h, record]
  rw [hencode, decode_records (by simp)]
  simp [decodeField, openOptions, defaultsForOpen, kSessionId, kProtocolVersion,
    kMaxFrameSize, kMtu,
    kSupportedPayloadTypes, kSupportedRpcEncodings, kHeartbeatIntervalMs, kAckMode,
    kSelectedRpcEncoding, readU8_writeU8, readU32_writeU16, hcast,
    readUnsigned_writeU16 (show (4096 : UInt16).toUInt32 ≤ 0xFFFF by decide)]

theorem decode_encode_accept (h : heartbeatIntervalMs ≤ 0xFFFF) :
    decode (encode (defaultsForAccept (openOptions heartbeatIntervalMs)) true) =
      defaultsForAccept (openOptions heartbeatIntervalMs) := by
  have hencode : encode (defaultsForAccept (openOptions heartbeatIntervalMs)) true =
      [(kSessionId, Axtp.writeU32 0), (kMaxFrameSize, Axtp.writeU16 4096),
        (kSupportedPayloadTypes, Axtp.writeU8 0x07),
        (kSelectedRpcEncoding, Axtp.writeU8 RpcEncoding.json.value),
        (kHeartbeatIntervalMs, Axtp.writeU16 heartbeatIntervalMs.toUInt16),
        (kAckMode, Axtp.writeU8 0)].flatMap record := by
    simp [encode, openOptions, defaultsForOpen, defaultsForAccept, writeU16OrU32, writeU16, writeU8,
      writeU32, h, record]
  have hcast := (PayloadCodec.toUInt16_toUInt32_eq_iff heartbeatIntervalMs).mpr h
  have hjson : ¬ (9 : UInt8) &&& 1 = 0 := by decide
  rw [hencode, decode_records (by simp)]
  simp [hjson, decodeField, openOptions, defaultsForOpen, defaultsForAccept, kSessionId,
    kProtocolVersion,
    kMaxFrameSize, kMtu, kSupportedPayloadTypes, kSupportedRpcEncodings, kHeartbeatIntervalMs,
    kAckMode, kSelectedRpcEncoding, readU8_writeU8, readU32_writeU16, readU32_writeU32,
    hcast, readUnsigned_writeU16 (show (4096 : UInt16).toUInt32 ≤ 0xFFFF by decide)]

end ControlTlvCodec

end Axtp
