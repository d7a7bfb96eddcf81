/-
  The control TLV codec and its grammar.

  The decoder accepts exactly the grammar and reads what the records say
  (`decode_valid_iff`): a record that does not belong to it makes the options invalid for
  good, and as long as there was none the options are those of the records read so far
  (`decodeField_optionsOf`). What the encoder writes comes back exactly when the decoder's
  limits admit the sizes that it wrote (`roundTrips_iff`).
-/
import Axtp.Equiv.ControlTlvCodec
import Axtp.Spec.ControlGrammar

namespace Axtp

namespace ControlTlvCodec

/-! ### Numbers -/

theorem bigEndian_lt (bytes : Bytes) : bigEndian bytes < 256 ^ bytes.length := by
  induction bytes using List.reverseRecOn with
  | nil => simp [bigEndian]
  | append_singleton bytes byte ih =>
    rw [bigEndian, List.foldl_append, List.length_append, List.length_singleton, pow_succ]
    have := byte.toNat_lt
    simp only [List.foldl_cons, List.foldl_nil]
    rw [bigEndian] at ih
    omega

/-- The loop of `readUnsigned` on at most four bytes. -/
theorem toNat_foldl {bytes : Bytes} (h : bytes.length ≤ 4) :
    (bytes.foldl (fun (parsed : UInt32) byte => parsed <<< 8 ||| byte.toUInt32) 0).toNat =
      bigEndian bytes := by
  induction bytes using List.reverseRecOn with
  | nil => rfl
  | append_singleton bytes byte ih =>
    rw [List.length_append, List.length_singleton] at h
    have hprevious := ih (by omega)
    have hlt : bigEndian bytes < 256 ^ 3 :=
      lt_of_lt_of_le (bigEndian_lt bytes) (Nat.pow_le_pow_right (by norm_num) (by omega))
    rw [bigEndian, List.foldl_append, List.foldl_append]
    simp only [List.foldl_cons, List.foldl_nil, UInt32.toNat_or, UInt32.toNat_shiftLeft,
      UInt8.toNat_toUInt32, hprevious, UInt32.reduceToNat, Nat.reduceMod]
    rw [Nat.mod_eq_of_lt (by rw [Nat.shiftLeft_eq]; omega),
      ← Nat.shiftLeft_add_eq_or_of_lt byte.toNat_lt, Nat.shiftLeft_eq, mul_comm]
    rfl

theorem readUnsigned_eq (bytes : Bytes) (maxValue : UInt32) :
    readUnsigned bytes maxValue =
      if IsNumber bytes ∧ bigEndian bytes ≤ maxValue.toNat then
        some (UInt32.ofNat (bigEndian bytes)) else none := by
  unfold readUnsigned IsNumber
  by_cases hsize : bytes = [] ∨ bytes.length > 4 ∨ bytes.length = 3
  · rw [if_pos hsize, if_neg]
    rintro ⟨hlength, -⟩
    rcases hsize with rfl | hsize
    · simp at hlength
    · omega
  · rw [if_neg hsize]
    have hlength : bytes.length = 1 ∨ bytes.length = 2 ∨ bytes.length = 4 := by
      have hne : bytes.length ≠ 0 := fun h => hsize (.inl (List.length_eq_zero_iff.mp h))
      omega
    have hparsed := @toNat_foldl bytes (by omega)
    simp only [hlength, true_and, gt_iff_lt, UInt32.lt_iff_toNat_lt, hparsed]
    split_ifs with hlt hle
    · omega
    · rfl
    · rw [← hparsed, UInt32.ofNat_toNat]
    · omega

theorem readU8_eq (bytes : Bytes) :
    readU8 bytes =
      if IsNumber bytes ∧ bigEndian bytes ≤ 0xFF then some (UInt8.ofNat (bigEndian bytes))
      else none := by
  have hmax : (0xFF : UInt32).toNat = 0xFF := rfl
  rw [readU8, readUnsigned_eq, hmax]
  split_ifs with h
  · rw [Option.map_some]
    congr 1
    apply UInt8.toNat_inj.mp
    simp
  · rfl

theorem bigEndian_lt_of_isNumber {bytes : Bytes} (h : IsNumber bytes) :
    bigEndian bytes < 2 ^ 32 := by
  have hle : bytes.length ≤ 4 := by
    unfold IsNumber at h
    omega
  exact lt_of_lt_of_le (bigEndian_lt bytes)
    (Nat.pow_le_pow_right (by norm_num : 0 < 256) hle)

theorem readU32_eq (bytes : Bytes) :
    readU32 bytes = if IsNumber bytes then some (UInt32.ofNat (bigEndian bytes)) else none := by
  have hmax : (0xFFFFFFFF : UInt32).toNat = 2 ^ 32 - 1 := rfl
  rw [readU32, readUnsigned_eq, hmax]
  by_cases hnumber : IsNumber bytes
  · have hlt := bigEndian_lt_of_isNumber hnumber
    rw [if_pos ⟨hnumber, by omega⟩, if_pos hnumber]
  · rw [if_neg fun h => hnumber h.1, if_neg hnumber]

/-! ### One record -/

theorem lastNumber_append (records : List (UInt8 × Bytes)) (entry : UInt8 × Bytes) (tag : UInt8) :
    lastNumber (records ++ [entry]) tag =
      if entry.1 = tag then some (bigEndian entry.2) else lastNumber records tag := by
  unfold lastNumber
  by_cases h : entry.1 = tag
  · rw [if_pos h, List.filter_append, List.filter_cons_of_pos (by simpa using h), List.filter_nil,
      List.getLast?_append, List.getLast?_singleton, Option.some_or, Option.map_some]
  · rw [if_neg h, List.filter_append, List.filter_cons_of_neg (by simpa using h), List.filter_nil,
      List.append_nil]

/-- A record keeps the options valid exactly when it is in the grammar. -/
theorem valid_decodeField (options : ControlTlvOptions) (entry : UInt8 × Bytes) :
    (decodeField options entry.1 entry.2).valid = true ↔
      options.valid = true ∧ InGrammar entry := by
  obtain ⟨tag, value⟩ := entry
  have hword : IsNumber value → bigEndian value < 4294967296 := bigEndian_lt_of_isNumber
  have hone (h : bigEndian value ≤ 255) :
      UInt8.ofNat (bigEndian value) = 1 ↔ bigEndian value = 1 := by
    rw [← UInt8.toNat_inj, UInt8.toNat_ofNat', Nat.mod_eq_of_lt (by omega)]
    rfl
  have hmax : (0xFFFF : UInt32).toNat = 0xFFFF := rfl
  by_cases hknown : tag ∈ knownTags
  · simp only [InGrammar, hknown, true_implies]
    simp only [knownTags, byteTags, List.cons_append, List.nil_append, List.mem_cons,
      List.not_mem_nil, or_false] at hknown
    rcases hknown with rfl | rfl | rfl | rfl | rfl | rfl | rfl | rfl | rfl <;>
      simp [decodeField, WithinLimit, byteTags, kSessionId, kProtocolVersion, kMaxFrameSize, kMtu,
        kSupportedPayloadTypes, kSupportedRpcEncodings, kSelectedRpcEncoding, kHeartbeatIntervalMs,
        kAckMode, readU8_eq, readU32_eq, readUnsigned_eq, hmax] <;>
      grind
  · simp only [InGrammar, hknown, false_implies, and_true]
    simp only [knownTags, byteTags, List.cons_append, List.nil_append, List.mem_cons,
      List.not_mem_nil, or_false, not_or] at hknown
    simp [decodeField, hknown]

/-- **One record** in the grammar adds its number to what the records say. -/
theorem decodeField_optionsOf (records : List (UInt8 × Bytes)) {entry : UInt8 × Bytes}
    (h : InGrammar entry) :
    decodeField (optionsOf records) entry.1 entry.2 = optionsOf (records ++ [entry]) := by
  obtain ⟨tag, value⟩ := entry
  have hmax : (0xFFFF : UInt32).toNat = 0xFFFF := rfl
  by_cases hknown : tag ∈ knownTags
  · obtain ⟨hnumber, hlimit⟩ := h hknown
    simp only [knownTags, byteTags, List.cons_append, List.nil_append, List.mem_cons,
      List.not_mem_nil, or_false] at hknown
    rcases hknown with rfl | rfl | rfl | rfl | rfl | rfl | rfl | rfl | rfl <;>
      simp [WithinLimit, byteTags, kSessionId, kProtocolVersion, kMaxFrameSize, kMtu,
        kSupportedPayloadTypes, kSupportedRpcEncodings, kSelectedRpcEncoding, kHeartbeatIntervalMs,
        kAckMode] at hlimit <;>
      simp [decodeField, optionsOf, lastNumber_append, kSessionId, kProtocolVersion, kMaxFrameSize,
        kMtu, kSupportedPayloadTypes, kSupportedRpcEncodings, kSelectedRpcEncoding,
        kHeartbeatIntervalMs, kAckMode, readU8_eq, readU32_eq, readUnsigned_eq, hmax, hnumber,
          hlimit]
  · simp only [knownTags, byteTags, List.cons_append, List.nil_append, List.mem_cons,
      List.not_mem_nil, or_false, not_or] at hknown
    simp [decodeField, optionsOf, lastNumber_append, hknown]

/-! ### All records -/

/-- Options that became invalid stay so. -/
theorem valid_of_decodeLoop {turns : ℕ} {options : ControlTlvOptions} {reader : Bytes}
    (h : (decodeLoop turns options reader).valid = true) : options.valid = true := by
  induction turns generalizing options reader with
  | zero => exact h
  | succ turns ih =>
    rcases reader with _ | ⟨tag, _ | ⟨length, rest⟩⟩
    · exact h
    · cases h
    · rw [decodeLoop] at h
      rcases hread : readBytes length.toNat rest with _ | ⟨value, reader⟩ <;> rw [hread] at h
      · cases h
      · exact ((valid_decodeField options (tag, value)).mp (ih h)).1

/-- The step of a decoder that gives up at the first record outside the grammar. -/
def decodeRecord (options : ControlTlvOptions) (tag : UInt8) (value : Bytes) :
    Except Unit ControlTlvOptions :=
  if (decodeField options tag value).valid then .ok (decodeField options tag value) else .error ()

/-- Up to what is left of invalid options, that decoder is the one here. -/
theorem loop_decodeRecord {turns : ℕ} {options : ControlTlvOptions} {reader : Bytes}
    (h : options.valid = true) :
    Tlv8.loop () decodeRecord turns options reader =
      if (decodeLoop turns options reader).valid then .ok (decodeLoop turns options reader)
      else .error () := by
  induction turns generalizing options reader with
  | zero => rw [decodeLoop, if_pos h, Tlv8.loop]
  | succ turns ih =>
    rcases reader with _ | ⟨tag, _ | ⟨length, rest⟩⟩
    · rw [decodeLoop, if_pos h, Tlv8.loop]
    · rfl
    · rw [Tlv8.loop, decodeLoop, readBytes]
      by_cases hlength : length.toNat ≤ rest.length
      · rw [if_pos hlength, if_pos hlength]
        simp only [decodeRecord]
        by_cases hvalid : (decodeField options tag (rest.take length.toNat)).valid = true
        · rw [if_pos hvalid]
          exact ih hvalid
        · rw [if_neg hvalid, if_neg fun hloop => hvalid (valid_of_decodeLoop hloop)]
          rfl
      · rw [if_neg hlength, if_neg hlength]
        rfl

theorem foldlM_decodeRecord {records : List (UInt8 × Bytes)} {options : ControlTlvOptions} :
    records.foldlM (fun options entry => decodeRecord options entry.1 entry.2) (optionsOf []) =
        .ok options ↔ (∀ entry ∈ records, InGrammar entry) ∧ options = optionsOf records := by
  constructor
  · intro hfold
    -- the options read so far are those of the records read so far
    have hall := Tlv8.foldlM_invariant
      (I := fun done options => (∀ entry ∈ done, InGrammar entry) ∧ options = optionsOf done)
      (fun entry _ done options after hdone hstep => ?_) ⟨by simp, rfl⟩ hfold
    · rwa [List.nil_append] at hall
    · obtain ⟨hgrammar, rfl⟩ := hdone
      unfold decodeRecord at hstep
      split_ifs at hstep with hvalid
      obtain rfl := Except.ok.inj hstep
      have hentry := ((valid_decodeField _ entry).mp hvalid).2
      refine ⟨fun e he => ?_, decodeField_optionsOf done hentry⟩
      rcases List.mem_append.mp he with he | he
      · exact hgrammar e he
      · rwa [List.mem_singleton.mp he]
  · rintro ⟨hgrammar, rfl⟩
    -- from the end, as the last occurrence of a tag is the one that counts
    induction records using List.reverseRecOn with
    | nil => rfl
    | append_singleton records entry ih =>
      have hentry := hgrammar entry (List.mem_append_right _ (List.mem_singleton_self _))
      have hvalid : (optionsOf (records ++ [entry])).valid = true := rfl
      rw [List.foldlM_append, ih fun e he => hgrammar e (List.mem_append_left _ he)]
      apply Tlv8.bind_eq_ok_iff.mpr
      refine ⟨optionsOf records, rfl, ?_⟩
      simp only [List.foldlM_cons, List.foldlM_nil, decodeRecord,
        decodeField_optionsOf records hentry, hvalid, if_true]
      rfl

theorem loop_decodeRecord_eq (bytes : Bytes) :
    Tlv8.loop () decodeRecord bytes.length (optionsOf []) bytes =
      if (decode bytes).valid then .ok (decode bytes) else .error () := loop_decodeRecord rfl

/-- What is accepted is complete records in the grammar. -/
theorem exists_records_of_valid {bytes : Bytes} (h : (decode bytes).valid = true) :
    ∃ records, bytes = records.flatMap Tlv8.record ∧ Tlv8.Fit records ∧
      ∀ entry ∈ records, InGrammar entry := by
  have hloop := loop_decodeRecord_eq bytes
  rw [if_pos h] at hloop
  obtain ⟨records, hbytes, hfit, hfold⟩ := (Tlv8.loop_eq_ok_iff le_rfl).mp hloop
  exact ⟨records, hbytes, hfit, (foldlM_decodeRecord.mp hfold).1⟩

/-- Complete records in the grammar are read. -/
theorem decode_of_records {bytes : Bytes} {records : List (UInt8 × Bytes)}
    (hbytes : bytes = records.flatMap Tlv8.record) (hfit : Tlv8.Fit records)
    (hgrammar : ∀ entry ∈ records, InGrammar entry) :
    (decode bytes).valid = true ∧ decode bytes = optionsOf records := by
  have hsome : Tlv8.loop () decodeRecord bytes.length (optionsOf []) bytes =
      .ok (optionsOf records) :=
    (Tlv8.loop_eq_ok_iff le_rfl).mpr
      ⟨records, hbytes, hfit, foldlM_decodeRecord.mpr ⟨hgrammar, rfl⟩⟩
  rw [loop_decodeRecord_eq] at hsome
  split_ifs at hsome with hvalid
  exact ⟨hvalid, Except.ok.inj hsome⟩

/-- **The grammar.** The decoder accepts exactly the complete records in the grammar, and of these
it reads what they say. -/
theorem decode_valid_iff (bytes : Bytes) :
    ((decode bytes).valid = true ↔
        ∃ records, bytes = records.flatMap Tlv8.record ∧ Tlv8.Fit records ∧
          ∀ entry ∈ records, InGrammar entry) ∧
      ∀ records, bytes = records.flatMap Tlv8.record → Tlv8.Fit records →
        (∀ entry ∈ records, InGrammar entry) → decode bytes = optionsOf records :=
  ⟨⟨exists_records_of_valid, fun ⟨_, hbytes, hfit, hgrammar⟩ =>
    (decode_of_records hbytes hfit hgrammar).1⟩, fun _ hbytes hfit hgrammar =>
      (decode_of_records hbytes hfit hgrammar).2⟩

/-! ### What the encoder writes -/

theorem bigEndian_writeU8 (value : UInt8) : bigEndian (Axtp.writeU8 value) = value.toNat := by
  simp [bigEndian, Axtp.writeU8]

theorem bigEndian_writeU16 (value : UInt16) : bigEndian (Axtp.writeU16 value) = value.toNat := by
  have := value.toNat_lt
  simp [bigEndian, Axtp.writeU16, Nat.shiftRight_eq_div_pow]
  omega

theorem bigEndian_writeU32 (value : UInt32) : bigEndian (Axtp.writeU32 value) = value.toNat := by
  have := value.toNat_lt
  simp [bigEndian, Axtp.writeU32, Nat.shiftRight_eq_div_pow]
  omega

/-- The bytes of `writeU16OrU32` behind the header. -/
def shortest (value : UInt32) : Bytes :=
  if value ≤ 0xFFFF then Axtp.writeU16 value.toUInt16 else Axtp.writeU32 value

theorem bigEndian_shortest (value : UInt32) : bigEndian (shortest value) = value.toNat := by
  unfold shortest
  split_ifs with h
  · rw [bigEndian_writeU16, ← UInt16.toNat_toUInt32,
      (PayloadCodec.toUInt16_toUInt32_eq_iff value).mpr h]
  · exact bigEndian_writeU32 value

theorem isNumber_shortest (value : UInt32) : IsNumber (shortest value) := by
  unfold shortest IsNumber
  split_ifs <;> simp

/-- A record that is written if the flag is set. -/
def field (flag : Bool) (tag : UInt8) (value : Bytes) : List (UInt8 × Bytes) :=
  if flag then [(tag, value)] else []

/-- The records that the encoder writes. -/
def written (options : ControlTlvOptions) (includeAcceptFields : Bool) : List (UInt8 × Bytes) :=
  field (includeAcceptFields && options.hasSessionId) kSessionId
    (Axtp.writeU32 options.sessionId) ++
    field options.hasProtocolVersion kProtocolVersion (Axtp.writeU8 options.protocolVersion) ++
    field options.hasMaxFrameSize kMaxFrameSize (shortest options.maxFrameSize) ++
    field options.hasMtu kMtu (shortest options.mtu) ++
    field options.hasSupportedPayloadTypes kSupportedPayloadTypes
      (Axtp.writeU8 options.supportedPayloadTypes) ++
    field (!includeAcceptFields && options.hasSupportedRpcEncodings) kSupportedRpcEncodings
      (Axtp.writeU8 options.supportedRpcEncodings) ++
    field (includeAcceptFields && options.hasSelectedRpcEncoding) kSelectedRpcEncoding
      (Axtp.writeU8 options.selectedRpcEncoding) ++
    field options.hasHeartbeatIntervalMs kHeartbeatIntervalMs
      (shortest options.heartbeatIntervalMs) ++
    field options.hasAckMode kAckMode (Axtp.writeU8 options.ackMode)

theorem flatMap_field (flag : Bool) (tag : UInt8) (value : Bytes) :
    (field flag tag value).flatMap Tlv8.record =
      if flag then writeHeader tag (UInt8.ofNat value.length) ++ value else [] := by
  cases flag
  · rfl
  · simp [field, Tlv8.record, writeHeader, Axtp.writeU8]

theorem writeU16OrU32_eq (tag : UInt8) (value : UInt32) :
    writeU16OrU32 tag value =
      writeHeader tag (UInt8.ofNat (shortest value).length) ++ shortest value := by
  unfold writeU16OrU32 shortest
  split_ifs <;> rfl

theorem encode_eq (options : ControlTlvOptions) (includeAcceptFields : Bool) :
    encode options includeAcceptFields =
      (written options includeAcceptFields).flatMap Tlv8.record := by
  simp only [written, List.flatMap_append, flatMap_field, encode, writeU8, writeU32,
    writeU16OrU32_eq,
    length_writeU8, length_writeU32, Bool.and_eq_true, Bool.not_eq_true', Bool.not_eq_true]
  rfl

theorem fit_field (flag : Bool) (tag : UInt8) {value : Bytes} (h : value.length < 256) :
    Tlv8.Fit (field flag tag value) := by
  cases flag
  · simp [field, Tlv8.Fit]
  · simpa [field, Tlv8.Fit] using h

theorem fit_written (options : ControlTlvOptions) (includeAcceptFields : Bool) :
    Tlv8.Fit (written options includeAcceptFields) := by
  have hshortest (value : UInt32) : (shortest value).length < 256 := by
    unfold shortest
    split_ifs <;> simp
  intro entry hentry
  simp only [written, List.mem_append] at hentry
  rcases hentry with (((((((h | h) | h) | h) | h) | h) | h) | h) | h
  · exact fit_field _ _ (by simp) entry h
  · exact fit_field _ _ (by simp) entry h
  · exact fit_field _ _ (hshortest _) entry h
  · exact fit_field _ _ (hshortest _) entry h
  · exact fit_field _ _ (by simp) entry h
  · exact fit_field _ _ (by simp) entry h
  · exact fit_field _ _ (by simp) entry h
  · exact fit_field _ _ (hshortest _) entry h
  · exact fit_field _ _ (by simp) entry h

/-- The sizes that are written are within the limits of the decoder. -/
def SizesAdmitted (options : ControlTlvOptions) : Prop :=
  (options.hasMaxFrameSize = true → options.maxFrameSize ≤ 0xFFFF) ∧
    (options.hasMtu = true → options.mtu ≤ 0xFFFF)

instance (options : ControlTlvOptions) : Decidable (SizesAdmitted options) := by
  unfold SizesAdmitted; infer_instance

theorem forall_mem_field {P : UInt8 × Bytes → Prop} {flag : Bool} {tag : UInt8} {value : Bytes} :
    (∀ entry ∈ field flag tag value, P entry) ↔ (flag = true → P (tag, value)) := by
  cases flag <;> simp [field]

theorem inGrammar_written_iff {options : ControlTlvOptions} (hversion : options.protocolVersion = 1)
    (includeAcceptFields : Bool) :
    (∀ entry ∈ written options includeAcceptFields, InGrammar entry) ↔ SizesAdmitted options := by
  -- each kind of field that can be written, the sizes alone having a limit
  have hbyte (tag value : UInt8) (htag : tag ∈ byteTags) : InGrammar (tag, Axtp.writeU8 value) := by
    have hversion : tag ≠ kProtocolVersion := by
      rintro rfl
      exact absurd htag (by decide)
    refine fun _ => ⟨.inl rfl, ?_⟩
    rw [WithinLimit, if_neg hversion, if_pos htag, bigEndian_writeU8]
    have := value.toNat_lt
    omega
  have hword (tag : UInt8) (value : UInt32) (htag : tag = kMaxFrameSize ∨ tag = kMtu) :
      InGrammar (tag, shortest value) ↔ value ≤ 0xFFFF := by
    have hknown : tag ∈ knownTags ∧ tag ≠ kProtocolVersion ∧ tag ∉ byteTags := by
      rcases htag with rfl | rfl <;> decide
    have hmax : (0xFFFF : UInt32).toNat = 0xFFFF := rfl
    simp only [InGrammar, hknown.1, true_implies, WithinLimit, if_neg hknown.2.1, if_neg hknown.2.2,
      if_pos htag, bigEndian_shortest, isNumber_shortest, true_and, UInt32.le_iff_toNat_le, hmax]
  have hany (tag : UInt8) (value : Bytes) (hnumber : IsNumber value)
      (htag : tag = kSessionId ∨ tag = kHeartbeatIntervalMs) : InGrammar (tag, value) := by
    refine fun _ => ⟨hnumber, ?_⟩
    have hlimit :
        tag ≠ kProtocolVersion ∧ tag ∉ byteTags ∧ ¬ (tag = kMaxFrameSize ∨ tag = kMtu) := by
      rcases htag with rfl | rfl <;> decide
    rw [WithinLimit, if_neg hlimit.1, if_neg hlimit.2.1, if_neg hlimit.2.2]
    exact bigEndian_lt_of_isNumber hnumber
  have hone : InGrammar (kProtocolVersion, Axtp.writeU8 options.protocolVersion) := by
    rw [hversion]
    exact fun _ => ⟨.inl rfl, by decide⟩
  simp only [written, List.forall_mem_append, forall_mem_field, hword _ _ (.inl rfl),
    hword _ _ (.inr rfl), SizesAdmitted]
  constructor
  · rintro ⟨⟨⟨⟨⟨⟨⟨-, hframe⟩, hmtu⟩, -⟩, -⟩, -⟩, -⟩, -⟩
    exact ⟨hframe, hmtu⟩
  · rintro ⟨hframe, hmtu⟩
    exact ⟨⟨⟨⟨⟨⟨⟨⟨fun _ => hany _ _ (.inr (.inr rfl)) (.inl rfl), fun _ => hone⟩, hframe⟩, hmtu⟩,
      fun _ => hbyte _ _ (by decide)⟩, fun _ => hbyte _ _ (by decide)⟩,
      fun _ => hbyte _ _ (by decide)⟩, fun _ => hany _ _ (isNumber_shortest _) (.inr rfl)⟩,
      fun _ => hbyte _ _ (by decide)⟩

theorem lastNumber_append_append (xs ys : List (UInt8 × Bytes)) (tag : UInt8) :
    lastNumber (xs ++ ys) tag = (lastNumber ys tag).or (lastNumber xs tag) := by
  unfold lastNumber
  rw [List.filter_append, List.getLast?_append, Option.map_or]

theorem lastNumber_field (flag : Bool) (tag tag' : UInt8) (value : Bytes) :
    lastNumber (field flag tag value) tag' =
      if tag = tag' then if flag then some (bigEndian value) else none else none := by
  cases flag
  · simp [field, lastNumber]
  · by_cases h : tag = tag' <;> simp [field, lastNumber, h]

theorem isSome_ite_some {α : Type*} (flag : Bool) (a : α) :
    (if flag then some a else none).isSome = flag := by
  cases flag <;> rfl

theorem getD_word (flag : Bool) (value byDefault : UInt32) :
    ((if flag then some value.toNat else none).map UInt32.ofNat).getD byDefault =
      if flag then value else byDefault := by
  cases flag
  · rfl
  · simp

theorem getD_byte (flag : Bool) (value byDefault : UInt8) :
    ((if flag then some value.toNat else none).map UInt8.ofNat).getD byDefault =
      if flag then value else byDefault := by
  cases flag
  · rfl
  · simp

/-- What the written records say. -/
theorem optionsOf_written (options : ControlTlvOptions) (includeAcceptFields : Bool) :
    optionsOf (written options includeAcceptFields) = sent options includeAcceptFields := by
  simp only [optionsOf, sent, written, lastNumber_append_append, lastNumber_field,
    bigEndian_writeU8,
    bigEndian_writeU32, bigEndian_shortest]
  simp [kSessionId, kProtocolVersion, kMaxFrameSize, kMtu, kSupportedPayloadTypes,
    kSupportedRpcEncodings, kSelectedRpcEncoding, kHeartbeatIntervalMs, kAckMode, -Option.map_if,
    -Option.isSome_ite, -Bool.and_eq_true, isSome_ite_some, getD_word, getD_byte]

/-- **Control TLV round trip.** With the protocol version 1, what is encoded is decoded to the
fields that are written in the direction, with their values, exactly when the sizes that are written
are at most `0xFFFF`; otherwise it is rejected. -/
theorem roundTrips_iff {options : ControlTlvOptions} (hversion : options.protocolVersion = 1)
    (includeAcceptFields : Bool) :
    (SizesAdmitted options →
        decode (encode options includeAcceptFields) = sent options includeAcceptFields) ∧
      ((decode (encode options includeAcceptFields)).valid = true ↔ SizesAdmitted options) := by
  have hencode := encode_eq options includeAcceptFields
  have hfit := fit_written options includeAcceptFields
  have hgrammar := inGrammar_written_iff hversion includeAcceptFields
  have hsent (h : SizesAdmitted options) :
      decode (encode options includeAcceptFields) = sent options includeAcceptFields := by
    rw [(decode_of_records hencode hfit (hgrammar.mpr h)).2, optionsOf_written]
  refine ⟨hsent, fun h => ?_, fun h => by rw [hsent h]; rfl⟩
  -- the records that are read are the ones that were written
  obtain ⟨records, hbytes, hfit', hgrammar'⟩ := exists_records_of_valid h
  obtain rfl : records = written options includeAcceptFields :=
    Tlv8.flatMap_record_inj hfit' hfit (hbytes.symm.trans hencode)
  exact hgrammar.mp hgrammar'

/-- The options that an OPEN is sent with come through. -/
theorem roundTrips_defaultsForOpen :
    decode (encode defaultsForOpen false) = sent defaultsForOpen false :=
  (roundTrips_iff rfl false).1 (by decide)

/-- A frame size above `0xFFFF` is written with four bytes, and rejected. -/
theorem not_roundTrips :
    (decode (encode { hasMaxFrameSize := true, maxFrameSize := 65536 } false)).valid = false := by
  decide

end ControlTlvCodec

end Axtp
