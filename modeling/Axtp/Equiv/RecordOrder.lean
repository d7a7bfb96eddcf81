/-
  The TLV8 decoder and the order of the records.

  Two records may be exchanged: their fields are found by the ids, the values do not
  depend on the object so far, and members under different names may be assigned in
  either order, while a second record for one name fails first or last
  (`decodeRecord_comm`). A record whose id no field has changes nothing. None of this
  needs the ids of the schema to differ.

  It needs that no record throws. `validate` and `decodeJson` catch what is thrown below
  them and `decodeTlv8` does not, so where a field type begins with `uint` and goes on
  without a number, as a schema named `uintPair` does, the order says whether the decoder
  comes to throw or gives up before (`RecordThrows`, `decodeTlv8_order_iff`).
-/
import Axtp.Equiv.SchemaProjection
import Axtp.Json.Lawful

namespace Axtp

namespace SchemaObjectCodec

open Json

variable {lib : JsonLibrary} {facts : SchemaFacts} {fields : List SchemaField}
  {nested : Bytes → Bytes → Decoded Json}

/-! ### One record -/

/-- What a record does to the object: it adds a member that was not there, or fails. -/
def addMember (object : Json) (name : Bytes) (value : Decoded Json) : Decoded Json :=
  if (object.member name).isSome then .error .rejected else value.map (object.setMember name)

/-- The field of a record. -/
def fieldOf (fields : List SchemaField) (id : UInt8) : Option SchemaField :=
  fields.find? fun field => field.id = id.toNat

theorem decodeRecord_of_fieldOf {id : UInt8} {field : SchemaField}
    (h : fieldOf fields id = some field) (object : Json) (data : Bytes) :
    decodeRecord facts nested fields object id data =
      addMember object field.name (decodeValue facts nested field.type data) := by
  unfold fieldOf at h
  rw [decodeRecord, h]
  rfl

theorem decodeRecord_of_fieldOf_eq_none {id : UInt8} (h : fieldOf fields id = none) (object : Json)
    (data : Bytes) : decodeRecord facts nested fields object id data = .ok object := by
  unfold fieldOf at h
  rw [decodeRecord, h]

/-- No field has the id. -/
def IsUnknown (fields : List SchemaField) (id : UInt8) : Prop :=
  ∀ field ∈ fields, field.id ≠ id.toNat

theorem IsUnknown.fieldOf_eq_none {id : UInt8} (h : IsUnknown fields id) :
    fieldOf fields id = none := by
  rw [fieldOf, List.find?_eq_none]
  intro field hmem heq
  exact h field hmem (of_decide_eq_true heq)

/-! ### What throws -/

/-- A type that the decoder takes for an unsigned integer and that names no number. -/
def Numberless (type : Bytes) : Prop :=
  (ascii "uint").isPrefixOf type = true ∧ stoul (type.drop 4) = none

/-- The value of a record throws: its type names no number, or is a schema whose decoder throws. -/
def RecordThrows (facts : SchemaFacts) (throws : Bytes → Bytes → Prop) (fields : List SchemaField)
    (entry : UInt8 × Bytes) : Prop :=
  ∃ field, fieldOf fields entry.1 = some field ∧
    (Numberless field.type ∨ facts.isNested field.type ∧ throws field.type entry.2)

/-- The object of the records, before it is validated. -/
def objectOf (facts : SchemaFacts) (nested : Bytes → Bytes → Decoded Json)
    (fields : List SchemaField) (records : List (UInt8 × Bytes)) : Decoded Json :=
  records.foldlM (fun object entry => decodeRecord facts nested fields object entry.1 entry.2)
    emptyObject

/-- The data of a schema, with a number of levels left, makes the decoder throw: after records that
are read comes one whose value throws and whose field has no value yet. -/
def Throws (lib : JsonLibrary) (facts : SchemaFacts) : ℕ → Bytes → Bytes → Prop
  | 0, _, _ => False
  | levels + 1, schema, data =>
    ∃ fields, facts.lookup schema = some fields ∧
      ∃ done entry rest, data = done.flatMap Tlv8.record ++ (Tlv8.record entry ++ rest) ∧
        Tlv8.Fit done ∧ entry.2.length < 256 ∧
        ∃ object, objectOf facts (decodeLevels lib facts levels) fields done = .ok object ∧
          (∀ field, fieldOf fields entry.1 = some field → object.member field.name = none) ∧
          RecordThrows facts (Throws lib facts levels) fields entry

theorem Numberless.ne {type : Bytes} (h : Numberless type) :
    type ≠ ascii "string" ∧ type ≠ ascii "bool" := by
  constructor
  · rintro rfl
    exact absurd h.1 (by decide)
  · rintro rfl
    exact absurd h.1 (by decide)

theorem Numberless.not_isNested {type : Bytes} (h : Numberless type) :
    ¬ facts.isNested type = true :=
  not_isNested_of_uint h.1

/-- The value of a record throws for these two reasons only. -/
theorem decodeValue_eq_threw_iff {throws : Bytes → Bytes → Prop} {type data : Bytes}
    (hnested : nested type data = .error .threw ↔ throws type data) :
    decodeValue facts nested type data = .error .threw ↔
      Numberless type ∨ facts.isNested type ∧ throws type data := by
  by_cases hschema : facts.isNested type = true
  · rw [decodeValue_nested hschema, hnested]
    refine ⟨fun h => .inr ⟨hschema, h⟩, ?_⟩
    rintro (h | h)
    · exact absurd hschema h.not_isNested
    · exact h.2
  · -- what is left are the builtin types
    have hiff : (Numberless type ∨ facts.isNested type ∧ throws type data) ↔ Numberless type :=
      or_iff_left fun h => hschema h.1
    rw [hiff]
    unfold decodeValue
    by_cases hstring : type = ascii "string"
    · rw [if_pos hstring]
      exact ⟨nofun, fun h => absurd hstring h.ne.1⟩
    by_cases hbool : type = ascii "bool"
    · rw [if_neg hstring, if_pos hbool]
      refine ⟨fun h => ?_, fun h => absurd hbool h.ne.2⟩
      split_ifs at h
      cases h
    rw [if_neg hstring, if_neg hbool]
    by_cases huint : (ascii "uint").isPrefixOf type = true
    · rw [if_pos huint]
      rcases hbits : stoul (type.drop 4) with _ | bits
      · exact ⟨fun _ => ⟨huint, hbits⟩, fun _ => rfl⟩
      · refine ⟨fun h => ?_, fun h => absurd (hbits.symm.trans h.2) (Option.some_ne_none _)⟩
        simp only at h
        split_ifs at h
        cases h
    · have hsome : ¬ (facts.lookup type).isSome = true := fun hsome =>
        hschema (isNested_iff.mpr ⟨hstring, hbool, huint, hsome⟩)
      rw [if_neg huint, if_neg hsome]
      exact ⟨nofun, fun h => absurd h.1 huint⟩

theorem addMember_eq_threw_iff {object : Json} {name : Bytes} {value : Decoded Json} :
    addMember object name value = .error .threw ↔
      object.member name = none ∧ value = .error .threw := by
  unfold addMember
  split_ifs with hthere
  · refine ⟨nofun, fun h => ?_⟩
    rw [h.1] at hthere
    cases hthere
  · rw [Option.not_isSome_iff_eq_none] at hthere
    cases value with
    | error failure =>
      change Except.error failure = Except.error DecodeFailure.threw ↔ _
      simp [hthere]
    | ok value =>
      change Except.ok (object.setMember name value) = Except.error DecodeFailure.threw ↔ _
      simp

/-- A record throws where its value does and its field has no value yet. -/
theorem decodeRecord_eq_threw_iff {throws : Bytes → Bytes → Prop}
    (hnested : ∀ type data, nested type data = .error .threw ↔ throws type data) (object : Json)
    (entry : UInt8 × Bytes) :
    decodeRecord facts nested fields object entry.1 entry.2 = .error .threw ↔
      (∀ field, fieldOf fields entry.1 = some field → object.member field.name = none) ∧
        RecordThrows facts throws fields entry := by
  rcases hfield : fieldOf fields entry.1 with _ | field
  · rw [decodeRecord_of_fieldOf_eq_none hfield]
    refine ⟨nofun, ?_⟩
    rintro ⟨-, field, hfield', -⟩
    exact absurd (hfield.symm.trans hfield') (by simp)
  · rw [decodeRecord_of_fieldOf hfield, addMember_eq_threw_iff,
      decodeValue_eq_threw_iff (hnested field.type entry.2)]
    constructor
    · rintro ⟨hnew, hthrows⟩
      refine ⟨?_, field, hfield, hthrows⟩
      rintro field' hfield'
      obtain rfl := Option.some.inj hfield'
      exact hnew
    · rintro ⟨hnew, field', hfield', hthrows⟩
      obtain rfl := Option.some.inj (hfield.symm.trans hfield')
      exact ⟨hnew field rfl, hthrows⟩

/-- What is read is validated, which does not throw. -/
def validated (lib : JsonLibrary) (facts : SchemaFacts) (schema : Bytes) (object : Json) :
    Decoded Json :=
  if validate lib facts schema object then .ok object else .error .rejected

theorem decodeLevels_of_lookup {levels : ℕ} {schema : Bytes}
    (hfields : facts.lookup schema = some fields) (data : Bytes) :
    decodeLevels lib facts (levels + 1) schema data =
      Tlv8.loop .rejected (decodeRecord facts (decodeLevels lib facts levels) fields) data.length
        emptyObject data >>= validated lib facts schema := by
  rw [decodeLevels, hfields]
  rfl

theorem bind_validated_eq_threw_iff {object : Decoded Json} {schema : Bytes} :
    object >>= validated lib facts schema = .error .threw ↔ object = .error .threw := by
  constructor
  · intro h
    rcases Tlv8.bind_eq_error h with h | ⟨object, -, h⟩
    · exact h
    · unfold validated at h
      split_ifs at h
      cases h
  · rintro rfl
    rfl

/-- **What throws** is data in which the records before the first one that does are read. -/
theorem decodeLevels_eq_threw_iff (levels : ℕ) (schema data : Bytes) :
    decodeLevels lib facts levels schema data = .error .threw ↔
      Throws lib facts levels schema data := by
  induction levels generalizing schema data with
  | zero => exact ⟨nofun, nofun⟩
  | succ levels ih =>
    rw [Throws]
    rcases hfields : facts.lookup schema with _ | fields
    · rw [decodeLevels, hfields]
      exact ⟨nofun, nofun⟩
    · rw [decodeLevels_of_lookup hfields, bind_validated_eq_threw_iff,
        Tlv8.loop_eq_error_iff _ _ le_rfl (by decide : DecodeFailure.threw ≠ .rejected)]
      simp only [decodeRecord_eq_threw_iff ih, Option.some.injEq, exists_eq_left']
      rfl

/-! ### All records -/

/-- Where no value throws, two members may be added in either order. -/
theorem addMember_comm (object : Json) (name name' : Bytes) {value value' : Decoded Json}
    (h : value ≠ .error .threw) (h' : value' ≠ .error .threw) :
    (addMember object name value >>= fun object => addMember object name' value') =
      addMember object name' value' >>= fun object => addMember object name value := by
  -- a rejected value rejects the object in either place
  have hrejected (object : Json) (name : Bytes) :
      addMember object name (.error .rejected) = .error .rejected := by
    unfold addMember
    split_ifs <;> rfl
  have hbind (object : Decoded Json) (hne : object ≠ .error .threw) :
      (object >>= fun _ => .error .rejected) = (.error .rejected : Decoded Json) := by
    rcases object with (_ | _) | _
    · rfl
    · exact absurd rfl hne
    · rfl
  have hthrew {object : Json} {name : Bytes} {value : Decoded Json} (h : value ≠ .error .threw) :
      addMember object name value ≠ .error .threw :=
    fun hthrew => h (addMember_eq_threw_iff.mp hthrew).2
  rcases value with (_ | _) | value
  · simp only [hrejected]
    exact (hbind _ (hthrew h')).symm
  · exact absurd rfl h
  rcases value' with (_ | _) | value'
  · simp only [hrejected]
    exact hbind _ (hthrew h)
  · exact absurd rfl h'
  cases object with
  | object members =>
    by_cases hname : name = name'
    · -- whichever comes first, the other finds the member there
      subst hname
      by_cases hthere : ((Json.object members).member name).isSome
      · simp only [addMember, if_pos hthere]
        rfl
      · simp only [addMember, if_neg hthere]
        change addMember (setMember (.object members) name value) name (.ok value') =
          addMember (setMember (.object members) name value') name (.ok value)
        simp [addMember, member_setMember]
    · -- two names: neither member is in the way of the other
      have hkept : ((setMember (.object members) name value).member name').isSome =
          ((Json.object members).member name').isSome := by
        rw [member_setMember, if_neg (Ne.symm hname)]
      have hkept' : ((setMember (.object members) name' value').member name).isSome =
          ((Json.object members).member name).isSome := by
        rw [member_setMember, if_neg hname]
      by_cases hthere : ((Json.object members).member name).isSome
      · by_cases hthere' : ((Json.object members).member name').isSome
        · simp only [addMember, if_pos hthere, if_pos hthere']
          rfl
        · simp only [addMember, if_pos hthere, if_neg hthere']
          change _ = addMember (setMember (.object members) name' value') name (.ok value)
          rw [addMember, hkept', if_pos hthere]
          rfl
      · by_cases hthere' : ((Json.object members).member name').isSome
        · simp only [addMember, if_neg hthere, if_pos hthere']
          change addMember (setMember (.object members) name value) name' (.ok value') = _
          rw [addMember, hkept, if_pos hthere']
          rfl
        · simp only [addMember, if_neg hthere, if_neg hthere']
          change addMember (setMember (.object members) name value) name' (.ok value') =
            addMember (setMember (.object members) name' value') name (.ok value)
          rw [addMember, addMember, hkept, hkept', if_neg hthere, if_neg hthere']
          exact congrArg Except.ok (setMember_comm hname ..)
  | _ => rfl

/-- Two records of which none throws give the same in either order. -/
theorem decodeRecord_comm {throws : Bytes → Bytes → Prop}
    (hnested : ∀ type data, nested type data = .error .threw ↔ throws type data)
    {entry entry' : UInt8 × Bytes} (h : ¬ RecordThrows facts throws fields entry)
    (h' : ¬ RecordThrows facts throws fields entry') (object : Json) :
    (decodeRecord facts nested fields object entry.1 entry.2 >>=
        fun object => decodeRecord facts nested fields object entry'.1 entry'.2) =
      decodeRecord facts nested fields object entry'.1 entry'.2 >>=
        fun object => decodeRecord facts nested fields object entry.1 entry.2 := by
  have hvalue {field : SchemaField} {entry : UInt8 × Bytes}
      (h : ¬ RecordThrows facts throws fields entry)
        (hfield : fieldOf fields entry.1 = some field) :
      decodeValue facts nested field.type entry.2 ≠ .error .threw := by
    intro hthrew
    exact h ⟨field, hfield, (decodeValue_eq_threw_iff (hnested ..)).mp hthrew⟩
  rcases hfield : fieldOf fields entry.1 with _ | field
  · simp only [decodeRecord_of_fieldOf_eq_none hfield]
    exact (bind_pure _).symm
  rcases hfield' : fieldOf fields entry'.1 with _ | field'
  · simp only [decodeRecord_of_fieldOf_eq_none hfield']
    exact bind_pure _
  simp only [decodeRecord_of_fieldOf hfield, decodeRecord_of_fieldOf hfield']
  exact addMember_comm object field.name field'.name (hvalue h hfield) (hvalue h' hfield')

theorem objectOf_perm {throws : Bytes → Bytes → Prop}
    (hnested : ∀ type data, nested type data = .error .threw ↔ throws type data)
    {records records' : List (UInt8 × Bytes)} (hperm : records.Perm records')
    (h : ∀ entry ∈ records, ¬ RecordThrows facts throws fields entry) :
    objectOf facts nested fields records = objectOf facts nested fields records' :=
  Tlv8.foldlM_perm hperm (fun entry hentry entry' hentry' object =>
    decodeRecord_comm hnested (h entry hentry) (h entry' hentry') object) emptyObject

theorem objectOf_append (records records' : List (UInt8 × Bytes)) :
    objectOf facts nested fields (records ++ records') =
      objectOf facts nested fields records >>= fun object =>
        records'.foldlM (fun object entry =>
          decodeRecord facts nested fields object entry.1 entry.2) object := by
  rw [objectOf, List.foldlM_append]
  rfl

theorem foldlM_of_isUnknown {records : List (UInt8 × Bytes)}
    (h : ∀ entry ∈ records, IsUnknown fields entry.1) (object : Json) :
    records.foldlM (fun object entry =>
      decodeRecord facts nested fields object entry.1 entry.2) object = .ok object := by
  induction records with
  | nil => rfl
  | cons entry records ih =>
    rw [List.forall_mem_cons] at h
    rw [List.foldlM_cons, decodeRecord_of_fieldOf_eq_none h.1.fieldOf_eq_none]
    exact ih h.2

theorem objectOf_insert {before inserted after : List (UInt8 × Bytes)}
    (h : ∀ entry ∈ inserted, IsUnknown fields entry.1) :
    objectOf facts nested fields (before ++ inserted ++ after) =
      objectOf facts nested fields (before ++ after) := by
  rw [objectOf_append, objectOf_append, objectOf_append]
  rcases objectOf facts nested fields before with failure | object
  · rfl
  · change (inserted.foldlM _ object >>= fun object => _) = _
    rw [foldlM_of_isUnknown h]

/-- Where no record throws, their object does not. -/
theorem objectOf_ne_threw {throws : Bytes → Bytes → Prop}
    (hnested : ∀ type data, nested type data = .error .threw ↔ throws type data)
    {records : List (UInt8 × Bytes)}
    (h : ∀ entry ∈ records, ¬ RecordThrows facts throws fields entry) :
    objectOf facts nested fields records ≠ .error .threw := by
  induction records using List.reverseRecOn with
  | nil => exact nofun
  | append_singleton records entry ih =>
    rw [objectOf_append]
    intro hthrew
    rcases Tlv8.bind_eq_error hthrew with hthrew | ⟨object, -, hthrew⟩
    · exact ih (fun entry hmem => h entry (List.mem_append_left _ hmem)) hthrew
    · rw [List.foldlM_cons] at hthrew
      rcases Tlv8.bind_eq_error hthrew with hthrew | ⟨object', -, hthrew⟩
      · rw [decodeRecord_eq_threw_iff hnested] at hthrew
        exact h entry (List.mem_append_right _ (List.mem_singleton_self _)) hthrew.2
      · cases hthrew

/-- The decoder on records written one after the other. -/
theorem decodeLevels_records {levels : ℕ} {schema : Bytes} {records : List (UInt8 × Bytes)}
    (hfields : facts.lookup schema = some fields) (hfit : Tlv8.Fit records) :
    decodeLevels lib facts (levels + 1) schema (records.flatMap Tlv8.record) =
      objectOf facts (decodeLevels lib facts levels) fields records >>=
        validated lib facts schema := by
  have hle : (records.flatMap Tlv8.record ++ []).length ≤ (records.flatMap Tlv8.record).length := by
    rw [List.append_nil]
  obtain ⟨turns, -, hloop⟩ := Tlv8.loop_flatMap_record DecodeFailure.rejected
    (decodeRecord facts (decodeLevels lib facts levels) fields) emptyObject [] hfit hle
  rw [List.append_nil] at hloop
  rw [decodeLevels_of_lookup hfields, hloop, objectOf]
  refine congrArg (· >>= validated lib facts schema) ?_
  cases turns <;> exact bind_pure _

theorem decodeLevels_truncated {levels : ℕ} {schema last : Bytes} {records : List (UInt8 × Bytes)}
    (hfields : facts.lookup schema = some fields) (hfit : Tlv8.Fit records)
    (hlast : Tlv8.Truncated last) :
    decodeLevels lib facts (levels + 1) schema (records.flatMap Tlv8.record ++ last) =
      objectOf facts (decodeLevels lib facts levels) fields records >>=
        fun _ => .error .rejected := by
  obtain ⟨turns, hturns, hloop⟩ := Tlv8.loop_flatMap_record DecodeFailure.rejected
    (decodeRecord facts (decodeLevels lib facts levels) fields) emptyObject last hfit le_rfl
  rw [decodeLevels_of_lookup hfields, hloop, bind_assoc, objectOf]
  refine congrArg _ (funext fun object => ?_)
  rw [Tlv8.loop_truncated hlast hturns]
  rfl

/-! ### The condition -/

/-- A top-level record whose value throws. -/
def ThrowingRecord (lib : JsonLibrary) (facts : SchemaFacts) (schema : Bytes)
    (entry : UInt8 × Bytes) : Prop :=
  ∃ fields, facts.lookup schema = some fields ∧
    RecordThrows facts (Throws lib facts 32) fields entry

/-- Through at most so many schemas the type leads to one that names no number. -/
def Reaches (facts : SchemaFacts) : ℕ → Bytes → Prop
  | 0, type => Numberless type
  | levels + 1, type =>
    Numberless type ∨ facts.isNested type ∧ ∃ fields, facts.lookup type = some fields ∧
      ∃ id field, fieldOf fields id = some field ∧ Reaches facts levels field.type

theorem Reaches.numberless_or_isNested {levels : ℕ} {type : Bytes} (h : Reaches facts levels type) :
    Numberless type ∨ facts.isNested type := by
  cases levels with
  | zero => exact .inl h
  | succ levels => exact h.imp_right And.left

theorem RecordThrows.reaches {levels : ℕ} {entry : UInt8 × Bytes}
    (h : RecordThrows facts (Throws lib facts levels) fields entry) :
    ∃ field, fieldOf fields entry.1 = some field ∧ Reaches facts levels field.type := by
  induction levels generalizing fields entry with
  | zero =>
    obtain ⟨field, hfield, hnumberless | ⟨-, hthrows⟩⟩ := h
    · exact ⟨field, hfield, hnumberless⟩
    · cases hthrows
  | succ levels ih =>
    obtain ⟨field, hfield, hnumberless | ⟨hnested, hthrows⟩⟩ := h
    · exact ⟨field, hfield, .inl hnumberless⟩
    · obtain ⟨fields', hfields', done, entry', rest, -, -, -, object, -, -, hentry'⟩ := hthrows
      obtain ⟨field', hfield', hreaches⟩ := ih hentry'
      exact ⟨field, hfield, .inr ⟨hnested, fields', hfields', entry'.1, field', hfield', hreaches⟩⟩

/-- For a type that leads to one that names no number there is data that throws: one record in the
other. -/
theorem Reaches.exists_data {levels : ℕ} {type : Bytes} (hlevels : levels ≤ 127)
    (h : Reaches facts levels type) :
    ∃ data : Bytes, data.length ≤ 2 * levels ∧
      (Numberless type ∨ facts.isNested type ∧ Throws lib facts levels type data) := by
  induction levels generalizing type with
  | zero => exact ⟨[], le_rfl, .inl h⟩
  | succ levels ih =>
    obtain hnumberless | ⟨hnested, fields, hfields, id, field, hfield, hreaches⟩ := h
    · exact ⟨[], Nat.zero_le _, .inl hnumberless⟩
    · obtain ⟨data, hlength, hthrows⟩ := ih (by omega) hreaches
      have hfit : data.length < 256 := by omega
      refine ⟨Tlv8.record (id, data), ?_,
        .inr ⟨hnested, fields, hfields, [], (id, data), [], ?_, ?_,
        hfit, emptyObject, rfl, ?_, field, hfield, hthrows⟩⟩
      · have hrecord : (Tlv8.record (id, data)).length = data.length + 2 := rfl
        omega
      · exact (List.append_nil _).symm
      · exact List.forall_mem_nil _
      · intro field' _
        rfl

/-- The ids that a throwing record may have are those of the fields whose types lead to one that
names no number. -/
theorem exists_throwingRecord_iff {schema : Bytes} {id : UInt8} :
    (∃ data : Bytes, data.length < 256 ∧ ThrowingRecord lib facts schema (id, data)) ↔
      ∃ fields, facts.lookup schema = some fields ∧
        ∃ field, fieldOf fields id = some field ∧ Reaches facts 32 field.type := by
  constructor
  · rintro ⟨data, -, fields, hfields, hthrows⟩
    exact ⟨fields, hfields, hthrows.reaches⟩
  · rintro ⟨fields, hfields, field, hfield, hreaches⟩
    obtain ⟨data, hlength, hthrows⟩ := hreaches.exists_data (by decide)
    exact ⟨data, by omega, fields, hfields, field, hfield, hthrows⟩

/-! ### Order -/

/-- The schema has none of these records. -/
def Unknown (facts : SchemaFacts) (schema : Bytes) (records : List (UInt8 × Bytes)) : Prop :=
  ∀ fields, facts.lookup schema = some fields → ∀ entry ∈ records, IsUnknown fields entry.1

/-- The order of the records does not matter, nor do records that the schema does not have: the
decoder returns, the same object or none for every permutation and with or without unknown records
at any boundary. Where another record follows that is cut, it returns none. -/
structure OrderInsensitive (lib : JsonLibrary) (facts : SchemaFacts) (schema : Bytes)
    (records : List (UInt8 × Bytes)) : Prop where
  returns : decodeTlv8 lib facts schema (records.flatMap Tlv8.record) ≠ .error .threw
  permuted : ∀ records', records.Perm records' →
    decodeTlv8 lib facts schema (records'.flatMap Tlv8.record) =
      decodeTlv8 lib facts schema (records.flatMap Tlv8.record)
  inserted : ∀ before inserted after, records = before ++ after → Tlv8.Fit inserted →
    Unknown facts schema inserted →
    decodeTlv8 lib facts schema ((before ++ inserted ++ after).flatMap Tlv8.record) =
      decodeTlv8 lib facts schema (records.flatMap Tlv8.record)
  removed : ∀ before removed after, records = before ++ removed ++ after →
    Unknown facts schema removed →
    decodeTlv8 lib facts schema ((before ++ after).flatMap Tlv8.record) =
      decodeTlv8 lib facts schema (records.flatMap Tlv8.record)
  truncated : ∀ last, Tlv8.Truncated last →
    decodeTlv8 lib facts schema (records.flatMap Tlv8.record ++ last) = .error .rejected

/-- A schema that is not there has no records. -/
theorem decodeTlv8_of_lookup_eq_none {schema : Bytes} (h : facts.lookup schema = none)
    (data : Bytes) : decodeTlv8 lib facts schema data = .error .rejected := by
  rw [decodeTlv8, decodeLevels, h]

theorem decodeTlv8_records {schema : Bytes} {records : List (UInt8 × Bytes)}
    (hfields : facts.lookup schema = some fields) (hfit : Tlv8.Fit records) :
    decodeTlv8 lib facts schema (records.flatMap Tlv8.record) =
      objectOf facts (decodeLevels lib facts 32) fields records >>= validated lib facts schema :=
  decodeLevels_records hfields hfit

theorem decodeTlv8_insert {schema : Bytes} {before inserted after : List (UInt8 × Bytes)}
    (hfit : Tlv8.Fit (before ++ inserted ++ after)) (h : Unknown facts schema inserted) :
    decodeTlv8 lib facts schema ((before ++ inserted ++ after).flatMap Tlv8.record) =
      decodeTlv8 lib facts schema ((before ++ after).flatMap Tlv8.record) := by
  rcases hfields : facts.lookup schema with _ | fields
  · rw [decodeTlv8_of_lookup_eq_none hfields, decodeTlv8_of_lookup_eq_none hfields]
  · have hfit' : Tlv8.Fit (before ++ after) := by
      intro entry hmem
      apply hfit entry
      simp only [List.mem_append] at hmem ⊢
      tauto
    rw [decodeTlv8_records hfields hfit, decodeTlv8_records hfields hfit',
      objectOf_insert (h fields hfields)]

/-- Records of which none throws may come in any order. -/
theorem orderInsensitive_of_forall {schema : Bytes} {records : List (UInt8 × Bytes)}
    (hfit : Tlv8.Fit records) (h : ∀ entry ∈ records, ¬ ThrowingRecord lib facts schema entry) :
    OrderInsensitive lib facts schema records := by
  have hinserted (before inserted after : List (UInt8 × Bytes)) (heq : records = before ++ after)
      (hfit' : Tlv8.Fit inserted) : Tlv8.Fit (before ++ inserted ++ after) := by
    subst heq
    intro entry hmem
    rw [List.append_assoc, List.mem_append, List.mem_append] at hmem
    rcases hmem with hmem | hmem | hmem
    · exact hfit entry (List.mem_append_left _ hmem)
    · exact hfit' entry hmem
    · exact hfit entry (List.mem_append_right _ hmem)
  rcases hfields : facts.lookup schema with _ | fields
  · constructor
    all_goals simp only [decodeTlv8_of_lookup_eq_none hfields]
    · exact nofun
    all_goals intros; trivial
  -- no record throws here, so the fold over the records does not either
  have hclean : ∀ entry ∈ records, ¬ RecordThrows facts (Throws lib facts 32) fields entry :=
    fun entry hmem hthrows => h entry hmem ⟨fields, hfields, hthrows⟩
  have hobject := objectOf_ne_threw (decodeLevels_eq_threw_iff 32) hclean
  constructor
  case returns =>
    rw [decodeTlv8_records hfields hfit, Ne, bind_validated_eq_threw_iff]
    exact hobject
  case permuted =>
    intro records' hperm
    have hfit' : Tlv8.Fit records' := fun entry hmem => hfit entry (hperm.mem_iff.mpr hmem)
    rw [decodeTlv8_records hfields hfit, decodeTlv8_records hfields hfit',
      objectOf_perm (decodeLevels_eq_threw_iff 32) hperm hclean]
  case inserted =>
    intro before inserted after heq hfit' hunknown
    rw [heq]
    exact decodeTlv8_insert (hinserted before inserted after heq hfit') hunknown
  case removed =>
    rintro before removed after rfl hunknown
    exact (decodeTlv8_insert hfit hunknown).symm
  case truncated =>
    intro last hlast
    rw [decodeTlv8, decodeLevels_truncated hfields hfit hlast]
    rcases hread : objectOf facts (decodeLevels lib facts 32) fields records with (_ | _) | object
    · rfl
    · exact absurd hread hobject
    · rfl

/-- With a throwing record in the first place the decoder throws. -/
theorem decodeTlv8_cons_of_throwingRecord {schema : Bytes} {entry : UInt8 × Bytes}
    {records : List (UInt8 × Bytes)} (hfit : Tlv8.Fit (entry :: records))
    (h : ThrowingRecord lib facts schema entry) :
    decodeTlv8 lib facts schema ((entry :: records).flatMap Tlv8.record) = .error .threw := by
  obtain ⟨fields, hfields, hthrows⟩ := h
  have hentry : decodeRecord facts (decodeLevels lib facts 32) fields emptyObject entry.1 entry.2 =
      .error .threw := by
    rw [decodeRecord_eq_threw_iff (decodeLevels_eq_threw_iff 32)]
    exact ⟨fun _ _ => rfl, hthrows⟩
  rw [decodeTlv8_records hfields hfit, objectOf, List.foldlM_cons, hentry]
  rfl

/-- **The order of the records** at the top level does not matter, nor do records that the schema
does not have, exactly if no record throws. Such records are those of the fields whose types lead
to one that begins with `uint` and names no number. -/
theorem decodeTlv8_order_iff (lib : JsonLibrary) (facts : SchemaFacts) (schema : Bytes)
    {records : List (UInt8 × Bytes)} (hfit : Tlv8.Fit records) :
    (OrderInsensitive lib facts schema records ↔
      ∀ entry ∈ records, ¬ ThrowingRecord lib facts schema entry) ∧
    ∀ id, (∃ data : Bytes, data.length < 256 ∧ ThrowingRecord lib facts schema (id, data)) ↔
      ∃ fields, facts.lookup schema = some fields ∧
        ∃ field, fieldOf fields id = some field ∧ Reaches facts 32 field.type := by
  refine ⟨⟨fun h entry hmem hthrows => ?_, orderInsensitive_of_forall hfit⟩,
    fun _ => exists_throwingRecord_iff⟩
  -- brought to the first place, the record throws
  have hperm : records.Perm (entry :: records.erase entry) := List.perm_cons_erase hmem
  have hfit' : Tlv8.Fit (entry :: records.erase entry) :=
    fun entry hmem => hfit entry (hperm.mem_iff.mpr hmem)
  apply h.returns
  rw [← h.permuted _ hperm]
  exact decodeTlv8_cons_of_throwingRecord hfit' hthrows

/-! ### A schema named `uintPair` -/

/-- A schema with a number, a flag and a pair. -/
def sampleFacts : SchemaFacts :=
  [(ascii "Sample", [
    { id := 1, name := ascii "count", type := ascii "uint16" },
    { id := 2, name := ascii "enabled", type := ascii "bool" },
    { id := 3, name := ascii "pair", type := ascii "uintPair" }]),
   (ascii "uintPair", [
    { id := 1, name := ascii "first", type := ascii "uint8" },
    { id := 2, name := ascii "second", type := ascii "uint8" }])]

def sampleObject : Json :=
  .object [(ascii "count", .unsigned 7), (ascii "enabled", .boolean true)]

def sampleTexts : List (Bytes × Json) :=
  [(ascii "\x7b\"count\":7,\"enabled\":true\x7d", sampleObject)]

theorem decodeTlv8_order_sample :
    OrderInsensitive (.dumping sampleTexts) sampleFacts (ascii "Sample") [(1, [0, 7]), (2, [1])] ∧
      decodeTlv8 (.dumping sampleTexts) sampleFacts (ascii "Sample") [1, 2, 0, 7, 2, 1, 1] =
        .ok sampleObject := by
  have hfit : Tlv8.Fit [(1, [0, 7]), (2, [1])] := by simp [Tlv8.Fit]
  refine ⟨(decodeTlv8_order_iff _ _ _ hfit).1.mpr fun entry hmem hthrows => ?_, rfl⟩
  obtain ⟨fields, hfields, hthrows⟩ := hthrows
  obtain rfl := Option.some.inj (hfields.symm.trans (List.lookup_cons_self ..))
  obtain ⟨field, hfield, hreaches⟩ := hthrows.reaches
  -- the types of the two fields are numbers or no integers at all
  have htype : field.type = ascii "uint16" ∨ field.type = ascii "bool" := by
    rcases List.mem_cons.mp hmem with rfl | hmem
    · exact .inl (congrArg _ (Option.some.inj hfield)).symm
    · obtain rfl := List.mem_singleton.mp hmem
      exact .inr (congrArg _ (Option.some.inj hfield)).symm
  rcases hreaches.numberless_or_isNested with hnumberless | hnested
  · rcases htype with htype | htype
    · exact absurd (htype ▸ hnumberless.2) (by decide)
    · exact hnumberless.ne.2 htype
  · rcases htype with htype | htype
    · exact not_isNested_of_uint (by rw [htype]; decide) hnested
    · exact (isNested_iff.mp hnested).2.1 htype

/-- **The order matters** where one record is not a flag and another one is of a schema named
`uintPair`: the decoder rejects the first or throws at the second. -/
theorem not_orderInsensitive_uintPair :
    decodeTlv8 (.dumping sampleTexts) sampleFacts (ascii "Sample") [2, 1, 7, 3, 3, 1, 1, 5] =
        .error .rejected ∧
      decodeTlv8 (.dumping sampleTexts) sampleFacts (ascii "Sample") [3, 3, 1, 1, 5, 2, 1, 7] =
        .error .threw ∧
      ¬ OrderInsensitive (.dumping sampleTexts) sampleFacts (ascii "Sample")
        [(2, [7]), (3, [1, 1, 5])] := by
  have hrejected : decodeTlv8 (.dumping sampleTexts) sampleFacts (ascii "Sample")
      [2, 1, 7, 3, 3, 1, 1, 5] = .error .rejected := rfl
  have hthrew : decodeTlv8 (.dumping sampleTexts) sampleFacts (ascii "Sample")
      [3, 3, 1, 1, 5, 2, 1, 7] = .error .threw := rfl
  refine ⟨hrejected, hthrew, fun h => ?_⟩
  have hsame := h.permuted [(3, [1, 1, 5]), (2, [7])] (List.Perm.swap ..)
  exact absurd (hthrew.symm.trans (hsame.trans hrejected)) (by simp)

end SchemaObjectCodec

end Axtp
