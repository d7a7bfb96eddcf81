/-
  What a schema keeps of an object, and which schema facts are well formed.

  `restrict` drops the members that no field of the schema has, also in the objects of
  nested schemas. `Increasing` says of a TLV8 form that the ids of its records increase,
  and so do those of the records in a nested object.
-/
import Axtp.Wire.SchemaObjectCodec

namespace Axtp

namespace SchemaFacts

/-- A type that TLV8 writes as an object of a schema. -/
def isNested (facts : SchemaFacts) (type : Bytes) : Bool :=
  type ≠ ascii "string" ∧ type ≠ ascii "bool" ∧ ¬ (ascii "uint").isPrefixOf type ∧
    (facts.lookup type).isSome

mutual

/-- The members of an object that the fields of a schema have. -/
def restrict (facts : SchemaFacts) (schema : Bytes) : Json → Json
  | .object members => .object (restrictMembers facts ((facts.lookup schema).getD []) members)
  | value => value

def restrictMembers (facts : SchemaFacts) (fields : List SchemaField) :
    List (Bytes × Json) → List (Bytes × Json)
  | [] => []
  | (key, value) :: members =>
    match fields.find? fun field => field.name = key with
    | none => restrictMembers facts fields members
    | some field =>
      (key, if facts.isNested field.type then restrict facts field.type value else value) ::
        restrictMembers facts fields members

end

/-- In each schema the names and the ids differ, the ids are from 1 to 254, and the unsigned integer
types have 8, 16, 32 or 64 bits. -/
structure Proper (facts : SchemaFacts) : Prop where
  names : ∀ {schema fields}, facts.lookup schema = some fields →
    (fields.map SchemaField.name).Nodup
  ids : ∀ {schema fields}, facts.lookup schema = some fields → (fields.map SchemaField.id).Nodup
  range : ∀ {schema fields}, facts.lookup schema = some fields →
    ∀ field ∈ fields, 1 ≤ field.id ∧ field.id ≤ 254
  integers : ∀ {schema fields}, facts.lookup schema = some fields →
    ∀ field ∈ fields, (ascii "uint").isPrefixOf field.type = true →
      ∃ width ∈ [(1, ascii "uint8"), (2, ascii "uint16"), (4, ascii "uint32"), (8, ascii "uint64")],
        field.type = width.2

/-- The records of a TLV8 object have increasing ids, at every level of nesting. -/
inductive Increasing (facts : SchemaFacts) : Bytes → Bytes → Prop
  | intro {schema : Bytes} {fields : List SchemaField} {records : List (UInt8 × Bytes)}
      (hfields : facts.lookup schema = some fields) (hfit : Tlv8.Fit records)
      (hids : (records.map Prod.fst).Pairwise (· < ·))
      (hnested : ∀ entry ∈ records, ∀ field ∈ fields, field.id = entry.1.toNat →
        facts.isNested field.type = true → Increasing facts field.type entry.2) :
      Increasing facts schema (records.flatMap Tlv8.record)

end SchemaFacts

end Axtp
