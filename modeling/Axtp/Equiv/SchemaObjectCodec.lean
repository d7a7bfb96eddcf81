/-
  What the TLV8 encoder writes is read back by the decoder.

  The encoder writes one record for each field that is there, in the order of the ids
  (`Encodes`), and the decoder reads the projected values from them (`Encodes.decode`).
  The projection is valid if the schemas are self-contained
  (`validateLevels_project`).
-/
import Axtp.Equiv.SchemaProjection

namespace Axtp

namespace SchemaObjectCodec

open Json SchemaFacts

variable {lib : JsonLibrary} {facts : SchemaFacts} {fields : List SchemaField}

/-! ### The loop of the encoder -/

variable {object : Json} {encodeNested : Bytes → Json → Option Bytes}
  {decodeNested : Bytes → Bytes → Decoded Json}

/-- The records that the loop writes for the fields. -/
inductive Encodes (facts : SchemaFacts) (encodeNested : Bytes → Json → Option Bytes)
  (object : Json) :
    List SchemaField → List (UInt8 × Bytes) → Prop
  | nil : Encodes facts encodeNested object [] []
  | absent {field : SchemaField} {fields : List SchemaField} {records : List (UInt8 × Bytes)}
      (habsent : object.member field.name = none)
      (hrest : Encodes facts encodeNested object fields records) :
      Encodes facts encodeNested object (field :: fields) records
  | written {field : SchemaField} {fields : List SchemaField} {records : List (UInt8 × Bytes)}
      {value : Json} {data : Bytes} (hvalue : object.member field.name = some value)
      (hdata : encodeValue facts encodeNested field.type value = some data)
      (hid : 1 ≤ field.id ∧ field.id ≤ 254) (hlength : data.length < 256)
      (hrest : Encodes facts encodeNested object fields records) :
      Encodes facts encodeNested object (field :: fields) ((UInt8.ofNat field.id, data) :: records)

section

variable {records : List (UInt8 × Bytes)}

theorem Encodes.fit (h : Encodes facts encodeNested object fields records) : Tlv8.Fit records := by
  induction h with
  | nil => simp [Tlv8.Fit]
  | absent habsent hrest ih => exact ih
  | written hvalue hdata hid hlength hrest ih => exact List.forall_mem_cons.mpr ⟨hlength, ih⟩

theorem toNat_id {id : ℕ} (h : 1 ≤ id ∧ id ≤ 254) : (UInt8.ofNat id).toNat = id := by
  rw [UInt8.toNat_ofNat']
  omega

theorem Encodes.ids (h : Encodes facts encodeNested object fields records) :
    (records.map fun entry => entry.1.toNat).Sublist (fields.map SchemaField.id) := by
  induction h with
  | nil => exact List.Sublist.slnil
  | absent habsent hrest ih => exact ih.cons _
  | written hvalue hdata hid hlength hrest ih =>
    rw [List.map_cons, List.map_cons, toNat_id hid]
    exact ih.cons_cons _

/-- Each record is that of a field. -/
theorem Encodes.of_mem (h : Encodes facts encodeNested object fields records) :
    ∀ entry ∈ records, ∃ field ∈ fields, ∃ value, field.id = entry.1.toNat ∧
      object.member field.name = some value ∧
      encodeValue facts encodeNested field.type value = some entry.2 := by
  induction h with
  | nil => simp
  | absent habsent hrest ih =>
    intro entry hmem
    obtain ⟨field, hfield, hrecord⟩ := ih entry hmem
    exact ⟨field, List.mem_cons_of_mem _ hfield, hrecord⟩
  | @written field fields records value data hvalue hdata hid hlength hrest ih =>
    intro entry hmem
    rcases List.mem_cons.mp hmem with rfl | hmem
    · exact ⟨field, List.mem_cons_self .., value, (toNat_id hid).symm, hvalue, hdata⟩
    · obtain ⟨field, hfield, hrecord⟩ := ih entry hmem
      exact ⟨field, List.mem_cons_of_mem _ hfield, hrecord⟩

/-- The fields that are there are encoded. -/
theorem Encodes.value (h : Encodes facts encodeNested object fields records) :
    ∀ field ∈ fields, ∀ value, object.member field.name = some value →
      ∃ data, encodeValue facts encodeNested field.type value = some data := by
  induction h with
  | nil => simp
  | absent habsent hrest ih =>
    rw [List.forall_mem_cons]
    refine ⟨fun value hvalue => ?_, ih⟩
    rw [habsent] at hvalue
    cases hvalue
  | @written field fields records value data hvalue hdata hid hlength hrest ih =>
    rw [List.forall_mem_cons]
    refine ⟨fun value' hvalue' => ?_, ih⟩
    rw [hvalue] at hvalue'
    exact ⟨data, Option.some.inj hvalue' ▸ hdata⟩

theorem find?_of_notMem {key : Bytes} (h : key ∉ fields.map SchemaField.name) :
    (fields.find? fun field => field.name = key) = none := by
  rw [List.find?_eq_none]
  intro field hmem heq
  exact h (List.mem_map.mpr ⟨field, hmem, of_decide_eq_true heq⟩)

/-- **The decoder on these records**: it adds the projected value of each field that is there. -/
theorem Encodes.decode {all : List SchemaField} (hids : (all.map SchemaField.id).Nodup)
    (h : Encodes facts encodeNested object fields records) (hall : ∀ field ∈ fields, field ∈ all)
    (hnames : (fields.map SchemaField.name).Nodup)
    (hvalue : ∀ field ∈ fields, ∀ value data, object.member field.name = some value →
      encodeValue facts encodeNested field.type value = some data →
      decodeValue facts decodeNested field.type data = .ok (projectValue facts field.type value))
    (members : List (Bytes × Json)) (hkeys : (members.map Prod.fst).Pairwise KeyLt)
    (hfree : ∀ field ∈ fields, members.lookup field.name = none) :
    ∃ members', records.foldlM (fun object entry =>
        decodeRecord facts decodeNested all object entry.1 entry.2) (.object members) =
          .ok (.object members') ∧
      (members'.map Prod.fst).Pairwise KeyLt ∧
      ∀ key, members'.lookup key =
        match fields.find? fun field => field.name = key with
        | none => members.lookup key
        | some field => (object.member key).map (projectValue facts field.type) := by
  induction h generalizing members with
  | nil => exact ⟨members, rfl, hkeys, fun key => rfl⟩
  | @absent field fields records habsent hrest ih =>
    rw [List.forall_mem_cons] at hall hvalue hfree
    rw [List.map_cons, List.nodup_cons] at hnames
    obtain ⟨members', hfold, hkeys', hlookup⟩ :=
      ih hall.2 hnames.2 hvalue.2 members hkeys hfree.2
    refine ⟨members', hfold, hkeys', fun key => ?_⟩
    rw [hlookup key]
    by_cases hkey : field.name = key
    · subst hkey
      rw [find?_of_notMem hnames.1, List.find?_cons_of_pos (by simp)]
      simp only [habsent, hfree.1, Option.map_none]
    · rw [List.find?_cons_of_neg (by simpa using hkey)]
  | @written field fields records value data hmember hdata hid hlength hrest ih =>
    rw [List.forall_mem_cons] at hall hvalue hfree
    rw [List.map_cons, List.nodup_cons] at hnames
    have hne (other : SchemaField) (hother : other ∈ fields) : other.name ≠ field.name :=
      fun heq => hnames.1 (List.mem_map.mpr ⟨other, hother, heq⟩)
    have hstep : decodeRecord facts decodeNested all (.object members) (UInt8.ofNat field.id) data =
        .ok (.object (insertMember field.name (projectValue facts field.type value) members)) := by
      have hfound := find?_id hids hall.1
      have hnone : (Json.object members).member field.name = none := hfree.1
      rw [decodeRecord, toNat_id hid, hfound]
      simp only [hnone, hvalue.1 value data hmember hdata]
      rfl
    obtain ⟨members', hfold, hkeys', hlookup⟩ := ih hall.2 hnames.2 hvalue.2 _
      (pairwise_insertMember hkeys) fun other hother => by
        rw [lookup_insertMember, if_neg (hne other hother)]
        exact hfree.2 other hother
    refine ⟨members', ?_, hkeys', fun key => ?_⟩
    · rw [List.foldlM_cons, hstep]
      exact hfold
    · rw [hlookup key]
      by_cases hkey : field.name = key
      · subst hkey
        rw [find?_of_notMem hnames.1, List.find?_cons_of_pos (by simp)]
        simp only [lookup_insertMember, if_pos, hmember, Option.map_some]
      · rw [List.find?_cons_of_neg (by simpa using hkey), lookup_insertMember,
          if_neg (Ne.symm hkey)]

end

theorem mem_sortFields {field : SchemaField} : field ∈ sortFields fields ↔ field ∈ fields :=
  List.mem_insertionSort ById

theorem nodup_sortFields {β : Type} {f : SchemaField → β} (h : (fields.map f).Nodup) :
    ((sortFields fields).map f).Nodup :=
  ((List.perm_insertionSort ById fields).map f).nodup_iff.mpr h

theorem pairwise_sortFields (hids : (fields.map SchemaField.id).Nodup) :
    ((sortFields fields).map SchemaField.id).Pairwise (· < ·) := by
  have hle : (sortFields fields).Pairwise ById := List.pairwise_insertionSort ById fields
  have hne := nodup_sortFields hids
  rw [List.Nodup, List.pairwise_map] at hne
  rw [List.pairwise_map]
  refine List.Pairwise.imp ?_ (hle.and hne)
  intro a b hab
  exact lt_of_le_of_ne hab.1 hab.2

end SchemaObjectCodec

end Axtp
