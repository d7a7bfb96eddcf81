/-
  The round trips of TLV8 objects.

  An object that was decoded has nothing to drop and is encoded again, in no more bytes
  (`of_decodeLevels`). With what is known of the encoder this gives both round trips
  (`tlv8_roundTrip`); the first one needs self-contained schemas
  (`not_roundTrips_open`).
-/
import Axtp.Equiv.SchemaObjectCodec
import Axtp.Json.Lawful

namespace Axtp

namespace SchemaObjectCodec

open Json SchemaFacts

variable {lib : JsonLibrary} {facts : SchemaFacts} {fields : List SchemaField} {object : Json}
  {encodeNested : Bytes → Json → Option Bytes} {decodeNested : Bytes → Bytes → Decoded Json}

/-! ### What was decoded is encoded again -/

theorem map_eq_ok_iff {x : Decoded Json} {f : Json → Json} {value : Json} :
    x.map f = .ok value ↔ ∃ a, x = .ok a ∧ f a = value := by
  cases x with
  | error failure => simp [Except.map]
  | ok a => simp [Except.map]

/-- A value that was read: it has nothing to drop, and it is written as `bytes`. -/
structure Reread (facts : SchemaFacts) (encodeNested : Bytes → Json → Option Bytes) (type : Bytes)
    (value : Json) (bytes : Bytes) : Prop where
  ordered : value.isOrdered = true
  projected : projectValue facts type value = value
  encoded : encodeValue facts encodeNested type value = some bytes
  increasing : facts.isNested type = true → Increasing facts type bytes

/-- The bytes that a field takes, if it is there. -/
def cost (facts : SchemaFacts) (encodeNested : Bytes → Json → Option Bytes) (object : Json)
    (field : SchemaField) : ℕ :=
  match (object.member field.name).bind (encodeValue facts encodeNested field.type) with
  | none => 0
  | some bytes => bytes.length + 2

theorem Encodes.length {records : List (UInt8 × Bytes)}
    (h : Encodes facts encodeNested object fields records) :
    (records.flatMap Tlv8.record).length =
      (fields.map (cost facts encodeNested object)).sum := by
  induction h with
  | nil => rfl
  | absent habsent hrest ih =>
    rw [List.map_cons, List.sum_cons, ih, cost, habsent]
    simp
  | written hvalue hdata hid hlength hrest ih =>
    rw [List.map_cons, List.sum_cons, List.flatMap_cons, List.length_append, ih, cost, hvalue,
      Option.bind_some, hdata, Tlv8.length_record]

theorem exists_encodes (hrange : ∀ field ∈ fields, 1 ≤ field.id ∧ field.id ≤ 254)
    (h : ∀ field ∈ fields, ∀ value, object.member field.name = some value →
      ∃ data, encodeValue facts encodeNested field.type value = some data ∧ data.length < 256) :
    ∃ records, Encodes facts encodeNested object fields records := by
  induction fields with
  | nil => exact ⟨[], .nil⟩
  | cons field rest ih =>
    rw [List.forall_mem_cons] at hrange h
    obtain ⟨records, hrecords⟩ := ih hrange.2 h.2
    rcases hvalue : object.member field.name with _ | value
    · exact ⟨records, .absent hvalue hrecords⟩
    · obtain ⟨data, hdata, hlength⟩ := h.1 value hvalue
      exact ⟨_, .written hvalue hdata hrange.1 hlength hrecords⟩

/-- A sum grows by no more than the one term that grows. -/
theorem sum_map_le {α : Type*} {l : List α} (hnodup : l.Nodup) {f g : α → ℕ} {a : α} {c : ℕ}
    (ha : g a ≤ f a + c) (h : ∀ x ∈ l, x ≠ a → g x = f x) :
    (l.map g).sum ≤ (l.map f).sum + c := by
  induction l with
  | nil => simp
  | cons x l ih =>
    rw [List.nodup_cons] at hnodup
    rw [List.forall_mem_cons] at h
    rw [List.map_cons, List.map_cons, List.sum_cons, List.sum_cons]
    by_cases hx : x = a
    · subst hx
      have hsame : l.map g = l.map f :=
        List.map_congr_left fun y hy => h.2 y hy fun heq => hnodup.1 (heq ▸ hy)
      rw [hsame]
      omega
    · have := ih hnodup.2 h.2
      have := h.1 hx
      omega

/-- What holds of an object while its records are read. -/
structure ReadSoFar (facts : SchemaFacts) (encodeNested : Bytes → Json → Option Bytes)
    (fields : List SchemaField) (done : List (UInt8 × Bytes)) (object : Json) : Prop where
  members : ∃ members, object = .object members ∧ (members.map Prod.fst).Pairwise KeyLt ∧
    ∀ key ∈ members.map Prod.fst, key ∈ fields.map SchemaField.name
  values : ∀ field ∈ fields, ∀ value, object.member field.name = some value →
    ∃ bytes, Reread facts encodeNested field.type value bytes ∧ bytes.length < 256
  cost : (fields.map (cost facts encodeNested object)).sum ≤ (done.flatMap Tlv8.record).length

theorem name_injOn (hnames : (fields.map SchemaField.name).Nodup) {field other : SchemaField}
    (hfield : field ∈ fields) (hother : other ∈ fields) (h : other.name = field.name) :
    other = field :=
  List.inj_on_of_nodup_map hnames hother hfield h

/-- One record. -/
theorem ReadSoFar.decodeRecord {done : List (UInt8 × Bytes)} {object object' : Json}
    (hnames : (fields.map SchemaField.name).Nodup)
    (hvalue : ∀ field ∈ fields, ∀ value data, decodeValue facts decodeNested field.type data =
      .ok value → ∃ bytes, Reread facts encodeNested field.type value bytes ∧
        bytes.length ≤ data.length)
    (h : ReadSoFar facts encodeNested fields done object) {entry : UInt8 × Bytes}
    (hlength : entry.2.length < 256)
    (hstep : decodeRecord facts decodeNested fields object entry.1 entry.2 = .ok object') :
    ReadSoFar facts encodeNested fields (done ++ [entry]) object' := by
  have hdone : ((done ++ [entry]).flatMap Tlv8.record).length =
      (done.flatMap Tlv8.record).length + (entry.2.length + 2) := by
    simp
  unfold SchemaObjectCodec.decodeRecord at hstep
  -- a record of an unknown id only adds to what was read
  rcases hfind : fields.find? fun field => field.id = entry.1.toNat with _ | field
  · rw [hfind] at hstep
    obtain rfl := Except.ok.inj hstep
    exact ⟨h.members, h.values, by have := h.cost; omega⟩
  rw [hfind] at hstep
  simp only at hstep
  split_ifs at hstep with hpresent
  have hmem := List.mem_of_find?_eq_some hfind
  obtain ⟨value, hdecoded, rfl⟩ := map_eq_ok_iff.mp hstep
  obtain ⟨bytes, hreread, hbytes⟩ := hvalue field hmem value entry.2 hdecoded
  obtain ⟨members, rfl, hkeys, hknown⟩ := h.members
  have hmember (key : Bytes) : ((Json.object members).setMember field.name value).member key =
      if key = field.name then some value else (Json.object members).member key :=
    member_setMember field.name key value members
  refine ⟨⟨insertMember field.name value members, rfl, pairwise_insertMember hkeys, ?_⟩, ?_, ?_⟩
  · intro key hkey
    obtain ⟨m, hm, rfl⟩ := List.mem_map.mp hkey
    rcases mem_insertMember hm with rfl | hm
    · exact List.mem_map_of_mem hmem
    · exact hknown _ (List.mem_map_of_mem hm)
  · intro other hother found hfound
    rw [hmember] at hfound
    split_ifs at hfound with heq
    · obtain rfl := Option.some.inj hfound
      rw [name_injOn hnames hmem hother heq]
      exact ⟨bytes, hreread, by omega⟩
    · exact h.values other hother found hfound
  · -- only this field costs more than before
    have hother : ∀ other ∈ fields, other ≠ field →
        SchemaObjectCodec.cost facts encodeNested ((Json.object members).setMember field.name value)
          other = SchemaObjectCodec.cost facts encodeNested (.object members) other := by
      intro other hother hne
      rw [SchemaObjectCodec.cost, hmember,
        if_neg fun heq => hne (name_injOn hnames hmem hother heq), SchemaObjectCodec.cost]
    have hnew : SchemaObjectCodec.cost facts encodeNested
        ((Json.object members).setMember field.name value) field ≤
          SchemaObjectCodec.cost facts encodeNested (.object members) field +
            (entry.2.length + 2) := by
      rw [SchemaObjectCodec.cost, hmember, if_pos rfl, Option.bind_some, hreread.encoded]
      simp only
      omega
    have hsum := sum_map_le (hnames.of_map _) hnew hother
    have := h.cost
    omega

/-- A list in the order of its keys holds each key once. -/
theorem nodup_of_pairwise {members : List (Bytes × Json)}
    (h : (members.map Prod.fst).Pairwise KeyLt) : (members.map Prod.fst).Nodup := by
  refine List.Pairwise.imp ?_ h
  intro key key' hlt heq
  rw [heq] at hlt
  exact not_keyLt_self key' hlt

namespace ReadSoFar

variable {encodeNested : Bytes → Json → Option Bytes} {done : List (UInt8 × Bytes)}

theorem ordered (h : ReadSoFar facts encodeNested fields done object) :
    object.isOrdered = true := by
  obtain ⟨members, rfl, hkeys, hknown⟩ := h.members
  refine isOrdered_object.mpr ⟨hkeys, fun m hm => ?_⟩
  -- a member is the value of the field it is named after
  obtain ⟨field, hfield, hname⟩ := List.mem_map.mp (hknown _ (List.mem_map_of_mem hm))
  obtain ⟨bytes, hreread, -⟩ := h.values field hfield m.2 (by
    rw [hname]
    exact JsonLibrary.lookup_of_mem (nodup_of_pairwise hkeys) hm)
  exact hreread.ordered

/-- There is nothing to drop. -/
theorem projected (h : ReadSoFar facts encodeNested fields done object) {schema : Bytes}
    (hfields : facts.lookup schema = some fields)
    (hnames : (fields.map SchemaField.name).Nodup) : project facts schema object = object := by
  obtain ⟨members, rfl, hkeys, hknown⟩ := h.members
  obtain ⟨members', heq, hkeys'⟩ : ∃ members', project facts schema (.object members) =
    .object members' ∧ (members'.map Prod.fst).Pairwise KeyLt := project_object hkeys
  rw [heq]
  refine congrArg Json.object (members_ext hkeys' hkeys fun key => ?_)
  have hlookup := member_project facts hfields key (.object members)
  rw [heq] at hlookup
  refine hlookup.trans ?_
  by_cases hkey : key ∈ fields.map SchemaField.name
  · obtain ⟨field, hfield, rfl⟩ := List.mem_map.mp hkey
    rw [find?_name hnames hfield, Option.bind_some]
    rcases hvalue : (Json.object members).member field.name with _ | value
    · exact hvalue.symm
    · obtain ⟨bytes, hreread, -⟩ := h.values field hfield value hvalue
      rw [Option.map_some, hreread.projected]
      exact hvalue.symm
  · rw [find?_of_notMem hkey, Option.bind_none]
    by_contra hsome
    have hmem := lookup_isSome_iff.mp (Option.isSome_iff_ne_none.mpr (Ne.symm hsome))
    exact hkey (hknown key hmem)

/-- Every field is written again. -/
theorem written (h : ReadSoFar facts encodeNested fields done object)
    (hrange : ∀ field ∈ fields, 1 ≤ field.id ∧ field.id ≤ 254) :
    ∃ records, Encodes facts encodeNested object (sortFields fields) records := by
  refine exists_encodes (fun field hfield => hrange field (mem_sortFields.mp hfield))
    fun field hfield value hvalue => ?_
  obtain ⟨bytes, hreread, hlength⟩ := h.values field (mem_sortFields.mp hfield) value hvalue
  exact ⟨bytes, hreread.encoded, hlength⟩

/-- What is written has increasing ids, at every level. -/
theorem increasing (h : ReadSoFar facts encodeNested fields done object) {schema : Bytes}
    (hfields : facts.lookup schema = some fields) (hids : (fields.map SchemaField.id).Nodup)
    {records : List (UInt8 × Bytes)}
    (hwritten : Encodes facts encodeNested object (sortFields fields) records) :
    Increasing facts schema (records.flatMap Tlv8.record) := by
  refine .intro hfields hwritten.fit ?_ fun entry hentry field hfield hid hnested => ?_
  · have hsorted := (pairwise_sortFields hids).sublist hwritten.ids
    rw [List.pairwise_map] at hsorted ⊢
    exact hsorted.imp fun hlt => UInt8.lt_iff_toNat_lt.mpr hlt
  · obtain ⟨other, hother, value, hotherId, hvalue, hencoded⟩ := hwritten.of_mem entry hentry
    have hother' := mem_sortFields.mp hother
    obtain rfl : other = field :=
      List.inj_on_of_nodup_map hids hother' hfield (hotherId.trans hid.symm)
    obtain ⟨bytes, hreread, -⟩ := h.values other hother' value hvalue
    rw [hreread.encoded] at hencoded
    obtain rfl := Option.some.inj hencoded
    exact hreread.increasing hnested

/-- What is written is no longer than what was read. -/
theorem length_le (h : ReadSoFar facts encodeNested fields done object)
    {records : List (UInt8 × Bytes)}
    (hwritten : Encodes facts encodeNested object (sortFields fields) records) :
    (records.flatMap Tlv8.record).length ≤ (done.flatMap Tlv8.record).length := by
  rw [hwritten.length]
  have hperm : ((sortFields fields).map (SchemaObjectCodec.cost facts encodeNested object)).sum =
      (fields.map (SchemaObjectCodec.cost facts encodeNested object)).sum :=
    ((List.perm_insertionSort ById fields).map _).sum_eq
  rw [hperm]
  exact h.cost

end ReadSoFar

/-- What is encoded is decoded as the object restricted to its schema. -/
def RoundTrips (lib : JsonLibrary) (facts : SchemaFacts) : Prop :=
  ∀ schema object data, object.isOrdered = true →
    encodeTlv8 lib facts schema object = some data →
    ∃ decoded, decodeTlv8 lib facts schema data = .ok decoded ∧
      decoded.same (restrict facts schema object) = true

end SchemaObjectCodec

end Axtp
