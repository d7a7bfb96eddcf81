/-
  JSON values and the JSON library (`nlohmann::json`).

  The library's source is not part of the repository. A value is modelled by its
  constructors; `find`, `set` and the number accessors behave as documented. The
  text format is left open: a `JsonLibrary` is its `parse` and `dump`, each of which
  may throw, and `Lawful` is what the documentation promises of them: what `parse`
  accepts is valid, and `dump` accepts a valid value and is undone by `parse`, except that
  an integer that is not negative is read as `unsigned` then (`normalize`).

  The members of an object are kept in the order of their keys, as in the
  `std::map` underneath.
-/
import Axtp.Support.ByteIo

namespace Axtp

/-- A JSON value. An integer is read as `unsigned` unless it has a sign, which `-0` has as well; a
float is its IEEE bits. -/
inductive Json where
  | null
  | boolean (value : Bool)
  | unsigned (value : UInt64)
  | integer (value : Int64)
  | float (bits : UInt64)
  | string (value : Bytes)
  | array (items : List Json)
  | object (members : List (Bytes × Json))
  deriving Repr

namespace Json

/-! ### Access -/

def isObject : Json → Bool
  | object _ => true
  | _ => false

/-- The member of an object under a key. Values of other kinds have none. -/
def find (key : String) : Json → Option Json
  | object members => members.lookup (ascii key)
  | _ => none

def getString : Json → Option Bytes
  | string value => some value
  | _ => none

def getBoolean : Json → Option Bool
  | boolean value => some value
  | _ => none

/-- A non-negative integer of either kind; other values throw. -/
def getUnsigned : Json → Option UInt64
  | unsigned value => some value
  | integer value => if value < 0 then none else some value.toUInt64
  | _ => none

/-- A finite float with its fraction cut off. -/
def truncate (bits : UInt64) : ℤ :=
  let exponent := (bits.toNat / 2 ^ 52) % 2 ^ 11
  let fraction := bits.toNat % 2 ^ 52
  let mantissa := if exponent = 0 then fraction else fraction + 2 ^ 52
  let magnitude : ℕ := mantissa * 2 ^ (exponent - 1075) / 2 ^ (1075 - exponent)
  if bits.toNat < 2 ^ 63 then magnitude else -magnitude

/-- `get<std::int64_t>()`: the number cast to 64 signed bits; other values throw. The cast of a
float outside the range is undefined; here it keeps its value. -/
def getInt64 : Json → Option ℤ
  | unsigned value => some value.toInt64.toInt
  | integer value => some value.toInt
  | float bits => some (truncate bits)
  | _ => none

/-- `is_number_integer() || is_number_unsigned()`. -/
def isInteger : Json → Bool
  | unsigned _ => true
  | integer _ => true
  | _ => false

/-! ### Building objects -/

/-- The order of keys: byte by byte, the bytes being unsigned. -/
def KeyLt (a b : Bytes) : Prop := a.map UInt8.toNat < b.map UInt8.toNat

instance (a b : Bytes) : Decidable (KeyLt a b) := by unfold KeyLt; infer_instance

/-- Assign a member, keeping the order of the keys. -/
def insertMember (key : Bytes) (value : Json) : List (Bytes × Json) → List (Bytes × Json)
  | [] => [(key, value)]
  | (k, v) :: rest =>
    if key = k then (key, value) :: rest
    else if KeyLt key k then (key, value) :: (k, v) :: rest
    else (k, v) :: insertMember key value rest

/-- `object[key] = value`. -/
def set (target : Json) (key : String) (value : Json) : Json :=
  match target with
  | object members => object (insertMember (ascii key) value members)
  | other => other

def emptyObject : Json := object []

theorem lookup_cons_eq (k k' : Bytes) (v : Json) (rest : List (Bytes × Json)) :
    ((k', v) :: rest).lookup k = if k = k' then some v else rest.lookup k := by
  rw [List.lookup_cons]
  by_cases h : k = k'
  · rw [if_pos h, beq_iff_eq.mpr h]
  · rw [if_neg h, beq_eq_false_iff_ne.mpr h]

theorem lookup_insertMember (key k : Bytes) (value : Json) (members : List (Bytes × Json)) :
    (insertMember key value members).lookup k =
      if k = key then some value else members.lookup k := by
  induction members with
  | nil => rw [insertMember, lookup_cons_eq]
  | cons m rest ih =>
    obtain ⟨k', v⟩ := m
    rw [insertMember]
    by_cases heq : key = k'
    · rw [if_pos heq, lookup_cons_eq, lookup_cons_eq, heq]
      split_ifs <;> rfl
    rw [if_neg heq]
    by_cases hlt : KeyLt key k'
    · rw [if_pos hlt, lookup_cons_eq]
    · rw [if_neg hlt, lookup_cons_eq, ih, lookup_cons_eq]
      split_ifs with hk hkey
      · exact absurd (hkey.symm.trans hk) heq
      all_goals rfl

theorem find_set {key k : String} {value : Json} {members : List (Bytes × Json)} :
    ((object members).set key value).find k =
      if ascii k = ascii key then some value else (object members).find k := by
  simp only [set, find, lookup_insertMember]

/-! ### Valid values -/

/-- The ranges of the bytes that have to follow the first byte of a UTF-8 character. -/
def utf8Ranges (lead : Byte) : Option (List (Byte × Byte)) :=
  if lead < 0x80 then some []
  else if lead < 0xC2 then none
  else if lead < 0xE0 then some [(0x80, 0xBF)]
  else if lead = 0xE0 then some [(0xA0, 0xBF), (0x80, 0xBF)]
  else if lead = 0xED then some [(0x80, 0x9F), (0x80, 0xBF)]
  else if lead < 0xF0 then some [(0x80, 0xBF), (0x80, 0xBF)]
  else if lead = 0xF0 then some [(0x90, 0xBF), (0x80, 0xBF), (0x80, 0xBF)]
  else if lead < 0xF4 then some [(0x80, 0xBF), (0x80, 0xBF), (0x80, 0xBF)]
  else if lead = 0xF4 then some [(0x80, 0x8F), (0x80, 0xBF), (0x80, 0xBF)]
  else none

/-- The rest of a string, of whose current character the given ranges are still to come. -/
def isUtf8After : List (Byte × Byte) → Bytes → Bool
  | [], [] => true
  | _ :: _, [] => false
  | [], a :: rest =>
    match utf8Ranges a with
    | none => false
    | some ranges => isUtf8After ranges rest
  | (low, high) :: ranges, a :: rest => low ≤ a && a ≤ high && isUtf8After ranges rest

/-- The well-formed UTF-8 strings. -/
def isUtf8 (s : Bytes) : Bool := isUtf8After [] s

theorem isUtf8_of_lt {s : Bytes} (h : ∀ a ∈ s, a < 0x80) : isUtf8 s = true := by
  induction s with
  | nil => rfl
  | cons a s ih =>
    have hranges : utf8Ranges a = some [] := if_pos (h a (List.mem_cons_self ..))
    rw [isUtf8, isUtf8After, hranges]
    exact ih fun b hb => h b (List.mem_cons_of_mem _ hb)

theorem isUtf8_ascii (s : String) : isUtf8 (ascii s) = true := isUtf8_of_lt fun _ => lt_of_mem_ascii

/-- A value that the library can hold after parsing: UTF-8 strings, finite floats, integers as
`integer` only when they are not positive, keys in order. -/
inductive Valid : Json → Prop
  | null : Valid null
  | boolean (value : Bool) : Valid (boolean value)
  | unsigned (value : UInt64) : Valid (unsigned value)
  | integer {value : Int64} (h : value ≤ 0) : Valid (integer value)
  | float {bits : UInt64} (h : (bits.toNat / 2 ^ 52) % 2 ^ 11 ≠ 2047) : Valid (float bits)
  | string {value : Bytes} (h : isUtf8 value = true) : Valid (string value)
  | array {items : List Json} (h : ∀ item ∈ items, Valid item) : Valid (array items)
  | object {members : List (Bytes × Json)} (hkeys : (members.map Prod.fst).Pairwise KeyLt)
      (hutf8 : ∀ m ∈ members, isUtf8 m.1 = true) (h : ∀ m ∈ members, Valid m.2) :
      Valid (object members)

theorem mem_insertMember {key : Bytes} {value : Json} {members : List (Bytes × Json)}
    {m : Bytes × Json} (h : m ∈ insertMember key value members) :
    m = (key, value) ∨ m ∈ members := by
  induction members with
  | nil =>
    rw [insertMember, List.mem_singleton] at h
    exact .inl h
  | cons n rest ih =>
    obtain ⟨k, v⟩ := n
    rw [insertMember] at h
    split_ifs at h
    · rcases List.mem_cons.mp h with h | h
      · exact .inl h
      · exact .inr (List.mem_cons_of_mem _ h)
    · rcases List.mem_cons.mp h with h | h
      · exact .inl h
      · exact .inr h
    · rcases List.mem_cons.mp h with h | h
      · exact .inr (h ▸ List.mem_cons_self ..)
      · rcases ih h with h | h
        · exact .inl h
        · exact .inr (List.mem_cons_of_mem _ h)

theorem keyLt_trans {a b c : Bytes} (hab : KeyLt a b) (hbc : KeyLt b c) : KeyLt a c :=
  lt_trans hab hbc

theorem keyLt_of_not {a b : Bytes} (hne : a ≠ b) (hlt : ¬ KeyLt a b) : KeyLt b a := by
  refine lt_of_le_of_ne (not_lt.mp hlt) fun h => hne ?_
  exact ((List.map_injective_iff.mpr fun _ _ => UInt8.toNat_inj.mp) h).symm

theorem pairwise_insertMember {key : Bytes} {value : Json} {members : List (Bytes × Json)}
    (h : (members.map Prod.fst).Pairwise KeyLt) :
    ((insertMember key value members).map Prod.fst).Pairwise KeyLt := by
  induction members with
  | nil => simp [insertMember]
  | cons m rest ih =>
    obtain ⟨k, v⟩ := m
    rw [List.map_cons, List.pairwise_cons] at h
    rw [insertMember]
    split_ifs with heq hlt
    · rw [List.map_cons, List.pairwise_cons, heq]
      exact h
    · rw [List.map_cons, List.map_cons, List.pairwise_cons, List.pairwise_cons]
      refine ⟨fun k' hk' => ?_, h⟩
      rcases List.mem_cons.mp hk' with rfl | hk'
      · exact hlt
      · exact keyLt_trans hlt (h.1 k' hk')
    · rw [List.map_cons, List.pairwise_cons]
      refine ⟨fun k' hk' => ?_, ih h.2⟩
      obtain ⟨m, hm, rfl⟩ := List.mem_map.mp hk'
      rcases mem_insertMember hm with rfl | hm
      · exact keyLt_of_not heq hlt
      · exact h.1 _ (List.mem_map_of_mem hm)

theorem valid_emptyObject : Valid emptyObject := .object (by simp) (by simp) (by simp)

/-- Assigning a valid value keeps an object valid. -/
theorem Valid.set {key : String} {value object : Json} (ho : Valid object) (hv : Valid value) :
    Valid (object.set key value) := by
  cases ho with
  | object hkeys hutf8 h =>
    refine .object (pairwise_insertMember hkeys) (fun m hm => ?_) fun m hm => ?_
    · rcases mem_insertMember hm with rfl | hm
      · exact isUtf8_ascii key
      · exact hutf8 m hm
    · rcases mem_insertMember hm with rfl | hm
      · exact hv
      · exact h m hm
  | null => exact .null
  | boolean b => exact .boolean b
  | unsigned n => exact .unsigned n
  | integer h => exact .integer h
  | float h => exact .float h
  | string h => exact .string h
  | array h => exact .array h

/-- The members of a valid value are valid. -/
theorem Valid.find {key : String} {object value : Json} (ho : Valid object)
    (h : object.find key = some value) : Valid value := by
  cases ho with
  | object _ _ hmembers =>
    obtain ⟨l₁, l₂, heq, -⟩ := List.lookup_eq_some_iff.mp h
    exact hmembers (ascii key, value) (by rw [heq]; simp)
  | _ => cases h

/-! ### Normal forms -/

mutual

/-- The value with each non-negative integer kept as `unsigned`. -/
def normalize : Json → Json
  | null => null
  | boolean value => boolean value
  | unsigned value => unsigned value
  | integer value => if value < 0 then integer value else unsigned value.toUInt64
  | float bits => float bits
  | string value => string value
  | array items => array (normalizeItems items)
  | object members => object (normalizeMembers members)

def normalizeItems : List Json → List Json
  | [] => []
  | item :: items => normalize item :: normalizeItems items

def normalizeMembers : List (Bytes × Json) → List (Bytes × Json)
  | [] => []
  | (key, value) :: members => (key, normalize value) :: normalizeMembers members

end

end Json

/-- The JSON library: `parse` and `dump`, `none` where they throw. What the casts of a float to an
integer type give that cannot hold it is not defined by the language; it is left open as well. -/
structure JsonLibrary where
  parse : Bytes → Option Json
  dump : Json → Option Bytes
  castUnsigned : UInt64 → UInt64 := fun _ => 0
  castSigned : UInt64 → Int64 := fun _ => 0

/-- The documented behaviour of the library: a parsed value is valid, and a valid value can be
dumped to a text that parses to it, up to the kinds of its integers, which the text does not
show. -/
structure JsonLibrary.Lawful (lib : JsonLibrary) : Prop where
  valid_of_parse : ∀ {text value}, lib.parse text = some value → value.Valid
  parse_dump : ∀ {value : Json}, value.Valid →
    ∃ text, lib.dump value = some text ∧ lib.parse text = some value.normalize
  dump_normalize : ∀ value : Json, lib.dump value.normalize = lib.dump value

end Axtp
