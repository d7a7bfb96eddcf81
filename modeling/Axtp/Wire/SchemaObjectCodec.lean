/-
  `SchemaObjectCodec` (`wire/schema_object_codec.hpp`): JSON objects that are checked
  against the generated schema facts, and their TLV8 form.

  The facts are JSON there; here they are records with the same fields, a key that may
  be missing being an `Option`. A function that recurses with a growing `depth` and
  gives up above 32 recurses here on the levels left: 33 at depth 0.
-/
import Axtp.Json.Members
import Axtp.Lib.Tlv8

namespace Axtp

/-- The `array` entry of a field. -/
structure SchemaArray where
  itemSchema : Option Bytes := none
  itemType : Option Bytes := none

/-- The `variants` entry of a field. -/
structure SchemaVariants where
  discriminator : Bytes
  mapping : List (Bytes × Bytes)

/-- A field of a schema. An enum that is no array is one of its only value. -/
structure SchemaField where
  id : ℕ
  name : Bytes
  type : Bytes
  required : Bool := false
  maxLength : Option Json := none
  canonicalUint64Decimal : Bool := false
  enum : Option (List Json) := none
  min : Option Json := none
  max : Option Json := none
  array : Option SchemaArray := none
  schema : Option Bytes := none
  variants : Option SchemaVariants := none

/-- `generated::schemaJsonFacts()`: the fields of each schema. -/
abbrev SchemaFacts := List (Bytes × List SchemaField)

/-- The digits of a decimal that fits 64 bits, after those that make `result`. -/
def isUint64Digits : Bytes → ℕ → Bool
  | [], _ => true
  | ch :: rest, result =>
    0x30 ≤ ch ∧ ch ≤ 0x39 ∧ result ≤ (2 ^ 64 - 1 - (ch.toNat - 0x30)) / 10 ∧
      isUint64Digits rest (result * 10 + (ch.toNat - 0x30))

def isCanonicalUint64Decimal (value : Bytes) : Bool :=
  value ≠ [] ∧ value.length ≤ 20 ∧ ¬ (value.length > 1 ∧ value.head? = some 0x30) ∧
    isUint64Digits value 0

/-- `std::stoul`: white space, a sign and digits, whatever follows them; it throws without a digit
and when the number is too large. -/
def stoul (text : Bytes) : Option ℕ :=
  let text := text.dropWhile fun ch => ch = 0x20 ∨ (0x09 ≤ ch ∧ ch ≤ 0x0D)
  let negative : Bool := text.head? = some 0x2D
  let text := if negative ∨ text.head? = some 0x2B then text.drop 1 else text
  let digits := text.takeWhile fun ch => 0x30 ≤ ch ∧ ch ≤ 0x39
  let number := digits.foldl (fun number ch => number * 10 + (ch.toNat - 0x30)) 0
  if digits = [] ∨ 2 ^ 64 ≤ number then none
  else some (if negative then (2 ^ 64 - number) % 2 ^ 64 else number)

namespace SchemaObjectCodec

/-! ### Validation -/

/-- A JSON integer as `std::uint64_t`. -/
def asUint64 (number : ℤ) : ℕ := (number % 2 ^ 64).toNat

/-- The number of a value of one of the two integer kinds. -/
def number : Json → Option ℤ
  | .unsigned value => some value.toNat
  | .integer value => some value.toInt
  | _ => none

section

variable (lib : JsonLibrary) (facts : SchemaFacts)

/-- `get<std::uint64_t>()` of a bound; what is no number throws. -/
def unsignedBound : Json → Option ℤ
  | .unsigned value => some value.toNat
  | .integer value => some value.toUInt64.toNat
  | .float bits =>
    some (if 0 ≤ Json.truncate bits ∧ Json.truncate bits < 2 ^ 64 then Json.truncate bits
      else (lib.castUnsigned bits).toNat)
  | _ => none

/-- `get<std::int64_t>()` of a bound. -/
def signedBound : Json → Option ℤ
  | .unsigned value => some value.toInt64.toInt
  | .integer value => some value.toInt
  | .float bits =>
    some (if -2 ^ 63 ≤ Json.truncate bits ∧ Json.truncate bits < 2 ^ 63 then Json.truncate bits
      else (lib.castSigned bits).toInt)
  | _ => none

def unsignedValid (field : SchemaField) (bits : ℕ) (number : ℤ) : Bool :=
  0 ≤ number ∧ ¬ (bits < 64 ∧ 2 ^ bits ≤ number) ∧
    (∀ min ∈ field.min, ∃ bound ∈ unsignedBound lib min, bound ≤ number) ∧
    (∀ max ∈ field.max, ∃ bound ∈ unsignedBound lib max, number ≤ bound)

def signedValid (field : SchemaField) (bits : ℕ) (number : ℤ) : Bool :=
  number < 2 ^ 63 ∧ ¬ (bits < 64 ∧ (number < -2 ^ (bits - 1) ∨ 2 ^ (bits - 1) ≤ number)) ∧
    (∀ min ∈ field.min, ∃ bound ∈ signedBound lib min, bound ≤ number) ∧
    (∀ max ∈ field.max, ∃ bound ∈ signedBound lib max, number ≤ bound)

/-- The branch for the types `uint…` and `int…`; where `stoul` throws, the value is not valid. -/
def numberValid (field : SchemaField) (value : Json) : Bool :=
  let unsign : Bool := field.type.head? = (ascii "u").head?
  match number value, stoul (field.type.drop (if unsign then 4 else 3)) with
  | some number, some bits =>
    if unsign then unsignedValid lib field (bits % 2 ^ 32) number
    else signedValid lib field (bits % 2 ^ 32) number
  | _, _ => false

def stringValid (field : SchemaField) (text : Bytes) : Bool :=
  (∀ maxLength ∈ field.maxLength, ∃ bound ∈ unsignedBound lib maxLength, text.length ≤ bound) ∧
    (field.canonicalUint64Decimal = true → isCanonicalUint64Decimal text = true) ∧
    (lib.dump (.string text)).isSome

/-- `fieldValid`: `below` validates against a schema one level deeper, and `item` is `fieldValid`
for the items of an array. -/
def fieldValid (below : Bytes → Json → Bool) (item : SchemaField → Json → Bool)
    (field : SchemaField) (value : Json) : Bool :=
  if field.type = ascii "string" then
    match value with
    | .string text => stringValid lib field text
    | _ => false
  else if field.type = ascii "bool" then value.getBoolean.isSome
  else if field.type = ascii "enum" then
    match field.enum with
    | none => value.getString.isSome || value.isInteger
    | some values => values.any fun known => known.same value
  else if (ascii "uint").isPrefixOf field.type ∨ (ascii "int").isPrefixOf field.type then
    numberValid lib field value
  else if field.type = ascii "array" then
    match value, field.array with
    | .array items, some array =>
      items.all (item
        { id := 0, name := [], type := array.itemSchema.getD (array.itemType.getD []) })
    | _, _ => false
  else if field.type = ascii "object" then
    match field.schema with
    | some schema => below schema value
    | none => value.isObject
  -- a binary value is none that a text can hold
  else if field.type = ascii "bytes" then value.getString.isSome
  else if field.type = ascii "bitmap" then
    match value with
    | .string _ | .array _ | .unsigned _ => true
    | _ => false
  else below field.type value

/-- `fieldValid` with its first line: a null is never valid. -/
def notNullValid (below : Bytes → Json → Bool) (item : SchemaField → Json → Bool)
    (field : SchemaField) : Json → Bool
  | .null => false
  | value => fieldValid lib below item field value

/-- The field with the schema that its discriminator selects. -/
def selected (field : SchemaField) (object : Json) : Option SchemaField :=
  match field.variants with
  | none => some field
  | some variants => do
    let choice ← (object.member variants.discriminator).bind Json.getString
    let schema ← variants.mapping.lookup choice
    return { field with schema := some schema }

/-- A field of the schema in the object. -/
def memberValid (below itemsBelow : Bytes → Json → Bool) (object : Json) (field : SchemaField) :
    Bool :=
  match object.member field.name with
  | none => !field.required
  | some value =>
    match selected field object with
    | none => false
    | some field =>
      notNullValid lib below (notNullValid lib itemsBelow fun _ _ => false) field value

/-- `validate` with the levels below it: those for the values of its fields, and those for the items
of an array in a field. -/
def validateWith (below itemsBelow : Bytes → Json → Bool) (schema : Bytes) (object : Json) : Bool :=
  object.isObject &&
    match facts.lookup schema with
    | none => false
    | some fields =>
      fields.all (memberValid lib below itemsBelow object) && (lib.dump object).isSome

/-- `validate`, with a number of levels left. -/
def validateLevels : ℕ → Bytes → Json → Bool
  | 0 => fun _ _ => false
  | 1 => validateWith lib facts (fun _ _ => false) (fun _ _ => false)
  | levels + 2 => validateWith lib facts (validateLevels (levels + 1)) (validateLevels levels)

/-- `validate` as it is called from outside, with depth 0. -/
def validate (schema : Bytes) (object : Json) : Bool := validateLevels lib facts 33 schema object

/-! ### Encoding -/

/-- `get<std::uint64_t>()` of an integer. -/
def getUint64 (value : Json) : Option ℕ := (number value).map asUint64

/-- The low bytes of a number, the first one first. -/
def bigEndian : ℕ → ℕ → Bytes
  | 0, _ => []
  | size + 1, n => UInt8.ofNat (n / 2 ^ (size * 8)) :: bigEndian size n

/-- The bytes of one value; `nested` is the encoder one level deeper. The object was validated,
which reads the type as well, so `stoul` does not throw here. -/
def encodeValue (nested : Bytes → Json → Option Bytes) (type : Bytes) (value : Json) :
    Option Bytes :=
  if type = ascii "string" then value.getString
  else if type = ascii "bool" then value.getBoolean.map fun value => [if value then 1 else 0]
  else if (ascii "uint").isPrefixOf type then do
    let bits ← stoul (type.drop 4)
    let n ← getUint64 value
    return bigEndian (bits % 2 ^ 32 / 8) n
  else if (facts.lookup type).isSome then nested type value
  else none

/-- The loop of `encodeTlv8` over the sorted fields. -/
def encodeFields (nested : Bytes → Json → Option Bytes) (object : Json) :
    List SchemaField → Option Bytes
  | [] => some []
  | field :: fields =>
    match object.member field.name with
    | none => encodeFields nested object fields
    | some value => do
      let data ← encodeValue facts nested field.type value
      if field.id = 0 ∨ 255 ≤ field.id ∨ 255 < data.length then none
      else
        let rest ← encodeFields nested object fields
        return UInt8.ofNat field.id :: UInt8.ofNat data.length :: data ++ rest

/-- The order of the ids. -/
def ById (a b : SchemaField) : Prop := a.id ≤ b.id

instance (a b : SchemaField) : Decidable (ById a b) := by unfold ById; infer_instance

instance : Std.Total ById := ⟨fun a b => Nat.le_total a.id b.id⟩

instance : IsTrans SchemaField ById := ⟨fun _ _ _ => Nat.le_trans⟩

/-- `std::sort` by the ids, which differ. -/
def sortFields (fields : List SchemaField) : List SchemaField := fields.insertionSort ById

def encodeLevels : ℕ → Bytes → Json → Option Bytes
  | 0, _, _ => none
  | levels + 1, schema, object =>
    if validate lib facts schema object then
      (facts.lookup schema).bind fun fields =>
        encodeFields facts (encodeLevels levels) object (sortFields fields)
    else none

def encodeTlv8 (schema : Bytes) (object : Json) : Option Bytes :=
  encodeLevels lib facts 33 schema object

/-! ### Decoding -/

/-- How `decodeTlv8` gives no object: it returns nothing, or the exception of `std::stoul` leaves
it. -/
inductive DecodeFailure where
  | rejected
  | threw
  deriving DecidableEq, Repr

abbrev Decoded := Except DecodeFailure

/-- The value of the bytes of one record; `nested` is the decoder one level deeper. -/
def decodeValue (nested : Bytes → Bytes → Decoded Json) (type data : Bytes) : Decoded Json :=
  if type = ascii "string" then .ok (.string data)
  else if type = ascii "bool" then
    if data.length ≠ 1 ∨ data.headD 0 > 1 then .error .rejected
    else .ok (.boolean (data.headD 0 = 1))
  else if (ascii "uint").isPrefixOf type then
    match stoul (type.drop 4) with
    | none => .error .threw
    | some bits =>
      if data.length ≠ bits / 8 then .error .rejected
      else .ok (.unsigned (data.foldl (fun n byte => n <<< 8 ||| byte.toUInt64) 0))
  else if (facts.lookup type).isSome then nested type data
  else .error .rejected

/-- One record. -/
def decodeRecord (nested : Bytes → Bytes → Decoded Json) (fields : List SchemaField) (object : Json)
    (id : UInt8) (data : Bytes) : Decoded Json :=
  match fields.find? fun field => field.id = id.toNat with
  | none => .ok object
  | some field =>
    if (object.member field.name).isSome then .error .rejected
    else (decodeValue facts nested field.type data).map (object.setMember field.name)

def decodeLevels : ℕ → Bytes → Bytes → Decoded Json
  | 0, _, _ => .error .rejected
  | levels + 1, schema, data =>
    match facts.lookup schema with
    | none => .error .rejected
    | some fields => do
      let object ← Tlv8.loop .rejected (decodeRecord facts (decodeLevels levels) fields) data.length
        Json.emptyObject data
      if validate lib facts schema object then return object else throw .rejected

def decodeTlv8 (schema data : Bytes) : Decoded Json := decodeLevels lib facts 33 schema data

end

end SchemaObjectCodec

end Axtp
