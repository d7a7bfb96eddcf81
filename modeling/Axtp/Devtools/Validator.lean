/-
  The schemas of the generator (`devtools/generators/src`): what `validateSpec`
  (`validator.ts`) checks of them, and the facts that `emitJsonFacts` (`emitters/cpp.ts`)
  makes of them.

  A check that throws there is false here. An entry that may be left out is an `Option`,
  and as in the source an empty text counts as left out. A number is the bits of a double,
  as all numbers of the language are.
-/
import Axtp.Lib.Double
import Axtp.Wire.SchemaObjectCodec

namespace Axtp

namespace Devtools

/-! ### `models.ts` -/

/-- A value of an enum. The source declares strings, and takes what the specification has. -/
inductive EnumValue where
  | string (text : Bytes)
  | number (bits : UInt64)
  | boolean (value : Bool)
  | null
  deriving DecidableEq

/-- A field of a schema. An enum that is no array is one of its only value. -/
structure Field where
  id : ℕ
  name : Bytes
  type : Bytes
  required : Bool := false
  min : Option UInt64 := none
  max : Option UInt64 := none
  maxLength : Option UInt64 := none
  schema : Option Bytes := none
  enum : Option (List EnumValue) := none
  variants : Option SchemaVariants := none
  repeated : Bool := false
  array : Option SchemaArray := none
  description : Bytes := []

structure Schema where
  name : Bytes
  named : name ≠ []
  type : Bytes
  fields : List Field

/-! ### `validateSpec` -/

/-- An entry that is there and not empty. -/
def given (entry : Option Bytes) : Option Bytes := entry.filter (· ≠ [])

/-- The loop over entries whose keys must differ; `seen` has the names of the keys so far. A key
that was seen with an empty name counts as not seen. -/
def uniqueKeys {κ : Type} [BEq κ] (seen : List (κ × Bytes)) : List (κ × Bytes) → Bool
  | [] => true
  | entry :: rest => given (seen.lookup entry.1) = none ∧ uniqueKeys (entry :: seen) rest

def assertUniqueNames (names : List Bytes) : Bool := names.Nodup

def assertSchemaFields (schema : Schema) : Bool :=
  uniqueKeys [] (schema.fields.map fun field => (field.id, field.name)) ∧
    (schema.fields.map Field.name).Nodup

def assertKnownSchema (schemaName : Option Bytes) (schemas : List Bytes) : Bool :=
  ∀ name ∈ given schemaName, name ∈ schemas

/-- The membership of a set of names. -/
def isAmong (name : Bytes) (names : List Bytes) : Bool := name ∈ names

theorem isAmong_iff {name : Bytes} {names : List Bytes} :
    isAmong name names = true ↔ name ∈ names := decide_eq_true_iff

/-- The types that an array may have its items in without a schema of that name. -/
def itemBuiltins : List Bytes :=
  ["bool", "uint8", "uint16", "uint32", "uint64", "int8", "int16", "int32", "int64", "number",
    "string", "bytes", "enum", "bitmap", "array"].map ascii

def assertKnownFieldItemType (itemType : Option Bytes) (schemas : List Bytes) : Bool :=
  ∀ name ∈ given itemType, name ∈ itemBuiltins ∨ name ∈ schemas

/-- `String(value)`. -/
def EnumValue.text : EnumValue → Bytes
  | .string text => text
  | .number bits => ascii (Double.text bits)
  | .boolean value => ascii (if value then "true" else "false")
  | .null => ascii "null"

def enumValues (field : Field) : List Bytes := (field.enum.getD []).map EnumValue.text

/-- What every object of the language inherits, which the operator `in` finds in a mapping. -/
def inherited : List Bytes :=
  ["constructor", "__defineGetter__", "__defineSetter__", "hasOwnProperty", "__lookupGetter__",
    "__lookupSetter__", "isPrototypeOf", "propertyIsEnumerable", "toString", "valueOf", "__proto__",
    "toLocaleString"].map ascii

def assertValidVariants (field : Field) (variants : SchemaVariants) (schema : Schema)
    (schemaNames objectSchemaNames : List Bytes) : Bool :=
  field.type = ascii "object" &&
    match schema.fields.find? fun item => item.name = variants.discriminator with
    | none => false
    | some discriminator =>
      discriminator.type = ascii "enum" ∧ enumValues discriminator ≠ [] ∧
        (∀ entry ∈ variants.mapping, entry.1 ∈ enumValues discriminator) ∧
        (∀ value ∈ enumValues discriminator,
          value ∈ variants.mapping.map Prod.fst ∨ value ∈ inherited) ∧
        (∀ entry ∈ variants.mapping,
          assertKnownSchema (some entry.2) schemaNames = true ∧ entry.2 ∈ objectSchemaNames)

/-- The checks of one field. -/
def assertField (schema : Schema) (schemaNames objectSchemaNames : List Bytes)
    (field : Field) : Bool :=
  (∀ variants ∈ field.variants,
      assertValidVariants field variants schema schemaNames objectSchemaNames = true) ∧
    assertKnownSchema field.schema schemaNames = true ∧
    assertKnownSchema (field.array.bind SchemaArray.itemSchema) schemaNames = true ∧
    assertKnownFieldItemType (field.array.bind SchemaArray.itemType) schemaNames = true ∧
    ¬ (field.type = ascii "array" ∧ given field.schema = none ∧
      given (field.array.bind SchemaArray.itemType) = none ∧
      given (field.array.bind SchemaArray.itemSchema) = none)

/-- What `validateSpec` checks of the schemas. -/
def validateSpec (schemas : List Schema) : Bool :=
  assertUniqueNames (schemas.map Schema.name) = true ∧
    (∀ schema ∈ schemas, assertSchemaFields schema = true) ∧
    ∀ schema ∈ schemas, ∀ field ∈ schema.fields,
      assertField schema (schemas.map Schema.name)
        ((schemas.filter fun schema => schema.type = ascii "object").map Schema.name) field = true

/-! ### `emitJsonFacts` -/

/-- The number that the JSON library reads where `JSON.stringify` has written one. Digits alone are
an integer if they fit 64 bits. Whatever else is written has the double as its nearest one. -/
def printed (bits : UInt64) : Json :=
  if Double.isFinite bits then
    match Double.printedInteger bits with
    | some n =>
      if Double.isNegative bits ∧ n ≠ 0 then
        if n ≤ 2 ^ 63 then .integer (Int64.ofInt (-n)) else .float bits
      else if n < 2 ^ 64 then .unsigned (UInt64.ofNat n)
      else .float bits
    | none => .float bits
  else .null

def EnumValue.printed : EnumValue → Json
  | .string text => .string text
  | .number bits => Devtools.printed bits
  | .boolean value => .boolean value
  | .null => .null

def isUpper (ch : Byte) : Bool := 0x41 ≤ ch ∧ ch ≤ 0x5A

def toLower (ch : Byte) : Byte := if isUpper ch then ch + 0x20 else ch

/-- The rest of a line. U+2028 and U+2029 end one as well. -/
def restOfLine : Bytes → Bytes
  | [] => []
  | ch :: rest =>
    if ch = 0x0A ∨ ch = 0x0D ∨ [0xE2, 0x80, 0xA8].isPrefixOf (ch :: rest) ∨
        [0xE2, 0x80, 0xA9].isPrefixOf (ch :: rest) then []
    else ch :: restOfLine rest

/-- `/canonical.*uint64|decimal uint64/i`. -/
def describesDecimal (description : Bytes) : Bool :=
  (description.map toLower).tails.any fun text =>
    (ascii "decimal uint64").isPrefixOf text ||
      ((ascii "canonical").isPrefixOf text &&
        (restOfLine (text.drop 9)).tails.any fun rest => (ascii "uint64").isPrefixOf rest)

/-- The flag that `emitJsonFacts` adds to a field. -/
def canonicalUint64Decimal (field : Field) : Bool :=
  field.type = ascii "string" ∧ field.maxLength.bind Double.value = some 20 ∧
    describesDecimal field.description

/-- The fields of a schema. -/
def fieldsOf (schemas : List Schema) (name : Bytes) : Option (List Field) :=
  (schemas.map fun schema => (schema.name, schema.fields)).lookup name

end Devtools

end Axtp
