/-
  The schema language of the generator, stated without the validator.

  `typeOf` is the declared type of a field and `Conforms` says which values a declared
  type has. A name is looked up among the builtin types first and among the schemas
  then; `number`, for which the validator has no branch, yields to a schema of that name.

  A `Reading` says how the parts of a declaration are understood: `declared` as they are
  declared, `asRead` as the validator reads them from the facts, where a bound has been
  printed, parsed and cast and any name that begins like that of an integer type is one.
  `Missed` and `MissedIn` say for which values the validator has no right branch, however
  the parts are read, and `Plain` schemas are read as they are declared.
-/
import Axtp.Devtools.Validator

namespace Axtp

/-- The number of a value: an integer, or a float that is finite. -/
def Json.rational : Json → Option ℚ
  | .unsigned value => some value.toNat
  | .integer value => some value.toInt
  | .float bits => Double.value bits
  | _ => none

/-- A declared type, with its bounds as they are declared. -/
inductive DeclaredType where
  | boolean
  | unsigned (bits : ℕ) (min max : Option UInt64)
  | signed (bits : ℕ) (min max : Option UInt64)
  | number (min max : Option UInt64)
  | string (maxLength : Option UInt64) (canonicalUint64Decimal : Bool)
  | bytes
  | enum (values : Option (List Devtools.EnumValue))
  | bitmap
  | anyArray
  | array (items : DeclaredType)
  | anyObject
  | schema (name : Bytes)

namespace SchemaLanguage

open Devtools
open SchemaObjectCodec (number unsignedBound signedBound)

/-! ### Readings -/

/-- How the parts of a declaration are understood: which names are those of integer types, unsigned
ones and of how many bits; when an integer of an unsigned or signed type keeps a bound, and a text a
length; and which values an enum has. -/
structure Reading where
  integerType : Bytes → Option (Bool × ℕ)
  atLeast : Bool → UInt64 → ℤ → Prop
  atMost : Bool → UInt64 → ℤ → Prop
  fits : UInt64 → ℕ → Prop
  isKnown : EnumValue → Json → Prop

/-- The integer types. -/
def integerTypes : List (Bytes × Bool × ℕ) :=
  [(ascii "uint8", true, 8), (ascii "uint16", true, 16), (ascii "uint32", true, 32),
    (ascii "uint64", true, 64), (ascii "int8", false, 8), (ascii "int16", false, 16),
    (ascii "int32", false, 32), (ascii "int64", false, 64)]

/-- A value that an enum declares. -/
inductive IsDeclared : EnumValue → Json → Prop
  | string (text : Bytes) : IsDeclared (.string text) (.string text)
  | number {bits : UInt64} {value : Json} {q : ℚ} (hq : Double.value bits = some q)
      (hvalue : value.rational = some q) : IsDeclared (.number bits) value
  | boolean (value : Bool) : IsDeclared (.boolean value) (.boolean value)

/-- The declarations as they stand. -/
def declared : Reading where
  integerType name := integerTypes.lookup name
  atLeast _ bound n := Double.AtMost bound n
  atMost _ bound n := Double.AtLeast bound n
  fits bound length := Double.AtLeast bound length
  isKnown := IsDeclared

/-- A name that begins like that of an integer type. -/
def StartsInteger (name : Bytes) : Prop :=
  (ascii "uint").isPrefixOf name = true ∨ (ascii "int").isPrefixOf name = true

instance (name : Bytes) : Decidable (StartsInteger name) :=
  inferInstanceAs (Decidable (_ ∨ _))

/-- What the validator takes for an integer type: `uint` or `int` and what `std::stoul` takes for a
number. -/
def prefixedType (name : Bytes) : Option (Bool × ℕ) :=
  if (ascii "uint").isPrefixOf name then (stoul (name.drop 4)).map fun bits => (true, bits % 2 ^ 32)
  else if (ascii "int").isPrefixOf name then
    (stoul (name.drop 3)).map fun bits => (false, bits % 2 ^ 32)
  else none

/-- A bound as the validator reads it from the facts. -/
def readBound (lib : JsonLibrary) (unsign : Bool) (bound : UInt64) : Option ℤ :=
  if unsign then unsignedBound lib (printed bound) else signedBound lib (printed bound)

/-- The declarations as the validator reads them. -/
def asRead (lib : JsonLibrary) : Reading where
  integerType := prefixedType
  atLeast unsign bound n := ∃ m, readBound lib unsign bound = some m ∧ m ≤ n
  atMost unsign bound n := ∃ m, readBound lib unsign bound = some m ∧ n ≤ m
  fits bound length := ∃ m, readBound lib true bound = some m ∧ length ≤ m
  isKnown known value := known.printed.same value = true

/-! ### The declared types -/

/-- What is known of the items of an array: their type. -/
def itemField (type : Bytes) : Field := { id := 0, name := [], type := type }

/-- The type of the items of an array: that of `item_schema`, of `item_type` or of the field. -/
def itemName (field : Field) : Option Bytes :=
  (field.array.bind SchemaArray.itemSchema).or
    ((field.array.bind SchemaArray.itemType).or field.schema)

/-- The schema that the discriminator in an object selects. -/
def variantOf (variants : SchemaVariants) (object : Json) : Option Bytes := do
  let choice ← (object.member variants.discriminator).bind Json.getString
  variants.mapping.lookup choice

/-- The field with the schema that the discriminator selects. -/
def chosen (object : Json) (field : Field) : Field :=
  match field.variants.bind fun variants => variantOf variants object with
  | some name => { field with schema := some name }
  | none => field

variable (reading : Reading) (schemas : List Schema)

/-- The declared type of a field that is no array. -/
def scalarType (field : Field) : DeclaredType :=
  if field.type = ascii "string" then .string field.maxLength (canonicalUint64Decimal field)
  else if field.type = ascii "bool" then .boolean
  else if field.type = ascii "enum" then .enum field.enum
  else
    match reading.integerType field.type with
    | some (true, bits) => .unsigned bits field.min field.max
    | some (false, bits) => .signed bits field.min field.max
    | none =>
      if field.type = ascii "object" then (field.schema.map .schema).getD .anyObject
      else if field.type = ascii "bytes" then .bytes
      else if field.type = ascii "bitmap" then .bitmap
      else if field.type = ascii "number" ∧ fieldsOf schemas (ascii "number") = none then
        .number field.min field.max
      else .schema field.type

def itemType (name : Bytes) : DeclaredType :=
  if name = ascii "array" then .anyArray else scalarType reading schemas (itemField name)

def typeOf (field : Field) : DeclaredType :=
  if field.type = ascii "array" then
    match itemName field with
    | some name => .array (itemType reading schemas name)
    | none => .anyArray
  else scalarType reading schemas field

/-- The type of a field in an object, none if no variant is selected. -/
def typeIn (object : Json) (field : Field) : Option DeclaredType :=
  match field.variants with
  | some variants => (variantOf variants object).map .schema
  | none => some (typeOf reading schemas field)

/-! ### The values of a type -/

/-- **The values of a declared type.** A null is no value of any type. -/
inductive Conforms : DeclaredType → Json → Prop
  | boolean (value : Bool) : Conforms .boolean (.boolean value)
  | unsigned {bits : ℕ} {min max : Option UInt64} {value : Json} {n : ℤ}
      (hn : number value = some n) (hrange : 0 ≤ n ∧ n < 2 ^ bits)
      (hmin : ∀ bound ∈ min, reading.atLeast true bound n)
      (hmax : ∀ bound ∈ max, reading.atMost true bound n) :
      Conforms (.unsigned bits min max) value
  | signed {bits : ℕ} {min max : Option UInt64} {value : Json} {n : ℤ}
      (hn : number value = some n) (h64 : n < 2 ^ 63)
      (hrange : bits < 64 → -2 ^ (bits - 1) ≤ n ∧ n < 2 ^ (bits - 1))
      (hmin : ∀ bound ∈ min, reading.atLeast false bound n)
      (hmax : ∀ bound ∈ max, reading.atMost false bound n) :
      Conforms (.signed bits min max) value
  | number {min max : Option UInt64} {value : Json} {q : ℚ} (hq : value.rational = some q)
      (hmin : ∀ bound ∈ min, Double.AtMost bound q) (hmax : ∀ bound ∈ max, Double.AtLeast bound q) :
      Conforms (.number min max) value
  | string {maxLength : Option UInt64} {canonical : Bool} {text : Bytes}
      (hlength : ∀ bound ∈ maxLength, reading.fits bound text.length)
      (hcanonical : canonical = true → isCanonicalUint64Decimal text = true) :
      Conforms (.string maxLength canonical) (.string text)
  | bytes (text : Bytes) : Conforms .bytes (.string text)
  | enum {values : List EnumValue} {known : EnumValue} {value : Json} (hnull : value ≠ .null)
      (hmem : known ∈ values) (hknown : reading.isKnown known value) :
      Conforms (.enum (some values)) value
  | anyEnumString (text : Bytes) : Conforms (.enum none) (.string text)
  | anyEnumInteger {value : Json} {n : ℤ} (hn : number value = some n) : Conforms (.enum none) value
  | bitmapString (text : Bytes) : Conforms .bitmap (.string text)
  | bitmapArray (items : List Json) : Conforms .bitmap (.array items)
  | bitmapNumber {value : Json} {n : ℤ} (hn : number value = some n) (hnonneg : 0 ≤ n) :
      Conforms .bitmap value
  | anyArray (items : List Json) : Conforms .anyArray (.array items)
  | array {type : DeclaredType} {items : List Json} (hitems : ∀ item ∈ items, Conforms type item) :
      Conforms (.array type) (.array items)
  | anyObject (members : List (Bytes × Json)) : Conforms .anyObject (.object members)
  | schema {name : Bytes} {fields : List Field} {members : List (Bytes × Json)}
      (hfields : fieldsOf schemas name = some fields)
      (hrequired : ∀ field ∈ fields, field.required = true → members.lookup field.name ≠ none)
      (hdeclared : ∀ field ∈ fields, members.lookup field.name ≠ none →
        typeIn reading schemas (.object members) field ≠ none)
      (hvalues : ∀ field ∈ fields, ∀ value type, members.lookup field.name = some value →
        typeIn reading schemas (.object members) field = some type → Conforms type value) :
      Conforms (.schema name) (.object members)

/-! ### What the check misses -/

mutual

/-- The value of a field is, or holds, one of these: a number in a field of type `number`; an array
whose items have the schema of the field; an array of arrays; a value of a type that begins like an
integer type and names no number of bits; a bitmap kept as a signed integer. -/
inductive Missed : Field → Json → Prop
  | number {field : Field} {value : Json} (htype : field.type = ascii "number")
      (hfree : fieldsOf schemas (ascii "number") = none) : Missed field value
  | fieldSchema {field : Field} {value : Json} (htype : field.type = ascii "array")
      (harray : field.array = none) : Missed field value
  | unnamedItems {field : Field} {array : SchemaArray} {items : List Json}
      (htype : field.type = ascii "array") (harray : field.array = some array)
      (hname : array.itemSchema = none ∧ array.itemType = none) (hitems : items ≠ []) :
      Missed field (.array items)
  | item {field : Field} {name : Bytes} {items : List Json} {item : Json}
      (htype : field.type = ascii "array") (hname : itemName field = some name)
      (hitem : item ∈ items) (h : Missed (itemField name) item) : Missed field (.array items)
  | integerName {field : Field} {value : Json} (hstarts : StartsInteger field.type)
      (hname : prefixedType field.type = none) : Missed field value
  | bitmap {field : Field} {value : Int64} (htype : field.type = ascii "bitmap") :
      Missed field (.integer value)
  | nested {field : Field} {name : Bytes} {value : Json}
      (htype : typeOf reading schemas field = .schema name) (h : MissedIn name value) :
      Missed field value

/-- An object of a schema holds such a value in one of its fields. -/
inductive MissedIn : Bytes → Json → Prop
  | member {name : Bytes} {fields : List Field} {field : Field} {object value : Json}
      (hfields : fieldsOf schemas name = some fields) (hmem : field ∈ fields)
      (hvalue : object.member field.name = some value)
      (h : Missed (chosen object field) value) : MissedIn name object

end

/-! ### Where the readings agree -/

end SchemaLanguage

end Axtp
