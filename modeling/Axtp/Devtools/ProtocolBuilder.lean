/-
  The protocol definition that the generator builds from its source
  (`protocolBuilder.ts`).

  A definition is kept as far as it names schemas, with the data beside these names that
  the builder computes. `schemas` is an object of the language: an entry that is assigned
  again keeps its place, and assigning to `__proto__` makes no entry.
-/
import Axtp.Devtools.SpecModel

namespace Axtp

namespace Devtools

/-- `ProtocolSourceModel`. -/
structure ProtocolSource extends SpecModel

/-! ### The definition -/

structure TypeArray where
  itemType : Option Bytes
  itemSchema : Option Bytes

structure TypeField where
  fieldId : ℕ
  name : Bytes
  type : Bytes
  required : Bool
  min : Option UInt64
  max : Option UInt64
  maxLength : Option UInt64
  schema : Option Bytes
  enumValues : Option (List Bytes)
  variants : Option SchemaVariants
  repeated : Bool
  array : Option TypeArray

structure TypeDefinition where
  kind : Bytes
  fields : List TypeField

structure MethodDefinition where
  name : Bytes
  methodId : ℤ
  bitOffset : ℤ
  domain : Bytes
  status : Bytes
  /-- `request.type`. -/
  request : Bytes
  /-- `response.type`. -/
  response : Bytes
  capabilities : List Bytes
  events : List Bytes
  errors : List Bytes

structure EventDefinition where
  name : Bytes
  eventId : ℤ
  bitOffset : ℤ
  domain : Bytes
  status : Bytes
  /-- `payload.type`. -/
  payload : Bytes

structure CapabilityDefinition where
  name : Bytes
  capabilityId : ℤ
  domain : Bytes
  status : Bytes
  schema : Option Bytes

structure ProtocolDefinition where
  schemas : List (Bytes × TypeDefinition)
  methods : List MethodDefinition
  events : List EventDefinition
  capabilities : List CapabilityDefinition

/-! ### The builder -/

namespace ProtocolSource

def protocolStatus (status : Bytes) : Bytes :=
  if status = ascii "mvp" then ascii "stable" else status

def emptySchemaNames (schemas : List Schema) : List Bytes :=
  (schemas.filter fun schema => schema.fields.length = 0).map Schema.name

def schemaRef (name : Option Bytes) (emptyNames : List Bytes) : Bytes :=
  match given name with
  | none => ascii "Empty"
  | some name => if isAmong name emptyNames then ascii "Empty" else name

def fieldToTypeField (field : Field) : TypeField :=
  let itemSchema := (field.array.bind SchemaArray.itemSchema).or field.schema
  let itemType := (field.array.bind SchemaArray.itemType).or itemSchema
  { fieldId := field.id
    name := field.name
    type := field.type
    required := field.required
    min := field.min
    max := field.max
    maxLength := field.maxLength
    schema := field.schema
    enumValues := field.enum.map fun values => values.map EnumValue.text
    variants := field.variants
    repeated := field.repeated
    array :=
      if field.type = ascii "array" ∨ field.repeated then some { itemType, itemSchema } else none }

/-- An assignment to an own entry of an object. -/
def assignOwn (name : Bytes) (value : TypeDefinition) :
    List (Bytes × TypeDefinition) → List (Bytes × TypeDefinition)
  | [] => [(name, value)]
  | entry :: rest =>
    if entry.1 = name then (name, value) :: rest else entry :: assignOwn name value rest

/-- `object[name] = value`. -/
def assign (object : List (Bytes × TypeDefinition)) (name : Bytes) (value : TypeDefinition) :
    List (Bytes × TypeDefinition) :=
  if name = ascii "__proto__" then object else assignOwn name value object

def emptyDefinition : TypeDefinition := { kind := ascii "object", fields := [] }

def typeDefinition (schema : Schema) : TypeDefinition where
  kind := schema.type
  fields := schema.fields.map fieldToTypeField

def buildSchemas (schemas : List Schema) : List (Bytes × TypeDefinition) :=
  schemas.foldl (fun result schema =>
    if schema.fields.length = 0 then result
    else assign result schema.name (typeDefinition schema))
    [(ascii "Empty", emptyDefinition)]

def methodToProtocol (method : Method) (emptyNames : List Bytes) : MethodDefinition where
  name := method.name
  methodId := method.id
  bitOffset := method.bitOffset
  domain := method.domain
  status := protocolStatus method.status
  request := schemaRef method.requestSchema emptyNames
  response := schemaRef method.responseSchema emptyNames
  capabilities := method.capabilities
  events := method.events
  errors := method.errors

def eventToProtocol (event : Event) (emptyNames : List Bytes) : EventDefinition where
  name := event.name
  eventId := event.id
  bitOffset := event.bitOffset
  domain := event.domain
  status := protocolStatus event.status
  payload := schemaRef event.eventSchema emptyNames

def capabilityToProtocol (capability : Capability) : CapabilityDefinition where
  name := capability.name
  capabilityId := capability.id
  domain := capability.domain
  status := protocolStatus capability.status
  schema := capability.schema

def buildProtocolDefinitionRaw (source : ProtocolSource) : ProtocolDefinition :=
  let emptyNames := emptySchemaNames source.schemas
  { schemas := buildSchemas source.schemas
    methods := source.methods.map fun method => methodToProtocol method emptyNames
    events := source.events.map fun event => eventToProtocol event emptyNames
    capabilities := source.capabilities.map capabilityToProtocol }

end ProtocolSource

/-! ### The names of schemas in a definition -/

/-- The schemas that a field names. An item type is a schema unless it is built in. -/
def TypeField.schemaNames (field : TypeField) : List Bytes :=
  (given field.schema).toList ++ (given (field.array.bind TypeArray.itemSchema)).toList ++
    ((given (field.array.bind TypeArray.itemType)).filter fun name =>
      !isAmong name itemBuiltins).toList ++
    field.variants.toList.flatMap fun variants => variants.mapping.map Prod.snd

/-- The names of schemas that occur in a definition. -/
def ProtocolDefinition.schemaNames (definition : ProtocolDefinition) : List Bytes :=
  (definition.methods.flatMap fun method => [method.request, method.response]) ++
    (definition.events.map EventDefinition.payload) ++
    (definition.capabilities.flatMap fun capability => (given capability.schema).toList) ++
    definition.schemas.flatMap fun entry => entry.2.fields.flatMap TypeField.schemaNames

end Devtools

end Axtp
