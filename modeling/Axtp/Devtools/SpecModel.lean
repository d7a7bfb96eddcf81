/-
  The registries of the generator (`models.ts`) and their validation
  (`domainRegistry.ts`, `validator.ts`).

  The ids are integers, as `normalizeId` makes them when a source is loaded; they may be
  negative or of any size. `>>` works on the last 32 bits of a number, which it reads with
  their sign. A check that throws is false here.
-/
import Axtp.Devtools.Validator
import Mathlib.Data.List.Dedup
import Mathlib.Data.List.Sort

namespace Axtp

namespace Devtools

/-! ### `models.ts` -/

structure RegistryItem where
  id : ℤ
  name : Bytes
  domain : Bytes
  status : Bytes

structure DomainRange where
  highByte : ℤ
  domain : Bytes

structure Method extends RegistryItem where
  bitOffset : ℤ
  requestSchema : Option Bytes := none
  responseSchema : Option Bytes := none
  capabilities : List Bytes := []
  events : List Bytes := []
  errors : List Bytes := []

structure Event extends RegistryItem where
  bitOffset : ℤ
  eventSchema : Option Bytes := none

structure ErrorItem extends RegistryItem

structure Capability extends RegistryItem where
  schema : Option Bytes := none

structure LegacyMapping where
  legacyProtocol : Bytes
  legacyCmdValue : ℤ
  legacyName : Bytes
  axtpMethodId : ℤ
  statusMapping : List (Bytes × Bytes)

structure MvpProfile where
  methods : List Bytes := []
  events : List Bytes := []
  errors : List Bytes := []
  capabilities : List Bytes := []

structure SpecModel where
  payloadTypes : List RegistryItem := []
  controlOpcodes : List RegistryItem := []
  rpcEncodings : List RegistryItem := []
  rpcBodyEncodings : List RegistryItem := []
  rpcOps : List RegistryItem := []
  domainRegistry : List DomainRange := []
  methods : List Method := []
  events : List Event := []
  errors : List ErrorItem := []
  capabilities : List Capability := []
  legacyMappings : List LegacyMapping := []
  schemas : List Schema := []
  mvpProfile : MvpProfile := {}

/-! ### `domainRegistry.ts` -/

/-- The operand of a shift: the last 32 bits of a number, with their sign. -/
def toInt32 (number : ℤ) : ℤ := number.bmod (2 ^ 32)

/-- `id >> 8`. -/
def highByteOf (id : ℤ) : ℤ := toInt32 id / 2 ^ 8

/-- A map from high bytes to domains, the last entry first. -/
abbrev DomainByHighByte := List (ℤ × Bytes)

def isRegistryHighByte (highByte : ℤ) : Bool := 0x00 < highByte ∧ highByte < 0x70

def addDomain (mapping : DomainByHighByte) (highByte : ℤ) (domain : Bytes) :
    Option DomainByHighByte :=
  if highByte < 0x00 ∨ highByte > 0xFF then none
  else if ∃ existing ∈ given (mapping.lookup highByte), existing ≠ domain then none
  else some ((highByte, domain) :: mapping)

def addItemDomain (mapping : DomainByHighByte) (item : RegistryItem) : Option DomainByHighByte :=
  if isRegistryHighByte (highByteOf item.id) then addDomain mapping (highByteOf item.id) item.domain
  else some mapping

def buildDomainByHighByteFromRegistry (domainRegistry : List DomainRange) :
    Option DomainByHighByte :=
  domainRegistry.foldlM (fun mapping range => addDomain mapping range.highByte range.domain) []

def buildSourceDomainByHighByte (source : SpecModel) : Option DomainByHighByte := do
  let declared ← buildDomainByHighByteFromRegistry source.domainRegistry
  if declared ≠ [] then return declared
  else
    let mapping ← (source.methods.map Method.toRegistryItem).foldlM addItemDomain []
    let mapping ← (source.events.map Event.toRegistryItem).foldlM addItemDomain mapping
    (source.errors.map ErrorItem.toRegistryItem).foldlM addItemDomain mapping

/-! ### `validator.ts` -/

namespace SpecModel

def assertUniqueIds (items : List RegistryItem) : Bool :=
  uniqueKeys [] (items.map fun item => (item.id, item.name))

def assertRegistryDomainRange (zeroByteDomains : List Bytes) (domainByHighByte : DomainByHighByte)
    (item : RegistryItem) : Bool :=
  let highByte := highByteOf item.id
  match given (domainByHighByte.lookup highByte) with
  | some expected => item.domain = expected
  | none =>
    (highByte = 0x00 ∧ isAmong item.domain zeroByteDomains) ∨
      (highByte ≥ 0x70 ∧ highByte ≤ 0x7E ∧ item.domain = ascii "vendor") ∨
      (highByte = 0x7F ∧ item.domain = ascii "legacy")

def assertRegistryDomainRanges (items : List RegistryItem) (zeroByteDomains : List Bytes)
    (domainByHighByte : DomainByHighByte) : Bool :=
  items.all (assertRegistryDomainRange zeroByteDomains domainByHighByte)

/-- The bit offsets of the items of one domain, with the names of the items. -/
def assertBitOffsets (bitOffsets : List (ℤ × Bytes)) : Bool :=
  let bits := (bitOffsets.map Prod.fst).dedup.insertionSort (· ≤ ·)
  uniqueKeys [] bitOffsets = true ∧ bits = (List.range bits.length).map Int.ofNat

/-- The items with their bit offsets. -/
def assertDomainBitOffsets (items : List (RegistryItem × ℤ)) : Bool :=
  (∀ item ∈ items, 0 ≤ item.2) ∧
    ∀ domain ∈ items.map fun (item : RegistryItem × ℤ) => item.1.domain,
      assertBitOffsets ((items.filter fun item => item.1.domain = domain).map fun item =>
        (item.2, item.1.name)) = true

/-- The item of a name is reserved. Of items with one name the last counts. -/
def isReserved (items : List RegistryItem) (name : Bytes) : Bool :=
  match items.reverse.find? (fun item => item.name = name) with
  | some item => item.status = ascii "reserved"
  | none => false

def assertReservedReferences (spec : SpecModel) : Bool :=
  ∀ method ∈ spec.methods,
    (∀ capability ∈ method.capabilities,
      isReserved (spec.capabilities.map Capability.toRegistryItem) capability = false) ∧
    (∀ event ∈ method.events,
      isReserved (spec.events.map Event.toRegistryItem) event = false) ∧
    ∀ error ∈ method.errors, isReserved (spec.errors.map ErrorItem.toRegistryItem) error = false

def assertMvpItems (actual : List RegistryItem) (required : List Bytes) : Bool :=
  ∀ name ∈ required, isAmong name (actual.map RegistryItem.name)

def assertLegacyMappings (spec : SpecModel) : Bool :=
  uniqueKeys [] (spec.legacyMappings.map fun item =>
      (item.legacyProtocol ++ ascii ":" ++ ascii (toString item.legacyCmdValue), item.legacyName)) ∧
    ∀ item ∈ spec.legacyMappings,
      item.axtpMethodId ∈ spec.methods.map (fun method => method.id) ∧
        ∀ status ∈ item.statusMapping,
          isAmong status.2 (spec.errors.map fun error => error.name)

/-- The references of the registries to schemas. -/
def assertKnownSchemas (spec : SpecModel) : Bool :=
  let schemaNames := spec.schemas.map Schema.name
  (∀ method ∈ spec.methods, assertKnownSchema method.requestSchema schemaNames = true ∧
      assertKnownSchema method.responseSchema schemaNames = true) ∧
    (∀ event ∈ spec.events, assertKnownSchema event.eventSchema schemaNames = true) ∧
    ∀ capability ∈ spec.capabilities, assertKnownSchema capability.schema schemaNames = true

/-- `validateSpec`: no check throws. -/
def validateSpec (spec : SpecModel) : Bool :=
  let methods := spec.methods.map Method.toRegistryItem
  let events := spec.events.map Event.toRegistryItem
  let errors := spec.errors.map ErrorItem.toRegistryItem
  let capabilities := spec.capabilities.map Capability.toRegistryItem
  match buildSourceDomainByHighByte spec with
  | none => false
  | some domainByHighByte =>
    assertUniqueIds methods && assertUniqueNames (methods.map RegistryItem.name) &&
    assertUniqueIds events && assertUniqueNames (events.map RegistryItem.name) &&
    assertRegistryDomainRanges methods [] domainByHighByte &&
    assertRegistryDomainRanges events [] domainByHighByte &&
    assertDomainBitOffsets (spec.methods.map fun method =>
      (method.toRegistryItem, method.bitOffset)) &&
    assertDomainBitOffsets (spec.events.map fun event =>
      (event.toRegistryItem, event.bitOffset)) &&
    assertUniqueIds errors && assertUniqueNames (errors.map RegistryItem.name) &&
    assertUniqueIds capabilities && assertUniqueNames (capabilities.map RegistryItem.name) &&
    assertRegistryDomainRanges errors (["common", "frame", "control", "rpc"].map ascii)
      domainByHighByte &&
    assertRegistryDomainRanges capabilities (["protocol", "common", "reserved"].map ascii)
      domainByHighByte &&
    assertKnownSchemas spec && Devtools.validateSpec spec.schemas &&
    assertReservedReferences spec &&
    assertMvpItems methods spec.mvpProfile.methods &&
    assertMvpItems events spec.mvpProfile.events &&
    assertMvpItems errors spec.mvpProfile.errors &&
    assertMvpItems capabilities spec.mvpProfile.capabilities &&
    assertLegacyMappings spec

end SpecModel

end Devtools

end Axtp
