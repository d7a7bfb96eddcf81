/-
  `MethodRegistryJson` (`json_rpc/method_registry_json.hpp`): a method registry read from a
  JSON document. Entries that are not understood are passed over.
-/
import Axtp.Json.Value
import Axtp.Lib.Stoull
import Axtp.Runtime.BusinessRouter

namespace Axtp.MethodRegistryJson

/-- The id of a method: an integer or a string. -/
def parseId : Json → Option UInt32
  | .unsigned raw => if raw ≤ 0xFFFFFFFF then some raw.toUInt32 else none
  | .integer raw => if 0 ≤ raw ∧ raw ≤ 0xFFFFFFFF then some raw.toUInt64.toUInt32 else none
  | .string text =>
    let (offset, base) :=
      if text.length > 2 ∧ text[0]? = some 0x30 ∧ (text[1]? = some 0x78 ∨ text[1]? = some 0x58) then
        (2, 16)
      else (0, 10)
    -- what `stoull` throws is caught
    match Stoull.stoull (text.drop offset) base with
    | some parsed => if parsed ≤ 0xFFFFFFFF then some (UInt32.ofNat parsed) else none
    | none => none
  | _ => none

/-- The method that the loop adds for an entry of the list. -/
def entryMethod (value : Json) : Option (UInt32 × Bytes) :=
  if value.isObject then
    match value.find "id", value.find "name" with
    | some id, some (.string name) =>
      match parseId id with
      | some parsedId => some (parsedId, name)
      | none => none
    | _, _ => none
  else none

/-- The value that should be the list: the member `methods`, or the document itself. -/
def methodsOf (parsed : Json) : Json :=
  if parsed.isObject then (parsed.find "methods").getD parsed else parsed

/-- `fromJson`, `none` where the text is not JSON and the library throws. -/
def fromJson (lib : JsonLibrary) (json : Bytes) : Option MethodRegistry :=
  match lib.parse json with
  | none => none
  | some parsed =>
    match methodsOf parsed with
    | .array values =>
      some (values.foldl (fun registry value =>
        match entryMethod value with
        | some (parsedId, name) => registry.addMethod parsedId name
        | none => registry) {})
    | _ => some {}

end Axtp.MethodRegistryJson
