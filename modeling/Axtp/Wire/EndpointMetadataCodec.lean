/-
  The endpoint metadata of a JSON envelope
  (`wire/websocket_json_rpc/endpoint_metadata_codec.hpp`). `none` stands for an
  exception.
-/
import Axtp.Json.Value
import Axtp.Model.Types

namespace Axtp

def decodeEndpointMetadata (object : Json) : Option EndpointMetadata :=
  match object.find "m" with
  | none => some {}
  | some metadata =>
    if metadata.isObject then do
      let parseEndpoint (field : String) : Option (Option Bytes) :=
        match metadata.find field with
        | none => some none
        | some value => do
          let endpoint ← value.getString
          if endpoint = [] then none else some (some endpoint)
      let src ← parseEndpoint "src"
      let dst ← parseEndpoint "dst"
      return { src, dst }
    else none

/-- `addEndpoint`: the metadata object with one more field, if the endpoint is set. -/
def addEndpoint (field : String) (endpoint : Option Bytes) (wireMetadata : Json) : Option Json :=
  match endpoint with
  | none => some wireMetadata
  | some endpoint =>
    if endpoint = [] then none else some (wireMetadata.set field (.string endpoint))

def addEndpointMetadata (object : Json) (metadata : EndpointMetadata) : Option Json :=
  if ¬ hasEndpointMetadata metadata then some object
  else do
    let wireMetadata ← addEndpoint "src" metadata.src .emptyObject
    let wireMetadata ← addEndpoint "dst" metadata.dst wireMetadata
    return object.set "m" wireMetadata

end Axtp
