/-
  What is read of the normal form of an envelope.

  A parsed text is the normal form of the value that was dumped, where an integer may have
  changed its kind. The decoder does not see the difference: each part of an envelope is
  read of the normal form as it is of the value, and a member that is dumped again has the
  same text (`decodeObject_normalize`).
-/
import Axtp.Json.Members
import Axtp.Wire.JsonRpcPayloadDecoder

namespace Axtp

open Json

theorem decodeEndpointMetadata_normalize (object : Json) :
    decodeEndpointMetadata object.normalize = decodeEndpointMetadata object := by
  unfold decodeEndpointMetadata
  rw [find_normalize]
  rcases object.find "m" with _ | metadata
  · rfl
  · simp only [Option.map_some, isObject_normalize, find_normalize]
    rcases metadata.find "src" with _ | src <;> rcases metadata.find "dst" with _ | dst <;>
      simp only [Option.map_none, Option.map_some, getString_normalize]

namespace JsonRpcPayloadDecoder

/-! ### The fields -/

variable (object d : Json)

theorem parseOp_normalize : parseOp object.normalize = parseOp object := by
  unfold parseOp
  rw [find_normalize]
  rcases object.find "op" with _ | op
  · rfl
  · simp only [Option.map_some, Option.bind_eq_bind, Option.bind_some, getInt64_normalize]

theorem parseSid_normalize : parseSid object.normalize = parseSid object := by
  unfold parseSid
  rw [find_normalize]
  rcases object.find "sid" with _ | sid
  · rfl
  · simp only [Option.map_some, Option.bind_some, getString_normalize]

theorem parseRequestId_normalize (allowZero : Bool) :
    parseRequestId d.normalize allowZero = parseRequestId d allowZero := by
  unfold parseRequestId
  rw [find_normalize]
  rcases d.find "id" with _ | requestId
  · rfl
  · simp only [Option.map_some, Option.bind_eq_bind, Option.bind_some, getUnsigned_normalize]

theorem parseStatusCode_normalize : parseStatusCode d.normalize = parseStatusCode d := by
  unfold parseStatusCode
  rw [find_normalize]
  rcases d.find "status" with _ | status
  · rfl
  · simp only [Option.bind_eq_bind, Option.map_some, Option.bind_some, find_normalize]
    rcases status.find "ok" with _ | ok <;> rcases status.find "code" with _ | code <;>
      simp only [Option.map_none, Option.map_some, Option.bind_some, getBoolean_normalize,
        getUnsigned_normalize]

theorem parseRandomSeed_normalize : parseRandomSeed d.normalize = parseRandomSeed d := by
  unfold parseRandomSeed
  rw [find_normalize]
  rcases d.find "randomSeed" with _ | randomSeed
  · rfl
  · simp only [Option.map_some, getUnsigned_normalize]

theorem hasUnsupportedTransitionRpcVersion_normalize (fieldName : String) :
    hasUnsupportedTransitionRpcVersion d.normalize fieldName =
      hasUnsupportedTransitionRpcVersion d fieldName := by
  unfold hasUnsupportedTransitionRpcVersion
  rw [find_normalize]
  rcases d.find fieldName with _ | field
  · rfl
  · simp only [Option.map_some, isInteger_normalize, getInt64_normalize]

theorem fillJsonMeta_normalize (payload : RpcPayload) (sourceProtocol : SourceProtocol) :
    fillJsonMeta payload object.normalize sourceProtocol =
      fillJsonMeta payload object sourceProtocol := by
  rw [fillJsonMeta, fillJsonMeta, decodeEndpointMetadata_normalize, parseSid_normalize]

/-! ### The messages -/

variable {lib : JsonLibrary} (sourceProtocol : SourceProtocol)
  (methodLookup eventLookup : NameLookup)

theorem memberToBytes_normalize (hlib : lib.Lawful) (field : String) :
    memberToBytes lib d.normalize field = memberToBytes lib d field := by
  unfold memberToBytes
  rw [find_normalize]
  rcases d.find field with _ | value
  · rfl
  · exact hlib.dump_normalize value

theorem decodeRequest_normalize (hlib : lib.Lawful) :
    decodeRequest lib object.normalize d.normalize sourceProtocol methodLookup =
      decodeRequest lib object d sourceProtocol methodLookup := by
  unfold decodeRequest
  rw [find_normalize]
  rcases d.find "method" with _ | method
  · rfl
  · simp only [Option.map_some, Option.bind_eq_bind, Option.bind_some, getString_normalize,
      parseRequestId_normalize, fillJsonMeta_normalize, memberToBytes_normalize _ hlib]

theorem decodeResponse_normalize (hlib : lib.Lawful) (op : RpcOp) :
    decodeResponse lib object.normalize d.normalize op sourceProtocol =
      decodeResponse lib object d op sourceProtocol := by
  unfold decodeResponse
  rw [find_normalize]
  rcases hresult : d.find "result" with _ | result
  · simp only [parseRequestId_normalize, parseStatusCode_normalize, fillJsonMeta_normalize,
      Option.map_none, hlib.dump_normalize]
  · simp only [parseRequestId_normalize, parseStatusCode_normalize, fillJsonMeta_normalize,
      Option.map_some, hlib.dump_normalize]

theorem decodeEvent_normalize (hlib : lib.Lawful) :
    decodeEvent lib object.normalize d.normalize sourceProtocol eventLookup =
      decodeEvent lib object d sourceProtocol eventLookup := by
  unfold decodeEvent
  rw [find_normalize]
  rcases d.find "event" with _ | event
  · rfl
  · simp only [Option.map_some, Option.bind_eq_bind, Option.bind_some, getString_normalize,
      fillJsonMeta_normalize, memberToBytes_normalize _ hlib]

theorem decodeSessionRpc_normalize (hlib : lib.Lawful) (op : RpcOp) :
    decodeSessionRpc lib object.normalize d.normalize op sourceProtocol =
      decodeSessionRpc lib object d op sourceProtocol := by
  simp only [decodeSessionRpc, fillJsonMeta_normalize, parseRandomSeed_normalize,
    hasUnsupportedTransitionRpcVersion_normalize, hlib.dump_normalize]

theorem decodeBatch_normalize (hlib : lib.Lawful) :
    decodeBatch lib object.normalize d.normalize sourceProtocol =
      decodeBatch lib object d sourceProtocol := by
  simp only [decodeBatch, parseRequestId_normalize, fillJsonMeta_normalize, hlib.dump_normalize]

/-- **The normal form of an envelope** is decoded as the envelope is. -/
theorem decodeObject_normalize (hlib : lib.Lawful) :
    decodeObject lib object.normalize sourceProtocol methodLookup eventLookup =
      decodeObject lib object sourceProtocol methodLookup eventLookup := by
  unfold decodeObject
  rw [parseOp_normalize, find_normalize]
  rcases object.find "d" with _ | d
  · rfl
  · simp only [Option.map_some, Option.bind_eq_bind, Option.bind_some, isObject_normalize,
      decodeRequest_normalize _ _ _ _ hlib, decodeResponse_normalize _ _ _ hlib,
      decodeEvent_normalize _ _ _ _ hlib, decodeSessionRpc_normalize _ _ _ hlib,
      decodeBatch_normalize _ _ _ hlib]

end JsonRpcPayloadDecoder

end Axtp
