/-
  The JSON envelope, written and read.

  What the encoder puts into an envelope is found there again: the op, the sid, `d` and the
  endpoint metadata (`find_addEndpointMetadata`, `decodeEndpointMetadata_of_add`). The
  envelope is valid if its strings are UTF-8, as those that come from a parsed text are.
-/
import Axtp.Equiv.AxtpCore
import Axtp.Wire.JsonRpcPayloadDecoder

namespace Axtp

open Json

/-! ### Members -/

namespace Json

@[simp] theorem isObject_set (target : Json) (key : String) (value : Json) :
    (target.set key value).isObject = target.isObject := by
  cases target <;> rfl

theorem isObject_emptyObject : emptyObject.isObject = true := rfl

theorem find_set_of_isObject {target : Json} (h : target.isObject = true) (key k : String)
    (value : Json) :
    (target.set key value).find k = if ascii k = ascii key then some value else target.find k := by
  cases target with
  | object members => exact find_set
  | _ => cases h

theorem find_set_self {target : Json} (h : target.isObject = true) (key : String) (value : Json) :
    (target.set key value).find key = some value := by
  rw [find_set_of_isObject h, if_pos rfl]

theorem find_set_of_ne {target : Json} (h : target.isObject = true) {key k : String}
    (hne : ascii k ≠ ascii key) (value : Json) : (target.set key value).find k = target.find k := by
  rw [find_set_of_isObject h, if_neg hne]

/-- The string members of a valid value are UTF-8. -/
theorem isUtf8_of_find {object : Json} (hobject : object.Valid) {key : String} {value : Bytes}
    (h : (object.find key).bind getString = some value) : isUtf8 value = true := by
  obtain ⟨member, hfind, hstring⟩ := Option.bind_eq_some_iff.mp h
  have hvalid := hobject.find hfind
  cases hvalid with
  | string hutf8 =>
    obtain rfl := Option.some.inj hstring
    exact hutf8
  | _ => cases hstring

end Json

/-! ### Endpoint metadata -/

/-- The endpoint fields are UTF-8. -/
def EndpointMetadata.IsUtf8 (metadata : EndpointMetadata) : Prop :=
  ∀ endpoint, metadata.src = some endpoint ∨ metadata.dst = some endpoint → isUtf8 endpoint = true

theorem EndpointMetadata.IsUtf8.response {metadata : EndpointMetadata} (h : metadata.IsUtf8) :
    (responseEndpointMetadata metadata).IsUtf8 :=
  fun endpoint hendpoint => h endpoint hendpoint.symm

theorem EndpointMetadata.Writable.response {metadata : EndpointMetadata} (h : metadata.Writable) :
    (responseEndpointMetadata metadata).Writable :=
  ⟨h.2, h.1⟩

/-- The metadata object that is written. -/
def wireMetadata (metadata : EndpointMetadata) : Json :=
  let addField (field : String) (endpoint : Option Bytes) (wire : Json) : Json :=
    match endpoint with
    | none => wire
    | some endpoint => wire.set field (.string endpoint)
  addField "dst" metadata.dst (addField "src" metadata.src .emptyObject)

variable {object document : Json} {metadata : EndpointMetadata}

/-- What is written for metadata that can be written. -/
theorem addEndpointMetadata_of_writable (object : Json) (h : metadata.Writable) :
    addEndpointMetadata object metadata =
      some (if hasEndpointMetadata metadata then object.set "m"
        (wireMetadata metadata) else object) := by
  obtain ⟨src, dst⟩ := metadata
  obtain ⟨hsrc, hdst⟩ := h
  rcases src with _ | src <;> rcases dst with _ | dst
  · rfl
  · have hdst : dst ≠ [] := fun h => hdst (by rw [h])
    simp [addEndpointMetadata, hasEndpointMetadata, addEndpoint, wireMetadata, hdst]
  · have hsrc : src ≠ [] := fun h => hsrc (by rw [h])
    simp [addEndpointMetadata, hasEndpointMetadata, addEndpoint, wireMetadata, hsrc]
  · have hsrc : src ≠ [] := fun h => hsrc (by rw [h])
    have hdst : dst ≠ [] := fun h => hdst (by rw [h])
    simp [addEndpointMetadata, hasEndpointMetadata, addEndpoint, wireMetadata, hsrc, hdst]

theorem writable_of_addEndpointMetadata (h : addEndpointMetadata object metadata = some document) :
    metadata.Writable := by
  by_contra hnot
  rw [(addEndpointMetadata_eq_none_iff object metadata).mpr hnot] at h
  cases h

/-- The other members stay. -/
theorem find_addEndpointMetadata (hobject : object.isObject = true)
    (h : addEndpointMetadata object metadata = some document) :
    document.isObject = true ∧
      ∀ key, ascii key ≠ ascii "m" → document.find key = object.find key := by
  rw [addEndpointMetadata_of_writable object (writable_of_addEndpointMetadata h)] at h
  obtain rfl := Option.some.inj h
  split_ifs
  · exact ⟨by rw [isObject_set]; exact hobject, fun key hkey => find_set_of_ne hobject hkey _⟩
  · exact ⟨hobject, fun key _ => rfl⟩

/-- **The endpoint metadata that was added is read again.** -/
theorem decodeEndpointMetadata_of_add (hobject : object.isObject = true)
    (hm : object.find "m" = none)
    (h : addEndpointMetadata object metadata = some document) :
    decodeEndpointMetadata document = some metadata := by
  have hwritable := writable_of_addEndpointMetadata h
  rw [addEndpointMetadata_of_writable object hwritable] at h
  obtain rfl := Option.some.inj h
  have hne : ascii "src" ≠ ascii "dst" := by decide
  have hempty (field : String) : emptyObject.find field = none := rfl
  obtain ⟨src, dst⟩ := metadata
  obtain ⟨hsrc, hdst⟩ := hwritable
  -- without fields no member m is written, with one or both it holds just these
  rcases src with _ | src <;> rcases dst with _ | dst
  · rw [decodeEndpointMetadata]
    simp [hasEndpointMetadata, hm]
  · have hdst : dst ≠ [] := fun h => hdst (by rw [h])
    rw [decodeEndpointMetadata, hasEndpointMetadata]
    simp only [Option.isSome_none, Option.isSome_some, Bool.or_true, if_true,
      find_set_self hobject, wireMetadata, isObject_set, find_set_self isObject_emptyObject,
      find_set_of_ne isObject_emptyObject hne, hempty]
    simp [emptyObject, isObject, getString, hdst]
  · have hsrc : src ≠ [] := fun h => hsrc (by rw [h])
    rw [decodeEndpointMetadata, hasEndpointMetadata]
    simp only [Option.isSome_none, Option.isSome_some, Bool.or_false, if_true,
      find_set_self hobject, wireMetadata, isObject_set, find_set_self isObject_emptyObject,
      find_set_of_ne isObject_emptyObject hne.symm, hempty]
    simp [emptyObject, isObject, getString, hsrc]
  · have hsrc : src ≠ [] := fun h => hsrc (by rw [h])
    have hdst : dst ≠ [] := fun h => hdst (by rw [h])
    have hfirst : (emptyObject.set "src" (.string src)).isObject = true := rfl
    rw [decodeEndpointMetadata, hasEndpointMetadata]
    simp only [Option.isSome_some, Bool.or_true, if_true, find_set_self hobject, wireMetadata,
      isObject_set, find_set_self hfirst, find_set_of_ne hfirst hne,
      find_set_self isObject_emptyObject]
    simp [emptyObject, isObject, getString, hsrc, hdst]

theorem valid_wireMetadata (h : metadata.IsUtf8) : (wireMetadata metadata).Valid := by
  obtain ⟨src, dst⟩ := metadata
  rcases src with _ | src <;> rcases dst with _ | dst
  · exact valid_emptyObject
  · exact valid_emptyObject.set (.string (h dst (.inr rfl)))
  · exact valid_emptyObject.set (.string (h src (.inl rfl)))
  · exact (valid_emptyObject.set (.string (h src (.inl rfl)))).set (.string (h dst (.inr rfl)))

theorem valid_addEndpointMetadata (hobject : object.Valid) (hutf8 : metadata.IsUtf8)
    (h : addEndpointMetadata object metadata = some document) : document.Valid := by
  rw [addEndpointMetadata_of_writable object (writable_of_addEndpointMetadata h)] at h
  obtain rfl := Option.some.inj h
  split_ifs
  · exact hobject.set (valid_wireMetadata hutf8)
  · exact hobject

/-- An endpoint that was read is a string, and it is not empty. -/
theorem of_parseEndpoint {wire : Json} (hvalid : wire.Valid) {field : String}
    {endpoint : Option Bytes}
    (hparse : (match wire.find field with
      | none => some none
      | some value => do
        let endpoint ← value.getString
        if endpoint = [] then none else some (some endpoint)) = some endpoint) :
    endpoint ≠ some [] ∧ ∀ e, endpoint = some e → isUtf8 e = true := by
  rcases hfind : wire.find field with _ | value
  · rw [hfind] at hparse
    obtain rfl := Option.some.inj hparse
    simp
  · rw [hfind] at hparse
    simp only [Option.bind_eq_bind, Option.bind_eq_some_iff] at hparse
    obtain ⟨e, hstring, hparse⟩ := hparse
    split_ifs at hparse with hnil
    obtain rfl := Option.some.inj hparse
    refine ⟨by simpa using hnil, fun e' he' => ?_⟩
    obtain rfl := Option.some.inj he'
    have hmember : (wire.find field).bind getString = some e := by
      rw [hfind]
      exact hstring
    exact isUtf8_of_find hvalid hmember

/-- Metadata that was read is UTF-8 and can be written. -/
theorem of_decodeEndpointMetadata (hobject : object.Valid)
    (h : decodeEndpointMetadata object = some metadata) : metadata.IsUtf8 ∧ metadata.Writable := by
  unfold decodeEndpointMetadata at h
  rcases hm : object.find "m" with _ | wire
  · rw [hm] at h
    obtain rfl := Option.some.inj h
    exact ⟨by simp [EndpointMetadata.IsUtf8], by simp [EndpointMetadata.Writable]⟩
  rw [hm] at h
  simp only at h
  split_ifs at h with hwire
  have hvalid := hobject.find hm
  simp only [Option.bind_eq_bind, Option.bind_eq_some_iff] at h
  obtain ⟨src, hsrc, dst, hdst, heq⟩ := h
  obtain rfl := Option.some.inj heq
  obtain ⟨hsrcNil, hsrcUtf8⟩ := of_parseEndpoint hvalid hsrc
  obtain ⟨hdstNil, hdstUtf8⟩ := of_parseEndpoint hvalid hdst
  refine ⟨fun endpoint hendpoint => ?_, hsrcNil, hdstNil⟩
  rcases hendpoint with hendpoint | hendpoint
  · exact hsrcUtf8 endpoint hendpoint
  · exact hdstUtf8 endpoint hendpoint

/-! ### The envelope -/

namespace JsonRpcEncoder

variable {sid : Bytes} {op : RpcOp} {d : Json}

theorem isObject_envelope : (envelope sid op d).isObject = true := rfl

variable (op) in
theorem valid_envelope (hsid : isUtf8 sid = true) (hd : d.Valid) : (envelope sid op d).Valid :=
  ((valid_emptyObject.set (.string hsid)).set (.unsigned _)).set hd

theorem find_envelope_d : (envelope sid op d).find "d" = some d :=
  find_set_self rfl "d" d

theorem find_envelope_op : (envelope sid op d).find "op" = some (.unsigned op.value.toUInt64) := by
  rw [envelope, find_set_of_ne (by rfl) (by decide), find_set_self (by rfl)]

theorem find_envelope_sid : (envelope sid op d).find "sid" = some (.string sid) := by
  rw [envelope, find_set_of_ne (by rfl) (by decide), find_set_of_ne (by rfl) (by decide),
    find_set_self (by rfl)]

theorem find_envelope_m : (envelope sid op d).find "m" = none := by
  rw [envelope, find_set_of_ne (by rfl) (by decide), find_set_of_ne (by rfl) (by decide),
    find_set_of_ne (by rfl) (by decide)]
  rfl

theorem isUtf8_errorName (code : ErrorCode) : isUtf8 (errorName code) = true := by
  rw [errorName]
  rcases hname : RegistryLookup.errorByCode code with _ | name
  · exact isUtf8_ascii "UNKNOWN_ERROR"
  · exact isUtf8_of_lt (RegistryLookup.isAscii_of_nameById hname)

theorem valid_statusObject (code : ErrorCode) : (statusObject code).Valid := by
  have hobject : ((emptyObject.set "ok" (.boolean (code = ErrorCode.success))).set "code"
      (.unsigned code.value.toUInt64)).Valid :=
        (valid_emptyObject.set (.boolean _)).set (.unsigned _)
  simp only [statusObject]
  split_ifs
  · exact hobject.set (.string (isUtf8_errorName code))
  · exact hobject

/-! ### What a session announces -/

variable {lib : JsonLibrary}

theorem encode_makeHello (hlib : lib.Lawful) : (encode lib makeHello).isSome = true := by
  have hd : (emptyObject.set "axtpVersion" (.string kSpecVersion)).Valid :=
    valid_emptyObject.set (.string (isUtf8_ascii _))
  obtain ⟨text, hdump, -⟩ := hlib.parse_dump (@valid_envelope [] RpcOp.hello _ rfl hd)
  have hdocument : document lib makeHello =
      some (envelope [] RpcOp.hello (emptyObject.set "axtpVersion" (.string kSpecVersion))) := rfl
  rw [encode, hdocument, Option.bind_some, hdump]
  rfl

theorem encode_makeIdentified (hlib : lib.Lawful) {sid : Bytes} (hsid : isUtf8 sid = true) :
    (encode lib (makeIdentified sid)).isSome = true := by
  obtain ⟨text, hdump, -⟩ :=
    hlib.parse_dump (valid_envelope RpcOp.identified hsid valid_emptyObject)
  have hdocument : document lib (makeIdentified sid) =
      some (envelope sid RpcOp.identified emptyObject) := rfl
  rw [encode, hdocument, Option.bind_some, hdump]
  rfl

end JsonRpcEncoder

theorem AxtpCore.isUtf8_hex8 (value : UInt32) : isUtf8 (AxtpCore.hex8 value) = true := by
  refine isUtf8_of_lt fun a ha => ?_
  obtain ⟨i, -, rfl⟩ := List.mem_map.mp ha
  rw [List.getD_eq_getElem?_getD]
  rcases hget : (ascii "0123456789ABCDEF")[value.toNat / 16 ^ i % 16]? with _ | digit
  · decide
  · exact lt_of_mem_ascii (List.mem_of_getElem? hget)

theorem AxtpCore.hex8_ne_nil (value : UInt32) : AxtpCore.hex8 value ≠ [] := by
  simp [AxtpCore.hex8]

/-- A JSON payload that can be encoded can be sent in either mode. -/
theorem OutboundProcessor.sendRpc_isSome {lib : JsonLibrary} (o : OutboundProcessor)
    {payload : RpcPayload} (hencoding : payload.encoding = RpcEncoding.json)
    (h : (JsonRpcEncoder.encode lib payload).isSome = true) :
    (o.sendRpc lib payload).isSome = true := by
  obtain ⟨text, htext⟩ := Option.isSome_iff_exists.mp h
  have hrefused : ¬ PayloadEncoder.Refused payload := by
    simp [PayloadEncoder.Refused, hencoding, isJsonBinaryRpcEncoding, RpcEncoding.json]
  rw [OutboundProcessor.sendRpc, PayloadEncoder.encodeRpc, if_neg hrefused, htext]
  split_ifs <;> rfl

/-- The op that was written is read again. -/
theorem parseOp_of_find {op : RpcOp} (h : object.find "op" = some (.unsigned op.value.toUInt64)) :
    JsonRpcPayloadDecoder.parseOp object = some op := by
  have hvalue : op.value.toUInt64.toInt64.toInt = op.value.toNat := by
    have hlt := op.value.toNat_lt
    change op.value.toUInt64.toBitVec.toInt = _
    rw [BitVec.toInt_eq_toNat_of_lt]
    · simp
    · simp
      omega
  rw [JsonRpcPayloadDecoder.parseOp, h]
  simp only [getInt64, Option.bind_eq_bind, Option.bind_some, hvalue]
  have hlt := op.value.toNat_lt
  rw [if_neg (by omega)]
  simp

theorem parseSid_of_find {sid : Bytes} (h : object.find "sid" = some (.string sid)) :
    JsonRpcPayloadDecoder.parseSid object = sid := by
  rw [JsonRpcPayloadDecoder.parseSid, h]
  rfl

end Axtp
