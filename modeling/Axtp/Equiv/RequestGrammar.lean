/-
  The decoder of JSON requests against their grammar.

  Each of the helper functions accepts what its part of the grammar says
  (`parseRequestId_eq_some`, `decodeEndpointMetadata_eq_some`, `decodeRequest_eq_some`),
  with one exception: `parseOp` reads the `op` as the library converts numbers, so a
  number with a fraction part is cut off (`parseOp_eq_request`).
-/
import Axtp.Equiv.JsonRpcPayloadDecoder
import Axtp.Json.Lawful
import Axtp.Spec.RequestGrammar

namespace Axtp

namespace JsonRpcPayloadDecoder

open Json RequestGrammar

variable {lib : JsonLibrary} {object d : Json} {sourceProtocol : SourceProtocol}
  {methodLookup eventLookup : NameLookup} {payload : RpcPayload}

/-! ### The helper functions -/

/-- The `op` is a number with a fraction part that is a 7 when the fraction is cut off. -/
def CoercedOp (object : Json) : Prop :=
  ∃ bits, object.find "op" = some (.float bits) ∧ truncate bits = 7

theorem getInt64_unsigned (m : UInt64) : m.toInt64.toInt = 7 ↔ (m.toNat : ℤ) = 7 := by
  constructor
  · intro h
    have hm : m = 7 := by
      rw [← UInt64.toUInt64_toInt64 m,
        Int64.toInt_inj.mp (h.trans (by decide : (7 : ℤ) = (7 : Int64).toInt))]
      rfl
    rw [hm]
    rfl
  · intro h
    have hm : m = 7 := UInt64.toNat_inj.mp (by exact_mod_cast h)
    rw [hm]
    rfl

theorem parseOp_eq_request :
    parseOp object = some RpcOp.request ↔ HasOp object ∨ CoercedOp object := by
  -- only 7 is the op of a request, whatever number was read
  have hop (raw : ℤ) : (if raw < 0 ∨ raw > 255 then none
      else some (⟨UInt8.ofNat raw.toNat⟩ : RpcOp)) = some RpcOp.request ↔ raw = 7 := by
    constructor
    · intro h
      split_ifs at h with hrange
      have hbyte := congrArg (fun op => op.value.toNat) (Option.some.inj h)
      simp only [RpcOp.request, UInt8.toNat_ofNat'] at hbyte
      have : (7 : UInt8).toNat = 7 := rfl
      omega
    · rintro rfl
      rfl
  unfold parseOp HasOp CoercedOp
  rcases object.find "op" with _ | value
  · simp
  · simp only [Option.bind_eq_bind, Option.bind_some, Option.some.injEq, exists_eq_left']
    cases value with
    | unsigned m =>
      refine (hop _).trans ((getInt64_unsigned m).trans ?_)
      simp [IsInteger]
    | integer m =>
      refine (hop _).trans ?_
      simp [IsInteger]
    | float bits =>
      refine (hop _).trans ?_
      simp [IsInteger]
    | _ => simp [getInt64, IsInteger]

theorem getUnsigned_eq_some {value : Json} {n : UInt64} :
    value.getUnsigned = some n ↔ IsInteger value n.toNat := by
  cases value with
  | unsigned m => simp [getUnsigned, IsInteger, UInt64.toNat_inj]
  | integer m =>
    simp only [getUnsigned, IsInteger]
    split_ifs with hneg
    · have := Int64.lt_iff_toInt_lt.mp hneg
      simp at this ⊢
      omega
    · have hnat := toNat_toUInt64_of_nonneg hneg
      rw [Option.some.injEq, ← UInt64.toNat_inj, ← hnat, Nat.cast_inj]
  | _ => simp [getUnsigned, IsInteger]

theorem parseRequestId_eq_some {requestId : UInt32} :
    parseRequestId d false = some requestId ↔ requestId ≠ 0 ∧
      ∃ id, d.find "id" = some id ∧ IsInteger id requestId.toNat := by
  unfold parseRequestId
  rcases d.find "id" with _ | id
  · simp
  simp only [Option.bind_eq_bind, Option.bind_some, Option.some.injEq, exists_eq_left',
    Option.bind_eq_some_iff, getUnsigned_eq_some]
  constructor
  · rintro ⟨raw, hraw, h⟩
    -- the range check is the one of 32 bits, without the zero
    rcases em ((¬ false = true ∧ raw = 0) ∨ raw > 0xFFFFFFFF) with hrange | hrange
    · rw [if_pos hrange] at h
      cases h
    · rw [if_neg hrange] at h
      obtain rfl := Option.some.inj h
      simp only [not_or, not_and, gt_iff_lt, UInt64.not_lt] at hrange
      have hle := UInt64.le_iff_toNat_le.mp hrange.2
      have hnat : raw.toUInt32.toNat = raw.toNat := by
        rw [UInt64.toNat_toUInt32]
        exact Nat.mod_eq_of_lt (lt_of_le_of_lt hle (by decide))
      refine ⟨fun hzero => hrange.1 (by simp) (UInt64.toNat_inj.mp ?_), by rwa [hnat]⟩
      rw [← hnat, hzero]
      rfl
  · rintro ⟨hne, hid⟩
    have hlt := requestId.toNat_lt
    refine ⟨requestId.toUInt64, by rwa [UInt32.toNat_toUInt64], ?_⟩
    rw [if_neg]
    · rw [UInt32.toUInt32_toUInt64]
    · rintro (⟨-, hzero⟩ | hbig)
      · refine hne (UInt32.toNat_inj.mp ?_)
        rw [← UInt32.toNat_toUInt64, hzero]
        rfl
      · have hbig := UInt64.lt_iff_toNat_lt.mp hbig
        rw [UInt32.toNat_toUInt64] at hbig
        have : (0xFFFFFFFF : UInt64).toNat = 4294967295 := rfl
        omega

/-- The lambda of `decodeEndpointMetadata`. -/
def parseEndpoint (metadata : Json) (field : String) : Option (Option Bytes) :=
  match metadata.find field with
  | none => some none
  | some value => do
    let endpoint ← value.getString
    if endpoint = [] then none else some (some endpoint)

theorem parseEndpoint_eq_some {metadata : Json} {field : String} {endpoint : Option Bytes} :
    parseEndpoint metadata field = some endpoint ↔ HasEndpoint metadata field endpoint := by
  unfold parseEndpoint HasEndpoint
  rcases metadata.find field with _ | value
  · cases endpoint <;> simp
  · cases value with
    | string text =>
      simp only [getString, Option.bind_eq_bind, Option.bind_some]
      rcases eq_or_ne text [] with rfl | hempty
      · cases endpoint <;> simp
      · rw [if_neg hempty]
        cases endpoint with
        | none => simp
        | some endpoint =>
          simp only [Option.some.injEq, Json.string.injEq]
          exact ⟨fun h => ⟨h ▸ hempty, h⟩, fun h => h.2⟩
    | _ => cases endpoint <;> simp [getString]

theorem decodeEndpointMetadata_eq_some {endpoint : EndpointMetadata} :
    decodeEndpointMetadata object = some endpoint ↔ HasMetadata object endpoint := by
  have heq : decodeEndpointMetadata object =
      match object.find "m" with
      | none => some {}
      | some metadata =>
        if metadata.isObject then do
          let src ← parseEndpoint metadata "src"
          let dst ← parseEndpoint metadata "dst"
          return { src, dst }
        else none := rfl
  rw [heq, HasMetadata]
  rcases object.find "m" with _ | metadata
  · exact ⟨fun h => .inl ⟨rfl, (Option.some.inj h).symm⟩, fun h => by
      rcases h with ⟨-, rfl⟩ | ⟨metadata, hfind, -⟩
      · rfl
      · cases hfind⟩
  · constructor
    · intro h
      simp only at h
      split_ifs at h with hobject
      simp only [Option.bind_eq_bind, Option.bind_eq_some_iff, parseEndpoint_eq_some] at h
      obtain ⟨src, hsrc, dst, hdst, hendpoint⟩ := h
      obtain rfl := Option.some.inj hendpoint
      exact .inr ⟨metadata, rfl, hobject, hsrc, hdst⟩
    · rintro (⟨hfind, -⟩ | ⟨metadata', hfind, hobject, hsrc, hdst⟩)
      · cases hfind
      · obtain rfl := Option.some.inj hfind
        simp only [hobject, if_true, parseEndpoint_eq_some.mpr hsrc,
          parseEndpoint_eq_some.mpr hdst]
        rfl

theorem memberToBytes_eq_some {body : Bytes} :
    memberToBytes lib d "params" = some body ↔ HasBody lib body (d.find "params") := by
  unfold memberToBytes HasBody
  rcases d.find "params" with _ | params
  · simp [eq_comm]
  · rfl

theorem hasSid_iff {sid : Bytes} : HasSid object sid ↔ sid = parseSid object := by
  unfold HasSid parseSid
  rcases object.find "sid" with _ | value
  · simp
  · cases value <;> simp [getString]

theorem getString_eq_some {value : Json} {text : Bytes} :
    value.getString = some text ↔ value = .string text := by
  cases value <;> simp [getString]

/-! ### Requests -/

/-- **A request** is decoded exactly if the object says one, to the payload it stands for or to the
answer for an unknown method. -/
theorem decodeRequest_eq_some (hfind : object.find "d" = some d) (hobject : d.isObject = true) :
    decodeRequest lib object d sourceProtocol methodLookup = some payload ↔
      ∃ request, Says object request ∧
        ((∃ methodId body, resolveName request.method methodLookup false = some methodId ∧
            HasBody lib body request.params ∧
            payload = request.payload sourceProtocol methodId body) ∨
          resolveName request.method methodLookup false = none ∧
            payload = request.notFound sourceProtocol) := by
  constructor
  · intro h
    simp only [decodeRequest, Option.bind_eq_bind, Option.bind_eq_some_iff] at h
    obtain ⟨value, hmethod, method, hstring, h⟩ := h
    obtain rfl := getString_eq_some.mp hstring
    -- an unknown name is answered with its id, a known one becomes a request
    split at h
    next hname =>
      simp only [Option.bind_eq_some_iff] at h
      obtain ⟨requestId, hid, error, herror, h⟩ := h
      obtain ⟨hne, hid⟩ := parseRequestId_eq_some.mp hid
      obtain ⟨endpoint, hendpoint, rfl⟩ := fillJsonMeta_eq_some.mp herror
      refine ⟨⟨requestId, method, parseSid object, endpoint, d.find "params"⟩,
        ⟨⟨d, hfind, hobject, hmethod, rfl, hid⟩, hne, hasSid_iff.mpr rfl,
          decodeEndpointMetadata_eq_some.mp hendpoint⟩, .inr ⟨hname, ?_⟩⟩
      exact (Option.some.inj h).symm
    next methodId hname =>
      simp only [Option.bind_eq_some_iff] at h
      obtain ⟨requestId, hid, filled, hfilled, body, hbody, h⟩ := h
      obtain ⟨hne, hid⟩ := parseRequestId_eq_some.mp hid
      obtain ⟨endpoint, hendpoint, rfl⟩ := fillJsonMeta_eq_some.mp hfilled
      refine ⟨⟨requestId, method, parseSid object, endpoint, d.find "params"⟩,
        ⟨⟨d, hfind, hobject, hmethod, rfl, hid⟩, hne, hasSid_iff.mpr rfl,
          decodeEndpointMetadata_eq_some.mp hendpoint⟩,
        .inl ⟨methodId, body, hname, memberToBytes_eq_some.mp hbody, ?_⟩⟩
      exact (Option.some.inj h).symm
  · rintro ⟨request, ⟨⟨d', hfind', -, hmethod, hparams, hid⟩, hne, hsid, hmeta⟩, h⟩
    obtain rfl := Option.some.inj (hfind.symm.trans hfind')
    have hid := parseRequestId_eq_some.mpr ⟨hne, hid⟩
    have hmeta := decodeEndpointMetadata_eq_some.mpr hmeta
    have hsid := hasSid_iff.mp hsid
    rcases h with ⟨methodId, body, hname, hbody, rfl⟩ | ⟨hname, rfl⟩
    · rw [← hparams] at hbody
      simp only [decodeRequest, hmethod, Option.bind_eq_bind, Option.bind_some, getString, hname,
        hid, fillJsonMeta, hmeta, memberToBytes_eq_some.mpr hbody, ← hsid]
      rfl
    · simp only [decodeRequest, hmethod, Option.bind_eq_bind, Option.bind_some, getString, hname,
        hid, fillJsonMeta, hmeta, ← hsid]
      rfl

theorem op_payload_notFound {request : Request} :
    (request.notFound sourceProtocol).op ≠ RpcOp.request := by
  simp [Request.notFound, RpcOp.request, RpcOp.requestResponse]

/-- The decoder on an object whose `op` is read as 7. -/
theorem decodeObject_eq_some (hop : HasOp object ∨ CoercedOp object) :
    decodeObject lib object sourceProtocol methodLookup eventLookup = some payload ↔
      ∃ request, Says object request ∧
        ((∃ methodId body, resolveName request.method methodLookup false = some methodId ∧
            HasBody lib body request.params ∧
            payload = request.payload sourceProtocol methodId body) ∨
          resolveName request.method methodLookup false = none ∧
            payload = request.notFound sourceProtocol) := by
  have hparsed := parseOp_eq_request.mpr hop
  simp only [decodeObject, hparsed, Option.bind_eq_bind, Option.bind_some,
    Option.bind_eq_some_iff]
  constructor
  · rintro ⟨d, hfind, h⟩
    rw [if_pos trivial] at h
    split_ifs at h with hobject
    exact (decodeRequest_eq_some hfind (by simpa using hobject)).mp h
  · rintro ⟨request, hsaid, h⟩
    obtain ⟨d, hfind, hobject, -⟩ := hsaid.d
    refine ⟨d, hfind, ?_⟩
    rw [if_neg (not_not.mpr hobject), if_pos trivial]
    exact (decodeRequest_eq_some hfind hobject).mpr ⟨request, hsaid, h⟩

/-- Only an object whose `op` is read as 7 yields a request. -/
theorem hasOp_of_request
    (h : decodeObject lib object sourceProtocol methodLookup eventLookup = some payload)
    (hrequest : payload.op = RpcOp.request) : HasOp object ∨ CoercedOp object := by
  simp only [decodeObject, Option.bind_eq_bind, Option.bind_eq_some_iff] at h
  obtain ⟨op, hop, d, -, h⟩ := h
  have hne {op : RpcOp} (hpayload : payload.op = op) : op = RpcOp.request := hpayload ▸ hrequest
  split_ifs at h with _ hthis hresponse hbatch _ hsession
  · rw [hthis] at hop
    exact parseOp_eq_request.mp hop
  · exact absurd (hne (fromEnvelope_of_decodeResponse h).2.2) hthis
  · exact absurd (hne (fromEnvelope_of_decodeResponse h).2.2) hthis
  · exact absurd (hne (fromEnvelope_of_decodeEvent h).2) (by decide)
  · exact absurd (hne (fromEnvelope_of_decodeSessionRpc h).2) hthis
  · exact absurd (hne (fromEnvelope_of_decodeBatch h).2) (by decide)

/-- What is dumped of a parsed object. -/
theorem exists_body (hlib : lib.Lawful) {text : Bytes} (hparse : lib.parse text = some object)
    {request : Request} (hsaid : Says object request) :
    ∃ body, HasBody lib body request.params := by
  obtain ⟨d, hfind, -, -, hparams, -⟩ := hsaid.d
  rcases h : request.params with _ | params
  · exact ⟨[], rfl⟩
  · rw [h] at hparams
    obtain ⟨body, hdump, -⟩ :=
      hlib.parse_dump (((hlib.valid_of_parse hparse).find hfind).find hparams)
    exact ⟨body, hdump⟩

/-! ### The decoder -/

/-- What a decoder hands to its sink. -/
def emitted (lib : JsonLibrary) (text : Bytes) (sourceProtocol : SourceProtocol)
    (methodLookup eventLookup : NameLookup) : List Payload :=
  decode lib Sink.collect text sourceProtocol methodLookup eventLookup []

theorem emitted_eq {text : Bytes} : emitted lib text sourceProtocol methodLookup eventLookup =
    ((decodePayload lib text sourceProtocol methodLookup eventLookup).map Payload.rpc).toList := by
  unfold emitted decode
  rcases decodePayload lib text sourceProtocol methodLookup eventLookup with _ | payload <;> rfl

/-- The requests among what is emitted. -/
def EmitsRequest (lib : JsonLibrary) (text : Bytes) (sourceProtocol : SourceProtocol)
    (methodLookup eventLookup : NameLookup) : Prop :=
  ∃ payload, .rpc payload ∈ emitted lib text sourceProtocol methodLookup eventLookup ∧
    payload.op = RpcOp.request

theorem emitsRequest_iff {text : Bytes} :
    EmitsRequest lib text sourceProtocol methodLookup eventLookup ↔
      ∃ object payload, lib.parse text = some object ∧
        decodeObject lib object sourceProtocol methodLookup eventLookup = some payload ∧
        payload.op = RpcOp.request := by
  unfold EmitsRequest
  rw [emitted_eq]
  constructor
  · rintro ⟨payload, hmem, hop⟩
    rw [Option.mem_toList] at hmem
    obtain ⟨payload', hdecoded, heq⟩ := Option.map_eq_some_iff.mp hmem
    obtain rfl := Payload.rpc.inj heq
    obtain ⟨object, hparse, hobject⟩ := Option.bind_eq_some_iff.mp hdecoded
    exact ⟨object, payload', hparse, hobject, hop⟩
  · rintro ⟨object, payload, hparse, hobject, hop⟩
    refine ⟨payload, ?_, hop⟩
    rw [decodePayload, hparse]
    simp [hobject]

/-- What the grammar says of the payloads that a text yields. -/
structure FollowsGrammar (lib : JsonLibrary) (text : Bytes) (sourceProtocol : SourceProtocol)
    (methodLookup eventLookup : NameLookup) : Prop where
  /-- a request comes out exactly for a request of a known method -/
  emitsRequest : EmitsRequest lib text sourceProtocol methodLookup eventLookup ↔
    ∃ object request methodId, lib.parse text = some object ∧ HasOp object ∧ Says object request ∧
      resolveName request.method methodLookup false = some methodId
  /-- it is the one payload, and the request's -/
  known : ∀ object request methodId, lib.parse text = some object → HasOp object →
    Says object request → resolveName request.method methodLookup false = some methodId →
    ∃ body, HasBody lib body request.params ∧
      emitted lib text sourceProtocol methodLookup eventLookup =
        [.rpc (request.payload sourceProtocol methodId body)]
  /-- an unknown method is answered -/
  unknown : ∀ object request, lib.parse text = some object → HasOp object → Says object request →
    resolveName request.method methodLookup false = none →
    emitted lib text sourceProtocol methodLookup eventLookup =
      [.rpc (request.notFound sourceProtocol)]
  /-- any other op yields no request -/
  other : ∀ object, lib.parse text = some object → ¬ HasOp object →
    ¬ EmitsRequest lib text sourceProtocol methodLookup eventLookup

theorem emitted_of_decodeObject {text : Bytes} (hparse : lib.parse text = some object)
    (h : decodeObject lib object sourceProtocol methodLookup eventLookup = some payload) :
    emitted lib text sourceProtocol methodLookup eventLookup = [.rpc payload] := by
  rw [emitted_eq, decodePayload, hparse, Option.bind_eq_bind, Option.bind_some, h]
  rfl

theorem not_hasOp_of_coercedOp (h : CoercedOp object) : ¬ HasOp object := by
  obtain ⟨bits, hfind, -⟩ := h
  rintro ⟨value, hfind', hinteger⟩
  obtain rfl := Option.some.inj (hfind.symm.trans hfind')
  exact hinteger

/-- **The request grammar.** The decoder follows it for every text, but for one that would be a
request for a known method if its `op` were not a floating-point number. -/
theorem followsGrammar_iff (hlib : lib.Lawful) (text : Bytes) (sourceProtocol : SourceProtocol)
    (methodLookup eventLookup : NameLookup) :
    FollowsGrammar lib text sourceProtocol methodLookup eventLookup ↔
      ¬ ∃ object request methodId, lib.parse text = some object ∧ CoercedOp object ∧
        Says object request ∧ resolveName request.method methodLookup false = some methodId := by
  constructor
  · -- such a text yields a request, whose op is not the integer 7
    rintro hgrammar ⟨object, request, methodId, hparse, hcoerced, hsaid, hname⟩
    obtain ⟨body, hbody⟩ := exists_body hlib hparse hsaid
    refine hgrammar.other object hparse (not_hasOp_of_coercedOp hcoerced)
      (emitsRequest_iff.mpr ⟨object, request.payload sourceProtocol methodId body, hparse, ?_, rfl⟩)
    exact (decodeObject_eq_some (.inr hcoerced)).mpr
      ⟨request, hsaid, .inl ⟨methodId, body, hname, hbody, rfl⟩⟩
  · intro hnone
    have hrequest : EmitsRequest lib text sourceProtocol methodLookup eventLookup →
        ∃ object request methodId, lib.parse text = some object ∧ HasOp object ∧
          Says object request ∧ resolveName request.method methodLookup false = some methodId := by
      intro hemits
      obtain ⟨object, payload, hparse, hobject, hop⟩ := emitsRequest_iff.mp hemits
      have hread := hasOp_of_request hobject hop
      obtain ⟨request, hsaid, ⟨methodId, -, hname, -⟩ | ⟨-, rfl⟩⟩ :=
        (decodeObject_eq_some hread).mp hobject
      · rcases hread with hread | hcoerced
        · exact ⟨object, request, methodId, hparse, hread, hsaid, hname⟩
        · exact absurd ⟨object, request, methodId, hparse, hcoerced, hsaid, hname⟩ hnone
      · exact absurd hop op_payload_notFound
    have hknown (object : Json) (request : Request) (methodId : UInt32)
        (hparse : lib.parse text = some object) (hop : HasOp object) (hsaid : Says object request)
        (hname : resolveName request.method methodLookup false = some methodId) :
        ∃ body, HasBody lib body request.params ∧
          decodeObject lib object sourceProtocol methodLookup eventLookup =
            some (request.payload sourceProtocol methodId body) := by
      obtain ⟨body, hbody⟩ := exists_body hlib hparse hsaid
      exact ⟨body, hbody, (decodeObject_eq_some (.inl hop)).mpr
        ⟨request, hsaid, .inl ⟨methodId, body, hname, hbody, rfl⟩⟩⟩
    -- a request for every text that says one, its payload, the error of an unknown name, no other
    refine ⟨⟨hrequest, ?_⟩, ?_, ?_, ?_⟩
    · rintro ⟨object, request, methodId, hparse, hop, hsaid, hname⟩
      obtain ⟨body, -, hobject⟩ := hknown object request methodId hparse hop hsaid hname
      exact emitsRequest_iff.mpr ⟨object, _, hparse, hobject, rfl⟩
    · intro object request methodId hparse hop hsaid hname
      obtain ⟨body, hbody, hobject⟩ := hknown object request methodId hparse hop hsaid hname
      exact ⟨body, hbody, emitted_of_decodeObject hparse hobject⟩
    · intro object request hparse hop hsaid hname
      exact emitted_of_decodeObject hparse
        ((decodeObject_eq_some (.inl hop)).mpr ⟨request, hsaid, .inr ⟨hname, rfl⟩⟩)
    · intro object hparse hop hemits
      obtain ⟨object', -, -, hparse', hop', -, -⟩ := hrequest hemits
      obtain rfl := Option.some.inj (hparse.symm.trans hparse')
      exact hop hop'

/-! ### A request whose op is 7.5 -/

/-- A request for the method `device.getInfo` with the given op. -/
def requestObject (op : Json) : Json :=
  ((emptyObject.set "op" op).set "d"
    ((emptyObject.set "id" (.unsigned 1)).set "method" (.string (ascii "device.getInfo"))))

def requestText (op : String) : Bytes :=
  ascii ("\x7b\"d\":\x7b\"id\":1,\"method\":\"device.getInfo\"\x7d,\"op\":" ++ op ++ "\x7d")

def requestTexts : List (Bytes × Json) :=
  [(requestText "7", requestObject (.unsigned 7)),
    (requestText "7.5", requestObject (.float 0x401E000000000000))]

theorem proper_requestTexts : JsonLibrary.Proper requestTexts where
  texts := by decide +kernel
  values entry hmem := by
    have hd : ((emptyObject.set "id" (.unsigned 1)).set "method"
        (.string (ascii "device.getInfo"))).Valid :=
      (valid_emptyObject.set (.unsigned 1)).set (.string (isUtf8_ascii "device.getInfo"))
    simp only [requestTexts, List.mem_cons, List.not_mem_nil, or_false] at hmem
    rcases hmem with rfl | rfl
    · exact (valid_emptyObject.set (.unsigned 7)).set hd
    · exact (valid_emptyObject.set (.float (by decide))).set hd
  heads := by decide +kernel

theorem parse_requestText {op : String} {value : Json}
    (h : (requestText op, requestObject value) ∈ requestTexts) :
    (JsonLibrary.knowing requestTexts).parse (requestText op) = some (requestObject value) := by
  have hlookup := JsonLibrary.lookup_of_mem proper_requestTexts.texts h
  simp only [JsonLibrary.knowing, hlookup]

theorem followsGrammar_seven :
    FollowsGrammar (.knowing requestTexts) (requestText "7") .jsonRpc none none := by
  refine (followsGrammar_iff (JsonLibrary.lawful_knowing proper_requestTexts) _ _ _ _).mpr ?_
  rintro ⟨object, request, methodId, hparse, ⟨bits, hfind, -⟩, -⟩
  have hseven := parse_requestText (List.mem_cons_self : (requestText "7",
    requestObject (.unsigned 7)) ∈ requestTexts)
  obtain rfl := Option.some.inj (hseven.symm.trans hparse)
  cases hfind

/-- With the op 7.5 a request comes out. -/
theorem not_followsGrammar_float :
    ¬ FollowsGrammar (.knowing requestTexts) (requestText "7.5") .jsonRpc none none := by
  intro hgrammar
  have hparse : (JsonLibrary.knowing requestTexts).parse (requestText "7.5") =
      some (requestObject (.float 0x401E000000000000)) :=
    parse_requestText (by simp [requestTexts])
  have hdecoded : (decodeObject (.knowing requestTexts)
      (requestObject (.float 0x401E000000000000)) .jsonRpc none none).map RpcPayload.op =
        some RpcOp.request := by decide +kernel
  obtain ⟨payload, hobject, hop⟩ := Option.map_eq_some_iff.mp hdecoded
  refine hgrammar.other _ hparse ?_ (emitsRequest_iff.mpr ⟨_, payload, hparse, hobject, hop⟩)
  exact not_hasOp_of_coercedOp ⟨0x401E000000000000, rfl, by decide⟩

end JsonRpcPayloadDecoder

end Axtp
