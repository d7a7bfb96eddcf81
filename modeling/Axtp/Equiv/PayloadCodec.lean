/-
  Payloads through the framed-binary payload codec.

  Control and stream payloads come back with every field that travels. An RPC payload
  in the fixed envelope comes back with its method or event id cut to 16 bits
  (`decodeRpc_fixedEnvelope`), so the round trip holds exactly for the ids that fit
  (`roundTrips_iff_written`).
-/
import Axtp.Wire.PayloadDecoder
import Axtp.Wire.PayloadEncoder

namespace Axtp

namespace PayloadCodec

open PayloadEncoder PayloadDecoder

/-! ### Control and stream payloads -/

/-- A control payload as the receiver sees it: the options are those of the body. -/
def controlOnWire (payload : ControlPayload) : ControlPayload :=
  { opcode := payload.opcode, controlId := payload.controlId, statusCode := payload.statusCode
    body := payload.body, tlv := ControlTlvCodec.decode payload.body }

/-- The body of a control payload travels as it is: it is not empty, or nothing is put in its
place. -/
def SendsOwnBody (payload : ControlPayload) : Prop :=
  payload.body ≠ [] ∨
    payload.opcode ≠ ControlOpcode.open_ ∧ payload.opcode ≠ ControlOpcode.accept

instance (payload : ControlPayload) : Decidable (SendsOwnBody payload) := by
  unfold SendsOwnBody; infer_instance

theorem body_encodeControl {payload : ControlPayload} (h : SendsOwnBody payload) :
    (encodeControl payload).body =
      writeU8 payload.opcode.value ++ (writeU16 payload.controlId ++
        (writeU16 payload.statusCode.value ++ payload.body)) := by
  unfold encodeControl
  rcases h with h | ⟨hopen, haccept⟩
  · simp [h]
  · by_cases hbody : payload.body = [] <;> simp [hbody, hopen, haccept]

theorem decodeControl_encodeControl {payload : ControlPayload} (h : SendsOwnBody payload) :
    decodeControl (encodeControl payload).body = some (controlOnWire payload) := by
  rw [body_encodeControl h, decodeControl, if_neg (by simp [kControlPayloadHeaderSize]; omega)]
  simp only [readU8_writeU8, readU16_writeU16, readBytes_all, Option.bind_eq_bind, Option.bind_some]
  rfl

/-- A stream payload as the receiver sees it. -/
def streamOnWire (payload : StreamPayload) : StreamPayload :=
  { streamId := payload.streamId, seqId := payload.seqId, cursor := payload.cursor
    data := payload.data }

theorem decodeStream_encodeStream (payload : StreamPayload) :
    decodeStream (encodeStream payload).body = some (streamOnWire payload) := by
  rw [encodeStream, decodeStream, if_neg (by simp [kStreamPayloadHeaderSize]; omega)]
  simp only [List.append_assoc, readU32_writeU32, readU64_writeU64, readBytes_all,
    Option.bind_eq_bind, Option.bind_some]
  rfl

/-! ### The fixed RPC envelope -/

/-- An RPC payload in the fixed envelope as the receiver sees it. -/
def rpcOnWire (payload : RpcPayload) : RpcPayload :=
  { encoding := payload.encoding, op := payload.op, requestId := payload.requestId
    methodOrEventId := payload.methodOrEventId.toUInt16.toUInt32
    statusCode := payload.statusCode, bodyEncoding := payload.bodyEncoding
    meta_ := { requestId := payload.requestId }, body := payload.body }

theorem decodeFixed_fixedEnvelope (payload : RpcPayload) :
    decodeFixed (fixedEnvelope payload) = some (rpcOnWire payload) := by
  rw [fixedEnvelope, decodeFixed, if_neg (by simp [kBinaryRpcHeaderSize]; omega)]
  simp only [List.append_assoc, readU8_writeU8, readU16_writeU16, readU32_writeU32, readBytes_all,
    Option.bind_eq_bind, Option.bind_some]
  rfl

/-- No op stands where a JSON text has its bracket. -/
theorem startsJson_fixedEnvelope {payload : RpcPayload} (h : payload.op.IsDefined) :
    startsJson (fixedEnvelope payload) = false := by
  have hop : ∀ op ∈ RpcOp.enumerators, (op.value == 0x7B || op.value == 0x5B) = false := by
    decide
  have hstart : startsJson (fixedEnvelope payload) =
      (payload.encoding.value == RpcEncoding.json.value &&
        (payload.op.value == 0x7B || payload.op.value == 0x5B)) := rfl
  rw [hstart, hop payload.op h, Bool.and_false]

theorem decodeRpc_fixedEnvelope {σ : Type*} (lib : JsonLibrary) (sink : Sink σ Payload) (s : σ)
    {payload : RpcPayload} (h : payload.op.IsDefined) :
    decodeRpc lib sink s (fixedEnvelope payload) = sink s (.rpc (rpcOnWire payload)) := by
  rw [decodeRpc, startsJson_fixedEnvelope h, decodeFixed_fixedEnvelope]
  rfl

/-- The payload that the peer's decoder hands on for a payload sent. -/
def Received (lib : JsonLibrary) (sent received : RpcPayload) : Prop :=
  ∃ message, encodeRpc lib sent = some message ∧
    decodeRpc lib Sink.collect [] message.body = ([.rpc received], .returned)

/-- The payload is refused, or the peer gets its header fields and body back. -/
def RoundTrips (lib : JsonLibrary) (payload : RpcPayload) : Prop :=
  encodeRpc lib payload = none ∨
    ∃ received, Received lib payload received ∧
      received.encoding = payload.encoding ∧ received.op = payload.op ∧
      received.requestId = payload.requestId ∧
      received.methodOrEventId = payload.methodOrEventId ∧
      received.statusCode = payload.statusCode ∧
      received.bodyEncoding = payload.bodyEncoding ∧ received.body = payload.body

section Fixed

variable {lib : JsonLibrary} {payload : RpcPayload} (hop : payload.op.IsDefined)
  (hfixed : ¬ TakesJson payload)

theorem toUInt16_toUInt32_eq_iff (v : UInt32) : v.toUInt16.toUInt32 = v ↔ v ≤ 0xFFFF := by
  have hmax : (0xFFFF : UInt32).toNat = 65535 := rfl
  rw [← UInt32.toNat_inj, UInt16.toNat_toUInt32, UInt32.toNat_toUInt16, UInt32.le_iff_toNat_le,
    hmax]
  omega

include hfixed in
theorem encodeRpc_of_fixed (hrefused : ¬ Refused payload) :
    encodeRpc lib payload = some { payloadType := .rpc, body := fixedEnvelope payload } := by
  rw [encodeRpc, if_neg hrefused, if_neg hfixed]

include hfixed in
theorem encodeRpc_eq_none_iff : encodeRpc lib payload = none ↔ Refused payload := by
  rw [encodeRpc]
  by_cases hrefused : Refused payload
  · simp [hrefused]
  · simp [hrefused, hfixed]

include hop hfixed

theorem received_iff {received : RpcPayload} :
    Received lib payload received ↔ ¬ Refused payload ∧ received = rpcOnWire payload := by
  constructor
  · rintro ⟨message, hmessage, hreceived⟩
    have hrefused : ¬ Refused payload := fun h => by
      rw [(encodeRpc_eq_none_iff hfixed).mpr h] at hmessage
      cases hmessage
    rw [encodeRpc_of_fixed hfixed hrefused, Option.some.injEq] at hmessage
    rw [← hmessage, decodeRpc_fixedEnvelope lib Sink.collect [] hop] at hreceived
    refine ⟨hrefused, ?_⟩
    simpa [Sink.collect] using hreceived.symm
  · rintro ⟨hrefused, rfl⟩
    exact ⟨_, encodeRpc_of_fixed hfixed hrefused,
      decodeRpc_fixedEnvelope lib Sink.collect [] hop⟩

theorem roundTrips_iff_written : RoundTrips lib payload ↔
    Refused payload ∨ payload.methodOrEventId ≤ 0xFFFF := by
  unfold RoundTrips
  rw [encodeRpc_eq_none_iff hfixed]
  constructor
  · rintro (h | ⟨received, hreceived, -, -, -, hid, -⟩)
    · exact .inl h
    · obtain ⟨-, rfl⟩ := (received_iff hop hfixed).mp hreceived
      exact .inr ((toUInt16_toUInt32_eq_iff _).mp hid)
  · rintro (h | h)
    · exact .inl h
    · by_cases hrefused : Refused payload
      · exact .inl hrefused
      · exact .inr ⟨_, (received_iff hop hfixed).mpr ⟨hrefused, rfl⟩, rfl, rfl, rfl,
          (toUInt16_toUInt32_eq_iff _).mpr h, rfl, rfl, rfl⟩

end Fixed

/-- **The fixed RPC envelope.** A payload that takes it is refused or comes back unchanged exactly
when it is refused or its method or event id fits 16 bits; two payloads with different ids that fit
arrive under different ids. -/
theorem fixedEnvelope_roundTrips_iff (lib : JsonLibrary) (payload other : RpcPayload)
    (hop : payload.op.IsDefined) (hfixed : ¬ TakesJson payload)
    (hop' : other.op.IsDefined) (hfixed' : ¬ TakesJson other) :
    (RoundTrips lib payload ↔ Refused payload ∨ payload.methodOrEventId ≤ 0xFFFF) ∧
      (payload.methodOrEventId ≤ 0xFFFF → other.methodOrEventId ≤ 0xFFFF →
        payload.methodOrEventId ≠ other.methodOrEventId →
        ∀ received received', Received lib payload received → Received lib other received' →
          received.methodOrEventId ≠ received'.methodOrEventId) := by
  refine ⟨roundTrips_iff_written hop hfixed, fun hid hid' hne received received' h h' => ?_⟩
  obtain ⟨-, rfl⟩ := (received_iff hop hfixed).mp h
  obtain ⟨-, rfl⟩ := (received_iff hop' hfixed').mp h'
  have hid := (toUInt16_toUInt32_eq_iff _).mpr hid
  have hid' := (toUInt16_toUInt32_eq_iff _).mpr hid'
  simp only [rpcOnWire, hid, hid']
  exact hne

/-- A library without JSON, for payloads that need none. -/
def noJson : JsonLibrary := { parse := fun _ => none, dump := fun _ => none }

theorem fixedEnvelope_roundTrips_getInfo :
    (RoundTrips noJson { methodOrEventId := 0x0101 } ↔
        Refused { methodOrEventId := 0x0101 } ∨
          ({ methodOrEventId := 0x0101 } : RpcPayload).methodOrEventId ≤ 0xFFFF) ∧
      (({ methodOrEventId := 0x0101 } : RpcPayload).methodOrEventId ≤ 0xFFFF →
        ({ methodOrEventId := 0x0102 } : RpcPayload).methodOrEventId ≤ 0xFFFF →
        ({ methodOrEventId := 0x0101 } : RpcPayload).methodOrEventId ≠
          ({ methodOrEventId := 0x0102 } : RpcPayload).methodOrEventId →
        ∀ received received', Received noJson { methodOrEventId := 0x0101 } received →
          Received noJson { methodOrEventId := 0x0102 } received' →
          received.methodOrEventId ≠ received'.methodOrEventId) :=
  fixedEnvelope_roundTrips_iff noJson _ _ (by decide) (by decide) (by decide) (by decide)

/-- A registered method id above 16 bits reaches the peer as another method. -/
theorem not_roundTrips_wide_id :
    ¬ RoundTrips noJson { methodOrEventId := 0x90010001 } ∧
      Received noJson { methodOrEventId := 0x90010001 } { methodOrEventId := 0x0001 } ∧
      Received noJson { methodOrEventId := 0x0001 } { methodOrEventId := 0x0001 } := by
  refine ⟨?_, ⟨_, rfl, by decide⟩, ⟨_, rfl, by decide⟩⟩
  rw [roundTrips_iff_written (by decide) (by decide)]
  decide

end PayloadCodec

end Axtp
