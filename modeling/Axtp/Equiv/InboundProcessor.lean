/-
  What reaches a payload sink behind the decoders.

  `decoded` is what the bytes of one call make a collecting sink receive. Any other
  sink is handed a prefix of it, all of it unless it throws: what the sink preserves
  together with the payloads handed over so far holds after the call
  (`onBytes_prefix`).
-/
import Axtp.Equiv.FrameDecoder
import Axtp.Equiv.JsonRpcPayloadDecoder
import Axtp.Wire.InboundProcessor

namespace Axtp

open Run FrameScan

namespace PayloadDecoder

/-- The payload of a message. -/
def payloadOf (lib : JsonLibrary) (message : Message) : Option Payload :=
  match message.payloadType with
  | .control => (decodeControl message.body).map .control
  | .rpc =>
    if startsJson message.body then
      (JsonRpcPayloadDecoder.decodePayload lib (message.body.drop 1) .axtpV1 none none).map .rpc
    else (decodeFixed message.body).map .rpc
  | .stream => (decodeStream message.body).map .stream

/-- A message hands its payload to the sink, if it has one; the sink throws if the call does. -/
theorem onMessage_eq {σ : Type*} (lib : JsonLibrary) (sink : Sink σ Payload) (s : σ)
    (message : Message) :
    match payloadOf lib message with
    | none => onMessage lib sink s message = (s, .returned)
    | some payload =>
      (onMessage lib sink s message).1 = (sink s payload).1 ∧
        ((sink s payload).2 = .returned → (onMessage lib sink s message).2 = .returned) := by
  unfold onMessage payloadOf
  cases message.payloadType with
  | control =>
    rcases decodeControl message.body with _ | payload
    · rfl
    · exact ⟨rfl, fun h => h⟩
  | stream =>
    rcases decodeStream message.body with _ | payload
    · rfl
    · exact ⟨rfl, fun h => h⟩
  | rpc =>
    by_cases hjson : startsJson message.body
    · simp only [decodeRpc, hjson, if_true, JsonRpcPayloadDecoder.decode]
      rcases JsonRpcPayloadDecoder.decodePayload lib (message.body.drop 1) .axtpV1 none none with
        _ | payload
      · rfl
      · -- a sink that throws on a JSON payload is caught, so only the state is the same
        exact ⟨rfl, fun _ => trivial⟩
    · simp only [decodeRpc, hjson]
      rcases decodeFixed message.body with _ | payload
      · rfl
      · exact ⟨rfl, fun h => h⟩

theorem payloadOf_replyTarget {lib : JsonLibrary} {message : Message} {payload : RpcPayload}
    (h : payloadOf lib message = some (.rpc payload)) : payload.meta_.replyTarget = 0 := by
  unfold payloadOf at h
  split at h
  · simp at h
  · split_ifs at h
    · simp only [Option.map_eq_some_iff, Payload.rpc.injEq, exists_eq_right] at h
      obtain ⟨_, _, hfrom⟩ := JsonRpcPayloadDecoder.fromEnvelope_of_decodePayload h
      exact hfrom.replyTarget
    · simp only [Option.map_eq_some_iff, Payload.rpc.injEq, exists_eq_right] at h
      unfold decodeFixed at h
      split_ifs at h
      simp only [Option.bind_eq_bind, Option.bind_eq_some_iff] at h
      obtain ⟨encoding, -, op, -, requestId, -, methodOrEventId, -, statusCode, -, bodyEncoding, -,
        body, -, h⟩ := h
      obtain rfl := Option.some.inj h
      rfl
  · simp at h

/-- A collecting sink collects the payloads of the messages. -/
theorem feed_onMessage_collect (lib : JsonLibrary) (messages : List Message)
    (payloads : List Payload) :
    Sink.feed (onMessage lib Sink.collect) payloads messages =
      (payloads ++ messages.filterMap (payloadOf lib), .returned) := by
  induction messages generalizing payloads with
  | nil => simp
  | cons message messages ih =>
    have hmessage := onMessage_eq lib Sink.collect payloads message
    rcases hpayload : payloadOf lib message with _ | payload <;> rw [hpayload] at hmessage
    · rw [Sink.feed, hmessage, List.filterMap_cons_none hpayload]
      exact ih payloads
    · have hcollect : onMessage lib Sink.collect payloads message =
          (payloads ++ [payload], .returned) := Prod.ext hmessage.1 (hmessage.2 rfl)
      rw [Sink.feed, hcollect, List.filterMap_cons_some hpayload]
      simp only
      rw [ih, List.append_assoc, List.singleton_append]

end PayloadDecoder

namespace InboundProcessor

variable {σ : Type*} (lib : JsonLibrary)

/-- What the bytes of one call make a collecting sink receive. -/
def decoded (inbound : InboundProcessor) (data : Bytes) : List Payload :=
  (inbound.onBytes lib Sink.collect data []).2.1

theorem onBytes_framed {inbound : InboundProcessor} (hmode : inbound.wireMode = .framedBinary)
    (sink : Sink σ Payload) (data : Bytes) (s : σ) :
    let messages :=
      (run MessageReassembler.onFrame inbound.messageReassembler
        (frameScanner.feed inbound.buffer data).2).2
    (inbound.onBytes lib sink data s).2 =
      Sink.feed (PayloadDecoder.onMessage lib sink) s messages := by
  intro messages
  have hspec := (FrameDecoder.onBytes_spec (onFrame lib sink) inbound.buffer data
    (inbound.messageReassembler, s)).1
  obtain ⟨hstate, hexit, -⟩ := Sink.feed_through MessageReassembler.onFrame
    (PayloadDecoder.onMessage lib sink) inbound.messageReassembler s
    (frameScanner.feed inbound.buffer data).2
  rw [onFrame] at hspec
  rw [← hspec] at hstate hexit
  rw [onBytes, if_neg (by rw [hmode]; simp)]
  exact Prod.ext hstate hexit

theorem decoded_framed {inbound : InboundProcessor} (hmode : inbound.wireMode = .framedBinary)
    (data : Bytes) :
    inbound.decoded lib data =
      (run MessageReassembler.onFrame inbound.messageReassembler
        (frameScanner.feed inbound.buffer data).2).2.filterMap (PayloadDecoder.payloadOf lib) := by
  rw [decoded, onBytes_framed lib hmode, PayloadDecoder.feed_onMessage_collect, List.nil_append]

/-- Unless the sink throws, the state of the decoders does not depend on it. -/
theorem onBytes_framed_state {inbound : InboundProcessor} (hmode : inbound.wireMode = .framedBinary)
    {sink : Sink σ Payload} {data : Bytes} {s : σ}
    (h : (inbound.onBytes lib sink data s).2.2 = .returned) :
    (inbound.onBytes lib sink data s).1 =
      { inbound with
        buffer := (frameScanner.feed inbound.buffer data).1
        messageReassembler := (run MessageReassembler.onFrame inbound.messageReassembler
          (frameScanner.feed inbound.buffer data).2).1 } := by
  obtain ⟨hfeed, hbuffer⟩ := FrameDecoder.onBytes_spec (onFrame lib sink) inbound.buffer data
    (inbound.messageReassembler, s)
  obtain ⟨-, -, hstate⟩ := Sink.feed_through MessageReassembler.onFrame
    (PayloadDecoder.onMessage lib sink) inbound.messageReassembler s
    (frameScanner.feed inbound.buffer data).2
  rw [onFrame] at hfeed hbuffer
  rw [← hfeed] at hstate
  rw [onBytes, if_neg (by rw [hmode]; simp)] at h ⊢
  simp only [onFrame] at h ⊢
  rw [hbuffer h, hstate h]

/-- The one payload of a text message. -/
theorem decoded_webSocket {inbound : InboundProcessor}
    (hmode : inbound.wireMode = .webSocketJsonRpc)
    (data : Bytes) :
    inbound.decoded lib data =
      ((JsonRpcPayloadDecoder.decodePayload lib data .jsonRpc inbound.jsonRpcDecoder.methodLookup
        inbound.jsonRpcDecoder.eventLookup).map Payload.rpc).toList := by
  rw [decoded, onBytes, if_pos hmode, JsonRpcDecoder.onBytes, JsonRpcPayloadDecoder.decode]
  rcases JsonRpcPayloadDecoder.decodePayload lib data .jsonRpc
    inbound.jsonRpcDecoder.methodLookup inbound.jsonRpcDecoder.eventLookup <;> rfl

/-- One call, as a machine from bytes to payloads. -/
def decodeStep (inbound : InboundProcessor) (data : Bytes) : InboundProcessor × List Payload :=
  ((inbound.onBytes lib Sink.collect data []).1, inbound.decoded lib data)

/-- Behind the decoders, a sink that does not throw on a message handles all decoded payloads. -/
theorem onBytes_of_returned {sink : Sink σ Payload}
    (hsink : ∀ s message, (PayloadDecoder.onMessage lib sink s message).2 = .returned)
    (inbound : InboundProcessor) (data : Bytes) (s : σ) :
    inbound.onBytes lib sink data s =
      ((inbound.decodeStep lib data).1,
        (inbound.decoded lib data).foldl (fun s payload => (sink s payload).1) s, .returned) := by
  cases hmode : inbound.wireMode with
  | webSocketJsonRpc =>
    rw [decoded_webSocket lib hmode, decodeStep, onBytes, onBytes, if_pos hmode, if_pos hmode,
      JsonRpcDecoder.onBytes, JsonRpcPayloadDecoder.decode]
    rcases JsonRpcPayloadDecoder.decodePayload lib data .jsonRpc
      inbound.jsonRpcDecoder.methodLookup inbound.jsonRpcDecoder.eventLookup <;> rfl
  | framedBinary =>
    have hout := onBytes_framed lib hmode sink data s
    have hcollect := onBytes_framed lib hmode Sink.collect data []
    simp only [Sink.feed_of_returned hsink] at hout
    simp only [PayloadDecoder.feed_onMessage_collect] at hcollect
    have hreturned := congrArg Prod.snd hout
    have hstate := onBytes_framed_state lib hmode hreturned
    have hstate' := onBytes_framed_state lib hmode (congrArg Prod.snd hcollect)
    refine Prod.ext (hstate.trans hstate'.symm) (hout.trans (Prod.ext ?_ rfl))
    rw [decoded_framed lib hmode]
    generalize (run MessageReassembler.onFrame inbound.messageReassembler
      (frameScanner.feed inbound.buffer data).2).2 = messages
    -- a message without a payload leaves the sink alone
    clear hout hcollect hreturned hstate hstate'
    induction messages generalizing s with
    | nil => rfl
    | cons message messages ih =>
      have hmessage := PayloadDecoder.onMessage_eq lib sink s message
      rw [List.foldl_cons, ih]
      rcases hpayload : PayloadDecoder.payloadOf lib message with _ | payload <;>
        rw [hpayload] at hmessage
      · rw [List.filterMap_cons_none hpayload, hmessage]
      · rw [List.filterMap_cons_some hpayload, List.foldl_cons, hmessage.1]

/-- A decoded payload has no reply target yet. -/
theorem replyTarget_of_mem_decoded {inbound : InboundProcessor} {data : Bytes}
    {payload : RpcPayload}
    (h : .rpc payload ∈ inbound.decoded lib data) : payload.meta_.replyTarget = 0 := by
  cases hmode : inbound.wireMode with
  | webSocketJsonRpc =>
    rw [decoded_webSocket lib hmode, Option.mem_toList, Option.map_eq_some_iff] at h
    obtain ⟨payload', hdecode, heq⟩ := h
    obtain rfl := Payload.rpc.inj heq
    obtain ⟨_, _, hfrom⟩ := JsonRpcPayloadDecoder.fromEnvelope_of_decodePayload hdecode
    exact hfrom.replyTarget
  | framedBinary =>
    rw [decoded_framed lib hmode] at h
    obtain ⟨message, -, hmessage⟩ := List.mem_filterMap.mp h
    exact PayloadDecoder.payloadOf_replyTarget hmessage

/-- **Prefix rule** for the decoders: what the sink preserves of its state together with the
payloads it was handed, holds after the call, for the payloads up to where it threw. -/
theorem onBytes_prefix (inbound : InboundProcessor) (sink : Sink σ Payload) (data : Bytes)
    {I : List Payload → σ → Prop} {s : σ}
    (hstep : ∀ done payload rest, inbound.decoded lib data = done ++ payload :: rest →
      ∀ s, I done s → I (done ++ [payload]) (sink s payload).1)
    (hs : I [] s) :
    ∃ done rest, inbound.decoded lib data = done ++ rest ∧
      I done (inbound.onBytes lib sink data s).2.1 := by
  cases hmode : inbound.wireMode with
  | webSocketJsonRpc =>
    have hdecoded := decoded_webSocket lib hmode data
    rw [onBytes, if_pos hmode, JsonRpcDecoder.onBytes, JsonRpcPayloadDecoder.decode]
    rcases hpayload : JsonRpcPayloadDecoder.decodePayload lib data .jsonRpc
      inbound.jsonRpcDecoder.methodLookup inbound.jsonRpcDecoder.eventLookup with _ | payload
    · exact ⟨[], inbound.decoded lib data, rfl, hs⟩
    · rw [hpayload] at hdecoded
      exact ⟨[.rpc payload], [], hdecoded, hstep [] (.rpc payload) [] hdecoded s hs⟩
  | framedBinary =>
    rw [onBytes_framed lib hmode]
    rw [decoded_framed lib hmode] at hstep ⊢
    set messages := (run MessageReassembler.onFrame inbound.messageReassembler
      (frameScanner.feed inbound.buffer data).2).2
    -- a message that decodes to nothing leaves the invariant as it is
    have hmessage : ∀ done message rest, messages = done ++ message :: rest → ∀ s,
        I (done.filterMap (PayloadDecoder.payloadOf lib)) s →
        I ((done ++ [message]).filterMap (PayloadDecoder.payloadOf lib))
          (PayloadDecoder.onMessage lib sink s message).1 := by
      intro done message rest hall s hinv
      rw [hall, List.filterMap_append] at hstep
      have heq := PayloadDecoder.onMessage_eq lib sink s message
      rw [List.filterMap_append]
      rcases hpayload : PayloadDecoder.payloadOf lib message with _ | payload <;>
        rw [hpayload] at heq
      · rw [List.filterMap_cons_none hpayload, List.filterMap_nil, List.append_nil, heq]
        exact hinv
      · rw [List.filterMap_cons_some hpayload, List.filterMap_nil, heq.1]
        exact hstep _ payload _ (by rw [List.filterMap_cons_some hpayload]) s hinv
    obtain ⟨done, rest, hmessages, hinv⟩ := Sink.feed_prefix
      (I := fun done s => I (done.filterMap (PayloadDecoder.payloadOf lib)) s)
      (List.nil_append messages).symm hmessage hs
    exact ⟨done.filterMap (PayloadDecoder.payloadOf lib),
      rest.filterMap (PayloadDecoder.payloadOf lib),
      by rw [hmessages, List.filterMap_append], hinv⟩

end InboundProcessor

end Axtp
