/-
  From a sender's payloads to a receiver's, in framed-binary mode.

  A message that splits is sent as frames that the receiver's scan finds again
  (`FrameEncoder.verdict_encode`) and that reassemble to the message
  (`sendMessage_spec`). As each message is complete before the next one starts, the
  reassembler is empty between any two, so the message ids may repeat. A payload
  comes back through the payload codec (`send_spec`), and the sequence by induction
  (`transfer`).
-/
import Axtp.Equiv.MessageFragmenter
import Axtp.Equiv.PayloadCodec
import Axtp.Wire.InboundProcessor

namespace Axtp

open Run FrameScan FrameEncoder MessageFragmenter MessageReassembler PayloadCodec

namespace Transfer

/-! ### Frames on the wire -/

theorem onWire_onWire (frame : Frame) : onWire (onWire frame) = onWire frame := rfl

theorem encodable_onWire {frame : Frame} (h : Encodable frame) : Encodable (onWire frame) :=
  ⟨h.version, h.frameIndex_lt, h.length_lt⟩

/-- The bytes of encoded frames scan to the frames, with nothing left. -/
theorem scan_frames {frames : List Frame} (h : ∀ frame ∈ frames, Encodable frame) :
    frameScanner.scan (frames.map encode).flatten = (frames.map onWire, []) := by
  have hscan : frameScanner.scan ((frames.map onWire).flatMap encode ++ []) = _ :=
    frameScanner.scan_encoded [] fun frame hframe t => by
      obtain ⟨frame, hmem, rfl⟩ := List.mem_map.mp hframe
      rw [verdict_encode t (encodable_onWire (h frame hmem)), onWire_onWire]
  have hnil : frameScanner.scan [] = ([], []) := frameScanner.scan_of_wait rfl
  rw [hnil, List.append_nil, List.append_nil, List.flatMap_def, List.map_map] at hscan
  exact hscan

/-! ### One message -/

/-- The frames of a message, one after the other, complete it with the last one. -/
theorem arrival_framesOf {maxFrameSize : ℕ} (messageId : UInt16) {message : Message}
    (h : Splits maxFrameSize message.body) :
    Arrival [splitOf maxFrameSize messageId message h]
      ((framesOf message messageId (fragmentsOf maxFrameSize message.body)).map onWire) := by
  set m := splitOf maxFrameSize messageId message h with hm
  set frames := (framesOf message messageId (fragmentsOf maxFrameSize message.body)).map onWire
    with hframes
  have hlength : frames.length = m.fragments.length := by
    rw [hframes, List.length_map, length_framesOf]
    rfl
  have hle := m.length_le
  have hindex : ∀ i (hi : i < frames.length), frames[i].header.messageId = m.messageId ∧
      frames[i].header.frameIndex.toNat = i := by
    intro i hi
    simp only [hframes, framesOf, List.getElem_map, List.getElem_range, onWire, frameOf]
    exact ⟨rfl, by rw [UInt8.toNat_ofNat', Nat.mod_eq_of_lt (by omega)]⟩
  -- after i frames exactly the indices below i were seen
  have hseen : ∀ i ≤ frames.length, ∀ j, j ∈ SplitMessage.seen (frames.take i) m.messageId ↔
      j < i := by
    intro i hi
    induction i with
    | zero => simp [SplitMessage.seen]
    | succ i ih =>
      intro j
      rw [← List.take_append_getElem (by omega : i < frames.length),
        SplitMessage.seen_append_singleton, if_pos (hindex i (by omega)).1, Finset.mem_insert,
        (hindex i (by omega)).2, ih (by omega)]
      omega
  constructor
  · intro frame hframe
    obtain ⟨frame, hmem, rfl⟩ := List.mem_map.mp hframe
    obtain ⟨i, hi, rfl⟩ := mem_framesOf.mp hmem
    refine ⟨m, List.mem_singleton_self _, rfl, rfl, rfl, ?_⟩
    have hi' : (UInt8.ofNat i).toNat = i := by
      have := length_fragmentsOf_le maxFrameSize message.body
      rw [UInt8.toNat_ofNat', Nat.mod_eq_of_lt (by omega)]
    simp only [onWire, frameOf, hi']
    exact List.getElem?_eq_getElem hi
  · rintro i hi m' hm' - hcomplete
    obtain rfl := List.mem_singleton.mp hm'
    have := (hseen i hi.le i).mp (hcomplete i (by omega))
    omega
  · rintro m' hm' i hi
    obtain rfl := List.mem_singleton.mp hm'
    have := (hseen frames.length le_rfl i).mpr (by omega)
    rwa [List.take_length] at this

/-- A reassembler without assemblies is a fresh one. -/
theorem eq_fresh {r : MessageReassembler} {maxMessageSize : ℕ}
    (hmax : r.maxMessageSize = maxMessageSize) (h : ∀ id, r.assemblies id = none) :
    r = fresh maxMessageSize := by
  obtain ⟨max, assemblies⟩ := r
  simp only at hmax h
  rw [hmax, funext h]
  rfl

theorem run_onFrame_maxMessageSize (r : MessageReassembler) (frames : List Frame) :
    (run onFrame r frames).1.maxMessageSize = r.maxMessageSize :=
  run_invariant (I := fun r' => r'.maxMessageSize = r.maxMessageSize)
    (fun r' h frame _ => (onFrame_maxMessageSize r' frame).trans h) rfl

/-- **One message**: it is sent as frames that the receiver accepts, and that reassemble to it. -/
theorem sendMessage_spec (o : OutboundProcessor) (message : Message) {maxMessageSize : ℕ}
    (hsplits : Splits o.messageFragmenter.maxFrameSize message.body)
    (hmax : o.messageFragmenter.maxFrameSize ≤ 65549)
    (hsize : message.body.length ≤ maxMessageSize) :
    ∃ frames : List Frame, (o.sendMessage message).2 = frames.map encode ∧
      (∀ frame ∈ frames, Encodable frame) ∧
      run onFrame (fresh maxMessageSize) (frames.map onWire) =
        (fresh maxMessageSize,
          [{ message with messageId := o.messageFragmenter.nextMessageId }]) ∧
      (o.sendMessage message).1 =
        { o with messageFragmenter := o.messageFragmenter.afterMessage } := by
  set f := o.messageFragmenter with hf
  have hroom : 14 < f.maxFrameSize ∨ message.body = [] := by
    rcases hsplits with h | h
    · exact .inr h
    · exact .inl h.1
  have hle := length_fragmentsOf_le f.maxFrameSize message.body
  -- the frames are encodable, they are reassembled, and one id is used
  refine ⟨(f.fragment message).2, rfl, fun frame hframe => ?_, ?_, ?_⟩
  · rw [fragment_eq hroom] at hframe
    obtain ⟨i, hi, rfl⟩ := mem_framesOf.mp hframe
    have hpiece := length_of_mem_fragmentsOf (List.getElem_mem hi)
    refine ⟨rfl, ?_, ?_⟩
    · simp only [frameOf]
      rw [UInt8.lt_iff_toNat_lt, UInt8.toNat_ofNat', UInt8.toNat_ofNat',
        Nat.mod_eq_of_lt (by omega), Nat.mod_eq_of_lt (by omega)]
      exact hi
    · simp only [frameOf]
      omega
  · rw [fragment_eq hroom]
    set m := splitOf f.maxFrameSize f.nextMessageId message hsplits with hm
    have htotal : m.size = message.body.length := by
      rw [SplitMessage.size, ← List.length_flatten]
      exact congrArg List.length (flatten_fragmentsOf hsplits)
    have hids : ([m].map SplitMessage.messageId).Nodup := by simp
    have hfits : ∀ m' ∈ [m], m'.size ≤ maxMessageSize := by simpa [htotal] using hsize
    have harrival := arrival_framesOf f.nextMessageId hsplits
    apply Prod.ext
    · exact eq_fresh (run_onFrame_maxMessageSize _ _) (assemblies_of_arrival hids hfits harrival)
    · rw [List.perm_singleton.mp (perm_of_arrival hids hfits harrival), hm, message_splitOf]
  · rw [OutboundProcessor.sendMessage, ← fragment_state hsplits]

/-! ### One payload -/

/-- The encoded body fits in 255 frames, and in the receiver's message size when it needs more than
one. -/
def FitsFrames (maxFrameSize : ℕ) (body : Bytes) : Prop :=
  body.length ≤ 255 * (maxFrameSize - 14) ∧
    (maxFrameSize - 14 < body.length → body.length ≤ 1024 * 1024)

instance (maxFrameSize : ℕ) (body : Bytes) : Decidable (FitsFrames maxFrameSize body) := by
  unfold FitsFrames; infer_instance

/-- The payloads that framed-binary mode transfers. -/
def Sendable (maxFrameSize : ℕ) : Payload → Prop
  | .control payload =>
    SendsOwnBody payload ∧ FitsFrames maxFrameSize (PayloadEncoder.encodeControl payload).body
  | .rpc payload =>
    payload.op.IsDefined ∧ payload.methodOrEventId ≤ 0xFFFF ∧
      ¬ hasEndpointMetadata payload.meta_.endpoint ∧ ¬ PayloadEncoder.TakesJson payload ∧
      FitsFrames maxFrameSize (PayloadEncoder.fixedEnvelope payload)
  | .stream payload => FitsFrames maxFrameSize (PayloadEncoder.encodeStream payload).body

instance (maxFrameSize : ℕ) (payload : Payload) : Decidable (Sendable maxFrameSize payload) := by
  cases payload <;> unfold Sendable <;> infer_instance

/-- A payload as the receiver sees it: every field that travels, the others at their defaults. -/
def payloadOnWire : Payload → Payload
  | .control payload => .control (controlOnWire payload)
  | .rpc payload =>
    .rpc
      { encoding := payload.encoding, op := payload.op, requestId := payload.requestId
        methodOrEventId := payload.methodOrEventId, statusCode := payload.statusCode
        bodyEncoding := payload.bodyEncoding, meta_ := { requestId := payload.requestId }
        body := payload.body }
  | .stream payload => .stream (streamOnWire payload)

section Framed

variable {o : OutboundProcessor} (hmode : o.wireMode = .framedBinary)
  (hmin : 15 ≤ o.messageFragmenter.maxFrameSize) (hmax : o.messageFragmenter.maxFrameSize ≤ 65549)

include hmin hmax in
theorem splits_of_fitsFrames {body : Bytes}
    (h : FitsFrames o.messageFragmenter.maxFrameSize body) :
    Splits o.messageFragmenter.maxFrameSize body ∧ body.length ≤ 1024 * 1024 := by
  obtain ⟨hframes, hsize⟩ := h
  refine ⟨.inr ⟨hmin, hframes, by omega⟩, ?_⟩
  by_cases hone : o.messageFragmenter.maxFrameSize - 14 < body.length
  · exact hsize hone
  · omega

include hmode hmin hmax

/-- **One payload**: it is sent, and the message that arrives decodes to it. -/
theorem send_spec (lib : JsonLibrary) {payload : Payload}
    (h : Sendable o.messageFragmenter.maxFrameSize payload) :
    ∃ (frames : List Frame) (message : Message), o.send lib payload =
        some ({ o with messageFragmenter := o.messageFragmenter.afterMessage },
          frames.map encode) ∧
      (∀ frame ∈ frames, Encodable frame) ∧
      run onFrame {} (frames.map onWire) = ({}, [message]) ∧
      ∀ out, PayloadDecoder.onMessage lib Sink.collect out message =
        (out ++ [payloadOnWire payload], .returned) := by
  have hmode' : o.wireMode ≠ .webSocketJsonRpc := by rw [hmode]; simp
  -- one encoder for each kind, and the frames of all three are those of `sendMessage`
  cases payload with
  | control payload =>
    obtain ⟨hsplits, hsize⟩ := splits_of_fitsFrames hmin hmax h.2
    obtain ⟨frames, hpieces, hencodable, hrun, hstate⟩ :=
      sendMessage_spec o _ hsplits hmax hsize
    refine ⟨frames, _, ?_, hencodable, hrun, fun out => ?_⟩
    · rw [OutboundProcessor.send, OutboundProcessor.sendControl, if_neg hmode', ← hpieces,
        ← hstate]
    · have hdecode := decodeControl_encodeControl h.1
      simp only [PayloadDecoder.onMessage, PayloadEncoder.encodeControl] at hdecode ⊢
      rw [hdecode]
      rfl
  | rpc payload =>
    obtain ⟨hop, hid, hendpoint, hfixed, hfits⟩ := h
    have hrefused : ¬ PayloadEncoder.Refused payload := fun hr => hendpoint hr.2
    obtain ⟨hsplits, hsize⟩ := splits_of_fitsFrames hmin hmax hfits
    obtain ⟨frames, hpieces, hencodable, hrun, hstate⟩ :=
      sendMessage_spec o { payloadType := .rpc, body := PayloadEncoder.fixedEnvelope payload }
        hsplits hmax hsize
    refine ⟨frames, _, ?_, hencodable, hrun, fun out => ?_⟩
    · rw [OutboundProcessor.send, OutboundProcessor.sendRpc, if_neg hmode',
        encodeRpc_of_fixed hfixed hrefused, ← hpieces, ← hstate]
      rfl
    · simp only [PayloadDecoder.onMessage]
      rw [decodeRpc_fixedEnvelope lib Sink.collect out hop, rpcOnWire,
        (toUInt16_toUInt32_eq_iff _).mpr hid]
      rfl
  | stream payload =>
    obtain ⟨hsplits, hsize⟩ := splits_of_fitsFrames hmin hmax h
    obtain ⟨frames, hpieces, hencodable, hrun, hstate⟩ :=
      sendMessage_spec o _ hsplits hmax hsize
    refine ⟨frames, _, ?_, hencodable, hrun, fun out => ?_⟩
    · rw [OutboundProcessor.send, OutboundProcessor.sendStream, if_neg hmode', ← hpieces,
        ← hstate]
    · have hdecode := decodeStream_encodeStream payload
      simp only [PayloadDecoder.onMessage, PayloadEncoder.encodeStream] at hdecode ⊢
      rw [hdecode]
      rfl

end Framed

/-! ### A sequence of payloads -/

/-- A sequence of payloads is sent as frames that reassemble to messages that decode to it. -/
theorem sendAll_spec (lib : JsonLibrary) {o : OutboundProcessor} {payloads : List Payload}
    (hmode : o.wireMode = .framedBinary) (hmin : 15 ≤ o.messageFragmenter.maxFrameSize)
    (hmax : o.messageFragmenter.maxFrameSize ≤ 65549)
    (h : ∀ payload ∈ payloads, Sendable o.messageFragmenter.maxFrameSize payload) :
    ∃ (o' : OutboundProcessor) (frames : List Frame) (messages : List Message),
      o.sendAll lib payloads = some (o', frames.map encode) ∧
      (∀ frame ∈ frames, Encodable frame) ∧
      run onFrame {} (frames.map onWire) = ({}, messages) ∧
      ∀ out, Sink.feed (PayloadDecoder.onMessage lib Sink.collect) out messages =
        (out ++ payloads.map payloadOnWire, .returned) := by
  induction payloads generalizing o with
  | nil => exact ⟨o, [], [], rfl, by simp, rfl, by simp⟩
  | cons payload payloads ih =>
    obtain ⟨frames, message, hsend, hencodable, hrun, hdecode⟩ :=
      send_spec hmode hmin hmax lib (h payload (List.mem_cons_self ..))
    obtain ⟨o', frames', messages, hsend', hencodable', hrun', hdecode'⟩ :=
      ih (o := { o with messageFragmenter := o.messageFragmenter.afterMessage }) hmode hmin hmax
        fun p hp => h p (List.mem_cons_of_mem _ hp)
    refine ⟨o', frames ++ frames', message :: messages, ?_, ?_, ?_, fun out => ?_⟩
    · rw [OutboundProcessor.sendAll, hsend]
      simp only [Option.bind_eq_bind, Option.bind_some, hsend', List.map_append]
      rfl
    · intro frame hframe
      rcases List.mem_append.mp hframe with hframe | hframe
      · exact hencodable frame hframe
      · exact hencodable' frame hframe
    · rw [List.map_append, run_append, hrun, hrun']
      rfl
    · simp only [Sink.feed, hdecode, hdecode', List.map_cons, List.append_assoc,
        List.singleton_append]

/-- In framed-binary mode the chunks go to the frame decoder. -/
theorem onChunks_framed {σ : Type*} (lib : JsonLibrary) (sink : Sink σ Payload)
    {inbound : InboundProcessor} (hmode : inbound.wireMode = .framedBinary) (chunks : List Bytes)
    (s : σ) :
    inbound.onChunks lib sink chunks s =
      let result := FrameDecoder.onChunks (InboundProcessor.onFrame lib sink) inbound.buffer chunks
        (inbound.messageReassembler, s)
      ({ inbound with buffer := result.1, messageReassembler := result.2.1.1 },
        result.2.1.2, result.2.2) := by
  induction chunks generalizing inbound s with
  | nil => rfl
  | cons data chunks ih =>
    rw [InboundProcessor.onChunks, FrameDecoder.onChunks, InboundProcessor.onBytes,
      if_neg (by rw [hmode]; simp)]
    rcases hcall : FrameDecoder.onBytes (InboundProcessor.onFrame lib sink) inbound.buffer data
      (inbound.messageReassembler, s) with ⟨buffer', ⟨r', s'⟩, _ | _⟩
    · simp only
      rw [ih (by exact hmode)]
    · rfl

/-- **Lossless transfer.** Whatever one sender has sent before, a sequence of payloads is sent, and
its bytes, in whatever chunks they arrive, make a fresh receiver deliver exactly these payloads, in
order, with an empty frame buffer and no open assembly in the end. -/
theorem transfer (lib : JsonLibrary) (o : OutboundProcessor) (payloads : List Payload)
    (hmode : o.wireMode = .framedBinary) (hmin : 15 ≤ o.messageFragmenter.maxFrameSize)
    (hmax : o.messageFragmenter.maxFrameSize ≤ 65549)
    (h : ∀ payload ∈ payloads, Sendable o.messageFragmenter.maxFrameSize payload) :
    ∃ o' pieces, o.sendAll lib payloads = some (o', pieces) ∧
      ∀ chunks : List Bytes, chunks.flatten = pieces.flatten →
        ∃ inbound, InboundProcessor.onChunks lib Sink.collect {} chunks [] =
            (inbound, payloads.map payloadOnWire, .returned) ∧
          inbound.buffer = [] ∧ ∀ id, inbound.messageReassembler.assemblies id = none := by
  obtain ⟨o', frames, messages, hsend, hencodable, hrun, hdecode⟩ :=
    sendAll_spec lib hmode hmin hmax h
  refine ⟨o', _, hsend, fun chunks hchunks => ?_⟩
  obtain ⟨hfeed, hbuffer⟩ := FrameDecoder.onChunks_spec
    (InboundProcessor.onFrame lib Sink.collect) [] rfl chunks ({}, [])
  rw [List.nil_append, hchunks, scan_frames hencodable] at hfeed hbuffer
  -- the frames go through the reassembler, and its messages through the decoder
  obtain ⟨hout, hexit, hend⟩ :=
    Sink.feed_through onFrame (PayloadDecoder.onMessage lib Sink.collect)
    {} [] (frames.map onWire)
  rw [hrun, hdecode, List.nil_append] at hout hexit
  rw [hrun] at hend
  have hthrough : Sink.feed (InboundProcessor.onFrame lib Sink.collect) ({}, [])
      (frames.map onWire) = (({}, payloads.map payloadOnWire), .returned) :=
    Prod.ext (Prod.ext (hend hexit) hout) hexit
  rw [hthrough] at hfeed
  rw [onChunks_framed lib Sink.collect rfl]
  refine ⟨{}, ?_, rfl, fun _ => rfl⟩
  simp only [hfeed, hbuffer (by rw [hfeed])]

/-- Two payloads of different kinds, with frames of at most 20 bytes. -/
theorem transfer_heartbeat_stream :
    ∃ o' pieces, OutboundProcessor.sendAll noJson { messageFragmenter := { maxFrameSize := 20 } }
        [.control { opcode := ControlOpcode.heartbeat, controlId := 3 },
          .stream { streamId := 1, data := [0x41, 0x58] }] = some (o', pieces) ∧
      ∀ chunks : List Bytes, chunks.flatten = pieces.flatten →
        ∃ inbound, InboundProcessor.onChunks noJson Sink.collect {} chunks [] =
            (inbound, [.control { opcode := ControlOpcode.heartbeat, controlId := 3 },
              .stream { streamId := 1, data := [0x41, 0x58] }].map payloadOnWire, .returned) ∧
          inbound.buffer = [] ∧ ∀ id, inbound.messageReassembler.assemblies id = none :=
  transfer noJson _ _ rfl (by decide) (by decide) (by decide)

end Transfer

end Axtp
