/-
  What a receiver makes of one message that was sent, whatever its size.

  The frame count is cut to eight bits, so the frames of a long message carry only a
  prefix of its body, and a message above the receiver's size limit is given up. What a
  receiver without open assemblies delivers of the frames has the kind of the message
  and a prefix of its body (`prefix_of_fragment`).
-/
import Axtp.Equiv.InboundProcessor
import Axtp.Equiv.Transfer

namespace Axtp

open Run FrameScan FrameEncoder MessageFragmenter MessageReassembler

namespace Truncation

variable {message : Message} {pieces : List Bytes} {id : UInt16}

/-! ### Assemblies of one message -/

/-- An assembly of the kind of the message whose filled slots hold the pieces. -/
structure HoldsPieces (message : Message) (pieces : List Bytes) (assembly : Assembly) : Prop where
  payloadType : assembly.payloadType = message.payloadType
  length : assembly.fragments.length = pieces.length
  slots : ∀ (i : ℕ) (piece : Bytes), assembly.fragments[i]? = some (some piece) →
    pieces[i]? = some piece

/-- All open assemblies are such. -/
def Holds (message : Message) (pieces : List Bytes) (r : MessageReassembler) : Prop :=
  ∀ id assembly, r.assemblies id = some assembly → HoldsPieces message pieces assembly

theorem Holds.erase {r : MessageReassembler} (h : Holds message pieces r) (id : UInt16) :
    Holds message pieces (r.erase id) := by
  intro id' assembly hheld
  rw [assemblies_erase] at hheld
  split_ifs at hheld
  exact h id' assembly hheld

theorem Holds.store {r : MessageReassembler} (h : Holds message pieces r) {id : UInt16}
    {assembly : Assembly} (hassembly : HoldsPieces message pieces assembly) :
    Holds message pieces (r.store id assembly) := by
  intro id' assembly' hheld
  rw [assemblies_store] at hheld
  split_ifs at hheld
  · obtain rfl := Option.some.inj hheld
    exact hassembly
  · exact h id' assembly' hheld

/-- The assembly that a frame of the message finds or opens. -/
theorem Holds.openAssembly {r : MessageReassembler} (h : Holds message pieces r)
    {header : FrameHeader}
    (htype : header.payloadType = message.payloadType)
    (hcount : header.frameCount.toNat = pieces.length) :
    HoldsPieces message pieces (r.openAssembly header) := by
  have hopened : ∀ (i : ℕ) (piece : Bytes),
      (List.replicate header.frameCount.toNat (none : Option Bytes))[i]? ≠ some (some piece) := by
    intro i piece heq
    have := List.mem_of_getElem? heq
    simp at this
  unfold MessageReassembler.openAssembly
  rcases hheld : r.assemblies header.messageId with _ | assembly
  · simp only [Option.getD_none, List.isEmpty_nil, if_true]
    exact ⟨htype, by simpa using hcount, fun i piece heq => absurd heq (hopened i piece)⟩
  · simp only [Option.getD_some]
    split_ifs with hempty
    · exact ⟨htype, by simpa using hcount, fun i piece heq => absurd heq (hopened i piece)⟩
    · exact h _ assembly hheld

/-- Slots that are all filled hold all pieces. -/
theorem reduceOption_of_filled {fragments : List (Option Bytes)}
    (hlength : fragments.length = pieces.length)
    (hslots : ∀ (i : ℕ) (piece : Bytes), fragments[i]? = some (some piece) →
      pieces[i]? = some piece)
    (hall : fragments.all Option.isSome = true) : fragments.reduceOption = pieces := by
  have heq : fragments = pieces.map some := by
    apply List.ext_getElem?
    intro i
    rw [List.getElem?_map]
    rcases hslot : fragments[i]? with _ | slot
    · rw [List.getElem?_eq_none_iff] at hslot
      rw [List.getElem?_eq_none_iff.mpr (by omega), Option.map_none]
    · have hsome := List.all_eq_true.mp hall slot (List.mem_of_getElem? hslot)
      obtain ⟨piece, rfl⟩ := Option.isSome_iff_exists.mp hsome
      rw [hslots i piece hslot, Option.map_some]
  rw [heq, List.reduceOption, List.filterMap_map, Function.id_comp, List.filterMap_some]

/-- One frame of the message: what is delivered is the message made of all the pieces. -/
theorem Holds.onFrame {r : MessageReassembler} (h : Holds message pieces r) (frame : Frame)
    (htype : frame.header.payloadType = message.payloadType)
    (hcount : frame.header.frameCount.toNat = pieces.length)
    (hpayload : pieces[frame.header.frameIndex.toNat]? = some frame.payload) :
    Holds message pieces (r.onFrame frame).1 ∧
      ∀ m ∈ (r.onFrame frame).2, m.payloadType = message.payloadType ∧ m.body = pieces.flatten := by
  unfold MessageReassembler.onFrame
  dsimp only
  by_cases hone : frame.header.frameCount = 1
  · -- a message in a single frame
    rw [if_pos hone]
    by_cases hindex : frame.header.frameIndex = 0
    · rw [if_neg (not_not.mpr hindex)]
      refine ⟨h, fun m hm => ?_⟩
      obtain rfl := List.mem_singleton.mp hm
      rw [hone] at hcount
      obtain ⟨piece, rfl⟩ := List.length_eq_one_iff.mp hcount.symm
      rw [hindex] at hpayload
      obtain rfl := Option.some.inj hpayload
      exact ⟨htype, by simp⟩
    · rw [if_pos hindex]
      exact ⟨h, by simp⟩
  rw [if_neg hone]
  have hopen := h.openAssembly htype hcount
  generalize r.openAssembly frame.header = assembly at hopen ⊢
  by_cases hmismatch : assembly.payloadType ≠ frame.header.payloadType ∨
      assembly.frameCount ≠ frame.header.frameCount
  · rw [if_pos hmismatch]
    exact ⟨h.erase _, by simp⟩
  rw [if_neg hmismatch]
  rcases hslot : assembly.fragments[frame.header.frameIndex.toNat]? with _ | _ | piece
  · exact ⟨h.erase _, by simp⟩
  · by_cases hsize : assembly.totalSize + frame.payload.length > r.maxMessageSize
    · simp only [if_pos hsize]
      exact ⟨h.erase _, by simp⟩
    simp only [if_neg hsize]
    -- the slot of the frame is filled with its payload
    have hlength : (assembly.fragments.set frame.header.frameIndex.toNat
        (some frame.payload)).length = pieces.length := by rw [List.length_set, hopen.length]
    have hslots : ∀ (i : ℕ) (piece : Bytes), (assembly.fragments.set frame.header.frameIndex.toNat
        (some frame.payload))[i]? = some (some piece) → pieces[i]? = some piece := by
      intro i piece heq
      rw [List.getElem?_set] at heq
      split_ifs at heq with hi hlt
      · obtain rfl := Option.some.inj (Option.some.inj heq)
        rw [← hi]
        exact hpayload
      · exact hopen.slots i piece heq
    split_ifs with hall
    · refine ⟨h.erase _, fun m hm => ?_⟩
      obtain rfl := List.mem_singleton.mp hm
      exact ⟨hopen.payloadType, congrArg List.flatten (reduceOption_of_filled hlength hslots hall)⟩
    · exact ⟨h.store ⟨hopen.payloadType, hlength, hslots⟩, by simp⟩
  · exact ⟨h.store hopen, by simp⟩

/-! ### The frames of one message -/

/-- The frames carry pieces of a prefix. -/
theorem exists_pieces (f : MessageFragmenter) (message : Message) :
    ∃ pieces : List Bytes, (f.fragment message).2 = framesOf message f.nextMessageId pieces ∧
      pieces.flatten <+: message.body ∧ pieces.length ≤ 255 ∧
      ∀ piece ∈ pieces, piece.length ≤ f.maxFrameSize - 14 := by
  by_cases hroom : 14 < f.maxFrameSize ∨ message.body = []
  · refine ⟨_, fragment_eq hroom, ?_, length_fragmentsOf_le _ _, fun piece hpiece => ?_⟩
    · by_cases hbody : message.body = []
      · rw [hbody, fragmentsOf_nil]
        exact List.prefix_rfl
      · rw [fragmentsOf_of_ne hbody, Pieces.flatten_pieces]
        exact List.take_prefix _ _
    · have := length_of_mem_fragmentsOf hpiece
      omega
  · have hcapacity : f.payloadCapacity = 0 := by
      rw [payloadCapacity_eq]
      omega
    refine ⟨[[]], ?_, List.nil_prefix, by simp, by simp⟩
    rw [fragment_of_empty (.inl hcapacity)]
    rfl

/-- **A prefix at most**: a receiver without open assemblies delivers, of the frames of one message,
messages of its kind only, with a prefix of its body. -/
theorem prefix_of_fragment (f : MessageFragmenter) (message : Message) {r : MessageReassembler}
    (hempty : ∀ id, r.assemblies id = none) :
    ∀ m ∈ (run MessageReassembler.onFrame r ((f.fragment message).2.map onWire)).2,
      m.payloadType = message.payloadType ∧ m.body <+: message.body := by
  obtain ⟨pieces, hframes, hpart, hle, -⟩ := exists_pieces f message
  have hrun : Holds message pieces (run MessageReassembler.onFrame r
      ((f.fragment message).2.map onWire)).1 ∧ ∀ m ∈ [] ++ (run MessageReassembler.onFrame r
        ((f.fragment message).2.map onWire)).2,
          m.payloadType = message.payloadType ∧ m.body = pieces.flatten := by
    have hstart : Holds message pieces r := fun id assembly hheld => by
      rw [hempty id] at hheld
      cases hheld
    -- on the frames, all of which belong to the one message
    refine run_trace_invariant (I := fun r (out : List Message) => Holds message pieces r ∧
      ∀ m ∈ out, m.payloadType = message.payloadType ∧ m.body = pieces.flatten)
      (fun r out h frame hframe => ?_) ⟨hstart, by simp⟩
    obtain ⟨frame, hmem, rfl⟩ := List.mem_map.mp hframe
    rw [hframes] at hmem
    obtain ⟨i, hi, rfl⟩ := mem_framesOf.mp hmem
    have hcount : (UInt8.ofNat pieces.length).toNat = pieces.length := by
      rw [UInt8.toNat_ofNat', Nat.mod_eq_of_lt (by omega)]
    have hindex : (UInt8.ofNat i).toNat = i := by
      rw [UInt8.toNat_ofNat', Nat.mod_eq_of_lt (by omega)]
    have hpayload : pieces[(UInt8.ofNat i).toNat]? = some pieces[i] := by
      rw [hindex]
      exact List.getElem?_eq_getElem hi
    obtain ⟨hholds, hout⟩ := h.1.onFrame (onWire (frameOf message f.nextMessageId i
      (UInt8.ofNat pieces.length) pieces[i])) rfl hcount hpayload
    refine ⟨hholds, fun m hm => ?_⟩
    rcases List.mem_append.mp hm with hm | hm
    · exact h.2 m hm
    · exact hout m hm
  intro m hm
  obtain ⟨htype, hbody⟩ := hrun.2 m hm
  exact ⟨htype, hbody ▸ hpart⟩

/-- Frames of at most the greatest size can be encoded. -/
theorem encodable_fragment {f : MessageFragmenter} (hmax : f.maxFrameSize ≤ 65549)
    (message : Message) : ∀ frame ∈ (f.fragment message).2, Encodable frame := by
  intro frame hframe
  obtain ⟨pieces, hframes, -, hle, hpieces⟩ := exists_pieces f message
  rw [hframes] at hframe
  obtain ⟨i, hi, rfl⟩ := mem_framesOf.mp hframe
  have hpiece := hpieces _ (List.getElem_mem hi)
  refine ⟨rfl, ?_, ?_⟩
  · simp only [frameOf]
    rw [UInt8.lt_iff_toNat_lt, UInt8.toNat_ofNat', UInt8.toNat_ofNat', Nat.mod_eq_of_lt (by omega),
      Nat.mod_eq_of_lt (by omega)]
    exact hi
  · simp only [frameOf]
    omega

/-! ### The payloads of one message -/

/-- A receiver with nothing in flight, in the given wire mode. -/
structure Idle (inbound : InboundProcessor) : Prop where
  buffer : inbound.buffer = []
  assemblies : ∀ id, inbound.messageReassembler.assemblies id = none

/-- **What is decoded of one message**, in whatever chunks its bytes come: the payload of a message
of its kind, with a prefix of its body. -/
theorem exists_of_mem_onChunks (lib : JsonLibrary) {o : OutboundProcessor} {message : Message}
    (hmax : o.messageFragmenter.maxFrameSize ≤ 65549) {inbound : InboundProcessor}
    (hmode : inbound.wireMode = .framedBinary) (hidle : Idle inbound) {chunks : List Bytes}
    (hchunks : chunks.flatten = (o.sendMessage message).2.flatten) {payload : Payload}
    (h : payload ∈ (inbound.onChunks lib Sink.collect chunks []).2.1) :
    ∃ m : Message, m.payloadType = message.payloadType ∧ m.body <+: message.body ∧
      PayloadDecoder.payloadOf lib m = some payload := by
  have hencodable := encodable_fragment hmax message
  obtain ⟨hfeed, -⟩ := FrameDecoder.onChunks_spec (InboundProcessor.onFrame lib Sink.collect)
    inbound.buffer (by rw [hidle.buffer]; rfl) chunks (inbound.messageReassembler, [])
  have hbytes : inbound.buffer ++ chunks.flatten =
      ((o.messageFragmenter.fragment message).2.map encode).flatten := by
    rw [hidle.buffer, List.nil_append, hchunks]
    rfl
  rw [hbytes, Transfer.scan_frames hencodable] at hfeed
  obtain ⟨hout, -, -⟩ := Sink.feed_through MessageReassembler.onFrame
    (PayloadDecoder.onMessage lib Sink.collect) inbound.messageReassembler []
    ((o.messageFragmenter.fragment message).2.map onWire)
  rw [Transfer.onChunks_framed lib Sink.collect hmode] at h
  simp only [hfeed] at h
  rw [InboundProcessor.onFrame, hout, PayloadDecoder.feed_onMessage_collect, List.nil_append] at h
  obtain ⟨m, hm, hpayload⟩ := List.mem_filterMap.mp h
  obtain ⟨htype, hpart⟩ := prefix_of_fragment o.messageFragmenter message hidle.assemblies m hm
  exact ⟨m, htype, hpart, hpayload⟩

/-! ### A prefix of the fixed envelope -/

/-- The second byte of a fixed envelope is the op, and nothing of the metadata but the request id is
in it. -/
theorem exists_of_decodeFixed {body : Bytes} {payload : RpcPayload}
    (h : PayloadDecoder.decodeFixed body = some payload) :
    (∃ encoding rest, body = encoding :: payload.op.value :: rest) ∧
      payload.meta_ = { requestId := payload.requestId } := by
  rw [PayloadDecoder.decodeFixed] at h
  split_ifs at h
  simp only [Option.bind_eq_bind, Option.bind_eq_some_iff] at h
  obtain ⟨⟨encoding, reader⟩, hencoding, ⟨op, reader'⟩, hop, requestId, -, methodOrEventId, -,
    statusCode, -, bodyEncoding, -, body', -, h⟩ := h
  obtain rfl := Option.some.inj h
  refine ⟨⟨encoding, reader', ?_⟩, rfl⟩
  rcases body with _ | ⟨a, _ | ⟨b, rest⟩⟩
  · cases hencoding
  · obtain ⟨-, rfl⟩ := Prod.mk.inj (Option.some.inj hencoding)
    cases hop
  · obtain ⟨rfl, rfl⟩ := Prod.mk.inj (Option.some.inj hencoding)
    obtain ⟨rfl, rfl⟩ := Prod.mk.inj (Option.some.inj hop)
    rfl

/-- **A prefix of a fixed envelope** decodes to nothing, or to a payload of the same op without
endpoint. -/
theorem exists_of_payloadOf {lib : JsonLibrary} {payload : RpcPayload} (hop : payload.op.IsDefined)
    {m : Message} (htype : m.payloadType = .rpc)
    (hpart : m.body <+: PayloadEncoder.fixedEnvelope payload) {received : Payload}
    (h : PayloadDecoder.payloadOf lib m = some received) :
    ∃ rpc : RpcPayload, received = .rpc rpc ∧ rpc.op = payload.op ∧
      rpc.meta_ = { requestId := rpc.requestId } := by
  obtain ⟨rest, hrest⟩ := hpart
  have hbytes : ∃ tail, PayloadEncoder.fixedEnvelope payload =
      payload.encoding.value :: payload.op.value :: tail := ⟨_, rfl⟩
  obtain ⟨tail, htail⟩ := hbytes
  -- the op byte tells a fixed envelope from a text, if the piece has one
  have hstarts : PayloadDecoder.startsJson m.body = false := by
    have hfixed := PayloadCodec.startsJson_fixedEnvelope hop
    rw [htail] at hfixed hrest
    generalize m.body = body at hrest ⊢
    rcases body with _ | ⟨a, _ | ⟨b, body⟩⟩
    · rfl
    · rfl
    · rw [List.cons_append, List.cons_append, List.cons.injEq, List.cons.injEq] at hrest
      rw [hrest.1, hrest.2.1]
      exact hfixed
  rw [PayloadDecoder.payloadOf, htype] at h
  simp only [hstarts, Bool.false_eq_true, if_false, Option.map_eq_some_iff] at h
  obtain ⟨rpc, hdecode, rfl⟩ := h
  obtain ⟨⟨encoding, body, hbody⟩, hmeta⟩ := exists_of_decodeFixed hdecode
  refine ⟨rpc, rfl, ?_, hmeta⟩
  rw [hbody, htail, List.cons_append, List.cons_append, List.cons.injEq, List.cons.injEq] at hrest
  cases hop' : rpc.op
  cases hop'' : payload.op
  rw [hop', hop''] at hrest
  exact congrArg RpcOp.mk hrest.2.1

end Truncation

end Axtp
