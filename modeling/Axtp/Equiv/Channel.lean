/-
  The bytes on their way to a receiver, as the payloads they hold.

  `messagesIn` is what the bytes will complete once they have arrived, behind what the
  decoders already hold. Bytes that `Hold` a list of payloads are a queue of them:
  however the bytes are cut, a chunk that arrives takes its payloads from the front
  (`Holds.deliver`), and a payload that is sent goes to the end (`Holds.send`).
-/
import Axtp.Equiv.AxtpCore
import Axtp.Equiv.InboundProcessor
import Axtp.Equiv.Transfer

namespace Axtp

open Run FrameScan FrameEncoder Transfer

namespace InboundProcessor

/-- The decoders once the bytes have arrived. -/
def after (inbound : InboundProcessor) (bytes : Bytes) : InboundProcessor :=
  { inbound with
    buffer := (frameScanner.scan (inbound.buffer ++ bytes)).2
    messageReassembler := (run MessageReassembler.onFrame inbound.messageReassembler
      (frameScanner.scan (inbound.buffer ++ bytes)).1).1 }

/-- The messages that the bytes complete, in their order. -/
def messagesIn (inbound : InboundProcessor) (bytes : Bytes) : List Message :=
  (run MessageReassembler.onFrame inbound.messageReassembler
    (frameScanner.scan (inbound.buffer ++ bytes)).1).2

/-- The bytes end with a message, and leave neither a buffer nor an assembly. -/
structure EmptiedBy (inbound : InboundProcessor) (bytes : Bytes) : Prop where
  mode : inbound.wireMode = .framedBinary
  buffer : (inbound.after bytes).buffer = []
  assemblies : (inbound.after bytes).messageReassembler = {}

variable {inbound : InboundProcessor} {bytes : Bytes}

/-! ### Bytes that arrive -/

theorem scan_after_append (inbound : InboundProcessor) (s t : Bytes) :
    frameScanner.scan (inbound.buffer ++ (s ++ t)) =
      ((frameScanner.scan (inbound.buffer ++ s)).1 ++
          (frameScanner.scan ((inbound.after s).buffer ++ t)).1,
        (frameScanner.scan ((inbound.after s).buffer ++ t)).2) := by
  rw [← List.append_assoc, frameScanner.scan_append (inbound.buffer ++ s) t]
  rfl

/-- **Arrival in two parts**: the messages of the first part come first. -/
theorem messagesIn_append (inbound : InboundProcessor) (s t : Bytes) :
    inbound.messagesIn (s ++ t) = inbound.messagesIn s ++ (inbound.after s).messagesIn t := by
  rw [messagesIn, scan_after_append, run_append]
  rfl

theorem after_append (inbound : InboundProcessor) (s t : Bytes) :
    inbound.after (s ++ t) = (inbound.after s).after t := by
  rw [after, scan_after_append, run_append]
  rfl

theorem EmptiedBy.drop (h : inbound.EmptiedBy bytes) (count : ℕ) :
    (inbound.after (bytes.take count)).EmptiedBy (bytes.drop count) := by
  have hcut := after_append inbound (bytes.take count) (bytes.drop count)
  rw [List.take_append_drop] at hcut
  exact ⟨h.mode, hcut ▸ h.buffer, hcut ▸ h.assemblies⟩

/-! ### Bytes that are written -/

/-- The frames of a message go behind what is on its way. -/
theorem EmptiedBy.append (h : inbound.EmptiedBy bytes) {frames : List Frame}
    {messages : List Message} (hframes : ∀ frame ∈ frames, Encodable frame)
    (hrun : run MessageReassembler.onFrame {} (frames.map onWire) = ({}, messages)) :
    inbound.EmptiedBy (bytes ++ (frames.map encode).flatten) ∧
      inbound.messagesIn (bytes ++ (frames.map encode).flatten) =
        inbound.messagesIn bytes ++ messages := by
  have hscan := scan_frames hframes
  have hafter : inbound.after (bytes ++ (frames.map encode).flatten) =
      { inbound with buffer := [], messageReassembler := {} } := by
    rw [after_append, after, h.buffer, List.nil_append, hscan, h.assemblies, hrun]
    rfl
  refine ⟨⟨h.mode, by rw [hafter], by rw [hafter]⟩, ?_⟩
  have hlast : (inbound.after bytes).messagesIn (frames.map encode).flatten = messages := by
    rw [messagesIn, h.buffer, List.nil_append, hscan, h.assemblies, hrun]
  rw [messagesIn_append, hlast]

/-! ### A queue of payloads -/

/-- Each of the payloads is in a message of its own, and there is nothing else. -/
structure Holds (lib : JsonLibrary) (inbound : InboundProcessor) (bytes : Bytes)
    (payloads : List Payload) : Prop where
  emptied : inbound.EmptiedBy bytes
  messages : (inbound.messagesIn bytes).map (PayloadDecoder.payloadOf lib) = payloads.map some

section

variable {lib : JsonLibrary} {payloads : List Payload}

theorem Holds.payloadsIn (h : Holds lib inbound bytes payloads) :
    (inbound.messagesIn bytes).filterMap (PayloadDecoder.payloadOf lib) = payloads := by
  have hmap := congrArg (List.filterMap id) h.messages
  rw [List.filterMap_map, List.filterMap_map] at hmap
  exact hmap.trans List.filterMap_some

/-- **Delivery**: what a chunk completes comes off the front of the queue. -/
theorem Holds.deliver (h : Holds lib inbound bytes payloads) (count : ℕ) :
    ∃ arrived rest, payloads = arrived ++ rest ∧
      (inbound.messagesIn (bytes.take count)).map (PayloadDecoder.payloadOf lib) =
        arrived.map some ∧
      Holds lib (inbound.after (bytes.take count)) (bytes.drop count) rest := by
  have hcut := messagesIn_append inbound (bytes.take count) (bytes.drop count)
  rw [List.take_append_drop] at hcut
  have hmessages := h.messages
  rw [hcut, List.map_append] at hmessages
  obtain ⟨arrived, rest, rfl, harrived, hrest⟩ := List.map_eq_append_iff.mp hmessages.symm
  exact ⟨arrived, rest, rfl, harrived.symm, h.emptied.drop count, hrest.symm⟩

/-- **Sending**: a payload that fits goes to the end of the queue. -/
theorem Holds.send (h : Holds lib inbound bytes payloads) {o : OutboundProcessor}
    (hmode : o.wireMode = .framedBinary) (hmin : 15 ≤ o.messageFragmenter.maxFrameSize)
    (hmax : o.messageFragmenter.maxFrameSize ≤ 65549) {payload : Payload}
    (hpayload : Sendable o.messageFragmenter.maxFrameSize payload) :
    ∃ pieces, o.send lib payload =
        some ({ o with messageFragmenter := o.messageFragmenter.afterMessage }, pieces) ∧
      Holds lib inbound (bytes ++ pieces.flatten) (payloads ++ [payloadOnWire payload]) := by
  obtain ⟨frames, message, hsend, hencodable, hrun, hdecode⟩ :=
    send_spec hmode hmin hmax lib hpayload
  obtain ⟨hemptied, hmessages⟩ := h.emptied.append hencodable hrun
  have hpayloadOf : PayloadDecoder.payloadOf lib message = some (payloadOnWire payload) := by
    -- a collecting sink has the payload that the message is decoded to
    have hcollect := PayloadDecoder.feed_onMessage_collect lib [message] []
    rw [Sink.feed, hdecode] at hcollect
    simp only [Sink.feed_nil, List.nil_append, List.filterMap_cons,
      List.filterMap_nil] at hcollect
    rcases hpayloadOf : PayloadDecoder.payloadOf lib message with _ | received
    · rw [hpayloadOf] at hcollect
      cases congrArg Prod.fst hcollect
    · rw [hpayloadOf] at hcollect
      obtain ⟨rfl, -⟩ := List.cons.inj (congrArg Prod.fst hcollect)
      rfl
  refine ⟨_, hsend, hemptied, ?_⟩
  rw [hmessages, List.map_append, h.messages, List.map_append, List.map_singleton,
    List.map_singleton, hpayloadOf]

end

end InboundProcessor

/-! ### A core that receives -/

namespace AxtpCore

variable (lib : JsonLibrary) {core : AxtpCore}

/-- The payload is handled without an exception, by whatever core. -/
def Quiet (payload : Payload) : Prop :=
  ∀ (core : AxtpCore) (ingress : Ingress), (core.onPayload lib ingress payload).2 = .returned

/-- The core once it has handled the payloads. -/
def handling (core : AxtpCore) (ingress : ℕ → Ingress) (payloads : List Payload) : AxtpCore :=
  (payloads.foldl (fun s payload => (payloadSink lib ingress s payload).1) (core, 0)).1

/-- Messages with quiet payloads are handled one after the other. -/
theorem feed_onMessage_quiet {ingress : ℕ → Ingress} {messages : List Message}
    {payloads : List Payload} (hmessages : messages.map (PayloadDecoder.payloadOf lib) =
      payloads.map some) (h : ∀ payload ∈ payloads, Quiet lib payload) (s : AxtpCore × ℕ) :
    Sink.feed (PayloadDecoder.onMessage lib (payloadSink lib ingress)) s messages =
      (payloads.foldl (fun s payload => (payloadSink lib ingress s payload).1) s, .returned) := by
  induction payloads generalizing messages s with
  | nil =>
    obtain rfl := List.map_eq_nil_iff.mp hmessages
    rfl
  | cons payload payloads ih =>
    obtain ⟨message, messages, rfl, hpayload, hrest⟩ := List.map_eq_cons_iff.mp hmessages
    have hmessage := PayloadDecoder.onMessage_eq lib (payloadSink lib ingress) s message
    rw [hpayload] at hmessage
    have hquiet : (payloadSink lib ingress s payload).2 = .returned :=
      h payload (List.mem_cons_self ..) s.1 (ingress s.2)
    rw [Sink.feed, List.foldl_cons, show PayloadDecoder.onMessage lib (payloadSink lib ingress) s
      message = ((payloadSink lib ingress s payload).1, .returned) from
        Prod.ext hmessage.1 (hmessage.2 hquiet)]
    exact ih hrest (fun p hp => h p (List.mem_cons_of_mem _ hp)) _

/-- **Quiet arrival.** A chunk whose payloads are all quiet is handled to its end. -/
theorem handleBytes_quiet (hmode : core.inbound.wireMode = .framedBinary) {data : Bytes}
    {payloads : List Payload}
    (hmessages : (core.inbound.messagesIn data).map (PayloadDecoder.payloadOf lib) =
      payloads.map some) (h : ∀ payload ∈ payloads, Quiet lib payload) (ingress : ℕ → Ingress) :
    core.handleBytes lib ingress data =
      ({ core.handling lib ingress payloads with inbound := core.inbound.after data },
        .returned) := by
  have hfeed : (core.inbound.onBytes lib (payloadSink lib ingress) data (core, 0)).2 =
      Sink.feed (PayloadDecoder.onMessage lib (payloadSink lib ingress)) (core, 0)
        (core.inbound.messagesIn data) :=
    InboundProcessor.onBytes_framed lib hmode (payloadSink lib ingress) data (core, 0)
  rw [feed_onMessage_quiet lib hmessages h] at hfeed
  have hstate := InboundProcessor.onBytes_framed_state lib hmode (congrArg Prod.snd hfeed)
  have hinbound : (core.inbound.onBytes lib (payloadSink lib ingress) data (core, 0)).1 =
      core.inbound.after data := hstate
  rw [handleBytes, show core.inbound.onBytes lib (payloadSink lib ingress) data (core, 0) =
    (core.inbound.after data, _, Exit.returned) from Prod.ext hinbound hfeed]
  rfl

/-- **Invariant rule**: what the handling of each payload preserves of the core together with the
payloads handled so far. -/
theorem handling_invariant {I : AxtpCore → List Payload → Prop} {payloads : List Payload}
    (hstep : ∀ payload ∈ payloads, ∀ core ingress handled, I core handled →
      I (core.onPayload lib ingress payload).1 (handled ++ [payload])) (hcore : I core [])
    (ingress : ℕ → Ingress) : I (core.handling lib ingress payloads) payloads := by
  have hfold (handled : List Payload) (s : AxtpCore × ℕ) (hs : I s.1 handled) :
      I (payloads.foldl (fun s payload => (payloadSink lib ingress s payload).1) s).1
        (handled ++ payloads) := by
    induction payloads generalizing handled s with
    | nil =>
      rw [List.append_nil]
      exact hs
    | cons payload payloads ih =>
      have hnext := ih (fun p hp => hstep p (List.mem_cons_of_mem _ hp)) (handled ++ [payload])
        (payloadSink lib ingress s payload).1
        (hstep payload (List.mem_cons_self ..) s.1 (ingress s.2) handled hs)
      rwa [List.append_assoc, List.singleton_append] at hnext
  exact hfold [] (core, 0) hcore

end AxtpCore

end Axtp
