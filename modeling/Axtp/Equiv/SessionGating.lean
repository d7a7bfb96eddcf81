/-
  Which messages the JSON-RPC adapter lets through to the core.

  On one connection the adapter stays as it began until it handles an IDENTIFY; from then
  on it is identified, and its sid is the one it announced last (`follows_run`). Requests
  are held back by this, and events and responses once it is identified; but before that
  events and responses go through, and batch responses always do. An adapter that begins a
  connection still identified lets messages with its old sid through (`gated_iff`).
-/
import Axtp.Equiv.JsonEnvelope
import Axtp.Equiv.WebSocketJsonRpcAdapter
import Axtp.Json.Lawful

namespace Axtp

namespace WebSocketJsonRpcAdapter

open Json Run

variable {lib : JsonLibrary}

/-! ### Sids -/

theorem valid_of_readEnvelope (hlib : lib.Lawful) {data : Bytes} {envelope : Envelope}
    (h : readEnvelope lib data = some envelope) : envelope.object.Valid := by
  simp only [readEnvelope, Option.bind_eq_bind, Option.bind_eq_some_iff] at h
  obtain ⟨object, hparse, op, -, endpoint, -, heq⟩ := h
  obtain rfl := Option.some.inj heq
  exact hlib.valid_of_parse hparse

theorem identified_identify (adapter : WebSocketJsonRpcAdapter) (d : Json)
    (randomSeed : Option UInt32) : (adapter.identify d randomSeed).identified = true := by
  unfold identify
  split
  · assumption
  · split <;> rfl

/-- The sid of a message whose text the library reads. -/
theorem isUtf8_parseSid {object : Json} (h : object.Valid) : isUtf8 (parseSid object) = true := by
  unfold parseSid JsonRpcPayloadDecoder.parseSid
  rcases hfind : (object.find "sid").bind getString with _ | sid
  · rfl
  · exact isUtf8_of_find h hfind

/-! ### One connection -/

/-- A text message, with what goes on around its handling. -/
structure TextMessage where
  data : Bytes
  around : Surroundings := {}

def receive (lib : JsonLibrary) (adapter : WebSocketJsonRpcAdapter) (message : TextMessage) :
    WebSocketJsonRpcAdapter × List AdapterEffect :=
  ((adapter.onBytes lib message.around message.data).1,
    (adapter.onBytes lib message.around message.data).2.1)

/-- An IDENTIFY or REIDENTIFY that was handled. -/
def IsIdentify (lib : JsonLibrary) (message : TextMessage) : Prop :=
  (identifying lib message.data).isSome = true

/-- The sid that was announced last. -/
def lastAnnounced (effects : List AdapterEffect) : Option Bytes := (announced effects).getLast?

/-- What the adapter knows of the messages of a connection that began with the adapter `first`. -/
structure Follows (lib : JsonLibrary) (first : WebSocketJsonRpcAdapter) (before : List TextMessage)
    (adapter : WebSocketJsonRpcAdapter) (effects : List AdapterEffect) : Prop where
  fresh : (¬ ∃ message ∈ before, IsIdentify lib message) → adapter = first
  identified : (∃ message ∈ before, IsIdentify lib message) → adapter.identified = true
  announced : (∃ message ∈ before, IsIdentify lib message) → isUtf8 adapter.sid = true →
    lastAnnounced effects = some adapter.sid

theorem Follows.receive (hlib : lib.Lawful) {first : WebSocketJsonRpcAdapter}
    {before : List TextMessage} {adapter : WebSocketJsonRpcAdapter} {effects : List AdapterEffect}
    (h : Follows lib first before adapter effects) (message : TextMessage) :
    Follows lib first (before ++ [message]) (receive lib adapter message).1
      (effects ++ (WebSocketJsonRpcAdapter.receive lib adapter message).2) := by
  have hstate : (WebSocketJsonRpcAdapter.receive lib adapter message).1 =
      adapter.heard lib message.data := fst_onBytes
  have heffects := announced_onBytes lib message.around adapter message.data
  rcases hidentifying : identifying lib message.data with _ | ⟨d, randomSeed⟩
  · -- no IDENTIFY: the state stays, and nothing is announced
    have hnot : ¬ IsIdentify lib message := by simp [IsIdentify, hidentifying]
    have hsame : (∃ earlier ∈ before ++ [message], IsIdentify lib earlier) ↔
        ∃ earlier ∈ before, IsIdentify lib earlier := by simp [hnot]
    have hheard : adapter.heard lib message.data = adapter := by rw [heard, hidentifying]
    rw [hidentifying] at heffects
    simp only [Option.isSome_none, Bool.false_eq_true, false_and, if_false] at heffects
    rw [hstate, hheard]
    refine ⟨?_, ?_, ?_⟩
    · rw [hsame]
      exact h.fresh
    · rw [hsame]
      exact h.identified
    · intro hearlier hutf8
      rw [lastAnnounced, announced_append, WebSocketJsonRpcAdapter.receive, heffects,
        List.append_nil]
      exact h.announced (hsame.mp hearlier) hutf8
  · have his : IsIdentify lib message := by simp [IsIdentify, hidentifying]
    have hheard : adapter.heard lib message.data = adapter.identify d randomSeed := by
      rw [heard, hidentifying]
    rw [hstate, hheard]
    refine ⟨fun hnone => absurd ⟨message, by simp, his⟩ hnone,
      fun _ => identified_identify adapter d randomSeed, fun _ hutf8 => ?_⟩
    rw [hheard, hidentifying,
      if_pos ⟨rfl, JsonRpcEncoder.encode_makeIdentified hlib hutf8⟩] at heffects
    rw [lastAnnounced, announced_append, WebSocketJsonRpcAdapter.receive, heffects]
    exact List.getLast?_concat

/-- **After any messages**, on a connection that begins with any adapter. -/
theorem follows_run (hlib : lib.Lawful) (adapter : WebSocketJsonRpcAdapter)
    (before : List TextMessage) :
    Follows lib adapter before (run (receive lib) adapter before).1
      (run (receive lib) adapter before).2 := by
  induction before using List.reverseRecOn with
  | nil => exact ⟨fun _ => rfl, by simp, by simp⟩
  | append_singleton before message ih =>
    rw [run_append, run_singleton]
    exact ih.receive hlib message

/-! ### Gating -/

/-- The ops of the messages that belong to a session. -/
def businessOps : List RpcOp :=
  [RpcOp.request, RpcOp.requestBatch, RpcOp.event, RpcOp.requestResponse,
    RpcOp.requestBatchResponse]

/-- After the messages `before`, this one is forwarded only if an IDENTIFY was handled and it has
the sid that was announced last. -/
def Gated (lib : JsonLibrary) (adapter : WebSocketJsonRpcAdapter) (before : List TextMessage)
    (message : TextMessage) : Prop :=
  ∀ envelope, readEnvelope lib message.data = some envelope → envelope.op ∈ businessOps →
    .forward message.data ∈ (receive lib (run (receive lib) adapter before).1 message).2 →
    (∃ earlier ∈ before, IsIdentify lib earlier) ∧
      lastAnnounced (run (receive lib) adapter before).2 = some (parseSid envelope.object)

/-- What a message has to be for the gate to hold. A batch response comes after the IDENTIFY and has
the announced sid. An event or a response comes after the IDENTIFY, unless the adapter began the
connection identified and with another sid. A request comes after the IDENTIFY, unless the adapter
did not begin the connection identified and with this sid. -/
def Expected (lib : JsonLibrary) (adapter : WebSocketJsonRpcAdapter) (before : List TextMessage)
    (message : TextMessage) : Prop :=
  ∀ envelope, readEnvelope lib message.data = some envelope →
    (envelope.op = RpcOp.requestBatchResponse →
      (∃ earlier ∈ before, IsIdentify lib earlier) ∧
        lastAnnounced (run (receive lib) adapter before).2 = some (parseSid envelope.object)) ∧
    (envelope.op = RpcOp.event ∨ envelope.op = RpcOp.requestResponse →
      (∃ earlier ∈ before, IsIdentify lib earlier) ∨
        (adapter.identified = true ∧ adapter.isAcceptedSid (parseSid envelope.object) = false)) ∧
    (envelope.op = RpcOp.request →
      (∃ earlier ∈ before, IsIdentify lib earlier) ∨
        adapter.identified = false ∨ adapter.isAcceptedSid (parseSid envelope.object) = false)

/-- What the decision lets through, for each of the ops. -/
theorem decision_eq_forward {adapter : WebSocketJsonRpcAdapter} {envelope : Envelope}
    (hop : envelope.op ∈ businessOps) :
    adapter.decision envelope = .forward ↔
      (envelope.op = RpcOp.request ∧ adapter.identified = true ∧
        adapter.isAcceptedSid (parseSid envelope.object) = true) ∨
      ((envelope.op = RpcOp.event ∨ envelope.op = RpcOp.requestResponse) ∧
        (adapter.identified = true → adapter.isAcceptedSid (parseSid envelope.object) = true)) ∨
      envelope.op = RpcOp.requestBatchResponse := by
  obtain ⟨object, op, endpoint⟩ := envelope
  simp only [businessOps, List.mem_cons, List.not_mem_nil, or_false] at hop
  rcases hop with rfl | rfl | rfl | rfl | rfl <;>
    cases hidentified : adapter.identified <;>
    cases hsid : adapter.isAcceptedSid (parseSid object) <;>
    simp [decision, hidentified, hsid, RpcOp.request, RpcOp.requestBatch, RpcOp.event,
      RpcOp.requestResponse, RpcOp.requestBatchResponse, RpcOp.identify, RpcOp.reidentify]

/-- **Session gating.** On a connection that begins with any adapter, whatever came before, a
message obeys the gate if and only if it is as `Expected` says. -/
theorem gated_iff (hlib : lib.Lawful) (adapter : WebSocketJsonRpcAdapter)
    (before : List TextMessage) (message : TextMessage) :
    Gated lib adapter before message ↔ Expected lib adapter before message := by
  have h := follows_run hlib adapter before
  generalize hstate : (run (receive lib) adapter before).1 = state at h
  have hforward (envelope : Envelope) (hread : readEnvelope lib message.data = some envelope) :
      .forward message.data ∈ (receive lib state message).2 ↔
        state.decision envelope = .forward := by
    rw [receive, forward_mem_onBytes]
    simp [hread]
  constructor
  · intro hgated envelope hread
    have hopen (hop : envelope.op ∈ businessOps) (hdecision : state.decision envelope = .forward) :=
      hgated envelope hread hop (by rw [hstate]; exact (hforward envelope hread).mpr hdecision)
    refine ⟨fun hop => ?_, fun hop => ?_, fun hop => ?_⟩
    · have hmem : envelope.op ∈ businessOps := by rw [hop]; decide
      exact hopen hmem ((decision_eq_forward hmem).mpr (.inr (.inr hop)))
    · by_contra hnot
      rw [not_or] at hnot
      obtain ⟨hnone, hopened⟩ := hnot
      -- no IDENTIFY yet, so this is the adapter of the start, which lets the message through
      obtain rfl := h.fresh hnone
      have hmem : envelope.op ∈ businessOps := by rcases hop with hop | hop <;> rw [hop] <;> decide
      refine hnone (hopen hmem ((decision_eq_forward hmem).mpr (.inr (.inl ⟨hop, ?_⟩)))).1
      intro hidentified
      by_contra hsid
      exact hopened ⟨hidentified, by simpa using hsid⟩
    · by_contra hnot
      simp only [not_or, Bool.not_eq_false] at hnot
      obtain ⟨hnone, hidentified, hsid⟩ := hnot
      obtain rfl := h.fresh hnone
      have hmem : envelope.op ∈ businessOps := by rw [hop]; decide
      exact hnone (hopen hmem ((decision_eq_forward hmem).mpr (.inl ⟨hop, hidentified, hsid⟩))).1
  · intro hexpected envelope hread hop hmem
    rw [hstate, hforward envelope hread, decision_eq_forward hop] at hmem
    obtain ⟨hbatch, hevent, hrequest⟩ := hexpected envelope hread
    -- after an IDENTIFY, an accepted sid is the announced one
    have haccepted (hearlier : ∃ earlier ∈ before, IsIdentify lib earlier)
        (haccepted : state.isAcceptedSid (parseSid envelope.object) = true) :
        (∃ earlier ∈ before, IsIdentify lib earlier) ∧
          lastAnnounced (run (receive lib) adapter before).2 = some (parseSid envelope.object) := by
      refine ⟨hearlier, ?_⟩
      rw [isAcceptedSid, decide_eq_true_eq] at haccepted
      have hutf8 := isUtf8_parseSid (valid_of_readEnvelope hlib hread)
      rw [haccepted.2] at hutf8 ⊢
      exact h.announced hearlier hutf8
    rcases hmem with ⟨hop, hidentified, hsid⟩ | ⟨hkind, hsid⟩ | hop
    · by_cases hearlier : ∃ earlier ∈ before, IsIdentify lib earlier
      · exact haccepted hearlier hsid
      · obtain rfl := h.fresh hearlier
        rcases (hrequest hop).resolve_left hearlier with hnot | hnot
        · rw [hidentified] at hnot
          cases hnot
        · rw [hsid] at hnot
          cases hnot
    · by_cases hearlier : ∃ earlier ∈ before, IsIdentify lib earlier
      · exact haccepted hearlier (hsid (h.identified hearlier))
      · obtain rfl := h.fresh hearlier
        obtain ⟨hidentified, hnot⟩ := (hevent hkind).resolve_left hearlier
        rw [hsid hidentified] at hnot
        cases hnot
    · exact hbatch hop

/-! ### An event before and after the IDENTIFY -/

def identifyMessage : TextMessage :=
  { data := ascii "\x7b\"d\":\x7b\x7d,\"op\":2,\"sid\":\"\"\x7d" }

def eventMessage : TextMessage :=
  { data := ascii "\x7b\"d\":\x7b\"event\":\"e\"\x7d,\"op\":6,\"sid\":\"\"\x7d" }

/-- The values of the two texts, and of the answer to the IDENTIFY. -/
def gatingTexts : List (Bytes × Json) :=
  [(identifyMessage.data, JsonRpcEncoder.envelope [] RpcOp.identify emptyObject),
    (eventMessage.data,
      JsonRpcEncoder.envelope [] RpcOp.event (emptyObject.set "event" (.string (ascii "e")))),
    (ascii "\x7b\"d\":\x7b\x7d,\"op\":3,\"sid\":\"3C6EF372\"\x7d",
      JsonRpcEncoder.envelope (ascii "3C6EF372") RpcOp.identified emptyObject)]

theorem proper_gatingTexts : JsonLibrary.Proper gatingTexts where
  texts := by decide +kernel
  values entry hmem := by
    simp only [gatingTexts, List.mem_cons, List.not_mem_nil, or_false] at hmem
    rcases hmem with rfl | rfl | rfl
    · exact JsonRpcEncoder.valid_envelope _ rfl valid_emptyObject
    · exact JsonRpcEncoder.valid_envelope _ rfl (valid_emptyObject.set (.string (isUtf8_ascii "e")))
    · exact JsonRpcEncoder.valid_envelope _ (isUtf8_ascii _) valid_emptyObject
  heads := by decide +kernel

theorem op_eventMessage :
    ((readEnvelope (.knowing gatingTexts) eventMessage.data).map Envelope.op) =
    some RpcOp.event := by decide +kernel

theorem gated_event_after_identify :
    Gated (.knowing gatingTexts) start [identifyMessage] eventMessage := by
  refine (gated_iff (JsonLibrary.lawful_knowing proper_gatingTexts) start _ _).mpr ?_
  intro envelope hread
  have hop := op_eventMessage
  rw [hread, Option.map_some, Option.some.injEq] at hop
  have hearlier : ∃ earlier ∈ [identifyMessage], IsIdentify (.knowing gatingTexts) earlier :=
    ⟨identifyMessage, by simp, by unfold IsIdentify; decide +kernel⟩
  exact ⟨fun hbatch => absurd (hop.symm.trans hbatch) (by decide), fun _ => .inl hearlier,
    fun _ => .inl hearlier⟩

/-- Before the IDENTIFY an event goes through to the core. -/
theorem not_gated_event : ¬ Gated (.knowing gatingTexts) start [] eventMessage := by
  intro hgated
  obtain ⟨envelope, hread, hop⟩ := Option.map_eq_some_iff.mp op_eventMessage
  obtain ⟨⟨earlier, hearlier, -⟩, -⟩ :=
    hgated envelope hread (by rw [hop]; decide) (by decide +kernel)
  cases hearlier

end WebSocketJsonRpcAdapter

end Axtp
