/-
  What a server keeps of control notices and session RPCs.

  A lawful JSON library lets nothing throw while a payload is handled
  (`onMessage_returned`), so what a core has received is what its decoders make of
  the bytes. Nothing in a server takes a notice or a session RPC: its queues are all
  the control payloads and session RPCs received so far (`queues_run`), and grow with
  them (`retained_bounded_iff`).
-/
import Axtp.Equiv.InboundProcessor
import Axtp.Equiv.JsonEnvelope
import Axtp.Equiv.SessionGating
import Axtp.Sdk.AxtpServer

namespace Axtp

open Run

/-! ### What a payload adds to the queues -/

/-- The payload as a control notice. -/
def Payload.controlNotice : Payload → Option ControlPayload
  | .control payload => some payload
  | _ => none

/-- The op of a session RPC. -/
def RpcOp.IsSession (op : RpcOp) : Prop :=
  op = RpcOp.identify ∨ op = RpcOp.reidentify ∨ op = RpcOp.hello ∨ op = RpcOp.identified

instance (op : RpcOp) : Decidable op.IsSession := by unfold RpcOp.IsSession; infer_instance

/-- The payload as a session RPC. -/
def Payload.sessionRpc : Payload → Option RpcPayload
  | .rpc payload => if payload.op.IsSession then some payload else none
  | _ => none

namespace AxtpCore

variable {lib : JsonLibrary} {core core' : AxtpCore}

/-- Only the other parts of the core changed. -/
structure SameQueues (core core' : AxtpCore) : Prop where
  inbound : core'.inbound = core.inbound
  controlNotices : core'.controlNotices = core.controlNotices
  sessionRpcs : core'.sessionRpcs = core.sessionRpcs

theorem SameQueues.refl (core : AxtpCore) : SameQueues core core := ⟨rfl, rfl, rfl⟩

theorem SameQueues.trans {core'' : AxtpCore} (h : SameQueues core core')
    (h' : SameQueues core' core'') : SameQueues core core'' :=
  ⟨h'.inbound.trans h.inbound, h'.controlNotices.trans h.controlNotices,
    h'.sessionRpcs.trans h.sessionRpcs⟩

theorem Wrote.sameQueues {origin : Option Ingress} (h : Wrote origin core core') :
    SameQueues core core' := by
  obtain ⟨outbound, pieces, rfl⟩ := h
  exact ⟨rfl, rfl, rfl⟩

theorem sameQueues_handleBrokerResult (lib : JsonLibrary) (core : AxtpCore)
    (result : Tagged BrokerResult) :
    SameQueues core (core.handleBrokerResult lib result).1 := by
  have htarget : SameQueues core (core.targeting result.value) := by
    unfold targeting
    split_ifs <;> exact ⟨rfl, rfl, rfl⟩
  have hsent := htarget.trans
    (wrote_sendBrokerResult lib (core.targeting result.value) result).sameQueues
  rcases hexit : ((core.targeting result.value).sendBrokerResult lib result).2 with _ | _
  · rw [handleBrokerResult_of_returned hexit]
    exact ⟨hsent.inbound, hsent.controlNotices, hsent.sessionRpcs⟩
  · rw [handleBrokerResult_of_threw hexit]
    exact hsent

/-- A payload was queued where it belongs. -/
structure Queued (payload : Payload) (core core' : AxtpCore) : Prop where
  inbound : core'.inbound = core.inbound
  controlNotices : core'.controlNotices = core.controlNotices ++ payload.controlNotice.toList
  sessionRpcs : core'.sessionRpcs = core.sessionRpcs ++ payload.sessionRpc.toList

theorem Queued.sameQueues {payload : Payload} {core'' : AxtpCore} (h : Queued payload core core')
    (h' : SameQueues core' core'') : Queued payload core core'' :=
  ⟨h'.inbound.trans h.inbound, h'.controlNotices.trans h.controlNotices,
    h'.sessionRpcs.trans h.sessionRpcs⟩

theorem SameQueues.queued {payload : Payload} (h : SameQueues core core')
    (hcontrol : payload.controlNotice = none) (hsession : payload.sessionRpc = none) :
    Queued payload core core' :=
  ⟨h.inbound, by rw [hcontrol, h.controlNotices]; simp, by rw [hsession, h.sessionRpcs]; simp⟩

theorem queued_handleControl (lib : JsonLibrary) (core : AxtpCore) (payload : ControlPayload) :
    Queued (.control payload) core (core.handleControl lib payload).1 := by
  unfold handleControl
  simp only
  rcases (core.countActivity.controlSession.handle payload).2 with _ | response
  · exact ⟨rfl, rfl, (List.append_nil _).symm⟩
  · simp only
    set kept : AxtpCore :=
      { core.countActivity with
        controlSession := (core.countActivity.controlSession.handle payload).1
        controlNotices := core.countActivity.controlNotices ++ [payload] }
    have hqueued : Queued (.control payload) core kept := ⟨rfl, rfl, (List.append_nil _).symm⟩
    have hresponse := hqueued.sameQueues
      (wrote_write kept none (kept.outbound.sendControl response)).sameQueues
    split_ifs
    · exact hresponse.sameQueues (wrote_tryWrite _ none _).sameQueues
    · exact hresponse

theorem sameQueues_handleResponse (lib : JsonLibrary) (core : AxtpCore) (ingress : Ingress)
    (payload : RpcPayload) : SameQueues core (core.handleResponse lib ingress payload).1 := by
  unfold handleResponse
  split_ifs
  · exact (wrote_tryWrite ..).sameQueues
  · exact SameQueues.refl core
  · exact ⟨rfl, rfl, rfl⟩

theorem queued_handleRpc (lib : JsonLibrary) (core : AxtpCore) (ingress : Ingress)
    (payload : RpcPayload) :
    Queued (.rpc payload) core (core.handleRpc lib ingress payload).1 := by
  have hcount : SameQueues core core.countActivity := ⟨rfl, rfl, rfl⟩
  -- an op that is none of the session's leaves the queues alone
  have hother {core' : AxtpCore} (hop : ¬ payload.op.IsSession) (h : SameQueues core core') :
      Queued (.rpc payload) core core' :=
    h.queued rfl (if_neg hop)
  simp only [handleRpc]
  generalize (if payload.meta_.hasRandomSeed then payload.meta_.randomSeed else 0) = randomSeed
  split_ifs with hidentify hhello hrequest hevent hresponse hbatch
  · have hop : payload.op.IsSession := hidentify.imp id .inl
    have hqueued : Queued (.rpc payload) core
        { core.countActivity with
          nextSessionId := core.nextSessionId + 1
          sessionRpcs := core.sessionRpcs ++ [payload] } := by
      refine ⟨rfl, (List.append_nil _).symm, ?_⟩
      rw [Payload.sessionRpc, if_pos hop]
      rfl
    exact hqueued.sameQueues (wrote_tryWrite ..).sameQueues
  · have hop : payload.op.IsSession := .inr (.inr hhello)
    refine ⟨rfl, (List.append_nil _).symm, ?_⟩
    rw [Payload.sessionRpc, if_pos hop]
    rfl
  all_goals
    have hop : ¬ payload.op.IsSession := by
      rintro (h | h | h | h)
      · exact hidentify (.inl h)
      · exact hidentify (.inr h)
      · exact hhello (.inl h)
      · exact hhello (.inr h)
  · exact hother hop ⟨rfl, rfl, rfl⟩
  · exact hother hop ⟨rfl, rfl, rfl⟩
  · exact hother hop (hcount.trans (sameQueues_handleResponse ..))
  · exact hother hop (hcount.trans (sameQueues_handleResponse ..))
  · exact hother hop hcount

theorem queued_onPayload (lib : JsonLibrary) (core : AxtpCore) (ingress : Ingress)
    (payload : Payload) : Queued payload core (core.onPayload lib ingress payload).1 := by
  cases payload with
  | control payload => exact queued_handleControl lib core payload
  | rpc payload => exact queued_handleRpc lib core ingress payload
  | stream payload => exact SameQueues.queued ⟨rfl, rfl, rfl⟩ rfl rfl

/-! ### Nothing throws -/

theorem tryWrite_returned {origin : Option Ingress} {sent : Option (OutboundProcessor × List Bytes)}
    (h : sent.isSome = true) : (core.tryWrite origin sent).2 = .returned := by
  obtain ⟨sent, rfl⟩ := Option.isSome_iff_exists.mp h
  rfl

theorem handleControl_returned (hlib : lib.Lawful) (core : AxtpCore) (payload : ControlPayload) :
    (core.handleControl lib payload).2 = .returned := by
  unfold handleControl
  simp only
  rcases (core.countActivity.controlSession.handle payload).2 with _ | response
  · rfl
  · simp only
    split_ifs
    · exact tryWrite_returned
        (OutboundProcessor.sendRpc_isSome _ rfl (JsonRpcEncoder.encode_makeHello hlib))
    · rfl

/-- A payload that the decoder did not make an answer of is handled without an exception. -/
theorem handleRpc_returned (hlib : lib.Lawful) (core : AxtpCore) (ingress : Ingress)
    {payload : RpcPayload} (hlocal : payload.meta_.localGeneratedResponse = false) :
    (core.handleRpc lib ingress payload).2 = .returned := by
  have hresponse (core : AxtpCore) : (core.handleResponse lib ingress payload).2 = .returned := by
    unfold handleResponse
    split_ifs with h
    · rw [hlocal] at h
      cases h
    all_goals rfl
  simp only [handleRpc]
  generalize (if payload.meta_.hasRandomSeed then payload.meta_.randomSeed else 0) = randomSeed
  split_ifs
  · exact tryWrite_returned (OutboundProcessor.sendRpc_isSome _ rfl
      (JsonRpcEncoder.encode_makeIdentified hlib (isUtf8_hex8 _)))
  · rfl
  · rfl
  · rfl
  · exact hresponse _
  · exact hresponse _
  · rfl

theorem decodeFixed_localGeneratedResponse {body : Bytes} {payload : RpcPayload}
    (h : PayloadDecoder.decodeFixed body = some payload) :
    payload.meta_.localGeneratedResponse = false := by
  unfold PayloadDecoder.decodeFixed at h
  split_ifs at h
  simp only [Option.bind_eq_bind, Option.bind_eq_some_iff] at h
  obtain ⟨encoding, -, op, -, requestId, -, methodOrEventId, -, statusCode, -, bodyEncoding, -,
    body, -, h⟩ := h
  obtain rfl := Option.some.inj h
  rfl

/-- Messages are handled without an exception; the JSON decoder would swallow it anyway. -/
theorem onMessage_returned (hlib : lib.Lawful) (ingress : ℕ → Ingress) (s : AxtpCore × ℕ)
    (message : Message) :
    (PayloadDecoder.onMessage lib (payloadSink lib ingress) s message).2 = .returned := by
  unfold PayloadDecoder.onMessage
  cases message.payloadType with
  | control =>
    rcases PayloadDecoder.decodeControl message.body with _ | payload
    · rfl
    · exact handleControl_returned hlib s.1 payload
  | stream =>
    rcases PayloadDecoder.decodeStream message.body with _ | payload <;> rfl
  | rpc =>
    simp only [PayloadDecoder.decodeRpc]
    split_ifs
    · rfl
    · rcases hfixed : PayloadDecoder.decodeFixed message.body with _ | payload
      · rfl
      · exact handleRpc_returned hlib s.1 _ (decodeFixed_localGeneratedResponse hfixed)

/-- The queues are what they were before and what the payloads added. -/
structure Received (payloads : List Payload) (core core' : AxtpCore) : Prop where
  inbound : core'.inbound = core.inbound
  controlNotices : core'.controlNotices =
    core.controlNotices ++ payloads.filterMap Payload.controlNotice
  sessionRpcs : core'.sessionRpcs = core.sessionRpcs ++ payloads.filterMap Payload.sessionRpc

theorem Received.cons {payload : Payload} {payloads : List Payload} {core'' : AxtpCore}
    (h : Queued payload core core') (h' : Received payloads core' core'') :
    Received (payload :: payloads) core core'' := by
  refine ⟨h'.inbound.trans h.inbound, ?_, ?_⟩
  · rw [h'.controlNotices, h.controlNotices, List.append_assoc, List.filterMap_cons]
    cases payload.controlNotice <;> rfl
  · rw [h'.sessionRpcs, h.sessionRpcs, List.append_assoc, List.filterMap_cons]
    cases payload.sessionRpc <;> rfl

theorem received_foldl (lib : JsonLibrary) (ingress : ℕ → Ingress) (payloads : List Payload)
    (core : AxtpCore) (n : ℕ) :
    Received payloads core
      (payloads.foldl (fun s payload => (payloadSink lib ingress s payload).1) (core, n)).1 := by
  induction payloads generalizing core n with
  | nil => exact ⟨rfl, (List.append_nil _).symm, (List.append_nil _).symm⟩
  | cons payload payloads ih =>
    rw [List.foldl_cons]
    exact Received.cons (queued_onPayload lib core (ingress n) payload) (ih _ _)

/-- **Received bytes** leave in the queues what the decoders make of them. -/
theorem handleBytes_of_lawful (hlib : lib.Lawful) (core : AxtpCore) (ingress : ℕ → Ingress)
    (data : Bytes) :
    (core.handleBytes lib ingress data).1.inbound = (core.inbound.decodeStep lib data).1 ∧
      (core.handleBytes lib ingress data).1.controlNotices = core.controlNotices ++
        (core.inbound.decodeStep lib data).2.filterMap Payload.controlNotice ∧
      (core.handleBytes lib ingress data).1.sessionRpcs = core.sessionRpcs ++
        (core.inbound.decodeStep lib data).2.filterMap Payload.sessionRpc := by
  have hreceived := received_foldl lib ingress (core.inbound.decoded lib data) core 0
  simp only [handleBytes,
    InboundProcessor.onBytes_of_returned lib (onMessage_returned hlib ingress)]
  exact ⟨trivial, hreceived.controlNotices, hreceived.sessionRpcs⟩

end AxtpCore

/-! ### Runs of a server -/

namespace AxtpServer

variable {σ : Type*} {lib : JsonLibrary}

/-- A transport is attached. -/
def Action.IsAttach : Action σ → Prop
  | .attachTransport _ => True
  | _ => False

/-- The bytes that arrive with a step. -/
def Action.data : Action σ → Option Bytes
  | .receive data _ => some data
  | _ => none

/-- What the decoders make of the bytes of a run. -/
def received (lib : JsonLibrary) (inbound : InboundProcessor) (actions : List (Action σ)) :
    InboundProcessor × List Payload :=
  run (InboundProcessor.decodeStep lib) inbound (actions.filterMap Action.data)

theorem sameQueues_step (lib : JsonLibrary) (server : AxtpServer σ) {action : Action σ}
    (hattach : ¬ action.IsAttach) (hdata : action.data = none) :
    AxtpCore.SameQueues server.endpoint.core (server.step lib action).1.endpoint.core := by
  cases action with
  | attachTransport profile => exact absurd trivial hattach
  | receive data ingress => cases hdata
  | handleBrokerResult =>
    simp only [step, onEndpoint, AxtpEndpoint.step, AxtpEndpoint.handleBrokerResult]
    rcases server.endpoint.broker.results with _ | ⟨result, results⟩
    · exact AxtpCore.SameQueues.refl _
    · exact AxtpCore.sameQueues_handleBrokerResult lib _ result
  | flushOutbound =>
    simp only [step, onEndpoint, AxtpEndpoint.step, AxtpEndpoint.flushOutbound]
    split_ifs <;> exact ⟨rfl, rfl, rfl⟩
  | _ => exact ⟨rfl, rfl, rfl⟩

/-- The queues of a run hold all control payloads and session RPCs that were received. -/
theorem queues_run (hlib : lib.Lawful) (server : AxtpServer σ) (actions : List (Action σ))
    (h : ∀ action ∈ actions, ¬ action.IsAttach) :
    (run (step lib) server actions).1.endpoint.core.inbound =
        (received lib server.endpoint.core.inbound actions).1 ∧
      (run (step lib) server actions).1.endpoint.core.controlNotices =
        server.endpoint.core.controlNotices ++
          (received lib server.endpoint.core.inbound actions).2.filterMap Payload.controlNotice ∧
      (run (step lib) server actions).1.endpoint.core.sessionRpcs =
        server.endpoint.core.sessionRpcs ++
          (received lib server.endpoint.core.inbound actions).2.filterMap Payload.sessionRpc := by
  -- only the bytes that are received put anything into the queues
  induction actions generalizing server with
  | nil => simp [received]
  | cons action actions ih =>
    have hrest := ih (server.step lib action).1 fun a ha => h a (List.mem_cons_of_mem _ ha)
    rw [run_cons]
    rcases hdata : action.data with _ | data
    · have hsame := sameQueues_step lib server (h action (List.mem_cons_self ..)) hdata
      rw [hsame.inbound, hsame.controlNotices, hsame.sessionRpcs] at hrest
      rw [received, List.filterMap_cons_none hdata]
      exact hrest
    · cases action with
      | receive bytes ingress =>
        obtain rfl : bytes = data := Option.some.inj hdata
        obtain ⟨hinbound, hnotices, hsession⟩ :=
          AxtpCore.handleBytes_of_lawful hlib server.endpoint.core ingress bytes
        simp only [received, step, onEndpoint, AxtpEndpoint.step, AxtpEndpoint.onTransportBytes,
          hinbound, hnotices, hsession] at hrest
        simp only [received, List.filterMap_cons_some hdata, run_cons, List.filterMap_append,
          ← List.append_assoc]
        exact hrest
      | _ => cases hdata

/-- The number of entries kept for the session. -/
def retained (server : AxtpServer σ) : ℕ :=
  server.endpoint.core.controlNotices.length + server.endpoint.core.sessionRpcs.length

/-- The payload is a control payload or a session RPC. -/
def IsBookkept (payload : Payload) : Bool :=
  payload.controlNotice.isSome || payload.sessionRpc.isSome

/-- The payloads that a server with the profile receives in a run. -/
def receivedFrom (lib : JsonLibrary) (profile : TransportProfile) (actions : List (Action σ)) :
    List Payload :=
  (received lib (({} : InboundProcessor).setWireMode profile.wireMode) actions).2

theorem countP_isBookkept (payloads : List Payload) :
    (payloads.filterMap Payload.controlNotice).length +
      (payloads.filterMap Payload.sessionRpc).length = payloads.countP IsBookkept := by
  induction payloads with
  | nil => rfl
  | cons payload payloads ih =>
    rw [List.countP_cons, List.filterMap_cons, List.filterMap_cons, ← ih, IsBookkept]
    cases payload with
    | control payload => simp [Payload.controlNotice, Payload.sessionRpc]; omega
    | rpc payload =>
      by_cases hop : payload.op.IsSession
      · simp [Payload.controlNotice, Payload.sessionRpc, hop]; omega
      · simp [Payload.controlNotice, Payload.sessionRpc, hop]
    | stream payload => simp [Payload.controlNotice, Payload.sessionRpc]

/-- After a run the server keeps as many entries as it received payloads of these kinds. -/
theorem retained_run (hlib : lib.Lawful) (server : AxtpServer σ) (profile : TransportProfile)
    (actions : List (Action σ)) (h : ∀ action ∈ actions, ¬ action.IsAttach) :
    (run (step lib) (server.attachTransport (some profile)) actions).1.retained =
      (receivedFrom lib profile actions).countP IsBookkept := by
  obtain ⟨-, hnotices, hsession⟩ :=
    queues_run hlib (server.attachTransport (some profile)) actions h
  rw [retained, hnotices, hsession, ← countP_isBookkept, List.length_append, List.length_append]
  have hempty : (server.attachTransport (some profile)).endpoint.core.controlNotices = [] ∧
      (server.attachTransport (some profile)).endpoint.core.sessionRpcs = [] := ⟨rfl, rfl⟩
  rw [hempty.1, hempty.2, List.length_nil, Nat.zero_add, List.length_nil, Nat.zero_add]
  rfl

/-- **Session bookkeeping.** Over any set of runs of a server on one transport, the number of
notices and session RPCs kept is bounded exactly when the number of control payloads and session
RPCs received is. -/
theorem retained_bounded_iff (hlib : lib.Lawful) (server : AxtpServer σ)
    (profile : TransportProfile)
    (runs : Set (List (Action σ))) (h : ∀ actions ∈ runs, ∀ action ∈ actions, ¬ action.IsAttach) :
    (∃ bound, ∀ actions ∈ runs,
        (run (step lib) (server.attachTransport (some profile)) actions).1.retained ≤ bound) ↔
      ∃ bound, ∀ actions ∈ runs, (receivedFrom lib profile actions).countP IsBookkept ≤ bound := by
  constructor
  · rintro ⟨bound, hbound⟩
    refine ⟨bound, fun actions hactions => ?_⟩
    rw [← retained_run hlib server profile actions (h actions hactions)]
    exact hbound actions hactions
  · rintro ⟨bound, hbound⟩
    refine ⟨bound, fun actions hactions => ?_⟩
    rw [retained_run hlib server profile actions (h actions hactions)]
    exact hbound actions hactions

/-! ### A peer that identifies again and again -/

open WebSocketJsonRpcAdapter in
/-- The text of an IDENTIFY arrives a number of times. -/
def flood (n : ℕ) : List (Action Unit) :=
  List.replicate n (.receive identifyMessage.data fun _ => {})

open WebSocketJsonRpcAdapter in
theorem receivedFrom_flood (n : ℕ) :
    (receivedFrom (.knowing gatingTexts) { wireMode := .webSocketJsonRpc } (flood n)).countP
      IsBookkept = n := by
  have hidentify : ((JsonRpcPayloadDecoder.decodePayload (.knowing gatingTexts) identifyMessage.data
      .jsonRpc none none).map fun payload => decide payload.op.IsSession) = some true := by
    decide +kernel
  obtain ⟨payload, hdecode, hop⟩ := Option.map_eq_some_iff.mp hidentify
  have hstep : ({ wireMode := .webSocketJsonRpc } : InboundProcessor).decodeStep
      (.knowing gatingTexts) identifyMessage.data =
        ({ wireMode := .webSocketJsonRpc }, [.rpc payload]) := by
    rw [InboundProcessor.decodeStep, InboundProcessor.decoded_webSocket _ rfl, hdecode]
    rfl
  have hbookkept : IsBookkept (.rpc payload) = true := by
    rw [IsBookkept, Payload.sessionRpc, if_pos (of_decide_eq_true hop)]
    rfl
  have hdata : (Action.receive identifyMessage.data fun _ => {} : Action Unit).data =
      some identifyMessage.data := rfl
  induction n with
  | zero => rfl
  | succ n ih =>
    simp only [receivedFrom, received, flood, InboundProcessor.setWireMode] at ih ⊢
    rw [List.replicate_succ, List.filterMap_cons_some hdata, run_cons, hstep,
      List.countP_append, ih,
      List.countP_cons, if_pos hbookkept]
    simp [Nat.add_comm]

open WebSocketJsonRpcAdapter in
/-- Over one run with three of them the bookkeeping is bounded. -/
theorem retained_bounded_flood :
    ∃ bound, ∀ actions ∈ ({flood 3} : Set (List (Action Unit))),
      (run (step (.knowing gatingTexts)) (({ endpoint := { world := () } } :
        AxtpServer Unit).attachTransport
          (some { wireMode := .webSocketJsonRpc })) actions).1.retained ≤
          bound := by
  refine (retained_bounded_iff (JsonLibrary.lawful_knowing proper_gatingTexts) _ _ {flood 3} ?_).mpr
    ⟨3, ?_⟩
  · rintro actions rfl action haction
    obtain rfl := List.eq_of_mem_replicate haction
    exact id
  · rintro actions rfl
    exact (receivedFrom_flood 3).le

open WebSocketJsonRpcAdapter in
/-- Over all runs it is not. -/
theorem not_retained_bounded :
    ¬ ∃ bound, ∀ actions : List (Action Unit), (∀ action ∈ actions, ¬ action.IsAttach) →
      (run (step (.knowing gatingTexts)) (({ endpoint := { world := () } } :
        AxtpServer Unit).attachTransport
          (some { wireMode := .webSocketJsonRpc })) actions).1.retained ≤
          bound := by
  rintro ⟨bound, hbound⟩
  have hattach : ∀ action ∈ flood (bound + 1), ¬ action.IsAttach := by
    intro action haction
    obtain rfl := List.eq_of_mem_replicate haction
    exact id
  have hretained := hbound (flood (bound + 1)) hattach
  rw [retained_run (JsonLibrary.lawful_knowing proper_gatingTexts) _ _ _ hattach,
    receivedFrom_flood] at hretained
  omega

end AxtpServer

end Axtp
