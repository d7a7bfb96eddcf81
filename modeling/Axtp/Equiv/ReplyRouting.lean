/-
  Replies go back to where their request came from.

  `Routed` is the invariant: whatever waits in a queue of the core or the broker knows
  the reply target of the request it stems from, and the core's current target is zero.
  Every step keeps it (`routed_step`) but two, and these only under a condition that
  `Proper` excludes: an error that the decoder itself answers while the provider gives
  a target, and an answer to such a request that cannot be encoded.
-/
import Axtp.Equiv.AxtpCore
import Axtp.Equiv.AxtpEndpoint
import Axtp.Equiv.BasicBroker
import Axtp.Equiv.InboundProcessor
import Axtp.Equiv.PayloadCodec

namespace Axtp

open Run PayloadCodec

/-- The reply target of what answers the request received under `origin`; zero for what answers
none. -/
def targetOf (origin : Option Ingress) : UInt64 :=
  match origin with
  | some ingress => ingress.replyTarget.value
  | none => 0

/-- The packet goes where the request it answers came from. -/
def OutboundPacket.Routed (packet : Tagged OutboundPacket) : Prop :=
  packet.value.replyTarget = targetOf packet.origin

instance (packet : Tagged OutboundPacket) : Decidable (OutboundPacket.Routed packet) := by
  unfold OutboundPacket.Routed; infer_instance

/-- A request carries the target of its own ingress. -/
def CoreEvent.Routed (event : Tagged CoreEvent) : Prop :=
  match event.value with
  | .rpcRequest rpc => rpc.meta_.replyTarget = targetOf event.origin
  | _ => True

/-- An answer carries the target of its request, and nothing else has a request. -/
structure BrokerResult.Routed (result : Tagged BrokerResult) : Prop where
  reply : AxtpCore.IsReply result.value →
    result.value.rpc.meta_.replyTarget = targetOf result.origin
  other : ¬ AxtpCore.IsReply result.value → result.origin = none

/-! ### The core -/

namespace AxtpCore

structure Routed (core : AxtpCore) : Prop where
  target : core.outboundReplyTarget = 0
  packets : ∀ packet ∈ core.outboundBytes, OutboundPacket.Routed packet
  events : ∀ event ∈ core.events, CoreEvent.Routed event

variable {lib : JsonLibrary} {core core' : AxtpCore}

/-- What a core writes while its target is zero must have zero for its target. -/
theorem Routed.wrote {origin : Option Ingress} (h : core.Routed) (hwrote : Wrote origin core core')
    (horigin : targetOf origin = 0) : core'.Routed where
  target := hwrote.outboundReplyTarget.trans h.target
  packets packet hmem := by
    rcases hwrote.mem_outboundBytes hmem with hmem | ⟨heq, htarget⟩
    · exact h.packets packet hmem
    · rw [OutboundPacket.Routed, heq, htarget, h.target, horigin]
  events := by
    rw [hwrote.events]
    exact h.events

/-- Handling a broker result, unless it is an answer for a target that cannot be encoded. -/
theorem Routed.handleBrokerResult (h : core.Routed) {result : Tagged BrokerResult}
    (hresult : BrokerResult.Routed result)
    (hencodes : IsReply result.value →
      OutboundProcessor.Encodes lib core.outbound.wireMode result.value.rpc ∨
        result.value.rpc.meta_.replyTarget = 0) :
    (core.handleBrokerResult lib result).1.Routed := by
  have hwrote := wrote_sendBrokerResult lib (core.targeting result.value) result
  have hevents : (core.targeting result.value).events = core.events := by
    unfold targeting; split_ifs <;> rfl
  have hqueue : (core.targeting result.value).outboundBytes = core.outboundBytes := by
    unfold targeting; split_ifs <;> rfl
  -- what is sent goes to the target of the result's request
  have htarget : (core.targeting result.value).outboundReplyTarget = targetOf result.origin := by
    by_cases hreply : IsReply result.value
    · rw [targeting_of_reply hreply]
      exact hresult.reply hreply
    · rw [targeting_of_not_reply hreply, hresult.other hreply]
      exact h.target
  have hpackets :
      ∀ packet ∈ ((core.targeting result.value).sendBrokerResult lib result).1.outboundBytes,
      OutboundPacket.Routed packet := by
    intro packet hmem
    rcases hwrote.mem_outboundBytes hmem with hmem | ⟨heq, hpacket⟩
    · rw [hqueue] at hmem
      exact h.packets packet hmem
    · rw [OutboundPacket.Routed, heq, hpacket, htarget]
  rcases hexit : ((core.targeting result.value).sendBrokerResult lib result).2 with _ | _
  · rw [handleBrokerResult_of_returned hexit]
    exact ⟨h.target, hpackets, by rw [hwrote.events, hevents]; exact h.events⟩
  · rw [handleBrokerResult_of_threw hexit]
    refine ⟨?_, hpackets, by rw [hwrote.events, hevents]; exact h.events⟩
    rw [hwrote.outboundReplyTarget]
    by_cases hreply : IsReply result.value
    · rw [targeting_of_reply hreply]
      rcases hencodes hreply with hencodes | hzero
      · exact absurd hencodes ((sendBrokerResult_exit hreply).mp hexit)
      · exact hzero
    · rw [targeting_of_not_reply hreply]
      exact h.target

/-- The payload is an error that the decoder made and the core sends back. -/
def IsLocalError : Payload → Prop
  | .rpc payload => payload.meta_.localGeneratedResponse = true
  | _ => False

instance : (payload : Payload) → Decidable (IsLocalError payload)
  | .rpc payload => inferInstanceAs (Decidable (payload.meta_.localGeneratedResponse = true))
  | .control _ => inferInstanceAs (Decidable False)
  | .stream _ => inferInstanceAs (Decidable False)

/-- The invariant reads only three fields. -/
theorem Routed.congr (h : core.Routed)
    (htarget : core'.outboundReplyTarget = core.outboundReplyTarget)
    (hpackets : core'.outboundBytes = core.outboundBytes) (hevents : core'.events = core.events) :
    core'.Routed :=
  ⟨htarget.trans h.target, hpackets ▸ h.packets, hevents ▸ h.events⟩

theorem Routed.pushEvent (h : core.Routed) {event : Tagged CoreEvent}
    (hevent : CoreEvent.Routed event) : { core with events := core.events ++ [event] }.Routed where
  target := h.target
  packets := h.packets
  events event' hmem := by
    rcases List.mem_append.mp hmem with hmem | hmem
    · exact h.events event' hmem
    · rw [List.mem_singleton.mp hmem]
      exact hevent

theorem Routed.handleControl (h : core.Routed) (payload : ControlPayload) :
    (core.handleControl lib payload).1.Routed := by
  simp only [AxtpCore.handleControl]
  rcases (core.countActivity.controlSession.handle payload).2 with _ | response
  · exact h.congr rfl rfl rfl
  · have hnoted : ({ core.countActivity with
        controlSession := (core.countActivity.controlSession.handle payload).1
        controlNotices := core.controlNotices ++ [payload] } : AxtpCore).Routed :=
          h.congr rfl rfl rfl
    have hwritten := hnoted.wrote
      (wrote_write _ none (core.outbound.sendControl response)) rfl
    simp only
    split_ifs
    · exact hwritten.wrote (wrote_tryWrite ..) rfl
    · exact hwritten

theorem Routed.handleResponse (h : core.Routed) {ingress : Ingress} {payload : RpcPayload}
    (hlocal : payload.meta_.localGeneratedResponse = true → ingress.replyTarget.value = 0) :
    (core.handleResponse lib ingress payload).1.Routed := by
  unfold AxtpCore.handleResponse
  split_ifs with hgenerated
  · exact h.wrote (wrote_tryWrite ..) (hlocal hgenerated)
  · exact h
  · exact h.congr rfl rfl rfl

theorem Routed.handleRpc (h : core.Routed) {ingress : Ingress} {payload : RpcPayload}
    (hfresh : payload.meta_.replyTarget = 0)
    (hlocal : payload.meta_.localGeneratedResponse = true → ingress.replyTarget.value = 0) :
    (core.handleRpc lib ingress payload).1.Routed := by
  have hcounted : core.countActivity.Routed := h.congr rfl rfl rfl
  simp only [AxtpCore.handleRpc]
  generalize (if payload.meta_.hasRandomSeed then payload.meta_.randomSeed else 0) = randomSeed
  split_ifs
  · have hsession : ({ core.countActivity with
        nextSessionId := core.nextSessionId + 1
        sessionRpcs := core.sessionRpcs ++ [payload] } : AxtpCore).Routed :=
      h.congr rfl rfl rfl
    exact hsession.wrote (wrote_tryWrite ..) rfl
  · exact h.congr rfl rfl rfl
  · refine hcounted.pushEvent ?_
    -- the target is captured here; without a provider it stays the decoded one, zero
    simp only [CoreEvent.Routed, targetOf, captureReplyTarget]
    cases ingress.replyTarget with
    | unset => exact hfresh
    | threw => rfl
    | returned replyTarget => rfl
  · exact hcounted.pushEvent trivial
  · exact hcounted.handleResponse hlocal
  · exact hcounted.handleResponse hlocal
  · exact hcounted

/-- Handling a payload, unless it is a local error and the provider gives a target. -/
theorem Routed.onPayload (h : core.Routed) {ingress : Ingress} {payload : Payload}
    (hfresh : ∀ rpc, payload = .rpc rpc → rpc.meta_.replyTarget = 0)
    (hlocal : IsLocalError payload → ingress.replyTarget.value = 0) :
    (core.onPayload lib ingress payload).1.Routed := by
  cases payload with
  | control payload => exact h.handleControl payload
  | rpc payload => exact h.handleRpc (hfresh payload rfl) hlocal
  | stream payload =>
    have hevent (data : StreamPayload) :
        CoreEvent.Routed { value := .streamData data, origin := none } := trivial
    exact (h.pushEvent (hevent _)).congr rfl rfl rfl

theorem Routed.handleBytes (h : core.Routed) {ingress : ℕ → Ingress} {data : Bytes}
    (hlocal : ∀ n payload, (core.inbound.decoded lib data)[n]? = some payload →
      IsLocalError payload → (ingress n).replyTarget.value = 0) :
    (core.handleBytes lib ingress data).1.Routed := by
  have hstarts := InboundProcessor.onBytes_prefix lib core.inbound (payloadSink lib ingress) data
    (I := fun done (s : AxtpCore × ℕ) => s.2 = done.length ∧ s.1.Routed)
    (fun done payload rest hdecoded s hs => ?_) (⟨rfl, h⟩ : (core, 0).2 = 0 ∧ (core, 0).1.Routed)
  · obtain ⟨done, rest, -, -, hrouted⟩ := hstarts
    exact hrouted.congr rfl rfl rfl
  · obtain ⟨hcount, hrouted⟩ := hs
    have hget : (core.inbound.decoded lib data)[s.2]? = some payload := by
      rw [hdecoded, hcount]
      simp
    refine ⟨by simp [payloadSink, hcount], hrouted.onPayload (fun rpc heq => ?_)
      (hlocal s.2 payload hget)⟩
    subst heq
    exact InboundProcessor.replyTarget_of_mem_decoded lib (List.mem_of_getElem? hget)

end AxtpCore

/-! ### The endpoint -/

namespace AxtpEndpoint

variable {σ : Type*} {lib : JsonLibrary} {endpoint : AxtpEndpoint σ}

/-- The request carries the target of its own ingress. -/
def CarriesTarget (origin : Option Ingress) (rpc : RpcPayload) : Prop :=
  rpc.meta_.replyTarget = targetOf origin

structure Routed (endpoint : AxtpEndpoint σ) : Prop where
  core : endpoint.core.Routed
  broker : BasicBroker.Answering CarriesTarget endpoint.broker

/-- The condition on a step: no error that the decoder answers itself arrives while the provider
gives a target, and no answer to a request with a target is handled that cannot be encoded. -/
def Proper (lib : JsonLibrary) (endpoint : AxtpEndpoint σ) : Action σ → Prop
  | .receive data ingress =>
    ∀ n payload, (endpoint.core.inbound.decoded lib data)[n]? = some payload →
      AxtpCore.IsLocalError payload → (ingress n).replyTarget.value = 0
  | .handleBrokerResult =>
    ∀ result ∈ endpoint.broker.results.head?, AxtpCore.IsReply result.value →
      OutboundProcessor.Encodes lib endpoint.core.outbound.wireMode result.value.rpc ∨
        result.value.rpc.meta_.replyTarget = 0
  | _ => True

/-- Every step of the run meets the condition. -/
def ProperRun (lib : JsonLibrary) : AxtpEndpoint σ → List (Action σ) → Prop
  | _, [] => True
  | endpoint, action :: actions =>
    Proper lib endpoint action ∧ ProperRun lib (endpoint.step lib action).1 actions

theorem routed_result {result : Tagged BrokerResult} (h : Routed endpoint)
    (hmem : result ∈ endpoint.broker.results) : BrokerResult.Routed result := by
  obtain ⟨response, hvalue, request, htarget, hanswers⟩ := h.broker.results result hmem
  have hreply : AxtpCore.IsReply result.value := by
    rw [hvalue, BasicBroker.rpcResult]
    split_ifs
    · exact .inl rfl
    · exact .inr rfl
  refine ⟨fun _ => ?_, fun hnot => absurd hreply hnot⟩
  rw [hvalue, BasicBroker.rpc_rpcResult, hanswers.replyTarget]
  exact htarget

theorem Routed.drainCoreEvents (h : Routed endpoint) : Routed endpoint.drainCoreEvents := by
  refine ⟨⟨h.core.target, h.core.packets, by simp [AxtpEndpoint.drainCoreEvents]⟩, ?_⟩
  -- one event after the other is submitted
  have hevents (events : List (Tagged CoreEvent)) (broker : BasicBroker σ)
      (hbroker : BasicBroker.Answering CarriesTarget broker)
      (hrouted : ∀ event ∈ events, CoreEvent.Routed event) :
      BasicBroker.Answering CarriesTarget (events.foldl (fun broker event =>
        broker.submit { value := .fromCoreEvent event.value, origin := event.origin }) broker) := by
    induction events generalizing broker with
    | nil => exact hbroker
    | cons event events ih =>
      refine ih _ (hbroker.submit fun context rpc htask => ?_)
        fun e he => hrouted e (List.mem_cons_of_mem _ he)
      have hevent := hrouted event (List.mem_cons_self ..)
      rcases hvalue : event.value with rpc' | rpc' | stream <;>
        simp only [hvalue, BrokerTask.fromCoreEvent, BrokerTask.rpcRequest.injEq,
          reduceCtorEq] at htask
      rw [CoreEvent.Routed, hvalue] at hevent
      rw [← htask.2]
      exact hevent
  exact hevents _ _ h.broker h.core.events

/-- The packets that leave were in the queue. -/
theorem Routed.flushOutbound (h : Routed endpoint) :
    Routed endpoint.flushOutbound.1 ∧
      ∀ packet, .packet packet ∈ endpoint.flushOutbound.2 → OutboundPacket.Routed packet := by
  unfold AxtpEndpoint.flushOutbound
  split_ifs
  · refine ⟨⟨⟨h.core.target, by simp, h.core.events⟩, h.broker⟩, fun packet hmem => ?_⟩
    simp only [List.mem_map, Effect.packet.injEq, exists_eq_right] at hmem
    exact h.core.packets packet hmem
  · exact ⟨h, by simp⟩

theorem Routed.afterSend (h : Routed endpoint) {sent : AxtpCore × Exit} (hsent : sent.1.Routed) :
    Routed (endpoint.afterSend sent).1 ∧
      ∀ packet, .packet packet ∈ (endpoint.afterSend sent).2.1 → OutboundPacket.Routed packet := by
  obtain ⟨core, _ | _⟩ := sent
  · have hrouted : Routed { endpoint with core } := ⟨hsent, h.broker⟩
    exact hrouted.flushOutbound
  · exact ⟨⟨hsent, h.broker⟩, by simp [AxtpEndpoint.afterSend]⟩

theorem Routed.sendRpcRequest (h : Routed endpoint) (payload : RpcPayload) :
    Routed (endpoint.sendRpcRequest lib payload).1 ∧
      ∀ packet, .packet packet ∈ (endpoint.sendRpcRequest lib payload).2.1 →
        OutboundPacket.Routed packet := by
  rcases haccepted : (endpoint.core.pendingCalls.expect payload.requestId).2 with _ | _
  · rw [sendRpcRequest_of_refused haccepted]
    exact ⟨h, by simp⟩
  · obtain ⟨hendpoint, heffects⟩ := sendRpcRequest_of_accepted lib haccepted
    have hexpecting : Routed (endpoint.expecting payload.requestId) :=
      ⟨h.core.congr rfl rfl rfl, h.broker⟩
    obtain ⟨hrouted, hpackets⟩ := hexpecting.afterSend (hexpecting.core.wrote
      (AxtpCore.wrote_tryWrite _ none
        ((endpoint.expecting payload.requestId).core.outbound.sendRpcRequest
        lib payload)) rfl)
    rw [hendpoint]
    refine ⟨hrouted, fun packet hmem => hpackets packet ?_⟩
    rcases heffects with heffects | heffects <;> rw [heffects] at hmem
    · exact hmem
    · rcases List.mem_cons.mp hmem with hmem | hmem
      · cases hmem
      · exact hmem

/-- **A step keeps the routing**, and hands on only packets that go where they belong. -/
theorem Routed.step (h : Routed endpoint) {action : Action σ}
    (hproper : Proper lib endpoint action) :
    Routed (endpoint.step lib action).1 ∧
      ∀ packet, .packet packet ∈ (endpoint.step lib action).2 → OutboundPacket.Routed packet := by
  -- a change of the other fields of the core
  have hsame (core : AxtpCore)
      (htarget : core.outboundReplyTarget = endpoint.core.outboundReplyTarget)
      (hpackets : core.outboundBytes = endpoint.core.outboundBytes)
      (hevents : core.events = endpoint.core.events) : Routed { endpoint with core } :=
    ⟨h.core.congr htarget hpackets hevents, h.broker⟩
  cases action with
  | attachTransport profile =>
    exact ⟨⟨h.core.congr rfl rfl rfl, h.broker⟩, by simp [AxtpEndpoint.step]⟩
  | detachTransport => exact ⟨⟨h.core.congr rfl rfl rfl, h.broker⟩, by simp [AxtpEndpoint.step]⟩
  | receive data ingress =>
    exact ⟨⟨h.core.handleBytes hproper, h.broker⟩, by simp [AxtpEndpoint.step]⟩
  | drainCoreEvents => exact ⟨h.drainCoreEvents, by simp [AxtpEndpoint.step]⟩
  | pollBroker maxTasks =>
    exact ⟨⟨h.core, h.broker.poll endpoint.world maxTasks⟩, by simp [AxtpEndpoint.step]⟩
  | handleBrokerResult =>
    refine ⟨?_, by simp [AxtpEndpoint.step]⟩
    simp only [AxtpEndpoint.step, AxtpEndpoint.handleBrokerResult]
    rcases hresults : endpoint.broker.results with _ | ⟨result, results⟩
    · exact h
    · have hmem : result ∈ endpoint.broker.results := hresults ▸ List.mem_cons_self ..
      refine ⟨h.core.handleBrokerResult (routed_result h hmem) (hproper result ?_), ?_⟩
      · rw [hresults]
        rfl
      · exact ⟨h.broker.tasks, h.broker.completions,
          fun r hr => h.broker.results r (hresults ▸ List.mem_cons_of_mem _ hr)⟩
  | flushOutbound => exact h.flushOutbound
  | sendRpcRequest payload => exact h.sendRpcRequest payload
  | sendControlOpen controlId =>
    refine h.afterSend ?_
    have hopened : ({ endpoint.core with
        controlSession :=
          (endpoint.core.controlSession.makeOpen controlId).1 } : AxtpCore).Routed :=
      h.core.congr rfl rfl rfl
    exact hopened.wrote (AxtpCore.wrote_write ..) rfl
  | sendControlHeartbeat controlId =>
    exact h.afterSend (h.core.wrote (AxtpCore.wrote_write ..) rfl)
  | sendRpcSession payload =>
    exact h.afterSend (h.core.wrote (AxtpCore.wrote_tryWrite ..) rfl)
  | sendStream payload =>
    have hother : ¬ AxtpCore.IsReply { type := .streamData, stream := payload } := by
      simp [AxtpCore.IsReply]
    exact h.afterSend (h.core.handleBrokerResult
      ⟨fun hreply => absurd hreply hother, fun _ => rfl⟩ fun hreply => absurd hreply hother)
  | abandonRpcResponse requestId => exact ⟨hsame _ rfl rfl rfl, by simp [AxtpEndpoint.step]⟩
  | tryTakeRpcResponse requestId => exact ⟨hsame _ rfl rfl rfl, by simp [AxtpEndpoint.step]⟩
  | tryTakeAnyRpcResponse => exact ⟨hsame _ rfl rfl rfl, by simp [AxtpEndpoint.step]⟩
  | tryTakeSessionRpc op => exact ⟨hsame _ rfl rfl rfl, by simp [AxtpEndpoint.step]⟩
  | tryTakeControlNotice opcode controlId =>
    exact ⟨hsame _ rfl rfl rfl, by simp [AxtpEndpoint.step]⟩
  | environment world => exact ⟨⟨h.core, h.broker⟩, by simp [AxtpEndpoint.step]⟩

theorem Routed.run (h : Routed endpoint) {actions : List (Action σ)}
    (hproper : ProperRun lib endpoint actions) :
    Routed (run (AxtpEndpoint.step lib) endpoint actions).1 ∧
      ∀ packet, .packet packet ∈ (run (AxtpEndpoint.step lib) endpoint actions).2 →
        OutboundPacket.Routed packet := by
  induction actions generalizing endpoint with
  | nil => exact ⟨h, by simp⟩
  | cons action actions ih =>
    obtain ⟨hfirst, hrest⟩ := hproper
    obtain ⟨hrouted, hpackets⟩ := h.step hfirst
    obtain ⟨hend, hpackets'⟩ := ih hrouted hrest
    refine ⟨hend, fun packet hmem => ?_⟩
    rw [run_cons] at hmem
    rcases List.mem_append.mp hmem with hmem | hmem
    · exact hpackets packet hmem
    · exact hpackets' packet hmem

/-- An endpoint as it is constructed and set up: nothing received, nothing queued. -/
def start (jsonRpcDecoder : JsonRpcDecoder) (router : BusinessRouter σ)
    (eventHandler : Option (EventHandler σ)) (streamHandler : Option (StreamHandler σ))
    (world : σ) :
    AxtpEndpoint σ :=
  { core := { inbound := { jsonRpcDecoder } }
    broker := { router, eventHandler, streamHandler }
    world }

theorem routed_start (jsonRpcDecoder : JsonRpcDecoder) (router : BusinessRouter σ)
    (eventHandler : Option (EventHandler σ)) (streamHandler : Option (StreamHandler σ))
    (world : σ) :
    Routed (start jsonRpcDecoder router eventHandler streamHandler world) :=
  ⟨⟨rfl, by simp [start], by simp [start]⟩, ⟨by simp [start], by simp [start], by simp [start]⟩⟩

/-- **Reply routing.** In every run from a new endpoint whose steps meet the condition, every packet
handed to the transport goes where the request it answers came from, and to zero if it answers
none; so do the packets that are still queued. -/
theorem packets_routed (lib : JsonLibrary) (jsonRpcDecoder : JsonRpcDecoder)
    (router : BusinessRouter σ) (eventHandler : Option (EventHandler σ))
    (streamHandler : Option (StreamHandler σ)) (world : σ) (actions : List (Action σ))
    (hproper : ProperRun lib (start jsonRpcDecoder router eventHandler streamHandler world)
      actions) :
    let result := Run.run (AxtpEndpoint.step lib)
      (start jsonRpcDecoder router eventHandler streamHandler world) actions
    (∀ packet, .packet packet ∈ result.2 → OutboundPacket.Routed packet) ∧
      ∀ packet ∈ result.1.core.outboundBytes, OutboundPacket.Routed packet :=
  have h := (routed_start jsonRpcDecoder router eventHandler streamHandler world).run hproper
  ⟨h.2, h.1.core.packets⟩

/-- The bytes of a request in the fixed envelope. -/
def fixedRequest : Bytes :=
  ((({} : OutboundProcessor).sendRpc noJson { requestId := 5, methodOrEventId := 0x0101 }).map
    fun sent => sent.2.flatten).getD []

def answeredIngress : ℕ → Ingress := fun _ => { replyTarget := .returned 7 }

/-- A request that arrives while the provider gives 7, and its answer. -/
def answeredRun : List (Action Unit) :=
  [.attachTransport {}, .receive fixedRequest answeredIngress,
    .drainCoreEvents, .pollBroker 8, .handleBrokerResult, .flushOutbound]

/-- The endpoint when the answer is ready. -/
def answeredPolled : AxtpEndpoint Unit :=
  (step noJson (step noJson (step noJson (step noJson
    (start {} {} none none ()) (.attachTransport {})).1 (.receive fixedRequest answeredIngress)).1
    .drainCoreEvents).1 (.pollBroker 8)).1

/-- The endpoint when the request is queued. -/
def answeredQueued : AxtpEndpoint Unit :=
  (step noJson (step noJson (step noJson
    (start {} {} none none ()) (.attachTransport {})).1 (.receive fixedRequest answeredIngress)).1
    .drainCoreEvents).1

/-- The answer is one to a request in the fixed envelope, whatever its status is. -/
theorem answering_answeredPolled : answeredPolled.broker.Answering fun _ request =>
    request.meta_.sourceProtocol = .axtpV1 ∧ request.meta_.endpoint = {} := by
  have htasks : answeredQueued.broker.tasks =
      [{ value := .fromCoreEvent (.rpcRequest
           { requestId := 5, methodOrEventId := 0x0101
             meta_ := { requestId := 5, replyTarget := 7 } })
         origin := some { replyTarget := .returned 7 } }] := by decide +kernel
  have hcompletions : answeredQueued.broker.pendingCompletions.length = 0 := by decide +kernel
  have hresults : answeredQueued.broker.results.length = 0 := by decide +kernel
  have hqueued : answeredQueued.broker.Answering fun _ request =>
      request.meta_.sourceProtocol = .axtpV1 ∧ request.meta_.endpoint = {} := by
    refine ⟨fun task hmem context rpc hvalue => ?_, fun c hmem => ?_, fun result hmem => ?_⟩
    · rw [htasks, List.mem_singleton] at hmem
      rw [hmem] at hvalue
      cases hvalue
      exact ⟨rfl, rfl⟩
    · rw [List.length_eq_zero_iff.mp hcompletions] at hmem
      cases hmem
    · rw [List.length_eq_zero_iff.mp hresults] at hmem
      cases hmem
  have hbroker (endpoint : AxtpEndpoint Unit) :
      (step noJson endpoint (.pollBroker 8)).1.broker =
        (endpoint.broker.poll endpoint.world 8).1 := rfl
  unfold answeredPolled
  unfold answeredQueued at hqueued
  rw [hbroker]
  exact hqueued.poll _ 8

theorem packets_routed_answeredRun :
    let result := Run.run (AxtpEndpoint.step noJson) (start {} {} none none ()) answeredRun
    (∀ packet, .packet packet ∈ result.2 → OutboundPacket.Routed packet) ∧
      ∀ packet ∈ result.1.core.outboundBytes, OutboundPacket.Routed packet := by
  have hdecoded : ∀ payload ∈ (step noJson (start {} {} none none ())
      (.attachTransport {})).1.core.inbound.decoded noJson fixedRequest,
      ¬ AxtpCore.IsLocalError payload := by decide +kernel
  have hmode : answeredPolled.core.outbound.wireMode = .framedBinary := by decide +kernel
  have hresults : ∀ result ∈ answeredPolled.broker.results.head?,
      ¬ PayloadEncoder.Refused result.value.rpc ∧ ¬ PayloadEncoder.TakesJson result.value.rpc := by
    intro result hmem
    obtain ⟨response, hvalue, request, ⟨hsource, hendpoint⟩, hanswers⟩ :=
      answering_answeredPolled.results result (List.mem_of_mem_head? hmem)
    have hempty : ¬ hasEndpointMetadata (responseEndpointMetadata {}) = true := by decide
    have hsource' : response.meta_.sourceProtocol = .axtpV1 := by
      rw [hanswers.meta_]
      exact hsource
    have hendpoint' : response.meta_.endpoint = responseEndpointMetadata {} := by
      rw [hanswers.meta_, ← hendpoint]
    rw [hvalue, BasicBroker.rpc_rpcResult]
    refine ⟨fun hrefused => hempty (hendpoint' ▸ hrefused.2), fun hjson => ?_⟩
    exact absurd (hsource'.symm.trans hjson.1) (by decide)
  have hproper : Proper noJson answeredPolled .handleBrokerResult := by
    intro result hmem _
    left
    have hresult := hresults result hmem
    generalize answeredPolled.core.outbound.wireMode = wireMode at hmode ⊢
    exact OutboundProcessor.encodes_fixed hmode hresult
  exact packets_routed noJson {} {} none none () answeredRun
    ⟨trivial,
      fun n payload hget hlocal => absurd hlocal (hdecoded payload (List.mem_of_getElem? hget)),
      trivial, trivial, hproper, trivial, trivial⟩

/-- The text of a request for a method that nobody knows. -/
def unknownText : Bytes :=
  ascii "\x7b\"d\":\x7b\"id\":1,\"method\":\"no.such\"\x7d,\"op\":7,\"sid\":\"S\"\x7d"

/-- The text of the error that answers it. -/
def unknownReply : Bytes :=
  ascii ("\x7b\"d\":\x7b\"id\":1,\"status\":\x7b\"code\":54,\"msg\":\"RPC_METHOD_NOT_FOUND\",\"ok\":false\x7d\x7d," ++
    "\"op\":8,\"sid\":\"S\"\x7d")

/-- The library on these two texts. -/
def unknownJson : JsonLibrary where
  parse text :=
    if text = unknownText then
      some (JsonRpcEncoder.envelope (ascii "S") RpcOp.request
        ((Json.emptyObject.set "id" (.unsigned 1)).set "method" (.string (ascii "no.such"))))
    else none
  dump _ := some unknownReply

/-- A request for an unknown method arrives while the provider gives 7; the error goes to zero. -/
theorem unknown_not_routed :
    ∃ packet, .packet packet ∈ (Run.run (AxtpEndpoint.step unknownJson)
        (start {} {} none none ())
        [.attachTransport { wireMode := .webSocketJsonRpc },
          .receive unknownText fun _ => { replyTarget := .returned 7 }, .flushOutbound]).2 ∧
      ¬ OutboundPacket.Routed packet :=
  ⟨{ value := { bytes := unknownReply, replyTarget := 0 }
     origin := some { replyTarget := .returned 7 } }, by decide +kernel, by decide⟩

end AxtpEndpoint

end Axtp
