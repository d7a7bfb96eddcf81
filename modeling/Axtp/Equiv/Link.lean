/-
  Every response over a link replies to a call.

  `Carrying` is the invariant: whatever is on its way to the server, waits in a queue
  of the server, is on its way back or is kept for the client to take, is a request
  that the client has written, as the wire carries it, or a reply that the server's
  router can give to one. Every step keeps it (`Carrying.step`) while what is written
  fits in frames, however the bytes are cut and whenever they arrive. The pending calls
  of the client meanwhile go through calls of their own table (`Tracked`), so that what
  holds of every run of the table holds on a link.
-/
import Axtp.Equiv.AxtpEndpoint
import Axtp.Equiv.Channel
import Axtp.Equiv.PendingCallTable
import Axtp.Equiv.Serving
import Axtp.Lib.Along
import Axtp.Spec.Link

namespace Axtp

open Run InboundProcessor Transfer PayloadCodec

/-! ### What an endpoint writes -/

namespace AxtpCore

variable {lib : JsonLibrary} {core : AxtpCore}

/-- The packets that a core queues for what it writes. -/
def packetsOf (origin : Option Ingress) (replyTarget : UInt64) (pieces : List Bytes) :
    List (Tagged OutboundPacket) :=
  pieces.map fun bytes => { value := { bytes, replyTarget }, origin }

/-- The bytes that wait for the transport. -/
def waiting (core : AxtpCore) : Bytes :=
  (core.outboundBytes.map fun packet => packet.value.bytes).flatten

theorem waiting_packetsOf (packets : List (Tagged OutboundPacket)) (origin : Option Ingress)
    (replyTarget : UInt64) (pieces : List Bytes) :
    ((packets ++ packetsOf origin replyTarget pieces).map
        fun packet => packet.value.bytes).flatten =
      (packets.map fun packet => packet.value.bytes).flatten ++ pieces.flatten := by
  rw [List.map_append, List.flatten_append, packetsOf, List.map_map]
  show _ ++ (pieces.map id).flatten = _
  rw [List.map_id]

/-- An answer that can be sent is written for the target of its request. -/
theorem handleBrokerResult_of_sends {result : Tagged BrokerResult} (hreply : IsReply result.value)
    {sent : OutboundProcessor × List Bytes}
    (hsend : core.outbound.sendRpc lib result.value.rpc = some sent) :
    core.handleBrokerResult lib result =
      ({ core with
          outbound := sent.1
          outboundBytes := core.outboundBytes ++
            packetsOf result.origin result.value.rpc.meta_.replyTarget sent.2 }, .returned) := by
  obtain ⟨value, origin⟩ := result
  obtain ⟨type, rpc, stream⟩ := value
  simp only at hreply hsend ⊢
  rcases hreply with htype | htype <;> simp only at htype <;> subst htype
  · simp only [handleBrokerResult, sendBrokerResult, OutboundProcessor.sendRpcResponse, true_or,
      if_true, hsend, tryWrite]
    rfl
  · simp only [handleBrokerResult, sendBrokerResult, OutboundProcessor.sendRpcError, or_true,
      if_true, hsend, tryWrite]
    rfl

end AxtpCore

namespace AxtpEndpoint

variable {σ : Type*} {lib : JsonLibrary} {endpoint : AxtpEndpoint σ}

/-- Nothing waits for the transport, which is there. -/
structure Flushed (endpoint : AxtpEndpoint σ) : Prop where
  attached : endpoint.attached = true
  outboundBytes : endpoint.core.outboundBytes = []

/-- The effects of what a flushed endpoint writes. -/
def packetEffects (endpoint : AxtpEndpoint σ) (pieces : List Bytes) : List Effect :=
  (AxtpCore.packetsOf none endpoint.core.outboundReplyTarget pieces).map .packet

theorem step_sendRpcRequest (h : endpoint.Flushed) {request : RpcPayload}
    (hexpect : (endpoint.core.pendingCalls.expect request.requestId).2 = true)
    {sent : OutboundProcessor × List Bytes}
    (hsend : endpoint.core.outbound.sendRpc lib request = some sent) :
    endpoint.step lib (.sendRpcRequest request) =
      ({ endpoint with
          core := { endpoint.core with
            outbound := sent.1
            pendingCalls := (endpoint.core.pendingCalls.expect request.requestId).1 } },
        .request request :: endpoint.packetEffects sent.2) := by
  obtain ⟨hattached, hqueue⟩ := h
  rw [step, sendRpcRequest_eq hexpect]
  simp only [expecting, AxtpCore.sendRpcRequest, OutboundProcessor.sendRpcRequest, hsend,
    AxtpCore.tryWrite, AxtpCore.write, AxtpCore.enqueueOutboundBytes, afterSend, flushOutbound,
    hattached, hqueue, if_true, List.nil_append]
  rfl

theorem step_sendStream (h : endpoint.Flushed) (payload : StreamPayload) :
    endpoint.step lib (.sendStream payload) =
      ({ endpoint with
          core :=
            { endpoint.core with outbound := (endpoint.core.outbound.sendStream payload).1 } },
        endpoint.packetEffects (endpoint.core.outbound.sendStream payload).2) := by
  obtain ⟨hattached, hqueue⟩ := h
  simp only [step, sendStream, AxtpCore.handleBrokerResult, AxtpCore.sendBrokerResult,
    reduceCtorEq, or_self, if_false, AxtpCore.write, AxtpCore.enqueueOutboundBytes, afterSend,
    flushOutbound, hattached, hqueue, if_true, List.nil_append]
  rfl

/-- The task that an event is submitted as. -/
def taskOf (event : Tagged CoreEvent) : Tagged BrokerTask :=
  { value := .fromCoreEvent event.value, origin := event.origin }

theorem drainCoreEvents_eq (endpoint : AxtpEndpoint σ) :
    endpoint.drainCoreEvents =
      { endpoint with
        broker := { endpoint.broker with
          tasks := endpoint.broker.tasks ++ endpoint.core.events.map taskOf }
        core := { endpoint.core with events := [] } } := by
  have hsubmit (queue : List (Tagged CoreEvent)) (broker : BasicBroker σ) :
      queue.foldl (fun broker event => broker.submit (taskOf event)) broker =
        { broker with tasks := broker.tasks ++ queue.map taskOf } := by
    induction queue generalizing broker with
    | nil => rw [List.map_nil, List.append_nil, List.foldl_nil]
    | cons event queue ih =>
      rw [List.foldl_cons, ih, List.map_cons, BasicBroker.submit, List.append_assoc,
        List.singleton_append]
  show { endpoint with
    broker := endpoint.core.events.foldl (fun broker event => broker.submit (taskOf event))
      endpoint.broker
    core := { endpoint.core with events := [] } } = _
  rw [hsubmit]

theorem bytesOf_packets (packets : List (Tagged OutboundPacket)) :
    Link.bytesOf (packets.map .packet) =
      (packets.map fun packet => packet.value.bytes).flatten := by
  induction packets with
  | nil => rfl
  | cons packet packets ih =>
    rw [List.map_cons, List.map_cons, List.flatten_cons, ← ih]
    rfl

theorem bytesOf_packetEffects (endpoint : AxtpEndpoint σ) (pieces : List Bytes) :
    Link.bytesOf (endpoint.packetEffects pieces) = pieces.flatten := by
  rw [packetEffects, bytesOf_packets]
  exact AxtpCore.waiting_packetsOf [] none _ pieces

theorem requestsOf_packets (packets : List (Tagged OutboundPacket)) :
    Link.requestsOf (packets.map .packet) = [] := by
  induction packets with
  | nil => rfl
  | cons packet packets ih => exact ih

end AxtpEndpoint

namespace Link

open BasicBroker BusinessRouter

variable {σ τ : Type*} {lib : JsonLibrary}

/-! ### Requests and replies -/

def calledIn (events : List Event) : List RpcPayload :=
  events.filterMap fun
    | .called request => some request
    | _ => none

def tookIn (events : List Event) : List RpcPayload :=
  events.filterMap fun
    | .took response => some response
    | _ => none

def streamOfEvent : CoreEvent → Option StreamPayload
  | .streamData stream => some stream
  | _ => none

def streamOfPayload : Payload → Option StreamPayload
  | .stream payload => some payload
  | _ => none

/-- The id of the request. -/
def idOfEvent : CoreEvent → Option UInt32
  | .rpcRequest rpc => some rpc.requestId
  | _ => none

def idOfPayload : Payload → Option UInt32
  | .rpc payload => some payload.requestId
  | _ => none

/-- What the fixed envelope keeps of a payload. -/
def onWire (payload : RpcPayload) : RpcPayload :=
  { encoding := payload.encoding, op := payload.op, requestId := payload.requestId
    methodOrEventId := payload.methodOrEventId, statusCode := payload.statusCode
    bodyEncoding := payload.bodyEncoding, meta_ := { requestId := payload.requestId }
    body := payload.body }

/-- The request as the core of the server hands it on. -/
def asReceived (request : RpcPayload) (ingress : Ingress) : RpcPayload :=
  { onWire request with meta_ := AxtpCore.captureReplyTarget (onWire request).meta_ ingress }

/-- The client has called it, and it takes the fixed envelope. -/
def IsRequest (request : RpcPayload) : Prop :=
  request.op = RpcOp.request ∧ request.methodOrEventId ≤ 0xFFFF

/-- The server has one of the requests. -/
def IsCarried (called : List RpcPayload) (received : RpcPayload) : Prop :=
  ∃ request ∈ called, IsRequest request ∧ ∃ ingress, received = asReceived request ingress

/-- A reply that the router can give to one of the requests, as the wire carries it. -/
def IsAnswer (router : BusinessRouter σ) (called : List RpcPayload)
    (response : RpcPayload) : Prop :=
  ∃ reply, IsReplyTo (IsCarried called) router reply ∧ response = onWire reply

theorem IsCarried.append {called : List RpcPayload} {rpc : RpcPayload} (h : IsCarried called rpc)
    (more : List RpcPayload) : IsCarried (called ++ more) rpc := by
  obtain ⟨request, hmem, hcarries⟩ := h
  exact ⟨request, List.mem_append_left _ hmem, hcarries⟩

theorem IsAnswer.append {router : BusinessRouter σ} {called : List RpcPayload} {rpc : RpcPayload}
    (h : IsAnswer router called rpc) (more : List RpcPayload) :
    IsAnswer router (called ++ more) rpc := by
  obtain ⟨reply, hreply, hrpc⟩ := h
  exact ⟨reply, hreply.mono fun rpc hcarried => hcarried.append more, hrpc⟩

theorem IsAnswer.op {router : BusinessRouter σ} {called : List RpcPayload} {rpc : RpcPayload}
    (h : IsAnswer router called rpc) : rpc.op = RpcOp.requestResponse := by
  obtain ⟨reply, ⟨request, -, hreplies⟩, rfl⟩ := h
  exact hreplies.answers.op

/-- The metadata that a request is received with name no endpoint and no JSON source. -/
theorem asReceived_meta (request : RpcPayload) (ingress : Ingress) :
    (asReceived request ingress).meta_.sourceProtocol = .axtpV1 ∧
      (asReceived request ingress).meta_.endpoint = {} := by
  unfold asReceived AxtpCore.captureReplyTarget
  cases ingress.replyTarget <;> exact ⟨rfl, rfl⟩

/-- A reply to a carried request takes the fixed envelope. -/
theorem sendable_of_reply {called : List RpcPayload} {router : BusinessRouter σ}
    {response : RpcPayload} (hreply : IsReplyTo (IsCarried called) router response)
    {maxFrameSize : ℕ} (hfits : FitsFrames maxFrameSize (PayloadEncoder.fixedEnvelope response)) :
    Sendable maxFrameSize (.rpc response) := by
  obtain ⟨received, ⟨request, -, hrequest, ingress, rfl⟩, hreplies⟩ := hreply
  obtain ⟨hprotocol, hendpoint⟩ := asReceived_meta request ingress
  have hanswers := hreplies.answers
  refine ⟨?_, ?_, ?_, ?_, hfits⟩
  · rw [hanswers.op]
    decide
  · rw [hanswers.methodOrEventId]
    exact hrequest.2
  · rw [hanswers.meta_]
    show ¬ hasEndpointMetadata
      (responseEndpointMetadata (asReceived request ingress).meta_.endpoint) = true
    rw [hendpoint]
    decide
  · rintro ⟨hjson, -⟩
    rw [hanswers.meta_] at hjson
    exact absurd (hprotocol.symm.trans hjson) (by decide)

/-! ### The invariant -/

/-- The payload comes from a client that made these calls. -/
def FromClient (called : List RpcPayload) : Payload → Prop
  | .rpc payload => ∃ request ∈ called, IsRequest request ∧ payload = onWire request
  | .stream _ => True
  | .control _ => False

/-- The payload comes from a server that was sent these calls. -/
def FromServer (router : BusinessRouter σ) (called : List RpcPayload) : Payload → Prop
  | .rpc payload => IsAnswer router called payload
  | _ => False

/-- The requests among the events of a core were called. -/
def EventsCarried (called : List RpcPayload) (core : AxtpCore) : Prop :=
  ∀ event ∈ core.events, ∀ rpc, event.value = .rpcRequest rpc → IsCarried called rpc

/-- What is kept for the client to take answers its calls. -/
def Resolved (router : BusinessRouter σ) (called : List RpcPayload) (table : PendingCallTable) :
    Prop :=
  ∀ requestId response, table.resolved requestId = some response →
    response.requestId = requestId ∧ IsAnswer router called response

/-- Sends frames, with room for a payload in each. -/
structure Framed (o : OutboundProcessor) : Prop where
  mode : o.wireMode = .framedBinary
  min : 15 ≤ o.messageFragmenter.maxFrameSize
  max : o.messageFragmenter.maxFrameSize ≤ 65549

/-- The bytes hold payloads of one kind only. -/
def CarriesOnly (lib : JsonLibrary) (P : Payload → Prop) (inbound : InboundProcessor)
    (bytes : Bytes) : Prop :=
  ∃ payloads, Holds lib inbound bytes payloads ∧ ∀ payload ∈ payloads, P payload

structure Carrying (lib : JsonLibrary) (router : BusinessRouter σ) (called : List RpcPayload)
    (link : Link σ τ) : Prop where
  client : Framed link.client.core.outbound
  flushed : link.client.Flushed
  server : Framed link.server.core.outbound
  toServer : CarriesOnly lib (FromClient called) link.server.core.inbound link.toServer
  events : EventsCarried called link.server.core
  broker : Serving (IsCarried called) router link.server.broker
  toClient : CarriesOnly lib (FromServer router called) link.client.core.inbound
    (link.toClient ++ link.server.core.waiting)
  resolved : Resolved router called link.client.core.pendingCalls

section

variable {called : List RpcPayload} {P Q : Payload → Prop} {router : BusinessRouter σ}
  {inbound : InboundProcessor} {bytes : Bytes}

theorem FromClient.append {payload : Payload} (h : FromClient called payload)
    (more : List RpcPayload) : FromClient (called ++ more) payload := by
  cases payload with
  | rpc payload =>
    obtain ⟨request, hmem, hrequest⟩ := h
    exact ⟨request, List.mem_append_left _ hmem, hrequest⟩
  | stream payload => trivial
  | control payload => exact h

theorem FromServer.append {payload : Payload} (h : FromServer router called payload)
    (more : List RpcPayload) : FromServer router (called ++ more) payload := by
  cases payload with
  | rpc payload => exact IsAnswer.append h more
  | stream payload => exact h
  | control payload => exact h

theorem CarriesOnly.mono (h : CarriesOnly lib P inbound bytes)
    (himp : ∀ payload, P payload → Q payload) : CarriesOnly lib Q inbound bytes := by
  obtain ⟨payloads, hholds, hP⟩ := h
  exact ⟨payloads, hholds, fun payload hmem => himp payload (hP payload hmem)⟩

/-- A payload that is sent is one more on its way. -/
theorem CarriesOnly.send (h : CarriesOnly lib P inbound bytes) {o : OutboundProcessor}
    (hframed : Framed o) {payload : Payload}
    (hpayload : Sendable o.messageFragmenter.maxFrameSize payload)
    (hP : P (payloadOnWire payload)) :
    ∃ o' pieces, o.send lib payload = some (o', pieces) ∧ Framed o' ∧
      CarriesOnly lib P inbound (bytes ++ pieces.flatten) := by
  obtain ⟨payloads, hholds, hall⟩ := h
  obtain ⟨pieces, hsend, hholds'⟩ := hholds.send hframed.mode hframed.min hframed.max hpayload
  refine ⟨_, pieces, hsend, ⟨hframed.mode, hframed.min, hframed.max⟩, _, hholds', ?_⟩
  intro payload' hmem
  rcases List.mem_append.mp hmem with hmem | hmem
  · exact hall payload' hmem
  · rw [List.mem_singleton.mp hmem]
    exact hP

/-- More calls do no harm. -/
theorem Carrying.append {link : Link σ τ} (h : Carrying lib router called link)
    (more : List RpcPayload) : Carrying lib router (called ++ more) link where
  client := h.client
  flushed := h.flushed
  server := h.server
  toServer := h.toServer.mono fun _ hpayload => hpayload.append more
  events event hmem rpc hvalue := (h.events event hmem rpc hvalue).append more
  broker := h.broker.mono fun _ hrpc => hrpc.append more
  toClient := h.toClient.mono fun _ hpayload => hpayload.append more
  resolved requestId response hresponse :=
    ⟨(h.resolved requestId response hresponse).1,
      (h.resolved requestId response hresponse).2.append more⟩

end

/-! ### What the endpoints receive -/

theorem handleRpc_of_request {core : AxtpCore} {ingress : Ingress} {payload : RpcPayload}
    (h : payload.op = RpcOp.request) :
    core.handleRpc lib ingress payload =
      ({ core.countActivity with
          events := core.events ++
            [{ value := .rpcRequest
                { payload with meta_ := AxtpCore.captureReplyTarget payload.meta_ ingress }
               origin := some ingress }] }, .returned) := by
  have hidentify : ¬ (payload.op = RpcOp.identify ∨ payload.op = RpcOp.reidentify) := by
    rw [h]; decide
  have hhello : ¬ (payload.op = RpcOp.hello ∨ payload.op = RpcOp.identified) := by
    rw [h]; decide
  simp only [AxtpCore.handleRpc, if_neg hidentify, if_neg hhello, if_pos h]
  rfl

theorem handleRpc_of_response {core : AxtpCore} {ingress : Ingress} {payload : RpcPayload}
    (h : payload.op = RpcOp.requestResponse) :
    core.handleRpc lib ingress payload = core.countActivity.handleResponse lib ingress payload := by
  have hidentify : ¬ (payload.op = RpcOp.identify ∨ payload.op = RpcOp.reidentify) := by
    rw [h]; decide
  have hhello : ¬ (payload.op = RpcOp.hello ∨ payload.op = RpcOp.identified) := by
    rw [h]; decide
  have hrequest : ¬ payload.op = RpcOp.request := by rw [h]; decide
  have hevent : ¬ payload.op = RpcOp.event := by rw [h]; decide
  simp only [AxtpCore.handleRpc, if_neg hidentify, if_neg hhello, if_neg hrequest, if_neg hevent,
    if_pos h]

section

variable {called : List RpcPayload} {router : BusinessRouter σ} {core : AxtpCore}

/-- The event that a core makes of a payload from the client. -/
structure EventOf (called : List RpcPayload) (payload : Payload) (event : Tagged CoreEvent) :
    Prop where
  carried : ∀ rpc, event.value = .rpcRequest rpc → IsCarried called rpc
  stream : (streamOfEvent event.value).map streamOnWire =
    (streamOfPayload payload).map streamOnWire
  requestId : idOfEvent event.value = idOfPayload payload

variable (lib) in
/-- A payload from the client becomes an event of the server's core. -/
theorem onPayload_fromClient {payload : Payload} (hpayload : FromClient called payload)
    (core : AxtpCore) (ingress : Ingress) :
    ∃ event : Tagged CoreEvent, ∃ lastStream,
      core.onPayload lib ingress payload =
        ({ core.countActivity with lastStream, events := core.events ++ [event] }, .returned) ∧
      EventOf called payload event := by
  cases payload with
  | control payload => exact hpayload.elim
  | stream payload =>
    refine ⟨_, _, rfl, fun rpc hrpc => ?_, ?_, rfl⟩
    · cases hrpc
    · -- the ingress token is no part of what was sent
      simp only [streamOfEvent, streamOfPayload, Option.map_some]
      cases ingress.ingressToken <;> rfl
  | rpc payload =>
    obtain ⟨request, hmem, hrequest, rfl⟩ := hpayload
    have hop : (onWire request).op = RpcOp.request := hrequest.1
    refine ⟨{ value := .rpcRequest (asReceived request ingress), origin := some ingress },
      core.lastStream, handleRpc_of_request hop, fun rpc hrpc => ?_, rfl, rfl⟩
    obtain rfl := CoreEvent.rpcRequest.inj hrpc
    exact ⟨request, hmem, hrequest, ingress, rfl⟩

variable (lib) in
/-- A payload from the server resolves its call, if that is awaited. -/
theorem onPayload_fromServer {payload : Payload} (hpayload : FromServer router called payload)
    (core : AxtpCore) (ingress : Ingress) :
    ∃ response, payload = .rpc response ∧ IsAnswer router called response ∧
      core.onPayload lib ingress payload =
        ({ core.countActivity with
            pendingCalls := core.pendingCalls.resolve response.requestId response },
              .returned) := by
  cases payload with
  | control payload => exact hpayload.elim
  | stream payload => exact hpayload.elim
  | rpc response =>
    refine ⟨response, rfl, hpayload, ?_⟩
    have hop : response.op = RpcOp.requestResponse := IsAnswer.op hpayload
    have hlocal : response.meta_.localGeneratedResponse = false := by
      obtain ⟨reply, -, rfl⟩ := hpayload
      rfl
    show core.handleRpc lib ingress response = _
    rw [handleRpc_of_response hop, AxtpCore.handleResponse, hlocal]
    by_cases hawaited : response.requestId ≠ 0 ∧ ¬ core.pendingCalls.isPending response.requestId
    · -- the table drops a response that is not awaited as well
      have hresolve :
          core.pendingCalls.resolve response.requestId response = core.pendingCalls := by
        unfold PendingCallTable.resolve
        split_ifs <;> rfl
      rw [hresolve]
      exact if_pos hawaited
    · exact if_neg hawaited

theorem Resolved.resolve {table : PendingCallTable} (h : Resolved router called table)
    {response : RpcPayload} (hresponse : IsAnswer router called response) :
    Resolved router called (table.resolve response.requestId response) := by
  intro requestId kept hkept
  unfold PendingCallTable.resolve at hkept
  split_ifs at hkept
  · exact h requestId kept hkept
  · exact h requestId kept hkept
  all_goals
    by_cases hid : requestId = response.requestId
    · subst hid
      simp only [Function.update_self, Option.some.injEq] at hkept
      subst hkept
      exact ⟨rfl, hresponse⟩
    · simp only [Function.update_of_ne hid] at hkept
      exact h requestId kept hkept

/-- The other calls of the table keep no response that was not kept before. -/
theorem Resolved.update {table : PendingCallTable} (h : Resolved router called table)
    (id : UInt32) {pending retired : Finset UInt32} :
    Resolved router called
      { pending, resolved := Function.update table.resolved id none, retired } := by
  intro requestId response hresponse
  by_cases hid : requestId = id
  · subst hid
    simp only [Function.update_self] at hresponse
    cases hresponse
  · simp only [Function.update_of_ne hid] at hresponse
    exact h requestId response hresponse

theorem Resolved.expect {table : PendingCallTable} (h : Resolved router called table)
    (id : UInt32) : Resolved router called (table.expect id).1 := by
  unfold PendingCallTable.expect
  split_ifs
  · exact h
  · exact h
  · exact h.update id

theorem Resolved.take {table : PendingCallTable} (h : Resolved router called table)
    (id : UInt32) : Resolved router called (table.tryTakeResolved id).1 := by
  unfold PendingCallTable.tryTakeResolved
  split
  · exact h
  · exact h.update id

end

/-! ### The calls of the table -/

/-- The pending calls of the client after what it did at its interface. -/
def Tracked (events : List Event) (table : PendingCallTable) : Prop :=
  ∃ calls, table = (run PendingCallTable.call {} calls).1 ∧
    (run PendingCallTable.call {} calls).2.filterMap PendingCallTable.Event.acceptedId =
      (calledIn events).map RpcPayload.requestId ∧
    (run PendingCallTable.call {} calls).2.filterMap PendingCallTable.Event.takenId =
      (tookIn events).map RpcPayload.requestId

section

variable {events : List Event} {table : PendingCallTable}

theorem tracked_empty : Tracked [] {} := ⟨[], rfl, rfl, rfl⟩

theorem calledIn_append (events more : List Event) :
    calledIn (events ++ more) = calledIn events ++ calledIn more := List.filterMap_append

theorem tookIn_append (events more : List Event) :
    tookIn (events ++ more) = tookIn events ++ tookIn more := List.filterMap_append

/-- A call of the table with the events that it stands for. -/
theorem Tracked.call (h : Tracked events table) (c : PendingCallTable.Call) {more : List Event}
    (hcalled : (table.call c).2.filterMap PendingCallTable.Event.acceptedId =
      (calledIn more).map RpcPayload.requestId)
    (htook : (table.call c).2.filterMap PendingCallTable.Event.takenId =
      (tookIn more).map RpcPayload.requestId) :
    Tracked (events ++ more) (table.call c).1 := by
  obtain ⟨calls, rfl, haccepted, htaken⟩ := h
  refine ⟨calls ++ [c], ?_, ?_, ?_⟩
  · rw [run_append, run_singleton]
  · rw [run_append, run_singleton, List.filterMap_append, haccepted, hcalled, calledIn_append,
      List.map_append]
  · rw [run_append, run_singleton, List.filterMap_append, htaken, htook, tookIn_append,
      List.map_append]

theorem Tracked.expect (h : Tracked events table) {request : RpcPayload}
    (hexpect : (table.expect request.requestId).2 = true) :
    Tracked (events ++ [.called request]) (table.expect request.requestId).1 := by
  refine h.call (.expect request.requestId) ?_ ?_
  · simp only [PendingCallTable.call, hexpect]
    rfl
  · simp only [PendingCallTable.call, hexpect]
    rfl

theorem Tracked.abandon (h : Tracked events table) (requestId : UInt32) :
    Tracked events (table.abandon requestId) := by
  have hcall : Tracked (events ++ []) _ := h.call (.abandon requestId) rfl rfl
  rwa [List.append_nil] at hcall

theorem Tracked.resolve (h : Tracked events table) (requestId : UInt32) (response : RpcPayload) :
    Tracked events (table.resolve requestId response) := by
  have hcall : Tracked (events ++ []) _ := h.call (.resolve requestId response) rfl rfl
  rwa [List.append_nil] at hcall

theorem Tracked.take (h : Tracked events table) {requestId : UInt32}
    (hid : ∀ response, table.resolved requestId = some response →
      response.requestId = requestId) :
    Tracked (events ++ ((table.tryTakeResolved requestId).2.map Event.took).toList)
      (table.tryTakeResolved requestId).1 := by
  refine h.call (.tryTakeResolved requestId) ?_ ?_
  · simp only [PendingCallTable.call]
    cases (table.tryTakeResolved requestId).2 <;> rfl
  · simp only [PendingCallTable.call, PendingCallTable.tryTakeResolved]
    rcases hresolved : table.resolved requestId with _ | response
    · rfl
    · show [requestId] = [response.requestId]
      rw [hid response hresolved]

end

/-! ### Steps -/

/-- What is written fits in frames: a request or a stream payload of the client can be sent
without a JSON envelope, and the encoded answer that the server sends next fits in the frames of a
message. -/
def Fits (link : Link σ τ) : Action σ → Prop
  | .call request =>
    request.op = RpcOp.request ∧
      Sendable link.client.core.outbound.messageFragmenter.maxFrameSize (.rpc request)
  | .stream payload =>
    Sendable link.client.core.outbound.messageFragmenter.maxFrameSize (.stream payload)
  | .handleBrokerResult =>
    ∀ result ∈ link.server.broker.results.head?,
      FitsFrames link.server.core.outbound.messageFragmenter.maxFrameSize
        (PayloadEncoder.fixedEnvelope result.value.rpc)
  | _ => True

instance (link : Link σ τ) (action : Action σ) : Decidable (Fits link action) := by
  cases action <;> unfold Fits <;> infer_instance

/-- A response that was taken answers a request that was called before. -/
def Answered (router : BusinessRouter σ) (events : List Event) : Prop :=
  ∀ before response after, events = before ++ .took response :: after →
    IsAnswer router (calledIn before) response

/-- The invariant of a link together with what its client has done. -/
structure Sound (lib : JsonLibrary) (router : BusinessRouter σ) (link : Link σ τ)
    (events : List Event) : Prop where
  carrying : Carrying lib router (calledIn events) link
  tracked : Tracked events link.client.core.pendingCalls
  answered : Answered router events

section

variable {called : List RpcPayload} {router : BusinessRouter σ} {link : Link σ τ}
  {events : List Event}

theorem Answered.append (h : Answered router events) {more : List Event}
    (hmore : ∀ before response after, more = before ++ .took response :: after →
      IsAnswer router (calledIn (events ++ before)) response) :
    Answered router (events ++ more) := by
  intro before response after heq
  obtain ⟨rest, hevents, hrest⟩ | ⟨rest, hbefore, hmore'⟩ := List.append_eq_append_iff.mp heq
  · rw [hevents]
    exact hmore rest response after hrest
  · rcases rest with _ | ⟨event, rest⟩
    · rw [List.append_nil] at hbefore
      have htook := hmore [] response after hmore'.symm
      rwa [List.append_nil, hbefore] at htook
    · obtain ⟨rfl, -⟩ := List.cons.inj hmore'
      exact h before response rest hbefore

/-- Events other than responses that are taken. -/
theorem Answered.append_of_not_took (h : Answered router events) {more : List Event}
    (hmore : ∀ response, .took response ∉ more) : Answered router (events ++ more) := by
  refine h.append fun before response after heq => ?_
  refine absurd ?_ (hmore response)
  rw [heq]
  exact List.mem_append_right _ (List.mem_cons_self ..)

/-! ### The client writes -/

/-- A request that is refused leaves everything alone. -/
theorem step_call_of_refused {request : RpcPayload}
    (hexpect : (link.client.core.pendingCalls.expect request.requestId).2 = false) :
    link.step lib (.call request) = (link, []) := by
  simp only [step, onClient, AxtpEndpoint.step, AxtpEndpoint.sendRpcRequest_of_refused hexpect,
    bytesOf, requestsOf, List.flatMap_nil, List.append_nil, List.filterMap_nil]

theorem step_call_of_accepted {request : RpcPayload} (hflushed : link.client.Flushed)
    (hexpect : (link.client.core.pendingCalls.expect request.requestId).2 = true)
    {o : OutboundProcessor} {pieces : List Bytes}
    (hsend : link.client.core.outbound.sendRpc lib request = some (o, pieces)) :
    link.step lib (.call request) =
      ({ link with
          client := { link.client with
            core := { link.client.core with
              outbound := o
              pendingCalls := (link.client.core.pendingCalls.expect request.requestId).1 } }
          toServer := link.toServer ++ pieces.flatten }, [.called request]) := by
  have hclient : link.client.step lib (.sendRpcRequest request) = _ :=
    AxtpEndpoint.step_sendRpcRequest hflushed hexpect hsend
  have hbytes : bytesOf (.request request :: link.client.packetEffects pieces) = pieces.flatten :=
    AxtpEndpoint.bytesOf_packetEffects link.client pieces
  have hrequests : requestsOf (.request request :: link.client.packetEffects pieces) =
      [.called request] := congrArg (List.cons _) (AxtpEndpoint.requestsOf_packets _)
  simp only [step, onClient, hclient, hbytes, hrequests]

theorem step_stream {payload : StreamPayload} (hflushed : link.client.Flushed)
    {o : OutboundProcessor} {pieces : List Bytes}
    (hsend : link.client.core.outbound.sendStream payload = (o, pieces)) :
    link.step lib (.stream payload) =
      ({ link with
          client := { link.client with core := { link.client.core with outbound := o } }
          toServer := link.toServer ++ pieces.flatten }, [.streamed payload]) := by
  have hclient : link.client.step lib (.sendStream payload) = _ :=
    AxtpEndpoint.step_sendStream hflushed payload
  rw [hsend] at hclient
  simp only [step, onClient, hclient, AxtpEndpoint.bytesOf_packetEffects]

theorem Sound.call (h : Sound lib router link events) {request : RpcPayload}
    (hfits : Fits link (.call request)) :
    Sound lib router (link.step lib (.call request)).1
      (events ++ (link.step lib (.call request)).2) := by
  obtain ⟨hop, hsendable⟩ := hfits
  obtain ⟨hcarrying, htracked, hanswered⟩ := h
  rcases hexpect : (link.client.core.pendingCalls.expect request.requestId).2 with _ | _
  · rw [step_call_of_refused hexpect, List.append_nil]
    exact ⟨hcarrying, htracked, hanswered⟩
  · have hrequest : IsRequest request := ⟨hop, hsendable.2.1⟩
    have hcalled := hcarrying.append [request]
    obtain ⟨o, pieces, hsend, hframed, hcarries⟩ := hcalled.toServer.send hcarrying.client
      hsendable ⟨request, List.mem_append_right _ (List.mem_singleton_self _), hrequest, rfl⟩
    rw [step_call_of_accepted hcarrying.flushed hexpect hsend]
    refine ⟨?_, htracked.expect hexpect, hanswered.append_of_not_took fun response hmem => ?_⟩
    · rw [calledIn_append]
      exact
        { client := hframed
          flushed := ⟨hcarrying.flushed.attached, hcarrying.flushed.outboundBytes⟩
          server := hcalled.server
          toServer := hcarries
          events := hcalled.events
          broker := hcalled.broker
          toClient := hcalled.toClient
          resolved := hcalled.resolved.expect request.requestId }
    · cases List.mem_singleton.mp hmem

theorem Sound.stream (h : Sound lib router link events) {payload : StreamPayload}
    (hfits : Fits link (.stream payload)) :
    Sound lib router (link.step lib (.stream payload)).1
      (events ++ (link.step lib (.stream payload)).2) := by
  obtain ⟨hcarrying, ⟨calls, htable, haccepted, htaken⟩, hanswered⟩ := h
  -- a stream is no call, so the table of calls and its answers stay
  have hevents : calledIn (events ++ [.streamed payload]) = calledIn events := by
    rw [calledIn_append]
    exact List.append_nil _
  have hsendable : Sendable _ (.stream payload) := hfits
  obtain ⟨o, pieces, hsend, hframed, hcarries⟩ :=
    hcarrying.toServer.send hcarrying.client hsendable trivial
  rw [step_stream hcarrying.flushed (Option.some.inj hsend)]
  refine ⟨?_, ⟨calls, htable, ?_, ?_⟩, hanswered.append_of_not_took fun response hmem => ?_⟩
  · rw [hevents]
    exact
      { client := hframed
        flushed := ⟨hcarrying.flushed.attached, hcarrying.flushed.outboundBytes⟩
        server := hcarrying.server
        toServer := hcarries
        events := hcarrying.events
        broker := hcarrying.broker
        toClient := hcarrying.toClient
        resolved := hcarrying.resolved }
  · rw [hevents]
    exact haccepted
  · rw [tookIn_append]
    exact htaken.trans (congrArg _ (List.append_nil _).symm)
  · cases List.mem_singleton.mp hmem

/-! ### The client gives up, or takes a response -/

/-- Only the pending calls of the client change. -/
theorem Carrying.withPendingCalls (h : Carrying lib router called link) {table : PendingCallTable}
    (htable : Resolved router called table) :
    Carrying lib router called
      { link with
        client :=
          { link.client with core := { link.client.core with pendingCalls := table } } } where
  client := h.client
  flushed := ⟨h.flushed.attached, h.flushed.outboundBytes⟩
  server := h.server
  toServer := h.toServer
  events := h.events
  broker := h.broker
  toClient := h.toClient
  resolved := htable

theorem Sound.abandon (h : Sound lib router link events) (requestId : UInt32) :
    Sound lib router (link.step lib (.abandon requestId)).1
      (events ++ (link.step lib (.abandon requestId)).2) := by
  obtain ⟨hcarrying, htracked, hanswered⟩ := h
  simp only [step, onClient, AxtpEndpoint.step, bytesOf, List.flatMap_nil, List.append_nil]
  exact ⟨hcarrying.withPendingCalls (hcarrying.resolved.update requestId),
    htracked.abandon requestId, hanswered⟩

theorem Sound.take (h : Sound lib router link events) (requestId : UInt32) :
    Sound lib router (link.step lib (.take requestId)).1
      (events ++ (link.step lib (.take requestId)).2) := by
  obtain ⟨hcarrying, htracked, hanswered⟩ := h
  have hid := fun response hresponse => (hcarrying.resolved requestId response hresponse).1
  have hevents : calledIn (events ++
      ((link.client.core.pendingCalls.tryTakeResolved requestId).2.map Event.took).toList) =
      calledIn events := by
    rw [calledIn_append]
    cases (link.client.core.pendingCalls.tryTakeResolved requestId).2 <;> exact List.append_nil _
  simp only [step, onClient, AxtpEndpoint.step, bytesOf, List.flatMap_nil, List.append_nil]
  refine ⟨?_, htracked.take hid, hanswered.append fun before response after heq => ?_⟩
  · rw [hevents]
    exact hcarrying.withPendingCalls (hcarrying.resolved.take requestId)
  · -- the response that is taken is the one that was kept
    unfold PendingCallTable.tryTakeResolved at heq
    rcases hresolved : link.client.core.pendingCalls.resolved requestId with _ | kept <;>
      simp only [hresolved] at heq
    · cases before <;> cases heq
    · rcases before with _ | ⟨event, before⟩
      · obtain ⟨hkept, -⟩ := List.cons.inj heq
        obtain rfl := Event.took.inj hkept
        rw [List.append_nil]
        exact (hcarrying.resolved requestId _ hresolved).2
      · obtain ⟨-, hnil⟩ := List.cons.inj heq
        cases before <;> cases hnil

/-! ### Bytes arrive -/

/-- What a chunk does to the server: its payloads become events, one each. -/
theorem step_deliverToServer
    (h : CarriesOnly lib (FromClient called) link.server.core.inbound link.toServer) (count : ℕ)
    (ingress : ℕ → Ingress) :
    ∃ (arrived rest : List Payload) (core : AxtpCore) (newEvents : List (Tagged CoreEvent)),
      Holds lib link.server.core.inbound link.toServer (arrived ++ rest) ∧
      link.step lib (.deliverToServer count ingress) =
        ({ link with
            server := { link.server with
              core := { core with
                inbound := link.server.core.inbound.after (link.toServer.take count) } }
            toServer := link.toServer.drop count }, []) ∧
      Holds lib (link.server.core.inbound.after (link.toServer.take count))
        (link.toServer.drop count) rest ∧
      (∀ payload ∈ rest, FromClient called payload) ∧
      core.events = link.server.core.events ++ newEvents ∧
      core.outbound = link.server.core.outbound ∧
      core.waiting = link.server.core.waiting ∧
      List.Forall₂ (EventOf called) arrived newEvents := by
  obtain ⟨payloads, hholds, hall⟩ := h
  -- the bytes that are delivered hold a first part of the payloads on their way
  obtain ⟨arrived, rest, rfl, harrived, hrest⟩ := hholds.deliver count
  have hP : ∀ payload ∈ arrived, FromClient called payload := fun payload hmem =>
    hall payload (List.mem_append_left _ hmem)
  have hbytes := AxtpCore.handleBytes_quiet lib hholds.emptied.mode harrived
    (fun payload hmem core ingress => by
      obtain ⟨event, lastStream, hhandled, -⟩ :=
        onPayload_fromClient lib (hP payload hmem) core ingress
      rw [hhandled]) ingress
  -- each of them becomes one event, by induction on the payloads
  obtain ⟨⟨newEvents, hevents, hnew⟩, houtbound, hwaiting⟩ := AxtpCore.handling_invariant lib
    (I := fun core handled => (∃ newEvents, core.events = link.server.core.events ++ newEvents ∧
        List.Forall₂ (EventOf called) handled newEvents) ∧
      core.outbound = link.server.core.outbound ∧ core.waiting = link.server.core.waiting)
    (fun payload hmem core ingress handled ⟨⟨newEvents, hevents, hnew⟩, hkept⟩ => by
      obtain ⟨event, lastStream, hhandled, hevent⟩ :=
        onPayload_fromClient lib (hP payload hmem) core ingress
      rw [hhandled]
      refine ⟨⟨newEvents ++ [event], ?_, List.rel_append hnew (.cons hevent .nil)⟩, hkept⟩
      rw [← List.append_assoc, ← hevents])
    ⟨⟨[], (List.append_nil _).symm, .nil⟩, rfl, rfl⟩ ingress
  refine ⟨arrived, rest, _, newEvents, hholds, ?_, hrest, fun payload hmem =>
    hall payload (List.mem_append_right _ hmem), hevents, houtbound, hwaiting, hnew⟩
  simp only [step, onServer, AxtpEndpoint.step, AxtpEndpoint.onTransportBytes, hbytes, bytesOf,
    List.flatMap_nil, List.append_nil]

theorem Sound.deliverToServer (h : Sound lib router link events) (count : ℕ)
    (ingress : ℕ → Ingress) :
    Sound lib router (link.step lib (.deliverToServer count ingress)).1
      (events ++ (link.step lib (.deliverToServer count ingress)).2) := by
  obtain ⟨hcarrying, htracked, hanswered⟩ := h
  obtain ⟨arrived, rest, core, newEvents, -, hstep, hrest, hall, hevents, houtbound, hwaiting,
    hnew⟩ := step_deliverToServer hcarrying.toServer count ingress
  rw [hstep, List.append_nil]
  refine ⟨?_, htracked, hanswered⟩
  exact
    { client := hcarrying.client
      flushed := hcarrying.flushed
      server := houtbound ▸ hcarrying.server
      toServer := ⟨rest, hrest, hall⟩
      events := fun event hmem rpc hrpc => by
        rw [hevents] at hmem
        rcases List.mem_append.mp hmem with hmem | hmem
        · exact hcarrying.events event hmem rpc hrpc
        · obtain ⟨i, hi, rfl⟩ := List.mem_iff_getElem.mp hmem
          exact ((List.forall₂_iff_get.mp hnew).2 i (hnew.length_eq ▸ hi) hi).carried rpc hrpc
      broker := hcarrying.broker
      toClient := hwaiting ▸ hcarrying.toClient
      resolved := hcarrying.resolved }

/-- The table after the responses among the payloads. -/
def resolveAll (table : PendingCallTable) (payloads : List Payload) : PendingCallTable :=
  payloads.foldl (fun table payload =>
    match payload with
    | .rpc response => table.resolve response.requestId response
    | _ => table) table

theorem resolveAll_append (table : PendingCallTable) (payloads : List Payload)
    (response : RpcPayload) :
    resolveAll table (payloads ++ [.rpc response]) =
      (resolveAll table payloads).resolve response.requestId response := by
  rw [resolveAll, List.foldl_append]
  rfl

/-- What a chunk does to the client: its payloads resolve their calls. -/
theorem step_deliverToClient
    (h : CarriesOnly lib (FromServer router called) link.client.core.inbound
      (link.toClient ++ link.server.core.waiting)) (count : ℕ) :
    ∃ (arrived rest : List Payload) (core : AxtpCore),
      Holds lib link.client.core.inbound (link.toClient ++ link.server.core.waiting)
        (arrived ++ rest) ∧
      (∀ payload ∈ arrived ++ rest, FromServer router called payload) ∧
      link.step lib (.deliverToClient count) =
        ({ link with
            client := { link.client with
              core := { core with
                inbound := link.client.core.inbound.after (link.toClient.take count) } }
            toClient := link.toClient.drop count }, []) ∧
      Holds lib (link.client.core.inbound.after (link.toClient.take count))
        (link.toClient.drop count ++ link.server.core.waiting) rest ∧
      core.outbound = link.client.core.outbound ∧
      core.outboundBytes = link.client.core.outboundBytes ∧
      core.pendingCalls = resolveAll link.client.core.pendingCalls arrived := by
  -- the packets that wait at the server are not part of the chunk
  have htake : (link.toClient ++ link.server.core.waiting).take (min count link.toClient.length) =
      link.toClient.take count := by
    rw [List.take_append_of_le_length (Nat.min_le_right ..), ← List.take_eq_take_min]
  have hdrop : (link.toClient ++ link.server.core.waiting).drop (min count link.toClient.length) =
      link.toClient.drop count ++ link.server.core.waiting := by
    rw [List.drop_append_of_le_length (Nat.min_le_right ..), ← List.drop_eq_drop_min]
  obtain ⟨payloads, hholds, hall⟩ := h
  obtain ⟨arrived, rest, rfl, harrived, hrest⟩ := hholds.deliver (min count link.toClient.length)
  rw [htake] at harrived hrest
  rw [hdrop] at hrest
  have hP : ∀ payload ∈ arrived, FromServer router called payload := fun payload hmem =>
    hall payload (List.mem_append_left _ hmem)
  have hbytes := AxtpCore.handleBytes_quiet lib hholds.emptied.mode harrived
    (fun payload hmem core ingress => by
      obtain ⟨response, -, -, hhandled⟩ :=
        onPayload_fromServer lib (hP payload hmem) core ingress
      rw [hhandled]) (fun _ => {})
  obtain ⟨houtbound, hqueue, hresolve⟩ := AxtpCore.handling_invariant lib
    (I := fun core handled => core.outbound = link.client.core.outbound ∧
      core.outboundBytes = link.client.core.outboundBytes ∧
      core.pendingCalls = resolveAll link.client.core.pendingCalls handled)
    (fun payload hmem core ingress handled ⟨houtbound, hqueue, hresolve⟩ => by
      obtain ⟨response, rfl, -, hhandled⟩ :=
        onPayload_fromServer lib (hP payload hmem) core ingress
      rw [hhandled, resolveAll_append, ← hresolve]
      exact ⟨houtbound, hqueue, rfl⟩)
    ⟨rfl, rfl, rfl⟩ fun _ => {}
  refine ⟨arrived, rest, _, hholds, hall, ?_, hrest, houtbound, hqueue, hresolve⟩
  simp only [step, onClient, AxtpEndpoint.step, AxtpEndpoint.onTransportBytes, hbytes, bytesOf,
    List.flatMap_nil, List.append_nil]

/-- What each response that arrives preserves of the table. -/
theorem resolveAll_invariant {I : PendingCallTable → Prop} {payloads : List Payload}
    (hall : ∀ payload ∈ payloads, FromServer router called payload)
    (hstep : ∀ table response, IsAnswer router called response → I table →
      I (table.resolve response.requestId response)) {table : PendingCallTable} (htable : I table) :
    I (resolveAll table payloads) := by
  induction payloads generalizing table with
  | nil => exact htable
  | cons payload payloads ih =>
    refine ih (fun p hp => hall p (List.mem_cons_of_mem _ hp)) ?_
    have hfrom := hall payload (List.mem_cons_self ..)
    cases payload with
    | rpc response => exact hstep table response hfrom htable
    | stream stream => exact hfrom.elim
    | control control => exact hfrom.elim

theorem Sound.deliverToClient (h : Sound lib router link events) (count : ℕ) :
    Sound lib router (link.step lib (.deliverToClient count)).1
      (events ++ (link.step lib (.deliverToClient count)).2) := by
  obtain ⟨hcarrying, htracked, hanswered⟩ := h
  obtain ⟨arrived, rest, core, -, hall, hstep, hrest, houtbound, hqueue, hresolve⟩ :=
    step_deliverToClient hcarrying.toClient count
  have harrived := fun payload hmem => hall payload (List.mem_append_left _ hmem)
  have hkept : Resolved router (calledIn events) core.pendingCalls ∧
      Tracked events core.pendingCalls := by
    rw [hresolve]
    refine resolveAll_invariant harrived
      (I := fun table => Resolved router (calledIn events) table ∧
      Tracked events table) (fun table response hanswer hkept => ?_)
      ⟨hcarrying.resolved, htracked⟩
    exact ⟨hkept.1.resolve hanswer, hkept.2.resolve _ _⟩
  rw [hstep, List.append_nil]
  refine ⟨?_, hkept.2, hanswered⟩
  exact
    { client := houtbound ▸ hcarrying.client
      flushed := ⟨hcarrying.flushed.attached, hqueue.trans hcarrying.flushed.outboundBytes⟩
      server := hcarrying.server
      toServer := hcarrying.toServer
      events := hcarrying.events
      broker := hcarrying.broker
      toClient := ⟨rest, hrest, fun payload hmem => hall payload (List.mem_append_right _ hmem)⟩
      resolved := hkept.1 }

/-! ### The server makes progress -/

/-- A step of the server other than the arrival of bytes, and what it may change. -/
theorem Sound.onServer (h : Sound lib router link events) {server : AxtpEndpoint σ}
    {bytes : Bytes} (hframed : Framed server.core.outbound)
    (hinbound : server.core.inbound = link.server.core.inbound)
    (hevents : EventsCarried (calledIn events) server.core)
    (hbroker : Serving (IsCarried (calledIn events)) router server.broker)
    (htoClient : CarriesOnly lib (FromServer router (calledIn events)) link.client.core.inbound
      (link.toClient ++ bytes ++ server.core.waiting)) :
    Sound lib router { link with server, toClient := link.toClient ++ bytes } (events ++ []) := by
  rw [List.append_nil]
  obtain ⟨hcarrying, htracked, hanswered⟩ := h
  exact ⟨
    { client := hcarrying.client
      flushed := hcarrying.flushed
      server := hframed
      toServer := hinbound ▸ hcarrying.toServer
      events := hevents
      broker := hbroker
      toClient := htoClient
      resolved := hcarrying.resolved }, htracked, hanswered⟩

theorem Sound.drainCoreEvents (h : Sound lib router link events) :
    Sound lib router (link.step lib .drainCoreEvents).1
      (events ++ (link.step lib .drainCoreEvents).2) := by
  have hserving : Serving (IsCarried (calledIn events)) router
      link.server.drainCoreEvents.broker := by
    rw [AxtpEndpoint.drainCoreEvents_eq]
    obtain ⟨hrouted, htasks, hcompletions, hresults⟩ := h.carrying.broker
    refine ⟨hrouted, fun task hmem context rpc hrpc => ?_, hcompletions, hresults⟩
    rcases List.mem_append.mp hmem with hmem | hmem
    · exact htasks task hmem context rpc hrpc
    · obtain ⟨event, hevent, rfl⟩ := List.mem_map.mp hmem
      have hvalue : event.value = .rpcRequest rpc := by
        have htask : BrokerTask.fromCoreEvent event.value = .rpcRequest context rpc := hrpc
        cases hvalue : event.value with
        | rpcRequest rpc' =>
          rw [hvalue] at htask
          obtain ⟨-, rfl⟩ := BrokerTask.rpcRequest.inj htask
          rfl
        | rpcEvent rpc' => rw [hvalue] at htask; cases htask
        | streamData stream => rw [hvalue] at htask; cases htask
      exact h.carrying.events event hevent rpc hvalue
  refine h.onServer h.carrying.server rfl (fun event hmem => absurd hmem List.not_mem_nil)
    hserving ?_
  rw [bytesOf, List.flatMap_nil, List.append_nil]
  exact h.carrying.toClient

theorem Sound.pollBroker (h : Sound lib router link events) (maxTasks : ℕ) :
    Sound lib router (link.step lib (.pollBroker maxTasks)).1
      (events ++ (link.step lib (.pollBroker maxTasks)).2) := by
  refine h.onServer h.carrying.server rfl h.carrying.events
    (h.carrying.broker.poll link.server.world maxTasks) ?_
  rw [bytesOf, List.flatMap_nil, List.append_nil]
  exact h.carrying.toClient

theorem Sound.environment (h : Sound lib router link events) (world : σ) :
    Sound lib router (link.step lib (.environment world)).1
      (events ++ (link.step lib (.environment world)).2) := by
  refine h.onServer h.carrying.server rfl h.carrying.events h.carrying.broker ?_
  rw [bytesOf, List.flatMap_nil, List.append_nil]
  exact h.carrying.toClient

/-- Flushing moves the packets that wait to the bytes on their way, if there is a transport. -/
theorem flushOutbound_cases (server : AxtpEndpoint σ) :
    ∃ core, server.flushOutbound.1 = { server with core } ∧
      core.outbound = server.core.outbound ∧ core.inbound = server.core.inbound ∧
      core.events = server.core.events ∧
      bytesOf server.flushOutbound.2 ++ core.waiting = server.core.waiting := by
  unfold AxtpEndpoint.flushOutbound
  split_ifs
  · refine ⟨_, rfl, rfl, rfl, rfl, ?_⟩
    show bytesOf (server.core.outboundBytes.map .packet) ++ [] = _
    rw [List.append_nil]
    exact AxtpEndpoint.bytesOf_packets _
  · exact ⟨_, rfl, rfl, rfl, rfl, List.nil_append _⟩

theorem Sound.flushOutbound (h : Sound lib router link events) :
    Sound lib router (link.step lib .flushOutbound).1
      (events ++ (link.step lib .flushOutbound).2) := by
  obtain ⟨core, hserver, houtbound, hinbound, hevents, hbytes⟩ := flushOutbound_cases link.server
  simp only [step, Link.onServer, AxtpEndpoint.step, hserver]
  refine h.onServer (houtbound ▸ h.carrying.server) hinbound ?_ h.carrying.broker ?_
  · intro event hmem
    exact h.carrying.events event (hevents ▸ hmem)
  · rw [List.append_assoc, hbytes]
    exact h.carrying.toClient

/-- A broker result of a carrying link is sent, if there is one. -/
theorem handleBrokerResult_cases (h : Carrying lib router called link)
    (hfits : Fits link .handleBrokerResult) :
    link.server.broker.results = [] ∧
        link.server.handleBrokerResult lib = (link.server, .returned) ∨
      ∃ result results, link.server.broker.results = result :: results ∧
        IsReplyTo (IsCarried called) router result.value.rpc ∧
        Sendable link.server.core.outbound.messageFragmenter.maxFrameSize
          (.rpc result.value.rpc) ∧
        ∀ o pieces, link.server.core.outbound.sendRpc lib result.value.rpc = some (o, pieces) →
          link.server.handleBrokerResult lib =
            ({ link.server with
                core := { link.server.core with
                  outbound := o
                  outboundBytes := link.server.core.outboundBytes ++
                    AxtpCore.packetsOf result.origin result.value.rpc.meta_.replyTarget pieces }
                broker := { link.server.broker with results } }, .returned) := by
  rcases hresults : link.server.broker.results with _ | ⟨result, results⟩
  · refine .inl ⟨rfl, ?_⟩
    simp only [AxtpEndpoint.handleBrokerResult, hresults]
  · obtain ⟨response, hvalue, hreply⟩ :=
      h.broker.results result (hresults ▸ List.mem_cons_self ..)
    -- a result that is no success is an error, and both are replies
    have hrpc : result.value.rpc = response ∧ AxtpCore.IsReply result.value := by
      rw [hvalue, rpcResult]
      split_ifs
      · exact ⟨rfl, .inl rfl⟩
      · exact ⟨rfl, .inr rfl⟩
    rw [← hrpc.1] at hreply
    refine .inr ⟨result, results, rfl, hreply,
      sendable_of_reply hreply (hfits result (by rw [hresults]; rfl)), fun o pieces hsend => ?_⟩
    simp only [AxtpEndpoint.handleBrokerResult, hresults,
      AxtpCore.handleBrokerResult_of_sends hrpc.2 hsend]

theorem Sound.handleBrokerResult (h : Sound lib router link events)
    (hfits : Fits link .handleBrokerResult) :
    Sound lib router (link.step lib .handleBrokerResult).1
      (events ++ (link.step lib .handleBrokerResult).2) := by
  obtain ⟨hcarrying, -, -⟩ := id h
  obtain ⟨-, hstep⟩ | ⟨result, results, hresults, hreply, hsendable, hstep⟩ :=
    handleBrokerResult_cases hcarrying hfits
  · simp only [step, Link.onServer, AxtpEndpoint.step, hstep]
    refine h.onServer hcarrying.server rfl hcarrying.events hcarrying.broker ?_
    rw [bytesOf, List.flatMap_nil, List.append_nil]
    exact hcarrying.toClient
  · obtain ⟨o, pieces, hsend, hframed, hcarries⟩ := hcarrying.toClient.send hcarrying.server
      hsendable (show FromServer router _ _ from ⟨_, hreply, rfl⟩)
    simp only [step, Link.onServer, AxtpEndpoint.step, hstep o pieces hsend]
    refine h.onServer hframed rfl hcarrying.events ?_ ?_
    · exact ⟨hcarrying.broker.routed, hcarrying.broker.tasks, hcarrying.broker.completions,
        fun r hr => hcarrying.broker.results r (hresults ▸ List.mem_cons_of_mem _ hr)⟩
    · show CarriesOnly _ _ _ (_ ++ [] ++ ((_ ++ AxtpCore.packetsOf _ _ _).map _).flatten)
      rw [AxtpCore.waiting_packetsOf, List.append_nil, ← List.append_assoc]
      exact hcarries

/-- **Every step** keeps the invariant. -/
theorem Sound.step (h : Sound lib router link events) {action : Action σ}
    (hfits : Fits link action) :
    Sound lib router (link.step lib action).1 (events ++ (link.step lib action).2) := by
  cases action with
  | call request => exact h.call hfits
  | abandon requestId => exact h.abandon requestId
  | take requestId => exact h.take requestId
  | stream payload => exact h.stream hfits
  | deliverToServer count ingress => exact h.deliverToServer count ingress
  | deliverToClient count => exact h.deliverToClient count
  | drainCoreEvents => exact h.drainCoreEvents
  | pollBroker maxTasks => exact h.pollBroker maxTasks
  | handleBrokerResult => exact h.handleBrokerResult hfits
  | flushOutbound => exact h.flushOutbound
  | environment world => exact h.environment world

theorem Sound.run {actions : List (Action σ)} (h : Sound lib router link events)
    (hfits : Along (Link.step lib) Fits link actions) :
    Sound lib router (run (Link.step lib) link actions).1
      (events ++ (run (Link.step lib) link actions).2) :=
  hfits.trace_invariant (I := Sound lib router) (fun _ _ _ h hfits => h.step hfits) h

end

/-! ### The start -/

/-- Frames of the size that the transport prefers, which leaves room for a payload in each. -/
structure FramesFit (profile : TransportProfile) : Prop where
  mode : profile.wireMode = .framedBinary
  min : 15 ≤ profile.preferredFrameSize
  max : profile.preferredFrameSize ≤ 65549

theorem framed_configure {profile : TransportProfile} (h : FramesFit profile) (core : AxtpCore) :
    Framed (core.configure profile).outbound := by
  have hpositive : profile.preferredFrameSize > 0 := by have := h.min; omega
  refine ⟨?_, ?_, ?_⟩
  · unfold AxtpCore.configure
    split_ifs
    exact h.mode
  · rw [AxtpCore.configure_maxFrameSize, if_pos hpositive]
    exact h.min
  · rw [AxtpCore.configure_maxFrameSize, if_pos hpositive]
    exact h.max

variable (lib) in
theorem holds_nil {profile : TransportProfile} (h : FramesFit profile) (core : AxtpCore)
    (hcore : core.inbound = {}) : Holds lib (core.configure profile).inbound [] [] := by
  have hinbound : (core.configure profile).inbound = ({} : InboundProcessor) := by
    simp only [AxtpCore.configure, hcore, h.mode]
    rfl
  have hscan : FrameScan.frameScanner.scan [] = ([], []) :=
    FrameScan.frameScanner.scan_of_wait rfl
  rw [hinbound]
  refine ⟨⟨rfl, ?_, ?_⟩, ?_⟩
  · exact congrArg Prod.snd hscan
  · simp only [after, List.append_nil]
    rw [hscan]
    rfl
  · simp only [messagesIn, List.append_nil]
    rw [hscan]
    rfl

/-- Nothing is on its way to a new receiver. -/
theorem carriesOnly_nil {P : Payload → Prop} {profile : TransportProfile} (h : FramesFit profile)
    (core : AxtpCore) (hcore : core.inbound = {}) :
    CarriesOnly lib P (core.configure profile).inbound [] :=
  ⟨[], holds_nil lib h core hcore, fun _ hmem => absurd hmem List.not_mem_nil⟩

variable (lib) in
theorem sound_start {profile : TransportProfile} (h : FramesFit profile) (client : τ) (world : σ)
    (router : BusinessRouter σ) (eventHandler : Option (EventHandler σ))
    (streamHandler : Option (StreamHandler σ)) :
    Sound lib router (start profile client world router eventHandler streamHandler) [] := by
  refine ⟨?_, tracked_empty, fun before response after heq => by cases before <;> cases heq⟩
  exact
    { client := framed_configure h _
      flushed := ⟨rfl, rfl⟩
      server := framed_configure h _
      toServer := carriesOnly_nil h _ rfl
      events := fun event hmem => absurd hmem List.not_mem_nil
      broker := ⟨rfl, fun task hmem => absurd hmem List.not_mem_nil,
        fun c hmem => absurd hmem List.not_mem_nil,
        fun result hmem => absurd hmem List.not_mem_nil⟩
      toClient := carriesOnly_nil h _ rfl
      resolved := fun requestId response hresponse => by cases hresponse }

/-- **Calls over a link.** However the requests of the client, the arrival of bytes in chunks of
any size and the steps of the server interleave, a response that the client takes is, as the wire
carries it, a reply that the server's router can give to a request that the client had called
before; and no request id but zero is called twice or gets two responses. -/
theorem responses_answer_calls (lib : JsonLibrary) {profile : TransportProfile}
    (hprofile : FramesFit profile) (client : τ) (world : σ) (router : BusinessRouter σ)
    (eventHandler : Option (EventHandler σ)) (streamHandler : Option (StreamHandler σ))
    {actions : List (Action σ)}
    (hfits : Along (Link.step lib) Fits
      (start profile client world router eventHandler streamHandler) actions) :
    let events := (run (Link.step lib)
      (start profile client world router eventHandler streamHandler) actions).2
    (∀ before response after, events = before ++ .took response :: after →
      ∃ request ∈ calledIn before, ∃ ingress reply,
        Replies router (asReceived request ingress) reply ∧ response = onWire reply) ∧
      ∀ id ≠ 0, ((calledIn events).map RpcPayload.requestId).count id ≤ 1 ∧
        ((tookIn events).map RpcPayload.requestId).count id ≤ 1 := by
  have hsound := (sound_start lib hprofile client world router eventHandler streamHandler).run
    hfits
  rw [List.nil_append] at hsound
  obtain ⟨-, ⟨calls, -, haccepted, htaken⟩, hanswered⟩ := hsound
  refine ⟨fun before response after heq => ?_, fun id hid => ⟨?_, ?_⟩⟩
  · obtain ⟨reply, ⟨received, ⟨request, hmem, -, ingress, rfl⟩, hreplies⟩, rfl⟩ :=
      hanswered before response after heq
    exact ⟨request, hmem, ingress, reply, hreplies, rfl⟩
  · rw [← haccepted]
    exact (PendingCallTable.singleUse_run hid calls).accepted_once
  · rw [← htaken]
    exact (PendingCallTable.singleUse_run hid calls).taken_once

/-- A call whose bytes arrive in two parts, and whose answer does so too. -/
def oneCall : List (Action Unit) :=
  [.call { requestId := 1, methodOrEventId := 0x0101, body := [1, 2] },
    .deliverToServer 9 fun _ => {}, .deliverToServer 100 fun _ => {}, .drainCoreEvents,
    .pollBroker 16, .handleBrokerResult, .flushOutbound, .deliverToClient 20, .take 1,
    .deliverToClient 100, .take 1, .take 1]

/-- The server echoes the body. -/
def echoRouter : BusinessRouter Unit :=
  ({ registry := {} } : BusinessRouter Unit).registerRawMethod 0x0101 fun s _ request =>
    (s, some { body := request.body })

theorem responses_answer_calls_oneCall :
    let events := (run (Link.step noJson)
      (start {} () () echoRouter none none) oneCall).2
    (tookIn events).map RpcPayload.body = [[1, 2]] ∧
      (∀ before response after, events = before ++ .took response :: after →
        ∃ request ∈ calledIn before, ∃ ingress reply,
          Replies echoRouter (asReceived request ingress) reply ∧ response = onWire reply) ∧
      ∀ id ≠ 0, ((calledIn events).map RpcPayload.requestId).count id ≤ 1 ∧
        ((tookIn events).map RpcPayload.requestId).count id ≤ 1 :=
  ⟨by decide +kernel, responses_answer_calls noJson ⟨by decide, by decide, by decide⟩ () ()
    echoRouter none none (by decide +kernel)⟩

end Link

end Axtp
