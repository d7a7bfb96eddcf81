/-
  No call over a link is lost.

  As long as a call is pending at the client, its request or its reply is somewhere: on
  its way to the server, among the events of the server's core, in one of the queues of
  its broker, or on its way back (`InFlight`). The server must not throw while it
  dispatches: the broker has then taken the request off its queue and forgets it. Every
  step keeps this (`Unlost.step`), and where nothing is in flight no call is pending.
-/
import Axtp.Equiv.Link

namespace Axtp

open Run InboundProcessor Transfer PayloadCodec

namespace BasicBroker

open BusinessRouter

variable {σ : Type*} {broker : BasicBroker σ}

/-! ### The requests in a broker -/

def idOfTask : BrokerTask → Option UInt32
  | .rpcRequest _ rpc => some rpc.requestId
  | _ => none

def taskIds (tasks : List (Tagged BrokerTask)) : List UInt32 :=
  tasks.filterMap fun task => idOfTask task.value

/-- The ids of the requests that wait in a broker, or whose replies do. -/
def ids (broker : BasicBroker σ) : List UInt32 :=
  taskIds broker.tasks ++ broker.pendingCompletions.map (fun c => c.value.response.requestId) ++
    broker.results.map fun result => result.value.rpc.requestId

theorem mem_ids {broker : BasicBroker σ} {id : UInt32} : id ∈ broker.ids ↔
    id ∈ taskIds broker.tasks ∨
      (∃ c ∈ broker.pendingCompletions, c.value.response.requestId = id) ∨
      ∃ result ∈ broker.results, result.value.rpc.requestId = id := by
  rw [ids, List.mem_append, List.mem_append, List.mem_map, List.mem_map, or_assoc]

/-- No request is thrown away by an exception. -/
def NeverThrows (router : BusinessRouter σ) : Prop :=
  ∀ s rpc, (router.dispatchRpcRequest s rpc).2 ≠ none

/-- A task that is run leaves its id in the broker, and the others where they are. -/
theorem mem_ids_runTask (h : NeverThrows broker.router) (s : σ) (task : Tagged BrokerTask)
    {id : UInt32} (hid : idOfTask task.value = some id ∨ id ∈ broker.ids) :
    id ∈ (broker.runTask s task).1.ids := by
  have hran := ran broker s task
  generalize broker.runTask s task = result at hran
  -- a request moves from the queue to the results or the pending completions
  cases hran with
  | threw hvalue hdispatch => exact absurd (congrArg Prod.snd hdispatch) (h s _)
  | other hvalue =>
    rcases hid with hid | hid
    · cases htask : task.value with
      | rpcRequest context rpc => exact absurd htask (hvalue context rpc)
      | _ => rw [htask] at hid; cases hid
    · exact hid
  | answered hvalue hdispatch =>
    rcases hid with hid | hid
    · rw [hvalue] at hid
      obtain rfl := Option.some.inj hid
      refine mem_ids.mpr (.inr (.inr ⟨_, List.mem_append_right _ (List.mem_singleton_self _), ?_⟩))
      rw [rpc_rpcResult]
      exact (answers_of_dispatch hdispatch).requestId
    · rcases mem_ids.mp hid with hid | hid | ⟨result, hmem, hid⟩
      · exact mem_ids.mpr (.inl hid)
      · exact mem_ids.mpr (.inr (.inl hid))
      · exact mem_ids.mpr (.inr (.inr ⟨result, List.mem_append_left _ hmem, hid⟩))
  | deferred hvalue hdispatch =>
    rcases hid with hid | hid
    · rw [hvalue] at hid
      obtain rfl := Option.some.inj hid
      exact mem_ids.mpr (.inr (.inl ⟨_, List.mem_append_right _ (List.mem_singleton_self _),
        (answers_of_dispatch hdispatch).requestId⟩))
    · rcases mem_ids.mp hid with hid | ⟨c, hmem, hid⟩ | hid
      · exact mem_ids.mpr (.inl hid)
      · exact mem_ids.mpr (.inr (.inl ⟨c, List.mem_append_left _ hmem, hid⟩))
      · exact mem_ids.mpr (.inr (.inr hid))

theorem router_runTask (broker : BasicBroker σ) (s : σ) (task : Tagged BrokerTask) :
    (broker.runTask s task).1.router = broker.router := by
  have hran := ran broker s task
  generalize broker.runTask s task = result at hran
  cases hran <;> rfl

theorem mem_ids_runTasks (h : NeverThrows broker.router) (maxTasks : ℕ) (s : σ) {id : UInt32}
    (hid : id ∈ broker.ids) : id ∈ (runTasks maxTasks broker s).1.ids := by
  induction maxTasks generalizing broker s with
  | zero => exact hid
  | succ maxTasks ih =>
    rcases htasks : broker.tasks with _ | ⟨task, tasks⟩
    · rw [runTasks_of_nil htasks]
      exact hid
    · have hnever : NeverThrows ({ broker with tasks } : BasicBroker σ).router := h
      have hsplit : idOfTask task.value = some id ∨
          id ∈ ({ broker with tasks } : BasicBroker σ).ids := by
        rcases mem_ids.mp hid with hid | hid
        · rw [htasks, taskIds] at hid
          obtain ⟨task', hmem, hid⟩ := List.mem_filterMap.mp hid
          rcases List.mem_cons.mp hmem with heq | hmem
          · exact .inl (heq ▸ hid)
          · exact .inr (mem_ids.mpr (.inl (List.mem_filterMap.mpr ⟨task', hmem, hid⟩)))
        · exact .inr (mem_ids.mpr (.inr hid))
      have hrouter := router_runTask { broker with tasks } s task
      have hran := mem_ids_runTask hnever s task hsplit
      rw [runTasks_of_cons htasks]
      generalize runTask { broker with tasks } s task = result at hran hrouter ⊢
      obtain ⟨broker', s', _ | _⟩ := result
      · exact ih (hrouter ▸ h) s' hran
      · exact hran

/-- A completion that is polled is kept, or its response has its id. -/
theorem mem_ids_pollCompletions (pending : List (Tagged (PendingCompletion σ))) (s : σ)
    {c : Tagged (PendingCompletion σ)} (hmem : c ∈ pending) :
    c ∈ (pollCompletions pending s).1 ∨ ∃ response ∈ (pollCompletions pending s).2.1,
      response.value.requestId = c.value.response.requestId := by
  induction pending generalizing s with
  | nil => exact absurd hmem List.not_mem_nil
  | cons c' rest ih =>
    rw [pollCompletions]
    rcases List.mem_cons.mp hmem with rfl | hmem
    · rcases c.value.poll s with ⟨s', _ | _ | data⟩
      · exact .inr ⟨_, List.mem_cons_self .., rfl⟩
      · exact .inl (List.mem_cons_self ..)
      · refine .inr ⟨_, List.mem_cons_self .., ?_⟩
        simp only [BusinessExecutor.completeRpcRequest, applyResponseData]
        split_ifs <;> rfl
    · rcases c'.value.poll s with ⟨s', _ | _ | data⟩
      · obtain hkept | ⟨response, hresponse, hid⟩ := ih s' hmem
        · exact .inl hkept
        · exact .inr ⟨response, List.mem_cons_of_mem _ hresponse, hid⟩
      · obtain hkept | hdone := ih s' hmem
        · exact .inl (List.mem_cons_of_mem _ hkept)
        · exact .inr hdone
      · obtain hkept | ⟨response, hresponse, hid⟩ := ih s' hmem
        · exact .inl hkept
        · exact .inr ⟨response, List.mem_cons_of_mem _ hresponse, hid⟩

/-- **A poll** forgets no request. -/
theorem mem_ids_poll (h : NeverThrows broker.router) (s : σ) (maxTasks : ℕ) {id : UInt32}
    (hid : id ∈ broker.ids) : id ∈ (broker.poll s maxTasks).1.ids := by
  have hstate := pollPendingCompletions_eq broker s
  have hpolled : id ∈ (broker.pollPendingCompletions s).1.ids := by
    rw [hstate]
    rcases mem_ids.mp hid with hid | ⟨c, hmem, rfl⟩ | ⟨result, hmem, rfl⟩
    · exact mem_ids.mpr (.inl hid)
    · obtain hkept | ⟨response, hresponse, hid⟩ :=
        mem_ids_pollCompletions broker.pendingCompletions s hmem
      · exact mem_ids.mpr (.inr (.inl ⟨c, hkept, rfl⟩))
      · refine mem_ids.mpr (.inr (.inr ⟨_, List.mem_append_right _
          (List.mem_map_of_mem hresponse), ?_⟩))
        rw [rpc_rpcResult]
        exact hid
    · exact mem_ids.mpr (.inr (.inr ⟨result, List.mem_append_left _ hmem, rfl⟩))
  have hrouter : (broker.pollPendingCompletions s).1.router = broker.router := by rw [hstate]
  have hnever : NeverThrows (broker.pollPendingCompletions s).1.router := by
    rw [hrouter]
    exact h
  exact mem_ids_runTasks hnever maxTasks _ hpolled

end BasicBroker

namespace PendingCallTable

/-- A coherent table that is given a response no longer awaits it. -/
theorem pending_resolve {table : PendingCallTable} (h : table.Coherent) (requestId : UInt32)
    (response : RpcPayload) :
    (table.resolve requestId response).pending = table.pending.erase requestId := by
  unfold resolve isPending
  split_ifs with hretired hpending
  · have hnot := fun hmem => h.not_retired_of_pending hretired.1 hmem hretired.2
    rw [Finset.erase_eq_of_notMem hnot]
  · have hnot : requestId ∉ table.pending := by simpa using hpending.2
    rw [Finset.erase_eq_of_notMem hnot]
  · rfl
  · rfl

end PendingCallTable

namespace Link

open BasicBroker BusinessRouter

variable {σ τ : Type*} {lib : JsonLibrary}

/-! ### What is in flight -/

/-- The ids of the requests or responses that the bytes hold. -/
def wireIds (lib : JsonLibrary) (inbound : InboundProcessor) (bytes : Bytes) : List UInt32 :=
  ((inbound.messagesIn bytes).filterMap (PayloadDecoder.payloadOf lib)).filterMap idOfPayload

def eventIds (core : AxtpCore) : List UInt32 :=
  core.events.filterMap fun event => idOfEvent event.value

/-- The ids of the requests at the server, or on their way to it. -/
def requestsInFlight (lib : JsonLibrary) (link : Link σ τ) : List UInt32 :=
  wireIds lib link.server.core.inbound link.toServer ++ eventIds link.server.core ++
    link.server.broker.ids

/-- The ids of the replies on their way to the client. -/
def repliesInFlight (lib : JsonLibrary) (link : Link σ τ) : List UInt32 :=
  wireIds lib link.client.core.inbound (link.toClient ++ link.server.core.waiting)

/-- A call is in flight. -/
def InFlight (lib : JsonLibrary) (link : Link σ τ) (id : UInt32) : Prop :=
  id ∈ requestsInFlight lib link ∨ id ∈ repliesInFlight lib link

theorem mem_requestsInFlight {link : Link σ τ} {id : UInt32} :
    id ∈ requestsInFlight lib link ↔
      id ∈ wireIds lib link.server.core.inbound link.toServer ∨ id ∈ eventIds link.server.core ∨
        id ∈ link.server.broker.ids := by
  rw [requestsInFlight, List.mem_append, List.mem_append, or_assoc]

theorem wireIds_of_holds {inbound : InboundProcessor} {bytes : Bytes} {payloads : List Payload}
    (h : Holds lib inbound bytes payloads) :
    wireIds lib inbound bytes = payloads.filterMap idOfPayload := by
  rw [wireIds, h.payloadsIn]

/-- Every call that is pending is in flight. -/
structure Unlost (lib : JsonLibrary) (router : BusinessRouter σ) (link : Link σ τ)
    (events : List Event) : Prop where
  sound : Sound lib router link events
  inFlight : ∀ id ∈ link.client.core.pendingCalls.pending, InFlight lib link id

section

variable {router : BusinessRouter σ} {link : Link σ τ} {events : List Event}

/-- The ids on the wire once a payload is sent. -/
theorem wireIds_send {P : Payload → Prop} {inbound : InboundProcessor} {bytes : Bytes}
    (h : CarriesOnly lib P inbound bytes) {o : OutboundProcessor} (hframed : Framed o)
    {payload : Payload} (hsendable : Sendable o.messageFragmenter.maxFrameSize payload) :
    ∃ o' pieces, o.send lib payload = some (o', pieces) ∧
      wireIds lib inbound (bytes ++ pieces.flatten) =
        wireIds lib inbound bytes ++ (idOfPayload (payloadOnWire payload)).toList := by
  obtain ⟨payloads, hholds, -⟩ := h
  obtain ⟨pieces, hsend, hholds'⟩ := hholds.send hframed.mode hframed.min hframed.max hsendable
  refine ⟨_, pieces, hsend, ?_⟩
  rw [wireIds_of_holds hholds, wireIds_of_holds hholds', List.filterMap_append,
    List.filterMap_cons, List.filterMap_nil]
  cases idOfPayload (payloadOnWire payload) <;> rfl

theorem Unlost.call (h : Unlost lib router link events) {request : RpcPayload}
    (hfits : Fits link (.call request)) :
    Unlost lib router (link.step lib (.call request)).1
      (events ++ (link.step lib (.call request)).2) := by
  have hsound : Sound lib router (link.step lib (.call request)).1 _ := h.sound.step hfits
  rcases hexpect : (link.client.core.pendingCalls.expect request.requestId).2 with _ | _
  · rw [step_call_of_refused hexpect, List.append_nil]
    exact h
  · obtain ⟨o, pieces, hsend, hwire⟩ :=
      wireIds_send h.sound.carrying.toServer h.sound.carrying.client hfits.2
    rw [step_call_of_accepted h.sound.carrying.flushed hexpect hsend] at hsound ⊢
    refine ⟨hsound, fun id hid => ?_⟩
    -- what is pending now was pending before or is the new request
    have hcases : id = request.requestId ∨ id ∈ link.client.core.pendingCalls.pending := by
      have hid' : id ∈ (link.client.core.pendingCalls.expect request.requestId).1.pending := hid
      unfold PendingCallTable.expect at hid'
      split_ifs at hid'
      · exact .inr hid'
      · exact .inr hid'
      · exact Finset.mem_insert.mp hid'
    have hsent : ∀ id', id' = request.requestId ∨
        id' ∈ wireIds lib link.server.core.inbound link.toServer →
        id' ∈ wireIds lib link.server.core.inbound (link.toServer ++ pieces.flatten) := by
      rw [hwire]
      rintro id' (rfl | hmem)
      · exact List.mem_append_right _ (List.mem_singleton_self _)
      · exact List.mem_append_left _ hmem
    rcases hcases with hnew | hpending
    · exact .inl (mem_requestsInFlight.mpr (.inl (hsent id (.inl hnew))))
    · rcases h.inFlight id hpending with hrequest | hreply
      · rcases mem_requestsInFlight.mp hrequest with hwire | hrest
        · exact .inl (mem_requestsInFlight.mpr (.inl (hsent id (.inr hwire))))
        · exact .inl (mem_requestsInFlight.mpr (.inr hrest))
      · exact .inr hreply

theorem Unlost.stream (h : Unlost lib router link events) {payload : StreamPayload}
    (hfits : Fits link (.stream payload)) :
    Unlost lib router (link.step lib (.stream payload)).1
      (events ++ (link.step lib (.stream payload)).2) := by
  have hsound : Sound lib router (link.step lib (.stream payload)).1 _ := h.sound.step hfits
  have hsendable : Sendable _ (.stream payload) := hfits
  obtain ⟨o, pieces, hsend, hwire⟩ :=
    wireIds_send h.sound.carrying.toServer h.sound.carrying.client hsendable
  rw [step_stream h.sound.carrying.flushed (Option.some.inj hsend)] at hsound ⊢
  refine ⟨hsound, fun id hid => ?_⟩
  rcases h.inFlight id hid with hrequest | hreply
  · rcases mem_requestsInFlight.mp hrequest with hmem | hrest
    · refine .inl (mem_requestsInFlight.mpr (.inl ?_))
      show id ∈ wireIds lib link.server.core.inbound (link.toServer ++ pieces.flatten)
      rw [hwire]
      exact List.mem_append_left _ hmem
    · exact .inl (mem_requestsInFlight.mpr (.inr hrest))
  · exact .inr hreply

/-- The client awaits fewer calls, and everything else stays. -/
theorem Unlost.awaiting (h : Unlost lib router link events) {table : PendingCallTable}
    {more : List Event} (htable : table.pending ⊆ link.client.core.pendingCalls.pending)
    (hsound : Sound lib router
      { link with
        client := { link.client with core := { link.client.core with pendingCalls := table } } }
      (events ++ more)) :
    Unlost lib router
      { link with
        client := { link.client with core := { link.client.core with pendingCalls := table } } }
      (events ++ more) :=
  ⟨hsound, fun id hid => h.inFlight id (htable hid)⟩

theorem Unlost.abandon (h : Unlost lib router link events) (requestId : UInt32) :
    Unlost lib router (link.step lib (.abandon requestId)).1
      (events ++ (link.step lib (.abandon requestId)).2) := by
  have hsound : Sound lib router (link.step lib (.abandon requestId)).1 _ :=
    h.sound.step trivial
  simp only [step, onClient, AxtpEndpoint.step, bytesOf, List.flatMap_nil,
    List.append_nil] at hsound ⊢
  rw [← List.append_nil events] at hsound ⊢
  exact h.awaiting (Finset.erase_subset _ _) hsound

theorem Unlost.take (h : Unlost lib router link events) (requestId : UInt32) :
    Unlost lib router (link.step lib (.take requestId)).1
      (events ++ (link.step lib (.take requestId)).2) := by
  have hsound : Sound lib router (link.step lib (.take requestId)).1 _ := h.sound.step trivial
  simp only [step, onClient, AxtpEndpoint.step, bytesOf, List.flatMap_nil,
    List.append_nil] at hsound ⊢
  refine h.awaiting ?_ hsound
  unfold PendingCallTable.tryTakeResolved
  split <;> exact subset_rfl

/-! ### Bytes arrive -/

/-- The events of payloads have their ids. -/
theorem ids_eq {called : List RpcPayload} {payloads : List Payload}
    {newEvents : List (Tagged CoreEvent)}
    (h : List.Forall₂ (EventOf called) payloads newEvents) :
    (newEvents.filterMap fun event => idOfEvent event.value) = payloads.filterMap idOfPayload := by
  induction h with
  | nil => rfl
  | cons hevent _ ih => rw [List.filterMap_cons, List.filterMap_cons, hevent.requestId, ih]

theorem Unlost.deliverToServer (h : Unlost lib router link events) (count : ℕ)
    (ingress : ℕ → Ingress) :
    Unlost lib router (link.step lib (.deliverToServer count ingress)).1
      (events ++ (link.step lib (.deliverToServer count ingress)).2) := by
  have hsound : Sound lib router (link.step lib (.deliverToServer count ingress)).1 _ :=
    h.sound.step trivial
  obtain ⟨arrived, rest, core, newEvents, hholds, hstep, hrest, -, hevents, -, hwaiting, hnew⟩ :=
    step_deliverToServer h.sound.carrying.toServer count ingress
  rw [hstep, List.append_nil] at hsound ⊢
  refine ⟨hsound, fun id hid => ?_⟩
  -- each request that arrives is one more event
  have harrived : eventIds core =
      eventIds link.server.core ++ arrived.filterMap idOfPayload := by
    rw [eventIds, hevents, List.filterMap_append, ids_eq hnew]
    rfl
  rcases h.inFlight id hid with hrequest | hreply
  · refine .inl (mem_requestsInFlight.mpr ?_)
    rw [wireIds_of_holds hrest]
    show _ ∨ id ∈ eventIds core ∨ _
    rw [harrived]
    rcases mem_requestsInFlight.mp hrequest with hmem | hmem | hmem
    · rw [wireIds_of_holds hholds, List.filterMap_append] at hmem
      rcases List.mem_append.mp hmem with hmem | hmem
      · exact .inr (.inl (List.mem_append_right _ hmem))
      · exact .inl hmem
    · exact .inr (.inl (List.mem_append_left _ hmem))
    · exact .inr (.inr hmem)
  · refine .inr ?_
    show id ∈ wireIds lib link.client.core.inbound (link.toClient ++ core.waiting)
    rw [hwaiting]
    exact hreply

/-- What has arrived is no longer pending. -/
theorem pending_resolveAll {called : List RpcPayload} {payloads : List Payload}
    (hall : ∀ payload ∈ payloads, FromServer router called payload) {table : PendingCallTable}
    (htable : table.Coherent) {id : UInt32} (hid : id ∈ (resolveAll table payloads).pending) :
    id ∈ table.pending ∧ id ∉ payloads.filterMap idOfPayload := by
  induction payloads generalizing table with
  | nil => exact ⟨hid, List.not_mem_nil⟩
  | cons payload payloads ih =>
    have hfrom := hall payload (List.mem_cons_self ..)
    have hrest := fun p hp => hall p (List.mem_cons_of_mem _ hp)
    cases payload with
    | stream stream => exact hfrom.elim
    | control control => exact hfrom.elim
    | rpc response =>
      obtain ⟨hpending, hnot⟩ := ih hrest (htable.resolve response.requestId response) hid
      rw [PendingCallTable.pending_resolve htable] at hpending
      obtain ⟨hne, hmem⟩ := Finset.mem_erase.mp hpending
      refine ⟨hmem, ?_⟩
      rw [List.filterMap_cons_some (show idOfPayload (.rpc response) = some response.requestId
        from rfl), List.mem_cons, not_or]
      exact ⟨hne, hnot⟩

theorem Unlost.deliverToClient (h : Unlost lib router link events) (count : ℕ) :
    Unlost lib router (link.step lib (.deliverToClient count)).1
      (events ++ (link.step lib (.deliverToClient count)).2) := by
  have hsound : Sound lib router (link.step lib (.deliverToClient count)).1 _ :=
    h.sound.step trivial
  obtain ⟨arrived, rest, core, hholds, hall, hstep, hrest, -, -, hresolve⟩ :=
    step_deliverToClient h.sound.carrying.toClient count
  rw [hstep, List.append_nil] at hsound ⊢
  refine ⟨hsound, fun id hid => ?_⟩
  have hpending : id ∈ (resolveAll link.client.core.pendingCalls arrived).pending := hresolve ▸ hid
  have hcoherent : link.client.core.pendingCalls.Coherent := by
    obtain ⟨calls, htable, -⟩ := h.sound.tracked
    rw [htable]
    exact PendingCallTable.coherent_run PendingCallTable.coherent_empty calls
  obtain ⟨hmem, hnot⟩ := pending_resolveAll
    (fun payload hmem => hall payload (List.mem_append_left _ hmem)) hcoherent hpending
  rcases h.inFlight id hmem with hrequest | hreply
  · exact .inl hrequest
  · refine .inr ?_
    rw [repliesInFlight, wireIds_of_holds hholds, List.filterMap_append] at hreply
    rw [repliesInFlight, wireIds_of_holds hrest]
    exact (List.mem_append.mp hreply).resolve_left hnot

/-! ### The server makes progress -/

/-- A step of the server that forgets no request. -/
theorem Unlost.onServer (h : Unlost lib router link events) {server : AxtpEndpoint σ}
    {bytes : Bytes}
    (hsound : Sound lib router { link with server, toClient := link.toClient ++ bytes }
      (events ++ []))
    (hinbound : server.core.inbound = link.server.core.inbound)
    (hids : ∀ id, id ∈ eventIds link.server.core ∨ id ∈ link.server.broker.ids →
      id ∈ eventIds server.core ∨ id ∈ server.broker.ids ∨
        id ∈ wireIds lib link.client.core.inbound (link.toClient ++ bytes ++ server.core.waiting))
    (hreplies : ∀ id ∈ repliesInFlight lib link,
      id ∈ wireIds lib link.client.core.inbound (link.toClient ++ bytes ++ server.core.waiting)) :
    Unlost lib router { link with server, toClient := link.toClient ++ bytes } (events ++ []) := by
  refine ⟨hsound, fun id hid => ?_⟩
  rcases h.inFlight id hid with hrequest | hreply
  · rcases mem_requestsInFlight.mp hrequest with hwire | hrest
    · refine .inl (mem_requestsInFlight.mpr (.inl ?_))
      show id ∈ wireIds lib server.core.inbound link.toServer
      rw [hinbound]
      exact hwire
    · rcases hids id hrest with hevent | hbroker | hwire
      · exact .inl (mem_requestsInFlight.mpr (.inr (.inl hevent)))
      · exact .inl (mem_requestsInFlight.mpr (.inr (.inr hbroker)))
      · exact .inr hwire
  · exact .inr (hreplies id hreply)

theorem Unlost.drainCoreEvents (h : Unlost lib router link events) :
    Unlost lib router (link.step lib .drainCoreEvents).1
      (events ++ (link.step lib .drainCoreEvents).2) := by
  have hsound : Sound lib router (link.step lib .drainCoreEvents).1 _ := h.sound.step trivial
  -- every event becomes a task with the same id
  have htasks : taskIds (link.server.core.events.map AxtpEndpoint.taskOf) =
      eventIds link.server.core := by
    rw [taskIds, List.filterMap_map]
    refine List.filterMap_congr fun event _ => ?_
    show idOfTask (.fromCoreEvent event.value) = _
    cases event.value <;> rfl
  have hreplies : ∀ id ∈ repliesInFlight lib link,
      id ∈ wireIds lib link.client.core.inbound
        (link.toClient ++ bytesOf [] ++ link.server.core.waiting) := by
    intro id hid
    rw [bytesOf, List.flatMap_nil, List.append_nil]
    exact hid
  refine h.onServer hsound rfl (fun id hid => .inr (.inl ?_)) hreplies
  show id ∈ link.server.drainCoreEvents.broker.ids
  rw [AxtpEndpoint.drainCoreEvents_eq]
  rcases hid with hevent | hbroker
  · refine mem_ids.mpr (.inl ?_)
    show id ∈ taskIds (link.server.broker.tasks ++ _)
    rw [taskIds, List.filterMap_append, ← taskIds, ← taskIds, htasks]
    exact List.mem_append_right _ hevent
  · rcases mem_ids.mp hbroker with htask | hrest
    · refine mem_ids.mpr (.inl ?_)
      show id ∈ taskIds (link.server.broker.tasks ++ _)
      rw [taskIds, List.filterMap_append]
      exact List.mem_append_left _ htask
    · exact mem_ids.mpr (.inr hrest)

theorem Unlost.pollBroker (h : Unlost lib router link events) (hrouter : NeverThrows router)
    (maxTasks : ℕ) :
    Unlost lib router (link.step lib (.pollBroker maxTasks)).1
      (events ++ (link.step lib (.pollBroker maxTasks)).2) := by
  have hsound : Sound lib router (link.step lib (.pollBroker maxTasks)).1 _ :=
    h.sound.step trivial
  have hnever : NeverThrows link.server.broker.router := by
    rw [h.sound.carrying.broker.routed]
    exact hrouter
  refine h.onServer hsound rfl (fun id hid => ?_) fun id hid => ?_
  · rcases hid with hevent | hbroker
    · exact .inl hevent
    · exact .inr (.inl (mem_ids_poll hnever link.server.world maxTasks hbroker))
  · rw [bytesOf, List.flatMap_nil, List.append_nil]
    exact hid

theorem Unlost.environment (h : Unlost lib router link events) (world : σ) :
    Unlost lib router (link.step lib (.environment world)).1
      (events ++ (link.step lib (.environment world)).2) := by
  have hsound : Sound lib router (link.step lib (.environment world)).1 _ := h.sound.step trivial
  refine h.onServer hsound rfl (fun id hid => hid.imp_right .inl) fun id hid => ?_
  rw [bytesOf, List.flatMap_nil, List.append_nil]
  exact hid

theorem Unlost.flushOutbound (h : Unlost lib router link events) :
    Unlost lib router (link.step lib .flushOutbound).1
      (events ++ (link.step lib .flushOutbound).2) := by
  have hsound : Sound lib router (link.step lib .flushOutbound).1 _ := h.sound.step trivial
  obtain ⟨core, hserver, -, hinbound, hevents, hbytes⟩ := flushOutbound_cases link.server
  simp only [step, Link.onServer, AxtpEndpoint.step, hserver] at hsound ⊢
  refine h.onServer hsound hinbound (fun id hid => ?_) fun id hid => ?_
  · rw [eventIds, hevents]
    exact hid.imp_right .inl
  · rw [List.append_assoc, hbytes]
    exact hid

theorem Unlost.handleBrokerResult (h : Unlost lib router link events)
    (hfits : Fits link .handleBrokerResult) :
    Unlost lib router (link.step lib .handleBrokerResult).1
      (events ++ (link.step lib .handleBrokerResult).2) := by
  have hsound : Sound lib router (link.step lib .handleBrokerResult).1 _ := h.sound.step hfits
  obtain ⟨-, hstep⟩ | ⟨result, results, hresults, -, hsendable, hstep⟩ :=
    handleBrokerResult_cases h.sound.carrying hfits
  · simp only [step, Link.onServer, AxtpEndpoint.step, hstep] at hsound ⊢
    refine h.onServer hsound rfl (fun id hid => hid.imp_right .inl) fun id hid => ?_
    rw [bytesOf, List.flatMap_nil, List.append_nil]
    exact hid
  · obtain ⟨o, pieces, hsend, hwire⟩ :=
      wireIds_send h.sound.carrying.toClient h.sound.carrying.server hsendable
    simp only [step, Link.onServer, AxtpEndpoint.step, hstep o pieces hsend] at hsound ⊢
    -- the id of the result moves to the bytes on their way back
    have hbytes : link.toClient ++ bytesOf [] ++
        ((link.server.core.outboundBytes ++ AxtpCore.packetsOf result.origin
          result.value.rpc.meta_.replyTarget pieces).map fun packet => packet.value.bytes).flatten =
        link.toClient ++ link.server.core.waiting ++ pieces.flatten := by
      rw [AxtpCore.waiting_packetsOf, bytesOf, List.flatMap_nil, List.append_nil,
        ← List.append_assoc]
      rfl
    have hsent : ∀ id, id = result.value.rpc.requestId ∨ id ∈ repliesInFlight lib link →
        id ∈ wireIds lib link.client.core.inbound
          (link.toClient ++ link.server.core.waiting ++ pieces.flatten) := by
      rw [hwire]
      rintro id (rfl | hid)
      · exact List.mem_append_right _ (List.mem_singleton_self _)
      · exact List.mem_append_left _ hid
    refine h.onServer hsound rfl (fun id hid => ?_) fun id hid => ?_
    · rcases hid with hevent | hbroker
      · exact .inl hevent
      · rcases mem_ids.mp hbroker with htask | hpending | ⟨result', hmem, hid⟩
        · exact .inr (.inl (mem_ids.mpr (.inl htask)))
        · exact .inr (.inl (mem_ids.mpr (.inr (.inl hpending))))
        · rcases List.mem_cons.mp (hresults ▸ hmem) with rfl | hmem
          · refine .inr (.inr ?_)
            show id ∈ wireIds lib _ (_ ++ (List.map _ _).flatten)
            rw [hbytes]
            exact hsent id (.inl hid.symm)
          · exact .inr (.inl (mem_ids.mpr (.inr (.inr ⟨result', hmem, hid⟩))))
    · show id ∈ wireIds lib _ (_ ++ (List.map _ _).flatten)
      rw [hbytes]
      exact hsent id (.inr hid)

/-- **Every step** keeps the pending calls in flight. -/
theorem Unlost.step (h : Unlost lib router link events) (hrouter : NeverThrows router)
    {action : Action σ} (hfits : Fits link action) :
    Unlost lib router (link.step lib action).1 (events ++ (link.step lib action).2) := by
  cases action with
  | call request => exact h.call hfits
  | abandon requestId => exact h.abandon requestId
  | take requestId => exact h.take requestId
  | stream payload => exact h.stream hfits
  | deliverToServer count ingress => exact h.deliverToServer count ingress
  | deliverToClient count => exact h.deliverToClient count
  | drainCoreEvents => exact h.drainCoreEvents
  | pollBroker maxTasks => exact h.pollBroker hrouter maxTasks
  | handleBrokerResult => exact h.handleBrokerResult hfits
  | flushOutbound => exact h.flushOutbound
  | environment world => exact h.environment world

theorem Unlost.run (h : Unlost lib router link events) (hrouter : NeverThrows router)
    {actions : List (Action σ)} (hfits : Along (Link.step lib) Fits link actions) :
    Unlost lib router (run (Link.step lib) link actions).1
      (events ++ (run (Link.step lib) link actions).2) :=
  hfits.trace_invariant (I := Unlost lib router) (fun _ _ _ h hfits => h.step hrouter hfits) h

end

variable (lib) in
theorem unlost_start {profile : TransportProfile} (h : FramesFit profile) (client : τ) (world : σ)
    (router : BusinessRouter σ) (eventHandler : Option (EventHandler σ))
    (streamHandler : Option (StreamHandler σ)) :
    Unlost lib router (start profile client world router eventHandler streamHandler) [] :=
  ⟨sound_start lib h client world router eventHandler streamHandler,
    fun _ hid => absurd hid (Finset.notMem_empty _)⟩

/-- **No call is lost.** In every run of a link whose server does not throw while it dispatches, a
call that is still pending at the client is on its way to the server, in one of the server's queues
or on its way back. -/
theorem pending_calls_in_flight (lib : JsonLibrary) {profile : TransportProfile}
    (hprofile : FramesFit profile) (client : τ) (world : σ)
    {router : BusinessRouter σ} (hrouter : NeverThrows router)
    (eventHandler : Option (EventHandler σ)) (streamHandler : Option (StreamHandler σ))
    {actions : List (Action σ)}
    (hfits : Along (Link.step lib) Fits
      (start profile client world router eventHandler streamHandler) actions) :
    let link := (run (Link.step lib)
      (start profile client world router eventHandler streamHandler) actions).1
    ∀ id ∈ link.client.core.pendingCalls.pending,
      id ∈ requestsInFlight lib link ∨ id ∈ repliesInFlight lib link :=
  ((unlost_start lib hprofile client world router eventHandler streamHandler).run hrouter
    hfits).inFlight

/-! ### A server that acknowledges -/

/-- The server answers one method, with an empty body. -/
def ackRouter : BusinessRouter Unit :=
  ({ registry := {} } : BusinessRouter Unit).registerRawMethod 0x0101 fun s _ _ => (s, some {})

theorem handler_ackRouter {methodId : UInt32} {handler : RawRpcHandler Unit}
    (h : ackRouter.handlers methodId = some handler) : handler = fun s _ _ => (s, some {}) := by
  by_cases hid : methodId = 0x0101
  · subst hid
    exact (Option.some.inj h).symm
  · simp [ackRouter, registerRawMethod, hid] at h

theorem deferredHandlers_ackRouter (methodId : UInt32) :
    ackRouter.deferredHandlers methodId = none := by
  by_cases hid : methodId = 0x0101 <;> simp [ackRouter, registerRawMethod, hid]

/-- What the server answers at once, with an empty body. -/
theorem dispatch_ackRouter (s : Unit) (rpc : RpcPayload) :
    ∃ response, ackRouter.dispatchRpcRequest s rpc =
      (s, some { response, deferredPoll := none }) ∧ response.body = [] := by
  have hdispatched := dispatched ackRouter s rpc
  generalize hdispatch : ackRouter.dispatchRpcRequest s rpc = result at hdispatched
  cases hdispatched with
  | unregistered => exact ⟨_, rfl, rfl⟩
  | validatorThrew hregistered hvalidate => cases congrArg Prod.snd hvalidate
  | rejected => exact ⟨_, rfl, rfl⟩
  | handlerThrew hhandler hvalidate hthrew =>
    rw [handler_ackRouter hhandler] at hthrew
    cases congrArg Prod.snd hthrew
  | answered hhandler hvalidate hanswered =>
    rw [handler_ackRouter hhandler] at hanswered
    obtain rfl := Option.some.inj (congrArg Prod.snd hanswered)
    exact ⟨_, rfl, rfl⟩
  | deferred hhandler hdeferred => rw [deferredHandlers_ackRouter] at hdeferred; cases hdeferred
  | deferralFailed hhandler hdeferred =>
    rw [deferredHandlers_ackRouter] at hdeferred
    cases hdeferred

theorem neverThrows_ackRouter : NeverThrows ackRouter := by
  intro s rpc hnone
  obtain ⟨response, hdispatch, -⟩ := dispatch_ackRouter s rpc
  rw [hdispatch] at hnone
  cases hnone

/-- A call of which the server has half the bytes. -/
def halfCall : List (Action Unit) :=
  [.call { requestId := 1, methodOrEventId := 0x0101 }, .deliverToServer 9 fun _ => {}]

theorem pending_calls_in_flight_halfCall :
    let link := (run (Link.step noJson) (start {} () () ackRouter none none) halfCall).1
    1 ∈ link.client.core.pendingCalls.pending ∧
      ∀ id ∈ link.client.core.pendingCalls.pending,
        id ∈ requestsInFlight noJson link ∨ id ∈ repliesInFlight noJson link :=
  ⟨by decide +kernel, pending_calls_in_flight noJson ⟨by decide, by decide, by decide⟩ () ()
    neverThrows_ackRouter none none (by decide +kernel)⟩

end Link

end Axtp
