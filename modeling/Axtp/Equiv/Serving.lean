/-
  The replies that a router can give.

  `Replies` lists where a reply to a request comes from: the dispatch itself, or a
  later poll of what the dispatch deferred. A broker that is handed requests of which
  `T` holds queues nothing but replies to them (`Serving.poll`), however it is polled
  and whatever the handlers do meanwhile to the state they share.
-/
import Axtp.Equiv.BasicBroker

namespace Axtp

namespace BusinessRouter

variable {σ : Type*}

/-- The router, or a poll that it has handed out for the request, can give this response. -/
inductive Replies (router : BusinessRouter σ) (request : RpcPayload) : RpcPayload → Prop
  | dispatched {s s' : σ} {response : RpcPayload}
      (hdispatch : router.dispatchRpcRequest s request =
        (s', some { response, deferredPoll := none })) :
      Replies router request response
  | completed {s s' t t' : σ} {response : RpcPayload} {poll : DeferredRpcPoll σ}
      {data : RpcResponseData}
      (hdispatch : router.dispatchRpcRequest s request =
        (s', some { response, deferredPoll := some poll }))
      (hpoll : poll t = (t', some (some data))) :
      Replies router request (applyResponseData response data)
  | pollThrew {s s' t t' : σ} {response : RpcPayload} {poll : DeferredRpcPoll σ}
      (hdispatch : router.dispatchRpcRequest s request =
        (s', some { response, deferredPoll := some poll }))
      (hpoll : poll t = (t', none)) :
      Replies router request { response with statusCode := ErrorCode.internalError }

theorem Replies.answers {router : BusinessRouter σ} {request response : RpcPayload}
    (h : Replies router request response) : Answers request response := by
  cases h with
  | dispatched hdispatch => exact answers_of_dispatch hdispatch
  | completed hdispatch hpoll => exact (answers_of_dispatch hdispatch).applyResponseData _
  | pollThrew hdispatch hpoll => exact (answers_of_dispatch hdispatch).withStatus _

end BusinessRouter

namespace BasicBroker

open BusinessRouter

variable {σ : Type*} {T : RpcPayload → Prop} {router : BusinessRouter σ} {broker : BasicBroker σ}

/-- The completion was deferred by a dispatch of the request. -/
def DeferredFor (router : BusinessRouter σ) (request : RpcPayload) (c : PendingCompletion σ) :
    Prop :=
  ∃ s s', router.dispatchRpcRequest s request =
    (s', some { response := c.response, deferredPoll := some c.poll })

/-- The response is a reply to a request of which `T` holds. -/
def IsReplyTo (T : RpcPayload → Prop) (router : BusinessRouter σ) (response : RpcPayload) : Prop :=
  ∃ request, T request ∧ Replies router request response

/-- Every element of the queues is, or replies to, a request of which `T` holds. -/
structure Serving (T : RpcPayload → Prop) (router : BusinessRouter σ) (broker : BasicBroker σ) :
    Prop where
  routed : broker.router = router
  tasks : ∀ task ∈ broker.tasks, ∀ context rpc, task.value = .rpcRequest context rpc → T rpc
  completions : ∀ c ∈ broker.pendingCompletions, ∃ request, T request ∧
    DeferredFor router request c.value
  results : ∀ result ∈ broker.results, ∃ response,
    result.value = rpcResult response ∧ IsReplyTo T router response

theorem IsReplyTo.mono {T' : RpcPayload → Prop} {response : RpcPayload}
    (h : IsReplyTo T router response) (hT : ∀ rpc, T rpc → T' rpc) :
    IsReplyTo T' router response := by
  obtain ⟨request, hrequest, hreplies⟩ := h
  exact ⟨request, hT request hrequest, hreplies⟩

theorem Serving.mono {T' : RpcPayload → Prop} (h : Serving T router broker)
    (hT : ∀ rpc, T rpc → T' rpc) : Serving T' router broker where
  routed := h.routed
  tasks task hmem context rpc htask := hT rpc (h.tasks task hmem context rpc htask)
  completions c hmem := by
    obtain ⟨request, hrequest, hdeferred⟩ := h.completions c hmem
    exact ⟨request, hT request hrequest, hdeferred⟩
  results result hmem := by
    obtain ⟨response, hvalue, hreply⟩ := h.results result hmem
    exact ⟨response, hvalue, hreply.mono hT⟩

theorem Serving.submit (h : Serving T router broker) {task : Tagged BrokerTask}
    (htask : ∀ context rpc, task.value = .rpcRequest context rpc → T rpc) :
    Serving T router (broker.submit task) where
  routed := h.routed
  tasks task' hmem := by
    rcases List.mem_append.mp hmem with hmem | hmem
    · exact h.tasks task' hmem
    · rw [List.mem_singleton.mp hmem]
      exact htask
  completions := h.completions
  results := h.results

theorem Serving.enqueueRpcResult (h : Serving T router broker) {response : Tagged RpcPayload}
    (hresponse : IsReplyTo T router response.value) :
    Serving T router (broker.enqueueRpcResult response) where
  routed := h.routed
  tasks := h.tasks
  completions := h.completions
  results result hmem := by
    rcases List.mem_append.mp hmem with hmem | hmem
    · exact h.results result hmem
    · rw [List.mem_singleton.mp hmem]
      exact ⟨response.value, rfl, hresponse⟩

/-! ### Polling -/

theorem pollPendingCompletions_eq (broker : BasicBroker σ) (s : σ) :
    broker.pollPendingCompletions s =
      ({ broker with
          pendingCompletions := (pollCompletions broker.pendingCompletions s).1
          results := broker.results ++ (pollCompletions broker.pendingCompletions s).2.1.map
            fun response => { value := rpcResult response.value, origin := response.origin } },
        (pollCompletions broker.pendingCompletions s).2.2) := by
  simp only [pollPendingCompletions, foldl_enqueueRpcResult]

/-- What the loop over the completions does to each: it stays, or it gives its reply. -/
theorem replies_of_pollCompletions {pending : List (Tagged (PendingCompletion σ))} (s : σ)
    (h : ∀ c ∈ pending, ∃ request, T request ∧ DeferredFor router request c.value) :
    (∀ c ∈ (pollCompletions pending s).1, c ∈ pending) ∧
      ∀ response ∈ (pollCompletions pending s).2.1, IsReplyTo T router response.value := by
  refine ⟨fun c hc => ((pollCompletions_spec pending s).1 c hc).1, ?_⟩
  induction pending generalizing s with
  | nil => simp [pollCompletions]
  | cons c rest ih =>
    obtain ⟨request, hrequest, t, t', hdispatch⟩ := h c (List.mem_cons_self ..)
    have hrest := fun s' => ih s' fun c' hc' => h c' (List.mem_cons_of_mem _ hc')
    rw [pollCompletions]
    rcases hpoll : c.value.poll s with ⟨s', _ | _ | data⟩
    · intro response hresponse
      rcases List.mem_cons.mp hresponse with rfl | hresponse
      · exact ⟨request, hrequest, .pollThrew hdispatch hpoll⟩
      · exact hrest s' response hresponse
    · exact hrest s'
    · intro response hresponse
      rcases List.mem_cons.mp hresponse with rfl | hresponse
      · exact ⟨request, hrequest, .completed hdispatch hpoll⟩
      · exact hrest s' response hresponse

theorem Serving.runTask (h : Serving T router broker) (s : σ) {task : Tagged BrokerTask}
    (htask : ∀ context rpc, task.value = .rpcRequest context rpc → T rpc) :
    Serving T router (broker.runTask s task).1 := by
  have hran := ran broker s task
  generalize broker.runTask s task = result at hran
  cases hran with
  | threw => exact h
  | other => exact h
  | answered hvalue hdispatch =>
    rw [h.routed] at hdispatch
    exact h.enqueueRpcResult ⟨_, htask _ _ hvalue, .dispatched hdispatch⟩
  | deferred hvalue hdispatch =>
    rw [h.routed] at hdispatch
    refine ⟨h.routed, h.tasks, fun c hmem => ?_, h.results⟩
    rcases List.mem_append.mp hmem with hmem | hmem
    · exact h.completions c hmem
    · rw [List.mem_singleton.mp hmem]
      exact ⟨_, htask _ _ hvalue, s, _, hdispatch⟩

theorem Serving.runTasks (h : Serving T router broker) (maxTasks : ℕ) (s : σ) :
    Serving T router (runTasks maxTasks broker s).1 := by
  induction maxTasks generalizing broker s with
  | zero => exact h
  | succ maxTasks ih =>
    rcases htasks : broker.tasks with _ | ⟨task, tasks⟩
    · rw [runTasks_of_nil htasks]
      exact h
    · have hrest : Serving T router { broker with tasks } :=
        ⟨h.routed, fun t ht => h.tasks t (htasks ▸ List.mem_cons_of_mem _ ht), h.completions,
          h.results⟩
      have htask := hrest.runTask s (h.tasks task (htasks ▸ List.mem_cons_self ..))
      rw [runTasks_of_cons htasks]
      rcases hresult :
        BasicBroker.runTask { broker with tasks } s task with ⟨broker', s', _ | _⟩ <;>
        rw [hresult] at htask
      · exact ih htask s'
      · exact htask

/-- **Polling serves**: whatever was submitted, the broker queues replies to it only. -/
theorem Serving.poll (h : Serving T router broker) (s : σ) (maxTasks : ℕ) :
    Serving T router (broker.poll s maxTasks).1 := by
  obtain ⟨hkept, hdone⟩ := replies_of_pollCompletions s h.completions
  have hpolled : Serving T router (broker.pollPendingCompletions s).1 := by
    rw [pollPendingCompletions_eq]
    refine ⟨h.routed, h.tasks, fun c hc => h.completions c (hkept c hc), fun result hresult => ?_⟩
    rcases List.mem_append.mp hresult with hresult | hresult
    · exact h.results result hresult
    · obtain ⟨response, hresponse, rfl⟩ := List.mem_map.mp hresult
      exact ⟨response.value, rfl, hdone response hresponse⟩
  exact hpolled.runTasks maxTasks _

end BasicBroker

end Axtp
