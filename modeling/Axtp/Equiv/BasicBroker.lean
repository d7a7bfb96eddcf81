/-
  What waits in a broker.

  `Answering T` says of every element of the broker's three queues that it is, or
  answers, a request of which `T` holds, under the same origin; polling keeps it
  (`Answering.poll`).
-/
import Axtp.Equiv.BusinessRouter
import Axtp.Runtime.BasicBroker

namespace Axtp

namespace BasicBroker

open BusinessRouter

variable {σ : Type*} {T : Option Ingress → RpcPayload → Prop} {broker : BasicBroker σ}

/-! ### Tasks -/

/-- The ways a task can end. -/
inductive Ran (broker : BasicBroker σ) (s : σ) (task : Tagged BrokerTask) :
    BasicBroker σ × σ × Exit → Prop
  | threw {context : BrokerContext} {rpc : RpcPayload} {s' : σ}
      (htask : task.value = .rpcRequest context rpc)
      (hdispatch : broker.router.dispatchRpcRequest s rpc = (s', none)) :
      Ran broker s task (broker, s', .threw)
  | deferred {context : BrokerContext} {rpc : RpcPayload} {s' : σ} {response : RpcPayload}
      {poll : DeferredRpcPoll σ} (htask : task.value = .rpcRequest context rpc)
      (hdispatch : broker.router.dispatchRpcRequest s rpc =
        (s', some { response, deferredPoll := some poll })) :
      Ran broker s task
        ({ broker with
            pendingCompletions := broker.pendingCompletions ++
              [{ value := { response, poll }, origin := task.origin }] }, s', .returned)
  | answered {context : BrokerContext} {rpc : RpcPayload} {s' : σ} {response : RpcPayload}
      (htask : task.value = .rpcRequest context rpc)
      (hdispatch : broker.router.dispatchRpcRequest s rpc =
        (s', some { response, deferredPoll := none })) :
      Ran broker s task
        (broker.enqueueRpcResult { value := response, origin := task.origin }, s', .returned)
  | other {s' : σ} {exit : Exit} (htask : ∀ context rpc, task.value ≠ .rpcRequest context rpc) :
      Ran broker s task (broker, s', exit)

theorem ran (broker : BasicBroker σ) (s : σ) (task : Tagged BrokerTask) :
    Ran broker s task (broker.runTask s task) := by
  have hstream (context : BrokerContext) (stream : StreamPayload)
      (htask : ∀ context rpc, task.value ≠ .rpcRequest context rpc) :
      Ran broker s task (broker.runStreamHandler s context stream) := by
    unfold runStreamHandler
    rcases broker.streamHandler with _ | handler <;> exact .other htask
  unfold runTask
  cases htask : task.value with
  | rpcRequest context rpc =>
    simp only [BusinessExecutor.executeRpcRequest]
    rcases hdispatch : broker.router.dispatchRpcRequest s rpc with ⟨s', _ | ⟨response, _ | poll⟩⟩
    · exact .threw htask hdispatch
    · exact .answered htask hdispatch
    · exact .deferred htask hdispatch
  | rpcEvent context rpc =>
    rcases broker.eventHandler with _ | handler <;> exact .other (by simp [htask])
  | streamOpen context stream => exact .other (by simp [htask])
  | streamData context stream => exact hstream context stream (by simp [htask])
  | streamClose context stream => exact hstream context stream (by simp [htask])
  | controlNotice context control => exact .other (by simp [htask])

theorem runTasks_of_nil {maxTasks : ℕ} {s : σ} (h : broker.tasks = []) :
    runTasks maxTasks broker s = (broker, s, .returned) := by
  cases maxTasks with
  | zero => rfl
  | succ maxTasks => rw [runTasks, h]

theorem runTasks_of_cons {maxTasks : ℕ} {s : σ} {task : Tagged BrokerTask}
    {tasks : List (Tagged BrokerTask)} (h : broker.tasks = task :: tasks) :
    runTasks (maxTasks + 1) broker s =
      match runTask { broker with tasks } s task with
      | (broker, s, .returned) => runTasks maxTasks broker s
      | (broker, s, .threw) => (broker, s, .threw) := by
  rcases hresult : runTask { broker with tasks } s task with ⟨broker', s', _ | _⟩ <;>
    simp only [runTasks, h, hresult]

/-! ### Pending completions -/

/-- The status of a response decides the kind of its result only. -/
theorem rpc_rpcResult (response : RpcPayload) : (rpcResult response).rpc = response := by
  unfold rpcResult
  split_ifs <;> rfl

theorem foldl_enqueueRpcResult (broker : BasicBroker σ) (done : List (Tagged RpcPayload)) :
    done.foldl enqueueRpcResult broker =
      { broker with
        results := broker.results ++ done.map fun response =>
          { value := rpcResult response.value, origin := response.origin } } := by
  induction done generalizing broker with
  | nil => simp
  | cons response done ih =>
    rw [List.foldl_cons, ih, enqueueRpcResult]
    simp only [List.map_cons, List.append_assoc, List.singleton_append]

/-- The response that a completion has when it is done. -/
inductive Completes (pending : Tagged (PendingCompletion σ)) : Tagged RpcPayload → Prop
  | data (data : RpcResponseData) :
      Completes pending { value := applyResponseData pending.value.response data
                          origin := pending.origin }
  | threw :
      Completes pending
        { value := { pending.value.response with statusCode := ErrorCode.internalError }
          origin := pending.origin }

/-- Every completion stays pending, if it is not ready, or is done. -/
theorem pollCompletions_spec (pending : List (Tagged (PendingCompletion σ))) (s : σ) :
    (∀ c ∈ (pollCompletions pending s).1,
      c ∈ pending ∧ ∃ s', (c.value.poll s').2 = some none) ∧
      ∀ response ∈ (pollCompletions pending s).2.1, ∃ c ∈ pending, Completes c response := by
  induction pending generalizing s with
  | nil => simp [pollCompletions]
  | cons c rest ih =>
    have hkeep {s' : σ} {c' : Tagged (PendingCompletion σ)}
        (hc' : c' ∈ (pollCompletions rest s').1) :
        c' ∈ c :: rest ∧ ∃ s', (c'.value.poll s').2 = some none :=
      ⟨List.mem_cons_of_mem _ ((ih s').1 c' hc').1, ((ih s').1 c' hc').2⟩
    rw [pollCompletions]
    -- a poll that throws or gives a value is answered, one that gives nothing stays
    rcases hpoll : c.value.poll s with ⟨s', _ | _ | data⟩
    · obtain ⟨-, hdone⟩ := ih s'
      refine ⟨fun c' hc' => hkeep hc', fun response hresponse => ?_⟩
      rcases List.mem_cons.mp hresponse with rfl | hresponse
      · exact ⟨c, List.mem_cons_self .., .threw⟩
      · obtain ⟨c', hc', hcompletes⟩ := hdone response hresponse
        exact ⟨c', List.mem_cons_of_mem _ hc', hcompletes⟩
    · obtain ⟨-, hdone⟩ := ih s'
      refine ⟨fun c' hc' => ?_, fun response hresponse => ?_⟩
      · rcases List.mem_cons.mp hc' with rfl | hc'
        · exact ⟨List.mem_cons_self .., s, by rw [hpoll]⟩
        · exact hkeep hc'
      · obtain ⟨c', hc', hcompletes⟩ := hdone response hresponse
        exact ⟨c', List.mem_cons_of_mem _ hc', hcompletes⟩
    · obtain ⟨-, hdone⟩ := ih s'
      refine ⟨fun c' hc' => hkeep hc', fun response hresponse => ?_⟩
      rcases List.mem_cons.mp hresponse with rfl | hresponse
      · exact ⟨c, List.mem_cons_self .., .data data⟩
      · obtain ⟨c', hc', hcompletes⟩ := hdone response hresponse
        exact ⟨c', List.mem_cons_of_mem _ hc', hcompletes⟩

/-! ### Answering -/

/-- The response answers a request of which `T` holds under this origin. -/
def AnswersSome (T : Option Ingress → RpcPayload → Prop) (origin : Option Ingress)
    (response : RpcPayload) : Prop :=
  ∃ request, T origin request ∧ Answers request response

/-- Every element of the queues is, or answers, a request of which `T` holds. -/
structure Answering (T : Option Ingress → RpcPayload → Prop) (broker : BasicBroker σ) : Prop where
  tasks : ∀ task ∈ broker.tasks, ∀ context rpc, task.value = .rpcRequest context rpc →
    T task.origin rpc
  completions : ∀ c ∈ broker.pendingCompletions, AnswersSome T c.origin c.value.response
  results : ∀ result ∈ broker.results,
    ∃ response, result.value = rpcResult response ∧ AnswersSome T result.origin response

theorem AnswersSome.mono {T' : Option Ingress → RpcPayload → Prop} {origin : Option Ingress}
    {response : RpcPayload} (h : AnswersSome T origin response)
    (hT : ∀ origin rpc, T origin rpc → T' origin rpc) : AnswersSome T' origin response := by
  obtain ⟨request, hrequest, hanswers⟩ := h
  exact ⟨request, hT _ _ hrequest, hanswers⟩

theorem Answering.mono {T' : Option Ingress → RpcPayload → Prop} (h : Answering T broker)
    (hT : ∀ origin rpc, T origin rpc → T' origin rpc) : Answering T' broker where
  tasks task hmem context rpc htask := hT _ _ (h.tasks task hmem context rpc htask)
  completions c hmem := (h.completions c hmem).mono hT
  results result hmem := by
    obtain ⟨response, hvalue, hresponse⟩ := h.results result hmem
    exact ⟨response, hvalue, hresponse.mono hT⟩

theorem Answering.submit (h : Answering T broker) {task : Tagged BrokerTask}
    (htask : ∀ context rpc, task.value = .rpcRequest context rpc → T task.origin rpc) :
    Answering T (broker.submit task) where
  tasks task' hmem := by
    rcases List.mem_append.mp hmem with hmem | hmem
    · exact h.tasks task' hmem
    · rw [List.mem_singleton.mp hmem]
      exact htask
  completions := h.completions
  results := h.results

theorem Answering.enqueueRpcResult (h : Answering T broker) {response : Tagged RpcPayload}
    (hresponse : AnswersSome T response.origin response.value) :
    Answering T (broker.enqueueRpcResult response) where
  tasks := h.tasks
  completions := h.completions
  results result hmem := by
    rcases List.mem_append.mp hmem with hmem | hmem
    · exact h.results result hmem
    · rw [List.mem_singleton.mp hmem]
      exact ⟨response.value, rfl, hresponse⟩

theorem Answering.runTask (h : Answering T broker) (s : σ) {task : Tagged BrokerTask}
    (htask : ∀ context rpc, task.value = .rpcRequest context rpc → T task.origin rpc) :
    Answering T (broker.runTask s task).1 := by
  have hran := ran broker s task
  generalize broker.runTask s task = result at hran
  cases hran with
  | threw => exact h
  | other => exact h
  | answered hvalue hdispatch =>
    exact h.enqueueRpcResult ⟨_, htask _ _ hvalue, answers_of_dispatch hdispatch⟩
  | deferred hvalue hdispatch =>
    refine ⟨h.tasks, fun c hmem => ?_, h.results⟩
    rcases List.mem_append.mp hmem with hmem | hmem
    · exact h.completions c hmem
    · rw [List.mem_singleton.mp hmem]
      exact ⟨_, htask _ _ hvalue, answers_of_dispatch hdispatch⟩

theorem Answering.runTasks (h : Answering T broker) (maxTasks : ℕ) (s : σ) :
    Answering T (runTasks maxTasks broker s).1 := by
  induction maxTasks generalizing broker s with
  | zero => exact h
  | succ maxTasks ih =>
    rcases htasks : broker.tasks with _ | ⟨task, tasks⟩
    · rw [runTasks_of_nil htasks]
      exact h
    · have hrest : Answering T { broker with tasks } :=
        ⟨fun t ht => h.tasks t (htasks ▸ List.mem_cons_of_mem _ ht), h.completions, h.results⟩
      have htask := hrest.runTask s (h.tasks task (htasks ▸ List.mem_cons_self ..))
      rw [runTasks_of_cons htasks]
      rcases hresult :
        BasicBroker.runTask { broker with tasks } s task with ⟨broker', s', _ | _⟩ <;>
        rw [hresult] at htask
      · exact ih htask s'
      · exact htask

theorem Answering.pollPendingCompletions (h : Answering T broker) (s : σ) :
    Answering T (broker.pollPendingCompletions s).1 := by
  obtain ⟨hkept, hdone⟩ := pollCompletions_spec broker.pendingCompletions s
  simp only [BasicBroker.pollPendingCompletions, foldl_enqueueRpcResult]
  refine ⟨h.tasks, fun c hc => h.completions c (hkept c hc).1, fun result hresult => ?_⟩
  rcases List.mem_append.mp hresult with hresult | hresult
  · exact h.results result hresult
  · obtain ⟨response, hresponse, rfl⟩ := List.mem_map.mp hresult
    obtain ⟨c, hc, hcompletes⟩ := hdone response hresponse
    obtain ⟨request, hrequest, hanswers⟩ := h.completions c hc
    refine ⟨response.value, rfl, request, ?_, ?_⟩
    · cases hcompletes <;> exact hrequest
    · cases hcompletes with
      | data data => exact hanswers.applyResponseData data
      | threw => exact hanswers.withStatus _

/-- Polling makes answers to requests only of what is there. -/
theorem Answering.poll (h : Answering T broker) (s : σ) (maxTasks : ℕ) :
    Answering T (broker.poll s maxTasks).1 :=
  (h.pollPendingCompletions s).runTasks maxTasks _

end BasicBroker

end Axtp
