/-
  The endpoint: how its calls are made of steps.
-/
import Axtp.Runtime.AxtpEndpoint

namespace Axtp

namespace AxtpEndpoint

open Run

variable {σ : Type*} {lib : JsonLibrary} {endpoint : AxtpEndpoint σ} {payload : RpcPayload}

/-! ### Sending a request -/

/-- The endpoint once it expects the response. -/
def expecting (endpoint : AxtpEndpoint σ) (requestId : UInt32) : AxtpEndpoint σ :=
  { endpoint with
    core := { endpoint.core with
      pendingCalls := (endpoint.core.pendingCalls.expect requestId).1 } }

theorem sendRpcRequest_of_refused
    (h : (endpoint.core.pendingCalls.expect payload.requestId).2 = false) :
    endpoint.sendRpcRequest lib payload = (endpoint, [], .returned, false) := by
  simp only [sendRpcRequest, h]
  rfl

theorem sendRpcRequest_eq (h : (endpoint.core.pendingCalls.expect payload.requestId).2 = true) :
    endpoint.sendRpcRequest lib payload =
      match (endpoint.expecting payload.requestId).afterSend
          ((endpoint.expecting payload.requestId).core.sendRpcRequest lib payload) with
      | (endpoint, effects, .threw) => (endpoint, effects, .threw, false)
      | (endpoint, effects, .returned) =>
        (endpoint, .request payload :: effects, .returned, true) := by
  simp only [sendRpcRequest, h]
  rfl

variable (lib) in
/-- An accepted request is expected, sent, and counted as written unless the send threw. -/
theorem sendRpcRequest_of_accepted
    (h : (endpoint.core.pendingCalls.expect payload.requestId).2 = true) :
    let expected := endpoint.expecting payload.requestId
    let sent := expected.afterSend (expected.core.sendRpcRequest lib payload)
    (endpoint.sendRpcRequest lib payload).1 = sent.1 ∧
      ((endpoint.sendRpcRequest lib payload).2.1 = sent.2.1 ∨
        (endpoint.sendRpcRequest lib payload).2.1 = .request payload :: sent.2.1) := by
  rw [sendRpcRequest_eq h]
  dsimp only
  rcases (endpoint.expecting payload.requestId).afterSend
    ((endpoint.expecting payload.requestId).core.sendRpcRequest lib payload)
    with ⟨endpoint', effects, _ | _⟩
  · exact ⟨rfl, .inr rfl⟩
  · exact ⟨rfl, .inl rfl⟩

/-! ### Progress -/

variable (lib) in
/-- Draining the broker's results is a number of turns. -/
theorem drainBrokerResults_eq_run (turns : ℕ) (endpoint : AxtpEndpoint σ) :
    ∃ n ≤ turns, run (step lib) endpoint (List.replicate n .handleBrokerResult) =
      ((drainBrokerResults lib turns endpoint).1, []) := by
  induction turns generalizing endpoint with
  | zero => exact ⟨0, le_rfl, rfl⟩
  | succ turns ih =>
    rcases hturn : endpoint.handleBrokerResult lib with ⟨endpoint', _ | _⟩
    · obtain ⟨n, hn, hrun⟩ := ih endpoint'
      refine ⟨n + 1, by omega, ?_⟩
      have hstep : step lib endpoint .handleBrokerResult = (endpoint', []) := by
        rw [step, hturn]
      rw [List.replicate_succ, run_cons, hstep, hrun, drainBrokerResults, hturn]
      rfl
    · refine ⟨1, by omega, ?_⟩
      have hstep : step lib endpoint .handleBrokerResult = (endpoint', []) := by
        rw [step, hturn]
      rw [List.replicate_one, run_singleton, hstep, drainBrokerResults, hturn]

/-- The steps that `progress` is made of. -/
def IsProgress (maxTasks : ℕ) : Action σ → Prop
  | .drainCoreEvents => True
  | .pollBroker n => n = maxTasks
  | .handleBrokerResult => True
  | .flushOutbound => True
  | _ => False

/-- `progress` is a run of its steps. -/
theorem progress_eq_run (lib : JsonLibrary) (endpoint : AxtpEndpoint σ) (maxTasks : ℕ) :
    ∃ actions : List (Action σ), (∀ action ∈ actions, IsProgress maxTasks action) ∧
      run (step lib) endpoint actions =
        ((endpoint.progress lib maxTasks).1, (endpoint.progress lib maxTasks).2.1) := by
  unfold progress
  rcases hpoll : endpoint.drainCoreEvents.pollBroker maxTasks with ⟨polled, _ | _⟩
  · obtain ⟨n, -, hdrain⟩ := drainBrokerResults_eq_run lib polled.broker.results.length polled
    have hpolled : step lib endpoint.drainCoreEvents (.pollBroker maxTasks) = (polled, []) := by
      rw [step, hpoll]
    simp only
    -- the outbound queue is flushed only if every result was handled
    rcases hdrained : drainBrokerResults lib polled.broker.results.length polled with
      ⟨drained, _ | _⟩ <;> rw [hdrained] at hdrain
    · refine ⟨.drainCoreEvents :: .pollBroker maxTasks ::
        (List.replicate n .handleBrokerResult ++ [.flushOutbound]), ?_, ?_⟩
      · intro action haction
        simp only [List.mem_cons, List.mem_append, List.mem_replicate, List.not_mem_nil,
          or_false] at haction
        rcases haction with rfl | rfl | ⟨-, rfl⟩ | rfl <;> simp [IsProgress]
      · rw [run_cons, step, run_cons, hpolled, run_append, hdrain, run_singleton, step]
        simp
    · refine ⟨.drainCoreEvents :: .pollBroker maxTasks :: List.replicate n .handleBrokerResult,
        ?_, ?_⟩
      · intro action haction
        simp only [List.mem_cons, List.mem_replicate] at haction
        rcases haction with rfl | rfl | ⟨-, rfl⟩ <;> simp [IsProgress]
      · rw [run_cons, step, run_cons, hpolled, hdrain]
        rfl
  · -- a poll that throws ends the round
    refine ⟨[.drainCoreEvents, .pollBroker maxTasks], by simp [IsProgress], ?_⟩
    rw [run_cons, step, run_singleton, step, hpoll]
    rfl

end AxtpEndpoint

end Axtp
