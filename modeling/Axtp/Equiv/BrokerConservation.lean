/-
  Every request submitted to a broker is answered once.

  Each task is submitted under its own number, and a history keeps which tasks were run and
  how that ended, and what every deferred poll gave. The tasks that were run and those in
  the queue are the submitted ones, in order; of the requests among them, those that were
  deferred are pending or their poll has come to an end, and those that returned or whose
  poll has come to an end have a result (`Accounted.after`). So every request that has come
  to an end has exactly one result if and only if no dispatch threw
  (`conserved_and_answeredOnce_iff`).
-/
import Axtp.Equiv.BasicBroker

namespace Axtp

namespace BrokerConservation

open BasicBroker BusinessRouter

variable {σ : Type*}

/-! ### Runs of a broker -/

/-- What happens to a broker: calls of its user, and changes of the application's own state. -/
inductive Call (σ : Type*) where
  | submit (task : BrokerTask)
  | poll (maxTasks : ℕ)
  | pollResult
  | environment (world : σ)

/-- How the run of a task ended: it returned, it left a deferred poll, or it threw. -/
inductive Ended where
  | returned
  | deferred
  | threw
  deriving DecidableEq, Repr

/-- A task that was taken off the queue and run. -/
structure Executed where
  task : Tagged BrokerTask
  ended : Ended

/-- What a deferred poll gave. -/
inductive Polled where
  | nothing
  | value
  | threw
  deriving DecidableEq, Repr

/-- A broker with what was submitted to it and what was taken from it, the tasks that it ran and the
deferred polls that it made. -/
structure History (σ : Type*) where
  broker : BasicBroker σ
  world : σ
  submitted : List BrokerTask := []
  taken : List (Tagged BrokerResult) := []
  executed : List Executed := []
  polls : List (Tagged Polled) := []

/-- The origin of the task that was submitted as number `k`. -/
def numbered (k : ℕ) : Option Ingress := some { label := k }

/-- The tasks that were submitted, each with its number. -/
def numberedTasks (submitted : List BrokerTask) : List (Tagged BrokerTask) :=
  submitted.mapIdx fun k task => { value := task, origin := numbered k }

theorem numbered_injective : Function.Injective numbered := by
  intro j k h
  simpa [numbered] using h

/-- How the run of a task ends. -/
def ended (broker : BasicBroker σ) (s : σ) (task : Tagged BrokerTask) : Ended :=
  match task.value with
  | .rpcRequest _ rpc =>
    match (broker.router.dispatchRpcRequest s rpc).2 with
    | none => .threw
    | some dispatch => if dispatch.deferredPoll.isSome then .deferred else .returned
  | _ =>
    match (broker.runTask s task).2.2 with
    | .returned => .returned
    | .threw => .threw

/-- The tasks that `runTasks` takes off the queue and runs. -/
def executedFrom : ℕ → BasicBroker σ → σ → List Executed
  | 0, _, _ => []
  | maxTasks + 1, broker, s =>
    match broker.tasks with
    | [] => []
    | task :: tasks =>
      { task, ended := ended { broker with tasks } s task } ::
        match runTask { broker with tasks } s task with
        | (broker, s, .returned) => executedFrom maxTasks broker s
        | (_, _, .threw) => []

def polledOf : Option (Option RpcResponseData) → Polled
  | some none => .nothing
  | some (some _) => .value
  | none => .threw

/-- The polls that `pollCompletions` makes, each in the state that the one before it left. -/
def pollsFrom : List (Tagged (PendingCompletion σ)) → σ → List (Tagged Polled)
  | [], _ => []
  | pending :: rest, s =>
    { value := polledOf (pending.value.poll s).2, origin := pending.origin } ::
      pollsFrom rest (pending.value.poll s).1

namespace History

def call (h : History σ) : Call σ → History σ
  | .submit task =>
    { h with
      broker := h.broker.submit { value := task, origin := numbered h.submitted.length }
      submitted := h.submitted ++ [task] }
  | .poll maxTasks =>
    { h with
      broker := (h.broker.poll h.world maxTasks).1
      world := (h.broker.poll h.world maxTasks).2.1
      executed := h.executed ++ executedFrom maxTasks (h.broker.pollPendingCompletions h.world).1
        (h.broker.pollPendingCompletions h.world).2
      polls := h.polls ++ pollsFrom h.broker.pendingCompletions h.world }
  | .pollResult =>
    match h.broker.results with
    | [] => h
    | result :: results =>
      { h with broker := { h.broker with results }, taken := h.taken ++ [result] }
  | .environment world => { h with world }

def after (h : History σ) (calls : List (Call σ)) : History σ := calls.foldl call h

/-- The results of a task, those already taken and those still in the queue. -/
def resultsOf (h : History σ) (k : ℕ) : List (Tagged BrokerResult) :=
  (h.taken ++ h.broker.results).filter fun result => result.origin = numbered k

def Queued (h : History σ) (k : ℕ) : Prop := ∃ task ∈ h.broker.tasks, task.origin = numbered k

def Pending (h : History σ) (k : ℕ) : Prop :=
  ∃ c ∈ h.broker.pendingCompletions, c.origin = numbered k

/-- The task has come to an end: it was run and not deferred, or its deferred poll has given a value
or thrown. -/
def Settled (h : History σ) (k : ℕ) : Prop :=
  (∃ execution ∈ h.executed, execution.task.origin = numbered k ∧ execution.ended ≠ .deferred) ∨
    ∃ poll ∈ h.polls, poll.origin = numbered k ∧ poll.value ≠ .nothing

/-- A new broker, set up by its user. -/
def start (router : BusinessRouter σ) (eventHandler : Option (EventHandler σ))
    (streamHandler : Option (StreamHandler σ)) (world : σ) : History σ :=
  { broker := { router, eventHandler, streamHandler }, world }

end History

/-! ### The requests whose dispatch throws -/

/-- The task is a request whose validator or synchronous handler throws. -/
def TaskThrows (router : BusinessRouter σ) (s : σ) (task : BrokerTask) : Prop :=
  match task with
  | .rpcRequest _ rpc => Throws router s rpc
  | _ => False

instance (router : BusinessRouter σ) (s : σ) (task : BrokerTask) :
    Decidable (TaskThrows router s task) := by
  unfold TaskThrows; split <;> infer_instance

/-- Among the first tasks that are run from here, the one that throws so. -/
def thrownFrom : ℕ → BasicBroker σ → σ → List (Tagged BrokerTask)
  | 0, _, _ => []
  | maxTasks + 1, broker, s =>
    match broker.tasks with
    | [] => []
    | task :: tasks =>
      if TaskThrows broker.router s task.value then [task]
      else
        match runTask { broker with tasks } s task with
        | (broker, s, .returned) => thrownFrom maxTasks broker s
        | (_, _, .threw) => []

/-- The requests that throw in a call. -/
def thrownIn (h : History σ) : Call σ → List (Tagged BrokerTask)
  | .poll maxTasks =>
    thrownFrom maxTasks (h.broker.pollPendingCompletions h.world).1
      (h.broker.pollPendingCompletions h.world).2
  | _ => []

/-- The requests that throw in a run. -/
def thrown (h : History σ) : List (Call σ) → List (Tagged BrokerTask)
  | [] => []
  | call :: calls => thrownIn h call ++ thrown (h.call call) calls

/-! ### Counting -/

def isRequest : BrokerTask → Bool
  | .rpcRequest _ _ => true
  | _ => false

/-- How often something has the origin. -/
def countOf {α : Type*} (origin : Option Ingress) (queue : List (Tagged α)) : ℕ :=
  queue.countP fun element => element.origin = origin

/-- How often a request with the origin is queued. -/
def requestsOf (origin : Option Ingress) (tasks : List (Tagged BrokerTask)) : ℕ :=
  countOf origin (tasks.filter fun task => isRequest task.value)

section Counting

variable {α : Type*} {origin : Option Ingress}

@[simp]
theorem countOf_nil : countOf origin ([] : List (Tagged α)) = 0 := rfl

theorem countOf_append (queue queue' : List (Tagged α)) :
    countOf origin (queue ++ queue') = countOf origin queue + countOf origin queue' :=
  List.countP_append

theorem countOf_cons (element : Tagged α) (queue : List (Tagged α)) :
    countOf origin (element :: queue) =
      (decide (element.origin = origin)).toNat + countOf origin queue := by
  by_cases h : element.origin = origin
  · simp [countOf, h, Nat.add_comm]
  · simp [countOf, h]

theorem countOf_map {β : Type*} (f : α → β) (queue : List (Tagged α)) :
    countOf origin (queue.map fun element =>
      { value := f element.value, origin := element.origin }) = countOf origin queue := by
  simp only [countOf, List.countP_map, Function.comp_def]

theorem countOf_pos {queue : List (Tagged α)} :
    0 < countOf origin queue ↔ ∃ element ∈ queue, element.origin = origin := by
  simp only [countOf, List.countP_pos_iff, decide_eq_true_eq]

theorem requestsOf_append (tasks tasks' : List (Tagged BrokerTask)) :
    requestsOf origin (tasks ++ tasks') = requestsOf origin tasks + requestsOf origin tasks' := by
  rw [requestsOf, List.filter_append, countOf_append, requestsOf, requestsOf]

theorem requestsOf_cons (task : Tagged BrokerTask) (tasks : List (Tagged BrokerTask)) :
    requestsOf origin (task :: tasks) = requestsOf origin [task] + requestsOf origin tasks :=
  requestsOf_append [task] tasks

theorem requestsOf_of_request {task : Tagged BrokerTask} (h : isRequest task.value = true) :
    requestsOf origin [task] = (decide (task.origin = origin)).toNat := by
  rw [requestsOf, List.filter_cons, if_pos h, List.filter_nil, countOf_cons, countOf_nil,
    Nat.add_zero]

theorem requestsOf_of_not_request {task : Tagged BrokerTask} (h : isRequest task.value = false) :
    requestsOf origin [task] = 0 := by
  rw [requestsOf, List.filter_cons, if_neg (by simp [h]), List.filter_nil, countOf_nil]

theorem requestsOf_pos {tasks : List (Tagged BrokerTask)} :
    0 < requestsOf origin tasks ↔
      ∃ task ∈ tasks, isRequest task.value = true ∧ task.origin = origin := by
  rw [requestsOf, countOf_pos]
  simp only [List.mem_filter, and_assoc]

end Counting

/-! ### One poll -/

/-- The requests with the origin that were run and ended so. -/
def requestsEnded (origin : Option Ingress) (how : Ended) (executed : List Executed) : ℕ :=
  requestsOf origin ((executed.filter fun execution => execution.ended = how).map Executed.task)

/-- The polls with the origin that gave a value or threw. -/
def finished (origin : Option Ingress) (polls : List (Tagged Polled)) : ℕ :=
  countOf origin (polls.filter fun poll => poll.value ≠ .nothing)

/-- The requests whose dispatch threw. -/
def requestsThrown (executed : List Executed) : List (Tagged BrokerTask) :=
  ((executed.filter fun execution => execution.ended = .threw).map Executed.task).filter fun task =>
    isRequest task.value

variable {broker : BasicBroker σ} {s : σ} {origin : Option Ingress} {how : Ended}

@[simp]
theorem requestsEnded_nil : requestsEnded origin how [] = 0 := rfl

theorem requestsEnded_append (executed executed' : List Executed) :
    requestsEnded origin how (executed ++ executed') =
      requestsEnded origin how executed + requestsEnded origin how executed' := by
  rw [requestsEnded, List.filter_append, List.map_append, requestsOf_append, requestsEnded,
    requestsEnded]

theorem requestsEnded_singleton (execution : Executed) :
    requestsEnded origin how [execution] =
      if execution.ended = how then requestsOf origin [execution.task] else 0 := by
  by_cases h : execution.ended = how
  · simp [requestsEnded, h]
  · simp [requestsEnded, requestsOf, h]

variable (origin how) in
theorem requestsEnded_cons (execution : Executed) (executed : List Executed) :
    requestsEnded origin how (execution :: executed) =
      requestsEnded origin how [execution] + requestsEnded origin how executed :=
  requestsEnded_append [execution] executed

variable (origin) in
/-- A request that was run ended in one way. -/
theorem requestsOf_executed (executed : List Executed) :
    requestsOf origin (executed.map Executed.task) =
      requestsEnded origin .returned executed + requestsEnded origin .deferred executed +
        requestsEnded origin .threw executed := by
  induction executed with
  | nil => rfl
  | cons execution executed ih =>
    rw [List.map_cons, requestsOf_cons, ih, requestsEnded_cons origin .returned,
      requestsEnded_cons origin .deferred, requestsEnded_cons origin .threw,
      requestsEnded_singleton, requestsEnded_singleton, requestsEnded_singleton]
    cases execution.ended <;> simp <;> omega

theorem requestsThrown_append (executed executed' : List Executed) :
    requestsThrown (executed ++ executed') =
      requestsThrown executed ++ requestsThrown executed' := by
  simp only [requestsThrown, List.filter_append, List.map_append]

theorem requestsOf_requestsThrown (executed : List Executed) :
    requestsOf origin (requestsThrown executed) = requestsEnded origin .threw executed := by
  rw [requestsOf, requestsThrown, List.filter_filter]
  simp only [Bool.and_self]
  rfl

theorem requestsEnded_pos {executed : List Executed} :
    0 < requestsEnded origin how executed ↔ ∃ execution ∈ executed,
      execution.ended = how ∧ isRequest execution.task.value = true ∧
        execution.task.origin = origin := by
  rw [requestsEnded, requestsOf_pos]
  simp only [List.mem_map, List.mem_filter, decide_eq_true_eq]
  constructor
  · rintro ⟨task, ⟨execution, ⟨hmem, hhow⟩, rfl⟩, hrequest, horigin⟩
    exact ⟨execution, hmem, hhow, hrequest, horigin⟩
  · rintro ⟨execution, hmem, hhow, hrequest, horigin⟩
    exact ⟨execution.task, ⟨execution, ⟨hmem, hhow⟩, rfl⟩, hrequest, horigin⟩

theorem finished_append (polls polls' : List (Tagged Polled)) :
    finished origin (polls ++ polls') = finished origin polls + finished origin polls' := by
  rw [finished, List.filter_append, countOf_append, finished, finished]

theorem finished_cons (poll : Tagged Polled) (polls : List (Tagged Polled)) :
    finished origin (poll :: polls) =
      (if poll.value = .nothing then 0 else (decide (poll.origin = origin)).toNat) +
        finished origin polls := by
  by_cases h : poll.value = .nothing
  · rw [finished, List.filter_cons_of_neg (by simpa using h), if_pos h, Nat.zero_add, finished]
  · rw [finished, List.filter_cons_of_pos (by simpa using h), if_neg h, countOf_cons, finished]

theorem finished_pos {polls : List (Tagged Polled)} :
    0 < finished origin polls ↔ ∃ poll ∈ polls, poll.origin = origin ∧ poll.value ≠ .nothing := by
  rw [finished, countOf_pos]
  simp only [List.mem_filter, decide_eq_true_eq]
  constructor
  · rintro ⟨poll, ⟨hmem, hvalue⟩, horigin⟩
    exact ⟨poll, hmem, horigin, hvalue⟩
  · rintro ⟨poll, hmem, horigin, hvalue⟩
    exact ⟨poll, ⟨hmem, hvalue⟩, horigin⟩

variable (origin) in
/-- A completion stays pending if its poll gives nothing, and else it is done. -/
theorem countOf_pollCompletions (pending : List (Tagged (PendingCompletion σ))) (s : σ) :
    countOf origin (pollCompletions pending s).1 + finished origin (pollsFrom pending s) =
        countOf origin pending ∧
      countOf origin (pollCompletions pending s).2.1 = finished origin (pollsFrom pending s) := by
  induction pending generalizing s with
  | nil => exact ⟨rfl, rfl⟩
  | cons c rest ih =>
    rw [pollCompletions, pollsFrom, finished_cons]
    rcases c.value.poll s with ⟨s', _ | _ | data⟩ <;> obtain ⟨hkept, hdone⟩ := ih s' <;>
      simp only [polledOf, countOf_cons, reduceCtorEq, if_false, if_true] <;>
      exact ⟨by linarith, by linarith⟩

variable (origin) in
theorem countOf_pollPendingCompletions (broker : BasicBroker σ) (s : σ) :
    countOf origin (broker.pollPendingCompletions s).1.pendingCompletions +
        finished origin (pollsFrom broker.pendingCompletions s) =
        countOf origin broker.pendingCompletions ∧
      countOf origin (broker.pollPendingCompletions s).1.results =
        countOf origin broker.results +
          finished origin (pollsFrom broker.pendingCompletions s) := by
  obtain ⟨hkept, hdone⟩ := countOf_pollCompletions origin broker.pendingCompletions s
  simp only [pollPendingCompletions, foldl_enqueueRpcResult]
  refine ⟨hkept, ?_⟩
  simp only [countOf_append, countOf_map, hdone]

theorem tasks_pollPendingCompletions (broker : BasicBroker σ) (s : σ) :
    (broker.pollPendingCompletions s).1.tasks = broker.tasks := by
  simp only [pollPendingCompletions, foldl_enqueueRpcResult]

/-- A task that is run leaves the queue as it is. -/
theorem tasks_runTask (broker : BasicBroker σ) (s : σ) (task : Tagged BrokerTask) :
    (broker.runTask s task).1.tasks = broker.tasks := by
  have hran := ran broker s task
  generalize broker.runTask s task = result at hran
  cases hran <;> rfl

theorem isRequest_eq_false {task : BrokerTask} (h : ∀ context rpc, task ≠ .rpcRequest context rpc) :
    isRequest task = false := by
  cases task with
  | rpcRequest context rpc => exact absurd rfl (h context rpc)
  | _ => rfl

/-- How the run of a request ends is said by its dispatch. -/
theorem ended_of_request {task : Tagged BrokerTask} {context : BrokerContext} {rpc : RpcPayload}
    (htask : task.value = .rpcRequest context rpc) :
    ended broker s task =
      match (broker.router.dispatchRpcRequest s rpc).2 with
      | none => .threw
      | some dispatch => if dispatch.deferredPoll.isSome then .deferred else .returned := by
  rw [ended, htask]

variable (origin) in
/-- A request that is run is pending if it is deferred and has a result if it returns. -/
theorem countOf_runTask (broker : BasicBroker σ) (s : σ) (task : Tagged BrokerTask) :
    countOf origin (broker.runTask s task).1.pendingCompletions =
        countOf origin broker.pendingCompletions +
          requestsEnded origin .deferred [{ task, ended := ended broker s task }] ∧
      countOf origin (broker.runTask s task).1.results = countOf origin broker.results +
        requestsEnded origin .returned [{ task, ended := ended broker s task }] := by
  have hran := ran broker s task
  rw [requestsEnded_singleton, requestsEnded_singleton]
  generalize broker.runTask s task = result at hran
  cases hran with
  | threw htask hdispatch =>
    rw [ended_of_request htask, hdispatch]
    exact ⟨rfl, rfl⟩
  | deferred htask hdispatch =>
    rw [ended_of_request htask, hdispatch, requestsOf_of_request (by rw [htask]; rfl)]
    exact ⟨by simp [countOf_append, countOf_cons], rfl⟩
  | answered htask hdispatch =>
    rw [ended_of_request htask, hdispatch, requestsOf_of_request (by rw [htask]; rfl)]
    exact ⟨rfl, by simp [enqueueRpcResult, countOf_append, countOf_cons]⟩
  | other htask =>
    rw [requestsOf_of_not_request (isRequest_eq_false htask), ite_self, ite_self]
    exact ⟨rfl, rfl⟩

theorem executedFrom_of_nil {maxTasks : ℕ} (h : broker.tasks = []) :
    executedFrom maxTasks broker s = [] := by
  cases maxTasks with
  | zero => rfl
  | succ maxTasks => rw [executedFrom, h]

theorem executedFrom_of_cons {maxTasks : ℕ} {task : Tagged BrokerTask}
    {tasks : List (Tagged BrokerTask)} (h : broker.tasks = task :: tasks) :
    executedFrom (maxTasks + 1) broker s =
      { task, ended := ended { broker with tasks } s task } ::
        match runTask { broker with tasks } s task with
        | (broker, s, .returned) => executedFrom maxTasks broker s
        | (_, _, .threw) => [] := by
  rw [executedFrom, h]

/-- What a poll runs, it takes from the front of the queue, and the rest stays. -/
theorem executed_append_tasks (maxTasks : ℕ) (broker : BasicBroker σ) (s : σ) :
    (executedFrom maxTasks broker s).map Executed.task ++ (runTasks maxTasks broker s).1.tasks =
      broker.tasks := by
  induction maxTasks generalizing broker s with
  | zero => rfl
  | succ maxTasks ih =>
    rcases htasks : broker.tasks with _ | ⟨task, tasks⟩
    · rw [runTasks_of_nil htasks, executedFrom_of_nil htasks]
      exact htasks
    · have hrest := tasks_runTask { broker with tasks } s task
      rw [runTasks_of_cons htasks, executedFrom_of_cons htasks, List.map_cons, List.cons_append]
      generalize runTask { broker with tasks } s task = result at hrest ⊢
      congr 1
      obtain ⟨broker', s', _ | _⟩ := result
      · exact (ih broker' s').trans hrest
      · exact hrest

variable (origin) in
/-- The requests that a poll runs are pending or have a result, as they ended. -/
theorem countOf_runTasks (maxTasks : ℕ) (broker : BasicBroker σ) (s : σ) :
    countOf origin (runTasks maxTasks broker s).1.pendingCompletions =
        countOf origin broker.pendingCompletions +
          requestsEnded origin .deferred (executedFrom maxTasks broker s) ∧
      countOf origin (runTasks maxTasks broker s).1.results = countOf origin broker.results +
        requestsEnded origin .returned (executedFrom maxTasks broker s) := by
  induction maxTasks generalizing broker s with
  | zero => exact ⟨rfl, rfl⟩
  | succ maxTasks ih =>
    rcases htasks : broker.tasks with _ | ⟨task, tasks⟩
    · rw [runTasks_of_nil htasks, executedFrom_of_nil htasks]
      exact ⟨rfl, rfl⟩
    · obtain ⟨hpending, hresults⟩ := countOf_runTask origin { broker with tasks } s task
      rw [runTasks_of_cons htasks, executedFrom_of_cons htasks,
        requestsEnded_cons origin .deferred, requestsEnded_cons origin .returned]
      generalize runTask { broker with tasks } s task = result at hpending hresults ⊢
      obtain ⟨broker', s', _ | _⟩ := result
      · obtain ⟨hpending', hresults'⟩ := ih broker' s'
        simp only at hpending hresults ⊢
        exact ⟨by omega, by omega⟩
      · simp only [requestsEnded_nil, Nat.add_zero]
        exact ⟨hpending, hresults⟩

/-! ### The requests that throw -/

theorem taskThrows_of_request {router : BusinessRouter σ} {task : BrokerTask}
    {context : BrokerContext} {rpc : RpcPayload} (htask : task = .rpcRequest context rpc) :
    TaskThrows router s task ↔ (router.dispatchRpcRequest s rpc).2 = none := by
  subst htask
  exact dispatchRpcRequest_eq_none_iff.symm

theorem TaskThrows.isRequest {router : BusinessRouter σ} {task : BrokerTask}
    (h : TaskThrows router s task) : isRequest task = true := by
  cases task <;> first | rfl | exact h.elim

theorem taskThrows_iff (broker : BasicBroker σ) (s : σ) (task : Tagged BrokerTask) :
    TaskThrows broker.router s task.value ↔
      isRequest task.value = true ∧ ended broker s task = .threw := by
  by_cases hrequest : isRequest task.value = true
  · obtain ⟨context, rpc, htask⟩ : ∃ context rpc, task.value = .rpcRequest context rpc := by
      cases hvalue : task.value with
      | rpcRequest context rpc => exact ⟨context, rpc, rfl⟩
      | _ => simp [hvalue, BrokerConservation.isRequest] at hrequest
    rw [taskThrows_of_request htask, ended_of_request htask]
    rcases (broker.router.dispatchRpcRequest s rpc).2 with _ | dispatch
    · simp [hrequest]
    · cases hpoll : dispatch.deferredPoll <;> simp [hpoll]
  · exact iff_of_false (fun h => hrequest h.isRequest) fun h => hrequest h.1

/-- A request that throws leaves the poll. -/
theorem exit_runTask_of_throws (broker : BasicBroker σ) (s : σ) (task : Tagged BrokerTask)
    (h : TaskThrows broker.router s task.value) : (broker.runTask s task).2.2 = .threw := by
  have hrequest := h.isRequest
  have hran := ran broker s task
  generalize broker.runTask s task = result at hran
  cases hran with
  | threw => rfl
  | deferred htask hdispatch =>
    simpa [hdispatch] using (taskThrows_of_request htask).mp h
  | answered htask hdispatch =>
    simpa [hdispatch] using (taskThrows_of_request htask).mp h
  | other htask => simp [isRequest_eq_false htask] at hrequest

theorem thrownFrom_of_nil {maxTasks : ℕ} (h : broker.tasks = []) :
    thrownFrom maxTasks broker s = [] := by
  cases maxTasks with
  | zero => rfl
  | succ maxTasks => rw [thrownFrom, h]

theorem thrownFrom_of_cons {maxTasks : ℕ} {task : Tagged BrokerTask}
    {tasks : List (Tagged BrokerTask)} (h : broker.tasks = task :: tasks) :
    thrownFrom (maxTasks + 1) broker s =
      if TaskThrows broker.router s task.value then [task]
      else
        match runTask { broker with tasks } s task with
        | (broker, s, .returned) => thrownFrom maxTasks broker s
        | (_, _, .threw) => [] := by
  rw [thrownFrom, h]

/-- The requests that throw are those whose run ended so. -/
theorem requestsThrown_executedFrom (maxTasks : ℕ) (broker : BasicBroker σ) (s : σ) :
    requestsThrown (executedFrom maxTasks broker s) = thrownFrom maxTasks broker s := by
  induction maxTasks generalizing broker s with
  | zero => rfl
  | succ maxTasks ih =>
    rcases htasks : broker.tasks with _ | ⟨task, tasks⟩
    · rw [thrownFrom_of_nil htasks, executedFrom_of_nil htasks]
      rfl
    · have hiff : TaskThrows broker.router s task.value ↔ isRequest task.value = true ∧
          ended { broker with tasks } s task = .threw :=
        taskThrows_iff { broker with tasks } s task
      have hexit := exit_runTask_of_throws { broker with tasks } s task
      rw [thrownFrom_of_cons htasks, executedFrom_of_cons htasks, ← List.singleton_append,
        requestsThrown_append]
      generalize runTask { broker with tasks } s task = result at hexit ⊢
      by_cases hthrows : TaskThrows broker.router s task.value
      · -- the poll ends here
        obtain ⟨broker', s', exit⟩ := result
        obtain rfl : exit = .threw := hexit hthrows
        obtain ⟨hrequest, hended⟩ := hiff.mp hthrows
        rw [if_pos hthrows]
        simp [requestsThrown, hended, hrequest]
      · have hnone :
            requestsThrown [{ task, ended := ended { broker with tasks } s task }] = [] := by
          rw [hiff, not_and'] at hthrows
          by_cases hended : ended { broker with tasks } s task = .threw
          · simp [requestsThrown, hended, hthrows hended]
          · simp [requestsThrown, hended]
        rw [if_neg hthrows, hnone, List.nil_append]
        obtain ⟨broker', s', _ | _⟩ := result
        · exact ih broker' s'
        · rfl

/-! ### Runs -/

/-- The request that was submitted under a number. -/
def Submitted (submitted : List BrokerTask) (origin : Option Ingress) (rpc : RpcPayload) : Prop :=
  ∃ k context, origin = numbered k ∧ submitted[k]? = some (.rpcRequest context rpc)

theorem Submitted.append {submitted : List BrokerTask} {origin : Option Ingress} {rpc : RpcPayload}
    (h : Submitted submitted origin rpc) (task : BrokerTask) :
    Submitted (submitted ++ [task]) origin rpc := by
  obtain ⟨k, context, horigin, hget⟩ := h
  refine ⟨k, context, horigin, ?_⟩
  rw [List.getElem?_append_left (List.getElem?_eq_some_iff.mp hget).1]
  exact hget

theorem numberedTasks_append (submitted : List BrokerTask) (task : BrokerTask) :
    numberedTasks (submitted ++ [task]) =
      numberedTasks submitted ++ [{ value := task, origin := numbered submitted.length }] :=
  List.mapIdx_concat

theorem requestsOf_numbered (task : BrokerTask) (j k : ℕ) :
    requestsOf (numbered k) [{ value := task, origin := numbered j }] =
      if j = k then (isRequest task).toNat else 0 := by
  have hiff : numbered j = numbered k ↔ j = k := numbered_injective.eq_iff
  cases hrequest : isRequest task
  · rw [requestsOf_of_not_request hrequest]
    split_ifs <;> rfl
  · rw [requestsOf_of_request hrequest]
    by_cases h : j = k <;> simp [hiff, h]

/-- Every number has one task. -/
theorem requestsOf_numberedTasks (submitted : List BrokerTask) (k : ℕ) :
    requestsOf (numbered k) (numberedTasks submitted) = (submitted[k]?.any isRequest).toNat := by
  induction submitted using List.reverseRecOn with
  | nil => rfl
  | append_singleton submitted task ih =>
    rw [numberedTasks_append, requestsOf_append, ih, requestsOf_numbered]
    rcases lt_trichotomy k submitted.length with hlt | rfl | hgt
    · rw [if_neg (by omega), List.getElem?_append_left hlt, Nat.add_zero]
    · rw [if_pos rfl, List.getElem?_eq_none le_rfl, List.getElem?_concat_length]
      simp
    · rw [if_neg (by omega), List.getElem?_eq_none (by omega),
        List.getElem?_eq_none (by simp; omega), Nat.add_zero]

/-- What holds of a history in which the given requests threw. -/
structure Accounted (h : History σ) (threw : List (Tagged BrokerTask)) : Prop where
  /-- The tasks that were run and those in the queue are the submitted ones. -/
  tasks : h.executed.map Executed.task ++ h.broker.tasks = numberedTasks h.submitted
  /-- A request that was deferred is pending, or its poll has come to an end. -/
  deferred : ∀ k, countOf (numbered k) h.broker.pendingCompletions + finished (numbered k) h.polls =
    requestsEnded (numbered k) .deferred h.executed
  /-- A request that returned, or whose poll has come to an end, has a result. -/
  results : ∀ k, countOf (numbered k) h.taken + countOf (numbered k) h.broker.results =
    requestsEnded (numbered k) .returned h.executed + finished (numbered k) h.polls
  threw : threw = requestsThrown h.executed
  broker : Answering (Submitted h.submitted) h.broker
  taken : ∀ result ∈ h.taken, ∃ response,
    result.value = rpcResult response ∧ AnswersSome (Submitted h.submitted) result.origin response

theorem mem_numberedTasks {submitted : List BrokerTask} {task : Tagged BrokerTask}
    (h : task ∈ numberedTasks submitted) :
    ∃ k, task.origin = numbered k ∧ submitted[k]? = some task.value := by
  obtain ⟨k, hk, rfl⟩ := List.mem_mapIdx.mp h
  exact ⟨k, rfl, List.getElem?_eq_getElem hk⟩

variable {h : History σ} {threw : List (Tagged BrokerTask)}

theorem accounted_start (router : BusinessRouter σ) (eventHandler : Option (EventHandler σ))
    (streamHandler : Option (StreamHandler σ)) (world : σ) :
    Accounted (History.start router eventHandler streamHandler world) [] where
  tasks := rfl
  deferred k := rfl
  results k := rfl
  threw := rfl
  broker := ⟨by simp [History.start], by simp [History.start], by simp [History.start]⟩
  taken := by simp [History.start]

theorem Accounted.submit (haccounted : Accounted h threw) (task : BrokerTask) :
    Accounted (h.call (.submit task)) threw where
  tasks := by
    simp only [History.call, BasicBroker.submit, numberedTasks_append, ← haccounted.tasks,
      List.append_assoc]
  deferred := haccounted.deferred
  results := haccounted.results
  threw := haccounted.threw
  broker := (haccounted.broker.mono fun origin rpc hsubmitted => hsubmitted.append task).submit
    fun context rpc htask => ⟨h.submitted.length, context, rfl, by
      rw [← htask]
      exact List.getElem?_concat_length⟩
  taken result hmem := by
    obtain ⟨response, hvalue, hresponse⟩ := haccounted.taken result hmem
    exact ⟨response, hvalue, hresponse.mono fun origin rpc hsubmitted => hsubmitted.append task⟩

theorem Accounted.poll (haccounted : Accounted h threw) (maxTasks : ℕ) :
    Accounted (h.call (.poll maxTasks)) (threw ++ thrownIn h (.poll maxTasks)) where
  tasks := by
    have htasks := executed_append_tasks maxTasks (h.broker.pollPendingCompletions h.world).1
      (h.broker.pollPendingCompletions h.world).2
    rw [tasks_pollPendingCompletions] at htasks
    simp only [History.call, BasicBroker.poll, List.map_append, List.append_assoc]
    rw [htasks]
    exact haccounted.tasks
  deferred k := by
    have hbefore := haccounted.deferred k
    have hpending := (countOf_pollPendingCompletions (numbered k) h.broker h.world).1
    have hran := (countOf_runTasks (numbered k) maxTasks
      (h.broker.pollPendingCompletions h.world).1 (h.broker.pollPendingCompletions h.world).2).1
    simp only [History.call, BasicBroker.poll, requestsEnded_append, finished_append]
    omega
  results k := by
    have hbefore := haccounted.results k
    have hpending := (countOf_pollPendingCompletions (numbered k) h.broker h.world).2
    have hran := (countOf_runTasks (numbered k) maxTasks
      (h.broker.pollPendingCompletions h.world).1 (h.broker.pollPendingCompletions h.world).2).2
    simp only [History.call, BasicBroker.poll, requestsEnded_append, finished_append]
    omega
  threw := by
    simp only [History.call, thrownIn, requestsThrown_append, ← haccounted.threw,
      requestsThrown_executedFrom]
  broker := haccounted.broker.poll h.world maxTasks
  taken := haccounted.taken

theorem Accounted.pollResult (haccounted : Accounted h threw) :
    Accounted (h.call .pollResult) threw := by
  rcases hresults : h.broker.results with _ | ⟨result, results⟩
  · simp only [History.call, hresults]
    exact haccounted
  · simp only [History.call, hresults]
    refine ⟨haccounted.tasks, haccounted.deferred, fun k => ?_, haccounted.threw,
      ⟨haccounted.broker.tasks, haccounted.broker.completions, fun r hr => ?_⟩, fun r hr => ?_⟩
    · have hbefore := haccounted.results k
      simp only [hresults, countOf_append, countOf_cons, countOf_nil] at hbefore ⊢
      omega
    · exact haccounted.broker.results r (hresults ▸ List.mem_cons_of_mem _ hr)
    · rcases List.mem_append.mp hr with hr | hr
      · exact haccounted.taken r hr
      · rw [List.mem_singleton.mp hr]
        exact haccounted.broker.results result (hresults ▸ List.mem_cons_self ..)

theorem Accounted.call (haccounted : Accounted h threw) (call : Call σ) :
    Accounted (h.call call) (threw ++ thrownIn h call) := by
  cases call with
  | submit task => simpa [thrownIn] using haccounted.submit task
  | poll maxTasks => exact haccounted.poll maxTasks
  | pollResult => simpa [thrownIn] using haccounted.pollResult
  | environment world =>
    simp only [thrownIn, List.append_nil]
    exact ⟨haccounted.tasks, haccounted.deferred, haccounted.results, haccounted.threw,
      haccounted.broker, haccounted.taken⟩

/-- After any run. -/
theorem Accounted.after (haccounted : Accounted h threw) (calls : List (Call σ)) :
    Accounted (h.after calls) (threw ++ thrown h calls) := by
  induction calls generalizing h threw with
  | nil =>
    rw [thrown, List.append_nil]
    exact haccounted
  | cons call calls ih =>
    rw [thrown, ← List.append_assoc]
    exact ih (haccounted.call call)

/-! ### One answer each -/

/-- What holds after every run. -/
structure Conserved (h : History σ) : Prop where
  /-- No task has two results. -/
  once : ∀ k, (h.resultsOf k).length ≤ 1
  /-- A result answers the request of its number: the same request id, reply target and reversed
  endpoint. -/
  answers : ∀ k, ∀ result ∈ h.resultsOf k, ∃ context rpc response,
    h.submitted[k]? = some (.rpcRequest context rpc) ∧ result.value = rpcResult response ∧
      Answers rpc response
  /-- The tasks that were run and those in the queue are the submitted ones, each once and in their
  order, whatever threw. -/
  tasks : h.executed.map Executed.task ++ h.broker.tasks = numberedTasks h.submitted
  /-- A request is queued or pending or has come to an end. -/
  settled : ∀ k context rpc, h.submitted[k]? = some (.rpcRequest context rpc) →
    h.Queued k ∨ h.Pending k ∨ h.Settled k
  /-- A request is pending only as long as none of its polls gave a value or threw. -/
  pending : ∀ k, h.Pending k → ∀ poll ∈ h.polls, poll.origin = numbered k → poll.value = .nothing
  /-- A request that has come to an end has exactly one result, unless its dispatch threw. -/
  answered : ∀ k context rpc, h.submitted[k]? = some (.rpcRequest context rpc) → h.Settled k →
    ((h.resultsOf k).length = 1 ↔
      ∀ execution ∈ h.executed, execution.task.origin = numbered k → execution.ended ≠ .threw)

/-- Every request that has come to an end has exactly one result. -/
def AnsweredOnce (h : History σ) : Prop :=
  ∀ k context rpc, h.submitted[k]? = some (.rpcRequest context rpc) → h.Settled k →
    (h.resultsOf k).length = 1

theorem length_resultsOf (h : History σ) (k : ℕ) :
    (h.resultsOf k).length =
    countOf (numbered k) h.taken + countOf (numbered k) h.broker.results := by
  rw [History.resultsOf, ← countOf_append, countOf, List.countP_eq_length_filter]

theorem pending_iff {k : ℕ} : h.Pending k ↔ 0 < countOf (numbered k) h.broker.pendingCompletions :=
  countOf_pos.symm

/-- Where the request of a number is: it returned, was deferred, threw, or is queued. -/
theorem Accounted.requests (haccounted : Accounted h threw) (k : ℕ) :
    requestsEnded (numbered k) .returned h.executed +
        requestsEnded (numbered k) .deferred h.executed +
        requestsEnded (numbered k) .threw h.executed + requestsOf (numbered k) h.broker.tasks =
      (h.submitted[k]?.any isRequest).toNat := by
  rw [← requestsOf_numberedTasks, ← haccounted.tasks, requestsOf_append, requestsOf_executed]

/-- A task that was run is the submitted one of its number. -/
theorem Accounted.get_of_executed (haccounted : Accounted h threw) {execution : Executed}
    (hmem : execution ∈ h.executed) :
    ∃ k, execution.task.origin = numbered k ∧ h.submitted[k]? = some execution.task.value := by
  apply mem_numberedTasks
  rw [← haccounted.tasks]
  exact List.mem_append_left _ (List.mem_map_of_mem hmem)

variable {k : ℕ} {context : BrokerContext} {rpc : RpcPayload}

/-- A run of a request counts among those that ended as it did. -/
theorem Accounted.requestsEnded_pos_iff (haccounted : Accounted h threw)
    (hget : h.submitted[k]? = some (.rpcRequest context rpc)) (how : Ended) :
    0 < requestsEnded (numbered k) how h.executed ↔
      ∃ execution ∈ h.executed, execution.task.origin = numbered k ∧ execution.ended = how := by
  rw [requestsEnded_pos]
  constructor
  · rintro ⟨execution, hmem, hended, -, horigin⟩
    exact ⟨execution, hmem, horigin, hended⟩
  · rintro ⟨execution, hmem, horigin, hended⟩
    obtain ⟨j, hj, hvalue⟩ := haccounted.get_of_executed hmem
    rw [← numbered_injective (horigin.symm.trans hj), hget] at hvalue
    exact ⟨execution, hmem, hended, by rw [← Option.some.inj hvalue]; rfl, horigin⟩

/-- A request has come to an end if it returned or threw or its poll came to an end. -/
theorem Accounted.settled_iff (haccounted : Accounted h threw)
    (hget : h.submitted[k]? = some (.rpcRequest context rpc)) :
    h.Settled k ↔ 0 < requestsEnded (numbered k) .returned h.executed ∨
      0 < requestsEnded (numbered k) .threw h.executed ∨ 0 < finished (numbered k) h.polls := by
  rw [haccounted.requestsEnded_pos_iff hget, haccounted.requestsEnded_pos_iff hget, finished_pos,
    ← or_assoc]
  refine or_congr_left ?_
  constructor
  · rintro ⟨execution, hmem, horigin, hended⟩
    cases hhow : execution.ended with
    | returned => exact .inl ⟨execution, hmem, horigin, hhow⟩
    | deferred => exact absurd hhow hended
    | threw => exact .inr ⟨execution, hmem, horigin, hhow⟩
  · rintro (⟨execution, hmem, horigin, hended⟩ | ⟨execution, hmem, horigin, hended⟩)
    · exact ⟨execution, hmem, horigin, by rw [hended]; decide⟩
    · exact ⟨execution, hmem, horigin, by rw [hended]; decide⟩

/-- A request that has come to an end has a result, unless it threw. -/
theorem Accounted.length_resultsOf_of_settled (haccounted : Accounted h threw)
    (hget : h.submitted[k]? = some (.rpcRequest context rpc)) (hsettled : h.Settled k) :
    (h.resultsOf k).length = 1 ↔ requestsEnded (numbered k) .threw h.executed = 0 := by
  have hrequests := haccounted.requests k
  have hdeferred := haccounted.deferred k
  have hresults := haccounted.results k
  rw [haccounted.settled_iff hget] at hsettled
  rw [hget] at hrequests
  simp only [Option.any_some, isRequest, Bool.toNat_true] at hrequests
  rw [length_resultsOf]
  omega

theorem Accounted.conserved (haccounted : Accounted h threw) : Conserved h where
  -- the counts of results, of ended requests and of submitted ones leave no room for two
  once k := by
    have hrequests := haccounted.requests k
    have hdeferred := haccounted.deferred k
    have hresults := haccounted.results k
    have hle := Bool.toNat_le (h.submitted[k]?.any isRequest)
    rw [length_resultsOf]
    omega
  answers k result hmem := by
    obtain ⟨hmem, horigin⟩ := List.mem_filter.mp hmem
    obtain ⟨response, hvalue, rpc, ⟨j, context, hj, hget⟩, hanswers⟩ : ∃ response,
        result.value = rpcResult response ∧
          AnswersSome (Submitted h.submitted) result.origin response := by
      rcases List.mem_append.mp hmem with hmem | hmem
      · exact haccounted.taken result hmem
      · exact haccounted.broker.results result hmem
    rw [of_decide_eq_true horigin] at hj
    rw [numbered_injective hj]
    exact ⟨context, rpc, response, hget, hvalue, hanswers⟩
  tasks := haccounted.tasks
  -- one request was submitted under the number, and it is counted in one place
  settled k context rpc hget := by
    have hrequests := haccounted.requests k
    have hdeferred := haccounted.deferred k
    rw [hget] at hrequests
    simp only [Option.any_some, isRequest, Bool.toNat_true] at hrequests
    rw [haccounted.settled_iff hget, pending_iff]
    rcases Nat.eq_zero_or_pos (requestsOf (numbered k) h.broker.tasks) with hzero | hpos
    · right
      omega
    · obtain ⟨task, hmem, -, horigin⟩ := requestsOf_pos.mp hpos
      exact .inl ⟨task, hmem, horigin⟩
  pending k hpending poll hmem horigin := by
    by_contra hvalue
    have hfinished : 0 < finished (numbered k) h.polls :=
      finished_pos.mpr ⟨poll, hmem, horigin, hvalue⟩
    have hrequests := haccounted.requests k
    have hdeferred := haccounted.deferred k
    have hle := Bool.toNat_le (h.submitted[k]?.any isRequest)
    rw [pending_iff] at hpending
    omega
  answered k context rpc hget hsettled := by
    have hpos := haccounted.requestsEnded_pos_iff hget .threw
    rw [haccounted.length_resultsOf_of_settled hget hsettled, ← Nat.le_zero, ← not_lt, hpos]
    simp only [not_exists, not_and, ne_eq]

theorem Accounted.answeredOnce_iff (haccounted : Accounted h threw) :
    AnsweredOnce h ↔ threw = [] := by
  constructor
  · intro hanswered
    by_contra hne
    obtain ⟨task, tasks, hthrew⟩ := List.exists_cons_of_ne_nil hne
    -- a request that threw has come to an end, and has no result
    have hmem : task ∈ requestsThrown h.executed := by
      rw [← haccounted.threw, hthrew]
      exact List.mem_cons_self ..
    obtain ⟨hmem, hrequest⟩ := List.mem_filter.mp hmem
    obtain ⟨execution, hexecution, rfl⟩ := List.mem_map.mp hmem
    obtain ⟨hexecuted, hended⟩ := List.mem_filter.mp hexecution
    obtain ⟨k, horigin, hget⟩ := haccounted.get_of_executed hexecuted
    obtain ⟨context, rpc, hvalue⟩ :
        ∃ context rpc, execution.task.value = .rpcRequest context rpc := by
      cases hvalue : execution.task.value with
      | rpcRequest context rpc => exact ⟨context, rpc, rfl⟩
      | _ => simp [hvalue, isRequest] at hrequest
    rw [hvalue] at hget
    have hthrown : 0 < requestsEnded (numbered k) .threw h.executed :=
      (haccounted.requestsEnded_pos_iff hget _).mpr
        ⟨execution, hexecuted, horigin, of_decide_eq_true hended⟩
    have hsettled : h.Settled k := (haccounted.settled_iff hget).mpr (.inr (.inl hthrown))
    have hzero := (haccounted.length_resultsOf_of_settled hget hsettled).mp
      (hanswered k context rpc hget hsettled)
    omega
  · rintro rfl k context rpc hget hsettled
    rw [haccounted.length_resultsOf_of_settled hget hsettled, ← requestsOf_requestsThrown,
      ← haccounted.threw]
    rfl

/-- **Broker conservation.** After every run, no request has two results, each result answers its
request, the tasks that were run and those in the queue are the submitted ones, and a request stays
pending only as long as its polls give nothing; and every request that has returned or thrown, or
whose deferred poll has given a value or thrown, has exactly one result, if and only if no poll of
the run dispatches a request whose validator or synchronous handler throws. -/
theorem conserved_and_answeredOnce_iff (router : BusinessRouter σ)
    (eventHandler : Option (EventHandler σ)) (streamHandler : Option (StreamHandler σ)) (world : σ)
    (calls : List (Call σ)) :
    Conserved ((History.start router eventHandler streamHandler world).after calls) ∧
      (AnsweredOnce ((History.start router eventHandler streamHandler world).after calls) ↔
        thrown (History.start router eventHandler streamHandler world) calls = []) := by
  have haccounted := (accounted_start router eventHandler streamHandler world).after calls
  rw [List.nil_append] at haccounted
  exact ⟨haccounted.conserved, haccounted.answeredOnce_iff⟩

/-- A router whose only handler throws. -/
def throwingRouter : BusinessRouter Unit where
  handlers methodId := if methodId = 0x0101 then some fun s _ _ => (s, none) else none

/-- The request to it. -/
def throwingTask : BrokerTask := .rpcRequest {} { requestId := 5, methodOrEventId := 0x0101 }

/-- A request whose handler throws is gone without a result. -/
theorem not_answeredOnce_throwing :
    ¬ AnsweredOnce ((History.start throwingRouter none none ()).after
      [.submit throwingTask, .poll 8]) := by
  intro h
  have hexecuted : ((History.start throwingRouter none none ()).after
      [.submit throwingTask, .poll 8]).executed =
        [{ task := { value := throwingTask, origin := numbered 0 }, ended := .threw }] := by
    rfl
  have hone := h 0 {} { requestId := 5, methodOrEventId := 0x0101 } (by decide +kernel)
    (.inl ⟨_, by rw [hexecuted]; exact List.mem_singleton_self _, rfl, by decide⟩)
  exact absurd hone (by decide +kernel)

end BrokerConservation

end Axtp
