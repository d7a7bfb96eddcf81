/-
  `CoreEvent` (`runtime/core/core_event.hpp`), `BrokerTask`, `BrokerResult` and
  `BasicBroker` (`runtime/broker`).

  The middleware chain and the flow control of the source let every task through.

  The elements of the queues are tagged with their origin: the `Ingress` of the
  request they stem from. The source has no such field and nothing here reads it; it
  is moved along with its element, to say of a packet which request it answers.
-/
import Axtp.Lib.Run
import Axtp.Runtime.BusinessRouter

namespace Axtp

/-- What a provider function gives when it is asked: it is not set, it throws, or it returns a
value. -/
inductive Provided where
  | unset
  | threw
  | returned (value : UInt64)
  deriving DecidableEq, Repr

/-- The value that reaches the payload: zero without a provider, or when it throws. -/
def Provided.value : Provided → UInt64
  | returned value => value
  | _ => 0

/-- What the two ingress providers give while one payload is received. The label is no part of the
program either: it tells apart what was received, by its transport or its number. -/
structure Ingress where
  replyTarget : Provided := .unset
  ingressToken : Provided := .unset
  label : ℕ := 0
  deriving DecidableEq, Repr

/-- A queue element with the ingress of the request it stems from, if any. -/
structure Tagged (α : Type*) where
  value : α
  origin : Option Ingress
  deriving DecidableEq, Repr

/-- The kinds of event that the core makes. -/
inductive CoreEvent where
  | rpcRequest (rpc : RpcPayload)
  | rpcEvent (rpc : RpcPayload)
  | streamData (stream : StreamPayload)
  deriving DecidableEq, Repr

/-- The fields of `BrokerContext` that `fromCoreEvent` fills in. -/
structure BrokerContext where
  sessionId : UInt32 := 0
  requestId : UInt32 := 0
  methodOrEventId : UInt32 := 0
  encoding : RpcEncoding := RpcEncoding.json
  sourceProtocol : SourceProtocol := .axtpV1
  deriving DecidableEq, Repr

inductive BrokerTask where
  | rpcRequest (context : BrokerContext) (rpc : RpcPayload)
  | rpcEvent (context : BrokerContext) (rpc : RpcPayload)
  | streamOpen (context : BrokerContext) (stream : StreamPayload)
  | streamData (context : BrokerContext) (stream : StreamPayload)
  | streamClose (context : BrokerContext) (stream : StreamPayload)
  | controlNotice (context : BrokerContext) (control : ControlPayload)
  deriving DecidableEq, Repr

def BrokerTask.fromCoreEvent : CoreEvent → BrokerTask
  | .rpcRequest rpc =>
    .rpcRequest
      { sessionId := rpc.meta_.sessionId, requestId := rpc.requestId
        methodOrEventId := rpc.methodOrEventId, encoding := rpc.encoding
        sourceProtocol := rpc.meta_.sourceProtocol } rpc
  | .rpcEvent rpc =>
    .rpcEvent
      { sessionId := rpc.meta_.sessionId, methodOrEventId := rpc.methodOrEventId
        encoding := rpc.encoding, sourceProtocol := rpc.meta_.sourceProtocol } rpc
  | .streamData stream => .streamData { sessionId := stream.meta_.sessionId } stream

inductive BrokerResultType where
  | rpcResponse
  | rpcError
  | event
  | streamData
  | streamClose
  | noop
  deriving DecidableEq, Repr

structure BrokerResult where
  type : BrokerResultType := .noop
  rpc : RpcPayload := {}
  stream : StreamPayload := {}
  deriving DecidableEq, Repr

section Handlers

variable (σ : Type*)

abbrev EventHandler := σ → BrokerContext → RpcPayload → σ × Exit

abbrev StreamHandler := σ → BrokerContext → StreamPayload → σ × Exit

structure PendingCompletion where
  response : RpcPayload
  poll : DeferredRpcPoll σ

structure BasicBroker where
  tasks : List (Tagged BrokerTask) := []
  results : List (Tagged BrokerResult) := []
  pendingCompletions : List (Tagged (PendingCompletion σ)) := []
  router : BusinessRouter σ := {}
  eventHandler : Option (EventHandler σ) := none
  streamHandler : Option (StreamHandler σ) := none

end Handlers

namespace BasicBroker

variable {σ : Type*}

def submit (broker : BasicBroker σ) (task : Tagged BrokerTask) : BasicBroker σ :=
  { broker with tasks := broker.tasks ++ [task] }

/-- The result that `enqueueRpcResult` queues for a response. -/
def rpcResult (response : RpcPayload) : BrokerResult :=
  if response.statusCode = ErrorCode.success then { type := .rpcResponse, rpc := response }
  else { type := .rpcError, rpc := response }

def enqueueRpcResult (broker : BasicBroker σ) (response : Tagged RpcPayload) : BasicBroker σ :=
  { broker with
    results :=
      broker.results ++ [{ value := rpcResult response.value, origin := response.origin }] }

/-- The loop over the pending completions: those that stay pending, and the responses of those that
are done or whose poll threw. -/
def pollCompletions : List (Tagged (PendingCompletion σ)) → σ →
    List (Tagged (PendingCompletion σ)) × List (Tagged RpcPayload) × σ
  | [], s => ([], [], s)
  | pending :: rest, s =>
    match pending.value.poll s with
    | (s, some none) =>
      let (kept, done, s) := pollCompletions rest s
      (pending :: kept, done, s)
    | (s, some (some data)) =>
      let (kept, done, s) := pollCompletions rest s
      let response := BusinessExecutor.completeRpcRequest pending.value.response data
      (kept, { value := response, origin := pending.origin } :: done, s)
    | (s, none) =>
      let (kept, done, s) := pollCompletions rest s
      let response := { pending.value.response with statusCode := ErrorCode.internalError }
      (kept, { value := response, origin := pending.origin } :: done, s)

def pollPendingCompletions (broker : BasicBroker σ) (s : σ) : BasicBroker σ × σ :=
  let (pendingCompletions, done, s) := pollCompletions broker.pendingCompletions s
  (done.foldl enqueueRpcResult { broker with pendingCompletions }, s)

def runStreamHandler (broker : BasicBroker σ) (s : σ) (context : BrokerContext)
    (stream : StreamPayload) : BasicBroker σ × σ × Exit :=
  match broker.streamHandler with
  | some handler => (broker, handler s context stream)
  | none => (broker, s, .returned)

/-- One task, already taken off the queue. An exception of a handler leaves `poll`. -/
def runTask (broker : BasicBroker σ) (s : σ) (task : Tagged BrokerTask) :
    BasicBroker σ × σ × Exit :=
  match task.value with
  | .rpcRequest _ rpc =>
    match BusinessExecutor.executeRpcRequest broker.router s rpc with
    | (s, none) => (broker, s, .threw)
    | (s, some dispatch) =>
      match dispatch.deferredPoll with
      | some poll =>
        let pending := { value := { response := dispatch.response, poll }, origin := task.origin }
        ({ broker with pendingCompletions := broker.pendingCompletions ++ [pending] }, s,
          .returned)
      | none =>
        (broker.enqueueRpcResult { value := dispatch.response, origin := task.origin }, s,
          .returned)
  | .rpcEvent context rpc =>
    match broker.eventHandler with
    | some handler => (broker, handler s context rpc)
    | none => (broker, s, .returned)
  | .streamData context stream => runStreamHandler broker s context stream
  | .streamClose context stream => runStreamHandler broker s context stream
  | .streamOpen _ _ => (broker, s, .returned)
  | .controlNotice _ _ => (broker, s, .returned)

/-- The loop over at most `maxTasks` tasks. -/
def runTasks : ℕ → BasicBroker σ → σ → BasicBroker σ × σ × Exit
  | 0, broker, s => (broker, s, .returned)
  | maxTasks + 1, broker, s =>
    match broker.tasks with
    | [] => (broker, s, .returned)
    | task :: tasks =>
      match runTask { broker with tasks } s task with
      | (broker, s, .returned) => runTasks maxTasks broker s
      | (broker, s, .threw) => (broker, s, .threw)

def poll (broker : BasicBroker σ) (s : σ) (maxTasks : ℕ) : BasicBroker σ × σ × Exit :=
  let (broker, s) := broker.pollPendingCompletions s
  runTasks maxTasks broker s

end BasicBroker

end Axtp
