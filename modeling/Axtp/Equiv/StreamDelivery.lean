/-
  The streams of a client at the application of the server.

  `log` is what the application has seen of the streams: its stream handler adds the
  payload that it is called with, and nothing else changes it (`Records`). The streams
  that are logged, wait as tasks of the broker, wait as events of the core or are still
  on their way are, in this order, the ones that the client sent (`Conserved`); every
  step only moves the boundaries between them (`Conserved.step`). So none is lost, seen
  twice or seen out of turn, also when handlers throw.
-/
import Axtp.Equiv.BrokerConservation
import Axtp.Equiv.Link

namespace Axtp

open Run InboundProcessor PayloadCodec Transfer

namespace BasicBroker

open BrokerConservation

variable {σ : Type*}

/-! ### The streams in a broker -/

/-- The stream payload that a task hands to the stream handler. -/
def streamOf : BrokerTask → Option StreamPayload
  | .streamData _ stream => some stream
  | .streamClose _ stream => some stream
  | _ => none

def streamsOf (tasks : List (Tagged BrokerTask)) : List StreamPayload :=
  tasks.filterMap fun task => streamOf task.value

/-- The application logs the payloads that its stream handler is called with, and those only. -/
structure Records (log : σ → List StreamPayload) (broker : BasicBroker σ) : Prop where
  stream : ∃ handler, broker.streamHandler = some handler ∧
    ∀ s context stream, log (handler s context stream).1 = log s ++ [stream]
  event : ∀ handler ∈ broker.eventHandler, ∀ s context rpc, log (handler s context rpc).1 = log s
  dispatch : ∀ s rpc, log (broker.router.dispatchRpcRequest s rpc).1 = log s
  deferred : ∀ s s' rpc response poll, broker.router.dispatchRpcRequest s rpc =
    (s', some { response, deferredPoll := some poll }) → ∀ t, log (poll t).1 = log t

/-- The polls that wait leave the log alone. -/
def Silent (log : σ → List StreamPayload) (pending : List (Tagged (PendingCompletion σ))) : Prop :=
  ∀ c ∈ pending, ∀ s, log (c.value.poll s).1 = log s

variable {log : σ → List StreamPayload} {broker : BasicBroker σ}

/-- The handlers are all that `Records` is about. -/
theorem Records.of_eq {broker' : BasicBroker σ} (h : broker.Records log)
    (hrouter : broker'.router = broker.router)
    (hevent : broker'.eventHandler = broker.eventHandler)
    (hstream : broker'.streamHandler = broker.streamHandler) : broker'.Records log := by
  obtain ⟨h1, h2, h3, h4⟩ := h
  rw [← hstream] at h1
  rw [← hevent] at h2
  rw [← hrouter] at h3 h4
  exact ⟨h1, h2, h3, h4⟩

theorem log_runStreamHandler (h : broker.Records log) (s : σ) (context : BrokerContext)
    (stream : StreamPayload) :
    log (broker.runStreamHandler s context stream).2.1 = log s ++ [stream] := by
  obtain ⟨handler, hhandler, hlog⟩ := h.stream
  rw [runStreamHandler, hhandler]
  exact hlog s context stream

/-- A task that is run is logged if it is a stream. -/
theorem log_runTask (h : broker.Records log) (s : σ) (task : Tagged BrokerTask) :
    log (broker.runTask s task).2.1 = log s ++ streamsOf [task] := by
  obtain ⟨value, origin⟩ := task
  cases value with
  | rpcRequest context rpc =>
    have hdispatch := h.dispatch s rpc
    show _ = log s ++ []
    rw [List.append_nil, ← hdispatch]
    simp only [runTask, BusinessExecutor.executeRpcRequest]
    rcases broker.router.dispatchRpcRequest s rpc with ⟨s', _ | ⟨response, _ | poll⟩⟩ <;> rfl
  | rpcEvent context rpc =>
    show _ = log s ++ []
    rw [List.append_nil, runTask]
    rcases hhandler : broker.eventHandler with _ | handler
    · rfl
    · exact h.event handler hhandler s context rpc
  | streamData context stream => exact log_runStreamHandler h s context stream
  | streamClose context stream => exact log_runStreamHandler h s context stream
  | streamOpen context stream => exact (List.append_nil _).symm
  | controlNotice context control => exact (List.append_nil _).symm

/-- A task that is run leaves the handlers, and makes completions that keep the log alone. -/
theorem records_runTask (h : broker.Records log) (hsilent : Silent log broker.pendingCompletions)
    (s : σ) (task : Tagged BrokerTask) :
    (broker.runTask s task).1.Records log ∧
      Silent log (broker.runTask s task).1.pendingCompletions := by
  have hran := ran broker s task
  generalize broker.runTask s task = result at hran
  cases hran with
  | threw => exact ⟨h, hsilent⟩
  | other => exact ⟨h, hsilent⟩
  | answered => exact ⟨h.of_eq rfl rfl rfl, hsilent⟩
  | deferred hvalue hdispatch =>
    refine ⟨h.of_eq rfl rfl rfl, fun c hmem => ?_⟩
    rcases List.mem_append.mp hmem with hmem | hmem
    · exact hsilent c hmem
    · rw [List.mem_singleton.mp hmem]
      exact h.deferred _ _ _ _ _ hdispatch

theorem streamsOf_cons (task : Tagged BrokerTask) (tasks : List (Tagged BrokerTask)) :
    streamsOf (task :: tasks) = streamsOf [task] ++ streamsOf tasks := by
  rw [streamsOf, ← List.singleton_append, List.filterMap_append]
  rfl

/-- Tasks that are run move their streams from the queue to the log. -/
theorem log_runTasks (h : broker.Records log) (hsilent : Silent log broker.pendingCompletions)
    (maxTasks : ℕ) (s : σ) :
    (runTasks maxTasks broker s).1.Records log ∧
      Silent log (runTasks maxTasks broker s).1.pendingCompletions ∧
      log (runTasks maxTasks broker s).2.1 ++ streamsOf (runTasks maxTasks broker s).1.tasks =
        log s ++ streamsOf broker.tasks := by
  induction maxTasks generalizing broker s with
  | zero => exact ⟨h, hsilent, rfl⟩
  | succ maxTasks ih =>
    rcases htasks : broker.tasks with _ | ⟨task, tasks⟩
    · rw [runTasks_of_nil htasks, htasks]
      exact ⟨h, hsilent, rfl⟩
    · have hrest : ({ broker with tasks } : BasicBroker σ).Records log := h.of_eq rfl rfl rfl
      obtain ⟨hrecords, hsilent'⟩ := records_runTask hrest hsilent s task
      have hlog := log_runTask hrest s task
      have hqueue := tasks_runTask { broker with tasks } s task
      rw [runTasks_of_cons htasks, streamsOf_cons, ← List.append_assoc, ← hlog]
      generalize BasicBroker.runTask { broker with tasks } s task = result at *
      obtain ⟨broker', s', _ | _⟩ := result
      · obtain ⟨hrecords', hsilent'', hmoved⟩ := ih hrecords hsilent' s'
        exact ⟨hrecords', hsilent'',
          hmoved.trans (congrArg (fun q => log s' ++ streamsOf q) hqueue)⟩
      · exact ⟨hrecords, hsilent', congrArg (fun q => log s' ++ streamsOf q) hqueue⟩

theorem log_pollCompletions {pending : List (Tagged (PendingCompletion σ))}
    (h : Silent log pending) (s : σ) :
    log (pollCompletions pending s).2.2 = log s ∧ Silent log (pollCompletions pending s).1 := by
  refine ⟨?_, fun c hc => h c ((pollCompletions_spec pending s).1 c hc).1⟩
  induction pending generalizing s with
  | nil => rfl
  | cons c rest ih =>
    have hpoll := h c (List.mem_cons_self ..) s
    have hrest := fun s' => ih (fun c' hc' => h c' (List.mem_cons_of_mem _ hc')) s'
    rw [pollCompletions, ← hpoll]
    rcases c.value.poll s with ⟨s', _ | _ | data⟩ <;> exact hrest s'

/-- **A poll** moves streams from the queue to the log, in their order. -/
theorem log_poll (h : broker.Records log) (hsilent : Silent log broker.pendingCompletions)
    (maxTasks : ℕ) (s : σ) :
    (broker.poll s maxTasks).1.Records log ∧
      Silent log (broker.poll s maxTasks).1.pendingCompletions ∧
      log (broker.poll s maxTasks).2.1 ++ streamsOf (broker.poll s maxTasks).1.tasks =
        log s ++ streamsOf broker.tasks := by
  obtain ⟨hlog, hkept⟩ := log_pollCompletions hsilent s
  have hstate := pollPendingCompletions_eq broker s
  have hrecords : (broker.pollPendingCompletions s).1.Records log := by
    rw [hstate]
    exact h.of_eq rfl rfl rfl
  have hsilent' : Silent log (broker.pollPendingCompletions s).1.pendingCompletions := by
    rw [hstate]
    exact hkept
  have hrun := log_runTasks hrecords hsilent' maxTasks (broker.pollPendingCompletions s).2
  have htasks : (broker.pollPendingCompletions s).1.tasks = broker.tasks := by rw [hstate]
  have hworld : log (broker.pollPendingCompletions s).2 = log s := by
    rw [hstate]
    exact hlog
  rw [htasks, hworld] at hrun
  exact hrun

end BasicBroker

namespace Link

open BasicBroker

variable {σ τ : Type*} {lib : JsonLibrary} {log : σ → List StreamPayload}

/-! ### Where the streams are -/

def streamedIn (events : List Event) : List StreamPayload :=
  events.filterMap fun
    | .streamed payload => some payload
    | _ => none

/-- The streams that wait as events of the core. -/
def eventStreams (core : AxtpCore) : List StreamPayload :=
  core.events.filterMap fun event => streamOfEvent event.value

/-- The streams among the payloads that the bytes hold. -/
def wireStreams (lib : JsonLibrary) (inbound : InboundProcessor) (bytes : Bytes) :
    List StreamPayload :=
  ((inbound.messagesIn bytes).filterMap (PayloadDecoder.payloadOf lib)).filterMap streamOfPayload

/-- The streams that have reached the server: logged, as tasks and as events. -/
def reached (log : σ → List StreamPayload) (server : AxtpEndpoint σ) : List StreamPayload :=
  log server.world ++ streamsOf server.broker.tasks ++ eventStreams server.core

/-- The streams that have reached the server, and those that are on their way. -/
def streams (lib : JsonLibrary) (log : σ → List StreamPayload) (link : Link σ τ) :
    List StreamPayload :=
  reached log link.server ++ wireStreams lib link.server.core.inbound link.toServer

theorem wireStreams_of_holds {inbound : InboundProcessor} {bytes : Bytes} {payloads : List Payload}
    (h : Holds lib inbound bytes payloads) :
    wireStreams lib inbound bytes = payloads.filterMap streamOfPayload := by
  rw [wireStreams, h.payloadsIn]

/-- The application of the server does not touch its log by itself. -/
def KeepsLog (log : σ → List StreamPayload) (link : Link σ τ) : Action σ → Prop
  | .environment world => log world = log link.server.world
  | _ => True

instance (link : Link σ τ) (action : Action σ) : Decidable (KeepsLog log link action) :=
  match action with
  | .environment world => inferInstanceAs (Decidable (log world = log link.server.world))
  | .call _ | .abandon _ | .take _ | .stream _ | .deliverToServer _ _ | .deliverToClient _
  | .drainCoreEvents | .pollBroker _ | .handleBrokerResult | .flushOutbound => .isTrue trivial

/-! ### Conservation -/

/-- The streams at the server and on their way are the ones that were sent. -/
structure Conserved (lib : JsonLibrary) (router : BusinessRouter σ)
    (log : σ → List StreamPayload) (link : Link σ τ) (events : List Event) : Prop where
  sound : Sound lib router link events
  records : link.server.broker.Records log
  silent : Silent log link.server.broker.pendingCompletions
  accounted : (link.streams lib log).map streamOnWire = (streamedIn events).map streamOnWire

section

variable {router : BusinessRouter σ} {link : Link σ τ} {events : List Event}

theorem streamedIn_append (events more : List Event) :
    streamedIn (events ++ more) = streamedIn events ++ streamedIn more := List.filterMap_append

/-- A step that leaves the streams of the server where they are. -/
theorem Conserved.of_streams_eq (h : Conserved lib router log link events) {link' : Link σ τ}
    {more : List Event} (hsound : Sound lib router link' (events ++ more))
    (hmore : streamedIn more = []) (hbroker : link'.server.broker = link.server.broker)
    (hstreams : link'.streams lib log = link.streams lib log) :
    Conserved lib router log link' (events ++ more) := by
  refine ⟨hsound, hbroker ▸ h.records, hbroker ▸ h.silent, ?_⟩
  rw [hstreams, streamedIn_append, hmore, List.append_nil]
  exact h.accounted

/-- A payload that is sent is the last on its way. -/
theorem wireStreams_send (hcarrying : Carrying lib router (calledIn events) link)
    {payload : Payload}
    (hsendable : Sendable link.client.core.outbound.messageFragmenter.maxFrameSize payload) :
    ∃ o pieces, link.client.core.outbound.send lib payload = some (o, pieces) ∧
      wireStreams lib link.server.core.inbound (link.toServer ++ pieces.flatten) =
        wireStreams lib link.server.core.inbound link.toServer ++
          (streamOfPayload (payloadOnWire payload)).toList := by
  obtain ⟨payloads, hholds, -⟩ := hcarrying.toServer
  obtain ⟨hmode, hmin, hmax⟩ := hcarrying.client
  obtain ⟨pieces, hsend, hholds'⟩ := hholds.send hmode hmin hmax hsendable
  refine ⟨_, pieces, hsend, ?_⟩
  rw [wireStreams_of_holds hholds, wireStreams_of_holds hholds', List.filterMap_append,
    List.filterMap_cons, List.filterMap_nil]
  cases streamOfPayload (payloadOnWire payload) <;> rfl

theorem Conserved.call (h : Conserved lib router log link events) {request : RpcPayload}
    (hfits : Fits link (.call request)) :
    Conserved lib router log (link.step lib (.call request)).1
      (events ++ (link.step lib (.call request)).2) := by
  have hsound : Sound lib router (link.step lib (.call request)).1 _ := h.sound.step hfits
  rcases hexpect : (link.client.core.pendingCalls.expect request.requestId).2 with _ | _
  · rw [step_call_of_refused hexpect, List.append_nil]
    exact h
  · obtain ⟨o, pieces, hsend, hwire⟩ := wireStreams_send h.sound.carrying hfits.2
    rw [step_call_of_accepted h.sound.carrying.flushed hexpect hsend] at hsound ⊢
    refine h.of_streams_eq hsound rfl rfl ?_
    show _ ++ wireStreams lib link.server.core.inbound (link.toServer ++ pieces.flatten) = _
    rw [hwire]
    exact congrArg _ (List.append_nil _)

theorem Conserved.stream (h : Conserved lib router log link events) {payload : StreamPayload}
    (hfits : Fits link (.stream payload)) :
    Conserved lib router log (link.step lib (.stream payload)).1
      (events ++ (link.step lib (.stream payload)).2) := by
  have hsound : Sound lib router (link.step lib (.stream payload)).1 _ := h.sound.step hfits
  have hsendable : Sendable _ (.stream payload) := hfits
  obtain ⟨o, pieces, hsend, hwire⟩ := wireStreams_send h.sound.carrying hsendable
  rw [step_stream h.sound.carrying.flushed (Option.some.inj hsend)] at hsound ⊢
  have hstreams : reached log link.server ++ wireStreams lib link.server.core.inbound
      (link.toServer ++ pieces.flatten) = link.streams lib log ++ [streamOnWire payload] := by
    rw [hwire, ← List.append_assoc]
    rfl
  refine ⟨hsound, h.records, h.silent, ?_⟩
  rw [streams, hstreams, List.map_append, h.accounted, streamedIn_append, List.map_append]
  rfl

/-- The events of payloads have their streams. -/
theorem map_streams_eq {called : List RpcPayload} {payloads : List Payload}
    {newEvents : List (Tagged CoreEvent)}
    (h : List.Forall₂ (EventOf called) payloads newEvents) :
    (newEvents.filterMap fun event => streamOfEvent event.value).map streamOnWire =
      (payloads.filterMap streamOfPayload).map streamOnWire := by
  induction h with
  | nil => rfl
  | @cons payload event payloads newEvents hevent _ ih =>
    have hstream := hevent.stream
    rw [List.filterMap_cons, List.filterMap_cons]
    cases hfst : streamOfEvent event.value <;> cases hsnd : streamOfPayload payload <;>
      simp_all

theorem Conserved.deliverToServer (h : Conserved lib router log link events) (count : ℕ)
    (ingress : ℕ → Ingress) :
    Conserved lib router log (link.step lib (.deliverToServer count ingress)).1
      (events ++ (link.step lib (.deliverToServer count ingress)).2) := by
  have hsound : Sound lib router (link.step lib (.deliverToServer count ingress)).1 _ :=
    h.sound.step trivial
  obtain ⟨arrived, rest, core, newEvents, hholds, hstep, hrest, -, hevents, -, -, hnew⟩ :=
    step_deliverToServer h.sound.carrying.toServer count ingress
  rw [hstep, List.append_nil] at hsound ⊢
  refine ⟨hsound, h.records, h.silent, ?_⟩
  have harrived : (eventStreams core).map streamOnWire =
      (eventStreams link.server.core ++ arrived.filterMap streamOfPayload).map streamOnWire := by
    rw [eventStreams, hevents, List.filterMap_append, List.map_append, List.map_append,
      map_streams_eq hnew]
    rfl
  have haccounted := h.accounted
  rw [streams, wireStreams_of_holds hholds, List.filterMap_append] at haccounted
  rw [← haccounted, streams, wireStreams_of_holds hrest, ← List.append_assoc, List.map_append,
    List.map_append]
  refine congrArg (· ++ _) ?_
  show (log link.server.world ++ streamsOf link.server.broker.tasks ++ eventStreams core).map _ = _
  rw [List.map_append, harrived, ← List.map_append, ← List.append_assoc]
  rfl

/-! ### The server makes progress -/

/-- A step of the server that keeps the streams that have reached it. -/
theorem Conserved.onServer (h : Conserved lib router log link events) {server : AxtpEndpoint σ}
    {bytes : Bytes}
    (hsound : Sound lib router { link with server, toClient := link.toClient ++ bytes }
      (events ++ []))
    (hrecords : server.broker.Records log) (hsilent : Silent log server.broker.pendingCompletions)
    (hinbound : server.core.inbound = link.server.core.inbound)
    (hreached : reached log server = reached log link.server) :
    Conserved lib router log { link with server, toClient := link.toClient ++ bytes }
      (events ++ []) := by
  refine ⟨hsound, hrecords, hsilent, ?_⟩
  rw [List.append_nil, streams, hreached, hinbound]
  exact h.accounted

theorem Conserved.drainCoreEvents (h : Conserved lib router log link events) :
    Conserved lib router log (link.step lib .drainCoreEvents).1
      (events ++ (link.step lib .drainCoreEvents).2) := by
  have hsound : Sound lib router (link.step lib .drainCoreEvents).1 _ := h.sound.step trivial
  -- every event becomes a task with the same stream payload
  have htasks : streamsOf (link.server.core.events.map AxtpEndpoint.taskOf) =
      eventStreams link.server.core := by
    rw [streamsOf, List.filterMap_map]
    refine List.filterMap_congr fun event _ => ?_
    show streamOf (.fromCoreEvent event.value) = _
    cases event.value <;> rfl
  have hbroker := AxtpEndpoint.drainCoreEvents_eq link.server
  refine h.onServer hsound ?_ ?_ rfl ?_
  · show link.server.drainCoreEvents.broker.Records log
    rw [hbroker]
    exact h.records.of_eq rfl rfl rfl
  · show Silent log link.server.drainCoreEvents.broker.pendingCompletions
    rw [hbroker]
    exact h.silent
  · show reached log link.server.drainCoreEvents = _
    rw [hbroker]
    show log link.server.world ++ streamsOf (link.server.broker.tasks ++ _) ++ [] = _
    rw [streamsOf, List.filterMap_append, List.append_nil, ← List.append_assoc]
    exact congrArg _ htasks

theorem Conserved.pollBroker (h : Conserved lib router log link events) (maxTasks : ℕ) :
    Conserved lib router log (link.step lib (.pollBroker maxTasks)).1
      (events ++ (link.step lib (.pollBroker maxTasks)).2) := by
  obtain ⟨hrecords, hsilent, hlog⟩ := log_poll h.records h.silent maxTasks link.server.world
  have hsound : Sound lib router (link.step lib (.pollBroker maxTasks)).1 _ :=
    h.sound.step trivial
  exact h.onServer hsound hrecords hsilent rfl (congrArg (· ++ eventStreams link.server.core) hlog)

theorem Conserved.handleBrokerResult (h : Conserved lib router log link events)
    (hfits : Fits link .handleBrokerResult) :
    Conserved lib router log (link.step lib .handleBrokerResult).1
      (events ++ (link.step lib .handleBrokerResult).2) := by
  have hsound : Sound lib router (link.step lib .handleBrokerResult).1 _ := h.sound.step hfits
  obtain ⟨-, hstep⟩ | ⟨result, results, -, -, hsendable, hstep⟩ :=
    handleBrokerResult_cases h.sound.carrying hfits
  · simp only [step, Link.onServer, AxtpEndpoint.step, hstep] at hsound ⊢
    exact h.onServer hsound h.records h.silent rfl rfl
  · obtain ⟨hmode, hmin, hmax⟩ := h.sound.carrying.server
    obtain ⟨frames, message, hsend, -⟩ := send_spec hmode hmin hmax lib hsendable
    simp only [step, Link.onServer, AxtpEndpoint.step, hstep _ _ hsend] at hsound ⊢
    exact h.onServer hsound (h.records.of_eq rfl rfl rfl) h.silent rfl rfl

theorem Conserved.flushOutbound (h : Conserved lib router log link events) :
    Conserved lib router log (link.step lib .flushOutbound).1
      (events ++ (link.step lib .flushOutbound).2) := by
  have hsound : Sound lib router (link.step lib .flushOutbound).1 _ := h.sound.step trivial
  obtain ⟨core, hserver, -, hinbound, hevents, -⟩ := flushOutbound_cases link.server
  simp only [step, Link.onServer, AxtpEndpoint.step, hserver] at hsound ⊢
  refine h.onServer hsound h.records h.silent hinbound ?_
  rw [reached, eventStreams, hevents]
  rfl

theorem Conserved.environment (h : Conserved lib router log link events) {world : σ}
    (hworld : log world = log link.server.world) :
    Conserved lib router log (link.step lib (.environment world)).1
      (events ++ (link.step lib (.environment world)).2) := by
  have hsound : Sound lib router (link.step lib (.environment world)).1 _ := h.sound.step trivial
  exact h.onServer hsound h.records h.silent rfl (congrArg (· ++ _ ++ _) hworld)

/-- **Every step** conserves the streams. -/
theorem Conserved.step (h : Conserved lib router log link events) {action : Action σ}
    (hfits : Fits link action) (hkeeps : KeepsLog log link action) :
    Conserved lib router log (link.step lib action).1
      (events ++ (link.step lib action).2) := by
  have hsound : Sound lib router (link.step lib action).1 _ := h.sound.step hfits
  cases action with
  | call request => exact h.call hfits
  | stream payload => exact h.stream hfits
  | deliverToServer count ingress => exact h.deliverToServer count ingress
  | drainCoreEvents => exact h.drainCoreEvents
  | pollBroker maxTasks => exact h.pollBroker maxTasks
  | handleBrokerResult => exact h.handleBrokerResult hfits
  | flushOutbound => exact h.flushOutbound
  | environment world => exact h.environment hkeeps
  | deliverToClient count =>
    -- what the client takes in moves no stream
    refine h.of_streams_eq hsound rfl rfl ?_
    simp only [Link.step, onClient, AxtpEndpoint.step, bytesOf, List.flatMap_nil, List.append_nil]
    rfl
  | abandon requestId =>
    refine h.of_streams_eq hsound rfl rfl ?_
    simp only [Link.step, onClient, AxtpEndpoint.step, bytesOf, List.flatMap_nil, List.append_nil]
    rfl
  | take requestId =>
    -- taking an answer is an event, but not one of a stream
    have hmore : streamedIn (link.step lib (.take requestId)).2 = [] := by
      show streamedIn ((link.client.core.pendingCalls.tryTakeResolved requestId).2.map
        Event.took).toList = []
      cases (link.client.core.pendingCalls.tryTakeResolved requestId).2 <;> rfl
    refine h.of_streams_eq hsound hmore rfl ?_
    simp only [Link.step, onClient, AxtpEndpoint.step, bytesOf, List.flatMap_nil, List.append_nil]
    rfl

end

/-- **Streams over a link.** However the stream payloads and the calls of the client, the arrival
of bytes in chunks of any size and the steps of the server interleave, and whatever its handlers
throw, what the application of the server has seen of the streams, then what waits for it as tasks
and as events, then what is on its way, are the payloads that the client sent, each once and in
the order in which it sent them. -/
theorem streams_conserved (lib : JsonLibrary) {profile : TransportProfile}
    (hprofile : FramesFit profile) (client : τ) {world : σ} {router : BusinessRouter σ}
    {eventHandler : Option (EventHandler σ)} {streamHandler : Option (StreamHandler σ)}
    (log : σ → List StreamPayload)
    (hrecords : ({ router, eventHandler, streamHandler } : BasicBroker σ).Records log)
    (hworld : log world = []) {actions : List (Action σ)}
    (hfits : Along (Link.step lib) (fun link action => Fits link action ∧ KeepsLog log link action)
      (start profile client world router eventHandler streamHandler) actions) :
    let ran := run (Link.step lib)
      (start profile client world router eventHandler streamHandler) actions
    (log ran.1.server.world ++ streamsOf ran.1.server.broker.tasks ++
        eventStreams ran.1.server.core ++
        wireStreams lib ran.1.server.core.inbound ran.1.toServer).map streamOnWire =
      (streamedIn ran.2).map streamOnWire := by
  have hsound := sound_start lib hprofile client world router eventHandler streamHandler
  have hstart : Conserved lib router log
      (start profile client world router eventHandler streamHandler) [] := by
    refine ⟨hsound, hrecords.of_eq rfl rfl rfl, fun c hmem => absurd hmem List.not_mem_nil, ?_⟩
    rw [streams]
    show (log world ++ [] ++ [] ++ wireStreams lib
        (AxtpCore.configure _ profile).inbound []).map _ =
      []
    rw [wireStreams_of_holds (holds_nil lib hprofile _ rfl), hworld]
    rfl
  have hrun := hfits.trace_invariant (I := Conserved lib router log)
    (fun _ _ _ h hfits => h.step hfits.1 hfits.2) hstart
  rw [List.nil_append] at hrun
  exact hrun.accounted

/-- A handler that logs each payload, and throws each time. -/
def logAndThrow : StreamHandler (List StreamPayload) := fun log _ stream =>
  (log ++ [stream], .threw)

theorem records_logAndThrow :
    ({ router := { registry := {} }, streamHandler := some logAndThrow } :
      BasicBroker (List StreamPayload)).Records id where
  stream := ⟨logAndThrow, rfl, fun _ _ _ => rfl⟩
  event handler hmem := by cases hmem
  dispatch _ _ := rfl
  deferred s s' rpc response poll hdispatch := by cases congrArg Prod.snd hdispatch

/-- Two payloads whose bytes are cut in the middle. -/
def twoStreams : List (Action (List StreamPayload)) :=
  [.stream { streamId := 1, data := [1, 2] }, .stream { streamId := 1, seqId := 1, data := [3] },
    .deliverToServer 50 fun _ => { ingressToken := .returned 7 }, .drainCoreEvents,
    .pollBroker 16, .deliverToServer 100 fun _ => {}, .drainCoreEvents]

theorem streams_conserved_twoStreams :
    let ran := run (Link.step noJson)
      (start {} () [] { registry := {} } none (some logAndThrow)) twoStreams
    (id ran.1.server.world).length = 1 ∧
      (id ran.1.server.world ++ streamsOf ran.1.server.broker.tasks ++
          eventStreams ran.1.server.core ++
          wireStreams noJson ran.1.server.core.inbound ran.1.toServer).map streamOnWire =
        (streamedIn ran.2).map streamOnWire :=
  ⟨by decide +kernel, streams_conserved noJson ⟨by decide, by decide, by decide⟩ () id
    records_logAndThrow rfl (by decide +kernel)⟩

end Link

end Axtp
