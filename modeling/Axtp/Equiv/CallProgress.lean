/-
  Every call over a link can be answered.

  From any reachable state there is a way on: the bytes arrive, the server runs its
  tasks one by one, polls what it deferred, sends its results and the answers arrive
  (`Reaches`). Each stage empties one of the places where a call can be, and fills none
  that is empty already; at the end nothing is in flight, so no call is pending.
-/
import Axtp.Equiv.BrokerConservation
import Axtp.Equiv.CallConservation

namespace Axtp

open Run InboundProcessor Transfer PayloadCodec

namespace BasicBroker

open BusinessRouter BrokerConservation

variable {σ : Type*} {T : RpcPayload → Prop} {router : BusinessRouter σ} {broker : BasicBroker σ}

/-- What is deferred is done at its first poll. -/
def Prompt (router : BusinessRouter σ) : Prop :=
  ∀ s s' rpc response poll, router.dispatchRpcRequest s rpc =
    (s', some { response, deferredPoll := some poll }) → ∀ t, (poll t).2 ≠ some none

theorem tasks_runTasks_one (broker : BasicBroker σ) (s : σ) :
    (runTasks 1 broker s).1.tasks = broker.tasks.tail := by
  rcases hqueue : broker.tasks with _ | ⟨task, tasks⟩
  · rw [runTasks_of_nil hqueue]
    exact hqueue
  · have hrest := tasks_runTask { broker with tasks } s task
    rw [runTasks_of_cons hqueue]
    generalize runTask { broker with tasks } s task = result at hrest ⊢
    obtain ⟨broker', s', _ | _⟩ := result <;> exact hrest

/-- A poll for one task takes it off the queue, also if it throws. -/
theorem tasks_poll_one (broker : BasicBroker σ) (s : σ) :
    (broker.poll s 1).1.tasks = broker.tasks.tail := by
  have hstate := pollPendingCompletions_eq broker s
  have htasks : (broker.pollPendingCompletions s).1.tasks = broker.tasks := by rw [hstate]
  exact (tasks_runTasks_one _ _).trans (congrArg List.tail htasks)

/-- A poll for no task leaves the tasks alone and finishes what is prompt. -/
theorem poll_zero (h : Serving T router broker) (hprompt : Prompt router) (s : σ) :
    (broker.poll s 0).1.tasks = broker.tasks ∧ (broker.poll s 0).1.pendingCompletions = [] := by
  have hstate := pollPendingCompletions_eq broker s
  have hpoll : (broker.poll s 0).1 = (broker.pollPendingCompletions s).1 := rfl
  rw [hpoll, hstate]
  refine ⟨rfl, List.eq_nil_iff_forall_not_mem.mpr fun c hc => ?_⟩
  obtain ⟨hmem, t, hpending⟩ := (pollCompletions_spec broker.pendingCompletions s).1 c hc
  obtain ⟨request, -, s', s'', hdispatch⟩ := h.completions c hmem
  exact hprompt s' s'' request _ _ hdispatch t hpending

end BasicBroker

namespace Link

open BasicBroker BusinessRouter

variable {σ τ : Type*} {lib : JsonLibrary} {router : BusinessRouter σ}

/-! ### Ways on -/

/-- The link can go on to another state, without a call of the client. -/
def Reaches (lib : JsonLibrary) (link link' : Link σ τ) : Prop :=
  ∃ actions, Along (Link.step lib) Fits link actions ∧
    run (Link.step lib) link actions = (link', [])

theorem Reaches.refl (link : Link σ τ) : Reaches lib link link := ⟨[], trivial, rfl⟩

theorem Reaches.single {link link' : Link σ τ} (action : Action σ) (hfits : Fits link action)
    (hstep : link.step lib action = (link', [])) : Reaches lib link link' :=
  ⟨[action], ⟨hfits, trivial⟩, by rw [run_singleton, hstep]⟩

theorem Reaches.trans {link link' link'' : Link σ τ} (h : Reaches lib link link')
    (h' : Reaches lib link' link'') : Reaches lib link link'' := by
  obtain ⟨actions, hfits, hrun⟩ := h
  obtain ⟨actions', hfits', hrun'⟩ := h'
  refine ⟨actions ++ actions', hfits.append (by rw [hrun]; exact hfits'), ?_⟩
  rw [run_append, hrun, hrun', List.nil_append]

theorem Unlost.reaches {link link' : Link σ τ} {events : List Event}
    (h : Unlost lib router link events) (hrouter : NeverThrows router)
    (hreaches : Reaches lib link link') : Unlost lib router link' events := by
  obtain ⟨actions, hfits, hrun⟩ := hreaches
  have hran := h.run hrouter hfits
  rwa [hrun, List.append_nil] at hran

/-- The server is attached, and there is room for every reply in its frames. -/
structure Ready (router : BusinessRouter σ) (server : AxtpEndpoint σ) : Prop where
  attached : server.attached = true
  room : ∀ request reply, Replies router request reply →
    FitsFrames server.core.outbound.messageFragmenter.maxFrameSize
      (PayloadEncoder.fixedEnvelope reply)

/-- Nothing waits before the results of the broker. -/
structure Served (lib : JsonLibrary) (link : Link σ τ) : Prop where
  wire : wireIds lib link.server.core.inbound link.toServer = []
  events : link.server.core.events = []
  tasks : link.server.broker.tasks = []
  completions : link.server.broker.pendingCompletions = []

section

variable {link : Link σ τ} {events : List Event}

variable (lib) in
/-- Nothing is on its way once all bytes have arrived. -/
theorem wireIds_after {inbound : InboundProcessor} {bytes : Bytes}
    (h : inbound.EmptiedBy bytes) : wireIds lib (inbound.after bytes) [] = [] := by
  have hscan : FrameScan.frameScanner.scan [] = ([], []) :=
    FrameScan.frameScanner.scan_of_wait rfl
  rw [wireIds, messagesIn, h.buffer, List.append_nil, hscan]
  rfl

/-- Everything on its way to the server arrives, and is submitted. -/
theorem reaches_submitted (h : Unlost lib router link events) (hready : Ready router link.server) :
    ∃ link', Reaches lib link link' ∧ link'.client = link.client ∧ Ready router link'.server ∧
      wireIds lib link'.server.core.inbound link'.toServer = [] ∧
      link'.server.core.events = [] := by
  obtain ⟨arrived, rest, core, newEvents, hholds, hstep, -, -, -, houtbound, -, -⟩ :=
    step_deliverToServer h.sound.carrying.toServer link.toServer.length fun _ => {}
  rw [List.take_length, List.drop_length] at hstep
  have hwire := wireIds_after lib hholds.emptied
  refine ⟨_,
    (Reaches.single (.deliverToServer link.toServer.length fun _ => {}) trivial hstep).trans
    (Reaches.single .drainCoreEvents trivial rfl), rfl, ?_, hwire, rfl⟩
  refine ⟨hready.attached, fun request reply hreplies => ?_⟩
  exact houtbound ▸ hready.room request reply hreplies

/-- The tasks are run one by one. -/
theorem reaches_ran (hready : Ready router link.server)
    (hwire : wireIds lib link.server.core.inbound link.toServer = [])
    (hevents : link.server.core.events = []) :
    ∃ link', Reaches lib link link' ∧ link'.client = link.client ∧ Ready router link'.server ∧
      wireIds lib link'.server.core.inbound link'.toServer = [] ∧
      link'.server.core.events = [] ∧ link'.server.broker.tasks = [] := by
  induction htasks : link.server.broker.tasks generalizing link with
  | nil => exact ⟨link, .refl link, rfl, hready, hwire, hevents, htasks⟩
  | cons task tasks ih =>
    have hpoll : (link.step lib (.pollBroker 1)).1.server.broker.tasks = tasks := by
      show (link.server.broker.poll link.server.world 1).1.tasks = tasks
      rw [tasks_poll_one, htasks, List.tail_cons]
    have hready' : Ready router (link.step lib (.pollBroker 1)).1.server :=
      ⟨hready.attached, hready.room⟩
    obtain ⟨link', hreaches, hclient, hrest⟩ := ih hready' hwire hevents hpoll
    exact ⟨link', (Reaches.single (.pollBroker 1) trivial rfl).trans hreaches, hclient, hrest⟩

/-- What was deferred is polled. -/
theorem reaches_served (h : Unlost lib router link events) (hprompt : Prompt router)
    (hready : Ready router link.server)
    (hwire : wireIds lib link.server.core.inbound link.toServer = [])
    (hevents : link.server.core.events = []) (htasks : link.server.broker.tasks = []) :
    ∃ link', Reaches lib link link' ∧ link'.client = link.client ∧ Ready router link'.server ∧
      Served lib link' := by
  obtain ⟨htasks', hcompletions⟩ :=
    poll_zero h.sound.carrying.broker hprompt link.server.world
  refine ⟨_, Reaches.single (.pollBroker 0) trivial rfl, rfl, ⟨hready.attached, hready.room⟩, ?_⟩
  exact ⟨hwire, hevents, htasks'.trans htasks, hcompletions⟩

/-- The results are sent one by one. -/
theorem reaches_sent (h : Unlost lib router link events) (hrouter : NeverThrows router)
    (hready : Ready router link.server) (hserved : Served lib link) :
    ∃ link', Reaches lib link link' ∧ link'.client = link.client ∧
      link'.server.attached = true ∧ Served lib link' ∧ link'.server.broker.results = [] := by
  -- on the results, each of which is sent and leaves the queue
  induction hresults : link.server.broker.results generalizing link with
  | nil => exact ⟨link, .refl link, rfl, hready.attached, hserved, hresults⟩
  | cons result results ih =>
    have hfits : Fits link .handleBrokerResult := by
      intro result' hmem
      rw [hresults] at hmem
      obtain rfl := Option.some.inj hmem
      obtain ⟨response, hvalue, request, -, hreplies⟩ :=
        h.sound.carrying.broker.results result (hresults ▸ List.mem_cons_self ..)
      rw [hvalue, rpc_rpcResult]
      exact hready.room request response hreplies
    obtain ⟨hnil, -⟩ | ⟨result', results', hresults', -, hsendable, hstep⟩ :=
      handleBrokerResult_cases h.sound.carrying hfits
    · rw [hnil] at hresults
      cases hresults
    · obtain ⟨-, rfl⟩ := List.cons.inj (hresults.symm.trans hresults')
      obtain ⟨hmode, hmin, hmax⟩ := h.sound.carrying.server
      obtain ⟨frames, message, hsend, -⟩ := send_spec hmode hmin hmax lib hsendable
      have hfirst : Reaches lib link (link.step lib .handleBrokerResult).1 :=
        Reaches.single .handleBrokerResult hfits rfl
      have hnext := h.reaches hrouter hfirst
      obtain ⟨link', hreaches, hclient, hrest⟩ := ih hnext
        (by simp only [step, Link.onServer, AxtpEndpoint.step, hstep _ _ hsend]
            exact ⟨hready.attached, hready.room⟩)
        (by simp only [step, Link.onServer, AxtpEndpoint.step, hstep _ _ hsend]
            exact ⟨hserved.wire, hserved.events, hserved.tasks, hserved.completions⟩)
        (by simp only [step, Link.onServer, AxtpEndpoint.step, hstep _ _ hsend])
      exact ⟨link', hfirst.trans hreaches, hclient, hrest⟩

/-- A call that is awaited is resolved by what arrives, or still awaited. -/
theorem resolved_of_arrived {called : List RpcPayload} {payloads : List Payload}
    (hall : ∀ payload ∈ payloads, FromServer router called payload) {table : PendingCallTable}
    {id : UInt32} (hid : id ∈ table.pending) :
    id ∈ (resolveAll table payloads).pending ∨
      ((resolveAll table payloads).resolved id).isSome := by
  refine resolveAll_invariant hall
    (I := fun table => id ∈ table.pending ∨ (table.resolved id).isSome)
    (fun table response _ h => ?_) (.inl hid)
  unfold PendingCallTable.resolve
  by_cases heq : id = response.requestId
  · subst heq
    split_ifs
    · exact h
    · exact h
    all_goals exact .inr (by simp only [Function.update_self, Option.isSome_some])
  · split_ifs
    · exact h
    · exact h
    all_goals
      refine h.imp (fun hmem => Finset.mem_erase.mpr ⟨heq, hmem⟩) fun hsome => ?_
      simp only [Function.update_of_ne heq]
      exact hsome

/-- The answers are handed to the transport, and arrive. -/
theorem reaches_answered (h : Unlost lib router link events) (hrouter : NeverThrows router)
    (hattached : link.server.attached = true) (hserved : Served lib link)
    (hresults : link.server.broker.results = []) :
    ∃ link', Reaches lib link link' ∧ ∀ id ∈ link.client.core.pendingCalls.pending,
      id ∉ link'.client.core.pendingCalls.pending ∧
        (link'.client.core.pendingCalls.resolved id).isSome := by
  have hflush : link.step lib .flushOutbound =
      ({ link with
          server := { link.server with core := { link.server.core with outboundBytes := [] } }
          toClient := link.toClient ++ link.server.core.waiting }, []) := by
    simp only [step, Link.onServer, AxtpEndpoint.step, AxtpEndpoint.flushOutbound, hattached,
      if_true, AxtpEndpoint.bytesOf_packets]
    rfl
  have hfirst := Reaches.single .flushOutbound trivial hflush
  have hflushed := h.reaches hrouter hfirst
  obtain ⟨arrived, rest, core, hholds, hall, hstep, -, -, -, hresolve⟩ :=
    step_deliverToClient hflushed.sound.carrying.toClient
      (link.toClient ++ link.server.core.waiting).length
  rw [List.take_length, List.drop_length] at hstep
  have hsecond := Reaches.single (.deliverToClient _) trivial hstep
  have hlast := hflushed.reaches hrouter hsecond
  have hwire : wireIds lib (link.client.core.inbound.after
      (link.toClient ++ link.server.core.waiting)) [] = [] := by
    have hemptied := hholds.emptied
    rw [show AxtpCore.waiting { link.server.core with outboundBytes := [] } = [] from rfl,
      List.append_nil] at hemptied
    exact wireIds_after lib hemptied
  refine ⟨_, hfirst.trans hsecond, fun id hid => ?_⟩
  have hnot : id ∉ core.pendingCalls.pending := by
    intro hpending
    -- whatever is pending is in flight, but nothing is
    rcases hlast.inFlight id hpending with hrequest | hreply
    · rcases mem_requestsInFlight.mp hrequest with hmem | hmem | hmem
      · exact absurd (hserved.wire ▸ hmem) List.not_mem_nil
      · rw [eventIds, show _ = [] from hserved.events] at hmem
        exact absurd hmem List.not_mem_nil
      · rcases mem_ids.mp hmem with htask | ⟨c, hc, -⟩ | ⟨result, hresult, -⟩
        · rw [show _ = [] from hserved.tasks] at htask
          exact absurd htask List.not_mem_nil
        · exact absurd (hserved.completions ▸ hc) List.not_mem_nil
        · exact absurd (hresults ▸ hresult) List.not_mem_nil
    · have hmem : id ∈ wireIds lib (link.client.core.inbound.after
          (link.toClient ++ link.server.core.waiting)) [] := hreply
      rw [hwire] at hmem
      exact absurd hmem List.not_mem_nil
  refine ⟨hnot, ?_⟩
  have hcases := resolved_of_arrived
    (fun payload hmem => hall payload (List.mem_append_left _ hmem)) hid
  show (core.pendingCalls.resolved id).isSome
  rw [hresolve] at hnot ⊢
  exact hcases.resolve_left hnot

/-- **A way on**: whatever is pending, there is a way on that resolves it. -/
theorem Unlost.reaches_resolved (h : Unlost lib router link events) (hrouter : NeverThrows router)
    (hprompt : Prompt router) (hready : Ready router link.server) :
    ∃ link', Reaches lib link link' ∧ ∀ id ∈ link.client.core.pendingCalls.pending,
      id ∉ link'.client.core.pendingCalls.pending ∧
        (link'.client.core.pendingCalls.resolved id).isSome := by
  obtain ⟨link1, hreaches1, hclient1, hready1, hwire1, hevents1⟩ := reaches_submitted h hready
  obtain ⟨link2, hreaches2, hclient2, hready2, hwire2, hevents2, htasks2⟩ :=
    reaches_ran hready1 hwire1 hevents1
  have h2 := (h.reaches hrouter hreaches1).reaches hrouter hreaches2
  obtain ⟨link3, hreaches3, hclient3, hready3, hserved3⟩ :=
    reaches_served h2 hprompt hready2 hwire2 hevents2 htasks2
  have h3 := h2.reaches hrouter hreaches3
  obtain ⟨link4, hreaches4, hclient4, hattached4, hserved4, hresults4⟩ :=
    reaches_sent h3 hrouter hready3 hserved3
  obtain ⟨link5, hreaches5, hresolved⟩ :=
    reaches_answered (h3.reaches hrouter hreaches4) hrouter hattached4 hserved4 hresults4
  refine ⟨link5,
    (((hreaches1.trans hreaches2).trans hreaches3).trans hreaches4).trans hreaches5, ?_⟩
  rw [hclient4, hclient3, hclient2, hclient1] at hresolved
  exact hresolved

/-! ### From the start -/

/-- The server keeps its transport and its frame size. -/
theorem server_step (h : Sound lib router link events) {action : Action σ}
    (hfits : Fits link action) :
    (link.step lib action).1.server.attached = link.server.attached ∧
      (link.step lib action).1.server.core.outbound.messageFragmenter.maxFrameSize =
        link.server.core.outbound.messageFragmenter.maxFrameSize := by
  -- three actions change the server, and none of them these two
  cases action with
  | deliverToServer count ingress =>
    obtain ⟨arrived, rest, core, newEvents, -, hstep, -, -, -, houtbound, -, -⟩ :=
      step_deliverToServer h.carrying.toServer count ingress
    rw [hstep]
    exact ⟨rfl, by rw [← houtbound]⟩
  | handleBrokerResult =>
    obtain ⟨-, hstep⟩ | ⟨result, results, -, -, hsendable, hstep⟩ :=
      handleBrokerResult_cases h.carrying hfits
    · simp only [Link.step, Link.onServer, AxtpEndpoint.step, hstep, and_self]
    · obtain ⟨hmode, hmin, hmax⟩ := h.carrying.server
      obtain ⟨frames, message, hsend, -⟩ := send_spec hmode hmin hmax lib hsendable
      refine ⟨?_, ?_⟩ <;>
        simp only [Link.step, Link.onServer, AxtpEndpoint.step, hstep _ _ hsend]
      rfl
  | flushOutbound =>
    obtain ⟨core, hserver, houtbound, -⟩ := flushOutbound_cases link.server
    simp only [Link.step, Link.onServer, AxtpEndpoint.step, hserver, houtbound, and_self]
  | call request => exact ⟨rfl, rfl⟩
  | abandon requestId => exact ⟨rfl, rfl⟩
  | take requestId => exact ⟨rfl, rfl⟩
  | stream payload => exact ⟨rfl, rfl⟩
  | deliverToClient count => exact ⟨rfl, rfl⟩
  | drainCoreEvents => exact ⟨rfl, rfl⟩
  | pollBroker maxTasks => exact ⟨rfl, rfl⟩
  | environment world => exact ⟨rfl, rfl⟩

end

/-- **Every call can be answered.** From every state that a link reaches there is a way on, without
a call of the client, after which every call that was pending is resolved; the server must not
throw while it dispatches, finish what it defers when it is polled, and have room for its replies
in its frames. Its other handlers may throw whenever they like. -/
theorem calls_can_be_answered (lib : JsonLibrary) {profile : TransportProfile}
    (hprofile : FramesFit profile) (client : τ) (world : σ) (hrouter : NeverThrows router)
    (hprompt : Prompt router)
    (hroom : ∀ request reply, Replies router request reply →
      FitsFrames profile.preferredFrameSize (PayloadEncoder.fixedEnvelope reply))
    (eventHandler : Option (EventHandler σ)) (streamHandler : Option (StreamHandler σ))
    {actions : List (Action σ)}
    (hfits : Along (Link.step lib) Fits
      (start profile client world router eventHandler streamHandler) actions) :
    let link := (run (Link.step lib)
      (start profile client world router eventHandler streamHandler) actions).1
    ∃ link', Reaches lib link link' ∧ ∀ id ∈ link.client.core.pendingCalls.pending,
      id ∉ link'.client.core.pendingCalls.pending ∧
        (link'.client.core.pendingCalls.resolved id).isSome := by
  have hsize : (start profile client world router eventHandler
      streamHandler).server.core.outbound.messageFragmenter.maxFrameSize =
        profile.preferredFrameSize := by
    have hpositive : profile.preferredFrameSize > 0 := by have := hprofile.min; omega
    exact (AxtpCore.configure_maxFrameSize _ profile).trans (if_pos hpositive)
  have hstart : Unlost lib router
      (start profile client world router eventHandler streamHandler) [] ∧
      (start profile client world router eventHandler streamHandler).server.attached = true ∧
      (start profile client world router eventHandler
        streamHandler).server.core.outbound.messageFragmenter.maxFrameSize =
        profile.preferredFrameSize :=
    ⟨unlost_start lib hprofile client world router eventHandler streamHandler, rfl, hsize⟩
  -- the run keeps what is in flight, and the server attached as it was set up
  have hran := hfits.trace_invariant
    (I := fun link events => Unlost lib router link events ∧ link.server.attached = true ∧
      link.server.core.outbound.messageFragmenter.maxFrameSize = profile.preferredFrameSize)
    (fun link events action ⟨h, hattached, hsize⟩ hfits => by
      obtain ⟨hattached', hsize'⟩ := server_step h.sound hfits
      exact ⟨h.step hrouter hfits, hattached'.trans hattached, hsize'.trans hsize⟩) hstart
  obtain ⟨hunlost, hattached, hsize⟩ := hran
  exact hunlost.reaches_resolved hrouter hprompt ⟨hattached, by rw [hsize]; exact hroom⟩

theorem prompt_ackRouter : Prompt ackRouter := by
  intro s s' rpc response poll hdeferred
  obtain ⟨response', hdispatch, -⟩ := dispatch_ackRouter s rpc
  rw [hdispatch] at hdeferred
  cases congrArg Prod.snd hdeferred

theorem room_ackRouter (request reply : RpcPayload) (h : Replies ackRouter request reply) :
    FitsFrames 4096 (PayloadEncoder.fixedEnvelope reply) := by
  have hbody : reply.body = [] := by
    cases h with
    | @dispatched s _ _ hreply =>
      obtain ⟨response, hdispatch, hbody⟩ := dispatch_ackRouter s request
      rw [hdispatch] at hreply
      cases congrArg Prod.snd hreply
      exact hbody
    | @completed s _ _ _ _ _ _ hreply =>
      obtain ⟨response, hdispatch, -⟩ := dispatch_ackRouter s request
      rw [hdispatch] at hreply
      cases congrArg Prod.snd hreply
    | @pollThrew s _ _ _ _ _ hreply =>
      obtain ⟨response, hdispatch, -⟩ := dispatch_ackRouter s request
      rw [hdispatch] at hreply
      cases congrArg Prod.snd hreply
  have hlength : (PayloadEncoder.fixedEnvelope reply).length ≤ 32 := by
    simp [PayloadEncoder.fixedEnvelope, hbody]
  exact ⟨by omega, fun hlarge => by omega⟩

theorem calls_can_be_answered_halfCall :
    let link := (run (Link.step noJson) (start {} () () ackRouter none none) halfCall).1
    1 ∈ link.client.core.pendingCalls.pending ∧
      ∃ link', Reaches noJson link link' ∧ ∀ id ∈ link.client.core.pendingCalls.pending,
        id ∉ link'.client.core.pendingCalls.pending ∧
          (link'.client.core.pendingCalls.resolved id).isSome :=
  ⟨by decide +kernel, calls_can_be_answered noJson ⟨by decide, by decide, by decide⟩ () ()
    neverThrows_ackRouter prompt_ackRouter room_ackRouter none none (by decide +kernel)⟩

end Link

end Axtp
