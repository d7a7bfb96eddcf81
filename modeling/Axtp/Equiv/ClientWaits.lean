/-
  The waits of `AxtpClient`: `callRaw`, `heartbeat` and `ensureAppReady`.

  They poll until a deadline, and whatever else runs meanwhile is not the client's code.
  Of that code one thing is assumed, that the clock does not go back while it runs
  (`Environment.Steady`), as `std::chrono::steady_clock` promises. Then:

  * the bound on the turns of a wait is never what ends it (`repeatUntil_eq`), because a
    turn that goes on has found the deadline ahead and sleeps a millisecond;
  * `callRaw` and `heartbeat` always return, and let no exception of a hook, a handler or
    the transport escape (`callRaw_returns`, `heartbeat_returns`).

  Of the results, an app-ready result is ok exactly if its status is success
  (`ensureAppReady_ok_iff`), and a call that succeeds was handled by the client or
  answered by the peer (`callRawExit_success`).
-/
import Axtp.Sdk.AxtpClient

namespace Axtp

open Throwing

variable {σ : Type}

namespace AxtpClient

/-! ### The clock does not go back -/

/-- The clock is not behind what it was. -/
def NotEarlier (client client' : AxtpClient σ) : Prop := client.clock ≤ client'.clock

instance : IsPreorder (AxtpClient σ) NotEarlier where
  refl client := le_refl client.clock
  trans _ _ _ := le_trans (α := ℤ)

/-- The clock does not go back while the computation runs. -/
abbrev Steady {α : Type} (m : Throwing (AxtpClient σ) α) : Prop := Keeps NotEarlier m

theorem steady_modify {f : AxtpClient σ → AxtpClient σ}
    (h : ∀ client, (f client).clock = client.clock) : Steady (modify f) :=
  keeps_modify fun client => (h client).ge

theorem steady_update {α : Type} {f : AxtpClient σ → AxtpClient σ × α}
    (h : ∀ client, (f client).1.clock = client.clock) : Steady (update f) :=
  keeps_update fun client => (h client).ge

theorem steady_onEndpoint (call : AxtpEndpoint σ → AxtpEndpoint σ × Exit) :
    Steady (onEndpoint call) := by
  intro client
  show client.clock ≤ (onEndpoint call client).1.clock
  unfold onEndpoint
  split <;> exact le_refl client.clock

end AxtpClient

/-- Nothing that the client polls or sends with turns the clock back. -/
structure Environment.Steady (env : Environment σ) : Prop where
  sendBytes : ∀ packet, AxtpClient.Steady (env.sendBytes packet)
  pollTransport : AxtpClient.Steady env.pollTransport
  pollBroker : AxtpClient.Steady env.pollBroker

/-- No hook of the call turns the clock back. -/
structure CallOptions.Steady (options : CallOptions σ) : Prop where
  cancelled : ∀ cancelled ∈ options.cancelled, AxtpClient.Steady cancelled
  progress : ∀ progress ∈ options.progress, AxtpClient.Steady progress

structure AppReadyOptions.Steady (options : AppReadyOptions σ) : Prop where
  trace : ∀ trace ∈ options.trace, ∀ event, AxtpClient.Steady (trace event)
  cancelled : ∀ cancelled ∈ options.cancelled, AxtpClient.Steady cancelled
  progress : ∀ progress ∈ options.progress, AxtpClient.Steady progress

/-- The result of a setup that is over: ok, or with the status of what went wrong. -/
def AppReadyResult.Settled (result : AppReadyResult) : Prop :=
  result.ok = true ↔ result.statusCode = ErrorCode.success

namespace AxtpClient

section Steady

variable {lib : JsonLibrary} {env : Environment σ}

theorem steady_flushPackets (henv : env.Steady) (packets : ℕ) :
    Steady (flushPackets env packets) := by
  induction packets with
  | zero => exact keeps_pure ()
  | succ packets ih =>
    refine Keeps.bind (steady_update fun client => ?_) fun popped => ?_
    · unfold tryPopOutboundPacket
      split <;> rfl
    · rcases popped with _ | packet
      · exact keeps_pure ()
      · exact (henv.sendBytes packet).bind fun _ => ih

theorem steady_flushOutbound (henv : env.Steady) : Steady (flushOutbound env) := by
  refine keeps_get.bind fun client => ?_
  split
  · exact steady_flushPackets henv (env.packets client)
  · exact keeps_pure ()

theorem steady_poll (henv : env.Steady) : Steady (poll lib env) := by
  refine keeps_get.bind fun client => ?_
  have hrest : Steady (do
      modify fun client => { client with endpoint := client.endpoint.drainCoreEvents }
      env.pollBroker
      onEndpoint fun endpoint =>
        AxtpEndpoint.drainBrokerResults lib endpoint.broker.results.length endpoint
      flushOutbound env) := by
    refine Keeps.bind (steady_modify fun _ => rfl) fun _ => ?_
    refine henv.pollBroker.bind fun _ => ?_
    exact (steady_onEndpoint _).bind fun _ => steady_flushOutbound henv
  dsimp only
  split
  · exact henv.pollTransport.bind fun _ => hrest
  · exact hrest

theorem steady_invokeProgress {progress : Option (Throwing (AxtpClient σ) Unit)}
    (h : ∀ hook ∈ progress, Steady hook) : Steady (invokeProgress progress) := by
  rcases progress with _ | hook
  · exact keeps_pure none
  · refine Keeps.bind (h hook rfl).attempt fun result => ?_
    rcases result with _ | _ <;> exact keeps_pure _

theorem steady_invokeCancellation {cancelled : Option (Throwing (AxtpClient σ) Bool)}
    (h : ∀ hook ∈ cancelled, Steady hook) : Steady (invokeCancellation cancelled) := by
  rcases cancelled with _ | hook
  · exact keeps_pure none
  · refine Keeps.bind (h hook rfl).attempt fun result => ?_
    rcases result with _ | _ | _ <;> exact keeps_pure _

end Steady

/-! ### Deadlines -/

/-- The nanoseconds to the deadline. -/
def timeTo (deadline : ℤ) (client : AxtpClient σ) : ℕ := (deadline - client.clock).toNat

/-- A turn that goes on began before the deadline and took time. -/
abbrev Waits {α : Type} (deadline : ℤ) (turn : Throwing (AxtpClient σ) (Option α)) : Prop :=
  Advances (timeTo deadline · > timeTo deadline ·) turn

/-- The bound on the turns of a wait changes nothing. -/
theorem repeatUntil_eq {α : Type} {deadline : ℤ} {turn : Throwing (AxtpClient σ) (Option α)}
    (hturn : Waits deadline turn) {turns : ℕ} {client : AxtpClient σ}
    (h : timeTo deadline client < turns) :
    repeatUntil deadline turn client = repeatWithin turn turns client :=
  repeatWithin_eq hturn (Nat.lt_succ_self _) h

theorem returns_repeatUntil {α : Type} {deadline : ℤ}
    {turn : Throwing (AxtpClient σ) (Option α)} (hturn : Waits deadline turn)
    (hreturns : Returns turn) : Returns (repeatUntil deadline turn) :=
  fun _ => hreturns.repeatWithin hturn (Nat.lt_succ_self _)

section Waits

variable {α β : Type} {env : Environment σ} {deadline : ℤ}

theorem yields_some (m : Throwing (AxtpClient σ) β) (f : β → α) :
    Yields (· ≠ none) (do return some (f (← m)) : Throwing (AxtpClient σ) (Option α)) :=
  yields_bind fun b => yields_pure (Option.some_ne_none (f b))

theorem waits_some (m : Throwing (AxtpClient σ) β) (f : β → α) :
    Waits deadline (do return some (f (← m)) : Throwing (AxtpClient σ) (Option α)) :=
  advances_of_yields (yields_some m f)

/-- What comes before the rest of a turn only lets time pass. -/
theorem Waits.bind {m : Throwing (AxtpClient σ) β}
    {f : β → Throwing (AxtpClient σ) (Option α)} (hm : Steady m)
    (hf : ∀ b, Waits deadline (f b)) : Waits deadline (m >>= f) := by
  refine Advances.bind hm hf fun client client' client'' hkept hadvanced => ?_
  have hearlier : client.clock ≤ client'.clock := hkept
  have hcloser : timeTo deadline client' > timeTo deadline client'' := hadvanced
  show timeTo deadline client > timeTo deadline client''
  unfold timeTo at hcloser ⊢
  omega

/-- Time has passed. -/
def Later (client client' : AxtpClient σ) : Prop := client.clock < client'.clock

theorem later_sleep : Advances Later (do
    sleep
    return none : Throwing (AxtpClient σ) (Option α)) := by
  intro client client' hreturned
  obtain rfl : _ = client' := congrArg Prod.fst hreturned
  show client.clock < client.clock + 1000000
  omega

theorem Later.bind {m : Throwing (AxtpClient σ) β}
    {f : β → Throwing (AxtpClient σ) (Option α)} (hm : Steady m)
    (hf : ∀ b, Advances Later (f b)) : Advances Later (m >>= f) :=
  Advances.bind hm hf fun _ _ _ => lt_of_le_of_lt (α := ℤ)

/-- A turn that finds the deadline ahead and goes on, where the rest of it takes time. -/
theorem waits_of_now {late rest : Throwing (AxtpClient σ) (Option α)}
    (hlate : Yields (· ≠ none) late) (hrest : Advances Later rest) :
    Waits deadline (do if (← now env) ≥ deadline then late else rest) := by
  intro client client' hreturned
  obtain ⟨_, time, hnow, hreturned⟩ := returned_of_bind hreturned
  obtain ⟨rfl, htime⟩ := Prod.mk.inj hnow
  obtain rfl : client.clock + env.elapsed client = time := Option.some.inj htime
  split at hreturned
  · exact absurd rfl (hlate _ _ _ hreturned)
  · rename_i hahead
    have hlater : client.clock + env.elapsed client < client'.clock :=
      hrest _ _ hreturned
    show timeTo deadline client > timeTo deadline client'
    unfold timeTo
    omega

end Waits

/-! ### The turns -/

section Turns

variable {lib : JsonLibrary} {env : Environment σ}

theorem waits_heartbeatTurn (henv : env.Steady) (controlId : UInt16) (deadline : ℤ)
    {progress : Option (Throwing (AxtpClient σ) Unit)}
    (hprogress : ∀ hook ∈ progress, Steady hook) :
    Waits deadline (heartbeatTurn lib env controlId deadline progress) := by
  -- the deadline is looked at first here, and what follows it ends with the sleep
  refine waits_of_now (yields_some _ _) ?_
  refine Later.bind (steady_poll henv).attempt fun polled => ?_
  rcases polled with _ | _
  · exact advances_of_yields (yields_some _ _)
  refine Later.bind (steady_invokeProgress hprogress) fun stopped => ?_
  rcases stopped with _ | code
  · refine Later.bind (steady_update fun _ => rfl) fun taken => ?_
    rcases taken with _ | ack
    · exact later_sleep
    · dsimp only
      split <;> exact advances_of_yields (yields_some _ _)
  · exact advances_of_yields (yields_some _ _)

/-- A turn of `callRaw` after the response of the call was looked for in vain. -/
theorem waits_unanswered (env : Environment σ) (request : RpcPayload) {options : CallOptions σ}
    (hoptions : options.Steady) (deadline : ℤ) (taken : Option RpcPayload) :
    Waits deadline (do
      match taken with
      | some response =>
        abandonRpcResponse request.requestId
        return some (response, CallExit.answeredAny)
      | none =>
        match ← invokeCancellation options.cancelled with
        | some code =>
          abandonRpcResponse request.requestId
          return some (makeErrorResponse request code, .stopped)
        | none =>
          if (← now env) ≥ deadline then
            abandonRpcResponse request.requestId
            return some (makeErrorResponse request ErrorCode.rpcResponseTimeout, .timedOut)
          else
            sleep
            return none) := by
  rcases taken with _ | response
  · refine Waits.bind (steady_invokeCancellation hoptions.cancelled) fun stopped => ?_
    rcases stopped with _ | code
    · exact waits_of_now (yields_some _ _) later_sleep
    · exact waits_some _ _
  · exact waits_some _ _

theorem waits_responseTurn (henv : env.Steady) (request : RpcPayload) {options : CallOptions σ}
    (hoptions : options.Steady) (deadline : ℤ) :
    Waits deadline (responseTurn lib env request options deadline) := by
  refine Waits.bind (steady_poll henv).attempt fun polled => ?_
  rcases polled with _ | _
  · exact waits_some _ _
  refine Waits.bind (steady_invokeProgress hoptions.progress) fun stopped => ?_
  rcases stopped with _ | code
  · refine Waits.bind (steady_update fun _ => rfl) fun taken => ?_
    rcases taken with _ | response
    · dsimp only
      -- both branches of `acceptAnyResponse` come to the same rest of the turn
      have hrest := waits_unanswered env request hoptions deadline
      split
      · exact Waits.bind (steady_update fun _ => rfl) hrest
      · exact Waits.bind (keeps_pure none) hrest
    · exact advances_of_yields (yields_pure (Option.some_ne_none _))
  · exact waits_some _ _

/-- One turn of the waits of `ensureAppReady`. -/
def waitTurn {α β : Type} (lib : JsonLibrary) (env : Environment σ)
    (options : AppReadyOptions σ) (deadline : ℤ) (waitOptions : Option (CallOptions σ))
    (result : AppReadyResult) (stage : String) (tryTake : Throwing (AxtpClient σ) (Option β))
    (receive : β → Throwing (AxtpClient σ) (Except AppReadyResult α)) :
    Throwing (AxtpClient σ) (Option (Except AppReadyResult α)) := do
  poll lib env
  match ← stopWaiting options waitOptions result stage with
  | some stopped => return some (.error stopped)
  | none =>
    match ← tryTake with
    | some message => return some (← receive message)
    | none =>
      match ← cancellationOrTimeout env options deadline waitOptions result stage with
      | some stopped => return some (.error stopped)
      | none =>
        sleep
        return none

theorem waitFor_eq {α β : Type} (lib : JsonLibrary) (env : Environment σ)
    (options : AppReadyOptions σ) (deadline : ℤ) (waitOptions : Option (CallOptions σ))
    (result : AppReadyResult) (stage : String) (tryTake : Throwing (AxtpClient σ) (Option β))
    (receive : β → Throwing (AxtpClient σ) (Except AppReadyResult α)) :
    waitFor lib env options deadline waitOptions result stage tryTake receive =
      repeatUntil deadline
        (waitTurn lib env options deadline waitOptions result stage tryTake receive) :=
  rfl

variable {options : AppReadyOptions σ} {waitOptions : Option (CallOptions σ)}

theorem steady_waitProgress (hoptions : options.Steady)
    (hwait : ∀ callOptions ∈ waitOptions, callOptions.Steady) :
    ∀ hook ∈ waitProgress options waitOptions, Steady hook := by
  rcases waitOptions with _ | callOptions
  · exact hoptions.progress
  · exact (hwait callOptions rfl).progress

theorem steady_waitCancelled (hoptions : options.Steady)
    (hwait : ∀ callOptions ∈ waitOptions, callOptions.Steady) :
    ∀ hook ∈ waitCancelled options waitOptions, Steady hook := by
  rcases waitOptions with _ | callOptions
  · exact hoptions.cancelled
  · exact (hwait callOptions rfl).cancelled

theorem steady_emitTrace (hoptions : options.Steady) (result : AppReadyResult)
    (event : AppReadyTraceEvent) (includeRandomSeed : Bool) :
    Steady (emitTrace options result event includeRandomSeed) := by
  unfold emitTrace
  split
  · exact keeps_pure ()
  · rename_i trace htrace
    exact hoptions.trace trace htrace _

theorem steady_stopWaiting (hoptions : options.Steady)
    (hwait : ∀ callOptions ∈ waitOptions, callOptions.Steady) (result : AppReadyResult)
    (stage : String) : Steady (stopWaiting options waitOptions result stage) := by
  refine Keeps.bind (steady_invokeProgress (steady_waitProgress hoptions hwait)) fun stopped => ?_
  rcases stopped with _ | statusCode
  · exact keeps_pure none
  · refine (steady_emitTrace hoptions _ _ _).bind fun _ => ?_
    refine Keeps.bind (Keeps.bind (steady_modify fun _ => rfl) fun _ => ?_) fun _ => ?_
    · exact keeps_pure _
    · exact keeps_pure _

/-- The deadline is ahead at the end. -/
theorem cancellationOrTimeout_none (hoptions : options.Steady)
    (hwait : ∀ callOptions ∈ waitOptions, callOptions.Steady) (deadline : ℤ)
    (result : AppReadyResult) (stage : String) :
    Advances (fun client client' => client.clock ≤ client'.clock ∧ client'.clock < deadline)
      (cancellationOrTimeout env options deadline waitOptions result stage) := by
  refine Advances.bind (R := NotEarlier)
    (steady_invokeCancellation (steady_waitCancelled hoptions hwait)) (fun stopped => ?_)
    fun _ _ _ hkept hend => ⟨le_trans (α := ℤ) hkept hend.1, hend.2⟩
  rcases stopped with _ | statusCode
  · intro client client' hreturned
    obtain ⟨_, time, hnow, hreturned⟩ := returned_of_bind hreturned
    obtain ⟨rfl, htime⟩ := Prod.mk.inj hnow
    obtain rfl : client.clock + env.elapsed client = time := Option.some.inj htime
    split at hreturned
    · exact absurd rfl (yields_bind (Q := (· ≠ none)) (fun _ => yields_some _ _) _ _ _ hreturned)
    · rename_i hahead
      obtain rfl : _ = client' := congrArg Prod.fst hreturned
      show client.clock ≤ client.clock + env.elapsed client ∧
        client.clock + env.elapsed client < deadline
      omega
  · exact advances_of_yields (yields_bind fun _ => yields_some _ _)

theorem waits_waitTurn {α β : Type} (henv : env.Steady) (hoptions : options.Steady)
    (hwait : ∀ callOptions ∈ waitOptions, callOptions.Steady) (deadline : ℤ)
    (result : AppReadyResult) (stage : String)
    {tryTake : Throwing (AxtpClient σ) (Option β)} (htryTake : Steady tryTake)
    (receive : β → Throwing (AxtpClient σ) (Except AppReadyResult α)) :
    Waits deadline
      (waitTurn lib env options deadline waitOptions result stage tryTake receive) := by
  refine Waits.bind (steady_poll henv) fun _ => ?_
  refine Waits.bind (steady_stopWaiting hoptions hwait result stage) fun stopped => ?_
  rcases stopped with _ | stopped
  swap
  · exact advances_of_yields (yields_pure (Option.some_ne_none _))
  refine Waits.bind htryTake fun message => ?_
  rcases message with _ | message
  · -- the deadline was ahead when the clock was last read, and the sleep comes after that
    refine Advances.bind_none (cancellationOrTimeout_none hoptions hwait deadline result stage)
      (fun stopped => yields_pure (Option.some_ne_none _)) later_sleep
      fun client client' client'' hahead hlater => ?_
    obtain ⟨hkept, hahead⟩ := hahead
    have hlater : client'.clock < client''.clock := hlater
    show timeTo deadline client > timeTo deadline client''
    unfold timeTo
    omega
  · exact waits_some _ _

/-- The waits of `ensureAppReady` go on for as long as the source lets them: more turns than they
are given would change nothing. -/
theorem waitFor_eq_repeatWithin {α β : Type} (henv : env.Steady) (hoptions : options.Steady)
    (hwait : ∀ callOptions ∈ waitOptions, callOptions.Steady) {deadline : ℤ}
    (result : AppReadyResult) (stage : String)
    {tryTake : Throwing (AxtpClient σ) (Option β)} (htryTake : Steady tryTake)
    (receive : β → Throwing (AxtpClient σ) (Except AppReadyResult α)) {turns : ℕ}
    {client : AxtpClient σ} (hturns : timeTo deadline client < turns) :
    waitFor lib env options deadline waitOptions result stage tryTake receive client =
      repeatWithin
        (waitTurn lib env options deadline waitOptions result stage tryTake receive) turns
        client := by
  rw [waitFor_eq]
  exact repeatUntil_eq
    (waits_waitTurn henv hoptions hwait deadline result stage htryTake receive) hturns

end Turns

/-! ### Nothing is thrown -/

section Returns

variable {lib : JsonLibrary} {env : Environment σ}

theorem returns_invokeProgress (progress : Option (Throwing (AxtpClient σ) Unit)) :
    Returns (invokeProgress progress) := by
  rcases progress with _ | hook
  · exact returns_pure none
  · refine (returns_attempt hook).bind fun result => ?_
    rcases result with _ | _ <;> exact returns_pure _

theorem returns_invokeCancellation (cancelled : Option (Throwing (AxtpClient σ) Bool)) :
    Returns (invokeCancellation cancelled) := by
  rcases cancelled with _ | hook
  · exact returns_pure none
  · refine (returns_attempt hook).bind fun result => ?_
    rcases result with _ | _ | _ <;> exact returns_pure _

theorem returns_now : Returns (now env) := returns_update _

theorem returns_finish (error : SdkError) :
    Returns (finish error : Throwing (AxtpClient σ) SdkError) :=
  (returns_modify _).bind fun _ => returns_pure error

theorem returns_conclude (result : AppReadyResult) (error : SdkError) :
    Returns (conclude result error : Throwing (AxtpClient σ) AppReadyResult) :=
  (returns_modify _).bind fun _ => returns_pure result

theorem returns_drawHeartbeatId :
    Returns (drawHeartbeatId : Throwing (AxtpClient σ) UInt16) := by
  refine Returns.bind (returns_update _) fun controlId => ?_
  split
  · exact returns_update _
  · exact returns_pure controlId

theorem returns_abandonRpcResponse (requestId : UInt32) :
    Returns (abandonRpcResponse requestId : Throwing (AxtpClient σ) Unit) :=
  returns_modify _

theorem returns_releaseUnsentRequestId (requestId : UInt32) :
    Returns (releaseUnsentRequestId requestId : Throwing (AxtpClient σ) Unit) :=
  returns_modify _

theorem returns_heartbeatTurn (controlId : UInt16) (deadline : ℤ)
    (progress : Option (Throwing (AxtpClient σ) Unit)) :
    Returns (heartbeatTurn lib env controlId deadline progress) := by
  refine returns_now.bind fun time => ?_
  split
  · exact (returns_finish _).value some
  refine (returns_attempt _).bind fun polled => ?_
  rcases polled with _ | _
  · exact (returns_finish _).value some
  refine (returns_invokeProgress progress).bind fun stopped => ?_
  rcases stopped with _ | code
  swap
  · exact (returns_finish _).value some
  refine Returns.bind (returns_update _) fun taken => ?_
  rcases taken with _ | ack
  · exact (returns_modify _).value fun _ => none
  · dsimp only
    split <;> exact (returns_finish _).value some

/-- A turn of `callRaw` after the response of the call was looked for in vain. -/
theorem returns_unanswered (env : Environment σ) (request : RpcPayload)
    (options : CallOptions σ) (deadline : ℤ) (taken : Option RpcPayload) :
    Returns (do
      match taken with
      | some response =>
        abandonRpcResponse request.requestId
        return some (response, CallExit.answeredAny)
      | none =>
        match ← invokeCancellation options.cancelled with
        | some code =>
          abandonRpcResponse request.requestId
          return some (makeErrorResponse request code, .stopped)
        | none =>
          if (← now env) ≥ deadline then
            abandonRpcResponse request.requestId
            return some (makeErrorResponse request ErrorCode.rpcResponseTimeout, .timedOut)
          else
            sleep
            return none) := by
  rcases taken with _ | response
  · refine (returns_invokeCancellation options.cancelled).bind fun stopped => ?_
    rcases stopped with _ | code
    · refine returns_now.bind fun time => ?_
      split
      · exact (returns_abandonRpcResponse request.requestId).value _
      · exact (returns_modify _).value fun _ => none
    · exact (returns_abandonRpcResponse request.requestId).value _
  · exact (returns_abandonRpcResponse request.requestId).value _

theorem returns_responseTurn (request : RpcPayload) (options : CallOptions σ) (deadline : ℤ) :
    Returns (responseTurn lib env request options deadline) := by
  refine (returns_attempt _).bind fun polled => ?_
  rcases polled with _ | _
  · exact (returns_abandonRpcResponse request.requestId).value _
  refine (returns_invokeProgress options.progress).bind fun stopped => ?_
  rcases stopped with _ | code
  · refine Returns.bind (returns_update _) fun taken => ?_
    rcases taken with _ | response
    · dsimp only
      have hrest := returns_unanswered env request options deadline
      split
      · exact Returns.bind (returns_update _) hrest
      · exact (returns_pure none).bind hrest
    · exact returns_pure _
  · exact (returns_abandonRpcResponse request.requestId).value _

theorem returns_callRemotely (henv : env.Steady) (request : RpcPayload)
    {options : CallOptions σ} (hoptions : options.Steady) (deadline : ℤ) :
    Returns (callRemotely lib env request options deadline) := by
  refine (returns_attempt _).bind fun sent => ?_
  rcases sent with _ | _ | _
  · exact (returns_abandonRpcResponse request.requestId).value _
  · exact (returns_releaseUnsentRequestId request.requestId).value _
  · exact returns_repeatUntil (waits_responseTurn henv request hoptions deadline)
      (returns_responseTurn request options deadline)

theorem returns_callLocally (request : RpcPayload) : Returns (callLocally env request) := by
  refine (returns_attempt _).bind fun handled => ?_
  rcases handled with _ | body
  · exact (returns_releaseUnsentRequestId request.requestId).value _
  · exact (returns_releaseUnsentRequestId request.requestId).value _

theorem returns_normalizeRequest (request : RpcPayload) :
    Returns (normalizeRequest request : Throwing (AxtpClient σ) (Option RpcPayload)) := by
  unfold normalizeRequest
  split
  · exact returns_pure none
  · refine Returns.bind (returns_update _) fun taken => ?_
    rcases taken with _ | requestId
    · exact returns_pure none
    · exact returns_get.value _

/-- What throws while the client gets ready is caught. -/
theorem returns_ensureAppReadyUntil (options : AppReadyOptions σ) (deadline : ℤ)
    (waitOptions : Option (CallOptions σ)) :
    Returns (ensureAppReadyUntil lib env options deadline waitOptions) := by
  refine (returns_attempt _).bind fun ready => ?_
  rcases ready with _ | result
  · exact returns_conclude _ _
  · exact returns_pure result

theorem returns_autoIdentify (request : RpcPayload) (options : CallOptions σ) (deadline : ℤ) :
    Returns (autoIdentify lib env request options deadline) := by
  refine returns_get.bind fun client => ?_
  dsimp only
  split
  · refine Returns.bind (returns_now.value _) fun timeout => ?_
    refine (returns_ensureAppReadyUntil _ deadline (some options)).bind fun ready => ?_
    split
    · exact returns_pure _
    · refine returns_get.bind fun client => ?_
      split <;> exact returns_pure _
  · exact returns_pure _

theorem returns_callRawExit (henv : env.Steady) (request : RpcPayload)
    {options : CallOptions σ} (hoptions : options.Steady) :
    Returns (callRawExit lib env request options) := by
  refine Returns.bind (returns_now.value _) fun deadline => ?_
  refine (returns_normalizeRequest request).bind fun normalized => ?_
  rcases normalized with _ | request
  · exact returns_pure _
  refine returns_get.bind fun client => ?_
  split
  · exact returns_callLocally request
  split
  · exact (returns_releaseUnsentRequestId request.requestId).value _
  · refine (returns_modify _).bind fun _ => ?_
    refine (returns_autoIdentify request options deadline).bind fun identified => ?_
    rcases identified with ready | request
    · exact (returns_releaseUnsentRequestId request.requestId).value _
    · exact returns_callRemotely henv request hoptions deadline

/-- `callRaw` ends with a response, whatever the transport, the handlers and the hooks do or
throw. -/
theorem callRaw_returns (henv : env.Steady) (request : RpcPayload) {options : CallOptions σ}
    (hoptions : options.Steady) (client : AxtpClient σ) :
    ∃ client' response, callRaw lib env request options client = (client', some response) :=
  (returns_callRawExit henv request hoptions).value Prod.fst client

/-- So does `heartbeat`, with an error or none. -/
theorem heartbeat_returns (henv : env.Steady) (timeout : ℤ)
    {progress : Option (Throwing (AxtpClient σ) Unit)}
    (hprogress : ∀ hook ∈ progress, Steady hook) (client : AxtpClient σ) :
    ∃ client' error, heartbeat lib env timeout progress client = (client', some error) := by
  revert client
  -- three refusals, then the heartbeat is sent and its acknowledgement awaited
  refine returns_get.bind fun client => ?_
  split
  · exact returns_finish _
  split
  · exact returns_finish _
  split
  · exact returns_finish _
  refine Returns.bind (returns_drawHeartbeatId) fun controlId => ?_
  refine (returns_attempt _).bind fun sent => ?_
  rcases sent with _ | _
  · exact returns_finish _
  refine returns_now.bind fun time => ?_
  exact returns_repeatUntil (waits_heartbeatTurn henv controlId _ hprogress)
    (returns_heartbeatTurn controlId _ progress)

end Returns

/-! ### The results -/

section Results

variable {lib : JsonLibrary} {env : Environment σ} {options : AppReadyOptions σ}
  {deadline : ℤ} {waitOptions : Option (CallOptions σ)}

theorem settled_of_failed {result : AppReadyResult} (hok : result.ok = false)
    (hstatus : result.statusCode ≠ ErrorCode.success) : result.Settled := by
  unfold AppReadyResult.Settled
  rw [hok]
  exact iff_of_false Bool.false_ne_true hstatus

theorem yields_conclude {P : AppReadyResult → Prop} {result : AppReadyResult} (h : P result)
    (error : SdkError) :
    Yields P (conclude result error : Throwing (AxtpClient σ) AppReadyResult) :=
  yields_bind fun _ => yields_pure h

/-- The way a stage of the setup ends: it goes on, or the setup is over. -/
def Settles {α : Type} (stage : Throwing (AxtpClient σ) (Except AppReadyResult α)) : Prop :=
  Yields (fun outcome => ∀ result, outcome = .error result → result.Settled) stage

theorem settles_ok {α : Type} (a : α) :
    Settles (return .ok a : Throwing (AxtpClient σ) (Except AppReadyResult α)) :=
  yields_pure nofun

theorem settles_error {α : Type} {m : Throwing (AxtpClient σ) AppReadyResult}
    (h : Yields AppReadyResult.Settled m) :
    Settles (do return .error (← m) : Throwing (AxtpClient σ) (Except AppReadyResult α)) := by
  refine h.bind fun result hresult => yields_pure fun result' heq => ?_
  obtain rfl := Except.error.inj heq
  exact hresult

/-- The code of a hook that stops a wait is one of an error. -/
theorem invokeProgress_ne_success (progress : Option (Throwing (AxtpClient σ) Unit)) :
    Yields (∀ code ∈ ·, code ≠ ErrorCode.success) (invokeProgress progress) := by
  rcases progress with _ | hook
  · exact yields_pure_none
  · refine yields_bind fun result => ?_
    rcases result with _ | _
    · refine yields_pure fun code hcode => ?_
      obtain rfl := Option.some.inj hcode
      decide
    · exact yields_pure_none

theorem invokeCancellation_ne_success (cancelled : Option (Throwing (AxtpClient σ) Bool)) :
    Yields (∀ code ∈ ·, code ≠ ErrorCode.success) (invokeCancellation cancelled) := by
  rcases cancelled with _ | hook
  · exact yields_pure_none
  · refine yields_bind fun result => ?_
    rcases result with _ | _ | _
    · refine yields_pure fun code hcode => ?_
      obtain rfl := Option.some.inj hcode
      decide
    · exact yields_pure_none
    · refine yields_pure fun code hcode => ?_
      obtain rfl := Option.some.inj hcode
      decide

theorem stopWaiting_settled {result : AppReadyResult} (hok : result.ok = false)
    (stage : String) :
    Yields (∀ stopped ∈ ·, AppReadyResult.Settled stopped)
      (stopWaiting options waitOptions result stage) := by
  refine (invokeProgress_ne_success _).bind fun stopped hstopped => ?_
  rcases stopped with _ | statusCode
  · exact yields_pure_none
  · refine yields_bind fun _ => ?_
    refine (yields_conclude ?_ _).some
    exact settled_of_failed hok (hstopped statusCode rfl)

theorem cancellationOrTimeout_settled {result : AppReadyResult} (hok : result.ok = false)
    (stage : String) :
    Yields (∀ stopped ∈ ·, AppReadyResult.Settled stopped)
      (cancellationOrTimeout env options deadline waitOptions result stage) := by
  refine (invokeCancellation_ne_success _).bind fun stopped hstopped => ?_
  rcases stopped with _ | statusCode
  · refine yields_bind fun time => ?_
    split
    · refine yields_bind fun _ => ?_
      refine (yields_conclude ?_ _).some
      exact settled_of_failed hok
        (show ErrorCode.rpcResponseTimeout ≠ ErrorCode.success by decide)
    · exact yields_pure_none
  · refine yields_bind fun _ => ?_
    refine (yields_conclude ?_ _).some
    exact settled_of_failed hok (hstopped statusCode rfl)

theorem settles_waitFor {α β : Type} {result : AppReadyResult} (hok : result.ok = false)
    (stage : String) (tryTake : Throwing (AxtpClient σ) (Option β))
    {receive : β → Throwing (AxtpClient σ) (Except AppReadyResult α)}
    (hreceive : ∀ message, Settles (receive message)) :
    Settles (waitFor lib env options deadline waitOptions result stage tryTake receive) := by
  rw [waitFor_eq]
  -- each turn settles, whichever of the three ways it ends the waiting
  refine yields_bind fun client => yields_repeatWithin ?_ _
  have hstopped : ∀ stopped : AppReadyResult, stopped.Settled →
      Yields (∀ outcome ∈ ·, ∀ result, outcome = .error result → result.Settled)
        (return some (.error stopped) :
          Throwing (AxtpClient σ) (Option (Except AppReadyResult α))) := by
    intro stopped hsettled
    refine yields_pure_some fun result heq => ?_
    obtain rfl := Except.error.inj heq
    exact hsettled
  refine yields_bind fun _ => ?_
  refine (stopWaiting_settled hok stage).bind fun stopped hsettled => ?_
  rcases stopped with _ | stopped
  swap
  · exact hstopped stopped (hsettled stopped rfl)
  refine yields_bind fun message => ?_
  rcases message with _ | message
  · refine (cancellationOrTimeout_settled hok stage).bind fun stopped hsettled => ?_
    rcases stopped with _ | stopped
    · exact yields_bind fun _ => yields_pure_none
    · exact hstopped stopped (hsettled stopped rfl)
  · exact Yields.some (hreceive message)

theorem settles_receiveIdentified {result : AppReadyResult} (hok : result.ok = false)
    (identified : RpcPayload) : Settles (receiveIdentified options result identified) := by
  refine yields_bind fun _ => yields_bind fun _ => ?_
  dsimp only
  split
  · refine yields_bind fun _ => yields_bind fun _ => settles_error (yields_conclude ?_ _)
    exact iff_of_true rfl rfl
  · refine yields_bind fun _ => settles_error (yields_conclude ?_ _)
    exact settled_of_failed hok
      (show ErrorCode.rpcPayloadInvalid ≠ ErrorCode.success by decide)

theorem waitForIdentified_settled {result : AppReadyResult} (hok : result.ok = false) :
    Yields AppReadyResult.Settled
      (waitForIdentified lib env options deadline waitOptions result) := by
  refine yields_bind fun client => yields_bind fun _ => ?_
  refine Yields.bind (settles_waitFor (by exact hok) _ _ (settles_receiveIdentified (by exact hok)))
    fun outcome houtcome => ?_
  rcases outcome with result | impossible
  · exact yields_pure (houtcome result rfl)
  · exact impossible.elim

theorem settles_receiveAccept {result : AppReadyResult} (hok : result.ok = false)
    (accept : ControlPayload) : Settles (receiveAccept options result accept) := by
  refine yields_bind fun _ => yields_bind fun client => ?_
  dsimp only
  split
  · exact yields_bind fun _ => yields_bind fun _ => settles_ok ()
  · refine yields_bind fun _ => settles_error (yields_conclude ?_ _)
    refine settled_of_failed hok ?_
    show (if accept.statusCode = ErrorCode.success then _ else _) ≠ ErrorCode.success
    split_ifs with hstatus
    · decide
    · exact hstatus

theorem settles_openControl : Settles (openControl lib env options deadline waitOptions) := by
  refine yields_bind fun controlId => yields_bind fun _ => yields_bind fun _ =>
    yields_bind fun _ => ?_
  refine Yields.bind (settles_waitFor rfl _ _ (settles_receiveAccept rfl))
    fun outcome houtcome => ?_
  rcases outcome with result | _
  · exact yields_pure fun result' heq => houtcome result' heq
  · refine yields_bind fun client => ?_
    split
    · exact settles_ok ()
    · refine yields_bind fun _ => settles_error (yields_conclude ?_ _)
      exact settled_of_failed rfl (by decide)

theorem settles_openOrSkipControl (profile : TransportProfile) :
    Settles (openOrSkipControl lib env options deadline waitOptions profile) := by
  unfold openOrSkipControl
  split
  · exact settles_openControl
  · exact yields_bind fun _ => settles_ok ()

theorem settles_awaitHello : Settles (awaitHello lib env options deadline waitOptions) := by
  refine yields_bind fun _ => settles_waitFor rfl _ _ fun hello => ?_
  exact yields_bind fun _ => settles_ok ()

theorem ensureAppReadyUntilImpl_settled :
    Yields AppReadyResult.Settled
      (ensureAppReadyUntilImpl lib env options deadline waitOptions) := by
  refine yields_bind fun _ => yields_bind fun client => ?_
  dsimp only
  split
  · exact yields_bind fun _ => yields_conclude (iff_of_true rfl rfl) _
  split
  · exact yields_bind fun _ => yields_conclude (settled_of_failed rfl (by decide)) _
  · rename_i profile _
    refine yields_bind fun _ => ?_
    split
    · exact yields_bind fun _ => waitForIdentified_settled rfl
    refine (settles_openOrSkipControl profile).bind fun outcome houtcome => ?_
    rcases outcome with result | _
    · exact yields_pure (houtcome result rfl)
    refine settles_awaitHello.bind fun outcome houtcome => ?_
    rcases outcome with result | _
    · exact yields_pure (houtcome result rfl)
    · refine yields_bind fun client => yields_bind fun _ => yields_bind fun _ =>
        yields_bind fun _ => ?_
      exact waitForIdentified_settled rfl

theorem ensureAppReadyUntil_settled :
    Yields AppReadyResult.Settled (ensureAppReadyUntil lib env options deadline waitOptions) := by
  refine (yields_attempt ensureAppReadyUntilImpl_settled).bind fun ready hready => ?_
  rcases ready with _ | result
  · exact yields_conclude (settled_of_failed rfl (by decide)) _
  · exact yields_pure (hready result rfl)

/-- The result of `ensureAppReady` is ok exactly if its status is success. -/
theorem ensureAppReady_ok_iff {client client' : AxtpClient σ} {result : AppReadyResult}
    (hresult : ensureAppReady lib env options client = (client', some result)) :
    result.ok = true ↔ result.statusCode = ErrorCode.success :=
  yields_bind (fun _ => ensureAppReadyUntil_settled) client client' result hresult

/-- A success is the answer of the client's own handler or of the peer. -/
def Justified (outcome : RpcPayload × CallExit) : Prop :=
  outcome.1.statusCode = ErrorCode.success →
    outcome.2 = .handled ∨ outcome.2 = .answered ∨ outcome.2 = .answeredAny

theorem justified_error (request : RpcPayload) {code : ErrorCode} (h : code ≠ ErrorCode.success)
    (exit : CallExit) : Justified (makeErrorResponse request code, exit) :=
  fun hsuccess => absurd hsuccess h

theorem unanswered_justified (env : Environment σ) (deadline : ℤ) (request : RpcPayload)
    (options : CallOptions σ) (taken : Option RpcPayload) :
    Yields (∀ outcome ∈ ·, Justified outcome) (do
      match taken with
      | some response =>
        abandonRpcResponse request.requestId
        return some (response, CallExit.answeredAny)
      | none =>
        match ← invokeCancellation options.cancelled with
        | some code =>
          abandonRpcResponse request.requestId
          return some (makeErrorResponse request code, .stopped)
        | none =>
          if (← now env) ≥ deadline then
            abandonRpcResponse request.requestId
            return some (makeErrorResponse request ErrorCode.rpcResponseTimeout, .timedOut)
          else
            sleep
            return none) := by
  rcases taken with _ | response
  · refine (invokeCancellation_ne_success options.cancelled).bind fun stopped hstopped => ?_
    rcases stopped with _ | code
    · refine yields_bind fun time => ?_
      split
      · have hne : ErrorCode.rpcResponseTimeout ≠ ErrorCode.success := by decide
        exact yields_bind fun _ => yields_pure_some (justified_error request hne _)
      · exact yields_bind fun _ => yields_pure_none
    · exact yields_bind fun _ =>
        yields_pure_some (justified_error request (hstopped code rfl) _)
  · exact yields_bind fun _ => yields_pure_some fun _ => .inr (.inr rfl)

theorem responseTurn_justified (request : RpcPayload) (options : CallOptions σ) :
    Yields (∀ outcome ∈ ·, Justified outcome)
      (responseTurn lib env request options deadline) := by
  refine yields_bind fun polled => ?_
  rcases polled with _ | _
  · exact yields_bind fun _ => yields_pure_some (justified_error request (by decide) _)
  refine (invokeProgress_ne_success options.progress).bind fun stopped hstopped => ?_
  rcases stopped with _ | code
  · refine yields_bind fun taken => ?_
    rcases taken with _ | response
    · dsimp only
      have hrest := unanswered_justified env deadline request options
      split
      · exact yields_bind hrest
      · exact yields_bind hrest
    · exact yields_pure_some fun _ => .inr (.inl rfl)
  · exact yields_bind fun _ => yields_pure_some (justified_error request (hstopped code rfl) _)

theorem callRemotely_justified (request : RpcPayload) (options : CallOptions σ) :
    Yields Justified (callRemotely lib env request options deadline) := by
  refine yields_bind fun sent => ?_
  rcases sent with _ | _ | _
  · exact yields_bind fun _ => yields_pure (justified_error request (by decide) _)
  · exact yields_bind fun _ => yields_pure (justified_error request (by decide) _)
  · exact yields_bind fun client => yields_repeatWithin (responseTurn_justified request options) _

theorem callLocally_justified (request : RpcPayload) :
    Yields Justified (callLocally env request) := by
  refine yields_bind fun handled => ?_
  rcases handled with _ | body
  · exact yields_bind fun _ => yields_pure (justified_error request (by decide) _)
  · exact yields_bind fun _ => yields_pure fun _ => .inl rfl

/-- Where the client does not get ready, the status says why. -/
theorem autoIdentify_error (request : RpcPayload) (options : CallOptions σ) :
    Yields (fun outcome => ∀ ready, outcome = .error ready → ready.statusCode ≠ ErrorCode.success)
      (autoIdentify lib env request options deadline) := by
  refine yields_bind fun client => ?_
  split
  · refine yields_bind fun timeout => ?_
    refine ensureAppReadyUntil_settled.bind fun ready hsettled => ?_
    split
    · rename_i hok
      refine yields_pure fun ready' heq hsuccess => ?_
      obtain rfl := Except.error.inj heq
      rw [hsettled.mpr hsuccess] at hok
      exact absurd hok nofun
    · refine yields_bind fun client => ?_
      dsimp only
      split <;> exact yields_pure nofun
  · exact yields_pure nofun

theorem callRawExit_justified (request : RpcPayload) (options : CallOptions σ) :
    Yields Justified (callRawExit lib env request options) := by
  refine yields_bind fun deadline => yields_bind fun normalized => ?_
  rcases normalized with _ | request
  · exact yields_pure (justified_error request (by decide) _)
  refine yields_bind fun client => ?_
  split
  · exact callLocally_justified request
  split
  · exact yields_bind fun _ => yields_pure (justified_error request (by decide) _)
  · refine yields_bind fun _ => ?_
    refine (autoIdentify_error request options).bind fun identified hidentified => ?_
    rcases identified with ready | request
    · exact yields_bind fun _ =>
        yields_pure (justified_error request (hidentified ready rfl) _)
    · exact callRemotely_justified request options

/-- A call that succeeds was handled by the client or answered by the peer. -/
theorem callRawExit_success {request response : RpcPayload} {options : CallOptions σ}
    {client client' : AxtpClient σ} {exit : CallExit}
    (hcall : callRawExit lib env request options client = (client', some (response, exit)))
    (hsuccess : response.statusCode = ErrorCode.success) :
    exit = .handled ∨ exit = .answered ∨ exit = .answeredAny :=
  callRawExit_justified request options client client' (response, exit) hcall hsuccess

end Results

end AxtpClient

end Axtp
