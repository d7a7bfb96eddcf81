/-
  `AxtpClient` (`sdk/axtp_client.hpp`) with its options and results
  (`client_options.hpp`, `call_options.hpp`, `app_ready_options.hpp`, `sdk_error.hpp`).

  The hooks, the handlers, the transport and the broker's handlers run while a call of
  the client is on its way, and may throw and use the client themselves. They are
  therefore computations on the whole client: those that belong to a call are in its
  options, the others make up the `Environment`.

  The clock is part of the client, in nanoseconds. It moves on whenever it is read, by
  what the environment says, and while the client sleeps; a deadline is a point of time
  that `std::chrono` keeps in 64 bits. `history` is a record that the source does not
  keep, of the control messages that the client originates and receives.

  The `lookups` of a method name, which the typed and the JSON forms of a call make before
  `callRaw`, are left out, and with them the registry.
-/
import Axtp.Lib.Cycle
import Axtp.Lib.Throwing
import Axtp.Runtime.AxtpEndpoint

namespace Axtp

/-! ### Options and results -/

structure SdkError where
  code : ErrorCode := ErrorCode.success
  message : String := ""
  deriving DecidableEq, Repr

structure ClientOptions where
  /-- Milliseconds. -/
  requestedHeartbeatInterval : ℤ := 1000
  autoOpen : Bool := true
  autoIdentify : Bool := true

structure AppReadyTraceEvent where
  stage : String
  action : String
  statusCode : ErrorCode := ErrorCode.success
  controlId : UInt16 := 0
  hasRandomSeed : Bool := false
  randomSeed : UInt32 := 0
  sid : Bytes := []
  bodyText : Bytes := []
  detail : Bytes := []

structure AppReadyResult where
  ok : Bool := false
  statusCode : ErrorCode := ErrorCode.success
  stage : String := ""
  sid : Bytes := []
  hasRandomSeed : Bool := false
  randomSeed : UInt32 := 0

/-- What becomes of control messages. -/
inductive Occurrence where
  /-- `_nextControlId` was taken for a message. -/
  | drew (controlId : UInt16)
  /-- A message of the client was handed to the core. -/
  | originated (opcode : ControlOpcode) (controlId : UInt16)
  /-- The transport handed over the bytes of a message. -/
  | received (payload : ControlPayload)
  deriving DecidableEq, Repr

def Occurrence.ofPayload : Payload → Option Occurrence
  | .control payload => some (.received payload)
  | _ => none

/-- A registered handler is known by the method it is registered for; what it does is in the
`Environment`. -/
structure AxtpClient (σ : Type) where
  options : ClientOptions := {}
  /-- `std::chrono::steady_clock`. -/
  clock : ℤ := 0
  history : List Occurrence := []
  transport : Option TransportProfile := none
  endpoint : AxtpEndpoint σ
  localHandlers : Finset UInt32 := ∅
  usedRequestIds : Finset UInt32 := ∅
  nextRequestId : UInt32 := 1
  nextControlId : UInt16 := 1
  appReady : Bool := false
  connected : Bool := false
  identifyOutstanding : Bool := false
  sessionSid : Bytes := []
  pendingIdentifyRandomSeed : Option UInt32 := none
  negotiatedHeartbeatIntervalMs : Option UInt32 := none
  lastAppReady : AppReadyResult := {}
  lastError : SdkError := {}

/-- How `callRaw` comes to its response; the source does not keep it. -/
inductive CallExit where
  | invalidRequest
  | handled
  | handlerThrew
  | unavailable
  | notReady (ready : AppReadyResult)
  | refused
  | sendThrew
  | pollThrew
  | answered
  | answeredAny
  | stopped
  | timedOut

/-- What the client runs that is not its own code. -/
structure Environment (σ : Type) where
  /-- `_transport->open()`, where the options ask for it. -/
  openTransport : Throwing (AxtpClient σ) Unit
  /-- `_transport->close()`. -/
  closeTransport : Throwing (AxtpClient σ) Unit
  /-- `sendBytes`, or `sendBytesTo` when the packet has a reply target. -/
  sendBytes : OutboundPacket → Throwing (AxtpClient σ) Unit
  /-- `_transport->poll()`. -/
  pollTransport : Throwing (AxtpClient σ) Unit
  /-- `_broker.poll(8)`, with the event and stream handlers. -/
  pollBroker : Throwing (AxtpClient σ) Unit
  /-- The handler registered for the method of the request. -/
  localHandler : RpcPayload → Throwing (AxtpClient σ) Bytes
  /-- How many packets a flush finds at most, those included that are queued while it sends. -/
  packets : AxtpClient σ → ℕ
  /-- The nanoseconds since the clock was read or the client slept. -/
  elapsed : AxtpClient σ → ℕ
  generateRandomSeed : AxtpClient σ → UInt32

structure CallOptions (σ : Type) where
  /-- Milliseconds. -/
  timeout : ℤ := 5000
  acceptAnyResponse : Bool := false
  cancelled : Option (Throwing (AxtpClient σ) Bool) := none
  progress : Option (Throwing (AxtpClient σ) Unit) := none

structure AppReadyOptions (σ : Type) where
  /-- Milliseconds. -/
  timeout : ℤ := 5000
  eventMasks : Bytes := []
  randomSeed : Option UInt32 := none
  trace : Option (AppReadyTraceEvent → Throwing (AxtpClient σ) Unit) := none
  skipControlOpen : Bool := false
  cancelled : Option (Throwing (AxtpClient σ) Bool) := none
  progress : Option (Throwing (AxtpClient σ) Unit) := none

namespace AxtpClient

open Throwing

variable {σ : Type}

abbrev core (client : AxtpClient σ) : AxtpCore := client.endpoint.core

def withCore (client : AxtpClient σ) (core : AxtpCore) : AxtpClient σ :=
  { client with endpoint := { client.endpoint with core } }

def withPendingCalls (client : AxtpClient σ) (pendingCalls : PendingCallTable) : AxtpClient σ :=
  client.withCore { client.core with pendingCalls }

/-! ### The clock -/

/-- What 64 bits keep of a number. -/
def wrap64 (number : ℤ) : ℤ := number.bmod (2 ^ 64)

/-- A number of milliseconds in nanoseconds. -/
def nanoseconds (milliseconds : ℤ) : ℤ := wrap64 (milliseconds * 1000000)

/-- `std::this_thread::sleep_for(std::chrono::milliseconds(1))`. -/
def sleep : Throwing (AxtpClient σ) Unit :=
  modify fun client => { client with clock := client.clock + 1000000 }

/-- Turn after turn until one yields a value, where a turn that does not yield one finds the
deadline ahead and sleeps. There are no more of these than nanoseconds to the deadline. -/
def repeatUntil {α : Type} (deadline : ℤ) (turn : Throwing (AxtpClient σ) (Option α)) :
    Throwing (AxtpClient σ) α := do
  let client ← get
  repeatWithin turn ((deadline - client.clock).toNat + 1)

section

variable (env : Environment σ)

/-- `std::chrono::steady_clock::now()`. -/
def now : Throwing (AxtpClient σ) ℤ :=
  update fun client =>
    let clock := client.clock + env.elapsed client
    ({ client with clock }, clock)

def deadlineAfter (timeout : ℤ) : Throwing (AxtpClient σ) ℤ := do
  return wrap64 ((← now env) + nanoseconds (max timeout 0))

def remainingUntil (deadline : ℤ) : Throwing (AxtpClient σ) ℤ := do
  return max (wrap64 (deadline - (← now env)) / 1000000) 0

/-! ### Sessions -/

/-- The assignments that `close` and `attachTransport` share. -/
def resetSession (client : AxtpClient σ) : AxtpClient σ :=
  { client with
    appReady := false
    sessionSid := []
    identifyOutstanding := false
    pendingIdentifyRandomSeed := none
    negotiatedHeartbeatIntervalMs := none
    usedRequestIds := ∅ }

def close : Throwing (AxtpClient σ) Unit := do
  let client ← get
  if client.transport.isSome then env.closeTransport else Pure.pure ()
  modify fun client =>
    { client.resetSession.withPendingCalls client.core.pendingCalls.reset with connected := false }

/-- `attachTransport` with a new endpoint over the same broker; `none` is a null transport. -/
def attachTransport (profile : Option TransportProfile) : Throwing (AxtpClient σ) Unit := do
  close env
  modify fun client =>
    { client.resetSession with
      transport := profile
      endpoint := { broker := client.endpoint.broker, world := client.endpoint.world } }
  match profile with
  | none => Pure.pure ()
  | some profile =>
    modify fun client => { client with endpoint := client.endpoint.attachTransport profile }
    let client ← get
    if client.options.autoOpen then env.openTransport else Pure.pure ()
    modify fun client => { client with connected := true }

end

def registerMethod (client : AxtpClient σ) (methodId : UInt32) : AxtpClient σ :=
  { client with localHandlers := insert methodId client.localHandlers }

/-! ### The endpoint -/

variable (lib : JsonLibrary)

/-- The record of the bytes that arrive. -/
def recordReceived (data : Bytes) (client : AxtpClient σ) : AxtpClient σ :=
  { client with
    history := client.history ++
      (client.core.inbound.onBytes lib Sink.collect data []).2.1.filterMap Occurrence.ofPayload }

/-- A call of the endpoint that may throw. -/
def onEndpoint (call : AxtpEndpoint σ → AxtpEndpoint σ × Exit) : Throwing (AxtpClient σ) Unit :=
  fun client =>
    match call client.endpoint with
    | (endpoint, .returned) => ({ client with endpoint }, some ())
    | (endpoint, .threw) => ({ client with endpoint }, none)

/-- Bytes that the transport hands over. -/
def onTransportBytes (ingress : ℕ → Ingress) (data : Bytes) : Throwing (AxtpClient σ) Unit := do
  modify (recordReceived lib data)
  onEndpoint fun endpoint => endpoint.onTransportBytes lib ingress data

/-- A call of the core that may throw. -/
def onCore (call : AxtpCore → AxtpCore × Exit) : Throwing (AxtpClient σ) Unit :=
  onEndpoint fun endpoint =>
    ({ endpoint with core := (call endpoint.core).1 }, (call endpoint.core).2)

def tryPopOutboundPacket (client : AxtpClient σ) : AxtpClient σ × Option OutboundPacket :=
  match client.core.outboundBytes with
  | [] => (client, none)
  | packet :: outboundBytes =>
    (client.withCore { client.core with outboundBytes }, some packet.value)

section

variable (env : Environment σ)

/-- The loop of `flushOutbound`. -/
def flushPackets : ℕ → Throwing (AxtpClient σ) Unit
  | 0 => Pure.pure ()
  | packets + 1 => do
    match ← update tryPopOutboundPacket with
    | none => Pure.pure ()
    | some packet =>
      env.sendBytes packet
      flushPackets packets

def flushOutbound : Throwing (AxtpClient σ) Unit := do
  let client ← get
  if client.endpoint.attached then flushPackets env (env.packets client) else Pure.pure ()

/-- `_broker.poll(8)` where no handler uses the client. -/
def brokerPoll : Throwing (AxtpClient σ) Unit :=
  onEndpoint fun endpoint => endpoint.pollBroker 8

/-- `AxtpEndpoint::poll`. -/
def poll : Throwing (AxtpClient σ) Unit := do
  let client ← get
  if client.endpoint.attached then env.pollTransport else Pure.pure ()
  modify fun client => { client with endpoint := client.endpoint.drainCoreEvents }
  env.pollBroker
  onEndpoint fun endpoint =>
    AxtpEndpoint.drainBrokerResults lib endpoint.broker.results.length endpoint
  flushOutbound env

def record (occurrence : Occurrence) (client : AxtpClient σ) : AxtpClient σ :=
  { client with history := client.history ++ [occurrence] }

/-- `_nextControlId++`. -/
def drawControlId : Throwing (AxtpClient σ) UInt16 :=
  update fun client =>
    ({ client with nextControlId := client.nextControlId + 1 }.record (.drew client.nextControlId),
      client.nextControlId)

def sendControlOpen (controlId : UInt16) : Throwing (AxtpClient σ) Unit := do
  modify fun client =>
    (client.withCore (client.core.sendControlOpen controlId)).record
      (.originated ControlOpcode.open_ controlId)
  flushOutbound env

def sendControlHeartbeat (controlId : UInt16) : Throwing (AxtpClient σ) Unit := do
  modify fun client =>
    (client.withCore (client.core.sendControlHeartbeat controlId)).record
      (.originated ControlOpcode.heartbeat controlId)
  flushOutbound env

def sendRpcSession (payload : RpcPayload) : Throwing (AxtpClient σ) Unit := do
  onCore fun core => core.sendRpcSession lib payload
  flushOutbound env

def expectRpcResponse (requestId : UInt32) (client : AxtpClient σ) : AxtpClient σ × Bool :=
  (client.withPendingCalls (client.core.pendingCalls.expect requestId).1,
    (client.core.pendingCalls.expect requestId).2)

def sendRpcRequest (payload : RpcPayload) : Throwing (AxtpClient σ) Bool := do
  if ← update (expectRpcResponse payload.requestId) then
    onCore fun core => core.sendRpcRequest lib payload
    flushOutbound env
    Pure.pure true
  else Pure.pure false

def abandonRpcResponse (requestId : UInt32) : Throwing (AxtpClient σ) Unit :=
  modify fun client => client.withPendingCalls (client.core.pendingCalls.abandon requestId)

def tryTakeRpcResponse (requestId : UInt32) : Throwing (AxtpClient σ) (Option RpcPayload) :=
  update fun client =>
    (client.withPendingCalls (client.core.pendingCalls.tryTakeResolved requestId).1,
      (client.core.pendingCalls.tryTakeResolved requestId).2)

def tryTakeAnyRpcResponse : Throwing (AxtpClient σ) (Option RpcPayload) :=
  update fun client =>
    (client.withPendingCalls client.core.pendingCalls.tryTakeAnyResolved.1,
      client.core.pendingCalls.tryTakeAnyResolved.2)

def tryTakeSessionRpc (op : RpcOp) : Throwing (AxtpClient σ) (Option RpcPayload) :=
  update fun client =>
    ({ client with endpoint := (client.endpoint.tryTakeSessionRpc op).1 },
      (client.endpoint.tryTakeSessionRpc op).2)

def tryTakeControlNotice (opcode : ControlOpcode) (controlId : UInt16) :
    Throwing (AxtpClient σ) (Option ControlPayload) :=
  update fun client =>
    ({ client with endpoint := (client.endpoint.tryTakeControlNotice opcode controlId).1 },
      (client.endpoint.tryTakeControlNotice opcode controlId).2)

/-- `sendStream`. -/
def sendStream (payload : StreamPayload) : Throwing (AxtpClient σ) Unit := do
  let client ← get
  match client.transport with
  | none =>
    modify fun client =>
      { client with lastError := ⟨ErrorCode.unavailable, "transport unavailable"⟩ }
  | some profile =>
    modify fun client => client.withCore (client.core.configure profile)
    onCore fun core =>
      core.handleBrokerResult lib
        { value := { type := .streamData, stream := payload }, origin := none }
    flushOutbound env
    modify fun client => { client with lastError := {} }

end

/-! ### Hooks -/

/-- `invokeProgress`: the code of an exception. -/
def invokeProgress (progress : Option (Throwing (AxtpClient σ) Unit)) :
    Throwing (AxtpClient σ) (Option ErrorCode) := do
  match progress with
  | none => Pure.pure none
  | some progress =>
    match ← attempt progress with
    | none => Pure.pure (some ErrorCode.internalError)
    | some _ => Pure.pure none

/-- `invokeCancellation`. -/
def invokeCancellation (cancelled : Option (Throwing (AxtpClient σ) Bool)) :
    Throwing (AxtpClient σ) (Option ErrorCode) := do
  match cancelled with
  | none => Pure.pure none
  | some cancelled =>
    match ← attempt cancelled with
    | none => Pure.pure (some ErrorCode.internalError)
    | some true => Pure.pure (some ErrorCode.canceled)
    | some false => Pure.pure none

/-- The hooks of a wait: those of the call it is for, if it is for one. -/
def waitProgress (options : AppReadyOptions σ) (waitOptions : Option (CallOptions σ)) :
    Option (Throwing (AxtpClient σ) Unit) :=
  match waitOptions with
  | some waitOptions => waitOptions.progress
  | none => options.progress

def waitCancelled (options : AppReadyOptions σ) (waitOptions : Option (CallOptions σ)) :
    Option (Throwing (AxtpClient σ) Bool) :=
  match waitOptions with
  | some waitOptions => waitOptions.cancelled
  | none => options.cancelled

section AppReady

variable (env : Environment σ) (options : AppReadyOptions σ) (deadline : ℤ)
  (waitOptions : Option (CallOptions σ))

/-! ### App-ready -/

/-- The hook gets the seed of the result where it is asked for. -/
def emitTrace (result : AppReadyResult) (event : AppReadyTraceEvent)
    (includeRandomSeed : Bool := false) : Throwing (AxtpClient σ) Unit :=
  match options.trace with
  | none => Pure.pure ()
  | some trace =>
    let hasRandomSeed := includeRandomSeed && result.hasRandomSeed
    trace
      { event with
        hasRandomSeed
        randomSeed := if hasRandomSeed then result.randomSeed else 0 }

/-- The result that is returned, kept along with its error. -/
def conclude (result : AppReadyResult) (lastError : SdkError) :
    Throwing (AxtpClient σ) AppReadyResult := do
  modify fun client => { client with lastAppReady := result, lastError }
  return result

def stopWaiting (result : AppReadyResult) (stage : String) :
    Throwing (AxtpClient σ) (Option AppReadyResult) := do
  match ← invokeProgress (waitProgress options waitOptions) with
  | none => return none
  | some statusCode =>
    let result := { result with statusCode, stage }
    emitTrace options result
      { stage, action := "error", statusCode, detail := ascii "progress callback failed" }
    return some (← conclude result ⟨statusCode, "app-ready progress failed"⟩)

def cancellationOrTimeout (result : AppReadyResult) (stage : String) :
    Throwing (AxtpClient σ) (Option AppReadyResult) := do
  match ← invokeCancellation (waitCancelled options waitOptions) with
  | some statusCode =>
    let result := { result with statusCode, stage }
    emitTrace options result
      { stage, action := if statusCode = ErrorCode.canceled then "cancelled" else "error"
        statusCode }
    return some (← conclude result ⟨statusCode, "app-ready cancelled"⟩)
  | none =>
    if (← now env) ≥ deadline then
      let statusCode := ErrorCode.rpcResponseTimeout
      let result := { result with statusCode, stage }
      emitTrace options result { stage, action := "timeout", statusCode }
      return some (← conclude result ⟨statusCode, "app-ready timeout"⟩)
    else return none

/-- The three waits for a message of the peer: what is done with it says whether the setup goes on
or is over, with the result it returns. -/
def waitFor {α β : Type} (result : AppReadyResult) (stage : String)
    (tryTake : Throwing (AxtpClient σ) (Option β))
    (receive : β → Throwing (AxtpClient σ) (Except AppReadyResult α)) :
    Throwing (AxtpClient σ) (Except AppReadyResult α) :=
  repeatUntil deadline do
    poll lib env
    match ← stopWaiting options waitOptions result stage with
    | some stopped => return some (.error stopped)
    | none =>
      match ← tryTake with
      | some message => return some (← receive message)
      | none =>
        match ← cancellationOrTimeout env options deadline waitOptions result stage with
        | some stopped => return some (.error stopped)
        | none =>
          sleep
          return none

/-- What `waitForIdentified` does with an IDENTIFIED. -/
def receiveIdentified (result : AppReadyResult) (identified : RpcPayload) :
    Throwing (AxtpClient σ) (Except AppReadyResult Empty) := do
  let sid := identified.meta_.jsonSid
  emitTrace options result
    { stage := "identified", action := "receive", sid, bodyText := identified.body } true
  modify fun client =>
    { client with identifyOutstanding := false, pendingIdentifyRandomSeed := none }
  if sid ≠ [] then
    modify fun client => { client with sessionSid := sid, appReady := true }
    let result :=
      { result with ok := true, statusCode := ErrorCode.success, stage := "app-ready", sid }
    emitTrace options result { stage := "app-ready", action := "ready", sid } true
    return .error (← conclude result {})
  else
    let statusCode := ErrorCode.rpcPayloadInvalid
    let result := { result with statusCode }
    emitTrace options result
      { stage := "identified", action := "error", statusCode, bodyText := identified.body } true
    return .error (← conclude result ⟨statusCode, "identified sid missing"⟩)

def waitForIdentified (result : AppReadyResult) : Throwing (AxtpClient σ) AppReadyResult := do
  let client ← get
  let result :=
    { result with
      stage := "identified"
      hasRandomSeed := client.pendingIdentifyRandomSeed.isSome
      randomSeed := client.pendingIdentifyRandomSeed.getD 0 }
  emitTrace options result { stage := "identified", action := "wait" } true
  match ← waitFor lib env options deadline waitOptions result "identified"
      (tryTakeSessionRpc RpcOp.identified) (receiveIdentified options result) with
  | .error result => return result

/-- What the wait for an ACCEPT does with it. -/
def receiveAccept (result : AppReadyResult) (accept : ControlPayload) :
    Throwing (AxtpClient σ) (Except AppReadyResult Unit) := do
  emitTrace options result
    { stage := "control-accept", action := "receive", statusCode := accept.statusCode
      controlId := accept.controlId, detail := ascii "controlId matched" }
  let client ← get
  if accept.statusCode = ErrorCode.success ∧ client.core.controlSession.isOpen then
    modify fun client =>
      { client with
        negotiatedHeartbeatIntervalMs := client.core.controlSession.negotiatedHeartbeatIntervalMs }
    emitTrace options result
      { stage := "framing-ready", action := "ready", controlId := accept.controlId }
    return .ok ()
  else
    let statusCode :=
      if accept.statusCode = ErrorCode.success then ErrorCode.controlOpenRejected
      else accept.statusCode
    let result := { result with statusCode }
    emitTrace options result
      { stage := "control-open", action := "error", statusCode, controlId := accept.controlId }
    return .error (← conclude result ⟨statusCode, "control open rejected"⟩)

/-- The stage of the control session. -/
def openControl : Throwing (AxtpClient σ) (Except AppReadyResult Unit) := do
  let result : AppReadyResult := { stage := "control-open" }
  let controlId ← drawControlId
  emitTrace options result { stage := "control-open", action := "send", controlId }
  sendControlOpen env controlId
  emitTrace options result { stage := "control-accept", action := "wait", controlId }
  match ← waitFor lib env options deadline waitOptions result "control-accept"
      (tryTakeControlNotice ControlOpcode.accept controlId) (receiveAccept options result) with
  | .error result => return .error result
  | .ok () =>
    let client ← get
    if client.core.controlSession.isOpen then return .ok ()
    else
      let statusCode := ErrorCode.rpcResponseTimeout
      let result := { result with statusCode }
      emitTrace options result
        { stage := "control-accept", action := "timeout", statusCode, controlId }
      return .error (← conclude result ⟨statusCode, "control accept timeout"⟩)

def openOrSkipControl (profile : TransportProfile) :
    Throwing (AxtpClient σ) (Except AppReadyResult Unit) := do
  if profile.wireMode = .framedBinary ∧ options.skipControlOpen = false then
    openControl lib env options deadline waitOptions
  else
    emitTrace options {}
      { stage := "control-open", action := "skip"
        detail := if profile.wireMode = .webSocketJsonRpc then ascii "websocket-json-rpc"
          else ascii "skipControlOpen" }
    return .ok ()

/-- What the wait for a HELLO does with it. -/
def receiveHello (result : AppReadyResult) (hello : RpcPayload) :
    Throwing (AxtpClient σ) (Except AppReadyResult Unit) := do
  emitTrace options result
    { stage := "hello", action := "receive", sid := hello.meta_.jsonSid, bodyText := hello.body }
  return .ok ()

/-- The stage of the HELLO, which the wait never leaves without having got it. -/
def awaitHello : Throwing (AxtpClient σ) (Except AppReadyResult Unit) := do
  let result : AppReadyResult := { stage := "hello" }
  emitTrace options result { stage := "hello", action := "wait" }
  waitFor lib env options deadline waitOptions result "hello" (tryTakeSessionRpc RpcOp.hello)
    (receiveHello options result)

/-- The last stages. -/
def identify : Throwing (AxtpClient σ) AppReadyResult := do
  let client ← get
  let randomSeed := options.randomSeed.getD (env.generateRandomSeed client)
  let result : AppReadyResult := { stage := "identify", hasRandomSeed := true, randomSeed }
  emitTrace options result
    { stage := "identify", action := "send"
      detail := ascii ("randomSeed=" ++ toString randomSeed.toNat ++ " eventMasks=") ++
        options.eventMasks } true
  sendRpcSession lib env (JsonRpcEncoder.makeIdentify randomSeed options.eventMasks)
  modify fun client =>
    { client with identifyOutstanding := true, pendingIdentifyRandomSeed := some randomSeed }
  waitForIdentified lib env options deadline waitOptions result

def configureSession (profile : TransportProfile) (client : AxtpClient σ) : AxtpClient σ :=
  let core := client.core.configure profile
  let interval := max 1 (min client.options.requestedHeartbeatInterval 60000)
  client.withCore
    { core with
      controlSession :=
        core.controlSession.setRequestedHeartbeatInterval (UInt32.ofNat interval.toNat) }

def ensureAppReadyUntilImpl : Throwing (AxtpClient σ) AppReadyResult := do
  emitTrace options {}
    { stage := "start", action := "begin", detail := ascii "ensureAppReady entered" }
  let client ← get
  if client.appReady ∧ client.sessionSid ≠ [] then
    let sid := client.sessionSid
    let result : AppReadyResult :=
      { ok := true, stage := "app-ready", sid
        hasRandomSeed := client.lastAppReady.hasRandomSeed
        randomSeed := client.lastAppReady.randomSeed }
    emitTrace options result { stage := "app-ready", action := "already-ready", sid } true
    conclude result {}
  else
    match client.transport with
    | none =>
      let statusCode := ErrorCode.unavailable
      let result : AppReadyResult := { statusCode, stage := "transport" }
      emitTrace options result
        { stage := "transport", action := "error", statusCode
          detail := ascii "transport unavailable" }
      conclude result ⟨statusCode, "transport unavailable"⟩
    | some profile =>
      modify (configureSession profile)
      if client.identifyOutstanding then
        emitTrace options {}
          { stage := "identify", action := "resume"
            detail := ascii "waiting for the outstanding identify response" } true
        waitForIdentified lib env options deadline waitOptions {}
      else
        match ← openOrSkipControl lib env options deadline waitOptions profile with
        | .error result => return result
        | .ok () =>
          match ← awaitHello lib env options deadline waitOptions with
          | .error result => return result
          | .ok () => identify lib env options deadline waitOptions

def ensureAppReadyUntil : Throwing (AxtpClient σ) AppReadyResult := do
  match ← attempt (ensureAppReadyUntilImpl lib env options deadline waitOptions) with
  | some result => return result
  | none =>
    let statusCode := ErrorCode.internalError
    conclude { statusCode, stage := "callback" } ⟨statusCode, "app-ready callback failed"⟩

def ensureAppReady : Throwing (AxtpClient σ) AppReadyResult := do
  let deadline ← deadlineAfter env options.timeout
  ensureAppReadyUntil lib env options deadline none

end AppReady

/-! ### Heartbeats -/

section Heartbeat

variable (env : Environment σ)

/-- The error that is returned, kept as the last one. -/
def finish (lastError : SdkError) : Throwing (AxtpClient σ) SdkError := do
  modify fun client => { client with lastError }
  return lastError

/-- The id of a heartbeat, which is not zero. -/
def drawHeartbeatId : Throwing (AxtpClient σ) UInt16 := do
  let controlId ← drawControlId
  if controlId = 0 then drawControlId else return controlId

/-- One turn of the wait for the acknowledgement. -/
def heartbeatTurn (controlId : UInt16) (deadline : ℤ)
    (progress : Option (Throwing (AxtpClient σ) Unit)) :
    Throwing (AxtpClient σ) (Option SdkError) := do
  if (← now env) ≥ deadline then
    return some (← finish
      ⟨ErrorCode.controlHeartbeatTimeout, "control heartbeat acknowledgement timed out"⟩)
  else
    match ← attempt (poll lib env) with
    | none =>
      return some (← finish ⟨ErrorCode.internalError, "heartbeat endpoint callback failed"⟩)
    | some () =>
      match ← invokeProgress progress with
      | some code => return some (← finish ⟨code, "heartbeat progress callback failed"⟩)
      | none =>
        match ← tryTakeControlNotice ControlOpcode.heartbeatAck controlId with
        | some ack =>
          if ack.statusCode = ErrorCode.success then return some (← finish {})
          else return some (← finish ⟨ack.statusCode, "control heartbeat rejected by peer"⟩)
        | none =>
          sleep
          return none

/-- The wait that follows the sending. -/
def awaitHeartbeatAck (controlId : UInt16) (timeout : ℤ)
    (progress : Option (Throwing (AxtpClient σ) Unit)) : Throwing (AxtpClient σ) SdkError := do
  let deadline := wrap64 ((← now env) + nanoseconds timeout)
  repeatUntil deadline (heartbeatTurn lib env controlId deadline progress)

def heartbeat (timeout : ℤ) (progress : Option (Throwing (AxtpClient σ) Unit)) :
    Throwing (AxtpClient σ) SdkError := do
  let client ← get
  if client.transport.isNone ∨ client.connected = false then
    finish ⟨ErrorCode.unavailable, "transport unavailable"⟩
  else if client.transport.map TransportProfile.wireMode ≠ some .framedBinary ∨
      client.core.controlSession.isOpen = false then
    finish ⟨ErrorCode.notSupported, "control heartbeat requires an open framed-binary session"⟩
  else if client.negotiatedHeartbeatIntervalMs.isNone then
    finish ⟨ErrorCode.notSupported, "peer did not advertise a valid heartbeat interval"⟩
  else
    let controlId ← drawHeartbeatId
    match ← attempt (sendControlHeartbeat env controlId) with
    | none => finish ⟨ErrorCode.internalError, "heartbeat endpoint callback failed"⟩
    | some () =>
      awaitHeartbeatAck lib env controlId (if timeout ≤ 0 then 1 else timeout) progress

end Heartbeat

/-! ### Calls -/

section Call

variable (env : Environment σ)

/-- The candidate after a candidate; zero is skipped. -/
def nextCandidate (candidate : UInt32) : UInt32 :=
  if candidate + 1 = 0 then 1 else candidate + 1

/-- `_nextRequestId`, or 1 where it is 0. -/
def firstCandidate (client : AxtpClient σ) : UInt32 :=
  if client.nextRequestId = 0 then 1 else client.nextRequestId

/-- The loop of `allocateRequestId`, for at most the given number of turns. -/
def searchCandidate (client : AxtpClient σ) (turns : ℕ) : Option (Option UInt32) :=
  Cycle.search nextCandidate (· ∉ client.usedRequestIds) client.firstCandidate turns
    client.firstCandidate

def allocateRequestId (client : AxtpClient σ) : AxtpClient σ × Option UInt32 :=
  -- one turn for every id suffices
  match client.searchCandidate (2 ^ 32 - 1) with
  | some (some candidate) =>
    ({ client with
        usedRequestIds := insert candidate client.usedRequestIds
        nextRequestId := candidate + 1 }, some candidate)
  | _ => (client, none)

/-- The id of a request, drawn or given, which becomes used. -/
def takeRequestId (requestId : UInt32) (client : AxtpClient σ) : AxtpClient σ × Option UInt32 :=
  if requestId = 0 then client.allocateRequestId
  else if requestId ∈ client.usedRequestIds then (client, none)
  else
    ({ client with usedRequestIds := insert requestId client.usedRequestIds }, some requestId)

def eraseRequestId (requestId : UInt32) (client : AxtpClient σ) : AxtpClient σ :=
  { client with usedRequestIds := client.usedRequestIds.erase requestId }

def releaseUnsentRequestId (requestId : UInt32) : Throwing (AxtpClient σ) Unit :=
  modify (eraseRequestId requestId)

def invalidEndpoint (endpoint : EndpointMetadata) : Bool :=
  endpoint.src = some [] ∨ endpoint.dst = some []

/-- The assignments of `normalizeRequest`. -/
def normalizedRequest (request : RpcPayload) (requestId : UInt32) (client : AxtpClient σ) :
    RpcPayload :=
  { request with
    requestId
    bodyEncoding :=
      if request.bodyEncoding = RpcBodyEncoding.tlv8 ∧
          isJsonBinaryRpcEncoding request.encoding = false then
        bodyEncodingForRpcEncoding request.encoding
      else request.bodyEncoding
    op := RpcOp.request
    meta_ :=
      { request.meta_ with
        requestId
        jsonSid :=
          if request.meta_.sourceProtocol = .jsonRpc ∧ request.meta_.jsonSid = [] ∧
              client.appReady ∧ client.sessionSid ≠ [] then
            client.sessionSid
          else request.meta_.jsonSid } }

/-- `normalizeRequest`: the request as it will be sent. -/
def normalizeRequest (request : RpcPayload) : Throwing (AxtpClient σ) (Option RpcPayload) := do
  if invalidEndpoint request.meta_.endpoint ∨
      (isJsonBinaryRpcEncoding request.encoding ∧ hasEndpointMetadata request.meta_.endpoint) then
    return none
  else
    match ← update (takeRequestId request.requestId) with
    | none => return none
    | some requestId =>
      let client ← get
      return some (normalizedRequest request requestId client)

def makeResponse (request : RpcPayload) (statusCode : ErrorCode) (body : Bytes) : RpcPayload :=
  { encoding := request.encoding, op := RpcOp.requestResponse, requestId := request.requestId
    methodOrEventId := request.methodOrEventId, statusCode, bodyEncoding := request.bodyEncoding
    meta_ :=
      { request.meta_ with endpoint := responseEndpointMetadata request.meta_.endpoint }
    body }

def makeErrorResponse (request : RpcPayload) (code : ErrorCode) : RpcPayload :=
  makeResponse request code []

/-- The branch of a method that the client handles itself. -/
def callLocally (request : RpcPayload) : Throwing (AxtpClient σ) (RpcPayload × CallExit) := do
  match ← attempt (env.localHandler request) with
  | none =>
    releaseUnsentRequestId request.requestId
    return (makeErrorResponse request ErrorCode.internalError, .handlerThrew)
  | some body =>
    releaseUnsentRequestId request.requestId
    return (makeResponse request ErrorCode.success body, .handled)

/-- One turn of the wait for the response. -/
def responseTurn (request : RpcPayload) (options : CallOptions σ) (deadline : ℤ) :
    Throwing (AxtpClient σ) (Option (RpcPayload × CallExit)) := do
  match ← attempt (poll lib env) with
  | none =>
    abandonRpcResponse request.requestId
    return some (makeErrorResponse request ErrorCode.internalError, .pollThrew)
  | some () =>
    match ← invokeProgress options.progress with
    | some code =>
      abandonRpcResponse request.requestId
      return some (makeErrorResponse request code, .stopped)
    | none =>
      match ← tryTakeRpcResponse request.requestId with
      | some response => return some (response, .answered)
      | none =>
        match ← if options.acceptAnyResponse then tryTakeAnyRpcResponse else Pure.pure none with
        | some response =>
          abandonRpcResponse request.requestId
          return some (response, .answeredAny)
        | none =>
          match ← invokeCancellation options.cancelled with
          | some code =>
            abandonRpcResponse request.requestId
            return some (makeErrorResponse request code, .stopped)
          | none =>
            if (← now env) ≥ deadline then
              abandonRpcResponse request.requestId
              return some (makeErrorResponse request ErrorCode.rpcResponseTimeout, .timedOut)
            else
              sleep
              return none

/-- The sending of the request, and the wait for its response. -/
def callRemotely (request : RpcPayload) (options : CallOptions σ) (deadline : ℤ) :
    Throwing (AxtpClient σ) (RpcPayload × CallExit) := do
  match ← attempt (sendRpcRequest lib env request) with
  | none =>
    abandonRpcResponse request.requestId
    return (makeErrorResponse request ErrorCode.internalError, .sendThrew)
  | some false =>
    releaseUnsentRequestId request.requestId
    return (makeErrorResponse request ErrorCode.invalidArgument, .refused)
  | some true => repeatUntil deadline (responseTurn lib env request options deadline)

/-- The automatic identification: the request with the id of the session. -/
def autoIdentify (request : RpcPayload) (options : CallOptions σ) (deadline : ℤ) :
    Throwing (AxtpClient σ) (Except AppReadyResult RpcPayload) := do
  let client ← get
  if client.options.autoIdentify ∧ client.appReady = false then
    let appOptions := { timeout := ← remainingUntil env deadline }
    let ready ← ensureAppReadyUntil lib env appOptions deadline (some options)
    if ready.ok = false then return .error ready
    else
      let client ← get
      let meta_ := request.meta_
      if meta_.sourceProtocol = .jsonRpc ∧ meta_.jsonSid = [] ∧ client.sessionSid ≠ [] then
        return .ok { request with meta_ := { meta_ with jsonSid := client.sessionSid } }
      else return .ok request
  else return .ok request

/-- `callRaw`, with the way it came to the response. -/
def callRawExit (request : RpcPayload) (options : CallOptions σ) :
    Throwing (AxtpClient σ) (RpcPayload × CallExit) := do
  let deadline ← deadlineAfter env options.timeout
  match ← normalizeRequest request with
  | none => return (makeErrorResponse request ErrorCode.invalidArgument, .invalidRequest)
  | some request =>
    let client ← get
    if request.methodOrEventId ∈ client.localHandlers then callLocally env request
    else
      match client.transport with
      | none =>
        releaseUnsentRequestId request.requestId
        return (makeErrorResponse request ErrorCode.unavailable, .unavailable)
      | some profile =>
        modify fun client => client.withCore (client.core.configure profile)
        match ← autoIdentify lib env request options deadline with
        | .error ready =>
          releaseUnsentRequestId request.requestId
          return (makeErrorResponse request ready.statusCode, .notReady ready)
        | .ok request => callRemotely lib env request options deadline

def callRaw (request : RpcPayload) (options : CallOptions σ) :
    Throwing (AxtpClient σ) RpcPayload := do
  return (← callRawExit lib env request options).1

end Call

end AxtpClient

end Axtp
