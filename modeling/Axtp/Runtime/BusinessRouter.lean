/-
  `MethodRegistry` (`protocol/generated/method_registry.h`), `BusinessRouter`
  (`runtime/broker/business_router.hpp`) and `BusinessExecutor`.

  Handlers, validators and deferred polls are code of the application. Each may read
  and change a state `σ` of the application's own, which the model threads through;
  where a call may throw, `none` is the exception.
-/
import Axtp.Generated.Registries

namespace Axtp

/-! ### `MethodRegistry` -/

structure MethodRegistry where
  nameToId : Bytes → Option UInt32 := fun _ => none
  idToName : UInt32 → Option Bytes := fun _ => none

namespace MethodRegistry

def addMethod (registry : MethodRegistry) (methodId : UInt32) (methodName : Bytes) :
    MethodRegistry :=
  let nameToId :=
    match registry.idToName methodId with
    | some name => Function.update registry.nameToId name none
    | none => registry.nameToId
  let idToName :=
    match nameToId methodName with
    | some id => Function.update registry.idToName id none
    | none => registry.idToName
  { nameToId := Function.update nameToId methodName (some methodId)
    idToName := Function.update idToName methodId (some methodName) }

def findMethodId (registry : MethodRegistry) (methodName : Bytes) : Option UInt32 :=
  registry.nameToId methodName

def findMethodName (registry : MethodRegistry) (methodId : UInt32) : Option Bytes :=
  registry.idToName methodId

def fromGeneratedDefaults : MethodRegistry :=
  kMethodRegistry.foldl
    (fun registry method => registry.addMethod method.id.toUInt32 (ascii method.name)) {}

end MethodRegistry

/-! ### Requests and responses as handlers see them -/

structure RpcContext where
  sessionId : UInt32
  requestId : UInt32
  methodId : UInt32
  methodName : Bytes
  encoding : RpcEncoding
  sourceProtocol : SourceProtocol
  endpoint : EndpointMetadata
  deriving DecidableEq, Repr

structure RpcRequestView where
  methodId : UInt32
  methodName : Bytes
  requestId : UInt32
  encoding : RpcEncoding
  body : Bytes
  deriving DecidableEq, Repr

structure RpcResponseData where
  encoding : RpcEncoding := RpcEncoding.json
  body : Bytes := []
  overrideEncoding : Bool := false
  statusCode : ErrorCode := ErrorCode.success
  overrideStatus : Bool := false
  deriving DecidableEq, Repr

section Handlers

variable (σ : Type*)

/-- Returns the response, or throws. -/
abbrev RawRpcHandler := σ → RpcContext → RpcRequestView → σ × Option RpcResponseData

/-- Throws (`none`), has no result yet (`some none`), or returns the response. -/
abbrev DeferredRpcPoll := σ → σ × Option (Option RpcResponseData)

/-- Throws (`none`), returns an empty function (`some none`), or returns the poll. -/
abbrev DeferredRawRpcHandler :=
  σ → RpcContext → RpcRequestView → σ × Option (Option (DeferredRpcPoll σ))

/-- Returns a code, or throws. -/
abbrev RequestValidator := σ → RpcPayload → σ × Option ErrorCode

structure RpcDispatch where
  response : RpcPayload
  deferredPoll : Option (DeferredRpcPoll σ)

structure BusinessRouter where
  registry : MethodRegistry := MethodRegistry.fromGeneratedDefaults
  handlers : UInt32 → Option (RawRpcHandler σ) := fun _ => none
  deferredHandlers : UInt32 → Option (DeferredRawRpcHandler σ) := fun _ => none
  validators : List (RequestValidator σ) := []

end Handlers

namespace BusinessRouter

variable {σ : Type*}

/-! ### Registration -/

def registerRequestValidator (router : BusinessRouter σ) (validator : RequestValidator σ) :
    BusinessRouter σ :=
  { router with validators := router.validators ++ [validator] }

def registerRawMethod (router : BusinessRouter σ) (methodId : UInt32) (handler : RawRpcHandler σ) :
    BusinessRouter σ :=
  { router with
    deferredHandlers := Function.update router.deferredHandlers methodId none
    handlers := Function.update router.handlers methodId (some handler) }

def registerDeferredRawMethod (router : BusinessRouter σ) (methodId : UInt32)
    (handler : DeferredRawRpcHandler σ) : BusinessRouter σ :=
  { router with
    handlers := Function.update router.handlers methodId none
    deferredHandlers := Function.update router.deferredHandlers methodId (some handler) }

def registerMethod (router : BusinessRouter σ) (methodId : UInt32)
    (handler : σ → RpcPayload → σ × Option Bytes) : BusinessRouter σ :=
  router.registerRawMethod methodId fun s context request =>
    let payload : RpcPayload :=
      { encoding := request.encoding, op := RpcOp.request, requestId := request.requestId
        methodOrEventId := request.methodId
        meta_ :=
          { sourceProtocol := context.sourceProtocol, sessionId := context.sessionId
            requestId := context.requestId, jsonMethodOrEventName := context.methodName
            endpoint := context.endpoint }
        body := request.body }
    ((handler s payload).1, (handler s payload).2.map fun body => { body })

/-- The body that a typed handler returned, in the encoding of that kind of handler. -/
def responseIn (encoding : RpcEncoding) (result : σ × Option Bytes) : σ × Option RpcResponseData :=
  (result.1, result.2.map fun body => { encoding, body, overrideEncoding := true })

def registerJsonMethod (router : BusinessRouter σ) (methodId : UInt32)
    (handler : σ → RpcContext → Bytes → σ × Option Bytes) : BusinessRouter σ :=
  router.registerRawMethod methodId fun s context request =>
    responseIn RpcEncoding.json (handler s context request.body)

def registerTlvMethod (router : BusinessRouter σ) (methodId : UInt32)
    (handler : σ → RpcContext → Bytes → σ × Option Bytes) : BusinessRouter σ :=
  router.registerRawMethod methodId fun s context request =>
    responseIn jsonBinaryRpcEncoding (handler s context request.body)

/-! ### Dispatch -/

def applyResponseData (response : RpcPayload) (data : RpcResponseData) : RpcPayload :=
  let response :=
    if data.overrideEncoding then
      { response with
        encoding := data.encoding, bodyEncoding := bodyEncodingForRpcEncoding data.encoding }
    else response
  let response :=
    if data.overrideStatus then { response with statusCode := data.statusCode } else response
  { response with body := data.body }

/-- The loop over the validators: the first code other than success. -/
def validate (request : RpcPayload) : List (RequestValidator σ) → σ → σ × Option ErrorCode
  | [], s => (s, some ErrorCode.success)
  | validator :: validators, s =>
    match validator s request with
    | (s, none) => (s, none)
    | (s, some code) =>
      if code ≠ ErrorCode.success then (s, some code) else validate request validators s

/-- The response before a handler has answered. -/
def initialResponse (request : RpcPayload) : RpcPayload :=
  { encoding := request.encoding
    op := RpcOp.requestResponse
    requestId := request.requestId
    methodOrEventId := request.methodOrEventId
    statusCode := ErrorCode.success
    bodyEncoding := request.bodyEncoding
    meta_ := { request.meta_ with endpoint := responseEndpointMetadata request.meta_.endpoint } }

def contextOf (router : BusinessRouter σ) (request : RpcPayload) : RpcContext :=
  { sessionId := request.meta_.sessionId
    requestId := request.requestId
    methodId := request.methodOrEventId
    methodName := (router.registry.findMethodName request.methodOrEventId).getD []
    encoding := request.encoding
    sourceProtocol := request.meta_.sourceProtocol
    endpoint := request.meta_.endpoint }

def viewOf (router : BusinessRouter σ) (request : RpcPayload) : RpcRequestView :=
  { methodId := request.methodOrEventId
    methodName := (router.registry.findMethodName request.methodOrEventId).getD []
    requestId := request.requestId
    encoding := request.encoding
    body := request.body }

/-- `dispatchRpcRequest`; `none` where a validator or a handler throws. A deferred handler that
throws, or returns no poll, is an internal error. -/
def dispatchRpcRequest (router : BusinessRouter σ) (s : σ) (request : RpcPayload) :
    σ × Option (RpcDispatch σ) :=
  let response := initialResponse request
  let handler := router.handlers request.methodOrEventId
  let deferredHandler := router.deferredHandlers request.methodOrEventId
  if handler.isNone ∧ deferredHandler.isNone then
    let statusCode :=
      if (router.registry.findMethodName request.methodOrEventId).isSome then
        ErrorCode.notSupported
      else ErrorCode.rpcMethodNotFound
    (s, some { response := { response with statusCode }, deferredPoll := none })
  else
    match validate request router.validators s with
    | (s, none) => (s, none)
    | (s, some validation) =>
      if validation ≠ ErrorCode.success then
        (s, some { response := { response with statusCode := validation }, deferredPoll := none })
      else
        match handler, deferredHandler with
        | some handler, _ =>
          match handler s (router.contextOf request) (router.viewOf request) with
          | (s, none) => (s, none)
          | (s, some data) =>
            (s, some { response := applyResponseData response data, deferredPoll := none })
        | none, some deferredHandler =>
          match deferredHandler s (router.contextOf request) (router.viewOf request) with
          | (s, some (some poll)) => (s, some { response, deferredPoll := some poll })
          | (s, _) =>
            (s, some { response := { response with statusCode := ErrorCode.internalError }
                       deferredPoll := none })
        | none, none => (s, none)

end BusinessRouter

/-! ### `BusinessExecutor` -/

namespace BusinessExecutor

def executeRpcRequest {σ : Type*} (router : BusinessRouter σ) (s : σ) (request : RpcPayload) :
    σ × Option (RpcDispatch σ) :=
  router.dispatchRpcRequest s request

def completeRpcRequest (response : RpcPayload) (data : RpcResponseData) : RpcPayload :=
  BusinessRouter.applyResponseData response data

end BusinessExecutor

end Axtp
