/-
  What the router answers a request with.

  `Dispatched` lists the ways a dispatch can end (`dispatched`). Every response, for
  whatever reason, answers its request: it keeps the request id, the method and the
  metadata, with the endpoint reversed (`answers_of_dispatch`). A dispatch throws
  exactly when a validator or a synchronous handler does
  (`dispatchRpcRequest_eq_none_iff`).
-/
import Axtp.Runtime.BusinessRouter

namespace Axtp

namespace BusinessRouter

variable {σ : Type*} {router : BusinessRouter σ} {s : σ} {request response : RpcPayload}

/-! ### The ways a dispatch can end -/

inductive Dispatched (router : BusinessRouter σ) (s : σ) (request : RpcPayload) :
    σ × Option (RpcDispatch σ) → Prop
  | unregistered (statusCode : ErrorCode)
      (hhandler : router.handlers request.methodOrEventId = none)
      (hdeferred : router.deferredHandlers request.methodOrEventId = none)
      (hstatus : statusCode ≠ ErrorCode.success) :
      Dispatched router s request
        (s, some { response := { initialResponse request with statusCode }, deferredPoll := none })
  | validatorThrew {s' : σ}
      (hregistered : router.handlers request.methodOrEventId ≠ none ∨
        router.deferredHandlers request.methodOrEventId ≠ none)
      (hvalidate : validate request router.validators s = (s', none)) :
      Dispatched router s request (s', none)
  | rejected {s' : σ} {statusCode : ErrorCode}
      (hregistered : router.handlers request.methodOrEventId ≠ none ∨
        router.deferredHandlers request.methodOrEventId ≠ none)
      (hvalidate : validate request router.validators s = (s', some statusCode))
      (hstatus : statusCode ≠ ErrorCode.success) :
      Dispatched router s request
        (s', some { response := { initialResponse request with statusCode }, deferredPoll := none })
  | handlerThrew {handler : RawRpcHandler σ} {s' s'' : σ}
      (hhandler : router.handlers request.methodOrEventId = some handler)
      (hvalidate : validate request router.validators s = (s', some ErrorCode.success))
      (hthrew : handler s' (router.contextOf request) (router.viewOf request) = (s'', none)) :
      Dispatched router s request (s'', none)
  | answered {handler : RawRpcHandler σ} {s' s'' : σ} {data : RpcResponseData}
      (hhandler : router.handlers request.methodOrEventId = some handler)
      (hvalidate : validate request router.validators s = (s', some ErrorCode.success))
      (hanswered : handler s' (router.contextOf request)
        (router.viewOf request) = (s'', some data)) :
      Dispatched router s request
        (s'', some { response := applyResponseData (initialResponse request) data
                     deferredPoll := none })
  | deferred {handler : DeferredRawRpcHandler σ} {s' s'' : σ} {poll : DeferredRpcPoll σ}
      (hhandler : router.handlers request.methodOrEventId = none)
      (hdeferred : router.deferredHandlers request.methodOrEventId = some handler)
      (hvalidate : validate request router.validators s = (s', some ErrorCode.success))
      (hpoll : handler s' (router.contextOf request) (router.viewOf request) =
        (s'', some (some poll))) :
      Dispatched router s request
        (s'', some { response := initialResponse request, deferredPoll := some poll })
  | deferralFailed {handler : DeferredRawRpcHandler σ} {s' s'' : σ}
      {poll : Option (Option (DeferredRpcPoll σ))}
      (hhandler : router.handlers request.methodOrEventId = none)
      (hdeferred : router.deferredHandlers request.methodOrEventId = some handler)
      (hvalidate : validate request router.validators s = (s', some ErrorCode.success))
      (hfailed : handler s' (router.contextOf request) (router.viewOf request) = (s'', poll))
      (hpoll : ∀ p, poll ≠ some (some p)) :
      Dispatched router s request
        (s'', some { response :=
                       { initialResponse request with statusCode := ErrorCode.internalError }
                     deferredPoll := none })

theorem dispatched (router : BusinessRouter σ) (s : σ) (request : RpcPayload) :
    Dispatched router s request (router.dispatchRpcRequest s request) := by
  unfold dispatchRpcRequest
  -- a synchronous handler comes before a deferred one
  rcases hhandler : router.handlers request.methodOrEventId with _ | handler
  · rcases hdeferred : router.deferredHandlers request.methodOrEventId with _ | deferredHandler
    · simp only [Option.isNone_none, and_self, if_true]
      refine .unregistered _ hhandler hdeferred ?_
      split_ifs <;> decide
    · have hregistered : router.handlers request.methodOrEventId ≠ none ∨
          router.deferredHandlers request.methodOrEventId ≠ none := .inr (by simp [hdeferred])
      simp only [Option.isNone_some, Bool.false_eq_true, and_false, if_false]
      rcases hvalidate : validate request router.validators s with ⟨s', _ | validation⟩
      · exact .validatorThrew hregistered hvalidate
      · by_cases hstatus : validation = ErrorCode.success
        · subst hstatus
          simp only [ne_eq, not_true_eq_false, if_false]
          rcases hpoll : deferredHandler s' (router.contextOf request) (router.viewOf request) with
            ⟨s'', _ | _ | poll⟩
          · exact .deferralFailed hhandler hdeferred hvalidate hpoll (by simp)
          · exact .deferralFailed hhandler hdeferred hvalidate hpoll (by simp)
          · exact .deferred hhandler hdeferred hvalidate hpoll
        · simp only [ne_eq, hstatus, not_false_eq_true, if_true]
          exact .rejected hregistered hvalidate hstatus
  · have hregistered : router.handlers request.methodOrEventId ≠ none ∨
        router.deferredHandlers request.methodOrEventId ≠ none := .inl (by simp [hhandler])
    simp only [Option.isNone_some, Bool.false_eq_true, false_and, if_false]
    rcases hvalidate : validate request router.validators s with ⟨s', _ | validation⟩
    · exact .validatorThrew hregistered hvalidate
    · by_cases hstatus : validation = ErrorCode.success
      · subst hstatus
        simp only [ne_eq, not_true_eq_false, if_false]
        rcases hcall : handler s' (router.contextOf request) (router.viewOf request) with
          ⟨s'', _ | data⟩
        · exact .handlerThrew hhandler hvalidate hcall
        · exact .answered hhandler hvalidate hcall
      · simp only [ne_eq, hstatus, not_false_eq_true, if_true]
        exact .rejected hregistered hvalidate hstatus

/-! ### Answers -/

/-- The response answers the request. -/
structure Answers (request response : RpcPayload) : Prop where
  op : response.op = RpcOp.requestResponse
  requestId : response.requestId = request.requestId
  methodOrEventId : response.methodOrEventId = request.methodOrEventId
  meta_ : response.meta_ =
    { request.meta_ with endpoint := responseEndpointMetadata request.meta_.endpoint }

theorem answers_initialResponse (request : RpcPayload) :
    Answers request (initialResponse request) :=
  ⟨rfl, rfl, rfl, rfl⟩

theorem Answers.withStatus (h : Answers request response) (statusCode : ErrorCode) :
    Answers request { response with statusCode } :=
  ⟨h.op, h.requestId, h.methodOrEventId, h.meta_⟩

theorem Answers.applyResponseData (h : Answers request response) (data : RpcResponseData) :
    Answers request (applyResponseData response data) := by
  unfold BusinessRouter.applyResponseData
  split_ifs <;> exact ⟨h.op, h.requestId, h.methodOrEventId, h.meta_⟩

theorem Answers.replyTarget (h : Answers request response) :
    response.meta_.replyTarget = request.meta_.replyTarget := by
  rw [h.meta_]

/-- Whatever a dispatch yields answers the request. -/
theorem answers_of_dispatch {s' : σ} {dispatch : RpcDispatch σ}
    (h : router.dispatchRpcRequest s request = (s', some dispatch)) :
    Answers request dispatch.response := by
  have hinitial := answers_initialResponse request
  have hcases := dispatched router s request
  rw [h] at hcases
  cases hcases with
  | unregistered => exact hinitial.withStatus _
  | rejected => exact hinitial.withStatus _
  | answered => exact hinitial.applyResponseData _
  | deferred => exact hinitial
  | deferralFailed => exact hinitial.withStatus _

/-! ### Exceptions -/

/-- A validator throws, or all of them let the request pass and its synchronous handler throws. -/
inductive Throws (router : BusinessRouter σ) (s : σ) (request : RpcPayload) : Prop
  | validator (hregistered : router.handlers request.methodOrEventId ≠ none ∨
      router.deferredHandlers request.methodOrEventId ≠ none)
      (hvalidate : (validate request router.validators s).2 = none)
  | handler {handler : RawRpcHandler σ}
      (hhandler : router.handlers request.methodOrEventId = some handler)
      (hvalidate : (validate request router.validators s).2 = some ErrorCode.success)
      (hthrew : (handler (validate request router.validators s).1 (router.contextOf request)
        (router.viewOf request)).2 = none)

theorem dispatchRpcRequest_eq_none_iff :
    (router.dispatchRpcRequest s request).2 = none ↔ Throws router s request := by
  -- only the first two ways of a dispatch throw
  have hcases := dispatched router s request
  generalize router.dispatchRpcRequest s request = result at hcases
  cases hcases with
  | validatorThrew hregistered hvalidate =>
    simp only [true_iff]
    exact .validator hregistered (by rw [hvalidate])
  | handlerThrew hhandler hvalidate hthrew =>
    simp only [true_iff]
    exact .handler hhandler (by rw [hvalidate]) (by rw [hvalidate, hthrew])
  | unregistered statusCode hhandler hdeferred =>
    simp only [reduceCtorEq, false_iff]
    rintro (⟨hregistered, -⟩ | ⟨hhandler', -, -⟩)
    · simp [hhandler, hdeferred] at hregistered
    · rw [hhandler] at hhandler'
      cases hhandler'
  | rejected hregistered hvalidate hstatus =>
    simp only [reduceCtorEq, false_iff]
    rintro (⟨-, hvalidate'⟩ | ⟨-, hvalidate', -⟩) <;> rw [hvalidate] at hvalidate'
    · cases hvalidate'
    · exact hstatus (Option.some.inj hvalidate')
  | answered hhandler hvalidate hanswered =>
    simp only [reduceCtorEq, false_iff]
    rintro (⟨-, hvalidate'⟩ | ⟨hhandler', -, hthrew⟩)
    · rw [hvalidate] at hvalidate'
      cases hvalidate'
    · rw [hhandler] at hhandler'
      obtain rfl := Option.some.inj hhandler'
      rw [hvalidate, hanswered] at hthrew
      cases hthrew
  | deferred hhandler hdeferred hvalidate =>
    simp only [reduceCtorEq, false_iff]
    rintro (⟨-, hvalidate'⟩ | ⟨hhandler', -, -⟩)
    · rw [hvalidate] at hvalidate'
      cases hvalidate'
    · rw [hhandler] at hhandler'
      cases hhandler'
  | deferralFailed hhandler hdeferred hvalidate =>
    simp only [reduceCtorEq, false_iff]
    rintro (⟨-, hvalidate'⟩ | ⟨hhandler', -, -⟩)
    · rw [hvalidate] at hvalidate'
      cases hvalidate'
    · rw [hhandler] at hhandler'
      cases hhandler'

instance : Decidable (Throws router s request) :=
  decidable_of_iff _ dispatchRpcRequest_eq_none_iff

end BusinessRouter

end Axtp
