/-
  Taking session RPCs and control notices by their key.

  The source turns the whole queue and stops at the match (`takeFirst_eq_rotate`),
  so the entries before the match end up behind the others. A take leaves the order
  alone exactly when nothing is disturbed by that (`tryTake_inOrder_iff`); a run of
  such takes returns the entries of each key in their order of arrival.
-/
import Axtp.Lib.Queue
import Axtp.Runtime.AxtpEndpoint

namespace Axtp

namespace AxtpEndpoint

open Run

variable {σ : Type*}

/-! ### The loop of the source -/

/-- `takeFirst` is the loop: pop the front, and push it at the back unless it matches, once for
each entry. -/
theorem takeFirst_eq_rotate {α : Type*} (matching : α → Bool) (queue : List α) :
    takeFirst matching queue = Queue.rotate matching queue.length queue := by
  rw [Queue.rotate_eq, takeFirst, List.span_eq_takeWhile_dropWhile, Queue.before, Queue.behind]
  have hnotMatching : ∀ found rest, queue.dropWhile (fun a => !matching a) = found :: rest →
      queue.find? matching = some found := by
    intro found rest h
    induction queue with
    | nil => cases h
    | cons a queue ih =>
      by_cases ha : matching a
      · rw [List.dropWhile_cons, if_neg (by simp [ha])] at h
        rw [List.find?_cons_of_pos ha, (List.cons.inj h).1]
      · rw [List.dropWhile_cons, if_pos (by simp [ha])] at h
        rw [List.find?_cons_of_neg ha, ih h]
  rcases hdrop : queue.dropWhile (fun a => !matching a) with _ | ⟨found, rest⟩
  · have hnone : queue.find? matching = none := by
      simpa using List.dropWhile_eq_nil_iff.mp hdrop
    simp [hnone]
  · simp [hnotMatching found rest hdrop]

/-! ### Keys -/

/-- An opcode, with a control id or without. -/
abbrev NoticeKey := ControlOpcode × Option UInt16

def sessionMatches (op : RpcOp) (payload : RpcPayload) : Bool := payload.op = op

def noticeMatches (key : NoticeKey) (notice : ControlPayload) : Bool :=
  notice.opcode = key.1 ∧ notice.controlId = key.2.getD notice.controlId

theorem tryTakeSessionRpc_eq (endpoint : AxtpEndpoint σ) (op : RpcOp) :
    endpoint.tryTakeSessionRpc op =
      ({ endpoint with
          core := { endpoint.core with
            sessionRpcs := (takeFirst (sessionMatches op) endpoint.core.sessionRpcs).1 } },
        (takeFirst (sessionMatches op) endpoint.core.sessionRpcs).2) := rfl

theorem tryTakeControlNotice_eq (endpoint : AxtpEndpoint σ) (key : NoticeKey) :
    endpoint.tryTakeControlNotice key.1 key.2 =
      ({ endpoint with
          core := { endpoint.core with
            controlNotices := (takeFirst (noticeMatches key) endpoint.core.controlNotices).1 } },
        (takeFirst (noticeMatches key) endpoint.core.controlNotices).2) := rfl

/-! ### Takes that keep the order -/

/-- The take as promised: the first session RPC of the op leaves the queue, the others stay in
order. -/
def takeSessionRpcInOrder (endpoint : AxtpEndpoint σ) (op : RpcOp) :
    AxtpEndpoint σ × Option RpcPayload :=
  let (sessionRpcs, payload) := Queue.take (sessionMatches op) endpoint.core.sessionRpcs
  ({ endpoint with core := { endpoint.core with sessionRpcs } }, payload)

/-- The take as promised, for control notices. -/
def takeControlNoticeInOrder (endpoint : AxtpEndpoint σ) (key : NoticeKey) :
    AxtpEndpoint σ × Option ControlPayload :=
  let (controlNotices, notice) := Queue.take (noticeMatches key) endpoint.core.controlNotices
  ({ endpoint with core := { endpoint.core with controlNotices } }, notice)

/-- The queue with the key's entries is not disturbed by a take with that key. -/
def Undisturbed (endpoint : AxtpEndpoint σ) : RpcOp ⊕ NoticeKey → Prop
  | .inl op => Queue.Undisturbed (sessionMatches op) endpoint.core.sessionRpcs
  | .inr key => Queue.Undisturbed (noticeMatches key) endpoint.core.controlNotices

theorem tryTakeSessionRpc_inOrder_iff (endpoint : AxtpEndpoint σ) (op : RpcOp) :
    endpoint.tryTakeSessionRpc op = endpoint.takeSessionRpcInOrder op ↔
      endpoint.Undisturbed (.inl op) := by
  rw [Undisturbed, ← Queue.rotate_eq_take_iff, tryTakeSessionRpc_eq, takeFirst_eq_rotate,
    takeSessionRpcInOrder]
  constructor
  · intro h
    obtain ⟨hcore, hpayload⟩ := Prod.mk.inj h
    have hqueue := congrArg (fun endpoint => endpoint.core.sessionRpcs) hcore
    exact Prod.ext hqueue hpayload
  · intro h
    rw [h]

theorem tryTakeControlNotice_inOrder_iff (endpoint : AxtpEndpoint σ) (key : NoticeKey) :
    endpoint.tryTakeControlNotice key.1 key.2 = endpoint.takeControlNoticeInOrder key ↔
      endpoint.Undisturbed (.inr key) := by
  rw [Undisturbed, ← Queue.rotate_eq_take_iff, tryTakeControlNotice_eq, takeFirst_eq_rotate,
    takeControlNoticeInOrder]
  constructor
  · intro h
    obtain ⟨hcore, hnotice⟩ := Prod.mk.inj h
    have hqueue := congrArg (fun endpoint => endpoint.core.controlNotices) hcore
    exact Prod.ext hqueue hnotice
  · intro h
    rw [h]

/-! ### Runs of takes -/

/-- A result with the key it was taken by. -/
abbrev Taken := (RpcOp × Option RpcPayload) ⊕ (NoticeKey × Option ControlPayload)

/-- One take of either kind. -/
def take (endpoint : AxtpEndpoint σ) : RpcOp ⊕ NoticeKey → AxtpEndpoint σ × List Taken
  | .inl op => ((endpoint.tryTakeSessionRpc op).1, [.inl (op, (endpoint.tryTakeSessionRpc op).2)])
  | .inr key => ((endpoint.tryTakeControlNotice key.1 key.2).1,
      [.inr (key, (endpoint.tryTakeControlNotice key.1 key.2).2)])

/-- Every take of the run finds its queue undisturbed. -/
def UndisturbedRun (endpoint : AxtpEndpoint σ) (keys : List (RpcOp ⊕ NoticeKey)) : Prop :=
  ∀ done key rest, keys = done ++ key :: rest → (run take endpoint done).1.Undisturbed key

theorem UndisturbedRun.head {endpoint : AxtpEndpoint σ} {key : RpcOp ⊕ NoticeKey}
    {keys : List (RpcOp ⊕ NoticeKey)} (h : UndisturbedRun endpoint (key :: keys)) :
    endpoint.Undisturbed key :=
  h [] key keys rfl

theorem UndisturbedRun.tail {endpoint : AxtpEndpoint σ} {key : RpcOp ⊕ NoticeKey}
    {keys : List (RpcOp ⊕ NoticeKey)} (h : UndisturbedRun endpoint (key :: keys)) :
    UndisturbedRun (endpoint.take key).1 keys := by
  intro done k rest hkeys
  exact h (key :: done) k rest (by rw [hkeys, List.cons_append])

/-- Each queue sees the takes that are meant for it, in order. -/
theorem run_take (endpoint : AxtpEndpoint σ) (keys : List (RpcOp ⊕ NoticeKey))
    (h : UndisturbedRun endpoint keys) :
    (run take endpoint keys).2.filterMap Sum.getLeft? =
        (run (Queue.takeKey sessionMatches) endpoint.core.sessionRpcs
          (keys.filterMap Sum.getLeft?)).2 ∧
      (run take endpoint keys).2.filterMap Sum.getRight? =
        (run (Queue.takeKey noticeMatches) endpoint.core.controlNotices
          (keys.filterMap Sum.getRight?)).2 := by
  induction keys generalizing endpoint with
  | nil => exact ⟨rfl, rfl⟩
  | cons key keys ih =>
    obtain ⟨hsession, hnotice⟩ := ih _ h.tail
    rw [run_cons, List.filterMap_append, List.filterMap_append, hsession, hnotice]
    rcases key with op | key
    · have htake := (tryTakeSessionRpc_inOrder_iff endpoint op).mpr h.head
      simp only [take, htake, takeSessionRpcInOrder, List.filterMap_cons, Sum.getLeft?_inl,
        Sum.getRight?_inl, List.filterMap_nil, List.nil_append, run_cons, Queue.takeKey, and_self,
        List.singleton_append]
    · have htake := (tryTakeControlNotice_inOrder_iff endpoint key).mpr h.head
      simp only [take, htake, takeControlNoticeInOrder, List.filterMap_cons, Sum.getLeft?_inr,
        Sum.getRight?_inr, List.filterMap_nil, List.nil_append, run_cons, Queue.takeKey, and_self,
        List.singleton_append]

/-- **Selective takes.** A take returns the first match and leaves the other entries in order
exactly when the entries before the match and those behind it are repetitions of one block. A run of
such takes returns, for each key, its entries in their order of arrival. -/
theorem tryTake_inOrder_iff (endpoint : AxtpEndpoint σ) :
    (∀ op, endpoint.tryTakeSessionRpc op = endpoint.takeSessionRpcInOrder op ↔
        endpoint.Undisturbed (.inl op)) ∧
      (∀ opcode controlId,
        endpoint.tryTakeControlNotice opcode controlId =
            endpoint.takeControlNoticeInOrder (opcode, controlId) ↔
          endpoint.Undisturbed (.inr (opcode, controlId))) ∧
      ∀ keys, UndisturbedRun endpoint keys →
        (∀ op, (Queue.takenFor op ((run take endpoint keys).2.filterMap Sum.getLeft?)).Sublist
            (endpoint.core.sessionRpcs.filter (sessionMatches op))) ∧
          ∀ key, (Queue.takenFor key ((run take endpoint keys).2.filterMap Sum.getRight?)).Sublist
            (endpoint.core.controlNotices.filter (noticeMatches key)) := by
  refine ⟨tryTakeSessionRpc_inOrder_iff endpoint,
    fun opcode controlId => tryTakeControlNotice_inOrder_iff endpoint (opcode, controlId),
    fun keys hkeys => ?_⟩
  obtain ⟨hsession, hnotice⟩ := run_take endpoint keys hkeys
  rw [hsession, hnotice]
  exact ⟨fun op => Queue.taken_sublist sessionMatches _ _ op,
    fun key => Queue.taken_sublist noticeMatches _ _ key⟩

/-- An endpoint that holds the notices. -/
def holding (controlNotices : List ControlPayload) : AxtpEndpoint Unit :=
  { core := { controlNotices }, world := () }

/-- The acknowledgement of a heartbeat in front of an `Accept`: both takes are undisturbed. -/
theorem tryTake_inOrder_front :
    (Queue.takenFor (ControlOpcode.heartbeatAck, none)
      ((run take (holding [{ opcode := ControlOpcode.heartbeatAck, controlId := 1 },
          { opcode := ControlOpcode.accept }])
        [.inr (ControlOpcode.accept, none), .inr (ControlOpcode.heartbeatAck, none)]).2.filterMap
          Sum.getRight?)).Sublist [{ opcode := ControlOpcode.heartbeatAck, controlId := 1 }] := by
  refine ((tryTake_inOrder_iff (holding _)).2.2 _ ?_).2 (ControlOpcode.heartbeatAck, none)
  intro done key rest h
  rcases done with _ | ⟨k, _ | ⟨k', done⟩⟩
  · obtain ⟨rfl, -⟩ := List.cons.inj h
    exact Queue.undisturbed_of_behind (by decide)
  · obtain ⟨rfl, -⟩ := List.cons.inj (List.cons.inj h).2
    obtain ⟨rfl, -⟩ := List.cons.inj h
    exact Queue.undisturbed_of_before (by decide)
  · simp at h

/-- Two acknowledgements with an `Accept` between them: taking the `Accept` swaps them, and the
second is returned first. -/
theorem not_tryTake_inOrder :
    ¬ ∀ (endpoint : AxtpEndpoint Unit) (opcode : ControlOpcode) (controlId : Option UInt16),
      endpoint.tryTakeControlNotice opcode controlId =
        endpoint.takeControlNoticeInOrder (opcode, controlId) := by
  intro h
  have htake := h (holding [{ opcode := ControlOpcode.heartbeatAck, controlId := 1 },
    { opcode := ControlOpcode.accept }, { opcode := ControlOpcode.heartbeatAck, controlId := 2 }])
    ControlOpcode.accept none
  have hqueue := congrArg (fun taken => taken.1.core.controlNotices) htake
  revert hqueue
  decide

end AxtpEndpoint

end Axtp
