/-
  What a control session remembers of its history.

  `Handled` says once what an inbound payload does to the session. From it follows by
  induction on the history which OPEN the session awaits the answer of (`Awaits`), when
  it is open, and where the negotiated heartbeat interval comes from (`session_trace`).
-/
import Axtp.Lib.Since
import Axtp.Session.ControlSession

namespace Axtp

namespace ControlSession

/-! ### One payload -/

/-- An OPEN that is answered by success: its TLV is valid, and if it lists RPC encodings, JSON is
one of them. -/
def Acceptable (payload : ControlPayload) : Prop :=
  payload.tlv.valid = true ∧ ¬ (payload.tlv.hasSupportedRpcEncodings = true ∧
    payload.tlv.supportedRpcEncodings &&& 0x01 = 0)

instance (payload : ControlPayload) : Decidable (Acceptable payload) := by
  unfold Acceptable; infer_instance

/-- A successful and valid ACCEPT of the OPEN with the id. -/
structure AcceptFor (controlId : UInt16) (payload : ControlPayload) : Prop where
  opcode : payload.opcode = ControlOpcode.accept
  controlId : payload.controlId = controlId
  statusCode : payload.statusCode = ErrorCode.success
  valid : payload.tlv.valid = true

/-- What an inbound payload does to a session. -/
inductive Handled (session : ControlSession) (payload : ControlPayload) : ControlSession → Prop
  | opened (hopcode : payload.opcode = ControlOpcode.open_) :
      Handled session payload
        { session with
          lastOpcode := payload.opcode, isOpen := decide (Acceptable payload),
          acceptedOptions := {} }
  | accepted {controlId : UInt16} (hpending : session.pendingOpenId = some controlId)
      (haccept : AcceptFor controlId payload) :
      Handled session payload
        { session with
          lastOpcode := payload.opcode, isOpen := true, acceptedOptions := payload.tlv
          pendingOpenId := none }
  | closed (hopcode : payload.opcode = ControlOpcode.close) :
      Handled session payload
        { session with
          lastOpcode := payload.opcode, isOpen := false, pendingOpenId := none
          acceptedOptions := {} }
  | kept (hopen : payload.opcode ≠ ControlOpcode.open_)
      (hclose : payload.opcode ≠ ControlOpcode.close)
      (haccept : ∀ controlId, session.pendingOpenId = some controlId →
        ¬ AcceptFor controlId payload) :
      Handled session payload { session with lastOpcode := payload.opcode }

theorem handled (session : ControlSession) (payload : ControlPayload) :
    Handled session payload (session.handle payload).1 := by
  unfold handle
  by_cases hopen : payload.opcode = ControlOpcode.open_
  · have hacceptable :
        (payload.tlv.valid && (ControlTlvCodec.defaultsForAccept payload.tlv).valid) =
        decide (Acceptable payload) := by
      simp [Acceptable, ControlTlvCodec.defaultsForAccept]
    simp only [if_pos hopen, hacceptable]
    exact .opened hopen
  simp only [if_neg hopen]
  by_cases haccept : payload.opcode = ControlOpcode.accept
  · have hclose : payload.opcode ≠ ControlOpcode.close := by rw [haccept]; decide
    simp only [if_pos haccept]
    split_ifs with hmatch
    · obtain ⟨hpending, hstatus, hvalid⟩ := hmatch
      exact .accepted hpending ⟨haccept, rfl, hstatus, hvalid⟩
    · -- an ACCEPT that the session does not wait for changes nothing
      refine .kept hopen hclose fun controlId hpending hfor => hmatch ?_
      exact ⟨by rw [hfor.controlId]; exact hpending, hfor.statusCode, hfor.valid⟩
  simp only [if_neg haccept]
  -- from here on the payload is no ACCEPT
  have hnone :
      ∀ controlId, session.pendingOpenId = some controlId → ¬ AcceptFor controlId payload :=
    fun _ _ hfor => haccept hfor.opcode
  by_cases hclose : payload.opcode = ControlOpcode.close
  · have hping : payload.opcode ≠ ControlOpcode.ping := by rw [hclose]; decide
    have hheartbeat : payload.opcode ≠ ControlOpcode.heartbeat := by rw [hclose]; decide
    simp only [if_neg hping, if_neg hheartbeat, if_pos hclose]
    exact .closed hclose
  · split_ifs <;> exact .kept hopen hclose hnone

/-! ### Histories -/

/-- The call is an inbound payload with the opcode. -/
def Call.IsInbound (opcode : ControlOpcode) : Call → Prop
  | handle payload => payload.opcode = opcode
  | _ => False

/-- The call is `makeOpen`. -/
def Call.IsMakeOpen : Call → Prop
  | makeOpen _ => True
  | _ => False

/-- The call is an inbound ACCEPT, successful and valid, of the OPEN with the id. -/
def Call.Accepts (controlId : UInt16) : Call → Prop
  | handle payload => AcceptFor controlId payload
  | _ => False

/-- The call is an inbound OPEN that is acceptable. -/
def Call.IsAcceptableOpen : Call → Prop
  | handle payload => payload.opcode = ControlOpcode.open_ ∧ Acceptable payload
  | _ => False

/-- The last `makeOpen` has the id, and it has been neither accepted nor closed since. -/
def Awaits (history : List Call) (controlId : UInt16) : Prop :=
  Since (fun _ c => ¬ c.IsMakeOpen ∧ ¬ c.IsInbound ControlOpcode.close ∧ ¬ c.Accepts controlId)
    (fun _ c => c = .makeOpen controlId) history

/-- The call is the ACCEPT of the last `makeOpen`. -/
def Answers (before : List Call) (c : Call) : Prop :=
  ∃ controlId, Awaits before controlId ∧ c.Accepts controlId

/-- The calls that the openness depends on. -/
def Decides (before : List Call) (c : Call) : Prop :=
  c.IsMakeOpen ∨ c.IsInbound ControlOpcode.open_ ∨ c.IsInbound ControlOpcode.close ∨
    Answers before c

/-- The calls that open the session. -/
def Opens (before : List Call) (c : Call) : Prop := c.IsAcceptableOpen ∨ Answers before c

/-- The last of the calls that decide about the openness opens the session. -/
def Open (history : List Call) : Prop := Since (fun before c => ¬ Decides before c) Opens history

/-- The last `makeOpen` was answered by an ACCEPT with these options, and neither a `makeOpen` nor
an inbound OPEN or CLOSE came since. -/
def Negotiated (options : ControlTlvOptions) (history : List Call) : Prop :=
  Since
    (fun _ c => ¬ c.IsMakeOpen ∧ ¬ c.IsInbound ControlOpcode.open_ ∧
      ¬ c.IsInbound ControlOpcode.close)
    (fun before c => Answers before c ∧ ∃ payload, c = .handle payload ∧ payload.tlv = options)
    history

theorem awaits_concat {history : List Call} {c : Call} {controlId : UInt16} :
    Awaits (history ++ [c]) controlId ↔ c = .makeOpen controlId ∨ (Awaits history controlId ∧
      ¬ c.IsMakeOpen ∧ ¬ c.IsInbound ControlOpcode.close ∧ ¬ c.Accepts controlId) :=
  since_concat

theorem open_concat {history : List Call} {c : Call} :
    Open (history ++ [c]) ↔ Opens history c ∨ (Open history ∧ ¬ Decides history c) :=
  since_concat

/-- What the fields of a session say about its history. -/
structure Remembers (history : List Call) (session : ControlSession) : Prop where
  pending : ∀ controlId, session.pendingOpenId = some controlId ↔ Awaits history controlId
  isOpen : session.isOpen = true ↔ Open history
  accepted : session.acceptedOptions = {} ∨
    (session.isOpen = true ∧ Negotiated session.acceptedOptions history)

theorem remembers_start : Remembers [] {} where
  pending controlId := by
    simp only [reduceCtorEq, false_iff]
    exact not_since_nil
  isOpen := by
    simp only [Bool.false_eq_true, false_iff]
    exact not_since_nil
  accepted := .inl rfl

variable {history : List Call} {session : ControlSession}

/-- A call that no definition looks at. -/
theorem Remembers.kept (h : Remembers history session) {c : Call} {session' : ControlSession}
    (hmake : ¬ c.IsMakeOpen) (hopen : ¬ c.IsInbound ControlOpcode.open_)
    (hclose : ¬ c.IsInbound ControlOpcode.close)
    (haccept : ∀ controlId, Awaits history controlId → ¬ c.Accepts controlId)
    (hacceptable : ¬ c.IsAcceptableOpen) (hpending : session'.pendingOpenId = session.pendingOpenId)
    (hisOpen : session'.isOpen = session.isOpen)
    (hoptions : session'.acceptedOptions = session.acceptedOptions) :
    Remembers (history ++ [c]) session' where
  pending controlId := by
    rw [hpending, h.pending, awaits_concat]
    constructor
    · exact fun hawaits => .inr ⟨hawaits, hmake, hclose, haccept _ hawaits⟩
    · rintro (rfl | ⟨hawaits, -⟩)
      · exact absurd trivial hmake
      · exact hawaits
  isOpen := by
    have hanswers : ¬ Answers history c := fun ⟨controlId, hawaits, haccepts⟩ =>
      haccept controlId hawaits haccepts
    rw [hisOpen, h.isOpen, open_concat]
    simp only [Opens, Decides, hmake, hopen, hclose, hanswers, hacceptable, or_self,
      not_false_eq_true,
      and_true, false_or]
  accepted := by
    rw [hoptions, hisOpen]
    rcases h.accepted with hnone | ⟨hisOpen, hnegotiated⟩
    · exact .inl hnone
    · exact .inr ⟨hisOpen, since_concat.mpr (.inr ⟨hnegotiated, hmake, hopen, hclose⟩)⟩

theorem remembers_makeOpen (history : List Call) (session : ControlSession) (controlId : UInt16) :
    Remembers (history ++ [.makeOpen controlId]) (session.makeOpen controlId).1 where
  pending controlId' := by
    simp only [ControlSession.makeOpen, Option.some.injEq, awaits_concat, Call.makeOpen.injEq,
      Call.IsMakeOpen, not_true_eq_false, false_and, and_false, or_false]
  isOpen := by
    simp only [ControlSession.makeOpen, open_concat, Opens, Decides, Call.IsAcceptableOpen, Answers,
      Call.Accepts, Call.IsMakeOpen, and_false, exists_false, or_false, true_or, not_true_eq_false,
      Bool.false_eq_true]
  accepted := .inl rfl

theorem Remembers.handle (h : Remembers history session) (payload : ControlPayload) :
    Remembers (history ++ [.handle payload]) (session.handle payload).1 := by
  have hhandled := handled session payload
  generalize (session.handle payload).1 = session' at hhandled
  have hcloseOpen : ControlOpcode.close ≠ ControlOpcode.open_ := by decide
  have hacceptOpen : ControlOpcode.accept ≠ ControlOpcode.open_ := by decide
  have hacceptClose : ControlOpcode.accept ≠ ControlOpcode.close := by decide
  cases hhandled with
  | opened hopcode =>
    have hnot (controlId : UInt16) : ¬ AcceptFor controlId payload := fun hfor =>
      hacceptOpen (hfor.opcode.symm.trans hopcode)
    refine ⟨fun controlId => ?_, ?_, .inl rfl⟩
    · simp only [h.pending, awaits_concat, Call.IsMakeOpen, Call.IsInbound, Call.Accepts, hopcode,
        hcloseOpen.symm, hnot, reduceCtorEq, not_false_eq_true, and_self, and_true, false_or]
    · simp only [decide_eq_true_eq, open_concat, Opens, Decides, Call.IsAcceptableOpen, Answers,
        Call.Accepts, Call.IsMakeOpen, Call.IsInbound, hopcode, hcloseOpen.symm, hnot, and_false,
        exists_false, or_false, true_and, false_or, not_true_eq_false]
  | @accepted controlId hpending haccept =>
    have hawaits := (h.pending controlId).mp hpending
    have hanswers : Answers history (.handle payload) := ⟨controlId, hawaits, haccept⟩
    refine ⟨fun controlId' => ?_, ?_, .inr ⟨rfl, ?_⟩⟩
    · simp only [reduceCtorEq, awaits_concat, false_or, false_iff]
      -- only the awaited id was awaited
      rintro ⟨hawaits', -, -, hnot⟩
      have heq := (h.pending controlId').mpr hawaits'
      rw [hpending, Option.some.injEq] at heq
      exact hnot (heq ▸ haccept)
    · simp only [true_iff, open_concat]
      exact .inl (.inr hanswers)
    · exact since_concat.mpr (.inl ⟨hanswers, payload, rfl, rfl⟩)
  | closed hopcode =>
    have hnot (controlId : UInt16) : ¬ AcceptFor controlId payload := fun hfor =>
      hacceptClose (hfor.opcode.symm.trans hopcode)
    refine ⟨fun controlId => ?_, ?_, .inl rfl⟩
    · simp only [reduceCtorEq, awaits_concat, Call.IsInbound, hopcode, not_true_eq_false, false_and,
        and_false, or_self]
    · simp only [Bool.false_eq_true, open_concat, Opens, Decides, Call.IsAcceptableOpen, Answers,
        Call.Accepts, Call.IsMakeOpen, Call.IsInbound, hopcode, hcloseOpen, hnot, false_and,
        and_false, exists_false, or_false, or_true, not_true_eq_false]
  | kept hopen hclose haccept =>
    exact h.kept id hopen hclose
      (fun controlId hawaits => haccept controlId ((h.pending controlId).mpr hawaits))
      (fun hacceptable => hopen hacceptable.1) rfl rfl rfl

/-- **One call** keeps what the session remembers. -/
theorem Remembers.call (h : Remembers history session) (c : Call) :
    Remembers (history ++ [c]) (session.call c) := by
  cases c with
  | setRequestedHeartbeatInterval intervalMs =>
    exact h.kept id id id (fun _ _ => id) id rfl rfl rfl
  | makeOpen controlId => exact remembers_makeOpen history session controlId
  | handle payload => exact h.handle payload

theorem remembers_after (history : List Call) : Remembers history (after {} history) := by
  induction history using List.reverseRecOn with
  | nil => exact remembers_start
  | append_singleton history c ih =>
    rw [after, List.foldl_append]
    exact ih.call c

/-- The interval is in range, and it stems from the accepted options. -/
theorem negotiatedHeartbeatIntervalMs_eq_some {v : UInt32}
    (h : session.negotiatedHeartbeatIntervalMs = some v) :
    session.acceptedOptions.hasHeartbeatIntervalMs = true ∧
      session.acceptedOptions.heartbeatIntervalMs = v ∧ 500 ≤ v ∧ v ≤ 60000 := by
  unfold negotiatedHeartbeatIntervalMs at h
  split_ifs at h with hnone
  simp only [not_or, not_not, UInt32.not_lt, gt_iff_lt] at hnone
  obtain rfl := Option.some.inj h
  exact ⟨hnone.1, rfl, hnone.2⟩

/-- **The trace law of the control session.** After every history the session is open exactly when
the last of the calls that decide about it opens it; and a negotiated interval is there only in an
open session, is in range, and was carried by the ACCEPT of the last `makeOpen`, with no `makeOpen`,
inbound OPEN or CLOSE since. -/
theorem session_trace (history : List Call) :
    ((after {} history).isOpen = true ↔ Open history) ∧
      ∀ v, (after {} history).negotiatedHeartbeatIntervalMs = some v →
        (after {} history).isOpen = true ∧ 500 ≤ v ∧ v ≤ 60000 ∧
          ∃ options, options.hasHeartbeatIntervalMs = true ∧ options.heartbeatIntervalMs = v ∧
            Negotiated options history := by
  have h := remembers_after history
  refine ⟨h.isOpen, fun v hv => ?_⟩
  obtain ⟨hhas, hinterval, hmin, hmax⟩ := negotiatedHeartbeatIntervalMs_eq_some hv
  rcases h.accepted with hnone | ⟨hisOpen, hnegotiated⟩
  · rw [hnone] at hhas
    cases hhas
  · exact ⟨hisOpen, hmin, hmax, _, hhas, hinterval, hnegotiated⟩

end ControlSession

end Axtp
