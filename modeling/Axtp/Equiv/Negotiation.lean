/-
  Client and server agree on the heartbeat interval.

  Whatever is on its way to the server is an OPEN of the client, and whatever is on its
  way back is the ACCEPT of one (`Agrees`). The client waits for the ACCEPT of its latest
  OPEN only, and the ids tell the OPENs apart; so an open client has adopted the ACCEPT
  of its latest OPEN, with the interval that was requested when it was made (`agreement`).
-/
import Axtp.Equiv.ControlSession
import Axtp.Equiv.ControlTlvCodec
import Axtp.Spec.Negotiation

namespace Axtp

namespace Negotiation

open ControlTlvCodec

/-! ### The messages -/

/-- The interval that a session asks for after a request. -/
def requestedFor (intervalMs : UInt32) : UInt32 :=
  (({} : ControlSession).setRequestedHeartbeatInterval intervalMs).requestedHeartbeatIntervalMs

theorem toNat_requestedFor (intervalMs : UInt32) :
    (requestedFor intervalMs).toNat = clamp intervalMs := by
  simp only [requestedFor, ControlSession.setRequestedHeartbeatInterval, clamp,
    ControlSession.kMinHeartbeatIntervalMs, ControlSession.kMaxHeartbeatIntervalMs,
    UInt32.lt_iff_toNat_lt, gt_iff_lt, UInt32.reduceToNat]
  split_ifs with hmin hmax
  · rw [max_eq_left (by omega)]
    rfl
  · rw [min_eq_right (by omega)]
    rfl
  · omega

theorem requestedFor_le (intervalMs : UInt32) : requestedFor intervalMs ≤ 0xFFFF := by
  simp only [UInt32.le_iff_toNat_le, toNat_requestedFor, clamp, UInt32.reduceToNat]
  omega

/-- The OPEN that asks for an interval. -/
def openPayload (controlId : UInt16) (intervalMs : UInt32) : ControlPayload :=
  { opcode := ControlOpcode.open_, controlId, statusCode := ErrorCode.success
    tlv := openOptions intervalMs, body := ControlTlvCodec.encode (openOptions intervalMs) false }

/-- The options of the ACCEPT of an OPEN. -/
def acceptOptions (intervalMs : UInt32) : ControlTlvOptions :=
  defaultsForAccept (openOptions intervalMs)

/-- The ACCEPT of an OPEN. -/
def acceptPayload (controlId : UInt16) (intervalMs : UInt32) : ControlPayload :=
  { opcode := ControlOpcode.accept, controlId, statusCode := ErrorCode.success
    tlv := acceptOptions intervalMs,
    body := ControlTlvCodec.encode (acceptOptions intervalMs) true }

variable {session : ControlSession} {controlId : UInt16} {intervalMs : UInt32}

theorem decodeControl_open (h : intervalMs ≤ 0xFFFF) :
    PayloadDecoder.decodeControl (encode (openPayload controlId intervalMs)) =
      some (openPayload controlId intervalMs) := by
  have hbody : PayloadCodec.SendsOwnBody (openPayload controlId intervalMs) := .inl (by
    simp [openPayload, ControlTlvCodec.encode, openOptions, defaultsForOpen, writeU16OrU32,
      ControlTlvCodec.writeU16, writeHeader, Axtp.writeU8])
  rw [encode, PayloadCodec.decodeControl_encodeControl hbody, PayloadCodec.controlOnWire]
  simp only [openPayload, decode_encode_open h]

theorem decodeControl_accept (h : intervalMs ≤ 0xFFFF) :
    PayloadDecoder.decodeControl (encode (acceptPayload controlId intervalMs)) =
      some (acceptPayload controlId intervalMs) := by
  have hbody : PayloadCodec.SendsOwnBody (acceptPayload controlId intervalMs) := .inl (by
    simp [acceptPayload, acceptOptions, ControlTlvCodec.encode, defaultsForAccept,
      ControlTlvCodec.writeU32, writeHeader, Axtp.writeU8])
  rw [encode, PayloadCodec.decodeControl_encodeControl hbody, PayloadCodec.controlOnWire]
  simp only [acceptPayload, acceptOptions, decode_encode_accept h]

theorem valid_acceptOptions (intervalMs : UInt32) : (acceptOptions intervalMs).valid = true := by
  simp only [acceptOptions, defaultsForAccept, openOptions, defaultsForOpen]
  decide

/-- A session answers an OPEN with its ACCEPT. -/
theorem receive_open (session : ControlSession) (h : intervalMs ≤ 0xFFFF) :
    (receive session (encode (openPayload controlId intervalMs))).2 =
      [encode (acceptPayload controlId intervalMs)] := by
  have haccepted : ((openOptions intervalMs).valid &&
      (defaultsForAccept (openOptions intervalMs)).valid) = true := valid_acceptOptions intervalMs
  rw [receive, decodeControl_open h]
  simp only [ControlSession.handle, openPayload, if_true, haccepted, Option.map_some,
    Option.toList_some]
  rfl

/-- A session that does not wait for an ACCEPT drops it. -/
theorem receive_accept_of_ne (h : intervalMs ≤ 0xFFFF)
    (hpending : session.pendingOpenId ≠ some controlId) :
    receive session (encode (acceptPayload controlId intervalMs)) =
      ({ session with lastOpcode := ControlOpcode.accept }, []) := by
  have hopen : ControlOpcode.accept ≠ ControlOpcode.open_ := by decide
  rw [receive, decodeControl_accept h]
  simp only [ControlSession.handle, acceptPayload, if_neg hopen, hpending, false_and, if_true,
    if_false, Option.map_none, Option.toList_none]

/-- A session that waits for an ACCEPT adopts it. -/
theorem receive_accept (h : intervalMs ≤ 0xFFFF)
    (hpending : session.pendingOpenId = some controlId) :
    receive session (encode (acceptPayload controlId intervalMs)) =
      ({ session with
          lastOpcode := ControlOpcode.accept, isOpen := true
          acceptedOptions := acceptOptions intervalMs, pendingOpenId := none }, []) := by
  have hopen : ControlOpcode.accept ≠ ControlOpcode.open_ := by decide
  have hvalid := valid_acceptOptions intervalMs
  rw [receive, decodeControl_accept h]
  simp only [ControlSession.handle, acceptPayload, if_neg hopen, hpending, hvalid, and_self,
    if_true,
    Option.map_none, Option.toList_none]

/-! ### Histories -/

theorem after_concat (history : List Action) (a : Action) :
    after (history ++ [a]) = step (after history) a := by
  rw [after, List.foldl_append]
  rfl

theorem asked_concat (history : List Action) (a : Action) :
    asked (history ++ [a]) = (asked history).next a := by
  rw [asked, List.foldl_append]
  rfl

/-- A step that makes no OPEN leaves the latest one as it is. -/
theorem latest_concat (history : List Action) (a : Action)
    (h : ∀ controlId, a ≠ .makeOpen controlId) :
    (asked (history ++ [a])).opens = (asked history).opens ∧
      latest (history ++ [a]) = latest history := by
  have hopens : (asked (history ++ [a])).opens = (asked history).opens := by
    rw [asked_concat]
    cases a with
    | makeOpen controlId => exact absurd rfl (h controlId)
    | _ => rfl
  exact ⟨hopens, by rw [latest, hopens, latest]⟩

theorem latest_mem {history : List Action} {opened : UInt16 × UInt32}
    (h : latest history = some opened) :
    opened ∈ (asked history).opens :=
  List.mem_of_getLast? h

/-- The ids of a history are distinct if those of a longer one are. -/
theorem DistinctIds.of_concat {history : List Action} {a : Action}
    (h : DistinctIds (history ++ [a])) : DistinctIds history := by
  rw [DistinctIds, asked_concat] at h
  cases a with
  | makeOpen controlId =>
    rw [Asked.next, List.map_append] at h
    exact h.of_append_left
  | _ => exact h

/-- An id tells which interval was requested. -/
theorem DistinctIds.unique {history : List Action} (h : DistinctIds history) {controlId : UInt16}
    {intervalMs intervalMs' : UInt32} (hmem : (controlId, intervalMs) ∈ (asked history).opens)
    (hmem' : (controlId, intervalMs') ∈ (asked history).opens) : intervalMs = intervalMs' := by
  have heq := List.inj_on_of_nodup_map h hmem hmem' rfl
  exact (Prod.mk.injEq .. ▸ heq).2

/-- What holds after every history whose ids are distinct. -/
structure Agrees (history : List Action) : Prop where
  requested :
    (after history).client.requestedHeartbeatIntervalMs = requestedFor (asked history).requested
  toServer : ∀ message ∈ (after history).toServer, ∃ controlId intervalMs,
    (controlId, intervalMs) ∈ (asked history).opens ∧
      message = encode (openPayload controlId (requestedFor intervalMs))
  toClient : ∀ message ∈ (after history).toClient, ∃ controlId intervalMs,
    (controlId, intervalMs) ∈ (asked history).opens ∧
      message = encode (acceptPayload controlId (requestedFor intervalMs))
  client :
    ((after history).client.isOpen = false ∧
      (after history).client.pendingOpenId = (latest history).map Prod.fst) ∨
    ((after history).client.isOpen = true ∧ (after history).client.pendingOpenId = none ∧
      ∃ controlId intervalMs, latest history = some (controlId, intervalMs) ∧
        (after history).client.acceptedOptions = acceptOptions (requestedFor intervalMs) ∧
        Adopted controlId history)

theorem agrees_nil : Agrees [] where
  requested := rfl
  toServer := by simp [after]
  toClient := by simp [after]
  client := .inl ⟨rfl, rfl⟩

/-- A step that leaves the client open with its options keeps what it adopted. -/
theorem Adopted.stays {history : List Action} {a : Action} {controlId : UInt16}
    (h : Adopted controlId history) (hopen : (after history).client.isOpen = true)
    (hstays : (after (history ++ [a])).client.isOpen = (after history).client.isOpen ∧
      (after (history ++ [a])).client.acceptedOptions = (after history).client.acceptedOptions) :
    Adopted controlId (history ++ [a]) :=
  since_concat.mpr (.inr ⟨h, hstays.1.trans hopen, hstays.2⟩)

variable {history : List Action}

theorem Agrees.setRequestedHeartbeatInterval (h : Agrees history) (intervalMs : UInt32) :
    Agrees (history ++ [.setRequestedHeartbeatInterval intervalMs]) := by
  obtain ⟨hopens, hlatest⟩ :=
    latest_concat history (.setRequestedHeartbeatInterval intervalMs) (by simp)
  have hafter := after_concat history (.setRequestedHeartbeatInterval intervalMs)
  refine ⟨?_, ?_, ?_, ?_⟩
  · rw [hafter, asked_concat]
    rfl
  · rw [hopens, hafter]
    exact h.toServer
  · rw [hopens, hafter]
    exact h.toClient
  · rw [hlatest]
    rcases h.client
      with ⟨hclosed, hpending⟩ | ⟨hopen, hpending, controlId, requested, hlast, hoptions, hadopted⟩
    · rw [hafter]
      exact .inl ⟨hclosed, hpending⟩
    · have hadopted' := hadopted.stays (a := .setRequestedHeartbeatInterval intervalMs) hopen
        (by rw [hafter]; exact ⟨rfl, rfl⟩)
      rw [hafter]
      exact .inr ⟨hopen, hpending, controlId, requested, hlast, hoptions, hadopted'⟩

theorem Agrees.makeOpen (h : Agrees history) (controlId : UInt16) :
    Agrees (history ++ [.makeOpen controlId]) := by
  have hafter := after_concat history (.makeOpen controlId)
  have hasked := asked_concat history (.makeOpen controlId)
  refine ⟨?_, ?_, ?_, ?_⟩
  · rw [hafter, hasked]
    exact h.requested
  · rw [hafter, hasked]
    intro message hmem
    rcases List.mem_append.mp hmem with hmem | hmem
    · obtain ⟨id, interval, hopened, hmessage⟩ := h.toServer message hmem
      exact ⟨id, interval, List.mem_append_left _ hopened, hmessage⟩
    · refine ⟨controlId, (asked history).requested,
        List.mem_append_right _ (List.mem_singleton_self _), ?_⟩
      rw [List.mem_singleton.mp hmem, ← h.requested]
      rfl
  · rw [hafter, hasked]
    intro message hmem
    obtain ⟨id, interval, hopened, hmessage⟩ := h.toClient message hmem
    exact ⟨id, interval, List.mem_append_left _ hopened, hmessage⟩
  · refine .inl ⟨by rw [hafter]; rfl, ?_⟩
    rw [hafter, latest, hasked, Asked.next, List.getLast?_append]
    rfl

theorem Agrees.deliverToServer (h : Agrees history) : Agrees (history ++ [.deliverToServer]) := by
  obtain ⟨hopens, hlatest⟩ := latest_concat history .deliverToServer (by simp)
  have hafter := after_concat history .deliverToServer
  -- the client is not concerned
  have hclient : (after (history ++ [.deliverToServer])).client = (after history).client := by
    rw [hafter, step]
    split <;> rfl
  refine ⟨?_, ?_, ?_, ?_⟩
  · rw [hclient, asked_concat]
    exact h.requested
  · rw [hopens]
    intro message hmem
    refine h.toServer message ?_
    rw [hafter, step] at hmem
    split at hmem
    · exact hmem
    · next hqueue => exact hqueue ▸ List.mem_cons_of_mem _ hmem
  · rw [hopens]
    intro message hmem
    rw [hafter, step] at hmem
    split at hmem
    · exact h.toClient message hmem
    · next first rest hqueue =>
      obtain ⟨controlId, intervalMs, hopened, rfl⟩ :=
        h.toServer first (hqueue ▸ List.mem_cons_self ..)
      rcases List.mem_append.mp hmem with hmem | hmem
      · exact h.toClient message hmem
      · rw [receive_open _ (requestedFor_le intervalMs)] at hmem
        exact ⟨controlId, intervalMs, hopened, List.mem_singleton.mp hmem⟩
  · rw [hlatest]
    rcases h.client
      with hclosed | ⟨hopen, hpending, controlId, intervalMs, hlast, hoptions, hadopted⟩
    · rw [hclient]
      exact .inl hclosed
    · have hadopted' :=
        hadopted.stays (a := .deliverToServer) hopen (by rw [hclient]; exact ⟨rfl, rfl⟩)
      rw [hclient]
      exact .inr ⟨hopen, hpending, controlId, intervalMs, hlast, hoptions, hadopted'⟩

/-- What the delivery of the next message does to the client: it adopts the ACCEPT it waits for, or
keeps all that matters. -/
theorem Agrees.deliver (h : Agrees history) {message : Bytes} {rest : List Bytes}
    (hqueue : (after history).toClient = message :: rest) :
    ∃ controlId intervalMs, (controlId, intervalMs) ∈ (asked history).opens ∧
      message = encode (acceptPayload controlId (requestedFor intervalMs)) ∧
      step (after history) .deliverToClient =
        if (after history).client.pendingOpenId = some controlId then
          { after history with
            toClient := rest
            client :=
              { (after history).client with
                lastOpcode := ControlOpcode.accept, isOpen := true
                acceptedOptions := acceptOptions (requestedFor intervalMs),
                pendingOpenId := none } }
        else
          { after history with
            toClient := rest
            client := { (after history).client with lastOpcode := ControlOpcode.accept } } := by
  obtain ⟨controlId, intervalMs, hopened, rfl⟩ :=
    h.toClient message (hqueue ▸ List.mem_cons_self ..)
  refine ⟨controlId, intervalMs, hopened, rfl, ?_⟩
  simp only [step, hqueue]
  split_ifs with hpending
  · rw [receive_accept (requestedFor_le intervalMs) hpending]
    simp only [List.append_nil]
  · rw [receive_accept_of_ne (requestedFor_le intervalMs) hpending]
    simp only [List.append_nil]

theorem Agrees.deliverToClient (h : Agrees history) (hdistinct : DistinctIds history) :
    Agrees (history ++ [.deliverToClient]) := by
  obtain ⟨hopens, hlatest⟩ := latest_concat history .deliverToClient (by simp)
  have hasked := asked_concat history .deliverToClient
  have hafter := after_concat history .deliverToClient
  rcases hqueue : (after history).toClient with _ | ⟨message, rest⟩
  · -- nothing is delivered
    have hsame : after (history ++ [.deliverToClient]) = after history := by
      rw [hafter, step, hqueue]
    refine ⟨by rw [hsame, hasked]; exact h.requested, by rw [hsame, hopens]; exact h.toServer,
      by rw [hsame, hopens]; exact h.toClient, ?_⟩
    rw [hlatest]
    rcases h.client
      with hclosed | ⟨hopen, hpending, controlId, intervalMs, hlast, hoptions, hadopted⟩
    · rw [hsame]
      exact .inl hclosed
    · have hadopted' :=
        hadopted.stays (a := .deliverToClient) hopen (by rw [hsame]; exact ⟨rfl, rfl⟩)
      rw [hsame]
      exact .inr ⟨hopen, hpending, controlId, intervalMs, hlast, hoptions, hadopted'⟩
  · obtain ⟨controlId, intervalMs, hopened, hmessage, hstep⟩ := h.deliver hqueue
    have htoClient : ∀ m ∈ rest, ∃ controlId intervalMs,
        (controlId, intervalMs) ∈ (asked history).opens ∧
          m = encode (acceptPayload controlId (requestedFor intervalMs)) :=
      fun m hm => h.toClient m (hqueue ▸ List.mem_cons_of_mem _ hm)
    by_cases hpending : (after history).client.pendingOpenId = some controlId
    · rw [if_pos hpending] at hstep
      rw [← hafter] at hstep
      -- the client waits for its latest OPEN, and the id tells the interval of it
      obtain ⟨hclosed, hwaits⟩ | ⟨-, hnone, -⟩ := h.client
      · rw [hpending] at hwaits
        obtain ⟨⟨controlId', interval'⟩, hlast, rfl⟩ := Option.map_eq_some_iff.mp hwaits.symm
        obtain rfl := hdistinct.unique hopened (latest_mem hlast)
        have hadopts : Adopts controlId' history .deliverToClient := by
          refine ⟨rfl, hclosed, message, _, by rw [hqueue]; rfl,
            hmessage ▸ decodeControl_accept (requestedFor_le intervalMs), rfl, rfl, ?_, ?_⟩
          · rw [hstep]
          · rw [hstep]
            rfl
        refine ⟨?_, ?_, ?_,
          .inr ⟨?_, ?_, controlId', intervalMs, ?_, ?_, since_concat.mpr (.inl hadopts)⟩⟩
        · rw [hstep, hasked]
          exact h.requested
        · rw [hstep, hopens]
          exact h.toServer
        · rw [hstep, hopens]
          exact htoClient
        · rw [hstep]
        · rw [hstep]
        · rw [hlatest]
          exact hlast
        · rw [hstep]
      · rw [hnone] at hpending
        cases hpending
    · rw [if_neg hpending] at hstep
      rw [← hafter] at hstep
      refine ⟨by rw [hstep, hasked]; exact h.requested, by rw [hstep, hopens]; exact h.toServer,
        by rw [hstep, hopens]; exact htoClient, ?_⟩
      rw [hlatest]
      rcases h.client
        with ⟨hclosed, hwaits⟩ | ⟨hopen, hnone, id, interval, hlast, hoptions, hadopted⟩
      · rw [hstep]
        exact .inl ⟨hclosed, hwaits⟩
      · have hadopted' :=
          hadopted.stays (a := .deliverToClient) hopen (by rw [hstep]; exact ⟨rfl, rfl⟩)
        rw [hstep]
        exact .inr ⟨hopen, hnone, id, interval, hlast, hoptions, hadopted'⟩

/-- **Every history** whose ids are distinct. -/
theorem agrees (history : List Action) (hdistinct : DistinctIds history) : Agrees history := by
  induction history using List.reverseRecOn with
  | nil => exact agrees_nil
  | append_singleton history a ih =>
    have h := ih hdistinct.of_concat
    cases a with
    | setRequestedHeartbeatInterval intervalMs => exact h.setRequestedHeartbeatInterval intervalMs
    | makeOpen controlId => exact h.makeOpen controlId
    | deliverToServer => exact h.deliverToServer
    | deliverToClient => exact h.deliverToClient hdistinct.of_concat

theorem negotiated_acceptOptions
    (hsession : session.acceptedOptions = acceptOptions (requestedFor intervalMs)) :
    session.negotiatedHeartbeatIntervalMs.map UInt32.toNat = some (clamp intervalMs) := by
  have hrange := toNat_requestedFor intervalMs
  have hvalue :
      (acceptOptions (requestedFor intervalMs)).heartbeatIntervalMs = requestedFor intervalMs := rfl
  have hhas : (acceptOptions (requestedFor intervalMs)).hasHeartbeatIntervalMs = true := rfl
  rw [ControlSession.negotiatedHeartbeatIntervalMs, hsession, hvalue, hhas, if_neg]
  · rw [Option.map_some, hrange]
  · simp only [not_true_eq_false, false_or, not_or, UInt32.lt_iff_toNat_lt, gt_iff_lt, hrange,
      ControlSession.kMinHeartbeatIntervalMs, ControlSession.kMaxHeartbeatIntervalMs,
      UInt32.reduceToNat, clamp]
    omega

/-- **Negotiation agreement.** After every history with distinct control ids, an open client has
adopted the ACCEPT of its latest OPEN, and the negotiated interval is the one requested when that
OPEN was made, brought into range; and the ACCEPT of any other OPEN, when it is delivered, neither
opens the session nor changes the interval. -/
theorem agreement (history : List Action) (hdistinct : DistinctIds history) :
    ((after history).client.isOpen = true →
      ∃ controlId intervalMs, latest history = some (controlId, intervalMs) ∧
        Adopted controlId history ∧
        (after history).client.negotiatedHeartbeatIntervalMs.map UInt32.toNat =
          some (clamp intervalMs)) ∧
    ∀ message payload, (after history).toClient.head? = some message →
      PayloadDecoder.decodeControl message = some payload →
      (∀ intervalMs, latest history ≠ some (payload.controlId, intervalMs)) →
      (after (history ++ [.deliverToClient])).client.isOpen = (after history).client.isOpen ∧
        (after (history ++ [.deliverToClient])).client.negotiatedHeartbeatIntervalMs =
          (after history).client.negotiatedHeartbeatIntervalMs := by
  have h := agrees history hdistinct
  refine ⟨fun hisOpen => ?_, fun message payload hhead hdecode hother => ?_⟩
  · rcases h.client with ⟨hclosed, -⟩ | ⟨-, -, controlId, intervalMs, hlast, hoptions, hadopted⟩
    · rw [hclosed] at hisOpen
      cases hisOpen
    · exact ⟨controlId, intervalMs, hlast, hadopted, negotiated_acceptOptions hoptions⟩
  · obtain ⟨rest, hqueue⟩ := List.head?_eq_some_iff.mp hhead
    obtain ⟨controlId, intervalMs, -, rfl, hstep⟩ := h.deliver hqueue
    rw [decodeControl_accept (requestedFor_le intervalMs)] at hdecode
    obtain rfl := Option.some.inj hdecode
    -- the client waits for the latest OPEN only, if it waits at all
    have hpending : (after history).client.pendingOpenId ≠ some controlId := by
      intro hpending
      rcases h.client with ⟨-, hwaits⟩ | ⟨-, hnone, -⟩
      · rw [hpending] at hwaits
        obtain ⟨⟨id, interval⟩, hlast, rfl⟩ := Option.map_eq_some_iff.mp hwaits.symm
        exact hother interval hlast
      · rw [hnone] at hpending
        cases hpending
    rw [if_neg hpending, ← after_concat] at hstep
    rw [hstep]
    exact ⟨rfl, rfl⟩

/-- Two OPENs, with the ACCEPT of the first one coming late. -/
def renegotiation : List Action :=
  [.setRequestedHeartbeatInterval 200, .makeOpen 7, .setRequestedHeartbeatInterval 70000,
    .makeOpen 8,
    .deliverToServer, .deliverToClient, .deliverToServer, .deliverToClient]

theorem agreement_renegotiation :
    ∃ controlId intervalMs, latest renegotiation = some (controlId, intervalMs) ∧
      Adopted controlId renegotiation ∧
      (after renegotiation).client.negotiatedHeartbeatIntervalMs.map UInt32.toNat =
        some (clamp intervalMs) :=
  (agreement renegotiation (by decide)).1 (by decide +kernel)

end Negotiation

end Axtp
