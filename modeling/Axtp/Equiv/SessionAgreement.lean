/-
  The client and the adapter agree on the session.

  Once the adapter is identified its sid stays, and every IDENTIFIED that it has written
  carries that sid; no other text passes for one (`Moves`, `Agrees`). So the sid that a
  client holds is the adapter's, and its requests, events and responses go through
  (`sessions_agree`), whatever else is sent and in whatever order things happen. The
  handshake comes to that, and nothing undoes it (`handshake_completes`).
-/
import Axtp.Equiv.ErrorAnswers
import Axtp.Equiv.ReconnectIsolation
import Axtp.Spec.Connection

namespace Axtp

open Json Run WebSocketJsonRpcAdapter

/-! ### Reading an IDENTIFIED -/

namespace RpcClientSession

/-- An op that the decoder reads is the one that the client reads. -/
theorem opOf_of_parseOp {object : Json} {op : RpcOp}
    (h : JsonRpcPayloadDecoder.parseOp object = some op) : opOf object = some (intOf op) := by
  simp only [JsonRpcPayloadDecoder.parseOp, Option.bind_eq_bind, Option.bind_eq_some_iff] at h
  obtain ⟨value, hfind, raw, hraw, hop⟩ := h
  split_ifs at hop with hrange
  obtain rfl := Option.some.inj hop
  have hbounds : 0 ≤ raw ∧ raw ≤ 255 := by omega
  have hvalue : ((UInt8.ofNat raw.toNat).toNat : ℤ) = raw := by
    rw [UInt8.toNat_ofNat']
    omega
  -- a byte is not touched by the cast to an `int`
  have hcast : value.getInt64.map (fun number => number.bmod (2 ^ 32)) = some raw := by
    rw [hraw, Option.map_some, Int.bmod_def]
    congr 1
    omega
  rw [opOf, hfind, intOf, hvalue]
  cases value with
  | unsigned value => exact hcast
  | integer value => exact hcast
  | float bits => exact hraw
  | _ => cases hraw

end RpcClientSession

namespace Connection

variable {lib : JsonLibrary}

/-- The text passes for an IDENTIFIED with this sid. -/
def Identifies (lib : JsonLibrary) (text sid : Bytes) : Prop :=
  ∃ document, lib.parse text = some document ∧
    RpcClientSession.opOf document = some (RpcClientSession.intOf RpcOp.identified) ∧
    (document.find "sid").bind getString = some sid

/-- The text of a payload passes for an IDENTIFIED only if the payload is one, with its sid. -/
theorem identifies_encode (hlib : lib.Lawful) (hdump : lib.DumpsText) {payload : RpcPayload}
    (hop : payload.op ∈ decoderOps) (hreidentify : payload.op ≠ RpcOp.reidentify)
    {text sid : Bytes} (hencode : JsonRpcEncoder.encode lib payload = some text)
    (h : Identifies lib text sid) :
    payload.op = RpcOp.identified ∧ sid = payload.meta_.jsonSid := by
  obtain ⟨document, hdocument, hparse⟩ := JsonRpcEncoder.parse_of_encode hlib hdump hencode
  obtain ⟨document', hparse', hopOf, hsid⟩ := h
  obtain rfl := Option.some.inj (hparse.symm.trans hparse')
  obtain ⟨_, _, _, henvelops, -⟩ := envelops_of_document hop hreidentify hdocument
  have hread : JsonRpcPayloadDecoder.parseOp document.normalize = some payload.op := by
    rw [JsonRpcPayloadDecoder.parseOp_normalize, henvelops.op]
  have hvalue : payload.op.value.toNat = RpcOp.identified.value.toNat := by
    have hsame := (RpcClientSession.opOf_of_parseOp hread).symm.trans hopOf
    exact Int.ofNat.inj (Option.some.inj hsame)
  have hidentified : payload.op = RpcOp.identified :=
    congrArg RpcOp.mk (UInt8.toNat_inj.mp hvalue)
  refine ⟨hidentified, ?_⟩
  unfold JsonRpcEncoder.document at hdocument
  rw [hidentified, if_neg (by decide), if_neg (by decide), if_pos rfl] at hdocument
  obtain rfl := Option.some.inj hdocument
  rw [find_normalize, JsonRpcEncoder.identifiedDocument, JsonRpcEncoder.find_envelope_sid] at hsid
  exact (Option.some.inj hsid).symm

/-! ### What the adapter writes -/

theorem mem_written {effects : List AdapterEffect} {text : Bytes} :
    text ∈ written effects ↔ ∃ payload, .write payload text ∈ effects := by
  simp only [written, List.mem_filterMap]
  constructor
  · rintro ⟨effect, hmem, heq⟩
    cases effect with
    | write payload bytes =>
      obtain rfl := Option.some.inj heq
      exact ⟨payload, hmem⟩
    | forward _ => cases heq
  · rintro ⟨payload, hmem⟩
    exact ⟨_, hmem, rfl⟩

theorem mem_announced {effects : List AdapterEffect} {payload : RpcPayload} {text : Bytes}
    (h : .write payload text ∈ effects) (hop : payload.op = RpcOp.identified) :
    payload.meta_.jsonSid ∈ announced effects := by
  rw [announced, List.mem_filterMap]
  exact ⟨_, h, by simp only [if_pos hop]⟩

/-- The ops of what a message makes the adapter write. -/
theorem op_of_mem_onBytes {adapter : WebSocketJsonRpcAdapter} {around : Surroundings}
    {data text : Bytes} {payload : RpcPayload}
    (h : .write payload text ∈ (adapter.onBytes lib around data).2.1) :
    payload.op ∈ decoderOps ∧ payload.op ≠ RpcOp.reidentify := by
  have herror (adapter : WebSocketJsonRpcAdapter) (sid : Bytes) (requestId : UInt32)
      (code : ErrorCode) (op : RpcOp) (endpoint : EndpointMetadata) :
      (adapter.errorPayload sid requestId code op endpoint).op ∈ decoderOps ∧
        (adapter.errorPayload sid requestId code op endpoint).op ≠ RpcOp.reidentify := by
    simp only [errorPayload]
    split_ifs <;> decide
  obtain ⟨-, hop | ⟨envelope, sid, code, -, -, rfl⟩ | ⟨-, rfl⟩⟩ := cases_of_mem_onBytes h
  · rw [hop]
    decide
  · exact herror _ _ _ _ _ _
  · exact herror _ _ _ _ _ _

/-- Once the adapter is identified, no message changes it. -/
theorem heard_of_identified {adapter : WebSocketJsonRpcAdapter} (h : adapter.identified = true)
    (data : Bytes) : adapter.heard lib data = adapter := by
  unfold heard
  rcases identifying lib data with _ | ⟨d, randomSeed⟩
  · rfl
  · exact (ReconnectIsolation.identified_identify adapter d randomSeed).2.2 h

/-- A text that a message makes the adapter write passes for an IDENTIFIED only with the sid that
the adapter has then. -/
theorem identifies_onBytes (hlib : lib.Lawful) (hdump : lib.DumpsText)
    {adapter : WebSocketJsonRpcAdapter} {around : Surroundings} {data text sid : Bytes}
    (hmem : text ∈ written (adapter.onBytes lib around data).2.1) (h : Identifies lib text sid) :
    (adapter.heard lib data).identified = true ∧ sid = (adapter.heard lib data).sid := by
  obtain ⟨payload, hwrite⟩ := mem_written.mp hmem
  obtain ⟨hop, hreidentify⟩ := op_of_mem_onBytes hwrite
  obtain ⟨hidentified, rfl⟩ :=
    identifies_encode hlib hdump hop hreidentify (cases_of_mem_onBytes hwrite).1 h
  have hannounced := mem_announced hwrite hidentified
  rw [announced_onBytes] at hannounced
  split_ifs at hannounced with hidentifying
  · refine ⟨?_, List.mem_singleton.mp hannounced⟩
    -- only an IDENTIFY is answered so, and it leaves the adapter identified
    obtain ⟨⟨d, randomSeed⟩, harguments⟩ := Option.isSome_iff_exists.mp hidentifying.1
    rw [heard, harguments]
    exact (ReconnectIsolation.identified_identify adapter d randomSeed).1
  · cases hannounced

variable (lib) in
/-- The HELLO does not touch the session. -/
theorem sendHelloOnce_fst (adapter : WebSocketJsonRpcAdapter) (around : Surroundings) :
    (adapter.sendHelloOnce lib around).1.identified = adapter.identified ∧
      (adapter.sendHelloOnce lib around).1.sid = adapter.sid := by
  unfold sendHelloOnce
  split_ifs
  · exact ⟨rfl, rfl⟩
  · rcases sendRpc lib around 0 JsonRpcEncoder.makeHello with ⟨effects, _ | _⟩ <;> exact ⟨rfl, rfl⟩

theorem written_sendHelloOnce {adapter : WebSocketJsonRpcAdapter} {around : Surroundings}
    {text : Bytes} (hmem : text ∈ written (adapter.sendHelloOnce lib around).2.1) :
    text ∈ written (sendRpc lib around 0 JsonRpcEncoder.makeHello).1 := by
  unfold sendHelloOnce at hmem
  split_ifs at hmem
  · cases hmem
  · rcases hsend : sendRpc lib around 0 JsonRpcEncoder.makeHello with ⟨effects, _ | _⟩ <;>
      rw [hsend] at hmem <;> exact hmem

theorem not_identifies_of_mem_sendRpc (hlib : lib.Lawful) (hdump : lib.DumpsText)
    {around : Surroundings} {n : ℕ} {payload : RpcPayload} (hop : payload.op ∈ decoderOps)
    (hreidentify : payload.op ≠ RpcOp.reidentify) (hidentified : payload.op ≠ RpcOp.identified)
    {text sid : Bytes} (hmem : text ∈ written (sendRpc lib around n payload).1) :
    ¬ Identifies lib text sid := by
  obtain ⟨sent, hwrite⟩ := mem_written.mp hmem
  obtain ⟨-, hencode⟩ := encode_of_mem_sendRpc hwrite
  intro h
  exact hidentified (identifies_encode hlib hdump hop hreidentify hencode h).1

/-! ### The client -/

theorem sid_acceptHello (session : RpcClientSession) (hello : Json) (randomSeed : UInt32)
    (eventMasks : Bytes) :
    (session.acceptHello lib hello randomSeed eventMasks).1.sid = session.sid := by
  unfold RpcClientSession.acceptHello
  rcases RpcClientSession.helloBody hello with _ | d
  · rfl
  · rcases hversion : RpcClientSession.observeVersion lib d with _ | version <;>
      simp only [hversion]

/-- What a client accepts passes for an IDENTIFIED with the sid that it then holds. -/
theorem identifies_of_acceptIdentified {session session' : RpcClientSession} {text : Bytes}
    (h : (lib.parse text).bind session.acceptIdentified = some session') :
    Identifies lib text session'.sid := by
  obtain ⟨document, hparse, haccept⟩ := Option.bind_eq_some_iff.mp h
  simp only [RpcClientSession.acceptIdentified, Option.bind_eq_bind] at haccept
  obtain ⟨sid, hsid, haccept⟩ := Option.bind_eq_some_iff.mp haccept
  split_ifs at haccept with hshape
  obtain rfl := Option.some.inj haccept
  exact ⟨document, hparse, hshape.2.2.1, hsid⟩

theorem sid_ne_nil_of_acceptIdentified {session session' : RpcClientSession} {text : Bytes}
    (h : (lib.parse text).bind session.acceptIdentified = some session') : session'.sid ≠ [] := by
  obtain ⟨document, -, haccept⟩ := Option.bind_eq_some_iff.mp h
  simp only [RpcClientSession.acceptIdentified, Option.bind_eq_bind] at haccept
  obtain ⟨sid, -, haccept⟩ := Option.bind_eq_some_iff.mp haccept
  split_ifs at haccept with hshape
  obtain rfl := Option.some.inj haccept
  exact hshape.2.2.2

/-! ### One step -/

variable {connection connection' : Connection}

/-- What a step can do: the client reads a text, and has the sid that it had or takes one; or texts
are written, by an adapter whose session stays once it is identified. -/
inductive Moves (lib : JsonLibrary) (connection connection' : Connection) : Prop
  | read {text : Bytes} {rest : List Bytes} (htoClient : connection.toClient = text :: rest)
      (hrest : connection'.toClient = rest) (hadapter : connection'.adapter = connection.adapter)
      (hclient : connection'.client.sid = connection.client.sid ∨
        (lib.parse text).bind connection.client.acceptIdentified = some connection'.client)
  | write {texts : List Bytes} (hclient : connection'.client = connection.client)
      (htoClient : connection'.toClient = connection.toClient ++ texts)
      (hadapter : connection.adapter.identified = true →
        connection'.adapter.identified = true ∧ connection'.adapter.sid = connection.adapter.sid)
      (htexts : ∀ text ∈ texts, ∀ sid, Identifies lib text sid →
        connection'.adapter.identified = true ∧ sid = connection'.adapter.sid)

theorem Moves.none (hclient : connection'.client = connection.client)
    (htoClient : connection'.toClient = connection.toClient)
    (hadapter : connection'.adapter = connection.adapter) : Moves lib connection connection' := by
  refine .write hclient (htoClient.trans (List.append_nil _).symm) (fun hidentified => ?_)
    fun _ hmem => absurd hmem List.not_mem_nil
  rw [hadapter]
  exact ⟨hidentified, rfl⟩

theorem coreOps_subset {op : RpcOp} (h : op ∈ coreOps) :
    op ∈ decoderOps ∧ op ≠ RpcOp.reidentify ∧ op ≠ RpcOp.identified := by
  simp only [coreOps, List.mem_cons, List.not_mem_nil, or_false] at h
  rcases h with rfl | rfl | rfl | rfl <;> decide

/-- **Step lemma**. -/
theorem moves_step (hlib : lib.Lawful) (hdump : lib.DumpsText) (connection : Connection)
    (action : Action) : Moves lib connection (connection.step lib action).1 := by
  cases action with
  | acceptHello randomSeed eventMasks =>
    rcases hqueue : connection.toClient with _ | ⟨text, rest⟩
    · simp only [Connection.step, hqueue]
      exact .none rfl rfl rfl
    · rcases hparse : lib.parse text with _ | hello
      · simp only [Connection.step, hqueue, hparse]
        exact .read hqueue rfl rfl (.inl rfl)
      · simp only [Connection.step, hqueue, hparse]
        exact .read hqueue rfl rfl (.inl (sid_acceptHello _ _ _ _))
  -- only an IDENTIFIED that the client accepts changes its sid
  | acceptIdentified =>
    rcases hqueue : connection.toClient with _ | ⟨text, rest⟩
    · simp only [Connection.step, hqueue]
      exact .none rfl rfl rfl
    · simp only [Connection.step, hqueue]
      refine .read hqueue rfl rfl ?_
      rcases haccept : (lib.parse text).bind connection.client.acceptIdentified with _ | client
      · exact .inl rfl
      · exact .inr rfl
  | skip =>
    rcases hqueue : connection.toClient with _ | ⟨text, rest⟩
    · exact .none rfl (by simp only [Connection.step, hqueue, List.tail_nil]) rfl
    · exact .read hqueue (by simp only [Connection.step, hqueue, List.tail_cons]) rfl (.inl rfl)
  | reidentify eventMasks => exact .none rfl rfl rfl
  | send text => exact .none rfl rfl rfl
  | receive around =>
    rcases hqueue : connection.toAdapter with _ | ⟨text, rest⟩
    · simp only [Connection.step, hqueue]
      exact .none rfl rfl rfl
    · simp only [Connection.step, hqueue]
      refine .write rfl rfl (fun hidentified => ?_) fun written hmem sid hidentifies => ?_
      · simp only [fst_onBytes, heard_of_identified hidentified]
        exact ⟨hidentified, trivial⟩
      · simp only [fst_onBytes]
        exact identifies_onBytes hlib hdump hmem hidentifies
  | sendHello around =>
    obtain ⟨hidentified, hsid⟩ := sendHelloOnce_fst lib connection.adapter around
    refine .write rfl rfl (fun h => ⟨hidentified.trans h, hsid⟩) fun text hmem sid hidentifies => ?_
    exact absurd hidentifies (not_identifies_of_mem_sendRpc hlib hdump (by decide) (by decide)
      (by decide) (written_sendHelloOnce hmem))
  | sendEvent around payload =>
    refine .write rfl rfl (fun h => ⟨h, rfl⟩) fun text hmem sid hidentifies => ?_
    have hevent : RpcOp.event ∈ decoderOps ∧ RpcOp.event ≠ RpcOp.reidentify ∧
        RpcOp.event ≠ RpcOp.identified := by decide
    exact absurd hidentifies
      (not_identifies_of_mem_sendRpc hlib hdump hevent.1 hevent.2.1 hevent.2.2 hmem)
  | coreWrites payload hop =>
    obtain ⟨hdecoder, hreidentify, hnot⟩ := coreOps_subset hop
    refine .write rfl rfl (fun h => ⟨h, rfl⟩) fun text hmem sid hidentifies => ?_
    have hencode := Option.mem_toList.mp hmem
    exact absurd (identifies_encode hlib hdump hdecoder hreidentify hencode hidentifies).1 hnot

/-- The session of the adapter stays. -/
theorem Moves.adapter (h : Moves lib connection connection')
    (hidentified : connection.adapter.identified = true) :
    connection'.adapter.identified = true ∧ connection'.adapter.sid = connection.adapter.sid := by
  cases h with
  | read _ _ hadapter _ =>
    rw [hadapter]
    exact ⟨hidentified, rfl⟩
  | write _ _ hadapter _ => exact hadapter hidentified

/-- A client that has a sid keeps one. -/
theorem Moves.client (h : Moves lib connection connection') (hsid : connection.client.sid ≠ []) :
    connection'.client.sid ≠ [] := by
  cases h with
  | read _ _ _ hclient =>
    rcases hclient with hsame | haccept
    · rw [hsame]
      exact hsid
    · exact sid_ne_nil_of_acceptIdentified haccept
  | write hclient _ _ _ =>
    rw [hclient]
    exact hsid

/-! ### Agreement -/

/-- The client's sid, and that of every IDENTIFIED on the way, is the adapter's. -/
structure Agrees (lib : JsonLibrary) (connection : Connection) : Prop where
  client : connection.client.sid ≠ [] → connection.adapter.identified = true ∧
    connection.client.sid = connection.adapter.sid
  texts : ∀ text ∈ connection.toClient, ∀ sid, Identifies lib text sid →
    connection.adapter.identified = true ∧ sid = connection.adapter.sid

theorem Agrees.moves (hagrees : Agrees lib connection) (h : Moves lib connection connection') :
    Agrees lib connection' := by
  cases h with
  | @read text rest htoClient hrest hadapter hclient =>
    refine ⟨fun hsid => ?_, fun later hmem => ?_⟩
    · rw [hadapter]
      rcases hclient with hsame | haccept
      · rw [hsame] at hsid ⊢
        exact hagrees.client hsid
      · exact hagrees.texts text (by rw [htoClient]; exact List.mem_cons_self) _
          (identifies_of_acceptIdentified haccept)
    · rw [hadapter]
      rw [hrest] at hmem
      exact hagrees.texts later (by rw [htoClient]; exact List.mem_cons_of_mem _ hmem)
  | write hclient htoClient hadapter htexts =>
    -- what agreed with the adapter agrees with it still
    have hkept {sid : Bytes} (h : connection.adapter.identified = true ∧
        sid = connection.adapter.sid) :
        connection'.adapter.identified = true ∧ sid = connection'.adapter.sid := by
      obtain ⟨hidentified, hsame⟩ := hadapter h.1
      exact ⟨hidentified, h.2.trans hsame.symm⟩
    refine ⟨fun hsid => ?_, fun text hmem sid hidentifies => ?_⟩
    · rw [hclient] at hsid ⊢
      exact hkept (hagrees.client hsid)
    · rw [htoClient, List.mem_append] at hmem
      rcases hmem with hmem | hmem
      · exact hkept (hagrees.texts text hmem sid hidentifies)
      · exact htexts text hmem sid hidentifies

/-- The client has been given this sid. -/
structure Kept (lib : JsonLibrary) (sid : Bytes) (connection : Connection) : Prop where
  agrees : Agrees lib connection
  client : connection.client.sid ≠ []
  identified : connection.adapter.identified = true
  sid : connection.adapter.sid = sid

theorem Kept.moves {sid : Bytes} (hkept : Kept lib sid connection)
    (h : Moves lib connection connection') : Kept lib sid connection' := by
  obtain ⟨hidentified, hsid⟩ := h.adapter hkept.identified
  exact ⟨hkept.agrees.moves h, h.client hkept.client, hidentified, hsid.trans hkept.sid⟩

theorem agrees_start (lib : JsonLibrary) (adapter : WebSocketJsonRpcAdapter) :
    Agrees lib { adapter } :=
  ⟨fun h => absurd rfl h, fun _ hmem => absurd hmem List.not_mem_nil⟩

/-- **Run lemma**. -/
theorem agrees_run (hlib : lib.Lawful) (hdump : lib.DumpsText) (adapter : WebSocketJsonRpcAdapter)
    (actions : List Action) : Agrees lib (run (Connection.step lib) { adapter } actions).1 :=
  run_invariant (fun connection h action _ => h.moves (moves_step hlib hdump connection action))
    (agrees_start lib adapter)

/-- **Sessions agree.** On one connection, whatever is sent and in whatever order, the sid that a
client holds is the adapter's, and the requests, events and responses with this sid go through to
the core. -/
theorem sessions_agree (hlib : lib.Lawful) (hdump : lib.DumpsText)
    {adapter : WebSocketJsonRpcAdapter} (actions : List Action) :
    let connection := (run (Connection.step lib) { adapter } actions).1
    connection.client.sid ≠ [] →
      connection.adapter.identified = true ∧ connection.client.sid = connection.adapter.sid ∧
        ∀ around text envelope, readEnvelope lib text = some envelope →
          envelope.op ∈ [RpcOp.request, RpcOp.event, RpcOp.requestResponse] →
          WebSocketJsonRpcAdapter.parseSid envelope.object = connection.client.sid →
          .forward text ∈ (connection.adapter.onBytes lib around text).2.1 := by
  intro connection hsid
  have hagrees : Agrees lib connection :=
    agrees_run hlib hdump adapter _
  obtain ⟨hidentified, hsame⟩ := hagrees.client hsid
  refine ⟨hidentified, hsame, fun around text envelope hread hop htext => ?_⟩
  -- the sid the client holds is the one the adapter accepts
  have haccepted : connection.adapter.isAcceptedSid
      (WebSocketJsonRpcAdapter.parseSid envelope.object) = true := by
    rw [isAcceptedSid, htext, decide_eq_true_eq]
    exact ⟨hsid, hsame⟩
  refine forward_mem_onBytes.mpr ⟨rfl, envelope, hread, ?_⟩
  simp only [List.mem_cons, List.not_mem_nil, or_false] at hop
  have hmem : envelope.op ∈ businessOps := by
    rcases hop with hop | hop | hop <;> rw [hop] <;> decide
  apply (decision_eq_forward hmem).mpr
  rcases hop with hop | hop
  · exact .inl ⟨hop, hidentified, haccepted⟩
  · exact .inr (.inl ⟨hop, fun _ => haccepted⟩)

/-! ### The handshake -/

theorem valid_helloDocument : JsonRpcEncoder.helloDocument.Valid :=
  JsonRpcEncoder.valid_envelope RpcOp.hello rfl
    (valid_emptyObject.set (.string (isUtf8_ascii _)))

theorem valid_identifyDocument (randomSeed : UInt32) {eventMasks : Bytes}
    (hmasks : isUtf8 eventMasks = true) :
    (RpcClientSession.identifyDocument randomSeed eventMasks).Valid :=
  JsonRpcEncoder.valid_envelope RpcOp.identify rfl
    ((valid_emptyObject.set (.unsigned _)).set (.string hmasks))

/-- An IDENTIFY of a client is read by the adapter. -/
theorem readEnvelope_identifyDocument {text : Bytes} {randomSeed : UInt32} {eventMasks : Bytes}
    (hparse : lib.parse text = some (RpcClientSession.identifyDocument randomSeed eventMasks)) :
    readEnvelope lib text = some
      { object := RpcClientSession.identifyDocument randomSeed eventMasks
        op := RpcOp.identify, endpoint := {} } := by
  have henvelops := envelops_envelope [] RpcOp.identify
    ((emptyObject.set "randomSeed" (.unsigned randomSeed.toUInt64)).set "eventMasks"
      (.string eventMasks))
  have hop : WebSocketJsonRpcAdapter.parseOp
      (RpcClientSession.identifyDocument randomSeed eventMasks) = some RpcOp.identify :=
    henvelops.op
  have hendpoint : decodeEndpointMetadata
      (RpcClientSession.identifyDocument randomSeed eventMasks) = some {} := henvelops.endpoint
  simp only [readEnvelope, hparse, hop, hendpoint, Option.bind_eq_bind, Option.bind_some]
  rfl

/-- What the adapter finds in it: a seed, and no sid to resume. -/
theorem identifyArguments_identifyDocument (randomSeed : UInt32) (eventMasks : Bytes) :
    ∃ d, identifyArguments (RpcClientSession.identifyDocument randomSeed eventMasks) =
      some (d, some randomSeed) ∧ resumeSid d = none := by
  let d := (emptyObject.set "randomSeed" (.unsigned randomSeed.toUInt64)).set "eventMasks"
    (.string eventMasks)
  have hd : (RpcClientSession.identifyDocument randomSeed eventMasks).find "d" = some d :=
    JsonRpcEncoder.find_envelope_d
  have hfind : d.find "randomSeed" = some (.unsigned randomSeed.toUInt64) := by
    rw [find_set_of_ne (by rfl) (by decide), find_set_self (by rfl)]
  have hseed : WebSocketJsonRpcAdapter.parseRandomSeed d = some (some randomSeed) := by
    have hlt := randomSeed.toNat_lt
    have hrange : ¬ randomSeed.toUInt64 > 0xFFFFFFFF := by
      rw [gt_iff_lt, UInt64.lt_iff_toNat_lt, UInt32.toNat_toUInt64, not_lt]
      exact Nat.le_of_lt_succ hlt
    unfold WebSocketJsonRpcAdapter.parseRandomSeed JsonRpcPayloadDecoder.parseRandomSeed
    rw [hfind]
    simp only [getUnsigned, Option.bind_eq_bind, Option.bind_some, if_neg hrange,
      UInt32.toUInt32_toUInt64]
  have hresume : d.find "resumeSid" = none := by
    rw [find_set_of_ne (by rfl) (by decide), find_set_of_ne (by rfl) (by decide)]
    rfl
  refine ⟨d, ?_, ?_⟩
  · have hobject : d.isObject = true := rfl
    simp only [identifyArguments, hd, hseed, hobject, Option.bind_eq_bind, Option.bind_some,
      if_true]
    rfl
  · rw [resumeSid, hresume]
    rfl

/-- The adapter answers it with a sid made of the client's seed. -/
theorem onBytes_identifyDocument (hlib : lib.Lawful) (adapter : WebSocketJsonRpcAdapter)
    (hadapter : adapter.identified = false) {text : Bytes} {randomSeed : UInt32}
    {eventMasks : Bytes}
    (hparse : lib.parse text = some (RpcClientSession.identifyDocument randomSeed eventMasks)) :
    ∃ identified, lib.parse identified = some (JsonRpcEncoder.envelope
        (adapter.makeSessionId randomSeed).2 RpcOp.identified emptyObject) ∧
      adapter.onBytes lib {} text =
        ({ (adapter.makeSessionId randomSeed).1 with
            identified := true, sid := (adapter.makeSessionId randomSeed).2 },
          [.write (JsonRpcEncoder.makeIdentified (adapter.makeSessionId randomSeed).2) identified],
          .returned) := by
  obtain ⟨identified, hdumped, hparsed⟩ := hlib.parse_dump
    (@JsonRpcEncoder.valid_envelope (adapter.makeSessionId randomSeed).2 RpcOp.identified
      emptyObject (AxtpCore.isUtf8_hex8 _) valid_emptyObject)
  refine ⟨identified, hparsed, ?_⟩
  have hencode : JsonRpcEncoder.encode lib
      (JsonRpcEncoder.makeIdentified (adapter.makeSessionId randomSeed).2) = some identified :=
    hdumped
  obtain ⟨d, harguments, hresume⟩ := identifyArguments_identifyDocument randomSeed eventMasks
  have hidentify : adapter.identify d (some randomSeed) =
      { (adapter.makeSessionId randomSeed).1 with
        identified := true, sid := (adapter.makeSessionId randomSeed).2 } := by
    rw [identify, hadapter, hresume]
    rfl
  have hdecision : ∀ endpoint, adapter.decision
      { object := RpcClientSession.identifyDocument randomSeed eventMasks
        op := RpcOp.identify, endpoint } = .identify :=
    fun _ => decision_eq_identify.mpr (.inl rfl)
  simp only [onBytes, tryBytes, readEnvelope_identifyDocument hparse, hdecision, handleIdentify,
    harguments, hidentify, sendRpc, hencode]

/-- The client answers a HELLO with the IDENTIFY. -/
theorem acceptHello_helloDocument (session : RpcClientSession) (randomSeed : UInt32)
    (eventMasks : Bytes) :
    session.acceptHello lib JsonRpcEncoder.helloDocument randomSeed eventMasks =
      ({ session with observedAxtpVersion := some kSpecVersion, helloAccepted := true },
        some (RpcClientSession.identifyDocument randomSeed eventMasks)) := by
  let d := emptyObject.set "axtpVersion" (.string kSpecVersion)
  have hop : RpcClientSession.opOf JsonRpcEncoder.helloDocument =
      some (RpcClientSession.intOf RpcOp.hello) :=
    RpcClientSession.opOf_of_parseOp (envelops_envelope [] RpcOp.hello d).op
  have hbody : RpcClientSession.helloBody JsonRpcEncoder.helloDocument = some d := by
    have hd : JsonRpcEncoder.helloDocument.find "d" = some d := JsonRpcEncoder.find_envelope_d
    have hshape : JsonRpcEncoder.helloDocument.isObject = true ∧ d.isObject = true := ⟨rfl, rfl⟩
    simp only [RpcClientSession.helloBody, hd, hop, hshape.1, hshape.2, Option.bind_eq_bind,
      Option.bind_some, and_self, if_true]
  have hversion : RpcClientSession.observeVersion lib d = some (some kSpecVersion) := by
    rw [RpcClientSession.observeVersion, find_set_self (by rfl)]
  simp only [RpcClientSession.acceptHello, hbody, hversion]

/-- The client takes the sid of an IDENTIFIED. -/
theorem acceptIdentified_envelope {session : RpcClientSession} (h : session.helloAccepted = true)
    {sid : Bytes} (hsid : sid ≠ []) (d : Json) :
    session.acceptIdentified (JsonRpcEncoder.envelope sid RpcOp.identified d) =
      some { session with sid } := by
  have hop := RpcClientSession.opOf_of_parseOp (envelops_envelope sid RpcOp.identified d).op
  simp only [RpcClientSession.acceptIdentified, JsonRpcEncoder.find_envelope_sid, getString, h, hop,
    JsonRpcEncoder.isObject_envelope, Option.bind_eq_bind, Option.bind_some, ne_eq, hsid,
    not_false_eq_true, and_self, if_true]

/-- The HELLO, the IDENTIFY and the IDENTIFIED. -/
def handshake (randomSeed : UInt32) (eventMasks : Bytes) : List Action :=
  [.sendHello {}, .acceptHello randomSeed eventMasks, .receive {}, .acceptIdentified]

theorem run_handshake (hlib : lib.Lawful) {adapter : WebSocketJsonRpcAdapter}
    (hadapter : adapter.identified = false) (hhello : adapter.helloSent = false)
    (randomSeed : UInt32) {eventMasks : Bytes} (hmasks : isUtf8 eventMasks = true) :
    run (Connection.step lib) { adapter } (handshake randomSeed eventMasks) =
      ({ client :=
          { helloAccepted := true, observedAxtpVersion := some kSpecVersion
            sid := (adapter.makeSessionId randomSeed).2 }
         adapter := { (adapter.makeSessionId randomSeed).1 with
          helloSent := true, identified := true, sid := (adapter.makeSessionId randomSeed).2 } },
        []) := by
  let greeting : WebSocketJsonRpcAdapter := { adapter with helloSent := true }
  let sid := (adapter.makeSessionId randomSeed).2
  obtain ⟨helloText, hhelloText, hparsed⟩ := hlib.parse_dump valid_helloDocument
  -- it has no integer that could change its kind
  have hparseHello : lib.parse helloText = some JsonRpcEncoder.helloDocument := hparsed
  have hencodeHello : JsonRpcEncoder.encode lib JsonRpcEncoder.makeHello = some helloText :=
    hhelloText
  obtain ⟨identifyText, hidentifyText, hparseIdentify⟩ :=
    hlib.parse_dump (valid_identifyDocument randomSeed hmasks)
  obtain ⟨identifiedText, hparseIdentified, honBytes⟩ :=
    onBytes_identifyDocument hlib greeting hadapter hparseIdentify
  have haccept (session : RpcClientSession) (h : session.helloAccepted = true) :
      session.acceptIdentified (JsonRpcEncoder.envelope sid RpcOp.identified emptyObject) =
        some { session with sid } :=
    acceptIdentified_envelope h (AxtpCore.hex8_ne_nil _) _
  let hailed : Connection := { adapter := greeting, toClient := [helloText] }
  let asked : Connection :=
    { client := { observedAxtpVersion := some kSpecVersion, helloAccepted := true }
      adapter := greeting, toAdapter := [identifyText] }
  let session : WebSocketJsonRpcAdapter :=
    { (greeting.makeSessionId randomSeed).1 with identified := true, sid }
  let answered : Connection := { asked with
    adapter := session, toAdapter := [], toClient := [identifiedText] }
  -- the four steps
  have hhailed : Connection.step lib { adapter } (.sendHello {}) = (hailed, []) := by
    simp only [Connection.step, sendHelloOnce, hhello, sendRpc, hencodeHello, written,
      Bool.false_eq_true, if_false]
    rfl
  have hasked : hailed.step lib (.acceptHello randomSeed eventMasks) = (asked, []) := by
    simp only [hailed, asked, Connection.step, hparseHello, acceptHello_helloDocument, textOf,
      hidentifyText, Option.bind_some, Option.toList_some, List.nil_append]
  have hanswered : asked.step lib (.receive {}) = (answered, []) := by
    simp only [asked, Connection.step, honBytes]
    rfl
  have htaken : answered.step lib .acceptIdentified =
      ({ answered with client := { asked.client with sid }, toClient := [] }, []) := by
    have hclient : (lib.parse identifiedText).bind answered.client.acceptIdentified =
        some { asked.client with sid } := by
      rw [hparseIdentified, Option.bind_some]
      exact haccept _ rfl
    simp only [answered, Connection.step] at hclient ⊢
    rw [hclient, Option.getD_some]
  simp only [handshake, run_cons, run_nil, hhailed, hasked, hanswered, htaken, List.append_nil]
  rfl

/-! ### Texts -/

/-- The sid that a new adapter makes of the seed 7. -/
def seventhSid : Bytes := ascii "3C6EF375"

def helloText : Bytes :=
  ascii "\x7b\"d\":\x7b\"axtpVersion\":\"0.18.0\"\x7d,\"op\":0,\"sid\":\"\"\x7d"

def identifyText : Bytes :=
  ascii "\x7b\"d\":\x7b\"eventMasks\":\"01\",\"randomSeed\":7\x7d,\"op\":2,\"sid\":\"\"\x7d"

def identifiedText : Bytes :=
  ascii "\x7b\"d\":\x7b\x7d,\"op\":3,\"sid\":\"3C6EF375\"\x7d"

def reidentifyText : Bytes :=
  ascii "\x7b\"d\":\x7b\"eventMasks\":\"02\"\x7d,\"op\":4,\"sid\":\"3C6EF375\"\x7d"

def callText : Bytes :=
  ascii "\x7b\"d\":\x7b\"id\":1,\"method\":\"device.getInfo\"\x7d,\"op\":7," ++
    ascii "\"sid\":\"3C6EF375\"\x7d"

def sessionTexts : List (Bytes × Json) :=
  [(helloText, JsonRpcEncoder.helloDocument),
    (identifyText, RpcClientSession.identifyDocument 7 (ascii "01")),
    (identifiedText, JsonRpcEncoder.envelope seventhSid RpcOp.identified emptyObject),
    (reidentifyText, JsonRpcEncoder.envelope seventhSid RpcOp.reidentify
      (emptyObject.set "eventMasks" (.string (ascii "02")))),
    (callText, JsonRpcEncoder.envelope seventhSid RpcOp.request (requestD 1 "device.getInfo"))]

theorem proper_sessionTexts : JsonLibrary.Proper sessionTexts where
  texts := by decide +kernel
  values := by
    have hsid : isUtf8 seventhSid = true := isUtf8_ascii _
    simp only [sessionTexts, List.forall_mem_cons]
    refine ⟨valid_helloDocument, valid_identifyDocument 7 (isUtf8_ascii _), ?_, ?_, ?_,
      List.forall_mem_nil _⟩
    · exact JsonRpcEncoder.valid_envelope _ hsid valid_emptyObject
    · exact JsonRpcEncoder.valid_envelope _ hsid (valid_emptyObject.set (.string (isUtf8_ascii _)))
    · exact JsonRpcEncoder.valid_envelope _ hsid
        ((valid_emptyObject.set (.unsigned _)).set (.string (isUtf8_ascii _)))
  heads := by decide +kernel

theorem readEnvelope_callText : (readEnvelope (.dumping sessionTexts) callText).map
    (fun envelope => (envelope.op, WebSocketJsonRpcAdapter.parseSid envelope.object)) =
      some (RpcOp.request, seventhSid) := by
  decide +kernel

/-- The call of a client that has been through the handshake goes through. -/
theorem sessions_agree_handshake :
    let connection := (run (Connection.step (.dumping sessionTexts)) { adapter := start }
      (handshake 7 (ascii "01"))).1
    connection.adapter.identified = true ∧ connection.client.sid = connection.adapter.sid ∧
      .forward callText ∈
        (connection.adapter.onBytes (.dumping sessionTexts) {} callText).2.1 := by
  have hlib := JsonLibrary.lawful_dumping proper_sessionTexts
  have hrun := run_handshake hlib (rfl : start.identified = false) rfl 7 (isUtf8_ascii "01")
  have hsid : (start.makeSessionId 7).2 = seventhSid := by decide
  intro connection
  have hclient : connection.client.sid = seventhSid := by
    simp only [connection, hrun]
    exact hsid
  obtain ⟨hidentified, hsame, hforward⟩ := sessions_agree hlib
    (JsonLibrary.dumpsText_dumping sessionTexts) (handshake 7 (ascii "01"))
    (by rw [hclient]; decide : connection.client.sid ≠ [])
  obtain ⟨envelope, hread, heq⟩ := Option.map_eq_some_iff.mp readEnvelope_callText
  obtain ⟨hop, henvelope⟩ := Prod.mk.inj heq
  exact ⟨hidentified, hsame, hforward {} callText envelope hread (by rw [hop]; decide)
    (henvelope.trans hclient.symm)⟩

/-- **The handshake completes, and the session stays.** A HELLO, an IDENTIFY with any seed and
masks, and the IDENTIFIED give the client the sid that the adapter made of the seed; and whatever is
sent afterwards, both keep it. -/
theorem handshake_completes (hlib : lib.Lawful) (hdump : lib.DumpsText)
    {adapter : WebSocketJsonRpcAdapter} (hadapter : adapter.identified = false)
    (hhello : adapter.helloSent = false) (randomSeed : UInt32) {eventMasks : Bytes}
    (hmasks : isUtf8 eventMasks = true) (actions : List Action) :
    let connection := (run (Connection.step lib) { adapter }
      (handshake randomSeed eventMasks ++ actions)).1
    connection.client.sid = (adapter.makeSessionId randomSeed).2 ∧
      connection.adapter.identified = true ∧
      connection.adapter.sid = (adapter.makeSessionId randomSeed).2 := by
  let sid := (adapter.makeSessionId randomSeed).2
  have hne : sid ≠ [] := AxtpCore.hex8_ne_nil _
  have hbegun : Agrees lib
      (run (Connection.step lib) { adapter } (handshake randomSeed eventMasks)).1 :=
    agrees_run hlib hdump adapter _
  rw [run_handshake hlib hadapter hhello randomSeed hmasks] at hbegun
  intro connection
  have hkept : Kept lib sid connection := by
    simp only [connection, run_append, run_handshake hlib hadapter hhello randomSeed hmasks]
    exact run_invariant
      (fun connection h action _ => h.moves (moves_step hlib hdump connection action))
      ⟨hbegun, hne, rfl, rfl⟩
  exact ⟨(hkept.agrees.client hkept.client).2.trans hkept.sid, hkept.identified, hkept.sid⟩

/-- A REIDENTIFY after the handshake. -/
theorem handshake_completes_reidentify :
    let connection := (run (Connection.step (.dumping sessionTexts)) { adapter := start }
      (handshake 7 (ascii "01") ++ [.reidentify (ascii "02"), .receive {}, .acceptIdentified])).1
    connection.client.sid = seventhSid ∧ connection.adapter.identified = true ∧
      connection.adapter.sid = seventhSid := by
  have hsid : (start.makeSessionId 7).2 = seventhSid := by decide
  rw [← hsid]
  exact handshake_completes (JsonLibrary.lawful_dumping proper_sessionTexts)
    (JsonLibrary.dumpsText_dumping sessionTexts) rfl rfl 7 (isUtf8_ascii "01") _

end Connection

end Axtp
