/-
  The JSON-RPC adapter across reconnects.

  The transport delivers its messages inside its own poll, and the adapter compares
  generations only afterwards. As long as the adapter has noticed a connection before its
  messages come, what it knows was established on that connection, and stays
  (`isolates`); a message that comes earlier must find an adapter that is not identified
  and be no IDENTIFY.
-/
import Axtp.Equiv.SessionGating
import Axtp.Lib.Since

namespace Axtp

namespace ReconnectIsolation

open WebSocketJsonRpcAdapter

/-! ### The adapter and its transport -/

/-- What happens: a connection is accepted, in place of the one before, with the counter that the
transport shows, if it has one; a connection is dropped; a message of the connection is delivered;
or the poll of the transport has returned to `poll`, which goes on. -/
inductive Event where
  | accept (counter : Option UInt64)
  | drop
  | deliver (message : TextMessage)
  | polled (around : Surroundings)

structure Link where
  adapter : WebSocketJsonRpcAdapter
  connected : Bool := false
  counter : Option UInt64 := none

def Link.generation (link : Link) : UInt64 :=
  currentConnectionGeneration link.connected link.counter

variable (lib : JsonLibrary)

def Link.step (link : Link) : Event → Link
  | .accept counter => { link with connected := true, counter }
  | .drop => { link with connected := false }
  | .deliver message => { link with adapter := (receive lib link.adapter message).1 }
  | .polled around =>
    { link with
      adapter := (link.adapter.afterTransportPoll lib around link.connected link.counter).1 }

def after (history : List Event) : Link := history.foldl (Link.step lib) { adapter := start }

/-! ### What was established -/

/-- The event ends a connection, or begins one. -/
def Event.IsBoundary : Event → Prop
  | accept _ => True
  | drop => True
  | _ => False

/-- An IDENTIFY was handled on the current connection. -/
def IdentifiedOn (history : List Event) : Prop :=
  Since (fun _ e => ¬ e.IsBoundary)
    (fun _ e => ∃ message, e = .deliver message ∧ IsIdentify lib message)
    history

/-- The sid was established by the first IDENTIFY of the current connection. -/
def SidOn (sid : Bytes) (history : List Event) : Prop :=
  Since (fun _ e => ¬ e.IsBoundary)
    (fun before e => ∃ message, e = .deliver message ∧ IsIdentify lib message ∧
      ¬ IdentifiedOn lib before ∧ (after lib (before ++ [e])).adapter.sid = sid)
    history

/-- A poll has noticed the current connection: its generation was not the remembered one. -/
def Noticed (history : List Event) : Prop :=
  Since (fun _ e => ¬ e.IsBoundary)
    (fun before e => ∃ around, e = .polled around ∧ (after lib before).connected = true ∧
      (after lib before).generation ≠ (after lib before).adapter.activeConnectionGeneration)
    history

/-- What an IDENTIFY established on the current connection is there, and at a message there is
nothing else. -/
def Isolates (history : List Event) : Prop :=
  (∀ before rest, history = before ++ rest → IdentifiedOn lib before →
    (after lib before).adapter.identified = true ∧
    SidOn lib (after lib before).adapter.sid before) ∧
  ∀ before message rest, history = before ++ .deliver message :: rest →
    (after lib before).adapter.identified = true → IdentifiedOn lib before

/-- The message comes after a poll that noticed its connection; or it finds an adapter that is not
identified, and is no IDENTIFY. -/
def Timely (before : List Event) (message : TextMessage) : Prop :=
  Noticed lib before ∨
    ((after lib before).adapter.identified = false ∧ ¬ IsIdentify lib message)

/-- All messages from here on are timely. -/
def AllTimely : List Event → List Event → Prop
  | _, [] => True
  | before, e :: rest =>
    (∀ message, e = .deliver message → Timely lib before message) ∧ AllTimely (before ++ [e]) rest

variable {lib} {history : List Event}

theorem after_concat (history : List Event) (e : Event) :
    after lib (history ++ [e]) = (after lib history).step lib e := by
  rw [after, List.foldl_append]
  rfl

/-! ### One poll -/

variable (lib) in
/-- A poll that compares equal generations changes nothing but the HELLO. -/
theorem afterTransportPoll_of_eq {adapter : WebSocketJsonRpcAdapter} (around : Surroundings)
    {counter : Option UInt64}
    (h : adapter.activeConnectionGeneration = currentConnectionGeneration true counter) :
    ∃ helloSent, (adapter.afterTransportPoll lib around true counter).1 =
      { adapter with helloSent := helloSent } := by
  have hsame : adapter.compareGeneration true counter = adapter := by
    unfold compareGeneration
    simp [h]
  simp only [afterTransportPoll, hsame, if_true, sendHelloOnce]
  split_ifs
  · exact ⟨adapter.helloSent, rfl⟩
  · rcases sendRpc lib around 0 JsonRpcEncoder.makeHello with ⟨effects, _ | _⟩
    · exact ⟨true, rfl⟩
    · exact ⟨adapter.helloSent, rfl⟩

variable (lib) in
/-- A poll that notices a connection forgets the session. -/
theorem afterTransportPoll_of_ne {adapter : WebSocketJsonRpcAdapter} (around : Surroundings)
    {counter : Option UInt64}
    (h : adapter.activeConnectionGeneration ≠ currentConnectionGeneration true counter) :
    (adapter.afterTransportPoll lib around true counter).1.identified = false ∧
      (adapter.afterTransportPoll lib around true counter).1.activeConnectionGeneration =
        currentConnectionGeneration true counter := by
  have hnew : (adapter.compareGeneration true counter).identified = false ∧
      (adapter.compareGeneration true counter).activeConnectionGeneration =
        currentConnectionGeneration true counter := by
    unfold compareGeneration
    simp [h, renewSid, makeSessionId]
  simp only [afterTransportPoll, if_true, sendHelloOnce]
  split_ifs
  · exact hnew
  · rcases sendRpc lib around 0 JsonRpcEncoder.makeHello with ⟨effects, _ | _⟩ <;> exact hnew

/-! ### Runs -/

/-- What holds after a history whose messages were all timely. -/
structure Established (lib : JsonLibrary) (history : List Event) : Prop where
  noticed : IdentifiedOn lib history → Noticed lib history
  connected : Noticed lib history → (after lib history).connected = true ∧
    (after lib history).adapter.activeConnectionGeneration = (after lib history).generation
  identified : Noticed lib history →
    ((after lib history).adapter.identified = true ↔ IdentifiedOn lib history)
  sid : IdentifiedOn lib history → SidOn lib (after lib history).adapter.sid history

theorem established_nil : Established lib [] :=
  ⟨fun h => absurd h not_since_nil, fun h => absurd h not_since_nil,
    fun h => absurd h not_since_nil, fun h => absurd h not_since_nil⟩

/-- A connection begins with nothing established. -/
theorem established_boundary {e : Event} (he : e.IsBoundary) :
    Established lib (history ++ [e]) := by
  have hidentified : ¬ IdentifiedOn lib (history ++ [e]) := by
    rw [IdentifiedOn, since_concat]
    rintro (⟨message, rfl, -⟩ | ⟨-, hnot⟩)
    · exact he
    · exact hnot he
  have hnoticed : ¬ Noticed lib (history ++ [e]) := by
    rw [Noticed, since_concat]
    rintro (⟨around, rfl, -⟩ | ⟨-, hnot⟩)
    · exact he
    · exact hnot he
  exact ⟨fun h => absurd h hidentified, fun h => absurd h hnoticed, fun h => absurd h hnoticed,
    fun h => absurd h hidentified⟩

theorem noticed_deliver {message : TextMessage} :
    Noticed lib (history ++ [.deliver message]) ↔ Noticed lib history := by
  rw [Noticed, since_concat]
  simp [Event.IsBoundary, Noticed]

theorem identifiedOn_deliver {message : TextMessage} :
    IdentifiedOn lib (history ++ [.deliver message]) ↔
      IsIdentify lib message ∨ IdentifiedOn lib history := by
  rw [IdentifiedOn, since_concat]
  simp [Event.IsBoundary, IdentifiedOn]

theorem identifiedOn_polled {around : Surroundings} :
    IdentifiedOn lib (history ++ [.polled around]) ↔ IdentifiedOn lib history := by
  rw [IdentifiedOn, since_concat]
  simp [Event.IsBoundary, IdentifiedOn]

/-- What is established stays so at an event that keeps the sid. -/
theorem SidOn.concat {sid : Bytes} (h : SidOn lib sid history) {e : Event} (he : ¬ e.IsBoundary) :
    SidOn lib sid (history ++ [e]) :=
  since_concat.mpr (.inr ⟨h, he⟩)

/-- What an IDENTIFY does to an adapter. -/
theorem identified_identify (adapter : WebSocketJsonRpcAdapter) (d : Json)
    (randomSeed : Option UInt32) :
    (adapter.identify d randomSeed).identified = true ∧
      (adapter.identify d randomSeed).activeConnectionGeneration =
        adapter.activeConnectionGeneration ∧
      (adapter.identified = true → adapter.identify d randomSeed = adapter) := by
  unfold identify
  split_ifs with h
  · exact ⟨h, rfl, fun _ => rfl⟩
  · rcases resumeSid d with _ | sid <;> exact ⟨rfl, rfl, fun h' => absurd h' h⟩

theorem Established.deliver (h : Established lib history) {message : TextMessage}
    (htimely : Timely lib history message) : Established lib (history ++ [.deliver message]) := by
  have hlink : after lib (history ++ [.deliver message]) =
      { after lib history with adapter := (after lib history).adapter.heard lib message.data } := by
    rw [after_concat, Link.step, receive, fst_onBytes]
  rcases hidentifying : identifying lib message.data with _ | ⟨d, randomSeed⟩
  · -- no IDENTIFY: nothing changes
    have hnot : ¬ IsIdentify lib message := by simp [IsIdentify, hidentifying]
    have hsame : after lib (history ++ [.deliver message]) = after lib history := by
      rw [hlink, heard, hidentifying]
    refine ⟨?_, ?_, ?_, ?_⟩
    · rw [identifiedOn_deliver, noticed_deliver]
      rintro (his | hon)
      · exact absurd his hnot
      · exact h.noticed hon
    · rw [noticed_deliver, hsame]
      exact h.connected
    · rw [noticed_deliver, hsame, identifiedOn_deliver]
      simpa only [hnot, false_or] using h.identified
    · rw [identifiedOn_deliver, hsame]
      rintro (his | hon)
      · exact absurd his hnot
      · exact (h.sid hon).concat id
  · have his : IsIdentify lib message := by simp [IsIdentify, hidentifying]
    -- an IDENTIFY is timely only once the adapter has noticed the connection
    have hnoticed : Noticed lib history := by
      rcases htimely with hnoticed | ⟨-, hnot⟩
      · exact hnoticed
      · exact absurd his hnot
    obtain ⟨hidentified, hactive, hagain⟩ :=
      identified_identify (after lib history).adapter d randomSeed
    have hheard : (after lib history).adapter.heard lib message.data =
        (after lib history).adapter.identify d randomSeed := by
      rw [heard, hidentifying]
    rw [hheard] at hlink
    refine ⟨fun _ => noticed_deliver.mpr hnoticed, fun _ => ?_, fun _ => ?_, fun _ => ?_⟩
    · obtain ⟨hconnected, hgeneration⟩ := h.connected hnoticed
      rw [hlink]
      exact ⟨hconnected, hactive.trans hgeneration⟩
    · rw [hlink, identifiedOn_deliver]
      simp only [hidentified, his, true_or]
    · -- a second IDENTIFY keeps the sid, the first one of a connection draws it
      by_cases hon : IdentifiedOn lib history
      · have hsid : (after lib (history ++ [.deliver message])).adapter.sid =
            (after lib history).adapter.sid := by
          rw [hlink]
          exact congrArg WebSocketJsonRpcAdapter.sid
            (hagain ((h.identified hnoticed).mpr hon))
        rw [hsid]
        exact (h.sid hon).concat id
      · exact since_concat.mpr (.inl ⟨message, rfl, his, hon, rfl⟩)

theorem Established.polled (h : Established lib history) (around : Surroundings) :
    Established lib (history ++ [.polled around]) := by
  have hlink : after lib (history ++ [.polled around]) =
      { after lib history with
        adapter := ((after lib history).adapter.afterTransportPoll lib around
          (after lib history).connected (after lib history).counter).1 } := by
    rw [after_concat, Link.step]
  have hnoticed : Noticed lib (history ++ [.polled around]) ↔
      ((after lib history).connected = true ∧ (after lib history).generation ≠
        (after lib history).adapter.activeConnectionGeneration) ∨ Noticed lib history := by
    rw [Noticed, since_concat]
    simp [Event.IsBoundary, Noticed]
  by_cases hold : Noticed lib history
  · -- the connection is known: the comparison changes nothing
    obtain ⟨hconnected, hactive⟩ := h.connected hold
    rw [Link.generation, hconnected] at hactive
    obtain ⟨helloSent, hadapter⟩ :=
      afterTransportPoll_of_eq lib around hactive
    rw [hconnected, hadapter] at hlink
    refine ⟨fun _ => hnoticed.mpr (.inr hold), fun _ => ?_, fun _ => ?_, fun hon => ?_⟩
    · rw [hlink, Link.generation]
      simp only [hconnected, hactive, and_self]
    · rw [hlink, identifiedOn_polled]
      exact h.identified hold
    · rw [identifiedOn_polled] at hon
      rw [hlink]
      exact (h.sid hon).concat id
  · -- a connection that was not noticed before has no IDENTIFY on it either
    have hnot : ¬ IdentifiedOn lib (history ++ [.polled around]) := by
      rw [identifiedOn_polled]
      exact fun hon => hold (h.noticed hon)
    refine ⟨fun hon => absurd hon hnot, fun hnew => ?_, fun hnew => ?_,
      fun hon => absurd hon hnot⟩ <;>
      obtain ⟨hconnected, hne⟩ | hnew := hnoticed.mp hnew
    · rw [Link.generation, hconnected] at hne
      obtain ⟨-, hactive⟩ := afterTransportPoll_of_ne lib around hne.symm
      rw [hlink, Link.generation]
      simp only [hconnected, hactive, and_self]
    · exact absurd hnew hold
    · rw [Link.generation, hconnected] at hne
      obtain ⟨hidentified, -⟩ := afterTransportPoll_of_ne lib around hne.symm
      rw [hlink, hconnected]
      simp only [hidentified, Bool.false_eq_true, false_iff]
      exact hnot
    · exact absurd hnew hold

theorem Established.step (h : Established lib history) {e : Event}
    (htimely : ∀ message, e = .deliver message → Timely lib history message) :
    Established lib (history ++ [e]) := by
  cases e with
  | accept counter => exact established_boundary trivial
  | drop => exact established_boundary trivial
  | deliver message => exact h.deliver (htimely message rfl)
  | polled around => exact h.polled around

/-- What the condition gives at each message. -/
theorem Established.identifiedOn (h : Established lib history) {message : TextMessage}
    (htimely : Timely lib history message)
    (hidentified : (after lib history).adapter.identified = true) : IdentifiedOn lib history := by
  rcases htimely with hnoticed | ⟨hnot, -⟩
  · exact (h.identified hnoticed).mp hidentified
  · rw [hnot] at hidentified
    cases hidentified

theorem Established.run (h : Established lib history) {rest : List Event}
    (htimely : AllTimely lib history rest) :
    (∀ mid last, rest = mid ++ last → Established lib (history ++ mid)) ∧
      ∀ mid message last, rest = mid ++ .deliver message :: last →
        Timely lib (history ++ mid) message := by
  induction rest generalizing history with
  | nil =>
    refine ⟨fun mid last heq => ?_, fun mid message last heq => by simp at heq⟩
    obtain ⟨rfl, rfl⟩ := List.append_eq_nil_iff.mp heq.symm
    rw [List.append_nil]
    exact h
  | cons e rest ih =>
    obtain ⟨hfirst, hrest⟩ := htimely
    -- a prefix of the events is empty or goes through the first event
    obtain ⟨hestablished, hall⟩ := ih (h.step hfirst) hrest
    refine ⟨fun mid last heq => ?_, fun mid message last heq => ?_⟩
    · rcases mid with _ | ⟨e', mid⟩
      · rw [List.append_nil]
        exact h
      · obtain ⟨rfl, htail⟩ := List.cons.inj heq
        rw [List.append_cons]
        exact hestablished mid last htail
    · rcases mid with _ | ⟨e', mid⟩
      · obtain ⟨rfl, -⟩ := List.cons.inj heq
        rw [List.append_nil]
        exact hfirst message rfl
      · obtain ⟨rfl, htail⟩ := List.cons.inj heq
        rw [List.append_cons]
        exact hall mid message last htail

/-- **Reconnect isolation.** In every run whose messages are timely, an IDENTIFY that was handled on
a connection stays in force on it, with the sid that it established; and a message finds an
identified adapter only if an IDENTIFY was handled on its own connection. -/
theorem isolates (lib : JsonLibrary) (history : List Event) (htimely : AllTimely lib [] history) :
    Isolates lib history := by
  obtain ⟨hestablished, hall⟩ := established_nil.run htimely
  simp only [List.nil_append] at hestablished hall
  refine ⟨fun before rest heq hon => ?_, fun before message rest heq hidentified => ?_⟩
  · have h := hestablished before rest heq
    exact ⟨(h.identified (h.noticed hon)).mpr hon, h.sid hon⟩
  · exact (hestablished before _ heq).identifiedOn (hall before message rest heq) hidentified

/-! ### Two runs -/

/-- The first connection is noticed and identified. -/
def firstConnection : List Event := [.accept (some 1), .polled {}, .deliver identifyMessage]

theorem noticed_first : Noticed (.knowing gatingTexts) ([.accept (some 1)] ++ [.polled {}]) :=
  since_concat.mpr (.inl ⟨{}, rfl, rfl, by decide +kernel⟩)

theorem noticed_firstConnection : Noticed (.knowing gatingTexts) firstConnection :=
  noticed_deliver.mpr noticed_first

/-- The first connection with an event, and its end. -/
def firstEnded : List Event := firstConnection ++ [.deliver eventMessage, .drop, .polled {}]

/-- The second connection is noticed and identified as well. -/
def secondConnection : List Event :=
  firstEnded ++ [.accept (some 2)] ++ [.polled {}] ++ [.deliver identifyMessage]

theorem noticed_second :
    Noticed (.knowing gatingTexts) (firstEnded ++ [.accept (some 2)] ++ [.polled {}]) :=
  since_concat.mpr (.inl ⟨{}, rfl, by decide +kernel, by decide +kernel⟩)

theorem isolates_timely :
    Isolates (.knowing gatingTexts) (secondConnection ++ [.deliver eventMessage]) := by
  refine isolates (.knowing gatingTexts) _
    ⟨nofun, nofun, ?_, ?_, nofun, nofun, nofun, nofun, ?_, ?_, trivial⟩
  · rintro message ⟨⟩
    exact .inl noticed_first
  · rintro message ⟨⟩
    exact .inl noticed_firstConnection
  · rintro message ⟨⟩
    exact .inl noticed_second
  · rintro message ⟨⟩
    exact .inl (noticed_deliver.mpr noticed_second)

/-- The transport drops the connection, accepts another one and delivers an event of it, in one
poll: the event finds the adapter identified by the connection before. -/
theorem not_isolates_reconnect :
    ¬ Isolates (.knowing gatingTexts)
      (firstConnection ++ [.drop, .accept (some 2), .deliver eventMessage]) := by
  intro h
  have hon :
      IdentifiedOn (.knowing gatingTexts) ((firstConnection ++ [.drop]) ++ [.accept (some 2)]) :=
    h.2 _ eventMessage [] rfl (by decide +kernel)
  rcases since_concat.mp hon with ⟨message, heq, -⟩ | ⟨-, hnot⟩
  · cases heq
  · exact hnot trivial

end ReconnectIsolation

end Axtp
