/-
  A client and a server control session that talk over two FIFO channels.

  The channels carry the encoded messages. What the client asked for is read off the
  history alone (`asked`), as what an accepted session must have agreed to.
-/
import Axtp.Lib.Since
import Axtp.Session.ControlSession
import Axtp.Wire.PayloadDecoder
import Axtp.Wire.PayloadEncoder

namespace Axtp

structure Negotiation where
  client : ControlSession := {}
  server : ControlSession := {}
  toServer : List Bytes := []
  toClient : List Bytes := []
  deriving DecidableEq, Repr

namespace Negotiation

inductive Action where
  | setRequestedHeartbeatInterval (intervalMs : UInt32)
  | makeOpen (controlId : UInt16)
  | deliverToServer
  | deliverToClient
  deriving DecidableEq, Repr

def encode (payload : ControlPayload) : Bytes := (PayloadEncoder.encodeControl payload).body

/-- A session that handles a message, and its encoded response. -/
def receive (session : ControlSession) (message : Bytes) : ControlSession × List Bytes :=
  match PayloadDecoder.decodeControl message with
  | none => (session, [])
  | some payload =>
    let (session, response) := session.handle payload
    (session, (response.map encode).toList)

def step (n : Negotiation) : Action → Negotiation
  | .setRequestedHeartbeatInterval intervalMs =>
    { n with client := n.client.setRequestedHeartbeatInterval intervalMs }
  | .makeOpen controlId =>
    let (client, payload) := n.client.makeOpen controlId
    { n with client, toServer := n.toServer ++ [encode payload] }
  | .deliverToServer =>
    match n.toServer with
    | [] => n
    | message :: toServer =>
      let (server, responses) := receive n.server message
      { n with server, toServer, toClient := n.toClient ++ responses }
  | .deliverToClient =>
    match n.toClient with
    | [] => n
    | message :: toClient =>
      let (client, responses) := receive n.client message
      { n with client, toClient, toServer := n.toServer ++ responses }

def after (history : List Action) : Negotiation := history.foldl step {}

/-! ### What was asked for -/

/-- The interval that is requested at the moment, and the OPENs so far: the id of each and the
interval that was requested when it was made. -/
structure Asked where
  requested : UInt32 := 1000
  opens : List (UInt16 × UInt32) := []

def Asked.next (asked : Asked) : Action → Asked
  | .setRequestedHeartbeatInterval intervalMs => { asked with requested := intervalMs }
  | .makeOpen controlId =>
    { asked with opens := asked.opens ++ [(controlId, asked.requested)] }
  | _ => asked

def asked (history : List Action) : Asked := history.foldl Asked.next {}

/-- The latest OPEN. -/
def latest (history : List Action) : Option (UInt16 × UInt32) := (asked history).opens.getLast?

/-- The control ids of the OPENs are pairwise distinct. -/
def DistinctIds (history : List Action) : Prop := ((asked history).opens.map Prod.fst).Nodup

instance (history : List Action) : Decidable (DistinctIds history) := by
  unfold DistinctIds; infer_instance

/-- The interval brought into the range of 500 to 60000 milliseconds. -/
def clamp (intervalMs : UInt32) : ℕ := max 500 (min intervalMs.toNat 60000)

/-- A message opens the client with the options of an ACCEPT with this id. -/
def Adopts (controlId : UInt16) (before : List Action) (a : Action) : Prop :=
  a = .deliverToClient ∧ (after before).client.isOpen = false ∧
    ∃ message payload, (after before).toClient.head? = some message ∧
      PayloadDecoder.decodeControl message = some payload ∧
      payload.opcode = ControlOpcode.accept ∧ payload.controlId = controlId ∧
      (after (before ++ [a])).client.isOpen = true ∧
      (after (before ++ [a])).client.acceptedOptions = payload.tlv

/-- The client stays open with the options it has. -/
def Stays (before : List Action) (a : Action) : Prop :=
  (after (before ++ [a])).client.isOpen = true ∧
    (after (before ++ [a])).client.acceptedOptions = (after before).client.acceptedOptions

/-- The ACCEPT that the client adopted has this id. -/
def Adopted (controlId : UInt16) (history : List Action) : Prop :=
  Since Stays (Adopts controlId) history

end Negotiation

end Axtp
