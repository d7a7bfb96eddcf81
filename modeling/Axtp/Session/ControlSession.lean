/-
  `ControlSession` (`protocol/session/control_session.hpp`).
-/
import Axtp.Wire.ControlTlvCodec

namespace Axtp

/-- One end of the OPEN handshake. `pendingOpenId` is the id of an OPEN not accepted yet. -/
structure ControlSession where
  isOpen : Bool := false
  pendingOpenId : Option UInt16 := none
  acceptedOptions : ControlTlvOptions := {}
  requestedHeartbeatIntervalMs : UInt32 := 1000
  lastOpcode : ControlOpcode := ControlOpcode.open_
  deriving DecidableEq, Repr

namespace ControlSession

/-- The interval asked for lies between these two, and so must the one agreed on. -/
def kMinHeartbeatIntervalMs : UInt32 := 500
def kMaxHeartbeatIntervalMs : UInt32 := 60000

/-- Intervals outside the bounds are moved to the nearer one. -/
def setRequestedHeartbeatInterval (session : ControlSession) (intervalMs : UInt32) :
    ControlSession :=
  { session with
    requestedHeartbeatIntervalMs :=
      if intervalMs < kMinHeartbeatIntervalMs then kMinHeartbeatIntervalMs
      else if intervalMs > kMaxHeartbeatIntervalMs then kMaxHeartbeatIntervalMs
      else intervalMs }

/-- The OPEN of a client. A session that was open is so no longer. -/
def makeOpen (session : ControlSession) (controlId : UInt16) : ControlSession × ControlPayload :=
  let tlv :=
    { ControlTlvCodec.defaultsForOpen with
      heartbeatIntervalMs := session.requestedHeartbeatIntervalMs }
  ({ session with isOpen := false, pendingOpenId := some controlId, acceptedOptions := {} },
    { opcode := ControlOpcode.open_, controlId, statusCode := ErrorCode.success, tlv
      body := ControlTlvCodec.encode tlv false })

def makeHeartbeat (controlId : UInt16) : ControlPayload :=
  { opcode := ControlOpcode.heartbeat, controlId, statusCode := ErrorCode.success }

/-- The answer to a control message, under the id of that. -/
def makeResponse (opcode : ControlOpcode) (request : ControlPayload) : ControlPayload :=
  { opcode, controlId := request.controlId, statusCode := ErrorCode.success
    meta_ := request.meta_ }

/-- The answer of a session to a control message, if it has one. An OPEN is answered even where it
is refused; an ACCEPT opens the session only for the OPEN that is pending. -/
def handle (session : ControlSession) (payload : ControlPayload) :
    ControlSession × Option ControlPayload :=
  let session := { session with lastOpcode := payload.opcode }
  if payload.opcode = ControlOpcode.open_ then
    let response :=
      { makeResponse ControlOpcode.accept payload with
        tlv := ControlTlvCodec.defaultsForAccept payload.tlv }
    let accepted := payload.tlv.valid && response.tlv.valid
    let statusCode :=
      if accepted then response.statusCode
      else if payload.tlv.valid then ErrorCode.controlNegotiationFailed
      else ErrorCode.controlPayloadInvalid
    ({ session with isOpen := accepted, acceptedOptions := {} },
      some { response with statusCode, body := ControlTlvCodec.encode response.tlv true })
  else if payload.opcode = ControlOpcode.accept then
    if session.pendingOpenId = some payload.controlId ∧ payload.statusCode = ErrorCode.success ∧
        payload.tlv.valid then
      ({ session with isOpen := true, acceptedOptions := payload.tlv, pendingOpenId := none }, none)
    else (session, none)
  else if payload.opcode = ControlOpcode.ping then
    (session, some (makeResponse ControlOpcode.pong payload))
  else if payload.opcode = ControlOpcode.heartbeat then
    (session, some (makeResponse ControlOpcode.heartbeatAck payload))
  else if payload.opcode = ControlOpcode.close then
    ({ session with isOpen := false, pendingOpenId := none, acceptedOptions := {} },
      some (makeResponse ControlOpcode.closeAck payload))
  else (session, none)

/-- The interval that the peer has accepted, where it told one within the bounds. -/
def negotiatedHeartbeatIntervalMs (session : ControlSession) : Option UInt32 :=
  if ¬ session.acceptedOptions.hasHeartbeatIntervalMs ∨
      session.acceptedOptions.heartbeatIntervalMs < kMinHeartbeatIntervalMs ∨
      session.acceptedOptions.heartbeatIntervalMs > kMaxHeartbeatIntervalMs then
    none
  else some session.acceptedOptions.heartbeatIntervalMs

/-- The calls that change a session. -/
inductive Call where
  | setRequestedHeartbeatInterval (intervalMs : UInt32)
  | makeOpen (controlId : UInt16)
  | handle (payload : ControlPayload)
  deriving DecidableEq, Repr

def call (session : ControlSession) : Call → ControlSession
  | .setRequestedHeartbeatInterval intervalMs => session.setRequestedHeartbeatInterval intervalMs
  | .makeOpen controlId => (session.makeOpen controlId).1
  | .handle payload => (session.handle payload).1

/-- The session after some calls. -/
def after (session : ControlSession) (calls : List Call) : ControlSession :=
  calls.foldl call session

end ControlSession

end Axtp
