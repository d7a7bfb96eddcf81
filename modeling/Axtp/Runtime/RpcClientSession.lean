/-
  `RpcClientSession` (`json_rpc/rpc_client_session.hpp`).

  The client's side of the JSON-RPC session, on documents. `none` stands for an
  exception. `object.value("op", -1)` reads a number as an `int`; a boolean counts as a
  number there.
-/
import Axtp.Wire.JsonRpcEncoder

namespace Axtp

structure RpcClientSession where
  helloAccepted : Bool := false
  observedAxtpVersion : Option Bytes := none
  sid : Bytes := []
  deriving DecidableEq, Repr

namespace RpcClientSession

open Json

/-- `static_cast<int>(op)`. -/
def intOf (op : RpcOp) : ℤ := op.value.toNat

/-- `object.value("op", -1)`. -/
def opOf (object : Json) : Option ℤ :=
  match object.find "op" with
  | none => some (-1)
  | some (.boolean value) => some (value.toNat : ℤ)
  | some (.float bits) => some (truncate bits)
  | some value => value.getInt64.map fun number => number.bmod (2 ^ 32)

/-- The `d` of a HELLO, if it has the shape of one. -/
def helloBody (hello : Json) : Option Json := do
  let d ← hello.find "d"
  if hello.isObject ∧ opOf hello = some (intOf RpcOp.hello) ∧ d.isObject then some d else none

/-- The version in a HELLO: a string, or the dump of another value. The outer option is the
exception of that dump. -/
def observeVersion (lib : JsonLibrary) (d : Json) : Option (Option Bytes) :=
  match d.find "axtpVersion" with
  | none => some none
  | some (.string version) => some (some version)
  | some version => (lib.dump version).map some

/-- The IDENTIFY. -/
def identifyDocument (randomSeed : UInt32) (eventMasks : Bytes) : Json :=
  JsonRpcEncoder.envelope [] RpcOp.identify
    ((emptyObject.set "randomSeed" (.unsigned randomSeed.toUInt64)).set "eventMasks"
      (.string eventMasks))

def acceptHello (lib : JsonLibrary) (session : RpcClientSession) (hello : Json)
    (randomSeed : UInt32) (eventMasks : Bytes) : RpcClientSession × Option Json :=
  match helloBody hello with
  | none => (session, none)
  | some d =>
    match observeVersion lib d with
    -- the version is reset before the dump that throws
    | none => ({ session with observedAxtpVersion := none }, none)
    | some observedAxtpVersion =>
      ({ session with observedAxtpVersion, helloAccepted := true },
        some (identifyDocument randomSeed eventMasks))

def acceptIdentified (session : RpcClientSession) (identified : Json) :
    Option RpcClientSession := do
  let sid ← (identified.find "sid").bind getString
  if session.helloAccepted ∧ identified.isObject ∧
      opOf identified = some (intOf RpcOp.identified) ∧ sid ≠ [] then
    some { session with sid }
  else none

def makeReidentify (session : RpcClientSession) (eventMasks : Bytes) : Option Json :=
  if session.sid = [] then none
  else
    let d := if eventMasks = [] then emptyObject
      else emptyObject.set "eventMasks" (.string eventMasks)
    some (JsonRpcEncoder.envelope session.sid RpcOp.reidentify d)

end RpcClientSession

end Axtp
