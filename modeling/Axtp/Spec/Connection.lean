/-
  A JSON-RPC client and the adapter of a server on one WebSocket connection.

  The texts of each side arrive whole and in order, after any time. The client's program
  gives the texts that it takes to its `RpcClientSession` or keeps them from it, as it
  likes, and may send any text at all. What the core writes behind the adapter are
  payloads of the program: requests, responses and events.

  A step is observed as the texts that the adapter forwards to the core.
-/
import Axtp.Runtime.RpcClientSession
import Axtp.Runtime.WebSocketJsonRpcAdapter

namespace Axtp

structure Connection where
  client : RpcClientSession := {}
  adapter : WebSocketJsonRpcAdapter
  toAdapter : List Bytes := []
  toClient : List Bytes := []

namespace Connection

/-- What the core writes: no IDENTIFY is forwarded to it, so it writes no IDENTIFIED. -/
def coreOps : List RpcOp :=
  [RpcOp.event, RpcOp.request, RpcOp.requestResponse, RpcOp.requestBatchResponse]

inductive Action where
  /-- The client takes a text for a HELLO and sends the IDENTIFY. -/
  | acceptHello (randomSeed : UInt32) (eventMasks : Bytes)
  /-- The client takes a text for an IDENTIFIED. -/
  | acceptIdentified
  /-- The client's program takes a text. -/
  | skip
  | reidentify (eventMasks : Bytes)
  | send (text : Bytes)
  /-- The adapter takes a text. -/
  | receive (around : Surroundings)
  | sendHello (around : Surroundings)
  | sendEvent (around : Surroundings) (payload : RpcPayload)
  | coreWrites (payload : RpcPayload) (hop : payload.op ∈ coreOps)

variable (lib : JsonLibrary)

/-- The texts that the adapter writes. -/
def written (effects : List AdapterEffect) : List Bytes :=
  effects.filterMap fun
    | .write _ bytes => some bytes
    | .forward _ => none

/-- The texts that the adapter forwards. -/
def forwarded (effects : List AdapterEffect) : List Bytes :=
  effects.filterMap fun
    | .write _ _ => none
    | .forward text => some text

/-- The text of a document that the client has made, if it can be dumped. -/
def textOf (document : Option Json) : List Bytes := (document.bind lib.dump).toList

def step (connection : Connection) : Action → Connection × List Bytes
  | .acceptHello randomSeed eventMasks =>
    match connection.toClient with
    | [] => (connection, [])
    | text :: toClient =>
      match lib.parse text with
      | none => ({ connection with toClient }, [])
      | some hello =>
        let (client, document) := connection.client.acceptHello lib hello randomSeed eventMasks
        ({ connection with
            client, toClient, toAdapter := connection.toAdapter ++ textOf lib document }, [])
  | .acceptIdentified =>
    match connection.toClient with
    | [] => (connection, [])
    | text :: toClient =>
      ({ connection with
          client := ((lib.parse text).bind connection.client.acceptIdentified).getD
            connection.client
          toClient }, [])
  | .skip => ({ connection with toClient := connection.toClient.tail }, [])
  | .reidentify eventMasks =>
    ({ connection with
        toAdapter := connection.toAdapter ++
          textOf lib (connection.client.makeReidentify eventMasks) }, [])
  | .send text => ({ connection with toAdapter := connection.toAdapter ++ [text] }, [])
  | .receive around =>
    match connection.toAdapter with
    | [] => (connection, [])
    | text :: toAdapter =>
      let (adapter, effects, _) := connection.adapter.onBytes lib around text
      ({ connection with
          adapter, toAdapter, toClient := connection.toClient ++ written effects },
        forwarded effects)
  | .sendHello around =>
    let (adapter, effects, _) := connection.adapter.sendHelloOnce lib around
    ({ connection with adapter, toClient := connection.toClient ++ written effects }, [])
  | .sendEvent around payload =>
    let (effects, _) := connection.adapter.sendEvent lib around payload
    ({ connection with toClient := connection.toClient ++ written effects }, [])
  | .coreWrites payload _ =>
    ({ connection with
        toClient := connection.toClient ++ (JsonRpcEncoder.encode lib payload).toList }, [])

end Connection

end Axtp
