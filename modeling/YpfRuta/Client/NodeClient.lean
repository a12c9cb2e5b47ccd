/-
  The forwarding client node (`client/src/node_client/node_client.rs`): it sits between
  a station and the nodes it knows, and keeps the charges it could not forward.
-/
import YpfRuta.Server.Node

namespace YpfRuta.Client

open Server

/-- What `{:?}` prints of a result. -/
class DebugFmt (α : Type) where
  operationResult : OperationResult α → String

/-- Charge stored while the client is offline. -/
structure QueuedCharge (α : Type) where
  accountId : AccountId
  cardId : CardId
  amount : α
  deriving DecidableEq, Repr

structure NodeClient (α : Type) where
  bindAddr : SocketAddr
  knownNodes : List SocketAddr
  online : Bool
  offlineQueue : List (QueuedCharge α)
  activeOnlineRequests : List ReqId
  nextReplayReqId : ReqId
  deriving DecidableEq, Repr

/-- What the client's main loop wakes up for. -/
inductive Event (α : Type) where
  | stationMsg (msg : StationToNodeMsg α)
  | nodeMsg (msg : Except AppError (Message α))

namespace NodeClient

variable {α : Type}

def new (bindAddr : SocketAddr) (knownNodes : List SocketAddr) : NodeClient α where
  bindAddr
  knownNodes
  online := true
  offlineQueue := []
  activeOnlineRequests := []
  nextReplayReqId := 1000000

/-- Answer the pump, keep the charge for later. -/
def enqueueOfflineCharge (accountId : AccountId) (cardId : CardId) (amount : α)
    (requestId : ReqId) : Handler α (NodeClient α) Unit := do
  modifySelf fun self =>
    { self with offlineQueue := self.offlineQueue ++ [⟨accountId, cardId, amount⟩] }
  tell (.chargeResult requestId true none)

/-- Send a message to the first node that takes it. -/
def sendToFirst (msg : Message α) : List SocketAddr → Handler α (NodeClient α) Bool
  | [] => return false
  | target :: targets => do
    match ← errorOf (send msg target) with
    | none => return true
    | some _ => sendToFirst msg targets

def forwardOnlineCharge (accountId : AccountId) (cardId : CardId) (amount : α)
    (requestId : ReqId) : Handler α (NodeClient α) Unit := do
  let self ← getSelf
  let op := .charge accountId cardId amount false
  if ← sendToFirst (.request requestId op self.bindAddr) self.knownNodes then
    modifySelf fun self =>
      { self with activeOnlineRequests := self.activeOnlineRequests.insert requestId }
  else enqueueOfflineCharge accountId cardId amount requestId

def forwardOrEnqueueCharge (accountId : AccountId) (cardId : CardId) (amount : α)
    (requestId : ReqId) : Handler α (NodeClient α) Unit := do
  let self ← getSelf
  if self.knownNodes.isEmpty then
    tell (.debug "[node_client] no known nodes; treating charge as offline and enqueuing for later replay.")
    enqueueOfflineCharge accountId cardId amount requestId
  else if !self.online then enqueueOfflineCharge accountId cardId amount requestId
  else forwardOnlineCharge accountId cardId amount requestId

/-- Send a stored charge to the first node that takes it, under a fresh request id an
    attempt. -/
def replayToFirst (op : Operation α) : List SocketAddr → Handler α (NodeClient α) Bool
  | [] => return false
  | target :: targets => do
    let self ← getSelf
    let reqId := self.nextReplayReqId
    modifySelf fun self => { self with nextReplayReqId := self.nextReplayReqId + 1 }
    match ← errorOf (send (.request reqId op self.bindAddr) target) with
    | none => return true
    | some _ => replayToFirst op targets

/-- Replay the charges of a queue one by one: those no node took. -/
def replayAll : List (QueuedCharge α) → Handler α (NodeClient α) (List (QueuedCharge α))
  | [] => return []
  | queued :: queue => do
    let op := .charge queued.accountId queued.cardId queued.amount true
    let sent ← replayToFirst op (← getSelf).knownNodes
    let stillPending ← replayAll queue
    return if sent then stillPending else queued :: stillPending

def flushOfflineQueue : Handler α (NodeClient α) Unit := do
  let self ← getSelf
  if self.offlineQueue.isEmpty then return ()
  else if self.knownNodes.isEmpty then return ()
  else
    modifySelf fun self => { self with offlineQueue := [] }
    let stillPending ← replayAll self.offlineQueue
    if !stillPending.isEmpty then
      modifySelf fun self => { self with offlineQueue := stillPending }

def handleStationMsg : StationToNodeMsg α → Handler α (NodeClient α) Unit
  | .chargeRequest accountId cardId amount requestId =>
    forwardOrEnqueueCharge accountId cardId amount requestId
  | .disconnectNode => do
    modifySelf fun self => { self with online := false }
    tell (.debug "[node_client] switched to OFFLINE mode; new charges will be accepted locally and replayed later.")
  | .connectNode => do
    modifySelf fun self => { self with online := true }
    tell (.debug "[node_client] switched to ONLINE mode; replaying queued offline charges (if any).")
    flushOfflineQueue

def handleResponseFromNode [DebugFmt α] (reqId : ReqId) (opResult : OperationResult α) :
    Handler α (NodeClient α) Unit :=
  match opResult with
  | .charge .ok => tell (.chargeResult reqId true none)
  | .charge (.failed e) => tell (.chargeResult reqId false (some e))
  | other =>
    tell (.debug s!"[node_client] ignoring non-charge response for req_id {reqId}: {DebugFmt.operationResult other}")

def handleNodeMsg [AddrHash] [DebugFmt α] (msg : Message α) :
    Handler α (NodeClient α) Unit := do
  let self ← getSelf
  match msg with
  | .response reqId opResult =>
    if reqId ∈ self.activeOnlineRequests then
      modifySelf fun self =>
        { self with activeOnlineRequests := self.activeOnlineRequests.erase reqId }
      handleResponseFromNode reqId opResult
  | .roleQuery addr => send (.roleResponse (getIdGivenAddr self.bindAddr) .station) addr
  | _ => return ()

/-- One turn of the client's loop. A failed receive is only logged. -/
def turn [AddrHash] [DebugFmt α] : Event α → Handler α (NodeClient α) Unit
  | .stationMsg msg => handleStationMsg msg
  | .nodeMsg (.ok msg) => handleNodeMsg msg
  | .nodeMsg (.error _) => return ()

end NodeClient

end YpfRuta.Client
