/-
  Leader node (`server/src/node/leader.rs`).
-/
import YpfRuta.Lib.Float32
import YpfRuta.Server.Node

namespace YpfRuta.Server

structure Leader (α : Type) where
  id : NodeId
  currentOpId : OpId
  address : SocketAddr
  cluster : HashMap NodeId SocketAddr
  operations : HashMap OpId (PendingOperation α)
  isOffline : Bool
  offlineQueue : List (Operation α)
  electionInProgress : Bool
  electionStart : Option Nat

/-- The acks that let a leader of `len` members execute. -/
def quorum (len : Nat) : Nat := Lib.f32HalfPred len

namespace Leader

variable {α : Type}

/-- Send `Join` to the members in turn until one send succeeds. -/
def joinAny (address : SocketAddr) : List SocketAddr → Handler α (Leader α) Unit
  | [] => return ()
  | nodeAddr :: rest => do
    if nodeAddr = address then joinAny address rest
    else
      match ← errorOf (send (.join address) nodeAddr) with
      | none => return ()
      | some _ =>
        -- The retry's own result is dropped, and the loop goes on to the next member.
        let _ ← errorOf (send (.join address) nodeAddr)
        joinAny address rest

def handleDisconnectNode : Handler α (Leader α) Unit := do
  modifySelf fun self => { self with isOffline := true }
  disconnect

def handleConnectNode : Handler α (Leader α) Unit := do
  modifySelf fun self => { self with isOffline := false }
  reconnect
  let self ← getSelf
  joinAny self.address self.cluster.values

/-- Broadcast `Coordinator`; failed sends are only logged. -/
def anounceCoordinator : Handler α (Leader α) RoleChange := do
  let self ← getSelf
  forEach (fun peer : NodeId × SocketAddr =>
    if peer.1 = self.id then return ()
    else do
      let _ ← errorOf (send (.coordinator self.id self.address) peer.2))
    (self.cluster.entries.map fun e => (e.1, e.2))
  return .none

def handleConnectionLostWith [AddrHash] (address : SocketAddr) :
    Handler α (Leader α) RoleChange := do
  modifySelf fun self => { self with cluster := self.cluster.erase (getIdGivenAddr address) }
  return .none

/-- Store the request under the current op id and replicate it; a lone leader
    executes it right away. -/
def handleRequest (reqId : ReqId) (op : Operation α) (clientAddr : SocketAddr) :
    Handler α (Leader α) Unit := do
  modifySelf fun self => { self with
    operations := self.operations.insert self.currentOpId (.new op clientAddr reqId) }
  let self ← getSelf
  if self.cluster.len = 1 then
    execute self.currentOpId op
    return ()
  forEach (fun peer : NodeId × SocketAddr =>
    if peer.1 = self.id then return () else send (.log self.currentOpId op) peer.2)
    (self.cluster.entries.map fun e => (e.1, e.2))
  let next ← addOne self.currentOpId
  modifySelf fun self => { self with currentOpId := next }

def handleResponse (_reqId : ReqId) (_opResult : OperationResult α) :
    Handler α (Leader α) Unit :=
  panics "not yet implemented"

def handleRoleQuery [AddrHash] (addr : SocketAddr) : Handler α (Leader α) Unit := do
  let self ← getSelf
  send (.roleResponse (getIdGivenAddr self.address) .leader) addr

def handleLog (_opId : OpId) (_newOp : Operation α) : Handler α (Leader α) Unit :=
  panics "not yet implemented"

/-- Count an ack. The operation is executed when the count equals the quorum, and
    on any ack when there is exactly one other member. -/
def handleAck (opId : OpId) : Handler α (Leader α) Unit := do
  let self ← getSelf
  match self.operations.lookup opId with
  | none => return ()
  | some stored =>
    let pending := { stored with ackCount := stored.ackCount + 1 }
    modifySelf fun self => { self with operations := self.operations.insert opId pending }
    if pending.ackCount ≠ quorum self.cluster.len then
      if (← subOne self.cluster.len) ≠ 1 then
        return ()
    execute opId pending.op

/-- The pending entry a result belongs to. Op id 0 stands for the leader's own
    snapshot commands. -/
def takePending (opId : OpId) (operation : Operation α) :
    Handler α (Leader α) (PendingOperation α) := do
  let self ← getSelf
  if opId ≠ 0 then
    match self.operations.lookup opId with
    | some pending =>
      modifySelf fun self => { self with operations := self.operations.erase opId }
      return pending
    | none => panics "leader received the result of an unexisting operation"
  else
    return { op := operation, clientAddr := self.address, requestId := 0, ackCount := 0 }

def handleOperationResult (opId : OpId) (operation : Operation α) (result : OperationResult α) :
    Handler α (Leader α) Unit := do
  let pending ← takePending opId operation
  let self ← getSelf
  match operation with
  | .getDatabase addr =>
    match result with
    | .databaseSnapshot snapshot =>
      let msg := .clusterView (self.cluster.entries.map fun e => (e.1, e.2)) self.address snapshot
      if (← errorOf (send msg addr)).isSome then send msg addr
    | _ => return ()
  | .replaceDatabase _ => return ()
  | op =>
    if pending.clientAddr = self.address then
      match op, result with
      | .charge .., .charge chargeRes =>
        let (allowed, error) := Node.chargeVerdict chargeRes
        tell (.chargeResult pending.requestId allowed error)
      | _, _ => return ()
    else
      send (.response pending.requestId result) pending.clientAddr

def handleElectionOk (_responderId : NodeId) : Handler α (Leader α) Unit :=
  modifySelf fun self => { self with electionInProgress := false, electionStart := none }

def handleCoordinator (leaderId : NodeId) (leaderAddr : SocketAddr) :
    Handler α (Leader α) RoleChange := do
  modifySelf fun self => { self with electionInProgress := false, electionStart := none }
  let self ← getSelf
  if self.id ≤ leaderId then return .demoteToReplica leaderAddr
  return .none

/-- Ask the members with a higher id; without any, reaffirm leadership. -/
def startElection : Handler α (Leader α) RoleChange := do
  let self ← getSelf
  if self.electionInProgress then return .none
  let higher := (self.cluster.entries.map fun e => (e.1, e.2)).filter fun peer => self.id < peer.1
  forEach (fun peer : NodeId × SocketAddr => do
    let _ ← errorOf (send (.election self.id self.address) peer.2)) higher
  if higher ≠ [] then
    let start ← instantNow
    modifySelf fun self => { self with electionInProgress := true, electionStart := some start }
    return .none
  modifySelf fun self => { self with electionInProgress := false, electionStart := none }
  anounceCoordinator

def handleElection (candidateId : NodeId) (candidateAddr : SocketAddr) :
    Handler α (Leader α) RoleChange := do
  let self ← getSelf
  if candidateId < self.id then
    let _ ← errorOf (send (.electionOk self.id) candidateAddr)
    startElection
  else return .none

/-- Ask the own database for a snapshot, add the member and tell the others. -/
def handleJoin [AddrHash] (addr : SocketAddr) : Handler α (Leader α) Unit := do
  execute 0 (.getDatabase addr)
  let nodeId := getIdGivenAddr addr
  modifySelf fun self => { self with cluster := self.cluster.insert nodeId addr }
  let self ← getSelf
  forEach (fun replicaAddr =>
    if replicaAddr = self.address ∨ replicaAddr = addr then return ()
    else send (.clusterUpdate (nodeId, addr)) replicaAddr) self.cluster.values

/-- Only leaders send cluster updates. -/
def handleClusterUpdate (_newMember : NodeId × SocketAddr) : Handler α (Leader α) Unit :=
  return ()

def handleClusterView (members : List (NodeId × SocketAddr)) (_leaderAddr : SocketAddr)
    (snapshot : DatabaseSnapshot α) : Handler α (Leader α) Unit := do
  execute 0 (.replaceDatabase snapshot)
  modifySelf fun self => { self with
    cluster := members.foldl (fun cluster m => cluster.insert m.1 m.2) ∅ }
  let _ ← startElection

/-- Two seconds without `ElectionOk`: reaffirm leadership. -/
def handleElectionTimeout : Handler α (Leader α) RoleChange := do
  let self ← getSelf
  if ¬ self.electionInProgress then return .none
  match self.electionStart with
  | none => return .none
  | some start =>
    if 2000 ≤ (← instantNow) - start then
      modifySelf fun self => { self with electionInProgress := false, electionStart := none }
      let _ ← anounceCoordinator
    return .none

instance [AddrHash] : Node α (Leader α) where
  isOffline := Leader.isOffline
  logOfflineOperation self op := { self with offlineQueue := self.offlineQueue ++ [op] }
  getAddress := Leader.address
  handleRequest := handleRequest
  handleResponse := handleResponse
  handleRoleQuery := handleRoleQuery
  handleLog := handleLog
  handleAck := handleAck
  handleOperationResult := handleOperationResult
  handleConnectionLostWith := handleConnectionLostWith
  handleDisconnectNode := handleDisconnectNode
  handleConnectNode := handleConnectNode
  handleElection := handleElection
  handleElectionOk := handleElectionOk
  handleCoordinator := handleCoordinator
  handleJoin := handleJoin
  handleClusterView := handleClusterView
  handleClusterUpdate := handleClusterUpdate
  handleElectionTimeout := handleElectionTimeout

/-- A promoted node starts with no pending operation: "old committed ops are
    already present in the actor system". -/
def fromExisting (id : NodeId) (currentOpId : OpId) (address : SocketAddr)
    (members : HashMap NodeId SocketAddr) (_operationsFromReplica : HashMap OpId (Operation α))
    (isOffline : Bool) (offlineQueue : List (Operation α)) : Leader α where
  id := id
  currentOpId := currentOpId
  address := address
  cluster := members
  operations := ∅
  isOffline := isOffline
  offlineQueue := offlineQueue
  electionInProgress := false
  electionStart := none

/-- The state `Leader::start` enters the main loop with. -/
def start [AddrHash] (address : SocketAddr) : Leader α where
  id := getIdGivenAddr address
  currentOpId := 1
  address := address
  cluster := (∅ : HashMap NodeId SocketAddr).insert (getIdGivenAddr address) address
  operations := ∅
  isOffline := false
  offlineQueue := []
  electionInProgress := false
  electionStart := none

end Leader

end YpfRuta.Server
