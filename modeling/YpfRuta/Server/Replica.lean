/-
  Replica node (`server/src/node/replica.rs`).
-/
import YpfRuta.Server.Leader

namespace YpfRuta.Server

structure Replica (α : Type) where
  id : NodeId
  address : SocketAddr
  leaderAddr : SocketAddr
  cluster : HashMap NodeId SocketAddr
  operations : HashMap OpId (Operation α)
  isOffline : Bool
  offlineQueue : List (Operation α)
  electionInProgress : Bool
  electionStart : Option Nat

namespace Replica

variable {α : Type}

def handleDisconnectNode : Handler α (Replica α) Unit := do
  modifySelf fun self => { self with isOffline := true }
  disconnect

/-- Send `Join` to the members in turn until a first attempt succeeds. A retry
    that fails ends the loop with its error, one that succeeds does not end it. -/
def joinAny (address : SocketAddr) : List SocketAddr → Handler α (Replica α) Unit
  | [] => return ()
  | nodeAddr :: rest => do
    if nodeAddr = address then joinAny address rest
    else
      match ← errorOf (send (.join address) nodeAddr) with
      | none => return ()
      | some _ =>
        send (.join address) nodeAddr
        joinAny address rest

def handleConnectNode : Handler α (Replica α) Unit := do
  modifySelf fun self => { self with isOffline := false }
  reconnect
  let self ← getSelf
  joinAny self.address self.cluster.values

/-- Announcements from the own id promote, from a lower id panic, from a higher id
    move the leader pointer. -/
def handleCoordinator (leaderId : NodeId) (leaderAddr : SocketAddr) :
    Handler α (Replica α) RoleChange := do
  modifySelf fun self => { self with electionInProgress := false, electionStart := none }
  let self ← getSelf
  if leaderId = self.id then return .promoteToLeader
  if leaderId < self.id then panics "leader_id should not be less than self"
  modifySelf fun self => { self with leaderAddr := leaderAddr }
  return .none

/-- Broadcast `Coordinator` and handle the own promotion. -/
def anounceCoordinator : Handler α (Replica α) RoleChange := do
  let self ← getSelf
  forEach (fun peer : NodeId × SocketAddr =>
    if peer.1 = self.id then return ()
    else do
      let _ ← errorOf (send (.coordinator self.id self.address) peer.2))
    (self.cluster.entries.map fun e => (e.1, e.2))
  handleCoordinator self.id self.address

/-- Ask the members with a higher id; without any, self-promote. -/
def startElection : Handler α (Replica α) RoleChange := do
  let self ← getSelf
  if self.electionInProgress then return .none
  let higher := (self.cluster.entries.map fun e => (e.1, e.2)).filter fun peer => self.id < peer.1
  forEach (fun peer : NodeId × SocketAddr => do
    let _ ← errorOf (send (.election self.id self.address) peer.2)) higher
  if higher ≠ [] then
    let start ← instantNow
    modifySelf fun self => { self with electionInProgress := true, electionStart := some start }
    return .none
  modifySelf fun self => { self with electionInProgress := false, electionStart := none }
  anounceCoordinator

/-- The members left when a peer is lost, if its id is known. -/
def retainMembers (cluster : HashMap NodeId SocketAddr) (lostAddress : SocketAddr) :
    HashMap NodeId SocketAddr where
  entries := cluster.entries.filter fun e => e.2 ≠ lostAddress
  nodupKeys := by
    have hsub : (cluster.entries.filter fun e => e.2 ≠ lostAddress).keys.Sublist
        cluster.entries.keys := List.Sublist.map _ List.filter_sublist
    exact hsub.nodup cluster.nodupKeys

def handleConnectionLostWith [AddrHash] (lostAddress : SocketAddr) :
    Handler α (Replica α) RoleChange := do
  let self ← getSelf
  if (self.cluster.lookup (getIdGivenAddr lostAddress)).isSome then
    modifySelf fun self => { self with cluster := retainMembers self.cluster lostAddress }
  if lostAddress = self.leaderAddr then startElection
  else return .none

/-- Proxy the request to the leader. -/
def handleRequest (opId : ReqId) (op : Operation α) (addr : SocketAddr) :
    Handler α (Replica α) Unit := do
  let self ← getSelf
  send (.request opId op addr) self.leaderAddr

/-- Pop the offline queue and hand each charge to the leader. -/
def flushOffline (address : SocketAddr) : List (Operation α) → Handler α (Replica α) Unit
  | [] => return ()
  | op :: rest => do
    modifySelf fun self => { self with offlineQueue := rest }
    handleRequest 0 op address
    flushOffline address rest

/-- An installed snapshot flushes the offline queue; any other completed operation
    acks the log entry after it. -/
def handleOperationResult (opId : OpId) (operation : Operation α)
    (_result : OperationResult α) : Handler α (Replica α) Unit := do
  let self ← getSelf
  match operation with
  | .replaceDatabase _ => flushOffline self.address self.offlineQueue
  | _ =>
    let next ← addOne opId
    send (.ack next) self.leaderAddr

def handleResponse (reqId : ReqId) (opResult : OperationResult α) :
    Handler α (Replica α) Unit := do
  if reqId = 0 then return ()
  match opResult with
  | .charge cr =>
    let (allowed, error) := Node.chargeVerdict cr
    tell (.chargeResult reqId allowed error)
  | _ => return ()

def handleRoleQuery [AddrHash] (addr : SocketAddr) : Handler α (Replica α) Unit := do
  let self ← getSelf
  send (.roleResponse (getIdGivenAddr self.address) .replica) addr

/-- Hand a stored operation to the database, if it is there. -/
def commitOperation (opId : OpId) : Handler α (Replica α) Unit := do
  let self ← getSelf
  match self.operations.lookup opId with
  | none => return ()
  | some op =>
    modifySelf fun self => { self with operations := self.operations.erase opId }
    execute opId op

/-- Store the log entry and commit the one before it; the first is acked right
    away. -/
def handleLog (opId : OpId) (newOp : Operation α) : Handler α (Replica α) Unit := do
  modifySelf fun self => { self with operations := self.operations.insert opId newOp }
  if opId = 1 then
    let self ← getSelf
    send (.ack 1) self.leaderAddr
    return ()
  if opId = 0 then panics "attempt to subtract with overflow"
  commitOperation (opId - 1)

def handleAck (_id : OpId) : Handler α (Replica α) Unit :=
  panics "not yet implemented"

def handleElection (candidateId : NodeId) (candidateAddr : SocketAddr) :
    Handler α (Replica α) RoleChange := do
  let self ← getSelf
  if candidateId < self.id then
    let _ ← errorOf (send (.electionOk self.id) candidateAddr)
    startElection
  else return .none

def handleElectionOk (_responderId : NodeId) : Handler α (Replica α) Unit :=
  modifySelf fun self => { self with electionInProgress := false, electionStart := none }

/-- Forward the join to the leader. -/
def handleJoin (addr : SocketAddr) : Handler α (Replica α) Unit := do
  let self ← getSelf
  send (.join addr) self.leaderAddr

def handleClusterUpdate (newMember : NodeId × SocketAddr) : Handler α (Replica α) Unit :=
  modifySelf fun self => { self with cluster := self.cluster.insert newMember.1 newMember.2 }

def handleClusterView [AddrHash] (members : List (NodeId × SocketAddr))
    (leaderAddr : SocketAddr) (snapshot : DatabaseSnapshot α) : Handler α (Replica α) Unit := do
  execute 0 (.replaceDatabase snapshot)
  modifySelf fun self => { self with
    cluster := members.foldl (fun cluster m => cluster.insert m.1 m.2) ∅
    leaderAddr := leaderAddr }
  let self ← getSelf
  if self.id < getIdGivenAddr leaderAddr then
    let _ ← startElection

/-- Two seconds without `ElectionOk`: self-promote. -/
def handleElectionTimeout : Handler α (Replica α) RoleChange := do
  let self ← getSelf
  if ¬ self.electionInProgress then return .none
  match self.electionStart with
  | none => return .none
  | some start =>
    if 2000 ≤ (← instantNow) - start then
      modifySelf fun self => { self with electionInProgress := false, electionStart := none }
      anounceCoordinator
    else return .none

instance [AddrHash] : Node α (Replica α) where
  isOffline := Replica.isOffline
  logOfflineOperation self op := { self with offlineQueue := self.offlineQueue ++ [op] }
  getAddress := Replica.address
  handleRequest := handleRequest
  handleResponse := handleResponse
  handleRoleQuery := handleRoleQuery
  handleLog := handleLog
  handleAck := handleAck
  handleOperationResult := handleOperationResult
  handleConnectionLostWith := handleConnectionLostWith
  handleDisconnectNode := handleDisconnectNode
  handleConnectNode := handleConnectNode
  handleElection := handleElection
  handleElectionOk := handleElectionOk
  handleCoordinator := handleCoordinator
  handleJoin := handleJoin
  handleClusterView := handleClusterView
  handleClusterUpdate := handleClusterUpdate
  handleElectionTimeout := handleElectionTimeout

/-- The highest known op id, or 1. -/
def lastOpId (self : Replica α) : OpId :=
  match self.operations.keys with
  | [] => 1
  | k :: ks => ks.foldl (fun a b => if a ≤ b then b else a) k

def intoLeader (self : Replica α) : Leader α :=
  Leader.fromExisting self.id self.lastOpId self.address self.cluster self.operations
    self.isOffline self.offlineQueue

def fromExisting (id : NodeId) (address leaderAddr : SocketAddr)
    (members : HashMap NodeId SocketAddr) (operations : HashMap OpId (Operation α))
    (isOffline : Bool) (offlineQueue : List (Operation α)) : Replica α where
  id := id
  address := address
  leaderAddr := leaderAddr
  cluster := members
  operations := operations
  isOffline := isOffline
  offlineQueue := offlineQueue
  electionInProgress := false
  electionStart := none

/-- The state `Replica::start` enters the main loop with. -/
def start [AddrHash] (address leaderAddr : SocketAddr) : Replica α where
  id := getIdGivenAddr address
  address := address
  leaderAddr := leaderAddr
  cluster := (∅ : HashMap NodeId SocketAddr).insert (getIdGivenAddr leaderAddr) leaderAddr
  operations := ∅
  isOffline := false
  offlineQueue := []
  electionInProgress := false
  electionStart := none

end Replica

/-- A demoted leader discards its pending operations. -/
def Leader.intoReplica {α : Type} (self : Leader α) (newLeaderAddr : SocketAddr) : Replica α :=
  Replica.fromExisting self.id self.address newLeaderAddr self.cluster ∅ self.isOffline
    self.offlineQueue

end YpfRuta.Server
