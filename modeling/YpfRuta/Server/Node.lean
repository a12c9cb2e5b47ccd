/-
  The `Node` trait and its default methods (`server/src/node/node.rs`), with the
  helpers of `utils.rs` and `pending_operation.rs`.

  `DefaultHasher` is a parameter: a node id is what it gives for the node's ip
  and port, cut to 1..100000.
-/
import YpfRuta.Server.Handler

namespace YpfRuta.Server

/-- `DefaultHasher` over an address's ip and port. -/
class AddrHash where
  finish : SocketAddr → UInt64

def getIdGivenAddr [AddrHash] (addr : SocketAddr) : NodeId :=
  AddrHash.finish addr % 100000 + 1

/-- Signal to indicate whether a role change should occur. -/
inductive RoleChange where
  | none
  | promoteToLeader
  | demoteToReplica (newLeaderAddr : SocketAddr)
  deriving DecidableEq, Repr

structure PendingOperation (α : Type) where
  op : Operation α
  clientAddr : SocketAddr
  ackCount : Nat
  requestId : ReqId
  deriving DecidableEq

def PendingOperation.new {α : Type} (op : Operation α) (clientAddr : SocketAddr)
    (requestId : ReqId) : PendingOperation α :=
  { op, clientAddr, ackCount := 0, requestId }

/-- Events the database sends to the node. -/
inductive ActorEvent (α : Type) where
  | operationResult (opId : OpId) (operation : Operation α) (result : OperationResult α)
  | debug (text : String)

/-- What one turn of a node's main loop wakes up for. -/
inductive Event (α : Type) where
  | nodeMsg (msg : Except AppError (Message α))
  | stationMsg (msg : StationToNodeMsg α)
  | actorEvent (evt : ActorEvent α)
  | electionCheck

/-- The required methods of the trait. -/
class Node (α : outParam Type) (σ : Type) where
  isOffline : σ → Bool
  logOfflineOperation : σ → Operation α → σ
  getAddress : σ → SocketAddr
  handleRequest : ReqId → Operation α → SocketAddr → Handler α σ Unit
  handleResponse : ReqId → OperationResult α → Handler α σ Unit
  handleRoleQuery : SocketAddr → Handler α σ Unit
  handleLog : OpId → Operation α → Handler α σ Unit
  handleAck : OpId → Handler α σ Unit
  handleOperationResult : OpId → Operation α → OperationResult α → Handler α σ Unit
  handleConnectionLostWith : SocketAddr → Handler α σ RoleChange
  handleDisconnectNode : Handler α σ Unit
  handleConnectNode : Handler α σ Unit
  handleElection : NodeId → SocketAddr → Handler α σ RoleChange
  handleElectionOk : NodeId → Handler α σ Unit
  handleCoordinator : NodeId → SocketAddr → Handler α σ RoleChange
  handleJoin : SocketAddr → Handler α σ Unit
  handleClusterView : List (NodeId × SocketAddr) → SocketAddr → DatabaseSnapshot α →
    Handler α σ Unit
  handleClusterUpdate : NodeId × SocketAddr → Handler α σ Unit
  handleElectionTimeout : Handler α σ RoleChange

namespace Node

variable {α σ : Type} [Node α σ]

/-- Whether a charge was allowed, and the error the station is told otherwise. -/
def chargeVerdict : ChargeResult → Bool × Option VerifyError
  | .ok => (true, none)
  | .failed e => (false, some e)

/-- Dispatch an actor event. An error is only logged. -/
def handleActorEvent : ActorEvent α → Handler α σ Unit
  | .operationResult opId operation result => do
    let _ ← errorOf (handleOperationResult opId operation result)
  | .debug _ => return ()

/-- A charge from the local station: queued and granted at once while offline,
    handled as a request otherwise. -/
def handleChargeRequest (accountId : AccountId) (cardId : CardId) (amount : α)
    (requestId : ReqId) : Handler α σ RoleChange := do
  if isOffline (← getSelf) then
    modifySelf fun self => logOfflineOperation self (.charge accountId cardId amount true)
    tell (.chargeResult requestId true none)
    return .none
  handleRequest requestId (.charge accountId cardId amount false) (getAddress (← getSelf))
  return .none

def handleStationMsg : StationToNodeMsg α → Handler α σ RoleChange
  | .chargeRequest accountId cardId amount requestId =>
    handleChargeRequest accountId cardId amount requestId
  | .disconnectNode => do
    handleDisconnectNode
    return .none
  | .connectNode => do
    handleConnectNode
    return .none

/-- Dispatch a message from another node or a client. -/
def handleNodeMsg : Message α → Handler α σ RoleChange
  | .request reqId op addr => do
    handleRequest reqId op addr
    return .none
  | .log opId op => do
    handleLog opId op
    return .none
  | .ack opId => do
    handleAck opId
    return .none
  | .election candidateId candidateAddr => handleElection candidateId candidateAddr
  | .electionOk responderId => do
    handleElectionOk responderId
    return .none
  | .coordinator leaderId leaderAddr => handleCoordinator leaderId leaderAddr
  | .join addr => do
    handleJoin addr
    return .none
  | .clusterView members leaderAddr database => do
    handleClusterView members leaderAddr database
    return .none
  | .clusterUpdate newMember => do
    handleClusterUpdate newMember
    return .none
  | .response reqId opResult => do
    handleResponse reqId opResult
    return .none
  | .roleQuery addr => do
    handleRoleQuery addr
    return .none
  | .roleResponse .. => panics "not yet implemented"

/-- The `select!` of `run`: the handler of the event that came first. -/
def select : Event α → Handler α σ RoleChange
  | .nodeMsg (.ok msg) => handleNodeMsg msg
  | .nodeMsg (.error e) => throw (.err e)
  | .stationMsg msg => handleStationMsg msg
  | .actorEvent evt => do
    handleActorEvent evt
    return .none
  | .electionCheck => handleElectionTimeout

/-- One turn of `run`. A lost peer is handled and whatever that fails with is
    dropped, a lost or refused connection is skipped, other errors end the loop. -/
def runOnce (event : Event α) : Handler α σ RoleChange := fun t =>
  match select event t with
  | .ok roleChange t' => .ok roleChange t'
  | .error (.err (.connectionLostWith address)) t' =>
    match handleConnectionLostWith address t' with
    | .ok roleChange t'' => .ok roleChange t''
    | .error (.err _) t'' => .ok .none t''
    | .error (.panic message) t'' => .error (.panic message) t''
  | .error (.err .connectionLost) t' => .ok .none t'
  | .error (.err (.connectionRefused _)) t' => .ok .none t'
  | .error e t' => .error e t'

end Node

/-- Port `port` of the local machine. -/
def localAddr (port : UInt16) : SocketAddr := .v4 0x7F000001 port

/-- `DefaultHasher` on ports 5000 to 5002 of the local machine. -/
@[reducible] def localHash : AddrHash where
  finish addr :=
    if addr = localAddr 5000 then 1265621479440074650
    else if addr = localAddr 5001 then 14609617484844525379
    else if addr = localAddr 5002 then 14721993615760076094
    else 0

end YpfRuta.Server
