/-
  What a node exchanges with other nodes and clients
  (`common/src/network/message.rs`), with its station (`common/src/station.rs`)
  and what its connections fail with (`common/src/errors.rs`).
-/
import YpfRuta.Common.Operation

namespace YpfRuta

/-- Node id, derived from the node's address. -/
abbrev NodeId := UInt64

/-- Correlation id assigned by the requester. -/
abbrev ReqId := UInt32

inductive NodeRole where
  | leader
  | replica
  | station
  deriving DecidableEq, Repr

inductive Message (α : Type) where
  | request (reqId : ReqId) (op : Operation α) (addr : SocketAddr)
  | response (reqId : ReqId) (opResult : OperationResult α)
  | log (opId : OpId) (op : Operation α)
  | ack (opId : OpId)
  | election (candidateId : NodeId) (candidateAddr : SocketAddr)
  | electionOk (responderId : NodeId)
  | coordinator (leaderId : NodeId) (leaderAddr : SocketAddr)
  | join (addr : SocketAddr)
  | clusterView (members : List (NodeId × SocketAddr)) (leaderAddr : SocketAddr)
      (database : DatabaseSnapshot α)
  | clusterUpdate (newMember : NodeId × SocketAddr)
  | roleQuery (addr : SocketAddr)
  | roleResponse (nodeId : NodeId) (role : NodeRole)
  deriving DecidableEq, Repr

/-- Messages from the station simulator to the node. -/
inductive StationToNodeMsg (α : Type) where
  | chargeRequest (accountId : AccountId) (cardId : CardId) (amount : α) (requestId : ReqId)
  | disconnectNode
  | connectNode
  deriving DecidableEq, Repr

/-- Messages from the node to the station simulator. -/
inductive NodeToStationMsg where
  | chargeResult (requestId : ReqId) (allowed : Bool) (error : Option VerifyError)
  | debug (text : String)
  deriving DecidableEq, Repr

/-- The variants of `AppError` that reach a node's main loop. -/
inductive AppError where
  | connectionRefused (address : String)
  | connectionLostWith (address : SocketAddr)
  | connectionLost
  | channelClosed
  | invalidData (details : String)
  | invalidProtocol (details : String)
  deriving DecidableEq, Repr

end YpfRuta
