/-
  A cluster as one transition system: nodes at their addresses, a reliable FIFO
  link for each ordered pair of addresses, and a database for each node that may
  answer the commands it was given in any order, each at most once.

  A label picks what happens next; any list of labels is an interleaving. A node
  that faults or crashes takes no further step, and what it did stays on record.

  `outstanding` are the commands a node's database has not answered yet. The other
  lists of a node are history: the commands it sent, the messages links delivered
  to it, the ids `handle_request` stored requests under, and what each database
  result made it send and tell.
-/
import YpfRuta.Lib.Transition
import YpfRuta.Server.Runtime

namespace YpfRuta.Cluster

open Server

structure Answer (α : Type) where
  opId : OpId
  result : OperationResult α
  sent : List (SocketAddr × Message α)
  told : List NodeToStationMsg
  deriving DecidableEq

structure NodeState (α : Type) where
  runtime : NodeRuntime α
  connected : Bool
  down : Bool
  fault : Option Fault
  outstanding : List (OpId × Operation α)
  executed : List (OpId × Operation α)
  received : List (SocketAddr × Message α)
  assigned : List (OpId × PendingOperation α)
  answers : List (Answer α)

structure State (α : Type) where
  node : SocketAddr → Option (NodeState α)
  link : SocketAddr → SocketAddr → List (Message α)

inductive Label (α : Type) where
  /-- A client's request reaches node `dst`. -/
  | request (dst : SocketAddr) (reqId : ReqId) (op : Operation α) (addr : SocketAddr)
  /-- The station of node `dst` sends a command. -/
  | station (dst : SocketAddr) (msg : StationToNodeMsg α)
  /-- The oldest message from `src` to `dst` arrives. -/
  | deliver (src dst : SocketAddr)
  /-- The database of `dst` answers its `k`-th outstanding command. -/
  | result (dst : SocketAddr) (k : Nat) (r : OperationResult α)
  /-- Node `dst` notices that `addr` is gone. -/
  | lost (dst addr : SocketAddr)
  /-- The periodic election check of node `dst`, at time `now`. -/
  | check (dst : SocketAddr) (now : Nat)
  /-- Node `dst` stops. -/
  | crash (dst : SocketAddr)
  /-- An election makes `dst` leader. -/
  | promote (dst : SocketAddr)
  deriving DecidableEq

section Step

variable {α : Type}

/-- The handles a turn starts with. -/
def NodeState.task (n : NodeState α) (now : Nat) : Task α (NodeRuntime α) where
  self := n.runtime
  connected := n.connected
  outcomes := []
  now := now
  sent := []
  told := []
  commands := []

/-- How a turn ended, and the handles it left. -/
def ended : EStateM.Result Fault (Task α (NodeRuntime α)) Unit →
    Option Fault × Task α (NodeRuntime α)
  | .ok _ t => (none, t)
  | .error e t => (some e, t)

/-- The request a turn stores, under the id it gets. -/
def assignment : NodeRuntime α → Event α → List (OpId × PendingOperation α)
  | .leader self, .nodeMsg (.ok (.request reqId op addr)) =>
    [(self.currentOpId, .new op addr reqId)]
  | .leader self, .stationMsg (.chargeRequest accountId cardId amount requestId) =>
    if self.isOffline then []
    else [(self.currentOpId,
      .new (.charge accountId cardId amount false) self.address requestId)]
  | _, _ => []

/-- The answers a turn gives, from what it sent and told. -/
def answered (t : Task α (NodeRuntime α)) : Event α → List (Answer α)
  | .actorEvent (.operationResult opId _ result) => [⟨opId, result, t.sent, t.told⟩]
  | _ => []

/-- A node after one turn. -/
def NodeState.after (n : NodeState α) (event : Event α) (fault : Option Fault)
    (t : Task α (NodeRuntime α)) : NodeState α where
  runtime := t.self
  connected := t.connected
  down := fault.isSome
  fault := fault
  outstanding := n.outstanding ++ t.commands
  executed := n.executed ++ t.commands
  received := n.received
  assigned := n.assigned ++ assignment n.runtime event
  answers := n.answers ++ answered t event

/-- The messages a turn sent to one address. -/
def sentTo (dst : SocketAddr) (sent : List (SocketAddr × Message α)) : List (Message α) :=
  (sent.filter fun p => p.1 = dst).map fun p => p.2

namespace State

/-- Node `a`, in state `n`, takes the turn `event`. -/
def act [AddrHash] (s : State α) (a : SocketAddr) (n : NodeState α) (event : Event α)
    (now : Nat) : State α :=
  let e := ended (NodeRuntime.turn event (n.task now))
  { node := Function.update s.node a (some (n.after event e.1 e.2))
    link := fun src dst =>
      if src = a then s.link src dst ++ sentTo dst e.2.sent else s.link src dst }

def setNode (s : State α) (a : SocketAddr) (n : NodeState α) : State α where
  node := Function.update s.node a (some n)
  link := s.link

/-- Replace what is under way from `src` to `dst`. -/
def setLink (s : State α) (src dst : SocketAddr) (msgs : List (Message α)) : State α where
  node := s.node
  link := fun src' dst' => if src' = src ∧ dst' = dst then msgs else s.link src' dst'

/-- The state of a node that still runs. -/
def up (s : State α) (a : SocketAddr) : Option (NodeState α) :=
  (s.node a).filter fun n => !n.down

def step [AddrHash] (s : State α) : Label α → Option (State α)
  | .request dst reqId op addr =>
    (s.up dst).map fun n => s.act dst n (.nodeMsg (.ok (.request reqId op addr))) 0
  | .station dst msg => (s.up dst).map fun n => s.act dst n (.stationMsg msg) 0
  | .deliver src dst =>
    match s.up dst, s.link src dst with
    | some n, m :: rest =>
      some ((s.setLink src dst rest).act dst
        { n with received := n.received ++ [(src, m)] } (.nodeMsg (.ok m)) 0)
    | _, _ => none
  | .result dst k r =>
    match s.up dst with
    | some n =>
      match n.outstanding[k]? with
      | some (opId, operation) =>
        some (s.act dst { n with outstanding := n.outstanding.eraseIdx k }
          (.actorEvent (.operationResult opId operation r)) 0)
      | none => none
    | none => none
  | .lost dst addr =>
    (s.up dst).map fun n => s.act dst n (.nodeMsg (.error (.connectionLostWith addr))) 0
  | .check dst now => (s.up dst).map fun n => s.act dst n .electionCheck now
  | .crash dst =>
    (s.up dst).map fun n => s.setNode dst { n with down := true }
  | .promote dst =>
    (s.up dst).map fun n =>
      s.setNode dst { n with runtime := n.runtime.changeRole .promoteToLeader }

end State

/-- Runs of the cluster. -/
abbrev run [AddrHash] : State α → List (Label α) → Option (State α) := Lib.run State.step

end Step

end YpfRuta.Cluster
