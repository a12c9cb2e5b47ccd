/-
  `run_node_runtime`: one node in whichever role it holds, turn by turn.
-/
import YpfRuta.Server.Replica

namespace YpfRuta.Server

inductive NodeRuntime (α : Type) where
  | leader (self : Leader α)
  | replica (self : Replica α)

namespace NodeRuntime

variable {α : Type}

/-- The role swap of the top-level loop. -/
def changeRole : RoleChange → NodeRuntime α → NodeRuntime α
  | .none, node => node
  | .promoteToLeader, .replica self => .leader self.intoLeader
  | .promoteToLeader, .leader self => .leader self
  | .demoteToReplica newLeaderAddr, .leader self => .replica (self.intoReplica newLeaderAddr)
  | .demoteToReplica _, .replica self => .replica self

def isOffline : NodeRuntime α → Bool
  | .leader self => self.isOffline
  | .replica self => self.isOffline

def offlineQueue : NodeRuntime α → List (Operation α)
  | .leader self => self.offlineQueue
  | .replica self => self.offlineQueue

/-- Both conversions hand the queue over. -/
theorem changeRole_offlineQueue (roleChange : RoleChange) (node : NodeRuntime α) :
    (node.changeRole roleChange).offlineQueue = node.offlineQueue := by
  cases roleChange <;> cases node <;> rfl

theorem changeRole_isOffline (roleChange : RoleChange) (node : NodeRuntime α) :
    (node.changeRole roleChange).isOffline = node.isOffline := by
  cases roleChange <;> cases node <;> rfl

/-- Run a role's handler on its own state, then swap roles as it asks. -/
def runAs {σ : Type} (role : σ → NodeRuntime α) (self : σ) (x : Handler α σ RoleChange) :
    Handler α (NodeRuntime α) Unit := fun t =>
  match x { t with self := self } with
  | .ok roleChange t' => .ok () { t' with self := (role t'.self).changeRole roleChange }
  | .error e t' => .error e { t' with self := role t'.self }

/-- One turn of the node's loop. -/
def turn [AddrHash] (event : Event α) : Handler α (NodeRuntime α) Unit := fun t =>
  match t.self with
  | .leader self => runAs .leader self (Node.runOnce event) t
  | .replica self => runAs .replica self (Node.runOnce event) t

end NodeRuntime

end YpfRuta.Server
