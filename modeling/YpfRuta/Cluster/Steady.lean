/-
  Steady replication: a leader and its replicas with full views, requests, log
  entries, acks and database results in any order, no failure and no role change.

  `Inv` is what every reachable state keeps. It pairs each replica's record with
  the two links between it and the leader: what a replica has logged followed by
  what is under way to it is the leader's log, and for each operation a replica
  owes, has under way or has delivered at most one ack.
-/
import Mathlib.Data.List.Perm.Subperm
import YpfRuta.Lib.Sums
import YpfRuta.Server.Turn
import YpfRuta.Cluster.System

namespace YpfRuta.Cluster

open Server Lib

variable {α : Type}

/-! ## Logs and acks on record and under way -/

/-- An operation a client may ask for: any but the one a join stands for. -/
def IsRequest (op : Operation α) : Prop := ∀ addr, op ≠ .getDatabase addr

/-- The steps of a run without failures and membership changes. -/
def Label.Steady : Label α → Prop
  | .request _ _ op _ => IsRequest op
  | .station _ (.chargeRequest ..) => True
  | .deliver .. => True
  | .result .. => True
  | _ => False

def asksSnapshot : Operation α → Bool
  | .getDatabase _ => true
  | _ => false

theorem asksSnapshot_eq_false (op : Operation α) : asksSnapshot op = false ↔ IsRequest op := by
  unfold IsRequest
  cases op <;> simp [asksSnapshot]

instance (op : Operation α) : Decidable (IsRequest op) :=
  decidable_of_iff _ (asksSnapshot_eq_false op)

instance (l : Label α) : Decidable l.Steady :=
  match l with
  | .request _ _ op _ => inferInstanceAs (Decidable (IsRequest op))
  | .station _ (.chargeRequest ..) => isTrue trivial
  | .deliver .. | .result .. => isTrue trivial
  | .station _ .disconnectNode | .station _ .connectNode | .lost .. | .check .. | .crash ..
  | .promote .. => isFalse id

def logEntry? : Message α → Option (OpId × Operation α)
  | .log opId op => some (opId, op)
  | _ => none

/-- The log entries among some messages. -/
def logsOf (msgs : List (Message α)) : List (OpId × Operation α) := msgs.filterMap logEntry?

def isAck (m : OpId) : Message α → Bool
  | .ack opId => opId == m
  | _ => false

/-- The acks for `m` among some messages. -/
def acksIn (msgs : List (Message α)) (m : OpId) : Nat := msgs.countP (isAck m)

namespace NodeState

/-- The operations a leader assigned ids to, in order. -/
def log (n : NodeState α) : List (OpId × Operation α) := n.assigned.map fun q => (q.1, q.2.op)

/-- The log entries a node handled, in order. -/
def logged (n : NodeState α) : List (OpId × Operation α) := logsOf (n.received.map fun p => p.2)

/-- The acks for `m` a node handled from `i`. -/
def acksFrom (n : NodeState α) (i : SocketAddr) (m : OpId) : Nat :=
  n.received.countP fun p => decide (p.1 = i) && isAck m p.2

/-- The acks for `m` a node handled from the replicas `rs`. -/
def acks (n : NodeState α) (rs : Keys SocketAddr) (m : OpId) : Nat :=
  rs.sum fun i => n.acksFrom i m

/-- The acks for `m` a node will send when its database answers. -/
def owed (n : NodeState α) (m : OpId) : Nat := n.outstanding.countP fun e => e.1 + 1 == m

/-- 1 when a node that logged entries 1, 2, … in order has logged `m`. -/
def logs (n : NodeState α) (m : OpId) : Nat :=
  if 1 ≤ m.toNat ∧ m.toNat ≤ n.logged.length then 1 else 0

/-- A node that has just started. -/
def start (runtime : NodeRuntime α) : NodeState α where
  runtime := runtime
  connected := true
  down := false
  fault := none
  outstanding := []
  executed := []
  received := []
  assigned := []
  answers := []

end NodeState

/-! ## The cluster a steady run starts from -/

/-- A cluster map that lists the leader and the replicas under their ids. -/
structure View [AddrHash] (cluster : HashMap NodeId SocketAddr) (leader : SocketAddr)
    (replicas : Keys SocketAddr) : Prop where
  ids : ∀ e ∈ cluster.entries, e.1 = getIdGivenAddr e.2
  members : ∀ a, a ∈ cluster.values ↔ a = leader ∨ a ∈ replicas

/-- A leader that has assigned nothing and replicas that have stored nothing. -/
structure Fresh [AddrHash] (s : State α) (leader : SocketAddr) (replicas : Keys SocketAddr) :
    Prop where
  apart : ¬ leader ∈ replicas
  leaderNode : ∃ self : Leader α, s.node leader = some (.start (.leader self)) ∧
    self.id = getIdGivenAddr leader ∧ self.address = leader ∧ self.currentOpId = 1 ∧
    self.operations = ∅ ∧ self.isOffline = false ∧ View self.cluster leader replicas
  replicaNode : ∀ i ∈ replicas, ∃ self : Replica α, s.node i = some (.start (.replica self)) ∧
    self.address = i ∧ self.leaderAddr = leader ∧ self.operations = ∅ ∧
    self.isOffline = false ∧ self.offlineQueue = []
  nobody : ∀ a, a ≠ leader → ¬ a ∈ replicas → s.node a = none
  links : ∀ a b, s.link a b = []

section ViewFacts

variable [AddrHash] {cluster : HashMap NodeId SocketAddr} {leader : SocketAddr}
  {replicas : Keys SocketAddr}

theorem values_nodup (h : ∀ e ∈ cluster.entries, e.1 = getIdGivenAddr e.2) :
    cluster.values.Nodup := by
  have hkeys : cluster.values.map getIdGivenAddr = cluster.keys := by
    unfold HashMap.values AList.keys List.keys
    rw [List.map_map]
    exact List.map_congr_left fun e he => (h e he).symm
  have hnodup : (cluster.values.map getIdGivenAddr).Nodup := hkeys ▸ cluster.keys_nodup
  exact hnodup.of_map

theorem View.perm (h : View cluster leader replicas) (hap : ¬ leader ∈ replicas) :
    cluster.values.Perm (leader :: replicas.toList) := by
  have hnodup : (leader :: replicas.toList).Nodup := List.nodup_cons.mpr ⟨hap, replicas.nodup⟩
  refine (List.perm_ext_iff_of_nodup (values_nodup h.ids) hnodup).mpr fun a => ?_
  rw [h.members a, List.mem_cons]
  exact Iff.rfl

theorem View.len (h : View cluster leader replicas) (hap : ¬ leader ∈ replicas) :
    cluster.len = replicas.toList.length + 1 := by
  have hl := (h.perm hap).length_eq
  unfold HashMap.values at hl
  rw [List.length_map, List.length_cons] at hl
  exact hl

theorem getIdGivenAddr_toNat (addr : SocketAddr) :
    1 ≤ (getIdGivenAddr addr).toNat ∧ (getIdGivenAddr addr).toNat ≤ 100000 := by
  have hmod : (AddrHash.finish addr % 100000).toNat < 100000 := by
    rw [UInt64.toNat_mod]
    exact Nat.mod_lt _ (by decide)
  unfold getIdGivenAddr
  rw [UInt64.toNat_add, show (1 : UInt64).toNat = 1 from rfl]
  omega

/-- Ids are at most 100000, so a cluster has at most that many members. -/
theorem View.len_le (h : View cluster leader replicas) : cluster.len ≤ 100000 := by
  have hid : ∀ e ∈ cluster.entries, 1 ≤ e.1.toNat ∧ e.1.toNat ≤ 100000 := fun e he => by
    rw [h.ids e he]
    exact getIdGivenAddr_toNat e.2
  have hnodup : (cluster.entries.map fun e => e.1.toNat - 1).Nodup := by
    refine (List.nodup_map_iff_inj_on (List.Nodup.of_map _ cluster.keys_nodup)).mpr ?_
    intro e he f hf hef
    have he' := hid e he
    have hf' := hid f hf
    have hk : e.1 = f.1 := UInt64.toNat_inj.mp (by omega)
    exact List.inj_on_of_nodup_map cluster.keys_nodup he hf hk
  have hsub : (cluster.entries.map fun e => e.1.toNat - 1) ⊆ List.range 100000 := by
    intro k hk
    obtain ⟨e, he, rfl⟩ := List.mem_map.mp hk
    have he' := hid e he
    exact List.mem_range.mpr (by omega)
  have hle := (hnodup.subperm hsub).length_le
  rw [List.length_map, List.length_range] at hle
  exact hle

/-- The quorum of a full view: half the members, rounded down. -/
theorem View.quorum (h : View cluster leader replicas) (hap : ¬ leader ∈ replicas) :
    quorum cluster.len = (replicas.toList.length + 1) / 2 := by
  have hle := h.len_le
  unfold Server.quorum
  rw [f32HalfPred_eq (by omega), h.len hap]

/-- The leader replicates to its replicas, once each. -/
theorem View.peers {self : Leader α} (h : View self.cluster leader replicas)
    (hid : self.id = getIdGivenAddr leader) (hap : ¬ leader ∈ replicas) :
    self.peers.Perm replicas.toList := by
  have hown : leader ∈ self.cluster.values := (h.members leader).mpr (Or.inl rfl)
  obtain ⟨own, hmem, heq⟩ := List.mem_map.mp hown
  have hkey : ∀ e ∈ self.cluster.entries, e.1 = self.id ↔ e.2 = leader := by
    intro e he
    constructor
    · intro hk
      have hsame : e.1 = own.1 := by rw [hk, hid, h.ids own hmem, heq]
      have : e = own := List.inj_on_of_nodup_map self.cluster.keys_nodup he hmem hsame
      rw [this, heq]
    · intro hv
      rw [h.ids e he, hv, hid]
  have hpeers : self.peers = self.cluster.values.filter fun a => ¬ a = leader := by
    unfold Leader.peers HashMap.values
    rw [List.filter_map, List.filter_map, List.map_map]
    have hfilter : self.cluster.entries.filter
        ((fun p : NodeId × SocketAddr => decide (¬ p.1 = self.id)) ∘ fun e => (e.1, e.2)) =
        self.cluster.entries.filter ((fun a => decide (¬ a = leader)) ∘ fun e => e.2) :=
      List.filter_congr fun e he => by simp [hkey e he]
    rw [hfilter]
    rfl
  rw [hpeers]
  have hperm := (h.perm hap).filter fun a => decide (¬ a = leader)
  have hrest : (leader :: replicas.toList).filter (fun a => decide (¬ a = leader)) =
      replicas.toList := by
    rw [List.filter_cons_of_neg (by simp)]
    exact List.filter_eq_self.mpr fun a ha => by
      simp only [decide_eq_true_eq]
      rintro rfl
      exact hap ha
  rw [hrest] at hperm
  exact hperm

end ViewFacts

end YpfRuta.Cluster
