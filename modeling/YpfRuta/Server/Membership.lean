/-
  The membership handlers of both roles, and the handlers that only panic, in
  closed form for a connected node whose sends succeed.
-/
import YpfRuta.Server.Elections

namespace YpfRuta.Server

variable {α : Type}

/-- The cluster map a view gives. -/
def viewed (members : List (NodeId × SocketAddr)) : HashMap NodeId SocketAddr :=
  members.foldl (fun cluster m => cluster.insert m.1 m.2) ∅

namespace Leader

variable {t : Task α (Leader α)}

/-- The leader without a peer it lost. -/
def lose [AddrHash] (self : Leader α) (addr : SocketAddr) : Leader α :=
  { self with cluster := self.cluster.erase (getIdGivenAddr addr) }

/-- The leader with a member that joined. -/
def enroll [AddrHash] (self : Leader α) (addr : SocketAddr) : Leader α :=
  { self with cluster := self.cluster.insert (getIdGivenAddr addr) addr }

/-- What the other members are told of one that joined. -/
def updates [AddrHash] (self : Leader α) (addr : SocketAddr) : List (SocketAddr × Message α) :=
  ((self.enroll addr).cluster.values.filter fun a => ¬ (a = self.address ∨ a = addr)).map
    fun a => (a, .clusterUpdate (getIdGivenAddr addr, addr))

theorem handleConnectionLostWith_ok [AddrHash] (addr : SocketAddr) :
    handleConnectionLostWith addr t = .ok .none { t with self := t.self.lose addr } := rfl

theorem handleJoin_ok [AddrHash] (hrel : t.Reliable) (addr : SocketAddr) :
    handleJoin addr t = .ok () { t with
      self := t.self.enroll addr
      sent := t.sent ++ t.self.updates addr
      commands := t.commands ++ [(0, .getDatabase addr)] } := by
  unfold handleJoin
  rw [bind_execute, bind_modifySelf, bind_getSelf]
  have hrel' : ({ t with
      self := t.self.enroll addr
      commands := t.commands ++ [(0, .getDatabase addr)] } : Task α (Leader α)).Reliable :=
    ⟨hrel.connected, hrel.outcomes⟩
  exact forEach_send_ok hrel' (fun a => a = t.self.address ∨ a = addr)
    (.clusterUpdate (getIdGivenAddr addr, addr)) (fun a => a) (t.self.enroll addr).cluster.values

theorem handleClusterView_ok (hrel : t.Reliable) (members : List (NodeId × SocketAddr))
    (leaderAddr : SocketAddr) (snapshot : DatabaseSnapshot α) :
    handleClusterView members leaderAddr snapshot t = .ok () { t with
      self := (elect { t.self with cluster := viewed members } t.now).1
      sent := t.sent ++ (elect { t.self with cluster := viewed members } t.now).2
      commands := t.commands ++ [(0, .replaceDatabase snapshot)] } := by
  unfold handleClusterView
  rw [bind_execute, bind_modifySelf]
  have hrel' : ({ t with
      self := { t.self with cluster := viewed members }
      commands := t.commands ++ [(0, .replaceDatabase snapshot)] } : Task α (Leader α)).Reliable :=
    ⟨hrel.connected, hrel.outcomes⟩
  exact bind_ok (startElection_ok hrel')

theorem handleRoleQuery_ok [AddrHash] (hrel : t.Reliable) (addr : SocketAddr) :
    handleRoleQuery addr t = .ok () { t with
      sent := t.sent ++ [(addr, .roleResponse (getIdGivenAddr t.self.address) .leader)] } := by
  unfold handleRoleQuery
  rw [bind_getSelf, send_ok hrel]

/-- Acks with an empty cluster map: the size test underflows. -/
theorem handleAck_panics {opId : OpId} {stored : PendingOperation α}
    (h : t.self.operations.lookup opId = some stored)
    (hq : stored.ackCount + 1 ≠ quorum t.self.cluster.len) (hlen : t.self.cluster.len = 0) :
    handleAck opId t = .error (.panic "attempt to subtract with overflow")
      { t with self := t.self.count opId stored } := by
  unfold handleAck
  rw [bind_getSelf, h]
  dsimp only
  have hsub : subOne (α := α) (σ := Leader α) t.self.cluster.len =
      panics "attempt to subtract with overflow" := if_pos hlen
  rw [bind_modifySelf, if_pos hq, hsub]
  rfl

end Leader

namespace Replica

variable {t : Task α (Replica α)}

/-- The replica without a peer it lost, if it knew it. -/
def lose [AddrHash] (self : Replica α) (addr : SocketAddr) : Replica α :=
  if (self.cluster.lookup (getIdGivenAddr addr)).isSome then
    { self with cluster := retainMembers self.cluster addr }
  else self

/-- The replica with a member it was told of. -/
def enroll (self : Replica α) (newMember : NodeId × SocketAddr) : Replica α :=
  { self with cluster := self.cluster.insert newMember.1 newMember.2 }

/-- Losing the leader starts an election. -/
theorem handleConnectionLostWith_ok [AddrHash] (hrel : t.Reliable) (addr : SocketAddr) :
    handleConnectionLostWith addr t =
      if addr = t.self.leaderAddr then
        .ok ((t.self.lose addr).elect t.now).1 { t with
          self := ((t.self.lose addr).elect t.now).2.1
          sent := t.sent ++ ((t.self.lose addr).elect t.now).2.2 }
      else .ok .none { t with self := t.self.lose addr } := by
  have hrest : ∀ self' : Replica α,
      (if addr = t.self.leaderAddr then startElection else pure RoleChange.none)
        ({ t with self := self' } : Task α (Replica α)) =
      if addr = t.self.leaderAddr then
        .ok (self'.elect t.now).1 { t with
          self := (self'.elect t.now).2.1, sent := t.sent ++ (self'.elect t.now).2.2 }
      else .ok .none { t with self := self' } := by
    intro self'
    split
    · exact startElection_ok (t := { t with self := self' }) ⟨hrel.connected, hrel.outcomes⟩
    · rfl
  unfold handleConnectionLostWith lose
  rw [bind_getSelf]
  split
  · exact hrest { t.self with cluster := retainMembers t.self.cluster addr }
  · exact hrest t.self

theorem handleJoin_ok (hrel : t.Reliable) (addr : SocketAddr) :
    handleJoin addr t =
      .ok () { t with sent := t.sent ++ [(t.self.leaderAddr, .join addr)] } := by
  unfold handleJoin
  rw [bind_getSelf, send_ok hrel]

theorem handleRoleQuery_ok [AddrHash] (hrel : t.Reliable) (addr : SocketAddr) :
    handleRoleQuery addr t = .ok () { t with
      sent := t.sent ++ [(addr, .roleResponse (getIdGivenAddr t.self.address) .replica)] } := by
  unfold handleRoleQuery
  rw [bind_getSelf, send_ok hrel]

/-- The replica once it has installed a view. -/
def install (self : Replica α) (members : List (NodeId × SocketAddr)) (leaderAddr : SocketAddr) :
    Replica α :=
  { self with cluster := viewed members, leaderAddr := leaderAddr }

/-- A view from a leader with a higher id starts an election, whose role change is
    dropped. -/
theorem handleClusterView_ok [AddrHash] (hrel : t.Reliable) (members : List (NodeId × SocketAddr))
    (leaderAddr : SocketAddr) (snapshot : DatabaseSnapshot α) :
    handleClusterView members leaderAddr snapshot t =
      if t.self.id < getIdGivenAddr leaderAddr then
        .ok () { t with
          self := ((t.self.install members leaderAddr).elect t.now).2.1
          sent := t.sent ++ ((t.self.install members leaderAddr).elect t.now).2.2
          commands := t.commands ++ [(0, .replaceDatabase snapshot)] }
      else
        .ok () { t with
          self := t.self.install members leaderAddr
          commands := t.commands ++ [(0, .replaceDatabase snapshot)] } := by
  have hrel' : ({ t with
      self := t.self.install members leaderAddr
      commands := t.commands ++ [(0, .replaceDatabase snapshot)] } : Task α (Replica α)).Reliable :=
    ⟨hrel.connected, hrel.outcomes⟩
  unfold handleClusterView
  rw [bind_execute, bind_modifySelf, bind_getSelf]
  show (if t.self.id < getIdGivenAddr leaderAddr then
    startElection >>= fun _ => pure () else pure ()) _ = _
  split
  · exact bind_ok (startElection_ok hrel')
  · rfl

/-- Log entry 0 is stored, then its predecessor underflows. -/
theorem handleLog_zero (op : Operation α) :
    handleLog 0 op t = .error (.panic "attempt to subtract with overflow")
      { t with self := t.self.store 0 op } := by
  unfold handleLog
  rw [bind_modifySelf, if_neg (by decide), if_pos rfl]
  rfl

/-- The id after the last one: the ack's increment panics. -/
theorem handleOperationResult_overflow {opId : OpId} {operation : Operation α}
    (hop : ∀ snapshot, operation ≠ .replaceDatabase snapshot)
    (hs : ¬ opId.toNat + 1 < UInt32.size) (result : OperationResult α) :
    handleOperationResult opId operation result t =
      .error (.panic "attempt to add with overflow") t := by
  have hnext : addOne (α := α) (σ := Replica α) opId = panics "attempt to add with overflow" :=
    if_neg hs
  unfold handleOperationResult
  rw [bind_getSelf]
  cases operation with
  | replaceDatabase snapshot => exact absurd rfl (hop snapshot)
  | _ =>
    dsimp only
    rw [hnext]
    rfl

/-- What a replica that has installed a snapshot hands to its leader. -/
def queued (self : Replica α) : List (SocketAddr × Message α) :=
  self.offlineQueue.map fun op => (self.leaderAddr, .request 0 op self.address)

theorem flushOffline_ok (hrel : t.Reliable) (address : SocketAddr) (q : List (Operation α))
    (hq : t.self.offlineQueue = q) :
    flushOffline address q t = .ok () { t with
      self := { t.self with offlineQueue := [] }
      sent := t.sent ++ q.map fun op => (t.self.leaderAddr, .request 0 op address) } := by
  induction q generalizing t with
  | nil =>
    show EStateM.Result.ok () t = _
    rw [List.map_nil, List.append_nil, ← hq]
  | cons op q ih =>
    unfold flushOffline
    rw [bind_modifySelf]
    have hsend := handleRequest_ok (t := { t with self := { t.self with offlineQueue := q } })
      ⟨hrel.connected, hrel.outcomes⟩ 0 op address
    have hrest := ih (t := { t with
      self := { t.self with offlineQueue := q }
      sent := t.sent ++ [(t.self.leaderAddr, .request 0 op address)] })
      ⟨hrel.connected, hrel.outcomes⟩ rfl
    rw [bind_ok hsend, hrest, List.append_assoc]
    rfl

theorem handleOperationResult_flushes (hrel : t.Reliable) (opId : OpId)
    (snapshot : DatabaseSnapshot α) (result : OperationResult α) :
    handleOperationResult opId (.replaceDatabase snapshot) result t = .ok () { t with
      self := { t.self with offlineQueue := [] }
      sent := t.sent ++ t.self.queued } := by
  unfold handleOperationResult
  rw [bind_getSelf]
  exact flushOffline_ok hrel t.self.address t.self.offlineQueue rfl

end Replica

end YpfRuta.Server
