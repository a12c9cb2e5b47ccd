/-
  What one turn of a connected node does when its sends succeed: one lemma for
  each handler the replication traffic goes through, and the turn around it.
-/
import YpfRuta.Server.Runtime

namespace YpfRuta.Server

variable {α : Type}

section Primitives

variable {σ β γ : Type} {t : Task α σ}

theorem bind_getSelf (f : σ → Handler α σ γ) : (getSelf >>= f) t = f t.self t := rfl

theorem bind_modifySelf (g : σ → σ) (f : Unit → Handler α σ γ) :
    (modifySelf g >>= f) t = f () { t with self := g t.self } := rfl

theorem bind_execute (opId : OpId) (op : Operation α) (f : Unit → Handler α σ γ) :
    (execute opId op >>= f) t = f () { t with commands := t.commands ++ [(opId, op)] } := rfl

theorem tell_ok (msg : NodeToStationMsg) :
    (tell msg : Handler α σ Unit) t = .ok () { t with told := t.told ++ [msg] } := rfl

theorem bind_pure (b : β) (f : β → Handler α σ γ) : ((pure b : Handler α σ β) >>= f) t = f b t :=
  rfl

theorem bind_send (h : t.Reliable) (msg : Message α) (addr : SocketAddr)
    (f : Unit → Handler α σ γ) :
    (send msg addr >>= f) t = f () { t with sent := t.sent ++ [(addr, msg)] } :=
  bind_ok (send_ok h msg addr)

end Primitives

namespace Leader

variable {t : Task α (Leader α)}

/-- The addresses `handle_request` replicates to. -/
def peers (self : Leader α) : List SocketAddr :=
  ((self.cluster.entries.map fun e => (e.1, e.2)).filter fun p => ¬ p.1 = self.id).map
    fun p => p.2

/-- The request stored under the current op id. -/
def store (self : Leader α) (reqId : ReqId) (op : Operation α) (addr : SocketAddr) : Leader α :=
  { self with operations := self.operations.insert self.currentOpId (.new op addr reqId) }

theorem handleRequest_lone (h : t.self.cluster.len = 1) (reqId : ReqId) (op : Operation α)
    (addr : SocketAddr) :
    handleRequest reqId op addr t = .ok () { t with
      self := t.self.store reqId op addr
      commands := t.commands ++ [(t.self.currentOpId, op)] } := by
  unfold handleRequest
  rw [bind_modifySelf, bind_getSelf, if_pos h]
  rfl

theorem replicate_ok (hrel : t.Reliable) (self : Leader α) (opId : OpId) (op : Operation α) :
    forEach (fun peer : NodeId × SocketAddr =>
      if peer.1 = self.id then pure () else send (.log opId op) peer.2)
      (self.cluster.entries.map fun e => (e.1, e.2)) t =
      .ok () { t with sent := t.sent ++ self.peers.map fun a => (a, .log opId op) } := by
  rw [forEach_send_ok hrel (fun peer : NodeId × SocketAddr => peer.1 = self.id), peers,
    List.map_map]
  rfl

theorem handleRequest_replicated (hrel : t.Reliable) (h : t.self.cluster.len ≠ 1)
    (hs : t.self.currentOpId.toNat + 1 < UInt32.size) (reqId : ReqId) (op : Operation α)
    (addr : SocketAddr) :
    handleRequest reqId op addr t = .ok () { t with
      self := { t.self.store reqId op addr with currentOpId := t.self.currentOpId + 1 }
      sent := t.sent ++ t.self.peers.map fun a => (a, .log t.self.currentOpId op) } := by
  unfold handleRequest
  rw [bind_modifySelf, bind_getSelf, if_neg h]
  have hsent := replicate_ok (t := { t with self := t.self.store reqId op addr })
    ⟨hrel.connected, hrel.outcomes⟩ (t.self.store reqId op addr) t.self.currentOpId op
  refine (bind_ok hsent).trans ?_
  have hnext : addOne (α := α) (σ := Leader α) t.self.currentOpId =
      pure (t.self.currentOpId + 1) := if_pos hs
  show ((addOne t.self.currentOpId : Handler α (Leader α) OpId) >>= _) _ = _
  rw [hnext]
  rfl

/-- The id after the last one: the request is replicated, then the increment
    panics. -/
theorem handleRequest_overflow (hrel : t.Reliable) (h : t.self.cluster.len ≠ 1)
    (hs : ¬ t.self.currentOpId.toNat + 1 < UInt32.size) (reqId : ReqId) (op : Operation α)
    (addr : SocketAddr) :
    handleRequest reqId op addr t = .error (.panic "attempt to add with overflow") { t with
      self := t.self.store reqId op addr
      sent := t.sent ++ t.self.peers.map fun a => (a, .log t.self.currentOpId op) } := by
  unfold handleRequest
  rw [bind_modifySelf, bind_getSelf, if_neg h]
  have hsent := replicate_ok (t := { t with self := t.self.store reqId op addr })
    ⟨hrel.connected, hrel.outcomes⟩ (t.self.store reqId op addr) t.self.currentOpId op
  refine (bind_ok hsent).trans ?_
  have hnext : addOne (α := α) (σ := Leader α) t.self.currentOpId =
      panics "attempt to add with overflow" := if_neg hs
  show ((addOne t.self.currentOpId : Handler α (Leader α) OpId) >>= _) _ = _
  rw [hnext]
  rfl

/-- The leader with one more ack counted for `opId`. -/
def count (self : Leader α) (opId : OpId) (stored : PendingOperation α) : Leader α :=
  { self with operations :=
      self.operations.insert opId { stored with ackCount := stored.ackCount + 1 } }

theorem handleAck_unknown {opId : OpId} (h : t.self.operations.lookup opId = none) :
    handleAck opId t = .ok () t := by
  unfold handleAck
  rw [bind_getSelf, h]
  rfl

theorem handleAck_executes {opId : OpId} {stored : PendingOperation α}
    (h : t.self.operations.lookup opId = some stored)
    (hq : stored.ackCount + 1 = quorum t.self.cluster.len ∨ t.self.cluster.len = 2) :
    handleAck opId t = .ok () { t with
      self := t.self.count opId stored
      commands := t.commands ++ [(opId, stored.op)] } := by
  unfold handleAck
  rw [bind_getSelf, h]
  dsimp only
  rw [bind_modifySelf]
  by_cases hc : stored.ackCount + 1 = quorum t.self.cluster.len
  · rw [if_neg (not_not_intro hc)]
    rfl
  · have hlen : t.self.cluster.len = 2 := hq.resolve_left hc
    have hsub : subOne (α := α) (σ := Leader α) t.self.cluster.len = pure 1 := by
      rw [hlen]
      rfl
    rw [if_pos hc, hsub]
    rfl

theorem handleAck_waits {opId : OpId} {stored : PendingOperation α}
    (h : t.self.operations.lookup opId = some stored)
    (hq : stored.ackCount + 1 ≠ quorum t.self.cluster.len) (hlen : t.self.cluster.len ≠ 2)
    (hpos : t.self.cluster.len ≠ 0) :
    handleAck opId t = .ok () { t with self := t.self.count opId stored } := by
  unfold handleAck
  rw [bind_getSelf, h]
  dsimp only
  have hsub : subOne (α := α) (σ := Leader α) t.self.cluster.len =
      pure (t.self.cluster.len - 1) := if_neg hpos
  have hne : t.self.cluster.len - 1 ≠ 1 := by omega
  rw [bind_modifySelf, if_pos hq, hsub, bind_pure, if_pos hne]
  rfl

/-- What a leader answers for a result: the messages it sends and what it tells
    its station. -/
def reply (self : Leader α) (pending : PendingOperation α) (operation : Operation α)
    (result : OperationResult α) : List (SocketAddr × Message α) × List NodeToStationMsg :=
  match operation with
  | .getDatabase addr =>
    match result with
    | .databaseSnapshot snapshot =>
      ([(addr, .clusterView (self.cluster.entries.map fun e => (e.1, e.2)) self.address snapshot)],
        [])
    | _ => ([], [])
  | .replaceDatabase _ => ([], [])
  | op =>
    if pending.clientAddr = self.address then
      match op, result with
      | .charge .., .charge chargeRes =>
        ([], [.chargeResult pending.requestId (Node.chargeVerdict chargeRes).1
          (Node.chargeVerdict chargeRes).2])
      | _, _ => ([], [])
    else ([(pending.clientAddr, .response pending.requestId result)], [])

/-- The entry a result is answered from. -/
theorem takePending_ok {opId : OpId} {pending : PendingOperation α} (hid : opId ≠ 0)
    (h : t.self.operations.lookup opId = some pending) (operation : Operation α) :
    takePending opId operation t = .ok pending { t with
      self := { t.self with operations := t.self.operations.erase opId } } := by
  unfold takePending
  rw [bind_getSelf, if_pos hid, h]
  rfl

theorem takePending_panics {opId : OpId} (hid : opId ≠ 0)
    (h : t.self.operations.lookup opId = none) (operation : Operation α) :
    takePending opId operation t =
      .error (.panic "leader received the result of an unexisting operation") t := by
  unfold takePending
  rw [bind_getSelf, if_pos hid, h]
  rfl

theorem takePending_zero (operation : Operation α) :
    takePending 0 operation t = .ok ⟨operation, t.self.address, 0, 0⟩ t := rfl

theorem handleOperationResult_ok {t' : Task α (Leader α)}
    {opId : OpId} {operation : Operation α} {pending : PendingOperation α}
    (htake : takePending opId operation t = .ok pending t') (hrel : t'.Reliable)
    (result : OperationResult α) :
    handleOperationResult opId operation result t = .ok () { t' with
      sent := t'.sent ++ (t'.self.reply pending operation result).1
      told := t'.told ++ (t'.self.reply pending operation result).2 } := by
  unfold handleOperationResult
  rw [bind_ok htake, bind_getSelf]
  cases operation with
  | getDatabase addr =>
    cases result with
    | databaseSnapshot snapshot =>
      dsimp only
      rw [bind_ok (errorOf_send_ok hrel _ _)]
      simp [reply, pure, EStateM.pure]
    | _ => simp [reply, pure, EStateM.pure]
  | replaceDatabase snapshot => simp [reply, pure, EStateM.pure]
  | charge accountId cardId amount fromOfflineStation =>
    dsimp only
    by_cases hc : pending.clientAddr = t'.self.address
    · rw [if_pos hc]
      cases result <;> simp [reply, hc, pure, EStateM.pure, tell_ok]
    · rw [if_neg hc, send_ok hrel]
      simp [reply, hc]
  | _ =>
    dsimp only
    by_cases hc : pending.clientAddr = t'.self.address
    · rw [if_pos hc]
      simp [reply, hc, pure, EStateM.pure]
    · rw [if_neg hc, send_ok hrel]
      simp [reply, hc]

end Leader

namespace Replica

variable {t : Task α (Replica α)}

theorem handleRequest_ok (hrel : t.Reliable) (reqId : ReqId) (op : Operation α)
    (addr : SocketAddr) :
    handleRequest reqId op addr t = .ok () { t with
      sent := t.sent ++ [(t.self.leaderAddr, .request reqId op addr)] } := by
  unfold handleRequest
  rw [bind_getSelf, send_ok hrel]

/-- What a replica tells its station for a response. -/
def verdict (reqId : ReqId) (result : OperationResult α) : List NodeToStationMsg :=
  if reqId = 0 then []
  else
    match result with
    | .charge cr => [.chargeResult reqId (Node.chargeVerdict cr).1 (Node.chargeVerdict cr).2]
    | _ => []

theorem handleResponse_ok (reqId : ReqId) (result : OperationResult α) :
    handleResponse reqId result t = .ok () { t with told := t.told ++ verdict reqId result } := by
  unfold handleResponse
  by_cases h : reqId = 0
  · rw [if_pos h]
    simp [verdict, h, pure, EStateM.pure]
  · rw [if_neg h]
    cases result <;> simp [verdict, h, pure, EStateM.pure, tell_ok]

/-- A replica that has stored one more log entry. -/
def store (self : Replica α) (opId : OpId) (op : Operation α) : Replica α :=
  { self with operations := self.operations.insert opId op }

theorem handleLog_first (hrel : t.Reliable) (op : Operation α) :
    handleLog 1 op t = .ok () { t with
      self := t.self.store 1 op
      sent := t.sent ++ [(t.self.leaderAddr, .ack 1)] } := by
  have hrel' : ({ t with self := t.self.store 1 op } : Task α (Replica α)).Reliable :=
    ⟨hrel.connected, hrel.outcomes⟩
  unfold handleLog
  rw [bind_modifySelf, if_pos rfl, bind_getSelf]
  exact bind_send hrel' _ _ _

theorem commitOperation_some {opId : OpId} {op : Operation α}
    (h : t.self.operations.lookup opId = some op) :
    commitOperation opId t = .ok () { t with
      self := { t.self with operations := t.self.operations.erase opId }
      commands := t.commands ++ [(opId, op)] } := by
  unfold commitOperation
  rw [bind_getSelf, h]
  rfl

theorem commitOperation_none {opId : OpId} (h : t.self.operations.lookup opId = none) :
    commitOperation opId t = .ok () t := by
  unfold commitOperation
  rw [bind_getSelf, h]
  rfl

/-- A log entry whose predecessor is stored commits it. -/
theorem handleLog_commits {opId : OpId} {op prev : Operation α} (h0 : opId ≠ 0) (h1 : opId ≠ 1)
    (hprev : (t.self.store opId op).operations.lookup (opId - 1) = some prev) :
    handleLog opId op t = .ok () { t with
      self := { t.self with operations := (t.self.store opId op).operations.erase (opId - 1) }
      commands := t.commands ++ [(opId - 1, prev)] } := by
  unfold handleLog
  rw [bind_modifySelf, if_neg h1, if_neg h0]
  exact commitOperation_some (t := { t with self := t.self.store opId op }) hprev

/-- A log entry whose predecessor is unknown is only stored. -/
theorem handleLog_stores {opId : OpId} {op : Operation α} (h0 : opId ≠ 0) (h1 : opId ≠ 1)
    (hprev : (t.self.store opId op).operations.lookup (opId - 1) = none) :
    handleLog opId op t = .ok () { t with self := t.self.store opId op } := by
  unfold handleLog
  rw [bind_modifySelf, if_neg h1, if_neg h0]
  exact commitOperation_none (t := { t with self := t.self.store opId op }) hprev

theorem handleOperationResult_ack (hrel : t.Reliable) {opId : OpId} {operation : Operation α}
    (hop : ∀ snapshot, operation ≠ .replaceDatabase snapshot)
    (hs : opId.toNat + 1 < UInt32.size) (result : OperationResult α) :
    handleOperationResult opId operation result t = .ok () { t with
      sent := t.sent ++ [(t.self.leaderAddr, .ack (opId + 1))] } := by
  have hnext : addOne (α := α) (σ := Replica α) opId = pure (opId + 1) := if_pos hs
  unfold handleOperationResult
  rw [bind_getSelf]
  cases operation with
  | replaceDatabase snapshot => exact absurd rfl (hop snapshot)
  | _ =>
    dsimp only
    rw [hnext, bind_pure, send_ok hrel]

/-- An installed snapshot with nothing queued does nothing. -/
theorem handleOperationResult_installed (hq : t.self.offlineQueue = [])
    (opId : OpId) (snapshot : DatabaseSnapshot α) (result : OperationResult α) :
    handleOperationResult opId (.replaceDatabase snapshot) result t = .ok () t := by
  unfold handleOperationResult
  rw [bind_getSelf, hq]
  rfl

end Replica

/-! ## The turn around a handler -/

/-- The events that make an online node at address `own` handle a request. -/
inductive Asks (own : SocketAddr) : Event α → ReqId → Operation α → SocketAddr → Prop where
  | client (reqId : ReqId) (op : Operation α) (addr : SocketAddr) :
      Asks own (.nodeMsg (.ok (.request reqId op addr))) reqId op addr
  | station (accountId : AccountId) (cardId : CardId) (amount : α) (requestId : ReqId) :
      Asks own (.stationMsg (.chargeRequest accountId cardId amount requestId)) requestId
        (.charge accountId cardId amount false) own

theorem select_asks {σ : Type} [Node α σ] {t : Task α σ} {event : Event α} {reqId : ReqId}
    {op : Operation α} {addr : SocketAddr} (h : Asks (Node.getAddress t.self) event reqId op addr)
    (hon : Node.isOffline t.self = false) :
    Node.select event t =
      (Node.handleRequest reqId op addr >>= fun _ => pure RoleChange.none) t := by
  cases h with
  | client => rfl
  | station accountId cardId amount requestId =>
    show Node.handleChargeRequest accountId cardId amount reqId t = _
    unfold Node.handleChargeRequest
    rw [bind_getSelf, hon]
    rfl

/-- The turn of a database result, from what its handler does. -/
theorem select_result {σ : Type} [Node α σ] {t t' : Task α σ} {opId : OpId}
    {operation : Operation α} {result : OperationResult α}
    (h : Node.handleOperationResult opId operation result t = .ok () t') :
    Node.select (.actorEvent (.operationResult opId operation result)) t = .ok .none t' := by
  have herr : errorOf (Node.handleOperationResult opId operation result) t = .ok none t' := by
    unfold errorOf
    rw [h]
  have hact : Node.handleActorEvent (.operationResult opId operation result) t = .ok () t' :=
    bind_ok herr
  exact bind_ok hact

theorem select_result_panics {σ : Type} [Node α σ] {t t' : Task α σ} {opId : OpId}
    {operation : Operation α} {result : OperationResult α} {m : String}
    (h : Node.handleOperationResult opId operation result t = .error (.panic m) t') :
    Node.select (.actorEvent (.operationResult opId operation result)) t =
      .error (.panic m) t' := by
  have herr : errorOf (Node.handleOperationResult opId operation result) t =
      .error (.panic m) t' := by
    unfold errorOf
    rw [h]
  have hact : Node.handleActorEvent (.operationResult opId operation result) t =
      .error (.panic m) t' := bind_error herr
  exact bind_error hact

/-- What a turn of a connected node starts with when every send succeeds. -/
def Task.ready {σ : Type} (self : σ) (now : Nat) : Task α σ where
  self := self
  connected := true
  outcomes := []
  now := now
  sent := []
  told := []
  commands := []

theorem Task.ready_reliable {σ : Type} (self : σ) (now : Nat) :
    (Task.ready self now : Task α σ).Reliable := ⟨rfl, rfl⟩

section RunOnce

variable {σ : Type} [Node α σ] {event : Event α} {t t' : Task α σ} {rc : RoleChange}

theorem runOnce_ok (h : Node.select event t = .ok rc t') : Node.runOnce event t = .ok rc t' := by
  unfold Node.runOnce
  rw [h]

theorem runOnce_panics {m : String} (h : Node.select event t = .error (.panic m) t') :
    Node.runOnce event t = .error (.panic m) t' := by
  unfold Node.runOnce
  rw [h]

end RunOnce

namespace NodeRuntime

variable [AddrHash] {rt : Task α (NodeRuntime α)} {event : Event α}

theorem turn_leader {self : Leader α} (hself : rt.self = .leader self) {rc : RoleChange}
    {t' : Task α (Leader α)} (h : Node.select event { rt with self := self } = .ok rc t') :
    turn event rt = .ok () { t' with self := (NodeRuntime.leader t'.self).changeRole rc } := by
  unfold turn
  rw [hself]
  dsimp only
  unfold runAs
  rw [runOnce_ok h]

theorem turn_leader_panics {self : Leader α} (hself : rt.self = .leader self) {m : String}
    {t' : Task α (Leader α)}
    (h : Node.select event { rt with self := self } = .error (.panic m) t') :
    turn event rt = .error (.panic m) { t' with self := .leader t'.self } := by
  unfold turn
  rw [hself]
  dsimp only
  unfold runAs
  rw [runOnce_panics h]

theorem turn_replica {self : Replica α} (hself : rt.self = .replica self) {rc : RoleChange}
    {t' : Task α (Replica α)} (h : Node.select event { rt with self := self } = .ok rc t') :
    turn event rt = .ok () { t' with self := (NodeRuntime.replica t'.self).changeRole rc } := by
  unfold turn
  rw [hself]
  dsimp only
  unfold runAs
  rw [runOnce_ok h]

theorem turn_replica_panics {self : Replica α} (hself : rt.self = .replica self) {m : String}
    {t' : Task α (Replica α)}
    (h : Node.select event { rt with self := self } = .error (.panic m) t') :
    turn event rt = .error (.panic m) { t' with self := .replica t'.self } := by
  unfold turn
  rw [hself]
  dsimp only
  unfold runAs
  rw [runOnce_panics h]

end NodeRuntime

end YpfRuta.Server
