/-
  The offline queue of a server node, in both roles: which handlers touch it, and
  what becomes of the charges a node granted while it was offline.
-/
import YpfRuta.Lib.Transition
import YpfRuta.Server.LeaderFrame

namespace YpfRuta.Server

open Lib

variable {α : Type}

/-- The offline charge a message asks for, and the node it goes to. -/
def offlineRequest? : SocketAddr × Message α → Option (SocketAddr × Operation α)
  | (dst, .request _ (.charge accountId cardId amount true) _) =>
    some (dst, .charge accountId cardId amount true)
  | _ => none

namespace Leader

/-- The queue is `q`, and no offline charge is sent. A node that is online stays so
    unless it `cuts` its connection. -/
def offline (q : List (Operation α)) (cuts : Prop) : Frame α (Leader α) where
  inv self := self.offlineQueue = q ∧ (¬ cuts → self.isOffline = false)
  sent m := offlineRequest? m = none
  cuts := cuts

variable {q : List (Operation α)} {cuts : Prop}

theorem offline_lenient : Lenient (offline q cuts) where
  electing _ _ _ h := h
  members _ _ h := h
  pending _ _ h := h
  sent _ msg hm := by
    cases msg with
    | request reqId op addr => cases hm
    | _ => rfl

/-- **A leader never touches its offline queue**, but to add a charge. -/
theorem offline_within [AddrHash] {event : Event α}
    (hev : ∀ accountId cardId amount requestId,
      event ≠ .stationMsg (.chargeRequest accountId cardId amount requestId))
    (hcuts : event = .stationMsg .disconnectNode → cuts) :
    Within (offline q cuts) (Node.select (σ := Leader α) event) := by
  refine select_within offline_lenient (fun reqId op addr _ => ?_) (fun _ _ _ _ he => ?_)
    (fun he => ⟨hcuts he, fun _ h => ⟨h.1, fun hn => absurd (hcuts he) hn⟩⟩)
    fun _ h => ⟨h.1, fun _ => rfl⟩
  · exact handleRequest_within offline_lenient (fun _ _ h => h) reqId op addr
  · exact absurd he (hev _ _ _ _)

end Leader

namespace Replica

/-- The queue is `q`, and no offline charge is sent. A node that is online stays so
    unless it `cuts` its connection. -/
def offline (q : List (Operation α)) (cuts : Prop) : Frame α (Replica α) where
  inv self := self.offlineQueue = q ∧ (¬ cuts → self.isOffline = false)
  sent m := offlineRequest? m = none
  cuts := cuts

variable {q : List (Operation α)} {cuts : Prop}

theorem joinAny_within (address : SocketAddr) :
    ∀ members : List SocketAddr, Within (offline q cuts) (joinAny address members)
  | [] => within_pure _
  | nodeAddr :: rest => by
    unfold joinAny
    split
    · exact joinAny_within address rest
    · refine within_bind (within_errorOf (within_send rfl)) fun e => ?_
      cases e with
      | none => exact within_pure _
      | some e => exact within_bind (within_send rfl) fun _ => joinAny_within address rest

theorem handleCoordinator_within (leaderId : NodeId) (leaderAddr : SocketAddr) :
    Within (offline q cuts) (handleCoordinator (α := α) leaderId leaderAddr) := by
  unfold handleCoordinator
  refine within_bind (within_modifySelf fun _ h => h) fun _ => ?_
  refine within_getSelf fun self _ => ?_
  split
  · exact within_pure _
  · split
    · exact within_bind (within_panics _) fun _ => within_bind (within_modifySelf fun _ h => h)
        fun _ => within_pure _
    · exact within_bind (within_modifySelf fun _ h => h) fun _ => within_pure _

theorem anounceCoordinator_within : Within (offline q cuts) (anounceCoordinator (α := α)) := by
  unfold anounceCoordinator
  refine within_getSelf fun self _ => ?_
  refine within_bind (within_forEach (fun peer => ?_) _) fun _ => handleCoordinator_within _ _
  split
  · exact within_pure _
  · exact within_bind (within_errorOf (within_send rfl)) fun _ => within_pure _

theorem startElection_within : Within (offline q cuts) (startElection (α := α)) := by
  unfold startElection
  refine within_getSelf fun self _ => ?_
  split
  · exact within_pure _
  · refine within_bind (within_forEach (fun peer => ?_) _) fun _ => ?_
    · exact within_bind (within_errorOf (within_send rfl)) fun _ => within_pure _
    · split
      · refine within_bind within_instantNow fun _ => ?_
        exact within_bind (within_modifySelf fun _ h => h) fun _ => within_pure _
      · exact within_bind (within_modifySelf fun _ h => h) fun _ => anounceCoordinator_within

theorem handleConnectionLostWith_within [AddrHash] (lostAddress : SocketAddr) :
    Within (offline q cuts) (handleConnectionLostWith (α := α) lostAddress) := by
  unfold handleConnectionLostWith
  refine within_getSelf fun self _ => ?_
  split
  · split
    · exact within_bind (within_modifySelf fun _ h => h) fun _ => startElection_within
    · exact startElection_within
  · split
    · exact within_bind (within_modifySelf fun _ h => h) fun _ => within_pure _
    · exact within_pure _

/-- A charge the node was asked for online is forwarded as such. -/
theorem handleRequest_within {reqId : ReqId} {op : Operation α} {addr : SocketAddr}
    (hop : ∀ a, offlineRequest? (a, .request reqId op addr) = none) :
    Within (offline q cuts) (handleRequest reqId op addr) := by
  unfold handleRequest
  exact within_getSelf fun self _ => within_send (hop self.leaderAddr)

theorem handleResponse_within (reqId : ReqId) (opResult : OperationResult α) :
    Within (offline q cuts) (handleResponse reqId opResult) := by
  unfold handleResponse
  split
  · exact within_pure _
  · split
    · exact within_tell _
    · exact within_pure _

theorem commitOperation_within (opId : OpId) :
    Within (offline q cuts) (commitOperation (α := α) opId) := by
  unfold commitOperation
  refine within_getSelf fun self _ => ?_
  split
  · exact within_pure _
  · exact within_bind (within_modifySelf fun _ h => h) fun _ => within_execute _ _

theorem handleLog_within (opId : OpId) (newOp : Operation α) :
    Within (offline q cuts) (handleLog opId newOp) := by
  unfold handleLog
  refine within_bind (within_modifySelf fun _ h => h) fun _ => ?_
  split
  · refine within_getSelf fun self _ => ?_
    exact within_bind (within_send rfl) fun _ => within_pure _
  · split
    · exact within_bind (within_panics _) fun _ => commitOperation_within _
    · exact commitOperation_within _

/-- A result that is no snapshot's is acknowledged. -/
theorem handleOperationResult_within {operation : Operation α}
    (hop : ∀ snapshot, operation ≠ .replaceDatabase snapshot) (opId : OpId)
    (result : OperationResult α) :
    Within (offline q cuts) (handleOperationResult opId operation result) := by
  unfold handleOperationResult
  refine within_getSelf fun self _ => ?_
  have hack : Within (offline q cuts) (do
      let next ← addOne opId
      send (.ack next) self.leaderAddr) :=
    within_bind (within_addOne opId) fun _ => within_send rfl
  cases operation with
  | replaceDatabase snapshot => exact absurd rfl (hop snapshot)
  | _ => exact hack

theorem handleElectionTimeout_within : Within (offline q cuts) (handleElectionTimeout (α := α)) := by
  unfold handleElectionTimeout
  refine within_getSelf fun self _ => ?_
  split
  · exact within_pure _
  · split
    · exact within_pure _
    · refine within_bind within_instantNow fun _ => ?_
      split
      · exact within_bind (within_modifySelf fun _ h => h) fun _ => anounceCoordinator_within
      · exact within_pure _

theorem handleClusterView_within [AddrHash] (members : List (NodeId × SocketAddr))
    (leaderAddr : SocketAddr) (snapshot : DatabaseSnapshot α) :
    Within (offline q cuts) (handleClusterView members leaderAddr snapshot) := by
  unfold handleClusterView
  refine within_bind (within_execute _ _) fun _ => ?_
  refine within_bind (within_modifySelf fun _ h => h) fun _ => ?_
  refine within_getSelf fun self _ => ?_
  split
  · exact within_bind startElection_within fun _ => within_pure _
  · exact within_pure _

theorem handleElection_within (candidateId : NodeId) (candidateAddr : SocketAddr) :
    Within (offline q cuts) (handleElection (α := α) candidateId candidateAddr) := by
  unfold handleElection
  refine within_getSelf fun self _ => ?_
  split
  · exact within_bind (within_errorOf (within_send rfl)) fun _ => startElection_within
  · exact within_pure _

theorem handleElectionOk_within (responderId : NodeId) :
    Within (offline q cuts) (handleElectionOk (α := α) responderId) :=
  within_modifySelf fun _ h => h

theorem handleRoleQuery_within [AddrHash] (addr : SocketAddr) :
    Within (offline q cuts) (handleRoleQuery (α := α) addr) := by
  unfold handleRoleQuery
  exact within_getSelf fun self _ => within_send rfl

theorem handleDisconnectNode_within (hcuts : cuts) : Within (offline q cuts) (handleDisconnectNode (α := α)) := by
  unfold handleDisconnectNode
  refine within_bind (within_modifySelf fun _ h => ?_) fun _ => within_disconnect hcuts
  exact ⟨h.1, fun hn => absurd hcuts hn⟩

theorem handleConnectNode_within : Within (offline q cuts) (handleConnectNode (α := α)) := by
  unfold handleConnectNode
  refine within_bind (within_modifySelf fun _ h => ⟨h.1, fun _ => rfl⟩) fun _ => ?_
  refine within_bind within_reconnect fun _ => ?_
  exact within_getSelf fun self _ => joinAny_within _ _

theorem handleJoin_within (addr : SocketAddr) :
    Within (offline q cuts) (handleJoin (α := α) addr) := by
  unfold handleJoin
  exact within_getSelf fun self _ => within_send rfl

theorem handleClusterUpdate_within (newMember : NodeId × SocketAddr) :
    Within (offline q cuts) (handleClusterUpdate (α := α) newMember) :=
  within_modifySelf fun _ h => h

/-- A message of another node leaves the queue alone. Requests are forwarded as they
    came, so they are left out. -/
theorem handleNodeMsg_within [AddrHash] {msg : Message α}
    (hmsg : ∀ reqId op addr, msg ≠ .request reqId op addr) :
    Within (offline q cuts) (Node.handleNodeMsg (σ := Replica α) msg) := by
  cases msg with
  | request reqId op addr => exact absurd rfl (hmsg _ _ _)
  | response reqId opResult =>
    exact within_bind (handleResponse_within reqId opResult) fun _ => within_pure _
  | log opId op => exact within_bind (handleLog_within opId op) fun _ => within_pure _
  | ack opId => exact within_bind (within_panics _) fun _ => within_pure _
  | election candidateId candidateAddr => exact handleElection_within candidateId candidateAddr
  | electionOk responderId =>
    exact within_bind (handleElectionOk_within responderId) fun _ => within_pure _
  | coordinator leaderId leaderAddr => exact handleCoordinator_within leaderId leaderAddr
  | join addr => exact within_bind (handleJoin_within addr) fun _ => within_pure _
  | clusterView members leaderAddr database =>
    exact within_bind (handleClusterView_within members leaderAddr database)
      fun _ => within_pure _
  | clusterUpdate newMember =>
    exact within_bind (handleClusterUpdate_within newMember) fun _ => within_pure _
  | roleQuery addr => exact within_bind (handleRoleQuery_within addr) fun _ => within_pure _
  | roleResponse nodeId role => exact within_panics _

/-- What a replica does with an event that is no request, no charge of its station and
    no installed snapshot. -/
theorem select_within [AddrHash] {event : Event α}
    (hreq : ∀ reqId op addr, event ≠ .nodeMsg (.ok (.request reqId op addr)))
    (hcharge : ∀ accountId cardId amount requestId,
      event ≠ .stationMsg (.chargeRequest accountId cardId amount requestId))
    (hinst : ∀ opId snapshot result,
      event ≠ .actorEvent (.operationResult opId (.replaceDatabase snapshot) result))
    (hcuts : event = .stationMsg .disconnectNode → cuts) :
    Within (offline q cuts) (Node.select (σ := Replica α) event) := by
  cases event with
  | nodeMsg msg =>
    cases msg with
    | ok msg =>
      refine handleNodeMsg_within ?_
      rintro reqId op addr rfl
      exact hreq reqId op addr rfl
    | error e => exact within_throw _
  | stationMsg msg =>
    cases msg with
    | chargeRequest accountId cardId amount requestId => exact absurd rfl (hcharge _ _ _ _)
    | disconnectNode => exact within_bind (handleDisconnectNode_within (hcuts rfl)) fun _ => within_pure _
    | connectNode => exact within_bind handleConnectNode_within fun _ => within_pure _
  | actorEvent evt =>
    refine within_bind (x := Node.handleActorEvent evt) ?_ fun _ => within_pure _
    cases evt with
    | operationResult opId operation result =>
      refine within_bind (within_errorOf (handleOperationResult_within ?_ opId result))
        fun _ => within_pure _
      rintro snapshot rfl
      exact hinst opId snapshot result rfl
    | debug text => exact within_pure _
  | electionCheck => exact handleElectionTimeout_within

/-! ## Draining the queue -/

/-- The next `k` sends of a node succeed. -/
def clear (connected : Bool) (outcomes : List (Option AppError)) (k : Nat) : Prop :=
  k = 0 ∨ connected = true ∧ ∀ o ∈ outcomes.take k, o = none

/-- What `flushOffline` did with the queue `q`: it sent `done`, lost `lost` to the send
    that failed, if one did, and left `rest`. -/
structure Flushed (address : SocketAddr) (q : List (Operation α)) (t t' : Task α (Replica α))
    (done lost rest : List (Operation α)) : Prop where
  split : q = done ++ lost ++ rest
  self : t'.self = { t.self with offlineQueue := rest }
  sent : t'.sent = t.sent ++
    done.map fun op => (t.self.leaderAddr, .request 0 op address)
  connected : t'.connected = t.connected
  cleared : lost = [] ↔ clear t.connected t.outcomes q.length
  emptied : lost = [] → rest = []

theorem flushOffline_spec (address : SocketAddr) (q : List (Operation α)) :
    ∀ t : Task α (Replica α), t.self.offlineQueue = q →
      ∃ done lost rest, Flushed address q t (left (flushOffline address q t)) done lost rest := by
  induction q with
  | nil =>
    intro t hq
    refine ⟨[], [], [], rfl, ?_, (List.append_nil _).symm, rfl, iff_of_true rfl (Or.inl rfl),
      fun _ => rfl⟩
    show t.self = { t.self with offlineQueue := [] }
    rw [← hq]
  | cons op q ih =>
    intro t hq
    obtain ⟨self, connected, outcomes, now, sent, told, commands⟩ := t
    -- the next send fails: the charge is already off the queue
    have hfails : ∀ t' : Task α (Replica α), t'.self = { self with offlineQueue := q } →
        t'.sent = sent → t'.connected = connected →
        ¬ clear connected outcomes (op :: q).length →
        ∃ done lost rest, Flushed address (op :: q)
          ⟨self, connected, outcomes, now, sent, told, commands⟩ t' done lost rest := by
      intro t' hself hsent hconn hclear
      refine ⟨[], [op], q, rfl, hself, ?_, hconn, iff_of_false (by simp) hclear, by simp⟩
      rw [hsent]
      exact (List.append_nil _).symm
    -- the next send succeeds
    have hsends : ∀ outcomes', (clear connected outcomes (op :: q).length ↔
          clear connected outcomes' q.length) →
        ∃ done lost rest, Flushed address (op :: q)
          ⟨self, connected, outcomes, now, sent, told, commands⟩
          (left (flushOffline address q ⟨{ self with offlineQueue := q }, connected, outcomes',
            now, sent ++ [(self.leaderAddr, .request 0 op address)], told, commands⟩))
          done lost rest := by
      intro outcomes' hclear
      obtain ⟨done, lost, rest, h⟩ := ih ⟨{ self with offlineQueue := q }, connected, outcomes',
        now, sent ++ [(self.leaderAddr, .request 0 op address)], told, commands⟩ rfl
      refine ⟨op :: done, lost, rest, ?_, h.self, ?_, h.connected,
        h.cleared.trans hclear.symm, h.emptied⟩
      · rw [h.split]
        rfl
      · rw [h.sent, List.map_cons, List.append_assoc]
        rfl
    cases connected with
    | false => exact hfails _ rfl rfl rfl (by simp [clear])
    | true =>
      cases outcomes with
      | nil => exact hsends [] (by simp [clear])
      | cons o outcomes =>
        cases o with
        | none => exact hsends outcomes (by
            cases q <;> simp [clear])
        | some e => exact hfails _ rfl rfl rfl (by simp [clear])

end Replica

end YpfRuta.Server
