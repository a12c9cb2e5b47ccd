/-
  Frames of the leader. Whatever a frame is about, the leader's handlers stay within
  it when it allows them to touch the election, the members and the pending requests,
  and to send anything but requests.
-/
import YpfRuta.Server.Frame

namespace YpfRuta.Server

variable {α : Type}

def isRequest : Message α → Bool
  | .request .. => true
  | _ => false

namespace Leader

/-- The frame is not about what every handler of a leader may change. -/
structure Lenient (F : Frame α (Leader α)) : Prop where
  electing : ∀ self b start, F.inv self →
    F.inv { self with electionInProgress := b, electionStart := start }
  members : ∀ self cluster, F.inv self → F.inv { self with cluster }
  pending : ∀ self operations, F.inv self → F.inv { self with operations }
  sent : ∀ addr msg, isRequest msg = false → F.sent (addr, msg)

variable {F : Frame α (Leader α)} (hF : Lenient F)

include hF

theorem Lenient.send {msg : Message α} (addr : SocketAddr) (hm : isRequest msg = false) :
    Within F (Server.send msg addr) := within_send (hF.sent addr msg hm)

theorem joinAny_within (address : SocketAddr) :
    ∀ members : List SocketAddr, Within F (joinAny address members)
  | [] => within_pure _
  | nodeAddr :: rest => by
    unfold joinAny
    split
    · exact joinAny_within address rest
    · refine within_bind (within_errorOf (hF.send _ rfl)) fun e => ?_
      cases e with
      | none => exact within_pure _
      | some e =>
        exact within_bind (within_errorOf (hF.send _ rfl)) fun _ => joinAny_within address rest

theorem anounceCoordinator_within : Within F (anounceCoordinator (α := α)) := by
  unfold anounceCoordinator
  refine within_getSelf fun self _ => ?_
  refine within_bind (within_forEach (fun peer => ?_) _) fun _ => within_pure _
  split
  · exact within_pure _
  · exact within_bind (within_errorOf (hF.send _ rfl)) fun _ => within_pure _

theorem startElection_within : Within F (startElection (α := α)) := by
  unfold startElection
  refine within_getSelf fun self _ => ?_
  split
  · exact within_pure _
  · refine within_bind (within_forEach (fun peer => ?_) _) fun _ => ?_
    · exact within_bind (within_errorOf (hF.send _ rfl)) fun _ => within_pure _
    · split
      · refine within_bind within_instantNow fun start => ?_
        exact within_bind (within_modifySelf fun s h => hF.electing s true (some start) h)
          fun _ => within_pure _
      · exact within_bind (within_modifySelf fun s h => hF.electing s false none h)
          fun _ => anounceCoordinator_within hF

theorem handleConnectionLostWith_within [AddrHash] (address : SocketAddr) :
    Within F (handleConnectionLostWith (α := α) address) := by
  unfold handleConnectionLostWith
  exact within_bind (within_modifySelf fun s h => hF.members s _ h) fun _ => within_pure _

theorem handleRequest_within (hcount : ∀ self n, F.inv self → F.inv { self with currentOpId := n })
    (reqId : ReqId) (op : Operation α) (clientAddr : SocketAddr) :
    Within F (handleRequest reqId op clientAddr) := by
  unfold handleRequest
  refine within_bind (within_modifySelf fun s h => hF.pending s _ h) fun _ => ?_
  refine within_getSelf fun self _ => ?_
  split
  · exact within_bind (within_execute _ _) fun _ => within_pure _
  · refine within_bind (within_forEach (fun peer => ?_) _) fun _ => ?_
    · split
      · exact within_pure _
      · exact hF.send _ rfl
    · exact within_bind (within_addOne _) fun next => within_modifySelf fun s h => hcount s next h

theorem handleAck_within (opId : OpId) : Within F (handleAck (α := α) opId) := by
  unfold handleAck
  refine within_getSelf fun self _ => ?_
  split
  · exact within_pure _
  · refine within_bind (within_modifySelf fun s h => hF.pending s _ h) fun _ => ?_
    split
    · refine within_bind (within_subOne _) fun _ => ?_
      split
      · exact within_pure _
      · exact within_execute _ _
    · exact within_execute _ _

theorem takePending_within (opId : OpId) (operation : Operation α) :
    Within F (takePending opId operation) := by
  unfold takePending
  refine within_getSelf fun self _ => ?_
  split
  · split
    · exact within_bind (within_modifySelf fun s h => hF.pending s _ h) fun _ => within_pure _
    · exact within_panics _
  · exact within_pure _

theorem handleOperationResult_within (opId : OpId) (operation : Operation α)
    (result : OperationResult α) :
    Within F (handleOperationResult opId operation result) := by
  unfold handleOperationResult
  refine within_bind (takePending_within hF opId operation) fun pending => ?_
  refine within_getSelf fun self _ => ?_
  have hreply : ∀ own : Handler α (Leader α) Unit, Within F own →
      Within F (if pending.clientAddr = self.address then own
        else Server.send (.response pending.requestId result) pending.clientAddr) := by
    intro own hown
    split
    · exact hown
    · exact hF.send _ rfl
  cases operation with
  | getDatabase addr =>
    dsimp only
    split
    · refine within_bind (within_errorOf (hF.send _ rfl)) fun _ => ?_
      split
      · exact hF.send _ rfl
      · exact within_pure _
    · exact within_pure _
  | replaceDatabase snapshot => exact within_pure _
  | charge accountId cardId amount off =>
    cases result with
    | charge chargeRes => exact hreply _ (within_tell _)
    | _ => exact hreply _ (within_pure _)
  | _ => exact hreply _ (within_pure _)

theorem handleJoin_within [AddrHash] (addr : SocketAddr) :
    Within F (handleJoin (α := α) addr) := by
  unfold handleJoin
  refine within_bind (within_execute _ _) fun _ => ?_
  refine within_bind (within_modifySelf fun s h => hF.members s _ h) fun _ => ?_
  refine within_getSelf fun self _ => within_forEach (fun replicaAddr => ?_) _
  split
  · exact within_pure _
  · exact hF.send _ rfl

theorem handleElectionTimeout_within : Within F (handleElectionTimeout (α := α)) := by
  unfold handleElectionTimeout
  refine within_getSelf fun self _ => ?_
  split
  · exact within_pure _
  · split
    · exact within_pure _
    · refine within_bind within_instantNow fun _ => ?_
      split
      · refine within_bind (within_modifySelf fun s h => hF.electing s false none h) fun _ => ?_
        exact within_bind (anounceCoordinator_within hF) fun _ => within_pure _
      · exact within_pure _

theorem handleElection_within (candidateId : NodeId) (candidateAddr : SocketAddr) :
    Within F (handleElection (α := α) candidateId candidateAddr) := by
  unfold handleElection
  refine within_getSelf fun self _ => ?_
  split
  · exact within_bind (within_errorOf (hF.send _ rfl)) fun _ => startElection_within hF
  · exact within_pure _

theorem handleElectionOk_within (responderId : NodeId) :
    Within F (handleElectionOk (α := α) responderId) :=
  within_modifySelf fun s h => hF.electing s false none h

theorem handleCoordinator_within (leaderId : NodeId) (leaderAddr : SocketAddr) :
    Within F (handleCoordinator (α := α) leaderId leaderAddr) := by
  unfold handleCoordinator
  refine within_bind (within_modifySelf fun s h => hF.electing s false none h) fun _ => ?_
  refine within_getSelf fun self _ => ?_
  split <;> exact within_pure _

theorem handleClusterView_within (members : List (NodeId × SocketAddr))
    (leaderAddr : SocketAddr) (snapshot : DatabaseSnapshot α) :
    Within F (handleClusterView members leaderAddr snapshot) := by
  unfold handleClusterView
  refine within_bind (within_execute _ _) fun _ => ?_
  refine within_bind (within_modifySelf fun s h => hF.members s _ h) fun _ => ?_
  exact within_bind (startElection_within hF) fun _ => within_pure _

theorem handleRoleQuery_within [AddrHash] (addr : SocketAddr) :
    Within F (handleRoleQuery (α := α) addr) := by
  unfold handleRoleQuery
  exact within_getSelf fun self _ => hF.send _ rfl

omit hF in
theorem handleDisconnectNode_within (hcuts : F.cuts)
    (haway : ∀ self, F.inv self → F.inv { self with isOffline := true }) :
    Within F (handleDisconnectNode (α := α)) := by
  unfold handleDisconnectNode
  exact within_bind (within_modifySelf haway) fun _ => within_disconnect hcuts

theorem handleConnectNode_within
    (hback : ∀ self, F.inv self → F.inv { self with isOffline := false }) :
    Within F (handleConnectNode (α := α)) := by
  unfold handleConnectNode
  refine within_bind (within_modifySelf hback) fun _ => ?_
  refine within_bind within_reconnect fun _ => ?_
  exact within_getSelf fun self _ => joinAny_within hF _ _

/-- The message is no request that reaches `handle_request`. -/
theorem handleNodeMsg_within [AddrHash] (msg : Message α)
    (hreq : ∀ reqId op addr, msg = .request reqId op addr →
      Within F (handleRequest reqId op addr)) :
    Within F (Node.handleNodeMsg (σ := Leader α) msg) := by
  cases msg with
  | request reqId op addr =>
    exact within_bind (hreq reqId op addr rfl) fun _ => within_pure _
  | response reqId opResult => exact within_bind (within_panics _) fun _ => within_pure _
  | log opId op => exact within_bind (within_panics _) fun _ => within_pure _
  | ack opId => exact within_bind (handleAck_within hF opId) fun _ => within_pure _
  | election candidateId candidateAddr => exact handleElection_within hF candidateId candidateAddr
  | electionOk responderId =>
    exact within_bind (handleElectionOk_within hF responderId) fun _ => within_pure _
  | coordinator leaderId leaderAddr => exact handleCoordinator_within hF leaderId leaderAddr
  | join addr => exact within_bind (handleJoin_within hF addr) fun _ => within_pure _
  | clusterView members leaderAddr database =>
    exact within_bind (handleClusterView_within hF members leaderAddr database)
      fun _ => within_pure _
  | clusterUpdate newMember =>
    exact within_bind (within_pure (F := F) ()) fun _ => within_pure _
  | roleQuery addr => exact within_bind (handleRoleQuery_within hF addr) fun _ => within_pure _
  | roleResponse nodeId role => exact within_panics _

/-- A turn of a leader, but for the station's charges: those are left to the caller. -/
theorem select_within [AddrHash] {event : Event α}
    (hreq : ∀ reqId op addr, event = .nodeMsg (.ok (.request reqId op addr)) →
      Within F (handleRequest reqId op addr))
    (hcharge : ∀ accountId cardId amount requestId,
      event = .stationMsg (.chargeRequest accountId cardId amount requestId) →
      Within F (Node.handleChargeRequest (σ := Leader α) accountId cardId amount requestId))
    (hcuts : event = .stationMsg .disconnectNode →
      F.cuts ∧ ∀ self, F.inv self → F.inv { self with isOffline := true })
    (hback : ∀ self, F.inv self → F.inv { self with isOffline := false }) :
    Within F (Node.select (σ := Leader α) event) := by
  cases event with
  | nodeMsg msg =>
    cases msg with
    | ok msg =>
      exact handleNodeMsg_within hF msg fun reqId op addr he => hreq reqId op addr (he ▸ rfl)
    | error e => exact within_throw _
  | stationMsg msg =>
    cases msg with
    | chargeRequest accountId cardId amount requestId => exact hcharge _ _ _ _ rfl
    | disconnectNode =>
      exact within_bind (handleDisconnectNode_within (hcuts rfl).1 (hcuts rfl).2)
        fun _ => within_pure _
    | connectNode => exact within_bind (handleConnectNode_within hF hback) fun _ => within_pure _
  | actorEvent evt =>
    refine within_bind (x := Node.handleActorEvent evt) ?_ fun _ => within_pure _
    cases evt with
    | operationResult opId operation result =>
      exact within_bind (within_errorOf (handleOperationResult_within hF opId operation result))
        fun _ => within_pure _
    | debug text => exact within_pure _
  | electionCheck => exact handleElectionTimeout_within hF

end Leader

end YpfRuta.Server
