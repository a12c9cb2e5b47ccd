/-
  What one turn of a connected, online node can do, whatever it wakes up for: the
  rest of a development splits on these cases and never unfolds a handler.
-/
import YpfRuta.Server.Membership

namespace YpfRuta.Server

variable {α : Type}

/-- A turn that ended with `fault`, if any. -/
def ending (fault : Option Fault) (t : Task α (NodeRuntime α)) :
    EStateM.Result Fault (Task α (NodeRuntime α)) Unit :=
  match fault with
  | none => .ok () t
  | some e => .error e t

/-- The events an online node handles: all but the station's connect and disconnect
    commands, debug events and errors other than a lost peer. -/
def Event.Online : Event α → Prop
  | .nodeMsg (.ok _) => True
  | .nodeMsg (.error (.connectionLostWith _)) => True
  | .stationMsg (.chargeRequest ..) => True
  | .actorEvent (.operationResult ..) => True
  | .electionCheck => True
  | _ => False

/-- The replication and membership turns of a leader: the fault it ends with, the
    leader it leaves, the messages it sends and the commands it gives. -/
inductive Leader.Serves [AddrHash] (self : Leader α) (now : Nat) :
    Event α → Option Fault → Leader α → List (SocketAddr × Message α) →
      List (OpId × Operation α) → Prop where
  | executes {event : Event α} {reqId : ReqId} {op : Operation α} {addr : SocketAddr} :
      Asks self.address event reqId op addr → self.cluster.len = 1 →
      Serves self now event none (self.store reqId op addr) [] [(self.currentOpId, op)]
  | replicates {event : Event α} {reqId : ReqId} {op : Operation α} {addr : SocketAddr} :
      Asks self.address event reqId op addr → self.cluster.len ≠ 1 →
      self.currentOpId.toNat + 1 < UInt32.size →
      Serves self now event none
        { self.store reqId op addr with currentOpId := self.currentOpId + 1 }
        (self.peers.map fun a => (a, .log self.currentOpId op)) []
  | overflows {event : Event α} {reqId : ReqId} {op : Operation α} {addr : SocketAddr} :
      Asks self.address event reqId op addr → self.cluster.len ≠ 1 →
      ¬ self.currentOpId.toNat + 1 < UInt32.size →
      Serves self now event (some (.panic "attempt to add with overflow"))
        (self.store reqId op addr) (self.peers.map fun a => (a, .log self.currentOpId op)) []
  | ackUnknown {opId : OpId} : self.operations.lookup opId = none →
      Serves self now (.nodeMsg (.ok (.ack opId))) none self [] []
  | ackExecutes {opId : OpId} {stored : PendingOperation α} :
      self.operations.lookup opId = some stored →
      stored.ackCount + 1 = quorum self.cluster.len ∨ self.cluster.len = 2 →
      Serves self now (.nodeMsg (.ok (.ack opId))) none (self.count opId stored) []
        [(opId, stored.op)]
  | ackWaits {opId : OpId} {stored : PendingOperation α} :
      self.operations.lookup opId = some stored →
      stored.ackCount + 1 ≠ quorum self.cluster.len → self.cluster.len ≠ 2 →
      self.cluster.len ≠ 0 →
      Serves self now (.nodeMsg (.ok (.ack opId))) none (self.count opId stored) [] []
  | ackPanics {opId : OpId} {stored : PendingOperation α} :
      self.operations.lookup opId = some stored →
      stored.ackCount + 1 ≠ quorum self.cluster.len → self.cluster.len = 0 →
      Serves self now (.nodeMsg (.ok (.ack opId)))
        (some (.panic "attempt to subtract with overflow")) (self.count opId stored) [] []
  | answers {opId : OpId} {pending : PendingOperation α} (operation : Operation α)
      (result : OperationResult α) : opId ≠ 0 → self.operations.lookup opId = some pending →
      Serves self now (.actorEvent (.operationResult opId operation result)) none
        { self with operations := self.operations.erase opId }
        (self.reply pending operation result).1 []
  | answersOwn (operation : Operation α) (result : OperationResult α) :
      Serves self now (.actorEvent (.operationResult 0 operation result)) none self
        (self.reply ⟨operation, self.address, 0, 0⟩ operation result).1 []
  | unexpected {opId : OpId} (operation : Operation α) (result : OperationResult α) :
      opId ≠ 0 → self.operations.lookup opId = none →
      Serves self now (.actorEvent (.operationResult opId operation result))
        (some (.panic "leader received the result of an unexisting operation")) self [] []
  | refusesResponse (reqId : ReqId) (result : OperationResult α) :
      Serves self now (.nodeMsg (.ok (.response reqId result)))
        (some (.panic "not yet implemented")) self [] []
  | refusesLog (opId : OpId) (op : Operation α) :
      Serves self now (.nodeMsg (.ok (.log opId op)))
        (some (.panic "not yet implemented")) self [] []
  | admits (addr : SocketAddr) :
      Serves self now (.nodeMsg (.ok (.join addr))) none (self.enroll addr) (self.updates addr)
        [(0, .getDatabase addr)]
  | views (members : List (NodeId × SocketAddr)) (leaderAddr : SocketAddr)
      (snapshot : DatabaseSnapshot α) :
      Serves self now (.nodeMsg (.ok (.clusterView members leaderAddr snapshot))) none
        (elect { self with cluster := viewed members } now).1
        (elect { self with cluster := viewed members } now).2 [(0, .replaceDatabase snapshot)]
  | updated (newMember : NodeId × SocketAddr) :
      Serves self now (.nodeMsg (.ok (.clusterUpdate newMember))) none self [] []
  | queried (addr : SocketAddr) :
      Serves self now (.nodeMsg (.ok (.roleQuery addr))) none self
        [(addr, .roleResponse (getIdGivenAddr self.address) .leader)] []
  | refusesRole (nodeId : NodeId) (role : NodeRole) :
      Serves self now (.nodeMsg (.ok (.roleResponse nodeId role)))
        (some (.panic "not yet implemented")) self [] []

/-- The replication and membership turns of a replica. -/
inductive Replica.Serves [AddrHash] (self : Replica α) (now : Nat) :
    Event α → Option Fault → Replica α → List (SocketAddr × Message α) →
      List (OpId × Operation α) → Prop where
  | forwards {event : Event α} {reqId : ReqId} {op : Operation α} {addr : SocketAddr} :
      Asks self.address event reqId op addr →
      Serves self now event none self [(self.leaderAddr, .request reqId op addr)] []
  | responds (reqId : ReqId) (result : OperationResult α) :
      Serves self now (.nodeMsg (.ok (.response reqId result))) none self [] []
  | logsFirst (op : Operation α) :
      Serves self now (.nodeMsg (.ok (.log 1 op))) none (self.store 1 op)
        [(self.leaderAddr, .ack 1)] []
  | logsZero (op : Operation α) :
      Serves self now (.nodeMsg (.ok (.log 0 op)))
        (some (.panic "attempt to subtract with overflow")) (self.store 0 op) [] []
  | commits {opId : OpId} {op prev : Operation α} : opId ≠ 0 → opId ≠ 1 →
      (self.store opId op).operations.lookup (opId - 1) = some prev →
      Serves self now (.nodeMsg (.ok (.log opId op))) none
        { self with operations := (self.store opId op).operations.erase (opId - 1) } []
        [(opId - 1, prev)]
  | stores {opId : OpId} {op : Operation α} : opId ≠ 0 → opId ≠ 1 →
      (self.store opId op).operations.lookup (opId - 1) = none →
      Serves self now (.nodeMsg (.ok (.log opId op))) none (self.store opId op) [] []
  | acks {opId : OpId} {operation : Operation α} (result : OperationResult α) :
      (∀ snapshot, operation ≠ .replaceDatabase snapshot) → opId.toNat + 1 < UInt32.size →
      Serves self now (.actorEvent (.operationResult opId operation result)) none self
        [(self.leaderAddr, .ack (opId + 1))] []
  | overflows {opId : OpId} {operation : Operation α} (result : OperationResult α) :
      (∀ snapshot, operation ≠ .replaceDatabase snapshot) → ¬ opId.toNat + 1 < UInt32.size →
      Serves self now (.actorEvent (.operationResult opId operation result))
        (some (.panic "attempt to add with overflow")) self [] []
  | flushes (opId : OpId) (snapshot : DatabaseSnapshot α) (result : OperationResult α) :
      Serves self now (.actorEvent (.operationResult opId (.replaceDatabase snapshot) result)) none
        { self with offlineQueue := [] } self.queued []
  | refusesAck (opId : OpId) :
      Serves self now (.nodeMsg (.ok (.ack opId)))
        (some (.panic "not yet implemented")) self [] []
  | forwardsJoin (addr : SocketAddr) :
      Serves self now (.nodeMsg (.ok (.join addr))) none self [(self.leaderAddr, .join addr)] []
  | viewsElecting {leaderAddr : SocketAddr} (members : List (NodeId × SocketAddr))
      (snapshot : DatabaseSnapshot α) : self.id < getIdGivenAddr leaderAddr →
      Serves self now (.nodeMsg (.ok (.clusterView members leaderAddr snapshot))) none
        ((self.install members leaderAddr).elect now).2.1
        ((self.install members leaderAddr).elect now).2.2 [(0, .replaceDatabase snapshot)]
  | views {leaderAddr : SocketAddr} (members : List (NodeId × SocketAddr))
      (snapshot : DatabaseSnapshot α) : ¬ self.id < getIdGivenAddr leaderAddr →
      Serves self now (.nodeMsg (.ok (.clusterView members leaderAddr snapshot))) none
        (self.install members leaderAddr) [] [(0, .replaceDatabase snapshot)]
  | updated (newMember : NodeId × SocketAddr) :
      Serves self now (.nodeMsg (.ok (.clusterUpdate newMember))) none (self.enroll newMember) [] []
  | queried (addr : SocketAddr) :
      Serves self now (.nodeMsg (.ok (.roleQuery addr))) none self
        [(addr, .roleResponse (getIdGivenAddr self.address) .replica)] []
  | refusesRole (nodeId : NodeId) (role : NodeRole) :
      Serves self now (.nodeMsg (.ok (.roleResponse nodeId role)))
        (some (.panic "not yet implemented")) self [] []

/-- The turns an election is made of, in either role: the messages of one, its
    timeout, and a lost peer, which may set one off. -/
inductive Sways [AddrHash] (now : Nat) : NodeRuntime α → Event α → Option Fault → NodeRuntime α →
    List (SocketAddr × Message α) → Prop where
  | asked {node : NodeRuntime α} {candidateId : NodeId} (candidateAddr : SocketAddr) :
      candidateId < node.id →
      Sways now node (.nodeMsg (.ok (.election candidateId candidateAddr))) none
        (node.elect now).1 ((candidateAddr, .electionOk node.id) :: (node.elect now).2)
  | outranked {node : NodeRuntime α} {candidateId : NodeId} (candidateAddr : SocketAddr) :
      ¬ candidateId < node.id →
      Sways now node (.nodeMsg (.ok (.election candidateId candidateAddr))) none node []
  | answered {node : NodeRuntime α} (responderId : NodeId) :
      Sways now node (.nodeMsg (.ok (.electionOk responderId))) none (node.electing none) []
  | follows {node : NodeRuntime α} {leaderId : NodeId} (leaderAddr : SocketAddr) :
      node.id < leaderId →
      Sways now node (.nodeMsg (.ok (.coordinator leaderId leaderAddr))) none
        (node.follow leaderAddr) []
  | demoted {self : Leader α} (leaderAddr : SocketAddr) :
      Sways now (.leader self) (.nodeMsg (.ok (.coordinator self.id leaderAddr))) none
        (NodeRuntime.follow leaderAddr (.leader self)) []
  | keeps {self : Leader α} {leaderId : NodeId} (leaderAddr : SocketAddr) : leaderId < self.id →
      Sways now (.leader self) (.nodeMsg (.ok (.coordinator leaderId leaderAddr))) none
        (.leader (self.electing none)) []
  | promoted {self : Replica α} (leaderAddr : SocketAddr) :
      Sways now (.replica self) (.nodeMsg (.ok (.coordinator self.id leaderAddr))) none
        (NodeRuntime.announced (.replica self)) []
  | panics {self : Replica α} {leaderId : NodeId} (leaderAddr : SocketAddr) : leaderId < self.id →
      Sways now (.replica self) (.nodeMsg (.ok (.coordinator leaderId leaderAddr)))
        (some (.panic "leader_id should not be less than self")) (.replica (self.electing none)) []
  | expires {node : NodeRuntime α} : Expired node.electionInProgress node.electionStart now →
      Sways now node .electionCheck none node.announced node.announcing
  | waits {node : NodeRuntime α} : ¬ Expired node.electionInProgress node.electionStart now →
      Sways now node .electionCheck none node []
  | losesPeer {self : Leader α} (addr : SocketAddr) :
      Sways now (.leader self) (.nodeMsg (.error (.connectionLostWith addr))) none
        (.leader (self.lose addr)) []
  | losesLeader {self : Replica α} :
      Sways now (.replica self) (.nodeMsg (.error (.connectionLostWith self.leaderAddr))) none
        (NodeRuntime.elect (.replica (self.lose self.leaderAddr)) now).1
        (NodeRuntime.elect (.replica (self.lose self.leaderAddr)) now).2
  | losesOther {self : Replica α} {addr : SocketAddr} : addr ≠ self.leaderAddr →
      Sways now (.replica self) (.nodeMsg (.error (.connectionLostWith addr))) none
        (.replica (self.lose addr)) []

/-- Everything a turn can do to a node. -/
inductive Outcome [AddrHash] (now : Nat) (event : Event α) (fault : Option Fault) :
    NodeRuntime α → NodeRuntime α → List (SocketAddr × Message α) →
      List (OpId × Operation α) → Prop where
  | leader {self self' : Leader α} {out : List (SocketAddr × Message α)}
      {commands : List (OpId × Operation α)} : self.Serves now event fault self' out commands →
      Outcome now event fault (.leader self) (.leader self') out commands
  | replica {self self' : Replica α} {out : List (SocketAddr × Message α)}
      {commands : List (OpId × Operation α)} : self.Serves now event fault self' out commands →
      Outcome now event fault (.replica self) (.replica self') out commands
  | sways {node node' : NodeRuntime α} {out : List (SocketAddr × Message α)} :
      Sways now node event fault node' out → Outcome now event fault node node' out []

/-! ## Every turn has an outcome -/

/-- The handles `t` a turn left, against those it started with. -/
structure Turned [AddrHash] (rt : Task α (NodeRuntime α)) (event : Event α)
    (fault : Option Fault) (t : Task α (NodeRuntime α)) (out : List (SocketAddr × Message α))
    (commands : List (OpId × Operation α)) : Prop where
  sent : t.sent = rt.sent ++ out
  gave : t.commands = rt.commands ++ commands
  connected : t.connected = rt.connected
  outcome : Outcome rt.now event fault rt.self t.self out commands

/-- The turn ends, and its outcome is one of the cases. -/
def Turns [AddrHash] (rt : Task α (NodeRuntime α)) (event : Event α) : Prop :=
  ∃ fault t out commands, NodeRuntime.turn event rt = ending fault t ∧
    Turned rt event fault t out commands

section Turns

variable [AddrHash] {rt : Task α (NodeRuntime α)} {event : Event α}
  {out : List (SocketAddr × Message α)} {commands : List (OpId × Operation α)}

theorem leader_turns {self : Leader α} (hself : rt.self = .leader self) {t : Task α (Leader α)}
    (h : Node.select event { rt with self := self } = .ok .none t)
    (hs : self.Serves rt.now event none t.self out commands) (hsent : t.sent = rt.sent ++ out)
    (hcommands : t.commands = rt.commands ++ commands) (hconn : t.connected = rt.connected) :
    Turns rt event :=
  ⟨none, _, out, commands, NodeRuntime.turn_leader hself h, hsent, hcommands, hconn,
    hself ▸ .leader hs⟩

theorem leader_panics {self : Leader α} (hself : rt.self = .leader self) {m : String}
    {t : Task α (Leader α)} (h : Node.select event { rt with self := self } = .error (.panic m) t)
    (hs : self.Serves rt.now event (some (.panic m)) t.self out commands)
    (hsent : t.sent = rt.sent ++ out) (hcommands : t.commands = rt.commands ++ commands)
    (hconn : t.connected = rt.connected) : Turns rt event :=
  ⟨some (.panic m), _, out, commands, NodeRuntime.turn_leader_panics hself h, hsent, hcommands,
    hconn, hself ▸ .leader hs⟩

theorem replica_turns {self : Replica α} (hself : rt.self = .replica self)
    {t : Task α (Replica α)} (h : Node.select event { rt with self := self } = .ok .none t)
    (hs : self.Serves rt.now event none t.self out commands) (hsent : t.sent = rt.sent ++ out)
    (hcommands : t.commands = rt.commands ++ commands) (hconn : t.connected = rt.connected) :
    Turns rt event :=
  ⟨none, _, out, commands, NodeRuntime.turn_replica hself h, hsent, hcommands, hconn,
    hself ▸ .replica hs⟩

theorem replica_panics {self : Replica α} (hself : rt.self = .replica self) {m : String}
    {t : Task α (Replica α)} (h : Node.select event { rt with self := self } = .error (.panic m) t)
    (hs : self.Serves rt.now event (some (.panic m)) t.self out commands)
    (hsent : t.sent = rt.sent ++ out) (hcommands : t.commands = rt.commands ++ commands)
    (hconn : t.connected = rt.connected) : Turns rt event :=
  ⟨some (.panic m), _, out, commands, NodeRuntime.turn_replica_panics hself h, hsent, hcommands, hconn,
    hself ▸ .replica hs⟩

/-- A turn that ends and gives no command. -/
theorem sways_turns {node : NodeRuntime α}
    (h : NodeRuntime.turn event rt = .ok () { rt with self := node, sent := rt.sent ++ out })
    (hs : Sways rt.now rt.self event none node out) : Turns rt event :=
  ⟨none, _, out, [], h, rfl, (List.append_nil _).symm, rfl, .sways hs⟩

/-- A turn that only changes the node. -/
theorem sways_silently {node : NodeRuntime α}
    (h : NodeRuntime.turn event rt = .ok () { rt with self := node })
    (hs : Sways rt.now rt.self event none node []) : Turns rt event :=
  ⟨none, _, [], [], h, (List.append_nil _).symm, (List.append_nil _).symm, rfl, .sways hs⟩

/-! ### Requests and replication -/

/-- A request in either role. -/
theorem request_turns (hrel : rt.Reliable) {reqId : ReqId} {op : Operation α} {addr : SocketAddr}
    (hev : Asks rt.self.address event reqId op addr)
    (hon : ∀ self, rt.self = .leader self → self.isOffline = false)
    (hon' : ∀ self, rt.self = .replica self → self.isOffline = false) : Turns rt event := by
  cases hself : rt.self with
  | leader self =>
    rw [hself] at hev
    have hrel' : ({ rt with self := self } : Task α (Leader α)).Reliable :=
      ⟨hrel.connected, hrel.outcomes⟩
    have hsel := select_asks (t := ({ rt with self := self } : Task α (Leader α))) hev
      (hon self hself)
    by_cases hlen : self.cluster.len = 1
    · have hreq : (Node.handleRequest reqId op addr : Handler α (Leader α) Unit)
          { rt with self := self } = _ := Leader.handleRequest_lone hlen reqId op addr
      rw [bind_ok hreq] at hsel
      exact leader_turns hself hsel (.executes hev hlen) (List.append_nil _).symm rfl rfl
    · by_cases hsize : self.currentOpId.toNat + 1 < UInt32.size
      · have hreq : (Node.handleRequest reqId op addr : Handler α (Leader α) Unit)
            { rt with self := self } = _ :=
          Leader.handleRequest_replicated hrel' hlen hsize reqId op addr
        rw [bind_ok hreq] at hsel
        exact leader_turns hself hsel (.replicates hev hlen hsize) rfl (List.append_nil _).symm rfl
      · have hreq : (Node.handleRequest reqId op addr : Handler α (Leader α) Unit)
            { rt with self := self } = _ :=
          Leader.handleRequest_overflow hrel' hlen hsize reqId op addr
        rw [bind_error hreq] at hsel
        exact leader_panics hself hsel (.overflows hev hlen hsize) rfl (List.append_nil _).symm rfl
  | replica self =>
    rw [hself] at hev
    have hsel := select_asks (t := ({ rt with self := self } : Task α (Replica α))) hev
      (hon' self hself)
    have hreq : (Node.handleRequest reqId op addr : Handler α (Replica α) Unit)
        { rt with self := self } = _ :=
      Replica.handleRequest_ok ⟨hrel.connected, hrel.outcomes⟩ reqId op addr
    rw [bind_ok hreq] at hsel
    exact replica_turns hself hsel (.forwards hev) rfl (List.append_nil _).symm rfl

theorem ack_turns (opId : OpId) : Turns rt (.nodeMsg (.ok (.ack opId))) := by
  cases hself : rt.self with
  | leader self =>
    have hturns : ∀ {t : Task α (Leader α)} {commands : List (OpId × Operation α)},
        Leader.handleAck opId ({ rt with self := self } : Task α (Leader α)) = .ok () t →
        self.Serves rt.now (.nodeMsg (.ok (.ack opId))) none t.self [] commands →
        t.sent = rt.sent → t.commands = rt.commands ++ commands → t.connected = rt.connected →
        Turns rt (.nodeMsg (.ok (.ack opId))) := by
      intro t commands hack hs hsent hcommands hconn
      have hack' : (Node.handleAck opId : Handler α (Leader α) Unit)
          { rt with self := self } = .ok () t := hack
      exact leader_turns hself (bind_ok hack') hs (hsent.trans (List.append_nil _).symm)
        hcommands hconn
    cases hstored : self.operations.lookup opId with
    | none =>
      exact hturns (Leader.handleAck_unknown hstored) (.ackUnknown hstored) rfl
        (List.append_nil _).symm rfl
    | some stored =>
      by_cases hq : stored.ackCount + 1 = quorum self.cluster.len ∨ self.cluster.len = 2
      · exact hturns (Leader.handleAck_executes hstored hq) (.ackExecutes hstored hq) rfl rfl rfl
      · obtain ⟨hne, htwo⟩ := not_or.mp hq
        by_cases hzero : self.cluster.len = 0
        · have hack : (Node.handleAck opId : Handler α (Leader α) Unit)
              { rt with self := self } = _ := Leader.handleAck_panics hstored hne hzero
          have hsel : Node.select (.nodeMsg (.ok (.ack opId)))
              ({ rt with self := self } : Task α (Leader α)) = _ := bind_error hack
          exact leader_panics hself hsel (.ackPanics hstored hne hzero) (List.append_nil _).symm
            (List.append_nil _).symm rfl
        · exact hturns (Leader.handleAck_waits hstored hne htwo hzero)
            (.ackWaits hstored hne htwo hzero) rfl (List.append_nil _).symm rfl
  | replica self =>
    have hsel : Node.select (.nodeMsg (.ok (.ack opId)))
        ({ rt with self := self } : Task α (Replica α)) =
          .error (.panic "not yet implemented") { rt with self := self } := rfl
    exact replica_panics hself hsel (.refusesAck opId) (List.append_nil _).symm
      (List.append_nil _).symm rfl

theorem log_turns (hrel : rt.Reliable) (opId : OpId) (op : Operation α) :
    Turns rt (.nodeMsg (.ok (.log opId op))) := by
  cases hself : rt.self with
  | leader self =>
    have hsel : Node.select (.nodeMsg (.ok (.log opId op)))
        ({ rt with self := self } : Task α (Leader α)) =
          .error (.panic "not yet implemented") { rt with self := self } := rfl
    exact leader_panics hself hsel (.refusesLog opId op) (List.append_nil _).symm
      (List.append_nil _).symm rfl
  | replica self =>
    have hturns : ∀ {t : Task α (Replica α)} {out : List (SocketAddr × Message α)}
        {commands : List (OpId × Operation α)},
        Replica.handleLog opId op ({ rt with self := self } : Task α (Replica α)) = .ok () t →
        self.Serves rt.now (.nodeMsg (.ok (.log opId op))) none t.self out commands →
        t.sent = rt.sent ++ out → t.commands = rt.commands ++ commands →
        t.connected = rt.connected → Turns rt (.nodeMsg (.ok (.log opId op))) := by
      intro t out commands hlog hs hsent hcommands hconn
      have hlog' : (Node.handleLog opId op : Handler α (Replica α) Unit)
          { rt with self := self } = .ok () t := hlog
      exact replica_turns hself (bind_ok hlog') hs hsent hcommands hconn
    by_cases h1 : opId = 1
    · subst h1
      exact hturns (Replica.handleLog_first ⟨hrel.connected, hrel.outcomes⟩ op) (.logsFirst op) rfl
        (List.append_nil _).symm rfl
    · by_cases h0 : opId = 0
      · subst h0
        have hlog : (Node.handleLog 0 op : Handler α (Replica α) Unit)
            { rt with self := self } = _ := Replica.handleLog_zero op
        have hsel : Node.select (.nodeMsg (.ok (.log 0 op)))
            ({ rt with self := self } : Task α (Replica α)) = _ := bind_error hlog
        exact replica_panics hself hsel (.logsZero op) (List.append_nil _).symm
          (List.append_nil _).symm rfl
      · cases hprev : (self.store opId op).operations.lookup (opId - 1) with
        | none =>
          exact hturns (Replica.handleLog_stores h0 h1 hprev) (.stores h0 h1 hprev)
            (List.append_nil _).symm (List.append_nil _).symm rfl
        | some prev =>
          exact hturns (Replica.handleLog_commits h0 h1 hprev) (.commits h0 h1 hprev)
            (List.append_nil _).symm rfl rfl

theorem response_turns (reqId : ReqId) (result : OperationResult α) :
    Turns rt (.nodeMsg (.ok (.response reqId result))) := by
  cases hself : rt.self with
  | leader self =>
    have hsel : Node.select (.nodeMsg (.ok (.response reqId result)))
        ({ rt with self := self } : Task α (Leader α)) =
          .error (.panic "not yet implemented") { rt with self := self } := rfl
    exact leader_panics hself hsel (.refusesResponse reqId result) (List.append_nil _).symm
      (List.append_nil _).symm rfl
  | replica self =>
    have hres : (Node.handleResponse reqId result : Handler α (Replica α) Unit)
        { rt with self := self } = _ := Replica.handleResponse_ok reqId result
    have hsel : Node.select (.nodeMsg (.ok (.response reqId result)))
        ({ rt with self := self } : Task α (Replica α)) = _ := bind_ok hres
    exact replica_turns hself hsel (.responds reqId result) (List.append_nil _).symm
      (List.append_nil _).symm rfl

/-! ### Database results -/

theorem leader_result_turns (hrel : rt.Reliable) {self : Leader α} (hself : rt.self = .leader self)
    (opId : OpId) (operation : Operation α) (result : OperationResult α) :
    Turns rt (.actorEvent (.operationResult opId operation result)) := by
  have hrel' : ({ rt with self := self } : Task α (Leader α)).Reliable :=
    ⟨hrel.connected, hrel.outcomes⟩
  by_cases hid : opId = 0
  · subst hid
    have hres : (Node.handleOperationResult 0 operation result : Handler α (Leader α) Unit)
        { rt with self := self } = _ :=
      Leader.handleOperationResult_ok (Leader.takePending_zero operation) hrel' result
    exact leader_turns hself (select_result hres) (.answersOwn operation result) rfl
      (List.append_nil _).symm rfl
  · cases hp : self.operations.lookup opId with
    | some pending =>
      have htake := Leader.takePending_ok (t := ({ rt with self := self } : Task α (Leader α)))
        hid hp operation
      have hres : (Node.handleOperationResult opId operation result : Handler α (Leader α) Unit)
          { rt with self := self } = _ :=
        Leader.handleOperationResult_ok htake ⟨hrel.connected, hrel.outcomes⟩ result
      exact leader_turns hself (select_result hres) (.answers operation result hid hp) rfl
        (List.append_nil _).symm rfl
    | none =>
      have htake := Leader.takePending_panics
        (t := ({ rt with self := self } : Task α (Leader α))) hid hp operation
      have hres : (Node.handleOperationResult opId operation result : Handler α (Leader α) Unit)
          { rt with self := self } = _ := bind_error htake
      exact leader_panics hself (select_result_panics hres) (.unexpected operation result hid hp)
        (List.append_nil _).symm (List.append_nil _).symm rfl

theorem replica_result_turns (hrel : rt.Reliable) {self : Replica α}
    (hself : rt.self = .replica self) (opId : OpId) (operation : Operation α)
    (result : OperationResult α) :
    Turns rt (.actorEvent (.operationResult opId operation result)) := by
  have hrel' : ({ rt with self := self } : Task α (Replica α)).Reliable :=
    ⟨hrel.connected, hrel.outcomes⟩
  by_cases hop : ∀ snapshot, operation ≠ .replaceDatabase snapshot
  · by_cases hsize : opId.toNat + 1 < UInt32.size
    · have hres : (Node.handleOperationResult opId operation result : Handler α (Replica α) Unit)
          { rt with self := self } = _ :=
        Replica.handleOperationResult_ack hrel' hop hsize result
      exact replica_turns hself (select_result hres) (.acks result hop hsize) rfl
        (List.append_nil _).symm rfl
    · have hres : (Node.handleOperationResult opId operation result : Handler α (Replica α) Unit)
          { rt with self := self } = _ :=
        Replica.handleOperationResult_overflow hop hsize result
      exact replica_panics hself (select_result_panics hres) (.overflows result hop hsize)
        (List.append_nil _).symm (List.append_nil _).symm rfl
  · obtain ⟨snapshot, rfl⟩ := not_forall_not.mp hop
    have hres : (Node.handleOperationResult opId (.replaceDatabase snapshot) result :
        Handler α (Replica α) Unit) { rt with self := self } = _ :=
      Replica.handleOperationResult_flushes hrel' opId snapshot result
    exact replica_turns hself (select_result hres) (.flushes opId snapshot result) rfl
      (List.append_nil _).symm rfl

/-! ### Elections and lost peers -/

theorem election_turns (hrel : rt.Reliable) (candidateId : NodeId) (candidateAddr : SocketAddr) :
    Turns rt (.nodeMsg (.ok (.election candidateId candidateAddr))) := by
  by_cases hlt : candidateId < rt.self.id
  · refine sways_turns (NodeRuntime.turn_election hrel hlt candidateAddr |>.trans ?_)
      (.asked candidateAddr hlt)
    rw [List.append_assoc]
    rfl
  · refine sways_silently ?_ (.outranked candidateAddr hlt)
    cases hself : rt.self with
    | leader self =>
      rw [hself] at hlt
      have hsel : Node.select (.nodeMsg (.ok (.election candidateId candidateAddr)))
          ({ rt with self := self } : Task α (Leader α)) = .ok .none { rt with self := self } := by
        have hlow : ¬ candidateId < self.id := hlt
        show Leader.handleElection candidateId candidateAddr _ = _
        unfold Leader.handleElection
        rw [bind_getSelf, if_neg hlow]
        rfl
      exact NodeRuntime.turn_leader hself hsel
    | replica self =>
      rw [hself] at hlt
      have hsel : Node.select (.nodeMsg (.ok (.election candidateId candidateAddr)))
          ({ rt with self := self } : Task α (Replica α)) = .ok .none { rt with self := self } := by
        have hlow : ¬ candidateId < self.id := hlt
        show Replica.handleElection candidateId candidateAddr _ = _
        unfold Replica.handleElection
        rw [bind_getSelf, if_neg hlow]
        rfl
      exact NodeRuntime.turn_replica hself hsel

theorem coordinator_turns (leaderId : NodeId) (leaderAddr : SocketAddr) :
    Turns rt (.nodeMsg (.ok (.coordinator leaderId leaderAddr))) := by
  by_cases hlt : rt.self.id < leaderId
  · exact sways_silently (NodeRuntime.turn_coordinator hlt leaderAddr) (.follows leaderAddr hlt)
  · cases hself : rt.self with
    | leader self =>
      rw [hself] at hlt
      by_cases heq : leaderId = self.id
      · subst heq
        have hsel : Node.select (.nodeMsg (.ok (.coordinator self.id leaderAddr)))
            ({ rt with self := self } : Task α (Leader α)) = _ :=
          Leader.handleCoordinator_demotes (t := { rt with self := self }) (UInt64.le_refl _)
            leaderAddr
        exact sways_silently (NodeRuntime.turn_leader hself hsel) (hself ▸ .demoted leaderAddr)
      · have hlow : leaderId < self.id :=
          UInt64.lt_of_le_of_ne (UInt64.not_lt.mp hlt) heq
        have hsel : Node.select (.nodeMsg (.ok (.coordinator leaderId leaderAddr)))
            ({ rt with self := self } : Task α (Leader α)) = _ :=
          Leader.handleCoordinator_keeps (t := { rt with self := self }) hlow leaderAddr
        exact sways_silently (NodeRuntime.turn_leader hself hsel) (hself ▸ .keeps leaderAddr hlow)
    | replica self =>
      rw [hself] at hlt
      by_cases heq : leaderId = self.id
      · subst heq
        have hsel : Node.select (.nodeMsg (.ok (.coordinator self.id leaderAddr)))
            ({ rt with self := self } : Task α (Replica α)) = _ :=
          Replica.handleCoordinator_promotes (t := { rt with self := self }) rfl leaderAddr
        exact sways_silently (NodeRuntime.turn_replica hself hsel) (hself ▸ .promoted leaderAddr)
      · have hlow : leaderId < self.id :=
          UInt64.lt_of_le_of_ne (UInt64.not_lt.mp hlt) heq
        have hsel : Node.select (.nodeMsg (.ok (.coordinator leaderId leaderAddr)))
            ({ rt with self := self } : Task α (Replica α)) = _ :=
          Replica.handleCoordinator_panics (t := { rt with self := self }) hlow leaderAddr
        refine ⟨some (.panic "leader_id should not be less than self"), _, [], [],
          NodeRuntime.turn_replica_panics hself hsel, (List.append_nil _).symm, (List.append_nil _).symm, rfl, ?_⟩
        rw [hself]
        exact .sways (.panics leaderAddr hlow)

theorem check_turns (hrel : rt.Reliable) : Turns rt .electionCheck := by
  by_cases hexp : Expired rt.self.electionInProgress rt.self.electionStart rt.now
  · exact sways_turns (NodeRuntime.turn_electionCheck_expired hrel hexp) (.expires hexp)
  · exact sways_silently (NodeRuntime.turn_electionCheck_waits hexp) (.waits hexp)

omit [AddrHash] in
/-- A lost peer is handled after the turn's own error. -/
theorem runOnce_lost {σ : Type} [Node α σ] {t t' : Task α σ} {addr : SocketAddr}
    {roleChange : RoleChange} (h : Node.handleConnectionLostWith addr t = .ok roleChange t') :
    Node.runOnce (.nodeMsg (.error (.connectionLostWith addr))) t = .ok roleChange t' := by
  have hsel : Node.select (.nodeMsg (.error (.connectionLostWith addr))) t =
      .error (.err (.connectionLostWith addr)) t := rfl
  unfold Node.runOnce
  rw [hsel]
  dsimp only
  rw [h]

theorem lost_turns (hrel : rt.Reliable) (addr : SocketAddr) :
    Turns rt (.nodeMsg (.error (.connectionLostWith addr))) := by
  cases hself : rt.self with
  | leader self =>
    have honce : Node.runOnce (.nodeMsg (.error (.connectionLostWith addr)))
        ({ rt with self := self } : Task α (Leader α)) =
          .ok .none { rt with self := self.lose addr } := runOnce_lost rfl
    have hsways : Sways rt.now (.leader self) (.nodeMsg (.error (.connectionLostWith addr))) none
        (.leader (self.lose addr)) [] := .losesPeer addr
    rw [← hself] at hsways
    refine sways_silently ?_ hsways
    unfold NodeRuntime.turn
    rw [hself]
    exact NodeRuntime.runAs_ok honce
  | replica self =>
    have hlost : (Node.handleConnectionLostWith addr : Handler α (Replica α) RoleChange)
        { rt with self := self } = _ :=
      Replica.handleConnectionLostWith_ok ⟨hrel.connected, hrel.outcomes⟩ addr
    by_cases hleader : addr = self.leaderAddr
    · subst hleader
      rw [if_pos rfl] at hlost
      have hsways : Sways rt.now (.replica self)
          (.nodeMsg (.error (.connectionLostWith self.leaderAddr))) none _ _ := .losesLeader
      rw [← hself] at hsways
      refine sways_turns ?_ hsways
      unfold NodeRuntime.turn
      rw [hself, NodeRuntime.replica_elect]
      exact NodeRuntime.runAs_ok (runOnce_lost hlost)
    · rw [if_neg hleader] at hlost
      have hsways : Sways rt.now (.replica self)
          (.nodeMsg (.error (.connectionLostWith addr))) none _ _ := .losesOther hleader
      rw [← hself] at hsways
      refine sways_silently ?_ hsways
      unfold NodeRuntime.turn
      rw [hself]
      exact NodeRuntime.runAs_ok (runOnce_lost hlost)

/-! ### Membership -/

theorem join_turns (hrel : rt.Reliable) (addr : SocketAddr) :
    Turns rt (.nodeMsg (.ok (.join addr))) := by
  cases hself : rt.self with
  | leader self =>
    have hjoin : (Node.handleJoin addr : Handler α (Leader α) Unit) { rt with self := self } = _ :=
      Leader.handleJoin_ok ⟨hrel.connected, hrel.outcomes⟩ addr
    have hsel : Node.select (.nodeMsg (.ok (.join addr)))
        ({ rt with self := self } : Task α (Leader α)) = _ := bind_ok hjoin
    exact leader_turns hself hsel (.admits addr) rfl rfl rfl
  | replica self =>
    have hjoin : (Node.handleJoin addr : Handler α (Replica α) Unit) { rt with self := self } = _ :=
      Replica.handleJoin_ok ⟨hrel.connected, hrel.outcomes⟩ addr
    have hsel : Node.select (.nodeMsg (.ok (.join addr)))
        ({ rt with self := self } : Task α (Replica α)) = _ := bind_ok hjoin
    exact replica_turns hself hsel (.forwardsJoin addr) rfl (List.append_nil _).symm rfl

theorem clusterView_turns (hrel : rt.Reliable) (members : List (NodeId × SocketAddr))
    (leaderAddr : SocketAddr) (snapshot : DatabaseSnapshot α) :
    Turns rt (.nodeMsg (.ok (.clusterView members leaderAddr snapshot))) := by
  cases hself : rt.self with
  | leader self =>
    have hview : (Node.handleClusterView members leaderAddr snapshot : Handler α (Leader α) Unit)
        { rt with self := self } = _ :=
      Leader.handleClusterView_ok ⟨hrel.connected, hrel.outcomes⟩ members leaderAddr snapshot
    have hsel : Node.select (.nodeMsg (.ok (.clusterView members leaderAddr snapshot)))
        ({ rt with self := self } : Task α (Leader α)) = _ := bind_ok hview
    exact leader_turns hself hsel (.views members leaderAddr snapshot) rfl rfl rfl
  | replica self =>
    have hview : (Node.handleClusterView members leaderAddr snapshot : Handler α (Replica α) Unit)
        { rt with self := self } = _ :=
      Replica.handleClusterView_ok ⟨hrel.connected, hrel.outcomes⟩ members leaderAddr snapshot
    by_cases hlt : self.id < getIdGivenAddr leaderAddr
    · rw [if_pos hlt] at hview
      have hsel : Node.select (.nodeMsg (.ok (.clusterView members leaderAddr snapshot)))
          ({ rt with self := self } : Task α (Replica α)) = _ := bind_ok hview
      exact replica_turns hself hsel (.viewsElecting members snapshot hlt) rfl rfl rfl
    · rw [if_neg hlt] at hview
      have hsel : Node.select (.nodeMsg (.ok (.clusterView members leaderAddr snapshot)))
          ({ rt with self := self } : Task α (Replica α)) = _ := bind_ok hview
      exact replica_turns hself hsel (.views members snapshot hlt) (List.append_nil _).symm rfl rfl

theorem clusterUpdate_turns (newMember : NodeId × SocketAddr) :
    Turns rt (.nodeMsg (.ok (.clusterUpdate newMember))) := by
  cases hself : rt.self with
  | leader self =>
    have hsel : Node.select (.nodeMsg (.ok (.clusterUpdate newMember)))
        ({ rt with self := self } : Task α (Leader α)) = .ok .none { rt with self := self } := rfl
    exact leader_turns hself hsel (.updated newMember) (List.append_nil _).symm
      (List.append_nil _).symm rfl
  | replica self =>
    have hsel : Node.select (.nodeMsg (.ok (.clusterUpdate newMember)))
        ({ rt with self := self } : Task α (Replica α)) =
          .ok .none { rt with self := self.enroll newMember } := rfl
    exact replica_turns hself hsel (.updated newMember) (List.append_nil _).symm
      (List.append_nil _).symm rfl

theorem roleQuery_turns (hrel : rt.Reliable) (addr : SocketAddr) :
    Turns rt (.nodeMsg (.ok (.roleQuery addr))) := by
  cases hself : rt.self with
  | leader self =>
    have hquery : (Node.handleRoleQuery addr : Handler α (Leader α) Unit)
        { rt with self := self } = _ :=
      Leader.handleRoleQuery_ok ⟨hrel.connected, hrel.outcomes⟩ addr
    have hsel : Node.select (.nodeMsg (.ok (.roleQuery addr)))
        ({ rt with self := self } : Task α (Leader α)) = _ := bind_ok hquery
    exact leader_turns hself hsel (.queried addr) rfl (List.append_nil _).symm rfl
  | replica self =>
    have hquery : (Node.handleRoleQuery addr : Handler α (Replica α) Unit)
        { rt with self := self } = _ :=
      Replica.handleRoleQuery_ok ⟨hrel.connected, hrel.outcomes⟩ addr
    have hsel : Node.select (.nodeMsg (.ok (.roleQuery addr)))
        ({ rt with self := self } : Task α (Replica α)) = _ := bind_ok hquery
    exact replica_turns hself hsel (.queried addr) rfl (List.append_nil _).symm rfl

theorem roleResponse_turns (nodeId : NodeId) (role : NodeRole) :
    Turns rt (.nodeMsg (.ok (.roleResponse nodeId role))) := by
  cases hself : rt.self with
  | leader self =>
    have hsel : Node.select (.nodeMsg (.ok (.roleResponse nodeId role)))
        ({ rt with self := self } : Task α (Leader α)) =
          .error (.panic "not yet implemented") { rt with self := self } := rfl
    exact leader_panics hself hsel (.refusesRole nodeId role) (List.append_nil _).symm
      (List.append_nil _).symm rfl
  | replica self =>
    have hsel : Node.select (.nodeMsg (.ok (.roleResponse nodeId role)))
        ({ rt with self := self } : Task α (Replica α)) =
          .error (.panic "not yet implemented") { rt with self := self } := rfl
    exact replica_panics hself hsel (.refusesRole nodeId role) (List.append_nil _).symm
      (List.append_nil _).symm rfl

/-- **Turns.** Every turn of a connected, online node is one of the cases. -/
theorem turn_outcome (hrel : rt.Reliable) (hon : rt.self.isOffline = false)
    (hev : event.Online) : Turns rt event := by
  have hlead : ∀ self, rt.self = .leader self → self.isOffline = false :=
    fun self hself => by rwa [hself] at hon
  have hrep : ∀ self, rt.self = .replica self → self.isOffline = false :=
    fun self hself => by rwa [hself] at hon
  cases event with
  | nodeMsg msg =>
    cases msg with
    | ok msg =>
      cases msg with
      | request reqId op addr => exact request_turns hrel (.client reqId op addr) hlead hrep
      | response reqId result => exact response_turns reqId result
      | log opId op => exact log_turns hrel opId op
      | ack opId => exact ack_turns opId
      | election candidateId candidateAddr => exact election_turns hrel candidateId candidateAddr
      | electionOk responderId =>
        exact sways_silently (NodeRuntime.turn_electionOk responderId) (.answered responderId)
      | coordinator leaderId leaderAddr => exact coordinator_turns leaderId leaderAddr
      | join addr => exact join_turns hrel addr
      | clusterView members leaderAddr snapshot =>
        exact clusterView_turns hrel members leaderAddr snapshot
      | clusterUpdate newMember => exact clusterUpdate_turns newMember
      | roleQuery addr => exact roleQuery_turns hrel addr
      | roleResponse nodeId role => exact roleResponse_turns nodeId role
    | error e =>
      cases e with
      | connectionLostWith addr => exact lost_turns hrel addr
      | _ => exact hev.elim
  | stationMsg msg =>
    cases msg with
    | chargeRequest accountId cardId amount requestId =>
      exact request_turns hrel (.station accountId cardId amount requestId) hlead hrep
    | _ => exact hev.elim
  | actorEvent evt =>
    cases evt with
    | operationResult opId operation result =>
      cases hself : rt.self with
      | leader self => exact leader_result_turns hrel hself opId operation result
      | replica self => exact replica_result_turns hrel hself opId operation result
    | debug text => exact hev.elim
  | electionCheck => exact check_turns hrel

end Turns

end YpfRuta.Server
