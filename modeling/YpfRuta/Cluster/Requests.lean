/-
  What every turn keeps while clients only ask for charges, limits, queries and
  bills: nodes store, send and execute no snapshot command, nobody is told of a
  membership change, and a node's own fields stay as they are.
-/
import YpfRuta.Cluster.Wake

namespace YpfRuta.Cluster

open Server Lib

variable {α : Type}

/-- Every operation a node has stored or queued is one a client may ask for. -/
def Requests (node : NodeRuntime α) : Prop :=
  (match node with
    | .leader self => ∀ m p, self.operations.lookup m = some p → IsRequest p.op
    | .replica self => ∀ m op, self.operations.lookup m = some op → IsRequest op) ∧
  ∀ op ∈ node.offlineQueue, IsRequest op

/-- The messages of requests, replication and elections. -/
def Routine : Message α → Prop
  | .request _ op _ => IsRequest op
  | .log _ op => IsRequest op
  | .response .. => True
  | .ack _ => True
  | .election .. => True
  | .electionOk _ => True
  | .coordinator .. => True
  | _ => False

/-- The events of a cluster whose members neither join nor go offline. -/
def RoutineEvent : Event α → Prop
  | .nodeMsg (.ok m) => Routine m
  | .nodeMsg (.error (.connectionLostWith _)) => True
  | .stationMsg (.chargeRequest ..) => True
  | .actorEvent (.operationResult _ op _) => IsRequest op
  | .electionCheck => True
  | _ => False

theorem RoutineEvent.online {event : Event α} (h : RoutineEvent event) : event.Online := by
  cases event with
  | nodeMsg msg =>
    cases msg with
    | ok m => trivial
    | error e => cases e <;> trivial
  | stationMsg msg => cases msg <;> trivial
  | actorEvent evt => cases evt <;> trivial
  | electionCheck => trivial

theorem RoutineEvent.asks {own : SocketAddr} {event : Event α} {reqId : ReqId} {op : Operation α}
    {addr : SocketAddr} (hev : RoutineEvent event) (h : Asks own event reqId op addr) :
    IsRequest op := by
  cases h with
  | client reqId op addr => exact hev
  | station accountId cardId amount requestId => exact fun _ h => by cases h

/-- The steps of a cluster whose members neither join nor go offline. -/
def Label.Routine : Label α → Prop
  | .request _ _ op _ => IsRequest op
  | .station _ (.chargeRequest ..) => True
  | .station _ _ => False
  | _ => True

instance (l : Label α) : Decidable l.Routine :=
  match l with
  | .request _ _ op _ => inferInstanceAs (Decidable (IsRequest op))
  | .station _ (.chargeRequest ..) => isTrue trivial
  | .station _ .disconnectNode | .station _ .connectNode => isFalse id
  | .deliver .. | .result .. | .lost .. | .check .. | .crash .. | .promote .. => isTrue trivial

/-- Such a step wakes a node for a routine event. -/
theorem wake_routine {s : State α} {l : Label α} (hl : l.Routine)
    (hlinks : ∀ a b, ∀ m ∈ s.link a b, Routine m)
    (hout : ∀ a n, s.node a = some n → ∀ e ∈ n.outstanding, IsRequest e.2) {w : Waking α}
    (hw : s.wake l = some w) : RoutineEvent w.event := by
  cases l with
  | request dst reqId op addr =>
    obtain ⟨n, hup, rfl⟩ := Option.map_eq_some_iff.mp hw
    exact hl
  | station dst msg =>
    obtain ⟨n, hup, rfl⟩ := Option.map_eq_some_iff.mp hw
    cases msg with
    | chargeRequest accountId cardId amount requestId => trivial
    | disconnectNode => exact hl.elim
    | connectNode => exact hl.elim
  | deliver src dst =>
    dsimp only [State.wake] at hw
    cases hup : s.up dst with
    | none =>
      rw [hup] at hw
      cases hw
    | some n =>
      cases hlink : s.link src dst with
      | nil =>
        rw [hup, hlink] at hw
        cases hw
      | cons m rest =>
        rw [hup, hlink] at hw
        obtain rfl := (Option.some.inj hw).symm
        exact hlinks src dst m (hlink ▸ List.mem_cons_self)
  | result dst k r =>
    dsimp only [State.wake] at hw
    cases hup : s.up dst with
    | none =>
      rw [hup] at hw
      cases hw
    | some n =>
      rw [hup] at hw
      dsimp only at hw
      cases hk : n.outstanding[k]? with
      | none =>
        rw [hk] at hw
        cases hw
      | some e =>
        rw [hk] at hw
        obtain rfl := (Option.some.inj hw).symm
        exact hout dst n (up_eq_some.mp hup).1 e (List.mem_of_getElem? hk)
  | lost dst addr =>
    obtain ⟨n, hup, rfl⟩ := Option.map_eq_some_iff.mp hw
    trivial
  | check dst now =>
    obtain ⟨n, hup, rfl⟩ := Option.map_eq_some_iff.mp hw
    trivial
  | crash dst => cases hw
  | promote dst => cases hw

/-! ## What a node stores -/

section Stored

theorem Requests.leader_store {self : Leader α} (h : Requests (.leader self)) {reqId : ReqId}
    {op : Operation α} {addr : SocketAddr} (hop : IsRequest op) (next : OpId) :
    Requests (.leader { self.store reqId op addr with currentOpId := next }) := by
  refine ⟨fun m p hp => ?_, h.2⟩
  by_cases hm : m = self.currentOpId
  · have hown : (self.store reqId op addr).operations.lookup m = some (.new op addr reqId) := by
      rw [hm]
      exact AList.lookup_insert _
    obtain rfl := Option.some.inj (hown.symm.trans hp)
    exact hop
  · have hold : (self.store reqId op addr).operations.lookup m = self.operations.lookup m :=
      AList.lookup_insert_ne hm
    exact h.1 m p (hold.symm.trans hp)

theorem Requests.leader_count {self : Leader α} (h : Requests (.leader self)) {opId : OpId}
    {stored : PendingOperation α} (hstored : self.operations.lookup opId = some stored) :
    Requests (.leader (self.count opId stored)) := by
  refine ⟨fun m p hp => ?_, h.2⟩
  by_cases hm : m = opId
  · have hown : (self.count opId stored).operations.lookup m =
        some { stored with ackCount := stored.ackCount + 1 } := by
      rw [hm]
      exact AList.lookup_insert _
    obtain rfl := Option.some.inj (hown.symm.trans hp)
    exact h.1 opId stored hstored
  · have hold : (self.count opId stored).operations.lookup m = self.operations.lookup m :=
      AList.lookup_insert_ne hm
    exact h.1 m p (hold.symm.trans hp)

theorem Requests.leader_erase {self : Leader α} (h : Requests (.leader self)) (opId : OpId) :
    Requests (.leader { self with operations := self.operations.erase opId }) := by
  refine ⟨fun m p hp => ?_, h.2⟩
  by_cases hm : m = opId
  · rw [hm, AList.lookup_erase] at hp
    cases hp
  · rw [AList.lookup_erase_ne hm] at hp
    exact h.1 m p hp

theorem Requests.replica_store {self : Replica α} (h : Requests (.replica self)) (opId : OpId)
    {op : Operation α} (hop : IsRequest op) : Requests (.replica (self.store opId op)) := by
  refine ⟨fun m q hq => ?_, h.2⟩
  by_cases hm : m = opId
  · have hown : (self.store opId op).operations.lookup m = some op := by
      rw [hm]
      exact AList.lookup_insert _
    obtain rfl := Option.some.inj (hown.symm.trans hq)
    exact hop
  · have hold : (self.store opId op).operations.lookup m = self.operations.lookup m :=
      AList.lookup_insert_ne hm
    exact h.1 m q (hold.symm.trans hq)

theorem Requests.replica_erase {self : Replica α} (h : Requests (.replica self)) (opId : OpId) :
    Requests (.replica { self with operations := self.operations.erase opId }) := by
  refine ⟨fun m q hq => ?_, h.2⟩
  by_cases hm : m = opId
  · rw [hm, AList.lookup_erase] at hq
    cases hq
  · rw [AList.lookup_erase_ne hm] at hq
    exact h.1 m q hq

theorem Requests.electing {node : NodeRuntime α} (h : Requests node) (start : Option Nat) :
    Requests (node.electing start) := by
  cases node <;> exact h

/-- A promoted node starts with no pending operation, a demoted one with no stored
    one. -/
theorem Requests.changeRole {node : NodeRuntime α} (h : Requests node) (roleChange : RoleChange) :
    Requests (node.changeRole roleChange) := by
  have hleader : ∀ m p, (∅ : HashMap OpId (PendingOperation α)).lookup m = some p →
      IsRequest p.op := fun m p hp => by
    rw [AList.lookup_empty] at hp
    cases hp
  have hreplica : ∀ m op, (∅ : HashMap OpId (Operation α)).lookup m = some op →
      IsRequest op := fun m op hop => by
    rw [AList.lookup_empty] at hop
    cases hop
  cases node with
  | leader self =>
    cases roleChange with
    | none => exact h
    | promoteToLeader => exact h
    | demoteToReplica newLeaderAddr => exact ⟨hreplica, h.2⟩
  | replica self =>
    cases roleChange with
    | none => exact h
    | promoteToLeader => exact ⟨hleader, h.2⟩
    | demoteToReplica newLeaderAddr => exact h

theorem Requests.announced {node : NodeRuntime α} (h : Requests node) : Requests node.announced :=
  (h.electing none).changeRole .promoteToLeader

theorem Requests.follow {node : NodeRuntime α} (h : Requests node) (leaderAddr : SocketAddr) :
    Requests (node.follow leaderAddr) := by
  cases node with
  | leader self => exact (h.electing none).changeRole (.demoteToReplica leaderAddr)
  | replica self => exact h

theorem Requests.elect {node : NodeRuntime α} (h : Requests node) (now : Nat) :
    Requests (node.elect now).1 := by
  unfold NodeRuntime.elect
  split
  · exact h
  · split
    · exact h.announced
    · exact h.electing _

end Stored

/-! ## What a turn keeps -/

section Turns

variable {node node' : NodeRuntime α} {event : Event α} {fault : Option Fault} {now : Nat}
  {out : List (SocketAddr × Message α)} {commands : List (OpId × Operation α)}

theorem no_commands : ∀ e ∈ ([] : List (OpId × Operation α)), IsRequest e.2 :=
  fun _ he => absurd he List.not_mem_nil

theorem nothing_sent {P : SocketAddr × Message α → Prop} :
    ∀ p ∈ ([] : List (SocketAddr × Message α)), P p :=
  fun _ hp => absurd hp List.not_mem_nil

/-- A reply to a client goes to that client, and a replaced database is not answered. -/
theorem reply_client {self : Leader α} {op : Operation α} (hop : IsRequest op)
    (pending : PendingOperation α) (r : OperationResult α) :
    ∀ p ∈ (self.reply pending op r).1, p.1 = pending.clientAddr ∧
      ∀ snapshot, op ≠ .replaceDatabase snapshot := by
  intro p hp
  unfold Leader.reply at hp
  cases op <;> (try exact absurd rfl (hop _)) <;>
    by_cases hc : pending.clientAddr = self.address <;> cases r <;> simp_all

theorem reply_own {self : Leader α} {op : Operation α} (hop : IsRequest op) (ackCount : Nat)
    (requestId : ReqId) (r : OperationResult α) :
    (self.reply ⟨op, self.address, ackCount, requestId⟩ op r).1 = [] := by
  rw [List.eq_nil_iff_forall_not_mem]
  intro p hp
  exact (reply_responses hop _ r p hp).1 (reply_client hop _ r p hp).1

theorem elect_routine (node : NodeRuntime α) (now : Nat) :
    ∀ p ∈ (node.elect now).2, Routine p.2 := by
  intro p hp
  unfold NodeRuntime.elect at hp
  split at hp
  · cases hp
  · split at hp
    · obtain ⟨peer, -, rfl⟩ := List.mem_map.mp hp
      trivial
    · obtain ⟨peer, -, rfl⟩ := List.mem_map.mp hp
      trivial

/-- What a routine turn keeps of the operations, and what it sends and executes. -/
structure Orderly (node' : NodeRuntime α) (out : List (SocketAddr × Message α))
    (commands : List (OpId × Operation α)) : Prop where
  requests : Requests node'
  commands : ∀ e ∈ commands, IsRequest e.2
  sent : ∀ p ∈ out, Routine p.2

variable [AddrHash]

theorem leader_orderly {self self' : Leader α} (h : Requests (.leader self))
    (hev : RoutineEvent event) (hs : self.Serves now event fault self' out commands) :
    Orderly (.leader self') out commands := by
  cases hs with
  | executes hasks hlen =>
    refine ⟨h.leader_store (hev.asks hasks) self.currentOpId, fun e he => ?_, nothing_sent⟩
    rw [List.mem_singleton.mp he]
    exact hev.asks hasks
  | replicates hasks hlen hsize =>
    refine ⟨h.leader_store (hev.asks hasks) _, no_commands, fun p hp => ?_⟩
    obtain ⟨b, -, rfl⟩ := List.mem_map.mp hp
    exact hev.asks hasks
  | overflows hasks hlen hsize =>
    refine ⟨h.leader_store (hev.asks hasks) self.currentOpId, no_commands, fun p hp => ?_⟩
    obtain ⟨b, -, rfl⟩ := List.mem_map.mp hp
    exact hev.asks hasks
  | ackUnknown hnone => exact ⟨h, no_commands, nothing_sent⟩
  | ackExecutes hstored hq =>
    refine ⟨h.leader_count hstored, fun e he => ?_, nothing_sent⟩
    rw [List.mem_singleton.mp he]
    exact h.1 _ _ hstored
  | ackWaits hstored hq htwo hpos => exact ⟨h.leader_count hstored, no_commands, nothing_sent⟩
  | ackPanics hstored hq hzero => exact ⟨h.leader_count hstored, no_commands, nothing_sent⟩
  | answers op r hid hp =>
    refine ⟨h.leader_erase _, no_commands, fun p hmem => ?_⟩
    obtain ⟨-, reqId, r', hmsg⟩ := reply_responses hev _ r p hmem
    rw [hmsg]
    trivial
  | answersOwn op r =>
    rw [reply_own hev]
    exact ⟨h, no_commands, nothing_sent⟩
  | unexpected op r hid hnone => exact ⟨h, no_commands, nothing_sent⟩
  | refusesResponse reqId r => exact ⟨h, no_commands, nothing_sent⟩
  | refusesLog opId op => exact ⟨h, no_commands, nothing_sent⟩
  | admits addr => exact hev.elim
  | views members leaderAddr snapshot => exact hev.elim
  | updated newMember => exact hev.elim
  | queried addr => exact hev.elim
  | refusesRole nodeId role => exact hev.elim

theorem replica_orderly {self self' : Replica α} (h : Requests (.replica self))
    (hev : RoutineEvent event) (hs : self.Serves now event fault self' out commands) :
    Orderly (.replica self') out commands := by
  cases hs with
  | forwards hasks =>
    refine ⟨h, no_commands, fun p hp => ?_⟩
    rw [List.mem_singleton.mp hp]
    exact hev.asks hasks
  | responds reqId r => exact ⟨h, no_commands, nothing_sent⟩
  | logsFirst op =>
    refine ⟨h.replica_store 1 hev, no_commands, fun p hp => ?_⟩
    rw [List.mem_singleton.mp hp]
    trivial
  | logsZero op => exact ⟨h.replica_store 0 hev, no_commands, nothing_sent⟩
  | commits h0 h1 hprev =>
    rename_i opId op prev
    have hstored := h.replica_store opId hev
    refine ⟨hstored.replica_erase _, fun e he => ?_, nothing_sent⟩
    rw [List.mem_singleton.mp he]
    exact hstored.1 _ _ hprev
  | stores h0 h1 hprev => exact ⟨h.replica_store _ hev, no_commands, nothing_sent⟩
  | acks r hop hsize =>
    refine ⟨h, no_commands, fun p hp => ?_⟩
    rw [List.mem_singleton.mp hp]
    trivial
  | overflows r hop hsize => exact ⟨h, no_commands, nothing_sent⟩
  | flushes opId snapshot r =>
    refine ⟨⟨h.1, fun _ hop => absurd hop List.not_mem_nil⟩, no_commands, fun p hp => ?_⟩
    obtain ⟨op, hop, rfl⟩ := List.mem_map.mp hp
    exact h.2 op hop
  | refusesAck opId => exact ⟨h, no_commands, nothing_sent⟩
  | forwardsJoin addr => exact hev.elim
  | viewsElecting members snapshot hlt => exact hev.elim
  | views members snapshot hlt => exact hev.elim
  | updated newMember => exact hev.elim
  | queried addr => exact hev.elim
  | refusesRole nodeId role => exact hev.elim

theorem lose_requests {self : Replica α} (h : Requests (.replica self)) (addr : SocketAddr) :
    Requests (.replica (self.lose addr)) := by
  unfold Replica.lose
  split <;> exact h

theorem sways_orderly (h : Requests node) (hs : Sways now node event fault node' out) :
    Orderly node' out ([] : List (OpId × Operation α)) := by
  cases hs with
  | asked candidateAddr hlt =>
    refine ⟨h.elect now, no_commands, fun p hp => ?_⟩
    rcases List.mem_cons.mp hp with rfl | hp
    · trivial
    · exact elect_routine node now p hp
  | outranked candidateAddr hlt => exact ⟨h, no_commands, nothing_sent⟩
  | answered responderId => exact ⟨h.electing none, no_commands, nothing_sent⟩
  | follows leaderAddr hlt => exact ⟨h.follow leaderAddr, no_commands, nothing_sent⟩
  | demoted leaderAddr => exact ⟨h.follow leaderAddr, no_commands, nothing_sent⟩
  | keeps leaderAddr hlt => exact ⟨h.electing none, no_commands, nothing_sent⟩
  | promoted leaderAddr => exact ⟨h.announced, no_commands, nothing_sent⟩
  | panics leaderAddr hlt => exact ⟨h.electing none, no_commands, nothing_sent⟩
  | expires hexp =>
    refine ⟨h.announced, no_commands, fun p hp => ?_⟩
    obtain ⟨peer, -, rfl⟩ := List.mem_map.mp hp
    trivial
  | waits hexp => exact ⟨h, no_commands, nothing_sent⟩
  | losesPeer addr => exact ⟨h, no_commands, nothing_sent⟩
  | losesLeader =>
    exact ⟨(lose_requests h _).elect now, no_commands, elect_routine _ now⟩
  | losesOther hne => exact ⟨lose_requests h _, no_commands, nothing_sent⟩

/-- What a routine turn keeps of a node's own fields: only a lost peer leaves the
    cluster map. -/
structure Kept (event : Event α) (node node' : NodeRuntime α) : Prop where
  id : node'.id = node.id
  address : node'.address = node.address
  isOffline : node'.isOffline = node.isOffline
  cluster : node'.cluster.entries.Sublist node.cluster.entries
  known : (∀ addr, event ≠ .nodeMsg (.error (.connectionLostWith addr))) →
    node'.cluster = node.cluster

omit [AddrHash] in
theorem Kept.of (hid : node'.id = node.id) (haddr : node'.address = node.address)
    (hoff : node'.isOffline = node.isOffline) (hcluster : node'.cluster = node.cluster) :
    Kept event node node' :=
  ⟨hid, haddr, hoff, hcluster ▸ List.Sublist.refl _, fun _ => hcluster⟩

omit [AddrHash] in
theorem Kept.electing (node : NodeRuntime α) (start : Option Nat) :
    Kept event node (node.electing start) := by
  cases node <;> exact .of rfl rfl rfl rfl

omit [AddrHash] in
theorem Kept.announced (node : NodeRuntime α) : Kept event node node.announced := by
  cases node <;> exact .of rfl rfl rfl rfl

omit [AddrHash] in
theorem Kept.follow (node : NodeRuntime α) (leaderAddr : SocketAddr) :
    Kept event node (node.follow leaderAddr) := by
  cases node <;> exact .of rfl rfl rfl rfl

omit [AddrHash] in
theorem Kept.elect (node : NodeRuntime α) (now : Nat) : Kept event node (node.elect now).1 := by
  unfold NodeRuntime.elect
  split
  · exact .of rfl rfl rfl rfl
  · split
    · exact .announced node
    · exact .electing node _

/-- A replica that loses a peer. -/
theorem Kept.lose (self : Replica α) (addr : SocketAddr) :
    Kept (.nodeMsg (.error (.connectionLostWith addr)) : Event α) (.replica self)
      (.replica (self.lose addr)) := by
  refine ⟨?_, ?_, ?_, ?_, fun h => absurd rfl (h addr)⟩ <;> unfold Replica.lose <;> split
  all_goals first | rfl | exact List.filter_sublist

theorem sways_kept (hs : Sways now node event fault node' out) : Kept event node node' := by
  cases hs with
  | asked candidateAddr hlt => exact .elect node now
  | outranked candidateAddr hlt => exact .of rfl rfl rfl rfl
  | answered responderId => exact .electing node _
  | follows leaderAddr hlt => exact .follow node leaderAddr
  | demoted leaderAddr => exact .follow _ leaderAddr
  | keeps leaderAddr hlt => exact .of rfl rfl rfl rfl
  | promoted leaderAddr => exact .announced _
  | panics leaderAddr hlt => exact .of rfl rfl rfl rfl
  | expires hexp => exact .announced node
  | waits hexp => exact .of rfl rfl rfl rfl
  | losesPeer addr =>
    exact ⟨rfl, rfl, rfl, List.kerase_sublist _ _, fun h => absurd rfl (h addr)⟩
  | losesLeader =>
    rename_i self
    have hlose := Kept.lose self self.leaderAddr
    have helect : Kept (.electionCheck : Event α) (.replica (self.lose self.leaderAddr))
      (NodeRuntime.elect (.replica (self.lose self.leaderAddr)) now).1 := .elect _ now
    exact ⟨helect.id.trans hlose.id, helect.address.trans hlose.address,
      helect.isOffline.trans hlose.isOffline, helect.cluster.trans hlose.cluster,
      fun h => absurd rfl (h _)⟩
  | losesOther hne => exact .lose _ _

theorem outcome_kept (hev : RoutineEvent event)
    (ho : Outcome now event fault node node' out commands) : Kept event node node' := by
  cases ho with
  | leader hs =>
    cases hs with
    | admits addr => exact hev.elim
    | views members leaderAddr snapshot => exact hev.elim
    | _ => exact .of rfl rfl rfl rfl
  | replica hs =>
    cases hs with
    | viewsElecting members snapshot hlt => exact hev.elim
    | views members snapshot hlt => exact hev.elim
    | updated newMember => exact hev.elim
    | _ => exact .of rfl rfl rfl rfl
  | sways hs => exact sways_kept hs

theorem outcome_orderly (h : Requests node) (hev : RoutineEvent event)
    (ho : Outcome now event fault node node' out commands) : Orderly node' out commands := by
  cases ho with
  | leader hs => exact leader_orderly h hev hs
  | replica hs => exact replica_orderly h hev hs
  | sways hs => exact sways_orderly h hs

end Turns

end YpfRuta.Cluster
