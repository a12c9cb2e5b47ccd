/-
  What the nodes send can be written and read. It is asked of what comes in from outside:
  the requests of clients and the results of the databases. Then every message that sets
  out fits a frame and survives its codec, elections, joins and lost peers included.
-/
import YpfRuta.Cluster.Wake
import YpfRuta.Network.Framing
import YpfRuta.Network.RoundTrip

namespace YpfRuta.Cluster

open Server Lib Network

/-- An operation that survives its codec and fits a request. -/
structure OpTravels (op : Operation F32) : Prop where
  restores : Restores serializeOperation deserializeOperation op
  fits : 11 + operationLen op ≤ 65535

/-- A result of `op` that a leader with a view of `members` nodes can pass on. -/
def ResultTravels (members : Nat) : Operation F32 → OperationResult F32 → Prop
  | .getDatabase _, .databaseSnapshot snapshot =>
    WritableDatabase snapshot ∧ 15 + 14 * members + databaseLen snapshot ≤ 65535
  | .getDatabase _, _ => True
  | .replaceDatabase _, _ => True
  | _, r => Restores serializeOperationResult deserializeOperationResult r ∧
      5 + operationResultLen r ≤ 65535

/-- A message that survives its codec and fits a frame. Role queries are not among them:
    no reader knows their answer. -/
def Travels : Message F32 → Prop
  | .request _ op addr => addr.isIpv4 ∧ OpTravels op
  | .response _ r => Restores serializeOperationResult deserializeOperationResult r ∧
      5 + operationResultLen r ≤ 65535
  | .log _ op => Restores serializeOperation deserializeOperation op ∧ 5 + operationLen op ≤ 65535
  | .ack _ | .electionOk _ => True
  | .election _ addr | .coordinator _ addr | .join addr => addr.isIpv4
  | .clusterUpdate newMember => newMember.2.isIpv4
  | .clusterView members leaderAddr snapshot =>
    (∀ member ∈ members, member.2.isIpv4) ∧ leaderAddr.isIpv4 ∧ WritableDatabase snapshot ∧
      15 + 14 * members.length + databaseLen snapshot ≤ 65535
  | .roleQuery _ | .roleResponse .. => False

theorem Travels.fits {m : Message F32} (h : Travels m) : messageLen m ≤ 65535 := by
  cases m with
  | request reqId op addr => exact h.2.fits
  | response reqId r => exact h.2
  | log opId op => exact h.2
  | clusterView members leaderAddr snapshot => exact h.2.2.2
  | roleQuery addr => exact h.elim
  | roleResponse nodeId role => exact h.elim
  | _ => simp [messageLen]

theorem Travels.restores {m : Message F32} (h : Travels m) :
    Restores serializeMessage deserializeMessage m := by
  have hsize : messageLen m < 2 ^ 64 := Nat.lt_of_le_of_lt h.fits (by decide)
  cases m with
  | request reqId op addr => exact request_restores reqId h.1 h.2.restores
  | response reqId r => exact response_restores reqId h.1
  | log opId op => exact log_restores opId h.1
  | ack opId => exact ack_restores opId
  | election candidateId candidateAddr => exact election_restores candidateId h
  | electionOk responderId => exact electionOk_restores responderId
  | coordinator leaderId leaderAddr => exact coordinator_restores leaderId h
  | join addr => exact join_restores h
  | clusterView members leaderAddr snapshot =>
    exact clusterView_restores h.1 h.2.1 h.2.2.1 hsize
  | clusterUpdate newMember => exact clusterUpdate_restores h
  | roleQuery addr => exact h.elim
  | roleResponse nodeId role => exact h.elim

/-- What may wake a node that sees `members` nodes. -/
def EventTravels (members : Nat) : Event F32 → Prop
  | .nodeMsg (.ok m) => Travels m
  | .nodeMsg (.error (.connectionLostWith _)) => True
  | .stationMsg (.chargeRequest ..) => True
  | .actorEvent (.operationResult _ op r) => ResultTravels members op r
  | .electionCheck => True
  | _ => False

theorem EventTravels.online {members : Nat} {event : Event F32} (h : EventTravels members event) :
    event.Online := by
  unfold EventTravels at h
  split at h
  · exact True.intro
  · exact True.intro
  · exact True.intro
  · exact True.intro
  · exact True.intro
  · exact h.elim

/-! ## The node -/

/-- Every address in a view can be written. -/
def Addressable (cluster : HashMap NodeId SocketAddr) : Prop := ∀ e ∈ cluster.entries, e.2.isIpv4

namespace Addressable

variable {cluster : HashMap NodeId SocketAddr}

theorem kerase (h : Addressable cluster) (id : NodeId) :
    ∀ e ∈ cluster.entries.kerase id, e.2.isIpv4 :=
  fun e he => h e ((List.kerase_sublist id _).subset he)

theorem insert (h : Addressable cluster) (id : NodeId) {addr : SocketAddr} (ha : addr.isIpv4) :
    Addressable (cluster.insert id addr) := by
  intro e he
  obtain rfl | he : e = ⟨id, addr⟩ ∨ e ∈ cluster.entries.kerase id := List.mem_cons.mp he
  · exact ha
  · exact h.kerase id e he

theorem erase (h : Addressable cluster) (id : NodeId) : Addressable (cluster.erase id) :=
  h.kerase id

theorem viewed {members : List (NodeId × SocketAddr)} (h : ∀ member ∈ members, member.2.isIpv4) :
    Addressable (viewed members) := by
  have hfold : ∀ cluster : HashMap NodeId SocketAddr, Addressable cluster →
      Addressable (members.foldl (fun cluster m => cluster.insert m.1 m.2) cluster) := by
    induction members with
    | nil => exact fun _ hc => hc
    | cons m members ih =>
      intro cluster hc
      rw [List.foldl_cons]
      exact ih (fun x hx => h x (List.mem_cons_of_mem _ hx)) _
        (hc.insert m.1 (h m List.mem_cons_self))
  exact hfold ∅ fun e he => by cases he

theorem values (h : Addressable cluster) : ∀ p ∈ peersOf cluster, p.2.isIpv4 := by
  intro p hp
  obtain ⟨e, he, rfl⟩ := List.mem_map.mp hp
  exact h e he

end Addressable

/-- A node whose messages can be written: connected to the cluster, with nothing queued. -/
structure Writes (node : NodeRuntime F32) : Prop where
  address : node.address.isIpv4
  members : Addressable node.cluster
  online : node.isOffline = false
  queue : node.offlineQueue = []

section Writes

variable {node : NodeRuntime F32} {now : Nat}

theorem Writes.electing (h : Writes node) (start : Option Nat) : Writes (node.electing start) := by
  cases node <;> exact ⟨h.address, h.members, h.online, h.queue⟩

theorem Writes.announced (h : Writes node) : Writes node.announced := by
  cases node <;> exact ⟨h.address, h.members, h.online, h.queue⟩

theorem Writes.follow (h : Writes node) (leaderAddr : SocketAddr) :
    Writes (node.follow leaderAddr) := by
  cases node <;> exact ⟨h.address, h.members, h.online, h.queue⟩

theorem Writes.announcing (h : Writes node) : ∀ p ∈ node.announcing, Travels p.2 := by
  intro p hp
  obtain ⟨peer, -, rfl⟩ := List.mem_map.mp hp
  exact h.address

/-- An election sends the own address to the members. -/
theorem Writes.elect (h : Writes node) (now : Nat) :
    Writes (node.elect now).1 ∧ ∀ p ∈ (node.elect now).2, Travels p.2 := by
  unfold NodeRuntime.elect
  split
  · exact ⟨h, fun p hp => by cases hp⟩
  · split
    · exact ⟨h.announced, h.announcing⟩
    · refine ⟨h.electing _, fun p hp => ?_⟩
      obtain ⟨peer, -, rfl⟩ := List.mem_map.mp hp
      exact h.address

/-- An election of a replica whose role change is dropped. -/
theorem Writes.replica_elect {self : Replica F32} (h : Writes (.replica self)) (now : Nat) :
    Writes (.replica (self.elect now).2.1) ∧ ∀ p ∈ (self.elect now).2.2, Travels p.2 := by
  have hsent := (h.elect now).2
  rw [NodeRuntime.replica_elect] at hsent
  refine ⟨?_, hsent⟩
  unfold Replica.elect
  split
  · exact h
  · split <;> exact ⟨h.address, h.members, h.online, h.queue⟩

theorem Writes.leader_elect {self : Leader F32} (h : Writes (.leader self)) (now : Nat) :
    Writes (.leader (self.elect now).1) ∧ ∀ p ∈ (self.elect now).2, Travels p.2 := by
  have helect := h.elect now
  rwa [NodeRuntime.leader_elect] at helect

theorem Writes.lose [AddrHash] {self : Replica F32} (h : Writes (.replica self))
    (addr : SocketAddr) : Writes (.replica (self.lose addr)) := by
  unfold Replica.lose
  split
  · refine ⟨h.address, fun e he => ?_, h.online, h.queue⟩
    exact h.members e (List.mem_of_mem_filter he)
  · exact h

theorem nothing_travels : ∀ p ∈ ([] : List (SocketAddr × Message F32)), Travels p.2 :=
  fun _ hp => by cases hp

/-! ## Turns -/

variable [AddrHash] {event : Event F32} {fault : Option Fault} {node' : NodeRuntime F32}
  {out : List (SocketAddr × Message F32)} {commands : List (OpId × Operation F32)}

omit [AddrHash] in
/-- A request that reaches a node can be passed on. -/
theorem asked_travels {own addr : SocketAddr} {members : Nat} {reqId : ReqId} {op : Operation F32}
    (ha : Asks own event reqId op addr) (hown : own.isIpv4) (hev : EventTravels members event) :
    addr.isIpv4 ∧ OpTravels op := by
  cases ha with
  | client reqId op addr => exact hev
  | station accountId cardId amount requestId =>
    exact ⟨hown, ⟨_, rfl, charge_restores accountId cardId amount false⟩,
      show 11 + 22 ≤ 65535 by decide⟩

omit [AddrHash] in
theorem reply_travels {self : Leader F32} (hw : Writes (.leader self))
    (pending : PendingOperation F32) {op : Operation F32} {r : OperationResult F32}
    (h : ResultTravels self.cluster.len op r) :
    ∀ p ∈ (self.reply pending op r).1, Travels p.2 := by
  intro p hp
  have hresponse : Restores serializeOperationResult deserializeOperationResult r ∧
      5 + operationResultLen r ≤ 65535 → p = (pending.clientAddr, .response pending.requestId r) →
      Travels p.2 := by
    rintro hr rfl
    exact hr
  cases op with
  | getDatabase addr =>
    cases r with
    | databaseSnapshot snapshot =>
      obtain rfl := List.mem_singleton.mp hp
      refine ⟨hw.members.values, hw.address, h.1, ?_⟩
      rw [List.length_map]
      exact h.2
    | _ => cases hp
  | replaceDatabase snapshot => cases hp
  | charge accountId cardId amount fromOfflineStation =>
    unfold Leader.reply at hp
    dsimp only at hp
    split at hp
    · split at hp <;> cases hp
    · exact hresponse h (List.mem_singleton.mp hp)
  | _ =>
    unfold Leader.reply at hp
    dsimp only at hp
    split at hp
    · cases hp
    · exact hresponse h (List.mem_singleton.mp hp)

omit [AddrHash] in
theorem peers_travel {self : Leader F32} {opId : OpId} {op : Operation F32} (h : OpTravels op) :
    ∀ p ∈ self.peers.map fun a => (a, Message.log opId op), Travels p.2 := by
  intro p hp
  obtain ⟨a, -, rfl⟩ := List.mem_map.mp hp
  have hfits := h.fits
  exact ⟨h.restores, by omega⟩

theorem leader_travels {self self' : Leader F32} (hw : Writes (.leader self))
    (hev : EventTravels self.cluster.len event)
    (hs : self.Serves now event fault self' out commands) :
    Writes (.leader self') ∧ ∀ p ∈ out, Travels p.2 := by
  have hsame : ∀ {next : Leader F32}, next.address = self.address → next.cluster = self.cluster →
      next.isOffline = self.isOffline → next.offlineQueue = self.offlineQueue →
      Writes (.leader next) := by
    intro next haddr hcluster hoff hqueue
    refine ⟨?_, ?_, hoff.trans hw.online, hqueue.trans hw.queue⟩
    · show next.address.isIpv4
      rw [haddr]
      exact hw.address
    · show Addressable next.cluster
      rw [hcluster]
      exact hw.members
  cases hs with
  | executes ha hlone => exact ⟨hsame rfl rfl rfl rfl, nothing_travels⟩
  | replicates ha hmany hroom =>
    exact ⟨hsame rfl rfl rfl rfl, peers_travel (asked_travels ha hw.address hev).2⟩
  | overflows ha hmany hroom =>
    exact ⟨hsame rfl rfl rfl rfl, peers_travel (asked_travels ha hw.address hev).2⟩
  | ackUnknown hnone => exact ⟨hw, nothing_travels⟩
  | ackExecutes hsome hq => exact ⟨hsame rfl rfl rfl rfl, nothing_travels⟩
  | ackWaits hsome hq hlen hne => exact ⟨hsame rfl rfl rfl rfl, nothing_travels⟩
  | ackPanics hsome hq hlen => exact ⟨hsame rfl rfl rfl rfl, nothing_travels⟩
  | answers operation result hid hsome =>
    exact ⟨hsame rfl rfl rfl rfl, reply_travels hw _ hev⟩
  | answersOwn operation result => exact ⟨hw, reply_travels hw _ hev⟩
  | unexpected operation result hid hnone => exact ⟨hw, nothing_travels⟩
  | refusesResponse reqId result => exact ⟨hw, nothing_travels⟩
  | refusesLog opId op => exact ⟨hw, nothing_travels⟩
  | admits addr =>
    refine ⟨⟨hw.address, hw.members.insert _ hev, hw.online, hw.queue⟩, fun p hp => ?_⟩
    obtain ⟨a, -, rfl⟩ := List.mem_map.mp hp
    exact hev
  | views members leaderAddr snapshot =>
    have hviewed : Writes (.leader { self with cluster := viewed members }) :=
      ⟨hw.address, .viewed hev.1, hw.online, hw.queue⟩
    exact hviewed.leader_elect now
  | updated newMember => exact ⟨hw, nothing_travels⟩
  | queried addr => exact hev.elim
  | refusesRole nodeId role => exact ⟨hw, nothing_travels⟩

theorem replica_travels {self self' : Replica F32} (hw : Writes (.replica self))
    (hev : EventTravels self.cluster.len event)
    (hs : self.Serves now event fault self' out commands) :
    Writes (.replica self') ∧ ∀ p ∈ out, Travels p.2 := by
  have hone : ∀ {addr : SocketAddr} {m : Message F32}, Travels m →
      ∀ p ∈ [(addr, m)], Travels p.2 := by
    intro addr m hm p hp
    rw [List.mem_singleton.mp hp]
    exact hm
  have hsame : ∀ operations, Writes (.replica { self with operations := operations }) :=
    fun _ => ⟨hw.address, hw.members, hw.online, hw.queue⟩
  cases hs with
  | forwards ha => exact ⟨hw, hone (asked_travels ha hw.address hev)⟩
  | responds reqId result => exact ⟨hw, nothing_travels⟩
  | logsFirst op => exact ⟨hsame _, hone True.intro⟩
  | logsZero op => exact ⟨hsame _, nothing_travels⟩
  | commits hzero hone hprev => exact ⟨hsame _, nothing_travels⟩
  | stores hzero hone hprev => exact ⟨hsame _, nothing_travels⟩
  | acks result hop hroom => exact ⟨hw, hone True.intro⟩
  | overflows result hop hroom => exact ⟨hw, nothing_travels⟩
  | flushes opId snapshot result =>
    have hqueue : self.offlineQueue = [] := hw.queue
    refine ⟨⟨hw.address, hw.members, hw.online, rfl⟩, ?_⟩
    unfold Replica.queued
    rw [hqueue]
    exact nothing_travels
  | refusesAck opId => exact ⟨hw, nothing_travels⟩
  | forwardsJoin addr => exact ⟨hw, hone hev⟩
  | viewsElecting members snapshot hlow =>
    have hviewed : ∀ leaderAddr, Writes (.replica (self.install members leaderAddr)) :=
      fun _ => ⟨hw.address, .viewed hev.1, hw.online, hw.queue⟩
    exact (hviewed _).replica_elect now
  | views members snapshot hlow =>
    exact ⟨⟨hw.address, .viewed hev.1, hw.online, hw.queue⟩, nothing_travels⟩
  | updated newMember =>
    exact ⟨⟨hw.address, hw.members.insert _ hev, hw.online, hw.queue⟩, nothing_travels⟩
  | queried addr => exact hev.elim
  | refusesRole nodeId role => exact ⟨hw, nothing_travels⟩

theorem sways_travels (hw : Writes node) (hs : Sways now node event fault node' out) :
    Writes node' ∧ ∀ p ∈ out, Travels p.2 := by
  cases hs with
  | asked candidateAddr hlow =>
    obtain ⟨hw', hsent⟩ := hw.elect now
    refine ⟨hw', fun p hp => ?_⟩
    obtain rfl | hp := List.mem_cons.mp hp
    · exact True.intro
    · exact hsent p hp
  | outranked candidateAddr hlow => exact ⟨hw, nothing_travels⟩
  | answered responderId => exact ⟨hw.electing none, nothing_travels⟩
  | follows leaderAddr hlow => exact ⟨hw.follow leaderAddr, nothing_travels⟩
  | demoted leaderAddr => exact ⟨hw.follow leaderAddr, nothing_travels⟩
  | keeps leaderAddr hlow => exact ⟨hw.electing none, nothing_travels⟩
  | promoted leaderAddr => exact ⟨hw.announced, nothing_travels⟩
  | panics leaderAddr hlow => exact ⟨hw.electing none, nothing_travels⟩
  | expires hexp => exact ⟨hw.announced, hw.announcing⟩
  | waits hexp => exact ⟨hw, nothing_travels⟩
  | losesPeer addr =>
    exact ⟨⟨hw.address, hw.members.erase _, hw.online, hw.queue⟩, nothing_travels⟩
  | losesLeader => exact (hw.lose _).elect now
  | losesOther hne => exact ⟨hw.lose _, nothing_travels⟩

/-- **A turn sends only what can be written**, when what wakes the node can be. -/
theorem outcome_travels (hw : Writes node) (hev : EventTravels node.cluster.len event)
    (ho : Outcome now event fault node node' out commands) :
    Writes node' ∧ ∀ p ∈ out, Travels p.2 := by
  cases ho with
  | leader hs => exact leader_travels hw hev hs
  | replica hs => exact replica_travels hw hev hs
  | sways hs => exact sways_travels hw hs

end Writes

end YpfRuta.Cluster
