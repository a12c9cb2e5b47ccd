/-
  A replica that joins a leader, with the databases of both. The leader's takes the snapshot
  the replica's view brings, and the replica's installs it. Log entries follow from the
  leader's next op id on, and the replica executes an entry when the next one arrives.

  The link to the replica is reliable and in order. What the replica sends back is among the
  requests and acks the leader may get at any time.
-/
import YpfRuta.Cluster.Joins
import YpfRuta.Cluster.Replication
import YpfRuta.Cluster.Wake
import YpfRuta.Server.Members

namespace YpfRuta.Cluster.Catchup

open Server Lib
open Actors (ActorDb)

section Model

variable {Amount : Type} [Currency Amount]

/-! ## The two nodes and their databases -/

/-- `handled` and `heard` count the events of its database each node has taken, `link` is what
    is under way to the replica, and `next` the id of its next log entry. `log` keeps the
    operations the leader has numbered, and `arrival` how many commands the replica's database
    had been given up to the snapshot of its view. -/
structure State where
  leader : Leader Amount
  leaderDb : ActorDb
  handled : Nat
  log : List (OpId × Operation Amount)
  link : List (Message Amount)
  replica : Replica Amount
  replicaDb : ActorDb
  heard : Nat
  next : OpId
  arrival : Option Nat

inductive Label where
  | request (reqId : ReqId) (op : Operation Amount) (addr : SocketAddr)
  /-- A charge at the leader's station. -/
  | charge (accountId : AccountId) (cardId : CardId) (amount : Amount) (requestId : ReqId)
  | ack (opId : OpId)
  | join (addr : SocketAddr)
  | lost (addr : SocketAddr)
  /-- The leader takes the next event of its database. -/
  | result
  /-- The replica takes the next event of its database. -/
  | hear
  | deliver
  /-- An actor of the leader's database handles a message. -/
  | leaderDb (l : Actors.Label)
  | replicaDb (l : Actors.Label)

end Model

section

variable {α : Type}

/-- An operation a client asks for. The other two are for joins. -/
def OfClients : Operation α → Prop
  | .getDatabase _ => False
  | .replaceDatabase _ => False
  | _ => True

instance : DecidablePred (OfClients (α := α))
  | .getDatabase _ | .replaceDatabase _ => isFalse id
  | .charge .. | .limitAccount .. | .limitCard .. | .accountQuery .. | .bill .. => isTrue True.intro

def snapshot? : Message α → Option (DatabaseSnapshot α)
  | .clusterView _ _ snapshot => some snapshot
  | _ => none

def logId? : Message α → Option OpId
  | .log opId _ => some opId
  | _ => none

/-- The operation a turn of the leader numbers. -/
def numbered (lead lead' : Leader α) : List (OpId × Operation α) :=
  if lead'.currentOpId = lead.currentOpId then []
  else (lead'.operations.lookup lead.currentOpId).toList.map fun p => (lead.currentOpId, p.op)

end

namespace State

variable {Amount : Type} [Currency Amount] [AddrHash]

/-- One turn of the leader. It takes none that panics or changes its role. -/
def leaderTurn (s : State) (event : Event Amount) : Option State :=
  match NodeRuntime.turn event (Task.ready (.leader s.leader) 0) with
  | .ok _ t =>
    match t.self with
    | .leader self => some { s with
        leader := self
        leaderDb := Joins.commanded s.leaderDb t.commands
        log := s.log ++ numbered s.leader self
        link := s.link ++ sentTo s.replica.address t.sent }
    | .replica _ => none
  | .error .. => none

def replicaTurn (s : State) (event : Event Amount) : Option State :=
  match NodeRuntime.turn event (Task.ready (.replica s.replica) 0) with
  | .ok _ t =>
    match t.self with
    | .replica self => some { s with
        replica := self
        replicaDb := Joins.commanded s.replicaDb t.commands }
    | .leader _ => none
  | .error .. => none

omit [AddrHash] in
/-- What is noted of a message as it arrives. -/
def note (s : State) (msg : Message Amount) : State :=
  if (logId? msg).isSome then { s with next := s.next + 1 }
  else if (snapshot? msg).isSome then
    { s with arrival := some (s.replicaDb.commands.length + 1) }
  else s

def deliver (s : State) : Option State :=
  match s.link with
  | msg :: rest => ({ s with link := rest }.note msg).replicaTurn (.nodeMsg (.ok msg))
  | [] => none

def step (s : State) : Label → Option State
  | .request reqId op addr => s.leaderTurn (.nodeMsg (.ok (.request reqId op addr)))
  | .charge accountId cardId amount requestId =>
    s.leaderTurn (.stationMsg (.chargeRequest accountId cardId amount requestId))
  | .ack opId => s.leaderTurn (.nodeMsg (.ok (.ack opId)))
  | .join addr => s.leaderTurn (.nodeMsg (.ok (.join addr)))
  | .lost addr => s.leaderTurn (.nodeMsg (.error (.connectionLostWith addr)))
  | .result =>
    match s.leaderDb.events[s.handled]? with
    | some e => { s with handled := s.handled + 1 }.leaderTurn (.actorEvent (Joins.nodeEvent e))
    | none => none
  | .hear =>
    match s.replicaDb.events[s.heard]? with
    | some e => { s with heard := s.heard + 1 }.replicaTurn (.actorEvent (Joins.nodeEvent e))
    | none => none
  | .deliver => s.deliver
  | .leaderDb l =>
    if l.dest = .node then none
    else (s.leaderDb.step l).map fun db => { s with leaderDb := db }
  | .replicaDb l =>
    if l.dest = .node then none
    else (s.replicaDb.step l).map fun db => { s with replicaDb := db }

end State

section

variable {α : Type}

/-! ## What a leader's turn does for one replica -/

/-- The messages a leader sends a replica that joined it. -/
inductive ForReplica : Message α → Prop where
  | log (opId : OpId) {op : Operation α} : OfClients op → ForReplica (.log opId op)
  | update (newMember : NodeId × SocketAddr) : ForReplica (.clusterUpdate newMember)
  | view (members : List (NodeId × SocketAddr)) (leaderAddr : SocketAddr)
      (snapshot : DatabaseSnapshot α) : ForReplica (.clusterView members leaderAddr snapshot)
  | response (reqId : ReqId) (result : OperationResult α) : ForReplica (.response reqId result)

/-- The leader's turns, but for a join of the replica at `addr`. -/
inductive Wakes (addr : SocketAddr) : Event α → Prop where
  | request (reqId : ReqId) {op : Operation α} (client : SocketAddr) : OfClients op →
      Wakes addr (.nodeMsg (.ok (.request reqId op client)))
  | charge (accountId : AccountId) (cardId : CardId) (amount : α) (requestId : ReqId) :
      Wakes addr (.stationMsg (.chargeRequest accountId cardId amount requestId))
  | ack (opId : OpId) : Wakes addr (.nodeMsg (.ok (.ack opId)))
  | join {other : SocketAddr} : other ≠ addr → Wakes addr (.nodeMsg (.ok (.join other)))
  | lost (other : SocketAddr) : Wakes addr (.nodeMsg (.error (.connectionLostWith other)))
  | result (opId : OpId) (op : Operation α) (r : OperationResult α) :
      Wakes addr (.actorEvent (.operationResult opId op r))

/-- A leader with its members under their ids, and only clients' operations pending. -/
structure Sound [AddrHash] (lead : Leader α) : Prop where
  keyed : Keyed lead.cluster
  online : lead.isOffline = false
  pending : ∀ n p, lead.operations.lookup n = some p → OfClients p.op

/-- The numbers of the entries among some messages. -/
def logsOf (msgs : List (Message α)) : List Nat :=
  msgs.filterMap fun m => (logId? m).map UInt32.toNat

/-- The leader numbers an operation, and sends the entry to its peers. -/
structure Logs [AddrHash] (addr : SocketAddr) (lead lead' : Leader α) (msgs : List (Message α))
    (op : Operation α) : Prop where
  client : OfClients op
  numbered : numbered lead lead' = [(lead.currentOpId, op)]
  msgs : msgs = if addr ∈ lead.peers then [.log lead.currentOpId op] else []
  current : lead'.currentOpId.toNat = lead.currentOpId.toNat + 1

/-- What a turn of the leader does, as far as the replica at `addr` is concerned. Either it
    sends it no log entry, or it logs its next op. -/
structure Does [AddrHash] (addr : SocketAddr) (event : Event α) (lead lead' : Leader α)
    (msgs : List (Message α)) (commands : List (OpId × Operation α)) : Prop where
  sound : Sound lead'
  commands : ∀ c ∈ commands, ∀ joiner, c.2 = .getDatabase joiner → c.1 = 0 ∧ joiner ≠ addr
  kinds : ∀ m ∈ msgs, ForReplica m
  views : ∀ m ∈ msgs, ∀ snapshot, snapshot? m = some snapshot →
    ∃ n, event = .actorEvent (.operationResult n (.getDatabase addr) (.databaseSnapshot snapshot))
  member : addr ∈ lead'.peers → addr ∈ lead.peers
  logs : (lead'.currentOpId = lead.currentOpId ∧ ∀ m ∈ msgs, logId? m = none) ∨
    ∃ op, Logs addr lead lead' msgs op

/-! ## What holds of every entry of a map -/

section Entries

variable {β : Type} {P : β → Prop} {ops : HashMap OpId β} {m : OpId}

theorem all_insert {q : β} (h : ∀ n p, ops.lookup n = some p → P p) (hq : P q) (n : OpId) (p : β)
    (hp : (ops.insert m q).lookup n = some p) : P p := by
  by_cases hn : n = m
  · rw [hn, AList.lookup_insert] at hp
    rw [← Option.some.inj hp]
    exact hq
  · rw [AList.lookup_insert_ne hn] at hp
    exact h n p hp

theorem all_erase (h : ∀ n p, ops.lookup n = some p → P p) (n : OpId) (p : β)
    (hp : (ops.erase m).lookup n = some p) : P p := by
  by_cases hn : n = m
  · rw [hn, AList.lookup_erase] at hp
    cases hp
  · rw [AList.lookup_erase_ne hn] at hp
    exact h n p hp

end Entries

section Leader

variable [AddrHash] {lead lead' : Leader α} {addr : SocketAddr} {event : Event α}
  {out : List (SocketAddr × Message α)} {commands : List (OpId × Operation α)}

theorem mem_peers_iff (h : Keyed lead.cluster) :
    addr ∈ lead.peers ↔ addr ∈ lead.cluster.values ∧ getIdGivenAddr addr ≠ lead.id := by
  unfold Leader.peers
  constructor
  · intro haddr
    obtain ⟨p, hp, rfl⟩ := List.mem_map.mp haddr
    obtain ⟨hp, hne⟩ := List.mem_filter.mp hp
    obtain ⟨e, he, rfl⟩ := List.mem_map.mp hp
    have hkey : e.1 = getIdGivenAddr e.2 := h e.1 e.2 (AList.mem_lookup_iff.mpr he)
    exact ⟨List.mem_map_of_mem he, fun hid => of_decide_eq_true hne (hkey.trans hid)⟩
  · rintro ⟨haddr, hne⟩
    obtain ⟨e, he, rfl⟩ := List.mem_map.mp haddr
    have hkey : e.1 = getIdGivenAddr e.2 := h e.1 e.2 (AList.mem_lookup_iff.mpr he)
    refine List.mem_map.mpr ⟨(e.1, e.2), List.mem_filter.mpr ⟨List.mem_map_of_mem he, ?_⟩, rfl⟩
    exact decide_eq_true fun hid => hne (hkey.symm.trans hid)

theorem peers_nodup (h : Keyed lead.cluster) : lead.peers.Nodup := by
  have hvalues : lead.cluster.values.Nodup :=
    values_nodup fun e he => h e.1 e.2 (AList.mem_lookup_iff.mpr he)
  have hsub : lead.peers.Sublist ((lead.cluster.entries.map fun e => (e.1, e.2)).map fun p => p.2) :=
    List.filter_sublist.map _
  rw [List.map_map] at hsub
  exact hvalues.sublist hsub

theorem Sound.insert (hs : Sound lead) {m : OpId} {q : PendingOperation α} (hq : OfClients q.op) :
    ∀ n p, (lead.operations.insert m q).lookup n = some p → OfClients p.op :=
  all_insert (P := fun p : PendingOperation α => OfClients p.op) hs.pending hq

omit [AddrHash] in
theorem logsOf_nil {msgs : List (Message α)} (h : ∀ m ∈ msgs, logId? m = none) :
    logsOf msgs = [] := by
  apply List.filterMap_eq_nil_iff.mpr
  intro m hm
  rw [h m hm]
  rfl

/-- A turn that sends the replica no log entry and no view. -/
theorem Does.plain (hsound : Sound lead') (hmember : addr ∈ lead'.peers → addr ∈ lead.peers)
    (hcur : lead'.currentOpId = lead.currentOpId) {msgs : List (Message α)}
    (hmsgs : ∀ m ∈ msgs, ForReplica m ∧ logId? m = none ∧ snapshot? m = none)
    (hcommands : ∀ c ∈ commands, ∀ joiner, c.2 = .getDatabase joiner → c.1 = 0 ∧ joiner ≠ addr) :
    Does addr event lead lead' msgs commands where
  sound := hsound
  commands := hcommands
  kinds := fun m hm => (hmsgs m hm).1
  views := fun m hm snapshot hv => by
    rw [(hmsgs m hm).2.2] at hv
    cases hv
  member := hmember
  logs := .inl ⟨hcur, fun m hm => (hmsgs m hm).2.1⟩

/-- A turn without messages that keeps the members. -/
theorem Does.silent (hs : Sound lead) (hc : lead'.cluster = lead.cluster)
    (hid : lead'.id = lead.id) (ho : lead'.isOffline = lead.isOffline)
    (hcur : lead'.currentOpId = lead.currentOpId)
    (hp : ∀ n p, lead'.operations.lookup n = some p → OfClients p.op)
    (hcommands : ∀ c ∈ commands, OfClients c.2) :
    Does addr event lead lead' [] commands := by
  have hkeyed : Keyed lead'.cluster := hc ▸ hs.keyed
  refine .plain ⟨hkeyed, ho.trans hs.online, hp⟩ (fun haddr => ?_) hcur
    (List.forall_mem_nil _) fun c hc joiner he => (he ▸ hcommands c hc : OfClients (.getDatabase joiner)).elim
  rw [mem_peers_iff hkeyed, hc, hid] at haddr
  exact (mem_peers_iff hs.keyed).mpr haddr

theorem does_asks {reqId : ReqId} {op : Operation α} {client : SocketAddr} (hs : Sound lead)
    (hop : OfClients op) (hasks : Asks lead.address event reqId op client)
    (h : lead.Serves 0 event none lead' out commands) :
    Does addr event lead lead' (sentTo addr out) commands := by
  have hsame : ∀ {r o a}, Asks lead.address event r o a → op = o := by
    intro r o a ha
    cases ha with
    | client => cases hasks; rfl
    | station => cases hasks; rfl
  cases h with
  | executes ha hlen =>
    obtain rfl := hsame ha
    exact .silent hs rfl rfl rfl rfl (hs.insert hop) (List.forall_mem_singleton.mpr hop)
  | replicates ha hlen hsize =>
    obtain rfl := hsame ha
    rw [sentTo_broadcast, (peers_nodup hs.keyed).count]
    have hmem : ∀ m ∈ List.replicate (if addr ∈ lead.peers then 1 else 0)
        (Message.log lead.currentOpId op), m = .log lead.currentOpId op :=
      fun m hm => (List.mem_replicate.mp hm).2
    have hnext : (lead.currentOpId + 1).toNat = lead.currentOpId.toNat + 1 := by
      rw [UInt32.toNat_add]
      exact Nat.mod_eq_of_lt hsize
    have hne : lead.currentOpId + 1 ≠ lead.currentOpId := fun he => by
      rw [he] at hnext
      exact Nat.succ_ne_self _ hnext.symm
    exact {
      sound := ⟨hs.keyed, hs.online, hs.insert hop⟩
      commands := fun _ hc => absurd hc List.not_mem_nil
      kinds := fun m hm => hmem m hm ▸ .log _ hop
      views := fun m hm snapshot hv => by
        rw [hmem m hm] at hv
        cases hv
      member := id
      logs := by
        refine .inr ⟨op, hop, (if_neg hne).trans ?_, ?_, hnext⟩
        · show (((lead.operations.insert lead.currentOpId _).lookup lead.currentOpId).toList.map _) = _
          rw [AList.lookup_insert]
          rfl
        · split <;> rfl }
  | _ => cases hasks

theorem does_ack {opId : OpId} (hs : Sound lead)
    (h : lead.Serves 0 (.nodeMsg (.ok (.ack opId))) none lead' out commands) :
    Does addr event lead lead' (sentTo addr out) commands := by
  cases h with
  | executes ha => cases ha
  | replicates ha => cases ha
  | ackUnknown hnone => exact .silent hs rfl rfl rfl rfl hs.pending (List.forall_mem_nil _)
  | ackExecutes hsome hq =>
    have hop := hs.pending _ _ hsome
    exact .silent hs rfl rfl rfl rfl (hs.insert hop) (List.forall_mem_singleton.mpr hop)
  | ackWaits hsome hq h2 h0 =>
    have hop := hs.pending _ _ hsome
    exact .silent hs rfl rfl rfl rfl (hs.insert hop) (List.forall_mem_nil _)

theorem does_join {other : SocketAddr} (hs : Sound lead) (hne : other ≠ addr)
    (h : lead.Serves 0 (.nodeMsg (.ok (.join other))) none lead' out commands) :
    Does addr event lead lead' (sentTo addr out) commands := by
  cases h with
  | executes ha => cases ha
  | replicates ha => cases ha
  | admits =>
    have hkeyed : Keyed (lead.enroll other).cluster := hs.keyed.insert other
    refine .plain ⟨hkeyed, hs.online, hs.pending⟩ (fun haddr => ?_) ?_ (fun m hm => ?_)
      fun c hc => ?_
    · obtain ⟨hin, hid⟩ := (mem_peers_iff hkeyed).mp haddr
      have hold := (mem_values_insert hs.keyed other addr).mp hin
      exact (mem_peers_iff hs.keyed).mpr ⟨(hold.resolve_left (Ne.symm hne)).1, hid⟩
    · rfl
    · obtain ⟨a, -, ha⟩ := List.mem_map.mp (mem_sentTo.mp hm)
      rw [← (Prod.mk.inj ha).2]
      exact ⟨.update _, rfl, rfl⟩
    · rintro joiner he
      obtain rfl := List.mem_singleton.mp hc
      obtain rfl := Operation.getDatabase.inj he
      exact ⟨rfl, hne⟩

theorem does_lost {other : SocketAddr} (hs : Sound lead)
    (h : Outcome 0 (.nodeMsg (.error (.connectionLostWith other))) none (.leader lead)
      (.leader lead') out commands) :
    Does addr event lead lead' (sentTo addr out) commands := by
  cases h with
  | leader h =>
    cases h with
    | executes ha => cases ha
    | replicates ha => cases ha
  | sways h =>
    cases h with
    | losesPeer =>
      have hkeyed : Keyed (lead.lose other).cluster := hs.keyed.erase other
      refine .plain ⟨hkeyed, hs.online, hs.pending⟩ (fun haddr => ?_) ?_
        (List.forall_mem_nil _) (List.forall_mem_nil _)
      · obtain ⟨hin, hid⟩ := (mem_peers_iff hkeyed).mp haddr
        exact (mem_peers_iff hs.keyed).mpr ⟨((mem_values_erase hs.keyed other addr).mp hin).1, hid⟩
      · rfl

omit [AddrHash] in
/-- Of an answer the replica may get a response or, if it joined, a view. -/
theorem mem_reply {pending : PendingOperation α} {op : Operation α} {r : OperationResult α}
    {m : Message α} (hm : m ∈ sentTo addr (lead.reply pending op r).1) :
    ForReplica m ∧ logId? m = none ∧ ∀ snapshot, snapshot? m = some snapshot →
      op = .getDatabase addr ∧ r = .databaseSnapshot snapshot := by
  have hin := mem_sentTo.mp hm
  have hresponse : (addr, m) = (pending.clientAddr, .response pending.requestId r) →
      ForReplica m ∧ logId? m = none ∧ ∀ snapshot, snapshot? m = some snapshot →
        op = .getDatabase addr ∧ r = .databaseSnapshot snapshot := by
    rintro ⟨rfl, rfl⟩
    exact ⟨.response _ _, rfl, nofun⟩
  cases op with
  | getDatabase joiner =>
    cases r with
    | databaseSnapshot snapshot =>
      obtain ⟨rfl, rfl⟩ := Prod.mk.inj (List.mem_singleton.mp hin)
      exact ⟨.view _ _ _, rfl, fun snapshot' hs => ⟨rfl, by rw [Option.some.inj hs]⟩⟩
    | _ => cases hin
  | replaceDatabase snapshot => cases hin
  | charge accountId cardId amount fromOfflineStation =>
    unfold Leader.reply at hin
    dsimp only at hin
    split at hin
    · split at hin <;> cases hin
    · exact hresponse (List.mem_singleton.mp hin)
  | _ =>
    unfold Leader.reply at hin
    dsimp only at hin
    split at hin
    · cases hin
    · exact hresponse (List.mem_singleton.mp hin)

theorem does_result {opId : OpId} {op : Operation α} {r : OperationResult α} (hs : Sound lead)
    (h : lead.Serves 0 (.actorEvent (.operationResult opId op r)) none lead' out commands) :
    Does addr (.actorEvent (.operationResult opId op r)) lead lead' (sentTo addr out) commands := by
  have hreply : ∀ {pending : PendingOperation α}, Sound lead' →
      (addr ∈ lead'.peers → addr ∈ lead.peers) → lead'.currentOpId = lead.currentOpId →
      Does addr (.actorEvent (.operationResult opId op r)) lead lead'
        (sentTo addr (lead.reply pending op r).1) [] := fun hsound hmember hcur => {
    sound := hsound
    commands := List.forall_mem_nil _
    kinds := fun m hm => (mem_reply hm).1
    views := fun m hm snapshot hv => by
      obtain ⟨rfl, rfl⟩ := (mem_reply hm).2.2 snapshot hv
      exact ⟨opId, rfl⟩
    member := hmember
    logs := .inl ⟨hcur, fun m hm => (mem_reply hm).2.1⟩ }
  cases h with
  | executes ha => cases ha
  | replicates ha => cases ha
  | answers _ _ hid hsome =>
    have hpending := all_erase (P := fun p : PendingOperation α => OfClients p.op) (m := opId)
      hs.pending
    exact hreply ⟨hs.keyed, hs.online, hpending⟩ id rfl
  | answersOwn => exact hreply hs id rfl

/-- **Leader's turns.** Each is one of the two kinds, for whatever it wakes up. -/
theorem does_of_outcome (hs : Sound lead) (hw : Wakes addr event)
    (h : Outcome 0 event none (.leader lead) (.leader lead') out commands) :
    Does addr event lead lead' (sentTo addr out) commands := by
  cases hw with
  | request reqId client hop =>
    cases h with
    | leader h => exact does_asks hs hop (.client reqId _ client) h
    | sways h => cases h
  | charge accountId cardId amount requestId =>
    cases h with
    | leader h =>
      have hop : OfClients (.charge accountId cardId amount false) := True.intro
      exact does_asks hs hop (.station accountId cardId amount requestId) h
    | sways h => cases h
  | ack opId =>
    cases h with
    | leader h => exact does_ack hs h
    | sways h => cases h
  | join hne =>
    cases h with
    | leader h => exact does_join hs hne h
    | sways h => cases h
  | lost other => exact does_lost hs h
  | result opId op r =>
    cases h with
    | leader h => exact does_result hs h
    | sways h => cases h

end Leader

/-! ## What a message does to the replica -/

section Replica

variable [AddrHash] {rep rep' : Replica α} {out : List (SocketAddr × Message α)}
  {commands : List (OpId × Operation α)}

/-- A replica under the same address and as much online as before, with only clients'
    operations stored. -/
structure Stays (rep rep' : Replica α) : Prop where
  address : rep'.address = rep.address
  online : rep'.isOffline = rep.isOffline
  stored : ∀ n op, rep'.operations.lookup n = some op → OfClients op

/-- The entry `opId` commits is the one before it, if the replica has that. -/
def committed (rep : Replica α) (opId : OpId) : List (OpId × Operation α) :=
  if opId = 1 then [] else (rep.operations.lookup (opId - 1)).toList.map fun op => (opId - 1, op)

omit [AddrHash] in
theorem pred_ne (opId : OpId) : opId - 1 ≠ opId := by
  intro he
  have hnat := congrArg UInt32.toNat he
  have hlt := opId.toNat_lt
  rw [UInt32.toNat_sub, show (1 : UInt32).toNat = 1 from rfl] at hnat
  omega

omit [AddrHash] in
theorem lookup_store_pred (rep : Replica α) (opId : OpId) (op : Operation α) :
    (rep.store opId op).operations.lookup (opId - 1) = rep.operations.lookup (opId - 1) :=
  AList.lookup_insert_ne (pred_ne opId)

/-- An entry is stored, and the one before it goes to the database. -/
theorem serves_log {opId : OpId} {op : Operation α} (h0 : opId ≠ 0) (hop : OfClients op)
    (hstored : ∀ n op, rep.operations.lookup n = some op → OfClients op)
    (h : rep.Serves 0 (.nodeMsg (.ok (.log opId op))) none rep' out commands) :
    Stays rep rep' ∧ rep'.operations.lookup opId = some op ∧
      commands = committed rep opId := by
  have hinsert := all_insert (m := opId) hstored hop
  cases h with
  | forwards ha => cases ha
  | logsFirst => exact ⟨⟨rfl, rfl, hinsert⟩, AList.lookup_insert _, (if_pos rfl).symm⟩
  | commits _ h1 hprev =>
    have hpred := lookup_store_pred rep opId op
    refine ⟨⟨rfl, rfl, all_erase hinsert⟩, ?_, ?_⟩
    · show ((rep.operations.insert opId op).erase (opId - 1)).lookup opId = some op
      rw [AList.lookup_erase_ne (pred_ne opId).symm, AList.lookup_insert]
    · unfold committed
      rw [if_neg h1, ← hpred, hprev]
      rfl
  | stores _ h1 hprev =>
    have hpred := lookup_store_pred rep opId op
    refine ⟨⟨rfl, rfl, hinsert⟩, AList.lookup_insert _, ?_⟩
    unfold committed
    rw [if_neg h1, ← hpred, hprev]
    rfl

omit [AddrHash] in
theorem elect_keeps (rep : Replica α) (now : Nat) :
    (rep.elect now).2.1.address = rep.address ∧ (rep.elect now).2.1.isOffline = rep.isOffline ∧
      (rep.elect now).2.1.operations = rep.operations := by
  unfold Replica.elect
  split
  · exact ⟨rfl, rfl, rfl⟩
  · split <;> exact ⟨rfl, rfl, rfl⟩

/-- A view replaces the database, and what is stored stays. -/
theorem serves_view {members : List (NodeId × SocketAddr)} {leaderAddr : SocketAddr}
    {snapshot : DatabaseSnapshot α}
    (hstored : ∀ n op, rep.operations.lookup n = some op → OfClients op)
    (h : rep.Serves 0 (.nodeMsg (.ok (.clusterView members leaderAddr snapshot))) none rep' out
      commands) :
    Stays rep rep' ∧ rep'.operations = rep.operations ∧
      commands = [(0, .replaceDatabase snapshot)] := by
  cases h with
  | forwards ha => cases ha
  | viewsElecting hlt =>
    obtain ⟨haddr, honline, hops⟩ := elect_keeps (rep.install members leaderAddr) 0
    exact ⟨⟨haddr, honline, by rw [hops]; exact hstored⟩, hops, rfl⟩
  | views hlt => exact ⟨⟨rfl, rfl, hstored⟩, rfl, rfl⟩

/-- Other messages leave the stored entries and the database alone. -/
theorem serves_other {msg : Message α} (hkind : ForReplica msg) (hlog : logId? msg = none)
    (hview : snapshot? msg = none)
    (hstored : ∀ n op, rep.operations.lookup n = some op → OfClients op)
    (h : rep.Serves 0 (.nodeMsg (.ok msg)) none rep' out commands) :
    Stays rep rep' ∧ rep'.operations = rep.operations ∧ commands = [] := by
  cases hkind with
  | log opId hop => cases hlog
  | view members leaderAddr snapshot => cases hview
  | update newMember =>
    cases h with
    | forwards ha => cases ha
    | updated => exact ⟨⟨rfl, rfl, hstored⟩, rfl, rfl⟩
  | response reqId result =>
    cases h with
    | forwards ha => cases ha
    | responds => exact ⟨⟨rfl, rfl, hstored⟩, rfl, rfl⟩

/-- So does a result of the replica's database. -/
theorem serves_heard {opId : OpId} {op : Operation α} {r : OperationResult α}
    (hstored : ∀ n op, rep.operations.lookup n = some op → OfClients op)
    (h : rep.Serves 0 (.actorEvent (.operationResult opId op r)) none rep' out commands) :
    Stays rep rep' ∧ rep'.operations = rep.operations ∧ commands = [] := by
  cases h with
  | forwards ha => cases ha
  | acks => exact ⟨⟨rfl, rfl, hstored⟩, rfl, rfl⟩
  | flushes => exact ⟨⟨rfl, rfl, hstored⟩, rfl, rfl⟩

end Replica

/-! ## Entries under way -/

/-- Entries under way from number `next` on, up to `cur` if their receiver still gets all. -/
def Contiguous (logs : List Nat) (next cur : Nat) (member : Prop) : Prop :=
  ∃ k, logs = List.range' next k ∧ next + k ≤ cur ∧ (member → next + k = cur)

namespace Contiguous

variable {logs : List Nat} {next cur : Nat} {member member' : Prop}

theorem imp (h : Contiguous logs next cur member) (hm : member' → member) :
    Contiguous logs next cur member' := by
  obtain ⟨k, hlogs, hle, heq⟩ := h
  exact ⟨k, hlogs, hle, fun hm' => heq (hm hm')⟩

theorem concat (h : Contiguous logs next cur member) (hm : member) :
    Contiguous (logs ++ [cur]) next (cur + 1) member' := by
  obtain ⟨k, hlogs, -, heq⟩ := h
  have hend := heq hm
  refine ⟨k + 1, ?_, by omega, fun _ => by omega⟩
  rw [hlogs, List.range'_1_concat, hend]

/-- An entry that is not sent. -/
theorem gap (h : Contiguous logs next cur member) (hm : ¬ member') :
    Contiguous logs next (cur + 1) member' := by
  obtain ⟨k, hlogs, hle, -⟩ := h
  exact ⟨k, hlogs, by omega, fun hm' => absurd hm' hm⟩

/-- The first entry under way is the next one. -/
theorem tail {n : Nat} (h : Contiguous (n :: logs) next cur member) :
    n = next ∧ Contiguous logs (next + 1) cur member ∧ next < cur := by
  obtain ⟨k, hlogs, hle, heq⟩ := h
  cases k with
  | zero => cases hlogs
  | succ k =>
    rw [List.range'_succ] at hlogs
    obtain ⟨rfl, rfl⟩ := List.cons.inj hlogs
    exact ⟨rfl, ⟨k, rfl, by omega, fun hm => by have := heq hm; omega⟩, by omega⟩

end Contiguous

end

/-! ## The turns of the run -/

section Turns

variable {Amount : Type} [Currency Amount] [AddrHash] {s s' : State} {event : Event Amount}

theorem leaderTurn_outcome (hon : s.leader.isOffline = false) (hev : event.Online)
    (h : s.leaderTurn event = some s') :
    ∃ lead out commands, Outcome 0 event none (.leader s.leader) (.leader lead) out commands ∧
      s' = { s with
        leader := lead
        leaderDb := Joins.commanded s.leaderDb commands
        log := s.log ++ numbered s.leader lead
        link := s.link ++ sentTo s.replica.address out } := by
  have hturns : Turns (Task.ready (.leader s.leader) 0) event :=
    turn_outcome (Task.ready_reliable _ 0) hon hev
  obtain ⟨fault, t, out, commands, hturn, ht⟩ := hturns
  have hsent : t.sent = out := ht.sent
  have hgave : t.commands = commands := ht.gave
  have hout := ht.outcome
  unfold State.leaderTurn at h
  rw [hturn] at h
  cases fault with
  | some e => cases h
  | none =>
    dsimp only [ending] at h
    rw [hsent, hgave] at h
    cases hself : t.self with
    | replica rep =>
      rw [hself] at h
      cases h
    | leader lead =>
      rw [hself] at h hout
      exact ⟨lead, out, commands, hout, (Option.some.inj h).symm⟩

/-- A debug event is only printed. -/
theorem leaderTurn_debug {text : String}
    (h : s.leaderTurn (.actorEvent (.debug text)) = some s') : s' = s := by
  have hturn : NodeRuntime.turn (.actorEvent (.debug text)) (Task.ready (.leader s.leader) 0) = _ :=
    NodeRuntime.turn_leader rfl (rfl : Node.select (.actorEvent (.debug text)) (Task.ready s.leader 0) = .ok .none _)
  unfold State.leaderTurn at h
  rw [hturn] at h
  obtain rfl := Option.some.inj h
  have hnone : numbered s.leader s.leader = [] := if_pos rfl
  show { s with log := s.log ++ numbered s.leader s.leader, link := s.link ++ [] } = s
  rw [hnone, List.append_nil, List.append_nil]

theorem replicaTurn_outcome (hon : s.replica.isOffline = false) (hev : event.Online)
    (h : s.replicaTurn event = some s') :
    ∃ rep out commands,
      Outcome 0 event none (.replica s.replica) (.replica rep) out commands ∧
        s' = { s with
          replica := rep
          replicaDb := Joins.commanded s.replicaDb commands } := by
  have hturns : Turns (Task.ready (.replica s.replica) 0) event :=
    turn_outcome (Task.ready_reliable _ 0) hon hev
  obtain ⟨fault, t, out, commands, hturn, ht⟩ := hturns
  have hgave : t.commands = commands := ht.gave
  have hout := ht.outcome
  unfold State.replicaTurn at h
  rw [hturn] at h
  cases fault with
  | some e => cases h
  | none =>
    dsimp only [ending] at h
    rw [hgave] at h
    cases hself : t.self with
    | leader lead =>
      rw [hself] at h
      cases h
    | replica rep =>
      rw [hself] at h hout
      exact ⟨rep, out, commands, hout, (Option.some.inj h).symm⟩

theorem replicaTurn_debug {text : String}
    (h : s.replicaTurn (.actorEvent (.debug text)) = some s') : s' = s := by
  have hturn : NodeRuntime.turn (.actorEvent (.debug text)) (Task.ready (.replica s.replica) 0) = _ :=
    NodeRuntime.turn_replica rfl (rfl : Node.select (.actorEvent (.debug text)) (Task.ready s.replica 0) = .ok .none _)
  unfold State.replicaTurn at h
  rw [hturn] at h
  exact (Option.some.inj h).symm

end Turns

end YpfRuta.Cluster.Catchup
