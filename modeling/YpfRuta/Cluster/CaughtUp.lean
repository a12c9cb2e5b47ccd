/-
  What a joiner's database has in the end: every operation up to the last committed entry
  once, if the leader's database was at rest with all that had been numbered, and the view
  found the replica's own at rest and no more than one entry ahead.
-/
import YpfRuta.Actors.Replaced
import YpfRuta.Actors.Taken
import YpfRuta.Cluster.Catchup

namespace YpfRuta.Cluster.Catchup

open Server Lib
open Actors (ActorDb ActorStates Covers Formed Ledger Replaced Taking)

/-! ## Operations in a database -/

section Log

variable {α : Type} {log : List (OpId × Operation α)} {n : OpId} {o : Operation α}

/-- Operations of clients, numbered from 1 on. -/
structure Numbered (log : List (OpId × Operation α)) : Prop where
  ids : log.map (fun x => x.1.toNat) = List.range' 1 log.length
  clients : ∀ x ∈ log, OfClients x.2

theorem OfClients.account (h : OfClients o) : (Actors.accountOf? o).isSome = true := by
  cases o with
  | getDatabase addr => exact h.elim
  | replaceDatabase snapshot => exact h.elim
  | _ => rfl

theorem Numbered.concat (h : Numbered log) (hn : n.toNat = log.length + 1) (ho : OfClients o) :
    Numbered (log ++ [(n, o)]) where
  ids := by
    rw [List.map_append, h.ids, List.length_append, List.length_singleton, List.range'_1_concat,
      List.map_singleton, hn, Nat.add_comm 1]
  clients := List.forall_mem_append.mpr ⟨h.clients, List.forall_mem_singleton.mpr ho⟩

/-- An entry stands where its number says. -/
theorem Numbered.getElem? (h : Numbered log) (hx : (n, o) ∈ log) :
    log[n.toNat - 1]? = some (n, o) ∧ 0 < n.toNat := by
  obtain ⟨i, hi, he⟩ := List.getElem_of_mem hx
  have hid : (log.map fun x => x.1.toNat)[i]? = some n.toNat := by
    rw [List.getElem?_map, List.getElem?_eq_getElem hi, he]
    rfl
  rw [h.ids, List.getElem?_range' hi] at hid
  have hin : n.toNat = i + 1 := by
    have := Option.some.inj hid
    omega
  rw [hin, Nat.add_sub_cancel, List.getElem?_eq_getElem hi, he]
  exact ⟨rfl, Nat.succ_pos i⟩

theorem Numbered.nodup (h : Numbered log) : (log.map Prod.fst).Nodup := by
  have hnat : ((log.map Prod.fst).map UInt32.toNat).Nodup := by
    rw [List.map_map]
    exact h.ids ▸ List.nodup_range'
  exact hnat.of_map _

theorem Numbered.take (h : Numbered log) {k : Nat} (hk : k ≤ log.length) :
    (log.take k).map (fun x => x.1.toNat) = List.range' 1 k := by
  rw [List.map_take, h.ids, List.take_range'_of_length_ge hk]

end Log

section

variable {Amount : Type} [Currency Amount]

/-- The ledger is that of the operations `base` and those of `log`, each of them executed
    once, one after another in some order. -/
def Reflects (base log : List (OpId × Operation Amount)) (L : Ledger) : Prop :=
  ∃ order : List (OpId × Operation Amount), order.Perm (base ++ log) ∧
    L = order.foldl (fun L x => L.serve x.2) ActorDb.init.ledger

section Reflects

variable {base log : List (OpId × Operation Amount)} {L : Ledger}

/-- More operations, one after another. -/
theorem Reflects.append (h : Reflects base log L) (more : List (OpId × Operation Amount)) :
    Reflects base (log ++ more) (more.foldl (fun L x => L.serve x.2) L) := by
  obtain ⟨order, hperm, rfl⟩ := h
  refine ⟨order ++ more, ?_, List.foldl_append.symm⟩
  rw [← List.append_assoc]
  exact hperm.append_right more

/-- A run in order of a database reflects its commands. -/
theorem reflects_of_run {ls : List Actors.Label} {db : ActorDb}
    (hr : Lib.run ActorDb.step ActorDb.init ls = some db)
    (hm : Meets ActorDb.step ActorDb.InOrder ActorDb.init ls) (hq : db.Quiescent)
    (hids : (db.commands.map Prod.fst).Nodup)
    (hops : ∀ x ∈ db.commands, (Actors.accountOf? x.2).isSome)
    (hperm : db.commands.Perm (base ++ log)) : Reflects base log db.ledger := by
  obtain ⟨⟨events, hserial, -⟩, -⟩ := Actors.executes_of_run
    (c := ActorDb.init.states) Formed.init.named Actors.ActorStates.idle_init hr hm hq hids hops
  exact ⟨db.commands, hperm, hserial.ledger_eq⟩

end Reflects

/-! ## Where the run starts, and what its steps have to meet -/

/-- A leader and a replica before a join. The operations the leader has numbered are on
    record, and what is under way to the replica are the entries up to the leader's last. -/
structure State.Ready [AddrHash] (s : State) : Prop where
  lead : Sound s.leader
  ids : Numbered s.log
  current : s.leader.currentOpId.toNat = s.log.length + 1
  leaderDb : Formed s.leaderDb
  handled : s.handled ≤ s.leaderDb.events.length
  online : s.replica.isOffline = false
  stored : ∀ n op, s.replica.operations.lookup n = some op → OfClients op
  replicaDb : Formed s.replicaDb
  kinds : ∀ m ∈ s.link, ForReplica m
  entries : ∀ n op, .log n op ∈ s.link → (n, op) ∈ s.log
  pos : s.next ≠ 0
  logs : Contiguous (logsOf s.link) s.next.toNat s.leader.currentOpId.toNat True
  arrival : s.arrival = none

/-- The leader's database is at rest, and no earlier snapshot for the replica is under way. -/
structure State.Settled (s : State) : Prop where
  atRest : s.leaderDb.AtRest
  free : ∀ n, s.leaderDb.router.pendingDbSnapshots n = none
  handled : ∀ v ∈ (s.leaderDb.events.drop s.handled).filterMap Actors.ActorEvent.view?,
    v.1 ≠ s.replica.address
  link : ∀ m ∈ s.link, snapshot? m = none

/-- Clients ask for their operations only, and the replica at `addr` does not join again. -/
def Label.After (addr : SocketAddr) : Label → Prop
  | .request _ op _ => OfClients op
  | .join other => other ≠ addr
  | _ => True

instance (addr : SocketAddr) : DecidablePred (Label.After addr)
  | .request _ op _ => inferInstanceAs (Decidable (OfClients op))
  | .join other => inferInstanceAs (Decidable (other ≠ addr))
  | .charge .. | .ack _ | .lost _ | .result | .hear | .deliver | .leaderDb _ | .replicaDb _ =>
    isTrue True.intro

/-- A snapshot finds the replica's database at rest and with nobody it does not name, and the
    replica with no entry it is going to commit but the first after the join. -/
def State.Receives (s : State) (joined : Nat) (snapshot : DatabaseSnapshot Amount) : Prop :=
  (s.replicaDb.Drained ∧ s.replicaDb.Rested) ∧ Covers snapshot s.replicaDb.router ∧
    (s.next.toNat = joined + 1 ∧ committed s.replica s.next = [] ∨ s.next.toNat = joined + 2)

instance (s : State) (joined : Nat) (snapshot : DatabaseSnapshot Amount) :
    Decidable (s.Receives joined snapshot) :=
  inferInstanceAs (Decidable (_ ∧ _ ∧ _))

/-- In a run from a join, by which `joined` operations had been numbered: no other snapshot
    is asked for while one is collected, a view is received as above, and from then on the
    replica's database lets no operation overtake another. -/
def State.Timely (joined : Nat) (s : State) : Label → Prop
  | .leaderDb l => s.leaderDb.Overlaps 0 l = false
  | .replicaDb l => ∀ k ∈ s.arrival, (s.replicaDb.since k).InOrder l
  | .deliver => ∀ m ∈ s.link.head?, ∀ snapshot ∈ snapshot? m, s.Receives joined snapshot
  | _ => True

instance (joined : Nat) (s : State) : ∀ l, Decidable (s.Timely joined l)
  | .leaderDb l => inferInstanceAs (Decidable (s.leaderDb.Overlaps 0 l = false))
  | .replicaDb l => inferInstanceAs (Decidable (∀ k ∈ s.arrival, (s.replicaDb.since k).InOrder l))
  | .deliver => inferInstanceAs (Decidable (∀ m ∈ s.link.head?, ∀ snapshot ∈ snapshot? m,
      s.Receives joined snapshot))
  | .request .. | .charge .. | .ack _ | .join _ | .lost _ | .result | .hear => isTrue True.intro

/-! ## What holds from the join on -/

/-- The replica has got its view, and its database has been given the snapshot and since then
    the operations it committed. By the join there were `joined` operations, and the leader's
    database had the ledger `L`. -/
structure Arrived (L : Ledger) (joined : Nat) (log : List (OpId × Operation Amount))
    (rep : Replica Amount) (db : ActorDb) (next : OpId) (k : Nat) : Prop where
  replaced : ∃ (snapshot : DatabaseSnapshot Amount) (t : ActorDb), L.Shows snapshot ∧
    Formed t ∧ t.AtRest ∧ Covers snapshot t.router ∧ Replaced 0 snapshot t.states k db
  le : joined + 1 ≤ next.toNat
  first : next.toNat = joined + 1 → committed rep next = []
  commands : db.commands.drop k = (log.drop joined).take (next.toNat - joined - 2)

/-- What holds from a join in `s₀` on. -/
structure Inv [AddrHash] (s₀ s : State) : Prop where
  address : s.replica.address = s₀.replica.address
  lead : Sound s.leader
  log : s₀.log <+: s.log
  ids : Numbered s.log
  current : s.leader.currentOpId.toNat = s.log.length + 1
  taking : Taking 0 s₀.replica.address s₀.leaderDb.states (s₀.leaderDb.events.take s₀.handled)
    s.leaderDb
  before : s₀.handled ≤ s₀.leaderDb.events.length
  handled : s₀.handled ≤ s.handled
  online : s.replica.isOffline = false
  stored : ∀ n op, s.replica.operations.lookup n = some op → OfClients op
  replicaDb : Formed s.replicaDb
  kinds : ∀ m ∈ s.link, ForReplica m
  entries : ∀ n op, .log n op ∈ s.link → (n, op) ∈ s.log
  views : ∀ m ∈ s.link, ∀ snapshot, snapshot? m = some snapshot →
    s₀.leaderDb.ledger.Shows snapshot
  pos : s.next ≠ 0
  logs : Contiguous (logsOf s.link) s.next.toNat s.leader.currentOpId.toNat
    (s₀.replica.address ∈ s.leader.peers)
  last : s₀.log.length + 1 < s.next.toNat →
    ∃ op, s.replica.operations.lookup (s.next - 1) = some op ∧ (s.next - 1, op) ∈ s.log
  arrived : ∀ k, s.arrival = some k →
    Arrived s₀.leaderDb.ledger s₀.log.length s.log s.replica s.replicaDb s.next k

section Steps

variable [AddrHash] {s₀ s s' : State} {event : Event Amount}

omit [AddrHash] in
/-- The commands of a turn, none of them for the snapshot that is taken. -/
theorem taking_commanded {addr : SocketAddr} {c : ActorStates} {old : List Actors.ActorEvent}
    {db : ActorDb} {cs : List (OpId × Operation Amount)} (h : Taking 0 addr c old db)
    (hcs : ∀ x ∈ cs, ∀ joiner, x.2 = .getDatabase joiner → x.1 = 0 ∧ joiner ≠ addr) :
    Taking 0 addr c old (Joins.commanded db cs) := by
  induction cs generalizing db with
  | nil => exact h
  | cons x cs ih =>
    obtain ⟨hx, hcs⟩ := List.forall_mem_cons.mp hcs
    exact ih (h.command hx) hcs

omit [AddrHash] in
/-- The log grows. -/
theorem Arrived.grow {L : Ledger} {joined k : Nat} {log : List (OpId × Operation Amount)}
    {rep : Replica Amount} {db : ActorDb} {next : OpId} (h : Arrived L joined log rep db next k)
    (hlog : joined ≤ log.length) (hle : next.toNat ≤ log.length + 1)
    (more : List (OpId × Operation Amount)) : Arrived L joined (log ++ more) rep db next k :=
  { h with
    commands := by
      rw [h.commands, List.drop_append_of_le_length hlog,
        List.take_append_of_le_length (by rw [List.length_drop]; omega)] }

/-- **A turn of the leader.** -/
theorem Inv.leads (hi : Inv s₀ s) (hw : Wakes s₀.replica.address event)
    (hview : ∀ n snapshot, event = .actorEvent (.operationResult n
      (.getDatabase s₀.replica.address) (.databaseSnapshot snapshot)) →
        s₀.leaderDb.ledger.Shows snapshot)
    (h : s.leaderTurn event = some s') : Inv s₀ s' := by
  have hev : event.Online := by cases hw <;> exact True.intro
  obtain ⟨lead, out, commands, hout, rfl⟩ := leaderTurn_outcome hi.lead.online hev h
  rw [hi.address]
  have hd := does_of_outcome hi.lead hw hout
  have hle : s.next.toNat ≤ s.log.length + 1 := by
    obtain ⟨k, -, hle, -⟩ := hi.logs
    have := hi.current
    omega
  exact {
    address := hi.address
    lead := hd.sound
    log := hi.log.trans (List.prefix_append _ _)
    ids := by
      obtain ⟨hcur, -⟩ | ⟨op, hlogs⟩ := hd.logs
      · show Numbered (s.log ++ numbered s.leader lead)
        rw [show numbered s.leader lead = [] from if_pos hcur, List.append_nil]
        exact hi.ids
      · show Numbered (s.log ++ numbered s.leader lead)
        rw [hlogs.numbered]
        exact hi.ids.concat hi.current hlogs.client
    current := by
      obtain ⟨hcur, -⟩ | ⟨op, hlogs⟩ := hd.logs
      · show lead.currentOpId.toNat = (s.log ++ numbered s.leader lead).length + 1
        rw [show numbered s.leader lead = [] from if_pos hcur, List.append_nil, hcur]
        exact hi.current
      · show lead.currentOpId.toNat = (s.log ++ numbered s.leader lead).length + 1
        rw [hlogs.numbered, hlogs.current, hi.current, List.length_append, List.length_singleton]
    taking := taking_commanded hi.taking hd.commands
    before := hi.before
    handled := hi.handled
    online := hi.online
    stored := hi.stored
    replicaDb := hi.replicaDb
    kinds := List.forall_mem_append.mpr ⟨hi.kinds, hd.kinds⟩
    entries := fun n o hm => by
      rcases List.mem_append.mp hm with hm | hm
      · exact List.mem_append_left _ (hi.entries n o hm)
      · obtain ⟨-, hnone⟩ | ⟨op, hlogs⟩ := hd.logs
        · cases hnone _ hm
        · rw [hlogs.msgs] at hm
          split at hm
          · obtain ⟨rfl, rfl⟩ := Message.log.inj (List.mem_singleton.mp hm)
            refine List.mem_append_right _ ?_
            rw [hlogs.numbered]
            exact List.mem_singleton_self _
          · cases hm
    views := fun m hm snapshot hs => by
      rcases List.mem_append.mp hm with hm | hm
      · exact hi.views m hm snapshot hs
      · obtain ⟨n, he⟩ := hd.views m hm snapshot hs
        exact hview n snapshot he
    pos := hi.pos
    logs := by
      show Contiguous (logsOf (s.link ++ _)) s.next.toNat lead.currentOpId.toNat _
      rw [show logsOf (s.link ++ _) = logsOf s.link ++ logsOf _ from List.filterMap_append]
      obtain ⟨hcur, hnone⟩ | ⟨op, hlogs⟩ := hd.logs
      · rw [hcur, logsOf_nil hnone, List.append_nil]
        exact hi.logs.imp hd.member
      · rw [hlogs.current, hlogs.msgs]
        by_cases hp : s₀.replica.address ∈ s.leader.peers
        · rw [if_pos hp]
          exact hi.logs.concat hp
        · rw [if_neg hp]
          show Contiguous (logsOf s.link ++ []) _ _ _
          rw [List.append_nil]
          exact hi.logs.gap fun hp' => hp (hd.member hp')
    last := fun hlt => by
      obtain ⟨op, hop, hin⟩ := hi.last hlt
      exact ⟨op, hop, List.mem_append_left _ hin⟩
    arrived := fun k hk => (hi.arrived k hk).grow hi.log.length_le hle _ }

/-- The leader takes an event of its database. -/
theorem Inv.results (hi : Inv s₀ s) {e : Actors.ActorEvent}
    (he : s.leaderDb.events[s.handled]? = some e)
    (h : { s with handled := s.handled + 1 }.leaderTurn (.actorEvent (Joins.nodeEvent e)) = some s') :
    Inv s₀ s' := by
  have hi' : Inv s₀ { s with handled := s.handled + 1 } :=
    { hi with handled := Nat.le_succ_of_le hi.handled }
  cases e with
  | debug text => exact leaderTurn_debug h ▸ hi'
  | operationResult n o r b err =>
    refine hi'.leads (.result n o r) (fun n' snapshot hevent => ?_) h
    obtain ⟨-, rfl, rfl⟩ := ActorEvent.operationResult.inj (Event.actorEvent.inj hevent)
    -- the event is one of those since the join
    obtain ⟨new, hnew, hshows⟩ := hi.taking.events
    have hlen : (s₀.leaderDb.events.take s₀.handled).length ≤ s.handled := by
      rw [List.length_take, Nat.min_eq_left hi.before]
      exact hi.handled
    rw [hnew, List.getElem?_append_right hlen] at he
    exact hshows _ (List.mem_filterMap.mpr ⟨_, List.mem_of_getElem? he, rfl⟩) rfl

/-- A turn of the replica that leaves its entries and its database alone. -/
theorem Inv.keeps (hi : Inv s₀ s) {rep : Replica Amount} (hstays : Stays s.replica rep)
    (hops : rep.operations = s.replica.operations) :
    Inv s₀ { s with replica := rep } :=
  { hi with
    address := hstays.address.trans hi.address
    online := hstays.online.trans hi.online
    stored := hstays.stored
    last := fun hlt => by
      obtain ⟨op, hop, hin⟩ := hi.last hlt
      exact ⟨op, (congrArg (AList.lookup (s.next - 1)) hops).trans hop, hin⟩
    arrived := fun k hk =>
      { hi.arrived k hk with
        first := fun hn => by
          unfold committed
          rw [hops]
          exact (hi.arrived k hk).first hn } }

/-- The replica takes an event of its database. -/
theorem Inv.hears (hi : Inv s₀ s) {e : Actors.ActorEvent}
    (h : { s with heard := s.heard + 1 }.replicaTurn (.actorEvent (Joins.nodeEvent e)) = some s') :
    Inv s₀ s' := by
  have hi' : Inv s₀ { s with heard := s.heard + 1 } := { hi with }
  cases e with
  | debug text => exact replicaTurn_debug h ▸ hi'
  | operationResult n o r b err =>
    have hev : Event.Online (.actorEvent (.operationResult n o r)) := True.intro
    obtain ⟨rep, out, commands, hout, rfl⟩ := replicaTurn_outcome hi'.online hev h
    cases hout with
    | sways hsways => cases hsways
    | replica hserves =>
      obtain ⟨hstays, hops, rfl⟩ := serves_heard hi.stored hserves
      exact hi'.keeps hstays hops

/-- An actor of the leader's database handles a message. -/
theorem Inv.leaderDb (hi : Inv s₀ s) {l : Actors.Label} {db : ActorDb} (hl : l.Internal)
    (hc : s.leaderDb.Overlaps 0 l = false) (h : s.leaderDb.step l = some db) :
    Inv s₀ { s with leaderDb := db } :=
  { hi with taking := hi.taking.step hl hc h }

/-- An actor of the replica's database handles a message. -/
theorem Inv.database (hi : Inv s₀ s) {l : Actors.Label} {db : ActorDb} (hl : l.Internal)
    (hc : ∀ k ∈ s.arrival, (s.replicaDb.since k).InOrder l) (h : s.replicaDb.step l = some db) :
    Inv s₀ { s with replicaDb := db } :=
  { hi with
    replicaDb := hi.replicaDb.step h
    arrived := fun k hk =>
      { hi.arrived k hk with
        replaced := by
          obtain ⟨snapshot, t, hshows, ht, hrest, hcovers, hr⟩ := (hi.arrived k hk).replaced
          exact ⟨snapshot, t, hshows, ht, hrest, hcovers, hr.step hl (hc k hk) h⟩
        commands := by
          rw [ActorDb.step_commands_internal hl h]
          exact (hi.arrived k hk).commands } }

/-- The message that arrives, handled by the replica. -/
theorem replicaTurn_serves {msg : Message Amount} (h : s.replicaTurn (.nodeMsg (.ok msg)) = some s')
    (hon : s.replica.isOffline = false) (hkind : ForReplica msg) :
    ∃ rep out commands, s.replica.Serves 0 (.nodeMsg (.ok msg)) none rep out commands ∧
      s' = { s with
        replica := rep
        replicaDb := Joins.commanded s.replicaDb commands } := by
  have hev : Event.Online (.nodeMsg (.ok msg)) := True.intro
  obtain ⟨rep, out, commands, hout, hs⟩ := replicaTurn_outcome hon hev h
  cases hout with
  | replica hserves => exact ⟨rep, out, commands, hserves, hs⟩
  | sways hsways => cases hkind <;> cases hsways

/-- The link without its first message, which is no entry. -/
theorem Inv.skips (hi : Inv s₀ s) {msg : Message Amount} {rest : List (Message Amount)}
    (hl : s.link = msg :: rest) (hlog : logId? msg = none) : Inv s₀ { s with link := rest } :=
  have hrest : ∀ m ∈ rest, m ∈ s.link := fun m hm => hl ▸ List.mem_cons_of_mem msg hm
  { hi with
    kinds := fun m hm => hi.kinds m (hrest m hm)
    entries := fun n o hm => hi.entries n o (hrest _ hm)
    views := fun m hm => hi.views m (hrest m hm)
    logs := by
      have hlogs := hi.logs
      rw [hl, show logsOf (msg :: rest) = logsOf rest from
        List.filterMap_cons_none (by rw [hlog]; rfl)] at hlogs
      exact hlogs }

omit [AddrHash] in
/-- The replica handles entry `next`: it commits the one before, if that is behind the
    snapshot. -/
theorem Arrived.entry {L : Ledger} {joined k : Nat} {log : List (OpId × Operation Amount)}
    {rep rep' : Replica Amount} {db : ActorDb} {next next' : OpId}
    (h : Arrived L joined log rep db next k) (hids : Numbered log)
    (hlast : joined + 1 < next.toNat →
      ∃ op, rep.operations.lookup (next - 1) = some op ∧ (next - 1, op) ∈ log)
    (hnext : next'.toNat = next.toNat + 1) :
    Arrived L joined log rep' (Joins.commanded db (committed rep next)) next' k := by
  have hle := h.le
  by_cases hfirst : next.toNat = joined + 1
  · rw [h.first hfirst]
    exact {
      replaced := h.replaced
      le := by omega
      first := fun he => by omega
      commands := by
        show db.commands.drop k = _
        rw [h.commands, show next'.toNat - joined - 2 = next.toNat - joined - 2 by omega] }
  · obtain ⟨op, hop, hin⟩ := hlast (by omega)
    have hone : (1 : OpId).toNat = 1 := rfl
    have h1 : next ≠ 1 := fun he => by
      rw [he, hone] at hfirst hle
      omega
    have hpred : (next - 1).toNat = next.toNat - 1 := by
      rw [UInt32.toNat_sub_of_le _ _ (UInt32.le_iff_toNat_le.mpr (by omega)), hone]
    have hcommitted : committed rep next = [(next - 1, op)] := by
      unfold committed
      rw [if_neg h1, hop]
      rfl
    rw [hcommitted]
    obtain ⟨snapshot, t, hshows, ht, hrest, hcovers, hr⟩ := h.replaced
    exact {
      replaced := ⟨snapshot, t, hshows, ht, hrest, hcovers, hr.command _ op⟩
      le := by omega
      first := fun he => by omega
      commands := by
        show (db.commands ++ [(next - 1, op)]).drop k = _
        have hat := (hids.getElem? hin).1
        rw [List.drop_append_of_le_length hr.given, h.commands,
          show next'.toNat - joined - 2 = next.toNat - joined - 2 + 1 by omega,
          List.take_add_one, List.getElem?_drop,
          show joined + (next.toNat - joined - 2) = (next - 1).toNat - 1 by omega, hat]
        rfl }

/-- **An entry** arrives. -/
theorem Inv.entry (hi : Inv s₀ s) {opId : OpId} {op : Operation Amount} (hop : OfClients op)
    {rest : List (Message Amount)} (hl : s.link = .log opId op :: rest)
    (h : { s with link := rest, next := s.next + 1 }.replicaTurn (.nodeMsg (.ok (.log opId op))) =
      some s') : Inv s₀ s' := by
  have hlogs := hi.logs
  rw [hl] at hlogs
  obtain ⟨hnext, htail, hlt⟩ := hlogs.tail
  obtain rfl : opId = s.next := UInt32.toNat_inj.mp hnext
  have hsucc : (s.next + 1).toNat = s.next.toNat + 1 := by
    have hcur := s.leader.currentOpId.toNat_lt
    rw [UInt32.toNat_add]
    exact Nat.mod_eq_of_lt (show s.next.toNat + 1 < 2 ^ 32 by omega)
  have hpos : s.next + 1 ≠ 0 := fun h0 => by
    rw [h0] at hsucc
    exact Nat.succ_ne_zero _ hsucc.symm
  have hrest : ∀ m ∈ rest, m ∈ s.link := fun m hm => hl ▸ List.mem_cons_of_mem _ hm
  obtain ⟨rep, out, commands, hserves, rfl⟩ := replicaTurn_serves h hi.online (.log s.next hop)
  obtain ⟨hstays, hstored, rfl⟩ := serves_log hi.pos hop hi.stored hserves
  exact { hi with
    address := hstays.address.trans hi.address
    online := hstays.online.trans hi.online
    stored := hstays.stored
    replicaDb := Joins.formed_commanded hi.replicaDb _
    kinds := fun m hm => hi.kinds m (hrest m hm)
    entries := fun n o hm => hi.entries n o (hrest _ hm)
    views := fun m hm => hi.views m (hrest m hm)
    pos := hpos
    logs := hsucc ▸ htail
    last := fun _ => by
      show ∃ o, rep.operations.lookup (s.next + 1 - 1) = some o ∧ (s.next + 1 - 1, o) ∈ s.log
      rw [UInt32.add_sub_cancel]
      exact ⟨op, hstored, hi.entries _ _ (hl ▸ List.mem_cons_self)⟩
    arrived := fun k hk => (hi.arrived k hk).entry hi.ids hi.last hsucc }

/-- **The view** arrives. -/
theorem Inv.view (hi : Inv s₀ s) {members : List (NodeId × SocketAddr)} {leaderAddr : SocketAddr}
    {snapshot : DatabaseSnapshot Amount} {rest : List (Message Amount)}
    (hl : s.link = .clusterView members leaderAddr snapshot :: rest)
    (hc : s.Receives s₀.log.length snapshot)
    (h : { s with link := rest, arrival := some (s.replicaDb.commands.length + 1) }.replicaTurn
      (.nodeMsg (.ok (.clusterView members leaderAddr snapshot))) = some s') : Inv s₀ s' := by
  obtain ⟨rep, out, commands, hserves, rfl⟩ :=
    replicaTurn_serves h hi.online (.view members leaderAddr snapshot)
  obtain ⟨hstays, hops, rfl⟩ := serves_view hi.stored hserves
  obtain ⟨⟨hdrained, hrested⟩, hcovers, hnext⟩ := hc
  have hq := Actors.quiescent_of_known hi.replicaDb.known hdrained
  have hshows := hi.views _ (hl ▸ List.mem_cons_self) snapshot rfl
  have harrived : Arrived s₀.leaderDb.ledger s₀.log.length s.log rep
      (s.replicaDb.execute 0 (.replaceDatabase snapshot)) s.next
      (s.replicaDb.commands.length + 1) := {
    replaced := ⟨snapshot, s.replicaDb, hshows, hi.replicaDb,
      ⟨hq, Actors.idle_of_known hi.replicaDb hrested⟩, hcovers, .begin hi.replicaDb hq⟩
    le := by omega
    first := fun he => by
      unfold committed
      rw [hops]
      exact (hnext.resolve_right (by omega)).2
    commands := by
      rw [show s.next.toNat - s₀.log.length - 2 = 0 by omega, List.take_zero]
      exact List.drop_eq_nil_of_le (by simp [ActorDb.execute]) }
  exact { (hi.skips hl rfl).keeps hstays hops with
    replicaDb := Joins.formed_commanded hi.replicaDb _
    arrived := fun k hk => by
      obtain rfl := Option.some.inj hk
      exact harrived }

/-- **What arrives** is handled. -/
theorem Inv.delivers (hi : Inv s₀ s) (hc : s.Timely s₀.log.length .deliver)
    (h : s.deliver = some s') : Inv s₀ s' := by
  unfold State.deliver at h
  cases hl : s.link with
  | nil =>
    rw [hl] at h
    cases h
  | cons msg rest =>
    rw [hl] at h
    cases hi.kinds msg (hl ▸ List.mem_cons_self) with
    | log opId hop => exact hi.entry hop hl h
    | view members leaderAddr snapshot =>
      exact hi.view hl (hc _ (by rw [hl]; rfl) snapshot rfl) h
    | update newMember =>
      obtain ⟨rep, out, commands, hserves, rfl⟩ :=
        replicaTurn_serves (s := { s with link := rest }) h hi.online (.update newMember)
      obtain ⟨hstays, hops, rfl⟩ := serves_other (.update newMember) rfl rfl hi.stored hserves
      exact (hi.skips hl rfl).keeps hstays hops
    | response reqId result =>
      obtain ⟨rep, out, commands, hserves, rfl⟩ :=
        replicaTurn_serves (s := { s with link := rest }) h hi.online (.response reqId result)
      obtain ⟨hstays, hops, rfl⟩ := serves_other (.response reqId result) rfl rfl hi.stored hserves
      exact (hi.skips hl rfl).keeps hstays hops

/-- **One step** keeps what holds from the join on. -/
theorem Inv.step (hi : Inv s₀ s) {l : Label} (hl : l.After s₀.replica.address)
    (hc : s.Timely s₀.log.length l) (h : s.step l = some s') : Inv s₀ s' := by
  cases l with
  | request reqId op client => exact hi.leads (.request reqId client hl) nofun h
  | charge accountId cardId amount requestId =>
    exact hi.leads (.charge accountId cardId amount requestId) nofun h
  | ack opId => exact hi.leads (.ack opId) nofun h
  | join other => exact hi.leads (.join hl) nofun h
  | lost other => exact hi.leads (.lost other) nofun h
  | result =>
    simp only [State.step] at h
    split at h
    · exact hi.results ‹_› h
    · cases h
  | hear =>
    simp only [State.step] at h
    split at h
    · exact hi.hears h
    · cases h
  | deliver => exact hi.delivers hc h
  | leaderDb l =>
    simp only [State.step] at h
    split at h
    · cases h
    · rename_i hd
      obtain ⟨db, hdb, rfl⟩ := Option.map_eq_some_iff.mp h
      exact hi.leaderDb (.of_dest hd) hc hdb
  | replicaDb l =>
    simp only [State.step] at h
    split at h
    · cases h
    · rename_i hd
      obtain ⟨db, hdb, rfl⟩ := Option.map_eq_some_iff.mp h
      exact hi.database (.of_dest hd) hc hdb

/-- **The join.** -/
theorem State.Ready.joins (hs : s.Ready) (hset : s.Settled)
    (h : s.step (.join s.replica.address) = some s') : Inv s s' := by
  have hev : Event.Online (α := Amount) (.nodeMsg (.ok (.join s.replica.address))) := True.intro
  obtain ⟨lead, out, commands, hout, rfl⟩ := leaderTurn_outcome hs.lead.online hev h
  cases hout with
  | sways hsways => cases hsways
  | leader hserves =>
    cases hserves with
    | executes ha => cases ha
    | replicates ha => cases ha
    | admits =>
      have hnone : sentTo s.replica.address (s.leader.updates s.replica.address) = [] := by
        apply List.eq_nil_iff_forall_not_mem.mpr
        intro m hm
        obtain ⟨a, ha, hpair⟩ := List.mem_map.mp (mem_sentTo.mp hm)
        exact of_decide_eq_true (List.mem_filter.mp ha).2 (.inr (Prod.mk.inj hpair).1)
      rw [hnone, List.append_nil, show numbered s.leader (s.leader.enroll s.replica.address) = []
        from if_pos rfl, List.append_nil]
      exact {
        address := rfl
        lead := ⟨hs.lead.keyed.insert _, hs.lead.online, hs.lead.pending⟩
        log := List.prefix_refl _
        ids := hs.ids
        current := hs.current
        taking := .begin hs.leaderDb hset.atRest hset.free 0
          (List.take_append_drop s.handled s.leaderDb.events).symm hset.handled
        before := hs.handled
        handled := Nat.le_refl _
        online := hs.online
        stored := hs.stored
        replicaDb := hs.replicaDb
        kinds := hs.kinds
        entries := hs.entries
        views := fun m hm snapshot he => by
          rw [hset.link m hm] at he
          cases he
        pos := hs.pos
        logs := hs.logs.imp fun _ => True.intro
        last := fun hlt => by
          -- nothing is numbered yet beyond the leader's last
          obtain ⟨k, -, hle, -⟩ := hs.logs
          have hcur := hs.current
          have hlt : s.log.length + 1 < s.next.toNat := hlt
          omega
        arrived := fun k hk => by
          rw [hs.arrival] at hk
          cases hk }

/-- **A run** from the join on. -/
theorem Inv.of_run {s₁ : State} {ls : List Label} (h₀ : s₀.Ready) (hset : s₀.Settled)
    (hj : s₀.step (.join s₀.replica.address) = some s₁)
    (hls : ∀ l ∈ ls, l.After s₀.replica.address) (hr : Lib.run State.step s₁ ls = some s)
    (hc : Meets State.step (State.Timely s₀.log.length) s₁ ls) : Inv s₀ s :=
  run_induct_meets
    (C := fun t (l : Label) => t.Timely s₀.log.length l ∧ l.After s₀.replica.address)
    (fun _ _ _ ht hl hstep => ht.step hl.2 hl.1 hstep) hr (hc.and_forall hls) (h₀.joins hset hj)

end Steps

/-- **Joining.** The leader's database has, at rest, executed what was numbered by the join
    and, for whatever reason, the operations `base`. Once the replica has its view and entry
    `n + 1` and its database has come to rest, the operations 1 to `n` are in it, each
    executed once, and so are those of `base`. -/
theorem caught_up [AddrHash] {s₀ s₁ s : State} {ls : List Label} {n : Nat}
    {base : List (OpId × Operation Amount)} (h₀ : s₀.Ready) (hset : s₀.Settled)
    (hbase : Reflects base s₀.log s₀.leaderDb.ledger)
    (hj : s₀.step (.join s₀.replica.address) = some s₁)
    (hls : ∀ l ∈ ls, l.After s₀.replica.address) (hr : Lib.run State.step s₁ ls = some s)
    (hc : Meets State.step (State.Timely s₀.log.length) s₁ ls) (hv : s.arrival.isSome = true)
    (hn : s.next.toNat = n + 2) (hle : s₀.log.length ≤ n) (hq : s.replicaDb.Quiescent) :
    (s.log.take n).map (fun x => x.1.toNat) = List.range' 1 n ∧
      Reflects base (s.log.take n) s.replicaDb.ledger := by
  have hi : Inv s₀ s := .of_run h₀ hset hj hls hr hc
  have hlen : n ≤ s.log.length := by
    obtain ⟨k, -, hcur, -⟩ := hi.logs
    have := hi.current
    omega
  obtain ⟨k, hk⟩ := Option.isSome_iff_exists.mp hv
  have ha := hi.arrived k hk
  obtain ⟨snapshot, t, hshows, ht, hrest, hcovers, hreplaced⟩ := ha.replaced
  obtain ⟨hnamed, hidle, hledger⟩ :=
    Actors.installed_ends h₀.leaderDb hshows ht hrest 0
  -- the operations since the snapshot
  have hsince : s.log.take n = s₀.log ++ s.replicaDb.commands.drop k := by
    obtain ⟨more, hmore⟩ := hi.log
    rw [ha.commands, hn, ← hmore, List.drop_left, List.take_append,
      List.take_of_length_le hle, show n + 2 - s₀.log.length - 2 = n - s₀.log.length by omega]
  have hsub : ∀ x ∈ s.replicaDb.commands.drop k, x ∈ s.log := fun x hx =>
    List.mem_of_mem_take (hsince ▸ List.mem_append_right _ hx)
  have hids : ((s.replicaDb.commands.drop k).map Prod.fst).Nodup := by
    rw [ha.commands]
    exact hi.ids.nodup.sublist (((List.take_sublist _ _).trans (List.drop_sublist _ _)).map _)
  refine ⟨hi.ids.take hlen, ?_⟩
  rw [hsince, hreplaced.ledger hnamed hidle hq hids fun x hx => (hi.ids.clients x (hsub x hx)).account,
    hledger, hcovers.over hshows]
  exact hbase.append _

end

section Example

local instance catchupHash : AddrHash := localHash

/-- Three charges on one account. -/
def threeOps : List (OpId × Operation ℚ) :=
  [(1, .charge 4 7 30 false), (2, .charge 4 8 20 false), (3, .charge 4 7 10 false)]

def executesThree : List Actors.Label :=
  [.execute 1 (.charge 4 7 30 false), .router, .card (4, 7), .account 4, .card (4, 7), .router,
    .execute 2 (.charge 4 8 20 false), .router, .card (4, 8), .account 4, .card (4, 8), .router,
    .execute 3 (.charge 4 7 10 false), .router, .card (4, 7), .account 4, .card (4, 7), .router]

def afterThree : ActorDb := (Lib.run ActorDb.step ActorDb.init executesThree).getD ActorDb.init

/-- The database of a replica that has committed the first one. -/
def executesOne : List Actors.Label :=
  [.execute 1 (.charge 4 7 30 false), .router, .card (4, 7), .account 4, .card (4, 7), .router]

def afterOne : ActorDb := (Lib.run ActorDb.step ActorDb.init executesOne).getD ActorDb.init

/-- Both runs, evaluated once: what the lemmas below read off them. -/
theorem databases_run :
    (Lib.run ActorDb.step ActorDb.init executesThree).any (fun s =>
      decide (s.Drained ∧ s.Rested ∧ s.commands = threeOps ∧ s.events.length = 3)) = true ∧
    Meets ActorDb.step ActorDb.InOrder ActorDb.init executesThree ∧
    (Lib.run ActorDb.step ActorDb.init executesOne).isSome := by
  decide +kernel

theorem run_getD {ls : List Actors.Label} {s : ActorDb}
    (h : Lib.run ActorDb.step ActorDb.init ls = some s) :
    (Lib.run ActorDb.step ActorDb.init ls).getD ActorDb.init = s := by
  rw [h]
  rfl

theorem afterThree_spec :
    Lib.run ActorDb.step ActorDb.init executesThree = some afterThree ∧ afterThree.Drained ∧
      afterThree.Rested ∧ afterThree.commands = threeOps ∧ afterThree.events.length = 3 := by
  obtain ⟨s, hs, hp⟩ := (Option.any_eq_true _ _).mp databases_run.1
  rw [show afterThree = s from run_getD hs]
  exact ⟨hs, of_decide_eq_true hp⟩

theorem afterThree_run : Lib.run ActorDb.step ActorDb.init executesThree = some afterThree :=
  afterThree_spec.1

theorem afterThree_atRest : afterThree.AtRest :=
  have hf : Formed afterThree := .reaches ⟨_, afterThree_run⟩
  ⟨Actors.quiescent_of_known hf.known afterThree_spec.2.1,
    Actors.idle_of_known hf afterThree_spec.2.2.1⟩

theorem afterThree_reflects : Reflects [] threeOps afterThree.ledger := by
  obtain ⟨-, -, -, hcommands, -⟩ := afterThree_spec
  refine reflects_of_run afterThree_run databases_run.2.1 afterThree_atRest.quiescent ?_ ?_ ?_
  · rw [hcommands]
    decide
  · rw [hcommands]
    decide
  · rw [hcommands]
    exact List.Perm.refl _

theorem afterOne_formed : Formed afterOne := by
  obtain ⟨s, hs⟩ := Option.isSome_iff_exists.mp databases_run.2.2
  rw [show afterOne = s from run_getD hs]
  exact .reaches ⟨_, hs⟩

theorem keyed_insert_empty (addr : SocketAddr) :
    Keyed ((∅ : HashMap NodeId SocketAddr).insert (getIdGivenAddr addr) addr) := by
  refine Keyed.insert (fun k a hlook => ?_) addr
  rw [AList.lookup_empty] at hlook
  cases hlook

/-- The leader at port 5000 with a replica at port 5001. Another one at port 5002 has got the
    entries 1 and 2 before it lost its connection, and still stores entry 2. -/
def rejoining : State where
  leader := .fromExisting (getIdGivenAddr (localAddr 5000)) 4 (localAddr 5000)
    (((∅ : HashMap NodeId SocketAddr).insert (getIdGivenAddr (localAddr 5000)) (localAddr 5000)).insert
      (getIdGivenAddr (localAddr 5001)) (localAddr 5001)) ∅ false []
  leaderDb := afterThree
  handled := 3
  log := threeOps
  link := []
  replica := { (.start (localAddr 5002) (localAddr 5000) : Replica ℚ) with
    operations := (∅ : HashMap OpId (Operation ℚ)).insert 2 (.charge 4 8 20 false) }
  replicaDb := afterOne
  heard := 1
  next := 4
  arrival := none

theorem rejoining_ready : rejoining.Ready where
  lead := ⟨(keyed_insert_empty _).insert _, rfl, fun n p hp => by
    rw [show rejoining.leader.operations = ∅ from rfl, AList.lookup_empty] at hp
    cases hp⟩
  ids := ⟨rfl, by decide⟩
  current := rfl
  leaderDb := .reaches ⟨_, afterThree_run⟩
  handled := afterThree_spec.2.2.2.2.ge
  online := rfl
  stored := all_insert (fun n op hp => by rw [AList.lookup_empty] at hp; cases hp) True.intro
  replicaDb := afterOne_formed
  kinds := List.forall_mem_nil _
  entries := fun _ _ hm => absurd hm List.not_mem_nil
  pos := by decide
  logs := ⟨0, rfl, by decide, fun _ => rfl⟩
  arrival := rfl

theorem rejoining_settled : rejoining.Settled where
  atRest := afterThree_atRest
  free := (Actors.unasked_of_run afterThree_run (by decide)).free
  handled := by
    rw [show rejoining.leaderDb.events.drop rejoining.handled = [] from
      List.drop_eq_nil_of_le afterThree_spec.2.2.2.2.le]
    exact List.forall_mem_nil _
  link := List.forall_mem_nil _

/-- Entry 4 is sent while the snapshot is collected, and handled before the view. -/
def catchesUp : List Label :=
  [.leaderDb .router, .request 8 (.charge 4 7 40 false) (localAddr 9000), .leaderDb (.card (4, 7)),
    .leaderDb (.account 4), .leaderDb (.card (4, 8)), .leaderDb .router, .leaderDb .router,
    .leaderDb .router, .result, .deliver, .deliver, .replicaDb .router, .replicaDb (.card (4, 8)),
    .request 9 (.charge 4 8 50 false) (localAddr 9000), .deliver, .replicaDb .router, .hear,
    .replicaDb (.account 4), .replicaDb (.card (4, 7)), .replicaDb (.card (4, 7)),
    .replicaDb (.account 4), .replicaDb (.card (4, 7)), .replicaDb .router, .hear]

theorem caught_up_example :
    ∃ s₁ s, rejoining.step (.join (localAddr 5002)) = some s₁ ∧
      Lib.run State.step s₁ catchesUp = some s ∧
      s.replicaDb.ledger.card (4, 7) = some ⟨none, 80⟩ ∧
      (s.log.take 4).map (fun x => x.1.toNat) = [1, 2, 3, 4] ∧
      Reflects [] (s.log.take 4) s.replicaDb.ledger := by
  have hrun : ((rejoining.step (.join (localAddr 5002))).any fun s₁ =>
      decide (Meets State.step (State.Timely 3) s₁ catchesUp) &&
        (Lib.run State.step s₁ catchesUp).any fun s =>
          decide (s.arrival.isSome = true ∧ s.next = 6 ∧ s.replicaDb.Drained ∧
            s.replicaDb.ledger.card (4, 7) = some ⟨none, 80⟩)) = true := by
    decide +kernel
  obtain ⟨s₁, hj, hrun⟩ := (Option.any_eq_true _ _).mp hrun
  obtain ⟨hc, hrun⟩ := Bool.and_eq_true_iff.mp hrun
  obtain ⟨s, hr, hs⟩ := (Option.any_eq_true _ _).mp hrun
  obtain ⟨hv, hnext, hd, hcard⟩ := of_decide_eq_true hs
  have hc : Meets State.step (State.Timely 3) s₁ catchesUp := of_decide_eq_true hc
  have hls : ∀ l ∈ catchesUp, l.After (localAddr 5002) := by decide
  have hi : Inv rejoining s := .of_run rejoining_ready rejoining_settled hj hls hr hc
  have hq : s.replicaDb.Quiescent := Actors.quiescent_of_known hi.replicaDb.known hd
  refine ⟨s₁, s, hj, hr, hcard, caught_up rejoining_ready rejoining_settled afterThree_reflects hj
    hls hr hc hv (n := 4) ?_ (by decide) hq⟩
  rw [hnext]
  rfl

/-- The leader has logged a charge that is not acked yet, and a new replica is about to join. -/
def unacked : State where
  leader := { rejoining.leader with
    currentOpId := 2
    operations := (∅ : HashMap OpId (PendingOperation ℚ)).insert 1
      (.new (.charge 4 7 30 false) (localAddr 9000) 7) }
  leaderDb := .init
  handled := 0
  log := [(1, .charge 4 7 30 false)]
  link := []
  replica := .start (localAddr 5002) (localAddr 5000)
  replicaDb := .init
  heard := 0
  next := 2
  arrival := none

theorem unacked_ready : unacked.Ready where
  lead := ⟨rejoining_ready.lead.keyed, rfl,
    rejoining_ready.lead.insert True.intro⟩
  ids := ⟨rfl, by decide⟩
  current := rfl
  leaderDb := .init
  handled := Nat.le_refl _
  online := rfl
  stored := fun n op hp => by
    rw [show unacked.replica.operations = ∅ from rfl, AList.lookup_empty] at hp
    cases hp
  replicaDb := .init
  kinds := List.forall_mem_nil _
  entries := fun _ _ hm => absurd hm List.not_mem_nil
  pos := by decide
  logs := ⟨0, rfl, by decide, fun _ => rfl⟩
  arrival := rfl

theorem unacked_settled : unacked.Settled where
  atRest := ⟨⟨rfl, fun _ => rfl, fun _ => rfl⟩, Actors.ActorStates.idle_init⟩
  free := fun _ => rfl
  handled := List.forall_mem_nil _
  link := List.forall_mem_nil _

/-- The snapshot is taken, and then the charge is acked and executed. -/
def executesLate : List Label :=
  [.leaderDb .router, .result, .ack 1, .leaderDb .router, .leaderDb (.card (4, 7)),
    .leaderDb (.account 4), .leaderDb (.card (4, 7)), .leaderDb .router, .result,
    .request 8 (.charge 4 7 40 false) (localAddr 9000), .deliver, .replicaDb .router, .deliver]

/-- **A joiner misses what was pending.** The leader has executed charge 1. The replica has
    its view and entry 2, but neither the snapshot nor an entry has brought it the charge. -/
theorem misses_pending :
    ∃ s₁ s, unacked.Ready ∧ unacked.Settled ∧ unacked.step (.join (localAddr 5002)) = some s₁ ∧
      Lib.run State.step s₁ executesLate = some s ∧ s.arrival.isSome = true ∧
      s.next.toNat = 1 + 2 ∧ s.leaderDb.ledger.card (4, 7) = some ⟨none, 30⟩ ∧
      s.replicaDb.Quiescent ∧ s.log.take 1 = [(1, .charge 4 7 30 false)] ∧
      ¬ Reflects [] (s.log.take 1) s.replicaDb.ledger := by
  have hrun : ((unacked.step (.join (localAddr 5002))).any fun s₁ =>
      decide (Meets State.step (State.Timely 1) s₁ executesLate) &&
        (Lib.run State.step s₁ executesLate).any fun s =>
          decide (s.arrival.isSome = true ∧ s.next = 3 ∧
            s.leaderDb.ledger.card (4, 7) = some ⟨none, 30⟩ ∧ s.replicaDb.Drained ∧
            s.log.take 1 = [(1, .charge 4 7 30 false)] ∧
            s.replicaDb.ledger.card (4, 7) = none)) = true ∧
      (Ledger.serve ActorDb.init.ledger (.charge 4 7 30 false : Operation ℚ)).card (4, 7) =
        some ⟨none, 30⟩ := by
    decide +kernel
  obtain ⟨hrun, hserved⟩ := hrun
  obtain ⟨s₁, hj, hrun⟩ := (Option.any_eq_true _ _).mp hrun
  obtain ⟨hc, hrun⟩ := Bool.and_eq_true_iff.mp hrun
  obtain ⟨s, hr, hs⟩ := (Option.any_eq_true _ _).mp hrun
  obtain ⟨hv, hnext, hleader, hd, hlog, hcard⟩ := of_decide_eq_true hs
  have hc : Meets State.step (State.Timely 1) s₁ executesLate := of_decide_eq_true hc
  have hls : ∀ l ∈ executesLate, l.After (localAddr 5002) := by decide
  have hi : Inv unacked s := .of_run unacked_ready unacked_settled hj hls hr hc
  refine ⟨s₁, s, unacked_ready, unacked_settled, hj, hr, hv, by rw [hnext]; rfl, hleader,
    Actors.quiescent_of_known hi.replicaDb.known hd, hlog, ?_⟩
  rintro ⟨order, hperm, hledger⟩
  rw [hlog] at hperm
  rw [List.perm_singleton.mp hperm] at hledger
  rw [hledger] at hcard
  cases hserved.symm.trans hcard

end Example

end YpfRuta.Cluster.Catchup
