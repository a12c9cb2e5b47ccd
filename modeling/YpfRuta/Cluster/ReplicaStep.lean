/-
  A replica in a steady run: its record against the leader's log and the two
  links between them, and what each kind of turn does to it.
-/
import YpfRuta.Lib.Numbered
import YpfRuta.Cluster.Steady

namespace YpfRuta.Cluster

open Server Lib

variable {α : Type}

/-- The number of a log entry. -/
def opNum {β : Type} (e : OpId × β) : Nat := e.1.toNat

theorem opNum_inj {β γ : Type} {e : OpId × β} {f : OpId × γ} :
    opNum e = opNum f ↔ e.1 = f.1 :=
  UInt32.toNat_inj

/-- The ids of a numbered log are exactly 1 up to its length. -/
theorem mem_ids {β : Type} {l : List (OpId × β)} (h : Numbered opNum l) (m : OpId) :
    m ∈ l.map (fun e => e.1) ↔ 1 ≤ m.toNat ∧ m.toNat ≤ l.length := by
  rw [← h.exists_iff, List.mem_map]
  exact exists_congr fun e => and_congr_right fun _ => UInt32.toNat_inj.symm

/-! ## Messages on record and under way -/

section Messages

variable {msgs msgs' : List (Message α)} {m : OpId}

theorem logsOf_append : logsOf (msgs ++ msgs') = logsOf msgs ++ logsOf msgs' :=
  List.filterMap_append

theorem acksIn_append : acksIn (msgs ++ msgs') m = acksIn msgs m + acksIn msgs' m :=
  List.countP_append

theorem sentTo_append {dst : SocketAddr} {xs ys : List (SocketAddr × Message α)} :
    sentTo dst (xs ++ ys) = sentTo dst xs ++ sentTo dst ys := by
  simp [sentTo]

@[simp] theorem sentTo_nil {dst : SocketAddr} : sentTo dst ([] : List (SocketAddr × Message α)) = [] :=
  rfl

theorem sentTo_singleton {dst a : SocketAddr} {msg : Message α} :
    sentTo dst [(a, msg)] = if a = dst then [msg] else [] := by
  by_cases h : a = dst <;> simp [sentTo, h]

end Messages

/-! ## The fields of a node around a turn -/

section Fields

variable {n : NodeState α} {event : Event α} {fault : Option Fault} {now : Nat} {m : OpId}
  {t : Task α (NodeRuntime α)} {src : SocketAddr} {msg : Message α}

/-- The node with one more delivered message on record. -/
def NodeState.receive (n : NodeState α) (src : SocketAddr) (msg : Message α) : NodeState α :=
  { n with received := n.received ++ [(src, msg)] }

/-- The node once its `k`-th outstanding command is answered. -/
def NodeState.answer (n : NodeState α) (k : Nat) : NodeState α :=
  { n with outstanding := n.outstanding.eraseIdx k }

@[simp] theorem task_sent : (n.task now).sent = [] := rfl
@[simp] theorem task_told : (n.task now).told = [] := rfl
@[simp] theorem task_commands : (n.task now).commands = [] := rfl

@[simp] theorem after_executed : (n.after event fault t).executed = n.executed ++ t.commands := rfl
@[simp] theorem after_outstanding :
    (n.after event fault t).outstanding = n.outstanding ++ t.commands := rfl
@[simp] theorem after_assigned :
    (n.after event fault t).assigned = n.assigned ++ assignment n.runtime event := rfl
@[simp] theorem after_answers :
    (n.after event fault t).answers = n.answers ++ answered t event := rfl
@[simp] theorem after_acks {rs : Keys SocketAddr} :
    (n.after event fault t).acks rs m = n.acks rs m := rfl
@[simp] theorem after_logged : (n.after event fault t).logged = n.logged := rfl
@[simp] theorem after_logs : (n.after event fault t).logs m = n.logs m := rfl
@[simp] theorem after_acksFrom {i : SocketAddr} :
    (n.after event fault t).acksFrom i m = n.acksFrom i m := rfl

@[simp] theorem after_owed : (n.after event fault t).owed m =
    n.owed m + t.commands.countP fun e => e.1 + 1 == m :=
  List.countP_append

@[simp] theorem receive_executed : (n.receive src msg).executed = n.executed := rfl
@[simp] theorem receive_outstanding : (n.receive src msg).outstanding = n.outstanding := rfl
@[simp] theorem receive_owed : (n.receive src msg).owed m = n.owed m := rfl

theorem receive_logged : (n.receive src msg).logged = n.logged ++ logsOf [msg] := by
  simp [NodeState.receive, NodeState.logged, logsOf]

@[simp] theorem answer_executed {k : Nat} : (n.answer k).executed = n.executed := rfl
@[simp] theorem answer_logged {k : Nat} : (n.answer k).logged = n.logged := rfl
@[simp] theorem answer_logs {k : Nat} : (n.answer k).logs m = n.logs m := rfl

theorem assignment_asks {lead : Leader α} (hon : lead.isOffline = false) {reqId : ReqId}
    {op : Operation α} {addr : SocketAddr} (h : Asks lead.address event reqId op addr) :
    assignment (.leader lead) event = [(lead.currentOpId, .new op addr reqId)] := by
  cases h with
  | client => rfl
  | station => simp [assignment, hon]

theorem answered_asks {own : SocketAddr} {reqId : ReqId} {op : Operation α} {addr : SocketAddr}
    (h : Asks own event reqId op addr) : answered t event = [] := by
  cases h <;> rfl

end Fields

/-! ## A turn of a node -/

section Act

variable [AddrHash] {s : State α} {a : SocketAddr} {n : NodeState α} {event : Event α} {now : Nat}

omit [AddrHash] in
theorem up_eq_some {r : NodeState α} : s.up a = some r ↔ s.node a = some r ∧ r.down = false := by
  unfold State.up
  rw [Option.filter_eq_some_iff]
  simp

omit [AddrHash] in
theorem task_reliable {n : NodeState α} (h : n.connected = true) : (n.task now).Reliable :=
  ⟨h, rfl⟩

theorem act_eq {fault : Option Fault} {t : Task α (NodeRuntime α)}
    (h : ended (NodeRuntime.turn event (n.task now)) = (fault, t)) :
    s.act a n event now =
      { node := Function.update s.node a (some (n.after event fault t))
        link := fun src dst =>
          if src = a then s.link src dst ++ sentTo dst t.sent else s.link src dst } := by
  unfold State.act
  rw [h]

end Act

/-! ## The turns of a replica -/

section ReplicaTurn

variable [AddrHash] {n : NodeState α} {self : Replica α} {now : Nat}

theorem replica_forwards (hrt : n.runtime = .replica self) (hconn : n.connected = true)
    (hon : self.isOffline = false) {event : Event α} {reqId : ReqId} {op : Operation α}
    {addr : SocketAddr} (hev : Asks self.address event reqId op addr) :
    NodeRuntime.turn event (n.task now) = .ok () { n.task now with
      sent := [(self.leaderAddr, .request reqId op addr)] } := by
  have hrel : ({ n.task now with self := self } : Task α (Replica α)).Reliable := ⟨hconn, rfl⟩
  have hsel := select_asks (t := ({ n.task now with self := self } : Task α (Replica α))) hev hon
  have hreq : (Node.handleRequest reqId op addr : Handler α (Replica α) Unit)
      { n.task now with self := self } = _ := Replica.handleRequest_ok hrel reqId op addr
  rw [bind_ok hreq] at hsel
  rw [NodeRuntime.turn_replica hrt hsel]
  simp [NodeRuntime.changeRole, NodeState.task, hrt]

theorem replica_responds (hrt : n.runtime = .replica self) (reqId : ReqId)
    (r : OperationResult α) :
    NodeRuntime.turn (.nodeMsg (.ok (.response reqId r))) (n.task now) = .ok () { n.task now with
      told := Replica.verdict reqId r } := by
  have hres : (Node.handleResponse reqId r : Handler α (Replica α) Unit)
      { n.task now with self := self } = _ := Replica.handleResponse_ok reqId r
  have hsel : Node.select (.nodeMsg (.ok (.response reqId r)))
      ({ n.task now with self := self } : Task α (Replica α)) = _ := bind_ok hres
  rw [NodeRuntime.turn_replica hrt hsel]
  simp [NodeRuntime.changeRole, NodeState.task, hrt]

theorem replica_logs_first (hrt : n.runtime = .replica self) (hconn : n.connected = true)
    (op : Operation α) :
    NodeRuntime.turn (.nodeMsg (.ok (.log 1 op))) (n.task now) = .ok () { n.task now with
      self := .replica (self.store 1 op)
      sent := [(self.leaderAddr, .ack 1)] } := by
  have hrel : ({ n.task now with self := self } : Task α (Replica α)).Reliable := ⟨hconn, rfl⟩
  have hlog : (Node.handleLog 1 op : Handler α (Replica α) Unit)
      { n.task now with self := self } = _ := Replica.handleLog_first hrel op
  have hsel : Node.select (.nodeMsg (.ok (.log 1 op)))
      ({ n.task now with self := self } : Task α (Replica α)) = _ := bind_ok hlog
  rw [NodeRuntime.turn_replica hrt hsel]
  rfl

theorem replica_logs (hrt : n.runtime = .replica self) {opId : OpId} {op prev : Operation α}
    (h0 : opId ≠ 0) (h1 : opId ≠ 1)
    (hprev : (self.store opId op).operations.lookup (opId - 1) = some prev) :
    NodeRuntime.turn (.nodeMsg (.ok (.log opId op))) (n.task now) = .ok () { n.task now with
      self := .replica { self with
        operations := (self.store opId op).operations.erase (opId - 1) }
      commands := [(opId - 1, prev)] } := by
  have hlog : (Node.handleLog opId op : Handler α (Replica α) Unit)
      { n.task now with self := self } = _ := Replica.handleLog_commits h0 h1 hprev
  have hsel : Node.select (.nodeMsg (.ok (.log opId op)))
      ({ n.task now with self := self } : Task α (Replica α)) = _ := bind_ok hlog
  rw [NodeRuntime.turn_replica hrt hsel]
  rfl

/-- The event of a database result. -/
def resultOf (e : OpId × Operation α) (r : OperationResult α) : Event α :=
  .actorEvent (.operationResult e.1 e.2 r)

theorem replica_acks (hrt : n.runtime = .replica self) (hconn : n.connected = true)
    {e : OpId × Operation α} (hop : ∀ snapshot, e.2 ≠ .replaceDatabase snapshot)
    (hs : e.1.toNat + 1 < UInt32.size) (r : OperationResult α) :
    NodeRuntime.turn (resultOf e r) (n.task now) = .ok () { n.task now with
      sent := [(self.leaderAddr, .ack (e.1 + 1))] } := by
  have hrel : ({ n.task now with self := self } : Task α (Replica α)).Reliable := ⟨hconn, rfl⟩
  have hres : (Node.handleOperationResult e.1 e.2 r : Handler α (Replica α) Unit)
      { n.task now with self := self } = _ := Replica.handleOperationResult_ack hrel hop hs r
  unfold resultOf
  rw [NodeRuntime.turn_replica hrt (select_result hres)]
  simp [NodeRuntime.changeRole, NodeState.task, hrt]

theorem replica_installs (hrt : n.runtime = .replica self) (hq : self.offlineQueue = [])
    {e : OpId × Operation α} {snapshot : DatabaseSnapshot α}
    (hop : e.2 = .replaceDatabase snapshot) (r : OperationResult α) :
    NodeRuntime.turn (resultOf e r) (n.task now) = .ok () (n.task now) := by
  have hres : (Node.handleOperationResult e.1 e.2 r : Handler α (Replica α) Unit)
      { n.task now with self := self } = .ok () { n.task now with self := self } := by
    rw [hop]
    exact Replica.handleOperationResult_installed hq e.1 snapshot r
  unfold resultOf
  rw [NodeRuntime.turn_replica hrt (select_result hres)]
  simp [NodeRuntime.changeRole, NodeState.task, hrt]

end ReplicaTurn

/-! ## The record of a replica -/

/-- A replica against the leader's log: `down` is under way to it, `up` from it,
    and `acked` are the acks the leader handled from it. -/
structure ReplicaInv (leader : SocketAddr) (log : List (OpId × Operation α))
    (acked : OpId → Nat) (n : NodeState α) (rep : Replica α) (down up : List (Message α)) :
    Prop where
  runtime : n.runtime = .replica rep
  leaderAddr : rep.leaderAddr = leader
  online : rep.isOffline = false
  queue : rep.offlineQueue = []
  connected : n.connected = true
  fault : n.fault = none
  flow : n.logged ++ logsOf down = log
  stored : ∀ m op, rep.operations.lookup m = some op ↔ n.logged.getLast? = some (m, op)
  executed : n.executed = n.logged.dropLast
  outstanding : ∀ e ∈ n.outstanding, e ∈ n.executed
  downOk : ∀ m ∈ down, (∃ opId op, m = .log opId op) ∨ ∃ reqId r, m = .response reqId r
  upOk : ∀ m ∈ up, (∃ opId, m = .ack opId) ∨ ∃ reqId op addr, m = .request reqId op addr ∧
    IsRequest op
  acks : ∀ m, acked m + acksIn up m + n.owed m ≤ n.logs m

section ReplicaInv

variable [AddrHash] {leader : SocketAddr} {log : List (OpId × Operation α)} {acked : OpId → Nat}
  {n : NodeState α} {rep : Replica α} {down up : List (Message α)}

/-- `event` takes a replica that keeps its record to one that keeps it, and sends
    to the leader only. -/
def Keeps (leader : SocketAddr) (log : List (OpId × Operation α)) (acked : OpId → Nat)
    (n : NodeState α) (event : Event α) (down up : List (Message α)) : Prop :=
  ∃ t rep', NodeRuntime.turn event (n.task 0) = .ok () t ∧
    (∀ dst, dst ≠ leader → sentTo dst t.sent = []) ∧
    ReplicaInv leader log acked (n.after event none t) rep' down (up ++ sentTo leader t.sent)

theorem ReplicaInv.forwards (h : ReplicaInv leader log acked n rep down up) {event : Event α}
    {reqId : ReqId} {op : Operation α} {addr : SocketAddr}
    (hev : Asks rep.address event reqId op addr) (hop : IsRequest op) :
    Keeps leader log acked n event down up := by
  refine ⟨_, rep, replica_forwards h.runtime h.connected h.online hev, ?_, ?_⟩
  · intro dst hdst
    rw [sentTo_singleton, h.leaderAddr, if_neg (Ne.symm hdst)]
  · rw [sentTo_singleton, if_pos h.leaderAddr]
    refine { h with
      fault := rfl
      executed := ?_
      outstanding := ?_
      upOk := ?_
      acks := ?_ }
    · simpa [NodeState.after, NodeState.task, NodeState.logged] using h.executed
    · simpa [NodeState.after, NodeState.task] using h.outstanding
    · intro m hm
      rcases List.mem_append.mp hm with hm | hm
      · exact h.upOk m hm
      · obtain rfl := List.mem_singleton.mp hm
        exact Or.inr ⟨reqId, op, addr, rfl, hop⟩
    · intro m
      have hacks := h.acks m
      have hup : acksIn [(.request reqId op addr : Message α)] m = 0 := rfl
      simpa [acksIn_append, hup] using hacks

theorem ReplicaInv.responds {reqId : ReqId} {r : OperationResult α}
    (h : ReplicaInv leader log acked n rep (.response reqId r :: down) up) (src : SocketAddr) :
    Keeps leader log acked (n.receive src (.response reqId r)) (.nodeMsg (.ok (.response reqId r)))
      down up := by
  have hlogged : (n.receive src (.response reqId r)).logged = n.logged := by
    rw [receive_logged]
    exact List.append_nil _
  refine ⟨_, rep, replica_responds (n := n.receive src _) h.runtime reqId r, fun _ _ => rfl, ?_⟩
  refine { h with
    fault := rfl
    flow := ?_
    stored := ?_
    executed := ?_
    outstanding := ?_
    downOk := fun m hm => h.downOk m (List.mem_cons_of_mem _ hm)
    upOk := ?_
    acks := ?_ }
  · rw [after_logged, hlogged]
    exact h.flow
  · rw [after_logged, hlogged]
    exact h.stored
  · simpa [hlogged] using h.executed
  · simpa using h.outstanding
  · simpa using h.upOk
  · intro m
    have hlogs : (n.receive src (.response reqId r)).logs m = n.logs m := by
      unfold NodeState.logs
      rw [hlogged]
    simpa [hlogs] using h.acks m

omit [AddrHash] in
/-- One more entry on record counts for its own id only. -/
theorem logs_concat {k : NodeState α} {e : OpId × Operation α} (h : k.logged = n.logged ++ [e])
    (hid : e.1.toNat = n.logged.length + 1) (m : OpId) :
    k.logs m = n.logs m + if m = e.1 then 1 else 0 := by
  unfold NodeState.logs
  rw [h, List.length_append, List.length_singleton]
  by_cases hm : m = e.1
  · subst hm
    rw [if_pos (by omega), if_neg (by omega), if_pos rfl]
  · have hne : m.toNat ≠ e.1.toNat := fun he => hm (UInt32.toNat_inj.mp he)
    rw [if_neg hm]
    by_cases hle : 1 ≤ m.toNat ∧ m.toNat ≤ n.logged.length
    · rw [if_pos hle, if_pos (by omega)]
    · rw [if_neg hle, if_neg (by omega)]

omit [AddrHash] in
/-- Nothing is stored before the first entry. -/
theorem ReplicaInv.lookup_nil (h : ReplicaInv leader log acked n rep down up)
    (hnil : n.logged = []) (m : OpId) : rep.operations.lookup m = none := by
  rw [Option.eq_none_iff_forall_ne_some]
  intro op hop
  have := (h.stored m op).mp hop
  rw [hnil] at this
  cases this

/-- The first entry is stored and acked. -/
theorem ReplicaInv.logs_first {op : Operation α}
    (h : ReplicaInv leader log acked n rep (.log 1 op :: down) up) (hnil : n.logged = [])
    (src : SocketAddr) :
    Keeps leader log acked (n.receive src (.log 1 op)) (.nodeMsg (.ok (.log 1 op))) down up := by
  have hlogged : (n.receive src (.log 1 op)).logged = [(1, op)] := by
    rw [receive_logged, hnil]
    rfl
  refine ⟨_, rep.store 1 op, replica_logs_first (n := n.receive src _) h.runtime h.connected op,
    ?_, ?_⟩
  · intro dst hdst
    rw [sentTo_singleton, h.leaderAddr, if_neg (Ne.symm hdst)]
  rw [sentTo_singleton, if_pos h.leaderAddr]
  refine { h with
    runtime := rfl
    fault := rfl
    flow := ?_
    stored := ?_
    executed := ?_
    outstanding := ?_
    downOk := fun m hm => h.downOk m (List.mem_cons_of_mem _ hm)
    upOk := ?_
    acks := ?_ }
  · rw [after_logged, hlogged, ← h.flow, hnil]
    rfl
  · intro m op'
    rw [after_logged, hlogged]
    by_cases hm : m = 1
    · subst hm
      simp [Replica.store]
    · simp [Replica.store, AList.lookup_insert_ne hm, h.lookup_nil hnil, Ne.symm hm]
  · simpa [hlogged, hnil] using h.executed
  · simpa using h.outstanding
  · intro m hm
    rcases List.mem_append.mp hm with hm | hm
    · exact h.upOk m hm
    · exact Or.inl ⟨1, List.mem_singleton.mp hm⟩
  · intro m
    have hacks := h.acks m
    have hack : acksIn [(.ack 1 : Message α)] m = if m = 1 then 1 else 0 := by
      by_cases hm : m = 1
      · subst hm
        rfl
      · simp [acksIn, isAck, hm, Ne.symm hm]
    have hlogs := logs_concat (n := n) (k := n.receive src (.log 1 op)) (e := (1, op))
      receive_logged (by rw [hnil]; rfl) m
    simp only [after_logs, after_owed, receive_owed, task_commands, List.countP_nil,
      acksIn_append, hack, hlogs]
    omega

/-- The next entry is stored, and the one before it goes to the database. -/
theorem ReplicaInv.logs_next {opId prevId : OpId} {op prev : Operation α}
    {before : List (OpId × Operation α)}
    (h : ReplicaInv leader log acked n rep (.log opId op :: down) up)
    (hlast : n.logged = before ++ [(prevId, prev)]) (hid : opId.toNat = n.logged.length + 1)
    (hprev : prevId.toNat = n.logged.length) (src : SocketAddr) :
    Keeps leader log acked (n.receive src (.log opId op)) (.nodeMsg (.ok (.log opId op)))
      down up := by
  have hlogged : (n.receive src (.log opId op)).logged = n.logged ++ [(opId, op)] :=
    receive_logged
  have hpos : 0 < n.logged.length := by
    rw [hlast, List.length_append, List.length_singleton]
    omega
  have hsub : opId - 1 = prevId := by
    apply UInt32.toNat_inj.mp
    rw [UInt32.toNat_sub_of_le _ _ (by rw [UInt32.le_iff_toNat_le, hid]; show 1 ≤ _; omega), hid,
      hprev]
    rfl
  have hne : prevId ≠ opId := by
    rintro rfl
    omega
  have h0 : opId ≠ 0 := by
    rintro rfl
    simp at hid
  have h1 : opId ≠ 1 := by
    rintro rfl
    rw [show (1 : OpId).toNat = 1 from rfl] at hid
    omega
  have hstored : (rep.store opId op).operations.lookup (opId - 1) = some prev := by
    rw [hsub]
    unfold Replica.store
    rw [AList.lookup_insert_ne hne, h.stored, hlast, List.getLast?_concat]
  refine ⟨_, { rep with operations := (rep.store opId op).operations.erase (opId - 1) },
    replica_logs (n := n.receive src _) h.runtime h0 h1 hstored, fun _ _ => rfl, ?_⟩
  refine { h with
    runtime := rfl
    fault := rfl
    flow := ?_
    stored := ?_
    executed := ?_
    outstanding := ?_
    downOk := fun m hm => h.downOk m (List.mem_cons_of_mem _ hm)
    upOk := ?_
    acks := ?_ }
  · rw [after_logged, hlogged, List.append_assoc, ← h.flow]
    rfl
  · intro m op'
    rw [after_logged, hlogged, List.getLast?_concat, hsub]
    by_cases hm : m = prevId
    · subst hm
      simp [AList.lookup_erase, Ne.symm hne]
    · rw [AList.lookup_erase_ne hm]
      unfold Replica.store
      by_cases ho : m = opId
      · subst ho
        simp
      · rw [AList.lookup_insert_ne ho, h.stored, hlast, List.getLast?_concat]
        simp [Ne.symm hm, Ne.symm ho]
  · rw [after_executed, receive_executed, after_logged, hlogged, List.dropLast_concat, h.executed,
      hlast, List.dropLast_concat, hsub]
  · intro e he
    simp only [after_outstanding, after_executed, receive_outstanding, receive_executed] at he ⊢
    rcases List.mem_append.mp he with he | he
    · exact List.mem_append_left _ (h.outstanding e he)
    · exact List.mem_append_right _ he
  · simpa using h.upOk
  · intro m
    have hacks := h.acks m
    have hlogs := logs_concat (k := n.receive src (.log opId op)) hlogged hid m
    have howed : [(opId - 1, prev)].countP (fun e => e.1 + 1 == m) = if m = opId then 1 else 0 := by
      have hback : opId - 1 + 1 = opId := by
        rw [UInt32.sub_add_cancel]
      by_cases hm : m = opId
      · subst hm
        simp [hback]
      · simp [hback, hm, Ne.symm hm]
    simp only [after_logs, after_owed, receive_owed, howed, hlogs, sentTo_nil, task_sent,
      List.append_nil]
    omega

/-- A replica stores the next log entry and commits the one before it. -/
theorem ReplicaInv.logs {opId : OpId} {op : Operation α}
    (h : ReplicaInv leader log acked n rep (.log opId op :: down) up)
    (hnum : Numbered opNum log) (src : SocketAddr) :
    Keeps leader log acked (n.receive src (.log opId op)) (.nodeMsg (.ok (.log opId op)))
      down up := by
  have hflow : n.logged ++ (opId, op) :: logsOf down = log := h.flow
  rw [← hflow] at hnum
  have hid : opId.toNat = n.logged.length + 1 := hnum.next
  rcases List.eq_nil_or_concat n.logged with hnil | ⟨before, ⟨prevId, prev⟩, hlast⟩
  · obtain rfl : opId = 1 := UInt32.toNat_inj.mp (by rw [hid, hnil]; rfl)
    exact h.logs_first hnil src
  · have hprev : prevId.toNat = n.logged.length :=
      hnum.left.last (e := (prevId, prev)) (by rw [hlast, List.concat_eq_append, List.getLast?_concat])
    exact h.logs_next (by rw [hlast, List.concat_eq_append]) hid hprev src

omit [AddrHash] in
/-- An answered command is no longer owed an ack. -/
theorem owed_answer {k : Nat} {e : OpId × Operation α} (hk : n.outstanding[k]? = some e)
    (m : OpId) : (n.answer k).owed m + (if e.1 + 1 = m then 1 else 0) = n.owed m := by
  obtain ⟨hlt, rfl⟩ := List.getElem?_eq_some_iff.mp hk
  have hperm := List.getElem_cons_eraseIdx_perm hlt
  have hcount := hperm.countP_eq fun e => e.1 + 1 == m
  rw [List.countP_cons] at hcount
  unfold NodeState.answer NodeState.owed
  simpa using hcount

omit [AddrHash] in
/-- A committed operation is not the last one logged, so its ack's id is in range. -/
theorem ReplicaInv.committed_lt (h : ReplicaInv leader log acked n rep down up)
    (hnum : Numbered opNum log) {e : OpId × Operation α} (he : e ∈ n.executed) :
    e.1.toNat + 1 ≤ n.logged.length ∧ n.logged.length < UInt32.size := by
  have hlogged : Numbered opNum n.logged := (h.flow ▸ hnum).left
  rw [h.executed] at he
  rcases List.eq_nil_or_concat n.logged with hnil | ⟨before, last, hlast⟩
  · rw [hnil] at he
    cases he
  · rw [List.concat_eq_append] at hlast
    have hle : opNum e ≤ before.length := by
      rw [hlast, List.dropLast_concat] at he
      rw [hlast] at hlogged
      exact (hlogged.left.bounds he).2
    have hid : opNum last = n.logged.length := hlogged.last (by rw [hlast, List.getLast?_concat])
    have hlen : n.logged.length = before.length + 1 := by
      rw [hlast, List.length_append, List.length_singleton]
    have hlt : opNum last < UInt32.size := last.1.toNat_lt_size
    unfold opNum at hle
    omega

/-- A database result is acked under the next id. -/
theorem ReplicaInv.result (h : ReplicaInv leader log acked n rep down up)
    (hnum : Numbered opNum log) {k : Nat} {e : OpId × Operation α}
    (hk : n.outstanding[k]? = some e) (r : OperationResult α) :
    Keeps leader log acked (n.answer k) (resultOf e r) down up := by
  have hmem : e ∈ n.outstanding := List.mem_of_getElem? hk
  have hrest : ∀ e ∈ (n.answer k).outstanding, e ∈ n.executed := fun e he =>
    h.outstanding e (List.mem_of_mem_eraseIdx he)
  by_cases hop : ∃ snapshot, e.2 = .replaceDatabase snapshot
  · obtain ⟨snapshot, hop⟩ := hop
    refine ⟨_, rep, replica_installs (n := n.answer k) h.runtime h.queue hop r,
      fun _ _ => rfl, ?_⟩
    refine { h with
      fault := rfl
      executed := ?_
      outstanding := ?_
      upOk := ?_
      acks := ?_ }
    · simpa using h.executed
    · simpa using hrest
    · simpa using h.upOk
    · intro m
      have hacks := h.acks m
      have howed := owed_answer hk m
      simp only [after_owed, task_commands, List.countP_nil, task_sent, sentTo_nil,
        List.append_nil, after_logs, answer_logs]
      omega
  · have hlt := h.committed_lt hnum (h.outstanding e hmem)
    refine ⟨_, rep, replica_acks (n := n.answer k) h.runtime h.connected
      (fun snapshot hs => hop ⟨snapshot, hs⟩) (by omega) r, ?_, ?_⟩
    · intro dst hdst
      rw [sentTo_singleton, h.leaderAddr, if_neg (Ne.symm hdst)]
    rw [sentTo_singleton, if_pos h.leaderAddr]
    refine { h with
      fault := rfl
      executed := ?_
      outstanding := ?_
      upOk := ?_
      acks := ?_ }
    · simpa using h.executed
    · simpa using hrest
    · intro m hm
      rcases List.mem_append.mp hm with hm | hm
      · exact h.upOk m hm
      · exact Or.inl ⟨_, List.mem_singleton.mp hm⟩
    · intro m
      have hacks := h.acks m
      have howed := owed_answer hk m
      have hack : acksIn [(.ack (e.1 + 1) : Message α)] m = if e.1 + 1 = m then 1 else 0 := by
        by_cases hm : e.1 + 1 = m <;> simp [acksIn, isAck, hm]
      simp only [after_owed, task_commands, List.countP_nil, acksIn_append, hack, after_logs,
        answer_logs]
      omega

/-! ## What the leader does to a replica's record -/

omit [AddrHash] in
theorem ReplicaInv.extend (h : ReplicaInv leader log acked n rep down up)
    (e : OpId × Operation α) :
    ReplicaInv leader (log ++ [e]) acked n rep (down ++ [.log e.1 e.2]) up := by
  refine { h with flow := ?_, downOk := ?_ }
  · rw [logsOf_append, ← List.append_assoc, h.flow]
    rfl
  · intro m hm
    rcases List.mem_append.mp hm with hm | hm
    · exact h.downOk m hm
    · exact Or.inl ⟨e.1, e.2, List.mem_singleton.mp hm⟩

omit [AddrHash] in
theorem ReplicaInv.answered (h : ReplicaInv leader log acked n rep down up)
    {msgs : List (Message α)} (hm : ∀ m ∈ msgs, ∃ reqId r, m = .response reqId r) :
    ReplicaInv leader log acked n rep (down ++ msgs) up := by
  have hnone : logsOf msgs = [] := by
    rw [logsOf, List.filterMap_eq_nil_iff]
    intro m hmem
    obtain ⟨reqId, r, rfl⟩ := hm m hmem
    rfl
  refine { h with flow := ?_, downOk := ?_ }
  · rw [logsOf_append, hnone, List.append_nil, h.flow]
  · intro m hmem
    exact (List.mem_append.mp hmem).elim (h.downOk m) fun hmem => Or.inr (hm m hmem)

omit [AddrHash] in
theorem ReplicaInv.popAck {opId : OpId} (h : ReplicaInv leader log acked n rep down (.ack opId :: up))
    {acked' : OpId → Nat} (hacked : ∀ m, acked' m = acked m + if m = opId then 1 else 0) :
    ReplicaInv leader log acked' n rep down up := by
  refine { h with upOk := fun m hm => h.upOk m (List.mem_cons_of_mem _ hm), acks := ?_ }
  intro m
  have hacks := h.acks m
  have hcons : acksIn (.ack opId :: up) m = acksIn up m + if m = opId then 1 else 0 := by
    by_cases hm : m = opId
    · subst hm
      simp [acksIn, isAck]
    · simp [acksIn, isAck, hm, Ne.symm hm]
  rw [hcons] at hacks
  rw [hacked]
  omega

omit [AddrHash] in
theorem ReplicaInv.popRequest {reqId : ReqId} {op : Operation α} {addr : SocketAddr}
    (h : ReplicaInv leader log acked n rep down (.request reqId op addr :: up)) :
    ReplicaInv leader log acked n rep down up :=
  { h with upOk := fun m hm => h.upOk m (List.mem_cons_of_mem _ hm) }

end ReplicaInv

end YpfRuta.Cluster
