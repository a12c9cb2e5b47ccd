/-
  The leader in a steady run: its pending map and ack counts against the ids it
  assigned, and what a request, an ack and a database result do to them.
-/
import YpfRuta.Cluster.ReplicaStep

namespace YpfRuta.Cluster

open Server Lib

variable {α : Type}

/-- What an answer to request `q` looks like: a response to a remote client, the
    outcome of a charge for the own station. A replaced database is not answered. -/
structure Answers (own : SocketAddr) (q : PendingOperation α) (a : Answer α) : Prop where
  sent : a.sent =
    match q.op with
    | .replaceDatabase _ => []
    | _ => if q.clientAddr = own then [] else [(q.clientAddr, .response q.requestId a.result)]
  told : a.told =
    match q.op, a.result with
    | .charge .., .charge c =>
      if q.clientAddr = own then
        [.chargeResult q.requestId (Node.chargeVerdict c).1 (Node.chargeVerdict c).2]
      else []
    | _, _ => []

theorem reply_answers (lead : Leader α) {q : PendingOperation α} (hq : IsRequest q.op)
    (pending : PendingOperation α) (hclient : pending.clientAddr = q.clientAddr)
    (hreq : pending.requestId = q.requestId) (opId : OpId) (r : OperationResult α) :
    Answers lead.address q
      ⟨opId, r, (lead.reply pending q.op r).1, (lead.reply pending q.op r).2⟩ := by
  obtain ⟨op, client, count, reqId⟩ := q
  dsimp only at hclient hreq hq
  constructor <;> unfold Leader.reply <;> dsimp only <;> rw [hclient, hreq] <;>
    cases op <;> (try exact absurd rfl (hq _)) <;> by_cases hc : client = lead.address <;>
    cases r <;> simp [hc]

/-- A reply to a request consists of responses to other nodes. -/
theorem reply_responses {lead : Leader α} {op : Operation α} (hop : IsRequest op)
    (pending : PendingOperation α) (r : OperationResult α) :
    ∀ p ∈ (lead.reply pending op r).1,
      p.1 ≠ lead.address ∧ ∃ reqId r', p.2 = .response reqId r' := by
  intro p hp
  unfold Leader.reply at hp
  cases op <;> (try exact absurd rfl (hop _)) <;>
    by_cases hc : pending.clientAddr = lead.address <;> cases r <;> simp_all

/-! ## The turns of a leader -/

section LeaderTurn

variable [AddrHash] {n : NodeState α} {lead : Leader α} {now : Nat}

theorem ended_ok {event : Event α} {t t' : Task α (NodeRuntime α)}
    (h : NodeRuntime.turn event t = .ok () t') : ended (NodeRuntime.turn event t) = (none, t') := by
  rw [h]
  rfl

theorem leader_replicates (hrt : n.runtime = .leader lead) (hconn : n.connected = true)
    (hon : lead.isOffline = false) (hlen : lead.cluster.len ≠ 1)
    (hs : lead.currentOpId.toNat + 1 < UInt32.size) {event : Event α} {reqId : ReqId}
    {op : Operation α} {addr : SocketAddr} (hev : Asks lead.address event reqId op addr) :
    ended (NodeRuntime.turn event (n.task now)) = (none, { n.task now with
      self := .leader { lead.store reqId op addr with currentOpId := lead.currentOpId + 1 }
      sent := lead.peers.map fun a => (a, .log lead.currentOpId op) }) := by
  have hrel : ({ n.task now with self := lead } : Task α (Leader α)).Reliable := ⟨hconn, rfl⟩
  have hsel := select_asks (t := ({ n.task now with self := lead } : Task α (Leader α))) hev hon
  have hreq : (Node.handleRequest reqId op addr : Handler α (Leader α) Unit)
      { n.task now with self := lead } = _ :=
    Leader.handleRequest_replicated hrel hlen hs reqId op addr
  rw [bind_ok hreq] at hsel
  rw [ended_ok (NodeRuntime.turn_leader hrt hsel)]
  rfl

theorem leader_overflows (hrt : n.runtime = .leader lead) (hconn : n.connected = true)
    (hon : lead.isOffline = false) (hlen : lead.cluster.len ≠ 1)
    (hs : ¬ lead.currentOpId.toNat + 1 < UInt32.size) {event : Event α} {reqId : ReqId}
    {op : Operation α} {addr : SocketAddr} (hev : Asks lead.address event reqId op addr) :
    ended (NodeRuntime.turn event (n.task now)) =
      (some (.panic "attempt to add with overflow"), { n.task now with
        self := .leader (lead.store reqId op addr)
        sent := lead.peers.map fun a => (a, .log lead.currentOpId op) }) := by
  have hrel : ({ n.task now with self := lead } : Task α (Leader α)).Reliable := ⟨hconn, rfl⟩
  have hsel := select_asks (t := ({ n.task now with self := lead } : Task α (Leader α))) hev hon
  have hreq : (Node.handleRequest reqId op addr : Handler α (Leader α) Unit)
      { n.task now with self := lead } = _ :=
    Leader.handleRequest_overflow hrel hlen hs reqId op addr
  rw [bind_error hreq] at hsel
  rw [NodeRuntime.turn_leader_panics hrt hsel]
  rfl

theorem leader_executes_alone (hrt : n.runtime = .leader lead)
    (hon : lead.isOffline = false) (hlen : lead.cluster.len = 1) {event : Event α}
    {reqId : ReqId} {op : Operation α} {addr : SocketAddr}
    (hev : Asks lead.address event reqId op addr) :
    ended (NodeRuntime.turn event (n.task now)) = (none, { n.task now with
      self := .leader (lead.store reqId op addr)
      commands := [(lead.currentOpId, op)] }) := by
  have hsel := select_asks (t := ({ n.task now with self := lead } : Task α (Leader α))) hev hon
  have hreq : (Node.handleRequest reqId op addr : Handler α (Leader α) Unit)
      { n.task now with self := lead } = _ := Leader.handleRequest_lone hlen reqId op addr
  rw [bind_ok hreq] at hsel
  rw [ended_ok (NodeRuntime.turn_leader hrt hsel)]
  rfl

/-- The turn of an ack, from what its handler does. -/
theorem leader_ack (hrt : n.runtime = .leader lead) {opId : OpId} {t : Task α (Leader α)}
    (h : Leader.handleAck opId { n.task 0 with self := lead } = .ok () t) :
    ended (NodeRuntime.turn (.nodeMsg (.ok (.ack opId))) (n.task 0)) =
      (none, { t with self := .leader t.self }) := by
  have hack : (Node.handleAck opId : Handler α (Leader α) Unit)
      { n.task 0 with self := lead } = .ok () t := h
  have hsel : Node.select (.nodeMsg (.ok (.ack opId)))
      ({ n.task 0 with self := lead } : Task α (Leader α)) = _ := bind_ok hack
  rw [ended_ok (NodeRuntime.turn_leader hrt hsel)]
  rfl

theorem leader_answers (hrt : n.runtime = .leader lead) (hconn : n.connected = true)
    {e : OpId × Operation α} {p : PendingOperation α} (hid : e.1 ≠ 0)
    (hp : lead.operations.lookup e.1 = some p) (r : OperationResult α) :
    ended (NodeRuntime.turn (resultOf e r) (n.task now)) = (none, { n.task now with
      self := .leader { lead with operations := lead.operations.erase e.1 }
      sent := (lead.reply p e.2 r).1
      told := (lead.reply p e.2 r).2 }) := by
  have hrel : ({ n.task now with self := lead } : Task α (Leader α)).Reliable := ⟨hconn, rfl⟩
  have htake := Leader.takePending_ok (t := ({ n.task now with self := lead } : Task α (Leader α)))
    hid hp e.2
  have hres : (Node.handleOperationResult e.1 e.2 r : Handler α (Leader α) Unit)
      { n.task now with self := lead } = _ :=
    Leader.handleOperationResult_ok htake ⟨hconn, rfl⟩ r
  unfold resultOf
  rw [ended_ok (NodeRuntime.turn_leader hrt (select_result hres))]
  rfl

end LeaderTurn

/-! ## The record of the leader -/

/-- A leader whose counts match the acks it handled. -/
structure LeaderInv [AddrHash] (leader : SocketAddr) (replicas : Keys SocketAddr)
    (n : NodeState α) (lead : Leader α) : Prop where
  runtime : n.runtime = .leader lead
  id : lead.id = getIdGivenAddr leader
  address : lead.address = leader
  online : lead.isOffline = false
  connected : n.connected = true
  view : View lead.cluster leader replicas
  stopped : n.down = false → n.fault = none
  fault : n.fault = none ∨ n.fault = some (.panic "attempt to add with overflow")
  full : n.fault ≠ none → UInt32.size ≤ n.assigned.length + 1
  numbered : Numbered opNum n.assigned
  next : n.fault = none → lead.currentOpId.toNat = n.assigned.length + 1
  requests : ∀ q ∈ n.assigned, IsRequest q.2.op
  pending : ∀ m p, lead.operations.lookup m = some p →
    ∃ q, (m, q) ∈ n.assigned ∧ p = { q with ackCount := n.acks replicas m }
  settled : ∀ q ∈ n.assigned, lead.operations.lookup q.1 = none →
    q.1 ∈ n.executed.map (fun e => e.1) ∧ q.1 ∉ n.outstanding.map (fun e => e.1)
  executed : ∀ q ∈ n.assigned, q.1 ∈ n.executed.map (fun e => e.1) ↔
    quorum lead.cluster.len ≤ n.acks replicas q.1
  commands : ∀ e ∈ n.executed, e ∈ n.log
  once : (n.executed.map fun e => e.1).Nodup
  outstanding : ∀ e ∈ n.outstanding, e ∈ n.executed ∧ (lead.operations.lookup e.1).isSome
  outstandingOnce : (n.outstanding.map fun e => e.1).Nodup
  replies : ∀ a ∈ n.answers, ∃ q, (a.opId, q) ∈ n.assigned ∧ Answers leader q a
  replied : ∀ a ∈ n.answers, lead.operations.lookup a.opId = none
  repliedOnce : (n.answers.map fun a => a.opId).Nodup

section LeaderInv

variable [AddrHash] {leader : SocketAddr} {replicas : Keys SocketAddr} {n : NodeState α}
  {lead : Leader α}

omit [AddrHash] in
theorem mem_log {n : NodeState α} {e : OpId × Operation α} :
    e ∈ n.log ↔ ∃ q, (e.1, q) ∈ n.assigned ∧ q.op = e.2 := by
  unfold NodeState.log
  rw [List.mem_map]
  constructor
  · rintro ⟨⟨m, q⟩, hq, rfl⟩
    exact ⟨q, hq, rfl⟩
  · rintro ⟨q, hq, hop⟩
    exact ⟨_, hq, Prod.ext rfl hop⟩

theorem LeaderInv.log_numbered (h : LeaderInv leader replicas n lead) : Numbered opNum n.log :=
  h.numbered.map fun _ => rfl

theorem LeaderInv.fresh_id (h : LeaderInv leader replicas n lead) (hup : n.fault = none)
    {q : OpId × PendingOperation α} (hq : q ∈ n.assigned) : q.1 ≠ lead.currentOpId := by
  intro heq
  have hle := (h.numbered.bounds hq).2
  have hnext := h.next hup
  unfold opNum at hle
  rw [heq] at hle
  omega

theorem LeaderInv.quorum_eq (h : LeaderInv leader replicas n lead) (hap : ¬ leader ∈ replicas) :
    quorum lead.cluster.len = (replicas.toList.length + 1) / 2 :=
  h.view.quorum hap

/-- What `handle_request` leaves behind, whether or not the increment overflows. -/
theorem LeaderInv.assign (h : LeaderInv leader replicas n lead) (hap : ¬ leader ∈ replicas)
    (hpos : 1 ≤ replicas.toList.length) (hup : n.fault = none)
    (hfresh : n.acks replicas lead.currentOpId = 0) {event : Event α} {reqId : ReqId}
    {op : Operation α} {addr : SocketAddr} (hev : Asks lead.address event reqId op addr)
    (hop : IsRequest op) {fault : Option Fault} {next : OpId}
    (hfault : fault = none ∨ fault = some (.panic "attempt to add with overflow"))
    (hfull : fault ≠ none → UInt32.size ≤ n.assigned.length + 2)
    (hnext : fault = none → next.toNat = n.assigned.length + 2)
    (sent : List (SocketAddr × Message α)) :
    LeaderInv leader replicas
      (n.after event fault { n.task 0 with
        self := .leader { lead.store reqId op addr with currentOpId := next }, sent := sent })
      { lead.store reqId op addr with currentOpId := next } := by
  have hcur := h.next hup
  have hcur := h.next hup
  set n' := n.after event fault { n.task 0 with
    self := .leader { lead.store reqId op addr with currentOpId := next }, sent := sent } with hn'
  have hassigned : n'.assigned = n.assigned ++ [(lead.currentOpId, .new op addr reqId)] := by
    rw [hn', after_assigned, h.runtime, assignment_asks h.online hev]
  have hold : ∀ q ∈ n.assigned, q ∈ n'.assigned := fun q hq => by
    rw [hassigned]
    exact List.mem_append_left _ hq
  have hexec : n'.executed = n.executed := List.append_nil _
  have hout : n'.outstanding = n.outstanding := List.append_nil _
  have hans : n'.answers = n.answers := by
    rw [hn', after_answers, answered_asks hev, List.append_nil]
  have hlookup : ∀ m, m ≠ lead.currentOpId →
      (lead.store reqId op addr).operations.lookup m = lead.operations.lookup m :=
    fun m hm => AList.lookup_insert_ne hm
  have hown : (lead.store reqId op addr).operations.lookup lead.currentOpId =
      some (.new op addr reqId) := AList.lookup_insert _
  refine { h with
    runtime := rfl
    stopped := ?_
    fault := hfault
    full := ?_
    numbered := ?_
    next := ?_
    requests := ?_
    pending := ?_
    settled := ?_
    executed := ?_
    commands := ?_
    once := hexec ▸ h.once
    outstanding := ?_
    outstandingOnce := hout ▸ h.outstandingOnce
    replies := ?_
    replied := ?_
    repliedOnce := hans ▸ h.repliedOnce }
  · intro hdown
    exact Option.isNone_iff_eq_none.mp (by simpa [hn', NodeState.after] using hdown)
  · intro hf
    rw [hassigned, List.length_append, List.length_singleton]
    exact hfull hf
  · rw [hassigned]
    exact h.numbered.concat hcur
  · intro hf
    rw [hassigned, List.length_append, List.length_singleton]
    exact hnext hf
  · intro q hq
    rw [hassigned] at hq
    rcases List.mem_append.mp hq with hq | hq
    · exact h.requests q hq
    · obtain rfl := List.mem_singleton.mp hq
      exact hop
  · intro m p hp
    by_cases hm : m = lead.currentOpId
    · subst hm
      obtain rfl : .new op addr reqId = p := Option.some.inj (hown.symm.trans hp)
      refine ⟨.new op addr reqId, ?_, ?_⟩
      · rw [hassigned]
        exact List.mem_append_right _ (List.mem_singleton.mpr rfl)
      · rw [hn', after_acks, hfresh]
        rfl
    · obtain ⟨q, hq, heq⟩ := h.pending m p ((hlookup m hm).symm.trans hp)
      exact ⟨q, hold _ hq, heq⟩
  · intro q hq hnone
    rw [hexec, hout]
    rw [hassigned] at hq
    rcases List.mem_append.mp hq with hq | hq
    · exact h.settled q hq ((hlookup _ (h.fresh_id hup hq)).symm.trans hnone)
    · obtain rfl := List.mem_singleton.mp hq
      cases hown.symm.trans hnone
  · intro q hq
    rw [hexec]
    rw [hassigned] at hq
    rcases List.mem_append.mp hq with hq | hq
    · exact h.executed q hq
    · obtain rfl := List.mem_singleton.mp hq
      have hnot : lead.currentOpId ∉ n.executed.map fun e => e.1 := by
        intro hmem
        obtain ⟨e, he, heq⟩ := List.mem_map.mp hmem
        obtain ⟨q', hq', -⟩ := mem_log.mp (h.commands e he)
        exact h.fresh_id hup hq' heq
      have hquorum : ¬ quorum lead.cluster.len ≤ n.acks replicas lead.currentOpId := by
        rw [h.quorum_eq hap, hfresh]
        omega
      exact iff_of_false hnot hquorum
  · intro e he
    rw [hexec] at he
    obtain ⟨q, hq, hqe⟩ := mem_log.mp (h.commands e he)
    exact mem_log.mpr ⟨q, hold _ hq, hqe⟩
  · intro e he
    rw [hout] at he
    rw [hexec]
    obtain ⟨hmem, hsome⟩ := h.outstanding e he
    obtain ⟨q, hq, -⟩ := mem_log.mp (h.commands e hmem)
    exact ⟨hmem, by rw [← hlookup e.1 (h.fresh_id hup hq)] at hsome; exact hsome⟩
  · intro a ha
    rw [hans] at ha
    obtain ⟨q, hq, hqa⟩ := h.replies a ha
    exact ⟨q, hold _ hq, hqa⟩
  · intro a ha
    rw [hans] at ha
    obtain ⟨q, hq, -⟩ := h.replies a ha
    exact (hlookup a.opId (h.fresh_id hup hq)).trans (h.replied a ha)

/-- What a request does to the leader: it gets the next id and goes to every
    replica; past the last id the leader stops. -/
theorem LeaderInv.request (h : LeaderInv leader replicas n lead) (hap : ¬ leader ∈ replicas)
    (hpos : 1 ≤ replicas.toList.length) (hup : n.fault = none)
    (hfresh : n.acks replicas lead.currentOpId = 0) {event : Event α} {reqId : ReqId}
    {op : Operation α} {addr : SocketAddr} (hev : Asks lead.address event reqId op addr)
    (hop : IsRequest op) :
    ∃ fault t lead', ended (NodeRuntime.turn event (n.task 0)) = (fault, t) ∧
      LeaderInv leader replicas (n.after event fault t) lead' ∧
      (n.after event fault t).assigned =
        n.assigned ++ [(lead.currentOpId, .new op addr reqId)] ∧
      t.commands = [] ∧ t.sent = lead.peers.map fun a => (a, .log lead.currentOpId op) := by
  have hlen : lead.cluster.len ≠ 1 := by
    rw [h.view.len hap]
    omega
  have hcur := h.next hup
  have hassigned : n.assigned ++ assignment n.runtime event =
      n.assigned ++ [(lead.currentOpId, .new op addr reqId)] := by
    rw [h.runtime, assignment_asks h.online hev]
  by_cases hs : lead.currentOpId.toNat + 1 < UInt32.size
  · refine ⟨_, _, _, leader_replicates h.runtime h.connected h.online hlen hs hev,
      h.assign hap hpos hup hfresh hev hop (Or.inl rfl) (absurd rfl) ?_ _, hassigned, rfl, rfl⟩
    intro _
    have hone : (1 : OpId).toNat = 1 := rfl
    rw [UInt32.toNat_add, hone, Nat.mod_eq_of_lt hs, hcur]
  · exact ⟨_, _, _, leader_overflows h.runtime h.connected h.online hlen hs hev,
      h.assign hap hpos hup hfresh hev hop (Or.inr rfl) (fun _ => by omega) (by simp) _,
      hassigned, rfl, rfl⟩

/-! ## Acks -/

omit [AddrHash] in
theorem acksFrom_receive (n : NodeState α) (src : SocketAddr) (msg : Message α) (i : SocketAddr)
    (m : OpId) : (n.receive src msg).acksFrom i m =
      n.acksFrom i m + if src = i ∧ isAck m msg = true then 1 else 0 := by
  simp [NodeState.receive, NodeState.acksFrom, List.countP_append, List.countP_singleton]

omit [AddrHash] in
/-- A message that is no ack leaves the counts alone. -/
theorem acks_receive_other {msg : Message α} (hmsg : ∀ m, isAck m msg = false) (src : SocketAddr)
    (m : OpId) : (n.receive src msg).acks replicas m = n.acks replicas m := by
  refine Keys.sum_congr fun i _ => ?_
  rw [acksFrom_receive, hmsg m]
  simp

omit [AddrHash] in
theorem acks_receive_ack {src : SocketAddr} (hsrc : src ∈ replicas) (opId m : OpId) :
    (n.receive src (.ack opId)).acks replicas m =
      n.acks replicas m + if m = opId then 1 else 0 := by
  have hchange := Keys.sum_change hsrc (f := fun i => n.acksFrom i m)
    (g := fun i => (n.receive src (.ack opId)).acksFrom i m) fun j hj => by
      rw [acksFrom_receive, if_neg fun hc => hj hc.1.symm, Nat.add_zero]
  have hself : (n.receive src (.ack opId)).acksFrom src m =
      n.acksFrom src m + if m = opId then 1 else 0 := by
    rw [acksFrom_receive]
    by_cases hm : m = opId
    · subst hm
      simp [isAck]
    · simp [isAck, hm, Ne.symm hm]
  rw [hself] at hchange
  unfold NodeState.acks
  omega

theorem LeaderInv.receive (h : LeaderInv leader replicas n lead) {msg : Message α}
    (hmsg : ∀ m, isAck m msg = false) (src : SocketAddr) :
    LeaderInv leader replicas (n.receive src msg) lead := by
  refine { h with pending := ?_, executed := ?_ }
  · intro m p hp
    rw [acks_receive_other hmsg]
    exact h.pending m p hp
  · intro q hq
    rw [acks_receive_other hmsg]
    exact h.executed q hq

/-- One more ack for `m` on record, and the commands `cmds` it lets go. -/
theorem LeaderInv.counted (h : LeaderInv leader replicas n lead) (hup : n.fault = none)
    {n' : NodeState α}
    {ops : HashMap OpId (PendingOperation α)} {m : OpId} {cmds : List (OpId × Operation α)}
    (hrt : n'.runtime = .leader { lead with operations := ops }) (hconn : n'.connected = true)
    (hfault : n'.fault = none) (hassigned : n'.assigned = n.assigned)
    (hexec : n'.executed = n.executed ++ cmds) (hout : n'.outstanding = n.outstanding ++ cmds)
    (hans : n'.answers = n.answers)
    (hacks : ∀ k, n'.acks replicas k = n.acks replicas k + if k = m then 1 else 0)
    (hother : ∀ k, k ≠ m → ops.lookup k = lead.operations.lookup k)
    (hown : ops.lookup m =
      (lead.operations.lookup m).map fun p => { p with ackCount := p.ackCount + 1 })
    (hcmds : (cmds = [] ∧ ((∃ q, (m, q) ∈ n.assigned) →
        (quorum lead.cluster.len ≤ n.acks replicas m ↔
          quorum lead.cluster.len ≤ n.acks replicas m + 1))) ∨
      ∃ q, (m, q) ∈ n.assigned ∧ cmds = [(m, q.op)] ∧ (lead.operations.lookup m).isSome ∧
        n.acks replicas m + 1 = quorum lead.cluster.len) :
    LeaderInv leader replicas n' { lead with operations := ops } := by
  have hsome : ∀ k, (ops.lookup k).isSome = (lead.operations.lookup k).isSome := by
    intro k
    by_cases hk : k = m
    · rw [hk, hown, Option.isSome_map]
    · rw [hother k hk]
  have hnone : ∀ k, ops.lookup k = none → lead.operations.lookup k = none := by
    intro k hk
    rw [← Option.isNone_iff_eq_none] at hk ⊢
    rw [← Option.not_isSome] at hk ⊢
    rwa [hsome] at hk
  -- a command is let go only for an operation that was not executed before
  have hcmd : ∀ e ∈ cmds, e.1 = m ∧ e ∈ n.log ∧ (lead.operations.lookup m).isSome ∧
      m ∉ n.executed.map fun e => e.1 := by
    intro e he
    rcases hcmds with ⟨rfl, -⟩ | ⟨q, hq, rfl, hm, hreach⟩
    · cases he
    · obtain rfl := List.mem_singleton.mp he
      refine ⟨rfl, mem_log.mpr ⟨q, hq, rfl⟩, hm, fun hmem => ?_⟩
      have := (h.executed _ hq).mp hmem
      dsimp only at this
      omega
  have hnodup : (cmds.map fun e => e.1).Nodup := by
    rcases hcmds with ⟨rfl, -⟩ | ⟨q, -, rfl, -⟩
    · exact List.nodup_nil
    · exact List.nodup_singleton _
  refine { h with
    runtime := hrt
    connected := hconn
    stopped := fun _ => hfault
    fault := Or.inl hfault
    full := fun hf => absurd hfault hf
    numbered := hassigned ▸ h.numbered
    next := ?_
    requests := hassigned ▸ h.requests
    pending := ?_
    settled := ?_
    executed := ?_
    commands := ?_
    once := ?_
    outstanding := ?_
    outstandingOnce := ?_
    replies := ?_
    replied := ?_
    repliedOnce := hans ▸ h.repliedOnce }
  · intro _
    rw [hassigned]
    exact h.next hup
  · intro k p hp
    rw [hassigned]
    by_cases hk : k = m
    · subst hk
      rw [hown] at hp
      obtain ⟨p', hp', rfl⟩ := Option.map_eq_some_iff.mp hp
      obtain ⟨q, hq, rfl⟩ := h.pending k p' hp'
      refine ⟨q, hq, ?_⟩
      rw [hacks, if_pos rfl]
    · rw [hother k hk] at hp
      obtain ⟨q, hq, hpq⟩ := h.pending k p hp
      refine ⟨q, hq, ?_⟩
      rw [hacks, if_neg hk, Nat.add_zero]
      exact hpq
  · intro q hq hq0
    rw [hassigned] at hq
    obtain ⟨hmem, hnot⟩ := h.settled q hq (hnone _ hq0)
    rw [hexec, hout, List.map_append, List.map_append]
    refine ⟨List.mem_append_left _ hmem, fun hmem' => ?_⟩
    rcases List.mem_append.mp hmem' with hmem' | hmem'
    · exact hnot hmem'
    · obtain ⟨e, he, heq⟩ := List.mem_map.mp hmem'
      obtain ⟨hem, -, -, hfresh⟩ := hcmd e he
      exact hfresh (hem ▸ heq ▸ hmem)
  · intro q hq
    rw [hassigned] at hq
    rw [hexec, List.map_append, List.mem_append, hacks]
    by_cases hk : q.1 = m
    · rw [if_pos hk]
      rcases hcmds with ⟨rfl, hiff⟩ | ⟨q', hq', rfl, hm, hreach⟩
      · rw [hk, ← hiff ⟨q.2, hk ▸ hq⟩, ← hk, ← h.executed q hq]
        simp
      · rw [hk]
        exact iff_of_true (Or.inr (List.mem_singleton.mpr rfl)) hreach.ge
    · rw [if_neg hk, Nat.add_zero, ← h.executed q hq]
      refine or_iff_left fun hmem => ?_
      obtain ⟨e, he, heq⟩ := List.mem_map.mp hmem
      exact hk (heq.symm.trans (hcmd e he).1)
  · intro e he
    have hlog : n'.log = n.log := congrArg (List.map _) hassigned
    rw [hexec] at he
    rw [hlog]
    exact (List.mem_append.mp he).elim (h.commands e) fun he => (hcmd e he).2.1
  · rw [hexec, List.map_append]
    refine List.Nodup.append h.once hnodup fun k hk hk' => ?_
    obtain ⟨e, he, rfl⟩ := List.mem_map.mp hk'
    obtain ⟨hem, -, -, hfresh⟩ := hcmd e he
    exact hfresh (hem ▸ hk)
  · intro e he
    rw [hout] at he
    rw [hexec, hsome]
    rcases List.mem_append.mp he with he | he
    · exact ⟨List.mem_append_left _ (h.outstanding e he).1, (h.outstanding e he).2⟩
    · obtain ⟨hem, -, hsm, -⟩ := hcmd e he
      exact ⟨List.mem_append_right _ he, hem ▸ hsm⟩
  · rw [hout, List.map_append]
    refine List.Nodup.append h.outstandingOnce hnodup fun k hk hk' => ?_
    obtain ⟨e, he, rfl⟩ := List.mem_map.mp hk'
    obtain ⟨hem, -, -, hfresh⟩ := hcmd e he
    obtain ⟨f, hf, hfe⟩ := List.mem_map.mp hk
    exact hfresh (hem ▸ hfe ▸ List.mem_map_of_mem (h.outstanding f hf).1)
  · intro a ha
    rw [hans] at ha
    rw [hassigned]
    exact h.replies a ha
  · intro a ha
    rw [hans] at ha
    have hlook := h.replied a ha
    have hsm := hsome a.opId
    rw [hlook] at hsm
    simpa using hsm

/-- The command an ack for `m` lets go: the operation whose quorum it completes. -/
def completes (lead : Leader α) (m : OpId) : List (OpId × Operation α) :=
  match lead.operations.lookup m with
  | some p => if p.ackCount + 1 = quorum lead.cluster.len then [(m, p.op)] else []
  | none => []

/-- What an ack does to the leader. The operation is let go when its count reaches
    the quorum, also with a single replica, which acks it once. -/
theorem LeaderInv.ack (h : LeaderInv leader replicas n lead) (hap : ¬ leader ∈ replicas)
    (hup : n.fault = none) {src : SocketAddr} (hsrc : src ∈ replicas) {m : OpId}
    (hbound : n.acks replicas m + 1 ≤ replicas.toList.length) :
    ∃ t lead', ended (NodeRuntime.turn (.nodeMsg (.ok (.ack m)))
        ((n.receive src (.ack m)).task 0)) = (none, t) ∧
      LeaderInv leader replicas
        ((n.receive src (.ack m)).after (.nodeMsg (.ok (.ack m))) none t) lead' ∧
      t.sent = [] ∧ t.commands = completes lead m := by
  have hrt : (n.receive src (.ack m)).runtime = .leader lead := h.runtime
  have hassigned : (n.receive src (.ack m)).assigned ++ assignment (n.receive src (.ack m)).runtime
      (.nodeMsg (.ok (.ack m))) = n.assigned := by
    rw [hrt]
    exact List.append_nil _
  have hq := h.quorum_eq hap
  have hlen := h.view.len hap
  cases hp : lead.operations.lookup m with
  | none =>
    have hack := leader_ack hrt (Leader.handleAck_unknown
      (t := { (n.receive src (.ack m)).task 0 with self := lead }) hp)
    refine ⟨_, lead, hack, ?_, rfl, by unfold completes; rw [hp]; rfl⟩
    refine h.counted (m := m) hup rfl h.connected rfl hassigned rfl rfl
      (List.append_nil _) (fun k => acks_receive_ack hsrc m k) (fun _ _ => rfl) (by rw [hp]; rfl)
      (Or.inl ⟨rfl, ?_⟩)
    rintro ⟨q, hq⟩
    have hexec := (h.executed _ hq).mp (h.settled _ hq hp).1
    exact iff_of_true hexec (Nat.le_succ_of_le hexec)
  | some p =>
    obtain ⟨q, hqm, rfl⟩ := h.pending m p hp
    by_cases hreach : n.acks replicas m + 1 = quorum lead.cluster.len
    · have hack := leader_ack hrt (Leader.handleAck_executes
        (t := { (n.receive src (.ack m)).task 0 with self := lead }) hp (Or.inl hreach))
      refine ⟨_, lead.count m { q with ackCount := n.acks replicas m }, hack, ?_, rfl,
        by unfold completes; rw [hp]; exact (if_pos hreach).symm⟩
      exact h.counted (m := m) hup rfl h.connected rfl hassigned rfl rfl
        (List.append_nil _) (fun k => acks_receive_ack hsrc m k)
        (fun k hk => AList.lookup_insert_ne hk) (by rw [hp]; exact AList.lookup_insert _)
        (Or.inr ⟨q, hqm, rfl, by rw [hp]; rfl, hreach⟩)
    · have htwo : lead.cluster.len ≠ 2 := by omega
      have hack := leader_ack hrt (Leader.handleAck_waits
        (t := { (n.receive src (.ack m)).task 0 with self := lead }) hp hreach htwo (by
          show lead.cluster.len ≠ 0
          omega))
      refine ⟨_, lead.count m { q with ackCount := n.acks replicas m }, hack, ?_, rfl,
        by unfold completes; rw [hp]; exact (if_neg hreach).symm⟩
      exact h.counted (m := m) hup rfl h.connected rfl hassigned rfl rfl
        (List.append_nil _) (fun k => acks_receive_ack hsrc m k)
        (fun k hk => AList.lookup_insert_ne hk) (by rw [hp]; exact AList.lookup_insert _)
        (Or.inl ⟨rfl, fun _ => by omega⟩)

/-! ## Database results -/

/-- The pending entry of an outstanding command is the request it came from. -/
theorem LeaderInv.origin (h : LeaderInv leader replicas n lead) {e : OpId × Operation α}
    (he : e ∈ n.outstanding) :
    ∃ q, (e.1, q) ∈ n.assigned ∧ q.op = e.2 ∧
      lead.operations.lookup e.1 = some { q with ackCount := n.acks replicas e.1 } := by
  obtain ⟨hmem, hsome⟩ := h.outstanding e he
  obtain ⟨p, hp⟩ := Option.isSome_iff_exists.mp hsome
  obtain ⟨q, hq, rfl⟩ := h.pending e.1 p hp
  obtain ⟨q', hq', hop⟩ := mem_log.mp (h.commands e hmem)
  have hqq : (e.1, q) = (e.1, q') := h.numbered.unique hq hq' rfl
  obtain rfl := (Prod.mk.inj hqq).2
  exact ⟨q, hq, hop, hp⟩

/-- What a database result does to the leader: it answers the request and forgets
    it. -/
theorem LeaderInv.result (h : LeaderInv leader replicas n lead) (hup : n.fault = none) {k : Nat}
    {e : OpId × Operation α} (hk : n.outstanding[k]? = some e) (r : OperationResult α) :
    ∃ t lead', ended (NodeRuntime.turn (resultOf e r) ((n.answer k).task 0)) = (none, t) ∧
      LeaderInv leader replicas ((n.answer k).after (resultOf e r) none t) lead' ∧
      t.commands = [] ∧ ∀ p ∈ t.sent, p.1 ≠ leader ∧ ∃ reqId r', p.2 = .response reqId r' := by
  have hmem : e ∈ n.outstanding := List.mem_of_getElem? hk
  obtain ⟨q, hq, hop, hp⟩ := h.origin hmem
  have hid : e.1 ≠ 0 := by
    intro h0
    have hone := (h.numbered.bounds hq).1
    unfold opNum at hone
    rw [h0] at hone
    exact absurd hone (by decide)
  have hreq : IsRequest e.2 := hop ▸ h.requests _ hq
  have hrt : (n.answer k).runtime = .leader lead := h.runtime
  refine ⟨_, { lead with operations := lead.operations.erase e.1 },
    leader_answers hrt h.connected hid hp r, ?_, rfl, h.address ▸ reply_responses hreq _ r⟩
  set n' := (n.answer k).after (resultOf e r) none { (n.answer k).task 0 with
    self := .leader { lead with operations := lead.operations.erase e.1 }
    sent := (lead.reply { q with ackCount := n.acks replicas e.1 } e.2 r).1
    told := (lead.reply { q with ackCount := n.acks replicas e.1 } e.2 r).2 } with hn'
  have hassigned : n'.assigned = n.assigned := by
    rw [hn', after_assigned, hrt]
    exact List.append_nil _
  have hexec : n'.executed = n.executed := List.append_nil _
  have hout : n'.outstanding = n.outstanding.eraseIdx k := List.append_nil _
  have hlog : n'.log = n.log := congrArg (List.map _) hassigned
  have hrest : e.1 ∉ (n.outstanding.eraseIdx k).map (fun e => e.1) := by
    obtain ⟨hlt, rfl⟩ := List.getElem?_eq_some_iff.mp hk
    have hperm := (List.getElem_cons_eraseIdx_perm hlt).map fun e => e.1
    have hnodup := hperm.nodup_iff.mpr h.outstandingOnce
    rw [List.map_cons] at hnodup
    exact (List.nodup_cons.mp hnodup).1
  have hsub : ∀ f ∈ n.outstanding.eraseIdx k, f ∈ n.outstanding :=
    fun f hf => List.mem_of_mem_eraseIdx hf
  refine { h with
    runtime := rfl
    stopped := fun _ => rfl
    fault := Or.inl rfl
    full := absurd rfl
    numbered := hassigned ▸ h.numbered
    next := ?_
    requests := hassigned ▸ h.requests
    pending := ?_
    settled := ?_
    executed := ?_
    commands := ?_
    once := hexec ▸ h.once
    outstanding := ?_
    outstandingOnce := ?_
    replies := ?_
    replied := ?_
    repliedOnce := ?_ }
  · intro _
    rw [hassigned]
    exact h.next hup
  · intro m p hm
    rw [hassigned]
    by_cases hme : m = e.1
    · subst hme
      rw [AList.lookup_erase] at hm
      cases hm
    · rw [AList.lookup_erase_ne hme] at hm
      exact h.pending m p hm
  · intro q' hq' hnone
    rw [hassigned] at hq'
    rw [hexec, hout]
    by_cases hme : q'.1 = e.1
    · rw [hme]
      exact ⟨List.mem_map_of_mem (h.outstanding e hmem).1, hrest⟩
    · rw [AList.lookup_erase_ne hme] at hnone
      obtain ⟨hmem', hnot⟩ := h.settled q' hq' hnone
      refine ⟨hmem', fun hin => hnot ?_⟩
      obtain ⟨f, hf, hfe⟩ := List.mem_map.mp hin
      exact hfe ▸ List.mem_map_of_mem (hsub f hf)
  · intro q' hq'
    rw [hassigned] at hq'
    rw [hexec]
    exact h.executed q' hq'
  · intro f hf
    rw [hexec] at hf
    rw [hlog]
    exact h.commands f hf
  · intro f hf
    rw [hout] at hf
    rw [hexec]
    have hne : f.1 ≠ e.1 := fun heq => hrest (heq ▸ List.mem_map_of_mem hf)
    rw [AList.lookup_erase_ne hne]
    exact h.outstanding f (hsub f hf)
  · rw [hout]
    exact h.outstandingOnce.sublist ((List.eraseIdx_sublist _ k).map _)
  · intro a ha
    rw [hassigned]
    rcases List.mem_append.mp ha with ha | ha
    · exact h.replies a ha
    · obtain rfl := List.mem_singleton.mp ha
      refine ⟨q, hq, ?_⟩
      have hans := reply_answers lead (h.requests _ hq)
        { q with ackCount := n.acks replicas e.1 } rfl rfl e.1 r
      rw [h.address, hop] at hans
      exact hans
  · intro a ha
    by_cases hme : a.opId = e.1
    · rw [hme]
      exact AList.lookup_erase _ _
    · rcases List.mem_append.mp ha with ha | ha
      · rw [AList.lookup_erase_ne hme]
        exact h.replied a ha
      · obtain rfl := List.mem_singleton.mp ha
        exact absurd rfl hme
  · rw [show n'.answers = n.answers ++ [_] from rfl, List.map_append]
    refine List.Nodup.append h.repliedOnce (List.nodup_singleton _) fun m hm hm' => ?_
    obtain ⟨a, ha, rfl⟩ := List.mem_map.mp hm
    have heq : a.opId = e.1 := List.mem_singleton.mp hm'
    have hnone := h.replied a ha
    rw [heq, hp] at hnone
    cases hnone

end LeaderInv


end YpfRuta.Cluster
