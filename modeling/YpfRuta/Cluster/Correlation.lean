/-
  Requests and results at the leader: ids are not shared, and every result answers
  the request whose operation produced it. A cluster of two or more nodes keeps
  this; a lone leader never advances its counter, so it keeps it for one request.
-/
import YpfRuta.Cluster.Replication

namespace YpfRuta.Cluster

open Server Lib

variable {α : Type}

/-- The requests and the answers of a leader's record fit together. -/
structure Correlated (leader : SocketAddr) (n : NodeState α) : Prop where
  distinct : (n.assigned.map fun q => q.1).Nodup
  commands : ∀ e ∈ n.executed, ∃ q, (e.1, q) ∈ n.assigned ∧ q.op = e.2
  answers : ∀ a ∈ n.answers, ∃ q, (a.opId, q) ∈ n.assigned ∧ Answers leader q a
  once : (n.answers.map fun a => a.opId).Nodup
  expected : n.fault ≠ some (.panic "leader received the result of an unexisting operation")

/-- A step that brings a request to a node. -/
def Label.asks : Label α → Bool
  | .request .. => true
  | .station _ (.chargeRequest ..) => true
  | _ => false

section Alone

variable [AddrHash] {leader : SocketAddr} {s s' : State α} {n : NodeState α} {lead : Leader α}

/-- A result without a pending entry panics. -/
theorem leader_unexpected (hrt : n.runtime = .leader lead) {e : OpId × Operation α}
    (hid : e.1 ≠ 0) (hp : lead.operations.lookup e.1 = none) (r : OperationResult α) :
    ended (NodeRuntime.turn (resultOf e r) (n.task 0)) =
      (some (.panic "leader received the result of an unexisting operation"), n.task 0) := by
  have hres : Leader.handleOperationResult e.1 e.2 r { n.task 0 with self := lead } =
      .error (.panic "leader received the result of an unexisting operation")
        { n.task 0 with self := lead } := by
    unfold Leader.handleOperationResult
    exact bind_error (Leader.takePending_panics hid hp e.2)
  have herr : errorOf (Node.handleOperationResult e.1 e.2 r)
      ({ n.task 0 with self := lead } : Task α (Leader α)) =
      .error (.panic "leader received the result of an unexisting operation")
        { n.task 0 with self := lead } := by
    unfold errorOf
    rw [show (Node.handleOperationResult e.1 e.2 r : Handler α (Leader α) Unit)
      { n.task 0 with self := lead } = _ from hres]
  have hact : Node.handleActorEvent (.operationResult e.1 e.2 r)
      ({ n.task 0 with self := lead } : Task α (Leader α)) = _ := bind_error herr
  have hsel : Node.select (resultOf e r) ({ n.task 0 with self := lead } : Task α (Leader α)) = _ :=
    bind_error hact
  rw [NodeRuntime.turn_leader_panics hrt hsel]
  simp [ended, NodeState.task, hrt]

/-- What a lone leader has done with its first request. -/
inductive Stage (leader : SocketAddr) (n : NodeState α) (lead : Leader α) : Prop where
  | idle (ha : n.assigned = []) (he : n.executed = []) (ho : n.outstanding = [])
      (hans : n.answers = [])
  | running (q : PendingOperation α) (ha : n.assigned = [(1, q)]) (he : n.executed = [(1, q.op)])
      (ho : n.outstanding = [(1, q.op)]) (hans : n.answers = [])
      (hp : lead.operations.lookup 1 = some q)
  | answered (q : PendingOperation α) (a : Answer α) (ha : n.assigned = [(1, q)])
      (he : n.executed = [(1, q.op)]) (ho : n.outstanding = []) (hans : n.answers = [a])
      (hid : a.opId = 1) (hq : Answers leader q a)

/-- A leader without replicas: its op id stays 1. -/
structure Alone (leader : SocketAddr) (n : NodeState α) (lead : Leader α) : Prop where
  runtime : n.runtime = .leader lead
  address : lead.address = leader
  online : lead.isOffline = false
  connected : n.connected = true
  len : lead.cluster.len = 1
  current : lead.currentOpId = 1
  fault : n.fault = none
  outstanding : ∀ e ∈ n.outstanding, e.1 = 1 ∧ IsRequest e.2
  stage : n.assigned.length ≤ 1 → Stage leader n lead

/-- The cluster of a lone leader, after `asked` requests. -/
structure AloneInv (leader : SocketAddr) (asked : Nat) (s : State α) (n : NodeState α) : Prop where
  node : s.node leader = some n
  nobody : ∀ a, a ≠ leader → s.node a = none
  quiet : ∀ a, s.link a leader = []
  ids : ∀ q ∈ n.assigned, q.1 = 1
  asked : n.assigned.length = asked
  runs : n.down = false → ∃ lead, Alone leader n lead
  faults : n.down = true → 2 ≤ n.assigned.length

omit [AddrHash] in
/-- A stage is correlated. -/
theorem Stage.correlated (h : Stage leader n lead) (hf : n.fault = none) : Correlated leader n := by
  have hexp : n.fault ≠ some (.panic "leader received the result of an unexisting operation") := by
    rw [hf]
    exact nofun
  cases h with
  | idle ha he ho hans =>
    refine ⟨?_, ?_, ?_, ?_, hexp⟩ <;> simp [ha, he, hans]
  | running q ha he ho hans hp =>
    refine ⟨?_, ?_, ?_, ?_, hexp⟩ <;> simp [ha, he, hans]
  | answered q a ha he ho hans hid hq =>
    refine ⟨?_, ?_, ?_, ?_, hexp⟩
    · simp [ha]
    · simp [ha, he]
    · intro b hb
      rw [hans] at hb
      obtain rfl := List.mem_singleton.mp hb
      exact ⟨q, by rw [ha, hid]; exact List.mem_singleton_self _, hq⟩
    · simp [hans]

/-- A request of a lone leader: it is handed to the database at once, under id 1. -/
theorem Alone.request (h : Alone leader n lead) {event : Event α} {reqId : ReqId}
    {op : Operation α} {addr : SocketAddr} (hev : Asks lead.address event reqId op addr)
    (hop : IsRequest op) :
    ∃ t, ended (NodeRuntime.turn event (n.task 0)) = (none, t) ∧ t.sent = [] ∧
      (n.after event none t).assigned = n.assigned ++ [(1, .new op addr reqId)] ∧
      Alone leader (n.after event none t) (lead.store reqId op addr) := by
  refine ⟨_, leader_executes_alone h.runtime h.online h.len hev, rfl, ?_, ?_⟩
  · rw [after_assigned, h.runtime, assignment_asks h.online hev, h.current]
  set n' := n.after event none { n.task 0 with
    self := .leader (lead.store reqId op addr), commands := [(lead.currentOpId, op)] } with hn'
  have hassigned : n'.assigned = n.assigned ++ [(1, .new op addr reqId)] := by
    rw [hn', after_assigned, h.runtime, assignment_asks h.online hev, h.current]
  refine ⟨rfl, h.address, h.online, h.connected, h.len, h.current, rfl, ?_, ?_⟩
  · intro e he
    rcases List.mem_append.mp he with he | he
    · exact h.outstanding e he
    · obtain rfl := List.mem_singleton.mp he
      exact ⟨h.current, hop⟩
  · intro hlen
    rw [hassigned, List.length_append, List.length_singleton] at hlen
    have hzero : n.assigned = [] := List.length_eq_zero_iff.mp (by omega)
    cases h.stage (by omega) with
    | idle ha he ho hans =>
      refine .running (.new op addr reqId) ?_ ?_ ?_ ?_ ?_
      · rw [hassigned, hzero, List.nil_append]
      · rw [hn', after_executed, he, h.current]
        rfl
      · rw [hn', after_outstanding, ho, h.current]
        rfl
      · rw [hn', after_answers, answered_asks hev, hans, List.append_nil]
      · rw [← h.current]
        exact AList.lookup_insert _
    | running q ha => rw [hzero] at ha; cases ha
    | answered q a ha => rw [hzero] at ha; cases ha

/-- A result of a lone leader: it answers the entry under id 1, or panics. -/
theorem Alone.result (h : Alone leader n lead) {k : Nat} {e : OpId × Operation α}
    (hk : n.outstanding[k]? = some e) (r : OperationResult α) :
    ∃ fault t, ended (NodeRuntime.turn (resultOf e r) ((n.answer k).task 0)) = (fault, t) ∧
      sentTo leader t.sent = [] ∧ (fault.isSome → 2 ≤ n.assigned.length) ∧
      (fault = none → ∃ lead', Alone leader ((n.answer k).after (resultOf e r) none t) lead') := by
  obtain ⟨hid, hreq⟩ := h.outstanding e (List.mem_of_getElem? hk)
  have hne : e.1 ≠ 0 := by
    rw [hid]
    decide
  have hrt : (n.answer k).runtime = .leader lead := h.runtime
  cases hp : lead.operations.lookup e.1 with
  | none =>
    refine ⟨_, _, leader_unexpected hrt hne hp r, rfl, fun _ => ?_, nofun⟩
    by_contra hlt
    cases h.stage (by omega) with
    | idle ha he ho hans =>
      rw [ho] at hk
      cases hk
    | running q ha he ho hans hp' =>
      rw [hid, hp'] at hp
      cases hp
    | answered q a ha he ho =>
      rw [ho] at hk
      cases hk
  | some p =>
    refine ⟨none, _, leader_answers hrt h.connected hne hp r, ?_, nofun, fun _ => ?_⟩
    · refine List.map_eq_nil_iff.mpr (List.filter_eq_nil_iff.mpr fun x hx => ?_)
      have := (reply_responses hreq p r x hx).1
      rw [h.address] at this
      simpa using this
    · refine ⟨{ lead with operations := lead.operations.erase e.1 }, rfl, h.address, h.online,
        h.connected, h.len, h.current, rfl, ?_, ?_⟩
      · intro f hf
        have hf' : f ∈ n.outstanding.eraseIdx k := by
          rw [after_outstanding, task_commands, List.append_nil] at hf
          exact hf
        exact h.outstanding f (List.mem_of_mem_eraseIdx hf')
      · intro hlen
        have hlen' : n.assigned.length ≤ 1 := by
          rw [after_assigned, hrt] at hlen
          exact (List.length_append.symm.le.trans' (Nat.le_add_right _ _)).trans hlen
        cases h.stage hlen' with
        | idle ha he ho hans =>
          rw [ho] at hk
          cases hk
        | running q ha he ho hans hp' =>
          rw [ho] at hk
          obtain ⟨rfl, rfl⟩ : k = 0 ∧ e = (1, q.op) := by
            cases k with
            | zero => exact ⟨rfl, (Option.some.inj hk).symm⟩
            | succ k => cases hk
          obtain rfl : q = p := Option.some.inj (hp'.symm.trans hp)
          refine .answered q ⟨1, r, (lead.reply q q.op r).1, (lead.reply q q.op r).2⟩ ?_ ?_ ?_ ?_
            rfl ?_
          · rw [after_assigned, hrt]
            exact (List.append_nil _).trans ha
          · rw [after_executed]
            exact (List.append_nil _).trans he
          · rw [after_outstanding]
            show n.outstanding.eraseIdx 0 ++ [] = []
            rw [ho]
            rfl
          · rw [after_answers]
            show n.answers ++ _ = _
            rw [hans]
            rfl
          · have hans := reply_answers lead hreq q rfl rfl 1 r
            rw [h.address] at hans
            exact hans
        | answered q a ha he ho =>
          rw [ho] at hk
          cases hk

/-- A turn of the lone leader. -/
theorem AloneInv.turn {asked asked' : Nat} (h : AloneInv leader asked s n) {n₀ : NodeState α}
    {event : Event α} {fault : Option Fault} {t : Task α (NodeRuntime α)}
    (hturn : ended (NodeRuntime.turn event (n₀.task 0)) = (fault, t))
    (hsent : sentTo leader t.sent = [])
    (hids : ∀ q ∈ (n₀.after event fault t).assigned, q.1 = 1)
    (hasked : (n₀.after event fault t).assigned.length = asked')
    (hfault : fault.isSome → 2 ≤ (n₀.after event fault t).assigned.length)
    (hruns : fault = none → ∃ lead', Alone leader (n₀.after event fault t) lead') :
    AloneInv leader asked' (s.act leader n₀ event 0) (n₀.after event fault t) := by
  rw [act_eq hturn]
  refine ⟨Function.update_self .., ?_, ?_, hids, hasked, ?_, hfault⟩
  · intro a ha
    exact (Function.update_of_ne ha _ _).trans (h.nobody a ha)
  · intro a
    by_cases ha : a = leader
    · dsimp only
      rw [if_pos ha, hsent, h.quiet a]
      rfl
    · exact (if_neg ha).trans (h.quiet a)
  · intro hdown
    exact hruns (Option.isNone_iff_eq_none.mp (by simpa [NodeState.after] using hdown))

/-- A request that reaches the lone leader. -/
theorem AloneInv.asks {asked : Nat} (h : AloneInv leader asked s n) {dst : SocketAddr}
    {r : NodeState α} (hdst : s.up dst = some r) {event : Event α} {reqId : ReqId}
    {op : Operation α} {addr : SocketAddr} (hev : Asks leader event reqId op addr)
    (hop : IsRequest op) :
    ∃ n', AloneInv leader (asked + 1) (s.act dst r event 0) n' := by
  obtain ⟨hnode, hdown⟩ := up_eq_some.mp hdst
  have hl : dst = leader := by
    by_contra hne
    rw [h.nobody dst hne] at hnode
    cases hnode
  subst hl
  obtain rfl : n = r := Option.some.inj (h.node.symm.trans hnode)
  obtain ⟨lead, hlone⟩ := h.runs hdown
  rw [← hlone.address] at hev
  obtain ⟨t, hturn, hsent, hassigned, hnext⟩ := hlone.request hev hop
  refine ⟨_, h.turn hturn (by rw [hsent]; rfl) ?_ ?_ nofun fun _ => ⟨_, hnext⟩⟩
  · rw [hassigned]
    intro q hq
    rcases List.mem_append.mp hq with hq | hq
    · exact h.ids q hq
    · rw [List.mem_singleton.mp hq]
  · rw [hassigned, List.length_append, List.length_singleton, h.asked]

theorem AloneInv.step {asked : Nat} (h : AloneInv leader asked s n) {l : Label α}
    (hl : l.Steady) (hs : s.step l = some s') :
    ∃ n', AloneInv leader (asked + if l.asks then 1 else 0) s' n' := by
  cases l with
  | request dst reqId op addr =>
    obtain ⟨r, hdst, rfl⟩ := Option.map_eq_some_iff.mp hs
    exact h.asks hdst (.client reqId op addr) hl
  | station dst msg =>
    obtain ⟨r, hdst, rfl⟩ := Option.map_eq_some_iff.mp hs
    cases msg with
    | chargeRequest accountId cardId amount requestId =>
      exact h.asks hdst (.station accountId cardId amount requestId) (fun _ hc => by cases hc)
    | disconnectNode => exact hl.elim
    | connectNode => exact hl.elim
  | deliver src dst =>
    unfold State.step at hs
    cases hdst : s.up dst with
    | none => simp [hdst] at hs
    | some r =>
      have hld : dst = leader := by
        by_contra hne
        have hnode := (up_eq_some.mp hdst).1
        rw [h.nobody dst hne] at hnode
        cases hnode
      simp [hld, h.quiet src] at hs
  | result dst k res =>
    unfold State.step at hs
    cases hdst : s.up dst with
    | none => simp [hdst] at hs
    | some r =>
      cases hk : r.outstanding[k]? with
      | none => simp [hdst, hk] at hs
      | some e =>
        simp only [hdst, hk, Option.some.injEq] at hs
        subst hs
        obtain ⟨hnode, hdown⟩ := up_eq_some.mp hdst
        have hld : dst = leader := by
          by_contra hne
          rw [h.nobody dst hne] at hnode
          cases hnode
        subst hld
        obtain rfl : n = r := Option.some.inj (h.node.symm.trans hnode)
        obtain ⟨lead, hlone⟩ := h.runs hdown
        obtain ⟨fault, t, hturn, hsent, hfault, hnext⟩ := hlone.result hk res
        have hassigned : ((n.answer k).after (resultOf e res) fault t).assigned = n.assigned := by
          rw [after_assigned, show (n.answer k).runtime = _ from hlone.runtime]
          exact List.append_nil _
        show ∃ n', AloneInv dst asked (s.act dst (n.answer k) (resultOf e res) 0) n'
        refine ⟨_, h.turn hturn hsent ?_ ?_ ?_ ?_⟩
        · rw [hassigned]
          exact h.ids
        · rw [hassigned]
          exact h.asked
        · rw [hassigned]
          exact hfault
        · rintro rfl
          exact hnext rfl
  | lost => exact hl.elim
  | check => exact hl.elim
  | crash => exact hl.elim
  | promote => exact hl.elim

theorem Fresh.alone {replicas : Keys SocketAddr} (h : Fresh s leader replicas)
    (hnone : replicas.toList = []) : ∃ n, AloneInv leader 0 s n := by
  obtain ⟨lead, hnode, hid, haddr, hcur, hops, hon, hview⟩ := h.leaderNode
  have hlen : lead.cluster.len = 1 := by
    rw [hview.len h.apart, hnone]
    rfl
  refine ⟨_, hnode, ?_, fun a => h.links a leader, nofun, rfl, fun _ => ⟨lead, ?_⟩, nofun⟩
  · intro a ha
    refine h.nobody a ha ?_
    rw [Keys.mem_def, hnone]
    exact List.not_mem_nil
  · exact ⟨rfl, haddr, hon, rfl, hlen, hcur, rfl, nofun, fun _ => .idle rfl rfl rfl rfl⟩

/-- The lone leader's record counts the requests of the run. -/
theorem alone_run {asked : Nat} {ls : List (Label α)} (hls : ∀ l ∈ ls, l.Steady)
    (h : AloneInv leader asked s n) (hr : run s ls = some s') :
    ∃ n', AloneInv leader (asked + ls.countP Label.asks) s' n' := by
  induction ls generalizing s n asked with
  | nil =>
    obtain rfl : s = s' := by simpa [run, Lib.run] using hr
    exact ⟨n, h⟩
  | cons l ls ih =>
    obtain ⟨t, ht, hr⟩ := run_cons.mp hr
    obtain ⟨n', hn'⟩ := h.step (hls l List.mem_cons_self) ht
    obtain ⟨n'', hn''⟩ := ih (fun m hm => hls m (List.mem_cons_of_mem _ hm)) hn' hr
    refine ⟨n'', ?_⟩
    rw [List.countP_cons, Nat.add_comm (ls.countP _), ← Nat.add_assoc]
    exact hn''

end Alone

/-! ## Request/result correlation -/

section Correlation

variable [AddrHash] {leader : SocketAddr} {replicas : Keys SocketAddr} {s : State α}
  {n : NodeState α} {lead : Leader α}

/-- A leader that replicates keeps its requests and answers apart. -/
theorem LeaderInv.correlated (h : LeaderInv leader replicas n lead) : Correlated leader n where
  distinct := by
    refine List.Nodup.map_on ?_ h.numbered.nodup
    intro q hq q' hq' hids
    exact h.numbered.unique hq hq' (opNum_inj.mpr hids)
  commands e he := mem_log.mp (h.commands e he)
  answers := h.replies
  once := h.repliedOnce
  expected := by
    obtain hf | hf := h.fault <;> rw [hf]
    · exact nofun
    · decide

/-- **Request/result correlation.** A steady run keeps it exactly when the leader has
    a replica, or when at most one request is made. -/
theorem requests_correlated {s₀ : State α} (h₀ : Fresh s₀ leader replicas)
    {ls : List (Label α)} (hls : ∀ l ∈ ls, l.Steady) (hr : run s₀ ls = some s) :
    (∃ n, s.node leader = some n ∧ Correlated leader n) ↔
      1 ≤ replicas.toList.length ∨ ls.countP Label.asks ≤ 1 := by
  by_cases hpos : 1 ≤ replicas.toList.length
  · obtain ⟨n, lead, h⟩ := steady_inv h₀ hpos hls hr
    exact iff_of_true ⟨n, h.node, h.lead.correlated⟩ (Or.inl hpos)
  · have hnone : replicas.toList = [] := List.length_eq_zero_iff.mp (by omega)
    obtain ⟨n₀, hn₀⟩ := h₀.alone hnone
    obtain ⟨n, hn⟩ := alone_run hls hn₀ hr
    rw [Nat.zero_add] at hn
    constructor
    · rintro ⟨n', hnode, hcor⟩
      obtain rfl : n = n' := Option.some.inj (hn.node.symm.trans hnode)
      -- all ids are 1, so distinct ids leave room for one request
      refine Or.inr ?_
      have hids : n.assigned.map (fun q => q.1) = List.replicate n.assigned.length 1 := by
        refine List.eq_replicate_iff.mpr ⟨List.length_map _, fun m hm => ?_⟩
        obtain ⟨q, hq, rfl⟩ := List.mem_map.mp hm
        exact hn.ids q hq
      have hnodup := hcor.distinct
      rw [hids] at hnodup
      rw [← hn.asked]
      exact List.nodup_replicate.mp hnodup
    · intro hfew
      have hone : n.assigned.length ≤ 1 := by
        rw [hn.asked]
        exact hfew.resolve_left hpos
      have hdown : n.down = false := by
        by_contra hd
        have := hn.faults (by simpa using hd)
        omega
      obtain ⟨lead, hlone⟩ := hn.runs hdown
      exact ⟨n, hn.node, (hlone.stage hone).correlated hlone.fault⟩

end Correlation

/-! ## Runs of two nodes and of one -/

section Example

local instance correlationHash : AddrHash := localHash

theorem requests_correlated_example :
    ∃ s n, run (launch (localAddr 5000) [localAddr 5001, localAddr 5002]) replicationRun = some s ∧
      s.node (localAddr 5000) = some n ∧ n.assigned.length = 2 ∧
      Correlated (localAddr 5000) n := by
  have hrun : (run (launch (localAddr 5000) [localAddr 5001, localAddr 5002])
      replicationRun).any (fun s => decide ((s.node (localAddr 5000)).any (fun n =>
        decide (n.assigned.length = 2)) = true)) = true := by decide +kernel
  obtain ⟨s, hs, hlen⟩ := (Option.any_eq_true _ _).mp hrun
  obtain ⟨n, hn, hlen⟩ := (Option.any_eq_true _ _).mp (of_decide_eq_true hlen)
  have hfresh : Fresh (launch (α := Nat) (localAddr 5000) [localAddr 5001, localAddr 5002])
      (localAddr 5000) ⟨[localAddr 5001, localAddr 5002], by decide +kernel⟩ :=
    launch_fresh (by decide +kernel) _
  obtain ⟨n', hn', hcor⟩ := (requests_correlated hfresh (by decide) hs).mpr (Or.inl (by decide))
  obtain rfl : n = n' := Option.some.inj (hn.symm.trans hn')
  exact ⟨s, n, hs, hn, of_decide_eq_true hlen, hcor⟩

/-- Two requests of a lone leader that overlap share the id 1: the first result is
    answered to the second client, and the second result panics. -/
theorem requests_not_correlated :
    ¬ ∀ (leader : SocketAddr) (replicas : Keys SocketAddr) (s₀ s : State Nat) (n : NodeState Nat)
      (ls : List (Label Nat)), Fresh s₀ leader replicas → (∀ l ∈ ls, l.Steady) →
      run s₀ ls = some s → s.node leader = some n → Correlated leader n := by
  intro hall
  have hrun : (run (launch (α := Nat) (localAddr 5000) [])
      [.request (localAddr 5000) 1 (.charge 7 8 60 false) (localAddr 9000),
        .request (localAddr 5000) 2 (.charge 7 9 30 false) (localAddr 9001),
        .result (localAddr 5000) 0 (.charge .ok),
        .result (localAddr 5000) 0 (.charge .ok)]).any (fun s => decide
          ((s.node (localAddr 5000)).any (fun n => decide (n.fault =
            some (.panic "leader received the result of an unexisting operation") ∧
            n.answers.map (fun a => a.sent) =
              [[(localAddr 9001, .response 2 (.charge .ok))], []])) = true)) = true := by
    decide +kernel
  obtain ⟨s, hs, hn⟩ := (Option.any_eq_true _ _).mp hrun
  obtain ⟨n, hn, hfault⟩ := (Option.any_eq_true _ _).mp (of_decide_eq_true hn)
  have hfresh : Fresh (launch (α := Nat) (localAddr 5000) []) (localAddr 5000) ⟨[], by decide⟩ :=
    launch_fresh (by decide +kernel) _
  exact (hall _ _ _ s n _ hfresh (by decide) hs hn).expected (of_decide_eq_true hfault).1

end Example

end YpfRuta.Cluster
