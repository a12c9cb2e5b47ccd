/-
  Steady-state replication safety: the joint invariant of the leader, the replicas
  and the links between them, and what it says about executions.
-/
import YpfRuta.Cluster.Launch
import YpfRuta.Cluster.LeaderStep

namespace YpfRuta.Cluster

open Server Lib

variable {α : Type}

/-! ## The joint invariant -/

/-- Every replica's record matches the leader's, and nothing else is under way. -/
structure Inv [AddrHash] (leader : SocketAddr) (replicas : Keys SocketAddr) (s : State α)
    (n : NodeState α) (lead : Leader α) : Prop where
  apart : ¬ leader ∈ replicas
  node : s.node leader = some n
  lead : LeaderInv leader replicas n lead
  replica : ∀ i ∈ replicas, ∃ r rep, s.node i = some r ∧
    ReplicaInv leader n.log (n.acksFrom i) r rep (s.link leader i) (s.link i leader)
  nobody : ∀ a, a ≠ leader → ¬ a ∈ replicas → s.node a = none
  quiet : ∀ a b, b = leader ∨ b ∈ replicas → ¬ (a = leader ∧ b ∈ replicas) →
    ¬ (a ∈ replicas ∧ b = leader) → s.link a b = []

section Inv

variable [AddrHash] {leader : SocketAddr} {replicas : Keys SocketAddr} {s s' : State α}
  {n : NodeState α} {lead : Leader α}

theorem Fresh.inv (h : Fresh s leader replicas) : ∃ n lead, Inv leader replicas s n lead := by
  obtain ⟨lead, hnode, hid, haddr, hcur, hops, hon, hview⟩ := h.leaderNode
  have hlookup : ∀ m, lead.operations.lookup m = none := fun m => by
    rw [hops]
    exact AList.lookup_empty m
  have hacks : ∀ m, (NodeState.start (.leader lead)).acks replicas m = 0 := fun m =>
    Keys.sum_eq_zero fun _ _ => rfl
  refine ⟨_, lead, h.apart, hnode, ?_, ?_, h.nobody, fun a b _ _ _ => h.links a b⟩
  · exact
      { runtime := rfl, id := hid, address := haddr, online := hon, connected := rfl
        view := hview, stopped := fun _ => rfl, fault := Or.inl rfl, full := absurd rfl
        numbered := Numbered.nil
        next := fun _ => by rw [hcur]; rfl
        requests := fun q hq => by cases hq
        pending := fun m p hp => by rw [hlookup m] at hp; cases hp
        settled := fun q hq => by cases hq
        executed := fun q hq => by cases hq
        commands := fun e he => by cases he
        once := List.nodup_nil
        outstanding := fun e he => by cases he
        outstandingOnce := List.nodup_nil
        replies := fun a ha => by cases ha
        replied := fun a ha => by cases ha
        repliedOnce := List.nodup_nil }
  · intro i hi
    obtain ⟨rep, hrep, -, hleader, hstored, honr, hqueue⟩ := h.replicaNode i hi
    refine ⟨_, rep, hrep, ?_⟩
    rw [h.links, h.links]
    exact
      { runtime := rfl, leaderAddr := hleader, online := honr, queue := hqueue, connected := rfl
        fault := rfl, flow := rfl
        stored := fun m op => by
          rw [hstored, AList.lookup_empty]
          exact iff_of_false (fun hc => by cases hc) (fun hc => by cases hc)
        executed := rfl
        outstanding := fun e he => by cases he
        downOk := fun m hm => by cases hm
        upOk := fun m hm => by cases hm
        acks := fun m => Nat.zero_le _ }

/-- A turn of replica `i` that keeps its record. -/
theorem Inv.replica_turn (h : Inv leader replicas s n lead) {i : SocketAddr} (hi : i ∈ replicas)
    {r : NodeState α} {event : Event α} {down : List (Message α)}
    (hkeeps : Keeps leader n.log (n.acksFrom i) r event down (s.link i leader)) :
    Inv leader replicas ((s.setLink leader i down).act i r event 0) n lead := by
  obtain ⟨t, rep', hturn, hsent, hrep⟩ := hkeeps
  have hne : i ≠ leader := fun he => h.apart (he ▸ hi)
  have hlink : ∀ a b, ¬ (a = leader ∧ b = i) → a ≠ i →
      ((s.setLink leader i down).act i r event 0).link a b = s.link a b := by
    intro a b hab ha
    rw [act_eq (ended_ok hturn)]
    dsimp only
    rw [if_neg ha]
    exact if_neg hab
  have hown : ∀ b, ((s.setLink leader i down).act i r event 0).link i b =
      s.link i b ++ sentTo b t.sent := by
    intro b
    rw [act_eq (ended_ok hturn)]
    dsimp only
    rw [if_pos rfl]
    exact congrArg (· ++ _) (if_neg fun hc => hne hc.1)
  have hdown : ((s.setLink leader i down).act i r event 0).link leader i = down := by
    rw [act_eq (ended_ok hturn)]
    dsimp only
    rw [if_neg (Ne.symm hne)]
    exact if_pos ⟨rfl, rfl⟩
  have hnode : ((s.setLink leader i down).act i r event 0).node =
      Function.update s.node i (some (r.after event none t)) := by
    rw [act_eq (ended_ok hturn)]
    rfl
  refine { h with node := ?_, replica := ?_, nobody := ?_, quiet := ?_ }
  · rw [hnode, Function.update_of_ne (Ne.symm hne)]
    exact h.node
  · intro j hj
    by_cases hji : j = i
    · subst hji
      rw [hnode, hdown, hown]
      exact ⟨_, rep', Function.update_self .., hrep⟩
    · have hjl : j ≠ leader := fun he => h.apart (he ▸ hj)
      rw [hnode, Function.update_of_ne hji, hlink leader j (fun hc => hji hc.2) (Ne.symm hne),
        hlink j leader (fun hc => hjl hc.1) hji]
      exact h.replica j hj
  · intro a ha har
    have hai : a ≠ i := fun he => har (he ▸ hi)
    rw [hnode, Function.update_of_ne hai]
    exact h.nobody a ha har
  · intro a b hb hab hba
    by_cases hai : a = i
    · subst hai
      rw [hown, hsent b fun he => hba ⟨hi, he⟩, List.append_nil]
      exact h.quiet a b hb hab hba
    · rw [hlink a b (fun hc => hab ⟨hc.1, hc.2 ▸ hi⟩) hai]
      exact h.quiet a b hb hab hba

/-- A turn of the leader, after `up` has been left of what replica `i` sent it. -/
theorem Inv.leader_turn (h : Inv leader replicas s n lead) {i : SocketAddr} (hi : i ∈ replicas)
    {up : List (Message α)} {n₀ : NodeState α} {event : Event α} {fault : Option Fault}
    {t : Task α (NodeRuntime α)} {lead' : Leader α}
    (hturn : ended (NodeRuntime.turn event (n₀.task 0)) = (fault, t))
    (hlead : LeaderInv leader replicas (n₀.after event fault t) lead')
    (hself : sentTo leader t.sent = [])
    (hrep : ∀ j ∈ replicas, ∀ r rep,
      ReplicaInv leader n.log (n.acksFrom j) r rep (s.link leader j) (s.link j leader) →
      ReplicaInv leader (n₀.after event fault t).log ((n₀.after event fault t).acksFrom j) r rep
        (s.link leader j ++ sentTo j t.sent) (if j = i then up else s.link j leader)) :
    Inv leader replicas ((s.setLink i leader up).act leader n₀ event 0)
      (n₀.after event fault t) lead' := by
  have hil : i ≠ leader := fun he => h.apart (he ▸ hi)
  have hlink : ∀ a b, ¬ (a = i ∧ b = leader) → a ≠ leader →
      ((s.setLink i leader up).act leader n₀ event 0).link a b = s.link a b := by
    intro a b hab ha
    rw [act_eq hturn]
    dsimp only
    rw [if_neg ha]
    exact if_neg hab
  have hown : ∀ b, ((s.setLink i leader up).act leader n₀ event 0).link leader b =
      s.link leader b ++ sentTo b t.sent := by
    intro b
    rw [act_eq hturn]
    dsimp only
    rw [if_pos rfl]
    exact congrArg (· ++ _) (if_neg fun hc => hil hc.1.symm)
  have hup : ((s.setLink i leader up).act leader n₀ event 0).link i leader = up := by
    rw [act_eq hturn]
    dsimp only
    rw [if_neg hil]
    exact if_pos ⟨rfl, rfl⟩
  have hnode : ((s.setLink i leader up).act leader n₀ event 0).node =
      Function.update s.node leader (some (n₀.after event fault t)) := by
    rw [act_eq hturn]
    rfl
  refine ⟨h.apart, ?_, hlead, ?_, ?_, ?_⟩
  · rw [hnode, Function.update_self]
  · intro j hj
    have hjl : j ≠ leader := fun he => h.apart (he ▸ hj)
    obtain ⟨r, rep, hr, hrj⟩ := h.replica j hj
    have hupj : ((s.setLink i leader up).act leader n₀ event 0).link j leader =
        if j = i then up else s.link j leader := by
      by_cases hji : j = i
      · subst hji
        rw [if_pos rfl, hup]
      · rw [if_neg hji, hlink j leader (fun hc => hji hc.1) hjl]
    rw [hnode, Function.update_of_ne hjl, hown, hupj]
    exact ⟨r, rep, hr, hrep j hj r rep hrj⟩
  · intro a ha har
    rw [hnode, Function.update_of_ne ha]
    exact h.nobody a ha har
  · intro a b hb hab hba
    by_cases hal : a = leader
    · subst hal
      have hba' : b = a := hb.resolve_right fun hbr => hab ⟨rfl, hbr⟩
      rw [hown, hba', hself, List.append_nil]
      exact h.quiet a a (Or.inl rfl) (fun hc => h.apart hc.2) (fun hc => h.apart hc.1)
    · rw [hlink a b (fun hc => hba ⟨hc.1 ▸ hi, hc.2⟩) hal]
      exact h.quiet a b hb hab hba

/-! ## Bounds the record gives -/

omit [AddrHash] in
theorem setLink_self (a b : SocketAddr) : s.setLink a b (s.link a b) = s := by
  unfold State.setLink
  congr
  funext a' b'
  by_cases hab : a' = a ∧ b' = b
  · rw [if_pos hab, hab.1, hab.2]
  · rw [if_neg hab]

/-- The leader has counted no ack for an id it has not assigned. -/
theorem Inv.acks_unassigned (h : Inv leader replicas s n lead) {m : OpId}
    (hm : n.assigned.length < m.toNat) : n.acks replicas m = 0 := by
  refine Keys.sum_eq_zero fun i hi => ?_
  obtain ⟨r, rep, -, hr⟩ := h.replica i hi
  have hlen : r.logged.length ≤ n.assigned.length := by
    have := congrArg List.length hr.flow
    rw [List.length_append, NodeState.log, List.length_map] at this
    omega
  have hacks := hr.acks m
  have hlogs : r.logs m = 0 := if_neg (by omega)
  omega

/-- An ack under way is not counted yet, and each replica is counted once. -/
theorem Inv.acks_bound (h : Inv leader replicas s n lead) {i : SocketAddr} (hi : i ∈ replicas)
    {m : OpId} {up : List (Message α)} (hup : s.link i leader = .ack m :: up) :
    n.acks replicas m + 1 ≤ replicas.toList.length := by
  have hle : ∀ j ∈ replicas, n.acksFrom j m + acksIn (s.link j leader) m ≤ 1 := by
    intro j hj
    obtain ⟨r, rep, -, hr⟩ := h.replica j hj
    have hacks := hr.acks m
    have hlogs : r.logs m ≤ 1 := by
      unfold NodeState.logs
      by_cases hc : 1 ≤ m.toNat ∧ m.toNat ≤ r.logged.length <;> simp [hc]
    omega
  have hone : 1 ≤ acksIn (s.link i leader) m := by
    rw [hup]
    simp [acksIn, isAck]
  have hsum : replicas.sum (fun j => n.acksFrom j m + if j = i then 1 else 0) ≤
      replicas.sum fun _ => 1 := by
    refine Keys.sum_le fun j hj => ?_
    have := hle j hj
    by_cases hji : j = i
    · subst hji
      rw [if_pos rfl]
      omega
    · rw [if_neg hji]
      omega
  have hchange := Keys.sum_change hi (f := fun j => n.acksFrom j m)
    (g := fun j => n.acksFrom j m + if j = i then 1 else 0) fun j hj => by simp [hj]
  have hcount : (replicas.sum fun _ => 1) = replicas.toList.length := by simp [Keys.sum]
  simp only [if_true] at hchange
  unfold NodeState.acks
  omega

omit [AddrHash] in
theorem sentTo_broadcast (dst : SocketAddr) (l : List SocketAddr) (msg : Message α) :
    sentTo dst (l.map fun a => (a, msg)) = List.replicate (l.count dst) msg := by
  induction l with
  | nil => rfl
  | cons a l ih =>
    rw [List.map_cons, ← List.singleton_append, sentTo_append, ih, sentTo_singleton]
    by_cases ha : a = dst
    · rw [if_pos ha, ha, List.count_cons_self, List.replicate_succ]
      rfl
    · rw [if_neg ha, List.count_cons_of_ne ha]
      rfl

theorem LeaderInv.broadcast (h : LeaderInv leader replicas n lead) (hap : ¬ leader ∈ replicas)
    (msg : Message α) (dst : SocketAddr) :
    sentTo dst (lead.peers.map fun a => (a, msg)) = if dst ∈ replicas then [msg] else [] := by
  rw [sentTo_broadcast, (h.view.peers h.id hap).count_eq]
  by_cases hd : dst ∈ replicas
  · rw [if_pos hd, List.count_eq_one_of_mem replicas.nodup hd]
    rfl
  · rw [if_neg hd, List.count_eq_zero_of_not_mem hd]
    rfl

/-! ## The steps of the leader -/

/-- A request reaches the leader, from outside or from replica `i`. -/
theorem Inv.request (h : Inv leader replicas s n lead) {i : SocketAddr} (hi : i ∈ replicas)
    {up : List (Message α)} {n₀ : NodeState α} (hlead : LeaderInv leader replicas n₀ lead)
    (hup : n₀.fault = none) (hassigned : n₀.assigned = n.assigned)
    (hacks : ∀ j m, n₀.acksFrom j m = n.acksFrom j m)
    (hpop : ∀ acked r rep,
      ReplicaInv leader n.log acked r rep (s.link leader i) (s.link i leader) →
      ReplicaInv leader n.log acked r rep (s.link leader i) up)
    {event : Event α} {reqId : ReqId} {op : Operation α} {addr : SocketAddr}
    (hev : Asks lead.address event reqId op addr) (hop : IsRequest op) :
    ∃ n' lead', Inv leader replicas ((s.setLink i leader up).act leader n₀ event 0) n' lead' ∧
      n'.executed = n₀.executed ∧
      n'.assigned = n.assigned ++ [(lead.currentOpId, .new op addr reqId)] := by
  have hpos : 1 ≤ replicas.toList.length := List.length_pos_of_mem hi
  have hfresh : n₀.acks replicas lead.currentOpId = 0 := by
    rw [show n₀.acks replicas lead.currentOpId = n.acks replicas lead.currentOpId from
      Keys.sum_congr fun j _ => hacks j _]
    refine h.acks_unassigned ?_
    rw [hlead.next hup, hassigned]
    omega
  obtain ⟨fault, t, lead', hturn, hlead', hassigned', hcmds, hsent⟩ :=
    hlead.request h.apart hpos hup hfresh hev hop
  rw [hassigned] at hassigned'
  have hlog : (n₀.after event fault t).log = n.log ++ [(lead.currentOpId, op)] := by
    unfold NodeState.log
    rw [hassigned', List.map_append]
    rfl
  refine ⟨_, lead', h.leader_turn hi hturn hlead' ?_ ?_, ?_, hassigned'⟩
  · rw [hsent, hlead.broadcast h.apart, if_neg h.apart]
  · intro j hj r rep hr
    have hacksj : (n₀.after event fault t).acksFrom j = n.acksFrom j := funext fun m => hacks j m
    rw [hlog, hacksj, hsent, hlead.broadcast h.apart, if_pos hj]
    by_cases hji : j = i
    · subst hji
      rw [if_pos rfl]
      exact (hpop _ r rep hr).extend (lead.currentOpId, op)
    · rw [if_neg hji]
      exact hr.extend (lead.currentOpId, op)
  · rw [after_executed, hcmds, List.append_nil]

/-- An ack from replica `i` reaches the leader. -/
theorem Inv.ack (h : Inv leader replicas s n lead) {i : SocketAddr} (hi : i ∈ replicas)
    (hup : n.fault = none) {m : OpId} {up : List (Message α)}
    (hlink : s.link i leader = .ack m :: up) :
    ∃ n' lead', Inv leader replicas
        ((s.setLink i leader up).act leader (n.receive i (.ack m)) (.nodeMsg (.ok (.ack m))) 0)
        n' lead' ∧ n'.assigned = n.assigned ∧ n'.executed = n.executed ++ completes lead m := by
  obtain ⟨t, lead', hturn, hlead', hsent, hcmds⟩ :=
    h.lead.ack h.apart hup hi (h.acks_bound hi hlink)
  have hassigned : ((n.receive i (.ack m)).after (.nodeMsg (.ok (.ack m))) none t).assigned =
      n.assigned := by
    rw [after_assigned, show (n.receive i (.ack m)).runtime = n.runtime from rfl, h.lead.runtime]
    exact List.append_nil _
  refine ⟨_, lead', h.leader_turn hi hturn hlead' ?_ ?_, hassigned, ?_⟩
  · rw [hsent, sentTo_nil]
  · intro j hj r rep hr
    have hlog : ((n.receive i (.ack m)).after (.nodeMsg (.ok (.ack m))) none t).log = n.log :=
      congrArg (List.map _) hassigned
    rw [hlog, hsent, sentTo_nil, List.append_nil]
    by_cases hji : j = i
    · subst hji
      rw [if_pos rfl]
      rw [hlink] at hr
      refine hr.popAck fun k => ?_
      rw [after_acksFrom, acksFrom_receive]
      by_cases hk : k = m
      · simp [hk, isAck]
      · simp [hk, isAck, Ne.symm hk]
    · rw [if_neg hji]
      have hacksj : ((n.receive i (.ack m)).after (.nodeMsg (.ok (.ack m))) none t).acksFrom j =
          n.acksFrom j := by
        funext k
        rw [after_acksFrom, acksFrom_receive, if_neg fun hc => hji hc.1.symm, Nat.add_zero]
      rw [hacksj]
      exact hr
  · rw [after_executed, receive_executed, hcmds]

/-- The leader's database answers. -/
theorem Inv.result (h : Inv leader replicas s n lead) {i : SocketAddr} (hi : i ∈ replicas)
    (hup : n.fault = none) {k : Nat} {e : OpId × Operation α} (hk : n.outstanding[k]? = some e)
    (r : OperationResult α) :
    ∃ n' lead', Inv leader replicas (s.act leader (n.answer k) (resultOf e r) 0) n' lead' ∧
      n'.assigned = n.assigned ∧ n'.executed = n.executed := by
  obtain ⟨t, lead', hturn, hlead', hcmds, hsent⟩ := h.lead.result hup hk r
  have hassigned : ((n.answer k).after (resultOf e r) none t).assigned = n.assigned := by
    rw [after_assigned, show (n.answer k).runtime = n.runtime from rfl, h.lead.runtime]
    exact List.append_nil _
  have hlog : ((n.answer k).after (resultOf e r) none t).log = n.log :=
    congrArg (List.map _) hassigned
  have hexec : ((n.answer k).after (resultOf e r) none t).executed = n.executed := by
    rw [after_executed, hcmds, List.append_nil]
    rfl
  refine ⟨_, lead', ?_, hassigned, hexec⟩
  rw [← setLink_self (s := s) i leader]
  refine h.leader_turn hi hturn hlead' ?_ ?_
  · refine List.map_eq_nil_iff.mpr (List.filter_eq_nil_iff.mpr fun p hp => ?_)
    simpa using (hsent p hp).1
  · intro j hj r' rep hr
    have hresp : ∀ m ∈ sentTo j t.sent, ∃ reqId r'', m = .response reqId r'' := by
      intro m hm
      obtain ⟨p, hp, rfl⟩ := List.mem_map.mp hm
      exact (hsent p (List.mem_filter.mp hp).1).2
    have hsame : (if j = i then s.link i leader else s.link j leader) = s.link j leader := by
      by_cases hji : j = i
      · rw [if_pos hji, hji]
      · rw [if_neg hji]
    rw [hlog, hsame]
    exact hr.answered hresp

/-! ## Every step -/

/-- What a step adds to the leader's executions: the operation whose quorum a
    delivered ack completes. -/
def letGo (leader : SocketAddr) (s : State α) (lead : Leader α) :
    Label α → List (OpId × Operation α)
  | .deliver src dst =>
    if dst = leader then
      match s.link src dst with
      | .ack m :: _ => completes lead m
      | _ => []
    else []
  | _ => []

/-- A request that reaches a node directly. -/
theorem Inv.asked (h : Inv leader replicas s n lead) {i : SocketAddr} (hi : i ∈ replicas)
    {dst : SocketAddr} {r : NodeState α} (hdst : s.up dst = some r) (event : Event α)
    {reqId : ReqId} {op : Operation α}
    (hev : ∀ own, (∃ lead, r.runtime = .leader lead ∧ own = lead.address) ∨
      (∃ rep, r.runtime = .replica rep ∧ own = rep.address) →
      ∃ addr, Asks own event reqId op addr)
    (hop : IsRequest op) :
    ∃ n' lead', Inv leader replicas (s.act dst r event 0) n' lead' ∧
      n.assigned <+: n'.assigned ∧ n'.executed = n.executed := by
  obtain ⟨hnode, hdown⟩ := up_eq_some.mp hdst
  by_cases hl : dst = leader
  · subst hl
    obtain rfl : n = r := Option.some.inj (h.node.symm.trans hnode)
    obtain ⟨addr, hask⟩ := hev lead.address (Or.inl ⟨lead, h.lead.runtime, rfl⟩)
    obtain ⟨n', lead', hinv, hexec, hassigned⟩ := h.request hi h.lead
      (h.lead.stopped hdown) rfl (fun _ _ => rfl) (fun _ _ _ hr => hr) hask hop
    rw [setLink_self] at hinv
    exact ⟨n', lead', hinv, ⟨_, hassigned.symm⟩, hexec⟩
  · by_cases hr : dst ∈ replicas
    · obtain ⟨r', rep, hnode', hrep⟩ := h.replica dst hr
      obtain rfl : r' = r := Option.some.inj (hnode'.symm.trans hnode)
      obtain ⟨addr, hask⟩ := hev rep.address (Or.inr ⟨rep, hrep.runtime, rfl⟩)
      have hinv := h.replica_turn hr (hrep.forwards hask hop)
      rw [setLink_self] at hinv
      exact ⟨n, lead, hinv, List.prefix_rfl, rfl⟩
    · rw [h.nobody dst hl hr] at hnode
      cases hnode

/-- A message arrives at a node. -/
theorem Inv.deliver (h : Inv leader replicas s n lead) {src dst : SocketAddr} {r : NodeState α}
    (hdst : s.up dst = some r) {msg : Message α} {rest : List (Message α)}
    (hlink : s.link src dst = msg :: rest) :
    ∃ n' lead', Inv leader replicas
        ((s.setLink src dst rest).act dst (r.receive src msg) (.nodeMsg (.ok msg)) 0) n' lead' ∧
      n.assigned <+: n'.assigned ∧
      n'.executed = n.executed ++ letGo leader s lead (.deliver src dst) := by
  obtain ⟨hnode, hdown⟩ := up_eq_some.mp hdst
  by_cases hl : dst = leader
  · subst hl
    obtain rfl : n = r := Option.some.inj (h.node.symm.trans hnode)
    have hfault := h.lead.stopped hdown
    have hsrc : src ∈ replicas := by
      by_contra hs
      have hq := h.quiet src dst (Or.inl rfl) (fun hc => h.apart hc.2) (fun hc => hs hc.1)
      rw [hq] at hlink
      cases hlink
    obtain ⟨r, rep, -, hrep⟩ := h.replica src hsrc
    rcases hrep.upOk msg (by rw [hlink]; exact List.mem_cons_self) with
      ⟨m, rfl⟩ | ⟨reqId, op, addr, rfl, hop⟩
    · obtain ⟨n', lead', hinv, hassigned, hexec⟩ := h.ack hsrc hfault hlink
      refine ⟨n', lead', hinv, hassigned ▸ List.prefix_rfl, ?_⟩
      rw [hexec, letGo, if_pos rfl, hlink]
    · have hlead : LeaderInv dst replicas (n.receive src (.request reqId op addr)) lead :=
        h.lead.receive (fun _ => rfl) src
      have hsame : ∀ j m, (n.receive src (.request reqId op addr)).acksFrom j m =
          n.acksFrom j m := fun j m => by
        rw [acksFrom_receive]
        simp [isAck]
      obtain ⟨n', lead', hinv, hexec, hassigned⟩ := h.request hsrc hlead hfault rfl
        hsame (fun acked r rep hr => by rw [hlink] at hr; exact hr.popRequest)
        (.client reqId op addr) hop
      refine ⟨n', lead', hinv, ⟨_, hassigned.symm⟩, ?_⟩
      rw [hexec, letGo, if_pos rfl, hlink]
      exact (List.append_nil _).symm
  · by_cases hr : dst ∈ replicas
    · obtain ⟨r', rep, hnode', hrep⟩ := h.replica dst hr
      obtain rfl : r' = r := Option.some.inj (hnode'.symm.trans hnode)
      have hsrc : src = leader := by
        by_contra hs
        have hq := h.quiet src dst (Or.inr hr) (fun hc => hs hc.1) (fun hc => hl hc.2)
        rw [hq] at hlink
        cases hlink
      subst hsrc
      rw [hlink] at hrep
      have hkeeps : Keeps src n.log (n.acksFrom dst) (r'.receive src msg) (.nodeMsg (.ok msg))
          rest (s.link dst src) := by
        rcases hrep.downOk msg List.mem_cons_self with ⟨opId, op, rfl⟩ | ⟨reqId, res, rfl⟩
        · exact hrep.logs h.lead.log_numbered src
        · exact hrep.responds src
      refine ⟨n, lead, h.replica_turn hr hkeeps, List.prefix_rfl, ?_⟩
      rw [letGo, if_neg hl, List.append_nil]
    · rw [h.nobody dst hl hr] at hnode
      cases hnode

/-- **Every step of a steady run keeps the invariant.** -/
theorem Inv.step (h : Inv leader replicas s n lead) (hpos : 1 ≤ replicas.toList.length)
    {l : Label α} (hl : l.Steady) (hs : s.step l = some s') :
    ∃ n' lead', Inv leader replicas s' n' lead' ∧ n.assigned <+: n'.assigned ∧
      n'.executed = n.executed ++ letGo leader s lead l := by
  obtain ⟨i, hi⟩ := List.exists_mem_of_length_pos hpos
  cases l with
  | request dst reqId op addr =>
    obtain ⟨r, hdst, rfl⟩ := Option.map_eq_some_iff.mp hs
    obtain ⟨n', lead', hinv, hpre, hexec⟩ := h.asked hi hdst
      (.nodeMsg (.ok (.request reqId op addr))) (fun own _ => ⟨addr, .client reqId op addr⟩) hl
    exact ⟨n', lead', hinv, hpre, hexec.trans (List.append_nil _).symm⟩
  | station dst msg =>
    obtain ⟨r, hdst, rfl⟩ := Option.map_eq_some_iff.mp hs
    cases msg with
    | chargeRequest accountId cardId amount requestId =>
      obtain ⟨n', lead', hinv, hpre, hexec⟩ := h.asked hi hdst
        (.stationMsg (.chargeRequest accountId cardId amount requestId)) (fun own _ => ⟨own, .station accountId cardId amount requestId⟩)
        (fun _ hc => by cases hc)
      exact ⟨n', lead', hinv, hpre, hexec.trans (List.append_nil _).symm⟩
    | disconnectNode => exact hl.elim
    | connectNode => exact hl.elim
  | deliver src dst =>
    unfold State.step at hs
    cases hdst : s.up dst with
    | none => simp [hdst] at hs
    | some r =>
      cases hlink : s.link src dst with
      | nil => simp [hdst, hlink] at hs
      | cons msg rest =>
        simp only [hdst, hlink, Option.some.injEq] at hs
        subst hs
        exact h.deliver hdst hlink
  | result dst k res =>
    unfold State.step at hs
    cases hdst : s.up dst with
    | none => simp [hdst] at hs
    | some r =>
      cases hk : r.outstanding[k]? with
      | none => simp [hdst, hk] at hs
      | some e =>
        simp only [hdst, hk, Option.some.injEq] at hs
        subst hs
        obtain ⟨hnode, hdown⟩ := up_eq_some.mp hdst
        by_cases hld : dst = leader
        · subst hld
          obtain rfl : n = r := Option.some.inj (h.node.symm.trans hnode)
          obtain ⟨n', lead', hinv, hassigned, hexec⟩ :=
            h.result hi (h.lead.stopped hdown) hk res
          exact ⟨n', lead', hinv, hassigned ▸ List.prefix_rfl,
            hexec.trans (List.append_nil _).symm⟩
        · by_cases hr : dst ∈ replicas
          · obtain ⟨r', rep, hnode', hrep⟩ := h.replica dst hr
            obtain rfl : r' = r := Option.some.inj (hnode'.symm.trans hnode)
            have hinv := h.replica_turn hr (hrep.result h.lead.log_numbered hk res)
            rw [setLink_self] at hinv
            exact ⟨n, lead, hinv, List.prefix_rfl, (List.append_nil _).symm⟩
          · rw [h.nobody dst hld hr] at hnode
            cases hnode
  | lost => exact hl.elim
  | check => exact hl.elim
  | crash => exact hl.elim
  | promote => exact hl.elim

/-- **Every state a steady run reaches keeps the invariant.** -/
theorem steady_inv {s₀ : State α} (h₀ : Fresh s₀ leader replicas)
    (hpos : 1 ≤ replicas.toList.length) {ls : List (Label α)} (hls : ∀ l ∈ ls, l.Steady)
    (hr : run s₀ ls = some s) : ∃ n lead, Inv leader replicas s n lead := by
  refine run_induct_meets (C := fun _ l => l.Steady)
    (P := fun s => ∃ n lead, Inv leader replicas s n lead) ?_ hr (meets_of_forall hls s₀) h₀.inv
  rintro s l s' ⟨n, lead, h⟩ hl hs
  obtain ⟨n', lead', h', -⟩ := h.step hpos hl hs
  exact ⟨n', lead', h'⟩

end Inv

/-! ## Steady-state replication safety -/

/-- A node holds an operation in its map, or has handed it to its database. -/
def NodeState.Has (n : NodeState α) (e : OpId × Operation α) : Prop :=
  e ∈ n.executed ∨
    match n.runtime with
    | .leader self => ∃ p, self.operations.lookup e.1 = some p ∧ p.op = e.2
    | .replica self => self.operations.lookup e.1 = some e.2

section Safety

variable [AddrHash] {leader : SocketAddr} {replicas : Keys SocketAddr} {s : State α}
  {n : NodeState α} {lead : Leader α}

omit [AddrHash] in
/-- A replica has every operation it has logged. -/
theorem ReplicaInv.has {log : List (OpId × Operation α)} {acked : OpId → Nat} {r : NodeState α}
    {rep : Replica α} {down up : List (Message α)}
    (h : ReplicaInv leader log acked r rep down up) {e : OpId × Operation α}
    (he : e ∈ r.logged) : r.Has e := by
  rcases List.eq_nil_or_concat r.logged with hnil | ⟨before, last, hlast⟩
  · rw [hnil] at he
    cases he
  · rw [List.concat_eq_append] at hlast
    rw [hlast] at he
    rcases List.mem_append.mp he with he | he
    · left
      rw [h.executed, hlast, List.dropLast_concat]
      exact he
    · right
      obtain rfl := List.mem_singleton.mp he
      rw [h.runtime]
      exact (h.stored e.1 e.2).mpr (by rw [hlast, List.getLast?_concat])

omit [AddrHash] in
/-- The entry of the log with a given number, on the record of a replica. -/
theorem ReplicaInv.logged_of_logs {log : List (OpId × Operation α)} {acked : OpId → Nat}
    {r : NodeState α} {rep : Replica α} {down up : List (Message α)}
    (h : ReplicaInv leader log acked r rep down up) (hnum : Numbered opNum log)
    {e : OpId × Operation α} (he : e ∈ log) (hlogs : 1 ≤ r.logs e.1) : e ∈ r.logged := by
  have hlogged : Numbered opNum r.logged := (h.flow ▸ hnum).left
  have hrange : 1 ≤ opNum e ∧ opNum e ≤ r.logged.length := by
    by_contra hc
    have hzero : r.logs e.1 = 0 := if_neg hc
    omega
  obtain ⟨f, hf, hfe⟩ := hlogged.exists_iff.mpr hrange
  have hfl : f ∈ log := h.flow ▸ List.mem_append_left _ hf
  rwa [← hnum.unique hfl he hfe]

/-- An executed operation is on more than half of the members. -/
theorem Inv.majority (h : Inv leader replicas s n lead) {e : OpId × Operation α}
    (he : e ∈ n.executed) :
    ∃ holders : List SocketAddr, holders.Nodup ∧ holders ⊆ leader :: replicas.toList ∧
      replicas.toList.length + 1 < 2 * holders.length ∧
      ∀ a ∈ holders, ∃ r, s.node a = some r ∧ r.Has e := by
  have hmem := h.lead.commands e he
  obtain ⟨q, hq, -⟩ := mem_log.mp hmem
  have hquorum : quorum lead.cluster.len ≤ n.acks replicas e.1 :=
    (h.lead.executed _ hq).mp (List.mem_map_of_mem he)
  rw [h.lead.quorum_eq h.apart] at hquorum
  let logs : SocketAddr → Nat := fun i => ((s.node i).map fun r => r.logs e.1).getD 0
  have hlogs : ∀ i ∈ replicas, n.acksFrom i e.1 ≤ if 1 ≤ logs i then 1 else 0 := by
    intro i hi
    obtain ⟨r, rep, hr, hrep⟩ := h.replica i hi
    have hacks := hrep.acks e.1
    have hval : logs i = r.logs e.1 := by
      show ((s.node i).map _).getD 0 = _
      rw [hr]
      rfl
    have hle : r.logs e.1 ≤ 1 := by
      unfold NodeState.logs
      by_cases hc : 1 ≤ e.1.toNat ∧ e.1.toNat ≤ r.logged.length <;> simp [hc]
    rw [hval]
    by_cases hone : 1 ≤ r.logs e.1
    · rw [if_pos hone]
      omega
    · rw [if_neg hone]
      omega
  have hsum := Keys.sum_le hlogs
  rw [Keys.sum_one replicas fun i => 1 ≤ logs i] at hsum
  refine ⟨leader :: replicas.toList.filter fun i => 1 ≤ logs i, ?_, ?_, ?_, ?_⟩
  · refine List.nodup_cons.mpr ⟨fun hc => h.apart (List.mem_filter.mp hc).1, ?_⟩
    exact replicas.nodup.filter _
  · exact List.cons_subset_cons _ (List.filter_subset_self _)
  · unfold NodeState.acks at hquorum
    rw [List.length_cons]
    omega
  · intro a ha
    rcases List.mem_cons.mp ha with rfl | ha
    · exact ⟨n, h.node, Or.inl he⟩
    · obtain ⟨hi, hone⟩ := List.mem_filter.mp ha
      obtain ⟨r, rep, hr, hrep⟩ := h.replica a hi
      have hval : logs a = r.logs e.1 := by
        show ((s.node a).map _).getD 0 = _
        rw [hr]
        rfl
      refine ⟨r, hr, hrep.has (hrep.logged_of_logs h.lead.log_numbered hmem ?_)⟩
      rw [← hval]
      exact of_decide_eq_true hone

/-- **Steady-state replication safety.** In every state a cluster with two or more
    members reaches without failures: each replica's database got exactly the log
    entries before the last one it handled, in order; what the leader executed is
    on a majority and was executed once; no handler panicked. -/
theorem steady_replication {s₀ : State α} (h₀ : Fresh s₀ leader replicas)
    (hN : 2 ≤ (leader :: replicas.toList).length) {ls : List (Label α)}
    (hls : ∀ l ∈ ls, l.Steady) (hr : run s₀ ls = some s) :
    ∃ n, s.node leader = some n ∧ Numbered opNum n.log ∧
      (∀ i ∈ replicas, ∃ r, s.node i = some r ∧ r.logged <+: n.log ∧
        r.executed = r.logged.dropLast ∧ r.fault = none) ∧
      (∀ e ∈ n.executed, e ∈ n.log ∧ ∃ holders : List SocketAddr, holders.Nodup ∧
        holders ⊆ leader :: replicas.toList ∧
        (leader :: replicas.toList).length < 2 * holders.length ∧
        ∀ a ∈ holders, ∃ r, s.node a = some r ∧ r.Has e) ∧
      (n.executed.map fun e => e.1).Nodup ∧
      (n.assigned.length < 2 ^ 32 - 1 → n.fault = none) := by
  have hpos : 1 ≤ replicas.toList.length := by
    rw [List.length_cons] at hN
    omega
  obtain ⟨n, lead, h⟩ := steady_inv h₀ hpos hls hr
  refine ⟨n, h.node, h.lead.log_numbered, ?_, ?_, h.lead.once, ?_⟩
  · intro i hi
    obtain ⟨r, rep, hnode, hrep⟩ := h.replica i hi
    exact ⟨r, hnode, ⟨_, hrep.flow⟩, hrep.executed, hrep.fault⟩
  · intro e he
    exact ⟨h.lead.commands e he, h.majority he⟩
  · intro hfew
    by_contra hf
    have hfull := h.lead.full hf
    have hsize : UInt32.size = 2 ^ 32 := rfl
    omega

end Safety

/-! ## A run of three nodes -/

section Example

local instance replicationHash : AddrHash := localHash

/-- Two requests; the first one's log entries arrive and one replica acks it. -/
def replicationRun : List (Label Nat) :=
  [.request (localAddr 5000) 1 (.accountQuery 7) (localAddr 9000),
    .station (localAddr 5000) (.chargeRequest 7 8 60 2),
    .deliver (localAddr 5000) (localAddr 5001), .deliver (localAddr 5000) (localAddr 5002),
    .deliver (localAddr 5001) (localAddr 5000), .deliver (localAddr 5000) (localAddr 5001)]

theorem steady_replication_example :
    ∃ s n, run (launch (localAddr 5000) [localAddr 5001, localAddr 5002]) replicationRun = some s ∧
      s.node (localAddr 5000) = some n ∧ n.executed = [(1, .accountQuery 7)] ∧
      (∃ r, s.node (localAddr 5001) = some r ∧ r.executed = [(1, .accountQuery 7)] ∧
        r.executed = r.logged.dropLast) ∧
      n.fault = none := by
  have hrun : (run (launch (localAddr 5000) [localAddr 5001, localAddr 5002])
      replicationRun).any (fun s => decide ((s.node (localAddr 5000)).any (fun n =>
        decide (n.executed = [(1, .accountQuery 7)] ∧ n.assigned.length = 2)) = true ∧
        (s.node (localAddr 5001)).any (fun r => decide (r.executed = [(1, .accountQuery 7)])) =
          true)) = true := by decide +kernel
  obtain ⟨s, hs, hvals⟩ := (Option.any_eq_true _ _).mp hrun
  obtain ⟨hlead, hrep⟩ := of_decide_eq_true hvals
  obtain ⟨n, hn, hexec⟩ := (Option.any_eq_true _ _).mp hlead
  obtain ⟨hexec, hlen⟩ := of_decide_eq_true hexec
  obtain ⟨r, hr, hrexec⟩ := (Option.any_eq_true _ _).mp hrep
  have hfresh : Fresh (launch (α := Nat) (localAddr 5000) [localAddr 5001, localAddr 5002])
      (localAddr 5000) ⟨[localAddr 5001, localAddr 5002], by decide +kernel⟩ :=
    launch_fresh (by decide +kernel) _
  obtain ⟨n', hn', -, hreplicas, -, -, hfault⟩ :=
    steady_replication hfresh (by decide) (by decide) hs
  obtain rfl : n = n' := Option.some.inj (hn.symm.trans hn')
  obtain ⟨r', hr', -, hdrop, -⟩ := hreplicas (localAddr 5001) (by decide +kernel)
  obtain rfl : r = r' := Option.some.inj (hr.symm.trans hr')
  exact ⟨s, n, hs, hn, hexec, ⟨r, hr, of_decide_eq_true hrexec, hdrop⟩,
    hfault (by rw [hlen]; decide)⟩

end Example

end YpfRuta.Cluster
