/-
  What a promotion keeps of the operations the old leader executed. A replica
  hands an entry to its database when the next one arrives, so its newest entry
  is only in its map, and `into_leader` starts with an empty map.
-/
import YpfRuta.Cluster.Replication

namespace YpfRuta.Cluster

open Server Lib

variable {α : Type}

/-- An operation that a promotion did not lose: the node's database got it exactly
    once, or the node holds it as a leader. -/
def Survives (r : NodeState α) (e : OpId × Operation α) : Prop :=
  (r.executed.countP fun f => f.1 == e.1) = 1 ∨
    match r.runtime with
    | .leader lead => (lead.operations.lookup e.1).isSome
    | .replica _ => False

section Failover

variable [AddrHash] {leader : SocketAddr} {replicas : Keys SocketAddr} {s s' : State α}
  {n : NodeState α} {lead : Leader α}

/-- A crash of the leader leaves its record as it is. -/
theorem Inv.crash (h : Inv leader replicas s n lead) (hs : s.step (.crash leader) = some s') :
    Inv leader replicas s' { n with down := true } lead := by
  obtain ⟨r, hup, rfl⟩ := Option.map_eq_some_iff.mp hs
  obtain rfl : n = r := Option.some.inj (h.node.symm.trans (up_eq_some.mp hup).1)
  have hlead : LeaderInv leader replicas { n with down := true } lead :=
    { h.lead with stopped := fun hd => by cases hd }
  refine { h with node := Function.update_self .., lead := hlead, replica := ?_, nobody := ?_ }
  · intro i hi
    have hne : i ≠ leader := fun he => h.apart (he ▸ hi)
    obtain ⟨r, rep, hr, hrep⟩ := h.replica i hi
    exact ⟨r, rep, (Function.update_of_ne hne ..).trans hr, hrep⟩
  · intro a ha har
    exact (Function.update_of_ne ha ..).trans (h.nobody a ha har)

theorem failing_inv {s₀ : State α} (h₀ : Fresh s₀ leader replicas)
    (hpos : 1 ≤ replicas.toList.length) {ls : List (Label α)}
    (hls : ∀ l ∈ ls, l.Steady ∨ l = .crash leader) (hr : run s₀ ls = some s) :
    ∃ n lead, Inv leader replicas s n lead := by
  refine run_induct_meets (C := fun _ l => l.Steady ∨ l = .crash leader)
    (P := fun s => ∃ n lead, Inv leader replicas s n lead) ?_ hr (meets_of_forall hls s₀) h₀.inv
  rintro s l s' ⟨n, lead, h⟩ (hl | rfl) hs
  · obtain ⟨n', lead', h', -⟩ := h.step hpos hl hs
    exact ⟨n', lead', h'⟩
  · exact ⟨_, lead, h.crash hs⟩

omit [AddrHash] in
/-- What a promoted replica keeps of an entry it logged: its database has it, unless
    it is the newest one. -/
theorem ReplicaInv.survives_iff {log : List (OpId × Operation α)} {acked : OpId → Nat}
    {r : NodeState α} {rep : Replica α} {down up : List (Message α)}
    (h : ReplicaInv leader log acked r rep down up) (hnum : Numbered opNum log)
    {e : OpId × Operation α} (he : e ∈ r.logged) :
    Survives { r with runtime := r.runtime.changeRole .promoteToLeader } e ↔
      (rep.operations.lookup e.1).isNone := by
  have hlogged : Numbered opNum r.logged := (h.flow ▸ hnum).left
  have hlost : ¬ (match r.runtime.changeRole .promoteToLeader with
      | .leader lead => (lead.operations.lookup e.1).isSome
      | .replica _ => False) := by
    rw [h.runtime]
    show ¬ ((∅ : HashMap OpId (PendingOperation α)).lookup e.1).isSome = true
    rw [AList.lookup_empty]
    simp
  have hiff : Survives { r with runtime := r.runtime.changeRole .promoteToLeader } e ↔
      (r.executed.countP fun f => f.1 == e.1) = 1 := or_iff_left hlost
  rw [hiff, h.executed]
  rcases List.eq_nil_or_concat r.logged with hnil | ⟨before, ⟨last, op⟩, hlast⟩
  · rw [hnil] at he
    cases he
  · rw [List.concat_eq_append] at hlast
    have hnodup : (r.logged.map fun f => f.1).Nodup := by
      refine (List.nodup_map_iff_inj_on hlogged.nodup).mpr fun f hf g hg hfg => ?_
      exact hlogged.unique hf hg (opNum_inj.mpr hfg)
    have hcount : (r.logged.dropLast.countP fun f => f.1 == e.1) =
        (r.logged.dropLast.map fun f => f.1).count e.1 := by
      rw [List.count, List.countP_map]
      rfl
    have hstored : (rep.operations.lookup e.1).isNone ↔ e.1 ≠ last := by
      rw [Option.isNone_iff_eq_none, Option.eq_none_iff_forall_ne_some]
      simp only [ne_eq, h.stored, hlast, List.getLast?_concat, Option.some.injEq, Prod.mk.injEq]
      exact ⟨fun hc heq => hc op ⟨heq.symm, rfl⟩, fun hne _ hc => hne hc.1.symm⟩
    rw [hcount, hstored, hlast, List.dropLast_concat]
    rw [hlast, List.map_append, List.map_singleton] at hnodup
    rw [hlast] at he
    rcases List.mem_append.mp he with he | he
    · have hmem : e.1 ∈ before.map fun f => f.1 := List.mem_map_of_mem he
      have hne : e.1 ≠ last := fun heq =>
        List.disjoint_of_nodup_append hnodup hmem (List.mem_singleton.mpr heq)
      exact iff_of_true (List.count_eq_one_of_mem hnodup.of_append_left hmem) hne
    · obtain rfl := List.mem_singleton.mp he
      have hnot : last ∉ before.map fun f => f.1 := fun hmem =>
        List.disjoint_of_nodup_append hnodup hmem (List.mem_singleton.mpr rfl)
      rw [List.count_eq_zero_of_not_mem hnot]
      simp

/-- **Durability across failover.** After a leader that may have crashed, a promoted
    replica has kept every operation that the leader had executed and the replica
    had logged, exactly when none of the entries in the replica's map had been
    executed by the leader. -/
theorem failover_keeps {s₀ : State α} (h₀ : Fresh s₀ leader replicas)
    (hN : 2 ≤ (leader :: replicas.toList).length) {ls : List (Label α)}
    (hls : ∀ l ∈ ls, l.Steady ∨ l = .crash leader) (hr : run s₀ ls = some s)
    {i : SocketAddr} (hi : i ∈ replicas) (hs : s.step (.promote i) = some s') :
    ∃ n r rep r', s.node leader = some n ∧ s.node i = some r ∧ r.runtime = .replica rep ∧
      s'.node i = some r' ∧ r'.runtime = .leader rep.intoLeader ∧
      ((∀ e ∈ n.executed, e ∈ r.logged → Survives r' e) ↔
        ∀ m ∈ rep.operations, m ∉ n.executed.map fun e => e.1) := by
  have hpos : 1 ≤ replicas.toList.length := by
    rw [List.length_cons] at hN
    omega
  obtain ⟨n, lead, h⟩ := failing_inv h₀ hpos hls hr
  obtain ⟨r, rep, hnode, hrep⟩ := h.replica i hi
  obtain ⟨r₀, hup, rfl⟩ := Option.map_eq_some_iff.mp hs
  obtain rfl : r = r₀ := Option.some.inj (hnode.symm.trans (up_eq_some.mp hup).1)
  have hnum := h.lead.log_numbered
  have hlogged : ∀ e ∈ r.logged, e ∈ n.log := fun e he => hrep.flow ▸ List.mem_append_left _ he
  refine ⟨n, r, rep, _, h.node, hnode, hrep.runtime, Function.update_self .., ?_, ?_⟩
  · show r.runtime.changeRole .promoteToLeader = _
    rw [hrep.runtime]
    rfl
  constructor
  · intro hkeep m hm hmem
    obtain ⟨op, hop⟩ := Option.isSome_iff_exists.mp (AList.lookup_isSome.mpr hm)
    have hlast : (m, op) ∈ r.logged := List.mem_of_getLast? ((hrep.stored m op).mp hop)
    obtain ⟨e, he, rfl⟩ := List.mem_map.mp hmem
    have heq : e = (e.1, op) :=
      hnum.unique (h.lead.commands e he) (hlogged _ hlast) rfl
    have hnone := (hrep.survives_iff hnum (heq ▸ hlast)).mp (hkeep e he (heq ▸ hlast))
    rw [hop] at hnone
    cases hnone
  · intro hclean e he hel
    refine (hrep.survives_iff hnum hel).mpr ?_
    rw [Option.isNone_iff_eq_none, AList.lookup_eq_none]
    exact fun hm => hclean e.1 hm (List.mem_map_of_mem he)

end Failover

/-! ## Two nodes -/

section Example

local instance failoverHash : AddrHash := localHash

/-- A request whose log entry and ack arrive: the leader executes it. -/
def executedOnce : List (Label Nat) :=
  [.request (localAddr 5000) 1 (.accountQuery 7) (localAddr 9000),
    .deliver (localAddr 5000) (localAddr 5001), .deliver (localAddr 5001) (localAddr 5000)]

/-- The next request reaches the replica before the leader crashes, so the replica's
    database has the first one. -/
def loggedNext : List (Label Nat) :=
  [.request (localAddr 5000) 2 (.accountQuery 8) (localAddr 9000),
    .deliver (localAddr 5000) (localAddr 5001), .crash (localAddr 5000)]

theorem failover_keeps_example :
    ∃ s s' n r', run (launch (localAddr 5000) [localAddr 5001]) (executedOnce ++ loggedNext) =
        some s ∧
      s.step (.promote (localAddr 5001)) = some s' ∧ s.node (localAddr 5000) = some n ∧
      n.executed = [(1, .accountQuery 7)] ∧ s'.node (localAddr 5001) = some r' ∧
      Survives r' (1, .accountQuery 7) := by
  have hrun : (run (launch (localAddr 5000) [localAddr 5001])
      (executedOnce ++ loggedNext)).any (fun s =>
        ((s.node (localAddr 5000)).any fun n =>
          decide (n.executed = [(1, .accountQuery 7)])) &&
        ((s.node (localAddr 5001)).any fun r =>
          decide (r.logged = [(1, .accountQuery 7), (2, .accountQuery 8)]) &&
          match r.runtime with
          | .replica rep => decide (rep.operations.keys = [2])
          | .leader _ => false) &&
        (s.step (.promote (localAddr 5001))).isSome) = true := by decide +kernel
  obtain ⟨s, hs, hvals⟩ := (Option.any_eq_true _ _).mp hrun
  rw [Bool.and_eq_true, Bool.and_eq_true] at hvals
  obtain ⟨⟨hlead, hreplica⟩, hstep⟩ := hvals
  obtain ⟨s', hs'⟩ := Option.isSome_iff_exists.mp hstep
  have hfresh : Fresh (launch (α := Nat) (localAddr 5000) [localAddr 5001])
      (localAddr 5000) ⟨[localAddr 5001], List.nodup_singleton _⟩ := launch_fresh (by decide +kernel) _
  obtain ⟨n, r, rep, r', hn, hr, hrt, hr', -, hiff⟩ := failover_keeps hfresh (by decide)
    (by decide) hs (i := localAddr 5001) (by decide +kernel) hs'
  rw [hn] at hlead
  rw [hr] at hreplica
  have hexec : n.executed = [(1, .accountQuery 7)] := of_decide_eq_true hlead
  simp only [Option.any_some, hrt, Bool.and_eq_true, decide_eq_true_eq] at hreplica
  refine ⟨s, s', n, r', hs, hs', hn, hexec, hr', hiff.mpr (fun m hm hmem => ?_) _ ?_ ?_⟩
  · rw [AList.mem_keys, hreplica.2] at hm
    rw [hexec] at hmem
    obtain rfl := List.mem_singleton.mp hm
    exact absurd hmem (by decide)
  · rw [hexec]
    exact List.mem_singleton.mpr rfl
  · rw [hreplica.1]
    exact List.mem_cons_self

/-- The leader executes its only operation and crashes; the replica notices, finds
    no higher id and promotes itself. The operation is neither in its database nor
    in its map. -/
theorem failover_loses :
    ∃ (s s' : State Nat) (n r' : NodeState Nat),
      Fresh (launch (α := Nat) (localAddr 5000) [localAddr 5001]) (localAddr 5000)
        ⟨[localAddr 5001], List.nodup_singleton _⟩ ∧
      run (launch (localAddr 5000) [localAddr 5001])
        (executedOnce ++ [.crash (localAddr 5000)]) = some s ∧
      s.step (.lost (localAddr 5001) (localAddr 5000)) = some s' ∧
      s.node (localAddr 5000) = some n ∧ s'.node (localAddr 5001) = some r' ∧
      (1, .accountQuery 7) ∈ n.executed ∧ (1, .accountQuery 7) ∈ r'.logged ∧
      (match r'.runtime with | .leader _ => True | .replica _ => False) ∧
      ¬ Survives r' (1, .accountQuery 7) := by
  have hrun : (run (launch (localAddr 5000) [localAddr 5001])
      (executedOnce ++ [.crash (localAddr 5000)])).any (fun s =>
        ((s.node (localAddr 5000)).any fun n =>
          decide (n.executed = [(1, .accountQuery 7)])) &&
        (s.step (.lost (localAddr 5001) (localAddr 5000))).any fun s' =>
          (s'.node (localAddr 5001)).any fun r' =>
            decide (r'.logged = [(1, .accountQuery 7)]) && r'.executed.isEmpty &&
            match r'.runtime with
            | .leader lead => (lead.operations.lookup 1).isNone
            | .replica _ => false) = true := by decide +kernel
  obtain ⟨s, hs, hvals⟩ := (Option.any_eq_true _ _).mp hrun
  rw [Bool.and_eq_true] at hvals
  obtain ⟨n, hn, hexec⟩ := (Option.any_eq_true _ _).mp hvals.1
  obtain ⟨s', hs', hafter⟩ := (Option.any_eq_true _ _).mp hvals.2
  obtain ⟨r', hr', hr'vals⟩ := (Option.any_eq_true _ _).mp hafter
  rw [Bool.and_eq_true, Bool.and_eq_true] at hr'vals
  obtain ⟨⟨hlogged, hnone⟩, hmap⟩ := hr'vals
  refine ⟨s, s', n, r', launch_fresh (by decide +kernel) _, hs, hs', hn, hr', ?_, ?_, ?_, ?_⟩
  · rw [of_decide_eq_true hexec]
    exact List.mem_singleton.mpr rfl
  · rw [of_decide_eq_true hlogged]
    exact List.mem_singleton.mpr rfl
  · cases hrt : r'.runtime with
    | leader lead => trivial
    | replica rep =>
      rw [hrt] at hmap
      cases hmap
  · unfold Survives
    rw [List.isEmpty_iff.mp hnone]
    cases hrt : r'.runtime with
    | leader lead =>
      rw [hrt] at hmap
      simp only [Option.isNone_iff_eq_none] at hmap
      simp [hmap]
    | replica rep => simp

end Example

end YpfRuta.Cluster
