/-
  The order of the leader's executions. A replica acks entry `n + 1` when its
  database answers entry `n`, so databases that answer out of order let a later
  entry reach its quorum first, and the leader executes it first.
-/
import Mathlib.Data.List.Induction
import YpfRuta.Cluster.Replication

namespace YpfRuta.Cluster

open Server Lib

variable {α : Type}

/-- One more ack brings operation `m` to its quorum. -/
def reachesQuorum (lead : Leader α) (m : OpId) : Bool :=
  match lead.operations.lookup m with
  | some p => p.ackCount + 1 = quorum lead.cluster.len
  | none => false

/-- The operation before `m` has reached its quorum: it has the acks, or it is no
    longer pending. -/
def followsQuorum (lead : Leader α) (m : OpId) : Bool :=
  m = 1 ||
    match lead.operations.lookup (m - 1) with
    | some p => quorum lead.cluster.len ≤ p.ackCount
    | none => true

/-- An ack that completes a quorum finds the operation before it complete. -/
def inTurn (leader : SocketAddr) (s : State α) : Label α → Bool
  | .deliver src dst =>
    dst ≠ leader ||
      match (s.node leader).map NodeState.runtime, s.link src leader with
      | some (.leader lead), .ack m :: _ => !reachesQuorum lead m || followsQuorum lead m
      | _, _ => true
  | _ => true

section Order

variable [AddrHash] {leader : SocketAddr} {replicas : Keys SocketAddr} {s s' : State α}
  {n : NodeState α} {lead : Leader α}

/-- The operation an ack completes is the next one exactly when the one before it
    is complete. -/
theorem Inv.next_iff (h : Inv leader replicas s n lead) (hex : Numbered opNum n.executed)
    {m : OpId} {p : PendingOperation α} (hp : lead.operations.lookup m = some p)
    (hreach : p.ackCount + 1 = quorum lead.cluster.len) :
    m.toNat = n.executed.length + 1 ↔ followsQuorum lead m = true := by
  obtain ⟨q, hq, rfl⟩ := h.lead.pending m p hp
  have hbounds := h.lead.numbered.bounds hq
  unfold opNum at hbounds
  dsimp only at hreach hbounds
  have hnot : m ∉ n.executed.map fun e => e.1 := by
    intro hmem
    have hle := (h.lead.executed _ hq).mp hmem
    dsimp only at hle
    omega
  rw [mem_ids hex] at hnot
  by_cases hone : m = 1
  · subst hone
    have hn1 : (1 : OpId).toNat = 1 := rfl
    rw [hn1] at hnot ⊢
    refine iff_of_true (by omega) ?_
    simp [followsQuorum]
  · have hm2 : 2 ≤ m.toNat := by
      have hne : m.toNat ≠ 1 := fun he => hone (UInt32.toNat_inj.mp he)
      omega
    have hpred : (m - 1).toNat = m.toNat - 1 :=
      UInt32.toNat_sub_of_le _ _ (by rw [UInt32.le_iff_toNat_le]; exact Nat.le_of_lt hm2)
    obtain ⟨⟨k, q'⟩, hq', hk⟩ := h.lead.numbered.exists_iff.mpr
      (show 1 ≤ m.toNat - 1 ∧ m.toNat - 1 ≤ n.assigned.length by omega)
    obtain rfl : k = m - 1 := UInt32.toNat_inj.mp (by rw [hpred]; exact hk)
    have hexec := h.lead.executed _ hq'
    have hmem := mem_ids hex (m - 1)
    dsimp only at hexec
    rw [hpred] at hmem
    have hfollows : followsQuorum lead m = true ↔ m - 1 ∈ n.executed.map fun e => e.1 := by
      unfold followsQuorum
      simp only [hone, decide_false, Bool.false_or]
      cases hl : lead.operations.lookup (m - 1) with
      | none => exact iff_of_true rfl (h.lead.settled _ hq' hl).1
      | some p' =>
        obtain ⟨q'', -, rfl⟩ := h.lead.pending _ _ hl
        rw [hexec]
        exact decide_eq_true_iff
    rw [hfollows, hmem]
    omega

/-- The ack of an operation that is pending at its quorum but for one. -/
theorem Inv.completes_in_order (h : Inv leader replicas s n lead)
    (hex : Numbered opNum n.executed) (m : OpId) :
    Numbered opNum (n.executed ++ completes lead m) ↔
      (!reachesQuorum lead m || followsQuorum lead m) = true := by
  unfold completes reachesQuorum
  cases hp : lead.operations.lookup m with
  | none => simpa using hex
  | some p =>
    by_cases hreach : p.ackCount + 1 = quorum lead.cluster.len
    · have hnext := h.next_iff hex hp hreach
      simp only [hreach, if_true, decide_true, Bool.not_true, Bool.false_or, ← hnext]
      exact ⟨fun hnum => hnum.next, fun hm => hex.concat hm⟩
    · simpa [hreach] using hex

/-- A step keeps the executions in order exactly when it is in turn. -/
theorem Inv.in_turn (h : Inv leader replicas s n lead) (hex : Numbered opNum n.executed)
    (l : Label α) :
    Numbered opNum (n.executed ++ letGo leader s lead l) ↔ inTurn leader s l = true := by
  cases l with
  | deliver src dst =>
    unfold letGo inTurn
    by_cases hd : dst = leader
    · subst hd
      rw [h.node]
      simp only [if_true, ne_eq, not_true_eq_false, decide_false, Bool.false_or, Option.map_some,
        h.lead.runtime]
      cases hlink : s.link src dst with
      | nil => simpa using hex
      | cons msg rest =>
        cases msg with
        | ack m => exact h.completes_in_order hex m
        | _ => simpa using hex
    · simpa [hd] using hex
  | _ => simpa [letGo, inTurn] using hex

/-- The executions of a run are in order exactly when its steps were in turn. -/
theorem in_order_iff {s₀ : State α} (h₀ : Fresh s₀ leader replicas)
    (hpos : 1 ≤ replicas.toList.length) {ls : List (Label α)} (hls : ∀ l ∈ ls, l.Steady)
    (hr : run s₀ ls = some s) (hn : s.node leader = some n) :
    Numbered opNum n.executed ↔
      Meets State.step (fun s l => inTurn leader s l = true) s₀ ls := by
  induction ls using List.reverseRecOn generalizing s n with
  | nil =>
    obtain rfl : s₀ = s := by simpa [run, Lib.run] using hr
    obtain ⟨lead, hnode, -⟩ := h₀.leaderNode
    obtain rfl := Option.some.inj (hnode.symm.trans hn)
    exact iff_of_true Numbered.nil trivial
  | append_singleton ls l ih =>
    obtain ⟨s', hr', hs⟩ := run_concat.mp hr
    have hls' : ∀ l ∈ ls, l.Steady := fun m hm => hls m (List.mem_append_left _ hm)
    obtain ⟨n', lead', h'⟩ := steady_inv h₀ hpos hls' hr'
    obtain ⟨n'', lead'', h'', -, hexec⟩ := h'.step hpos (hls l (by simp)) hs
    obtain rfl : n'' = n := Option.some.inj (h''.node.symm.trans hn)
    rw [meets_concat hr', ← ih hls' hr' h'.node, hexec]
    constructor
    · intro hnum
      exact ⟨hnum.left, (h'.in_turn hnum.left l).mp hnum⟩
    · rintro ⟨hnum, hturn⟩
      exact (h'.in_turn hnum l).mpr hturn

/-- **The leader applies the log in order exactly when every quorum is completed
    after the one before it.** In order means that the ids its database got are
    1, 2, 3, … without a gap; they are then the log itself, as on the replicas. -/
theorem log_applied_in_order {s₀ : State α} (h₀ : Fresh s₀ leader replicas)
    (hN : 2 ≤ (leader :: replicas.toList).length) {ls : List (Label α)}
    (hls : ∀ l ∈ ls, l.Steady) (hr : run s₀ ls = some s) :
    ∃ n, s.node leader = some n ∧
      (Numbered opNum n.executed ↔
        Meets State.step (fun s l => inTurn leader s l = true) s₀ ls) ∧
      (Numbered opNum n.executed → n.executed <+: n.log) := by
  have hpos : 1 ≤ replicas.toList.length := by
    rw [List.length_cons] at hN
    omega
  obtain ⟨n, lead, h⟩ := steady_inv h₀ hpos hls hr
  exact ⟨n, h.node, in_order_iff h₀ hpos hls hr h.node, fun hnum =>
    hnum.prefix h.lead.log_numbered h.lead.commands⟩

end Order

/-! ## Two nodes -/

section Example

local instance orderHash : AddrHash := localHash

/-- Three requests whose log entries reach the replica, and its first ack. -/
def threeLogged : List (Label Nat) :=
  [.request (localAddr 5000) 1 (.accountQuery 7) (localAddr 9000),
    .request (localAddr 5000) 2 (.accountQuery 8) (localAddr 9000),
    .request (localAddr 5000) 3 (.accountQuery 9) (localAddr 9000),
    .deliver (localAddr 5000) (localAddr 5001), .deliver (localAddr 5000) (localAddr 5001),
    .deliver (localAddr 5000) (localAddr 5001), .deliver (localAddr 5001) (localAddr 5000)]

/-- The replica's database answers its `k`-th command, and the ack arrives. -/
def answeredBy (k : Nat) : List (Label Nat) :=
  [.result (localAddr 5001) k (.accountQuery ⟨7, 0, []⟩),
    .deliver (localAddr 5001) (localAddr 5000)]

theorem log_applied_in_order_example :
    ∃ s n, run (launch (localAddr 5000) [localAddr 5001]) (threeLogged ++ answeredBy 0) = some s ∧
      s.node (localAddr 5000) = some n ∧ n.executed.map (fun e => e.1) = [1, 2] ∧
      Meets State.step (fun s l => inTurn (localAddr 5000) s l = true)
        (launch (localAddr 5000) [localAddr 5001]) (threeLogged ++ answeredBy 0) ∧
      n.executed <+: n.log := by
  have hrun : (run (launch (localAddr 5000) [localAddr 5001])
      (threeLogged ++ answeredBy 0)).any (fun s => (s.node (localAddr 5000)).any fun n =>
        decide (n.executed.map (fun e => e.1) = [1, 2])) = true := by decide +kernel
  obtain ⟨s, hs, hlead⟩ := (Option.any_eq_true _ _).mp hrun
  obtain ⟨n, hn, hexec⟩ := (Option.any_eq_true _ _).mp hlead
  have hfresh : Fresh (launch (α := Nat) (localAddr 5000) [localAddr 5001])
      (localAddr 5000) ⟨[localAddr 5001], List.nodup_singleton _⟩ := launch_fresh (by decide +kernel) _
  obtain ⟨n', hn', hiff, hprefix⟩ := log_applied_in_order hfresh (by decide) (by decide) hs
  obtain rfl : n = n' := Option.some.inj (hn.symm.trans hn')
  have hmeets : Meets State.step (fun s l => inTurn (localAddr 5000) s l = true)
      (launch (localAddr 5000) [localAddr 5001]) (threeLogged ++ answeredBy 0) := by
    decide +kernel
  exact ⟨s, n, hs, hn, of_decide_eq_true hexec, hmeets, hprefix (hiff.mpr hmeets)⟩

/-- The replica's database answers entry 2 before entry 1: its ack of entry 3
    overtakes that of entry 2, and the leader executes 3 after 1. -/
theorem log_not_applied_in_order :
    ∃ (ls : List (Label Nat)) (s : State Nat) (n : NodeState Nat), (∀ l ∈ ls, l.Steady) ∧
      Fresh (launch (α := Nat) (localAddr 5000) [localAddr 5001]) (localAddr 5000)
        ⟨[localAddr 5001], List.nodup_singleton _⟩ ∧
      run (launch (localAddr 5000) [localAddr 5001]) ls = some s ∧
      s.node (localAddr 5000) = some n ∧ n.executed.map (fun e => e.1) = [1, 3] ∧
      ¬ Numbered opNum n.executed := by
  have hrun : (run (launch (localAddr 5000) [localAddr 5001])
      (threeLogged ++ answeredBy 1)).any (fun s => (s.node (localAddr 5000)).any fun n =>
        decide (n.executed.map (fun e => e.1) = [1, 3])) = true := by decide +kernel
  obtain ⟨s, hs, hlead⟩ := (Option.any_eq_true _ _).mp hrun
  obtain ⟨n, hn, hexec⟩ := (Option.any_eq_true _ _).mp hlead
  have hids : n.executed.map (fun e => e.1) = [1, 3] := of_decide_eq_true hexec
  refine ⟨threeLogged ++ answeredBy 1, s, n, by decide, launch_fresh (by decide +kernel) _, hs,
    hn, hids, fun hnum => ?_⟩
  have hlen : n.executed.length = 2 := by simpa using congrArg List.length hids
  have hmem := (mem_ids hnum 3).mp (by rw [hids]; simp)
  rw [hlen] at hmem
  exact absurd hmem.2 (by decide)

end Example

end YpfRuta.Cluster
