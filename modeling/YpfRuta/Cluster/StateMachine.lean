/-
  The cluster with its databases as a replicated state machine: what the databases do is
  what the cluster expects of them, and replicas whose databases have worked off equally
  much of the log hold the same ledger.
-/
import YpfRuta.Cluster.Databases

namespace YpfRuta.Cluster.Databases

open Lib Server

section Machines

variable {Amount : Type} [Currency Amount]
variable [AddrHash] {s₀ s : State} {ls : List Label}

/-! ## Runs without failures -/

/-- The nodes and links take the steps of a run without failures and membership changes. -/
def Label.Steady : Label → Prop
  | .cluster l => l.Steady
  | .actor .. => True
  | .event _ => True

instance (l : Label) : Decidable l.Steady :=
  match l with
  | .cluster l => inferInstanceAs (Decidable (Cluster.Label.Steady l))
  | .actor .. | .event _ => isTrue True.intro

/-- No operation overtakes another on its way through the actors of a database. -/
def InOrder (s : State) : Label → Prop
  | .actor dst l => (s.database dst).db.InOrder l
  | _ => True

instance (s : State) (l : Label) : Decidable (InOrder s l) :=
  match l with
  | .actor dst l => inferInstanceAs (Decidable ((s.database dst).db.InOrder l))
  | .cluster _ | .event _ => isTrue True.intro

omit [AddrHash] in
theorem Matches.steady {l : Label} {ms : List (Cluster.Label Amount)} (h : Matches l ms)
    (hl : l.Steady) : ∀ m ∈ ms, m.Steady := by
  intro m hm
  cases h with
  | cluster l =>
    rw [List.mem_singleton.mp hm]
    exact hl
  | actor dst l => cases hm
  | debug dst => cases hm
  | result dst k r =>
    rw [List.mem_singleton.mp hm]
    exact True.intro

section Steady

variable {leader : SocketAddr} {replicas : Keys SocketAddr} {c c' : Cluster.State Amount}
  {n : NodeState Amount} {lead : Leader Amount}

omit [Currency Amount] in
theorem inv_run (h : Inv leader replicas c n lead) (hpos : 1 ≤ replicas.toList.length)
    {ms : List (Cluster.Label Amount)} (hms : ∀ m ∈ ms, m.Steady)
    (hr : Cluster.run c ms = some c') : ∃ n' lead', Inv leader replicas c' n' lead' := by
  refine run_induct_meets (C := fun _ m => m.Steady)
    (P := fun c => ∃ n lead, Inv leader replicas c n lead) ?_ hr (meets_of_forall hms c)
    ⟨n, lead, h⟩
  rintro c m c' ⟨n, lead, h⟩ hm hs
  obtain ⟨n', lead', h', -⟩ := h.step hpos hm hs
  exact ⟨n', lead', h'⟩

omit [Currency Amount] in
/-- A replica has sent its database a prefix of the leader's log. -/
theorem executed_of_replica (h : Inv leader replicas c n lead) {i : SocketAddr}
    (hi : i ∈ replicas) : executed c i <+: n.log := by
  obtain ⟨r, rep, hnode, hrep⟩ := h.replica i hi
  rw [executed_of_node hnode, hrep.executed]
  exact (List.dropLast_prefix _).trans ⟨_, hrep.flow⟩

omit [Currency Amount] in
theorem executed_log (h : Inv leader replicas c n lead) (a : SocketAddr) :
    ∀ e ∈ executed c a, e ∈ n.log := by
  intro e he
  by_cases ha : a = leader
  · rw [ha, executed_of_node h.node] at he
    exact h.lead.commands e he
  · by_cases hr : a ∈ replicas
    · exact (executed_of_replica h hr).subset he
    · rw [executed, h.nobody a ha hr] at he
      cases he

omit [AddrHash] in
omit [Currency Amount] in
/-- The ids of a numbered log are distinct. -/
theorem ids_nodup {log : List (OpId × Operation Amount)} (h : Numbered opNum log) :
    (log.map Prod.fst).Nodup := by
  refine (List.nodup_map_iff_inj_on h.nodup).mpr fun e he f hf hef => ?_
  exact h.unique he hf (opNum_inj.mpr hef)

omit [Currency Amount] in
/-- No node sends its database an id twice. -/
theorem executed_distinct (h : Inv leader replicas c n lead) (a : SocketAddr) :
    ((executed c a).map Prod.fst).Nodup := by
  by_cases ha : a = leader
  · rw [ha, executed_of_node h.node]
    exact h.lead.once
  · by_cases hr : a ∈ replicas
    · exact (ids_nodup h.lead.log_numbered).sublist ((executed_of_replica h hr).sublist.map _)
    · rw [executed, h.nobody a ha hr]
      exact List.nodup_nil

end Steady

/-! ## Databases that keep the order -/

/-- A run in which no operation overtakes another leads to the database. -/
def Ordered (db : Actors.ActorDb) : Prop :=
  ∃ ks, Lib.run Actors.ActorDb.step (.rest Actors.ActorDb.init.states) ks = some db ∧
    Meets Actors.ActorDb.step Actors.ActorDb.InOrder (.rest Actors.ActorDb.init.states) ks

section Ordered

variable {db db' : Actors.ActorDb}

omit [AddrHash] in
theorem Ordered.init : Ordered .init := ⟨[], rfl, True.intro⟩

omit [AddrHash] in
theorem Ordered.step (h : Ordered db) {l : Actors.Label} (hl : db.InOrder l)
    (hs : db.step l = some db') : Ordered db' := by
  obtain ⟨ks, hks, hm⟩ := h
  exact ⟨ks ++ [l], run_concat.mpr ⟨db, hks, hs⟩, (meets_concat hks).mpr ⟨hm, hl⟩⟩

omit [AddrHash] in
theorem Ordered.sends {d : Actors.Events.State} (h : Ordered d.db)
    (cmds : List (OpId × Operation Amount)) : Ordered (cmds.foldl send d).db := by
  induction cmds generalizing d with
  | nil => exact h
  | cons cmd cmds ih =>
    exact ih (d := send d cmd) (h.step (l := .execute cmd.1 cmd.2) True.intro rfl)

theorem step_ordered {l : Label} {s' : State} (h : ∀ a, Ordered (s.database a).db)
    (hl : InOrder s l) (hs : s.step l = some s') (a : SocketAddr) :
    Ordered (s'.database a).db := by
  cases step_does hs with
  | cluster hl hc => exact (h a).sends _
  | @actor dst l d hint hd =>
    obtain ⟨db, hdb, rfl⟩ := Option.map_eq_some_iff.mp hd
    by_cases ha : a = dst
    · subst ha
      show Ordered (Function.update s.database a _ a).db
      rw [Function.update_self]
      exact (h a).step hl hdb
    · show Ordered (Function.update s.database dst _ a).db
      rw [Function.update_of_ne ha]
      exact h a
  | @event dst n event rest hup hbuf =>
    have hreceive : ∀ b, ((s.receive dst event rest).database b).db = (s.database b).db := by
      intro b
      show (Function.update s.database dst _ b).db = _
      by_cases hb : b = dst
      · subst hb
        rw [Function.update_self]
      · rw [Function.update_of_ne hb]
    have horder : Ordered ((s.receive dst event rest).database a).db := by
      rw [hreceive]
      exact h a
    cases event with
    | operationResult opId o r b err => exact horder.sends _
    | debug text => exact horder

/-- A run in which the databases keep the order. -/
theorem run_ordered (hdb : ∀ a, s₀.database a = .init) (hr : Lib.run State.step s₀ ls = some s)
    (hm : Meets State.step InOrder s₀ ls) (a : SocketAddr) : Ordered (s.database a).db :=
  run_induct_meets (P := fun s : State => ∀ a, Ordered (s.database a).db)
    (fun _ _ _ hi hl hs => step_ordered hi hl hs) hr hm (fun a => by
      rw [hdb a]
      exact .init) a

end Ordered

/-! ## What the cluster expects of the databases -/

/-- Nothing has been sent to any database yet. -/
structure Started (s : State) : Prop where
  database : ∀ a, s.database a = .init
  executed : ∀ a, executed s.cluster a = []
  outstanding : ∀ a, outstanding s.cluster a = []

omit [AddrHash] in
theorem Started.kept (h : Started s) : s.Kept := by
  intro a
  rw [h.database, h.executed, h.outstanding]
  exact .init

theorem Started.of_fresh {leader : SocketAddr} {replicas : Keys SocketAddr}
    (h : Fresh s.cluster leader replicas) (hdb : ∀ a, s.database a = .init) : Started s := by
  have hnode : ∀ a, s.cluster.node a = none ∨ ∃ rt, s.cluster.node a = some (.start rt) := by
    intro a
    by_cases ha : a = leader
    · obtain ⟨lead, hnode, -⟩ := h.leaderNode
      exact .inr ⟨_, ha ▸ hnode⟩
    · by_cases hr : a ∈ replicas
      · obtain ⟨rep, hnode, -⟩ := h.replicaNode a hr
        exact .inr ⟨_, hnode⟩
      · exact .inl (h.nobody a ha hr)
  refine ⟨hdb, fun a => ?_, fun a => ?_⟩
  · unfold Databases.executed
    obtain hn | ⟨rt, hn⟩ := hnode a <;> rw [hn] <;> rfl
  · unfold Databases.outstanding
    obtain hn | ⟨rt, hn⟩ := hnode a <;> rw [hn] <;> rfl

/-- **A steady run** keeps the books of the databases and the invariant of the nodes. -/
theorem steady_kept {leader : SocketAddr} {replicas : Keys SocketAddr}
    (h₀ : Fresh s₀.cluster leader replicas) (hdb : ∀ a, s₀.database a = .init)
    (hpos : 1 ≤ replicas.toList.length) (hls : ∀ l ∈ ls, l.Steady)
    (hr : Lib.run State.step s₀ ls = some s) :
    s.Kept ∧ ∃ n lead, Inv leader replicas s.cluster n lead := by
  refine run_induct_meets (C := fun _ l => l.Steady)
    (P := fun s => s.Kept ∧ ∃ n lead, Inv leader replicas s.cluster n lead) ?_ hr
    (meets_of_forall hls s₀) ⟨(Started.of_fresh h₀ hdb).kept, h₀.inv⟩
  rintro s l s' ⟨hkept, n, lead, hinv⟩ hl hs
  obtain ⟨hkept', ms, hmatch, hms⟩ := step_matches hkept (executed_distinct hinv) hs
  exact ⟨hkept', inv_run hinv hpos (hmatch.steady hl) hms⟩

/-- **The databases do what the cluster expects of them.** In every run of a cluster with
    its databases in which no node sends its database the same id twice, whatever the actors
    do and whatever the channels drop, the nodes and links take steps they can take when a
    database may answer the commands it was sent, each at most once and in any order: the
    same requests, deliveries, losses and crashes, and for each event a node receives one
    answer or none. And every database works on exactly what its node has sent it. -/
theorem cluster_refined (h₀ : Started s₀) (hr : Lib.run State.step s₀ ls = some s)
    (hid : s.Distinct) :
    (∃ mss, List.Forall₂ Matches ls mss ∧
      Cluster.run s₀.cluster mss.flatten = some s.cluster) ∧
    ∀ a, Reaches Actors.ActorDb.step .init (s.database a).db ∧
      (s.database a).db.commands = executed s.cluster a := by
  have hstep : ∀ (u : State) l u' c, (u.cluster = c ∧ u.Kept) → u.step l = some u' →
      Reaches State.step u' s → ∃ ms c', Matches l ms ∧ Cluster.run c ms = some c' ∧
        u'.cluster = c' ∧ u'.Kept := by
    rintro u l u' c ⟨rfl, hkept⟩ hs hreach
    have hdistinct : u.Distinct := fun a =>
      (((step_executed hs a).trans (reaches_executed hreach a)).sublist.map _).nodup (hid a)
    obtain ⟨hkept', ms, hmatch, hms⟩ := step_matches hkept hdistinct hs
    exact ⟨ms, _, hmatch, hms, rfl, hkept'⟩
  obtain ⟨mss, c, hall, hmss, rfl, hkept⟩ := run_simulates
    (R := fun u c => u.cluster = c ∧ u.Kept) hstep hr ⟨rfl, h₀.kept⟩
  refine ⟨⟨mss, hall, hmss⟩, fun a => ⟨?_, (hkept a).commands⟩⟩
  obtain ⟨ks, hks⟩ := (hkept a).reaches
  exact Actors.Events.reaches_db hks

end Machines

section Example

local instance machineHash : AddrHash := localHash

/-- A leader and two replicas, with databases nothing has been sent to. -/
def machines : State where
  cluster := launch (localAddr 5000) [localAddr 5001, localAddr 5002]
  database _ := .init

/-- The database of `dst` changes the limit of account 7, and its node hears of it. -/
def limitRun (dst : SocketAddr) : List Label :=
  [.actor dst .router, .actor dst (.account 7), .actor dst .router, .event dst]

/-- A limit change and a charge; the change reaches all three databases. -/
def machineRun : List Label :=
  [.cluster (.request (localAddr 5000) 1 (.limitAccount 7 (some 100)) (localAddr 9000)),
    .cluster (.station (localAddr 5000) (.chargeRequest 7 8 60 2)),
    .cluster (.deliver (localAddr 5000) (localAddr 5001)),
    .cluster (.deliver (localAddr 5000) (localAddr 5002)),
    .cluster (.deliver (localAddr 5001) (localAddr 5000)),
    .cluster (.deliver (localAddr 5000) (localAddr 5001)),
    .cluster (.deliver (localAddr 5000) (localAddr 5002))] ++
  limitRun (localAddr 5000) ++ limitRun (localAddr 5001) ++ limitRun (localAddr 5002)

def machineReplicas : Keys SocketAddr := ⟨[localAddr 5001, localAddr 5002], by decide⟩

theorem machines_fresh : Fresh machines.cluster (localAddr 5000) machineReplicas :=
  launch_fresh (by decide +kernel) _

/-- The run of `machineRun` is one of the cluster without databases. -/
theorem cluster_refined_example :
    ∃ s, Lib.run State.step machines machineRun = some s ∧
      executed s.cluster (localAddr 5002) = [(1, .limitAccount 7 (some 100))] ∧
      (∃ mss, List.Forall₂ Matches machineRun mss ∧
        Cluster.run machines.cluster mss.flatten = some s.cluster) ∧
      (s.database (localAddr 5002)).db.commands = executed s.cluster (localAddr 5002) := by
  have hrun : (Lib.run State.step machines machineRun).any (fun s =>
      decide (executed s.cluster (localAddr 5002) = [(1, .limitAccount 7 (some 100))])) = true := by
    decide +kernel
  obtain ⟨s, hs, hp⟩ := (Option.any_eq_true _ _).mp hrun
  obtain ⟨-, n, lead, hinv⟩ := steady_kept machines_fresh (fun _ => rfl) (by decide) (by decide) hs
  obtain ⟨hrefined, hdb⟩ := cluster_refined (Started.of_fresh machines_fresh fun _ => rfl) hs
    (executed_distinct hinv)
  exact ⟨s, hs, of_decide_eq_true hp, hrefined, (hdb _).2⟩

end Example

/-! ## One log, one ledger -/

section Agreement

variable {Amount : Type} [Currency Amount]
variable [AddrHash] {s₀ s : State} {ls : List Label}

/-- **Replicas that have worked off equally much hold the same ledger.** In a run without
    failures, with at least one replica, in which the databases keep the order, every replica's
    database has been sent a prefix of the leader's log and the leader's database operations of
    the log. When all of the log is about accounts, a database at rest has done what these
    operations lead to one at a time, so that two databases at rest that were sent the same
    commands, and two replicas' databases at rest that were sent equally many, have the same
    ledger. -/
theorem replicas_agree {leader : SocketAddr} {replicas : Keys SocketAddr}
    (h₀ : Fresh s₀.cluster leader replicas) (hdb : ∀ a, s₀.database a = .init)
    (hpos : 1 ≤ replicas.toList.length) (hls : ∀ l ∈ ls, l.Steady)
    (hr : Lib.run State.step s₀ ls = some s) (hm : Meets State.step InOrder s₀ ls) :
    ∃ n, s.cluster.node leader = some n ∧
      (∀ i ∈ replicas, (s.database i).db.commands <+: n.log) ∧
      (∀ e ∈ (s.database leader).db.commands, e ∈ n.log) ∧
      ((∀ e ∈ n.log, (Actors.accountOf? e.2).isSome) →
        (∀ a, (s.database a).db.Quiescent →
          (s.database a).db.Executes Actors.ActorDb.init.states.ledger) ∧
        (∀ a b, (s.database a).db.Quiescent → (s.database b).db.Quiescent →
          (s.database a).db.commands = (s.database b).db.commands →
          (s.database a).db.ledger = (s.database b).db.ledger) ∧
        ∀ i ∈ replicas, ∀ j ∈ replicas, (s.database i).db.Quiescent →
          (s.database j).db.Quiescent →
          (s.database i).db.commands.length = (s.database j).db.commands.length →
          (s.database i).db.ledger = (s.database j).db.ledger) := by
  obtain ⟨hkept, n, lead, hinv⟩ := steady_kept h₀ hdb hpos hls hr
  have hcommands : ∀ a, (s.database a).db.commands = executed s.cluster a :=
    fun a => (hkept a).commands
  have hordered := run_ordered hdb hr hm
  have hprefix : ∀ i ∈ replicas, (s.database i).db.commands <+: n.log := fun i hi => by
    rw [hcommands]
    exact executed_of_replica hinv hi
  refine ⟨n, hinv.node, hprefix, fun e he => ?_, fun haccounts => ?_⟩
  · rw [hcommands] at he
    exact executed_log hinv leader e he
  · have hops : ∀ a, ∀ e ∈ (s.database a).db.commands, (Actors.accountOf? e.2).isSome := by
      intro a e he
      rw [hcommands] at he
      exact haccounts e (executed_log hinv a e he)
    have hexec : ∀ a, (s.database a).db.Quiescent →
        (s.database a).db.Executes Actors.ActorDb.init.states.ledger := by
      intro a hq
      obtain ⟨ks, hks, hmeets⟩ := hordered a
      have hids : ((s.database a).db.commands.map Prod.fst).Nodup := by
        rw [hcommands]
        exact executed_distinct hinv a
      exact (Actors.executes_of_run Actors.Formed.init.named Actors.ActorStates.idle_init hks hmeets
        hq hids (hops a)).1
    have hsame : ∀ a b, (s.database a).db.Quiescent → (s.database b).db.Quiescent →
        (s.database a).db.commands = (s.database b).db.commands →
        (s.database a).db.ledger = (s.database b).db.ledger := by
      intro a b ha hb hab
      obtain ⟨events, hserial, -⟩ := hexec a ha
      obtain ⟨events', hserial', -⟩ := hexec b hb
      rw [← hab] at hserial'
      exact hserial.ledger_eq.trans hserial'.ledger_eq.symm
    refine ⟨hexec, hsame, fun i hi j hj hqi hqj hlen => hsame i j hqi hqj ?_⟩
    have hi' := hprefix i hi
    have hj' := hprefix j hj
    exact (List.prefix_of_prefix_length_le hi' hj' hlen.le).eq_of_length hlen

end Agreement

section Example

local instance agreeHash : AddrHash := localHash

/-- The databases of the leader and of both replicas hold the new limit. -/
theorem replicas_agree_example :
    ∃ s, Lib.run State.step machines machineRun = some s ∧
      (s.database (localAddr 5001)).db.ledger.account 7 = some ⟨some 100, 0⟩ ∧
      (s.database (localAddr 5001)).db.ledger = (s.database (localAddr 5002)).db.ledger ∧
      (s.database (localAddr 5000)).db.Executes Actors.ActorDb.init.states.ledger := by
  have hrun : (Lib.run State.step machines machineRun).any (fun s =>
      decide ((s.database (localAddr 5000)).db.Drained ∧ (s.database (localAddr 5001)).db.Drained ∧
        (s.database (localAddr 5002)).db.Drained ∧
        (s.database (localAddr 5001)).db.ledger.account 7 = some ⟨some 100, 0⟩ ∧
        (s.database (localAddr 5001)).db.commands.length = 1 ∧
        (s.database (localAddr 5002)).db.commands.length = 1 ∧
        (s.cluster.node (localAddr 5000)).any (fun n =>
          decide (n.log = [(1, .limitAccount 7 (some 100)), (2, .charge 7 8 60 false)])) = true)) =
      true := by
    decide +kernel
  obtain ⟨s, hs, hp⟩ := (Option.any_eq_true _ _).mp hrun
  obtain ⟨h0, h1, h2, hledger, hlen1, hlen2, hlead⟩ := of_decide_eq_true hp
  obtain ⟨n', hn', hlog⟩ := (Option.any_eq_true _ _).mp hlead
  have hlog := of_decide_eq_true hlog
  obtain ⟨hkept, -⟩ := steady_kept machines_fresh (fun _ => rfl) (by decide) (by decide) hs
  have hquiet : ∀ a, (s.database a).db.Drained → (s.database a).db.Quiescent := by
    intro a hd
    obtain ⟨ks, hks⟩ := (hkept a).reaches
    exact Actors.quiescent_of_known (Actors.known_reaches (Actors.Events.reaches_db hks)) hd
  obtain ⟨n, hn, -, -, hall⟩ := replicas_agree machines_fresh (fun _ => rfl) (by decide)
    (by decide) hs (by decide +kernel)
  obtain rfl : n = n' := Option.some.inj (hn.symm.trans hn')
  obtain ⟨hexec, -, hsame⟩ := hall (by rw [hlog]; decide)
  exact ⟨s, hs, hledger, hsame (localAddr 5001) (by decide +kernel) (localAddr 5002)
    (by decide +kernel) (hquiet _ h1) (hquiet _ h2) (hlen1.trans hlen2.symm), hexec _ (hquiet _ h0)⟩

end Example

end YpfRuta.Cluster.Databases
