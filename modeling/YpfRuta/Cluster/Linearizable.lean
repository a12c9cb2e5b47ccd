/-
  The answers of a cluster with its databases are those of one database that takes the
  operations one at a time, in an order that real time does not contradict.
-/
import YpfRuta.Actors.Results
import YpfRuta.Cluster.StateMachine

namespace YpfRuta.Cluster.Databases

open Lib Server

section

variable {Amount : Type} [Currency Amount]

section History

variable [AddrHash] {c c' : Cluster.State Amount} {s s' : State}

/-! ## What nodes have on record -/

omit [Currency Amount] in
/-- In a turn of `dst` nodes assign more ids, and only `dst` answers, if at all. -/
theorem act_records {c₁ : Cluster.State Amount} {dst : SocketAddr} {n n₁ : NodeState Amount}
    (h : c.node dst = some n) (hassigned : n₁.assigned = n.assigned)
    (hans : n₁.answers = n.answers) (event : Event Amount) (now : Nat) (hc : c₁.node = c.node) :
    ∀ a m', (c₁.act dst n₁ event now).node a = some m' → ∃ m, c.node a = some m ∧
      m.assigned <+: m'.assigned ∧
      ∃ t, m'.answers = m.answers ++ if a = dst then answered t event else [] := by
  intro a m' hm'
  cases hended : ended (NodeRuntime.turn event (n₁.task now)) with
  | mk fault t =>
    rw [act_eq hended] at hm'
    dsimp only at hm'
    rw [hc] at hm'
    by_cases ha : a = dst
    · subst ha
      rw [Function.update_self] at hm'
      obtain rfl := Option.some.inj hm'
      refine ⟨n, h, ?_, t, ?_⟩
      · rw [after_assigned, hassigned]
        exact List.prefix_append _ _
      · rw [after_answers, hans, if_pos rfl]
    · rw [Function.update_of_ne ha] at hm'
      refine ⟨m', hm', List.prefix_refl _, t, ?_⟩
      rw [if_neg ha, List.append_nil]

omit [AddrHash] in
omit [Currency Amount] in
theorem set_records {dst : SocketAddr} {n n₁ : NodeState Amount} (h : c.node dst = some n)
    (hassigned : n₁.assigned = n.assigned) (hans : n₁.answers = n.answers) :
    ∀ a m', (c.setNode dst n₁).node a = some m' → ∃ m, c.node a = some m ∧
      m.assigned <+: m'.assigned ∧ m'.answers = m.answers := by
  intro a m' hm'
  unfold Cluster.State.setNode at hm'
  dsimp only at hm'
  by_cases ha : a = dst
  · subst ha
    rw [Function.update_self] at hm'
    obtain rfl := Option.some.inj hm'
    exact ⟨n, h, hassigned ▸ List.prefix_refl _, hans⟩
  · rw [Function.update_of_ne ha] at hm'
    exact ⟨m', hm', List.prefix_refl _, rfl⟩

omit [Currency Amount] in
/-- **A step that is no result** answers nobody. -/
theorem step_records {l : Cluster.Label Amount} (hl : ∀ dst k r, l ≠ .result dst k r)
    (hs : c.step l = some c') : ∀ a m', c'.node a = some m' → ∃ m, c.node a = some m ∧
      m.assigned <+: m'.assigned ∧ m'.answers = m.answers := by
  have hact : ∀ {c₁ : Cluster.State Amount} {dst : SocketAddr} {n n₁ : NodeState Amount},
      c.up dst = some n → n₁.assigned = n.assigned → n₁.answers = n.answers →
      ∀ (event : Event Amount) (now : Nat), (∀ t, answered t event = []) → c₁.node = c.node →
      ∀ a m', (c₁.act dst n₁ event now).node a = some m' → ∃ m, c.node a = some m ∧
        m.assigned <+: m'.assigned ∧ m'.answers = m.answers := by
    intro c₁ dst n n₁ hup hassigned hans event now hev hc a m' hm'
    obtain ⟨m, hm, hpre, t, ht⟩ :=
      act_records (up_eq_some.mp hup).1 hassigned hans event now hc a m' hm'
    rw [hev, ite_self, List.append_nil] at ht
    exact ⟨m, hm, hpre, ht⟩
  cases l with
  | request dst reqId op addr =>
    obtain ⟨n, hup, rfl⟩ := Option.map_eq_some_iff.mp hs
    exact hact hup rfl rfl _ _ (fun _ => rfl) rfl
  | station dst msg =>
    obtain ⟨n, hup, rfl⟩ := Option.map_eq_some_iff.mp hs
    exact hact hup rfl rfl _ _ (fun _ => rfl) rfl
  | deliver src dst =>
    simp only [Cluster.State.step] at hs
    split at hs
    · rename_i n m rest hup hlink
      obtain rfl := Option.some.inj hs
      refine hact hup ?_ ?_ _ _ (fun _ => ?_) ?_ <;> rfl
    · cases hs
  | result dst k r => exact absurd rfl (hl dst k r)
  | lost dst addr =>
    obtain ⟨n, hup, rfl⟩ := Option.map_eq_some_iff.mp hs
    exact hact hup rfl rfl _ _ (fun _ => rfl) rfl
  | check dst now =>
    obtain ⟨n, hup, rfl⟩ := Option.map_eq_some_iff.mp hs
    exact hact hup rfl rfl _ _ (fun _ => rfl) rfl
  | crash dst =>
    obtain ⟨n, hup, rfl⟩ := Option.map_eq_some_iff.mp hs
    exact set_records (up_eq_some.mp hup).1 rfl rfl
  | promote dst =>
    obtain ⟨n, hup, rfl⟩ := Option.map_eq_some_iff.mp hs
    exact set_records (up_eq_some.mp hup).1 rfl rfl

/-- The answers of a node are results it has received from its database. -/
def Heard (s : State) : Prop :=
  ∀ a n, s.cluster.node a = some n → ∀ x ∈ n.answers, ∃ o b err,
    .operationResult x.opId o x.result b err ∈ (s.database a).channel.received

omit [AddrHash] in
theorem foldl_send_channel (cmds : List (OpId × Operation Amount)) (d : Actors.Events.State) :
    (cmds.foldl send d).channel = d.channel := by
  induction cmds generalizing d with
  | nil => rfl
  | cons cmd cmds ih => rw [List.foldl_cons, ih, send_channel]

omit [AddrHash] in
theorem Heard.forward (h : Heard s) {c : Cluster.State Amount}
    (hc : ∀ a m', c.node a = some m' → ∃ m, s.cluster.node a = some m ∧
      m.answers = m'.answers) : Heard (s.forward c) := by
  intro a n hn x hx
  obtain ⟨m, hm, hans⟩ := hc a n hn
  obtain ⟨o, b, err, hmem⟩ := h a m hm x (hans ▸ hx)
  refine ⟨o, b, err, ?_⟩
  unfold State.forward
  rwa [foldl_send_channel]

/-- **A step keeps the answers backed**, and what nodes have assigned stays assigned. -/
theorem step_heard {l : Label} (h : Heard s) (hs : s.step l = some s') :
    Heard s' ∧ ∀ a m', s'.cluster.node a = some m' → ∃ m, s.cluster.node a = some m ∧
      m.assigned <+: m'.assigned := by
  cases step_does hs with
  | cluster hl hc =>
    have hrec := step_records hl hc
    refine ⟨h.forward fun a m' hm' => ?_, fun a m' hm' => ?_⟩
    · obtain ⟨m, hm, -, hans⟩ := hrec a m' hm'
      exact ⟨m, hm, hans.symm⟩
    · obtain ⟨m, hm, hpre, -⟩ := hrec a m' hm'
      exact ⟨m, hm, hpre⟩
  | @actor dst l d hl hd =>
    obtain ⟨db, hdb, rfl⟩ := Option.map_eq_some_iff.mp hd
    refine ⟨fun a n hn x hx => ?_, fun a m hm => ⟨m, hm, List.prefix_refl _⟩⟩
    obtain ⟨o, b, err, hmem⟩ := h a n hn x hx
    refine ⟨o, b, err, ?_⟩
    unfold State.setDatabase
    dsimp only
    by_cases ha : a = dst
    · subst ha
      rwa [Function.update_self, received_emit hdb]
    · rwa [Function.update_of_ne ha]
  | @event dst n event rest hup hbuf =>
    have hmore : ∀ a, ∀ ev ∈ (s.database a).channel.received,
        ev ∈ ((s.receive dst event rest).database a).channel.received := by
      intro a ev hev
      unfold State.receive State.setDatabase
      dsimp only
      by_cases ha : a = dst
      · subst ha
        rw [Function.update_self]
        exact List.mem_append_left _ hev
      · rwa [Function.update_of_ne ha]
    have hnew : event ∈ ((s.receive dst event rest).database dst).channel.received := by
      unfold State.receive State.setDatabase
      dsimp only
      rw [Function.update_self]
      exact List.mem_append_right _ List.mem_cons_self
    cases event with
    | debug text =>
      refine ⟨fun a m hm x hx => ?_, fun a m hm => ⟨m, hm, List.prefix_refl _⟩⟩
      obtain ⟨o, b, err, hmem⟩ := h a m hm x hx
      exact ⟨o, b, err, hmore a _ hmem⟩
    | operationResult opId o r b err =>
      let n₁ : NodeState Amount := { n with outstanding := n.outstanding.erase (opId, o) }
      have hassigned : n₁.assigned = n.assigned := rfl
      have hrec := act_records (up_eq_some.mp hup).1 hassigned rfl
        (.actorEvent (.operationResult opId o r)) 0 (rfl : s.cluster.node = s.cluster.node)
      refine ⟨fun a m' hm' x hx => ?_, fun a m' hm' => ?_⟩
      · obtain ⟨m, hm, -, t, hans⟩ := hrec a m' hm'
        have hchan : (((s.receive dst (.operationResult opId o r b err) rest).handleEvent dst n
            (.operationResult opId o r b err)).database a).channel =
            ((s.receive dst (.operationResult opId o r b err) rest).database a).channel :=
          foldl_send_channel _ _
        rw [hchan]
        rw [hans] at hx
        obtain hx | hx := List.mem_append.mp hx
        · obtain ⟨o', b', err', hmem⟩ := h a m hm x hx
          exact ⟨o', b', err', hmore a _ hmem⟩
        · by_cases ha : a = dst
          · subst ha
            rw [if_pos rfl] at hx
            obtain rfl := List.mem_singleton.mp hx
            exact ⟨o, b, err, hnew⟩
          · rw [if_neg ha] at hx
            cases hx
      · obtain ⟨m, hm, hpre, -⟩ := hrec a m' hm'
        exact ⟨m, hm, hpre⟩

/-- Nobody has answered yet. -/
theorem Fresh.heard {leader : SocketAddr} {replicas : Keys SocketAddr}
    (h : Fresh s.cluster leader replicas) : Heard s := by
  intro a n hn x hx
  have hnone : n.answers = [] := by
    by_cases ha : a = leader
    · obtain ⟨self, hnode, -⟩ := h.leaderNode
      subst ha
      obtain rfl := Option.some.inj (hnode.symm.trans hn)
      rfl
    · by_cases hi : a ∈ replicas
      · obtain ⟨self, hnode, -⟩ := h.replicaNode a hi
        obtain rfl := Option.some.inj (hnode.symm.trans hn)
        rfl
      · rw [h.nobody a ha hi] at hn
        cases hn
  rw [hnone] at hx
  cases hx

omit [AddrHash] in
/-- What a node has received is the result of a command it sent. -/
theorem State.Kept.received (h : s.Kept) {a : SocketAddr} {opId : OpId} {o : Operation Amount}
    {r : OperationResult Amount} {b : Bool} {err : Option VerifyError}
    (hmem : .operationResult opId o r b err ∈ (s.database a).channel.received) :
    .operationResult opId o r b err ∈ (s.database a).db.events ∧
      (opId, o) ∈ executed s.cluster a := by
  obtain ⟨ks, hks⟩ := (h a).reaches
  have hsub : (s.database a).channel.accepted.Sublist (s.database a).db.events :=
    run_induct (P := fun t : Actors.Events.State => t.channel.accepted.Sublist t.db.events)
      (fun _ _ _ => Actors.Events.step_sublist) hks (List.Sublist.refl [])
  have hevent := hsub.subset (List.mem_append_left _ hmem)
  refine ⟨hevent, ?_⟩
  rw [← (h a).commands]
  exact (Actors.origin_reaches (Actors.Events.reaches_db hks)).events _ hevent

/-- The leader's answer is of the kind of the operation it answers. -/
theorem answer_fits {leader : SocketAddr} {replicas : Keys SocketAddr} {n : NodeState Amount}
    {lead : Leader Amount} (hkept : s.Kept) (hinv : Inv leader replicas s.cluster n lead)
    (hheard : Heard s) {e : OpId × PendingOperation Amount} (he : e ∈ n.assigned)
    {answer : Answer Amount} (ha : answer ∈ n.answers) (hid : answer.opId = e.1) :
    Actors.ResultOf e.2.op answer.result := by
  obtain ⟨o, b, err, hmem⟩ := hheard leader n hinv.node answer ha
  obtain ⟨hevent, hcmd⟩ := hkept.received hmem
  have hdistinct := executed_distinct hinv leader
  rw [← (hkept leader).commands] at hdistinct
  obtain ⟨ks, hks⟩ := (hkept leader).reaches
  have hfits := (Actors.reaches_fits (Actors.Events.reaches_db hks) hdistinct hevent).2
  rw [executed_of_node hinv.node] at hcmd
  obtain ⟨q, hq, hop⟩ := mem_log.mp (hinv.lead.commands _ hcmd)
  obtain rfl : q = e.2 := congrArg Prod.snd (hinv.lead.numbered.unique hq he
    (opNum_inj.mpr hid))
  rw [hop]
  exact hfits

end History

/-! ## One database that takes the operations one at a time -/

section Linearizable

variable [AddrHash] {s₀ s : State} {ls : List Label}

/-- **One sequential execution.** The leader's database at rest has worked off the operations one
    at a time, and every answer of the leader is the result of its operation there. -/
theorem served_in_order {leader : SocketAddr} {replicas : Keys SocketAddr} {n : NodeState Amount}
    {lead : Leader Amount} (hkept : s.Kept) (hinv : Inv leader replicas s.cluster n lead)
    (hheard : Heard s) (hordered : Ordered (s.database leader).db)
    (hrest : (s.database leader).db.Quiescent)
    (haccounts : ∀ e ∈ n.log, (Actors.accountOf? e.2).isSome) :
    ∃ events, Actors.Serial Actors.ActorDb.init.states.ledger n.executed events
        (s.database leader).db.ledger ∧
      ∀ a ∈ n.answers, ∃ q b err, (a.opId, q) ∈ n.assigned ∧ Answers leader q a ∧
        .operationResult a.opId q.op a.result b err ∈ events := by
  obtain ⟨ks, hks, hmeets⟩ := hordered
  have hcommands : (s.database leader).db.commands = n.executed :=
    (hkept leader).commands.trans (executed_of_node hinv.node)
  obtain ⟨⟨events, hserial, hperm⟩, -⟩ := Actors.executes_of_run Actors.Formed.init.named
    Actors.ActorStates.idle_init hks hmeets hrest (hcommands ▸ hinv.lead.once)
    (hcommands ▸ fun e he => haccounts e (hinv.lead.commands e he))
  rw [hcommands] at hserial
  refine ⟨events, hserial, fun a ha => ?_⟩
  obtain ⟨q, hq, hans⟩ := hinv.lead.replies a ha
  obtain ⟨o, b, err, hmem⟩ := hheard leader n hinv.node a ha
  -- the result came from the database, for the operation with this id
  obtain ⟨hevent, hcmd⟩ := hkept.received hmem
  rw [executed_of_node hinv.node] at hcmd
  obtain ⟨q', hq', hop⟩ := mem_log.mp (hinv.lead.commands _ hcmd)
  obtain rfl : q' = q := congrArg Prod.snd (hinv.lead.numbered.unique hq' hq rfl)
  refine ⟨q', b, err, hq, hans, ?_⟩
  rw [hop]
  exact hperm.subset hevent

theorem run_heard {leader : SocketAddr} {replicas : Keys SocketAddr}
    (h₀ : Fresh s₀.cluster leader replicas) (hr : Lib.run State.step s₀ ls = some s) : Heard s :=
  run_induct (P := Heard) (fun _ _ _ h hs => (step_heard h hs).1) hr (Fresh.heard h₀)

/-- What the leader had sent its database and answered at some moment comes before what it
    got later. -/
def Earlier (m n : NodeState Amount) : Prop :=
  m.executed <+: n.executed ∧ (∀ a ∈ m.answers, ∃ o, (a.opId, o) ∈ m.executed) ∧
    ∀ q ∈ n.assigned, q ∉ m.assigned → ∀ o, (q.1, o) ∉ m.executed

/-- **The answers are linearizable.** In a run without failures, with at least one replica,
    in which the databases keep the order, with a log that is all about accounts and the
    leader's database at rest, there is one sequential execution of all the operations the
    leader sent its database, from an empty ledger to the leader's, and every answer is the
    result of its operation there, and goes to whoever asked. Its order does not contradict
    real time: whatever had been answered at some moment of the run comes before whatever the
    leader got later. -/
theorem answers_linearizable {leader : SocketAddr} {replicas : Keys SocketAddr}
    (h₀ : Fresh s₀.cluster leader replicas) (hdb : ∀ a, s₀.database a = .init)
    (hpos : 1 ≤ replicas.toList.length) (hls : ∀ l ∈ ls, l.Steady)
    (hr : Lib.run State.step s₀ ls = some s) (hm : Meets State.step InOrder s₀ ls)
    (hrest : (s.database leader).db.Quiescent) :
    ∃ n, s.cluster.node leader = some n ∧
      ((∀ e ∈ n.log, (Actors.accountOf? e.2).isSome) →
        ∃ events, Actors.Serial Actors.ActorDb.init.states.ledger n.executed events
            (s.database leader).db.ledger ∧
          ∀ a ∈ n.answers, ∃ q b err, (a.opId, q) ∈ n.assigned ∧ Answers leader q a ∧
            .operationResult a.opId q.op a.result b err ∈ events) ∧
      ∀ ks ms u, ls = ks ++ ms → Lib.run State.step s₀ ks = some u →
        ∃ m, u.cluster.node leader = some m ∧ Earlier m n := by
  obtain ⟨hkept, n, lead, hinv⟩ := steady_kept h₀ hdb hpos hls hr
  have hheard := run_heard h₀ hr
  refine ⟨n, hinv.node, fun haccounts => served_in_order hkept hinv hheard
    (run_ordered hdb hr hm leader) hrest haccounts, fun ks ms u hsplit hu => ?_⟩
  subst hsplit
  obtain ⟨u', hu', hlast⟩ := run_append.mp hr
  obtain rfl : u = u' := Option.some.inj (hu.symm.trans hu')
  obtain ⟨hkeptu, m, leadu, hinvu⟩ :=
    steady_kept h₀ hdb hpos (fun l hl => hls l (List.mem_append_left _ hl)) hu
  have hheardu := run_heard h₀ hu
  have hlater : Heard s ∧ ∀ m', s.cluster.node leader = some m' → m.assigned <+: m'.assigned := by
    refine run_induct (P := fun t => Heard t ∧ ∀ m', t.cluster.node leader = some m' →
      m.assigned <+: m'.assigned) ?_ hlast ⟨hheardu, fun m' hm' => ?_⟩
    · rintro t l t' ⟨ht, hpre⟩ hs
      obtain ⟨ht', hrec⟩ := step_heard ht hs
      refine ⟨ht', fun m' hm' => ?_⟩
      obtain ⟨m₁, hm₁, hpre₁⟩ := hrec leader m' hm'
      exact (hpre m₁ hm₁).trans hpre₁
    · obtain rfl : m = m' := Option.some.inj (hinvu.node.symm.trans hm')
      exact List.prefix_refl _
  have hexec := reaches_executed ⟨ms, hlast⟩ leader
  rw [executed_of_node hinvu.node, executed_of_node hinv.node] at hexec
  refine ⟨m, hinvu.node, hexec, fun a ha => ?_, fun q hq hnew o ho => ?_⟩
  · obtain ⟨o, b, err, hmem⟩ := hheardu leader m hinvu.node a ha
    obtain ⟨-, hcmd⟩ := hkeptu.received hmem
    rw [executed_of_node hinvu.node] at hcmd
    exact ⟨o, hcmd⟩
  · obtain ⟨q', hq', -⟩ := mem_log.mp (hinvu.lead.commands _ ho)
    have hsame := hinv.lead.numbered.unique ((hlater.2 n hinv.node).subset hq') hq rfl
    exact hnew (hsame ▸ hq')

end Linearizable

end

section Example

local instance linearizableHash : AddrHash := localHash

/-- After `machineRun` the charge is acked, and the leader's database works it off. -/
def chargeRun : List Label :=
  machineRun ++
    [.cluster (.deliver (localAddr 5001) (localAddr 5000)), .actor (localAddr 5000) .router,
      .actor (localAddr 5000) (.card (7, 8)), .actor (localAddr 5000) (.account 7),
      .actor (localAddr 5000) (.card (7, 8)), .actor (localAddr 5000) .router,
      .event (localAddr 5000)]

/-- The limit change and the charge after it are answered as an empty database answers the
    two, in this order. -/
theorem answers_linearizable_example :
    ∃ s n events, Lib.run State.step machines chargeRun = some s ∧
      s.cluster.node (localAddr 5000) = some n ∧ n.answers.map (fun a => a.opId) = [1, 2] ∧
      Actors.Serial Actors.ActorDb.init.states.ledger
        [(1, .limitAccount 7 (some 100)), (2, .charge 7 8 60 false)] events
        (s.database (localAddr 5000)).db.ledger ∧
      ∀ a ∈ n.answers, ∃ q b err, (a.opId, q) ∈ n.assigned ∧ Answers (localAddr 5000) q a ∧
        .operationResult a.opId q.op a.result b err ∈ events := by
  have hrun : (Lib.run State.step machines chargeRun).any (fun s =>
      decide ((s.database (localAddr 5000)).db.Drained ∧
        (s.cluster.node (localAddr 5000)).any (fun n =>
          decide (n.executed = [(1, .limitAccount 7 (some 100)), (2, .charge 7 8 60 false)] ∧
            n.answers.map (fun a => a.opId) = [1, 2] ∧
            n.log = [(1, .limitAccount 7 (some 100)), (2, .charge 7 8 60 false)])) = true)) =
      true := by
    decide +kernel
  obtain ⟨s, hs, hp⟩ := (Option.any_eq_true _ _).mp hrun
  obtain ⟨hdrained, hnode⟩ := of_decide_eq_true hp
  obtain ⟨n', hn', hvals⟩ := (Option.any_eq_true _ _).mp hnode
  obtain ⟨hexec, hans, hlog⟩ := of_decide_eq_true hvals
  obtain ⟨hkept, -⟩ := steady_kept machines_fresh (fun _ => rfl) (by decide) (by decide) hs
  have hquiet : (s.database (localAddr 5000)).db.Quiescent := by
    obtain ⟨ks, hks⟩ := (hkept (localAddr 5000)).reaches
    exact Actors.quiescent_of_known (Actors.known_reaches (Actors.Events.reaches_db hks)) hdrained
  obtain ⟨n, hn, hall, -⟩ := answers_linearizable machines_fresh (fun _ => rfl) (by decide)
    (by decide) hs (by decide +kernel) hquiet
  obtain rfl : n = n' := Option.some.inj (hn.symm.trans hn')
  obtain ⟨events, hserial, hanswers⟩ := hall (by rw [hlog]; decide)
  rw [hexec] at hserial
  exact ⟨s, n, events, hs, hn, hans, hserial, hanswers⟩

end Example

end YpfRuta.Cluster.Databases
