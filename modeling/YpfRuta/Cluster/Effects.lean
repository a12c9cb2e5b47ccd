/-
  What each step of a steady run does to the nodes and the links, one case for each kind of
  turn. Counts and measures over runs only look at these cases.
-/
import YpfRuta.Cluster.Correlation
import YpfRuta.Server.Elections

namespace YpfRuta.Cluster

open Server Lib

variable {α : Type}

/-- An operation that takes or installs no snapshot. -/
def NoSnapshot : Operation α → Prop
  | .getDatabase _ | .replaceDatabase _ => False
  | _ => True

instance : (op : Operation α) → Decidable (NoSnapshot op)
  | .getDatabase _ | .replaceDatabase _ => isFalse id
  | .charge .. | .limitAccount .. | .limitCard .. | .accountQuery _ | .bill .. => isTrue True.intro

/-- The requests of a step are plain. -/
def Label.NoSnapshot : Label α → Prop
  | .request _ _ op _ => Cluster.NoSnapshot op
  | _ => True

instance : (l : Label α) → Decidable l.NoSnapshot
  | .request _ _ op _ => inferInstanceAs (Decidable (Cluster.NoSnapshot op))
  | .station .. | .deliver .. | .result .. | .lost .. | .check .. | .crash _ | .promote _ =>
    isTrue True.intro

/-- A message arrives, or a database answers. -/
def Label.Works : Label α → Prop
  | .deliver .. | .result .. => True
  | _ => False

instance : (l : Label α) → Decidable l.Works
  | .deliver .. | .result .. => isTrue True.intro
  | .request .. | .station .. | .lost .. | .check .. | .crash _ | .promote _ => isFalse id

theorem Label.Works.steady {l : Label α} (h : l.Works) :
    l.Steady ∧ l.NoSnapshot ∧ l.asks = false := by
  cases l <;> first | exact h.elim | exact ⟨True.intro, True.intro, rfl⟩

/-- Node `a` becomes `n'` and sends `sent`, when `link` is what is under way before. -/
structure Acts (s s' : State α) (a : SocketAddr) (n' : NodeState α)
    (link : SocketAddr → SocketAddr → List (Message α)) (sent : List (SocketAddr × Message α)) :
    Prop where
  node : s'.node = Function.update s.node a (some n')
  link : ∀ src dst, s'.link src dst =
    if src = a then link src dst ++ sentTo dst sent else link src dst
  down : n'.down = n'.fault.isSome

theorem acts_of_turn [AddrHash] {s s₁ : State α} {a : SocketAddr} {n₀ : NodeState α}
    {event : Event α} {fault : Option Fault} {t : Task α (NodeRuntime α)}
    (hturn : ended (NodeRuntime.turn event (n₀.task 0)) = (fault, t)) (hnode : s₁.node = s.node) :
    Acts s (s₁.act a n₀ event 0) a (n₀.after event fault t) s₁.link t.sent := by
  rw [act_eq hturn]
  refine ⟨?_, fun src dst => rfl, rfl⟩
  rw [hnode]

/-! ## The cases -/

/-- **What a step does.** `n` is the leader's node before, `n'` after the step. -/
inductive Does (leader : SocketAddr) (replicas : Keys SocketAddr) (s : State α)
    (n : NodeState α) (lead : Leader α) : Label α → State α → NodeState α → Prop where
  /-- A replica passes a request on. -/
  | forwards {l : Label α} {s' : State α} {i : SocketAddr} {r r' : NodeState α} {reqId : ReqId}
      {op : Operation α} {addr : SocketAddr} (hl : l.asks = true) (hi : i ∈ replicas)
      (hr : s.node i = some r)
      (ha : Acts s s' i r' s.link [(leader, .request reqId op addr)])
      (hop : l.NoSnapshot → NoSnapshot op)
      (hlogged : r'.logged = r.logged) (hout : r'.outstanding = r.outstanding)
      (haddr : r'.runtime.address = r.runtime.address)
      (hfrom : (∃ dst, l = .request dst reqId op addr) ∨ addr = r.runtime.address) :
      Does leader replicas s n lead l s' n
  /-- The leader gets a request, from outside or from replica `i`, and assigns an id. -/
  | assigns {l : Label α} {s' : State α} {n' : NodeState α} {reqId : ReqId}
      {op : Operation α} {addr : SocketAddr} {link : SocketAddr → SocketAddr → List (Message α)}
      (hlink : (l.asks = true ∧ link = s.link ∧ (l.NoSnapshot → NoSnapshot op)) ∨
        l.asks = false ∧ ∃ i ∈ replicas, ∃ up,
          s.link i leader = .request reqId op addr :: up ∧ link = (s.setLink i leader up).link)
      (ha : Acts s s' leader n' link (lead.peers.map fun a => (a, .log lead.currentOpId op)))
      (hassigned : n'.assigned = n.assigned ++ [(lead.currentOpId, .new op addr reqId)])
      (hexec : n'.executed = n.executed) (hout : n'.outstanding = n.outstanding)
      (hans : n'.answers = n.answers) (hacks : ∀ j m, n'.acksFrom j m = n.acksFrom j m)
      (hfrom : l.asks = true → (∃ dst, l = .request dst reqId op addr) ∨ addr = leader) :
      Does leader replicas s n lead l s' n'
  /-- The leader counts an ack of replica `i`. -/
  | counts {l : Label α} {s' : State α} {n' : NodeState α} {i : SocketAddr} {m : OpId}
      {up : List (Message α)} (hl : l.asks = false) (hi : i ∈ replicas)
      (hlink : s.link i leader = .ack m :: up)
      (ha : Acts s s' leader n' (s.setLink i leader up).link [])
      (hassigned : n'.assigned = n.assigned) (hexec : n'.executed = n.executed ++ completes lead m)
      (hout : n'.outstanding = n.outstanding ++ completes lead m) (hans : n'.answers = n.answers)
      (hacks : ∀ j k, n'.acksFrom j k = n.acksFrom j k + if i = j ∧ m = k then 1 else 0) :
      Does leader replicas s n lead l s' n'
  /-- The leader answers a request. -/
  | answers {l : Label α} {s' : State α} {n' : NodeState α} {k : Nat} {e : OpId × Operation α}
      {a : Answer α} {sent : List (SocketAddr × Message α)} (hl : l.asks = false)
      (hk : n.outstanding[k]? = some e) (ha : Acts s s' leader n' s.link sent)
      (hsent : sent = [] ∨ ∃ addr reqId r, addr ≠ leader ∧ sent = [(addr, .response reqId r)])
      (hassigned : n'.assigned = n.assigned) (hexec : n'.executed = n.executed)
      (hout : n'.outstanding = n.outstanding.eraseIdx k) (hans : n'.answers = n.answers ++ [a])
      (hid : a.opId = e.1) (hacks : ∀ j m, n'.acksFrom j m = n.acksFrom j m)
      (hreply : a.sent = sent) :
      Does leader replicas s n lead l s' n'
  /-- A replica hears of a response. -/
  | responds {l : Label α} {s' : State α} {i : SocketAddr} {r r' : NodeState α} {reqId : ReqId}
      {res : OperationResult α} {down : List (Message α)} (hl : l.asks = false)
      (hi : i ∈ replicas) (hr : s.node i = some r)
      (hlink : s.link leader i = .response reqId res :: down)
      (ha : Acts s s' i r' (s.setLink leader i down).link []) (hlogged : r'.logged = r.logged)
      (hout : r'.outstanding = r.outstanding) (haddr : r'.runtime.address = r.runtime.address) :
      Does leader replicas s n lead l s' n
  /-- A replica stores an entry, and acks it or has the one before it executed. -/
  | logs {l : Label α} {s' : State α} {i : SocketAddr} {r r' : NodeState α} {opId : OpId}
      {op : Operation α} {down : List (Message α)} {sent : List (SocketAddr × Message α)}
      {cmds : List (OpId × Operation α)} (hl : l.asks = false) (hi : i ∈ replicas)
      (hr : s.node i = some r) (hlink : s.link leader i = .log opId op :: down)
      (ha : Acts s s' i r' (s.setLink leader i down).link sent)
      (hlogged : r'.logged = r.logged ++ [(opId, op)])
      (hout : r'.outstanding = r.outstanding ++ cmds)
      (hacked : (sent = [(leader, .ack opId)] ∧ cmds = []) ∨
        sent = [] ∧ ∃ prev, cmds = [(opId - 1, prev)])
      (haddr : r'.runtime.address = r.runtime.address) : Does leader replicas s n lead l s' n
  /-- A replica's database answers. -/
  | acks {l : Label α} {s' : State α} {i : SocketAddr} {r r' : NodeState α} {k : Nat}
      {e : OpId × Operation α} {sent : List (SocketAddr × Message α)} (hl : l.asks = false)
      (hi : i ∈ replicas) (hr : s.node i = some r) (hk : r.outstanding[k]? = some e)
      (ha : Acts s s' i r' s.link sent)
      (hsent : sent = [(leader, .ack (e.1 + 1))] ∨ sent = [] ∧ ¬ NoSnapshot e.2)
      (hlogged : r'.logged = r.logged)
      (hout : r'.outstanding = r.outstanding.eraseIdx k)
      (haddr : r'.runtime.address = r.runtime.address) : Does leader replicas s n lead l s' n

section Does

variable [AddrHash] {leader : SocketAddr} {replicas : Keys SocketAddr} {s s' : State α}
  {n : NodeState α} {lead : Leader α}

/-! ## Turns of the leader -/

/-- The leader gets a request. -/
theorem Inv.assigns (h : Inv leader replicas s n lead) (hpos : 1 ≤ replicas.toList.length)
    (hup : n.fault = none) {n₀ : NodeState α} {s₁ : State α}
    (hlead : LeaderInv leader replicas n₀ lead) (hassigned : n₀.assigned = n.assigned)
    (hexec : n₀.executed = n.executed) (hout : n₀.outstanding = n.outstanding)
    (hans : n₀.answers = n.answers) (hfault : n₀.fault = n.fault)
    (hacks : ∀ j m, n₀.acksFrom j m = n.acksFrom j m) (hnode : s₁.node = s.node) {event : Event α}
    {reqId : ReqId} {op : Operation α} {addr : SocketAddr}
    (hev : Asks lead.address event reqId op addr) (hop : IsRequest op) {l : Label α}
    (hlink : (l.asks = true ∧ s₁.link = s.link ∧ (l.NoSnapshot → NoSnapshot op)) ∨
      l.asks = false ∧ ∃ i ∈ replicas, ∃ up,
        s.link i leader = .request reqId op addr :: up ∧ s₁.link = (s.setLink i leader up).link)
    (hfrom : l.asks = true → (∃ dst, l = .request dst reqId op addr) ∨ addr = leader) :
    ∃ n', Does leader replicas s n lead l (s₁.act leader n₀ event 0) n' := by
  have hfresh : n₀.acks replicas lead.currentOpId = 0 := by
    rw [show n₀.acks replicas lead.currentOpId = n.acks replicas lead.currentOpId from
      Keys.sum_congr fun j _ => hacks j _]
    refine h.acks_unassigned ?_
    rw [h.lead.next hup]
    omega
  obtain ⟨fault, t, lead', hturn, -, hassigned', hcmds, hsent⟩ :=
    hlead.request h.apart hpos (hfault.trans hup) hfresh hev hop
  have ha : Acts s (s₁.act leader n₀ event 0) leader _ s₁.link t.sent := acts_of_turn hturn hnode
  rw [hsent] at ha
  refine ⟨_, .assigns hlink ha (hassigned'.trans (by rw [hassigned])) ?_ ?_ ?_ hacks hfrom⟩
  · rw [after_executed, hcmds, List.append_nil, hexec]
  · rw [after_outstanding, hcmds, List.append_nil, hout]
  · rw [after_answers, answered_asks hev, List.append_nil, hans]

/-- The leader gets an ack. -/
theorem Inv.counts (h : Inv leader replicas s n lead) {i : SocketAddr} (hi : i ∈ replicas)
    (hup : n.fault = none) {m : OpId} {up : List (Message α)}
    (hlink : s.link i leader = .ack m :: up) {l : Label α} (hl : l.asks = false) :
    ∃ n', Does leader replicas s n lead l ((s.setLink i leader up).act leader
      (n.receive i (.ack m)) (.nodeMsg (.ok (.ack m))) 0) n' := by
  obtain ⟨t, lead', hturn, -, hsent, hcmds⟩ := h.lead.ack h.apart hup hi (h.acks_bound hi hlink)
  have ha : Acts s ((s.setLink i leader up).act leader (n.receive i (.ack m))
      (.nodeMsg (.ok (.ack m))) 0) leader _ (s.setLink i leader up).link t.sent :=
    acts_of_turn hturn rfl
  rw [hsent] at ha
  refine ⟨_, .counts hl hi hlink ha ?_ ?_ ?_ ?_ fun j k => ?_⟩
  · rw [after_assigned, show (n.receive i (.ack m)).runtime = n.runtime from rfl, h.lead.runtime]
    exact List.append_nil _
  · rw [after_executed, receive_executed, hcmds]
  · rw [after_outstanding, receive_outstanding, hcmds]
  · rw [after_answers]
    exact List.append_nil _
  · rw [after_acksFrom, acksFrom_receive]
    simp [isAck]

omit [AddrHash] in
theorem reply_one (lead : Leader α) {op : Operation α} (hop : IsRequest op)
    (pending : PendingOperation α) (r : OperationResult α) : (lead.reply pending op r).1 = [] ∨
      ∃ addr reqId r', addr ≠ lead.address ∧
        (lead.reply pending op r).1 = [(addr, .response reqId r')] := by
  have hresp : ∀ p ∈ (lead.reply pending op r).1, p.1 ≠ lead.address ∧ ∃ reqId r',
      p.2 = .response reqId r' := reply_responses hop pending r
  cases hsent : (lead.reply pending op r).1 with
  | nil => exact Or.inl rfl
  | cons p ps =>
    right
    have hnil : ps = [] := by
      have hlen : (lead.reply pending op r).1.length ≤ 1 := by
        unfold Leader.reply
        cases op <;> by_cases hc : pending.clientAddr = lead.address <;> cases r <;> simp [hc]
      rw [hsent, List.length_cons] at hlen
      exact List.length_eq_zero_iff.mp (by omega)
    obtain ⟨hne, reqId, r', hp⟩ := hresp p (by rw [hsent]; exact List.mem_cons_self)
    exact ⟨p.1, reqId, r', hne, by rw [hnil, ← hp]⟩

/-- The leader's database answers. -/
theorem Inv.answers (h : Inv leader replicas s n lead) {k : Nat} {e : OpId × Operation α}
    (hk : n.outstanding[k]? = some e) (r : OperationResult α) {l : Label α}
    (hl : l.asks = false) :
    ∃ n', Does leader replicas s n lead l (s.act leader (n.answer k) (resultOf e r) 0) n' := by
  obtain ⟨q, hq, hop, hp⟩ := h.lead.origin (List.mem_of_getElem? hk)
  have hid : e.1 ≠ 0 := by
    intro h0
    have hone := (h.lead.numbered.bounds hq).1
    unfold opNum at hone
    rw [h0] at hone
    exact absurd hone (by decide)
  have hreq : IsRequest e.2 := hop ▸ h.lead.requests _ hq
  have hrt : (n.answer k).runtime = .leader lead := h.lead.runtime
  have ha : Acts s (s.act leader (n.answer k) (resultOf e r) 0) leader _ s.link _ :=
    acts_of_turn (leader_answers hrt h.lead.connected hid hp r) rfl
  refine ⟨_, .answers hl hk ha ?_ ?_ (List.append_nil _) (List.append_nil _) rfl rfl
    (fun j m => rfl) rfl⟩
  · have hone := reply_one lead hreq { q with ackCount := n.acks replicas e.1 } r
    rwa [h.lead.address] at hone
  · rw [after_assigned, hrt]
    exact List.append_nil _

/-! ## Turns of a replica -/

variable {i : SocketAddr} {r : NodeState α} {rep : Replica α}

theorem Inv.forwards (hi : i ∈ replicas) (hr : s.node i = some r)
    (hrep : ReplicaInv leader n.log (n.acksFrom i) r rep (s.link leader i) (s.link i leader))
    {event : Event α} {reqId : ReqId} {op : Operation α} {addr : SocketAddr}
    (hev : Asks rep.address event reqId op addr) {l : Label α} (hl : l.asks = true)
    (hop : l.NoSnapshot → NoSnapshot op)
    (hfrom : (∃ dst, l = .request dst reqId op addr) ∨ addr = rep.address) :
    Does leader replicas s n lead l (s.act i r event 0) n := by
  have ha : Acts s (s.act i r event 0) i _ s.link _ :=
    acts_of_turn (ended_ok (replica_forwards hrep.runtime hrep.connected hrep.online hev)) rfl
  rw [hrep.leaderAddr] at ha
  have haddr : r.runtime.address = rep.address := by
    rw [hrep.runtime]
    rfl
  rw [← haddr] at hfrom
  exact .forwards hl hi hr ha hop rfl (List.append_nil _) rfl hfrom

theorem Inv.stores (h : Inv leader replicas s n lead) (hi : i ∈ replicas) (hr : s.node i = some r)
    (hrep : ReplicaInv leader n.log (n.acksFrom i) r rep (s.link leader i) (s.link i leader))
    {opId : OpId} {op : Operation α} {down : List (Message α)}
    (hlink : s.link leader i = .log opId op :: down) {l : Label α} (hl : l.asks = false) :
    Does leader replicas s n lead l ((s.setLink leader i down).act i
      (r.receive leader (.log opId op)) (.nodeMsg (.ok (.log opId op))) 0) n := by
  have hflow : r.logged ++ (opId, op) :: logsOf down = n.log := by
    have hflow := hrep.flow
    rwa [hlink] at hflow
  have hnum := h.lead.log_numbered
  rw [← hflow] at hnum
  have hid : opId.toNat = r.logged.length + 1 := hnum.next
  have hlogged : (r.receive leader (.log opId op)).logged = r.logged ++ [(opId, op)] :=
    receive_logged
  have haddr : rep.address = r.runtime.address := by
    rw [hrep.runtime]
    rfl
  obtain hnil | ⟨before, ⟨prevId, prev⟩, hlast⟩ := List.eq_nil_or_concat r.logged
  · obtain rfl : opId = 1 := UInt32.toNat_inj.mp (by rw [hid, hnil]; rfl)
    have ha : Acts s ((s.setLink leader i down).act i (r.receive leader (.log 1 op))
        (.nodeMsg (.ok (.log 1 op))) 0) i _ (s.setLink leader i down).link _ :=
      acts_of_turn (ended_ok (replica_logs_first hrep.runtime hrep.connected op)) rfl
    rw [hrep.leaderAddr] at ha
    exact .logs hl hi hr hlink ha hlogged rfl (Or.inl ⟨rfl, rfl⟩) haddr
  · rw [List.concat_eq_append] at hlast
    have hprev : prevId.toNat = r.logged.length :=
      hnum.left.last (e := (prevId, prev)) (by rw [hlast, List.getLast?_concat])
    have hpos : 0 < r.logged.length := by
      rw [hlast, List.length_append, List.length_singleton]
      omega
    have hsub : opId - 1 = prevId := by
      apply UInt32.toNat_inj.mp
      rw [UInt32.toNat_sub_of_le _ _ (by rw [UInt32.le_iff_toNat_le, hid]; show 1 ≤ _; omega), hid,
        hprev]
      rfl
    have h0 : opId ≠ 0 := by
      rintro rfl
      simp at hid
    have h1 : opId ≠ 1 := by
      rintro rfl
      rw [show (1 : OpId).toNat = 1 from rfl] at hid
      omega
    have hne : prevId ≠ opId := by
      rintro rfl
      omega
    have hstored : (rep.store opId op).operations.lookup (opId - 1) = some prev := by
      rw [hsub]
      unfold Replica.store
      rw [AList.lookup_insert_ne hne, hrep.stored, hlast, List.getLast?_concat]
    have ha : Acts s ((s.setLink leader i down).act i (r.receive leader (.log opId op))
        (.nodeMsg (.ok (.log opId op))) 0) i _ (s.setLink leader i down).link _ :=
      acts_of_turn (ended_ok (replica_logs hrep.runtime h0 h1 hstored)) rfl
    exact .logs hl hi hr hlink ha hlogged rfl (Or.inr ⟨rfl, prev, rfl⟩) haddr

theorem Inv.acks (h : Inv leader replicas s n lead) (hi : i ∈ replicas) (hr : s.node i = some r)
    (hrep : ReplicaInv leader n.log (n.acksFrom i) r rep (s.link leader i) (s.link i leader))
    {k : Nat} {e : OpId × Operation α} (hk : r.outstanding[k]? = some e) (res : OperationResult α)
    {l : Label α} (hl : l.asks = false) :
    Does leader replicas s n lead l (s.act i (r.answer k) (resultOf e res) 0) n := by
  have hrt : (r.answer k).runtime = .replica rep := hrep.runtime
  by_cases hop : ∃ snapshot, e.2 = .replaceDatabase snapshot
  · obtain ⟨snapshot, hop⟩ := hop
    have ha : Acts s (s.act i (r.answer k) (resultOf e res) 0) i _ s.link _ :=
      acts_of_turn (ended_ok (replica_installs hrt hrep.queue hop res)) rfl
    refine .acks hl hi hr hk ha (Or.inr ⟨rfl, ?_⟩) rfl (List.append_nil _) rfl
    rw [hop]
    exact id
  · have hlt := hrep.committed_lt h.lead.log_numbered (hrep.outstanding e (List.mem_of_getElem? hk))
    have ha : Acts s (s.act i (r.answer k) (resultOf e res) 0) i _ s.link _ :=
      acts_of_turn (ended_ok (replica_acks hrt hrep.connected
        (fun snapshot hs => hop ⟨snapshot, hs⟩) (by omega) res)) rfl
    rw [hrep.leaderAddr] at ha
    exact .acks hl hi hr hk ha (Or.inl rfl) rfl (List.append_nil _) rfl

/-! ## Every step -/

/-- A request reaches a node directly. -/
theorem Inv.does_asked (h : Inv leader replicas s n lead) (hpos : 1 ≤ replicas.toList.length)
    {dst : SocketAddr} (hdst : s.up dst = some r) (event : Event α) {reqId : ReqId}
    {op : Operation α} {l : Label α} (hev : ∀ own, ∃ addr, Asks own event reqId op addr ∧
      ((∃ dst, l = .request dst reqId op addr) ∨ addr = own)) (hreq : IsRequest op)
    (hl : l.asks = true) (hop : l.NoSnapshot → NoSnapshot op) :
    ∃ n', Does leader replicas s n lead l (s.act dst r event 0) n' := by
  obtain ⟨hnode, hdown⟩ := up_eq_some.mp hdst
  by_cases hd : dst = leader
  · subst hd
    obtain rfl : n = r := Option.some.inj (h.node.symm.trans hnode)
    obtain ⟨addr, hask, hfrom⟩ := hev lead.address
    rw [h.lead.address] at hfrom
    exact h.assigns hpos (h.lead.stopped hdown) h.lead rfl rfl rfl rfl rfl (fun _ _ => rfl) rfl hask
      hreq (Or.inl ⟨hl, rfl, hop⟩) fun _ => hfrom
  · by_cases hr : dst ∈ replicas
    · obtain ⟨r', rep, hnode', hrep⟩ := h.replica dst hr
      obtain rfl : r' = r := Option.some.inj (hnode'.symm.trans hnode)
      obtain ⟨addr, hask, hfrom⟩ := hev rep.address
      exact ⟨n, Inv.forwards hr hnode' hrep hask hl hop hfrom⟩
    · rw [h.nobody dst hd hr] at hnode
      cases hnode

/-- A message arrives at a node. -/
theorem Inv.does_deliver (h : Inv leader replicas s n lead) (hpos : 1 ≤ replicas.toList.length)
    {src dst : SocketAddr} (hdst : s.up dst = some r) {msg : Message α} {rest : List (Message α)}
    (hlink : s.link src dst = msg :: rest) {l : Label α} (hl : l.asks = false) :
    ∃ n', Does leader replicas s n lead l
      ((s.setLink src dst rest).act dst (r.receive src msg) (.nodeMsg (.ok msg)) 0) n' := by
  obtain ⟨hnode, hdown⟩ := up_eq_some.mp hdst
  by_cases hd : dst = leader
  · subst hd
    obtain rfl : n = r := Option.some.inj (h.node.symm.trans hnode)
    have hfault := h.lead.stopped hdown
    have hsrc : src ∈ replicas := by
      by_contra hs
      have hq := h.quiet src dst (Or.inl rfl) (fun hc => h.apart hc.2) (fun hc => hs hc.1)
      rw [hq] at hlink
      cases hlink
    obtain ⟨r, rep, -, hrep⟩ := h.replica src hsrc
    obtain ⟨m, rfl⟩ | ⟨reqId, op, addr, rfl, hop⟩ :=
      hrep.upOk msg (by rw [hlink]; exact List.mem_cons_self)
    · exact h.counts hsrc hfault hlink hl
    · have hlead : LeaderInv dst replicas (n.receive src (.request reqId op addr)) lead :=
        h.lead.receive (fun _ => rfl) src
      have hsame : ∀ j m, (n.receive src (.request reqId op addr)).acksFrom j m =
          n.acksFrom j m := fun j m => by
        rw [acksFrom_receive]
        simp [isAck]
      have hnodes : (s.setLink src dst rest).node = s.node := rfl
      exact h.assigns hpos hfault hlead rfl rfl rfl rfl rfl hsame hnodes (.client reqId op addr) hop
        (Or.inr ⟨hl, src, hsrc, rest, hlink, rfl⟩) fun hasks => absurd (hl.symm.trans hasks) (by decide)
  · by_cases hr : dst ∈ replicas
    · obtain ⟨r', rep, hnode', hrep⟩ := h.replica dst hr
      obtain rfl : r' = r := Option.some.inj (hnode'.symm.trans hnode)
      have hsrc : src = leader := by
        by_contra hs
        have hq := h.quiet src dst (Or.inr hr) (fun hc => hs hc.1) (fun hc => hd hc.2)
        rw [hq] at hlink
        cases hlink
      subst hsrc
      obtain ⟨opId, op, rfl⟩ | ⟨reqId, res, rfl⟩ :=
        hrep.downOk msg (by rw [hlink]; exact List.mem_cons_self)
      · exact ⟨n, h.stores hr hnode' hrep hlink hl⟩
      · have hlogged : (r'.receive src (.response reqId res)).logged = r'.logged := by
          rw [receive_logged]
          exact List.append_nil _
        have ha : Acts s ((s.setLink src dst rest).act dst (r'.receive src (.response reqId res))
            (.nodeMsg (.ok (.response reqId res))) 0) dst _ (s.setLink src dst rest).link _ :=
          acts_of_turn (ended_ok (replica_responds hrep.runtime reqId res)) rfl
        exact ⟨n, .responds hl hr hnode' hlink ha hlogged (List.append_nil _) rfl⟩
    · rw [h.nobody dst hd hr] at hnode
      cases hnode

/-- **Every step of a steady run is one of these.** -/
theorem Inv.does (h : Inv leader replicas s n lead) (hpos : 1 ≤ replicas.toList.length)
    {l : Label α} (hl : l.Steady) (hs : s.step l = some s') :
    ∃ n', Does leader replicas s n lead l s' n' := by
  cases l with
  | request dst reqId op addr =>
    obtain ⟨r, hdst, rfl⟩ := Option.map_eq_some_iff.mp hs
    exact h.does_asked hpos hdst _
      (fun own => ⟨addr, .client reqId op addr, .inl ⟨dst, rfl⟩⟩) hl rfl id
  | station dst msg =>
    obtain ⟨r, hdst, rfl⟩ := Option.map_eq_some_iff.mp hs
    cases msg with
    | chargeRequest accountId cardId amount requestId =>
      exact h.does_asked hpos hdst _
        (fun own => ⟨own, .station accountId cardId amount requestId, .inr rfl⟩)
        (fun _ hc => by cases hc) rfl fun _ => True.intro
    | disconnectNode => exact hl.elim
    | connectNode => exact hl.elim
  | deliver src dst =>
    unfold State.step at hs
    cases hdst : s.up dst with
    | none => simp [hdst] at hs
    | some r =>
      cases hlink : s.link src dst with
      | nil => simp [hdst, hlink] at hs
      | cons msg rest =>
        simp only [hdst, hlink, Option.some.injEq] at hs
        subst hs
        exact h.does_deliver hpos hdst hlink rfl
  | result dst k res =>
    unfold State.step at hs
    cases hdst : s.up dst with
    | none => simp [hdst] at hs
    | some r =>
      cases hk : r.outstanding[k]? with
      | none => simp [hdst, hk] at hs
      | some e =>
        simp only [hdst, hk, Option.some.injEq] at hs
        subst hs
        obtain ⟨hnode, -⟩ := up_eq_some.mp hdst
        by_cases hd : dst = leader
        · subst hd
          obtain rfl : n = r := Option.some.inj (h.node.symm.trans hnode)
          exact h.answers hk res rfl
        · by_cases hr : dst ∈ replicas
          · obtain ⟨r', rep, hnode', hrep⟩ := h.replica dst hr
            obtain rfl : r' = r := Option.some.inj (hnode'.symm.trans hnode)
            exact ⟨n, h.acks hr hnode' hrep hk res rfl⟩
          · rw [h.nobody dst hd hr] at hnode
            cases hnode
  | lost => exact hl.elim
  | check => exact hl.elim
  | crash => exact hl.elim
  | promote => exact hl.elim

end Does

end YpfRuta.Cluster
