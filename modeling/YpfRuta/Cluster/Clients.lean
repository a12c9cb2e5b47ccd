/-
  What a cluster has to do with addresses outside it. Every request it works on was brought by
  a client or by the station of a member, and what is under way to a client answers a request
  that names it.
-/
import YpfRuta.Cluster.Service

namespace YpfRuta.Cluster

open Server Lib

variable {α : Type}

/-- The replicas are where their own addresses say. -/
def Housed (replicas : Keys SocketAddr) (s : State α) : Prop :=
  ∀ i ∈ replicas, ∀ r, s.node i = some r → r.runtime.address = i

/-- What holds of every request that waits for the leader or has an id. -/
structure Requested (leader : SocketAddr) (replicas : Keys SocketAddr)
    (P : ReqId → Operation α → SocketAddr → Prop) (s : State α) (n : NodeState α) : Prop where
  waiting : ∀ i ∈ replicas, ∀ reqId op addr, .request reqId op addr ∈ s.link i leader →
    P reqId op addr
  assigned : ∀ e ∈ n.assigned, P e.2.requestId e.2.op e.2.clientAddr

/-- What is under way to an address outside the cluster is the leader's answer to a request
    of that address. -/
def Replied (leader : SocketAddr) (replicas : Keys SocketAddr) (s : State α) (n : NodeState α) :
    Prop :=
  ∀ a, a ≠ leader → ¬ a ∈ replicas → ∀ src, ∀ m ∈ s.link src a, ∃ e ∈ n.assigned,
    e.2.clientAddr = a ∧ ∃ answer ∈ n.answers, answer.opId = e.1 ∧
      m = .response e.2.requestId answer.result

section Clients

variable [AddrHash] {leader : SocketAddr} {replicas : Keys SocketAddr} {s s' : State α}
  {n n' : NodeState α} {lead lead' : Leader α} {l : Label α}

theorem Fresh.housed (h : Fresh s leader replicas) : Housed replicas s := by
  intro i hi r hr
  obtain ⟨rep, hnode, haddr, -⟩ := h.replicaNode i hi
  obtain rfl := Option.some.inj (hnode.symm.trans hr)
  exact haddr

omit [AddrHash] in
theorem Acts.housed {i : SocketAddr} {r r' : NodeState α}
    {link : SocketAddr → SocketAddr → List (Message α)} {sent : List (SocketAddr × Message α)}
    (ha : Acts s s' i r' link sent) (hr : s.node i = some r)
    (haddr : r'.runtime.address = r.runtime.address) (h : Housed replicas s) :
    Housed replicas s' := by
  intro j hj q hq
  by_cases hji : j = i
  · subst hji
    obtain rfl := Option.some.inj (ha.node_self.symm.trans hq)
    exact haddr.trans (h j hj r hr)
  · rw [ha.node_ne hji] at hq
    exact h j hj q hq

/-- No turn changes where a replica is. -/
theorem Does.housed (hinv : Inv leader replicas s n lead)
    (hd : Does leader replicas s n lead l s' n') (h : Housed replicas s) : Housed replicas s' := by
  have hkeep : ∀ {link : SocketAddr → SocketAddr → List (Message α)}
      {sent : List (SocketAddr × Message α)}, Acts s s' leader n' link sent →
      Housed replicas s' := by
    intro link sent ha i hi r hr
    rw [ha.node_ne fun he => hinv.apart (he ▸ hi)] at hr
    exact h i hi r hr
  cases hd with
  | forwards hasks hi hr ha hop hlogged hout haddr hfrom => exact ha.housed hr haddr h
  | assigns hlink ha hassigned hexec hout hans hacks hfrom => exact hkeep ha
  | counts hasks hi hup ha hassigned hexec hout hans hacks => exact hkeep ha
  | answers hasks hk ha hsent hassigned hexec hout hans hid hacks hreply => exact hkeep ha
  | responds hasks hi hr hdown ha hlogged hout haddr => exact ha.housed hr haddr h
  | logs hasks hi hr hdown ha hlogged hout hacked haddr => exact ha.housed hr haddr h
  | acks hasks hi hr hk ha hsent hlogged hout haddr => exact ha.housed hr haddr h

/-- **A step brings no other request** than that of its label or that of a member's station. -/
theorem Does.requested {P : ReqId → Operation α → SocketAddr → Prop}
    (hinv : Inv leader replicas s n lead) (hd : Does leader replicas s n lead l s' n')
    (hh : Housed replicas s)
    (hnew : ∀ dst reqId op addr, l = .request dst reqId op addr → P reqId op addr)
    (hown : ∀ reqId op addr, addr = leader ∨ addr ∈ replicas → P reqId op addr)
    (h : Requested leader replicas P s n) : Requested leader replicas P s' n' := by
  have hwaiting := hd.waiting hinv (P := P) (fun i hi r hr reqId op addr _ hfrom => by
    obtain ⟨dst, rfl⟩ | rfl := hfrom
    · exact hnew dst reqId op addr rfl
    · exact hown _ _ _ (.inr ((hh i hi r hr).symm ▸ hi))) h.waiting
  refine ⟨hwaiting, ?_⟩
  cases hd with
  | assigns hlink ha hassigned hexec hout hans hacks hfrom =>
    rw [hassigned]
    intro e he
    obtain he | he := List.mem_append.mp he
    · exact h.assigned e he
    · rw [List.mem_singleton.mp he]
      obtain ⟨hasks, -, -⟩ | ⟨-, i, hi, up, hup, -⟩ := hlink
      · obtain ⟨dst, rfl⟩ | rfl := hfrom hasks
        · exact hnew dst _ _ _ rfl
        · exact hown _ _ _ (.inl rfl)
      · exact h.waiting i hi _ _ _ (hup ▸ List.mem_cons_self)
  | counts hasks hi hup ha hassigned hexec hout hans hacks => exact hassigned ▸ h.assigned
  | answers hasks hk ha hsent hassigned hexec hout hans hid hacks hreply =>
    exact hassigned ▸ h.assigned
  | _ => exact h.assigned

omit [AddrHash] in
/-- What is under way to `a` when a turn sends nothing there. -/
theorem Acts.outside {a b : SocketAddr} {link : SocketAddr → SocketAddr → List (Message α)}
    {sent : List (SocketAddr × Message α)} (ha : Acts s s' b n' link sent)
    (hlink : ∀ src, link src a = s.link src a) (hsent : sentTo a sent = []) (src : SocketAddr) :
    s'.link src a = s.link src a := by
  by_cases hsrc : src = b
  · rw [hsrc, ha.link_self, hsent, List.append_nil, hlink]
  · rw [ha.link_ne hsrc, hlink]

omit [AddrHash] in
theorem Replied.mono (h : Replied leader replicas s n) (hassigned : n.assigned ⊆ n'.assigned)
    (hans : n.answers ⊆ n'.answers)
    (hlink : ∀ a, a ≠ leader → ¬ a ∈ replicas → ∀ src, s'.link src a = s.link src a) :
    Replied leader replicas s' n' := by
  intro a ha hr src m hm
  rw [hlink a ha hr] at hm
  obtain ⟨e, he, haddr, answer, hanswer, hid, hmsg⟩ := h a ha hr src m hm
  exact ⟨e, hassigned he, haddr, answer, hans hanswer, hid, hmsg⟩

/-- **What a step sends to a client** is the leader's answer to it. -/
theorem Does.replied (hinv : Inv leader replicas s n lead)
    (hinv' : Inv leader replicas s' n' lead') (hd : Does leader replicas s n lead l s' n')
    (h : Replied leader replicas s n) : Replied leader replicas s' n' := by
  have hpop : ∀ {b c a : SocketAddr} {up : List (Message α)}, c = leader ∨ c ∈ replicas →
      a ≠ leader → ¬ a ∈ replicas → ∀ src, (s.setLink b c up).link src a = s.link src a := by
    intro b c a up hc hl hr src
    refine setLink_ne s up fun hab => ?_
    rw [← hab.2] at hc
    exact hc.elim hl hr
  have hlead : ∀ {a : SocketAddr} (m : Message α), a ≠ leader → sentTo a [(leader, m)] = [] := by
    intro a m ha
    rw [sentTo_singleton, if_neg ha.symm]
  have hkeep : (∀ a, a ≠ leader → ¬ a ∈ replicas → ∀ src, s'.link src a = s.link src a) →
      Replied leader replicas s' n :=
    h.mono (List.Subset.refl n.assigned) (List.Subset.refl n.answers)
  cases hd with
  | forwards hasks hi hr ha hop hlogged hout haddr hfrom =>
    exact hkeep fun a hl hr => ha.outside (fun _ => rfl) (hlead _ hl)
  | assigns hlink ha hassigned hexec hout hans hacks hfrom =>
    refine h.mono (hassigned ▸ List.subset_append_left _ _) (hans ▸ List.Subset.refl _)
      fun a hl hr => ha.outside (fun src => ?_) ?_
    · obtain ⟨-, rfl, -⟩ | ⟨-, i, hi, up, hup, rfl⟩ := hlink
      · rfl
      · exact hpop (.inl rfl) hl hr src
    · have hnot : a ∉ lead.peers := fun hp =>
        hr ((hinv.lead.view.peers hinv.lead.id hinv.apart).mem_iff.mp hp)
      rw [sentTo_broadcast, List.count_eq_zero.mpr hnot, List.replicate_zero]
  | counts hasks hi hup ha hassigned hexec hout hans hacks =>
    exact h.mono (hassigned ▸ List.Subset.refl _) (hans ▸ List.Subset.refl _) fun a hl hr =>
      ha.outside (hpop (.inl rfl) hl hr) sentTo_nil
  | answers hasks hk ha hsent hassigned hexec hout hans hid hacks hreply =>
    rename_i k e answer sent
    intro a hl hr src m hm
    by_cases hsrc : src = leader
    · rw [hsrc, ha.link_self] at hm
      obtain hm | hm := List.mem_append.mp hm
      · obtain ⟨e', he', haddr, x, hx, hmsg⟩ := h a hl hr leader m hm
        exact ⟨e', hassigned ▸ he', haddr, x, hans ▸ List.mem_append_left _ hx, hmsg⟩
      · have hmem : answer ∈ n'.answers := hans ▸ List.mem_append_right _ List.mem_cons_self
        obtain ⟨q, hq, hanswers⟩ := hinv'.lead.replies answer hmem
        have hout : ∀ p ∈ sent, p = (q.clientAddr, .response q.requestId answer.result) := by
          intro p hp
          rw [← hreply, hanswers.sent] at hp
          split at hp
          · cases hp
          · split at hp
            · cases hp
            · exact List.mem_singleton.mp hp
        obtain ⟨p, hp, rfl⟩ := List.mem_map.mp hm
        obtain ⟨hp, hto⟩ := List.mem_filter.mp hp
        obtain rfl := hout p hp
        exact ⟨_, hq, of_decide_eq_true hto, answer, hmem, rfl, rfl⟩
    · rw [ha.link_ne hsrc] at hm
      obtain ⟨e', he', haddr, x, hx, hmsg⟩ := h a hl hr src m hm
      exact ⟨e', hassigned ▸ he', haddr, x, hans ▸ List.mem_append_left _ hx, hmsg⟩
  | responds hasks hi hr hdown ha hlogged hout haddr =>
    exact hkeep fun a hl hr => ha.outside (hpop (.inr hi) hl hr) sentTo_nil
  | logs hasks hi hr hdown ha hlogged hout hacked haddr =>
    refine hkeep fun a hl hr => ha.outside (hpop (.inr hi) hl hr) ?_
    obtain ⟨rfl, -⟩ | ⟨rfl, -⟩ := hacked
    · exact hlead _ hl
    · exact sentTo_nil
  | acks hasks hi hr hk ha hsent hlogged hout haddr =>
    refine hkeep fun a hl hr => ha.outside (fun _ => rfl) ?_
    obtain rfl | ⟨rfl, -⟩ := hsent
    · exact hlead _ hl
    · exact sentTo_nil

omit [AddrHash] in
/-- Nothing that is under way to an address outside the cluster is taken. -/
theorem Does.outside (hd : Does leader replicas s n lead l s' n') {a : SocketAddr} (hl : a ≠ leader)
    (hr : ¬ a ∈ replicas) {src : SocketAddr} {m : Message α} (hm : m ∈ s.link src a) :
    m ∈ s'.link src a := by
  have hpop : ∀ {b c : SocketAddr} {up : List (Message α)}, c = leader ∨ c ∈ replicas →
      m ∈ (s.setLink b c up).link src a := by
    intro b c up hc
    rw [setLink_ne s up fun hab => by
      rw [← hab.2] at hc
      exact hc.elim hl hr]
    exact hm
  have hacts : ∀ {b : SocketAddr} {r : NodeState α}
      {link : SocketAddr → SocketAddr → List (Message α)} {sent : List (SocketAddr × Message α)},
      Acts s s' b r link sent → m ∈ link src a → m ∈ s'.link src a := by
    intro b r link sent ha hm
    rw [ha.link]
    split
    · exact List.mem_append_left _ hm
    · exact hm
  cases hd with
  | forwards hasks hi hr' ha hop hlogged hout haddr hfrom => exact hacts ha hm
  | assigns hlink ha hassigned hexec hout hans hacks hfrom =>
    obtain ⟨-, rfl, -⟩ | ⟨-, i, hi, up, hup, rfl⟩ := hlink
    · exact hacts ha hm
    · exact hacts ha (hpop (.inl rfl))
  | counts hasks hi hup ha hassigned hexec hout hans hacks => exact hacts ha (hpop (.inl rfl))
  | answers hasks hk ha hsent hassigned hexec hout hans hid hacks hreply => exact hacts ha hm
  | responds hasks hi hr' hdown ha hlogged hout haddr => exact hacts ha (hpop (.inr hi))
  | logs hasks hi hr' hdown ha hlogged hout hacked haddr => exact hacts ha (hpop (.inr hi))
  | acks hasks hi hr' hk ha hsent hlogged hout haddr => exact hacts ha hm

/-! ## Runs -/

/-- A cluster whose requests satisfy `P`, which answers those who ask. -/
structure Attends (leader : SocketAddr) (replicas : Keys SocketAddr)
    (P : ReqId → Operation α → SocketAddr → Prop) (s : State α) (n : NodeState α)
    (lead : Leader α) : Prop where
  inv : Inv leader replicas s n lead
  housed : Housed replicas s
  requested : Requested leader replicas P s n
  replied : Replied leader replicas s n

theorem Fresh.attends (h : Fresh s leader replicas)
    (P : ReqId → Operation α → SocketAddr → Prop) :
    ∃ n lead, Attends leader replicas P s n lead := by
  obtain ⟨n, lead, hinv⟩ := h.inv
  refine ⟨n, lead, hinv, h.housed, ⟨fun i hi reqId op addr hm => ?_, fun e he => ?_⟩,
    fun a ha hr src m hm => ?_⟩
  · rw [h.links] at hm
    cases hm
  · obtain ⟨self, hnode, -⟩ := h.leaderNode
    obtain rfl := Option.some.inj (hnode.symm.trans hinv.node)
    cases he
  · rw [h.links] at hm
    cases hm

theorem Attends.mono {P Q : ReqId → Operation α → SocketAddr → Prop}
    (h : Attends leader replicas P s n lead)
    (hpq : ∀ reqId op addr, P reqId op addr → Q reqId op addr) :
    Attends leader replicas Q s n lead where
  inv := h.inv
  housed := h.housed
  requested :=
    ⟨fun i hi reqId op addr hm => hpq _ _ _ (h.requested.waiting i hi reqId op addr hm),
      fun e he => hpq _ _ _ (h.requested.assigned e he)⟩
  replied := h.replied

/-- The request of a label satisfies `P`. -/
def Label.Brings (P : ReqId → Operation α → SocketAddr → Prop) (l : Label α) : Prop :=
  ∀ dst reqId op addr, l = .request dst reqId op addr → P reqId op addr

theorem Attends.step {P : ReqId → Operation α → SocketAddr → Prop}
    (h : Attends leader replicas P s n lead) (hpos : 1 ≤ replicas.toList.length)
    (hown : ∀ reqId op addr, addr = leader ∨ addr ∈ replicas → P reqId op addr)
    (hl : l.Steady) (hnew : l.Brings P) (hs : s.step l = some s') :
    ∃ n' lead', Attends leader replicas P s' n' lead' ∧
      ∀ a, a ≠ leader → ¬ a ∈ replicas → ∀ src, s.link src a ⊆ s'.link src a := by
  obtain ⟨n', hd⟩ := h.inv.does hpos hl hs
  obtain ⟨n₁, lead', hinv', -⟩ := h.inv.step hpos hl hs
  obtain rfl : n' = n₁ := Option.some.inj ((hd.node h.inv).symm.trans hinv'.node)
  exact ⟨n', lead', ⟨hinv', hd.housed h.inv h.housed,
    hd.requested h.inv h.housed hnew hown h.requested, hd.replied h.inv hinv' h.replied⟩,
    fun a ha hr src m hm => hd.outside ha hr hm⟩

theorem Attends.run {P : ReqId → Operation α → SocketAddr → Prop}
    (h : Attends leader replicas P s n lead) (hpos : 1 ≤ replicas.toList.length)
    (hown : ∀ reqId op addr, addr = leader ∨ addr ∈ replicas → P reqId op addr)
    {ls : List (Label α)} (hls : ∀ l ∈ ls, l.Steady ∧ l.Brings P)
    (hr : Cluster.run s ls = some s') :
    ∃ n' lead', Attends leader replicas P s' n' lead' ∧
      ∀ a, a ≠ leader → ¬ a ∈ replicas → ∀ src, s.link src a ⊆ s'.link src a := by
  refine run_induct_meets (C := fun _ l => l.Steady ∧ l.Brings P)
    (P := fun t => ∃ n lead, Attends leader replicas P t n lead ∧
      ∀ a, a ≠ leader → ¬ a ∈ replicas → ∀ src, s.link src a ⊆ t.link src a) ?_ hr
    (meets_of_forall hls s) ⟨n, lead, h, fun _ _ _ _ => List.Subset.refl _⟩
  rintro t l t' ⟨n, lead, h, hlink⟩ ⟨hl, hnew⟩ hs
  obtain ⟨n', lead', h', hgrows⟩ := h.step hpos hown hl hnew hs
  exact ⟨n', lead', h', fun a ha hr src m hm => hgrows a ha hr src (hlink a ha hr src hm)⟩

end Clients

end YpfRuta.Cluster
