/-
  Bully elections end. A node that is asked asks only the members above it, so the messages
  an election can still cause are bounded by the members above those it goes to.

  `Awaited`: a node that waits for an answer has asked somebody, or is being answered.
-/
import YpfRuta.Cluster.Bully
import YpfRuta.Lib.Work

namespace YpfRuta.Cluster.Bully

open Server Lib

variable {α : Type}

/-! ## The work that is left -/

section Work

variable [AddrHash] {leader top : SocketAddr} {replicas : Keys SocketAddr} {s s' : Bully α}
  {a b : SocketAddr} {node node' : NodeRuntime α} {l : Label}
  {flight out : List (SocketAddr × Message α)}

/-- How many members have a greater id than `a`. -/
def above (leader : SocketAddr) (replicas : Keys SocketAddr) (a : SocketAddr) : Nat :=
  (leader :: replicas.toList).countP fun b => getIdGivenAddr a < getIdGivenAddr b

/-- Only an election makes its receiver send anything. -/
def rank (leader : SocketAddr) (replicas : Keys SocketAddr) : SocketAddr × Message α → Nat
  | (a, .election _ _) => above leader replicas a + 1
  | _ => 0

/-- A bound on the messages that are still to arrive. -/
def toDo (s : Bully α) (leader : SocketAddr) (replicas : Keys SocketAddr) : Nat :=
  work (replicas.toList.length + 2) (rank leader replicas) s.flight

/-- A message under way arrives. -/
def Label.Delivers : Label → Prop
  | .deliver _ _ => True
  | _ => False

theorem above_lt (hb : Member leader replicas b) (hlt : getIdGivenAddr a < getIdGivenAddr b) :
    above leader replicas b < above leader replicas a := by
  refine countP_lt (fun c _ hc => ?_) (List.mem_cons.mpr hb) ?_ (decide_eq_true hlt)
  · exact decide_eq_true (UInt64.lt_trans hlt (of_decide_eq_true hc))
  · exact decide_eq_false (UInt64.lt_irrefl _)

/-- A full view lists nobody twice. -/
theorem View.len_le_members {cluster : HashMap NodeId SocketAddr}
    (h : View cluster leader replicas) : cluster.len ≤ replicas.toList.length + 1 := by
  have hsub : cluster.values ⊆ leader :: replicas.toList := fun c hc =>
    List.mem_cons.mpr ((h.members c).mp hc)
  have hle := ((values_nodup h.ids).subperm hsub).length_le
  unfold HashMap.values at hle
  rw [List.length_map, List.length_cons] at hle
  exact hle

omit [AddrHash] in
theorem elections_length (id : NodeId) (address : SocketAddr)
    (cluster : HashMap NodeId SocketAddr) :
    (elections (α := α) id address cluster).length ≤ cluster.len := by
  unfold elections higher
  rw [List.length_map]
  refine (List.length_filter_le _ _).trans ?_
  unfold peersOf
  rw [List.length_map]
  exact Nat.le_refl _

omit [AddrHash] in
theorem announcements_length (id : NodeId) (address : SocketAddr)
    (cluster : HashMap NodeId SocketAddr) :
    (announcements (α := α) id address cluster).length ≤ cluster.len := by
  unfold announcements
  rw [List.length_map]
  refine (List.length_filter_le _ _).trans ?_
  unfold peersOf
  rw [List.length_map]
  exact Nat.le_refl _

/-- What an election makes a node send: no more messages than there are members, and
    elections only to members above it. -/
theorem Settled.elect_rank (h : Settled leader replicas top a node) (now : Nat) :
    (node.elect now).2.length ≤ replicas.toList.length + 1 ∧
      ∀ m ∈ (node.elect now).2, rank leader replicas m < above leader replicas a + 1 := by
  have hlen := View.len_le_members h.view
  obtain ⟨-, heq⟩ | ⟨-, heq⟩ | ⟨-, heq⟩ := elect_cases node now
  · rw [heq]
    exact ⟨Nat.zero_le _, fun m hm => absurd hm List.not_mem_nil⟩
  · rw [heq]
    refine ⟨(announcements_length _ _ _).trans hlen, fun m hm => ?_⟩
    obtain ⟨c, -, -, rfl⟩ := (h.view.mem_announcements m).mp hm
    exact Nat.succ_pos _
  · rw [heq]
    refine ⟨(elections_length _ _ _).trans hlen, fun m hm => ?_⟩
    obtain ⟨c, hc, hlt, rfl⟩ := (h.view.mem_elections m).mp hm
    rw [h.id] at hlt
    exact Nat.succ_lt_succ (above_lt hc hlt)

/-- **A message that arrives is replaced by less.** -/
theorem Effect.work (hset : Settled leader replicas top a node)
    (he : Effect s a node l flight node' out) (hl : l.Delivers) :
    Lib.work (replicas.toList.length + 2) (rank leader replicas) (flight ++ out) + 1 ≤
      s.toDo leader replicas := by
  have hnothing : ∀ m, ∀ x ∈ ([] : List (SocketAddr × Message α)), rank leader replicas x < m :=
    fun _ x hx => absurd hx List.not_mem_nil
  cases he with
  | starts now => exact hl.elim
  | asked k now candidateId candidateAddr hk =>
    obtain ⟨hlen, hrank⟩ := hset.elect_rank now
    refine work_replace hk (Nat.succ_le_succ hlen) fun m hm => ?_
    rcases List.mem_cons.mp hm with rfl | hm
    · exact Nat.succ_pos _
    · exact hrank m hm
  | answered k now responderId hk => exact work_replace hk (Nat.zero_le _) (hnothing _)
  | follows k now leaderId leaderAddr hk hlt => exact work_replace hk (Nat.zero_le _) (hnothing _)
  | keeps k now leaderId leaderAddr hk hlt => exact work_replace hk (Nat.zero_le _) (hnothing _)
  | expires now hexp => exact hl.elim
  | waits now => exact hl.elim

theorem Inv.toDo (h : Inv leader replicas top s) (hl : l.Delivers) (hs : s.step l = some s') :
    s'.toDo leader replicas + 1 ≤ s.toDo leader replicas := by
  obtain ⟨a, node, flight, node', out, -, -, hset, he, rfl⟩ := h.step_cases hs
  exact he.work hset hl

/-- A message under way can arrive. -/
theorem Inv.flight_of_stuck (h : Inv leader replicas top s)
    (hs : Stuck Bully.step Label.Delivers s) : s.flight = [] := by
  cases hflight : s.flight with
  | nil => rfl
  | cons m rest =>
    obtain ⟨a, msg⟩ := m
    have hproper := h.flight (a, msg) (hflight ▸ List.mem_cons_self)
    have ha : Member leader replicas a := by
      cases msg with
      | election candidateId candidateAddr => exact hproper.1
      | electionOk responderId => exact hproper
      | coordinator leaderId leaderAddr => exact hproper.1
      | _ => exact hproper.elim
    obtain ⟨node, hnode, -⟩ := h.node a ha
    have hup : s.up a = some ⟨node, none⟩ := up_eq_some.mpr ⟨hnode, rfl⟩
    have hnone := hs (.deliver 0 0) True.intro
    simp only [Bully.step, hflight, List.getElem?_cons_zero, hup, Option.map_some] at hnone
    cases hnone

end Work

/-! ## Who waits for an answer -/

section Awaited

variable [AddrHash] {leader top : SocketAddr} {replicas : Keys SocketAddr} {s s' : Bully α}
  {a b : SocketAddr} {node node' : NodeRuntime α} {l : Label}
  {flight out : List (SocketAddr × Message α)}

/-- Node `a` has asked somebody, or is being answered. -/
def Awaits (a : SocketAddr) (flight : List (SocketAddr × Message α)) : Prop :=
  (∃ b candidateId, (b, .election candidateId a) ∈ flight) ∨
    ∃ responderId, (a, .electionOk responderId) ∈ flight

/-- Whoever waits for an answer will have one. -/
def Awaited (s : Bully α) : Prop :=
  ∀ a p, s.node a = some p → p.runtime.electionInProgress = true → Awaits a s.flight

omit [AddrHash] in
theorem Awaits.mono (h : Awaits a flight)
    (hasked : ∀ b id, (b, .election id a) ∈ flight → (b, .election id a) ∈ out)
    (hanswered : ∀ id, (a, .electionOk id) ∈ flight → (a, .electionOk id) ∈ out) :
    Awaits a out := by
  rcases h with ⟨b, id, hm⟩ | ⟨id, hm⟩
  · exact .inl ⟨b, id, hasked b id hm⟩
  · exact .inr ⟨id, hanswered id hm⟩

omit [AddrHash] in
/-- What an announcement that arrives leaves under way. -/
theorem Awaits.announced {k : Nat} {leaderId : NodeId} {leaderAddr : SocketAddr}
    (h : Awaits b flight) (hk : flight[k]? = some (a, .coordinator leaderId leaderAddr)) :
    Awaits b (flight.eraseIdx k ++ out) := by
  refine h.mono (fun c id hm => ?_) fun id hm => ?_
  · refine List.mem_append_left _ (mem_eraseIdx_of_ne hk hm fun hc => ?_)
    cases (Prod.mk.inj hc).2
  · refine List.mem_append_left _ (mem_eraseIdx_of_ne hk hm fun hc => ?_)
    cases (Prod.mk.inj hc).2

omit [AddrHash] in
/-- **A question that arrives is answered**, and only the answer ends the wait. -/
theorem Effect.awaits (he : Effect s a node l flight node' out) (h : Awaits b s.flight)
    (hb : b = a → node'.electionInProgress = true) : Awaits b (flight ++ out) := by
  cases he with
  | starts now =>
    exact h.mono (fun _ _ hm => List.mem_append_left _ hm) fun _ hm => List.mem_append_left _ hm
  | asked k now candidateId candidateAddr hk =>
    by_cases heq : candidateAddr = b
    · rw [heq]
      exact .inr ⟨node.id, List.mem_append_right _ List.mem_cons_self⟩
    · refine h.mono (fun c id hm => ?_) fun id hm => ?_
      · refine List.mem_append_left _ (mem_eraseIdx_of_ne hk hm fun hc => heq ?_)
        injection (Prod.mk.inj hc).2 with _ haddr
        exact haddr.symm
      · refine List.mem_append_left _ (mem_eraseIdx_of_ne hk hm fun hc => ?_)
        cases (Prod.mk.inj hc).2
  | answered k now responderId hk =>
    have hne : b ≠ a := fun heq => by
      have hbusy := hb heq
      rw [node.electing_electionInProgress] at hbusy
      cases hbusy
    refine h.mono (fun c id hm => ?_) fun id hm => ?_
    · refine List.mem_append_left _ (mem_eraseIdx_of_ne hk hm fun hc => ?_)
      cases (Prod.mk.inj hc).2
    · exact List.mem_append_left _ (mem_eraseIdx_of_ne hk hm fun hc => hne (Prod.mk.inj hc).1)
  | follows k now leaderId leaderAddr hk hlt => exact h.announced hk
  | keeps k now leaderId leaderAddr hk hlt => exact h.announced hk
  | expires now hexp =>
    exact h.mono (fun _ _ hm => List.mem_append_left _ hm) fun _ hm => List.mem_append_left _ hm
  | waits now =>
    exact h.mono (fun _ _ hm => List.mem_append_left _ hm) fun _ hm => List.mem_append_left _ hm

/-- A node that starts to wait has asked somebody. -/
theorem elect_awaits (hset : Settled leader replicas top a node) (now : Nat)
    (hbusy : (node.elect now).1.electionInProgress = true) :
    node.electionInProgress = true ∨ Awaits a (node.elect now).2 := by
  obtain ⟨hwas, -⟩ | ⟨-, heq⟩ | ⟨hsome, heq⟩ := elect_cases node now
  · exact .inl hwas
  · rw [heq, NodeRuntime.announced_electionInProgress] at hbusy
    cases hbusy
  · rw [heq]
    obtain ⟨peer, hpeer⟩ := List.exists_mem_of_ne_nil _ hsome
    refine .inr (.inl ⟨peer.2, node.id, ?_⟩)
    rw [← hset.address]
    exact List.mem_map_of_mem hpeer

theorem Effect.starts_awaits (hset : Settled leader replicas top a node)
    (he : Effect s a node l flight node' out) (hbusy : node'.electionInProgress = true) :
    node.electionInProgress = true ∨ Awaits a (flight ++ out) := by
  cases he with
  | starts now =>
    refine (elect_awaits hset now hbusy).imp_right fun h => ?_
    exact h.mono (fun _ _ hm => List.mem_append_right _ hm) fun _ hm => List.mem_append_right _ hm
  | asked k now candidateId candidateAddr hk =>
    refine (elect_awaits hset now hbusy).imp_right fun h => ?_
    exact h.mono (fun _ _ hm => List.mem_append_right _ (List.mem_cons_of_mem _ hm))
      fun _ hm => List.mem_append_right _ (List.mem_cons_of_mem _ hm)
  | answered k now responderId hk =>
    rw [node.electing_electionInProgress] at hbusy
    cases hbusy
  | follows k now leaderId leaderAddr hk hlt =>
    rw [node.follow_electionInProgress] at hbusy
    cases hbusy
  | keeps k now leaderId leaderAddr hk hlt =>
    rw [node.electing_electionInProgress] at hbusy
    cases hbusy
  | expires now hexp =>
    rw [NodeRuntime.announced_electionInProgress] at hbusy
    cases hbusy
  | waits now => exact .inl hbusy

theorem Awaited.step (h : Awaited s) (hinv : Inv leader replicas top s)
    (hs : s.step l = some s') : Awaited s' := by
  obtain ⟨a, node, flight, node', out, -, hnode, hset, he, rfl⟩ := hinv.step_cases hs
  intro b p hp hbusy
  by_cases hba : b = a
  · subst hba
    have hown : (some ⟨node', none⟩ : Option (Peer α)) = some p :=
      (Function.update_self b _ s.node).symm.trans hp
    obtain rfl := Option.some.inj hown
    obtain hwas | hnew := he.starts_awaits hset hbusy
    · exact he.awaits (h b _ hnode hwas) fun _ => hbusy
    · exact hnew
  · have hold : s.node b = some p := (Function.update_of_ne hba ..).symm.trans hp
    exact he.awaits (h b p hold hbusy) fun heq => absurd heq hba

theorem Standing.awaited (h : Standing s leader replicas) : Awaited s := by
  intro a p hp hbusy
  have ha : Member leader replicas a := by
    by_contra hno
    rw [h.nobody a hno] at hp
    cases hp
  obtain ⟨node, hnode, -, -, -, hidle, -⟩ := h.node a ha
  obtain rfl := Option.some.inj (hnode.symm.trans hp)
  rw [hidle] at hbusy
  cases hbusy

end Awaited

/-! ## When nothing is under way -/

section Ends

variable [AddrHash] {leader top : SocketAddr} {replicas : Keys SocketAddr} {s s' : Bully α}

/-- Nothing is under way and no member waits for anything. -/
structure Rested (leader : SocketAddr) (replicas : Keys SocketAddr) (s : Bully α) : Prop where
  flight : s.flight = []
  idle : ∀ a, Member leader replicas a → ∃ node, s.node a = some ⟨node, none⟩ ∧
    node.electionInProgress = false

/-- `top` leads and every other member follows it. -/
structure Led (leader : SocketAddr) (replicas : Keys SocketAddr) (top : SocketAddr)
    (s : Bully α) : Prop where
  leads : ∃ self, s.node top = some ⟨.leader self, none⟩
  follow : ∀ b, Member leader replicas b → b ≠ top →
    ∃ self, s.node b = some ⟨.replica self, none⟩ ∧ self.leaderAddr = top

theorem Inv.rested (h : Inv leader replicas top s) (hawaited : Awaited s)
    (hs : Stuck Bully.step Label.Delivers s) : Rested leader replicas s := by
  have hquiet := h.flight_of_stuck hs
  refine ⟨hquiet, fun a ha => ?_⟩
  obtain ⟨node, hnode, -⟩ := h.node a ha
  refine ⟨node, hnode, Bool.eq_false_iff.mpr fun hbusy => ?_⟩
  have hwait := hawaited a _ hnode hbusy
  rw [hquiet] at hwait
  rcases hwait with ⟨b, id, hm⟩ | ⟨id, hm⟩
  · cases hm
  · cases hm

theorem Inv.led (h : Inv leader replicas top s) (ht : IsTop leader replicas top)
    (hm : Moving leader replicas top s) (hquiet : s.flight = []) : Led leader replicas top s := by
  rcases hm with ⟨_, _, hm⟩ | hagreed
  · rw [hquiet] at hm
    cases hm
  · constructor
    · obtain ⟨p, hp, hleads⟩ := hagreed.leads
      obtain ⟨node, hnode, -⟩ := h.node top ht.member
      obtain rfl := Option.some.inj (hnode.symm.trans hp)
      cases node with
      | leader self => exact ⟨self, hnode⟩
      | replica self => cases hleads
    · intro b hb hne
      obtain ⟨node, hnode, -⟩ := h.node b hb
      rcases hagreed.told b hb hne with ⟨_, hm⟩ | ⟨p, hp, hfollows⟩
      · rw [hquiet] at hm
        cases hm
      · obtain rfl := Option.some.inj (hnode.symm.trans hp)
        cases node with
        | leader self => cases hfollows
        | replica self => exact ⟨self, hnode, Option.some.inj hfollows⟩

theorem awaited_run (h₀ : Standing s leader replicas) (ht : IsTop leader replicas top)
    {ls : List Label} (hc : Meets step Backed s ls) (hr : Lib.run step s ls = some s') :
    Inv leader replicas top s' ∧ Awaited s' :=
  run_induct_meets (P := fun s => Inv leader replicas top s ∧ Awaited s)
    (fun _ _ _ h hb hs => ⟨h.1.step ht hb hs, h.2.step h.1 hs⟩) hr hc ⟨h₀.inv top, h₀.awaited⟩

omit [AddrHash] in
theorem Label.Delivers.backed {l : Label} (hl : l.Delivers) (s : Bully α) : s.Backed l := by
  cases l with
  | deliver k now => trivial
  | _ => exact hl.elim

omit [AddrHash] in
theorem Label.Delivers.isCheck {l : Label} (hl : l.Delivers) : l.isCheck = false := by
  cases l with
  | deliver k now => rfl
  | _ => exact hl.elim

/-- **Elections end.** After a run whose expired checks find above their node only the
    greatest member, leading, the messages under way bound how many more can arrive, in
    whatever order they do. Then no member has panicked or waits for an answer, and where
    elections were started and none timed out, all members follow the greatest. -/
theorem elections_end (h₀ : Standing s leader replicas) {ls : List Label}
    (hc : Meets step Backed s ls) (hr : Lib.run step s ls = some s') :
    ∃ top, IsTop leader replicas top ∧
      Ends step Label.Delivers (fun t => Rested leader replicas t ∧
        ((∀ l ∈ ls, l.isCheck = false) → (∃ l ∈ ls, l.isStart = true) →
          Led leader replicas top t)) (s'.toDo leader replicas) s' := by
  obtain ⟨top, ht⟩ := h₀.exists_top
  obtain ⟨hinv, hawaited⟩ := awaited_run h₀ ht hc hr
  have htimely : (∀ l ∈ ls, l.isCheck = false) → (∃ l ∈ ls, l.isStart = true) →
      Timely leader replicas top s' ∧ Moving leader replicas top s' := fun hls hstart => by
    obtain ⟨h, hmoves⟩ := timely_run h₀.timely ht hls hr
    exact ⟨h, hmoves (.inr hstart)⟩
  refine ⟨top, ht, ends_of_measure (P := fun t => Inv leader replicas top t ∧ Awaited t ∧
      ((∀ l ∈ ls, l.isCheck = false) → (∃ l ∈ ls, l.isStart = true) →
        Timely leader replicas top t ∧ Moving leader replicas top t))
    (μ := fun t => t.toDo leader replicas) ?_ ?_ ⟨hinv, hawaited, htimely⟩⟩
  · rintro t l t' ⟨h, haw, htm⟩ hl hs
    refine ⟨⟨h.step ht (hl.backed t) hs, haw.step h hs, fun hls hstart => ?_⟩, h.toDo hl hs⟩
    obtain ⟨htime, hmoving⟩ := htm hls hstart
    obtain ⟨htime', hmoves⟩ := htime.step ht hl.isCheck hs
    exact ⟨htime', hmoves (.inl hmoving)⟩
  · rintro t ⟨h, haw, htm⟩ hstuck
    have hrest := h.rested haw hstuck
    exact ⟨hrest, fun hls hstart => h.led ht (htm hls hstart).2 hrest.flight⟩

end Ends

/-! ## Three nodes -/

section Example

local instance settlingHash : AddrHash := localHash

theorem bully_ports_nodup : [localAddr 5000, localAddr 5002].Nodup := by decide

/-- The leader has the lowest id of the three and asks both replicas. -/
theorem elections_end_example :
    ∃ (s : Bully Nat) (top : SocketAddr),
      Lib.run step (stand (localAddr 5001) [localAddr 5000, localAddr 5002])
        [.start (localAddr 5001) 0] = some s ∧ s.flight ≠ [] ∧
      Ends step Label.Delivers (fun t => t.flight = [] ∧ Led (localAddr 5001)
        ⟨[localAddr 5000, localAddr 5002], bully_ports_nodup⟩ top t) 30 s := by
  have hrun : (Lib.run step (stand (α := Nat) (localAddr 5001) [localAddr 5000, localAddr 5002])
      [.start (localAddr 5001) 0]).any (fun s => decide (s.flight.isEmpty = false ∧
        s.toDo (localAddr 5001) ⟨[localAddr 5000, localAddr 5002], bully_ports_nodup⟩ = 30)) =
      true := by
    decide +kernel
  obtain ⟨s, hs, hdo⟩ := (Option.any_eq_true _ _).mp hrun
  obtain ⟨hflight, hdo⟩ := of_decide_eq_true hdo
  have hstand : Standing (stand (α := Nat) (localAddr 5001) [localAddr 5000, localAddr 5002])
      (localAddr 5001) ⟨[localAddr 5000, localAddr 5002], bully_ports_nodup⟩ :=
    stand_standing (by decide +kernel) _
  have hbacked : Meets step Backed (stand (α := Nat) (localAddr 5001)
      [localAddr 5000, localAddr 5002]) [.start (localAddr 5001) 0] := by
    decide +kernel
  obtain ⟨top, -, hends⟩ := elections_end hstand hbacked hs
  rw [hdo] at hends
  refine ⟨s, top, hs, fun hnil => ?_, ?_⟩
  · rw [hnil] at hflight
    cases hflight
  · exact hends.imp fun t ht => ⟨ht.1.flight, ht.2 (by decide) (by decide)⟩

end Example

end YpfRuta.Cluster.Bully
