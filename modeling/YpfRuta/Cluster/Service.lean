/-
  Every request is served. What is left to do in a steady run is measured in messages and
  database results, and each of them takes it down; when nothing is left, every request has
  been executed by the leader and answered, and logged by all replicas.
-/
import YpfRuta.Cluster.Effects

namespace YpfRuta.Cluster

open Server Lib

variable {α : Type}

/-! ## What is left to do -/

/-- What a message can still set off, with `k` replicas: a request goes to every replica, a
    log entry ends in an ack, an ack may let a command go, and a command in a response. -/
def cost (k : Nat) : Message α → Nat
  | .request .. => 5 * k + 1
  | .log .. => 5
  | .ack _ => 3
  | .response .. => 1
  | _ => 0

def load (k : Nat) : List (Message α) → Nat
  | [] => 0
  | m :: msgs => cost k m + load k msgs

theorem load_append (k : Nat) (xs ys : List (Message α)) :
    load k (xs ++ ys) = load k xs + load k ys := by
  induction xs with
  | nil => exact (Nat.zero_add _).symm
  | cons m xs ih =>
    rw [List.cons_append, load, load, ih]
    omega

def isRequest : Message α → Bool
  | .request .. => true
  | _ => false

/-- The commands the database of `a` has not answered. -/
def waiting : Option (NodeState α) → Nat
  | some r => r.outstanding.length
  | none => 0

/-- What is left to do at one of `k` replicas. -/
def share (k : Nat) (down up : List (Message α)) (r : Option (NodeState α)) : Nat :=
  load k down + load k up + 4 * waiting r

section Sums

variable (leader : SocketAddr) (replicas : Keys SocketAddr)

/-- A sum over the replicas, of what is under way to and from each and of its node. -/
def overReplicas (f : List (Message α) → List (Message α) → Option (NodeState α) → Nat)
    (s : State α) : Nat :=
  replicas.sum fun i => f (s.link leader i) (s.link i leader) (s.node i)

/-- What is left to do between the leader and the replicas. -/
def State.toDo (s : State α) : Nat :=
  2 * waiting (s.node leader) + overReplicas leader replicas (share replicas.toList.length) s

/-- The requests under way to the leader. -/
def State.queued (s : State α) : Nat :=
  overReplicas leader replicas (fun _ up _ => up.countP isRequest) s

end Sums

/-! ## Sums after a turn -/

section Acts

variable {leader a : SocketAddr} {replicas : Keys SocketAddr} {s s' : State α} {n' : NodeState α}
  {link : SocketAddr → SocketAddr → List (Message α)} {sent : List (SocketAddr × Message α)}
  {f : List (Message α) → List (Message α) → Option (NodeState α) → Nat}

theorem Acts.node_self (h : Acts s s' a n' link sent) : s'.node a = some n' := by
  rw [h.node, Function.update_self]

theorem Acts.node_ne (h : Acts s s' a n' link sent) {b : SocketAddr} (hb : b ≠ a) :
    s'.node b = s.node b := by
  rw [h.node, Function.update_of_ne hb]

theorem Acts.link_self (h : Acts s s' a n' link sent) (dst : SocketAddr) :
    s'.link a dst = link a dst ++ sentTo dst sent :=
  (h.link a dst).trans (if_pos rfl)

theorem Acts.link_ne (h : Acts s s' a n' link sent) {src : SocketAddr} (hsrc : src ≠ a)
    (dst : SocketAddr) : s'.link src dst = link src dst :=
  (h.link src dst).trans (if_neg hsrc)

theorem setLink_same (s : State α) (src dst : SocketAddr) (msgs : List (Message α)) :
    (s.setLink src dst msgs).link src dst = msgs :=
  if_pos ⟨rfl, rfl⟩

theorem setLink_ne (s : State α) {src dst a b : SocketAddr} (msgs : List (Message α))
    (h : ¬ (a = src ∧ b = dst)) : (s.setLink src dst msgs).link a b = s.link a b :=
  if_neg h

/-- **A turn of replica `a`** changes its own part of a sum. -/
theorem Acts.replica_sum (h : Acts s s' a n' link sent) (ha : a ∈ replicas) (hne : a ≠ leader)
    (hother : ∀ j, j ≠ a → link leader j = s.link leader j ∧ link j leader = s.link j leader) :
    overReplicas leader replicas f s' + f (s.link leader a) (s.link a leader) (s.node a) =
      overReplicas leader replicas f s +
        f (link leader a) (link a leader ++ sentTo leader sent) (some n') := by
  have hchange := Keys.sum_change ha
    (f := fun i => f (s.link leader i) (s.link i leader) (s.node i))
    (g := fun i => f (s'.link leader i) (s'.link i leader) (s'.node i)) fun j hj => by
      rw [h.link_ne hne.symm, h.link_ne hj, h.node_ne hj, (hother j hj).1, (hother j hj).2]
  rw [h.link_ne hne.symm, h.link_self, h.node_self] at hchange
  exact hchange

/-- **A turn of the leader** changes what is under way to every replica. -/
theorem Acts.leader_sum (h : Acts s s' leader n' link sent) (hap : ¬ leader ∈ replicas) :
    overReplicas leader replicas f s' = replicas.sum fun i =>
      f (link leader i ++ sentTo i sent) (link i leader) (s.node i) := by
  refine Keys.sum_congr fun i hi => ?_
  have hne : i ≠ leader := fun he => hap (he ▸ hi)
  rw [h.link_self, h.link_ne hne, h.node_ne hne]

/-- One message of replica `i` fewer. -/
theorem sum_pop {i : SocketAddr} (hi : i ∈ replicas) (hne : i ≠ leader) (up : List (Message α)) :
    (replicas.sum fun j => f ((s.setLink i leader up).link leader j)
        ((s.setLink i leader up).link j leader) (s.node j)) +
        f (s.link leader i) (s.link i leader) (s.node i) =
      overReplicas leader replicas f s + f (s.link leader i) up (s.node i) := by
  have hdown : ∀ j, (s.setLink i leader up).link leader j = s.link leader j :=
    fun j => setLink_ne s up fun hc => hne hc.1.symm
  have hchange := Keys.sum_change hi
    (f := fun j => f (s.link leader j) (s.link j leader) (s.node j))
    (g := fun j => f ((s.setLink i leader up).link leader j)
      ((s.setLink i leader up).link j leader) (s.node j)) fun j hj => by
      rw [hdown, setLink_ne s up fun hc => hj hc.1]
  rw [hdown, setLink_same] at hchange
  exact hchange

end Acts

/-! ## Every delivery and every result is progress -/

section Progress

variable [AddrHash] {leader : SocketAddr} {replicas : Keys SocketAddr} {s s' : State α}
  {n n' : NodeState α} {lead : Leader α} {l : Label α}

omit [AddrHash] in
theorem completes_length (lead : Leader α) (m : OpId) : (completes lead m).length ≤ 1 := by
  unfold completes
  split
  · split <;> simp
  · simp

omit [AddrHash] in
theorem sum_const (ks : Keys SocketAddr) (c : Nat) :
    (ks.sum fun _ => c) = c * ks.toList.length := by
  simp [Keys.sum, Nat.mul_comm]

omit [AddrHash] in
theorem sum_silent (replicas : Keys SocketAddr) (k : Nat) :
    (replicas.sum fun i => load k (sentTo i ([] : List (SocketAddr × Message α)))) = 0 :=
  Keys.sum_eq_zero fun _ _ => rfl

omit [AddrHash] in
/-- One message to one address is under way to one replica at most. -/
theorem sum_single_le (replicas : Keys SocketAddr) (k : Nat) (addr : SocketAddr)
    (msg : Message α) :
    (replicas.sum fun i => load k (sentTo i [(addr, msg)])) ≤ cost k msg := by
  have hother : ∀ i, i ≠ addr → load k (sentTo i [(addr, msg)]) = 0 := by
    intro i hi
    rw [sentTo_singleton, if_neg (Ne.symm hi)]
    rfl
  by_cases ha : addr ∈ replicas
  · rw [Keys.sum_single ha hother, sentTo_singleton, if_pos rfl]
    exact Nat.le_refl _
  · rw [Keys.sum_eq_zero fun i hi => hother i fun he => ha (he ▸ hi)]
    exact Nat.zero_le _

/-- A message to everybody is under way to every replica. -/
theorem Inv.sum_broadcast (h : Inv leader replicas s n lead) (k : Nat) (msg : Message α) :
    (replicas.sum fun i => load k (sentTo i (lead.peers.map fun a => (a, msg)))) =
      cost k msg * replicas.toList.length := by
  rw [← sum_const]
  refine Keys.sum_congr fun i hi => ?_
  rw [h.lead.broadcast h.apart, if_pos hi]
  rfl

omit [AddrHash] in
/-- A message of a replica that is gone is off the sum. -/
theorem share_pop {i : SocketAddr} (hi : i ∈ replicas) (hne : i ≠ leader) {msg : Message α}
    {up : List (Message α)} (hup : s.link i leader = msg :: up) (k : Nat) :
    (replicas.sum fun j => share k ((s.setLink i leader up).link leader j)
        ((s.setLink i leader up).link j leader) (s.node j)) + cost k msg =
      overReplicas leader replicas (share k) s := by
  have hpop := sum_pop (s := s) (f := share k) hi hne up
  rw [hup] at hpop
  simp only [share, load] at hpop ⊢
  omega

omit [AddrHash] in
/-- A turn of the leader adds what it sends. -/
theorem Acts.leader_share {link : SocketAddr → SocketAddr → List (Message α)}
    {sent : List (SocketAddr × Message α)} (ha : Acts s s' leader n' link sent)
    (hap : ¬ leader ∈ replicas) (k : Nat) :
    overReplicas leader replicas (share k) s' =
      (replicas.sum fun i => share k (link leader i) (link i leader) (s.node i)) +
        replicas.sum fun i => load k (sentTo i sent) := by
  rw [ha.leader_sum hap, ← Keys.sum_add]
  refine Keys.sum_congr fun i _ => ?_
  simp only [share, load_append]
  omega

/-- **A delivery or a result takes the work down.** -/
theorem Does.toDo (h : Inv leader replicas s n lead) (hd : Does leader replicas s n lead l s' n')
    (hl : l.asks = false) : s'.toDo leader replicas + 1 ≤ s.toDo leader replicas := by
  have hne : ∀ i ∈ replicas, i ≠ leader := fun i hi he => h.apart (he ▸ hi)
  have hpopDown : ∀ i down, ∀ j, j ≠ i → (s.setLink leader i down).link leader j = s.link leader j ∧
      (s.setLink leader i down).link j leader = s.link j leader := by
    intro i down j hj
    exact ⟨setLink_ne s down fun hc => hj hc.2, setLink_ne s down fun hc => hj (hc.1.trans hc.2)⟩
  have hkeepUp : ∀ i ∈ replicas, ∀ down,
      (s.setLink leader i down).link i leader = s.link i leader :=
    fun i hi down => setLink_ne s down fun hc => hne i hi hc.1
  have hn := h.node
  unfold State.toDo
  generalize hk : replicas.toList.length = k
  cases hd with
  | forwards hasks => exact absurd (hasks.symm.trans hl) (by decide)
  | assigns hlink ha hassigned hexec hout hans hacks hfrom =>
    obtain ⟨hasks, -⟩ | ⟨-, i, hi, up, hup, rfl⟩ := hlink
    · exact absurd (hasks.symm.trans hl) (by decide)
    · -- the request is gone, and every replica gets an entry
      have hpop := share_pop hi (hne i hi) hup k
      have hsum := ha.leader_share h.apart k
      rw [h.sum_broadcast, hk] at hsum
      rw [ha.node_self, hn, hsum]
      simp only [cost, waiting, hout] at hpop ⊢
      omega
  | counts hasks hi hup ha hassigned hexec hout hans hacks =>
    rename_i i m up
    -- the ack is gone, and a command may have been let go
    have hpop := share_pop hi (hne i hi) hup k
    have hsum := ha.leader_share h.apart k
    have hone := completes_length lead m
    rw [sum_silent] at hsum
    rw [ha.node_self, hn, hsum]
    simp only [cost, waiting, hout, List.length_append] at hpop ⊢
    omega
  | answers hasks hk' ha hsent hassigned hexec hout hans hid hacks hreply =>
    rename_i k' e a sent
    have hsum := ha.leader_share h.apart k
    have hle : (replicas.sum fun j => load k (sentTo j sent)) ≤ 1 := by
      obtain rfl | ⟨addr, reqId, r, -, rfl⟩ := hsent
      · rw [sum_silent]
        exact Nat.zero_le _
      · exact sum_single_le replicas k addr (.response reqId r)
    have hlt := (List.getElem?_eq_some_iff.mp hk').1
    rw [ha.node_self, hn, hsum, waiting, waiting, hout, List.length_eraseIdx_of_lt hlt]
    show 2 * (n.outstanding.length - 1) + (overReplicas leader replicas (share k) s + _) + 1 ≤ _
    omega
  | responds hasks hi hr hdown ha hlogged hout haddr =>
    rename_i i r r' reqId res down
    have hsum := ha.replica_sum (f := share k) hi (hne i hi) (hpopDown i down)
    rw [setLink_same, hkeepUp i hi, hdown, hr] at hsum
    rw [ha.node_ne (hne i hi).symm]
    simp only [share, load, cost, waiting, hout, sentTo_nil, List.append_nil] at hsum ⊢
    omega
  | logs hasks hi hr hdown ha hlogged hout hacked haddr =>
    rename_i i r r' opId op down sent cmds
    have hsum := ha.replica_sum (f := share k) hi (hne i hi) (hpopDown i down)
    rw [setLink_same, hkeepUp i hi, hdown, hr] at hsum
    rw [ha.node_ne (hne i hi).symm]
    obtain ⟨rfl, rfl⟩ | ⟨rfl, prev, rfl⟩ := hacked
    · simp only [share, load, load_append, cost, waiting, hout, sentTo_singleton, if_pos,
        List.append_nil] at hsum ⊢
      omega
    · simp only [share, load, cost, waiting, hout, sentTo_nil, List.append_nil,
        List.length_append, List.length_singleton] at hsum ⊢
      omega
  | acks hasks hi hr hk' ha hsent hlogged hout haddr =>
    rename_i i r r' k' e sent
    have hsum := ha.replica_sum (f := share k) hi (hne i hi) fun _ _ => ⟨rfl, rfl⟩
    have hlt := (List.getElem?_eq_some_iff.mp hk').1
    have hle : load k (sentTo leader sent) ≤ 3 := by
      obtain rfl | ⟨rfl, -⟩ := hsent
      · rw [sentTo_singleton, if_pos rfl]
        exact Nat.le_refl _
      · exact Nat.zero_le _
    rw [hr] at hsum
    rw [ha.node_ne (hne i hi).symm]
    simp only [share, load_append, waiting, hout, List.length_eraseIdx_of_lt hlt] at hsum ⊢
    omega

/-! ## The books of the requests -/

/-- What `asked` requests have come to. -/
structure Booked (leader : SocketAddr) (replicas : Keys SocketAddr) (asked : Nat) (s : State α)
    (n : NodeState α) : Prop where
  awake : ∀ a r, s.node a = some r → r.down = r.fault.isSome
  plain : ∀ q ∈ n.assigned, NoSnapshot q.2.op
  queued : ∀ i ∈ replicas, ∀ reqId op addr,
    .request reqId op addr ∈ s.link i leader → NoSnapshot op
  acks : ∀ i ∈ replicas, ∀ r, s.node i = some r → ∀ m,
    r.logs m ≤ n.acksFrom i m + acksIn (s.link i leader) m + r.owed m
  asked : n.assigned.length + s.queued leader replicas = asked
  answered : ∀ e ∈ n.executed, e ∈ n.outstanding ∨ ∃ a ∈ n.answers, a.opId = e.1

omit [AddrHash] in
theorem Acts.awake {a : SocketAddr} {link : SocketAddr → SocketAddr → List (Message α)}
    {sent : List (SocketAddr × Message α)} (ha : Acts s s' a n' link sent)
    (h : ∀ b r, s.node b = some r → r.down = r.fault.isSome) :
    ∀ b r, s'.node b = some r → r.down = r.fault.isSome := by
  intro b r hr
  by_cases hb : b = a
  · subst hb
    obtain rfl : n' = r := Option.some.inj (ha.node_self.symm.trans hr)
    exact ha.down
  · rw [ha.node_ne hb] at hr
    exact h b r hr

omit [AddrHash] in
/-- Nodes stop only when they fault. -/
theorem Does.awake (hd : Does leader replicas s n lead l s' n')
    (h : ∀ b r, s.node b = some r → r.down = r.fault.isSome) :
    ∀ b r, s'.node b = some r → r.down = r.fault.isSome := by
  cases hd with
  | forwards hasks hi hr ha hop hlogged hout haddr hfrom => exact ha.awake h
  | assigns hlink ha hassigned hexec hout hans hacks hfrom => exact ha.awake h
  | counts hasks hi hup ha hassigned hexec hout hans hacks => exact ha.awake h
  | answers hasks hk ha hsent hassigned hexec hout hans hid hacks hreply => exact ha.awake h
  | responds hasks hi hr hdown ha hlogged hout haddr => exact ha.awake h
  | logs hasks hi hr hdown ha hlogged hout hacked haddr => exact ha.awake h
  | acks hasks hi hr hk ha hsent hlogged hout haddr => exact ha.awake h

omit [AddrHash] in
/-- The operations with an id are plain. -/
theorem Does.plain (hd : Does leader replicas s n lead l s' n') (hl : l.NoSnapshot)
    (hplain : ∀ q ∈ n.assigned, NoSnapshot q.2.op)
    (hqueued : ∀ i ∈ replicas, ∀ reqId op addr,
      .request reqId op addr ∈ s.link i leader → NoSnapshot op) :
    ∀ q ∈ n'.assigned, NoSnapshot q.2.op := by
  cases hd with
  | assigns hlink ha hassigned hexec hout hans hacks hfrom =>
    intro q hq
    rw [hassigned] at hq
    obtain hq | hq := List.mem_append.mp hq
    · exact hplain q hq
    · obtain rfl := List.mem_singleton.mp hq
      obtain ⟨-, -, hop⟩ | ⟨-, i, hi, up, hup, -⟩ := hlink
      · exact hop hl
      · exact hqueued i hi _ _ _ (by rw [hup]; exact List.mem_cons_self)
  | counts hasks hi hup ha hassigned hexec hout hans hacks =>
    rw [hassigned]
    exact hplain
  | answers hasks hk ha hsent hassigned hexec hout hans hid hacks hreply =>
    rw [hassigned]
    exact hplain
  | _ => exact hplain

omit [AddrHash] in
/-- What `j` has under way to the leader after a turn of `a`. -/
theorem Acts.uplink {a : SocketAddr} {link : SocketAddr → SocketAddr → List (Message α)}
    {sent : List (SocketAddr × Message α)} (ha : Acts s s' a n' link sent) (j : SocketAddr) :
    s'.link j leader = link j leader ++ if j = a then sentTo leader sent else [] := by
  by_cases hj : j = a
  · subst hj
    rw [ha.link_self, if_pos rfl]
  · rw [ha.link_ne hj, if_neg hj, List.append_nil]

omit [AddrHash] in
/-- With one message gone, what is under way was under way before. -/
theorem mem_setLink {a b c d : SocketAddr} {up : List (Message α)} {msg m : Message α}
    (hup : s.link a b = msg :: up) (hm : m ∈ (s.setLink a b up).link c d) : m ∈ s.link c d := by
  by_cases hcd : c = a ∧ d = b
  · obtain ⟨rfl, rfl⟩ := hcd
    rw [setLink_same] at hm
    rw [hup]
    exact List.mem_cons_of_mem _ hm
  · rwa [setLink_ne s up hcd] at hm

/-- **The requests under way.** What holds of them goes on holding if it holds of the one that
    a replica passes on. -/
theorem Does.waiting {P : ReqId → Operation α → SocketAddr → Prop}
    (h : Inv leader replicas s n lead) (hd : Does leader replicas s n lead l s' n')
    (hnew : ∀ i ∈ replicas, ∀ r, s.node i = some r → ∀ reqId op addr,
      (l.NoSnapshot → NoSnapshot op) →
      (∃ dst, l = .request dst reqId op addr) ∨ addr = r.runtime.address → P reqId op addr)
    (hqueued : ∀ i ∈ replicas, ∀ reqId op addr,
      .request reqId op addr ∈ s.link i leader → P reqId op addr) :
    ∀ i ∈ replicas, ∀ reqId op addr, .request reqId op addr ∈ s'.link i leader →
      P reqId op addr := by
  have hne : ∀ i ∈ replicas, i ≠ leader := fun i hi he => h.apart (he ▸ hi)
  intro j hj reqId op addr hmem
  cases hd with
  | forwards hasks hi hr ha hop hlogged hout haddr hfrom =>
    rename_i i r r' reqId' op' addr'
    rw [ha.uplink, List.mem_append] at hmem
    obtain hmem | hmem := hmem
    · exact hqueued j hj _ _ _ hmem
    · by_cases hji : j = i
      · rw [if_pos hji, sentTo_singleton, if_pos rfl, List.mem_singleton] at hmem
        cases hmem
        exact hnew i hi r hr _ _ _ hop hfrom
      · rw [if_neg hji] at hmem
        cases hmem
  | assigns hlink ha hassigned hexec hout hans hacks hfrom =>
    rw [ha.uplink, if_neg (hne j hj), List.append_nil] at hmem
    obtain ⟨-, rfl, -⟩ | ⟨-, i, hi, up, hup, rfl⟩ := hlink
    · exact hqueued j hj _ _ _ hmem
    · exact hqueued j hj _ _ _ (mem_setLink hup hmem)
  | counts hasks hi hup ha hassigned hexec hout hans hacks =>
    rw [ha.uplink, if_neg (hne j hj), List.append_nil] at hmem
    exact hqueued j hj _ _ _ (mem_setLink hup hmem)
  | answers hasks hk ha hsent hassigned hexec hout hans hid hacks hreply =>
    rw [ha.uplink, if_neg (hne j hj), List.append_nil] at hmem
    exact hqueued j hj _ _ _ hmem
  | responds hasks hi hr hdown ha hlogged hout haddr =>
    rw [ha.uplink, sentTo_nil, ite_self, List.append_nil] at hmem
    exact hqueued j hj _ _ _ (mem_setLink hdown hmem)
  | logs hasks hi hr hdown ha hlogged hout hacked haddr =>
    rename_i i r r' opId op' down sent cmds
    rw [ha.uplink, List.mem_append] at hmem
    obtain hmem | hmem := hmem
    · exact hqueued j hj _ _ _ (mem_setLink hdown hmem)
    · obtain ⟨rfl, -⟩ | ⟨rfl, -⟩ := hacked
      · by_cases hji : j = i
        · rw [if_pos hji, sentTo_singleton, if_pos rfl, List.mem_singleton] at hmem
          cases hmem
        · rw [if_neg hji] at hmem
          cases hmem
      · rw [sentTo_nil, ite_self] at hmem
        cases hmem
  | acks hasks hi hr hk ha hsent hlogged hout haddr =>
    rename_i i r r' k e sent
    rw [ha.uplink, List.mem_append] at hmem
    obtain hmem | hmem := hmem
    · exact hqueued j hj _ _ _ hmem
    · obtain rfl | ⟨rfl, -⟩ := hsent
      · by_cases hji : j = i
        · rw [if_pos hji, sentTo_singleton, if_pos rfl, List.mem_singleton] at hmem
          cases hmem
        · rw [if_neg hji] at hmem
          cases hmem
      · rw [sentTo_nil, ite_self] at hmem
        cases hmem

/-- The requests under way are plain. -/
theorem Does.queued (h : Inv leader replicas s n lead) (hd : Does leader replicas s n lead l s' n')
    (hl : l.NoSnapshot) (hqueued : ∀ i ∈ replicas, ∀ reqId op addr,
      .request reqId op addr ∈ s.link i leader → NoSnapshot op) :
    ∀ i ∈ replicas, ∀ reqId op addr, .request reqId op addr ∈ s'.link i leader → NoSnapshot op :=
  hd.waiting (P := fun _ op _ => NoSnapshot op) h (fun _ _ _ _ _ _ _ hop _ => hop hl) hqueued

omit [AddrHash] in
/-- What the leader has sent its database it waits for, or has answered. -/
theorem Does.answered (hd : Does leader replicas s n lead l s' n')
    (h : ∀ e ∈ n.executed, e ∈ n.outstanding ∨ ∃ a ∈ n.answers, a.opId = e.1) :
    ∀ e ∈ n'.executed, e ∈ n'.outstanding ∨ ∃ a ∈ n'.answers, a.opId = e.1 := by
  cases hd with
  | assigns hlink ha hassigned hexec hout hans hacks hfrom =>
    rw [hexec, hout, hans]
    exact h
  | counts hasks hi hup ha hassigned hexec hout hans hacks =>
    rw [hexec, hout, hans]
    intro e he
    obtain he | he := List.mem_append.mp he
    · exact (h e he).imp_left (List.mem_append_left _)
    · exact Or.inl (List.mem_append_right _ he)
  | answers hasks hk ha hsent hassigned hexec hout hans hid hacks hreply =>
    rename_i k e a sent
    rw [hexec, hout, hans]
    intro f hf
    obtain hf | ⟨b, hb, hbf⟩ := h f hf
    · -- it is the one answered now, or still waited for
      obtain ⟨hlt, rfl⟩ := List.getElem?_eq_some_iff.mp hk
      have hperm := List.getElem_cons_eraseIdx_perm hlt
      obtain rfl | hf := List.mem_cons.mp (hperm.mem_iff.mpr hf)
      · exact Or.inr ⟨a, List.mem_append_right _ List.mem_cons_self, hid⟩
      · exact Or.inl hf
    · exact Or.inr ⟨b, List.mem_append_left _ hb, hbf⟩
  | _ => exact h

/-- Every request is under way or has an id. -/
theorem Does.asked (h : Inv leader replicas s n lead) (hd : Does leader replicas s n lead l s' n') :
    n'.assigned.length + s'.queued leader replicas =
      n.assigned.length + s.queued leader replicas + if l.asks then 1 else 0 := by
  have hne : ∀ i ∈ replicas, i ≠ leader := fun i hi he => h.apart (he ▸ hi)
  have hpopDown : ∀ i down, ∀ j, j ≠ i → (s.setLink leader i down).link leader j = s.link leader j ∧
      (s.setLink leader i down).link j leader = s.link j leader := by
    intro i down j hj
    exact ⟨setLink_ne s down fun hc => hj hc.2, setLink_ne s down fun hc => hj (hc.1.trans hc.2)⟩
  have hkeepUp : ∀ i ∈ replicas, ∀ down,
      (s.setLink leader i down).link i leader = s.link i leader :=
    fun i hi down => setLink_ne s down fun hc => hne i hi hc.1
  unfold State.queued
  cases hd with
  | forwards hasks hi hr ha hop hlogged hout haddr hfrom =>
    rename_i i r r' reqId op addr
    have hsum := ha.replica_sum (f := fun _ up _ => up.countP isRequest) hi (hne i hi)
      fun _ _ => ⟨rfl, rfl⟩
    simp only [sentTo_singleton, if_pos, List.countP_append, List.countP_singleton,
      isRequest] at hsum
    rw [hasks, if_pos rfl]
    omega
  | assigns hlink ha hassigned hexec hout hans hacks hfrom =>
    rw [ha.leader_sum h.apart, hassigned, List.length_append, List.length_singleton]
    obtain ⟨hasks, rfl, -⟩ | ⟨hasks, i, hi, up, hup, rfl⟩ := hlink
    · rw [hasks, if_pos rfl, Nat.add_right_comm]
      rfl
    · have hpop := sum_pop (s := s) (f := fun _ up _ => up.countP isRequest) hi (hne i hi) up
      rw [hup, List.countP_cons_of_pos rfl] at hpop
      rw [hasks, if_neg Bool.false_ne_true]
      omega
  | counts hasks hi hup ha hassigned hexec hout hans hacks =>
    rename_i i m up
    have hpop := sum_pop (s := s) (f := fun _ up _ => up.countP isRequest) hi (hne i hi) up
    rw [hup, List.countP_cons_of_neg Bool.false_ne_true] at hpop
    rw [ha.leader_sum h.apart, hassigned, hasks, if_neg Bool.false_ne_true]
    omega
  | answers hasks hk ha hsent hassigned hexec hout hans hid hacks hreply =>
    rw [ha.leader_sum h.apart, hassigned, hasks, if_neg Bool.false_ne_true]
    rfl
  | responds hasks hi hr hdown ha hlogged hout haddr =>
    rename_i i r r' reqId res down
    have hsum := ha.replica_sum (f := fun _ up _ => up.countP isRequest) hi (hne i hi)
      (hpopDown i down)
    rw [hkeepUp i hi, sentTo_nil, List.append_nil] at hsum
    rw [hasks, if_neg Bool.false_ne_true]
    omega
  | logs hasks hi hr hdown ha hlogged hout hacked haddr =>
    rename_i i r r' opId op down sent cmds
    have hsum := ha.replica_sum (f := fun _ up _ => up.countP isRequest) hi (hne i hi)
      (hpopDown i down)
    have hzero : (sentTo leader sent).countP isRequest = 0 := by
      obtain ⟨rfl, -⟩ | ⟨rfl, -⟩ := hacked
      · rw [sentTo_singleton, if_pos rfl]
        rfl
      · rfl
    rw [hkeepUp i hi, List.countP_append, hzero] at hsum
    rw [hasks, if_neg Bool.false_ne_true]
    omega
  | acks hasks hi hr hk ha hsent hlogged hout haddr =>
    rename_i i r r' k e sent
    have hsum := ha.replica_sum (f := fun _ up _ => up.countP isRequest) hi (hne i hi)
      fun _ _ => ⟨rfl, rfl⟩
    have hzero : (sentTo leader sent).countP isRequest = 0 := by
      obtain rfl | ⟨rfl, -⟩ := hsent
      · rw [sentTo_singleton, if_pos rfl]
        rfl
      · rfl
    rw [List.countP_append, hzero] at hsum
    rw [hasks, if_neg Bool.false_ne_true]
    omega

omit [AddrHash] in
/-- A turn of `a` leaves another node and what it has under way to the leader alone. -/
theorem Acts.apart {a j : SocketAddr} {link : SocketAddr → SocketAddr → List (Message α)}
    {sent : List (SocketAddr × Message α)} (ha : Acts s s' a n' link sent) (hj : j ≠ a)
    (hlink : link j leader = s.link j leader) :
    s'.node j = s.node j ∧ s'.link j leader = s.link j leader := by
  refine ⟨ha.node_ne hj, ?_⟩
  rw [ha.uplink, if_neg hj, List.append_nil, hlink]

omit [AddrHash] in
/-- A turn of replica `i` adds what it sends to the leader. -/
theorem Acts.own {i : SocketAddr} {link : SocketAddr → SocketAddr → List (Message α)}
    {sent : List (SocketAddr × Message α)} (ha : Acts s s' i n' link sent)
    (hlink : link i leader = s.link i leader) (m : OpId) :
    acksIn (s'.link i leader) m = acksIn (s.link i leader) m + acksIn (sentTo leader sent) m := by
  rw [ha.uplink, if_pos rfl, acksIn_append, hlink]

omit [AddrHash] in
theorem acksIn_ack (opId m : OpId) (addr : SocketAddr) :
    acksIn (sentTo addr [(addr, (.ack opId : Message α))]) m = if opId = m then 1 else 0 := by
  rw [sentTo_singleton, if_pos rfl]
  by_cases hm : opId = m <;> simp [acksIn, isAck, hm]

omit [AddrHash] in
theorem logs_of_logged {r r' : NodeState α} (h : r'.logged = r.logged) (m : OpId) :
    r'.logs m = r.logs m := by
  unfold NodeState.logs
  rw [h]

omit [AddrHash] in
theorem owed_of_outstanding {r r' : NodeState α} (h : r'.outstanding = r.outstanding) (m : OpId) :
    r'.owed m = r.owed m := by
  unfold NodeState.owed
  rw [h]

/-- The next entry on its way to a replica has the next number. -/
theorem Inv.next_logged (h : Inv leader replicas s n lead) {i : SocketAddr} (hi : i ∈ replicas)
    {r : NodeState α} (hr : s.node i = some r) {opId : OpId} {op : Operation α}
    {down : List (Message α)} (hdown : s.link leader i = .log opId op :: down) :
    opId.toNat = r.logged.length + 1 := by
  obtain ⟨r', rep, hr', hrep⟩ := h.replica i hi
  obtain rfl : r' = r := Option.some.inj (hr'.symm.trans hr)
  have hflow : r'.logged ++ (opId, op) :: logsOf down = n.log := by
    have hflow := hrep.flow
    rwa [hdown] at hflow
  have hnum := h.lead.log_numbered
  rw [← hflow] at hnum
  exact hnum.next

/-- What a replica's database works on is plain when all operations are. -/
theorem Inv.plain_outstanding (h : Inv leader replicas s n lead)
    (hplain : ∀ q ∈ n.assigned, NoSnapshot q.2.op) {i : SocketAddr} (hi : i ∈ replicas)
    {r : NodeState α} (hr : s.node i = some r) {e : OpId × Operation α}
    (he : e ∈ r.outstanding) : NoSnapshot e.2 := by
  obtain ⟨r', rep, hr', hrep⟩ := h.replica i hi
  obtain rfl : r' = r := Option.some.inj (hr'.symm.trans hr)
  have hexec := hrep.outstanding e he
  rw [hrep.executed] at hexec
  have hlog : e ∈ n.log := hrep.flow ▸ List.mem_append_left _ (List.mem_of_mem_dropLast hexec)
  obtain ⟨q, hq, hop⟩ := mem_log.mp hlog
  exact hop ▸ hplain _ hq

/-- Every entry a replica has logged is acked, or going to be. -/
theorem Does.acked (h : Inv leader replicas s n lead) (hd : Does leader replicas s n lead l s' n')
    (hplain : ∀ q ∈ n.assigned, NoSnapshot q.2.op)
    (hacked : ∀ i ∈ replicas, ∀ r, s.node i = some r → ∀ m,
      r.logs m ≤ n.acksFrom i m + acksIn (s.link i leader) m + r.owed m) :
    ∀ i ∈ replicas, ∀ r, s'.node i = some r → ∀ m,
      r.logs m ≤ n'.acksFrom i m + acksIn (s'.link i leader) m + r.owed m := by
  have hne : ∀ i ∈ replicas, i ≠ leader := fun i hi he => h.apart (he ▸ hi)
  have hkeepUp : ∀ i, ∀ j ∈ replicas, ∀ down,
      (s.setLink leader i down).link j leader = s.link j leader :=
    fun i j hj down => setLink_ne s down fun hc => hne j hj hc.1
  intro j hj q hq m
  have hold : ∀ r, s.node j = some r →
      r.logs m ≤ n.acksFrom j m + acksIn (s.link j leader) m + r.owed m :=
    fun r hr => hacked j hj r hr m
  cases hd with
  | forwards hasks hi hr ha hop hlogged hout haddr hfrom =>
    rename_i i r r' reqId op addr
    by_cases hji : j = i
    · subst hji
      obtain rfl : r' = q := Option.some.inj (ha.node_self.symm.trans hq)
      have hnone :
          acksIn (sentTo leader [(leader, (.request reqId op addr : Message α))]) m = 0 := by
        rw [sentTo_singleton, if_pos rfl]
        rfl
      rw [ha.own rfl, hnone, logs_of_logged hlogged, owed_of_outstanding hout]
      exact hold r hr
    · obtain ⟨hnode, hlink⟩ := ha.apart hji rfl
      rw [hlink]
      exact hold q (hnode ▸ hq)
  | assigns hlink ha hassigned hexec hout hans hacks hfrom =>
    have hold := hold q (ha.node_ne (hne j hj) ▸ hq)
    rw [ha.uplink, if_neg (hne j hj), List.append_nil, hacks]
    obtain ⟨-, rfl, -⟩ | ⟨-, i, hi, up, hup, rfl⟩ := hlink
    · exact hold
    · by_cases hji : j = i
      · subst hji
        rw [hup] at hold
        rw [setLink_same]
        exact hold
      · rw [setLink_ne s up fun hc => hji hc.1]
        exact hold
  | counts hasks hi hup ha hassigned hexec hout hans hacks =>
    rename_i i k up
    have hold := hold q (ha.node_ne (hne j hj) ▸ hq)
    rw [ha.uplink, if_neg (hne j hj), List.append_nil, hacks]
    by_cases hji : j = i
    · subst hji
      have hpop : acksIn (.ack k :: up) m = acksIn up m + if k = m then 1 else 0 := by
        by_cases hkm : k = m <;> simp [acksIn, isAck, hkm]
      rw [hup, hpop] at hold
      rw [setLink_same]
      simp only [true_and]
      omega
    · rw [setLink_ne s up fun hc => hji hc.1]
      omega
  | answers hasks hk ha hsent hassigned hexec hout hans hid hacks hreply =>
    rw [ha.uplink, if_neg (hne j hj), List.append_nil, hacks]
    exact hold q (ha.node_ne (hne j hj) ▸ hq)
  | responds hasks hi hr hdown ha hlogged hout haddr =>
    rename_i i r r' reqId res down
    by_cases hji : j = i
    · subst hji
      obtain rfl : r' = q := Option.some.inj (ha.node_self.symm.trans hq)
      rw [ha.own (hkeepUp j j hj down), logs_of_logged hlogged, owed_of_outstanding hout]
      exact hold r hr
    · obtain ⟨hnode, hlink⟩ := ha.apart hji (hkeepUp i j hj down)
      rw [hlink]
      exact hold q (hnode ▸ hq)
  | logs hasks hi hr hdown ha hlogged hout hsent haddr =>
    rename_i i r r' opId op down sent cmds
    by_cases hji : j = i
    · subst hji
      obtain rfl : r' = q := Option.some.inj (ha.node_self.symm.trans hq)
      have hold := hold r hr
      have hlogs : r'.logs m = r.logs m + if m = opId then 1 else 0 :=
        logs_concat hlogged (h.next_logged hj hr hdown) m
      rw [ha.own (hkeepUp j j hj down), hlogs]
      obtain ⟨rfl, rfl⟩ | ⟨rfl, prev, rfl⟩ := hsent
      · rw [List.append_nil] at hout
        rw [acksIn_ack, owed_of_outstanding hout]
        by_cases hm : m = opId
        · rw [if_pos hm, if_pos hm.symm]
          omega
        · rw [if_neg hm]
          omega
      · have howed : r'.owed m = r.owed m + if m = opId then 1 else 0 := by
          unfold NodeState.owed
          rw [hout, List.countP_append, List.countP_singleton, UInt32.sub_add_cancel]
          by_cases hm : m = opId
          · simp [hm]
          · simp [hm, Ne.symm hm]
        have hnone : acksIn (sentTo leader ([] : List (SocketAddr × Message α))) m = 0 := rfl
        rw [howed, hnone]
        omega
    · obtain ⟨hnode, hlink⟩ := ha.apart hji (hkeepUp i j hj down)
      rw [hlink]
      exact hold q (hnode ▸ hq)
  | acks hasks hi hr hk ha hsent hlogged hout haddr =>
    rename_i i r r' k e sent
    by_cases hji : j = i
    · subst hji
      obtain rfl : r' = q := Option.some.inj (ha.node_self.symm.trans hq)
      have hold := hold r hr
      have howed : r'.owed m + (if e.1 + 1 = m then 1 else 0) = r.owed m := by
        rw [← owed_answer hk m]
        exact congrArg (· + _) (owed_of_outstanding hout m)
      obtain rfl | ⟨-, hnot⟩ := hsent
      · rw [ha.own rfl, acksIn_ack, logs_of_logged hlogged]
        omega
      · exact absurd (h.plain_outstanding hplain hj hr (List.mem_of_getElem? hk)) hnot
    · obtain ⟨hnode, hlink⟩ := ha.apart hji rfl
      rw [hlink]
      exact hold q (hnode ▸ hq)

/-- The leader's node after a step. -/
theorem Does.node (h : Inv leader replicas s n lead) (hd : Does leader replicas s n lead l s' n') :
    s'.node leader = some n' := by
  have hne : ∀ i ∈ replicas, leader ≠ i := fun i hi he => h.apart (he ▸ hi)
  cases hd with
  | forwards hasks hi hr ha hop hlogged hout haddr hfrom => exact (ha.node_ne (hne _ hi)).trans h.node
  | assigns hlink ha hassigned hexec hout hans hacks hfrom => exact ha.node_self
  | counts hasks hi hup ha hassigned hexec hout hans hacks => exact ha.node_self
  | answers hasks hk ha hsent hassigned hexec hout hans hid hacks hreply => exact ha.node_self
  | responds hasks hi hr hdown ha hlogged hout haddr => exact (ha.node_ne (hne _ hi)).trans h.node
  | logs hasks hi hr hdown ha hlogged hout hsent haddr => exact (ha.node_ne (hne _ hi)).trans h.node
  | acks hasks hi hr hk ha hsent hlogged hout haddr => exact (ha.node_ne (hne _ hi)).trans h.node

/-- **A step keeps the books.** -/
theorem Booked.step {asked : Nat} (h : Inv leader replicas s n lead)
    (hb : Booked leader replicas asked s n) (hd : Does leader replicas s n lead l s' n')
    (hl : l.NoSnapshot) : Booked leader replicas (asked + if l.asks then 1 else 0) s' n' where
  awake := hd.awake hb.awake
  plain := hd.plain hl hb.plain hb.queued
  queued := hd.queued h hl hb.queued
  acks := hd.acked h hb.plain hb.acks
  asked := by rw [hd.asked h, hb.asked]
  answered := hd.answered hb.answered

theorem Fresh.booked (h : Fresh s leader replicas) :
    ∃ n, s.node leader = some n ∧ Booked leader replicas 0 s n := by
  obtain ⟨self, hnode, -⟩ := h.leaderNode
  have hstart : ∀ a r, s.node a = some r → ∃ runtime, r = .start runtime := by
    intro a r hr
    by_cases ha : a = leader
    · subst ha
      exact ⟨_, Option.some.inj (hr.symm.trans hnode)⟩
    · by_cases hi : a ∈ replicas
      · obtain ⟨rep, hrep, -⟩ := h.replicaNode a hi
        exact ⟨_, Option.some.inj (hr.symm.trans hrep)⟩
      · rw [h.nobody a ha hi] at hr
        cases hr
  refine ⟨_, hnode, ⟨?_, fun _ hq => ?_, ?_, ?_, ?_, fun _ he => ?_⟩⟩
  · intro a r hr
    obtain ⟨runtime, rfl⟩ := hstart a r hr
    rfl
  · cases hq
  · intro i hi reqId op addr hmem
    rw [h.links] at hmem
    cases hmem
  · intro i hi r hr m
    obtain ⟨runtime, rfl⟩ := hstart i r hr
    have hnone : (NodeState.start runtime).logs m = 0 := if_neg fun hc => by
      have hle : m.toNat ≤ 0 := hc.2
      omega
    rw [hnone]
    exact Nat.zero_le _
  · have hnone : s.queued leader replicas = 0 := Keys.sum_eq_zero fun i _ => by
      rw [h.links i leader]
      rfl
    rw [hnone]
    rfl
  · cases he

/-- **The books of a run.** -/
theorem booked_run {s₀ : State α} {ls : List (Label α)} {asked : Nat} {n₀ : NodeState α}
    {lead₀ : Leader α} (hpos : 1 ≤ replicas.toList.length)
    (hls : ∀ l ∈ ls, l.Steady ∧ l.NoSnapshot) (hr : run s₀ ls = some s)
    (h : Inv leader replicas s₀ n₀ lead₀) (hb : Booked leader replicas asked s₀ n₀) :
    ∃ n lead, Inv leader replicas s n lead ∧
      Booked leader replicas (asked + ls.countP Label.asks) s n := by
  induction ls generalizing s₀ asked n₀ lead₀ with
  | nil =>
    obtain rfl : s₀ = s := by simpa [run, Lib.run] using hr
    exact ⟨n₀, lead₀, h, hb⟩
  | cons l ls ih =>
    obtain ⟨t, ht, hr⟩ := run_cons.mp hr
    obtain ⟨hsteady, hplain⟩ := hls l List.mem_cons_self
    obtain ⟨n₁, hd⟩ := h.does hpos hsteady ht
    obtain ⟨n₂, lead₂, h₂, -⟩ := h.step hpos hsteady ht
    obtain rfl : n₁ = n₂ := Option.some.inj ((hd.node h).symm.trans h₂.node)
    obtain ⟨n', lead', h', hb'⟩ := ih (fun m hm => hls m (List.mem_cons_of_mem _ hm)) hr h₂
      (hb.step h hd hplain)
    refine ⟨n', lead', h', ?_⟩
    rwa [List.countP_cons, Nat.add_comm (ls.countP _), ← Nat.add_assoc]

/-! ## When nothing is left to do -/

/-- Every request has an id, has been executed by the leader's database and answered once;
    every replica has logged all of the log and executed all of it but the last entry. -/
structure Served (leader : SocketAddr) (replicas : Keys SocketAddr) (asked : Nat) (s : State α) :
    Prop where
  leads : ∃ n, s.node leader = some n ∧ n.fault = none ∧ n.outstanding = [] ∧
    n.assigned.length = asked ∧ n.executed.Perm n.log ∧
    (n.answers.map fun a => a.opId).Perm (n.assigned.map fun q => q.1) ∧
    (∀ a ∈ n.answers, ∃ q, (a.opId, q) ∈ n.assigned ∧ Answers leader q a) ∧
    ∀ i ∈ replicas, ∃ r, s.node i = some r ∧ r.fault = none ∧ r.outstanding = [] ∧
      r.logged = n.log ∧ r.executed = n.log.dropLast
  links : ∀ i ∈ replicas, s.link leader i = [] ∧ s.link i leader = []

omit [AddrHash] in
theorem Booked.up {asked : Nat} (hb : Booked leader replicas asked s n) {a : SocketAddr}
    {r : NodeState α} (hr : s.node a = some r) (hf : r.fault = none) : s.up a = some r :=
  up_eq_some.mpr ⟨hr, by rw [hb.awake a r hr, hf]; rfl⟩

/-- A message to a node that runs can arrive. -/
theorem link_of_stuck (hs : Stuck State.step Label.Works s) {src dst : SocketAddr}
    {r : NodeState α} (hup : s.up dst = some r) : s.link src dst = [] := by
  cases hlink : s.link src dst with
  | nil => rfl
  | cons msg rest =>
    have hnone := hs (.deliver src dst) True.intro
    simp only [State.step, hup, hlink] at hnone
    cases hnone

/-- The database of a node that runs can answer. -/
theorem outstanding_of_stuck (hs : Stuck State.step Label.Works s) {dst : SocketAddr}
    {r : NodeState α} (hup : s.up dst = some r) : r.outstanding = [] := by
  cases hout : r.outstanding with
  | nil => rfl
  | cons e rest =>
    have hnone := hs (.result dst 0 .replaceDatabase) True.intro
    simp only [State.step, hup, hout] at hnone
    cases hnone

/-- **When nothing is left to do, every request is served.** -/
theorem Inv.served {asked : Nat} (h : Inv leader replicas s n lead)
    (hpos : 1 ≤ replicas.toList.length) (hb : Booked leader replicas asked s n)
    (hroom : asked + 1 < UInt32.size) (hs : Stuck State.step Label.Works s) :
    Served leader replicas asked s := by
  have hfault : n.fault = none := by
    by_contra hf
    have hfull := h.lead.full hf
    have hasked := hb.asked
    omega
  have hup := hb.up h.node hfault
  have hrest : ∀ i ∈ replicas, s.link leader i = [] ∧ s.link i leader = [] := by
    intro i hi
    obtain ⟨r, rep, hr, hrep⟩ := h.replica i hi
    exact ⟨link_of_stuck hs (hb.up hr hrep.fault), link_of_stuck hs hup⟩
  have hreplica : ∀ i ∈ replicas, ∃ r, s.node i = some r ∧ r.fault = none ∧
      r.outstanding = [] ∧ r.logged = n.log ∧ r.executed = n.log.dropLast := by
    intro i hi
    obtain ⟨r, rep, hr, hrep⟩ := h.replica i hi
    have hlogged : r.logged = n.log := by
      have hflow := hrep.flow
      rw [(hrest i hi).1] at hflow
      exact (List.append_nil _).symm.trans hflow
    refine ⟨r, hr, hrep.fault, outstanding_of_stuck hs (hb.up hr hrep.fault), hlogged, ?_⟩
    rw [hrep.executed, hlogged]
  -- every replica has acked every entry, which is more than a quorum
  have hexec : ∀ q ∈ n.assigned, q.1 ∈ n.executed.map fun e => e.1 := by
    intro q hq
    have hack : ∀ i ∈ replicas, 1 ≤ n.acksFrom i q.1 := by
      intro i hi
      obtain ⟨r, hr, -, hout, hlogged, -⟩ := hreplica i hi
      have hle := hb.acks i hi r hr q.1
      have hlogs : r.logs q.1 = 1 := by
        refine if_pos ?_
        rw [hlogged, show n.log.length = n.assigned.length from List.length_map _]
        exact h.lead.numbered.bounds hq
      have howed : r.owed q.1 = 0 := by
        unfold NodeState.owed
        rw [hout]
        rfl
      rw [hlogs, (hrest i hi).2, howed] at hle
      exact hle
    have hacks : replicas.toList.length ≤ n.acks replicas q.1 := by
      have hsum := Keys.sum_le hack
      rwa [sum_const, Nat.one_mul] at hsum
    have hlen : lead.cluster.len = replicas.toList.length + 1 := h.lead.view.len h.apart
    have hquorum : quorum lead.cluster.len < lead.cluster.len := f32HalfPred_lt (by omega)
    exact (h.lead.executed q hq).mpr (by omega)
  have hout := outstanding_of_stuck hs hup
  have hlinks : s.queued leader replicas = 0 := Keys.sum_eq_zero fun i hi => by
    rw [(hrest i hi).2]
    rfl
  have hids : (n.assigned.map fun q => q.1).Nodup := h.lead.correlated.distinct
  have hlogids : n.log.map (fun e => e.1) = n.assigned.map fun q => q.1 := by
    unfold NodeState.log
    rw [List.map_map]
    rfl
  refine ⟨⟨n, h.node, hfault, hout, ?_, ?_, ?_, h.lead.replies, hreplica⟩, hrest⟩
  · have hasked := hb.asked
    omega
  · refine (List.perm_ext_iff_of_nodup h.lead.once.of_map (hlogids ▸ hids).of_map).mpr fun e =>
      ⟨h.lead.commands e, fun he => ?_⟩
    obtain ⟨q, hq, hop⟩ := mem_log.mp he
    obtain ⟨f, hf, hid⟩ := List.mem_map.mp (hexec _ hq)
    have hfe := h.lead.log_numbered.unique (h.lead.commands f hf) he (congrArg UInt32.toNat hid)
    exact hfe ▸ hf
  · refine (List.perm_ext_iff_of_nodup h.lead.repliedOnce hids).mpr fun m => ⟨fun hm => ?_,
      fun hm => ?_⟩
    · obtain ⟨a, ha, rfl⟩ := List.mem_map.mp hm
      obtain ⟨q, hq, -⟩ := h.lead.replies a ha
      exact List.mem_map.mpr ⟨_, hq, rfl⟩
    · obtain ⟨q, hq, rfl⟩ := List.mem_map.mp hm
      obtain ⟨e, he, hid⟩ := List.mem_map.mp (hexec q hq)
      obtain hmem | ⟨a, ha, hae⟩ := hb.answered e he
      · rw [hout] at hmem
        cases hmem
      · exact List.mem_map.mpr ⟨a, ha, hae.trans hid⟩

/-- **Every request is served**, by databases that answer every command. In a run without
    failures of a leader and at least one replica, with fewer than 2³² - 1 requests and no
    snapshots, the messages under way and the commands not answered bound how long the cluster
    goes on by itself; whatever arrives or is answered first, it comes to rest, and then every
    request has been executed and answered once and all replicas have the leader's log. -/
theorem requests_served {s₀ : State α} (h₀ : Fresh s₀ leader replicas)
    (hpos : 1 ≤ replicas.toList.length) {ls : List (Label α)}
    (hls : ∀ l ∈ ls, l.Steady ∧ l.NoSnapshot) (hroom : ls.countP Label.asks + 1 < UInt32.size)
    (hr : run s₀ ls = some s) :
    Ends State.step Label.Works (Served leader replicas (ls.countP Label.asks))
      (s.toDo leader replicas) s := by
  obtain ⟨n₀, hn₀, hb₀⟩ := h₀.booked
  obtain ⟨n₁, lead₀, hinv₀⟩ := h₀.inv
  obtain rfl : n₀ = n₁ := Option.some.inj (hn₀.symm.trans hinv₀.node)
  obtain ⟨n, lead, hinv, hb⟩ := booked_run hpos hls hr hinv₀ hb₀
  rw [Nat.zero_add] at hb
  refine ends_of_measure (P := fun s => ∃ n lead, Inv leader replicas s n lead ∧
    Booked leader replicas (ls.countP Label.asks) s n) ?_ ?_ ⟨n, lead, hinv, hb⟩
  · rintro s l s' ⟨n, lead, h, hb⟩ hl hs
    obtain ⟨hsteady, hplain, hasks⟩ := hl.steady
    obtain ⟨n', hd⟩ := h.does hpos hsteady hs
    obtain ⟨n₂, lead', h', -⟩ := h.step hpos hsteady hs
    obtain rfl : n' = n₂ := Option.some.inj ((hd.node h).symm.trans h'.node)
    have hb' := hb.step h hd hplain
    rw [hasks, if_neg Bool.false_ne_true, Nat.add_zero] at hb'
    exact ⟨⟨n', lead', h', hb'⟩, hd.toDo h hasks⟩
  · rintro s ⟨n, lead, h, hb⟩ hstuck
    exact h.served hpos hb hroom hstuck

end Progress

/-! ## Two requests -/

section Example

local instance serviceHash : AddrHash := localHash

theorem ports_nodup : [localAddr 5001, localAddr 5002].Nodup := by decide

/-- Once nothing is under way, both requests of `replicationRun` are answered. -/
theorem requests_served_example :
    ∃ s, run (launch (localAddr 5000) [localAddr 5001, localAddr 5002]) replicationRun = some s ∧
      s.toDo (localAddr 5000) ⟨[localAddr 5001, localAddr 5002], ports_nodup⟩ = 14 ∧
      Ends State.step Label.Works
        (Served (localAddr 5000) ⟨[localAddr 5001, localAddr 5002], ports_nodup⟩ 2) 14 s := by
  have hrun : (run (launch (localAddr 5000) [localAddr 5001, localAddr 5002])
      replicationRun).any (fun s => decide (s.toDo (localAddr 5000)
        ⟨[localAddr 5001, localAddr 5002], ports_nodup⟩ = 14)) = true := by decide +kernel
  obtain ⟨s, hs, hdo⟩ := (Option.any_eq_true _ _).mp hrun
  have hdo := of_decide_eq_true hdo
  have hfresh : Fresh (launch (α := Nat) (localAddr 5000) [localAddr 5001, localAddr 5002])
      (localAddr 5000) ⟨[localAddr 5001, localAddr 5002], ports_nodup⟩ :=
    launch_fresh (by decide +kernel) _
  have hends := requests_served hfresh (by decide) (by decide) (by decide) hs
  rw [hdo] at hends
  exact ⟨s, hs, hdo, hends⟩

end Example

end YpfRuta.Cluster
