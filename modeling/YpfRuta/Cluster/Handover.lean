/-
  A bully election among live nodes while requests and replication are under way:
  what reaches a node in its new role that was meant for the old one.

  Only the member with the greatest id ever takes the lead over, and it announces
  itself to everybody. A link to a node that still leads therefore carries what only
  a replica implements behind the announcement that demotes the node, or not at all.
-/
import YpfRuta.Cluster.Bully
import YpfRuta.Cluster.Requests

namespace YpfRuta.Cluster

open Server Lib Bully

variable {α : Type}

/-! ## The system -/

/-- A step of the cluster, or a node that starts an election. -/
inductive Move (α : Type) where
  | take (l : Label α)
  | start (a : SocketAddr) (now : Nat)
  deriving DecidableEq

/-- Requests, station charges, deliveries, database results and elections. -/
def Move.Traffic : Move α → Prop
  | .take l => l.Steady
  | .start .. => True

instance (m : Move α) : Decidable m.Traffic :=
  match m with
  | .take l => inferInstanceAs (Decidable l.Steady)
  | .start .. => isTrue trivial

namespace State

/-- Node `a` starts an election. -/
def elect (s : State α) (a : SocketAddr) (n : NodeState α) (now : Nat) : State α :=
  let e := ended (NodeRuntime.startElection (n.task now))
  { node := Function.update s.node a (some { n with
      runtime := e.2.self, connected := e.2.connected, down := e.1.isSome, fault := e.1 })
    link := fun src dst =>
      if src = a then s.link src dst ++ sentTo dst e.2.sent else s.link src dst }

def move [AddrHash] (s : State α) : Move α → Option (State α)
  | .take l => s.step l
  | .start a now => (s.up a).map fun n => s.elect a n now

def Leads (s : State α) (a : SocketAddr) : Prop :=
  ∃ n, s.node a = some n ∧ n.runtime.leads = true

end State

/-- What only a replica implements. -/
def forReplica : Message α → Bool
  | .log .. => true
  | .response .. => true
  | _ => false

/-- What only a leader implements. -/
def forLeader : Message α → Bool
  | .ack _ => true
  | _ => false

def isCoordinator : Message α → Bool
  | .coordinator .. => true
  | _ => false

/-- The handlers that end in `todo!()`. -/
def Unimplemented (node : NodeRuntime α) (m : Message α) : Prop :=
  match node with
  | .leader _ => forReplica m = true
  | .replica _ => forLeader m = true

/-- A connected, online member that knows all the others. -/
structure Placed [AddrHash] (leader : SocketAddr) (replicas : Keys SocketAddr) (a : SocketAddr)
    (node : NodeRuntime α) : Prop where
  online : node.isOffline = false
  id : node.id = getIdGivenAddr a
  address : node.address = a
  view : View node.cluster leader replicas
  requests : Requests node

structure Fit [AddrHash] (leader : SocketAddr) (replicas : Keys SocketAddr) (a : SocketAddr)
    (n : NodeState α) : Prop where
  connected : n.connected = true
  placed : Placed leader replicas a n.runtime
  outstanding : ∀ e ∈ n.outstanding, IsRequest e.2

/-- A leader and replicas that all know each other, with nothing under way. -/
structure Opening [AddrHash] (s : State α) (leader : SocketAddr) (replicas : Keys SocketAddr) :
    Prop where
  node : ∀ a, Member leader replicas a → ∃ n, s.node a = some n ∧ Fit leader replicas a n ∧
    (n.runtime.leads = true ↔ a = leader)
  nobody : ∀ a, ¬ Member leader replicas a → s.node a = none
  links : ∀ a b, s.link a b = []

/-! ## The condition -/

/-- The node takes the lead if it starts an election. -/
def Wins (inProgress : Bool) (id : NodeId) (cluster : HashMap NodeId SocketAddr) : Prop :=
  inProgress = false ∧ higher id cluster = []

instance (inProgress : Bool) (id : NodeId) (cluster : HashMap NodeId SocketAddr) :
    Decidable (Wins inProgress id cluster) :=
  inferInstanceAs (Decidable (_ ∧ _))

namespace State

/-- None of what is under way to `a` from the members passes the test. -/
def Without (s : State α) (members : List SocketAddr) (a : SocketAddr) (test : Message α → Bool) :
    Prop :=
  ∀ b ∈ members, ∀ m ∈ s.link b a, test m = false

instance (s : State α) (members : List SocketAddr) (a : SocketAddr) (test : Message α → Bool) :
    Decidable (s.Without members a test) :=
  inferInstanceAs (Decidable (∀ b ∈ members, ∀ m ∈ s.link b a, test m = false))

/-- Node `b`, if it leads, has no higher id than `id`. -/
def Below (s : State α) (id : NodeId) (b : SocketAddr) : Prop :=
  ∀ n ∈ s.node b, n.runtime.leads = true → n.runtime.id ≤ id

instance (s : State α) (id : NodeId) (b : SocketAddr) : Decidable (s.Below id b) :=
  inferInstanceAs (Decidable (∀ n ∈ s.node b, n.runtime.leads = true → n.runtime.id ≤ id))

/-- Node `b`, if there is one, leads. -/
def Led (s : State α) (b : SocketAddr) : Prop := ∀ n ∈ s.node b, n.runtime.leads = true

instance (s : State α) (b : SocketAddr) : Decidable (s.Led b) :=
  inferInstanceAs (Decidable (∀ n ∈ s.node b, n.runtime.leads = true))

/-- When the turn of `node`, at `a`, sends nothing to a node in the wrong role and
    leaves nothing under way to `a` that its new role does not implement. -/
def Clear (s : State α) (members : List SocketAddr) (a : SocketAddr) :
    NodeRuntime α → Event α → Prop
  | .replica self, .nodeMsg (.ok (.election candidateId _)) =>
    candidateId < self.id → Wins self.electionInProgress self.id self.cluster →
      s.Without members a forReplica
  | .replica self, .nodeMsg (.ok (.log opId _)) => opId = 1 → s.Led self.leaderAddr
  | .replica self, .actorEvent (.operationResult _ op _) =>
    match op with
    | .replaceDatabase _ => True
    | _ => s.Led self.leaderAddr
  | .leader self, .nodeMsg (.ok (.coordinator leaderId _)) =>
    self.id ≤ leaderId → s.Without members a forLeader
  | .leader self, .nodeMsg (.ok (.request ..)) => ∀ b ∈ members, s.Below self.id b
  | .leader self, .stationMsg (.chargeRequest ..) => ∀ b ∈ members, s.Below self.id b
  | .leader self, .actorEvent (.operationResult opId op _) =>
    match op with
    | .replaceDatabase _ => True
    | _ => ∀ p ∈ self.operations.lookup opId, s.Below self.id p.clientAddr
  | _, _ => True

instance (s : State α) (members : List SocketAddr) (a : SocketAddr) (node : NodeRuntime α)
    (event : Event α) : Decidable (s.Clear members a node event) := by
  unfold Clear
  split <;> try split
  all_goals infer_instance

/-- The condition on a step. -/
def Careful (s : State α) (members : List SocketAddr) : Move α → Prop
  | .take l => ∀ w ∈ s.wake l, s.Clear members w.a w.node.runtime w.event
  | .start a _ => ∀ n ∈ s.node a, n.runtime.leads = false →
    Wins n.runtime.electionInProgress n.runtime.id n.runtime.cluster →
      s.Without members a forReplica

instance (s : State α) (members : List SocketAddr) (m : Move α) :
    Decidable (s.Careful members m) :=
  match m with
  | .take l => inferInstanceAs (Decidable (∀ w ∈ s.wake l, s.Clear members w.a w.node.runtime w.event))
  | .start a _ => inferInstanceAs (Decidable (∀ n ∈ s.node a, n.runtime.leads = false →
      Wins n.runtime.electionInProgress n.runtime.id n.runtime.cluster →
        s.Without members a forReplica))

end State

/-! ## The invariant -/

/-- What only a replica implements stands behind an announcement. -/
def Shielded : List (Message α) → Prop
  | [] => True
  | m :: ms => isCoordinator m = true ∨ forReplica m = false ∧ Shielded ms

theorem shielded_of_none {msgs : List (Message α)} (h : ∀ m ∈ msgs, forReplica m = false) :
    Shielded msgs := by
  induction msgs with
  | nil => trivial
  | cons m ms ih =>
    exact .inr ⟨h m List.mem_cons_self, ih fun m' hm => h m' (List.mem_cons_of_mem _ hm)⟩

theorem Shielded.append {msgs msgs' : List (Message α)} (h : Shielded msgs)
    (h' : (∃ m ∈ msgs, isCoordinator m = true) ∨ ∀ m ∈ msgs', forReplica m = false) :
    Shielded (msgs ++ msgs') := by
  induction msgs with
  | nil =>
    rcases h' with ⟨m, hm, -⟩ | h'
    · cases hm
    · exact shielded_of_none h'
  | cons m ms ih =>
    by_cases hc : isCoordinator m = true
    · exact .inl hc
    · obtain ⟨hm, hrest⟩ := h.resolve_left hc
      refine .inr ⟨hm, ih hrest ?_⟩
      rcases h' with ⟨m', hm', hc'⟩ | h'
      · rcases List.mem_cons.mp hm' with rfl | hm'
        · exact absurd hc' hc
        · exact .inl ⟨m', hm', hc'⟩
      · exact .inr h'

section Invariant

variable [AddrHash] {leader top : SocketAddr} {replicas : Keys SocketAddr} {s s' : State α}

/-- The messages that may be under way from `a` to `b`. -/
def Plain (top a b : SocketAddr) : Message α → Prop
  | .request _ op _ => IsRequest op
  | .log _ op => IsRequest op
  | .coordinator leaderId leaderAddr =>
    a = top ∧ b ≠ top ∧ leaderId = getIdGivenAddr top ∧ leaderAddr = top
  | .response .. => True
  | .ack _ => True
  | .election .. => True
  | .electionOk _ => True
  | _ => False

structure Handing (leader : SocketAddr) (replicas : Keys SocketAddr) (top : SocketAddr)
    (s : State α) : Prop where
  node : ∀ a, Member leader replicas a → ∃ n, s.node a = some n ∧ Fit leader replicas a n
  nobody : ∀ a, ¬ Member leader replicas a → s.node a = none
  plain : ∀ a b, ∀ m ∈ s.link a b, Plain top a b m
  silent : ∀ a b, ¬ Member leader replicas a → s.link a b = []
  roles : ∀ a n, s.node a = some n → n.runtime.leads = true → a = leader ∨ a = top
  told : ∀ b n, b ≠ top → s.node b = some n → n.runtime.leads = true → s.Leads top →
    ∃ m ∈ s.link top b, isCoordinator m = true
  acks : ∀ a b n, s.node b = some n → ∀ m ∈ s.link a b, forLeader m = true →
    n.runtime.leads = true
  shielded : ∀ a b n, s.node b = some n → n.runtime.leads = true → Shielded (s.link a b)

theorem Opening.handing (h : Opening s leader replicas) (top : SocketAddr)
    (htop : Member leader replicas top) : Handing leader replicas top s where
  node a ha := by
    obtain ⟨n, hn, hfit, -⟩ := h.node a ha
    exact ⟨n, hn, hfit⟩
  nobody := h.nobody
  plain a b m hm := by
    rw [h.links] at hm
    cases hm
  silent a b _ := h.links a b
  roles a n hn hleads := by
    have ha : Member leader replicas a := by
      by_contra hno
      rw [h.nobody a hno] at hn
      cases hn
    obtain ⟨n', hn', -, hiff⟩ := h.node a ha
    obtain rfl := Option.some.inj (hn.symm.trans hn')
    exact .inl (hiff.mp hleads)
  told b n hb hn hleads := by
    rintro ⟨q, hq, hqleads⟩
    have hbm : Member leader replicas b := by
      by_contra hno
      rw [h.nobody b hno] at hn
      cases hn
    obtain ⟨n', hn', -, hiff⟩ := h.node b hbm
    obtain rfl := Option.some.inj (hn.symm.trans hn')
    obtain ⟨q', hq', -, hiff'⟩ := h.node top htop
    obtain rfl := Option.some.inj (hq.symm.trans hq')
    exact absurd ((hiff.mp hleads).trans (hiff'.mp hqleads).symm) hb
  acks a b n hn m hm := by
    rw [h.links] at hm
    cases hm
  shielded a b n hn hleads := by
    rw [h.links]
    trivial

/-- What a turn of `a` owes the rest of the cluster. -/
structure Obliged (leader : SocketAddr) (replicas : Keys SocketAddr) (top : SocketAddr)
    (s : State α) (a : SocketAddr) (node node' : NodeRuntime α)
    (out : List (SocketAddr × Message α)) : Prop where
  plain : ∀ p ∈ out, Plain top a p.1 p.2
  /-- Acks go to a leader. -/
  acks : ∀ p ∈ out, forLeader p.2 = true → p.1 ≠ a ∧
    ∀ n, s.node p.1 = some n → n.runtime.leads = true
  /-- Only the greatest member sends a leader what only a replica implements. -/
  entries : ∀ p ∈ out, forReplica p.2 = true → p.1 ≠ a ∧
    ∀ n, s.node p.1 = some n → n.runtime.leads = true → a = top ∧ p.1 ≠ top ∧ node.leads = true
  promoted : node'.leads = true → node.leads = true ∨ a = top ∧
    (∀ b, ∀ m ∈ s.link b a, forReplica m = false) ∧ (∀ p ∈ out, forReplica p.2 = false) ∧
    ∀ b, Member leader replicas b → b ≠ a → ∃ m, (b, m) ∈ out ∧ isCoordinator m = true
  demoted : node'.leads = false → node.leads = true →
    ∀ b, ∀ m ∈ s.link b a, forLeader m = false

/-- A turn that does what it owes keeps the invariant. -/
theorem Handing.turn (h : Handing leader replicas top s) {a : SocketAddr}
    (ha : Member leader replicas a) {n n' : NodeState α} (hn : s.node a = some n)
    {link : SocketAddr → SocketAddr → List (Message α)} {out : List (SocketAddr × Message α)}
    (hlink : ∀ x b, link x b = s.link x b ∨
      b = a ∧ ∃ m, s.link x b = m :: link x b ∧ (n'.runtime.leads = true → isCoordinator m = false))
    (hfit : Fit leader replicas a n')
    (ho : Obliged leader replicas top s a n.runtime n'.runtime out) :
    Handing leader replicas top
      { node := Function.update s.node a (some n')
        link := fun x b => if x = a then link x b ++ sentTo b out else link x b } := by
  have hsub : ∀ x b, ∀ m ∈ link x b, m ∈ s.link x b := by
    intro x b m hm
    rcases hlink x b with heq | ⟨-, m', heq, -⟩
    · rwa [heq] at hm
    · rw [heq]
      exact List.mem_cons_of_mem _ hm
  have hother : ∀ x b, b ≠ a → link x b = s.link x b := fun x b hb =>
    (hlink x b).resolve_right fun hpop => hb hpop.1
  have hnew : ∀ x b m, m ∈ (if x = a then link x b ++ sentTo b out else link x b) →
      m ∈ s.link x b ∨ x = a ∧ (b, m) ∈ out := by
    intro x b m hm
    by_cases hx : x = a
    · rw [if_pos hx] at hm
      rcases List.mem_append.mp hm with hm | hm
      · exact .inl (hsub x b m hm)
      · exact .inr ⟨hx, mem_sentTo.mp hm⟩
    · rw [if_neg hx] at hm
      exact .inl (hsub x b m hm)
  have hself : ∀ q, Function.update s.node a (some n') a = some q → q = n' := by
    intro q hq
    rw [Function.update_self] at hq
    exact (Option.some.inj hq).symm
  have hne : ∀ b q, b ≠ a → Function.update s.node a (some n') b = some q → s.node b = some q := by
    intro b q hb hq
    rwa [Function.update_of_ne hb] at hq
  have hleads_of : State.Leads
      { node := Function.update s.node a (some n')
        link := fun x b => if x = a then link x b ++ sentTo b out else link x b } top →
      top ≠ a → s.Leads top := by
    rintro ⟨q, hq, hl⟩ hat
    exact ⟨q, hne top q hat hq, hl⟩
  refine ⟨fun b hb => ?_, fun b hb => ?_, fun x b m hm => ?_, fun x b hx => ?_,
    fun b q hq hleads => ?_, fun b q hb hq hleads htop => ?_, fun x b q hq m hm hack => ?_,
    fun x b q hq hleads => ?_⟩
  · by_cases hba : b = a
    · rw [hba]
      exact ⟨n', Function.update_self .., hfit⟩
    · obtain ⟨q, hq, hfit'⟩ := h.node b hb
      exact ⟨q, (Function.update_of_ne hba ..).trans hq, hfit'⟩
  · have hba : b ≠ a := fun hba => hb (hba ▸ ha)
    exact (Function.update_of_ne hba ..).trans (h.nobody b hb)
  · rcases hnew x b m hm with hold | ⟨hx, hout⟩
    · exact h.plain x b m hold
    · rw [hx]
      exact ho.plain (b, m) hout
  · have hxa : x ≠ a := fun hxa => hx (hxa ▸ ha)
    show (if x = a then link x b ++ sentTo b out else link x b) = []
    rw [if_neg hxa, List.eq_nil_iff_forall_not_mem]
    intro m hm
    have hm' := hsub x b m hm
    rw [h.silent x b hx] at hm'
    cases hm'
  · -- who leads
    by_cases hba : b = a
    · rw [hba] at hq ⊢
      obtain rfl := hself q hq
      rcases ho.promoted hleads with hwas | ⟨htop, -⟩
      · exact h.roles a n hn hwas
      · exact .inr htop
    · exact h.roles b q (hne b q hba hq) hleads
  · -- who is being told
    show ∃ m ∈ (if top = a then link top b ++ sentTo b out else link top b), isCoordinator m = true
    by_cases hba : b = a
    · have hat : top ≠ a := fun hat => hb (hba.trans hat.symm)
      rw [if_neg hat]
      rw [hba] at hq hb ⊢
      obtain rfl := hself q hq
      have hwas := (ho.promoted hleads).resolve_right fun hp => hb hp.1
      obtain ⟨m, hm, hc⟩ := h.told a n hb hn hwas (hleads_of htop hat)
      rcases hlink top a with heq | ⟨-, m', heq, hnot⟩
      · exact ⟨m, heq ▸ hm, hc⟩
      · rw [heq] at hm
        rcases List.mem_cons.mp hm with rfl | hm
        · rw [hnot hleads] at hc
          cases hc
        · exact ⟨m, hm, hc⟩
    · have hq' := hne b q hba hq
      rw [hother top b hba]
      by_cases hat : top = a
      · rw [if_pos hat]
        obtain ⟨q', hq'', hl⟩ := htop
        rw [hat] at hq''
        obtain rfl := hself q' hq''
        rcases ho.promoted hl with hwas | ⟨-, -, -, htold⟩
        · obtain ⟨m, hm, hc⟩ := h.told b q hb hq' hleads ⟨n, hat ▸ hn, hwas⟩
          exact ⟨m, List.mem_append_left _ hm, hc⟩
        · have hbm : Member leader replicas b := by
            by_contra hno
            rw [h.nobody b hno] at hq'
            cases hq'
          obtain ⟨m, hm, hc⟩ := htold b hbm hba
          exact ⟨m, List.mem_append_right _ (mem_sentTo.mpr hm), hc⟩
      · rw [if_neg hat]
        exact h.told b q hb hq' hleads (hleads_of htop hat)
  · -- acks
    rcases hnew x b m hm with hold | ⟨hx, hout⟩
    · by_cases hba : b = a
      · rw [hba] at hq hold
        obtain rfl := hself q hq
        by_contra hno
        have hwas := h.acks x a n hn m hold hack
        rw [ho.demoted (Bool.eq_false_iff.mpr hno) hwas x m hold] at hack
        cases hack
      · exact h.acks x b q (hne b q hba hq) m hold hack
    · obtain ⟨hba, hleads⟩ := ho.acks (b, m) hout hack
      exact hleads q (hne b q hba hq)
  · -- what a leader is sent
    show Shielded (if x = a then link x b ++ sentTo b out else link x b)
    by_cases hba : b = a
    · rw [hba] at hq ⊢
      obtain rfl := hself q hq
      have hrest : Shielded (link x a) := by
        rcases ho.promoted hleads with hwas | ⟨-, hnone, -⟩
        · have hsh := h.shielded x a n hn hwas
          rcases hlink x a with heq | ⟨-, m, heq, hnot⟩
          · exact heq ▸ hsh
          · rw [heq] at hsh
            refine (hsh.resolve_left fun hc => ?_).2
            rw [hnot hleads] at hc
            cases hc
        · exact shielded_of_none fun m hm => hnone x m (hsub x a m hm)
      by_cases hx : x = a
      · rw [if_pos hx]
        refine hrest.append (.inr fun m hm => ?_)
        by_contra hno
        exact (ho.entries (a, m) (mem_sentTo.mp hm) (Bool.not_eq_false _ |>.mp hno)).1 rfl
      · rw [if_neg hx]
        exact hrest
    · have hq' := hne b q hba hq
      rw [hother x b hba]
      have hsh := h.shielded x b q hq' hleads
      by_cases hx : x = a
      · rw [if_pos hx]
        by_cases hnone : ∀ m ∈ sentTo b out, forReplica m = false
        · exact hsh.append (.inr hnone)
        · obtain ⟨m, hm⟩ := not_forall.mp hnone
          obtain ⟨hm, hfor⟩ := Classical.not_imp.mp hm
          obtain ⟨-, hentry⟩ := ho.entries (b, m) (mem_sentTo.mp hm)
            (Bool.not_eq_false _ |>.mp hfor)
          obtain ⟨hat, hbt, hwas⟩ := hentry q hq' hleads
          refine hsh.append (.inl ?_)
          rw [hx, hat]
          exact h.told b q hbt hq' hleads ⟨n, hat ▸ hn, hwas⟩
      · rw [if_neg hx]
        exact hsh

/-! ## What the turns owe -/

/-- The events of the traffic. -/
def Ordinary (top a : SocketAddr) : Event α → Prop
  | .nodeMsg (.ok m) => ∃ b, Plain top b a m
  | .stationMsg (.chargeRequest ..) => True
  | .actorEvent (.operationResult _ op _) => IsRequest op
  | _ => False

theorem Plain.routine {a b : SocketAddr} {m : Message α} (h : Plain top a b m) : Routine m := by
  cases m <;> first | exact h | trivial

theorem Ordinary.routine {a : SocketAddr} {event : Event α} (h : Ordinary top a event) :
    RoutineEvent event := by
  cases event with
  | nodeMsg msg =>
    cases msg with
    | ok m =>
      obtain ⟨b, hplain⟩ := h
      exact hplain.routine
    | error e => exact h.elim
  | stationMsg msg => cases msg <;> trivial
  | actorEvent evt => cases evt <;> exact h
  | electionCheck => exact h.elim

theorem Ordinary.keeps {a : SocketAddr} {event : Event α} (h : Ordinary top a event)
    (addr : SocketAddr) : event ≠ .nodeMsg (.error (.connectionLostWith addr)) := by
  rintro rfl
  exact h

/-- A node that keeps its own fields and still stores requests stays in its place. -/
theorem Placed.kept {a : SocketAddr} {node node' : NodeRuntime α} {event : Event α}
    (h : Placed leader replicas a node) (hk : Kept event node node')
    (hcluster : node'.cluster = node.cluster) (hr : Requests node') :
    Placed leader replicas a node' where
  online := hk.isOffline.trans h.online
  id := hk.id.trans h.id
  address := hk.address.trans h.address
  view := by
    rw [hcluster]
    exact h.view
  requests := hr

section Owed

variable {a : SocketAddr} {node node' : NodeRuntime α} {event : Event α} {fault : Option Fault}
  {now : Nat} {out : List (SocketAddr × Message α)} {commands : List (OpId × Operation α)}

/-- A turn that keeps the role, and sends what both roles implement. -/
theorem Obliged.calm (hleads : node'.leads = node.leads)
    (hout : ∀ p ∈ out, Plain top a p.1 p.2 ∧ forReplica p.2 = false ∧ forLeader p.2 = false) :
    Obliged leader replicas top s a node node' out where
  plain p hp := (hout p hp).1
  acks p hp hfor := by
    rw [(hout p hp).2.2] at hfor
    cases hfor
  entries p hp hfor := by
    rw [(hout p hp).2.1] at hfor
    cases hfor
  promoted h := .inl (hleads ▸ h)
  demoted h h' := by
    rw [hleads, h'] at h
    cases h

/-- A turn that keeps the role and sends nothing. -/
theorem Obliged.silent (hleads : node'.leads = node.leads) :
    Obliged leader replicas top s a node node' [] :=
  .calm hleads nothing_sent

/-- Of two leaders the one with the higher id is the greatest member. -/
theorem Handing.above (h : Handing leader replicas top s) (ht : IsTop leader replicas top)
    {b : SocketAddr} {n q : NodeState α} (hn : s.node a = some n) (hq : s.node b = some q)
    (hleads : n.runtime.leads = true) (hleads' : q.runtime.leads = true) (hne : b ≠ a)
    (hle : getIdGivenAddr b ≤ getIdGivenAddr a) : a = top ∧ b ≠ top := by
  have ha : Member leader replicas a := by
    by_contra hno
    rw [h.nobody a hno] at hn
    cases hn
  have hbt : b ≠ top := by
    rintro rfl
    exact UInt64.not_lt.mpr hle (ht.above a ha hne.symm)
  have hbl : b = leader := (h.roles b q hq hleads').resolve_right hbt
  refine ⟨(h.roles a n hn hleads).resolve_left fun hal => hne (hbl.trans hal.symm), hbt⟩

/-- A leader that finds nobody above it may send what only a replica implements. -/
theorem Obliged.entries_of (h : Handing leader replicas top s) (ht : IsTop leader replicas top)
    {self self' : Leader α} {n : NodeState α} (hn : s.node a = some n)
    (hrt : n.runtime = .leader self) (hset : Placed leader replicas a (.leader self))
    (hout : ∀ p ∈ out, p.1 ≠ a ∧ Plain top a p.1 p.2 ∧ forLeader p.2 = false ∧
      s.Below self.id p.1) :
    Obliged leader replicas top s a (.leader self) (.leader self') out where
  plain p hp := (hout p hp).2.1
  acks p hp hfor := by
    rw [(hout p hp).2.2.1] at hfor
    cases hfor
  entries p hp _ := by
    obtain ⟨hne, -, -, hbelow⟩ := hout p hp
    refine ⟨hne, fun q hq hleads => ?_⟩
    have hle := hbelow q hq hleads
    have hqm : Member leader replicas p.1 := by
      by_contra hno
      rw [h.nobody p.1 hno] at hq
      cases hq
    obtain ⟨q', hq', hfit⟩ := h.node p.1 hqm
    obtain rfl := Option.some.inj (hq.symm.trans hq')
    have hid : self.id = getIdGivenAddr a := hset.id
    rw [hfit.placed.id, hid] at hle
    have hwas : n.runtime.leads = true := by
      rw [hrt]
      rfl
    obtain ⟨hat, hbt⟩ := h.above ht hn hq hwas hleads hne hle
    exact ⟨hat, hbt, rfl⟩
  promoted _ := .inl rfl
  demoted h := by cases h

theorem mem_peers {self : Leader α} (hset : Placed leader replicas a (.leader self))
    {b : SocketAddr} (hb : b ∈ self.peers) : Member leader replicas b ∧ b ≠ a := by
  unfold Leader.peers at hb
  obtain ⟨p, hp, rfl⟩ := List.mem_map.mp hb
  obtain ⟨hp, hne⟩ := List.mem_filter.mp hp
  obtain ⟨e, he, rfl⟩ := List.mem_map.mp hp
  have hid : e.1 = getIdGivenAddr e.2 := hset.view.ids e he
  refine ⟨(hset.view.members e.2).mp (List.mem_map_of_mem he), fun hea => ?_⟩
  have hown : self.id = getIdGivenAddr a := hset.id
  have haddr : e.2 = a := hea
  exact of_decide_eq_true hne (by rw [hid, haddr, hown])

/-- The members of the cluster, as a list. -/
def membersOf (leader : SocketAddr) (replicas : Keys SocketAddr) : List SocketAddr :=
  leader :: replicas.toList

omit [AddrHash] in
theorem mem_membersOf {b : SocketAddr} :
    b ∈ membersOf leader replicas ↔ Member leader replicas b := List.mem_cons

theorem leader_obliged (h : Handing leader replicas top s) (ht : IsTop leader replicas top)
    {self self' : Leader α} {n : NodeState α} (hn : s.node a = some n)
    (hrt : n.runtime = .leader self) (hset : Placed leader replicas a (.leader self))
    (hev : RoutineEvent event)
    (hc : s.Clear (membersOf leader replicas) a (.leader self) event)
    (hs : self.Serves now event fault self' out commands) :
    Obliged leader replicas top s a (.leader self) (.leader self') out := by
  have hlogs : ∀ {reqId : ReqId} {op : Operation α} {addr : SocketAddr},
      Asks self.address event reqId op addr →
      ∀ p ∈ self.peers.map (fun b => (b, Message.log self.currentOpId op)),
        p.1 ≠ a ∧ Plain top a p.1 p.2 ∧ forLeader p.2 = false ∧ s.Below self.id p.1 := by
    intro reqId op addr hasks p hp
    obtain ⟨b, hb, rfl⟩ := List.mem_map.mp hp
    obtain ⟨hbm, hne⟩ := mem_peers hset hb
    refine ⟨hne, hev.asks hasks, rfl, ?_⟩
    cases hasks with
    | client => exact hc b (mem_membersOf.mpr hbm)
    | station => exact hc b (mem_membersOf.mpr hbm)
  cases hs with
  | executes hasks hlen => exact .silent rfl
  | replicates hasks hlen hsize => exact .entries_of h ht hn hrt hset (hlogs hasks)
  | overflows hasks hlen hsize => exact .entries_of h ht hn hrt hset (hlogs hasks)
  | ackUnknown hnone => exact .silent rfl
  | ackExecutes hstored hq => exact .silent rfl
  | ackWaits hstored hq htwo hpos => exact .silent rfl
  | ackPanics hstored hq hzero => exact .silent rfl
  | answers op r hid hp =>
    have hop : IsRequest op := hev
    refine .entries_of h ht hn hrt hset fun p hmem => ?_
    obtain ⟨hne, reqId, r', hmsg⟩ := reply_responses hop _ r p hmem
    obtain ⟨hclient, hreplace⟩ := reply_client hop _ r p hmem
    refine ⟨fun hpa => hne (hpa.trans hset.address.symm), ?_, ?_, ?_⟩
    · rw [hmsg]
      trivial
    · rw [hmsg]
      rfl
    · rw [hclient]
      cases op with
      | replaceDatabase snapshot => exact absurd rfl (hreplace snapshot)
      | _ => exact hc _ hp
  | answersOwn op r =>
    rw [reply_own hev]
    exact .silent rfl
  | unexpected op r hid hnone => exact .silent rfl
  | refusesResponse reqId r => exact .silent rfl
  | refusesLog opId op => exact .silent rfl
  | admits addr => exact hev.elim
  | views members leaderAddr snapshot => exact hev.elim
  | updated newMember => exact hev.elim
  | queried addr => exact hev.elim
  | refusesRole nodeId role => exact hev.elim

/-- An ack to a node that leads. -/
theorem Obliged.ack {self self' : Replica α} {n : NodeState α} (hn : s.node a = some n)
    (hrt : n.runtime = .replica self) (hled : s.Led self.leaderAddr) (opId : OpId) :
    Obliged leader replicas top s a (.replica self) (.replica self')
      [(self.leaderAddr, .ack opId)] where
  plain p hp := by
    rw [List.mem_singleton.mp hp]
    trivial
  acks p hp _ := by
    rw [List.mem_singleton.mp hp]
    refine ⟨fun heq => ?_, fun q hq => hled q hq⟩
    have haddr : self.leaderAddr = a := heq
    have hfalse := hled n (haddr ▸ hn)
    rw [hrt] at hfalse
    cases hfalse
  entries p hp hfor := by
    rw [List.mem_singleton.mp hp] at hfor
    cases hfor
  promoted h := .inl h
  demoted _ h := by cases h

theorem replica_obliged {self self' : Replica α} {n : NodeState α} (hn : s.node a = some n)
    (hrt : n.runtime = .replica self) (hset : Placed leader replicas a (.replica self))
    (hev : RoutineEvent event)
    (hc : s.Clear (membersOf leader replicas) a (.replica self) event)
    (hs : self.Serves now event fault self' out commands) :
    Obliged leader replicas top s a (.replica self) (.replica self') out := by
  cases hs with
  | forwards hasks =>
    refine .calm rfl fun p hp => ?_
    rw [List.mem_singleton.mp hp]
    exact ⟨hev.asks hasks, rfl, rfl⟩
  | responds reqId r => exact .silent rfl
  | logsFirst op => exact .ack hn hrt (hc rfl) 1
  | logsZero op => exact .silent rfl
  | commits h0 h1 hprev => exact .silent rfl
  | stores h0 h1 hprev => exact .silent rfl
  | acks r hop hsize =>
    rename_i opId op
    have hled : s.Led self.leaderAddr := by
      cases op with
      | replaceDatabase snapshot => exact absurd rfl (hop snapshot)
      | _ => exact hc
    exact .ack hn hrt hled _
  | overflows r hop hsize => exact .silent rfl
  | flushes opId snapshot r =>
    refine .calm rfl fun p hp => ?_
    obtain ⟨op, hop, rfl⟩ := List.mem_map.mp hp
    exact ⟨hset.requests.2 op hop, rfl, rfl⟩
  | refusesAck opId => exact .silent rfl
  | forwardsJoin addr => exact hev.elim
  | viewsElecting members snapshot hlt => exact hev.elim
  | views members snapshot hlt => exact hev.elim
  | updated newMember => exact hev.elim
  | queried addr => exact hev.elim
  | refusesRole nodeId role => exact hev.elim

/-- Starting an election, where the node does not win it over a message meant for a
    replica. -/
theorem elect_obliged (h : Handing leader replicas top s) (ht : IsTop leader replicas top)
    (ha : Member leader replicas a) (hset : Placed leader replicas a node)
    (hc : node.leads = false → Wins node.electionInProgress node.id node.cluster →
      s.Without (membersOf leader replicas) a forReplica) (now : Nat) :
    Obliged leader replicas top s a node (node.elect now).1 (node.elect now).2 := by
  by_cases hbusy : node.electionInProgress = true
  · have heq : node.elect now = (node, []) := if_pos hbusy
    rw [heq]
    exact .silent rfl
  · by_cases hnone : higher node.id node.cluster = []
    · have heq : node.elect now = (node.announced, node.announcing) :=
        (if_neg hbusy).trans (if_pos hnone)
      have hat : a = top := by
        by_contra hne
        rw [hset.view.higher_eq_nil, hset.id] at hnone
        exact hnone top ht.member (ht.above a ha hne)
      have hout : ∀ p ∈ node.announcing, ∃ b, Member leader replicas b ∧ b ≠ a ∧
          p = (b, Message.coordinator node.id node.address) := by
        intro p hp
        obtain ⟨b, hb, hne, rfl⟩ := (hset.view.mem_announcements p).mp hp
        exact ⟨b, hb, fun hba => hne (hba ▸ hset.id.symm), rfl⟩
      have hplain : ∀ p ∈ node.announcing,
          Plain top a p.1 p.2 ∧ forReplica p.2 = false ∧ forLeader p.2 = false := by
        intro p hp
        obtain ⟨b, hb, hne, rfl⟩ := hout p hp
        refine ⟨⟨hat, hat ▸ hne, ?_, ?_⟩, rfl, rfl⟩
        · rw [hset.id, hat]
        · rw [hset.address, hat]
      rw [heq]
      by_cases hleads : node.leads = true
      · exact .calm (by rw [node.announced_leads, hleads]) hplain
      · have hclear := hc (Bool.eq_false_iff.mpr hleads) ⟨Bool.eq_false_iff.mpr hbusy, hnone⟩
        refine ⟨fun p hp => (hplain p hp).1, fun p hp hfor => ?_,
          fun p hp hfor => ?_, fun _ => .inr ⟨hat, fun b m hm => ?_, fun p hp => (hplain p hp).2.1,
            fun b hb hne => ?_⟩, fun _ hwas => absurd hwas hleads⟩
        · rw [(hplain p hp).2.2] at hfor
          cases hfor
        · rw [(hplain p hp).2.1] at hfor
          cases hfor
        · by_cases hb : Member leader replicas b
          · exact hclear b (mem_membersOf.mpr hb) m hm
          · rw [h.silent b a hb] at hm
            cases hm
        · refine ⟨.coordinator node.id node.address, ?_, rfl⟩
          refine (hset.view.mem_announcements _).mpr ⟨b, hb, fun hid => hne ?_, rfl⟩
          exact hset.view.id_injective hb ha (hid.trans hset.id)
    · have heq : node.elect now =
          (node.electing (some now), elections node.id node.address node.cluster) :=
        (if_neg hbusy).trans (if_neg hnone)
      rw [heq]
      refine .calm (node.electing_leads _) fun p hp => ?_
      obtain ⟨b, -, -, rfl⟩ := (hset.view.mem_elections p).mp hp
      exact ⟨trivial, rfl, rfl⟩

theorem sways_obliged (h : Handing leader replicas top s) (ht : IsTop leader replicas top)
    (ha : Member leader replicas a) (hset : Placed leader replicas a node)
    (hev : Ordinary top a event)
    (hc : s.Clear (membersOf leader replicas) a node event)
    (hs : Sways now node event fault node' out) :
    Obliged leader replicas top s a node node' out := by
  have hown : ∀ {leaderId : NodeId} {leaderAddr : SocketAddr},
      (∃ b, Plain top b a (.coordinator leaderId leaderAddr : Message α)) →
        node.id < leaderId := by
    rintro leaderId leaderAddr ⟨b, -, hne, rfl, -⟩
    rw [hset.id]
    exact ht.above a ha hne
  cases hs with
  | asked candidateAddr hlt =>
    have hwon : node.leads = false → Wins node.electionInProgress node.id node.cluster →
        s.Without (membersOf leader replicas) a forReplica := by
      intro hleads hwins
      cases node with
      | leader self => cases hleads
      | replica self => exact hc hlt hwins
    have helect := elect_obliged h ht ha hset hwon now
    refine ⟨fun p hp => ?_, fun p hp hfor => ?_,
      fun p hp hfor => ?_, fun hl => (helect.promoted hl).imp_right ?_, helect.demoted⟩
    · rcases List.mem_cons.mp hp with rfl | hp
      · trivial
      · exact helect.plain p hp
    · rcases List.mem_cons.mp hp with rfl | hp
      · cases hfor
      · exact helect.acks p hp hfor
    · rcases List.mem_cons.mp hp with rfl | hp
      · cases hfor
      · exact helect.entries p hp hfor
    · rintro ⟨hat, hnone, hclean, htold⟩
      refine ⟨hat, hnone, fun p hp => ?_, fun b hb hne => ?_⟩
      · rcases List.mem_cons.mp hp with rfl | hp
        · rfl
        · exact hclean p hp
      · obtain ⟨m, hm, hco⟩ := htold b hb hne
        exact ⟨m, List.mem_cons_of_mem _ hm, hco⟩
  | outranked candidateAddr hlt => exact .silent rfl
  | answered responderId => exact .silent (node.electing_leads _)
  | follows leaderAddr hlt =>
    refine ⟨nothing_sent, nothing_sent, nothing_sent, fun hl => ?_, fun _ hwas b m hm => ?_⟩
    · cases node <;> cases hl
    · cases node with
      | leader self =>
        by_cases hb : Member leader replicas b
        · exact hc (UInt64.le_of_lt hlt) b (mem_membersOf.mpr hb) m hm
        · rw [h.silent b a hb] at hm
          cases hm
      | replica self => cases hwas
  | demoted leaderAddr => exact absurd (hown hev) (UInt64.lt_irrefl _)
  | keeps leaderAddr hlt => exact absurd (hown hev) (UInt64.not_lt.mpr (UInt64.le_of_lt hlt))
  | promoted leaderAddr => exact absurd (hown hev) (UInt64.lt_irrefl _)
  | panics leaderAddr hlt => exact absurd (hown hev) (UInt64.not_lt.mpr (UInt64.le_of_lt hlt))
  | expires hexp => exact hev.elim
  | waits hexp => exact hev.elim
  | losesPeer addr => exact hev.elim
  | losesLeader => exact hev.elim
  | losesOther hne => exact hev.elim

end Owed

/-! ## Steps and runs -/

theorem Handing.fit_of_up (h : Handing leader replicas top s) {a : SocketAddr} {n : NodeState α}
    (hup : s.up a = some n) :
    Member leader replicas a ∧ s.node a = some n ∧ Fit leader replicas a n := by
  obtain ⟨hn, -⟩ := Cluster.up_eq_some.mp hup
  have ha : Member leader replicas a := by
    by_contra hno
    rw [h.nobody a hno] at hn
    cases hn
  obtain ⟨n', hn', hfit⟩ := h.node a ha
  obtain rfl := Option.some.inj (hn.symm.trans hn')
  exact ⟨ha, hn, hfit⟩

/-- The traffic only wakes nodes for ordinary events. -/
theorem Handing.wake_ordinary (h : Handing leader replicas top s) {l : Label α} (hl : l.Steady)
    {w : Waking α} (hw : s.wake l = some w) : Ordinary top w.a w.event ∧ w.event.Online := by
  cases l with
  | request dst reqId op addr =>
    obtain ⟨n, hup, rfl⟩ := Option.map_eq_some_iff.mp hw
    exact ⟨⟨dst, hl⟩, trivial⟩
  | station dst msg =>
    obtain ⟨n, hup, rfl⟩ := Option.map_eq_some_iff.mp hw
    cases msg with
    | chargeRequest accountId cardId amount requestId => exact ⟨trivial, trivial⟩
    | disconnectNode => exact hl.elim
    | connectNode => exact hl.elim
  | deliver src dst =>
    dsimp only [State.wake] at hw
    cases hup : s.up dst with
    | none =>
      rw [hup] at hw
      cases hw
    | some n =>
      cases hlink : s.link src dst with
      | nil =>
        rw [hup, hlink] at hw
        cases hw
      | cons m rest =>
        rw [hup, hlink] at hw
        obtain rfl := (Option.some.inj hw).symm
        exact ⟨⟨src, h.plain src dst m (hlink ▸ List.mem_cons_self)⟩, trivial⟩
  | result dst k r =>
    obtain ⟨n, ht⟩ := wake_takes hw
    dsimp only [State.wake] at hw
    cases hup : s.up dst with
    | none =>
      rw [hup] at hw
      cases hw
    | some q =>
      rw [hup] at hw
      dsimp only at hw
      cases hk : q.outstanding[k]? with
      | none =>
        rw [hk] at hw
        cases hw
      | some e =>
        rw [hk] at hw
        obtain rfl := (Option.some.inj hw).symm
        exact ⟨(h.fit_of_up hup).2.2.outstanding e (List.mem_of_getElem? hk), trivial⟩
  | lost dst addr => exact hl.elim
  | check dst now => exact hl.elim
  | crash dst => exact hl.elim
  | promote dst => exact hl.elim

/-- Who handles the announcement of the greatest member does not lead afterwards. -/
theorem outcome_follows {a : SocketAddr} {node node' : NodeRuntime α} {m : Message α} {now : Nat}
    {fault : Option Fault} {out : List (SocketAddr × Message α)}
    {commands : List (OpId × Operation α)} (ht : IsTop leader replicas top)
    (ha : Member leader replicas a) (hset : Placed leader replicas a node)
    (hplain : ∃ b, Plain top b a m) (hco : isCoordinator m = true)
    (ho : Outcome now (.nodeMsg (.ok m)) fault node node' out commands) : node'.leads = false := by
  cases m with
  | coordinator leaderId leaderAddr =>
    obtain ⟨b, -, hne, hid, -⟩ := hplain
    have hlt : node.id < leaderId := by
      rw [hid, hset.id]
      exact ht.above a ha hne
    cases ho with
    | leader hs =>
      cases hs with
      | executes hasks => cases hasks
      | replicates hasks => cases hasks
      | overflows hasks => cases hasks
    | replica hs =>
      cases hs with
      | forwards hasks => cases hasks
    | sways hs =>
      cases hs with
      | follows leaderAddr hlt => cases node <;> rfl
      | demoted leaderAddr => rfl
      | keeps leaderAddr hlow => exact absurd hlt (UInt64.not_lt.mpr (UInt64.le_of_lt hlow))
      | promoted leaderAddr => exact absurd hlt (UInt64.lt_irrefl _)
      | panics leaderAddr hlow => rfl
  | _ => cases hco

theorem Handing.take (h : Handing leader replicas top s) (ht : IsTop leader replicas top)
    {l : Label α} (hl : l.Steady) (hc : s.Careful (membersOf leader replicas) (.take l))
    (hs : s.step l = some s') : Handing leader replicas top s' := by
  have hturn : l.isTurn = true := by
    cases l with
    | crash dst => exact hl.elim
    | promote dst => exact hl.elim
    | _ => rfl
  obtain ⟨w, hw, rfl⟩ := step_wake hturn hs
  obtain ⟨n, htakes⟩ := wake_takes hw
  obtain ⟨ha, hn, hfit⟩ := h.fit_of_up htakes.up
  obtain ⟨hev, honline⟩ := h.wake_ordinary hl hw
  obtain ⟨fault, t, out, commands, ho, hconn, hgave, -, hact⟩ :=
    wake_outcome htakes hfit.connected hfit.placed.online honline
  have hclear := hc w hw
  rw [htakes.runtime] at hclear
  have hkept := outcome_kept hev.routine ho
  have horderly := outcome_orderly hfit.placed.requests hev.routine ho
  have hplaced := hfit.placed.kept hkept (hkept.known hev.keeps) horderly.requests
  have howed : Obliged leader replicas top s w.a n.runtime t.self out := by
    clear hkept horderly hplaced
    generalize t.self = node' at ho
    cases hrt : n.runtime with
    | leader self =>
      rw [hrt] at ho hclear
      have hset : Placed leader replicas w.a (.leader self) := hrt ▸ hfit.placed
      cases ho with
      | leader hserves => exact leader_obliged h ht hn hrt hset hev.routine hclear hserves
      | sways hsways => exact sways_obliged h ht ha hset hev hclear hsways
    | replica self =>
      rw [hrt] at ho hclear
      have hset : Placed leader replicas w.a (.replica self) := hrt ▸ hfit.placed
      cases ho with
      | replica hserves => exact replica_obliged hn hrt hset hev.routine hclear hserves
      | sways hsways => exact sways_obliged h ht ha hset hev hclear hsways
  rw [hact]
  refine h.turn ha hn (fun x b => ?_) ⟨hconn, hplaced, fun e he => ?_⟩ howed
  · rcases htakes.link x b with heq | ⟨hb, m, heq, hmsg, -⟩
    · exact .inl heq
    · refine .inr ⟨hb, m, heq, fun hleads => ?_⟩
      by_contra hco
      rw [hmsg] at ho
      have hplain : ∃ c, Plain top c w.a m :=
        ⟨x, hb ▸ h.plain x b m (heq ▸ List.mem_cons_self)⟩
      have hfalse := outcome_follows ht ha hfit.placed hplain (Bool.not_eq_false _ |>.mp hco) ho
      have hl' : t.self.leads = true := hleads
      rw [hfalse] at hl'
      cases hl'
  · have he' : e ∈ w.node.outstanding ++ t.commands := he
    rw [hgave] at he'
    rcases List.mem_append.mp he' with he' | he'
    · exact hfit.outstanding e (htakes.outstanding e he')
    · exact horderly.commands e he'

theorem Handing.start (h : Handing leader replicas top s) (ht : IsTop leader replicas top)
    {a : SocketAddr} {now : Nat} (hc : s.Careful (membersOf leader replicas) (.start a now))
    (hs : s.move (.start a now) = some s') : Handing leader replicas top s' := by
  obtain ⟨n, hup, rfl⟩ := Option.map_eq_some_iff.mp hs
  obtain ⟨ha, hn, hfit⟩ := h.fit_of_up hup
  have hrel : (n.task now).Reliable := task_reliable hfit.connected
  have helect := NodeRuntime.startElection_ok hrel
  have hended : ended (NodeRuntime.startElection (n.task now)) =
      (none, { n.task now with
        self := (n.runtime.elect now).1, sent := (n.runtime.elect now).2 }) := by
    rw [helect]
    rfl
  have howed := elect_obliged h ht ha hfit.placed (hc n hn) now
  have hkept : Kept (.electionCheck : Event α) n.runtime (n.runtime.elect now).1 := .elect _ now
  have hplaced := hfit.placed.kept hkept (hkept.known nofun) (hfit.placed.requests.elect now)
  unfold State.elect
  rw [hended]
  exact h.turn ha hn (fun _ _ => .inl rfl) ⟨hfit.connected, hplaced, hfit.outstanding⟩ howed

theorem Handing.move (h : Handing leader replicas top s) (ht : IsTop leader replicas top)
    {m : Move α} (hm : m.Traffic) (hc : s.Careful (membersOf leader replicas) m)
    (hs : s.move m = some s') : Handing leader replicas top s' := by
  cases m with
  | take l => exact h.take ht hm hc hs
  | start a now => exact h.start ht hc hs

/-- What reaches a node is implemented by the role it holds. -/
theorem Handing.implemented (h : Handing leader replicas top s) {src dst : SocketAddr}
    {n : NodeState α} {m : Message α} {rest : List (Message α)} (hn : s.node dst = some n)
    (hlink : s.link src dst = m :: rest) : ¬ Unimplemented n.runtime m := by
  intro hun
  cases hrt : n.runtime with
  | leader self =>
    rw [hrt] at hun
    have hsh := h.shielded src dst n hn (by rw [hrt]; rfl)
    rw [hlink] at hsh
    have hfor : forReplica m = true := hun
    rcases hsh with hco | ⟨hnot, -⟩
    · cases m <;> simp [isCoordinator, forReplica] at hco hfor
    · rw [hnot] at hfor
      cases hfor
  | replica self =>
    rw [hrt] at hun
    have hleads := h.acks src dst n hn m (hlink ▸ List.mem_cons_self) hun
    rw [hrt] at hleads
    cases hleads

/-- A cluster whose members all know each other has one with the greatest id. -/
theorem Opening.exists_top (h : Opening s leader replicas) : ∃ top, IsTop leader replicas top := by
  obtain ⟨n, -, hfit, -⟩ := h.node leader (.inl rfl)
  exact Bully.exists_top leader replicas fun a b ha hb => hfit.placed.view.id_injective ha hb

/-- **Handovers do not crash nodes.** In a run whose steps all meet the condition, no
    node ever handles a message that its role leaves to `todo!()`. -/
theorem handover_safe (h₀ : Opening s leader replicas) {ms : List (Move α)}
    (hms : ∀ m ∈ ms, m.Traffic)
    (hc : Meets State.move (fun s m => s.Careful (membersOf leader replicas) m) s ms)
    (hr : Lib.run State.move s ms = some s') {src dst : SocketAddr} {n : NodeState α}
    {m : Message α} {rest : List (Message α)} (hup : s'.up dst = some n)
    (hlink : s'.link src dst = m :: rest) : ¬ Unimplemented n.runtime m := by
  obtain ⟨top, ht⟩ := h₀.exists_top
  have h := run_induct_meets (P := Handing leader replicas top)
    (fun s m s' h hcm hs => h.move ht hcm.2 hcm.1 hs) hr
    (hc.and_forall hms) (h₀.handing top ht.member)
  exact h.implemented (h.fit_of_up hup).2.1 hlink

end Invariant

/-! ## Two nodes -/

section Example

theorem launch_opening [AddrHash] {leader : SocketAddr} {others : List SocketAddr}
    (h : ((leader :: others).map getIdGivenAddr).Nodup) (hnodup : others.Nodup) :
    Opening (launch (α := α) leader others) leader ⟨others, hnodup⟩ := by
  have hview := fullView_view h hnodup
  refine ⟨fun a ha => ?_, fun a ha => ?_, fun _ _ => rfl⟩
  · by_cases hl : a = leader
    · refine ⟨_, if_pos hl, ⟨rfl, ⟨rfl, rfl, rfl, hview, fun m p hp => ?_, fun op hop => ?_⟩,
        fun e he => absurd he List.not_mem_nil⟩, iff_of_true rfl hl⟩
      · have hnone : (∅ : HashMap OpId (PendingOperation α)).lookup m = some p := hp
        rw [AList.lookup_empty] at hnone
        cases hnone
      · exact absurd hop List.not_mem_nil
    · refine ⟨_, (if_neg hl).trans (if_pos (ha.resolve_left hl)),
        ⟨rfl, ⟨rfl, rfl, rfl, hview, fun m p hp => ?_, fun op hop => ?_⟩,
          fun e he => absurd he List.not_mem_nil⟩, iff_of_false Bool.false_ne_true hl⟩
      · have hnone : (∅ : HashMap OpId (Operation α)).lookup m = some p := hp
        rw [AList.lookup_empty] at hnone
        cases hnone
      · exact absurd hop List.not_mem_nil
  · exact (if_neg fun hl => ha (.inl hl)).trans (if_neg fun ho => ha (.inr ho))

local instance handoverHash : AddrHash := localHash

/-- The replica with the higher id takes over while nothing is under way, the old
    leader hears of it, and the next request is replicated the other way. -/
def cleanHandover : List (Move Nat) :=
  [.start (localAddr 5000) 0, .take (.deliver (localAddr 5000) (localAddr 5001)),
    .take (.request (localAddr 5000) 1 (.accountQuery 7) (localAddr 9000))]

theorem handover_safe_example :
    ∃ (s : State Nat) (n : NodeState Nat),
      Lib.run State.move (launch (localAddr 5001) [localAddr 5000]) cleanHandover = some s ∧
      s.up (localAddr 5001) = some n ∧
      s.link (localAddr 5000) (localAddr 5001) = [.log 1 (.accountQuery 7)] ∧
      ¬ Unimplemented n.runtime (.log 1 (.accountQuery 7)) := by
  have hrun : (Lib.run State.move (launch (α := Nat) (localAddr 5001) [localAddr 5000])
      cleanHandover).any
      (fun s => (s.up (localAddr 5001)).isSome &&
        decide (s.link (localAddr 5000) (localAddr 5001) = [.log 1 (.accountQuery 7)])) = true := by
    decide +kernel
  obtain ⟨s, hs, hvals⟩ := (Option.any_eq_true _ _).mp hrun
  rw [Bool.and_eq_true] at hvals
  obtain ⟨n, hn⟩ := Option.isSome_iff_exists.mp hvals.1
  have hlink := of_decide_eq_true hvals.2
  have hopening : Opening (launch (α := Nat) (localAddr 5001) [localAddr 5000]) (localAddr 5001)
      ⟨[localAddr 5000], List.nodup_singleton _⟩ := launch_opening (by decide +kernel) _
  have hcareful : Meets State.move
      (fun s m => s.Careful (membersOf (localAddr 5001) ⟨[localAddr 5000], List.nodup_singleton _⟩) m)
      (launch (α := Nat) (localAddr 5001) [localAddr 5000]) cleanHandover := by
    decide +kernel
  exact ⟨s, n, hs, hn, hlink, handover_safe hopening (by decide) hcareful hs hn hlink⟩

/-- The leader asks the replica, which has the higher id, and replicates a request
    before the replica takes over. -/
def crossedHandover : List (Move Nat) :=
  [.start (localAddr 5001) 0,
    .take (.request (localAddr 5001) 1 (.accountQuery 7) (localAddr 9000)),
    .take (.deliver (localAddr 5001) (localAddr 5000))]

/-- A log entry is under way to the replica when it takes over. -/
theorem handover_crashes :
    ∃ (s s' : State Nat) (n n' : NodeState Nat),
      Opening (launch (α := Nat) (localAddr 5001) [localAddr 5000]) (localAddr 5001)
        ⟨[localAddr 5000], List.nodup_singleton _⟩ ∧
      (∀ m ∈ crossedHandover, m.Traffic) ∧
      Lib.run State.move (launch (localAddr 5001) [localAddr 5000]) crossedHandover = some s ∧
      s.up (localAddr 5000) = some n ∧
      s.link (localAddr 5001) (localAddr 5000) = [.log 1 (.accountQuery 7)] ∧
      Unimplemented n.runtime (.log 1 (.accountQuery 7)) ∧
      s.move (.take (.deliver (localAddr 5001) (localAddr 5000))) = some s' ∧
      s'.node (localAddr 5000) = some n' ∧
      n'.fault = some (.panic "not yet implemented") := by
  have hrun : (Lib.run State.move (launch (α := Nat) (localAddr 5001) [localAddr 5000])
      crossedHandover).any (fun s =>
      ((s.up (localAddr 5000)).any fun n => n.runtime.leads) &&
      decide (s.link (localAddr 5001) (localAddr 5000) = [.log 1 (.accountQuery 7)]) &&
      (s.move (.take (.deliver (localAddr 5001) (localAddr 5000)))).any fun s' =>
        (s'.node (localAddr 5000)).any fun n' =>
          decide (n'.fault = some (.panic "not yet implemented"))) = true := by decide +kernel
  obtain ⟨s, hs, hvals⟩ := (Option.any_eq_true _ _).mp hrun
  rw [Bool.and_eq_true, Bool.and_eq_true] at hvals
  obtain ⟨⟨hleads, hlink⟩, hnext⟩ := hvals
  obtain ⟨n, hn, hlead⟩ := (Option.any_eq_true _ _).mp hleads
  obtain ⟨s', hs', hnode⟩ := (Option.any_eq_true _ _).mp hnext
  obtain ⟨n', hn', hfault⟩ := (Option.any_eq_true _ _).mp hnode
  refine ⟨s, s', n, n', launch_opening (by decide +kernel) _, by decide, hs, hn,
    of_decide_eq_true hlink, ?_, hs', hn', of_decide_eq_true hfault⟩
  cases hrt : n.runtime with
  | leader self => rfl
  | replica self =>
    rw [hrt] at hlead
    cases hlead

end Example

end YpfRuta.Cluster
