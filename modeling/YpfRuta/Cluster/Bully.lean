/-
  Bully elections among nodes that all know each other: any node may start an
  election at any time, and what is under way arrives in any order.

  `Inv` is what every run keeps, with or without timeouts. A node is asked only by
  nodes below it, and told of a lower leader only where it leads itself.
-/
import Mathlib.Data.Finset.Max
import YpfRuta.Cluster.Launch
import YpfRuta.Server.Elections

namespace YpfRuta.Cluster

open Server Lib

variable {α : Type}

/-! ## What a full view shows -/

/-- The nodes of the cluster. -/
abbrev Member (leader : SocketAddr) (replicas : Keys SocketAddr) (a : SocketAddr) : Prop :=
  a = leader ∨ a ∈ replicas

section Views

variable [AddrHash] {cluster : HashMap NodeId SocketAddr} {leader : SocketAddr}
  {replicas : Keys SocketAddr} {id : NodeId} {address : SocketAddr}

theorem View.mem_peersOf (h : View cluster leader replicas) (peer : NodeId × SocketAddr) :
    peer ∈ peersOf cluster ↔
      Member leader replicas peer.2 ∧ peer.1 = getIdGivenAddr peer.2 := by
  unfold peersOf
  rw [List.mem_map, show Member leader replicas peer.2 ↔ _ from (h.members peer.2).symm]
  constructor
  · rintro ⟨e, he, rfl⟩
    exact ⟨List.mem_map_of_mem he, h.ids e he⟩
  · rintro ⟨hmem, hid⟩
    obtain ⟨e, he, heq⟩ := List.mem_map.mp hmem
    have hkey : e.1 = peer.1 := by rw [h.ids e he, heq, hid]
    exact ⟨e, he, Prod.ext hkey heq⟩

theorem View.mem_elections (h : View cluster leader replicas) (m : SocketAddr × Message α) :
    m ∈ elections id address cluster ↔
      ∃ b, Member leader replicas b ∧ id < getIdGivenAddr b ∧ m = (b, .election id address) := by
  unfold elections higher
  simp only [List.mem_map, List.mem_filter, h.mem_peersOf, decide_eq_true_eq]
  constructor
  · rintro ⟨peer, ⟨⟨hmem, hid⟩, hlt⟩, rfl⟩
    exact ⟨peer.2, hmem, hid ▸ hlt, rfl⟩
  · rintro ⟨b, hmem, hlt, rfl⟩
    exact ⟨(getIdGivenAddr b, b), ⟨⟨hmem, rfl⟩, hlt⟩, rfl⟩

theorem View.mem_announcements (h : View cluster leader replicas) (m : SocketAddr × Message α) :
    m ∈ announcements id address cluster ↔
      ∃ b, Member leader replicas b ∧ getIdGivenAddr b ≠ id ∧
        m = (b, .coordinator id address) := by
  unfold announcements
  simp only [List.mem_map, List.mem_filter, h.mem_peersOf, decide_eq_true_eq]
  constructor
  · rintro ⟨peer, ⟨⟨hmem, hid⟩, hne⟩, rfl⟩
    exact ⟨peer.2, hmem, hid ▸ hne, rfl⟩
  · rintro ⟨b, hmem, hne, rfl⟩
    exact ⟨(getIdGivenAddr b, b), ⟨⟨hmem, rfl⟩, hne⟩, rfl⟩

theorem View.higher_eq_nil (h : View cluster leader replicas) :
    higher id cluster = [] ↔ ∀ b, Member leader replicas b → ¬ id < getIdGivenAddr b := by
  unfold higher
  rw [List.filter_eq_nil_iff]
  constructor
  · intro hnone b hmem hlt
    have hb := hnone (getIdGivenAddr b, b) ((h.mem_peersOf _).mpr ⟨hmem, rfl⟩)
    exact hb (decide_eq_true hlt)
  · intro hnone peer hpeer hlt
    obtain ⟨hmem, hid⟩ := (h.mem_peersOf peer).mp hpeer
    exact hnone peer.2 hmem (hid ▸ of_decide_eq_true hlt)

/-- Two members of a full view have different ids. -/
theorem View.id_injective (h : View cluster leader replicas) {a b : SocketAddr}
    (ha : Member leader replicas a) (hb : Member leader replicas b)
    (hid : getIdGivenAddr a = getIdGivenAddr b) : a = b := by
  obtain ⟨e, he, rfl⟩ := List.mem_map.mp ((h.members a).mpr ha)
  obtain ⟨f, hf, rfl⟩ := List.mem_map.mp ((h.members b).mpr hb)
  have hkey : e.1 = f.1 := by rw [h.ids e he, h.ids f hf, hid]
  exact congrArg (fun e : (_ : NodeId) × SocketAddr => e.2)
    (cluster.nodupKeys.eq_of_fst_eq he hf hkey)

end Views

/-! ## The system -/

structure Peer (α : Type) where
  runtime : NodeRuntime α
  fault : Option Fault

/-- The nodes, and the messages under way with their destinations. -/
structure Bully (α : Type) where
  node : SocketAddr → Option (Peer α)
  flight : List (SocketAddr × Message α)

namespace Bully

inductive Label where
  /-- Node `a` starts an election. -/
  | start (a : SocketAddr) (now : Nat)
  /-- The `k`-th message under way arrives. -/
  | deliver (k now : Nat)
  /-- The periodic election check of node `a`. -/
  | check (a : SocketAddr) (now : Nat)
  deriving DecidableEq

def task (p : Peer α) (now : Nat) : Task α (NodeRuntime α) where
  self := p.runtime
  connected := true
  outcomes := []
  now := now
  sent := []
  told := []
  commands := []

/-- Node `a` runs the handler `x`. -/
def act (s : Bully α) (a : SocketAddr) (p : Peer α) (x : Handler α (NodeRuntime α) Unit)
    (now : Nat) : Bully α :=
  let e := ended (x (task p now))
  { node := Function.update s.node a (some ⟨e.2.self, e.1⟩)
    flight := s.flight ++ e.2.sent }

/-- The state of a node that has not panicked. -/
def up (s : Bully α) (a : SocketAddr) : Option (Peer α) :=
  (s.node a).filter fun p => p.fault.isNone

def step [AddrHash] (s : Bully α) : Label → Option (Bully α)
  | .start a now => (s.up a).map fun p => s.act a p NodeRuntime.startElection now
  | .deliver k now =>
    match s.flight[k]? with
    | some (a, m) =>
      (s.up a).map fun p =>
        ({ s with flight := s.flight.eraseIdx k } : Bully α).act a p
          (NodeRuntime.turn (.nodeMsg (.ok m))) now
    | none => none
  | .check a now => (s.up a).map fun p => s.act a p (NodeRuntime.turn .electionCheck) now

/-- A leader and replicas that follow it, all with full views and no election. -/
structure Standing [AddrHash] (s : Bully α) (leader : SocketAddr) (replicas : Keys SocketAddr) :
    Prop where
  node : ∀ a, Member leader replicas a → ∃ node, s.node a = some ⟨node, none⟩ ∧
    node.id = getIdGivenAddr a ∧ node.address = a ∧ View node.cluster leader replicas ∧
    node.electionInProgress = false ∧ (a = leader → node.leads = true) ∧
    (a ≠ leader → node.follows = some leader)
  nobody : ∀ a, ¬ Member leader replicas a → s.node a = none
  flight : s.flight = []

/-! ## The invariant of every run -/

section Invariant

variable [AddrHash] {leader top : SocketAddr} {replicas : Keys SocketAddr} {s s' : Bully α}
  {a : SocketAddr} {p : Peer α}

/-- The member with the greatest id. -/
structure IsTop (leader : SocketAddr) (replicas : Keys SocketAddr) (top : SocketAddr) : Prop where
  member : Member leader replicas top
  above : ∀ a, Member leader replicas a → a ≠ top → getIdGivenAddr a < getIdGivenAddr top

/-- The messages that may be under way, where `leads` says that the greatest member
    is a leader. -/
def Proper (leader : SocketAddr) (replicas : Keys SocketAddr) (top : SocketAddr) (leads : Prop) :
    SocketAddr × Message α → Prop
  | (a, .election candidateId candidateAddr) => Member leader replicas a ∧
    Member leader replicas candidateAddr ∧ candidateId = getIdGivenAddr candidateAddr ∧
    candidateId < getIdGivenAddr a
  | (a, .electionOk _) => Member leader replicas a
  | (a, .coordinator leaderId leaderAddr) => Member leader replicas a ∧
    Member leader replicas leaderAddr ∧ leaderId = getIdGivenAddr leaderAddr ∧
    (getIdGivenAddr a < leaderId ∨ a = top ∧ leaderId < getIdGivenAddr a ∧ leads)
  | _ => False

/-- A member's own fields, which no election changes. The greatest member never
    waits for an answer. -/
structure Settled (leader : SocketAddr) (replicas : Keys SocketAddr) (top a : SocketAddr)
    (node : NodeRuntime α) : Prop where
  id : node.id = getIdGivenAddr a
  address : node.address = a
  view : View node.cluster leader replicas
  idle : node.electionInProgress = true → a ≠ top

def Leads (s : Bully α) (a : SocketAddr) : Prop :=
  ∃ p, s.node a = some p ∧ p.runtime.leads = true

instance (s : Bully α) (a : SocketAddr) : Decidable (s.Leads a) :=
  decidable_of_iff ((s.node a).any (fun p => p.runtime.leads) = true) (Option.any_eq_true _ _)

structure Inv (leader : SocketAddr) (replicas : Keys SocketAddr) (top : SocketAddr)
    (s : Bully α) : Prop where
  node : ∀ a, Member leader replicas a → ∃ node, s.node a = some ⟨node, none⟩ ∧
    Settled leader replicas top a node
  nobody : ∀ a, ¬ Member leader replicas a → s.node a = none
  flight : ∀ m ∈ s.flight, Proper leader replicas top (s.Leads top) m

theorem Proper.mono {leads leads' : Prop} (hl : leads → leads') {m : SocketAddr × Message α}
    (h : Proper leader replicas top leads m) : Proper leader replicas top leads' m := by
  obtain ⟨a, msg⟩ := m
  cases msg with
  | election candidateId candidateAddr => exact h
  | electionOk responderId => exact h
  | coordinator leaderId leaderAddr =>
    obtain ⟨ha, hb, hid, hlow | ⟨heq, hlt, hleads⟩⟩ := h
    · exact ⟨ha, hb, hid, .inl hlow⟩
    · exact ⟨ha, hb, hid, .inr ⟨heq, hlt, hl hleads⟩⟩
  | _ => exact h.elim

theorem Standing.inv (h : Standing s leader replicas) (top : SocketAddr) :
    Inv leader replicas top s := by
  refine ⟨fun a ha => ?_, h.nobody, fun m hm => ?_⟩
  · obtain ⟨node, hnode, hid, haddr, hview, hidle, -⟩ := h.node a ha
    exact ⟨node, hnode, hid, haddr, hview, fun hb => absurd hb (hidle ▸ Bool.false_ne_true)⟩
  · rw [h.flight] at hm
    cases hm

/-- What a turn leaves of a node: its own fields, and the lead of the greatest
    member. -/
structure Kept (top a : SocketAddr) (node node' : NodeRuntime α) : Prop where
  id : node'.id = node.id
  address : node'.address = node.address
  cluster : node'.cluster = node.cluster
  idle : node'.electionInProgress = true → a ≠ top
  leads : a = top → node.leads = true → node'.leads = true

/-- What one step does: node `a` turns from `node` into `node'` and sends `out`,
    and the messages under way before it were `flight`. -/
inductive Effect (s : Bully α) (a : SocketAddr) (node : NodeRuntime α) : Label →
    List (SocketAddr × Message α) → NodeRuntime α → List (SocketAddr × Message α) → Prop where
  | starts (now : Nat) :
      Effect s a node (.start a now) s.flight (node.elect now).1 (node.elect now).2
  | asked (k now : Nat) (candidateId : NodeId) (candidateAddr : SocketAddr) :
      s.flight[k]? = some (a, .election candidateId candidateAddr) →
      Effect s a node (.deliver k now) (s.flight.eraseIdx k) (node.elect now).1
        ((candidateAddr, .electionOk node.id) :: (node.elect now).2)
  | answered (k now : Nat) (responderId : NodeId) :
      s.flight[k]? = some (a, .electionOk responderId) →
      Effect s a node (.deliver k now) (s.flight.eraseIdx k) (node.electing none) []
  | follows (k now : Nat) (leaderId : NodeId) (leaderAddr : SocketAddr) :
      s.flight[k]? = some (a, .coordinator leaderId leaderAddr) → node.id < leaderId →
      Effect s a node (.deliver k now) (s.flight.eraseIdx k) (node.follow leaderAddr) []
  | keeps (k now : Nat) (leaderId : NodeId) (leaderAddr : SocketAddr) :
      s.flight[k]? = some (a, .coordinator leaderId leaderAddr) → leaderId < node.id →
      Effect s a node (.deliver k now) (s.flight.eraseIdx k) (node.electing none) []
  | expires (now : Nat) : Expired node.electionInProgress node.electionStart now →
      Effect s a node (.check a now) s.flight node.announced node.announcing
  | waits (now : Nat) : Effect s a node (.check a now) s.flight node []

omit [AddrHash] in
theorem act_ok {x : Handler α (NodeRuntime α) Unit} {now : Nat} {t' : Task α (NodeRuntime α)}
    (h : x (task p now) = .ok () t') :
    s.act a p x now =
      { node := Function.update s.node a (some ⟨t'.self, none⟩), flight := s.flight ++ t'.sent } := by
  unfold act
  rw [h]
  rfl

omit [AddrHash] in
theorem task_reliable (p : Peer α) (now : Nat) : (task p now).Reliable := ⟨rfl, rfl⟩

omit [AddrHash] in
theorem up_eq_some : s.up a = some p ↔ s.node a = some p ∧ p.fault = none := by
  unfold up
  rw [Option.filter_eq_some_iff, Option.isNone_iff_eq_none]

/-- Node `a` of a state the invariant holds in. -/
theorem Inv.of_up (h : Inv leader replicas top s) (hup : s.up a = some p) :
    Member leader replicas a ∧ s.node a = some ⟨p.runtime, none⟩ ∧
      Settled leader replicas top a p.runtime := by
  obtain ⟨hnode, hfault⟩ := up_eq_some.mp hup
  have ha : Member leader replicas a := by
    by_contra hno
    rw [h.nobody a hno] at hnode
    cases hnode
  obtain ⟨node, hnode', hset⟩ := h.node a ha
  obtain rfl : p = ⟨node, none⟩ := Option.some.inj (hnode.symm.trans hnode')
  exact ⟨ha, hnode', hset⟩

/-- **Steps.** Every step is a turn of one member. -/
theorem Inv.step_cases (h : Inv leader replicas top s) {l : Label} (hs : s.step l = some s') :
    ∃ a node flight node' out, Member leader replicas a ∧ s.node a = some ⟨node, none⟩ ∧
      Settled leader replicas top a node ∧ Effect s a node l flight node' out ∧
      s' = { node := Function.update s.node a (some ⟨node', none⟩), flight := flight ++ out } := by
  cases l with
  | start a now =>
    obtain ⟨p, hup, rfl⟩ := Option.map_eq_some_iff.mp hs
    obtain ⟨ha, hnode, hset⟩ := h.of_up hup
    exact ⟨a, p.runtime, _, _, _, ha, hnode, hset, .starts now,
      act_ok (NodeRuntime.startElection_ok (task_reliable p now))⟩
  | deliver k now =>
    dsimp only [step] at hs
    cases hk : s.flight[k]? with
    | none =>
      rw [hk] at hs
      cases hs
    | some m =>
      obtain ⟨a, msg⟩ := m
      rw [hk] at hs
      obtain ⟨p, hup, rfl⟩ := Option.map_eq_some_iff.mp hs
      obtain ⟨ha, hnode, hset⟩ := h.of_up hup
      have hproper := h.flight _ (List.mem_of_getElem? hk)
      have hrel := task_reliable p now
      cases msg with
      | election candidateId candidateAddr =>
        have hlt : candidateId < (task p now).self.id := hset.id ▸ hproper.2.2.2
        refine ⟨a, p.runtime, _, _, _, ha, hnode, hset, .asked k now _ _ hk, ?_⟩
        refine (act_ok (NodeRuntime.turn_election hrel hlt candidateAddr)).trans ?_
        rfl
      | electionOk responderId =>
        refine ⟨a, p.runtime, _, _, _, ha, hnode, hset, .answered k now _ hk, ?_⟩
        exact act_ok (NodeRuntime.turn_electionOk (t := task p now) responderId)
      | coordinator leaderId leaderAddr =>
        obtain ⟨-, -, -, hlow | ⟨rfl, hlt, hleads⟩⟩ := hproper
        · have hlow' : (task p now).self.id < leaderId := hset.id ▸ hlow
          refine ⟨a, p.runtime, _, _, _, ha, hnode, hset, .follows k now _ _ hk hlow', ?_⟩
          exact act_ok (NodeRuntime.turn_coordinator hlow' leaderAddr)
        · have hlt' : leaderId < (task p now).self.id := hset.id ▸ hlt
          have hlead : (task p now).self.leads = true := by
            obtain ⟨q, hq, hlead⟩ := hleads
            obtain rfl := Option.some.inj (hnode.symm.trans hq)
            exact hlead
          refine ⟨a, p.runtime, _, _, _, ha, hnode, hset, .keeps k now _ _ hk hlt', ?_⟩
          exact act_ok (NodeRuntime.turn_coordinator_lower hlt' hlead leaderAddr)
      | _ => exact hproper.elim
  | check a now =>
    obtain ⟨p, hup, rfl⟩ := Option.map_eq_some_iff.mp hs
    obtain ⟨ha, hnode, hset⟩ := h.of_up hup
    have hrel := task_reliable p now
    by_cases hexp : Expired p.runtime.electionInProgress p.runtime.electionStart now
    · exact ⟨a, p.runtime, _, _, _, ha, hnode, hset, .expires now hexp,
        act_ok (NodeRuntime.turn_electionCheck_expired hrel hexp)⟩
    · exact ⟨a, p.runtime, _, _, _, ha, hnode, hset, .waits now,
        act_ok (NodeRuntime.turn_electionCheck_waits (t := task p now) hexp)⟩

omit [AddrHash] in
/-- What starting an election can do to a node. -/
theorem elect_cases (node : NodeRuntime α) (now : Nat) :
    (node.electionInProgress = true ∧ node.elect now = (node, [])) ∨
    (higher node.id node.cluster = [] ∧ node.elect now = (node.announced, node.announcing)) ∨
    (higher node.id node.cluster ≠ [] ∧ node.elect now =
      (node.electing (some now), elections node.id node.address node.cluster)) := by
  unfold NodeRuntime.elect
  by_cases hbusy : node.electionInProgress = true
  · exact .inl ⟨hbusy, if_pos hbusy⟩
  · rw [if_neg hbusy]
    by_cases hnone : higher node.id node.cluster = []
    · exact .inr (.inl ⟨hnone, if_pos hnone⟩)
    · exact .inr (.inr ⟨hnone, if_neg hnone⟩)

section Turns

variable {node node' : NodeRuntime α}

theorem Settled.top_iff (h : Settled leader replicas top a node) (ht : IsTop leader replicas top)
    (ha : Member leader replicas a) : higher node.id node.cluster = [] ↔ a = top := by
  rw [h.view.higher_eq_nil, h.id]
  constructor
  · intro hnone
    by_contra hne
    exact hnone top ht.member (ht.above a ha hne)
  · rintro rfl b hb
    by_cases hne : b = a
    · rw [hne]
      exact UInt64.lt_irrefl _
    · exact UInt64.not_lt.mpr (UInt64.le_of_lt (ht.above b hb hne))

theorem Settled.kept (h : Settled leader replicas top a node) (hk : Kept top a node node') :
    Settled leader replicas top a node' where
  id := hk.id.trans h.id
  address := hk.address.trans h.address
  view := hk.cluster ▸ h.view
  idle := hk.idle

omit [AddrHash] in
theorem kept_announced (node : NodeRuntime α) : Kept top a node node.announced where
  id := node.announced_id
  address := node.announced_address
  cluster := node.announced_cluster
  idle hb := by
    rw [NodeRuntime.announced_electionInProgress] at hb
    cases hb
  leads _ _ := node.announced_leads

omit [AddrHash] in
theorem kept_electing (node : NodeRuntime α) {start : Option Nat}
    (h : start.isSome = true → a ≠ top) : Kept top a node (node.electing start) where
  id := node.electing_id start
  address := node.electing_address start
  cluster := node.electing_cluster start
  idle hb := h (node.electing_electionInProgress start ▸ hb)
  leads _ hl := (node.electing_leads start).trans hl

theorem Settled.elect (h : Settled leader replicas top a node) (ht : IsTop leader replicas top)
    (ha : Member leader replicas a) (now : Nat) : Kept top a node (node.elect now).1 := by
  obtain ⟨hbusy, heq⟩ | ⟨-, heq⟩ | ⟨hsome, heq⟩ := elect_cases node now
  · rw [heq]
    exact ⟨rfl, rfl, rfl, h.idle, fun _ hl => hl⟩
  · rw [heq]
    exact kept_announced node
  · rw [heq]
    exact kept_electing node fun _ htop => hsome ((h.top_iff ht ha).mpr htop)

/-- An announcement is proper when every member above the announcer is the greatest
    one and leads. -/
theorem Settled.announcing (h : Settled leader replicas top a node)
    (ha : Member leader replicas a) {leads : Prop}
    (habove : ∀ b, Member leader replicas b → getIdGivenAddr a < getIdGivenAddr b →
      b = top ∧ leads) :
    ∀ m ∈ node.announcing, Proper leader replicas top leads m := by
  intro m hm
  obtain ⟨b, hb, hne, rfl⟩ := (h.view.mem_announcements m).mp hm
  rw [h.id] at hne
  refine ⟨hb, h.address ▸ ha, by rw [h.id, h.address], ?_⟩
  rw [h.id]
  rcases UInt64.lt_or_lt_of_ne hne with hlt | hlt
  · exact .inl hlt
  · obtain ⟨hbt, hl⟩ := habove b hb hlt
    exact .inr ⟨hbt, hlt, hl⟩

theorem Settled.elections (h : Settled leader replicas top a node) (ha : Member leader replicas a)
    {leads : Prop} :
    ∀ m ∈ elections node.id node.address node.cluster,
      Proper (α := α) leader replicas top leads m := by
  intro m hm
  obtain ⟨b, hb, hlt, rfl⟩ := (h.view.mem_elections m).mp hm
  exact ⟨hb, h.address ▸ ha, by rw [h.id, h.address], hlt⟩

/-- What an election makes the greatest member announce is proper. -/
theorem Settled.elect_proper (h : Settled leader replicas top a node)
    (ha : Member leader replicas a) (now : Nat) {leads : Prop} :
    ∀ m ∈ (node.elect now).2, Proper leader replicas top leads m := by
  obtain ⟨-, heq⟩ | ⟨hnone, heq⟩ | ⟨-, heq⟩ := elect_cases node now
  · rw [heq]
    intro m hm
    cases hm
  · rw [heq]
    refine h.announcing ha fun b hb hlt => ?_
    rw [h.view.higher_eq_nil, h.id] at hnone
    exact absurd hlt (hnone b hb)
  · rw [heq]
    exact h.elections ha

/-- A turn that keeps what it must and sends proper messages keeps the invariant. -/
theorem Inv.turn (h : Inv leader replicas top s) (ha : Member leader replicas a)
    (hnode : s.node a = some ⟨node, none⟩) (hset : Settled leader replicas top a node)
    (hk : Kept top a node node') {flight out : List (SocketAddr × Message α)}
    (hsub : ∀ m ∈ flight, m ∈ s.flight)
    (hout : ∀ m ∈ out, Proper leader replicas top (s.Leads top) m) :
    Inv leader replicas top
      { node := Function.update s.node a (some ⟨node', none⟩), flight := flight ++ out } := by
  have hleads : s.Leads top → Leads
      { node := Function.update s.node a (some ⟨node', none⟩), flight := flight ++ out } top := by
    rintro ⟨p, hp, hl⟩
    by_cases hat : top = a
    · rw [hat, hnode] at hp
      obtain rfl := Option.some.inj hp
      exact ⟨⟨node', none⟩, hat ▸ Function.update_self .., hk.leads hat.symm hl⟩
    · exact ⟨p, (Function.update_of_ne hat ..).trans hp, hl⟩
  refine ⟨fun b hb => ?_, fun b hb => ?_, fun m hm => ?_⟩
  · by_cases hba : b = a
    · rw [hba]
      exact ⟨node', Function.update_self .., hset.kept hk⟩
    · obtain ⟨other, hother, hset'⟩ := h.node b hb
      exact ⟨other, (Function.update_of_ne hba ..).trans hother, hset'⟩
  · have hba : b ≠ a := fun hba => hb (hba ▸ ha)
    exact (Function.update_of_ne hba ..).trans (h.nobody b hb)
  · rcases List.mem_append.mp hm with hm | hm
    · exact (h.flight m (hsub m hm)).mono hleads
    · exact (hout m hm).mono hleads

end Turns

theorem IsTop.not_lt (ht : IsTop leader replicas top) {b : SocketAddr}
    (hb : Member leader replicas b) : ¬ getIdGivenAddr top < getIdGivenAddr b := by
  by_cases hne : b = top
  · rw [hne]
    exact UInt64.lt_irrefl _
  · exact UInt64.not_lt.mpr (UInt64.le_of_lt (ht.above b hb hne))

omit [AddrHash] in
theorem kept_follow (node : NodeRuntime α) (leaderAddr : SocketAddr) (h : a ≠ top) :
    Kept top a node (node.follow leaderAddr) where
  id := node.follow_id leaderAddr
  address := node.follow_address leaderAddr
  cluster := node.follow_cluster leaderAddr
  idle _ := h
  leads htop _ := absurd htop h

/-- An election check that expires finds nobody above its node but the greatest
    member, which leads at that moment. The other steps meet this. -/
def Backed (s : Bully α) : Label → Prop
  | .check a now => ∀ p ∈ s.node a,
    Expired p.runtime.electionInProgress p.runtime.electionStart now →
    ∀ peer ∈ higher p.runtime.id p.runtime.cluster,
      higher peer.1 p.runtime.cluster = [] ∧ s.Leads peer.2
  | _ => True

instance (s : Bully α) (l : Label) : Decidable (s.Backed l) :=
  match l with
  | .check a now => inferInstanceAs (Decidable (∀ p ∈ s.node a,
      Expired p.runtime.electionInProgress p.runtime.electionStart now →
      ∀ peer ∈ higher p.runtime.id p.runtime.cluster,
        higher peer.1 p.runtime.cluster = [] ∧ s.Leads peer.2))
  | .start .. | .deliver .. => isTrue trivial

/-- What an effect of a backed step keeps and sends. -/
theorem Inv.effect (h : Inv leader replicas top s) (ht : IsTop leader replicas top)
    (ha : Member leader replicas a) {node node' : NodeRuntime α} {l : Label}
    {flight out : List (SocketAddr × Message α)} (hnode : s.node a = some ⟨node, none⟩)
    (hset : Settled leader replicas top a node) (he : Effect s a node l flight node' out)
    (hc : s.Backed l) :
    Kept top a node node' ∧ (∀ m ∈ flight, m ∈ s.flight) ∧
      ∀ m ∈ out, Proper leader replicas top (s.Leads top) m := by
  have hnothing : ∀ m ∈ ([] : List (SocketAddr × Message α)),
      Proper leader replicas top (s.Leads top) m := fun m hm => absurd hm List.not_mem_nil
  have hcalm : (none : Option Nat).isSome = true → a ≠ top := fun hb => absurd hb Bool.false_ne_true
  cases he with
  | starts now => exact ⟨hset.elect ht ha now, fun m hm => hm, hset.elect_proper ha now⟩
  | asked k now candidateId candidateAddr hk =>
    have hproper := h.flight _ (List.mem_of_getElem? hk)
    refine ⟨hset.elect ht ha now, fun m hm => List.mem_of_mem_eraseIdx hm, fun m hm => ?_⟩
    rcases List.mem_cons.mp hm with rfl | hm
    · exact hproper.2.1
    · exact hset.elect_proper ha now m hm
  | answered k now responderId hk =>
    exact ⟨kept_electing node hcalm, fun m hm => List.mem_of_mem_eraseIdx hm, hnothing⟩
  | follows k now leaderId leaderAddr hk hlt =>
    obtain ⟨-, hfrom, hid, -⟩ := h.flight _ (List.mem_of_getElem? hk)
    have hne : a ≠ top := by
      rintro rfl
      rw [hset.id, hid] at hlt
      exact ht.not_lt hfrom hlt
    exact ⟨kept_follow node leaderAddr hne, fun m hm => List.mem_of_mem_eraseIdx hm, hnothing⟩
  | keeps k now leaderId leaderAddr hk hlt =>
    exact ⟨kept_electing node hcalm, fun m hm => List.mem_of_mem_eraseIdx hm, hnothing⟩
  | expires now hexp =>
    refine ⟨kept_announced node, fun m hm => hm, hset.announcing ha fun b hb hlt => ?_⟩
    have hpeer : (getIdGivenAddr b, b) ∈ higher node.id node.cluster := by
      refine List.mem_filter.mpr ⟨(hset.view.mem_peersOf _).mpr ⟨hb, rfl⟩, ?_⟩
      exact decide_eq_true (hset.id ▸ hlt)
    obtain ⟨hnone, hleads⟩ := hc _ hnode hexp _ hpeer
    have hbt : b = top := by
      by_contra hne
      exact (hset.view.higher_eq_nil.mp hnone) top ht.member (ht.above b hb hne)
    exact ⟨hbt, hbt ▸ hleads⟩
  | waits now => exact ⟨⟨rfl, rfl, rfl, hset.idle, fun _ hl => hl⟩, fun m hm => hm, hnothing⟩

theorem Inv.step (h : Inv leader replicas top s) (ht : IsTop leader replicas top) {l : Label}
    (hc : s.Backed l) (hs : s.step l = some s') : Inv leader replicas top s' := by
  obtain ⟨a, node, flight, node', out, ha, hnode, hset, he, rfl⟩ := h.step_cases hs
  obtain ⟨hk, hsub, hout⟩ := h.effect ht ha hnode hset he hc
  exact h.turn ha hnode hset hk hsub hout

theorem exists_top (leader : SocketAddr) (replicas : Keys SocketAddr)
    (hids : ∀ a b, Member leader replicas a → Member leader replicas b →
      getIdGivenAddr a = getIdGivenAddr b → a = b) :
    ∃ top, IsTop leader replicas top := by
  have hne : (leader :: replicas.toList).toFinset.Nonempty :=
    ⟨leader, List.mem_toFinset.mpr List.mem_cons_self⟩
  obtain ⟨top, htop, hmax⟩ :=
    Finset.exists_max_image (leader :: replicas.toList).toFinset
      (fun a => (getIdGivenAddr a).toNat) hne
  have hmember : Member leader replicas top := List.mem_cons.mp (List.mem_toFinset.mp htop)
  refine ⟨top, hmember, fun a ha hat => ?_⟩
  have hle := hmax a (List.mem_toFinset.mpr (List.mem_cons.mpr ha))
  rw [UInt64.lt_iff_toNat_lt]
  refine Nat.lt_of_le_of_ne hle fun heq => hat ?_
  exact hids a top ha hmember (UInt64.toNat_inj.mp heq)

/-- A standing cluster has distinct ids, and so a greatest member. -/
theorem Standing.exists_top (h : Standing s leader replicas) :
    ∃ top, IsTop leader replicas top := by
  obtain ⟨node, -, -, -, hview, -⟩ := h.node leader (.inl rfl)
  exact Bully.exists_top leader replicas fun a b ha hb => hview.id_injective ha hb

theorem backed_inv (h₀ : Standing s leader replicas) (ht : IsTop leader replicas top)
    {ls : List Label} (hc : Meets step Backed s ls) (hr : Lib.run step s ls = some s') :
    Inv leader replicas top s' :=
  run_induct_meets (P := Inv leader replicas top) (fun _ _ _ h hb hs => h.step ht hb hs) hr hc
    (h₀.inv top)

/-- **No higher node is crashed.** In a run whose expired election checks find above
    their node only the greatest member, leading, no member ever panics: no replica
    handles an announcement from a lower id. -/
theorem slow_replies_safe (h₀ : Standing s leader replicas) {ls : List Label}
    (hc : Meets step Backed s ls) (hr : Lib.run step s ls = some s') (hp : s'.node a = some p) :
    p.fault = none ∧
      ∀ self leaderId leaderAddr, p.runtime = .replica self →
        (a, .coordinator leaderId leaderAddr) ∈ s'.flight → ¬ leaderId < self.id := by
  obtain ⟨top, ht⟩ := h₀.exists_top
  have h := backed_inv h₀ ht hc hr
  have ha : Member leader replicas a := by
    by_contra hno
    rw [h.nobody a hno] at hp
    cases hp
  obtain ⟨node, hnode, hset⟩ := h.node a ha
  obtain rfl : p = ⟨node, none⟩ := Option.some.inj (hp.symm.trans hnode)
  refine ⟨rfl, fun self leaderId leaderAddr hrep hm hlt => ?_⟩
  have hid : self.id = getIdGivenAddr a := by
    rw [← hset.id]
    exact (congrArg NodeRuntime.id hrep).symm
  obtain ⟨-, -, -, hlow | ⟨hat, -, q, hq, hleads⟩⟩ := h.flight _ hm
  · rw [hid] at hlt
    exact UInt64.lt_asymm hlt hlow
  · rw [← hat, hnode] at hq
    obtain rfl := Option.some.inj hq
    have hfalse : (NodeRuntime.replica self).leads = true := hrep ▸ hleads
    cases hfalse

end Invariant

/-! ## Runs without timeouts -/

section Agreement

variable [AddrHash] {leader top : SocketAddr} {replicas : Keys SocketAddr} {s s' : Bully α}
  {a : SocketAddr} {node node' : NodeRuntime α} {l : Label}
  {flight out : List (SocketAddr × Message α)}

/-- The greatest member leads, and every other one follows it or is being told to. -/
structure Agreed (leader : SocketAddr) (replicas : Keys SocketAddr) (top : SocketAddr)
    (s : Bully α) : Prop where
  leads : s.Leads top
  told : ∀ b, Member leader replicas b → b ≠ top →
    (∃ leaderId, (b, .coordinator leaderId top) ∈ s.flight) ∨
      ∃ p, s.node b = some p ∧ p.runtime.follows = some top

/-- An election has reached the greatest member, or will. -/
def Moving (leader : SocketAddr) (replicas : Keys SocketAddr) (top : SocketAddr)
    (s : Bully α) : Prop :=
  (∃ candidateId candidateAddr, (top, .election candidateId candidateAddr) ∈ s.flight) ∨
    Agreed leader replicas top s

/-- Only the greatest member announces itself, and who waits for an answer has set
    an election off. -/
structure Timely (leader : SocketAddr) (replicas : Keys SocketAddr) (top : SocketAddr)
    (s : Bully α) : Prop where
  inv : Inv leader replicas top s
  sole : ∀ b leaderId leaderAddr, (b, .coordinator leaderId leaderAddr) ∈ s.flight →
    leaderAddr = top
  busy : ∀ b p, s.node b = some p → p.runtime.electionInProgress = true →
    Moving leader replicas top s

omit [AddrHash] in
theorem mem_eraseIdx_of_ne {γ : Type} {xs : List γ} {k : Nat} {x y : γ} (hk : xs[k]? = some x)
    (hy : y ∈ xs) (hne : y ≠ x) : y ∈ xs.eraseIdx k := by
  obtain ⟨j, hj⟩ := List.mem_iff_getElem?.mp hy
  refine List.mem_eraseIdx_iff_getElem?.mpr ⟨j, ?_, hj⟩
  rintro rfl
  exact hne (Option.some.inj (hj.symm.trans hk))

/-- A turn that announces the greatest member. -/
theorem Agreed.announce (hset : Settled leader replicas top top node)
    (htop : Member leader replicas top) (hout : ∀ m ∈ node.announcing, m ∈ out) :
    Agreed leader replicas top
      { node := Function.update s.node top (some ⟨node.announced, none⟩), flight := flight ++ out }
    where
  leads := ⟨_, Function.update_self .., node.announced_leads⟩
  told b hb hne := by
    have hid : getIdGivenAddr b ≠ node.id := fun heq =>
      hne (hset.view.id_injective hb htop (heq.trans hset.id))
    have hm : (b, .coordinator node.id node.address) ∈ announcements (α := α) node.id node.address
        node.cluster := (hset.view.mem_announcements _).mpr ⟨b, hb, hid, rfl⟩
    rw [hset.address] at hm
    exact .inl ⟨node.id, List.mem_append_right _ (hout _ (hset.address ▸ hm))⟩

omit [AddrHash] in
/-- What keeps an election going through the turn of another node, or of one that
    goes on following. -/
theorem Moving.turn (h : Moving leader replicas top s) (hnode : s.node a = some ⟨node, none⟩)
    (hk : Kept top a node node')
    (hasked : ∀ candidateId candidateAddr,
      (top, .election candidateId candidateAddr) ∈ s.flight →
        (top, .election candidateId candidateAddr) ∈ flight)
    (htold : ∀ b leaderId, (b, .coordinator leaderId top) ∈ s.flight →
      (b, .coordinator leaderId top) ∈ flight ∨ b = a ∧ node'.follows = some top)
    (hfollows : a ≠ top → node.follows = some top → node'.follows = some top) :
    Moving leader replicas top
      { node := Function.update s.node a (some ⟨node', none⟩), flight := flight ++ out } := by
  rcases h with ⟨candidateId, candidateAddr, hm⟩ | hagreed
  · exact .inl ⟨candidateId, candidateAddr, List.mem_append_left _ (hasked _ _ hm)⟩
  · refine .inr ⟨?_, fun b hb hne => ?_⟩
    · obtain ⟨p, hp, hl⟩ := hagreed.leads
      by_cases hat : top = a
      · rw [hat, hnode] at hp
        obtain rfl := Option.some.inj hp
        exact ⟨⟨node', none⟩, hat ▸ Function.update_self .., hk.leads hat.symm hl⟩
      · exact ⟨p, (Function.update_of_ne hat ..).trans hp, hl⟩
    · rcases hagreed.told b hb hne with ⟨leaderId, hm⟩ | ⟨p, hp, hf⟩
      · rcases htold b leaderId hm with hm | ⟨rfl, hf⟩
        · exact .inl ⟨leaderId, List.mem_append_left _ hm⟩
        · exact .inr ⟨_, Function.update_self .., hf⟩
      · by_cases hba : b = a
        · rw [hba, hnode] at hp
          obtain rfl := Option.some.inj hp
          refine .inr ⟨⟨node', none⟩, ?_, hfollows (hba ▸ hne) hf⟩
          rw [hba]
          exact Function.update_self ..
        · exact .inr ⟨p, (Function.update_of_ne hba ..).trans hp, hf⟩

/-- Starting an election leaves the role of any member but the greatest. -/
theorem elect_follows (hset : Settled leader replicas top a node)
    (ht : IsTop leader replicas top) (ha : Member leader replicas a) (now : Nat) (hne : a ≠ top) :
    (node.elect now).1.follows = node.follows := by
  obtain ⟨-, heq⟩ | ⟨hnone, -⟩ | ⟨-, heq⟩ := elect_cases node now
  · rw [heq]
  · exact absurd ((hset.top_iff ht ha).mp hnone) hne
  · rw [heq]
    exact node.electing_follows _

/-- Only the greatest member's election announces anything. -/
theorem elect_sole (hset : Settled leader replicas top a node)
    (ht : IsTop leader replicas top) (ha : Member leader replicas a) (now : Nat)
    {b leaderAddr : SocketAddr} {leaderId : NodeId}
    (hm : (b, .coordinator leaderId leaderAddr) ∈ (node.elect now).2) : leaderAddr = top := by
  obtain ⟨-, heq⟩ | ⟨hnone, heq⟩ | ⟨-, heq⟩ := elect_cases node now
  · rw [heq] at hm
    cases hm
  · rw [heq] at hm
    obtain ⟨c, -, -, hc⟩ := (hset.view.mem_announcements _).mp hm
    injection (Prod.mk.inj hc).2 with _ haddr
    rw [haddr, hset.address]
    exact (hset.top_iff ht ha).mp hnone
  · rw [heq] at hm
    obtain ⟨c, -, -, hc⟩ := (hset.view.mem_elections _).mp hm
    cases (Prod.mk.inj hc).2

/-- An election started by an idle node, or by one that waits while an election is
    under way, is on its way to the greatest member. -/
theorem Timely.elect (h : Timely leader replicas top s) (ht : IsTop leader replicas top)
    (ha : Member leader replicas a) (hnode : s.node a = some ⟨node, none⟩)
    (hset : Settled leader replicas top a node) (now : Nat)
    (hout : ∀ m ∈ (node.elect now).2, m ∈ out)
    (hasked : ∀ candidateId candidateAddr, a ≠ top →
      (top, .election candidateId candidateAddr) ∈ s.flight →
        (top, .election candidateId candidateAddr) ∈ flight)
    (htold : ∀ b leaderId, (b, .coordinator leaderId top) ∈ s.flight →
      (b, .coordinator leaderId top) ∈ flight) :
    Moving leader replicas top
      { node := Function.update s.node a (some ⟨(node.elect now).1, none⟩)
        flight := flight ++ out } := by
  obtain ⟨hbusy, heq⟩ | ⟨hnone, heq⟩ | ⟨hsome, heq⟩ := elect_cases node now
  · have hne := hset.idle hbusy
    refine (h.busy a _ hnode hbusy).turn hnode (hset.elect ht ha now)
      (fun _ _ hm => hasked _ _ hne hm) (fun b _ hm => .inl (htold b _ hm)) fun _ hf => ?_
    rw [elect_follows hset ht ha now hne, hf]
  · obtain rfl := (hset.top_iff ht ha).mp hnone
    rw [heq] at hout ⊢
    exact .inr (Agreed.announce hset ha hout)
  · have hne : a ≠ top := fun hat => hsome ((hset.top_iff ht ha).mpr hat)
    rw [heq] at hout ⊢
    have hlt : node.id < getIdGivenAddr top := hset.id ▸ ht.above a ha hne
    have hm : (top, .election node.id node.address) ∈ elections (α := α) node.id node.address
        node.cluster := (hset.view.mem_elections _).mpr ⟨top, ht.member, hlt, rfl⟩
    exact .inl ⟨_, _, List.mem_append_right _ (hout _ hm)⟩

/-- The election check of a node. -/
def Label.isCheck : Label → Bool
  | .check .. => true
  | _ => false

/-- A node starts an election. -/
def Label.isStart : Label → Bool
  | .start .. => true
  | _ => false

/-- What a step without a timeout does to the election under way, and whom it lets
    announce itself. -/
theorem Timely.effect (h : Timely leader replicas top s) (ht : IsTop leader replicas top)
    (ha : Member leader replicas a) (hnode : s.node a = some ⟨node, none⟩)
    (hset : Settled leader replicas top a node) (he : Effect s a node l flight node' out)
    (hl : l.isCheck = false) (hk : Kept top a node node')
    (hs' : s' = { node := Function.update s.node a (some ⟨node', none⟩), flight := flight ++ out }) :
    (Moving leader replicas top s ∨ node'.electionInProgress = true ∨ l.isStart = true →
      Moving leader replicas top s') ∧
    ∀ b leaderId leaderAddr, (b, .coordinator leaderId leaderAddr) ∈ out → leaderAddr = top := by
  subst hs'
  have hsilent : ∀ (b : SocketAddr) (leaderId : NodeId) (leaderAddr : SocketAddr),
      (b, Message.coordinator leaderId leaderAddr) ∈ ([] : List (SocketAddr × Message α)) →
        leaderAddr = top := fun _ _ _ hm => absurd hm List.not_mem_nil
  cases he with
  | starts now =>
    refine ⟨fun _ => ?_, fun b leaderId leaderAddr hm => elect_sole hset ht ha now hm⟩
    exact h.elect ht ha hnode hset now (fun m hm => hm) (fun _ _ _ hm => hm) fun _ _ hm => hm
  | asked k now candidateId candidateAddr hget =>
    refine ⟨fun _ => ?_, fun b leaderId leaderAddr hm => ?_⟩
    · refine h.elect ht ha hnode hset now (fun m hm => List.mem_cons_of_mem _ hm)
        (fun _ _ hne hm => ?_) fun _ _ hm => ?_
      · exact mem_eraseIdx_of_ne hget hm fun heq => hne (Prod.mk.inj heq).1.symm
      · exact mem_eraseIdx_of_ne hget hm fun heq => by cases (Prod.mk.inj heq).2
    · rcases List.mem_cons.mp hm with heq | hm
      · cases (Prod.mk.inj heq).2
      · exact elect_sole hset ht ha now hm
  | answered k now responderId hget =>
    refine ⟨fun hmoving => ?_, hsilent⟩
    rcases hmoving with hmoving | hbusy | hstart
    · refine hmoving.turn hnode hk (fun _ _ hm => ?_) (fun _ _ hm => .inl ?_) fun _ hf => ?_
      · exact mem_eraseIdx_of_ne hget hm fun heq => by cases (Prod.mk.inj heq).2
      · exact mem_eraseIdx_of_ne hget hm fun heq => by cases (Prod.mk.inj heq).2
      · exact (node.electing_follows none).trans hf
    · rw [node.electing_electionInProgress] at hbusy
      cases hbusy
    · cases hstart
  | follows k now leaderId leaderAddr hget hlt =>
    obtain rfl := h.sole _ _ _ (List.mem_of_getElem? hget)
    refine ⟨fun hmoving => ?_, hsilent⟩
    rcases hmoving with hmoving | hbusy | hstart
    · refine hmoving.turn hnode hk (fun _ _ hm => ?_) (fun b leaderId' hm => ?_) fun _ _ => ?_
      · exact mem_eraseIdx_of_ne hget hm fun heq => by cases (Prod.mk.inj heq).2
      · by_cases hb : b = a
        · exact .inr ⟨hb, node.follow_follows _⟩
        · exact .inl (mem_eraseIdx_of_ne hget hm fun heq => hb (Prod.mk.inj heq).1)
      · exact node.follow_follows _
    · rw [node.follow_electionInProgress] at hbusy
      cases hbusy
    · cases hstart
  | keeps k now leaderId leaderAddr hget hlt =>
    have hm := List.mem_of_getElem? hget
    obtain ⟨-, -, hid, -⟩ := h.inv.flight _ hm
    rw [hid, h.sole _ _ _ hm, hset.id] at hlt
    exact absurd hlt (ht.not_lt ha)
  | expires now hexp => cases hl
  | waits now => cases hl

theorem Timely.step (h : Timely leader replicas top s) (ht : IsTop leader replicas top)
    (hl : l.isCheck = false) (hs : s.step l = some s') :
    Timely leader replicas top s' ∧
      (Moving leader replicas top s ∨ l.isStart = true → Moving leader replicas top s') := by
  have hbacked : s.Backed l := by
    cases l with
    | check a now => cases hl
    | start a now => trivial
    | deliver k now => trivial
  obtain ⟨a, node, flight, node', out, ha, hnode, hset, he, hs'⟩ := h.inv.step_cases hs
  obtain ⟨hk, hsub, -⟩ := h.inv.effect ht ha hnode hset he hbacked
  obtain ⟨hmoves, hsole⟩ := h.effect ht ha hnode hset he hl hk hs'
  refine ⟨⟨h.inv.step ht hbacked hs, ?_, ?_⟩, fun hm => hmoves (hm.imp_right .inr)⟩
  · intro b leaderId leaderAddr hm
    rw [hs'] at hm
    rcases List.mem_append.mp hm with hm | hm
    · exact h.sole b leaderId leaderAddr (hsub _ hm)
    · exact hsole b leaderId leaderAddr hm
  · intro b p hp hbusy
    by_cases hba : b = a
    · have hnode' : s'.node a = some ⟨node', none⟩ := by
        rw [hs']
        exact Function.update_self ..
      rw [hba, hnode'] at hp
      obtain rfl := Option.some.inj hp
      exact hmoves (.inr (.inl hbusy))
    · have hother : s'.node b = s.node b := by
        rw [hs']
        exact Function.update_of_ne hba ..
      rw [hother] at hp
      exact hmoves (.inl (h.busy b p hp hbusy))

theorem Standing.timely (h : Standing s leader replicas) : Timely leader replicas top s where
  inv := h.inv top
  sole _ _ _ hm := by
    rw [h.flight] at hm
    cases hm
  busy b p hp hbusy := by
    have hb : Member leader replicas b := by
      by_contra hno
      rw [h.nobody b hno] at hp
      cases hp
    obtain ⟨node, hnode, -, -, -, hidle, -⟩ := h.node b hb
    obtain rfl := Option.some.inj (hp.symm.trans hnode)
    rw [hidle] at hbusy
    cases hbusy

theorem timely_run (h : Timely leader replicas top s) (ht : IsTop leader replicas top)
    {ls : List Label} (hls : ∀ l ∈ ls, l.isCheck = false) (hr : Lib.run step s ls = some s') :
    Timely leader replicas top s' ∧
      (Moving leader replicas top s ∨ (∃ l ∈ ls, l.isStart = true) →
        Moving leader replicas top s') := by
  induction ls generalizing s with
  | nil =>
    obtain rfl : s = s' := by simpa [Lib.run] using hr
    refine ⟨h, fun hm => hm.resolve_right ?_⟩
    rintro ⟨l, hl, -⟩
    cases hl
  | cons l ls ih =>
    obtain ⟨s₁, hs, hr⟩ := run_cons.mp hr
    obtain ⟨h₁, hmoves⟩ := h.step ht (hls l List.mem_cons_self) hs
    obtain ⟨h', hmoves'⟩ := ih h₁ (fun m hm => hls m (List.mem_cons_of_mem _ hm)) hr
    refine ⟨h', fun hm => hmoves' ?_⟩
    rcases hm with hm | ⟨m, hm, hstart⟩
    · exact .inl (hmoves (.inl hm))
    · rcases List.mem_cons.mp hm with rfl | hm
      · exact .inl (hmoves (.inr hstart))
      · exact .inr ⟨m, hm, hstart⟩

/-- **Agreement.** In a run without timeouts no member panics, and once elections
    were started and nothing is under way, the member with the greatest id leads and
    every other one is a replica that follows it. -/
theorem bully_agreement (h₀ : Standing s leader replicas) {ls : List Label}
    (hls : ∀ l ∈ ls, l.isCheck = false) (hr : Lib.run step s ls = some s') :
    (∀ a, Member leader replicas a → ∃ p, s'.node a = some p ∧ p.fault = none) ∧
    (∀ a, ¬ Member leader replicas a → s'.node a = none) ∧
    ((∃ l ∈ ls, l.isStart = true) → s'.flight = [] →
      ∃ top, Member leader replicas top ∧
        (∀ b, Member leader replicas b → getIdGivenAddr b ≤ getIdGivenAddr top) ∧
        (∃ p self, s'.node top = some p ∧ p.runtime = .leader self) ∧
        ∀ b, Member leader replicas b → b ≠ top →
          ∃ p self, s'.node b = some p ∧ p.runtime = .replica self ∧ self.leaderAddr = top) := by
  obtain ⟨top, ht⟩ := h₀.exists_top
  obtain ⟨h, hmoves⟩ := timely_run h₀.timely ht hls hr
  refine ⟨fun a ha => ?_, h.inv.nobody,
    fun hstarted hquiet => ⟨top, ht.member, fun b hb => ?_, ?_⟩⟩
  · obtain ⟨node, hnode, -⟩ := h.inv.node a ha
    exact ⟨_, hnode, rfl⟩
  · exact UInt64.not_lt.mp (ht.not_lt hb)
  · rcases hmoves (.inr hstarted) with ⟨_, _, hm⟩ | hagreed
    · rw [hquiet] at hm
      cases hm
    · constructor
      · obtain ⟨p, hp, hleads⟩ := hagreed.leads
        cases hrole : p.runtime with
        | leader self => exact ⟨p, self, hp, hrole⟩
        | replica self =>
          rw [hrole] at hleads
          cases hleads
      · intro b hb hne
        rcases hagreed.told b hb hne with ⟨_, hm⟩ | ⟨p, hp, hfollows⟩
        · rw [hquiet] at hm
          cases hm
        · cases hrole : p.runtime with
          | leader self =>
            rw [hrole] at hfollows
            cases hfollows
          | replica self =>
            rw [hrole] at hfollows
            exact ⟨p, self, hp, hrole, Option.some.inj hfollows⟩

end Agreement

/-! ## Two nodes and three -/

section Example

/-- A leader and replicas with full views. -/
def stand [AddrHash] (leader : SocketAddr) (others : List SocketAddr) : Bully α where
  node a :=
    if a = leader then
      some ⟨.leader { Leader.start a with cluster := fullView (leader :: others) }, none⟩
    else if a ∈ others then
      some ⟨.replica { Replica.start a leader with cluster := fullView (leader :: others) }, none⟩
    else none
  flight := []

theorem stand_standing [AddrHash] {leader : SocketAddr} {others : List SocketAddr}
    (h : ((leader :: others).map getIdGivenAddr).Nodup) (hnodup : others.Nodup) :
    Standing (stand (α := α) leader others) leader ⟨others, hnodup⟩ := by
  refine ⟨fun a ha => ?_, fun a ha => ?_, rfl⟩
  · by_cases hl : a = leader
    · exact ⟨_, if_pos hl, rfl, rfl, fullView_view h hnodup, rfl, fun _ => rfl,
        fun hne => absurd hl hne⟩
    · exact ⟨_, (if_neg hl).trans (if_pos (ha.resolve_left hl)), rfl, rfl,
        fullView_view h hnodup, rfl, fun heq => absurd heq hl, fun _ => rfl⟩
  · exact (if_neg fun hl => ha (.inl hl)).trans (if_neg fun ho => ha (.inr ho))

local instance bullyHash : AddrHash := localHash

/-- A replica with the lowest id asks the other two, and its check after two seconds comes
    before their answers. The other replica gets its messages in order: it is asked, and then it
    is told that the lowest one leads. -/
theorem slow_replies_crash :
    ∃ (s : Bully Nat) (p : Peer Nat),
      Standing (stand (α := Nat) (localAddr 5002) [localAddr 5000, localAddr 5001])
        (localAddr 5002) ⟨[localAddr 5000, localAddr 5001], by decide⟩ ∧
      Lib.run step (stand (localAddr 5002) [localAddr 5000, localAddr 5001])
        [.start (localAddr 5001) 0, .check (localAddr 5001) 2000, .deliver 1 2000,
          .deliver 2 2000] = some s ∧
      s.node (localAddr 5000) = some p ∧
      p.fault = some (.panic "leader_id should not be less than self") := by
  have hrun : (Lib.run step (stand (α := Nat) (localAddr 5002) [localAddr 5000, localAddr 5001])
      [.start (localAddr 5001) 0, .check (localAddr 5001) 2000, .deliver 1 2000,
        .deliver 2 2000]).any
      (fun s => (s.node (localAddr 5000)).any fun p =>
        decide (p.fault = some (.panic "leader_id should not be less than self"))) = true := by
    decide +kernel
  obtain ⟨s, hs, hnode⟩ := (Option.any_eq_true _ _).mp hrun
  obtain ⟨p, hp, hfault⟩ := (Option.any_eq_true _ _).mp hnode
  exact ⟨s, p, stand_standing (by decide +kernel) _, hs, hp, of_decide_eq_true hfault⟩

/-- The leader, with the higher id, is found not to answer in time and keeps the lead. -/
theorem slow_replies_safe_example :
    ∃ (s : Bully Nat) (p : Peer Nat),
      Lib.run step (stand (localAddr 5000) [localAddr 5001])
        [.start (localAddr 5001) 0, .check (localAddr 5001) 2000, .deliver 1 2000] = some s ∧
      s.node (localAddr 5000) = some p ∧ p.runtime.leads = true ∧ p.fault = none := by
  have hrun : (Lib.run step (stand (α := Nat) (localAddr 5000) [localAddr 5001])
      [.start (localAddr 5001) 0, .check (localAddr 5001) 2000, .deliver 1 2000]).any
      (fun s => (s.node (localAddr 5000)).any fun p => p.runtime.leads) = true := by
    decide +kernel
  obtain ⟨s, hs, hnode⟩ := (Option.any_eq_true _ _).mp hrun
  obtain ⟨p, hp, hleads⟩ := (Option.any_eq_true _ _).mp hnode
  have hstand : Standing (stand (α := Nat) (localAddr 5000) [localAddr 5001]) (localAddr 5000)
      ⟨[localAddr 5001], List.nodup_singleton _⟩ := stand_standing (by decide +kernel) _
  have hbacked : Meets step Backed (stand (α := Nat) (localAddr 5000) [localAddr 5001])
      [.start (localAddr 5001) 0, .check (localAddr 5001) 2000, .deliver 1 2000] := by
    decide +kernel
  exact ⟨s, p, hs, hp, hleads, (slow_replies_safe hstand hbacked hs hp).1⟩

/-- The leader has the lower id: it asks the replica, which takes over. -/
theorem bully_agreement_example :
    ∃ (s : Bully Nat) (top : SocketAddr),
      Lib.run step (stand (localAddr 5001) [localAddr 5000])
        [.start (localAddr 5001) 0, .deliver 0 1, .deliver 0 2, .deliver 0 3] = some s ∧
      s.flight = [] ∧ (∃ p self, s.node top = some p ∧ p.runtime = .leader self) ∧
      getIdGivenAddr (localAddr 5000) ≤ getIdGivenAddr top := by
  have hrun : (Lib.run step (stand (α := Nat) (localAddr 5001) [localAddr 5000])
      [.start (localAddr 5001) 0, .deliver 0 1, .deliver 0 2, .deliver 0 3]).any
      (fun s => s.flight.isEmpty) = true := by decide +kernel
  obtain ⟨s, hs, hquiet⟩ := (Option.any_eq_true _ _).mp hrun
  have hstand : Standing (stand (α := Nat) (localAddr 5001) [localAddr 5000]) (localAddr 5001)
      ⟨[localAddr 5000], List.nodup_singleton _⟩ := stand_standing (by decide +kernel) _
  obtain ⟨-, -, hagreed⟩ := bully_agreement hstand (by decide) hs
  obtain ⟨top, -, hmax, hleads, -⟩ := hagreed (by decide) (List.isEmpty_iff.mp hquiet)
  exact ⟨s, top, hs, List.isEmpty_iff.mp hquiet, hleads, hmax _ (.inr (by decide +kernel))⟩

end Example

end Bully

end YpfRuta.Cluster
