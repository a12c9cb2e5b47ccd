/-
  The leader's members by address. The cluster map is keyed by a hash of the address,
  so a member is lost sight of when another address with the same id joins or leaves.
-/
import YpfRuta.Lib.Transition
import YpfRuta.Server.Outcome

namespace YpfRuta.Server

open Lib

variable {α : Type}

/-! ## A map keyed by id -/

/-- Every entry of the map is under the id of its address. -/
def Keyed [AddrHash] (m : HashMap NodeId SocketAddr) : Prop :=
  ∀ k a, m.lookup k = some a → k = getIdGivenAddr a

section Keyed

variable [AddrHash] {m : HashMap NodeId SocketAddr}

theorem mem_values_iff (h : Keyed m) (a : SocketAddr) :
    a ∈ m.values ↔ m.lookup (getIdGivenAddr a) = some a := by
  unfold HashMap.values
  constructor
  · intro ha
    obtain ⟨e, he, rfl⟩ := List.mem_map.mp ha
    have hlook : m.lookup e.1 = some e.2 := AList.mem_lookup_iff.mpr he
    rw [← h e.1 e.2 hlook]
    exact hlook
  · intro ha
    exact List.mem_map.mpr ⟨⟨_, a⟩, AList.mem_lookup_iff.mp ha, rfl⟩

theorem Keyed.insert (h : Keyed m) (a : SocketAddr) : Keyed (m.insert (getIdGivenAddr a) a) := by
  intro k b hb
  by_cases hk : k = getIdGivenAddr a
  · rw [hk, AList.lookup_insert] at hb
    rw [hk, Option.some.inj hb]
  · rw [AList.lookup_insert_ne hk] at hb
    exact h k b hb

theorem Keyed.erase (h : Keyed m) (a : SocketAddr) : Keyed (m.erase (getIdGivenAddr a)) := by
  intro k b hb
  by_cases hk : k = getIdGivenAddr a
  · rw [hk, AList.lookup_erase] at hb
    cases hb
  · rw [AList.lookup_erase_ne hk] at hb
    exact h k b hb

/-- A new entry takes the place of every address with its id. -/
theorem mem_values_insert (h : Keyed m) (a b : SocketAddr) :
    b ∈ HashMap.values (m.insert (getIdGivenAddr a) a) ↔
      b = a ∨ b ∈ m.values ∧ getIdGivenAddr b ≠ getIdGivenAddr a := by
  rw [mem_values_iff (h.insert a), mem_values_iff h]
  by_cases hid : getIdGivenAddr b = getIdGivenAddr a
  · rw [hid, AList.lookup_insert]
    constructor
    · intro hab
      exact .inl (Option.some.inj hab).symm
    · rintro (rfl | ⟨-, hne⟩)
      · rfl
      · exact absurd rfl hne
  · rw [AList.lookup_insert_ne hid]
    constructor
    · exact fun hb => .inr ⟨hb, hid⟩
    · rintro (rfl | ⟨hb, -⟩)
      · exact absurd rfl hid
      · exact hb

theorem mem_values_erase (h : Keyed m) (a b : SocketAddr) :
    b ∈ HashMap.values (m.erase (getIdGivenAddr a)) ↔
      b ∈ m.values ∧ getIdGivenAddr b ≠ getIdGivenAddr a := by
  rw [mem_values_iff (h.erase a), mem_values_iff h]
  by_cases hid : getIdGivenAddr b = getIdGivenAddr a
  · rw [hid, AList.lookup_erase]
    exact iff_of_false (fun hb => by cases hb) fun hb => hb.2 rfl
  · rw [AList.lookup_erase_ne hid]
    exact ⟨fun hb => ⟨hb, hid⟩, And.left⟩

end Keyed

/-! ## The members over a run -/

/-- A leader, and the addresses that joined it and were not lost since. -/
structure Roster (α : Type) where
  leader : Leader α
  joined : List SocketAddr

/-- Who is a member by what was heard of joins and losses. -/
def heard (joined : List SocketAddr) : Event α → List SocketAddr
  | .nodeMsg (.ok (.join addr)) => addr :: joined
  | .nodeMsg (.error (.connectionLostWith addr)) => joined.filter (· ≠ addr)
  | _ => joined

/-- The event replaces the whole cluster map. -/
def isView : Event α → Bool
  | .nodeMsg (.ok (.clusterView ..)) => true
  | _ => false

namespace Roster

variable [AddrHash]

def start (address : SocketAddr) : Roster α := ⟨.start address, []⟩

/-- One turn of a connected leader that stays one, at a given time. Its sends
    succeed. -/
def step (r : Roster α) (l : Event α × Nat) : Option (Roster α) :=
  match NodeRuntime.turn l.1
      { self := .leader r.leader, connected := true, outcomes := [], now := l.2, sent := [],
        told := [], commands := [] } with
  | .ok _ t =>
    match t.self with
    | .leader self => some ⟨self, heard r.joined l.1⟩
    | .replica _ => none
  | .error .. => none

omit [AddrHash] in
/-- The map holds the leader's own address and those that joined, and no others. -/
def Exact (r : Roster α) : Prop :=
  ∀ a, a ∈ r.leader.cluster.values ↔ a = r.leader.address ∨ a ∈ r.joined

/-- The address that joins or leaves shares its id with no other member, and the one
    that leaves is not the leader's own. -/
def Distinct (r : Roster α) (l : Event α × Nat) : Prop :=
  match l.1 with
  | .nodeMsg (.ok (.join addr)) =>
    ∀ b ∈ r.leader.cluster.values, getIdGivenAddr b = getIdGivenAddr addr → b = addr
  | .nodeMsg (.error (.connectionLostWith addr)) =>
    ∀ b ∈ r.leader.cluster.values, getIdGivenAddr b = getIdGivenAddr addr →
      b = addr ∧ b ≠ r.leader.address
  | _ => True

instance (r : Roster α) (l : Event α × Nat) : Decidable (r.Distinct l) := by
  unfold Distinct
  split <;> infer_instance

/-- An online leader whose map is keyed by id and which knows itself. -/
structure Sound (r : Roster α) : Prop where
  keyed : Keyed r.leader.cluster
  online : r.leader.isOffline = false

theorem start_sound (address : SocketAddr) : (start (α := α) address).Sound where
  keyed := by
    refine Keyed.insert (fun k a h => ?_) address
    cases h
  online := rfl

theorem start_exact (address : SocketAddr) : (start (α := α) address).Exact := by
  intro a
  have hempty : Keyed (∅ : HashMap NodeId SocketAddr) := fun k a h => by cases h
  show a ∈ HashMap.values ((∅ : HashMap NodeId SocketAddr).insert _ address) ↔ _
  rw [mem_values_insert hempty]
  simp [HashMap.values, start, Leader.start]

/-- What a turn changes of the members: an address is put in or taken out. -/
inductive Moves (r : Roster α) : Event α → Roster α → Prop where
  | joins (addr : SocketAddr) (self : Leader α)
      (hc : self.cluster = r.leader.cluster.insert (getIdGivenAddr addr) addr)
      (ha : self.address = r.leader.address) (ho : self.isOffline = r.leader.isOffline) :
      Moves r (.nodeMsg (.ok (.join addr))) ⟨self, addr :: r.joined⟩
  | leaves (addr : SocketAddr) (self : Leader α)
      (hc : self.cluster = r.leader.cluster.erase (getIdGivenAddr addr))
      (ha : self.address = r.leader.address) (ho : self.isOffline = r.leader.isOffline) :
      Moves r (.nodeMsg (.error (.connectionLostWith addr))) ⟨self, r.joined.filter (· ≠ addr)⟩
  | stays (event : Event α) (self : Leader α)
      (hjoin : ∀ addr, event ≠ .nodeMsg (.ok (.join addr)))
      (hlost : ∀ addr, event ≠ .nodeMsg (.error (.connectionLostWith addr)))
      (hc : self.cluster = r.leader.cluster) (ha : self.address = r.leader.address)
      (ho : self.isOffline = r.leader.isOffline) :
      Moves r event ⟨self, r.joined⟩

omit [AddrHash] in
/-- Electing changes no member, whatever becomes of the node. -/
theorem elect_leader {node : NodeRuntime α} {now : Nat} {self : Leader α}
    (h : (node.elect now).1 = .leader self) : self.cluster = node.cluster ∧
      self.address = node.address ∧ self.isOffline = node.isOffline := by
  have hcluster : (node.elect now).1.cluster = node.cluster := by
    unfold NodeRuntime.elect
    split
    · rfl
    · split
      · exact NodeRuntime.announced_cluster node
      · exact NodeRuntime.electing_cluster node _
  have haddress : (node.elect now).1.address = node.address := by
    unfold NodeRuntime.elect
    split
    · rfl
    · split
      · exact NodeRuntime.announced_address node
      · exact NodeRuntime.electing_address node _
  have honline : (node.elect now).1.isOffline = node.isOffline := by
    unfold NodeRuntime.elect
    split
    · rfl
    · split <;> cases node <;> rfl
  rw [h] at hcluster haddress honline
  exact ⟨hcluster, haddress, honline⟩

/-- A turn without a view moves at most the address of its event. -/
theorem moves_of_outcome {r : Roster α} {self : Leader α} {event : Event α} {now : Nat}
    {out : List (SocketAddr × Message α)} {commands : List (OpId × Operation α)}
    (hv : isView event = false)
    (h : Outcome now event none (.leader r.leader) (.leader self) out commands) :
    r.Moves event ⟨self, heard r.joined event⟩ := by
  obtain ⟨leader, joined⟩ := r
  have hasks : ∀ {reqId : ReqId} {op : Operation α} {addr : SocketAddr},
      Asks leader.address event reqId op addr → self.cluster = leader.cluster →
      self.address = leader.address → self.isOffline = leader.isOffline →
      Moves ⟨leader, joined⟩ event ⟨self, heard joined event⟩ := by
    intro reqId op addr ha hc hadd ho
    cases ha <;> exact .stays _ _ nofun nofun hc hadd ho
  generalize hnode : NodeRuntime.leader leader = node at h
  generalize hnode' : NodeRuntime.leader self = node' at h
  cases h with
  | leader hs =>
    obtain rfl := NodeRuntime.leader.inj hnode
    obtain rfl := NodeRuntime.leader.inj hnode'
    cases hs with
    | executes ha _ => exact hasks ha rfl rfl rfl
    | replicates ha _ _ => exact hasks ha rfl rfl rfl
    | admits addr => exact .joins addr _ rfl rfl rfl
    | views => cases hv
    | _ => exact .stays _ _ nofun nofun rfl rfl rfl
  | replica hs => cases hnode
  | sways hs =>
    subst hnode
    cases hs with
    | asked candidateAddr hlt =>
      obtain ⟨hc, ha, ho⟩ := elect_leader hnode'.symm
      exact .stays _ _ nofun nofun hc ha ho
    | follows leaderAddr hlt => cases hnode'
    | demoted leaderAddr => cases hnode'
    | losesPeer addr =>
      obtain rfl := NodeRuntime.leader.inj hnode'
      exact .leaves addr _ rfl rfl rfl
    | _ =>
      obtain rfl := NodeRuntime.leader.inj hnode'
      exact .stays _ _ nofun nofun rfl rfl rfl

/-- **What a turn can do to the members.** -/
theorem step_moves {r r' : Roster α} {l : Event α × Nat} (hr : r.Sound) (hev : l.1.Online)
    (hv : isView l.1 = false) (h : r.step l = some r') : r.Moves l.1 r' := by
  have hturns : Turns ⟨.leader r.leader, true, [], l.2, [], [], []⟩ l.1 :=
    turn_outcome ⟨rfl, rfl⟩ hr.online hev
  obtain ⟨fault, t, out, commands, hturn, hturned⟩ := hturns
  unfold step at h
  rw [hturn] at h
  cases fault with
  | some e => cases h
  | none =>
    cases hself : t.self with
    | replica self =>
      rw [ending] at h
      dsimp only at h
      rw [hself] at h
      cases h
    | leader self =>
      rw [ending] at h
      dsimp only at h
      rw [hself] at h
      have hout := hturned.outcome
      rw [hself] at hout
      rw [← Option.some.inj h]
      exact moves_of_outcome hv hout

theorem Moves.sound {r r' : Roster α} {event : Event α} (h : r.Moves event r') (hr : r.Sound) :
    r'.Sound := by
  cases h with
  | joins addr self hc ha ho => exact ⟨hc ▸ hr.keyed.insert addr, ho.trans hr.online⟩
  | leaves addr self hc ha ho => exact ⟨hc ▸ hr.keyed.erase addr, ho.trans hr.online⟩
  | stays event self _ _ hc ha ho => exact ⟨hc ▸ hr.keyed, ho.trans hr.online⟩

/-- **A turn keeps the map exact exactly when no other member shares the id** of the
    address that joins or leaves. -/
theorem Moves.exact_iff {r r' : Roster α} {event : Event α} (h : r.Moves event r')
    (hr : r.Sound) (hx : r.Exact) (now : Nat) : r'.Exact ↔ r.Distinct (event, now) := by
  obtain ⟨leader, joined⟩ := r
  cases h with
  | joins addr self hc ha ho =>
    show (∀ b, b ∈ self.cluster.values ↔ _) ↔ ∀ b ∈ leader.cluster.values, _
    have hmem : ∀ b, b ∈ self.cluster.values ↔
        b = addr ∨ b ∈ leader.cluster.values ∧ getIdGivenAddr b ≠ getIdGivenAddr addr := by
      intro b
      rw [hc]
      exact mem_values_insert hr.keyed addr b
    constructor
    · intro hx' b hb hid
      have hin : b = self.address ∨ b ∈ addr :: joined := by
        rw [ha]
        exact ((hx b).mp hb).imp id (List.mem_cons_of_mem _)
      exact ((hmem b).mp ((hx' b).mpr hin)).resolve_right fun h => h.2 hid
    · intro hd b
      rw [hmem, ha, List.mem_cons]
      constructor
      · rintro (rfl | ⟨hb, -⟩)
        · exact .inr (.inl rfl)
        · exact ((hx b).mp hb).imp id .inr
      · intro hb
        by_cases hadd : b = addr
        · exact .inl hadd
        · have hin : b ∈ leader.cluster.values :=
            (hx b).mpr (hb.imp id fun h => h.resolve_left hadd)
          exact .inr ⟨hin, fun hid => hadd (hd b hin hid)⟩
  | leaves addr self hc ha ho =>
    show (∀ b, b ∈ self.cluster.values ↔ _) ↔ ∀ b ∈ leader.cluster.values, _
    have hmem : ∀ b, b ∈ self.cluster.values ↔
        b ∈ leader.cluster.values ∧ getIdGivenAddr b ≠ getIdGivenAddr addr := by
      intro b
      rw [hc]
      exact mem_values_erase hr.keyed addr b
    have hfilter : ∀ b, b ∈ joined.filter (· ≠ addr) ↔ b ∈ joined ∧ b ≠ addr := by
      intro b
      rw [List.mem_filter]
      exact and_congr_right fun _ => decide_eq_true_iff
    constructor
    · intro hx' b hb hid
      -- `b` is taken out, so it was neither the leader itself nor to be kept
      have hout : ¬ (b = self.address ∨ b ∈ joined.filter (· ≠ addr)) := by
        intro hin
        exact ((hmem b).mp ((hx' b).mpr hin)).2 hid
      have hown : b ≠ leader.address := fun he => hout (.inl (he.trans ha.symm))
      refine ⟨?_, hown⟩
      by_contra hne
      exact hout (.inr ((hfilter b).mpr ⟨((hx b).mp hb).resolve_left hown, hne⟩))
    · intro hd b
      rw [hmem, ha, hfilter]
      constructor
      · rintro ⟨hb, hid⟩
        exact ((hx b).mp hb).imp id fun h => ⟨h, fun he => hid (he ▸ rfl)⟩
      · intro hb
        have hin : b ∈ leader.cluster.values := (hx b).mpr (hb.imp id And.left)
        refine ⟨hin, fun hid => ?_⟩
        obtain ⟨hadd, hown⟩ := hd b hin hid
        exact hb.elim hown fun h => h.2 hadd
  | stays event self hj hl hc ha ho =>
    refine iff_of_true (fun b => ?_) ?_
    · show b ∈ self.cluster.values ↔ b = self.address ∨ b ∈ joined
      rw [hc, ha]
      exact hx b
    · unfold Distinct
      split
      · rename_i addr he
        exact absurd he (hj addr)
      · rename_i addr he
        exact absurd he (hl addr)
      · exact True.intro

end Roster

/-- **When the cluster map is exact.** From the start of a leader, over any joins, losses
    and other turns, the map holds at every moment exactly the leader's own address and
    those that joined and were not lost since, if and only if no address joins or is lost
    that shares its id with another member, and the leader's own is not lost. -/
theorem membership_exact [AddrHash] {address : SocketAddr} {ls : List (Event α × Nat)}
    {r : Roster α} (hls : ∀ l ∈ ls, l.1.Online ∧ isView l.1 = false)
    (hr : run Roster.step (Roster.start address) ls = some r) :
    (∀ ks r', ks <+: ls → run Roster.step (Roster.start address) ks = some r' → r'.Exact) ↔
      Meets Roster.step Roster.Distinct (Roster.start (α := α) address) ls := by
  refine holds_along_iff (I := Roster.Sound) (fun s l s' hs hl h => ?_)
    (fun s l s' hs hx hl h => ?_) hr hls (Roster.start_sound address) (Roster.start_exact address)
  · exact (Roster.step_moves hs hl.1 hl.2 h).sound hs
  · exact (Roster.step_moves hs hl.1 hl.2 h).exact_iff hs hx l.2

section Example

/-- `DefaultHasher` on the leader's port, on port 5001 and on two ports whose ids are the
    same. -/
@[reducible] def collidingHash : AddrHash where
  finish addr :=
    if addr = localAddr 5000 then 1265621479440074650
    else if addr = localAddr 5001 then 14609617484844525379
    else if addr = localAddr 5107 then 3922053213875854157
    else if addr = localAddr 5322 then 3732961089331454157
    else 0

local instance membersHash : AddrHash := collidingHash

/-- Three nodes join the leader at port 5000 and two are lost. The third joins when the first
    one, whose id it has, is gone. -/
def comings : List (Event Nat × Nat) :=
  [(.nodeMsg (.ok (.join (localAddr 5107))), 0), (.nodeMsg (.ok (.join (localAddr 5001))), 0),
    (.nodeMsg (.error (.connectionLostWith (localAddr 5107))), 0),
    (.nodeMsg (.ok (.join (localAddr 5322))), 0),
    (.nodeMsg (.error (.connectionLostWith (localAddr 5001))), 0)]

theorem membership_exact_example :
    ∃ r : Roster Nat, run Roster.step (Roster.start (localAddr 5000)) comings = some r ∧
      r.joined = [localAddr 5322] ∧ r.leader.cluster.len = 2 ∧
      ∀ ks r', ks <+: comings →
        run Roster.step (Roster.start (localAddr 5000)) ks = some r' → r'.Exact := by
  have hrun : (run (Roster.step (α := Nat)) (Roster.start (localAddr 5000)) comings).any
        (fun r => decide (r.joined = [localAddr 5322] ∧ r.leader.cluster.len = 2)) = true ∧
      Meets Roster.step Roster.Distinct (Roster.start (α := Nat) (localAddr 5000)) comings := by
    decide +kernel
  obtain ⟨hrun, hdistinct⟩ := hrun
  obtain ⟨r, hr, hvals⟩ := (Option.any_eq_true _ _).mp hrun
  obtain ⟨hjoined, hlen⟩ := of_decide_eq_true hvals
  refine ⟨r, hr, hjoined, hlen, (membership_exact (fun l hl => ?_) hr).mpr hdistinct⟩
  simp only [comings, List.mem_cons, List.not_mem_nil, or_false] at hl
  obtain rfl | rfl | rfl | rfl | rfl := hl <;> exact ⟨True.intro, rfl⟩

/-- Two nodes join the leader at port 5000. -/
def twoJoins : List (Event Nat × Nat) :=
  [(.nodeMsg (.ok (.join (localAddr 5107))), 0), (.nodeMsg (.ok (.join (localAddr 5322))), 0)]

/-- Ports 5107 and 5322 have one id: the second join takes the first member's place. -/
theorem membership_not_exact :
    ∃ r : Roster Nat, run Roster.step (Roster.start (localAddr 5000)) twoJoins = some r ∧
      localAddr 5107 ∈ r.joined ∧ ¬ localAddr 5107 ∈ r.leader.cluster.values ∧ ¬ r.Exact := by
  have hrun : (run (Roster.step (α := Nat)) (Roster.start (localAddr 5000)) twoJoins).any (fun r =>
      decide (localAddr 5107 ∈ r.joined ∧ ¬ localAddr 5107 ∈ r.leader.cluster.values)) = true := by
    decide +kernel
  obtain ⟨r, hr, hvals⟩ := (Option.any_eq_true _ _).mp hrun
  obtain ⟨hin, hout⟩ := of_decide_eq_true hvals
  exact ⟨r, hr, hin, hout, fun h => hout ((h _).mpr (.inr hin))⟩

end Example

end YpfRuta.Server
