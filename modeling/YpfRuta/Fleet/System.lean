/-
  The fleet: a cluster of nodes with their databases, and at addresses outside it stations with
  their client nodes and administrators (`client/src/node_client/main.rs`,
  `client/src/administrator/main.rs`, `server/src/main.rs`).

  A client's messages reach a node in the order it sent them, and a node's reach a client
  likewise; how many have is counted, so that none is taken twice. A role response waits at
  the head of its stream for ever: without joins nobody asks a client for its role.
-/
import YpfRuta.Admin.Answers
import YpfRuta.Client.Verdicts
import YpfRuta.Cluster.Clients
import YpfRuta.Cluster.Linearizable

namespace YpfRuta.Fleet

open Lib Server
open Client (DebugFmt)
open Station (FromStr)
open Admin (FixedFmt)

variable {Amount : Type} [Currency Amount]

/-- A station and its client node. -/
structure Site [Currency Amount] where
  numPumps : Nat
  node : Client.StationNode Amount numPumps

/-- Who speaks to the cluster from an address outside it. -/
inductive Party where
  | station (x : Site)
  | desk (d : Admin.Session Amount)

/-- What a party has sent, and to whom. -/
def Party.sent : Party → List (SocketAddr × Message Amount)
  | .station x => x.node.session.sent
  | .desk d => d.sent

structure State where
  cluster : Cluster.Databases.State
  party : SocketAddr → Option Party
  /-- How many messages of the party at the first address have reached the node at the
      second. -/
  arrived : SocketAddr → SocketAddr → Nat
  /-- How many messages of the node at the first address the party at the second has
      received. -/
  received : SocketAddr → SocketAddr → Nat

inductive Label where
  /-- A step of the cluster, or a request from an address without a party. -/
  | cluster (l : Cluster.Databases.Label)
  /-- A step of the station at `a` that receives no message. -/
  | site (a : SocketAddr) (l : Client.StationNode.Label Amount)
  /-- A step of the administrator at `a` that receives no message. -/
  | desk (a : SocketAddr) (event : Admin.Event Amount)
  /-- The oldest message of the party at `a` reaches node `dst`. -/
  | request (a dst : SocketAddr)
  /-- The party at `a` receives the oldest message of node `src`. -/
  | response (src a : SocketAddr) (outcomes : List (Option AppError))

/-- Who a request that comes in from outside names. -/
def client? : Cluster.Databases.Label → Option SocketAddr
  | .cluster (.request _ _ _ addr) => some addr
  | _ => none

def bump (count : SocketAddr → SocketAddr → Nat) (a b : SocketAddr) :
    SocketAddr → SocketAddr → Nat :=
  fun a' b' => if a' = a ∧ b' = b then count a b + 1 else count a' b'

namespace State

/-- What the party at `a` has under way to node `dst`. -/
def uplink (s : State) (a dst : SocketAddr) : List (Message Amount) :=
  (s.party a).elim [] fun p => (Cluster.sentTo dst p.sent).drop (s.arrived a dst)

/-- What node `src` has under way to the party at `a`. -/
def downlink (s : State) (src a : SocketAddr) : List (Message Amount) :=
  (s.cluster.cluster.link src a).drop (s.received src a)

def setParty (s : State) (a : SocketAddr) (p : Party) : State :=
  { s with party := Function.update s.party a (some p) }

variable [AddrHash] [DebugFmt Amount] [FromStr Amount] [FixedFmt Amount]

/-- The station at `a` takes a step. -/
def onSite (s : State) (a : SocketAddr) (l : Client.StationNode.Label Amount) : Option State :=
  match s.party a with
  | some (.station x) =>
    (x.node.step l).map fun node => s.setParty a (.station { x with node := node })
  | _ => none

omit [AddrHash] [DebugFmt Amount] in
/-- The administrator at `a` takes a step. -/
def onDesk (s : State) (a : SocketAddr) (event : Admin.Event Amount) : Option State :=
  match s.party a with
  | some (.desk d) => (d.step event).map fun d => s.setParty a (.desk d)
  | _ => none

def step (s : State) : Label → Option State
  | .cluster l =>
    if (client? l).any fun addr => (s.party addr).isSome then none
    else (s.cluster.step l).map fun cluster => { s with cluster := cluster }
  | .site _ (.receive (.ok _) _) => none
  | .site a l => s.onSite a l
  | .desk _ (.received (.ok _)) => none
  | .desk a event => s.onDesk a event
  | .request a dst =>
    match s.uplink a dst with
    | .request reqId op addr :: _ =>
      (s.cluster.step (.cluster (.request dst reqId op addr))).map fun cluster =>
        { s with cluster := cluster, arrived := bump s.arrived a dst }
    | _ => none
  | .response src a outcomes =>
    match s.downlink src a, s.party a with
    | msg :: _, some (.station _) =>
      { s with received := bump s.received src a }.onSite a (.receive (.ok msg) outcomes)
    | msg :: _, some (.desk _) =>
      { s with received := bump s.received src a }.onDesk a (.received (.ok msg))
    | _, _ => none

end State

/-- A party at `a` that has just started. -/
def Party.Started (a : SocketAddr) : Party → Prop
  | .station x => ∃ knownNodes, x.node = .start x.numPumps a knownNodes
  | .desk d => ∃ targetNode accountId, d = .start (.new a targetNode accountId)

/-- A cluster nothing has been asked of, and parties at other addresses that have just
    started. -/
structure Launched [AddrHash] (s : State) (leader : SocketAddr) (replicas : Keys SocketAddr) :
    Prop where
  fresh : Cluster.Fresh s.cluster.cluster leader replicas
  databases : ∀ a, s.cluster.database a = .init
  parties : ∀ a p, s.party a = some p → a ≠ leader ∧ ¬ a ∈ replicas ∧ p.Started a

/-- The nodes and links take the steps of a run without failures and membership changes. -/
def Label.Steady : Label → Prop
  | .cluster l => l.Steady
  | _ => True

instance (l : Label) : Decidable l.Steady :=
  match l with
  | .cluster l => inferInstanceAs (Decidable (Cluster.Databases.Label.Steady l))
  | .site .. | .desk .. | .request .. | .response .. => isTrue True.intro

/-- No operation overtakes another on its way through the actors of a database. -/
def InOrder (s : State) : Label → Prop
  | .cluster l => Cluster.Databases.InOrder s.cluster l
  | _ => True

instance (s : State) (l : Label) : Decidable (InOrder s l) :=
  match l with
  | .cluster l => inferInstanceAs (Decidable (Cluster.Databases.InOrder s.cluster l))
  | .site .. | .desk .. | .request .. | .response .. => isTrue True.intro

/-! ## Steps -/

section Does

variable [AddrHash] [DebugFmt Amount] [FromStr Amount] [FixedFmt Amount] {s s' : State} {l : Label}

/-- **What a step can do.** -/
inductive Does (s : State) : Label → State → Prop where
  | cluster {l : Cluster.Databases.Label} {c : Cluster.Databases.State}
      (hforeign : ∀ dst reqId op addr, l = .cluster (.request dst reqId op addr) →
        s.party addr = none)
      (hc : s.cluster.step l = some c) : Does s (.cluster l) { s with cluster := c }
  | request {a dst addr : SocketAddr} {p : Party} {reqId : ReqId} {op : Operation Amount}
      {c : Cluster.Databases.State} (hp : s.party a = some p)
      (hsent : (dst, .request reqId op addr) ∈ p.sent)
      (hc : s.cluster.step (.cluster (.request dst reqId op addr)) = some c) :
      Does s (.request a dst) { s with cluster := c, arrived := bump s.arrived a dst }
  | site {l : Label} {a : SocketAddr} {x : Site} {k : Client.StationNode.Label Amount}
      {node : Client.StationNode Amount x.numPumps} {received : SocketAddr → SocketAddr → Nat}
      (hx : s.party a = some (.station x)) (hk : x.node.step k = some node)
      (hmsg : ∀ msg outcomes, k = .receive (.ok msg) outcomes →
        ∃ src, msg ∈ s.cluster.cluster.link src a)
      (hline : ∀ text draws, k = .line text draws → l = .site a k) :
      Does s l ({ s with received := received }.setParty a (.station { x with node := node }))
  | desk {l : Label} {a : SocketAddr} {d d' : Admin.Session Amount} {event : Admin.Event Amount}
      {received : SocketAddr → SocketAddr → Nat} (hd : s.party a = some (.desk d))
      (hstep : d.step event = some d')
      (hmsg : ∀ msg, event = .received (.ok msg) → ∃ src, msg ∈ s.cluster.cluster.link src a) :
      Does s l ({ s with received := received }.setParty a (.desk d'))

omit [FixedFmt Amount] in
theorem onSite_eq_some {a : SocketAddr} {k : Client.StationNode.Label Amount}
    (hs : s.onSite a k = some s') : ∃ (x : Site) (node : Client.StationNode Amount x.numPumps),
      s.party a = some (.station x) ∧ x.node.step k = some node ∧
      s' = s.setParty a (.station { x with node := node }) := by
  unfold State.onSite at hs
  split at hs
  · next x hx =>
    obtain ⟨node, hnode, rfl⟩ := Option.map_eq_some_iff.mp hs
    exact ⟨x, node, hx, hnode, rfl⟩
  · cases hs

omit [AddrHash] [DebugFmt Amount] in
theorem onDesk_eq_some {a : SocketAddr} {event : Admin.Event Amount}
    (hs : s.onDesk a event = some s') : ∃ d d', s.party a = some (.desk d) ∧
      d.step event = some d' ∧ s' = s.setParty a (.desk d') := by
  unfold State.onDesk at hs
  split at hs
  · next d hd =>
    obtain ⟨d', hstep, rfl⟩ := Option.map_eq_some_iff.mp hs
    exact ⟨d, d', hd, hstep, rfl⟩
  · cases hs

theorem step_does (hs : s.step l = some s') : Does s l s' := by
  cases l with
  | cluster l =>
    simp only [State.step] at hs
    split at hs
    · cases hs
    · next hclient =>
      obtain ⟨c, hc, rfl⟩ := Option.map_eq_some_iff.mp hs
      refine .cluster (fun dst reqId op addr hl => ?_) hc
      subst hl
      simpa [client?] using hclient
  | site a k =>
    have hnone : (∀ msg outcomes, k ≠ .receive (.ok msg) outcomes) → s.onSite a k = some s' →
        Does s (.site a k) s' := by
      intro hk hs
      obtain ⟨x, node, hx, hnode, rfl⟩ := onSite_eq_some hs
      exact .site hx hnode (fun msg outcomes he => absurd he (hk msg outcomes)) fun _ _ _ => rfl
    cases k with
    | receive msg outcomes =>
      cases msg with
      | ok msg => cases hs
      | error e => exact hnone (fun _ _ he => by cases he) hs
    | _ => exact hnone (fun _ _ he => by cases he) hs
  | desk a event =>
    have hnone : (∀ msg, event ≠ .received (.ok msg)) → s.onDesk a event = some s' →
        Does s (.desk a event) s' := by
      intro hevent hs
      obtain ⟨d, d', hd, hstep, rfl⟩ := onDesk_eq_some hs
      exact .desk hd hstep fun msg he => absurd he (hevent msg)
    cases event with
    | received msg =>
      cases msg with
      | ok msg => cases hs
      | error e => exact hnone (fun _ he => by cases he) hs
    | _ => exact hnone (fun _ he => by cases he) hs
  | request a dst =>
    simp only [State.step] at hs
    split at hs
    · next reqId op addr rest hup =>
      obtain ⟨c, hc, rfl⟩ := Option.map_eq_some_iff.mp hs
      unfold State.uplink at hup
      cases hp : s.party a with
      | none =>
        rw [hp] at hup
        cases hup
      | some p =>
        rw [hp] at hup
        have hmem := List.mem_of_mem_drop (hup ▸ List.mem_cons_self :
          .request reqId op addr ∈ (Cluster.sentTo dst p.sent).drop _)
        obtain ⟨q, hq, hmsg⟩ := List.mem_map.mp hmem
        obtain ⟨hq, hdst⟩ := List.mem_filter.mp hq
        refine .request hp ?_ hc
        rw [← hmsg, ← of_decide_eq_true hdst]
        exact hq
    · cases hs
  | response src a outcomes =>
    simp only [State.step] at hs
    split at hs
    · next msg rest x hdown hx =>
      obtain ⟨x, node, hx, hnode, rfl⟩ := onSite_eq_some hs
      refine .site hx hnode (fun m _ hk => ?_) fun _ _ hk => by cases hk
      cases hk
      exact ⟨src, List.mem_of_mem_drop (hdown ▸ List.mem_cons_self : msg ∈ s.downlink src a)⟩
    · next msg rest d hdown hd =>
      obtain ⟨d, d', hd, hstep, rfl⟩ := onDesk_eq_some hs
      refine .desk hd hstep fun m hm => ?_
      cases hm
      exact ⟨src, List.mem_of_mem_drop (hdown ▸ List.mem_cons_self : msg ∈ s.downlink src a)⟩
    · cases hs

end Does

/-! ## One party's step -/

namespace State

theorem setParty_eq_some {s : State} {a b : SocketAddr} {p q : Party}
    (h : (s.setParty a p).party b = some q) : b = a ∧ q = p ∨ b ≠ a ∧ s.party b = some q := by
  have h : Function.update s.party a (some p) b = some q := h
  by_cases hb : b = a
  · subst hb
    rw [Function.update_self] at h
    exact .inl ⟨rfl, (Option.some.inj h).symm⟩
  · rw [Function.update_of_ne hb] at h
    exact .inr ⟨hb, h⟩

end State

end YpfRuta.Fleet
