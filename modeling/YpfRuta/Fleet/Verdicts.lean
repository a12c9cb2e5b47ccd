/-
  The answers of the whole fleet. A pump's verdict is that of the charge typed for it in one
  sequential execution of everything the leader's database was sent, or the client has let the
  charge through offline and keeps it until it is replayed; what an administrator prints are the
  results of its own requests in this execution, and it never panics. No request is made in the
  name of a party that it did not send.

  The invariant looks at one part at a time: the cluster takes steps of its own, and so does
  each party. What passes between them is on record on both sides.
-/
import YpfRuta.Fleet.System

namespace YpfRuta.Fleet

open Lib Server
open Client (DebugFmt)
open Station (FromStr)
open Admin (FixedFmt)

section

variable {Amount : Type} [Currency Amount] [FixedFmt Amount]

/-- Everything the pumps of a site were told. -/
def Site.told (x : Site) : List NodeToStationMsg :=
  x.node.session.turns.flatMap Client.Turn.told

def requestId? : SocketAddr × Message Amount → Option ReqId
  | (_, .request reqId _ _) => some reqId
  | _ => none

/-- The ids of the requests a site's client sent. -/
def Site.requestIds (x : Site) : List ReqId := x.node.session.sent.filterMap requestId?

/-- A request in the name of a party is one that it sent. -/
def State.Backed (s : State) (reqId : ReqId) (op : Operation Amount) (addr : SocketAddr) : Prop :=
  ∀ p, s.party addr = some p → ∃ target, (target, .request reqId op addr) ∈ p.sent

/-- What a run keeps of the station at `a`. -/
structure SiteInv (c : Cluster.State Amount) (a : SocketAddr) (x : Site) : Prop where
  bound : x.node.session.client.bindAddr = a
  pumps : x.node.Inv
  sourced : x.node.Sourced
  heard : ∀ turn ∈ x.node.session.turns, ∀ msg, turn.event = .nodeMsg (.ok msg) →
    ∃ src, msg ∈ c.link src a

/-- What a run keeps of the administrator at `a`. -/
structure DeskInv (c : Cluster.State Amount) (a : SocketAddr) (d : Admin.Session Amount) :
    Prop where
  sound : ∃ targetNode accountId, Admin.Session.Sound (.new a targetNode accountId) d
  printed : d.Printed
  heard : ∀ msg ∈ d.received, ∃ src, msg ∈ c.link src a

def PartyInv (c : Cluster.State Amount) (a : SocketAddr) : Party → Prop
  | .station x => SiteInv c a x
  | .desk d => DeskInv c a d

/-- What a run from `c₀` keeps. -/
structure Inv [AddrHash] (c₀ : Cluster.Databases.State) (leader : SocketAddr)
    (replicas : Keys SocketAddr) (s : State) : Prop where
  run : ∃ ks, Lib.run Cluster.Databases.State.step c₀ ks = some s.cluster ∧ ∀ k ∈ ks, k.Steady
  cluster : ∃ n lead, Cluster.Attends leader replicas s.Backed s.cluster.cluster n lead
  outside : ∀ a p, s.party a = some p → a ≠ leader ∧ ¬ a ∈ replicas
  parties : ∀ a p, s.party a = some p → PartyInv s.cluster.cluster a p

section Verdicts

variable [AddrHash] {c₀ c : Cluster.Databases.State} {leader : SocketAddr}
  {replicas : Keys SocketAddr} {s s' s₀ : State}

theorem Launched.inv (h : Launched s leader replicas) : Inv s.cluster leader replicas s := by
  refine ⟨⟨[], rfl, fun k hk => by cases hk⟩, h.fresh.attends _, fun a p hp => ?_,
    fun a p hp => ?_⟩
  · obtain ⟨hl, hr, -⟩ := h.parties a p hp
    exact ⟨hl, hr⟩
  · obtain ⟨-, -, hstarted⟩ := h.parties a p hp
    cases p with
    | station x =>
      obtain ⟨knownNodes, hnode⟩ := hstarted
      have hturns : x.node.session.turns = [] := by
        rw [hnode]
        rfl
      refine ⟨?_, ?_, ?_, fun turn ht => ?_⟩
      · rw [hnode]
        rfl
      · rw [hnode]
        exact Client.StationNode.inv_start a knownNodes
      · rw [hnode]
        exact Client.StationNode.sourced_start a knownNodes
      · rw [hturns] at ht
        cases ht
    | desk d =>
      obtain ⟨targetNode, accountId, rfl⟩ := hstarted
      exact ⟨⟨targetNode, accountId, .start _⟩, .start _, fun msg hmsg => by cases hmsg⟩

omit [AddrHash] in
/-- What waits for a party only grows. -/
theorem PartyInv.mono {c c' : Cluster.State Amount} {a : SocketAddr} {p : Party}
    (h : PartyInv c a p) (hgrows : ∀ src, c.link src a ⊆ c'.link src a) : PartyInv c' a p := by
  cases p with
  | station x =>
    have h : SiteInv c a x := h
    refine ⟨h.bound, h.pumps, h.sourced, fun turn ht msg hmsg => ?_⟩
    obtain ⟨src, hmem⟩ := h.heard turn ht msg hmsg
    exact ⟨src, hgrows src hmem⟩
  | desk d =>
    have h : DeskInv c a d := h
    refine ⟨h.sound, h.printed, fun msg hmsg => ?_⟩
    obtain ⟨src, hmem⟩ := h.heard msg hmsg
    exact ⟨src, hgrows src hmem⟩

/-- The books of the databases, and what the nodes have heard from them. -/
theorem Inv.books (h : Inv s₀.cluster leader replicas s) (h₀ : Launched s₀ leader replicas)
    (hpos : 1 ≤ replicas.toList.length) :
    s.cluster.Kept ∧ Cluster.Databases.Heard s.cluster := by
  obtain ⟨ks, hks, hsteady⟩ := h.run
  exact ⟨(Cluster.Databases.steady_kept h₀.fresh h₀.databases hpos hsteady hks).1,
    Cluster.Databases.run_heard h₀.fresh hks⟩

/-! ## Steps of the cluster -/

theorem Inv.moves (h : Inv s₀.cluster leader replicas s) (h₀ : Launched s₀ leader replicas)
    (hpos : 1 ≤ replicas.toList.length) {k : Cluster.Databases.Label} (hk : k.Steady)
    (hnew : ∀ dst reqId op addr, k = .cluster (.request dst reqId op addr) →
      s.Backed reqId op addr)
    (hc : s.cluster.step k = some c) (arrived : SocketAddr → SocketAddr → Nat) :
    Inv s₀.cluster leader replicas { s with cluster := c, arrived := arrived } := by
  obtain ⟨ks, hks, hsteady⟩ := h.run
  obtain ⟨n, lead, hattends⟩ := h.cluster
  have hkept := (h.books h₀ hpos).1
  obtain ⟨-, ms, hmatch, hms⟩ := Cluster.Databases.step_matches hkept
    (Cluster.Databases.executed_distinct hattends.inv) hc
  have hbrings : ∀ m ∈ ms, m.Steady ∧ m.Brings s.Backed := by
    refine fun m hm => ⟨hmatch.steady hk m hm, fun dst reqId op addr he => ?_⟩
    subst he
    cases hmatch with
    | cluster l =>
      obtain rfl := List.mem_singleton.mp hm
      exact hnew dst reqId op addr rfl
    | actor dst l => cases hm
    | debug dst => cases hm
    | result dst k r => cases List.mem_singleton.mp hm
  have hown : ∀ reqId op addr, addr = leader ∨ addr ∈ replicas → s.Backed reqId op addr := by
    intro reqId op addr haddr p hp
    exact absurd haddr (not_or.mpr (h.outside addr p hp))
  obtain ⟨n', lead', hattends', hgrows⟩ := hattends.run hpos hown hbrings hms
  refine ⟨⟨ks ++ [k], run_concat.mpr ⟨_, hks, hc⟩, fun l hl => ?_⟩, ⟨n', lead', hattends'⟩,
    h.outside, fun a p hp => ?_⟩
  · rcases List.mem_append.mp hl with hl | hl
    · exact hsteady l hl
    · rw [List.mem_singleton.mp hl]
      exact hk
  · obtain ⟨hl, hr⟩ := h.outside a p hp
    exact (h.parties a p hp).mono fun src => hgrows a hl hr src

/-! ## Steps of a party -/

omit [AddrHash] in
omit [Currency Amount] [FixedFmt Amount] in
/-- The result of a charge is a verdict. -/
theorem charge_of_fits {c : Client.Charge Amount} {op : Operation Amount}
    {result : OperationResult Amount} (hop : ∃ offline, op = c.operation offline)
    (h : Actors.ResultOf op result) : ∃ verdict, result = .charge verdict := by
  obtain ⟨offline, rfl⟩ := hop
  cases result with
  | charge verdict => exact ⟨verdict, rfl⟩
  | _ => exact h.elim

/-- What waits for a party is the leader's answer to a request that it sent. -/
theorem Inv.answer (h : Inv c₀ leader replicas s) {a src : SocketAddr} {p : Party}
    (hp : s.party a = some p) {msg : Message Amount} (hmsg : msg ∈ s.cluster.cluster.link src a) :
    ∃ n lead, Cluster.Inv leader replicas s.cluster.cluster n lead ∧
      ∃ e ∈ n.assigned, e.2.clientAddr = a ∧
        (∃ target, (target, .request e.2.requestId e.2.op a) ∈ p.sent) ∧
        ∃ answer ∈ n.answers, answer.opId = e.1 ∧
          msg = .response e.2.requestId answer.result := by
  obtain ⟨n, lead, hattends⟩ := h.cluster
  obtain ⟨hl, hr⟩ := h.outside a p hp
  obtain ⟨e, he, haddr, hanswer⟩ := hattends.replied a hl hr src msg hmsg
  have hbacked := hattends.requested.assigned e he
  rw [haddr] at hbacked
  exact ⟨n, lead, hattends.inv, e, he, haddr, hbacked p hp, hanswer⟩

/-- A response that waits for a party is of the kind of an operation that it sent. -/
theorem Inv.fits (h : Inv s₀.cluster leader replicas s) (h₀ : Launched s₀ leader replicas)
    (hpos : 1 ≤ replicas.toList.length) {a src : SocketAddr} {p : Party}
    (hp : s.party a = some p) {r : ReqId} {result : OperationResult Amount}
    (hmsg : .response r result ∈ s.cluster.cluster.link src a) :
    ∃ op target, (target, .request r op a) ∈ p.sent ∧ Actors.ResultOf op result := by
  obtain ⟨hkept, hheard⟩ := h.books h₀ hpos
  obtain ⟨n, lead, hinv, e, he, -, ⟨target, hsent⟩, answer, ha, hid, hresp⟩ := h.answer hp hmsg
  obtain ⟨rfl, rfl⟩ := Message.response.inj hresp
  exact ⟨e.2.op, target, hsent, Cluster.Databases.answer_fits hkept hinv hheard he ha hid⟩

omit [AddrHash] in
omit [FixedFmt Amount] in
/-- A request of a client is for a charge that its station asked for. -/
theorem SiteInv.charge {c : Cluster.State Amount} {a : SocketAddr} {x : Site}
    (h : SiteInv c a x) {target addr : SocketAddr} {reqId : ReqId}
    {op : Operation Amount} (hsent : (target, .request reqId op addr) ∈ x.node.session.sent) :
    addr = a ∧ ∃ c, x.node.Asked c ∧
      (op = c.operation false ∧ reqId = c.requestId ∨ op = c.operation true) := by
  obtain ⟨id, role, hrole⟩ | ⟨c, hc, hmsg | ⟨id, hmsg⟩⟩ := h.sourced.sent _ hsent
  · cases hrole
  · obtain ⟨rfl, rfl, rfl⟩ := Message.request.inj hmsg
    exact ⟨h.bound, c, hc, .inl ⟨rfl, rfl⟩⟩
  · obtain ⟨rfl, rfl, rfl⟩ := Message.request.inj hmsg
    exact ⟨h.bound, c, hc, .inr rfl⟩

omit [AddrHash] in
/-- A request of an administrator is for its own account. -/
theorem DeskInv.own {c : Cluster.State Amount} {a : SocketAddr} {d : Admin.Session Amount}
    (h : DeskInv c a d) {target addr : SocketAddr} {reqId : ReqId} {op : Operation Amount}
    (hsent : (target, .request reqId op addr) ∈ d.sent) :
    addr = a ∧ Admin.Own d.admin.accountId op := by
  obtain ⟨targetNode, accountId, hsound⟩ := h.sound
  obtain ⟨reqId', op', heq, hown⟩ := hsound.sent _ hsent
  obtain ⟨rfl, rfl, rfl⟩ := Message.request.inj (congrArg Prod.snd heq)
  exact ⟨rfl, hsound.accountId ▸ hown⟩

omit [AddrHash] in
/-- A party speaks in its own name, and about an account. -/
theorem PartyInv.account {c : Cluster.State Amount} {a : SocketAddr} {p : Party}
    (h : PartyInv c a p) {target addr : SocketAddr} {reqId : ReqId} {op : Operation Amount}
    (hsent : (target, .request reqId op addr) ∈ p.sent) :
    addr = a ∧ (Actors.accountOf? op).isSome := by
  cases p with
  | station x =>
    obtain ⟨haddr, charge, -, hop⟩ := SiteInv.charge h hsent
    refine ⟨haddr, ?_⟩
    obtain ⟨rfl, -⟩ | rfl := hop <;> rfl
  | desk d =>
    obtain ⟨haddr, hown⟩ := DeskInv.own h hsent
    exact ⟨haddr, hown.account⟩

/-- A party takes a step. -/
theorem Inv.setParty (h : Inv c₀ leader replicas s) {a : SocketAddr} {p p' : Party}
    (hp : s.party a = some p) (hsent : ∀ q ∈ p.sent, q ∈ p'.sent)
    (hinv : PartyInv s.cluster.cluster a p') (received : SocketAddr → SocketAddr → Nat) :
    Inv c₀ leader replicas ({ s with received := received }.setParty a p') := by
  obtain ⟨n, lead, hattends⟩ := h.cluster
  refine ⟨h.run, ⟨n, lead, hattends.mono fun reqId op addr hb q hq => ?_⟩, fun b q hq => ?_,
    fun b q hq => ?_⟩
  all_goals obtain ⟨rfl, rfl⟩ | ⟨hne, hq⟩ := State.setParty_eq_some hq
  · obtain ⟨target, hmem⟩ := hb p hp
    exact ⟨target, hsent _ hmem⟩
  · exact hb q hq
  · exact h.outside b p hp
  · exact h.outside b q hq
  · exact hinv
  · exact h.parties b q hq

variable [FromStr Amount]

theorem Inv.desk (h : Inv s₀.cluster leader replicas s) {a : SocketAddr}
    {d d' : Admin.Session Amount} {event : Admin.Event Amount}
    (hd : s.party a = some (.desk d)) (hstep : d.step event = some d')
    (hmsg : ∀ msg, event = .received (.ok msg) → ∃ src, msg ∈ s.cluster.cluster.link src a)
    (received : SocketAddr → SocketAddr → Nat) :
    Inv s₀.cluster leader replicas ({ s with received := received }.setParty a (.desk d')) := by
  have hdesk : DeskInv s.cluster.cluster a d := h.parties a _ hd
  have hdoes := Admin.Session.step_cases hstep
  have hsent : ∀ q ∈ (Party.desk d).sent, q ∈ (Party.desk d').sent := fun q hq => hdoes.sent hq
  refine h.setParty hd hsent ?_ received
  obtain ⟨targetNode, accountId, hsound⟩ := hdesk.sound
  refine ⟨⟨targetNode, accountId, hsound.step hdoes⟩, hdesk.printed.step hdoes,
    fun msg hmem => ?_⟩
  obtain hmem | hevent := hdoes.heard hmem
  · exact hdesk.heard msg hmem
  · exact hmsg msg hevent

variable [DebugFmt Amount]

theorem Inv.site (h : Inv s₀.cluster leader replicas s) (h₀ : Launched s₀ leader replicas)
    (hpos : 1 ≤ replicas.toList.length) {a : SocketAddr} {x : Site}
    (hx : s.party a = some (.station x))
    {k : Client.StationNode.Label Amount} {node : Client.StationNode Amount x.numPumps}
    (hk : x.node.step k = some node)
    (hmsg : ∀ msg outcomes, k = .receive (.ok msg) outcomes →
      ∃ src, msg ∈ s.cluster.cluster.link src a)
    (received : SocketAddr → SocketAddr → Nat) :
    Inv s₀.cluster leader replicas
      ({ s with received := received }.setParty a (.station { x with node := node })) := by
  have hdoes := Client.StationNode.step_does hk
  have hsite : SiteInv s.cluster.cluster a x := h.parties a _ hx
  have hcharges : k.Charges := by
    cases k with
    | receive msg outcomes =>
      match msg with
      | .ok (.response r result) =>
        obtain ⟨src, hmem⟩ := hmsg _ _ rfl
        obtain ⟨op, target, hsent, hfits⟩ := h.fits h₀ hpos hx hmem
        obtain ⟨-, c, -, hop⟩ := hsite.charge hsent
        exact charge_of_fits (hop.elim (fun h => ⟨_, h.1⟩) fun h => ⟨_, h⟩) hfits
      | .ok (.request ..) | .ok (.log ..) | .ok (.ack _) | .ok (.join _) | .ok (.clusterView ..)
      | .ok (.clusterUpdate _) | .ok (.election ..) | .ok (.electionOk _) | .ok (.coordinator ..)
      | .ok (.roleQuery _) | .ok (.roleResponse ..) | .error _ => exact True.intro
    | _ => exact True.intro
  have hsent : ∀ q ∈ (Party.station x).sent,
      q ∈ (Party.station { x with node := node }).sent := fun q hq => hdoes.sent hq
  refine h.setParty hx hsent ?_ received
  refine ⟨hdoes.bindAddr.trans hsite.bound, hsite.pumps.step hcharges hdoes,
    hsite.sourced.step hdoes, fun turn ht msg hevent => ?_⟩
  obtain ht | ⟨outcomes, hl⟩ := hdoes.heard ht hevent
  · exact hsite.heard turn ht msg hevent
  · exact hmsg msg outcomes hl

/-! ## Runs -/

theorem Inv.step {l : Label} (h : Inv s₀.cluster leader replicas s)
    (h₀ : Launched s₀ leader replicas) (hpos : 1 ≤ replicas.toList.length) (hl : l.Steady)
    (hs : Does s l s') : Inv s₀.cluster leader replicas s' := by
  cases hs with
  | cluster hforeign hc =>
    refine h.moves h₀ hpos hl (fun dst reqId op addr hk p hp => ?_) hc s.arrived
    rw [hforeign dst reqId op addr hk] at hp
    cases hp
  | @request a dst addr p reqId op c hp hsent hc =>
    obtain ⟨rfl, haccount⟩ := (h.parties a p hp).account hsent
    have hsteady : Cluster.Databases.Label.Steady (.cluster (.request dst reqId op addr)) := by
      intro b he
      rw [he] at haccount
      cases haccount
    refine h.moves h₀ hpos hsteady (fun dst' reqId' op' addr' hk q hq => ?_) hc _
    cases hk
    obtain rfl := Option.some.inj (hp.symm.trans hq)
    exact ⟨dst, hsent⟩
  | site hx hk hmsg hline => exact h.site h₀ hpos hx hk hmsg _
  | desk hd hstep hmsg => exact h.desk hd hstep hmsg _

theorem run_inv {ls : List Label} (h₀ : Launched s₀ leader replicas)
    (hpos : 1 ≤ replicas.toList.length) (hls : ∀ l ∈ ls, l.Steady)
    (hr : Lib.run State.step s₀ ls = some s) : Inv s₀.cluster leader replicas s :=
  run_induct_meets (fun _ _ _ h hl hs => h.step h₀ hpos hl (step_does hs)) hr
    (meets_of_forall hls s₀) h₀.inv

theorem step_ordered {l : Label} (h : ∀ a, Cluster.Databases.Ordered (s.cluster.database a).db)
    (hl : InOrder s l) (hs : Does s l s') (a : SocketAddr) :
    Cluster.Databases.Ordered (s'.cluster.database a).db := by
  cases hs with
  | cluster hforeign hc => exact Cluster.Databases.step_ordered h hl hc a
  | request hp hsent hc => exact Cluster.Databases.step_ordered (l := .cluster _) h True.intro hc a
  | site hx hk hmsg hline => exact h a
  | desk hd hstep hmsg => exact h a

theorem run_ordered {ls : List Label} (h₀ : Launched s₀ leader replicas)
    (hr : Lib.run State.step s₀ ls = some s) (hm : Meets State.step InOrder s₀ ls)
    (a : SocketAddr) : Cluster.Databases.Ordered (s.cluster.database a).db :=
  run_induct_meets (P := fun s : State => ∀ a, Cluster.Databases.Ordered (s.cluster.database a).db)
    (fun _ _ _ h hl hs => step_ordered h hl (step_does hs)) hr hm (fun a => by
      rw [h₀.databases a]
      exact .init) a

/-! ## Whose charges the cluster works on -/

/-- What a station has asked for it has asked for before, or an operator types it now. -/
theorem Does.asked {l : Label} (hs : Does s l s') {a : SocketAddr} {y : Site}
    (hy : s'.party a = some (.station y)) {c : Client.Charge Amount} (hc : y.node.Asked c) :
    (∃ x, s.party a = some (.station x) ∧ x.numPumps = y.numPumps ∧ x.node.Asked c) ∨
      ∃ text draws, l = .site a (.line text draws) ∧ c.Typed y.numPumps text draws := by
  cases hs with
  | @site _ b x k node received hx hk hmsg hline =>
    obtain ⟨rfl, heq⟩ | ⟨-, hy⟩ := State.setParty_eq_some hy
    · obtain rfl := Party.station.inj heq
      obtain hc | ⟨text, draws, rfl, htyped⟩ := (Client.StationNode.step_does hk).asked hc
      · exact .inl ⟨x, hx, rfl, hc⟩
      · exact .inr ⟨text, draws, hline text draws rfl, htyped⟩
    · exact .inl ⟨y, hy, rfl, hc⟩
  | desk hd hstep hmsg =>
    obtain ⟨-, heq⟩ | ⟨-, hy⟩ := State.setParty_eq_some hy
    · cases heq
    · exact .inl ⟨y, hy, rfl, hc⟩
  | _ => exact .inl ⟨y, hy, rfl, hc⟩

/-- What the stations have asked for in a run was typed in it. -/
theorem run_typed {ls : List Label} (h₀ : Launched s₀ leader replicas)
    (hr : Lib.run State.step s₀ ls = some s) {a : SocketAddr} {x : Site}
    (hx : s.party a = some (.station x)) {c : Client.Charge Amount} (hc : x.node.Asked c) :
    ∃ text draws, .site a (.line text draws) ∈ ls ∧ c.Typed x.numPumps text draws := by
  refine run_induct_meets (C := fun _ l => l ∈ ls) (P := fun s : State => ∀ a x,
    s.party a = some (.station x) → ∀ c, x.node.Asked c →
      ∃ text draws, .site a (.line text draws) ∈ ls ∧ c.Typed x.numPumps text draws) ?_ hr
    (meets_of_forall (fun _ hl => hl) s₀) ?_ a x hx c hc
  · intro s l s' h hl hs b y hy c hc
    obtain ⟨x, hx, hpumps, hc⟩ | ⟨text, draws, rfl, htyped⟩ := (step_does hs).asked hy hc
    · rw [← hpumps]
      exact h b x hx c hc
    · exact ⟨text, draws, hl, htyped⟩
  · intro b y hy c hc
    obtain ⟨-, -, knownNodes, hnode⟩ := h₀.parties b _ hy
    rw [hnode] at hc
    cases hc

/-- **No request is made up, and none is lost on the way.** In a run of the fleet with at least
    one replica and without failures in the cluster, every request the leader has given an id
    in the name of a station is for the charge of a line that was typed there, and in the name
    of an administrator for its own account. Every pump of every station that waits for a
    verdict is accounted for: its charge is on the way to the client, or forwarded with the
    pump's own data, or its result is on the way back. -/
theorem requests_sourced {ls : List Label} (h₀ : Launched s₀ leader replicas)
    (hpos : 1 ≤ replicas.toList.length) (hls : ∀ l ∈ ls, l.Steady)
    (hr : Lib.run State.step s₀ ls = some s) :
    (∀ a x, s.party a = some (.station x) → x.node.Served) ∧
    ∃ n, s.cluster.cluster.node leader = some n ∧ ∀ e ∈ n.assigned,
      (∀ x, s.party e.2.clientAddr = some (.station x) →
        ∃ (c : Client.Charge Amount) (text : String) (draws : List ReqId),
          .site e.2.clientAddr (.line text draws) ∈ ls ∧ c.Typed x.numPumps text draws ∧
          (e.2.op = c.operation false ∧ e.2.requestId = c.requestId ∨
            e.2.op = c.operation true)) ∧
      ∀ d, s.party e.2.clientAddr = some (.desk d) →
        (e.2.requestId, e.2.op) ∈ d.requests ∧ Admin.Own d.admin.accountId e.2.op := by
  have h := run_inv h₀ hpos hls hr
  refine ⟨fun a x hx => (show SiteInv _ a x from h.parties a _ hx).pumps.served, ?_⟩
  obtain ⟨n, lead, hattends⟩ := h.cluster
  refine ⟨n, hattends.inv.node, fun e he => ⟨fun x hx => ?_, fun d hd => ?_⟩⟩
  · obtain ⟨target, hsent⟩ := hattends.requested.assigned e he _ hx
    obtain ⟨-, c, hc, hop⟩ := SiteInv.charge (h.parties _ _ hx) hsent
    obtain ⟨text, draws, hline, htyped⟩ := run_typed h₀ hr hx hc
    exact ⟨c, text, draws, hline, htyped, hop⟩
  · obtain ⟨target, hsent⟩ := hattends.requested.assigned e he _ hd
    exact ⟨List.mem_filterMap.mpr ⟨_, hsent, rfl⟩, (DeskInv.own (h.parties _ _ hd) hsent).2⟩

omit [AddrHash] [DebugFmt Amount] in
omit [FixedFmt Amount] [FromStr Amount] in
/-- A request id is used once. -/
theorem Site.unique {x : Site} (hn : x.requestIds.Nodup) {p q : SocketAddr × Message Amount}
    (hp : p ∈ x.node.session.sent) (hq : q ∈ x.node.session.sent) {r : ReqId}
    (hpr : requestId? p = some r) (hqr : requestId? q = some r) : p = q := by
  have hpairs : x.node.session.sent.Pairwise fun u v =>
      ¬(requestId? u = some r ∧ requestId? v = some r) :=
    (List.pairwise_filterMap.mp hn).imp fun h hboth => h r hboth.1 r hboth.2 rfl
  have : Std.Symm fun u v : SocketAddr × Message Amount =>
      ¬(requestId? u = some r ∧ requestId? v = some r) := ⟨fun _ _ h hboth => h hboth.symm⟩
  by_contra hne
  exact hpairs.forall hp hq hne ⟨hpr, hqr⟩

omit [DebugFmt Amount] in
omit [FromStr Amount] in
/-- A response that a party has received has its grounds with the leader. -/
theorem Inv.grounds (h : Inv c₀ leader replicas s) {a src : SocketAddr} {p : Party}
    (hp : s.party a = some p) {r : ReqId} {result : OperationResult Amount}
    (hmem : .response r result ∈ s.cluster.cluster.link src a) :
    ∃ n, s.cluster.cluster.node leader = some n ∧ ∃ e ∈ n.assigned,
      (∃ target, (target, .request r e.2.op a) ∈ p.sent) ∧
        ∃ answer ∈ n.answers, answer.opId = e.1 ∧ answer.result = result := by
  obtain ⟨n, lead, hinv, e, he, -, ⟨target, hsent⟩, answer, ha, hid, hresp⟩ := h.answer hp hmem
  obtain ⟨rfl, rfl⟩ := Message.response.inj hresp
  exact ⟨n, hinv.node, e, he, ⟨target, hsent⟩, answer, ha, hid, rfl⟩

/-- **The answers are linearizable for those who asked.** In a run of the fleet with at least
    one replica and without failures in the cluster, with databases that keep the order, the
    leader's at rest and a log that is all about accounts, there is one sequential execution of
    all the operations the leader sent its database, from an empty ledger to the leader's.
    Whatever a pump was told of a charge, at any station whose client used no request id twice,
    is what this execution says of the charge that was typed for it; or the client let the
    charge through on its own, and keeps it until it is replayed. Whatever an administrator has
    printed is what the execution says of its own requests. -/
theorem verdicts_linearizable {ls : List Label} (h₀ : Launched s₀ leader replicas)
    (hpos : 1 ≤ replicas.toList.length) (hls : ∀ l ∈ ls, l.Steady)
    (hr : Lib.run State.step s₀ ls = some s) (hm : Meets State.step InOrder s₀ ls)
    (hrest : (s.cluster.database leader).db.Quiescent) :
    ∃ n, s.cluster.cluster.node leader = some n ∧
      ((∀ e ∈ n.log, (Actors.accountOf? e.2).isSome) →
        ∃ events, Actors.Serial Actors.ActorDb.init.states.ledger n.executed events
            (s.cluster.database leader).db.ledger ∧
          (∀ a x, s.party a = some (.station x) → x.requestIds.Nodup →
            ∀ r allowed error, .chargeResult r allowed error ∈ x.told →
              ∃ (c : Client.Charge Amount) (text : String) (draws : List ReqId),
                .site a (.line text draws) ∈ ls ∧ c.Typed x.numPumps text draws ∧ c.requestId = r ∧
                (x.node.Deferred c ∧ allowed = true ∧ error = none ∨
                  ∃ opId verdict b err,
                    .operationResult opId (c.operation false) (.charge verdict) b err ∈ events ∧
                    Node.chargeVerdict verdict = (allowed, error))) ∧
          ∀ a d, s.party a = some (.desk d) →
            d.stdout = d.shown.flatMap (fun p => (Admin.handleOpResult p.2).getD []) ∧
            ∀ p ∈ d.shown, ∃ op opId b err, (p.1, op) ∈ d.requests ∧
              .operationResult opId op p.2 b err ∈ events) := by
  have h := run_inv h₀ hpos hls hr
  obtain ⟨hkept, hheard⟩ := h.books h₀ hpos
  obtain ⟨n, lead, hattends⟩ := h.cluster
  refine ⟨n, hattends.inv.node, fun haccounts => ?_⟩
  obtain ⟨events, hserial, hanswers⟩ := Cluster.Databases.served_in_order hkept hattends.inv
    hheard (run_ordered h₀ hr hm leader) hrest haccounts
  -- a response that a party received was served to one of its own requests
  have hserved : ∀ {a src p r result}, s.party a = some p →
      .response r result ∈ s.cluster.cluster.link src a → ∃ op target opId b err,
        (target, .request r op a) ∈ p.sent ∧ .operationResult opId op result b err ∈ events := by
    intro a src p r result hp hmem
    obtain ⟨m, hm, e, he, ⟨target, hsent⟩, answer, ha, hid, rfl⟩ := h.grounds hp hmem
    obtain rfl : n = m := Option.some.inj (hattends.inv.node.symm.trans hm)
    obtain ⟨q, b, err, hq, -, hserved⟩ := hanswers answer ha
    obtain rfl : q = e.2 := congrArg Prod.snd (hattends.inv.lead.numbered.unique hq he
      (Cluster.opNum_inj.mpr hid))
    exact ⟨e.2.op, target, answer.opId, b, err, hsent, hserved⟩
  refine ⟨events, hserial, fun a x hx hn r allowed error htold => ?_, fun a d hd => ?_⟩
  · have hsite : SiteInv s.cluster.cluster a x := h.parties a _ hx
    obtain ⟨turn, ht, hmem⟩ := List.mem_flatMap.mp htold
    obtain ⟨c, hc, rfl, hgrounds⟩ := hsite.sourced.told turn ht r allowed error hmem
    obtain ⟨text, draws, hline, htyped⟩ := run_typed h₀ hr hx hc
    refine ⟨c, text, draws, hline, htyped, rfl, hgrounds.imp_right ?_⟩
    rintro ⟨⟨target, hforwarded⟩, verdict, hevent, hverdict⟩
    obtain ⟨src, hmem⟩ := hsite.heard turn ht _ hevent
    obtain ⟨op, target', opId, b, err, hsent, hserved⟩ := hserved hx hmem
    have hsame := Site.unique hn hsent hforwarded rfl rfl
    obtain ⟨-, rfl, -⟩ := Message.request.inj (congrArg Prod.snd hsame)
    exact ⟨opId, verdict, b, err, hserved, hverdict⟩
  · have hdesk : DeskInv s.cluster.cluster a d := h.parties a _ hd
    refine ⟨hdesk.printed.stdout, fun p hp => ?_⟩
    obtain ⟨src, hmem⟩ := hdesk.heard _ (hdesk.printed.arrived p hp)
    obtain ⟨op, target, opId, b, err, hsent, hserved⟩ := hserved hd hmem
    exact ⟨op, opId, b, err, List.mem_filterMap.mpr ⟨_, hsent, rfl⟩, hserved⟩

end Verdicts

end

section Example

open Cluster.Databases (machines machineReplicas machines_fresh limitRun)

local instance fleetHash : AddrHash := localHash

local instance fleetFmt : DebugFmt Amount := ⟨fun _ => ""⟩

local instance fleetFromStr : FromStr Amount := Station.amountFromStr

local instance fleetFixedFmt : FixedFmt Amount := Admin.amountFixedFmt

/-- A leader with two replicas; a station of two pumps and the administrator of account 7, who
    both know the leader. -/
def office : State where
  cluster := machines
  party a :=
    if a = localAddr 9000 then some (.station ⟨2, .start 2 a [localAddr 5000]⟩)
    else if a = localAddr 9001 then some (.desk (.start (.new a (localAddr 5000) 7)))
    else none
  arrived _ _ := 0
  received _ _ := 0

/-- The leader has the oldest request of `a` logged by a replica, whose database takes the steps
    `behind` for it, and answers it after the steps `ahead` of its own. -/
def serveRun (a : SocketAddr) (behind ahead : List Cluster.Databases.Label) : List Label :=
  [.request a (localAddr 5000),
    .cluster (.cluster (.deliver (localAddr 5000) (localAddr 5001)))] ++
  behind.map .cluster ++
  [.cluster (.cluster (.deliver (localAddr 5001) (localAddr 5000)))] ++
  ahead.map .cluster ++
  [.response (localAddr 5000) a []]

/-- The database of the leader works off a charge of card 8. -/
def verifyRun : List Cluster.Databases.Label :=
  [.actor (localAddr 5000) .router, .actor (localAddr 5000) (.card (7, 8)),
    .actor (localAddr 5000) (.account 7), .actor (localAddr 5000) (.card (7, 8)),
    .actor (localAddr 5000) .router, .event (localAddr 5000)]

/-- The limit of the account is set, so that the first pump's charge is turned down; then the
    station disconnects, and the second pump's charge is answered offline. -/
def officeRun : List Label :=
  [.desk (localAddr 9001) (.line "limit-account 50" true)] ++
  serveRun (localAddr 9001) [] (limitRun (localAddr 5000)) ++
  [.site (localAddr 9000) (.line "0 7 8 60" [2]), .site (localAddr 9000) (.take [])] ++
  serveRun (localAddr 9000) (limitRun (localAddr 5001)) verifyRun ++
  [.site (localAddr 9000) (.line "disconnect" []), .site (localAddr 9000) (.take []),
    .site (localAddr 9000) (.line "1 7 9 5" [3]), .site (localAddr 9000) (.take [])]

theorem office_steady : ∀ l ∈ officeRun, l.Steady := by decide +kernel

theorem office_launched : Launched office (localAddr 5000) machineReplicas where
  fresh := machines_fresh
  databases _ := rfl
  parties a p hp := by
    unfold office at hp
    dsimp only at hp
    split at hp
    · next ha =>
      subst ha
      obtain rfl := Option.some.inj hp
      exact ⟨by decide, by decide, _, rfl⟩
    · split at hp
      · next ha =>
        subst ha
        obtain rfl := Option.some.inj hp
        exact ⟨by decide, by decide, _, _, rfl⟩
      · cases hp

/-- The station at `a`. -/
def siteAt (s : State) (a : SocketAddr) : Option Site :=
  match s.party a with
  | some (.station x) => some x
  | _ => none

/-- The administrator at `a`. -/
def deskAt (s : State) (a : SocketAddr) : Option (Admin.Session Amount) :=
  match s.party a with
  | some (.desk d) => some d
  | _ => none

theorem party_of_siteAt {s : State} {a : SocketAddr} {x : Site} (h : siteAt s a = some x) :
    s.party a = some (.station x) := by
  unfold siteAt at h
  split at h
  · next heq =>
    rw [heq, Option.some.inj h]
  · cases h

theorem party_of_deskAt {s : State} {a : SocketAddr} {d : Admin.Session Amount}
    (h : deskAt s a = some d) : s.party a = some (.desk d) := by
  unfold deskAt at h
  split at h
  · next heq =>
    rw [heq, Option.some.inj h]
  · cases h

/-- The leader has given ids to the limit change and to the first pump's charge. -/
theorem requests_sourced_example :
    ∃ s n, Lib.run State.step office officeRun = some s ∧
      s.cluster.cluster.node (localAddr 5000) = some n ∧
      n.assigned.map (fun e => (e.1, e.2.requestId)) = [(1, 1), (2, 2)] ∧
      (∀ a x, s.party a = some (.station x) → x.node.Served) ∧ ∀ e ∈ n.assigned,
      (∀ x, s.party e.2.clientAddr = some (.station x) →
        ∃ (c : Client.Charge Amount) (text : String) (draws : List ReqId),
          .site e.2.clientAddr (.line text draws) ∈ officeRun ∧ c.Typed x.numPumps text draws ∧
          (e.2.op = c.operation false ∧ e.2.requestId = c.requestId ∨
            e.2.op = c.operation true)) ∧
      ∀ d, s.party e.2.clientAddr = some (.desk d) →
        (e.2.requestId, e.2.op) ∈ d.requests ∧ Admin.Own d.admin.accountId e.2.op := by
  have hrun : (Lib.run State.step office officeRun).any (fun s =>
      (s.cluster.cluster.node (localAddr 5000)).any (fun n =>
        decide (n.assigned.map (fun e => (e.1, e.2.requestId)) = [(1, 1), (2, 2)]))) = true := by
    decide +kernel
  obtain ⟨s, hs, hp⟩ := (Option.any_eq_true _ _).mp hrun
  obtain ⟨n', hn', hids⟩ := (Option.any_eq_true _ _).mp hp
  obtain ⟨hserved, n, hn, hsourced⟩ :=
    requests_sourced office_launched (by decide) office_steady hs
  obtain rfl : n = n' := Option.some.inj (hn.symm.trans hn')
  exact ⟨s, n, hs, hn, of_decide_eq_true hids, hserved, hsourced⟩

/-- The verdict on the first charge is the database's, the one on the second the client's. -/
theorem verdicts_linearizable_example :
    ∃ s x d events, Lib.run State.step office officeRun = some s ∧
      s.party (localAddr 9000) = some (.station x) ∧
      s.party (localAddr 9001) = some (.desk d) ∧
      x.told.filterMap Client.resultId = [2, 3] ∧ d.stdout = ["LIMIT_ACCOUNT: OK"] ∧
      Actors.Serial Actors.ActorDb.init.states.ledger
        [(1, .limitAccount 7 (some 50)), (2, .charge 7 8 60 false)] events
        (s.cluster.database (localAddr 5000)).db.ledger ∧
      (∀ r allowed error, .chargeResult r allowed error ∈ x.told →
        ∃ (c : Client.Charge Amount) (text : String) (draws : List ReqId),
          .site (localAddr 9000) (.line text draws) ∈ officeRun ∧
          c.Typed x.numPumps text draws ∧ c.requestId = r ∧
          (x.node.Deferred c ∧ allowed = true ∧ error = none ∨
            ∃ opId verdict b err,
              .operationResult opId (c.operation false) (.charge verdict) b err ∈ events ∧
              Node.chargeVerdict verdict = (allowed, error))) ∧
      ∀ p ∈ d.shown, ∃ op opId b err, (p.1, op) ∈ d.requests ∧
        .operationResult opId op p.2 b err ∈ events := by
  have hrun : (Lib.run State.step office officeRun).any (fun s =>
      decide ((s.cluster.database (localAddr 5000)).db.Drained ∧
        (s.cluster.cluster.node (localAddr 5000)).any (fun n =>
          decide (n.executed = [(1, .limitAccount 7 (some 50)), (2, .charge 7 8 60 false)] ∧
            n.log = [(1, .limitAccount 7 (some 50)), (2, .charge 7 8 60 false)])) = true ∧
        (siteAt s (localAddr 9000)).any (fun x =>
          decide (x.told.filterMap Client.resultId = [2, 3] ∧ x.requestIds.Nodup)) = true ∧
        (deskAt s (localAddr 9001)).any (fun d =>
          decide (d.stdout = ["LIMIT_ACCOUNT: OK"])) = true)) = true := by
    decide +kernel
  obtain ⟨s, hs, hp⟩ := (Option.any_eq_true _ _).mp hrun
  obtain ⟨hdrained, hnode, hsite, hdesk⟩ := of_decide_eq_true hp
  obtain ⟨n', hn', hvals⟩ := (Option.any_eq_true _ _).mp hnode
  obtain ⟨hexec, hlog⟩ := of_decide_eq_true hvals
  obtain ⟨x, hx, hvals⟩ := (Option.any_eq_true _ _).mp hsite
  obtain ⟨htold, hids⟩ := of_decide_eq_true hvals
  have hx := party_of_siteAt hx
  obtain ⟨d, hd, hout⟩ := (Option.any_eq_true _ _).mp hdesk
  have hd := party_of_deskAt hd
  have hinv := run_inv office_launched (by decide) office_steady hs
  have hquiet : (s.cluster.database (localAddr 5000)).db.Quiescent := by
    obtain ⟨ks, hks⟩ := ((hinv.books office_launched (by decide)).1 (localAddr 5000)).reaches
    exact Actors.quiescent_of_known (Actors.known_reaches (Actors.Events.reaches_db hks)) hdrained
  obtain ⟨n, hn, hall⟩ := verdicts_linearizable office_launched (by decide) office_steady hs
    (by decide +kernel) hquiet
  obtain rfl : n = n' := Option.some.inj (hn.symm.trans hn')
  obtain ⟨events, hserial, hverdicts, hprinted⟩ := hall (by rw [hlog]; decide)
  rw [hexec] at hserial
  exact ⟨s, x, d, events, hs, hx, hd, htold, of_decide_eq_true hout, hserial,
    hverdicts _ x hx hids, (hprinted _ d hd).2⟩

end Example

end YpfRuta.Fleet
