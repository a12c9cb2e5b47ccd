/-
  A snapshot of a database at rest, and with it every operation but the installation of a
  snapshot: whatever the interleaving, the database comes to rest with the result and the
  ledger of the specification.
-/
import YpfRuta.Actors.Gathering
import YpfRuta.Actors.Fragments

namespace YpfRuta.Actors

open Lib

section

variable {Amount : Type} [Currency Amount]

instance sourceLawful : LawfulBEq Source where
  eq_of_beq {x y} h := by
    cases x <;> cases y <;> first | exact congrArg _ (eq_of_beq h) | cases h
  rfl {x} := by
    cases x with
    | inl a => exact beq_self_eq_true a
    | inr k => exact beq_self_eq_true k

/-! ## The fragments of a snapshot -/

section

variable (c : ActorStates) (n : OpId) (addr : SocketAddr)

/-- What an account contributes to a snapshot in the state `c`. -/
def accountPart (a : AccountId) : AccountSnapshot Amount :=
  ⟨a, (c.account a).accountLimit, (c.account a).accountConsumed⟩

def cardPart (k : CardKey) : CardSnapshot Amount :=
  ⟨k.1, k.2, (c.card k).limit, (c.card k).consumed⟩

def requestTo : Source → Send
  | .inl a => .account a (.getSnapshot n)
  | .inr k => .card k (.getSnapshot n)

def partMsg : Source → RouterMsg
  | .inl a => .accountSnapshotCollected n (accountPart c a)
  | .inr k => .cardSnapshotCollected n (cardPart c k)

def partOf (x : Source) : Send := .router (partMsg c n x)

/-- The router adds a part to what it has gathered. -/
def collectPart (p : PendingDatabaseSnapshot) : Source → PendingDatabaseSnapshot
  | .inl a => { p with accounts := p.accounts ++ [accountPart c a] }
  | .inr k => { p with cards := p.cards ++ [cardPart c k] }

/-- The request as the router read it. -/
def askOf : Ask := ⟨addr, c.router.accounts, c.router.cards⟩

/-- The router `r` with `p` as what it has gathered under `n`. -/
def withPending (r : ActorRouter) (p : Option PendingDatabaseSnapshot) : ActorRouter :=
  { r with pendingDbSnapshots := Function.update r.pendingDbSnapshots n p }

/-- What the router has gathered is what it asked for. -/
structure Gathers (p : PendingDatabaseSnapshot) : Prop where
  addr : p.addr = addr
  expectedAccounts : p.expectedAccounts = c.router.accounts.toList.length
  expectedCards : p.expectedCards = c.router.cards.toList.length
  accounts : ∀ x ∈ p.accounts, x = accountPart c x.accountId
  cards : ∀ x ∈ p.cards, x = cardPart c (CardSnapshot.key x)

/-- The actors in `asks` have yet to send their part, and the parts of those in `back` are
    on their way to the router. -/
structure Assembling (r : ActorRouter) (events : List ActorEvent) (asks back : List Source)
    (p : PendingDatabaseSnapshot) (s : ActorDb) : Prop where
  formed : Formed s
  flight : s.InFlight (asks.map (requestTo n) ++ back.map (partOf c n))
  places : (asks ++ back ++ p.sources).Perm (askOf c addr).sources
  waiting : 0 < asks.length + back.length
  gathers : Gathers c addr p
  router : s.router = withPending n r (some p)
  account : s.account = c.account
  card : s.card = c.card
  events : s.events = events

/-- The snapshot is complete and reported. -/
structure Assembled (r : ActorRouter) (events : List ActorEvent) (p : PendingDatabaseSnapshot)
    (s : ActorDb) : Prop where
  formed : Formed s
  quiescent : s.Quiescent
  places : p.sources.Perm (askOf c addr).sources
  gathers : Gathers c addr p
  router : s.router = withPending n r none
  account : s.account = c.account
  card : s.card = c.card
  events : s.events = events ++ [.operationResult n (.getDatabase addr)
    (.databaseSnapshot ⟨p.addr, p.accounts, p.cards⟩) true none]

end

variable {c : ActorStates} {n : OpId} {addr : SocketAddr} {r : ActorRouter}
  {events : List ActorEvent} {asks back : List Source} {p : PendingDatabaseSnapshot}
  {s s' : ActorDb}

theorem requestTo_injective : Function.Injective (requestTo n) := by
  intro x y h
  cases x <;> cases y <;> simp [requestTo] at h <;> rw [h]

theorem partOf_injective : Function.Injective (partOf c n) := by
  intro x y h
  cases x with
  | inl a =>
    cases y with
    | inl b =>
      have hx := (RouterMsg.accountSnapshotCollected.inj (Send.router.inj h)).2
      exact congrArg Sum.inl (congrArg AccountSnapshot.accountId hx)
    | inr k => cases h
  | inr j =>
    cases y with
    | inl b => cases h
    | inr k =>
      have hx := (RouterMsg.cardSnapshotCollected.inj (Send.router.inj h)).2
      exact congrArg Sum.inr (congrArg CardSnapshot.key hx)

/-! ### One message of a snapshot -/

/-- An actor hands out its part and stays as it is. -/
theorem handle_request (hn : c.Named) (hacc : s.account = c.account) (hcard : s.card = c.card)
    (x : Source) : s.states.handle (requestTo n x) = (s.states, [partOf c n x]) := by
  cases x with
  | inl a =>
    have hx : (s.account a).handle (.getSnapshot n) = (s.account a, [partOf c n (.inl a)]) := by
      rw [hacc]
      show (_, [Send.router (.accountSnapshotCollected n ⟨(c.account a).accountId, _, _⟩)]) = _
      rw [hn.accountId a]
      rfl
    have h := ActorStates.handle_account (c := s.states) hx
    rwa [show Function.update s.states.account a (s.account a) = s.states.account from
      Function.update_eq_self a s.account] at h
  | inr k =>
    have hx : (s.card k).handle (.getSnapshot n) = (s.card k, [partOf c n (.inr k)]) := by
      rw [hcard]
      show (_, [Send.router (.cardSnapshotCollected n
        ⟨(c.card k).accountId, (c.card k).cardId, _, _⟩)]) = _
      rw [(hn.cardId k).1, (hn.cardId k).2]
      rfl
    have h := ActorStates.handle_card (c := s.states) hx
    rwa [show Function.update s.states.card k (s.card k) = s.states.card from
      Function.update_eq_self k s.card] at h

theorem Assembling.ask (h : Assembling c n addr r events asks back p s) (hn : c.Named)
    {x : Source} (hx : x ∈ asks)
    (ht : s.Takes (asks.map (requestTo n) ++ back.map (partOf c n)) (requestTo n x) s') :
    Assembling c n addr r events (asks.erase x) (back ++ [x]) p s' := by
  obtain ⟨hst, hev, hfl⟩ := ht.result (handle_request hn h.account h.card x)
  have hmem : requestTo n x ∈ asks.map (requestTo n) := List.mem_map_of_mem hx
  rw [List.erase_append_left _ hmem, ← List.map_erase requestTo_injective,
    List.append_assoc] at hfl
  refine ⟨ht.formed, ?_, ?_, ?_, h.gathers, (congrArg ActorStates.router hst).trans h.router,
    (congrArg ActorStates.account hst).trans h.account,
    (congrArg ActorStates.card hst).trans h.card, ?_⟩
  · rw [List.map_append]
    exact hfl
  · exact ((perm_move hx back).append_right p.sources).trans h.places
  · rw [List.length_append, List.length_singleton]
    omega
  · rw [hev, h.events]
    exact List.append_nil _

/-- The router has the snapshot when all parts are there. -/
theorem tryComplete_withPending (hop : r.operations n = some (.getDatabase addr)) :
    (withPending n r (some p)).tryCompleteDbSnapshot n =
      if p.accounts.length = p.expectedAccounts ∧ p.cards.length = p.expectedCards then
        (withPending n r none, [.event (.operationResult n (.getDatabase addr)
          (.databaseSnapshot ⟨p.addr, p.accounts, p.cards⟩) true none)])
      else (withPending n r (some p), []) := by
  have hslot : (withPending n r (some p)).pendingDbSnapshots n = some p :=
    Function.update_self ..
  unfold ActorRouter.tryCompleteDbSnapshot
  rw [hslot]
  dsimp only
  split
  · have hop' : (withPending n r (some p)).operations n = some (.getDatabase addr) := hop
    rw [hop']
    unfold withPending
    rw [Function.update_idem]
  · rfl

theorem handle_part (r : ActorRouter) (p : PendingDatabaseSnapshot) (x : Source) :
    (withPending n r (some p)).handle (partMsg c n x) =
      (withPending n r (some (collectPart c p x))).tryCompleteDbSnapshot n := by
  have hslot : (withPending n r (some p)).pendingDbSnapshots n = some p :=
    Function.update_self ..
  have hidem : ∀ q, { withPending n r (some p) with
      pendingDbSnapshots := Function.update (withPending n r (some p)).pendingDbSnapshots n q } =
        withPending n r q := by
    intro q
    unfold withPending
    rw [Function.update_idem]
  cases x with
  | inl a =>
    show (withPending n r (some p)).accountSnapshotCollected n _ = _
    unfold ActorRouter.accountSnapshotCollected
    rw [hslot]
    dsimp only
    rw [hidem]
    rfl
  | inr k =>
    show (withPending n r (some p)).cardSnapshotCollected n _ = _
    unfold ActorRouter.cardSnapshotCollected
    rw [hslot]
    dsimp only
    rw [hidem]
    rfl

theorem Gathers.collect (h : Gathers c addr p) (x : Source) : Gathers c addr (collectPart c p x) := by
  cases x with
  | inl a =>
    refine ⟨h.addr, h.expectedAccounts, h.expectedCards, fun y hy => ?_, h.cards⟩
    rcases List.mem_append.mp hy with hy | hy
    · exact h.accounts y hy
    · rw [List.mem_singleton.mp hy]
      rfl
  | inr k =>
    refine ⟨h.addr, h.expectedAccounts, h.expectedCards, h.accounts, fun y hy => ?_⟩
    rcases List.mem_append.mp hy with hy | hy
    · exact h.cards y hy
    · rw [List.mem_singleton.mp hy]
      rfl

theorem collectPart_sources (p : PendingDatabaseSnapshot) (x : Source) :
    (collectPart c p x).sources.Perm (p.sources ++ [x]) := by
  unfold PendingDatabaseSnapshot.sources
  cases x with
  | inl a =>
    simp only [collectPart, List.map_append, List.map_cons, List.map_nil, List.append_assoc]
    exact List.Perm.append_left _ List.perm_append_comm
  | inr k =>
    simp only [collectPart, List.map_append, List.map_cons, List.map_nil, List.append_assoc]
    exact List.Perm.refl _

/-- **The router gathers a part**, and reports after the last one. -/
theorem Assembling.collect (h : Assembling c n addr r events asks back p s)
    (hop : r.operations n = some (.getDatabase addr)) {x : Source} (hx : x ∈ back)
    (ht : s.Takes (asks.map (requestTo n) ++ back.map (partOf c n)) (partOf c n x) s') :
    Assembling c n addr r events asks (back.erase x) (collectPart c p x) s' ∨
    Assembled c n addr r events (collectPart c p x) s' := by
  have hplaces : (asks ++ back.erase x ++ (collectPart c p x).sources).Perm
      (askOf c addr).sources := by
    refine List.Perm.trans ?_ h.places
    refine (List.Perm.append_left _ (collectPart_sources p x)).trans ?_
    rw [List.append_assoc, List.append_assoc]
    exact (perm_move hx p.sources).append_left asks
  have hg := h.gathers.collect x
  have hhandle : s.router.handle (partMsg c n x) = _ :=
    (congrArg (fun r : ActorRouter => r.handle (partMsg c n x)) h.router).trans
      ((handle_part r p x).trans (tryComplete_withPending hop))
  have herase : (asks.map (requestTo n) ++ back.map (partOf c n)).erase (partOf c n x) =
      asks.map (requestTo n) ++ (back.erase x).map (partOf c n) := by
    have hno : partOf c n x ∉ asks.map (requestTo n) := by
      intro hmem
      obtain ⟨y, -, hy⟩ := List.mem_map.mp hmem
      cases y <;> cases hy
    rw [List.erase_append_right _ hno, ← List.map_erase partOf_injective]
  by_cases hdone : (collectPart c p x).accounts.length = (collectPart c p x).expectedAccounts ∧
      (collectPart c p x).cards.length = (collectPart c p x).expectedCards
  · rw [if_pos hdone] at hhandle
    obtain ⟨hr, hacc, hcard, hev, hfl⟩ := ht.onRouter hhandle
    have hnil : asks ++ back.erase x = [] := PendingDatabaseSnapshot.all_arrived hplaces
      (hdone.1.trans hg.expectedAccounts) (hdone.2.trans hg.expectedCards)
    obtain ⟨rfl, hback⟩ := List.append_eq_nil_iff.mp hnil
    rw [hnil, List.nil_append] at hplaces
    refine Or.inr ⟨ht.formed, ?_, hplaces, hg, hr, hacc.trans h.account, hcard.trans h.card, ?_⟩
    · have hfl' : s'.InFlight (([].map (requestTo n) ++ back.map (partOf c n)).erase
          (partOf c n x) ++ [.event (.operationResult n (.getDatabase addr) _ true none)]) := hfl
      rw [herase, hback] at hfl'
      exact ActorDb.quiescent_iff.mpr (hfl'.reorder fun d hd => mailFor_event hd _)
    · rw [hev, h.events]
      rfl
  · rw [if_neg hdone] at hhandle
    obtain ⟨hr, hacc, hcard, hev, hfl⟩ := ht.onRouter hhandle
    refine Or.inl ⟨ht.formed, ?_, hplaces, ?_, hg, hr, hacc.trans h.account,
      hcard.trans h.card, ?_⟩
    · rw [List.append_nil] at hfl
      rw [← herase]
      exact hfl
    · -- otherwise the numbers would be right
      by_contra hzero
      have hasks : asks = [] := List.length_eq_zero_iff.mp (by omega)
      have hback : back.erase x = [] := List.length_eq_zero_iff.mp (by omega)
      rw [hasks, hback, List.nil_append, List.nil_append] at hplaces
      obtain ⟨-, hla, hlc⟩ := PendingDatabaseSnapshot.complete hplaces addr
      have hla' := hla.length_eq
      have hlc' := hlc.length_eq
      rw [List.length_map] at hla' hlc'
      exact hdone ⟨hla'.trans hg.expectedAccounts.symm, hlc'.trans hg.expectedCards.symm⟩
    · rw [hev, h.events]
      exact List.append_nil _

/-- **Every interleaving of a snapshot** comes to its end. -/
theorem Assembling.ends {m : Nat} (h : Assembling c n addr r events asks back p s)
    (hn : c.Named) (hop : r.operations n = some (.getDatabase addr))
    (hm : 2 * asks.length + back.length = m) :
    Ends ActorDb.step Label.Internal (fun s' => ∃ p, Assembled c n addr r events p s') m s := by
  induction m generalizing s asks back p with
  | zero =>
    have hpos := h.waiting
    omega
  | succ m ih =>
    obtain ⟨x, hx, hd⟩ : ∃ x ∈ asks.map (requestTo n) ++ back.map (partOf c n),
        x.dest ≠ .node := by
      by_cases hasks : asks = []
      · have hpos : 0 < back.length := by
          rw [hasks] at hm
          simp at hm
          omega
        obtain ⟨y, hy⟩ : ∃ y, y ∈ back := List.exists_mem_of_length_pos hpos
        exact ⟨partOf c n y, List.mem_append_right _ (List.mem_map_of_mem hy), nofun⟩
      · obtain ⟨y, hy⟩ := List.exists_mem_of_ne_nil asks hasks
        exact ⟨requestTo n y, List.mem_append_left _ (List.mem_map_of_mem hy), by
          cases y <;> nofun⟩
    refine .next (h.flight.enabled h.formed.alive hx hd) fun l s' hl hstep => ?_
    obtain ⟨y, hy, -, ht⟩ := h.flight.taken h.formed hl hstep
    rcases List.mem_append.mp hy with hy | hy
    · obtain ⟨z, hz, rfl⟩ := List.mem_map.mp hy
      have hlen := List.length_erase_of_mem hz
      have hpos := List.length_pos_of_mem hz
      refine ih (h.ask hn hz ht) ?_
      rw [List.length_append, List.length_singleton]
      omega
    · obtain ⟨z, hz, rfl⟩ := List.mem_map.mp hy
      have hlen := List.length_erase_of_mem hz
      have hpos := List.length_pos_of_mem hz
      rcases h.collect hop hz ht with hnext | hdone
      · exact ih hnext (by omega)
      · exact .here hdone.quiescent.stuck ⟨_, hdone⟩

/-! ## From a database at rest -/

theorem map_of_keys {κ β : Type} {key : β → κ} {g : κ → β} {xs : List β}
    (h : ∀ x ∈ xs, x = g (key x)) : (xs.map key).map g = xs := by
  rw [List.map_map]
  calc xs.map (g ∘ key) = xs.map id := List.map_congr_left fun x hx => (h x hx).symm
    _ = xs := List.map_id xs

/-- The parts of all actors, each listed once, show the ledger. -/
theorem shows_of_parts {snapshot : DatabaseSnapshot Amount}
    (hacc : (snapshot.accounts.map AccountSnapshot.accountId).Perm c.router.accounts.toList)
    (hcards : (snapshot.cards.map CardSnapshot.key).Perm c.router.cards.toList)
    (hpa : ∀ x ∈ snapshot.accounts, x = accountPart c x.accountId)
    (hpc : ∀ x ∈ snapshot.cards, x = cardPart c (CardSnapshot.key x)) :
    c.ledger.Shows snapshot := by
  constructor
  · refine .of_keys c.router.accounts.nodup (fun _ => rfl) (fun a => ?_)
      (map_of_keys hpa ▸ hacc.map (accountPart c))
    exact ⟨fun ha => ActorStates.accountSnapshot_of_mem ha,
      fun ha => ActorStates.accountSnapshot_of_not_mem ha⟩
  · refine .of_keys c.router.cards.nodup (fun _ => rfl) (fun k => ?_)
      (map_of_keys hpc ▸ hcards.map (cardPart c))
    exact ⟨fun hk => ActorStates.cardSnapshot_of_mem hk,
      fun hk => ActorStates.cardSnapshot_of_not_mem hk⟩

theorem Assembled.shows (h : Assembled c n addr r events p s) :
    c.ledger.Shows ⟨p.addr, p.accounts, p.cards⟩ := by
  obtain ⟨-, hacc, hcards⟩ := PendingDatabaseSnapshot.complete h.places addr
  exact shows_of_parts hacc hcards h.gathers.accounts h.gathers.cards

/-- The router as it starts to gather: it has only noted the request. -/
def noted (c : ActorStates) (n : OpId) (addr : SocketAddr) : ActorRouter :=
  { c.router with
    operations := Function.update c.router.operations n (some (.getDatabase addr)) }

theorem Assembled.serves (h : Assembled s.states n addr (noted s.states n addr) s.events p s')
    (hrest : s.AtRest) : s.Serves n (.getDatabase addr) s' := by
  have hledger : s'.ledger = s.ledger := by
    show ActorStates.ledger ⟨s'.router, s'.account, s'.card⟩ = _
    rw [h.router, h.account, h.card]
    rfl
  refine ⟨⟨h.quiescent, ?_⟩, _, none, ?_, h.events⟩
  · show ActorStates.Idle ⟨s'.router, s'.account, s'.card⟩
    rw [h.account, h.card]
    exact ⟨hrest.idle.account, hrest.idle.card, hrest.idle.queue⟩
  · rw [hledger]
    exact .shown addr _ h.gathers.addr h.shows

/-- **A snapshot** of a database at rest, in any interleaving. -/
theorem getDatabase_ends (hf : Formed s) (hrest : s.AtRest) (n : OpId) (addr : SocketAddr) :
    ∃ m, Ends ActorDb.step Label.Internal (s.Serves n (.getDatabase addr)) m
      (s.execute n (.getDatabase addr)) := by
  let r := noted s.states n addr
  have hfe : Formed (s.execute n (.getDatabase addr)) :=
    hf.step (l := .execute n (.getDatabase addr)) rfl
  have hfl := ActorDb.InFlight.execute hrest.quiescent n (.getDatabase addr)
  by_cases hempty : r.accounts.toList.length = 0 ∧ r.cards.toList.length = 0
  · -- nobody to ask
    have hexec : s.router.execute n (.getDatabase addr) = (r, [.event (.operationResult n
        (.getDatabase addr) (.databaseSnapshot ⟨addr, [], []⟩) true none)]) := if_pos hempty
    have hchain : Chain 1 s.states (.router (.execute n (.getDatabase addr)))
        ⟨r, s.account, s.card⟩ _ :=
      .last nofun (ActorStates.handle_router (c := s.states) hexec)
    refine ⟨1, (hchain.ends hfe rfl hfl).imp fun s' hdone => ?_⟩
    have hledger : s'.ledger = s.ledger :=
      (congrArg ActorStates.ledger hdone.states).trans rfl
    have hacc : s.states.router.accounts.toList = [] := List.length_eq_zero_iff.mp hempty.1
    have hcards : s.states.router.cards.toList = [] := List.length_eq_zero_iff.mp hempty.2
    have hshows : s.ledger.Shows ⟨addr, [], []⟩ := by
      refine shows_of_parts (c := s.states) ?_ ?_ nofun nofun
      · rw [hacc]
        exact List.Perm.refl _
      · rw [hcards]
        exact List.Perm.refl _
    refine ⟨⟨hdone.quiescent, ?_⟩, .databaseSnapshot ⟨addr, [], []⟩, none, ?_, hdone.events⟩
    · rw [hdone.states]
      exact ⟨hrest.idle.account, hrest.idle.card, hrest.idle.queue⟩
    · rw [hledger]
      exact .shown addr _ rfl hshows
  · let p₀ : PendingDatabaseSnapshot :=
      ⟨addr, r.accounts.toList.length, r.cards.toList.length, [], []⟩
    let asks := (askOf s.states addr).sources
    have hexec : s.router.execute n (.getDatabase addr) =
        (withPending n r (some p₀), asks.map (requestTo n)) := by
      refine (if_neg hempty).trans (Prod.ext rfl ?_)
      show _ = ((askOf s.states addr).sources).map (requestTo n)
      unfold Ask.sources
      rw [List.map_append, List.map_map, List.map_map]
      rfl
    refine ⟨2 * asks.length + 0 + 1, hfl.single hfe nofun fun s₁ hf₁ hst hev hfl₁ => ?_⟩
    have hhandle : (s.execute n (.getDatabase addr)).states.handle
        (.router (.execute n (.getDatabase addr))) =
          (⟨withPending n r (some p₀), s.account, s.card⟩, asks.map (requestTo n)) :=
      ActorStates.handle_router (c := s.states) hexec
    rw [hhandle] at hst hev hfl₁
    have hpos : 0 < asks.length + 0 := by
      show 0 < ((askOf s.states addr).sources).length + 0
      unfold Ask.sources
      rw [List.length_append, List.length_map, List.length_map]
      show 0 < r.accounts.toList.length + r.cards.toList.length + 0
      omega
    have hass : Assembling s.states n addr r s.events asks [] p₀ s₁ := by
      refine ⟨hf₁, ?_, ?_, hpos, ⟨rfl, rfl, rfl, nofun, nofun⟩, congrArg ActorStates.router hst,
        congrArg ActorStates.account hst, congrArg ActorStates.card hst, ?_⟩
      · rw [List.map_nil, List.append_nil]
        exact hfl₁
      · have hnone : p₀.sources = [] := rfl
        rw [hnone, List.append_nil, List.append_nil]
      · have hnone : (asks.map (requestTo n)).filterMap Send.toNode? = [] := by
          rw [List.filterMap_eq_nil_iff]
          intro x hx
          obtain ⟨y, -, rfl⟩ := List.mem_map.mp hx
          cases y <;> rfl
        rw [hev, hnone, List.append_nil]
        rfl
    have hop : r.operations n = some (.getDatabase addr) := Function.update_self ..
    exact (hass.ends hf.named hop rfl).imp fun s' ⟨p, hdone⟩ => hdone.serves hrest

/-- **One operation at a time refines the specification.** From a database at rest, and
    whatever the interleaving of the messages an operation sets off, the database comes to
    rest with exactly one result, and result and ledger are those of the specification. -/
theorem execute_serves (hf : Formed s) (hrest : s.AtRest) (n : OpId) (o : Operation Amount)
    (ho : ∀ snapshot, o ≠ .replaceDatabase snapshot) :
    (s.execute n o).Settles (s.Serves n o) := by
  have hfe : Formed (s.execute n o) := hf.step (l := .execute n o) rfl
  have hfl := ActorDb.InFlight.execute hrest.quiescent n o
  have hserved : ∀ m c', s.states.ServedBy n o m c' →
      Ends ActorDb.step Label.Internal (s.Serves n o) m (s.execute n o) := by
    intro m c' hchain
    obtain ⟨res, err, hchain, hidle, hserve⟩ := hchain
    refine (hchain.ends hfe rfl hfl).imp fun s' hdone => ?_
    refine ⟨⟨hdone.quiescent, by rw [hdone.states]; exact hidle⟩, res, err, ?_, hdone.events⟩
    show s.ledger.Serves o res err s'.states.ledger
    rw [hdone.states]
    exact hserve
  obtain ⟨m, hends⟩ : ∃ m, Ends ActorDb.step Label.Internal (s.Serves n o) m (s.execute n o) := by
    cases o with
    | charge a cd amount off =>
      obtain ⟨m, c', h⟩ := ActorStates.charge_served hf.named hrest.idle n a cd amount off
      exact ⟨m, hserved m c' h⟩
    | limitAccount a lim =>
      obtain ⟨m, c', h⟩ := ActorStates.limitAccount_served hf.named hrest.idle n a lim
      exact ⟨m, hserved m c' h⟩
    | limitCard a cd lim =>
      obtain ⟨m, c', h⟩ := ActorStates.limitCard_served hf.named hrest.idle n a cd lim
      exact ⟨m, hserved m c' h⟩
    | accountQuery a => exact query_ends hf hrest (show Queries a false (.accountQuery a) from rfl) n
    | bill a period => exact query_ends hf hrest (show Queries a true (.bill a period) from ⟨period, rfl⟩) n
    | getDatabase addr => exact getDatabase_ends hf hrest n addr
    | replaceDatabase snapshot => exact absurd rfl (ho snapshot)
  exact ActorDb.settles_of_ends hfe hends

end

/-- A bill over the two cards of an account, next to a card of another one. -/
theorem execute_serves_example :
    ∃ s : ActorDb, Reaches ActorDb.step ActorDb.init s ∧ s.ledger.account 1 = some ⟨some 90, 50⟩ ∧
      s.ledger.card (1, 7) = some ⟨none, 30⟩ ∧ s.ledger.card (1, 8) = some ⟨none, 20⟩ ∧
      s.ledger.card (2, 5) = some ⟨none, 10⟩ ∧
      (s.execute 5 (.bill 1 none)).Settles (s.Serves 5 (.bill 1 none)) := by
  obtain ⟨s, hs, hf, hrest, haccount, h7, h8, h5⟩ := atRest_of_run
    [.execute 1 (.limitAccount 1 (some 90)), .router, .account 1, .router,
      .execute 2 (.charge 1 7 30 false), .router, .card (1, 7), .account 1, .card (1, 7), .router,
      .execute 3 (.charge 1 8 20 false), .router, .card (1, 8), .account 1, .card (1, 8), .router,
      .execute 4 (.charge 2 5 10 false), .router, .card (2, 5), .account 2, .card (2, 5), .router]
    (fun s => s.ledger.account 1 = some ⟨some 90, 50⟩ ∧ s.ledger.card (1, 7) = some ⟨none, 30⟩ ∧
      s.ledger.card (1, 8) = some ⟨none, 20⟩ ∧ s.ledger.card (2, 5) = some ⟨none, 10⟩)
    (by decide +kernel)
  exact ⟨s, hs, haccount, h7, h8, h5, execute_serves hf hrest 5 _ nofun⟩

end YpfRuta.Actors
