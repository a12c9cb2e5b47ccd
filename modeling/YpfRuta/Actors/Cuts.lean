/-
  A snapshot as a cut. From the moment the router asks for it each account and each
  card has one price: an account what it has consumed, a card what it has consumed and
  what the replies ahead of the request will still add. What an actor then puts in its
  fragment is its price, unless its account accepts a charge while it is being asked.
-/
import YpfRuta.Actors.Balance
import YpfRuta.Actors.Fragments
import YpfRuta.Actors.Queries

namespace YpfRuta.Actors

open Lib

def AccountMsg.isSnapshot : AccountMsg → Bool
  | .getSnapshot _ => true
  | _ => false

/-- The account accepts a charge while a request for its snapshot waits behind it. -/
def ActorDb.Tears (s : ActorDb) : Label → Bool
  | .account a =>
    match s.accountBox a with
    | m :: rest => !((s.account a).added m).isEmpty && rest.any AccountMsg.isSnapshot
    | [] => false
  | _ => false

/-- Each account in a snapshot has consumed what its cards in the snapshot have. -/
def Consistent (d : DatabaseSnapshot Amount) : Prop :=
  ∀ x ∈ d.accounts, x.consumed =
    (d.cards.map fun y => if y.accountId = x.accountId then y.consumed else 0).sum

/-- Fragments report the prices of their sources. -/
structure Fits (w : Source → Amount) (accounts : List (AccountSnapshot Amount))
    (cards : List (CardSnapshot Amount)) : Prop where
  accounts : ∀ x ∈ accounts, x.consumed = w (.inl x.accountId)
  cards : ∀ x ∈ cards, x.consumed = w (.inr (CardSnapshot.key x))

/-- The prices of the accounts are those of their cards together. -/
def AddsUp (w : Source → Amount) (cards : Keys CardKey) : Prop :=
  ∀ a, w (.inl a) = cards.sum fun k => if k.1 = a then w (.inr k) else 0

variable {n : OpId} {w : Source → Amount} {op : OpId → Option (Operation Amount)}
  {K : OpId → Operation Amount → Prop} {s s' : ActorDb} {l : Label}

/-- A complete snapshot at prices that add up is consistent. -/
theorem Ask.Complete.consistent {x : Ask} {v : View} (hv : x.Complete v)
    (hw : Fits w v.2.accounts v.2.cards) (hsum : AddsUp w x.cards) : Consistent v.2 := by
  intro y hy
  have hcards : (v.2.cards.map fun z => if z.accountId = y.accountId then z.consumed else 0) =
      (v.2.cards.map CardSnapshot.key).map fun k =>
        if k.1 = y.accountId then w (.inr k) else 0 := by
    rw [List.map_map]
    refine List.map_congr_left fun z hz => ?_
    rw [Function.comp_apply, ← hw.cards z hz]
    rfl
  rw [hw.accounts y hy, hsum y.accountId, hcards]
  exact ((hv.cards.map _).sum_eq).symm

/-! ## Prices while the snapshot is collected -/

/-- Everyone who has not answered yet will report its price, and everyone else has. -/
structure Priced (op : OpId → Option (Operation Amount)) (n : OpId) (w : Source → Amount)
    (s : ActorDb) : Prop where
  account : ∀ a, .getSnapshot n ∈ s.accountBox a → (s.account a).accountConsumed = w (.inl a)
  card : ∀ k pre post, s.cardBox k = pre ++ .getSnapshot n :: post →
    (s.card k).consumed + (pre.map (CardMsg.approval op k.1)).sum = w (.inr k)
  accountFragment : ∀ x, .accountSnapshotCollected n x ∈ s.routerBox →
    x.consumed = w (.inl x.accountId)
  cardFragment : ∀ x, .cardSnapshotCollected n x ∈ s.routerBox →
    x.consumed = w (.inr (CardSnapshot.key x))
  pending : ∀ p, s.router.pendingDbSnapshots n = some p → Fits w p.accounts p.cards
  views : ∀ v ∈ s.views, Fits w v.2.accounts v.2.cards

/-- A send that is silent about `n` is no request for a snapshot under `n`. -/
theorem silent_account {ys : List Send} (hs : Silent n ys) (a : AccountId) :
    .getSnapshot n ∉ ys.filterMap (Send.toAccount? a) := by
  intro hmem
  obtain ⟨y, hy, hya⟩ := List.mem_filterMap.mp hmem
  have hnone := List.filterMap_eq_nil_iff.mp hs y hy
  cases y with
  | account a' m =>
    obtain ⟨rfl, rfl⟩ : a' = a ∧ m = .getSnapshot n := by simpa [Send.toAccount?] using hya
    simp [Send.source?] at hnone
  | _ => cases hya

theorem silent_card {ys : List Send} (hs : Silent n ys) (k : CardKey) :
    .getSnapshot n ∉ ys.filterMap (Send.toCard? k) := by
  intro hmem
  obtain ⟨y, hy, hyk⟩ := List.mem_filterMap.mp hmem
  have hnone := List.filterMap_eq_nil_iff.mp hs y hy
  cases y with
  | card k' m =>
    obtain ⟨rfl, rfl⟩ : k' = k ∧ m = .getSnapshot n := by simpa [Send.toCard?] using hyk
    simp [Send.source?] at hnone
  | _ => cases hyk

theorem views_routerStep (s : ActorDb) (m : RouterMsg) (rest : List RouterMsg) :
    (s.routerStep m rest).views =
      s.views ++ ((s.router.handle m).2.filterMap Send.toNode?).filterMap ActorEvent.view? :=
  List.filterMap_append ..

/-- **The router handles a message** other than a `GetDatabase`. -/
theorem Priced.router {m : RouterMsg} {rest : List RouterMsg} (hi : Priced op n w s)
    (hbox : s.routerBox = m :: rest) (hget : ∀ n' addr, m ≠ .execute n' (.getDatabase addr))
    (hothers : ∀ n', n' ≠ n → s.router.pendingDbSnapshots n' = none) :
    Priced op n w (s.routerStep m rest) := by
  have hmem : m ∈ s.routerBox := by rw [hbox]; exact List.mem_cons_self
  have hrest : ∀ x ∈ rest, x ∈ s.routerBox := by
    intro x hx
    rw [hbox]
    exact List.mem_cons_of_mem _ hx
  have hsilent := ActorRouter.handle_silent_of_ne (n := n) s.router hget
  have hcoll := ActorRouter.handle_collects (P := fun x => x.consumed = w (.inl x.accountId))
    (Q := fun x => x.consumed = w (.inr (CardSnapshot.key x)))
    (fun p hp => ⟨(hi.pending p hp).accounts, (hi.pending p hp).cards⟩) hothers hget
    (fun x he => hi.accountFragment x (he ▸ hmem)) fun x he => hi.cardFragment x (he ▸ hmem)
  have hback : (s.routerStep m rest).routerBox = rest := by
    show rest ++ (s.router.handle m).2.filterMap Send.toRouter? = rest
    rw [ActorRouter.handle_toRouter, List.append_nil]
  refine ⟨?_, ?_, ?_, ?_, fun p hp => ⟨(hcoll.pending p hp).1, (hcoll.pending p hp).2⟩, ?_⟩
  · intro a ha
    rcases List.mem_append.mp ha with ha | ha
    · exact hi.account a ha
    · exact absurd ha (silent_account hsilent a)
  · intro k pre post hsplit
    obtain ⟨post', hold⟩ := append_split hsplit (silent_card hsilent k)
    exact hi.card k pre post' hold
  · intro x hx
    rw [hback] at hx
    exact hi.accountFragment x (hrest _ hx)
  · intro x hx
    rw [hback] at hx
    exact hi.cardFragment x (hrest _ hx)
  · intro v hv
    rw [views_routerStep] at hv
    rcases List.mem_append.mp hv with hv | hv
    · exact hi.views v hv
    · exact ⟨(hcoll.views v hv).1, (hcoll.views v hv).2⟩

/-- **An account handles a message**: while it is asked it accepts no charge, and it reports
    its price. -/
theorem Priced.accountStep {a : AccountId} {m : AccountMsg} {rest : List AccountMsg}
    (hi : Priced op n w s) (hbox : s.accountBox a = m :: rest) (ho : (originInv K).Holds s)
    (hrep : ∀ lim con, m ≠ .replaceState lim con) (hresets : (s.account a).resets m = false)
    (htears : s.Tears (.account a) = false) : Priced op n w (s.accountStep a m rest) := by
  have hmem : m ∈ s.accountBox a := by rw [hbox]; exact List.mem_cons_self
  have hsource := AccountActor.handle_source (n := n) (ho.account a).1 m
  have hviews : (s.accountStep a m rest).views = s.views := by
    show (s.events ++ ((s.account a).handle m).2.filterMap Send.toNode?).filterMap _ = _
    rw [AccountActor.handle_toNode, List.append_nil]
    rfl
  -- nothing but a fragment in answer to `getSnapshot` reaches the router about `n`
  have hsent : ∀ y ∈ ((s.account a).handle m).2, y.source? n ≠ none → m = .getSnapshot n := by
    intro y hy hy'
    by_contra hne
    have hnone : (Send.account a m).source? n = none := by
      cases m with
      | getSnapshot n' =>
        have hn : n' ≠ n := by
          rintro rfl
          exact hne rfl
        exact if_neg hn
      | _ => rfl
    rw [hnone] at hsource
    exact hy' (List.filterMap_eq_nil_iff.mp hsource y hy)
  refine ⟨?_, ?_, ?_, ?_, hi.pending, fun v hv => hi.views v (hviews ▸ hv)⟩
  · intro b hb
    rw [accountStep_box] at hb
    by_cases hba : b = a
    · subst hba
      rw [Function.update_self] at hb
      have hcons := AccountActor.handle_consumed (s.account b) m hrep
      have hnone : (s.account b).added m = [] := by
        by_contra hadd
        have hasks : rest.any AccountMsg.isSnapshot = true :=
          List.any_eq_true.mpr ⟨_, hb, rfl⟩
        simp [ActorDb.Tears, hbox, hadd, hasks] at htears
      rw [ActorDb.accountStep_account, Function.update_self, hcons, hresets, hnone]
      rw [← hi.account b (by rw [hbox]; exact List.mem_cons_of_mem _ hb)]
      simp
    · rw [Function.update_of_ne hba] at hb
      rw [ActorDb.accountStep_account, Function.update_of_ne hba]
      exact hi.account b hb
  · intro k pre post hsplit
    have hnone : .getSnapshot n ∉ ((s.account a).handle m).2.filterMap (Send.toCard? k) := by
      intro hget
      obtain ⟨y, hy, hyk⟩ := List.mem_filterMap.mp hget
      cases AccountActor.handle_emits _ m y hy <;> simp [Send.toCard?] at hyk
    obtain ⟨post', hold⟩ := append_split hsplit hnone
    exact hi.card k pre post' hold
  · intro x hx
    rcases List.mem_append.mp hx with hx | hx
    · exact hi.accountFragment x hx
    · obtain ⟨y, hy, hyx⟩ := List.mem_filterMap.mp hx
      obtain rfl : y = .router (.accountSnapshotCollected n x) := by
        cases y <;> simp [Send.toRouter?] at hyx
        rw [hyx]
      obtain rfl := hsent _ hy (by simp [Send.source?])
      have hx' := List.mem_singleton.mp hy
      simp only [Send.router.injEq, RouterMsg.accountSnapshotCollected.injEq, true_and] at hx'
      rw [hx']
      dsimp only
      rw [(ho.account a).1]
      exact hi.account a hmem
  · intro x hx
    rcases List.mem_append.mp hx with hx | hx
    · exact hi.cardFragment x hx
    · obtain ⟨y, hy, hyx⟩ := List.mem_filterMap.mp hx
      obtain rfl : y = .router (.cardSnapshotCollected n x) := by
        cases y <;> simp [Send.toRouter?] at hyx
        rw [hyx]
      obtain rfl := hsent _ hy (by simp [Send.source?])
      cases List.mem_singleton.mp hy

/-- **A card handles a message**: it adds what its account approved ahead of the request,
    and then reports its price. -/
theorem Priced.cardStep {k : CardKey} {m : CardMsg} {rest : List CardMsg}
    (hi : Priced op n w s) (hbox : s.cardBox k = m :: rest) (ho : (originInv K).Holds s)
    (hop : ∀ n o, K n o → op n = some o) (hrep : ∀ n snapshot, ¬ K n (.replaceDatabase snapshot))
    (hquery : ∀ n a billing, m ≠ .queryCardState n a billing)
    (hflight : ∀ r, m = .chargeReply r → (s.card k).inFlight r.opId ≠ 0) :
    Priced op n w (s.cardStep k m rest) := by
  have hmem : m ∈ s.cardBox k := by rw [hbox]; exact List.mem_cons_self
  have hviews : (s.cardStep k m rest).views = s.views := by
    show (s.events ++ ((s.card k).handle m).2.filterMap Send.toNode?).filterMap _ = _
    rw [CardActor.handle_toNode, List.append_nil]
    rfl
  have hsent : ∀ j, ((s.card k).handle m).2.filterMap (Send.toCard? j) = [] := by
    intro j
    rw [List.filterMap_eq_nil_iff]
    intro y hy
    cases CardActor.handle_emits _ m y hy <;> rfl
  -- only the answer to `getSnapshot` is a fragment
  have hfragment : ∀ m', .router m' ∈ ((s.card k).handle m).2 →
      (Send.router m').source? n ≠ none →
      m = .getSnapshot n ∧ m' = .cardSnapshotCollected n
        ⟨(s.card k).accountId, (s.card k).cardId, (s.card k).limit, (s.card k).consumed⟩ := by
    intro m' hy hsource
    obtain hp | ⟨text, he⟩ | ⟨n', x, rfl, he⟩ := CardActor.handle_pumps _ m hquery _ hy
    · generalize hz : Send.router m' = z at hp hsource
      cases hp <;> cases hz
      exact absurd rfl hsource
    · obtain rfl := Send.router.inj he
      exact absurd rfl hsource
    · obtain rfl := Send.router.inj he
      have hn : n' = n := by
        by_contra hne
        exact hsource (if_neg hne)
      subst hn
      exact ⟨rfl, Send.router.inj (List.mem_singleton.mp hy)⟩
  refine ⟨?_, ?_, ?_, ?_, hi.pending, fun v hv => hi.views v (hviews ▸ hv)⟩
  · intro a ha
    rcases List.mem_append.mp ha with ha | ha
    · exact hi.account a ha
    · obtain ⟨y, hy, hya⟩ := List.mem_filterMap.mp ha
      cases CardActor.handle_emits _ m y hy <;>
        simp [Send.toAccount?, CardActor.completed, CardActor.applyCharge] at hya
  · intro j pre post hsplit
    have hbox' : (s.cardStep k m rest).cardBox j = Function.update s.cardBox k rest j := by
      show Function.update s.cardBox k rest j ++ _ = _
      rw [hsent j, List.append_nil]
    rw [hbox'] at hsplit
    rw [ActorDb.cardStep_card]
    by_cases hjk : j = k
    · subst hjk
      rw [Function.update_self] at hsplit ⊢
      have hstake := card_stake (a := j.1) hop hrep (ho.card j) (ho.cardBox j m hmem) hflight
      rw [card_sends_stake hquery, if_pos rfl, if_pos rfl, add_zero] at hstake
      have hprice := hi.card j (m :: pre) post (by rw [hbox, hsplit]; rfl)
      rw [List.map_cons, List.sum_cons] at hprice
      rw [hstake, ← hprice, add_assoc]
    · rw [Function.update_of_ne hjk] at hsplit ⊢
      exact hi.card j pre post hsplit
  · intro x hx
    rcases List.mem_append.mp hx with hx | hx
    · exact hi.accountFragment x hx
    · obtain ⟨y, hy, hyx⟩ := List.mem_filterMap.mp hx
      obtain rfl : y = .router (.accountSnapshotCollected n x) := by
        cases y <;> simp [Send.toRouter?] at hyx
        rw [hyx]
      obtain ⟨-, he⟩ := hfragment _ hy (by simp [Send.source?])
      cases he
  · intro x hx
    rcases List.mem_append.mp hx with hx | hx
    · exact hi.cardFragment x hx
    · obtain ⟨y, hy, hyx⟩ := List.mem_filterMap.mp hx
      obtain rfl : y = .router (.cardSnapshotCollected n x) := by
        cases y <;> simp [Send.toRouter?] at hyx
        rw [hyx]
      obtain ⟨rfl, he⟩ := hfragment _ hy (by simp [Send.source?])
      obtain rfl := (RouterMsg.cardSnapshotCollected.inj he).2
      have hprice := hi.card k [] rest hbox
      rw [List.map_nil, List.sum_nil, add_zero] at hprice
      dsimp only
      rw [hprice, CardSnapshot.key, (ho.card k).accountId, (ho.card k).cardId]

/-! ## The snapshot is asked for -/

/-- A card is sent nothing but requests for its snapshot. -/
theorem ActorRouter.getDatabase_toCard (r : ActorRouter) (n : OpId) (addr : SocketAddr)
    (k : CardKey) : ∀ m ∈ (r.handle (.execute n (.getDatabase addr))).2.filterMap
      (Send.toCard? k), m = .getSnapshot n := by
  intro m hm
  obtain ⟨y, hy, hyk⟩ := List.mem_filterMap.mp hm
  obtain ⟨-, he⟩ | ⟨-, he⟩ := r.getDatabase_cases n addr <;> rw [he] at hy
  · obtain rfl := List.mem_singleton.mp hy
    cases hyk
  · rcases List.mem_append.mp hy with hy | hy
    · obtain ⟨a, -, rfl⟩ := List.mem_map.mp hy
      cases hyk
    · obtain ⟨j, -, rfl⟩ := List.mem_map.mp hy
      have hyk' : (if j = k then some (CardMsg.getSnapshot n) else none) = some m := hyk
      split at hyk'
      · exact (Option.some.inj hyk').symm
      · cases hyk'

/-- The price of an account is what it has consumed, that of a card what it will have
    consumed when it handles what is in its mailbox. -/
def ActorDb.price (op : OpId → Option (Operation Amount)) (s : ActorDb) : Source → Amount
  | .inl a => (s.account a).accountConsumed
  | .inr k => (s.card k).consumed + ((s.cardBox k).map (CardMsg.approval op k.1)).sum

/-- Where the accounts balance, the prices add up. -/
theorem price_addsUp (hop : ∀ n o, K n o → op n = some o) (ho : (originInv K).Holds s)
    (hbal : ∀ a, (s.account a).accountConsumed = s.cardsConsumed a + s.approvals op a) :
    AddsUp (s.price op) s.router.cards := by
  intro a
  show (s.account a).accountConsumed = _
  unfold ActorDb.cardsConsumed ActorDb.approvals at hbal
  rw [hbal a, ← Keys.sum_add]
  refine Keys.sum_congr fun k _ => ?_
  by_cases hka : k.1 = a
  · subst hka
    rw [if_pos rfl, if_pos rfl]
    rfl
  · have hzero : ((s.cardBox k).map (CardMsg.approval op a)).sum = 0 := by
      refine List.sum_eq_zero fun y hy => ?_
      obtain ⟨m, hm, rfl⟩ := List.mem_map.mp hy
      cases m with
      | chargeReply r =>
        obtain ⟨amount, off, hk, -⟩ := ho.cardBox k _ hm
        simp [CardMsg.approval, chargeAmount, hop _ _ hk, hka]
      | _ => rfl
    rw [if_neg hka, if_neg hka, hzero, add_zero]

/-- **The router asks**: from here on everyone has its price. -/
theorem Priced.begin {flight : List Send} {addr : SocketAddr} {rest : List RouterMsg}
    (hi : SnapshotBook n [] s flight []) (hbox : s.routerBox = .execute n (.getDatabase addr) :: rest) :
    Priced op n (s.price op) (s.routerStep (.execute n (.getDatabase addr)) rest) := by
  obtain ⟨views, hreported, ha⟩ := hi.assembly
  obtain ⟨hfree, hsilent, hviews⟩ : s.router.pendingDbSnapshots n = none ∧
      flight.filterMap (Send.source? n) = [] ∧ s.views = [] := by
    cases ha with
    | idle hp hu hv =>
      cases hv
      exact ⟨hp, hu, hreported⟩
    | «open» done x p hasked => simp at hasked
  have hnone : ∀ y ∈ flight, y.source? n = none := List.filterMap_eq_nil_iff.mp hsilent
  have hrest : ∀ m ∈ rest, (Send.router m).source? n = none := fun m hm =>
    hnone _ (hi.inFlight.mem_router (by rw [hbox]; exact List.mem_cons_of_mem _ hm))
  have hback : (s.routerStep (.execute n (.getDatabase addr)) rest).routerBox = rest := by
    show rest ++ (s.router.handle _).2.filterMap Send.toRouter? = rest
    rw [ActorRouter.handle_toRouter, List.append_nil]
  refine ⟨fun a _ => rfl, ?_, ?_, ?_, ?_, ?_⟩
  · intro k pre post hsplit
    -- the card is asked behind all it has in its mailbox
    have hold : .getSnapshot n ∉ s.cardBox k := by
      intro hmem
      have := hnone _ (hi.inFlight.mem_card hmem)
      simp [Send.source?] at this
    have hsent := s.router.getDatabase_toCard n addr k
    obtain ⟨as, rfl, hys⟩ | ⟨bs, hxs, hpost⟩ := List.append_eq_append_iff.mp hsplit
    · have hzero : (as.map (CardMsg.approval op k.1)).sum = 0 := by
        refine List.sum_eq_zero fun y hy => ?_
        obtain ⟨m, hm, rfl⟩ := List.mem_map.mp hy
        rw [hsent m (by rw [hys]; exact List.mem_append_left _ hm)]
        rfl
      rw [List.map_append, List.sum_append, hzero, add_zero]
      rfl
    · cases bs with
      | nil =>
        rw [List.append_nil] at hxs
        rw [← hxs]
        rfl
      | cons b bs =>
        obtain ⟨rfl, -⟩ := List.cons.inj hpost
        exact absurd (by rw [hxs]; simp) hold
  · intro x hx
    rw [hback] at hx
    have := hrest _ hx
    simp [Send.source?] at this
  · intro x hx
    rw [hback] at hx
    have := hrest _ hx
    simp [Send.source?] at this
  · intro p hp
    obtain ⟨hpend, -⟩ | ⟨hpend, -⟩ := s.router.getDatabase_cases n addr
    · rw [show (s.routerStep (.execute n (.getDatabase addr)) rest).router.pendingDbSnapshots = _
        from hpend, hfree] at hp
      cases hp
    · rw [show (s.routerStep (.execute n (.getDatabase addr)) rest).router.pendingDbSnapshots = _
        from hpend, Function.update_self] at hp
      obtain rfl := Option.some.inj hp
      exact ⟨fun x hx => (by cases hx), fun x hx => by cases hx⟩
  · intro v hv
    rw [views_routerStep, hviews, List.nil_append] at hv
    obtain ⟨-, he⟩ | ⟨-, he⟩ := s.router.getDatabase_cases n addr <;> rw [he] at hv
    · obtain rfl := List.mem_singleton.mp hv
      exact ⟨fun x hx => (by cases hx), fun x hx => by cases hx⟩
    · obtain ⟨ev, hev, -⟩ := List.mem_filterMap.mp hv
      obtain ⟨y, hy, hye⟩ := List.mem_filterMap.mp hev
      obtain hy | hy := List.mem_append.mp hy <;> obtain ⟨z, -, rfl⟩ := List.mem_map.mp hy <;>
        cases hye

/-! ## Runs -/

/-- No command of the run is a query or a bill. -/
def Unqueried (K : OpId → Operation Amount → Prop) : Prop :=
  ∀ n o, K n o → ∀ a billing, ¬ Queries a billing o

/-- Without queries and bills an account never collects. -/
theorem Unqueried.pending (hK : Unqueried K) (ho : (originInv K).Holds s) (a : AccountId) :
    (s.account a).pendingQuery = none := by
  by_contra hne
  obtain ⟨p, hp⟩ := Option.ne_none_iff_exists'.mp hne
  obtain ⟨o, hk, hq⟩ := (ho.account a).2 p hp
  exact hK _ o hk a _ hq

theorem Unqueried.resets (hK : Unqueried K) (ho : (originInv K).Holds s) {a : AccountId}
    {m : AccountMsg} (hm : m ∈ s.accountBox a) : (s.account a).resets m = false := by
  cases m with
  | startAccountBill n num =>
    obtain ⟨period, hk⟩ := ho.accountBox a _ hm
    exact absurd ⟨period, rfl⟩ (hK n _ hk a true)
  | cardQueryReply n c con => simp [AccountActor.resets, hK.pending ho a]
  | _ => rfl

theorem Unqueried.noBill (hK : Unqueried K) (ho : (originInv K).Holds s) (a : AccountId) :
    ¬ s.BillRuns a := by
  rintro (⟨n, num, -, hmem⟩ | ⟨p, hp, -⟩)
  · obtain ⟨period, hk⟩ := ho.accountBox a _ hmem
    exact hK n _ hk a true ⟨period, rfl⟩
  · rw [hK.pending ho a] at hp
    cases hp

theorem Unqueried.calm (hK : Unqueried K) (ho : (originInv K).Holds s) (l : Label) :
    ¬ OverwritesBill s l ∧ ¬ ClosesOverCharges s l := by
  cases l with
  | account a =>
    cases hbox : s.accountBox a with
    | nil => simp [OverwritesBill, ClosesOverCharges, hbox]
    | cons m rest =>
      have hopen := hK.resets ho (show m ∈ s.accountBox a by rw [hbox]; exact List.mem_cons_self)
      simp [OverwritesBill, ClosesOverCharges, hbox, hK.pending ho a, hopen]
  | _ => exact ⟨id, id⟩

theorem Unqueried.asks (hK : Unqueried K) (ho : (originInv K).Holds s) {k : CardKey}
    {m : CardMsg} (hm : m ∈ s.cardBox k) (n : OpId) (a : AccountId) (billing : Bool) :
    m ≠ .queryCardState n a billing := by
  rintro rfl
  obtain ⟨-, o, hk, hq⟩ := ho.cardBox k _ hm
  exact hK n o hk a billing hq

/-- Without bills under way the account has consumed what its cards have and will add. -/
theorem Audited.balanced {t : ActorDb} {a : AccountId} (hi : Audited s a t) (hK : Unqueried K)
    (ho : (originInv K).Holds t) :
    (t.account a).accountConsumed = t.cardsConsumed a + t.approvals s.operationOf a := by
  have hno := hK.noBill ho a
  have hreported := hi.bills.reported_eq_zero (fun p hp => by
    rw [hK.pending ho a] at hp
    cases hp) hno
  have hbal : t.Balanced s.operationOf a := hi.accounted.resolve_right hno
  unfold ActorDb.Balanced ActorDb.cardsSide at hbal
  rw [hbal, hreported, add_zero]

/-- The snapshot asked for under `n`, if any, is collected at prices that add up. -/
structure CutBook (s : ActorDb) (n : OpId) (t : ActorDb) : Prop where
  audited : ∀ a, Audited s a t
  formed : Formed t
  cut : ∃ flight asked, SnapshotBook n [] t flight asked ∧
    (asked = [] ∨ t.router.operations n ≠ none ∧ ∃ x w, asked = [x] ∧ AddsUp w x.cards ∧
      Priced s.operationOf n w t)

theorem CutBook.init : CutBook s n ActorDb.init where
  audited _ := Audited.init
  formed := Formed.init
  cut := by
    refine ⟨[], [], ?_, Or.inl rfl⟩
    have hfresh : SnapshotBook n ActorDb.init.views ActorDb.init [] [] :=
      SnapshotBook.fresh (ActorDb.quiescent_iff.mp ⟨rfl, fun _ => rfl, fun _ => rfl⟩)
        (fun _ => rfl) (fun _ h => absurd h List.not_mem_nil) fun _ _ => List.not_mem_nil
    exact hfresh

/-- The node sends one more command. -/
theorem Priced.command (hi : Priced op n w s) (n' : OpId) (o : Operation Amount) :
    Priced op n w (s.execute n' o) where
  account := hi.account
  card := hi.card
  accountFragment x hx := by
    rcases List.mem_append.mp hx with hx | hx
    · exact hi.accountFragment x hx
    · cases List.mem_singleton.mp hx
  cardFragment x hx := by
    rcases List.mem_append.mp hx with hx | hx
    · exact hi.cardFragment x hx
    · cases List.mem_singleton.mp hx
  pending := hi.pending
  views := hi.views

/-- Charges and limit changes, and one request for a snapshot. -/
def ActorDb.OneSnapshot (s : ActorDb) (n : OpId) (addr : SocketAddr) : Prop :=
  ∀ c ∈ s.commands, IsTask c.2 ∨ c = (n, .getDatabase addr)

section OneSnapshot

variable {addr : SocketAddr}

theorem ActorDb.OneSnapshot.unqueried (h : s.OneSnapshot n addr) :
    Unqueried fun n o => (n, o) ∈ s.commands := by
  intro m o hmem a billing hq
  have hqueries : (∃ period, o = .bill a period) ∨ o = .accountQuery a := by
    cases billing with
    | true => exact Or.inl hq
    | false => exact Or.inr hq
  obtain ht | he := h _ hmem
  · obtain ⟨period, rfl⟩ | rfl := hqueries <;> exact ht
  · obtain ⟨period, rfl⟩ | rfl := hqueries <;> cases he

theorem ActorDb.OneSnapshot.noReplace (h : s.OneSnapshot n addr) : s.NoReplace := by
  intro m snapshot hmem
  obtain ht | he := h _ hmem
  · exact ht
  · cases he

theorem ActorDb.OneSnapshot.request (h : s.OneSnapshot n addr) {m : OpId} {addr' : SocketAddr}
    (hmem : (m, .getDatabase addr') ∈ s.commands) : m = n := by
  obtain ht | he := h _ hmem
  · exact absurd ht id
  · exact (Prod.ext_iff.mp he).1

variable {t t' : ActorDb}

/-- The router has not handled a command of `n` when it meets one. -/
theorem CutBook.unregistered (hi : CutBook s n t) (hid : (s.commands.map Prod.fst).Nodup)
    (ho : (originInv fun n o => (n, o) ∈ s.commands).Holds t) (hsub : t.commands <+: s.commands)
    {o : Operation Amount} {rest : List RouterMsg} (hbox : t.routerBox = .execute n o :: rest) :
    t.router.operations n = none := by
  have hmem : (n, o) ∈ s.commands :=
    ho.routerBox (.execute n o) (by rw [hbox]; exact List.mem_cons_self)
  refine ((hi.audited 0).command n).fresh hbox ?_
  rw [← commanded_eq_one hid hmem]
  exact hsub.sublist.countP_le

/-- The next message of a label is the router's only if the label is. -/
theorem next_router {m : RouterMsg} (h : s.next l = some (.router m)) :
    l = .router ∧ ∃ rest, s.routerBox = m :: rest := by
  have hmem : Send.router m ∈ s.mailbox l.dest := List.mem_of_mem_head? h
  cases l with
  | router =>
    refine ⟨rfl, ?_⟩
    unfold ActorDb.next ActorDb.mailbox Label.dest at h
    cases hbox : s.routerBox with
    | nil => simp [hbox] at h
    | cons m' rest =>
      obtain rfl : m' = m := by simpa [hbox] using h
      exact ⟨rest, rfl⟩
  | _ => simp [ActorDb.mailbox, Label.dest] at hmem

theorem commands_eq_true {y : Send} (h : y.commands n = true) :
    ∃ o, y = .router (.execute n o) := by
  cases y with
  | router m =>
    cases m with
    | execute n' o =>
      obtain rfl : n' = n := by simpa [Send.commands] using h
      exact ⟨o, rfl⟩
    | _ => cases h
  | _ => cases h

/-- No command under `n` overlaps the snapshot: there is only one. -/
theorem CutBook.overlaps (hi : CutBook s n t) (hid : (s.commands.map Prod.fst).Nodup)
    (ho : (originInv fun n o => (n, o) ∈ s.commands).Holds t) (hsub : t.commands <+: s.commands)
    (l : Label) : t.Overlaps n l = false := by
  by_contra hover
  unfold ActorDb.Overlaps at hover
  obtain ⟨hcmd, hpend⟩ := Bool.and_eq_true_iff.mp (Bool.eq_true_of_not_eq_false hover)
  obtain ⟨y, hy, hyn⟩ := (Option.any_eq_true _ _).mp hcmd
  obtain ⟨o, rfl⟩ := commands_eq_true hyn
  obtain ⟨-, rest, hbox⟩ := next_router hy
  have hnone := hi.unregistered hid ho hsub hbox
  obtain ⟨flight, asked, hbook, rfl | ⟨hreg, -⟩⟩ := hi.cut
  · obtain ⟨views, -, ha⟩ := hbook.assembly
    cases ha with
    | idle hp =>
      rw [hp] at hpend
      cases hpend
    | «open» done x p hasked => simp at hasked
  · exact hreg hnone

theorem operations_step {m : OpId} (h : t.step l = some t') (hreg : t.router.operations m ≠ none) :
    t'.router.operations m ≠ none := by
  obtain heq | ⟨o, rest, -, -, -, heq⟩ := step_operations m h
  · rw [heq]
    exact hreg
  · rw [heq]
    simp

/-- The prices stand once the snapshot is asked for. -/
theorem CutBook.priced {x : Ask} {flight : List Send} (hi : CutBook s n t)
    (hid : (s.commands.map Prod.fst).Nodup) (hone : s.OneSnapshot n addr)
    (ho : (originInv fun n o => (n, o) ∈ s.commands).Holds t) (hsub : t.commands <+: s.commands)
    (htears : t.Tears l = false) (hbook : SnapshotBook n [] t flight [x])
    (hreg : t.router.operations n ≠ none) (hw : Priced s.operationOf n w t)
    (h : t.step l = some t') : Priced s.operationOf n w t' := by
  have hK := hone.unqueried
  have hop : ∀ n o, (n, o) ∈ s.commands → s.operationOf n = some o := fun n o => operationOf_eq hid
  obtain ⟨n', o, rfl, rfl⟩ | ⟨m, rest, rfl, hbox, -, rfl⟩ | ⟨a, m, rest, rfl, hbox, rfl⟩ |
    ⟨k, m, rest, rfl, hbox, rfl⟩ := ActorDb.step_cases h
  · exact hw.command n' o
  · have hfresh : ∀ o, m ≠ .execute n o := by
      rintro o rfl
      exact hreg (hi.unregistered hid ho hsub hbox)
    refine hw.router hbox ?_ hbook.others
    rintro n' addr' rfl
    have hmem : (n', .getDatabase addr') ∈ s.commands :=
      ho.routerBox (.execute n' (.getDatabase addr')) (by rw [hbox]; exact List.mem_cons_self)
    obtain rfl := hone.request hmem
    exact hfresh _ rfl
  · have hmem : m ∈ t.accountBox a := by rw [hbox]; exact List.mem_cons_self
    refine hw.accountStep hbox ho ?_ (hK.resets ho hmem) htears
    rintro lim con rfl
    obtain ⟨n', snapshot, hk, -⟩ := ho.accountBox a _ hmem
    exact hone.noReplace n' snapshot hk
  · have hmem : m ∈ t.cardBox k := by rw [hbox]; exact List.mem_cons_self
    refine hw.cardStep hbox ho hop hone.noReplace (hK.asks ho hmem) ?_
    rintro r rfl
    exact (hi.audited 0).replied ho hmem

/-- **A step** keeps the cut, unless it tears it. -/
theorem CutBook.step (hi : CutBook s n t) (hid : (s.commands.map Prod.fst).Nodup)
    (hone : s.OneSnapshot n addr) (ho : (originInv fun n o => (n, o) ∈ s.commands).Holds t)
    (hsub : t'.commands <+: s.commands) (htears : t.Tears l = false) (h : t.step l = some t') :
    CutBook s n t' := by
  have hK := hone.unqueried
  have hop : ∀ n o, (n, o) ∈ s.commands → s.operationOf n = some o := fun n o => operationOf_eq hid
  have hsub₀ : t.commands <+: s.commands := (ActorDb.step_commands h).trans hsub
  refine ⟨fun a => (hi.audited a).step hid hone.noReplace ho hsub (hK.calm ho l) h,
    hi.formed.step h, ?_⟩
  obtain ⟨flight, asked, hbook, hcut⟩ := hi.cut
  by_cases hl : l.Internal
  · obtain ⟨flight', hbook'⟩ := hbook.step hi.formed hl (hi.overlaps hid ho hsub₀ l) h
    refine ⟨flight', _, hbook', ?_⟩
    cases hask : (t.next l).bind (Send.ask? n t.router) with
    | none =>
      rw [Option.toList_none, List.append_nil]
      refine hcut.imp id ?_
      rintro ⟨hreg, x, w, rfl, hsum, hw⟩
      exact ⟨operations_step h hreg, x, w, rfl, hsum,
        hi.priced hid hone ho hsub₀ htears hbook hreg hw h⟩
    | some x =>
      obtain ⟨y, hy, hyx⟩ := Option.bind_eq_some_iff.mp hask
      obtain ⟨addr', rfl, rfl⟩ := ask_eq_some hyx
      obtain ⟨rfl, rest, hbox⟩ := next_router hy
      have hnone := hi.unregistered hid ho hsub₀ hbox
      obtain rfl | ⟨hreg, -⟩ := hcut
      · obtain rfl : t.routerStep (.execute n (.getDatabase addr')) rest = t' := by
          have h' := h
          simp only [ActorDb.step, hbox, hi.formed.alive, Bool.false_eq_true, if_false] at h'
          exact Option.some.inj h'
        have hreg : (t.routerStep (.execute n (.getDatabase addr')) rest).router.operations n ≠
            none := by
          rw [show (t.routerStep (.execute n (.getDatabase addr')) rest).router.operations = _ from
            ActorRouter.execute_operations t.router n (.getDatabase addr'), Function.update_self]
          exact Option.some_ne_none _
        exact Or.inr ⟨hreg, ⟨addr', t.router.accounts, t.router.cards⟩, t.price s.operationOf, rfl,
          price_addsUp hop ho fun a => (hi.audited a).balanced hK ho, Priced.begin hbook hbox⟩
      · exact absurd hnone hreg
  · cases l with
    | execute n' o =>
      obtain rfl : t.execute n' o = t' := Option.some.inj h
      have hmem : (n', o) ∈ s.commands := hsub.subset (by
        show (n', o) ∈ t.commands ++ [(n', o)]
        simp)
      refine ⟨_, asked, hbook.command (o := o) ?_, hcut.imp id ?_⟩
      · rintro addr' rfl
        exact hone.request hmem
      · rintro ⟨hreg, x, w, rfl, hsum, hw⟩
        exact ⟨hreg, x, w, rfl, hsum, hw.command n' o⟩
    | _ => exact absurd True.intro hl

/-- **Snapshots are cuts.** In a run of charges, limit changes and one request for a
    snapshot, in which no account accepts a charge while it is being asked, the snapshot
    shows every charge on both sides or on none. -/
theorem snapshot_consistent {ls : List Label} (hr : run ActorDb.step ActorDb.init ls = some s)
    (hc : Meets ActorDb.step (fun t l => t.Tears l = false) ActorDb.init ls)
    (hid : (s.commands.map Prod.fst).Nodup) (hone : s.OneSnapshot n addr) :
    ∀ v ∈ s.views, Consistent v.2 := by
  obtain ⟨-, hbook⟩ := meets_induct hr hc (P := CutBook s n) origin_init CutBook.init
    fun t l t' ho hsub htears hi h => hi.step hid hone ho hsub htears h
  obtain ⟨flight, asked, hsnapshot, hcut⟩ := hbook.cut
  obtain ⟨views, hreported, ha⟩ := hsnapshot.assembly
  rw [List.nil_append] at hreported
  intro v hv
  obtain rfl | ⟨-, x, w, rfl, hsum, hw⟩ := hcut
  · rw [hreported, ha.views_nil] at hv
    cases hv
  · have hcomplete := ha.complete (hreported ▸ hv)
    exact hcomplete.consistent (hw.views v hv) hsum

/-- A charge that is added on both sides before the account is asked, and one after. -/
theorem snapshot_consistent_example :
    ∃ ls s, run ActorDb.step ActorDb.init ls = some s ∧
      s.views = [(.v4 0x7F000001 5001, ⟨.v4 0x7F000001 5001, [⟨1, none, 60⟩],
        [⟨1, 7, none, 60⟩]⟩)] ∧ ∀ v ∈ s.views, Consistent v.2 := by
  have hrun : (run ActorDb.step ActorDb.init
      [.execute 1 (.charge 1 7 60 false), .router, .card (1, 7), .account 1,
        .execute 2 (.getDatabase (.v4 0x7F000001 5001)), .execute 3 (.charge 1 7 30 false),
        .router, .router, .card (1, 7), .card (1, 7), .card (1, 7), .account 1, .account 1,
        .router, .router, .router]).any (fun s => decide (s.commands =
          [(1, .charge 1 7 60 false), (2, .getDatabase (.v4 0x7F000001 5001)),
            (3, .charge 1 7 30 false)] ∧
          s.views = [(.v4 0x7F000001 5001, ⟨.v4 0x7F000001 5001, [⟨1, none, 60⟩],
            [⟨1, 7, none, 60⟩]⟩)])) = true := by
    decide +kernel
  obtain ⟨s, hs, hp⟩ := (Option.any_eq_true _ _).mp hrun
  obtain ⟨hcmd, hviews⟩ := of_decide_eq_true hp
  have hone : s.OneSnapshot 2 (.v4 0x7F000001 5001) := by
    unfold ActorDb.OneSnapshot
    rw [hcmd]
    simp [IsTask]
  exact ⟨_, s, hs, hviews, snapshot_consistent hs (by decide +kernel) (by rw [hcmd]; decide) hone⟩

/-- **A snapshot can be torn.** The account is asked while the charge waits in its mailbox:
    it accepts the charge and then reports it, and the card reports before it hears of it. -/
theorem snapshot_not_consistent :
    ¬ ∀ (n : OpId) (addr : SocketAddr) (ls : List Label) (s : ActorDb),
      run ActorDb.step ActorDb.init ls = some s → (s.commands.map Prod.fst).Nodup →
      s.OneSnapshot n addr → ∀ v ∈ s.views, Consistent v.2 := by
  intro hall
  have hrun : (run ActorDb.step ActorDb.init
      [.execute 1 (.charge 1 7 60 false), .router, .card (1, 7),
        .execute 2 (.getDatabase (.v4 0x7F000001 5001)), .router, .account 1, .account 1,
        .card (1, 7), .card (1, 7), .router, .router, .router]).any (fun s => decide (s.commands =
          [(1, .charge 1 7 60 false), (2, .getDatabase (.v4 0x7F000001 5001))] ∧
          s.views = [(.v4 0x7F000001 5001, ⟨.v4 0x7F000001 5001, [⟨1, none, 60⟩],
            [⟨1, 7, none, 0⟩]⟩)])) = true := by
    decide +kernel
  obtain ⟨s, hs, hp⟩ := (Option.any_eq_true _ _).mp hrun
  obtain ⟨hcmd, hviews⟩ := of_decide_eq_true hp
  have hone : s.OneSnapshot 2 (.v4 0x7F000001 5001) := by
    unfold ActorDb.OneSnapshot
    rw [hcmd]
    simp [IsTask]
  have hbad := hall 2 _ _ s hs (by rw [hcmd]; decide) hone _ (by
    rw [hviews]
    exact List.mem_cons_self) ⟨1, none, 60⟩ List.mem_cons_self
  simp at hbad

end OneSnapshot

end YpfRuta.Actors
