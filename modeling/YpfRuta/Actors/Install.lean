/-
  Installing a snapshot: `ReplaceDatabase` from a quiescent database. Every entry
  of the snapshot is written over the actor of its key. Actors the snapshot does
  not name are left alone.
-/
import YpfRuta.Actors.Ledger

namespace YpfRuta.Actors

open Lib

section

variable {Amount : Type} [Currency Amount]

/-! ## The keys the router knows afterwards -/

namespace ActorRouter

theorem mem_getOrCreateCard_accounts {r : ActorRouter} {a : AccountId} {c : CardId}
    (ha : a ∈ r.accounts) (b : AccountId) :
    b ∈ (r.getOrCreateCard a c).accounts ↔ b ∈ r.accounts := by
  unfold getOrCreateCard
  split
  · exact Iff.rfl
  · simp only [getOrCreateAccount, Keys.mem_insert]
    exact ⟨fun h => h.elim id fun e => e ▸ ha, Or.inl⟩

theorem mem_getOrCreateCard_cards {r : ActorRouter} {a : AccountId} {c : CardId} (k : CardKey) :
    k ∈ (r.getOrCreateCard a c).cards ↔ k ∈ r.cards ∨ k = (a, c) := by
  unfold getOrCreateCard
  split
  · rename_i h
    exact ⟨Or.inl, fun hk => hk.elim id fun e => e ▸ h⟩
  · simp [getOrCreateAccount]

theorem mem_foldl_accounts (xs : List (AccountSnapshot Amount)) (r : ActorRouter) :
    (∀ a, a ∈ (xs.foldl (fun r x => r.getOrCreateAccount x.accountId) r).accounts ↔
      a ∈ r.accounts ∨ a ∈ xs.map AccountSnapshot.accountId) ∧
    (xs.foldl (fun r x => r.getOrCreateAccount x.accountId) r).cards = r.cards := by
  induction xs generalizing r with
  | nil => simp
  | cons x xs ih =>
    obtain ⟨hacc, hcards⟩ := ih (r.getOrCreateAccount x.accountId)
    refine ⟨fun a => ?_, hcards⟩
    rw [List.foldl_cons, hacc, List.map_cons, List.mem_cons, ← or_assoc]
    simp [getOrCreateAccount]

theorem mem_foldl_cards (xs : List (CardSnapshot Amount)) (r : ActorRouter)
    (hl : ∀ x ∈ xs, x.accountId ∈ r.accounts) :
    (∀ a, a ∈ (xs.foldl (fun r x => r.getOrCreateCard x.accountId x.cardId) r).accounts ↔
      a ∈ r.accounts) ∧
    ∀ k, k ∈ (xs.foldl (fun r x => r.getOrCreateCard x.accountId x.cardId) r).cards ↔
      k ∈ r.cards ∨ k ∈ xs.map CardSnapshot.key := by
  induction xs generalizing r with
  | nil => simp
  | cons x xs ih =>
    have hacc := mem_getOrCreateCard_accounts (c := x.cardId) (hl x List.mem_cons_self)
    obtain ⟨iha, ihc⟩ := ih (r.getOrCreateCard x.accountId x.cardId) fun y hy =>
      (hacc _).mpr (hl y (List.mem_cons_of_mem _ hy))
    refine ⟨fun a => ?_, fun k => ?_⟩
    · rw [List.foldl_cons, iha, hacc]
    · rw [List.foldl_cons, ihc, mem_getOrCreateCard_cards, List.map_cons, List.mem_cons, or_assoc]
      rfl

/-- The router knows what it knew and what the snapshot names. -/
theorem mem_execute_replaceDatabase (r : ActorRouter) (n : OpId)
    (snapshot : DatabaseSnapshot Amount)
    (hl : ∀ x ∈ snapshot.cards, x.accountId ∈ snapshot.accounts.map AccountSnapshot.accountId) :
    (∀ a, a ∈ (r.execute n (.replaceDatabase snapshot)).1.accounts ↔
      a ∈ r.accounts ∨ a ∈ snapshot.accounts.map AccountSnapshot.accountId) ∧
    ∀ k, k ∈ (r.execute n (.replaceDatabase snapshot)).1.cards ↔
      k ∈ r.cards ∨ k ∈ snapshot.cards.map CardSnapshot.key := by
  obtain ⟨hacc, hcards⟩ := mem_foldl_accounts snapshot.accounts
    { r with operations := Function.update r.operations n (some (.replaceDatabase snapshot)) }
  obtain ⟨hacc', hcards'⟩ := mem_foldl_cards snapshot.cards _ fun x hx =>
    (hacc x.accountId).mpr (Or.inr (hl x hx))
  refine ⟨fun a => (hacc' a).trans (hacc a), fun k => ?_⟩
  have hk := hcards' k
  rw [hcards] at hk
  exact hk

end ActorRouter

/-! ## The messages of an installation -/

def AccountSnapshot.install (x : AccountSnapshot Amount) : Send :=
  .account x.accountId (.replaceState x.limit x.consumed)

def CardSnapshot.install (x : CardSnapshot Amount) : Send :=
  .card (x.accountId, x.cardId) (.replaceState x.limit x.consumed)

/-- `pending` are the entries still on their way, all others are written. -/
structure Installing (snapshot : DatabaseSnapshot Amount) (pending : List Send)
    (c : ActorStates) : Prop where
  sent : ∀ y ∈ pending, (∃ x ∈ snapshot.accounts, y = AccountSnapshot.install x) ∨
    ∃ x ∈ snapshot.cards, y = CardSnapshot.install x
  account : ∀ x ∈ snapshot.accounts, AccountSnapshot.install x ∈ pending ∨
    (c.account x.accountId).entry = ⟨x.limit, x.consumed⟩
  card : ∀ x ∈ snapshot.cards, CardSnapshot.install x ∈ pending ∨
    (c.card (CardSnapshot.key x)).entry = ⟨x.limit, x.consumed⟩

section

variable {snapshot : DatabaseSnapshot Amount}
  (ha : (snapshot.accounts.map AccountSnapshot.accountId).Nodup)
  (hc : (snapshot.cards.map CardSnapshot.key).Nodup)

include ha hc in
/-- **One entry is written.** -/
theorem Installing.step {pre post : List Send} {y : Send} {c : ActorStates}
    (h : Installing snapshot (pre ++ y :: post) c) :
    (c.handle y).2 = [] ∧ (c.handle y).1.router = c.router ∧
      Installing snapshot (pre ++ post) (c.handle y).1 := by
  have hsub : ∀ z ∈ pre ++ post, z ∈ pre ++ y :: post := by
    intro z hz
    rw [List.mem_append] at hz
    rw [List.mem_append, List.mem_cons]
    exact hz.elim Or.inl fun hz => Or.inr (Or.inr hz)
  -- what was on its way is still on its way, or is the message handled now
  have hrest : ∀ z, z ∈ pre ++ y :: post → z ∈ pre ++ post ∨ z = y := by
    intro z hz
    rw [List.mem_append, List.mem_cons] at hz
    rw [List.mem_append]
    rcases hz with hz | hz | hz
    · exact Or.inl (Or.inl hz)
    · exact Or.inr hz
    · exact Or.inl (Or.inr hz)
  have hsent : ∀ z ∈ pre ++ post, (∃ x ∈ snapshot.accounts, z = AccountSnapshot.install x) ∨
      ∃ x ∈ snapshot.cards, z = CardSnapshot.install x := fun z hz => h.sent z (hsub z hz)
  rcases h.sent y (by simp) with ⟨x, hx, rfl⟩ | ⟨x, hx, rfl⟩
  · refine ⟨rfl, rfl, hsent, fun z hz => ?_, fun z hz => ?_⟩
    · by_cases hid : z.accountId = x.accountId
      · obtain rfl : z = x := List.inj_on_of_nodup_map ha hz hx hid
        refine Or.inr ?_
        simp [ActorStates.handle, AccountSnapshot.install, AccountActor.handle, AccountActor.entry]
      · rcases h.account z hz with hz' | hz'
        · rcases hrest _ hz' with hz' | hz'
          · exact Or.inl hz'
          · exact absurd (Send.account.inj hz').1 hid
        · refine Or.inr ?_
          simpa [ActorStates.handle, AccountSnapshot.install, Function.update_of_ne hid] using hz'
    · rcases h.card z hz with hz' | hz'
      · rcases hrest _ hz' with hz' | hz'
        · exact Or.inl hz'
        · cases hz'
      · exact Or.inr hz'
  · refine ⟨rfl, rfl, hsent, fun z hz => ?_, fun z hz => ?_⟩
    · rcases h.account z hz with hz' | hz'
      · rcases hrest _ hz' with hz' | hz'
        · exact Or.inl hz'
        · cases hz'
      · exact Or.inr hz'
    · by_cases hid : CardSnapshot.key z = CardSnapshot.key x
      · obtain rfl : z = x := List.inj_on_of_nodup_map hc hz hx hid
        refine Or.inr ?_
        simp [ActorStates.handle, CardSnapshot.install, CardSnapshot.key, CardActor.handle,
          CardActor.entry]
      · rcases h.card z hz with hz' | hz'
        · rcases hrest _ hz' with hz' | hz'
          · exact Or.inl hz'
          · exact absurd (Send.card.inj hz').1 hid
        · refine Or.inr ?_
          have hne : CardSnapshot.key z ≠ (x.accountId, x.cardId) := hid
          simpa [ActorStates.handle, CardSnapshot.install, Function.update_of_ne hne] using hz'

include ha hc in
/-- **Every interleaving writes every entry**, and the router creates no other actor. -/
theorem Installing.ends {pending : List Send} {s : ActorDb} {accounts : Keys AccountId}
    {cards : Keys CardKey} (hf : Formed s) (hfl : s.InFlight pending)
    (h : Installing snapshot pending s.states) (hacc : s.router.accounts = accounts)
    (hcards : s.router.cards = cards) :
    Ends ActorDb.step Label.Internal (fun s' => Installing snapshot [] s'.states ∧
      s'.router.accounts = accounts ∧ s'.router.cards = cards) pending.length s := by
  induction hn : pending.length generalizing s pending with
  | zero =>
    obtain rfl : pending = [] := List.length_eq_zero_iff.mp hn
    exact .here (ActorDb.quiescent_iff.mpr hfl).stuck ⟨h, hacc, hcards⟩
  | succ r ih =>
    obtain ⟨y, hy⟩ : ∃ y, y ∈ pending := List.exists_mem_of_length_pos (by omega)
    have hdest : y.dest ≠ .node := by
      rcases h.sent y hy with ⟨x, -, rfl⟩ | ⟨x, -, rfl⟩ <;>
        simp [AccountSnapshot.install, CardSnapshot.install, Send.dest]
    refine .next (hfl.enabled hf.alive hy hdest) fun l s' hl hstep => ?_
    obtain ⟨pre, x, post, rfl, -, -, -, hst, -, hfl'⟩ := hfl.step hl hstep
    obtain ⟨hnil, hr, hin⟩ := Installing.step ha hc h
    rw [hnil, List.append_nil] at hfl'
    rw [← hst] at hr hin
    have hr' : s'.router = s.router := hr
    refine ih (hf.step hstep) hfl' hin (by rw [hr', hacc]) (by rw [hr', hcards]) ?_
    rw [List.length_append, List.length_cons] at hn
    rw [List.length_append]
    omega

/-- When every entry is written, the ledger shows the snapshot exactly when the
    router knows nobody else. -/
theorem Installing.shows_iff (hc : (snapshot.cards.map CardSnapshot.key).Nodup)
    (ha : (snapshot.accounts.map AccountSnapshot.accountId).Nodup) {c : ActorStates}
    (h : Installing snapshot [] c)
    (hacc : ∀ a ∈ snapshot.accounts.map AccountSnapshot.accountId, a ∈ c.router.accounts)
    (hcards : ∀ k ∈ snapshot.cards.map CardSnapshot.key, k ∈ c.router.cards) :
    c.ledger.Shows snapshot ↔
      (∀ a ∈ c.router.accounts, a ∈ snapshot.accounts.map AccountSnapshot.accountId) ∧
      ∀ k ∈ c.router.cards, k ∈ snapshot.cards.map CardSnapshot.key := by
  have haccount : ∀ x ∈ snapshot.accounts, c.ledger.accountSnapshot x.accountId = some x := by
    intro x hx
    have hmem := hacc _ (List.mem_map_of_mem hx)
    have hentry := (h.account x hx).resolve_left (List.not_mem_nil)
    obtain ⟨hlim, hcon⟩ := Entry.mk.inj hentry
    rw [ActorStates.accountSnapshot_of_mem hmem, hlim, hcon]
  have hcard : ∀ x ∈ snapshot.cards, c.ledger.cardSnapshot (CardSnapshot.key x) = some x := by
    intro x hx
    have hmem := hcards _ (List.mem_map_of_mem hx)
    have hentry := (h.card x hx).resolve_left (List.not_mem_nil)
    obtain ⟨hlim, hcon⟩ := Entry.mk.inj hentry
    rw [ActorStates.cardSnapshot_of_mem hmem, hlim, hcon]
    rfl
  constructor
  · intro hs
    constructor
    · intro a hmem
      exact List.mem_map_of_mem (f := AccountSnapshot.accountId)
        (ActorStates.account_mem_of_shows hs hmem)
    · intro k hmem
      exact List.mem_map_of_mem (f := CardSnapshot.key) (ActorStates.card_mem_of_shows hs hmem)
  · rintro ⟨hka, hkc⟩
    refine ⟨⟨ha, fun x => ⟨haccount x, fun hx => ?_⟩⟩, ⟨hc, fun x => ⟨hcard x, fun hx => ?_⟩⟩⟩
    · have hmem : x.accountId ∈ c.router.accounts := by
        by_contra hne
        rw [ActorStates.accountSnapshot_of_not_mem hne] at hx
        cases hx
      obtain ⟨y, hy, hid⟩ := List.mem_map.mp (hka _ hmem)
      have hyx := haccount y hy
      rw [hid, hx] at hyx
      rw [Option.some.inj hyx]
      exact hy
    · have hmem : CardSnapshot.key x ∈ c.router.cards := by
        by_contra hne
        rw [ActorStates.cardSnapshot_of_not_mem hne] at hx
        cases hx
      obtain ⟨y, hy, hid⟩ := List.mem_map.mp (hkc _ hmem)
      have hyx := hcard y hy
      rw [hid, hx] at hyx
      rw [Option.some.inj hyx]
      exact hy

end

/-- **`ReplaceDatabase` installs exactly the snapshot when it names every account
    and every card the database already has.** The database comes to rest from any
    quiescent state, with the entries of the snapshot written over the old ones. -/
theorem replaceDatabase_installs {s : ActorDb} (hf : Formed s) (hq : s.Quiescent) (n : OpId)
    (snapshot : DatabaseSnapshot Amount)
    (ha : (snapshot.accounts.map AccountSnapshot.accountId).Nodup)
    (hc : (snapshot.cards.map CardSnapshot.key).Nodup)
    (hl : ∀ x ∈ snapshot.cards, x.accountId ∈ snapshot.accounts.map AccountSnapshot.accountId) :
    (s.execute n (.replaceDatabase snapshot)).Settles fun s' =>
      s'.ledger.Shows snapshot ↔
        (∀ a ∈ s.router.accounts, a ∈ snapshot.accounts.map AccountSnapshot.accountId) ∧
        ∀ k ∈ s.router.cards, k ∈ snapshot.cards.map CardSnapshot.key := by
  obtain ⟨hacc, hcards⟩ := ActorRouter.mem_execute_replaceDatabase s.router n snapshot hl
  have hfe : Formed (s.execute n (.replaceDatabase snapshot)) :=
    hf.step (l := .execute n (.replaceDatabase snapshot)) rfl
  let pending := snapshot.accounts.map AccountSnapshot.install ++
    snapshot.cards.map CardSnapshot.install
  refine ActorDb.settles_of_ends (r := pending.length + 1) hfe (ActorDb.InFlight.single
    (.execute hq n _) hfe (by simp [Send.dest]) fun s₁ hf₁ hst _ hfl => ?_)
  -- the router has written to every actor the snapshot names
  have hr : s₁.router = (s.router.execute n (.replaceDatabase snapshot)).1 :=
    congrArg ActorStates.router hst
  have hpending : s₁.InFlight pending := by
    refine hfl.reorder fun d hd => ?_
    show mailFor d (pending ++ [.event _]) = mailFor d pending
    rw [mailFor_append, mailFor_event hd, List.append_nil]
  have hin : Installing snapshot pending s₁.states := by
    refine ⟨fun y hy => ?_, fun x hx => ?_, fun x hx => ?_⟩
    · rcases List.mem_append.mp hy with hy | hy
      · obtain ⟨x, hx, rfl⟩ := List.mem_map.mp hy
        exact Or.inl ⟨x, hx, rfl⟩
      · obtain ⟨x, hx, rfl⟩ := List.mem_map.mp hy
        exact Or.inr ⟨x, hx, rfl⟩
    · exact Or.inl (List.mem_append_left _ (List.mem_map_of_mem hx))
    · exact Or.inl (List.mem_append_right _ (List.mem_map_of_mem hx))
  refine (Installing.ends ha hc hf₁ hpending hin rfl rfl).imp ?_
  rintro s' ⟨hdone, ha', hc'⟩
  have hmemA : ∀ a, a ∈ s'.router.accounts ↔
      a ∈ s.router.accounts ∨ a ∈ snapshot.accounts.map AccountSnapshot.accountId := by
    intro a
    rw [ha', hr]
    exact hacc a
  have hmemC : ∀ k, k ∈ s'.router.cards ↔
      k ∈ s.router.cards ∨ k ∈ snapshot.cards.map CardSnapshot.key := by
    intro k
    rw [hc', hr]
    exact hcards k
  refine (Installing.shows_iff hc ha hdone (fun a h => (hmemA a).mpr (Or.inr h))
    fun k h => (hmemC k).mpr (Or.inr h)).trans ?_
  refine and_congr (forall_congr' fun a => ?_) (forall_congr' fun k => ?_)
  · show (a ∈ s'.router.accounts → _) ↔ _
    rw [hmemA]
    exact ⟨fun h hm => h (Or.inl hm), fun h hm => hm.elim h id⟩
  · show (k ∈ s'.router.cards → _) ↔ _
    rw [hmemC]
    exact ⟨fun h hm => h (Or.inl hm), fun h hm => hm.elim h id⟩

end

/-- A snapshot of one account with one card. -/
def smallSnapshot : DatabaseSnapshot Amount where
  addr := .v4 0 0
  accounts := [⟨1, some 50, 20⟩]
  cards := [⟨1, 2, none, 20⟩]

/-- The snapshot replaces what a charge and a limit have left of the same account and card. -/
theorem replaceDatabase_installs_example :
    ∃ s, Reaches ActorDb.step ActorDb.init s ∧ s.ledger.account 1 = some ⟨none, 30⟩ ∧
      s.ledger.card (1, 2) = some ⟨some 40, 30⟩ ∧
      (s.execute 3 (.replaceDatabase smallSnapshot)).Settles fun s' =>
        s'.ledger.Shows smallSnapshot := by
  have hrun : (run ActorDb.step ActorDb.init
      [.execute 1 (.charge 1 2 30 false), .router, .card (1, 2), .account 1, .card (1, 2), .router,
        .execute 2 (.limitCard 1 2 (some 40)), .router, .card (1, 2), .router]).any (fun s =>
      decide (s.Drained ∧ s.ledger.account 1 = some ⟨none, 30⟩ ∧
        s.ledger.card (1, 2) = some ⟨some 40, 30⟩ ∧ s.router.accounts.toList = [1] ∧
        s.router.cards.toList = [(1, 2)])) = true := by
    decide +kernel
  obtain ⟨s, hs, hp⟩ := (Option.any_eq_true _ _).mp hrun
  obtain ⟨hd, haccount, hcard, haccounts, hcards⟩ := of_decide_eq_true hp
  have hf : Formed s := .reaches ⟨_, hs⟩
  obtain ⟨bound, hall⟩ := replaceDatabase_installs hf (quiescent_of_known hf.known hd) 3
    smallSnapshot (by decide) (by decide) (by decide)
  refine ⟨s, ⟨_, hs⟩, haccount, hcard, bound, fun ls s' hls hr => ?_⟩
  obtain ⟨hbound, hends, hshows⟩ := hall ls s' hls hr
  refine ⟨hbound, hends, fun hq => (hshows hq).mpr ⟨fun a ha => ?_, fun k hk => ?_⟩⟩
  · rw [Keys.mem_def, haccounts] at ha
    rw [List.mem_singleton.mp ha]
    decide
  · rw [Keys.mem_def, hcards] at hk
    rw [List.mem_singleton.mp hk]
    decide

/-- An account the snapshot does not name survives the installation. -/
theorem replaceDatabase_keeps_other :
    ∃ s s', Reaches ActorDb.step ActorDb.init s ∧ s.Quiescent ∧
      run ActorDb.step (s.execute 2 (.replaceDatabase smallSnapshot))
        [.router, .account 1, .card (1, 2)] = some s' ∧
      s'.Quiescent ∧ ¬ s'.ledger.Shows smallSnapshot := by
  have hrun : ((run ActorDb.step ActorDb.init
      [.execute 1 (.limitAccount 7 none), .router, .account 7, .router]).any fun s =>
        decide s.Drained && (run ActorDb.step (s.execute 2 (.replaceDatabase smallSnapshot))
          [.router, .account 1, .card (1, 2)]).any fun s' =>
            decide (s'.Drained ∧ 7 ∈ s'.router.accounts)) = true := by decide +kernel
  obtain ⟨s, hs, hok⟩ := (Option.any_eq_true _ _).mp hrun
  obtain ⟨hd, hok⟩ := Bool.and_eq_true_iff.mp hok
  obtain ⟨s', hs', hok⟩ := (Option.any_eq_true _ _).mp hok
  obtain ⟨hd', h7⟩ := of_decide_eq_true hok
  have hreach : Reaches ActorDb.step ActorDb.init s := ⟨_, hs⟩
  have hf : Formed s := .reaches hreach
  have hf' : Formed s' := run_induct (P := Formed) (fun _ _ _ hf h => hf.step h) hs'
    (hf.step (l := .execute 2 (.replaceDatabase smallSnapshot)) rfl)
  refine ⟨s, s', hreach, quiescent_of_known hf.known (of_decide_eq_true hd), hs',
    quiescent_of_known hf'.known hd', fun hshow => ?_⟩
  -- the ledger still has an entry for account 7
  have hx := ActorStates.account_mem_of_shows (c := s'.states) hshow h7
  simp [smallSnapshot] at hx

end YpfRuta.Actors
