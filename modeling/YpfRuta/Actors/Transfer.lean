/-
  State transfer (`GetDatabase` in one database, `ReplaceDatabase` in another): what the
  second database has afterwards is what the first one had, and of its own only what the
  first one does not know.
-/
import YpfRuta.Actors.Install
import YpfRuta.Actors.Snapshots

namespace YpfRuta.Actors

open Lib

section

variable {Amount : Type} [Currency Amount]

/-- The entries of `L`, and those of `M` where `L` has none. -/
def Ledger.over (L M : Ledger) : Ledger where
  account a := (L.account a).or (M.account a)
  card k := (L.card k).or (M.card k)

/-! ## What an installation leaves alone -/

/-- Nothing but entries of the snapshot is on its way, and everybody it does not name is as
    in `c`. -/
structure Untouched (snapshot : DatabaseSnapshot Amount) (c : ActorStates)
    (events : List ActorEvent) (s : ActorDb) : Prop where
  flight : ∃ pending, s.InFlight pending ∧ ∀ y ∈ pending,
    (∃ x ∈ snapshot.accounts, y = AccountSnapshot.install x) ∨
      ∃ x ∈ snapshot.cards, y = CardSnapshot.install x
  account : ∀ a, a ∉ snapshot.accounts.map AccountSnapshot.accountId → s.account a = c.account a
  card : ∀ k, k ∉ snapshot.cards.map CardSnapshot.key → s.card k = c.card k
  idle : s.states.Idle
  events : s.events = events

section Untouched

variable {snapshot : DatabaseSnapshot Amount} {c : ActorStates} {events : List ActorEvent}
  {s s' : ActorDb}

theorem idle_writeAccount (hi : c.Idle) (x : AccountSnapshot Amount) :
    (c.handle (AccountSnapshot.install x)).1.Idle := by
  refine ⟨fun a => ?_, hi.card, hi.queue⟩
  show (Function.update c.account x.accountId _ a).pendingQuery = none
  by_cases ha : a = x.accountId
  · subst ha
    rw [Function.update_self]
    exact hi.account x.accountId
  · rw [Function.update_of_ne ha]
    exact hi.account a

theorem idle_writeCard (hi : c.Idle) (x : CardSnapshot Amount) :
    (c.handle (CardSnapshot.install x)).1.Idle := by
  refine ⟨hi.account, fun k => ?_, fun k => ?_⟩
  · show (Function.update c.card (x.accountId, x.cardId) _ k).currentTask = none
    by_cases hk : k = (x.accountId, x.cardId)
    · subst hk
      rw [Function.update_self]
      rfl
    · rw [Function.update_of_ne hk]
      exact hi.card k
  · show (Function.update c.card (x.accountId, x.cardId) _ k).queue = []
    by_cases hk : k = (x.accountId, x.cardId)
    · subst hk
      rw [Function.update_self]
      rfl
    · rw [Function.update_of_ne hk]
      exact hi.queue k

theorem Untouched.step {l : Label} (h : Untouched snapshot c events s) (hl : l.Internal)
    (hs : s.step l = some s') : Untouched snapshot c events s' := by
  obtain ⟨pending, hfl, hsent⟩ := h.flight
  obtain ⟨pre, y, post, rfl, -, -, -, hst, hev, hfl'⟩ := hfl.step hl hs
  have hrest : ∀ z ∈ pre ++ post, z ∈ pre ++ y :: post := by
    intro z hz
    rw [List.mem_append] at hz
    rw [List.mem_append, List.mem_cons]
    exact hz.elim Or.inl fun hz => Or.inr (Or.inr hz)
  obtain ⟨x, hx, rfl⟩ | ⟨x, hx, rfl⟩ := hsent y (by simp)
  · have hquiet : (s.states.handle (AccountSnapshot.install x)).2 = [] := rfl
    rw [hquiet] at hev hfl'
    rw [List.append_nil] at hfl'
    refine ⟨⟨_, hfl', fun z hz => hsent z (hrest z hz)⟩, fun a ha => ?_, fun k hk => ?_, ?_, ?_⟩
    · have hne : a ≠ x.accountId := by
        rintro rfl
        exact ha (List.mem_map_of_mem hx)
      have haccount : s'.account = _ := congrArg ActorStates.account hst
      rw [haccount]
      exact (Function.update_of_ne hne ..).trans (h.account a ha)
    · have hcard : s'.card = s.card := congrArg ActorStates.card hst
      rw [hcard]
      exact h.card k hk
    · rw [hst]
      exact idle_writeAccount h.idle x
    · exact (hev.trans (List.append_nil _)).trans h.events
  · have hquiet : (s.states.handle (CardSnapshot.install x)).2 = [] := rfl
    rw [hquiet] at hev hfl'
    rw [List.append_nil] at hfl'
    refine ⟨⟨_, hfl', fun z hz => hsent z (hrest z hz)⟩, fun a ha => ?_, fun k hk => ?_, ?_, ?_⟩
    · have haccount : s'.account = s.account := congrArg ActorStates.account hst
      rw [haccount]
      exact h.account a ha
    · have hne : k ≠ (x.accountId, x.cardId) := by
        rintro rfl
        exact hk (List.mem_map_of_mem (f := CardSnapshot.key) hx)
      have hcard : s'.card = _ := congrArg ActorStates.card hst
      rw [hcard]
      exact (Function.update_of_ne hne ..).trans (h.card k hk)
    · rw [hst]
      exact idle_writeCard h.idle x
    · exact (hev.trans (List.append_nil _)).trans h.events

end Untouched

/-! ## One database to another -/

section Transfer

variable {snapshot : DatabaseSnapshot Amount} {s t : ActorDb}

/-- A snapshot of a database names the account of every card it names. -/
theorem Shows.accounts_of_cards (hs : Formed s) (h : s.ledger.Shows snapshot) :
    ∀ x ∈ snapshot.cards, x.accountId ∈ snapshot.accounts.map AccountSnapshot.accountId := by
  intro x hx
  have hcard : s.ledger.cardSnapshot (CardSnapshot.key x) = some x := (h.cards.mem x).mp hx
  have hknown : CardSnapshot.key x ∈ s.router.cards := by
    by_contra hne
    rw [show s.ledger.cardSnapshot (CardSnapshot.key x) = none from
      ActorStates.cardSnapshot_of_not_mem hne] at hcard
    cases hcard
  have haccount : x.accountId ∈ s.router.accounts := hs.known.cards _ hknown
  exact List.mem_map_of_mem (f := AccountSnapshot.accountId)
    (ActorStates.account_mem_of_shows h haccount)

/-- What the entries written over `t` come to. -/
theorem ledger_over {L : Ledger} {c c' : ActorStates} (hshows : L.Shows snapshot)
    (hin : Installing snapshot [] c')
    (haccounts : ∀ a, a ∈ c'.router.accounts ↔
      a ∈ c.router.accounts ∨ a ∈ snapshot.accounts.map AccountSnapshot.accountId)
    (hcards : ∀ k, k ∈ c'.router.cards ↔
      k ∈ c.router.cards ∨ k ∈ snapshot.cards.map CardSnapshot.key)
    (haccount : ∀ a, a ∉ snapshot.accounts.map AccountSnapshot.accountId →
      c'.account a = c.account a)
    (hcard : ∀ k, k ∉ snapshot.cards.map CardSnapshot.key → c'.card k = c.card k) :
    c'.ledger = L.over c.ledger := by
  refine Ledger.ext (funext fun a => ?_) (funext fun k => ?_)
  · by_cases ha : a ∈ snapshot.accounts.map AccountSnapshot.accountId
    · obtain ⟨x, hx, rfl⟩ := List.mem_map.mp ha
      obtain ⟨e, he, hex⟩ := Option.map_eq_some_iff.mp ((hshows.accounts.mem x).mp hx)
      have hwritten := (hin.account x hx).resolve_left List.not_mem_nil
      show (if x.accountId ∈ c'.router.accounts then some _ else none) = _
      rw [if_pos ((haccounts _).mpr (Or.inr ha)), hwritten, ← hex]
      show _ = (L.account x.accountId).or _
      rw [he]
      rfl
    · have hnone : L.account a = none := by
        cases he : L.account a with
        | none => rfl
        | some e =>
          refine absurd (List.mem_map_of_mem (f := AccountSnapshot.accountId)
            ((hshows.accounts.mem ⟨a, e.limit, e.consumed⟩).mpr ?_)) ha
          simp only [Ledger.accountSnapshot, he, Option.map_some]
      show (if a ∈ c'.router.accounts then some _ else none) = (L.account a).or _
      rw [hnone, Option.none_or, haccount a ha]
      simp only [haccounts, or_iff_left ha]
      rfl
  · by_cases hk : k ∈ snapshot.cards.map CardSnapshot.key
    · obtain ⟨x, hx, rfl⟩ := List.mem_map.mp hk
      obtain ⟨e, he, hex⟩ := Option.map_eq_some_iff.mp ((hshows.cards.mem x).mp hx)
      have hwritten := (hin.card x hx).resolve_left List.not_mem_nil
      show (if CardSnapshot.key x ∈ c'.router.cards then some _ else none) = _
      rw [if_pos ((hcards _).mpr (Or.inr hk)), hwritten]
      show _ = (L.card (CardSnapshot.key x)).or _
      rw [he, ← hex]
      rfl
    · have hnone : L.card k = none := by
        cases he : L.card k with
        | none => rfl
        | some e =>
          refine absurd (List.mem_map_of_mem (f := CardSnapshot.key)
            ((hshows.cards.mem ⟨k.1, k.2, e.limit, e.consumed⟩).mpr ?_)) hk
          simp only [CardSnapshot.key, Ledger.cardSnapshot, he, Option.map_some]
      show (if k ∈ c'.router.cards then some _ else none) = (L.card k).or _
      rw [hnone, Option.none_or, hcard k hk]
      simp only [hcards, or_iff_left hk]
      rfl

/-- **An installation** in a database at rest, in any interleaving. -/
theorem install_ends (hs : Formed s) (hshows : s.ledger.Shows snapshot) (ht : Formed t)
    (hrest : t.AtRest) (m : OpId) :
    ∃ r, Ends ActorDb.step Label.Internal (fun t' => t'.states.Idle ∧
        t'.ledger = s.ledger.over t.ledger ∧ t'.events = t.events ++
          [.operationResult m (.replaceDatabase snapshot) .replaceDatabase true none]) r
      (t.execute m (.replaceDatabase snapshot)) := by
  obtain ⟨hacc, hcards⟩ := ActorRouter.mem_execute_replaceDatabase t.router m snapshot
    (Shows.accounts_of_cards hs hshows)
  have hfe : Formed (t.execute m (.replaceDatabase snapshot)) :=
    ht.step (l := .execute m (.replaceDatabase snapshot)) rfl
  let pending := snapshot.accounts.map AccountSnapshot.install ++
    snapshot.cards.map CardSnapshot.install
  let result : ActorEvent :=
    .operationResult m (.replaceDatabase snapshot) .replaceDatabase true none
  refine ⟨pending.length + 1, (ActorDb.InFlight.execute hrest.quiescent m _).single hfe
    (by simp [Send.dest]) fun t₁ hf₁ hst hev hfl => ?_⟩
  have hsent : ∀ y ∈ pending, (∃ x ∈ snapshot.accounts, y = AccountSnapshot.install x) ∨
      ∃ x ∈ snapshot.cards, y = CardSnapshot.install x := by
    intro y hy
    obtain hy | hy := List.mem_append.mp hy
    · obtain ⟨x, hx, rfl⟩ := List.mem_map.mp hy
      exact Or.inl ⟨x, hx, rfl⟩
    · obtain ⟨x, hx, rfl⟩ := List.mem_map.mp hy
      exact Or.inr ⟨x, hx, rfl⟩
  have hflight : t₁.InFlight pending := by
    refine hfl.reorder fun d hd => ?_
    show mailFor d (pending ++ [Send.event result]) = mailFor d pending
    rw [mailFor_append, mailFor_event hd, List.append_nil]
  have hin : Installing snapshot pending t₁.states := by
    refine ⟨hsent, fun x hx => ?_, fun x hx => ?_⟩
    · exact Or.inl (List.mem_append_left _ (List.mem_map_of_mem hx))
    · exact Or.inl (List.mem_append_right _ (List.mem_map_of_mem hx))
  have hquiet : ∀ y ∈ pending, y.toNode? = none := by
    intro y hy
    obtain ⟨x, -, rfl⟩ | ⟨x, -, rfl⟩ := hsent y hy <;> rfl
  have hevents : t₁.events = t.events ++ [result] := by
    refine hev.trans (congrArg (t.events ++ ·) ?_)
    show (pending ++ [Send.event result]).filterMap Send.toNode? = [result]
    rw [List.filterMap_append, List.filterMap_eq_nil_iff.mpr hquiet]
    rfl
  have haccount : t₁.account = t.account := congrArg ActorStates.account hst
  have hcard : t₁.card = t.card := congrArg ActorStates.card hst
  have huntouched : Untouched snapshot t.states (t.events ++ [result]) t₁ := by
    refine ⟨⟨pending, hflight, hsent⟩, fun a _ => by rw [haccount]; rfl,
      fun k _ => by rw [hcard]; rfl, ?_, hevents⟩
    rw [hst]
    exact ⟨hrest.idle.account, hrest.idle.card, hrest.idle.queue⟩
  have hrouter : t₁.router = (t.router.execute m (.replaceDatabase snapshot)).1 :=
    congrArg ActorStates.router hst
  refine ((Installing.ends hshows.accounts.nodup hshows.cards.nodup hf₁ hflight hin rfl
    rfl).and_kept (fun _ _ _ h hl hstep => h.step hl hstep) huntouched).imp ?_
  rintro t' ⟨⟨hdone, ha, hc⟩, hleft⟩
  refine ⟨hleft.idle, ledger_over hshows hdone (fun a => ?_) (fun k => ?_) hleft.account hleft.card,
    hleft.events⟩
  · show a ∈ t'.router.accounts ↔ _
    rw [ha, hrouter]
    exact hacc a
  · show k ∈ t'.router.cards ↔ _
    rw [hc, hrouter]
    exact hcards k

/-- **A snapshot carries the ledger over.** A snapshot is taken of one database at rest and
    installed in another one at rest: whatever the actors of both do, both come to rest, the
    first as it was, and the second with the entries of the first and, of its own, only those
    of accounts and cards the first does not know. -/
theorem snapshot_transfers (hs : Formed s) (hsrest : s.AtRest) (ht : Formed t)
    (htrest : t.AtRest) (n m : OpId) (addr : SocketAddr) :
    (s.execute n (.getDatabase addr)).Settles fun s' => s'.AtRest ∧ s'.ledger = s.ledger ∧
      ∃ snapshot, s'.events = s.events ++
          [.operationResult n (.getDatabase addr) (.databaseSnapshot snapshot) true none] ∧
        (t.execute m (.replaceDatabase snapshot)).Settles fun t' => t'.AtRest ∧
          t'.ledger = s.ledger.over t.ledger ∧ t'.events = t.events ++
            [.operationResult m (.replaceDatabase snapshot) .replaceDatabase true none] := by
  have hfs : Formed (s.execute n (.getDatabase addr)) :=
    hs.step (l := .execute n (.getDatabase addr)) rfl
  obtain ⟨r, hends⟩ := getDatabase_ends hs hsrest n addr
  refine ActorDb.settles_of_ends hfs (hends.imp fun s' hserves => ?_)
  obtain ⟨res, err, hserve, hevents⟩ := hserves.result
  generalize hledger : s'.ledger = L at hserve
  cases hserve with
  | shown _ snapshot haddr hshows =>
    have hft : Formed (t.execute m (.replaceDatabase snapshot)) :=
      ht.step (l := .execute m (.replaceDatabase snapshot)) rfl
    obtain ⟨r', hends'⟩ := install_ends hs hshows ht htrest m
    obtain ⟨bound, hsettles⟩ := ActorDb.settles_of_ends hft hends'
    refine ⟨hserves.atRest, rfl, snapshot, hevents, bound, fun ls t' hls hr => ?_⟩
    obtain ⟨hlen, hgo, hdone⟩ := hsettles ls t' hls hr
    exact ⟨hlen, hgo, fun hq => ⟨⟨hq, (hdone hq).1⟩, (hdone hq).2⟩⟩

end Transfer

end

/-- The first database has a card of account 4, the second one account 9: afterwards it has
    both. -/
theorem snapshot_transfers_example :
    ∃ s t : ActorDb, (s.ledger.over t.ledger).card (4, 7) = some ⟨some 30, 0⟩ ∧
      (s.ledger.over t.ledger).account 9 = some ⟨some 5, 0⟩ ∧
      (s.execute 2 (.getDatabase (.v4 16777343 5001))).Settles fun s' => s'.AtRest ∧
        s'.ledger = s.ledger ∧
        ∃ snapshot, s'.events = s.events ++ [.operationResult 2 (.getDatabase (.v4 16777343 5001))
            (.databaseSnapshot snapshot) true none] ∧
          (t.execute 3 (.replaceDatabase snapshot)).Settles fun t' => t'.AtRest ∧
            t'.ledger = s.ledger.over t.ledger ∧ t'.events = t.events ++
              [.operationResult 3 (.replaceDatabase snapshot) .replaceDatabase true none] := by
  obtain ⟨s, -, hs, hsrest, hcard, hnone⟩ := atRest_of_run
    [.execute 1 (.limitCard 4 7 (some 30)), .router, .card (4, 7), .router]
    (fun s => s.ledger.card (4, 7) = some ⟨some 30, 0⟩ ∧ s.ledger.account 9 = none)
    (by decide +kernel)
  obtain ⟨t, -, ht, htrest, haccount⟩ := atRest_of_run
    [.execute 1 (.limitAccount 9 (some 5)), .router, .account 9, .router]
    (fun t => t.ledger.account 9 = some ⟨some 5, 0⟩) (by decide +kernel)
  refine ⟨s, t, ?_, ?_, snapshot_transfers hs hsrest ht htrest 2 3 (.v4 16777343 5001)⟩
  · simp [Ledger.over, hcard]
  · simp [Ledger.over, hnone, haccount]

end YpfRuta.Actors
