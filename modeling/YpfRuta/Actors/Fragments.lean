/-
  Database snapshots under one op id. A request for a snapshot asks every known actor
  once; each actor is asked, on its way back or gathered, until the last fragment makes
  the router report. The router has one pending slot for each id, so this holds as long
  as no command under the id is handled while its slot is taken.
-/
import YpfRuta.Actors.Ledger

namespace YpfRuta.Actors

open Lib

/-- The snapshot that was reported for an address. -/
abbrev View {Amount : Type} [Currency Amount] := SocketAddr × DatabaseSnapshot Amount

variable {Amount : Type} [Currency Amount]

/-- An actor that contributes a fragment. -/
abbrev Source := AccountId ⊕ CardKey

/-- A request for a snapshot, with the actors the router knew when it handled it. -/
structure Ask where
  addr : SocketAddr
  accounts : Keys AccountId
  cards : Keys CardKey

def Ask.sources (x : Ask) : List Source :=
  x.accounts.toList.map Sum.inl ++ x.cards.toList.map Sum.inr

/-- The actors whose fragments have arrived. -/
def PendingDatabaseSnapshot.sources (p : PendingDatabaseSnapshot) : List Source :=
  p.accounts.map (fun x => Sum.inl x.accountId) ++ p.cards.map fun x => Sum.inr (CardSnapshot.key x)

/-- The view answers the request: it lists every actor known then exactly once. -/
structure Ask.Complete (x : Ask) (v : View) : Prop where
  addr : v.1 = x.addr
  accounts : (v.2.accounts.map AccountSnapshot.accountId).Perm x.accounts.toList
  cards : (v.2.cards.map CardSnapshot.key).Perm x.cards.toList

def ActorEvent.view? : ActorEvent → Option View
  | .operationResult _ (.getDatabase addr) (.databaseSnapshot snapshot) _ _ =>
    some (addr, snapshot)
  | _ => none

/-- The snapshots the router has reported. -/
def ActorDb.views (s : ActorDb) : List View := s.events.filterMap ActorEvent.view?

/-- The actor a message asks, or brings the fragment of, for `n`. -/
def Send.source? (n : OpId) : Send → Option Source
  | .account a (.getSnapshot n') => if n' = n then some (.inl a) else none
  | .card k (.getSnapshot n') => if n' = n then some (.inr k) else none
  | .router (.accountSnapshotCollected n' x) => if n' = n then some (.inl x.accountId) else none
  | .router (.cardSnapshotCollected n' x) => if n' = n then some (.inr (CardSnapshot.key x)) else none
  | _ => none

/-- The request for a snapshot a message is. -/
def Send.ask? (n : OpId) (r : ActorRouter) : Send → Option Ask
  | .router (.execute n' (.getDatabase addr)) =>
    if n' = n then some ⟨addr, r.accounts, r.cards⟩ else none
  | _ => none

def Send.commands (n : OpId) : Send → Bool
  | .router (.execute n' _) => n' == n
  | _ => false

theorem ask_eq_some {r : ActorRouter} {y : Send} {x : Ask} (h : y.ask? n r = some x) :
    ∃ addr, y = .router (.execute n (.getDatabase addr)) ∧ x = ⟨addr, r.accounts, r.cards⟩ := by
  cases y with
  | router m =>
    cases m with
    | execute n' o =>
      cases o with
      | getDatabase addr =>
        have h' : (if n' = n then some (⟨addr, r.accounts, r.cards⟩ : Ask) else none) = some x := h
        split at h'
        · rename_i hn
          subst hn
          exact ⟨addr, rfl, (Option.some.inj h').symm⟩
        · cases h'
      | _ => cases h
    | _ => cases h
  | _ => cases h

/-- A command under `n` is handled while a snapshot is pending under `n`. -/
def ActorDb.Overlaps (s : ActorDb) (n : OpId) (l : Label) : Bool :=
  (s.next l).any (Send.commands n) && (s.router.pendingDbSnapshots n).isSome

/-- How far the snapshots asked for under `n` are: all reported, or one still open. -/
inductive Assembly (n : OpId) (r : ActorRouter) (underway : List Source) (views : List View)
    (asked : List Ask) : Prop where
  | idle (hp : r.pendingDbSnapshots n = none) (hu : underway = [])
      (hv : List.Forall₂ Ask.Complete asked views)
  | open (done : List Ask) (x : Ask) (p : PendingDatabaseSnapshot) (hasked : asked = done ++ [x])
      (hp : r.pendingDbSnapshots n = some p) (hop : r.operations n = some (.getDatabase x.addr))
      (hacc : p.expectedAccounts = x.accounts.toList.length)
      (hcards : p.expectedCards = x.cards.toList.length)
      (hu : (underway ++ p.sources).Perm x.sources)
      (hmissing : ¬ (p.accounts.length = p.expectedAccounts ∧ p.cards.length = p.expectedCards))
      (hv : List.Forall₂ Ask.Complete done views)

variable {n : OpId} {r : ActorRouter} {x : Ask} {p : PendingDatabaseSnapshot}
  {underway : List Source} {views : List View} {asked : List Ask}

/-! ## The sources of a snapshot -/

theorem sources_accounts (xs : List AccountId) (ys : List CardKey) :
    (xs.map (fun a => (Sum.inl a : Source)) ++ ys.map Sum.inr).filterMap Sum.getLeft? = xs := by
  simp [List.filterMap_append, List.filterMap_map, Function.comp_def]

theorem sources_cards (xs : List AccountId) (ys : List CardKey) :
    (xs.map (fun a => (Sum.inl a : Source)) ++ ys.map Sum.inr).filterMap Sum.getRight? = ys := by
  simp [List.filterMap_append, List.filterMap_map, Function.comp_def]

theorem PendingDatabaseSnapshot.sources_eq (p : PendingDatabaseSnapshot) :
    p.sources = (p.accounts.map AccountSnapshot.accountId).map Sum.inl ++
      (p.cards.map CardSnapshot.key).map Sum.inr := by
  unfold sources
  rw [List.map_map, List.map_map]
  rfl

/-- When all fragments have arrived, each known actor is listed once. -/
theorem PendingDatabaseSnapshot.complete (h : p.sources.Perm x.sources) (addr : SocketAddr) :
    x.Complete (x.addr, ⟨addr, p.accounts, p.cards⟩) := by
  rw [sources_eq] at h
  refine ⟨rfl, ?_, ?_⟩
  · have hl := h.filterMap Sum.getLeft?
    rw [sources_accounts, Ask.sources, sources_accounts] at hl
    exact hl
  · have hr := h.filterMap Sum.getRight?
    rw [sources_cards, Ask.sources, sources_cards] at hr
    exact hr

/-- The fragments that have arrived are all of them when their numbers are right. -/
theorem PendingDatabaseSnapshot.all_arrived (hu : (underway ++ p.sources).Perm x.sources)
    (hacc : p.accounts.length = x.accounts.toList.length)
    (hcards : p.cards.length = x.cards.toList.length) : underway = [] := by
  have hlen := hu.length_eq
  simp only [List.length_append, sources, Ask.sources, List.length_map] at hlen
  refine List.length_eq_zero_iff.mp ?_
  omega

/-! ## The actors that are asked -/

/-- What is sent concerns no snapshot under `n`. -/
def Silent (n : OpId) (ys : List Send) : Prop := ys.filterMap (Send.source? n) = []

theorem silent_of_forall {ys : List Send} (h : ∀ y ∈ ys, y.source? n = none) : Silent n ys :=
  List.filterMap_eq_nil_iff.mpr h

/-- An account that is asked sends its fragment; nothing else it does concerns `n`. -/
theorem AccountActor.handle_source {a : AccountId} {x : AccountActor} (hx : x.accountId = a)
    (m : AccountMsg) :
    (x.handle m).2.filterMap (Send.source? n) = ((Send.account a m).source? n).toList := by
  by_cases hm : ∃ n', m = .getSnapshot n'
  · obtain ⟨n', rfl⟩ := hm
    by_cases hn : n' = n <;> simp [handle, Send.source?, hn, hx]
  · have hnone : (Send.account a m).source? n = none := by
      cases m with
      | getSnapshot n' => exact absurd ⟨n', rfl⟩ hm
      | _ => rfl
    rw [hnone]
    refine silent_of_forall fun y hy => ?_
    have hquery : ((∃ n a t l, y = .router (.accountQueryCompleted n a t l)) ∨
        ∃ text, y = .router (.debug text)) → y.source? n = none := by
      rintro (⟨n, a, t, l, rfl⟩ | ⟨text, rfl⟩) <;> rfl
    cases m with
    | applyChargeFromCard n' amount c off k =>
      simp only [handle] at hy
      obtain ⟨-, heq⟩ | ⟨-, -, err, heq⟩ := applyChargeFromCard_cases x n' amount c off k <;>
        rw [heq] at hy <;> obtain rfl := List.mem_singleton.mp hy <;> rfl
    | applyAccountLimit n' lim =>
      simp only [handle] at hy
      obtain ⟨-, heq⟩ | ⟨err, -, heq⟩ := applyAccountLimit_cases x n' lim <;>
        rw [heq] at hy <;> obtain rfl := List.mem_singleton.mp hy <;> rfl
    | startAccountQuery n' num => exact hquery (query_emits x _ (Or.inl ⟨n', num, rfl⟩) y hy)
    | startAccountBill n' num =>
      exact hquery (query_emits x _ (Or.inr (Or.inl ⟨n', num, rfl⟩)) y hy)
    | cardQueryReply n' c con =>
      exact hquery (query_emits x _ (Or.inr (Or.inr ⟨n', c, con, rfl⟩)) y hy)
    | getSnapshot n' => exact absurd ⟨n', rfl⟩ hm
    | replaceState lim con => cases hy

theorem CardActor.handle_source {k : CardKey} {c : CardActor} (hacc : c.accountId = k.1)
    (hcard : c.cardId = k.2) (m : CardMsg) :
    (c.handle m).2.filterMap (Send.source? n) = ((Send.card k m).source? n).toList := by
  by_cases hm : ∃ n', m = .getSnapshot n'
  · obtain ⟨n', rfl⟩ := hm
    by_cases hn : n' = n <;> simp [handle, Send.source?, CardSnapshot.key, hn, hacc, hcard]
  · have hnone : (Send.card k m).source? n = none := by
      cases m with
      | getSnapshot n' => exact absurd ⟨n', rfl⟩ hm
      | _ => rfl
    rw [hnone]
    refine silent_of_forall fun y hy => ?_
    by_cases hq : ∃ n' a reset, m = .queryCardState n' a reset
    · obtain ⟨n', a, reset, rfl⟩ := hq
      simp only [handle] at hy
      obtain ⟨-, heq⟩ | ⟨-, text, heq⟩ := queryCardState_cases c n' a reset <;>
        rw [heq] at hy <;> obtain rfl := List.mem_singleton.mp hy <;> rfl
    · obtain hp | ⟨text, rfl⟩ | ⟨n', t, rfl, -⟩ :=
        handle_pumps c m (fun n' a reset he => hq ⟨n', a, reset, he⟩) y hy
      · cases hp <;> rfl
      · rfl
      · exact absurd ⟨n', rfl⟩ hm

/-! ## The router -/

namespace ActorRouter

theorem getOrCreateAccount_pending (r : ActorRouter) (a : AccountId) :
    (r.getOrCreateAccount a).pendingDbSnapshots = r.pendingDbSnapshots := rfl

theorem getOrCreateCard_pending (r : ActorRouter) (a : AccountId) (c : CardId) :
    (r.getOrCreateCard a c).pendingDbSnapshots = r.pendingDbSnapshots := by
  unfold getOrCreateCard
  split <;> rfl

theorem foldl_pending {β : Type} {f : ActorRouter → β → ActorRouter}
    (hf : ∀ r x, (f r x).pendingDbSnapshots = r.pendingDbSnapshots) (xs : List β)
    (r : ActorRouter) : (xs.foldl f r).pendingDbSnapshots = r.pendingDbSnapshots := by
  induction xs generalizing r with
  | nil => rfl
  | cons x xs ih => rw [List.foldl_cons, ih, hf]

/-- A command that asks for no snapshot leaves the slots alone, sends nobody a request and
    reports no snapshot. -/
theorem execute_other (r : ActorRouter) (n' : OpId) {o : Operation Amount}
    (ho : ∀ addr, o ≠ .getDatabase addr) :
    (r.handle (.execute n' o)).1.pendingDbSnapshots = r.pendingDbSnapshots ∧
      (∀ n, Silent n (r.handle (.execute n' o)).2) ∧
      ((r.handle (.execute n' o)).2.filterMap Send.toNode?).filterMap ActorEvent.view? = [] := by
  refine ⟨?_, fun n => silent_of_forall fun y hy => ?_, ?_⟩
  · cases o with
    | charge a c amount off => exact getOrCreateCard_pending _ a c
    | limitCard a c lim => exact getOrCreateCard_pending _ a c
    | getDatabase addr => exact absurd rfl (ho addr)
    | replaceDatabase snapshot =>
      simp only [handle, execute, executeReplaceDatabase]
      rw [foldl_pending fun r _ => getOrCreateCard_pending r _ _,
        foldl_pending fun r _ => getOrCreateAccount_pending r _]
    | _ => rfl
  · cases execute_dispatches r n' o y hy with
    | accountSnapshot addr a he => exact absurd he (ho addr)
    | cardSnapshot addr k he => exact absurd he (ho addr)
    | _ => rfl
  · rw [List.filterMap_eq_nil_iff]
    intro ev hev
    obtain ⟨y, hy, hye⟩ := List.mem_filterMap.mp hev
    cases execute_dispatches r n' o y hy with
    | result res he =>
      obtain rfl := Option.some.inj hye
      obtain ⟨addr, rfl⟩ | ⟨snapshot, rfl⟩ := he
      · exact absurd rfl (ho addr)
      · rfl
    | _ => cases hye

/-- A message that is neither a command nor a fragment leaves the slots alone and reports
    no snapshot. -/
theorem handle_other (r : ActorRouter) {m : RouterMsg} (hm : ∀ n o, m ≠ .execute n o)
    (hs : ¬ IsSnapshot m) :
    (r.handle m).1.pendingDbSnapshots = r.pendingDbSnapshots ∧
      ((r.handle m).2.filterMap Send.toNode?).filterMap ActorEvent.view? = [] := by
  constructor
  · cases m with
    | execute n o => exact absurd rfl (hm n o)
    | operationCompleted n b e =>
      simp only [handle, operationCompleted]
      split
      · rfl
      · split <;> rfl
    | accountQueryCompleted n a t l =>
      simp only [handle, accountQueryCompleted]
      split <;> rfl
    | accountSnapshotCollected n s => exact absurd True.intro hs
    | cardSnapshotCollected n s => exact absurd True.intro hs
    | _ => rfl
  · have h := handle_reports r m hm
    generalize r.handle m = out at h
    cases h with
    | result _ r' n o res b e hid ho hres =>
      cases m with
      | operationCompleted n' b' e' =>
        -- a completion is never reported as a snapshot
        obtain ⟨-, -, hcomp⟩ := hres
        cases o with
        | getDatabase addr =>
          obtain rfl := Option.some.inj hcomp
          rfl
        | _ => rfl
      | accountQueryCompleted n' a total perCard =>
        obtain rfl := hres
        cases o <;> rfl
      | accountSnapshotCollected n s => exact absurd True.intro hs
      | cardSnapshotCollected n s => exact absurd True.intro hs
      | _ => exact hres.elim
    | quiet _ r' es hes hnone =>
      rw [List.filterMap_eq_nil_iff]
      intro ev hev
      obtain ⟨y, hy, hye⟩ := List.mem_filterMap.mp hev
      obtain ⟨ev', hev', rfl⟩ := List.mem_map.mp hy
      obtain rfl := Option.some.inj hye
      obtain ⟨text, rfl⟩ := hes _ hev'
      rfl
    | panic n o b e ho hres => rfl

theorem tryCompleteDbSnapshot_slot (r : ActorRouter) {n n' : OpId} (hn : n' ≠ n) :
    (r.tryCompleteDbSnapshot n).1.pendingDbSnapshots n' = r.pendingDbSnapshots n' := by
  unfold tryCompleteDbSnapshot
  split
  · rfl
  · dsimp only
    split
    · split <;> exact Function.update_of_ne hn ..
    · rfl

/-- Only a request for a snapshot takes a free slot. -/
theorem handle_slot (r : ActorRouter) {n' : OpId} {m : RouterMsg}
    (hfree : r.pendingDbSnapshots n' = none) (hm : ∀ addr, m ≠ .execute n' (.getDatabase addr)) :
    (r.handle m).1.pendingDbSnapshots n' = none := by
  by_cases hexec : ∃ n o, m = .execute n o
  · obtain ⟨n, o, rfl⟩ := hexec
    by_cases hget : ∃ addr, o = .getDatabase addr
    · obtain ⟨addr, rfl⟩ := hget
      have hn : n' ≠ n := by
        rintro rfl
        exact hm addr rfl
      simp only [handle, execute, executeGetDatabase]
      split
      · exact hfree
      · exact (Function.update_of_ne hn ..).trans hfree
    · rw [(execute_other r n fun addr he => hget ⟨addr, he⟩).1, hfree]
  · have hne : ∀ n o, m ≠ .execute n o := fun n o he => hexec ⟨n, o, he⟩
    have hkeep : ∀ n p, r.pendingDbSnapshots n = some p → ∀ p', ({ r with
        pendingDbSnapshots := Function.update r.pendingDbSnapshots n p'
        } : ActorRouter).pendingDbSnapshots n' = none := by
      intro n p hp p'
      have hn : n' ≠ n := by
        rintro rfl
        rw [hfree] at hp
        cases hp
      exact (Function.update_of_ne hn ..).trans hfree
    cases m with
    | accountSnapshotCollected n y =>
      simp only [handle, accountSnapshotCollected]
      split
      · rename_i p hp
        by_cases hn : n' = n
        · rw [← hn, hfree] at hp
          cases hp
        · rw [tryCompleteDbSnapshot_slot _ hn]
          exact hkeep n p hp _
      · exact hfree
    | cardSnapshotCollected n y =>
      simp only [handle, cardSnapshotCollected]
      split
      · rename_i p hp
        by_cases hn : n' = n
        · rw [← hn, hfree] at hp
          cases hp
        · rw [tryCompleteDbSnapshot_slot _ hn]
          exact hkeep n p hp _
      · exact hfree
    | _ => rw [(handle_other r hne (by simp [IsSnapshot])).1, hfree]

/-- What is not a command asks nobody for a fragment. -/
theorem handle_silent (r : ActorRouter) {m : RouterMsg} (hm : ∀ n o, m ≠ .execute n o) :
    Silent n (r.handle m).2 := by
  have h := handle_reports r m hm
  generalize r.handle m = out at h
  refine silent_of_forall fun y hy => ?_
  cases h with
  | result _ r' n' o res b e => rw [List.mem_singleton.mp hy]; rfl
  | quiet _ r' es hes hnone =>
    obtain ⟨ev, -, rfl⟩ := List.mem_map.mp hy
    rfl
  | panic n' o b e ho hres => cases hy

/-- The router answers at once, or asks everyone it knows. -/
theorem getDatabase_cases (r : ActorRouter) (n : OpId) (addr : SocketAddr) :
    ((r.handle (.execute n (.getDatabase addr))).1.pendingDbSnapshots = r.pendingDbSnapshots ∧
      (r.handle (.execute n (.getDatabase addr))).2 = [.event (.operationResult n
        (.getDatabase addr) (.databaseSnapshot ⟨addr, [], []⟩) true none)]) ∨
    ((r.handle (.execute n (.getDatabase addr))).1.pendingDbSnapshots =
        Function.update r.pendingDbSnapshots n
          (some ⟨addr, r.accounts.toList.length, r.cards.toList.length, [], []⟩) ∧
      (r.handle (.execute n (.getDatabase addr))).2 =
        r.accounts.toList.map (fun a => .account a (.getSnapshot n)) ++
          r.cards.toList.map fun k => .card k (.getSnapshot n)) := by
  simp only [handle, execute, executeGetDatabase]
  by_cases hempty : r.accounts.toList.length = 0 ∧ r.cards.toList.length = 0
  · rw [if_pos hempty]
    exact Or.inl ⟨rfl, rfl⟩
  · rw [if_neg hempty]
    exact Or.inr ⟨rfl, rfl⟩

/-- Neither does a command for anything but a snapshot. -/
theorem handle_silent_of_ne (r : ActorRouter) {m : RouterMsg}
    (hget : ∀ n' addr, m ≠ .execute n' (.getDatabase addr)) : Silent n (r.handle m).2 := by
  by_cases hexec : ∃ n' o, m = .execute n' o
  · obtain ⟨n', o, rfl⟩ := hexec
    refine (execute_other r n' ?_).2.1 n
    rintro addr rfl
    exact hget n' addr rfl
  · exact handle_silent r fun n' o he => hexec ⟨n', o, he⟩

/-! ### What is collected -/

/-- What the router has collected under `n`, and what it reports, are accounts that meet `P`
    and cards that meet `Q`. -/
structure Collects (P : AccountSnapshot Amount → Prop) (Q : CardSnapshot Amount → Prop) (n : OpId)
    (out : ActorRouter × List Send) : Prop where
  pending : ∀ p, out.1.pendingDbSnapshots n = some p →
    (∀ x ∈ p.accounts, P x) ∧ ∀ x ∈ p.cards, Q x
  views : ∀ v ∈ (out.2.filterMap Send.toNode?).filterMap ActorEvent.view?,
    (∀ x ∈ v.2.accounts, P x) ∧ ∀ x ∈ v.2.cards, Q x

section Collects

variable {P : AccountSnapshot Amount → Prop} {Q : CardSnapshot Amount → Prop}

theorem tryComplete_collects
    (h : ∀ p, r.pendingDbSnapshots n = some p → (∀ x ∈ p.accounts, P x) ∧ ∀ x ∈ p.cards, Q x) :
    Collects P Q n (r.tryCompleteDbSnapshot n) := by
  unfold tryCompleteDbSnapshot
  split
  · exact ⟨h, nofun⟩
  · rename_i p hp
    dsimp only
    have hfree : ∀ q, Function.update r.pendingDbSnapshots n none n = some q →
        (∀ x ∈ q.accounts, P x) ∧ ∀ x ∈ q.cards, Q x := by
      intro q hq
      rw [Function.update_self] at hq
      cases hq
    split
    · split
      · rename_i o ho
        refine ⟨hfree, ?_⟩
        intro v hv
        cases o with
        | getDatabase addr =>
          obtain rfl := List.mem_singleton.mp hv
          exact h p hp
        | _ => cases hv
      · exact ⟨hfree, nofun⟩
    · exact ⟨h, nofun⟩

/-- A fragment that meets the conditions. -/
theorem fragment_collects {m : RouterMsg} (hm : IsSnapshot m)
    (h : ∀ p, r.pendingDbSnapshots n = some p → (∀ x ∈ p.accounts, P x) ∧ ∀ x ∈ p.cards, Q x)
    (hothers : ∀ n', n' ≠ n → r.pendingDbSnapshots n' = none)
    (hacc : ∀ x, m = .accountSnapshotCollected n x → P x)
    (hcard : ∀ x, m = .cardSnapshotCollected n x → Q x) : Collects P Q n (r.handle m) := by
  cases m with
  | accountSnapshotCollected n' x =>
    simp only [handle, accountSnapshotCollected]
    split
    · rename_i p hp
      by_cases hn : n' = n
      · subst hn
        refine tryComplete_collects fun q hq => ?_
        simp only [Function.update_self, Option.some.injEq] at hq
        subst hq
        refine ⟨fun y hy => ?_, (h p hp).2⟩
        rcases List.mem_append.mp hy with hy | hy
        · exact (h p hp).1 y hy
        · obtain rfl := List.mem_singleton.mp hy
          exact hacc y rfl
      · rw [hothers n' hn] at hp
        cases hp
    · exact ⟨h, fun v hv => by cases hv⟩
  | cardSnapshotCollected n' x =>
    simp only [handle, cardSnapshotCollected]
    split
    · rename_i p hp
      by_cases hn : n' = n
      · subst hn
        refine tryComplete_collects fun q hq => ?_
        simp only [Function.update_self, Option.some.injEq] at hq
        subst hq
        refine ⟨(h p hp).1, fun y hy => ?_⟩
        rcases List.mem_append.mp hy with hy | hy
        · exact (h p hp).2 y hy
        · obtain rfl := List.mem_singleton.mp hy
          exact hcard y rfl
      · rw [hothers n' hn] at hp
        cases hp
    · exact ⟨h, fun v hv => by cases hv⟩
  | _ => exact absurd hm id

/-- **The router handles a message** that asks for no snapshot. -/
theorem handle_collects {m : RouterMsg}
    (h : ∀ p, r.pendingDbSnapshots n = some p → (∀ x ∈ p.accounts, P x) ∧ ∀ x ∈ p.cards, Q x)
    (hothers : ∀ n', n' ≠ n → r.pendingDbSnapshots n' = none)
    (hget : ∀ n' addr, m ≠ .execute n' (.getDatabase addr))
    (hacc : ∀ x, m = .accountSnapshotCollected n x → P x)
    (hcard : ∀ x, m = .cardSnapshotCollected n x → Q x) : Collects P Q n (r.handle m) := by
  by_cases hexec : ∃ n' o, m = .execute n' o
  · obtain ⟨n', o, rfl⟩ := hexec
    obtain ⟨hpend, -, hviews⟩ := execute_other r n' (o := o) fun addr he => hget n' addr (he ▸ rfl)
    refine ⟨?_, ?_⟩
    · rw [hpend]
      exact h
    · rw [hviews]
      exact nofun
  · have hne : ∀ n' o, m ≠ .execute n' o := fun n' o he => hexec ⟨n', o, he⟩
    by_cases hsnap : IsSnapshot m
    · exact fragment_collects hsnap h hothers hacc hcard
    · obtain ⟨hpend, hviews⟩ := handle_other r hne hsnap
      refine ⟨?_, ?_⟩
      · rw [hpend]
        exact h
      · rw [hviews]
        exact nofun

end Collects

end ActorRouter

/-! ## A fragment arrives -/

/-- The last fragment makes the router report the snapshot; any other is stored. -/
theorem Assembly.collect {done : List Ask} (hop : r.operations n = some (.getDatabase x.addr))
    (hu : (underway ++ p.sources).Perm x.sources)
    (hacc : p.expectedAccounts = x.accounts.toList.length)
    (hcards : p.expectedCards = x.cards.toList.length)
    (hv : List.Forall₂ Ask.Complete done views) {out : ActorRouter × List Send}
    (hout : out = { r with
      pendingDbSnapshots := Function.update r.pendingDbSnapshots n (some p)
      }.tryCompleteDbSnapshot n) :
    Assembly n out.1 underway
      (views ++ (out.2.filterMap Send.toNode?).filterMap ActorEvent.view?) (done ++ [x]) := by
  subst hout
  by_cases hall : p.accounts.length = p.expectedAccounts ∧ p.cards.length = p.expectedCards
  · have hempty : underway = [] :=
      PendingDatabaseSnapshot.all_arrived hu (hall.1.trans hacc) (hall.2.trans hcards)
    have hcomplete := PendingDatabaseSnapshot.complete (x := x) (p := p)
      (by rwa [hempty, List.nil_append] at hu) p.addr
    simp only [ActorRouter.tryCompleteDbSnapshot, Function.update_self, if_pos hall, hop,
      Function.update_idem]
    refine .idle (Function.update_self ..) hempty (List.rel_append hv (.cons hcomplete .nil))
  · simp only [ActorRouter.tryCompleteDbSnapshot, Function.update_self, if_neg hall]
    refine .open done x p rfl (Function.update_self ..) hop hacc hcards hu hall ?_
    rw [List.filterMap_nil, List.filterMap_nil, List.append_nil]
    exact hv

/-- **A fragment under `n` arrives**: it leaves the messages and joins what is gathered. -/
theorem Assembly.fragment {m : RouterMsg} {f : Source} {underway' : List Source}
    (hi : Assembly n r underway views asked) (hm : (Send.router m).source? n = some f)
    (hu : (f :: underway').Perm underway) :
    Assembly n (r.handle m).1 underway'
      (views ++ ((r.handle m).2.filterMap Send.toNode?).filterMap ActorEvent.view?) asked := by
  cases hi with
  | idle hp hempty hv =>
    rw [hempty] at hu
    exact absurd hu.symm.nil_eq (by simp)
  | «open» done x p hasked hp hop hacc hcards hperm hmissing hv =>
    subst hasked
    -- the fragment is counted with the gathered ones from now on
    have hmoved : ∀ {p' : PendingDatabaseSnapshot}, p'.sources.Perm (f :: p.sources) →
        (underway' ++ p'.sources).Perm x.sources := by
      intro p' hp'
      refine (hp'.append_left underway').trans (List.perm_middle.trans ?_)
      rw [← List.cons_append]
      exact (hu.append_right p.sources).trans hperm
    cases m with
    | accountSnapshotCollected n' y =>
      obtain ⟨rfl, rfl⟩ : n' = n ∧ Sum.inl y.accountId = f := by
        simpa [Send.source?] using hm
      have hstored : ({ p with accounts := p.accounts ++ [y] } :
          PendingDatabaseSnapshot).sources.Perm (Sum.inl y.accountId :: p.sources) := by
        simp only [PendingDatabaseSnapshot.sources, List.map_append, List.map_singleton]
        rw [List.append_assoc, List.singleton_append]
        exact List.perm_middle
      refine Assembly.collect hop (hmoved hstored) hacc hcards hv ?_
      simp only [ActorRouter.handle, ActorRouter.accountSnapshotCollected, hp]
    | cardSnapshotCollected n' y =>
      obtain ⟨rfl, rfl⟩ : n' = n ∧ Sum.inr (CardSnapshot.key y) = f := by
        simpa [Send.source?] using hm
      have hstored : ({ p with cards := p.cards ++ [y] } :
          PendingDatabaseSnapshot).sources.Perm (Sum.inr (CardSnapshot.key y) :: p.sources) := by
        simp only [PendingDatabaseSnapshot.sources, List.map_append, List.map_singleton]
        rw [← List.append_assoc]
        exact List.perm_append_singleton _ _
      refine Assembly.collect hop (hmoved hstored) hacc hcards hv ?_
      simp only [ActorRouter.handle, ActorRouter.cardSnapshotCollected, hp]
    | _ => cases hm

/-! ## A command -/

/-- **A request for a snapshot** while the slot is free: an empty database reports at once,
    otherwise every known actor is asked once. -/
theorem Assembly.request (hi : Assembly n r [] views asked) (addr : SocketAddr)
    (hp : r.pendingDbSnapshots n = none) :
    Assembly n (r.handle (.execute n (.getDatabase addr))).1
      ((r.handle (.execute n (.getDatabase addr))).2.filterMap (Send.source? n))
      (views ++ ((r.handle (.execute n (.getDatabase addr))).2.filterMap Send.toNode?).filterMap
        ActorEvent.view?)
      (asked ++ [⟨addr, r.accounts, r.cards⟩]) := by
  have hv : List.Forall₂ Ask.Complete asked views := by
    cases hi with
    | idle _ _ hv => exact hv
    | «open» done x p _ hp' => rw [hp] at hp'; cases hp'
  simp only [ActorRouter.handle, ActorRouter.execute, ActorRouter.executeGetDatabase]
  by_cases hempty : r.accounts.toList.length = 0 ∧ r.cards.toList.length = 0
  · rw [if_pos hempty]
    obtain ⟨hacc, hcards⟩ := hempty
    refine .idle hp rfl (List.rel_append hv (.cons ⟨rfl, ?_, ?_⟩ .nil))
    · rw [List.length_eq_zero_iff.mp hacc]
      exact List.Perm.nil
    · rw [List.length_eq_zero_iff.mp hcards]
      exact List.Perm.nil
  · rw [if_neg hempty]
    have hsources : ((r.accounts.toList.map fun a => Send.account a (.getSnapshot n)) ++
        r.cards.toList.map fun k => Send.card k (.getSnapshot n)).filterMap (Send.source? n) =
        (⟨addr, r.accounts, r.cards⟩ : Ask).sources := by
      simp only [List.filterMap_append, List.filterMap_map, Ask.sources, Function.comp_def,
        Send.source?, if_true]
      simp only [← List.filterMap_eq_map, Function.comp_def]
    have hevents : ((r.accounts.toList.map fun a => Send.account a (.getSnapshot n)) ++
        r.cards.toList.map fun k => Send.card k (.getSnapshot n)).filterMap Send.toNode? = [] := by
      rw [List.filterMap_eq_nil_iff]
      intro y hy
      obtain hy | hy := List.mem_append.mp hy <;> obtain ⟨z, -, rfl⟩ := List.mem_map.mp hy <;> rfl
    rw [hsources, hevents]
    refine .open asked ⟨addr, r.accounts, r.cards⟩ _ rfl (Function.update_self ..)
      (Function.update_self ..) rfl rfl ?_ ?_ ?_
    · rw [PendingDatabaseSnapshot.sources, List.map_nil, List.map_nil, List.append_nil,
        List.append_nil]
    · rintro ⟨hacc, hcards⟩
      exact hempty ⟨hacc.symm, hcards.symm⟩
    · rw [List.filterMap_nil, List.append_nil]
      exact hv

/-- What leaves the slot and the operation of `n` alone and reports no snapshot. -/
theorem Assembly.quiet {r' : ActorRouter} {underway' : List Source}
    (hi : Assembly n r underway views asked)
    (hp : r'.pendingDbSnapshots n = r.pendingDbSnapshots n)
    (hop : r'.operations n = r.operations n) (hu : underway'.Perm underway) :
    Assembly n r' underway' views asked := by
  cases hi with
  | idle hp' hempty hv => exact .idle (hp.trans hp') (List.perm_nil.mp (hempty ▸ hu)) hv
  | «open» done x p hasked hp' hop' hacc hcards hperm hmissing hv =>
    exact .open done x p hasked (hp.trans hp') (hop.trans hop') hacc hcards
      ((hu.append_right _).trans hperm) hmissing hv

/-- While the slot is free, what is registered under `n` does not matter. -/
theorem Assembly.free {r' : ActorRouter} (hi : Assembly n r underway views asked)
    (hfree : r.pendingDbSnapshots n = none)
    (hp : r'.pendingDbSnapshots = r.pendingDbSnapshots) :
    Assembly n r' underway views asked := by
  cases hi with
  | idle _ hempty hv => exact .idle (by rw [hp, hfree]) hempty hv
  | «open» done x p _ hp' => rw [hfree] at hp'; cases hp'

theorem Assembly.underway_eq (hi : Assembly n r underway views asked)
    (hfree : r.pendingDbSnapshots n = none) : underway = [] := by
  cases hi with
  | idle _ hempty _ => exact hempty
  | «open» done x p _ hp' => rw [hfree] at hp'; cases hp'

/-- Before a snapshot is asked for none is reported. -/
theorem Assembly.views_nil (hi : Assembly n r underway views []) : views = [] := by
  cases hi with
  | idle _ _ hv => exact List.forall₂_nil_left_iff.mp hv
  | «open» done x p hasked => simp at hasked

/-- What is reported after one request answers it. -/
theorem Assembly.complete (hi : Assembly n r underway views [x]) {v : View} (hv : v ∈ views) :
    x.Complete v := by
  cases hi with
  | idle _ _ hviews =>
    obtain ⟨v', rest, hcomplete, hnil, rfl⟩ := List.forall₂_cons_left_iff.mp hviews
    rw [List.forall₂_nil_left_iff.mp hnil] at hv
    obtain rfl := List.mem_singleton.mp hv
    exact hcomplete
  | «open» done y p hasked _ _ _ _ _ _ hviews =>
    have hlen := congrArg List.length hasked
    rw [List.length_append, List.length_singleton, List.length_singleton] at hlen
    obtain rfl : done = [] := List.length_eq_zero_iff.mp (by omega)
    rw [List.forall₂_nil_left_iff.mp hviews] at hv
    cases hv

/-- All snapshots asked for are reported, but for the one whose slot is taken. -/
theorem Assembly.length (hi : Assembly n r underway views asked) :
    asked.length = views.length + if (r.pendingDbSnapshots n).isSome then 1 else 0 := by
  cases hi with
  | idle hp _ hv =>
    rw [hp]
    exact hv.length_eq
  | «open» done x p hasked hp _ _ _ _ _ hv =>
    rw [hasked, hp, List.length_append, List.length_singleton, hv.length_eq]
    rfl

/-- What is reported last answers the last request. -/
theorem Assembly.last {new : List View} (hi : Assembly n r underway (views ++ new) asked)
    (hlen : asked.length ≤ views.length + 1) {v : View} (hv : v ∈ new) :
    asked.length = views.length + 1 ∧ ∃ x, asked.getLast? = some x ∧ x.Complete v := by
  have hpos := List.length_pos_of_mem hv
  cases hi with
  | idle _ _ hviews =>
    have hsame := hviews.length_eq
    rw [List.length_append] at hsame
    obtain ⟨w, rfl⟩ := List.length_eq_one_iff.mp (show new.length = 1 by omega)
    obtain rfl := List.mem_singleton.mp hv
    obtain ⟨done, x, rfl⟩ : ∃ done x, asked = done ++ [x] := by
      refine ⟨_, _, (List.dropLast_append_getLast (l := asked) ?_).symm⟩
      rintro rfl
      rw [List.length_nil] at hsame
      omega
    have hlast := List.forall₂_drop_append _ _ _ hviews
    rw [List.length_append, List.length_singleton, List.length_singleton] at hsame
    rw [List.drop_left' (by omega)] at hlast
    exact ⟨by rw [List.length_append, List.length_singleton]; omega, x, List.getLast?_concat,
      (List.forall₂_cons.mp hlast).1⟩
  | «open» done x p hasked _ _ _ _ _ _ hviews =>
    have hsame := hviews.length_eq
    rw [hasked, List.length_append, List.length_singleton] at hlen
    rw [List.length_append] at hsame
    omega

/-! ## A step of the database -/

/-- The messages in flight, the slots of other ids, which stay free, and the snapshots
    asked for under `n` since `old` were reported. -/
structure SnapshotBook (n : OpId) (old : List View) (s : ActorDb) (flight : List Send)
    (asked : List Ask) : Prop where
  inFlight : s.InFlight flight
  others : ∀ n', n' ≠ n → s.router.pendingDbSnapshots n' = none
  commands : ∀ n' addr, .router (.execute n' (.getDatabase addr)) ∈ flight → n' = n
  assembly : ∃ views, s.views = old ++ views ∧
    Assembly n s.router (flight.filterMap (Send.source? n)) views asked

/-- Handling one message of the flight. -/
theorem filterMap_moved {β : Type} (f : Send → Option β) (pre : List Send) (y : Send)
    (post ys : List Send) :
    ((f y).toList ++ (pre ++ post ++ ys).filterMap f).Perm
      ((pre ++ y :: post).filterMap f ++ ys.filterMap f) := by
  have hmid : ((pre ++ y :: post).filterMap f).Perm
      ((f y).toList ++ (pre ++ post).filterMap f) := by
    have hfront : (pre ++ y :: post).Perm (y :: (pre ++ post)) := List.perm_middle
    refine (hfront.filterMap f).trans ?_
    cases hy : f y <;> simp [hy]
  rw [List.filterMap_append, ← List.append_assoc]
  exact (hmid.append_right _).symm

/-- An actor that is asked passes its part on. -/
theorem filterMap_passed {β : Type} {f : Send → Option β} {pre : List Send} {y : Send}
    {post ys : List Send} (h : ys.filterMap f = (f y).toList) :
    ((pre ++ post ++ ys).filterMap f).Perm ((pre ++ y :: post).filterMap f) := by
  have hmoved := filterMap_moved f pre y post ys
  rw [h] at hmoved
  exact (List.perm_append_left_iff _).mp (hmoved.trans List.perm_append_comm)

variable {s s' : ActorDb} {flight : List Send} {l : Label} {old : List View}

/-- Only the node sends commands. -/
theorem ActorStates.handle_commands (c : ActorStates) (y : Send) (n' : OpId)
    (o : Operation Amount) : .router (.execute n' o) ∉ (c.handle y).2 := by
  intro hmem
  cases y with
  | router m =>
    have hzero := ActorRouter.handle_onRouter c.router m fun _ => true
    rw [List.countP_eq_zero] at hzero
    exact hzero _ hmem rfl
  | account a m => cases AccountActor.handle_emits _ m _ hmem
  | card k m =>
    generalize hz : Send.router (.execute n' o) = z at hmem
    cases CardActor.handle_emits _ m z hmem <;> cases hz
  | event e => cases hmem

/-- **The router handles a message**: the snapshots asked for, unless a command overlaps
    one that is still open. -/
theorem SnapshotBook.router {pre post : List Send} {m : RouterMsg}
    (hi : SnapshotBook n old s (pre ++ .router m :: post) asked)
    (ha : Assembly n s.router ((pre ++ .router m :: post).filterMap (Send.source? n)) views asked)
    (hc : ∀ o, m = .execute n o → s.router.pendingDbSnapshots n = none) :
    Assembly n (s.router.handle m).1
      ((pre ++ post ++ (s.router.handle m).2).filterMap (Send.source? n))
      (views ++ ((s.router.handle m).2.filterMap Send.toNode?).filterMap ActorEvent.view?)
      (asked ++ ((Send.router m).ask? n s.router).toList) := by
  have hmoved := filterMap_moved (Send.source? n) pre (.router m) post (s.router.handle m).2
  by_cases hexec : ∃ n' o, m = .execute n' o
  · obtain ⟨n', o, rfl⟩ := hexec
    rw [show (Send.router (.execute n' o)).source? n = none from rfl, Option.toList_none,
      List.nil_append] at hmoved
    by_cases hget : ∃ addr, o = .getDatabase addr
    · obtain ⟨addr, rfl⟩ := hget
      obtain rfl : n' = n := hi.commands n' addr (by simp)
      have hfree := hc _ rfl
      have hempty := ha.underway_eq hfree
      rw [hempty, List.nil_append] at hmoved
      have hnew := (hempty ▸ ha).request addr hfree
      rw [show (Send.router (.execute n' (.getDatabase addr))).ask? n' s.router =
        some ⟨addr, s.router.accounts, s.router.cards⟩ from if_pos rfl]
      exact hnew.quiet rfl rfl hmoved
    · obtain ⟨hp, hsilent, hviews⟩ :=
        ActorRouter.execute_other s.router n' fun addr he => hget ⟨addr, he⟩
      have hask : (Send.router (.execute n' o)).ask? n s.router = none := by
        cases o with
        | getDatabase addr => exact absurd ⟨addr, rfl⟩ hget
        | _ => rfl
      rw [show _ = [] from hsilent n, List.append_nil] at hmoved
      rw [hask, Option.toList_none, List.append_nil, hviews, List.append_nil]
      by_cases hn : n' = n
      · subst hn
        exact (ha.free (hc o rfl) hp).quiet rfl rfl hmoved
      · refine ha.quiet (by rw [hp]) ?_ hmoved
        rw [ActorRouter.handle, ActorRouter.execute_operations, Function.update_of_ne (Ne.symm hn)]
  · have hne : ∀ n' o, m ≠ .execute n' o := fun n' o he => hexec ⟨n', o, he⟩
    have hask : (Send.router m).ask? n s.router = none := by
      cases m with
      | execute n' o => exact absurd rfl (hne n' o)
      | _ => rfl
    have hops := congrFun (ActorRouter.handle_operations s.router m hne) n
    rw [hask, Option.toList_none, List.append_nil]
    rw [show _ = [] from ActorRouter.handle_silent s.router hne, List.append_nil] at hmoved
    cases hsource : (Send.router m).source? n with
    | some f =>
      rw [hsource] at hmoved
      exact ha.fragment hsource hmoved
    | none =>
      rw [hsource, Option.toList_none, List.nil_append] at hmoved
      -- a fragment of another id finds no slot
      have hquiet : (s.router.handle m).1.pendingDbSnapshots = s.router.pendingDbSnapshots ∧
          ((s.router.handle m).2.filterMap Send.toNode?).filterMap ActorEvent.view? = [] := by
        cases m with
        | accountSnapshotCollected n' y =>
          have hn : n' ≠ n := by simpa [Send.source?] using hsource
          simp only [ActorRouter.handle, ActorRouter.accountSnapshotCollected, hi.others n' hn]
          exact ⟨trivial, rfl⟩
        | cardSnapshotCollected n' y =>
          have hn : n' ≠ n := by simpa [Send.source?] using hsource
          simp only [ActorRouter.handle, ActorRouter.cardSnapshotCollected, hi.others n' hn]
          exact ⟨trivial, rfl⟩
        | _ => exact ActorRouter.handle_other s.router hne (by simp [ActorRouter.IsSnapshot])
      rw [hquiet.2, List.append_nil]
      exact ha.quiet (by rw [hquiet.1]) hops hmoved

/-- **A step of the database** keeps the book, unless a command overlaps a snapshot that is
    still open. -/
theorem SnapshotBook.step (hi : SnapshotBook n old s flight asked) (hf : Formed s) (hl : l.Internal)
    (hc : s.Overlaps n l = false) (h : s.step l = some s') :
    ∃ flight', SnapshotBook n old s' flight'
      (asked ++ ((s.next l).bind (Send.ask? n s.router)).toList) := by
  obtain ⟨pre, y, post, rfl, hy, hnext, -, hst, hev, hfl⟩ := hi.inFlight.step hl h
  have hrouter : s'.router = (s.states.handle y).1.router := congrArg ActorStates.router hst
  have hviews : s'.views = s.views ++
      ((s.states.handle y).2.filterMap Send.toNode?).filterMap ActorEvent.view? := by
    unfold ActorDb.views
    rw [hev, List.filterMap_append]
  have hold : ∀ z ∈ pre ++ post ++ (s.states.handle y).2, ∀ n' o, z = .router (.execute n' o) →
      z ∈ pre ++ y :: post := by
    intro z hz n' o he
    rcases List.mem_append.mp hz with hz | hz
    · rw [List.mem_append] at hz
      rw [List.mem_append, List.mem_cons]
      exact hz.imp id Or.inr
    · exact absurd (he ▸ hz) (ActorStates.handle_commands _ y n' o)
  refine ⟨_, hfl, ?_, fun n' addr hmem => hi.commands n' addr (hold _ hmem n' _ rfl), ?_⟩
  · intro n' hn
    rw [hrouter]
    cases y with
    | router m =>
      refine ActorRouter.handle_slot s.router (hi.others n' hn) ?_
      rintro addr rfl
      exact hn (hi.commands n' addr (by simp))
    | _ => exact hi.others n' hn
  · obtain ⟨views, hreported, ha⟩ := hi.assembly
    rw [hreported, List.append_assoc] at hviews
    refine ⟨_, hviews, ?_⟩
    rw [hrouter, hnext, Option.bind_some]
    cases y with
    | router m =>
      refine hi.router ha ?_
      rintro o rfl
      simpa [ActorDb.Overlaps, hnext, Send.commands] using hc
    | account a m =>
      have hsent : ((s.account a).handle m).2.filterMap Send.toNode? = [] :=
        AccountActor.handle_toNode _ m
      have hpassed := AccountActor.handle_source (n := n) (hf.origin.account a).1 m
      simp only [ActorStates.handle, ActorDb.states, hsent, List.filterMap_nil, List.append_nil,
        Send.ask?, Option.toList_none]
      exact ha.quiet rfl rfl (filterMap_passed hpassed)
    | card k m =>
      have hsent : ((s.card k).handle m).2.filterMap Send.toNode? = [] :=
        CardActor.handle_toNode _ m
      have hpassed := CardActor.handle_source (n := n) (hf.origin.card k).accountId
        (hf.origin.card k).cardId m
      simp only [ActorStates.handle, ActorDb.states, hsent, List.filterMap_nil, List.append_nil,
        Send.ask?, Option.toList_none]
      exact ha.quiet rfl rfl (filterMap_passed hpassed)
    | event e => exact absurd rfl hy

/-- The node sends a command; requests for snapshots go under `n`. -/
theorem SnapshotBook.command (hi : SnapshotBook n old s flight asked) {n' : OpId}
    {o : Operation Amount} (ho : ∀ addr, o = .getDatabase addr → n' = n) :
    SnapshotBook n old (s.execute n' o) (flight ++ [.router (.execute n' o)]) asked where
  inFlight := hi.inFlight.command n' o
  others := hi.others
  commands m addr hmem := by
    rcases List.mem_append.mp hmem with hmem | hmem
    · exact hi.commands m addr hmem
    · obtain ⟨rfl, rfl⟩ : m = n' ∧ Operation.getDatabase addr = o := by simpa using hmem
      exact ho addr rfl
  assembly := by
    obtain ⟨views, hreported, ha⟩ := hi.assembly
    refine ⟨views, hreported, ?_⟩
    rw [List.filterMap_append, show [Send.router (.execute n' o)].filterMap (Send.source? n) = []
      from rfl, List.append_nil]
    exact ha.quiet rfl rfl (List.Perm.refl _)

/-- A database without a pending snapshot, and nothing about one under way. -/
theorem SnapshotBook.fresh (hfl : s.InFlight flight)
    (hp : ∀ n', s.router.pendingDbSnapshots n' = none) (hsource : ∀ y ∈ flight, y.source? n = none)
    (hcmd : ∀ n' addr, .router (.execute n' (.getDatabase addr)) ∉ flight) :
    SnapshotBook n s.views s flight [] where
  inFlight := hfl
  others n' _ := hp n'
  commands n' addr hmem := absurd hmem (hcmd n' addr)
  assembly := ⟨[], (List.append_nil _).symm, .idle (hp n) (silent_of_forall hsource) .nil⟩

/-- **At rest every snapshot asked for is reported**, in order and complete. -/
theorem SnapshotBook.quiescent (hi : SnapshotBook n old s flight asked) (hq : s.Quiescent) :
    ∃ views, s.views = old ++ views ∧ List.Forall₂ Ask.Complete asked views := by
  obtain ⟨views, hreported, ha⟩ := hi.assembly
  refine ⟨views, hreported, ?_⟩
  -- nothing is on its way to an actor
  have hnone : flight.filterMap (Send.source? n) = [] := by
    refine silent_of_forall fun y hy => ?_
    by_contra hsome
    have hdest : y.dest ≠ .node := by
      intro hnode
      cases y with
      | event e => exact hsome rfl
      | _ => cases hnode
    have hbox := (hi.inFlight y.dest hdest).symm.trans (ActorDb.quiescent_iff.mp hq y.dest hdest)
    have hmem : y ∈ mailFor y.dest flight := List.mem_filter.mpr ⟨hy, decide_eq_true rfl⟩
    rw [hbox] at hmem
    cases hmem
  rw [hnone] at ha
  cases ha with
  | idle _ _ hv => exact hv
  | «open» done x p hasked hp hop hacc hcards hperm hmissing hv =>
    -- then the open one has all its fragments, and is not open
    rw [List.nil_append] at hperm
    have hcomplete := PendingDatabaseSnapshot.complete hperm p.addr
    have hlena := hcomplete.accounts.length_eq
    have hlenc := hcomplete.cards.length_eq
    rw [List.length_map] at hlena hlenc
    exact absurd ⟨hlena.trans hacc.symm, hlenc.trans hcards.symm⟩ hmissing

end YpfRuta.Actors
