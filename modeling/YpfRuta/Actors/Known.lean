/-
  Only actors the router knows have mail. An actor it has not created yet is in
  its initial state, and its mailbox is empty.
-/
import YpfRuta.Actors.Origin
import YpfRuta.Actors.CardFlow
import YpfRuta.Actors.AccountFlow
import YpfRuta.Actors.RouterFlow

namespace YpfRuta.Actors

open Lib

variable {Amount : Type} [Currency Amount]

namespace ActorRouter

/-- The router `r'` knows every actor `r` knows. -/
structure Extends (r r' : ActorRouter) : Prop where
  accounts : ∀ a ∈ r.accounts, a ∈ r'.accounts
  cards : ∀ k ∈ r.cards, k ∈ r'.cards

/-- Every known card belongs to a known account. -/
def CardsKnown (r : ActorRouter) : Prop := ∀ k ∈ r.cards, k.1 ∈ r.accounts

/-- The addressee of a send is known. -/
def Addresses (r : ActorRouter) : Send → Prop
  | .account a _ => a ∈ r.accounts
  | .card k _ => k ∈ r.cards
  | _ => True

theorem Extends.refl (r : ActorRouter) : r.Extends r := ⟨fun _ h => h, fun _ h => h⟩

theorem Extends.trans {r r' r'' : ActorRouter} (h : r.Extends r') (h' : r'.Extends r'') :
    r.Extends r'' :=
  ⟨fun a ha => h'.accounts a (h.accounts a ha), fun k hk => h'.cards k (h.cards k hk)⟩

theorem getOrCreateAccount_extends (r : ActorRouter) (a : AccountId) :
    r.Extends (r.getOrCreateAccount a) ∧ a ∈ (r.getOrCreateAccount a).accounts :=
  ⟨⟨fun b hb => by simp [getOrCreateAccount, hb], fun _ hk => hk⟩, by simp [getOrCreateAccount]⟩

theorem getOrCreateAccount_cardsKnown {r : ActorRouter} (h : r.CardsKnown) (a : AccountId) :
    (r.getOrCreateAccount a).CardsKnown := fun k hk =>
  (getOrCreateAccount_extends r a).1.accounts k.1 (h k hk)

theorem getOrCreateCard_extends (r : ActorRouter) (a : AccountId) (c : CardId) :
    r.Extends (r.getOrCreateCard a c) ∧ (a, c) ∈ (r.getOrCreateCard a c).cards := by
  unfold getOrCreateCard
  split
  · rename_i h
    exact ⟨.refl r, h⟩
  · refine ⟨⟨fun b hb => ?_, fun k hk => ?_⟩, ?_⟩
    · simp [getOrCreateAccount, hb]
    · simp [getOrCreateAccount, hk]
    · simp

theorem getOrCreateCard_cardsKnown {r : ActorRouter} (h : r.CardsKnown) (a : AccountId)
    (c : CardId) : (r.getOrCreateCard a c).CardsKnown := by
  unfold getOrCreateCard
  split
  · exact h
  · intro k hk
    simp only [getOrCreateAccount, Keys.mem_insert] at hk ⊢
    obtain hk | rfl := hk
    · exact Or.inl (h k hk)
    · exact Or.inr rfl

/-- Creating the actors of a list keeps what was known, and makes each of them known. -/
theorem foldl_extends {β : Type} {f : ActorRouter → β → ActorRouter} {q : ActorRouter → β → Prop}
    (hf : ∀ r x, r.Extends (f r x) ∧ q (f r x) x)
    (hq : ∀ r r' x, r.Extends r' → q r x → q r' x) (xs : List β) (r : ActorRouter) :
    r.Extends (xs.foldl f r) ∧ ∀ x ∈ xs, q (xs.foldl f r) x := by
  induction xs generalizing r with
  | nil => exact ⟨.refl r, by simp⟩
  | cons x xs ih =>
    obtain ⟨hext, hall⟩ := ih (f r x)
    refine ⟨(hf r x).1.trans hext, ?_⟩
    intro y hy
    obtain rfl | hy := List.mem_cons.mp hy
    · exact hq _ _ _ hext (hf r y).2
    · exact hall y hy

theorem foldl_cardsKnown {β : Type} {f : ActorRouter → β → ActorRouter}
    (hf : ∀ r x, r.CardsKnown → (f r x).CardsKnown) (xs : List β) {r : ActorRouter}
    (h : r.CardsKnown) : (xs.foldl f r).CardsKnown := by
  induction xs generalizing r with
  | nil => exact h
  | cons x xs ih => exact ih (hf r x h)

theorem queryCards_addresses (r : ActorRouter) (n : OpId) (a : AccountId) (start : AccountMsg)
    (billing : Bool) (ha : a ∈ r.accounts) :
    ∀ x ∈ r.queryCards n a start billing, r.Addresses x := by
  intro x hx
  obtain rfl | hx := List.mem_cons.mp hx
  · exact ha
  · obtain ⟨c, hc, rfl⟩ := List.mem_map.mp hx
    obtain ⟨k, hk, rfl⟩ := List.mem_map.mp hc
    obtain ⟨hk, hka⟩ := List.mem_filter.mp hk
    have hkey : (a, k.2) = k := by simp [← of_decide_eq_true hka]
    show (a, k.2) ∈ r.cards
    rw [hkey]
    exact hk

/-- **A command writes to actors the router then knows.** -/
theorem execute_known (r : ActorRouter) (n : OpId) (o : Operation Amount) (h : r.CardsKnown) :
    r.Extends (r.execute n o).1 ∧ (r.execute n o).1.CardsKnown ∧
      ∀ x ∈ (r.execute n o).2, (r.execute n o).1.Addresses x := by
  cases o with
  | charge a c amount off =>
    obtain ⟨hext, hmem⟩ := getOrCreateCard_extends
      { r with operations := Function.update r.operations n (some (.charge a c amount off)) } a c
    refine ⟨⟨hext.accounts, hext.cards⟩, getOrCreateCard_cardsKnown
      (r := { r with operations := Function.update r.operations n (some (.charge a c amount off)) })
      h a c, ?_⟩
    intro x hx
    obtain rfl := List.mem_singleton.mp hx
    exact hmem
  | limitAccount a lim =>
    obtain ⟨hext, hmem⟩ := getOrCreateAccount_extends
      { r with operations := Function.update r.operations n (some (.limitAccount a lim)) } a
    refine ⟨⟨hext.accounts, hext.cards⟩, getOrCreateAccount_cardsKnown h a, ?_⟩
    intro x hx
    obtain rfl := List.mem_singleton.mp hx
    exact hmem
  | limitCard a c lim =>
    obtain ⟨hext, hmem⟩ := getOrCreateCard_extends
      { r with operations := Function.update r.operations n (some (.limitCard a c lim)) } a c
    refine ⟨⟨hext.accounts, hext.cards⟩, getOrCreateCard_cardsKnown
      (r := { r with operations := Function.update r.operations n (some (.limitCard a c lim)) })
      h a c, ?_⟩
    intro x hx
    obtain rfl := List.mem_singleton.mp hx
    exact hmem
  | accountQuery a =>
    obtain ⟨hext, hmem⟩ := getOrCreateAccount_extends
      { r with operations := Function.update r.operations n (some (.accountQuery a)) } a
    exact ⟨⟨hext.accounts, hext.cards⟩, getOrCreateAccount_cardsKnown h a,
      queryCards_addresses _ n a _ _ hmem⟩
  | bill a period =>
    obtain ⟨hext, hmem⟩ := getOrCreateAccount_extends
      { r with operations := Function.update r.operations n (some (.bill a period)) } a
    exact ⟨⟨hext.accounts, hext.cards⟩, getOrCreateAccount_cardsKnown h a,
      queryCards_addresses _ n a _ _ hmem⟩
  | getDatabase addr =>
    simp only [execute, executeGetDatabase]
    split
    · exact ⟨⟨fun _ h => h, fun _ h => h⟩, h, by simp [Addresses]⟩
    · refine ⟨⟨fun _ h => h, fun _ h => h⟩, h, ?_⟩
      intro x hx
      obtain hx | hx := List.mem_append.mp hx <;> obtain ⟨y, hy, rfl⟩ := List.mem_map.mp hx <;>
        exact hy
  | replaceDatabase snapshot =>
    obtain ⟨hext, hacc⟩ := foldl_extends (q := fun r (s : AccountSnapshot Amount) =>
        s.accountId ∈ r.accounts)
      (fun r s => getOrCreateAccount_extends r s.accountId)
      (fun _ _ _ he hm => he.accounts _ hm) snapshot.accounts
      { r with operations := Function.update r.operations n (some (.replaceDatabase snapshot)) }
    obtain ⟨hext', hcards⟩ := foldl_extends (q := fun r (s : CardSnapshot Amount) =>
        (s.accountId, s.cardId) ∈ r.cards)
      (fun r s => getOrCreateCard_extends r s.accountId s.cardId)
      (fun _ _ _ he hm => he.cards _ hm) snapshot.cards _
    have hall := hext.trans hext'
    refine ⟨⟨hall.accounts, hall.cards⟩, foldl_cardsKnown (fun r s hr =>
      getOrCreateCard_cardsKnown hr s.accountId s.cardId) _ (foldl_cardsKnown (fun r s hr =>
        getOrCreateAccount_cardsKnown hr s.accountId) _ h), ?_⟩
    intro x hx
    simp only [execute, executeReplaceDatabase, List.mem_append, List.mem_map,
      List.mem_singleton] at hx
    obtain (⟨y, hy, rfl⟩ | ⟨y, hy, rfl⟩) | rfl := hx
    · exact hext'.accounts _ (hacc y hy)
    · exact hcards y hy
    · exact True.intro

/-- A message that is not a command leaves the known actors alone. -/
theorem handle_keys (r : ActorRouter) (m : RouterMsg) (hm : ∀ n o, m ≠ .execute n o) :
    (r.handle m).1.accounts = r.accounts ∧ (r.handle m).1.cards = r.cards := by
  have htry : ∀ (r' : ActorRouter) n, (r'.tryCompleteDbSnapshot n).1.accounts = r'.accounts ∧
      (r'.tryCompleteDbSnapshot n).1.cards = r'.cards := by
    intro r' n
    unfold tryCompleteDbSnapshot
    split
    · exact ⟨rfl, rfl⟩
    · dsimp only
      split
      · split <;> exact ⟨rfl, rfl⟩
      · exact ⟨rfl, rfl⟩
  cases m with
  | execute n o => exact absurd rfl (hm n o)
  | operationCompleted n b e =>
    simp only [handle, operationCompleted]
    split
    · exact ⟨rfl, rfl⟩
    · split <;> exact ⟨rfl, rfl⟩
  | accountQueryCompleted n a t l =>
    simp only [handle, accountQueryCompleted]
    split <;> exact ⟨rfl, rfl⟩
  | accountSnapshotCollected n s =>
    simp only [handle, accountSnapshotCollected]
    split
    · exact htry _ n
    · exact ⟨rfl, rfl⟩
  | cardSnapshotCollected n s =>
    simp only [handle, cardSnapshotCollected]
    split
    · exact htry _ n
    · exact ⟨rfl, rfl⟩
  | _ => exact ⟨rfl, rfl⟩

/-- A message that replaces no snapshot makes at most one card known. -/
theorem handle_cards (r : ActorRouter) (m : RouterMsg)
    (hm : ∀ n snapshot, m ≠ .execute n (.replaceDatabase snapshot)) :
    (r.handle m).1.cards = r.cards ∨ ∃ k, (r.handle m).1.cards = r.cards.insert k := by
  have hcreate : ∀ (r : ActorRouter) a c,
      (r.getOrCreateCard a c).cards = r.cards ∨ ∃ k, (r.getOrCreateCard a c).cards = r.cards.insert k := by
    intro r a c
    unfold getOrCreateCard
    split
    · exact Or.inl rfl
    · exact Or.inr ⟨(a, c), rfl⟩
  by_cases hexec : ∃ n o, m = .execute n o
  · obtain ⟨n, o, rfl⟩ := hexec
    cases o with
    | charge a c amount off =>
      exact hcreate { r with
        operations := Function.update r.operations n (some (.charge a c amount off)) } a c
    | limitCard a c lim =>
      exact hcreate { r with
        operations := Function.update r.operations n (some (.limitCard a c lim)) } a c
    | getDatabase addr =>
      simp only [handle, execute, executeGetDatabase]
      split <;> exact Or.inl rfl
    | replaceDatabase snapshot => exact absurd rfl (hm n snapshot)
    | _ => exact Or.inl rfl
  · exact Or.inl (handle_keys r m fun n o he => hexec ⟨n, o, he⟩).2

theorem handle_known (r : ActorRouter) (m : RouterMsg) (h : r.CardsKnown) :
    r.Extends (r.handle m).1 ∧ (r.handle m).1.CardsKnown ∧
      ∀ x ∈ (r.handle m).2, (r.handle m).1.Addresses x := by
  by_cases hexec : ∃ n o, m = .execute n o
  · obtain ⟨n, o, rfl⟩ := hexec
    exact execute_known r n o h
  · have hne : ∀ n o, m ≠ .execute n o := fun n o he => hexec ⟨n, o, he⟩
    obtain ⟨hacc, hcards⟩ := handle_keys r m hne
    refine ⟨⟨fun a ha => hacc ▸ ha, fun k hk => hcards ▸ hk⟩, ?_, ?_⟩
    · intro k hk
      rw [hacc]
      exact h k (hcards ▸ hk)
    · intro x hx
      have hev : ∃ e, x = .event e := by
        have hrep := handle_reports r m hne
        generalize r.handle m = out at hrep hx
        cases hrep with
        | result =>
          obtain rfl := List.mem_singleton.mp hx
          exact ⟨_, rfl⟩
        | quiet =>
          obtain ⟨e, -, rfl⟩ := List.mem_map.mp hx
          exact ⟨e, rfl⟩
        | panic => cases hx
      obtain ⟨e, rfl⟩ := hev
      exact True.intro

end ActorRouter

/-- **Mail goes to known actors**, and what the router does not know has never run. -/
structure Known (s : ActorDb) : Prop where
  cards : s.router.CardsKnown
  accountBox : ∀ a, s.accountBox a ≠ [] → a ∈ s.router.accounts
  cardBox : ∀ k, s.cardBox k ≠ [] → k ∈ s.router.cards
  /-- A charge request names a known card to reply to. -/
  replyTo : ∀ a, ∀ m ∈ s.accountBox a, ∀ n amount c off k,
    m = .applyChargeFromCard n amount c off k → k ∈ s.router.cards
  account : ∀ a, ¬ a ∈ s.router.accounts → s.account a = .new a
  card : ∀ k, ¬ k ∈ s.router.cards → s.card k = .new k.2 k.1

namespace Known

theorem init : Known ActorDb.init where
  cards := by
    intro k hk
    exact absurd hk (Keys.not_mem_empty k)
  accountBox a h := absurd rfl h
  cardBox k h := absurd rfl h
  replyTo := by simp [ActorDb.init]
  account _ _ := rfl
  card _ _ := rfl

/-- Delivering to known actors keeps `Known`. -/
theorem deliver {s : ActorDb} {sends : List Send} (h : Known s)
    (hs : ∀ x ∈ sends, s.router.Addresses x)
    (hreply : ∀ a n amount c off k, .account a (.applyChargeFromCard n amount c off k) ∈ sends →
      k ∈ s.router.cards) : Known (s.deliver sends) := by
  have hacc : ∀ a m, m ∈ sends.filterMap (Send.toAccount? a) → .account a m ∈ sends := by
    intro a m hm
    obtain ⟨x, hx, hxm⟩ := List.mem_filterMap.mp hm
    cases x <;> simp only [Send.toAccount?, Option.ite_none_right_eq_some, Option.some.injEq,
      reduceCtorEq] at hxm
    obtain ⟨rfl, rfl⟩ := hxm
    exact hx
  have hcard : ∀ k m, m ∈ sends.filterMap (Send.toCard? k) → .card k m ∈ sends := by
    intro k m hm
    obtain ⟨x, hx, hxm⟩ := List.mem_filterMap.mp hm
    cases x <;> simp only [Send.toCard?, Option.ite_none_right_eq_some, Option.some.injEq,
      reduceCtorEq] at hxm
    obtain ⟨rfl, rfl⟩ := hxm
    exact hx
  refine ⟨h.cards, ?_, ?_, ?_, h.account, h.card⟩
  · intro a hne
    obtain ⟨m, hm⟩ := List.exists_mem_of_ne_nil _ hne
    obtain hm | hm := List.mem_append.mp hm
    · exact h.accountBox a (List.ne_nil_of_mem hm)
    · exact hs _ (hacc a m hm)
  · intro k hne
    obtain ⟨m, hm⟩ := List.exists_mem_of_ne_nil _ hne
    obtain hm | hm := List.mem_append.mp hm
    · exact h.cardBox k (List.ne_nil_of_mem hm)
    · exact hs _ (hcard k m hm)
  · rintro a m hm n amount c off k rfl
    obtain hm | hm := List.mem_append.mp hm
    · exact h.replyTo a _ hm n amount c off k rfl
    · exact hreply a n amount c off k (hacc a _ hm)

theorem step {K : OpId → Operation Amount → Prop} {s s' : ActorDb} {l : Label} (hi : Known s)
    (ho : (originInv K).Holds s) (h : s.step l = some s') : Known s' := by
  obtain ⟨n, o, rfl, rfl⟩ | ⟨m, rest, rfl, hbox, -, rfl⟩ | ⟨a, m, rest, rfl, hbox, rfl⟩ |
    ⟨k, m, rest, rfl, hbox, rfl⟩ := ActorDb.step_cases h
  · exact ⟨hi.cards, hi.accountBox, hi.cardBox, hi.replyTo, hi.account, hi.card⟩
  · obtain ⟨hext, hcards, haddr⟩ := ActorRouter.handle_known s.router m hi.cards
    refine Known.deliver ?_ haddr ?_
    · exact {
        cards := hcards
        accountBox := fun a hne => hext.accounts a (hi.accountBox a hne)
        cardBox := fun k hne => hext.cards k (hi.cardBox k hne)
        replyTo := fun a m hm n amount c off k he =>
          hext.cards k (hi.replyTo a m hm n amount c off k he)
        account := fun a ha => hi.account a fun hmem => ha (hext.accounts a hmem)
        card := fun k hk => hi.card k fun hmem => hk (hext.cards k hmem) }
    · intro a n amount c off k hx
      -- the router itself never asks for a charge
      have hzero := ActorRouter.handle_applies s.router m a n
      rw [List.countP_eq_zero] at hzero
      exact absurd (hzero _ hx) (by simp [Send.onAccount, AccountMsg.applies])
  · have hmem : m ∈ s.accountBox a := by rw [hbox]; exact List.mem_cons_self
    have hknown : a ∈ s.router.accounts := hi.accountBox a (List.ne_nil_of_mem hmem)
    refine Known.deliver ?_ ?_ ?_
    · refine ⟨hi.cards, ?_, hi.cardBox, ?_, ?_, hi.card⟩
      · intro b hne
        by_cases hb : b = a
        · exact hb ▸ hknown
        · simp only [Function.update_of_ne hb] at hne
          exact hi.accountBox b hne
      · intro b m' hm'
        by_cases hb : b = a
        · subst hb
          simp only [Function.update_self] at hm'
          exact hi.replyTo b m' (by rw [hbox]; exact List.mem_cons_of_mem _ hm')
        · simp only [Function.update_of_ne hb] at hm'
          exact hi.replyTo b m' hm'
      · intro b hb
        have hne : b ≠ a := fun he => hb (he ▸ hknown)
        simp only [Function.update_of_ne hne]
        exact hi.account b hb
    · intro x hx
      cases x with
      | router m' => exact True.intro
      | event e => exact True.intro
      | account b m' =>
        have := AccountActor.handle_emits _ m _ hx
        cases this
      | card k m' =>
        obtain ⟨n, amount, c, off, rfl⟩ := AccountActor.handle_toCard hx
        exact hi.replyTo a _ hmem n amount c off k rfl
    · intro b n amount c off k hx
      have := AccountActor.handle_emits _ m _ hx
      cases this
  · have hmem : m ∈ s.cardBox k := by rw [hbox]; exact List.mem_cons_self
    have hknown : k ∈ s.router.cards := hi.cardBox k (List.ne_nil_of_mem hmem)
    have hkey : ((s.card k).accountId, (s.card k).cardId) = k := by
      rw [(ho.card k).accountId, (ho.card k).cardId]
    refine Known.deliver ?_ ?_ ?_
    · refine ⟨hi.cards, hi.accountBox, ?_, hi.replyTo, hi.account, ?_⟩
      · intro j hne
        by_cases hj : j = k
        · exact hj ▸ hknown
        · simp only [Function.update_of_ne hj] at hne
          exact hi.cardBox j hne
      · intro j hj
        have hne : j ≠ k := fun he => hj (he ▸ hknown)
        simp only [Function.update_of_ne hne]
        exact hi.card j hj
    · intro x hx
      have hacc : (s.card k).accountId ∈ s.router.accounts := by
        rw [(ho.card k).accountId]
        exact hi.cards k hknown
      cases CardActor.handle_emits _ m x hx with
      | apply op => exact hacc
      | reply n con => exact hacc
      | _ => exact True.intro
    · intro b n amount c off j hx
      generalize hy : Send.account b (.applyChargeFromCard n amount c off j) = y at hx
      cases CardActor.handle_emits _ m y hx <;> cases hy
      rw [hkey]
      exact hknown

end Known

/-- Mail goes to known actors in every reachable state. -/
theorem known_reaches {s : ActorDb} (hr : Reaches ActorDb.step ActorDb.init s) : Known s :=
  (reaches_induct hr origin_init Known.init fun _ _ _ ho _ hi h => hi.step ho h).2

/-- Nothing is under way to the router or to an actor it knows. -/
def ActorDb.Drained (s : ActorDb) : Prop :=
  s.routerBox = [] ∧ (∀ a ∈ s.router.accounts.toList, s.accountBox a = []) ∧
    ∀ k ∈ s.router.cards.toList, s.cardBox k = []

instance (s : ActorDb) : Decidable s.Drained :=
  have : Decidable (∀ a ∈ s.router.accounts.toList, s.accountBox a = []) := List.decidableBAll _ _
  have : Decidable (∀ k ∈ s.router.cards.toList, s.cardBox k = []) := List.decidableBAll _ _
  inferInstanceAs (Decidable (_ ∧ _))

/-- Whether a reachable state is quiescent can be read off the known actors. -/
theorem quiescent_of_known {s : ActorDb} (h : Known s) (hd : s.Drained) : s.Quiescent where
  router := hd.1
  account a := by
    by_contra hne
    exact hne (hd.2.1 a (h.accountBox a hne))
  card k := by
    by_contra hne
    exact hne (hd.2.2 k (h.cardBox k hne))

end YpfRuta.Actors
