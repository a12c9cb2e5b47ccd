/-
  The books kept for one operation `n` over a run: where `n` is (`TaskBook`,
  `LimitBook`), that a charge in flight is one message between card and account
  (`FlightBook`), that an approval is an amount added (`ChargeBook`), and that a
  report becomes a result (`ResultBook`). Every step balances them.
-/
import Mathlib.Data.List.Count
import YpfRuta.Actors.Started

namespace YpfRuta.Actors

open Lib

variable {Amount : Type} [Currency Amount]

variable {K : OpId → Operation Amount → Prop} {n : OpId} {k : CardKey} {a : AccountId}
  {s s' : ActorDb} {l : Label}

/-- How often `n` was reported to the router. -/
def ActorDb.completed (s : ActorDb) (n : OpId) : Nat := s.reported.countP (RouterMsg.completes n)

/-! ## Where a task is -/

/-- A command for card `k` is still at the router, at the card, or reported. -/
def TaskBook (n : OpId) (k : CardKey) (s : ActorDb) : Prop :=
  s.routerBox.countP (RouterMsg.executes n) + (s.cardBox k).countP (CardMsg.brings n) +
    (s.card k).tasks n + s.completed n = s.commanded n

/-- A limit change of account `a` is still at the router, at the account, or reported. -/
def LimitBook (n : OpId) (a : AccountId) (s : ActorDb) : Prop :=
  s.routerBox.countP (RouterMsg.executes n) + (s.accountBox a).countP (AccountMsg.limits n) +
    s.completed n = s.commanded n

/-- A command goes to the card it is a task of. -/
theorem ActorRouter.execute_brings (r : ActorRouter) (n' : OpId) (o : Operation Amount)
    (ho : n' = n → cardKey? o = some k) :
    (r.execute n' o).2.countP (Send.onCard k (CardMsg.brings n)) = if n' = n then 1 else 0 := by
  by_cases hn : n' = n
  · have hk := ho hn
    subst hn
    cases o <;> simp only [cardKey?, Option.some.injEq, reduceCtorEq] at hk <;> subst hk <;>
      simp [execute, Send.onCard, CardMsg.brings]
  · rw [if_neg hn]
    refine ActorRouter.execute_countP ?_
    intro x hx
    cases hx <;> simp [Send.onCard, CardMsg.brings, hn]

theorem ActorRouter.execute_limits (r : ActorRouter) (n' : OpId) (o : Operation Amount)
    (ho : n' = n → limitedAccount? o = some a) :
    (r.execute n' o).2.countP (Send.onAccount a (AccountMsg.limits n)) =
      if n' = n then 1 else 0 := by
  by_cases hn : n' = n
  · have hk := ho hn
    subst hn
    cases o <;> simp only [limitedAccount?, Option.some.injEq, reduceCtorEq] at hk
    subst hk
    simp [execute, Send.onAccount, AccountMsg.limits]
  · rw [if_neg hn]
    refine ActorRouter.execute_countP ?_
    intro x hx
    cases hx <;> simp [Send.onAccount, AccountMsg.limits, hn]

/-- A card holds no task that belongs to another card. -/
theorem CardOrigin.tasks_eq_zero {k' : CardKey} {c : CardActor} (h : CardOrigin K k' c)
    (hk : ∀ o, K n o → cardKey? o ≠ some k') : c.tasks n = 0 := by
  have hno : ∀ t, TaskOrigin K k' t → CardTask.is n t = false := by
    intro t ht
    cases t with
    | charge op =>
      by_contra hne
      have hn : op.opId = n := by simpa [CardTask.is, CardTask.opId] using hne
      subst hn
      exact hk _ ht rfl
    | limitChange n' lim =>
      by_contra hne
      have hn : n' = n := by simpa [CardTask.is, CardTask.opId] using hne
      subst hn
      exact hk _ ht rfl
  have hcur : c.currentTask.toList.countP (CardTask.is n) = 0 := by
    rw [List.countP_eq_zero]
    intro t ht
    simp [hno t (h.current t (by simpa using ht))]
  have hqueue : c.queue.countP (CardTask.is n) = 0 := by
    rw [List.countP_eq_zero]
    intro t ht
    simp [hno t (h.queue t ht)]
  rw [CardActor.tasks, hcur, hqueue]

/-- A message to a card brings no task that belongs to another card. -/
theorem cardMsgOrigin.brings_eq_false {k' : CardKey} {m : CardMsg} (h : cardMsgOrigin K k' m)
    (hk : ∀ o, K n o → cardKey? o ≠ some k') : m.brings n = false := by
  cases m with
  | executeCharge n' a c amount off =>
    by_contra hne
    have hn : n' = n := by simpa [CardMsg.brings] using hne
    obtain ⟨rfl, ho⟩ := h
    exact hk _ (hn ▸ ho) rfl
  | executeLimitChange n' lim =>
    by_contra hne
    have hn : n' = n := by simpa [CardMsg.brings] using hne
    exact hk _ (hn ▸ h) rfl
  | _ => rfl

theorem cardMsgOrigin.not_replaceState {k' : CardKey} {m : CardMsg} (h : cardMsgOrigin K k' m)
    (hrep : ∀ n snapshot, ¬ K n (.replaceDatabase snapshot)) :
    ∀ lim con, m ≠ .replaceState lim con := by
  rintro lim con rfl
  obtain ⟨n, snapshot, hk, -⟩ := h
  exact hrep n snapshot hk

/-- What a card that is not `k` reports is not a task of card `k`. -/
theorem CardOrigin.completes_eq_zero {k' : CardKey} {c : CardActor} {m : CardMsg}
    (h : CardOrigin K k' c) (hm : cardMsgOrigin K k' m)
    (hrep : ∀ n snapshot, ¬ K n (.replaceDatabase snapshot))
    (hk : ∀ o, K n o → cardKey? o ≠ some k') :
    (c.handle m).2.countP (Send.onRouter (RouterMsg.completes n)) = 0 := by
  have hflow := CardActor.handle_tasks n c m (hm.not_replaceState hrep)
  rw [hm.brings_eq_false hk, h.tasks_eq_zero hk] at hflow
  simp only [Bool.false_eq_true, if_false] at hflow
  omega

/-- An account reports no task of a card. -/
theorem accountMsgOrigin.limits_eq_false {m : AccountMsg} (h : accountMsgOrigin K a m)
    (hk : ∀ o, K n o → limitedAccount? o ≠ some a) : m.limits n = false := by
  cases m with
  | applyAccountLimit n' lim =>
    by_contra hne
    have hn : n' = n := by simpa [AccountMsg.limits] using hne
    subst hn
    exact hk _ h rfl
  | _ => rfl

theorem RouterMsg.executes_eq_false {m : RouterMsg} (hm : ∀ n o, m ≠ .execute n o) (n : OpId) :
    m.executes n = false := by
  cases m with
  | execute n' o => exact absurd rfl (hm n' o)
  | _ => rfl

theorem TaskBook.step (hk : ∀ o, K n o → cardKey? o = some k)
    (hrep : ∀ n snapshot, ¬ K n (.replaceDatabase snapshot)) (ho : (originInv K).Holds s)
    (hi : TaskBook n k s) (h : s.step l = some s') : TaskBook n k s' := by
  unfold TaskBook ActorDb.completed ActorDb.commanded at hi ⊢
  obtain ⟨n', o, rfl, rfl⟩ | ⟨m, rest, rfl, hbox, -, rfl⟩ | ⟨a, m, rest, rfl, hbox, rfl⟩ |
    ⟨k', m, rest, rfl, hbox, rfl⟩ := ActorDb.step_cases h
  · simp only [ActorDb.execute, List.countP_append, List.countP_singleton, RouterMsg.executes,
      beq_iff_eq]
    omega
  · have hm : routerMsgOrigin K m := ho.routerBox m (by rw [hbox]; exact List.mem_cons_self)
    rw [hbox] at hi
    simp only [ActorDb.routerStep, ActorDb.deliver, List.countP_append, countP_toRouter,
      countP_toCard, List.countP_cons, ActorRouter.handle_onRouter] at hi ⊢
    by_cases hm' : ∃ n' o, m = .execute n' o
    · obtain ⟨n', o, rfl⟩ := hm'
      have hb := ActorRouter.execute_brings (n := n) (k := k) s.router n' o
        (fun hn => hk o (hn ▸ hm))
      simp only [ActorRouter.handle, RouterMsg.executes, beq_iff_eq, hb] at hi ⊢
      omega
    · have hne : ∀ n o, m ≠ .execute n o := fun n o he => hm' ⟨n, o, he⟩
      have hb : (s.router.handle m).2.countP (Send.onCard k (CardMsg.brings n)) = 0 :=
        ActorRouter.handle_events hne fun _ => rfl
      simp only [hb, RouterMsg.executes_eq_false hne, Bool.false_eq_true, if_false] at hi ⊢
      omega
  · have hm := ho.accountBox a m (by rw [hbox]; exact List.mem_cons_self)
    have hlim : m.limits n = false := accountMsgOrigin.limits_eq_false hm fun o hko hlim => by
      have hcard := hk o hko
      cases o <;> simp [cardKey?, limitedAccount?] at hcard hlim
    have hdone := AccountActor.handle_completes n (s.account a) m
    simp only [ActorDb.accountStep, ActorDb.deliver, List.countP_append, countP_toRouter,
      countP_toCard, AccountActor.handle_executes, AccountActor.handle_brings, hdone, hlim,
      Bool.false_eq_true, if_false]
    omega
  · have hm := ho.cardBox k' m (by rw [hbox]; exact List.mem_cons_self)
    simp only [ActorDb.cardStep, ActorDb.deliver, List.countP_append, countP_toRouter,
      countP_toCard, CardActor.handle_executes, CardActor.handle_onCard]
    by_cases hkk : k = k'
    · subst hkk
      have hflow := CardActor.handle_tasks n (s.card k) m (hm.not_replaceState hrep)
      rw [hbox] at hi
      simp only [Function.update_self, List.countP_cons] at hi ⊢
      omega
    · have hdone := (ho.card k').completes_eq_zero hm hrep
        (fun o hko he => hkk (Option.some.inj ((hk o hko).symm.trans he)))
      simp only [Function.update_of_ne hkk, hdone]
      omega

theorem LimitBook.step (ha : ∀ o, K n o → limitedAccount? o = some a)
    (hrep : ∀ n snapshot, ¬ K n (.replaceDatabase snapshot)) (ho : (originInv K).Holds s)
    (hi : LimitBook n a s) (h : s.step l = some s') : LimitBook n a s' := by
  unfold LimitBook ActorDb.completed ActorDb.commanded at hi ⊢
  obtain ⟨n', o, rfl, rfl⟩ | ⟨m, rest, rfl, hbox, -, rfl⟩ | ⟨a', m, rest, rfl, hbox, rfl⟩ |
    ⟨k', m, rest, rfl, hbox, rfl⟩ := ActorDb.step_cases h
  · simp only [ActorDb.execute, List.countP_append, List.countP_singleton, RouterMsg.executes,
      beq_iff_eq]
    omega
  · have hm : routerMsgOrigin K m := ho.routerBox m (by rw [hbox]; exact List.mem_cons_self)
    rw [hbox] at hi
    simp only [ActorDb.routerStep, ActorDb.deliver, List.countP_append, countP_toRouter,
      countP_toAccount, List.countP_cons, ActorRouter.handle_onRouter] at hi ⊢
    by_cases hm' : ∃ n' o, m = .execute n' o
    · obtain ⟨n', o, rfl⟩ := hm'
      have hb := ActorRouter.execute_limits (n := n) (a := a) s.router n' o
        (fun hn => ha o (hn ▸ hm))
      simp only [ActorRouter.handle, RouterMsg.executes, beq_iff_eq, hb] at hi ⊢
      omega
    · have hne : ∀ n o, m ≠ .execute n o := fun n o he => hm' ⟨n, o, he⟩
      have hb : (s.router.handle m).2.countP (Send.onAccount a (AccountMsg.limits n)) = 0 :=
        ActorRouter.handle_events hne fun _ => rfl
      simp only [hb, RouterMsg.executes_eq_false hne, Bool.false_eq_true, if_false] at hi ⊢
      omega
  · have hm := ho.accountBox a' m (by rw [hbox]; exact List.mem_cons_self)
    have hdone := AccountActor.handle_completes n (s.account a') m
    simp only [ActorDb.accountStep, ActorDb.deliver, List.countP_append, countP_toRouter,
      countP_toAccount, AccountActor.handle_executes, AccountActor.handle_onAccount, hdone]
    by_cases haa : a = a'
    · subst haa
      rw [hbox] at hi
      simp only [Function.update_self, List.countP_cons] at hi ⊢
      omega
    · have hlim : m.limits n = false := accountMsgOrigin.limits_eq_false hm fun o hko he =>
        haa (Option.some.inj ((ha o hko).symm.trans he))
      simp only [Function.update_of_ne haa, hlim, Bool.false_eq_true, if_false]
      omega
  · have hm := ho.cardBox k' m (by rw [hbox]; exact List.mem_cons_self)
    have hdone := (ho.card k').completes_eq_zero (n := n) hm hrep fun o hko he => by
      have hlim := ha o hko
      cases o <;> simp [cardKey?, limitedAccount?] at he hlim
    simp only [ActorDb.cardStep, ActorDb.deliver, List.countP_append, countP_toRouter,
      countP_toAccount, CardActor.handle_executes, CardActor.handle_limits, hdone]
    omega

/-! ## A charge in flight -/

/-- A charge in flight at card `k` is one request at the account or one reply
    back at the card. -/
def FlightBook (n : OpId) (k : CardKey) (s : ActorDb) : Prop :=
  (s.accountBox k.1).countP (AccountMsg.applies n) + (s.cardBox k).countP (CardMsg.replies n) =
    (s.card k).inFlight n

theorem CardActor.inFlight_le_one (c : CardActor) (n : OpId) : c.inFlight n ≤ 1 := by
  unfold CardActor.inFlight
  split
  · split <;> omega
  · omega

theorem CardActor.inFlight_le_tasks (c : CardActor) (n : OpId) : c.inFlight n ≤ c.tasks n := by
  unfold CardActor.inFlight
  split
  · rename_i op hop
    simp only [CardActor.tasks, hop, CardTask.is, CardTask.opId, Option.toList_some,
      List.countP_cons, List.countP_nil, beq_iff_eq]
    omega
  · omega

/-- A request for the charge `n` is at the account of its card, and names that card. -/
theorem accountMsgOrigin.applies {m : AccountMsg} {amount : Amount} {off : Bool}
    (hk : ∀ o, K n o → o = .charge k.1 k.2 amount off) (h : accountMsgOrigin K a m) :
    (m.applies n = true → a = k.1) ∧
      ∀ amount' c off' k', m = .applyChargeFromCard n amount' c off' k' →
        k' = k ∧ amount' = amount := by
  constructor
  · intro hn
    cases m with
    | applyChargeFromCard n' amount' c off' k' =>
      have hn' : n' = n := by simpa [AccountMsg.applies] using hn
      subst hn'
      have ho := hk _ h.2
      simp only [Operation.charge.injEq] at ho
      exact ho.1
    | _ => cases hn
  · rintro amount' c off' k' rfl
    have ho := hk _ h.2
    simp only [Operation.charge.injEq] at ho
    exact ⟨by rw [h.1, ho.1, ho.2.1], ho.2.2.1⟩

/-- Another card never asks for the charge `n`. -/
theorem CardOrigin.applies_eq_zero {k' : CardKey} {c : CardActor} {m : CardMsg}
    (h : CardOrigin K k' c) (hm : cardMsgOrigin K k' m)
    (hrep : ∀ n snapshot, ¬ K n (.replaceDatabase snapshot))
    (hk : ∀ o, K n o → cardKey? o ≠ some k') (a : AccountId) :
    (c.handle m).2.countP (Send.onAccount a (AccountMsg.applies n)) = 0 := by
  by_cases ha : c.accountId = a
  · have hflow := CardActor.handle_flight n c m (hm.not_replaceState hrep)
    have hnew := CardActor.inFlight_le_tasks (c.handle m).1 n
    rw [(card_origin k' c m h hm).1.tasks_eq_zero hk] at hnew
    rw [← ha]
    split at hflow <;> omega
  · exact CardActor.handle_onAccount c m _ ha

theorem FlightBook.step {amount : Amount} {off : Bool}
    (hk : ∀ o, K n o → o = .charge k.1 k.2 amount off)
    (hrep : ∀ n snapshot, ¬ K n (.replaceDatabase snapshot)) (ho : (originInv K).Holds s)
    (hi : FlightBook n k s) (h : s.step l = some s') : FlightBook n k s' := by
  unfold FlightBook at hi ⊢
  obtain ⟨n', o, rfl, rfl⟩ | ⟨m, rest, rfl, hbox, -, rfl⟩ | ⟨a, m, rest, rfl, hbox, rfl⟩ |
    ⟨k', m, rest, rfl, hbox, rfl⟩ := ActorDb.step_cases h
  · exact hi
  · simp only [ActorDb.routerStep, ActorDb.deliver, List.countP_append, countP_toAccount,
      countP_toCard, ActorRouter.handle_applies, ActorRouter.handle_replies]
    exact hi
  · have hm := ho.accountBox a m (by rw [hbox]; exact List.mem_cons_self)
    obtain ⟨ha, hreply⟩ := accountMsgOrigin.applies hk hm
    have hrep := AccountActor.handle_replies n k (s.account a) m
      fun x c off' k' hx => (hreply x c off' k' hx).1
    simp only [ActorDb.accountStep, ActorDb.deliver, List.countP_append, countP_toAccount,
      countP_toCard, AccountActor.handle_onAccount, hrep]
    by_cases haa : k.1 = a
    · subst haa
      rw [hbox] at hi
      simp only [Function.update_self, List.countP_cons] at hi ⊢
      omega
    · have hno : m.applies n = false := by
        by_contra hne
        exact haa (ha (by simpa using hne)).symm
      simp only [Function.update_of_ne haa, hno, Bool.false_eq_true, if_false]
      omega
  · have hm := ho.cardBox k' m (by rw [hbox]; exact List.mem_cons_self)
    simp only [ActorDb.cardStep, ActorDb.deliver, List.countP_append, countP_toAccount,
      countP_toCard, CardActor.handle_onCard]
    by_cases hkk : k = k'
    · subst hkk
      have hflow := CardActor.handle_flight n (s.card k) m (hm.not_replaceState hrep)
      have hle := CardActor.inFlight_le_one (s.card k) n
      rw [(ho.card k).accountId] at hflow
      rw [hbox] at hi
      simp only [Function.update_self, List.countP_cons] at hi ⊢
      by_cases hr : m.replies n = true <;> simp only [hr, if_true, Bool.false_eq_true, if_false] at hi hflow <;>
        omega
    · have hzero := (ho.card k').applies_eq_zero (n := n) hm hrep (fun o hko he => by
        rw [hk o hko] at he
        exact hkk (Option.some.inj he)) k.1
      simp only [Function.update_of_ne hkk, hzero]
      omega

/-! ## What an approval adds -/

/-- The charge `n` was added to the account as often as it was approved, and to
    the card as often as it was reported successful. -/
structure ChargeBook (n : OpId) (k : CardKey) (amount : Amount) (s : ActorDb) : Prop where
  account : (s.cardBox k).countP (CardMsg.approves n) +
    s.reported.countP (RouterMsg.succeeds n) = s.applied.count (.account k.1 n amount)
  card : s.reported.countP (RouterMsg.succeeds n) = s.applied.count (.card k n amount)

theorem countP_succeeds_le (xs : List Send) (n : OpId) :
    xs.countP (Send.onRouter (RouterMsg.succeeds n)) ≤
      xs.countP (Send.onRouter (RouterMsg.completes n)) := by
  refine List.countP_mono_left ?_
  intro x _ hx
  cases x with
  | router m =>
    cases m with
    | operationCompleted n' b e =>
      simp only [Send.onRouter, RouterMsg.succeeds, Bool.and_eq_true] at hx
      exact hx.1
    | _ => cases hx
  | _ => cases hx

theorem countP_approves_le (xs : List Send) (k : CardKey) (n : OpId) :
    xs.countP (Send.onCard k (CardMsg.approves n)) ≤
      xs.countP (Send.onCard k (CardMsg.replies n)) := by
  refine List.countP_mono_left ?_
  intro x _ hx
  cases x with
  | card k' m =>
    cases m with
    | chargeReply r =>
      simp only [Send.onCard, CardMsg.approves, Bool.and_eq_true] at hx
      simp only [Send.onCard, CardMsg.replies, Bool.and_eq_true]
      exact ⟨hx.1, hx.2.1⟩
    | _ => simp [Send.onCard, CardMsg.approves] at hx
  | _ => cases hx

theorem CardMsg.replies_of_approves {m : CardMsg} (h : m.approves n = true) :
    m.replies n = true := by
  cases m with
  | chargeReply r =>
    simp only [CardMsg.approves, Bool.and_eq_true] at h
    exact h.1
  | _ => cases h

theorem count_map_account (a : AccountId) (n : OpId) (amount : Amount)
    (xs : List (OpId × Amount)) :
    (xs.map fun p : OpId × Amount => Applied.account a p.1 p.2).count (.account a n amount) =
      xs.count (n, amount) :=
  List.count_map_of_injective xs (fun p : OpId × Amount => Applied.account a p.1 p.2)
    (fun p q h => by
      simp only [Applied.account.injEq, true_and] at h
      exact Prod.ext h.1 h.2) (n, amount)

theorem count_map_card (k : CardKey) (n : OpId) (amount : Amount) (xs : List (OpId × Amount)) :
    (xs.map fun p : OpId × Amount => Applied.card k p.1 p.2).count (.card k n amount) =
      xs.count (n, amount) :=
  List.count_map_of_injective xs (fun p : OpId × Amount => Applied.card k p.1 p.2)
    (fun p q h => by
      simp only [Applied.card.injEq, true_and] at h
      exact Prod.ext h.1 h.2) (n, amount)

theorem count_map_ne {f : OpId × Amount → Applied} {x : Applied} {xs : List (OpId × Amount)}
    (hx : ∀ p, f p ≠ x) : (xs.map f).count x = 0 := by
  rw [List.count_eq_zero]
  intro h
  obtain ⟨p, -, hp⟩ := List.mem_map.mp h
  exact hx p hp

theorem ChargeBook.step {amount : Amount} {off : Bool}
    (hk : ∀ o, K n o → o = .charge k.1 k.2 amount off)
    (hrep : ∀ n snapshot, ¬ K n (.replaceDatabase snapshot)) (ho : (originInv K).Holds s)
    (hf : FlightBook n k s) (hi : ChargeBook n k amount s) (h : s.step l = some s') :
    ChargeBook n k amount s' := by
  have hkey : ∀ o, K n o → cardKey? o = some k := fun o hko => by rw [hk o hko]; rfl
  obtain ⟨n', o, rfl, rfl⟩ | ⟨m, rest, rfl, hbox, -, rfl⟩ | ⟨a, m, rest, rfl, hbox, rfl⟩ |
    ⟨k', m, rest, rfl, hbox, rfl⟩ := ActorDb.step_cases h
  · exact ⟨hi.account, hi.card⟩
  · constructor
    · simp only [ActorDb.routerStep, ActorDb.deliver, List.countP_append, countP_toRouter,
        countP_toCard, ActorRouter.handle_approves, ActorRouter.handle_onRouter]
      exact hi.account
    · simp only [ActorDb.routerStep, ActorDb.deliver, List.countP_append, countP_toRouter,
        ActorRouter.handle_onRouter]
      exact hi.card
  · have hm := ho.accountBox a m (by rw [hbox]; exact List.mem_cons_self)
    obtain ⟨ha, hreply⟩ := accountMsgOrigin.applies hk hm
    have hlim : m.limits n = false := accountMsgOrigin.limits_eq_false hm fun o hko he => by
      rw [hk o hko] at he
      cases he
    have hsucc := AccountActor.handle_succeeds n (s.account a) m hlim
    have happ := AccountActor.handle_approves n amount k (s.account a) m hreply
    have hacc := hi.account
    have hcard := hi.card
    constructor
    · simp only [ActorDb.accountStep, ActorDb.deliver, List.countP_append, countP_toRouter,
        countP_toCard, List.count_append, hsucc, happ]
      by_cases haa : a = k.1
      · rw [haa, count_map_account]
        omega
      · have hno : m.applies n = false := by
          by_contra hne
          exact haa (ha (by simpa using hne))
        have hle := countP_approves_le ((s.account a).handle m).2 k n
        rw [AccountActor.handle_replies n k (s.account a) m
          fun x c off' k' hx => (hreply x c off' k' hx).1, hno, happ] at hle
        simp only [Bool.false_eq_true, if_false] at hle
        rw [count_map_ne fun p hp => haa (Applied.account.inj hp).1]
        omega
    · simp only [ActorDb.accountStep, ActorDb.deliver, List.countP_append, countP_toRouter,
        List.count_append, hsucc]
      rw [count_map_ne fun p hp => by cases hp]
      omega
  · have hm := ho.cardBox k' m (by rw [hbox]; exact List.mem_cons_self)
    have hacc := hi.account
    have hcard := hi.card
    have hnone : (((s.card k').added m).map fun p : OpId × Amount =>
        Applied.card k' p.1 p.2).count (.account k.1 n amount) = 0 :=
      count_map_ne fun p hp => by cases hp
    by_cases hkk : k = k'
    · subst hkk
      have hsucc := CardActor.handle_succeeds n (s.card k) m
        (by rintro lim rfl; cases hk _ hm)
        (fun t ht htn => by
          have hto := (ho.card k).queue t ht
          cases t with
          | charge op => exact ⟨op, rfl⟩
          | limitChange n' lim =>
            obtain rfl : n' = n := htn
            cases hk _ hto)
      have hadd := CardActor.added_count n amount (s.card k) m (fun op hop hopn => by
        have hto := (ho.card k).current _ hop
        subst hopn
        have heq := hk _ hto
        simp only [Operation.charge.injEq] at heq
        exact heq.2.2.1)
      have hflight : m.approves n = true → (s.card k).inFlight n = 1 := by
        intro happ
        unfold FlightBook at hf
        rw [hbox] at hf
        simp only [List.countP_cons, CardMsg.replies_of_approves happ, if_true] at hf
        have hle := CardActor.inFlight_le_one (s.card k) n
        omega
      rw [hbox, List.countP_cons] at hacc
      constructor
      · simp only [ActorDb.cardStep, ActorDb.deliver, List.countP_append, countP_toRouter,
          countP_toCard, CardActor.handle_onCard, Function.update_self, List.count_append, hsucc,
          hnone]
        by_cases happ : m.approves n = true
        · simp only [happ, if_true, hflight happ] at hacc ⊢
          omega
        · simp only [happ, Bool.false_eq_true, if_false] at hacc ⊢
          omega
      · simp only [ActorDb.cardStep, ActorDb.deliver, List.countP_append, countP_toRouter,
          List.count_append, hsucc, count_map_card, hadd]
        omega
    · have hdone := (ho.card k').completes_eq_zero hm hrep
        (fun o hko he => hkk (Option.some.inj ((hkey o hko).symm.trans he)))
      have hle := countP_succeeds_le ((s.card k').handle m).2 n
      constructor
      · simp only [ActorDb.cardStep, ActorDb.deliver, List.countP_append, countP_toRouter,
          countP_toCard, CardActor.handle_onCard, Function.update_of_ne hkk, List.count_append,
          hnone]
        omega
      · have hnoc : (((s.card k').added m).map fun p : OpId × Amount =>
            Applied.card k' p.1 p.2).count (.card k n amount) = 0 :=
          count_map_ne fun p hp => hkk (Applied.card.inj hp).1.symm
        simp only [ActorDb.cardStep, ActorDb.deliver, List.countP_append, countP_toRouter,
          List.count_append, hnoc]
        omega

/-! ## From reports to results -/

/-- The success and error a report or a result has for `n`. -/
def RouterMsg.report? (n : OpId) : RouterMsg → Option (Bool × Option VerifyError)
  | .operationCompleted n' b e => if n' = n then some (b, e) else none
  | _ => none

def ActorEvent.outcome? (n : OpId) : ActorEvent → Option (Bool × Option VerifyError)
  | .operationResult n' _ _ b e => if n' = n then some (b, e) else none
  | .debug _ => none

theorem length_reports (n : OpId) (xs : List RouterMsg) :
    (xs.filterMap (RouterMsg.report? n)).length = xs.countP (RouterMsg.completes n) := by
  rw [List.length_filterMap_eq_countP]
  congr 1
  funext m
  cases m with
  | operationCompleted n' b e =>
    by_cases hn : n' = n <;> simp [RouterMsg.report?, RouterMsg.completes, hn]
  | _ => rfl

theorem mem_reports {xs : List RouterMsg} {b : Bool} {e : Option VerifyError}
    (h : (b, e) ∈ xs.filterMap (RouterMsg.report? n)) : .operationCompleted n b e ∈ xs := by
  obtain ⟨m, hm, hme⟩ := List.mem_filterMap.mp h
  cases m <;> simp only [RouterMsg.report?, Option.ite_none_right_eq_some, Option.some.injEq,
    Prod.mk.injEq, reduceCtorEq] at hme
  obtain ⟨rfl, rfl, rfl⟩ := hme
  exact hm

theorem countP_succeeds (n : OpId) (xs : List RouterMsg) :
    xs.countP (RouterMsg.succeeds n) = (xs.filterMap (RouterMsg.report? n)).countP Prod.fst := by
  rw [List.countP_filterMap]
  congr 1
  funext m
  cases m with
  | operationCompleted n' b e =>
    by_cases hn : n' = n <;> simp [RouterMsg.report?, RouterMsg.succeeds, hn]
  | _ => rfl

/-- A report of `n` is a result of `n` or still at the router, in order; the
    results carry the operation and the result that belong to the report. -/
structure ResultBook (n : OpId) (o : Operation Amount) (s : ActorDb) : Prop where
  reports : s.reported.filterMap (RouterMsg.report? n) =
    s.events.filterMap (ActorEvent.outcome? n) ++ s.routerBox.filterMap (RouterMsg.report? n)
  results : ∀ o' r b e, .operationResult n o' r b e ∈ s.events →
    o' = o ∧ ActorRouter.completedResult o b e = some r

/-- A message about a charge or a limit change is its command or its report. -/
theorem routerMsgOrigin.task {m : RouterMsg} {o : Operation Amount} (hm : routerMsgOrigin K m)
    (hK : ∀ o', K n o' → o' = o) (ht : IsTask o) (hn : m.opId? = some n) :
    (∃ o', m = .execute n o') ∨ ∃ b e, m = .operationCompleted n b e := by
  have hquery : ∀ a billing, ¬ Queries a billing o := by
    intro a billing hq
    unfold Queries at hq
    split at hq
    · obtain ⟨period, rfl⟩ := hq
      exact ht
    · subst hq
      exact ht
  have hget : ∀ addr, o ≠ .getDatabase addr := by
    rintro addr rfl
    exact ht
  cases m <;> simp only [RouterMsg.opId?, Option.some.injEq, reduceCtorEq] at hn <;> subst hn
  · exact Or.inl ⟨_, rfl⟩
  · exact Or.inr ⟨_, _, rfl⟩
  · obtain ⟨o', billing, hko, hq⟩ := hm
    rw [hK o' hko] at hq
    exact absurd hq (hquery _ _)
  · obtain ⟨addr, hko⟩ := hm
    exact absurd (hK _ hko).symm (hget addr)
  · obtain ⟨addr, hko⟩ := hm
    exact absurd (hK _ hko).symm (hget addr)

/-- The router turns a report of a registered task into its result, and emits no
    result for `n` on any other message. -/
theorem ActorRouter.handle_result {r : ActorRouter} {m : RouterMsg} {o : Operation Amount}
    (hm : routerMsgOrigin K m) (hK : ∀ o', K n o' → o' = o) (ht : IsTask o)
    (hreg : ∀ b e, m = .operationCompleted n b e → r.operations n = some o) :
    ((r.handle m).2.filterMap Send.toNode?).filterMap (ActorEvent.outcome? n) =
        (m.report? n).toList ∧
      ∀ o' res b e, .operationResult n o' res b e ∈ (r.handle m).2.filterMap Send.toNode? →
        o' = o ∧ completedResult o b e = some res := by
  by_cases hexec : ∃ n' o', m = .execute n' o'
  · obtain ⟨n', o', rfl⟩ := hexec
    -- a command whose dispatch holds a result is not a task, so it is not `n`
    have hne : ∀ ev ∈ (r.execute n' o').2.filterMap Send.toNode?,
        ∃ o'' res b e, ev = .operationResult n' o'' res b e ∧ n' ≠ n := by
      intro ev hev
      obtain ⟨x, hx, hxe⟩ := List.mem_filterMap.mp hev
      cases ActorRouter.execute_dispatches r n' o' x hx <;> cases hxe
      rename_i res hdb
      refine ⟨_, _, _, _, rfl, ?_⟩
      rintro rfl
      rw [hK o' hm] at hdb
      obtain ⟨addr, rfl⟩ | ⟨snapshot, rfl⟩ := hdb <;> exact ht
    constructor
    · rw [List.filterMap_eq_nil_iff.mpr]
      · rfl
      · intro ev hev
        obtain ⟨o'', res, b, e, rfl, hn⟩ := hne ev hev
        simp [ActorEvent.outcome?, hn]
    · intro o'' res b e hev
      obtain ⟨_, _, _, _, heq, hn⟩ := hne _ hev
      cases heq
      exact absurd rfl hn
  · have h := ActorRouter.handle_reports r m fun n' o' he => hexec ⟨n', o', he⟩
    revert h
    generalize r.handle m = out
    intro h
    cases h with
    | result _ r' n' o' res b e hid ho hres =>
      simp only [List.filterMap_cons, List.filterMap_nil, Send.toNode?, List.mem_singleton,
        ActorEvent.outcome?]
      by_cases hn : n' = n
      · subst hn
        obtain ⟨o'', rfl⟩ | ⟨b', e', rfl⟩ := routerMsgOrigin.task hm hK ht hid
        · exact absurd ⟨_, _, rfl⟩ hexec
        · obtain ⟨rfl, rfl, hcomp⟩ := hres
          have hoo : o' = o := Option.some.inj (ho.symm.trans (hreg _ _ rfl))
          subst hoo
          refine ⟨by simp [RouterMsg.report?], ?_⟩
          intro o'' res' b e heq
          cases heq
          exact ⟨rfl, hcomp⟩
      · constructor
        · cases m <;> simp only [RouterMsg.opId?, Option.some.injEq, reduceCtorEq] at hid <;>
            simp [RouterMsg.report?, hn]
          subst hid
          exact hn
        · intro o'' res' b' e' heq
          cases heq
          exact absurd rfl hn
    | quiet _ r' es hes hnone =>
      have hdebug : ∀ ev ∈ (es.map Send.event).filterMap Send.toNode?,
          ∃ text, ev = .debug text := by
        intro ev hev
        obtain ⟨x, hx, hxe⟩ := List.mem_filterMap.mp hev
        obtain ⟨ev', hev', rfl⟩ := List.mem_map.mp hx
        cases hxe
        exact hes _ hev'
      constructor
      · rw [List.filterMap_eq_nil_iff.mpr]
        · cases m with
          | operationCompleted n' b e =>
            have hn : n' ≠ n := by
              rintro rfl
              have h1 := (hnone _ rfl).resolve_right id
              rw [hreg _ _ rfl] at h1
              cases h1
            simp [RouterMsg.report?, hn]
          | _ => rfl
        · intro ev hev
          obtain ⟨text, rfl⟩ := hdebug ev hev
          rfl
      · intro o' res b e hev
        obtain ⟨text, heq⟩ := hdebug _ hev
        cases heq
    | panic n' o' b e ho hres =>
      have hn : n' ≠ n := by
        rintro rfl
        have hoo : o' = o := Option.some.inj (ho.symm.trans (hreg _ _ rfl))
        subst hoo
        obtain ⟨o'', hko, _, hout⟩ := hm
        obtain rfl := hK _ hko
        cases b with
        | true => cases o'' <;> simp [completedResult, chargeResult, limitResult] at hres
        | false =>
          obtain ⟨err, rfl⟩ := Option.ne_none_iff_exists'.mp (hout rfl).1
          cases o'' <;> simp [completedResult, chargeResult, limitResult] at hres
      simp [RouterMsg.report?, hn]

theorem ResultBook.step {o : Operation Amount} (hK : ∀ o', K n o' → o' = o) (ht : IsTask o)
    (hs : s.Started) (ho : (originInv K).Holds s) (hi : ResultBook n o s) (h : s.step l = some s') :
    ResultBook n o s' := by
  obtain ⟨n', o', rfl, rfl⟩ | ⟨m, rest, rfl, hbox, -, rfl⟩ | ⟨a, m, rest, rfl, hbox, rfl⟩ |
    ⟨k', m, rest, rfl, hbox, rfl⟩ := ActorDb.step_cases h
  · refine ⟨?_, hi.results⟩
    simp only [ActorDb.execute, List.filterMap_append, List.filterMap_cons, List.filterMap_nil,
      RouterMsg.report?, List.append_nil]
    exact hi.reports
  · have hmem : m ∈ s.routerBox := by rw [hbox]; exact List.mem_cons_self
    have hm : routerMsgOrigin K m := ho.routerBox m hmem
    have hreg : ∀ b e, m = .operationCompleted n b e → s.router.operations n = some o := by
      rintro b e rfl
      obtain ⟨o', ho', -⟩ := hs.routerBox _ hmem (by simp)
      rw [← hK o' (ho.router n o' ho')]
      exact ho'
    obtain ⟨hevents, hresults⟩ := ActorRouter.handle_result hm hK ht hreg
    refine ⟨?_, ?_⟩
    · have hrep := hi.reports
      rw [hbox] at hrep
      simp only [ActorDb.routerStep, ActorDb.deliver, List.filterMap_append, hevents,
        ActorRouter.handle_toRouter, List.append_nil]
      rw [hrep, List.append_assoc]
      congr 1
      cases hrm : m.report? n <;> simp [hrm]
    · intro o' r b e hev
      simp only [ActorDb.routerStep, ActorDb.deliver, List.mem_append] at hev
      exact hev.elim (hi.results o' r b e) (hresults o' r b e)
  · refine ⟨?_, ?_⟩
    · simp only [ActorDb.accountStep, ActorDb.deliver, List.filterMap_append,
        AccountActor.handle_toNode, List.append_nil]
      rw [hi.reports, List.append_assoc]
    · intro o' r b e hev
      simp only [ActorDb.accountStep, ActorDb.deliver, AccountActor.handle_toNode,
        List.append_nil] at hev
      exact hi.results o' r b e hev
  · refine ⟨?_, ?_⟩
    · simp only [ActorDb.cardStep, ActorDb.deliver, List.filterMap_append,
        CardActor.handle_toNode, List.append_nil]
      rw [hi.reports, List.append_assoc]
    · intro o' r b e hev
      simp only [ActorDb.cardStep, ActorDb.deliver, CardActor.handle_toNode,
        List.append_nil] at hev
      exact hi.results o' r b e hev

end YpfRuta.Actors
