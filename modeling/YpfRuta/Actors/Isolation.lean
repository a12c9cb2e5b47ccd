/-
  Accounts do not see each other. Whatever an account and its cards do in a run, they do
  as well in a run without the commands of the other accounts: the same steps, less those
  of the other accounts and those in which the router serves them.

  The argument is a simulation with stuttering between the run and the run of the one
  account. A message belongs to the account that its operation is about, so under
  distinct ids the router's mailbox splits by account. A debug text names no operation
  and may go either way.
-/
import YpfRuta.Lib.Selection
import YpfRuta.Actors.Billing
import YpfRuta.Actors.Events
import YpfRuta.Actors.Flight

namespace YpfRuta.Actors

open Lib

section

variable {Amount : Type} [Currency Amount]

/-- The account an operation is about. -/
def accountOf : Operation Amount → Option AccountId
  | .charge a .. | .limitAccount a _ | .limitCard a .. | .accountQuery a | .bill a _ => some a
  | .getDatabase _ | .replaceDatabase _ => none

def Applied.accountId : Applied → AccountId
  | .account a .. => a
  | .card k .. => k.1

/-- The event is the result of an operation about `a`. -/
def ActorEvent.resultOf (a : AccountId) : ActorEvent → Bool
  | .operationResult _ o .. => accountOf o = some a
  | .debug _ => false

section

variable (owner : OpId → Option AccountId) (a : AccountId)

/-- The message is part of an operation about `a`. -/
def RouterMsg.Of : RouterMsg → Prop
  | .execute _ o => accountOf o = some a
  | .operationCompleted n _ _ => owner n = some a
  | .accountQueryCompleted n b _ _ => owner n = some a ∧ b = a
  | .debug _ => True
  | _ => False

/-- The message is part of an operation about another account. -/
def RouterMsg.NotOf : RouterMsg → Prop
  | .execute _ o => accountOf o ≠ some a
  | .operationCompleted n _ _ => owner n ≠ some a
  | .accountQueryCompleted n _ _ _ => owner n ≠ some a
  | _ => True

def ActorEvent.Of : ActorEvent → Prop
  | .operationResult _ o .. => accountOf o = some a
  | .debug _ => True

def ActorEvent.NotOf : ActorEvent → Prop
  | .operationResult _ o .. => accountOf o ≠ some a
  | .debug _ => True

def Send.Of : Send → Prop
  | .router m => m.Of owner a
  | .account b _ => b = a
  | .card k _ => k.1 = a
  | .event e => e.Of a

def Send.NotOf : Send → Prop
  | .router m => m.NotOf owner a
  | .account b _ => b ≠ a
  | .card k _ => k.1 ≠ a
  | .event e => e.NotOf a

end

section

variable {owner : OpId → Option AccountId} {a b : AccountId}

theorem Send.Of.notOf {x : Send} (h : x.Of owner b) (hb : b ≠ a) : x.NotOf owner a := by
  have hne : some b ≠ some a := fun he => hb (Option.some.inj he)
  cases x with
  | router m =>
    cases m with
    | execute n o => exact fun he => hne (h.symm.trans he)
    | operationCompleted n s e => exact fun he => hne (h.symm.trans he)
    | accountQueryCompleted n b' t l => exact fun he => hne (h.1.symm.trans he)
    | _ => exact True.intro
  | account b' m => exact fun he => hb (h.symm.trans he)
  | card k m => exact fun he => hb (h.symm.trans he)
  | event e =>
    cases e with
    | operationResult n o r s err => exact fun he => hne (h.symm.trans he)
    | debug text => exact True.intro

variable {K : OpId → Operation Amount → Prop} (howner : ∀ n o, K n o → owner n = accountOf o)

/-! ## What an actor sends is about its own account -/

include howner

theorem owner_task {k : CardKey} {t : CardTask} (h : TaskOrigin K k t) :
    owner t.opId = some k.1 := by
  cases t with
  | charge op => exact howner _ _ h
  | limitChange n lim => exact howner _ _ h

theorem pump_of {k : CardKey} {c : CardActor} (h : CardOrigin K k c) :
    ∀ x ∈ c.startCurrentTask.2, x.Of owner k.1 := by
  refine CardActor.pump_induct (P := fun c r => CardOrigin K k c → ∀ x ∈ r.2, x.Of owner k.1)
    ?_ ?_ ?_ ?_ c h
  · simp
  · intro c op _ _ h x hx
    obtain rfl := List.mem_singleton.mp hx
    exact h.accountId
  · intro c t lim b e ht _ _ h x hx
    obtain rfl := List.mem_singleton.mp hx
    exact owner_task howner (h.current t ht)
  · intro c t lim b e t' q r ht _ hqc ih h x hx
    have hmem : ∀ u ∈ t' :: q, TaskOrigin K k u := by rw [← hqc]; exact h.queue
    obtain rfl | hx := List.mem_cons.mp hx
    · exact owner_task howner (h.current t ht)
    · exact ih (h.load lim (hmem _ List.mem_cons_self)
        fun u hu => hmem u (List.mem_cons_of_mem _ hu)) x hx

theorem finish_of {k : CardKey} {c : CardActor} (h : CardOrigin K k c) {n : OpId} {s : Bool}
    {e : Option VerifyError} (hn : owner n = some k.1) :
    ∀ x ∈ (c.finishCurrentTask n s e).2, x.Of owner k.1 := by
  intro x hx
  cases hq : c.queue with
  | nil =>
    rw [CardActor.finishCurrentTask_nil c hq] at hx
    obtain rfl := List.mem_singleton.mp hx
    exact hn
  | cons t q =>
    rw [CardActor.finishCurrentTask_cons c hq] at hx
    have hmem : ∀ u ∈ t :: q, TaskOrigin K k u := by rw [← hq]; exact h.queue
    obtain rfl | hx := List.mem_cons.mp hx
    · exact hn
    · exact pump_of howner (h.load c.limit (hmem _ List.mem_cons_self)
        fun u hu => hmem u (List.mem_cons_of_mem _ hu)) x hx

theorem acceptTask_of {k : CardKey} {c : CardActor} (h : CardOrigin K k c) {t : CardTask}
    (ht : TaskOrigin K k t) : ∀ x ∈ (c.acceptTask t).2, x.Of owner k.1 := by
  unfold CardActor.acceptTask
  split
  · exact pump_of howner (h.load c.limit ht h.queue)
  · simp

/-- **A card** sends to its account, and reports its own operations. -/
theorem card_of (hall : ∀ n o, K n o → accountOf o ≠ none) {k : CardKey} {c : CardActor}
    {m : CardMsg} (h : CardOrigin K k c) (hm : cardMsgOrigin K k m) :
    ∀ x ∈ (c.handle m).2, x.Of owner k.1 := by
  cases m with
  | executeCharge n a c' amount off =>
    obtain ⟨rfl, hk⟩ := hm
    have hne : ¬ (a ≠ c.accountId ∨ c' ≠ c.cardId) := by simp [h.accountId, h.cardId]
    simp only [CardActor.handle, CardActor.executeCharge, if_neg hne]
    exact acceptTask_of howner h hk
  | executeLimitChange n lim => exact acceptTask_of howner h hm
  | queryCardState n a billing =>
    obtain ⟨-, heq⟩ | ⟨-, text, heq⟩ := CardActor.queryCardState_cases c n a billing <;>
      simp only [CardActor.handle, heq] <;> intro x hx <;> obtain rfl := List.mem_singleton.mp hx
    · exact h.accountId
    · exact True.intro
  | getSnapshot n =>
    obtain ⟨addr, hk⟩ := hm
    exact absurd rfl (hall _ _ hk)
  | replaceState lim con =>
    obtain ⟨n, snapshot, hk, -⟩ := hm
    exact absurd rfl (hall _ _ hk)
  | debug text =>
    intro x hx
    obtain rfl := List.mem_singleton.mp hx
    exact True.intro
  | chargeReply r =>
    obtain ⟨amount, off, hk, -⟩ := hm
    obtain ⟨op, -, -, heq⟩ | ⟨-, text, heq⟩ := CardActor.handleChargeReply_cases c r <;>
      simp only [CardActor.handle, heq]
    · have hc : CardOrigin K k
          { c with consumed := if r.success then c.consumed + op.amount else c.consumed } :=
        ⟨h.accountId, h.cardId, h.current, h.queue, h.idle⟩
      exact finish_of howner hc (howner _ _ hk)
    · intro x hx
      obtain rfl := List.mem_singleton.mp hx
      exact True.intro

/-- **An account** answers its own cards, and reports its own operations. -/
theorem account_of (hall : ∀ n o, K n o → accountOf o ≠ none) {x : AccountActor} {m : AccountMsg}
    (h : (originInv K).account a x) (hm : accountMsgOrigin K a m) :
    ∀ y ∈ (x.handle m).2, y.Of owner a := by
  obtain ⟨hid, hpend⟩ := h
  have hquery : ∀ o billing n, K n o → Queries a billing o → owner n = some a := by
    intro o billing n hk hq
    rw [howner n o hk]
    cases billing with
    | false =>
      obtain rfl : o = .accountQuery a := hq
      rfl
    | true =>
      obtain ⟨period, rfl⟩ : ∃ period, o = .bill a period := hq
      rfl
  cases m with
  | applyChargeFromCard n amount c off k =>
    obtain ⟨rfl, -⟩ := hm
    obtain ⟨-, heq⟩ | ⟨-, -, err, heq⟩ := AccountActor.applyChargeFromCard_cases x n amount c off (a, c) <;>
      simp only [AccountActor.handle, heq] <;> intro y hy <;>
      obtain rfl := List.mem_singleton.mp hy
    · exact rfl
    · exact rfl
  | applyAccountLimit n lim =>
    simp only [AccountActor.handle, AccountActor.applyAccountLimit]
    split <;> intro y hy <;> obtain rfl := List.mem_singleton.mp hy
    · exact howner _ _ hm
    · exact howner _ _ hm
  | startAccountQuery n num =>
    simp only [AccountActor.handle, AccountActor.startAccountQuery]
    split
    · intro y hy
      obtain rfl := List.mem_singleton.mp hy
      exact ⟨howner _ _ hm, hid⟩
    · simp
  | startAccountBill n num =>
    obtain ⟨period, hk⟩ := hm
    simp only [AccountActor.handle, AccountActor.startAccountBill]
    split
    · intro y hy
      obtain rfl := List.mem_singleton.mp hy
      exact ⟨howner _ _ hk, hid⟩
    · simp
  | cardQueryReply n c con =>
    have hunexp : ∀ y ∈ (x.unexpectedReply n).2, y.Of owner a := by
      intro y hy
      obtain rfl := List.mem_singleton.mp hy
      exact True.intro
    simp only [AccountActor.handle, AccountActor.cardQueryReply]
    split
    · rename_i p hp
      split
      · obtain ⟨o, ho, hq⟩ := hpend p hp
        simp only [AccountActor.collectReply]
        split
        · intro y hy
          obtain rfl := List.mem_singleton.mp hy
          exact ⟨hquery o p.billing p.opId ho hq, hid⟩
        · simp
      · exact hunexp
    · exact hunexp
  | getSnapshot n =>
    obtain ⟨addr, hk⟩ := hm
    exact absurd rfl (hall _ _ hk)
  | replaceState lim con =>
    obtain ⟨n, snapshot, hk, -⟩ := hm
    exact absurd rfl (hall _ _ hk)

omit howner

/-! ## What the router does for one account -/

/-- The router `r'` has for the account `a` what `r` has. -/
structure RouterView (owner : OpId → Option AccountId) (a : AccountId) (r r' : ActorRouter) :
    Prop where
  cards : r'.cardIds a = r.cardIds a
  operations : ∀ n, owner n = some a → r'.operations n = r.operations n

theorem getOrCreateCard_cardIds (r : ActorRouter) (b : AccountId) (c : CardId) :
    (r.getOrCreateCard b c).cardIds a =
      if b = a ∧ c ∉ r.cardIds a then r.cardIds a ++ [c] else r.cardIds a := by
  unfold ActorRouter.getOrCreateCard
  by_cases hk : (b, c) ∈ r.cards
  · rw [if_pos hk, if_neg]
    rintro ⟨rfl, hc⟩
    exact hc ((mem_cardIds r b c).mpr hk)
  · rw [if_neg hk]
    have hlist : ({ r.getOrCreateAccount b with
        cards := (r.getOrCreateAccount b).cards.insert (b, c) } : ActorRouter).cardIds a =
          r.cardIds a ++ if b = a then [c] else [] := by
      simp only [ActorRouter.cardIds, ActorRouter.getOrCreateAccount,
        Keys.toList_insert_of_not_mem hk, List.filter_append, List.map_append]
      by_cases hb : b = a <;> simp [hb]
    rw [hlist]
    by_cases hb : b = a
    · subst hb
      have hc : c ∉ r.cardIds b := fun hc => hk ((mem_cardIds r b c).mp hc)
      rw [if_pos rfl, if_pos ⟨rfl, hc⟩]
    · rw [if_neg hb, if_neg fun h => hb h.1, List.append_nil]

/-- A command leaves the cards of other accounts alone. -/
theorem execute_cardIds (r : ActorRouter) (n : OpId) {o : Operation Amount}
    (ho : accountOf o = some b) (hb : b ≠ a) : (r.execute n o).1.cardIds a = r.cardIds a := by
  cases o with
  | charge b' c amount off =>
    obtain rfl := Option.some.inj ho
    exact (getOrCreateCard_cardIds _ b' c).trans (if_neg fun h => hb h.1)
  | limitCard b' c lim =>
    obtain rfl := Option.some.inj ho
    exact (getOrCreateCard_cardIds _ b' c).trans (if_neg fun h => hb h.1)
  | getDatabase addr => cases ho
  | replaceDatabase snapshot => cases ho
  | _ => rfl

theorem queryCards_of (r : ActorRouter) (n : OpId) (b : AccountId) (start : AccountMsg)
    (reset : Bool) : ∀ x ∈ r.queryCards n b start reset, x.Of owner b := by
  intro x hx
  obtain rfl | hx := List.mem_cons.mp hx
  · exact rfl
  · obtain ⟨c, -, rfl⟩ := List.mem_map.mp hx
    exact rfl

/-- **A command** goes to the account it is about and to that account's cards. -/
theorem execute_of (r : ActorRouter) (n : OpId) {o : Operation Amount}
    (ho : accountOf o = some b) : ∀ x ∈ (r.execute n o).2, x.Of owner b := by
  cases o with
  | accountQuery b' =>
    obtain rfl := Option.some.inj ho
    exact queryCards_of _ n b' _ _
  | bill b' period =>
    obtain rfl := Option.some.inj ho
    exact queryCards_of _ n b' _ _
  | getDatabase addr => cases ho
  | replaceDatabase snapshot => cases ho
  | _ =>
    intro x hx
    obtain rfl := List.mem_singleton.mp hx
    exact Option.some.inj ho

namespace RouterView

variable {r r' : ActorRouter} {n : OpId} {o : Operation Amount} {m : RouterMsg}

/-- Both routers serve the same command of the account. -/
theorem execute (h : RouterView owner a r r') (n : OpId) (ho : accountOf o = some a) :
    (r'.execute n o).2 = (r.execute n o).2 ∧
      RouterView owner a (r.execute n o).1 (r'.execute n o).1 := by
  have hops : ∀ n', owner n' = some a →
      (r'.execute n o).1.operations n' = (r.execute n o).1.operations n' := by
    intro n' hn'
    rw [ActorRouter.execute_operations, ActorRouter.execute_operations]
    by_cases hne : n' = n
    · rw [hne, Function.update_self, Function.update_self]
    · rw [Function.update_of_ne hne, Function.update_of_ne hne, h.operations n' hn']
  have hcreate : ∀ (b : AccountId) (c : CardId) ops ops',
      ({ r' with operations := ops' }.getOrCreateCard b c).cardIds a =
        ({ r with operations := ops }.getOrCreateCard b c).cardIds a := by
    intro b c ops ops'
    have hcards : ({ r' with operations := ops' } : ActorRouter).cardIds a =
        ({ r with operations := ops } : ActorRouter).cardIds a := h.cards
    rw [getOrCreateCard_cardIds, getOrCreateCard_cardIds, hcards]
  have hquery : ∀ start start' reset, start' = start →
      r'.queryCards n a start' reset = r.queryCards n a start reset := by
    rintro start _ reset rfl
    unfold ActorRouter.queryCards
    rw [h.cards]
  cases o with
  | charge b c amount off => exact ⟨rfl, hcreate b c _ _, hops⟩
  | limitCard b c lim => exact ⟨rfl, hcreate b c _ _, hops⟩
  | limitAccount b lim => exact ⟨rfl, h.cards, hops⟩
  | accountQuery b =>
    obtain rfl := Option.some.inj ho
    exact ⟨hquery (.startAccountQuery n (r.cardIds b).length) _ false (by rw [← h.cards]; rfl),
      h.cards, hops⟩
  | bill b period =>
    obtain rfl := Option.some.inj ho
    exact ⟨hquery (.startAccountBill n (r.cardIds b).length) _ true (by rw [← h.cards]; rfl),
      h.cards, hops⟩
  | getDatabase addr => cases ho
  | replaceDatabase snapshot => cases ho

variable (howner : ∀ n o, K n o → owner n = accountOf o)

include howner

/-- **A message of the account** finds the same at both routers. -/
theorem seen (h : RouterView owner a r r') (hr : (originInv K).router r)
    (hm : m.Of owner a) :
    (r'.handle m).2 = (r.handle m).2 ∧ (∀ x ∈ (r.handle m).2, x.Of owner a) ∧
      RouterView owner a (r.handle m).1 (r'.handle m).1 := by
  have hevent : ∀ n o res s err, r.operations n = some o → owner n = some a →
      ∀ x ∈ [Send.event (.operationResult n o res s err)], x.Of owner a := by
    intro n o res s err ho hn x hx
    obtain rfl := List.mem_singleton.mp hx
    exact (howner n o (hr n o ho)).symm.trans hn
  have hdebug : ∀ text, ∀ x ∈ [Send.event (.debug text)], x.Of owner a := by
    intro text x hx
    obtain rfl := List.mem_singleton.mp hx
    exact True.intro
  cases m with
  | execute n o =>
    obtain ⟨hsends, hview⟩ := h.execute n hm
    exact ⟨hsends, execute_of r n hm, hview⟩
  | operationCompleted n s err =>
    simp only [ActorRouter.handle, ActorRouter.operationCompleted, h.operations n hm]
    cases ho : r.operations n with
    | none => exact ⟨rfl, hdebug _, h⟩
    | some o =>
      cases hres : ActorRouter.completedResult o s err with
      | none => exact ⟨by simp only [hres], by simp [hres], by simp only [hres]; exact ⟨h.cards, h.operations⟩⟩
      | some res =>
        simp only [hres]
        exact ⟨trivial, hevent n o res s err ho hm, h⟩
  | accountQueryCompleted n b t l =>
    simp only [ActorRouter.handle, ActorRouter.accountQueryCompleted, h.operations n hm.1]
    cases ho : r.operations n with
    | none => exact ⟨rfl, hdebug _, h⟩
    | some o => exact ⟨rfl, hevent n o _ true none ho hm.1, h⟩
  | debug text => exact ⟨rfl, hdebug text, h⟩
  | getLog => exact hm.elim
  | accountSnapshotCollected n x => exact hm.elim
  | cardSnapshotCollected n x => exact hm.elim

/-- **A message of another account** changes nothing for this one. -/
theorem unseen (hall : ∀ n o, K n o → accountOf o ≠ none) (h : RouterView owner a r r')
    (hr : (originInv K).router r) (hm : m.NotOf owner a) (horig : routerMsgOrigin K m) :
    (∀ x ∈ (r.handle m).2, x.NotOf owner a) ∧ RouterView owner a (r.handle m).1 r' := by
  have hevent : ∀ n o res s err, r.operations n = some o → owner n ≠ some a →
      ∀ x ∈ [Send.event (.operationResult n o res s err)], x.NotOf owner a := by
    intro n o res s err ho hn x hx
    obtain rfl := List.mem_singleton.mp hx
    exact fun he => hn ((howner n o (hr n o ho)).trans he)
  have hdebug : ∀ text, ∀ x ∈ [Send.event (.debug text)], x.NotOf owner a := by
    intro text x hx
    obtain rfl := List.mem_singleton.mp hx
    exact True.intro
  cases m with
  | execute n o =>
    obtain ⟨b, hb⟩ := Option.ne_none_iff_exists'.mp (hall n o horig)
    have hne : b ≠ a := fun he => hm (he ▸ hb)
    refine ⟨fun x hx => (execute_of r n hb x hx).notOf hne, ⟨?_, ?_⟩⟩
    · exact h.cards.trans (execute_cardIds r n hb hne).symm
    · intro n' hn'
      have hnn : n' ≠ n := by
        rintro rfl
        exact hm ((howner n' o horig).symm.trans hn')
      rw [ActorRouter.handle, ActorRouter.execute_operations, Function.update_of_ne hnn,
        h.operations n' hn']
  | operationCompleted n s err =>
    simp only [ActorRouter.handle, ActorRouter.operationCompleted]
    cases ho : r.operations n with
    | none => exact ⟨hdebug _, h⟩
    | some o =>
      cases hres : ActorRouter.completedResult o s err with
      | none => simp only [hres]; exact ⟨by simp, h.cards, h.operations⟩
      | some res => simp only [hres]; exact ⟨hevent n o res s err ho hm, h⟩
  | accountQueryCompleted n b t l =>
    simp only [ActorRouter.handle, ActorRouter.accountQueryCompleted]
    cases ho : r.operations n with
    | none => exact ⟨hdebug _, h⟩
    | some o => exact ⟨hevent n o _ true none ho hm, h⟩
  | debug text => exact ⟨hdebug text, h⟩
  | getLog => exact ⟨hdebug _, h⟩
  | accountSnapshotCollected n x =>
    obtain ⟨addr, hk⟩ := horig
    exact absurd rfl (hall _ _ hk)
  | cardSnapshotCollected n x =>
    obtain ⟨addr, hk⟩ := horig
    exact absurd rfl (hall _ _ hk)

end RouterView

omit howner

/-! ## Two runs side by side -/

/-- The database `t` is what the account `a` sees of `s`, and nothing else. -/
structure Isolates (owner : OpId → Option AccountId) (a : AccountId) (s t : ActorDb) : Prop where
  account : t.account a = s.account a
  card : ∀ c, t.card (a, c) = s.card (a, c)
  accountBox : t.accountBox a = s.accountBox a
  cardBox : ∀ c, t.cardBox (a, c) = s.cardBox (a, c)
  noAccounts : ∀ b, b ≠ a → t.accountBox b = []
  noCards : ∀ k : CardKey, k.1 ≠ a → t.cardBox k = []
  router : RouterView owner a s.router t.router
  routerBox : Selects (RouterMsg.Of owner a) (RouterMsg.NotOf owner a) s.routerBox t.routerBox
  events : Selects (ActorEvent.Of a) (ActorEvent.NotOf a) s.events t.events
  commands : t.commands = s.commands.filter fun command => accountOf command.2 = some a
  applied : t.applied = s.applied.filter fun x => x.accountId = a

namespace Isolates

variable {s t : ActorDb}

theorem init (owner : OpId → Option AccountId) (a : AccountId) :
    Isolates owner a ActorDb.init ActorDb.init where
  account := rfl
  card _ := rfl
  accountBox := rfl
  cardBox _ := rfl
  noAccounts _ _ := rfl
  noCards _ _ := rfl
  router := ⟨rfl, fun _ _ => rfl⟩
  routerBox := .nil
  events := .nil
  commands := rfl
  applied := rfl

theorem mem_toAccount {b : AccountId} {m : AccountMsg} {sends : List Send}
    (h : m ∈ sends.filterMap (Send.toAccount? b)) : .account b m ∈ sends := by
  obtain ⟨x, hx, hxm⟩ := List.mem_filterMap.mp h
  cases x <;> simp only [Send.toAccount?, Option.ite_none_right_eq_some, Option.some.injEq,
    reduceCtorEq] at hxm
  obtain ⟨rfl, rfl⟩ := hxm
  exact hx

theorem mem_toCard {k : CardKey} {m : CardMsg} {sends : List Send}
    (h : m ∈ sends.filterMap (Send.toCard? k)) : .card k m ∈ sends := by
  obtain ⟨x, hx, hxm⟩ := List.mem_filterMap.mp h
  cases x <;> simp only [Send.toCard?, Option.ite_none_right_eq_some, Option.some.injEq,
    reduceCtorEq] at hxm
  obtain ⟨rfl, rfl⟩ := hxm
  exact hx

theorem mem_toRouter {m : RouterMsg} {sends : List Send}
    (h : m ∈ sends.filterMap Send.toRouter?) : .router m ∈ sends := by
  obtain ⟨x, hx, hxm⟩ := List.mem_filterMap.mp h
  cases x <;> simp only [Send.toRouter?, Option.some.injEq, reduceCtorEq] at hxm
  exact hxm ▸ hx

theorem mem_toNode {e : ActorEvent} {sends : List Send}
    (h : e ∈ sends.filterMap Send.toNode?) : .event e ∈ sends := by
  obtain ⟨x, hx, hxm⟩ := List.mem_filterMap.mp h
  cases x <;> simp only [Send.toNode?, Option.some.injEq, reduceCtorEq] at hxm
  exact hxm ▸ hx

/-- Sends of the account go out on both sides. -/
theorem deliver_both (h : Isolates owner a s t) {sends : List Send}
    (hs : ∀ x ∈ sends, x.Of owner a) : Isolates owner a (s.deliver sends) (t.deliver sends) where
  account := h.account
  card := h.card
  accountBox := congrArg (· ++ _) h.accountBox
  cardBox c := congrArg (· ++ _) (h.cardBox c)
  noAccounts b hb := by
    refine List.append_eq_nil_iff.mpr ⟨h.noAccounts b hb, ?_⟩
    exact List.eq_nil_iff_forall_not_mem.mpr fun m hm => hb (hs _ (mem_toAccount hm))
  noCards k hk := by
    refine List.append_eq_nil_iff.mpr ⟨h.noCards k hk, ?_⟩
    exact List.eq_nil_iff_forall_not_mem.mpr fun m hm => hk (hs _ (mem_toCard hm))
  router := h.router
  routerBox := h.routerBox.append (.of_keep fun _ hm => hs _ (mem_toRouter hm))
  events := h.events.append (.of_keep fun _ he => hs _ (mem_toNode he))
  commands := h.commands
  applied := h.applied

/-- Sends of another account do not show. -/
theorem deliver_left (h : Isolates owner a s t) {sends : List Send}
    (hs : ∀ x ∈ sends, x.NotOf owner a) : Isolates owner a (s.deliver sends) t where
  account := h.account
  card := h.card
  accountBox := by
    have hnil : sends.filterMap (Send.toAccount? a) = [] :=
      List.eq_nil_iff_forall_not_mem.mpr fun m hm => hs _ (mem_toAccount hm) rfl
    show t.accountBox a = s.accountBox a ++ sends.filterMap (Send.toAccount? a)
    rw [hnil, List.append_nil, h.accountBox]
  cardBox c := by
    have hnil : sends.filterMap (Send.toCard? (a, c)) = [] :=
      List.eq_nil_iff_forall_not_mem.mpr fun m hm => hs _ (mem_toCard hm) rfl
    show t.cardBox (a, c) = s.cardBox (a, c) ++ sends.filterMap (Send.toCard? (a, c))
    rw [hnil, List.append_nil, h.cardBox]
  noAccounts := h.noAccounts
  noCards := h.noCards
  router := h.router
  routerBox := by
    have hdrop : Selects (RouterMsg.Of owner a) (RouterMsg.NotOf owner a)
        (sends.filterMap Send.toRouter?) [] := .of_drop fun _ hm => hs _ (mem_toRouter hm)
    have hsel := h.routerBox.append hdrop
    rwa [List.append_nil] at hsel
  events := by
    have hdrop : Selects (ActorEvent.Of a) (ActorEvent.NotOf a) (sends.filterMap Send.toNode?) [] :=
      .of_drop fun _ he => hs _ (mem_toNode he)
    have hsel := h.events.append hdrop
    rwa [List.append_nil] at hsel
  commands := h.commands
  applied := h.applied

/-- A command of the account is sent on both sides, another one on the left only. -/
theorem execute (h : Isolates owner a s t) (n : OpId) (o : Operation Amount) :
    (accountOf o = some a → Isolates owner a (s.execute n o) (t.execute n o)) ∧
      (accountOf o ≠ some a → Isolates owner a (s.execute n o) t) := by
  refine ⟨fun ho => ?_, fun ho => ?_⟩
  · exact { h with
      routerBox := h.routerBox.append (.keep ho .nil)
      commands := by
        show t.commands ++ [(n, o)] =
          (s.commands ++ [(n, o)]).filter fun command => accountOf command.2 = some a
        rw [List.filter_append, h.commands]
        simp [ho] }
  · exact { h with
      routerBox := by
        have hdrop : (RouterMsg.execute n o).NotOf owner a := ho
        have hsel := h.routerBox.append (.drop hdrop .nil)
        rwa [List.append_nil] at hsel
      commands := by
        show t.commands =
          (s.commands ++ [(n, o)]).filter fun command => accountOf command.2 = some a
        rw [List.filter_append, h.commands]
        simp [ho] }

/-- The history of one account goes on with what is its own. -/
theorem applied_both {xs ys zs : List Applied} (h : ys = xs.filter fun x => x.accountId = a)
    (hz : ∀ x ∈ zs, x.accountId = a) : ys ++ zs = (xs ++ zs).filter fun x => x.accountId = a := by
  rw [List.filter_append, ← h, List.filter_eq_self.mpr (by simpa using hz)]

theorem applied_left {xs ys zs : List Applied} (h : ys = xs.filter fun x => x.accountId = a)
    (hz : ∀ x ∈ zs, x.accountId ≠ a) : ys = (xs ++ zs).filter fun x => x.accountId = a := by
  rw [List.filter_append, ← h, List.filter_eq_nil_iff.mpr (by simpa using hz), List.append_nil]

/-- The account handles a message on both sides. -/
theorem accountStep_both (h : Isolates owner a s t) (m : AccountMsg) (rest : List AccountMsg)
    (hs : ∀ x ∈ ((s.account a).handle m).2, x.Of owner a) :
    Isolates owner a (s.accountStep a m rest) (t.accountStep a m rest) := by
  unfold ActorDb.accountStep
  rw [h.account]
  refine deliver_both ?_ hs
  exact { h with
    account := by simp
    accountBox := by simp
    noAccounts := fun b hb => by simp [hb, h.noAccounts b hb]
    applied := applied_both h.applied fun x hx => by
      obtain ⟨p, -, rfl⟩ := List.mem_map.mp hx
      rfl }

/-- Another account handles a message. -/
theorem accountStep_left (h : Isolates owner a s t) (hb : b ≠ a) (m : AccountMsg)
    (rest : List AccountMsg) (hs : ∀ x ∈ ((s.account b).handle m).2, x.Of owner b) :
    Isolates owner a (s.accountStep b m rest) t := by
  refine deliver_left ?_ fun x hx => (hs x hx).notOf hb
  exact { h with
    account := by simpa [Ne.symm hb] using h.account
    accountBox := by simpa [Ne.symm hb] using h.accountBox
    applied := applied_left h.applied fun x hx => by
      obtain ⟨p, -, rfl⟩ := List.mem_map.mp hx
      exact hb }

/-- A card of the account handles a message on both sides. -/
theorem cardStep_both (h : Isolates owner a s t) (c : CardId) (m : CardMsg) (rest : List CardMsg)
    (hs : ∀ x ∈ ((s.card (a, c)).handle m).2, x.Of owner a) :
    Isolates owner a (s.cardStep (a, c) m rest) (t.cardStep (a, c) m rest) := by
  unfold ActorDb.cardStep
  rw [h.card c]
  refine deliver_both ?_ hs
  exact { h with
    card := fun c' => by by_cases hc : c' = c <;> simp [hc, h.card]
    cardBox := fun c' => by by_cases hc : c' = c <;> simp [hc, h.cardBox]
    noCards := fun k hk => by
      have hne : k ≠ (a, c) := fun he => hk (he ▸ rfl)
      simp [hne, h.noCards k hk]
    applied := applied_both h.applied fun x hx => by
      obtain ⟨p, -, rfl⟩ := List.mem_map.mp hx
      rfl }

/-- A card of another account handles a message. -/
theorem cardStep_left (h : Isolates owner a s t) {k : CardKey} (hk : k.1 ≠ a) (m : CardMsg)
    (rest : List CardMsg) (hs : ∀ x ∈ ((s.card k).handle m).2, x.Of owner k.1) :
    Isolates owner a (s.cardStep k m rest) t := by
  refine deliver_left ?_ fun x hx => (hs x hx).notOf hk
  have hne : ∀ c, (a, c) ≠ k := fun c he => hk (he ▸ rfl)
  exact { h with
    card := fun c => by simp [hne c, h.card]
    cardBox := fun c => by simp [hne c, h.cardBox]
    applied := applied_left h.applied fun x hx => by
      obtain ⟨p, -, rfl⟩ := List.mem_map.mp hx
      exact hk }

variable (howner : ∀ n o, K n o → owner n = accountOf o)
  (hall : ∀ n o, K n o → accountOf o ≠ none)

include howner hall

/-- **A step of the database** is a step of the view or does not show in it. -/
theorem step (h : Isolates owner a s t) (ho : (originInv K).Holds s) (ht : Formed t)
    {l : Label} {s' : ActorDb} (hl : ∀ n o, l = .execute n o → K n o)
    (hstep : s.step l = some s') :
    Isolates owner a s' t ∨ ∃ t', t.step l = some t' ∧ Isolates owner a s' t' := by
  obtain ⟨n, o, rfl, rfl⟩ | ⟨m, rest, rfl, hbox, -, rfl⟩ | ⟨b, m, rest, rfl, hbox, rfl⟩ |
    ⟨k, m, rest, rfl, hbox, rfl⟩ := ActorDb.step_cases hstep
  · by_cases hoa : accountOf o = some a
    · exact .inr ⟨_, rfl, (h.execute n o).1 hoa⟩
    · exact .inl ((h.execute n o).2 hoa)
  · have hmem : m ∈ s.routerBox := by rw [hbox]; exact List.mem_cons_self
    have hsel := h.routerBox
    rw [hbox] at hsel
    generalize hys : t.routerBox = ys at hsel
    cases hsel with
    | @keep _ _ ys hm hrest =>
      obtain ⟨hsends, hof, hview⟩ := h.router.seen howner ho.router hm
      refine .inr ⟨t.routerStep m ys, by simp [ActorDb.step, hys, ht.alive], ?_⟩
      have hmid : Isolates owner a { s with router := (s.router.handle m).1, routerBox := rest }
          { t with router := (t.router.handle m).1, routerBox := ys } :=
        { h with router := hview, routerBox := hrest }
      unfold ActorDb.routerStep
      rw [hsends]
      exact hmid.deliver_both hof
    | drop hm hrest =>
      obtain ⟨hnot, hview⟩ := h.router.unseen howner hall ho.router hm (ho.routerBox m hmem)
      have hmid : Isolates owner a { s with router := (s.router.handle m).1, routerBox := rest } t :=
        { h with router := hview, routerBox := hys ▸ hrest }
      exact .inl (hmid.deliver_left hnot)
  · have hmem : m ∈ s.accountBox b := by rw [hbox]; exact List.mem_cons_self
    have hof := account_of howner hall (ho.account b) (ho.accountBox b m hmem)
    by_cases hb : b = a
    · subst hb
      refine .inr ⟨t.accountStep b m rest, ?_, h.accountStep_both m rest hof⟩
      simp [ActorDb.step, h.accountBox, hbox]
    · exact .inl (h.accountStep_left hb m rest hof)
  · have hmem : m ∈ s.cardBox k := by rw [hbox]; exact List.mem_cons_self
    have hof := card_of howner hall (ho.card k) (ho.cardBox k m hmem)
    by_cases hk : k.1 = a
    · obtain ⟨b, c⟩ := k
      obtain rfl : b = a := hk
      refine .inr ⟨t.cardStep (b, c) m rest, ?_, h.cardStep_both c m rest hof⟩
      simp [ActorDb.step, h.cardBox, hbox]
    · exact .inl (h.cardStep_left hk m rest hof)

end Isolates

end

/-- At the account `a` and its cards, `t` is `s`: the actors, their mailboxes, what was
    added to them and the results that were sent. -/
structure ActorDb.SameAt (s : ActorDb) (a : AccountId) (t : ActorDb) : Prop where
  account : t.account a = s.account a
  card : ∀ c, t.card (a, c) = s.card (a, c)
  accountBox : t.accountBox a = s.accountBox a
  cardBox : ∀ c, t.cardBox (a, c) = s.cardBox (a, c)
  applied : t.applied = s.applied.filter fun x => x.accountId = a
  results : t.events.filter ActorEvent.isResult = s.events.filter (ActorEvent.resultOf a)

/-- **Accounts are isolated.** For every run of commands about accounts, under distinct
    ids, and every account, some of the steps of the run are a run of the commands of that
    account alone, and at the account and its cards it ends in the same state, with the
    same results. It is at rest when the run is. -/
theorem accounts_isolated {ls : List Label} {s : ActorDb}
    (hr : run ActorDb.step ActorDb.init ls = some s)
    (hid : (s.commands.map Prod.fst).Nodup)
    (hall : ∀ command ∈ s.commands, accountOf command.2 ≠ none) (a : AccountId) :
    ∃ ms t, ms.Sublist ls ∧ run ActorDb.step ActorDb.init ms = some t ∧
      t.commands = s.commands.filter (fun command => accountOf command.2 = some a) ∧
      s.SameAt a t ∧ (s.Quiescent → t.Quiescent) := by
  have howner : ∀ n o, (n, o) ∈ s.commands → (s.operationOf n).bind accountOf = accountOf o := by
    intro n o hn
    rw [operationOf_eq hid hn]
    rfl
  obtain ⟨ms, t, hsub, hms, ho, hview, ht⟩ := run_stutter
    (R := fun u t => (originInv fun n o => (n, o) ∈ s.commands).Holds u ∧
      Isolates (fun n => (s.operationOf n).bind accountOf) a u t ∧ Formed t)
    (fun u l u' t ⟨ho, hview, ht⟩ hstep hreach => by
      have hl : ∀ n o, l = .execute n o → (n, o) ∈ s.commands := by
        rintro n o rfl
        obtain ⟨ks, hks⟩ := hreach
        obtain rfl : u.execute n o = u' := Option.some.inj hstep
        exact (run_commands hks).subset (by simp [ActorDb.execute])
      have ho' := origin_preserved.step (LocalInv.trivial_holds u) ho hl hstep
      obtain hv | ⟨t', ht', hv⟩ := hview.step howner (fun n o hn => hall (n, o) hn) ho ht hl hstep
      · exact .inl ⟨ho', hv, ht⟩
      · exact .inr ⟨t', ht', ho', hv, ht.step ht'⟩)
    hr ⟨origin_init, Isolates.init _ a, .init⟩
  refine ⟨ms, t, hsub, hms, hview.commands, ⟨hview.account, hview.card, hview.accountBox,
    hview.cardBox, hview.applied, ?_⟩, ?_⟩
  · refine (hview.events.filter_eq ?_ ?_).symm
    · intro e hof
      cases e with
      | operationResult n o r b err => exact decide_eq_true hof
      | debug text => rfl
    · intro e hnot
      cases e with
      | operationResult n o r b err => exact decide_eq_false hnot
      | debug text => rfl
  · intro hq
    have hbox := hview.routerBox
    rw [hq.router] at hbox
    refine ⟨?_, fun b => ?_, fun k => ?_⟩
    · generalize t.routerBox = ys at hbox
      cases hbox
      rfl
    · by_cases hb : b = a
      · rw [hb, hview.accountBox, hq.account]
      · exact hview.noAccounts b hb
    · by_cases hk : k.1 = a
      · obtain ⟨b, c⟩ := k
        obtain rfl : b = a := hk
        rw [hview.cardBox, hq.card]
      · exact hview.noCards k hk

end

/-- Charges of two accounts interleave, and one of them is refused. -/
theorem accounts_isolated_example :
    ∃ s, run ActorDb.step ActorDb.init
        [.execute 1 (.limitAccount 1 (some 50)), .execute 2 (.charge 2 7 60 false), .router,
          .router, .account 1, .execute 3 (.charge 1 7 60 false), .card (2, 7), .router, .router,
          .card (1, 7), .account 2, .account 1, .card (1, 7), .card (2, 7), .router,
          .router] = some s ∧ s.Quiescent ∧
      ∃ ms t, ms.Sublist
          [.execute 1 (.limitAccount 1 (some 50)), .execute 2 (.charge 2 7 60 false), .router,
            .router, .account 1, .execute 3 (.charge 1 7 60 false), .card (2, 7), .router, .router,
            .card (1, 7), .account 2, .account 1, .card (1, 7), .card (2, 7), .router, .router] ∧
        run ActorDb.step ActorDb.init ms = some t ∧
        t.commands = s.commands.filter (fun command => accountOf command.2 = some 1) ∧
        s.SameAt 1 t ∧ (s.Quiescent → t.Quiescent) := by
  have hrun : (run ActorDb.step ActorDb.init
      [.execute 1 (.limitAccount 1 (some 50)), .execute 2 (.charge 2 7 60 false), .router,
        .router, .account 1, .execute 3 (.charge 1 7 60 false), .card (2, 7), .router, .router,
        .card (1, 7), .account 2, .account 1, .card (1, 7), .card (2, 7), .router,
        .router]).any (fun s =>
          s.Drained ∧ s.commands = [(1, .limitAccount 1 (some 50)), (2, .charge 2 7 60 false),
            (3, .charge 1 7 60 false)]) = true := by
    decide +kernel
  obtain ⟨s, hs, hp⟩ := (Option.any_eq_true _ _).mp hrun
  obtain ⟨hd, hcmd⟩ := of_decide_eq_true hp
  refine ⟨s, hs, quiescent_of_known (known_reaches ⟨_, hs⟩) hd, ?_⟩
  exact accounts_isolated hs (by rw [hcmd]; decide) (by rw [hcmd]; simp [accountOf]) 1

end YpfRuta.Actors
