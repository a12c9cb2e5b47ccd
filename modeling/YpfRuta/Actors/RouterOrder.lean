/-
  The router and the list of operations. It hands the operations out in the order of the
  list, each to the actors it is about, and makes results of what they report.
-/
import YpfRuta.Actors.AccountOrder
import YpfRuta.Actors.CardOrder

namespace YpfRuta.Actors

open Lib

variable {Amount : Type} [Currency Amount]

/-- The message an operation on an account sends to account `a`, which has `num` cards. -/
def handedAccount (a : AccountId) (num : Nat) (n : OpId) :
    Operation Amount → List AccountMsg
  | .limitAccount b newLimit => if b = a then [.applyAccountLimit n newLimit] else []
  | .accountQuery b => if b = a then [.startAccountQuery n num] else []
  | .bill b _ => if b = a then [.startAccountBill n num] else []
  | _ => []

/-- The message it sends to card `k`, which is `known` or not. -/
def handedCard (k : CardKey) (known : Prop) [Decidable known] (n : OpId) :
    Operation Amount → List CardMsg
  | .charge a c amount off => if (a, c) = k then [.executeCharge n a c amount off] else []
  | .limitCard a c newLimit => if (a, c) = k then [.executeLimitChange n newLimit] else []
  | .accountQuery a => if a = k.1 ∧ known then [.queryCardState n a false] else []
  | .bill a _ => if a = k.1 ∧ known then [.queryCardState n a true] else []
  | _ => []

namespace ActorRouter

theorem queryCards_card (r : ActorRouter) (n : OpId) (a : AccountId) (start : AccountMsg)
    (reset : Bool) (k : CardKey) :
    (r.queryCards n a start reset).filterMap (Send.toCard? k) =
      if a = k.1 ∧ k ∈ r.cards then [.queryCardState n a reset] else [] := by
  unfold queryCards
  rw [List.filterMap_cons_none rfl, List.filterMap_map]
  by_cases ha : a = k.1
  · subst ha
    have hfun : (Send.toCard? k ∘ fun c => Send.card (k.1, c) (.queryCardState n k.1 reset)) =
        fun c => if c = k.2 then some (.queryCardState n k.1 reset) else none := by
      funext c
      simp [Send.toCard?, Prod.ext_iff]
    rw [hfun, filterMap_one _ _ (cardIds_nodup r k.1)]
    simp [mem_cardIds]
  · rw [if_neg fun h => ha h.1]
    refine List.filterMap_eq_nil_iff.mpr fun c _ => ?_
    exact if_neg fun h => ha (congrArg Prod.fst h)

theorem queryCards_account (r : ActorRouter) (n : OpId) (a b : AccountId) (start : AccountMsg)
    (reset : Bool) :
    (r.queryCards n b start reset).filterMap (Send.toAccount? a) =
      if b = a then [start] else [] := by
  by_cases hb : b = a
  · subst hb
    rw [if_pos rfl]
    exact r.queryCards_toAccount start reset
  · rw [if_neg hb]
    refine List.filterMap_eq_nil_iff.mpr fun x hx => ?_
    obtain rfl | hx := List.mem_cons.mp hx
    · exact if_neg hb
    · obtain ⟨c, -, rfl⟩ := List.mem_map.mp hx
      rfl

theorem queryCards_node (r : ActorRouter) (n : OpId) (a : AccountId) (start : AccountMsg)
    (reset : Bool) : (r.queryCards n a start reset).filterMap Send.toNode? = [] := by
  refine List.filterMap_eq_nil_iff.mpr fun x hx => ?_
  obtain rfl | hx := List.mem_cons.mp hx
  · rfl
  · obtain ⟨c, -, rfl⟩ := List.mem_map.mp hx
    rfl

/-- **What an operation on an account sets off.** -/
theorem execute_hands (r : ActorRouter) (n : OpId) {o : Operation Amount}
    (ho : (accountOf? o).isSome) :
    (∀ k, (r.execute n o).2.filterMap (Send.toCard? k) = handedCard k (k ∈ r.cards) n o) ∧
    (∀ a, (r.execute n o).2.filterMap (Send.toAccount? a) =
      handedAccount a (r.cardIds a).length n o) ∧
    (r.execute n o).2.filterMap Send.toNode? = [] := by
  cases o with
  | charge a c amount off =>
    refine ⟨fun k => ?_, fun b => rfl, rfl⟩
    by_cases hk : (a, c) = k <;> simp [execute, Send.toCard?, handedCard, hk]
  | limitCard a c newLimit =>
    refine ⟨fun k => ?_, fun b => rfl, rfl⟩
    by_cases hk : (a, c) = k <;> simp [execute, Send.toCard?, handedCard, hk]
  | limitAccount b newLimit =>
    refine ⟨fun k => rfl, fun a => ?_, rfl⟩
    by_cases hb : b = a <;> simp [execute, Send.toAccount?, handedAccount, hb]
  | accountQuery b =>
    refine ⟨fun k => queryCards_card _ n b _ false k, fun a => ?_, queryCards_node _ n b _ false⟩
    refine (queryCards_account _ n a b _ false).trans ?_
    by_cases hb : b = a
    · subst hb
      rfl
    · simp [handedAccount, hb]
  | bill b period =>
    refine ⟨fun k => queryCards_card _ n b _ true k, fun a => ?_, queryCards_node _ n b _ true⟩
    refine (queryCards_account _ n a b _ true).trans ?_
    by_cases hb : b = a
    · subst hb
      rfl
    · simp [handedAccount, hb]
  | _ => cases ho

/-- The router knows the account of an operation, and its card, from then on. -/
theorem execute_knows {r : ActorRouter} (hr : r.CardsKnown) (n : OpId) {o : Operation Amount}
    (ho : (accountOf? o).isSome) :
    (∀ a, a ∈ (r.execute n o).1.accounts ↔ a ∈ r.accounts ∨ accountOf? o = some a) ∧
    (∀ k, k ∈ (r.execute n o).1.cards ↔ k ∈ r.cards ∨ cardKey? o = some k) := by
  have hr' : ({ r with operations := Function.update r.operations n (some o) } :
      ActorRouter).CardsKnown := hr
  have hcomm : ∀ {β : Type} (x y : β), x = y ↔ some y = some x := fun x y => by
    rw [Option.some.injEq, eq_comm]
  cases o with
  | charge a c amount off =>
    refine ⟨fun b => ?_, fun k => ?_⟩
    · exact (mem_getOrCreateCard hr' a c b).trans (or_congr_right (hcomm b a))
    · exact (mem_getOrCreateCard_cards k).trans (or_congr_right (hcomm k (a, c)))
  | limitCard a c newLimit =>
    refine ⟨fun b => ?_, fun k => ?_⟩
    · exact (mem_getOrCreateCard hr' a c b).trans (or_congr_right (hcomm b a))
    · exact (mem_getOrCreateCard_cards k).trans (or_congr_right (hcomm k (a, c)))
  | limitAccount a newLimit =>
    exact ⟨fun b => Keys.mem_insert.trans (or_congr_right (hcomm b a)), fun k => by simp [execute,
      getOrCreateAccount, cardKey?]⟩
  | accountQuery a =>
    exact ⟨fun b => Keys.mem_insert.trans (or_congr_right (hcomm b a)), fun k => by simp [execute,
      executeAccountQuery, getOrCreateAccount, cardKey?]⟩
  | bill a period =>
    exact ⟨fun b => Keys.mem_insert.trans (or_congr_right (hcomm b a)), fun k => by simp [execute,
      executeBill, getOrCreateAccount, cardKey?]⟩
  | _ => cases ho

end ActorRouter

namespace Script

variable {S : Script} {r : Nat} {p d : CardKey → Nat} {q : AccountId → Nat} {ds es : List Nat}
  {s : ActorDb} {n : OpId} {o : Operation Amount}

theorem handedCard_item (L : Ledger) (k : CardKey) (known : Prop) [Decidable known]
    (hk : known ↔ (L.card k).isSome) (n : OpId) (o : Operation Amount) :
    (handedCard k known n o).filterMap CardMsg.item? = (itemOf L k n o).toList := by
  cases o with
  | charge a c amount off => by_cases h : (a, c) = k <;> simp [handedCard, itemOf, h, CardMsg.item?]
  | limitCard a c newLimit =>
    by_cases h : (a, c) = k <;> simp [handedCard, itemOf, h, CardMsg.item?]
  | accountQuery a =>
    by_cases h : a = k.1 ∧ known
    · simp [handedCard, itemOf, h, hk.mp h.2, CardMsg.item?]
    · have h' : ¬ (a = k.1 ∧ (L.card k).isSome) := fun hc => h ⟨hc.1, hk.mpr hc.2⟩
      simp [handedCard, itemOf, h, h']
  | bill a period =>
    by_cases h : a = k.1 ∧ known
    · simp [handedCard, itemOf, h, hk.mp h.2, CardMsg.item?]
    · have h' : ¬ (a = k.1 ∧ (L.card k).isSome) := fun hc => h ⟨hc.1, hk.mpr hc.2⟩
      simp [handedCard, itemOf, h, h']
  | _ => rfl

theorem handedCard_for (k : CardKey) (known : Prop) [Decidable known] (n : OpId)
    (o : Operation Amount) : ∀ m ∈ handedCard k known n o, m.For k ∧ m.reply? = none := by
  intro m hm
  cases o with
  | charge a c amount off =>
    obtain ⟨hk, hm⟩ := List.mem_ite_nil_right.mp hm
    obtain rfl := List.mem_singleton.mp hm
    exact ⟨hk, rfl⟩
  | limitCard a c newLimit =>
    obtain ⟨-, hm⟩ := List.mem_ite_nil_right.mp hm
    obtain rfl := List.mem_singleton.mp hm
    exact ⟨True.intro, rfl⟩
  | accountQuery a =>
    obtain ⟨hk, hm⟩ := List.mem_ite_nil_right.mp hm
    obtain rfl := List.mem_singleton.mp hm
    exact ⟨hk.1, rfl⟩
  | bill a period =>
    obtain ⟨hk, hm⟩ := List.mem_ite_nil_right.mp hm
    obtain rfl := List.mem_singleton.mp hm
    exact ⟨hk.1, rfl⟩
  | _ => cases hm

theorem handedAccount_item (a : AccountId) (num : Nat) (n : OpId) (o : Operation Amount) :
    (handedAccount a num n o).filterMap AccountMsg.item? = (directOf a n o).toList := by
  cases o with
  | limitAccount b newLimit =>
    by_cases h : b = a <;> simp [handedAccount, directOf, h, AccountMsg.item?]
  | accountQuery b => by_cases h : b = a <;> simp [handedAccount, directOf, h, AccountMsg.item?]
  | bill b period => by_cases h : b = a <;> simp [handedAccount, directOf, h, AccountMsg.item?]
  | _ => rfl

/-- What the router hands an account is no charge and no answer; a query comes with the
    number of the account's cards. -/
theorem handedAccount_mem {a : AccountId} {num : Nat} {m : AccountMsg}
    (hm : m ∈ handedAccount a num n o) :
    (∃ newLimit, m = .applyAccountLimit n newLimit) ∨ m = .startAccountQuery n num ∨
      m = .startAccountBill n num := by
  cases o with
  | limitAccount b newLimit =>
    obtain ⟨-, hm⟩ := List.mem_ite_nil_right.mp hm
    exact Or.inl ⟨newLimit, List.mem_singleton.mp hm⟩
  | accountQuery b =>
    obtain ⟨-, hm⟩ := List.mem_ite_nil_right.mp hm
    exact Or.inr (Or.inl (List.mem_singleton.mp hm))
  | bill b period =>
    obtain ⟨-, hm⟩ := List.mem_ite_nil_right.mp hm
    exact Or.inr (Or.inr (List.mem_singleton.mp hm))
  | _ => cases hm

/-- The next command is the next operation of the list. -/
theorem RouterAt.next {router : ActorRouter} {rest : List RouterMsg}
    {commands : List (OpId × Operation Amount)}
    (h : S.RouterAt r router (.execute n o :: rest) commands) :
    S.Op r n o ∧ r < commands.length ∧
      rest.filterMap RouterMsg.command? = commands.drop (r + 1) := by
  have hqueue := h.queue
  have hx : RouterMsg.command? (.execute n o) = some (n, o) := rfl
  rw [List.filterMap_cons_some hx] at hqueue
  have hget : commands[r]? = some (n, o) := by
    rw [← List.head?_drop, ← hqueue]
    rfl
  have hlt : r < commands.length := (List.getElem?_eq_some_iff.mp hget).1
  refine ⟨?_, hlt, ?_⟩
  · obtain ⟨t, ht⟩ := h.sent
    unfold Op
    rw [← ht, List.getElem?_append_left hlt]
    exact hget
  · rw [← List.tail_drop, ← hqueue]
    rfl

/-- The router of the list, after one more command. -/
theorem RouterAt.execute {router : ActorRouter} {rest : List RouterMsg}
    {commands : List (OpId × Operation Amount)}
    (h : S.RouterAt r router (.execute n o :: rest) commands) :
    S.RouterAt (r + 1) (router.execute n o).1 rest commands := by
  obtain ⟨hop, hlt, hqueue⟩ := h.next
  obtain ⟨haccounts, hcards⟩ := ActorRouter.execute_knows h.known n hop.account
  refine ⟨(ActorRouter.execute_known router n o h.known).2.1, h.sent, hlt, hqueue, ?_, ?_, ?_⟩
  · intro a
    rw [haccounts, h.accounts, hop.ledger, Ledger.serve_account_isSome]
  · intro k
    rw [hcards, h.cards, hop.ledger, Ledger.serve_card_isSome]
  · intro i n' o' hi hop'
    rw [ActorRouter.execute_operations]
    by_cases hir : i = r
    · subst hir
      obtain ⟨rfl, rfl⟩ := hop.same hop'
      exact Function.update_self ..
    · have hn : n' ≠ n := by
        rintro rfl
        exact hir (hop'.unique hop).1
      rw [Function.update_of_ne hn]
      exact h.operations i n' o' (by omega) hop'

/-- Nothing has ended that the router has not handled. -/
theorem Tracks.not_ended (h : S.Tracks r p d q ds es s) (n : OpId) (o : Operation Amount) :
    ¬ Ended p q s.account r n o := by
  have hq := fun a => (h.account a).taken.le
  cases o with
  | charge a c amount off => exact Nat.not_lt.mpr (h.card (a, c)).le
  | limitCard a c newLimit => exact Nat.not_lt.mpr (h.card (a, c)).le
  | limitAccount a newLimit => exact fun hc => absurd hc.1 (Nat.not_lt.mpr (hq a))
  | accountQuery a => exact fun hc => absurd hc.1 (Nat.not_lt.mpr (hq a))
  | bill a period => exact fun hc => absurd hc.1 (Nat.not_lt.mpr (hq a))
  | _ => exact id

/-- **The router handles the next operation.** -/
theorem Tracks.dispatch {rest : List RouterMsg} (h : S.Tracks r p d q ds es s)
    (hbox : s.routerBox = .execute n o :: rest) :
    S.Tracks (r + 1) p d q ds es (s.routerStep (.execute n o) rest) := by
  have hrouter := h.router
  rw [hbox] at hrouter
  obtain ⟨hop, hlt, -⟩ := hrouter.next
  obtain ⟨hcards, haccounts, hevents⟩ := ActorRouter.execute_hands s.router n hop.account
  have hrouterBox : (s.routerStep (.execute n o) rest).routerBox = rest := by
    show rest ++ (s.router.handle (.execute n o)).2.filterMap Send.toRouter? = rest
    rw [ActorRouter.handle_toRouter, List.append_nil]
  have hcardBox : ∀ k, (s.routerStep (.execute n o) rest).cardBox k =
      s.cardBox k ++ handedCard k (k ∈ s.router.cards) n o := fun k =>
    congrArg (s.cardBox k ++ ·) (hcards k)
  have haccountBox : ∀ a, (s.routerStep (.execute n o) rest).accountBox a =
      s.accountBox a ++ handedAccount a (s.router.cardIds a).length n o := fun a =>
    congrArg (s.accountBox a ++ ·) (haccounts a)
  have hevents' : (s.routerStep (.execute n o) rest).events = s.events := by
    show s.events ++ (s.router.execute n o).2.filterMap Send.toNode? = s.events
    rw [hevents, List.append_nil]
  refine ⟨?_, fun k => ?_, fun a => ?_, ?_⟩
  · rw [hrouterBox]
    exact hrouter.execute
  · have hasked : ((s.routerStep (.execute n o) rest).accountBox k.1).filterMap
        (AccountMsg.charge? k) = (s.accountBox k.1).filterMap (AccountMsg.charge? k) := by
      have hnil : (handedAccount k.1 (s.router.cardIds k.1).length n o).filterMap
          (AccountMsg.charge? k) = [] := by
        refine List.filterMap_eq_nil_iff.mpr fun m hm => ?_
        obtain ⟨newLimit, rfl⟩ | rfl | rfl := handedAccount_mem hm <;> rfl
      rw [haccountBox, List.filterMap_append, hnil, List.append_nil]
    rw [hasked, hcardBox]
    refine (h.card k).extend (handedCard_for k _ n o) ?_
    rw [hop.item]
    exact handedCard_item _ k _ (hrouter.cards k) n o
  · rw [haccountBox]
    have hdir : (handedAccount a (s.router.cardIds a).length n o).filterMap AccountMsg.item? =
        (S.direct a r).toList := by
      rw [hop.direct]
      exact handedAccount_item a _ n o
    refine ⟨(h.account a).named, (h.account a).entry, ?_, ?_⟩
    · refine (h.account a).taken.extend (fun c => (h.card (a, c)).bounds.2) ?_ hdir
      intro m hm
      obtain ⟨newLimit, rfl⟩ | rfl | rfl := handedAccount_mem hm <;> exact True.intro
    · refine (h.account a).asked.extend (h.account a).taken (fun c => (h.card (a, c)).le) ?_ ?_
      · intro m hm n'
        obtain ⟨newLimit, rfl⟩ | rfl | rfl := handedAccount_mem hm <;> rfl
      · intro n' num hm i o' hop'
        have hnum : n' = n ∧ num = (s.router.cardIds a).length := by
          obtain hm | hm := hm <;>
            obtain ⟨newLimit, he⟩ | he | he := handedAccount_mem hm <;> simp_all
        obtain ⟨rfl, rfl⟩ := hnum
        obtain ⟨rfl, -⟩ := hop'.unique hop
        refine ⟨s.router.cardIds a, cardIds_nodup _ _, fun c => ?_, rfl⟩
        rw [mem_cardIds]
        exact hrouter.cards (a, c)
  · have hfilter : (s.routerBox.filter fun m => m.command?.isNone) =
        rest.filter fun m => m.command?.isNone := by
      rw [hbox]
      rfl
    rw [hrouterBox, hevents']
    refine ⟨h.booked.events, ?_, h.booked.nodup, fun i hi => Nat.lt_succ_of_lt (h.booked.lt i hi),
      ?_⟩
    · rw [← hfilter]
      exact h.booked.reports
    · intro i n' o' hi hop'
      by_cases hir : i = r
      · subst hir
        exact iff_of_false (fun hm => absurd (h.booked.lt i hm) (Nat.lt_irrefl i))
          (h.not_ended n' o')
      · exact h.booked.ended i n' o' (by omega) hop'

/-- The node sends the next operation. -/
theorem Tracks.execute (h : S.Tracks r p d q ds es s)
    (hsent : (s.execute n o).commands <+: S.ops) : S.Tracks r p d q ds es (s.execute n o) := by
  have hx : [RouterMsg.execute n o].filterMap RouterMsg.command? = [(n, o)] := rfl
  have hbox : (s.execute n o).routerBox = s.routerBox ++ [.execute n o] := rfl
  refine ⟨⟨h.router.known, hsent, ?_, ?_, h.router.accounts, h.router.cards,
    h.router.operations⟩, h.card, h.account, ⟨h.booked.events, ?_, h.booked.nodup, h.booked.lt,
    h.booked.ended⟩⟩
  · exact h.router.le.trans (by simp [ActorDb.execute])
  · rw [hbox, List.filterMap_append, hx, h.router.queue]
    exact (List.drop_append_of_le_length h.router.le).symm
  · rw [hbox, List.filter_append]
    have hnil : [RouterMsg.execute n o].filter (fun m => m.command?.isNone) = [] := rfl
    rw [hnil, List.append_nil]
    exact h.booked.reports

/-- A report makes the result of its operation. -/
theorem RouterAt.result {router : ActorRouter} {rest : List RouterMsg} {m : RouterMsg} {i : Nat}
    {commands : List (OpId × Operation Amount)} (h : S.RouterAt r router (m :: rest) commands)
    (hir : i < r) (hm : S.Report i m) :
    ∃ e, S.Event i e ∧ router.handle m = (router, [.event e]) := by
  cases hm with
  | @task n o hop ht =>
    obtain ⟨res, hres, hserve⟩ := (S.ledger i).serves_task ht
    rw [← hop.ledger] at hserve
    exact ⟨_, ⟨n, o, res, _, hop, hserve, rfl⟩,
      ActorRouter.handle_completed (h.operations i n o hir hop) hres⟩
  | @query n o a billing spent hop hq hl =>
    have hserve := (S.ledger i).serves_query hq hl
    rw [← hop.ledger] at hserve
    refine ⟨_, ⟨n, o, _, _, hop, hserve, rfl⟩, ?_⟩
    simp only [ActorRouter.handle, ActorRouter.accountQueryCompleted, h.operations i n o hir hop]
    rfl

/-- **The router takes a report**, and makes a result of it. -/
theorem Tracks.reported {m : RouterMsg} {rest : List RouterMsg} (h : S.Tracks r p d q ds es s)
    (hbox : s.routerBox = m :: rest) (hm : m.command? = none) :
    ∃ i es', S.Tracks r p d q (ds ++ [i]) es' (s.routerStep m rest) := by
  have hbooked := h.booked
  have hrouter := h.router
  rw [hbox] at hbooked hrouter
  obtain ⟨hevents, hreports, hnodup, hlt, hended⟩ := hbooked
  rw [List.filter_cons_of_pos (by rw [hm]; rfl)] at hreports
  obtain ⟨i, es', hreport, hreports', rfl⟩ := List.forall₂_cons_right_iff.mp hreports
  have hir : i < r := hlt i (by simp)
  obtain ⟨e, hevent, hhandle⟩ := hrouter.result hir hreport
  have hstep : s.routerStep m rest = { s with routerBox := rest, events := s.events ++ [e] } := by
    unfold ActorDb.routerStep
    rw [hhandle]
    have haccount : ∀ a, [Send.event e].filterMap (Send.toAccount? a) = [] := fun _ => rfl
    have hcard : ∀ k, [Send.event e].filterMap (Send.toCard? k) = [] := fun _ => rfl
    simp [ActorDb.deliver, haccount, hcard, Send.toRouter?, Send.toNode?]
  have hassoc : (ds ++ [i]) ++ es' = ds ++ i :: es' := by simp
  rw [hstep]
  refine ⟨i, es', ⟨hrouter.known, hrouter.sent, hrouter.le, ?_, hrouter.accounts, hrouter.cards,
    hrouter.operations⟩, h.card, h.account, ⟨?_, hreports', ?_, ?_, ?_⟩⟩
  · rw [← hrouter.queue, List.filterMap_cons_none hm]
  · exact List.rel_append hevents (.cons hevent .nil)
  · rwa [hassoc]
  · rwa [hassoc]
  · rwa [hassoc]

end Script

end YpfRuta.Actors
