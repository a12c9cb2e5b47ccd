/-
  Started operations: everything in flight but the commands themselves is about an
  operation the router has registered, and with distinct ids the router meets each
  command for the first time.
-/
import YpfRuta.Actors.Origin
import YpfRuta.Actors.CardFlow
import YpfRuta.Actors.AccountFlow
import YpfRuta.Actors.RouterFlow

namespace YpfRuta.Actors

open Lib

variable {Amount : Type} [Currency Amount]

variable {K K' : OpId → Operation Amount → Prop}

/-- The origin invariant, without a requirement on commands. -/
def startedInv (K : OpId → Operation Amount → Prop) : LocalInv :=
  { originInv K with routerMsg := fun m => (∀ n o, m ≠ .execute n o) → routerMsgOrigin K m }

theorem startedInv_sent {x : Send} (h : (originInv K).Sent x) : (startedInv K).Sent x := by
  cases x with
  | router m => exact fun _ => h
  | account a m => exact h
  | card k m => exact h
  | event e => exact h

/-! The origin of a message under more operations. -/

theorem TaskOrigin.mono {k : CardKey} {t : CardTask} (hle : ∀ n o, K n o → K' n o)
    (h : TaskOrigin K k t) : TaskOrigin K' k t := by
  cases t with
  | charge op => exact hle _ _ h
  | limitChange n lim => exact hle _ _ h

theorem CardOrigin.mono {k : CardKey} {c : CardActor} (hle : ∀ n o, K n o → K' n o)
    (h : CardOrigin K k c) : CardOrigin K' k c where
  accountId := h.accountId
  cardId := h.cardId
  current t ht := (h.current t ht).mono hle
  queue t ht := (h.queue t ht).mono hle
  idle := h.idle

theorem routerMsgOrigin.mono {m : RouterMsg} (hle : ∀ n o, K n o → K' n o)
    (h : routerMsgOrigin K m) : routerMsgOrigin K' m := by
  cases m with
  | execute n o => exact hle n o h
  | operationCompleted n b e =>
    obtain ⟨o, ho, hrest⟩ := h
    exact ⟨o, hle n o ho, hrest⟩
  | accountQueryCompleted n a t l =>
    obtain ⟨o, billing, ho, hq⟩ := h
    exact ⟨o, billing, hle n o ho, hq⟩
  | accountSnapshotCollected n x =>
    obtain ⟨addr, ho⟩ := h
    exact ⟨addr, hle _ _ ho⟩
  | cardSnapshotCollected n x =>
    obtain ⟨addr, ho⟩ := h
    exact ⟨addr, hle _ _ ho⟩
  | _ => exact True.intro

theorem accountMsgOrigin.mono {a : AccountId} {m : AccountMsg} (hle : ∀ n o, K n o → K' n o)
    (h : accountMsgOrigin K a m) : accountMsgOrigin K' a m := by
  cases m with
  | applyChargeFromCard n amount c off k => exact ⟨h.1, hle _ _ h.2⟩
  | applyAccountLimit n lim => exact hle _ _ h
  | startAccountQuery n num => exact hle _ _ h
  | startAccountBill n num =>
    obtain ⟨period, ho⟩ := h
    exact ⟨period, hle _ _ ho⟩
  | cardQueryReply n c con =>
    obtain ⟨o, billing, ho, hq⟩ := h
    exact ⟨o, billing, hle n o ho, hq⟩
  | getSnapshot n =>
    obtain ⟨addr, ho⟩ := h
    exact ⟨addr, hle _ _ ho⟩
  | replaceState lim con =>
    obtain ⟨n, snapshot, ho, hm⟩ := h
    exact ⟨n, snapshot, hle _ _ ho, hm⟩

theorem cardMsgOrigin.mono {k : CardKey} {m : CardMsg} (hle : ∀ n o, K n o → K' n o)
    (h : cardMsgOrigin K k m) : cardMsgOrigin K' k m := by
  cases m with
  | executeCharge n a c amount off => exact ⟨h.1, hle _ _ h.2⟩
  | executeLimitChange n lim => exact hle _ _ h
  | queryCardState n a billing =>
    obtain ⟨ha, o, ho, hq⟩ := h
    exact ⟨ha, o, hle n o ho, hq⟩
  | getSnapshot n =>
    obtain ⟨addr, ho⟩ := h
    exact ⟨addr, hle _ _ ho⟩
  | replaceState lim con =>
    obtain ⟨n, snapshot, ho, hm⟩ := h
    exact ⟨n, snapshot, hle _ _ ho, hm⟩
  | debug text => exact True.intro
  | chargeReply r =>
    obtain ⟨amount, off, ho, hout⟩ := h
    exact ⟨amount, off, hle _ _ ho, hout⟩

theorem startedInv_mono {s : ActorDb} (hle : ∀ n o, K n o → K' n o)
    (h : (startedInv K).Holds s) : (startedInv K').Holds s where
  router n o ho := hle n o (h.router n o ho)
  account a := ⟨(h.account a).1, fun p hp => by
    obtain ⟨o, ho, hq⟩ := (h.account a).2 p hp
    exact ⟨o, hle _ _ ho, hq⟩⟩
  card k := (h.card k).mono hle
  routerBox m hm hne := (h.routerBox m hm hne).mono hle
  accountBox a m hm := accountMsgOrigin.mono hle (h.accountBox a m hm)
  cardBox k m hm := cardMsgOrigin.mono hle (h.cardBox k m hm)
  events e he := by
    have hk := h.events e he
    cases e with
    | operationResult n o r b err => exact hle n o hk
    | debug text => exact True.intro
  reported m hm hne := (h.reported m hm hne).mono hle

theorem originInv_mono {s : ActorDb} (hle : ∀ n o, K n o → K' n o)
    (h : (originInv K).Holds s) : (originInv K').Holds s := by
  have hs := startedInv_mono (K := K) hle
    { h with
      routerBox := fun m hm _ => h.routerBox m hm
      reported := fun m hm _ => h.reported m hm }
  exact { hs with
    routerBox := fun m hm => (h.routerBox m hm).mono hle
    reported := fun m hm => (h.reported m hm).mono hle }

/-! ## Registered operations -/

/-- The operations registered at the router. -/
def ActorDb.started (s : ActorDb) (n : OpId) (o : Operation Amount) : Prop :=
  s.router.operations n = some o

/-- Everything in flight is about a started operation. -/
def ActorDb.Started (s : ActorDb) : Prop := (startedInv s.started).Holds s

theorem started_step (huniq : ∀ n o o', K n o → K n o' → o = o') {s s' : ActorDb} {l : Label}
    (ho : (originInv K).Holds s) (hi : s.Started) (h : s.step l = some s') : s'.Started := by
  unfold ActorDb.Started at hi ⊢
  obtain ⟨n, o, rfl, rfl⟩ | ⟨m, rest, rfl, hbox, -, rfl⟩ | ⟨a, m, rest, rfl, hbox, rfl⟩ |
    ⟨k, m, rest, rfl, hbox, rfl⟩ := ActorDb.step_cases h
  · refine { hi with routerBox := ?_ }
    intro m hm
    simp only [ActorDb.execute, List.mem_append, List.mem_singleton] at hm
    refine hm.elim (hi.routerBox m) ?_
    rintro rfl hne
    exact absurd rfl (hne n o)
  · have hm : m ∈ s.routerBox := by rw [hbox]; exact List.mem_cons_self
    have hle : ∀ n o, s.started n o → (s.routerStep m rest).started n o := by
      intro n' o' ho'
      show (s.router.handle m).1.operations n' = some o'
      by_cases hexec : ∃ n o, m = .execute n o
      · obtain ⟨n, o, rfl⟩ := hexec
        rw [ActorRouter.handle, ActorRouter.execute_operations]
        by_cases hn : n' = n
        · subst hn
          have hoo : o' = o := huniq n' o' o (ho.router n' o' ho') (ho.routerBox _ hm)
          rw [Function.update_self, hoo]
        · rw [Function.update_of_ne hn]
          exact ho'
      · rw [ActorRouter.handle_operations _ _ fun n o he => hexec ⟨n, o, he⟩]
        exact ho'
    have hi' := startedInv_mono hle hi
    have hmsg : routerMsgOrigin (s.routerStep m rest).started m := by
      by_cases hexec : ∃ n o, m = .execute n o
      · obtain ⟨n, o, rfl⟩ := hexec
        show ((s.router.handle (.execute n o)).1.operations n) = some o
        rw [ActorRouter.handle, ActorRouter.execute_operations, Function.update_self]
      · exact hi'.routerBox m hm fun n o he => hexec ⟨n, o, he⟩
    have hk := router_origin s.router m hi'.router hmsg
    exact hi'.routerStep hbox hk.1 fun x hx => startedInv_sent (hk.2 x hx)
  · have hm : m ∈ s.accountBox a := by rw [hbox]; exact List.mem_cons_self
    have hk := account_origin a (s.account a) m (hi.account a) (hi.accountBox a m hm)
    exact hi.accountStep hbox hk.1 fun x hx => startedInv_sent (hk.2 x hx)
  · have hm : m ∈ s.cardBox k := by rw [hbox]; exact List.mem_cons_self
    have hk := card_origin k (s.card k) m (hi.card k) (hi.cardBox k m hm)
    exact hi.cardStep hbox hk.1 fun x hx => startedInv_sent (hk.2 x hx)

theorem started_init : ActorDb.init.Started := by
  refine LocalInv.holds_init ?_ ?_ ?_
  · intro n o ho
    exact ho
  · intro a
    exact ⟨rfl, by simp [AccountActor.new]⟩
  · intro k
    exact ⟨rfl, rfl, by simp [CardActor.new], by simp [CardActor.new], fun _ => rfl⟩

/-- How often `n` was commanded. -/
def ActorDb.commanded (s : ActorDb) (n : OpId) : Nat := s.commands.countP fun c => c.1 == n

/-- A command of `n` is at the router or registered. -/
def CommandBook (n : OpId) (s : ActorDb) : Prop :=
  s.routerBox.countP (RouterMsg.executes n) + (s.router.operations n).toList.length ≤
    s.commanded n

theorem CommandBook.step {n : OpId} {s s' : ActorDb} {l : Label} (hi : CommandBook n s)
    (h : s.step l = some s') : CommandBook n s' := by
  unfold CommandBook ActorDb.commanded at hi ⊢
  obtain ⟨n', o, rfl, rfl⟩ | ⟨m, rest, rfl, hbox, -, rfl⟩ | ⟨a, m, rest, rfl, hbox, rfl⟩ |
    ⟨k, m, rest, rfl, hbox, rfl⟩ := ActorDb.step_cases h
  · simp only [ActorDb.execute, List.countP_append, List.countP_singleton, RouterMsg.executes,
      beq_iff_eq]
    omega
  · rw [hbox, List.countP_cons] at hi
    simp only [ActorDb.routerStep, ActorDb.deliver, List.countP_append, countP_toRouter,
      ActorRouter.handle_onRouter, Nat.add_zero]
    by_cases hexec : ∃ n o, m = .execute n o
    · obtain ⟨n', o, rfl⟩ := hexec
      have hops : (s.router.handle (.execute n' o)).1.operations =
          Function.update s.router.operations n' (some o) :=
        ActorRouter.execute_operations s.router n' o
      rw [hops]
      simp only [RouterMsg.executes, beq_iff_eq] at hi
      by_cases hn : n' = n
      · subst hn
        simp only [Function.update_self, Option.toList_some, List.length_singleton, if_true]
          at hi ⊢
        omega
      · simp only [Function.update_of_ne (Ne.symm hn), hn, if_false] at hi ⊢
        omega
    · rw [ActorRouter.handle_operations _ _ fun n o he => hexec ⟨n, o, he⟩]
      omega
  · simp only [ActorDb.accountStep, ActorDb.deliver, List.countP_append, countP_toRouter,
      AccountActor.handle_executes, Nat.add_zero]
    exact hi
  · simp only [ActorDb.cardStep, ActorDb.deliver, List.countP_append, countP_toRouter,
      CardActor.handle_executes, Nat.add_zero]
    exact hi

theorem commanded_eq_one {s : ActorDb} {n : OpId} {o : Operation Amount}
    (hid : (s.commands.map Prod.fst).Nodup) (hn : (n, o) ∈ s.commands) : s.commanded n = 1 := by
  have hcount : s.commanded n = (s.commands.map Prod.fst).count n := by
    unfold ActorDb.commanded
    rw [List.count, List.countP_map]
    rfl
  rw [hcount]
  exact List.count_eq_one_of_mem hid (List.mem_map_of_mem hn)

/-- With distinct ids, the router has not seen the command at its head before. -/
theorem CommandBook.fresh {s : ActorDb} {n : OpId} {o : Operation Amount} {rest : List RouterMsg}
    (hi : CommandBook n s) (hbox : s.routerBox = .execute n o :: rest) (hle : s.commanded n ≤ 1) :
    s.router.operations n = none := by
  by_contra hne
  obtain ⟨o', ho'⟩ := Option.ne_none_iff_exists'.mp hne
  unfold CommandBook at hi
  rw [hbox, List.countP_cons, ho'] at hi
  simp only [RouterMsg.executes, beq_self_eq_true, if_true, Option.toList_some,
    List.length_singleton] at hi
  omega

end YpfRuta.Actors
