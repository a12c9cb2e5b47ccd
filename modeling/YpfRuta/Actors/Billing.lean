/-
  Billing conservation: as long as no query takes the slot of a pending bill, every
  successful charge is billed once or still counted by its card.
-/
import YpfRuta.Actors.BillBook

namespace YpfRuta.Actors

open Lib

section Books

variable {Amount : Type} [Currency Amount] {K : OpId → Operation Amount → Prop}
  {op : OpId → Option (Operation Amount)} {a : AccountId} {s s' : ActorDb} {l : Label}

/-! ## The book over a step -/

theorem BillBook.step (hop : ∀ n o, K n o → op n = some o)
    (hrep : ∀ n snapshot, ¬ K n (.replaceDatabase snapshot)) (hi : BillBook op a s)
    (hc : ¬ OverwritesBill s l) (ho : (originInv K).Holds s) (hs : s.Started) (hk : Known s)
    (hfresh : ∀ n o rest, s.routerBox = .execute n o :: rest → s.router.operations n = none)
    (h : s.step l = some s') : BillBook op a s' := by
  have hbill : ∀ n num, .startAccountBill n num ∈ s.accountBox a → isBill op a n = true := by
    intro n num hm
    obtain ⟨period, hko⟩ := ho.accountBox a _ hm
    simp [isBill, hop _ _ hko]
  have hpend : ∀ p, (s.account a).pendingQuery = some p → p.billing = true →
      isBill op a p.opId = true := by
    intro p hp hb
    obtain ⟨o, hko, hq⟩ := (ho.account a).2 p hp
    rw [isBill_eq (hop _ _ hko) hq, hb]
    simp
  obtain ⟨n, o, rfl, rfl⟩ | ⟨m, rest, rfl, hbox, -, rfl⟩ | ⟨a', m, rest, rfl, hbox, rfl⟩ |
    ⟨k, m, rest, rfl, hbox, rfl⟩ := ActorDb.step_cases h
  · exact hi.quiet rfl (List.append_nil _).symm (by simp) hbill hpend (fun _ _ => rfl)
      fun hno => ⟨hno, by simp⟩
  · have hm : routerMsgOrigin K m := ho.routerBox m (by rw [hbox]; exact List.mem_cons_self)
    have hmrep : ∀ n snapshot, m ≠ .execute n (.replaceDatabase snapshot) := by
      rintro n snapshot rfl
      exact hrep n snapshot hm
    by_cases hbegin : ∃ n period, m = .execute n (.bill a period)
    · obtain ⟨n, period, rfl⟩ := hbegin
      exact hi.begin hk hs (hfresh n _ rest hbox)
    · have hext := (ActorRouter.handle_known s.router m hk.cards).1
      have hnew : ∀ x ∈ (s.router.handle m).2.filterMap (Send.toAccount? a),
          x.isApply = false ∧ ∀ n num, x ≠ .startAccountBill n num := by
        intro x hx
        by_cases hexec : ∃ n o, m = .execute n o
        · obtain ⟨n, o, rfl⟩ := hexec
          obtain ⟨-, happly, hstart⟩ := execute_toAccount s.router n o x hx
          refine ⟨happly, fun n' num he => ?_⟩
          obtain ⟨period, rfl⟩ := hstart n' num he
          exact hbegin ⟨n, period, rfl⟩
        · rw [ActorRouter.handle_toAccount fun n o he => hexec ⟨n, o, he⟩] at hx
          cases hx
      refine hi.quiet rfl rfl (fun n num hx => (hnew _ hx).2 n num rfl) hbill hpend ?_ ?_
      · intro n hn
        refine routerStep_outstanding hk hmrep fun k hka => ?_
        by_cases hexec : ∃ n' o, m = .execute n' o
        · obtain ⟨n', o, rfl⟩ := hexec
          refine ActorRouter.execute_countP fun x hx => ?_
          cases hx with
          | query a' c billing hq =>
            by_contra hne
            simp only [Send.onCard, CardMsg.asks, Bool.and_eq_true, beq_iff_eq,
              Bool.not_eq_false] at hne
            obtain ⟨hkey, rfl⟩ := hne
            -- the questions are of `n` itself, which then is a bill of `a`
            rw [isBill_eq (hop _ _ hm) hq] at hn
            simp only [Bool.and_eq_true, decide_eq_true_eq] at hn
            obtain ⟨rfl, rfl⟩ := hn
            obtain ⟨period, rfl⟩ := hq
            exact hbegin ⟨n', period, rfl⟩
          | _ => simp [Send.onCard, CardMsg.asks]
        · exact ActorRouter.handle_events (fun n o he => hexec ⟨n, o, he⟩) fun _ => rfl
      · intro hno
        exact ⟨fun k hk => hno k (hext.cards k hk), fun x hx => (hnew x hx).1⟩
  · have hm := ho.accountBox a' m (by rw [hbox]; exact List.mem_cons_self)
    have hmrep : ∀ lim con, m ≠ .replaceState lim con := by
      rintro lim con rfl
      obtain ⟨n, snapshot, hko, -⟩ := hm
      exact hrep n snapshot hko
    by_cases haa : a' = a
    · subst haa
      refine hi.handle hbox hc hmrep ?_
      rintro n hn p hp rfl
      obtain ⟨o, hko, hq⟩ := (ho.account a').2 p hp
      rw [isBill_eq (hop _ _ hko) hq, Bool.and_eq_true] at hn
      exact hn.1
    · have hacc : (s.accountStep a' m rest).account a = s.account a := by
        simp [Function.update_of_ne (Ne.symm haa)]
      have hbox' : (s.accountStep a' m rest).accountBox a = s.accountBox a ++ [] := by
        rw [accountStep_box, Function.update_of_ne (Ne.symm haa), List.append_nil]
      refine hi.quiet hacc hbox' (by simp) hbill hpend ?_ fun hno => ⟨hno, by simp⟩
      intro n _
      have hasked : (s.accountStep a' m rest).asked a n = s.asked a n := by
        refine Keys.sum_congr fun k _ => ?_
        simp only [ActorDb.accountStep, ActorDb.deliver, List.countP_append, countP_toCard,
          AccountActor.handle_asks, Nat.add_zero]
      unfold ActorDb.outstanding
      rw [hasked, hbox', List.append_nil]
  · have hm := ho.cardBox k m (by rw [hbox]; exact List.mem_cons_self)
    have hknown : k ∈ s.router.cards := hk.cardBox k (by rw [hbox]; simp)
    have hnew : ∀ n num, .startAccountBill n num ∉
        ((s.card k).handle m).2.filterMap (Send.toAccount? a) := by
      intro n num hmem
      obtain ⟨x, hx, hxm⟩ := List.mem_filterMap.mp hmem
      cases CardActor.handle_emits _ m x hx <;>
        simp [Send.toAccount?, CardActor.completed, CardActor.applyCharge] at hxm
    refine hi.quiet rfl rfl hnew hbill hpend
      (fun n _ => cardStep_outstanding n hknown hbox (ho.card k) hm) ?_
    intro hno
    refine ⟨hno, ?_⟩
    -- the card belongs to another account
    have hka : (s.card k).accountId ≠ a := by
      rw [(ho.card k).accountId]
      exact hno k hknown
    have hzero := CardActor.handle_onAccount (s.card k) m (fun _ => true) hka
    rw [← countP_toAccount, List.countP_true, List.length_eq_zero_iff] at hzero
    rw [hzero]
    simp

/-- The operation sent under `n`. -/
def ActorDb.operationOf (s : ActorDb) (n : OpId) : Option (Operation Amount) :=
  (s.commands.find? fun c => c.1 = n).map Prod.snd

theorem operationOf_eq {n : OpId} {o : Operation Amount} (hid : (s.commands.map Prod.fst).Nodup)
    (hn : (n, o) ∈ s.commands) : s.operationOf n = some o := by
  unfold ActorDb.operationOf
  cases hf : s.commands.find? fun c => c.1 = n with
  | none =>
    have := List.find?_eq_none.mp hf (n, o) hn
    simp at this
  | some c =>
    have hc : c.1 = n := by simpa using List.find?_some hf
    have hmem : (n, c.2) ∈ s.commands := by
      rw [← hc]
      exact List.mem_of_find?_eq_some hf
    rw [Option.map_some, command_unique hid hmem hn]

/-- What the steps of a run keep: its books of the commands and of the bills of `a`. -/
structure KeepsBooks (op : OpId → Option (Operation Amount)) (a : AccountId) (t : ActorDb) :
    Prop where
  known : Known t
  started : t.Started
  command : ∀ n, CommandBook n t
  bills : BillBook op a t

theorem KeepsBooks.init : KeepsBooks op a ActorDb.init :=
  ⟨Known.init, started_init, fun _ => Nat.zero_le _, BillBook.init⟩

/-- A step of a run that ends in `s`, unless it overwrites a bill. -/
theorem KeepsBooks.step {t t' : ActorDb} (hid : (s.commands.map Prod.fst).Nodup)
    (hrep : s.NoReplace) (ho : (originInv fun n o => (n, o) ∈ s.commands).Holds t)
    (hsub : t'.commands <+: s.commands) (hc : ¬ OverwritesBill t l)
    (hi : KeepsBooks s.operationOf a t) (h : t.step l = some t') :
    KeepsBooks s.operationOf a t' := by
  have hop : ∀ n o, (n, o) ∈ s.commands → s.operationOf n = some o :=
    fun n o => operationOf_eq hid
  have huniq : ∀ n o o', (n, o) ∈ s.commands → (n, o') ∈ s.commands → o = o' :=
    fun n o o' => command_unique hid
  have hfresh : ∀ n o rest, t.routerBox = .execute n o :: rest →
      t.router.operations n = none := by
    intro n o rest hbox
    refine (hi.command n).fresh hbox ?_
    have hmem : (n, o) ∈ s.commands :=
      ho.routerBox (.execute n o) (by rw [hbox]; exact List.mem_cons_self)
    rw [← commanded_eq_one hid hmem]
    exact (((ActorDb.step_commands h).trans hsub).sublist).countP_le
  exact ⟨hi.known.step ho h, started_step huniq ho hi.started h, fun n => (hi.command n).step h,
    hi.bills.step hop hrep hc ho hi.started hi.known hfresh h⟩

/-- At rest no bill is pending. -/
theorem BillBook.quiescent (hi : BillBook op a s) (hq : s.Quiescent) (p : AccountPendingQuery)
    (hp : (s.account a).pendingQuery = some p) : p.billing = false := by
  by_contra hb
  obtain ⟨hpos, hcount⟩ := hi.pending p hp (by simpa using hb)
  have hzero : s.outstanding a p.opId = 0 := by
    unfold ActorDb.outstanding ActorDb.asked
    rw [hq.account, Keys.sum_eq_zero fun k _ => by rw [hq.card]; simp]
    rfl
  omega

end Books

variable {K : OpId → Operation Amount → Prop} {op : OpId → Option (Operation Amount)}
  {a : AccountId} {s s' : ActorDb} {l : Label}

/-! ## The money over a step -/

theorem money_deliver (t : ActorDb) (xs : List Send) :
    (t.deliver xs).money op a = t.money op a + (xs.map (Send.money op a)).sum := by
  rw [← money_delivered]
  simp only [ActorDb.money, ActorDb.deliver, List.map_append, List.sum_append,
    ActorDb.cardsConsumed]
  ring

theorem money_step (hop : ∀ n o, K n o → op n = some o)
    (hrep : ∀ n snapshot, ¬ K n (.replaceDatabase snapshot)) (hi : BillBook op a s)
    (hc : ¬ OverwritesBill s l) (ho : (originInv K).Holds s) (hs : s.Started) (hk : Known s)
    (h : s.step l = some s') : s'.money op a = s.money op a := by
  obtain ⟨n, o, rfl, rfl⟩ | ⟨m, rest, rfl, hbox, -, rfl⟩ | ⟨a', m, rest, rfl, hbox, rfl⟩ |
    ⟨k, m, rest, rfl, hbox, rfl⟩ := ActorDb.step_cases h
  · simp [ActorDb.money, ActorDb.execute, RouterMsg.money, ActorDb.cardsConsumed]
  · have hmem : m ∈ s.routerBox := by rw [hbox]; exact List.mem_cons_self
    have hm : routerMsgOrigin K m := ho.routerBox m hmem
    have hmrep : ∀ n snapshot, m ≠ .execute n (.replaceDatabase snapshot) := by
      rintro n snapshot rfl
      exact hrep n snapshot hm
    have hcards : (s.router.handle m).1.cards.sum
        (fun k => if k.1 = a then (s.card k).consumed else 0) = s.cardsConsumed a :=
      routerStep_sum hmrep fun k hk' => by simp [hk.card k hk', CardActor.new]
    have hsends := router_money (a := a) (r := s.router) (m := m)
      (fun n o hn => hop n o (ho.router n o hn)) (hs.routerBox m hmem)
    unfold ActorDb.routerStep
    rw [money_deliver, hsends]
    unfold ActorDb.money ActorDb.cardsConsumed
    dsimp only
    rw [hcards, hbox, List.map_cons, List.sum_cons]
    unfold ActorDb.cardsConsumed
    ring
  · have hm := ho.accountBox a' m (by rw [hbox]; exact List.mem_cons_self)
    have hsends := account_money (a := a) hop (ho.account a') hm fun haa => by
      subst haa
      exact hi.safe hbox hc
    unfold ActorDb.accountStep
    rw [money_deliver]
    unfold ActorDb.money ActorDb.cardsConsumed
    dsimp only
    by_cases haa : a' = a
    · subst haa
      simp only [if_true] at hsends
      rw [Function.update_self, Function.update_self, hbox, List.map_cons, List.sum_cons]
      linarith
    · simp only [haa, if_false, zero_add] at hsends
      rw [Function.update_of_ne (Ne.symm haa), Function.update_of_ne (Ne.symm haa), hsends,
        add_zero]
  · have hm := ho.cardBox k m (by rw [hbox]; exact List.mem_cons_self)
    have hknown : k ∈ s.router.cards := hk.cardBox k (by rw [hbox]; simp)
    have hsends := card_money (a := a) hop hrep (ho.card k) hm
    have hchange := Keys.sum_change hknown
      (f := fun j => if j.1 = a then (s.card j).consumed else 0)
      (g := fun j => if j.1 = a then
        (Function.update s.card k ((s.card k).handle m).1 j).consumed else 0)
      (fun j hj => by rw [Function.update_of_ne hj])
    simp only [Function.update_self] at hchange
    unfold ActorDb.cardStep
    rw [money_deliver]
    unfold ActorDb.money ActorDb.cardsConsumed
    dsimp only
    linarith

/-! ## Runs -/

/-- What the steps of a run keep: the money made is the money there is. -/
structure Conserves (op : OpId → Option (Operation Amount)) (a : AccountId) (t : ActorDb) :
    Prop extends KeepsBooks op a t where
  money : t.money op a = 0

theorem Conserves.init : Conserves op a ActorDb.init := by
  refine ⟨.init, ?_⟩
  simp [ActorDb.money, ActorDb.init, ActorDb.cardsConsumed, AccountActor.collected,
    AccountActor.new, ActorRouter.new, Keys.sum]

/-- A step of a run that ends in `s`, unless it overwrites a bill. -/
theorem Conserves.step {t t' : ActorDb} (hid : (s.commands.map Prod.fst).Nodup)
    (hrep : s.NoReplace) (ho : (originInv fun n o => (n, o) ∈ s.commands).Holds t)
    (hsub : t'.commands <+: s.commands) (hc : ¬ OverwritesBill t l)
    (hi : Conserves s.operationOf a t) (h : t.step l = some t') :
    Conserves s.operationOf a t' := by
  have hop : ∀ n o, (n, o) ∈ s.commands → s.operationOf n = some o :=
    fun n o => operationOf_eq hid
  exact ⟨hi.toKeepsBooks.step hid hrep ho hsub hc h,
    (money_step hop hrep hi.bills hc ho hi.started hi.known h).trans hi.money⟩

/-- **Billing conservation.** In a run where no query or bill takes the slot of a
    pending bill, what the bills of an account report and what its cards still count
    is what was charged to it. -/
theorem billing_conserved {ls : List Label} (hr : run ActorDb.step ActorDb.init ls = some s)
    (hc : Meets ActorDb.step (fun t l => ¬ OverwritesBill t l) ActorDb.init ls)
    (hid : (s.commands.map Prod.fst).Nodup) (hrep : s.NoReplace) (hq : s.Quiescent) :
    ∀ a, s.billed a + s.cardsConsumed a = s.charged a := by
  intro a
  obtain ⟨-, hall⟩ := meets_induct hr hc (P := Conserves s.operationOf a) origin_init
    Conserves.init fun t l t' ho hsub hcl hi h => hi.step hid hrep ho hsub hcl h
  -- at rest no bill is pending, and all the money is on the cards
  have hcollected : (s.account a).collected = 0 :=
    collected_eq_zero (hall.bills.quiescent hq)
  have hmoney := hall.money
  unfold ActorDb.money at hmoney
  rw [hq.router, hq.account, hcollected] at hmoney
  have hevents : (s.events.map (ActorEvent.money a)).sum = s.billed a - s.charged a := by
    unfold ActorDb.billed ActorDb.charged
    induction s.events with
    | nil => simp
    | cons e es ih =>
      simp only [List.map_cons, List.sum_cons, ih, ActorEvent.money]
      ring
  rw [hevents] at hmoney
  simp only [List.map_nil, List.sum_nil, add_zero] at hmoney
  linarith

/-- A charge, its bill, and a second charge that stays on the card. -/
theorem billing_conserved_example :
    ∃ s, run ActorDb.step ActorDb.init
        [.execute 1 (.charge 1 7 60 false), .execute 2 (.bill 1 none),
          .execute 3 (.charge 1 7 30 false), .router, .card (1, 7), .account 1, .card (1, 7),
          .router, .router, .router, .account 1, .card (1, 7), .account 1, .card (1, 7),
          .account 1, .card (1, 7), .router, .router] = some s ∧
      s.billed 1 = 60 ∧ s.billed 1 + s.cardsConsumed 1 = s.charged 1 := by
  have hrun : (run ActorDb.step ActorDb.init
      [.execute 1 (.charge 1 7 60 false), .execute 2 (.bill 1 none),
        .execute 3 (.charge 1 7 30 false), .router, .card (1, 7), .account 1, .card (1, 7),
        .router, .router, .router, .account 1, .card (1, 7), .account 1, .card (1, 7),
        .account 1, .card (1, 7), .router, .router]).any (fun s =>
          s.commands = [(1, .charge 1 7 60 false), (2, .bill 1 none), (3, .charge 1 7 30 false)] ∧
          s.Drained ∧ s.billed 1 = 60) = true := by
    decide +kernel
  obtain ⟨s, hs, hp⟩ := (Option.any_eq_true _ _).mp hrun
  obtain ⟨hcmd, hd, h60⟩ := of_decide_eq_true hp
  have hq : s.Quiescent := quiescent_of_known (known_reaches ⟨_, hs⟩) hd
  have hrep : s.NoReplace := by
    unfold ActorDb.NoReplace
    rw [hcmd]
    simp
  exact ⟨s, hs, h60, billing_conserved hs (by decide +kernel) (by rw [hcmd]; decide) hrep hq 1⟩

/-- **A bill can be lost.** The query takes the bill's slot before the card answers:
    the card is reset, its 60 are in no bill, and nobody counts them any more. -/
theorem billing_not_conserved :
    ¬ ∀ s : ActorDb, Reaches ActorDb.step ActorDb.init s → (s.commands.map Prod.fst).Nodup →
      s.NoReplace → s.Quiescent → ∀ a, s.billed a + s.cardsConsumed a = s.charged a := by
  intro hall
  have hrun : (run ActorDb.step ActorDb.init
      [.execute 1 (.charge 1 7 60 false), .execute 2 (.bill 1 none), .execute 3 (.accountQuery 1),
        .router, .card (1, 7), .account 1, .card (1, 7), .router, .router, .router, .account 1,
        .account 1, .card (1, 7), .card (1, 7), .account 1, .account 1, .router,
        .router]).any (fun s =>
          s.commands = [(1, .charge 1 7 60 false), (2, .bill 1 none), (3, .accountQuery 1)] ∧
          s.Drained ∧ s.billed 1 = 0 ∧ s.cardsConsumed 1 = 0 ∧ s.charged 1 = 60) = true := by
    decide +kernel
  obtain ⟨s, hs, hp⟩ := (Option.any_eq_true _ _).mp hrun
  obtain ⟨hcmd, hd, hbilled, hcards, hcharged⟩ := of_decide_eq_true hp
  have hq : s.Quiescent := quiescent_of_known (known_reaches ⟨_, hs⟩) hd
  have hrep : s.NoReplace := by
    unfold ActorDb.NoReplace
    rw [hcmd]
    simp
  have hbad := hall s ⟨_, hs⟩ (by rw [hcmd]; decide) hrep hq 1
  rw [hbilled, hcards, hcharged] at hbad
  exact absurd hbad (by decide +kernel)

end YpfRuta.Actors
