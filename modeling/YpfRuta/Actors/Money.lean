/-
  Money of one account `a`: the amounts its cards have consumed and no bill has
  reported yet, wherever they are. A successful charge creates money, a reported
  bill takes it out, and no handler makes or loses any on the way.

  `op n` is the operation that was sent under the id `n`.
-/
import Mathlib.Algebra.Order.Ring.Rat
import Mathlib.Tactic.Linarith
import Mathlib.Tactic.Ring
import YpfRuta.Lib.Sums
import YpfRuta.Actors.Known
import YpfRuta.Actors.Completion

namespace YpfRuta.Actors

open Lib

/-! ## Bills -/

section Bills

variable {Amount : Type} [Currency Amount] (op : OpId → Option (Operation Amount)) (a : AccountId)

/-- `n` is a bill of account `a`. -/
def isBill (n : OpId) : Bool :=
  match op n with
  | some (.bill a' _) => a' = a
  | _ => false

/-- A query or a bill that takes the account's pending slot. -/
def AccountMsg.startsQuery : AccountMsg → Bool
  | .startAccountQuery _ numCards => 0 < numCards
  | .startAccountBill _ numCards => 0 < numCards
  | _ => false

variable {op a}

omit [Currency Amount] in
theorem isBill_eq {n : OpId} {a' : AccountId} {o : Operation Amount} {b : Bool}
    (ho : op n = some o) (hq : Queries a' b o) :
    isBill op a n = (b && decide (a' = a)) := by
  cases b with
  | true =>
    obtain ⟨period, rfl⟩ := hq
    simp [isBill, ho]
  | false =>
    have h : o = .accountQuery a' := hq
    subst h
    simp [isBill, ho]

/-- What the money of `a` needs of a message of `a`: no pending bill is given up, a
    bill without cards finds nothing, and the reply to a bill finds that bill. -/
structure MoneySafe (op : OpId → Option (Operation Amount)) (a : AccountId) (x : AccountActor)
    (m : AccountMsg) : Prop where
  keeps : m.startsQuery = true → ∀ p, x.pendingQuery = some p → p.billing = false
  empty : ∀ n, m = .startAccountBill n 0 → x.accountConsumed = 0
  expected : ∀ n c con, m = .cardQueryReply n c con → isBill op a n = true →
    ∃ p, x.pendingQuery = some p ∧ p.opId = n

end Bills

/-! ## Money -/

/-- What a result bills to account `a`. -/
def ActorEvent.billed (a : AccountId) : ActorEvent → Amount
  | .operationResult _ (.bill a' _) (.accountQuery r) _ _ => if a' = a then r.totalSpent else 0
  | _ => 0

/-- What a result says was charged to account `a`. -/
def ActorEvent.charged (a : AccountId) : ActorEvent → Amount
  | .operationResult _ (.charge a' _ amount _) (.charge .ok) _ _ => if a' = a then amount else 0
  | _ => 0

/-- Sum of `total_spent` over the results of the bills of `a`. -/
def ActorDb.billed (s : ActorDb) (a : AccountId) : Amount :=
  (s.events.map (ActorEvent.billed a)).sum

/-- Sum of the amounts of the charges to `a` that were reported successful. -/
def ActorDb.charged (s : ActorDb) (a : AccountId) : Amount :=
  (s.events.map (ActorEvent.charged a)).sum

/-- Sum of `consumed` over the cards of `a` the router knows. -/
def ActorDb.cardsConsumed (s : ActorDb) (a : AccountId) : Amount :=
  s.router.cards.sum fun k => if k.1 = a then (s.card k).consumed else 0

section Money

variable (op : OpId → Option (Operation Amount)) (a : AccountId)

/-- The amount `n` charges to account `a`. -/
def chargeAmount (n : OpId) : Amount :=
  match op n with
  | some (.charge a' _ amount _) => if a' = a then amount else 0
  | _ => 0

/-! A report of success counts against the money it stands for. -/

def RouterMsg.money : RouterMsg → Amount
  | .operationCompleted n b _ => if b then -chargeAmount op a n else 0
  | .accountQueryCompleted n _ total _ => if isBill op a n then total else 0
  | _ => 0

def AccountMsg.money : AccountMsg → Amount
  | .cardQueryReply n _ consumed => if isBill op a n then consumed else 0
  | _ => 0

def ActorEvent.money (e : ActorEvent) : Amount := e.billed a - e.charged a

def Send.money : Send → Amount
  | .router m => m.money op a
  | .account a' m => if a' = a then m.money op a else 0
  | .card _ _ => 0
  | .event e => e.money a

/-- What the pending bill of an account has collected. -/
def AccountActor.collected (x : AccountActor) : Amount :=
  match x.pendingQuery with
  | some p => if p.billing then (p.perCardSpent.map Prod.snd).sum else 0
  | none => 0

/-- The money of `a` in a state. -/
def ActorDb.money (s : ActorDb) : Amount :=
  (s.events.map (ActorEvent.money a)).sum + (s.routerBox.map (RouterMsg.money op a)).sum +
    ((s.accountBox a).map (AccountMsg.money op a)).sum + (s.account a).collected +
    s.cardsConsumed a

/-- Sends bring their money to the boxes they reach. -/
theorem money_delivered (xs : List Send) :
    ((xs.filterMap Send.toNode?).map (ActorEvent.money a)).sum +
      ((xs.filterMap Send.toRouter?).map (RouterMsg.money op a)).sum +
      ((xs.filterMap (Send.toAccount? a)).map (AccountMsg.money op a)).sum =
    (xs.map (Send.money op a)).sum := by
  induction xs with
  | nil => simp
  | cons x xs ih =>
    rw [List.map_cons, List.sum_cons, ← ih]
    cases x with
    | router m =>
      simp [List.filterMap_cons, Send.toNode?, Send.toRouter?, Send.toAccount?, Send.money]
      ring
    | card k m =>
      simp [List.filterMap_cons, Send.toNode?, Send.toRouter?, Send.toAccount?, Send.money]
    | event e =>
      simp [List.filterMap_cons, Send.toNode?, Send.toRouter?, Send.toAccount?, Send.money]
      ring
    | account a' m =>
      by_cases ha : a' = a
      · simp [List.filterMap_cons, Send.toNode?, Send.toRouter?, Send.toAccount?, Send.money, ha]
        ring
      · simp [List.filterMap_cons, Send.toNode?, Send.toRouter?, Send.toAccount?, Send.money, ha]

theorem sum_money_eq_zero {xs : List Send} (h : ∀ x ∈ xs, x.money op a = 0) :
    (xs.map (Send.money op a)).sum = 0 :=
  List.sum_eq_zero (by
    intro y hy
    obtain ⟨x, hx, rfl⟩ := List.mem_map.mp hy
    exact h x hx)

variable {op a} {K : OpId → Operation Amount → Prop}

/-! ## The card -/

/-- A task a card settles on its own is no successful charge. -/
theorem settled_money {k : CardKey} {c : CardActor} {t : CardTask} {lim : Option Amount} {b : Bool}
    {e : Option VerifyError} (hop : ∀ n o, K n o → op n = some o) (hs : c.Settles t lim b e)
    (ht : TaskOrigin K k t) : (CardActor.completed t.opId b e).money op a = 0 := by
  cases hs with
  | rejected op err hon hchk => rfl
  | limitSet n lim hchk =>
    simp [CardActor.completed, Send.money, RouterMsg.money, chargeAmount, CardTask.opId,
      hop _ _ ht]
  | limitRefused n lim err hchk => rfl

theorem pump_money {k : CardKey} {c : CardActor} (hop : ∀ n o, K n o → op n = some o)
    (hcur : ∀ t, c.currentTask = some t → TaskOrigin K k t) (hq : ∀ t ∈ c.queue, TaskOrigin K k t) :
    (c.startCurrentTask.2.map (Send.money op a)).sum = 0 := by
  revert hcur hq
  refine CardActor.pump_induct (P := fun c r =>
    (∀ t, c.currentTask = some t → TaskOrigin K k t) → (∀ t ∈ c.queue, TaskOrigin K k t) →
    (r.2.map (Send.money op a)).sum = 0) ?_ ?_ ?_ ?_ c
  · intro c _ _ _
    rfl
  · intro c x _ _ _ _
    simp [CardActor.applyCharge, Send.money, AccountMsg.money]
  · intro c t lim b e hc hs _ hcur _
    simp [settled_money hop hs (hcur t hc)]
  · intro c t lim b e t' q r hc hs hqc ih hcur hq
    rw [hqc] at hq
    have hrest := ih (fun u hu => by cases hu; exact hq _ List.mem_cons_self)
      (fun u hu => hq u (List.mem_cons_of_mem _ hu))
    rw [List.map_cons, List.sum_cons, hrest, settled_money hop hs (hcur t hc), add_zero]

theorem finish_money {k : CardKey} {c : CardActor} (hop : ∀ n o, K n o → op n = some o)
    (hq : ∀ t ∈ c.queue, TaskOrigin K k t) (n : OpId) (b : Bool) (e : Option VerifyError) :
    ((c.finishCurrentTask n b e).2.map (Send.money op a)).sum =
      if b then -chargeAmount op a n else 0 := by
  cases hqc : c.queue with
  | nil =>
    rw [CardActor.finishCurrentTask_nil c hqc]
    simp [CardActor.completed, Send.money, RouterMsg.money]
  | cons t q =>
    rw [CardActor.finishCurrentTask_cons c hqc]
    rw [hqc] at hq
    have hpump := pump_money (a := a) (c := { c with currentTask := some t, queue := q }) hop
      (fun u hu => by cases hu; exact hq _ List.mem_cons_self)
      (fun u hu => hq u (List.mem_cons_of_mem _ hu))
    rw [List.map_cons, List.sum_cons, hpump, add_zero]
    rfl

theorem acceptTask_money {k : CardKey} {c : CardActor} {t : CardTask}
    (hop : ∀ n o, K n o → op n = some o) (ht : TaskOrigin K k t)
    (hq : ∀ t ∈ c.queue, TaskOrigin K k t) :
    ((c.acceptTask t).2.map (Send.money op a)).sum = 0 := by
  cases hcur : c.currentTask with
  | none =>
    simp only [CardActor.acceptTask, hcur]
    exact pump_money (c := { c with currentTask := some t }) hop
      (fun u hu => by cases hu; exact ht) hq
  | some u => simp [CardActor.acceptTask, hcur]

/-- **A card keeps its money**: what it no longer counts it reports to its account,
    and what it starts to count it reports as charged. -/
theorem card_money {k : CardKey} {c : CardActor} {m : CardMsg}
    (hop : ∀ n o, K n o → op n = some o)
    (hrep : ∀ n snapshot, ¬ K n (.replaceDatabase snapshot)) (hc : CardOrigin K k c)
    (hm : cardMsgOrigin K k m) :
    (if k.1 = a then (c.handle m).1.consumed else 0) +
      ((c.handle m).2.map (Send.money op a)).sum = if k.1 = a then c.consumed else 0 := by
  have hcons := CardActor.handle_consumed c m (hm.not_replaceState hrep)
  have hquiet : c.resets m = false → c.added m = [] →
      ((c.handle m).2.map (Send.money op a)).sum = 0 →
      (if k.1 = a then (c.handle m).1.consumed else 0) +
        ((c.handle m).2.map (Send.money op a)).sum = if k.1 = a then c.consumed else 0 := by
    intro hr ha hs
    rw [hs, hcons, hr, ha]
    simp
  cases m with
  | executeCharge n a' c' amount off =>
    refine hquiet rfl rfl ?_
    simp only [CardActor.handle]
    obtain heq | ⟨text, heq⟩ := CardActor.executeCharge_cases c n a' c' amount off
    · rw [heq]
      obtain ⟨rfl, hk⟩ := hm
      exact acceptTask_money (k := (a', c')) hop hk hc.queue
    · rw [heq]
      simp [Send.money, CardActor.completed, RouterMsg.money]
  | executeLimitChange n lim =>
    exact hquiet rfl rfl (acceptTask_money hop hm hc.queue)
  | queryCardState n a' billing =>
    obtain ⟨ha', o, hko, hq⟩ := hm
    rw [hcons]
    simp only [CardActor.handle]
    obtain ⟨hmine, heq⟩ | ⟨hother, -⟩ := CardActor.queryCardState_cases c n a' billing
    · rw [heq]
      have hacc : c.accountId = k.1 := hc.accountId
      cases billing with
      | true =>
        obtain ⟨period, rfl⟩ := hq
        by_cases hka : k.1 = a
        · simp [CardActor.resets, CardActor.added, Send.money, AccountMsg.money, isBill,
            hop _ _ hko, hmine, hacc, hka]
        · simp [Send.money, hacc, hka]
      | false =>
        have ho : o = .accountQuery a' := hq
        subst ho
        simp [CardActor.resets, CardActor.added, Send.money, AccountMsg.money, isBill,
          hop _ _ hko]
    · exact absurd (ha'.symm.trans hc.accountId.symm) hother
  | getSnapshot n => exact hquiet rfl rfl (by simp [CardActor.handle, Send.money, RouterMsg.money])
  | replaceState lim con => exact absurd rfl (hm.not_replaceState hrep lim con)
  | debug text => exact hquiet rfl rfl (by simp [CardActor.handle, Send.money, RouterMsg.money])
  | chargeReply r =>
    obtain ⟨x, hcur, hid, heq⟩ | ⟨h0, text, heq⟩ := CardActor.handleChargeReply_cases c r
    · have hx : op r.opId = some (.charge k.1 k.2 x.amount x.fromOfflineStation) := by
        rw [← hid]
        exact hop _ _ (hc.current _ hcur)
      rw [hcons]
      simp only [CardActor.handle, heq]
      rw [finish_money (c := { c with
        consumed := if r.success then c.consumed + x.amount else c.consumed }) hop hc.queue]
      cases hsucc : r.success with
      | true =>
        by_cases hka : k.1 = a <;>
          simp [CardActor.resets, CardActor.added, hcur, hid, hsucc, chargeAmount, hx, hka]
      | false => simp [CardActor.resets, CardActor.added, hcur, hid, hsucc]
    · refine hquiet rfl ?_ (by simp [CardActor.handle, heq, Send.money, RouterMsg.money])
      simp only [CardActor.added]
      cases hcur : c.currentTask with
      | none => rfl
      | some t =>
        cases t with
        | limitChange n lim => rfl
        | charge x =>
          have hne : x.opId ≠ r.opId := by
            intro he
            simp [CardActor.inFlight, hcur, he] at h0
          simp [hne]

/-! ## The account -/

/-- What an account reports for its limit is no charge. -/
theorem limit_money {a' : AccountId} {n : OpId} {lim : Option Amount}
    (ho : op n = some (.limitAccount a' lim)) (b : Bool) (e : Option VerifyError) :
    (Send.router (.operationCompleted n b e)).money op a = 0 := by
  cases b <;> simp [Send.money, RouterMsg.money, chargeAmount, ho]

theorem collected_eq_zero {x : AccountActor}
    (h : ∀ p, x.pendingQuery = some p → p.billing = false) : x.collected = 0 := by
  unfold AccountActor.collected
  split
  · rename_i p hp
    simp [h p hp]
  · rfl

/-- **An account keeps its money**: what it collects for a bill it reports with the
    bill. Other accounts report none of it. -/
theorem account_money {a' : AccountId} {x : AccountActor} {m : AccountMsg}
    (hop : ∀ n o, K n o → op n = some o) (hx : (originInv K).account a' x)
    (hm : accountMsgOrigin K a' m) (hsafe : a' = a → MoneySafe op a x m) :
    (if a' = a then (x.handle m).1.collected else 0) +
      ((x.handle m).2.map (Send.money op a)).sum =
        if a' = a then x.collected + m.money op a else 0 := by
  cases m with
  | applyChargeFromCard n amount c off k =>
    simp only [AccountActor.handle]
    obtain ⟨-, heq⟩ | ⟨-, -, err, heq⟩ :=
      AccountActor.applyChargeFromCard_cases x n amount c off k <;>
      rw [heq] <;> simp [AccountActor.collected, Send.money, AccountMsg.money]
  | applyAccountLimit n lim =>
    simp only [AccountActor.handle]
    obtain ⟨-, heq⟩ | ⟨err, -, heq⟩ := AccountActor.applyAccountLimit_cases x n lim <;>
      rw [heq, List.map_singleton, List.sum_singleton, limit_money (hop _ _ hm)] <;>
      simp [AccountActor.collected, AccountMsg.money]
  | startAccountQuery n num =>
    have hbill : isBill op a n = false := isBill_eq (b := false) (hop _ _ hm) rfl
    by_cases hnum : num = 0
    · simp [AccountActor.handle, AccountActor.startAccountQuery, hnum, Send.money,
        RouterMsg.money, hbill, AccountMsg.money]
    · have hstart : (AccountMsg.startAccountQuery n num).startsQuery = true := by
        simp [AccountMsg.startsQuery, Nat.pos_of_ne_zero hnum]
      by_cases ha : a' = a
      · rw [if_pos ha, if_pos ha, collected_eq_zero ((hsafe ha).keeps hstart)]
        simp [AccountActor.handle, AccountActor.startAccountQuery, hnum, AccountActor.collected,
          AccountMsg.money]
      · simp [AccountActor.handle, AccountActor.startAccountQuery, hnum, ha]
  | startAccountBill n num =>
    by_cases ha : a' = a
    · by_cases hnum : num = 0
      · subst hnum
        simp [AccountActor.handle, AccountActor.startAccountBill, ha, Send.money,
          RouterMsg.money, (hsafe ha).empty n rfl, AccountActor.collected, AccountMsg.money]
      · have hstart : (AccountMsg.startAccountBill n num).startsQuery = true := by
          simp [AccountMsg.startsQuery, Nat.pos_of_ne_zero hnum]
        rw [if_pos ha, if_pos ha, collected_eq_zero ((hsafe ha).keeps hstart)]
        simp [AccountActor.handle, AccountActor.startAccountBill, hnum, AccountActor.collected,
          AccountMsg.money]
    · obtain ⟨period, hko⟩ := hm
      have hbill : isBill op a n = false := by simp [isBill, hop _ _ hko, ha]
      by_cases hnum : num = 0 <;>
        simp [AccountActor.handle, AccountActor.startAccountBill, hnum, ha, Send.money,
          RouterMsg.money, hbill]
  | cardQueryReply n c con =>
    simp only [AccountActor.handle]
    obtain ⟨p, hp, rfl, heq⟩ | ⟨hnone, heq⟩ := AccountActor.cardQueryReply_cases x n c con
    · obtain ⟨o, hko, hq⟩ := hx.2 p hp
      have hbill : isBill op a p.opId = (p.billing && decide (a' = a)) :=
        isBill_eq (hop _ _ hko) hq
      rw [heq]
      obtain ⟨-, hcoll⟩ | ⟨-, hcoll⟩ := AccountActor.collectReply_cases x p c con
      · rw [hcoll, totalSpent_eq_sum]
        by_cases ha : a' = a <;> cases hb : p.billing <;>
          simp [AccountActor.collected, hp, Send.money, RouterMsg.money, AccountMsg.money, hbill,
            ha, hb]
      · rw [hcoll]
        by_cases ha : a' = a <;> cases hb : p.billing <;>
          simp [AccountActor.collected, hp, AccountMsg.money, hbill, ha, hb]
    · rw [heq]
      by_cases ha : a' = a
      · have hbill : isBill op a n = false := by
          by_contra hb
          obtain ⟨p, hp, hpn⟩ := (hsafe ha).expected n c con rfl (by simpa using hb)
          exact hnone p hp hpn
        simp [AccountActor.unexpectedReply, Send.money, RouterMsg.money, ha, AccountMsg.money,
          hbill]
      · simp [AccountActor.unexpectedReply, Send.money, RouterMsg.money, ha]
  | getSnapshot n => simp [AccountActor.handle, Send.money, RouterMsg.money, AccountMsg.money]
  | replaceState lim con => simp [AccountActor.handle, AccountActor.collected, AccountMsg.money]

/-! ## The router -/

/-- A result is worth what its report was. -/
theorem result_money {m : RouterMsg} {n : OpId} {o : Operation Amount}
    {res : OperationResult Amount} {b : Bool} {e : Option VerifyError} (ho : op n = some o)
    (hid : m.opId? = some n) (hres : ActorRouter.ResultOf o m res b e) :
    ActorEvent.money a (.operationResult n o res b e) = m.money op a := by
  cases m with
  | operationCompleted n' b' e' =>
    obtain rfl : n' = n := Option.some.inj hid
    obtain ⟨rfl, rfl, hcomp⟩ := hres
    cases b' with
    | true =>
      cases o <;> cases hcomp <;>
        simp [ActorEvent.money, ActorEvent.billed, ActorEvent.charged, RouterMsg.money,
          chargeAmount, ho]
    | false =>
      cases o <;> cases e' <;> cases hcomp <;>
        simp [ActorEvent.money, ActorEvent.billed, ActorEvent.charged, RouterMsg.money]
  | accountQueryCompleted n' a' total perCard =>
    obtain rfl : n' = n := Option.some.inj hid
    obtain rfl := hres
    cases o <;> simp [ActorEvent.money, ActorEvent.billed, ActorEvent.charged, RouterMsg.money,
      isBill, ho]
  | accountSnapshotCollected n' x =>
    obtain ⟨snapshot, rfl⟩ := hres
    cases o <;> simp [ActorEvent.money, ActorEvent.billed, ActorEvent.charged, RouterMsg.money]
  | cardSnapshotCollected n' x =>
    obtain ⟨snapshot, rfl⟩ := hres
    cases o <;> simp [ActorEvent.money, ActorEvent.billed, ActorEvent.charged, RouterMsg.money]
  | _ => exact hres.elim

/-- A started operation makes its report heard: what stays quiet is worth nothing. -/
theorem quiet_money {r : ActorRouter} {m : RouterMsg}
    (hstart : routerMsgOrigin (fun n o => r.operations n = some o) m)
    (hquiet : ∀ n, m.opId? = some n → r.operations n = none ∨ ActorRouter.IsSnapshot m) :
    m.money op a = 0 := by
  cases m with
  | operationCompleted n b e =>
    obtain ⟨o, ho, -⟩ := hstart
    obtain hnone | hsnap := hquiet n rfl
    · rw [hnone] at ho
      cases ho
    · exact hsnap.elim
  | accountQueryCompleted n a' total perCard =>
    obtain ⟨o, billing, ho, -⟩ := hstart
    obtain hnone | hsnap := hquiet n rfl
    · rw [hnone] at ho
      cases ho
    · exact hsnap.elim
  | _ => rfl

/-- **The router keeps the money**: a report becomes the result it stands for. -/
theorem router_money {r : ActorRouter} {m : RouterMsg}
    (hop : ∀ n o, r.operations n = some o → op n = some o)
    (hstart : (∀ n o, m ≠ .execute n o) →
      routerMsgOrigin (fun n o => r.operations n = some o) m) :
    ((r.handle m).2.map (Send.money op a)).sum = m.money op a := by
  by_cases hexec : ∃ n o, m = .execute n o
  · obtain ⟨n, o, rfl⟩ := hexec
    refine sum_money_eq_zero op a ?_
    intro x hx
    cases ActorRouter.execute_dispatches r n o x hx with
    | result res ho =>
      obtain ⟨addr, rfl⟩ | ⟨snapshot, rfl⟩ := ho <;>
        simp [Send.money, ActorEvent.money, ActorEvent.billed, ActorEvent.charged]
    | _ => simp [Send.money, AccountMsg.money]
  · have hne : ∀ n o, m ≠ .execute n o := fun n o he => hexec ⟨n, o, he⟩
    have hreg := hstart hne
    have h := ActorRouter.handle_reports r m hne
    generalize r.handle m = out at h
    cases h with
    | result _ r' n o res b e hid ho hres =>
      rw [List.map_singleton, List.sum_singleton]
      exact result_money (hop n o ho) hid hres
    | quiet _ r' es hes hnone =>
      rw [quiet_money hreg hnone]
      refine sum_money_eq_zero op a ?_
      intro x hx
      obtain ⟨ev, hev, rfl⟩ := List.mem_map.mp hx
      obtain ⟨text, rfl⟩ := hes ev hev
      simp [Send.money, ActorEvent.money, ActorEvent.billed, ActorEvent.charged]
    | panic n o b e ho hres =>
      -- only a failure without an error makes the router panic
      cases b with
      | true => cases o <;> cases hres
      | false => rfl

end Money

end YpfRuta.Actors
