/-
  The bills of one account `a`. A bill asks every card once; its questions and
  answers still under way are what the pending slot of the account waits for. This
  breaks only when another query takes the slot of a pending bill.
-/
import YpfRuta.Actors.Money

namespace YpfRuta.Actors

open Lib

variable {Amount : Type} [Currency Amount]

def AccountMsg.isApply : AccountMsg → Bool
  | .applyChargeFromCard .. => true
  | _ => false

/-- Questions of `n` on their way to the cards of `a`. -/
def ActorDb.asked (s : ActorDb) (a : AccountId) (n : OpId) : Nat :=
  s.router.cards.sum fun k => if k.1 = a then (s.cardBox k).countP (CardMsg.asks n) else 0

/-- Questions and answers of `n` under way between `a` and its cards. -/
def ActorDb.outstanding (s : ActorDb) (a : AccountId) (n : OpId) : Nat :=
  s.asked a n + (s.accountBox a).countP (AccountMsg.answers n)

/-- A query or a bill takes the slot of a bill the account still collects. -/
def OverwritesBill (s : ActorDb) : Label → Prop
  | .account a =>
    match s.accountBox a, (s.account a).pendingQuery with
    | m :: _, some p => m.startsQuery = true ∧ p.billing = true
    | _, _ => False
  | _ => False

instance (s : ActorDb) (l : Label) : Decidable (OverwritesBill s l) := by
  unfold OverwritesBill
  split
  · split <;> infer_instance
  · infer_instance

theorem overwritesBill_account {s : ActorDb} {a : AccountId} {m : AccountMsg}
    {rest : List AccountMsg} {p : AccountPendingQuery} (hbox : s.accountBox a = m :: rest)
    (hp : (s.account a).pendingQuery = some p) :
    OverwritesBill s (.account a) ↔ m.startsQuery = true ∧ p.billing = true := by
  simp only [OverwritesBill, hbox, hp]

structure BillBook (op : OpId → Option (Operation Amount)) (a : AccountId) (s : ActorDb) :
    Prop where
  /-- A bill that has not begun waits for all its cards, and no answer overtakes it. -/
  starting : ∀ pre n num post, s.accountBox a = pre ++ .startAccountBill n num :: post →
    (∀ m ∈ pre, m.answers n = false) ∧ s.outstanding a n = num
  /-- A bill that has begun and still has answers to come is the pending one. -/
  collecting : ∀ n, isBill op a n = true → (∀ num, .startAccountBill n num ∉ s.accountBox a) →
    0 < s.outstanding a n → ∃ p, (s.account a).pendingQuery = some p ∧ p.opId = n
  pending : ∀ p, (s.account a).pendingQuery = some p → p.billing = true →
    0 < p.remaining ∧ p.remaining = s.outstanding a p.opId
  /-- Nothing is charged to an account before it has a card. -/
  untouched : (∀ k ∈ s.router.cards, k.1 ≠ a) →
    (s.account a).accountConsumed = 0 ∧ ∀ m ∈ s.accountBox a, m.isApply = false
  /-- A bill without cards finds nothing charged. -/
  empty : ∀ pre n post, s.accountBox a = pre ++ .startAccountBill n 0 :: post →
    (s.account a).accountConsumed = 0 ∧ ∀ m ∈ pre, m.isApply = false

variable {K : OpId → Operation Amount → Prop} {op : OpId → Option (Operation Amount)}
  {a : AccountId} {s s' : ActorDb}

theorem BillBook.init : BillBook op a ActorDb.init where
  starting pre n num post h := by
    have hne : (ActorDb.init.accountBox a) ≠ [] := by rw [h]; simp
    exact absurd rfl hne
  collecting n _ _ hlt := by simp [ActorDb.outstanding, ActorDb.asked, ActorDb.init, Keys.sum,
    ActorRouter.new] at hlt
  pending p hp := by simp [ActorDb.init, AccountActor.new] at hp
  untouched _ := ⟨rfl, by simp [ActorDb.init]⟩
  empty pre n post h := by
    have hne : (ActorDb.init.accountBox a) ≠ [] := by rw [h]; simp
    exact absurd rfl hne

/-- **The book keeps the money safe**, as long as no bill is overwritten. -/
theorem BillBook.safe (hi : BillBook op a s) {m : AccountMsg} {rest : List AccountMsg}
    (hbox : s.accountBox a = m :: rest) (hc : ¬ OverwritesBill s (.account a)) :
    MoneySafe op a (s.account a) m where
  keeps hm p hp := by
    by_contra hb
    exact hc ((overwritesBill_account hbox hp).mpr ⟨hm, by simpa using hb⟩)
  empty := by
    rintro n rfl
    exact (hi.empty [] n rest hbox).1
  expected := by
    rintro n c con rfl hb
    refine hi.collecting n hb ?_ ?_
    · intro num hmem
      obtain ⟨pre, post, hsplit⟩ := List.append_of_mem hmem
      have hans := (hi.starting pre n num post hsplit).1
      cases pre with
      | nil =>
        rw [hbox] at hsplit
        cases hsplit
      | cons x pre =>
        rw [hbox] at hsplit
        obtain ⟨rfl, -⟩ := List.cons.inj hsplit
        have := hans _ List.mem_cons_self
        simp [AccountMsg.answers] at this
    · unfold ActorDb.outstanding
      rw [hbox, List.countP_cons]
      simp [AccountMsg.answers]

theorem append_split {α : Type} {xs ys pre post : List α} {x : α}
    (h : xs ++ ys = pre ++ x :: post) (hx : x ∉ ys) : ∃ post', xs = pre ++ x :: post' := by
  obtain ⟨as, -, hys⟩ | ⟨bs, hxs, hpost⟩ := List.append_eq_append_iff.mp h
  · exact absurd (by rw [hys]; simp) hx
  · cases bs with
    | nil => exact absurd (by rw [List.nil_append] at hpost; simp [← hpost]) hx
    | cons b bs =>
      obtain ⟨rfl, -⟩ := List.cons.inj hpost
      exact ⟨bs, hxs⟩

/-- A step that neither begins a bill of `a` nor changes what is under way for one. -/
theorem BillBook.quiet (hi : BillBook op a s) (hacc : s'.account a = s.account a)
    {new : List AccountMsg} (hbox : s'.accountBox a = s.accountBox a ++ new)
    (hnew : ∀ n num, .startAccountBill n num ∉ new)
    (hbill : ∀ n num, .startAccountBill n num ∈ s.accountBox a → isBill op a n = true)
    (hpend : ∀ p, (s.account a).pendingQuery = some p → p.billing = true →
      isBill op a p.opId = true)
    (hout : ∀ n, isBill op a n = true → s'.outstanding a n = s.outstanding a n)
    (hcards : (∀ k ∈ s'.router.cards, k.1 ≠ a) →
      (∀ k ∈ s.router.cards, k.1 ≠ a) ∧ ∀ m ∈ new, m.isApply = false) : BillBook op a s' where
  starting pre n num post h := by
    rw [hbox] at h
    obtain ⟨post', hsplit⟩ := append_split h (hnew n num)
    rw [hout n (hbill n num (by rw [hsplit]; simp))]
    exact hi.starting pre n num post' hsplit
  collecting n hb hnone hlt := by
    rw [hout n hb] at hlt
    rw [hacc]
    refine hi.collecting n hb ?_ hlt
    intro num hmem
    exact hnone num (by rw [hbox]; exact List.mem_append_left _ hmem)
  pending p hp hb := by
    rw [hacc] at hp
    rw [hout _ (hpend p hp hb)]
    exact hi.pending p hp hb
  untouched hno := by
    obtain ⟨hold, happly⟩ := hcards hno
    obtain ⟨hcons, hbefore⟩ := hi.untouched hold
    rw [hacc, hbox]
    exact ⟨hcons, fun m hm => (List.mem_append.mp hm).elim (hbefore m) (happly m)⟩
  empty pre n post h := by
    rw [hbox] at h
    obtain ⟨post', hsplit⟩ := append_split h (hnew n 0)
    rw [hacc]
    exact hi.empty pre n post' hsplit

/-! ## The account handles a message -/

theorem accountStep_box {a' : AccountId} (m : AccountMsg) (rest : List AccountMsg) :
    (s.accountStep a' m rest).accountBox a = Function.update s.accountBox a' rest a := by
  simp only [ActorDb.accountStep, ActorDb.deliver, AccountActor.handle_toAccount, List.append_nil]

theorem accountStep_rest (m : AccountMsg) (rest : List AccountMsg) :
    (s.accountStep a m rest).accountBox a = rest := by
  rw [accountStep_box, Function.update_self]

theorem accountStep_outstanding (m : AccountMsg) (rest : List AccountMsg) (n : OpId)
    (hbox : s.accountBox a = m :: rest) :
    (s.accountStep a m rest).outstanding a n + (if m.answers n then 1 else 0) =
      s.outstanding a n := by
  have hasked : (s.accountStep a m rest).asked a n = s.asked a n := by
    refine Keys.sum_congr fun k _ => ?_
    simp only [ActorDb.accountStep, ActorDb.deliver, List.countP_append, countP_toCard,
      AccountActor.handle_asks, Nat.add_zero]
  unfold ActorDb.outstanding
  rw [hasked, hbox, List.countP_cons]
  simp only [ActorDb.accountStep, ActorDb.deliver, List.countP_append, countP_toAccount,
    AccountActor.handle_onAccount, Function.update_self]
  omega

/-- What a message does to the pending slot of an account. -/
inductive AccountActor.PendingStep (x : AccountActor) :
    AccountMsg → Option AccountPendingQuery → Prop where
  | query (n : OpId) (num : Nat) (hnum : 0 < num) :
      PendingStep x (.startAccountQuery n num) (some ⟨n, num, [], false⟩)
  | bill (n : OpId) (num : Nat) (hnum : 0 < num) :
      PendingStep x (.startAccountBill n num) (some ⟨n, num, [], true⟩)
  | finished (n : OpId) (c : CardId) (con : Amount) (p : AccountPendingQuery)
      (hp : x.pendingQuery = some p) (hn : p.opId = n) (hrem : p.remaining - 1 = 0) :
      PendingStep x (.cardQueryReply n c con) none
  | collected (n : OpId) (c : CardId) (con : Amount) (p : AccountPendingQuery)
      (hp : x.pendingQuery = some p) (hn : p.opId = n) (hrem : p.remaining - 1 ≠ 0) :
      PendingStep x (.cardQueryReply n c con) (some { p with
        perCardSpent := p.perCardSpent ++ [(c, con)], remaining := p.remaining - 1 })
  | same (m : AccountMsg) (hm : m.startsQuery = false)
      (hreply : ∀ n c con, m = .cardQueryReply n c con →
        ∀ p, x.pendingQuery = some p → p.opId ≠ n) :
      PendingStep x m x.pendingQuery

theorem AccountActor.handle_pending (x : AccountActor) (m : AccountMsg) :
    x.PendingStep m (x.handle m).1.pendingQuery := by
  cases m with
  | applyChargeFromCard n amount c off k =>
    simp only [handle]
    obtain ⟨-, heq⟩ | ⟨-, -, err, heq⟩ := applyChargeFromCard_cases x n amount c off k <;>
      rw [heq] <;> exact .same _ rfl (by simp)
  | applyAccountLimit n lim =>
    simp only [handle]
    obtain ⟨-, heq⟩ | ⟨err, -, heq⟩ := applyAccountLimit_cases x n lim <;>
      rw [heq] <;> exact .same _ rfl (by simp)
  | startAccountQuery n num =>
    by_cases hnum : num = 0
    · subst hnum
      exact .same _ rfl (by simp)
    · simp only [handle, startAccountQuery, if_neg hnum]
      exact .query n num (Nat.pos_of_ne_zero hnum)
  | startAccountBill n num =>
    by_cases hnum : num = 0
    · subst hnum
      exact .same _ rfl (by simp)
    · simp only [handle, startAccountBill, if_neg hnum]
      exact .bill n num (Nat.pos_of_ne_zero hnum)
  | cardQueryReply n c con =>
    simp only [handle]
    obtain ⟨p, hp, hpn, heq⟩ | ⟨hnone, heq⟩ := cardQueryReply_cases x n c con
    · rw [heq]
      obtain ⟨hrem, hcoll⟩ | ⟨hrem, hcoll⟩ := collectReply_cases x p c con <;> rw [hcoll]
      · exact .finished n c con p hp hpn hrem
      · exact .collected n c con p hp hpn hrem
    · rw [heq]
      refine .same _ rfl ?_
      intro n' c' con' he
      cases he
      exact hnone
  | getSnapshot n => exact .same _ rfl (by simp)
  | replaceState lim con => exact .same _ rfl (by simp)

theorem AccountActor.handle_untouched {x : AccountActor} {m : AccountMsg}
    (hrep : ∀ lim con, m ≠ .replaceState lim con) (hm : m.isApply = false)
    (hx : x.accountConsumed = 0) : (x.handle m).1.accountConsumed = 0 := by
  rw [AccountActor.handle_adds x m hrep, hx]
  cases m with
  | applyChargeFromCard n amount c off k => cases hm
  | _ => simp [AccountActor.added]

/-- **The account's own step**: unless it overwrites a bill, it keeps the book. -/
theorem BillBook.handle (hi : BillBook op a s) {m : AccountMsg} {rest : List AccountMsg}
    (hbox : s.accountBox a = m :: rest) (hc : ¬ OverwritesBill s (.account a))
    (hrep : ∀ lim con, m ≠ .replaceState lim con)
    (hpend : ∀ n, isBill op a n = true → ∀ p, (s.account a).pendingQuery = some p → p.opId = n →
      p.billing = true) :
    BillBook op a (s.accountStep a m rest) := by
  have hbox' : (s.accountStep a m rest).accountBox a = rest := accountStep_rest m rest
  have hacc : (s.accountStep a m rest).account a = ((s.account a).handle m).1 := by simp
  have hout := fun n => accountStep_outstanding (s := s) m rest n hbox
  have hcards : (s.accountStep a m rest).router.cards = s.router.cards := rfl
  -- a message of the rest had `m` before it
  have hcons : ∀ {pre : List AccountMsg} {x : AccountMsg} {post : List AccountMsg},
      rest = pre ++ x :: post → s.accountBox a = (m :: pre) ++ x :: post := by
    rintro pre x post rfl
    exact hbox
  refine ⟨?_, ?_, ?_, ?_, ?_⟩
  · intro pre n num post h
    rw [hbox'] at h
    obtain ⟨hans, hnum⟩ := hi.starting (m :: pre) n num post (hcons h)
    have hm := hout n
    rw [hans m List.mem_cons_self] at hm
    simp only [Bool.false_eq_true, if_false, Nat.add_zero] at hm
    exact ⟨fun x hx => hans x (List.mem_cons_of_mem _ hx), by rw [hm]; exact hnum⟩
  · intro n hb hnone hlt
    rw [hbox'] at hnone
    rw [hacc]
    have hm := hout n
    have hlt' : 0 < s.outstanding a n := by omega
    by_cases hbegin : ∃ num, m = .startAccountBill n num
    · obtain ⟨num, rfl⟩ := hbegin
      have hnum := (hi.starting [] n num rest hbox).2
      have hpos : num ≠ 0 := by omega
      refine ⟨⟨n, num, [], true⟩, ?_, rfl⟩
      simp only [AccountActor.handle, AccountActor.startAccountBill, if_neg hpos]
    · have hold : ∀ num, .startAccountBill n num ∉ s.accountBox a := by
        intro num hmem
        rw [hbox] at hmem
        obtain he | hmem := List.mem_cons.mp hmem
        · exact hbegin ⟨num, he.symm⟩
        · exact hnone num hmem
      obtain ⟨p, hp, hpn⟩ := hi.collecting n hb hold hlt'
      have hpb := hpend n hb p hp hpn
      have hstarts : m.startsQuery = false := by
        by_contra hs
        exact hc ((overwritesBill_account hbox hp).mpr ⟨by simpa using hs, hpb⟩)
      have hstep := AccountActor.handle_pending (s.account a) m
      generalize ((s.account a).handle m).1.pendingQuery = q at hstep
      cases hstep with
      | query n' num hnum => simp [AccountMsg.startsQuery] at hstarts; omega
      | bill n' num hnum => simp [AccountMsg.startsQuery] at hstarts; omega
      | finished n' c con p' hp' hn' hrem =>
        rw [hp] at hp'
        cases hp'
        obtain ⟨hpos, hcount⟩ := hi.pending p hp hpb
        rw [hpn] at hcount
        have hans : AccountMsg.answers n (.cardQueryReply n' c con) = true := by
          simp [AccountMsg.answers, ← hn', hpn]
        rw [hans, if_pos rfl] at hm
        omega
      | collected n' c con p' hp' hn' hrem =>
        rw [hp] at hp'
        cases hp'
        exact ⟨_, rfl, hpn⟩
      | same _ _ _ => exact ⟨p, hp, hpn⟩
  · intro p hp hb
    rw [hacc] at hp
    have hstep := AccountActor.handle_pending (s.account a) m
    rw [hp] at hstep
    have hm := hout p.opId
    generalize hq : (some p : Option AccountPendingQuery) = q at hstep
    cases hstep with
    | query n num hnum =>
      cases hq
      cases hb
    | bill n num hnum =>
      cases hq
      have hcount := (hi.starting [] n num rest hbox).2
      simp only [AccountMsg.answers, Bool.false_eq_true, if_false, Nat.add_zero] at hm
      exact ⟨hnum, by rw [hm]; exact hcount.symm⟩
    | finished n c con p' hp' hn' hrem => cases hq
    | collected n c con p' hp' hn' hrem =>
      cases hq
      obtain ⟨hpos, hcount⟩ := hi.pending p' hp' hb
      have hans : AccountMsg.answers p'.opId (.cardQueryReply n c con) = true := by
        simp [AccountMsg.answers, hn']
      rw [hans, if_pos rfl] at hm
      dsimp only at hm ⊢
      omega
    | same _ hs hreply =>
      obtain ⟨hpos, hcount⟩ := hi.pending p hq.symm hb
      have hans : m.answers p.opId = false := by
        cases m with
        | cardQueryReply n c con =>
          simpa [AccountMsg.answers] using (hreply n c con rfl p hq.symm).symm
        | _ => rfl
      rw [hans] at hm
      simp only [Bool.false_eq_true, if_false, Nat.add_zero] at hm
      exact ⟨hpos, by rw [hm]; exact hcount⟩
  · intro hno
    obtain ⟨hconsumed, happly⟩ := hi.untouched hno
    rw [hacc, hbox']
    rw [hbox] at happly
    exact ⟨AccountActor.handle_untouched hrep (happly m List.mem_cons_self) hconsumed,
      fun x hx => happly x (List.mem_cons_of_mem _ hx)⟩
  · intro pre n post h
    rw [hbox'] at h
    obtain ⟨hconsumed, happly⟩ := hi.empty (m :: pre) n post (hcons h)
    rw [hacc]
    exact ⟨AccountActor.handle_untouched hrep (happly m List.mem_cons_self) hconsumed,
      fun x hx => happly x (List.mem_cons_of_mem _ hx)⟩

/-! ## A card handles a message -/

theorem cardStep_outstanding {k : CardKey} {m : CardMsg} {rest : List CardMsg} (n : OpId)
    (hknown : k ∈ s.router.cards) (hbox : s.cardBox k = m :: rest) (hc : CardOrigin K k (s.card k))
    (hm : cardMsgOrigin K k m) :
    (s.cardStep k m rest).outstanding a n = s.outstanding a n := by
  have hmine : ∀ n' a' reset, m = .queryCardState n' a' reset → a' = (s.card k).accountId := by
    rintro n' a' reset rfl
    exact hm.1.symm.trans hc.accountId.symm
  have hchange := Keys.sum_change hknown
    (f := fun j => if j.1 = a then (s.cardBox j).countP (CardMsg.asks n) else 0)
    (g := fun j => if j.1 = a then
      ((s.cardStep k m rest).cardBox j).countP (CardMsg.asks n) else 0) (by
    intro j hj
    simp only [ActorDb.cardStep, ActorDb.deliver, List.countP_append, countP_toCard,
      CardActor.handle_onCard, Nat.add_zero, Function.update_of_ne hj])
  have hown : ((s.cardStep k m rest).cardBox k).countP (CardMsg.asks n) =
      rest.countP (CardMsg.asks n) := by
    simp only [ActorDb.cardStep, ActorDb.deliver, List.countP_append, countP_toCard,
      CardActor.handle_onCard, Nat.add_zero, Function.update_self]
  have hboxa : ((s.cardStep k m rest).accountBox a).countP (AccountMsg.answers n) =
      (s.accountBox a).countP (AccountMsg.answers n) +
        ((s.card k).handle m).2.countP (Send.onAccount a (AccountMsg.answers n)) := by
    simp only [ActorDb.cardStep, ActorDb.deliver, List.countP_append, countP_toAccount]
  unfold ActorDb.outstanding ActorDb.asked
  rw [hboxa]
  simp only [hown, hbox, List.countP_cons] at hchange
  have hcards : (s.cardStep k m rest).router.cards = s.router.cards := rfl
  rw [hcards]
  by_cases hka : k.1 = a
  · have hans := CardActor.handle_answers n (s.card k) m hmine
    rw [hc.accountId, hka] at hans
    rw [hans]
    simp only [hka, if_true] at hchange
    omega
  · have hno := CardActor.handle_onAccount (s.card k) m (AccountMsg.answers n)
      (by rw [hc.accountId]; exact hka : (s.card k).accountId ≠ a)
    rw [hno]
    simp only [hka, if_false] at hchange
    omega

/-! ## The router handles a message -/

/-- A sum over the known cards that is zero at unknown ones does not see new cards. -/
theorem routerStep_sum {M : Type} [AddCommMonoid M] {m : RouterMsg} {f : CardKey → M}
    (hm : ∀ n snapshot, m ≠ .execute n (.replaceDatabase snapshot))
    (hf : ∀ k, ¬ k ∈ s.router.cards → f k = 0) :
    (s.router.handle m).1.cards.sum f = s.router.cards.sum f := by
  obtain h | ⟨k, h⟩ := ActorRouter.handle_cards s.router m hm
  · rw [h]
  · rw [h, Keys.sum_insert (hf k)]

theorem routerStep_outstanding {m : RouterMsg} {rest : List RouterMsg} {n : OpId}
    (hknown : Known s) (hm : ∀ n snapshot, m ≠ .execute n (.replaceDatabase snapshot))
    (hasks : ∀ k, k.1 = a → (s.router.handle m).2.countP (Send.onCard k (CardMsg.asks n)) = 0) :
    (s.routerStep m rest).outstanding a n = s.outstanding a n := by
  have hasked : (s.routerStep m rest).asked a n = s.asked a n := by
    refine Eq.trans (Keys.sum_congr fun k _ => ?_) (routerStep_sum hm fun k hk => ?_)
    · by_cases hka : k.1 = a
      · simp only [hka, if_true, ActorDb.routerStep, ActorDb.deliver, List.countP_append,
          countP_toCard, hasks k hka, Nat.add_zero]
      · simp only [hka, if_false]
    · have hempty : s.cardBox k = [] := by
        by_contra hne
        exact hk (hknown.cardBox k hne)
      simp [hempty]
  unfold ActorDb.outstanding
  rw [hasked]
  simp only [ActorDb.routerStep, ActorDb.deliver, List.countP_append, countP_toAccount,
    ActorRouter.handle_answers, Nat.add_zero]

/-- The router asks every card of the account once. -/
theorem ActorRouter.queryCards_asks (r : ActorRouter) (n : OpId) (a : AccountId)
    (start : AccountMsg) (billing : Bool) {k : CardKey} (hk : k ∈ r.cards) (hka : k.1 = a) :
    (r.queryCards n a start billing).countP (Send.onCard k (CardMsg.asks n)) = 1 := by
  have hmem : k ∈ r.cards.toList.filter (fun j => j.1 = a) :=
    List.mem_filter.mpr ⟨hk, by simpa using hka⟩
  have hone := List.count_eq_one_of_mem (r.cards.nodup.filter _) hmem
  unfold ActorRouter.queryCards ActorRouter.cardIds
  rw [List.countP_cons_of_neg (by simp [Send.onCard]), List.map_map, List.countP_map, ← hone,
    List.count]
  refine List.countP_congr ?_
  intro j hj
  have hja : j.1 = a := by simpa using (List.mem_filter.mp hj).2
  simp only [Function.comp_apply, Send.onCard, CardMsg.asks, beq_self_eq_true, Bool.and_true,
    beq_iff_eq, ← hja]

/-- What a command puts into the mailbox of `a`: the start of its own bill, or nothing
    a bill is concerned with. -/
theorem execute_toAccount (r : ActorRouter) (n : OpId) (o : Operation Amount) :
    ∀ m ∈ (r.execute n o).2.filterMap (Send.toAccount? a), m.answers n = false ∧
      m.isApply = false ∧
      ∀ n' num, m = .startAccountBill n' num → ∃ period, o = .bill a period := by
  intro m hm
  obtain ⟨x, hx, hxm⟩ := List.mem_filterMap.mp hm
  cases ActorRouter.execute_dispatches r n o x hx <;>
    simp only [Send.toAccount?, Option.ite_none_right_eq_some, Option.some.injEq, reduceCtorEq]
      at hxm
  all_goals obtain ⟨rfl, rfl⟩ := hxm
  all_goals simp [AccountMsg.answers, AccountMsg.isApply]
  rename_i period num ho
  exact ⟨period, ho⟩

/-- A message that is not a command writes to no actor. -/
theorem ActorRouter.handle_toAccount {r : ActorRouter} {m : RouterMsg}
    (hm : ∀ n o, m ≠ .execute n o) : (r.handle m).2.filterMap (Send.toAccount? a) = [] := by
  have h : (r.handle m).2.countP (Send.onAccount a fun _ => true) = 0 :=
    ActorRouter.handle_events hm fun _ => rfl
  rw [← countP_toAccount, List.countP_true, List.length_eq_zero_iff] at h
  exact h

theorem concat_split {α : Type} {xs pre post : List α} {x y : α}
    (h : xs ++ [y] = pre ++ x :: post) :
    (∃ post', xs = pre ++ x :: post') ∨ (pre = xs ∧ x = y) := by
  obtain ⟨as, hpre, hys⟩ | ⟨bs, hxs, hpost⟩ := List.append_eq_append_iff.mp h
  · cases as with
    | nil =>
      obtain ⟨rfl, -⟩ := List.cons.inj hys
      exact Or.inr ⟨by simpa using hpre, rfl⟩
    | cons b as => simp at hys
  · cases bs with
    | nil =>
      obtain ⟨rfl, -⟩ := List.cons.inj hpost
      exact Or.inr ⟨by simpa using hxs.symm, rfl⟩
    | cons b bs =>
      obtain ⟨rfl, -⟩ := List.cons.inj hpost
      exact Or.inl ⟨bs, hxs⟩

/-- **A bill begins**: it asks all the cards the router knows, and starts in an
    account that has not heard of it. -/
theorem BillBook.begin {n : OpId} {period : Option String} {rest : List RouterMsg}
    (hi : BillBook op a s) (hknown : Known s) (hs : s.Started)
    (hfresh : s.router.operations n = none) :
    BillBook op a (s.routerStep (.execute n (.bill a period)) rest) := by
  -- nothing about `n` is under way yet
  have hnone : ∀ o, ¬ s.started n o := by
    intro o ho
    unfold ActorDb.started at ho
    rw [hfresh] at ho
    cases ho
  have hans : ∀ m ∈ s.accountBox a, m.answers n = false := by
    intro m hm
    have horig := hs.accountBox a m hm
    cases m with
    | cardQueryReply n' c con =>
      obtain ⟨o, billing, ho, -⟩ := horig
      by_contra hne
      have hn : n' = n := by simpa [AccountMsg.answers] using hne
      exact hnone o (hn ▸ ho)
    | _ => rfl
  have hasks : ∀ k, ∀ m ∈ s.cardBox k, m.asks n = false := by
    intro k m hm
    have horig := hs.cardBox k m hm
    cases m with
    | queryCardState n' a' billing =>
      obtain ⟨-, o, ho, -⟩ := horig
      by_contra hne
      have hn : n' = n := by simpa [CardMsg.asks] using hne
      exact hnone o (hn ▸ ho)
    | _ => rfl
  have hstart : ∀ num, .startAccountBill n num ∉ s.accountBox a := by
    intro num hmem
    obtain ⟨period', ho⟩ := hs.accountBox a _ hmem
    exact hnone _ ho
  have hbox : (s.routerStep (.execute n (.bill a period)) rest).accountBox a =
      s.accountBox a ++ [.startAccountBill n (s.router.cardIds a).length] := by
    have hcards : ∀ l : List CardId, (l.map fun c => Send.card (a, c)
        (.queryCardState n a true)).filterMap (Send.toAccount? a) = [] := by
      intro l
      rw [List.filterMap_eq_nil_iff]
      intro x hx
      obtain ⟨c, -, rfl⟩ := List.mem_map.mp hx
      rfl
    simp only [ActorDb.routerStep, ActorDb.deliver, ActorRouter.handle, ActorRouter.execute,
      ActorRouter.executeBill, ActorRouter.queryCards, List.filterMap_cons, Send.toAccount?,
      if_true, hcards]
    rfl
  have hother : ∀ n', n' ≠ n →
      (s.routerStep (.execute n (.bill a period)) rest).outstanding a n' =
        s.outstanding a n' := by
    intro n' hn
    refine routerStep_outstanding hknown (by simp) fun k _ => ?_
    refine ActorRouter.execute_countP fun x hx => ?_
    cases hx <;> simp [Send.onCard, CardMsg.asks, Ne.symm hn]
  have hown : (s.routerStep (.execute n (.bill a period)) rest).outstanding a n =
      (s.router.cardIds a).length := by
    have hanswers : ((s.routerStep (.execute n (.bill a period)) rest).accountBox a).countP
        (AccountMsg.answers n) = 0 := by
      rw [hbox, List.countP_append, List.countP_eq_zero.mpr fun m hm => by simp [hans m hm]]
      rfl
    have hasked : (s.routerStep (.execute n (.bill a period)) rest).asked a n =
        s.router.cards.sum fun k => if k.1 = a then 1 else 0 := by
      refine Keys.sum_congr fun k hk => ?_
      by_cases hka : k.1 = a
      · have hzero : (s.cardBox k).countP (CardMsg.asks n) = 0 :=
          List.countP_eq_zero.mpr fun m hm => by simp [hasks k m hm]
        have hone := ActorRouter.queryCards_asks s.router n a
          (.startAccountBill n (s.router.cardIds a).length) true hk hka
        simp only [hka, if_true, ActorDb.routerStep, ActorDb.deliver, List.countP_append,
          countP_toCard, hzero, Nat.zero_add]
        exact hone
      · simp only [hka, if_false]
    unfold ActorDb.outstanding
    rw [hanswers, hasked, Keys.sum_one, ActorRouter.cardIds, List.length_map]
    rfl
  have hacc : (s.routerStep (.execute n (.bill a period)) rest).account a = s.account a := rfl
  have hcards : (s.routerStep (.execute n (.bill a period)) rest).router.cards =
      s.router.cards := rfl
  refine ⟨?_, ?_, ?_, ?_, ?_⟩
  · intro pre n' num post h
    rw [hbox] at h
    obtain ⟨post', hsplit⟩ | ⟨rfl, he⟩ := concat_split h
    · have hn : n' ≠ n := by
        rintro rfl
        exact hstart num (by rw [hsplit]; simp)
      rw [hother n' hn]
      exact hi.starting pre n' num post' hsplit
    · obtain ⟨rfl, rfl⟩ := AccountMsg.startAccountBill.inj he
      exact ⟨hans, hown⟩
  · intro n' hb hnone' hlt
    rw [hbox] at hnone'
    have hn : n' ≠ n := by
      rintro rfl
      exact hnone' _ (List.mem_append_right _ (List.mem_singleton_self _))
    rw [hother n' hn] at hlt
    exact hi.collecting n' hb (fun num hmem => hnone' num (List.mem_append_left _ hmem)) hlt
  · intro p hp hb
    have hn : p.opId ≠ n := by
      intro hn
      obtain ⟨o, ho, -⟩ := (hs.account a).2 p hp
      exact hnone o (hn ▸ ho)
    rw [hother _ hn]
    exact hi.pending p hp hb
  · intro hno
    obtain ⟨hconsumed, happly⟩ := hi.untouched hno
    refine ⟨hconsumed, ?_⟩
    intro m hm
    rw [hbox] at hm
    obtain hm | hm := List.mem_append.mp hm
    · exact happly m hm
    · rw [List.mem_singleton.mp hm]
      rfl
  · intro pre n' post h
    rw [hbox] at h
    obtain ⟨post', hsplit⟩ | ⟨rfl, he⟩ := concat_split h
    · exact hi.empty pre n' post' hsplit
    · -- the router knows no card of `a`
      obtain ⟨-, hzero⟩ := AccountMsg.startAccountBill.inj he
      refine hi.untouched fun k hk hka => ?_
      have hmem : k.2 ∈ s.router.cardIds a :=
        List.mem_map.mpr ⟨k, List.mem_filter.mpr ⟨hk, by simpa using hka⟩, rfl⟩
      rw [List.length_eq_zero_iff.mp hzero.symm] at hmem
      cases hmem

end YpfRuta.Actors
