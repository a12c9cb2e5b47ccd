/-
  The balance of one account `a`: what the account has consumed is what its cards
  have consumed, what approved charges will still add to them, and what the cards
  gave up to a bill the account has not closed yet.
-/
import YpfRuta.Actors.Billing

namespace YpfRuta.Actors

open Lib

section Balance

variable (op : OpId → Option (Operation Amount)) (a : AccountId)

/-- What a reply the account sent to a card will add to the card. -/
def CardMsg.approval : CardMsg → Amount
  | .chargeReply r => if r.success then chargeAmount op a r.opId else 0
  | _ => 0

/-- The charges to `a` its account has approved and its cards have not added yet. -/
def ActorDb.approvals (s : ActorDb) : Amount :=
  s.router.cards.sum fun k => ((s.cardBox k).map (CardMsg.approval op a)).sum

/-- What the cards of `a` have reported to bills the account has not closed yet. -/
def ActorDb.reportedToBills (s : ActorDb) : Amount :=
  ((s.accountBox a).map (AccountMsg.money op a)).sum + (s.account a).collected

/-- The cards' side of the balance. -/
def ActorDb.cardsSide (s : ActorDb) : Amount :=
  s.cardsConsumed a + s.approvals op a + s.reportedToBills op a

def ActorDb.Balanced (s : ActorDb) : Prop := (s.account a).accountConsumed = s.cardsSide op a

/-- A bill of `a` waits to begin, or for its cards. -/
def ActorDb.BillRuns (s : ActorDb) : Prop :=
  (∃ n num, 0 < num ∧ .startAccountBill n num ∈ s.accountBox a) ∨
    ∃ p, (s.account a).pendingQuery = some p ∧ p.billing = true

/-- A send counts in the mailbox it reaches. -/
def Send.stake : Send → Amount
  | .account a' m => if a' = a then m.money op a else 0
  | .card _ m => m.approval op a
  | _ => 0

theorem sum_stake_eq_zero {xs : List Send} (h : ∀ x ∈ xs, x.stake op a = 0) :
    (xs.map (Send.stake op a)).sum = 0 :=
  List.sum_eq_zero (by
    intro y hy
    obtain ⟨x, hx, rfl⟩ := List.mem_map.mp hy
    exact h x hx)

/-- Sends bring their stakes to the boxes they reach. -/
theorem stake_delivered (ks : Keys CardKey) (xs : List Send)
    (hxs : ∀ k m, .card k m ∈ xs → k ∈ ks) :
    ((xs.filterMap (Send.toAccount? a)).map (AccountMsg.money op a)).sum +
      (ks.sum fun k => ((xs.filterMap (Send.toCard? k)).map (CardMsg.approval op a)).sum) =
    (xs.map (Send.stake op a)).sum := by
  induction xs with
  | nil => simp [Keys.sum]
  | cons x xs ih =>
    rw [List.map_cons, List.sum_cons, ← ih fun k m h => hxs k m (List.mem_cons_of_mem _ h)]
    cases x with
    | router m => simp [List.filterMap_cons, Send.toAccount?, Send.toCard?, Send.stake]
    | event e => simp [List.filterMap_cons, Send.toAccount?, Send.toCard?, Send.stake]
    | account a' m =>
      by_cases ha : a' = a
      · simp [List.filterMap_cons, Send.toAccount?, Send.toCard?, Send.stake, ha, add_assoc]
      · simp [List.filterMap_cons, Send.toAccount?, Send.toCard?, Send.stake, ha]
    | card k m =>
      have hbox : ∀ j, ((List.filterMap (Send.toCard? j) (.card k m :: xs)).map
          (CardMsg.approval op a)).sum = (if j = k then m.approval op a else 0) +
            ((xs.filterMap (Send.toCard? j)).map (CardMsg.approval op a)).sum := by
        intro j
        by_cases hj : k = j
        · simp [Send.toCard?, hj]
        · simp [Send.toCard?, hj, Ne.symm hj]
      have hone : (ks.sum fun j => if j = k then m.approval op a else 0) = m.approval op a := by
        rw [Keys.sum_single (hxs k m List.mem_cons_self) fun j hj => if_neg hj, if_pos rfl]
      rw [Keys.sum_congr fun j _ => hbox j, Keys.sum_add, hone]
      simp only [Send.stake, List.filterMap_cons, Send.toAccount?]
      ring

variable {op a} {K : OpId → Operation Amount → Prop}

/-! ## The card -/

/-- Nothing a card sends counts, short of an answer to a query. -/
theorem card_sends_stake {c : CardActor} {m : CardMsg}
    (hquery : ∀ n a' billing, m ≠ .queryCardState n a' billing) :
    ((c.handle m).2.map (Send.stake op a)).sum = 0 := by
  refine sum_stake_eq_zero op a fun x hx => ?_
  obtain hp | ⟨text, rfl⟩ | ⟨n, x', -, rfl⟩ := CardActor.handle_pumps c m hquery x hx
  · cases hp <;>
      simp [Send.stake, CardActor.completed, CardActor.applyCharge, AccountMsg.money]
  · rfl
  · rfl

/-- **A card keeps its side**: it reports to a bill what it gives up, and adds what
    its account approved. -/
theorem card_stake {k : CardKey} {c : CardActor} {m : CardMsg}
    (hop : ∀ n o, K n o → op n = some o)
    (hrep : ∀ n snapshot, ¬ K n (.replaceDatabase snapshot)) (hc : CardOrigin K k c)
    (hm : cardMsgOrigin K k m) (hflight : ∀ r, m = .chargeReply r → c.inFlight r.opId ≠ 0) :
    (if k.1 = a then (c.handle m).1.consumed else 0) +
        ((c.handle m).2.map (Send.stake op a)).sum =
      (if k.1 = a then c.consumed else 0) + m.approval op a := by
  have hcons := CardActor.handle_consumed c m (hm.not_replaceState hrep)
  by_cases hquery : ∃ n a' billing, m = .queryCardState n a' billing
  · obtain ⟨n, a', billing, rfl⟩ := hquery
    obtain ⟨ha', o, hko, hq⟩ := hm
    have hacc : c.accountId = k.1 := hc.accountId
    have hbill : isBill op a n = (billing && decide (a' = a)) := isBill_eq (hop _ _ hko) hq
    rw [hcons]
    simp only [CardActor.handle]
    obtain ⟨hmine, heq⟩ | ⟨hother, -⟩ := CardActor.queryCardState_cases c n a' billing
    · rw [heq]
      by_cases hka : k.1 = a
      · cases billing <;>
          simp [CardActor.resets, CardActor.added, Send.stake, AccountMsg.money, hbill, hmine,
            hacc, hka, CardMsg.approval]
      · simp [Send.stake, hacc, hka, CardMsg.approval]
    · exact absurd (ha'.symm.trans hacc.symm) hother
  · have hsends : ((c.handle m).2.map (Send.stake op a)).sum = 0 :=
      card_sends_stake fun n a' b he => hquery ⟨n, a', b, he⟩
    have hresets : c.resets m = false := by
      cases m with
      | queryCardState n a' b => exact absurd ⟨n, a', b, rfl⟩ hquery
      | _ => rfl
    rw [hsends, hcons, hresets]
    cases m with
    | chargeReply r =>
      obtain ⟨x, hcur, hid, -⟩ | ⟨h0, -⟩ := CardActor.handleChargeReply_cases c r
      · have hx : op r.opId = some (.charge k.1 k.2 x.amount x.fromOfflineStation) := by
          rw [← hid]
          exact hop _ _ (hc.current _ hcur)
        by_cases hka : k.1 = a <;> cases hsucc : r.success <;>
          simp [CardActor.added, hcur, hid, hsucc, CardMsg.approval, chargeAmount, hx, hka]
      · exact absurd h0 (hflight r rfl)
    | _ => simp [CardActor.added, CardMsg.approval]

/-! ## The account -/

/-- The account tells a card of every charge it adds. -/
theorem account_stake {a' : AccountId} {x : AccountActor} {m : AccountMsg}
    (hop : ∀ n o, K n o → op n = some o) (hm : accountMsgOrigin K a' m) :
    ((x.handle m).2.map (Send.stake op a)).sum =
      if a' = a then ((x.added m).map Prod.snd).sum else 0 := by
  by_cases happly : m.isApply = true
  · cases m with
    | applyChargeFromCard n amount c off k =>
      obtain ⟨rfl, hko⟩ := hm
      have hn := hop _ _ hko
      simp only [AccountActor.handle]
      obtain ⟨hadd, heq⟩ | ⟨hadd, -, err, heq⟩ :=
        AccountActor.applyChargeFromCard_cases x n amount c off (a', c) <;> rw [heq, hadd]
      · simp [Send.stake, CardMsg.approval, chargeAmount, hn]
      · simp [Send.stake, CardMsg.approval]
    | _ => cases happly
  · have hadd : x.added m = [] := by
      cases m with
      | applyChargeFromCard n amount c off k => exact absurd rfl happly
      | _ => rfl
    have hsends : ((x.handle m).2.map (Send.stake op a)).sum = 0 := by
      refine sum_stake_eq_zero op a fun y hy => ?_
      cases AccountActor.handle_emits x m y hy with
      | reply k r =>
        obtain ⟨n, amount, c, off, rfl⟩ := AccountActor.handle_toCard hy
        exact absurd rfl happly
      | _ => rfl
    rw [hsends, hadd]
    simp

/-- An account that closes no bill collects exactly what a card reports to it. -/
theorem collected_open {x : AccountActor} {m : AccountMsg} (hop : ∀ n o, K n o → op n = some o)
    (hx : (originInv K).account a x) (hsafe : MoneySafe op a x m) (hopen : x.resets m = false) :
    (x.handle m).1.collected = x.collected + m.money op a := by
  have hstep := AccountActor.handle_pending x m
  have hpend : ∀ y : AccountActor, y.pendingQuery = (x.handle m).1.pendingQuery →
      (x.handle m).1.collected = y.collected := by
    intro y hy
    simp only [AccountActor.collected, hy]
  have hbill : ∀ p, x.pendingQuery = some p → isBill op a p.opId = p.billing := by
    intro p hp
    obtain ⟨o, hko, hq⟩ := hx.2 p hp
    rw [isBill_eq (hop _ _ hko) hq]
    simp
  generalize hq : (x.handle m).1.pendingQuery = q at hstep hpend
  rw [hpend { x with pendingQuery := q } rfl]
  cases hstep with
  | query n num hnum =>
    rw [collected_eq_zero (hsafe.keeps (by simpa [AccountMsg.startsQuery] using hnum))]
    simp [AccountActor.collected, AccountMsg.money]
  | bill n num hnum =>
    rw [collected_eq_zero (hsafe.keeps (by simpa [AccountMsg.startsQuery] using hnum))]
    simp [AccountActor.collected, AccountMsg.money]
  | finished n c con p hp hn hrem =>
    -- what ends without closing a bill is a query
    have hb : p.billing = false := by
      simpa [AccountActor.resets, hp, hn, hrem] using hopen
    have hnot := hbill p hp
    rw [hn, hb] at hnot
    simp [AccountActor.collected, hp, hb, AccountMsg.money, hnot]
  | collected n c con p hp hn hrem =>
    have hsame := hbill p hp
    rw [hn] at hsame
    cases hb : p.billing <;> simp [AccountActor.collected, hp, hb, AccountMsg.money, hsame]
  | same m hm hreply =>
    have hzero : m.money op a = 0 := by
      cases m with
      | cardQueryReply n c con =>
        have hnot : isBill op a n = false := by
          by_contra hb
          obtain ⟨p, hp, hpn⟩ := hsafe.expected n c con rfl (by simpa using hb)
          exact hreply n c con rfl p hp hpn
        simp [AccountMsg.money, hnot]
      | _ => rfl
    rw [hzero, add_zero]

/-! ## One step -/

variable {s s' : ActorDb} {l : Label}

theorem cardsSide_deliver (t : ActorDb) (xs : List Send)
    (hxs : ∀ k m, .card k m ∈ xs → k ∈ t.router.cards) :
    (t.deliver xs).cardsSide op a = t.cardsSide op a + (xs.map (Send.stake op a)).sum := by
  rw [← stake_delivered op a t.router.cards xs hxs]
  have happrovals : (t.deliver xs).approvals op a = t.approvals op a +
      t.router.cards.sum fun k =>
        ((xs.filterMap (Send.toCard? k)).map (CardMsg.approval op a)).sum := by
    unfold ActorDb.approvals
    rw [← Keys.sum_add]
    refine Keys.sum_congr fun k _ => ?_
    simp only [ActorDb.deliver, List.map_append, List.sum_append]
  unfold ActorDb.cardsSide
  rw [happrovals]
  simp only [ActorDb.reportedToBills, ActorDb.deliver, ActorDb.cardsConsumed, List.map_append,
    List.sum_append]
  ring

/-- The account closes a bill while its cards hold charges the bill did not ask for:
    charges it approved after the card had reported. -/
def ClosesOverCharges (s : ActorDb) : Label → Prop
  | .account a =>
    match s.accountBox a with
    | m :: _ => (s.account a).resets m = true ∧
        s.cardsConsumed a + s.approvals s.router.operations a ≠ 0
    | [] => False
  | _ => False

theorem closesOverCharges_account (s : ActorDb) (a : AccountId) :
    (∃ m ∈ (s.accountBox a).head?, (s.account a).resets m = true ∧
      s.cardsConsumed a + s.approvals s.router.operations a ≠ 0) ↔
    ClosesOverCharges s (.account a) := by
  unfold ClosesOverCharges
  cases hbox : s.accountBox a <;> simp [hbox]

instance (s : ActorDb) (l : Label) : Decidable (ClosesOverCharges s l) :=
  match l with
  | .account a => decidable_of_iff _ (closesOverCharges_account s a)
  | .execute .. | .router | .card _ => isFalse id

/-- A charge in flight is a registered operation. -/
theorem approvals_registered (hop : ∀ n o, s.started n o → op n = some o) (hs : s.Started) :
    s.approvals s.router.operations a = s.approvals op a := by
  refine Keys.sum_congr fun k _ => ?_
  refine congrArg List.sum (List.map_congr_left fun m hm => ?_)
  cases m with
  | chargeReply r =>
    obtain ⟨amount, off, ho, -⟩ := hs.cardBox k _ hm
    have hreg : s.router.operations r.opId = some (.charge k.1 k.2 amount off) := ho
    simp only [CardMsg.approval, chargeAmount, hreg, hop _ _ ho]
  | _ => rfl

/-- The router takes no side. -/
theorem routerStep_cardsSide {m : RouterMsg} {rest : List RouterMsg} (hk : Known s)
    (hm : ∀ n snapshot, m ≠ .execute n (.replaceDatabase snapshot)) :
    (s.routerStep m rest).cardsSide op a = s.cardsSide op a := by
  obtain ⟨-, -, haddr⟩ := ActorRouter.handle_known s.router m hk.cards
  have hsends : ((s.router.handle m).2.map (Send.stake op a)).sum = 0 := by
    refine sum_stake_eq_zero op a fun x hx => ?_
    by_cases hexec : ∃ n o, m = .execute n o
    · obtain ⟨n, o, rfl⟩ := hexec
      cases ActorRouter.execute_dispatches s.router n o x hx <;>
        simp [Send.stake, AccountMsg.money, CardMsg.approval]
    · have hev : (s.router.handle m).2.countP (fun y => y.toNode?.isNone) = 0 :=
        ActorRouter.handle_events (fun n o he => hexec ⟨n, o, he⟩) fun _ => rfl
      have := List.countP_eq_zero.mp hev x hx
      cases x with
      | event e => rfl
      | _ => simp [Send.toNode?] at this
  have hcards := routerStep_sum (s := s) (f := fun k =>
    if k.1 = a then (s.card k).consumed else 0) hm fun k hk' => by
      simp [hk.card k hk', CardActor.new]
  have happrovals := routerStep_sum (s := s) (f := fun k =>
    ((s.cardBox k).map (CardMsg.approval op a)).sum) hm fun k hk' => by
      have hempty : s.cardBox k = [] := by
        by_contra hne
        exact hk' (hk.cardBox k hne)
      simp [hempty]
  unfold ActorDb.routerStep
  rw [cardsSide_deliver { s with router := (s.router.handle m).1, routerBox := rest } _
    fun k m' hmem => haddr _ hmem, hsends, add_zero]
  unfold ActorDb.cardsSide ActorDb.cardsConsumed ActorDb.approvals
  rw [hcards, happrovals]
  rfl

/-- A card moves its side to where it counts next. -/
theorem cardStep_cardsSide {k : CardKey} {m : CardMsg} {rest : List CardMsg}
    (hop : ∀ n o, K n o → op n = some o)
    (hrep : ∀ n snapshot, ¬ K n (.replaceDatabase snapshot)) (ho : (originInv K).Holds s)
    (hk : Known s) (hbox : s.cardBox k = m :: rest)
    (hflight : ∀ r, m = .chargeReply r → (s.card k).inFlight r.opId ≠ 0) :
    (s.cardStep k m rest).cardsSide op a = s.cardsSide op a := by
  have hm := ho.cardBox k m (by rw [hbox]; exact List.mem_cons_self)
  have hknown : k ∈ s.router.cards := hk.cardBox k (by rw [hbox]; simp)
  have hsends := card_stake (a := a) hop hrep (ho.card k) hm hflight
  have hcards := Keys.sum_change hknown
    (f := fun j => if j.1 = a then (s.card j).consumed else 0)
    (g := fun j => if j.1 = a then
      (Function.update s.card k ((s.card k).handle m).1 j).consumed else 0)
    (fun j hj => by rw [Function.update_of_ne hj])
  have happrovals := Keys.sum_change hknown
    (f := fun j => ((s.cardBox j).map (CardMsg.approval op a)).sum)
    (g := fun j => ((Function.update s.cardBox k rest j).map (CardMsg.approval op a)).sum)
    (fun j hj => by rw [Function.update_of_ne hj])
  simp only [Function.update_self, hbox, List.map_cons, List.sum_cons] at hcards happrovals
  unfold ActorDb.cardStep
  rw [cardsSide_deliver]
  · unfold ActorDb.cardsSide ActorDb.cardsConsumed ActorDb.approvals ActorDb.reportedToBills
    dsimp only
    linarith
  · -- a card writes to no card
    intro j m' hmem
    cases CardActor.handle_emits _ m _ hmem

/-- The account takes a charge on its side, and gives up what a bill it closes reports. -/
theorem accountStep_cardsSide {a' : AccountId} {m : AccountMsg} {rest : List AccountMsg}
    (hop : ∀ n o, K n o → op n = some o) (ho : (originInv K).Holds s) (hk : Known s)
    (hbox : s.accountBox a' = m :: rest) :
    (s.accountStep a' m rest).cardsSide op a + (if a' = a then
        (s.account a).collected + m.money op a else 0) =
      s.cardsSide op a + (if a' = a then ((s.account a).handle m).1.collected +
        (((s.account a).added m).map Prod.snd).sum else 0) := by
  have hmem : m ∈ s.accountBox a' := by rw [hbox]; exact List.mem_cons_self
  have hm := ho.accountBox a' m hmem
  have hsends := account_stake (a := a) (x := s.account a') hop hm
  have hto : ∀ k m', Send.card k m' ∈ ((s.account a').handle m).2 → k ∈ s.router.cards := by
    intro k m' hx
    obtain ⟨n, amount, c, off, rfl⟩ := AccountActor.handle_toCard hx
    exact hk.replyTo a' _ hmem n amount c off k rfl
  unfold ActorDb.accountStep
  rw [cardsSide_deliver, hsends]
  · unfold ActorDb.cardsSide ActorDb.cardsConsumed ActorDb.approvals ActorDb.reportedToBills
    dsimp only
    by_cases haa : a' = a
    · subst haa
      rw [Function.update_self, Function.update_self, hbox, List.map_cons, List.sum_cons]
      simp only [if_true]
      ring
    · simp only [haa, if_false, add_zero]
      rw [Function.update_of_ne (Ne.symm haa), Function.update_of_ne (Ne.symm haa)]
  · exact hto

/-- When no bill runs, no card's report to one is under way. -/
theorem BillBook.reported_eq_zero (hi : BillBook op a s)
    (hpend : ∀ p, (s.account a).pendingQuery = some p → isBill op a p.opId = p.billing)
    (hno : ¬ s.BillRuns a) : s.reportedToBills op a = 0 := by
  have hnone : ∀ p, (s.account a).pendingQuery = some p → p.billing = false := by
    intro p hp
    by_contra hb
    exact hno (Or.inr ⟨p, hp, by simpa using hb⟩)
  have hbox : ∀ m ∈ s.accountBox a, m.money op a = 0 := by
    intro m hm
    cases m with
    | cardQueryReply n c con =>
      have hnot : isBill op a n = false := by
        by_contra hb
        have hout : 0 < s.outstanding a n := by
          have hpos : 0 < (s.accountBox a).countP (AccountMsg.answers n) :=
            List.countP_pos_iff.mpr ⟨_, hm, by simp [AccountMsg.answers]⟩
          unfold ActorDb.outstanding
          omega
        obtain ⟨p, hp, rfl⟩ := hi.collecting n (by simpa using hb) (fun num hstart => by
          obtain ⟨pre, post, hsplit⟩ := List.append_of_mem hstart
          have hnum := (hi.starting pre n num post hsplit).2
          exact hno (Or.inl ⟨n, num, by omega, hstart⟩)) hout
        rw [hpend p hp, hnone p hp] at hb
        exact hb rfl
      simp [AccountMsg.money, hnot]
    | _ => rfl
  unfold ActorDb.reportedToBills
  rw [collected_eq_zero hnone, add_zero]
  refine List.sum_eq_zero ?_
  intro y hy
  obtain ⟨m, hm, rfl⟩ := List.mem_map.mp hy
  exact hbox m hm

/-- Between two bills the account and its cards balance. -/
def ActorDb.Accounted (op : OpId → Option (Operation Amount)) (a : AccountId) (s : ActorDb) :
    Prop := s.Balanced op a ∨ s.BillRuns a

/-- **The account's own step.** It keeps the balance, or closes a bill and finds
    nothing left on its cards. -/
theorem accountStep_accounted {m : AccountMsg} {rest : List AccountMsg}
    (hop : ∀ n o, K n o → op n = some o)
    (hrep : ∀ n snapshot, ¬ K n (.replaceDatabase snapshot)) (hi : BillBook op a s)
    (hi' : BillBook op a (s.accountStep a m rest)) (hc : ¬ OverwritesBill s (.account a))
    (hr : ¬ ClosesOverCharges s (.account a)) (ho : (originInv K).Holds s) (hs : s.Started)
    (hk : Known s) (hbox : s.accountBox a = m :: rest) (hbal : s.Accounted op a) :
    (s.accountStep a m rest).Accounted op a := by
  have hm := ho.accountBox a m (by rw [hbox]; exact List.mem_cons_self)
  have hmrep : ∀ lim con, m ≠ .replaceState lim con := by
    rintro lim con rfl
    obtain ⟨n, snapshot, hko, -⟩ := hm
    exact hrep n snapshot hko
  have hacc : (s.accountStep a m rest).account a = ((s.account a).handle m).1 := by simp
  have hbox' : (s.accountStep a m rest).accountBox a = rest := by
    rw [accountStep_box, Function.update_self]
  have hcons := AccountActor.handle_consumed (s.account a) m hmrep
  have hside := accountStep_cardsSide (a := a) hop ho hk hbox
  rw [if_pos rfl, if_pos rfl] at hside
  have horig := (account_origin a (s.account a) m (ho.account a) hm).1
  by_cases hresets : (s.account a).resets m = true
  · -- the bill is closed: what is left must be zero on both sides
    by_cases hruns : (s.accountStep a m rest).BillRuns a
    · exact Or.inr hruns
    refine Or.inl ?_
    have hempty : s.cardsConsumed a + s.approvals op a = 0 := by
      by_contra hne
      rw [← approvals_registered (fun n o h => hop n o (ho.router n o h)) hs] at hne
      exact hr (by simp only [ClosesOverCharges, hbox]; exact ⟨hresets, hne⟩)
    have hadd : (s.account a).added m = [] := by
      cases m with
      | applyChargeFromCard n amount c off k => cases hresets
      | _ => rfl
    have hzero := hi'.reported_eq_zero (fun p hp => by
      rw [hacc] at hp
      obtain ⟨o, hko, hq⟩ := horig.2 p hp
      rw [isBill_eq (hop _ _ hko) hq]
      simp) hruns
    have hreported : (s.accountStep a m rest).reportedToBills op a +
        ((s.account a).collected + m.money op a) =
          s.reportedToBills op a + ((s.account a).handle m).1.collected := by
      unfold ActorDb.reportedToBills
      rw [hbox', hacc, hbox, List.map_cons, List.sum_cons]
      ring
    rw [hadd] at hcons hside
    unfold ActorDb.Balanced
    rw [hacc, hcons, if_pos hresets]
    simp only [List.map_nil, List.sum_nil, add_zero] at hside ⊢
    have hs1 : s.cardsSide op a = s.cardsConsumed a + s.approvals op a +
      s.reportedToBills op a := rfl
    linarith
  · have hopen : (s.account a).resets m = false := by simpa using hresets
    have hsafe := hi.safe hbox hc
    obtain hbal | hstart | ⟨p, hp, hb⟩ := hbal
    · refine Or.inl ?_
      have hcoll := collected_open hop (ho.account a) hsafe hopen
      unfold ActorDb.Balanced at hbal ⊢
      rw [hacc, hcons, hopen, hbal]
      simp only [Bool.false_eq_true, if_false]
      linarith
    · obtain ⟨n, num, hpos, hmem⟩ := hstart
      rw [hbox] at hmem
      obtain rfl | hmem := List.mem_cons.mp hmem
      · refine Or.inr (Or.inr ⟨⟨n, num, [], true⟩, ?_, rfl⟩)
        have hne : num ≠ 0 := by omega
        rw [hacc]
        simp only [AccountActor.handle, AccountActor.startAccountBill, if_neg hne]
      · exact Or.inr (Or.inl ⟨n, num, hpos, by rw [hbox']; exact hmem⟩)
    · -- the pending bill goes on
      have hstep := AccountActor.handle_pending (s.account a) m
      rw [← hacc] at hstep
      unfold ActorDb.Accounted ActorDb.BillRuns
      generalize ((s.accountStep a m rest).account a).pendingQuery = q at hstep ⊢
      cases hstep with
      | query n num hnum =>
        have := hsafe.keeps (by simpa [AccountMsg.startsQuery] using hnum) p hp
        rw [hb] at this
        cases this
      | bill n num hnum => exact Or.inr (Or.inr ⟨_, rfl, rfl⟩)
      | finished n c con p' hp' hn hrem =>
        rw [hp] at hp'
        cases hp'
        simp [AccountActor.resets, hp, hn, hrem, hb] at hopen
      | collected n c con p' hp' hn hrem =>
        rw [hp] at hp'
        cases hp'
        exact Or.inr (Or.inr ⟨_, rfl, hb⟩)
      | same _ _ _ => exact Or.inr (Or.inr ⟨p, hp, hb⟩)

theorem accounted_step (hop : ∀ n o, K n o → op n = some o)
    (hrep : ∀ n snapshot, ¬ K n (.replaceDatabase snapshot)) (hi : BillBook op a s)
    (hi' : BillBook op a s') (hc : ¬ OverwritesBill s l) (hr : ¬ ClosesOverCharges s l)
    (ho : (originInv K).Holds s) (hs : s.Started) (hk : Known s)
    (hflight : ∀ k r, .chargeReply r ∈ s.cardBox k → (s.card k).inFlight r.opId ≠ 0)
    (h : s.step l = some s') (hbal : s.Accounted op a) : s'.Accounted op a := by
  obtain ⟨n, o, rfl, rfl⟩ | ⟨m, rest, rfl, hbox, -, rfl⟩ | ⟨a', m, rest, rfl, hbox, rfl⟩ |
    ⟨k, m, rest, rfl, hbox, rfl⟩ := ActorDb.step_cases h
  · exact hbal
  · have hm : routerMsgOrigin K m := ho.routerBox m (by rw [hbox]; exact List.mem_cons_self)
    have hmrep : ∀ n snapshot, m ≠ .execute n (.replaceDatabase snapshot) := by
      rintro n snapshot rfl
      exact hrep n snapshot hm
    have hside : (s.routerStep m rest).cardsSide op a = s.cardsSide op a :=
      routerStep_cardsSide hk hmrep
    obtain hbal | ⟨n, num, hpos, hmem⟩ | hpend := hbal
    · refine Or.inl ?_
      unfold ActorDb.Balanced
      rw [hside]
      exact hbal
    · exact Or.inr (Or.inl ⟨n, num, hpos, List.mem_append_left _ hmem⟩)
    · exact Or.inr (Or.inr hpend)
  · by_cases haa : a' = a
    · subst haa
      exact accountStep_accounted hop hrep hi hi' hc hr ho hs hk hbox hbal
    · have hside := accountStep_cardsSide (a := a) hop ho hk hbox
      simp only [if_neg haa, add_zero] at hside
      have hacc : (s.accountStep a' m rest).account a = s.account a := by
        simp [Function.update_of_ne (Ne.symm haa)]
      have hbox' : (s.accountStep a' m rest).accountBox a = s.accountBox a := by
        rw [accountStep_box, Function.update_of_ne (Ne.symm haa)]
      unfold ActorDb.Accounted ActorDb.Balanced ActorDb.BillRuns
      rw [hside, hacc, hbox']
      exact hbal
  · have hside := cardStep_cardsSide (a := a) hop hrep ho hk hbox fun r he =>
      hflight k r (by rw [hbox, he]; exact List.mem_cons_self)
    obtain hbal | ⟨n, num, hpos, hmem⟩ | hpend := hbal
    · refine Or.inl ?_
      unfold ActorDb.Balanced
      rw [hside]
      exact hbal
    · exact Or.inr (Or.inl ⟨n, num, hpos, List.mem_append_left _ hmem⟩)
    · exact Or.inr (Or.inr hpend)

/-! ## Runs -/

/-- What the steps of a run keep about the two sides. -/
structure Audited (s : ActorDb) (a : AccountId) (t : ActorDb) : Prop
    extends Conserves s.operationOf a t where
  flight : ∀ n k amount off, (n, .charge k.1 k.2 amount off) ∈ s.commands → FlightBook n k t
  accounted : t.Accounted s.operationOf a

theorem Audited.init : Audited s a ActorDb.init := by
  refine ⟨Conserves.init, fun _ _ _ _ _ => rfl, Or.inl ?_⟩
  simp [ActorDb.Balanced, ActorDb.cardsSide, ActorDb.cardsConsumed, ActorDb.approvals,
    ActorDb.reportedToBills, ActorDb.init, AccountActor.collected, AccountActor.new,
    ActorRouter.new, Keys.sum]

/-- A reply in a card's mailbox is about the charge it has passed on. -/
theorem Audited.replied {t : ActorDb} (hi : Audited s a t)
    (ho : (originInv fun n o => (n, o) ∈ s.commands).Holds t) {k : CardKey} {r : AccountChargeReply}
    (hmem : .chargeReply r ∈ t.cardBox k) : (t.card k).inFlight r.opId ≠ 0 := by
  obtain ⟨amount, off, hn, -⟩ := ho.cardBox k _ hmem
  have hbook := hi.flight r.opId k amount off hn
  have hpos : 0 < (t.cardBox k).countP (CardMsg.replies r.opId) :=
    List.countP_pos_iff.mpr ⟨_, hmem, by simp [CardMsg.replies]⟩
  unfold FlightBook at hbook
  omega

theorem Audited.step {t t' : ActorDb} (hid : (s.commands.map Prod.fst).Nodup)
    (hrep : s.NoReplace) (ho : (originInv fun n o => (n, o) ∈ s.commands).Holds t)
    (hsub : t'.commands <+: s.commands) (hc : ¬ OverwritesBill t l ∧ ¬ ClosesOverCharges t l)
    (hi : Audited s a t) (h : t.step l = some t') : Audited s a t' := by
  have hnext := hi.toConserves.step hid hrep ho hsub hc.1 h
  refine ⟨hnext, ?_, ?_⟩
  · intro n k amount off hn
    exact (hi.flight n k amount off hn).step (K := fun n o => (n, o) ∈ s.commands)
      (fun _ ho' => command_unique hid ho' hn) hrep ho h
  · exact accounted_step (K := fun n o => (n, o) ∈ s.commands) (fun n o => operationOf_eq hid)
      hrep hi.bills hnext.bills hc.1 hc.2 ho hi.started hi.known (fun _ _ => hi.replied ho) h
      hi.accounted

/-- **Account total equals its cards.** In a run where no query or bill takes the slot
    of a pending bill, and no bill is closed over charges its cards reported too early,
    an account at rest has consumed what its cards have. -/
theorem account_total {ls : List Label} (hr : run ActorDb.step ActorDb.init ls = some s)
    (hc : Meets ActorDb.step (fun t l => ¬ OverwritesBill t l ∧ ¬ ClosesOverCharges t l)
      ActorDb.init ls)
    (hid : (s.commands.map Prod.fst).Nodup) (hrep : s.NoReplace) (hq : s.Quiescent) :
    ∀ a, (s.account a).accountConsumed = s.cardsConsumed a := by
  intro a
  obtain ⟨-, hall⟩ := meets_induct hr hc (P := Audited s a) origin_init Audited.init
    fun t l t' ho hsub hcl hi h => hi.step hid hrep ho hsub hcl h
  have hpend := hall.bills.quiescent hq
  obtain hbal | ⟨n, num, -, hmem⟩ | ⟨p, hp, hb⟩ := hall.accounted
  · have happrovals : s.approvals s.operationOf a = 0 :=
      Keys.sum_eq_zero fun k _ => by rw [hq.card]; rfl
    unfold ActorDb.Balanced ActorDb.cardsSide ActorDb.reportedToBills at hbal
    rw [hq.account, happrovals, collected_eq_zero hpend] at hbal
    simpa using hbal
  · rw [hq.account] at hmem
    cases hmem
  · rw [hpend p hp] at hb
    cases hb

/-- A charge, its bill, and a second charge that waits for the bill to be closed. -/
theorem account_total_example :
    ∃ s, run ActorDb.step ActorDb.init
        [.execute 1 (.charge 1 7 60 false), .execute 2 (.bill 1 none), .router, .card (1, 7),
          .account 1, .card (1, 7), .router, .account 1, .card (1, 7), .account 1, .router,
          .router, .execute 3 (.charge 1 7 30 false), .router, .card (1, 7), .account 1,
          .card (1, 7), .router] = some s ∧
      s.cardsConsumed 1 = 30 ∧ (s.account 1).accountConsumed = s.cardsConsumed 1 := by
  have hrun : (run ActorDb.step ActorDb.init
      [.execute 1 (.charge 1 7 60 false), .execute 2 (.bill 1 none), .router, .card (1, 7),
        .account 1, .card (1, 7), .router, .account 1, .card (1, 7), .account 1, .router,
        .router, .execute 3 (.charge 1 7 30 false), .router, .card (1, 7), .account 1,
        .card (1, 7), .router]).any (fun s =>
          s.commands = [(1, .charge 1 7 60 false), (2, .bill 1 none), (3, .charge 1 7 30 false)] ∧
          s.Drained ∧ s.cardsConsumed 1 = 30) = true := by
    decide +kernel
  obtain ⟨s, hs, hp⟩ := (Option.any_eq_true _ _).mp hrun
  obtain ⟨hcmd, hd, h30⟩ := of_decide_eq_true hp
  have hq : s.Quiescent := quiescent_of_known (known_reaches ⟨_, hs⟩) hd
  have hrep : s.NoReplace := by
    unfold ActorDb.NoReplace
    rw [hcmd]
    simp
  exact ⟨s, hs, h30, account_total hs (by decide +kernel) (by rw [hcmd]; decide) hrep hq 1⟩

/-- **An account can lose its total.** The account approves the charge, the card
    answers the bill before the approval reaches it, and the account closes the bill:
    it counts nothing, while the card counts 60. -/
theorem account_total_differs :
    ¬ ∀ s : ActorDb, Reaches ActorDb.step ActorDb.init s → (s.commands.map Prod.fst).Nodup →
      s.NoReplace → s.Quiescent → ∀ a, (s.account a).accountConsumed = s.cardsConsumed a := by
  intro hall
  have hrun : (run ActorDb.step ActorDb.init
      [.execute 1 (.charge 1 7 60 false), .execute 2 (.bill 1 none), .router, .card (1, 7),
        .router, .account 1, .card (1, 7), .card (1, 7), .account 1, .account 1, .router,
        .router]).any (fun s =>
          s.commands = [(1, .charge 1 7 60 false), (2, .bill 1 none)] ∧
          s.Drained ∧ (s.account 1).accountConsumed = 0 ∧ s.cardsConsumed 1 = 60) = true := by
    decide +kernel
  obtain ⟨s, hs, hp⟩ := (Option.any_eq_true _ _).mp hrun
  obtain ⟨hcmd, hd, hacc, hcards⟩ := of_decide_eq_true hp
  have hq : s.Quiescent := quiescent_of_known (known_reaches ⟨_, hs⟩) hd
  have hrep : s.NoReplace := by
    unfold ActorDb.NoReplace
    rw [hcmd]
    simp
  have hbad := hall s ⟨_, hs⟩ (by rw [hcmd]; decide) hrep hq 1
  rw [hacc, hcards] at hbad
  exact absurd hbad (by decide +kernel)

end Balance

end YpfRuta.Actors
