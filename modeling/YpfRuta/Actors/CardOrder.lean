/-
  A card and the list of operations. Whatever message it handles, a card goes on to a later
  place of the list, in the state the list has there, and reports what lies in between.
-/
import YpfRuta.Actors.InOrder

namespace YpfRuta.Actors

open Lib

variable {Amount : Type} [Currency Amount]

namespace Script

variable {S : Script} {r p p' d i : Nat} {k : CardKey} {c c' : CardActor} {t : CardTask}
  {box : List CardMsg} {out : List Send} {asked : List CardChargeOp}

/-- What the card settles on its own is settled as in the list, and is nothing to its
    account. -/
theorem settles_item (hitem : S.item k p = some (.task t))
    (hentry : c.entry = (S.ledger p).cardEntry k) {lim : Option Amount} {b : Bool}
    {e : Option VerifyError} (hs : c.Settles t lim b e) :
    (⟨lim, c.consumed⟩ : Entry) = (S.ledger (p + 1)).cardEntry k ∧
      S.Report p (.operationCompleted t.opId b e) ∧
      (S.ledger (p + 1)).accountEntry k.1 = (S.ledger p).accountEntry k.1 := by
  obtain ⟨n, amount, off, ht, hop⟩ | ⟨n, newLimit, ht, hop⟩ | ⟨n, reset, o, ht, -⟩ :=
    item_cases hitem
  · obtain rfl := CardItem.task.inj ht
    cases hs with
    | rejected _ err hon hchk =>
      obtain rfl : off = false := hon
      have hchk' : c.checkChargeLimit amount = .error err := hchk
      obtain rfl : err = .cardLimitExceeded := by
        unfold CardActor.checkChargeLimit at hchk'
        grind
      have hno : ¬ ((S.ledger p).cardEntry k).Admits amount := by
        intro hadm
        rw [← hentry, ← CardActor.entry_admits, hchk'] at hadm
        cases hadm
      have hv : (S.ledger p).verdict (.charge k.1 k.2 amount false) =
          some (.chargeLimit .cardLimitExceeded) := by simp [Ledger.verdict, hno]
      have hne : (S.ledger p).verdict (.charge k.1 k.2 amount false) ≠ none := by simp [hv]
      refine ⟨?_, ?_, ?_⟩
      · rw [hop.ledger, Ledger.serve_charge_card, if_neg hne]
        exact hentry
      · have h := Report.task hop True.intro
        rwa [hv] at h
      · rw [hop.ledger, Ledger.serve_charge_account, if_neg hne]
  · obtain rfl := CardItem.task.inj ht
    have hacc : (S.ledger (p + 1)).accountEntry k.1 = (S.ledger p).accountEntry k.1 := by
      rw [hop.ledger, Ledger.serve_limitCard_account]
    have hreport := Report.task hop True.intro
    cases hs with
    | limitSet _ _ hchk =>
      have hb : ((S.ledger p).cardEntry k).Bears lim := by
        rw [← hentry]
        exact CardActor.entry_bears.mp hchk
      have hv : (S.ledger p).verdict (.limitCard k.1 k.2 lim) = none := if_pos hb
      refine ⟨?_, by rwa [hv] at hreport, hacc⟩
      rw [hop.ledger, Ledger.serve_limitCard_card, if_pos hv]
      show _ = ((S.ledger p).cardEntry k).withLimit lim
      rw [← hentry]
      rfl
    | limitRefused _ _ err hchk =>
      obtain rfl : err = .belowCurrentUsage := by
        unfold CardActor.canSetNewLimit at hchk
        grind
      have hb : ¬ ((S.ledger p).cardEntry k).Bears newLimit := by
        intro hb
        rw [← hentry] at hb
        rw [CardActor.entry_bears.mpr hb] at hchk
        cases hchk
      have hv : (S.ledger p).verdict (.limitCard k.1 k.2 newLimit) =
          some (.limitUpdate .belowCurrentUsage) := if_neg hb
      refine ⟨?_, by rwa [hv] at hreport, hacc⟩
      rw [hop.ledger, Ledger.serve_limitCard_card, if_neg (by simp [hv])]
      exact hentry
  · cases ht

/-- The card has gone from `p` on to `p'`: it reports the tasks in between, and may have
    asked its account for the one at `p'`. The account was done with the charges before `d`;
    those behind it were refused by the card. -/
structure Advanced (S : Script) (r : Nat) (k : CardKey) (p d : Nat) (box : List CardMsg)
    (c' : CardActor) (out : List Send) (p' : Nat) (asked : List CardChargeOp) : Prop where
  lo : p ≤ p'
  done : d ≤ p'
  le : p' ≤ r
  named : c'.accountId = k.1 ∧ c'.cardId = k.2
  work : c'.work box = (pending (S.item k) p' r).map Prod.snd
  entry : c'.entry = (S.ledger p').cardEntry k
  round : S.Round k p' p' c' asked []
  tasks : ∀ i x, p ≤ i → i < p' → S.item k i = some x → ∃ t, x = .task t
  refused : ∀ i n amount off, p ≤ i → d ≤ i → i < p' → S.Op i n (.charge k.1 k.2 amount off) →
    (S.ledger (i + 1)).accountEntry k.1 = (S.ledger i).accountEntry k.1
  out : ∃ ms, out = ms.map Send.router ++ asked.map c'.applyCharge ∧
    List.Forall₂ S.Report ((pending (S.item k) p p').map Prod.fst) ms

/-- Operations that bring the card nothing do not count. -/
theorem Advanced.lower (h : S.Advanced r k i d box c' out p' asked) (hpi : p ≤ i)
    (hnone : ∀ j, p ≤ j → j < i → S.item k j = none) :
    S.Advanced r k p d box c' out p' asked := by
  obtain ⟨ms, hout, hms⟩ := h.out
  refine ⟨hpi.trans h.lo, h.done, h.le, h.named, h.work, h.entry, h.round, ?_, ?_, ms, hout, ?_⟩
  · intro j x hp hj hx
    by_cases hji : j < i
    · rw [hnone j hp hji] at hx
      cases hx
    · exact h.tasks j x (Nat.le_of_not_lt hji) hj hx
  · intro j n amount off hp hd hj hop
    by_cases hji : j < i
    · have hsome := hop.item k
      rw [hnone j hp hji] at hsome
      simp [itemOf] at hsome
    · exact h.refused j n amount off (Nat.le_of_not_lt hji) hd hj hop
  · rwa [pending_skip hpi h.lo hnone]

/-- A task reported in front. -/
theorem Advanced.cons {m : RouterMsg} (h : S.Advanced r k (p + 1) d box c' out p' asked)
    (hitem : S.item k p = some (.task t)) (hm : S.Report p m)
    (hacc : d ≤ p → (S.ledger (p + 1)).accountEntry k.1 = (S.ledger p).accountEntry k.1) :
    S.Advanced r k p d box c' (.router m :: out) p' asked := by
  obtain ⟨ms, hout, hms⟩ := h.out
  refine ⟨(Nat.le_succ p).trans h.lo, h.done, h.le, h.named, h.work, h.entry, h.round, ?_, ?_,
    m :: ms, ?_, ?_⟩
  · intro j x hp hj hx
    by_cases hjp : j = p
    · subst hjp
      exact ⟨t, Option.some.inj (hx.symm.trans hitem)⟩
    · exact h.tasks j x (by omega) hj hx
  · intro j n amount off hp hd hj hop
    by_cases hjp : j = p
    · subst hjp
      exact hacc hd
    · exact h.refused j n amount off (by omega) hd hj hop
  · rw [hout]
    rfl
  · rw [pending_append (Nat.le_succ p) h.lo, pending_one, hitem]
    exact .cons hm hms

/-- Nothing is left to do but what the mailbox brings. -/
theorem Advanced.idle (hd : d ≤ p) (hle : p ≤ r) (hname : c.accountId = k.1 ∧ c.cardId = k.2)
    (hcur : c.currentTask = none) (hq : c.queue = [])
    (hentry : c.entry = (S.ledger p).cardEntry k)
    (hwork : box.filterMap CardMsg.item? = (pending (S.item k) p r).map Prod.snd) :
    S.Advanced r k p d box c [] p [] where
  lo := Nat.le_refl p
  done := hd
  le := hle
  named := hname
  work := by
    unfold CardActor.work
    rw [hcur, hq]
    exact hwork
  entry := hentry
  round := .idle hcur hq rfl
  tasks i x hp hi := absurd hi (Nat.not_lt.mpr hp)
  refused i n amount off hp _ hi := absurd hi (Nat.not_lt.mpr hp)
  out := ⟨[], rfl, by rw [pending_self]; exact .nil⟩

/-- The card asks for the charge it is at. -/
theorem Advanced.ask {op : CardChargeOp} (hd : d ≤ p) (hlt : p < r)
    (hname : c.accountId = k.1 ∧ c.cardId = k.2) (hcur : c.currentTask = some (.charge op))
    (hitem : S.item k p = some (.task (.charge op))) (hpass : c.Passes op)
    (hentry : c.entry = (S.ledger p).cardEntry k)
    (hwork : c.queue.map .task ++ box.filterMap CardMsg.item? =
      (pending (S.item k) (p + 1) r).map Prod.snd) :
    S.Advanced r k p d box c [c.applyCharge op] p [op] where
  lo := Nat.le_refl p
  done := hd
  le := Nat.le_of_lt hlt
  named := hname
  work := by
    rw [pending_append (Nat.le_succ p) hlt, pending_one, hitem, List.map_append, ← hwork]
    unfold CardActor.work
    rw [hcur]
    rfl
  entry := hentry
  round := .asking hcur hitem (hpass.imp_right CardActor.entry_admits.mp) rfl
  tasks i x hp hi := absurd hi (Nat.not_lt.mpr hp)
  refused i n amount off hp _ hi := absurd hi (Nat.not_lt.mpr hp)
  out := ⟨[], rfl, by rw [pending_self]; exact .nil⟩

/-- **The pump goes on in the list**, from the task it starts with. -/
theorem start_advances (c : CardActor) : ∀ p t, d ≤ p → c.currentTask = some t →
    S.item k p = some (.task t) → p < r → c.accountId = k.1 ∧ c.cardId = k.2 →
    c.entry = (S.ledger p).cardEntry k →
    c.queue.map .task ++ box.filterMap CardMsg.item? =
      (pending (S.item k) (p + 1) r).map Prod.snd →
    ∃ p' asked, S.Advanced r k p d box c.startCurrentTask.1 c.startCurrentTask.2 p' asked := by
  refine CardActor.pump_induct (P := fun c out => ∀ p t, d ≤ p → c.currentTask = some t →
    S.item k p = some (.task t) → p < r → c.accountId = k.1 ∧ c.cardId = k.2 →
    c.entry = (S.ledger p).cardEntry k →
    c.queue.map .task ++ box.filterMap CardMsg.item? =
      (pending (S.item k) (p + 1) r).map Prod.snd →
    ∃ p' asked, S.Advanced r k p d box out.1 out.2 p' asked) ?_ ?_ ?_ ?_ c
  · intro c hnone p t _ hcur
    rw [hnone] at hcur
    cases hcur
  · intro c op hcur hpass p t hd hcur' hitem hlt hname hentry hwork
    obtain rfl : .charge op = t := Option.some.inj (hcur.symm.trans hcur')
    exact ⟨p, [op], .ask hd hlt hname hcur hitem hpass hentry hwork⟩
  · intro c t lim b e hcur hs hq p t' hd hcur' hitem hlt hname hentry hwork
    obtain rfl : t = t' := Option.some.inj (hcur.symm.trans hcur')
    obtain ⟨hentry', hreport, hacc⟩ := settles_item hitem hentry hs
    rw [hq] at hwork
    have hidle := Advanced.idle (c := { c with limit := lim, currentTask := none })
      (Nat.le_succ_of_le hd) hlt hname rfl hq hentry' hwork
    exact ⟨p + 1, [], hidle.cons hitem hreport fun _ => hacc⟩
  · intro c t lim b e t' q out hcur hs hq ih p t'' hd hcur' hitem hlt hname hentry hwork
    obtain rfl : t = t'' := Option.some.inj (hcur.symm.trans hcur')
    obtain ⟨hentry', hreport, hacc⟩ := settles_item hitem hentry hs
    -- the next task is the next item of the list
    rw [hq] at hwork
    obtain ⟨i, hpi, hir, hitem', hnone, hl⟩ := pending_head hwork
    have hconst := cardEntry_const hpi hnone
    obtain ⟨p', asked, hadv⟩ := ih i t' (hd.trans (by omega)) rfl hitem' hir hname
      (hentry'.trans hconst.symm) hl
    exact ⟨p', asked, (hadv.lower hpi hnone).cons hitem hreport fun _ => hacc⟩

/-- A task that ends is reported, and the pump goes on with the next one. -/
theorem finish_advances {n : OpId} {b : Bool} {e : Option VerifyError} (hd : d ≤ p + 1)
    (hitem : S.item k p = some (.task t)) (hlt : p < r)
    (hreport : S.Report p (.operationCompleted n b e))
    (hacc : d ≤ p → (S.ledger (p + 1)).accountEntry k.1 = (S.ledger p).accountEntry k.1)
    (hname : c.accountId = k.1 ∧ c.cardId = k.2)
    (hentry : c.entry = (S.ledger (p + 1)).cardEntry k)
    (hwork : c.queue.map .task ++ box.filterMap CardMsg.item? =
      (pending (S.item k) (p + 1) r).map Prod.snd) :
    ∃ p' asked, S.Advanced r k p d box (c.finishCurrentTask n b e).1
      (c.finishCurrentTask n b e).2 p' asked := by
  cases hq : c.queue with
  | nil =>
    rw [hq] at hwork
    rw [CardActor.finishCurrentTask_nil c hq]
    have hidle := Advanced.idle (c := { c with currentTask := none }) hd hlt hname rfl hq hentry
      hwork
    exact ⟨p + 1, [], hidle.cons hitem hreport hacc⟩
  | cons t' q =>
    rw [hq] at hwork
    obtain ⟨i, hpi, hir, hitem', hnone, hl⟩ := pending_head hwork
    have hconst := cardEntry_const hpi hnone
    rw [CardActor.finishCurrentTask_cons c hq]
    obtain ⟨p', asked, hadv⟩ := start_advances (d := d) (r := r)
      { c with currentTask := some t', queue := q } i t' (hd.trans hpi) rfl hitem' hir hname
      (hentry.trans hconst.symm) hl
    exact ⟨p', asked, (hadv.lower hpi hnone).cons hitem hreport hacc⟩

/-! ## One message -/

theorem Advanced.cardAt (h : S.Advanced r k p d box c' out p' asked)
    (hbox : ∀ m ∈ box, m.For k) (hreply : box.filterMap CardMsg.reply? = []) :
    S.CardAt r k p' p' c' box asked where
  named := h.named
  allowed := hbox
  le := h.le
  work := h.work
  entry := h.entry
  round := by
    rw [hreply]
    exact h.round

/-- The round trip of a charge, by what its card works on. -/
theorem Round.of_idle {replies : List AccountChargeReply} (h : S.Round k p d c asked replies)
    (hcur : c.currentTask = none) : c.queue = [] ∧ d = p ∧ asked = [] ∧ replies = [] := by
  cases h with
  | idle _ hq hd => exact ⟨hq, hd, rfl, rfl⟩
  | asking hcur' =>
    rw [hcur] at hcur'
    cases hcur'
  | answered hcur' =>
    rw [hcur] at hcur'
    cases hcur'

theorem CardAt.lt (h : S.CardAt r k p d c box asked) (hcur : c.currentTask = some t) : p < r := by
  have hwork := h.work
  unfold CardActor.work at hwork
  rw [hcur] at hwork
  obtain ⟨i, hpi, hir, -⟩ := pending_head hwork
  exact hpi.trans_lt hir

theorem CardAt.bounds (h : S.CardAt r k p d c box asked) : p ≤ d ∧ d ≤ r := by
  have hround := h.round
  generalize box.filterMap CardMsg.reply? = replies at hround
  cases hround with
  | idle _ _ hd => exact ⟨hd.ge, hd.le.trans h.le⟩
  | asking _ _ _ hd => exact ⟨hd.ge, hd.le.trans h.le⟩
  | answered hcur hitem hd _ =>
    -- the charge it waits for is one the router has handled
    have hlt := h.lt hcur
    omega

/-- The router has handled one more operation. -/
theorem CardAt.extend {new : List CardMsg} (h : S.CardAt r k p d c box asked)
    (hfor : ∀ m ∈ new, m.For k ∧ m.reply? = none)
    (hnew : new.filterMap CardMsg.item? = (S.item k r).toList) :
    S.CardAt (r + 1) k p d c (box ++ new) asked where
  named := h.named
  allowed m hm := (List.mem_append.mp hm).elim (h.allowed m) fun hm => (hfor m hm).1
  le := Nat.le_succ_of_le h.le
  work := by
    have hwork : c.work (box ++ new) = c.work box ++ new.filterMap CardMsg.item? := by
      simp [CardActor.work]
    rw [hwork, h.work, hnew, pending_snoc h.le, List.map_append, List.map_map]
    congr 1
    exact (List.map_id _).symm
  entry := h.entry
  round := by
    have hnil : new.filterMap CardMsg.reply? = [] :=
      List.filterMap_eq_nil_iff.mpr fun m hm => (hfor m hm).2
    rw [List.filterMap_append, hnil, List.append_nil]
    exact h.round

/-- A card that works on a task may change its queue. -/
theorem Round.of_busy {replies : List AccountChargeReply} (h : S.Round k p d c asked replies)
    (hcur : c.currentTask = some t) (q : List CardTask) :
    S.Round k p d { c with queue := q } asked replies := by
  cases h with
  | idle hcur' =>
    rw [hcur] at hcur'
    cases hcur'
  | asking hcur' hitem hpass hd => exact .asking hcur' hitem hpass hd
  | answered hcur' hitem hd herr =>
    exact .answered (c := { c with queue := q }) hcur' hitem hd herr

/-- **A card gets a task.** It queues it behind the one it works on, or goes on with it. -/
theorem CardAt.accept {m : CardMsg} (h : S.CardAt r k p d c (m :: box) asked)
    (hm : m.item? = some (.task t)) (hhandle : c.handle m = c.acceptTask t) :
    ((c.handle m).2 = [] ∧ S.CardAt r k p d (c.handle m).1 box asked) ∨
    (d = p ∧ asked = [] ∧ box.filterMap CardMsg.reply? = [] ∧ ∃ p' asked',
      S.Advanced r k p p box (c.handle m).1 (c.handle m).2 p' asked') := by
  have hreply : m.reply? = none := by
    cases m <;> first | rfl | cases hm
  have hbox := fun m' hm' => h.allowed m' (List.mem_cons_of_mem _ hm')
  have hround := h.round
  rw [List.filterMap_cons_none hreply] at hround
  have hwork := h.work
  unfold CardActor.work at hwork
  rw [List.filterMap_cons_some hm] at hwork
  cases hcur : c.currentTask with
  | none =>
    have hstart : c.acceptTask t = { c with currentTask := some t }.startCurrentTask := by
      unfold CardActor.acceptTask
      rw [hcur]
    rw [hhandle, hstart]
    obtain ⟨hq, hd, hasked, hnoreply⟩ := hround.of_idle hcur
    refine Or.inr ⟨hd, hasked, hnoreply, ?_⟩
    rw [hcur, hq] at hwork
    obtain ⟨i, hpi, hir, hitem, hnone, hl⟩ := pending_head hwork
    have hconst := cardEntry_const hpi hnone
    obtain ⟨p', asked', hadv⟩ := start_advances (d := p) (r := r)
      { c with currentTask := some t } i t hpi rfl hitem hir h.named
      (h.entry.trans hconst.symm) (by rw [hq]; exact hl)
    exact ⟨p', asked', hadv.lower hpi hnone⟩
  | some u =>
    have hqueue : c.acceptTask t = ({ c with queue := c.queue ++ [t] }, []) := by
      unfold CardActor.acceptTask
      rw [hcur]
    rw [hhandle, hqueue]
    refine Or.inl ⟨rfl, h.named, hbox, h.le, ?_, h.entry, hround.of_busy hcur _⟩
    rw [← hwork]
    simp [CardActor.work, hcur]

/-- **A card gets the answer of its account.** The charge ends as in the list. -/
theorem CardAt.reply {x : AccountChargeReply}
    (h : S.CardAt r k p d c (.chargeReply x :: box) asked) :
    d = p + 1 ∧ asked = [] ∧ box.filterMap CardMsg.reply? = [] ∧ ∃ p' asked',
      S.Advanced r k p (p + 1) box (c.handle (.chargeReply x)).1 (c.handle (.chargeReply x)).2 p'
        asked' := by
  have hround := h.round
  have hx : CardMsg.reply? (.chargeReply x) = some x := rfl
  rw [List.filterMap_cons_some hx] at hround
  generalize hrest : box.filterMap CardMsg.reply? = replies at hround
  cases hround with
  | @answered op hcur hitem hd err herr =>
    refine ⟨hd, rfl, rfl, ?_⟩
    obtain ⟨-, hop⟩ := op_of_charge hitem
    have hwork := h.work
    unfold CardActor.work at hwork
    rw [List.filterMap_cons_none rfl, hcur] at hwork
    obtain ⟨i, hpi, hir, -, hnone, hl⟩ := pending_head hwork
    obtain rfl : i = p := by
      by_contra hne
      rw [hnone p (Nat.le_refl p) (by omega)] at hitem
      cases hitem
    have hentry : ({ c with consumed :=
        if err.isNone = true then c.consumed + op.amount else c.consumed } : CardActor).entry =
          (S.ledger (i + 1)).cardEntry k := by
      rw [hop.ledger, Ledger.serve_charge_card, ← herr, ← h.entry]
      cases err with
      | none => rfl
      | some err => rfl
    have hreport := Report.task hop True.intro
    rw [← herr] at hreport
    have hfinish := finish_advances (d := i + 1) (c := { c with consumed :=
        if err.isNone = true then c.consumed + op.amount else c.consumed }) (Nat.le_refl _) hitem
      hir hreport (fun hle => absurd hle (by omega)) h.named hentry hl
    have hhandle : c.handle (.chargeReply ⟨op.opId, err.isNone, err⟩) =
        ({ c with consumed :=
          if err.isNone = true then c.consumed + op.amount else c.consumed } :
            CardActor).finishCurrentTask op.opId err.isNone err := by
      simp only [CardActor.handle, CardActor.handleChargeReply, hcur, if_true]
    rw [hhandle]
    exact hfinish

/-- **A card that asks its account** asks for the charge it is at; the answer comes back to it. -/
theorem CardAt.asking {op : CardChargeOp} {l : List CardChargeOp}
    (h : S.CardAt r k p d c box (op :: l)) :
    l = [] ∧ d = p ∧ p < r ∧ S.Op p op.opId (.charge k.1 k.2 op.amount op.fromOfflineStation) ∧
      (op.fromOfflineStation = true ∨ ((S.ledger p).cardEntry k).Admits op.amount) ∧
      ∀ err, err = (S.ledger p).verdict (.charge k.1 k.2 op.amount op.fromOfflineStation) →
        S.CardAt r k p (p + 1) c (box ++ [.chargeReply ⟨op.opId, err.isNone, err⟩]) [] := by
  have hround := h.round
  generalize hreplies : box.filterMap CardMsg.reply? = replies at hround
  cases hround with
  | asking hcur hitem hpass hd =>
    rw [h.entry] at hpass
    refine ⟨rfl, hd, h.lt hcur, (op_of_charge hitem).2, hpass, fun err herr =>
      ⟨h.named, ?_, h.le, ?_, h.entry, ?_⟩⟩
    · intro m hm
      obtain hm | hm := List.mem_append.mp hm
      · exact h.allowed m hm
      · obtain rfl := List.mem_singleton.mp hm
        exact True.intro
    · rw [← h.work]
      simp [CardActor.work, CardMsg.item?]
    · have hx : CardMsg.reply? (.chargeReply ⟨op.opId, err.isNone, err⟩) =
          some ⟨op.opId, err.isNone, err⟩ := rfl
      rw [List.filterMap_append, hreplies, List.nil_append, List.filterMap_cons_some hx]
      exact .answered hcur hitem rfl herr

/-- **A card gets a question**, and works on no task: it answers from its place in the
    list, and goes on behind the query. -/
theorem CardAt.query {n : OpId} {a : AccountId} {reset : Bool}
    (h : S.CardAt r k p d c (.queryCardState n a reset :: box) asked)
    (hcur : c.currentTask = none) :
    ∃ i, d = p ∧ asked = [] ∧ p ≤ i ∧ i < r ∧ S.item k i = some (.query n reset) ∧
      (∀ j, p ≤ j → j < i → S.item k j = none) ∧
      (c.handle (.queryCardState n a reset)).2 = [.account k.1 (.cardQueryReply n k.2
        ((S.ledger i).cardEntry k).consumed)] ∧
      S.CardAt r k (i + 1) (i + 1) (c.handle (.queryCardState n a reset)).1 box [] := by
  have hround := h.round
  rw [List.filterMap_cons_none rfl] at hround
  obtain ⟨hq, hd, hasked, hnoreply⟩ := hround.of_idle hcur
  have hwork := h.work
  unfold CardActor.work at hwork
  have hx : CardMsg.item? (.queryCardState n a reset) = some (.query n reset) := rfl
  rw [List.filterMap_cons_some hx, hcur, hq] at hwork
  obtain ⟨i, hpi, hir, hitem, hnone, hl⟩ := pending_head hwork
  have hconst := cardEntry_const hpi hnone
  have hentry : c.entry = (S.ledger i).cardEntry k := h.entry.trans hconst.symm
  have ha : a = k.1 := h.allowed _ List.mem_cons_self
  have hhandle : c.handle (.queryCardState n a reset) =
      ({ c with consumed := if reset then 0 else c.consumed },
        [.account c.accountId (.cardQueryReply n c.cardId c.consumed)]) := by
    have hne : ¬ a ≠ c.accountId := not_not.mpr (ha.trans h.named.1.symm)
    simp only [CardActor.handle, CardActor.queryCardState, if_neg hne]
  rw [hhandle]
  refine ⟨i, hd, hasked, hpi, hir, hitem, hnone, ?_, h.named,
    fun m hm => h.allowed m (List.mem_cons_of_mem _ hm), hir, ?_, ?_, ?_⟩
  · rw [← hentry, h.named.1, h.named.2]
    rfl
  · rw [← hl]
    simp [CardActor.work, hcur, hq]
  · obtain ⟨o, hop, ho, -⟩ := op_of_query hitem
    rw [hop.ledger]
    cases reset with
    | true =>
      obtain ⟨period, rfl⟩ := ho
      show _ = ((S.ledger i).settle k.1).cardEntry k
      rw [Ledger.settle_cardEntry, if_pos (rfl : k.1 = k.1), ← hentry]
      rfl
    | false =>
      obtain rfl : o = .accountQuery k.1 := ho
      show _ = ((S.ledger i).openAccount k.1).cardEntry k
      rw [Ledger.openAccount_cardEntry, ← hentry]
      rfl
  · rw [hnoreply]
    exact .idle hcur hq rfl

end Script

end YpfRuta.Actors
