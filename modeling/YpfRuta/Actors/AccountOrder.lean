/-
  An account and the list of operations. An account that takes its operations up in order
  is at a place of the list, in the state the list has there; the answers to a query come
  from the cards at that place.
-/
import YpfRuta.Actors.InOrder

namespace YpfRuta.Actors

open Lib

variable {Amount : Type} [Currency Amount]

namespace Script

variable {S : Script} {r q i : Nat} {p p' d d' : CardKey → Nat} {a : AccountId}
  {box new : List AccountMsg} {m : AccountMsg} {x : Slot} {n : OpId} {o : Operation Amount}
  {billing : Bool}

/-! ## Operations taken up -/

/-- The account takes up operation `i`, and no earlier one is on its way to it. -/
theorem Taken.take (h : S.Taken r d a q (m :: box)) (hqi : q ≤ i) (hir : i < r)
    (hitem : m.item? = S.direct a i) (hnone : ∀ j, q ≤ j → j < i → S.direct a j = none)
    (hdone : ∀ j c n amount off, j ≤ i → S.Op j n (.charge a c amount off) → j < d' (a, c))
    (hd' : ∀ j c n amount off, S.Op j n (.charge a c amount off) → j < d' (a, c) →
      j < d (a, c) ∨ j ≤ i) : S.Taken r d' a (i + 1) box where
  allowed m' hm' := h.allowed m' (List.mem_cons_of_mem _ hm')
  le := hir
  direct := by
    have hbox := h.direct
    rw [pending_skip hqi (Nat.le_of_lt hir) hnone, pending_append (Nat.le_succ i) hir,
      pending_one, ← hitem] at hbox
    cases hm : m.item? with
    | none => simpa [List.filterMap_cons_none hm, hm] using hbox
    | some y => simpa [List.filterMap_cons_some hm, hm] using hbox
  ahead j c n amount off hjr hop hle := by
    by_contra hlt
    exact absurd (hdone j c n amount off (by omega) hop) (Nat.not_lt.mpr hle)
  behind j c n amount off hjr hop hlt := by
    obtain hold | hji := hd' j c n amount off hop hlt
    · exact (h.behind j c n amount off hjr hop hold).imp_left fun hjq => by omega
    · exact Or.inl (by omega)

/-- The account is as the list has it before operation `i`. -/
theorem Taken.entry_const (h : S.Taken r d a q box) (hqi : q ≤ i) (hir : i ≤ r)
    (hnone : ∀ j, q ≤ j → j < i → S.direct a j = none)
    (hdone : ∀ j c n amount off, j < i → S.Op j n (.charge a c amount off) → j < d (a, c)) :
    (S.ledger i).accountEntry a = (S.ledger q).accountEntry a := by
  refine eq_of_none (v := fun j => (S.ledger j).accountEntry a) hqi fun j hqj hji => ?_
  refine accountEntry_succ (hnone j hqj hji) fun n c amount off hop => ?_
  obtain hlt | hsame := h.behind j c n amount off (by omega) hop (hdone j c n amount off hji hop)
  · exact absurd hqj (Nat.not_le.mpr hlt)
  · exact hsame

theorem Taken.tail (h : S.Taken r d a q (m :: box)) (hitem : m.item? = none) :
    S.Taken r d a q box where
  allowed m' hm' := h.allowed m' (List.mem_cons_of_mem _ hm')
  le := h.le
  direct := by
    rw [← h.direct, List.filterMap_cons_none hitem]
  ahead := h.ahead
  behind := h.behind

/-- The cards have gone on: they have settled the charges up to `d'`, or the account has. -/
theorem Taken.advance (h : S.Taken r d a q box) (hnew : ∀ m ∈ new, m.For a ∧ m.item? = none)
    (hd : ∀ c, d (a, c) ≤ d' (a, c))
    (hd' : ∀ j c n amount off, j < r → S.Op j n (.charge a c amount off) → j < d' (a, c) →
      j < d (a, c) ∨ (S.ledger (j + 1)).accountEntry a = (S.ledger j).accountEntry a) :
    S.Taken r d' a q (box ++ new) where
  allowed m hm := (List.mem_append.mp hm).elim (h.allowed m) fun hm => (hnew m hm).1
  le := h.le
  direct := by
    have hnil : new.filterMap AccountMsg.item? = [] :=
      List.filterMap_eq_nil_iff.mpr fun m hm => (hnew m hm).2
    rw [List.filterMap_append, hnil, List.append_nil]
    exact h.direct
  ahead j c n amount off hjr hop hle := h.ahead j c n amount off hjr hop ((hd c).trans hle)
  behind j c n amount off hjr hop hlt :=
    (hd' j c n amount off hjr hop hlt).elim (h.behind j c n amount off hjr hop) Or.inr

/-- The router has handled one more operation. -/
theorem Taken.extend (h : S.Taken r d a q box) (hd : ∀ c, d (a, c) ≤ r)
    (hfor : ∀ m ∈ new, m.For a) (hnew : new.filterMap AccountMsg.item? = (S.direct a r).toList) :
    S.Taken (r + 1) d a q (box ++ new) where
  allowed m hm := (List.mem_append.mp hm).elim (h.allowed m) (hfor m)
  le := Nat.le_succ_of_le h.le
  direct := by
    rw [List.filterMap_append, hnew, h.direct, pending_snoc h.le, List.map_append, List.map_map]
    congr 1
    exact (List.map_id _).symm
  ahead j c n amount off hjr hop hle := by
    by_cases hj : j = r
    · exact hj ▸ h.le
    · exact h.ahead j c n amount off (by omega) hop hle
  behind j c n amount off hjr hop hlt := by
    have hdr := hd c
    exact h.behind j c n amount off (by omega) hop hlt

/-- What the router has brought an account, and it has not taken up, is in its mailbox. -/
theorem Taken.mem (h : S.Taken r d a q box) {y : AccountItem} (hqi : q ≤ i) (hir : i < r)
    (hy : S.direct a i = some y) : ∃ m ∈ box, m.item? = some y := by
  have hmem : y ∈ box.filterMap AccountMsg.item? := by
    rw [h.direct]
    exact List.mem_map.mpr ⟨(i, y), mem_pending.mpr ⟨hqi, hir, hy⟩, rfl⟩
  exact List.mem_filterMap.mp hmem

/-- A message of the router is about an operation not taken up yet. -/
theorem Taken.of_mem (h : S.Taken r d a q box) (hm : m ∈ box) {y : AccountItem}
    (hy : m.item? = some y) : ∃ i, q ≤ i ∧ i < r ∧ S.direct a i = some y := by
  have hmem : y ∈ box.filterMap AccountMsg.item? := List.mem_filterMap.mpr ⟨m, hm, hy⟩
  rw [h.direct] at hmem
  obtain ⟨⟨i, y'⟩, hi, rfl⟩ := List.mem_map.mp hmem
  exact ⟨i, mem_pending.mp hi⟩

/-- The first message of the router is about the first such operation. -/
theorem Taken.head (h : S.Taken r d a q (m :: box)) {y : AccountItem} (hy : m.item? = some y) :
    ∃ i, q ≤ i ∧ i < r ∧ S.direct a i = some y := h.of_mem List.mem_cons_self hy

/-! ## Queries -/

theorem starts_iff {m : AccountMsg} : m.starts n = true ↔ ∃ b, m.item? = some (.start n b) := by
  cases m <;> simp [AccountMsg.starts, AccountMsg.item?]

theorem direct_query (hop : S.Op i n o) (hq : Queries a billing o) :
    S.direct a i = some (.start n billing) := by
  rw [hop.direct]
  cases billing with
  | true =>
    obtain ⟨period, rfl⟩ := hq
    exact if_pos rfl
  | false =>
    obtain rfl : o = .accountQuery a := hq
    exact if_pos rfl

theorem item_query {c : CardId} (hop : S.Op i n o) (hq : Queries a billing o)
    (hk : ((S.ledger i).card (a, c)).isSome) : S.item (a, c) i = some (.query n billing) := by
  rw [hop.item]
  cases billing with
  | true =>
    obtain ⟨period, rfl⟩ := hq
    exact if_pos ⟨rfl, hk⟩
  | false =>
    obtain rfl : o = .accountQuery a := hq
    exact if_pos ⟨rfl, hk⟩

/-- Nobody has answered a query the router has not handled. -/
theorem Asked.unheard (h : S.Asked r p a q x box) (ht : S.Taken r d a q box)
    (hop : S.Op r n o) : x.collects n = false ∧ x.gathered n = [] ∧
      box.filterMap (AccountMsg.answer? n) = [] := by
  have hcollects : x.collects n = false := by
    rw [Bool.eq_false_iff]
    intro hc
    cases hx : x with
    | none =>
      rw [hx] at hc
      cases hc
    | some pq =>
      rw [hx] at hc
      obtain ⟨i, o', hiq, hop', -⟩ := h.slot pq hx
      have hn : pq.opId = n := by simpa [Slot.collects] using hc
      have hir := (hop'.unique (hn ▸ hop)).1
      have hle := ht.le
      omega
  refine ⟨hcollects, ?_, ?_⟩
  · cases hx : x with
    | none => rfl
    | some pq =>
      rw [hx] at hcollects
      have hn : pq.opId ≠ n := by simpa [Slot.collects] using hcollects
      exact if_neg hn
  · refine List.filterMap_eq_nil_iff.mpr fun m hm => ?_
    by_contra hne
    obtain ⟨y, hy⟩ := Option.ne_none_iff_exists'.mp hne
    cases m with
    | cardQueryReply n' c v =>
      simp only [AccountMsg.answer?, Option.ite_none_right_eq_some] at hy
      obtain ⟨rfl, -⟩ := hy
      obtain ⟨pre, post, hbox⟩ := List.append_of_mem hm
      obtain hc | ⟨m', hm', hstart⟩ := h.order pre n' c v post hbox
      · rw [hcollects] at hc
        cases hc
      · obtain ⟨b, hitem⟩ := starts_iff.mp hstart
        have hmem : m' ∈ box := by
          rw [hbox]
          exact List.mem_append_left _ hm'
        obtain ⟨i, -, hir, hdir⟩ := ht.of_mem hmem hitem
        obtain ⟨o', hop', -⟩ := op_of_start hdir
        have hri := (hop'.unique hop).1
        omega
    | _ => cases hy

/-- A reply behind the first message is expected, or that message starts its query. -/
theorem Asked.order_tail (h : S.Asked r p a q x (m :: box)) {pre post : List AccountMsg}
    {c : CardId} {v : Amount} (hbox : box = pre ++ .cardQueryReply n c v :: post) :
    x.collects n = true ∨ m.starts n = true ∨ ∃ m' ∈ pre, m'.starts n = true := by
  obtain hc | ⟨m', hm', hstart⟩ := h.order (m :: pre) n c v post (by rw [hbox]; rfl)
  · exact Or.inl hc
  · obtain rfl | hm' := List.mem_cons.mp hm'
    · exact Or.inr (Or.inl hstart)
    · exact Or.inr (Or.inr ⟨m', hm', hstart⟩)

theorem Asked.starts_tail (h : S.Asked r p a q x (m :: box)) (num : Nat)
    (hm : .startAccountQuery n num ∈ box ∨ .startAccountBill n num ∈ box) (hop : S.Op i n o) :
    S.Cards i a num :=
  h.starts n num (hm.imp (List.mem_cons_of_mem _) (List.mem_cons_of_mem _)) i o hop

/-- A query not taken up by now is a later one, when only `i` has been taken up since. -/
theorem query_lt {j : Nat} (hop : S.Op j n o) (hq : Queries a billing o) (hji : j < i + 1)
    (hne : j ≠ i) (hnone : ∀ j, q ≤ j → j < i → S.direct a j = none) : j < q := by
  by_contra hle
  have hdir := direct_query hop hq
  rw [hnone j (by omega) (by omega)] at hdir
  cases hdir

/-- The account takes up a charge or a limit change. -/
theorem Asked.take (h : S.Asked r p a q x (m :: box)) (hqi : q ≤ i)
    (hanswer : ∀ n, m.answer? n = none) (hstart : ∀ n, m.starts n = false)
    (hnone : ∀ j, q ≤ j → j < i → S.direct a j = none)
    (hquery : ∀ n billing, S.direct a i ≠ some (.start n billing))
    (hbill : ∀ pq, x = some pq → pq.billing = false) : S.Asked r p a (i + 1) x box where
  slot pq hpq := by
    obtain ⟨j, o, hjq, hop, hq, -, hpos, hcards⟩ := h.slot pq hpq
    refine ⟨j, o, by omega, hop, hq, fun hb => ?_, hpos, hcards⟩
    rw [hbill pq hpq] at hb
    cases hb
  starts n num hm i o hop := h.starts_tail num hm hop
  order pre n c v post hbox := by
    obtain hc | hm | hpre := h.order_tail hbox
    · exact Or.inl hc
    · rw [hstart] at hm
      cases hm
    · exact Or.inr hpre
  waiting j n o billing hjr hop hq hj := by
    have hold := h.waiting j n o billing hjr hop hq (hj.imp_left fun hj => by omega)
    rwa [List.filterMap_cons_none (hanswer n)] at hold
  finished j n o billing hjr hop hq hj hc := by
    have hne : j ≠ i := by
      rintro rfl
      exact hquery n billing (direct_query hop hq)
    have hold := h.finished j n o billing hjr hop hq (query_lt hop hq hj hne hnone) hc
    rwa [List.filterMap_cons_none (hanswer n)] at hold

/-- A message that starts a query answers none, and starts no other one. -/
theorem start_message {num : Nat} (box : List AccountMsg)
    (hm : m = .startAccountQuery n num ∨ m = .startAccountBill n num) :
    (∀ n', m.answer? n' = none) ∧
      (.startAccountQuery n num ∈ m :: box ∨ .startAccountBill n num ∈ m :: box) ∧
      ∀ n', m.starts n' = true → n' = n := by
  obtain rfl | rfl := hm
  · exact ⟨fun _ => rfl, Or.inl List.mem_cons_self, fun n' h => (beq_iff_eq.mp h).symm⟩
  · exact ⟨fun _ => rfl, Or.inr List.mem_cons_self, fun n' h => (beq_iff_eq.mp h).symm⟩

/-- The account starts a query over some cards: it collects it now. -/
theorem Asked.begin {num : Nat} (h : S.Asked r p a q none (m :: box)) (hqi : q ≤ i)
    (hm : m = .startAccountQuery n num ∨ m = .startAccountBill n num)
    (hop : S.Op i n o) (hq : Queries a billing o)
    (hnone : ∀ j, q ≤ j → j < i → S.direct a j = none) (hnum : num ≠ 0) :
    S.Asked r p a (i + 1) (some ⟨n, num, [], billing⟩) box := by
  obtain ⟨hanswer, hmem, hstart⟩ := start_message box hm
  have hgathered : ∀ n', Slot.gathered (some ⟨n, num, [], billing⟩) n' = [] := by
    intro n'
    show (if n = n' then ([] : List (CardId × Amount)) else []) = []
    exact ite_self _
  refine ⟨?_, fun n' num' hm' j o' hop' => h.starts_tail num' hm' hop', ?_, ?_, ?_⟩
  · rintro pq ⟨⟩
    refine ⟨i, o, Nat.lt_succ_self i, hop, hq, fun _ => rfl, Nat.pos_of_ne_zero hnum, ?_⟩
    have hcards := h.starts n num hmem i o hop
    rwa [List.length_nil, Nat.zero_add]
  · intro pre n' c v post hbox
    obtain hc | hm' | hpre := h.order_tail hbox
    · cases hc
    · obtain rfl := hstart n' hm'
      exact Or.inl (by simp [Slot.collects])
    · exact Or.inr hpre
  · intro j n' o' billing' hjr hop' hq' hj
    have hqj : q ≤ j := by
      obtain hj | hc := hj
      · omega
      · obtain rfl : n = n' := by simpa [Slot.collects] using hc
        obtain ⟨rfl, -⟩ := hop.unique hop'
        exact hqi
    have hold := h.waiting j n' o' billing' hjr hop' hq' (Or.inl hqj)
    rw [List.filterMap_cons_none (hanswer n')] at hold
    rw [hgathered]
    exact hold
  · intro j n' o' billing' hjr hop' hq' hj hc
    have hne : j ≠ i := by
      rintro rfl
      obtain ⟨rfl, -⟩ := hop.same hop'
      simp [Slot.collects] at hc
    have hold := h.finished j n' o' billing' hjr hop' hq' (query_lt hop' hq' hj hne hnone) rfl
    rwa [List.filterMap_cons_none (hanswer n')] at hold

/-- A query over no cards is answered by nobody. -/
theorem Asked.unanswered (h : S.Asked r p a q x box) (hir : i < r) (hop : S.Op i n o)
    (hq : Queries a billing o) (hwait : q ≤ i ∨ x.collects n = true) (hcards : S.Cards i a 0) :
    (∀ c, (S.ledger i).card (a, c) = none) ∧ x.gathered n = [] ∧
      box.filterMap (AccountMsg.answer? n) = [] := by
  obtain ⟨cards, -, hmem, hlen⟩ := hcards
  obtain rfl := List.length_eq_zero_iff.mp hlen
  have hnone : ∀ c, (S.ledger i).card (a, c) = none := by
    intro c
    have hc := (hmem c).not.mp List.not_mem_nil
    simpa using hc
  have hnil := (h.waiting i n o billing hir hop hq hwait).eq_nil fun c => by
    simp [answered, Ledger.cardSpent, hnone c]
  exact ⟨hnone, List.append_eq_nil_iff.mp hnil⟩

/-- The account answers a query over no cards itself. -/
theorem Asked.skip (h : S.Asked r p a q x (m :: box)) (hqi : q ≤ i) (hir : i < r)
    (hm : m = .startAccountQuery n 0 ∨ m = .startAccountBill n 0)
    (hop : S.Op i n o) (hq : Queries a billing o)
    (hnone : ∀ j, q ≤ j → j < i → S.direct a j = none)
    (hbill : ∀ pq, x = some pq → pq.billing = false) :
    S.Asked r p a (i + 1) x box ∧ ∀ c, (S.ledger i).card (a, c) = none := by
  obtain ⟨hanswer, hmem, hstart⟩ := start_message box hm
  obtain ⟨hcards, -, hnil⟩ :=
    h.unanswered hir hop hq (Or.inl hqi) (h.starts n 0 hmem i o hop)
  rw [List.filterMap_cons_none (hanswer n)] at hnil
  refine ⟨⟨?_, fun n' num' hm' j o' hop' => h.starts_tail num' hm' hop', ?_, ?_, ?_⟩, hcards⟩
  · intro pq hpq
    obtain ⟨j, o', hjq, hop', hq', -, hpos, hcards'⟩ := h.slot pq hpq
    refine ⟨j, o', by omega, hop', hq', fun hb => ?_, hpos, hcards'⟩
    rw [hbill pq hpq] at hb
    cases hb
  · intro pre n' c v post hbox
    obtain hc | hm' | hpre := h.order_tail hbox
    · exact Or.inl hc
    · -- nobody answers this query
      obtain rfl := hstart n' hm'
      rw [hbox] at hnil
      simp [AccountMsg.answer?] at hnil
    · exact Or.inr hpre
  · intro j n' o' billing' hjr hop' hq' hj
    have hold := h.waiting j n' o' billing' hjr hop' hq' (hj.imp_left fun hj => by omega)
    rwa [List.filterMap_cons_none (hanswer n')] at hold
  · intro j n' o' billing' hjr hop' hq' hj hc
    by_cases hji : j = i
    · subst hji
      obtain ⟨rfl, -⟩ := hop.same hop'
      refine ⟨hnil, fun c hsome => ?_⟩
      rw [hcards c] at hsome
      cases hsome
    · have hold := h.finished j n' o' billing' hjr hop' hq' (query_lt hop' hq' hj hji hnone) hc
      rwa [List.filterMap_cons_none (hanswer n')] at hold

/-- The account gathers an answer that is not the last one. -/
theorem Asked.gather {pq : AccountPendingQuery} {c : CardId} {v : Amount}
    (h : S.Asked r p a q (some pq) (.cardQueryReply pq.opId c v :: box))
    (hmore : pq.remaining - 1 ≠ 0) :
    S.Asked r p a q (some { pq with
      perCardSpent := pq.perCardSpent ++ [(c, v)], remaining := pq.remaining - 1 }) box := by
  refine ⟨?_, fun n num hm j o hop => h.starts_tail num hm hop, ?_, ?_, ?_⟩
  · rintro pq' ⟨⟩
    obtain ⟨i, o, hiq, hop, hq, hb, hpos, hcards⟩ := h.slot pq rfl
    refine ⟨i, o, hiq, hop, hq, hb, Nat.pos_of_ne_zero hmore, ?_⟩
    have hlen : (pq.perCardSpent ++ [(c, v)]).length + (pq.remaining - 1) =
        pq.perCardSpent.length + pq.remaining := by
      rw [List.length_append, List.length_singleton]
      omega
    rwa [hlen]
  · intro pre n c' v' post hbox
    obtain hc | hm | hpre := h.order_tail hbox
    · exact Or.inl hc
    · cases hm
    · exact Or.inr hpre
  · intro j n o billing hjr hop hq hj
    have hold := h.waiting j n o billing hjr hop hq hj
    by_cases hn : pq.opId = n
    · subst hn
      have hx : AccountMsg.answer? pq.opId (.cardQueryReply pq.opId c v) = some (c, v) :=
        if_pos rfl
      rw [List.filterMap_cons_some hx] at hold
      simpa [Slot.gathered] using hold
    · have hx : AccountMsg.answer? n (.cardQueryReply pq.opId c v) = none := if_neg hn
      rw [List.filterMap_cons_none hx] at hold
      simpa [Slot.gathered, hn] using hold
  · intro j n o billing hjr hop hq hj hc
    have hold := h.finished j n o billing hjr hop hq hj hc
    have hn : pq.opId ≠ n := by simpa [Slot.collects] using hc
    have hx : AccountMsg.answer? n (.cardQueryReply pq.opId c v) = none := if_neg hn
    rwa [List.filterMap_cons_none hx] at hold

/-- **The account gathers the last answer**: it has one of each card. -/
theorem Asked.complete {pq : AccountPendingQuery} {c : CardId} {v : Amount}
    (h : S.Asked r p a q (some pq) (.cardQueryReply pq.opId c v :: box)) (hqr : q ≤ r)
    (hlast : pq.remaining - 1 = 0) :
    S.Asked r p a q none box ∧ ∃ i o, i < q ∧ S.Op i pq.opId o ∧ Queries a pq.billing o ∧
      (pq.billing = true → q = i + 1) ∧
      Lists Prod.fst ((S.ledger i).cardSpent a) (pq.perCardSpent ++ [(c, v)]) := by
  obtain ⟨i, o, hiq, hop, hq, hb, hpos, cards, hnodup, hmem, hlen⟩ := h.slot pq rfl
  have hx : AccountMsg.answer? pq.opId (.cardQueryReply pq.opId c v) = some (c, v) := if_pos rfl
  have hold := h.waiting i pq.opId o pq.billing (by omega) hop hq
    (Or.inr (by simp [Slot.collects]))
  rw [List.filterMap_cons_some hx] at hold
  have hgathered : Slot.gathered (some pq) pq.opId = pq.perCardSpent := if_pos rfl
  rw [hgathered] at hold
  -- there are no more answers than cards
  generalize hrest : box.filterMap (AccountMsg.answer? pq.opId) = more at hold
  have hsub : ((pq.perCardSpent ++ (c, v) :: more).map Prod.fst) ⊆ cards := by
    intro c' hc'
    obtain ⟨y, hy, rfl⟩ := List.mem_map.mp hc'
    have hsome := (hold.mem y).mp hy
    unfold answered at hsome
    split at hsome
    · rw [hmem]
      unfold Ledger.cardSpent at hsome
      obtain ⟨e, he, -⟩ := Option.map_eq_some_iff.mp hsome
      rw [he]
      rfl
    · cases hsome
  have hsubperm := List.subperm_of_subset hold.nodup hsub
  have hle := hsubperm.length_le
  rw [List.length_map, List.length_append, List.length_cons] at hle
  obtain rfl : more = [] := List.length_eq_zero_iff.mp (by omega)
  have hperm : ((pq.perCardSpent ++ [(c, v)]).map Prod.fst).Perm cards :=
    hsubperm.perm_of_length_le (by
      rw [List.length_map, List.length_append, List.length_singleton]
      omega)
  -- so every card has come past the query
  have hpassed : ∀ c', ((S.ledger i).card (a, c')).isSome → i < p (a, c') := by
    intro c' hc'
    have hin := hperm.mem_iff.mpr ((hmem c').mpr hc')
    obtain ⟨y, hy, rfl⟩ := List.mem_map.mp hin
    have hsome := (hold.mem y).mp hy
    unfold answered at hsome
    by_contra hno
    rw [if_neg hno] at hsome
    cases hsome
  have hall : S.answered p i a = (S.ledger i).cardSpent a := by
    funext c'
    unfold answered
    split
    · rfl
    · rename_i hno
      have hnone : (S.ledger i).card (a, c') = none := by
        by_contra hne
        exact hno (hpassed c' (Option.isSome_iff_ne_none.mpr hne))
      simp [Ledger.cardSpent, hnone]
  rw [hall] at hold
  refine ⟨⟨?_, fun n num hm j o hop => h.starts_tail num hm hop, ?_, ?_, ?_⟩, i, o, hiq, hop, hq,
    hb, hold⟩
  · intro pq' hpq'
    cases hpq'
  · intro pre n c' v' post hbox
    obtain hc | hm | hpre := h.order_tail hbox
    · obtain rfl : pq.opId = n := by simpa [Slot.collects] using hc
      rw [hbox] at hrest
      simp [AccountMsg.answer?] at hrest
    · cases hm
    · exact Or.inr hpre
  · intro j n o' billing hjr hop' hq' hj
    obtain hqj | hc := hj
    · have hn : pq.opId ≠ n := by
        rintro rfl
        have hij := (hop.unique hop').1
        omega
      have hx' : AccountMsg.answer? n (.cardQueryReply pq.opId c v) = none := if_neg hn
      have hold' := h.waiting j n o' billing hjr hop' hq' (Or.inl hqj)
      rw [List.filterMap_cons_none hx'] at hold'
      have hnil : Slot.gathered (some pq) n = [] := if_neg hn
      rw [hnil] at hold'
      exact hold'
    · cases hc
  · intro j n o' billing hjr hop' hq' hjq hc
    by_cases hn : pq.opId = n
    · subst hn
      obtain ⟨rfl, -⟩ := hop.unique hop'
      exact ⟨hrest, hpassed⟩
    · have hx' : AccountMsg.answer? n (.cardQueryReply pq.opId c v) = none := if_neg hn
      have hold' := h.finished j n o' billing hjr hop' hq' hjq (by simp [Slot.collects, hn])
      rwa [List.filterMap_cons_none hx'] at hold'

/-! ## What the cards and the router send -/

theorem answered_congr (h : ∀ c, ((S.ledger i).card (a, c)).isSome →
    (i < p' (a, c) ↔ i < p (a, c))) : S.answered p' i a = S.answered p i a := by
  funext c
  unfold answered
  by_cases hc : ((S.ledger i).card (a, c)).isSome
  · simp only [h c hc]
  · have hnone : (S.ledger i).cardSpent a c = none := by
      simp [Ledger.cardSpent, Option.not_isSome_iff_eq_none.mp hc]
    rw [hnone, ite_self, ite_self]

/-- The cards have gone on, but past no query; some of them ask for a charge. -/
theorem Asked.advance (h : S.Asked r p a q x box) (hnew : ∀ m ∈ new, m.isApply = true)
    (hp : ∀ j n o billing c, j < r → S.Op j n o → Queries a billing o →
      ((S.ledger j).card (a, c)).isSome → (j < p' (a, c) ↔ j < p (a, c))) :
    S.Asked r p' a q x (box ++ new) := by
  have hnil : ∀ n, new.filterMap (AccountMsg.answer? n) = [] := by
    intro n
    refine List.filterMap_eq_nil_iff.mpr fun m hm => ?_
    have happly := hnew m hm
    cases m with
    | applyChargeFromCard n' amount c off k => rfl
    | _ => cases happly
  refine ⟨h.slot, ?_, ?_, ?_, ?_⟩
  · intro n num hm
    refine h.starts n num (hm.imp ?_ ?_)
    · intro hm
      exact (List.mem_append.mp hm).resolve_right fun hm => by cases hnew _ hm
    · intro hm
      exact (List.mem_append.mp hm).resolve_right fun hm => by cases hnew _ hm
  · intro pre n c v post hbox
    obtain ⟨t, ht⟩ := append_split hbox fun hm => by cases hnew _ hm
    exact h.order pre n c v t ht
  · intro j n o billing hjr hop hq hj
    rw [List.filterMap_append, hnil, List.append_nil,
      answered_congr fun c hc => hp j n o billing c hjr hop hq hc]
    exact h.waiting j n o billing hjr hop hq hj
  · intro j n o billing hjr hop hq hj hc
    rw [List.filterMap_append, hnil, List.append_nil]
    obtain ⟨hanswers, hpast⟩ := h.finished j n o billing hjr hop hq hj hc
    exact ⟨hanswers, fun c hsome => (hp j n o billing c hjr hop hq hsome).mpr (hpast c hsome)⟩

/-- The router has handled one more operation. -/
theorem Asked.extend (h : S.Asked r p a q x box) (ht : S.Taken r d a q box)
    (hp : ∀ c, p (a, c) ≤ r) (hanswer : ∀ m ∈ new, ∀ n, m.answer? n = none)
    (hstarts : ∀ n num, .startAccountQuery n num ∈ new ∨ .startAccountBill n num ∈ new →
      ∀ i o, S.Op i n o → S.Cards i a num) : S.Asked (r + 1) p a q x (box ++ new) := by
  have hnil : ∀ n, new.filterMap (AccountMsg.answer? n) = [] := fun n =>
    List.filterMap_eq_nil_iff.mpr fun m hm => hanswer m hm n
  have hreply : ∀ n c v, .cardQueryReply n c v ∉ new := by
    intro n c v hm
    have hsome : AccountMsg.answer? n (.cardQueryReply n c v) = some (c, v) := if_pos rfl
    rw [hanswer _ hm] at hsome
    cases hsome
  refine ⟨h.slot, ?_, ?_, ?_, ?_⟩
  · intro n num hm
    by_cases hold : .startAccountQuery n num ∈ box ∨ .startAccountBill n num ∈ box
    · exact h.starts n num hold
    · refine hstarts n num (hm.imp ?_ ?_)
      · intro hm
        exact (List.mem_append.mp hm).resolve_left fun hm => hold (Or.inl hm)
      · intro hm
        exact (List.mem_append.mp hm).resolve_left fun hm => hold (Or.inr hm)
  · intro pre n c v post hbox
    obtain ⟨t, ht'⟩ := append_split hbox (hreply n c v)
    exact h.order pre n c v t ht'
  · intro j n o billing hjr hop hq hj
    rw [List.filterMap_append, hnil, List.append_nil]
    by_cases hj' : j = r
    · subst hj'
      obtain ⟨-, hgathered, hanswers⟩ := h.unheard ht hop
      rw [hgathered, hanswers]
      refine .nil fun c => if_neg ?_
      exact Nat.not_lt.mpr (hp c)
    · exact h.waiting j n o billing (by omega) hop hq hj
  · intro j n o billing hjr hop hq hjq hc
    rw [List.filterMap_append, hnil, List.append_nil]
    have hle := ht.le
    exact h.finished j n o billing (by omega) hop hq hjq hc

/-- A card at an unfinished query: the account waits for its answer. -/
theorem Asked.open {c : CardId} (h : S.Asked r p a q x box) (hir : i < r) (hop : S.Op i n o)
    (hq : Queries a billing o) (hc : ((S.ledger i).card (a, c)).isSome) (hpi : p (a, c) ≤ i) :
    q ≤ i ∨ x.collects n = true := by
  by_contra hno
  simp only [not_or, Bool.not_eq_true, Nat.not_le] at hno
  have hpast := (h.finished i n o billing hir hop hq hno.1 hno.2).2 c hc
  omega

/-- **A card answers a query**, from its place in the list. -/
theorem Asked.answer {c : CardId} {reset : Bool} (h : S.Asked r p a q x box)
    (ht : S.Taken r d a q box) (hpi : p (a, c) ≤ i) (hir : i < r)
    (hitem : S.item (a, c) i = some (.query n reset))
    (hnone : ∀ j, p (a, c) ≤ j → j < i → S.item (a, c) j = none) :
    S.Asked r (Function.update p (a, c) (i + 1)) a q x
      (box ++ [.cardQueryReply n c ((S.ledger i).cardEntry (a, c)).consumed]) := by
  obtain ⟨o, hop, hq, hc⟩ := op_of_query hitem
  have hopen := h.open hir hop hq hc hpi
  -- the other queries are not passed
  have hother : ∀ j n' o' billing' c', j ≠ i → S.Op j n' o' → Queries a billing' o' →
      ((S.ledger j).card (a, c')).isSome →
      (j < Function.update p (a, c) (i + 1) (a, c') ↔ j < p (a, c')) := by
    intro j n' o' billing' c' hji hop' hq' hc'
    by_cases hcc : c' = c
    · subst hcc
      rw [Function.update_self]
      refine ⟨fun hj => ?_, fun hj => by omega⟩
      by_contra hle
      have hsome := item_query hop' hq' hc'
      rw [hnone j (by omega) (by omega)] at hsome
      cases hsome
    · rw [Function.update_of_ne fun e => hcc (congrArg Prod.snd e)]
  have hanswer : ∀ n', n' ≠ n → [AccountMsg.cardQueryReply n c
      ((S.ledger i).cardEntry (a, c)).consumed].filterMap (AccountMsg.answer? n') = [] := by
    intro n' hn
    exact List.filterMap_cons_none (if_neg (Ne.symm hn))
  have hne : ∀ j n' o', S.Op j n' o' → j ≠ i → n' ≠ n := by
    rintro j n' o' hop' hji rfl
    exact hji (hop'.unique hop).1
  refine ⟨h.slot, ?_, ?_, ?_, ?_⟩
  · intro n' num hm
    refine h.starts n' num (hm.imp ?_ ?_)
    · intro hm
      exact (List.mem_append.mp hm).resolve_right (by simp)
    · intro hm
      exact (List.mem_append.mp hm).resolve_right (by simp)
  · intro pre n' c' v post hbox
    obtain ⟨t, ht'⟩ | ⟨rfl, hlast⟩ := concat_split hbox
    · exact h.order pre n' c' v t ht'
    · obtain ⟨rfl, -⟩ := AccountMsg.cardQueryReply.inj hlast
      obtain hqi | hcollects := hopen
      · obtain ⟨m, hm, hstart⟩ := ht.mem hqi hir (direct_query hop hq)
        exact Or.inr ⟨m, hm, starts_iff.mpr ⟨_, hstart⟩⟩
      · exact Or.inl hcollects
  · intro j n' o' billing hjr hop' hq' hj
    rw [List.filterMap_append]
    by_cases hji : j = i
    · subst hji
      obtain ⟨rfl, rfl⟩ := hop'.same hop
      have hx' : [AccountMsg.cardQueryReply n' c ((S.ledger j).cardEntry (a, c)).consumed].filterMap
          (AccountMsg.answer? n') = [(c, ((S.ledger j).cardEntry (a, c)).consumed)] :=
        List.filterMap_cons_some (if_pos rfl)
      rw [hx', ← List.append_assoc]
      refine (h.waiting j n' o' billing hjr hop' hq' hj).snoc ?_ fun c' => ?_
      · exact if_neg (Nat.not_lt.mpr hpi)
      · unfold answered
        by_cases hcc : c' = c
        · subst hcc
          rw [if_pos rfl, Function.update_self, if_pos (Nat.lt_succ_self j)]
          obtain ⟨e, he⟩ := Option.isSome_iff_exists.mp hc
          simp [Ledger.cardSpent, Ledger.cardEntry, he]
        · rw [if_neg hcc, Function.update_of_ne fun e => hcc (congrArg Prod.snd e)]
    · rw [hanswer n' (hne j n' o' hop' hji), List.append_nil,
        answered_congr fun c' hc' => hother j n' o' billing c' hji hop' hq' hc']
      exact h.waiting j n' o' billing hjr hop' hq' hj
  · intro j n' o' billing hjr hop' hq' hjq hcollects
    have hji : j ≠ i := by
      rintro rfl
      obtain ⟨rfl, rfl⟩ := hop'.same hop
      obtain hqj | hc' := hopen
      · omega
      · rw [hcollects] at hc'
        cases hc'
    obtain ⟨hanswers, hpast⟩ := h.finished j n' o' billing hjr hop' hq' hjq hcollects
    rw [List.filterMap_append, hanswer n' (hne j n' o' hop' hji), hanswers]
    exact ⟨rfl, fun c' hc' => (hother j n' o' billing c' hji hop' hq' hc').mpr (hpast c' hc')⟩

/-! ## One message -/

/-- The account has reported the operations `js`. -/
structure Moved (S : Script) (r : Nat) (a : AccountId) (q : Nat) (x : Slot) (q' : Nat) (x' : Slot)
    (js : List Nat) : Prop where
  nodup : js.Nodup
  new : ∀ i ∈ js, i < r ∧ (S.direct a i).isSome ∧ ∀ n o, S.Op i n o → ¬ Closed q x i n
  closed : ∀ j n o, S.Op j n o → (S.direct a j).isSome →
    (Closed q' x' j n ↔ Closed q x j n ∨ j ∈ js)

/-- The pending query is one taken up before. -/
theorem Asked.collects_lt (h : S.Asked r p a q x box) (hop : S.Op i n o)
    (hc : x.collects n = true) : i < q := by
  cases hx : x with
  | none =>
    rw [hx] at hc
    cases hc
  | some pq =>
    obtain ⟨j, o', hjq, hop', -⟩ := h.slot pq hx
    have hn : pq.opId = n := by simpa [Slot.collects, hx] using hc
    subst hn
    obtain ⟨rfl, -⟩ := hop.unique hop'
    exact hjq

theorem Asked.not_collects (h : S.Asked r p a q x box) (hop : S.Op i n o) (hqi : q ≤ i) :
    x.collects n = false := by
  rw [Bool.eq_false_iff]
  intro hc
  exact absurd (h.collects_lt hop hc) (Nat.not_lt.mpr hqi)

/-- Only operation `i` has been taken up since. -/
theorem lt_take_iff {j : Nat} (hqi : q ≤ i) (hnone : ∀ j, q ≤ j → j < i → S.direct a j = none)
    (hsome : (S.direct a j).isSome) (hji : j ≠ i) : j < i + 1 ↔ j < q := by
  refine ⟨fun hj => ?_, fun hj => by omega⟩
  by_contra hle
  rw [hnone j (by omega) (by omega)] at hsome
  cases hsome

/-- Operation `i` brings nothing that the account reports. -/
theorem Moved.silent (hqi : q ≤ i) (hnone : ∀ j, q ≤ j → j < i → S.direct a j = none)
    (hi : S.direct a i = none) : S.Moved r a q x (i + 1) x [] where
  nodup := List.nodup_nil
  new i hi := absurd hi List.not_mem_nil
  closed j n o hop hsome := by
    have hji : j ≠ i := by
      rintro rfl
      rw [hi] at hsome
      cases hsome
    simp [Closed, lt_take_iff hqi hnone hsome hji]

/-- The account takes up operation `i` and reports it. -/
theorem Moved.report (hasked : S.Asked r p a q x box) (hop : S.Op i n o) (hqi : q ≤ i)
    (hir : i < r) (hnone : ∀ j, q ≤ j → j < i → S.direct a j = none)
    (hi : (S.direct a i).isSome) : S.Moved r a q x (i + 1) x [i] where
  nodup := List.nodup_singleton i
  new j hj := by
    obtain rfl := List.mem_singleton.mp hj
    exact ⟨hir, hi, fun _ _ _ hc => absurd hc.1 (Nat.not_lt.mpr hqi)⟩
  closed j n' o' hop' hsome := by
    by_cases hji : j = i
    · subst hji
      obtain ⟨rfl, rfl⟩ := hop.same hop'
      exact iff_of_true ⟨Nat.lt_succ_self j, hasked.not_collects hop hqi⟩
        (Or.inr (List.mem_singleton_self j))
    · simp [Closed, lt_take_iff hqi hnone hsome hji, hji]

/-- The account takes up the query `i` and waits. -/
theorem Moved.start {num : Nat} (hop : S.Op i n o) (hqi : q ≤ i)
    (hnone : ∀ j, q ≤ j → j < i → S.direct a j = none) :
    S.Moved r a q none (i + 1) (some ⟨n, num, [], billing⟩) [] where
  nodup := List.nodup_nil
  new i hi := absurd hi List.not_mem_nil
  closed j n' o' hop' hsome := by
    by_cases hji : j = i
    · subst hji
      obtain ⟨rfl, rfl⟩ := hop.same hop'
      have hlt : ¬ j < q := Nat.not_lt.mpr hqi
      simp [Closed, Slot.collects, hlt]
    · have hn : n ≠ n' := by
        rintro rfl
        exact hji (hop'.unique hop).1
      simp [Closed, Slot.collects, lt_take_iff hqi hnone hsome hji, hn]

/-- The account ends the query `i`. -/
theorem Moved.complete {pq : AccountPendingQuery} (hop : S.Op i pq.opId o) (hiq : i < q)
    (hqr : q ≤ r) (hq : Queries a billing o) : S.Moved r a q (some pq) q none [i] where
  nodup := List.nodup_singleton i
  new j hj := by
    obtain rfl := List.mem_singleton.mp hj
    refine ⟨by omega, by rw [direct_query hop hq]; rfl, fun n o' hop' hc => ?_⟩
    obtain ⟨rfl, -⟩ := hop.same hop'
    simp [Closed, Slot.collects] at hc
  closed j n o' hop' _ := by
    by_cases hji : j = i
    · subst hji
      exact iff_of_true ⟨hiq, rfl⟩ (Or.inr (List.mem_singleton_self j))
    · have hn : pq.opId ≠ n := by
        rintro rfl
        exact hji (hop'.unique hop).1
      simp [Closed, Slot.collects, hn, hji]

theorem closing_eq_zero (h : ∀ pq, x = some pq → pq.billing = false) : x.closing = 0 := by
  cases x with
  | none => rfl
  | some pq => simp [Slot.closing, h pq rfl]

/-- The account is in the state of the list when it takes up operation `i`. -/
theorem AccountAt.entry_at {y : AccountActor} (h : S.AccountAt r p d a q y box) (hqi : q ≤ i)
    (hir : i < r) (hnone : ∀ j, q ≤ j → j < i → S.direct a j = none)
    (hdone : ∀ j c n amount off, j < i → S.Op j n (.charge a c amount off) → j < d (a, c))
    (hbill : ∀ pq, y.pendingQuery = some pq → pq.billing = false) :
    y.entry = (S.ledger i).accountEntry a := by
  rw [h.taken.entry_const hqi hir.le hnone hdone, h.entry, closing_eq_zero hbill, Nat.sub_zero]

/-- **A charge arrives at its account**, which decides as in the list. -/
theorem AccountAt.charge {y : AccountActor} {c : CardId} {amount : Amount} {off : Bool}
    (h : S.AccountAt r p d a q y (.applyChargeFromCard n amount c off (a, c) :: box))
    (hop : S.Op i n (.charge a c amount off)) (hir : i < r) (hdi : d (a, c) = i)
    (hpass : off = true ∨ ((S.ledger i).cardEntry (a, c)).Admits amount)
    (hnone : ∀ j, q ≤ j → j < i → S.direct a j = none)
    (hdone : ∀ j c n amount off, j < i → S.Op j n (.charge a c amount off) → j < d (a, c))
    (hbill : ∀ pq, y.pendingQuery = some pq → pq.billing = false) :
    ∃ err, err = (S.ledger i).verdict (.charge a c amount off) ∧
      (y.handle (.applyChargeFromCard n amount c off (a, c))).2 =
        [.card (a, c) (.chargeReply ⟨n, err.isNone, err⟩)] ∧
      S.AccountAt r p (Function.update d (a, c) (i + 1)) a (i + 1)
        (y.handle (.applyChargeFromCard n amount c off (a, c))).1 box ∧
      S.Moved r a q y.pendingQuery (i + 1)
        (y.handle (.applyChargeFromCard n amount c off (a, c))).1.pendingQuery [] := by
  have hqi : q ≤ i := h.taken.ahead i c n amount off hir hop (Nat.le_of_eq hdi)
  have hentry := h.entry_at hqi hir hnone hdone hbill
  have hdirect : S.direct a i = none := hop.direct a
  have hd : ∀ c', d (a, c') ≤ Function.update d (a, c) (i + 1) (a, c') := by
    intro c'
    by_cases hc : c' = c
    · rw [hc, Function.update_self, hdi]
      exact Nat.le_succ i
    · rw [Function.update_of_ne fun e => hc (congrArg Prod.snd e)]
  have htaken : S.Taken r (Function.update d (a, c) (i + 1)) a (i + 1) box := by
    refine h.taken.take hqi hir hdirect.symm hnone ?_ ?_
    · intro j c' n' amount' off' hji hop'
      by_cases hj : j = i
      · subst hj
        obtain ⟨-, heq⟩ := hop'.same hop
        obtain ⟨-, rfl, -⟩ := Operation.charge.inj heq
        rw [Function.update_self]
        exact Nat.lt_succ_self j
      · exact (hdone j c' n' amount' off' (by omega) hop').trans_le (hd c')
    · intro j c' n' amount' off' hop' hlt
      by_cases hc : c' = c
      · rw [hc, Function.update_self] at hlt
        exact Or.inr (by omega)
      · rw [Function.update_of_ne fun e => hc (congrArg Prod.snd e)] at hlt
        exact Or.inl hlt
  have hasked : S.Asked r p a (i + 1) y.pendingQuery box :=
    h.asked.take hqi (fun _ => rfl) (fun _ => rfl) hnone (by simp [hdirect]) hbill
  have hmoved : S.Moved r a q y.pendingQuery (i + 1) y.pendingQuery [] :=
    .silent hqi hnone hdirect
  obtain ⟨hadm, heq⟩ | ⟨rfl, hno, heq⟩ := y.apply_charge n amount off (a, c)
  · have hv : (S.ledger i).verdict (.charge a c amount off) = none := by
      rw [Ledger.verdict_charge_ok, ← hentry]
      exact hpass.elim Or.inl fun hp => hadm.imp_right fun ha => ⟨hp, ha⟩
    have hhandle : y.handle (.applyChargeFromCard n amount c off (a, c)) = _ := heq
    rw [hhandle]
    refine ⟨none, hv.symm, rfl, ⟨h.named, ?_, htaken, hasked⟩, hmoved⟩
    rw [closing_eq_zero hbill, Nat.sub_zero, hop.ledger, Ledger.serve_charge_account,
      if_pos hv, ← hentry]
    rfl
  · have hpass' := hpass.resolve_left Bool.false_ne_true
    have hv : (S.ledger i).verdict (.charge a c amount false) =
        some (.chargeLimit .accountLimitExceeded) := by
      rw [hentry] at hno
      simp [Ledger.verdict, hpass', hno]
    have hhandle : y.handle (.applyChargeFromCard n amount c false (a, c)) = _ := heq
    rw [hhandle]
    refine ⟨_, hv.symm, rfl, ⟨h.named, ?_, htaken, hasked⟩, hmoved⟩
    rw [closing_eq_zero hbill, Nat.sub_zero, hop.ledger, Ledger.serve_charge_account,
      if_neg (by simp [hv]), ← hentry]

/-- **A limit change arrives at its account.** -/
theorem AccountAt.limit {y : AccountActor} {newLimit : Option Amount}
    (h : S.AccountAt r p d a q y (.applyAccountLimit n newLimit :: box))
    (hop : S.Op i n (.limitAccount a newLimit)) (hqi : q ≤ i) (hir : i < r)
    (hnone : ∀ j, q ≤ j → j < i → S.direct a j = none)
    (hdone : ∀ j c n amount off, j < i → S.Op j n (.charge a c amount off) → j < d (a, c))
    (hbill : ∀ pq, y.pendingQuery = some pq → pq.billing = false) :
    ∃ js ms, (y.handle (.applyAccountLimit n newLimit)).2 = ms.map Send.router ∧
      List.Forall₂ S.Report js ms ∧
      S.AccountAt r p d a (i + 1) (y.handle (.applyAccountLimit n newLimit)).1 box ∧
      S.Moved r a q y.pendingQuery (i + 1)
        (y.handle (.applyAccountLimit n newLimit)).1.pendingQuery js := by
  have hentry := h.entry_at hqi hir hnone hdone hbill
  have hdirect : S.direct a i = some (.limit n newLimit) := (hop.direct a).trans (if_pos rfl)
  have hnocharge : ∀ c n' amount off, ¬ S.Op i n' (.charge a c amount off) := by
    intro c n' amount off hop'
    cases (hop.same hop').2
  have htaken : S.Taken r d a (i + 1) box := by
    refine h.taken.take hqi hir hdirect.symm hnone ?_ fun _ _ _ _ _ _ hlt => Or.inl hlt
    intro j c n' amount off hji hop'
    by_cases hj : j = i
    · exact absurd (hj ▸ hop') (hnocharge c n' amount off)
    · exact hdone j c n' amount off (by omega) hop'
  have hasked : S.Asked r p a (i + 1) y.pendingQuery box :=
    h.asked.take hqi (fun _ => rfl) (fun _ => rfl) hnone (by simp [hdirect]) hbill
  have hmoved : S.Moved r a q y.pendingQuery (i + 1) y.pendingQuery [i] :=
    .report h.asked hop hqi hir hnone (by rw [hdirect]; rfl)
  have hreport := Report.task hop True.intro
  obtain ⟨hb, heq⟩ | ⟨hb, heq⟩ := y.apply_limit n newLimit
  · rw [hentry] at hb
    have hv : (S.ledger i).verdict (.limitAccount a newLimit) = none := if_pos hb
    rw [hv] at hreport
    have hhandle : y.handle (.applyAccountLimit n newLimit) = _ := heq
    rw [hhandle]
    refine ⟨[i], [_], rfl, .cons hreport .nil, ⟨h.named, ?_, htaken, hasked⟩, hmoved⟩
    rw [closing_eq_zero hbill, Nat.sub_zero, hop.ledger, Ledger.serve_limitAccount_account,
      if_pos hv, ← hentry]
    rfl
  · rw [hentry] at hb
    have hv : (S.ledger i).verdict (.limitAccount a newLimit) =
        some (.limitUpdate .belowCurrentUsage) := if_neg hb
    rw [hv] at hreport
    have hhandle : y.handle (.applyAccountLimit n newLimit) = _ := heq
    rw [hhandle]
    refine ⟨[i], [_], rfl, .cons hreport .nil, ⟨h.named, ?_, htaken, hasked⟩, hmoved⟩
    rw [closing_eq_zero hbill, Nat.sub_zero, hop.ledger, Ledger.serve_limitAccount_account,
      if_neg (by simp [hv]), ← hentry]

/-- A bill settles its account, a query leaves it alone. -/
theorem query_account (hop : S.Op i n o) (hq : Queries a billing o) :
    (S.ledger (i + 1)).accountEntry a =
      if billing then ((S.ledger i).accountEntry a).settle else (S.ledger i).accountEntry a := by
  rw [hop.ledger]
  cases billing with
  | true =>
    obtain ⟨period, rfl⟩ := hq
    exact (Ledger.settle_accountEntry a a).trans (if_pos rfl)
  | false =>
    obtain rfl : o = .accountQuery a := hq
    exact Ledger.openAccount_accountEntry a a

/-- **A query or a bill arrives at its account**: without cards it is answered at once. -/
theorem AccountAt.start {y : AccountActor} {num : Nat} (h : S.AccountAt r p d a q y (m :: box))
    (hm : m = .startAccountQuery n num ∧ billing = false ∨
      m = .startAccountBill n num ∧ billing = true)
    (hop : S.Op i n o) (hq : Queries a billing o) (hqi : q ≤ i) (hir : i < r)
    (hnone : ∀ j, q ≤ j → j < i → S.direct a j = none)
    (hdone : ∀ j c n amount off, j < i → S.Op j n (.charge a c amount off) → j < d (a, c))
    (hbill : ∀ pq, y.pendingQuery = some pq → pq.billing = false)
    (hslot : m.startsQuery = true → y.pendingQuery = none) :
    ∃ js ms, (y.handle m).2 = ms.map Send.router ∧ List.Forall₂ S.Report js ms ∧
      S.AccountAt r p d a (i + 1) (y.handle m).1 box ∧
      S.Moved r a q y.pendingQuery (i + 1) (y.handle m).1.pendingQuery js := by
  have hentry := h.entry_at hqi hir hnone hdone hbill
  have hdirect := direct_query hop hq
  have hstart : m = .startAccountQuery n num ∨ m = .startAccountBill n num :=
    hm.imp And.left And.left
  have hitem : m.item? = S.direct a i := by
    rw [hdirect]
    obtain ⟨rfl, rfl⟩ | ⟨rfl, rfl⟩ := hm <;> rfl
  have htaken : S.Taken r d a (i + 1) box := by
    refine h.taken.take hqi hir hitem hnone ?_ fun _ _ _ _ _ _ hlt => Or.inl hlt
    intro j c n' amount off hji hop'
    by_cases hj : j = i
    · subst hj
      rw [hop'.direct] at hdirect
      cases hdirect
    · exact hdone j c n' amount off (by omega) hop'
  by_cases hnum : num = 0
  · subst hnum
    obtain ⟨hasked, hcards⟩ := h.asked.skip hqi hir hstart hop hq hnone hbill
    have hl : Lists Prod.fst ((S.ledger i).cardSpent a) [] :=
      .nil fun c => by simp [Ledger.cardSpent, hcards c]
    have hreport := Report.query hop hq hl
    have htotal : (S.ledger i).total a [] = y.accountConsumed := by
      show ((S.ledger i).accountEntry a).consumed = y.accountConsumed
      rw [← hentry]
      rfl
    rw [htotal] at hreport
    have hhandle : y.handle m =
        ({ y with accountConsumed := if billing then 0 else y.accountConsumed },
          [.router (.accountQueryCompleted n a y.accountConsumed [])]) := by
      rw [← h.named]
      obtain ⟨rfl, rfl⟩ | ⟨rfl, rfl⟩ := hm <;> rfl
    rw [hhandle]
    refine ⟨[i], [_], rfl, .cons hreport .nil, ⟨h.named, ?_, htaken, hasked⟩,
      .report h.asked hop hqi hir hnone (by rw [hdirect]; rfl)⟩
    rw [closing_eq_zero hbill, Nat.sub_zero, query_account hop hq, ← hentry]
    cases billing <;> rfl
  · have hquery : m.startsQuery = true := by
      obtain rfl | rfl := hstart <;> exact decide_eq_true (Nat.pos_of_ne_zero hnum)
    have hfree := hslot hquery
    have hhandle : y.handle m = ({ y with pendingQuery := some ⟨n, num, [], billing⟩ }, []) := by
      obtain ⟨rfl, rfl⟩ | ⟨rfl, rfl⟩ := hm <;> exact if_neg hnum
    have hasked := h.asked
    rw [hfree] at hasked
    rw [hhandle, hfree]
    refine ⟨[], [], rfl, .nil, ⟨h.named, ?_, htaken,
      hasked.begin hqi hstart hop hq hnone hnum⟩, .start hop hqi hnone⟩
    cases billing with
    | true => exact hentry
    | false =>
      show y.entry = (S.ledger (i + 1)).accountEntry a
      rw [query_account hop hq]
      exact hentry

/-- **An answer arrives at its account**, which reports the query after the last one. -/
theorem AccountAt.reply {y : AccountActor} {c : CardId} {v : Amount}
    (h : S.AccountAt r p d a q y (.cardQueryReply n c v :: box)) :
    ∃ js ms, (y.handle (.cardQueryReply n c v)).2 = ms.map Send.router ∧
      List.Forall₂ S.Report js ms ∧
      S.AccountAt r p d a q (y.handle (.cardQueryReply n c v)).1 box ∧
      S.Moved r a q y.pendingQuery q (y.handle (.cardQueryReply n c v)).1.pendingQuery js := by
  have hcollects : Slot.collects y.pendingQuery n = true := by
    obtain hc | ⟨m, hm, -⟩ := h.asked.order [] n c v box rfl
    · exact hc
    · cases hm
  obtain ⟨pq, hpq⟩ : ∃ pq, y.pendingQuery = some pq := by
    cases hy : y.pendingQuery with
    | none =>
      rw [hy] at hcollects
      cases hcollects
    | some pq => exact ⟨pq, rfl⟩
  obtain rfl : pq.opId = n := by simpa [Slot.collects, hpq] using hcollects
  have hhandle : y.handle (.cardQueryReply pq.opId c v) = y.collectReply pq c v := by
    show y.cardQueryReply pq.opId c v = _
    simp only [AccountActor.cardQueryReply, hpq, if_true]
  have hasked := h.asked
  rw [hpq] at hasked
  have hentry := h.entry
  rw [hpq] at hentry
  have htaken := h.taken.tail rfl
  rw [hhandle, hpq]
  by_cases hlast : pq.remaining - 1 = 0
  · obtain ⟨hasked', i, o, hiq, hop, hq, hb, hl⟩ := hasked.complete h.taken.le hlast
    have hcollect : y.collectReply pq c v = ({ y with
        pendingQuery := none
        accountConsumed := if pq.billing then 0 else y.accountConsumed },
      [.router (.accountQueryCompleted pq.opId a
        (AccountActor.totalSpent (pq.perCardSpent ++ [(c, v)])) (pq.perCardSpent ++ [(c, v)]))]) := by
      rw [← h.named]
      exact if_pos hlast
    have hreport := Report.query hop hq hl
    have htotal : (S.ledger i).total a (pq.perCardSpent ++ [(c, v)]) =
        AccountActor.totalSpent (pq.perCardSpent ++ [(c, v)]) :=
      if_neg (List.append_ne_nil_of_right_ne_nil _ (List.cons_ne_nil _ _))
    rw [htotal] at hreport
    rw [hcollect]
    refine ⟨[i], [_], rfl, .cons hreport .nil, ⟨h.named, ?_, htaken, hasked'⟩,
      .complete hop hiq h.taken.le hq⟩
    cases hbill : pq.billing with
    | true =>
      -- the bill is settled: the account goes on behind it
      have hqi := hb hbill
      rw [hbill] at hq
      have hclose : Slot.closing (some pq) = 1 := by simp [Slot.closing, hbill]
      rw [hclose, hqi, Nat.add_sub_cancel] at hentry
      show (⟨y.accountLimit, 0⟩ : Entry) = (S.ledger q).accountEntry a
      rw [hqi, query_account hop hq, if_pos rfl, ← hentry]
      rfl
    | false =>
      have hclose : Slot.closing (some pq) = 0 := by simp [Slot.closing, hbill]
      rw [hclose] at hentry
      exact hentry
  · have hcollect : y.collectReply pq c v = ({ y with pendingQuery := some { pq with
        perCardSpent := pq.perCardSpent ++ [(c, v)], remaining := pq.remaining - 1 } }, []) :=
      if_neg hlast
    rw [hcollect]
    exact ⟨[], [], rfl, .nil, ⟨h.named, hentry, htaken, hasked.gather hlast⟩,
      ⟨List.nodup_nil, fun i hi => absurd hi List.not_mem_nil, fun j n o _ _ => by
        simp [Closed, Slot.collects]⟩⟩

end Script

end YpfRuta.Actors
