/-
  One list of operations, one outcome. Runs in which no operation overtakes another end,
  whatever the schedule, where the operations lead one at a time: with the same ledger and
  the same results.

  A schedule that lets one charge overtake another at their account ends elsewhere.
-/
import Mathlib.Data.List.Forall2
import YpfRuta.Actors.Follow

namespace YpfRuta.Actors

open Lib

section

variable {Amount : Type} [Currency Amount]

namespace Script

variable {S : Script} {r : Nat} {p d : CardKey → Nat} {q : AccountId → Nat} {ds es : List Nat}
  {s : ActorDb} {c : ActorStates}

/-! ## Where a run starts -/

/-- The actors at rest are at the start of the list. -/
theorem tracks_rest (hn : c.Named) (hi : c.Idle) (hstart : S.start = c.ledger) :
    S.Tracks 0 (fun _ => 0) (fun _ => 0) (fun _ => 0) [] [] (ActorDb.rest c) := by
  have hledger : S.ledger 0 = c.ledger := hstart
  refine ⟨⟨hn.cards, List.nil_prefix, Nat.le_refl 0, rfl, ?_, ?_, ?_⟩, fun k => ?_, fun a => ?_,
    ⟨.nil, .nil, List.nodup_nil, ?_, ?_⟩⟩
  · intro a
    rw [hledger]
    by_cases ha : a ∈ c.router.accounts <;> simp [ActorDb.rest, ActorStates.ledger, ha]
  · intro k
    rw [hledger]
    by_cases hk : k ∈ c.router.cards <;> simp [ActorDb.rest, ActorStates.ledger, hk]
  · exact fun i n o hi => absurd hi (Nat.not_lt_zero i)
  · refine ⟨hn.cardId k, fun m hm => absurd hm List.not_mem_nil, Nat.le_refl 0, ?_, ?_,
      .idle (hi.card k) (hi.queue k) rfl⟩
    · rw [pending_self]
      unfold CardActor.work
      show ((c.card k).currentTask.toList ++ (c.card k).queue).map CardItem.task ++ [] = []
      rw [hi.card, hi.queue]
      rfl
    · rw [hledger, hn.cardEntry]
      rfl
  · have hnone : ((ActorDb.rest c).account a).pendingQuery = none := hi.account a
    refine ⟨hn.accountId a, ?_, ⟨fun m hm => absurd hm List.not_mem_nil, Nat.le_refl 0, ?_, ?_, ?_⟩,
      ⟨?_, ?_, ?_, ?_, ?_⟩⟩
    · rw [Nat.zero_sub, hledger, hn.accountEntry]
      rfl
    · rw [pending_self]
      rfl
    · exact fun i c n amount off hi => absurd hi (Nat.not_lt_zero i)
    · exact fun i c n amount off hi => absurd hi (Nat.not_lt_zero i)
    · intro pq hpq
      rw [hnone] at hpq
      cases hpq
    · intro n num hm
      obtain hm | hm := hm <;> exact absurd hm List.not_mem_nil
    · intro pre n c v post hbox
      exact absurd hbox.symm (List.append_ne_nil_of_right_ne_nil _ (List.cons_ne_nil _ _))
    · exact fun i n o billing hi => absurd hi (Nat.not_lt_zero i)
    · exact fun i n o billing hi => absurd hi (Nat.not_lt_zero i)
  · exact fun i hi => absurd hi List.not_mem_nil
  · exact fun i n o hi => absurd hi (Nat.not_lt_zero i)

/-! ## Where it ends -/

/-- A card with nothing under way has done all its operations. -/
theorem CardAt.finished {k : CardKey} {p d : Nat} {x : CardActor} (h : S.CardAt r k p d x [] []) :
    d = p ∧ (∀ i, p ≤ i → i < r → S.item k i = none) ∧ x.entry = (S.ledger r).cardEntry k := by
  have hround : S.Round k p d x [] [] := h.round
  cases hround with
  | idle hcur hq hd =>
    have hwork := h.work
    unfold CardActor.work at hwork
    rw [hcur, hq] at hwork
    have hnone := pending_eq_nil.mp (List.map_eq_nil_iff.mp hwork.symm)
    exact ⟨hd, hnone, h.entry.trans (cardEntry_const h.le hnone).symm⟩

/-- A query nobody is going to answer any more is complete. -/
theorem Asked.finished_slot {a : AccountId} {q : Nat} {x : Slot} (h : S.Asked r p a q x [])
    (hqr : q ≤ r) (hcards : ∀ c i, p (a, c) ≤ i → i < r → S.item (a, c) i = none) : x = none := by
  cases hx : x with
  | none => rfl
  | some pq =>
    obtain ⟨i, o, hiq, hop, hq, -, hpos, cards, hnodup, hmem, hlen⟩ := h.slot pq hx
    have hold := h.waiting i pq.opId o pq.billing (by omega) hop hq
      (Or.inr (by simp [hx, Slot.collects]))
    have hgathered : x.gathered pq.opId ++ ([] : List AccountMsg).filterMap
        (AccountMsg.answer? pq.opId) = pq.perCardSpent := by
      rw [hx]
      exact (List.append_nil _).trans (if_pos rfl)
    rw [hgathered] at hold
    -- every card has answered
    have hsub : cards ⊆ pq.perCardSpent.map Prod.fst := by
      intro c hc
      have hsome := (hmem c).mp hc
      have hpast : i < p (a, c) := by
        by_contra hle
        have hitem := item_query hop hq hsome
        rw [hcards c i (Nat.le_of_not_lt hle) (by omega)] at hitem
        cases hitem
      obtain ⟨e, he⟩ := Option.isSome_iff_exists.mp hsome
      refine List.mem_map.mpr ⟨(c, e.consumed), (hold.mem _).mpr ?_, rfl⟩
      unfold answered
      rw [if_pos hpast]
      simp [Ledger.cardSpent, he]
    have hle := (List.subperm_of_subset hnodup hsub).length_le
    rw [List.length_map] at hle
    omega

/-- **At rest, every actor is at the end of the list.** -/
theorem Tracks.finished (h : S.Tracks r p d q ds es s) (hq : s.Quiescent)
    (hall : s.commands = S.ops) :
    r = S.ops.length ∧ (∀ a, (s.account a).entry = (S.ledger r).accountEntry a) ∧
      (∀ k, (s.card k).entry = (S.ledger r).cardEntry k) ∧
      s.ledger = S.ledger r ∧ List.Forall₂ S.Event ds s.events ∧ ds.Perm (List.range r) := by
  have hr : r = S.ops.length := by
    have hqueue := h.router.queue
    rw [hq.router, hall] at hqueue
    have hle := List.drop_eq_nil_iff.mp hqueue.symm
    have hge := h.router.le_length
    omega
  have hcard : ∀ k, d k = p k ∧ (∀ i, p k ≤ i → i < r → S.item k i = none) ∧
      (s.card k).entry = (S.ledger r).cardEntry k := by
    intro k
    have hat := h.card k
    rw [hq.card, hq.account] at hat
    exact hat.finished
  have haccount : ∀ a, (∀ i, q a ≤ i → i < r → S.direct a i = none) ∧
      (s.account a).pendingQuery = none ∧
      (s.account a).entry = (S.ledger r).accountEntry a := by
    intro a
    have hat := h.account a
    rw [hq.account] at hat
    have hdirect := pending_eq_nil.mp (List.map_eq_nil_iff.mp hat.taken.direct.symm)
    have hslot := hat.asked.finished_slot hat.taken.le fun c => (hcard (a, c)).2.1
    refine ⟨hdirect, hslot, ?_⟩
    have hentry := hat.entry
    rw [hslot] at hentry
    refine hentry.trans (hat.taken.entry_const hat.taken.le (Nat.le_refl r) hdirect ?_).symm
    intro j c n amount off hjr hop
    by_contra hle
    rw [(hcard (a, c)).1] at hle
    have hitem := (hop.item (a, c)).trans (if_pos rfl)
    rw [(hcard (a, c)).2.1 j (Nat.le_of_not_lt hle) hjr] at hitem
    cases hitem
  -- every operation has ended
  have hended : ∀ i n o, i < r → S.Op i n o → Ended p q s.account i n o := by
    intro i n o hir hop
    have htask : ∀ k t, itemOf (S.ledger i) k n o = some (.task t) → i < p k := by
      intro k t ht
      by_contra hle
      have hitem := (hop.item k).trans ht
      rw [(hcard k).2.1 i (Nat.le_of_not_lt hle) hir] at hitem
      cases hitem
    have hclosed : ∀ a y, directOf a n o = some y →
        Closed (q a) (s.account a).pendingQuery i n := by
      intro a y hy
      refine ⟨?_, by rw [(haccount a).2.1]; rfl⟩
      by_contra hle
      have hdir := (hop.direct a).trans hy
      rw [(haccount a).1 i (Nat.le_of_not_lt hle) hir] at hdir
      cases hdir
    have hacc := hop.account
    cases o with
    | charge a c amount off => exact htask (a, c) _ (if_pos rfl)
    | limitCard a c newLimit => exact htask (a, c) _ (if_pos rfl)
    | limitAccount a newLimit => exact hclosed a _ (if_pos rfl)
    | accountQuery a => exact hclosed a _ (if_pos rfl)
    | bill a period => exact hclosed a _ (if_pos rfl)
    | _ => cases hacc
  have hbooked := h.booked
  rw [hq.router] at hbooked
  obtain ⟨hevents, hreports, hnodup, hlt, hiff⟩ := hbooked
  obtain rfl : es = [] := List.forall₂_nil_right_iff.mp hreports
  rw [List.append_nil] at hnodup hlt hiff
  refine ⟨hr, fun a => (haccount a).2.2, fun k => (hcard k).2.2, ?_, hevents, ?_⟩
  · refine Ledger.ext (funext fun a => ?_) (funext fun k => ?_)
    · show (if a ∈ s.router.accounts then some (s.account a).entry else none) = _
      rw [(haccount a).2.2]
      have hknown := h.router.accounts a
      unfold Ledger.accountEntry
      cases he : (S.ledger r).account a <;> simp [hknown, he]
    · show (if k ∈ s.router.cards then some (s.card k).entry else none) = _
      rw [(hcard k).2.2]
      have hknown := h.router.cards k
      unfold Ledger.cardEntry
      cases he : (S.ledger r).card k <;> simp [hknown, he]
  · refine (List.perm_ext_iff_of_nodup hnodup List.nodup_range).mpr fun i => ?_
    rw [List.mem_range]
    refine ⟨hlt i, fun hir => ?_⟩
    obtain ⟨n, o, hop⟩ := exists_op (hr ▸ hir)
    exact (hiff i n o hir hop).mpr (hended i n o hir hop)

/-! ## The list, one operation at a time -/

/-- The results in the order of the list are those of its operations one by one. -/
theorem serial_of_events (r : Nat) (hr : r ≤ S.ops.length) {events : List ActorEvent}
    (h : List.Forall₂ S.Event (List.range r) events) :
    Serial S.start (S.ops.take r) events (S.ledger r) := by
  induction r generalizing events with
  | zero =>
    obtain rfl := List.forall₂_nil_left_iff.mp h
    exact .nil _
  | succ r ih =>
    rw [List.range_succ] at h
    have hinit := (List.forall₂_take_append _ _ _ h.flip).flip
    have hlast := (List.forall₂_drop_append _ _ _ h.flip).flip
    obtain ⟨e, rest, ⟨n, o, res, err, hop, hserve, rfl⟩, hnil, hdrop⟩ :=
      List.forall₂_cons_left_iff.mp hlast
    obtain rfl := List.forall₂_nil_left_iff.mp hnil
    have hsnoc := (ih (Nat.le_of_succ_le hr) hinit).snoc (n := n) hserve
    have hops : S.ops.take (r + 1) = S.ops.take r ++ [(n, o)] := by
      rw [List.take_add_one, hop]
      rfl
    rwa [hops, ← List.take_append_drop (List.range r).length events, hdrop]

end Script

/-! ## Two runs -/

namespace ActorDb

/-- What the operations sent lead to, executed one at a time from ledger `L`. -/
def Executes (s : ActorDb) (L : Ledger) : Prop :=
  ∃ events, Serial L s.commands events s.ledger ∧ s.events.Perm events

/-- The same limit and consumption for every account and card, and the same result for
    every operation. -/
structure Agrees (s s' : ActorDb) : Prop where
  account : ∀ a, (s.account a).entry = (s'.account a).entry
  card : ∀ k, (s.card k).entry = (s'.card k).entry
  ledger : s.ledger = s'.ledger
  results : ∀ n, List.Forall₂ ActorEvent.Same (s.events.filter (ActorEvent.results n))
    (s'.events.filter (ActorEvent.results n))

end ActorDb

section Runs

variable {c : ActorStates} {ls ls' : List Label} {s s' : ActorDb}

/-- A run in order to quiescence executes its operations one at a time. -/
theorem executes_of_run (hn : c.Named) (hi : c.Idle)
    (hr : run ActorDb.step (ActorDb.rest c) ls = some s)
    (hm : Meets ActorDb.step ActorDb.InOrder (ActorDb.rest c) ls) (hq : s.Quiescent)
    (hids : (s.commands.map Prod.fst).Nodup)
    (hops : ∀ x ∈ s.commands, (accountOf? x.2).isSome) :
    s.Executes c.ledger ∧ (∀ a, (s.account a).entry = s.ledger.accountEntry a) ∧
      ∀ k, (s.card k).entry = s.ledger.cardEntry k := by
  let S : Script := ⟨c.ledger, s.commands, hids, hops⟩
  have hstart : S.Follows (ActorDb.rest c) := ⟨_, _, _, _, _, _, Script.tracks_rest hn hi rfl⟩
  obtain ⟨r, p, d, q, ds, es, h⟩ := hstart.run hr hm (List.prefix_refl _)
  obtain ⟨rfl, haccount, hcard, hledger, hevents, hperm⟩ := h.finished hq rfl
  obtain ⟨events, hall, hsame⟩ := List.perm_comp_forall₂ hperm.symm hevents
  rw [← hledger] at haccount hcard
  refine ⟨⟨events, ?_, hsame.symm⟩, haccount, hcard⟩
  have hserial := Script.serial_of_events _ (Nat.le_refl _) hall
  rw [List.take_length, ← hledger] at hserial
  exact hserial

theorem ActorEvent.Same.results {x y : ActorEvent} (h : ActorEvent.Same x y) (n : OpId) :
    ActorEvent.results n x = ActorEvent.results n y := by
  obtain ⟨n', o, r, r', b, e, rfl, rfl, -⟩ := h
  rfl

theorem perm_eq_of_short {β : Type} {l l' : List β} (h : l.Perm l') (hlen : l'.length ≤ 1) :
    l = l' := by
  cases l' with
  | nil => exact h.eq_nil
  | cons x l' =>
    obtain rfl : l' = [] := List.length_eq_zero_iff.mp (by simpa using hlen)
    exact List.perm_singleton.mp h

theorem ActorStates.idle_init : ActorDb.init.states.Idle :=
  ⟨fun _ => rfl, fun _ => rfl, fun _ => rfl⟩

end Runs

end

section Exact

variable {c : ActorStates} {ls ls' : List Label} {s s' : ActorDb}

/-- **The outcome does not depend on the schedule.** Runs of one list of operations, from
    actors at rest, in which no operation overtakes another agree with each other and with
    the execution of the list one operation at a time. -/
theorem schedules_agree (hn : c.Named) (hi : c.Idle)
    (hr : run ActorDb.step (ActorDb.rest c) ls = some s)
    (hr' : run ActorDb.step (ActorDb.rest c) ls' = some s')
    (hm : Meets ActorDb.step ActorDb.InOrder (ActorDb.rest c) ls)
    (hm' : Meets ActorDb.step ActorDb.InOrder (ActorDb.rest c) ls')
    (hq : s.Quiescent) (hq' : s'.Quiescent) (hcmd : s.commands = s'.commands)
    (hids : (s.commands.map Prod.fst).Nodup)
    (hops : ∀ x ∈ s.commands, (accountOf? x.2).isSome) :
    s.Agrees s' ∧ s.Executes c.ledger ∧ s'.Executes c.ledger := by
  obtain ⟨hex, haccount, hcard⟩ := executes_of_run hn hi hr hm hq hids hops
  obtain ⟨hex', haccount', hcard'⟩ :=
    executes_of_run hn hi hr' hm' hq' (hcmd ▸ hids) (hcmd ▸ hops)
  refine ⟨?_, hex, hex'⟩
  obtain ⟨events, hserial, hperm⟩ := hex
  obtain ⟨events', hserial', hperm'⟩ := hex'
  rw [← hcmd] at hserial'
  obtain ⟨hledger, hsame⟩ := hserial.agree hops hserial'
  refine ⟨fun a => ?_, fun k => ?_, hledger, fun n => ?_⟩
  · rw [haccount, haccount', hledger]
  · rw [hcard, hcard', hledger]
  · -- every id has at most one result, so the order does not matter
    have hone := List.nodup_iff_count_le_one.mp hids n
    have hevents := perm_eq_of_short (hperm.filter (ActorEvent.results n))
      (by rw [hserial.count]; exact hone)
    have hevents' := perm_eq_of_short (hperm'.filter (ActorEvent.results n))
      (by rw [hserial'.count]; exact hone)
    rw [hevents, hevents']
    exact List.rel_filter (fun x y hxy => iff_of_eq (congrArg (· = true) (hxy.results n))) hsame

/-- Two schedules of charges and a bill on one account, and a charge on another: the charges
    end in another order, and the bill lists its cards in another order. -/
theorem schedules_agree_example :
    ∃ ls ls' s s', run ActorDb.step (ActorDb.rest ActorDb.init.states) ls = some s ∧
      run ActorDb.step (ActorDb.rest ActorDb.init.states) ls' = some s' ∧
      s.events[2]?.any (ActorEvent.results 4) = true ∧
      s'.events[2]?.any (ActorEvent.results 3) = true ∧
      s.events[4]? = some (.operationResult 5 (.bill 1 none)
        (.accountQuery ⟨1, 60, [(7, 60), (8, 0)]⟩) true none) ∧
      s'.events[4]? = some (.operationResult 5 (.bill 1 none)
        (.accountQuery ⟨1, 60, [(8, 0), (7, 60)]⟩) true none) ∧
      s.Agrees s' ∧ s.Executes ActorDb.init.states.ledger ∧
      s'.Executes ActorDb.init.states.ledger := by
  have hrun : (run ActorDb.step (ActorDb.rest ActorDb.init.states)
      [.execute 1 (.limitAccount 1 (some 100)), .execute 2 (.charge 1 7 60 false),
        .execute 3 (.charge 2 5 10 false), .execute 4 (.charge 1 8 60 false), .router, .router,
        .router, .router, .card (1, 7), .card (1, 8), .card (2, 5), .account 1, .router,
        .account 1, .card (1, 7), .router, .account 1, .card (1, 8), .router, .account 2,
        .card (2, 5), .router, .execute 5 (.bill 1 none), .router, .card (1, 7), .card (1, 8),
        .account 1, .account 1, .account 1, .router]).any (fun s =>
          s.commands = [(1, .limitAccount 1 (some 100)), (2, .charge 1 7 60 false),
            (3, .charge 2 5 10 false), (4, .charge 1 8 60 false), (5, .bill 1 none)] ∧
          s.Drained ∧ s.events[2]?.any (ActorEvent.results 4) = true ∧
          s.events[4]? = some (.operationResult 5 (.bill 1 none)
            (.accountQuery ⟨1, 60, [(7, 60), (8, 0)]⟩) true none)) = true := by
    decide +kernel
  have hrun' : (run ActorDb.step (ActorDb.rest ActorDb.init.states)
      [.execute 1 (.limitAccount 1 (some 100)), .execute 2 (.charge 1 7 60 false),
        .execute 3 (.charge 2 5 10 false), .execute 4 (.charge 1 8 60 false),
        .execute 5 (.bill 1 none), .router, .account 1, .router, .card (1, 7), .account 1,
        .card (1, 7), .router, .card (2, 5), .account 2, .card (2, 5), .router, .card (1, 8),
        .account 1, .card (1, 8), .router, .account 1, .card (1, 8), .account 1, .card (1, 7),
        .account 1, .router, .router, .router, .router, .router]).any (fun s =>
          s.commands = [(1, .limitAccount 1 (some 100)), (2, .charge 1 7 60 false),
            (3, .charge 2 5 10 false), (4, .charge 1 8 60 false), (5, .bill 1 none)] ∧
          s.Drained ∧ s.events[2]?.any (ActorEvent.results 3) = true ∧
          s.events[4]? = some (.operationResult 5 (.bill 1 none)
            (.accountQuery ⟨1, 60, [(8, 0), (7, 60)]⟩) true none)) = true := by
    decide +kernel
  obtain ⟨s, hs, hp⟩ := (Option.any_eq_true _ _).mp hrun
  obtain ⟨hcmd, hd, hthird, hbill⟩ := of_decide_eq_true hp
  obtain ⟨s', hs', hp'⟩ := (Option.any_eq_true _ _).mp hrun'
  obtain ⟨hcmd', hd', hthird', hbill'⟩ := of_decide_eq_true hp'
  have hq : s.Quiescent := quiescent_of_known (known_reaches ⟨_, hs⟩) hd
  have hq' : s'.Quiescent := quiescent_of_known (known_reaches ⟨_, hs'⟩) hd'
  have hall := schedules_agree Formed.init.named ActorStates.idle_init hs hs' (by decide +kernel)
    (by decide +kernel) hq hq' (hcmd.trans hcmd'.symm) (by rw [hcmd]; decide)
    (by rw [hcmd]; decide)
  exact ⟨_, _, s, s', hs, hs', hthird, hthird', hbill, hbill', hall⟩

/-- **The outcome depends on the schedule.** Two charges that only fit the limit of the
    account one by one reach it in either order, and the other one fails. -/
theorem schedules_disagree :
    ¬ ∀ (c : ActorStates) (ls ls' : List Label) (s s' : ActorDb), c.Named → c.Idle →
      run ActorDb.step (ActorDb.rest c) ls = some s →
      run ActorDb.step (ActorDb.rest c) ls' = some s' → s.Quiescent → s'.Quiescent →
      s.commands = s'.commands → (s.commands.map Prod.fst).Nodup →
      (∀ x ∈ s.commands, (accountOf? x.2).isSome) → s.Agrees s' := by
  intro hall
  have hrun : (run ActorDb.step (ActorDb.rest ActorDb.init.states)
      [.execute 1 (.limitAccount 1 (some 100)), .execute 2 (.charge 1 7 60 false),
        .execute 3 (.charge 1 8 60 false), .router, .router, .router, .account 1, .card (1, 7),
        .account 1, .card (1, 7), .card (1, 8), .account 1, .card (1, 8), .router, .router,
        .router]).any (fun s =>
          s.commands = [(1, .limitAccount 1 (some 100)), (2, .charge 1 7 60 false),
            (3, .charge 1 8 60 false)] ∧ s.Drained ∧ (s.card (1, 7)).consumed = 60) = true := by
    decide +kernel
  have hrun' : (run ActorDb.step (ActorDb.rest ActorDb.init.states)
      [.execute 1 (.limitAccount 1 (some 100)), .execute 2 (.charge 1 7 60 false),
        .execute 3 (.charge 1 8 60 false), .router, .router, .router, .account 1, .card (1, 8),
        .account 1, .card (1, 8), .card (1, 7), .account 1, .card (1, 7), .router, .router,
        .router]).any (fun s =>
          s.commands = [(1, .limitAccount 1 (some 100)), (2, .charge 1 7 60 false),
            (3, .charge 1 8 60 false)] ∧ s.Drained ∧ (s.card (1, 7)).consumed = 0) = true := by
    decide +kernel
  obtain ⟨s, hs, hp⟩ := (Option.any_eq_true _ _).mp hrun
  obtain ⟨hcmd, hd, hcard⟩ := of_decide_eq_true hp
  obtain ⟨s', hs', hp'⟩ := (Option.any_eq_true _ _).mp hrun'
  obtain ⟨hcmd', hd', hcard'⟩ := of_decide_eq_true hp'
  have hq : s.Quiescent := quiescent_of_known (known_reaches ⟨_, hs⟩) hd
  have hq' : s'.Quiescent := quiescent_of_known (known_reaches ⟨_, hs'⟩) hd'
  have hagree := hall _ _ _ s s' Formed.init.named ActorStates.idle_init hs hs' hq hq'
    (hcmd.trans hcmd'.symm) (by rw [hcmd]; decide) (by rw [hcmd]; decide)
  have hsame := congrArg Entry.consumed (hagree.card (1, 7))
  have h60 : (s.card (1, 7)).entry.consumed = 60 := hcard
  have h0 : (s'.card (1, 7)).entry.consumed = 0 := hcard'
  rw [h60, h0] at hsame
  exact absurd hsame (by decide)

end Exact

end YpfRuta.Actors
