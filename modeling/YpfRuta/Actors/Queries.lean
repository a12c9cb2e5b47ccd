/-
  Queries and bills: one of them asks every card of its account once, and each card is
  asked, on its way back or gathered by the pending slot of the account, until the
  account reports the list. This breaks only when a second one takes the slot of a query
  the account still collects.
-/
import YpfRuta.Actors.Billing

namespace YpfRuta.Actors

open Lib

section

variable {Amount : Type} [Currency Amount]

/-! ## Where a query is -/

/-- The answer of card `c` to the query or bill `n`. -/
def AccountMsg.answersFor (n : OpId) (c : CardId) : AccountMsg → Bool
  | .cardQueryReply n' c' _ => n' == n && c' == c
  | _ => false

/-- The message starts the query or bill `n`. -/
def AccountMsg.starts (n : OpId) : AccountMsg → Bool
  | .startAccountQuery n' _ => n' == n
  | .startAccountBill n' _ => n' == n
  | _ => false

/-- What an `AccountQueryCompleted` of `n` says. -/
def RouterMsg.completion? (n : OpId) :
    RouterMsg → Option (AccountId × Amount × List (CardId × Amount))
  | .accountQueryCompleted n' a total spent => if n' = n then some (a, total, spent) else none
  | _ => none

/-- The `AccountQueryCompleted`s of `n`. -/
def ActorDb.completions (s : ActorDb) (n : OpId) :
    List (AccountId × Amount × List (CardId × Amount)) :=
  s.reported.filterMap (RouterMsg.completion? n)

/-- Questions of `n` to card `c` and its answers, between the card and its account. -/
def ActorDb.underway (s : ActorDb) (a : AccountId) (n : OpId) (c : CardId) : Nat :=
  (s.cardBox (a, c)).countP (CardMsg.asks n) +
    (s.accountBox a).countP (AccountMsg.answersFor n c)

/-- A query or a bill takes the slot of one the account still collects. -/
def ActorDb.Overwrites (s : ActorDb) : Label → Bool
  | .account a =>
    (s.accountBox a).head?.any AccountMsg.startsQuery && (s.account a).pendingQuery.isSome
  | _ => false

variable {K : OpId → Operation Amount → Prop} {a : AccountId} {n : OpId} {cards : List CardId}
  {s s' : ActorDb}

theorem overwrites_account {m : AccountMsg} {rest : List AccountMsg} {p : AccountPendingQuery}
    (hbox : s.accountBox a = m :: rest) (hp : (s.account a).pendingQuery = some p)
    (hc : s.Overwrites (.account a) = false) : m.startsQuery = false := by
  simpa [ActorDb.Overwrites, hbox, hp] using hc

/-- A bill is a query of which more is known. -/
theorem not_overwritesBill {l : Label} (hc : s.Overwrites l = false) : ¬ OverwritesBill s l := by
  cases l with
  | account a =>
    unfold OverwritesBill
    dsimp only
    split
    · rename_i m rest p hbox hp
      rintro ⟨hm, -⟩
      rw [overwrites_account hbox hp hc] at hm
      cases hm
    · exact id
  | _ => exact id

theorem answersFor_answers {c : CardId} {m : AccountMsg} (hm : m.answersFor n c = true) :
    m.answers n = true := by
  cases m with
  | cardQueryReply n' c' con =>
    simp only [AccountMsg.answersFor, Bool.and_eq_true] at hm
    exact hm.1
  | _ => cases hm

/-- An account hears of `n` only when `n` is a query or a bill of it. -/
theorem accountMsgOrigin.queries {m : AccountMsg} (hm : accountMsgOrigin K a m)
    (hn : m.starts n = true ∨ m.answers n = true) :
    ∃ o billing, K n o ∧ Queries a billing o := by
  cases m with
  | startAccountQuery n' num =>
    obtain rfl : n' = n := by simpa [AccountMsg.starts, AccountMsg.answers] using hn
    exact ⟨_, false, hm, rfl⟩
  | startAccountBill n' num =>
    obtain rfl : n' = n := by simpa [AccountMsg.starts, AccountMsg.answers] using hn
    obtain ⟨period, ho⟩ := hm
    exact ⟨_, true, ho, period, rfl⟩
  | cardQueryReply n' c con =>
    obtain rfl : n' = n := by simpa [AccountMsg.starts, AccountMsg.answers] using hn
    exact hm
  | _ => rcases hn with hn | hn <;> cases hn

omit [Currency Amount] in
theorem Queries.unique {b b' : Bool} {a' : AccountId} {o : Operation Amount}
    (h : Queries a b o) (h' : Queries a' b' o) : a = a' := by
  cases b <;> cases b' <;> simp only [Queries, Bool.false_eq_true, if_false, if_true] at h h' <;>
    grind

/-! ## What one message does -/

/-- A message that neither starts `n` nor answers it completes nothing of `n`. -/
theorem AccountActor.handle_completion (x : AccountActor) {m : AccountMsg}
    (hstart : m.starts n = false) (hans : m.answers n = false) :
    ((x.handle m).2.filterMap Send.toRouter?).filterMap (RouterMsg.completion? n) = [] := by
  cases m with
  | applyChargeFromCard n' amount c off k =>
    simp only [handle]
    obtain ⟨-, heq⟩ | ⟨-, -, err, heq⟩ := applyChargeFromCard_cases x n' amount c off k <;>
      rw [heq] <;> rfl
  | applyAccountLimit n' lim =>
    simp only [handle]
    obtain ⟨-, heq⟩ | ⟨err, -, heq⟩ := applyAccountLimit_cases x n' lim <;> rw [heq] <;> rfl
  | startAccountQuery n' num =>
    have hn : n' ≠ n := by simpa [AccountMsg.starts] using hstart
    simp only [handle, startAccountQuery]
    split
    · simp [Send.toRouter?, RouterMsg.completion?, hn]
    · rfl
  | startAccountBill n' num =>
    have hn : n' ≠ n := by simpa [AccountMsg.starts] using hstart
    simp only [handle, startAccountBill]
    split
    · simp [Send.toRouter?, RouterMsg.completion?, hn]
    · rfl
  | cardQueryReply n' c con =>
    have hn : n' ≠ n := by simpa [AccountMsg.answers] using hans
    simp only [handle]
    obtain ⟨p, -, hp, heq⟩ | ⟨-, heq⟩ := cardQueryReply_cases x n' c con
    · rw [heq]
      obtain ⟨-, hcoll⟩ | ⟨-, hcoll⟩ := collectReply_cases x p c con <;> rw [hcoll]
      · simp [Send.toRouter?, RouterMsg.completion?, hp, hn]
      · rfl
    · rw [heq]
      rfl
  | getSnapshot n' => rfl
  | replaceState lim con => rfl

theorem CardActor.handle_completion (c : CardActor) (m : CardMsg) :
    ((c.handle m).2.filterMap Send.toRouter?).filterMap (RouterMsg.completion? n) = [] := by
  rw [List.filterMap_eq_nil_iff]
  intro y hy
  obtain ⟨x, hx, hxy⟩ := List.mem_filterMap.mp hy
  cases CardActor.handle_emits c m x hx <;>
    simp only [Send.toRouter?, CardActor.completed, CardActor.applyCharge, Option.some.injEq,
      reduceCtorEq] at hxy <;>
    rw [← hxy] <;> rfl

/-- A card answers each question of its account once, under its own id. -/
theorem CardActor.handle_answersFor {k : CardKey} {c : CardActor} {m : CardMsg}
    (hc : CardOrigin K k c) (hm : cardMsgOrigin K k m) (d : CardId) :
    (c.handle m).2.countP (Send.onAccount k.1 (AccountMsg.answersFor n d)) =
      if m.asks n = true ∧ k.2 = d then 1 else 0 := by
  by_cases hq : ∃ n' a' reset, m = .queryCardState n' a' reset
  · obtain ⟨n', a', reset, rfl⟩ := hq
    simp only [handle, CardMsg.asks, beq_iff_eq]
    obtain ⟨-, heq⟩ | ⟨hne, -⟩ := queryCardState_cases c n' a' reset
    · rw [heq, ← hc.accountId, ← hc.cardId]
      by_cases hn : n' = n <;> by_cases hd : c.cardId = d <;>
        simp [Send.onAccount, AccountMsg.answersFor, hn, hd]
    · exact absurd (hm.1.symm.trans hc.accountId.symm) hne
  · have hne : ∀ n' a' reset, m ≠ .queryCardState n' a' reset :=
      fun n' a' reset he => hq ⟨n', a', reset, he⟩
    have hasks : m.asks n = false := by
      cases m with
      | queryCardState n' a' reset => exact absurd rfl (hne n' a' reset)
      | _ => rfl
    rw [if_neg (by simp [hasks]), List.countP_eq_zero]
    intro x hx
    obtain hp | ⟨text, rfl⟩ | ⟨n', t, -, rfl⟩ := handle_pumps c m hne x hx
    · cases hp <;> simp [completed, applyCharge, Send.onAccount, AccountMsg.answersFor]
    · simp [Send.onAccount]
    · simp [Send.onAccount]

/-! ## How far a query is -/

/-- How far the query or bill `n` of account `a` over `cards` is. Each card is counted
    once: asked or on its way back, gathered, or listed. -/
inductive Progress (s : ActorDb) (a : AccountId) (n : OpId) (cards : List CardId) : Prop where
  | starting (pre : List AccountMsg) (start : AccountMsg) (post : List AccountMsg)
      (hbox : s.accountBox a = pre ++ start :: post)
      (hstart : start = .startAccountQuery n cards.length ∨
        start = .startAccountBill n cards.length)
      (hpre : ∀ m ∈ pre, m.starts n = false ∧ m.answers n = false)
      (hpost : ∀ m ∈ post, m.starts n = false)
      (hnone : s.completions n = [])
      (hcount : ∀ c, s.underway a n c = cards.count c)
      (hempty : cards = [] →
        (s.account a).accountConsumed = 0 ∧ ∀ m ∈ pre, m.isApply = false)
  | collecting (p : AccountPendingQuery)
      (hp : (s.account a).pendingQuery = some p) (hn : p.opId = n)
      (hpos : 0 < p.remaining) (hrem : p.perCardSpent.length + p.remaining = cards.length)
      (hnostart : ∀ m ∈ s.accountBox a, m.starts n = false)
      (hnone : s.completions n = [])
      (hcount : ∀ c, s.underway a n c + (p.perCardSpent.map Prod.fst).count c = cards.count c)
  | completed (total : Amount) (spent : List (CardId × Amount))
      (hdone : s.completions n = [(a, total, spent)])
      (htotal : total = AccountActor.totalSpent spent)
      (hspent : (spent.map Prod.fst).Perm cards)
      (hnostart : ∀ m ∈ s.accountBox a, m.starts n = false)
      (hcount : ∀ c, s.underway a n c = 0)

/-- A step that only adds to the mailbox of `a`, nothing that starts `n`, and keeps what
    is under way and what is reported. -/
theorem Progress.quiet (hi : Progress s a n cards) (hacc : s'.account a = s.account a)
    {new : List AccountMsg} (hbox : s'.accountBox a = s.accountBox a ++ new)
    (hnew : ∀ m ∈ new, m.starts n = false) (hcomp : s'.completions n = s.completions n)
    (hunder : ∀ c, s'.underway a n c = s.underway a n c) : Progress s' a n cards := by
  have hnostart : (∀ m ∈ s.accountBox a, m.starts n = false) →
      ∀ m ∈ s'.accountBox a, m.starts n = false := by
    intro hold m hm
    rw [hbox] at hm
    exact (List.mem_append.mp hm).elim (hold m) (hnew m)
  cases hi with
  | starting pre start post hsplit hstart hpre hpost hnone hcount hempty =>
    refine .starting pre start (post ++ new) ?_ hstart hpre ?_ (hcomp.trans hnone) ?_ ?_
    · rw [hbox, hsplit, List.append_assoc, List.cons_append]
    · intro m hm
      exact (List.mem_append.mp hm).elim (hpost m) (hnew m)
    · intro c
      rw [hunder]
      exact hcount c
    · rw [hacc]
      exact hempty
  | collecting p hp hn hpos hrem hold hnone hcount =>
    refine .collecting p (hacc ▸ hp) hn hpos hrem (hnostart hold) (hcomp.trans hnone) ?_
    intro c
    rw [hunder]
    exact hcount c
  | completed total spent hdone htotal hspent hold hcount =>
    refine .completed total spent (hcomp.trans hdone) htotal hspent (hnostart hold) ?_
    intro c
    rw [hunder]
    exact hcount c

/-! ## The account handles a message -/

theorem accountStep_completions (m : AccountMsg) (rest : List AccountMsg) :
    (s.accountStep a m rest).completions n = s.completions n ++
      (((s.account a).handle m).2.filterMap Send.toRouter?).filterMap
        (RouterMsg.completion? n) := by
  simp only [ActorDb.completions, ActorDb.accountStep, ActorDb.deliver, List.filterMap_append]

theorem accountStep_underway {m : AccountMsg} {rest : List AccountMsg}
    (hbox : s.accountBox a = m :: rest) (c : CardId) :
    (s.accountStep a m rest).underway a n c + (if m.answersFor n c then 1 else 0) =
      s.underway a n c := by
  unfold ActorDb.underway
  rw [accountStep_rest, hbox, List.countP_cons]
  have hcard : ((s.accountStep a m rest).cardBox (a, c)).countP (CardMsg.asks n) =
      (s.cardBox (a, c)).countP (CardMsg.asks n) := by
    simp only [ActorDb.accountStep, ActorDb.deliver, List.countP_append, countP_toCard,
      AccountActor.handle_asks, Nat.add_zero]
  rw [hcard]
  omega

/-- A message that does not concern `n` leaves the progress of `n` as it is. -/
theorem accountStep_quiet {m : AccountMsg} {rest : List AccountMsg}
    (hbox : s.accountBox a = m :: rest) (hstart : m.starts n = false)
    (hans : m.answers n = false) :
    (s.accountStep a m rest).completions n = s.completions n ∧
      ∀ c, (s.accountStep a m rest).underway a n c = s.underway a n c := by
  constructor
  · rw [accountStep_completions, AccountActor.handle_completion _ hstart hans, List.append_nil]
  · intro c
    have hne : ¬ m.answersFor n c = true := by
      intro hm
      rw [answersFor_answers hm] at hans
      cases hans
    have hunder := accountStep_underway (s := s) (n := n) hbox c
    rw [if_neg hne] at hunder
    omega

/-- A list that counts each card of another no more often, and is as long, is the same
    list up to order. -/
theorem perm_of_count_le {xs cards : List CardId} (hle : ∀ c, xs.count c ≤ cards.count c)
    (hlen : cards.length ≤ xs.length) : xs.Perm cards :=
  (List.subperm_ext_iff.mpr fun c _ => hle c).perm_of_length_le hlen

/-- A start without cards is answered at once; any other takes the pending slot. -/
theorem AccountActor.start_cases (x : AccountActor) {num : Nat} {m : AccountMsg}
    (hm : m = .startAccountQuery n num ∨ m = .startAccountBill n num) :
    (num = 0 ∧ (x.handle m).2 =
      [.router (.accountQueryCompleted n x.accountId x.accountConsumed [])]) ∨
    (num ≠ 0 ∧ (x.handle m).2 = [] ∧
      ∃ billing, (x.handle m).1.pendingQuery = some ⟨n, num, [], billing⟩) := by
  by_cases hnum : num = 0
  · refine Or.inl ⟨hnum, ?_⟩
    obtain rfl | rfl := hm
    · simp only [handle, startAccountQuery, if_pos hnum]
    · simp only [handle, startAccountBill, if_pos hnum]
  · refine Or.inr ⟨hnum, ?_⟩
    obtain rfl | rfl := hm
    · simp only [handle, startAccountQuery, if_neg hnum]
      exact ⟨trivial, false, rfl⟩
    · simp only [handle, startAccountBill, if_neg hnum]
      exact ⟨trivial, true, rfl⟩

/-- **The query begins** at its account: without cards it is complete, otherwise it waits
    for all of them. -/
theorem Progress.begun {m : AccountMsg} {rest : List AccountMsg}
    (hbox : s.accountBox a = m :: rest)
    (hm : m = .startAccountQuery n cards.length ∨ m = .startAccountBill n cards.length)
    (hid : (s.account a).accountId = a) (hrest : ∀ m ∈ rest, m.starts n = false)
    (hnone : s.completions n = []) (hcount : ∀ c, s.underway a n c = cards.count c)
    (hempty : cards = [] → (s.account a).accountConsumed = 0) :
    Progress (s.accountStep a m rest) a n cards := by
  have hunder : ∀ c, (s.accountStep a m rest).underway a n c = cards.count c := by
    intro c
    have h := accountStep_underway (s := s) (n := n) hbox c
    have hans : m.answersFor n c = false := by
      obtain rfl | rfl := hm <;> rfl
    rw [hans, if_neg Bool.false_ne_true, hcount c] at h
    omega
  have hcomp := accountStep_completions (s := s) (a := a) (n := n) m rest
  obtain ⟨hzero, hsent⟩ | ⟨hpos, hsent, billing, hpend⟩ := (s.account a).start_cases hm
  · have hnil : cards = [] := List.length_eq_zero_iff.mp hzero
    rw [hsent, hnone, hid, hempty hnil] at hcomp
    refine .completed 0 [] ?_ rfl (by simp [hnil]) (by rwa [accountStep_rest]) ?_
    · rw [hcomp]
      simp [Send.toRouter?, RouterMsg.completion?]
    · intro c
      rw [hunder, hnil]
      rfl
  · rw [hsent, hnone] at hcomp
    refine .collecting ⟨n, cards.length, [], billing⟩ ?_ rfl (Nat.pos_of_ne_zero hpos) (by simp)
      (by rwa [accountStep_rest]) hcomp ?_
    · rw [ActorDb.accountStep_account, Function.update_self, hpend]
    · intro c
      simpa using hunder c

/-- **An answer is gathered** by the query that waits for it; the last one completes it. -/
theorem Progress.gather {p : AccountPendingQuery} {c : CardId} {con : Amount}
    {rest : List AccountMsg} (hbox : s.accountBox a = .cardQueryReply n c con :: rest)
    (hid : (s.account a).accountId = a) (hp : (s.account a).pendingQuery = some p)
    (hn : p.opId = n) (hpos : 0 < p.remaining)
    (hrem : p.perCardSpent.length + p.remaining = cards.length)
    (hrest : ∀ m ∈ rest, m.starts n = false) (hnone : s.completions n = [])
    (hcount : ∀ c, s.underway a n c + (p.perCardSpent.map Prod.fst).count c = cards.count c) :
    Progress (s.accountStep a (.cardQueryReply n c con) rest) a n cards := by
  -- the answer moves from the mailbox to the gathered list
  have hmoved : ∀ d, (s.accountStep a (.cardQueryReply n c con) rest).underway a n d +
      ((p.perCardSpent ++ [(c, con)]).map Prod.fst).count d = cards.count d := by
    intro d
    have h := accountStep_underway (s := s) (n := n) hbox d
    have hd := hcount d
    simp only [AccountMsg.answersFor, beq_self_eq_true, Bool.true_and, beq_iff_eq] at h
    simp only [List.map_append, List.map_cons, List.map_nil, List.count_append,
      List.count_singleton, beq_iff_eq]
    omega
  have hreply : (s.account a).handle (.cardQueryReply n c con) =
      (s.account a).collectReply p c con := by
    simp only [AccountActor.handle, AccountActor.cardQueryReply, hp, hn, if_true]
  have hcomp := accountStep_completions (s := s) (a := a) (n := n) (.cardQueryReply n c con) rest
  obtain ⟨hlast, hcoll⟩ | ⟨hmore, hcoll⟩ := AccountActor.collectReply_cases (s.account a) p c con
  · rw [hreply, hcoll, hnone, hid] at hcomp
    have hperm : ((p.perCardSpent ++ [(c, con)]).map Prod.fst).Perm cards := by
      refine perm_of_count_le (fun d => ?_) ?_
      · have := hmoved d
        omega
      · rw [List.length_map, List.length_append, List.length_singleton]
        omega
    refine .completed _ (p.perCardSpent ++ [(c, con)]) ?_ rfl hperm (by rwa [accountStep_rest]) ?_
    · rw [hcomp]
      simp [Send.toRouter?, RouterMsg.completion?, hn]
    · intro d
      have hd := hmoved d
      rw [hperm.count_eq d] at hd
      omega
  · rw [hreply, hcoll, hnone] at hcomp
    refine .collecting { p with
      perCardSpent := p.perCardSpent ++ [(c, con)]
      remaining := p.remaining - 1 } ?_ hn ?_ ?_ (by rwa [accountStep_rest]) hcomp hmoved
    · rw [ActorDb.accountStep_account, Function.update_self, hreply, hcoll]
    · exact Nat.pos_of_ne_zero hmore
    · rw [List.length_append, List.length_singleton]
      dsimp only
      omega

/-- **The account's own step** keeps the progress of `n`, unless it overwrites a query. -/
theorem Progress.handle (hi : Progress s a n cards) {m : AccountMsg} {rest : List AccountMsg}
    (hbox : s.accountBox a = m :: rest) (hc : s.Overwrites (.account a) = false)
    (hrep : ∀ lim con, m ≠ .replaceState lim con) (hid : (s.account a).accountId = a) :
    Progress (s.accountStep a m rest) a n cards := by
  have hacc : (s.accountStep a m rest).account a = ((s.account a).handle m).1 := by simp
  cases hi with
  | starting pre start post hsplit hstart hpre hpost hnone hcount hempty =>
    rw [hbox] at hsplit
    cases pre with
    | nil =>
      obtain ⟨rfl, rfl⟩ := List.cons.inj hsplit
      exact .begun hbox hstart hid hpost hnone hcount fun hnil => (hempty hnil).1
    | cons x pre =>
      obtain ⟨rfl, rfl⟩ := List.cons.inj hsplit
      obtain ⟨hms, hma⟩ := hpre m List.mem_cons_self
      obtain ⟨hcomp, hunder⟩ := accountStep_quiet hbox hms hma
      refine .starting pre start post (accountStep_rest m _) hstart
        (fun y hy => hpre y (List.mem_cons_of_mem _ hy)) hpost (hcomp.trans hnone) ?_ ?_
      · intro c
        rw [hunder]
        exact hcount c
      · intro hnil
        obtain ⟨hconsumed, happly⟩ := hempty hnil
        rw [hacc]
        exact ⟨AccountActor.handle_untouched hrep (happly m List.mem_cons_self) hconsumed,
          fun y hy => happly y (List.mem_cons_of_mem _ hy)⟩
  | collecting p hp hn hpos hrem hnostart hnone hcount =>
    rw [hbox] at hnostart
    have hms := hnostart m List.mem_cons_self
    have hrest : ∀ y ∈ rest, y.starts n = false :=
      fun y hy => hnostart y (List.mem_cons_of_mem _ hy)
    by_cases hma : m.answers n = true
    · cases m with
      | cardQueryReply n' c con =>
        obtain rfl : n' = n := by simpa [AccountMsg.answers] using hma
        exact .gather hbox hid hp hn hpos hrem hrest hnone hcount
      | _ => cases hma
    · have hma' : m.answers n = false := by simpa using hma
      obtain ⟨hcomp, hunder⟩ := accountStep_quiet hbox hms hma'
      -- the slot is kept: nothing starts, and the answer is to another query
      have hkeep : ((s.account a).handle m).1.pendingQuery = some p := by
        have hno := overwrites_account hbox hp hc
        have hstep := AccountActor.handle_pending (s.account a) m
        generalize ((s.account a).handle m).1.pendingQuery = q at hstep ⊢
        cases hstep with
        | query n' num hnum => simp [AccountMsg.startsQuery] at hno; omega
        | bill n' num hnum => simp [AccountMsg.startsQuery] at hno; omega
        | finished n' c con p' hp' hn' hlast =>
          obtain rfl : p = p' := Option.some.inj (hp.symm.trans hp')
          simp [AccountMsg.answers, ← hn', hn] at hma
        | collected n' c con p' hp' hn' hmore =>
          obtain rfl : p = p' := Option.some.inj (hp.symm.trans hp')
          simp [AccountMsg.answers, ← hn', hn] at hma
        | same => exact hp
      refine .collecting p (by rw [hacc, hkeep]) hn hpos hrem (by rwa [accountStep_rest])
        (hcomp.trans hnone) ?_
      intro c
      rw [hunder]
      exact hcount c
  | completed total spent hdone htotal hspent hnostart hcount =>
    rw [hbox] at hnostart
    have hma : m.answers n = false := by
      by_contra hans
      cases m with
      | cardQueryReply n' c con =>
        obtain rfl : n' = n := by simpa [AccountMsg.answers] using hans
        have hzero := hcount c
        unfold ActorDb.underway at hzero
        rw [hbox, List.countP_cons_of_pos (by simp [AccountMsg.answersFor])] at hzero
        omega
      | _ => exact hans rfl
    obtain ⟨hcomp, hunder⟩ := accountStep_quiet hbox (hnostart m List.mem_cons_self) hma
    refine .completed total spent (hcomp.trans hdone) htotal hspent ?_ ?_
    · rw [accountStep_rest]
      exact fun y hy => hnostart y (List.mem_cons_of_mem _ hy)
    · intro c
      rw [hunder]
      exact hcount c

/-! ## The other actors -/

/-- A card keeps the progress: its answers are to its own questions. -/
theorem Progress.card (hi : Progress s a n cards) {k : CardKey} {m : CardMsg}
    {rest : List CardMsg} (hbox : s.cardBox k = m :: rest) (hk : CardOrigin K k (s.card k))
    (hm : cardMsgOrigin K k m) : Progress (s.cardStep k m rest) a n cards := by
  refine hi.quiet rfl rfl ?_ ?_ ?_
  · intro x hx
    obtain ⟨y, hy, hyx⟩ := List.mem_filterMap.mp hx
    cases CardActor.handle_emits _ m y hy <;>
      simp only [Send.toAccount?, CardActor.completed, CardActor.applyCharge,
        Option.ite_none_right_eq_some, Option.some.injEq, reduceCtorEq] at hyx <;>
      obtain ⟨-, rfl⟩ := hyx <;> rfl
  · simp only [ActorDb.completions, ActorDb.cardStep, ActorDb.deliver, List.filterMap_append,
      CardActor.handle_completion, List.append_nil]
  · intro c
    unfold ActorDb.underway
    simp only [ActorDb.cardStep, ActorDb.deliver, List.countP_append, countP_toCard,
      countP_toAccount, CardActor.handle_onCard, Nat.add_zero]
    by_cases hka : k.1 = a
    · subst hka
      rw [CardActor.handle_answersFor hk hm]
      by_cases hkc : k.2 = c
      · subst hkc
        rw [Function.update_self, hbox, List.countP_cons]
        simp only [and_true]
        omega
      · have hne : (k.1, c) ≠ k := fun he => hkc (congrArg Prod.snd he).symm
        rw [Function.update_of_ne hne, if_neg fun h => hkc h.2]
        rfl
    · have hne : (a, c) ≠ k := fun he => hka (congrArg Prod.fst he).symm
      rw [Function.update_of_ne hne, CardActor.handle_onAccount _ _ _ (by rwa [hk.accountId])]
      rfl

/-- Another account keeps the progress: it neither starts nor answers a query of `a`. -/
theorem Progress.otherAccount (hi : Progress s a n cards) {b : AccountId} {m : AccountMsg}
    {rest : List AccountMsg} (hba : b ≠ a) (hstart : m.starts n = false)
    (hans : m.answers n = false) : Progress (s.accountStep b m rest) a n cards := by
  have hbox : (s.accountStep b m rest).accountBox a = s.accountBox a ++ [] := by
    rw [accountStep_box, Function.update_of_ne hba.symm, List.append_nil]
  refine hi.quiet (by simp [Function.update_of_ne hba.symm]) hbox (by simp) ?_ ?_
  · simp only [ActorDb.completions, ActorDb.accountStep, ActorDb.deliver, List.filterMap_append,
      AccountActor.handle_completion _ hstart hans, List.append_nil]
  · intro c
    unfold ActorDb.underway
    rw [hbox, List.append_nil]
    simp only [ActorDb.accountStep, ActorDb.deliver, List.countP_append, countP_toCard,
      AccountActor.handle_asks, Nat.add_zero]

theorem routerStep_completions (m : RouterMsg) (rest : List RouterMsg) :
    (s.routerStep m rest).completions n = s.completions n := by
  simp only [ActorDb.completions, ActorDb.routerStep, ActorDb.deliver,
    ActorRouter.handle_toRouter, List.append_nil]

/-- The router keeps the progress of `n` with any message but the command of `n`. -/
theorem Progress.router (hi : Progress s a n cards) {m : RouterMsg} {rest : List RouterMsg}
    (hm : m.executes n = false) : Progress (s.routerStep m rest) a n cards := by
  -- commands of other operations and reports are no matter of `n`
  have hzero : ∀ q : Send → Bool,
      (∀ n' o x, n' ≠ n → ActorRouter.Dispatches n' o x → q x = false) →
      (∀ ev, q (.event ev) = false) → (s.router.handle m).2.countP q = 0 := by
    intro q hq hev
    by_cases hexec : ∃ n' o, m = .execute n' o
    · obtain ⟨n', o, rfl⟩ := hexec
      have hn : n' ≠ n := by simpa [RouterMsg.executes] using hm
      exact ActorRouter.execute_countP fun x hx => hq n' o x hn hx
    · exact ActorRouter.handle_events (fun n' o he => hexec ⟨n', o, he⟩) hev
  have hstart : (s.router.handle m).2.countP (Send.onAccount a (AccountMsg.starts n)) = 0 :=
    hzero _ (fun n' o x hn hx => by
      cases hx <;> simp [Send.onAccount, AccountMsg.starts, hn]) fun _ => rfl
  refine hi.quiet rfl rfl ?_ ?_ ?_
  · intro y hy
    rw [← countP_toAccount, List.countP_eq_zero] at hstart
    simpa using hstart y hy
  · exact routerStep_completions m rest
  · intro c
    have hasks := hzero (Send.onCard (a, c) (CardMsg.asks n)) (fun n' o x hn hx => by
      cases hx <;> simp [Send.onCard, CardMsg.asks, hn]) fun _ => rfl
    have hans := hzero (Send.onAccount a (AccountMsg.answersFor n c)) (fun n' o x hn hx => by
      cases hx <;> simp [Send.onAccount, AccountMsg.answersFor]) fun _ => rfl
    simp only [ActorDb.underway, ActorDb.routerStep, ActorDb.deliver, List.countP_append,
      countP_toCard, countP_toAccount, hasks, hans, Nat.add_zero]

/-! ## The command -/

/-- What the command of a query or a bill sends. -/
theorem ActorRouter.execute_queries (r : ActorRouter) {billing : Bool} {o : Operation Amount}
    (ho : Queries a billing o) :
    ∃ start, (start = .startAccountQuery n (r.cardIds a).length ∨
        start = .startAccountBill n (r.cardIds a).length) ∧
      (r.handle (.execute n o)).2 = r.queryCards n a start billing := by
  cases billing with
  | true =>
    obtain ⟨period, rfl⟩ := ho
    exact ⟨_, Or.inr rfl, rfl⟩
  | false =>
    obtain rfl : o = .accountQuery a := ho
    exact ⟨_, Or.inl rfl, rfl⟩

/-- The questions of a query: one for each card of the account. -/
theorem ActorRouter.queryCards_toCard (r : ActorRouter) (start : AccountMsg) (billing : Bool)
    (c : CardId) :
    (r.queryCards n a start billing).countP (Send.onCard (a, c) (CardMsg.asks n)) =
      (r.cardIds a).count c := by
  unfold ActorRouter.queryCards
  rw [List.countP_cons_of_neg (by simp [Send.onCard]), List.countP_map, List.count]
  congr 1
  funext d
  simp [Send.onCard, CardMsg.asks]

theorem ActorRouter.queryCards_toAccount (r : ActorRouter) (start : AccountMsg)
    (billing : Bool) :
    (r.queryCards n a start billing).filterMap (Send.toAccount? a) = [start] := by
  have hcards : ∀ l : List CardId, (l.map fun c => Send.card (a, c)
      (.queryCardState n a billing)).filterMap (Send.toAccount? a) = [] := by
    intro l
    rw [List.filterMap_eq_nil_iff]
    intro x hx
    obtain ⟨c, -, rfl⟩ := List.mem_map.mp hx
    rfl
  unfold ActorRouter.queryCards
  simp only [List.filterMap_cons, Send.toAccount?, if_true, hcards]

/-- **The command of a query**: nothing of `n` is under way before it, and it asks every
    card the router knows for the account. -/
theorem Progress.command {billing : Bool} {o : Operation Amount} {rest : List RouterMsg}
    (ho : Queries a billing o) (hs : s.Started) (hfresh : s.router.operations n = none)
    (huntouched : (∀ k ∈ s.router.cards, k.1 ≠ a) →
      (s.account a).accountConsumed = 0 ∧ ∀ m ∈ s.accountBox a, m.isApply = false) :
    Progress (s.routerStep (.execute n o) rest) a n (s.router.cardIds a) := by
  have hnone : ∀ o, ¬ s.started n o := by
    intro o ho
    unfold ActorDb.started at ho
    rw [hfresh] at ho
    cases ho
  have hbox : ∀ m ∈ s.accountBox a, m.starts n = false ∧ m.answers n = false := by
    intro m hm
    have hno : ¬ (m.starts n = true ∨ m.answers n = true) := by
      intro hn
      obtain ⟨o', b, ho', -⟩ := accountMsgOrigin.queries (hs.accountBox a m hm) hn
      exact hnone o' ho'
    simpa using hno
  have hasks : ∀ c, ∀ m ∈ s.cardBox (a, c), m.asks n = false := by
    intro c m hm
    have horig := hs.cardBox (a, c) m hm
    cases m with
    | queryCardState n' a' b =>
      obtain ⟨-, o', ho', -⟩ := horig
      by_contra hne
      have hn : n' = n := by simpa [CardMsg.asks] using hne
      exact hnone _ (hn ▸ ho')
    | _ => rfl
  have hreported : s.completions n = [] := by
    unfold ActorDb.completions
    rw [List.filterMap_eq_nil_iff]
    intro m hm
    cases m with
    | accountQueryCompleted n' a' total spent =>
      obtain ⟨o', b, ho', -⟩ := hs.reported _ hm (by simp)
      have hn : n' ≠ n := fun he => hnone _ (he ▸ ho')
      simp [RouterMsg.completion?, hn]
    | _ => rfl
  obtain ⟨start, hstart, hsends⟩ := ActorRouter.execute_queries (n := n) s.router ho
  have hadded : (s.routerStep (.execute n o) rest).accountBox a = s.accountBox a ++ [start] := by
    simp only [ActorDb.routerStep, ActorDb.deliver, hsends, ActorRouter.queryCards_toAccount]
  refine .starting (s.accountBox a) start [] hadded hstart hbox (by simp) ?_ ?_ ?_
  · rw [routerStep_completions]
    exact hreported
  · intro c
    have hanswers : (s.accountBox a ++ [start]).countP (AccountMsg.answersFor n c) = 0 := by
      rw [List.countP_eq_zero]
      intro m hm hans
      obtain hm | hm := List.mem_append.mp hm
      · have := (hbox m hm).2
        rw [answersFor_answers hans] at this
        cases this
      · rw [List.mem_singleton.mp hm] at hans
        obtain rfl | rfl := hstart <;> cases hans
    have hzero : (s.cardBox (a, c)).countP (CardMsg.asks n) = 0 :=
      List.countP_eq_zero.mpr fun m hm => by simp [hasks c m hm]
    unfold ActorDb.underway
    rw [hadded, hanswers]
    simp only [ActorDb.routerStep, ActorDb.deliver, List.countP_append, countP_toCard, hsends,
      ActorRouter.queryCards_toCard, hzero]
    omega
  · intro hnil
    refine huntouched fun k hk hka => ?_
    have hmem : k.2 ∈ s.router.cardIds a :=
      List.mem_map.mpr ⟨k, List.mem_filter.mpr ⟨hk, by simpa using hka⟩, rfl⟩
    rw [hnil] at hmem
    cases hmem

/-! ## Runs -/

/-- An id is registered by its own command only, and stays registered. -/
theorem step_operations {l : Label} (n : OpId) (h : s.step l = some s') :
    s'.router.operations n = s.router.operations n ∨
      ∃ o rest, l = .router ∧ s.routerBox = .execute n o :: rest ∧
        s' = s.routerStep (.execute n o) rest ∧ s'.router.operations n = some o := by
  obtain ⟨n', o, rfl, rfl⟩ | ⟨m, rest, rfl, hbox, -, rfl⟩ | ⟨a, m, rest, rfl, -, rfl⟩ |
    ⟨k, m, rest, rfl, -, rfl⟩ := ActorDb.step_cases h
  · exact Or.inl rfl
  · by_cases hexec : ∃ n' o, m = .execute n' o
    · obtain ⟨n', o, rfl⟩ := hexec
      have hops : (s.routerStep (.execute n' o) rest).router.operations =
          Function.update s.router.operations n' (some o) :=
        ActorRouter.execute_operations s.router n' o
      rw [hops]
      by_cases hn : n' = n
      · subst hn
        exact Or.inr ⟨o, rest, rfl, hbox, rfl, Function.update_self ..⟩
      · exact Or.inl (Function.update_of_ne (Ne.symm hn) ..)
    · have hops : (s.routerStep m rest).router.operations = s.router.operations :=
        ActorRouter.handle_operations s.router m fun n' o he => hexec ⟨n', o, he⟩
      exact Or.inl (by rw [hops])
  · exact Or.inl rfl
  · exact Or.inl rfl

/-- A command is in the mailbox of the router until it is registered. -/
theorem registered_reaches {ls : List Label} (hr : run ActorDb.step ActorDb.init ls = some s) :
    ∀ c ∈ s.commands, .execute c.1 c.2 ∈ s.routerBox ∨ s.router.operations c.1 ≠ none := by
  refine run_induct (P := fun t => ∀ c ∈ t.commands,
    .execute c.1 c.2 ∈ t.routerBox ∨ t.router.operations c.1 ≠ none) ?_ hr
    (by simp [ActorDb.init])
  intro t l t' hi h c hc
  have hkeep : t.router.operations c.1 ≠ none → t'.router.operations c.1 ≠ none := by
    intro hreg
    obtain heq | ⟨o, rest, -, -, -, heq⟩ := step_operations c.1 h <;> rw [heq]
    · exact hreg
    · simp
  obtain ⟨n', o, rfl, rfl⟩ | ⟨m, rest, rfl, hbox, -, rfl⟩ | ⟨a, m, rest, rfl, -, rfl⟩ |
    ⟨k, m, rest, rfl, -, rfl⟩ := ActorDb.step_cases h
  · obtain hc | hc := List.mem_append.mp hc
    · exact (hi c hc).imp (List.mem_append_left _) hkeep
    · rw [List.mem_singleton.mp hc]
      exact Or.inl (List.mem_append_right _ (List.mem_singleton_self _))
  · obtain hmem | hreg := hi c hc
    · rw [hbox] at hmem
      obtain rfl | hmem := List.mem_cons.mp hmem
      · refine Or.inr ?_
        have hops : (t.routerStep (.execute c.1 c.2) rest).router.operations =
            Function.update t.router.operations c.1 (some c.2) :=
          ActorRouter.execute_operations t.router c.1 c.2
        rw [hops, Function.update_self]
        simp
      · exact Or.inl (List.mem_append_left _ hmem)
    · exact Or.inr (hkeep hreg)
  · exact (hi c hc).imp (List.mem_append_left _) hkeep
  · exact (hi c hc).imp (List.mem_append_left _) hkeep

/-- The progress of a query over a step that overwrites none. -/
theorem Progress.step {billing : Bool} {o : Operation Amount} {l : Label}
    (huniq : ∀ o', K n o' → o' = o) (ho : Queries a billing o)
    (hrep : ∀ n snapshot, ¬ K n (.replaceDatabase snapshot)) (horig : (originInv K).Holds s)
    (hnew : ∀ o rest, s.routerBox ≠ .execute n o :: rest) (hc : s.Overwrites l = false)
    (hi : Progress s a n cards) (h : s.step l = some s') : Progress s' a n cards := by
  obtain ⟨n', o', rfl, rfl⟩ | ⟨m, rest, rfl, hbox, -, rfl⟩ | ⟨b, m, rest, rfl, hbox, rfl⟩ |
    ⟨k, m, rest, rfl, hbox, rfl⟩ := ActorDb.step_cases h
  · exact hi.quiet rfl (List.append_nil _).symm (by simp) rfl fun _ => rfl
  · refine hi.router ?_
    cases m with
    | execute n' o' =>
      have hn : n' ≠ n := by
        rintro rfl
        exact hnew o' rest hbox
      simpa [RouterMsg.executes] using hn
    | _ => rfl
  · have hm := horig.accountBox b m (by rw [hbox]; exact List.mem_cons_self)
    by_cases hba : b = a
    · subst hba
      refine hi.handle hbox hc ?_ (horig.account b).1
      rintro lim con rfl
      obtain ⟨n', snapshot, hko, -⟩ := hm
      exact hrep n' snapshot hko
    · have hno : ¬ (m.starts n = true ∨ m.answers n = true) := by
        intro hn
        obtain ⟨o', b', ho', hq⟩ := accountMsgOrigin.queries hm hn
        rw [huniq o' ho'] at hq
        exact hba (Queries.unique hq ho)
      simp only [not_or, Bool.not_eq_true] at hno
      exact hi.otherAccount hba hno.1 hno.2
  · exact hi.card hbox (horig.card k) (horig.cardBox k m (by rw [hbox]; exact List.mem_cons_self))

/-- At rest a query is complete. -/
theorem Progress.quiescent (hi : Progress s a n cards) (hq : s.Quiescent) :
    ∃ total spent, s.completions n = [(a, total, spent)] ∧
      total = AccountActor.totalSpent spent ∧ (spent.map Prod.fst).Perm cards := by
  cases hi with
  | starting pre start post hbox =>
    rw [hq.account] at hbox
    simp at hbox
  | collecting p hp hn hpos hrem hnostart hnone hcount =>
    -- nothing is under way, so all cards are gathered and none remains
    have hall : (p.perCardSpent.map Prod.fst).Perm cards := by
      refine List.perm_iff_count.mpr fun c => ?_
      have hzero : s.underway a n c = 0 := by
        unfold ActorDb.underway
        rw [hq.card, hq.account]
        rfl
      have h := hcount c
      omega
    have hlen := hall.length_eq
    rw [List.length_map] at hlen
    omega
  | completed total spent hdone htotal hspent => exact ⟨total, spent, hdone, htotal, hspent⟩

end

variable {s : ActorDb}

/-- The query or bill `n` of account `a` was handled somewhere along the run `ls`, and has
    completed once: over the cards the router knew then, each once, with their sum. -/
def CompletedOnce (ls : List Label) (s : ActorDb) (n : OpId) (o : Operation Amount)
    (a : AccountId) : Prop :=
  ∃ ks t rest ms total spent, ls = ks ++ .router :: ms ∧
    run ActorDb.step ActorDb.init ks = some t ∧ t.routerBox = .execute n o :: rest ∧
    s.completions n = [(a, total, spent)] ∧ (spent.map Prod.fst).Nodup ∧
    (∀ c, c ∈ spent.map Prod.fst ↔ (a, c) ∈ t.router.cards) ∧
    total = (spent.map Prod.snd).sum

/-- **Queries and bills complete.** In a run where no query or bill takes the slot of one
    its account still collects, at rest every query and every bill has completed once. -/
theorem queries_complete {ls : List Label} (hr : run ActorDb.step ActorDb.init ls = some s)
    (hc : Meets ActorDb.step (fun t l => t.Overwrites l = false) ActorDb.init ls)
    (hid : (s.commands.map Prod.fst).Nodup) (hrep : s.NoReplace) (hq : s.Quiescent) :
    ∀ n o a billing, (n, o) ∈ s.commands → Queries a billing o → CompletedOnce ls s n o a := by
  intro n o a billing hn ho
  -- the step at which the router handles the command
  have hreg : s.router.operations n ≠ none := by
    obtain hmem | hreg := registered_reaches hr (n, o) hn
    · rw [hq.router] at hmem
      cases hmem
    · exact hreg
  obtain ⟨ks, t, l, t', ms, rfl, hks, hbefore, hstep, hafter, hms⟩ :=
    exists_change (P := fun t => t.router.operations n ≠ none) hr (by simp [ActorDb.init,
      ActorRouter.new]) hreg
  obtain ⟨hcks, hcms⟩ := (meets_append hks).mp hc
  have hcms' := ((meets_cons hstep).mp hcms).2
  have hsub' : t'.commands <+: s.commands := run_commands hms
  have hsub : t.commands <+: s.commands := (ActorDb.step_commands hstep).trans hsub'
  obtain heq | ⟨o', rest, rfl, hbox, rfl, -⟩ := step_operations n hstep
  · exact absurd (heq ▸ hafter) hbefore
  obtain ⟨horig, hcons⟩ := meets_induct hks hcks (P := KeepsBooks t.operationOf a) origin_init
    KeepsBooks.init fun u l u' ho hsub' hcl hi h =>
      hi.step (hid.sublist (hsub.sublist.map _)) (fun n x hx => hrep n x (hsub.subset hx)) ho
        hsub' (not_overwritesBill hcl) h
  obtain rfl : o' = o := by
    have hmem : (n, o') ∈ t.commands :=
      horig.routerBox (.execute n o') (by rw [hbox]; exact List.mem_cons_self)
    exact command_unique hid (hsub.subset hmem) hn
  have hbegin : Progress (t.routerStep (.execute n o') rest) a n (t.router.cardIds a) :=
    Progress.command ho hcons.started (not_not.mp hbefore) hcons.bills.untouched
  -- from there on the progress is kept
  have hone : s.commanded n = 1 := commanded_eq_one hid hn
  have horig' := origin_reaches ⟨_, run_concat.mpr ⟨t, hks, hstep⟩⟩
  obtain ⟨-, -, -, hdone⟩ := meets_induct hms hcms' (P := fun u => CommandBook n u ∧
      u.router.operations n ≠ none ∧ Progress u a n (t.router.cardIds a))
    (originInv_mono (fun _ _ h => hsub'.subset h) horig')
    ⟨(hcons.command n).step hstep, hafter, hbegin⟩ (by
      rintro u l u' ho' hsubu hcl ⟨hbook, hregu, hi⟩ h
      refine ⟨hbook.step h, ?_, hi.step (K := fun n o => (n, o) ∈ s.commands)
        (fun o'' h'' => command_unique hid h'' hn) ho hrep ho' ?_ hcl h⟩
      · obtain heq | ⟨o'', rest', -, -, -, heq⟩ := step_operations n h <;> rw [heq]
        · exact hregu
        · simp
      · intro o'' rest' hbox'
        refine hregu (hbook.fresh hbox' ?_)
        rw [← hone]
        exact (((ActorDb.step_commands h).trans hsubu).sublist).countP_le)
  obtain ⟨total, spent, hcomp, htotal, hspent⟩ := hdone.quiescent hq
  rw [totalSpent_eq_sum] at htotal
  refine ⟨ks, t, rest, ms, total, spent, rfl, hks, hbox, hcomp, ?_, ?_, htotal⟩
  · exact hspent.nodup_iff.mpr (cardIds_nodup _ _)
  · intro c
    rw [hspent.mem_iff, mem_cardIds]

/-- A charge, its bill, and a query that starts when the bill is collected. -/
theorem queries_complete_example :
    ∃ ls s, run ActorDb.step ActorDb.init ls = some s ∧
      s.completions 2 = [(1, 60, [(7, 60)])] ∧ CompletedOnce ls s 2 (.bill 1 none) 1 ∧
      CompletedOnce ls s 3 (.accountQuery 1) 1 := by
  have hrun : (run ActorDb.step ActorDb.init
      [.execute 1 (.charge 1 7 60 false), .execute 2 (.bill 1 none), .router, .card (1, 7),
        .account 1, .card (1, 7), .router, .router, .account 1, .card (1, 7), .account 1,
        .execute 3 (.accountQuery 1), .router, .router, .account 1, .card (1, 7), .account 1,
        .router]).any (fun s =>
          s.commands = [(1, .charge 1 7 60 false), (2, .bill 1 none), (3, .accountQuery 1)] ∧
          s.Drained ∧ s.completions 2 = [(1, 60, [(7, 60)])]) = true := by
    decide +kernel
  obtain ⟨s, hs, hp⟩ := (Option.any_eq_true _ _).mp hrun
  obtain ⟨hcmd, hd, hbill⟩ := of_decide_eq_true hp
  have hq : s.Quiescent := quiescent_of_known (known_reaches ⟨_, hs⟩) hd
  have hrep : s.NoReplace := by
    unfold ActorDb.NoReplace
    rw [hcmd]
    simp
  have hall := queries_complete hs (by decide +kernel) (by rw [hcmd]; decide) hrep hq
  exact ⟨_, s, hs, hbill, hall 2 _ 1 true (by simp [hcmd]) ⟨none, rfl⟩,
    hall 3 _ 1 false (by simp [hcmd]) rfl⟩

/-- **A query can be lost.** The second query takes the slot of the first before the card
    answers, and the answer to the first finds nobody. -/
theorem queries_not_complete :
    ¬ ∀ (ls : List Label) (s : ActorDb), run ActorDb.step ActorDb.init ls = some s →
      (s.commands.map Prod.fst).Nodup → s.NoReplace → s.Quiescent →
      ∀ n o a billing, (n, o) ∈ s.commands → Queries a billing o → CompletedOnce ls s n o a := by
  intro hall
  have hrun : (run ActorDb.step ActorDb.init
      [.execute 1 (.limitCard 1 7 none), .execute 2 (.accountQuery 1),
        .execute 3 (.accountQuery 1), .router, .card (1, 7), .router, .router, .account 1,
        .account 1, .card (1, 7), .card (1, 7), .account 1, .account 1, .router, .router,
        .router]).any (fun s =>
          s.commands = [(1, .limitCard 1 7 none), (2, .accountQuery 1), (3, .accountQuery 1)] ∧
          s.Drained ∧ s.completions 2 = []) = true := by
    decide +kernel
  obtain ⟨s, hs, hp⟩ := (Option.any_eq_true _ _).mp hrun
  obtain ⟨hcmd, hd, hnone⟩ := of_decide_eq_true hp
  have hq : s.Quiescent := quiescent_of_known (known_reaches ⟨_, hs⟩) hd
  have hrep : s.NoReplace := by
    unfold ActorDb.NoReplace
    rw [hcmd]
    simp
  obtain ⟨-, -, -, -, total, spent, -, -, -, hdone, -⟩ := hall _ s hs (by rw [hcmd]; decide) hrep
    hq 2 (.accountQuery 1) 1 false (by simp [hcmd]) rfl
  rw [hnone] at hdone
  cases hdone

end YpfRuta.Actors
