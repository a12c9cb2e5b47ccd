/-
  At most one result for each command. A command is worth one result, and so is whatever
  it turns into: a task of its card, a query its account collects, a snapshot the router
  assembles, a report on its way to the router. No step makes two of one, and some drop it:
  a later query of the account, a snapshot that is installed on the card.
-/
import YpfRuta.Actors.Books
import YpfRuta.Actors.Results
import YpfRuta.Actors.Serial

namespace YpfRuta.Actors

open Lib

section

variable {Amount : Type} [Currency Amount]

variable {n : OpId}

/-! ## What is worth a result -/

def RouterMsg.owes (n : OpId) : RouterMsg → Bool
  | .execute n' _ => n' == n
  | .operationCompleted n' _ _ => n' == n
  | .accountQueryCompleted n' _ _ _ => n' == n
  | _ => false

def AccountMsg.owes (n : OpId) : AccountMsg → Bool
  | .applyAccountLimit n' _ => n' == n
  | .startAccountQuery n' _ => n' == n
  | .startAccountBill n' _ => n' == n
  | _ => false

/-- The account collects the answers of `n`. -/
def AccountActor.owes (x : AccountActor) (n : OpId) : Bool :=
  x.pendingQuery.any fun p => p.opId == n

/-- The router assembles the snapshot `n`. -/
def ActorRouter.owes (r : ActorRouter) (n : OpId) : Bool := (r.pendingDbSnapshots n).isSome

/-- The results there are for `n` and those still to come, when card `k` and account `a` are
    those of its operation. -/
def ActorDb.shares (s : ActorDb) (n : OpId) (k : CardKey) (a : AccountId) : Nat :=
  s.events.countP (ActorEvent.results n) + s.routerBox.countP (RouterMsg.owes n) +
    (s.router.owes n).toNat + (s.accountBox a).countP (AccountMsg.owes n) +
    ((s.account a).owes n).toNat + (s.cardBox k).countP (CardMsg.brings n) + (s.card k).tasks n

@[simp] theorem countP_toNode (xs : List Send) (p : ActorEvent → Bool) :
    (xs.filterMap Send.toNode?).countP p = xs.countP (Send.onNode p) := by
  rw [List.countP_filterMap]
  congr 1
  funext x
  cases x <;> rfl

/-! ## One message -/

/-- **An account** makes at most one report of what it was brought or has collected. -/
theorem AccountActor.handle_owes (n : OpId) (x : AccountActor) (m : AccountMsg) :
    ((x.handle m).1.owes n).toNat + (x.handle m).2.countP (Send.onRouter (RouterMsg.owes n)) ≤
      (if m.owes n then 1 else 0) + (x.owes n).toNat := by
  cases m with
  | applyChargeFromCard n' amount c off k =>
    simp only [handle]
    obtain ⟨-, heq⟩ | ⟨-, -, err, heq⟩ := applyChargeFromCard_cases x n' amount c off k <;>
      rw [heq] <;> simp [Send.onRouter, owes]
  | applyAccountLimit n' lim =>
    simp only [handle]
    obtain ⟨-, heq⟩ | ⟨err, -, heq⟩ := applyAccountLimit_cases x n' lim <;>
      rw [heq] <;> simp [Send.onRouter, RouterMsg.owes, AccountMsg.owes, owes,
        List.countP_cons, Nat.add_comm]
  | startAccountQuery n' num =>
    simp only [handle, startAccountQuery, AccountMsg.owes]
    split
    · simp [Send.onRouter, RouterMsg.owes, owes, List.countP_cons, Nat.add_comm]
    · by_cases hn : n' = n
      · simp [owes, hn]
      · simp [owes, beq_false_of_ne hn]
  | startAccountBill n' num =>
    simp only [handle, startAccountBill, AccountMsg.owes]
    split
    · simp [Send.onRouter, RouterMsg.owes, owes, List.countP_cons, Nat.add_comm]
    · by_cases hn : n' = n
      · simp [owes, hn]
      · simp [owes, beq_false_of_ne hn]
  | cardQueryReply n' c con =>
    simp only [handle, AccountMsg.owes]
    obtain ⟨p, hp, -, heq⟩ | ⟨-, heq⟩ := cardQueryReply_cases x n' c con
    · rw [heq]
      obtain ⟨-, heq⟩ | ⟨-, heq⟩ := collectReply_cases x p c con <;>
        rw [heq] <;> by_cases hn : p.opId = n <;>
          simp [Send.onRouter, RouterMsg.owes, owes, hp, hn]
    · rw [heq]
      simp [unexpectedReply, Send.onRouter, RouterMsg.owes]
  | getSnapshot n' => simp [handle, Send.onRouter, RouterMsg.owes]
  | replaceState lim con => simp [handle, owes]

theorem CardActor.countP_owes (c : CardActor) (m : CardMsg) (n : OpId) :
    (c.handle m).2.countP (Send.onRouter (RouterMsg.owes n)) =
      (c.handle m).2.countP (Send.onRouter (RouterMsg.completes n)) := by
  refine List.countP_congr fun x hx => ?_
  cases handle_emits c m x hx <;> rfl

/-- **A card** makes one report of each task, but for those a snapshot discards. -/
theorem CardActor.handle_owes (n : OpId) (c : CardActor) (m : CardMsg) :
    (c.handle m).1.tasks n + (c.handle m).2.countP (Send.onRouter (RouterMsg.owes n)) ≤
      (if m.brings n then 1 else 0) + c.tasks n := by
  rw [countP_owes]
  by_cases hm : ∃ lim con, m = .replaceState lim con
  · obtain ⟨lim, con, rfl⟩ := hm
    simp [handle, tasks]
  · exact Nat.le_of_eq (handle_tasks n c m fun lim con he => hm ⟨lim, con, he⟩).symm

namespace ActorRouter

theorem execute_owes_ne (r : ActorRouter) {n n' : OpId} (hn : n' ≠ n) (o : Operation Amount) :
    (r.execute n' o).1.owes n = r.owes n := by
  unfold owes
  by_cases ho : ∃ addr, o = .getDatabase addr
  · obtain ⟨addr, rfl⟩ := ho
    simp only [execute, executeGetDatabase]
    split
    · rfl
    · dsimp only
      rw [Function.update_of_ne hn.symm]
  · rw [execute_pending r n' fun addr he => ho ⟨addr, he⟩]

/-- The questions of a query are worth nothing, its start is. -/
theorem queryCards_owes (r : ActorRouter) (n : OpId) (b a : AccountId) (start : AccountMsg)
    (reset : Bool) (k : CardKey) :
    (r.queryCards n b start reset).countP (Send.onNode (ActorEvent.results n)) = 0 ∧
      (r.queryCards n b start reset).countP (Send.onAccount a (AccountMsg.owes n)) ≤ 1 ∧
      (r.queryCards n b start reset).countP (Send.onCard k (CardMsg.brings n)) = 0 := by
  unfold queryCards
  simp only [List.countP_cons, List.countP_map]
  refine ⟨?_, ?_, ?_⟩
  · simp [Function.comp_def, Send.onNode]
  · have hzero : (r.cardIds b).countP (Send.onAccount a (AccountMsg.owes n) ∘ fun c =>
        .card (b, c) (.queryCardState n b reset)) = 0 := by
      simp [Function.comp_def, Send.onAccount]
    rw [hzero]
    split <;> omega
  · simp [Function.comp_def, Send.onCard, CardMsg.brings]

/-- **The router** has one share to give for a command. -/
theorem execute_owes (r : ActorRouter) (n : OpId) (o : Operation Amount) (k : CardKey)
    (a : AccountId) :
    ((r.execute n o).1.owes n).toNat +
      (r.execute n o).2.countP (Send.onNode (ActorEvent.results n)) +
      (r.execute n o).2.countP (Send.onAccount a (AccountMsg.owes n)) +
      (r.execute n o).2.countP (Send.onCard k (CardMsg.brings n)) ≤ 1 + (r.owes n).toNat := by
  have hkeep : (∀ addr, o ≠ .getDatabase addr) → (r.execute n o).1.owes n = r.owes n := by
    intro ho
    unfold owes
    rw [execute_pending r n ho]
  have hle : ∀ (p : Send → Bool) (x : Send), [x].countP p ≤ 1 := fun p x => List.countP_le_length
  cases o with
  | charge b c amount off =>
    rw [hkeep fun _ h => by cases h]
    have hcard := hle (Send.onCard k (CardMsg.brings n))
      (.card (b, c) (.executeCharge n b c amount off))
    show (r.owes n).toNat + 0 + 0 + _ ≤ _
    rw [Nat.add_comm]
    exact Nat.add_le_add_right hcard _
  | limitAccount b lim =>
    rw [hkeep fun _ h => by cases h]
    have haccount := hle (Send.onAccount a (AccountMsg.owes n))
      (.account b (.applyAccountLimit n lim))
    show (r.owes n).toNat + 0 + _ + 0 ≤ _
    rw [Nat.add_comm 1]
    exact Nat.add_le_add_left haccount _
  | limitCard b c lim =>
    rw [hkeep fun _ h => by cases h]
    have hcard := hle (Send.onCard k (CardMsg.brings n))
      (.card (b, c) (.executeLimitChange n lim))
    show (r.owes n).toNat + 0 + 0 + _ ≤ _
    rw [Nat.add_comm]
    exact Nat.add_le_add_right hcard _
  | accountQuery b =>
    rw [hkeep fun _ h => by cases h]
    simp only [execute, executeAccountQuery]
    obtain ⟨hnode, haccount, hcard⟩ := queryCards_owes _ n b a _ false k
    rw [hnode, hcard, Nat.add_comm 1]
    exact Nat.add_le_add_left haccount _
  | bill b period =>
    rw [hkeep fun _ h => by cases h]
    simp only [execute, executeBill]
    obtain ⟨hnode, haccount, hcard⟩ := queryCards_owes _ n b a _ true k
    rw [hnode, hcard, Nat.add_comm 1]
    exact Nat.add_le_add_left haccount _
  | getDatabase addr =>
    simp only [execute, executeGetDatabase]
    split
    · simp [owes, Send.onNode, Send.onAccount, Send.onCard, ActorEvent.results,
        Nat.add_comm]
    · simp [owes, Function.comp_def, Send.onNode, Send.onAccount, Send.onCard, AccountMsg.owes,
        CardMsg.brings, List.countP_map]
  | replaceDatabase snapshot =>
    rw [hkeep fun _ h => by cases h]
    simp [execute, executeReplaceDatabase, Function.comp_def, Send.onNode, Send.onAccount,
      Send.onCard, AccountMsg.owes, CardMsg.brings, ActorEvent.results, List.countP_map,
      Nat.add_comm]

/-- A snapshot that is complete is gone when its result is sent. -/
theorem tryComplete_owes (r : ActorRouter) (n n' : OpId) :
    ((r.tryCompleteDbSnapshot n').1.owes n).toNat +
      (r.tryCompleteDbSnapshot n').2.countP (Send.onNode (ActorEvent.results n)) ≤
        (r.owes n).toNat := by
  unfold tryCompleteDbSnapshot
  split
  · simp
  · rename_i p hp
    dsimp only
    split
    · by_cases hn : n' = n
      · subst hn
        split <;> simp [owes, hp, Send.onNode, ActorEvent.results]
      · have hkeep : ({ r with
            pendingDbSnapshots := Function.update r.pendingDbSnapshots n' none } :
              ActorRouter).owes n = r.owes n := by
          unfold owes
          dsimp only
          rw [Function.update_of_ne (Ne.symm hn)]
        split <;> simp [hkeep, Send.onNode, ActorEvent.results, hn]
    · simp

/-- A fragment changes nothing in what is being assembled. -/
theorem collect_owes (r : ActorRouter) (n n' : OpId) {p p' : PendingDatabaseSnapshot}
    (hp : r.pendingDbSnapshots n' = some p) :
    ({ r with
      pendingDbSnapshots := Function.update r.pendingDbSnapshots n' (some p') } :
        ActorRouter).owes n = r.owes n := by
  unfold owes
  dsimp only
  by_cases hn : n = n'
  · subst hn
    simp [hp]
  · rw [Function.update_of_ne hn]

/-- **The router** makes one result of a report. -/
theorem report_owes (r : ActorRouter) (n : OpId) {m : RouterMsg} (hm : ∀ n o, m ≠ .execute n o) :
    ((r.handle m).1.owes n).toNat + (r.handle m).2.countP (Send.onNode (ActorEvent.results n)) ≤
      (if m.owes n then 1 else 0) + (r.owes n).toNat := by
  cases m with
  | execute n' o => exact absurd rfl (hm n' o)
  | getLog => simp [handle, Send.onNode, ActorEvent.results]
  | debug text => simp [handle, Send.onNode, ActorEvent.results]
  | operationCompleted n' b e =>
    simp only [handle, operationCompleted, RouterMsg.owes]
    split
    · simp [Send.onNode, ActorEvent.results]
    · split
      · by_cases hn : n' = n
        · simp [hn, Send.onNode, ActorEvent.results, Nat.add_comm]
        · simp [hn, Send.onNode, ActorEvent.results]
      · simp [owes]
  | accountQueryCompleted n' a t l =>
    simp only [handle, accountQueryCompleted, RouterMsg.owes]
    split
    · simp [Send.onNode, ActorEvent.results]
    · by_cases hn : n' = n
      · simp [hn, Send.onNode, ActorEvent.results, Nat.add_comm]
      · simp [hn, Send.onNode, ActorEvent.results]
  | accountSnapshotCollected n' x =>
    simp only [handle, accountSnapshotCollected]
    split
    · rename_i p hp
      refine (tryComplete_owes _ n n').trans ?_
      rw [collect_owes r n n' hp]
      exact Nat.le_add_left _ _
    · simp [Send.onNode, ActorEvent.results]
  | cardSnapshotCollected n' x =>
    simp only [handle, cardSnapshotCollected]
    split
    · rename_i p hp
      refine (tryComplete_owes _ n n').trans ?_
      rw [collect_owes r n n' hp]
      exact Nat.le_add_left _ _
    · simp [Send.onNode, ActorEvent.results]

theorem handle_owes (r : ActorRouter) (n : OpId) (m : RouterMsg) (k : CardKey) (a : AccountId) :
    ((r.handle m).1.owes n).toNat + (r.handle m).2.countP (Send.onNode (ActorEvent.results n)) +
      (r.handle m).2.countP (Send.onAccount a (AccountMsg.owes n)) +
      (r.handle m).2.countP (Send.onCard k (CardMsg.brings n)) ≤
        (if m.owes n then 1 else 0) + (r.owes n).toNat := by
  by_cases hm : ∃ n' o, m = .execute n' o
  · obtain ⟨n', o, rfl⟩ := hm
    simp only [handle, RouterMsg.owes, beq_iff_eq]
    by_cases hn : n' = n
    · subst hn
      rw [if_pos rfl]
      exact execute_owes r n' o k a
    · rw [if_neg hn, execute_owes_ne r hn, execute_countP, execute_countP, execute_countP]
      · omega
      · intro x hx
        cases hx <;> simp [Send.onCard, CardMsg.brings, hn]
      · intro x hx
        cases hx <;> simp [Send.onAccount, AccountMsg.owes, hn]
      · intro x hx
        cases hx <;> simp [Send.onNode, ActorEvent.results, hn]
  · have hne : ∀ n o, m ≠ .execute n o := fun n o he => hm ⟨n, o, he⟩
    rw [handle_events (p := Send.onAccount a (AccountMsg.owes n)) hne fun _ => rfl,
      handle_events (p := Send.onCard k (CardMsg.brings n)) hne fun _ => rfl]
    exact report_owes r n hne

end ActorRouter

/-! ## Runs -/

/-- The card and the account a command works on, if any. -/
def Home (K : OpId → Operation Amount → Prop) (n : OpId) (k : CardKey) (a : AccountId) : Prop :=
  ∀ o, K n o → (∀ j, cardKey? o = some j → j = k) ∧ ∀ b, accountOf? o = some b → b = a

section Step

variable {K : OpId → Operation Amount → Prop} {k : CardKey} {a : AccountId} {s s' : ActorDb}
  {l : Label}

/-- Another account has nothing to report for `n`. -/
theorem Home.account_owes (h : Home K n k a) {b : AccountId} (hb : b ≠ a) {x : AccountActor}
    {m : AccountMsg} (hx : (originInv K).account b x) (hm : accountMsgOrigin K b m) :
    (x.handle m).2.countP (Send.onRouter (RouterMsg.owes n)) = 0 := by
  have hno : ∀ o, K n o → accountOf? o ≠ some b := fun o ho he => hb ((h o ho).2 b he)
  have hmsg : m.owes n = false := by
    by_contra hne
    cases m with
    | applyAccountLimit n' lim =>
      obtain rfl : n' = n := by simpa [AccountMsg.owes] using hne
      exact hno _ hm rfl
    | startAccountQuery n' num =>
      obtain rfl : n' = n := by simpa [AccountMsg.owes] using hne
      exact hno _ hm rfl
    | startAccountBill n' num =>
      obtain rfl : n' = n := by simpa [AccountMsg.owes] using hne
      obtain ⟨period, hm⟩ := hm
      exact hno _ hm rfl
    | _ => exact hne rfl
  have hslot : x.owes n = false := by
    unfold AccountActor.owes
    cases hp : x.pendingQuery with
    | none => rfl
    | some p =>
      obtain ⟨o, ho, hq⟩ := hx.2 p hp
      have hne : p.opId ≠ n := by
        rintro rfl
        refine hno o ho ?_
        unfold Queries at hq
        split at hq
        · obtain ⟨period, rfl⟩ := hq
          rfl
        · obtain rfl := hq
          rfl
      simp [hne]
  have hle := x.handle_owes n m
  rw [hmsg, hslot] at hle
  simp only [Bool.false_eq_true, if_false, Bool.toNat_false] at hle
  omega

/-- Another card has nothing to report for `n`. -/
theorem Home.card_owes (h : Home K n k a) {j : CardKey} (hj : j ≠ k) {c : CardActor} {m : CardMsg}
    (hc : CardOrigin K j c) (hm : cardMsgOrigin K j m) :
    (c.handle m).2.countP (Send.onRouter (RouterMsg.owes n)) = 0 := by
  have hno : ∀ o, K n o → cardKey? o ≠ some j := fun o ho he => hj ((h o ho).1 j he)
  have hle := c.handle_owes n m
  rw [hm.brings_eq_false hno, hc.tasks_eq_zero hno] at hle
  simp only [Bool.false_eq_true, if_false] at hle
  omega

/-- **No step makes two of one.** -/
theorem shares_step (h : Home K n k a) (ho : (originInv K).Holds s) (hs : s.step l = some s') :
    s'.shares n k a + s.commanded n ≤ s.shares n k a + s'.commanded n := by
  unfold ActorDb.shares ActorDb.commanded
  obtain ⟨n', o, rfl, rfl⟩ | ⟨m, rest, rfl, hbox, -, rfl⟩ | ⟨b, m, rest, rfl, hbox, rfl⟩ |
    ⟨j, m, rest, rfl, hbox, rfl⟩ := ActorDb.step_cases hs
  · simp only [ActorDb.execute, List.countP_append, List.countP_singleton, RouterMsg.owes, beq_iff_eq]
    omega
  · have hle := s.router.handle_owes n m k a
    simp only [ActorDb.routerStep, ActorDb.deliver, List.countP_append, countP_toRouter,
      countP_toAccount, countP_toCard, countP_toNode, ActorRouter.handle_onRouter, hbox,
      List.countP_cons]
    omega
  · have hm := ho.accountBox b m (by rw [hbox]; exact List.mem_cons_self)
    simp only [ActorDb.accountStep, ActorDb.deliver, List.countP_append, countP_toRouter,
      countP_toAccount, countP_toCard, AccountActor.handle_toNode, AccountActor.handle_brings,
      AccountActor.handle_onAccount, List.countP_nil]
    by_cases hb : a = b
    · subst hb
      have hle := (s.account a).handle_owes n m
      simp only [Function.update_self, hbox, List.countP_cons]
      omega
    · have hzero := h.account_owes (Ne.symm hb) (ho.account b) hm
      simp only [Function.update_of_ne hb, hzero]
      omega
  · have hm := ho.cardBox j m (by rw [hbox]; exact List.mem_cons_self)
    have haccount : (s.card j |>.handle m).2.countP (Send.onAccount a (AccountMsg.owes n)) = 0 :=
      CardActor.handle_elsewhere _ m _ fun x hx => by
        cases hx <;> simp [CardActor.applyCharge, CardActor.completed, Send.onAccount,
          AccountMsg.owes]
    simp only [ActorDb.cardStep, ActorDb.deliver, List.countP_append, countP_toRouter,
      countP_toAccount, countP_toCard, CardActor.handle_toNode, CardActor.handle_onCard,
      haccount, List.countP_nil]
    by_cases hk : k = j
    · subst hk
      have hle := (s.card k).handle_owes n m
      simp only [Function.update_self, hbox, List.countP_cons]
      omega
    · have hzero := h.card_owes (Ne.symm hk) (ho.card j) hm
      simp only [Function.update_of_ne hk, hzero]
      omega

end Step

section Runs

variable {s : ActorDb}

theorem commanded_eq_count (s : ActorDb) (n : OpId) :
    s.commanded n = (s.commands.map Prod.fst).count n := by
  unfold ActorDb.commanded
  rw [List.count, List.countP_map]
  rfl

/-- With different ids, a command has one card and one account. -/
theorem home_of_command (hid : (s.commands.map Prod.fst).Nodup) {o : Operation Amount}
    (hn : (n, o) ∈ s.commands) :
    Home (fun n o => (n, o) ∈ s.commands) n ((cardKey? o).getD (0, 0))
      ((accountOf? o).getD 0) := by
  intro o' ho'
  obtain rfl := command_unique hid ho' hn
  refine ⟨fun j hj => ?_, fun b hb => ?_⟩
  · rw [hj]
    rfl
  · rw [hb]
    rfl

theorem once_reaches (hr : Reaches ActorDb.step ActorDb.init s)
    (hid : (s.commands.map Prod.fst).Nodup) (n : OpId) :
    s.events.countP (ActorEvent.results n) ≤ (s.commands.map Prod.fst).count n := by
  by_cases hn : ∃ o, (n, o) ∈ s.commands
  · obtain ⟨o, ho⟩ := hn
    have hhome := home_of_command hid ho
    have hshares := (reaches_induct hr
      (P := fun t => t.shares n ((cardKey? o).getD (0, 0)) ((accountOf? o).getD 0) ≤ t.commanded n)
      origin_init (Nat.zero_le _) fun t l t' horigin _ hi h => by
        have hstep := shares_step hhome horigin h
        omega).2
    rw [← commanded_eq_count]
    unfold ActorDb.shares at hshares
    omega
  · have hnone : s.events.countP (ActorEvent.results n) = 0 := by
      rw [List.countP_eq_zero]
      intro e he hres
      cases e with
      | debug text => cases hres
      | operationResult n' o res b err =>
        obtain rfl : n' = n := by simpa [ActorEvent.results] using hres
        exact hn ⟨o, (origin_reaches hr).events _ he⟩
    omega

/-- **At most one result for each command.** In every run under distinct ids, whatever its
    operations and however they overlap, an id has at most one result, and none if no
    command was sent under it; snapshots that discard tasks and queries that displace each
    other only lose results. -/
theorem results_once (hr : Reaches ActorDb.step ActorDb.init s)
    (hid : (s.commands.map Prod.fst).Nodup) :
    ∀ n, s.events.countP (ActorEvent.results n) ≤ (s.commands.map Prod.fst).count n ∧
      (s.commands.map Prod.fst).count n ≤ 1 :=
  fun n => ⟨once_reaches hr hid n, List.nodup_iff_count_le_one.mp hid n⟩

end Runs

end

/-- A snapshot discards the charge 1 while it waits for its account, and the charge has no
    result; the snapshot and a bill have one each. -/
theorem results_once_example :
    ∃ s, run ActorDb.step ActorDb.init
        [.execute 1 (.charge 4 7 30 false), .router, .card (4, 7),
          .execute 2 (.replaceDatabase ⟨.v4 16777343 5001, [⟨4, some 50, 5⟩], [⟨4, 7, none, 5⟩]⟩),
          .router, .card (4, 7), .account 4, .account 4, .card (4, 7), .router,
          .execute 3 (.bill 4 none), .router, .card (4, 7), .account 4, .account 4, .router] =
        some s ∧
      s.Drained ∧ s.events.countP (ActorEvent.results 1) = 0 ∧
      s.events.countP (ActorEvent.results 3) = 1 ∧
      ∀ n, s.events.countP (ActorEvent.results n) ≤ (s.commands.map Prod.fst).count n ∧
        (s.commands.map Prod.fst).count n ≤ 1 := by
  have hrun : (run ActorDb.step ActorDb.init
      [.execute 1 (.charge 4 7 30 false), .router, .card (4, 7),
        .execute 2 (.replaceDatabase ⟨.v4 16777343 5001, [⟨4, some 50, 5⟩], [⟨4, 7, none, 5⟩]⟩),
        .router, .card (4, 7), .account 4, .account 4, .card (4, 7), .router,
        .execute 3 (.bill 4 none), .router, .card (4, 7), .account 4, .account 4, .router]).any
      (fun s => s.commands.map Prod.fst = [1, 2, 3] ∧ s.Drained ∧
        s.events.countP (ActorEvent.results 1) = 0 ∧
        s.events.countP (ActorEvent.results 3) = 1) = true := by
    decide +kernel
  obtain ⟨s, hs, hp⟩ := (Option.any_eq_true _ _).mp hrun
  obtain ⟨hid, hd, hone, hthree⟩ := of_decide_eq_true hp
  exact ⟨s, hs, hd, hone, hthree, results_once ⟨_, hs⟩ (by rw [hid]; decide)⟩

end YpfRuta.Actors
