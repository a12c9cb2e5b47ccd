/-
  Origin: every message in flight, every task and every result belongs to a
  command the node sent, and carries that command's own data.

  `K n o` says that operation `o` was sent under the id `n`. It is a parameter:
  a run instantiates it with its own list of commands.
-/
import YpfRuta.Actors.Local
import YpfRuta.Actors.Pump

namespace YpfRuta.Actors

open Lib

variable {Amount : Type} [Currency Amount]

/-- Operations that end in an `OperationCompleted`. -/
def IsTask : Operation Amount → Prop
  | .charge .. => True
  | .limitAccount .. => True
  | .limitCard .. => True
  | _ => False

/-- Charges that were accepted while the station was offline. -/
def IsOffline : Operation Amount → Prop
  | .charge _ _ _ fromOfflineStation => fromOfflineStation = true
  | _ => False

/-- `o` asks account `a` for its consumption, and resets it when `billing`. -/
def Queries (a : AccountId) (billing : Bool) (o : Operation Amount) : Prop :=
  if billing then ∃ period, o = .bill a period else o = .accountQuery a

variable (K : OpId → Operation Amount → Prop)

/-- A task of card `k` is the charge or the limit change it was sent for. -/
def TaskOrigin (k : CardKey) : CardTask → Prop
  | .charge op => K op.opId (.charge k.1 k.2 op.amount op.fromOfflineStation)
  | .limitChange n lim => K n (.limitCard k.1 k.2 lim)

/-- An outcome that can be reported for `o`: a failure has an error, and is not
    the failure of an offline charge. -/
def Outcome (o : Operation Amount) (success : Bool) (error : Option VerifyError) : Prop :=
  success = false → error ≠ none ∧ ¬ IsOffline o

structure CardOrigin (k : CardKey) (c : CardActor) : Prop where
  accountId : c.accountId = k.1
  cardId : c.cardId = k.2
  current : ∀ t, c.currentTask = some t → TaskOrigin K k t
  queue : ∀ t ∈ c.queue, TaskOrigin K k t
  idle : c.currentTask = none → c.queue = []

def routerMsgOrigin : RouterMsg → Prop
  | .execute n o => K n o
  | .operationCompleted n b e => ∃ o, K n o ∧ IsTask o ∧ Outcome o b e
  | .accountQueryCompleted n a _ _ => ∃ o billing, K n o ∧ Queries a billing o
  | .accountSnapshotCollected n _ => ∃ addr, K n (.getDatabase addr)
  | .cardSnapshotCollected n _ => ∃ addr, K n (.getDatabase addr)
  | .getLog => True
  | .debug _ => True

def accountMsgOrigin (a : AccountId) : AccountMsg → Prop
  | .applyChargeFromCard n amount c off k => k = (a, c) ∧ K n (.charge a c amount off)
  | .applyAccountLimit n lim => K n (.limitAccount a lim)
  | .startAccountQuery n _ => K n (.accountQuery a)
  | .startAccountBill n _ => ∃ period, K n (.bill a period)
  | .cardQueryReply n _ _ => ∃ o billing, K n o ∧ Queries a billing o
  | .getSnapshot n => ∃ addr, K n (.getDatabase addr)
  | .replaceState lim con =>
    ∃ n snapshot, K n (.replaceDatabase snapshot) ∧ ⟨a, lim, con⟩ ∈ snapshot.accounts

def cardMsgOrigin (k : CardKey) : CardMsg → Prop
  | .executeCharge n a c amount off => k = (a, c) ∧ K n (.charge a c amount off)
  | .executeLimitChange n lim => K n (.limitCard k.1 k.2 lim)
  | .queryCardState n a billing => k.1 = a ∧ ∃ o, K n o ∧ Queries a billing o
  | .chargeReply r =>
    ∃ amount off, K r.opId (.charge k.1 k.2 amount off) ∧
      Outcome (.charge k.1 k.2 amount off) r.success r.error
  | .getSnapshot n => ∃ addr, K n (.getDatabase addr)
  | .replaceState lim con =>
    ∃ n snapshot, K n (.replaceDatabase snapshot) ∧ ⟨k.1, k.2, lim, con⟩ ∈ snapshot.cards
  | .debug _ => True

/-- The origin invariant of the commands `K`. -/
def originInv : LocalInv where
  router r := ∀ n o, r.operations n = some o → K n o
  account a x := x.accountId = a ∧
    ∀ p, x.pendingQuery = some p → ∃ o, K p.opId o ∧ Queries a p.billing o
  card k c := CardOrigin K k c
  routerMsg := routerMsgOrigin K
  accountMsg := accountMsgOrigin K
  cardMsg := cardMsgOrigin K
  event
    | .operationResult n o _ _ _ => K n o
    | .debug _ => True

variable {K}

/-! ## The card -/

theorem TaskOrigin.outcome {k : CardKey} {c : CardActor} {t : CardTask} {lim : Option Amount}
    {b : Bool} {e : Option VerifyError} (ht : TaskOrigin K k t) (hs : c.Settles t lim b e) :
    routerMsgOrigin K (.operationCompleted t.opId b e) := by
  cases hs with
  | rejected op err hon hchk =>
    exact ⟨_, ht, True.intro, fun _ => ⟨by simp, by simp [IsOffline, hon]⟩⟩
  | limitSet n lim hchk => exact ⟨_, ht, True.intro, fun h => by cases h⟩
  | limitRefused n lim err hchk => exact ⟨_, ht, True.intro, fun _ => ⟨by simp, by simp [IsOffline]⟩⟩

/-- Loading the next task keeps the origin of a card. -/
theorem CardOrigin.load {k : CardKey} {c : CardActor} (h : CardOrigin K k c)
    (lim : Option Amount) {t : CardTask} {q : List CardTask} (ht : TaskOrigin K k t)
    (hq : ∀ u ∈ q, TaskOrigin K k u) :
    CardOrigin K k { c with limit := lim, currentTask := some t, queue := q } where
  accountId := h.accountId
  cardId := h.cardId
  current := by intro u hu; cases hu; exact ht
  queue := hq
  idle := by simp

/-- The pump keeps the origin of a card, and reports only its own tasks. -/
theorem pump_origin {k : CardKey} {c : CardActor} (h : CardOrigin K k c) :
    CardOrigin K k c.startCurrentTask.1 ∧
      ∀ x ∈ c.startCurrentTask.2, (originInv K).Sent x := by
  refine CardActor.pump_induct (P := fun c r => CardOrigin K k c →
    CardOrigin K k r.1 ∧ ∀ x ∈ r.2, (originInv K).Sent x) ?_ ?_ ?_ ?_ c h
  · intro c _ h
    exact ⟨h, by simp⟩
  · intro c op ht _ h
    refine ⟨h, ?_⟩
    intro x hx
    obtain rfl := List.mem_singleton.mp hx
    have hop := h.current _ ht
    simp only [CardActor.applyCharge, h.accountId, h.cardId]
    exact ⟨rfl, hop⟩
  · intro c t lim b e ht hs hqn h
    refine ⟨⟨h.accountId, h.cardId, by simp, by simp [hqn], fun _ => hqn⟩, ?_⟩
    intro x hx
    obtain rfl := List.mem_singleton.mp hx
    exact TaskOrigin.outcome (h.current t ht) hs
  · intro c t lim b e t' q r ht hs hqc ih h
    have hmem : ∀ u ∈ t' :: q, TaskOrigin K k u := by rw [← hqc]; exact h.queue
    obtain ⟨hc, hsends⟩ := ih (h.load lim (hmem _ List.mem_cons_self)
      fun u hu => hmem u (List.mem_cons_of_mem _ hu))
    refine ⟨hc, ?_⟩
    intro x hx
    obtain rfl | hx := List.mem_cons.mp hx
    · exact TaskOrigin.outcome (h.current t ht) hs
    · exact hsends x hx

/-- Finishing a task with a legitimate outcome keeps the origin. -/
theorem finish_origin {k : CardKey} {c : CardActor} (h : CardOrigin K k c) {n : OpId} {b : Bool}
    {e : Option VerifyError} (hout : routerMsgOrigin K (.operationCompleted n b e)) :
    CardOrigin K k (c.finishCurrentTask n b e).1 ∧
      ∀ x ∈ (c.finishCurrentTask n b e).2, (originInv K).Sent x := by
  cases hq : c.queue with
  | nil =>
    rw [CardActor.finishCurrentTask_nil c hq]
    refine ⟨⟨h.accountId, h.cardId, by simp, by simp [hq], fun _ => hq⟩, ?_⟩
    intro x hx
    obtain rfl := List.mem_singleton.mp hx
    exact hout
  | cons t q =>
    rw [CardActor.finishCurrentTask_cons c hq]
    have hmem : ∀ u ∈ t :: q, TaskOrigin K k u := by rw [← hq]; exact h.queue
    obtain ⟨hc, hsends⟩ := pump_origin (h.load c.limit (hmem _ List.mem_cons_self)
      fun u hu => hmem u (List.mem_cons_of_mem _ hu))
    refine ⟨hc, ?_⟩
    intro x hx
    obtain rfl | hx := List.mem_cons.mp hx
    · exact hout
    · exact hsends x hx

theorem acceptTask_origin {k : CardKey} {c : CardActor} (h : CardOrigin K k c) {t : CardTask}
    (ht : TaskOrigin K k t) :
    CardOrigin K k (c.acceptTask t).1 ∧ ∀ x ∈ (c.acceptTask t).2, (originInv K).Sent x := by
  cases hcur : c.currentTask with
  | none =>
    simp only [CardActor.acceptTask, hcur]
    exact pump_origin (h.load c.limit ht h.queue)
  | some u =>
    simp only [CardActor.acceptTask, hcur]
    refine ⟨⟨h.accountId, h.cardId, hcur ▸ h.current, ?_, by simp⟩, by simp⟩
    intro v hv
    obtain hv | hv := List.mem_append.mp hv
    · exact h.queue v hv
    · obtain rfl := List.mem_singleton.mp hv
      exact ht

theorem card_origin (k : CardKey) (c : CardActor) (m : CardMsg) (h : CardOrigin K k c)
    (hm : cardMsgOrigin K k m) :
    CardOrigin K k (c.handle m).1 ∧ ∀ x ∈ (c.handle m).2, (originInv K).Sent x := by
  cases m with
  | executeCharge n a c' amount off =>
    obtain ⟨rfl, hk⟩ := hm
    have hne : ¬ (a ≠ c.accountId ∨ c' ≠ c.cardId) := by simp [h.accountId, h.cardId]
    simp only [CardActor.handle, CardActor.executeCharge, if_neg hne]
    exact acceptTask_origin h hk
  | executeLimitChange n lim => exact acceptTask_origin h hm
  | queryCardState n a billing =>
    obtain ⟨rfl, o, ho, hq⟩ := hm
    simp only [CardActor.handle, CardActor.queryCardState, h.accountId, ne_eq, not_true_eq_false,
      if_false]
    refine ⟨⟨rfl, h.cardId, h.current, h.queue, h.idle⟩, ?_⟩
    intro x hx
    obtain rfl := List.mem_singleton.mp hx
    exact ⟨o, billing, ho, hq⟩
  | getSnapshot n =>
    refine ⟨h, ?_⟩
    intro x hx
    obtain rfl := List.mem_singleton.mp hx
    exact hm
  | replaceState lim con =>
    exact ⟨⟨h.accountId, h.cardId, by simp [CardActor.handle], by simp [CardActor.handle],
      fun _ => rfl⟩, by simp [CardActor.handle]⟩
  | debug text => exact ⟨h, by simp [CardActor.handle, LocalInv.Sent, originInv, routerMsgOrigin]⟩
  | chargeReply r =>
    have hunknown : ∀ s : String, CardOrigin K k c ∧
        ∀ x ∈ [Send.router (.debug s)], (originInv K).Sent x :=
      fun s => ⟨h, by simp [LocalInv.Sent, originInv, routerMsgOrigin]⟩
    obtain ⟨amount, off, hk, hout⟩ := hm
    simp only [CardActor.handle, CardActor.handleChargeReply]
    split
    · rename_i op hop
      split
      · have hc : CardOrigin K k
            { c with consumed := if r.success then c.consumed + op.amount else c.consumed } :=
          ⟨h.accountId, h.cardId, h.current, h.queue, h.idle⟩
        exact finish_origin hc ⟨_, hk, True.intro, hout⟩
      · exact hunknown _
    · exact hunknown _

/-! ## The account -/

theorem account_origin (a : AccountId) (x : AccountActor) (m : AccountMsg)
    (h : (originInv K).account a x) (hm : accountMsgOrigin K a m) :
    (originInv K).account a (x.handle m).1 ∧ ∀ y ∈ (x.handle m).2, (originInv K).Sent y := by
  obtain ⟨hid, hpend⟩ := h
  cases m with
  | applyChargeFromCard n amount c off k =>
    obtain ⟨rfl, hk⟩ := hm
    have hok : ∀ y ∈ [Send.card (a, c) (.chargeReply ⟨n, true, none⟩)], (originInv K).Sent y := by
      intro y hy
      obtain rfl := List.mem_singleton.mp hy
      exact ⟨amount, off, hk, by simp [Outcome]⟩
    simp only [AccountActor.handle, AccountActor.applyChargeFromCard]
    split
    · exact ⟨⟨hid, hpend⟩, hok⟩
    · rename_i hoff
      split
      · exact ⟨⟨hid, hpend⟩, hok⟩
      · refine ⟨⟨hid, hpend⟩, ?_⟩
        intro y hy
        obtain rfl := List.mem_singleton.mp hy
        exact ⟨amount, off, hk, fun _ => ⟨by simp, hoff⟩⟩
  | applyAccountLimit n lim =>
    simp only [AccountActor.handle, AccountActor.applyAccountLimit]
    split <;> refine ⟨⟨hid, hpend⟩, ?_⟩ <;> intro y hy <;> obtain rfl := List.mem_singleton.mp hy
    · exact ⟨_, hm, True.intro, by simp [Outcome]⟩
    · exact ⟨_, hm, True.intro, by simp [Outcome, IsOffline]⟩
  | startAccountQuery n num =>
    simp only [AccountActor.handle, AccountActor.startAccountQuery]
    split
    · refine ⟨⟨hid, hpend⟩, ?_⟩
      intro y hy
      obtain rfl := List.mem_singleton.mp hy
      exact ⟨_, false, hm, by rw [hid]; rfl⟩
    · refine ⟨⟨hid, ?_⟩, by simp⟩
      intro p hp
      cases hp
      exact ⟨_, hm, rfl⟩
  | startAccountBill n num =>
    obtain ⟨period, hk⟩ := hm
    simp only [AccountActor.handle, AccountActor.startAccountBill]
    split
    · refine ⟨⟨hid, hpend⟩, ?_⟩
      intro y hy
      obtain rfl := List.mem_singleton.mp hy
      exact ⟨_, true, hk, period, by rw [hid]⟩
    · refine ⟨⟨hid, ?_⟩, by simp⟩
      intro p hp
      cases hp
      exact ⟨_, hk, period, rfl⟩
  | cardQueryReply n c con =>
    have hunexp : (originInv K).account a (x.unexpectedReply n).1 ∧
        ∀ y ∈ (x.unexpectedReply n).2, (originInv K).Sent y :=
      ⟨⟨hid, hpend⟩, by
        simp [AccountActor.unexpectedReply, LocalInv.Sent, originInv, routerMsgOrigin]⟩
    simp only [AccountActor.handle, AccountActor.cardQueryReply]
    split
    · rename_i p hp
      split
      · obtain ⟨o, ho, hq⟩ := hpend p hp
        simp only [AccountActor.collectReply]
        split
        · refine ⟨⟨hid, by simp⟩, ?_⟩
          intro y hy
          obtain rfl := List.mem_singleton.mp hy
          exact ⟨o, p.billing, ho, by rw [hid]; exact hq⟩
        · refine ⟨⟨hid, ?_⟩, by simp⟩
          intro p' hp'
          cases hp'
          exact ⟨o, ho, hq⟩
      · exact hunexp
    · exact hunexp
  | getSnapshot n =>
    refine ⟨⟨hid, hpend⟩, ?_⟩
    intro y hy
    obtain rfl := List.mem_singleton.mp hy
    exact hm
  | replaceState lim con => exact ⟨⟨hid, hpend⟩, by simp [AccountActor.handle]⟩

/-! ## The router -/

namespace ActorRouter

@[simp] theorem getOrCreateAccount_operations (r : ActorRouter) (a : AccountId) :
    (r.getOrCreateAccount a).operations = r.operations := rfl

@[simp] theorem getOrCreateCard_operations (r : ActorRouter) (a : AccountId) (c : CardId) :
    (r.getOrCreateCard a c).operations = r.operations := by
  unfold getOrCreateCard
  split <;> rfl

theorem foldl_operations {β : Type} (f : ActorRouter → β → ActorRouter)
    (hf : ∀ r x, (f r x).operations = r.operations) (xs : List β) (r : ActorRouter) :
    (xs.foldl f r).operations = r.operations := by
  induction xs generalizing r with
  | nil => rfl
  | cons x xs ih => rw [List.foldl_cons, ih, hf]

/-- Executing a command registers it, and nothing else. -/
theorem execute_operations (r : ActorRouter) (n : OpId) (o : Operation Amount) :
    (r.execute n o).1.operations = Function.update r.operations n (some o) := by
  cases o with
  | getDatabase addr =>
    simp only [execute, executeGetDatabase]
    split <;> rfl
  | replaceDatabase snapshot =>
    simp only [execute, executeReplaceDatabase]
    rw [foldl_operations _ (fun r _ => getOrCreateCard_operations r _ _),
      foldl_operations _ (fun r _ => getOrCreateAccount_operations r _)]
  | _ => simp [execute, executeAccountQuery, executeBill]

theorem tryCompleteDbSnapshot_operations (r : ActorRouter) (n : OpId) :
    (r.tryCompleteDbSnapshot n).1.operations = r.operations := by
  unfold tryCompleteDbSnapshot
  split
  · rfl
  · dsimp only
    split
    · split <;> rfl
    · rfl

/-- A message other than `Execute` leaves the registered operations alone. -/
theorem handle_operations (r : ActorRouter) (m : RouterMsg)
    (hm : ∀ n o, m ≠ .execute n o) : (r.handle m).1.operations = r.operations := by
  cases m with
  | execute n o => exact absurd rfl (hm n o)
  | getLog => rfl
  | operationCompleted n b e =>
    simp only [handle, operationCompleted]
    split
    · rfl
    · split <;> rfl
  | accountQueryCompleted n a t l =>
    simp only [handle, accountQueryCompleted]
    split <;> rfl
  | accountSnapshotCollected n s =>
    simp only [handle, accountSnapshotCollected]
    split
    · rw [tryCompleteDbSnapshot_operations]
    · rfl
  | cardSnapshotCollected n s =>
    simp only [handle, cardSnapshotCollected]
    split
    · rw [tryCompleteDbSnapshot_operations]
    · rfl
  | debug text => rfl

end ActorRouter

theorem execute_origin {r : ActorRouter} {n : OpId} {o : Operation Amount} (hk : K n o) :
    ∀ x ∈ (r.execute n o).2, (originInv K).Sent x := by
  intro x hx
  have hquery : ∀ (r : ActorRouter) (a : AccountId) (start : AccountMsg) (billing : Bool),
      accountMsgOrigin K a start → Queries a billing o →
      x ∈ r.queryCards n a start billing → (originInv K).Sent x := by
    intro r a start billing hstart hq hx
    obtain rfl | hx := List.mem_cons.mp hx
    · exact hstart
    · obtain ⟨c, -, rfl⟩ := List.mem_map.mp hx
      exact ⟨rfl, o, hk, hq⟩
  cases o with
  | charge a c amount off =>
    obtain rfl := List.mem_singleton.mp hx
    exact ⟨rfl, hk⟩
  | limitAccount a lim =>
    obtain rfl := List.mem_singleton.mp hx
    exact hk
  | limitCard a c lim =>
    obtain rfl := List.mem_singleton.mp hx
    exact hk
  | accountQuery a =>
    refine hquery _ a (.startAccountQuery n _) false ?_ rfl hx
    exact hk
  | bill a period =>
    refine hquery _ a (.startAccountBill n _) true ?_ ⟨period, rfl⟩ hx
    exact ⟨period, hk⟩
  | getDatabase addr =>
    simp only [ActorRouter.execute, ActorRouter.executeGetDatabase] at hx
    split at hx
    · obtain rfl := List.mem_singleton.mp hx
      exact hk
    · obtain hx | hx := List.mem_append.mp hx <;> obtain ⟨y, -, rfl⟩ := List.mem_map.mp hx <;>
        exact ⟨addr, hk⟩
  | replaceDatabase snapshot =>
    simp only [ActorRouter.execute, ActorRouter.executeReplaceDatabase, List.mem_append,
      List.mem_map, List.mem_singleton] at hx
    obtain (⟨y, hy, rfl⟩ | ⟨y, hy, rfl⟩) | rfl := hx
    · exact ⟨n, snapshot, hk, hy⟩
    · exact ⟨n, snapshot, hk, hy⟩
    · exact hk

theorem tryCompleteDbSnapshot_origin {r : ActorRouter} {n : OpId}
    (h : ∀ n o, r.operations n = some o → K n o) :
    ∀ x ∈ (r.tryCompleteDbSnapshot n).2, (originInv K).Sent x := by
  unfold ActorRouter.tryCompleteDbSnapshot
  split
  · simp
  · dsimp only
    split
    · split
      · rename_i o ho
        intro x hx
        obtain rfl := List.mem_singleton.mp hx
        exact h n o ho
      · simp [LocalInv.Sent, originInv]
    · simp

theorem router_origin (r : ActorRouter) (m : RouterMsg) (h : (originInv K).router r)
    (hm : routerMsgOrigin K m) :
    (originInv K).router (r.handle m).1 ∧ ∀ x ∈ (r.handle m).2, (originInv K).Sent x := by
  by_cases hexec : ∃ n o, m = .execute n o
  · obtain ⟨n, o, rfl⟩ := hexec
    refine ⟨?_, execute_origin hm⟩
    intro n' o' ho'
    rw [ActorRouter.handle, ActorRouter.execute_operations] at ho'
    by_cases hn : n' = n
    · subst hn
      rw [Function.update_self] at ho'
      cases ho'
      exact hm
    · rw [Function.update_of_ne hn] at ho'
      exact h n' o' ho'
  · have hne : ∀ n o, m ≠ .execute n o := fun n o he => hexec ⟨n, o, he⟩
    refine ⟨by intro n o ho; rw [ActorRouter.handle_operations r m hne] at ho; exact h n o ho, ?_⟩
    cases m with
    | execute n o => exact absurd rfl (hne n o)
    | getLog => simp [ActorRouter.handle, LocalInv.Sent, originInv]
    | operationCompleted n b e =>
      simp only [ActorRouter.handle, ActorRouter.operationCompleted]
      split
      · simp [LocalInv.Sent, originInv]
      · rename_i o ho
        split
        · intro x hx
          obtain rfl := List.mem_singleton.mp hx
          exact h n o ho
        · simp
    | accountQueryCompleted n a t l =>
      simp only [ActorRouter.handle, ActorRouter.accountQueryCompleted]
      split
      · simp [LocalInv.Sent, originInv]
      · rename_i o ho
        intro x hx
        obtain rfl := List.mem_singleton.mp hx
        exact h n o ho
    | accountSnapshotCollected n s =>
      simp only [ActorRouter.handle, ActorRouter.accountSnapshotCollected]
      split
      · exact tryCompleteDbSnapshot_origin h
      · simp [LocalInv.Sent, originInv]
    | cardSnapshotCollected n s =>
      simp only [ActorRouter.handle, ActorRouter.cardSnapshotCollected]
      split
      · exact tryCompleteDbSnapshot_origin h
      · simp [LocalInv.Sent, originInv]
    | debug text => simp [ActorRouter.handle, LocalInv.Sent, originInv]

/-! ## Runs -/

theorem origin_preserved {J : LocalInv} : LocalInv.Preserved J (originInv K) where
  router r m _ _ h hm := router_origin r m h hm
  account a x m _ _ h hm := account_origin a x m h hm
  card k c m _ _ h hm := card_origin k c m h hm

theorem origin_init : (originInv K).Holds ActorDb.init := by
  refine LocalInv.holds_init ?_ ?_ ?_
  · intro n o ho
    cases ho
  · intro a
    exact ⟨rfl, by simp [AccountActor.new]⟩
  · intro k
    exact ⟨rfl, rfl, by simp [CardActor.new], by simp [CardActor.new], fun _ => rfl⟩

/-- **Induction along a run under the origin invariant** of the commands of its
    last state. Every step of the run meets `C`. -/
theorem meets_induct {s₀ s : ActorDb} {ls : List Label} {C : ActorDb → Label → Prop}
    (hr : run ActorDb.step s₀ ls = some s) (hc : Meets ActorDb.step C s₀ ls) {P : ActorDb → Prop}
    (ho : (originInv fun n o => (n, o) ∈ s.commands).Holds s₀) (h0 : P s₀)
    (hstep : ∀ t l t', (originInv fun n o => (n, o) ∈ s.commands).Holds t →
      t'.commands <+: s.commands → C t l → P t → t.step l = some t' → P t') :
    (originInv fun n o => (n, o) ∈ s.commands).Holds s ∧ P s := by
  -- the commands of every state on the way are commands of the last one
  have key : s.commands <+: s.commands →
      (originInv fun n o => (n, o) ∈ s.commands).Holds s ∧ P s := by
    refine run_induct_meets (P := fun t => t.commands <+: s.commands →
      (originInv fun n o => (n, o) ∈ s.commands).Holds t ∧ P t) ?_ hr hc fun _ => ⟨ho, h0⟩
    intro t l t' ih hC h hsub
    obtain ⟨ho, hp⟩ := ih ((ActorDb.step_commands h).trans hsub)
    refine ⟨origin_preserved.step (LocalInv.trivial_holds t) ho ?_ h, hstep t l t' ho hsub hC hp h⟩
    rintro n o rfl
    have ht' : t' = t.execute n o := (Option.some.inj h).symm
    exact hsub.subset (by simp [ht', ActorDb.execute])
  exact key (List.prefix_refl _)

theorem reaches_induct {s₀ s : ActorDb} (hr : Reaches ActorDb.step s₀ s) {P : ActorDb → Prop}
    (ho : (originInv fun n o => (n, o) ∈ s.commands).Holds s₀) (h0 : P s₀)
    (hstep : ∀ t l t', (originInv fun n o => (n, o) ∈ s.commands).Holds t →
      t'.commands <+: s.commands → P t → t.step l = some t' → P t') :
    (originInv fun n o => (n, o) ∈ s.commands).Holds s ∧ P s := by
  obtain ⟨ls, hr⟩ := hr
  exact meets_induct hr (meets_true s₀ ls) ho h0 fun t l t' ho hsub _ hp h =>
    hstep t l t' ho hsub hp h

/-- **The local rule along runs.** From a state that meets them, the origin
    invariant of the commands of the last state, and every local invariant
    preserved under it, hold of the last state. -/
theorem reaches_local {s₀ s : ActorDb} (hr : Reaches ActorDb.step s₀ s) {I : LocalInv}
    (hp : LocalInv.Preserved (originInv fun n o => (n, o) ∈ s.commands) I)
    (hexec : ∀ n o, (n, o) ∈ s.commands → I.routerMsg (.execute n o))
    (ho : (originInv fun n o => (n, o) ∈ s.commands).Holds s₀) (hi : I.Holds s₀) :
    (originInv fun n o => (n, o) ∈ s.commands).Holds s ∧ I.Holds s :=
  reaches_induct hr ho hi fun t l t' ho hsub hi h =>
    hp.step ho hi (fun n o hl => hexec n o (hsub.subset (by
      subst hl
      rw [show t' = t.execute n o from (Option.some.inj h).symm]
      simp [ActorDb.execute]))) h

/-- The origin invariant holds of every state reached from the empty database. -/
theorem origin_reaches {s : ActorDb} (hr : Reaches ActorDb.step ActorDb.init s) :
    (originInv fun n o => (n, o) ∈ s.commands).Holds s :=
  (reaches_local hr origin_preserved (fun _ _ h => h) origin_init origin_init).1

omit [Currency Amount] in
/-- Under distinct ids an id names one operation. -/
theorem command_unique {cs : List (OpId × Operation Amount)} (hid : (cs.map Prod.fst).Nodup)
    {n : OpId} {o o' : Operation Amount} (h : (n, o) ∈ cs) (h' : (n, o') ∈ cs) : o = o' := by
  have heq := List.inj_on_of_nodup_map hid h h' rfl
  exact (Prod.mk.inj heq).2

end YpfRuta.Actors
