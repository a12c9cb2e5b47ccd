/-
  What one message moves at the router: a command goes to the actor of its
  operation, a report becomes an event for the node.
-/
import YpfRuta.Actors.Counting

namespace YpfRuta.Actors

open Lib

variable {Amount : Type} [Currency Amount]

/-- The card an operation is a task of. -/
def cardKey? : Operation Amount → Option CardKey
  | .charge accountId cardId _ _ => some (accountId, cardId)
  | .limitCard accountId cardId _ => some (accountId, cardId)
  | _ => none

/-- The account an operation changes the limit of. -/
def limitedAccount? : Operation Amount → Option AccountId
  | .limitAccount accountId _ => some accountId
  | _ => none

/-- The operation a router message is about. -/
def RouterMsg.opId? : RouterMsg → Option OpId
  | .execute n _ => some n
  | .operationCompleted n _ _ => some n
  | .accountQueryCompleted n _ _ _ => some n
  | .accountSnapshotCollected n _ => some n
  | .cardSnapshotCollected n _ => some n
  | .getLog => none
  | .debug _ => none

namespace ActorRouter

/-- The sends of a command: what starts an operation, and results for the node. -/
inductive Dispatches (n : OpId) (o : Operation Amount) : Send → Prop where
  | charge (a : AccountId) (c : CardId) (amount : Amount) (off : Bool)
      (ho : o = .charge a c amount off) :
      Dispatches n o (.card (a, c) (.executeCharge n a c amount off))
  | limitAccount (a : AccountId) (lim : Option Amount) (ho : o = .limitAccount a lim) :
      Dispatches n o (.account a (.applyAccountLimit n lim))
  | limitCard (a : AccountId) (c : CardId) (lim : Option Amount) (ho : o = .limitCard a c lim) :
      Dispatches n o (.card (a, c) (.executeLimitChange n lim))
  | startQuery (a : AccountId) (num : Nat) (ho : o = .accountQuery a) :
      Dispatches n o (.account a (.startAccountQuery n num))
  | startBill (a : AccountId) (period : Option String) (num : Nat) (ho : o = .bill a period) :
      Dispatches n o (.account a (.startAccountBill n num))
  | query (a : AccountId) (c : CardId) (billing : Bool) (ho : Queries a billing o) :
      Dispatches n o (.card (a, c) (.queryCardState n a billing))
  | accountSnapshot (addr : SocketAddr) (a : AccountId) (ho : o = .getDatabase addr) :
      Dispatches n o (.account a (.getSnapshot n))
  | cardSnapshot (addr : SocketAddr) (k : CardKey) (ho : o = .getDatabase addr) :
      Dispatches n o (.card k (.getSnapshot n))
  | replaceAccount (snapshot : DatabaseSnapshot Amount) (x : AccountSnapshot Amount)
      (ho : o = .replaceDatabase snapshot) (hx : x ∈ snapshot.accounts) :
      Dispatches n o (.account x.accountId (.replaceState x.limit x.consumed))
  | replaceCard (snapshot : DatabaseSnapshot Amount) (x : CardSnapshot Amount)
      (ho : o = .replaceDatabase snapshot) (hx : x ∈ snapshot.cards) :
      Dispatches n o (.card (x.accountId, x.cardId) (.replaceState x.limit x.consumed))
  | result (r : OperationResult Amount)
      (ho : (∃ addr, o = .getDatabase addr) ∨ ∃ snapshot, o = .replaceDatabase snapshot) :
      Dispatches n o (.event (.operationResult n o r true none))

theorem queryCards_dispatches {r : ActorRouter} {n : OpId} {o : Operation Amount} {a : AccountId}
    {start : AccountMsg} {billing : Bool} (hstart : Dispatches n o (.account a start))
    (ho : Queries a billing o) : ∀ x ∈ r.queryCards n a start billing, Dispatches n o x := by
  intro x hx
  obtain rfl | hx := List.mem_cons.mp hx
  · exact hstart
  · obtain ⟨c, -, rfl⟩ := List.mem_map.mp hx
    exact .query a c billing ho

theorem execute_dispatches (r : ActorRouter) (n : OpId) (o : Operation Amount) :
    ∀ x ∈ (r.execute n o).2, Dispatches n o x := by
  intro x hx
  cases o with
  | charge a c amount off =>
    obtain rfl := List.mem_singleton.mp hx
    exact .charge a c amount off rfl
  | limitAccount a lim =>
    obtain rfl := List.mem_singleton.mp hx
    exact .limitAccount a lim rfl
  | limitCard a c lim =>
    obtain rfl := List.mem_singleton.mp hx
    exact .limitCard a c lim rfl
  | accountQuery a =>
    have hq : Queries a false (.accountQuery a : Operation Amount) := rfl
    exact queryCards_dispatches (.startQuery a _ rfl) hq x hx
  | bill a period =>
    have hq : Queries a true (.bill a period : Operation Amount) := ⟨period, rfl⟩
    exact queryCards_dispatches (.startBill a period _ rfl) hq x hx
  | getDatabase addr =>
    simp only [execute, executeGetDatabase] at hx
    split at hx
    · obtain rfl := List.mem_singleton.mp hx
      exact .result _ (Or.inl ⟨addr, rfl⟩)
    · obtain hx | hx := List.mem_append.mp hx <;> obtain ⟨y, -, rfl⟩ := List.mem_map.mp hx
      · exact .accountSnapshot addr y rfl
      · exact .cardSnapshot addr y rfl
  | replaceDatabase snapshot =>
    simp only [execute, executeReplaceDatabase, List.mem_append, List.mem_map,
      List.mem_singleton] at hx
    obtain (⟨y, hy, rfl⟩ | ⟨y, hy, rfl⟩) | rfl := hx
    · exact .replaceAccount snapshot y rfl hy
    · exact .replaceCard snapshot y rfl hy
    · exact .result _ (Or.inr ⟨snapshot, rfl⟩)

/-- A command counts for nothing that it does not dispatch. -/
theorem execute_countP {r : ActorRouter} {n : OpId} {o : Operation Amount} {p : Send → Bool}
    (hp : ∀ x, Dispatches n o x → p x = false) : (r.execute n o).2.countP p = 0 := by
  rw [List.countP_eq_zero]
  intro x hx
  rw [hp x (execute_dispatches r n o x hx)]
  exact Bool.false_ne_true

/-- `res`, `b` and `e` are the result the router makes of `m` for operation `o`. -/
def ResultOf (o : Operation Amount) (m : RouterMsg) (res : OperationResult Amount) (b : Bool)
    (e : Option VerifyError) : Prop :=
  match m with
  | .operationCompleted _ b' e' => b' = b ∧ e' = e ∧ completedResult o b e = some res
  | .accountQueryCompleted _ a total perCard => res = .accountQuery ⟨a, total, perCard⟩
  | .accountSnapshotCollected .. => ∃ snapshot, res = .databaseSnapshot snapshot
  | .cardSnapshotCollected .. => ∃ snapshot, res = .databaseSnapshot snapshot
  | _ => False

/-- A part of a database snapshot, which may be not the last one. -/
def IsSnapshot : RouterMsg → Prop
  | .accountSnapshotCollected .. => True
  | .cardSnapshotCollected .. => True
  | _ => False

/-- What the router reports for a message that is not a command. -/
inductive Reports (self : ActorRouter) : RouterMsg → ActorRouter × List Send → Prop where
  | result (m : RouterMsg) (r : ActorRouter) (n : OpId) (o : Operation Amount)
      (res : OperationResult Amount) (b : Bool) (e : Option VerifyError)
      (hm : m.opId? = some n) (ho : self.operations n = some o) (hres : ResultOf o m res b e) :
      Reports self m (r, [.event (.operationResult n o res b e)])
  | quiet (m : RouterMsg) (r : ActorRouter) (es : List ActorEvent)
      (hes : ∀ ev ∈ es, ∃ text, ev = .debug text)
      (hm : ∀ n, m.opId? = some n → self.operations n = none ∨ IsSnapshot m) :
      Reports self m (r, es.map Send.event)
  | panic (n : OpId) (o : Operation Amount) (b : Bool) (e : Option VerifyError)
      (ho : self.operations n = some o) (hres : completedResult o b e = none) :
      Reports self (.operationCompleted n b e) ({ self with panicked := true }, [])

theorem tryCompleteDbSnapshot_reports {self r : ActorRouter} {m : RouterMsg} {n : OpId}
    (hm : m.opId? = some n) (hs : IsSnapshot m) (ho : r.operations = self.operations) :
    Reports self m (r.tryCompleteDbSnapshot n) := by
  have hquiet : ∀ (r' : ActorRouter) (es : List ActorEvent),
      (∀ ev ∈ es, ∃ text, ev = .debug text) → Reports self m (r', es.map Send.event) :=
    fun r' es hes => .quiet m r' es hes fun _ _ => Or.inr hs
  unfold tryCompleteDbSnapshot
  split
  · exact hquiet _ [] (by simp)
  · dsimp only
    split
    · split
      · rename_i o hop
        refine .result m _ n o _ true none hm (ho ▸ hop) ?_
        cases m <;> first | exact hs.elim | exact ⟨_, rfl⟩
      · exact hquiet _ [.debug _] (by simp)
    · exact hquiet _ [] (by simp)

theorem handle_reports (r : ActorRouter) (m : RouterMsg) (hm : ∀ n o, m ≠ .execute n o) :
    Reports r m (r.handle m) := by
  cases m with
  | execute n o => exact absurd rfl (hm n o)
  | getLog => exact .quiet _ r [.debug _] (by simp) (by simp [RouterMsg.opId?])
  | debug text => exact .quiet _ r [.debug _] (by simp) (by simp [RouterMsg.opId?])
  | operationCompleted n b e =>
    simp only [handle, operationCompleted]
    split
    · rename_i ho
      exact .quiet _ r [.debug _] (by simp) fun n' hn => Or.inl (Option.some.inj hn ▸ ho)
    · rename_i o ho
      split
      · rename_i res hres
        exact .result _ r n o res b e rfl ho ⟨rfl, rfl, hres⟩
      · rename_i hres
        exact .panic n o b e ho hres
  | accountQueryCompleted n a t l =>
    simp only [handle, accountQueryCompleted]
    split
    · rename_i ho
      exact .quiet _ r [.debug _] (by simp) fun n' hn => Or.inl (Option.some.inj hn ▸ ho)
    · rename_i o ho
      exact .result _ r n o _ true none rfl ho rfl
  | accountSnapshotCollected n s =>
    simp only [handle, accountSnapshotCollected]
    split
    · exact tryCompleteDbSnapshot_reports rfl True.intro rfl
    · exact .quiet _ r [.debug _] (by simp) fun _ _ => Or.inr True.intro
  | cardSnapshotCollected n s =>
    simp only [handle, cardSnapshotCollected]
    split
    · exact tryCompleteDbSnapshot_reports rfl True.intro rfl
    · exact .quiet _ r [.debug _] (by simp) fun _ _ => Or.inr True.intro

/-- A message that is not a command only makes events. -/
theorem handle_events {r : ActorRouter} {m : RouterMsg} {p : Send → Bool}
    (hm : ∀ n o, m ≠ .execute n o) (he : ∀ ev, p (.event ev) = false) :
    (r.handle m).2.countP p = 0 := by
  have h := handle_reports r m hm
  revert h
  generalize r.handle m = out
  intro h
  cases h with
  | result => simp [he]
  | quiet => simp [List.countP_map, he, Function.comp_def]
  | panic => rfl

/-- The router writes nothing but dispatches and events. -/
theorem handle_elsewhere {r : ActorRouter} {m : RouterMsg} {p : Send → Bool}
    (hp : ∀ n o x, Dispatches n o x → p x = false) (he : ∀ ev, p (.event ev) = false) :
    (r.handle m).2.countP p = 0 := by
  by_cases hm : ∃ n o, m = .execute n o
  · obtain ⟨n, o, rfl⟩ := hm
    exact execute_countP fun x hx => hp n o x hx
  · exact handle_events (fun n o hno => hm ⟨n, o, hno⟩) he

@[simp] theorem handle_onRouter (r : ActorRouter) (m : RouterMsg) (p : RouterMsg → Bool) :
    (r.handle m).2.countP (Send.onRouter p) = 0 :=
  handle_elsewhere (fun _ _ x hx => by cases hx <;> rfl) fun _ => rfl

@[simp] theorem handle_applies (r : ActorRouter) (m : RouterMsg) (a : AccountId) (n : OpId) :
    (r.handle m).2.countP (Send.onAccount a (AccountMsg.applies n)) = 0 :=
  handle_elsewhere
    (fun _ _ x hx => by cases hx <;> simp [Send.onAccount, AccountMsg.applies]) fun _ => rfl

@[simp] theorem handle_replies (r : ActorRouter) (m : RouterMsg) (k : CardKey) (n : OpId) :
    (r.handle m).2.countP (Send.onCard k (CardMsg.replies n)) = 0 :=
  handle_elsewhere
    (fun _ _ x hx => by cases hx <;> simp [Send.onCard, CardMsg.replies]) fun _ => rfl

@[simp] theorem handle_approves (r : ActorRouter) (m : RouterMsg) (k : CardKey) (n : OpId) :
    (r.handle m).2.countP (Send.onCard k (CardMsg.approves n)) = 0 :=
  handle_elsewhere
    (fun _ _ x hx => by cases hx <;> simp [Send.onCard, CardMsg.approves]) fun _ => rfl

@[simp] theorem handle_toRouter (r : ActorRouter) (m : RouterMsg) :
    (r.handle m).2.filterMap Send.toRouter? = [] := by
  have h := handle_onRouter r m fun _ => true
  rw [← countP_toRouter, List.countP_true, List.length_eq_zero_iff] at h
  exact h

@[simp] theorem handle_answers (r : ActorRouter) (m : RouterMsg) (a : AccountId) (n : OpId) :
    (r.handle m).2.countP (Send.onAccount a (AccountMsg.answers n)) = 0 :=
  handle_elsewhere
    (fun _ _ x hx => by cases hx <;> simp [Send.onAccount, AccountMsg.answers]) fun _ => rfl

end ActorRouter

/-! ## The cards of an account -/

theorem cardIds_nodup (r : ActorRouter) (a : AccountId) : (r.cardIds a).Nodup := by
  unfold ActorRouter.cardIds
  refine List.Nodup.map_on ?_ (r.cards.nodup.filter _)
  intro k hk j hj he
  have hka : k.1 = a := by simpa using (List.mem_filter.mp hk).2
  have hja : j.1 = a := by simpa using (List.mem_filter.mp hj).2
  exact Prod.ext (hka.trans hja.symm) he

theorem mem_cardIds (r : ActorRouter) (a : AccountId) (c : CardId) :
    c ∈ r.cardIds a ↔ (a, c) ∈ r.cards := by
  unfold ActorRouter.cardIds
  rw [List.mem_map]
  constructor
  · rintro ⟨k, hk, rfl⟩
    obtain ⟨hmem, hka⟩ := List.mem_filter.mp hk
    have hka' : k.1 = a := by simpa using hka
    rw [← hka']
    exact hmem
  · intro hmem
    exact ⟨(a, c), List.mem_filter.mpr ⟨hmem, by simp⟩, rfl⟩

end YpfRuta.Actors
