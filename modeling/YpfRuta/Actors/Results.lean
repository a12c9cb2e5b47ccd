/-
  A result fits its operation: it is of the operation's kind, and about the account or the
  node the operation names. A caller that asked for one thing never gets another back.
-/
import YpfRuta.Actors.Fragments
import YpfRuta.Actors.Known

namespace YpfRuta.Actors

open Lib

section

variable {Amount : Type} [Currency Amount]

/-- The results an operation may end in. -/
def ResultOf {α : Type} : Operation α → OperationResult α → Prop
  | .charge .., .charge _ => True
  | .limitAccount .., .limitAccount _ => True
  | .limitCard .., .limitCard _ => True
  | .accountQuery accountId, .accountQuery res => res.accountId = accountId
  | .bill accountId _, .accountQuery res => res.accountId = accountId
  | .getDatabase addr, .databaseSnapshot snapshot => snapshot.addr = addr
  | .replaceDatabase _, .replaceDatabase => True
  | _, _ => False

theorem ResultOf.of_task {o : Operation Amount} {b : Bool} {e : Option VerifyError}
    {res : OperationResult Amount} (ht : IsTask o)
    (h : ActorRouter.completedResult o b e = some res) : ResultOf o res := by
  cases o with
  | charge a c amount off =>
    obtain ⟨r, -, rfl⟩ := Option.map_eq_some_iff.mp h
    exact True.intro
  | limitAccount a lim =>
    obtain ⟨r, -, rfl⟩ := Option.map_eq_some_iff.mp h
    exact True.intro
  | limitCard a c lim =>
    obtain ⟨r, -, rfl⟩ := Option.map_eq_some_iff.mp h
    exact True.intro
  | _ => exact ht.elim

omit [Currency Amount] in
theorem ResultOf.of_query {a : AccountId} {billing : Bool} {o : Operation Amount} {t : Amount}
    {l : List (CardId × Amount)} (h : Queries a billing o) :
    ResultOf o (.accountQuery ⟨a, t, l⟩) := by
  cases billing with
  | false =>
    obtain rfl : o = .accountQuery a := h
    exact rfl
  | true =>
    obtain ⟨period, rfl⟩ : ∃ period, o = .bill a period := h
    exact rfl

/-- Only a request for a snapshot starts to assemble one. -/
theorem ActorRouter.execute_pending (r : ActorRouter) (n : OpId) {o : Operation Amount}
    (ho : ∀ addr, o ≠ .getDatabase addr) :
    (r.execute n o).1.pendingDbSnapshots = r.pendingDbSnapshots :=
  (r.execute_other n ho).1

/-! ## Results -/

section

variable (K : OpId → Operation Amount → Prop)

/-- Every result fits, and a snapshot is assembled for the node that asked. -/
def fitsInv : LocalInv where
  router r := ∀ n p, r.pendingDbSnapshots n = some p → K n (.getDatabase p.addr)
  account _ _ := True
  card _ _ := True
  routerMsg _ := True
  accountMsg _ _ := True
  cardMsg _ _ := True
  event
    | .operationResult _ o res _ _ => ResultOf o res
    | .debug _ => True

variable {K} {r : ActorRouter} {n : OpId}

theorem update_fits (hi : (fitsInv K).router r) {v : Option PendingDatabaseSnapshot}
    (hv : ∀ p, v = some p → K n (.getDatabase p.addr)) :
    (fitsInv K).router
      { r with pendingDbSnapshots := Function.update r.pendingDbSnapshots n v } := by
  intro n' p hp
  have hp' : Function.update r.pendingDbSnapshots n v n' = some p := hp
  by_cases hn : n' = n
  · subst hn
    rw [Function.update_self] at hp'
    exact hv p hp'
  · rw [Function.update_of_ne hn] at hp'
    exact hi n' p hp'

theorem tryComplete_fits (hK : ∀ n o o', K n o → K n o' → o = o')
    (ho : (originInv K).router r) (hi : (fitsInv K).router r) :
    (fitsInv K).router (r.tryCompleteDbSnapshot n).1 ∧
      ∀ x ∈ (r.tryCompleteDbSnapshot n).2, (fitsInv K).Sent x := by
  unfold ActorRouter.tryCompleteDbSnapshot
  split
  · exact ⟨hi, by simp⟩
  · rename_i p hp
    dsimp only
    have hrouter : (fitsInv K).router
        { r with pendingDbSnapshots := Function.update r.pendingDbSnapshots n none } :=
      update_fits hi fun p hp => by cases hp
    split
    · split
      · rename_i o hop
        refine ⟨hrouter, fun x hx => ?_⟩
        obtain rfl := List.mem_singleton.mp hx
        obtain rfl := hK n o _ (ho n o hop) (hi n p hp)
        exact rfl
      · refine ⟨hrouter, fun x hx => ?_⟩
        obtain rfl := List.mem_singleton.mp hx
        exact True.intro
    · exact ⟨hi, by simp⟩

/-- A fragment joins what has arrived for the same node. -/
theorem collect_fits (hK : ∀ n o o', K n o → K n o' → o = o') (ho : (originInv K).router r)
    (hi : (fitsInv K).router r) {p p' : PendingDatabaseSnapshot}
    (hp : r.pendingDbSnapshots n = some p) (haddr : p'.addr = p.addr) {r' : ActorRouter}
    (hr' : r' = { r with
      pendingDbSnapshots := Function.update r.pendingDbSnapshots n (some p') }) :
    (fitsInv K).router (r'.tryCompleteDbSnapshot n).1 ∧
      ∀ x ∈ (r'.tryCompleteDbSnapshot n).2, (fitsInv K).Sent x := by
  subst hr'
  refine tryComplete_fits hK ho (update_fits hi fun q hq => ?_)
  obtain rfl := Option.some.inj hq
  rw [haddr]
  exact hi n p hp

theorem execute_fits (n : OpId) (o : Operation Amount) (hn : K n o)
    (hi : (fitsInv K).router r) :
    (fitsInv K).router (r.execute n o).1 ∧ ∀ x ∈ (r.execute n o).2, (fitsInv K).Sent x := by
  have hkeep : (∀ addr, o ≠ .getDatabase addr) → (fitsInv K).router (r.execute n o).1 := by
    intro ho n' p hp
    rw [r.execute_pending n ho] at hp
    exact hi n' p hp
  have hquery : ∀ (r' : ActorRouter) a start reset,
      ∀ x ∈ r'.queryCards n a start reset, (fitsInv K).Sent x := by
    intro r' a start reset x hx
    obtain rfl | hx := List.mem_cons.mp hx
    · exact True.intro
    · obtain ⟨c, -, rfl⟩ := List.mem_map.mp hx
      exact True.intro
  cases o with
  | charge a c amount off =>
    refine ⟨hkeep (fun _ h => by cases h), fun x hx => ?_⟩
    obtain rfl := List.mem_singleton.mp hx
    exact True.intro
  | limitCard a c lim =>
    refine ⟨hkeep (fun _ h => by cases h), fun x hx => ?_⟩
    obtain rfl := List.mem_singleton.mp hx
    exact True.intro
  | limitAccount a lim =>
    refine ⟨hkeep (fun _ h => by cases h), fun x hx => ?_⟩
    obtain rfl := List.mem_singleton.mp hx
    exact True.intro
  | accountQuery a => exact ⟨hkeep (fun _ h => by cases h), hquery _ a _ _⟩
  | bill a period => exact ⟨hkeep (fun _ h => by cases h), hquery _ a _ _⟩
  | getDatabase addr =>
    simp only [ActorRouter.execute, ActorRouter.executeGetDatabase]
    split
    · refine ⟨hi, fun x hx => ?_⟩
      obtain rfl := List.mem_singleton.mp hx
      exact rfl
    · refine ⟨update_fits hi fun p hp => ?_, fun x hx => ?_⟩
      · obtain rfl := Option.some.inj hp
        exact hn
      · obtain hx | hx := List.mem_append.mp hx <;> obtain ⟨y, -, rfl⟩ := List.mem_map.mp hx <;>
          exact True.intro
  | replaceDatabase snapshot =>
    refine ⟨hkeep (fun _ h => by cases h), fun x hx => ?_⟩
    simp only [ActorRouter.execute, ActorRouter.executeReplaceDatabase, List.mem_append,
      List.mem_map, List.mem_singleton] at hx
    obtain (⟨y, -, rfl⟩ | ⟨y, -, rfl⟩) | rfl := hx <;> exact True.intro

/-- **The router** keeps it, whatever message it handles. -/
theorem router_fits (hK : ∀ n o o', K n o → K n o' → o = o') (m : RouterMsg)
    (ho : (originInv K).router r) (hm : routerMsgOrigin K m) (hi : (fitsInv K).router r) :
    (fitsInv K).router (r.handle m).1 ∧ ∀ x ∈ (r.handle m).2, (fitsInv K).Sent x := by
  have hdebug : ∀ text, ∀ x ∈ [Send.event (.debug text)], (fitsInv K).Sent x := by
    intro text x hx
    obtain rfl := List.mem_singleton.mp hx
    exact True.intro
  cases m with
  | execute n o => exact execute_fits n o hm hi
  | getLog => exact ⟨hi, hdebug _⟩
  | debug text => exact ⟨hi, hdebug text⟩
  | operationCompleted n b e =>
    obtain ⟨o, hno, htask, -⟩ := hm
    simp only [ActorRouter.handle, ActorRouter.operationCompleted]
    split
    · exact ⟨hi, hdebug _⟩
    · rename_i o' hop
      obtain rfl := hK n o o' hno (ho n o' hop)
      split
      · rename_i res hres
        refine ⟨hi, fun x hx => ?_⟩
        obtain rfl := List.mem_singleton.mp hx
        exact .of_task htask hres
      · exact ⟨hi, by simp⟩
  | accountQueryCompleted n a t l =>
    obtain ⟨o, billing, hno, hq⟩ := hm
    simp only [ActorRouter.handle, ActorRouter.accountQueryCompleted]
    split
    · exact ⟨hi, hdebug _⟩
    · rename_i o' hop
      obtain rfl := hK n o o' hno (ho n o' hop)
      refine ⟨hi, fun x hx => ?_⟩
      obtain rfl := List.mem_singleton.mp hx
      exact .of_query hq
  | accountSnapshotCollected n x =>
    simp only [ActorRouter.handle, ActorRouter.accountSnapshotCollected]
    split
    · rename_i p hp
      exact collect_fits hK ho hi hp (show PendingDatabaseSnapshot.addr
        { p with accounts := p.accounts ++ [x] } = p.addr from rfl) rfl
    · exact ⟨hi, hdebug _⟩
  | cardSnapshotCollected n x =>
    simp only [ActorRouter.handle, ActorRouter.cardSnapshotCollected]
    split
    · rename_i p hp
      exact collect_fits hK ho hi hp (show PendingDatabaseSnapshot.addr
        { p with cards := p.cards ++ [x] } = p.addr from rfl) rfl
    · exact ⟨hi, hdebug _⟩

theorem fits_preserved (hK : ∀ n o o', K n o → K n o' → o = o') :
    LocalInv.Preserved (originInv K) (fitsInv K) where
  router _ m ho hm hi _ := router_fits hK m ho hm hi
  account a x m _ _ _ _ := by
    refine ⟨True.intro, fun y hy => ?_⟩
    cases AccountActor.handle_emits x m y hy <;> exact True.intro
  card k c m _ _ _ _ := by
    refine ⟨True.intro, fun y hy => ?_⟩
    cases CardActor.handle_emits c m y hy <;> exact True.intro

theorem fits_init : (fitsInv K).Holds ActorDb.init :=
  LocalInv.holds_init (fun n p h => by cases h) (fun _ => True.intro) fun _ => True.intro

end

theorem reaches_fits {s : ActorDb} (hr : Reaches ActorDb.step ActorDb.init s)
    (hid : (s.commands.map Prod.fst).Nodup) {n : OpId} {o : Operation Amount}
    {res : OperationResult Amount} {b : Bool} {e : Option VerifyError}
    (he : .operationResult n o res b e ∈ s.events) : (n, o) ∈ s.commands ∧ ResultOf o res := by
  obtain ⟨ho, hi⟩ := reaches_local hr (fits_preserved fun _ _ _ => command_unique hid)
    (fun _ _ _ => True.intro) origin_init fits_init
  exact ⟨ho.events _ he, hi.events _ he⟩

/-- **Results fit.** In every run under distinct ids, with snapshots taken and installed
    along the way, every result the database sends is of the kind of its operation, and of
    the account or for the node the operation names; the operation is the one that was
    sent under this id. -/
theorem results_fit {s : ActorDb} (hr : Reaches ActorDb.step ActorDb.init s)
    (hid : (s.commands.map Prod.fst).Nodup) :
    ∀ n o res b e, .operationResult n o res b e ∈ s.events →
      (n, o) ∈ s.commands ∧ ResultOf o res :=
  fun _ _ _ _ _ he => reaches_fits hr hid he

end

/-- A snapshot of a database with one account, for the node that asked for it. -/
theorem results_fit_example :
    ∃ s, run ActorDb.step ActorDb.init
        [.execute 1 (.limitAccount 4 (some 9)), .router, .account 4, .router,
          .execute 2 (.getDatabase (.v4 16777343 5001)), .router, .account 4, .router] = some s ∧
      ∃ res, .operationResult 2 (.getDatabase (.v4 16777343 5001)) res true none ∈ s.events ∧
        (2, .getDatabase (.v4 16777343 5001)) ∈ s.commands ∧
        ResultOf (.getDatabase (.v4 16777343 5001)) res := by
  have hrun : (run ActorDb.step ActorDb.init
      [.execute 1 (.limitAccount 4 (some 9)), .router, .account 4, .router,
        .execute 2 (.getDatabase (.v4 16777343 5001)), .router, .account 4, .router]).any
      (fun s => s.commands.map Prod.fst = [1, 2] ∧
        .operationResult 2 (.getDatabase (.v4 16777343 5001))
          (.databaseSnapshot ⟨.v4 16777343 5001, [⟨4, some 9, 0⟩], []⟩) true none ∈
            s.events) = true := by
    decide +kernel
  obtain ⟨s, hs, hp⟩ := (Option.any_eq_true _ _).mp hrun
  obtain ⟨hid, hmem⟩ := of_decide_eq_true hp
  exact ⟨s, hs, _, hmem, results_fit ⟨_, hs⟩ (by rw [hid]; decide) _ _ _ _ _ hmem⟩

end YpfRuta.Actors
