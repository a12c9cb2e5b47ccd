/-
  Charges and limit changes complete exactly once, and a charge is added to its
  card and to its account exactly when it is reported successful.
-/
import YpfRuta.Lib.Sums
import YpfRuta.Actors.Books
import YpfRuta.Actors.Known

namespace YpfRuta.Actors

open Lib

section

variable {Amount : Type} [Currency Amount]

/-! ## What is added to a consumption -/

/-- A bill that ends resets the account. -/
def AccountActor.resets (self : AccountActor) : AccountMsg → Bool
  | .startAccountBill _ numCards => numCards = 0
  | .cardQueryReply opId _ _ =>
    match self.pendingQuery with
    | some p => p.opId = opId && p.remaining - 1 = 0 && p.billing
    | none => false
  | _ => false

/-- A bill resets the card it asks. -/
def CardActor.resets (self : CardActor) : CardMsg → Bool
  | .queryCardState _ accountId resetAfterReport =>
    accountId = self.accountId && resetAfterReport
  | _ => false

/-- Short of a snapshot, the consumption of an account changes by what is added to
    it or is reset. -/
theorem AccountActor.handle_adds (x : AccountActor) (m : AccountMsg)
    (hm : ∀ lim con, m ≠ .replaceState lim con) :
    (x.handle m).1.accountConsumed =
      ((x.added m).map Prod.snd).foldl (· + ·) (if x.resets m then 0 else x.accountConsumed) := by
  cases m with
  | applyChargeFromCard n amount c off k =>
    simp only [handle]
    obtain ⟨hadd, heq⟩ | ⟨hadd, -, err, heq⟩ := applyChargeFromCard_cases x n amount c off k <;>
      rw [hadd, heq] <;> simp [resets]
  | applyAccountLimit n lim =>
    simp only [handle]
    obtain ⟨-, heq⟩ | ⟨err, -, heq⟩ := applyAccountLimit_cases x n lim <;>
      rw [heq] <;> simp [resets, added]
  | startAccountQuery n num =>
    simp only [handle, startAccountQuery]
    split <;> simp [resets, added]
  | startAccountBill n num =>
    simp only [handle, startAccountBill]
    split <;> rename_i hnum <;> simp [resets, added, hnum]
  | cardQueryReply n c con =>
    simp only [handle, cardQueryReply]
    split
    · rename_i p hp
      by_cases hn : p.opId = n
      · by_cases hrem : p.remaining - 1 = 0 <;>
          simp [resets, added, collectReply, hp, hn, hrem]
      · simp [resets, added, unexpectedReply, hp, hn]
    · rename_i hp
      simp [resets, added, unexpectedReply, hp]
  | getSnapshot n => simp [handle, resets, added]
  | replaceState lim con => exact absurd rfl (hm lim con)

/-- Short of a snapshot, the consumption of a card changes by what is added to it
    or is reset. -/
theorem CardActor.handle_adds (c : CardActor) (m : CardMsg)
    (hm : ∀ lim con, m ≠ .replaceState lim con) :
    (c.handle m).1.consumed =
      ((c.added m).map Prod.snd).foldl (· + ·) (if c.resets m then 0 else c.consumed) := by
  have haccept : ∀ t, (c.acceptTask t).1.consumed = c.consumed := by
    intro t
    unfold acceptTask
    split
    · exact pump_consumed _
    · rfl
  cases m with
  | executeCharge n a c' amount off =>
    simp only [handle, resets, added, Bool.false_eq_true, if_false, List.map_nil, List.foldl_nil]
    obtain heq | ⟨text, heq⟩ := executeCharge_cases c n a c' amount off <;> rw [heq]
    exact haccept _
  | executeLimitChange n lim => simpa [handle, resets, added] using haccept _
  | queryCardState n a reset =>
    simp only [handle, resets, added, List.map_nil, List.foldl_nil, Bool.and_eq_true,
      decide_eq_true_eq]
    obtain ⟨ha, heq⟩ | ⟨ha, text, heq⟩ := queryCardState_cases c n a reset <;> rw [heq] <;>
      simp [ha]
  | getSnapshot n => simp [handle, resets, added]
  | replaceState lim con => exact absurd rfl (hm lim con)
  | debug text => simp [handle, resets, added]
  | chargeReply r =>
    simp only [handle, resets, added, Bool.false_eq_true, if_false]
    cases hcur : c.currentTask with
    | none => simp [handleChargeReply, hcur]
    | some t =>
      cases t with
      | limitChange n lim => simp [handleChargeReply, hcur]
      | charge op =>
        by_cases hop : op.opId = r.opId
        · simp only [handleChargeReply, hcur, hop, if_true, finish_consumed, true_and]
          split <;> simp
        · simp [handleChargeReply, hcur, hop]

/-! ## What a step adds -/

/-- The amount added to account `a`. -/
def Applied.toAccount? (a : AccountId) : Applied → Option Amount
  | .account a' _ amount => if a' = a then some amount else none
  | .card .. => none

/-- The amount added to card `k`. -/
def Applied.toCard? (k : CardKey) : Applied → Option Amount
  | .card k' _ amount => if k' = k then some amount else none
  | .account .. => none

/-- The step is the end of a bill at account `a`. -/
def ActorDb.resetsAccount (s : ActorDb) (a : AccountId) : Label → Bool
  | .account a' => a' = a && (s.accountBox a).head?.any (s.account a).resets
  | _ => false

/-- The step is a bill's question to card `k`. -/
def ActorDb.resetsCard (s : ActorDb) (k : CardKey) : Label → Bool
  | .card k' => k' = k && (s.cardBox k).head?.any (s.card k).resets
  | _ => false

/-- **What a step adds.** It puts `xs` on record, and the consumption of every account and of
    every card changes by what is on record for it, unless a bill sets it back to zero. -/
structure ActorDb.Adds (s : ActorDb) (l : Label) (s' : ActorDb) (xs : List Applied) : Prop where
  applied : s'.applied = s.applied ++ xs
  account : ∀ a, (s'.account a).accountConsumed = (xs.filterMap (Applied.toAccount? a)).foldl
    (· + ·) (if s.resetsAccount a l then 0 else (s.account a).accountConsumed)
  card : ∀ k, (s'.card k).consumed = (xs.filterMap (Applied.toCard? k)).foldl
    (· + ·) (if s.resetsCard k l then 0 else (s.card k).consumed)

theorem accountMsgOrigin.not_replaceState {K : OpId → Operation Amount → Prop} {a : AccountId}
    {m : AccountMsg} (h : accountMsgOrigin K a m)
    (hrep : ∀ n snapshot, ¬ K n (.replaceDatabase snapshot)) :
    ∀ lim con, m ≠ .replaceState lim con := by
  rintro lim con rfl
  obtain ⟨n, snapshot, hk, -⟩ := h
  exact hrep n snapshot hk

section Step

variable {xs : List (OpId × Amount)} {a b : AccountId} {j k : CardKey}

theorem filterMap_toAccount_self :
    (xs.map fun p => Applied.account a p.1 p.2).filterMap (Applied.toAccount? a) =
      xs.map Prod.snd := by
  rw [List.filterMap_map, ← List.filterMap_eq_map]
  exact List.filterMap_congr fun p _ => if_pos rfl

theorem filterMap_toAccount_of_ne (h : a ≠ b) :
    (xs.map fun p => Applied.account a p.1 p.2).filterMap (Applied.toAccount? b) = [] := by
  rw [List.filterMap_map]
  exact List.filterMap_eq_nil_iff.mpr fun p _ => if_neg h

theorem filterMap_toCard_self :
    (xs.map fun p => Applied.card k p.1 p.2).filterMap (Applied.toCard? k) = xs.map Prod.snd := by
  rw [List.filterMap_map, ← List.filterMap_eq_map]
  exact List.filterMap_congr fun p _ => if_pos rfl

theorem filterMap_toCard_of_ne (h : k ≠ j) :
    (xs.map fun p => Applied.card k p.1 p.2).filterMap (Applied.toCard? j) = [] := by
  rw [List.filterMap_map]
  exact List.filterMap_eq_nil_iff.mpr fun p _ => if_neg h

theorem filterMap_toCard_account :
    (xs.map fun p => Applied.account a p.1 p.2).filterMap (Applied.toCard? k) = [] := by
  rw [List.filterMap_map]
  exact List.filterMap_eq_nil_iff.mpr fun _ _ => rfl

theorem filterMap_toAccount_card :
    (xs.map fun p => Applied.card k p.1 p.2).filterMap (Applied.toAccount? a) = [] := by
  rw [List.filterMap_map]
  exact List.filterMap_eq_nil_iff.mpr fun _ _ => rfl

/-- An account's turn adds to that account. -/
theorem ActorDb.accountStep_adds {s : ActorDb} {m : AccountMsg} {rest : List AccountMsg}
    (hbox : s.accountBox a = m :: rest) (hm : ∀ lim con, m ≠ .replaceState lim con) :
    s.Adds (.account a) (s.accountStep a m rest)
      (((s.account a).added m).map fun p => Applied.account a p.1 p.2) where
  applied := rfl
  account b := by
    by_cases hb : a = b
    · subst hb
      have hreset : s.resetsAccount a (.account a) = (s.account a).resets m := by
        simp [resetsAccount, hbox]
      rw [accountStep_account, Function.update_self, filterMap_toAccount_self, hreset]
      exact (s.account a).handle_adds m hm
    · have hreset : s.resetsAccount b (.account a) = false := by simp [resetsAccount, hb]
      rw [accountStep_account, Function.update_of_ne (Ne.symm hb), filterMap_toAccount_of_ne hb,
        hreset]
      rfl
  card k := by
    rw [filterMap_toCard_account]
    rfl

/-- A card's turn adds to that card. -/
theorem ActorDb.cardStep_adds {s : ActorDb} {m : CardMsg} {rest : List CardMsg}
    (hbox : s.cardBox k = m :: rest) (hm : ∀ lim con, m ≠ .replaceState lim con) :
    s.Adds (.card k) (s.cardStep k m rest)
      (((s.card k).added m).map fun p => Applied.card k p.1 p.2) where
  applied := rfl
  account a := by
    rw [filterMap_toAccount_card]
    rfl
  card j := by
    by_cases hj : k = j
    · subst hj
      have hreset : s.resetsCard k (.card k) = (s.card k).resets m := by
        simp [resetsCard, hbox]
      rw [cardStep_card, Function.update_self, filterMap_toCard_self, hreset]
      exact (s.card k).handle_adds m hm
    · have hreset : s.resetsCard j (.card k) = false := by simp [resetsCard, hj]
      rw [cardStep_card, Function.update_of_ne (Ne.symm hj), filterMap_toCard_of_ne hj, hreset]
      rfl

/-- **A step adds what it puts on record**, short of a snapshot. -/
theorem ActorDb.step_adds {K : OpId → Operation Amount → Prop} {s s' : ActorDb} {l : Label}
    (ho : (originInv K).Holds s) (hrep : ∀ n snapshot, ¬ K n (.replaceDatabase snapshot))
    (h : s.step l = some s') : ∃ xs, s.Adds l s' xs := by
  obtain ⟨n, o, rfl, rfl⟩ | ⟨m, rest, rfl, -, -, rfl⟩ | ⟨a, m, rest, rfl, hbox, rfl⟩ |
    ⟨k, m, rest, rfl, hbox, rfl⟩ := step_cases h
  · exact ⟨[], (List.append_nil _).symm, fun _ => rfl, fun _ => rfl⟩
  · exact ⟨[], (List.append_nil _).symm, fun _ => rfl, fun _ => rfl⟩
  · have hm := ho.accountBox a m (hbox ▸ List.mem_cons_self)
    exact ⟨_, accountStep_adds hbox (accountMsgOrigin.not_replaceState hm hrep)⟩
  · have hm := ho.cardBox k m (hbox ▸ List.mem_cons_self)
    exact ⟨_, cardStep_adds hbox (cardMsgOrigin.not_replaceState hm hrep)⟩

end Step

/-! ## Runs -/

/-- A card passes a charge on, or finishes a task, as soon as it becomes current. -/
def chargeInv : LocalInv :=
  { LocalInv.trivial with
    card := fun _ c => ∀ t, c.currentTask = some t → ∃ op, t = .charge op }

theorem charge_preserved {J : LocalInv} : LocalInv.Preserved J chargeInv where
  router r m _ _ _ _ := ⟨True.intro, fun x _ => by cases x <;> exact True.intro⟩
  account a x m _ _ _ _ := ⟨True.intro, fun y _ => by cases y <;> exact True.intro⟩
  card k c m _ _ h _ := by
    refine ⟨?_, fun y _ => by cases y <;> exact True.intro⟩
    have haccept : ∀ t, ∀ u, (c.acceptTask t).1.currentTask = some u → ∃ op, u = .charge op := by
      intro t
      unfold CardActor.acceptTask
      split
      · exact CardActor.pump_charge _
      · exact h
    cases m with
    | executeCharge n a c' amount off =>
      simp only [CardActor.handle]
      obtain heq | ⟨text, heq⟩ := CardActor.executeCharge_cases c n a c' amount off <;> rw [heq]
      · exact haccept _
      · exact h
    | executeLimitChange n lim => exact haccept _
    | queryCardState n a reset =>
      simp only [CardActor.handle]
      obtain ⟨-, heq⟩ | ⟨-, text, heq⟩ := CardActor.queryCardState_cases c n a reset <;>
        rw [heq] <;> exact h
    | getSnapshot n => exact h
    | replaceState lim con =>
      intro t ht
      cases ht
    | debug text => exact h
    | chargeReply r =>
      simp only [CardActor.handle]
      obtain ⟨op, -, -, heq⟩ | ⟨-, text, heq⟩ := CardActor.handleChargeReply_cases c r <;> rw [heq]
      · exact CardActor.finish_charge _ _ _ _
      · exact h

/-- What was added was added for a charge, with its amount. -/
def AppliedOrigin (K : OpId → Operation Amount → Prop) : Applied → Prop
  | .account a n amount => ∃ c off, K n (.charge a c amount off)
  | .card k n amount => ∃ off, K n (.charge k.1 k.2 amount off)

theorem applied_origin_step {K : OpId → Operation Amount → Prop} {s s' : ActorDb} {l : Label}
    (ho : (originInv K).Holds s) (hi : ∀ x ∈ s.applied, AppliedOrigin K x)
    (h : s.step l = some s') : ∀ x ∈ s'.applied, AppliedOrigin K x := by
  obtain ⟨n, o, rfl, rfl⟩ | ⟨m, rest, rfl, -, -, rfl⟩ | ⟨a, m, rest, rfl, hbox, rfl⟩ |
    ⟨k, m, rest, rfl, -, rfl⟩ := ActorDb.step_cases h
  · exact hi
  · exact hi
  · have hm := ho.accountBox a m (by rw [hbox]; exact List.mem_cons_self)
    intro x hx
    simp only [ActorDb.accountStep, ActorDb.deliver, List.mem_append, List.mem_map] at hx
    obtain hx | ⟨p, hp, rfl⟩ := hx
    · exact hi x hx
    · cases m with
      | applyChargeFromCard n amount c off k =>
        obtain ⟨hadd, -⟩ | ⟨hadd, -⟩ :=
          AccountActor.applyChargeFromCard_cases (s.account a) n amount c off k <;>
          rw [hadd] at hp
        · obtain rfl := List.mem_singleton.mp hp
          exact ⟨c, off, hm.2⟩
        · cases hp
      | _ => cases hp
  · intro x hx
    simp only [ActorDb.cardStep, ActorDb.deliver, List.mem_append, List.mem_map] at hx
    obtain hx | ⟨p, hp, rfl⟩ := hx
    · exact hi x hx
    · cases m with
      | chargeReply r =>
        simp only [CardActor.added] at hp
        split at hp
        · rename_i op hcur
          split at hp
          · obtain rfl := List.mem_singleton.mp hp
            exact ⟨op.fromOfflineStation, (ho.card k).current _ hcur⟩
          · cases hp
        · cases hp
      | _ => cases hp

section Runs

variable {s : ActorDb} {n : OpId} {k : CardKey} {o : Operation Amount}

/-- No command of the run is a snapshot replacement. -/
def ActorDb.NoReplace (s : ActorDb) : Prop :=
  ∀ n snapshot, (n, .replaceDatabase snapshot) ∉ s.commands

theorem flight_reaches (hr : Reaches ActorDb.step ActorDb.init s)
    (hid : (s.commands.map Prod.fst).Nodup) (hrep : s.NoReplace) {amount : Amount} {off : Bool}
    (hn : (n, .charge k.1 k.2 amount off) ∈ s.commands) : FlightBook n k s :=
  (reaches_induct hr (P := FlightBook n k) origin_init rfl fun _ _ _ ho _ hi h =>
    FlightBook.step (K := fun n o => (n, o) ∈ s.commands)
      (fun _ ho' => command_unique hid ho' hn) hrep ho hi h).2

theorem charge_reaches (hr : Reaches ActorDb.step ActorDb.init s)
    (hid : (s.commands.map Prod.fst).Nodup) (hrep : s.NoReplace) {amount : Amount} {off : Bool}
    (hn : (n, .charge k.1 k.2 amount off) ∈ s.commands) : ChargeBook n k amount s := by
  have huniq : ∀ o, (n, o) ∈ s.commands → o = .charge k.1 k.2 amount off :=
    fun o ho => command_unique hid ho hn
  refine (reaches_induct hr (P := fun t => FlightBook n k t ∧ ChargeBook n k amount t)
    origin_init ⟨rfl, rfl, rfl⟩ ?_).2.2
  intro t l t' ho _ hi h
  exact ⟨hi.1.step (K := fun n o => (n, o) ∈ s.commands) huniq hrep ho h,
    hi.2.step (K := fun n o => (n, o) ∈ s.commands) huniq hrep ho hi.1 h⟩

/-- At rest no charge is in flight, so no card has a task. -/
theorem idle_of_quiescent (hr : Reaches ActorDb.step ActorDb.init s)
    (hid : (s.commands.map Prod.fst).Nodup) (hrep : s.NoReplace) (hq : s.Quiescent)
    (k : CardKey) : (s.card k).currentTask = none ∧ (s.card k).queue = [] := by
  have hinit : chargeInv.Holds ActorDb.init := by
    refine LocalInv.holds_init True.intro (fun _ => True.intro) ?_
    intro k t ht
    cases ht
  obtain ⟨horig, hcharge⟩ :=
    reaches_local hr charge_preserved (fun _ _ _ => True.intro) origin_init hinit
  have hnone : (s.card k).currentTask = none := by
    by_contra hne
    obtain ⟨t, ht⟩ := Option.ne_none_iff_exists'.mp hne
    obtain ⟨op, rfl⟩ := hcharge.card k t ht
    have hbook := flight_reaches hr hid hrep ((horig.card k).current _ ht)
    unfold FlightBook at hbook
    rw [hq.account, hq.card] at hbook
    simp [CardActor.inFlight, ht] at hbook
  exact ⟨hnone, (horig.card k).idle hnone⟩

/-- A charge or a limit change keeps the book of its actor. -/
structure Located (n : OpId) (o : Operation Amount) (t : ActorDb) : Prop where
  card : ∀ k, cardKey? o = some k → TaskBook n k t
  account : ∀ a, limitedAccount? o = some a → LimitBook n a t

theorem located_reaches (hr : Reaches ActorDb.step ActorDb.init s)
    (hid : (s.commands.map Prod.fst).Nodup) (hrep : s.NoReplace) (hn : (n, o) ∈ s.commands) :
    Located n o s := by
  have huniq : ∀ o', (n, o') ∈ s.commands → o' = o := fun o' ho => command_unique hid ho hn
  refine (reaches_induct hr (P := Located n o) origin_init ⟨fun _ _ => rfl, fun _ _ => rfl⟩ ?_).2
  intro t l t' ho _ hi h
  constructor
  · intro k hk
    exact TaskBook.step (K := fun n o => (n, o) ∈ s.commands)
      (fun o' ho' => huniq o' ho' ▸ hk) hrep ho (hi.card k hk) h
  · intro a ha
    exact LimitBook.step (K := fun n o => (n, o) ∈ s.commands)
      (fun o' ho' => huniq o' ho' ▸ ha) hrep ho (hi.account a ha) h

/-- The results of a task are its reports, in order, with its own operation. -/
theorem result_reaches (hr : Reaches ActorDb.step ActorDb.init s)
    (hid : (s.commands.map Prod.fst).Nodup) (hn : (n, o) ∈ s.commands) (ht : IsTask o) :
    ResultBook n o s := by
  refine (reaches_induct hr (P := fun t => t.Started ∧ ResultBook n o t) origin_init ?_ ?_).2.2
  · refine ⟨started_init, rfl, ?_⟩
    intro o' r b e he
    cases he
  · intro t l t' ho _ hi h
    have huniq : ∀ n o o', (n, o) ∈ s.commands → (n, o') ∈ s.commands → o = o' :=
      fun n o o' => command_unique hid
    exact ⟨started_step huniq ho hi.1 h, hi.2.step (K := fun n o => (n, o) ∈ s.commands)
      (fun o' ho' => command_unique hid ho' hn) ht hi.1 ho h⟩

/-- At rest every charge and every limit change has been reported once. -/
theorem completed_eq_one (hr : Reaches ActorDb.step ActorDb.init s)
    (hid : (s.commands.map Prod.fst).Nodup) (hrep : s.NoReplace) (hq : s.Quiescent)
    (hn : (n, o) ∈ s.commands) (ht : IsTask o) : s.completed n = 1 := by
  have hloc := located_reaches hr hid hrep hn
  have hone := commanded_eq_one hid hn
  have hcard : ∀ k, TaskBook n k s → s.completed n = 1 := by
    intro k hb
    obtain ⟨hcur, hqueue⟩ := idle_of_quiescent hr hid hrep hq k
    unfold TaskBook at hb
    rw [hq.router, hq.card] at hb
    simp only [CardActor.tasks, hcur, hqueue, Option.toList_none, List.countP_nil] at hb
    omega
  cases o with
  | charge a c amount off => exact hcard _ (hloc.card (a, c) rfl)
  | limitCard a c lim => exact hcard _ (hloc.card (a, c) rfl)
  | limitAccount a lim =>
    have hb := hloc.account a rfl
    unfold LimitBook at hb
    rw [hq.router, hq.account] at hb
    simp only [List.countP_nil] at hb
    omega
  | _ => exact ht.elim

end Runs

/-! ## Atomicity of a charge -/

/-- The `OperationCompleted`s of `n`: success and error. -/
def ActorDb.reportsOf (s : ActorDb) (n : OpId) : List (Bool × Option VerifyError) :=
  s.reported.filterMap (RouterMsg.report? n)

/-- The `OperationResult`s of `n`. -/
def ActorDb.resultsOf (s : ActorDb) (n : OpId) : List ActorEvent :=
  s.events.filter (ActorEvent.results n)

def Applied.opId : Applied → OpId
  | .account _ n _ => n
  | .card _ n _ => n

/-- A charge was added `times` times to its account and to its card, and to
    nothing else. -/
structure ActorDb.Added (s : ActorDb) (n : OpId) (k : CardKey) (amount : Amount) (times : Nat) :
    Prop where
  account : s.applied.count (.account k.1 n amount) = times
  card : s.applied.count (.card k n amount) = times
  only : ∀ x ∈ s.applied, x.opId = n → x = .account k.1 n amount ∨ x = .card k n amount

theorem length_outcomes (n : OpId) (xs : List ActorEvent) :
    (xs.filterMap (ActorEvent.outcome? n)).length = (xs.filter (ActorEvent.results n)).length := by
  rw [List.length_filterMap_eq_countP, List.countP_eq_length_filter]
  congr 2
  funext x
  cases x with
  | operationResult n' o r b e =>
    by_cases hn : n' = n <;> simp [ActorEvent.results, ActorEvent.outcome?, hn]
  | debug text => rfl

/-- At rest, a reported charge was added as often as it was reported successful. -/
theorem added_of_quiescent {s : ActorDb} (hr : Reaches ActorDb.step ActorDb.init s)
    (hid : (s.commands.map Prod.fst).Nodup) (hrep : s.NoReplace) (hq : s.Quiescent) {n : OpId}
    {k : CardKey} {amount : Amount} {off : Bool}
    (hn : (n, .charge k.1 k.2 amount off) ∈ s.commands) :
    s.Added n k amount (s.reported.countP (RouterMsg.succeeds n)) := by
  have hbook := charge_reaches hr hid hrep hn
  have horig : ∀ x ∈ s.applied, AppliedOrigin (fun n o => (n, o) ∈ s.commands) x :=
    (reaches_induct hr
      (P := fun t => ∀ x ∈ t.applied, AppliedOrigin (fun n o => (n, o) ∈ s.commands) x)
      origin_init (by simp [ActorDb.init]) fun _ _ _ ho _ hi h => applied_origin_step ho hi h).2
  refine ⟨?_, hbook.card.symm, ?_⟩
  · have hacc := hbook.account
    rw [hq.card, List.countP_nil, Nat.zero_add] at hacc
    exact hacc.symm
  · rintro x hx rfl
    cases x with
    | account a n amount' =>
      obtain ⟨c, off', hc⟩ := horig _ hx
      have heq := command_unique hid hc hn
      simp only [Operation.charge.injEq] at heq
      rw [heq.1, heq.2.2.1]
      exact Or.inl rfl
    | card k' n amount' =>
      obtain ⟨off', hc⟩ := horig _ hx
      have heq := command_unique hid hc hn
      simp only [Operation.charge.injEq] at heq
      have hk : k' = k := Prod.ext heq.1 heq.2.1
      rw [hk, heq.2.2.1]
      exact Or.inr rfl

/-- **What a completed task left behind.** One report, one result with the original
    operation and the result of that report; a failure names its error; a charge is
    added once if it succeeded and never if it failed; an offline one succeeds. -/
def ActorDb.Completed (s : ActorDb) (n : OpId) (o : Operation Amount) : Prop :=
  ∃ success error result,
    s.reportsOf n = [(success, error)] ∧
    s.resultsOf n = [.operationResult n o result success error] ∧
    ActorRouter.completedResult o success error = some result ∧
    (success = false → error ≠ none) ∧
    ∀ a c amount off, o = .charge a c amount off →
      s.Added n (a, c) amount (if success then 1 else 0) ∧ (off = true → success = true)

/-- At rest every charge and every limit change is completed. -/
theorem completed_of_quiescent {s : ActorDb} (hr : Reaches ActorDb.step ActorDb.init s)
    (hid : (s.commands.map Prod.fst).Nodup) (hrep : s.NoReplace) (hq : s.Quiescent) {n : OpId}
    {o : Operation Amount} (hn : (n, o) ∈ s.commands) (ht : IsTask o) : s.Completed n o := by
  have horig := origin_reaches hr
  have hres := result_reaches hr hid hn ht
  have hone := completed_eq_one hr hid hrep hq hn ht
  unfold ActorDb.completed at hone
  obtain ⟨⟨b, e⟩, hrepb⟩ : ∃ x, s.reported.filterMap (RouterMsg.report? n) = [x] := by
    rw [← List.length_eq_one_iff, length_reports, hone]
  -- the results are the reports, since the router has no mail left
  have hevents : s.events.filterMap (ActorEvent.outcome? n) = [(b, e)] := by
    have h := hres.reports
    rw [hq.router, hrepb] at h
    simpa using h.symm
  obtain ⟨ev, hev⟩ : ∃ ev, s.events.filter (ActorEvent.results n) = [ev] := by
    rw [← List.length_eq_one_iff, ← length_outcomes, hevents]
    rfl
  have hmem : ev ∈ s.events.filter (ActorEvent.results n) := by simp [hev]
  obtain ⟨hin, hevn⟩ := List.mem_filter.mp hmem
  cases ev with
  | debug text => cases hevn
  | operationResult n' o' r b' e' =>
    obtain rfl : n' = n := by simpa [ActorEvent.results] using hevn
    have hout : ActorEvent.outcome? n' (.operationResult n' o' r b' e') = some (b', e') := by
      simp [ActorEvent.outcome?]
    have hbe := List.mem_filterMap.mpr ⟨_, hin, hout⟩
    rw [hevents] at hbe
    obtain ⟨rfl, rfl⟩ := Prod.mk.inj (List.mem_singleton.mp hbe)
    obtain ⟨rfl, hcomp⟩ := hres.results _ _ _ _ hin
    -- the report itself carries the outcome of its operation
    have hreport : RouterMsg.operationCompleted n' b' e' ∈ s.reported :=
      mem_reports (by rw [hrepb]; exact List.mem_singleton_self _)
    obtain ⟨o'', ho'', -, hlegit⟩ := horig.reported _ hreport
    obtain rfl := command_unique hid ho'' hn
    refine ⟨b', e', r, hrepb, hev, hcomp, fun hb => (hlegit hb).1, ?_⟩
    rintro a c amount off rfl
    constructor
    · have hadd := added_of_quiescent hr hid hrep hq (k := (a, c)) hn
      have hsucc : s.reported.countP (RouterMsg.succeeds n') = if b' then 1 else 0 := by
        rw [countP_succeeds, hrepb]
        cases b' <;> rfl
      rw [hsucc] at hadd
      exact hadd
    · intro hoff
      by_contra hb
      exact (hlegit (by simpa using hb)).2 hoff

/-- **Charge atomicity.** In every quiescent state of a run without snapshot replacement and
    with distinct ids, every charge and every limit change is completed, and a charge is on
    record once for its card and once for its account, or for neither. What is on record is
    what the consumptions have changed by, in every step of the run. -/
theorem tasks_complete {ls : List Label} {s : ActorDb}
    (hr : run ActorDb.step ActorDb.init ls = some s) (hid : (s.commands.map Prod.fst).Nodup)
    (hrep : s.NoReplace) (hq : s.Quiescent) :
    (∀ n o, (n, o) ∈ s.commands → IsTask o → s.Completed n o) ∧
    ∀ ks l u u', ks ++ [l] <+: ls → run ActorDb.step ActorDb.init ks = some u →
      u.step l = some u' → ∃ xs, u.Adds l u' xs := by
  refine ⟨fun n o hn ht => completed_of_quiescent ⟨ls, hr⟩ hid hrep hq hn ht, ?_⟩
  rintro ks l u u' ⟨ms, rfl⟩ hu hl
  obtain ⟨v, hv, hlater⟩ := run_append.mp hr
  obtain ⟨w, hw, hwl⟩ := run_concat.mp hv
  obtain rfl : u = w := Option.some.inj (hu.symm.trans hw)
  obtain rfl : u' = v := Option.some.inj (hl.symm.trans hwl)
  refine ActorDb.step_adds (origin_reaches ⟨ks, hu⟩) (fun n snapshot hn => hrep n snapshot ?_) hl
  exact ((ActorDb.step_commands hl).trans (run_commands hlater)).subset hn

end

/-! ## Exact amounts -/

theorem AccountActor.handle_consumed (x : AccountActor) (m : AccountMsg)
    (hm : ∀ lim con, m ≠ .replaceState lim con) :
    (x.handle m).1.accountConsumed =
      (if x.resets m then 0 else x.accountConsumed) + ((x.added m).map Prod.snd).sum :=
  (x.handle_adds m hm).trans (foldl_add _ _)

theorem CardActor.handle_consumed (c : CardActor) (m : CardMsg)
    (hm : ∀ lim con, m ≠ .replaceState lim con) :
    (c.handle m).1.consumed =
      (if c.resets m then 0 else c.consumed) + ((c.added m).map Prod.snd).sum :=
  (c.handle_adds m hm).trans (foldl_add _ _)

theorem totalSpent_eq_sum (spent : List (CardId × Amount)) :
    AccountActor.totalSpent spent = (spent.map Prod.snd).sum :=
  (foldl_add _ _).trans (zero_add _)

/-- Two charges race for an account limit; the second is refused by the account. -/
def limitRace : List Label :=
  [.execute 1 (.limitAccount 1 (some 100)), .execute 2 (.charge 1 7 60 false),
    .execute 3 (.charge 1 7 70 false), .router, .router, .router, .account 1, .card (1, 7),
    .card (1, 7), .account 1, .card (1, 7), .account 1, .card (1, 7), .router, .router, .router]

theorem tasks_complete_example :
    ∃ s, run ActorDb.step ActorDb.init limitRace = some s ∧ s.Quiescent ∧
      s.reportsOf 3 = [(false, some (.chargeLimit .accountLimitExceeded))] ∧
      (s.account 1).accountConsumed = 60 ∧ (s.card (1, 7)).consumed = 60 ∧
      s.Completed 2 (.charge 1 7 60 false) ∧ s.Completed 3 (.charge 1 7 70 false) ∧
      ∀ ks l u u', ks ++ [l] <+: limitRace → run ActorDb.step ActorDb.init ks = some u →
        u.step l = some u' → ∃ xs, u.Adds l u' xs := by
  have hrun : (run ActorDb.step ActorDb.init limitRace).any (fun s =>
      s.commands = [(1, .limitAccount 1 (some 100)), (2, .charge 1 7 60 false),
        (3, .charge 1 7 70 false)] ∧
      s.Drained ∧ s.reportsOf 3 = [(false, some (.chargeLimit .accountLimitExceeded))] ∧
      (s.account 1).accountConsumed = 60 ∧ (s.card (1, 7)).consumed = 60) = true := by
    decide +kernel
  obtain ⟨s, hs, hp⟩ := (Option.any_eq_true _ _).mp hrun
  obtain ⟨hcmd, hd, hrep3, hacc, hcard⟩ := of_decide_eq_true hp
  have hq : s.Quiescent := quiescent_of_known (known_reaches ⟨_, hs⟩) hd
  have hrep : s.NoReplace := by
    unfold ActorDb.NoReplace
    rw [hcmd]
    simp
  obtain ⟨hall, hadds⟩ := tasks_complete hs (by rw [hcmd]; decide) hrep hq
  refine ⟨s, hs, hq, hrep3, hacc, hcard, hall 2 _ ?_ True.intro, hall 3 _ ?_ True.intro, hadds⟩ <;>
    simp [hcmd]

end YpfRuta.Actors
