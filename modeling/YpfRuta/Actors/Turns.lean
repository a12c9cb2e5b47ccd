/-
  The actors come to rest. A message costs the turn that handles it and the most turns
  of everything it can still set off, a task that waits at a card costs the turns its
  start sets off, and no turn of an actor sets off more than it was counted for. So the
  commands of a run bound the turns of its actors, whatever the interleaving.

  A query, a bill or a snapshot asks every actor the router knows, so its cost depends
  on how many there are; the commands bound that as well.
-/
import Mathlib.Algebra.GroupWithZero.Nat
import YpfRuta.Lib.Sums
import YpfRuta.Actors.Flight

namespace YpfRuta.Actors

open Lib

section

variable {Amount : Type} [Currency Amount]

/-! ## What a message costs -/

/-- The most turns a task that waits at a card sets off when it starts. -/
def CardTask.cost : CardTask → Nat
  | .charge _ => 3
  | .limitChange .. => 1

def AccountMsg.cost : AccountMsg → Nat
  | .applyChargeFromCard .. => 3
  | .replaceState .. => 1
  | _ => 2

def CardMsg.cost : CardMsg → Nat
  | .executeCharge .. => 4
  | .queryCardState .. => 3
  | .replaceState .. => 1
  | _ => 2

/-- A command, when the router knows at most `size` actors. -/
def commandCost (size : Nat) : Operation Amount → Nat
  | .charge .. => 5
  | .limitAccount .. | .limitCard .. => 3
  | .accountQuery _ | .bill .. => 3 + 3 * size
  | .getDatabase _ => 1 + 2 * size
  | .replaceDatabase snapshot => 1 + snapshot.accounts.length + snapshot.cards.length

def RouterMsg.cost (size : Nat) : RouterMsg → Nat
  | .execute _ operation => commandCost size operation
  | _ => 1

def Send.cost (size : Nat) : Send → Nat
  | .router m => m.cost size
  | .account _ m => m.cost
  | .card _ m => m.cost
  | .event _ => 0

/-- The tasks that wait at a card. -/
def CardActor.waiting (self : CardActor) : Nat := (self.queue.map CardTask.cost).sum

/-- The most actors a command makes known. -/
def commandSize : Operation Amount → Nat
  | .charge .. | .limitCard .. => 2
  | .limitAccount .. | .accountQuery _ | .bill .. => 1
  | .getDatabase _ => 0
  | .replaceDatabase snapshot => snapshot.accounts.length + 2 * snapshot.cards.length

def RouterMsg.size : RouterMsg → Nat
  | .execute _ operation => commandSize operation
  | _ => 0

/-- The most actors the commands of a run make known. -/
def mostActors (commands : List (OpId × Operation Amount)) : Nat :=
  (commands.map fun command => commandSize command.2).sum

omit [Currency Amount] in
theorem mostActors_mono {xs ys : List (OpId × Operation Amount)} (h : xs <+: ys) :
    mostActors xs ≤ mostActors ys := by
  obtain ⟨zs, rfl⟩ := h
  simp [mostActors]

/-- The most turns the commands of a run set off. -/
def mostTurns (size : Nat) (commands : List (OpId × Operation Amount)) : Nat :=
  (commands.map fun command => commandCost size command.2).sum

def costOf (size : Nat) (sends : List Send) : Nat := (sends.map (Send.cost size)).sum

@[simp] theorem costOf_nil (size : Nat) : costOf size [] = 0 := rfl

@[simp] theorem costOf_cons (size : Nat) (x : Send) (xs : List Send) :
    costOf size (x :: xs) = x.cost size + costOf size xs := by
  simp [costOf]

@[simp] theorem costOf_append (size : Nat) (xs ys : List Send) :
    costOf size (xs ++ ys) = costOf size xs + costOf size ys := by
  simp [costOf]

/-- Sends of one cost each. -/
theorem costOf_map {β : Type} {size c : Nat} {f : β → Send} {xs : List β}
    (h : ∀ x, (f x).cost size = c) : costOf size (xs.map f) = c * xs.length := by
  induction xs with
  | nil => simp
  | cons x xs ih =>
    rw [List.map_cons, costOf_cons, ih, h, List.length_cons, Nat.mul_succ]
    omega

/-! ## What a handler sets off -/

theorem AccountActor.handle_cost (size : Nat) (self : AccountActor) (m : AccountMsg) :
    costOf size (self.handle m).2 + 1 ≤ m.cost := by
  cases m with
  | applyChargeFromCard n amount c off k =>
    simp only [handle, applyChargeFromCard]
    split
    · simp [Send.cost, CardMsg.cost, AccountMsg.cost]
    · split <;> simp [Send.cost, CardMsg.cost, AccountMsg.cost]
  | applyAccountLimit n lim =>
    simp only [handle, applyAccountLimit]
    split <;> simp [Send.cost, RouterMsg.cost, AccountMsg.cost]
  | startAccountQuery n num =>
    simp only [handle, startAccountQuery]
    split <;> simp [Send.cost, RouterMsg.cost, AccountMsg.cost]
  | startAccountBill n num =>
    simp only [handle, startAccountBill]
    split <;> simp [Send.cost, RouterMsg.cost, AccountMsg.cost]
  | cardQueryReply n c consumed =>
    simp only [handle, cardQueryReply, collectReply, unexpectedReply]
    split
    · split
      · split <;> simp [Send.cost, RouterMsg.cost, AccountMsg.cost]
      · simp [Send.cost, RouterMsg.cost, AccountMsg.cost]
    · simp [Send.cost, RouterMsg.cost, AccountMsg.cost]
  | getSnapshot n => simp [handle, Send.cost, RouterMsg.cost, AccountMsg.cost]
  | replaceState lim consumed => simp [handle, AccountMsg.cost]

namespace CardActor

theorem one_le_cost (t : CardTask) : 1 ≤ t.cost := by
  cases t <;> simp [CardTask.cost]

/-- **The pump** sets off no more than its current task and the tasks behind it. -/
theorem pump_cost (size : Nat) (c : CardActor) :
    costOf size c.startCurrentTask.2 + c.startCurrentTask.1.waiting ≤
      (c.currentTask.map CardTask.cost).getD 0 + c.waiting := by
  refine pump_induct (P := fun c r => costOf size r.2 + r.1.waiting ≤
    (c.currentTask.map CardTask.cost).getD 0 + c.waiting) ?_ ?_ ?_ ?_ c
  · intro c hcur
    simp [hcur]
  · intro c op hcur _
    simp [hcur, applyCharge, Send.cost, AccountMsg.cost, CardTask.cost]
  · intro c t lim b e hcur _ hq
    have hone := one_le_cost t
    simp only [waiting, hq, hcur, completed, costOf_cons, costOf_nil, Send.cost, RouterMsg.cost,
      List.map_nil, List.sum_nil, Option.map_some, Option.getD_some]
    omega
  · intro c t lim b e t' q r hcur _ hq ih
    have hone := one_le_cost t
    simp only [waiting, hq, hcur, completed, costOf_cons, Send.cost, RouterMsg.cost,
      List.map_cons, List.sum_cons, Option.map_some, Option.getD_some] at ih ⊢
    omega

theorem finish_cost (size : Nat) (c : CardActor) (n : OpId) (b : Bool) (e : Option VerifyError) :
    costOf size (c.finishCurrentTask n b e).2 + (c.finishCurrentTask n b e).1.waiting ≤
      1 + c.waiting := by
  cases hq : c.queue with
  | nil =>
    rw [finishCurrentTask_nil c hq]
    simp [waiting, hq, completed, Send.cost, RouterMsg.cost]
  | cons t q =>
    rw [finishCurrentTask_cons c hq]
    have h := pump_cost size { c with currentTask := some t, queue := q }
    simp only [waiting, hq, completed, costOf_cons, Send.cost, RouterMsg.cost, List.map_cons,
      List.sum_cons, Option.map_some, Option.getD_some] at h ⊢
    omega

theorem acceptTask_cost (size : Nat) (c : CardActor) (t : CardTask) :
    costOf size (c.acceptTask t).2 + (c.acceptTask t).1.waiting ≤ t.cost + c.waiting := by
  unfold acceptTask
  split
  · exact pump_cost size { c with currentTask := some t }
  · simp [waiting, Nat.add_comm]

theorem handle_cost (size : Nat) (self : CardActor) (m : CardMsg) :
    costOf size (self.handle m).2 + 1 + (self.handle m).1.waiting ≤ m.cost + self.waiting := by
  cases m with
  | executeCharge n a c amount off =>
    simp only [handle, executeCharge]
    split
    · simp [Send.cost, RouterMsg.cost, CardMsg.cost]
    · have h := acceptTask_cost size self (.charge ⟨n, a, amount, off⟩)
      simp only [CardTask.cost] at h
      simp only [CardMsg.cost]
      omega
  | executeLimitChange n lim =>
    have h := acceptTask_cost size self (.limitChange n lim)
    simp only [CardTask.cost] at h
    simp only [handle, CardMsg.cost]
    omega
  | queryCardState n a reset =>
    simp only [handle, queryCardState]
    split <;> simp [waiting, Send.cost, RouterMsg.cost, AccountMsg.cost, CardMsg.cost]
  | getSnapshot n => simp [handle, Send.cost, RouterMsg.cost, CardMsg.cost]
  | replaceState lim consumed => simp [handle, waiting, CardMsg.cost]
  | debug text => simp [handle, Send.cost, RouterMsg.cost, CardMsg.cost]
  | chargeReply reply =>
    have hunknown : ∀ text, costOf size [.router (.debug text)] + 1 + self.waiting ≤
        (CardMsg.chargeReply reply).cost + self.waiting := by
      intro text
      simp [Send.cost, RouterMsg.cost, CardMsg.cost]
    simp only [handle, handleChargeReply]
    split
    · rename_i op hcur
      split
      · have h := finish_cost size
          { self with consumed := if reply.success then self.consumed + op.amount else self.consumed }
          reply.opId reply.success reply.error
        simp only [waiting] at h
        simp only [CardMsg.cost, waiting]
        omega
      · exact hunknown _
    · exact hunknown _

end CardActor

namespace ActorRouter

/-- The number of actors the router knows. -/
def size (r : ActorRouter) : Nat := r.accounts.toList.length + r.cards.toList.length

theorem length_insert_le {κ : Type} [DecidableEq κ] (ks : Keys κ) (k : κ) :
    (ks.insert k).toList.length ≤ ks.toList.length + 1 := by
  by_cases h : k ∈ ks
  · rw [Keys.toList_insert_of_mem h]
    omega
  · rw [Keys.toList_insert_of_not_mem h, List.length_append, List.length_singleton]

theorem getOrCreateAccount_size (r : ActorRouter) (a : AccountId) :
    (r.getOrCreateAccount a).size ≤ r.size + 1 := by
  have h := length_insert_le r.accounts a
  simp only [size, getOrCreateAccount]
  omega

theorem getOrCreateCard_size (r : ActorRouter) (a : AccountId) (c : CardId) :
    (r.getOrCreateCard a c).size ≤ r.size + 2 := by
  unfold getOrCreateCard
  split
  · omega
  · have ha := length_insert_le r.accounts a
    have hc := length_insert_le r.cards (a, c)
    simp only [size, getOrCreateAccount]
    omega

theorem foldl_size {β : Type} {f : ActorRouter → β → ActorRouter} {d : Nat}
    (hf : ∀ r x, (f r x).size ≤ r.size + d) (xs : List β) (r : ActorRouter) :
    (xs.foldl f r).size ≤ r.size + d * xs.length := by
  induction xs generalizing r with
  | nil => simp
  | cons x xs ih =>
    have h := ih (f r x)
    have hx := hf r x
    rw [List.foldl_cons, List.length_cons, Nat.mul_succ]
    omega

/-- A command makes no more actors known than it names. -/
theorem execute_size (r : ActorRouter) (n : OpId) (o : Operation Amount) :
    (r.execute n o).1.size ≤ r.size + commandSize o := by
  cases o with
  | charge a c amount off => exact getOrCreateCard_size _ a c
  | limitCard a c lim => exact getOrCreateCard_size _ a c
  | limitAccount a lim => exact getOrCreateAccount_size _ a
  | accountQuery a => exact getOrCreateAccount_size _ a
  | bill a period => exact getOrCreateAccount_size _ a
  | getDatabase addr =>
    simp only [execute, executeGetDatabase]
    split <;> exact Nat.le_refl _
  | replaceDatabase snapshot =>
    have hacc := foldl_size (fun r (x : AccountSnapshot Amount) =>
      getOrCreateAccount_size r x.accountId) snapshot.accounts
      { r with operations := Function.update r.operations n (some (.replaceDatabase snapshot)) }
    have hcards := foldl_size (fun r (x : CardSnapshot Amount) =>
      getOrCreateCard_size r x.accountId x.cardId) snapshot.cards
      (snapshot.accounts.foldl (fun r x => r.getOrCreateAccount x.accountId)
        { r with operations := Function.update r.operations n (some (.replaceDatabase snapshot)) })
    simp only [execute, executeReplaceDatabase, commandSize]
    have hsame : ∀ ops, ({ r with operations := ops } : ActorRouter).size = r.size := fun _ => rfl
    rw [hsame] at hacc
    omega

theorem handle_size (r : ActorRouter) (m : RouterMsg) :
    (r.handle m).1.size ≤ r.size + m.size := by
  by_cases hexec : ∃ n o, m = .execute n o
  · obtain ⟨n, o, rfl⟩ := hexec
    exact execute_size r n o
  · obtain ⟨hacc, hcards⟩ := handle_keys r m fun n o he => hexec ⟨n, o, he⟩
    simp only [size, hacc, hcards]
    omega

theorem queryCards_cost (size : Nat) (r : ActorRouter) (n : OpId) (a : AccountId)
    (start : AccountMsg) (reset : Bool) (hstart : start.cost = 2) (hsize : r.size ≤ size) :
    costOf size (r.queryCards n a start reset) + 1 ≤ 3 + 3 * size := by
  have hcards : (r.cardIds a).length ≤ r.cards.toList.length := by
    simp only [cardIds, List.length_map]
    exact List.length_filter_le _ _
  unfold queryCards
  rw [costOf_cons, costOf_map (c := 3) fun c => rfl]
  simp only [Send.cost, hstart]
  unfold ActorRouter.size at hsize
  omega

theorem execute_cost (size : Nat) (r : ActorRouter) (n : OpId) (o : Operation Amount)
    (hsize : (r.execute n o).1.size ≤ size) :
    costOf size (r.execute n o).2 + 1 ≤ commandCost size o := by
  cases o with
  | charge a c amount off => simp [execute, commandCost, Send.cost, CardMsg.cost]
  | limitCard a c lim => simp [execute, commandCost, Send.cost, CardMsg.cost]
  | limitAccount a lim => simp [execute, commandCost, Send.cost, AccountMsg.cost]
  | accountQuery a => exact queryCards_cost size _ n a _ _ rfl hsize
  | bill a period => exact queryCards_cost size _ n a _ _ rfl hsize
  | getDatabase addr =>
    simp only [execute, executeGetDatabase] at hsize ⊢
    split
    · simp [Send.cost, commandCost]
    · rename_i hsome
      rw [if_neg hsome] at hsize
      rw [costOf_append, costOf_map (c := 2) fun a => rfl, costOf_map (c := 2) fun k => rfl]
      simp only [ActorRouter.size] at hsize
      simp only [commandCost]
      omega
  | replaceDatabase snapshot =>
    simp only [execute, executeReplaceDatabase]
    rw [costOf_append, costOf_append, costOf_map (c := 1) fun a => rfl,
      costOf_map (c := 1) fun k => rfl]
    simp only [costOf_cons, costOf_nil, Send.cost, commandCost]
    omega

/-- Whatever is not a command only sends events. -/
theorem handle_cost (size : Nat) (r : ActorRouter) (m : RouterMsg)
    (hsize : (r.handle m).1.size ≤ size) : costOf size (r.handle m).2 + 1 ≤ m.cost size := by
  by_cases hexec : ∃ n o, m = .execute n o
  · obtain ⟨n, o, rfl⟩ := hexec
    exact execute_cost size r n o hsize
  · have hne : ∀ n o, m ≠ .execute n o := fun n o he => hexec ⟨n, o, he⟩
    have hone : m.cost size = 1 := by
      cases m with
      | execute n o => exact absurd rfl (hne n o)
      | _ => rfl
    have hzero : costOf size (r.handle m).2 = 0 := by
      have hrep := handle_reports r m hne
      generalize r.handle m = out at hrep
      cases hrep with
      | result => rfl
      | quiet r' es =>
        rw [costOf_map (c := 0) fun e => rfl]
        omega
      | panic => rfl
    omega

end ActorRouter

/-! ## One turn -/

/-- The tasks that wait at the cards the router knows. -/
def ActorStates.waiting (c : ActorStates) : Nat := c.router.cards.sum fun k => (c.card k).waiting

/-- **A message pays for its turn and for what the turn sets off.** -/
theorem ActorStates.handle_cost {size : Nat} {c : ActorStates} {x : Send} (hx : x.dest ≠ .node)
    (hcards : c.router.CardsKnown) (hknown : ∀ k m, x = .card k m → k ∈ c.router.cards)
    (hnew : ∀ k, ¬ k ∈ c.router.cards → (c.card k).waiting = 0)
    (hsize : (c.handle x).1.router.size ≤ size) :
    costOf size (c.handle x).2 + 1 + (c.handle x).1.waiting ≤ x.cost size + c.waiting := by
  cases x with
  | router m =>
    have hcost := ActorRouter.handle_cost size c.router m hsize
    have hwait : (c.handle (.router m)).1.waiting = c.waiting :=
      Keys.sum_extend (ActorRouter.handle_known c.router m hcards).1.cards hnew
    simp only [Send.cost]
    rw [hwait]
    exact Nat.add_le_add_right hcost _
  | account a m => exact Nat.add_le_add_right (AccountActor.handle_cost size (c.account a) m) _
  | card k m =>
    have hcost := CardActor.handle_cost size (c.card k) m
    have hk := hknown k m rfl
    have hwait : (c.handle (.card k m)).1.waiting + (c.card k).waiting =
        c.waiting + ((c.card k).handle m).1.waiting := by
      have h := Keys.sum_change hk (f := fun j => (c.card j).waiting)
        (g := fun j => ((c.handle (.card k m)).1.card j).waiting)
        fun j hj => by simp [handle, Function.update_of_ne hj]
      have hself : ((c.handle (.card k m)).1.card k).waiting =
          ((c.card k).handle m).1.waiting := by
        simp [handle]
      rw [hself] at h
      exact h
    simp only [Send.cost, ActorStates.handle] at hwait ⊢
    omega
  | event e => exact absurd rfl hx

instance : DecidablePred Label.Internal
  | .execute .. => isFalse id
  | .router | .account _ | .card _ => isTrue True.intro

namespace ActorDb

/-- The turns that are still to come: what the messages in flight cost, and the tasks
    that wait. -/
def toCome (size : Nat) (s : ActorDb) (flight : List Send) : Nat :=
  costOf size flight + s.states.waiting

/-- **A turn uses up at least one of the turns to come.** -/
theorem InFlight.step_toCome {size : Nat} {s s' : ActorDb} {l : Label} {flight : List Send}
    (hfl : s.InFlight flight) (hf : Formed s) (hl : l.Internal) (h : s.step l = some s')
    (hsize : s'.router.size ≤ size) :
    ∃ flight', s'.InFlight flight' ∧ s'.toCome size flight' + 1 ≤ s.toCome size flight := by
  obtain ⟨pre, x, post, rfl, hx, -, -, hst, -, hfl'⟩ := hfl.step hl h
  refine ⟨_, hfl', ?_⟩
  have hrouter : s'.router = (s.states.handle x).1.router := congrArg ActorStates.router hst
  have hcost : costOf size (s.states.handle x).2 + 1 + (s.states.handle x).1.waiting ≤
      x.cost size + s.states.waiting := by
    refine ActorStates.handle_cost hx hf.known.cards ?_ ?_ (hrouter ▸ hsize)
    · rintro k m rfl
      refine hf.known.cardBox k fun hnil => ?_
      have hmail := hfl (.card k) (by simp)
      have hmem : Send.card k m ∈ mailFor (.card k) (pre ++ .card k m :: post) :=
        List.mem_filter.mpr ⟨by simp, by simp [Send.dest]⟩
      rw [← hmail] at hmem
      simp [mailbox, hnil] at hmem
    · intro k hk
      show (s.card k).waiting = 0
      rw [hf.known.card k hk]
      rfl
  unfold toCome
  rw [hst]
  simp only [costOf_append, costOf_cons]
  omega

/-- The commands that wait at the router. -/
def pendingSize (s : ActorDb) : Nat := (s.routerBox.map RouterMsg.size).sum

/-- The router knows no more actors than the commands it has handled name. -/
theorem size_step {s s' : ActorDb} {l : Label} (h : s.step l = some s')
    (hi : s.router.size + s.pendingSize ≤ mostActors s.commands) :
    s'.router.size + s'.pendingSize ≤ mostActors s'.commands := by
  have hquiet : ∀ xs : List Send, (∀ m, .router m ∈ xs → m.size = 0) →
      ((xs.filterMap Send.toRouter?).map RouterMsg.size).sum = 0 := by
    intro xs hxs
    refine List.sum_eq_zero fun n hn => ?_
    obtain ⟨m, hm, rfl⟩ := List.mem_map.mp hn
    obtain ⟨x, hx, hxm⟩ := List.mem_filterMap.mp hm
    cases x <;> simp only [Send.toRouter?, Option.some.injEq, reduceCtorEq] at hxm
    exact hxs m (hxm ▸ hx)
  obtain ⟨n, o, rfl, rfl⟩ | ⟨m, rest, rfl, hbox, -, rfl⟩ | ⟨a, m, rest, rfl, -, rfl⟩ |
    ⟨k, m, rest, rfl, -, rfl⟩ := step_cases h
  · simp only [pendingSize, mostActors, execute, RouterMsg.size, List.map_append, List.sum_append,
      List.map_cons, List.map_nil, List.sum_cons, List.sum_nil] at hi ⊢
    omega
  · have hsize := ActorRouter.handle_size s.router m
    simp only [pendingSize, hbox, List.map_cons, List.sum_cons] at hi
    show (s.router.handle m).1.size +
      ((rest ++ (s.router.handle m).2.filterMap Send.toRouter?).map RouterMsg.size).sum ≤
        mostActors s.commands
    rw [ActorRouter.handle_toRouter, List.append_nil]
    omega
  · have hzero := hquiet ((s.account a).handle m).2 fun m' hm' => by
      cases AccountActor.handle_emits _ m _ hm' <;> rfl
    show s.router.size +
      ((s.routerBox ++ ((s.account a).handle m).2.filterMap Send.toRouter?).map RouterMsg.size).sum ≤
        mostActors s.commands
    rw [List.map_append, List.sum_append, hzero]
    exact hi
  · have hzero := hquiet ((s.card k).handle m).2 fun m' hm' => by
      generalize hx : Send.router m' = x at hm'
      cases CardActor.handle_emits _ m x hm' <;> cases hx <;> rfl
    show s.router.size +
      ((s.routerBox ++ ((s.card k).handle m).2.filterMap Send.toRouter?).map RouterMsg.size).sum ≤
        mostActors s.commands
    rw [List.map_append, List.sum_append, hzero]
    exact hi

/-- A command brings the turns it is counted for. -/
theorem execute_toCome (size : Nat) (s : ActorDb) (flight : List Send) (n : OpId)
    (o : Operation Amount) :
    (s.execute n o).toCome size (flight ++ [.router (.execute n o)]) =
      s.toCome size flight + commandCost size o := by
  have hwait : (s.execute n o).states.waiting = s.states.waiting := rfl
  unfold toCome
  rw [hwait, costOf_append, costOf_cons, costOf_nil]
  simp only [Send.cost, RouterMsg.cost]
  omega

theorem execute_mostTurns (size : Nat) (s : ActorDb) (n : OpId) (o : Operation Amount) :
    mostTurns size (s.execute n o).commands = mostTurns size s.commands + commandCost size o := by
  simp [mostTurns, execute]

/-- **The turns of a run** and those still to come are paid for by its commands. -/
theorem run_toCome {size : Nat} {ls : List Label} {s s' : ActorDb} {flight : List Send}
    (hr : run step s ls = some s') (hf : Formed s) (hfl : s.InFlight flight)
    (hi : s.router.size + s.pendingSize ≤ mostActors s.commands) (hsize : mostActors s'.commands ≤ size) :
    ∃ flight', s'.InFlight flight' ∧
      ls.countP (fun l => l.Internal) + s'.toCome size flight' + mostTurns size s.commands ≤
        s.toCome size flight + mostTurns size s'.commands := by
  induction ls generalizing s flight with
  | nil =>
    obtain rfl : s = s' := by simpa [run] using hr
    exact ⟨flight, hfl, by simp⟩
  | cons l ls ih =>
    obtain ⟨t, ht, hr⟩ := run_cons.mp hr
    have hi' := size_step ht hi
    by_cases hl : l.Internal
    · have hle : mostActors t.commands ≤ mostActors s'.commands := mostActors_mono (run_commands hr)
      have htsize : t.router.size ≤ size := by omega
      obtain ⟨flight₁, hfl₁, hcost⟩ := hfl.step_toCome hf hl ht htsize
      obtain ⟨flight', hfl', hrest⟩ := ih hr (hf.step ht) hfl₁ hi'
      have hcmd : t.commands = s.commands := step_commands_internal hl ht
      refine ⟨flight', hfl', ?_⟩
      rw [List.countP_cons_of_pos (by simpa using hl)]
      rw [hcmd] at hrest
      omega
    · obtain ⟨n, o, rfl⟩ : ∃ n o, l = .execute n o := by
        cases l with
        | execute n o => exact ⟨n, o, rfl⟩
        | _ => exact absurd True.intro hl
      obtain rfl : s.execute n o = t := Option.some.inj ht
      obtain ⟨flight', hfl', hrest⟩ := ih hr (hf.step ht) (hfl.command n o) hi'
      refine ⟨flight', hfl', ?_⟩
      rw [List.countP_cons_of_neg (by simpa using hl)]
      rw [execute_toCome, execute_mostTurns] at hrest
      omega

end ActorDb

/-- **The database always comes to rest.** However the turns of the router, the accounts
    and the cards interleave with the commands of the node, the actors take no more turns
    than the commands allow for, the router hits no `expect`, and as long as a mailbox
    holds a message some actor can take a turn. -/
theorem turns_bounded {ls : List Label} {s : ActorDb}
    (hr : run ActorDb.step ActorDb.init ls = some s) :
    ls.countP (fun l => l.Internal) ≤ mostTurns (mostActors s.commands) s.commands ∧
      s.router.panicked = false ∧
      (s.Quiescent ∨ ∃ l : Label, l.Internal ∧ (s.step l).isSome) := by
  have hf : Formed s := .reaches ⟨ls, hr⟩
  have hfl : ActorDb.init.InFlight [] := ActorDb.quiescent_iff.mp ⟨rfl, fun _ => rfl, fun _ => rfl⟩
  obtain ⟨flight, -, hcost⟩ := ActorDb.run_toCome hr .init hfl (Nat.le_refl _) (Nat.le_refl _)
  refine ⟨?_, hf.alive, ?_⟩
  · have hzero : ActorDb.init.toCome (mostActors s.commands) [] = 0 := rfl
    have hnone : mostTurns (mostActors s.commands) ActorDb.init.commands = 0 := rfl
    omega
  · by_cases hstuck : Stuck ActorDb.step Label.Internal s
    · exact .inl (ActorDb.quiescent_of_stuck hf.alive hstuck)
    · right
      simp only [Stuck, not_forall, exists_prop] at hstuck
      obtain ⟨l, hl, hsome⟩ := hstuck
      exact ⟨l, hl, Option.isSome_iff_ne_none.mpr hsome⟩

end

/-- A refused charge and a bill take eleven turns, of the 26 allowed for. -/
theorem turns_bounded_example :
    ∃ s, run ActorDb.step ActorDb.init
        [.execute 1 (.limitCard 4 2 (some 30)), .router, .card (4, 2), .router,
          .execute 2 (.charge 4 2 50 false), .execute 3 (.bill 4 none), .router, .card (4, 2),
          .router, .router, .card (4, 2), .account 4, .account 4, .router] = some s ∧
      11 ≤ mostTurns (mostActors s.commands) s.commands ∧ s.router.panicked = false ∧
      (s.Quiescent ∨ ∃ l : Label, l.Internal ∧ (s.step l).isSome) := by
  obtain ⟨s, hs⟩ := Option.isSome_iff_exists.mp (show (run ActorDb.step ActorDb.init
      [.execute 1 (.limitCard 4 2 (some 30)), .router, .card (4, 2), .router,
        .execute 2 (.charge 4 2 50 false), .execute 3 (.bill 4 none), .router, .card (4, 2),
        .router, .router, .card (4, 2), .account 4, .account 4, .router]).isSome from
    by decide +kernel)
  exact ⟨s, hs, turns_bounded hs⟩

end YpfRuta.Actors
