/-
  The task pump is FIFO: one call works off the waiting tasks in queue order and reports
  each of them once, until a charge goes on to the account or no task is left.
-/
import YpfRuta.Actors.Origin

namespace YpfRuta.Actors

open Lib

variable {Amount : Type} [Currency Amount]

namespace CardActor

/-- A card settles tasks one after the other: its limit moves, and each task is reported
    once. -/
inductive Works : CardActor → List CardTask → List Send → CardActor → Prop where
  | nil (c : CardActor) : Works c [] [] c
  | cons {c c' : CardActor} {t : CardTask} {ts : List CardTask} {lim : Option Amount} {b : Bool}
      {e : Option VerifyError} {sends : List Send} (hs : c.Settles t lim b e)
      (hrest : Works { c with limit := lim } ts sends c') :
      Works c (t :: ts) (completed t.opId b e :: sends) c'

/-- How a call of the pump ends for a card that has `tasks` to work off. -/
inductive Burst (c : CardActor) (tasks : List CardTask) : CardActor × List Send → Prop where
  /-- Every task is settled. -/
  | dry {c' : CardActor} {sends : List Send} (h : Works c tasks sends c') :
      Burst c tasks ({ c' with currentTask := none, queue := [] }, sends)
  /-- The first charge that passes is sent to the account, and what is behind it waits. -/
  | waits {c' : CardActor} {sends : List Send} {settled queue : List CardTask}
      {op : CardChargeOp} (htasks : tasks = settled ++ .charge op :: queue)
      (h : Works c settled sends c') (hp : c'.Passes op) :
      Burst c tasks
        ({ c' with currentTask := some (.charge op), queue := queue }, sends ++ [c'.applyCharge op])

variable {c c' : CardActor} {t : CardTask} {ts : List CardTask} {lim : Option Amount} {b : Bool}
  {e : Option VerifyError} {sends : List Send} {r : CardActor × List Send}

/-- What a card settles does not depend on what it has loaded. -/
theorem Settles.load (h : c.Settles t lim b e) (cur : Option CardTask) (q : List CardTask) :
    { c with currentTask := cur, queue := q }.Settles t lim b e := by
  cases h with
  | rejected op err hon hchk => exact .rejected op err hon hchk
  | limitSet opId _ hchk => exact .limitSet opId lim hchk
  | limitRefused opId newLimit err hchk => exact .limitRefused opId newLimit err hchk

theorem Works.load (h : Works c ts sends c') (cur : Option CardTask) (q : List CardTask) :
    Works { c with currentTask := cur, queue := q } ts sends
      { c' with currentTask := cur, queue := q } := by
  induction h with
  | nil c => exact .nil _
  | cons hs _ ih => exact .cons (hs.load cur q) ih

theorem Burst.load {cur : Option CardTask} {q : List CardTask}
    (h : Burst { c with currentTask := cur, queue := q } ts r) : Burst c ts r := by
  cases h with
  | dry h =>
    have hdry : Burst c ts _ := .dry (h.load c.currentTask c.queue)
    exact hdry
  | waits htasks h hp =>
    have hwaits : Burst c ts _ := .waits htasks (h.load c.currentTask c.queue) hp
    exact hwaits

/-- One more task is settled in front of a burst. -/
theorem Burst.cons (hs : c.Settles t lim b e) (h : Burst { c with limit := lim } ts r) :
    Burst c (t :: ts) (r.1, completed t.opId b e :: r.2) := by
  cases h with
  | dry h => exact .dry (.cons hs h)
  | @waits c' sends settled queue op htasks h hp =>
    have hall : t :: ts = (t :: settled) ++ .charge op :: queue := by
      rw [htasks]
      rfl
    exact .waits hall (.cons hs h) hp

theorem start_burst (c : CardActor) (h : c.currentTask = some t) :
    Burst c (t :: c.queue) c.startCurrentTask := by
  refine pump_induct (P := fun c r => ∀ t, c.currentTask = some t → Burst c (t :: c.queue) r)
    ?_ ?_ ?_ ?_ c t h
  · intro c hnone t ht
    rw [hnone] at ht
    cases ht
  · intro c op hcur hp t ht
    obtain rfl := Option.some.inj (hcur.symm.trans ht)
    have hsame : { c with currentTask := some (.charge op), queue := c.queue } = c := by
      rw [← hcur]
    have hall : CardTask.charge op :: c.queue = [] ++ .charge op :: c.queue := rfl
    have hwaits : Burst c (.charge op :: c.queue) _ := .waits hall (.nil c) hp
    rwa [hsame] at hwaits
  · intro c t lim b e hcur hs hq t' ht'
    obtain rfl := Option.some.inj (hcur.symm.trans ht')
    rw [hq]
    have hdry : Burst c [t] (_, [completed t.opId b e]) := .dry (.cons hs (.nil _))
    rwa [hq] at hdry
  · intro c t lim b e t' q r hcur hs hq ih t'' ht''
    obtain rfl := Option.some.inj (hcur.symm.trans ht'')
    rw [hq]
    exact .cons hs (ih t' rfl).load

theorem finish_burst (c : CardActor) (n : OpId) (b : Bool) (e : Option VerifyError) :
    ∃ r, Burst c c.queue r ∧ c.finishCurrentTask n b e = (r.1, completed n b e :: r.2) := by
  cases hq : c.queue with
  | nil =>
    refine ⟨_, .dry (.nil c), ?_⟩
    rw [finishCurrentTask_nil c hq, hq]
  | cons t q =>
    refine ⟨_, ?_, finishCurrentTask_cons c hq⟩
    exact (start_burst { c with currentTask := some t, queue := q } rfl).load

/-- **The task pump** works off the tasks of any card, in order, until a charge goes on to
    the account; in the database a card without a task has none waiting. -/
theorem pump_fifo :
    (∀ c : CardActor,
      (∀ t, c.currentTask = some t → Burst c (t :: c.queue) c.startCurrentTask) ∧
      (c.currentTask = none → c.startCurrentTask = (c, [])) ∧
      ∀ n b e, ∃ r, Burst c c.queue r ∧
        c.finishCurrentTask n b e = (r.1, completed n b e :: r.2)) ∧
    ∀ s, Reaches ActorDb.step ActorDb.init s → ∀ k,
      (s.card k).currentTask = none → (s.card k).queue = [] := by
  refine ⟨fun c => ⟨fun t h => start_burst c h, startCurrentTask_none, finish_burst c⟩, ?_⟩
  intro s hr k hnone
  exact ((origin_reaches hr).card k).idle hnone

end CardActor

end YpfRuta.Actors
