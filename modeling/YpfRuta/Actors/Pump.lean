/-
  The task pump of a card: `startCurrentTask` and `finishCurrentTask` call each
  other through the queue. Everything later says about the pump goes through
  `pump_induct`, the induction over the tasks one call works off.
-/
import YpfRuta.Actors.Card

namespace YpfRuta.Actors

variable {Amount : Type} [Currency Amount]

def CardTask.opId : CardTask → OpId
  | .charge op => op.opId
  | .limitChange opId _ => opId

namespace CardActor

/-- A charge goes on to the account: it is offline, or within the card limit. -/
def Passes (self : CardActor) (op : CardChargeOp) : Prop :=
  op.fromOfflineStation = true ∨ self.checkChargeLimit op.amount = .ok ()

/-- A task the card settles on its own, with the card limit it leaves behind and
    the success and error it reports. -/
inductive Settles (self : CardActor) :
    CardTask → Option Amount → Bool → Option VerifyError → Prop where
  | rejected (op : CardChargeOp) (err : LimitCheckError) (hon : op.fromOfflineStation = false)
      (hchk : self.checkChargeLimit op.amount = .error err) :
      Settles self (.charge op) self.limit false (some (.chargeLimit err))
  | limitSet (opId : OpId) (newLimit : Option Amount)
      (hchk : self.canSetNewLimit newLimit = .ok ()) :
      Settles self (.limitChange opId newLimit) newLimit true none
  | limitRefused (opId : OpId) (newLimit : Option Amount) (err : LimitUpdateError)
      (hchk : self.canSetNewLimit newLimit = .error err) :
      Settles self (.limitChange opId newLimit) self.limit false (some (.limitUpdate err))

/-- The report a card sends for a finished task. -/
def completed (opId : OpId) (success : Bool) (error : Option VerifyError) : Send :=
  .router (.operationCompleted opId success error)

theorem finishCurrentTask_nil (c : CardActor) {n : OpId} {b : Bool} {e : Option VerifyError}
    (hq : c.queue = []) :
    c.finishCurrentTask n b e = ({ c with currentTask := none }, [completed n b e]) := by
  rw [finishCurrentTask]
  split
  · rename_i h
    rw [hq] at h
    cases h
  · rfl

theorem finishCurrentTask_cons (c : CardActor) {n : OpId} {b : Bool} {e : Option VerifyError}
    {t : CardTask} {q : List CardTask} (hq : c.queue = t :: q) :
    c.finishCurrentTask n b e =
      (({ c with currentTask := some t, queue := q }.startCurrentTask).1,
        completed n b e :: ({ c with currentTask := some t, queue := q }.startCurrentTask).2) := by
  rw [finishCurrentTask]
  split
  · rename_i t' q' h
    rw [hq] at h
    obtain ⟨rfl, rfl⟩ := List.cons.inj h
    rfl
  · rename_i h
    rw [hq] at h
    cases h

theorem startCurrentTask_none {c : CardActor} (h : c.currentTask = none) :
    c.startCurrentTask = (c, []) := by
  rw [startCurrentTask, h]

/-- A current task either goes to the account or is settled on the spot. -/
theorem startCurrentTask_some {c : CardActor} {t : CardTask} (h : c.currentTask = some t) :
    (∃ op, t = .charge op ∧ c.Passes op ∧ c.startCurrentTask = (c, [c.applyCharge op])) ∨
    (∃ lim b e, c.Settles t lim b e ∧
      c.startCurrentTask = { c with limit := lim }.finishCurrentTask t.opId b e) := by
  cases t with
  | charge op =>
    by_cases hoff : op.fromOfflineStation = true
    · refine Or.inl ⟨op, rfl, Or.inl hoff, ?_⟩
      rw [startCurrentTask]
      simp only [h, hoff, if_true]
    · simp only [Bool.not_eq_true] at hoff
      cases hchk : c.checkChargeLimit op.amount with
      | ok u =>
        refine Or.inl ⟨op, rfl, Or.inr hchk, ?_⟩
        rw [startCurrentTask]
        simp only [h, hoff, hchk, Bool.false_eq_true, if_false]
      | error err =>
        refine Or.inr ⟨_, _, _, .rejected op err hoff hchk, ?_⟩
        conv_lhs =>
          rw [startCurrentTask]
          simp only [h, hoff, hchk, Bool.false_eq_true, if_false]
        rfl
  | limitChange n lim =>
    cases hchk : c.canSetNewLimit lim with
    | ok u =>
      refine Or.inr ⟨_, _, _, .limitSet n lim hchk, ?_⟩
      rw [startCurrentTask]
      simp only [h, hchk]
      rfl
    | error err =>
      refine Or.inr ⟨_, _, _, .limitRefused n lim err hchk, ?_⟩
      conv_lhs =>
        rw [startCurrentTask]
        simp only [h, hchk]
      rfl

/-- **Induction over one run of the pump.** The pump stops because there is no
    task (`idle`), because a charge went to the account (`waits`), or because the
    queue ran dry after a settled task (`last`); otherwise it settles a task and
    goes on with the next one (`next`). -/
theorem pump_induct {P : CardActor → CardActor × List Send → Prop}
    (idle : ∀ c, c.currentTask = none → P c (c, []))
    (waits : ∀ c op, c.currentTask = some (.charge op) → c.Passes op →
      P c (c, [c.applyCharge op]))
    (last : ∀ c t lim b e, c.currentTask = some t → c.Settles t lim b e → c.queue = [] →
      P c ({ c with limit := lim, currentTask := none }, [completed t.opId b e]))
    (next : ∀ c t lim b e t' q r, c.currentTask = some t → c.Settles t lim b e →
      c.queue = t' :: q →
      P { c with limit := lim, currentTask := some t', queue := q } r →
      P c (r.1, completed t.opId b e :: r.2))
    (c : CardActor) : P c c.startCurrentTask := by
  induction hn : c.queue.length generalizing c with
  | zero =>
    have hq : c.queue = [] := List.length_eq_zero_iff.mp hn
    cases ht : c.currentTask with
    | none => rw [startCurrentTask_none ht]; exact idle c ht
    | some t =>
      obtain ⟨op, rfl, hp, heq⟩ | ⟨lim, b, e, hs, heq⟩ := startCurrentTask_some ht
      · rw [heq]; exact waits c op ht hp
      · rw [heq, finishCurrentTask_nil { c with limit := lim } hq]
        exact last c t lim b e ht hs hq
  | succ k ih =>
    obtain ⟨t', q, hq⟩ : ∃ t' q, c.queue = t' :: q := List.exists_cons_of_length_eq_add_one hn
    cases ht : c.currentTask with
    | none => rw [startCurrentTask_none ht]; exact idle c ht
    | some t =>
      obtain ⟨op, rfl, hp, heq⟩ | ⟨lim, b, e, hs, heq⟩ := startCurrentTask_some ht
      · rw [heq]; exact waits c op ht hp
      · rw [heq, finishCurrentTask_cons { c with limit := lim } hq]
        refine next c t lim b e t' q _ ht hs hq (ih _ ?_)
        rw [hq, List.length_cons] at hn
        exact Nat.succ.inj hn

/-- The pump never touches the consumption. -/
theorem pump_consumed (c : CardActor) : c.startCurrentTask.1.consumed = c.consumed := by
  refine pump_induct (P := fun c r => r.1.consumed = c.consumed) ?_ ?_ ?_ ?_ c
  · intro c _
    rfl
  · intro c op _ _
    rfl
  · intro c t lim b e _ _ _
    rfl
  · intro c t lim b e t' q r _ _ _ ih
    exact ih

/-- A charge the pump leaves in flight passed the local check. -/
theorem pump_passes (c : CardActor) :
    ∀ op, c.startCurrentTask.1.currentTask = some (.charge op) →
      c.startCurrentTask.1.Passes op := by
  refine pump_induct
    (P := fun _ r => ∀ op, r.1.currentTask = some (.charge op) → r.1.Passes op) ?_ ?_ ?_ ?_ c
  · intro c hnone op hop
    rw [hnone] at hop
    cases hop
  · intro c op hcur hp op' hop'
    rw [hcur] at hop'
    cases hop'
    exact hp
  · intro c t lim b e _ _ _ op hop
    cases hop
  · intro c t lim b e t' q r _ _ _ ih
    exact ih

/-- The pump leaves no limit change in flight. -/
theorem pump_charge (c : CardActor) :
    ∀ t, c.startCurrentTask.1.currentTask = some t → ∃ op, t = .charge op := by
  refine pump_induct (P := fun _ r => ∀ t, r.1.currentTask = some t → ∃ op, t = .charge op)
    ?_ ?_ ?_ ?_ c
  · intro c hnone t ht
    rw [hnone] at ht
    cases ht
  · intro c op hcur _ t ht
    rw [hcur] at ht
    exact ⟨op, (Option.some.inj ht).symm⟩
  · intro c t lim b e _ _ _ t' ht'
    cases ht'
  · intro c t lim b e t' q r _ _ _ ih
    exact ih

theorem finish_consumed (c : CardActor) (n : OpId) (b : Bool) (e : Option VerifyError) :
    (c.finishCurrentTask n b e).1.consumed = c.consumed := by
  cases hq : c.queue with
  | nil => rw [finishCurrentTask_nil c hq]
  | cons t q => rw [finishCurrentTask_cons c hq, pump_consumed]

theorem finish_passes (c : CardActor) (n : OpId) (b : Bool) (e : Option VerifyError) :
    ∀ op, (c.finishCurrentTask n b e).1.currentTask = some (.charge op) →
      (c.finishCurrentTask n b e).1.Passes op := by
  cases hq : c.queue with
  | nil =>
    rw [finishCurrentTask_nil c hq]
    intro op hop
    cases hop
  | cons t q =>
    rw [finishCurrentTask_cons c hq]
    exact pump_passes _

theorem finish_charge (c : CardActor) (n : OpId) (b : Bool) (e : Option VerifyError) :
    ∀ t, (c.finishCurrentTask n b e).1.currentTask = some t → ∃ op, t = .charge op := by
  cases hq : c.queue with
  | nil =>
    rw [finishCurrentTask_nil c hq]
    intro t ht
    cases ht
  | cons t q =>
    rw [finishCurrentTask_cons c hq]
    exact pump_charge _

end CardActor

end YpfRuta.Actors
