/-
  What one message moves at a card. A task a message brings stays at the card
  until the card reports it, and a charge is in flight from the request to the
  account to its reply: both as equations between counts.
-/
import YpfRuta.Actors.Counting

namespace YpfRuta.Actors

variable {Amount : Type} [Currency Amount]

namespace CardActor

@[simp] theorem onRouter_completed (p : RouterMsg → Bool) (n : OpId) (b : Bool)
    (e : Option VerifyError) :
    Send.onRouter p (completed n b e) = p (.operationCompleted n b e) := rfl

@[simp] theorem onRouter_applyCharge (p : RouterMsg → Bool) (c : CardActor) (op : CardChargeOp) :
    Send.onRouter p (c.applyCharge op) = false := rfl

@[simp] theorem onAccount_completed (a : AccountId) (p : AccountMsg → Bool) (n : OpId) (b : Bool)
    (e : Option VerifyError) : Send.onAccount a p (completed n b e) = false := rfl

/-- The pump reports every task it takes from the card. -/
theorem pump_tasks (n : OpId) (c : CardActor) :
    c.tasks n = c.startCurrentTask.1.tasks n +
      c.startCurrentTask.2.countP (Send.onRouter (RouterMsg.completes n)) := by
  refine pump_induct (P := fun c r => c.tasks n = r.1.tasks n +
    r.2.countP (Send.onRouter (RouterMsg.completes n))) ?_ ?_ ?_ ?_ c
  · intro c _
    rfl
  · intro c op _ _
    simp
  · intro c t lim b e hcur _ hq
    simp [tasks, hcur, hq, CardTask.is, RouterMsg.completes, List.countP_cons]
  · intro c t lim b e t' q r hcur _ hq ih
    simp only [tasks, hcur, hq, Option.toList_some, List.countP_cons, List.countP_nil] at ih ⊢
    simp only [onRouter_completed, RouterMsg.completes, CardTask.is, beq_iff_eq] at ih ⊢
    omega

/-- The pump asks the account for exactly the charge it leaves in flight. -/
theorem pump_flight (n : OpId) (c : CardActor) :
    c.startCurrentTask.1.inFlight n =
      c.startCurrentTask.2.countP (Send.onAccount c.accountId (AccountMsg.applies n)) := by
  refine pump_induct (P := fun c r => r.1.inFlight n =
    r.2.countP (Send.onAccount c.accountId (AccountMsg.applies n))) ?_ ?_ ?_ ?_ c
  · intro c hcur
    simp [inFlight, hcur]
  · intro c op hcur _
    simp [inFlight, hcur, applyCharge, Send.onAccount, AccountMsg.applies, List.countP_cons]
  · intro c t lim b e _ _ _
    simp [inFlight]
  · intro c t lim b e t' q r _ _ _ ih
    simpa [List.countP_cons] using ih

/-- The pump never reports the success of a charge. -/
theorem pump_succeeds (n : OpId) (c : CardActor)
    (hcur : ∀ t, c.currentTask = some t → t.opId = n → ∃ op, t = .charge op)
    (hq : ∀ t ∈ c.queue, t.opId = n → ∃ op, t = .charge op) :
    c.startCurrentTask.2.countP (Send.onRouter (RouterMsg.succeeds n)) = 0 := by
  have settles : ∀ (c : CardActor) t lim b e, c.Settles t lim b e →
      (t.opId = n → ∃ op, t = .charge op) →
      RouterMsg.succeeds n (.operationCompleted t.opId b e) = false := by
    intro c t lim b e hs ht
    cases hs with
    | rejected => simp [RouterMsg.succeeds]
    | limitSet m lim =>
      have hne : m ≠ n := by
        intro hm
        obtain ⟨op, hop⟩ := ht hm
        cases hop
      simp [RouterMsg.succeeds, CardTask.opId, hne]
    | limitRefused => simp [RouterMsg.succeeds]
  revert hcur hq
  refine pump_induct (P := fun c r =>
    (∀ t, c.currentTask = some t → t.opId = n → ∃ op, t = .charge op) →
    (∀ t ∈ c.queue, t.opId = n → ∃ op, t = .charge op) →
    r.2.countP (Send.onRouter (RouterMsg.succeeds n)) = 0) ?_ ?_ ?_ ?_ c
  · intro c _ _ _
    rfl
  · intro c op _ _ _ _
    simp
  · intro c t lim b e hc hs _ hcur _
    simp [settles c t lim b e hs (hcur t hc)]
  · intro c t lim b e t' q r hc hs hqc ih hcur hq
    rw [hqc] at hq
    have hr := ih (fun u hu => by cases hu; exact hq _ List.mem_cons_self)
      (fun u hu => hq u (List.mem_cons_of_mem _ hu))
    simp [settles c t lim b e hs (hcur t hc), hr]

theorem finish_tasks (n : OpId) (c : CardActor) (m : OpId) (b : Bool) (e : Option VerifyError) :
    c.queue.countP (CardTask.is n) + (if m = n then 1 else 0) =
      (c.finishCurrentTask m b e).1.tasks n +
        (c.finishCurrentTask m b e).2.countP (Send.onRouter (RouterMsg.completes n)) := by
  cases hq : c.queue with
  | nil =>
    rw [finishCurrentTask_nil c hq]
    simp [tasks, hq, RouterMsg.completes, List.countP_cons]
  | cons t q =>
    rw [finishCurrentTask_cons c hq]
    have h := pump_tasks n { c with currentTask := some t, queue := q }
    simp only [tasks, Option.toList_some, List.countP_cons, List.countP_nil, onRouter_completed,
      RouterMsg.completes, beq_iff_eq] at h ⊢
    omega

theorem finish_flight (n : OpId) (c : CardActor) (m : OpId) (b : Bool) (e : Option VerifyError) :
    (c.finishCurrentTask m b e).1.inFlight n =
      (c.finishCurrentTask m b e).2.countP
        (Send.onAccount c.accountId (AccountMsg.applies n)) := by
  cases hq : c.queue with
  | nil =>
    rw [finishCurrentTask_nil c hq]
    simp [inFlight]
  | cons t q =>
    rw [finishCurrentTask_cons c hq]
    have h := pump_flight n { c with currentTask := some t, queue := q }
    simpa [List.countP_cons] using h

theorem finish_succeeds (n : OpId) (c : CardActor) (m : OpId) (b : Bool) (e : Option VerifyError)
    (hq : ∀ t ∈ c.queue, t.opId = n → ∃ op, t = .charge op) :
    (c.finishCurrentTask m b e).2.countP (Send.onRouter (RouterMsg.succeeds n)) =
      if m = n ∧ b = true then 1 else 0 := by
  cases hqc : c.queue with
  | nil =>
    rw [finishCurrentTask_nil c hqc]
    simp [RouterMsg.succeeds, List.countP_cons]
  | cons t q =>
    rw [finishCurrentTask_cons c hqc]
    rw [hqc] at hq
    have h := pump_succeeds n { c with currentTask := some t, queue := q }
      (fun u hu => by cases hu; exact hq _ List.mem_cons_self)
      (fun u hu => hq u (List.mem_cons_of_mem _ hu))
    simp [RouterMsg.succeeds, List.countP_cons, h]

theorem acceptTask_tasks (n : OpId) (c : CardActor) (t : CardTask) :
    (if t.opId = n then 1 else 0) + c.tasks n =
      (c.acceptTask t).1.tasks n +
        (c.acceptTask t).2.countP (Send.onRouter (RouterMsg.completes n)) := by
  cases hcur : c.currentTask with
  | none =>
    simp only [acceptTask, hcur]
    have h := pump_tasks n { c with currentTask := some t }
    simp only [tasks, hcur, CardTask.is, Option.toList_none, Option.toList_some, List.countP_cons,
      List.countP_nil, beq_iff_eq] at h ⊢
    omega
  | some u =>
    simp only [acceptTask, hcur, tasks, CardTask.is, List.countP_append, List.countP_cons,
      List.countP_nil, beq_iff_eq]
    omega

theorem acceptTask_flight (n : OpId) (c : CardActor) (t : CardTask) :
    (c.acceptTask t).1.inFlight n = c.inFlight n +
      (c.acceptTask t).2.countP (Send.onAccount c.accountId (AccountMsg.applies n)) := by
  cases hcur : c.currentTask with
  | none =>
    simp only [acceptTask, hcur]
    have h0 : c.inFlight n = 0 := by simp [inFlight, hcur]
    rw [h0, Nat.zero_add]
    exact pump_flight n { c with currentTask := some t }
  | some u => simp [acceptTask, hcur, inFlight]

theorem acceptTask_succeeds (n : OpId) (c : CardActor) (t : CardTask)
    (ht : t.opId = n → ∃ op, t = .charge op)
    (hq : ∀ u ∈ c.queue, u.opId = n → ∃ op, u = .charge op) :
    (c.acceptTask t).2.countP (Send.onRouter (RouterMsg.succeeds n)) = 0 := by
  cases hcur : c.currentTask with
  | none =>
    simp only [acceptTask, hcur]
    exact pump_succeeds n { c with currentTask := some t } (fun u hu => by cases hu; exact ht) hq
  | some u => simp [acceptTask, hcur]

/-- A charge reply is either for the charge in flight, which it finishes, or for
    no charge in flight here, and then only the debug channel hears of it. -/
theorem handleChargeReply_cases (c : CardActor) (r : AccountChargeReply) :
    (∃ op, c.currentTask = some (.charge op) ∧ op.opId = r.opId ∧
      c.handleChargeReply r =
        { c with consumed := if r.success then c.consumed + op.amount else c.consumed
          }.finishCurrentTask r.opId r.success r.error) ∨
    (c.inFlight r.opId = 0 ∧ ∃ text, c.handleChargeReply r = (c, [.router (.debug text)])) := by
  cases hcur : c.currentTask with
  | none =>
    refine Or.inr ⟨by simp [inFlight, hcur], ?_⟩
    simp only [handleChargeReply, hcur]
    exact ⟨_, rfl⟩
  | some t =>
    cases t with
    | charge op =>
      by_cases hop : op.opId = r.opId
      · exact Or.inl ⟨op, rfl, hop, by simp only [handleChargeReply, hcur, hop, if_true]⟩
      · refine Or.inr ⟨by simp [inFlight, hcur, hop], ?_⟩
        simp only [handleChargeReply, hcur, hop, if_false]
        exact ⟨_, rfl⟩
    | limitChange n lim =>
      refine Or.inr ⟨by simp [inFlight, hcur], ?_⟩
      simp only [handleChargeReply, hcur]
      exact ⟨_, rfl⟩

/-- A charge becomes a task, or is refused at once as meant for another card. -/
theorem executeCharge_cases (c : CardActor) (n : OpId) (a : AccountId) (c' : CardId)
    (amount : Amount) (off : Bool) :
    c.executeCharge n a c' amount off = c.acceptTask (.charge ⟨n, a, amount, off⟩) ∨
    ∃ text, c.executeCharge n a c' amount off = (c, [.router (.debug text),
      completed n false (some (.chargeLimit .cardLimitExceeded))]) := by
  unfold executeCharge
  split
  · exact Or.inr ⟨_, rfl⟩
  · exact Or.inl rfl

/-- A query of the card's own account is answered; it resets the card on demand. -/
theorem queryCardState_cases (c : CardActor) (n : OpId) (a : AccountId) (reset : Bool) :
    (a = c.accountId ∧ c.queryCardState n a reset =
      ({ c with consumed := if reset then 0 else c.consumed },
        [.account c.accountId (.cardQueryReply n c.cardId c.consumed)])) ∨
    (a ≠ c.accountId ∧ ∃ text, c.queryCardState n a reset = (c, [.router (.debug text)])) := by
  unfold queryCardState
  split
  · rename_i h
    exact Or.inr ⟨h, _, rfl⟩
  · rename_i h
    exact Or.inl ⟨not_not.mp h, rfl⟩

/-- A task a message brings stays at the card until the card reports it. -/
theorem handle_tasks (n : OpId) (c : CardActor) (m : CardMsg)
    (hm : ∀ lim con, m ≠ .replaceState lim con) :
    (if m.brings n then 1 else 0) + c.tasks n =
      (c.handle m).1.tasks n +
        (c.handle m).2.countP (Send.onRouter (RouterMsg.completes n)) := by
  cases m with
  | executeCharge n' a c' amount off =>
    simp only [handle, CardMsg.brings, beq_iff_eq]
    obtain heq | ⟨text, heq⟩ := executeCharge_cases c n' a c' amount off
    · rw [heq]
      exact acceptTask_tasks n c (.charge ⟨n', a, amount, off⟩)
    · rw [heq]
      simp [completed, Send.onRouter, RouterMsg.completes, List.countP_cons, Nat.add_comm]
  | executeLimitChange n' lim =>
    simp only [handle, CardMsg.brings, beq_iff_eq]
    exact acceptTask_tasks n c (.limitChange n' lim)
  | queryCardState n' a reset =>
    simp only [handle]
    obtain ⟨-, heq⟩ | ⟨-, text, heq⟩ := queryCardState_cases c n' a reset <;> rw [heq] <;>
      simp [CardMsg.brings, Send.onRouter, RouterMsg.completes, tasks]
  | getSnapshot n' => simp [handle, CardMsg.brings, Send.onRouter, RouterMsg.completes]
  | replaceState lim con => exact absurd rfl (hm lim con)
  | debug text => simp [handle, CardMsg.brings, Send.onRouter, RouterMsg.completes]
  | chargeReply r =>
    simp only [handle, CardMsg.brings, Bool.false_eq_true, if_false, Nat.zero_add]
    obtain ⟨op, hcur, hop, heq⟩ | ⟨-, text, heq⟩ := handleChargeReply_cases c r
    · rw [heq, ← finish_tasks]
      simp only [tasks, hcur, CardTask.is, CardTask.opId, hop, Option.toList_some,
        List.countP_cons, List.countP_nil, beq_iff_eq]
      omega
    · rw [heq]
      simp [Send.onRouter, RouterMsg.completes]

/-- The card asks its account once for every charge it puts in flight, and takes a
    charge out of flight only on its reply. -/
theorem handle_flight (n : OpId) (c : CardActor) (m : CardMsg)
    (hm : ∀ lim con, m ≠ .replaceState lim con) :
    (c.handle m).1.inFlight n + (if m.replies n then c.inFlight n else 0) =
      c.inFlight n +
        (c.handle m).2.countP (Send.onAccount c.accountId (AccountMsg.applies n)) := by
  cases m with
  | executeCharge n' a c' amount off =>
    simp only [handle, CardMsg.replies, Bool.false_eq_true, if_false, Nat.add_zero]
    obtain heq | ⟨text, heq⟩ := executeCharge_cases c n' a c' amount off
    · rw [heq]
      exact acceptTask_flight n c (.charge ⟨n', a, amount, off⟩)
    · rw [heq]
      simp [completed, Send.onAccount]
  | executeLimitChange n' lim =>
    simp only [handle, CardMsg.replies, Bool.false_eq_true, if_false, Nat.add_zero]
    exact acceptTask_flight n c (.limitChange n' lim)
  | queryCardState n' a reset =>
    simp only [handle]
    obtain ⟨-, heq⟩ | ⟨-, text, heq⟩ := queryCardState_cases c n' a reset <;> rw [heq] <;>
      simp [CardMsg.replies, Send.onAccount, AccountMsg.applies, inFlight]
  | getSnapshot n' => simp [handle, CardMsg.replies, Send.onAccount]
  | replaceState lim con => exact absurd rfl (hm lim con)
  | debug text => simp [handle, CardMsg.replies, Send.onAccount]
  | chargeReply r =>
    simp only [handle, CardMsg.replies, beq_iff_eq]
    obtain ⟨op, hcur, hop, heq⟩ | ⟨h0, text, heq⟩ := handleChargeReply_cases c r
    · rw [heq, finish_flight]
      by_cases hn : r.opId = n
      · simp [hn, Nat.add_comm]
      · simp [inFlight, hcur, hop, hn]
    · rw [heq]
      by_cases hn : r.opId = n
      · subst hn
        simp [h0, Send.onAccount]
      · simp [hn, Send.onAccount]

/-- Where `n` is a charge, the card reports its success exactly when the account
    approved the charge in flight. -/
theorem handle_succeeds (n : OpId) (c : CardActor) (m : CardMsg)
    (hlim : ∀ lim, m ≠ .executeLimitChange n lim)
    (hq : ∀ t ∈ c.queue, t.opId = n → ∃ op, t = .charge op) :
    (c.handle m).2.countP (Send.onRouter (RouterMsg.succeeds n)) =
      if m.approves n then c.inFlight n else 0 := by
  cases m with
  | executeCharge n' a c' amount off =>
    simp only [handle, CardMsg.approves, Bool.false_eq_true, if_false]
    obtain heq | ⟨text, heq⟩ := executeCharge_cases c n' a c' amount off
    · rw [heq]
      exact acceptTask_succeeds n c (.charge ⟨n', a, amount, off⟩) (fun _ => ⟨_, rfl⟩) hq
    · rw [heq]
      simp [completed, Send.onRouter, RouterMsg.succeeds]
  | executeLimitChange n' lim =>
    simp only [handle, CardMsg.approves, Bool.false_eq_true, if_false]
    exact acceptTask_succeeds n c (.limitChange n' lim)
      (fun h => absurd (congrArg (CardMsg.executeLimitChange · lim) h) (hlim lim)) hq
  | queryCardState n' a reset =>
    simp only [handle]
    obtain ⟨-, heq⟩ | ⟨-, text, heq⟩ := queryCardState_cases c n' a reset <;> rw [heq] <;>
      simp [CardMsg.approves, Send.onRouter, RouterMsg.succeeds]
  | getSnapshot n' => simp [handle, CardMsg.approves, Send.onRouter, RouterMsg.succeeds]
  | replaceState lim con => simp [handle, CardMsg.approves]
  | debug text => simp [handle, CardMsg.approves, Send.onRouter, RouterMsg.succeeds]
  | chargeReply r =>
    simp only [handle, CardMsg.approves, Bool.and_eq_true, beq_iff_eq]
    obtain ⟨op, hcur, hop, heq⟩ | ⟨h0, text, heq⟩ := handleChargeReply_cases c r
    · rw [heq, finish_succeeds n { c with
        consumed := if r.success then c.consumed + op.amount else c.consumed } _ _ _ hq]
      by_cases hn : r.opId = n <;> simp [inFlight, hcur, hop, hn]
    · rw [heq]
      by_cases hn : r.opId = n
      · subst hn
        simp [h0, Send.onRouter, RouterMsg.succeeds]
      · simp [hn, Send.onRouter, RouterMsg.succeeds]

/-- The card adds a charge to its consumption exactly when the account approved
    the charge in flight. -/
theorem added_count (n : OpId) (amount : Amount) (c : CardActor) (m : CardMsg)
    (hop : ∀ op, c.currentTask = some (.charge op) → op.opId = n → op.amount = amount) :
    (c.added m).count (n, amount) = if m.approves n then c.inFlight n else 0 := by
  cases m with
  | chargeReply r =>
    simp only [added, CardMsg.approves, Bool.and_eq_true, beq_iff_eq]
    cases hcur : c.currentTask with
    | none => simp [inFlight, hcur]
    | some t =>
      cases t with
      | limitChange n' lim => simp [inFlight, hcur]
      | charge op =>
        simp only [inFlight, hcur]
        by_cases hr : op.opId = r.opId ∧ r.success = true
        · rw [if_pos hr]
          by_cases hn : op.opId = n
          · have hx := hop op hcur hn
            simp [hn, hx, ← hr.1, hr.2]
          · have : r.opId ≠ n := hr.1 ▸ hn
            simp [this, hn]
        · rw [if_neg hr]
          by_cases hn : r.opId = n
          · subst hn
            by_cases hop' : op.opId = r.opId
            · simp_all
            · simp [hop']
          · simp [hn]
  | _ => simp [added, CardMsg.approves]

/-! What a card sends at all. -/

/-- The sends of the pump: reports of finished tasks, and charges for the account. -/
inductive Pumps (c : CardActor) : Send → Prop where
  | completed (n : OpId) (b : Bool) (e : Option VerifyError) : Pumps c (completed n b e)
  | apply (op : CardChargeOp) : Pumps c (c.applyCharge op)

/-- The sends of a card: reports to the router, and requests to its own account. -/
inductive Emits (c : CardActor) : Send → Prop where
  | completed (n : OpId) (b : Bool) (e : Option VerifyError) : Emits c (completed n b e)
  | debug (text : String) : Emits c (.router (.debug text))
  | snapshot (n : OpId) (s : CardSnapshot Amount) :
      Emits c (.router (.cardSnapshotCollected n s))
  | apply (op : CardChargeOp) : Emits c (c.applyCharge op)
  | reply (n : OpId) (consumed : Amount) :
      Emits c (.account c.accountId (.cardQueryReply n c.cardId consumed))

theorem Pumps.congr {c c' : CardActor} {x : Send} (h : c.Pumps x)
    (ha : c'.accountId = c.accountId) (hc : c'.cardId = c.cardId) : c'.Pumps x := by
  cases h with
  | completed n b e => exact .completed n b e
  | apply op =>
    have heq : c.applyCharge op = c'.applyCharge op := by simp [applyCharge, ha, hc]
    rw [heq]
    exact .apply op

theorem Pumps.emits {c : CardActor} {x : Send} (h : c.Pumps x) : c.Emits x := by
  cases h with
  | completed n b e => exact .completed n b e
  | apply op => exact .apply op

theorem pump_pumps (c : CardActor) : ∀ x ∈ c.startCurrentTask.2, c.Pumps x := by
  refine pump_induct (P := fun c r => ∀ x ∈ r.2, c.Pumps x) ?_ ?_ ?_ ?_ c
  · simp
  · intro c op _ _ x hx
    obtain rfl := List.mem_singleton.mp hx
    exact .apply op
  · intro c t lim b e _ _ _ x hx
    obtain rfl := List.mem_singleton.mp hx
    exact .completed _ _ _
  · intro c t lim b e t' q r _ _ _ ih x hx
    obtain rfl | hx := List.mem_cons.mp hx
    · exact .completed _ _ _
    · exact (ih x hx).congr rfl rfl

theorem finish_pumps (c : CardActor) (n : OpId) (b : Bool) (e : Option VerifyError) :
    ∀ x ∈ (c.finishCurrentTask n b e).2, c.Pumps x := by
  intro x hx
  cases hq : c.queue with
  | nil =>
    rw [finishCurrentTask_nil c hq] at hx
    obtain rfl := List.mem_singleton.mp hx
    exact .completed n b e
  | cons t q =>
    rw [finishCurrentTask_cons c hq] at hx
    obtain rfl | hx := List.mem_cons.mp hx
    · exact .completed n b e
    · exact (pump_pumps _ x hx).congr rfl rfl

theorem acceptTask_pumps (c : CardActor) (t : CardTask) :
    ∀ x ∈ (c.acceptTask t).2, c.Pumps x := by
  intro x hx
  cases hcur : c.currentTask with
  | none =>
    simp only [acceptTask, hcur] at hx
    exact (pump_pumps _ x hx).congr rfl rfl
  | some u => simp [acceptTask, hcur] at hx

/-- Only a query makes a card answer one, and only a request makes it send its state. -/
theorem handle_pumps (c : CardActor) (m : CardMsg)
    (hm : ∀ n a reset, m ≠ .queryCardState n a reset) :
    ∀ x ∈ (c.handle m).2, c.Pumps x ∨ (∃ text, x = .router (.debug text)) ∨
      ∃ n s, m = .getSnapshot n ∧ x = .router (.cardSnapshotCollected n s) := by
  intro x hx
  cases m with
  | executeCharge n a c' amount off =>
    simp only [handle] at hx
    obtain heq | ⟨text, heq⟩ := executeCharge_cases c n a c' amount off
    · rw [heq] at hx
      exact Or.inl (acceptTask_pumps c _ x hx)
    · rw [heq] at hx
      simp only [List.mem_cons, List.not_mem_nil, or_false] at hx
      obtain rfl | rfl := hx
      · exact Or.inr (Or.inl ⟨text, rfl⟩)
      · exact Or.inl (.completed _ _ _)
  | executeLimitChange n lim => exact Or.inl (acceptTask_pumps c _ x hx)
  | queryCardState n a reset => exact absurd rfl (hm n a reset)
  | getSnapshot n =>
    obtain rfl := List.mem_singleton.mp hx
    exact Or.inr (Or.inr ⟨n, _, rfl, rfl⟩)
  | replaceState lim con => cases hx
  | debug text =>
    obtain rfl := List.mem_singleton.mp hx
    exact Or.inr (Or.inl ⟨_, rfl⟩)
  | chargeReply r =>
    simp only [handle] at hx
    obtain ⟨op, -, -, heq⟩ | ⟨-, text, heq⟩ := handleChargeReply_cases c r
    · rw [heq] at hx
      exact Or.inl ((finish_pumps _ _ _ _ x hx).congr rfl rfl)
    · rw [heq] at hx
      obtain rfl := List.mem_singleton.mp hx
      exact Or.inr (Or.inl ⟨text, rfl⟩)

theorem handle_emits (c : CardActor) (m : CardMsg) : ∀ x ∈ (c.handle m).2, c.Emits x := by
  intro x hx
  by_cases hm : ∃ n a reset, m = .queryCardState n a reset
  · obtain ⟨n, a, reset, rfl⟩ := hm
    simp only [handle] at hx
    obtain ⟨-, heq⟩ | ⟨-, text, heq⟩ := queryCardState_cases c n a reset <;> rw [heq] at hx <;>
      obtain rfl := List.mem_singleton.mp hx
    · exact .reply n c.consumed
    · exact .debug text
  · obtain hp | ⟨text, rfl⟩ | ⟨n, s, -, rfl⟩ :=
      handle_pumps c m (fun n a reset he => hm ⟨n, a, reset, he⟩) x hx
    · exact hp.emits
    · exact .debug text
    · exact .snapshot n s

/-- A card never writes to a card, to the node or to another account. -/
theorem handle_elsewhere (c : CardActor) (m : CardMsg) (p : Send → Bool)
    (hp : ∀ x, c.Emits x → p x = false) : (c.handle m).2.countP p = 0 := by
  rw [List.countP_eq_zero]
  intro x hx
  rw [hp x (handle_emits c m x hx)]
  exact Bool.false_ne_true

@[simp] theorem handle_executes (c : CardActor) (m : CardMsg) (n : OpId) :
    (c.handle m).2.countP (Send.onRouter (RouterMsg.executes n)) = 0 :=
  handle_elsewhere c m _ fun x hx => by cases hx <;> rfl

@[simp] theorem handle_onCard (c : CardActor) (m : CardMsg) (k : CardKey) (p : CardMsg → Bool) :
    (c.handle m).2.countP (Send.onCard k p) = 0 :=
  handle_elsewhere c m _ fun x hx => by cases hx <;> rfl

@[simp] theorem handle_limits (c : CardActor) (m : CardMsg) (a : AccountId) (n : OpId) :
    (c.handle m).2.countP (Send.onAccount a (AccountMsg.limits n)) = 0 :=
  handle_elsewhere c m _ fun x hx => by
    cases hx <;> simp [applyCharge, completed, Send.onAccount, AccountMsg.limits]

theorem handle_onAccount (c : CardActor) (m : CardMsg) {a : AccountId} (p : AccountMsg → Bool)
    (ha : c.accountId ≠ a) : (c.handle m).2.countP (Send.onAccount a p) = 0 :=
  handle_elsewhere c m _ fun x hx => by
    cases hx <;> simp [applyCharge, completed, Send.onAccount, ha]

@[simp] theorem handle_toNode (c : CardActor) (m : CardMsg) :
    (c.handle m).2.filterMap Send.toNode? = [] := by
  rw [List.filterMap_eq_nil_iff]
  intro x hx
  cases handle_emits c m x hx <;> rfl

/-- A card answers every query of its account once. -/
theorem handle_answers (n : OpId) (c : CardActor) (m : CardMsg)
    (hm : ∀ n' a reset, m = .queryCardState n' a reset → a = c.accountId) :
    (c.handle m).2.countP (Send.onAccount c.accountId (AccountMsg.answers n)) =
      if m.asks n then 1 else 0 := by
  by_cases hq : ∃ n' a reset, m = .queryCardState n' a reset
  · obtain ⟨n', a, reset, rfl⟩ := hq
    simp only [handle, CardMsg.asks]
    obtain ⟨-, heq⟩ | ⟨hne, -⟩ := queryCardState_cases c n' a reset
    · rw [heq]
      simp [Send.onAccount, AccountMsg.answers, List.countP_cons]
    · exact absurd (hm n' a reset rfl) hne
  · have hne : ∀ n' a reset, m ≠ .queryCardState n' a reset :=
      fun n' a reset he => hq ⟨n', a, reset, he⟩
    have hasks : m.asks n = false := by
      cases m with
      | queryCardState n' a reset => exact absurd rfl (hne n' a reset)
      | _ => rfl
    rw [hasks, if_neg Bool.false_ne_true, List.countP_eq_zero]
    intro x hx
    obtain hp | ⟨text, rfl⟩ | ⟨n', s, -, rfl⟩ := handle_pumps c m hne x hx
    · cases hp <;> simp [completed, applyCharge, Send.onAccount, AccountMsg.answers]
    · simp [Send.onAccount]
    · simp [Send.onAccount]

end CardActor

end YpfRuta.Actors
