/-
  Limits: no online charge takes an account or a card past its limit.

  The card checks its limit before the round trip to the account and adds the
  amount after it. The check is still good then: while a charge is in flight the
  other tasks wait in the queue, a bill only lowers the consumption to zero, and
  a snapshot drops the charge.
-/
import Mathlib.Algebra.Order.Ring.Rat
import YpfRuta.Actors.Origin

namespace YpfRuta.Actors

open Lib

/-- `x` is at most the limit, if there is one. -/
def WithinLimit (limit : Option Amount) (x : Amount) : Prop := ∀ l, limit = some l → x ≤ l

theorem WithinLimit.none (x : Amount) : WithinLimit none x := by
  intro l h
  cases h

theorem WithinLimit.mono {limit : Option Amount} {x y : Amount} (h : WithinLimit limit y)
    (hxy : x ≤ y) : WithinLimit limit x := fun l hl => le_trans hxy (h l hl)

theorem checkChargeLimit_ok {c : CardActor} {amount : Amount} :
    c.checkChargeLimit amount = .ok () ↔ WithinLimit c.limit (c.consumed + amount) := by
  unfold CardActor.checkChargeLimit WithinLimit
  cases c.limit with
  | none => simp
  | some l => simp

theorem canSetNewLimit_ok {c : CardActor} {newLimit : Option Amount} :
    c.canSetNewLimit newLimit = .ok () ↔ WithinLimit newLimit c.consumed := by
  unfold CardActor.canSetNewLimit WithinLimit
  cases newLimit with
  | none => simp
  | some l => simp

theorem checkAccountLimit_ok {x : AccountActor} {amount : Amount} :
    x.checkAccountLimit amount = .ok () ↔
      WithinLimit x.accountLimit (x.accountConsumed + amount) := by
  unfold AccountActor.checkAccountLimit WithinLimit
  cases x.accountLimit with
  | none => simp
  | some l => simp

theorem canRaiseLimit_ok {newLimit : Option Amount} {x : Amount} :
    AccountActor.canRaiseLimit newLimit x = .ok () ↔ WithinLimit newLimit x := by
  unfold AccountActor.canRaiseLimit WithinLimit
  cases newLimit with
  | none => simp
  | some l => simp

/-! ## The pump and the limit -/

theorem pump_within (c : CardActor) (h : WithinLimit c.limit c.consumed) :
    WithinLimit c.startCurrentTask.1.limit c.startCurrentTask.1.consumed := by
  have settles : ∀ (c : CardActor) t lim b e, c.Settles t lim b e →
      WithinLimit c.limit c.consumed → WithinLimit lim c.consumed := by
    intro c t lim b e hs hw
    cases hs with
    | rejected => exact hw
    | limitSet n lim hchk => exact canSetNewLimit_ok.mp hchk
    | limitRefused => exact hw
  refine CardActor.pump_induct (P := fun c r => WithinLimit c.limit c.consumed →
    WithinLimit r.1.limit r.1.consumed) ?_ ?_ ?_ ?_ c h
  · intro c _ h
    exact h
  · intro c op _ _ h
    exact h
  · intro c t lim b e _ hs _ h
    exact settles c t lim b e hs h
  · intro c t lim b e t' q r _ hs _ ih h
    exact ih (settles c t lim b e hs h)

theorem finish_within (c : CardActor) (n : OpId) (b : Bool) (e : Option VerifyError)
    (h : WithinLimit c.limit c.consumed) :
    WithinLimit (c.finishCurrentTask n b e).1.limit (c.finishCurrentTask n b e).1.consumed := by
  cases hq : c.queue with
  | nil =>
    rw [CardActor.finishCurrentTask_nil c hq]
    exact h
  | cons t q =>
    rw [CardActor.finishCurrentTask_cons c hq]
    exact pump_within _ h

/-! ## The invariant -/

/-- Charge amounts, and the consumption in a snapshot, are not negative. -/
def NonNegative : Operation Amount → Prop
  | .charge _ _ amount _ => 0 ≤ amount
  | .replaceDatabase snapshot =>
    (∀ x ∈ snapshot.accounts, 0 ≤ x.consumed) ∧ ∀ x ∈ snapshot.cards, 0 ≤ x.consumed
  | _ => True

/-- Operations that can take a consumption past its limit. -/
def IgnoresLimits : Operation Amount → Prop
  | .charge _ _ _ fromOfflineStation => fromOfflineStation = true
  | .replaceDatabase _ => True
  | _ => False

structure CardLimits (B : Prop) (c : CardActor) : Prop where
  nonneg : 0 ≤ c.consumed
  passes : ∀ op, c.currentTask = some (.charge op) → c.Passes op
  within : B → WithinLimit c.limit c.consumed

structure AccountLimits (B : Prop) (x : AccountActor) : Prop where
  nonneg : 0 ≤ x.accountConsumed
  within : B → WithinLimit x.accountLimit x.accountConsumed

/-- The limit invariant. `B` says that no command ignores the limits. -/
def limitsInv (B : Prop) : LocalInv where
  router _ := True
  account _ x := AccountLimits B x
  card _ c := CardLimits B c
  routerMsg _ := True
  accountMsg _ _ := True
  cardMsg _ _ := True
  event _ := True

variable {K : OpId → Operation Amount → Prop} {B : Prop}

theorem acceptTask_limits {c : CardActor} (h : CardLimits B c) (t : CardTask) :
    CardLimits B (c.acceptTask t).1 := by
  cases hcur : c.currentTask with
  | none =>
    simp only [CardActor.acceptTask, hcur]
    exact ⟨by rw [CardActor.pump_consumed]; exact h.nonneg, CardActor.pump_passes _,
      fun hb => pump_within _ (h.within hb)⟩
  | some u =>
    simp only [CardActor.acceptTask, hcur]
    exact ⟨h.nonneg, hcur ▸ h.passes, h.within⟩

/-- Resetting the consumption keeps a passed check. -/
theorem CardLimits.reset {c : CardActor} (h : CardLimits B c) :
    CardLimits B { c with consumed := 0 } where
  nonneg := le_refl 0
  passes := by
    intro op hop
    refine (h.passes op hop).imp id fun hchk => ?_
    refine checkChargeLimit_ok.mpr ((checkChargeLimit_ok.mp hchk).mono ?_)
    exact add_le_add_left h.nonneg op.amount
  within hb := (h.within hb).mono h.nonneg

/-- Applying a charge that passed the check keeps the limits. -/
theorem chargeReply_limits {k : CardKey} {c : CardActor} (ho : CardOrigin K k c)
    (h : CardLimits B c) (hnn : ∀ n o, K n o → NonNegative o)
    (hB : B → ∀ n o, K n o → ¬ IgnoresLimits o) (r : AccountChargeReply) :
    CardLimits B (c.handleChargeReply r).1 := by
  unfold CardActor.handleChargeReply
  dsimp only
  split
  · rename_i op hop
    split
    · have htask : K op.opId (.charge k.1 k.2 op.amount op.fromOfflineStation) :=
        ho.current _ hop
      have hamount : 0 ≤ op.amount := hnn _ _ htask
      have hsum : 0 ≤ c.consumed + op.amount := add_nonneg h.nonneg hamount
      refine ⟨?_, CardActor.finish_passes _ _ _ _, ?_⟩
      · rw [CardActor.finish_consumed]
        dsimp only
        split
        · exact hsum
        · exact h.nonneg
      · intro hb
        refine finish_within _ _ _ _ ?_
        dsimp only
        split
        · refine checkChargeLimit_ok.mp ((h.passes op hop).resolve_left ?_)
          exact hB hb _ _ htask
        · exact h.within hb
    · exact h
  · exact h

theorem card_limits {k : CardKey} {c : CardActor} (ho : CardOrigin K k c) (h : CardLimits B c)
    (hnn : ∀ n o, K n o → NonNegative o) (hB : B → ∀ n o, K n o → ¬ IgnoresLimits o)
    (m : CardMsg) (hm : cardMsgOrigin K k m) : CardLimits B (c.handle m).1 := by
  cases m with
  | executeCharge n a c' amount off =>
    simp only [CardActor.handle, CardActor.executeCharge]
    split
    · exact h
    · exact acceptTask_limits h _
  | executeLimitChange n lim => exact acceptTask_limits h _
  | queryCardState n a billing =>
    simp only [CardActor.handle, CardActor.queryCardState]
    split
    · exact h
    · cases billing with
      | false => exact h
      | true => exact h.reset
  | getSnapshot n => exact h
  | replaceState lim con =>
    obtain ⟨n, snapshot, hk, hmem⟩ := hm
    refine ⟨(hnn _ _ hk).2 _ hmem, ?_, fun hb => absurd True.intro (hB hb _ _ hk)⟩
    intro op hop
    cases hop
  | debug text => exact h
  | chargeReply r => exact chargeReply_limits ho h hnn hB r

theorem account_limits {a : AccountId} {x : AccountActor} (h : AccountLimits B x)
    (hnn : ∀ n o, K n o → NonNegative o) (hB : B → ∀ n o, K n o → ¬ IgnoresLimits o)
    (m : AccountMsg) (ho : accountMsgOrigin K a m) :
    AccountLimits B (x.handle m).1 := by
  have hreset : AccountLimits B { x with accountConsumed := 0 } :=
    ⟨le_refl 0, fun hb => (h.within hb).mono h.nonneg⟩
  cases m with
  | applyChargeFromCard n amount c off k =>
    have hamount : 0 ≤ amount := hnn _ _ ho.2
    have hsum : 0 ≤ x.accountConsumed + amount := add_nonneg h.nonneg hamount
    simp only [AccountActor.handle, AccountActor.applyChargeFromCard]
    split
    · rename_i hoff
      exact ⟨hsum, fun hb => absurd hoff (hB hb _ _ ho.2)⟩
    · split
      · rename_i hchk
        exact ⟨hsum, fun _ => checkAccountLimit_ok.mp hchk⟩
      · exact h
  | applyAccountLimit n lim =>
    simp only [AccountActor.handle, AccountActor.applyAccountLimit]
    split
    · rename_i hchk
      exact ⟨h.nonneg, fun _ => canRaiseLimit_ok.mp hchk⟩
    · exact h
  | startAccountQuery n num =>
    simp only [AccountActor.handle, AccountActor.startAccountQuery]
    split <;> exact ⟨h.nonneg, h.within⟩
  | startAccountBill n num =>
    simp only [AccountActor.handle, AccountActor.startAccountBill]
    split
    · exact ⟨hreset.nonneg, hreset.within⟩
    · exact ⟨h.nonneg, h.within⟩
  | cardQueryReply n c con =>
    simp only [AccountActor.handle, AccountActor.cardQueryReply]
    split
    · rename_i p _
      split
      · simp only [AccountActor.collectReply]
        split
        · cases p.billing with
          | false => exact ⟨h.nonneg, h.within⟩
          | true => exact ⟨hreset.nonneg, hreset.within⟩
        · exact ⟨h.nonneg, h.within⟩
      · exact h
    · exact h
  | getSnapshot n => exact h
  | replaceState lim con =>
    obtain ⟨n, snapshot, hk, hmem⟩ := ho
    exact ⟨(hnn _ _ hk).1 _ hmem, fun hb => absurd True.intro (hB hb _ _ hk)⟩

/-- No predicate on messages: every send meets it. -/
theorem limits_sent (x : Send) : (limitsInv B).Sent x := by
  cases x <;> exact True.intro

theorem limits_preserved (hnn : ∀ n o, K n o → NonNegative o)
    (hB : B → ∀ n o, K n o → ¬ IgnoresLimits o) :
    LocalInv.Preserved (originInv K) (limitsInv B) where
  router _ _ _ _ _ _ := ⟨True.intro, fun x _ => limits_sent x⟩
  account _ _ m _ ho h _ := ⟨account_limits h hnn hB m ho, fun y _ => limits_sent y⟩
  card _ _ m hc ho h _ := ⟨card_limits hc h hnn hB m ho, fun y _ => limits_sent y⟩

/-- The limit invariant holds of every state reached from the empty database. -/
theorem limits_reaches {s : ActorDb} (hr : Reaches ActorDb.step ActorDb.init s)
    (hnn : ∀ c ∈ s.commands, NonNegative c.2)
    (hB : B → ∀ c ∈ s.commands, ¬ IgnoresLimits c.2) : (limitsInv B).Holds s := by
  refine (reaches_local hr (limits_preserved (fun n o hc => hnn (n, o) hc)
    fun hb n o hc => hB hb (n, o) hc) (fun _ _ _ => True.intro) origin_init ?_).2
  refine LocalInv.holds_init True.intro ?_ ?_
  · intro a
    exact ⟨le_refl 0, fun _ => WithinLimit.none _⟩
  · intro k
    exact ⟨le_refl 0, by simp [CardActor.new], fun _ => WithinLimit.none _⟩

/-! ## Online charges -/

/-- What an online charge applied by the step from `s` to `s'` leaves behind: the
    account within its limit; the card within the limit it had, and within the
    one it has after the step. -/
structure OnlineWithinLimit (s s' : ActorDb) : Prop where
  account : ∀ a c n amount, s'.applied = s.applied ++ [.account a n amount] →
    (n, .charge a c amount false) ∈ s.commands →
    WithinLimit (s'.account a).accountLimit (s'.account a).accountConsumed
  card : ∀ k n amount, s'.applied = s.applied ++ [.card k n amount] →
    (n, .charge k.1 k.2 amount false) ∈ s.commands →
    WithinLimit (s.card k).limit ((s.card k).consumed + amount) ∧
      WithinLimit (s'.card k).limit (s'.card k).consumed

theorem account_added {x : AccountActor} {m : AccountMsg} {n : OpId} {amount : Amount}
    (h : (n, amount) ∈ x.added m) :
    ∃ c off k, m = .applyChargeFromCard n amount c off k ∧
      (off = true ∨ x.checkAccountLimit amount = .ok ()) := by
  cases m <;> simp only [AccountActor.added, List.not_mem_nil] at h
  split at h
  · rename_i hok
    obtain ⟨rfl, rfl⟩ := Prod.mk.inj (List.mem_singleton.mp h)
    exact ⟨_, _, _, rfl, hok⟩
  · cases h

theorem card_added {c : CardActor} {m : CardMsg} {n : OpId} {amount : Amount}
    (h : (n, amount) ∈ c.added m) :
    ∃ r op, m = .chargeReply r ∧ c.currentTask = some (.charge op) ∧ op.opId = r.opId ∧
      r.success = true ∧ n = op.opId ∧ amount = op.amount := by
  cases m <;> simp only [CardActor.added, List.not_mem_nil] at h
  split at h
  · rename_i op hop
    split at h
    · rename_i hok
      obtain ⟨rfl, rfl⟩ := Prod.mk.inj (List.mem_singleton.mp h)
      exact ⟨_, op, rfl, hop, hok.1, hok.2, rfl, rfl⟩
    · cases h
  · cases h

theorem account_applied_within {x : AccountActor} {n : OpId} {amount : Amount} {c : CardId}
    {k : CardKey} (hchk : x.checkAccountLimit amount = .ok ()) :
    WithinLimit (x.handle (.applyChargeFromCard n amount c false k)).1.accountLimit
      (x.handle (.applyChargeFromCard n amount c false k)).1.accountConsumed := by
  simp only [AccountActor.handle, AccountActor.applyChargeFromCard, hchk, Bool.false_eq_true,
    if_false]
  exact checkAccountLimit_ok.mp hchk

theorem card_applied_within {c : CardActor} {r : AccountChargeReply} {op : CardChargeOp}
    (hop : c.currentTask = some (.charge op)) (hid : op.opId = r.opId) (hr : r.success = true)
    (hw : WithinLimit c.limit (c.consumed + op.amount)) :
    WithinLimit (c.handle (.chargeReply r)).1.limit (c.handle (.chargeReply r)).1.consumed := by
  simp only [CardActor.handle, CardActor.handleChargeReply, hop, hid, hr, if_true]
  exact finish_within _ _ _ _ hw

/-- **Limits are never exceeded by online charges.** In every reachable state, each
    online charge the next step applies leaves its account or its card within the
    limit; and when no command ignores the limits, every account and every card is
    within its limit. -/
theorem limits_never_exceeded {s : ActorDb} (hr : Reaches ActorDb.step ActorDb.init s)
    (hid : (s.commands.map Prod.fst).Nodup) (hnn : ∀ c ∈ s.commands, NonNegative c.2) :
    (∀ l s', s.step l = some s' → OnlineWithinLimit s s') ∧
    ((∀ c ∈ s.commands, ¬ IgnoresLimits c.2) →
      (∀ a, WithinLimit (s.account a).accountLimit (s.account a).accountConsumed) ∧
      ∀ k, WithinLimit (s.card k).limit (s.card k).consumed) := by
  refine ⟨?_, ?_⟩
  · intro l s' h
    have ho := origin_reaches hr
    have hl : (limitsInv False).Holds s := limits_reaches hr hnn fun hb => hb.elim
    obtain ⟨n, o, rfl, rfl⟩ | ⟨m, rest, rfl, -, -, rfl⟩ | ⟨a, m, rest, rfl, hbox, rfl⟩ |
      ⟨k, m, rest, rfl, hbox, rfl⟩ := ActorDb.step_cases h
    · exact ⟨by simp [ActorDb.execute], by simp [ActorDb.execute]⟩
    · exact ⟨by simp [ActorDb.routerStep, ActorDb.deliver],
        by simp [ActorDb.routerStep, ActorDb.deliver]⟩
    · refine ⟨?_, ?_⟩
      · intro a' c n amount happ hcmd
        obtain ⟨p, hp, heq⟩ := ActorDb.accountStep_applied happ
        obtain ⟨rfl, rfl, rfl⟩ := Applied.account.inj heq
        obtain ⟨c', off, k, rfl, hok⟩ := account_added hp
        have hmo := ho.accountBox a' _ (by rw [hbox]; exact List.mem_cons_self)
        obtain ⟨-, -, -, rfl⟩ := Operation.charge.inj (command_unique hid hmo.2 hcmd)
        rw [ActorDb.accountStep_account, Function.update_self]
        exact account_applied_within (hok.resolve_left Bool.false_ne_true)
      · intro k n amount happ _
        obtain ⟨p, -, heq⟩ := ActorDb.accountStep_applied happ
        cases heq
    · refine ⟨?_, ?_⟩
      · intro a c n amount happ _
        obtain ⟨p, -, heq⟩ := ActorDb.cardStep_applied happ
        cases heq
      · intro k' n amount happ hcmd
        obtain ⟨p, hp, heq⟩ := ActorDb.cardStep_applied happ
        obtain ⟨rfl, rfl, rfl⟩ := Applied.card.inj heq
        obtain ⟨r, op, rfl, hop, hopid, hsucc, hn, hamount⟩ := card_added hp
        have htask : (op.opId, Operation.charge k'.1 k'.2 op.amount op.fromOfflineStation) ∈
            s.commands := (ho.card k').current _ hop
        rw [← hn] at htask
        obtain ⟨-, -, -, hoff⟩ := Operation.charge.inj (command_unique hid htask hcmd)
        have hw : WithinLimit (s.card k').limit ((s.card k').consumed + op.amount) := by
          refine checkChargeLimit_ok.mp (((hl.card k').passes op hop).resolve_left ?_)
          rw [hoff]
          exact Bool.false_ne_true
        rw [ActorDb.cardStep_card, Function.update_self, hamount]
        exact ⟨hw, card_applied_within hop hopid hsucc hw⟩
  · intro hB
    have hl : (limitsInv True).Holds s := limits_reaches hr hnn fun _ => hB
    exact ⟨fun a => (hl.account a).within True.intro, fun k => (hl.card k).within True.intro⟩

/-- A limited account, one online charge, and the step that applies it to the card. -/
theorem limits_never_exceeded_example :
    ∃ s s', run ActorDb.step ActorDb.init
        [.execute 1 (.limitAccount 1 (some 100)), .execute 2 (.charge 1 7 60 false),
          .router, .router, .account 1, .card (1, 7), .account 1] = some s ∧
      s.step (.card (1, 7)) = some s' ∧
      s'.applied = s.applied ++ [.card (1, 7) 2 60] ∧ OnlineWithinLimit s s' ∧
      WithinLimit (s.account 1).accountLimit (s.account 1).accountConsumed := by
  have hrun : (run ActorDb.step ActorDb.init
      [.execute 1 (.limitAccount 1 (some 100)), .execute 2 (.charge 1 7 60 false),
        .router, .router, .account 1, .card (1, 7), .account 1]).any (fun s =>
          s.commands = [(1, .limitAccount 1 (some 100)), (2, .charge 1 7 60 false)] ∧
          (s.step (.card (1, 7))).any fun s' =>
            s'.applied = s.applied ++ [.card (1, 7) 2 60]) = true := by
    decide +kernel
  obtain ⟨s, hs, hp⟩ := (Option.any_eq_true _ _).mp hrun
  obtain ⟨hcmd, hp⟩ := of_decide_eq_true hp
  obtain ⟨s', hs', happ⟩ := (Option.any_eq_true _ _).mp hp
  have h60 : (0 : Amount) ≤ 60 := by decide +kernel
  have hall := limits_never_exceeded ⟨_, hs⟩ (by rw [hcmd]; decide)
    (by rw [hcmd]; simp [NonNegative, h60])
  have hB : ∀ c ∈ s.commands, ¬ IgnoresLimits c.2 := by
    rw [hcmd]
    simp [IgnoresLimits]
  exact ⟨s, s', hs, hs', of_decide_eq_true happ, hall.1 _ s' hs', (hall.2 hB).1 1⟩

end YpfRuta.Actors
