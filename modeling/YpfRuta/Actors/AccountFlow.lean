/-
  What one message moves at an account: a charge is answered to its card, a limit
  change is reported to the router.
-/
import YpfRuta.Actors.Counting

namespace YpfRuta.Actors

variable {Amount : Type} [Currency Amount]

namespace AccountActor

/-- The sends of an account: reports to the router, and charge replies to cards. -/
inductive Emits : Send → Prop where
  | completed (n : OpId) (b : Bool) (e : Option VerifyError) :
      Emits (.router (.operationCompleted n b e))
  | queried (n : OpId) (a : AccountId) (total : Amount) (perCard : List (CardId × Amount)) :
      Emits (.router (.accountQueryCompleted n a total perCard))
  | debug (text : String) : Emits (.router (.debug text))
  | snapshot (n : OpId) (s : AccountSnapshot Amount) :
      Emits (.router (.accountSnapshotCollected n s))
  | reply (k : CardKey) (r : AccountChargeReply) : Emits (.card k (.chargeReply r))

/-- A charge is answered to its card, with success exactly when it is added. -/
theorem applyChargeFromCard_cases (x : AccountActor) (n : OpId) (amount : Amount) (c : CardId)
    (off : Bool) (k : CardKey) :
    (x.added (.applyChargeFromCard n amount c off k) = [(n, amount)] ∧
      x.applyChargeFromCard n amount off k =
        ({ x with accountConsumed := x.accountConsumed + amount },
          [.card k (.chargeReply ⟨n, true, none⟩)])) ∨
    (x.added (.applyChargeFromCard n amount c off k) = [] ∧ off = false ∧
      ∃ err, x.applyChargeFromCard n amount off k =
        (x, [.card k (.chargeReply ⟨n, false, some (.chargeLimit err)⟩)])) := by
  cases off with
  | true => exact Or.inl ⟨rfl, rfl⟩
  | false =>
    cases hchk : x.checkAccountLimit amount with
    | ok u => exact Or.inl ⟨by simp [added, hchk], by simp [applyChargeFromCard, hchk]⟩
    | error err =>
      exact Or.inr ⟨by simp [added, hchk], rfl, err, by simp [applyChargeFromCard, hchk]⟩

theorem applyAccountLimit_cases (x : AccountActor) (n : OpId) (lim : Option Amount) :
    (canRaiseLimit lim x.accountConsumed = .ok () ∧ x.applyAccountLimit n lim =
      ({ x with accountLimit := lim }, [.router (.operationCompleted n true none)])) ∨
    (∃ err, canRaiseLimit lim x.accountConsumed = .error err ∧ x.applyAccountLimit n lim =
      (x, [.router (.operationCompleted n false (some (.limitUpdate err)))])) := by
  unfold applyAccountLimit
  cases hchk : canRaiseLimit lim x.accountConsumed with
  | ok u => exact Or.inl ⟨rfl, rfl⟩
  | error err => exact Or.inr ⟨err, rfl, rfl⟩

/-- A reply is collected by the pending query it answers, and by no other. -/
theorem cardQueryReply_cases (x : AccountActor) (n : OpId) (c : CardId) (con : Amount) :
    (∃ p, x.pendingQuery = some p ∧ p.opId = n ∧
      x.cardQueryReply n c con = x.collectReply p c con) ∨
    ((∀ p, x.pendingQuery = some p → p.opId ≠ n) ∧
      x.cardQueryReply n c con = x.unexpectedReply n) := by
  unfold cardQueryReply
  split
  · rename_i p hp
    split
    · rename_i hpn
      exact Or.inl ⟨p, hp, hpn, rfl⟩
    · rename_i hpn
      refine Or.inr ⟨?_, rfl⟩
      intro p' hp'
      rw [hp] at hp'
      cases hp'
      exact hpn
  · rename_i hp
    refine Or.inr ⟨?_, rfl⟩
    intro p' hp'
    rw [hp] at hp'
    cases hp'

/-- The last reply ends a query; any other is stored. -/
theorem collectReply_cases (x : AccountActor) (p : AccountPendingQuery) (c : CardId)
    (con : Amount) :
    (p.remaining - 1 = 0 ∧ x.collectReply p c con =
      ({ x with
          pendingQuery := none
          accountConsumed := if p.billing then 0 else x.accountConsumed },
        [.router (.accountQueryCompleted p.opId x.accountId
          (totalSpent (p.perCardSpent ++ [(c, con)])) (p.perCardSpent ++ [(c, con)]))])) ∨
    (p.remaining - 1 ≠ 0 ∧ x.collectReply p c con =
      ({ x with
          pendingQuery := some { p with
            perCardSpent := p.perCardSpent ++ [(c, con)], remaining := p.remaining - 1 } },
        [])) := by
  unfold collectReply
  by_cases h : p.remaining - 1 = 0
  · exact Or.inl ⟨h, if_pos h⟩
  · exact Or.inr ⟨h, if_neg h⟩

/-- What a query message makes an account send: nothing, the result, or a debug line. -/
theorem query_emits (x : AccountActor) (m : AccountMsg)
    (hm : (∃ n num, m = .startAccountQuery n num) ∨ (∃ n num, m = .startAccountBill n num) ∨
      ∃ n c con, m = .cardQueryReply n c con) :
    ∀ y ∈ (x.handle m).2, (∃ n a t l, y = .router (.accountQueryCompleted n a t l)) ∨
      ∃ text, y = .router (.debug text) := by
  intro y hy
  obtain ⟨n, num, rfl⟩ | ⟨n, num, rfl⟩ | ⟨n, c, con, rfl⟩ := hm
  · simp only [handle, startAccountQuery] at hy
    split at hy
    · obtain rfl := List.mem_singleton.mp hy
      exact Or.inl ⟨_, _, _, _, rfl⟩
    · cases hy
  · simp only [handle, startAccountBill] at hy
    split at hy
    · obtain rfl := List.mem_singleton.mp hy
      exact Or.inl ⟨_, _, _, _, rfl⟩
    · cases hy
  · simp only [handle, cardQueryReply] at hy
    split at hy
    · split at hy
      · simp only [collectReply] at hy
        split at hy
        · obtain rfl := List.mem_singleton.mp hy
          exact Or.inl ⟨_, _, _, _, rfl⟩
        · cases hy
      · obtain rfl := List.mem_singleton.mp hy
        exact Or.inr ⟨_, rfl⟩
    · obtain rfl := List.mem_singleton.mp hy
      exact Or.inr ⟨_, rfl⟩

theorem handle_emits (x : AccountActor) (m : AccountMsg) : ∀ y ∈ (x.handle m).2, Emits y := by
  intro y hy
  have query : ((∃ n a t l, y = .router (.accountQueryCompleted n a t l)) ∨
      ∃ text, y = .router (.debug text)) → Emits y := by
    rintro (⟨n, a, t, l, rfl⟩ | ⟨text, rfl⟩)
    · exact .queried n a t l
    · exact .debug text
  cases m with
  | applyChargeFromCard n amount c off k =>
    simp only [handle] at hy
    obtain ⟨-, heq⟩ | ⟨-, -, err, heq⟩ := applyChargeFromCard_cases x n amount c off k <;>
      rw [heq] at hy <;> obtain rfl := List.mem_singleton.mp hy <;> exact .reply k _
  | applyAccountLimit n lim =>
    simp only [handle] at hy
    obtain ⟨-, heq⟩ | ⟨err, -, heq⟩ := applyAccountLimit_cases x n lim <;>
      rw [heq] at hy <;> obtain rfl := List.mem_singleton.mp hy <;> exact .completed n _ _
  | startAccountQuery n num => exact query (query_emits x _ (Or.inl ⟨n, num, rfl⟩) y hy)
  | startAccountBill n num =>
    exact query (query_emits x _ (Or.inr (Or.inl ⟨n, num, rfl⟩)) y hy)
  | cardQueryReply n c con =>
    exact query (query_emits x _ (Or.inr (Or.inr ⟨n, c, con, rfl⟩)) y hy)
  | getSnapshot n =>
    obtain rfl := List.mem_singleton.mp hy
    exact .snapshot n _
  | replaceState lim con => cases hy

theorem handle_elsewhere (x : AccountActor) (m : AccountMsg) (p : Send → Bool)
    (hp : ∀ y, Emits y → p y = false) : (x.handle m).2.countP p = 0 := by
  rw [List.countP_eq_zero]
  intro y hy
  rw [hp y (handle_emits x m y hy)]
  exact Bool.false_ne_true

@[simp] theorem handle_executes (x : AccountActor) (m : AccountMsg) (n : OpId) :
    (x.handle m).2.countP (Send.onRouter (RouterMsg.executes n)) = 0 :=
  handle_elsewhere x m _ fun y hy => by cases hy <;> rfl

@[simp] theorem handle_onAccount (x : AccountActor) (m : AccountMsg) (a : AccountId)
    (p : AccountMsg → Bool) : (x.handle m).2.countP (Send.onAccount a p) = 0 :=
  handle_elsewhere x m _ fun y hy => by cases hy <;> rfl

/-- No account writes to an account. -/
@[simp] theorem handle_toAccount (x : AccountActor) (m : AccountMsg) (a : AccountId) :
    (x.handle m).2.filterMap (Send.toAccount? a) = [] := by
  have h := handle_onAccount x m a fun _ => true
  rw [← countP_toAccount, List.countP_true, List.length_eq_zero_iff] at h
  exact h

@[simp] theorem handle_brings (x : AccountActor) (m : AccountMsg) (k : CardKey) (n : OpId) :
    (x.handle m).2.countP (Send.onCard k (CardMsg.brings n)) = 0 :=
  handle_elsewhere x m _ fun y hy => by cases hy <;> simp [Send.onCard, CardMsg.brings]

@[simp] theorem handle_asks (x : AccountActor) (m : AccountMsg) (k : CardKey) (n : OpId) :
    (x.handle m).2.countP (Send.onCard k (CardMsg.asks n)) = 0 :=
  handle_elsewhere x m _ fun y hy => by cases hy <;> simp [Send.onCard, CardMsg.asks]

@[simp] theorem handle_toNode (x : AccountActor) (m : AccountMsg) :
    (x.handle m).2.filterMap Send.toNode? = [] := by
  rw [List.filterMap_eq_nil_iff]
  intro y hy
  cases handle_emits x m y hy <;> rfl

/-- An account writes to a card only to answer its charge. -/
theorem handle_toCard {x : AccountActor} {m : AccountMsg} {k : CardKey} {m' : CardMsg}
    (h : .card k m' ∈ (x.handle m).2) :
    ∃ n amount c off, m = .applyChargeFromCard n amount c off k := by
  cases m with
  | applyChargeFromCard n amount c off k' =>
    obtain ⟨-, heq⟩ | ⟨-, -, err, heq⟩ := applyChargeFromCard_cases x n amount c off k' <;>
    · rw [handle, heq] at h
      obtain ⟨rfl, -⟩ := Send.card.inj (List.mem_singleton.mp h)
      exact ⟨n, amount, c, off, rfl⟩
  | applyAccountLimit n lim =>
    obtain ⟨-, heq⟩ | ⟨err, -, heq⟩ := applyAccountLimit_cases x n lim <;>
    · rw [handle, heq] at h
      cases List.mem_singleton.mp h
  | startAccountQuery n num =>
    obtain ⟨_, _, _, _, he⟩ | ⟨_, he⟩ := query_emits _ _ (Or.inl ⟨n, num, rfl⟩) _ h <;> cases he
  | startAccountBill n num =>
    obtain ⟨_, _, _, _, he⟩ | ⟨_, he⟩ :=
      query_emits _ _ (Or.inr (Or.inl ⟨n, num, rfl⟩)) _ h <;> cases he
  | cardQueryReply n c con =>
    obtain ⟨_, _, _, _, he⟩ | ⟨_, he⟩ :=
      query_emits _ _ (Or.inr (Or.inr ⟨n, c, con, rfl⟩)) _ h <;> cases he
  | getSnapshot n => cases List.mem_singleton.mp h
  | replaceState lim con => cases h

/-- A query message counts for nothing but queries. -/
theorem query_countP (x : AccountActor) (m : AccountMsg) (p : Send → Bool)
    (hm : (∃ n num, m = .startAccountQuery n num) ∨ (∃ n num, m = .startAccountBill n num) ∨
      ∃ n c con, m = .cardQueryReply n c con)
    (hq : ∀ n a t l, p (.router (.accountQueryCompleted n a t l)) = false)
    (hd : ∀ text, p (.router (.debug text)) = false) : (x.handle m).2.countP p = 0 := by
  rw [List.countP_eq_zero]
  intro y hy
  obtain ⟨n, a, t, l, rfl⟩ | ⟨text, rfl⟩ := query_emits x m hm y hy
  · simp [hq]
  · simp [hd]

/-- The account reports exactly the limit changes. -/
theorem handle_completes (n : OpId) (x : AccountActor) (m : AccountMsg) :
    (x.handle m).2.countP (Send.onRouter (RouterMsg.completes n)) =
      if m.limits n then 1 else 0 := by
  cases m with
  | applyChargeFromCard n' amount c off k =>
    simp only [handle, AccountMsg.limits]
    obtain ⟨-, heq⟩ | ⟨-, -, err, heq⟩ := applyChargeFromCard_cases x n' amount c off k <;>
      rw [heq] <;> simp [Send.onRouter]
  | applyAccountLimit n' lim =>
    simp only [handle, AccountMsg.limits]
    obtain ⟨-, heq⟩ | ⟨err, -, heq⟩ := applyAccountLimit_cases x n' lim <;>
      rw [heq] <;> simp [Send.onRouter, RouterMsg.completes, List.countP_cons]
  | startAccountQuery n' num =>
    exact query_countP x _ _ (Or.inl ⟨n', num, rfl⟩) (fun _ _ _ _ => rfl) fun _ => rfl
  | startAccountBill n' num =>
    exact query_countP x _ _ (Or.inr (Or.inl ⟨n', num, rfl⟩)) (fun _ _ _ _ => rfl) fun _ => rfl
  | cardQueryReply n' c con =>
    exact query_countP x _ _ (Or.inr (Or.inr ⟨n', c, con, rfl⟩)) (fun _ _ _ _ => rfl)
      fun _ => rfl
  | getSnapshot n' => rfl
  | replaceState lim con => rfl

/-- An account reports no charge. -/
theorem handle_succeeds (n : OpId) (x : AccountActor) (m : AccountMsg)
    (hm : m.limits n = false) :
    (x.handle m).2.countP (Send.onRouter (RouterMsg.succeeds n)) = 0 := by
  have hle : (x.handle m).2.countP (Send.onRouter (RouterMsg.succeeds n)) ≤
      (x.handle m).2.countP (Send.onRouter (RouterMsg.completes n)) := by
    refine List.countP_mono_left ?_
    intro y _ hy
    cases y with
    | router m' =>
      cases m' with
      | operationCompleted n' b e =>
        simp only [Send.onRouter, RouterMsg.succeeds, Bool.and_eq_true] at hy
        exact hy.1
      | _ => cases hy
    | _ => cases hy
  rw [handle_completes, hm] at hle
  simpa using hle

/-- Every charge a message brings is answered to its card. -/
theorem handle_replies (n : OpId) (k : CardKey) (x : AccountActor) (m : AccountMsg)
    (hk : ∀ amount c off k', m = .applyChargeFromCard n amount c off k' → k' = k) :
    (x.handle m).2.countP (Send.onCard k (CardMsg.replies n)) =
      if m.applies n then 1 else 0 := by
  cases m with
  | applyChargeFromCard n' amount c off k' =>
    have hk' : n' = n → k' = k := by
      rintro rfl
      exact hk amount c off k' rfl
    simp only [handle, AccountMsg.applies]
    obtain ⟨-, heq⟩ | ⟨-, -, err, heq⟩ := applyChargeFromCard_cases x n' amount c off k' <;>
      rw [heq] <;> by_cases hn : n' = n <;>
      simp [Send.onCard, CardMsg.replies, hn, List.countP_cons] <;> exact hk' hn
  | applyAccountLimit n' lim =>
    simp only [handle, AccountMsg.applies]
    obtain ⟨-, heq⟩ | ⟨err, -, heq⟩ := applyAccountLimit_cases x n' lim <;>
      rw [heq] <;> simp [Send.onCard]
  | startAccountQuery n' num =>
    exact query_countP x _ _ (Or.inl ⟨n', num, rfl⟩) (fun _ _ _ _ => rfl) fun _ => rfl
  | startAccountBill n' num =>
    exact query_countP x _ _ (Or.inr (Or.inl ⟨n', num, rfl⟩)) (fun _ _ _ _ => rfl) fun _ => rfl
  | cardQueryReply n' c con =>
    exact query_countP x _ _ (Or.inr (Or.inr ⟨n', c, con, rfl⟩)) (fun _ _ _ _ => rfl)
      fun _ => rfl
  | getSnapshot n' => rfl
  | replaceState lim con => rfl

/-- Approval goes to the card exactly for the charges the account adds. -/
theorem handle_approves (n : OpId) (amount : Amount) (k : CardKey) (x : AccountActor)
    (m : AccountMsg)
    (hk : ∀ amount' c off k', m = .applyChargeFromCard n amount' c off k' →
      k' = k ∧ amount' = amount) :
    (x.handle m).2.countP (Send.onCard k (CardMsg.approves n)) =
      (x.added m).count (n, amount) := by
  cases m with
  | applyChargeFromCard n' amount' c off k' =>
    simp only [handle]
    obtain ⟨hadd, heq⟩ | ⟨hadd, -, err, heq⟩ := applyChargeFromCard_cases x n' amount' c off k' <;>
      rw [hadd, heq] <;> by_cases hn : n' = n
    · subst hn
      obtain ⟨rfl, rfl⟩ := hk amount' c off k' rfl
      simp [Send.onCard, CardMsg.approves]
    · simp [Send.onCard, CardMsg.approves, hn]
    · simp [Send.onCard, CardMsg.approves]
    · simp [Send.onCard, CardMsg.approves]
  | applyAccountLimit n' lim =>
    simp only [handle, added, List.count_nil]
    obtain ⟨-, heq⟩ | ⟨err, -, heq⟩ := applyAccountLimit_cases x n' lim <;>
      rw [heq] <;> simp [Send.onCard]
  | startAccountQuery n' num =>
    exact query_countP x _ _ (Or.inl ⟨n', num, rfl⟩) (fun _ _ _ _ => rfl) fun _ => rfl
  | startAccountBill n' num =>
    exact query_countP x _ _ (Or.inr (Or.inl ⟨n', num, rfl⟩)) (fun _ _ _ _ => rfl) fun _ => rfl
  | cardQueryReply n' c con =>
    exact query_countP x _ _ (Or.inr (Or.inr ⟨n', c, con, rfl⟩)) (fun _ _ _ _ => rfl)
      fun _ => rfl
  | getSnapshot n' => rfl
  | replaceState lim con => rfl

end AccountActor

end YpfRuta.Actors
