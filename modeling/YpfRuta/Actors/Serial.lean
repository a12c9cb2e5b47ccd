/-
  A list of operations, one after another: `Ledger.serve` as a function, the results it
  comes with, and that they are the same whoever executes the list.
-/
import Mathlib.Algebra.BigOperators.Group.List.Basic
import YpfRuta.Actors.Completion
import YpfRuta.Actors.Sequential

namespace YpfRuta.Actors

open Lib

section

variable {Amount : Type} [Currency Amount]

instance (e : Entry) (amount : Amount) : Decidable (e.Admits amount) :=
  inferInstanceAs (Decidable (∀ limit ∈ e.limit, ¬ e.consumed + amount > limit))

instance (e : Entry) (newLimit : Option Amount) : Decidable (e.Bears newLimit) :=
  inferInstanceAs (Decidable (∀ limit ∈ newLimit, limit ≥ e.consumed))

/-- The account an operation is about. -/
def accountOf? : Operation Amount → Option AccountId
  | .charge accountId _ _ _ => some accountId
  | .limitAccount accountId _ => some accountId
  | .limitCard accountId _ _ => some accountId
  | .accountQuery accountId => some accountId
  | .bill accountId _ => some accountId
  | .getDatabase _ => none
  | .replaceDatabase _ => none

namespace Ledger

/-- The error an operation ends with, if it fails. -/
def verdict (L : Ledger) : Operation Amount → Option VerifyError
  | .charge a c amount offline =>
    if offline then none
    else if ¬ (L.cardEntry (a, c)).Admits amount then some (.chargeLimit .cardLimitExceeded)
    else if ¬ (L.accountEntry a).Admits amount then some (.chargeLimit .accountLimitExceeded)
    else none
  | .limitAccount a newLimit =>
    if (L.accountEntry a).Bears newLimit then none else some (.limitUpdate .belowCurrentUsage)
  | .limitCard a c newLimit =>
    if (L.cardEntry (a, c)).Bears newLimit then none else some (.limitUpdate .belowCurrentUsage)
  | _ => none

/-- The ledger after an operation. -/
def serve (L : Ledger) (o : Operation Amount) : Ledger :=
  match o with
  | .charge a c amount _ =>
    if L.verdict o = none then
      (L.setAccount a ((L.accountEntry a).charge amount)).setCard (a, c)
        ((L.cardEntry (a, c)).charge amount)
    else L.openCard (a, c)
  | .limitAccount a newLimit =>
    if L.verdict o = none then L.setAccount a ((L.accountEntry a).withLimit newLimit)
    else L.openAccount a
  | .limitCard a c newLimit =>
    if L.verdict o = none then
      (L.openAccount a).setCard (a, c) ((L.cardEntry (a, c)).withLimit newLimit)
    else L.openCard (a, c)
  | .accountQuery a => L.openAccount a
  | .bill a _ => L.settle a
  | _ => L

variable {L L' L'' : Ledger} {o : Operation Amount} {a : AccountId} {k : CardKey}

theorem verdict_charge_ok {c : CardId} {amount : Amount} {offline : Bool} :
    L.verdict (.charge a c amount offline) = none ↔
      offline = true ∨
        (L.cardEntry (a, c)).Admits amount ∧ (L.accountEntry a).Admits amount := by
  unfold verdict
  cases offline with
  | true => simp
  | false =>
    by_cases hc : (L.cardEntry (a, c)).Admits amount <;>
      by_cases ha : (L.accountEntry a).Admits amount <;> simp [hc, ha]

/-- **The specification is a function**, but for the order of a list. -/
theorem Serves.serve {res : OperationResult Amount} {err : Option VerifyError}
    (h : L.Serves o res err L') : err = L.verdict o ∧ L' = L.serve o := by
  cases h with
  | charged a c amount offline h =>
    have hv := verdict_charge_ok.mpr h
    exact ⟨hv.symm, (if_pos hv).symm⟩
  | cardExceeded a c amount hcard => simp [verdict, Ledger.serve, hcard]
  | accountExceeded a c amount hcard hacc => simp [verdict, Ledger.serve, hcard, hacc]
  | accountLimited a newLimit h => simp [verdict, Ledger.serve, h]
  | accountBelowUsage a newLimit h => simp [verdict, Ledger.serve, h]
  | cardLimited a c newLimit h => simp [verdict, Ledger.serve, h]
  | cardBelowUsage a c newLimit h => simp [verdict, Ledger.serve, h]
  | queried a spent h => exact ⟨rfl, rfl⟩
  | billed a period spent h => exact ⟨rfl, rfl⟩
  | shown addr snapshot haddr h => exact ⟨rfl, rfl⟩

/-- A charge or a limit change is served with its verdict. -/
theorem serves_task (L : Ledger) (ht : IsTask o) :
    ∃ res, ActorRouter.completedResult o (L.verdict o).isNone (L.verdict o) = some res ∧
      L.Serves o res (L.verdict o) (L.serve o) := by
  cases o with
  | charge a c amount offline =>
    by_cases hoff : offline = true ∨
        (L.cardEntry (a, c)).Admits amount ∧ (L.accountEntry a).Admits amount
    · have hv := verdict_charge_ok.mpr hoff
      have h := Serves.charged (L := L) a c amount offline hoff
      rw [h.serve.2, ← hv] at h
      exact ⟨_, by rw [hv]; rfl, h⟩
    · simp only [not_or, Bool.not_eq_true, not_and] at hoff
      obtain ⟨rfl, hno⟩ := hoff
      by_cases hc : (L.cardEntry (a, c)).Admits amount
      · have h := Serves.accountExceeded (L := L) a c amount hc (hno hc)
        rw [h.serve.2, h.serve.1] at h
        exact ⟨_, by simp [verdict, hc, hno hc, ActorRouter.completedResult,
          ActorRouter.chargeResult], h⟩
      · have h := Serves.cardExceeded (L := L) a c amount hc
        rw [h.serve.2, h.serve.1] at h
        exact ⟨_, by simp [verdict, hc, ActorRouter.completedResult, ActorRouter.chargeResult], h⟩
  | limitAccount a newLimit =>
    by_cases hb : (L.accountEntry a).Bears newLimit
    · have h := Serves.accountLimited (L := L) a newLimit hb
      rw [h.serve.2, h.serve.1] at h
      exact ⟨_, by simp [verdict, hb, ActorRouter.completedResult, ActorRouter.limitResult], h⟩
    · have h := Serves.accountBelowUsage (L := L) a newLimit hb
      rw [h.serve.2, h.serve.1] at h
      exact ⟨_, by simp [verdict, hb, ActorRouter.completedResult, ActorRouter.limitResult], h⟩
  | limitCard a c newLimit =>
    by_cases hb : (L.cardEntry (a, c)).Bears newLimit
    · have h := Serves.cardLimited (L := L) a c newLimit hb
      rw [h.serve.2, h.serve.1] at h
      exact ⟨_, by simp [verdict, hb, ActorRouter.completedResult, ActorRouter.limitResult], h⟩
    · have h := Serves.cardBelowUsage (L := L) a c newLimit hb
      rw [h.serve.2, h.serve.1] at h
      exact ⟨_, by simp [verdict, hb, ActorRouter.completedResult, ActorRouter.limitResult], h⟩
  | _ => exact ht.elim

theorem serves_query (L : Ledger) {billing : Bool} (hq : Queries a billing o)
    {spent : List (CardId × Amount)} (h : Lists Prod.fst (L.cardSpent a) spent) :
    L.Serves o (.accountQuery ⟨a, L.total a spent, spent⟩) none (L.serve o) := by
  cases billing with
  | true =>
    obtain ⟨period, rfl⟩ := hq
    exact .billed a period spent h
  | false =>
    obtain rfl : o = .accountQuery a := hq
    exact .queried a spent h

/-! ## What an operation leaves alone -/

@[simp] theorem setCard_cardEntry (k j : CardKey) (e : Entry) :
    (L.setCard k e).cardEntry j = if j = k then e else L.cardEntry j := by
  by_cases h : j = k <;> simp [setCard, cardEntry, h]

@[simp] theorem setAccount_cardEntry (a : AccountId) (j : CardKey) (e : Entry) :
    (L.setAccount a e).cardEntry j = L.cardEntry j := rfl

@[simp] theorem setAccount_accountEntry (a b : AccountId) (e : Entry) :
    (L.setAccount a e).accountEntry b = if b = a then e else L.accountEntry b := by
  by_cases h : b = a <;> simp [setAccount, accountEntry, h]

@[simp] theorem setCard_accountEntry (k : CardKey) (b : AccountId) (e : Entry) :
    (L.setCard k e).accountEntry b = L.accountEntry b := rfl

@[simp] theorem openAccount_accountEntry (a b : AccountId) :
    (L.openAccount a).accountEntry b = L.accountEntry b := by
  by_cases h : b = a <;> simp [openAccount, h]

@[simp] theorem openAccount_cardEntry (a : AccountId) (j : CardKey) :
    (L.openAccount a).cardEntry j = L.cardEntry j := rfl

@[simp] theorem openCard_accountEntry (k : CardKey) (b : AccountId) :
    (L.openCard k).accountEntry b = L.accountEntry b := by
  simp [openCard]

@[simp] theorem openCard_cardEntry (k j : CardKey) :
    (L.openCard k).cardEntry j = L.cardEntry j := by
  by_cases h : j = k <;> simp [openCard, h]

theorem settle_accountEntry (a b : AccountId) :
    (L.settle a).accountEntry b =
      if b = a then (L.accountEntry a).settle else L.accountEntry b := by
  by_cases h : b = a <;> simp [settle, accountEntry, h]

theorem settle_cardEntry (a : AccountId) (j : CardKey) :
    (L.settle a).cardEntry j = if j.1 = a then (L.cardEntry j).settle else L.cardEntry j := by
  by_cases h : j.1 = a
  · cases hc : L.card j <;> simp [settle, cardEntry, h, hc, Entry.settle, Entry.fresh]
  · simp [settle, cardEntry, h]

theorem serve_charge (L : Ledger) (a : AccountId) (c : CardId) (amount : Amount)
    (offline : Bool) :
    L.serve (.charge a c amount offline) =
      if L.verdict (.charge a c amount offline) = none then
        (L.setAccount a ((L.accountEntry a).charge amount)).setCard (a, c)
          ((L.cardEntry (a, c)).charge amount)
      else L.openCard (a, c) := rfl

theorem serve_limitAccount (L : Ledger) (a : AccountId) (newLimit : Option Amount) :
    L.serve (.limitAccount a newLimit) =
      if L.verdict (.limitAccount a newLimit) = none then
        L.setAccount a ((L.accountEntry a).withLimit newLimit)
      else L.openAccount a := rfl

theorem serve_limitCard (L : Ledger) (a : AccountId) (c : CardId) (newLimit : Option Amount) :
    L.serve (.limitCard a c newLimit) =
      if L.verdict (.limitCard a c newLimit) = none then
        (L.openAccount a).setCard (a, c) ((L.cardEntry (a, c)).withLimit newLimit)
      else L.openCard (a, c) := rfl

/-- A charge changes its card only when it succeeds. -/
theorem serve_charge_card (a : AccountId) (c : CardId) (amount : Amount) (offline : Bool) :
    (L.serve (.charge a c amount offline)).cardEntry (a, c) =
      if L.verdict (.charge a c amount offline) = none then (L.cardEntry (a, c)).charge amount
      else L.cardEntry (a, c) := by
  rw [serve_charge]
  split <;> simp

theorem serve_charge_account (a : AccountId) (c : CardId) (amount : Amount) (offline : Bool) :
    (L.serve (.charge a c amount offline)).accountEntry a =
      if L.verdict (.charge a c amount offline) = none then (L.accountEntry a).charge amount
      else L.accountEntry a := by
  rw [serve_charge]
  split <;> simp

theorem serve_limitCard_card (a : AccountId) (c : CardId) (newLimit : Option Amount) :
    (L.serve (.limitCard a c newLimit)).cardEntry (a, c) =
      if L.verdict (.limitCard a c newLimit) = none then (L.cardEntry (a, c)).withLimit newLimit
      else L.cardEntry (a, c) := by
  rw [serve_limitCard]
  split <;> simp

theorem serve_limitAccount_account (a : AccountId) (newLimit : Option Amount) :
    (L.serve (.limitAccount a newLimit)).accountEntry a =
      if L.verdict (.limitAccount a newLimit) = none then
        (L.accountEntry a).withLimit newLimit
      else L.accountEntry a := by
  rw [serve_limitAccount]
  split <;> simp

theorem serve_limitCard_account (a b : AccountId) (c : CardId) (newLimit : Option Amount) :
    (L.serve (.limitCard a c newLimit)).accountEntry b = L.accountEntry b := by
  rw [serve_limitCard]
  split <;> simp

/-- Only the operations on an account change it. -/
theorem serve_account_of_ne {b : AccountId} (h : accountOf? o ≠ some b) :
    (L.serve o).accountEntry b = L.accountEntry b := by
  cases o with
  | charge a c amount offline =>
    have hb : b ≠ a := fun e => h (congrArg some e.symm)
    rw [serve_charge]
    split <;> simp [hb]
  | limitAccount a newLimit =>
    have hb : b ≠ a := fun e => h (congrArg some e.symm)
    rw [serve_limitAccount]
    split <;> simp [hb]
  | limitCard a c newLimit => exact serve_limitCard_account a b c newLimit
  | accountQuery a => simp [serve]
  | bill a period =>
    have hb : b ≠ a := fun e => h (congrArg some e.symm)
    simp [serve, settle_accountEntry, hb]
  | _ => rfl

/-- Only the operations on a card, and the bills of its account, change it. -/
theorem serve_card_of_ne (h : cardKey? o ≠ some k)
    (hbill : ∀ period, o = .bill k.1 period → L.card k = none) :
    (L.serve o).cardEntry k = L.cardEntry k := by
  cases o with
  | charge a c amount offline =>
    have hk : k ≠ (a, c) := fun e => h (congrArg some e.symm)
    rw [serve_charge]
    split <;> simp [hk]
  | limitCard a c newLimit =>
    have hk : k ≠ (a, c) := fun e => h (congrArg some e.symm)
    rw [serve_limitCard]
    split <;> simp [hk]
  | limitAccount a newLimit =>
    rw [serve_limitAccount]
    split <;> simp
  | accountQuery a => simp [serve]
  | bill a period =>
    simp only [serve, settle_cardEntry]
    split
    · rename_i hka
      have hnone := hbill period (by rw [hka])
      simp [cardEntry, hnone, Entry.settle, Entry.fresh]
    · rfl
  | _ => rfl

/-- An operation creates its account. -/
theorem serve_account_isSome (L : Ledger) (o : Operation Amount) (b : AccountId) :
    ((L.serve o).account b).isSome ↔ (L.account b).isSome ∨ accountOf? o = some b := by
  have hset : ∀ (L : Ledger) (a : AccountId) (e : Entry),
      ((L.setAccount a e).account b).isSome ↔ (L.account b).isSome ∨ a = b := by
    intro L a e
    by_cases hb : b = a
    · subst hb
      simp [setAccount]
    · simp [setAccount, hb, Ne.symm hb]
  cases o with
  | charge a c amount offline =>
    rw [serve_charge]
    split
    · exact (hset _ _ _).trans (by simp [accountOf?])
    · exact (hset _ _ _).trans (by simp [accountOf?])
  | limitAccount a newLimit =>
    rw [serve_limitAccount]
    split
    · exact (hset _ _ _).trans (by simp [accountOf?])
    · exact (hset _ _ _).trans (by simp [accountOf?])
  | limitCard a c newLimit =>
    rw [serve_limitCard]
    split
    · exact (hset _ _ _).trans (by simp [accountOf?])
    · exact (hset _ _ _).trans (by simp [accountOf?])
  | accountQuery a => exact (hset _ _ _).trans (by simp [accountOf?])
  | bill a period => exact (hset L a _).trans (by simp [accountOf?])
  | _ => simp [serve, accountOf?]

/-- An operation on a card creates it. -/
theorem serve_card_isSome (L : Ledger) (o : Operation Amount) (j : CardKey) :
    ((L.serve o).card j).isSome ↔ (L.card j).isSome ∨ cardKey? o = some j := by
  have hset : ∀ (L : Ledger) (k : CardKey) (e : Entry),
      ((L.setCard k e).card j).isSome ↔ (L.card j).isSome ∨ k = j := by
    intro L k e
    by_cases hj : j = k
    · subst hj
      simp [setCard]
    · simp [setCard, hj, Ne.symm hj]
  cases o with
  | charge a c amount offline =>
    rw [serve_charge]
    split
    · exact (hset _ _ _).trans (by simp [cardKey?, setAccount])
    · exact (hset _ _ _).trans (by simp [cardKey?, openAccount, setAccount])
  | limitCard a c newLimit =>
    rw [serve_limitCard]
    split
    · exact (hset _ _ _).trans (by simp [cardKey?, openAccount, setAccount])
    · exact (hset _ _ _).trans (by simp [cardKey?, openAccount, setAccount])
  | limitAccount a newLimit =>
    rw [serve_limitAccount]
    split <;> simp [cardKey?, openAccount, setAccount]
  | accountQuery a => simp [serve, cardKey?, openAccount, setAccount]
  | bill a period =>
    simp only [serve, settle, cardKey?]
    split <;> simp
  | _ => simp [serve, cardKey?]

/-! ## Two executions of one list -/

theorem Serves.completed {res : OperationResult Amount} {err : Option VerifyError}
    (ht : IsTask o) (h : L.Serves o res err L') :
    ActorRouter.completedResult o err.isNone err = some res := by
  cases h with
  | queried => exact ht.elim
  | billed => exact ht.elim
  | shown => exact ht.elim
  | _ => rfl

end Ledger

/-- Two results that differ at most in the order of the cards they list. -/
def SameResult (r r' : OperationResult Amount) : Prop :=
  r = r' ∨ ∃ a total spent spent', r = .accountQuery ⟨a, total, spent⟩ ∧
    r' = .accountQuery ⟨a, total, spent'⟩ ∧ spent.Perm spent'

/-- Two results of the same operation that are the same but for that order. -/
def ActorEvent.Same (x y : ActorEvent) : Prop :=
  ∃ n o r r' b e, x = .operationResult n o r b e ∧ y = .operationResult n o r' b e ∧ SameResult r r'

/-- **The operations, one at a time**: their results in order, and the ledger they leave. -/
inductive Serial : Ledger → List (OpId × Operation Amount) → List ActorEvent → Ledger → Prop where
  | nil (L : Ledger) : Serial L [] [] L
  | cons {L L' L'' : Ledger} {n : OpId} {o : Operation Amount} {res : OperationResult Amount}
      {err : Option VerifyError} {ops : List (OpId × Operation Amount)}
      {events : List ActorEvent} (h : L.Serves o res err L') (hs : Serial L' ops events L'') :
      Serial L ((n, o) :: ops) (.operationResult n o res err.isNone err :: events) L''

section Serial

variable {L L' L'' : Ledger} {n : OpId} {o : Operation Amount}
  {ops : List (OpId × Operation Amount)} {events events' : List ActorEvent}

theorem Serial.snoc {res : OperationResult Amount} {err : Option VerifyError}
    (hs : Serial L ops events L') (h : L'.Serves o res err L'') :
    Serial L (ops ++ [(n, o)]) (events ++ [.operationResult n o res err.isNone err]) L'' := by
  induction hs with
  | nil L => exact .cons h (.nil _)
  | cons h' hs ih => exact .cons h' (ih h)

/-- The ledger is what the operations lead to. -/
theorem Serial.ledger_eq (h : Serial L ops events L') :
    L' = ops.foldl (fun L x => L.serve x.2) L := by
  induction h with
  | nil L => rfl
  | cons hserve hs ih => rw [ih, hserve.serve.2, List.foldl_cons]

/-- Every operation has one result. -/
theorem Serial.count (h : Serial L ops events L') (n : OpId) :
    (events.filter (ActorEvent.results n)).length = (ops.map Prod.fst).count n := by
  induction h with
  | nil L => rfl
  | @cons L L₁ L₂ m o res err ops events hserve hs ih =>
    by_cases hn : m = n
    · simp [ActorEvent.results, hn, ih]
    · simp [ActorEvent.results, hn, ih]

end Serial

end

/-! ## Exact amounts -/

section Exact

variable {L L' L'' : Ledger} {o : Operation Amount} {ops : List (OpId × Operation Amount)}
  {events events' : List ActorEvent}

theorem Ledger.total_perm {a : AccountId} {spent spent' : List (CardId × Amount)} (h : spent.Perm spent') :
    L.total a spent = L.total a spent' := by
  have hnil : spent = [] ↔ spent' = [] := by
    constructor <;> rintro rfl
    · exact h.symm.eq_nil
    · exact h.eq_nil
  unfold total
  rw [totalSpent_eq_sum, totalSpent_eq_sum, (h.map Prod.snd).sum_eq]
  simp only [hnil]

theorem Ledger.Serves.agree {res res' : OperationResult Amount} {err err' : Option VerifyError}
    (ha : (accountOf? o).isSome) (h : L.Serves o res err L') (h' : L.Serves o res' err' L'') :
    SameResult res res' ∧ err = err' ∧ L' = L'' := by
  obtain ⟨herr, hL⟩ := h.serve
  obtain ⟨herr', hL'⟩ := h'.serve
  refine ⟨?_, herr.trans herr'.symm, hL.trans hL'.symm⟩
  by_cases ht : IsTask o
  · have hres := h.completed ht
    rw [herr, ← herr', h'.completed ht] at hres
    exact Or.inl (Option.some.inj hres).symm
  · cases h with
    | queried a spent hl =>
      cases h' with
      | queried _ spent' hl' =>
        have hp := hl.perm hl'
        rw [Ledger.total_perm hp]
        exact Or.inr ⟨a, _, spent, spent', rfl, rfl, hp⟩
    | billed a period spent hl =>
      cases h' with
      | billed _ _ spent' hl' =>
        have hp := hl.perm hl'
        rw [Ledger.total_perm hp]
        exact Or.inr ⟨a, _, spent, spent', rfl, rfl, hp⟩
    | shown => cases ha
    | _ => exact absurd True.intro ht

/-- **One list, one outcome.** -/
theorem Serial.agree (ha : ∀ x ∈ ops, (accountOf? x.2).isSome) (h : Serial L ops events L')
    (h' : Serial L ops events' L'') :
    L' = L'' ∧ List.Forall₂ ActorEvent.Same events events' := by
  induction h generalizing events' with
  | nil L =>
    cases h'
    exact ⟨rfl, .nil⟩
  | @cons L L₁ L₂ n o res err ops events hserve hs ih =>
    cases h' with
    | cons hserve' hs' =>
      obtain ⟨hsame, rfl, rfl⟩ := hserve.agree (ha _ List.mem_cons_self) hserve'
      obtain ⟨hL, hall⟩ := ih (fun x hx => ha x (List.mem_cons_of_mem _ hx)) hs'
      exact ⟨hL, .cons ⟨n, o, res, _, _, err, rfl, rfl, hsame⟩ hall⟩

end Exact

end YpfRuta.Actors
