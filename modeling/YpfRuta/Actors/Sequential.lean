/-
  One operation at a time: what each operation does to the ledger and what it answers,
  with no actors in between. Below it, the operations that only ever have one message in
  flight: a charge goes from the router to the card, on to the account and back, a limit
  change to its actor and back.
-/
import YpfRuta.Actors.Install

namespace YpfRuta.Actors

open Lib

variable {Amount : Type} [Currency Amount]

/-! ## The sequential specification -/

namespace Entry

/-- An account or a card when it is created. -/
def fresh : Entry := ⟨none, 0⟩

/-- `amount` more is not past the limit. -/
def Admits (e : Entry) (amount : Amount) : Prop :=
  ∀ limit, e.limit = some limit → ¬ e.consumed + amount > limit

/-- The new limit is none, or no less than what is consumed. -/
def Bears (e : Entry) (newLimit : Option Amount) : Prop :=
  ∀ limit, newLimit = some limit → limit ≥ e.consumed

def charge (e : Entry) (amount : Amount) : Entry := { e with consumed := e.consumed + amount }

def withLimit (e : Entry) (newLimit : Option Amount) : Entry := { e with limit := newLimit }

def settle (e : Entry) : Entry := { e with consumed := 0 }

end Entry

namespace Ledger

/-- The account, as it is created when it is missing. -/
def accountEntry (L : Ledger) (a : AccountId) : Entry := (L.account a).getD .fresh

def cardEntry (L : Ledger) (k : CardKey) : Entry := (L.card k).getD .fresh

def setAccount (L : Ledger) (a : AccountId) (e : Entry) : Ledger :=
  { L with account := Function.update L.account a (some e) }

def setCard (L : Ledger) (k : CardKey) (e : Entry) : Ledger :=
  { L with card := Function.update L.card k (some e) }

def openAccount (L : Ledger) (a : AccountId) : Ledger := L.setAccount a (L.accountEntry a)

def openCard (L : Ledger) (k : CardKey) : Ledger :=
  (L.openAccount k.1).setCard k (L.cardEntry k)

/-- The account and each of its cards start again from zero. -/
def settle (L : Ledger) (a : AccountId) : Ledger where
  account := Function.update L.account a (some (L.accountEntry a).settle)
  card k := if k.1 = a then (L.card k).map Entry.settle else L.card k

/-- What card `c` of the account has consumed, if there is such a card. -/
def cardSpent (L : Ledger) (a : AccountId) (c : CardId) : Option (CardId × Amount) :=
  (L.card (a, c)).map fun e => (c, e.consumed)

/-- The sum over the cards, in the order they are listed in, or the consumption of an account
    without cards. -/
def total (L : Ledger) (a : AccountId) (spent : List (CardId × Amount)) : Amount :=
  if spent = [] then (L.accountEntry a).consumed else AccountActor.totalSpent spent

/-- **What an operation does**: its result, the error that comes with it, and the ledger
    afterwards. The cards of an account may be listed in any order. -/
inductive Serves (L : Ledger) : Operation Amount → OperationResult Amount → Option VerifyError →
    Ledger → Prop where
  | charged (a : AccountId) (c : CardId) (amount : Amount) (offline : Bool)
      (h : offline = true ∨
        (L.cardEntry (a, c)).Admits amount ∧ (L.accountEntry a).Admits amount) :
      L.Serves (.charge a c amount offline) (.charge .ok) none
        ((L.setAccount a ((L.accountEntry a).charge amount)).setCard (a, c)
          ((L.cardEntry (a, c)).charge amount))
  | cardExceeded (a : AccountId) (c : CardId) (amount : Amount)
      (hcard : ¬ (L.cardEntry (a, c)).Admits amount) :
      L.Serves (.charge a c amount false)
        (.charge (.failed (.chargeLimit .cardLimitExceeded)))
        (some (.chargeLimit .cardLimitExceeded)) (L.openCard (a, c))
  | accountExceeded (a : AccountId) (c : CardId) (amount : Amount)
      (hcard : (L.cardEntry (a, c)).Admits amount) (hacc : ¬ (L.accountEntry a).Admits amount) :
      L.Serves (.charge a c amount false)
        (.charge (.failed (.chargeLimit .accountLimitExceeded)))
        (some (.chargeLimit .accountLimitExceeded)) (L.openCard (a, c))
  | accountLimited (a : AccountId) (newLimit : Option Amount)
      (h : (L.accountEntry a).Bears newLimit) :
      L.Serves (.limitAccount a newLimit) (.limitAccount .ok) none
        (L.setAccount a ((L.accountEntry a).withLimit newLimit))
  | accountBelowUsage (a : AccountId) (newLimit : Option Amount)
      (h : ¬ (L.accountEntry a).Bears newLimit) :
      L.Serves (.limitAccount a newLimit)
        (.limitAccount (.failed (.limitUpdate .belowCurrentUsage)))
        (some (.limitUpdate .belowCurrentUsage)) (L.openAccount a)
  | cardLimited (a : AccountId) (c : CardId) (newLimit : Option Amount)
      (h : (L.cardEntry (a, c)).Bears newLimit) :
      L.Serves (.limitCard a c newLimit) (.limitCard .ok) none
        ((L.openAccount a).setCard (a, c) ((L.cardEntry (a, c)).withLimit newLimit))
  | cardBelowUsage (a : AccountId) (c : CardId) (newLimit : Option Amount)
      (h : ¬ (L.cardEntry (a, c)).Bears newLimit) :
      L.Serves (.limitCard a c newLimit) (.limitCard (.failed (.limitUpdate .belowCurrentUsage)))
        (some (.limitUpdate .belowCurrentUsage)) (L.openCard (a, c))
  | queried (a : AccountId) (spent : List (CardId × Amount))
      (h : Lists Prod.fst (L.cardSpent a) spent) :
      L.Serves (.accountQuery a) (.accountQuery ⟨a, L.total a spent, spent⟩) none
        (L.openAccount a)
  | billed (a : AccountId) (period : Option String) (spent : List (CardId × Amount))
      (h : Lists Prod.fst (L.cardSpent a) spent) :
      L.Serves (.bill a period) (.accountQuery ⟨a, L.total a spent, spent⟩) none (L.settle a)
  | shown (addr : SocketAddr) (snapshot : DatabaseSnapshot Amount) (haddr : snapshot.addr = addr)
      (h : L.Shows snapshot) :
      L.Serves (.getDatabase addr) (.databaseSnapshot snapshot) none L

end Ledger

/-! ## The ledger of the actors -/

/-- No query is collecting and no card works on a task. -/
structure ActorStates.Idle (c : ActorStates) : Prop where
  account : ∀ a, (c.account a).pendingQuery = none
  card : ∀ k, (c.card k).currentTask = none
  queue : ∀ k, (c.card k).queue = []

/-- What `Formed` says of the actors alone: they carry their names, and one the router
    does not know is as it was created. -/
structure ActorStates.Named (c : ActorStates) : Prop where
  accountId : ∀ a, (c.account a).accountId = a
  cardId : ∀ k, (c.card k).accountId = k.1 ∧ (c.card k).cardId = k.2
  cards : c.router.CardsKnown
  account : ∀ a, ¬ a ∈ c.router.accounts → c.account a = .new a
  card : ∀ k, ¬ k ∈ c.router.cards → c.card k = .new k.2 k.1

theorem Formed.named {s : ActorDb} (hf : Formed s) : s.states.Named where
  accountId a := (hf.origin.account a).1
  cardId k := ⟨(hf.origin.card k).accountId, (hf.origin.card k).cardId⟩
  cards := hf.known.cards
  account := hf.known.account
  card := hf.known.card

namespace ActorStates

variable {c c' : ActorStates}

theorem Named.accountEntry (hn : c.Named) (a : AccountId) :
    c.ledger.accountEntry a = (c.account a).entry := by
  unfold Ledger.accountEntry ledger
  dsimp only
  by_cases ha : a ∈ c.router.accounts
  · rw [if_pos ha]
    rfl
  · rw [if_neg ha, hn.account a ha]
    rfl

theorem Named.cardEntry (hn : c.Named) (k : CardKey) :
    c.ledger.cardEntry k = (c.card k).entry := by
  unfold Ledger.cardEntry ledger
  dsimp only
  by_cases hk : k ∈ c.router.cards
  · rw [if_pos hk]
    rfl
  · rw [if_neg hk, hn.card k hk]
    rfl

/-- Only account `a` is touched, and the router knows it afterwards. -/
structure OnAccount (a : AccountId) (c c' : ActorStates) : Prop where
  accounts : ∀ b, b ∈ c'.router.accounts ↔ b ∈ c.router.accounts ∨ b = a
  cards : ∀ j, j ∈ c'.router.cards ↔ j ∈ c.router.cards
  account : ∀ b, b ≠ a → c'.account b = c.account b

/-- Only card `k` and its account are touched, and the router knows them afterwards. -/
structure OnCard (k : CardKey) (c c' : ActorStates) : Prop where
  accounts : ∀ b, b ∈ c'.router.accounts ↔ b ∈ c.router.accounts ∨ b = k.1
  cards : ∀ j, j ∈ c'.router.cards ↔ j ∈ c.router.cards ∨ j = k
  account : ∀ b, b ≠ k.1 → c'.account b = c.account b
  card : ∀ j, j ≠ k → c'.card j = c.card j

theorem ledger_account_eq {a : AccountId}
    (hmem : ∀ b, b ∈ c'.router.accounts ↔ b ∈ c.router.accounts ∨ b = a)
    (hacc : ∀ b, b ≠ a → c'.account b = c.account b) :
    c'.ledger.account = Function.update c.ledger.account a (some (c'.account a).entry) := by
  funext b
  by_cases hb : b = a
  · subst hb
    have hin : b ∈ c'.router.accounts := (hmem b).mpr (Or.inr rfl)
    rw [Function.update_self]
    exact if_pos hin
  · rw [Function.update_of_ne hb]
    unfold ledger
    dsimp only
    have hiff : b ∈ c'.router.accounts ↔ b ∈ c.router.accounts :=
      (hmem b).trans (or_iff_left hb)
    rw [hacc b hb]
    simp only [hiff]

theorem OnAccount.ledger {a : AccountId} (h : OnAccount a c c') (hcard : c'.card = c.card) :
    c'.ledger = c.ledger.setAccount a (c'.account a).entry := by
  refine Ledger.ext (ledger_account_eq h.accounts h.account) ?_
  funext j
  unfold ActorStates.ledger Ledger.setAccount
  dsimp only
  rw [hcard]
  simp only [h.cards]

theorem OnCard.ledger {k : CardKey} (h : OnCard k c c') :
    c'.ledger = (c.ledger.setAccount k.1 (c'.account k.1).entry).setCard k (c'.card k).entry := by
  refine Ledger.ext (ledger_account_eq h.accounts h.account) ?_
  funext j
  unfold Ledger.setCard Ledger.setAccount
  dsimp only
  by_cases hj : j = k
  · subst hj
    have hin : j ∈ c'.router.cards := (h.cards j).mpr (Or.inr rfl)
    rw [Function.update_self]
    exact if_pos hin
  · rw [Function.update_of_ne hj]
    unfold ActorStates.ledger
    dsimp only
    have hiff : j ∈ c'.router.cards ↔ j ∈ c.router.cards := (h.cards j).trans (or_iff_left hj)
    rw [h.card j hj]
    simp only [hiff]

end ActorStates

/-! ## One message in flight -/

/-- The messages one send sets off, one after another: `r` of them until an event comes
    out, with the actors then in the state `c'`. -/
inductive Chain : Nat → ActorStates → Send → ActorStates → ActorEvent → Prop where
  | last {c c' : ActorStates} {x : Send} {e : ActorEvent} (hd : x.dest ≠ .node)
      (h : c.handle x = (c', [.event e])) : Chain 1 c x c' e
  | next {r : Nat} {c c₁ c' : ActorStates} {x y : Send} {e : ActorEvent} (hd : x.dest ≠ .node)
      (h : c.handle x = (c₁, [y])) (hn : Chain r c₁ y c' e) : Chain (r + 1) c x c' e

/-- Nothing is under way, and no actor is in the middle of anything. -/
structure ActorDb.AtRest (s : ActorDb) : Prop where
  quiescent : s.Quiescent
  idle : s.states.Idle

/-- No actor the router knows is in the middle of anything. -/
def ActorDb.Rested (s : ActorDb) : Prop :=
  (∀ a ∈ s.router.accounts.toList, (s.account a).pendingQuery = none) ∧
    ∀ k ∈ s.router.cards.toList, (s.card k).currentTask = none ∧ (s.card k).queue = []

instance (s : ActorDb) : Decidable s.Rested :=
  have : Decidable (∀ a ∈ s.router.accounts.toList, (s.account a).pendingQuery = none) :=
    List.decidableBAll _ _
  have : Decidable (∀ k ∈ s.router.cards.toList,
      (s.card k).currentTask = none ∧ (s.card k).queue = []) := List.decidableBAll _ _
  inferInstanceAs (Decidable (_ ∧ _))

/-- Whether a formed state is idle can be read off the known actors. -/
theorem idle_of_known {s : ActorDb} (hf : Formed s) (h : s.Rested) : s.states.Idle := by
  obtain ⟨ha, hc⟩ := h
  have hcard : ∀ k, (s.card k).currentTask = none ∧ (s.card k).queue = [] := by
    intro k
    by_cases hk : k ∈ s.router.cards
    · exact hc k hk
    · rw [hf.known.card k hk]
      exact ⟨rfl, rfl⟩
  refine ⟨fun a => ?_, fun k => (hcard k).1, fun k => (hcard k).2⟩
  by_cases hk : a ∈ s.router.accounts
  · exact ha a hk
  · show (s.account a).pendingQuery = none
    rw [hf.known.account a hk]
    rfl

/-- A run that leaves everything at rest. -/
theorem atRest_of_run (ls : List Label) (P : ActorDb → Prop) [DecidablePred P]
    (h : (run ActorDb.step .init ls).any (fun s => decide (s.Drained ∧ s.Rested ∧ P s)) = true) :
    ∃ s, Reaches ActorDb.step ActorDb.init s ∧ Formed s ∧ s.AtRest ∧ P s := by
  obtain ⟨s, hs, hp⟩ := (Option.any_eq_true _ _).mp h
  obtain ⟨hd, hrested, hP⟩ := of_decide_eq_true hp
  have hf : Formed s := .reaches ⟨ls, hs⟩
  exact ⟨s, ⟨ls, hs⟩, hf, ⟨quiescent_of_known hf.known hd, idle_of_known hf hrested⟩, hP⟩

/-- `s'` is at rest again, with one result for `o` that is the one of the specification,
    as the ledger is. -/
structure ActorDb.Serves (s : ActorDb) (n : OpId) (o : Operation Amount) (s' : ActorDb) : Prop where
  atRest : s'.AtRest
  result : ∃ res err, s.ledger.Serves o res err s'.ledger ∧
    s'.events = s.events ++ [.operationResult n o res err.isNone err]

/-- What is left when everything one command set off is handled. -/
structure ActorDb.Done (c' : ActorStates) (events : List ActorEvent) (s' : ActorDb) : Prop where
  formed : Formed s'
  quiescent : s'.Quiescent
  states : s'.states = c'
  events : s'.events = events

theorem Chain.ends {r : Nat} {c c' : ActorStates} {x : Send} {e : ActorEvent}
    (h : Chain r c x c' e) {s : ActorDb} (hf : Formed s) (hs : s.states = c)
    (hfl : s.InFlight [x]) :
    Ends ActorDb.step Label.Internal (ActorDb.Done c' (s.events ++ [e])) r s := by
  induction h generalizing s with
  | @last c c' x e hd h =>
    refine hfl.single (r := 0) hf hd fun s' hf' hst hev hfl' => ?_
    rw [hs, h] at hst hev hfl'
    have hq : s'.Quiescent := ActorDb.quiescent_iff.mpr (hfl'.reorder fun d hd => mailFor_event hd e)
    exact .here hq.stuck ⟨hf', hq, hst, hev⟩
  | @next r c c₁ c' x y e hd h hn ih =>
    refine hfl.single hf hd fun s' hf' hst hev hfl' => ?_
    rw [hs, h] at hst hev hfl'
    have hy : y.dest ≠ .node := by
      cases hn with
      | last hd _ => exact hd
      | next hd _ _ => exact hd
    have hnone : [y].filterMap Send.toNode? = [] := by
      cases y with
      | event e => exact absurd rfl hy
      | _ => rfl
    have hev' : s'.events = s.events := by
      rw [hev]
      show s.events ++ [y].filterMap Send.toNode? = s.events
      rw [hnone, List.append_nil]
    have hend := ih hf' hst hfl'
    rwa [hev'] at hend

/-! ## Charges and limit changes -/

theorem CardActor.entry_admits {c : CardActor} {amount : Amount} :
    c.checkChargeLimit amount = .ok () ↔ c.entry.Admits amount := by
  unfold checkChargeLimit Entry.Admits entry
  cases c.limit with
  | none => simp
  | some limit => simp

theorem CardActor.entry_bears {c : CardActor} {newLimit : Option Amount} :
    c.canSetNewLimit newLimit = .ok () ↔ c.entry.Bears newLimit := by
  unfold canSetNewLimit Entry.Bears entry
  cases newLimit with
  | none => simp
  | some limit => simp

theorem AccountActor.entry_admits {x : AccountActor} {amount : Amount} :
    x.checkAccountLimit amount = .ok () ↔ x.entry.Admits amount := by
  unfold checkAccountLimit Entry.Admits entry
  cases x.accountLimit with
  | none => simp
  | some limit => simp

theorem AccountActor.entry_bears {x : AccountActor} {newLimit : Option Amount} :
    canRaiseLimit newLimit x.accountConsumed = .ok () ↔ x.entry.Bears newLimit := by
  unfold canRaiseLimit Entry.Bears entry
  cases newLimit with
  | none => simp
  | some limit => simp

/-- An idle card takes a task up at once: it passes a charge on to its account, and
    settles anything else on the spot. -/
theorem CardActor.accept_cases {c : CardActor} (hcur : c.currentTask = none)
    (hq : c.queue = []) (t : CardTask) :
    (∃ op, t = .charge op ∧ { c with currentTask := some t }.Passes op ∧
      c.acceptTask t = ({ c with currentTask := some t }, [c.applyCharge op])) ∨
    (∃ lim b e, { c with currentTask := some t }.Settles t lim b e ∧
      c.acceptTask t = ({ c with limit := lim }, [completed t.opId b e])) := by
  have haccept : c.acceptTask t = { c with currentTask := some t }.startCurrentTask := by
    unfold acceptTask
    rw [hcur]
  obtain ⟨op, hop, hp, heq⟩ | ⟨lim, b, e, hs, heq⟩ :=
    startCurrentTask_some (c := { c with currentTask := some t }) rfl
  · exact Or.inl ⟨op, hop, hp, haccept.trans heq⟩
  · have hfinish := finishCurrentTask_nil
      (n := t.opId) (b := b) (e := e) { c with currentTask := some t, limit := lim } hq
    have hidle : { c with currentTask := none, limit := lim } = { c with limit := lim } := by
      rw [← hcur]
    refine Or.inr ⟨lim, b, e, hs, haccept.trans (heq.trans (hfinish.trans ?_))⟩
    exact congrArg (·, [completed t.opId b e]) hidle

/-- A charge goes on to the account, unless the card's own limit stands against it. -/
theorem CardActor.accept_charge {c : CardActor} (hcur : c.currentTask = none)
    (hq : c.queue = []) (op : CardChargeOp) :
    ((op.fromOfflineStation = true ∨ c.entry.Admits op.amount) ∧
      c.acceptTask (.charge op) =
        ({ c with currentTask := some (.charge op) }, [c.applyCharge op])) ∨
    (op.fromOfflineStation = false ∧ ¬ c.entry.Admits op.amount ∧
      c.acceptTask (.charge op) =
        (c, [completed op.opId false (some (.chargeLimit .cardLimitExceeded))])) := by
  obtain ⟨op', hop, hp, heq⟩ | ⟨lim, b, e, hs, heq⟩ := accept_cases hcur hq (.charge op)
  · obtain rfl : op = op' := CardTask.charge.inj hop
    exact Or.inl ⟨hp.imp_right entry_admits.mp, heq⟩
  · cases hs with
    | rejected _ err hon hchk =>
      have hchk' : c.checkChargeLimit op.amount = .error err := hchk
      obtain rfl : err = .cardLimitExceeded := by
        unfold checkChargeLimit at hchk'
        grind
      refine Or.inr ⟨hon, fun hadm => ?_, heq⟩
      rw [entry_admits.mpr hadm] at hchk'
      cases hchk'

/-- A card takes up the charges that name it. -/
theorem CardActor.handle_executeCharge {c : CardActor} {a : AccountId} {cd : CardId}
    (ha : c.accountId = a) (hc : c.cardId = cd) (n : OpId) (amount : Amount) (off : Bool) :
    c.handle (.executeCharge n a cd amount off) = c.acceptTask (.charge ⟨n, a, amount, off⟩) := by
  have hown : ¬ (a ≠ c.accountId ∨ cd ≠ c.cardId) := by
    rw [ha, hc]
    simp
  exact if_neg hown

/-- The account's answer ends the charge the card waits for. -/
theorem CardActor.chargeReply_ends {c : CardActor} (op : CardChargeOp) (hq : c.queue = [])
    (b : Bool) (e : Option VerifyError) :
    { c with currentTask := some (.charge op) }.handle (.chargeReply ⟨op.opId, b, e⟩) =
      ({ c with
          consumed := if b then c.consumed + op.amount else c.consumed
          currentTask := none }, [completed op.opId b e]) := by
  simp only [handle, handleChargeReply, if_true]
  exact finishCurrentTask_nil _ hq

/-- A limit change is settled at once. -/
theorem CardActor.accept_limit {c : CardActor} (hcur : c.currentTask = none)
    (hq : c.queue = []) (n : OpId) (newLimit : Option Amount) :
    (c.entry.Bears newLimit ∧ c.acceptTask (.limitChange n newLimit) =
      ({ c with limit := newLimit }, [completed n true none])) ∨
    (¬ c.entry.Bears newLimit ∧ c.acceptTask (.limitChange n newLimit) =
      (c, [completed n false (some (.limitUpdate .belowCurrentUsage))])) := by
  obtain ⟨op, hop, -, -⟩ | ⟨lim, b, e, hs, heq⟩ := accept_cases hcur hq (.limitChange n newLimit)
  · cases hop
  · cases hs with
    | limitSet _ _ hchk => exact Or.inl ⟨entry_bears.mp hchk, heq⟩
    | limitRefused _ _ err hchk =>
      have hchk' : c.canSetNewLimit newLimit = .error err := hchk
      obtain rfl : err = .belowCurrentUsage := by
        unfold canSetNewLimit at hchk'
        grind
      refine Or.inr ⟨fun hb => ?_, heq⟩
      rw [entry_bears.mpr hb] at hchk'
      cases hchk'

theorem AccountActor.apply_charge (x : AccountActor) (n : OpId) (amount : Amount)
    (offline : Bool) (k : CardKey) :
    ((offline = true ∨ x.entry.Admits amount) ∧
      x.applyChargeFromCard n amount offline k =
        ({ x with accountConsumed := x.accountConsumed + amount },
          [.card k (.chargeReply ⟨n, true, none⟩)])) ∨
    (offline = false ∧ ¬ x.entry.Admits amount ∧
      x.applyChargeFromCard n amount offline k =
        (x, [.card k (.chargeReply ⟨n, false, some (.chargeLimit .accountLimitExceeded)⟩)])) := by
  cases offline with
  | true => exact Or.inl ⟨Or.inl rfl, rfl⟩
  | false =>
    cases hchk : x.checkAccountLimit amount with
    | ok u =>
      exact Or.inl ⟨Or.inr (entry_admits.mp hchk), by simp [applyChargeFromCard, hchk]⟩
    | error err =>
      have hno : ¬ x.entry.Admits amount := by
        intro hadm
        rw [entry_admits.mpr hadm] at hchk
        cases hchk
      obtain rfl : err = .accountLimitExceeded := by
        unfold checkAccountLimit at hchk
        grind
      exact Or.inr ⟨rfl, hno, by simp [applyChargeFromCard, hchk]⟩

theorem AccountActor.apply_limit (x : AccountActor) (n : OpId) (newLimit : Option Amount) :
    (x.entry.Bears newLimit ∧ x.applyAccountLimit n newLimit =
      ({ x with accountLimit := newLimit }, [.router (.operationCompleted n true none)])) ∨
    (¬ x.entry.Bears newLimit ∧ x.applyAccountLimit n newLimit =
      (x, [.router (.operationCompleted n false (some (.limitUpdate .belowCurrentUsage)))])) := by
  obtain ⟨hok, heq⟩ | ⟨err, hchk, heq⟩ := x.applyAccountLimit_cases n newLimit
  · exact Or.inl ⟨entry_bears.mp hok, heq⟩
  · obtain rfl : err = .belowCurrentUsage := by
      unfold canRaiseLimit at hchk
      grind
    refine Or.inr ⟨fun hb => ?_, heq⟩
    have hok : canRaiseLimit newLimit x.accountConsumed = .ok () := entry_bears.mpr hb
    rw [hok] at hchk
    cases hchk

/-! ### The chains -/

theorem ActorRouter.handle_completed {r : ActorRouter} {n : OpId} {o : Operation Amount}
    (hop : r.operations n = some o) {b : Bool} {e : Option VerifyError}
    {res : OperationResult Amount} (hres : completedResult o b e = some res) :
    r.handle (.operationCompleted n b e) = (r, [.event (.operationResult n o res b e)]) := by
  simp only [handle, operationCompleted, hop, hres]

theorem ActorRouter.execute_registers (r : ActorRouter) (n : OpId) (o : Operation Amount) :
    (r.execute n o).1.operations n = some o := by
  rw [execute_operations, Function.update_self]

/-- The router knows the card and its account after it looked the card up. -/
theorem ActorRouter.mem_getOrCreateCard {r : ActorRouter} (hk : r.CardsKnown) (a : AccountId)
    (c : CardId) (b : AccountId) :
    b ∈ (r.getOrCreateCard a c).accounts ↔ b ∈ r.accounts ∨ b = a := by
  unfold getOrCreateCard
  split
  · rename_i h
    exact ⟨Or.inl, fun hb => hb.elim id fun e => e ▸ hk _ h⟩
  · exact Keys.mem_insert

namespace ActorStates

variable {c : ActorStates}

/-- A chain that serves the operation and leaves the actors idle. -/
def ServedBy (c : ActorStates) (n : OpId) (o : Operation Amount) (r : Nat) (c' : ActorStates) :
    Prop :=
  ∃ res err, Chain r c (.router (.execute n o)) c' (.operationResult n o res err.isNone err) ∧
    c'.Idle ∧ c.ledger.Serves o res err c'.ledger

/-- What the router does with an operation on one card. -/
theorem onCard_of_execute (hn : c.Named) {n : OpId} {o : Operation Amount} {k : CardKey}
    (hk : cardKey? o = some k) {account : AccountId → AccountActor} {card : CardKey → CardActor}
    (hacc : ∀ b, b ≠ k.1 → account b = c.account b) (hcard : ∀ j, j ≠ k → card j = c.card j) :
    OnCard k c ⟨(c.router.execute n o).1, account, card⟩ := by
  have hknown : ({ c.router with
      operations := Function.update c.router.operations n (some o) } : ActorRouter).CardsKnown :=
    hn.cards
  cases o with
  | charge a cd amount off =>
    obtain rfl := Option.some.inj hk
    exact ⟨ActorRouter.mem_getOrCreateCard hknown a cd, ActorRouter.mem_getOrCreateCard_cards,
      hacc, hcard⟩
  | limitCard a cd lim =>
    obtain rfl := Option.some.inj hk
    exact ⟨ActorRouter.mem_getOrCreateCard hknown a cd, ActorRouter.mem_getOrCreateCard_cards,
      hacc, hcard⟩
  | _ => cases hk

theorem handle_router {m : RouterMsg} {r : ActorRouter} {out : List Send}
    (h : c.router.handle m = (r, out)) : c.handle (.router m) = ({ c with router := r }, out) := by
  simp only [handle, h]

theorem handle_account {a : AccountId} {m : AccountMsg} {x : AccountActor} {out : List Send}
    (h : (c.account a).handle m = (x, out)) :
    c.handle (.account a m) = ({ c with account := Function.update c.account a x }, out) := by
  simp only [handle, h]

theorem handle_card {k : CardKey} {m : CardMsg} {x : CardActor} {out : List Send}
    (h : (c.card k).handle m = (x, out)) :
    c.handle (.card k m) = ({ c with card := Function.update c.card k x }, out) := by
  simp only [handle, h]

/-- The last step of a charge or a limit change: the router reports it. -/
theorem Chain.reported {n : OpId} {o : Operation Amount} {b : Bool} {e : Option VerifyError}
    {res : OperationResult Amount} (hop : c.router.operations n = some o)
    (hres : ActorRouter.completedResult o b e = some res) :
    Chain 1 c (CardActor.completed n b e) c (.operationResult n o res b e) :=
  .last nofun (handle_router (ActorRouter.handle_completed hop hres))

/-- An actor that goes back to where it was has not changed. -/
theorem Idle.of_update (hi : c.Idle) {r : ActorRouter} {a : AccountId} {x : AccountActor}
    {k : CardKey} {y : CardActor} (hx : x.pendingQuery = none) (hy : y.currentTask = none)
    (hq : y.queue = []) :
    Idle ⟨r, Function.update c.account a x, Function.update c.card k y⟩ := by
  refine ⟨fun b => ?_, fun j => ?_, fun j => ?_⟩
  · by_cases hb : b = a
    · subst hb
      simpa using hx
    · simpa [hb] using hi.account b
  · by_cases hj : j = k
    · subst hj
      simpa using hy
    · simpa [hj] using hi.card j
  · by_cases hj : j = k
    · subst hj
      simpa using hq
    · simpa [hj] using hi.queue j

/-- The card refuses a charge: nothing but the two actors' existence has changed. -/
theorem charge_refused (hn : c.Named) (hi : c.Idle) (n : OpId) (a : AccountId) (cd : CardId)
    (amount : Amount) (hno : ¬ (c.card (a, cd)).entry.Admits amount)
    (hcard : (c.card (a, cd)).handle (.executeCharge n a cd amount false) =
      (c.card (a, cd), [CardActor.completed n false (some (.chargeLimit .cardLimitExceeded))])) :
    ∃ r c', c.ServedBy n (.charge a cd amount false) r c' := by
  let o : Operation Amount := .charge a cd amount false
  let c₁ : ActorStates := ⟨(c.router.execute n o).1, c.account, c.card⟩
  have hop : c₁.router.operations n = some o := ActorRouter.execute_registers _ n o
  have hask : c₁.handle (.card (a, cd) (.executeCharge n a cd amount false)) =
      (c₁, [CardActor.completed n false (some (.chargeLimit .cardLimitExceeded))]) := by
    have h := handle_card (c := c₁) hcard
    rwa [Function.update_eq_self] at h
  have hon : OnCard (a, cd) c c₁ :=
    onCard_of_execute hn (o := o) rfl (fun _ _ => rfl) (fun _ _ => rfl)
  refine ⟨3, c₁, .charge (.failed (.chargeLimit .cardLimitExceeded)),
    some (.chargeLimit .cardLimitExceeded),
    .next nofun rfl (.next nofun hask (Chain.reported hop rfl)),
    ⟨hi.account, hi.card, hi.queue⟩, ?_⟩
  have hserve := Ledger.Serves.cardExceeded (L := c.ledger) a cd amount
    (by rwa [hn.cardEntry])
  rw [hon.ledger]
  show c.ledger.Serves o _ _ ((c.ledger.setAccount a (c.account a).entry).setCard (a, cd)
    (c.card (a, cd)).entry)
  rw [← hn.accountEntry, ← hn.cardEntry]
  exact hserve

/-- The card passes a charge on, and the account decides. -/
theorem charge_passed (hn : c.Named) (hi : c.Idle) (n : OpId) (a : AccountId) (cd : CardId)
    (amount : Amount) (off : Bool)
    (hpass : off = true ∨ (c.card (a, cd)).entry.Admits amount)
    (hcard : (c.card (a, cd)).handle (.executeCharge n a cd amount off) =
      ({ c.card (a, cd) with currentTask := some (.charge ⟨n, a, amount, off⟩) },
        [.account a (.applyChargeFromCard n amount cd off (a, cd))])) :
    ∃ r c', c.ServedBy n (.charge a cd amount off) r c' := by
  let o : Operation Amount := .charge a cd amount off
  let r₁ := (c.router.execute n o).1
  let y := c.card (a, cd)
  let y₁ : CardActor := { y with currentTask := some (.charge ⟨n, a, amount, off⟩) }
  have hop : r₁.operations n = some o := ActorRouter.execute_registers _ n o
  have hask := handle_card (c := ⟨r₁, c.account, c.card⟩) hcard
  -- the chain is the same whatever the account answers
  have hchain : ∀ (x : AccountActor) (b : Bool) (e : Option VerifyError)
      (res : OperationResult Amount),
      (c.account a).applyChargeFromCard n amount off (a, cd) =
        (x, [.card (a, cd) (.chargeReply ⟨n, b, e⟩)]) →
      ActorRouter.completedResult o b e = some res →
      Chain 5 c (.router (.execute n o))
        ⟨r₁, Function.update c.account a x, Function.update c.card (a, cd)
          { y with consumed := if b then y.consumed + amount else y.consumed, currentTask := none }⟩
        (.operationResult n o res b e) := by
    intro x b e res hx hres
    have hacc := handle_account (a := a) (m := .applyChargeFromCard n amount cd off (a, cd))
      (c := ⟨r₁, c.account, Function.update c.card (a, cd) y₁⟩) hx
    have hend := CardActor.chargeReply_ends (c := y) ⟨n, a, amount, off⟩
      (hi.queue (a, cd)) b e
    have hreply := handle_card (k := (a, cd)) (m := .chargeReply ⟨n, b, e⟩)
      (c := ⟨r₁, Function.update c.account a x, Function.update c.card (a, cd) y₁⟩)
      ((congrArg (fun z : CardActor => z.handle (.chargeReply ⟨n, b, e⟩))
        (Function.update_self (a, cd) _ _)).trans hend)
    rw [Function.update_idem] at hreply
    exact .next nofun rfl (.next nofun hask (.next nofun hacc (.next nofun hreply
      (Chain.reported hop hres))))
  have hledger : ∀ (x : AccountActor) (y' : CardActor),
      ActorStates.ledger ⟨r₁, Function.update c.account a x, Function.update c.card (a, cd) y'⟩ =
        (c.ledger.setAccount a x.entry).setCard (a, cd) y'.entry := by
    intro x y'
    have hon : OnCard (a, cd) c
        ⟨r₁, Function.update c.account a x, Function.update c.card (a, cd) y'⟩ :=
      onCard_of_execute hn (o := o) rfl (fun b hb => Function.update_of_ne hb _ _)
        (fun j hj => Function.update_of_ne hj _ _)
    have h := hon.ledger
    dsimp only at h
    rwa [Function.update_self, Function.update_self] at h
  have hidle : ∀ (x : AccountActor) (b : Amount), x.pendingQuery = none →
      Idle ⟨r₁, Function.update c.account a x, Function.update c.card (a, cd)
        { y with consumed := b, currentTask := none }⟩ :=
    fun x b hx => hi.of_update hx rfl (hi.queue (a, cd))
  obtain ⟨hadm, hacc⟩ | ⟨hoff, hno, hacc⟩ := (c.account a).apply_charge n amount off (a, cd)
  · refine ⟨5, _, _, none, hchain _ true none _ hacc rfl, hidle _ _ (hi.account a), ?_⟩
    have hserve := Ledger.Serves.charged (L := c.ledger) a cd amount off (by
      rw [hn.accountEntry, hn.cardEntry]
      exact hpass.elim Or.inl fun h => hadm.imp_right fun h' => ⟨h, h'⟩)
    rw [hledger]
    rwa [hn.accountEntry, hn.cardEntry] at hserve
  · obtain rfl : off = false := hoff
    refine ⟨5, _, .charge (.failed (.chargeLimit .accountLimitExceeded)),
      some (.chargeLimit .accountLimitExceeded), hchain _ false _ _ hacc rfl,
      hidle _ _ (hi.account a), ?_⟩
    have hserve := Ledger.Serves.accountExceeded (L := c.ledger) a cd amount
      (by rw [hn.cardEntry]; exact hpass.resolve_left Bool.false_ne_true)
      (by rwa [hn.accountEntry])
    rw [hledger]
    unfold Ledger.openCard Ledger.openAccount at hserve
    rwa [hn.accountEntry, hn.cardEntry] at hserve

/-- **A charge** goes to the card, to the account if the card lets it pass, and back. -/
theorem charge_served (hn : c.Named) (hi : c.Idle) (n : OpId) (a : AccountId) (cd : CardId)
    (amount : Amount) (off : Bool) :
    ∃ r c', c.ServedBy n (.charge a cd amount off) r c' := by
  obtain ⟨hacc, hcd⟩ := hn.cardId (a, cd)
  have haccept := CardActor.handle_executeCharge hacc hcd n amount off
  obtain ⟨hpass, hcard⟩ | ⟨hoff, hno, hcard⟩ :=
    CardActor.accept_charge (hi.card (a, cd)) (hi.queue (a, cd)) ⟨n, a, amount, off⟩
  · have hask : (c.card (a, cd)).applyCharge ⟨n, a, amount, off⟩ =
        .account a (.applyChargeFromCard n amount cd off (a, cd)) := by
      unfold CardActor.applyCharge
      rw [hacc, hcd]
    rw [hask] at hcard
    exact charge_passed hn hi n a cd amount off hpass (haccept.trans hcard)
  · obtain rfl : off = false := hoff
    exact charge_refused hn hi n a cd amount hno (haccept.trans hcard)

/-- **A card limit** is settled by the card. -/
theorem limitCard_served (hn : c.Named) (hi : c.Idle) (n : OpId) (a : AccountId) (cd : CardId)
    (newLimit : Option Amount) : ∃ r c', c.ServedBy n (.limitCard a cd newLimit) r c' := by
  let o : Operation Amount := .limitCard a cd newLimit
  let r₁ := (c.router.execute n o).1
  have hop : r₁.operations n = some o := ActorRouter.execute_registers _ n o
  have hchain : ∀ (y : CardActor) (b : Bool) (e : Option VerifyError)
      (res : OperationResult Amount),
      (c.card (a, cd)).acceptTask (.limitChange n newLimit) = (y, [CardActor.completed n b e]) →
      ActorRouter.completedResult o b e = some res →
      Chain 3 c (.router (.execute n o)) ⟨r₁, c.account, Function.update c.card (a, cd) y⟩
        (.operationResult n o res b e) := by
    intro y b e res hy hres
    have hask := handle_card (k := (a, cd)) (m := .executeLimitChange n newLimit)
      (c := ⟨r₁, c.account, c.card⟩) hy
    exact .next nofun rfl (.next nofun hask (Chain.reported hop hres))
  have hledger : ∀ y : CardActor,
      ActorStates.ledger ⟨r₁, c.account, Function.update c.card (a, cd) y⟩ =
        (c.ledger.openAccount a).setCard (a, cd) y.entry := by
    intro y
    have hon : OnCard (a, cd) c ⟨r₁, c.account, Function.update c.card (a, cd) y⟩ :=
      onCard_of_execute hn (o := o) rfl (fun _ _ => rfl) (fun j hj => Function.update_of_ne hj _ _)
    have h := hon.ledger
    dsimp only at h
    rwa [Function.update_self, ← hn.accountEntry] at h
  have hidle : ∀ y : CardActor, y.currentTask = none → y.queue = [] →
      Idle ⟨r₁, c.account, Function.update c.card (a, cd) y⟩ := by
    intro y hcur hq
    have h := hi.of_update (r := r₁) (a := a) (hi.account a) (k := (a, cd)) hcur hq
    rwa [Function.update_eq_self] at h
  have hcur := hi.card (a, cd)
  have hq := hi.queue (a, cd)
  obtain ⟨hb, hcard⟩ | ⟨hb, hcard⟩ := CardActor.accept_limit hcur hq n newLimit
  · refine ⟨3, _, _, none, hchain _ true none _ hcard rfl, hidle _ hcur hq, ?_⟩
    rw [hledger]
    have hserve := Ledger.Serves.cardLimited (L := c.ledger) a cd newLimit
      (by rwa [hn.cardEntry])
    rwa [hn.cardEntry] at hserve
  · refine ⟨3, _, .limitCard (.failed (.limitUpdate .belowCurrentUsage)),
      some (.limitUpdate .belowCurrentUsage), hchain _ false _ _ hcard rfl, hidle _ hcur hq, ?_⟩
    rw [hledger]
    have hserve := Ledger.Serves.cardBelowUsage (L := c.ledger) a cd newLimit
      (by rwa [hn.cardEntry])
    unfold Ledger.openCard at hserve
    rwa [hn.cardEntry] at hserve

/-- **An account limit** is settled by the account. -/
theorem limitAccount_served (hn : c.Named) (hi : c.Idle) (n : OpId) (a : AccountId)
    (newLimit : Option Amount) : ∃ r c', c.ServedBy n (.limitAccount a newLimit) r c' := by
  let o : Operation Amount := .limitAccount a newLimit
  let r₁ := (c.router.execute n o).1
  have hop : r₁.operations n = some o := ActorRouter.execute_registers _ n o
  have hchain : ∀ (x : AccountActor) (b : Bool) (e : Option VerifyError)
      (res : OperationResult Amount),
      (c.account a).applyAccountLimit n newLimit = (x, [CardActor.completed n b e]) →
      ActorRouter.completedResult o b e = some res →
      Chain 3 c (.router (.execute n o)) ⟨r₁, Function.update c.account a x, c.card⟩
        (.operationResult n o res b e) := by
    intro x b e res hx hres
    have hask := handle_account (a := a) (m := .applyAccountLimit n newLimit)
      (c := ⟨r₁, c.account, c.card⟩) hx
    exact .next nofun rfl (.next nofun hask (Chain.reported hop hres))
  have hledger : ∀ x : AccountActor,
      ActorStates.ledger ⟨r₁, Function.update c.account a x, c.card⟩ =
        c.ledger.setAccount a x.entry := by
    intro x
    have hon : OnAccount a c ⟨r₁, Function.update c.account a x, c.card⟩ :=
      ⟨fun b => Keys.mem_insert, fun _ => Iff.rfl, fun b hb => Function.update_of_ne hb _ _⟩
    have h := hon.ledger rfl
    dsimp only at h
    rwa [Function.update_self] at h
  have hidle : ∀ x : AccountActor, x.pendingQuery = none →
      Idle ⟨r₁, Function.update c.account a x, c.card⟩ := by
    intro x hx
    have h := hi.of_update (r := r₁) hx (a := a) (k := (a, 0)) (hi.card (a, 0)) (hi.queue (a, 0))
    rwa [Function.update_eq_self] at h
  obtain ⟨hb, hacc⟩ | ⟨hb, hacc⟩ := (c.account a).apply_limit n newLimit
  · refine ⟨3, _, _, none, hchain _ true none _ hacc rfl, hidle _ (hi.account a), ?_⟩
    rw [hledger]
    have hserve := Ledger.Serves.accountLimited (L := c.ledger) a newLimit
      (by rwa [hn.accountEntry])
    rwa [hn.accountEntry] at hserve
  · refine ⟨3, _, .limitAccount (.failed (.limitUpdate .belowCurrentUsage)),
      some (.limitUpdate .belowCurrentUsage), hchain _ false _ _ hacc rfl,
      hidle _ (hi.account a), ?_⟩
    rw [hledger]
    have hserve := Ledger.Serves.accountBelowUsage (L := c.ledger) a newLimit
      (by rwa [hn.accountEntry])
    unfold Ledger.openAccount at hserve
    rwa [hn.accountEntry] at hserve

end ActorStates

end YpfRuta.Actors
