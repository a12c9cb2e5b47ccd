/-
  Operations in order. A card works off its tasks in the order they were sent, but nothing
  makes an account take up the charges of different cards in that order, or a card wait with
  the answer to a query until its tasks are done. `InOrder` says of a step that no operation
  of an account overtakes another one there.

  Below it, where the actors are in a list of operations: the ledger before the `i`-th one,
  what that one brings to a card and to an account, and how far each of them has come.
-/
import YpfRuta.Actors.Queries
import YpfRuta.Actors.Serial
import YpfRuta.Lib.Pending

namespace YpfRuta.Actors

open Lib

variable {Amount : Type} [Currency Amount]

/-! ## No operation overtakes another -/

/-- The operation a message makes an account take up. -/
def AccountMsg.takesUp? : AccountMsg → Option OpId
  | .applyChargeFromCard opId .. => some opId
  | .applyAccountLimit opId _ => some opId
  | .startAccountQuery opId _ => some opId
  | .startAccountBill opId _ => some opId
  | _ => none

def CardMsg.charges (n : OpId) : CardMsg → Bool
  | .executeCharge n' .. => n' == n
  | _ => false

def CardTask.charges (n : OpId) : CardTask → Bool
  | .charge op => op.opId == n
  | .limitChange .. => false

def CardMsg.isQuery : CardMsg → Bool
  | .queryCardState .. => true
  | _ => false

namespace ActorDb

/-- The ids sent before `n`. -/
def sentBefore (s : ActorDb) (n : OpId) : List OpId :=
  (s.commands.map Prod.fst).takeWhile (· != n)

/-- The operation `n` is on its way to account `a`: in its mailbox, or a charge that waits
    at one of its cards. -/
def Approaches (s : ActorDb) (a : AccountId) (n : OpId) : Prop :=
  (∃ m ∈ s.accountBox a, m.takesUp? = some n) ∨
    ∃ c ∈ s.router.cardIds a, (∃ m ∈ s.cardBox (a, c), m.charges n = true) ∨
      ∃ t ∈ (s.card (a, c)).queue, t.charges n = true

instance (s : ActorDb) (a : AccountId) (n : OpId) : Decidable (s.Approaches a n) :=
  inferInstanceAs (Decidable (_ ∨ _))

/-- An account takes up an operation when no earlier one is on its way to it, no bill is
    being collected, and a query or a bill finds the slot free. A card answers a query when
    it works on no task. -/
def InOrder (s : ActorDb) : Label → Prop
  | .account a => ∀ m ∈ (s.accountBox a).head?, ∀ n ∈ m.takesUp?,
      (∀ n' ∈ s.sentBefore n, ¬ s.Approaches a n') ∧
        ∀ pq ∈ (s.account a).pendingQuery, pq.billing = false ∧ m.startsQuery = false
  | .card k => ∀ m ∈ (s.cardBox k).head?, m.isQuery = true → (s.card k).currentTask = none
  | _ => True

instance (s : ActorDb) : ∀ l, Decidable (s.InOrder l)
  | .account a =>
    have (n : OpId) : Decidable (∀ n' ∈ s.sentBefore n, ¬ s.Approaches a n') :=
      List.decidableBAll _ _
    have (m : AccountMsg) : Decidable (∀ n ∈ m.takesUp?,
        (∀ n' ∈ s.sentBefore n, ¬ s.Approaches a n') ∧
          ∀ pq ∈ (s.account a).pendingQuery, pq.billing = false ∧ m.startsQuery = false) :=
      Option.decidableForallMem _
    inferInstanceAs (Decidable (∀ m ∈ (s.accountBox a).head?, _))
  | .card k => inferInstanceAs (Decidable (∀ m ∈ (s.cardBox k).head?, _))
  | .router => isTrue True.intro
  | .execute _ _ => isTrue True.intro

/-- The actors at rest, and nothing sent yet. -/
def rest (c : ActorStates) : ActorDb :=
  { init with router := c.router, account := c.account, card := c.card }

end ActorDb

/-! ## What is left to do -/

/-- What an operation brings to a card: a task, or a question. -/
inductive CardItem where
  | task (t : CardTask)
  | query (opId : OpId) (resetAfterReport : Bool)
  deriving DecidableEq, Repr

/-- What the router brings to an account itself. -/
inductive AccountItem [Currency Amount] where
  | limit (opId : OpId) (newLimit : Option Amount)
  | start (opId : OpId) (billing : Bool)
  deriving DecidableEq, Repr

def CardMsg.item? : CardMsg → Option CardItem
  | .executeCharge n a _ amount off => some (.task (.charge ⟨n, a, amount, off⟩))
  | .executeLimitChange n newLimit => some (.task (.limitChange n newLimit))
  | .queryCardState n _ reset => some (.query n reset)
  | _ => none

def CardMsg.reply? : CardMsg → Option AccountChargeReply
  | .chargeReply r => some r
  | _ => none

def AccountMsg.item? : AccountMsg → Option AccountItem
  | .applyAccountLimit n newLimit => some (.limit n newLimit)
  | .startAccountQuery n _ => some (.start n false)
  | .startAccountBill n _ => some (.start n true)
  | _ => none

/-- The charge card `k` asks for. -/
def AccountMsg.charge? (k : CardKey) : AccountMsg → Option CardChargeOp
  | .applyChargeFromCard n amount _ off k' =>
    if k' = k then some ⟨n, k.1, amount, off⟩ else none
  | _ => none

/-- The answer of a card to the query `n`. -/
def AccountMsg.answer? (n : OpId) : AccountMsg → Option (CardId × Amount)
  | .cardQueryReply n' c consumed => if n' = n then some (c, consumed) else none
  | _ => none

/-- The tasks of the card, and what its mailbox will bring. -/
def CardActor.work (c : CardActor) (box : List CardMsg) : List CardItem :=
  (c.currentTask.toList ++ c.queue).map .task ++ box.filterMap CardMsg.item?

/-- The messages a card gets when no snapshot is taken or installed. -/
def CardMsg.For (k : CardKey) : CardMsg → Prop
  | .executeCharge _ a c _ _ => (a, c) = k
  | .executeLimitChange .. => True
  | .queryCardState _ a _ => a = k.1
  | .chargeReply _ => True
  | _ => False

def AccountMsg.For (a : AccountId) : AccountMsg → Prop
  | .applyChargeFromCard _ _ c _ k => k = (a, c)
  | .getSnapshot _ => False
  | .replaceState .. => False
  | _ => True

/-- The pending query of an account, if it collects one. -/
abbrev Slot := Option AccountPendingQuery

namespace Slot

def collects (x : Slot) (n : OpId) : Bool := x.any fun pq => pq.opId == n

def gathered (x : Slot) (n : OpId) : List (CardId × Amount) :=
  match x with
  | some pq => if pq.opId = n then pq.perCardSpent else []
  | none => []

/-- 1 while a bill is being collected. -/
def closing (x : Slot) : Nat := if x.any AccountPendingQuery.billing then 1 else 0

end Slot

def RouterMsg.command? : RouterMsg → Option (OpId × Operation Amount)
  | .execute n o => some (n, o)
  | _ => none

/-! ## Places in a list of operations -/

/-- Operations on accounts, each with an id of its own, and the ledger they start from. -/
structure Script [Currency Amount] where
  start : Ledger
  ops : List (OpId × Operation Amount)
  ids : (ops.map Prod.fst).Nodup
  accounts : ∀ x ∈ ops, (accountOf? x.2).isSome

namespace Script

variable (S : Script)

/-- The ledger before the `i`-th operation, counted from 0. -/
def ledger (i : Nat) : Ledger := (S.ops.take i).foldl (fun L x => L.serve x.2) S.start

/-- The `i`-th operation is `o`, with id `n`. -/
def Op (i : Nat) (n : OpId) (o : Operation Amount) : Prop := S.ops[i]? = some (n, o)

/-- What operation `o` brings to card `k` when the ledger is `L`. -/
def itemOf (L : Ledger) (k : CardKey) (n : OpId) : Operation Amount → Option CardItem
  | .charge a c amount off =>
    if (a, c) = k then some (.task (.charge ⟨n, a, amount, off⟩)) else none
  | .limitCard a c newLimit => if (a, c) = k then some (.task (.limitChange n newLimit)) else none
  | .accountQuery a => if a = k.1 ∧ (L.card k).isSome then some (.query n false) else none
  | .bill a _ => if a = k.1 ∧ (L.card k).isSome then some (.query n true) else none
  | _ => none

def directOf (a : AccountId) (n : OpId) : Operation Amount → Option AccountItem
  | .limitAccount b newLimit => if b = a then some (.limit n newLimit) else none
  | .accountQuery b => if b = a then some (.start n false) else none
  | .bill b _ => if b = a then some (.start n true) else none
  | _ => none

def item (k : CardKey) (i : Nat) : Option CardItem :=
  S.ops[i]?.bind fun x => itemOf (S.ledger i) k x.1 x.2

def direct (a : AccountId) (i : Nat) : Option AccountItem :=
  S.ops[i]?.bind fun x => directOf a x.1 x.2

/-- The account has `num` cards before operation `i`. -/
def Cards (i : Nat) (a : AccountId) (num : Nat) : Prop :=
  ∃ cards : List CardId, cards.Nodup ∧ (∀ c, c ∈ cards ↔ ((S.ledger i).card (a, c)).isSome) ∧
    cards.length = num

/-- What the cards that have come past operation `i` report of it. -/
def answered (p : CardKey → Nat) (i : Nat) (a : AccountId) (c : CardId) :
    Option (CardId × Amount) :=
  if i < p (a, c) then (S.ledger i).cardSpent a c else none

/-- `m` reports operation `i` as the list, executed one by one, has it. -/
inductive Report (i : Nat) : RouterMsg → Prop where
  | task {n : OpId} {o : Operation Amount} (h : S.Op i n o) (ht : IsTask o) :
      Report i (.operationCompleted n ((S.ledger i).verdict o).isNone ((S.ledger i).verdict o))
  | query {n : OpId} {o : Operation Amount} {a : AccountId} {billing : Bool}
      {spent : List (CardId × Amount)} (h : S.Op i n o) (hq : Queries a billing o)
      (hl : Lists Prod.fst ((S.ledger i).cardSpent a) spent) :
      Report i (.accountQueryCompleted n a ((S.ledger i).total a spent) spent)

/-- `e` is the result of operation `i`. -/
def Event (i : Nat) (e : ActorEvent) : Prop :=
  ∃ n o res err, S.Op i n o ∧ (S.ledger i).Serves o res err (S.ledger (i + 1)) ∧
    e = .operationResult n o res err.isNone err

/-- The round trip of a charge between card `k` and its account: `asked` is what the card
    asked for, `replies` what is on its way back. The account is done with the charges
    before `d`. -/
inductive Round (k : CardKey) (p d : Nat) (c : CardActor) :
    List CardChargeOp → List AccountChargeReply → Prop where
  | idle (hcur : c.currentTask = none) (hq : c.queue = []) (hd : d = p) : Round k p d c [] []
  | asking {op : CardChargeOp} (hcur : c.currentTask = some (.charge op))
      (hitem : S.item k p = some (.task (.charge op)))
      (hpass : op.fromOfflineStation = true ∨ c.entry.Admits op.amount) (hd : d = p) :
      Round k p d c [op] []
  | answered {op : CardChargeOp} (hcur : c.currentTask = some (.charge op))
      (hitem : S.item k p = some (.task (.charge op))) (hd : d = p + 1)
      {err : Option VerifyError}
      (herr : err = (S.ledger p).verdict (.charge k.1 k.2 op.amount op.fromOfflineStation)) :
      Round k p d c [] [⟨op.opId, err.isNone, err⟩]

/-- Card `k` has done everything before operation `p`, of the `r` operations the router
    has handled. -/
structure CardAt (r : Nat) (k : CardKey) (p d : Nat) (c : CardActor) (box : List CardMsg)
    (asked : List CardChargeOp) : Prop where
  named : c.accountId = k.1 ∧ c.cardId = k.2
  allowed : ∀ m ∈ box, m.For k
  le : p ≤ r
  work : c.work box = (pending (S.item k) p r).map Prod.snd
  entry : c.entry = (S.ledger p).cardEntry k
  round : S.Round k p d c asked (box.filterMap CardMsg.reply?)

/-- Account `a` has taken up its operations before `q`, and has answered the charges of its
    cards before `d`. -/
structure Taken (r : Nat) (d : CardKey → Nat) (a : AccountId) (q : Nat)
    (box : List AccountMsg) : Prop where
  allowed : ∀ m ∈ box, m.For a
  le : q ≤ r
  direct : box.filterMap AccountMsg.item? = (pending (S.direct a) q r).map Prod.snd
  ahead : ∀ i c n amount off, i < r → S.Op i n (.charge a c amount off) → d (a, c) ≤ i → q ≤ i
  behind : ∀ i c n amount off, i < r → S.Op i n (.charge a c amount off) → i < d (a, c) →
    i < q ∨ (S.ledger (i + 1)).accountEntry a = (S.ledger i).accountEntry a

/-- The queries and bills of account `a`, with its cards at `p`: one that has not been
    started or that is being collected has the answers of the cards that have come past it,
    and one that is finished has all of them. -/
structure Asked (r : Nat) (p : CardKey → Nat) (a : AccountId) (q : Nat) (x : Slot)
    (box : List AccountMsg) : Prop where
  slot : ∀ pq, x = some pq → ∃ i o, i < q ∧ S.Op i pq.opId o ∧ Queries a pq.billing o ∧
    (pq.billing = true → q = i + 1) ∧ 0 < pq.remaining ∧
    S.Cards i a (pq.perCardSpent.length + pq.remaining)
  starts : ∀ n num, .startAccountQuery n num ∈ box ∨ .startAccountBill n num ∈ box →
    ∀ i o, S.Op i n o → S.Cards i a num
  order : ∀ pre n c consumed post, box = pre ++ .cardQueryReply n c consumed :: post →
    x.collects n = true ∨ ∃ m ∈ pre, m.starts n = true
  waiting : ∀ i n o billing, i < r → S.Op i n o → Queries a billing o →
    q ≤ i ∨ x.collects n = true →
    Lists Prod.fst (S.answered p i a) (x.gathered n ++ box.filterMap (AccountMsg.answer? n))
  finished : ∀ i n o billing, i < r → S.Op i n o → Queries a billing o →
    i < q → x.collects n = false → box.filterMap (AccountMsg.answer? n) = [] ∧
      ∀ c, ((S.ledger i).card (a, c)).isSome → i < p (a, c)

/-- Account `a` is at `q`, in the state the list has there. A bill it collects is not
    settled yet. -/
structure AccountAt (r : Nat) (p d : CardKey → Nat) (a : AccountId) (q : Nat)
    (x : AccountActor) (box : List AccountMsg) : Prop where
  named : x.accountId = a
  entry : x.entry = (S.ledger (q - Slot.closing x.pendingQuery)).accountEntry a
  taken : S.Taken r d a q box
  asked : S.Asked r p a q x.pendingQuery box

/-- The router has handled the first `r` commands. -/
structure RouterAt (r : Nat) (router : ActorRouter) (box : List RouterMsg)
    (commands : List (OpId × Operation Amount)) : Prop where
  known : router.CardsKnown
  sent : commands <+: S.ops
  le : r ≤ commands.length
  queue : box.filterMap RouterMsg.command? = commands.drop r
  accounts : ∀ a, a ∈ router.accounts ↔ ((S.ledger r).account a).isSome
  cards : ∀ k, k ∈ router.cards ↔ ((S.ledger r).card k).isSome
  operations : ∀ i n o, i < r → S.Op i n o → router.operations n = some o

/-- An account at `q` has taken up operation `i`, with id `n`, and is done with it. -/
def Closed (q : Nat) (x : Slot) (i : Nat) (n : OpId) : Prop := i < q ∧ x.collects n = false

/-- Operation `i` has been reported. -/
def Ended (p : CardKey → Nat) (q : AccountId → Nat) (account : AccountId → AccountActor)
    (i : Nat) (n : OpId) : Operation Amount → Prop
  | .charge a c _ _ => i < p (a, c)
  | .limitCard a c _ => i < p (a, c)
  | .limitAccount a _ => Closed (q a) (account a).pendingQuery i n
  | .accountQuery a => Closed (q a) (account a).pendingQuery i n
  | .bill a _ => Closed (q a) (account a).pendingQuery i n
  | _ => False

/-- The results so far, and the reports under way to the router, are those of the
    operations that have ended, each once. -/
structure Booked (r : Nat) (ended : Nat → OpId → Operation Amount → Prop)
    (box : List RouterMsg) (events : List ActorEvent) (ds es : List Nat) : Prop where
  events : List.Forall₂ S.Event ds events
  reports : List.Forall₂ S.Report es (box.filter fun m => m.command?.isNone)
  nodup : (ds ++ es).Nodup
  lt : ∀ i ∈ ds ++ es, i < r
  ended : ∀ i n o, i < r → S.Op i n o → (i ∈ ds ++ es ↔ ended i n o)

/-- **Every actor is at its own place in the list**, in the state the list has there. -/
structure Tracks (r : Nat) (p d : CardKey → Nat) (q : AccountId → Nat) (ds es : List Nat)
    (s : ActorDb) : Prop where
  router : S.RouterAt r s.router s.routerBox s.commands
  card : ∀ k, S.CardAt r k (p k) (d k) (s.card k) (s.cardBox k)
    ((s.accountBox k.1).filterMap (AccountMsg.charge? k))
  account : ∀ a, S.AccountAt r p d a (q a) (s.account a) (s.accountBox a)
  booked : S.Booked r (Ended p q s.account) s.routerBox s.events ds es

/-! ## What the list says -/

variable {S} {i j : Nat} {n : OpId} {o : Operation Amount} {k : CardKey} {a : AccountId}

theorem Op.lt (h : S.Op i n o) : i < S.ops.length := (List.getElem?_eq_some_iff.mp h).1

theorem Op.same {n' : OpId} {o' : Operation Amount} (h : S.Op i n o) (h' : S.Op i n' o') :
    n = n' ∧ o = o' := Prod.mk.inj (Option.some.inj (h.symm.trans h'))

theorem Op.unique {o' : Operation Amount} (h : S.Op i n o) (h' : S.Op j n o') :
    i = j ∧ o = o' := by
  have hid : (S.ops.map Prod.fst)[i]? = (S.ops.map Prod.fst)[j]? := by
    rw [List.getElem?_map, List.getElem?_map, h, h']
    rfl
  have hlt : i < (S.ops.map Prod.fst).length := by
    rw [List.length_map]
    exact h.lt
  obtain rfl : i = j := (List.getElem?_inj hlt S.ids).mp hid
  exact ⟨rfl, (h.same h').2⟩

theorem exists_op (h : i < S.ops.length) : ∃ n o, S.Op i n o := by
  exact ⟨(S.ops[i]).1, (S.ops[i]).2, List.getElem?_eq_some_iff.mpr ⟨h, rfl⟩⟩

theorem Op.account (h : S.Op i n o) : (accountOf? o).isSome :=
  S.accounts (n, o) (List.mem_of_getElem? h)

theorem Op.ledger (h : S.Op i n o) : S.ledger (i + 1) = (S.ledger i).serve o := by
  unfold Script.ledger
  rw [List.take_add_one, h, List.foldl_append]
  rfl

theorem ledger_of_none (h : S.ops[i]? = none) : S.ledger (i + 1) = S.ledger i := by
  unfold Script.ledger
  rw [List.take_add_one, h, Option.toList_none, List.append_nil]

theorem Op.item (h : S.Op i n o) (k : CardKey) : S.item k i = itemOf (S.ledger i) k n o := by
  unfold Script.item
  rw [h]
  rfl

theorem Op.direct (h : S.Op i n o) (a : AccountId) : S.direct a i = directOf a n o := by
  unfold Script.direct
  rw [h]
  rfl

/-- An item comes from a charge or a limit change on the card, or from a query or a bill of
    its account when the card is known. -/
theorem item_cases {x : CardItem} (h : S.item k i = some x) :
    (∃ n amount off, x = .task (.charge ⟨n, k.1, amount, off⟩) ∧
      S.Op i n (.charge k.1 k.2 amount off)) ∨
    (∃ n newLimit, x = .task (.limitChange n newLimit) ∧
      S.Op i n (.limitCard k.1 k.2 newLimit)) ∨
    (∃ n reset o, x = .query n reset ∧ S.Op i n o ∧ Queries k.1 reset o ∧
      ((S.ledger i).card k).isSome) := by
  obtain ⟨⟨n, o⟩, hop, hx⟩ := Option.bind_eq_some_iff.mp h
  dsimp only at hx
  cases o with
  | charge a c amount off =>
    simp only [itemOf, Option.ite_none_right_eq_some, Option.some.injEq] at hx
    obtain ⟨rfl, rfl⟩ := hx
    exact Or.inl ⟨n, amount, off, rfl, hop⟩
  | limitCard a c newLimit =>
    simp only [itemOf, Option.ite_none_right_eq_some, Option.some.injEq] at hx
    obtain ⟨rfl, rfl⟩ := hx
    exact Or.inr (Or.inl ⟨n, newLimit, rfl, hop⟩)
  | accountQuery a =>
    simp only [itemOf, Option.ite_none_right_eq_some, Option.some.injEq] at hx
    obtain ⟨⟨rfl, hk⟩, rfl⟩ := hx
    exact Or.inr (Or.inr ⟨n, false, _, rfl, hop, rfl, hk⟩)
  | bill a period =>
    simp only [itemOf, Option.ite_none_right_eq_some, Option.some.injEq] at hx
    obtain ⟨⟨rfl, hk⟩, rfl⟩ := hx
    exact Or.inr (Or.inr ⟨n, true, _, rfl, hop, ⟨period, rfl⟩, hk⟩)
  | _ => cases hx

theorem direct_cases {x : AccountItem} (h : S.direct a i = some x) :
    (∃ n newLimit, x = .limit n newLimit ∧ S.Op i n (.limitAccount a newLimit)) ∨
    (∃ n billing o, x = .start n billing ∧ S.Op i n o ∧ Queries a billing o) := by
  obtain ⟨⟨n, o⟩, hop, hx⟩ := Option.bind_eq_some_iff.mp h
  dsimp only at hx
  cases o with
  | limitAccount b newLimit =>
    simp only [directOf, Option.ite_none_right_eq_some, Option.some.injEq] at hx
    obtain ⟨rfl, rfl⟩ := hx
    exact Or.inl ⟨n, newLimit, rfl, hop⟩
  | accountQuery b =>
    simp only [directOf, Option.ite_none_right_eq_some, Option.some.injEq] at hx
    obtain ⟨rfl, rfl⟩ := hx
    exact Or.inr ⟨n, false, _, rfl, hop, rfl⟩
  | bill b period =>
    simp only [directOf, Option.ite_none_right_eq_some, Option.some.injEq] at hx
    obtain ⟨rfl, rfl⟩ := hx
    exact Or.inr ⟨n, true, _, rfl, hop, period, rfl⟩
  | _ => cases hx

theorem op_of_charge {op : CardChargeOp} (h : S.item k i = some (.task (.charge op))) :
    op.accountId = k.1 ∧
      S.Op i op.opId (.charge k.1 k.2 op.amount op.fromOfflineStation) := by
  obtain ⟨n, amount, off, hx, hop⟩ | ⟨n, newLimit, hx, -⟩ | ⟨n, reset, o, hx, -⟩ := item_cases h
  · obtain rfl := CardTask.charge.inj (CardItem.task.inj hx)
    exact ⟨rfl, hop⟩
  · cases hx
  · cases hx

theorem op_of_query {reset : Bool} (h : S.item k i = some (.query n reset)) :
    ∃ o, S.Op i n o ∧ Queries k.1 reset o ∧ ((S.ledger i).card k).isSome := by
  obtain ⟨n', amount, off, hx, -⟩ | ⟨n', newLimit, hx, -⟩ | ⟨n', reset', o, hx, ho⟩ := item_cases h
  · cases hx
  · cases hx
  · obtain ⟨rfl, rfl⟩ := CardItem.query.inj hx
    exact ⟨o, ho⟩

theorem op_of_limit {newLimit : Option Amount} (h : S.direct a i = some (.limit n newLimit)) :
    S.Op i n (.limitAccount a newLimit) := by
  obtain ⟨n', lim', hx, hop⟩ | ⟨n', billing, o, hx, -⟩ := direct_cases h
  · obtain ⟨rfl, rfl⟩ := AccountItem.limit.inj hx
    exact hop
  · cases hx

theorem op_of_start {billing : Bool} (h : S.direct a i = some (.start n billing)) :
    ∃ o, S.Op i n o ∧ Queries a billing o := by
  obtain ⟨n', lim', hx, -⟩ | ⟨n', billing', o, hx, ho⟩ := direct_cases h
  · cases hx
  · obtain ⟨rfl, rfl⟩ := AccountItem.start.inj hx
    exact ⟨o, ho⟩

/-- An operation that brings a card nothing leaves it alone. -/
theorem cardEntry_succ (h : S.item k i = none) :
    (S.ledger (i + 1)).cardEntry k = (S.ledger i).cardEntry k := by
  cases hop : S.ops[i]? with
  | none => rw [ledger_of_none hop]
  | some x =>
    obtain ⟨n, o⟩ := x
    have hop' : S.Op i n o := hop
    rw [hop'.item] at h
    rw [hop'.ledger]
    refine Ledger.serve_card_of_ne ?_ ?_
    · intro hk
      cases o with
      | charge a c amount off =>
        have hac : (a, c) = k := Option.some.inj hk
        simp [itemOf, hac] at h
      | limitCard a c newLimit =>
        have hac : (a, c) = k := Option.some.inj hk
        simp [itemOf, hac] at h
      | _ => cases hk
    · rintro period rfl
      simpa [itemOf] using h

theorem cardEntry_const {p : Nat} (hpi : p ≤ i) (h : ∀ j, p ≤ j → j < i → S.item k j = none) :
    (S.ledger i).cardEntry k = (S.ledger p).cardEntry k :=
  eq_of_none (v := fun j => (S.ledger j).cardEntry k) hpi fun j hp hj => cardEntry_succ (h j hp hj)

/-- What the router brings an account itself, and the charges on its cards, are all that
    changes it. -/
theorem accountEntry_succ (h : S.direct a i = none)
    (hcharge : ∀ n c amount off, S.Op i n (.charge a c amount off) →
      (S.ledger (i + 1)).accountEntry a = (S.ledger i).accountEntry a) :
    (S.ledger (i + 1)).accountEntry a = (S.ledger i).accountEntry a := by
  cases hop : S.ops[i]? with
  | none => rw [ledger_of_none hop]
  | some x =>
    obtain ⟨n, o⟩ := x
    have hop' : S.Op i n o := hop
    rw [hop'.direct] at h
    by_cases hoa : accountOf? o = some a
    · cases o with
      | charge b c amount off =>
        obtain rfl : b = a := Option.some.inj hoa
        exact hcharge n c amount off hop'
      | limitCard b c newLimit =>
        rw [hop'.ledger, Ledger.serve_limitCard_account]
      | limitAccount b newLimit =>
        have hba : b = a := Option.some.inj hoa
        simp [directOf, hba] at h
      | accountQuery b =>
        have hba : b = a := Option.some.inj hoa
        simp [directOf, hba] at h
      | bill b period =>
        have hba : b = a := Option.some.inj hoa
        simp [directOf, hba] at h
      | _ => cases hoa
    · rw [hop'.ledger, Ledger.serve_account_of_ne hoa]

end Script

end YpfRuta.Actors
