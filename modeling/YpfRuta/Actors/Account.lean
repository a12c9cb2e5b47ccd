/-
  AccountActor: one account and account-wide state
  (`server/src/node/actors/account.rs`).
-/
import YpfRuta.Actors.Messages

namespace YpfRuta.Actors

variable {Amount : Type} [Currency Amount]

/-- Internal state of an ongoing account query or billing operation. -/
structure AccountPendingQuery [Currency Amount] where
  opId : OpId
  remaining : Nat
  perCardSpent : List (CardId × Amount)
  /-- `true` for a billing operation, `false` for a regular query. -/
  billing : Bool
  deriving DecidableEq, Repr

structure AccountActor [Currency Amount] where
  accountId : AccountId
  accountLimit : Option Amount
  accountConsumed : Amount
  pendingQuery : Option AccountPendingQuery
  deriving DecidableEq, Repr

namespace AccountActor

def new (accountId : AccountId) : AccountActor where
  accountId := accountId
  accountLimit := none
  accountConsumed := 0
  pendingQuery := none

/-- Check the account-wide limit for a given amount. -/
def checkAccountLimit (self : AccountActor) (amount : Amount) : Except LimitCheckError Unit :=
  match self.accountLimit with
  | some limit =>
    if self.accountConsumed + amount > limit then .error .accountLimitExceeded else .ok ()
  | none => .ok ()

/-- Validate a new account limit against the current consumption. -/
def canRaiseLimit (newLimit : Option Amount) (alreadyConsumed : Amount) :
    Except LimitUpdateError Unit :=
  match newLimit with
  | none => .ok ()
  | some lim => if lim ≥ alreadyConsumed then .ok () else .error .belowCurrentUsage

def applyChargeFromCard (self : AccountActor) (opId : OpId) (amount : Amount)
    (fromOfflineStation : Bool) (replyTo : CardKey) : AccountActor × List Send :=
  if fromOfflineStation then
    -- offline replay: skip checks and always apply
    ({ self with accountConsumed := self.accountConsumed + amount },
      [.card replyTo (.chargeReply ⟨opId, true, none⟩)])
  else
    match self.checkAccountLimit amount with
    | .ok () =>
      ({ self with accountConsumed := self.accountConsumed + amount },
        [.card replyTo (.chargeReply ⟨opId, true, none⟩)])
    | .error err =>
      (self, [.card replyTo (.chargeReply ⟨opId, false, some (.chargeLimit err)⟩)])

def applyAccountLimit (self : AccountActor) (opId : OpId) (newLimit : Option Amount) :
    AccountActor × List Send :=
  match canRaiseLimit newLimit self.accountConsumed with
  | .ok () =>
    ({ self with accountLimit := newLimit }, [.router (.operationCompleted opId true none)])
  | .error err =>
    (self, [.router (.operationCompleted opId false (some (.limitUpdate err)))])

def startAccountQuery (self : AccountActor) (opId : OpId) (numCards : Nat) :
    AccountActor × List Send :=
  if numCards = 0 then
    (self, [.router (.accountQueryCompleted opId self.accountId self.accountConsumed [])])
  else
    ({ self with pendingQuery := some ⟨opId, numCards, [], false⟩ }, [])

def startAccountBill (self : AccountActor) (opId : OpId) (numCards : Nat) :
    AccountActor × List Send :=
  if numCards = 0 then
    ({ self with accountConsumed := 0 },
      [.router (.accountQueryCompleted opId self.accountId self.accountConsumed [])])
  else
    ({ self with pendingQuery := some ⟨opId, numCards, [], true⟩ }, [])

/-- The amounts of the cards added up, in the order of their replies. -/
def totalSpent (perCardSpent : List (CardId × Amount)) : Amount :=
  (perCardSpent.map Prod.snd).foldl (· + ·) 0

/-- A reply that matches the pending query: store it, and finish the query when
    it was the last one. `remaining` is a `usize` that is only decremented above 0. -/
def collectReply (self : AccountActor) (p : AccountPendingQuery) (cardId : CardId)
    (consumed : Amount) : AccountActor × List Send :=
  let perCardSpent := p.perCardSpent ++ [(cardId, consumed)]
  let remaining := p.remaining - 1
  if remaining = 0 then
    ({ self with
        pendingQuery := none
        accountConsumed := if p.billing then 0 else self.accountConsumed },
      [.router (.accountQueryCompleted p.opId self.accountId
        (totalSpent perCardSpent) perCardSpent)])
  else
    ({ self with pendingQuery := some { p with perCardSpent, remaining } }, [])

def unexpectedReply (self : AccountActor) (opId : OpId) : AccountActor × List Send :=
  (self, [.router (.debug
    s!"[Account {self.accountId}] Unexpected CardQueryReply: op_id={opId}")])

def cardQueryReply (self : AccountActor) (opId : OpId) (cardId : CardId) (consumed : Amount) :
    AccountActor × List Send :=
  match self.pendingQuery with
  | some p => if p.opId = opId then self.collectReply p cardId consumed
    else self.unexpectedReply opId
  | none => self.unexpectedReply opId

/-- `Handler<AccountMsg>::handle`. -/
def handle (self : AccountActor) : AccountMsg → AccountActor × List Send
  | .applyChargeFromCard opId amount _ fromOfflineStation replyTo =>
    self.applyChargeFromCard opId amount fromOfflineStation replyTo
  | .applyAccountLimit opId newLimit => self.applyAccountLimit opId newLimit
  | .startAccountQuery opId numCards => self.startAccountQuery opId numCards
  | .startAccountBill opId numCards => self.startAccountBill opId numCards
  | .cardQueryReply opId cardId consumed => self.cardQueryReply opId cardId consumed
  | .getSnapshot opId =>
    (self, [.router (.accountSnapshotCollected opId
      ⟨self.accountId, self.accountLimit, self.accountConsumed⟩)])
  | .replaceState newLimit newConsumed =>
    ({ self with accountLimit := newLimit, accountConsumed := newConsumed }, [])

end AccountActor

end YpfRuta.Actors
