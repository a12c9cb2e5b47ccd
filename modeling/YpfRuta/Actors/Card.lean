/-
  CardActor: per-card limit and per-card consumption
  (`server/src/node/actors/card.rs`).
-/
import YpfRuta.Actors.Messages

namespace YpfRuta.Actors

variable {Amount : Type} [Currency Amount]

/-- Internal representation of a card-level charge. -/
structure CardChargeOp [Currency Amount] where
  opId : OpId
  accountId : AccountId
  amount : Amount
  fromOfflineStation : Bool
  deriving DecidableEq, Repr

/-- Internal tasks that a card can execute. -/
inductive CardTask [Currency Amount] where
  | charge (op : CardChargeOp)
  | limitChange (opId : OpId) (newLimit : Option Amount)
  deriving DecidableEq, Repr

structure CardActor [Currency Amount] where
  cardId : CardId
  accountId : AccountId
  limit : Option Amount
  consumed : Amount
  currentTask : Option CardTask
  queue : List CardTask
  deriving DecidableEq, Repr

namespace CardActor

def new (cardId : CardId) (accountId : AccountId) : CardActor where
  cardId := cardId
  accountId := accountId
  limit := none
  consumed := 0
  currentTask := none
  queue := []

/-- Check the card-level limit for a *single* charge. -/
def checkChargeLimit (self : CardActor) (amount : Amount) : Except LimitCheckError Unit :=
  match self.limit with
  | some limit => if self.consumed + amount > limit then .error .cardLimitExceeded else .ok ()
  | none => .ok ()

/-- Check whether we can set a new card limit. -/
def canSetNewLimit (self : CardActor) (newLimit : Option Amount) : Except LimitUpdateError Unit :=
  match newLimit with
  | none => .ok ()
  | some lim => if lim ≥ self.consumed then .ok () else .error .belowCurrentUsage

/-- The request a card sends to its account for a charge that passed the local check. -/
def applyCharge (self : CardActor) (op : CardChargeOp) : Send :=
  .account self.accountId (.applyChargeFromCard op.opId op.amount self.cardId
    op.fromOfflineStation (self.accountId, self.cardId))

mutual

/-- Start processing the current task, if any. -/
def startCurrentTask (self : CardActor) : CardActor × List Send :=
  match self.currentTask with
  | none => (self, [])
  | some (.charge op) =>
    if op.fromOfflineStation then
      (self, [self.applyCharge op])
    else
      match self.checkChargeLimit op.amount with
      | .error err => self.finishCurrentTask op.opId false (some (.chargeLimit err))
      | .ok () => (self, [self.applyCharge op])
  | some (.limitChange opId newLimit) =>
    match self.canSetNewLimit newLimit with
    | .ok () => { self with limit := newLimit }.finishCurrentTask opId true none
    | .error err => self.finishCurrentTask opId false (some (.limitUpdate err))
termination_by 2 * self.queue.length + 1

/-- When a task has finished, notify the router and move to the next. -/
def finishCurrentTask (self : CardActor) (opId : OpId) (success : Bool)
    (error : Option VerifyError) : CardActor × List Send :=
  match h : self.queue with
  | next :: rest =>
    let r := { self with currentTask := some next, queue := rest }.startCurrentTask
    (r.1, .router (.operationCompleted opId success error) :: r.2)
  | [] =>
    ({ self with currentTask := none }, [.router (.operationCompleted opId success error)])
termination_by 2 * self.queue.length
decreasing_by
  rw [h, List.length_cons, Nat.mul_succ]
  exact Nat.lt_succ_self _

end

/-- Run a task now, or queue it behind the one in flight. -/
def acceptTask (self : CardActor) (task : CardTask) : CardActor × List Send :=
  match self.currentTask with
  | none => { self with currentTask := some task }.startCurrentTask
  | some _ => ({ self with queue := self.queue ++ [task] }, [])

def executeCharge (self : CardActor) (opId : OpId) (accountId : AccountId) (cardId : CardId)
    (amount : Amount) (fromOfflineStation : Bool) : CardActor × List Send :=
  if accountId ≠ self.accountId ∨ cardId ≠ self.cardId then
    (self,
      [.router (.debug
        s!"[Card {self.cardId}/{self.accountId}] Received ExecuteCharge for mismatched account/card: account_id={accountId}, card_id={cardId}"),
      .router (.operationCompleted opId false (some (.chargeLimit .cardLimitExceeded)))])
  else
    self.acceptTask (.charge ⟨opId, accountId, amount, fromOfflineStation⟩)

def queryCardState (self : CardActor) (opId : OpId) (accountId : AccountId)
    (resetAfterReport : Bool) : CardActor × List Send :=
  if accountId ≠ self.accountId then
    (self, [.router (.debug
      s!"[Card {self.cardId}/{self.accountId}] QueryCardState with different account_id: {accountId}")])
  else
    ({ self with consumed := if resetAfterReport then 0 else self.consumed },
      [.account self.accountId (.cardQueryReply opId self.cardId self.consumed)])

/-- `Handler<AccountChargeReply>::handle`. -/
def handleChargeReply (self : CardActor) (msg : AccountChargeReply) : CardActor × List Send :=
  let unknown : CardActor × List Send :=
    (self, [.router (.debug
      s!"[Card {self.cardId}/{self.accountId}] Received AccountChargeReply for unknown op_id={msg.opId}")])
  match self.currentTask with
  | some (.charge op) =>
    if op.opId = msg.opId then
      { self with consumed := if msg.success then self.consumed + op.amount else self.consumed }
        |>.finishCurrentTask msg.opId msg.success msg.error
    else unknown
  | _ => unknown

/-- `Handler<CardMsg>::handle`. -/
def handle (self : CardActor) : CardMsg → CardActor × List Send
  | .executeCharge opId accountId cardId amount fromOfflineStation =>
    self.executeCharge opId accountId cardId amount fromOfflineStation
  | .executeLimitChange opId newLimit => self.acceptTask (.limitChange opId newLimit)
  | .queryCardState opId accountId resetAfterReport =>
    self.queryCardState opId accountId resetAfterReport
  | .getSnapshot opId =>
    (self, [.router (.cardSnapshotCollected opId
      ⟨self.accountId, self.cardId, self.limit, self.consumed⟩)])
  | .replaceState newLimit newConsumed =>
    -- a snapshot discards any pending task
    ({ self with limit := newLimit, consumed := newConsumed, currentTask := none, queue := [] },
      [])
  | .debug text =>
    (self, [.router (.debug s!"[Card {self.cardId}/{self.accountId}] {text}")])
  | .chargeReply reply => self.handleChargeReply reply

end CardActor

end YpfRuta.Actors
