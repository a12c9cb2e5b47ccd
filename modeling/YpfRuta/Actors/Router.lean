/-
  ActorRouter: owns and routes to the account and card actors
  (`server/src/node/actors/actor_router.rs`).
-/
import Mathlib.Logic.Function.Basic
import YpfRuta.Lib.Keys
import YpfRuta.Actors.Messages

namespace YpfRuta.Actors

open Lib

variable {Amount : Type} [Currency Amount]

/-- Internal state while assembling a database snapshot. -/
structure PendingDatabaseSnapshot [Currency Amount] where
  addr : SocketAddr
  expectedAccounts : Nat
  expectedCards : Nat
  accounts : List (AccountSnapshot Amount)
  cards : List (CardSnapshot Amount)

/-- The router. `accounts` and `cards` are the keys of the address maps; an actor
    is named by its key, so looking one up or creating it only touches the keys.
    `panicked` records that a handler hit an `expect`. -/
structure ActorRouter where
  accounts : Keys AccountId
  cards : Keys CardKey
  operations : OpId → Option (Operation Amount)
  pendingDbSnapshots : OpId → Option PendingDatabaseSnapshot
  panicked : Bool

namespace ActorRouter

def new : ActorRouter where
  accounts := .empty
  cards := .empty
  operations := fun _ => none
  pendingDbSnapshots := fun _ => none
  panicked := false

/-- Return or create the actor of `accountId`. -/
def getOrCreateAccount (self : ActorRouter) (accountId : AccountId) : ActorRouter :=
  { self with accounts := self.accounts.insert accountId }

/-- Return or create the actor of `(accountId, cardId)`. A new card needs its account. -/
def getOrCreateCard (self : ActorRouter) (accountId : AccountId) (cardId : CardId) :
    ActorRouter :=
  if (accountId, cardId) ∈ self.cards then self
  else
    let self := self.getOrCreateAccount accountId
    { self with cards := self.cards.insert (accountId, cardId) }

/-- The cards of `accountId` known to the router. -/
def cardIds (self : ActorRouter) (accountId : AccountId) : List CardId :=
  (self.cards.toList.filter (fun k => k.1 = accountId)).map Prod.snd

/-- The sends of a query or a bill: first the account learns how many cards to
    wait for, then each card is asked for its state. -/
def queryCards (self : ActorRouter) (opId : OpId) (accountId : AccountId)
    (start : AccountMsg) (resetAfterReport : Bool) : List Send :=
  .account accountId start :: (self.cardIds accountId).map fun cardId =>
    .card (accountId, cardId) (.queryCardState opId accountId resetAfterReport)

def executeAccountQuery (self : ActorRouter) (opId : OpId) (accountId : AccountId) :
    ActorRouter × List Send :=
  let self := self.getOrCreateAccount accountId
  (self, self.queryCards opId accountId
    (.startAccountQuery opId (self.cardIds accountId).length) false)

def executeBill (self : ActorRouter) (opId : OpId) (accountId : AccountId) :
    ActorRouter × List Send :=
  let self := self.getOrCreateAccount accountId
  (self, self.queryCards opId accountId
    (.startAccountBill opId (self.cardIds accountId).length) true)

def executeGetDatabase (self : ActorRouter) (opId : OpId) (addr : SocketAddr) :
    ActorRouter × List Send :=
  let expectedAccounts := self.accounts.toList.length
  let expectedCards := self.cards.toList.length
  if expectedAccounts = 0 ∧ expectedCards = 0 then
    -- empty database: respond directly without sending messages
    (self, [.event (.operationResult opId (.getDatabase addr)
      (.databaseSnapshot ⟨addr, [], []⟩) true none)])
  else
    ({ self with
        pendingDbSnapshots := Function.update self.pendingDbSnapshots opId
          (some ⟨addr, expectedAccounts, expectedCards, [], []⟩) },
      self.accounts.toList.map (fun a => .account a (.getSnapshot opId)) ++
        self.cards.toList.map (fun k => .card k (.getSnapshot opId)))

def executeReplaceDatabase (self : ActorRouter) (opId : OpId)
    (snapshot : DatabaseSnapshot Amount) : ActorRouter × List Send :=
  let self := snapshot.accounts.foldl (fun r s => r.getOrCreateAccount s.accountId) self
  let self := snapshot.cards.foldl (fun r s => r.getOrCreateCard s.accountId s.cardId) self
  (self,
    snapshot.accounts.map (fun s => .account s.accountId (.replaceState s.limit s.consumed)) ++
      snapshot.cards.map
        (fun s => .card (s.accountId, s.cardId) (.replaceState s.limit s.consumed)) ++
      [.event (.operationResult opId (.replaceDatabase snapshot) .replaceDatabase true none)])

/-- `RouterCmd::Execute`: store the operation for the final result, then dispatch. -/
def execute (self : ActorRouter) (opId : OpId) (operation : Operation Amount) :
    ActorRouter × List Send :=
  let self := { self with operations := Function.update self.operations opId (some operation) }
  match operation with
  | .charge accountId cardId amount fromOfflineStation =>
    (self.getOrCreateCard accountId cardId,
      [.card (accountId, cardId)
        (.executeCharge opId accountId cardId amount fromOfflineStation)])
  | .limitAccount accountId newLimit =>
    (self.getOrCreateAccount accountId, [.account accountId (.applyAccountLimit opId newLimit)])
  | .limitCard accountId cardId newLimit =>
    (self.getOrCreateCard accountId cardId,
      [.card (accountId, cardId) (.executeLimitChange opId newLimit)])
  | .accountQuery accountId => self.executeAccountQuery opId accountId
  | .bill accountId _ => self.executeBill opId accountId
  | .getDatabase addr => self.executeGetDatabase opId addr
  | .replaceDatabase snapshot => self.executeReplaceDatabase opId snapshot

/-- The result of a charge; `none` is the `expect` on a missing error. -/
def chargeResult (success : Bool) (error : Option VerifyError) : Option ChargeResult :=
  if success then some .ok else error.map .failed

/-- The result of a limit change; `none` is the `expect` on a missing error. -/
def limitResult (success : Bool) (error : Option VerifyError) : Option LimitResult :=
  if success then some .ok else error.map .failed

/-- Map a completion to the result of its operation. The last four cases are the
    defensive fallbacks of the source. -/
def completedResult (operation : Operation Amount) (success : Bool)
    (error : Option VerifyError) : Option (OperationResult Amount) :=
  match operation with
  | .charge .. => (chargeResult success error).map .charge
  | .limitAccount .. => (limitResult success error).map .limitAccount
  | .limitCard .. => (limitResult success error).map .limitCard
  | .accountQuery .. => some (.accountQuery ⟨0, 0, []⟩)
  | .bill .. => some (.accountQuery ⟨0, 0, []⟩)
  | .getDatabase .. => some .replaceDatabase
  | .replaceDatabase .. => some .replaceDatabase

def operationCompleted (self : ActorRouter) (opId : OpId) (success : Bool)
    (error : Option VerifyError) : ActorRouter × List Send :=
  match self.operations opId with
  | none =>
    (self, [.event (.debug s!"[Router] OperationCompleted for unknown op_id={opId}")])
  | some operation =>
    match completedResult operation success error with
    | some result => (self, [.event (.operationResult opId operation result success error)])
    | none => ({ self with panicked := true }, [])

def accountQueryCompleted (self : ActorRouter) (opId : OpId) (accountId : AccountId)
    (totalSpent : Amount) (perCardSpent : List (CardId × Amount)) : ActorRouter × List Send :=
  match self.operations opId with
  | none =>
    (self, [.event (.debug s!"[Router] AccountQueryCompleted for unknown op_id={opId}")])
  | some operation =>
    (self, [.event (.operationResult opId operation
      (.accountQuery ⟨accountId, totalSpent, perCardSpent⟩) true none)])

/-- Try to complete a database snapshot if all fragments have arrived. -/
def tryCompleteDbSnapshot (self : ActorRouter) (opId : OpId) : ActorRouter × List Send :=
  match self.pendingDbSnapshots opId with
  | none => (self, [])
  | some p =>
    if p.accounts.length = p.expectedAccounts ∧ p.cards.length = p.expectedCards then
      let self :=
        { self with pendingDbSnapshots := Function.update self.pendingDbSnapshots opId none }
      match self.operations opId with
      | some operation =>
        (self, [.event (.operationResult opId operation
          (.databaseSnapshot ⟨p.addr, p.accounts, p.cards⟩) true none)])
      | none =>
        (self, [.event (.debug s!"[Router] DB snapshot completed for unknown op_id={opId}")])
    else (self, [])

def accountSnapshotCollected (self : ActorRouter) (opId : OpId)
    (snapshot : AccountSnapshot Amount) : ActorRouter × List Send :=
  match self.pendingDbSnapshots opId with
  | some p =>
    { self with
      pendingDbSnapshots := Function.update self.pendingDbSnapshots opId
        (some { p with accounts := p.accounts ++ [snapshot] }) }.tryCompleteDbSnapshot opId
  | none =>
    (self, [.event (.debug s!"[Router] AccountSnapshotCollected for unknown op_id={opId}")])

def cardSnapshotCollected (self : ActorRouter) (opId : OpId)
    (snapshot : CardSnapshot Amount) : ActorRouter × List Send :=
  match self.pendingDbSnapshots opId with
  | some p =>
    { self with
      pendingDbSnapshots := Function.update self.pendingDbSnapshots opId
        (some { p with cards := p.cards ++ [snapshot] }) }.tryCompleteDbSnapshot opId
  | none =>
    (self, [.event (.debug s!"[Router] CardSnapshotCollected for unknown op_id={opId}")])

/-- `Handler<RouterCmd>::handle` and `Handler<RouterInternalMsg>::handle`. -/
def handle (self : ActorRouter) : RouterMsg → ActorRouter × List Send
  | .execute opId operation => self.execute opId operation
  | .getLog =>
    (self, [.event (.debug
      s!"[Router] Accounts={self.accounts.toList.length}, Cards={self.cards.toList.length}")])
  | .operationCompleted opId success error => self.operationCompleted opId success error
  | .accountQueryCompleted opId accountId totalSpent perCardSpent =>
    self.accountQueryCompleted opId accountId totalSpent perCardSpent
  | .accountSnapshotCollected opId snapshot => self.accountSnapshotCollected opId snapshot
  | .cardSnapshotCollected opId snapshot => self.cardSnapshotCollected opId snapshot
  | .debug text => (self, [.event (.debug text)])

end ActorRouter

end YpfRuta.Actors
