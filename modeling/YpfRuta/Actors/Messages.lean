/-
  Messages of the actor database (`server/src/node/actors/messages.rs`).

  An actix address is named by what it addresses: the router, an account id, or
  the `(account, card)` pair of a card. A mailbox holds every message type its
  actor handles, in arrival order.
-/
import YpfRuta.Common.Operation

namespace YpfRuta.Actors

variable {Amount : Type} [Currency Amount]

/-- Card identity is the pair `(account_id, card_id)`. -/
abbrev CardKey := AccountId × CardId

/-- Reply from an account back to a card for one charge. -/
structure AccountChargeReply where
  opId : OpId
  success : Bool
  error : Option VerifyError
  deriving DecidableEq, Repr

inductive AccountMsg [Currency Amount] where
  | applyChargeFromCard (opId : OpId) (amount : Amount) (cardId : CardId)
      (fromOfflineStation : Bool) (replyTo : CardKey)
  | applyAccountLimit (opId : OpId) (newLimit : Option Amount)
  | startAccountQuery (opId : OpId) (numCards : Nat)
  | startAccountBill (opId : OpId) (numCards : Nat)
  | cardQueryReply (opId : OpId) (cardId : CardId) (consumed : Amount)
  | getSnapshot (opId : OpId)
  | replaceState (newLimit : Option Amount) (newConsumed : Amount)
  deriving DecidableEq, Repr

/-- `CardMsg`, and `AccountChargeReply` which a card handles from the same mailbox. -/
inductive CardMsg [Currency Amount] where
  | executeCharge (opId : OpId) (accountId : AccountId) (cardId : CardId) (amount : Amount)
      (fromOfflineStation : Bool)
  | executeLimitChange (opId : OpId) (newLimit : Option Amount)
  | queryCardState (opId : OpId) (accountId : AccountId) (resetAfterReport : Bool)
  | getSnapshot (opId : OpId)
  | replaceState (newLimit : Option Amount) (newConsumed : Amount)
  | debug (text : String)
  | chargeReply (reply : AccountChargeReply)
  deriving DecidableEq, Repr

/-- `RouterCmd` (from the node) and `RouterInternalMsg` (from accounts and cards). -/
inductive RouterMsg [Currency Amount] where
  | execute (opId : OpId) (operation : Operation Amount)
  | getLog
  | operationCompleted (opId : OpId) (success : Bool) (error : Option VerifyError)
  | accountQueryCompleted (opId : OpId) (accountId : AccountId) (totalSpent : Amount)
      (perCardSpent : List (CardId × Amount))
  | accountSnapshotCollected (opId : OpId) (snapshot : AccountSnapshot Amount)
  | cardSnapshotCollected (opId : OpId) (snapshot : CardSnapshot Amount)
  | debug (text : String)
  deriving DecidableEq, Repr

/-- Events sent by the router to the node. -/
inductive ActorEvent [Currency Amount] where
  | operationResult (opId : OpId) (operation : Operation Amount)
      (result : OperationResult Amount) (success : Bool) (error : Option VerifyError)
  | debug (text : String)
  deriving DecidableEq, Repr

/-- One `do_send`, or one event put on the channel to the node. -/
inductive Send where
  | router (m : RouterMsg)
  | account (a : AccountId) (m : AccountMsg)
  | card (k : CardKey) (m : CardMsg)
  | event (e : ActorEvent)
  deriving DecidableEq, Repr

end YpfRuta.Actors
