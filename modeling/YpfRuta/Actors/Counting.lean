/-
  Counting one operation: how often its id occurs among the messages, the tasks
  and the sends.
-/
import YpfRuta.Actors.Origin

namespace YpfRuta.Actors

variable {Amount : Type} [Currency Amount]

/-! ## Places an operation can be -/

def RouterMsg.executes (n : OpId) : RouterMsg → Bool
  | .execute n' _ => n' == n
  | _ => false

def RouterMsg.completes (n : OpId) : RouterMsg → Bool
  | .operationCompleted n' _ _ => n' == n
  | _ => false

def RouterMsg.succeeds (n : OpId) : RouterMsg → Bool
  | .operationCompleted n' b _ => n' == n && b
  | _ => false

/-- The charge `n` asks for the approval of the account. -/
def AccountMsg.applies (n : OpId) : AccountMsg → Bool
  | .applyChargeFromCard n' .. => n' == n
  | _ => false

def AccountMsg.limits (n : OpId) : AccountMsg → Bool
  | .applyAccountLimit n' _ => n' == n
  | _ => false

def CardMsg.brings (n : OpId) : CardMsg → Bool
  | .executeCharge n' .. => n' == n
  | .executeLimitChange n' _ => n' == n
  | _ => false

def CardMsg.replies (n : OpId) : CardMsg → Bool
  | .chargeReply r => r.opId == n
  | _ => false

def CardMsg.approves (n : OpId) : CardMsg → Bool
  | .chargeReply r => r.opId == n && r.success
  | _ => false

/-- The message asks a card for its state for `n`. -/
def CardMsg.asks (n : OpId) : CardMsg → Bool
  | .queryCardState n' .. => n' == n
  | _ => false

def AccountMsg.answers (n : OpId) : AccountMsg → Bool
  | .cardQueryReply n' .. => n' == n
  | _ => false

def ActorEvent.results (n : OpId) : ActorEvent → Bool
  | .operationResult n' .. => n' == n
  | .debug _ => false

def CardTask.is (n : OpId) (t : CardTask) : Bool := t.opId == n

/-- How often `n` is a task of the card, in flight or queued. -/
def CardActor.tasks (c : CardActor) (n : OpId) : Nat :=
  c.currentTask.toList.countP (CardTask.is n) + c.queue.countP (CardTask.is n)

/-- `1` when the charge `n` is in flight at the card. -/
def CardActor.inFlight (c : CardActor) (n : OpId) : Nat :=
  match c.currentTask with
  | some (.charge op) => if op.opId = n then 1 else 0
  | _ => 0

def Send.onRouter (p : RouterMsg → Bool) : Send → Bool
  | .router m => p m
  | _ => false

def Send.onAccount (a : AccountId) (p : AccountMsg → Bool) : Send → Bool
  | .account a' m => a' == a && p m
  | _ => false

def Send.onCard (k : CardKey) (p : CardMsg → Bool) : Send → Bool
  | .card k' m => k' == k && p m
  | _ => false

def Send.onNode (p : ActorEvent → Bool) : Send → Bool
  | .event e => p e
  | _ => false

@[simp] theorem countP_toRouter (xs : List Send) (p : RouterMsg → Bool) :
    (xs.filterMap Send.toRouter?).countP p = xs.countP (Send.onRouter p) := by
  rw [List.countP_filterMap]
  congr 1
  funext x
  cases x <;> rfl

@[simp] theorem countP_toAccount (xs : List Send) (a : AccountId) (p : AccountMsg → Bool) :
    (xs.filterMap (Send.toAccount? a)).countP p = xs.countP (Send.onAccount a p) := by
  rw [List.countP_filterMap]
  congr 1
  funext x
  cases x with
  | account a' m => by_cases h : a' = a <;> simp [Send.toAccount?, Send.onAccount, h]
  | _ => rfl

@[simp] theorem countP_toCard (xs : List Send) (k : CardKey) (p : CardMsg → Bool) :
    (xs.filterMap (Send.toCard? k)).countP p = xs.countP (Send.onCard k p) := by
  rw [List.countP_filterMap]
  congr 1
  funext x
  cases x with
  | card k' m => by_cases h : k' = k <;> simp [Send.toCard?, Send.onCard, h]
  | _ => rfl

end YpfRuta.Actors
