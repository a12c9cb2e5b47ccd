/-
  Business operations, their results and the errors they carry
  (`common/src/operation.rs`, `common/src/operation_result.rs`,
  `common/src/errors.rs`).

  Amounts are `f32` in the source. Everything here is generic in the amount type:
  the replication layer never looks inside an amount, and the actor database only
  does with it what `Currency` lists. Results that need the laws of addition and of
  the order are about exact amounts.
-/
import Mathlib.Algebra.Ring.Rat

namespace YpfRuta

/-- `std::net::SocketAddr`. -/
inductive SocketAddr where
  | v4 (ip : UInt32) (port : UInt16)
  | v6 (ip : BitVec 128) (port : UInt16) (flowinfo scopeId : UInt32)
  deriving DecidableEq, Repr

abbrev OpId := UInt32
abbrev AccountId := UInt64
abbrev CardId := UInt64

/-- Amounts as exact numbers. -/
abbrev Amount := ℚ

/-- What the actor database does with amounts: it starts at zero, adds and compares. No law
    is asked for, so that `f32` with its rounding and its `NaN` is an instance as well as
    the exact numbers. In a section on some `Amount` the types of the database are those of
    its amounts; elsewhere amounts are exact. -/
class Currency (Amount : outParam Type) where
  zero : Zero Amount
  add : Add Amount
  lt : LT Amount
  le : LE Amount
  decEq : DecidableEq Amount
  decLt : DecidableLT Amount
  decLe : DecidableLE Amount

attribute [reducible] Currency.zero Currency.add Currency.lt Currency.le Currency.decEq
  Currency.decLt Currency.decLe

section

variable {Amount : Type} [Currency Amount]

instance (priority := low) currencyZero : Zero Amount := Currency.zero
instance (priority := low) currencyAdd : Add Amount := Currency.add
instance (priority := low) currencyLT : LT Amount := Currency.lt
instance (priority := low) currencyLE : LE Amount := Currency.le
instance (priority := low) currencyDecidableEq : DecidableEq Amount := Currency.decEq
instance (priority := low) currencyDecidableLT : DecidableLT Amount := Currency.decLt
instance (priority := low) currencyDecidableLE : DecidableLE Amount := Currency.decLe

end

instance exactCurrency : Currency ℚ where
  zero := inferInstance
  add := inferInstance
  lt := inferInstance
  le := inferInstance
  decEq := inferInstance
  decLt := inferInstance
  decLe := inferInstance

/-- Error produced when checking limits for a charge. -/
inductive LimitCheckError where
  | cardLimitExceeded
  | accountLimitExceeded
  deriving DecidableEq, Repr

/-- Error produced when attempting to update a limit. -/
inductive LimitUpdateError where
  | belowCurrentUsage
  deriving DecidableEq, Repr

inductive VerifyError where
  | chargeLimit (e : LimitCheckError)
  | limitUpdate (e : LimitUpdateError)
  deriving DecidableEq, Repr

structure AccountSnapshot (α : Type) where
  accountId : AccountId
  limit : Option α
  consumed : α
  deriving DecidableEq, Repr

structure CardSnapshot (α : Type) where
  accountId : AccountId
  cardId : CardId
  limit : Option α
  consumed : α
  deriving DecidableEq, Repr

structure DatabaseSnapshot (α : Type) where
  addr : SocketAddr
  accounts : List (AccountSnapshot α)
  cards : List (CardSnapshot α)
  deriving DecidableEq, Repr

/-- High-level operation the system can perform. -/
inductive Operation (α : Type) where
  | charge (accountId : AccountId) (cardId : CardId) (amount : α) (fromOfflineStation : Bool)
  | limitAccount (accountId : AccountId) (newLimit : Option α)
  | limitCard (accountId : AccountId) (cardId : CardId) (newLimit : Option α)
  | accountQuery (accountId : AccountId)
  | bill (accountId : AccountId) (period : Option String)
  | getDatabase (addr : SocketAddr)
  | replaceDatabase (snapshot : DatabaseSnapshot α)
  deriving DecidableEq, Repr

/-- Commands under their op ids are compared by `==`. -/
instance {α : Type} [DecidableEq α] : LawfulBEq (OpId × Operation α) := inferInstance

inductive ChargeResult where
  | ok
  | failed (e : VerifyError)
  deriving DecidableEq, Repr

inductive LimitResult where
  | ok
  | failed (e : VerifyError)
  deriving DecidableEq, Repr

structure AccountQueryResult (α : Type) where
  accountId : AccountId
  totalSpent : α
  perCardSpent : List (CardId × α)
  deriving DecidableEq, Repr

inductive OperationResult (α : Type) where
  | charge (r : ChargeResult)
  | limitAccount (r : LimitResult)
  | limitCard (r : LimitResult)
  | accountQuery (r : AccountQueryResult α)
  | databaseSnapshot (s : DatabaseSnapshot α)
  | replaceDatabase
  deriving DecidableEq, Repr

end YpfRuta
