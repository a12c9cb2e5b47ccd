/-
  The ledger: what the database holds, apart from the actors that hold it.
-/
import YpfRuta.Actors.Flight

namespace YpfRuta.Actors

open Lib

variable {Amount : Type} [Currency Amount]

/-- What is kept of one account or of one card. -/
structure Entry [Currency Amount] where
  limit : Option Amount
  consumed : Amount
  deriving DecidableEq, Repr

@[ext]
structure Ledger where
  account : AccountId → Option Entry
  card : CardKey → Option Entry

def AccountActor.entry (x : AccountActor) : Entry := ⟨x.accountLimit, x.accountConsumed⟩

def CardActor.entry (c : CardActor) : Entry := ⟨c.limit, c.consumed⟩

/-- The accounts and cards the router knows, with what their actors keep. -/
def ActorStates.ledger (c : ActorStates) : Ledger where
  account a := if a ∈ c.router.accounts then some (c.account a).entry else none
  card k := if k ∈ c.router.cards then some (c.card k).entry else none

def ActorDb.ledger (s : ActorDb) : Ledger := s.states.ledger

/-! ## Ledgers and snapshots -/

def CardSnapshot.key (x : CardSnapshot Amount) : CardKey := (x.accountId, x.cardId)

namespace Ledger

def accountSnapshot (L : Ledger) (a : AccountId) : Option (AccountSnapshot Amount) :=
  (L.account a).map fun e => ⟨a, e.limit, e.consumed⟩

def cardSnapshot (L : Ledger) (k : CardKey) : Option (CardSnapshot Amount) :=
  (L.card k).map fun e => ⟨k.1, k.2, e.limit, e.consumed⟩

/-- The snapshot lists every account and every card of the ledger exactly once,
    with its limit and its consumption, and nothing else. -/
structure Shows (L : Ledger) (snapshot : DatabaseSnapshot Amount) : Prop where
  accounts : Lists AccountSnapshot.accountId L.accountSnapshot snapshot.accounts
  cards : Lists CardSnapshot.key L.cardSnapshot snapshot.cards

end Ledger

namespace ActorStates

variable {c : ActorStates}

theorem accountSnapshot_of_mem {a : AccountId} (h : a ∈ c.router.accounts) :
    c.ledger.accountSnapshot a = some ⟨a, (c.account a).accountLimit,
      (c.account a).accountConsumed⟩ := by
  simp only [Ledger.accountSnapshot, ledger, if_pos h]
  rfl

theorem accountSnapshot_of_not_mem {a : AccountId} (h : ¬ a ∈ c.router.accounts) :
    c.ledger.accountSnapshot a = none := by
  simp only [Ledger.accountSnapshot, ledger, if_neg h]
  rfl

theorem cardSnapshot_of_mem {k : CardKey} (h : k ∈ c.router.cards) :
    c.ledger.cardSnapshot k = some ⟨k.1, k.2, (c.card k).limit, (c.card k).consumed⟩ := by
  simp only [Ledger.cardSnapshot, ledger, if_pos h]
  rfl

theorem cardSnapshot_of_not_mem {k : CardKey} (h : ¬ k ∈ c.router.cards) :
    c.ledger.cardSnapshot k = none := by
  simp only [Ledger.cardSnapshot, ledger, if_neg h]
  rfl

/-- A snapshot that shows the ledger lists every account the router knows. -/
theorem account_mem_of_shows {snapshot : DatabaseSnapshot Amount} (hs : c.ledger.Shows snapshot)
    {a : AccountId} (h : a ∈ c.router.accounts) :
    ⟨a, (c.account a).accountLimit, (c.account a).accountConsumed⟩ ∈ snapshot.accounts :=
  (hs.accounts.mem ⟨a, _, _⟩).mpr (accountSnapshot_of_mem h)

theorem card_mem_of_shows {snapshot : DatabaseSnapshot Amount} (hs : c.ledger.Shows snapshot)
    {k : CardKey} (h : k ∈ c.router.cards) :
    ⟨k.1, k.2, (c.card k).limit, (c.card k).consumed⟩ ∈ snapshot.cards :=
  (hs.cards.mem ⟨k.1, k.2, _, _⟩).mpr (cardSnapshot_of_mem h)

end ActorStates

end YpfRuta.Actors
