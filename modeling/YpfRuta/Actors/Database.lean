/-
  The actor database as one transition system: the router, every account and
  every card with a FIFO mailbox each, and the event channel to the node.

  A label picks the actor that handles the message at the head of its mailbox,
  or the node sending one more `Execute`. Any list of labels is an interleaving.

  An actor the router has not created yet sits in its initial state with an
  empty mailbox, so creating it only records its key in the router.

  The event channel is unbounded here. `commands`, `reported` and `applied` are
  history: what the node asked for, what the actors reported to the router, and
  which charge was added to which `consumed`.
-/
import YpfRuta.Lib.Transition
import YpfRuta.Actors.Account
import YpfRuta.Actors.Card
import YpfRuta.Actors.Router

namespace YpfRuta.Actors

open Lib

variable {Amount : Type} [Currency Amount]

/-- An amount added to the `consumed` of an account or of a card. -/
inductive Applied [Currency Amount] where
  | account (a : AccountId) (opId : OpId) (amount : Amount)
  | card (k : CardKey) (opId : OpId) (amount : Amount)
  deriving DecidableEq, Repr

structure ActorDb where
  router : ActorRouter
  account : AccountId → AccountActor
  card : CardKey → CardActor
  routerBox : List RouterMsg
  accountBox : AccountId → List AccountMsg
  cardBox : CardKey → List CardMsg
  events : List ActorEvent
  commands : List (OpId × Operation Amount)
  reported : List RouterMsg
  applied : List Applied

inductive Label [Currency Amount] where
  | execute (opId : OpId) (operation : Operation Amount)
  | router
  | account (a : AccountId)
  | card (k : CardKey)
  deriving DecidableEq, Repr

/-! ## What one message delivery sends where -/

def Send.toRouter? : Send → Option RouterMsg
  | .router m => some m
  | _ => none

def Send.toAccount? (a : AccountId) : Send → Option AccountMsg
  | .account a' m => if a' = a then some m else none
  | _ => none

def Send.toCard? (k : CardKey) : Send → Option CardMsg
  | .card k' m => if k' = k then some m else none
  | _ => none

def Send.toNode? : Send → Option ActorEvent
  | .event e => some e
  | _ => none

/-- The charges a message makes an account add to its consumption. -/
def AccountActor.added (self : AccountActor) : AccountMsg → List (OpId × Amount)
  | .applyChargeFromCard opId amount _ fromOfflineStation _ =>
    if fromOfflineStation ∨ self.checkAccountLimit amount = .ok () then [(opId, amount)] else []
  | _ => []

/-- The charges a message makes a card add to its consumption. -/
def CardActor.added (self : CardActor) : CardMsg → List (OpId × Amount)
  | .chargeReply reply =>
    match self.currentTask with
    | some (.charge op) =>
      if op.opId = reply.opId ∧ reply.success then [(op.opId, op.amount)] else []
    | _ => []
  | _ => []

namespace ActorDb

/-- The empty database. -/
def init : ActorDb where
  router := .new
  account := .new
  card := fun k => .new k.2 k.1
  routerBox := []
  accountBox := fun _ => []
  cardBox := fun _ => []
  events := []
  commands := []
  reported := []
  applied := []

/-- Put every send at the end of its mailbox, in order. -/
def deliver (s : ActorDb) (sends : List Send) : ActorDb :=
  { s with
    routerBox := s.routerBox ++ sends.filterMap Send.toRouter?
    accountBox := fun a => s.accountBox a ++ sends.filterMap (Send.toAccount? a)
    cardBox := fun k => s.cardBox k ++ sends.filterMap (Send.toCard? k)
    events := s.events ++ sends.filterMap Send.toNode?
    reported := s.reported ++ sends.filterMap Send.toRouter? }

/-- The node sends `Execute`. -/
def execute (s : ActorDb) (opId : OpId) (operation : Operation Amount) : ActorDb :=
  { s with
    routerBox := s.routerBox ++ [.execute opId operation]
    commands := s.commands ++ [(opId, operation)] }

/-- The router handles `m`, with `rest` left in its mailbox. -/
def routerStep (s : ActorDb) (m : RouterMsg) (rest : List RouterMsg) : ActorDb :=
  { s with router := (s.router.handle m).1, routerBox := rest }.deliver (s.router.handle m).2

def accountStep (s : ActorDb) (a : AccountId) (m : AccountMsg) (rest : List AccountMsg) :
    ActorDb :=
  { s with
    account := Function.update s.account a ((s.account a).handle m).1
    accountBox := Function.update s.accountBox a rest
    applied := s.applied ++ ((s.account a).added m).map fun p : OpId × Amount => Applied.account a p.1 p.2 }.deliver
      ((s.account a).handle m).2

def cardStep (s : ActorDb) (k : CardKey) (m : CardMsg) (rest : List CardMsg) : ActorDb :=
  { s with
    card := Function.update s.card k ((s.card k).handle m).1
    cardBox := Function.update s.cardBox k rest
    applied := s.applied ++ ((s.card k).added m).map fun p : OpId × Amount => Applied.card k p.1 p.2 }.deliver
      ((s.card k).handle m).2

/-- One step. A router that panicked handles nothing any more. -/
def step (s : ActorDb) : Label → Option ActorDb
  | .execute opId operation => some (s.execute opId operation)
  | .router =>
    match s.routerBox with
    | m :: rest => if s.router.panicked then none else some (s.routerStep m rest)
    | [] => none
  | .account a =>
    match s.accountBox a with
    | m :: rest => some (s.accountStep a m rest)
    | [] => none
  | .card k =>
    match s.cardBox k with
    | m :: rest => some (s.cardStep k m rest)
    | [] => none

/-- All mailboxes are empty. -/
structure Quiescent (s : ActorDb) : Prop where
  router : s.routerBox = []
  account : ∀ a, s.accountBox a = []
  card : ∀ k, s.cardBox k = []

/-- **What a step can do.** -/
theorem step_cases {s s' : ActorDb} {l : Label} (h : s.step l = some s') :
    (∃ n o, l = .execute n o ∧ s' = s.execute n o) ∨
    (∃ m rest, l = .router ∧ s.routerBox = m :: rest ∧ s.router.panicked = false ∧
      s' = s.routerStep m rest) ∨
    (∃ a m rest, l = .account a ∧ s.accountBox a = m :: rest ∧ s' = s.accountStep a m rest) ∨
    (∃ k m rest, l = .card k ∧ s.cardBox k = m :: rest ∧ s' = s.cardStep k m rest) := by
  cases l with
  | execute n o => exact Or.inl ⟨n, o, rfl, (Option.some.inj h).symm⟩
  | router =>
    simp only [step] at h
    split at h
    · rename_i m rest hbox
      split at h
      · cases h
      · rename_i hp
        exact Or.inr (Or.inl ⟨m, rest, rfl, hbox, by simpa using hp, (Option.some.inj h).symm⟩)
    · cases h
  | account a =>
    simp only [step] at h
    split at h
    · rename_i m rest hbox
      exact Or.inr (Or.inr (Or.inl ⟨a, m, rest, rfl, hbox, (Option.some.inj h).symm⟩))
    · cases h
  | card k =>
    simp only [step] at h
    split at h
    · rename_i m rest hbox
      exact Or.inr (Or.inr (Or.inr ⟨k, m, rest, rfl, hbox, (Option.some.inj h).symm⟩))
    · cases h

/-- The history of applied charges grows by what the handling actor added. -/
theorem accountStep_applied {s : ActorDb} {a : AccountId} {m : AccountMsg}
    {rest : List AccountMsg} {x : Applied}
    (h : (s.accountStep a m rest).applied = s.applied ++ [x]) :
    ∃ p ∈ (s.account a).added m, x = .account a p.1 p.2 := by
  have h' : s.applied ++ ((s.account a).added m).map
      (fun p : OpId × Amount => Applied.account a p.1 p.2) = s.applied ++ [x] := h
  obtain ⟨p, hp, hx⟩ := List.map_eq_singleton_iff.mp (List.append_cancel_left h')
  exact ⟨p, by simp [hp], hx.symm⟩

theorem cardStep_applied {s : ActorDb} {k : CardKey} {m : CardMsg} {rest : List CardMsg}
    {x : Applied} (h : (s.cardStep k m rest).applied = s.applied ++ [x]) :
    ∃ p ∈ (s.card k).added m, x = .card k p.1 p.2 := by
  have h' : s.applied ++ ((s.card k).added m).map
      (fun p : OpId × Amount => Applied.card k p.1 p.2) = s.applied ++ [x] := h
  obtain ⟨p, hp, hx⟩ := List.map_eq_singleton_iff.mp (List.append_cancel_left h')
  exact ⟨p, by simp [hp], hx.symm⟩

@[simp] theorem accountStep_account (s : ActorDb) (a : AccountId) (m : AccountMsg)
    (rest : List AccountMsg) :
    (s.accountStep a m rest).account = Function.update s.account a ((s.account a).handle m).1 :=
  rfl

@[simp] theorem cardStep_card (s : ActorDb) (k : CardKey) (m : CardMsg) (rest : List CardMsg) :
    (s.cardStep k m rest).card = Function.update s.card k ((s.card k).handle m).1 :=
  rfl

/-- The commands of a state are a prefix of those of any later one. -/
theorem step_commands {s s' : ActorDb} {l : Label} (h : s.step l = some s') :
    s.commands <+: s'.commands := by
  obtain ⟨n, o, rfl, rfl⟩ | ⟨m, rest, rfl, -, -, rfl⟩ | ⟨a, m, rest, rfl, -, rfl⟩ |
    ⟨k, m, rest, rfl, -, rfl⟩ := step_cases h
  · exact List.prefix_append _ _
  · exact List.prefix_refl _
  · exact List.prefix_refl _
  · exact List.prefix_refl _

end ActorDb

theorem run_commands {s s' : ActorDb} {ls : List Label} (hr : run ActorDb.step s ls = some s') :
    s.commands <+: s'.commands :=
  run_induct (P := fun t => s.commands <+: t.commands)
    (fun _ _ _ hi h => hi.trans (ActorDb.step_commands h)) hr (List.prefix_refl _)

end YpfRuta.Actors
