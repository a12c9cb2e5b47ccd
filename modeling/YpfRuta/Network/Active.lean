/-
  The map of active handlers (`common/src/network/active_helpers.rs`) and what
  `Connection` and its accept loop do to it.

  A handler's task is `τ` here; all that matters of it is whether it still takes a
  message. Stamps come from a clock, and nothing below depends on its readings.
-/
import YpfRuta.Lib.Lru
import YpfRuta.Lib.Transition
import YpfRuta.Network.Deserialization

namespace YpfRuta.Network

open Lib

variable {τ : Type}

/-- The owner's side of a handler. -/
structure Handler (τ : Type) where
  task : τ
  address : SocketAddr
  lastUsed : Nat
  deriving DecidableEq

abbrev Active (τ : Type) := Lru.Cache SocketAddr (Handler τ)

/-- The order in which an iteration visits the map. -/
abbrev Iteration (τ : Type) := List (Lru.Entry SocketAddr (Handler τ))

/-- The map without its least recently used handler, and that handler. -/
def removeLastRecentlyUsed (active : Active τ) (iter : Iteration τ) :
    Active τ × Option (Handler τ) :=
  match iter.argmin fun e => e.2.lastUsed with
  | some e => (active.erase e.1, active.lookup e.1)
  | none => (active, none)

/-- Insert `handler`. The one it has to make room for is stopped, which leaves no trace in
    the map. -/
def addHandlerFrom (active : Active τ) (iter : Iteration τ) (handler : Handler τ)
    (maxConns : Nat) : Active τ :=
  let active :=
    if active.keys.length ≥ maxConns then (removeLastRecentlyUsed active iter).1 else active
  active.insert handler.address handler

structure Connection (τ : Type) where
  active : Active τ
  maxConns : Nat
  connected : Bool

namespace Connection

def start (maxConns : Nat) : Connection τ where
  active := ∅
  maxConns := maxConns
  connected := true

/-- The arguments of a `send` that the caller does not choose: the order of the map, how
    `Handler::start` ends, the clock when the handler is created and when it is used, and
    whether its task takes the message. -/
structure Sending (τ : Type) where
  iter : Iteration τ
  dialed : Except AppError τ
  created : Nat
  used : Nat
  takes : Bool

/-- The handler `send` works with: the entry for `address`, or a new one. -/
def reach (self : Connection τ) (address : SocketAddr) (w : Sending τ) :
    Except AppError (Active τ) :=
  if address ∈ self.active then .ok self.active
  else w.dialed.map fun task =>
    addHandlerFrom self.active w.iter ⟨task, address, w.created⟩ self.maxConns

/-- `Connection::send`. The `unwrap` of the entry is a panic. -/
def send (self : Connection τ) (address : SocketAddr) (w : Sending τ) :
    Dsr Unit × Connection τ :=
  if self.connected = false then (.error (.error .connectionLost), self)
  else
    match self.reach address w with
    | .error e => (.error (.error e), self)
    | .ok active =>
      match active.lookup address with
      | none => (.error .panic, { self with active := active })
      | some handler =>
        let handler := { handler with lastUsed := w.used }
        if w.takes then (.ok (), { self with active := active.insert address handler })
        else
          (.error (.error (.connectionLostWith handler.address)),
            { self with active := active.erase address })

/-- One round of the accept loop. A handshake that cannot be read changes nothing. -/
def accept (self : Connection τ) (iter : Iteration τ) (started : Except AppError (Handler τ)) :
    Connection τ :=
  match started with
  | .error _ => self
  | .ok handler => { self with active := addHandlerFrom self.active iter handler self.maxConns }

end Connection

/-! ## Runs -/

namespace Connection

inductive Op (τ : Type) where
  | accept (iter : Iteration τ) (started : Except AppError (Handler τ))
  | send (address : SocketAddr) (w : Sending τ)

/-- The order of the map during the operation. -/
def Op.iter : Op τ → Iteration τ
  | .accept iter _ => iter
  | .send _ w => w.iter

/-- The key the operation is about. -/
def Op.address? : Op τ → Option SocketAddr
  | .accept _ started => started.toOption.map Handler.address
  | .send address _ => some address

/-- One operation. Its iteration visits every entry once. -/
def step [DecidableEq τ] (self : Connection τ) (op : Op τ) : Option (Connection τ) :=
  if op.iter.Perm self.active.entries then
    match op with
    | .accept iter started => some (self.accept iter started)
    | .send address w => some (self.send address w).2
  else none

/-- The map is bounded, and every handler is stored under its own address. -/
structure Keeps (c : Connection τ) : Prop where
  bounded : c.active.keys.length ≤ max 1 c.maxConns
  keyed : ∀ a handler, c.active.lookup a = some handler → handler.address = a

variable {self self' : Connection τ} {iter : Iteration τ} {address : SocketAddr}
  {w : Sending τ} {handler : Handler τ}

/-- `add_handler_from` is the bounded map of `Lru`. -/
theorem addHandlerFrom_eq (active : Active τ) (iter : Iteration τ) (handler : Handler τ)
    (maxConns : Nat) :
    addHandlerFrom active iter handler maxConns =
      Lru.put Handler.lastUsed maxConns active iter handler.address handler := by
  have hremove : (removeLastRecentlyUsed active iter).1 =
      Lru.evict Handler.lastUsed active iter := by
    unfold removeLastRecentlyUsed Lru.evict
    cases iter.argmin fun e => e.2.lastUsed <;> rfl
  unfold addHandlerFrom Lru.put
  rw [hremove]

/-- What an operation about `a` may do to the map. -/
structure Updates (c c' : Connection τ) (a : SocketAddr) : Prop where
  maxConns : c'.maxConns = c.maxConns
  keeps : c.Keeps → c'.Keeps
  replaces : Lru.Replaces Handler.lastUsed c.active c'.active a

theorem Updates.refl (c : Connection τ) (a : SocketAddr) : Updates c c a where
  maxConns := rfl
  keeps h := h
  replaces := .refl c.active a

/-- A handler is added. -/
theorem updates_add (ho : iter.Perm self.active.entries) (handler : Handler τ) :
    Updates self
      { self with active := addHandlerFrom self.active iter handler self.maxConns }
      handler.address where
  maxConns := rfl
  keeps h := by
    rw [addHandlerFrom_eq]
    refine ⟨Lru.length_put_le ho h.bounded, fun a handler' hlook => ?_⟩
    by_cases ha : a = handler.address
    · subst ha
      obtain rfl := Option.some.inj (Lru.lookup_put.symm.trans hlook)
      rfl
    · have hold : self.active.lookup a = some handler' := by
        by_contra hne
        have hgone := (Lru.replaces_put ho).others a ha (fun he => hne (he.symm.trans hlook))
        cases hgone.1.symm.trans hlook
      exact h.keyed a handler' hold
  replaces := by
    rw [addHandlerFrom_eq]
    exact Lru.replaces_put ho

/-- **The entry `send` unwraps is there**, and it is the one of its address. -/
theorem reach_cases (self : Connection τ) (address : SocketAddr) (w : Sending τ) :
    (address ∈ self.active ∧ self.reach address w = .ok self.active) ∨
      (address ∉ self.active ∧
        ((∃ e, w.dialed = .error e ∧ self.reach address w = .error e) ∨
          ∃ task, w.dialed = .ok task ∧ self.reach address w =
            .ok (addHandlerFrom self.active w.iter ⟨task, address, w.created⟩ self.maxConns))) := by
  unfold reach
  by_cases hmem : address ∈ self.active
  · exact .inl ⟨hmem, if_pos hmem⟩
  · rw [if_neg hmem]
    cases hd : w.dialed with
    | error e => exact .inr ⟨hmem, .inl ⟨e, rfl, rfl⟩⟩
    | ok task => exact .inr ⟨hmem, .inr ⟨task, rfl, rfl⟩⟩

theorem reach_ok {active : Active τ} (ho : w.iter.Perm self.active.entries)
    (h : self.reach address w = .ok active) :
    Updates self { self with active := active } address ∧ address ∈ active := by
  rcases self.reach_cases address w with ⟨hmem, heq⟩ | ⟨-, ⟨e, -, heq⟩ | ⟨task, -, heq⟩⟩
  · obtain rfl := Except.ok.inj (heq.symm.trans h)
    exact ⟨.refl self address, hmem⟩
  · cases heq.symm.trans h
  · obtain rfl := Except.ok.inj (heq.symm.trans h)
    refine ⟨updates_add ho ⟨task, address, w.created⟩, ?_⟩
    rw [addHandlerFrom_eq]
    exact AList.lookup_isSome.mp (by rw [Lru.lookup_put]; rfl)

/-- **What `send` does**: it never panics, and it touches its own entry and at most one
    other. -/
theorem send_updates (ho : w.iter.Perm self.active.entries) :
    Updates self (self.send address w).2 address ∧
      (self.send address w).1 ≠ .error .panic := by
  unfold send
  split
  · exact ⟨.refl self address, fun h => by cases h⟩
  cases hreach : self.reach address w with
  | error e => exact ⟨.refl self address, fun h => by cases h⟩
  | ok active =>
    obtain ⟨hup, hmem⟩ := reach_ok ho hreach
    obtain ⟨handler, hlook⟩ := Option.isSome_iff_exists.mp (AList.lookup_isSome.mpr hmem)
    simp only [hlook]
    split
    · refine ⟨⟨hup.maxConns, fun h => ?_, ?_⟩, fun h => by cases h⟩
      · have hkeeps := hup.keeps h
        refine ⟨?_, fun a handler' hlook' => ?_⟩
        · rw [Lru.length_insert_of_mem hmem]
          exact hkeeps.bounded
        · by_cases ha : a = address
          · subst ha
            obtain rfl := Option.some.inj ((AList.lookup_insert _).symm.trans hlook')
            exact hkeeps.keyed a handler hlook
          · exact hkeeps.keyed a handler' ((AList.lookup_insert_ne ha).symm.trans hlook')
      · exact hup.replaces.congr fun a ha => AList.lookup_insert_ne ha
    · refine ⟨⟨hup.maxConns, fun h => ?_, ?_⟩, fun h => by cases h⟩
      · have hkeeps := hup.keeps h
        refine ⟨?_, fun a handler' hlook' => ?_⟩
        · have hlen := Lru.length_erase hmem
          have hbounded := hkeeps.bounded
          dsimp only at hbounded ⊢
          omega
        · by_cases ha : a = address
          · subst ha
            cases (AList.lookup_erase _ _).symm.trans hlook'
          · exact hkeeps.keyed a handler' ((AList.lookup_erase_ne ha).symm.trans hlook')
      · exact hup.replaces.congr fun a ha => AList.lookup_erase_ne ha

theorem accept_updates (started : Except AppError (Handler τ))
    (ho : iter.Perm self.active.entries) :
    (∃ e, started = .error e ∧ self.accept iter started = self) ∨
      ∃ handler, started = .ok handler ∧
        Updates self (self.accept iter started) handler.address := by
  cases started with
  | error e => exact .inl ⟨e, rfl, rfl⟩
  | ok handler => exact .inr ⟨handler, rfl, updates_add ho handler⟩

variable [DecidableEq τ] {op : Op τ}

theorem step_cases (hs : self.step op = some self') :
    (op.address? = none ∧ self' = self) ∨
      ∃ a, op.address? = some a ∧ Updates self self' a := by
  unfold step at hs
  split at hs
  · rename_i ho
    cases op with
    | accept iter started =>
      obtain rfl := Option.some.inj hs
      rcases accept_updates started ho with ⟨e, rfl, heq⟩ | ⟨handler, rfl, hup⟩
      · exact .inl ⟨rfl, heq⟩
      · exact .inr ⟨handler.address, rfl, hup⟩
    | send address w =>
      obtain rfl := Option.some.inj hs
      exact .inr ⟨address, rfl, (send_updates ho).1⟩
  · cases hs

/-- What the map of active handlers is for. -/
structure BoundedLru (maxConns : Nat) (c : Connection τ) : Prop where
  bounded : c.active.keys.length ≤ max 1 maxConns
  keyed : ∀ a handler, c.active.lookup a = some handler → handler.address = a
  unwraps : ∀ address w, w.iter.Perm c.active.entries →
    (c.send address w).1 ≠ .error .panic
  evicts : ∀ op c', c.step op = some c' → ∀ a, op.address? = some a →
    Lru.Replaces Handler.lastUsed c.active c'.active a

/-- Over every sequence of operations, **the active map is a bounded LRU cache**. -/
theorem active_lru {maxConns : Nat} {ops : List (Op τ)} {c : Connection τ}
    (hr : run step (start maxConns) ops = some c) : c.BoundedLru maxConns := by
  have hinv : c.maxConns = maxConns ∧ c.Keeps := by
    refine run_induct (P := fun c : Connection τ => c.maxConns = maxConns ∧ c.Keeps) ?_ hr ?_
    · rintro c op c' ⟨hmax, hkeeps⟩ hs
      rcases step_cases hs with ⟨-, rfl⟩ | ⟨a, -, hup⟩
      · exact ⟨hmax, hkeeps⟩
      · exact ⟨hup.maxConns.trans hmax, hup.keeps hkeeps⟩
    · exact ⟨rfl, Nat.zero_le _, fun a handler hlook => by cases hlook⟩
  refine ⟨hinv.1 ▸ hinv.2.bounded, hinv.2.keyed, fun address w ho => (send_updates ho).2, ?_⟩
  intro op c' hs a ha
  rcases step_cases hs with ⟨hnone, -⟩ | ⟨b, hb, hup⟩
  · cases hnone.symm.trans ha
  · obtain rfl := Option.some.inj (hb.symm.trans ha)
    exact hup.replaces

/-- With room for two, peers 1 and 2 are written to, then 1 again, and then 3. -/
def threePeers : List (Op Unit) :=
  [.send (.v4 0 1) ⟨[], .ok (), 1, 2, true⟩,
    .send (.v4 0 2) ⟨[⟨.v4 0 1, (), .v4 0 1, 2⟩], .ok (), 3, 4, true⟩,
    .send (.v4 0 1) ⟨[⟨.v4 0 2, (), .v4 0 2, 4⟩, ⟨.v4 0 1, (), .v4 0 1, 2⟩], .ok (), 5, 6, true⟩,
    .send (.v4 0 3) ⟨[⟨.v4 0 2, (), .v4 0 2, 4⟩, ⟨.v4 0 1, (), .v4 0 1, 6⟩], .ok (), 7, 8, true⟩]

/-- Peer 2 was used least recently, and makes room. -/
theorem active_lru_example :
    ∃ c, run step (start 2) threePeers = some c ∧ c.active.keys = [.v4 0 3, .v4 0 1] ∧
      c.BoundedLru 2 := by
  have hrun : (run step (start 2) threePeers).any (fun c =>
      decide (c.active.keys = [.v4 0 3, .v4 0 1])) = true := by
    decide +kernel
  obtain ⟨c, hc, hp⟩ := (Option.any_eq_true _ _).mp hrun
  exact ⟨c, hc, of_decide_eq_true hp, active_lru hc⟩

end Connection

end YpfRuta.Network
