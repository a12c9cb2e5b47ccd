/-
  The monad a node's handlers run in. A handler works on its own role state and
  on the connection, station and database handles of the node, and what it did to
  them stays done when it returns an error or panics.

  `outcomes` says how the next `Connection::send` calls end; once it is used up
  they succeed. The station never refuses a message: the main loop panics when
  its station is gone.
-/
import Mathlib.Data.List.AList
import YpfRuta.Common.Message

namespace YpfRuta.Server

/-- A hash map, in the order an iteration visits it. -/
abbrev HashMap (κ ν : Type) := AList fun _ : κ => ν

/-- Number of entries of a map. -/
def HashMap.len {κ ν : Type} (m : HashMap κ ν) : Nat := m.entries.length

/-- The values of a map, in iteration order. -/
def HashMap.values {κ ν : Type} (m : HashMap κ ν) : List ν := m.entries.map fun e => e.2

/-- How a handler ends when it does not return. -/
inductive Fault where
  | err (e : AppError)
  | panic (message : String)
  deriving DecidableEq, Repr

/-- A node's role state `self`, and what it reaches: the connection, the station
    and the database. `sent`, `told` and `commands` hold what was handed to them. -/
structure Task (α σ : Type) where
  self : σ
  connected : Bool
  outcomes : List (Option AppError)
  now : Nat
  sent : List (SocketAddr × Message α)
  told : List NodeToStationMsg
  commands : List (OpId × Operation α)
  deriving DecidableEq

abbrev Handler (α σ β : Type) := EStateM Fault (Task α σ) β

section Primitives

variable {α σ β : Type}

def getSelf : Handler α σ σ := do return (← get).self

def modifySelf (f : σ → σ) : Handler α σ Unit := modify fun t => { t with self := f t.self }

/-- `Instant::now()`, in milliseconds. -/
def instantNow : Handler α σ Nat := do return (← get).now

def panics (message : String) : Handler α σ β := throw (.panic message)

/-- `n + 1` on a `u32`: overflow panics. -/
def addOne (n : UInt32) : Handler α σ UInt32 :=
  if n.toNat + 1 < UInt32.size then return n + 1 else panics "attempt to add with overflow"

/-- `n - 1` on a `usize`: underflow panics. -/
def subOne (n : Nat) : Handler α σ Nat :=
  if n = 0 then panics "attempt to subtract with overflow" else return n - 1

/-- `Connection::send`. -/
def send (msg : Message α) (addr : SocketAddr) : Handler α σ Unit := do
  let t ← get
  if t.connected then
    match t.outcomes with
    | some e :: rest =>
      set { t with outcomes := rest }
      throw (.err e)
    | none :: rest => set { t with outcomes := rest, sent := t.sent ++ [(addr, msg)] }
    | [] => set { t with sent := t.sent ++ [(addr, msg)] }
  else throw (.err .connectionLost)

/-- `Connection::disconnect`. -/
def disconnect : Handler α σ Unit := modify fun t => { t with connected := false }

/-- `Connection::reconnect`, which listens on the node's address again. -/
def reconnect : Handler α σ Unit := do
  let t ← get
  match t.outcomes with
  | some e :: rest =>
    set { t with connected := true, outcomes := rest }
    throw (.err e)
  | none :: rest => set { t with connected := true, outcomes := rest }
  | [] => set { t with connected := true }

/-- `Station::send`. -/
def tell (msg : NodeToStationMsg) : Handler α σ Unit :=
  modify fun t => { t with told := t.told ++ [msg] }

/-- `Database::send(DatabaseCmd::Execute { .. })`. -/
def execute (opId : OpId) (operation : Operation α) : Handler α σ Unit :=
  modify fun t => { t with commands := t.commands ++ [(opId, operation)] }

/-- The error a fallible call returned, if any. A panic is not caught. -/
def errorOf (x : Handler α σ Unit) : Handler α σ (Option AppError) := fun t =>
  match x t with
  | .ok _ t' => .ok none t'
  | .error (.err e) t' => .ok (some e) t'
  | .error (.panic message) t' => .error (.panic message) t'

/-- `for x in xs { body(x)? }`. -/
def forEach {γ : Type} (body : γ → Handler α σ Unit) : List γ → Handler α σ Unit
  | [] => return ()
  | x :: xs => do
    body x
    forEach body xs

end Primitives

/-! ## Handlers whose sends succeed -/

section Reliable

variable {α σ β : Type} {t : Task α σ}

/-- The node is connected and all its sends succeed. -/
structure Task.Reliable (t : Task α σ) : Prop where
  connected : t.connected = true
  outcomes : t.outcomes = []

theorem bind_ok {γ : Type} {x : Handler α σ β} {f : β → Handler α σ γ} {b : β} {t' : Task α σ}
    (h : x t = .ok b t') : (x >>= f) t = f b t' := by
  show EStateM.bind x f t = f b t'
  rw [EStateM.bind, h]

theorem bind_error {γ : Type} {x : Handler α σ β} {f : β → Handler α σ γ} {e : Fault}
    {t' : Task α σ} (h : x t = .error e t') : (x >>= f) t = .error e t' := by
  show EStateM.bind x f t = .error e t'
  rw [EStateM.bind, h]

theorem send_ok (h : t.Reliable) (msg : Message α) (addr : SocketAddr) :
    send msg addr t = .ok () { t with sent := t.sent ++ [(addr, msg)] } := by
  unfold send
  rw [bind_ok (show (get : Handler α σ _) t = .ok t t from rfl), if_pos h.connected]
  rw [h.outcomes]
  rfl

theorem errorOf_send_ok (h : t.Reliable) (msg : Message α) (addr : SocketAddr) :
    errorOf (send msg addr) t = .ok none { t with sent := t.sent ++ [(addr, msg)] } := by
  rw [errorOf, send_ok h]

theorem Task.Reliable.sent (h : t.Reliable) (l : List (SocketAddr × Message α)) :
    ({ t with sent := l } : Task α σ).Reliable := ⟨h.connected, h.outcomes⟩

/-- A loop that sends one message to each address of a list that passes a test. -/
theorem forEach_send_ok {γ : Type} (h : t.Reliable) (skip : γ → Prop) [DecidablePred skip]
    (msg : Message α) (addr : γ → SocketAddr) (xs : List γ) :
    forEach (fun x => if skip x then pure () else send msg (addr x)) xs t =
      .ok () { t with
        sent := t.sent ++ (xs.filter fun x => ¬ skip x).map fun x => (addr x, msg) } := by
  induction xs generalizing t with
  | nil => simp [forEach, pure, EStateM.pure]
  | cons x xs ih =>
    unfold forEach
    by_cases hs : skip x
    · rw [if_pos hs, bind_ok (show (pure () : Handler α σ Unit) t = .ok () t from rfl), ih h]
      simp [hs]
    · rw [if_neg hs, bind_ok (send_ok h msg (addr x)), ih (h.sent _)]
      simp [hs]

end Reliable

end YpfRuta.Server
