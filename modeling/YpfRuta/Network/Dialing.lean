/-
  Two nodes that open connections to each other (`connection.rs`, `acceptor.rs`,
  `active_helpers.rs` and the handler's owner side in `handler/handler.rs`).

  Each node has one mutex around its `active` map, which `send` holds while it dials and
  the accept loop while it reads a handshake, and one entry in that map for the other
  node. The network is reliable and both nodes live: a dial succeeds, frames arrive whole
  and in order, heartbeats are answered in time. Channels are unbounded, and the bound on
  connections is not reached.
-/
import Mathlib.Logic.Function.Basic
import YpfRuta.Lib.Transition

namespace YpfRuta.Network.Dialing

open Lib

variable {μ : Type}

/-- The two nodes. -/
inductive Side where
  | left
  | right
  deriving DecidableEq, Repr

def Side.peer : Side → Side
  | .left => .right
  | .right => .left

/-- What a handler passes upstream: a message, or `ConnectionLostWith` the peer. -/
inductive Notice (μ : Type) where
  | message (msg : μ)
  | connectionLost
  deriving DecidableEq, Repr

/-- A handler. `queue` are the messages accepted for it that it has not written, and a
    `dropped` handler is one whose task has been told to abort and may still run. -/
structure Handler (μ : Type) where
  stream : Nat
  queue : List μ
  running : Bool
  dropped : Bool
  deriving DecidableEq

/-- A TCP stream. `data x` is what is under way to node `x`, and `closed x` that `x` has
    dropped its end. -/
structure Stream (μ : Type) where
  greeted : Bool
  data : Side → List μ
  closed : Side → Bool

/-- Who holds the mutex of `active`. -/
inductive Lock (μ : Type) where
  | free
  | dialing (stream : Nat) (msg : μ)
  | accepting (stream : Nat)
  deriving DecidableEq

/-- A node. `active` is its entry for the other node, `handlers` all it ever created.
    `backlog` are the streams the listener holds, `accepted` the one the accept loop has
    taken and not registered. `inbox` is what its handlers passed upstream, and `sent` the
    messages `send` returned `Ok` for. -/
structure Node (μ : Type) where
  lock : Lock μ
  active : Option Nat
  handlers : List (Handler μ)
  backlog : List Nat
  accepted : Option Nat
  inbox : List (Notice μ)
  sent : List μ

structure State (μ : Type) where
  node : Side → Node μ
  streams : List (Stream μ)

inductive Label (μ : Type) where
  /-- `send` finds no entry and connects. -/
  | dial (x : Side) (msg : μ)
  /-- The dialer writes its handshake. -/
  | greet (x : Side)
  /-- The dialer registers its handler and queues its message. -/
  | register (x : Side)
  /-- `send` finds an entry. -/
  | send (x : Side) (msg : μ)
  /-- The accept loop takes a stream off the listener. -/
  | accept (x : Side)
  /-- The accept loop gets the mutex. -/
  | lock (x : Side)
  /-- The accept loop reads the handshake and registers a handler. -/
  | welcome (x : Side)
  /-- Handler `i` writes the next message of its queue. -/
  | write (x : Side) (i : Nat)
  /-- Handler `i` reads the next message and passes it upstream. -/
  | read (x : Side) (i : Nat)
  /-- The task of a dropped handler ends. -/
  | abort (x : Side) (i : Nat)
  /-- Handler `i` finds its stream closed by the peer, reports it and ends. -/
  | lose (x : Side) (i : Nat)
  deriving DecidableEq

/-- Drop a handler. -/
def Handler.drop (h : Handler μ) : Handler μ := { h with dropped := true }

/-- `add_handler_from`: the new handler takes the entry, and the one it replaces is dropped. -/
def Node.addHandler (n : Node μ) (stream : Nat) : Node μ :=
  { n with
    active := some n.handlers.length
    handlers := (match n.active with
      | some i => n.handlers.modify i Handler.drop
      | none => n.handlers) ++ [⟨stream, [], true, false⟩] }

/-- Queue a message on the entry. A handler that has ended refuses it and is removed. -/
def Node.push (n : Node μ) (msg : μ) : Option (Node μ) :=
  n.active.bind fun i => (n.handlers[i]?).map fun h =>
    if h.running then
      { n with
        handlers := n.handlers.set i { h with queue := h.queue ++ [msg] }
        sent := n.sent ++ [msg] }
    else { n with active := none }

namespace State

def init : State μ where
  node _ := ⟨.free, none, [], [], none, [], []⟩
  streams := []

def setNode (s : State μ) (x : Side) (n : Node μ) : State μ :=
  { s with node := Function.update s.node x n }

def setStream (s : State μ) (k : Nat) (st : Stream μ) : State μ :=
  { s with streams := s.streams.set k st }

/-- Handler `i` of node `x`, while its task runs, with its stream. -/
def task (s : State μ) (x : Side) (i : Nat) : Option (Handler μ × Stream μ) :=
  ((s.node x).handlers[i]?).bind fun h =>
    if h.running then (s.streams[h.stream]?).map fun st => (h, st) else none

/-- The task of handler `i` ends, and with it its end of the stream. -/
def finish (s : State μ) (x : Side) (i : Nat) (h : Handler μ) (st : Stream μ)
    (notices : List (Notice μ)) : State μ :=
  (s.setNode x { s.node x with
    handlers := (s.node x).handlers.set i { h with running := false }
    inbox := (s.node x).inbox ++ notices }).setStream h.stream
      { st with closed := Function.update st.closed x true }

def step (s : State μ) : Label μ → Option (State μ)
  | .dial x msg =>
    match (s.node x).lock, (s.node x).active with
    | .free, none =>
      some { (s.setNode x { s.node x with lock := .dialing s.streams.length msg }).setNode x.peer
          { s.node x.peer with backlog := (s.node x.peer).backlog ++ [s.streams.length] } with
        streams := s.streams ++ [⟨false, fun _ => [], fun _ => false⟩] }
    | _, _ => none
  | .greet x =>
    match (s.node x).lock with
    | .dialing k _ => (s.streams[k]?).bind fun st =>
      if st.greeted then none else some (s.setStream k { st with greeted := true })
    | _ => none
  | .register x =>
    match (s.node x).lock with
    | .dialing k msg => (s.streams[k]?).bind fun st =>
      if st.greeted then
        (({ s.node x with lock := .free }.addHandler k).push msg).map fun n => s.setNode x n
      else none
    | _ => none
  | .send x msg =>
    match (s.node x).lock with
    | .free => ((s.node x).push msg).map fun n => s.setNode x n
    | _ => none
  | .accept x =>
    match (s.node x).accepted, (s.node x).backlog with
    | none, k :: rest => some (s.setNode x { s.node x with backlog := rest, accepted := some k })
    | _, _ => none
  | .lock x =>
    match (s.node x).lock, (s.node x).accepted with
    | .free, some k => some (s.setNode x { s.node x with lock := .accepting k })
    | _, _ => none
  | .welcome x =>
    match (s.node x).lock with
    | .accepting k => (s.streams[k]?).bind fun st =>
      if st.greeted then
        some (s.setNode x ({ s.node x with lock := .free, accepted := none }.addHandler k))
      else none
    | _ => none
  | .write x i => (s.task x i).bind fun t =>
    match t.1.queue with
    | msg :: rest =>
      let s := s.setNode x { s.node x with
        handlers := (s.node x).handlers.set i { t.1 with queue := rest } }
      -- what is written to a closed stream is gone
      if t.2.closed x.peer then some s
      else some (s.setStream t.1.stream { t.2 with
        data := Function.update t.2.data x.peer (t.2.data x.peer ++ [msg]) })
    | [] => none
  | .read x i => (s.task x i).bind fun t =>
    match t.2.data x with
    | msg :: rest =>
      some ((s.setNode x { s.node x with
        inbox := (s.node x).inbox ++ [.message msg] }).setStream t.1.stream { t.2 with
          data := Function.update t.2.data x rest })
    | [] => none
  | .abort x i => (s.task x i).bind fun t =>
    if t.1.dropped then some (s.finish x i t.1 t.2 []) else none
  | .lose x i => (s.task x i).bind fun t =>
    if t.2.closed x.peer then some (s.finish x i t.1 t.2 [.connectionLost]) else none

/-- Nothing is left to do, short of sending more messages. -/
structure Quiescent (s : State μ) : Prop where
  lock : ∀ x, (s.node x).lock = .free
  backlog : ∀ x, (s.node x).backlog = []
  accepted : ∀ x, (s.node x).accepted = none
  tasks : ∀ x i t, s.task x i = some t →
    t.1.queue = [] ∧ t.1.dropped = false ∧ t.2.data x = [] ∧ t.2.closed x.peer = false

/-- The nodes share an open stream that both entries use. -/
def Connected (s : State μ) : Prop :=
  ∃ k st, s.streams[k]? = some st ∧ (∀ x, st.closed x = false) ∧
    ∀ x, ∃ i h, (s.node x).active = some i ∧ (s.node x).handlers[i]? = some h ∧
      h.stream = k ∧ h.running = true ∧ h.dropped = false

/-- Every message accepted by `send` is delivered, in order, and no loss is reported. -/
def Delivered (s : State μ) : Prop :=
  ∀ x, (s.node x.peer).inbox = (s.node x).sent.map .message

/-- A node dials after one of the two has dialed already. -/
def Clashes (s : State μ) : Label μ → Bool
  | .dial _ _ => !s.streams.isEmpty
  | _ => false

end State

/-! ## One dial -/

@[simp] theorem Side.peer_peer (x : Side) : x.peer.peer = x := by cases x <;> rfl

theorem Side.peer_ne (x : Side) : x.peer ≠ x := by cases x <;> decide

theorem Side.eq_or_peer (x y : Side) : y = x ∨ y = x.peer := by
  cases x <;> cases y <;> decide

/-- The messages a node has accepted and not written. -/
def Node.queued (n : Node μ) : List μ := n.handlers.flatMap Handler.queue

/-- A node that has registered the one stream. -/
structure Node.Joined (n : Node μ) : Prop where
  lock : n.lock = .free
  active : n.active = some 0
  handlers : ∃ q, n.handlers = [⟨0, q, true, false⟩]
  backlog : n.backlog = []
  accepted : n.accepted = none

/-- How far a node is with the one stream. -/
inductive Stage (dials : Bool) (n : Node μ) (st : Stream μ) : Prop where
  | dialing (msg : μ) (hd : dials = true) (lock : n.lock = .dialing 0 msg) (active : n.active = none)
      (handlers : n.handlers = []) (backlog : n.backlog = []) (accepted : n.accepted = none)
  | offered (hd : dials = false) (lock : n.lock = .free) (active : n.active = none)
      (handlers : n.handlers = []) (backlog : n.backlog = [0]) (accepted : n.accepted = none)
  | taken (hd : dials = false) (lock : n.lock = .free) (active : n.active = none)
      (handlers : n.handlers = []) (backlog : n.backlog = []) (accepted : n.accepted = some 0)
  | accepting (hd : dials = false) (lock : n.lock = .accepting 0) (active : n.active = none)
      (handlers : n.handlers = []) (backlog : n.backlog = []) (accepted : n.accepted = some 0)
  | joined (greeted : st.greeted = true) (hj : n.Joined)

/-- The one stream, open at both ends, and where each accepted message is. -/
structure OneStream (s : State μ) (x : Side) (st : Stream μ) : Prop where
  streams : s.streams = [st]
  opened : ∀ y, st.closed y = false
  stage : ∀ y, Stage (decide (y = x)) (s.node y) st
  accounts : ∀ y, (s.node y.peer).inbox ++
    (st.data y.peer ++ (s.node y).queued).map .message = (s.node y).sent.map .message

/-- No stream yet, or one. -/
inductive Inv (s : State μ) : Prop where
  | idle (hs : s.streams = []) (hn : ∀ x, s.node x = ⟨.free, none, [], [], none, [], []⟩)
  | one (x : Side) (st : Stream μ) (h : OneStream s x st)

variable {s s' : State μ} {x y : Side} {st st' : Stream μ} {n : Node μ}

theorem Stage.greet {d : Bool} (h : Stage d n st) (hg : st.greeted = true → st'.greeted = true) :
    Stage d n st' := by
  cases h with
  | dialing msg hd lock active handlers backlog accepted =>
    exact .dialing msg hd lock active handlers backlog accepted
  | offered hd lock active handlers backlog accepted =>
    exact .offered hd lock active handlers backlog accepted
  | taken hd lock active handlers backlog accepted =>
    exact .taken hd lock active handlers backlog accepted
  | accepting hd lock active handlers backlog accepted =>
    exact .accepting hd lock active handlers backlog accepted
  | joined greeted hj => exact .joined (hg greeted) hj

/-- One node acts, on its side of the stream. -/
theorem OneStream.act (h : OneStream s x st) (hs : s'.streams = [st'])
    (hn : s'.node = Function.update s.node y n) (hg : st.greeted = true → st'.greeted = true)
    (hc : st'.closed = st.closed) (hstage : Stage (decide (y = x)) n st')
    (hout : (s.node y.peer).inbox ++ (st'.data y.peer ++ n.queued).map .message =
      n.sent.map .message)
    (hin : n.inbox ++ (st'.data y ++ (s.node y.peer).queued).map .message =
      (s.node y.peer).sent.map .message) :
    OneStream s' x st' := by
  have hself : s'.node y = n := by rw [hn, Function.update_self]
  have hother : s'.node y.peer = s.node y.peer := by
    rw [hn, Function.update_of_ne y.peer_ne]
  refine ⟨hs, fun z => by rw [hc, h.opened z], fun z => ?_, fun z => ?_⟩
  · obtain rfl | rfl := Side.eq_or_peer y z
    · rw [hself]
      exact hstage
    · rw [hother]
      exact (h.stage y.peer).greet hg
  · obtain rfl | rfl := Side.eq_or_peer y z
    · rw [hself, hother]
      exact hout
    · rw [Side.peer_peer, hself, hother]
      exact hin

/-- The account of what the peer has sent, as long as this node reads nothing. -/
theorem OneStream.unread (h : OneStream s x st) (hi : n.inbox = (s.node y).inbox)
    (hd : st'.data y = st.data y) :
    n.inbox ++ (st'.data y ++ (s.node y.peer).queued).map .message =
      (s.node y.peer).sent.map .message := by
  have hacc := h.accounts y.peer
  rw [Side.peer_peer] at hacc
  rw [hi, hd, hacc]

/-- The account of what this node has sent, as long as it sends nothing. -/
theorem OneStream.unsent (h : OneStream s x st) (hq : n.queued = (s.node y).queued)
    (hs : n.sent = (s.node y).sent) (hd : st'.data y.peer = st.data y.peer) :
    (s.node y.peer).inbox ++ (st'.data y.peer ++ n.queued).map .message =
      n.sent.map .message := by
  rw [hq, hs, hd, h.accounts y]

/-- A step that changes only where a node is with the stream. -/
theorem OneStream.advance (h : OneStream s x st) (hs : s'.streams = [st'])
    (hn : s'.node = Function.update s.node y n) (hg : st.greeted = true → st'.greeted = true)
    (hc : st'.closed = st.closed) (hd : st'.data = st.data)
    (hstage : Stage (decide (y = x)) n st') (hi : n.inbox = (s.node y).inbox)
    (hq : n.queued = (s.node y).queued) (hsent : n.sent = (s.node y).sent) :
    OneStream s' x st' :=
  h.act hs hn hg hc hstage (h.unsent hq hsent (congrFun hd _)) (h.unread hi (congrFun hd _))

/-- The only task a node can run. -/
theorem OneStream.task_cases (h : OneStream s x st) {i : Nat} {p : Handler μ × Stream μ}
    (hp : s.task y i = some p) :
    i = 0 ∧ (s.node y).Joined ∧ st.greeted = true ∧
      ∃ q, (s.node y).handlers = [⟨0, q, true, false⟩] ∧ p = (⟨0, q, true, false⟩, st) := by
  have hnone : (s.node y).handlers = [] → False := by
    intro hempty
    simp [State.task, hempty] at hp
  cases h.stage y with
  | dialing msg hd lock active handlers => exact (hnone handlers).elim
  | offered hd lock active handlers => exact (hnone handlers).elim
  | taken hd lock active handlers => exact (hnone handlers).elim
  | accepting hd lock active handlers => exact (hnone handlers).elim
  | joined greeted hj =>
    obtain ⟨q, hq⟩ := hj.handlers
    cases i with
    | zero =>
      obtain rfl : (⟨0, q, true, false⟩, st) = p := by
        simpa [State.task, hq, h.streams] using hp
      exact ⟨rfl, hj, greeted, q, hq, rfl⟩
    | succ i => simp [State.task, hq] at hp

/-- A message is queued on the entry of a joined node. -/
theorem Node.Joined.push (hj : n.Joined) (msg : μ) :
    ∃ n', n.push msg = some n' ∧ n'.Joined ∧ n'.inbox = n.inbox ∧ n'.sent = n.sent ++ [msg] ∧
      n'.queued = n.queued ++ [msg] := by
  obtain ⟨q, hq⟩ := hj.handlers
  refine ⟨{ n with
    handlers := [⟨0, q ++ [msg], true, false⟩]
    sent := n.sent ++ [msg] }, ?_, ?_, rfl, rfl, ?_⟩
  · simp [Node.push, hj.active, hq]
  · exact ⟨hj.lock, hj.active, ⟨_, rfl⟩, hj.backlog, hj.accepted⟩
  · simp [Node.queued, hq]

/-- A node without handlers registers the stream. -/
theorem Node.addHandler_joined (hactive : n.active = none) (hhandlers : n.handlers = [])
    (hlock : n.lock = .free) (hbacklog : n.backlog = []) (haccepted : n.accepted = none) :
    (n.addHandler 0).Joined where
  lock := hlock
  active := by simp [Node.addHandler, hhandlers]
  handlers := ⟨[], by simp [Node.addHandler, hactive, hhandlers]⟩
  backlog := hbacklog
  accepted := haccepted

/-! ## Steps -/

theorem OneStream.greetStep (h : OneStream s x st) (hs : s.step (.greet y) = some s') :
    ∃ st', OneStream s' x st' := by
  simp only [State.step] at hs
  split at hs
  · rename_i k msg hlock
    cases h.stage y with
    | dialing msg' hd lock active handlers backlog accepted =>
      obtain ⟨rfl, rfl⟩ : 0 = k ∧ msg' = msg := by simpa [lock] using hlock
      rw [h.streams] at hs
      obtain ⟨st₀, hst, hs⟩ := Option.bind_eq_some_iff.mp hs
      obtain rfl := Option.some.inj hst
      split at hs
      · cases hs
      · obtain rfl := Option.some.inj hs
        refine ⟨{ st with greeted := true }, h.advance (y := y) (n := s.node y) ?_ ?_ (fun _ => rfl)
          rfl rfl ?_ rfl rfl rfl⟩
        · show s.streams.set 0 _ = _
          rw [h.streams]
          rfl
        · exact (Function.update_eq_self ..).symm
        · exact .dialing msg' hd lock active handlers backlog accepted
    | offered hd lock => rw [lock] at hlock; cases hlock
    | taken hd lock => rw [lock] at hlock; cases hlock
    | accepting hd lock => rw [lock] at hlock; cases hlock
    | joined greeted hj => rw [hj.lock] at hlock; cases hlock
  · cases hs

theorem OneStream.registerStep (h : OneStream s x st) (hs : s.step (.register y) = some s') :
    ∃ st', OneStream s' x st' := by
  simp only [State.step] at hs
  split at hs
  · rename_i k msg hlock
    cases h.stage y with
    | dialing msg' hd lock active handlers backlog accepted =>
      obtain ⟨rfl, rfl⟩ : 0 = k ∧ msg' = msg := by simpa [lock] using hlock
      rw [h.streams] at hs
      obtain ⟨st₀, hst, hs⟩ := Option.bind_eq_some_iff.mp hs
      obtain rfl := Option.some.inj hst
      split at hs
      · rename_i hgreeted
        have hjoined : ({ s.node y with lock := .free }.addHandler 0).Joined :=
          Node.addHandler_joined active handlers rfl backlog accepted
        obtain ⟨n', hpush, hj, hinbox, hsent, hqueued⟩ := hjoined.push msg'
        rw [hpush] at hs
        obtain rfl := Option.some.inj hs
        have hempty : ({ s.node y with lock := .free }.addHandler 0).queued = (s.node y).queued := by
          simp [Node.queued, Node.addHandler, active, handlers]
        rw [hempty] at hqueued
        refine ⟨st, h.act (y := y) (n := n') h.streams rfl id rfl (.joined hgreeted hj) ?_
          (h.unread hinbox rfl)⟩
        rw [hqueued, hsent, ← List.append_assoc, List.map_append, ← List.append_assoc,
          h.accounts y]
        exact List.map_append.symm
      · cases hs
    | offered hd lock => rw [lock] at hlock; cases hlock
    | taken hd lock => rw [lock] at hlock; cases hlock
    | accepting hd lock => rw [lock] at hlock; cases hlock
    | joined greeted hj => rw [hj.lock] at hlock; cases hlock
  · cases hs

theorem OneStream.sendStep (h : OneStream s x st) {msg : μ} (hs : s.step (.send y msg) = some s') :
    ∃ st', OneStream s' x st' := by
  simp only [State.step] at hs
  split at hs
  · have hunused : (s.node y).active = none → False := by
      intro hactive
      simp [Node.push, hactive] at hs
    cases h.stage y with
    | dialing msg' hd lock active => exact (hunused active).elim
    | offered hd lock active => exact (hunused active).elim
    | taken hd lock active => exact (hunused active).elim
    | accepting hd lock active => exact (hunused active).elim
    | joined greeted hj =>
      obtain ⟨n', hpush, hj', hinbox, hsent, hqueued⟩ := hj.push msg
      rw [hpush] at hs
      obtain rfl := Option.some.inj hs
      refine ⟨st, h.act (y := y) (n := n') h.streams rfl id rfl (.joined greeted hj') ?_
        (h.unread hinbox rfl)⟩
      rw [hqueued, hsent, ← List.append_assoc, List.map_append, ← List.append_assoc, h.accounts y]
      exact List.map_append.symm
  · cases hs

theorem OneStream.acceptStep (h : OneStream s x st) (hs : s.step (.accept y) = some s') :
    ∃ st', OneStream s' x st' := by
  simp only [State.step] at hs
  split at hs
  · rename_i k rest hnone hbacklog
    obtain rfl := Option.some.inj hs
    cases h.stage y with
    | offered hd lock active handlers backlog accepted =>
      obtain ⟨rfl, rfl⟩ : 0 = k ∧ [] = rest := by simpa [backlog] using hbacklog
      exact ⟨st, h.advance (y := y) h.streams rfl id rfl rfl
        (.taken hd lock active handlers rfl rfl) rfl rfl rfl⟩
    | dialing msg' hd lock active handlers backlog => rw [backlog] at hbacklog; cases hbacklog
    | taken hd lock active handlers backlog => rw [backlog] at hbacklog; cases hbacklog
    | accepting hd lock active handlers backlog => rw [backlog] at hbacklog; cases hbacklog
    | joined greeted hj => rw [hj.backlog] at hbacklog; cases hbacklog
  · cases hs

theorem OneStream.lockStep (h : OneStream s x st) (hs : s.step (.lock y) = some s') :
    ∃ st', OneStream s' x st' := by
  simp only [State.step] at hs
  split at hs
  · rename_i k hfree haccepted
    obtain rfl := Option.some.inj hs
    cases h.stage y with
    | taken hd lock active handlers backlog accepted =>
      obtain rfl : 0 = k := by simpa [accepted] using haccepted
      exact ⟨st, h.advance (y := y) h.streams rfl id rfl rfl
        (.accepting hd rfl active handlers backlog accepted) rfl rfl rfl⟩
    | dialing msg' hd lock => rw [lock] at hfree; cases hfree
    | offered hd lock active handlers backlog accepted => rw [accepted] at haccepted; cases haccepted
    | accepting hd lock => rw [lock] at hfree; cases hfree
    | joined greeted hj => rw [hj.accepted] at haccepted; cases haccepted
  · cases hs

theorem OneStream.welcomeStep (h : OneStream s x st) (hs : s.step (.welcome y) = some s') :
    ∃ st', OneStream s' x st' := by
  simp only [State.step] at hs
  split at hs
  · rename_i k hlock
    cases h.stage y with
    | accepting hd lock active handlers backlog accepted =>
      obtain rfl : 0 = k := by simpa [lock] using hlock
      rw [h.streams] at hs
      obtain ⟨st₀, hst, hs⟩ := Option.bind_eq_some_iff.mp hs
      obtain rfl := Option.some.inj hst
      split at hs
      · rename_i hgreeted
        obtain rfl := Option.some.inj hs
        have hjoined : ({ s.node y with lock := .free, accepted := none }.addHandler 0).Joined :=
          Node.addHandler_joined active handlers rfl backlog rfl
        refine ⟨st, h.advance (y := y) h.streams rfl id rfl rfl (.joined hgreeted hjoined) rfl ?_ rfl⟩
        simp [Node.queued, Node.addHandler, active, handlers]
      · cases hs
    | dialing msg' hd lock => rw [lock] at hlock; cases hlock
    | offered hd lock => rw [lock] at hlock; cases hlock
    | taken hd lock => rw [lock] at hlock; cases hlock
    | joined greeted hj => rw [hj.lock] at hlock; cases hlock
  · cases hs

theorem OneStream.writeStep (h : OneStream s x st) {i : Nat}
    (hs : s.step (.write y i) = some s') : ∃ st', OneStream s' x st' := by
  obtain ⟨p, hp, hs⟩ := Option.bind_eq_some_iff.mp hs
  obtain ⟨rfl, hj, hgreeted, q, hq, rfl⟩ := h.task_cases hp
  cases q with
  | nil => cases hs
  | cons msg rest =>
    simp only [h.opened, Bool.false_eq_true, if_false] at hs
    obtain rfl := Option.some.inj hs
    refine ⟨{ st with data := Function.update st.data y.peer (st.data y.peer ++ [msg]) },
      h.act (y := y) ?_ rfl id rfl (.joined hgreeted ?_) ?_ (h.unread rfl ?_)⟩
    · show s.streams.set 0 _ = _
      rw [h.streams]
      rfl
    · exact ⟨hj.lock, hj.active, ⟨rest, by simp [hq]⟩, hj.backlog, hj.accepted⟩
    · have hacc := h.accounts y
      simp only [Node.queued, hq, List.flatMap_singleton] at hacc
      simp only [Node.queued, hq, Function.update_self, List.set_cons_zero,
        List.flatMap_singleton, List.append_assoc, List.singleton_append]
      exact hacc
    · exact Function.update_of_ne (Ne.symm y.peer_ne) ..

theorem OneStream.readStep (h : OneStream s x st) {i : Nat} (hs : s.step (.read y i) = some s') :
    ∃ st', OneStream s' x st' := by
  obtain ⟨p, hp, hs⟩ := Option.bind_eq_some_iff.mp hs
  obtain ⟨rfl, hj, hgreeted, q, hq, rfl⟩ := h.task_cases hp
  dsimp only at hs
  split at hs
  · rename_i msg rest hdata
    obtain rfl := Option.some.inj hs
    refine ⟨{ st with data := Function.update st.data y rest },
      h.act (y := y) ?_ rfl id rfl (.joined hgreeted ?_) (h.unsent rfl rfl ?_) ?_⟩
    · show s.streams.set 0 _ = _
      rw [h.streams]
      rfl
    · exact ⟨hj.lock, hj.active, ⟨q, hq⟩, hj.backlog, hj.accepted⟩
    · exact Function.update_of_ne y.peer_ne ..
    · have hacc := h.accounts y.peer
      rw [Side.peer_peer, hdata] at hacc
      simp only [Function.update_self]
      rw [List.append_assoc]
      exact hacc
  · cases hs

/-- **A step** that does not clash keeps the one stream. -/
theorem OneStream.step {l : Label μ} (h : OneStream s x st) (hc : s.Clashes l = false)
    (hs : s.step l = some s') : ∃ st', OneStream s' x st' := by
  cases l with
  | dial y msg => simp [State.Clashes, h.streams] at hc
  | greet y => exact h.greetStep hs
  | register y => exact h.registerStep hs
  | send y msg => exact h.sendStep hs
  | accept y => exact h.acceptStep hs
  | lock y => exact h.lockStep hs
  | welcome y => exact h.welcomeStep hs
  | write y i => exact h.writeStep hs
  | read y i => exact h.readStep hs
  | abort y i =>
    obtain ⟨p, hp, hs⟩ := Option.bind_eq_some_iff.mp hs
    obtain ⟨rfl, -, -, q, -, rfl⟩ := h.task_cases hp
    cases hs
  | lose y i =>
    obtain ⟨p, hp, hs⟩ := Option.bind_eq_some_iff.mp hs
    obtain ⟨rfl, -, -, q, -, rfl⟩ := h.task_cases hp
    simp [h.opened] at hs

/-- The first dial opens the stream. -/
theorem Inv.dial (hs : s.streams = [])
    (hn : ∀ x, s.node x = ⟨.free, none, [], [], none, [], []⟩) {msg : μ}
    (h : s.step (.dial x msg) = some s') :
    OneStream s' x ⟨false, fun _ => [], fun _ => false⟩ := by
  simp only [State.step, hn, hs] at h
  obtain rfl := Option.some.inj h
  refine ⟨rfl, fun _ => rfl, fun y => ?_, fun y => ?_⟩
  · obtain rfl | rfl := Side.eq_or_peer x y
    · refine .dialing msg (by simp) ?_ ?_ ?_ ?_ ?_ <;>
        simp [State.setNode, Function.update_of_ne (Ne.symm y.peer_ne)]
    · refine .offered (by simp [x.peer_ne]) ?_ ?_ ?_ ?_ ?_ <;> simp [State.setNode]
  · cases x <;> cases y <;> simp [State.setNode, Side.peer, Node.queued]

/-- **A step** that does not clash. -/
theorem Inv.step {l : Label μ} (h : Inv s) (hc : s.Clashes l = false) (hs : s.step l = some s') :
    Inv s' := by
  cases h with
  | idle hstreams hn =>
    cases l with
    | dial y msg => exact .one y _ (Inv.dial hstreams hn hs)
    | _ => simp [State.step, State.task, Node.push, hn] at hs
  | one x st h =>
    obtain ⟨st', h'⟩ := h.step hc hs
    exact .one x st' h'

/-- **Both nodes end on one open stream**, with everything delivered and no loss reported,
    in a run in which the second node registers the first one's stream before it sends. -/
theorem dialing_connects {ls : List (Label μ)} (hr : run State.step State.init ls = some s)
    (hc : Meets State.step (fun t l => t.Clashes l = false) State.init ls) (hq : s.Quiescent)
    (hsent : ∃ x, (s.node x).sent ≠ []) : s.Connected ∧ s.Delivered := by
  have hinv := run_induct_meets (fun _ _ _ hi hc h => hi.step hc h) hr hc
    (Inv.idle rfl fun _ => rfl)
  cases hinv with
  | idle hstreams hn =>
    obtain ⟨x, hx⟩ := hsent
    exact absurd (by rw [hn x]) hx
  | one x st h =>
    have hjoined : ∀ y, (s.node y).Joined := by
      intro y
      cases h.stage y with
      | dialing msg hd lock =>
        have hfree := hq.lock y
        rw [lock] at hfree
        cases hfree
      | offered hd lock active handlers backlog =>
        have hnone := hq.backlog y
        rw [backlog] at hnone
        cases hnone
      | taken hd lock active handlers backlog accepted =>
        have hnone := hq.accepted y
        rw [accepted] at hnone
        cases hnone
      | accepting hd lock active handlers backlog accepted =>
        have hnone := hq.accepted y
        rw [accepted] at hnone
        cases hnone
      | joined greeted hj => exact hj
    have hidle : ∀ y, (s.node y).queued = [] ∧ st.data y = [] := by
      intro y
      obtain ⟨q, hhandlers⟩ := (hjoined y).handlers
      have htask : s.task y 0 = some (⟨0, q, true, false⟩, st) := by
        simp [State.task, hhandlers, h.streams]
      obtain ⟨hempty, -, hdata, -⟩ := hq.tasks y 0 _ htask
      refine ⟨?_, hdata⟩
      rw [Node.queued, hhandlers, List.flatMap_singleton]
      exact hempty
    refine ⟨⟨0, st, by rw [h.streams]; rfl, h.opened, fun y => ?_⟩, fun y => ?_⟩
    · obtain ⟨q, hhandlers⟩ := (hjoined y).handlers
      exact ⟨0, ⟨0, q, true, false⟩, (hjoined y).active, by rw [hhandlers]; rfl, rfl, rfl, rfl⟩
    · have hacc := h.accounts y
      rw [(hidle y).1, (hidle y.peer).2] at hacc
      rw [← hacc]
      exact (List.append_nil _).symm

/-! ## Runs of two nodes -/

/-- `Quiescent`, as a test of the handlers that exist. -/
def State.settled [DecidableEq μ] (s : State μ) : Bool :=
  [Side.left, Side.right].all fun x =>
    (s.node x).lock = .free && (s.node x).backlog.isEmpty && (s.node x).accepted.isNone &&
      (List.range (s.node x).handlers.length).all fun i => (s.task x i).all fun t =>
        t.1.queue.isEmpty && !t.1.dropped && (t.2.data x).isEmpty && !t.2.closed x.peer

theorem quiescent_of_settled [DecidableEq μ] (h : s.settled = true) : s.Quiescent := by
  have hside : ∀ x, x ∈ [Side.left, Side.right] := by
    intro x
    cases x <;> simp
  have hall := fun x => List.all_eq_true.mp h x (hside x)
  simp only [Bool.and_eq_true, decide_eq_true_eq, List.isEmpty_iff, Option.isNone_iff_eq_none]
    at hall
  refine ⟨fun x => (hall x).1.1.1, fun x => (hall x).1.1.2, fun x => (hall x).1.2, ?_⟩
  intro x i t ht
  have hi : i < (s.node x).handlers.length := by
    by_contra hge
    have hnone : (s.node x).handlers[i]? = none := List.getElem?_eq_none (by omega)
    simp [State.task, hnone] at ht
  have hone := List.all_eq_true.mp (hall x).2 i (List.mem_range.mpr hi)
  rw [ht] at hone
  simpa [and_assoc] using hone

/-- One node dials, and the other answers on the stream it registered. -/
theorem dialing_connects_example :
    ∃ s : State Nat, run State.step State.init
        [.dial .left 1, .greet .left, .accept .right, .register .left, .lock .right,
          .welcome .right, .send .right 2, .write .left 0, .write .right 0, .read .right 0,
          .read .left 0] = some s ∧
      (s.node .left).inbox = [.message 2] ∧ s.Connected ∧ s.Delivered := by
  have hrun : (run State.step (State.init (μ := Nat))
      [.dial .left 1, .greet .left, .accept .right, .register .left, .lock .right,
        .welcome .right, .send .right 2, .write .left 0, .write .right 0, .read .right 0,
        .read .left 0]).any (fun s => s.settled && decide ((s.node .left).sent = [1] ∧
          (s.node .left).inbox = [.message 2])) = true := by
    decide +kernel
  obtain ⟨s, hs, hp⟩ := (Option.any_eq_true _ _).mp hrun
  obtain ⟨hsettled, hp⟩ := Bool.and_eq_true_iff.mp hp
  obtain ⟨hsent, hinbox⟩ := of_decide_eq_true hp
  exact ⟨s, hs, hinbox, dialing_connects hs (by decide +kernel) (quiescent_of_settled hsettled)
    ⟨.left, by rw [hsent]; simp⟩⟩

/-- **Two dials can leave no connection.** Each node registers the other's stream over its
    own, which ends the task of its own; both streams are then closed at one end, both
    nodes report a loss, and neither message is delivered. -/
theorem dialing_not_connects :
    ¬ ∀ (ls : List (Label Nat)) (s : State Nat), run State.step State.init ls = some s →
      s.Quiescent → (∀ x, (s.node x).sent ≠ []) → s.Connected ∧ s.Delivered := by
  intro hall
  have hrun : (run State.step (State.init (μ := Nat))
      [.dial .left 1, .dial .right 2, .greet .left, .greet .right, .register .left,
        .register .right, .accept .left, .accept .right, .lock .left, .lock .right,
        .welcome .left, .welcome .right, .abort .left 0, .abort .right 0, .lose .left 1,
        .lose .right 1]).any (fun s => s.settled && decide ((s.node .left).sent = [1] ∧
          (s.node .right).sent = [2] ∧ (s.node .right).inbox = [.connectionLost] ∧
          (s.node .left).inbox = [.connectionLost])) = true := by
    decide +kernel
  obtain ⟨s, hs, hp⟩ := (Option.any_eq_true _ _).mp hrun
  obtain ⟨hsettled, hp⟩ := Bool.and_eq_true_iff.mp hp
  obtain ⟨hleft, hright, hinbox, -⟩ := of_decide_eq_true hp
  have hsent : ∀ x, (s.node x).sent ≠ [] := by
    intro x
    cases x
    · rw [hleft]
      simp
    · rw [hright]
      simp
  have hdelivered := (hall _ s hs (quiescent_of_settled hsettled) hsent).2 .left
  rw [hleft, show Side.peer .left = .right from rfl, hinbox] at hdelivered
  cases hdelivered

end YpfRuta.Network.Dialing
