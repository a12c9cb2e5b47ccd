/-
  What becomes of the messages `Connection::send` accepted: a handler's task writes them
  when it gets to, and a handler that leaves the active map is aborted.

  The peers live: a task is not stopped while its handler is in the map. Queues are
  unbounded.
-/
import YpfRuta.Network.Active
import YpfRuta.Network.HandlerLoop

namespace YpfRuta.Network.Eviction

open Lib

def decode (bytes : List UInt8) : Option (Message F32) := (deserializeMessage bytes).toOption

/-- A handler's task, with the messages `send` returned `Ok` for. -/
structure Peer where
  accepted : List (Message F32)
  loop : Loop (Message F32)

/-- The connection, whose handlers name their task by its place in `tasks`. -/
structure State where
  connection : Connection Nat
  tasks : List Peer

inductive Label where
  /-- `Connection::send`. A new stream will bring the bytes of `dialed`. -/
  | send (msg : Message F32) (address : SocketAddr) (iter : Iteration Nat)
      (dialed : Except AppError (List UInt8)) (created used : Nat)
  /-- A peer connects, whose stream will bring `bytes` after its handshake. -/
  | accept (address : SocketAddr) (bytes : List UInt8) (iter : Iteration Nat) (created : Nat)
  /-- Task `i` goes on. -/
  | task (i : Nat) (l : LoopStep)

def Peer.start (bytes : List UInt8) : Peer where
  accepted := []
  loop := .start bytes

/-- `messages_tx.send(msg)` returned `Ok`. -/
def Peer.push (p : Peer) (msg : Message F32) : Peer where
  accepted := p.accepted ++ [msg]
  loop := { p.loop with queue := p.loop.queue ++ [msg] }

namespace State

def start (maxConns : Nat) : State where
  connection := .start maxConns
  tasks := []

/-- The task `send` hands a message for `address`: the one of the entry, or a new one. -/
def target (s : State) (address : SocketAddr) : Nat :=
  match s.connection.active.lookup address with
  | some handler => handler.task
  | none => s.tasks.length

/-- The tasks there are once `send` has reached `address`. -/
def reached (s : State) (address : SocketAddr) (dialed : Except AppError (List UInt8)) :
    List Peer :=
  if address ∈ s.connection.active then s.tasks
  else
    match dialed with
    | .ok bytes => s.tasks ++ [.start bytes]
    | .error _ => s.tasks

/-- No handler of the map owns the task. -/
def Dropped (s : State) (i : Nat) : Prop :=
  ∀ e ∈ s.connection.active.entries, e.2.task ≠ i

instance (s : State) (i : Nat) : Decidable (s.Dropped i) :=
  List.decidableBAll _ _

/-- A step of one task. -/
def advance (s : State) (i : Nat) (l : LoopStep) : Option State :=
  (s.tasks[i]?).bind fun p => (p.loop.step decode l).map fun loop =>
    { s with tasks := s.tasks.set i { p with loop := loop } }

/-- `Connection::send`. -/
def send (s : State) (msg : Message F32) (address : SocketAddr) (iter : Iteration Nat)
    (dialed : Except AppError (List UInt8)) (created used : Nat) : State :=
  let i := s.target address
  let tasks := s.reached address dialed
  let takes := (tasks[i]?).any fun p => p.loop.running
  let (result, connection) := s.connection.send address
    ⟨iter, dialed.map fun _ => s.tasks.length, created, used, takes⟩
  { connection := connection
    tasks := if result = .ok () then tasks.modify i fun p => p.push msg else tasks }

/-- The accept loop registers a peer. -/
def accept (s : State) (address : SocketAddr) (bytes : List UInt8) (iter : Iteration Nat)
    (created : Nat) : State where
  connection := s.connection.accept iter (.ok ⟨s.tasks.length, address, created⟩)
  tasks := s.tasks ++ [.start bytes]

/-- Messages are queued by `send` alone, and a task is only stopped once it is dropped. -/
def task (s : State) (i : Nat) : LoopStep → Option State
  | .enqueue _ => none
  | .stop => if s.Dropped i then s.advance i .stop else none
  | l => s.advance i l

def step (s : State) : Label → Option State
  | .send msg address iter dialed created used =>
    if iter.Perm s.connection.active.entries then
      some (s.send msg address iter dialed created used)
    else none
  | .accept address bytes iter created =>
    if iter.Perm s.connection.active.entries then some (s.accept address bytes iter created)
    else none
  | .task i l => s.task i l

end State

/-- What is received leaves nothing behind of what the task still has to write: a heartbeat
    is not taken for the end of a message, and undecodable bytes find the queue drained. -/
def SparesRead (s : Loop (Message F32)) : Progress (Message F32) → Prop
  | .heartbeatRequest => s.writing = none
  | .heartbeatReply => s.writing = none
  | .undecodable => s.queue = [] ∧ s.writing = none
  | .pending _ => True

/-- The step leaves nothing behind: no message that is being written is dropped by another
    branch of the `select!`, a message that is popped can be serialized, and a task ends with
    its queue drained. -/
def Spares (s : Loop (Message F32)) : LoopStep → Prop
  | .pop => ∀ msg ∈ s.queue.head?, (serializeMessage msg).isOk = true
  | .read n => ∀ progress ∈ s.reading.read decode (s.arrived.take n), SparesRead s progress
  | .forward => s.writing = none
  | .tick => s.writing = none
  | .stop => s.queue = [] ∧ s.writing = none
  | _ => True

/-- Every step of a task spares what it has to write. -/
def Sparing (s : State) : Label → Prop
  | .task i l => ∀ p ∈ s.tasks[i]?, Spares p.loop l
  | _ => True

instance (s : Loop (Message F32)) (progress : Progress (Message F32)) :
    Decidable (SparesRead s progress) :=
  match progress with
  | .heartbeatRequest => inferInstanceAs (Decidable (s.writing = none))
  | .heartbeatReply => inferInstanceAs (Decidable (s.writing = none))
  | .undecodable => inferInstanceAs (Decidable (s.queue = [] ∧ s.writing = none))
  | .pending _ => isTrue True.intro

instance (s : Loop (Message F32)) (l : LoopStep) : Decidable (Spares s l) :=
  match l with
  | .pop => inferInstanceAs (Decidable (∀ msg ∈ s.queue.head?, _))
  | .read n =>
    inferInstanceAs (Decidable (∀ progress ∈ s.reading.read decode (s.arrived.take n),
      SparesRead s progress))
  | .forward => inferInstanceAs (Decidable (s.writing = none))
  | .tick => inferInstanceAs (Decidable (s.writing = none))
  | .stop => inferInstanceAs (Decidable (s.queue = [] ∧ s.writing = none))
  | .arrive _ => isTrue True.intro
  | .enqueue _ => isTrue True.intro
  | .write _ => isTrue True.intro

instance (s : State) (l : Label) : Decidable (Sparing s l) :=
  match l with
  | .task i l => inferInstanceAs (Decidable (∀ p ∈ s.tasks[i]?, Spares p.loop l))
  | .send .. => isTrue True.intro
  | .accept .. => isTrue True.intro

/-- **The accepted messages reach the stream.** What the task wrote and is about to write
    are whole frames, whose messages and the queued ones are the accepted ones, each once
    and in order. A task that has ended has none left to write. -/
structure Peer.Delivers (p : Peer) : Prop where
  frames : ∃ fs, p.loop.out ++ (p.loop.writing.getD [] ++ p.loop.beat) = written fs ∧
    (messagesIn some fs).map Except.ok ++ p.loop.queue.map serializeMessage =
      p.accepted.map serializeMessage
  ended : p.loop.running = false → p.loop.queue = [] ∧ p.loop.writing = none

/-! ## One task -/

/-- What a task keeps. -/
structure Peer.Inv (p : Peer) : Prop where
  frames : ∃ fs, p.loop.framed = written fs ∧
    (messagesIn some fs).map Except.ok ++ p.loop.queue.map serializeMessage =
      p.accepted.map serializeMessage
  sent : p.loop.framed = p.loop.out ++ (p.loop.writing.getD [] ++ p.loop.beat)
  apart : p.loop.beat ≠ [] → p.loop.writing = none
  ended : p.loop.running = false → p.loop.queue = [] ∧ p.loop.writing = none

namespace Peer

variable {p : Peer} {l : LoopStep} {loop : Loop (Message F32)}

theorem Inv.delivers (h : p.Inv) : p.Delivers where
  frames := h.sent ▸ h.frames
  ended := h.ended

theorem inv_start (bytes : List UInt8) : (Peer.start bytes).Inv where
  frames := ⟨[], rfl, rfl⟩
  sent := rfl
  apart _ := rfl
  ended h := by cases h

theorem Inv.push (h : p.Inv) (hrun : p.loop.running = true) (msg : Message F32) :
    (p.push msg).Inv where
  frames := by
    obtain ⟨fs, hfs, hmsgs⟩ := h.frames
    refine ⟨fs, hfs, ?_⟩
    show _ ++ (p.loop.queue ++ [msg]).map serializeMessage =
      (p.accepted ++ [msg]).map serializeMessage
    rw [List.map_append, List.map_append, ← hmsgs, List.append_assoc]
  sent := h.sent
  apart := h.apart
  ended hend := by cases hrun.symm.trans hend

theorem written_concat (fs : List Frame) (f : Frame) :
    written (fs ++ [f]) = written fs ++ f.bytes := by
  unfold written
  rw [List.flatMap_append, List.flatMap_singleton]

/-- A heartbeat begins while no message is being written. -/
theorem Inv.startBeat (h : p.Inv) {s : Loop (Message F32)} (hq : s.queue = p.loop.queue)
    (hf : s.framed = p.loop.framed) (ho : s.out = p.loop.out) (hrun : s.running = true)
    (hbeat : p.loop.beat = []) (hwriting : p.loop.writing = none) (beat : Frame)
    (hmsg : messagesIn some [beat] = ([] : List (List UInt8))) :
    ({ p with loop := s.startBeat beat } : Peer).Inv where
  frames := by
    obtain ⟨fs, hfs, hmsgs⟩ := h.frames
    refine ⟨fs ++ [beat], ?_, ?_⟩
    · show s.framed ++ beat.bytes = _
      rw [hf, hfs, written_concat]
    · show _ ++ s.queue.map serializeMessage = _
      rw [hq, messagesIn_append, hmsg, List.append_nil]
      exact hmsgs
  sent := by
    have hsent := h.sent
    rw [hwriting, hbeat, Option.getD_none, List.append_nil, List.append_nil] at hsent
    show s.framed ++ beat.bytes = s.out ++ ([] ++ beat.bytes)
    rw [hf, ho, hsent, List.nil_append]
  apart _ := rfl
  ended hend := by cases hrun.symm.trans hend

/-- The futures start afresh while no message is being written. -/
theorem Inv.restart (h : p.Inv) {s : Loop (Message F32)} (hq : s.queue = p.loop.queue)
    (hf : s.framed = p.loop.framed) (ho : s.out = p.loop.out) (hb : s.beat = p.loop.beat)
    (hrun : s.running = true) (hwriting : p.loop.writing = none) :
    ({ p with loop := s.restart } : Peer).Inv where
  frames := by
    obtain ⟨fs, hfs, hmsgs⟩ := h.frames
    refine ⟨fs, hf.trans hfs, ?_⟩
    show _ ++ s.queue.map serializeMessage = _
    rw [hq]
    exact hmsgs
  sent := by
    have hsent := h.sent
    rw [hwriting] at hsent
    show s.framed = s.out ++ ([] ++ s.beat)
    rw [hf, ho, hb]
    exact hsent
  apart _ := rfl
  ended hend := by cases hrun.symm.trans hend

/-- The task ends with nothing left. -/
theorem Inv.finish (h : p.Inv) {s : Loop (Message F32)} (hq : s.queue = p.loop.queue)
    (hf : s.framed = p.loop.framed) (ho : s.out = p.loop.out) (hb : s.beat = p.loop.beat)
    (hw : s.writing = p.loop.writing) (hleft : p.loop.queue = [] ∧ p.loop.writing = none) :
    ({ p with loop := { s with running := false } } : Peer).Inv where
  frames := by
    obtain ⟨fs, hfs, hmsgs⟩ := h.frames
    refine ⟨fs, hf.trans hfs, ?_⟩
    show _ ++ s.queue.map serializeMessage = _
    rw [hq]
    exact hmsgs
  sent := by
    show s.framed = s.out ++ (s.writing.getD [] ++ s.beat)
    rw [hf, ho, hb, hw]
    exact h.sent
  apart _ := hw.trans hleft.2
  ended _ := ⟨hq.trans hleft.1, hw.trans hleft.2⟩

/-- **A step that spares what is left to write** keeps the accepted messages. -/
theorem Inv.step (h : p.Inv) (hspare : Spares p.loop l) (hne : ∀ msg, l ≠ .enqueue msg)
    (hs : p.loop.step decode l = some loop) : ({ p with loop := loop } : Peer).Inv := by
  unfold Loop.step at hs
  split at hs
  · cases hs
  rename_i hrun
  have hrun : p.loop.running = true := by simpa using hrun
  cases l with
  | enqueue msg => exact absurd rfl (hne msg)
  | arrive n =>
    dsimp only at hs
    split at hs
    · cases hs
      exact ⟨h.frames, h.sent, h.apart, h.ended⟩
    · cases hs
  | pop =>
    dsimp only at hs
    split at hs
    · rename_i msg rest hbeat hwriting hqueue
      split at hs
      · rename_i payload hmsg
        cases hs
        have hsent := h.sent
        rw [hbeat, hwriting, Option.getD_none, List.append_nil, List.append_nil] at hsent
        obtain ⟨fs, hfs, hmsgs⟩ := h.frames
        refine ⟨⟨fs ++ [.message payload], ?_, ?_⟩, ?_, fun hb => absurd hbeat hb, fun hf => ?_⟩
        · show p.loop.framed ++ _ = _
          rw [hfs, written_concat]
        · have hone : messagesIn some [Frame.message payload] = [payload] := rfl
          rw [hqueue, List.map_cons, hmsg] at hmsgs
          rw [messagesIn_append, hone, List.map_append, List.append_assoc]
          exact hmsgs
        · show p.loop.framed ++ _ = p.loop.out ++ (_ ++ p.loop.beat)
          rw [hsent, hbeat, Option.getD_some, List.append_nil]
        · cases hrun.symm.trans hf
      · rename_i e hmsg
        have hok := hspare msg (by rw [hqueue]; rfl)
        rw [hmsg] at hok
        cases hok
    · cases hs
  | write n =>
    dsimp only at hs
    split at hs
    · rename_i b beat hbeat
      cases hs
      have hwriting := h.apart (by rw [hbeat]; exact List.cons_ne_nil _ _)
      refine ⟨h.frames, ?_, fun _ => hwriting, h.ended⟩
      show p.loop.framed = p.loop.out ++ _ ++ (p.loop.writing.getD [] ++ (b :: beat).drop n)
      rw [h.sent, hwriting, hbeat, Option.getD_none, List.nil_append, List.nil_append,
        List.append_assoc, List.take_append_drop]
    · rename_i rest hbeat hwriting
      have hsent := h.sent
      rw [hbeat, hwriting, Option.getD_some, List.append_nil] at hsent
      cases hs
      split
      · rename_i hle
        refine ⟨h.frames, ?_, fun _ => rfl, fun hf => by cases hrun.symm.trans hf⟩
        show p.loop.framed = p.loop.out ++ rest.take n ++ ([] ++ p.loop.beat)
        rw [hsent, hbeat, List.take_of_length_le hle, List.append_nil, List.append_nil]
      · refine ⟨h.frames, ?_, fun hb => absurd hbeat hb, fun hf => by cases hrun.symm.trans hf⟩
        show p.loop.framed = p.loop.out ++ rest.take n ++ (rest.drop n ++ p.loop.beat)
        rw [hsent, hbeat, List.append_nil, List.append_assoc, List.take_append_drop]
    · cases hs
  | read n =>
    dsimp only at hs
    split at hs
    · rename_i hbeat
      split at hs
      · obtain ⟨progress, hp, rfl⟩ := Option.map_eq_some_iff.mp hs
        have hspare : SparesRead p.loop progress := hspare progress hp
        cases progress with
        | pending r => exact ⟨h.frames, h.sent, h.apart, h.ended⟩
        | heartbeatRequest =>
          exact h.startBeat (s := { p.loop with arrived := p.loop.arrived.drop n }) rfl rfl rfl
            hrun hbeat hspare .heartbeatReply rfl
        | heartbeatReply => exact h.restart rfl rfl rfl rfl hrun hspare
        | undecodable => exact h.finish rfl rfl rfl rfl rfl hspare
      · cases hs
    · cases hs
  | forward =>
    dsimp only at hs
    split at hs
    · rename_i msg _ _
      cases hs
      exact h.restart (s := { p.loop with forwarded := p.loop.forwarded ++ [msg] }) rfl rfl rfl
        rfl hrun hspare
    · cases hs
  | tick =>
    dsimp only at hs
    split at hs
    · rename_i hbeat
      cases hs
      exact h.startBeat rfl rfl rfl hrun hbeat hspare .heartbeatRequest rfl
    · cases hs
  | stop =>
    cases hs
    exact h.finish rfl rfl rfl rfl rfl hspare

end Peer

/-! ## The connection -/

variable {s s' : State} {l : Label}

/-- Every message of every handler is accounted for. -/
def State.Inv (s : State) : Prop := ∀ p ∈ s.tasks, p.Inv

/-- A message is accepted by a running task only. -/
theorem takes_of_send {c : Connection Nat} {address : SocketAddr} {w : Connection.Sending Nat}
    (h : (c.send address w).1 = .ok ()) : w.takes = true := by
  unfold Connection.send at h
  split at h
  · cases h
  split at h
  · cases h
  split at h
  · cases h
  dsimp only at h
  split at h
  · assumption
  · cases h

theorem reached_inv (h : s.Inv) (address : SocketAddr) (dialed : Except AppError (List UInt8)) :
    ∀ p ∈ s.reached address dialed, p.Inv := by
  unfold State.reached
  split
  · exact h
  · cases dialed with
    | error e => exact h
    | ok bytes =>
      intro p hp
      rcases List.mem_append.mp hp with hp | hp
      · exact h p hp
      · rw [List.mem_singleton.mp hp]
        exact Peer.inv_start bytes

theorem modify_inv {tasks : List Peer} (h : ∀ p ∈ tasks, p.Inv) {i : Nat}
    (htakes : (tasks[i]?).any (fun p => p.loop.running) = true) (msg : Message F32) :
    ∀ p ∈ tasks.modify i fun p => p.push msg, p.Inv := by
  intro p hp
  obtain ⟨j, hj⟩ := List.mem_iff_getElem?.mp hp
  rw [List.getElem?_modify] at hj
  obtain ⟨q, hq, rfl⟩ := Option.map_eq_some_iff.mp hj
  have hinv := h q (List.mem_of_getElem? hq)
  by_cases hij : i = j
  · subst hij
    rw [if_pos rfl]
    rw [hq, Option.any_some] at htakes
    exact hinv.push htakes msg
  · rw [if_neg hij]
    exact hinv

theorem advance_inv {i : Nat} {l : LoopStep} (h : s.Inv) (hl : ∀ p ∈ s.tasks[i]?, Spares p.loop l)
    (hne : ∀ msg, l ≠ .enqueue msg) (hs : s.advance i l = some s') : s'.Inv := by
  obtain ⟨p, hp, hs⟩ := Option.bind_eq_some_iff.mp hs
  obtain ⟨loop, hloop, rfl⟩ := Option.map_eq_some_iff.mp hs
  intro q hq
  rcases List.mem_or_eq_of_mem_set hq with hq | rfl
  · exact h q hq
  · exact (h p (List.mem_of_getElem? hp)).step (hl p hp) hne hloop

theorem send_inv (h : s.Inv) (msg : Message F32) (address : SocketAddr) (iter : Iteration Nat)
    (dialed : Except AppError (List UInt8)) (created used : Nat) :
    (s.send msg address iter dialed created used).Inv := by
  intro p hp
  unfold State.send at hp
  dsimp only at hp
  split at hp
  · rename_i hsent
    exact modify_inv (reached_inv h address dialed) (takes_of_send hsent) msg p hp
  · exact reached_inv h address dialed p hp

theorem accept_inv (h : s.Inv) (address : SocketAddr) (bytes : List UInt8)
    (iter : Iteration Nat) (created : Nat) : (s.accept address bytes iter created).Inv := by
  intro p hp
  rcases List.mem_append.mp hp with hp | hp
  · exact h p hp
  · rw [List.mem_singleton.mp hp]
    exact Peer.inv_start bytes

/-- One step of the connection, its peers or its tasks. -/
theorem State.Inv.step (h : s.Inv) (hl : Sparing s l) (hs : s.step l = some s') : s'.Inv := by
  cases l with
  | send msg address iter dialed created used =>
    obtain ⟨-, hs⟩ := Option.ite_none_right_eq_some.mp hs
    exact Option.some.inj hs ▸ send_inv h msg address iter dialed created used
  | accept address bytes iter created =>
    obtain ⟨-, hs⟩ := Option.ite_none_right_eq_some.mp hs
    exact Option.some.inj hs ▸ accept_inv h address bytes iter created
  | task i l =>
    cases l with
    | enqueue msg => cases hs
    | stop =>
      obtain ⟨-, hs⟩ := Option.ite_none_right_eq_some.mp hs
      exact advance_inv h hl (fun msg he => by cases he) hs
    | _ => exact advance_inv h hl (fun msg he => by cases he) hs

/-- Over every run in which each task spares what it has to write, **eviction included,
    every accepted message reaches its peer's stream once and in order**. -/
theorem accepted_written {maxConns : Nat} {ls : List Label}
    (hr : run State.step (.start maxConns) ls = some s)
    (hm : Meets State.step Sparing (.start maxConns) ls) : ∀ p ∈ s.tasks, p.Delivers := by
  have h : s.Inv := run_induct_meets (fun _ _ _ hi hl hs => hi.step hl hs) hr hm fun p hp => by
    cases hp
  exact fun p hp => (h p hp).delivers

/-! ## Two peers and room for one -/

/-- A message for one peer, and whatever comes before the next. -/
def toFirst (rest : List Label) : List Label :=
  .send (.ack 1) (.v4 0 1) [] (.ok []) 1 2 :: rest

/-- A message for another peer. -/
def toSecond : Label :=
  .send (.ack 2) (.v4 0 2) [⟨.v4 0 1, 0, .v4 0 1, 2⟩] (.ok []) 3 4

theorem accepted_written_example :
    ∃ s, run State.step (.start 1) (toFirst [.task 0 .pop, .task 0 (.write 7), toSecond,
        .task 0 .stop, .task 1 .pop, .task 1 (.write 7)]) = some s ∧
      s.tasks.map (fun p => p.loop.out) = [[0, 5, 2, 0, 0, 0, 1], [0, 5, 2, 0, 0, 0, 2]] ∧
      ∀ p ∈ s.tasks, p.Delivers := by
  have hrun : (run State.step (.start 1) (toFirst [.task 0 .pop, .task 0 (.write 7), toSecond,
      .task 0 .stop, .task 1 .pop, .task 1 (.write 7)])).any (fun s =>
        decide (s.tasks.map (fun p => p.loop.out) =
          [[0, 5, 2, 0, 0, 0, 1], [0, 5, 2, 0, 0, 0, 2]])) = true := by
    decide +kernel
  obtain ⟨s, hs, hp⟩ := (Option.any_eq_true _ _).mp hrun
  exact ⟨s, hs, of_decide_eq_true hp, accepted_written hs (by decide +kernel)⟩

/-- **An eviction can drop an accepted message**: the second peer takes the first one's place
    before its task has popped anything. -/
theorem eviction_drops :
    ¬ ∀ maxConns, 1 ≤ maxConns → ∀ ls s, run State.step (.start maxConns) ls = some s →
      ∀ p ∈ s.tasks, p.Delivers := by
  intro hall
  have hrun : (run State.step (.start 1) (toFirst [toSecond, .task 0 .stop])).any (fun s =>
      decide (∃ p ∈ s.tasks, p.loop.running = false ∧ p.loop.queue ≠ [])) = true := by
    decide +kernel
  obtain ⟨s, hs, hp⟩ := (Option.any_eq_true _ _).mp hrun
  obtain ⟨p, hmem, hend, hqueue⟩ := of_decide_eq_true hp
  exact hqueue ((hall 1 (Nat.le_refl 1) _ s hs p hmem).ended hend).1

end YpfRuta.Network.Eviction
