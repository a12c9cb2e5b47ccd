/-
  A replica that is promoted while its database still works on commands of the log.

  The leader it becomes starts with no pending operation, and the database is the old one:
  a result that comes late is looked up among the operations the leader has taken since.
-/
import YpfRuta.Cluster.Steady
import YpfRuta.Server.Membership

namespace YpfRuta.Cluster.Promotion

open Server Lib

variable {α : Type}

/-- `late` are the commands the node sent as a replica and the database has not answered,
    and `running` those it sent as a leader. -/
structure State (α : Type) where
  leader : Leader α
  late : List (OpId × Operation α)
  running : List (OpId × Operation α)

inductive Label (α : Type) where
  | request (reqId : ReqId) (op : Operation α) (addr : SocketAddr)
  | ack (opId : OpId)
  /-- The database answers a command of the replica. -/
  | late (opId : OpId) (op : Operation α) (r : OperationResult α)
  /-- The database answers a command of the leader. -/
  | result (opId : OpId) (op : Operation α) (r : OperationResult α)

namespace State

/-- One turn of the leader. It takes none that panics or changes its role. -/
def turn [AddrHash] (s : State α) (event : Event α) : Option (State α) :=
  match Node.runOnce event (.ready s.leader 0) with
  | .ok .none t => some { s with
      leader := t.self
      running := s.running ++ t.commands }
  | _ => none

def step [AddrHash] [DecidableEq α] (s : State α) : Label α → Option (State α)
  | .request reqId op addr => s.turn (.nodeMsg (.ok (.request reqId op addr)))
  | .ack opId => s.turn (.nodeMsg (.ok (.ack opId)))
  | .late opId op r =>
    if (opId, op) ∈ s.late then
      { s with late := s.late.erase (opId, op) }.turn
        (.actorEvent (.operationResult opId op r))
    else none
  | .result opId op r =>
    if (opId, op) ∈ s.running then
      { s with running := s.running.erase (opId, op) }.turn
        (.actorEvent (.operationResult opId op r))
    else none

end State

/-- The requester of a pending operation of this leader is answered. -/
def Answers (self : Leader α) (pending : PendingOperation α) (t : Task α (Leader α)) : Prop :=
  (∃ r, (pending.clientAddr, .response pending.requestId r) ∈ t.sent) ∨
    (pending.clientAddr = self.address ∧
      ∃ allowed error, .chargeResult pending.requestId allowed error ∈ t.told)

/-- Whatever late result comes next, its turn ends well and answers nobody whose operation
    the leader has taken. -/
def State.Safe [AddrHash] (s : State α) : Prop :=
  ∀ opId op r, (opId, op) ∈ s.late → ∃ t : Task α (Leader α),
    Node.select (.actorEvent (.operationResult opId op r)) (Task.ready s.leader 0) =
      .ok .none t ∧
    ∀ n pending, s.leader.operations.lookup n = some pending → ¬ Answers s.leader pending t

/-- The commands a node sends under op id 0, which belong to no log entry. -/
def OfSnapshot : Operation α → Prop
  | .getDatabase _ => True
  | .replaceDatabase _ => True
  | _ => False

/-- A replica has just become the leader, whatever its database still works on. -/
structure State.Promoted (s : State α) : Prop where
  leader : ∃ replica : Replica α, s.leader = replica.intoLeader
  zero : ∀ op, (0, op) ∈ s.late → OfSnapshot op
  running : s.running = []

section Late

variable [AddrHash] {s s' : State α}

/-- The late result of a log entry under an id the leader has not used. -/
theorem late_panics {opId : OpId} (hid : opId ≠ 0)
    (h : s.leader.operations.lookup opId = none) (op : Operation α) (r : OperationResult α) :
    Node.select (.actorEvent (.operationResult opId op r)) (Task.ready s.leader 0) =
      .error (.panic "leader received the result of an unexisting operation")
        (Task.ready s.leader 0) := by
  have htake := Leader.takePending_panics (t := Task.ready s.leader 0) hid h op
  have hres : (Node.handleOperationResult opId op r : Handler α (Leader α) Unit)
      (Task.ready s.leader 0) = _ := bind_error htake
  exact select_result_panics hres

/-- The late result of a log entry under an id the leader has used: the new operation's
    requester gets it. -/
theorem late_answers {opId : OpId} (hid : opId ≠ 0) {pending : PendingOperation α}
    (h : s.leader.operations.lookup opId = some pending) (op : Operation α)
    (r : OperationResult α) :
    Node.select (.actorEvent (.operationResult opId op r)) (Task.ready s.leader 0) =
      .ok .none { (Task.ready s.leader 0 : Task α (Leader α)) with
        self := { s.leader with operations := s.leader.operations.erase opId }
        sent := (s.leader.reply pending op r).1
        told := (s.leader.reply pending op r).2 } := by
  have htake := Leader.takePending_ok (t := Task.ready s.leader 0) hid h op
  have hres : (Node.handleOperationResult opId op r : Handler α (Leader α) Unit)
      (Task.ready s.leader 0) = _ :=
    Leader.handleOperationResult_ok htake ⟨rfl, rfl⟩ r
  exact select_result hres

/-- The late result of a snapshot command. -/
theorem late_snapshot {op : Operation α} (hop : OfSnapshot op) (r : OperationResult α) :
    ∃ t : Task α (Leader α),
      Node.select (.actorEvent (.operationResult 0 op r)) (Task.ready s.leader 0) =
        .ok .none t ∧ ∀ pending, ¬ Answers s.leader pending t := by
  have htake := Leader.takePending_zero (t := Task.ready s.leader 0) op
  have hres : (Node.handleOperationResult 0 op r : Handler α (Leader α) Unit)
      (Task.ready s.leader 0) = _ :=
    Leader.handleOperationResult_ok htake
      (Task.ready_reliable s.leader 0) r
  refine ⟨_, select_result hres, ?_⟩
  cases op with
  | getDatabase addr => cases r <;> simp [Answers, Leader.reply, Task.ready]
  | replaceDatabase snapshot => simp [Answers, Leader.reply, Task.ready]
  | _ => exact hop.elim

theorem turn_late {event : Event α} (h : s.turn event = some s') : s'.late = s.late := by
  unfold State.turn at h
  split at h
  · obtain rfl := Option.some.inj h
    rfl
  · cases h

/-- No step makes a result late. -/
theorem step_late [DecidableEq α] {l : Label α} (hs : s.step l = some s') :
    ∀ e ∈ s'.late, e ∈ s.late := by
  cases l with
  | request reqId op addr =>
    have hturn : s.turn (.nodeMsg (.ok (.request reqId op addr))) = some s' := hs
    rw [turn_late hturn]
    exact fun e he => he
  | ack opId =>
    have hturn : s.turn (.nodeMsg (.ok (.ack opId))) = some s' := hs
    rw [turn_late hturn]
    exact fun e he => he
  | late opId op r =>
    by_cases hlate : (opId, op) ∈ s.late
    · rw [turn_late ((if_pos hlate).symm.trans hs)]
      exact fun e he => List.mem_of_mem_erase he
    · cases (if_neg hlate).symm.trans hs
  | result opId op r =>
    by_cases hrun : (opId, op) ∈ s.running
    · rw [turn_late ((if_pos hrun).symm.trans hs)]
      exact fun e he => he
    · cases (if_neg hrun).symm.trans hs

/-- **Late results are harmless** in every run from a promotion exactly when none of them
    belongs to a log entry. -/
theorem late_results_safe [DecidableEq α] {s₀ : State α} (h₀ : s₀.Promoted) :
    (∀ ls s, Lib.run State.step s₀ ls = some s → s.Safe) ↔ ∀ e ∈ s₀.late, e.1 = 0 := by
  constructor
  · intro hsafe e he
    by_contra hid
    have hnone : s₀.leader.operations.lookup e.1 = none := by
      obtain ⟨replica, hreplica⟩ := h₀.leader
      rw [hreplica]
      rfl
    obtain ⟨t, hsel, -⟩ := hsafe [] s₀ rfl e.1 e.2 .replaceDatabase he
    rw [late_panics hid hnone] at hsel
    cases hsel
  · intro hzero ls s hr
    have hlate : ∀ e ∈ s.late, e ∈ s₀.late :=
      run_induct (P := fun t : State α => ∀ e ∈ t.late, e ∈ s₀.late)
        (fun _ _ _ h hs e he => h e (step_late hs e he)) hr fun _ he => he
    intro opId op r hmem
    obtain rfl : opId = 0 := hzero _ (hlate _ hmem)
    obtain ⟨t, hsel, hnobody⟩ := late_snapshot (s := s) (h₀.zero op (hlate _ hmem)) r
    exact ⟨t, hsel, fun _ pending _ => hnobody pending⟩

end Late

/-! ## A replica with one command under way -/

section Example

local instance promotionHash : AddrHash := localHash

/-- A replica with another one beside it, which has logged entries up to 2 and has these
    commands with its database when it is promoted. -/
def inFlight (late : List (OpId × Operation Nat)) : State Nat where
  leader :=
    Replica.intoLeader { Replica.start (localAddr 5001) (localAddr 5000) with
      cluster := ((∅ : HashMap NodeId SocketAddr).insert (getIdGivenAddr (localAddr 5001))
        (localAddr 5001)).insert (getIdGivenAddr (localAddr 5002)) (localAddr 5002)
      operations := (∅ : HashMap OpId (Operation Nat)).insert 2 (.accountQuery 8) }
  late := late
  running := []

/-- Two snapshots to install. -/
def installs : List (OpId × Operation Nat) :=
  [(0, .replaceDatabase ⟨localAddr 5000, [], []⟩), (0, .replaceDatabase ⟨localAddr 5002, [], []⟩)]

/-- A request, the result of the first installation and the ack of the request, which the
    database then works on. The second installation is still to be reported. -/
theorem late_results_safe_example :
    ∃ s : State Nat,
      Lib.run State.step (inFlight installs)
        [.request 9 (.accountQuery 8) (localAddr 6000),
          .late 0 (.replaceDatabase ⟨localAddr 5000, [], []⟩) .replaceDatabase, .ack 2] = some s ∧
      s.late = [(0, .replaceDatabase ⟨localAddr 5002, [], []⟩)] ∧
      s.running = [(2, .accountQuery 8)] ∧ s.Safe := by
  have hrun : (Lib.run State.step (inFlight installs)
      [.request 9 (.accountQuery 8) (localAddr 6000),
        .late 0 (.replaceDatabase ⟨localAddr 5000, [], []⟩) .replaceDatabase, .ack 2]).any
      (fun s => decide (s.late = [(0, .replaceDatabase ⟨localAddr 5002, [], []⟩)] ∧
        s.running = [(2, .accountQuery 8)])) = true := by
    decide +kernel
  have hzero : ∀ e ∈ installs, e.1 = 0 ∧ OfSnapshot e.2 := by
    intro e he
    obtain rfl | rfl := List.mem_pair.mp he
    · exact ⟨rfl, trivial⟩
    · exact ⟨rfl, trivial⟩
  have hpromoted : (inFlight installs).Promoted :=
    ⟨⟨_, rfl⟩, fun op hop => (hzero _ hop).2, rfl⟩
  obtain ⟨s, hs, hends⟩ := (Option.any_eq_true _ _).mp hrun
  obtain ⟨hlate, hrunning⟩ := of_decide_eq_true hends
  exact ⟨s, hs, hlate, hrunning,
    (late_results_safe hpromoted).mpr (fun e he => (hzero e he).1) _ s hs⟩

/-- **A late result can hit the expectation**: entry 1, with the database when the node is
    promoted. -/
theorem late_results_unsafe :
    ¬ ∀ (s₀ : State Nat), s₀.Promoted → ∀ ls s, Lib.run State.step s₀ ls = some s → s.Safe := by
  intro hall
  have hpromoted : (inFlight [(1, .charge 7 1 10 false)]).Promoted :=
    ⟨⟨_, rfl⟩, fun op hop => absurd (Prod.mk.inj (List.mem_singleton.mp hop)).1 (by decide), rfl⟩
  have hsafe := hall _ hpromoted [] _ rfl 1 (.charge 7 1 10 false) (.charge .ok)
    List.mem_cons_self
  obtain ⟨t, hsel, -⟩ := hsafe
  have hid : (1 : OpId) ≠ 0 := by decide
  have hnone : (inFlight [(1, .charge 7 1 10 false)]).leader.operations.lookup 1 = none := rfl
  have hpanic := late_panics (s := inFlight [(1, .charge 7 1 10 false)]) hid hnone
    (.charge 7 1 10 false) (.charge .ok)
  rw [hpanic] at hsel
  cases hsel

end Example

end YpfRuta.Cluster.Promotion
