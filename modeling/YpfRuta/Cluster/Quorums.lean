/-
  How often a leader executes an operation while members come and go.

  An entry is executed when its acks are exactly as many as the quorum, which is taken from
  the members there are when an ack comes; with two members every ack executes. So a change
  of the cluster's size can let an entry through a second time, and a lone leader executes
  every request under the op id it has.

  A replica acks an entry it was sent once, also when it is no member any more. Sends may
  fail.
-/
import Mathlib.Data.List.Dedup
import YpfRuta.Lib.Transition
import YpfRuta.Server.Broadcast

namespace YpfRuta.Cluster.Quorums

open Server Lib

variable {α : Type}

/-- `logged` are the log entries sent, `acked` those acked, `commands` what the leader gave
    its database and `running` what the database has not answered. -/
structure State (α : Type) where
  leader : Leader α
  logged : List (SocketAddr × OpId)
  acked : List (SocketAddr × OpId)
  commands : List (OpId × Operation α)
  running : List (OpId × Operation α)

inductive Label (α : Type) where
  /-- A request of a client or the own station. -/
  | ask (event : Event α) (outcomes : List (Option AppError))
  | ack (replica : SocketAddr) (opId : OpId)
  | join (addr : SocketAddr) (outcomes : List (Option AppError))
  | lost (addr : SocketAddr)
  /-- The database answers a command. -/
  | result (opId : OpId) (op : Operation α) (r : OperationResult α)
      (outcomes : List (Option AppError))

/-- `handle_request` is called for the event. -/
def asks (self : Leader α) : Event α → Bool
  | .nodeMsg (.ok (.request ..)) => true
  | .stationMsg (.chargeRequest ..) => !self.isOffline
  | _ => false

/-- The log entry a message is, and who it is for. -/
def log? : SocketAddr × Message α → Option (SocketAddr × OpId)
  | (addr, .log opId _) => some (addr, opId)
  | _ => none

def Label.isAck : Label α → Bool
  | .ack .. => true
  | _ => false

namespace State

def size (s : State α) : Nat := s.leader.cluster.len

/-- How often the database was given a command under `n`. -/
def executions (s : State α) (n : OpId) : Nat := s.commands.countP fun c => c.1 = n

/-- The replicas that were sent entry `n` and have not acked it. -/
def owing (s : State α) (n : OpId) : List SocketAddr :=
  (((s.logged.filter fun e => e.2 = n).map Prod.fst).dedup).filter fun a => (a, n) ∉ s.acked

variable [AddrHash]

/-- One turn of the leader. It takes none that panics, ends the loop or changes its role. -/
def turn (s : State α) (event : Event α) (outcomes : List (Option AppError)) :
    Option (State α) :=
  match Node.runOnce event { (Task.ready s.leader 0 : Task α (Leader α)) with
    outcomes := outcomes } with
  | .ok .none t => some { s with
      leader := t.self
      logged := s.logged ++ t.sent.filterMap log?
      commands := s.commands ++ t.commands
      running := s.running ++ t.commands }
  | _ => none

def step [DecidableEq α] (s : State α) : Label α → Option (State α)
  | .ask event outcomes => if asks s.leader event then s.turn event outcomes else none
  | .ack replica opId =>
    if replica ∈ s.owing opId then
      { s with acked := (replica, opId) :: s.acked }.turn (.nodeMsg (.ok (.ack opId))) []
    else none
  | .join addr outcomes => s.turn (.nodeMsg (.ok (.join addr))) outcomes
  | .lost addr => s.turn (.nodeMsg (.error (.connectionLostWith addr))) []
  | .result opId op r outcomes =>
    if (opId, op) ∈ s.running then
      { s with running := s.running.erase (opId, op) }.turn
        (.actorEvent (.operationResult opId op r)) outcomes
    else none

end State

/-! ## The condition -/

/-- Counted on at this size, the acks outstanding for an entry do not execute it again:
    with two members every ack does, otherwise the one that meets the quorum. -/
def Tallies (size executions count owed : Nat) : Prop :=
  (size = 2 → executions + owed ≤ 1) ∧
  (size ≠ 2 → executions = 0 ∨ quorum size ≤ count ∨ count + owed < quorum size)

instance (size executions count owed : Nat) : Decidable (Tallies size executions count owed) :=
  inferInstanceAs (Decidable (_ ∧ _))

namespace State

/-- Every pending entry tallies at `size`, but for the one under `new`. -/
def Fits (s : State α) (size : Nat) (new : Option OpId) : Prop :=
  ∀ e ∈ s.leader.operations.entries, e.1 ≠ 0 → some e.1 ≠ new →
    Tallies size (s.executions e.1) e.2.ackCount (s.owing e.1).length

instance (s : State α) (size : Nat) (new : Option OpId) : Decidable (s.Fits size new) :=
  List.decidableBAll _ _

/-- With entry `n` sent to `dsts`. -/
def sendLog (s : State α) (dsts : List SocketAddr) (n : OpId) : State α :=
  { s with logged := s.logged ++ dsts.map fun a => (a, n) }

variable [AddrHash]

/-- The size a request leaves, from how its sends end. -/
def sizeAsked (s : State α) (outcomes : List (Option AppError)) : Nat :=
  (settle s.leader.cluster (deliver outcomes s.leader.peers).2).len

/-- The size a join leaves. -/
def sizeJoined (s : State α) (addr : SocketAddr) (outcomes : List (Option AppError)) : Nat :=
  (settle (s.leader.enroll addr).cluster (deliver outcomes (s.leader.informed addr)).2).len

/-- A lone leader has not executed its op id before. Otherwise the new entry tallies, and so
    do the others if the request costs a member. -/
def SafeAsk (s : State α) (outcomes : List (Option AppError)) : Prop :=
  (s.size = 1 → s.leader.currentOpId ≠ 0 → s.executions s.leader.currentOpId = 0) ∧
  (s.size ≠ 1 → s.Fits (s.sizeAsked outcomes) (some s.leader.currentOpId) ∧
    (s.leader.currentOpId ≠ 0 →
      Tallies (s.sizeAsked outcomes) (s.executions s.leader.currentOpId) 0
        ((s.sendLog (deliver outcomes s.leader.peers).1 s.leader.currentOpId).owing
          s.leader.currentOpId).length))

/-- No request, join or loss lets an entry be executed again. -/
def Safe (s : State α) : Label α → Prop
  | .ask _ outcomes => s.SafeAsk outcomes
  | .join addr outcomes => s.Fits (s.sizeJoined addr outcomes) none
  | .lost addr => s.Fits (s.leader.lose addr).cluster.len none
  | .ack .. => True
  | .result .. => True

instance (s : State α) (outcomes : List (Option AppError)) : Decidable (s.SafeAsk outcomes) :=
  inferInstanceAs (Decidable (_ ∧ _))

instance (s : State α) (l : Label α) : Decidable (s.Safe l) :=
  match l with
  | .ask _ outcomes => inferInstanceAs (Decidable (s.SafeAsk outcomes))
  | .join addr outcomes => inferInstanceAs (Decidable (s.Fits (s.sizeJoined addr outcomes) none))
  | .lost addr => inferInstanceAs (Decidable (s.Fits (s.leader.lose addr).cluster.len none))
  | .ack .. => isTrue True.intro
  | .result .. => isTrue True.intro

/-- A leader with nothing pending that has executed nothing. -/
structure Fresh (s : State α) : Prop where
  pending : s.leader.operations = ∅
  commands : s.commands = []

/-- Every op was executed at most once, and no pending one will be executed again by the
    acks outstanding. -/
def Settled (s : State α) : Prop :=
  ∀ n, n ≠ 0 → s.executions n ≤ 1 ∧
    ∀ p, s.leader.operations.lookup n = some p →
      Tallies s.size (s.executions n) p.ackCount (s.owing n).length

end State

/-! ## Steps -/

namespace State

variable {s s' : State α} {n m : OpId}

theorem mem_owing {a : SocketAddr} :
    a ∈ s.owing n ↔ (a, n) ∈ s.logged ∧ (a, n) ∉ s.acked := by
  unfold owing
  rw [List.mem_filter, List.mem_dedup, List.mem_map]
  refine and_congr ⟨?_, fun h => ?_⟩ decide_eq_true_iff
  · rintro ⟨e, he, rfl⟩
    obtain ⟨hin, hn⟩ := List.mem_filter.mp he
    rw [← of_decide_eq_true hn]
    exact hin
  · exact ⟨(a, n), List.mem_filter.mpr ⟨h, decide_eq_true rfl⟩, rfl⟩

theorem nodup_owing (s : State α) (n : OpId) : (s.owing n).Nodup :=
  (List.nodup_dedup _).filter _

/-- As many owe entry `n` when the same do. -/
theorem owing_congr (h : ∀ a, a ∈ s'.owing n ↔ a ∈ s.owing n) :
    (s'.owing n).length = (s.owing n).length :=
  ((List.perm_ext_iff_of_nodup (nodup_owing s' n) (nodup_owing s n)).mpr h).length_eq

/-- What a step makes of the leader's tables and of what was sent. -/
structure Becomes (s s' : State α) (operations : HashMap OpId (PendingOperation α))
    (cluster : HashMap NodeId SocketAddr) (logged : List (SocketAddr × OpId))
    (given : List (OpId × Operation α)) : Prop where
  operations : s'.leader.operations = operations
  cluster : s'.leader.cluster = cluster
  logged : s'.logged = s.logged ++ logged
  acked : s'.acked = s.acked
  commands : s'.commands = s.commands ++ given

theorem Becomes.executions {operations : HashMap OpId (PendingOperation α)}
    {cluster : HashMap NodeId SocketAddr} {logged : List (SocketAddr × OpId)}
    {given : List (OpId × Operation α)} (h : Becomes s s' operations cluster logged given) :
    s'.executions n = s.executions n + given.countP fun c => c.1 = n := by
  unfold State.executions
  rw [h.commands, List.countP_append]

/-- Who owes an entry that was not logged just now. -/
theorem Becomes.owing {operations : HashMap OpId (PendingOperation α)}
    {cluster : HashMap NodeId SocketAddr} {logged : List (SocketAddr × OpId)}
    {given : List (OpId × Operation α)} (h : Becomes s s' operations cluster logged given)
    (hn : ∀ e ∈ logged, e.2 ≠ n) : (s'.owing n).length = (s.owing n).length := by
  refine owing_congr fun a => ?_
  rw [mem_owing, mem_owing, h.logged, h.acked, List.mem_append]
  exact and_congr_left fun _ => ⟨fun hin => hin.resolve_right fun he => hn _ he rfl, .inl⟩

variable [AddrHash]

theorem turn_becomes {event : Event α} {outcomes : List (Option AppError)}
    (h : s.turn event outcomes = some s') :
    ∃ t', Node.runOnce event { (Task.ready s.leader 0 : Task α (Leader α)) with
        outcomes := outcomes } = .ok .none t' ∧
      ∀ {operations cluster out given},
        Leader.Leaves { (Task.ready s.leader 0 : Task α (Leader α)) with outcomes := outcomes } t'
          operations cluster out given →
        Becomes s s' operations cluster (out.filterMap log?) given := by
  unfold turn at h
  split at h
  · next t' hr =>
    obtain rfl := Option.some.inj h
    refine ⟨t', hr, fun hl => ⟨hl.operations, hl.cluster, ?_, rfl, ?_⟩⟩
    · show s.logged ++ t'.sent.filterMap log? = _
      rw [hl.sent]
      rfl
    · show s.commands ++ t'.commands = _
      rw [hl.gave]
      rfl
  · cases h

omit [AddrHash] in
theorem calls_of_asks {self : Leader α} {event : Event α} (h : asks self event = true) :
    ∃ reqId op addr, Leader.Calls self event reqId op addr := by
  unfold asks at h
  split at h
  · exact ⟨_, _, _, .client _ _ _⟩
  · exact ⟨_, _, _, .station (by simpa using h) _ _ _ _⟩
  · cases h

omit [AddrHash] in
theorem log?_map (dsts : List SocketAddr) (n : OpId) (op : Operation α) :
    (dsts.map fun a => (a, Message.log n op)).filterMap log? = dsts.map fun a => (a, n) := by
  rw [List.filterMap_map]
  show dsts.filterMap (some ∘ fun a => (a, n)) = _
  rw [List.filterMap_eq_map]

omit [AddrHash] in
theorem log?_none {out : List (SocketAddr × Message α)} (h : ∀ m ∈ out, isLog m.2 = false) :
    out.filterMap log? = [] := by
  apply List.filterMap_eq_nil_iff.mpr
  intro m hm
  have hlog := h m hm
  unfold log?
  split
  · cases hlog
  · rfl

/-- Entry `n`, if it is pending, tallies at `size`. -/
def Tallied (s : State α) (size : Nat) (n : OpId) : Prop :=
  ∀ p, s.leader.operations.lookup n = some p →
    Tallies size (s.executions n) p.ackCount (s.owing n).length

omit [AddrHash] in
theorem fits_iff {size : Nat} {new : Option OpId} :
    s.Fits size new ↔ ∀ n, n ≠ 0 → some n ≠ new → s.Tallied size n := by
  constructor
  · intro h n hn hnew p hp
    exact h ⟨n, p⟩ (AList.mem_lookup_iff.mp hp) hn hnew
  · intro h e he hn hnew
    exact h e.1 hn hnew e.2 (AList.mem_lookup_iff.mpr he)

omit [AddrHash] in
/-- Entry `n` tallies as before when the step did not concern it. -/
theorem Becomes.tallied {operations : HashMap OpId (PendingOperation α)}
    {cluster : HashMap NodeId SocketAddr} {logged : List (SocketAddr × OpId)}
    {given : List (OpId × Operation α)} (h : Becomes s s' operations cluster logged given)
    (hlook : operations.lookup n = s.leader.operations.lookup n) (hlog : ∀ e ∈ logged, e.2 ≠ n)
    (hgiven : ∀ c ∈ given, c.1 ≠ n) (size : Nat) :
    s'.executions n = s.executions n ∧ (s'.Tallied size n ↔ s.Tallied size n) := by
  have hexec : s'.executions n = s.executions n := by
    rw [h.executions, List.countP_eq_zero.mpr fun c hc => ?_, Nat.add_zero]
    rw [decide_eq_true_iff]
    exact hgiven c hc
  refine ⟨hexec, ?_⟩
  unfold Tallied
  rw [h.operations, hlook, hexec, h.owing hlog]

omit [AddrHash] in
theorem Becomes.size {operations : HashMap OpId (PendingOperation α)}
    {cluster : HashMap NodeId SocketAddr} {logged : List (SocketAddr × OpId)}
    {given : List (OpId × Operation α)} (h : Becomes s s' operations cluster logged given) :
    s'.size = cluster.len := by
  unfold State.size
  rw [h.cluster]

omit [AddrHash] in
/-- A step that only changes the members. -/
theorem Becomes.settled_members {cluster : HashMap NodeId SocketAddr}
    {given : List (OpId × Operation α)} (hs : s.Settled)
    (h : Becomes s s' s.leader.operations cluster [] given) (hgiven : ∀ c ∈ given, c.1 = 0) :
    s'.Settled ↔ s.Fits cluster.len none := by
  have hsame := fun n (hn : n ≠ 0) => h.tallied (n := n) rfl nofun
    (fun c hc he => hn (he.symm.trans (hgiven c hc))) cluster.len
  rw [fits_iff]
  constructor
  · intro hs' n hn _
    have htallied := (hs' n hn).2
    rw [h.size] at htallied
    exact (hsame n hn).2.mp htallied
  · intro hfits n hn
    refine ⟨by rw [(hsame n hn).1]; exact (hs n hn).1, ?_⟩
    rw [h.size]
    exact (hsame n hn).2.mpr (hfits n hn nofun)

omit [AddrHash] in
/-- A step that stores entry `m` anew, with no ack. -/
theorem Becomes.settled_stores {pending : PendingOperation α} (hnew : pending.ackCount = 0)
    {cluster : HashMap NodeId SocketAddr} {dsts : List SocketAddr} (hs : s.Settled)
    (h : Becomes s s' (s.leader.operations.insert m pending) cluster (dsts.map fun a => (a, m)) []) :
    s'.Settled ↔ s.Fits cluster.len (some m) ∧
      (m ≠ 0 → Tallies cluster.len (s.executions m) 0 ((s.sendLog dsts m).owing m).length) := by
  have hsame := fun n (hn : n ≠ m) => h.tallied (n := n) (AList.lookup_insert_ne hn)
    (fun e he hen => by
      obtain ⟨a, -, rfl⟩ := List.mem_map.mp he
      exact hn hen.symm) nofun cluster.len
  have hexec : s'.executions m = s.executions m := by rw [h.executions, List.countP_nil]; rfl
  have howing : (s'.owing m).length = ((s.sendLog dsts m).owing m).length := by
    refine owing_congr fun a => ?_
    rw [mem_owing, mem_owing, h.logged, h.acked]
    rfl
  have hlook : s'.leader.operations.lookup m = some pending := by
    rw [h.operations]
    exact AList.lookup_insert _
  rw [fits_iff]
  constructor
  · intro hs'
    constructor
    · intro n hn hne
      have htallied := (hs' n hn).2
      rw [h.size] at htallied
      exact (hsame n fun he => hne (congrArg some he)).2.mp htallied
    · intro hm
      have htallied := (hs' m hm).2 pending hlook
      rwa [h.size, hexec, hnew, howing] at htallied
  · rintro ⟨hfits, hown⟩ n hn
    by_cases hnm : n = m
    · subst hnm
      refine ⟨by rw [hexec]; exact (hs n hn).1, fun p hp => ?_⟩
      obtain rfl := Option.some.inj (hlook.symm.trans hp)
      rw [h.size, hexec, hnew, howing]
      exact hown hn
    · refine ⟨by rw [(hsame n hnm).1]; exact (hs n hn).1, ?_⟩
      rw [h.size]
      exact (hsame n hnm).2.mpr (hfits n hn fun he => hnm (Option.some.inj he))

omit [AddrHash] in
/-- A request of a leader that is alone. -/
theorem Becomes.settled_lone {pending : PendingOperation α} {op : Operation α} (hs : s.Settled)
    (hsize : s.size = 1)
    (h : Becomes s s' (s.leader.operations.insert m pending) s.leader.cluster [] [(m, op)]) :
    s'.Settled ↔ (m ≠ 0 → s.executions m = 0) := by
  have hexec : s'.executions m = s.executions m + 1 := by
    rw [h.executions, List.countP_singleton, if_pos (decide_eq_true rfl)]
  have hsize' : s'.size = 1 := h.size.trans hsize
  constructor
  · intro hs' hm
    have hone := (hs' m hm).1
    rw [hexec] at hone
    omega
  · intro hzero n hn
    by_cases hnm : n = m
    · subst hnm
      rw [hexec, hzero hn]
      refine ⟨Nat.le_refl 1, fun p _ => ?_⟩
      rw [hsize']
      refine ⟨fun h2 => absurd h2 (by decide), fun _ => .inr (.inl ?_)⟩
      rw [show quorum 1 = 0 from by decide]
      exact Nat.zero_le _
    · obtain ⟨hexec', htallied⟩ := h.tallied (n := n) (AList.lookup_insert_ne hnm) nofun
        (fun c hc he => hnm (by rw [← he, List.mem_singleton.mp hc])) 1
      refine ⟨by rw [hexec']; exact (hs n hn).1, ?_⟩
      rw [hsize']
      apply htallied.mpr
      have htallied := (hs n hn).2
      rwa [hsize] at htallied

omit [AddrHash] in
/-- Counting an ack, executing if it hits, changes nothing in the tally. -/
theorem tallies_ack (size executions count owed : Nat) :
    (executions + (if count + 1 = quorum size ∨ size = 2 then 1 else 0) ≤ 1 ∧
      Tallies size (executions + if count + 1 = quorum size ∨ size = 2 then 1 else 0)
        (count + 1) owed) ↔
    executions ≤ 1 ∧ Tallies size executions count (owed + 1) := by
  unfold Tallies
  by_cases hsize : size = 2
  · rw [if_pos (.inr hsize)]
    simp only [hsize, true_implies, ne_eq, not_true, false_implies, and_true]
    omega
  · simp only [hsize, false_implies, true_and, ne_eq, not_false_eq_true, true_implies, or_false]
    by_cases hq : count + 1 = quorum size
    · rw [if_pos hq]
      omega
    · rw [if_neg hq]
      omega

/-- The state once `a` has acked entry `n`. -/
def ackedBy (s : State α) (a : SocketAddr) (n : OpId) : State α :=
  { s with acked := (a, n) :: s.acked }

omit [AddrHash] in
theorem owing_ackedBy_ne {a : SocketAddr} (hne : m ≠ n) :
    ((s.ackedBy a n).owing m).length = (s.owing m).length := by
  refine owing_congr fun b => ?_
  rw [mem_owing, mem_owing]
  refine and_congr_right fun _ => not_congr ?_
  show (b, m) ∈ (a, n) :: s.acked ↔ _
  rw [List.mem_cons]
  exact or_iff_right fun he => hne (Prod.mk.inj he).2

omit [AddrHash] in
theorem owing_ackedBy {a : SocketAddr} (ha : a ∈ s.owing n) :
    ((s.ackedBy a n).owing n).length + 1 = (s.owing n).length := by
  have hperm : ((s.ackedBy a n).owing n).Perm ((s.owing n).erase a) := by
    refine (List.perm_ext_iff_of_nodup (nodup_owing _ n) ((nodup_owing s n).erase a)).mpr
      fun b => ?_
    rw [(nodup_owing s n).mem_erase_iff, mem_owing, mem_owing]
    show (b, n) ∈ s.logged ∧ (b, n) ∉ (a, n) :: s.acked ↔ _
    rw [List.mem_cons, not_or]
    constructor
    · rintro ⟨hlog, hne, hack⟩
      exact ⟨fun he => hne (by rw [he]), hlog, hack⟩
    · rintro ⟨hne, hlog, hack⟩
      exact ⟨hlog, fun he => hne (Prod.mk.inj he).1, hack⟩
  have hpos := List.length_pos_of_mem ha
  rw [hperm.length_eq, List.length_erase_of_mem ha]
  omega

/-- What an ack does to an entry that is pending. -/
theorem ack_becomes {a : SocketAddr} {stored : PendingOperation α}
    (hlook : s.leader.operations.lookup n = some stored) (hsize : s.size ≠ 0) :
    ∃ s', (s.ackedBy a n).turn (.nodeMsg (.ok (.ack n))) [] = some s' ∧
      Becomes (s.ackedBy a n) s'
        (s.leader.operations.insert n { stored with ackCount := stored.ackCount + 1 })
        s.leader.cluster []
        (if stored.ackCount + 1 = quorum s.size ∨ s.size = 2 then [(n, stored.op)] else []) := by
  obtain ⟨t', hr, hleaves⟩ := Leader.runOnce_ack (t := Task.ready s.leader 0) hlook hsize
  have hturn : (s.ackedBy a n).turn (.nodeMsg (.ok (.ack n))) [] = some
      { s.ackedBy a n with
        leader := t'.self
        logged := s.logged ++ t'.sent.filterMap log?
        commands := s.commands ++ t'.commands
        running := s.running ++ t'.commands } := by
    unfold turn
    show (match Node.runOnce (.nodeMsg (.ok (.ack n))) (Task.ready s.leader 0) with
      | .ok .none t => _
      | _ => none) = _
    rw [hr]
    rfl
  refine ⟨_, hturn, ?_⟩
  obtain ⟨t'', hr', hbecomes⟩ := turn_becomes hturn
  obtain rfl : t' = t'' := (EStateM.Result.ok.inj (hr.symm.trans hr')).2
  exact hbecomes hleaves

theorem settled_ack {a : SocketAddr} (hs : s.Settled) (ha : a ∈ s.owing n)
    (h : (s.ackedBy a n).turn (.nodeMsg (.ok (.ack n))) [] = some s') : s'.Settled := by
  cases hlook : s.leader.operations.lookup n with
  | none =>
    obtain ⟨t', hr, hbecomes⟩ := turn_becomes h
    have hsame := Leader.runOnce_ack_unknown (t := Task.ready s.leader 0) hlook
    obtain rfl := (EStateM.Result.ok.inj (hsame.symm.trans hr)).2
    have hb : Becomes (s.ackedBy a n) s' s.leader.operations s.leader.cluster [] [] :=
      hbecomes ⟨rfl, rfl, rfl, rfl⟩
    intro m hm
    obtain ⟨hexec, htallied⟩ := hb.tallied (n := m) rfl nofun nofun s.size
    refine ⟨by rw [hexec]; exact (hs m hm).1, fun p hp => ?_⟩
    have hmn : m ≠ n := by
      rintro rfl
      rw [hb.operations, hlook] at hp
      cases hp
    have hold : (s.ackedBy a n).Tallied s.size m := by
      intro p hp
      rw [owing_ackedBy_ne hmn]
      exact (hs m hm).2 p hp
    rw [show s'.size = s.size from hb.size]
    exact htallied.mpr hold p hp
  | some stored =>
    have hsize : s.size ≠ 0 := by
      intro hzero
      obtain ⟨t', hr, -⟩ := turn_becomes h
      exact Leader.runOnce_ack_empty (t := Task.ready s.leader 0) hlook hzero hr
    obtain ⟨s'', hturn, hb⟩ := ack_becomes (a := a) hlook hsize
    obtain rfl := Option.some.inj (hturn.symm.trans h)
    intro m hm
    rw [show s''.size = s.size from hb.size]
    by_cases hmn : m = n
    · subst hmn
      have hold := (hs m hm).2 stored hlook
      rw [← owing_ackedBy ha] at hold
      have hack := (tallies_ack _ _ _ _).mpr ⟨(hs m hm).1, hold⟩
      have hexec : s''.executions m = s.executions m +
          if stored.ackCount + 1 = quorum s.size ∨ s.size = 2 then 1 else 0 := by
        rw [hb.executions]
        split
        · rw [List.countP_singleton, if_pos (decide_eq_true rfl)]
          rfl
        · rfl
      rw [hexec]
      refine ⟨hack.1, fun p hp => ?_⟩
      rw [hb.operations, AList.lookup_insert] at hp
      obtain rfl := Option.some.inj hp
      rw [hb.owing nofun]
      exact hack.2
    · obtain ⟨hexec, htallied⟩ := hb.tallied (n := m) (AList.lookup_insert_ne hmn) nofun
        (fun c hc he => hmn (by
          split at hc
          · rw [← he, List.mem_singleton.mp hc]
          · cases hc)) s.size
      refine ⟨by rw [hexec]; exact (hs m hm).1, htallied.mpr fun p hp => ?_⟩
      rw [owing_ackedBy_ne hmn]
      exact (hs m hm).2 p hp

theorem settled_result {op : Operation α} {r : OperationResult α}
    {outcomes : List (Option AppError)} {rest : List (OpId × Operation α)} (hs : s.Settled)
    (h : { s with running := rest }.turn (.actorEvent (.operationResult n op r)) outcomes =
      some s') : s'.Settled := by
  obtain ⟨t', hr, hbecomes⟩ := turn_becomes h
  obtain ⟨operations, out, hops, hout, hleaves⟩ := Leader.runOnce_result hr
  have hb := hbecomes hleaves
  rw [log?_none hout] at hb
  intro m hm
  have hexec : s'.executions m = s.executions m := by rw [hb.executions, List.countP_nil]; rfl
  refine ⟨by rw [hexec]; exact (hs m hm).1, fun p hp => ?_⟩
  have hlook : s.leader.operations.lookup m = some p := by
    rw [hb.operations] at hp
    rcases hops with rfl | rfl
    · exact hp
    · have hmn : m ≠ n := by
        rintro rfl
        rw [AList.lookup_erase] at hp
        cases hp
      rwa [AList.lookup_erase_ne hmn] at hp
  rw [show s'.size = s.size from hb.size, hexec, hb.owing nofun]
  exact (hs m hm).2 p hlook

/-- **A step leaves everything settled exactly when it is safe.** -/
theorem step_settled_iff [DecidableEq α] {l : Label α} (hs : s.Settled)
    (h : s.step l = some s') : s'.Settled ↔ s.Safe l := by
  cases l with
  | ask event outcomes =>
    obtain ⟨hasks, hturn⟩ := Option.ite_none_right_eq_some.mp h
    obtain ⟨reqId, op, addr, hcalls⟩ := calls_of_asks hasks
    obtain ⟨t', hr, hbecomes⟩ := turn_becomes hturn
    show _ ↔ s.SafeAsk outcomes
    unfold SafeAsk
    by_cases hsize : s.size = 1
    · have hb := hbecomes (Leader.runOnce_lone hcalls hsize hr)
      rw [Becomes.settled_lone hs hsize hb]
      exact ⟨fun hzero => ⟨fun _ => hzero, fun hne => absurd hsize hne⟩, fun h => h.1 hsize⟩
    · have hb := hbecomes (Leader.runOnce_request hcalls rfl hsize hr)
      rw [log?_map] at hb
      rw [Becomes.settled_stores rfl hs hb]
      exact ⟨fun hfits => ⟨fun he => absurd he hsize, fun _ => hfits⟩, fun h => h.2 hsize⟩
  | ack replica opId =>
    obtain ⟨ha, hturn⟩ := Option.ite_none_right_eq_some.mp h
    exact iff_of_true (settled_ack hs ha hturn) True.intro
  | join addr outcomes =>
    obtain ⟨t', hr, hbecomes⟩ := turn_becomes h
    have hb := hbecomes (Leader.runOnce_join rfl hr)
    rw [log?_none fun m hm => ?_] at hb
    · exact hb.settled_members hs fun c hc => by rw [List.mem_singleton.mp hc]
    · obtain ⟨a, -, rfl⟩ := List.mem_map.mp hm
      rfl
  | lost addr =>
    have hturn : s.turn (.nodeMsg (.error (.connectionLostWith addr))) [] = some s' := h
    obtain ⟨t', hr, hbecomes⟩ := turn_becomes hturn
    exact (hbecomes (Leader.runOnce_lost hr)).settled_members hs nofun
  | result opId op r outcomes =>
    obtain ⟨-, hturn⟩ := Option.ite_none_right_eq_some.mp h
    exact iff_of_true (settled_result hs hturn) True.intro

omit [AddrHash] in
theorem Fresh.settled (h : s.Fresh) : s.Settled := by
  intro n _
  unfold executions
  rw [h.commands, List.countP_nil]
  refine ⟨Nat.zero_le _, fun p hp => ?_⟩
  rw [h.pending, AList.lookup_empty] at hp
  cases hp

/-! ## The acks outstanding -/

omit [AddrHash] in
/-- An entry that does not tally, although it was executed once at most, is owed an ack. -/
theorem owed_of_not_tallies {size executions count : Nat} (hone : executions ≤ 1) :
    Tallies size executions count 0 := by
  refine ⟨fun _ => by omega, fun _ => by omega⟩

/-- **The condition asks no more than it must**: where an entry does not tally, the acks
    outstanding alone execute it a second time. -/
theorem untallied_repeats [DecidableEq α] {p : PendingOperation α} (owed : Nat)
    (howed : (s.owing n).length = owed) (hlook : s.leader.operations.lookup n = some p)
    (hnot : ¬ (s.executions n ≤ 1 ∧ Tallies s.size (s.executions n) p.ackCount owed)) :
    ∃ ls u, (∀ l ∈ ls, l.isAck = true) ∧ Lib.run step s ls = some u ∧ 2 ≤ u.executions n := by
  induction owed generalizing s p with
  | zero =>
    have hmany : 2 ≤ s.executions n := by
      by_contra hlt
      exact hnot ⟨by omega, owed_of_not_tallies (by omega)⟩
    exact ⟨[], s, List.forall_mem_nil _, rfl, hmany⟩
  | succ owed ih =>
    by_cases hmany : 2 ≤ s.executions n
    · exact ⟨[], s, List.forall_mem_nil _, rfl, hmany⟩
    have hsize : s.size ≠ 0 := by
      intro hzero
      refine hnot ⟨by omega, fun he => absurd (hzero.symm.trans he) (by decide), fun _ => ?_⟩
      rw [hzero, show quorum 0 = 0 from by decide]
      exact .inr (.inl (Nat.zero_le _))
    obtain ⟨a, ha⟩ : ∃ a, a ∈ s.owing n := by
      apply List.exists_mem_of_length_pos
      omega
    obtain ⟨s', hturn, hb⟩ := ack_becomes (a := a) hlook hsize
    have hstep : s.step (.ack a n) = some s' := by
      show (if a ∈ s.owing n then _ else none) = _
      rw [if_pos ha]
      exact hturn
    have hexec : s'.executions n = s.executions n +
        if p.ackCount + 1 = quorum s.size ∨ s.size = 2 then 1 else 0 := by
      rw [hb.executions]
      split
      · rw [List.countP_singleton, if_pos (decide_eq_true rfl)]
        rfl
      · rfl
    have howed' : (s'.owing n).length = owed := by
      have hless := owing_ackedBy ha
      rw [hb.owing nofun]
      omega
    have hlook' : s'.leader.operations.lookup n = some { p with ackCount := p.ackCount + 1 } := by
      rw [hb.operations]
      exact AList.lookup_insert _
    have hnot' : ¬ (s'.executions n ≤ 1 ∧
        Tallies s'.size (s'.executions n) (p.ackCount + 1) owed) := by
      rw [show s'.size = s.size from hb.size, hexec, tallies_ack]
      exact hnot
    obtain ⟨ls, u, hls, hrun, hu⟩ := ih howed' hlook' hnot'
    refine ⟨.ack a n :: ls, u, fun l hl => ?_, run_cons.mpr ⟨s', hstep, hrun⟩, hu⟩
    rcases List.mem_cons.mp hl with rfl | hl
    · rfl
    · exact hls l hl

/-- Acks alone leave everything settled. -/
theorem acks_settled [DecidableEq α] {ls : List (Label α)} (hls : ∀ l ∈ ls, l.isAck = true)
    (hr : Lib.run step s ls = some s') (hs : s.Settled) : s'.Settled := by
  refine run_induct_meets (C := fun _ l => l.isAck = true) (fun t l t' ht hl hstep => ?_) hr
    (meets_of_forall hls s) hs
  apply (step_settled_iff ht hstep).mpr
  cases l with
  | ack replica opId => exact True.intro
  | _ => cases hl

end State

open Quorums.State

/-- **When no op is executed twice.** Over any run of a leader, whatever acks outstanding
    come in at any moment of it, every op is executed at most once if and only if every
    request, join and loss is safe. Op id 0 is that of the leader's own snapshots. -/
theorem executed_once [AddrHash] [DecidableEq α] {s₀ s : State α} {ls : List (Label α)}
    (h₀ : s₀.Fresh) (hr : Lib.run step s₀ ls = some s) :
    (∀ ks t as u, ks <+: ls → Lib.run step s₀ ks = some t → (∀ l ∈ as, l.isAck = true) →
      Lib.run step t as = some u → ∀ n, n ≠ 0 → u.executions n ≤ 1) ↔
    Meets step Safe s₀ ls := by
  have halong := holds_along_iff (I := fun _ => True) (P := Settled) (C := Safe)
    (D := fun _ => True) (fun _ _ _ _ _ _ => True.intro)
    (fun t l t' _ ht _ hstep => step_settled_iff ht hstep) hr (fun _ _ => True.intro) True.intro
    h₀.settled
  rw [← halong]
  constructor
  · intro honce ks t hks ht n hn
    have hone : t.executions n ≤ 1 := honce ks t [] t hks ht (List.forall_mem_nil _) rfl n hn
    refine ⟨hone, fun p hp => ?_⟩
    by_contra hnot
    obtain ⟨as, u, has, hu, hmany⟩ :=
      untallied_repeats _ rfl hp fun htallied => hnot htallied.2
    have hle := honce ks t as u hks ht has hu n hn
    omega
  · intro hsettled ks t as u hks ht has hu n hn
    exact (acks_settled has hu (hsettled ks t hks ht) n hn).1

section Example

local instance quorumsHash : AddrHash := localHash

/-- The leader at port 5000, with two replicas. -/
def threeMembers : State Nat where
  leader := .fromExisting (getIdGivenAddr (localAddr 5000)) 1 (localAddr 5000)
    ([5000, 5001, 5002].foldl (fun members port =>
      members.insert (getIdGivenAddr (localAddr port)) (localAddr port)) ∅) ∅ false []
  logged := []
  acked := []
  commands := []
  running := []

/-- A charge that both replicas ack. -/
def twoAcks : List (Label Nat) :=
  [.ask (.nodeMsg (.ok (.request 7 (.charge 1 2 30 false) (localAddr 9000)))) [],
    .ack (localAddr 5001) 1, .ack (localAddr 5002) 1]

theorem executed_once_example :
    ∃ s, Lib.run step threeMembers twoAcks = some s ∧ s.executions 1 = 1 ∧
      ∀ n, n ≠ 0 → s.executions n ≤ 1 := by
  have hrun : (Lib.run step threeMembers twoAcks).any (fun s => decide (s.executions 1 = 1)) = true := by
    decide +kernel
  obtain ⟨s, hs, hone⟩ := (Option.any_eq_true _ _).mp hrun
  have hsafe : Meets step Safe threeMembers twoAcks := by decide +kernel
  have honce := (executed_once ⟨rfl, rfl⟩ hs).mpr hsafe
  exact ⟨s, hs, of_decide_eq_true hone, honce twoAcks s [] s (List.prefix_refl _) hs
    (List.forall_mem_nil _) rfl⟩

/-- A member is lost between the two acks: the second one executes the charge again. -/
theorem executed_twice :
    ∃ s, threeMembers.size = 3 ∧ threeMembers.Fresh ∧
      Lib.run step threeMembers
        [.ask (.nodeMsg (.ok (.request 7 (.charge 1 2 30 false) (localAddr 9000)))) [],
          .ack (localAddr 5001) 1, .lost (localAddr 5001), .ack (localAddr 5002) 1] = some s ∧
      s.executions 1 = 2 := by
  have hrun : (Lib.run step threeMembers
      [.ask (.nodeMsg (.ok (.request 7 (.charge 1 2 30 false) (localAddr 9000)))) [],
        .ack (localAddr 5001) 1, .lost (localAddr 5001), .ack (localAddr 5002) 1]).any
      (fun s => decide (s.executions 1 = 2)) = true := by
    decide +kernel
  obtain ⟨s, hs, htwo⟩ := (Option.any_eq_true _ _).mp hrun
  exact ⟨s, by decide +kernel, ⟨rfl, rfl⟩, hs, of_decide_eq_true htwo⟩

end Example

end YpfRuta.Cluster.Quorums
