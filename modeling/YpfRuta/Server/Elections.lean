/-
  The election handlers of both roles, in closed form for a connected node whose
  sends succeed: whom a candidate asks, and when a node announces itself.
-/
import YpfRuta.Server.Turn

namespace YpfRuta.Server

variable {α : Type}

/-- The entries of a cluster map, in iteration order. -/
def peersOf (cluster : HashMap NodeId SocketAddr) : List (NodeId × SocketAddr) :=
  cluster.entries.map fun e => (e.1, e.2)

/-- The members with a higher id. -/
def higher (id : NodeId) (cluster : HashMap NodeId SocketAddr) : List (NodeId × SocketAddr) :=
  (peersOf cluster).filter fun peer => id < peer.1

/-- What a candidate sends. -/
def elections (id : NodeId) (address : SocketAddr) (cluster : HashMap NodeId SocketAddr) :
    List (SocketAddr × Message α) :=
  (higher id cluster).map fun peer => (peer.2, .election id address)

/-- What a node that announces itself sends. -/
def announcements (id : NodeId) (address : SocketAddr) (cluster : HashMap NodeId SocketAddr) :
    List (SocketAddr × Message α) :=
  ((peersOf cluster).filter fun peer => ¬ peer.1 = id).map
    fun peer => (peer.2, .coordinator id address)

/-- An election has gone on for two seconds. -/
def Expired (inProgress : Bool) (start : Option Nat) (now : Nat) : Prop :=
  inProgress = true ∧ ∃ s, start = some s ∧ 2000 ≤ now - s

instance (inProgress : Bool) (start : Option Nat) (now : Nat) :
    Decidable (Expired inProgress start now) :=
  decidable_of_iff (inProgress = true ∧ start.any fun s => decide (2000 ≤ now - s)) (by
    simp [Expired, Option.any_eq_true])

section Loops

variable {σ γ : Type} {t : Task α σ}

theorem Task.Reliable.withSelf (h : t.Reliable) (self : σ) :
    ({ t with self := self } : Task α σ).Reliable := ⟨h.connected, h.outcomes⟩

theorem attempt_ok (h : t.Reliable) (msg : Message α) (addr : SocketAddr) :
    (errorOf (send msg addr) >>= fun _ => pure ()) t =
      .ok () { t with sent := t.sent ++ [(addr, msg)] } :=
  bind_ok (errorOf_send_ok h msg addr)

/-- A loop that tries to send to each address of a list. -/
theorem forEach_attempt_ok (h : t.Reliable) (msg : Message α) (addr : γ → SocketAddr)
    (xs : List γ) :
    forEach (fun x => errorOf (send msg (addr x)) >>= fun _ => pure ()) xs t =
      .ok () { t with sent := t.sent ++ xs.map fun x => (addr x, msg) } := by
  induction xs generalizing t with
  | nil => simp [forEach, pure, EStateM.pure]
  | cons x xs ih =>
    unfold forEach
    rw [bind_ok (attempt_ok h msg (addr x)), ih (h.sent _)]
    simp

/-- A loop that tries to send to the addresses that pass a test. -/
theorem forEach_attempt_skip_ok (h : t.Reliable) (skip : γ → Prop) [DecidablePred skip]
    (msg : Message α) (addr : γ → SocketAddr) (xs : List γ) :
    forEach (fun x => if skip x then pure ()
      else errorOf (send msg (addr x)) >>= fun _ => pure ()) xs t =
      .ok () { t with
        sent := t.sent ++ (xs.filter fun x => ¬ skip x).map fun x => (addr x, msg) } := by
  induction xs generalizing t with
  | nil => simp [forEach, pure, EStateM.pure]
  | cons x xs ih =>
    unfold forEach
    by_cases hs : skip x
    · rw [if_pos hs, bind_ok (show (pure () : Handler α σ Unit) t = .ok () t from rfl), ih h]
      simp [hs]
    · rw [if_neg hs, bind_ok (attempt_ok h msg (addr x)), ih (h.sent _)]
      simp [hs]

end Loops

namespace Leader

variable {t : Task α (Leader α)}

/-- The leader with the election it runs, if any. -/
def electing (self : Leader α) (start : Option Nat) : Leader α :=
  { self with electionInProgress := start.isSome, electionStart := start }

theorem anounceCoordinator_ok (h : t.Reliable) :
    anounceCoordinator t = .ok .none { t with
      sent := t.sent ++ announcements t.self.id t.self.address t.self.cluster } := by
  unfold anounceCoordinator
  rw [bind_getSelf]
  exact bind_ok (forEach_attempt_skip_ok h (fun peer : NodeId × SocketAddr => peer.1 = t.self.id)
    _ _ _)

theorem startElection_busy (h : t.self.electionInProgress = true) :
    startElection t = .ok .none t := by
  unfold startElection
  rw [bind_getSelf, if_pos h]
  rfl

theorem startElection_asks (hrel : t.Reliable) (hidle : t.self.electionInProgress = false)
    (h : higher t.self.id t.self.cluster ≠ []) :
    startElection t = .ok .none { t with
      self := t.self.electing (some t.now)
      sent := t.sent ++ elections t.self.id t.self.address t.self.cluster } := by
  unfold startElection
  rw [bind_getSelf, if_neg (by rw [hidle]; exact Bool.false_ne_true)]
  refine (bind_ok (forEach_attempt_ok hrel _ _ _)).trans ?_
  unfold higher peersOf at h
  rw [if_pos h]
  rfl

theorem startElection_announces (hrel : t.Reliable) (hidle : t.self.electionInProgress = false)
    (h : higher t.self.id t.self.cluster = []) :
    startElection t = .ok .none { t with
      self := t.self.electing none
      sent := t.sent ++ announcements t.self.id t.self.address t.self.cluster } := by
  unfold startElection
  rw [bind_getSelf, if_neg (by rw [hidle]; exact Bool.false_ne_true)]
  refine (bind_ok (forEach_attempt_ok hrel _ _ _)).trans ?_
  unfold higher peersOf at h
  rw [if_neg (not_not.mpr h), h, List.map_nil, List.append_nil, bind_modifySelf]
  exact anounceCoordinator_ok (hrel.withSelf (t.self.electing none))

/-- What starting an election makes of a leader, and what it sends. -/
def elect (self : Leader α) (now : Nat) : Leader α × List (SocketAddr × Message α) :=
  if self.electionInProgress = true then (self, [])
  else if higher self.id self.cluster = [] then
    (self.electing none, announcements self.id self.address self.cluster)
  else (self.electing (some now), elections self.id self.address self.cluster)

theorem startElection_ok (hrel : t.Reliable) :
    startElection t = .ok .none { t with
      self := (t.self.elect t.now).1, sent := t.sent ++ (t.self.elect t.now).2 } := by
  unfold elect
  split
  · rename_i hbusy
    rw [startElection_busy hbusy, List.append_nil]
  · rename_i hbusy
    split
    · rename_i hnone
      exact startElection_announces hrel (Bool.eq_false_iff.mpr hbusy) hnone
    · rename_i hsome
      exact startElection_asks hrel (Bool.eq_false_iff.mpr hbusy) hsome

theorem handleElection_ok (hrel : t.Reliable) {candidateId : NodeId} (h : candidateId < t.self.id)
    (candidateAddr : SocketAddr) :
    handleElection candidateId candidateAddr t = .ok .none { t with
      self := (t.self.elect t.now).1
      sent := t.sent ++ [(candidateAddr, .electionOk t.self.id)] ++ (t.self.elect t.now).2 } := by
  unfold handleElection
  rw [bind_getSelf, if_pos h]
  exact (bind_ok (errorOf_send_ok hrel _ _)).trans (startElection_ok (hrel.sent _))

/-- Two seconds without an answer: the leader announces itself again. -/
theorem handleElectionTimeout_expired (hrel : t.Reliable)
    (h : Expired t.self.electionInProgress t.self.electionStart t.now) :
    handleElectionTimeout t = .ok .none { t with
      self := t.self.electing none
      sent := t.sent ++ announcements t.self.id t.self.address t.self.cluster } := by
  obtain ⟨hbusy, start, hstart, hlate⟩ := h
  unfold handleElectionTimeout
  rw [bind_getSelf, if_neg (not_not.mpr hbusy), hstart]
  show (if 2000 ≤ t.now - start then (_ : Handler α (Leader α) RoleChange) else _) t = _
  rw [if_pos hlate, bind_modifySelf]
  exact bind_ok (anounceCoordinator_ok (hrel.withSelf (t.self.electing none)))

theorem handleElectionTimeout_waits
    (h : ¬ Expired t.self.electionInProgress t.self.electionStart t.now) :
    handleElectionTimeout t = .ok .none t := by
  unfold handleElectionTimeout
  rw [bind_getSelf]
  by_cases hbusy : t.self.electionInProgress = true
  · rw [if_neg (not_not.mpr hbusy)]
    cases hstart : t.self.electionStart with
    | none => rfl
    | some start =>
      have hearly : ¬ 2000 ≤ t.now - start := fun hlate => h ⟨hbusy, start, hstart, hlate⟩
      show (if 2000 ≤ t.now - start then (_ : Handler α (Leader α) RoleChange) else _) t = _
      rw [if_neg hearly]
      rfl
  · rw [if_pos hbusy]
    rfl

/-- A coordinator with a lower id does not demote a leader. -/
theorem handleCoordinator_keeps {leaderId : NodeId} (h : leaderId < t.self.id)
    (leaderAddr : SocketAddr) :
    handleCoordinator leaderId leaderAddr t =
      .ok .none { t with self := t.self.electing none } := by
  unfold handleCoordinator
  rw [bind_modifySelf, bind_getSelf, if_neg (UInt64.not_le.mpr h)]
  rfl

theorem handleCoordinator_demotes {leaderId : NodeId} (h : t.self.id ≤ leaderId)
    (leaderAddr : SocketAddr) :
    handleCoordinator leaderId leaderAddr t =
      .ok (.demoteToReplica leaderAddr) { t with self := t.self.electing none } := by
  unfold handleCoordinator
  rw [bind_modifySelf, bind_getSelf, if_pos h]
  rfl

end Leader

namespace Replica

variable {t : Task α (Replica α)}

/-- The replica with the election it runs, if any. -/
def electing (self : Replica α) (start : Option Nat) : Replica α :=
  { self with electionInProgress := start.isSome, electionStart := start }

theorem handleCoordinator_promotes {leaderId : NodeId} (h : leaderId = t.self.id)
    (leaderAddr : SocketAddr) :
    handleCoordinator leaderId leaderAddr t =
      .ok .promoteToLeader { t with self := t.self.electing none } := by
  unfold handleCoordinator
  rw [bind_modifySelf, bind_getSelf, if_pos h]
  rfl

theorem handleCoordinator_panics {leaderId : NodeId} (h : leaderId < t.self.id)
    (leaderAddr : SocketAddr) :
    handleCoordinator leaderId leaderAddr t =
      .error (.panic "leader_id should not be less than self")
        { t with self := t.self.electing none } := by
  unfold handleCoordinator
  rw [bind_modifySelf, bind_getSelf, if_neg (UInt64.ne_of_lt h), if_pos h]
  rfl

theorem handleCoordinator_follows {leaderId : NodeId} (h : t.self.id < leaderId)
    (leaderAddr : SocketAddr) :
    handleCoordinator leaderId leaderAddr t =
      .ok .none { t with self := { t.self.electing none with leaderAddr := leaderAddr } } := by
  unfold handleCoordinator
  rw [bind_modifySelf, bind_getSelf, if_neg (UInt64.ne_of_lt h).symm,
    if_neg (UInt64.not_lt.mpr (UInt64.le_of_lt h))]
  rfl

theorem anounceCoordinator_ok (h : t.Reliable) :
    anounceCoordinator t = .ok .promoteToLeader { t with
      self := t.self.electing none
      sent := t.sent ++ announcements t.self.id t.self.address t.self.cluster } := by
  unfold anounceCoordinator
  rw [bind_getSelf]
  refine (bind_ok (forEach_attempt_skip_ok h (fun peer : NodeId × SocketAddr =>
    peer.1 = t.self.id) _ _ _)).trans ?_
  exact handleCoordinator_promotes (t := { t with
    sent := t.sent ++ announcements t.self.id t.self.address t.self.cluster }) rfl _

theorem startElection_busy (h : t.self.electionInProgress = true) :
    startElection t = .ok .none t := by
  unfold startElection
  rw [bind_getSelf, if_pos h]
  rfl

theorem startElection_asks (hrel : t.Reliable) (hidle : t.self.electionInProgress = false)
    (h : higher t.self.id t.self.cluster ≠ []) :
    startElection t = .ok .none { t with
      self := t.self.electing (some t.now)
      sent := t.sent ++ elections t.self.id t.self.address t.self.cluster } := by
  unfold startElection
  rw [bind_getSelf, if_neg (by rw [hidle]; exact Bool.false_ne_true)]
  refine (bind_ok (forEach_attempt_ok hrel _ _ _)).trans ?_
  unfold higher peersOf at h
  rw [if_pos h]
  rfl

theorem startElection_announces (hrel : t.Reliable) (hidle : t.self.electionInProgress = false)
    (h : higher t.self.id t.self.cluster = []) :
    startElection t = .ok .promoteToLeader { t with
      self := t.self.electing none
      sent := t.sent ++ announcements t.self.id t.self.address t.self.cluster } := by
  unfold startElection
  rw [bind_getSelf, if_neg (by rw [hidle]; exact Bool.false_ne_true)]
  refine (bind_ok (forEach_attempt_ok hrel _ _ _)).trans ?_
  unfold higher peersOf at h
  rw [if_neg (not_not.mpr h), h, List.map_nil, List.append_nil, bind_modifySelf]
  exact anounceCoordinator_ok (hrel.withSelf (t.self.electing none))

/-- What starting an election makes of a replica, the role it asks for, and what it
    sends. -/
def elect (self : Replica α) (now : Nat) :
    RoleChange × Replica α × List (SocketAddr × Message α) :=
  if self.electionInProgress = true then (.none, self, [])
  else if higher self.id self.cluster = [] then
    (.promoteToLeader, self.electing none, announcements self.id self.address self.cluster)
  else (.none, self.electing (some now), elections self.id self.address self.cluster)

theorem startElection_ok (hrel : t.Reliable) :
    startElection t = .ok (t.self.elect t.now).1 { t with
      self := (t.self.elect t.now).2.1, sent := t.sent ++ (t.self.elect t.now).2.2 } := by
  unfold elect
  split
  · rename_i hbusy
    rw [startElection_busy hbusy, List.append_nil]
  · rename_i hbusy
    split
    · rename_i hnone
      exact startElection_announces hrel (Bool.eq_false_iff.mpr hbusy) hnone
    · rename_i hsome
      exact startElection_asks hrel (Bool.eq_false_iff.mpr hbusy) hsome

theorem handleElection_ok (hrel : t.Reliable) {candidateId : NodeId} (h : candidateId < t.self.id)
    (candidateAddr : SocketAddr) :
    handleElection candidateId candidateAddr t = .ok (t.self.elect t.now).1 { t with
      self := (t.self.elect t.now).2.1
      sent := t.sent ++ [(candidateAddr, .electionOk t.self.id)] ++ (t.self.elect t.now).2.2 } := by
  unfold handleElection
  rw [bind_getSelf, if_pos h]
  exact (bind_ok (errorOf_send_ok hrel _ _)).trans (startElection_ok (hrel.sent _))

/-- Two seconds without an answer: the replica promotes itself. -/
theorem handleElectionTimeout_expired (hrel : t.Reliable)
    (h : Expired t.self.electionInProgress t.self.electionStart t.now) :
    handleElectionTimeout t = .ok .promoteToLeader { t with
      self := t.self.electing none
      sent := t.sent ++ announcements t.self.id t.self.address t.self.cluster } := by
  obtain ⟨hbusy, start, hstart, hlate⟩ := h
  unfold handleElectionTimeout
  rw [bind_getSelf, if_neg (not_not.mpr hbusy), hstart]
  show (if 2000 ≤ t.now - start then (_ : Handler α (Replica α) RoleChange) else _) t = _
  rw [if_pos hlate, bind_modifySelf]
  exact anounceCoordinator_ok (hrel.withSelf (t.self.electing none))

theorem handleElectionTimeout_waits
    (h : ¬ Expired t.self.electionInProgress t.self.electionStart t.now) :
    handleElectionTimeout t = .ok .none t := by
  unfold handleElectionTimeout
  rw [bind_getSelf]
  by_cases hbusy : t.self.electionInProgress = true
  · rw [if_neg (not_not.mpr hbusy)]
    cases hstart : t.self.electionStart with
    | none => rfl
    | some start =>
      have hearly : ¬ 2000 ≤ t.now - start := fun hlate => h ⟨hbusy, start, hstart, hlate⟩
      show (if 2000 ≤ t.now - start then (_ : Handler α (Replica α) RoleChange) else _) t = _
      rw [if_neg hearly]
      rfl
  · rw [if_pos hbusy]
    rfl

end Replica

/-! ## A node in whichever role it holds -/

namespace NodeRuntime

def id : NodeRuntime α → NodeId
  | .leader self => self.id
  | .replica self => self.id

def address : NodeRuntime α → SocketAddr
  | .leader self => self.address
  | .replica self => self.address

def cluster : NodeRuntime α → HashMap NodeId SocketAddr
  | .leader self => self.cluster
  | .replica self => self.cluster

def electionInProgress : NodeRuntime α → Bool
  | .leader self => self.electionInProgress
  | .replica self => self.electionInProgress

def electionStart : NodeRuntime α → Option Nat
  | .leader self => self.electionStart
  | .replica self => self.electionStart

def leads : NodeRuntime α → Bool
  | .leader _ => true
  | .replica _ => false

/-- Where a replica believes the leader is. -/
def follows : NodeRuntime α → Option SocketAddr
  | .leader _ => none
  | .replica self => some self.leaderAddr

def electing (start : Option Nat) : NodeRuntime α → NodeRuntime α
  | .leader self => .leader (self.electing start)
  | .replica self => .replica (self.electing start)

/-- The node as a replica of `leaderAddr`. -/
def follow (leaderAddr : SocketAddr) : NodeRuntime α → NodeRuntime α
  | .leader self => .replica ((self.electing none).intoReplica leaderAddr)
  | .replica self => .replica { self.electing none with leaderAddr := leaderAddr }

/-- The node once it has announced itself. -/
def announced (node : NodeRuntime α) : NodeRuntime α :=
  (node.electing none).changeRole .promoteToLeader

/-- What a node that announces itself sends. -/
def announcing (node : NodeRuntime α) : List (SocketAddr × Message α) :=
  announcements node.id node.address node.cluster

/-- What starting an election makes of a node, and what it sends. -/
def elect (node : NodeRuntime α) (now : Nat) : NodeRuntime α × List (SocketAddr × Message α) :=
  if node.electionInProgress = true then (node, [])
  else if higher node.id node.cluster = [] then (node.announced, node.announcing)
  else (node.electing (some now), elections node.id node.address node.cluster)

section Facts

variable (node : NodeRuntime α) (start : Option Nat) (leaderAddr : SocketAddr)

@[simp] theorem electing_id : (node.electing start).id = node.id := by cases node <;> rfl

@[simp] theorem electing_address : (node.electing start).address = node.address := by
  cases node <;> rfl

@[simp] theorem electing_cluster : (node.electing start).cluster = node.cluster := by
  cases node <;> rfl

@[simp] theorem electing_leads : (node.electing start).leads = node.leads := by cases node <;> rfl

@[simp] theorem electing_follows : (node.electing start).follows = node.follows := by
  cases node <;> rfl

@[simp] theorem electing_electionInProgress :
    (node.electing start).electionInProgress = start.isSome := by
  cases node <;> rfl

@[simp] theorem follow_id : (node.follow leaderAddr).id = node.id := by cases node <;> rfl

@[simp] theorem follow_address : (node.follow leaderAddr).address = node.address := by
  cases node <;> rfl

@[simp] theorem follow_cluster : (node.follow leaderAddr).cluster = node.cluster := by
  cases node <;> rfl

@[simp] theorem follow_follows : (node.follow leaderAddr).follows = some leaderAddr := by
  cases node <;> rfl

@[simp] theorem follow_electionInProgress :
    (node.follow leaderAddr).electionInProgress = false := by
  cases node <;> rfl

@[simp] theorem announced_id : node.announced.id = node.id := by cases node <;> rfl

@[simp] theorem announced_address : node.announced.address = node.address := by
  cases node <;> rfl

@[simp] theorem announced_cluster : node.announced.cluster = node.cluster := by
  cases node <;> rfl

@[simp] theorem announced_leads : node.announced.leads = true := by cases node <;> rfl

@[simp] theorem announced_electionInProgress : node.announced.electionInProgress = false := by
  cases node <;> rfl

end Facts

/-- `start_election` of either role, with the role swap it asks for. -/
def startElection : Handler α (NodeRuntime α) Unit := fun t =>
  match t.self with
  | .leader self => runAs .leader self Leader.startElection t
  | .replica self => runAs .replica self Replica.startElection t

section Turns

variable {t : Task α (NodeRuntime α)}

theorem runAs_ok {σ : Type} {role : σ → NodeRuntime α} {self : σ}
    {x : Handler α σ RoleChange} {rc : RoleChange} {t' : Task α σ} (h : x { t with self := self } = .ok rc t') :
    runAs role self x t = .ok () { t' with self := (role t'.self).changeRole rc } := by
  unfold runAs
  rw [h]

theorem leader_elect (self : Leader α) (now : Nat) :
    elect (.leader self) now = (.leader (self.elect now).1, (self.elect now).2) := by
  unfold elect Leader.elect
  show (if self.electionInProgress = true then _ else if higher self.id self.cluster = [] then _
    else _) = _
  split
  · rfl
  · split <;> rfl

theorem replica_elect (self : Replica α) (now : Nat) :
    elect (.replica self) now =
      ((NodeRuntime.replica (self.elect now).2.1).changeRole (self.elect now).1,
        (self.elect now).2.2) := by
  unfold elect Replica.elect
  show (if self.electionInProgress = true then _ else if higher self.id self.cluster = [] then _
    else _) = _
  split
  · rfl
  · split <;> rfl

theorem startElection_ok (hrel : t.Reliable) :
    startElection t = .ok () { t with
      self := (t.self.elect t.now).1, sent := t.sent ++ (t.self.elect t.now).2 } := by
  unfold startElection
  cases hself : t.self with
  | leader self =>
    rw [leader_elect]
    exact runAs_ok (Leader.startElection_ok (t := { t with self := self })
      ⟨hrel.connected, hrel.outcomes⟩)
  | replica self =>
    rw [replica_elect]
    exact runAs_ok (Replica.startElection_ok (t := { t with self := self })
      ⟨hrel.connected, hrel.outcomes⟩)

variable [AddrHash]

theorem turn_election (hrel : t.Reliable) {candidateId : NodeId} (h : candidateId < t.self.id)
    (candidateAddr : SocketAddr) :
    turn (.nodeMsg (.ok (.election candidateId candidateAddr))) t = .ok () { t with
      self := (t.self.elect t.now).1
      sent := t.sent ++ [(candidateAddr, .electionOk t.self.id)] ++ (t.self.elect t.now).2 } := by
  cases hself : t.self with
  | leader self =>
    rw [hself] at h
    rw [leader_elect]
    have hsel : Node.select (Event.nodeMsg (.ok (.election candidateId candidateAddr)))
        ({ t with self := self } : Task α (Leader α)) = _ :=
      Leader.handleElection_ok (t := { t with self := self })
        ⟨hrel.connected, hrel.outcomes⟩ h candidateAddr
    exact turn_leader hself hsel
  | replica self =>
    rw [hself] at h
    rw [replica_elect]
    have hsel : Node.select (Event.nodeMsg (.ok (.election candidateId candidateAddr)))
        ({ t with self := self } : Task α (Replica α)) = _ :=
      Replica.handleElection_ok (t := { t with self := self })
        ⟨hrel.connected, hrel.outcomes⟩ h candidateAddr
    exact turn_replica hself hsel

theorem turn_electionOk (responderId : NodeId) :
    turn (.nodeMsg (.ok (.electionOk responderId))) t =
      .ok () { t with self := t.self.electing none } := by
  cases hself : t.self with
  | leader self =>
    have hsel : Node.select (Event.nodeMsg (.ok (.electionOk responderId)))
        ({ t with self := self } : Task α (Leader α)) =
          .ok .none { t with self := self.electing none } := rfl
    exact turn_leader hself hsel
  | replica self =>
    have hsel : Node.select (Event.nodeMsg (.ok (.electionOk responderId)))
        ({ t with self := self } : Task α (Replica α)) =
          .ok .none { t with self := self.electing none } := rfl
    exact turn_replica hself hsel

/-- An announcement from a higher id. -/
theorem turn_coordinator {leaderId : NodeId} (h : t.self.id < leaderId) (leaderAddr : SocketAddr) :
    turn (.nodeMsg (.ok (.coordinator leaderId leaderAddr))) t =
      .ok () { t with self := t.self.follow leaderAddr } := by
  cases hself : t.self with
  | leader self =>
    rw [hself] at h
    have hsel : Node.select (Event.nodeMsg (.ok (.coordinator leaderId leaderAddr)))
        ({ t with self := self } : Task α (Leader α)) = _ :=
      Leader.handleCoordinator_demotes (t := { t with self := self }) (UInt64.le_of_lt h) leaderAddr
    exact turn_leader hself hsel
  | replica self =>
    rw [hself] at h
    have hsel : Node.select (Event.nodeMsg (.ok (.coordinator leaderId leaderAddr)))
        ({ t with self := self } : Task α (Replica α)) = _ :=
      Replica.handleCoordinator_follows (t := { t with self := self }) h leaderAddr
    exact turn_replica hself hsel

/-- An announcement from a lower id, at a leader. -/
theorem turn_coordinator_lower {leaderId : NodeId} (h : leaderId < t.self.id)
    (hlead : t.self.leads = true) (leaderAddr : SocketAddr) :
    turn (.nodeMsg (.ok (.coordinator leaderId leaderAddr))) t =
      .ok () { t with self := t.self.electing none } := by
  cases hself : t.self with
  | leader self =>
    rw [hself] at h
    have hsel : Node.select (Event.nodeMsg (.ok (.coordinator leaderId leaderAddr)))
        ({ t with self := self } : Task α (Leader α)) = _ :=
      Leader.handleCoordinator_keeps (t := { t with self := self }) h leaderAddr
    exact turn_leader hself hsel
  | replica self =>
    rw [hself] at hlead
    cases hlead

theorem turn_electionCheck_expired (hrel : t.Reliable)
    (h : Expired t.self.electionInProgress t.self.electionStart t.now) :
    turn .electionCheck t = .ok () { t with
      self := t.self.announced, sent := t.sent ++ t.self.announcing } := by
  cases hself : t.self with
  | leader self =>
    rw [hself] at h
    have hsel : Node.select Event.electionCheck
        ({ t with self := self } : Task α (Leader α)) = _ :=
      Leader.handleElectionTimeout_expired (t := { t with self := self })
        ⟨hrel.connected, hrel.outcomes⟩ h
    exact turn_leader hself hsel
  | replica self =>
    rw [hself] at h
    have hsel : Node.select Event.electionCheck
        ({ t with self := self } : Task α (Replica α)) = _ :=
      Replica.handleElectionTimeout_expired (t := { t with self := self })
        ⟨hrel.connected, hrel.outcomes⟩ h
    exact turn_replica hself hsel

theorem turn_electionCheck_waits
    (h : ¬ Expired t.self.electionInProgress t.self.electionStart t.now) :
    turn .electionCheck t = .ok () t := by
  cases hself : t.self with
  | leader self =>
    rw [hself] at h
    have hsel : Node.select Event.electionCheck
        ({ t with self := self } : Task α (Leader α)) = _ :=
      Leader.handleElectionTimeout_waits (t := { t with self := self }) h
    refine (turn_leader hself hsel).trans ?_
    show EStateM.Result.ok () { t with self := NodeRuntime.leader self } = _
    rw [← hself]
  | replica self =>
    rw [hself] at h
    have hsel : Node.select Event.electionCheck
        ({ t with self := self } : Task α (Replica α)) = _ :=
      Replica.handleElectionTimeout_waits (t := { t with self := self }) h
    refine (turn_replica hself hsel).trans ?_
    show EStateM.Result.ok () { t with self := NodeRuntime.replica self } = _
    rw [← hself]

end Turns

end NodeRuntime

end YpfRuta.Server
