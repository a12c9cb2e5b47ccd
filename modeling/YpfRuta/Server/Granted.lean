/-
  The charges a server node granted while it was offline, over whole runs of the
  node: any commands of its station, any messages, database results and election
  checks, sends that succeed or fail, in either role.
-/
import Mathlib.Data.List.Induction
import Mathlib.Data.List.Perm.Basic
import YpfRuta.Server.Offline

namespace YpfRuta.Server

open Lib

variable {α : Type}

/-- A server node by itself. `granted` are the charges it allowed while offline, and
    `submitted` those of them it handed to its connection, with where they went. -/
structure Served (α : Type) where
  runtime : NodeRuntime α
  connected : Bool
  down : Bool
  granted : List (Operation α)
  submitted : List (SocketAddr × Operation α)

/-- What a turn wakes up for, how its sends end and when it is. -/
structure Wake (α : Type) where
  event : Event α
  outcomes : List (Option AppError)
  now : Nat

/-- The charge a turn allows while offline, if it told the station so. -/
def granting (node : NodeRuntime α) (told : List NodeToStationMsg) :
    Event α → List (Operation α)
  | .stationMsg (.chargeRequest accountId cardId amount requestId) =>
    if node.isOffline ∧ .chargeResult requestId true none ∈ told then
      [.charge accountId cardId amount true]
    else []
  | _ => []

/-- The offline charges a turn submits. A request of another node is only passed on. -/
def submitting (sent : List (SocketAddr × Message α)) :
    Event α → List (SocketAddr × Operation α)
  | .nodeMsg (.ok (.request ..)) => []
  | _ => sent.filterMap offlineRequest?

/-- Whether a handler ended in a fault. -/
def faulted {σ β : Type} : EStateM.Result Fault (Task α σ) β → Bool
  | .ok .. => false
  | .error .. => true

namespace Served

/-- The node as it enters its main loop. -/
def start (runtime : NodeRuntime α) : Served α where
  runtime := runtime
  connected := true
  down := false
  granted := []
  submitted := []

def queue (s : Served α) : List (Operation α) := s.runtime.offlineQueue

def task (s : Served α) (w : Wake α) : Task α (NodeRuntime α) where
  self := s.runtime
  connected := s.connected
  outcomes := w.outcomes
  now := w.now
  sent := []
  told := []
  commands := []

def after (s : Served α) (event : Event α) (down : Bool) (t : Task α (NodeRuntime α)) :
    Served α where
  runtime := t.self
  connected := t.connected
  down := down
  granted := s.granted ++ granting s.runtime t.told event
  submitted := s.submitted ++ submitting t.sent event

/-- One turn of the node. -/
def step [AddrHash] (s : Served α) (w : Wake α) : Option (Served α) :=
  if s.down then none
  else
    let r := NodeRuntime.turn w.event (s.task w)
    some (s.after w.event (faulted r) (left r))

/-- The node is offline, or told to go offline. -/
def Away (s : Served α) (w : Wake α) : Prop :=
  s.runtime.isOffline = true ∨ w.event = .stationMsg .disconnectNode

/-- A snapshot is installed at a replica, which makes it drain its queue. -/
def Installs (s : Served α) (w : Wake α) : Prop :=
  match s.runtime, w.event with
  | .replica _, .actorEvent (.operationResult _ (.replaceDatabase _) _) => True
  | _, _ => False

instance (s : Served α) (w : Wake α) : Decidable (s.Installs w) := by
  unfold Installs
  split <;> infer_instance

/-- When a replica drains its queue, all its sends succeed. -/
def Drains (s : Served α) (w : Wake α) : Prop :=
  s.Installs w → Replica.clear s.connected w.outcomes s.queue.length

instance (s : Served α) (w : Wake α) : Decidable (s.Drains w) := by
  unfold Drains Replica.clear
  infer_instance

end Served

/-! ## The handles a turn leaves -/

section Left

variable {σ β γ : Type}

theorem left_errorOf (x : Handler α σ Unit) (t : Task α σ) : left (errorOf x t) = left (x t) := by
  unfold errorOf
  split <;> rename_i h <;> rw [h] <;> rfl

theorem left_bind_pure (x : Handler α σ β) (c : γ) (t : Task α σ) :
    left ((x >>= fun _ => pure c) t) = left (x t) := by
  cases h : x t with
  | ok b t' =>
    rw [bind_ok h]
    rfl
  | error e t' =>
    rw [bind_error h]
    rfl

/-- A turn stays within the frame of the handler of its event, if the loss of a peer
    does too. -/
theorem runOnce_framed [Node α σ] {F : Frame α σ} {event : Event α} {t₀ t : Task α σ}
    (hsel : Framed F t₀ (left (Node.select event t)))
    (hlost : ∀ address, Within F (Node.handleConnectionLostWith (σ := σ) address)) :
    Framed F t₀ (left (Node.runOnce event t)) := by
  unfold Node.runOnce
  cases hr : Node.select event t with
  | ok roleChange t' =>
    rw [hr] at hsel
    exact hsel
  | error e t' =>
    rw [hr] at hsel
    cases e with
    | panic message => exact hsel
    | err e =>
      cases e with
      | connectionLostWith address =>
        have hl := hlost address t' hsel.inv
        dsimp only
        cases hr' : Node.handleConnectionLostWith (σ := σ) address t' with
        | ok roleChange t'' =>
          rw [hr'] at hl
          exact hsel.trans hl
        | error e t'' =>
          rw [hr'] at hl
          cases e <;> exact hsel.trans hl
      | connectionLost => exact hsel
      | connectionRefused address => exact hsel
      | channelClosed => exact hsel
      | invalidData details => exact hsel
      | invalidProtocol details => exact hsel

theorem errorOf_error {x : Handler α σ Unit} {t t' : Task α σ} {e : Fault}
    (h : errorOf x t = .error e t') : ∃ m, e = .panic m := by
  unfold errorOf at h
  split at h
  · cases h
  · cases h
  · cases h
    exact ⟨_, rfl⟩

theorem handleActorEvent_result [Node α σ] (opId : OpId) (operation : Operation α)
    (result : OperationResult α) :
    Node.handleActorEvent (σ := σ) (.operationResult opId operation result) =
      errorOf (Node.handleOperationResult opId operation result) >>= fun _ => pure () := rfl

/-- What the database sends never ends a turn early. -/
theorem left_runOnce_actorEvent [Node α σ] (evt : ActorEvent α) (t : Task α σ) :
    left (Node.runOnce (.actorEvent evt) t) = left (Node.handleActorEvent evt t) := by
  have hpanic : ∀ e t', Node.handleActorEvent evt t = .error e t' → ∃ m, e = .panic m := by
    intro e t' h
    cases evt with
    | debug text => cases h
    | operationResult opId operation result =>
      rw [handleActorEvent_result] at h
      cases hr : errorOf (Node.handleOperationResult (σ := σ) opId operation result) t with
      | ok b t'' =>
        rw [bind_ok hr] at h
        cases h
      | error e' t'' =>
        rw [bind_error hr] at h
        cases h
        exact errorOf_error hr
  have hselect : Node.select (.actorEvent evt) t =
      (Node.handleActorEvent evt >>= fun _ => pure RoleChange.none) t := rfl
  unfold Node.runOnce
  rw [hselect]
  cases hr : Node.handleActorEvent evt t with
  | ok b t' =>
    rw [bind_ok hr]
    rfl
  | error e t' =>
    obtain ⟨m, rfl⟩ := hpanic e t' hr
    rw [bind_error hr]
    rfl

end Left

section RunAs

variable {σ β : Type}

theorem left_runAs_sent (role : σ → NodeRuntime α) (self : σ)
    (x : Handler α σ RoleChange) (t : Task α (NodeRuntime α)) :
    (left (NodeRuntime.runAs role self x t)).sent = (left (x { t with self := self })).sent := by
  unfold NodeRuntime.runAs
  cases x { t with self := self } <;> rfl

theorem left_runAs_told (role : σ → NodeRuntime α) (self : σ)
    (x : Handler α σ RoleChange) (t : Task α (NodeRuntime α)) :
    (left (NodeRuntime.runAs role self x t)).told = (left (x { t with self := self })).told := by
  unfold NodeRuntime.runAs
  cases x { t with self := self } <;> rfl

theorem left_runAs_connected (role : σ → NodeRuntime α) (self : σ)
    (x : Handler α σ RoleChange) (t : Task α (NodeRuntime α)) :
    (left (NodeRuntime.runAs role self x t)).connected =
      (left (x { t with self := self })).connected := by
  unfold NodeRuntime.runAs
  cases x { t with self := self } <;> rfl

/-- What a role change keeps of the state a handler left. -/
theorem left_runAs_self {f : NodeRuntime α → β}
    (hf : ∀ roleChange node, f (NodeRuntime.changeRole roleChange node) = f node)
    (role : σ → NodeRuntime α) (self : σ) (x : Handler α σ RoleChange)
    (t : Task α (NodeRuntime α)) :
    f (left (NodeRuntime.runAs role self x t)).self =
      f (role (left (x { t with self := self })).self) := by
  unfold NodeRuntime.runAs
  cases x { t with self := self } with
  | ok roleChange t' => exact hf roleChange _
  | error e t' => rfl

end RunAs

/-! ## A charge of the own station -/

section Charge

variable {σ : Type} [Node α σ] {accountId : AccountId} {cardId : CardId} {amount : α}
  {requestId : ReqId} {t : Task α σ}

/-- Offline the charge is queued and allowed at once. -/
theorem runOnce_charge_offline (h : Node.isOffline t.self = true) :
    left (Node.runOnce (.stationMsg (.chargeRequest accountId cardId amount requestId)) t) =
      { t with
        self := Node.logOfflineOperation t.self (.charge accountId cardId amount true)
        told := t.told ++ [.chargeResult requestId true none] } := by
  have hselect : Node.select (.stationMsg (.chargeRequest accountId cardId amount requestId)) t =
      .ok RoleChange.none { t with
        self := Node.logOfflineOperation t.self (.charge accountId cardId amount true)
        told := t.told ++ [.chargeResult requestId true none] } := by
    show (if Node.isOffline t.self then _ else _ : Handler α σ RoleChange) t = _
    rw [if_pos h]
    rfl
  unfold Node.runOnce
  rw [hselect]
  rfl

/-- Online it is handled as a request that is not an offline one. -/
theorem select_charge_online {F : Frame α σ} (h : Node.isOffline t.self = false)
    (hinv : F.inv t.self) (hreq : ∀ addr, Within F (Node.handleRequest (σ := σ) requestId
      (.charge accountId cardId amount false) addr)) :
    Framed F t
      (left (Node.select (.stationMsg (.chargeRequest accountId cardId amount requestId)) t)) := by
  have hselect : Node.select (.stationMsg (.chargeRequest accountId cardId amount requestId)) t =
      (Node.handleRequest requestId (.charge accountId cardId amount false)
        (Node.getAddress t.self) >>= fun _ => pure RoleChange.none) t := by
    show (if Node.isOffline t.self then _ else _ : Handler α σ RoleChange) t = _
    rw [if_neg (by rw [h]; exact Bool.false_ne_true)]
    rfl
  rw [hselect]
  exact within_bind (hreq _) (fun _ => within_pure _) t hinv

end Charge

/-! ## One turn -/

/-- All operations are offline charges. -/
def Charges (ops : List (Operation α)) : Prop :=
  ∀ op ∈ ops, ∃ accountId cardId amount, op = .charge accountId cardId amount true

/-- What became of the charges in one turn: it allowed `g`, submitted `d` and dropped
    `lost`. An online node stays online. -/
structure Accounts (s s' : Served α) (w : Wake α) (g : List (Operation α))
    (d : List (SocketAddr × Operation α)) (lost : List (Operation α)) : Prop where
  granted : s'.granted = s.granted ++ g
  submitted : s'.submitted = s.submitted ++ d
  kept : s.queue ++ g = (d.map fun p => p.2) ++ lost ++ s'.queue
  online : ¬ s.Away w → s.connected = true →
    s'.connected = true ∧ s'.runtime.isOffline = false

theorem granting_charges (node : NodeRuntime α) (told : List NodeToStationMsg)
    (event : Event α) : Charges (granting node told event) := by
  intro op hop
  unfold granting at hop
  split at hop
  · split at hop
    · exact ⟨_, _, _, List.mem_singleton.mp hop⟩
    · cases hop
  · cases hop

theorem submitting_eq_nil {sent : List (SocketAddr × Message α)} (event : Event α)
    (h : ∀ m ∈ sent, offlineRequest? m = none) : submitting sent event = [] := by
  have hnone : sent.filterMap offlineRequest? = [] := List.filterMap_eq_nil_iff.mpr h
  unfold submitting
  split
  · rfl
  · exact hnone

/-- A frame of the role the node is in: the queue stays, and a node that is online and
    not told otherwise stays online. -/
structure Carries {σ : Type} [Node α σ] (s : Served α) (w : Wake α) (role : σ → NodeRuntime α)
    (state : σ) (F : Frame α σ) : Prop where
  runtime : s.runtime = role state
  offline : ∀ r, (role r).isOffline = Node.isOffline r
  logged : ∀ r op, (role (Node.logOfflineOperation r op)).offlineQueue =
    (role r).offlineQueue ++ [op]
  start : F.inv state
  inv : ∀ r, F.inv r → (role r).offlineQueue = s.queue ∧
    (¬ s.Away w → (role r).isOffline = false)
  cuts : F.cuts → s.Away w
  lost : ∀ address, Within F (Node.handleConnectionLostWith (σ := σ) address)

section Carried

variable {σ : Type} [Node α σ] {s : Served α} {w : Wake α} {role : σ → NodeRuntime α} {self : σ}
  {F : Frame α σ}

/-- A turn within the frame that grants nothing and submits nothing. -/
theorem Carries.framed (h : Carries s w role self F)
    (hselect : Framed F { s.task w with self := self }
      (left (Node.select w.event { s.task w with self := self })))
    (hsent : ∀ sent : List (SocketAddr × Message α), (∀ m ∈ sent, F.sent m) →
      submitting sent w.event = [])
    (hgrant : ∀ told, granting s.runtime told w.event = []) (down : Bool) :
    Accounts s
      (s.after w.event down (left (NodeRuntime.runAs role self (Node.runOnce w.event) (s.task w))))
      w [] [] [] := by
  have hx := runOnce_framed hselect h.lost
  obtain ⟨out, hout, hmem⟩ := hx.sent
  obtain ⟨hqueue, hoffline⟩ := h.inv _ hx.inv
  refine ⟨congrArg (s.granted ++ ·) (hgrant _), congrArg (s.submitted ++ ·) ?_, ?_, ?_⟩
  · rw [left_runAs_sent]
    exact hsent _ fun m hm => hmem m (by rwa [hout] at hm)
  · rw [List.append_nil]
    exact ((left_runAs_self NodeRuntime.changeRole_offlineQueue role self _ _).trans hqueue).symm
  · intro haway hconn
    have hconn' := hx.connected (mt h.cuts haway) hconn
    exact ⟨(left_runAs_connected role self _ _).trans hconn',
      (left_runAs_self NodeRuntime.changeRole_isOffline role self _ _).trans (hoffline haway)⟩

/-- A charge of the own station: granted and queued while the node is offline, a request
    like any other while it is online. -/
theorem Carries.charge (h : Carries s w role self F) {accountId : AccountId} {cardId : CardId}
    {amount : α} {requestId : ReqId}
    (hevent : w.event = .stationMsg (.chargeRequest accountId cardId amount requestId))
    (hsent : ∀ m, F.sent m → offlineRequest? m = none)
    (hreq : ∀ addr, Within F (Node.handleRequest (σ := σ) requestId
      (.charge accountId cardId amount false) addr)) (down : Bool) :
    ∃ g, Accounts s
      (s.after w.event down (left (NodeRuntime.runAs role self (Node.runOnce w.event) (s.task w))))
      w g [] [] := by
  have hrole : s.runtime.isOffline = Node.isOffline self := by rw [h.runtime, h.offline]
  cases hoff : Node.isOffline self with
  | true =>
    have hrun : left (Node.runOnce
        (.stationMsg (.chargeRequest accountId cardId amount requestId))
        { s.task w with self := self }) = _ := runOnce_charge_offline hoff
    refine ⟨[.charge accountId cardId amount true], congrArg (s.granted ++ ·) ?_,
      congrArg (s.submitted ++ ·) ?_, ?_, fun haway => absurd (Or.inl (hrole.trans hoff)) haway⟩
    · rw [left_runAs_told, hevent, hrun]
      exact if_pos ⟨hrole.trans hoff, List.mem_append_right _ (List.mem_singleton.mpr rfl)⟩
    · rw [left_runAs_sent, hevent, hrun]
      rfl
    · refine .trans ?_ (left_runAs_self NodeRuntime.changeRole_offlineQueue role self _ _).symm
      rw [hevent, hrun, h.logged, (h.inv self h.start).1]
  | false =>
    refine ⟨[], h.framed ?_ (fun sent hm => submitting_eq_nil _ fun m hmem => ?_)
      (fun told => ?_) down⟩
    · rw [hevent]
      exact select_charge_online hoff h.start hreq
    · exact hsent m (hm m hmem)
    · rw [hevent]
      refine if_neg fun hg => ?_
      rw [hrole, hoff] at hg
      exact Bool.false_ne_true hg.1

end Carried

theorem granting_eq_nil {node : NodeRuntime α} {event : Event α}
    (hev : ∀ accountId cardId amount requestId,
      event ≠ .stationMsg (.chargeRequest accountId cardId amount requestId))
    (told : List NodeToStationMsg) : granting node told event = [] := by
  unfold granting
  split
  · exact absurd rfl (hev _ _ _ _)
  · rfl

section Roles

variable [AddrHash] {s : Served α} {w : Wake α}

theorem leader_carries {self : Leader α} (hrt : s.runtime = .leader self) :
    Carries s w .leader self (Leader.offline s.queue (s.Away w)) where
  runtime := hrt
  offline _ := rfl
  logged _ _ := rfl
  start := by
    refine ⟨?_, fun haway => ?_⟩
    · show (NodeRuntime.leader self).offlineQueue = s.runtime.offlineQueue
      rw [hrt]
    · show (NodeRuntime.leader self).isOffline = false
      rw [← hrt]
      exact Bool.eq_false_iff.mpr fun h => haway (Or.inl h)
  inv _ h := h
  cuts h := h
  lost _ := Leader.handleConnectionLostWith_within Leader.offline_lenient _

theorem replica_carries {self : Replica α} (hrt : s.runtime = .replica self) :
    Carries s w .replica self (Replica.offline s.queue (s.Away w)) where
  runtime := hrt
  offline _ := rfl
  logged _ _ := rfl
  start := by
    refine ⟨?_, fun haway => ?_⟩
    · show (NodeRuntime.replica self).offlineQueue = s.runtime.offlineQueue
      rw [hrt]
    · show (NodeRuntime.replica self).isOffline = false
      rw [← hrt]
      exact Bool.eq_false_iff.mpr fun h => haway (Or.inl h)
  inv _ h := h
  cuts h := h
  lost _ := Replica.handleConnectionLostWith_within _

/-- A leader adds the charges it grants, and neither submits nor drops any. -/
theorem leader_accounts {self : Leader α} (hrt : s.runtime = .leader self) (down : Bool) :
    ∃ g, Accounts s
      (s.after w.event down
        (left (NodeRuntime.runAs .leader self (Node.runOnce w.event) (s.task w)))) w g [] [] := by
  have h := leader_carries (w := w) hrt
  by_cases hev : ∃ accountId cardId amount requestId,
      w.event = .stationMsg (.chargeRequest accountId cardId amount requestId)
  · obtain ⟨accountId, cardId, amount, requestId, hev⟩ := hev
    exact h.charge hev (fun _ hm => hm) (fun addr =>
      Leader.handleRequest_within Leader.offline_lenient (fun _ _ h => h) _ _ addr) down
  · have hcharge : ∀ accountId cardId amount requestId,
        w.event ≠ .stationMsg (.chargeRequest accountId cardId amount requestId) :=
      fun a c m r he => hev ⟨a, c, m, r, he⟩
    have hselect := Leader.offline_within hcharge Or.inr { s.task w with self := self } h.start
    exact ⟨[], h.framed hselect (fun _ => submitting_eq_nil _) (granting_eq_nil hcharge) down⟩

/-- Draining a replica's queue submits what it sends to the leader it follows, and drops
    the charge whose send fails. -/
theorem replica_drains {self : Replica α} (hrt : s.runtime = .replica self) {opId : OpId}
    {snapshot : DatabaseSnapshot α} {result : OperationResult α}
    (hev : w.event = .actorEvent (.operationResult opId (.replaceDatabase snapshot) result))
    (hcharges : Charges s.queue) (down : Bool) :
    ∃ done lost, Accounts s
      (s.after w.event down
        (left (NodeRuntime.runAs .replica self (Node.runOnce w.event) (s.task w)))) w []
      (done.map fun op => (self.leaderAddr, op)) lost ∧ (lost = [] ↔ s.Drains w) ∧
      (lost = [] → done = s.queue) := by
  have hself : self.offlineQueue = s.queue := ((replica_carries (w := w) hrt).inv self
    (replica_carries hrt).start).1
  obtain ⟨done, lost, rest, h⟩ := Replica.flushOffline_spec self.address self.offlineQueue
    { s.task w with self := self } rfl
  have hleft : left (Node.runOnce w.event { s.task w with self := self }) =
      left (Replica.flushOffline self.address self.offlineQueue { s.task w with self := self }) := by
    rw [hev, left_runOnce_actorEvent, handleActorEvent_result, left_bind_pure, left_errorOf]
    rfl
  have hdone : (done.map fun op : Operation α =>
      (self.leaderAddr, Message.request 0 op self.address)).filterMap offlineRequest? =
        done.map fun op => (self.leaderAddr, op) := by
    rw [List.filterMap_map, ← List.filterMap_eq_map]
    refine List.filterMap_congr fun op hop => ?_
    have hmem : op ∈ s.queue := by
      rw [← hself, h.split, List.append_assoc]
      exact List.mem_append_left _ hop
    obtain ⟨accountId, cardId, amount, rfl⟩ := hcharges op hmem
    rfl
  refine ⟨done, lost, ⟨?_, congrArg (s.submitted ++ ·) ?_, ?_, ?_⟩, ?_, ?_⟩
  · show s.granted ++ _ = s.granted ++ []
    rw [hev]
    rfl
  · rw [left_runAs_sent, hleft, h.sent, hev]
    exact hdone
  · have hqueue := left_runAs_self NodeRuntime.changeRole_offlineQueue NodeRuntime.replica self
      (Node.runOnce w.event) (s.task w)
    rw [hleft, h.self] at hqueue
    rw [List.append_nil, List.map_map, List.map_id'', ← hself, h.split]
    · exact congrArg (done ++ lost ++ ·) hqueue.symm
    · exact fun _ => rfl
  · intro haway hconn
    refine ⟨?_, ?_⟩
    · refine (left_runAs_connected .replica self _ _).trans ?_
      rw [hleft, h.connected]
      exact hconn
    · refine (left_runAs_self NodeRuntime.changeRole_isOffline .replica self _ _).trans ?_
      rw [hleft, h.self]
      exact ((replica_carries (w := w) hrt).start).2 haway
  · have hinst : s.Installs w := by
      unfold Served.Installs
      rw [hrt, hev]
      trivial
    rw [h.cleared, hself]
    exact ⟨fun hc _ => hc, fun hc => hc hinst⟩
  · intro hlost
    rw [← hself, h.split, hlost, h.emptied hlost, List.append_nil, List.append_nil]

/-- Any other turn of a replica adds the charges it grants, and neither submits nor
    drops any. -/
theorem replica_accounts {self : Replica α} (hrt : s.runtime = .replica self)
    (hinst : ∀ opId snapshot result,
      w.event ≠ .actorEvent (.operationResult opId (.replaceDatabase snapshot) result))
    (down : Bool) :
    ∃ g, Accounts s
      (s.after w.event down
        (left (NodeRuntime.runAs .replica self (Node.runOnce w.event) (s.task w)))) w g [] [] := by
  have h := replica_carries (w := w) hrt
  by_cases hev : ∃ accountId cardId amount requestId,
      w.event = .stationMsg (.chargeRequest accountId cardId amount requestId)
  · obtain ⟨accountId, cardId, amount, requestId, hev⟩ := hev
    exact h.charge hev (fun _ hm => hm)
      (fun addr => Replica.handleRequest_within fun _ => rfl) down
  have hcharge : ∀ accountId cardId amount requestId,
      w.event ≠ .stationMsg (.chargeRequest accountId cardId amount requestId) :=
    fun a c m r he => hev ⟨a, c, m, r, he⟩
  by_cases hreq : ∃ reqId op addr, w.event = .nodeMsg (.ok (.request reqId op addr))
  · -- a request is passed on as it came, whoever granted it
    obtain ⟨reqId, op, addr, hreq⟩ := hreq
    let F : Frame α (Replica α) :=
      { Replica.offline s.queue (s.Away w) with sent := fun _ => True }
    have hF : Carries s w .replica self F :=
      { h with
        lost := fun address t ht => (h.lost address t ht).mono (fun _ hi => hi)
          (fun _ _ => True.intro) fun hc => hc }
    have hforward : Within F (Replica.handleRequest reqId op addr) := by
      unfold Replica.handleRequest
      exact within_getSelf fun _ _ => within_send True.intro
    have hselect : Framed F { s.task w with self := self }
        (left (Node.select w.event { s.task w with self := self })) := by
      rw [hreq]
      exact within_bind hforward (fun _ => within_pure _) _ h.start
    have hsubmit : ∀ sent : List (SocketAddr × Message α), submitting sent w.event = [] := by
      intro sent
      rw [hreq]
      rfl
    exact ⟨[], hF.framed hselect (fun sent _ => hsubmit sent) (granting_eq_nil hcharge) down⟩
  · have hselect := Replica.select_within (fun r o a he => hreq ⟨r, o, a, he⟩) hcharge hinst Or.inr
      { s.task w with self := self } h.start
    exact ⟨[], h.framed hselect (fun _ => submitting_eq_nil _) (granting_eq_nil hcharge) down⟩

end Roles

namespace Served

section Runs

variable [AddrHash] {s s' : Served α} {w : Wake α}

omit [AddrHash] in
theorem Installs.exists (h : s.Installs w) :
    ∃ self opId snapshot result, s.runtime = .replica self ∧
      w.event = .actorEvent (.operationResult opId (.replaceDatabase snapshot) result) := by
  unfold Installs at h
  split at h
  · rename_i hrt hev
    exact ⟨_, _, _, _, hrt, hev⟩
  · exact h.elim

/-- A turn is one of the role the node is in. -/
theorem step_cases (hs : s.step w = some s') :
    (∃ self down, s.runtime = .leader self ∧ s' = s.after w.event down
      (left (NodeRuntime.runAs .leader self (Node.runOnce w.event) (s.task w)))) ∨
    ∃ self down, s.runtime = .replica self ∧ s' = s.after w.event down
      (left (NodeRuntime.runAs .replica self (Node.runOnce w.event) (s.task w))) := by
  unfold step at hs
  split at hs
  · cases hs
  cases hs
  have hself : (s.task w).self = s.runtime := rfl
  cases hrt : s.runtime with
  | leader self =>
    refine Or.inl ⟨self, faulted (NodeRuntime.turn w.event (s.task w)), rfl, ?_⟩
    unfold NodeRuntime.turn
    rw [hself, hrt]
  | replica self =>
    refine Or.inr ⟨self, faulted (NodeRuntime.turn w.event (s.task w)), rfl, ?_⟩
    unfold NodeRuntime.turn
    rw [hself, hrt]

theorem step_charges (hs : s.step w = some s') (h : Charges s.granted) :
    Charges s'.granted := by
  rcases step_cases hs with ⟨self, down, -, rfl⟩ | ⟨self, down, -, rfl⟩ <;>
    exact fun op hop => (List.mem_append.mp hop).elim (h op) (granting_charges _ _ _ op)

/-- A turn in which a replica drains its queue. -/
theorem step_installs (hs : s.step w = some s') (hinst : s.Installs w)
    (hcharges : Charges s.queue) :
    ∃ self done lost, s.runtime = .replica self ∧
      Accounts s s' w [] (done.map fun op => (self.leaderAddr, op)) lost ∧
      (lost = [] ↔ s.Drains w) ∧ (lost = [] → done = s.queue) := by
  obtain ⟨self, opId, snapshot, result, hrt, hev⟩ := hinst.exists
  rcases step_cases hs with ⟨lead, down, hlead, -⟩ | ⟨rep, down, hrep, rfl⟩
  · rw [hlead] at hrt
    cases hrt
  · rw [hrep] at hrt
    cases hrt
    obtain ⟨done, lost, h, hdrains, hall⟩ := replica_drains hrep hev hcharges down
    exact ⟨_, done, lost, hrep, h, hdrains, hall⟩

/-- Any other turn, in either role. -/
theorem step_grants (hs : s.step w = some s') (hinst : ¬ s.Installs w) :
    ∃ g, Accounts s s' w g [] [] := by
  rcases step_cases hs with ⟨self, down, hrt, rfl⟩ | ⟨self, down, hrt, rfl⟩
  · exact leader_accounts hrt down
  · refine replica_accounts hrt (fun opId snapshot result hev => hinst ?_) down
    unfold Installs
    rw [hrt, hev]
    trivial

/-- One turn: what the node grants joins the queue, what leaves the queue is submitted
    or dropped, and it drops nothing exactly when a replica that drains its queue can
    send it all. -/
theorem step_accounts (hs : s.step w = some s') (hcharges : Charges s.queue) :
    ∃ g d lost, Accounts s s' w g d lost ∧ (lost = [] ↔ s.Drains w) := by
  by_cases hinst : s.Installs w
  · obtain ⟨self, done, lost, -, h, hdrains, -⟩ := step_installs hs hinst hcharges
    exact ⟨[], _, lost, h, hdrains⟩
  · obtain ⟨g, h⟩ := step_grants hs hinst
    exact ⟨g, [], [], h, iff_of_true rfl fun hi => absurd hi hinst⟩

/-- Along a run every charge the node granted is in its queue, submitted or dropped,
    and none is dropped exactly when every draining replica could send it all. -/
theorem run_accounts {s₀ : Served α} (hqueue : s₀.queue = []) (hgranted : s₀.granted = [])
    (hsubmitted : s₀.submitted = []) (ws : List (Wake α)) :
    ∀ {s : Served α}, run step s₀ ws = some s → Charges s.granted ∧
      ∃ lost, s.granted.Perm (s.queue ++ (s.submitted.map fun p => p.2) ++ lost) ∧
        (lost = [] ↔ Meets step Drains s₀ ws) := by
  induction ws using List.reverseRecOn with
  | nil =>
    intro s hr
    obtain rfl : s₀ = s := by simpa [run] using hr
    refine ⟨?_, [], ?_, iff_of_true rfl True.intro⟩
    · rw [hgranted]
      exact fun op hop => by cases hop
    · rw [hgranted, hqueue, hsubmitted]
      exact .refl _
  | append_singleton ws w ih =>
    intro s' hr
    obtain ⟨s, hr, hs⟩ := run_concat.mp hr
    obtain ⟨hcharges, lost, hperm, hlost⟩ := ih hr
    have hcq : Charges s.queue := fun op hop => hcharges op (hperm.mem_iff.mpr (by simp [hop]))
    obtain ⟨g, d, lost', h, hdrains⟩ := step_accounts hs hcq
    refine ⟨step_charges hs hcharges, lost ++ lost', ?_, ?_⟩
    · rw [h.granted, h.submitted, List.map_append]
      classical
      rw [List.perm_iff_count] at hperm ⊢
      intro op
      have hp := hperm op
      have hk := congrArg (List.count op) h.kept
      simp only [List.count_append] at hp hk ⊢
      omega
    · rw [List.append_eq_nil_iff, meets_concat hr, hlost, hdrains]

end Runs

/-- **Offline charges are accounted for.** In the state a run ends in, what the node
    granted offline is what is still queued and what it submitted exactly when all sends
    of each replica that drained its queue succeeded. -/
theorem offline_charges_accounted [AddrHash] {runtime : NodeRuntime α}
    (hfresh : runtime.offlineQueue = []) {ws : List (Wake α)} {s : Served α}
    (hr : run step (start runtime) ws = some s) :
    s.granted.Perm (s.queue ++ s.submitted.map fun p => p.2) ↔
      Meets step Drains (start runtime) ws := by
  have hstart : (start runtime).queue = [] := hfresh
  obtain ⟨-, lost, hperm, hlost⟩ := run_accounts hstart rfl rfl ws hr
  rw [← hlost]
  constructor
  · intro h
    have hlen := hperm.length_eq
    rw [List.length_append, ← h.length_eq] at hlen
    exact List.length_eq_zero_iff.mp (by omega)
  · intro h
    rwa [h, List.append_nil] at hperm

section Example

local instance grantedHash : AddrHash := localHash

/-- A replica goes offline, grants two charges, comes back and joins its leader; the
    snapshot is installed. `outcomes` says how the sends of the drain end. -/
def reconnected (outcomes : List (Option AppError)) : List (Wake Nat) :=
  [⟨.stationMsg .disconnectNode, [], 0⟩,
    ⟨.stationMsg (.chargeRequest 1 10 50 1), [], 0⟩,
    ⟨.stationMsg (.chargeRequest 1 11 70 2), [], 0⟩,
    ⟨.stationMsg .connectNode, [], 0⟩,
    ⟨.actorEvent (.operationResult 0 (.replaceDatabase ⟨localAddr 5001, [], []⟩)
      .replaceDatabase), outcomes, 0⟩]

theorem offline_charges_accounted_example :
    ∃ s, run step (start (.replica (.start (localAddr 5001) (localAddr 5000))))
        (reconnected []) = some s ∧
      s.granted = [.charge 1 10 50 true, .charge 1 11 70 true] ∧
      s.granted.Perm (s.queue ++ s.submitted.map fun p => p.2) := by
  have hrun : (run step (start (.replica (.start (localAddr 5001) (localAddr 5000))))
      (reconnected [])).any (fun s =>
        decide (s.granted = [.charge 1 10 50 true, .charge 1 11 70 true])) = true := by
    decide +kernel
  obtain ⟨s, hs, hgranted⟩ := (Option.any_eq_true _ _).mp hrun
  exact ⟨s, hs, of_decide_eq_true hgranted,
    (offline_charges_accounted rfl hs).mpr (by decide +kernel)⟩

/-- The leader is gone when the replica drains its queue: the first charge is popped
    and its send fails. -/
theorem offline_charge_lost :
    ∃ s, run step (start (.replica (.start (localAddr 5001) (localAddr 5000))))
        (reconnected [some (.connectionLostWith (localAddr 5000))]) = some s ∧
      s.granted = [.charge 1 10 50 true, .charge 1 11 70 true] ∧
      s.queue = [.charge 1 11 70 true] ∧ s.submitted = [] ∧
      ¬ s.granted.Perm (s.queue ++ s.submitted.map fun p => p.2) := by
  have hrun : (run step (start (.replica (.start (localAddr 5001) (localAddr 5000))))
      (reconnected [some (.connectionLostWith (localAddr 5000))])).any (fun s =>
        decide (s.granted = [.charge 1 10 50 true, .charge 1 11 70 true] ∧
          s.queue = [.charge 1 11 70 true] ∧ s.submitted = [])) = true := by decide +kernel
  obtain ⟨s, hs, hvals⟩ := (Option.any_eq_true _ _).mp hrun
  obtain ⟨hgranted, hqueue, hsubmitted⟩ := of_decide_eq_true hvals
  refine ⟨s, hs, hgranted, hqueue, hsubmitted, fun hperm => ?_⟩
  have hlen := hperm.length_eq
  rw [hgranted, hqueue, hsubmitted] at hlen
  exact absurd hlen (by decide)

end Example

end Served

end YpfRuta.Server
