/-
  Which responses a client node passes on to its station.

  A response is told the station when its request id is that of an online request. The ids
  of online requests are the station's, those of replays come from a counter, and nothing
  keeps them apart but the numbers themselves.
-/
import YpfRuta.Client.Charges

namespace YpfRuta.Client

open Server Lib

variable {α : Type}

/-- The id of a request that replays an offline charge. -/
def replayId : SocketAddr × Message α → Option ReqId
  | (_, .request reqId (.charge _ _ _ true) _) => some reqId
  | _ => none

/-- `r` is one of the `k` ids from `next` on. -/
def Among (next : ReqId) (k : Nat) (r : ReqId) : Prop := ∃ j, j < k ∧ r = next + UInt32.ofNat j

instance (next : ReqId) (k : Nat) (r : ReqId) : Decidable (Among next k r) :=
  Nat.decidableExistsLT _

namespace Session

/-- The ids under which offline charges were replayed. -/
def issued (s : Session α) : List ReqId := s.sent.filterMap replayId

/-- **Replay responses stay with the client**: whatever response comes next under an id of a
    replay, the station is told no result. -/
def Separate [AddrHash] [DebugFmt α] (s : Session α) : Prop :=
  ∀ r ∈ s.issued, ∀ opResult outcomes s' turn,
    s.step (.nodeMsg (.ok (.response r opResult)), outcomes) = some s' →
    s'.turns = s.turns ++ [turn] →
    ∀ id allowed error, .chargeResult id allowed error ∉ turn.told

/-- A charge is forwarded online when these are the outcomes of the sends. -/
def Forwards (self : NodeClient α) (outcomes : List (Option AppError)) : Prop :=
  self.online = true ∧ ∃ k, k < self.knownNodes.length ∧ (outcomes[k]?).join = none

/-- The ids that meet in the client differ: a charge forwarded online has none of a replay,
    and a flush takes none of an online request. A flush takes at most one id for each charge
    and node. -/
def Distinct (s : Session α) : Event α × List (Option AppError) → Prop
  | (.stationMsg (.chargeRequest _ _ _ requestId), outcomes) =>
    Forwards s.client outcomes → requestId ∉ s.issued
  | (.stationMsg .connectNode, _) =>
    ∀ r ∈ s.client.activeOnlineRequests, ¬ Among s.client.nextReplayReqId
      (s.client.offlineQueue.length * s.client.knownNodes.length) r
  | _ => True

instance (self : NodeClient α) (outcomes : List (Option AppError)) :
    Decidable (Forwards self outcomes) :=
  have : Decidable (∃ k, k < self.knownNodes.length ∧ (outcomes[k]?).join = none) :=
    Nat.decidableExistsLT _
  inferInstanceAs (Decidable (_ ∧ _))

instance (s : Session α) (label : Event α × List (Option AppError)) :
    Decidable (s.Distinct label) :=
  match label with
  | (.stationMsg (.chargeRequest _ _ _ requestId), outcomes) =>
    inferInstanceAs (Decidable (Forwards s.client outcomes → requestId ∉ s.issued))
  | (.stationMsg .connectNode, _) =>
    List.decidableBAll (fun r => ¬ Among s.client.nextReplayReqId
      (s.client.offlineQueue.length * s.client.knownNodes.length) r) _
  | (.stationMsg .disconnectNode, _) => isTrue True.intro
  | (.nodeMsg _, _) => isTrue True.intro

end Session

namespace NodeClient

variable {self : NodeClient α}

theorem among_mono {next r : ReqId} {k k' : Nat} (h : Among next k r) (hle : k ≤ k') :
    Among next k' r := by
  obtain ⟨j, hj, rfl⟩ := h
  exact ⟨j, by omega, rfl⟩

theorem among_add {next r : ReqId} {k k' : Nat} (h : Among (next + UInt32.ofNat k) k' r) :
    Among next (k + k') r := by
  obtain ⟨j, hj, rfl⟩ := h
  exact ⟨k + j, by omega, by rw [UInt32.ofNat_add, UInt32.add_assoc]⟩

/-- One attempt to send, on a task that is connected. -/
theorem errorOf_send (msg : Message α) (addr : SocketAddr) (t : Task α (NodeClient α))
    (hc : t.connected = true) :
    (∃ e rest, t.outcomes = some e :: rest ∧
      errorOf (send msg addr) t = .ok (some e) { t with outcomes := rest }) ∨
    ((t.outcomes[0]?).join = none ∧
      errorOf (send msg addr) t = .ok none { t with
        outcomes := t.outcomes.tail
        sent := t.sent ++ [(addr, msg)] }) := by
  obtain ⟨self, connected, outcomes, now, sent, told, commands⟩ := t
  obtain rfl : connected = true := hc
  match outcomes with
  | some e :: rest => exact .inl ⟨e, rest, rfl, rfl⟩
  | none :: rest => exact .inr ⟨rfl, rfl⟩
  | [] => exact .inr ⟨rfl, rfl⟩

/-- A message is taken only if one of the sends succeeds. -/
theorem sendToFirst_taken (msg : Message α) (targets : List SocketAddr)
    {t t' : Task α (NodeClient α)} (hc : t.connected = true)
    (h : sendToFirst msg targets t = .ok true t') :
    ∃ k, k < targets.length ∧ (t.outcomes[k]?).join = none := by
  induction targets generalizing t with
  | nil => cases h
  | cons target targets ih =>
    unfold sendToFirst at h
    rcases errorOf_send msg target t hc with ⟨e, rest, ho, htry⟩ | ⟨ho, htry⟩
    · rw [bind_ok htry] at h
      obtain ⟨k, hk, hjoin⟩ := ih (t := { t with outcomes := rest }) hc h
      refine ⟨k + 1, by rw [List.length_cons]; omega, ?_⟩
      rw [ho, List.getElem?_cons_succ]
      exact hjoin
    · exact ⟨0, Nat.zero_lt_succ _, ho⟩

theorem replayId_request {target addr : SocketAddr} {reqId r : ReqId} {op : Operation α}
    (hr : r ∈ [(target, (.request reqId op addr : Message α))].filterMap replayId) :
    r = reqId := by
  obtain ⟨x, hx, hid⟩ := List.mem_filterMap.mp hr
  obtain rfl := List.mem_singleton.mp hx
  cases op with
  | charge accountId cardId amount fromOfflineStation =>
    cases fromOfflineStation with
    | false => cases hid
    | true => exact (Option.some.inj hid).symm
  | _ => cases hid

/-- What a replay attempt may do: take up to `k` ids, and send requests under some of them. -/
structure Replayed (t t' : Task α (NodeClient α)) (k : Nat) : Prop where
  connected : t'.connected = t.connected
  self : ∃ taken, taken ≤ k ∧ t'.self = { t.self with
    nextReplayReqId := t.self.nextReplayReqId + UInt32.ofNat taken } ∧
    ∃ sent, t'.sent = t.sent ++ sent ∧
      ∀ r ∈ sent.filterMap replayId, Among t.self.nextReplayReqId taken r

theorem Replayed.refl (t : Task α (NodeClient α)) (k : Nat) : Replayed t t k where
  connected := rfl
  self := ⟨0, Nat.zero_le k, by simp, [], (List.append_nil _).symm, fun r hr => by cases hr⟩

theorem Replayed.trans {t t₁ t₂ : Task α (NodeClient α)} {k k' : Nat} (h : Replayed t t₁ k)
    (h' : Replayed t₁ t₂ k') : Replayed t t₂ (k + k') where
  connected := h'.connected.trans h.connected
  self := by
    obtain ⟨taken, hle, hself, sent, hsent, hids⟩ := h.self
    obtain ⟨taken', hle', hself', sent', hsent', hids'⟩ := h'.self
    have hnext : t₁.self.nextReplayReqId =
        t.self.nextReplayReqId + UInt32.ofNat taken := by rw [hself]
    refine ⟨taken + taken', by omega, ?_, sent ++ sent', ?_, fun r hr => ?_⟩
    · rw [hself', hself, UInt32.ofNat_add, UInt32.add_assoc]
    · rw [hsent', hsent, List.append_assoc]
    · rw [List.filterMap_append] at hr
      rcases List.mem_append.mp hr with hr | hr
      · exact among_mono (hids r hr) (by omega)
      · have hr := hids' r hr
        rw [hnext] at hr
        exact among_add hr

theorem replayToFirst_replayed (op : Operation α) (targets : List SocketAddr)
    (t : Task α (NodeClient α)) (hc : t.connected = true) :
    ∃ sent t', replayToFirst op targets t = .ok sent t' ∧ Replayed t t' targets.length := by
  induction targets generalizing t with
  | nil => exact ⟨_, t, rfl, .refl t 0⟩
  | cons target targets ih =>
    unfold replayToFirst
    rw [bind_ok (show getSelf t = .ok t.self t from rfl)]
    let next : Task α (NodeClient α) := { t with
      self := { t.self with nextReplayReqId := t.self.nextReplayReqId + 1 } }
    rw [bind_ok (show modifySelf _ t = .ok () next from rfl)]
    have hone : t.self.nextReplayReqId + 1 = t.self.nextReplayReqId + UInt32.ofNat 1 := rfl
    rcases errorOf_send (.request t.self.nextReplayReqId op t.self.bindAddr) target next hc with
      ⟨e, rest, -, htry⟩ | ⟨-, htry⟩
    · rw [bind_ok htry]
      obtain ⟨sent, t', hrest, hreplayed⟩ := ih { next with outcomes := rest } hc
      refine ⟨sent, t', hrest, ?_⟩
      have hfirst : Replayed t { next with outcomes := rest } 1 :=
        ⟨rfl, 1, Nat.le_refl 1, rfl, [], (List.append_nil _).symm, fun r hr => by cases hr⟩
      rw [List.length_cons, Nat.add_comm]
      exact hfirst.trans hreplayed
    · rw [bind_ok htry]
      refine ⟨true, _, rfl, rfl, 1, Nat.le_add_left 1 _, rfl,
        [(target, .request t.self.nextReplayReqId op t.self.bindAddr)], rfl, fun r hr => ?_⟩
      exact ⟨0, Nat.zero_lt_one, (replayId_request hr).trans (by simp)⟩

theorem replayAll_replayed (queue : List (QueuedCharge α)) (t : Task α (NodeClient α))
    (hc : t.connected = true) :
    ∃ kept t', replayAll queue t = .ok kept t' ∧
      Replayed t t' (queue.length * t.self.knownNodes.length) := by
  induction queue generalizing t with
  | nil => exact ⟨[], t, rfl, .refl t _⟩
  | cons queued queue ih =>
    unfold replayAll
    rw [bind_ok (show getSelf t = .ok t.self t from rfl)]
    obtain ⟨sent, t₁, htry, hfirst⟩ := replayToFirst_replayed
      (.charge queued.accountId queued.cardId queued.amount true) t.self.knownNodes t hc
    rw [bind_ok htry]
    obtain ⟨kept, t₂, hrest, hreplayed⟩ := ih t₁ (hfirst.connected.trans hc)
    rw [bind_ok hrest]
    have hnodes : t₁.self.knownNodes = t.self.knownNodes := by
      obtain ⟨taken, -, hself, -⟩ := hfirst.self
      rw [hself]
    rw [hnodes] at hreplayed
    refine ⟨_, t₂, rfl, ?_⟩
    rw [List.length_cons, Nat.succ_mul, Nat.add_comm]
    exact hfirst.trans hreplayed

/-! ## One turn -/

/-- What a turn does to the ids: it forwards a charge, it flushes the queue, or it takes none. -/
inductive Moves (self : NodeClient α) (outcomes : List (Option AppError)) :
    Event α → NodeClient α → List (SocketAddr × Message α) → Prop where
  | keeps {event : Event α} {self' : NodeClient α} {sent : List (SocketAddr × Message α)}
      (hactive : ∀ r ∈ self'.activeOnlineRequests, r ∈ self.activeOnlineRequests)
      (hsent : sent.filterMap replayId = []) : Moves self outcomes event self' sent
  | forwards {self' : NodeClient α} {sent : List (SocketAddr × Message α)} (c : Charge α)
      (hf : Session.Forwards self outcomes)
      (hactive : ∀ r ∈ self'.activeOnlineRequests,
        r = c.requestId ∨ r ∈ self.activeOnlineRequests)
      (hsent : sent.filterMap replayId = []) :
      Moves self outcomes
        (.stationMsg (.chargeRequest c.accountId c.cardId c.amount c.requestId)) self' sent
  | flushes {self' : NodeClient α} {sent : List (SocketAddr × Message α)}
      (hactive : self'.activeOnlineRequests = self.activeOnlineRequests)
      (hsent : ∀ r ∈ sent.filterMap replayId, Among self.nextReplayReqId
        (self.offlineQueue.length * self.knownNodes.length) r) :
      Moves self outcomes (.stationMsg .connectNode) self' sent

theorem forwardOrEnqueueCharge_moves (self : NodeClient α) (outcomes : List (Option AppError))
    (c : Charge α) :
    ∃ t', forwardOrEnqueueCharge c.accountId c.cardId c.amount c.requestId
        (task self outcomes) = .ok () t' ∧
      Moves self outcomes
        (.stationMsg (.chargeRequest c.accountId c.cardId c.amount c.requestId)) t'.self
        t'.sent := by
  unfold forwardOrEnqueueCharge
  rw [bind_ok (show getSelf (task self outcomes) = .ok self (task self outcomes) from rfl)]
  by_cases hnodes : self.knownNodes.isEmpty
  · rw [if_pos hnodes]
    exact ⟨_, rfl, .keeps (fun r hr => hr) rfl⟩
  rw [if_neg hnodes]
  by_cases honline : (!self.online) = true
  · rw [if_pos honline]
    exact ⟨_, rfl, .keeps (fun r hr => hr) rfl⟩
  rw [if_neg honline]
  unfold forwardOnlineCharge
  rw [bind_ok (show getSelf (task self outcomes) = .ok self (task self outcomes) from rfl)]
  obtain ⟨sent, t₁, htry, hself, -, h⟩ := sendToFirst_cases
    (.request c.requestId (c.operation false) self.bindAddr) self.knownNodes (task self outcomes)
  rw [bind_ok (show sendToFirst (.request c.requestId
    (.charge c.accountId c.cardId c.amount false) self.bindAddr) self.knownNodes
    (task self outcomes) = .ok sent t₁ from htry)]
  obtain ⟨rfl, ⟨target, -, hs⟩⟩ | ⟨rfl, hs⟩ := h
  · have htaken := sendToFirst_taken _ _ (t := task self outcomes) rfl htry
    have hforwards : Session.Forwards self outcomes := ⟨by simpa using honline, htaken⟩
    refine ⟨_, rfl, .forwards c hforwards (fun r hr => ?_) ?_⟩
    · have hr : r ∈ t₁.self.activeOnlineRequests.insert c.requestId := hr
      rw [hself] at hr
      exact List.mem_insert_iff.mp hr
    · show t₁.sent.filterMap replayId = []
      rw [hs]
      rfl
  · refine ⟨_, rfl, .keeps (fun r hr => ?_) ?_⟩
    · have hr : r ∈ t₁.self.activeOnlineRequests := hr
      rw [hself] at hr
      exact hr
    · show t₁.sent.filterMap replayId = []
      rw [hs]
      rfl

theorem flushOfflineQueue_moves (self : NodeClient α) (outcomes : List (Option AppError))
    (t : Task α (NodeClient α)) (hc : t.connected = true)
    (hself : t.self = { self with online := true }) (hsent : t.sent = []) :
    ∃ t', flushOfflineQueue t = .ok () t' ∧
      Moves self outcomes (.stationMsg .connectNode) t'.self t'.sent := by
  have hkeep : Moves self outcomes (.stationMsg .connectNode) t.self t.sent := by
    rw [hself, hsent]
    exact .keeps (fun r hr => hr) rfl
  unfold flushOfflineQueue
  rw [bind_ok (show getSelf t = .ok t.self t from rfl)]
  by_cases hempty : t.self.offlineQueue.isEmpty
  · rw [if_pos hempty]
    exact ⟨t, rfl, hkeep⟩
  rw [if_neg hempty]
  by_cases hnodes : t.self.knownNodes.isEmpty
  · rw [if_pos hnodes]
    exact ⟨t, rfl, hkeep⟩
  rw [if_neg hnodes]
  let drained : Task α (NodeClient α) := { t with self := { t.self with offlineQueue := [] } }
  rw [bind_ok (show modifySelf _ t = .ok () drained from rfl)]
  obtain ⟨kept, t₁, hrest, hreplayed⟩ := replayAll_replayed t.self.offlineQueue drained hc
  rw [bind_ok hrest]
  obtain ⟨taken, hle, hself₁, sent, hsent₁, hids⟩ := hreplayed.self
  have hactive : t₁.self.activeOnlineRequests = self.activeOnlineRequests := by
    rw [hself₁]
    show t.self.activeOnlineRequests = _
    rw [hself]
  have hrequests : ∀ r ∈ t₁.sent.filterMap replayId, Among self.nextReplayReqId
      (self.offlineQueue.length * self.knownNodes.length) r := by
    intro r hr
    have hnil : drained.sent = [] := hsent
    rw [hsent₁, hnil, List.nil_append] at hr
    have hr := hids r hr
    have hdrained : drained.self = { self with
        online := true
        offlineQueue := [] } := by
      show { t.self with offlineQueue := [] } = _
      rw [hself]
    rw [hself, hdrained] at hle
    rw [hdrained] at hr
    exact among_mono hr hle
  by_cases hkept : (!kept.isEmpty) = true
  · rw [if_pos hkept]
    exact ⟨_, rfl, .flushes hactive hrequests⟩
  · rw [if_neg hkept]
    exact ⟨t₁, rfl, .flushes hactive hrequests⟩

/-- A response under an id of no online request changes nothing and is told nobody. -/
theorem handleNodeMsg_untracked [AddrHash] [DebugFmt α] {r : ReqId}
    (hr : r ∉ self.activeOnlineRequests) (opResult : OperationResult α)
    (outcomes : List (Option AppError)) :
    handleNodeMsg (.response r opResult) (task self outcomes) = .ok () (task self outcomes) := by
  unfold handleNodeMsg
  rw [bind_ok (show getSelf (task self outcomes) = .ok self (task self outcomes) from rfl)]
  simp only [if_neg hr]
  rfl

/-- The success of a charge under the id of an online request. -/
theorem handleNodeMsg_tracked [AddrHash] [DebugFmt α] {r : ReqId}
    (hr : r ∈ self.activeOnlineRequests) (outcomes : List (Option AppError)) :
    handleNodeMsg (.response r (.charge .ok)) (task self outcomes) =
      .ok () { task self outcomes with
        self := { self with activeOnlineRequests := self.activeOnlineRequests.erase r }
        told := [.chargeResult r true none] } := by
  unfold handleNodeMsg
  rw [bind_ok (show getSelf (task self outcomes) = .ok self (task self outcomes) from rfl)]
  simp only [if_pos hr]
  rfl

theorem handleNodeMsg_moves [AddrHash] [DebugFmt α] (self : NodeClient α)
    (outcomes : List (Option AppError)) (msg : Message α) :
    ∃ t', (handleNodeMsg msg (task self outcomes) = .ok () t' ∨
        ∃ e, handleNodeMsg msg (task self outcomes) = .error e t') ∧
      Moves self outcomes (.nodeMsg (.ok msg)) t'.self t'.sent := by
  cases msg with
  | response reqId opResult =>
    by_cases hactive : reqId ∈ self.activeOnlineRequests
    · let removed : Task α (NodeClient α) := { task self outcomes with
        self := { self with activeOnlineRequests := self.activeOnlineRequests.erase reqId } }
      obtain ⟨told, htells⟩ := handleResponseFromNode_tells reqId opResult removed
      refine ⟨{ removed with told := told }, .inl ?_,
        .keeps (fun r hr => List.mem_of_mem_erase hr) rfl⟩
      unfold handleNodeMsg
      rw [bind_ok (show getSelf (task self outcomes) = .ok self (task self outcomes) from rfl)]
      simp only [if_pos hactive]
      rw [bind_ok (show modifySelf _ (task self outcomes) = .ok () removed from rfl), htells]
    · exact ⟨_, .inl (handleNodeMsg_untracked hactive opResult outcomes),
        .keeps (fun r hr => hr) rfl⟩
  | roleQuery addr =>
    match outcomes with
    | some e :: rest => exact ⟨_, .inr ⟨_, rfl⟩, .keeps (fun r hr => hr) rfl⟩
    | none :: rest => exact ⟨_, .inl rfl, .keeps (fun r hr => hr) rfl⟩
    | [] => exact ⟨_, .inl rfl, .keeps (fun r hr => hr) rfl⟩
  | _ => exact ⟨task self outcomes, .inl rfl, .keeps (fun r hr => hr) rfl⟩

theorem turn_moves [AddrHash] [DebugFmt α] (self : NodeClient α) (event : Event α)
    (outcomes : List (Option AppError)) :
    ∃ t', (turn event (task self outcomes) = .ok () t' ∨
        ∃ e, turn event (task self outcomes) = .error e t') ∧
      Moves self outcomes event t'.self t'.sent := by
  match event with
  | .stationMsg (.chargeRequest accountId cardId amount requestId) =>
    obtain ⟨t', ht, hmoves⟩ := forwardOrEnqueueCharge_moves self outcomes
      ⟨accountId, cardId, amount, requestId⟩
    exact ⟨t', .inl ht, hmoves⟩
  | .stationMsg .disconnectNode => exact ⟨_, .inl rfl, .keeps (fun r hr => hr) rfl⟩
  | .stationMsg .connectNode =>
    obtain ⟨t', ht, hmoves⟩ := flushOfflineQueue_moves self outcomes
      { task self outcomes with
        self := { self with online := true }
        told := [.debug "[node_client] switched to ONLINE mode; replaying queued offline charges (if any)."] }
      rfl rfl rfl
    exact ⟨t', .inl ht, hmoves⟩
  | .nodeMsg (.ok msg) => exact handleNodeMsg_moves self outcomes msg
  | .nodeMsg (.error e) =>
    exact ⟨task self outcomes, .inl rfl, .keeps (fun r hr => hr) rfl⟩

end NodeClient

/-! ## Sessions -/

namespace Session

variable {s s' : Session α}

/-- No online request has the id of a replay. -/
def Apart (s : Session α) : Prop := ∀ r ∈ s.issued, r ∉ s.client.activeOnlineRequests

theorem step_moves [AddrHash] [DebugFmt α] {label : Event α × List (Option AppError)}
    (h : step s label = some s') :
    ∃ turn, s'.turns = s.turns ++ [turn] ∧
      NodeClient.Moves s.client label.2 label.1 s'.client turn.sent := by
  unfold step at h
  split at h
  · cases h
  · obtain ⟨t', ht | ⟨e, ht⟩, hmoves⟩ := NodeClient.turn_moves s.client label.1 label.2
    all_goals
      rw [ht] at h
      cases h
      exact ⟨⟨label.1, t'.sent, t'.told⟩, rfl, hmoves⟩

theorem issued_turn {turn : Turn α} (h : s'.turns = s.turns ++ [turn]) :
    s'.issued = s.issued ++ turn.sent.filterMap replayId := by
  unfold issued
  rw [sent_turn h, List.filterMap_append]

/-- **A turn with distinct ids** keeps online requests and replays apart. -/
theorem step_apart [AddrHash] [DebugFmt α] {label : Event α × List (Option AppError)}
    (hi : s.Apart) (hd : Distinct s label) (h : step s label = some s') : s'.Apart := by
  obtain ⟨turn, hturns, hmoves⟩ := step_moves h
  obtain ⟨event, outcomes⟩ := label
  unfold Apart
  rw [issued_turn hturns]
  intro r hr hmem
  cases hmoves with
  | keeps hactive hsent =>
    rw [hsent, List.append_nil] at hr
    exact hi r hr (hactive r hmem)
  | forwards c hf hactive hsent =>
    rw [hsent, List.append_nil] at hr
    rcases hactive r hmem with rfl | hold
    · exact hd hf hr
    · exact hi r hr hold
  | flushes hactive hsent =>
    rw [hactive] at hmem
    rcases List.mem_append.mp hr with hr | hr
    · exact hi r hr hmem
    · exact hd r hmem (hsent r hr)

theorem Apart.separate [AddrHash] [DebugFmt α] (hi : s.Apart) : s.Separate := by
  intro r hr opResult outcomes s' turn hstep hturns id allowed error hmem
  have hnot := hi r hr
  unfold step at hstep
  split at hstep
  · cases hstep
  · have hturn : NodeClient.turn (.nodeMsg (.ok (.response r opResult)))
        (NodeClient.task s.client outcomes) = .ok () (NodeClient.task s.client outcomes) :=
      NodeClient.handleNodeMsg_untracked hnot opResult outcomes
    rw [hturn] at hstep
    obtain rfl := Option.some.inj hstep
    obtain rfl := List.singleton_inj.mp (List.append_cancel_left hturns)
    cases hmem

/-- A replay under the id of an online request is heard. -/
theorem not_separate [AddrHash] [DebugFmt α] (hrunning : s.stopped = false) {r : ReqId}
    (hissued : r ∈ s.issued) (hactive : r ∈ s.client.activeOnlineRequests) : ¬ s.Separate := by
  intro hsep
  let told : Turn α :=
    ⟨.nodeMsg (.ok (.response r (.charge .ok))), [], [.chargeResult r true none]⟩
  let s' : Session α :=
    ⟨{ s.client with activeOnlineRequests := s.client.activeOnlineRequests.erase r }, false,
      s.turns ++ [told]⟩
  have hturn : NodeClient.turn (.nodeMsg (.ok (.response r (.charge .ok))))
      (NodeClient.task s.client []) = .ok () { NodeClient.task s.client [] with
        self := s'.client
        told := [.chargeResult r true none] } :=
    NodeClient.handleNodeMsg_tracked hactive []
  have hstep : s.step (.nodeMsg (.ok (.response r (.charge .ok))), []) = some s' := by
    unfold step
    rw [if_neg (by rw [hrunning]; exact Bool.false_ne_true), hturn]
  exact hsep r hissued (.charge .ok) [] s' told hstep rfl r true none List.mem_cons_self

end Session

/-- In every run whose ids are distinct when they meet, **no response to a replay is told the
    station as the result of a charge**. -/
theorem replays_unheard [AddrHash] [DebugFmt α] (bindAddr : SocketAddr)
    (knownNodes : List SocketAddr) {labels : List (Event α × List (Option AppError))}
    {s : Session α} (hr : run Session.step (Session.start bindAddr knownNodes) labels = some s)
    (hd : Meets Session.step Session.Distinct (Session.start bindAddr knownNodes) labels) :
    s.Separate := by
  have hapart : s.Apart :=
    run_induct_meets (fun _ _ _ hi hd hs => Session.step_apart hi hd hs) hr hd
      fun r hr => by cases hr
  exact hapart.separate

section Example

local instance repliesHash : AddrHash := localHash

local instance repliesFmt : DebugFmt Amount := ⟨fun _ => ""⟩

/-- A charge is taken offline and replayed, and the next one is forwarded. -/
def replayThenForward (requestId : ReqId) : List (Event Amount × List (Option AppError)) :=
  [(.stationMsg .disconnectNode, []), (.stationMsg (.chargeRequest 1 2 10 7), []),
    (.stationMsg .connectNode, []), (.stationMsg (.chargeRequest 1 3 20 requestId), [])]

theorem replays_unheard_example :
    ∃ s, run Session.step (Session.start (localAddr 5002) [localAddr 5000])
        (replayThenForward 8) = some s ∧ s.issued = [1000000] ∧
      s.client.activeOnlineRequests = [8] ∧ s.Separate := by
  have hrun : (run Session.step (Session.start (localAddr 5002) [localAddr 5000])
      (replayThenForward 8)).any (fun s => decide (s.issued = [1000000] ∧
        s.client.activeOnlineRequests = [8])) = true := by decide +kernel
  obtain ⟨s, hs, hp⟩ := (Option.any_eq_true _ _).mp hrun
  obtain ⟨hissued, hactive⟩ := of_decide_eq_true hp
  exact ⟨s, hs, hissued, hactive, replays_unheard _ _ hs (by decide +kernel)⟩

/-- **A station that picks 1000000 hears the answer to a replay.** -/
theorem replay_heard :
    ¬ ∀ (bindAddr : SocketAddr) (knownNodes : List SocketAddr)
      (labels : List (Event Amount × List (Option AppError))) (s : Session Amount),
      run Session.step (Session.start bindAddr knownNodes) labels = some s →
      (∀ c ∈ s.received, c.requestId ≠ 0) → s.Separate := by
  intro hall
  have hrun : (run Session.step (Session.start (localAddr 5002) [localAddr 5000])
      (replayThenForward 1000000)).any (fun s => decide (s.stopped = false ∧
        s.issued = [1000000] ∧ s.client.activeOnlineRequests = [1000000] ∧
        ∀ c ∈ s.received, c.requestId ≠ 0)) = true := by
    decide +kernel
  obtain ⟨s, hs, hp⟩ := (Option.any_eq_true _ _).mp hrun
  obtain ⟨hstopped, hissued, hactive, hids⟩ := of_decide_eq_true hp
  refine Session.not_separate hstopped (r := 1000000) ?_ ?_ (hall _ _ _ s hs hids)
  · rw [hissued]
    exact List.mem_cons_self
  · rw [hactive]
    exact List.mem_cons_self

end Example

end YpfRuta.Client
