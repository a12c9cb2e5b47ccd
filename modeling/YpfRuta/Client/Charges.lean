/-
  What becomes of a station's charges in a client node.

  A session is the client with everything it was told and did so far. Each charge is
  either forwarded, once and under its own request id, or answered by the client
  itself; a charge answered so waits in the queue until it is replayed, once.

  The run rule works on the list of the charges that wait and the list of those that
  were replayed: together they are the ones the client answered.
-/
import YpfRuta.Client.NodeClient
import YpfRuta.Lib.Transition

namespace YpfRuta.Client

open Server Lib

variable {α : Type}

/-- A charge as the station asks for it. -/
structure Charge (α : Type) where
  accountId : AccountId
  cardId : CardId
  amount : α
  requestId : ReqId
  deriving DecidableEq, Repr

namespace Charge

def operation (c : Charge α) (fromOfflineStation : Bool) : Operation α :=
  .charge c.accountId c.cardId c.amount fromOfflineStation

def queued (c : Charge α) : QueuedCharge α := ⟨c.accountId, c.cardId, c.amount⟩

end Charge

/-- One turn of a client: what woke it up, what it sent and what it told its station. -/
structure Turn (α : Type) where
  event : Event α
  sent : List (SocketAddr × Message α)
  told : List NodeToStationMsg

namespace Turn

/-- The charge this turn received. -/
def charge (turn : Turn α) : Option (Charge α) :=
  match turn.event with
  | .stationMsg (.chargeRequest accountId cardId amount requestId) =>
    some ⟨accountId, cardId, amount, requestId⟩
  | _ => none

/-- What the client tells its station of its own accord, and not for a node's answer. -/
def toldLocally (turn : Turn α) : List NodeToStationMsg :=
  match turn.event with
  | .stationMsg _ => turn.told
  | .nodeMsg _ => []

end Turn

/-- Is this the request of an online charge, under this id? -/
def isForward (requestId : ReqId) : SocketAddr × Message α → Bool
  | (_, .request reqId (.charge _ _ _ false) _) => reqId == requestId
  | _ => false

/-- Is this a result of the charge with this id? -/
def isResult (requestId : ReqId) : NodeToStationMsg → Bool
  | .chargeResult reqId _ _ => reqId == requestId
  | _ => false

/-- The charge a request replays. -/
def replayed : SocketAddr × Message α → Option (Operation α)
  | (_, .request _ (.charge accountId cardId amount true) _) =>
    some (.charge accountId cardId amount true)
  | _ => none

/-- A client and its turns, until a turn fails. -/
structure Session (α : Type) where
  client : NodeClient α
  stopped : Bool
  turns : List (Turn α)

namespace Session

def start (bindAddr : SocketAddr) (knownNodes : List SocketAddr) : Session α :=
  ⟨NodeClient.new bindAddr knownNodes, false, []⟩

/-- A turn, with how its sends end. -/
def step [AddrHash] [DebugFmt α] (s : Session α) (label : Event α × List (Option AppError)) :
    Option (Session α) :=
  if s.stopped then none
  else
    match NodeClient.turn label.1 ⟨s.client, true, label.2, 0, [], [], []⟩ with
    | .ok _ t => some ⟨t.self, false, s.turns ++ [⟨label.1, t.sent, t.told⟩]⟩
    | .error _ t => some ⟨t.self, true, s.turns ++ [⟨label.1, t.sent, t.told⟩]⟩

/-- The charges received so far, in arrival order. -/
def received (s : Session α) : List (Charge α) := s.turns.filterMap Turn.charge

def sent (s : Session α) : List (SocketAddr × Message α) := s.turns.flatMap Turn.sent

def toldLocally (s : Session α) : List NodeToStationMsg := s.turns.flatMap Turn.toldLocally

/-- The requests that forward the charge with this id. -/
def forwards (s : Session α) (requestId : ReqId) : List (SocketAddr × Message α) :=
  s.sent.filter (isForward requestId)

/-- The results the client itself gave to the charge with this id. -/
def localResults (s : Session α) (requestId : ReqId) : List NodeToStationMsg :=
  s.toldLocally.filter (isResult requestId)

/-- The charges that were replayed, in the order they were. -/
def replays (s : Session α) : List (Operation α) := s.sent.filterMap replayed

/-- One request of its own went out for this charge, and the client gave no result. -/
def Forwarded (s : Session α) (c : Charge α) : Prop :=
  (∃ target ∈ s.client.knownNodes, s.forwards c.requestId =
    [(target, .request c.requestId (c.operation false) s.client.bindAddr)]) ∧
  s.localResults c.requestId = []

/-- The client itself let this charge through, and did not forward it. -/
def Answered (s : Session α) (c : Charge α) : Prop :=
  s.forwards c.requestId = [] ∧
  s.localResults c.requestId = [.chargeResult c.requestId true none]

/-- The charges the client answered, in arrival order. -/
def answered (s : Session α) : List (Charge α) :=
  s.received.filter fun c => s.localResults c.requestId ≠ []

/-- Every charge is accounted for: it was forwarded or answered, and the answered ones
    wait in the queue, in arrival order, or were replayed once. -/
structure Accounted (s : Session α) : Prop where
  fate : ∀ c ∈ s.received, s.Forwarded c ∨ s.Answered c
  queue : ∃ waiting gone : List (Charge α), (waiting ++ gone).Perm s.answered ∧
    waiting.Sublist s.received ∧ s.client.offlineQueue = waiting.map Charge.queued ∧
    s.replays = gone.map fun c => c.operation true

end Session

/-! ## What the handlers do -/

namespace NodeClient

theorem errorOf_send_cases (msg : Message α) (addr : SocketAddr) (t : Task α (NodeClient α)) :
    ∃ r t', errorOf (send msg addr) t = .ok r t' ∧ t'.self = t.self ∧ t'.told = t.told ∧
      (r = none ∧ t'.sent = t.sent ++ [(addr, msg)] ∨ (∃ e, r = some e) ∧ t'.sent = t.sent) := by
  unfold errorOf send
  by_cases hc : t.connected
  · rw [bind_ok (show (get : Handler α (NodeClient α) _) t = .ok t t from rfl), if_pos hc]
    match ho : t.outcomes with
    | some e :: rest => exact ⟨_, _, rfl, rfl, rfl, .inr ⟨⟨_, rfl⟩, rfl⟩⟩
    | none :: rest => exact ⟨_, _, rfl, rfl, rfl, .inl ⟨rfl, rfl⟩⟩
    | [] => exact ⟨_, _, rfl, rfl, rfl, .inl ⟨rfl, rfl⟩⟩
  · rw [bind_ok (show (get : Handler α (NodeClient α) _) t = .ok t t from rfl), if_neg hc]
    exact ⟨_, _, rfl, rfl, rfl, .inr ⟨⟨_, rfl⟩, rfl⟩⟩

/-- Of the nodes tried, one takes the message or none does. -/
theorem sendToFirst_cases (msg : Message α) (targets : List SocketAddr)
    (t : Task α (NodeClient α)) :
    ∃ sent t', sendToFirst msg targets t = .ok sent t' ∧ t'.self = t.self ∧ t'.told = t.told ∧
      (sent = true ∧ (∃ target ∈ targets, t'.sent = t.sent ++ [(target, msg)]) ∨
        sent = false ∧ t'.sent = t.sent) := by
  induction targets generalizing t with
  | nil => exact ⟨_, _, rfl, rfl, rfl, .inr ⟨rfl, rfl⟩⟩
  | cons target targets ih =>
    unfold sendToFirst
    obtain ⟨r, t₁, htry, hself, htold, h | h⟩ := errorOf_send_cases msg target t
    · obtain ⟨rfl, hsent⟩ := h
      rw [bind_ok htry]
      exact ⟨true, t₁, rfl, hself, htold, .inl ⟨rfl, target, List.mem_cons_self, hsent⟩⟩
    · obtain ⟨⟨e, rfl⟩, hsent⟩ := h
      rw [bind_ok htry]
      obtain ⟨sent, t₂, hrest, hself', htold', h⟩ := ih t₁
      refine ⟨sent, t₂, hrest, hself'.trans hself, htold'.trans htold, ?_⟩
      rw [hsent] at h
      obtain ⟨rfl, found, hfound, hs⟩ | ⟨rfl, hs⟩ := h
      · exact .inl ⟨rfl, found, List.mem_cons_of_mem _ hfound, hs⟩
      · exact .inr ⟨rfl, hs⟩

/-- A client that differs from another in its next replay id at most. -/
def SameButReplayId (self self' : NodeClient α) : Prop :=
  ∃ n, self' = { self with nextReplayReqId := n }

theorem SameButReplayId.refl (self : NodeClient α) : SameButReplayId self self := ⟨_, rfl⟩

theorem SameButReplayId.trans {a b c : NodeClient α} (hab : SameButReplayId a b)
    (hbc : SameButReplayId b c) : SameButReplayId a c := by
  obtain ⟨n, rfl⟩ := hab
  obtain ⟨m, rfl⟩ := hbc
  exact ⟨m, rfl⟩

/-- The same for a replay, each attempt of which takes an id. -/
theorem replayToFirst_cases (op : Operation α) (targets : List SocketAddr)
    (t : Task α (NodeClient α)) :
    ∃ sent t', replayToFirst op targets t = .ok sent t' ∧ SameButReplayId t.self t'.self ∧
      t'.told = t.told ∧
      (sent = true ∧ (∃ target ∈ targets, ∃ reqId,
          t'.sent = t.sent ++ [(target, .request reqId op t.self.bindAddr)]) ∨
        sent = false ∧ t'.sent = t.sent) := by
  induction targets generalizing t with
  | nil => exact ⟨_, _, rfl, .refl _, rfl, .inr ⟨rfl, rfl⟩⟩
  | cons target targets ih =>
    unfold replayToFirst
    rw [bind_ok (show getSelf t = .ok t.self t from rfl)]
    let next : NodeClient α := { t.self with nextReplayReqId := t.self.nextReplayReqId + 1 }
    have hid : SameButReplayId t.self next := ⟨_, rfl⟩
    rw [bind_ok (show modifySelf _ t = .ok () { t with self := next } from rfl)]
    obtain ⟨r, t₁, htry, hself, htold, h | h⟩ := errorOf_send_cases
      (.request t.self.nextReplayReqId op t.self.bindAddr) target { t with self := next }
    · obtain ⟨rfl, hsent⟩ := h
      rw [bind_ok htry]
      exact ⟨true, t₁, rfl, hself ▸ hid, htold, .inl ⟨rfl, target, List.mem_cons_self, _, hsent⟩⟩
    · obtain ⟨⟨e, rfl⟩, hsent⟩ := h
      rw [bind_ok htry]
      obtain ⟨sent, t₂, hrest, hself', htold', h⟩ := ih t₁
      have hsame : SameButReplayId t.self t₁.self := hself ▸ hid
      refine ⟨sent, t₂, hrest, hsame.trans hself', htold'.trans htold, ?_⟩
      rw [hsent] at h
      obtain ⟨rfl, found, hfound, reqId, hs⟩ | ⟨rfl, hs⟩ := h
      · rw [hself] at hs
        exact .inl ⟨rfl, found, List.mem_cons_of_mem _ hfound, reqId, hs⟩
      · exact .inr ⟨rfl, hs⟩

/-- The requests that replay some charges, one each. -/
def Replays (bindAddr : SocketAddr) (sent : List (SocketAddr × Message α))
    (gone : List (Charge α)) : Prop :=
  List.Forall₂ (fun send c => ∃ target reqId,
    send = (target, .request reqId (c.operation true) bindAddr)) sent gone

/-- Of the charges that wait, some are replayed and the others go on waiting in the
    same order. -/
theorem replayAll_cases (waiting : List (Charge α)) (t : Task α (NodeClient α)) :
    ∃ (kept gone : List (Charge α)) (t' : Task α (NodeClient α)),
      replayAll (waiting.map Charge.queued) t = .ok (kept.map Charge.queued) t' ∧
      SameButReplayId t.self t'.self ∧ t'.told = t.told ∧ kept.Sublist waiting ∧
      (kept ++ gone).Perm waiting ∧
      ∃ sent, t'.sent = t.sent ++ sent ∧ Replays t.self.bindAddr sent gone := by
  induction waiting generalizing t with
  | nil =>
    exact ⟨[], [], t, rfl, .refl _, rfl, .slnil, .nil, [], (List.append_nil _).symm, .nil⟩
  | cons c waiting ih =>
    rw [List.map_cons]
    unfold replayAll
    rw [bind_ok (show getSelf t = .ok t.self t from rfl)]
    obtain ⟨taken, t₁, htry, hself, htold, h⟩ :=
      replayToFirst_cases (c.operation true) t.self.knownNodes t
    rw [bind_ok (show replayToFirst (.charge c.queued.accountId c.queued.cardId c.queued.amount
      true) t.self.knownNodes t = .ok taken t₁ from htry)]
    obtain ⟨kept, gone, t₂, hrest, hself', htold', hkept, hperm, sent, hsent, hgone⟩ := ih t₁
    rw [bind_ok hrest]
    have hself₂ := hself.trans hself'
    have hbind : t₁.self.bindAddr = t.self.bindAddr := by
      obtain ⟨n, hn⟩ := hself
      rw [hn]
    rw [hbind] at hgone
    obtain ⟨rfl, target, -, reqId, hs⟩ | ⟨rfl, hs⟩ := h
    · refine ⟨kept, c :: gone, t₂, rfl, hself₂, htold'.trans htold, hkept.cons c,
        List.perm_middle.trans (hperm.cons c),
        (target, .request reqId (c.operation true) t.self.bindAddr) :: sent, ?_, ?_⟩
      · rw [hsent, hs, List.append_assoc]
        rfl
      · exact .cons ⟨target, reqId, rfl⟩ hgone
    · refine ⟨c :: kept, gone, t₂, rfl, hself₂, htold'.trans htold, hkept.cons_cons c,
        hperm.cons c, sent, ?_, hgone⟩
      rw [hsent, hs]

/-- What one turn does, when these charges wait: the client it leaves, what it sends and
    what it tells the station. -/
inductive Does (self : NodeClient α) (waiting : List (Charge α)) : Event α → NodeClient α → List (SocketAddr × Message α) →
    List NodeToStationMsg → Prop where
  | forwards {c : Charge α} {target : SocketAddr} {active : List ReqId} :
      target ∈ self.knownNodes →
      Does self waiting (.stationMsg (.chargeRequest c.accountId c.cardId c.amount c.requestId))
        { self with activeOnlineRequests := active }
        [(target, .request c.requestId (c.operation false) self.bindAddr)] []
  | answers (c : Charge α) (texts : List String) :
      Does self waiting (.stationMsg (.chargeRequest c.accountId c.cardId c.amount c.requestId))
        { self with offlineQueue := self.offlineQueue ++ [c.queued] } []
        (texts.map .debug ++ [.chargeResult c.requestId true none])
  | flushes {kept gone : List (Charge α)} {nextId : ReqId} {text : String}
      {sent : List (SocketAddr × Message α)} :
      kept.Sublist waiting → (kept ++ gone).Perm waiting →
      Replays self.bindAddr sent gone →
      Does self waiting (.stationMsg .connectNode)
        { self with
          online := true
          offlineQueue := kept.map Charge.queued
          nextReplayReqId := nextId }
        sent [.debug text]
  | disconnects {text : String} :
      Does self waiting (.stationMsg .disconnectNode) { self with online := false } [] [.debug text]
  | hears {msg : Except AppError (Message α)} (active : List ReqId)
      {sent : List (SocketAddr × Message α)} {told : List NodeToStationMsg} :
      (∀ p ∈ sent, ∃ id role, p.2 = .roleResponse id role) →
      Does self waiting (.nodeMsg msg) { self with activeOnlineRequests := active } sent told

/-- The task a turn starts with. -/
abbrev task (self : NodeClient α) (outcomes : List (Option AppError)) :
    Task α (NodeClient α) :=
  ⟨self, true, outcomes, 0, [], [], []⟩

theorem chargeRequest_does (self : NodeClient α) (waiting : List (Charge α))
    (outcomes : List (Option AppError)) (c : Charge α) :
    ∃ t', forwardOrEnqueueCharge c.accountId c.cardId c.amount c.requestId
        (task self outcomes) = .ok () t' ∧
      Does self waiting (.stationMsg (.chargeRequest c.accountId c.cardId c.amount c.requestId)) t'.self
        t'.sent t'.told := by
  unfold forwardOrEnqueueCharge
  rw [bind_ok (show getSelf (task self outcomes) = .ok self (task self outcomes) from rfl)]
  by_cases hnodes : self.knownNodes.isEmpty
  · rw [if_pos hnodes]
    exact ⟨_, rfl, .answers c [_]⟩
  · rw [if_neg hnodes]
    by_cases honline : (!self.online) = true
    · rw [if_pos honline]
      exact ⟨_, rfl, .answers c []⟩
    · rw [if_neg honline]
      unfold forwardOnlineCharge
      rw [bind_ok (show getSelf (task self outcomes) = .ok self (task self outcomes) from rfl)]
      obtain ⟨sent, t₁, htry, hself, htold, h⟩ := sendToFirst_cases
        (.request c.requestId (c.operation false) self.bindAddr) self.knownNodes
        (task self outcomes)
      rw [bind_ok (show sendToFirst (.request c.requestId
        (.charge c.accountId c.cardId c.amount false) self.bindAddr) self.knownNodes
        (task self outcomes) = .ok sent t₁ from htry)]
      obtain ⟨rfl, target, htarget, hs⟩ | ⟨rfl, hs⟩ := h
      · refine ⟨_, rfl, ?_⟩
        show Does self waiting _ { t₁.self with activeOnlineRequests := _ } t₁.sent t₁.told
        rw [hself, htold, hs]
        exact .forwards htarget
      · refine ⟨_, rfl, ?_⟩
        show Does self waiting _ { t₁.self with offlineQueue := _ } t₁.sent (t₁.told ++ _)
        rw [hself, htold, hs]
        exact .answers c []

theorem flushOfflineQueue_does {self : NodeClient α} {waiting : List (Charge α)}
    (hq : self.offlineQueue = waiting.map Charge.queued)
    (t : Task α (NodeClient α)) (hself : t.self = { self with online := true })
    (hsent : t.sent = []) {text : String} (htold : t.told = [.debug text]) :
    ∃ t', flushOfflineQueue t = .ok () t' ∧
      Does self waiting (.stationMsg .connectNode) t'.self t'.sent t'.told := by
  have hkeep : Does self waiting (.stationMsg .connectNode) t.self t.sent t.told := by
    have hall : { self with online := true } = { self with
        online := true
        offlineQueue := waiting.map Charge.queued
        nextReplayReqId := self.nextReplayReqId } := by rw [← hq]
    rw [hself, hsent, htold, hall]
    exact .flushes (.refl _) (by rw [List.append_nil]) .nil
  unfold flushOfflineQueue
  rw [bind_ok (show getSelf t = .ok t.self t from rfl)]
  by_cases hempty : t.self.offlineQueue.isEmpty
  · rw [if_pos hempty]
    exact ⟨t, rfl, hkeep⟩
  · rw [if_neg hempty]
    by_cases hnodes : t.self.knownNodes.isEmpty
    · rw [if_pos hnodes]
      exact ⟨t, rfl, hkeep⟩
    · rw [if_neg hnodes]
      have hqueue : t.self.offlineQueue = waiting.map Charge.queued := by
        rw [hself]
        exact hq
      let drained : Task α (NodeClient α) := { t with self := { t.self with offlineQueue := [] } }
      rw [bind_ok (show modifySelf _ t = .ok () drained from rfl), hqueue]
      obtain ⟨kept, gone, t₁, hrest, ⟨n, hsame⟩, htold₁, hkept, hperm, sent, hsent₁, hgone⟩ :=
        replayAll_cases waiting drained
      rw [bind_ok hrest]
      have hgone' : Replays self.bindAddr sent gone := by
        have hbind : drained.self.bindAddr = self.bindAddr := by
          show t.self.bindAddr = _
          rw [hself]
        rwa [hbind] at hgone
      have hdoes : Does self waiting (.stationMsg .connectNode)
          { t₁.self with offlineQueue := kept.map Charge.queued } t₁.sent t₁.told := by
        have hlast : { t₁.self with offlineQueue := kept.map Charge.queued } = { self with
            online := true
            offlineQueue := kept.map Charge.queued
            nextReplayReqId := n } := by
          have hdrained : drained.self = { self with
              online := true
              offlineQueue := [] } := by
            show { t.self with offlineQueue := [] } = _
            rw [hself]
          rw [hsame, hdrained]
        have hsent' : t₁.sent = sent := by
          rw [hsent₁]
          show t.sent ++ sent = sent
          rw [hsent, List.nil_append]
        have htold' : t₁.told = [.debug text] := htold₁.trans htold
        rw [hlast, hsent', htold']
        exact .flushes hkept hperm hgone'
      by_cases hnone : (!(kept.map Charge.queued).isEmpty) = true
      · rw [if_pos hnone]
        exact ⟨_, rfl, hdoes⟩
      · rw [if_neg hnone]
        refine ⟨t₁, rfl, ?_⟩
        have hnil : kept.map Charge.queued = [] := by simpa using hnone
        have hself₁ : t₁.self = { t₁.self with offlineQueue := kept.map Charge.queued } := by
          rw [hnil, hsame]
        rw [hself₁]
        exact hdoes

theorem handleResponseFromNode_tells [DebugFmt α] (reqId : ReqId) (opResult : OperationResult α)
    (t : Task α (NodeClient α)) :
    ∃ told, handleResponseFromNode reqId opResult t = .ok () { t with told := told } := by
  match opResult with
  | .charge .ok => exact ⟨_, rfl⟩
  | .charge (.failed e) => exact ⟨_, rfl⟩
  | .limitAccount r => exact ⟨_, rfl⟩
  | .limitCard r => exact ⟨_, rfl⟩
  | .accountQuery r => exact ⟨_, rfl⟩
  | .databaseSnapshot s => exact ⟨_, rfl⟩
  | .replaceDatabase => exact ⟨_, rfl⟩

theorem handleNodeMsg_does [AddrHash] [DebugFmt α] (self : NodeClient α)
    (waiting : List (Charge α)) (outcomes : List (Option AppError)) (msg : Message α) :
    ∃ t', (handleNodeMsg msg (task self outcomes) = .ok () t' ∨
        ∃ e, handleNodeMsg msg (task self outcomes) = .error e t') ∧
      Does self waiting (.nodeMsg (.ok msg)) t'.self t'.sent t'.told := by
  have hkeep : Does self waiting (.nodeMsg (.ok msg)) { self with
      activeOnlineRequests := self.activeOnlineRequests } [] [] :=
    .hears _ fun p hp => absurd hp List.not_mem_nil
  unfold handleNodeMsg
  rw [bind_ok (show getSelf (task self outcomes) = .ok self (task self outcomes) from rfl)]
  cases msg with
  | response reqId opResult =>
    by_cases hactive : reqId ∈ self.activeOnlineRequests
    · let removed : Task α (NodeClient α) := { task self outcomes with
        self := { self with activeOnlineRequests := self.activeOnlineRequests.erase reqId } }
      obtain ⟨told, htells⟩ := handleResponseFromNode_tells reqId opResult removed
      refine ⟨{ removed with told := told }, .inl ?_,
        .hears _ fun p hp => absurd hp List.not_mem_nil⟩
      simp only [if_pos hactive]
      rw [bind_ok (show modifySelf _ (task self outcomes) = .ok () removed from rfl), htells]
    · refine ⟨task self outcomes, .inl ?_, hkeep⟩
      simp only [if_neg hactive]
      rfl
  | roleQuery addr =>
    simp only
    unfold send
    rw [bind_ok (show (get : Handler α (NodeClient α) _) (task self outcomes) =
      .ok (task self outcomes) (task self outcomes) from rfl), if_pos rfl]
    have hrole : ∀ p ∈ [(addr, (.roleResponse (getIdGivenAddr self.bindAddr) .station :
        Message α))], ∃ id role, p.2 = .roleResponse id role := by
      intro p hp
      rw [List.mem_singleton.mp hp]
      exact ⟨_, _, rfl⟩
    match outcomes with
    | some e :: rest => exact ⟨_, .inr ⟨_, rfl⟩, hkeep⟩
    | none :: rest => exact ⟨_, .inl rfl, .hears _ hrole⟩
    | [] => exact ⟨_, .inl rfl, .hears _ hrole⟩
  | _ => exact ⟨task self outcomes, .inl rfl, hkeep⟩

/-- Every turn of a client does one of these things, when its queue holds the charges
    that wait. -/
theorem turn_does [AddrHash] [DebugFmt α] {self : NodeClient α} {waiting : List (Charge α)}
    (hq : self.offlineQueue = waiting.map Charge.queued) (event : Event α)
    (outcomes : List (Option AppError)) :
    ∃ t', (turn event (task self outcomes) = .ok () t' ∨
        ∃ e, turn event (task self outcomes) = .error e t') ∧
      Does self waiting event t'.self t'.sent t'.told := by
  match event with
  | .stationMsg (.chargeRequest accountId cardId amount requestId) =>
    obtain ⟨t', ht, hdoes⟩ := chargeRequest_does self waiting outcomes
      ⟨accountId, cardId, amount, requestId⟩
    exact ⟨t', .inl ht, hdoes⟩
  | .stationMsg .disconnectNode => exact ⟨_, .inl rfl, .disconnects⟩
  | .stationMsg .connectNode =>
    obtain ⟨t', ht, hdoes⟩ := flushOfflineQueue_does hq
      { task self outcomes with
        self := { self with online := true }
        told := [.debug "[node_client] switched to ONLINE mode; replaying queued offline charges (if any)."] }
      rfl rfl rfl
    exact ⟨t', .inl ht, hdoes⟩
  | .nodeMsg (.ok msg) => exact handleNodeMsg_does self waiting outcomes msg
  | .nodeMsg (.error e) =>
    exact ⟨task self outcomes, .inl rfl, .hears self.activeOnlineRequests
      fun p hp => absurd hp List.not_mem_nil⟩

end NodeClient

namespace Session

variable {s s' : Session α} {turn : Turn α}

theorem step_does [AddrHash] [DebugFmt α] {label : Event α × List (Option AppError)}
    {waiting : List (Charge α)} (hq : s.client.offlineQueue = waiting.map Charge.queued)
    (h : step s label = some s') :
    ∃ turn, s'.turns = s.turns ++ [turn] ∧
      NodeClient.Does s.client waiting turn.event s'.client turn.sent turn.told := by
  unfold step at h
  split at h
  · cases h
  · obtain ⟨t', ht | ⟨e, ht⟩, hdoes⟩ := NodeClient.turn_does hq label.1 label.2
    all_goals
      rw [ht] at h
      cases h
      exact ⟨⟨label.1, t'.sent, t'.told⟩, rfl, hdoes⟩

/-! ## One turn's part of a session -/

theorem received_turn (h : s'.turns = s.turns ++ [turn]) :
    s'.received = s.received ++ turn.charge.toList := by
  unfold received
  rw [h, List.filterMap_append]
  cases hc : turn.charge <;> simp [hc]

theorem sent_turn (h : s'.turns = s.turns ++ [turn]) : s'.sent = s.sent ++ turn.sent := by
  unfold sent
  rw [h, List.flatMap_append]
  simp

theorem forwards_turn (h : s'.turns = s.turns ++ [turn]) (requestId : ReqId) :
    s'.forwards requestId = s.forwards requestId ++ turn.sent.filter (isForward requestId) := by
  unfold forwards
  rw [sent_turn h, List.filter_append]

theorem replays_turn (h : s'.turns = s.turns ++ [turn]) :
    s'.replays = s.replays ++ turn.sent.filterMap replayed := by
  unfold replays
  rw [sent_turn h, List.filterMap_append]

theorem localResults_turn (h : s'.turns = s.turns ++ [turn]) (requestId : ReqId) :
    s'.localResults requestId =
      s.localResults requestId ++ turn.toldLocally.filter (isResult requestId) := by
  unfold localResults toldLocally
  rw [h, List.flatMap_append, List.filter_append]
  simp

/-! ## The books of a session -/

/-- Every charge is accounted for, and nothing was done for an id no charge has. -/
structure Books (s : Session α) : Prop where
  accounted : s.Accounted
  stranger : ∀ r, (∀ c ∈ s.received, c.requestId ≠ r) →
    s.forwards r = [] ∧ s.localResults r = []

theorem start_books (bindAddr : SocketAddr) (knownNodes : List SocketAddr) :
    (start bindAddr knownNodes : Session α).Books where
  accounted := ⟨fun _ hc => absurd hc List.not_mem_nil, [], [], .nil, .slnil, rfl, rfl⟩
  stranger := fun _ _ => ⟨rfl, rfl⟩

/-- A turn that receives no charge forwards none and answers none. -/
structure Quiet (s s' : Session α) (turn : Turn α) : Prop where
  turns : s'.turns = s.turns ++ [turn]
  charge : turn.charge = none
  forwards : ∀ r, turn.sent.filter (isForward r) = []
  results : ∀ r, turn.toldLocally.filter (isResult r) = []
  bindAddr : s'.client.bindAddr = s.client.bindAddr
  knownNodes : s'.client.knownNodes = s.client.knownNodes

theorem Quiet.received_eq (h : Quiet s s' turn) : s'.received = s.received := by
  rw [received_turn h.turns, h.charge]
  exact List.append_nil _

theorem Quiet.forwards_eq (h : Quiet s s' turn) (r : ReqId) : s'.forwards r = s.forwards r := by
  rw [forwards_turn h.turns, h.forwards, List.append_nil]

theorem Quiet.localResults_eq (h : Quiet s s' turn) (r : ReqId) :
    s'.localResults r = s.localResults r := by
  rw [localResults_turn h.turns, h.results, List.append_nil]

theorem Quiet.answered_eq (h : Quiet s s' turn) : s'.answered = s.answered := by
  unfold answered
  rw [h.received_eq]
  simp only [h.localResults_eq]

theorem Quiet.fate (h : Quiet s s' turn) {c : Charge α} (hc : s.Forwarded c ∨ s.Answered c) :
    s'.Forwarded c ∨ s'.Answered c := by
  unfold Forwarded Answered at hc ⊢
  rw [h.forwards_eq, h.localResults_eq, h.bindAddr, h.knownNodes]
  exact hc

/-- The charges that wait after a quiet turn, and the ones that it replayed. -/
theorem Quiet.books (h : Quiet s s' turn) (hb : s.Books) {waiting gone kept left : List (Charge α)}
    (hperm : (waiting ++ gone).Perm s.answered) (hsub : waiting.Sublist s.received)
    (hreplays : s.replays = gone.map fun c => c.operation true)
    (hkept : kept.Sublist waiting) (hsplit : (kept ++ left).Perm waiting)
    (hqueue : s'.client.offlineQueue = kept.map Charge.queued)
    (hsent : turn.sent.filterMap replayed = left.map fun c => c.operation true) : s'.Books where
  accounted :=
    { fate := fun c hc => h.fate (hb.accounted.fate c (h.received_eq ▸ hc))
      queue := by
        refine ⟨kept, gone ++ left, ?_, ?_, hqueue, ?_⟩
        · rw [h.answered_eq]
          have hcomm : (kept ++ (gone ++ left)).Perm (kept ++ left ++ gone) := by
            rw [List.append_assoc]
            exact List.perm_append_comm.append_left kept
          exact hcomm.trans ((hsplit.append_right gone).trans hperm)
        · rw [h.received_eq]
          exact hkept.trans hsub
        · rw [replays_turn h.turns, hreplays, hsent, List.map_append] }
  stranger := by
    intro r hr
    rw [h.received_eq] at hr
    rw [h.forwards_eq, h.localResults_eq]
    exact hb.stranger r hr

/-- A turn that receives a charge no other has the id of, and does something for that
    id only. -/
structure Takes (s s' : Session α) (turn : Turn α) (c : Charge α) : Prop where
  turns : s'.turns = s.turns ++ [turn]
  charge : turn.charge = some c
  fresh : ∀ c' ∈ s.received, c'.requestId ≠ c.requestId
  forwards : ∀ r, r ≠ c.requestId → turn.sent.filter (isForward r) = []
  results : ∀ r, r ≠ c.requestId → turn.toldLocally.filter (isResult r) = []
  bindAddr : s'.client.bindAddr = s.client.bindAddr
  knownNodes : s'.client.knownNodes = s.client.knownNodes

section Takes

variable {c : Charge α}

theorem Takes.received_eq (h : Takes s s' turn c) : s'.received = s.received ++ [c] := by
  rw [received_turn h.turns, h.charge]
  rfl

theorem Takes.forwards_eq (h : Takes s s' turn c) {r : ReqId} (hr : r ≠ c.requestId) :
    s'.forwards r = s.forwards r := by
  rw [forwards_turn h.turns, h.forwards r hr, List.append_nil]

theorem Takes.localResults_eq (h : Takes s s' turn c) {r : ReqId} (hr : r ≠ c.requestId) :
    s'.localResults r = s.localResults r := by
  rw [localResults_turn h.turns, h.results r hr, List.append_nil]

theorem Takes.forwards_self (h : Takes s s' turn c) (hb : s.Books) :
    s'.forwards c.requestId = turn.sent.filter (isForward c.requestId) := by
  rw [forwards_turn h.turns, (hb.stranger c.requestId h.fresh).1, List.nil_append]

theorem Takes.localResults_self (h : Takes s s' turn c) (hb : s.Books) :
    s'.localResults c.requestId = turn.toldLocally.filter (isResult c.requestId) := by
  rw [localResults_turn h.turns, (hb.stranger c.requestId h.fresh).2, List.nil_append]

/-- The charges received before are as they were. -/
theorem Takes.fate (h : Takes s s' turn c) {c' : Charge α} (hmem : c' ∈ s.received)
    (hc : s.Forwarded c' ∨ s.Answered c') : s'.Forwarded c' ∨ s'.Answered c' := by
  have hne := h.fresh c' hmem
  unfold Forwarded Answered at hc ⊢
  rw [h.forwards_eq hne, h.localResults_eq hne, h.bindAddr, h.knownNodes]
  exact hc

theorem Takes.answered_eq (h : Takes s s' turn c) :
    s'.answered = s.answered ++ [c].filter fun c => s'.localResults c.requestId ≠ [] := by
  unfold answered
  rw [h.received_eq, List.filter_append]
  congr 1
  apply List.filter_congr
  intro c' hc'
  rw [h.localResults_eq (h.fresh c' hc')]

theorem Takes.answered_of_silent (h : Takes s s' turn c)
    (hl : s'.localResults c.requestId = []) : s'.answered = s.answered := by
  rw [h.answered_eq]
  simp [hl]

theorem Takes.answered_of_result (h : Takes s s' turn c)
    (hl : s'.localResults c.requestId ≠ []) : s'.answered = s.answered ++ [c] := by
  rw [h.answered_eq]
  simp [hl]

theorem Takes.stranger (h : Takes s s' turn c) (hb : s.Books) (r : ReqId)
    (hr : ∀ c' ∈ s'.received, c'.requestId ≠ r) :
    s'.forwards r = [] ∧ s'.localResults r = [] := by
  rw [h.received_eq] at hr
  have hne : r ≠ c.requestId := Ne.symm (hr c (List.mem_append_right _ List.mem_cons_self))
  rw [h.forwards_eq hne, h.localResults_eq hne]
  exact hb.stranger r fun c' hc' => hr c' (List.mem_append_left _ hc')

theorem filter_forward_self (target bindAddr : SocketAddr) (c : Charge α) :
    [(target, (.request c.requestId (c.operation false) bindAddr : Message α))].filter
      (isForward c.requestId) = [(target, .request c.requestId (c.operation false) bindAddr)] := by
  simp [isForward, Charge.operation]

theorem filter_forward_other (target bindAddr : SocketAddr) {c : Charge α} {r : ReqId}
    (hr : r ≠ c.requestId) :
    [(target, (.request c.requestId (c.operation false) bindAddr : Message α))].filter
      (isForward r) = [] := by
  simp [isForward, Charge.operation, Ne.symm hr]

theorem filter_result_self (texts : List String) (r : ReqId) :
    (texts.map NodeToStationMsg.debug ++ [NodeToStationMsg.chargeResult r true none]).filter (isResult r) =
      [.chargeResult r true none] := by
  have htexts : (texts.map NodeToStationMsg.debug).filter (isResult r) = [] := by
    rw [List.filter_eq_nil_iff]
    intro m hm
    obtain ⟨text, -, rfl⟩ := List.mem_map.mp hm
    exact Bool.false_ne_true
  rw [List.filter_append, htexts]
  simp [isResult]

theorem filter_result_other (texts : List String) {r r' : ReqId} (hr : r' ≠ r) :
    (texts.map NodeToStationMsg.debug ++ [NodeToStationMsg.chargeResult r true none]).filter (isResult r') =
      [] := by
  rw [List.filter_eq_nil_iff]
  intro m hm
  rcases List.mem_append.mp hm with hm | hm
  · obtain ⟨text, -, rfl⟩ := List.mem_map.mp hm
    exact Bool.false_ne_true
  · rw [List.mem_singleton.mp hm]
    simp [isResult, Ne.symm hr]

end Takes

/-! ## What is sent -/

theorem filter_replays {bindAddr : SocketAddr} {sent : List (SocketAddr × Message α)}
    {gone : List (Charge α)} (h : NodeClient.Replays bindAddr sent gone) (r : ReqId) :
    sent.filter (isForward r) = [] := by
  unfold NodeClient.Replays at h
  induction h with
  | nil => rfl
  | cons hsend hrest ih =>
    obtain ⟨target, reqId, rfl⟩ := hsend
    exact ih

theorem filterMap_replays {bindAddr : SocketAddr} {sent : List (SocketAddr × Message α)}
    {gone : List (Charge α)} (h : NodeClient.Replays bindAddr sent gone) :
    sent.filterMap replayed = gone.map fun c => c.operation true := by
  unfold NodeClient.Replays at h
  induction h with
  | nil => rfl
  | cons hsend hrest ih =>
    obtain ⟨target, reqId, rfl⟩ := hsend
    exact congrArg _ ih

theorem filter_roles {sent : List (SocketAddr × Message α)}
    (h : ∀ p ∈ sent, ∃ id role, p.2 = .roleResponse id role) (r : ReqId) :
    sent.filter (isForward r) = [] := by
  rw [List.filter_eq_nil_iff]
  rintro ⟨addr, msg⟩ hp
  obtain ⟨id, role, rfl⟩ := h _ hp
  exact Bool.false_ne_true

theorem filterMap_roles {sent : List (SocketAddr × Message α)}
    (h : ∀ p ∈ sent, ∃ id role, p.2 = .roleResponse id role) :
    sent.filterMap replayed = [] := by
  rw [List.filterMap_eq_nil_iff]
  rintro ⟨addr, msg⟩ hp
  obtain ⟨id, role, rfl⟩ := h _ hp
  rfl

/-- Each turn keeps the books, if the charge it receives has an id of its own. -/
theorem step_books [AddrHash] [DebugFmt α] {label : Event α × List (Option AppError)}
    (hb : s.Books) (h : step s label = some s')
    (hfresh : (s'.received.map Charge.requestId).Nodup) : s'.Books := by
  obtain ⟨waiting, gone, hperm, hsub, hqueue, hreplays⟩ := hb.accounted.queue
  obtain ⟨⟨event, sent, told⟩, hturns, hdoes⟩ := step_does hqueue h
  obtain ⟨client', stopped', turns'⟩ := s'
  have hall : (waiting ++ []).Perm waiting := by rw [List.append_nil]
  have hreceived := received_turn hturns
  have fresh : ∀ c : Charge α, Turn.charge ⟨event, sent, told⟩ = some c →
      ∀ c' ∈ s.received, c'.requestId ≠ c.requestId := by
    intro c hc c' hc' heq
    rw [hreceived, hc, List.map_append] at hfresh
    exact List.disjoint_of_nodup_append hfresh (List.mem_map.mpr ⟨c', hc', rfl⟩)
      (List.mem_singleton.mpr heq)
  cases hdoes with
  | @forwards c target active htarget =>
    have ht : Takes s ⟨_, stopped', turns'⟩ _ c :=
      ⟨hturns, rfl, fresh c rfl, fun r hr => filter_forward_other target s.client.bindAddr hr,
        fun r hr => rfl, rfl, rfl⟩
    have hlocal : Session.localResults ⟨_, stopped', turns'⟩ c.requestId = [] :=
      ht.localResults_self hb
    have hanswered := ht.answered_of_silent hlocal
    refine ⟨⟨fun c' hc' => ?_, waiting, gone, ?_, ?_, hqueue, ?_⟩, ht.stranger hb⟩
    · rw [ht.received_eq] at hc'
      rcases List.mem_append.mp hc' with hold | hnew
      · exact ht.fate hold (hb.accounted.fate c' hold)
      · rw [List.mem_singleton.mp hnew]
        refine .inl ⟨⟨target, htarget, ?_⟩, hlocal⟩
        rw [ht.forwards_self hb]
        exact filter_forward_self target s.client.bindAddr c
    · rwa [hanswered]
    · rw [ht.received_eq]
      exact hsub.trans (List.sublist_append_left _ _)
    · rw [replays_turn hturns, hreplays]
      exact List.append_nil _
  | answers c texts =>
    have ht : Takes s ⟨_, stopped', turns'⟩ _ c :=
      ⟨hturns, rfl, fresh c rfl, fun r hr => rfl, fun r hr => filter_result_other texts hr, rfl,
        rfl⟩
    have hlocal : Session.localResults ⟨_, stopped', turns'⟩ c.requestId =
        [.chargeResult c.requestId true none] :=
      (ht.localResults_self hb).trans (filter_result_self texts c.requestId)
    have hanswered := ht.answered_of_result (by rw [hlocal]; exact List.cons_ne_nil _ _)
    refine ⟨⟨fun c' hc' => ?_, waiting ++ [c], gone, ?_, ?_, ?_, ?_⟩, ht.stranger hb⟩
    · rw [ht.received_eq] at hc'
      rcases List.mem_append.mp hc' with hold | hnew
      · exact ht.fate hold (hb.accounted.fate c' hold)
      · rw [List.mem_singleton.mp hnew]
        exact .inr ⟨ht.forwards_self hb, hlocal⟩
    · rw [hanswered, List.append_assoc]
      have hcomm : (waiting ++ ([c] ++ gone)).Perm (waiting ++ gone ++ [c]) := by
        rw [List.append_assoc]
        exact List.perm_append_comm.append_left waiting
      exact hcomm.trans (hperm.append_right [c])
    · rw [ht.received_eq]
      exact hsub.append_right [c]
    · show s.client.offlineQueue ++ [c.queued] = _
      rw [hqueue, List.map_append]
      rfl
    · rw [replays_turn hturns, hreplays]
      exact List.append_nil _
  | @flushes kept gone' nextId text sent hkept hsplit hgone =>
    exact Quiet.books ⟨hturns, rfl, fun r => filter_replays hgone r, fun r => rfl, rfl, rfl⟩ hb
      hperm hsub hreplays hkept hsplit rfl (filterMap_replays hgone)
  | disconnects =>
    exact Quiet.books ⟨hturns, rfl, fun r => rfl, fun r => rfl, rfl, rfl⟩ hb hperm hsub hreplays
      (.refl _) hall hqueue rfl
  | hears active hroles =>
    exact Quiet.books ⟨hturns, rfl, fun r => filter_roles hroles r, fun r => rfl, rfl, rfl⟩ hb
      hperm hsub hreplays (.refl _) hall hqueue (filterMap_roles hroles)

theorem step_turns [AddrHash] [DebugFmt α] {label : Event α × List (Option AppError)}
    (h : step s label = some s') : ∃ turn, s'.turns = s.turns ++ [turn] := by
  unfold step at h
  split at h
  · cases h
  · split at h
    all_goals
      cases h
      exact ⟨_, rfl⟩

/-- Every run of a client keeps the books, if the charges have ids of their own. -/
theorem run_books [AddrHash] [DebugFmt α] {labels : List (Event α × List (Option AppError))}
    (hr : run step s labels = some s') (hb : s.Books) :
    (s'.received.map Charge.requestId).Nodup → s'.Books := by
  refine run_induct (P := fun s => (s.received.map Charge.requestId).Nodup → s.Books) ?_ hr
    fun _ => hb
  intro s label s' ih hstep hfresh
  obtain ⟨turn, hturns⟩ := step_turns hstep
  have hbefore : (s.received.map Charge.requestId).Nodup := by
    rw [received_turn hturns, List.map_append] at hfresh
    exact (List.nodup_append.mp hfresh).1
  exact step_books (ih hbefore) hstep hfresh

end Session

/-- **A client neither loses nor doubles a charge.** In every state of every run, each
    charge received was forwarded once or answered once by the client itself, and the ones
    it answered wait in the queue, in arrival order, or were replayed once. -/
theorem charges_accounted [AddrHash] [DebugFmt α] (bindAddr : SocketAddr)
    (knownNodes : List SocketAddr) (labels : List (Event α × List (Option AppError)))
    (s : Session α) (hr : run Session.step (Session.start bindAddr knownNodes) labels = some s)
    (hfresh : (s.received.map Charge.requestId).Nodup) : s.Accounted :=
  (Session.run_books hr (Session.start_books bindAddr knownNodes) hfresh).accounted

section Example

local instance clientHash : AddrHash := localHash

local instance clientFmt : DebugFmt Amount := ⟨fun _ => ""⟩

/-- One charge is forwarded to the second node, one is taken offline, and replayed once
    the client connects. -/
def forwardThenReplay : List (Event Amount × List (Option AppError)) :=
  [(.stationMsg (.chargeRequest 1 2 10 7), [some .connectionLost]),
    (.stationMsg .disconnectNode, []),
    (.stationMsg (.chargeRequest 1 3 20 8), []),
    (.stationMsg .connectNode, [])]

theorem charges_accounted_example :
    ∃ s, run Session.step (Session.start (localAddr 5002) [localAddr 5000, localAddr 5001])
        forwardThenReplay = some s ∧ s.received.length = 2 ∧ s.replays.length = 1 ∧
      s.Accounted := by
  have hrun : (run Session.step (Session.start (localAddr 5002) [localAddr 5000, localAddr 5001])
      forwardThenReplay).any (fun s => s.received.length == 2 && s.replays.length == 1 &&
        decide (s.received.map Charge.requestId).Nodup) = true := by decide +kernel
  obtain ⟨s, hs, hprops⟩ := (Option.any_eq_true _ _).mp hrun
  obtain ⟨hlens, hnodup⟩ := Bool.and_eq_true_iff.mp hprops
  obtain ⟨hreceived, hreplays⟩ := Bool.and_eq_true_iff.mp hlens
  exact ⟨s, hs, beq_iff_eq.mp hreceived, beq_iff_eq.mp hreplays,
    charges_accounted _ _ _ s hs (of_decide_eq_true hnodup)⟩

end Example

end YpfRuta.Client
