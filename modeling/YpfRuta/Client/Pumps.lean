/-
  A station and the client node behind it: the simulator, the client's task and the two
  channels between them (`common/src/station.rs`, `client/src/node_client/node_client.rs`).

  A send on a channel never waits for room. A run ends where the simulator stops: what the
  client does with the messages that are left in its channel then is left out.
-/
import YpfRuta.Client.Charges
import YpfRuta.Station.Bookkeeping

namespace YpfRuta.Client

open Server Lib
open Station (FromStr PumpRequest chargeId)

variable {α : Type}

/-! ## One turn of the client -/

/-- What the station is told of a response. -/
def resultOf [DebugFmt α] (r : ReqId) : OperationResult α → NodeToStationMsg
  | .charge .ok => .chargeResult r true none
  | .charge (.failed e) => .chargeResult r false (some e)
  | other =>
    .debug s!"[node_client] ignoring non-charge response for req_id {r}: {DebugFmt.operationResult other}"

/-- The request that replays a charge. -/
def replayOf (q : QueuedCharge α) (reqId : ReqId) (bindAddr : SocketAddr) : Message α :=
  .request reqId (.charge q.accountId q.cardId q.amount true) bindAddr

/-- What a turn does to the requests the client waits for and the charges it queues, what it
    sends and what it tells the station. -/
inductive Serves [DebugFmt α] (self : NodeClient α) : Event α → NodeClient α →
    List (SocketAddr × Message α) → List NodeToStationMsg → Prop where
  | forwards (c : Charge α) (target : SocketAddr) :
      Serves self (.stationMsg (.chargeRequest c.accountId c.cardId c.amount c.requestId))
        { self with activeOnlineRequests := self.activeOnlineRequests.insert c.requestId }
        [(target, .request c.requestId (c.operation false) self.bindAddr)] []
  | answers (c : Charge α) (texts : List String) :
      Serves self (.stationMsg (.chargeRequest c.accountId c.cardId c.amount c.requestId))
        { self with offlineQueue := self.offlineQueue ++ [c.queued] } []
        (texts.map .debug ++ [.chargeResult c.requestId true none])
  | switches {msg : StationToNodeMsg α} {self' : NodeClient α}
      {sent : List (SocketAddr × Message α)} (text : String) (hmsg : chargeId msg = none)
      (hactive : self'.activeOnlineRequests = self.activeOnlineRequests)
      (hbind : self'.bindAddr = self.bindAddr)
      (hqueue : ∀ q ∈ self'.offlineQueue, q ∈ self.offlineQueue)
      (hsent : ∀ p ∈ sent, ∃ q ∈ self.offlineQueue, ∃ reqId, p.2 = replayOf q reqId self.bindAddr)
      (hkept : ∀ q ∈ self.offlineQueue, q ∈ self'.offlineQueue ∨
        ∃ target reqId, (target, replayOf q reqId self.bindAddr) ∈ sent) :
      Serves self (.stationMsg msg) self' sent [.debug text]
  | responds (r : ReqId) (result : OperationResult α) (hactive : r ∈ self.activeOnlineRequests) :
      Serves self (.nodeMsg (.ok (.response r result)))
        { self with activeOnlineRequests := self.activeOnlineRequests.erase r } []
        [resultOf r result]
  | ignores {msg : Except AppError (Message α)} (sent : List (SocketAddr × Message α))
      (hsent : ∀ p ∈ sent, ∃ id role, p.2 = .roleResponse id role) :
      Serves self (.nodeMsg msg) self sent []

namespace NodeClient

variable [DebugFmt α]

theorem chargeRequest_serves (self : NodeClient α) (outcomes : List (Option AppError))
    (c : Charge α) :
    ∃ t', forwardOrEnqueueCharge c.accountId c.cardId c.amount c.requestId
        (task self outcomes) = .ok () t' ∧
      Serves self (.stationMsg (.chargeRequest c.accountId c.cardId c.amount c.requestId)) t'.self
        t'.sent t'.told := by
  unfold forwardOrEnqueueCharge
  rw [bind_ok (show getSelf (task self outcomes) = .ok self (task self outcomes) from rfl)]
  by_cases hnodes : self.knownNodes.isEmpty
  · rw [if_pos hnodes]
    exact ⟨_, rfl, .answers c [_]⟩
  · rw [if_neg hnodes]
    by_cases honline : (!self.online) = true
    · rw [if_pos honline]
      exact ⟨_, rfl, .answers c []⟩
    · rw [if_neg honline]
      unfold forwardOnlineCharge
      rw [bind_ok (show getSelf (task self outcomes) = .ok self (task self outcomes) from rfl)]
      obtain ⟨sent, t₁, htry, hself, htold, h⟩ := sendToFirst_cases
        (.request c.requestId (c.operation false) self.bindAddr) self.knownNodes
        (task self outcomes)
      rw [bind_ok (show sendToFirst (.request c.requestId
        (.charge c.accountId c.cardId c.amount false) self.bindAddr) self.knownNodes
        (task self outcomes) = .ok sent t₁ from htry)]
      obtain ⟨rfl, target, -, hs⟩ | ⟨rfl, hs⟩ := h
      · refine ⟨_, rfl, ?_⟩
        show Serves self _ { t₁.self with
          activeOnlineRequests := t₁.self.activeOnlineRequests.insert c.requestId } t₁.sent t₁.told
        rw [hself, htold, hs]
        exact .forwards c target
      · refine ⟨_, rfl, ?_⟩
        show Serves self _ { t₁.self with
          offlineQueue := t₁.self.offlineQueue ++ [c.queued] } t₁.sent (t₁.told ++ _)
        rw [hself, htold, hs]
        exact .answers c []

omit [DebugFmt α] in
/-- What a flush replays are charges that waited, and the others still wait. -/
theorem replays_queued {bindAddr : SocketAddr} {sent : List (SocketAddr × Message α)}
    {waiting kept gone : List (Charge α)} (hgone : Replays bindAddr sent gone)
    (hperm : (kept ++ gone).Perm waiting) :
    (∀ p ∈ sent, ∃ q ∈ waiting.map Charge.queued, ∃ reqId, p.2 = replayOf q reqId bindAddr) ∧
    ∀ q ∈ waiting.map Charge.queued, q ∈ kept.map Charge.queued ∨
      ∃ target reqId, (target, replayOf q reqId bindAddr) ∈ sent := by
  constructor
  · intro p hp
    obtain ⟨i, hi, rfl⟩ := List.mem_iff_getElem.mp hp
    have hi' : i < gone.length := hgone.length_eq ▸ hi
    obtain ⟨target, reqId, hsend⟩ := hgone.get hi hi'
    refine ⟨gone[i].queued, List.mem_map_of_mem ?_, reqId, congrArg Prod.snd hsend⟩
    exact hperm.subset (List.mem_append_right _ (List.getElem_mem hi'))
  · intro q hq
    obtain ⟨c, hc, rfl⟩ := List.mem_map.mp hq
    rcases List.mem_append.mp (hperm.mem_iff.mpr hc) with hkept | hc
    · exact .inl (List.mem_map_of_mem hkept)
    · obtain ⟨i, hi, rfl⟩ := List.mem_iff_getElem.mp hc
      have hi' : i < sent.length := hgone.length_eq.symm ▸ hi
      obtain ⟨target, reqId, hsend⟩ := hgone.get hi' hi
      exact .inr ⟨target, reqId, hsend ▸ List.getElem_mem hi'⟩

theorem handleResponseFromNode_ok (r : ReqId) (result : OperationResult α)
    (t : Task α (NodeClient α)) :
    handleResponseFromNode r result t = .ok () { t with told := t.told ++ [resultOf r result] } := by
  match result with
  | .charge .ok => rfl
  | .charge (.failed e) => rfl
  | .limitAccount r => rfl
  | .limitCard r => rfl
  | .accountQuery r => rfl
  | .databaseSnapshot s => rfl
  | .replaceDatabase => rfl

theorem handleNodeMsg_serves [AddrHash] (self : NodeClient α) (outcomes : List (Option AppError))
    (msg : Message α) :
    ∃ t', (handleNodeMsg msg (task self outcomes) = .ok () t' ∨
        ∃ e, handleNodeMsg msg (task self outcomes) = .error e t') ∧
      Serves self (.nodeMsg (.ok msg)) t'.self t'.sent t'.told := by
  have hnone : ∀ p ∈ ([] : List (SocketAddr × Message α)), ∃ id role, p.2 = .roleResponse id role :=
    fun _ hp => absurd hp List.not_mem_nil
  unfold handleNodeMsg
  rw [bind_ok (show getSelf (task self outcomes) = .ok self (task self outcomes) from rfl)]
  cases msg with
  | response r result =>
    by_cases hactive : r ∈ self.activeOnlineRequests
    · let removed : Task α (NodeClient α) := { task self outcomes with
        self := { self with activeOnlineRequests := self.activeOnlineRequests.erase r } }
      refine ⟨{ removed with told := [resultOf r result] }, .inl ?_, .responds r result hactive⟩
      simp only [if_pos hactive]
      rw [bind_ok (show modifySelf _ (task self outcomes) = .ok () removed from rfl),
        handleResponseFromNode_ok]
      rfl
    · refine ⟨task self outcomes, .inl ?_, .ignores [] hnone⟩
      simp only [if_neg hactive]
      rfl
  | roleQuery addr =>
    simp only
    unfold send
    rw [bind_ok (show (get : Handler α (NodeClient α) _) (task self outcomes) =
      .ok (task self outcomes) (task self outcomes) from rfl), if_pos rfl]
    have hrole : ∀ p ∈ [(addr, (.roleResponse (getIdGivenAddr self.bindAddr) .station : Message α))],
        ∃ id role, p.2 = .roleResponse id role := by
      intro p hp
      rw [List.mem_singleton.mp hp]
      exact ⟨_, _, rfl⟩
    match outcomes with
    | some e :: rest => exact ⟨_, .inr ⟨_, rfl⟩, .ignores [] hnone⟩
    | none :: rest => exact ⟨_, .inl rfl, .ignores _ hrole⟩
    | [] => exact ⟨_, .inl rfl, .ignores _ hrole⟩
  | _ => exact ⟨task self outcomes, .inl rfl, .ignores [] hnone⟩

/-- **One turn of the client.** -/
theorem turn_serves [AddrHash] (self : NodeClient α) (event : Event α)
    (outcomes : List (Option AppError)) :
    ∃ t', (turn event (task self outcomes) = .ok () t' ∨
        ∃ e, turn event (task self outcomes) = .error e t') ∧
      Serves self event t'.self t'.sent t'.told := by
  match event with
  | .stationMsg (.chargeRequest accountId cardId amount requestId) =>
    obtain ⟨t', ht, hserves⟩ := chargeRequest_serves self outcomes
      ⟨accountId, cardId, amount, requestId⟩
    exact ⟨t', .inl ht, hserves⟩
  | .stationMsg .disconnectNode =>
    exact ⟨_, .inl rfl, .switches _ rfl rfl rfl (fun _ hq => hq)
      (fun _ hp => absurd hp List.not_mem_nil) fun _ hq => .inl hq⟩
  | .stationMsg .connectNode =>
    let waiting : List (Charge α) := self.offlineQueue.map fun q =>
      ⟨q.accountId, q.cardId, q.amount, 0⟩
    have hwaiting : self.offlineQueue = waiting.map Charge.queued := by
      rw [List.map_map]
      exact (List.map_id _).symm
    obtain ⟨t', ht, hdoes⟩ := flushOfflineQueue_does hwaiting
      { task self outcomes with
        self := { self with online := true }
        told := [.debug "[node_client] switched to ONLINE mode; replaying queued offline charges (if any)."] }
      rfl rfl rfl
    refine ⟨t', .inl ht, ?_⟩
    generalize t'.self = self' at hdoes ⊢
    generalize t'.told = told at hdoes ⊢
    cases hdoes with
    | flushes hkept hperm hgone =>
      have hreplays := replays_queued hgone hperm
      rw [← hwaiting] at hreplays
      refine .switches _ rfl rfl rfl (fun q hq => ?_) hreplays.1 hreplays.2
      rw [hwaiting]
      exact (hkept.map Charge.queued).subset hq
  | .nodeMsg (.ok msg) => exact handleNodeMsg_serves self outcomes msg
  | .nodeMsg (.error e) =>
    exact ⟨task self outcomes, .inl rfl, .ignores [] fun _ hp => absurd hp List.not_mem_nil⟩

end NodeClient

theorem Session.step_serves [AddrHash] [DebugFmt α] {s s' : Session α}
    {label : Event α × List (Option AppError)} (h : s.step label = some s') :
    ∃ turn, s'.turns = s.turns ++ [turn] ∧ turn.event = label.1 ∧
      Serves s.client label.1 s'.client turn.sent turn.told := by
  unfold Session.step at h
  split at h
  · cases h
  · obtain ⟨t', ht | ⟨e, ht⟩, hserves⟩ := NodeClient.turn_serves s.client label.1 label.2
    all_goals
      rw [ht] at h
      cases h
      exact ⟨⟨label.1, t'.sent, t'.told⟩, rfl, rfl, hserves⟩

/-! ## The station and its client -/

/-- What the station was told, and what it took of it, is counted: the rest of it is in the
    channel. So is what it sent. -/
structure StationNode (α : Type) (numPumps : Nat) where
  station : Station.Loop α numPumps
  session : Session α
  taken : Nat
  heard : Nat

/-- The id of a charge's result. -/
def resultId : NodeToStationMsg → Option ReqId
  | .chargeResult r _ _ => some r
  | .debug _ => none

namespace StationNode

inductive Label (α : Type) where
  /-- The operator types a line, and the ids drawn for it are `draws`. -/
  | line (text : String) (draws : List ReqId)
  | readError
  | eof
  /-- The simulator takes the next message of the client. -/
  | hear
  /-- The client takes the next message of the simulator. -/
  | take (outcomes : List (Option AppError))
  /-- The client receives from the network. -/
  | receive (msg : Except AppError (Message α)) (outcomes : List (Option AppError))

variable {numPumps : Nat}

def start (numPumps : Nat) (bindAddr : SocketAddr) (knownNodes : List SocketAddr) :
    StationNode α numPumps where
  station := .start numPumps
  session := .start bindAddr knownNodes
  taken := 0
  heard := 0

/-- The channel to the client. -/
def toClient (s : StationNode α numPumps) : List (StationToNodeMsg α) :=
  s.station.toNode.drop s.taken

/-- The channel to the station. -/
def toStation (s : StationNode α numPumps) : List NodeToStationMsg :=
  (s.session.turns.flatMap Turn.told).drop s.heard

/-- A step of the simulator. Its sends go through as long as the client runs. -/
def onStation [FromStr α] (s : StationNode α numPumps) (event : Station.Event) :
    Option (StationNode α numPumps) :=
  if s.session.stopped then none
  else (s.station.step event).map fun station => { s with station := station }

/-- A turn of the client. -/
def onClient [AddrHash] [DebugFmt α] (s : StationNode α numPumps) (event : Event α)
    (outcomes : List (Option AppError)) : Option (StationNode α numPumps) :=
  if s.station.running then
    (s.session.step (event, outcomes)).map fun session => { s with session := session }
  else none

def step [AddrHash] [DebugFmt α] [FromStr α] (s : StationNode α numPumps) :
    Label α → Option (StationNode α numPumps)
  | .line text draws => s.onStation (.line text draws true)
  | .readError => s.onStation .readError
  | .eof => s.onStation .eof
  | .hear =>
    match s.toStation with
    | msg :: _ => { s with heard := s.heard + 1 }.onStation (.nodeMsg msg)
    | [] => none
  | .take outcomes =>
    match s.toClient with
    | msg :: _ => { s with taken := s.taken + 1 }.onClient (.stationMsg msg) outcomes
    | [] => none
  | .receive msg outcomes => s.onClient (.nodeMsg msg) outcomes

/-- Every response is that of a charge. -/
def Label.Charges : Label α → Prop
  | .receive (.ok (.response _ result)) _ => ∃ verdict, result = .charge verdict
  | _ => True

/-! ## Where a pump's request is -/

/-- The charges on their way to the client. -/
def asked (s : StationNode α numPumps) : List ReqId := s.toClient.filterMap chargeId

/-- The results on their way to the pumps. -/
def results (s : StationNode α numPumps) : List ReqId := s.toStation.filterMap resultId

/-- **One place for each request.** The tables of the simulator agree, and a pump's request
    is on its way to the client, or the client waits for its response, or its result is on
    its way back: in one of these places, once, and nothing else is in them. A request the
    client waits for was forwarded with the pump's own data, and a pump is only turned down
    when a response was. -/
structure Served (s : StationNode α numPumps) : Prop where
  tables : s.station.simulator.Consistent
  places : (s.asked ++ s.session.client.activeOnlineRequests ++ s.results).Perm
    s.station.simulator.requests.keys
  forwarded : ∀ r ∈ s.session.client.activeOnlineRequests, ∃ req target,
    s.station.simulator.requests.lookup r = some req ∧
    (target, .request r (.charge req.accountId req.cardId req.amount false)
      s.session.client.bindAddr) ∈ s.session.sent
  refused : ∀ r error, .chargeResult r false error ∈ s.session.turns.flatMap Turn.told →
    ∃ e turn, error = some e ∧ turn ∈ s.session.turns ∧
      turn.event = .nodeMsg (.ok (.response r (.charge (.failed e))))

/-- What every run keeps. -/
structure Inv (s : StationNode α numPumps) : Prop where
  tables : s.station.simulator.Inv
  places : (s.asked ++ s.session.client.activeOnlineRequests ++ s.results).Perm
    s.station.simulator.requests.keys
  charges : ∀ accountId cardId amount r, .chargeRequest accountId cardId amount r ∈ s.toClient →
    ∃ req, s.station.simulator.requests.lookup r = some req ∧ req.accountId = accountId ∧
      req.cardId = cardId ∧ req.amount = amount
  forwarded : ∀ r ∈ s.session.client.activeOnlineRequests, ∃ req target,
    s.station.simulator.requests.lookup r = some req ∧
    (target, .request r (.charge req.accountId req.cardId req.amount false)
      s.session.client.bindAddr) ∈ s.session.sent
  refused : ∀ r error, .chargeResult r false error ∈ s.session.turns.flatMap Turn.told →
    ∃ e turn, error = some e ∧ turn ∈ s.session.turns ∧
      turn.event = .nodeMsg (.ok (.response r (.charge (.failed e))))
  taken : s.taken ≤ s.station.toNode.length
  heard : s.heard ≤ (s.session.turns.flatMap Turn.told).length

theorem Inv.served {s : StationNode α numPumps} (h : s.Inv) : s.Served where
  tables := h.tables.consistent
  places := h.places
  forwarded := h.forwarded
  refused := h.refused

theorem inv_start (bindAddr : SocketAddr) (knownNodes : List SocketAddr) :
    (start numPumps bindAddr knownNodes : StationNode α numPumps).Inv where
  tables := Station.Simulator.inv_start
  places := .nil
  charges _ _ _ _ hmem := by cases hmem
  forwarded r hr := by cases hr
  refused r error hmem := by cases hmem
  taken := Nat.le_refl 0
  heard := Nat.le_refl 0

/-! ## The steps -/

/-- What a step can do. -/
inductive Does [DebugFmt α] [FromStr α] (s : StationNode α numPumps) :
    Label α → StationNode α numPumps → Prop where
  /-- A line makes a request of an idle pump. -/
  | issues (text : String) (draws : List ReqId) (parsed : Station.ParsedCommand α numPumps)
      (r : ReqId) {station : Station.Loop α numPumps}
      (hparse : Station.parseCommand (Station.trim text) numPumps = .ok parsed)
      (hidle : s.station.simulator.inFlightByPump.get parsed.pumpId = none)
      (hdrawn : r ∈ draws) (hzero : r ≠ 0) (hfresh : r ∉ s.station.simulator.requests)
      (hsim : station.simulator = s.station.simulator.assign parsed r)
      (hsent : station.toNode = s.station.toNode ++
        [.chargeRequest parsed.accountId parsed.cardId parsed.amount r]) :
      Does s (.line text draws) { s with station := station }
  /-- The simulator makes no request. -/
  | idles {l : Label α} {station : Station.Loop α numPumps} (msgs : List (StationToNodeMsg α))
      (hsim : station.simulator = s.station.simulator)
      (hsent : station.toNode = s.station.toNode ++ msgs) (hnone : msgs.filterMap chargeId = []) :
      Does s l { s with station := station }
  | hears {msg : NodeToStationMsg} {rest : List NodeToStationMsg}
      (hnext : s.toStation = msg :: rest) :
      Does s .hear { s with
        heard := s.heard + 1
        station := { s.station with simulator := s.station.simulator.handleNodeEvent msg } }
  | takes (outcomes : List (Option AppError)) {msg : StationToNodeMsg α}
      {rest : List (StationToNodeMsg α)} {session : Session α} {turn : Turn α}
      (hnext : s.toClient = msg :: rest) (hturns : session.turns = s.session.turns ++ [turn])
      (hevent : turn.event = .stationMsg msg)
      (hserves : Serves s.session.client (.stationMsg msg) session.client turn.sent turn.told) :
      Does s (.take outcomes) { s with taken := s.taken + 1, session := session }
  | receives (outcomes : List (Option AppError)) {msg : Except AppError (Message α)}
      {session : Session α} {turn : Turn α} (hturns : session.turns = s.session.turns ++ [turn])
      (hevent : turn.event = .nodeMsg msg)
      (hserves : Serves s.session.client (.nodeMsg msg) session.client turn.sent turn.told) :
      Does s (.receive msg outcomes) { s with session := session }

section Does

variable [DebugFmt α] [FromStr α] {s s' : StationNode α numPumps} {l : Label α}

omit [DebugFmt α] in
theorem onStation_step {event : Station.Event} (hs : s.onStation event = some s') :
    ∃ station, s.station.step event = some station ∧ s' = { s with station := station } := by
  unfold onStation at hs
  split at hs
  · cases hs
  · obtain ⟨station, hstation, rfl⟩ := Option.map_eq_some_iff.mp hs
    exact ⟨station, hstation, rfl⟩

theorem step_does [AddrHash] (hs : s.step l = some s') : s.Does l s' := by
  cases l with
  | line text draws =>
    obtain ⟨station, hstation, rfl⟩ := onStation_step hs
    obtain ⟨-, hstation⟩ := Option.ite_none_right_eq_some.mp hstation
    rcases Station.Loop.handleLine_cases hstation with
      ⟨parsed, r, hparse, hidle, hdrawn, hzero, hfresh, -, hsim, hsent⟩ | ⟨hsim, msgs, hsent, hnone⟩
    · exact .issues text draws parsed r hparse hidle hdrawn hzero hfresh hsim hsent
    · exact .idles msgs hsim hsent hnone
  | readError | eof =>
    obtain ⟨station, hstation, rfl⟩ := onStation_step hs
    obtain ⟨-, hstation⟩ := Option.ite_none_right_eq_some.mp hstation
    obtain rfl := Option.some.inj hstation
    exact .idles [] rfl (List.append_nil _).symm rfl
  | hear =>
    cases hnext : s.toStation with
    | nil =>
      simp only [StationNode.step, hnext] at hs
      cases hs
    | cons msg rest =>
      simp only [StationNode.step, hnext] at hs
      obtain ⟨station, hstation, rfl⟩ := onStation_step hs
      obtain ⟨-, hstation⟩ := Option.ite_none_right_eq_some.mp hstation
      obtain rfl := Option.some.inj hstation
      exact .hears hnext
  | take outcomes =>
    cases hnext : s.toClient with
    | nil =>
      simp only [StationNode.step, hnext] at hs
      cases hs
    | cons msg rest =>
      simp only [StationNode.step, hnext] at hs
      obtain ⟨-, hs⟩ := Option.ite_none_right_eq_some.mp hs
      obtain ⟨session, hsession, rfl⟩ := Option.map_eq_some_iff.mp hs
      obtain ⟨turn, hturns, hevent, hserves⟩ := Session.step_serves hsession
      exact .takes outcomes hnext hturns hevent hserves
  | receive msg outcomes =>
    obtain ⟨-, hs⟩ := Option.ite_none_right_eq_some.mp hs
    obtain ⟨session, hsession, rfl⟩ := Option.map_eq_some_iff.mp hs
    obtain ⟨turn, hturns, hevent, hserves⟩ := Session.step_serves hsession
    exact .receives outcomes hturns hevent hserves

end Does

section Steps

variable {s s' : StationNode α numPumps} {r : ReqId}

/-- A request that is somewhere is in the simulator's map. -/
theorem Inv.mem (h : s.Inv)
    (hr : r ∈ s.asked ++ s.session.client.activeOnlineRequests ++ s.results) :
    r ∈ s.station.simulator.requests :=
  AList.mem_keys.mpr (h.places.mem_iff.mp hr)

theorem Inv.nodup (h : s.Inv) :
    (s.asked ++ s.session.client.activeOnlineRequests ++ s.results).Nodup :=
  h.places.nodup_iff.mpr s.station.simulator.requests.keys_nodup

theorem asked_of_mem {accountId : AccountId} {cardId : CardId} {amount : α}
    (h : .chargeRequest accountId cardId amount r ∈ s.toClient) : r ∈ s.asked :=
  List.mem_filterMap.mpr ⟨_, h, rfl⟩

/-- A new request is on its way to the client. -/
theorem Inv.issue (h : s.Inv) {parsed : Station.ParsedCommand α numPumps}
    {station : Station.Loop α numPumps}
    (hidle : s.station.simulator.inFlightByPump.get parsed.pumpId = none) (hzero : r ≠ 0)
    (hfresh : r ∉ s.station.simulator.requests)
    (hsim : station.simulator = s.station.simulator.assign parsed r)
    (hsent : station.toNode = s.station.toNode ++
      [.chargeRequest parsed.accountId parsed.cardId parsed.amount r]) :
    ({ s with station := station } : StationNode α numPumps).Inv := by
  have hchannel : station.toNode.drop s.taken =
      s.toClient ++ [.chargeRequest parsed.accountId parsed.cardId parsed.amount r] := by
    rw [hsent, List.drop_append_of_le_length h.taken]
    rfl
  have hasked : (station.toNode.drop s.taken).filterMap chargeId = s.asked ++ [r] := by
    rw [hchannel, List.filterMap_append]
    rfl
  have hold : ∀ k, k ∈ s.station.simulator.requests →
      station.simulator.requests.lookup k = s.station.simulator.requests.lookup k := by
    intro k hk
    rw [hsim]
    exact AList.lookup_insert_ne fun hkr => hfresh (hkr ▸ hk)
  have hkeys : station.simulator.requests.keys = r :: s.station.simulator.requests.keys := by
    rw [hsim]
    show (s.station.simulator.requests.insert r _).keys = _
    rw [AList.keys_insert, List.erase_of_not_mem (fun hk => hfresh (AList.mem_keys.mpr hk))]
  refine ⟨?_, ?_, fun accountId cardId amount k hk => ?_, fun k hk => ?_, h.refused, ?_, h.heard⟩
  · show station.simulator.Inv
    rw [hsim]
    exact h.tables.assign hidle hzero hfresh
  · show ((station.toNode.drop s.taken).filterMap chargeId ++ _ ++ s.results).Perm
      station.simulator.requests.keys
    rw [hasked, hkeys, List.append_assoc, List.append_assoc, List.singleton_append]
    refine List.perm_middle.trans (.cons r ?_)
    rw [← List.append_assoc]
    exact h.places
  · have hk : .chargeRequest accountId cardId amount k ∈ station.toNode.drop s.taken := hk
    rw [hchannel] at hk
    show ∃ req, station.simulator.requests.lookup k = some req ∧ _
    rcases List.mem_append.mp hk with hk | hk
    · obtain ⟨req, hreq, hdata⟩ := h.charges _ _ _ _ hk
      refine ⟨req, ?_, hdata⟩
      rw [hold k (h.mem (List.mem_append_left _ (List.mem_append_left _ (asked_of_mem hk))))]
      exact hreq
    · cases List.mem_singleton.mp hk
      refine ⟨parsed.request r, ?_, rfl, rfl, rfl⟩
      rw [hsim]
      exact AList.lookup_insert _
  · obtain ⟨req, target, hreq, hmem⟩ := h.forwarded k hk
    refine ⟨req, target, ?_, hmem⟩
    show station.simulator.requests.lookup k = some req
    rw [hold k (h.mem (List.mem_append_left _ (List.mem_append_right _ hk)))]
    exact hreq
  · show s.taken ≤ station.toNode.length
    rw [hsent, List.length_append]
    exact h.taken.trans (Nat.le_add_right _ _)

/-- What is sent to the client is no charge. -/
theorem Inv.unasked (h : s.Inv) {station : Station.Loop α numPumps}
    {msgs : List (StationToNodeMsg α)} (hsim : station.simulator = s.station.simulator)
    (hsent : station.toNode = s.station.toNode ++ msgs) (hnone : msgs.filterMap chargeId = []) :
    ({ s with station := station } : StationNode α numPumps).Inv := by
  have hchannel : station.toNode.drop s.taken = s.toClient ++ msgs := by
    rw [hsent, List.drop_append_of_le_length h.taken]
    rfl
  have hasked : (station.toNode.drop s.taken).filterMap chargeId = s.asked := by
    rw [hchannel, List.filterMap_append, hnone, List.append_nil]
    rfl
  refine ⟨?_, ?_, fun accountId cardId amount k hk => ?_, fun k hk => ?_, h.refused, ?_, h.heard⟩
  · show station.simulator.Inv
    rw [hsim]
    exact h.tables
  · show ((station.toNode.drop s.taken).filterMap chargeId ++ _ ++ s.results).Perm
      station.simulator.requests.keys
    rw [hasked, hsim]
    exact h.places
  · have hk : .chargeRequest accountId cardId amount k ∈ station.toNode.drop s.taken := hk
    rw [hchannel] at hk
    show ∃ req, station.simulator.requests.lookup k = some req ∧ _
    rw [hsim]
    rcases List.mem_append.mp hk with hk | hk
    · exact h.charges _ _ _ _ hk
    · have hmem : k ∈ msgs.filterMap chargeId := List.mem_filterMap.mpr ⟨_, hk, rfl⟩
      rw [hnone] at hmem
      cases hmem
  · show ∃ req target, station.simulator.requests.lookup k = some req ∧ _
    rw [hsim]
    exact h.forwarded k hk
  · show s.taken ≤ station.toNode.length
    rw [hsent, List.length_append]
    exact h.taken.trans (Nat.le_add_right _ _)

theorem drop_next {β : Type} {xs rest : List β} {x : β} {n : Nat} (h : xs.drop n = x :: rest) :
    xs.drop (n + 1) = rest ∧ n + 1 ≤ xs.length := by
  refine ⟨by rw [← List.tail_drop, h, List.tail_cons], ?_⟩
  have hlen := congrArg List.length h
  rw [List.length_drop, List.length_cons] at hlen
  omega

/-- The simulator takes a message: a result frees its pump. -/
theorem Inv.hear (h : s.Inv) {msg : NodeToStationMsg} {rest : List NodeToStationMsg}
    (hnext : s.toStation = msg :: rest) :
    ({ s with
      heard := s.heard + 1
      station := { s.station with simulator := s.station.simulator.handleNodeEvent msg } } :
      StationNode α numPumps).Inv := by
  obtain ⟨hrest, hlen⟩ := drop_next hnext
  cases msg with
  | debug text =>
    have hresults : rest.filterMap resultId = s.results := by
      unfold results
      rw [hnext]
      rfl
    refine ⟨h.tables, ?_, h.charges, h.forwarded, h.refused, h.taken, hlen⟩
    show (s.asked ++ _ ++ ((s.session.turns.flatMap Turn.told).drop (s.heard + 1)).filterMap
      resultId).Perm _
    rw [hrest, hresults]
    exact h.places
  | chargeResult r allowed error =>
    have hresults : s.results = r :: rest.filterMap resultId := by
      unfold results
      rw [hnext]
      rfl
    have hplaces := h.places
    rw [hresults] at hplaces
    have hplaces : (r :: (s.asked ++ s.session.client.activeOnlineRequests ++
        rest.filterMap resultId)).Perm s.station.simulator.requests.keys :=
      List.perm_middle.symm.trans hplaces
    have hmem : r ∈ s.station.simulator.requests :=
      AList.mem_keys.mpr (hplaces.mem_iff.mp List.mem_cons_self)
    obtain ⟨req, hreq⟩ := Option.isSome_iff_exists.mp (AList.lookup_isSome.mpr hmem)
    have hsim : s.station.simulator.handleNodeEvent (.chargeResult r allowed error) =
        s.station.simulator.remove r req.pumpId := by
      simp only [Station.Simulator.handleNodeEvent, hreq]
    have hnodup := hplaces.nodup_iff.mpr s.station.simulator.requests.keys_nodup
    have hkeep : ∀ k ∈ s.asked ++ s.session.client.activeOnlineRequests,
        (s.station.simulator.remove r req.pumpId).requests.lookup k =
          s.station.simulator.requests.lookup k := by
      intro k hk
      refine AList.lookup_erase_ne fun hkr => (List.nodup_cons.mp hnodup).1 ?_
      exact hkr ▸ List.mem_append_left _ hk
    rw [hsim]
    refine ⟨h.tables.remove hreq, ?_, fun accountId cardId amount k hk => ?_, fun k hk => ?_,
      h.refused, h.taken, hlen⟩
    · show (s.asked ++ _ ++ ((s.session.turns.flatMap Turn.told).drop (s.heard + 1)).filterMap
        resultId).Perm (s.station.simulator.requests.erase r).keys
      rw [hrest, AList.keys_erase]
      refine (hplaces.trans (List.perm_cons_erase (AList.mem_keys.mp hmem))).cons_inv
    · obtain ⟨req', hreq', hdata⟩ := h.charges _ _ _ _ hk
      refine ⟨req', ?_, hdata⟩
      exact (hkeep k (List.mem_append_left _ (asked_of_mem hk))).trans hreq'
    · obtain ⟨req', target, hreq', hsent⟩ := h.forwarded k hk
      exact ⟨req', target, (hkeep k (List.mem_append_right _ hk)).trans hreq', hsent⟩

variable {session : Session α} {turn : Turn α}

/-- A turn of the client keeps what it must. -/
theorem Inv.turned (h : s.Inv) {n : Nat} (hn : n ≤ s.station.toNode.length)
    (hsub : ∀ m ∈ s.station.toNode.drop n, m ∈ s.toClient)
    (hturns : session.turns = s.session.turns ++ [turn])
    (hbind : session.client.bindAddr = s.session.client.bindAddr)
    (hplaces : ((s.station.toNode.drop n).filterMap chargeId ++
      session.client.activeOnlineRequests ++ (s.results ++ turn.told.filterMap resultId)).Perm
      s.station.simulator.requests.keys)
    (hforwarded : ∀ k ∈ session.client.activeOnlineRequests,
      k ∈ s.session.client.activeOnlineRequests ∨ ∃ req target,
        s.station.simulator.requests.lookup k = some req ∧
        (target, .request k (.charge req.accountId req.cardId req.amount false)
          s.session.client.bindAddr) ∈ turn.sent)
    (hrefused : ∀ r error, .chargeResult r false error ∈ turn.told → ∃ e, error = some e ∧
      turn.event = .nodeMsg (.ok (.response r (.charge (.failed e))))) :
    ({ s with taken := n, session := session } : StationNode α numPumps).Inv := by
  have htold : session.turns.flatMap Turn.told =
      s.session.turns.flatMap Turn.told ++ turn.told := by
    rw [hturns, List.flatMap_append, List.flatMap_singleton]
  have hchannel : (session.turns.flatMap Turn.told).drop s.heard = s.toStation ++ turn.told := by
    rw [htold, List.drop_append_of_le_length h.heard]
    rfl
  refine ⟨h.tables, ?_, fun a c m k hk => h.charges a c m k (hsub _ hk), fun k hk => ?_,
    fun r error hmem => ?_, hn, ?_⟩
  · show ((s.station.toNode.drop n).filterMap chargeId ++ session.client.activeOnlineRequests ++
      ((session.turns.flatMap Turn.told).drop s.heard).filterMap resultId).Perm _
    rw [hchannel, List.filterMap_append]
    exact hplaces
  · show ∃ req target, _ ∧ (target, Message.request k _ session.client.bindAddr) ∈ session.sent
    rw [hbind, Session.sent_turn hturns]
    rcases hforwarded k hk with hk | ⟨req, target, hreq, hmem⟩
    · obtain ⟨req, target, hreq, hmem⟩ := h.forwarded k hk
      exact ⟨req, target, hreq, List.mem_append_left _ hmem⟩
    · exact ⟨req, target, hreq, List.mem_append_right _ hmem⟩
  · show ∃ e turn, error = some e ∧ turn ∈ session.turns ∧ _
    have hmem : .chargeResult r false error ∈ session.turns.flatMap Turn.told := hmem
    rw [htold] at hmem
    rw [hturns]
    rcases List.mem_append.mp hmem with hmem | hmem
    · obtain ⟨e, old, he, hold, hevent⟩ := h.refused r error hmem
      exact ⟨e, old, he, List.mem_append_left _ hold, hevent⟩
    · obtain ⟨e, he, hevent⟩ := hrefused r error hmem
      exact ⟨e, turn, he, List.mem_append_right _ List.mem_cons_self, hevent⟩
  · show s.heard ≤ (session.turns.flatMap Turn.told).length
    rw [htold, List.length_append]
    exact h.heard.trans (Nat.le_add_right _ _)

theorem filterMap_debug (texts : List String) : (texts.map .debug).filterMap resultId = [] := by
  induction texts with
  | nil => rfl
  | cons text texts ih => exact ih

/-- The client takes a message of the simulator. -/
theorem Inv.take [DebugFmt α] (h : s.Inv) {msg : StationToNodeMsg α} {rest : List (StationToNodeMsg α)}
    (hnext : s.toClient = msg :: rest) (hturns : session.turns = s.session.turns ++ [turn])
    (hserves : Serves s.session.client (.stationMsg msg) session.client turn.sent turn.told) :
    ({ s with taken := s.taken + 1, session := session } : StationNode α numPumps).Inv := by
  obtain ⟨hrest, hlen⟩ := drop_next hnext
  have hsub : ∀ m ∈ s.station.toNode.drop (s.taken + 1), m ∈ s.toClient := fun m hm => by
    rw [hrest] at hm
    rw [hnext]
    exact List.mem_cons_of_mem _ hm
  have hplaces := h.places
  have hnodup := h.nodup
  have hall : s.asked = (msg :: rest).filterMap chargeId := by
    unfold asked
    rw [hnext]
  rw [hall] at hplaces hnodup
  generalize hclient : session.client = client at hserves
  generalize htold : turn.told = told at hserves
  generalize hout : turn.sent = out at hserves
  cases hserves with
  | forwards c target =>
    have hfresh : c.requestId ∉ s.session.client.activeOnlineRequests := fun hmem =>
      (List.nodup_cons.mp hnodup).1 (List.mem_append_left _ (List.mem_append_right _ hmem))
    have hactive : session.client.activeOnlineRequests =
        c.requestId :: s.session.client.activeOnlineRequests := by
      rw [hclient]
      exact List.insert_of_not_mem hfresh
    refine h.turned hlen hsub hturns (by rw [hclient]) ?_ (fun k hk => ?_) fun r error hmem => ?_
    · rw [hrest, hactive, htold, List.filterMap_nil, List.append_nil, List.append_assoc]
      refine List.perm_middle.trans ?_
      show (c.requestId :: (_ ++ (s.session.client.activeOnlineRequests ++ s.results))).Perm _
      rw [← List.append_assoc]
      exact hplaces
    · rw [hactive] at hk
      rcases List.mem_cons.mp hk with rfl | hk
      · obtain ⟨req, hreq, hacc, hcard, hamount⟩ := h.charges c.accountId c.cardId c.amount _
          (hnext ▸ List.mem_cons_self)
        refine .inr ⟨req, target, hreq, ?_⟩
        rw [hout, hacc, hcard, hamount]
        exact List.mem_cons_self
      · exact .inl hk
    · rw [htold] at hmem
      cases hmem
  | answers c texts =>
    refine h.turned hlen hsub hturns (by rw [hclient]) ?_ (fun k hk => ?_) fun r error hmem => ?_
    · rw [hrest, hclient, htold, List.filterMap_append, filterMap_debug, List.nil_append,
        ← List.append_assoc]
      exact (List.perm_append_singleton c.requestId _).trans hplaces
    · rw [hclient] at hk
      exact .inl hk
    · rw [htold] at hmem
      rcases List.mem_append.mp hmem with hmem | hmem
      · obtain ⟨text, -, htext⟩ := List.mem_map.mp hmem
        cases htext
      · cases List.mem_singleton.mp hmem
  | switches text hmsg hactive hbind hqueue hsent hkept =>
    rw [← hclient] at hactive hbind
    rw [List.filterMap_cons_none hmsg] at hplaces
    refine h.turned hlen hsub hturns hbind ?_ (fun k hk => ?_) fun r error hmem => ?_
    · rw [hrest, hactive, htold]
      show (_ ++ _ ++ (s.results ++ [])).Perm _
      rw [List.append_nil]
      exact hplaces
    · exact .inl (hactive ▸ hk)
    · rw [htold] at hmem
      cases List.mem_singleton.mp hmem

/-- The client receives from the network. -/
theorem Inv.receive [DebugFmt α] (h : s.Inv) {msg : Except AppError (Message α)}
    (hcharge : ∀ r result, msg = .ok (.response r result) → ∃ verdict, result = .charge verdict)
    (hturns : session.turns = s.session.turns ++ [turn]) (hevent : turn.event = .nodeMsg msg)
    (hserves : Serves s.session.client (.nodeMsg msg) session.client turn.sent turn.told) :
    ({ s with session := session } : StationNode α numPumps).Inv := by
  generalize hclient : session.client = client at hserves
  generalize htold : turn.told = told at hserves
  generalize hout : turn.sent = out at hserves
  cases hserves with
  | responds r result hactive =>
    obtain ⟨verdict, rfl⟩ := hcharge r _ rfl
    have hresult : [resultOf r (.charge verdict : OperationResult α)].filterMap resultId = [r] := by
      cases verdict <;> rfl
    refine h.turned h.taken (fun _ hm => hm) hturns (by rw [hclient]) ?_ (fun k hk => ?_)
      fun k error hmem => ?_
    · rw [hclient, htold, hresult, ← List.append_assoc]
      have hback : (s.asked ++ s.session.client.activeOnlineRequests.erase r ++ s.results ++
          [r]).Perm (s.asked ++ s.session.client.activeOnlineRequests ++ s.results) := by
        refine (List.perm_append_singleton r _).trans ?_
        rw [List.append_assoc, List.append_assoc]
        refine List.perm_middle.symm.trans (List.Perm.append_left _ ?_)
        exact (List.perm_cons_erase hactive).symm.append_right _
      exact hback.trans h.places
    · rw [hclient] at hk
      exact .inl (List.mem_of_mem_erase hk)
    · rw [htold] at hmem
      cases verdict with
      | ok => cases List.mem_singleton.mp hmem
      | failed e =>
        cases List.mem_singleton.mp hmem
        exact ⟨e, rfl, hevent⟩
  | ignores sent hsent =>
    refine h.turned h.taken (fun _ hm => hm) hturns (by rw [hclient]) ?_ (fun k hk => ?_)
      fun r error hmem => ?_
    · rw [hclient, htold, List.filterMap_nil, List.append_nil]
      exact h.places
    · rw [hclient] at hk
      exact .inl hk
    · rw [htold] at hmem
      cases hmem

/-- **One step of the simulator or the client.** -/
theorem Inv.step [DebugFmt α] [FromStr α] {l : Label α} (h : s.Inv) (hl : l.Charges)
    (hs : s.Does l s') : s'.Inv := by
  cases hs with
  | issues text draws parsed r hparse hidle hdrawn hzero hfresh hsim hsent =>
    exact h.issue hidle hzero hfresh hsim hsent
  | idles msgs hsim hsent hnone => exact h.unasked hsim hsent hnone
  | hears hnext => exact h.hear hnext
  | takes outcomes hnext hturns hevent hserves => exact h.take hnext hturns hserves
  | receives outcomes hturns hevent hserves =>
    refine h.receive (fun r result hmsg => ?_) hturns hevent hserves
    subst hmsg
    exact hl

end Steps

/-- **Every pump is served once.** In every run of a station and its client in which every
    response the client receives is to a charge, whatever lines the operator types, whichever
    nodes the client reaches and in whatever order the messages are taken, a pump's request is
    in one place, and no pump is turned down by the client of its own accord. A response of
    another kind under the id of a request would end the client's wait with a debug line. -/
theorem pumps_served [AddrHash] [DebugFmt α] [FromStr α] (bindAddr : SocketAddr)
    (knownNodes : List SocketAddr) (ls : List (Label α)) (s : StationNode α numPumps)
    (hls : ∀ l ∈ ls, l.Charges) (hr : run step (start numPumps bindAddr knownNodes) ls = some s) :
    s.Served :=
  (run_induct_meets (fun _ _ _ h hl hs => h.step hl (step_does hs)) hr (meets_of_forall hls _)
    (inv_start bindAddr knownNodes)).served

section Example

local instance pumpsHash : AddrHash := localHash

local instance pumpsFmt : DebugFmt Nat := ⟨fun _ => ""⟩

local instance pumpsFromStr : FromStr Nat := ⟨Station.parseUnsigned⟩

/-- The first pump's charge is forwarded and turned down. The second pump's is forwarded too,
    the third's is answered offline, and the result of the first is heard. -/
def threePumps : List (Label Nat) :=
  [.line "0 1 10 50" [7], .take [], .line "1 1 10 20" [8],
    .receive (.ok (.response 7 (.charge (.failed (.chargeLimit .cardLimitExceeded))))) [],
    .take [], .line "disconnect" [], .line "2 2 11 5" [0, 9], .take [], .take [], .hear]

theorem pumps_served_example :
    ∃ s : StationNode Nat 3, run step (start 3 (localAddr 5002) [localAddr 5000]) threePumps =
        some s ∧ s.session.client.activeOnlineRequests = [8] ∧ s.results = [9] ∧ s.Served := by
  have hrun : (run step (start 3 (localAddr 5002) [localAddr 5000] : StationNode Nat 3)
      threePumps).any (fun s => decide (s.session.client.activeOnlineRequests = [8] ∧
        s.results = [9])) = true := by decide +kernel
  obtain ⟨s, hs, hprops⟩ := (Option.any_eq_true _ _).mp hrun
  obtain ⟨hactive, hresults⟩ := of_decide_eq_true hprops
  refine ⟨s, hs, hactive, hresults, pumps_served _ _ threePumps s (fun l hl => ?_) hs⟩
  simp only [threePumps, List.mem_cons, List.not_mem_nil, or_false] at hl
  rcases hl with rfl | rfl | rfl | rfl | rfl | rfl | rfl | rfl | rfl | rfl
  all_goals first | exact True.intro | exact ⟨_, rfl⟩

end Example

end StationNode

end YpfRuta.Client
