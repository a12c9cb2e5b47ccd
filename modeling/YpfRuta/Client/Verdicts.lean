/-
  Where the verdicts of a station's pumps come from: from the response to a request sent for
  the pump's own charge, or from the client itself, which then keeps the charge until it is
  replayed.
-/
import YpfRuta.Client.Pumps
import YpfRuta.Station.Commands

namespace YpfRuta.Client

open Server Lib
open Station (FromStr ParsedCommand Denotes isWhitespace chargeId)

variable {α : Type}

/-- How a station asks for a charge. -/
def Charge.ask (c : Charge α) : StationToNodeMsg α :=
  .chargeRequest c.accountId c.cardId c.amount c.requestId

/-- The line asks a station of `numPumps` pumps for this charge, under an id drawn for it. -/
def Charge.Typed [FromStr α] (numPumps : Nat) (text : String) (draws : List ReqId)
    (c : Charge α) : Prop :=
  c.requestId ∈ draws ∧ ∃ pump account card amount,
    Spaced isWhitespace [pump, account, card, amount] text.toList ∧
    ∃ cmd : ParsedCommand α numPumps, Denotes pump account card amount cmd ∧
      c.accountId = cmd.accountId ∧ c.cardId = cmd.cardId ∧ c.amount = cmd.amount

/-- The request that forwards a charge. -/
def Charge.forwarded (c : Charge α) (bindAddr : SocketAddr) : Message α :=
  .request c.requestId (c.operation false) bindAddr

/-! ## What one turn adds -/

namespace Serves

variable [DebugFmt α] {self self' : NodeClient α} {event : Event α}
  {sent : List (SocketAddr × Message α)} {told : List NodeToStationMsg}

theorem bindAddr (h : Serves self event self' sent told) : self'.bindAddr = self.bindAddr := by
  cases h with
  | switches text hmsg hactive hbind hqueue hsent hkept => exact hbind
  | _ => rfl

/-- A charge that waits has waited, or was asked for now. -/
theorem queue (h : Serves self event self' sent told) {q : QueuedCharge α}
    (hq : q ∈ self'.offlineQueue) :
    q ∈ self.offlineQueue ∨ ∃ c : Charge α, event = .stationMsg c.ask ∧ q = c.queued := by
  cases h with
  | answers c texts =>
    rcases List.mem_append.mp hq with hq | hq
    · exact .inl hq
    · exact .inr ⟨c, rfl, List.mem_singleton.mp hq⟩
  | switches text hmsg hactive hbind hqueue hsent hkept => exact .inl (hqueue q hq)
  | _ => exact .inl hq

/-- A charge goes on waiting until it is replayed. -/
theorem kept (h : Serves self event self' sent told) {q : QueuedCharge α}
    (hq : q ∈ self.offlineQueue) :
    q ∈ self'.offlineQueue ∨ ∃ target reqId, (target, replayOf q reqId self.bindAddr) ∈ sent := by
  cases h with
  | answers c texts => exact .inl (List.mem_append_left _ hq)
  | switches text hmsg hactive hbind hqueue hsent hkept => exact hkept q hq
  | _ => exact .inl hq

theorem sends (h : Serves self event self' sent told) {p : SocketAddr × Message α}
    (hp : p ∈ sent) :
    (∃ id role, p.2 = .roleResponse id role) ∨
    (∃ c : Charge α, event = .stationMsg c.ask ∧ p.2 = c.forwarded self.bindAddr) ∨
    ∃ q ∈ self.offlineQueue, ∃ reqId, p.2 = replayOf q reqId self.bindAddr := by
  cases h with
  | forwards c target =>
    rw [List.mem_singleton.mp hp]
    exact .inr (.inl ⟨c, rfl, rfl⟩)
  | answers c texts => cases hp
  | switches text hmsg hactive hbind hqueue hsent hkept => exact .inr (.inr (hsent p hp))
  | responds r result hactive => cases hp
  | ignores sent hsent => exact .inl (hsent p hp)

/-- A request the client waits for it has waited for, or forwarded now. -/
theorem waits (h : Serves self event self' sent told) {r : ReqId}
    (hr : r ∈ self'.activeOnlineRequests) :
    r ∈ self.activeOnlineRequests ∨ ∃ c : Charge α, event = .stationMsg c.ask ∧
      c.requestId = r ∧ ∃ target, (target, c.forwarded self.bindAddr) ∈ sent := by
  cases h with
  | forwards c target =>
    rcases List.mem_insert_iff.mp hr with rfl | hr
    · exact .inr ⟨c, rfl, rfl, target, List.mem_cons_self⟩
    · exact .inl hr
  | switches text hmsg hactive hbind hqueue hsent hkept => exact .inl (hactive ▸ hr)
  | responds k result hactive => exact .inl (List.mem_of_mem_erase hr)
  | _ => exact .inl hr

/-- A result is the client's own, which queues the charge, or that of a response. -/
theorem tells (h : Serves self event self' sent told) {r : ReqId} {allowed : Bool}
    {error : Option VerifyError} (ht : .chargeResult r allowed error ∈ told) :
    (∃ c : Charge α, event = .stationMsg c.ask ∧ c.requestId = r ∧
      c.queued ∈ self'.offlineQueue ∧ allowed = true ∧ error = none) ∨
    r ∈ self.activeOnlineRequests ∧ ∃ verdict,
      event = .nodeMsg (.ok (.response r (.charge verdict))) ∧
      Node.chargeVerdict verdict = (allowed, error) := by
  cases h with
  | forwards c target => cases ht
  | answers c texts =>
    rcases List.mem_append.mp ht with ht | ht
    · obtain ⟨text, -, htext⟩ := List.mem_map.mp ht
      cases htext
    · cases List.mem_singleton.mp ht
      exact .inl ⟨c, rfl, rfl, List.mem_append_right _ List.mem_cons_self, rfl, rfl⟩
  | switches text hmsg hactive hbind hqueue hsent hkept => cases List.mem_singleton.mp ht
  | responds k result hactive =>
    match result with
    | .charge .ok =>
      cases List.mem_singleton.mp ht
      exact .inr ⟨hactive, .ok, rfl, rfl⟩
    | .charge (.failed e) =>
      cases List.mem_singleton.mp ht
      exact .inr ⟨hactive, .failed e, rfl, rfl⟩
    | .limitAccount _ | .limitCard _ | .accountQuery _ | .databaseSnapshot _ | .replaceDatabase =>
      cases List.mem_singleton.mp ht
  | ignores sent hsent => cases ht

end Serves

namespace StationNode

variable {numPumps : Nat}

/-! ## A station's charges and verdicts -/

/-- The station has asked for this charge. -/
def Asked (s : StationNode α numPumps) (c : Charge α) : Prop := c.ask ∈ s.station.toNode

/-- The client has forwarded this charge. -/
def Forwarded (s : StationNode α numPumps) (c : Charge α) : Prop :=
  ∃ target, (target, c.forwarded s.session.client.bindAddr) ∈ s.session.sent

/-- The client keeps this charge, or has replayed it. -/
def Deferred (s : StationNode α numPumps) (c : Charge α) : Prop :=
  c.queued ∈ s.session.client.offlineQueue ∨
    ∃ target reqId, (target, replayOf c.queued reqId s.session.client.bindAddr) ∈ s.session.sent

/-! ## What a step adds -/

namespace Does

variable [DebugFmt α] [FromStr α] {s s' : StationNode α numPumps} {l : Label α}

theorem sent (h : s.Does l s') {p : SocketAddr × Message α} (hp : p ∈ s.session.sent) :
    p ∈ s'.session.sent := by
  cases h with
  | takes outcomes hnext hturns hevent hserves =>
    rw [Session.sent_turn hturns]
    exact List.mem_append_left _ hp
  | receives outcomes hturns hevent hserves =>
    rw [Session.sent_turn hturns]
    exact List.mem_append_left _ hp
  | _ => exact hp

theorem bindAddr (h : s.Does l s') : s'.session.client.bindAddr = s.session.client.bindAddr := by
  cases h with
  | takes outcomes hnext hturns hevent hserves => exact hserves.bindAddr
  | receives outcomes hturns hevent hserves => exact hserves.bindAddr
  | _ => rfl

/-- What the station has asked for it has asked for before, or the operator types it now. -/
theorem asked (h : s.Does l s') {c : Charge α} (hc : s'.Asked c) :
    s.Asked c ∨ ∃ text draws, l = .line text draws ∧ c.Typed numPumps text draws := by
  cases h with
  | @issues text draws parsed r station hparse hidle hdrawn hzero hfresh hsim hsent =>
    have hc : c.ask ∈ station.toNode := hc
    rw [hsent] at hc
    obtain hc | hc := List.mem_append.mp hc
    · exact .inl hc
    · obtain ⟨haccount, hcard, hamount, hid⟩ := StationToNodeMsg.chargeRequest.inj
        (List.mem_singleton.mp hc)
      have hdrawn : c.requestId ∈ draws := hid ▸ hdrawn
      rw [Station.parse_trim] at hparse
      obtain ⟨pump, account, card, amount, hspaced, hdenotes⟩ :=
        Station.denotes_of_parse hparse
      exact .inr ⟨text, draws, rfl, hdrawn, pump, account, card, amount, hspaced, parsed,
        hdenotes, haccount, hcard, hamount⟩
  | @idles _ station msgs hsim hsent hnone =>
    have hc : c.ask ∈ station.toNode := hc
    rw [hsent] at hc
    obtain hc | hc := List.mem_append.mp hc
    · exact .inl hc
    · have hmem : c.requestId ∈ msgs.filterMap chargeId :=
        List.mem_filterMap.mpr ⟨c.ask, hc, rfl⟩
      rw [hnone] at hmem
      cases hmem
  | _ => exact .inl hc

/-- A message the client has heard it has heard before, or receives now. -/
theorem heard (h : s.Does l s') {turn : Turn α} (ht : turn ∈ s'.session.turns)
    {msg : Except AppError (Message α)} (hmsg : turn.event = .nodeMsg msg) :
    turn ∈ s.session.turns ∨ ∃ outcomes, l = .receive msg outcomes := by
  cases h with
  | takes outcomes hnext hturns hevent hserves =>
    obtain ht | ht := List.mem_append.mp (hturns ▸ ht)
    · exact .inl ht
    · rw [List.mem_singleton.mp ht, hevent] at hmsg
      cases hmsg
  | receives outcomes hturns hevent hserves =>
    obtain ht | ht := List.mem_append.mp (hturns ▸ ht)
    · exact .inl ht
    · rw [List.mem_singleton.mp ht, hevent] at hmsg
      cases hmsg
      exact .inr ⟨outcomes, rfl⟩
  | _ => exact .inl ht

end Does

/-! ## What every run keeps -/

/-- The client sends what its station asked for, and tells it what it
    has grounds for. -/
structure Sourced (s : StationNode α numPumps) : Prop where
  queued : ∀ q ∈ s.session.client.offlineQueue, ∃ c, s.Asked c ∧ q = c.queued
  sent : ∀ p ∈ s.session.sent, (∃ id role, p.2 = .roleResponse id role) ∨
    ∃ c, s.Asked c ∧ (p.2 = c.forwarded s.session.client.bindAddr ∨
      ∃ reqId, p.2 = replayOf c.queued reqId s.session.client.bindAddr)
  active : ∀ r ∈ s.session.client.activeOnlineRequests,
    ∃ c, s.Asked c ∧ c.requestId = r ∧ s.Forwarded c
  told : ∀ turn ∈ s.session.turns, ∀ r allowed error, .chargeResult r allowed error ∈ turn.told →
    ∃ c, s.Asked c ∧ c.requestId = r ∧
      (s.Deferred c ∧ allowed = true ∧ error = none ∨
        s.Forwarded c ∧ ∃ verdict, turn.event = .nodeMsg (.ok (.response r (.charge verdict))) ∧
          Node.chargeVerdict verdict = (allowed, error))

theorem sourced_start (bindAddr : SocketAddr) (knownNodes : List SocketAddr) :
    (start numPumps bindAddr knownNodes : StationNode α numPumps).Sourced where
  queued _ hq := absurd hq List.not_mem_nil
  sent _ hp := absurd hp List.not_mem_nil
  active _ hr := absurd hr List.not_mem_nil
  told _ ht := absurd ht List.not_mem_nil

section Steps

variable {s s' : StationNode α numPumps}

/-- The simulator only adds to what it has asked for. -/
theorem Sourced.station (h : s.Sourced) {station : Station.Loop α numPumps} {n : Nat}
    (hsent : ∀ m ∈ s.station.toNode, m ∈ station.toNode) :
    ({ s with station := station, heard := n } : StationNode α numPumps).Sourced where
  queued q hq := by
    obtain ⟨c, hc, rfl⟩ := h.queued q hq
    exact ⟨c, hsent _ hc, rfl⟩
  sent p hp := by
    obtain hrole | ⟨c, hc, hmsg⟩ := h.sent p hp
    · exact .inl hrole
    · exact .inr ⟨c, hsent _ hc, hmsg⟩
  active r hr := by
    obtain ⟨c, hc, hforwarded⟩ := h.active r hr
    exact ⟨c, hsent _ hc, hforwarded⟩
  told turn ht r allowed error hmem := by
    obtain ⟨c, hc, hgrounds⟩ := h.told turn ht r allowed error hmem
    exact ⟨c, hsent _ hc, hgrounds⟩

/-- A turn of the client. -/
theorem Sourced.turned [DebugFmt α] (h : s.Sourced) {session : Session α} {turn : Turn α} {n : Nat}
    (hturns : session.turns = s.session.turns ++ [turn])
    (hserves : Serves s.session.client turn.event session.client turn.sent turn.told)
    (hasked : ∀ c : Charge α, turn.event = .stationMsg c.ask → s.Asked c) :
    ({ s with taken := n, session := session } : StationNode α numPumps).Sourced := by
  have hbind := hserves.bindAddr
  have hsent := Session.sent_turn hturns
  have hforwarded : ∀ c, s.Forwarded c →
      ({ s with taken := n, session := session } : StationNode α numPumps).Forwarded c := by
    rintro c ⟨target, hmem⟩
    refine ⟨target, ?_⟩
    show (target, c.forwarded session.client.bindAddr) ∈ session.sent
    rw [hbind, hsent]
    exact List.mem_append_left _ hmem
  have hnow : ∀ (c : Charge α) target, (target, c.forwarded s.session.client.bindAddr) ∈ turn.sent →
      ({ s with taken := n, session := session } : StationNode α numPumps).Forwarded c := by
    intro c target hmem
    refine ⟨target, ?_⟩
    show (target, c.forwarded session.client.bindAddr) ∈ session.sent
    rw [hbind, hsent]
    exact List.mem_append_right _ hmem
  have hdeferred : ∀ c, s.Deferred c →
      ({ s with taken := n, session := session } : StationNode α numPumps).Deferred c := by
    rintro c (hq | ⟨target, reqId, hmem⟩)
    · obtain hq | ⟨target, reqId, hmem⟩ := hserves.kept hq
      · exact .inl hq
      · refine .inr ⟨target, reqId, ?_⟩
        show (target, replayOf c.queued reqId session.client.bindAddr) ∈ session.sent
        rw [hbind, hsent]
        exact List.mem_append_right _ hmem
    · refine .inr ⟨target, reqId, ?_⟩
      show (target, replayOf c.queued reqId session.client.bindAddr) ∈ session.sent
      rw [hbind, hsent]
      exact List.mem_append_left _ hmem
  refine ⟨fun q hq => ?_, fun p hp => ?_, fun r hr => ?_, fun t ht r allowed error hmem => ?_⟩
  · obtain hq | ⟨c, hevent, rfl⟩ := hserves.queue hq
    · exact h.queued q hq
    · exact ⟨c, hasked c hevent, rfl⟩
  · show _ ∨ ∃ c, s.Asked c ∧ (p.2 = c.forwarded session.client.bindAddr ∨
      ∃ reqId, p.2 = replayOf c.queued reqId session.client.bindAddr)
    have hp : p ∈ session.sent := hp
    rw [hsent] at hp
    rw [hbind]
    rcases List.mem_append.mp hp with hp | hp
    · exact h.sent p hp
    · obtain hrole | ⟨c, hevent, hmsg⟩ | ⟨q, hq, hmsg⟩ := hserves.sends hp
      · exact .inl hrole
      · exact .inr ⟨c, hasked c hevent, .inl hmsg⟩
      · obtain ⟨c, hc, rfl⟩ := h.queued q hq
        exact .inr ⟨c, hc, .inr hmsg⟩
  · obtain hr | ⟨c, hevent, hid, target, hmem⟩ := hserves.waits hr
    · obtain ⟨c, hc, hid, hf⟩ := h.active r hr
      exact ⟨c, hc, hid, hforwarded c hf⟩
    · exact ⟨c, hasked c hevent, hid, hnow c target hmem⟩
  · have ht : t ∈ session.turns := ht
    rw [hturns] at ht
    rcases List.mem_append.mp ht with ht | ht
    · obtain ⟨c, hc, hid, hgrounds⟩ := h.told t ht r allowed error hmem
      exact ⟨c, hc, hid, hgrounds.imp (And.imp_left (hdeferred c)) (And.imp_left (hforwarded c))⟩
    · obtain rfl := List.mem_singleton.mp ht
      obtain ⟨c, hevent, hid, hq, hallowed⟩ | ⟨hactive, hverdict⟩ := hserves.tells hmem
      · exact ⟨c, hasked c hevent, hid, .inl ⟨.inl hq, hallowed⟩⟩
      · obtain ⟨c, hc, hid, hf⟩ := h.active r hactive
        exact ⟨c, hc, hid, .inr ⟨hforwarded c hf, hverdict⟩⟩

/-- One step of the simulator or the client. -/
theorem Sourced.step [DebugFmt α] [FromStr α] {l : Label α} (h : s.Sourced) (hs : s.Does l s') :
    s'.Sourced := by
  cases hs with
  | issues text draws parsed r hparse hidle hdrawn hzero hfresh hsim hsent =>
    exact h.station fun m hm => hsent ▸ List.mem_append_left _ hm
  | idles msgs hsim hsent hnone => exact h.station fun m hm => hsent ▸ List.mem_append_left _ hm
  | hears hnext => exact h.station fun m hm => hm
  | takes outcomes hnext hturns hevent hserves =>
    refine h.turned hturns (hevent ▸ hserves) fun c hc => ?_
    rw [hevent] at hc
    obtain rfl := Client.Event.stationMsg.inj hc
    exact List.mem_of_mem_drop (hnext ▸ List.mem_cons_self : c.ask ∈ s.toClient)
  | receives outcomes hturns hevent hserves =>
    refine h.turned hturns (hevent ▸ hserves) fun c hc => ?_
    rw [hevent] at hc
    cases hc

end Steps

end StationNode

end YpfRuta.Client
