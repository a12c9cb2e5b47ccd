/-
  The two tables of the pump simulator over whole runs: which pump waits for which request,
  and what the request map says of it.
-/
import YpfRuta.Lib.Slots
import YpfRuta.Lib.Transition
import YpfRuta.Station.Simulator

namespace YpfRuta.Station

open Lib

variable {α : Type} {numPumps : Nat}

namespace Simulator

/-- **The tables are a bijection** between the busy pumps and the requests. -/
structure Consistent (sim : Simulator α numPumps) : Prop where
  pumps : ∀ (p : Fin numPumps) r, sim.inFlightByPump.get p = some r ↔
    ∃ req, sim.requests.lookup r = some req ∧ req.pumpId = p ∧ req.requestId = r
  keyed : ∀ r req, sim.requests.lookup r = some req → req.requestId = r
  nonzero : ∀ (p : Fin numPumps) r, sim.inFlightByPump.get p = some r → r ≠ 0
  distinct : ∀ (p q : Fin numPumps) r, sim.inFlightByPump.get p = some r →
    sim.inFlightByPump.get q = some r → p = q

/-- The invariant: the tables agree, and a request is stored under its own id. -/
structure Inv (sim : Simulator α numPumps) : Prop where
  paired : Slots.Paired PumpRequest.pumpId sim.inFlightByPump sim.requests
  keyed : ∀ r req, sim.requests.lookup r = some req → req.requestId = r ∧ r ≠ 0

theorem Inv.consistent {sim : Simulator α numPumps} (h : sim.Inv) : sim.Consistent where
  pumps p r := by
    rw [h.paired p r]
    constructor
    · rintro ⟨req, hreq, hp⟩
      exact ⟨req, hreq, hp, (h.keyed r req hreq).1⟩
    · rintro ⟨req, hreq, hp, -⟩
      exact ⟨req, hreq, hp⟩
  keyed r req hreq := (h.keyed r req hreq).1
  nonzero p r hp := by
    obtain ⟨req, hreq, -⟩ := (h.paired p r).mp hp
    exact (h.keyed r req hreq).2
  distinct _ _ _ hp hq := h.paired.injective hp hq

theorem inv_start : (start numPumps : Simulator α numPumps).Inv where
  paired := Slots.paired_empty _
  keyed r req h := by
    rw [show (start numPumps : Simulator α numPumps).requests = ∅ from rfl, AList.lookup_empty] at h
    cases h

variable {sim sim' : Simulator α numPumps} {parsed : ParsedCommand α numPumps} {r : ReqId}

theorem allocate_fresh {draws : List ReqId} (h : sim.allocate draws = some r) :
    r ≠ 0 ∧ r ∉ sim.requests ∧ some r ∉ sim.inFlightByPump := by
  have hp := List.find?_some h
  exact of_decide_eq_true hp

theorem allocate_drawn {draws : List ReqId} (h : sim.allocate draws = some r) : r ∈ draws :=
  List.mem_of_find?_eq_some h

theorem Inv.assign (h : sim.Inv) (hidle : sim.inFlightByPump.get parsed.pumpId = none)
    (hzero : r ≠ 0) (hfresh : r ∉ sim.requests) : (sim.assign parsed r).Inv where
  paired := h.paired.take (v := parsed.request r) hidle hfresh
  keyed k req hk := by
    unfold Simulator.assign at hk
    by_cases hkr : k = r
    · rw [hkr, AList.lookup_insert] at hk
      rw [← Option.some.inj hk, hkr]
      exact ⟨rfl, hzero⟩
    · rw [AList.lookup_insert_ne hkr] at hk
      exact h.keyed k req hk

theorem Inv.remove (h : sim.Inv) {req : PumpRequest α numPumps}
    (hr : sim.requests.lookup r = some req) : (sim.remove r req.pumpId).Inv where
  paired := h.paired.release hr
  keyed k req' hk := by
    unfold Simulator.remove at hk
    by_cases hkr : k = r
    · rw [hkr, AList.lookup_erase] at hk
      cases hk
    · rw [AList.lookup_erase_ne hkr] at hk
      exact h.keyed k req' hk

/-- Undoing a request just made leaves no trace. -/
theorem remove_assign (hidle : sim.inFlightByPump.get parsed.pumpId = none)
    (hfresh : r ∉ sim.requests) : (sim.assign parsed r).remove r parsed.pumpId = sim := by
  unfold Simulator.assign Simulator.remove
  simp only
  rw [Slots.set_back hidle, Slots.erase_insert hfresh]

/-- What a command does: it makes one request, of an idle pump, or nothing. -/
theorem handleUserCommand_cases [FromStr α] {line : String} {draws : List ReqId}
    {res : Except String (Option ReqId)}
    (h : sim.handleUserCommand line draws = some (res, sim')) :
    (∃ (parsed : ParsedCommand α numPumps) (r : ReqId), parseCommand line numPumps = .ok parsed ∧
      sim.inFlightByPump.get parsed.pumpId = none ∧ r ∈ draws ∧ r ≠ 0 ∧ r ∉ sim.requests ∧
      res = .ok (some r) ∧ sim' = sim.assign parsed r) ∨
    ((∀ parsed : ParsedCommand α numPumps, parseCommand line numPumps = .ok parsed →
      sim.inFlightByPump.get parsed.pumpId ≠ none) ∧ (∃ e, res = .error e) ∧ sim' = sim) := by
  unfold handleUserCommand at h
  cases hparse : parseCommand line numPumps (α := α) with
  | error e =>
    rw [hparse] at h
    cases h
    exact .inr ⟨fun parsed hp => (by cases hp), ⟨e, rfl⟩, rfl⟩
  | ok parsed =>
    rw [hparse] at h
    simp only at h
    cases hpump : sim.inFlightByPump.get parsed.pumpId with
    | some busy =>
      have hbusy : sim.inFlightByPump[parsed.pumpId] = some busy := hpump
      rw [hbusy] at h
      cases h
      refine .inr ⟨fun parsed' hp => ?_, ⟨_, rfl⟩, rfl⟩
      cases hp
      rw [hpump]
      exact Option.some_ne_none busy
    | none =>
      have hidle : sim.inFlightByPump[parsed.pumpId] = none := hpump
      rw [hidle] at h
      simp only at h
      cases hdraw : sim.allocate draws with
      | none =>
        rw [hdraw] at h
        cases h
      | some r =>
        rw [hdraw] at h
        cases h
        have hfresh := allocate_fresh hdraw
        exact .inl ⟨parsed, r, rfl, hpump, allocate_drawn hdraw, hfresh.1, hfresh.2.1, rfl, rfl⟩

/-- The pump `p` is freed of the request `r`, and nothing else changes. -/
structure Frees (sim sim' : Simulator α numPumps) (p : Fin numPumps) (r : ReqId) : Prop where
  held : sim.inFlightByPump.get p = some r
  freed : sim'.inFlightByPump.get p = none
  gone : sim'.requests.lookup r = none
  pumps : ∀ q : Fin numPumps, q ≠ p → sim'.inFlightByPump.get q = sim.inFlightByPump.get q
  requests : ∀ k, k ≠ r → sim'.requests.lookup k = sim.requests.lookup k

theorem Inv.frees (h : sim.Inv) {req : PumpRequest α numPumps}
    (hr : sim.requests.lookup r = some req) :
    Frees sim (sim.remove r req.pumpId) req.pumpId r where
  held := h.paired.lookup hr
  freed := by
    unfold Simulator.remove
    rw [Slots.get_set, if_pos rfl]
  gone := AList.lookup_erase r sim.requests
  pumps q hq := by
    unfold Simulator.remove
    rw [Slots.get_set, if_neg fun h => hq h.symm]
  requests k hk := AList.lookup_erase_ne hk

/-- A line the simulator makes a request of: a well-formed command for an idle pump. -/
def Accepts [FromStr α] (sim : Simulator α numPumps) (text : String) : Prop :=
  ∃ parsed : ParsedCommand α numPumps,
    parseCommand (trim text) numPumps = .ok parsed ∧ sim.inFlightByPump.get parsed.pumpId = none

end Simulator

/-- The id of a charge request. -/
def chargeId : StationToNodeMsg α → Option ReqId
  | .chargeRequest _ _ _ requestId => some requestId
  | _ => none

namespace Loop

variable [FromStr α] {s s' : Loop α numPumps}

/-- What one line does: it makes a request and hands it to the node, or it leaves the tables
    as they are and sends no request. -/
theorem handleLine_cases {text : String} {draws : List ReqId} {sent : Bool}
    (h : s.handleLine text draws sent = some s') :
    (∃ (parsed : ParsedCommand α numPumps) (r : ReqId),
      parseCommand (trim text) numPumps = .ok parsed ∧
      s.simulator.inFlightByPump.get parsed.pumpId = none ∧ r ∈ draws ∧ r ≠ 0 ∧
      r ∉ s.simulator.requests ∧ sent = true ∧ s'.simulator = s.simulator.assign parsed r ∧
      s'.toNode = s.toNode ++ [.chargeRequest parsed.accountId parsed.cardId parsed.amount r]) ∨
    (s'.simulator = s.simulator ∧
      ∃ msgs, s'.toNode = s.toNode ++ msgs ∧ msgs.filterMap chargeId = []) := by
  have hnothing : s.toNode = s.toNode ++ [] := (List.append_nil _).symm
  have hsend : ∀ msg : StationToNodeMsg α, chargeId msg = none →
      (s.send msg sent).simulator = s.simulator ∧
        ∃ msgs, (s.send msg sent).toNode = s.toNode ++ msgs ∧ msgs.filterMap chargeId = [] := by
    intro msg hmsg
    unfold send
    split
    · exact ⟨rfl, [msg], rfl, by rw [List.filterMap_cons_none hmsg, List.filterMap_nil]⟩
    · exact ⟨rfl, [], hnothing, rfl⟩
  unfold handleLine at h
  simp only at h
  split at h
  · cases h
    exact .inr ⟨rfl, [], hnothing, rfl⟩
  split at h
  · cases h
    exact .inr ⟨rfl, [], hnothing, rfl⟩
  split at h
  · cases h
    exact .inr ⟨rfl, [], hnothing, rfl⟩
  split at h
  · cases h
    exact .inr (hsend .disconnectNode rfl)
  split at h
  · cases h
    exact .inr (hsend .connectNode rfl)
  unfold handleCommand at h
  cases hcmd : s.simulator.handleUserCommand (trim text) draws with
  | none =>
    rw [hcmd] at h
    cases h
  | some out =>
    obtain ⟨res, sim⟩ := out
    rw [hcmd] at h
    rcases Simulator.handleUserCommand_cases hcmd with
      ⟨parsed, r, hparse, hidle, hdrawn, hzero, hfresh, rfl, rfl⟩ | ⟨-, ⟨e, rfl⟩, rfl⟩
    · have hlook : (s.simulator.assign parsed r).requests.lookup r = some (parsed.request r) :=
        AList.lookup_insert _
      obtain rfl := Option.some.inj h
      unfold forward
      simp only [hlook]
      split
      · next hsent =>
        exact .inl ⟨parsed, r, hparse, hidle, hdrawn, hzero, hfresh, hsent, rfl, rfl⟩
      · exact .inr ⟨Simulator.remove_assign hidle hfresh, [], hnothing, rfl⟩
    · cases h
      exact .inr ⟨rfl, [], hnothing, rfl⟩

end Loop

/-! ## Runs -/

/-- A simulator, and the pumps its charge requests came from, the last one first. -/
structure Journal (α : Type) (numPumps : Nat) where
  station : Loop α numPumps
  issued : List (ReqId × Fin numPumps)

/-- The ids of the charge requests that a step sent, with the pump its line names. -/
def issues [FromStr α] (s s' : Loop α numPumps) : Event → List (ReqId × Fin numPumps)
  | .line text _ _ =>
    match (parseCommand (trim text) numPumps : Except String (ParsedCommand α numPumps)) with
    | .ok parsed =>
      ((s'.toNode.drop s.toNode.length).filterMap chargeId).map fun r => (r, parsed.pumpId)
    | .error _ => []
  | _ => []

namespace Journal

def start (numPumps : Nat) : Journal α numPumps where
  station := .start numPumps
  issued := []

def step [FromStr α] (j : Journal α numPumps) (event : Event) : Option (Journal α numPumps) :=
  (j.station.step event).map fun s =>
    { station := s, issued := issues j.station s event ++ j.issued }

/-- The invariant of a run: a pending request is the last one issued under its id. -/
structure Inv (j : Journal α numPumps) : Prop where
  tables : j.station.simulator.Inv
  last : ∀ r req, j.station.simulator.requests.lookup r = some req →
    j.issued.lookup r = some req.pumpId

theorem inv_start : (start numPumps : Journal α numPumps).Inv where
  tables := Simulator.inv_start
  last r req h := by
    rw [show (start numPumps : Journal α numPumps).station.simulator.requests = ∅ from rfl,
      AList.lookup_empty] at h
    cases h

variable [FromStr α] {j j' : Journal α numPumps}

/-- What a step does to the tables. -/
inductive Does (j j' : Journal α numPumps) : Event → Prop where
  | issues (text : String) (draws : List ReqId) (parsed : ParsedCommand α numPumps) (r : ReqId)
      (hparse : parseCommand (trim text) numPumps = .ok parsed)
      (hidle : j.station.simulator.inFlightByPump.get parsed.pumpId = none) (hzero : r ≠ 0)
      (hfresh : r ∉ j.station.simulator.requests)
      (hsim : j'.station.simulator = j.station.simulator.assign parsed r)
      (hissued : j'.issued = (r, parsed.pumpId) :: j.issued) : Does j j' (.line text draws true)
  | result (r : ReqId) (allowed : Bool) (error : Option VerifyError)
      (req : PumpRequest α numPumps) (hreq : j.station.simulator.requests.lookup r = some req)
      (hsim : j'.station.simulator = j.station.simulator.remove r req.pumpId)
      (hissued : j'.issued = j.issued) : Does j j' (.nodeMsg (.chargeResult r allowed error))
  | nothing (event : Event)
      (hresult : ∀ r allowed error, event = .nodeMsg (.chargeResult r allowed error) →
        r ∉ j.station.simulator.requests)
      (hsim : j'.station.simulator = j.station.simulator)
      (hissued : j'.issued = j.issued) : Does j j' event

theorem step_does {event : Event} (h : j.step event = some j') : Does j j' event := by
  obtain ⟨s, hs, rfl⟩ := Option.map_eq_some_iff.mp h
  obtain ⟨-, hs⟩ := Option.ite_none_right_eq_some.mp hs
  cases event with
  | line text draws sent =>
    rcases Loop.handleLine_cases hs with
      ⟨parsed, r, hparse, hidle, -, hzero, hfresh, rfl, hsim, hsent⟩ | ⟨hsim, msgs, hsent, hnone⟩
    · refine .issues text draws parsed r hparse hidle hzero hfresh hsim ?_
      simp only [issues, hparse, hsent, List.drop_left]
      rfl
    · refine .nothing _ (fun _ _ _ he => by cases he) hsim ?_
      show issues j.station s _ ++ j.issued = j.issued
      unfold issues
      simp only [hsent, List.drop_left, hnone]
      split <;> rfl
  | nodeMsg msg =>
    obtain rfl := Option.some.inj hs
    cases msg with
    | chargeResult r allowed error =>
      cases hreq : j.station.simulator.requests.lookup r with
      | some req =>
        refine .result r allowed error req hreq ?_ rfl
        simp only [Simulator.handleNodeEvent, hreq]
      | none =>
        refine .nothing _ (fun r' _ _ he => ?_) ?_ rfl
        · cases he
          exact AList.lookup_eq_none.mp hreq
        · simp only [Simulator.handleNodeEvent, hreq]
    | debug text => exact .nothing _ (fun _ _ _ he => by cases he) rfl rfl
  | _ =>
    obtain rfl := Option.some.inj hs
    exact .nothing _ (fun _ _ _ he => by cases he) rfl rfl

theorem Inv.step {event : Event} (h : j.Inv) (hs : j.step event = some j') : j'.Inv := by
  cases step_does hs with
  | issues text draws parsed r hparse hidle hzero hfresh hsim hissued =>
    refine ⟨by rw [hsim]; exact h.tables.assign hidle hzero hfresh, fun k req hk => ?_⟩
    rw [hsim] at hk
    unfold Simulator.assign at hk
    rw [hissued, List.lookup_cons]
    by_cases hkr : k = r
    · rw [hkr, AList.lookup_insert] at hk
      rw [hkr, ← Option.some.inj hk, beq_self_eq_true]
      rfl
    · rw [AList.lookup_insert_ne hkr] at hk
      rw [beq_false_of_ne hkr]
      exact h.last k req hk
  | result r allowed error req hreq hsim hissued =>
    refine ⟨by rw [hsim]; exact h.tables.remove hreq, fun k req' hk => ?_⟩
    rw [hsim] at hk
    unfold Simulator.remove at hk
    rw [hissued]
    by_cases hkr : k = r
    · rw [hkr, AList.lookup_erase] at hk
      cases hk
    · rw [AList.lookup_erase_ne hkr] at hk
      exact h.last k req' hk
  | nothing _ _ hsim hissued =>
    refine ⟨by rw [hsim]; exact h.tables, fun k req hk => ?_⟩
    rw [hsim] at hk
    rw [hissued]
    exact h.last k req hk

theorem run_inv {events : List Event} (hr : run step (start numPumps) events = some j) : j.Inv :=
  run_induct (fun _ _ _ h hs => Inv.step h hs) hr inv_start

/-- **Pump bookkeeping**: whatever lines, sends and results there were, the tables agree; a
    line that is not accepted or whose request cannot be sent leaves them as they were, and a
    result frees the pump that issued the request, or is unknown and changes nothing. -/
theorem pumps_booked {events : List Event} (hr : run step (start numPumps) events = some j) :
    j.station.simulator.Consistent ∧
    (∀ text draws sent j', j.step (.line text draws sent) = some j' →
      ¬ j.station.simulator.Accepts text ∨ sent = false →
      j'.station.simulator = j.station.simulator ∧ j'.issued = j.issued) ∧
    (∀ r allowed error j', j.step (.nodeMsg (.chargeResult r allowed error)) = some j' →
      if r ∈ j.station.simulator.requests then
        ∃ p, j.issued.lookup r = some p ∧
          j.station.simulator.Frees j'.station.simulator p r
      else j'.station.simulator = j.station.simulator) := by
  have hinv := run_inv hr
  refine ⟨hinv.tables.consistent, fun text draws sent j' hs hnot => ?_,
    fun r allowed error j' hs => ?_⟩
  · cases step_does hs with
    | issues _ _ parsed r hparse hidle hzero hfresh hsim hissued =>
      rcases hnot with hnot | hsent
      · exact absurd ⟨parsed, hparse, hidle⟩ hnot
      · cases hsent
    | nothing _ _ hsim hissued => exact ⟨hsim, hissued⟩
  · cases step_does hs with
    | result _ _ _ req hreq hsim hissued =>
      rw [if_pos (AList.lookup_isSome.mp (by rw [hreq]; rfl)), hsim]
      exact ⟨req.pumpId, hinv.last r req hreq, hinv.tables.frees hreq⟩
    | nothing _ hresult hsim hissued =>
      rw [if_neg (hresult r allowed error rfl)]
      exact hsim

local instance stationFromStr : FromStr Nat := ⟨parseUnsigned⟩

/-- Two pumps: a charge, a busy pump, a pump out of range, a charge that is not sent, an
    unknown result, the result of the first charge and the same again. -/
def twoPumps : List Event :=
  [.line " 0 1 10 50" [0, 7] true, .line "0 1 10 50" [8] true, .line "2 1 10 50" [] true,
    .line "1 1 11 20" [7, 9] false, .line "1 1 11 20" [9] true,
    .nodeMsg (.chargeResult 5 true none), .nodeMsg (.chargeResult 7 false none),
    .nodeMsg (.chargeResult 7 true none)]

theorem pumps_booked_example :
    ∃ j : Journal Nat 2, run step (start 2) twoPumps = some j ∧
      j.station.simulator.inFlightByPump.toList = [none, some 9] ∧
      j.station.simulator.Consistent := by
  have hrun : (run step (start 2 : Journal Nat 2) twoPumps).any (fun j =>
      decide (j.station.simulator.inFlightByPump.toList = [none, some 9])) = true := by
    decide +kernel
  obtain ⟨j, hj, hp⟩ := (Option.any_eq_true _ _).mp hrun
  exact ⟨j, hj, of_decide_eq_true hp, (pumps_booked hj).1⟩

end Journal

end YpfRuta.Station
