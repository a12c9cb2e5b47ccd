/-
  The pump simulator of a station (`common/src/station.rs`): it turns lines typed by an
  operator into charge requests for the node and takes the node's results back.

  The request ids it draws and whether a send to the node goes through are inputs. A line
  comes without its line break.
-/
import Mathlib.Data.List.AList
import Mathlib.Data.List.DropRight
import YpfRuta.Common.Message

namespace YpfRuta.Station

/-- How an amount is read out of text. -/
class FromStr (α : Type) where
  fromStr : String → Option α

/-- Internal representation of a pending pump request. -/
structure PumpRequest (α : Type) (numPumps : Nat) where
  pumpId : Fin numPumps
  accountId : AccountId
  cardId : CardId
  amount : α
  requestId : ReqId
  deriving DecidableEq

/-- Parsed user command before assigning a `requestId`. -/
structure ParsedCommand (α : Type) (numPumps : Nat) where
  pumpId : Fin numPumps
  accountId : AccountId
  cardId : CardId
  amount : α
  deriving DecidableEq

variable {α : Type} {numPumps : Nat}

/-! ## Text -/

/-- Unicode's `White_Space`. -/
def isWhitespace (c : Char) : Bool :=
  (0x09 ≤ c.toNat && c.toNat ≤ 0x0D) || c.toNat = 0x20 || c.toNat = 0x85 || c.toNat = 0xA0 ||
    c.toNat = 0x1680 || (0x2000 ≤ c.toNat && c.toNat ≤ 0x200A) || c.toNat = 0x2028 ||
    c.toNat = 0x2029 || c.toNat = 0x202F || c.toNat = 0x205F || c.toNat = 0x3000

def trim (text : String) : String :=
  String.ofList ((text.toList.dropWhile isWhitespace).rdropWhile isWhitespace)

def splitWhitespace (text : String) : List String :=
  ((text.toList.splitOnP isWhitespace).filter fun part => part ≠ []).map String.ofList

def eqIgnoreAsciiCase (a b : String) : Bool := a.map Char.toLower = b.map Char.toLower

/-- One more digit of a number below `bound`. -/
def pushDigit (bound value : Nat) (c : Char) : Option Nat :=
  if c.isDigit then
    let value := value * 10 + (c.toNat - '0'.toNat)
    if value < bound then some value else none
  else none

/-- `str::parse` for an unsigned number of 64 bits. -/
def parseUnsigned (text : String) : Option Nat :=
  let digits :=
    match text.toList with
    | '+' :: digits => digits
    | digits => digits
  if digits = [] then none else digits.foldlM (pushDigit (2 ^ 64)) 0

/-! ## Commands -/

/-- `parse().map_err(..)?` of one part of a command. -/
def parsePart {β : Type} (parse : String → Option β) (name part : String) : Except String β :=
  match parse part with
  | some value => .ok value
  | none => .error s!"Invalid {name}: '{part}'"

/-- Parse a user command line. -/
def parseCommand [FromStr α] (line : String) (numPumps : Nat) :
    Except String (ParsedCommand α numPumps) :=
  match splitWhitespace line with
  | [pumpId, accountId, cardId, amount] => do
    let pumpId ← parsePart parseUnsigned "pump_id" pumpId
    if h : pumpId < numPumps then
      let accountId ← parsePart parseUnsigned "account_id" accountId
      let cardId ← parsePart parseUnsigned "card_id" cardId
      let amount ← parsePart FromStr.fromStr "amount" amount
      .ok {
        pumpId := ⟨pumpId, h⟩
        accountId := UInt64.ofNat accountId
        cardId := UInt64.ofNat cardId
        amount := amount }
    else .error s!"pump_id {pumpId} out of range. Valid range: 0..={numPumps - 1}"
  | parts =>
    .error s!"Invalid command format. Expected: <pump_id> <account_id> <card_id> <amount>, got {parts.length} tokens"

/-- The request that is stored for a command. -/
def ParsedCommand.request (parsed : ParsedCommand α numPumps) (requestId : ReqId) :
    PumpRequest α numPumps where
  pumpId := parsed.pumpId
  accountId := parsed.accountId
  cardId := parsed.cardId
  amount := parsed.amount
  requestId := requestId

/-- The tables of the simulator. A pump is idle (`none`) or waits for a request. -/
structure Simulator (α : Type) (numPumps : Nat) where
  inFlightByPump : Vector (Option ReqId) numPumps
  requests : AList fun _ : ReqId => PumpRequest α numPumps
  deriving DecidableEq

namespace Simulator

def start (numPumps : Nat) : Simulator α numPumps where
  inFlightByPump := Vector.replicate numPumps none
  requests := ∅

/-- The loop that draws a request id, for the ids in `draws`. -/
def allocate (sim : Simulator α numPumps) (draws : List ReqId) : Option ReqId :=
  draws.find? fun candidate =>
    candidate ≠ 0 ∧ candidate ∉ sim.requests ∧ some candidate ∉ sim.inFlightByPump

/-- Handle a single user command. `none` when the draws hold no id that can be used. -/
def handleUserCommand [FromStr α] (sim : Simulator α numPumps) (line : String)
    (draws : List ReqId) : Option (Except String (Option ReqId) × Simulator α numPumps) :=
  match parseCommand line numPumps with
  | .error e => some (.error e, sim)
  | .ok parsed =>
    match sim.inFlightByPump[parsed.pumpId] with
    | some existingReq =>
      some (.error s!"Pump {parsed.pumpId} is busy with request_id {existingReq}. Wait for the result before sending another command.", sim)
    | none =>
      match sim.allocate draws with
      | none => none
      | some requestId =>
        some (.ok (some requestId), {
          inFlightByPump := sim.inFlightByPump.set parsed.pumpId (some requestId)
          requests := sim.requests.insert requestId {
            pumpId := parsed.pumpId
            accountId := parsed.accountId
            cardId := parsed.cardId
            amount := parsed.amount
            requestId := requestId } })

/-- An idle pump takes a request under an id that is not in use. -/
def assign (sim : Simulator α numPumps) (parsed : ParsedCommand α numPumps) (r : ReqId) :
    Simulator α numPumps where
  inFlightByPump := sim.inFlightByPump.set parsed.pumpId (some r)
  requests := sim.requests.insert r (parsed.request r)

/-- Free the first pump that waits for `reqId`. -/
def freeSlot (sim : Simulator α numPumps) (reqId : ReqId) : Simulator α numPumps :=
  match sim.inFlightByPump.finIdxOf? (some reqId) with
  | some pumpId => { sim with inFlightByPump := sim.inFlightByPump.set pumpId none }
  | none => sim

/-- Free the pump of a request and forget the request `requestId`. -/
def remove (sim : Simulator α numPumps) (requestId : ReqId) (pumpId : Fin numPumps) :
    Simulator α numPumps where
  inFlightByPump := sim.inFlightByPump.set pumpId none
  requests := sim.requests.erase requestId

/-- Handle a message coming from the node. -/
def handleNodeEvent (sim : Simulator α numPumps) : NodeToStationMsg → Simulator α numPumps
  | .chargeResult requestId _ _ =>
    match sim.requests.lookup requestId with
    | some req => sim.remove requestId req.pumpId
    | none => sim
  | .debug _ => sim

end Simulator

/-! ## The loop -/

/-- The simulator's task. `toNode` holds what its channel to the node took. -/
structure Loop (α : Type) (numPumps : Nat) where
  running : Bool
  simulator : Simulator α numPumps
  toNode : List (StationToNodeMsg α)

/-- What wakes the simulator. -/
inductive Event where
  | line (text : String) (draws : List ReqId) (sent : Bool)
  | readError
  | eof
  | nodeMsg (msg : NodeToStationMsg)
  | nodeGone

namespace Loop

/-- `run_station_simulator` up to its loop. -/
def start (numPumps : Nat) : Loop α numPumps where
  running := numPumps ≠ 0
  simulator := .start numPumps
  toNode := []

/-- `to_node_tx.send(msg)`. -/
def send (s : Loop α numPumps) (msg : StationToNodeMsg α) (sent : Bool) :
    Loop α numPumps :=
  if sent then { s with toNode := s.toNode ++ [msg] } else s

/-- Send the request just made to the node, or undo it. -/
def forward (s : Loop α numPumps) (reqId : ReqId) (sent : Bool) : Loop α numPumps :=
  match s.simulator.requests.lookup reqId with
  | none => { s with simulator := s.simulator.freeSlot reqId }
  | some req =>
    if sent then s.send (.chargeRequest req.accountId req.cardId req.amount req.requestId) true
    else { s with simulator := s.simulator.remove req.requestId req.pumpId }

def handleCommand [FromStr α] (s : Loop α numPumps) (line : String) (draws : List ReqId)
    (sent : Bool) : Option (Loop α numPumps) :=
  match s.simulator.handleUserCommand line draws with
  | none => none
  | some (.ok (some reqId), sim) => some ({ s with simulator := sim }.forward reqId sent)
  | some (.ok none, sim) => some { s with simulator := sim }
  | some (.error _, sim) => some { s with simulator := sim }

/-- A line of the operator. -/
def handleLine [FromStr α] (s : Loop α numPumps) (text : String) (draws : List ReqId)
    (sent : Bool) : Option (Loop α numPumps) :=
  let line := trim text
  if line.isEmpty then some s
  else if eqIgnoreAsciiCase line "quit" || eqIgnoreAsciiCase line "exit" then
    some { s with running := false }
  else if eqIgnoreAsciiCase line "help" then some s
  else if eqIgnoreAsciiCase line "disconnect" then some (s.send .disconnectNode sent)
  else if eqIgnoreAsciiCase line "connect" then some (s.send .connectNode sent)
  else s.handleCommand line draws sent

/-- One round of the loop. -/
def step [FromStr α] (s : Loop α numPumps) (event : Event) : Option (Loop α numPumps) :=
  if s.running then
    match event with
    | .line text draws sent => s.handleLine text draws sent
    | .readError => some s
    | .eof => some { s with running := false }
    | .nodeMsg msg => some { s with simulator := s.simulator.handleNodeEvent msg }
    | .nodeGone => some { s with running := false }
  else none

end Loop

end YpfRuta.Station
