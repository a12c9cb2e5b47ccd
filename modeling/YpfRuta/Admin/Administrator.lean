/-
  The administrator (`client/src/administrator/`): it turns lines typed by an operator into
  requests to one node, one at a time, and prints the result each of them gets.

  A session wakes up for a line while it has no request to wait for, and for what its
  connection received while it has one. Whether a send goes through is an input.
-/
import YpfRuta.Station.Amount

namespace YpfRuta.Admin

open Station (FromStr trim splitWhitespace eqIgnoreAsciiCase)

/-- What `{:.n}` prints of an amount. -/
class FixedFmt (α : Type) where
  toFixed : Nat → α → String

/-- The nearest whole number, and of two the even one. -/
def roundHalfEven (x : Amount) : Nat :=
  let whole := x.floor.toNat
  let rest := x - whole
  if rest < 1 / 2 ∨ (rest = 1 / 2 ∧ whole % 2 = 0) then whole else whole + 1

/-- The exact number, rounded to `n` digits behind the point. -/
def fixedAmount (n : Nat) (x : Amount) : String :=
  let digits := Nat.toDigits 10 (roundHalfEven (x.abs * 10 ^ n))
  let digits := List.replicate (n + 1 - digits.length) '0' ++ digits
  let point := if n = 0 then [] else '.' :: digits.drop (digits.length - n)
  (if x < 0 then "-" else "") ++ String.ofList (digits.take (digits.length - n) ++ point)

/-- Exact amounts as they are printed. -/
@[reducible] def amountFixedFmt : FixedFmt Amount := ⟨fixedAmount⟩

/-- High-level administrator commands. -/
inductive AdminCommand (α : Type) where
  | limitAccount (accountId : AccountId) (amount : α)
  | limitCard (accountId : AccountId) (cardId : CardId) (amount : α)
  | accountQuery (accountId : AccountId)
  | bill (accountId : AccountId) (period : Option String)
  deriving DecidableEq, Repr

structure Administrator where
  bindAddr : SocketAddr
  targetNode : SocketAddr
  accountId : AccountId
  nextReqId : ReqId
  deriving DecidableEq

variable {α : Type}

/-! ## Lines -/

/-- One more digit of a `u64`, or what `ParseIntError` says. -/
def pushDigit (value : Nat) (c : Char) : Except String Nat :=
  if c.isDigit then
    let value := value * 10 + (c.toNat - '0'.toNat)
    if value < 2 ^ 64 then .ok value else .error "number too large to fit in target type"
  else .error "invalid digit found in string"

/-- `str::parse::<u64>`. -/
def parseU64 (text : String) : Except String UInt64 :=
  if text.isEmpty then .error "cannot parse integer from empty string"
  else
    let digits :=
      match text.toList with
      | '+' :: digits => digits
      | digits => digits
    if digits = [] then .error "invalid digit found in string"
    else (digits.foldlM pushDigit 0).map UInt64.ofNat

/-- `str::parse::<f32>` of a text that is not empty. -/
def parseF32 [FromStr α] (text : String) : Except String α :=
  match FromStr.fromStr text with
  | some value => .ok value
  | none => .error "invalid float literal"

/-- `parse().map_err(..)?` of one argument. -/
def parseArg {β : Type} (parse : String → Except String β) (name arg : String) :
    Except String β :=
  (parse arg).mapError fun e => s!"invalid {name} '{arg}': {e}"

/-- Parse a single line into a command for the account `accountId`. -/
def parseLineToCommand [FromStr α] (line : String) (accountId : AccountId) :
    Except String (AdminCommand α) :=
  match splitWhitespace line with
  | [] => .error "empty line"
  | "limit-account" :: args =>
    match args with
    | [amount] => do
      let amount ← parseArg parseF32 "amount" amount
      .ok (.limitAccount accountId amount)
    | _ => .error "Usage: limit-account <amount>"
  | "limit-card" :: args =>
    match args with
    | [cardId, amount] => do
      let cardId ← parseArg parseU64 "card_id" cardId
      let amount ← parseArg parseF32 "amount" amount
      .ok (.limitCard accountId cardId amount)
    | _ => .error "Usage: limit-card <card_id> <amount>"
  | "account-query" :: args =>
    match args with
    | [] => .ok (.accountQuery accountId)
    | _ => .error "Usage: account-query"
  | "bill" :: args =>
    match args with
    | [] => .ok (.bill accountId none)
    | [period] => .ok (.bill accountId (some period))
    | _ => .error "Usage: bill [period]"
  | other :: _ =>
    .error s!"unknown command '{other}'. Type 'help' to see available commands."

/-! ## Requests and results -/

namespace Administrator

def new (bindAddr targetNode : SocketAddr) (accountId : AccountId) : Administrator where
  bindAddr := bindAddr
  targetNode := targetNode
  accountId := accountId
  nextReqId := 1

/-- An amount that is not positive clears the limit. -/
def limitOf [Zero α] [LT α] [DecidableLT α] (amount : α) : Option α :=
  if amount > 0 then some amount else none

/-- Map a command to its operation. `none` is a failed `assert_eq!` on the account. -/
def buildOperation [Zero α] [LT α] [DecidableLT α] (self : Administrator) :
    AdminCommand α → Option (Operation α)
  | .limitAccount accountId amount =>
    if accountId = self.accountId then some (.limitAccount accountId (limitOf amount)) else none
  | .limitCard accountId cardId amount =>
    if accountId = self.accountId then some (.limitCard accountId cardId (limitOf amount))
    else none
  | .accountQuery accountId => some (.accountQuery accountId)
  | .bill accountId period => some (.bill accountId period)

end Administrator

def describeVerifyError : VerifyError → String
  | .chargeLimit .cardLimitExceeded => "card limit exceeded"
  | .chargeLimit .accountLimitExceeded => "account limit exceeded"
  | .limitUpdate .belowCurrentUsage => "new limit is below current usage"

/-- What is printed of a limit change. -/
def describeLimit (name : String) : LimitResult → String
  | .ok => s!"{name}: OK"
  | .failed err => s!"{name}: ERROR - {describeVerifyError err}"

/-- The lines printed of the cards of an account, by card id. -/
def describeCards [FixedFmt α] (perCardSpent : List (CardId × α)) : List String :=
  let perCardSpent := perCardSpent.mergeSort fun a b => a.1 ≤ b.1
  if perCardSpent.isEmpty then ["  no per-card spending recorded"]
  else perCardSpent.map fun (cardId, spent) =>
    s!"  card_id={cardId} spent={FixedFmt.toFixed 2 spent}"

/-- The lines printed of a result. `none` is the `panic!` on a result of the database. -/
def handleOpResult [FixedFmt α] : OperationResult α → Option (List String)
  | .charge .ok => some ["CHARGE: OK"]
  | .charge (.failed err) => some [s!"CHARGE: ERROR - {describeVerifyError err}"]
  | .limitAccount res => some [describeLimit "LIMIT_ACCOUNT" res]
  | .limitCard res => some [describeLimit "LIMIT_CARD" res]
  | .accountQuery res =>
    some (["ACCOUNT_QUERY: OK", s!"  account_id={res.accountId}",
      s!"  total_spent={FixedFmt.toFixed 2 res.totalSpent}"] ++ describeCards res.perCardSpent)
  | .databaseSnapshot _ => none
  | .replaceDatabase => none

/-! ## The session -/

inductive Phase where
  | prompt
  /-- `handle_command` waits for the response to its request. -/
  | waiting (reqId : ReqId)
  | exited
  | panicked
  deriving DecidableEq

/-- A session of the administrator. `sent` holds the requests its connection took,
    `received` what it received, and `shown` each result it printed, under the id of the
    request it had waited for. -/
structure Session (α : Type) where
  admin : Administrator
  phase : Phase
  sent : List (SocketAddr × Message α)
  received : List (Message α)
  shown : List (ReqId × OperationResult α)
  stdout : List String

/-- What wakes a session. -/
inductive Event (α : Type) where
  | line (text : String) (sent : Bool)
  | readError
  | received (msg : Except AppError (Message α))

namespace Session

def start (admin : Administrator) : Session α where
  admin := admin
  phase := .prompt
  sent := []
  received := []
  shown := []
  stdout := []

/-- `handle_command` up to the wait for the response. A failed send ends it. -/
def handleCommand [Zero α] [LT α] [DecidableLT α] (s : Session α) (cmd : AdminCommand α)
    (sent : Bool) : Session α :=
  match s.admin.buildOperation cmd with
  | none => { s with phase := .panicked }
  | some op =>
    let reqId := s.admin.nextReqId
    let s := { s with admin := { s.admin with nextReqId := reqId + 1 } }
    if sent then
      { s with
        phase := .waiting reqId
        sent := s.sent ++ [(s.admin.targetNode, .request reqId op s.admin.bindAddr)] }
    else s

/-- A line of the operator. -/
def handleLine [FromStr α] [Zero α] [LT α] [DecidableLT α] (s : Session α) (text : String)
    (sent : Bool) : Session α :=
  let line := trim text
  if line.isEmpty then s
  else if eqIgnoreAsciiCase line "exit" || eqIgnoreAsciiCase line "quit" then
    { s with phase := .exited }
  else if eqIgnoreAsciiCase line "help" then s
  else
    match parseLineToCommand line s.admin.accountId with
    | .ok cmd => s.handleCommand cmd sent
    | .error _ => s

/-- What the wait for the response to `reqId` receives. -/
def handleReceived [FixedFmt α] (s : Session α) (reqId : ReqId) : Message α → Session α
  | .response r opResult =>
    if r = reqId then
      match handleOpResult opResult with
      | some lines =>
        { s with
          phase := .prompt
          shown := s.shown ++ [(reqId, opResult)]
          stdout := s.stdout ++ lines }
      | none => { s with phase := .panicked }
    else s
  | _ => s

def step [FromStr α] [FixedFmt α] [Zero α] [LT α] [DecidableLT α] (s : Session α)
    (event : Event α) : Option (Session α) :=
  match s.phase, event with
  | .prompt, .line text sent => some (s.handleLine text sent)
  | .prompt, .readError => some { s with phase := .exited }
  | .waiting reqId, .received (.ok msg) =>
    some ({ s with received := s.received ++ [msg] }.handleReceived reqId msg)
  -- the error ends the command, and the session goes on
  | .waiting _, .received (.error _) => some { s with phase := .prompt }
  | _, _ => none

end Session

end YpfRuta.Admin
