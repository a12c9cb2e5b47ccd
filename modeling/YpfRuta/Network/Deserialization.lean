/-
  How bytes become messages again (`common/src/network/serials/deserialization/`).

  Every reader takes what it needs from the front of its bytes and is handed what is
  left of a message from some offset on. A reader may return an error, and it panics
  when it slices past the end of its bytes.
-/
import YpfRuta.Network.Serialization
import YpfRuta.Lib.Utf8

namespace YpfRuta.Network

open Lib

/-- What ends a deserializer that has no value to return. -/
inductive Failure where
  | error (e : AppError)
  | panic
  deriving DecidableEq, Repr

/-- What a deserializer ends in. -/
abbrev Dsr := Except Failure

def invalidProtocol {β : Type} (details : String) : Dsr β :=
  .error (.error (.invalidProtocol details))

/-! ## Lengths -/

def OP_ID_SRL_LEN : Nat := 4
def SOCKET_ADDR_LEN : Nat := 6
def ACC_ID_SRL_LEN : Nat := 8
def CARD_ID_SRL_LEN : Nat := 8
def AMOUNT_SRL_LEN : Nat := 4
def OFFLINE_SRL_LEN : Nat := 1
def NODE_ID_SRL_LEN : Nat := 8
def MEMBER_SRL_LEN : Nat := NODE_ID_SRL_LEN + SOCKET_ADDR_LEN
def VEC_LEN_LEN : Nat := 8
def PER_CARD_SPENT_LEN : Nat := 8
def CARD_SPENT_LEN : Nat := CARD_ID_SRL_LEN + AMOUNT_SRL_LEN
def LIMIT_CHECK_ERR_LEN : Nat := 1
def CHARGE_SRL_LEN : Nat := ACC_ID_SRL_LEN + CARD_ID_SRL_LEN + AMOUNT_SRL_LEN + OFFLINE_SRL_LEN
def LIMIT_ACC_SRL_LEN : Nat := ACC_ID_SRL_LEN + AMOUNT_SRL_LEN
def LIMIT_CARD_SRL_LEN : Nat := ACC_ID_SRL_LEN + CARD_ID_SRL_LEN + AMOUNT_SRL_LEN
def ACC_SNAPSHOT_SRL_LEN : Nat := ACC_ID_SRL_LEN + AMOUNT_SRL_LEN + AMOUNT_SRL_LEN
def CARD_SNAPSHOT_SRL_LEN : Nat :=
  ACC_ID_SRL_LEN + CARD_ID_SRL_LEN + AMOUNT_SRL_LEN + AMOUNT_SRL_LEN

/-! ## Slices -/

/-- `payload[0]`. -/
def firstByte : List UInt8 → Dsr UInt8
  | b :: _ => .ok b
  | [] => .error .panic

/-- `payload[0..len]`. -/
def sliceTo (len : Nat) (payload : List UInt8) : Dsr (List UInt8) :=
  if len ≤ payload.length then .ok (payload.take len) else .error .panic

/-- `payload[ptr..]`. -/
def sliceFrom (ptr : Nat) (payload : List UInt8) : Dsr (List UInt8) :=
  if ptr ≤ payload.length then .ok (payload.drop ptr) else .error .panic

/-- `text[ptr..]`, which panics inside a character. -/
def textFrom (ptr : Nat) (text : String) : Dsr String := do
  match fromUtf8 (← sliceFrom ptr (utf8Bytes text)) with
  | .ok rest => .ok rest
  | .error _ => .error .panic

/-- `MEMBER_SRL_LEN * members_len`, as a `usize`. -/
def mulUsize (a b : Nat) : Dsr Nat :=
  if a * b < 2 ^ 64 then .ok (a * b) else .error .panic

/-- The loop that reads `len` items of `itemLen` bytes each from `ptr` on: the items,
    and where it stops. -/
def deserializeItems {β : Type} (item : List UInt8 → Dsr β) (itemLen : Nat)
    (payload : List UInt8) : Nat → Nat → Dsr (List β × Nat)
  | 0, ptr => .ok ([], ptr)
  | len + 1, ptr => do
    let x ← item (← sliceFrom ptr payload)
    let (xs, ptr) ← deserializeItems item itemLen payload len (ptr + itemLen)
    return (x :: xs, ptr)

/-! ## Numbers and addresses -/

def deserializeU16 (payload : List UInt8) : Dsr UInt16 := do
  return UInt16.ofNat (fromBeBytes (← sliceTo 2 payload))

def deserializeU32 (payload : List UInt8) : Dsr UInt32 := do
  return UInt32.ofNat (fromBeBytes (← sliceTo 4 payload))

def deserializeU64 (payload : List UInt8) : Dsr UInt64 := do
  return UInt64.ofNat (fromBeBytes (← sliceTo 8 payload))

def deserializeVecLen (payload : List UInt8) : Dsr Nat := do
  return fromBeBytes (← sliceTo VEC_LEN_LEN payload)

def deserializeAccountId (payload : List UInt8) : Dsr AccountId := deserializeU64 payload
def deserializeCardId (payload : List UInt8) : Dsr CardId := deserializeU64 payload
def deserializeAmount (payload : List UInt8) : Dsr F32 := deserializeU32 payload

/-- No float but `-1.0` itself is equal to it. -/
def deserializeLimit (payload : List UInt8) : Dsr (Option F32) := do
  let limit ← deserializeAmount payload
  return if limit = NO_LIMIT then none else some limit

def deserializeSocketAddressSrl (payload : List UInt8) : Dsr SocketAddr := do
  if payload.length < SOCKET_ADDR_LEN then
    invalidProtocol "not enough bytes to deserialize socket_address_srl"
  else
    let ip ← deserializeU32 payload
    let port ← deserializeU16 (← sliceFrom 4 payload)
    return .v4 ip port

def deserializeOpId (payload : List UInt8) : Dsr UInt32 :=
  if payload.length < OP_ID_SRL_LEN then
    invalidProtocol "not enough bytes to deserialize op_id"
  else deserializeU32 payload

/-! ## Snapshots -/

def deserializeAccountSnapshot (payload : List UInt8) : Dsr (AccountSnapshot F32) := do
  let ptr := 0
  let accountId ← deserializeAccountId (← sliceFrom ptr payload)
  let ptr := ptr + ACC_ID_SRL_LEN
  let limit ← deserializeLimit (← sliceFrom ptr payload)
  let ptr := ptr + AMOUNT_SRL_LEN
  let consumed ← deserializeAmount (← sliceFrom ptr payload)
  return ⟨accountId, limit, consumed⟩

def deserializeCardSnapshot (payload : List UInt8) : Dsr (CardSnapshot F32) := do
  let ptr := 0
  let accountId ← deserializeAccountId (← sliceFrom ptr payload)
  let ptr := ptr + ACC_ID_SRL_LEN
  let cardId ← deserializeCardId (← sliceFrom ptr payload)
  let ptr := ptr + CARD_ID_SRL_LEN
  let limit ← deserializeLimit (← sliceFrom ptr payload)
  let ptr := ptr + AMOUNT_SRL_LEN
  let consumed ← deserializeAmount (← sliceFrom ptr payload)
  return ⟨accountId, cardId, limit, consumed⟩

/-- `TryFrom<Vec<u8>> for DatabaseSnapshot`. -/
def deserializeDatabaseSnapshot (payload : List UInt8) : Dsr (DatabaseSnapshot F32) := do
  let ptr := 0
  let addr ← deserializeSocketAddressSrl (← sliceFrom ptr payload)
  let ptr := ptr + SOCKET_ADDR_LEN
  let accountsLen ← deserializeVecLen (← sliceFrom ptr payload)
  let ptr := ptr + VEC_LEN_LEN
  let (accounts, ptr) ←
    deserializeItems deserializeAccountSnapshot ACC_SNAPSHOT_SRL_LEN payload accountsLen ptr
  let cardsLen ← deserializeVecLen (← sliceFrom ptr payload)
  let ptr := ptr + VEC_LEN_LEN
  let (cards, _) ←
    deserializeItems deserializeCardSnapshot CARD_SNAPSHOT_SRL_LEN payload cardsLen ptr
  return ⟨addr, accounts, cards⟩

/-! ## Operations -/

def deserializeReplaceDatabaseOperation (payload : List UInt8) : Dsr (Operation F32) := do
  return .replaceDatabase (← deserializeDatabaseSnapshot payload)

def deserializeGetDatabaseOperation (payload : List UInt8) : Dsr (Operation F32) := do
  return .getDatabase (← deserializeSocketAddressSrl payload)

def deserializeFromOfflineStation (payload : List UInt8) : Dsr Bool := do
  let offlineSrl ← sliceTo OFFLINE_SRL_LEN payload
  if offlineSrl = [TRUE] then return true
  else if offlineSrl = [FALSE] then return false
  else invalidProtocol "invalid bytes for `from_offline_station` attribute in charge operation"

def deserializeChargeOperation (payload : List UInt8) : Dsr (Operation F32) := do
  if payload.length ≠ CHARGE_SRL_LEN then
    invalidProtocol "not enough bytes to deserialize charge operation"
  else
    let ptr := 0
    let accountId ← deserializeAccountId (← sliceFrom ptr payload)
    let ptr := ptr + ACC_ID_SRL_LEN
    let cardId ← deserializeCardId (← sliceFrom ptr payload)
    let ptr := ptr + CARD_ID_SRL_LEN
    let amount ← deserializeAmount (← sliceFrom ptr payload)
    let ptr := ptr + AMOUNT_SRL_LEN
    let fromOfflineStation ← deserializeFromOfflineStation (← sliceFrom ptr payload)
    return .charge accountId cardId amount fromOfflineStation

def deserializeLimitAccountOperation (payload : List UInt8) : Dsr (Operation F32) := do
  if payload.length ≠ LIMIT_ACC_SRL_LEN then
    invalidProtocol "not enough bytes to deserialize limit account operation"
  else
    let ptr := 0
    let accountId ← deserializeAccountId (← sliceFrom ptr payload)
    let ptr := ptr + ACC_ID_SRL_LEN
    let newLimit ← deserializeLimit (← sliceFrom ptr payload)
    return .limitAccount accountId newLimit

def deserializeLimitCardOperation (payload : List UInt8) : Dsr (Operation F32) := do
  if payload.length ≠ LIMIT_CARD_SRL_LEN then
    invalidProtocol "not enough bytes to deserialize limit card operation"
  else
    let ptr := 0
    let accountId ← deserializeAccountId (← sliceFrom ptr payload)
    let ptr := ptr + ACC_ID_SRL_LEN
    let cardId ← deserializeCardId (← sliceFrom ptr payload)
    let ptr := ptr + CARD_ID_SRL_LEN
    let newLimit ← deserializeLimit (← sliceFrom ptr payload)
    return .limitCard accountId cardId newLimit

def deserializeQueryAccountOperation (payload : List UInt8) : Dsr (Operation F32) := do
  if payload.length ≠ ACC_ID_SRL_LEN then
    invalidProtocol "not enough bytes to deserialize query account operation"
  else
    let accountId ← deserializeAccountId (← sliceFrom 0 payload)
    return .accountQuery accountId

/-- The period of a bill: its length byte is decoded as text along with it, and then
    cut off. -/
def deserializePeriod (periodBytes : List UInt8) : Dsr (Option String) :=
  let byteOfLenSize := 1
  match fromUtf8 periodBytes with
  | .ok s => if s = "\x00" then .ok none else return some (← textFrom byteOfLenSize s)
  | .error e =>
    invalidProtocol s!"failed to deserialize period string in bill operation: {e.text}"

def deserializeBillOperation (payload : List UInt8) : Dsr (Operation F32) := do
  if payload.length < ACC_ID_SRL_LEN then
    invalidProtocol "not enough bytes to deserialize bill operation"
  else
    let ptr := 0
    let accountId ← deserializeAccountId (← sliceFrom ptr payload)
    let ptr := ptr + ACC_ID_SRL_LEN
    if payload.length > ptr then
      return .bill accountId (← deserializePeriod (← sliceFrom ptr payload))
    else return .bill accountId none

/-- `TryFrom<&[u8]> for Operation`. -/
def deserializeOperation (payload : List UInt8) : Dsr (Operation F32) := do
  let opType ← firstByte payload
  let rest ← sliceFrom 1 payload
  if opType = OP_TYPE_CHARGE then deserializeChargeOperation rest
  else if opType = OP_TYPE_LIMIT_ACCOUNT then deserializeLimitAccountOperation rest
  else if opType = OP_TYPE_LIMIT_CARD then deserializeLimitCardOperation rest
  else if opType = OP_TYPE_QUERY_ACCOUNT then deserializeQueryAccountOperation rest
  else if opType = OP_TYPE_BILL then deserializeBillOperation rest
  else if opType = OP_GET_DATABASE then deserializeGetDatabaseOperation rest
  else if opType = OP_REPLACE_DATABASE then deserializeReplaceDatabaseOperation rest
  else invalidProtocol s!"unknown operation type {opType}"

/-! ## Results -/

def deserializeCardSpent (payload : List UInt8) : Dsr (CardId × F32) := do
  let ptr := 0
  let cardId ← deserializeCardId (← sliceFrom ptr payload)
  let ptr := ptr + CARD_ID_SRL_LEN
  let amount ← deserializeAmount (← sliceFrom ptr payload)
  return (cardId, amount)

def deserializeAccountQueryResult (payload : List UInt8) : Dsr (OperationResult F32) := do
  let ptr := 0
  let accountId ← deserializeAccountId (← sliceFrom ptr payload)
  let ptr := ptr + ACC_ID_SRL_LEN
  let totalSpent ← deserializeAmount (← sliceFrom ptr payload)
  let ptr := ptr + AMOUNT_SRL_LEN
  let perCardSpentLen ← deserializeVecLen (← sliceFrom ptr payload)
  let ptr := ptr + PER_CARD_SPENT_LEN
  let (perCardSpent, _) ←
    deserializeItems deserializeCardSpent CARD_SPENT_LEN payload perCardSpentLen ptr
  return .accountQuery ⟨accountId, totalSpent, perCardSpent⟩

def deserializeLimitCheckError (payload : List UInt8) : Dsr LimitCheckError := do
  if payload.length < LIMIT_CHECK_ERR_LEN then
    invalidProtocol s!"not enough bytes to deserialize limit_check_error: {payload}"
  else
    let code ← firstByte payload
    if code = ACC_LIMIT_EXCEEDED then return .accountLimitExceeded
    else if code = CARD_LIMIT_EXCEEDED then return .cardLimitExceeded
    else invalidProtocol s!"unknown limit_check_error: {code}"

def deserializeLimitUpdateError (payload : List UInt8) : Dsr LimitUpdateError := do
  if (← firstByte payload) = BELOW_CURRENT_USAGE then return .belowCurrentUsage
  else invalidProtocol s!"unknown limit_update_error: {payload}"

def deserializeVerifyError (payload : List UInt8) : Dsr VerifyError := do
  let code ← firstByte payload
  if code = CHARGE_LIMIT_ERR then
    return .chargeLimit (← deserializeLimitCheckError (← sliceFrom 1 payload))
  else if code = LIMIT_UPDATE_ERR then
    return .limitUpdate (← deserializeLimitUpdateError (← sliceFrom 1 payload))
  else invalidProtocol s!"unknown verify error code: {payload}"

/-- A rejected card limit is left to a `todo!()`. -/
def deserializeLimitCardResult (payload : List UInt8) : Dsr (OperationResult F32) := do
  let code ← firstByte payload
  if code = OK then return .limitCard .ok
  else if code = ERR then .error .panic
  else invalidProtocol s!"unknown limit card result {code}"

def deserializeLimitAccountResult (payload : List UInt8) : Dsr (OperationResult F32) := do
  let code ← firstByte payload
  if code = OK then return .limitAccount .ok
  else if code = ERR then
    return .limitAccount (.failed (← deserializeVerifyError (← sliceFrom 1 payload)))
  else invalidProtocol s!"unknown limit card result {code}"

def deserializeChargeResult (payload : List UInt8) : Dsr (OperationResult F32) := do
  let code ← firstByte payload
  if code = OK then return .charge .ok
  else if code = ERR then
    return .charge (.failed (← deserializeVerifyError (← sliceFrom 1 payload)))
  else invalidProtocol s!"unknown charge result {code}"

/-- `TryFrom<&[u8]> for OperationResult`. -/
def deserializeOperationResult (payload : List UInt8) : Dsr (OperationResult F32) := do
  let resultType ← firstByte payload
  let rest ← sliceFrom 1 payload
  if resultType = CHARGE_RESULT then deserializeChargeResult rest
  else if resultType = LIMIT_ACCOUNT_RESULT then deserializeLimitAccountResult rest
  else if resultType = LIMIT_CARD_RESULT then deserializeLimitCardResult rest
  else if resultType = ACC_QUERY_RESULT then deserializeAccountQueryResult rest
  else invalidProtocol s!"unknown operation result type {resultType}"

/-! ## Messages -/

def deserializeCoordinatorMessage (payload : List UInt8) : Dsr (Message F32) := do
  let ptr := 0
  let leaderId ← deserializeU64 (← sliceFrom ptr payload)
  let ptr := ptr + NODE_ID_SRL_LEN
  let leaderAddr ← deserializeSocketAddressSrl (← sliceFrom ptr payload)
  return .coordinator leaderId leaderAddr

def deserializeElectionMessage (payload : List UInt8) : Dsr (Message F32) := do
  let ptr := 0
  let candidateId ← deserializeU64 (← sliceFrom ptr payload)
  let ptr := ptr + NODE_ID_SRL_LEN
  let candidateAddr ← deserializeSocketAddressSrl (← sliceFrom ptr payload)
  return .election candidateId candidateAddr

def deserializeElectionOkMessage (payload : List UInt8) : Dsr (Message F32) := do
  return .electionOk (← deserializeU64 payload)

def deserializeRoleQueryMessage (payload : List UInt8) : Dsr (Message F32) := do
  return .roleQuery (← deserializeSocketAddressSrl payload)

def deserializeResponseMessage (payload : List UInt8) : Dsr (Message F32) := do
  let ptr := 0
  let reqId ← deserializeOpId (← sliceFrom ptr payload)
  let ptr := ptr + OP_ID_SRL_LEN
  let opResult ← deserializeOperationResult (← sliceFrom ptr payload)
  return .response reqId opResult

def deserializeRequestMessage (payload : List UInt8) : Dsr (Message F32) := do
  let ptr := 0
  let opId ← deserializeOpId (← sliceFrom ptr payload)
  let ptr := ptr + OP_ID_SRL_LEN
  let addr ← deserializeSocketAddressSrl (← sliceFrom ptr payload)
  let ptr := ptr + SOCKET_ADDR_LEN
  let op ← deserializeOperation (← sliceFrom ptr payload)
  return .request opId op addr

def deserializeLogMessage (payload : List UInt8) : Dsr (Message F32) := do
  let ptr := 0
  let opId ← deserializeOpId (← sliceFrom ptr payload)
  let ptr := ptr + OP_ID_SRL_LEN
  let op ← deserializeOperation (← sliceFrom ptr payload)
  return .log opId op

def deserializeAckMessage (payload : List UInt8) : Dsr (Message F32) := do
  return .ack (← deserializeOpId (← sliceFrom 0 payload))

def deserializeMember (payload : List UInt8) : Dsr (NodeId × SocketAddr) := do
  let ptr := 0
  let id ← deserializeU64 payload
  let ptr := ptr + NODE_ID_SRL_LEN
  let addr ← deserializeSocketAddressSrl (← sliceFrom ptr payload)
  return (id, addr)

def deserializeClusterUpdateMessage (payload : List UInt8) : Dsr (Message F32) := do
  if payload.length < MEMBER_SRL_LEN then
    invalidProtocol "not enough bytes to deserialize op_id"
  else return .clusterUpdate (← deserializeMember payload)

def deserializeJoinMessage (payload : List UInt8) : Dsr (Message F32) := do
  return .join (← deserializeSocketAddressSrl payload)

def deserializeClusterViewMessage (payload : List UInt8) : Dsr (Message F32) := do
  let ptr := 0
  let membersLen ← deserializeVecLen (← sliceFrom ptr payload)
  if payload.length < (← mulUsize MEMBER_SRL_LEN membersLen) then
    invalidProtocol "not enough bytes to deserialize all members in cluster_view message"
  else
    let ptr := ptr + VEC_LEN_LEN
    let (members, ptr) ← deserializeItems deserializeMember MEMBER_SRL_LEN payload membersLen ptr
    let leaderAddr ← deserializeSocketAddressSrl (← sliceFrom ptr payload)
    let ptr := ptr + SOCKET_ADDR_LEN
    let database ← deserializeDatabaseSnapshot (← sliceFrom ptr payload)
    return .clusterView members leaderAddr database

/-- `TryFrom<Vec<u8>> for Message`, which knows no `RoleResponse`. -/
def deserializeMessage (payload : List UInt8) : Dsr (Message F32) := do
  let msgType ← firstByte payload
  let rest ← sliceFrom 1 payload
  if msgType = MSG_TYPE_REQUEST then deserializeRequestMessage rest
  else if msgType = MSG_TYPE_LOG then deserializeLogMessage rest
  else if msgType = MSG_TYPE_ACK then deserializeAckMessage rest
  else if msgType = MSG_TYPE_JOIN then deserializeJoinMessage rest
  else if msgType = MSG_TYPE_CLUSTER_VIEW then deserializeClusterViewMessage rest
  else if msgType = MSG_TYPE_CLUSTER_UPDATE then deserializeClusterUpdateMessage rest
  else if msgType = MSG_TYPE_RESPONSE then deserializeResponseMessage rest
  else if msgType = MSG_TYPE_ROLE_QUERY then deserializeRoleQueryMessage rest
  else if msgType = MSG_TYPE_COORDINATOR then deserializeCoordinatorMessage rest
  else if msgType = MSG_TYPE_ELECTION then deserializeElectionMessage rest
  else if msgType = MSG_TYPE_ELECTION_OK then deserializeElectionOkMessage rest
  else
    .error (.error (.invalidData
      s!"unknown node message type {msgType}, with contents {payload}"))

end YpfRuta.Network
