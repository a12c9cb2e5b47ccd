/-
  How messages become bytes (`common/src/network/serials/serialization/`), with the
  constants of `serials/protocol.rs`. Amounts are `f32` bit patterns and a list's
  length takes the eight bytes of a `usize`.

  Only IPv4 addresses can be serialized: any other one panics, so a serializer may
  end in a panic's message.
-/
import YpfRuta.Common.Message
import YpfRuta.Lib.Bytes

namespace YpfRuta.Network

open Lib

/-- An `f32`, as its bits. -/
abbrev F32 := UInt32

/-- The bytes of a value, or the panic its serializer ends in. -/
abbrev Srl := Except String (List UInt8)

/-! ## Protocol bytes -/

def HEARTBEAT_REQUEST : UInt8 := 0xFE
def HEARBEAT_REPLY : UInt8 := 0xFF
def MSG_TYPE_HANDLER_FIRST : UInt8 := 0x69

def MSG_TYPE_REQUEST : UInt8 := 0x00
def MSG_TYPE_LOG : UInt8 := 0x01
def MSG_TYPE_ACK : UInt8 := 0x02
def MSG_TYPE_JOIN : UInt8 := 0x03
def MSG_TYPE_CLUSTER_VIEW : UInt8 := 0x04
def MSG_TYPE_CLUSTER_UPDATE : UInt8 := 0x05
def MSG_TYPE_RESPONSE : UInt8 := 0x06
def MSG_TYPE_ROLE_QUERY : UInt8 := 0x07
def MSG_TYPE_ROLE_RESPONSE : UInt8 := 0x08
def MSG_TYPE_ELECTION : UInt8 := 0x09
def MSG_TYPE_ELECTION_OK : UInt8 := 0x0A
def MSG_TYPE_COORDINATOR : UInt8 := 0x0B

def NODE_ROLE_LEADER : UInt8 := 0x00
def NODE_ROLE_REPLICA : UInt8 := 0x01
def NODE_ROLE_CLIENT : UInt8 := 0x02

def OP_TYPE_CHARGE : UInt8 := 0x00
def OP_TYPE_LIMIT_CARD : UInt8 := 0x01
def OP_TYPE_LIMIT_ACCOUNT : UInt8 := 0x02
def OP_TYPE_QUERY_ACCOUNT : UInt8 := 0x03
def OP_TYPE_BILL : UInt8 := 0x06
def OP_GET_DATABASE : UInt8 := 0x07
def OP_REPLACE_DATABASE : UInt8 := 0x08

def CHARGE_RESULT : UInt8 := 0x00
def LIMIT_ACCOUNT_RESULT : UInt8 := 0x02
def LIMIT_CARD_RESULT : UInt8 := 0x03
def ACC_QUERY_RESULT : UInt8 := 0x04
def DATABASE_SNAPSHOT : UInt8 := 0x05
def REPLACE_DATABASE : UInt8 := 0x06

def LIMIT_UPDATE_ERR : UInt8 := 0x00
def CHARGE_LIMIT_ERR : UInt8 := 0x01
def BELOW_CURRENT_USAGE : UInt8 := 0x00
def CARD_LIMIT_EXCEEDED : UInt8 := 0x01
def ACC_LIMIT_EXCEEDED : UInt8 := 0x02

/-- `-1.0`. -/
def NO_LIMIT : F32 := 0xBF800000
def TRUE : UInt8 := 0x01
def FALSE : UInt8 := 0x00
def OK : UInt8 := 0x02
def ERR : UInt8 := 0x03

/-! ## Numbers and addresses -/

def u16Bytes (n : UInt16) : List UInt8 := toBeBytes 2 n.toNat
def u32Bytes (n : UInt32) : List UInt8 := toBeBytes 4 n.toNat
def u64Bytes (n : UInt64) : List UInt8 := toBeBytes 8 n.toNat

/-- The length of a vector, as a `usize`. -/
def usizeBytes (n : Nat) : List UInt8 := toBeBytes 8 n

def serializeSocketAddress : SocketAddr → Srl
  | .v4 ip port => .ok (u32Bytes ip ++ u16Bytes port)
  | .v6 .. => .error "only ipv4 is supported"

/-! ## Snapshots -/

def serializeAccountSnapshot (account : AccountSnapshot F32) : List UInt8 :=
  u64Bytes account.accountId ++ u32Bytes (account.limit.getD NO_LIMIT) ++
    u32Bytes account.consumed

def serializeCardSnapshot (card : CardSnapshot F32) : List UInt8 :=
  u64Bytes card.accountId ++ u64Bytes card.cardId ++ u32Bytes (card.limit.getD NO_LIMIT) ++
    u32Bytes card.consumed

def serializeDatabaseSnapshot (database : DatabaseSnapshot F32) : Srl := do
  let addr ← serializeSocketAddress database.addr
  return addr ++ usizeBytes database.accounts.length ++
    database.accounts.flatMap serializeAccountSnapshot ++ usizeBytes database.cards.length ++
    database.cards.flatMap serializeCardSnapshot

/-! ## Operations -/

def serializeChargeOperation (accountId : AccountId) (cardId : CardId) (amount : F32)
    (fromOfflineStation : Bool) : List UInt8 :=
  [OP_TYPE_CHARGE] ++ u64Bytes accountId ++ u64Bytes cardId ++ u32Bytes amount ++
    [if fromOfflineStation then TRUE else FALSE]

def serializeLimitAccountOperation (accountId : AccountId) (newLimit : Option F32) :
    List UInt8 :=
  [OP_TYPE_LIMIT_ACCOUNT] ++ u64Bytes accountId ++ u32Bytes (newLimit.getD NO_LIMIT)

def serializeLimitCardOperation (accountId : AccountId) (cardId : CardId)
    (newLimit : Option F32) : List UInt8 :=
  [OP_TYPE_LIMIT_CARD] ++ u64Bytes accountId ++ u64Bytes cardId ++
    u32Bytes (newLimit.getD NO_LIMIT)

def serializeQueryAccountOperation (accountId : AccountId) : List UInt8 :=
  [OP_TYPE_QUERY_ACCOUNT] ++ u64Bytes accountId

/-- A period's length is cut to one byte, its text is written whole. -/
def serializeBillOperation (accountId : AccountId) (period : Option String) : List UInt8 :=
  [OP_TYPE_BILL] ++ u64Bytes accountId ++
    match period with
    | some periodStr =>
      UInt8.ofNat periodStr.toUTF8.size :: periodStr.toUTF8.data.toList
    | none => [0]

def serializeGetDatabaseOperation (addr : SocketAddr) : Srl := do
  return [OP_GET_DATABASE] ++ (← serializeSocketAddress addr)

def serializeReplaceDatabaseOperation (snapshot : DatabaseSnapshot F32) : Srl := do
  return [OP_REPLACE_DATABASE] ++ (← serializeDatabaseSnapshot snapshot)

def serializeOperation : Operation F32 → Srl
  | .charge accountId cardId amount fromOfflineStation =>
    .ok (serializeChargeOperation accountId cardId amount fromOfflineStation)
  | .limitAccount accountId newLimit => .ok (serializeLimitAccountOperation accountId newLimit)
  | .limitCard accountId cardId newLimit =>
    .ok (serializeLimitCardOperation accountId cardId newLimit)
  | .accountQuery accountId => .ok (serializeQueryAccountOperation accountId)
  | .bill accountId period => .ok (serializeBillOperation accountId period)
  | .getDatabase addr => serializeGetDatabaseOperation addr
  | .replaceDatabase snapshot => serializeReplaceDatabaseOperation snapshot

/-! ## Results -/

def serializeVerifyError : VerifyError → List UInt8
  | .chargeLimit .cardLimitExceeded => [CHARGE_LIMIT_ERR, CARD_LIMIT_EXCEEDED]
  | .chargeLimit .accountLimitExceeded => [CHARGE_LIMIT_ERR, ACC_LIMIT_EXCEEDED]
  | .limitUpdate .belowCurrentUsage => [LIMIT_UPDATE_ERR, BELOW_CURRENT_USAGE]

def serializeChargeResult : ChargeResult → List UInt8
  | .ok => [CHARGE_RESULT, OK]
  | .failed error => [CHARGE_RESULT, ERR] ++ serializeVerifyError error

def serializeLimitResult : LimitResult → List UInt8
  | .ok => [OK]
  | .failed error => ERR :: serializeVerifyError error

def serializeCardSpent (cardSpent : CardId × F32) : List UInt8 :=
  u64Bytes cardSpent.1 ++ u32Bytes cardSpent.2

def serializeAccountQueryResult (result : AccountQueryResult F32) : List UInt8 :=
  [ACC_QUERY_RESULT] ++ u64Bytes result.accountId ++ u32Bytes result.totalSpent ++
    usizeBytes result.perCardSpent.length ++ result.perCardSpent.flatMap serializeCardSpent

def serializeOperationResult : OperationResult F32 → Srl
  | .charge result => .ok (serializeChargeResult result)
  | .limitAccount result => .ok (LIMIT_ACCOUNT_RESULT :: serializeLimitResult result)
  | .limitCard result => .ok (LIMIT_CARD_RESULT :: serializeLimitResult result)
  | .accountQuery result => .ok (serializeAccountQueryResult result)
  | .databaseSnapshot result => do
    return DATABASE_SNAPSHOT :: (← serializeDatabaseSnapshot result)
  | .replaceDatabase => .ok [REPLACE_DATABASE]

/-! ## Messages -/

def serializeMember (member : NodeId × SocketAddr) : Srl := do
  return u64Bytes member.1 ++ (← serializeSocketAddress member.2)

/-- The bytes of a vector's members, one after the other. -/
def serializeMembers : List (NodeId × SocketAddr) → Srl
  | [] => .ok []
  | member :: members => do
    return (← serializeMember member) ++ (← serializeMembers members)

def serializeRole : NodeRole → UInt8
  | .leader => NODE_ROLE_LEADER
  | .replica => NODE_ROLE_REPLICA
  | .station => NODE_ROLE_CLIENT

/-- `From<Message> for Vec<u8>`. -/
def serializeMessage : Message F32 → Srl
  | .request reqId op addr => do
    return [MSG_TYPE_REQUEST] ++ u32Bytes reqId ++ (← serializeSocketAddress addr) ++
      (← serializeOperation op)
  | .log opId op => do return [MSG_TYPE_LOG] ++ u32Bytes opId ++ (← serializeOperation op)
  | .ack opId => .ok ([MSG_TYPE_ACK] ++ u32Bytes opId)
  | .join addr => do return [MSG_TYPE_JOIN] ++ (← serializeSocketAddress addr)
  | .clusterView members leaderAddr database => do
    let leaderAddrSrl ← serializeSocketAddress leaderAddr
    let databaseSrl ← serializeDatabaseSnapshot database
    let membersSrl ← serializeMembers members
    return [MSG_TYPE_CLUSTER_VIEW] ++ usizeBytes members.length ++ membersSrl ++
      leaderAddrSrl ++ databaseSrl
  | .clusterUpdate newMember => do
    return [MSG_TYPE_CLUSTER_UPDATE] ++ (← serializeMember newMember)
  | .response reqId opResult => do
    return [MSG_TYPE_RESPONSE] ++ u32Bytes reqId ++ (← serializeOperationResult opResult)
  | .roleQuery addr => do return [MSG_TYPE_ROLE_QUERY] ++ (← serializeSocketAddress addr)
  | .roleResponse nodeId role =>
    .ok ([MSG_TYPE_ROLE_RESPONSE] ++ u64Bytes nodeId ++ [serializeRole role])
  | .coordinator leaderId leaderAddr => do
    return [MSG_TYPE_COORDINATOR] ++ u64Bytes leaderId ++ (← serializeSocketAddress leaderAddr)
  | .election candidateId candidateAddr => do
    return [MSG_TYPE_ELECTION] ++ u64Bytes candidateId ++
      (← serializeSocketAddress candidateAddr)
  | .electionOk responderId => .ok ([MSG_TYPE_ELECTION_OK] ++ u64Bytes responderId)

end YpfRuta.Network
