/-
  The sizes of serialized messages, and their type bytes.
-/
import YpfRuta.Network.Serialization

namespace YpfRuta.Network

open Lib

/-! ## Sizes -/

def databaseLen (database : DatabaseSnapshot F32) : Nat :=
  22 + 16 * database.accounts.length + 24 * database.cards.length

def periodLen : Option String → Nat
  | some periodStr => periodStr.toUTF8.size
  | none => 0

def operationLen : Operation F32 → Nat
  | .charge .. => 22
  | .limitAccount .. => 13
  | .limitCard .. => 21
  | .accountQuery _ => 9
  | .bill _ period => 10 + periodLen period
  | .getDatabase _ => 7
  | .replaceDatabase snapshot => 1 + databaseLen snapshot

def chargeResultLen : ChargeResult → Nat
  | .ok => 2
  | .failed _ => 4

def limitResultLen : LimitResult → Nat
  | .ok => 2
  | .failed _ => 4

def operationResultLen : OperationResult F32 → Nat
  | .charge result => chargeResultLen result
  | .limitAccount result => limitResultLen result
  | .limitCard result => limitResultLen result
  | .accountQuery result => 21 + 12 * result.perCardSpent.length
  | .databaseSnapshot result => 1 + databaseLen result
  | .replaceDatabase => 1

/-- The bytes a message takes. -/
def messageLen : Message F32 → Nat
  | .request _ op _ => 11 + operationLen op
  | .log _ op => 5 + operationLen op
  | .ack _ => 5
  | .join _ => 7
  | .clusterView members _ database => 15 + 14 * members.length + databaseLen database
  | .clusterUpdate _ => 15
  | .response _ opResult => 5 + operationResultLen opResult
  | .roleQuery _ => 7
  | .roleResponse .. => 10
  | .coordinator .. => 15
  | .election .. => 15
  | .electionOk _ => 9

section Lengths

variable {bytes : List UInt8}

theorem srl_bind {β : Type} {x : Except String β} {f : β → Srl} :
    x >>= f = .ok bytes ↔ ∃ a, x = .ok a ∧ f a = .ok bytes := by
  cases x with
  | error e =>
    constructor
    · intro h
      cases h
    · rintro ⟨a, ha, -⟩
      cases ha
  | ok a =>
    constructor
    · intro h
      exact ⟨a, rfl, h⟩
    · rintro ⟨b, hb, h⟩
      cases hb
      exact h

theorem length_flatMap_const {β : Type} {f : β → List UInt8} {n : Nat}
    (h : ∀ x, (f x).length = n) (xs : List β) : (xs.flatMap f).length = n * xs.length := by
  induction xs with
  | nil => rfl
  | cons x xs ih =>
    rw [List.flatMap_cons, List.length_append, h, ih, List.length_cons, Nat.mul_succ, Nat.add_comm]

@[simp] theorem u16Bytes_length (n : UInt16) : (u16Bytes n).length = 2 := toBeBytes_length ..

@[simp] theorem u32Bytes_length (n : UInt32) : (u32Bytes n).length = 4 := toBeBytes_length ..

@[simp] theorem u64Bytes_length (n : UInt64) : (u64Bytes n).length = 8 := toBeBytes_length ..

@[simp] theorem usizeBytes_length (n : Nat) : (usizeBytes n).length = 8 := toBeBytes_length ..

theorem socketAddress_length {addr : SocketAddr} (h : serializeSocketAddress addr = .ok bytes) :
    bytes.length = 6 := by
  cases addr with
  | v4 ip port =>
    cases h
    rw [List.length_append, u32Bytes_length, u16Bytes_length]
  | v6 ip port flowinfo scopeId => cases h

theorem database_length {database : DatabaseSnapshot F32}
    (h : serializeDatabaseSnapshot database = .ok bytes) :
    bytes.length = databaseLen database := by
  obtain ⟨addr, haddr, h⟩ := srl_bind.mp h
  cases h
  have haccounts : (database.accounts.flatMap serializeAccountSnapshot).length =
      16 * database.accounts.length :=
    length_flatMap_const (fun a => by simp [serializeAccountSnapshot]) _
  have hcards : (database.cards.flatMap serializeCardSnapshot).length =
      24 * database.cards.length :=
    length_flatMap_const (fun c => by simp [serializeCardSnapshot]) _
  simp only [List.length_append, usizeBytes_length, socketAddress_length haddr, haccounts, hcards,
    databaseLen]
  omega

theorem operation_length {op : Operation F32} (h : serializeOperation op = .ok bytes) :
    bytes.length = operationLen op := by
  cases op with
  | charge accountId cardId amount off =>
    cases h
    simp [serializeChargeOperation, operationLen]
  | limitAccount accountId newLimit =>
    cases h
    simp [serializeLimitAccountOperation, operationLen]
  | limitCard accountId cardId newLimit =>
    cases h
    simp [serializeLimitCardOperation, operationLen]
  | accountQuery accountId =>
    cases h
    simp [serializeQueryAccountOperation, operationLen]
  | bill accountId period =>
    cases h
    cases period with
    | none => simp [serializeBillOperation, operationLen, periodLen]
    | some periodStr =>
      have hsize : periodStr.toUTF8.data.toList.length = periodStr.toUTF8.size := rfl
      simp only [serializeBillOperation, operationLen, periodLen, List.length_append,
        List.length_cons, List.length_nil, u64Bytes_length, hsize]
      omega
  | getDatabase addr =>
    obtain ⟨srl, haddr, h⟩ := srl_bind.mp h
    cases h
    rw [List.length_append, socketAddress_length haddr]
    rfl
  | replaceDatabase snapshot =>
    obtain ⟨srl, hdb, h⟩ := srl_bind.mp h
    cases h
    rw [List.length_append, database_length hdb]
    rfl

theorem verifyError_length (error : VerifyError) : (serializeVerifyError error).length = 2 := by
  rcases error with ⟨_ | _⟩ | ⟨_⟩ <;> rfl

theorem operationResult_length {result : OperationResult F32}
    (h : serializeOperationResult result = .ok bytes) :
    bytes.length = operationResultLen result := by
  cases result with
  | charge result =>
    cases h
    cases result with
    | ok => rfl
    | failed error =>
      rw [serializeChargeResult, List.length_append, verifyError_length]
      rfl
  | limitAccount result =>
    cases h
    cases result with
    | ok => rfl
    | failed error =>
      rw [serializeLimitResult, List.length_cons, List.length_cons, verifyError_length]
      rfl
  | limitCard result =>
    cases h
    cases result with
    | ok => rfl
    | failed error =>
      rw [serializeLimitResult, List.length_cons, List.length_cons, verifyError_length]
      rfl
  | accountQuery result =>
    cases h
    have hcards : (result.perCardSpent.flatMap serializeCardSpent).length =
        12 * result.perCardSpent.length :=
      length_flatMap_const (fun c => by simp [serializeCardSpent]) _
    simp only [serializeAccountQueryResult, List.length_append, List.length_cons,
      List.length_nil, u64Bytes_length, u32Bytes_length, usizeBytes_length, hcards,
      operationResultLen]
  | databaseSnapshot result =>
    obtain ⟨srl, hdb, h⟩ := srl_bind.mp h
    cases h
    rw [List.length_cons, database_length hdb, operationResultLen, Nat.add_comm]
  | replaceDatabase =>
    cases h
    rfl

theorem member_length {member : NodeId × SocketAddr} (h : serializeMember member = .ok bytes) :
    bytes.length = 14 := by
  obtain ⟨srl, haddr, h⟩ := srl_bind.mp h
  cases h
  rw [List.length_append, socketAddress_length haddr, u64Bytes_length]

theorem members_length {members : List (NodeId × SocketAddr)}
    (h : serializeMembers members = .ok bytes) : bytes.length = 14 * members.length := by
  induction members generalizing bytes with
  | nil =>
    cases h
    rfl
  | cons member members ih =>
    obtain ⟨srl, hmember, h⟩ := srl_bind.mp h
    obtain ⟨srls, hmembers, h⟩ := srl_bind.mp h
    cases h
    rw [List.length_append, member_length hmember, ih hmembers, List.length_cons]
    omega

/-- A serialized message is as long as its lists say. -/
theorem message_length {msg : Message F32} (h : serializeMessage msg = .ok bytes) :
    bytes.length = messageLen msg := by
  cases msg with
  | request reqId op addr =>
    obtain ⟨addrSrl, haddr, h⟩ := srl_bind.mp h
    obtain ⟨opSrl, hop, h⟩ := srl_bind.mp h
    cases h
    simp [socketAddress_length haddr, operation_length hop, messageLen]
    omega
  | response reqId opResult =>
    obtain ⟨srl, hresult, h⟩ := srl_bind.mp h
    cases h
    simp [operationResult_length hresult, messageLen]
    omega
  | log opId op =>
    obtain ⟨srl, hop, h⟩ := srl_bind.mp h
    cases h
    simp [operation_length hop, messageLen]
    omega
  | ack opId =>
    cases h
    simp [messageLen]
  | election candidateId candidateAddr =>
    obtain ⟨srl, haddr, h⟩ := srl_bind.mp h
    cases h
    simp [socketAddress_length haddr, messageLen]
  | electionOk responderId =>
    cases h
    simp [messageLen]
  | coordinator leaderId leaderAddr =>
    obtain ⟨srl, haddr, h⟩ := srl_bind.mp h
    cases h
    simp [socketAddress_length haddr, messageLen]
  | join addr =>
    obtain ⟨srl, haddr, h⟩ := srl_bind.mp h
    cases h
    simp [socketAddress_length haddr, messageLen]
  | clusterView members leaderAddr database =>
    obtain ⟨leaderSrl, hleader, h⟩ := srl_bind.mp h
    obtain ⟨databaseSrl, hdb, h⟩ := srl_bind.mp h
    obtain ⟨membersSrl, hmembers, h⟩ := srl_bind.mp h
    cases h
    simp only [List.length_append, List.length_cons, List.length_nil, usizeBytes_length,
      members_length hmembers, socketAddress_length hleader, database_length hdb, messageLen]
    omega
  | clusterUpdate newMember =>
    obtain ⟨srl, hmember, h⟩ := srl_bind.mp h
    cases h
    simp [member_length hmember, messageLen]
  | roleQuery addr =>
    obtain ⟨srl, haddr, h⟩ := srl_bind.mp h
    cases h
    simp [socketAddress_length haddr, messageLen]
  | roleResponse nodeId role =>
    cases h
    simp [messageLen]

/-- A message starts with its type byte, which is no heartbeat. -/
theorem message_type {msg : Message F32} (h : serializeMessage msg = .ok bytes) :
    ∃ t rest, bytes = t :: rest ∧ t ≠ HEARTBEAT_REQUEST ∧ t ≠ HEARBEAT_REPLY := by
  cases msg with
  | request reqId op addr =>
    obtain ⟨addrSrl, -, h⟩ := srl_bind.mp h
    obtain ⟨opSrl, -, h⟩ := srl_bind.mp h
    cases h
    exact ⟨_, _, rfl, by decide, by decide⟩
  | clusterView members leaderAddr database =>
    obtain ⟨leaderSrl, -, h⟩ := srl_bind.mp h
    obtain ⟨databaseSrl, -, h⟩ := srl_bind.mp h
    obtain ⟨membersSrl, -, h⟩ := srl_bind.mp h
    cases h
    exact ⟨_, _, rfl, by decide, by decide⟩
  | ack _ | electionOk _ | roleResponse _ _ =>
    cases h
    exact ⟨_, _, rfl, by decide, by decide⟩
  | _ =>
    obtain ⟨srl, -, h⟩ := srl_bind.mp h
    cases h
    exact ⟨_, _, rfl, by decide, by decide⟩

end Lengths

end YpfRuta.Network
