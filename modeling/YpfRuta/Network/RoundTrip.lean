/-
  Round trips of operations, of their results and of messages.

  A bill's period is written behind its length, cut to one byte, and read back as
  text together with that byte. It survives when the byte is itself a character, that
  is below 128, and the period is not empty: an empty one has the bytes of none at all.
-/
import YpfRuta.Network.Codec

namespace YpfRuta.Network

open Lib

/-! ## Periods -/

/-- The periods that are read back. -/
def ReadablePeriod : Option String → Prop
  | some periodStr => periodStr ≠ "" ∧ periodStr.toUTF8.size % 256 < 128
  | none => True

def periodBytes : Option String → List UInt8
  | some periodStr => UInt8.ofNat periodStr.toUTF8.size :: utf8Bytes periodStr
  | none => [0]

/-- The period read back from what a period was written as. -/
def periodBack (period : Option String) : Dsr (Option String) :=
  deserializePeriod (periodBytes period)

theorem lengthByte_toNat (periodStr : String) :
    (UInt8.ofNat periodStr.toUTF8.size).toNat = periodStr.toUTF8.size % 256 := by
  rw [UInt8.toNat_ofNat']

theorem deserializePeriod_zero : deserializePeriod [0] = .ok none := by
  have htext : fromUtf8 [0] = .ok "\x00" := fromUtf8_of_toByteArray (by decide)
  unfold deserializePeriod
  simp only [htext, if_pos]

theorem textFrom_one {b : UInt8} (h : b.toNat < 128) (text : String) :
    textFrom 1 (String.singleton (asciiChar b) ++ text) = .ok text := by
  unfold textFrom
  simp only [utf8Bytes_ascii_append h, sliceFrom_one_cons, ok_bind, fromUtf8_utf8Bytes]

/-- A length below 128 is a character, which is cut off again. -/
theorem deserializePeriod_low {periodStr : String} (hne : periodStr ≠ "")
    (hlow : periodStr.toUTF8.size % 256 < 128) :
    periodBack (some periodStr) = .ok (some periodStr) := by
  have hbyte : (UInt8.ofNat periodStr.toUTF8.size).toNat < 128 := by
    rw [lengthByte_toNat]
    exact hlow
  have htext := fromUtf8_ascii_cons hbyte periodStr
  have hnul : String.singleton (asciiChar (UInt8.ofNat periodStr.toUTF8.size)) ++ periodStr ≠
      "\x00" := by
    intro heq
    have hbytes := congrArg utf8Bytes heq
    rw [utf8Bytes_ascii_append hbyte] at hbytes
    have hnil : utf8Bytes periodStr = [] := (List.cons.inj hbytes).2
    exact hne (utf8Bytes_eq_nil.mp hnil)
  unfold periodBack deserializePeriod periodBytes
  simp only [htext, if_neg hnul, textFrom_one hbyte, ok_bind]
  rfl

/-- A length from 128 on starts no character that a text could go on. -/
theorem deserializePeriod_high {periodStr : String}
    (hhigh : ¬ periodStr.toUTF8.size % 256 < 128) :
    ∃ e, periodBack (some periodStr) = .error e := by
  have hbyte : 128 ≤ (UInt8.ofNat periodStr.toUTF8.size).toNat := by
    rw [lengthByte_toNat]
    omega
  unfold periodBack deserializePeriod periodBytes
  simp only [fromUtf8_high_cons hbyte, invalidProtocol]
  exact ⟨_, rfl⟩

theorem periodBack_iff (period : Option String) :
    periodBack period = .ok period ↔ ReadablePeriod period := by
  cases period with
  | none => exact iff_of_true deserializePeriod_zero trivial
  | some periodStr =>
    constructor
    · intro h
      constructor
      · rintro rfl
        have hnone : periodBack (some "") = .ok none := deserializePeriod_zero
        rw [hnone] at h
        cases h
      · by_contra hhigh
        obtain ⟨e, herr⟩ := deserializePeriod_high hhigh
        rw [herr] at h
        cases h
    · rintro ⟨hne, hlow⟩
      exact deserializePeriod_low hne hlow

/-! ## Operations -/

/-- What an operation's fields must meet to have bytes of their own. -/
def WritableOperation : Operation F32 → Prop
  | .charge .. | .accountQuery _ | .bill .. => True
  | .limitAccount _ newLimit => newLimit ≠ some NO_LIMIT
  | .limitCard _ _ newLimit => newLimit ≠ some NO_LIMIT
  | .getDatabase addr => addr.isIpv4
  | .replaceDatabase snapshot => WritableDatabase snapshot

/-- The operations whose period, if they have one, is read back. -/
def ReadablePeriodOf : Operation F32 → Prop
  | .bill _ period => ReadablePeriod period
  | _ => True

theorem deserializeOperation_cons (b : UInt8) (rest : List UInt8) :
    deserializeOperation (b :: rest) =
      if b = OP_TYPE_CHARGE then deserializeChargeOperation rest
      else if b = OP_TYPE_LIMIT_ACCOUNT then deserializeLimitAccountOperation rest
      else if b = OP_TYPE_LIMIT_CARD then deserializeLimitCardOperation rest
      else if b = OP_TYPE_QUERY_ACCOUNT then deserializeQueryAccountOperation rest
      else if b = OP_TYPE_BILL then deserializeBillOperation rest
      else if b = OP_GET_DATABASE then deserializeGetDatabaseOperation rest
      else if b = OP_REPLACE_DATABASE then deserializeReplaceDatabaseOperation rest
      else invalidProtocol s!"unknown operation type {b}" := by
  unfold deserializeOperation firstByte
  simp only [ok_bind, sliceFrom_one_cons]

theorem charge_restores (accountId : AccountId) (cardId : CardId) (amount : F32) (off : Bool) :
    deserializeOperation (serializeChargeOperation accountId cardId amount off) =
      .ok (.charge accountId cardId amount off) := by
  have hflag : deserializeFromOfflineStation [if off then TRUE else FALSE] = .ok off := by
    cases off <;> rfl
  have hlen : (u64Bytes accountId ++ (u64Bytes cardId ++ (u32Bytes amount ++
      [if off then TRUE else FALSE]))).length = CHARGE_SRL_LEN := by simp; rfl
  unfold serializeChargeOperation
  simp only [List.append_assoc, List.cons_append, List.nil_append]
  rw [deserializeOperation_cons, if_pos rfl]
  unfold deserializeChargeOperation
  rw [if_neg (not_not.mpr hlen)]
  simp [deserializeAccountId, deserializeCardId, deserializeAmount, ACC_ID_SRL_LEN,
    CARD_ID_SRL_LEN, AMOUNT_SRL_LEN, sliceFrom_u32, sliceFrom_u64, hflag]

/-- A limit at the end of an operation's bytes. -/
theorem deserializeLimit_last {limit : Option F32} (h : limit ≠ some NO_LIMIT) :
    deserializeLimit (u32Bytes (limit.getD NO_LIMIT)) = .ok limit := by
  have hlimit := deserializeLimit_append h []
  rwa [List.append_nil] at hlimit

theorem deserializeAccountId_append (accountId : AccountId) (rest : List UInt8) :
    deserializeAccountId (u64Bytes accountId ++ rest) = .ok accountId :=
  deserializeU64_append accountId rest

theorem limitAccount_restores (accountId : AccountId) {newLimit : Option F32}
    (h : newLimit ≠ some NO_LIMIT) :
    deserializeOperation (serializeLimitAccountOperation accountId newLimit) =
      .ok (.limitAccount accountId newLimit) := by
  have hlen : (u64Bytes accountId ++ u32Bytes (newLimit.getD NO_LIMIT)).length =
      LIMIT_ACC_SRL_LEN := by simp; rfl
  unfold serializeLimitAccountOperation
  simp only [List.cons_append, List.nil_append]
  rw [deserializeOperation_cons, if_neg (by decide), if_pos rfl]
  unfold deserializeLimitAccountOperation
  rw [if_neg (not_not.mpr hlen)]
  simp only [Nat.zero_add, sliceFrom_zero, ok_bind, deserializeAccountId_append,
    sliceFrom_length (show (u64Bytes accountId).length = ACC_ID_SRL_LEN from
      u64Bytes_length accountId), deserializeLimit_last h]
  rfl

theorem limitCard_restores (accountId : AccountId) (cardId : CardId) {newLimit : Option F32}
    (h : newLimit ≠ some NO_LIMIT) :
    deserializeOperation (serializeLimitCardOperation accountId cardId newLimit) =
      .ok (.limitCard accountId cardId newLimit) := by
  have hlen : (u64Bytes accountId ++ (u64Bytes cardId ++
      u32Bytes (newLimit.getD NO_LIMIT))).length = LIMIT_CARD_SRL_LEN := by simp; rfl
  unfold serializeLimitCardOperation
  simp only [List.append_assoc, List.cons_append, List.nil_append]
  rw [deserializeOperation_cons, if_neg (by decide), if_neg (by decide), if_pos rfl]
  unfold deserializeLimitCardOperation
  rw [if_neg (not_not.mpr hlen)]
  simp [deserializeAccountId, deserializeCardId, ACC_ID_SRL_LEN, CARD_ID_SRL_LEN,
    sliceFrom_u64, deserializeLimit_last h]

theorem accountQuery_restores (accountId : AccountId) :
    deserializeOperation (serializeQueryAccountOperation accountId) =
      .ok (.accountQuery accountId) := by
  have hid := deserializeAccountId_append accountId []
  have hlen : (u64Bytes accountId).length = ACC_ID_SRL_LEN := u64Bytes_length accountId
  rw [List.append_nil] at hid
  unfold serializeQueryAccountOperation
  simp only [List.cons_append, List.nil_append]
  rw [deserializeOperation_cons, if_neg (by decide), if_neg (by decide), if_neg (by decide),
    if_pos rfl]
  unfold deserializeQueryAccountOperation
  rw [if_neg (not_not.mpr hlen), sliceFrom_zero, ok_bind, hid, ok_bind]
  rfl

/-- A bill is read back as the bill of the period read back. -/
theorem bill_restores (accountId : AccountId) (period : Option String) :
    deserializeOperation (serializeBillOperation accountId period) =
      (periodBack period >>= fun back => .ok (.bill accountId back)) := by
  have hsrl : serializeBillOperation accountId period =
      OP_TYPE_BILL :: (u64Bytes accountId ++ periodBytes period) := by
    cases period <;> rfl
  have hpos : 0 < (periodBytes period).length := by
    cases period <;> exact Nat.succ_pos _
  have hlen : (u64Bytes accountId ++ periodBytes period).length =
      ACC_ID_SRL_LEN + (periodBytes period).length := by
    rw [List.length_append, u64Bytes_length]
    rfl
  have hmore : (u64Bytes accountId ++ periodBytes period).length > ACC_ID_SRL_LEN := by omega
  rw [hsrl, deserializeOperation_cons, if_neg (by decide), if_neg (by decide),
    if_neg (by decide), if_neg (by decide), if_pos rfl]
  unfold deserializeBillOperation
  rw [if_neg (by omega)]
  simp only [Nat.zero_add, sliceFrom_zero, ok_bind, deserializeAccountId_append, if_pos hmore,
    sliceFrom_length (show (u64Bytes accountId).length = ACC_ID_SRL_LEN from
      u64Bytes_length accountId)]
  rfl

theorem bill_restores_iff (accountId : AccountId) (period : Option String) :
    Restores serializeOperation deserializeOperation (.bill accountId period) ↔
      ReadablePeriod period := by
  rw [← periodBack_iff]
  constructor
  · rintro ⟨bytes, hwrite, hread⟩
    cases hwrite
    rw [bill_restores] at hread
    cases hback : periodBack period with
    | error e =>
      rw [hback] at hread
      cases hread
    | ok back =>
      rw [hback, ok_bind] at hread
      cases hread
      rfl
  · intro hback
    refine ⟨_, rfl, ?_⟩
    rw [bill_restores, hback, ok_bind]

theorem getDatabase_restores {addr : SocketAddr} (h : addr.isIpv4) :
    Restores serializeOperation deserializeOperation (.getDatabase addr) := by
  obtain ⟨bytes, hwrite, -, hread⟩ := socketAddress_reads h
  refine ⟨OP_GET_DATABASE :: bytes, ?_, ?_⟩
  · show serializeGetDatabaseOperation addr = _
    unfold serializeGetDatabaseOperation
    rw [hwrite]
    rfl
  · rw [deserializeOperation_cons, if_neg (by decide), if_neg (by decide), if_neg (by decide),
      if_neg (by decide), if_neg (by decide), if_pos rfl]
    unfold deserializeGetDatabaseOperation
    rw [hread.self, ok_bind]
    rfl

theorem replaceDatabase_restores {snapshot : DatabaseSnapshot F32}
    (h : WritableDatabase snapshot) (hsize : databaseLen snapshot < 2 ^ 64) :
    Restores serializeOperation deserializeOperation (.replaceDatabase snapshot) := by
  obtain ⟨bytes, hwrite, hread⟩ := databaseSnapshot_restores h hsize
  refine ⟨OP_REPLACE_DATABASE :: bytes, ?_, ?_⟩
  · show serializeReplaceDatabaseOperation snapshot = _
    unfold serializeReplaceDatabaseOperation
    rw [hwrite]
    rfl
  · rw [deserializeOperation_cons, if_neg (by decide), if_neg (by decide), if_neg (by decide),
      if_neg (by decide), if_neg (by decide), if_neg (by decide), if_pos rfl]
    unfold deserializeReplaceDatabaseOperation
    rw [hread, ok_bind]
    rfl

/-- An operation survives being written and read when it has no period, or one that is
    not empty and whose length ends in a byte below 128; then only. -/
theorem operationCodec_restores_iff (op : Operation F32) (hw : WritableOperation op)
    (hsize : operationLen op < 2 ^ 64) :
    Restores serializeOperation deserializeOperation op ↔ ReadablePeriodOf op := by
  cases op with
  | charge accountId cardId amount off =>
    exact iff_of_true ⟨_, rfl, charge_restores accountId cardId amount off⟩ trivial
  | limitAccount accountId newLimit =>
    exact iff_of_true ⟨_, rfl, limitAccount_restores accountId hw⟩ trivial
  | limitCard accountId cardId newLimit =>
    exact iff_of_true ⟨_, rfl, limitCard_restores accountId cardId hw⟩ trivial
  | accountQuery accountId =>
    exact iff_of_true ⟨_, rfl, accountQuery_restores accountId⟩ trivial
  | getDatabase addr => exact iff_of_true (getDatabase_restores hw) trivial
  | replaceDatabase snapshot =>
    have hlen : 1 + databaseLen snapshot < 2 ^ 64 := hsize
    have hlen : databaseLen snapshot < 2 ^ 64 := by omega
    exact iff_of_true (replaceDatabase_restores hw hlen) trivial
  | bill accountId period => exact bill_restores_iff accountId period

theorem operationCodec_restores_example :
    Restores serializeOperation deserializeOperation (.bill 7000 (some "2025-10")) :=
  (operationCodec_restores_iff (.bill 7000 (some "2025-10")) trivial (by decide)).mpr ⟨by decide, by decide⟩

/-- A period of 128 letters is not read back. -/
theorem operationCodec_loses_period :
    ¬ Restores serializeOperation deserializeOperation
      (.bill 7000 (some (String.ofList (List.replicate 128 'a')))) := by
  intro h
  have hlow := ((bill_restores_iff _ _).mp h).2
  revert hlow
  decide +kernel

/-! ## Results -/

/-- What a leader answers a client with. -/
def ForClient : OperationResult F32 → Prop
  | .charge _ | .limitAccount _ | .limitCard _ | .accountQuery _ => True
  | .databaseSnapshot _ | .replaceDatabase => False

/-- The answers that are read back. -/
def ReadableResult : OperationResult F32 → Prop
  | .limitCard (.failed _) => False
  | _ => True

theorem deserializeOperationResult_cons (b : UInt8) (rest : List UInt8) :
    deserializeOperationResult (b :: rest) =
      if b = CHARGE_RESULT then deserializeChargeResult rest
      else if b = LIMIT_ACCOUNT_RESULT then deserializeLimitAccountResult rest
      else if b = LIMIT_CARD_RESULT then deserializeLimitCardResult rest
      else if b = ACC_QUERY_RESULT then deserializeAccountQueryResult rest
      else invalidProtocol s!"unknown operation result type {b}" := by
  unfold deserializeOperationResult firstByte
  simp only [ok_bind, sliceFrom_one_cons]

theorem verifyError_restores (e : VerifyError) :
    deserializeVerifyError (serializeVerifyError e) = .ok e := by
  cases e with
  | chargeLimit e => cases e <;> rfl
  | limitUpdate e => cases e; rfl

theorem chargeResult_restores (r : ChargeResult) :
    Restores serializeOperationResult deserializeOperationResult (.charge r) := by
  refine ⟨serializeChargeResult r, rfl, ?_⟩
  cases r with
  | ok => rfl
  | failed e =>
    show deserializeOperationResult (CHARGE_RESULT :: ERR :: serializeVerifyError e) = _
    rw [deserializeOperationResult_cons, if_pos rfl]
    unfold deserializeChargeResult firstByte
    rw [ok_bind, if_neg (by decide), if_pos rfl, sliceFrom_one_cons, ok_bind,
      verifyError_restores, ok_bind]
    rfl

theorem limitAccountResult_restores (r : LimitResult) :
    Restores serializeOperationResult deserializeOperationResult (.limitAccount r) := by
  refine ⟨LIMIT_ACCOUNT_RESULT :: serializeLimitResult r, rfl, ?_⟩
  rw [deserializeOperationResult_cons, if_neg (by decide), if_pos rfl]
  cases r with
  | ok => rfl
  | failed e =>
    show deserializeLimitAccountResult (ERR :: serializeVerifyError e) = _
    unfold deserializeLimitAccountResult firstByte
    rw [ok_bind, if_neg (by decide), if_pos rfl, sliceFrom_one_cons, ok_bind,
      verifyError_restores, ok_bind]
    rfl

/-- A rejected card limit is written, and its reader panics. -/
theorem limitCardResult_panics (e : VerifyError) :
    deserializeOperationResult (LIMIT_CARD_RESULT :: serializeLimitResult (.failed e)) =
      .error .panic := by
  rw [deserializeOperationResult_cons, if_neg (by decide), if_neg (by decide), if_pos rfl]
  rfl

theorem limitCardResult_restores_iff (r : LimitResult) :
    Restores serializeOperationResult deserializeOperationResult (.limitCard r) ↔ r = .ok := by
  cases r with
  | ok => exact iff_of_true ⟨_, rfl, rfl⟩ rfl
  | failed e =>
    refine iff_of_false ?_ nofun
    rintro ⟨bytes, hwrite, hread⟩
    obtain rfl : LIMIT_CARD_RESULT :: serializeLimitResult (.failed e) = bytes :=
      Except.ok.inj hwrite
    rw [limitCardResult_panics] at hread
    cases hread

theorem cardSpent_reads (cardSpent : CardId × F32) :
    Reads deserializeCardSpent (serializeCardSpent cardSpent) cardSpent := by
  intro rest
  simp [deserializeCardSpent, serializeCardSpent, deserializeCardId, deserializeAmount,
    CARD_ID_SRL_LEN, sliceFrom_u64]

theorem cardsSpent_reads (perCardSpent : List (CardId × F32)) :
    List.Forall₂ (fun x chunk => chunk.length = CARD_SPENT_LEN ∧ Reads deserializeCardSpent chunk x)
      perCardSpent (perCardSpent.map serializeCardSpent) := by
  induction perCardSpent with
  | nil => exact .nil
  | cons cardSpent rest ih =>
    refine .cons ⟨?_, cardSpent_reads cardSpent⟩ ih
    unfold serializeCardSpent
    rw [List.length_append, u64Bytes_length, u32Bytes_length]
    rfl

theorem accountQueryResult_restores (result : AccountQueryResult F32)
    (hsize : operationResultLen (.accountQuery result) < 2 ^ 64) :
    Restores serializeOperationResult deserializeOperationResult (.accountQuery result) := by
  have hsize : 21 + 12 * result.perCardSpent.length < 2 ^ 64 := hsize
  have hitems := deserializeItems_flatten (cardsSpent_reads result.perCardSpent)
    (u64Bytes result.accountId ++ (u32Bytes result.totalSpent ++
      usizeBytes result.perCardSpent.length)) []
  have hptr : (u64Bytes result.accountId ++ (u32Bytes result.totalSpent ++
      usizeBytes result.perCardSpent.length)).length =
      ACC_ID_SRL_LEN + AMOUNT_SRL_LEN + PER_CARD_SPENT_LEN := by
    rw [List.length_append, List.length_append, u64Bytes_length, u32Bytes_length,
      usizeBytes_length]
    rfl
  have hlen := deserializeVecLen_append (show result.perCardSpent.length < 2 ^ 64 by omega)
    (result.perCardSpent.flatMap serializeCardSpent)
  have hlenPtr : (u64Bytes result.accountId ++ u32Bytes result.totalSpent).length =
      ACC_ID_SRL_LEN + AMOUNT_SRL_LEN := by
    rw [List.length_append, u64Bytes_length, u32Bytes_length]
    rfl
  rw [hptr, List.append_nil, ← List.flatMap_def] at hitems
  simp only [List.append_assoc] at hitems
  refine ⟨ACC_QUERY_RESULT :: (u64Bytes result.accountId ++ (u32Bytes result.totalSpent ++
    (usizeBytes result.perCardSpent.length ++
      result.perCardSpent.flatMap serializeCardSpent))), ?_, ?_⟩
  · show Except.ok (serializeAccountQueryResult result) = _
    simp only [serializeAccountQueryResult, List.append_assoc, List.cons_append, List.nil_append]
  · rw [deserializeOperationResult_cons]
    iterate 3 rw [if_neg (by decide)]
    rw [if_pos rfl]
    unfold deserializeAccountQueryResult deserializeAmount
    simp only [Nat.zero_add, sliceFrom_zero, ok_bind, deserializeAccountId_append,
      sliceFrom_length (show (u64Bytes result.accountId).length = ACC_ID_SRL_LEN from
        u64Bytes_length result.accountId),
      deserializeU32_append, sliceFrom_length₂ hlenPtr, hlen, hitems]
    rfl

/-- An answer to a client survives being written and read unless it is a rejected card
    limit. -/
theorem operationResultCodec_restores_iff (r : OperationResult F32) (hr : ForClient r)
    (hsize : operationResultLen r < 2 ^ 64) :
    Restores serializeOperationResult deserializeOperationResult r ↔ ReadableResult r := by
  cases r with
  | charge result => exact iff_of_true (chargeResult_restores result) trivial
  | limitAccount result => exact iff_of_true (limitAccountResult_restores result) trivial
  | limitCard result =>
    rw [limitCardResult_restores_iff]
    cases result with
    | ok => exact iff_of_true rfl trivial
    | failed e => exact iff_of_false nofun id
  | accountQuery result => exact iff_of_true (accountQueryResult_restores result hsize) trivial
  | databaseSnapshot snapshot => exact hr.elim
  | replaceDatabase => exact hr.elim

theorem operationResultCodec_restores_example :
    Restores serializeOperationResult deserializeOperationResult
      (.accountQuery ⟨128, 0x48651E13, [(15300, 0x4604DD9A), (6003, 0)]⟩) :=
  (operationResultCodec_restores_iff
    (.accountQuery ⟨128, 0x48651E13, [(15300, 0x4604DD9A), (6003, 0)]⟩) trivial (by decide)).mpr
    trivial

/-- A card limit below what the card has used is not read back. -/
theorem operationResultCodec_loses_rejection :
    ¬ ∀ r : OperationResult F32, ForClient r → operationResultLen r < 2 ^ 64 →
      Restores serializeOperationResult deserializeOperationResult r := by
  intro hall
  have h := hall (.limitCard (.failed (.limitUpdate .belowCurrentUsage))) trivial (by decide)
  rw [limitCardResult_restores_iff] at h
  cases h

/-! ## Messages -/

/-- What a message must meet to be restored: addresses that can be written, no limit that
    reads as the absence of one, and an operation or a result that its own codec
    restores. Readers know no role response. -/
def RestorableMessage : Message F32 → Prop
  | .request _ op addr =>
    addr.isIpv4 ∧ Restores serializeOperation deserializeOperation op
  | .response _ opResult =>
    Restores serializeOperationResult deserializeOperationResult opResult
  | .log _ op => Restores serializeOperation deserializeOperation op
  | .ack _ | .electionOk _ => True
  | .election _ addr | .coordinator _ addr | .join addr | .roleQuery addr => addr.isIpv4
  | .clusterUpdate newMember => newMember.2.isIpv4
  | .clusterView members leaderAddr database =>
    (∀ member ∈ members, member.2.isIpv4) ∧ leaderAddr.isIpv4 ∧ WritableDatabase database
  | .roleResponse .. => False

theorem deserializeMessage_cons (b : UInt8) (rest : List UInt8) :
    deserializeMessage (b :: rest) =
      if b = MSG_TYPE_REQUEST then deserializeRequestMessage rest
      else if b = MSG_TYPE_LOG then deserializeLogMessage rest
      else if b = MSG_TYPE_ACK then deserializeAckMessage rest
      else if b = MSG_TYPE_JOIN then deserializeJoinMessage rest
      else if b = MSG_TYPE_CLUSTER_VIEW then deserializeClusterViewMessage rest
      else if b = MSG_TYPE_CLUSTER_UPDATE then deserializeClusterUpdateMessage rest
      else if b = MSG_TYPE_RESPONSE then deserializeResponseMessage rest
      else if b = MSG_TYPE_ROLE_QUERY then deserializeRoleQueryMessage rest
      else if b = MSG_TYPE_COORDINATOR then deserializeCoordinatorMessage rest
      else if b = MSG_TYPE_ELECTION then deserializeElectionMessage rest
      else if b = MSG_TYPE_ELECTION_OK then deserializeElectionOkMessage rest
      else
        .error (.error (.invalidData
          s!"unknown node message type {b}, with contents {b :: rest}")) := by
  unfold deserializeMessage firstByte
  simp only [ok_bind, sliceFrom_one_cons]

theorem request_restores (reqId : ReqId) {op : Operation F32} {addr : SocketAddr}
    (haddr : addr.isIpv4) (hop : Restores serializeOperation deserializeOperation op) :
    Restores serializeMessage deserializeMessage (.request reqId op addr) := by
  obtain ⟨addrSrl, hwrite, hlen, hread⟩ := socketAddress_reads haddr
  obtain ⟨opSrl, hopWrite, hopRead⟩ := hop
  refine ⟨MSG_TYPE_REQUEST :: (u32Bytes reqId ++ (addrSrl ++ opSrl)), ?_, ?_⟩
  · simp only [serializeMessage, hwrite, hopWrite, ← List.append_assoc]
    rfl
  · have hid : (u32Bytes reqId).length = OP_ID_SRL_LEN := u32Bytes_length reqId
    have hptr : (u32Bytes reqId ++ addrSrl).length = OP_ID_SRL_LEN + SOCKET_ADDR_LEN := by
      rw [List.length_append, hid, hlen]
      rfl
    rw [deserializeMessage_cons, if_pos rfl]
    unfold deserializeRequestMessage
    simp only [Nat.zero_add, sliceFrom_zero, ok_bind, deserializeOpId_append,
      sliceFrom_length hid, hread _, sliceFrom_length₂ hptr, hopRead]
    rfl

theorem log_restores (opId : OpId) {op : Operation F32}
    (hop : Restores serializeOperation deserializeOperation op) :
    Restores serializeMessage deserializeMessage (.log opId op) := by
  obtain ⟨opSrl, hopWrite, hopRead⟩ := hop
  refine ⟨MSG_TYPE_LOG :: (u32Bytes opId ++ opSrl), ?_, ?_⟩
  · simp only [serializeMessage, hopWrite]
    rfl
  · have hid : (u32Bytes opId).length = OP_ID_SRL_LEN := u32Bytes_length opId
    rw [deserializeMessage_cons, if_neg (by decide), if_pos rfl]
    unfold deserializeLogMessage
    simp only [Nat.zero_add, sliceFrom_zero, ok_bind, deserializeOpId_append,
      sliceFrom_length hid, hopRead]
    rfl

theorem response_restores (reqId : ReqId) {opResult : OperationResult F32}
    (h : Restores serializeOperationResult deserializeOperationResult opResult) :
    Restores serializeMessage deserializeMessage (.response reqId opResult) := by
  obtain ⟨resultSrl, hwrite, hread⟩ := h
  refine ⟨MSG_TYPE_RESPONSE :: (u32Bytes reqId ++ resultSrl), ?_, ?_⟩
  · simp only [serializeMessage, hwrite]
    rfl
  · have hid : (u32Bytes reqId).length = OP_ID_SRL_LEN := u32Bytes_length reqId
    rw [deserializeMessage_cons, if_neg (by decide), if_neg (by decide), if_neg (by decide),
      if_neg (by decide), if_neg (by decide), if_neg (by decide), if_pos rfl]
    unfold deserializeResponseMessage
    simp only [Nat.zero_add, sliceFrom_zero, ok_bind, deserializeOpId_append,
      sliceFrom_length hid, hread]
    rfl

theorem ack_restores (opId : OpId) :
    Restores serializeMessage deserializeMessage (.ack opId) := by
  have hid := deserializeOpId_append opId []
  rw [List.append_nil] at hid
  refine ⟨MSG_TYPE_ACK :: u32Bytes opId, rfl, ?_⟩
  rw [deserializeMessage_cons, if_neg (by decide), if_neg (by decide), if_pos rfl]
  unfold deserializeAckMessage
  rw [sliceFrom_zero, ok_bind, hid, ok_bind]
  rfl

theorem electionOk_restores (responderId : NodeId) :
    Restores serializeMessage deserializeMessage (.electionOk responderId) := by
  have hid := deserializeU64_append responderId []
  rw [List.append_nil] at hid
  refine ⟨MSG_TYPE_ELECTION_OK :: u64Bytes responderId, rfl, ?_⟩
  rw [deserializeMessage_cons]
  iterate 10 rw [if_neg (by decide)]
  rw [if_pos rfl]
  unfold deserializeElectionOkMessage
  rw [hid, ok_bind]
  rfl

theorem join_restores {addr : SocketAddr} (h : addr.isIpv4) :
    Restores serializeMessage deserializeMessage (.join addr) := by
  obtain ⟨addrSrl, hwrite, -, hread⟩ := socketAddress_reads h
  refine ⟨MSG_TYPE_JOIN :: addrSrl, ?_, ?_⟩
  · simp only [serializeMessage, hwrite]
    rfl
  · rw [deserializeMessage_cons]
    iterate 3 rw [if_neg (by decide)]
    rw [if_pos rfl]
    unfold deserializeJoinMessage
    rw [hread.self, ok_bind]
    rfl

theorem roleQuery_restores {addr : SocketAddr} (h : addr.isIpv4) :
    Restores serializeMessage deserializeMessage (.roleQuery addr) := by
  obtain ⟨addrSrl, hwrite, -, hread⟩ := socketAddress_reads h
  refine ⟨MSG_TYPE_ROLE_QUERY :: addrSrl, ?_, ?_⟩
  · simp only [serializeMessage, hwrite]
    rfl
  · rw [deserializeMessage_cons]
    iterate 7 rw [if_neg (by decide)]
    rw [if_pos rfl]
    unfold deserializeRoleQueryMessage
    rw [hread.self, ok_bind]
    rfl

theorem coordinator_restores (leaderId : NodeId) {leaderAddr : SocketAddr}
    (h : leaderAddr.isIpv4) :
    Restores serializeMessage deserializeMessage (.coordinator leaderId leaderAddr) := by
  obtain ⟨addrSrl, hwrite, -, hread⟩ := socketAddress_reads h
  have hid : (u64Bytes leaderId).length = NODE_ID_SRL_LEN := u64Bytes_length leaderId
  refine ⟨MSG_TYPE_COORDINATOR :: (u64Bytes leaderId ++ addrSrl), ?_, ?_⟩
  · simp only [serializeMessage, hwrite]
    rfl
  · rw [deserializeMessage_cons]
    iterate 8 rw [if_neg (by decide)]
    rw [if_pos rfl]
    unfold deserializeCoordinatorMessage
    simp only [Nat.zero_add, sliceFrom_zero, ok_bind, deserializeU64_append,
      sliceFrom_length hid, hread.self]
    rfl

theorem election_restores (candidateId : NodeId) {candidateAddr : SocketAddr}
    (h : candidateAddr.isIpv4) :
    Restores serializeMessage deserializeMessage (.election candidateId candidateAddr) := by
  obtain ⟨addrSrl, hwrite, -, hread⟩ := socketAddress_reads h
  have hid : (u64Bytes candidateId).length = NODE_ID_SRL_LEN := u64Bytes_length candidateId
  refine ⟨MSG_TYPE_ELECTION :: (u64Bytes candidateId ++ addrSrl), ?_, ?_⟩
  · simp only [serializeMessage, hwrite]
    rfl
  · rw [deserializeMessage_cons]
    iterate 9 rw [if_neg (by decide)]
    rw [if_pos rfl]
    unfold deserializeElectionMessage
    simp only [Nat.zero_add, sliceFrom_zero, ok_bind, deserializeU64_append,
      sliceFrom_length hid, hread.self]
    rfl

theorem clusterUpdate_restores {newMember : NodeId × SocketAddr} (h : newMember.2.isIpv4) :
    Restores serializeMessage deserializeMessage (.clusterUpdate newMember) := by
  obtain ⟨memberSrl, hwrite, hlen, hread⟩ := member_reads h
  refine ⟨MSG_TYPE_CLUSTER_UPDATE :: memberSrl, ?_, ?_⟩
  · simp only [serializeMessage, hwrite]
    rfl
  · rw [deserializeMessage_cons]
    iterate 5 rw [if_neg (by decide)]
    rw [if_pos rfl]
    unfold deserializeClusterUpdateMessage
    rw [if_neg (by rw [hlen]; decide), hread.self, ok_bind]
    rfl

theorem clusterView_restores {members : List (NodeId × SocketAddr)} {leaderAddr : SocketAddr}
    {database : DatabaseSnapshot F32} (hmembers : ∀ member ∈ members, member.2.isIpv4)
    (haddr : leaderAddr.isIpv4) (hdatabase : WritableDatabase database)
    (hsize : messageLen (.clusterView members leaderAddr database) < 2 ^ 64) :
    Restores serializeMessage deserializeMessage (.clusterView members leaderAddr database) := by
  have hsize' : 15 + 14 * members.length + databaseLen database < 2 ^ 64 := hsize
  obtain ⟨chunks, hchunks, hreads⟩ := members_reads hmembers
  obtain ⟨addrSrl, hwrite, hlen, hread⟩ := socketAddress_reads haddr
  obtain ⟨databaseSrl, hdbWrite, hdbRead⟩ := databaseSnapshot_restores hdatabase (by omega)
  refine ⟨MSG_TYPE_CLUSTER_VIEW :: (usizeBytes members.length ++ (chunks.flatten ++
    (addrSrl ++ databaseSrl))), ?_, ?_⟩
  · simp only [serializeMessage, hwrite, hdbWrite, hchunks, ← List.append_assoc]
    rfl
  · have hvec : (usizeBytes members.length).length = VEC_LEN_LEN := usizeBytes_length _
    have hchunksLen := chunks_length hreads
    have hfits : MEMBER_SRL_LEN * members.length < 2 ^ 64 := by
      show 14 * members.length < 2 ^ 64
      omega
    have hmul : mulUsize MEMBER_SRL_LEN members.length = .ok (MEMBER_SRL_LEN * members.length) :=
      if_pos hfits
    have henough : ¬ (usizeBytes members.length ++ (chunks.flatten ++
        (addrSrl ++ databaseSrl))).length < MEMBER_SRL_LEN * members.length := by
      rw [List.length_append, List.length_append, hchunksLen]
      omega
    have hitems := deserializeItems_flatten hreads (usizeBytes members.length)
      (addrSrl ++ databaseSrl)
    rw [hvec] at hitems
    have haddrPtr : (usizeBytes members.length ++ chunks.flatten).length =
        VEC_LEN_LEN + chunks.flatten.length := by
      rw [List.length_append, hvec]
    have hdbPtr : (usizeBytes members.length ++ (chunks.flatten ++ addrSrl)).length =
        VEC_LEN_LEN + chunks.flatten.length + SOCKET_ADDR_LEN := by
      rw [List.length_append, List.length_append, hvec, hlen, ← Nat.add_assoc]
      rfl
    have hdbFrom := sliceFrom_length₂ hdbPtr databaseSrl
    rw [List.append_assoc] at hdbFrom
    rw [deserializeMessage_cons]
    iterate 4 rw [if_neg (by decide)]
    rw [if_pos rfl]
    unfold deserializeClusterViewMessage
    simp only [Nat.zero_add, sliceFrom_zero, ok_bind,
      deserializeVecLen_append (show members.length < 2 ^ 64 by omega), hmul, if_neg henough,
      hitems, sliceFrom_length₂ haddrPtr, hread _, hdbFrom, hdbRead]
    rfl

/-- Every message that can be written whole is read back, whatever the lengths of its
    lists. -/
theorem messageCodec_restores (m : Message F32) (hm : RestorableMessage m)
    (hsize : messageLen m < 2 ^ 64) : Restores serializeMessage deserializeMessage m := by
  cases m with
  | request reqId op addr => exact request_restores reqId hm.1 hm.2
  | response reqId opResult => exact response_restores reqId hm
  | log opId op => exact log_restores opId hm
  | ack opId => exact ack_restores opId
  | election candidateId candidateAddr => exact election_restores candidateId hm
  | electionOk responderId => exact electionOk_restores responderId
  | coordinator leaderId leaderAddr => exact coordinator_restores leaderId hm
  | join addr => exact join_restores hm
  | clusterView members leaderAddr database =>
    exact clusterView_restores hm.1 hm.2.1 hm.2.2 hsize
  | clusterUpdate newMember => exact clusterUpdate_restores hm
  | roleQuery addr => exact roleQuery_restores hm
  | roleResponse nodeId role => exact hm.elim

/-- Two members and a database of two accounts and three cards, with and without a limit. -/
theorem messageCodec_restores_example :
    Restores serializeMessage deserializeMessage
      (.clusterView [(132, .v4 0x7F000001 12345), (133, .v4 0x7F000001 12346)]
        (.v4 0x7F000001 12346)
        ⟨.v4 0x7F000001 12346, [⟨235, none, 0x41200000⟩, ⟨236, some 0x42C80000, 0⟩],
          [⟨235, 9, some 0x42480000, 0⟩, ⟨235, 10, none, 0x41200000⟩, ⟨236, 9, some 0, 0⟩]⟩) :=
  messageCodec_restores
    (.clusterView [(132, .v4 0x7F000001 12345), (133, .v4 0x7F000001 12346)]
      (.v4 0x7F000001 12346)
      ⟨.v4 0x7F000001 12346, [⟨235, none, 0x41200000⟩, ⟨236, some 0x42C80000, 0⟩],
        [⟨235, 9, some 0x42480000, 0⟩, ⟨235, 10, none, 0x41200000⟩, ⟨236, 9, some 0, 0⟩]⟩)
    ⟨by decide, rfl, rfl, by decide, by decide⟩ (by decide)

end YpfRuta.Network
