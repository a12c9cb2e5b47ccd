/-
  The errors of a reader: they are about the bytes, never about the connection, so the
  handler cannot take them for a lost peer.
-/
import YpfRuta.Network.Deserialization

namespace YpfRuta.Network

open Lib

variable {β γ : Type}

/-- The error is one of a deserializer. -/
def OfProtocol : AppError → Prop
  | .invalidData _ => True
  | .invalidProtocol _ => True
  | _ => False

/-- Whatever error the reader returns is about its bytes. -/
structure Blames (x : Dsr β) : Prop where
  ofProtocol : ∀ e, x = .error (.error e) → OfProtocol e

/-! ## The rules -/

@[simp] theorem blames_ok (x : β) : Blames (.ok x : Dsr β) where
  ofProtocol e he := by cases he

@[simp] theorem blames_pure (x : β) : Blames (pure x : Dsr β) := blames_ok x

@[simp] theorem blames_panic : Blames (.error .panic : Dsr β) where
  ofProtocol e he := by cases he

@[simp] theorem blames_invalidProtocol (details : String) :
    Blames (invalidProtocol details : Dsr β) where
  ofProtocol e he := by
    cases he
    exact True.intro

@[simp] theorem blames_invalidData (details : String) :
    Blames (.error (.error (.invalidData details)) : Dsr β) where
  ofProtocol e he := by
    cases he
    exact True.intro

@[simp] theorem blames_bind {x : Dsr β} {f : β → Dsr γ} :
    Blames (x >>= f) ↔ Blames x ∧ ∀ y, x = .ok y → Blames (f y) := by
  constructor
  · intro h
    refine ⟨⟨fun e he => h.ofProtocol e ?_⟩, fun y hy => ⟨fun e he => h.ofProtocol e ?_⟩⟩
    · rw [he]
      rfl
    · rw [hy]
      exact he
  · rintro ⟨hx, hf⟩
    cases x with
    | ok y => exact hf y rfl
    | error e =>
      refine ⟨fun e' he => hx.ofProtocol e' ?_⟩
      cases he
      rfl

@[simp] theorem blames_map {x : Dsr β} (f : β → γ) : Blames (f <$> x) ↔ Blames x := by
  rw [map_eq_pure_bind, blames_bind]
  exact and_iff_left fun y _ => blames_pure (f y)

@[simp] theorem blames_ite {p : Prop} [Decidable p] {x y : Dsr β} :
    Blames (if p then x else y) ↔ (p → Blames x) ∧ (¬ p → Blames y) := by
  by_cases hp : p <;> simp [hp]

/-! ## The readers -/

@[simp] theorem blames_firstByte (bytes : List UInt8) : Blames (firstByte bytes) := by
  cases bytes <;> simp [firstByte]

@[simp] theorem blames_sliceTo (len : Nat) (bytes : List UInt8) : Blames (sliceTo len bytes) := by
  simp [sliceTo]

@[simp] theorem blames_sliceFrom (ptr : Nat) (bytes : List UInt8) :
    Blames (sliceFrom ptr bytes) := by
  simp [sliceFrom]

@[simp] theorem blames_mulUsize (a b : Nat) : Blames (mulUsize a b) := by
  simp [mulUsize]

@[simp] theorem blames_textFrom (ptr : Nat) (text : String) : Blames (textFrom ptr text) := by
  unfold textFrom
  refine blames_bind.mpr ⟨blames_sliceFrom ptr _, fun bytes _ => ?_⟩
  cases fromUtf8 bytes with
  | ok rest => exact blames_ok rest
  | error e => exact blames_panic

@[simp] theorem blames_deserializeItems {item : List UInt8 → Dsr β} (h : ∀ bytes, Blames (item bytes))
    (itemLen : Nat) (bytes : List UInt8) (len ptr : Nat) :
    Blames (deserializeItems item itemLen bytes len ptr) := by
  induction len generalizing ptr with
  | zero => simp [deserializeItems]
  | succ len ih => simp [deserializeItems, h, ih]

@[simp] theorem blames_deserializeU16 (bytes : List UInt8) : Blames (deserializeU16 bytes) := by
  simp [deserializeU16]

@[simp] theorem blames_deserializeU32 (bytes : List UInt8) : Blames (deserializeU32 bytes) := by
  simp [deserializeU32]

@[simp] theorem blames_deserializeU64 (bytes : List UInt8) : Blames (deserializeU64 bytes) := by
  simp [deserializeU64]

@[simp] theorem blames_deserializeVecLen (bytes : List UInt8) :
    Blames (deserializeVecLen bytes) := by
  simp [deserializeVecLen]

@[simp] theorem blames_deserializeLimit (bytes : List UInt8) : Blames (deserializeLimit bytes) := by
  simp [deserializeLimit, deserializeAmount]

@[simp] theorem blames_deserializeSocketAddressSrl (bytes : List UInt8) :
    Blames (deserializeSocketAddressSrl bytes) := by
  simp [deserializeSocketAddressSrl]

@[simp] theorem blames_deserializeOpId (bytes : List UInt8) : Blames (deserializeOpId bytes) := by
  simp [deserializeOpId]

@[simp] theorem blames_deserializeAccountSnapshot (bytes : List UInt8) :
    Blames (deserializeAccountSnapshot bytes) := by
  simp [deserializeAccountSnapshot, deserializeAccountId, deserializeAmount]

@[simp] theorem blames_deserializeCardSnapshot (bytes : List UInt8) :
    Blames (deserializeCardSnapshot bytes) := by
  simp [deserializeCardSnapshot, deserializeAccountId, deserializeCardId, deserializeAmount]

@[simp] theorem blames_deserializeDatabaseSnapshot (bytes : List UInt8) :
    Blames (deserializeDatabaseSnapshot bytes) := by
  simp [deserializeDatabaseSnapshot]

@[simp] theorem blames_deserializeFromOfflineStation (bytes : List UInt8) :
    Blames (deserializeFromOfflineStation bytes) := by
  simp [deserializeFromOfflineStation]

@[simp] theorem blames_deserializePeriod (bytes : List UInt8) :
    Blames (deserializePeriod bytes) := by
  unfold deserializePeriod
  dsimp only
  cases fromUtf8 bytes with
  | ok s => simp
  | error e => exact blames_invalidProtocol _

@[simp] theorem blames_deserializeOperation (bytes : List UInt8) :
    Blames (deserializeOperation bytes) := by
  simp [deserializeOperation, deserializeChargeOperation, deserializeLimitAccountOperation,
    deserializeLimitCardOperation, deserializeQueryAccountOperation, deserializeBillOperation,
    deserializeGetDatabaseOperation, deserializeReplaceDatabaseOperation, deserializeAccountId,
    deserializeCardId, deserializeAmount]

@[simp] theorem blames_deserializeVerifyError (bytes : List UInt8) :
    Blames (deserializeVerifyError bytes) := by
  simp [deserializeVerifyError, deserializeLimitCheckError, deserializeLimitUpdateError]

@[simp] theorem blames_deserializeCardSpent (bytes : List UInt8) :
    Blames (deserializeCardSpent bytes) := by
  simp [deserializeCardSpent, deserializeCardId, deserializeAmount]

@[simp] theorem blames_deserializeOperationResult (bytes : List UInt8) :
    Blames (deserializeOperationResult bytes) := by
  simp [deserializeOperationResult, deserializeChargeResult, deserializeLimitAccountResult,
    deserializeLimitCardResult, deserializeAccountQueryResult, deserializeAccountId,
    deserializeAmount]

@[simp] theorem blames_deserializeMember (bytes : List UInt8) :
    Blames (deserializeMember bytes) := by
  simp [deserializeMember]

/-- **Bytes that are no message are not taken for a lost connection.** -/
theorem blames_deserializeMessage (bytes : List UInt8) : Blames (deserializeMessage bytes) := by
  simp [deserializeMessage, deserializeRequestMessage, deserializeLogMessage,
    deserializeAckMessage, deserializeJoinMessage, deserializeClusterViewMessage,
    deserializeClusterUpdateMessage, deserializeResponseMessage, deserializeRoleQueryMessage,
    deserializeCoordinatorMessage, deserializeElectionMessage, deserializeElectionOkMessage]

end YpfRuta.Network
