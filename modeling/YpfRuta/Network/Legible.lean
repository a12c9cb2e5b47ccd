/-
  The bytes no reader panics on.

  A reader slices its fields off at computed offsets and checks only some of them
  against the bytes it has, so bytes that stop short, or a list shorter than its length
  field says, end it in a panic. What is legible is said here in lengths and type bytes
  alone, one definition a reader, and no other bytes make a reader panic.
-/
import YpfRuta.Network.RoundTrip

namespace YpfRuta.Network

open Lib

variable {β γ : Type}

/-! ## Legible bytes -/

/-- The length field at `ptr`. -/
def vecLenAt (payload : List UInt8) (ptr : Nat) : Nat :=
  fromBeBytes ((payload.drop ptr).take VEC_LEN_LEN)

/-- Both lists are as long as they say, unless there is not even an address. -/
def LegibleSnapshot (payload : List UInt8) : Prop :=
  SOCKET_ADDR_LEN ≤ payload.length →
    let accountsLen := vecLenAt payload 6
    22 + 16 * accountsLen + 24 * vecLenAt payload (14 + 16 * accountsLen) ≤ payload.length

/-- A text starts with a character of one byte. -/
def LegiblePeriod (periodBytes : List UInt8) : Prop :=
  ∀ text, fromUtf8 periodBytes = .ok text → ∀ b ∈ periodBytes.head?, b.toNat < 128

def LegibleOperation : List UInt8 → Prop
  | [] => False
  | opType :: rest =>
    if opType = OP_TYPE_BILL then LegiblePeriod (rest.drop ACC_ID_SRL_LEN)
    else if opType = OP_REPLACE_DATABASE then LegibleSnapshot rest
    else True

def LegibleVerifyError : List UInt8 → Prop
  | [] => False
  | code :: rest => code = LIMIT_UPDATE_ERR → rest ≠ []

/-- The result of a charge or of an account's limit. -/
def LegibleVerdict : List UInt8 → Prop
  | [] => False
  | code :: rest => code = ERR → LegibleVerifyError rest

def LegibleResult : List UInt8 → Prop
  | [] => False
  | resultType :: rest =>
    if resultType = CHARGE_RESULT ∨ resultType = LIMIT_ACCOUNT_RESULT then LegibleVerdict rest
    else if resultType = LIMIT_CARD_RESULT then rest ≠ [] ∧ rest.head? ≠ some ERR
    else if resultType = ACC_QUERY_RESULT then 20 + 12 * vecLenAt rest 12 ≤ rest.length
    else True

/-- The members are there up to the last one's address, unless there are fewer bytes than
    members take, and so is a legible snapshot after the leader's address. -/
def LegibleClusterView (payload : List UInt8) : Prop :=
  let membersLen := vecLenAt payload 0
  8 ≤ payload.length ∧ 14 * membersLen < 2 ^ 64 ∧
    (14 * membersLen ≤ payload.length →
      (0 < membersLen → 14 * membersLen + 2 ≤ payload.length) ∧
      (14 * membersLen + 14 ≤ payload.length →
        LegibleSnapshot (payload.drop (14 * membersLen + 14))))

def LegibleMessage : List UInt8 → Prop
  | [] => False
  | msgType :: rest =>
    if msgType = MSG_TYPE_REQUEST then 10 ≤ rest.length → LegibleOperation (rest.drop 10)
    else if msgType = MSG_TYPE_LOG then 4 ≤ rest.length → LegibleOperation (rest.drop 4)
    else if msgType = MSG_TYPE_CLUSTER_VIEW then LegibleClusterView rest
    else if msgType = MSG_TYPE_RESPONSE then 4 ≤ rest.length → LegibleResult (rest.drop 4)
    else if msgType = MSG_TYPE_COORDINATOR ∨ msgType = MSG_TYPE_ELECTION ∨
        msgType = MSG_TYPE_ELECTION_OK then 8 ≤ rest.length
    else True

/-! ## Panics -/

def Panics (x : Dsr β) : Prop := x = .error .panic

theorem panics_bind {x : Dsr β} {k : β → Dsr γ} (h : Panics x) : Panics (x >>= k) := by
  unfold Panics at h ⊢
  rw [h]
  rfl

theorem not_panics_ok (x : β) : ¬ Panics (.ok x : Dsr β) := nofun

theorem not_panics_invalid (details : String) : ¬ Panics (invalidProtocol details : Dsr β) := nofun

/-- What is done with a value keeps a panic, and adds none. -/
theorem panics_map {x : Dsr β} {f : β → γ} : Panics (x >>= fun a => pure (f a)) ↔ Panics x := by
  cases x with
  | ok a => exact iff_of_false nofun nofun
  | error e =>
    constructor
    · intro h
      cases h
      rfl
    · exact panics_bind

/-- A dispatch on a type byte. -/
theorem panics_ite {c P : Prop} [Decidable c] {x y : Dsr β} (hx : c → (Panics x ↔ P))
    (hy : ¬ c → (Panics y ↔ P)) : Panics (if c then x else y) ↔ P := by
  by_cases hc : c
  · rw [if_pos hc]
    exact hx hc
  · rw [if_neg hc]
    exact hy hc

theorem sliceFrom_of_le {ptr : Nat} {payload : List UInt8} (h : ptr ≤ payload.length) :
    sliceFrom ptr payload = .ok (payload.drop ptr) := if_pos h

theorem sliceFrom_panics {ptr : Nat} {payload : List UInt8} (h : payload.length < ptr) :
    Panics (sliceFrom ptr payload) := if_neg (by omega)

/-- A reader that takes `n` bytes, and checks none of them. -/
structure Takes (read : List UInt8 → Dsr β) (n : Nat) : Prop where
  short : ∀ payload : List UInt8, payload.length < n → Panics (read payload)
  long : ∀ payload : List UInt8, n ≤ payload.length → ∃ x, read payload = .ok x

section Takes

variable {read : List UInt8 → Dsr β} {n ptr : Nat} {payload : List UInt8}

/-- A field that does not fit. -/
theorem Takes.cut (h : Takes read n) (hlt : payload.length < ptr + n) (k : β → Dsr γ) :
    Panics (sliceFrom ptr payload >>= fun slice => read slice >>= k) := by
  by_cases hptr : ptr ≤ payload.length
  · rw [sliceFrom_of_le hptr, ok_bind]
    refine panics_bind (h.short _ ?_)
    rw [List.length_drop]
    omega
  · exact panics_bind (sliceFrom_panics (by omega))

/-- A field that fits. -/
theorem Takes.fit (h : Takes read n) (hle : ptr + n ≤ payload.length) :
    ∃ x, read (payload.drop ptr) = .ok x ∧ ∀ {δ : Type} (k : β → Dsr δ),
      (sliceFrom ptr payload >>= fun slice => read slice >>= k) = k x := by
  obtain ⟨x, hx⟩ := h.long (payload.drop ptr) (by rw [List.length_drop]; omega)
  refine ⟨x, hx, ?_⟩
  intro δ k
  rw [sliceFrom_of_le (by omega), ok_bind, hx, ok_bind]

theorem Takes.map (h : Takes read n) (f : β → γ) :
    Takes (fun payload => read payload >>= fun x => pure (f x)) n where
  short payload hlt := panics_bind (h.short payload hlt)
  long payload hle := by
    obtain ⟨x, hx⟩ := h.long payload hle
    rw [hx]
    exact ⟨f x, rfl⟩

/-- A record's last field. -/
theorem Takes.last (h : Takes read n) (ptr : Nat) (f : β → γ) :
    Takes (fun payload => sliceFrom ptr payload >>= fun slice =>
      read slice >>= fun x => pure (f x)) (ptr + n) where
  short _ hlt := h.cut hlt _
  long payload hle := by
    obtain ⟨x, -, hx⟩ := h.fit hle
    rw [hx]
    exact ⟨f x, rfl⟩

/-- A field, with the record's other fields after it. -/
theorem Takes.next (h : Takes read n) {ptr len : Nat} {f : List UInt8 → β → Dsr γ}
    (hle : ptr + n ≤ len) (hf : ∀ x, Takes (fun payload => f payload x) len) :
    Takes (fun payload => sliceFrom ptr payload >>= fun slice => read slice >>= f payload) len where
  short payload hlt := by
    by_cases hfits : ptr + n ≤ payload.length
    · obtain ⟨x, -, hx⟩ := h.fit hfits
      rw [hx]
      exact (hf x).short payload hlt
    · exact h.cut (Nat.lt_of_not_le hfits) _
  long payload hlong := by
    obtain ⟨x, -, hx⟩ := h.fit (Nat.le_trans hle hlong)
    rw [hx]
    exact (hf x).long payload hlong

end Takes

theorem Takes.not_panics {read : List UInt8 → Dsr β} {n : Nat} (h : Takes read n)
    {payload : List UInt8} (hle : n ≤ payload.length) : ¬ Panics (read payload) := by
  obtain ⟨x, hx⟩ := h.long payload hle
  rw [hx]
  exact not_panics_ok x

theorem sliceTo_takes (n : Nat) : Takes (sliceTo n) n where
  short _ hlt := if_neg (by omega)
  long payload hle := ⟨payload.take n, if_pos hle⟩

theorem u16_takes : Takes deserializeU16 2 := (sliceTo_takes 2).map _
theorem u32_takes : Takes deserializeU32 4 := (sliceTo_takes 4).map _
theorem u64_takes : Takes deserializeU64 8 := (sliceTo_takes 8).map _
theorem vecLen_takes : Takes deserializeVecLen 8 := (sliceTo_takes 8).map _
theorem accountId_takes : Takes deserializeAccountId 8 := u64_takes
theorem cardId_takes : Takes deserializeCardId 8 := u64_takes
theorem amount_takes : Takes deserializeAmount 4 := u32_takes
theorem limit_takes : Takes deserializeLimit 4 := amount_takes.map _

theorem vecLen_fit {ptr : Nat} {payload : List UInt8} (h : ptr + 8 ≤ payload.length)
    (k : Nat → Dsr γ) :
    (sliceFrom ptr payload >>= fun slice => deserializeVecLen slice >>= k) =
      k (vecLenAt payload ptr) := by
  obtain ⟨n, hn, hk⟩ := vecLen_takes.fit h
  rw [hk]
  unfold deserializeVecLen sliceTo at hn
  rw [if_pos (by rw [List.length_drop]; exact Nat.le_sub_of_add_le' h)] at hn
  have hvalue : vecLenAt payload ptr = n := Except.ok.inj hn
  rw [hvalue]

/-! ## Records -/

theorem accountSnapshot_takes : Takes deserializeAccountSnapshot 16 :=
  accountId_takes.next (by decide) fun _ => limit_takes.next (by decide) fun _ =>
    amount_takes.last 12 _

theorem cardSnapshot_takes : Takes deserializeCardSnapshot 24 :=
  accountId_takes.next (by decide) fun _ => cardId_takes.next (by decide) fun _ =>
    limit_takes.next (by decide) fun _ => amount_takes.last 20 _

theorem cardSpent_takes : Takes deserializeCardSpent 12 :=
  cardId_takes.next (by decide) fun _ => amount_takes.last 8 _

/-- An address is checked for. -/
theorem socketAddress_ok {payload : List UInt8} (h : 6 ≤ payload.length) :
    ∃ addr, deserializeSocketAddressSrl payload = .ok addr := by
  obtain ⟨ip, hip⟩ := u32_takes.long payload (by omega)
  obtain ⟨port, -, hport⟩ := u16_takes.fit (show 4 + 2 ≤ payload.length from h)
  unfold deserializeSocketAddressSrl
  rw [if_neg (show ¬ payload.length < SOCKET_ADDR_LEN from Nat.not_lt.mpr h), hip, ok_bind, hport]
  exact ⟨_, rfl⟩

theorem socketAddress_error {payload : List UInt8} (h : payload.length < 6) :
    deserializeSocketAddressSrl payload =
      invalidProtocol "not enough bytes to deserialize socket_address_srl" := if_pos h

theorem socketAddress_not_panics (payload : List UInt8) :
    ¬ Panics (deserializeSocketAddressSrl payload) := by
  by_cases h : payload.length < 6
  · rw [socketAddress_error h]
    exact not_panics_invalid _
  · obtain ⟨addr, haddr⟩ := socketAddress_ok (Nat.le_of_not_lt h)
    rw [haddr]
    exact not_panics_ok addr

/-! ## Lists -/

section Items

variable {item : List UInt8 → Dsr β} {itemLen : Nat} {payload : List UInt8}

theorem items_fit (h : Takes item itemLen) {len ptr : Nat}
    (hle : ptr + itemLen * len ≤ payload.length) :
    ∃ xs, deserializeItems item itemLen payload len ptr = .ok (xs, ptr + itemLen * len) := by
  induction len generalizing ptr with
  | zero => exact ⟨[], rfl⟩
  | succ len ih =>
    rw [Nat.mul_succ] at hle
    obtain ⟨x, -, hx⟩ := h.fit (show ptr + itemLen ≤ payload.length by omega)
    obtain ⟨xs, hxs⟩ := ih (show ptr + itemLen + itemLen * len ≤ payload.length by omega)
    unfold deserializeItems
    rw [hx, hxs, ok_bind, Nat.mul_succ, Nat.add_comm (itemLen * len), ← Nat.add_assoc]
    exact ⟨_, rfl⟩

theorem items_cut (h : Takes item itemLen) {len ptr : Nat} (hptr : ptr ≤ payload.length)
    (hlt : payload.length < ptr + itemLen * len) :
    Panics (deserializeItems item itemLen payload len ptr) := by
  induction len generalizing ptr with
  | zero => omega
  | succ len ih =>
    rw [Nat.mul_succ] at hlt
    unfold deserializeItems
    by_cases hfits : ptr + itemLen ≤ payload.length
    · obtain ⟨x, -, hx⟩ := h.fit hfits
      rw [hx]
      exact panics_bind (ih hfits (by omega))
    · exact h.cut (by omega) _

end Items

theorem snapshot_panics_iff (payload : List UInt8) :
    Panics (deserializeDatabaseSnapshot payload) ↔ ¬ LegibleSnapshot payload := by
  unfold deserializeDatabaseSnapshot
  simp only [Nat.zero_add, sliceFrom_zero, ok_bind, show SOCKET_ADDR_LEN = 6 from rfl,
    show VEC_LEN_LEN = 8 from rfl, show ACC_SNAPSHOT_SRL_LEN = 16 from rfl,
    show CARD_SNAPSHOT_SRL_LEN = 24 from rfl, Nat.reduceAdd]
  by_cases haddr : payload.length < 6
  · rw [socketAddress_error haddr]
    exact iff_of_false nofun (not_not_intro fun h => absurd h (Nat.not_le.mpr haddr))
  have haddr : 6 ≤ payload.length := Nat.le_of_not_lt haddr
  have hlegible : ¬ LegibleSnapshot payload ↔ payload.length < 22 + 16 * vecLenAt payload 6 +
      24 * vecLenAt payload (14 + 16 * vecLenAt payload 6) := by
    rw [← Nat.not_le]
    exact not_congr (forall_prop_of_true haddr)
  rw [hlegible]
  obtain ⟨addr, hread⟩ := socketAddress_ok haddr
  rw [hread, ok_bind]
  by_cases haccounts : 6 + 8 ≤ payload.length
  · rw [vecLen_fit haccounts]
    generalize vecLenAt payload 6 = a
    by_cases hfits : 14 + 16 * a ≤ payload.length
    · obtain ⟨accounts, hitems⟩ := items_fit accountSnapshot_takes hfits
      rw [hitems, ok_bind]
      dsimp only
      by_cases hcards : 14 + 16 * a + 8 ≤ payload.length
      · rw [vecLen_fit hcards]
        generalize vecLenAt payload (14 + 16 * a) = c
        by_cases hall : 14 + 16 * a + 8 + 24 * c ≤ payload.length
        · obtain ⟨cards, hitems⟩ := items_fit cardSnapshot_takes hall
          rw [hitems, ok_bind]
          exact iff_of_false nofun (by omega)
        · exact iff_of_true (panics_bind (items_cut cardSnapshot_takes hcards (by omega)))
            (by omega)
      · exact iff_of_true (vecLen_takes.cut (by omega) _) (by omega)
    · exact iff_of_true (panics_bind (items_cut accountSnapshot_takes haccounts (by omega)))
        (by omega)
  · exact iff_of_true (vecLen_takes.cut (by omega) _) (by omega)

/-! ## Operations -/

theorem fromUtf8_ok {bytes : List UInt8} {text : String} (h : fromUtf8 bytes = .ok text) :
    utf8Bytes text = bytes := by
  unfold fromUtf8 String.fromUTF8? at h
  split at h
  · rename_i t ht
    split at ht
    · cases ht
      cases h
      apply List.toByteArray_inj.mp
      rw [utf8Bytes_toByteArray]
      rfl
    · cases ht
  · cases h

/-- What is left of a text without a first character of one byte is a text. -/
theorem fromUtf8_tail {b : UInt8} {rest : List UInt8} {text : String} (hlow : b.toNat < 128)
    (h : utf8Bytes text = b :: rest) : ∃ text', fromUtf8 rest = .ok text' := by
  have hvalid : (b :: rest).toByteArray.IsValidUTF8 := by
    rw [← h, utf8Bytes_toByteArray]
    exact text.isValidUTF8
  have hsplit : (b :: rest).toByteArray = [asciiChar b].utf8Encode ++ rest.toByteArray := by
    rw [← String.toByteArray_singleton, asciiChar_bytes hlow, ← List.toByteArray_append]
    rfl
  rw [hsplit, ByteArray.isValidUTF8_utf8Encode_singleton_append_iff] at hvalid
  unfold fromUtf8 String.fromUTF8?
  rw [dif_pos hvalid]
  exact ⟨_, rfl⟩

theorem textFrom_panics_iff {b : UInt8} {rest : List UInt8} {text : String}
    (h : utf8Bytes text = b :: rest) : Panics (textFrom 1 text) ↔ ¬ b.toNat < 128 := by
  unfold textFrom
  rw [h, sliceFrom_one_cons, ok_bind]
  constructor
  · intro hpanics hlow
    obtain ⟨text', hrest⟩ := fromUtf8_tail hlow h
    rw [hrest] at hpanics
    cases hpanics
  · intro hhigh
    cases hrest : fromUtf8 rest with
    | error e => rfl
    | ok text' =>
      have hhead := fromUtf8_high_cons (Nat.le_of_not_lt hhigh) text'
      rw [fromUtf8_ok hrest, ← h, fromUtf8_utf8Bytes] at hhead
      cases hhead

theorem period_panics_iff {periodBytes : List UInt8} (hne : periodBytes ≠ []) :
    Panics (deserializePeriod periodBytes) ↔ ¬ LegiblePeriod periodBytes := by
  obtain ⟨b, rest, rfl⟩ := List.exists_cons_of_ne_nil hne
  unfold deserializePeriod
  cases htext : fromUtf8 (b :: rest) with
  | error e =>
    refine iff_of_false (not_panics_invalid _) (not_not_intro fun text h => ?_)
    rw [htext] at h
    cases h
  | ok text =>
    have hbytes := fromUtf8_ok htext
    have hlegible : LegiblePeriod (b :: rest) ↔ b.toNat < 128 := by
      constructor
      · exact fun h => h text htext b rfl
      · intro hlow text' _ b' hb'
        cases hb'
        exact hlow
    dsimp only
    rw [hlegible]
    by_cases hnul : text = "\x00"
    · rw [if_pos hnul]
      refine iff_of_false (not_panics_ok _) (not_not_intro ?_)
      subst hnul
      cases (List.cons.inj hbytes).1
      decide
    · rw [if_neg hnul, ← textFrom_panics_iff hbytes]
      exact panics_map

theorem charge_not_panics (payload : List UInt8) :
    ¬ Panics (deserializeChargeOperation payload) := by
  unfold deserializeChargeOperation
  by_cases hlen : payload.length ≠ CHARGE_SRL_LEN
  · rw [if_pos hlen]
    exact not_panics_invalid _
  · rw [if_neg hlen]
    have hlen : payload.length = 21 := not_not.mp hlen
    obtain ⟨accountId, -, haccount⟩ := accountId_takes.fit
      (show 0 + 8 ≤ payload.length by omega)
    obtain ⟨cardId, -, hcard⟩ := cardId_takes.fit
      (show 8 + 8 ≤ payload.length by omega)
    obtain ⟨amount, -, hamount⟩ := amount_takes.fit
      (show 16 + 4 ≤ payload.length by omega)
    rw [haccount, show 0 + ACC_ID_SRL_LEN = 8 from rfl, hcard,
      show 8 + CARD_ID_SRL_LEN = 16 from rfl, hamount, show 16 + AMOUNT_SRL_LEN = 20 from rfl]
    dsimp only
    rw [sliceFrom_of_le (by omega), ok_bind]
    obtain ⟨flag, hflag⟩ := (sliceTo_takes OFFLINE_SRL_LEN).long (payload.drop 20)
      (by rw [List.length_drop, hlen]; decide)
    unfold deserializeFromOfflineStation
    rw [hflag, ok_bind]
    split
    · exact not_panics_ok _
    · split
      · exact not_panics_ok _
      · exact not_panics_invalid _

theorem limitAccount_not_panics (payload : List UInt8) :
    ¬ Panics (deserializeLimitAccountOperation payload) := by
  have htakes : Takes (fun payload => sliceFrom 0 payload >>= fun slice =>
      deserializeAccountId slice >>= fun accountId => sliceFrom 8 payload >>= fun slice =>
        deserializeLimit slice >>= fun newLimit =>
          pure (Operation.limitAccount accountId newLimit)) 12 :=
    accountId_takes.next (by decide) fun _ => limit_takes.last 8 _
  unfold deserializeLimitAccountOperation
  by_cases hlen : payload.length ≠ LIMIT_ACC_SRL_LEN
  · rw [if_pos hlen]
    exact not_panics_invalid _
  · rw [if_neg hlen]
    exact htakes.not_panics (Nat.le_of_eq (not_not.mp hlen).symm)

theorem limitCard_not_panics (payload : List UInt8) :
    ¬ Panics (deserializeLimitCardOperation payload) := by
  have htakes : Takes (fun payload => sliceFrom 0 payload >>= fun slice =>
      deserializeAccountId slice >>= fun accountId => sliceFrom 8 payload >>= fun slice =>
        deserializeCardId slice >>= fun cardId => sliceFrom 16 payload >>= fun slice =>
          deserializeLimit slice >>= fun newLimit =>
            pure (Operation.limitCard accountId cardId newLimit)) 20 :=
    accountId_takes.next (by decide) fun _ => cardId_takes.next (by decide) fun _ =>
      limit_takes.last 16 _
  unfold deserializeLimitCardOperation
  by_cases hlen : payload.length ≠ LIMIT_CARD_SRL_LEN
  · rw [if_pos hlen]
    exact not_panics_invalid _
  · rw [if_neg hlen]
    exact htakes.not_panics (Nat.le_of_eq (not_not.mp hlen).symm)

theorem queryAccount_not_panics (payload : List UInt8) :
    ¬ Panics (deserializeQueryAccountOperation payload) := by
  unfold deserializeQueryAccountOperation
  by_cases hlen : payload.length ≠ ACC_ID_SRL_LEN
  · rw [if_pos hlen]
    exact not_panics_invalid _
  · rw [if_neg hlen]
    exact (accountId_takes.last 0 Operation.accountQuery).not_panics
      (Nat.le_of_eq (not_not.mp hlen).symm)

theorem bill_panics_iff (payload : List UInt8) :
    Panics (deserializeBillOperation payload) ↔
      ¬ LegiblePeriod (payload.drop ACC_ID_SRL_LEN) := by
  have hnil : LegiblePeriod [] := fun _ _ _ hb => nomatch hb
  unfold deserializeBillOperation
  by_cases hshort : payload.length < ACC_ID_SRL_LEN
  · rw [if_pos hshort, List.drop_eq_nil_of_le (by omega)]
    exact iff_of_false (not_panics_invalid _) (not_not_intro hnil)
  · rw [if_neg hshort]
    obtain ⟨accountId, -, haccount⟩ := accountId_takes.fit
      (show 0 + 8 ≤ payload.length from Nat.le_of_not_lt hshort)
    rw [haccount, Nat.zero_add]
    dsimp only
    by_cases hmore : payload.length > ACC_ID_SRL_LEN
    · have hne : payload.drop ACC_ID_SRL_LEN ≠ [] := by
        rw [ne_eq, List.drop_eq_nil_iff]
        omega
      rw [if_pos hmore, sliceFrom_of_le (by omega), ok_bind, ← period_panics_iff hne]
      exact panics_map
    · rw [if_neg hmore, List.drop_eq_nil_of_le (by omega)]
      exact iff_of_false (not_panics_ok _) (not_not_intro hnil)

theorem operation_panics_iff (payload : List UInt8) :
    Panics (deserializeOperation payload) ↔ ¬ LegibleOperation payload := by
  cases payload with
  | nil => exact iff_of_true rfl not_false
  | cons opType rest =>
    have hfixed : ∀ {x : Dsr (Operation F32)}, ¬ Panics x → LegibleOperation (opType :: rest) →
        (Panics x ↔ ¬ LegibleOperation (opType :: rest)) :=
      fun hx h => iff_of_false hx (not_not_intro h)
    rw [deserializeOperation_cons]
    refine panics_ite (fun h => hfixed (charge_not_panics rest) (h ▸ trivial)) fun _ => ?_
    refine panics_ite (fun h => hfixed (limitAccount_not_panics rest) (h ▸ trivial)) fun _ => ?_
    refine panics_ite (fun h => hfixed (limitCard_not_panics rest) (h ▸ trivial)) fun _ => ?_
    refine panics_ite (fun h => hfixed (queryAccount_not_panics rest) (h ▸ trivial)) fun _ => ?_
    refine panics_ite (fun h => ?_) fun hbill => ?_
    · subst h
      exact bill_panics_iff rest
    refine panics_ite (fun h => ?_) fun _ => ?_
    · exact hfixed (panics_map.not.mpr (socketAddress_not_panics rest)) (h ▸ trivial)
    refine panics_ite (fun h => ?_) fun hreplace => ?_
    · subst h
      exact panics_map.trans (snapshot_panics_iff rest)
    · refine hfixed (not_panics_invalid _) ?_
      show if _ then _ else _
      rw [if_neg hbill, if_neg hreplace]
      trivial

/-! ## Results -/

theorem verifyError_panics_iff (payload : List UInt8) :
    Panics (deserializeVerifyError payload) ↔ ¬ LegibleVerifyError payload := by
  cases payload with
  | nil => exact iff_of_true rfl not_false
  | cons code rest =>
    unfold deserializeVerifyError firstByte
    rw [ok_bind]
    refine panics_ite (fun h => ?_) fun _ => panics_ite (fun h => ?_) fun hupdate => ?_
    · subst h
      refine iff_of_false ?_ (not_not_intro fun h => absurd h (by decide))
      rw [sliceFrom_one_cons, ok_bind]
      refine panics_map.not.mpr ?_
      unfold deserializeLimitCheckError
      cases rest with
      | nil => exact not_panics_invalid _
      | cons check more =>
        rw [if_neg (by rw [List.length_cons]; exact Nat.not_lt.mpr (Nat.le_add_left 1 _))]
        unfold firstByte
        rw [ok_bind]
        split
        · exact not_panics_ok _
        · split
          · exact not_panics_ok _
          · exact not_panics_invalid _
    · subst h
      rw [sliceFrom_one_cons, ok_bind]
      refine panics_map.trans ?_
      cases rest with
      | nil => exact iff_of_true rfl fun h => h rfl rfl
      | cons usage more =>
        refine iff_of_false ?_ (not_not_intro fun _ => List.cons_ne_nil usage more)
        unfold deserializeLimitUpdateError firstByte
        rw [ok_bind]
        split
        · exact not_panics_ok _
        · exact not_panics_invalid _
    · exact iff_of_false (not_panics_invalid _) (not_not_intro fun h => absurd h hupdate)

/-- What charge results and account limit results have in common. -/
theorem verdict_panics_iff (read : List UInt8 → Dsr β) (done : β) (failed : VerifyError → β)
    (unknown : UInt8 → String) (hnil : Panics (read []))
    (hread : ∀ code rest, read (code :: rest) =
      if code = OK then pure done
      else if code = ERR then deserializeVerifyError rest >>= fun e => pure (failed e)
      else invalidProtocol (unknown code)) (payload : List UInt8) :
    Panics (read payload) ↔ ¬ LegibleVerdict payload := by
  cases payload with
  | nil => exact iff_of_true hnil not_false
  | cons code rest =>
    rw [hread]
    refine panics_ite (fun h => ?_) fun _ => panics_ite (fun h => ?_) fun herr => ?_
    · subst h
      exact iff_of_false (not_panics_ok done) (not_not_intro fun h => absurd h (by decide))
    · have hlegible : LegibleVerdict (code :: rest) ↔ LegibleVerifyError rest :=
        forall_prop_of_true h
      rw [hlegible, ← verifyError_panics_iff]
      exact panics_map
    · exact iff_of_false (not_panics_invalid _) (not_not_intro fun h => absurd h herr)

theorem chargeResult_panics_iff (payload : List UInt8) :
    Panics (deserializeChargeResult payload) ↔ ¬ LegibleVerdict payload :=
  verdict_panics_iff deserializeChargeResult (.charge .ok) (fun e => .charge (.failed e))
    (fun code => s!"unknown charge result {code}") rfl (fun _ _ => rfl) payload

theorem limitAccountResult_panics_iff (payload : List UInt8) :
    Panics (deserializeLimitAccountResult payload) ↔ ¬ LegibleVerdict payload :=
  verdict_panics_iff deserializeLimitAccountResult (.limitAccount .ok)
    (fun e => .limitAccount (.failed e)) (fun code => s!"unknown limit card result {code}") rfl
    (fun _ _ => rfl) payload

theorem limitCardResult_panics_iff (payload : List UInt8) :
    Panics (deserializeLimitCardResult payload) ↔
      ¬ (payload ≠ [] ∧ payload.head? ≠ some ERR) := by
  cases payload with
  | nil => exact iff_of_true rfl fun h => h.1 rfl
  | cons code rest =>
    unfold deserializeLimitCardResult firstByte
    rw [ok_bind]
    refine panics_ite (fun h => ?_) fun _ => panics_ite (fun h => ?_) fun herr => ?_
    · subst h
      exact iff_of_false (not_panics_ok _)
        (not_not_intro ⟨List.cons_ne_nil _ _, by rw [List.head?_cons]; decide⟩)
    · exact iff_of_true rfl fun hne => hne.2 (congrArg some h)
    · refine iff_of_false (not_panics_invalid _) (not_not_intro ⟨List.cons_ne_nil _ _, ?_⟩)
      exact fun h => herr (Option.some.inj h)

theorem accountQueryResult_panics_iff (payload : List UInt8) :
    Panics (deserializeAccountQueryResult payload) ↔
      ¬ 20 + 12 * vecLenAt payload 12 ≤ payload.length := by
  unfold deserializeAccountQueryResult
  simp only [Nat.zero_add, show ACC_ID_SRL_LEN = 8 from rfl, show AMOUNT_SRL_LEN = 4 from rfl,
    show PER_CARD_SPENT_LEN = 8 from rfl, show CARD_SPENT_LEN = 12 from rfl, Nat.reduceAdd]
  by_cases hid : 0 + 8 ≤ payload.length
  · obtain ⟨accountId, -, hid⟩ := accountId_takes.fit hid
    rw [hid]
    by_cases htotal : 8 + 4 ≤ payload.length
    · obtain ⟨totalSpent, -, htotal⟩ := amount_takes.fit htotal
      rw [htotal]
      by_cases hlen : 12 + 8 ≤ payload.length
      · rw [vecLen_fit hlen]
        generalize vecLenAt payload 12 = n
        by_cases hall : 20 + 12 * n ≤ payload.length
        · obtain ⟨perCardSpent, hitems⟩ := items_fit cardSpent_takes hall
          rw [hitems, ok_bind]
          exact iff_of_false nofun (not_not_intro hall)
        · exact iff_of_true (panics_bind (items_cut cardSpent_takes hlen (by omega))) hall
      · exact iff_of_true (vecLen_takes.cut (by omega) _) (by omega)
    · exact iff_of_true (amount_takes.cut (by omega) _) (by omega)
  · exact iff_of_true (accountId_takes.cut (by omega) _) (by omega)

theorem result_panics_iff (payload : List UInt8) :
    Panics (deserializeOperationResult payload) ↔ ¬ LegibleResult payload := by
  cases payload with
  | nil => exact iff_of_true rfl not_false
  | cons resultType rest =>
    rw [deserializeOperationResult_cons]
    refine panics_ite (fun h => ?_) fun hcharge => panics_ite (fun h => ?_) fun haccount =>
      panics_ite (fun h => ?_) fun hcard => panics_ite (fun h => ?_) fun hquery => ?_
    · subst h
      exact chargeResult_panics_iff rest
    · subst h
      exact limitAccountResult_panics_iff rest
    · subst h
      exact limitCardResult_panics_iff rest
    · subst h
      exact accountQueryResult_panics_iff rest
    · refine iff_of_false (not_panics_invalid _) (not_not_intro ?_)
      show if _ then _ else _
      rw [if_neg (not_or.mpr ⟨hcharge, haccount⟩), if_neg hcard, if_neg hquery]
      trivial

/-! ## Members -/

theorem member_ok {payload : List UInt8} (h : 14 ≤ payload.length) :
    ∃ member, deserializeMember payload = .ok member := by
  obtain ⟨id, hid⟩ := u64_takes.long payload (by omega)
  obtain ⟨addr, haddr⟩ := socketAddress_ok
    (show 6 ≤ (payload.drop 8).length by rw [List.length_drop]; omega)
  unfold deserializeMember
  simp only [Nat.zero_add, show NODE_ID_SRL_LEN = 8 from rfl]
  rw [hid, ok_bind, sliceFrom_of_le (by omega), ok_bind, haddr]
  exact ⟨(id, addr), rfl⟩

/-- A member whose address does not fit. -/
theorem member_error {payload : List UInt8} (hid : 8 ≤ payload.length)
    (h : payload.length < 14) : ∃ details, deserializeMember payload = invalidProtocol details := by
  obtain ⟨id, hread⟩ := u64_takes.long payload hid
  unfold deserializeMember
  simp only [Nat.zero_add, show NODE_ID_SRL_LEN = 8 from rfl]
  rw [hread, ok_bind, sliceFrom_of_le hid, ok_bind,
    socketAddress_error (by rw [List.length_drop]; omega)]
  exact ⟨_, rfl⟩

/-- When all but the last member are sure to fit, the last one's id decides. -/
theorem members_cases {payload : List UInt8} {len ptr : Nat}
    (h : ptr + 14 * len ≤ payload.length + 8) :
    (Panics (deserializeItems deserializeMember MEMBER_SRL_LEN payload len ptr) ∧
      0 < len ∧ payload.length + 6 < ptr + 14 * len) ∨
    ((∃ details, deserializeItems deserializeMember MEMBER_SRL_LEN payload len ptr =
        invalidProtocol details) ∧ ptr + 14 * len ≤ payload.length + 6 ∧
      payload.length < ptr + 14 * len) ∨
    ((∃ members, deserializeItems deserializeMember MEMBER_SRL_LEN payload len ptr =
        .ok (members, ptr + 14 * len)) ∧ (len = 0 ∨ ptr + 14 * len ≤ payload.length)) := by
  induction len generalizing ptr with
  | zero => exact .inr (.inr ⟨⟨[], rfl⟩, .inl rfl⟩)
  | succ len ih =>
    rw [Nat.mul_succ] at h ⊢
    have hslice := sliceFrom_of_le (show ptr ≤ payload.length by omega)
    unfold deserializeItems
    rw [hslice, ok_bind]
    by_cases hfits : ptr + 14 ≤ payload.length
    · obtain ⟨member, hmember⟩ := member_ok
        (show 14 ≤ (payload.drop ptr).length by rw [List.length_drop]; omega)
      rw [hmember, ok_bind]
      have hnext : ptr + MEMBER_SRL_LEN = ptr + 14 := rfl
      rw [hnext]
      rcases ih (show ptr + 14 + 14 * len ≤ payload.length + 8 by omega) with
        ⟨hpanics, hpos, hcut⟩ | ⟨⟨details, herr⟩, hid, hcut⟩ | ⟨⟨members, hok⟩, hall⟩
      · exact .inl ⟨panics_bind hpanics, Nat.succ_pos len, by omega⟩
      · refine .inr (.inl ⟨⟨details, ?_⟩, by omega, by omega⟩)
        rw [herr]
        rfl
      · refine .inr (.inr ⟨⟨member :: members, ?_⟩, .inr (by omega)⟩)
        rw [hok, ok_bind, Nat.add_assoc ptr 14, Nat.add_comm 14]
        rfl
    · by_cases hid : ptr + 8 ≤ payload.length
      · obtain ⟨details, herr⟩ := member_error
          (show 8 ≤ (payload.drop ptr).length by rw [List.length_drop]; omega)
          (by rw [List.length_drop]; omega)
        refine .inr (.inl ⟨⟨details, ?_⟩, by omega, by omega⟩)
        rw [herr]
        rfl
      · refine .inl ⟨panics_bind (panics_bind (u64_takes.short _ ?_)), Nat.succ_pos len, by omega⟩
        rw [List.length_drop]
        omega

/-! ## Messages -/

theorem opId_ok {payload : List UInt8} (h : 4 ≤ payload.length) :
    ∃ opId, deserializeOpId payload = .ok opId := by
  obtain ⟨opId, hread⟩ := u32_takes.long payload h
  unfold deserializeOpId
  rw [if_neg (show ¬ payload.length < OP_ID_SRL_LEN from Nat.not_lt.mpr h)]
  exact ⟨opId, hread⟩

theorem opId_error {payload : List UInt8} (h : payload.length < 4) :
    deserializeOpId payload = invalidProtocol "not enough bytes to deserialize op_id" := if_pos h

/-- What follows an op id. -/
theorem afterOpId_panics_iff (read : List UInt8 → Dsr β) (legible : List UInt8 → Prop)
    (hread : ∀ payload, Panics (read payload) ↔ ¬ legible payload) (f : OpId → β → Message F32)
    (payload : List UInt8) :
    Panics (sliceFrom 0 payload >>= fun slice => deserializeOpId slice >>= fun opId =>
      sliceFrom 4 payload >>= fun slice => read slice >>= fun x =>
        (pure (f opId x) : Dsr (Message F32))) ↔
      ¬ (4 ≤ payload.length → legible (payload.drop 4)) := by
  rw [sliceFrom_zero, ok_bind]
  by_cases hid : 4 ≤ payload.length
  · obtain ⟨opId, hopId⟩ := opId_ok hid
    rw [hopId, ok_bind, sliceFrom_of_le hid, ok_bind, panics_map, hread, forall_prop_of_true hid]
  · rw [opId_error (Nat.lt_of_not_le hid)]
    exact iff_of_false nofun (not_not_intro fun h => absurd h hid)

theorem request_panics_iff (payload : List UInt8) :
    Panics (deserializeRequestMessage payload) ↔
      ¬ (10 ≤ payload.length → LegibleOperation (payload.drop 10)) := by
  unfold deserializeRequestMessage
  simp only [Nat.zero_add, sliceFrom_zero, ok_bind, show OP_ID_SRL_LEN = 4 from rfl,
    show SOCKET_ADDR_LEN = 6 from rfl, Nat.reduceAdd]
  by_cases hall : 10 ≤ payload.length
  · obtain ⟨opId, hopId⟩ := opId_ok (show 4 ≤ payload.length by omega)
    obtain ⟨addr, haddr⟩ := socketAddress_ok
      (show 6 ≤ (payload.drop 4).length by rw [List.length_drop]; omega)
    rw [hopId, ok_bind, sliceFrom_of_le (by omega), ok_bind, haddr, ok_bind,
      sliceFrom_of_le hall, ok_bind, panics_map, operation_panics_iff, forall_prop_of_true hall]
  · refine iff_of_false ?_ (not_not_intro fun h => absurd h hall)
    by_cases hid : 4 ≤ payload.length
    · obtain ⟨opId, hopId⟩ := opId_ok hid
      rw [hopId, ok_bind, sliceFrom_of_le hid, ok_bind,
        socketAddress_error (by rw [List.length_drop]; omega)]
      nofun
    · rw [opId_error (Nat.lt_of_not_le hid)]
      nofun

/-- An id, with an address behind it. -/
theorem nodeId_panics_iff (f : NodeId → SocketAddr → Message F32) (payload : List UInt8) :
    Panics (sliceFrom 0 payload >>= fun slice => deserializeU64 slice >>= fun id =>
      sliceFrom 8 payload >>= fun slice => deserializeSocketAddressSrl slice >>= fun addr =>
        (pure (f id addr) : Dsr (Message F32))) ↔ ¬ 8 ≤ payload.length := by
  by_cases hid : 8 ≤ payload.length
  · obtain ⟨id, -, hread⟩ := u64_takes.fit (show 0 + 8 ≤ payload.length by omega)
    rw [hread, sliceFrom_of_le hid, ok_bind, panics_map]
    exact iff_of_false (socketAddress_not_panics _) (not_not_intro hid)
  · exact iff_of_true (u64_takes.cut (by omega) _) hid

theorem clusterUpdate_not_panics (payload : List UInt8) :
    ¬ Panics (deserializeClusterUpdateMessage payload) := by
  unfold deserializeClusterUpdateMessage
  by_cases hlen : payload.length < MEMBER_SRL_LEN
  · rw [if_pos hlen]
    exact not_panics_invalid _
  · obtain ⟨member, hmember⟩ := member_ok (Nat.le_of_not_lt hlen)
    rw [if_neg hlen, hmember]
    nofun

theorem clusterView_panics_iff (payload : List UInt8) :
    Panics (deserializeClusterViewMessage payload) ↔ ¬ LegibleClusterView payload := by
  unfold deserializeClusterViewMessage LegibleClusterView
  simp only [Nat.zero_add, show VEC_LEN_LEN = 8 from rfl, show SOCKET_ADDR_LEN = 6 from rfl]
  by_cases hlen : 0 + 8 ≤ payload.length
  swap
  · exact iff_of_true (vecLen_takes.cut (by omega) _) fun h => by omega
  rw [vecLen_fit hlen]
  generalize vecLenAt payload 0 = n
  by_cases hmul : 14 * n < 2 ^ 64
  swap
  · refine iff_of_true (panics_bind (if_neg hmul)) fun h => hmul h.2.1
  rw [show mulUsize MEMBER_SRL_LEN n = .ok (14 * n) from if_pos hmul, ok_bind]
  by_cases henough : payload.length < 14 * n
  · rw [if_pos henough]
    exact iff_of_false nofun (not_not_intro ⟨by omega, hmul, fun h => by omega⟩)
  rw [if_neg henough]
  rcases members_cases (show 8 + 14 * n ≤ payload.length + 8 by omega) with
    ⟨hpanics, hpos, hcut⟩ | ⟨⟨details, herr⟩, hid, hcut⟩ | ⟨⟨members, hok⟩, hall⟩
  · refine iff_of_true (panics_bind hpanics) fun h => ?_
    have hlast := (h.2.2 (by omega)).1 hpos
    omega
  · rw [herr]
    exact iff_of_false nofun
      (not_not_intro ⟨by omega, hmul, fun _ => ⟨fun _ => by omega, fun h => by omega⟩⟩)
  · have hptr : 8 + 14 * n ≤ payload.length := by omega
    rw [hok, ok_bind]
    dsimp only
    rw [sliceFrom_of_le hptr, ok_bind]
    by_cases haddr : 14 * n + 14 ≤ payload.length
    · obtain ⟨addr, hread⟩ := socketAddress_ok
        (show 6 ≤ (payload.drop (8 + 14 * n)).length by rw [List.length_drop]; omega)
      have hsnapshot : 8 + 14 * n + 6 = 14 * n + 14 := by omega
      rw [hread, ok_bind, hsnapshot, sliceFrom_of_le haddr, ok_bind, panics_map,
        snapshot_panics_iff]
      refine not_congr ⟨fun h => ⟨by omega, hmul, fun _ => ⟨fun _ => by omega, fun _ => h⟩⟩, ?_⟩
      exact fun h => (h.2.2 (by omega)).2 haddr
    · rw [socketAddress_error (by rw [List.length_drop]; omega)]
      exact iff_of_false nofun
        (not_not_intro ⟨by omega, hmul, fun _ => ⟨fun _ => by omega, fun h => absurd h haddr⟩⟩)

theorem deserializeMessage_panics_iff (payload : List UInt8) :
    Panics (deserializeMessage payload) ↔ ¬ LegibleMessage payload := by
  cases payload with
  | nil => exact iff_of_true rfl not_false
  | cons msgType rest =>
    have hchecked : ∀ {x : Dsr (Message F32)}, ¬ Panics x → LegibleMessage (msgType :: rest) →
        (Panics x ↔ ¬ LegibleMessage (msgType :: rest)) :=
      fun hx h => iff_of_false hx (not_not_intro h)
    rw [deserializeMessage_cons]
    refine panics_ite (fun h => ?_) fun hrequest => panics_ite (fun h => ?_) fun hlog => ?_
    · subst h
      exact request_panics_iff rest
    · subst h
      exact afterOpId_panics_iff deserializeOperation LegibleOperation operation_panics_iff
        Message.log rest
    refine panics_ite (fun h => ?_) fun _ => panics_ite (fun h => ?_) fun _ => ?_
    · refine hchecked ?_ (h ▸ trivial)
      unfold deserializeAckMessage
      rw [sliceFrom_zero, ok_bind, panics_map]
      by_cases hid : 4 ≤ rest.length
      · obtain ⟨opId, hopId⟩ := opId_ok hid
        rw [hopId]
        exact not_panics_ok opId
      · rw [opId_error (Nat.lt_of_not_le hid)]
        exact not_panics_invalid _
    · exact hchecked (panics_map.not.mpr (socketAddress_not_panics rest)) (h ▸ trivial)
    refine panics_ite (fun h => ?_) fun hview => panics_ite (fun h => ?_) fun _ => ?_
    · subst h
      exact clusterView_panics_iff rest
    · exact hchecked (clusterUpdate_not_panics rest) (h ▸ trivial)
    refine panics_ite (fun h => ?_) fun hresponse => panics_ite (fun h => ?_) fun _ => ?_
    · subst h
      exact afterOpId_panics_iff deserializeOperationResult LegibleResult result_panics_iff
        Message.response rest
    · exact hchecked (panics_map.not.mpr (socketAddress_not_panics rest)) (h ▸ trivial)
    refine panics_ite (fun h => ?_) fun hcoordinator => panics_ite (fun h => ?_) fun helection =>
      panics_ite (fun h => ?_) fun hok => ?_
    · subst h
      exact nodeId_panics_iff Message.coordinator rest
    · subst h
      exact nodeId_panics_iff Message.election rest
    · subst h
      refine panics_map.trans ⟨fun hpanics hid => ?_, fun hid => ?_⟩
      · exact u64_takes.not_panics hid hpanics
      · exact u64_takes.short rest (Nat.lt_of_not_le hid)
    · refine hchecked nofun ?_
      show if _ then _ else _
      rw [if_neg hrequest, if_neg hlog, if_neg hview, if_neg hresponse,
        if_neg (not_or.mpr ⟨hcoordinator, not_or.mpr ⟨helection, hok⟩⟩)]
      trivial

/-- **No reader panics on legible bytes, and on no others is it safe.** -/
theorem deserializeMessage_returns_iff (payload : List UInt8) :
    deserializeMessage payload ≠ .error .panic ↔ LegibleMessage payload :=
  not_iff_comm.mp (deserializeMessage_panics_iff payload).symm

/-- A request that ends behind its address. -/
theorem deserializeMessage_panics :
    ¬ ∀ payload : List UInt8, deserializeMessage payload ≠ .error .panic := by
  intro hall
  exact hall [MSG_TYPE_REQUEST, 0, 0, 0, 1, 127, 0, 0, 1, 48, 57] rfl

end YpfRuta.Network
