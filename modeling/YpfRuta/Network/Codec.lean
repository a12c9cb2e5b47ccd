/-
  What is written is read back: a reader handed a value's bytes, and whatever comes
  after them, returns the value.
-/
import YpfRuta.Network.Deserialization
import YpfRuta.Network.Lengths
import Mathlib.Data.List.Forall2

namespace YpfRuta

def SocketAddr.isIpv4 : SocketAddr → Bool
  | .v4 .. => true
  | .v6 .. => false

end YpfRuta

namespace YpfRuta.Network

open Lib

variable {β : Type}

/-- `read` finds `x` at the front of any bytes that start with these. -/
def Reads (read : List UInt8 → Dsr β) (bytes : List UInt8) (x : β) : Prop :=
  ∀ rest, read (bytes ++ rest) = .ok x

/-- `x` is written, and read back from what was written. -/
def Restores (write : β → Srl) (read : List UInt8 → Dsr β) (x : β) : Prop :=
  ∃ bytes, write x = .ok bytes ∧ read bytes = .ok x

theorem Reads.self {read : List UInt8 → Dsr β} {bytes : List UInt8} {x : β}
    (h : Reads read bytes x) : read bytes = .ok x := by
  have hnil := h []
  rwa [List.append_nil] at hnil

/-! ## Slices -/

@[simp] theorem ok_bind {γ : Type} (x : β) (f : β → Dsr γ) :
    (Except.ok x : Dsr β) >>= f = f x := by
  simp only [bind, Except.bind]

@[simp] theorem sliceFrom_zero (payload : List UInt8) : sliceFrom 0 payload = .ok payload := by
  unfold sliceFrom
  rw [if_pos (Nat.zero_le _), List.drop_zero]

@[simp] theorem sliceFrom_one_cons (b : UInt8) (payload : List UInt8) :
    sliceFrom 1 (b :: payload) = .ok payload := by
  unfold sliceFrom
  rw [if_pos (by rw [List.length_cons]; omega), List.drop_one, List.tail_cons]

/-- A slice that starts past some bytes starts in those after them. -/
theorem sliceFrom_append {front rest : List UInt8} {ptr : Nat} (h : front.length ≤ ptr) :
    sliceFrom ptr (front ++ rest) = sliceFrom (ptr - front.length) rest := by
  unfold sliceFrom
  rw [List.length_append, List.drop_append, List.drop_eq_nil_of_le h, List.nil_append]
  by_cases hptr : ptr ≤ front.length + rest.length
  · rw [if_pos hptr, if_pos (by omega)]
  · rw [if_neg hptr, if_neg (by omega)]

theorem sliceFrom_length {front rest : List UInt8} {ptr : Nat} (h : front.length = ptr) :
    sliceFrom ptr (front ++ rest) = .ok rest := by
  rw [sliceFrom_append (by omega), h, Nat.sub_self, sliceFrom_zero]

/-- The same, past two runs of bytes. -/
theorem sliceFrom_length₂ {front mid : List UInt8} {ptr : Nat} (h : (front ++ mid).length = ptr)
    (rest : List UInt8) : sliceFrom ptr (front ++ (mid ++ rest)) = .ok rest := by
  rw [← List.append_assoc, sliceFrom_length h]

theorem sliceTo_append {front rest : List UInt8} {len : Nat} (h : front.length = len) :
    sliceTo len (front ++ rest) = .ok front := by
  unfold sliceTo
  rw [if_pos (by rw [List.length_append]; omega), List.take_left' h]

/-! ## Numbers and addresses -/

@[simp] theorem deserializeU16_append (n : UInt16) (rest : List UInt8) :
    deserializeU16 (u16Bytes n ++ rest) = .ok n := by
  unfold deserializeU16
  rw [sliceTo_append (u16Bytes_length n), ok_bind, u16Bytes, fromBeBytes_toBeBytes]
  have hn : n.toNat % 256 ^ 2 = n.toNat := Nat.mod_eq_of_lt n.toNat_lt
  rw [hn, UInt16.ofNat_toNat]
  rfl

@[simp] theorem deserializeU32_append (n : UInt32) (rest : List UInt8) :
    deserializeU32 (u32Bytes n ++ rest) = .ok n := by
  unfold deserializeU32
  rw [sliceTo_append (u32Bytes_length n), ok_bind, u32Bytes, fromBeBytes_toBeBytes]
  have hn : n.toNat % 256 ^ 4 = n.toNat := Nat.mod_eq_of_lt n.toNat_lt
  rw [hn, UInt32.ofNat_toNat]
  rfl

@[simp] theorem deserializeU64_append (n : UInt64) (rest : List UInt8) :
    deserializeU64 (u64Bytes n ++ rest) = .ok n := by
  unfold deserializeU64
  rw [sliceTo_append (u64Bytes_length n), ok_bind, u64Bytes, fromBeBytes_toBeBytes]
  have hn : n.toNat % 256 ^ 8 = n.toNat := Nat.mod_eq_of_lt n.toNat_lt
  rw [hn, UInt64.ofNat_toNat]
  rfl

theorem deserializeVecLen_append {n : Nat} (h : n < 2 ^ 64) (rest : List UInt8) :
    deserializeVecLen (usizeBytes n ++ rest) = .ok n := by
  have hlen : (usizeBytes n).length = VEC_LEN_LEN := usizeBytes_length n
  unfold deserializeVecLen
  rw [sliceTo_append hlen, ok_bind, usizeBytes, fromBeBytes_toBeBytes]
  have hn : n % 256 ^ 8 = n := Nat.mod_eq_of_lt (by omega)
  rw [hn]
  rfl

theorem deserializeLimit_append {limit : Option F32} (h : limit ≠ some NO_LIMIT)
    (rest : List UInt8) : deserializeLimit (u32Bytes (limit.getD NO_LIMIT) ++ rest) = .ok limit := by
  unfold deserializeLimit deserializeAmount
  rw [deserializeU32_append, ok_bind]
  cases limit with
  | none => rfl
  | some amount =>
    have hne : amount ≠ NO_LIMIT := fun heq => h (congrArg some heq)
    rw [Option.getD_some, if_neg hne]
    rfl

theorem deserializeOpId_append (opId : OpId) (rest : List UInt8) :
    deserializeOpId (u32Bytes opId ++ rest) = .ok opId := by
  unfold deserializeOpId
  rw [if_neg (by simp [OP_ID_SRL_LEN]), deserializeU32_append]

/-- An address that is not IPv4 has no bytes at all. -/
theorem socketAddress_reads {addr : SocketAddr} (h : addr.isIpv4) :
    ∃ bytes, serializeSocketAddress addr = .ok bytes ∧ bytes.length = 6 ∧
      Reads deserializeSocketAddressSrl bytes addr := by
  cases addr with
  | v6 ip port flowinfo scopeId => cases h
  | v4 ip port =>
    refine ⟨u32Bytes ip ++ u16Bytes port, rfl, by simp, ?_⟩
    intro rest
    unfold deserializeSocketAddressSrl
    rw [if_neg (by simp [SOCKET_ADDR_LEN]; omega), List.append_assoc, deserializeU32_append,
      ok_bind, sliceFrom_length (u32Bytes_length ip), ok_bind, deserializeU16_append, ok_bind]
    rfl

/-! ## Fields at an offset -/

theorem sliceFrom_u32 {ptr : Nat} (n : UInt32) (rest : List UInt8) (h : 4 ≤ ptr) :
    sliceFrom ptr (u32Bytes n ++ rest) = sliceFrom (ptr - 4) rest := by
  rw [sliceFrom_append (by rw [u32Bytes_length]; exact h), u32Bytes_length]

theorem sliceFrom_u64 {ptr : Nat} (n : UInt64) (rest : List UInt8) (h : 8 ≤ ptr) :
    sliceFrom ptr (u64Bytes n ++ rest) = sliceFrom (ptr - 8) rest := by
  rw [sliceFrom_append (by rw [u64Bytes_length]; exact h), u64Bytes_length]

theorem accountSnapshot_reads {account : AccountSnapshot F32}
    (h : account.limit ≠ some NO_LIMIT) :
    Reads deserializeAccountSnapshot (serializeAccountSnapshot account) account := by
  intro rest
  simp [deserializeAccountSnapshot, serializeAccountSnapshot, deserializeAccountId,
    deserializeAmount, ACC_ID_SRL_LEN, AMOUNT_SRL_LEN, sliceFrom_u32, sliceFrom_u64,
    deserializeLimit_append h]

theorem cardSnapshot_reads {card : CardSnapshot F32} (h : card.limit ≠ some NO_LIMIT) :
    Reads deserializeCardSnapshot (serializeCardSnapshot card) card := by
  intro rest
  simp [deserializeCardSnapshot, serializeCardSnapshot, deserializeAccountId,
    deserializeCardId, deserializeAmount, ACC_ID_SRL_LEN, CARD_ID_SRL_LEN, AMOUNT_SRL_LEN,
    sliceFrom_u32, sliceFrom_u64, deserializeLimit_append h]

theorem member_reads {member : NodeId × SocketAddr} (h : member.2.isIpv4) :
    ∃ bytes, serializeMember member = .ok bytes ∧ bytes.length = 14 ∧
      Reads deserializeMember bytes member := by
  obtain ⟨addr, haddr, hlen, hread⟩ := socketAddress_reads h
  refine ⟨u64Bytes member.1 ++ addr, ?_, by simp [hlen], ?_⟩
  · unfold serializeMember
    rw [haddr]
    rfl
  · intro rest
    have haddr' : sliceFrom (0 + NODE_ID_SRL_LEN) (u64Bytes member.1 ++ (addr ++ rest)) =
        .ok (addr ++ rest) := sliceFrom_length (u64Bytes_length member.1)
    unfold deserializeMember
    simp only [List.append_assoc, deserializeU64_append, ok_bind, haddr', hread rest]
    rfl

/-! ## Lists -/

/-- Items of one length are read one after the other, each from its own offset. -/
theorem deserializeItems_flatten {item : List UInt8 → Dsr β} {itemLen : Nat} {xs : List β}
    {chunks : List (List UInt8)}
    (h : List.Forall₂ (fun x chunk => chunk.length = itemLen ∧ Reads item chunk x) xs chunks)
    (front rest : List UInt8) :
    deserializeItems item itemLen (front ++ (chunks.flatten ++ rest)) xs.length front.length =
      .ok (xs, front.length + chunks.flatten.length) := by
  induction h generalizing front with
  | nil => rfl
  | @cons x chunk xs chunks hx hxs ih =>
    obtain ⟨hlen, hread⟩ := hx
    have hrest := ih (front ++ chunk)
    rw [List.append_assoc, List.length_append, hlen] at hrest
    rw [List.length_cons, deserializeItems, sliceFrom_length rfl, ok_bind, List.flatten_cons,
      List.append_assoc, hread, ok_bind, hrest, ok_bind, List.length_append, hlen, Nat.add_assoc]
    rfl

theorem chunks_length {item : List UInt8 → Dsr β} {itemLen : Nat} {xs : List β}
    {chunks : List (List UInt8)}
    (h : List.Forall₂ (fun x chunk => chunk.length = itemLen ∧ Reads item chunk x) xs chunks) :
    chunks.flatten.length = itemLen * xs.length := by
  induction h with
  | nil => rfl
  | cons hx hxs ih =>
    rw [List.flatten_cons, List.length_append, hx.1, ih, List.length_cons, Nat.mul_succ,
      Nat.add_comm]

/-- Items of one length are the chunks of a concatenation. -/
theorem chunks_of_flatMap {item : List UInt8 → Dsr β} {write : β → List UInt8}
    {itemLen : Nat} {xs : List β} (hlen : ∀ x, (write x).length = itemLen)
    (hread : ∀ x ∈ xs, Reads item (write x) x) :
    List.Forall₂ (fun x chunk => chunk.length = itemLen ∧ Reads item chunk x) xs
      (xs.map write) := by
  rw [List.forall₂_map_right_iff, List.forall₂_same]
  exact fun x hx => ⟨hlen x, hread x hx⟩

/-- A vector behind its length, from some offset on. -/
theorem deserializeItems_vec {item : List UInt8 → Dsr β} {chunks : List (List UInt8)}
    {itemLen : Nat} {xs : List β}
    (h : List.Forall₂ (fun x chunk => chunk.length = itemLen ∧ Reads item chunk x) xs chunks)
    {front : List UInt8} {ptr : Nat} (hptr : front.length = ptr) (rest : List UInt8) :
    deserializeItems item itemLen
        (front ++ (usizeBytes xs.length ++ (chunks.flatten ++ rest))) xs.length (ptr + VEC_LEN_LEN) =
      .ok (xs, ptr + VEC_LEN_LEN + chunks.flatten.length) := by
  have hitems := deserializeItems_flatten h (front ++ usizeBytes xs.length) rest
  have hlen : (front ++ usizeBytes xs.length).length = ptr + VEC_LEN_LEN := by
    rw [List.length_append, usizeBytes_length, hptr]
    rfl
  rwa [List.append_assoc, hlen] at hitems

/-- The bytes of a view's members, one chunk a member. -/
theorem members_reads {members : List (NodeId × SocketAddr)}
    (h : ∀ member ∈ members, member.2.isIpv4) :
    ∃ chunks, serializeMembers members = .ok chunks.flatten ∧
      List.Forall₂ (fun member chunk => chunk.length = MEMBER_SRL_LEN ∧
        Reads deserializeMember chunk member) members chunks := by
  induction members with
  | nil => exact ⟨[], rfl, .nil⟩
  | cons member members ih =>
    obtain ⟨chunk, hchunk, hlen, hread⟩ := member_reads (h member List.mem_cons_self)
    obtain ⟨chunks, hchunks, hreads⟩ := ih fun m hm => h m (List.mem_cons_of_mem _ hm)
    refine ⟨chunk :: chunks, ?_, .cons ⟨hlen, hread⟩ hreads⟩
    unfold serializeMembers
    rw [hchunk, hchunks]
    rfl

/-! ## Snapshots -/

/-- What a snapshot must meet to be restored: an address that can be written, and no
    limit that reads as the absence of one. -/
def WritableDatabase (database : DatabaseSnapshot F32) : Prop :=
  database.addr.isIpv4 ∧ (∀ account ∈ database.accounts, account.limit ≠ some NO_LIMIT) ∧
    ∀ card ∈ database.cards, card.limit ≠ some NO_LIMIT

theorem accountSnapshot_length (account : AccountSnapshot F32) :
    (serializeAccountSnapshot account).length = ACC_SNAPSHOT_SRL_LEN := by
  simp [serializeAccountSnapshot, ACC_SNAPSHOT_SRL_LEN, ACC_ID_SRL_LEN, AMOUNT_SRL_LEN]

theorem cardSnapshot_length (card : CardSnapshot F32) :
    (serializeCardSnapshot card).length = CARD_SNAPSHOT_SRL_LEN := by
  simp [serializeCardSnapshot, CARD_SNAPSHOT_SRL_LEN, ACC_ID_SRL_LEN, CARD_ID_SRL_LEN,
    AMOUNT_SRL_LEN]

theorem databaseSnapshot_restores {database : DatabaseSnapshot F32} (hw : WritableDatabase database)
    (hsize : databaseLen database < 2 ^ 64) :
    Restores serializeDatabaseSnapshot deserializeDatabaseSnapshot database := by
  obtain ⟨haddr, haccounts, hcards⟩ := hw
  obtain ⟨addr, hwrite, haddrLen, hread⟩ := socketAddress_reads haddr
  unfold databaseLen at hsize
  have hsrl : serializeDatabaseSnapshot database = .ok (addr ++
      (usizeBytes database.accounts.length ++
        ((database.accounts.map serializeAccountSnapshot).flatten ++
          (usizeBytes database.cards.length ++
            ((database.cards.map serializeCardSnapshot).flatten ++ []))))) := by
    unfold serializeDatabaseSnapshot
    rw [hwrite, List.append_nil, ← List.append_assoc, ← List.append_assoc, ← List.append_assoc]
    rfl
  refine ⟨_, hsrl, ?_⟩
  have hlen : addr.length = SOCKET_ADDR_LEN := haddrLen
  have hn : database.accounts.length < 2 ^ 64 := by omega
  have hm : database.cards.length < 2 ^ 64 := by omega
  have hitems := deserializeItems_vec (chunks_of_flatMap accountSnapshot_length fun account h =>
    accountSnapshot_reads (haccounts account h)) hlen
    (usizeBytes database.cards.length ++
      ((database.cards.map serializeCardSnapshot).flatten ++ []))
  generalize (database.accounts.map serializeAccountSnapshot).flatten = accounts at hitems ⊢
  have hptr : (addr ++ (usizeBytes database.accounts.length ++ accounts)).length =
      SOCKET_ADDR_LEN + VEC_LEN_LEN + accounts.length := by
    simp only [List.length_append, usizeBytes_length, hlen, VEC_LEN_LEN, Nat.add_assoc]
  have hcardsFrom : ∀ rest, sliceFrom (SOCKET_ADDR_LEN + VEC_LEN_LEN + accounts.length)
      (addr ++ (usizeBytes database.accounts.length ++ (accounts ++ rest))) = .ok rest := by
    intro rest
    have hfrom := sliceFrom_length₂ hptr rest
    rwa [List.append_assoc] at hfrom
  have hsecond := deserializeItems_vec (chunks_of_flatMap cardSnapshot_length fun card h =>
    cardSnapshot_reads (hcards card h)) hptr []
  simp only [List.append_assoc] at hsecond
  unfold deserializeDatabaseSnapshot
  simp only [Nat.zero_add, sliceFrom_zero, ok_bind, hread _, sliceFrom_length hlen,
    deserializeVecLen_append hn, hitems,
    hcardsFrom, deserializeVecLen_append hm, hsecond]
  rfl

end YpfRuta.Network
