/-
  A map of bounded size that makes room for a new key by dropping the entry with the
  oldest stamp. The map is full before it is known whether the key is a new one.

  `order` is the order in which an iteration visits the entries when room is made; it only
  decides between entries of equal age.
-/
import Mathlib.Data.List.AList
import Mathlib.Data.List.MinMax

namespace YpfRuta.Lib.Lru

variable {κ ν : Type} [DecidableEq κ] {stamp : ν → Nat} {capacity : Nat}

abbrev Cache (κ ν : Type) := AList fun _ : κ => ν

abbrev Entry (κ ν : Type) := Sigma fun _ : κ => ν

/-- Drop the first entry of minimal age. -/
def evict (stamp : ν → Nat) (m : Cache κ ν) (order : List (Entry κ ν)) : Cache κ ν :=
  match order.argmin fun e => stamp e.2 with
  | some e => m.erase e.1
  | none => m

/-- Make room if the map is full, then store the entry. -/
def put (stamp : ν → Nat) (capacity : Nat) (m : Cache κ ν) (order : List (Entry κ ν)) (k : κ)
    (v : ν) : Cache κ ν :=
  (if capacity ≤ m.keys.length then evict stamp m order else m).insert k v

/-- `v` is at least as old as everything in the map. -/
def Oldest (stamp : ν → Nat) (m : Cache κ ν) (v : ν) : Prop :=
  ∀ b w, m.lookup b = some w → stamp v ≤ stamp w

/-- `m'` is `m` but for the entry of `k` and at most one other entry, which is gone and was
    an oldest one. -/
structure Replaces (stamp : ν → Nat) (m m' : Cache κ ν) (k : κ) : Prop where
  others : ∀ a, a ≠ k → m'.lookup a ≠ m.lookup a →
    m'.lookup a = none ∧ ∃ v, m.lookup a = some v ∧ Oldest stamp m v
  one : ∀ a b, a ≠ k → b ≠ k → m'.lookup a ≠ m.lookup a → m'.lookup b ≠ m.lookup b → a = b

variable {m m' : Cache κ ν} {order : List (Entry κ ν)} {k : κ} {v : ν}

theorem mem_order (ho : order.Perm m.entries) {e : Entry κ ν} :
    e ∈ order ↔ m.lookup e.1 = some e.2 := by
  rw [ho.mem_iff]
  exact AList.mem_lookup_iff.symm

/-- What making room drops from a map that is not empty. -/
theorem evict_cases (stamp : ν → Nat) (ho : order.Perm m.entries) :
    (m.keys = [] ∧ evict stamp m order = m) ∨
      ∃ e : Entry κ ν, m.lookup e.1 = some e.2 ∧ Oldest stamp m e.2 ∧
        evict stamp m order = m.erase e.1 := by
  unfold evict
  cases hmin : order.argmin fun e => stamp e.2 with
  | none =>
    have hnil : order = [] := List.argmin_eq_none.mp hmin
    rw [hnil] at ho
    have hentries : m.entries = [] := ho.symm.eq_nil
    refine .inl ⟨?_, rfl⟩
    unfold AList.keys
    rw [hentries]
    rfl
  | some e =>
    refine .inr ⟨e, (mem_order ho).mp (List.argmin_mem hmin), fun b w hw => ?_, rfl⟩
    have hb : (⟨b, w⟩ : Entry κ ν) ∈ order := (mem_order ho).mpr hw
    exact List.le_of_mem_argmin (f := fun e : Entry κ ν => stamp e.2) hb hmin

theorem length_erase (h : k ∈ m) : (m.erase k).keys.length + 1 = m.keys.length := by
  have hk : k ∈ m.keys := h
  have hpos : 0 < m.keys.length := List.length_pos_of_mem hk
  rw [AList.keys_erase, List.length_erase_of_mem hk]
  omega

theorem length_insert_le : (m.insert k v).keys.length ≤ m.keys.length + 1 := by
  have hle : (m.keys.erase k).length ≤ m.keys.length := List.length_erase_le
  rw [AList.keys_insert, List.length_cons]
  omega

/-- An entry that is present is overwritten. -/
theorem length_insert_of_mem (h : k ∈ m) : (m.insert k v).keys.length = m.keys.length := by
  have hk : k ∈ m.keys := h
  have hpos : 0 < m.keys.length := List.length_pos_of_mem hk
  rw [AList.keys_insert, List.length_cons, List.length_erase_of_mem hk]
  omega

/-- **The map stays bounded**, also by 1 when it has no capacity at all. -/
theorem length_put_le (ho : order.Perm m.entries) (hm : m.keys.length ≤ max 1 capacity) :
    (put stamp capacity m order k v).keys.length ≤ max 1 capacity := by
  unfold put
  split
  · have hinsert := length_insert_le (m := evict stamp m order) (k := k) (v := v)
    rcases evict_cases stamp ho with ⟨hnil, heq⟩ | ⟨e, he, -, heq⟩
    · rw [heq, hnil, List.length_nil] at hinsert
      rw [heq]
      omega
    · have hmem : e.1 ∈ m := AList.lookup_isSome.mp (by rw [he]; rfl)
      have hlen := length_erase hmem
      rw [heq] at hinsert ⊢
      omega
  · have hinsert := length_insert_le (m := m) (k := k) (v := v)
    omega

theorem Replaces.refl (m : Cache κ ν) (k : κ) : Replaces stamp m m k where
  others _ _ hne := absurd rfl hne
  one _ _ _ _ hne := absurd rfl hne

/-- What happens to the entry of `k` itself does not matter. -/
theorem Replaces.congr {m'' : Cache κ ν} (h : Replaces stamp m m' k)
    (heq : ∀ a, a ≠ k → m''.lookup a = m'.lookup a) : Replaces stamp m m'' k where
  others a ha hne := by
    rw [heq a ha] at hne ⊢
    exact h.others a ha hne
  one a b ha hb hna hnb := by
    rw [heq a ha] at hna
    rw [heq b hb] at hnb
    exact h.one a b ha hb hna hnb

theorem replaces_evict (ho : order.Perm m.entries) :
    Replaces stamp m (evict stamp m order) k := by
  rcases evict_cases stamp ho with ⟨-, heq⟩ | ⟨e, he, hold, heq⟩
  · rw [heq]
    exact .refl m k
  · rw [heq]
    have hchanged : ∀ a, (m.erase e.1).lookup a ≠ m.lookup a → a = e.1 := by
      intro a hne
      by_contra ha
      exact hne (AList.lookup_erase_ne ha)
    constructor
    · intro a _ hne
      obtain rfl := hchanged a hne
      exact ⟨AList.lookup_erase e.1 m, e.2, he, hold⟩
    · intro a b _ _ hna hnb
      rw [hchanged a hna, hchanged b hnb]

/-- **Storing an entry drops at most one other**, an oldest one. -/
theorem replaces_put (ho : order.Perm m.entries) :
    Replaces stamp m (put stamp capacity m order k v) k := by
  unfold put
  split
  · exact (replaces_evict ho).congr fun a ha => AList.lookup_insert_ne ha
  · exact (Replaces.refl m k).congr fun a ha => AList.lookup_insert_ne ha

theorem lookup_put : (put stamp capacity m order k v).lookup k = some v := by
  unfold put
  exact AList.lookup_insert _

end YpfRuta.Lib.Lru
