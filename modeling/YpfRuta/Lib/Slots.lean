/-
  Slots, each free or held by a key, and a map that says what a key holds its slot for.

  Two structures that must agree: taking a slot and freeing it touches both.
-/
import Mathlib.Data.List.AList

namespace YpfRuta.Lib.Slots

variable {κ ν : Type} {n : Nat}

theorem get_set (slots : Vector (Option κ) n) (p q : Fin n) (x : Option κ) :
    (slots.set p x).get q = if p = q then x else slots.get q := by
  show (slots.set p x)[q.val] = if p = q then x else slots[q.val]
  rw [Vector.getElem_set]
  exact if_congr Fin.ext_iff.symm rfl rfl

/-- Writing back what a slot had undoes a write. -/
theorem set_back {slots : Vector (Option κ) n} {p : Fin n} {x y : Option κ} (h : slots.get p = x) :
    (slots.set p y).set p x = slots := by
  rw [Vector.set_set, ← h]
  exact Vector.set_getElem_self p.isLt

variable [DecidableEq κ]

/-- A slot is held by a key exactly when the map has the key for something of that slot. -/
def Paired (home : ν → Fin n) (slots : Vector (Option κ) n) (m : AList fun _ : κ => ν) : Prop :=
  ∀ (p : Fin n) (k : κ), slots.get p = some k ↔ ∃ v, m.lookup k = some v ∧ home v = p

variable {home : ν → Fin n} {slots : Vector (Option κ) n} {m : AList fun _ : κ => ν}
  {p q : Fin n} {k : κ} {v : ν}

theorem paired_empty (home : ν → Fin n) :
    Paired home (Vector.replicate n (none : Option κ)) ∅ := by
  intro p k
  have hnone : (Vector.replicate n (none : Option κ)).get p = none := Vector.getElem_replicate p.isLt
  rw [hnone]
  refine iff_of_false (fun h => by cases h) fun ⟨v, hv, _⟩ => ?_
  rw [AList.lookup_empty] at hv
  cases hv

/-- No key holds two slots. -/
theorem Paired.injective (h : Paired home slots m) (hp : slots.get p = some k)
    (hq : slots.get q = some k) : p = q := by
  obtain ⟨v, hv, rfl⟩ := (h p k).mp hp
  obtain ⟨w, hw, rfl⟩ := (h q k).mp hq
  rw [Option.some.inj (hv.symm.trans hw)]

theorem Paired.lookup (h : Paired home slots m) (hk : m.lookup k = some v) :
    slots.get (home v) = some k :=
  (h (home v) k).mpr ⟨v, hk, rfl⟩

/-- A key that is not in the map holds nothing. -/
theorem Paired.of_not_mem (h : Paired home slots m) (hk : k ∉ m) : slots.get p ≠ some k := by
  intro hp
  obtain ⟨v, hv, -⟩ := (h p k).mp hp
  exact hk (AList.lookup_isSome.mp (by rw [hv]; rfl))

/-- A free slot is taken under a new key. -/
theorem Paired.take (h : Paired home slots m) (hfree : slots.get (home v) = none) (hk : k ∉ m) :
    Paired home (slots.set (home v) (some k)) (m.insert k v) := by
  intro q j
  rw [get_set]
  by_cases hj : j = k
  · rw [hj, AList.lookup_insert]
    split
    · next hq => exact iff_of_true rfl ⟨v, rfl, hq⟩
    · next hq =>
      refine iff_of_false (h.of_not_mem hk) ?_
      rintro ⟨w, hw, rfl⟩
      obtain rfl := Option.some.inj hw
      exact hq rfl
  · rw [AList.lookup_insert_ne hj, ← h q j]
    split
    · next hq =>
      rw [← hq, hfree]
      exact iff_of_false (fun he => hj (Option.some.inj he).symm) fun he => by cases he
    · exact Iff.rfl

/-- A key gives up its slot. -/
theorem Paired.release (h : Paired home slots m) (hk : m.lookup k = some v) :
    Paired home (slots.set (home v) none) (m.erase k) := by
  intro q j
  rw [get_set]
  have hheld := h.lookup hk
  by_cases hj : j = k
  · rw [hj, AList.lookup_erase]
    refine iff_of_false ?_ fun ⟨w, hw, _⟩ => by cases hw
    split
    · exact fun he => by cases he
    · next hq => exact fun he => hq (h.injective hheld he)
  · rw [AList.lookup_erase_ne hj, ← h q j]
    split
    · next hq =>
      rw [← hq, hheld]
      exact iff_of_false (fun he => by cases he) fun he => hj (Option.some.inj he).symm
    · exact Iff.rfl

/-- Removing a new key undoes its insertion. -/
theorem erase_insert (hk : k ∉ m) : (m.insert k v).erase k = m := by
  have hnot : k ∉ m.entries.keys := hk
  apply AList.ext
  show List.kerase k (List.kinsert k v m.entries) = m.entries
  rw [List.kinsert_def, List.kerase_of_notMem_keys hnot]
  exact List.kerase_cons_eq (s := (⟨k, v⟩ : Sigma fun _ : κ => ν)) rfl

end YpfRuta.Lib.Slots
