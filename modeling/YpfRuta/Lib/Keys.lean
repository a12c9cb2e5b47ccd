/-
  The key set of a hash map whose values are only addresses: a duplicate-free
  list, in iteration order.
-/
import Mathlib.Data.List.Nodup

namespace YpfRuta.Lib

/-- The keys of a map, in the order an iteration would visit them. -/
structure Keys (κ : Type) where
  toList : List κ
  nodup : toList.Nodup

namespace Keys

variable {κ : Type}

instance : Membership κ (Keys κ) := ⟨fun ks k => k ∈ ks.toList⟩

theorem mem_def {ks : Keys κ} {k : κ} : k ∈ ks ↔ k ∈ ks.toList := Iff.rfl

def empty : Keys κ := ⟨[], List.nodup_nil⟩

@[simp] theorem toList_empty : (empty : Keys κ).toList = [] := rfl

@[simp] theorem not_mem_empty (k : κ) : ¬ k ∈ (empty : Keys κ) := by simp [mem_def]

variable [DecidableEq κ]

instance (k : κ) (ks : Keys κ) : Decidable (k ∈ ks) :=
  inferInstanceAs (Decidable (k ∈ ks.toList))

/-- Record a key that may be present already. -/
def insert (ks : Keys κ) (k : κ) : Keys κ :=
  if h : k ∈ ks then ks
  else ⟨ks.toList ++ [k], List.Nodup.append ks.nodup (List.nodup_singleton k)
    (by simpa [mem_def] using h)⟩

theorem toList_insert_of_mem {ks : Keys κ} {k : κ} (h : k ∈ ks) :
    (ks.insert k).toList = ks.toList := by
  rw [insert, dif_pos h]

theorem toList_insert_of_not_mem {ks : Keys κ} {k : κ} (h : ¬ k ∈ ks) :
    (ks.insert k).toList = ks.toList ++ [k] := by
  rw [insert, dif_neg h]

@[simp] theorem mem_insert {ks : Keys κ} {k j : κ} : j ∈ ks.insert k ↔ j ∈ ks ∨ j = k := by
  by_cases h : k ∈ ks
  · rw [mem_def, toList_insert_of_mem h]
    exact ⟨Or.inl, fun hj => hj.elim id (fun e => e ▸ h)⟩
  · rw [mem_def, toList_insert_of_not_mem h]
    simp [mem_def]

theorem insert_of_mem {ks : Keys κ} {k : κ} (h : k ∈ ks) : ks.insert k = ks := by
  rw [insert, dif_pos h]

end Keys

/-- The list `xs` holds every entry of the map `f` once, each under its own key. -/
structure Lists {κ β : Type} (key : β → κ) (f : κ → Option β) (xs : List β) : Prop where
  nodup : (xs.map key).Nodup
  mem : ∀ x, x ∈ xs ↔ f (key x) = some x

/-- A list of the entries of some keys, in any order, is one of the map that is
    defined on these keys. -/
theorem Lists.of_keys {κ β : Type} {key : β → κ} {f : κ → Option β} {xs : List β} {ks : List κ}
    {g : κ → β} (hn : ks.Nodup) (hkey : ∀ k, key (g k) = k)
    (hf : ∀ k, (k ∈ ks → f k = some (g k)) ∧ (¬ k ∈ ks → f k = none))
    (hp : xs.Perm (ks.map g)) : Lists key f xs where
  nodup := by
    have hmap : (ks.map g).map key = ks := by
      rw [List.map_map]
      exact List.map_id'' hkey ks
    rw [(hp.map key).nodup_iff, hmap]
    exact hn
  mem x := by
    rw [hp.mem_iff, List.mem_map]
    constructor
    · rintro ⟨k, hk, rfl⟩
      rw [hkey]
      exact (hf k).1 hk
    · intro hx
      by_cases hk : key x ∈ ks
      · rw [(hf _).1 hk] at hx
        exact ⟨key x, hk, Option.some.inj hx⟩
      · rw [(hf _).2 hk] at hx
        cases hx

theorem Lists.perm {κ β : Type} {key : β → κ} {f : κ → Option β} {xs ys : List β}
    (hx : Lists key f xs) (hy : Lists key f ys) : xs.Perm ys :=
  (List.perm_ext_iff_of_nodup (List.Nodup.of_map key hx.nodup) (List.Nodup.of_map key hy.nodup)).mpr
    fun x => (hx.mem x).trans (hy.mem x).symm

theorem Lists.nil {κ β : Type} {key : β → κ} {f : κ → Option β} (h : ∀ k, f k = none) :
    Lists key f [] where
  nodup := List.nodup_nil
  mem x := by simp [h]

theorem Lists.eq_nil {κ β : Type} {key : β → κ} {f : κ → Option β} {xs : List β}
    (hx : Lists key f xs) (h : ∀ k, f k = none) : xs = [] :=
  (hx.perm (.nil h)).eq_nil

/-- One more entry. -/
theorem Lists.snoc {κ β : Type} [DecidableEq κ] {key : β → κ} {f g : κ → Option β} {xs : List β}
    {x : β} (hx : Lists key f xs) (hnew : f (key x) = none)
    (hg : ∀ k, g k = if k = key x then some x else f k) : Lists key g (xs ++ [x]) where
  nodup := by
    rw [List.map_append, List.nodup_append]
    refine ⟨hx.nodup, List.nodup_singleton _, ?_⟩
    rintro k hk j hj rfl
    obtain ⟨y, hy, hyk⟩ := List.mem_map.mp hk
    obtain rfl : k = key x := List.mem_singleton.mp hj
    have hsome := (hx.mem y).mp hy
    rw [hyk, hnew] at hsome
    cases hsome
  mem y := by
    rw [List.mem_append, List.mem_singleton, hx.mem, hg]
    by_cases hy : key y = key x
    · rw [if_pos hy, hy, hnew, Option.some.injEq]
      constructor
      · rintro (h | rfl)
        · cases h
        · rfl
      · rintro rfl
        exact Or.inr rfl
    · rw [if_neg hy]
      constructor
      · rintro (h | rfl)
        · exact h
        · exact absurd rfl hy
      · exact Or.inl

/-- A value for one member of a list without repetitions. -/
theorem filterMap_one {β γ : Type} [DecidableEq β] (y : γ) (c : β) {l : List β} (hl : l.Nodup) :
    (l.filterMap fun x => if x = c then some y else none) = if c ∈ l then [y] else [] := by
  induction l with
  | nil => rfl
  | cons x l ih =>
    obtain ⟨hx, hl⟩ := List.nodup_cons.mp hl
    by_cases hxc : x = c
    · subst hxc
      simp [ih hl, hx]
    · simp [ih hl, hxc, Ne.symm hxc]

end YpfRuta.Lib
