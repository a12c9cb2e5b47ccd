/-
  Sums over the keys of a map: a function changed at one key, and a key added
  where the function is zero.
-/
import Mathlib.Algebra.BigOperators.Group.Finset.Basic
import Mathlib.Algebra.BigOperators.Group.List.Basic
import Mathlib.Algebra.Group.Basic
import Mathlib.Algebra.Order.BigOperators.Group.List
import Mathlib.Algebra.Order.Group.Nat
import YpfRuta.Lib.Keys

namespace YpfRuta.Lib

variable {κ M : Type} [AddCommMonoid M]

/-- Two functions that differ at one member of a list differ there in the sum. -/
theorem sum_map_change {l : List κ} (hl : l.Nodup) {k : κ} (hk : k ∈ l) {f g : κ → M}
    (h : ∀ j ∈ l, j ≠ k → g j = f j) : (l.map g).sum + f k = (l.map f).sum + g k := by
  induction l with
  | nil => cases hk
  | cons j l ih =>
    obtain ⟨hj, hl⟩ := List.nodup_cons.mp hl
    simp only [List.map_cons, List.sum_cons]
    by_cases hjk : j = k
    · subst hjk
      have hrest : l.map g = l.map f :=
        List.map_congr_left fun i hi =>
          h i (List.mem_cons_of_mem _ hi) (ne_of_mem_of_not_mem hi hj)
      rw [hrest, add_right_comm, add_comm (g j), add_right_comm, add_right_comm (f j)]
    · have hk' : k ∈ l := (List.mem_cons.mp hk).resolve_left (Ne.symm hjk)
      rw [h j List.mem_cons_self hjk, add_assoc, add_assoc,
        ih hl hk' fun i hi => h i (List.mem_cons_of_mem _ hi)]

/-- Adding up from `x` on. -/
theorem foldl_add (xs : List M) (x : M) : xs.foldl (· + ·) x = x + xs.sum := by
  induction xs generalizing x with
  | nil => exact (add_zero x).symm
  | cons y ys ih => rw [List.foldl_cons, ih, List.sum_cons, add_assoc]

/-- The sum of a function over the keys of a map. -/
def Keys.sum (ks : Keys κ) (f : κ → M) : M := (ks.toList.map f).sum

theorem Keys.sum_congr {ks : Keys κ} {f g : κ → M} (h : ∀ k ∈ ks, f k = g k) :
    ks.sum f = ks.sum g :=
  congrArg List.sum (List.map_congr_left h)

theorem Keys.sum_change {ks : Keys κ} {k : κ} (hk : k ∈ ks) {f g : κ → M}
    (h : ∀ j, j ≠ k → g j = f j) : ks.sum g + f k = ks.sum f + g k :=
  sum_map_change ks.nodup hk fun j _ => h j

/-- A new key counts for nothing where the function is zero. -/
theorem Keys.sum_insert [DecidableEq κ] {ks : Keys κ} {k : κ} {f : κ → M}
    (hk : ¬ k ∈ ks → f k = 0) : (ks.insert k).sum f = ks.sum f := by
  by_cases h : k ∈ ks
  · rw [Keys.insert_of_mem h]
  · simp [Keys.sum, Keys.toList_insert_of_not_mem h, hk h]

theorem Keys.sum_eq_zero {ks : Keys κ} {f : κ → M} (h : ∀ k ∈ ks, f k = 0) : ks.sum f = 0 :=
  List.sum_eq_zero (by
    intro x hx
    obtain ⟨k, hk, rfl⟩ := List.mem_map.mp hx
    exact h k hk)

theorem Keys.sum_le {ks : Keys κ} {f g : κ → Nat} (h : ∀ k ∈ ks, f k ≤ g k) :
    ks.sum f ≤ ks.sum g :=
  List.sum_le_sum h

theorem Keys.sum_add (ks : Keys κ) (f g : κ → M) :
    (ks.sum fun k => f k + g k) = ks.sum f + ks.sum g := by
  unfold Keys.sum
  induction ks.toList with
  | nil => simp
  | cons k l ih =>
    simp only [List.map_cons, List.sum_cons, ih]
    exact add_add_add_comm _ _ _ _

/-- A function that is zero but at one key sums to its value there. -/
theorem Keys.sum_single {ks : Keys κ} {k : κ} (hk : k ∈ ks) {f : κ → M}
    (h : ∀ j, j ≠ k → f j = 0) : ks.sum f = f k := by
  have hchange := Keys.sum_change hk (f := fun _ => (0 : M)) (g := f) h
  rw [Keys.sum_eq_zero (f := fun _ : κ => (0 : M)) fun _ _ => rfl] at hchange
  simpa using hchange

/-- Keys added where the function is zero. -/
theorem Keys.sum_extend {ks ks' : Keys κ} {f : κ → M} (h : ∀ k ∈ ks, k ∈ ks')
    (hnew : ∀ k, ¬ k ∈ ks → f k = 0) : ks'.sum f = ks.sum f := by
  classical
  unfold Keys.sum
  rw [← List.sum_toFinset f ks.nodup, ← List.sum_toFinset f ks'.nodup]
  refine (Finset.sum_subset ?_ ?_).symm
  · intro k hk
    rw [List.mem_toFinset] at hk ⊢
    exact h k hk
  · intro k _ hk
    exact hnew k fun hmem => hk (List.mem_toFinset.mpr hmem)

/-- Counting the keys that meet a predicate. -/
theorem Keys.sum_one (ks : Keys κ) (p : κ → Prop) [DecidablePred p] :
    (ks.sum fun k => if p k then 1 else 0) = (ks.toList.filter p).length := by
  unfold Keys.sum
  induction ks.toList with
  | nil => rfl
  | cons k l ih =>
    rw [List.map_cons, List.sum_cons, ih]
    by_cases h : p k <;> simp [h, Nat.add_comm]

end YpfRuta.Lib
