/-
  Work done piece by piece: a piece is taken out of a list, and at most `n` pieces of a
  lower rank are put in. A piece of rank `r` counts `(n + 1) ^ r`, so the work goes down.
-/
import Mathlib.Algebra.BigOperators.Group.List.Basic
import Mathlib.Algebra.Group.Action.Defs
import Mathlib.Algebra.GroupWithZero.Nat
import Mathlib.Algebra.Order.BigOperators.Group.List
import Mathlib.Algebra.Order.Group.Nat

namespace YpfRuta.Lib

variable {γ : Type}

/-- The work that the pieces of a list stand for. -/
def work (n : Nat) (rank : γ → Nat) (xs : List γ) : Nat := (xs.map fun x => (n + 1) ^ rank x).sum

section Work

variable {n r k : Nat} {rank : γ → Nat} {x : γ} {xs ys : List γ}

theorem work_append (xs ys : List γ) :
    work n rank (xs ++ ys) = work n rank xs + work n rank ys := by
  unfold work
  rw [List.map_append, List.sum_append]

theorem work_eraseIdx (hk : xs[k]? = some x) :
    work n rank (xs.eraseIdx k) + (n + 1) ^ rank x = work n rank xs := by
  induction xs generalizing k with
  | nil => cases hk
  | cons y ys ih =>
    cases k with
    | zero =>
      obtain rfl : y = x := Option.some.inj hk
      exact Nat.add_comm _ _
    | succ k =>
      have h := ih (k := k) hk
      simp only [work, List.eraseIdx_cons_succ, List.map_cons, List.sum_cons] at h ⊢
      omega

/-- A few pieces of lower rank are less work than one piece. -/
theorem work_lt (hlen : ys.length ≤ n) (hrank : ∀ y ∈ ys, rank y < r) :
    work n rank ys < (n + 1) ^ r := by
  cases r with
  | zero =>
    obtain rfl : ys = [] := List.eq_nil_iff_forall_not_mem.mpr fun y hy =>
      absurd (hrank y hy) (Nat.not_lt_zero _)
    exact Nat.one_pos
  | succ r =>
    have hle : work n rank ys ≤ (ys.map fun y => (n + 1) ^ rank y).length • (n + 1) ^ r := by
      refine List.sum_le_card_nsmul _ _ fun w hw => ?_
      obtain ⟨y, hy, rfl⟩ := List.mem_map.mp hw
      exact Nat.pow_le_pow_right (Nat.succ_pos n) (Nat.le_of_lt_succ (hrank y hy))
    rw [List.length_map, smul_eq_mul] at hle
    have hpos : 0 < (n + 1) ^ r := Nat.pow_pos (Nat.succ_pos n)
    calc work n rank ys
        ≤ ys.length * (n + 1) ^ r := hle
      _ ≤ n * (n + 1) ^ r := Nat.mul_le_mul_right _ hlen
      _ < n * (n + 1) ^ r + (n + 1) ^ r := by omega
      _ = (n + 1) ^ (r + 1) := by rw [Nat.pow_succ, Nat.mul_succ, Nat.mul_comm]

/-- **One piece for a few of lower rank.** -/
theorem work_replace (hk : xs[k]? = some x) (hlen : ys.length ≤ n)
    (hrank : ∀ y ∈ ys, rank y < rank x) :
    work n rank (xs.eraseIdx k ++ ys) + 1 ≤ work n rank xs := by
  have hlt := work_lt hlen hrank
  have herase : work n rank (xs.eraseIdx k) + (n + 1) ^ rank x = work n rank xs :=
    work_eraseIdx hk
  rw [work_append]
  omega

end Work

/-- A predicate that implies another one and misses a member of the list counts fewer. -/
theorem countP_lt {p q : γ → Bool} {xs : List γ} {x : γ} (h : ∀ y ∈ xs, p y = true → q y = true)
    (hx : x ∈ xs) (hp : p x = false) (hq : q x = true) : xs.countP p < xs.countP q := by
  induction xs with
  | nil => cases hx
  | cons y ys ih =>
    have htail : ∀ z ∈ ys, p z = true → q z = true := fun z hz => h z (List.mem_cons_of_mem _ hz)
    have hle := List.countP_mono_left htail
    rw [List.countP_cons, List.countP_cons]
    rcases List.mem_cons.mp hx with rfl | hx
    · rw [hp, hq, if_neg Bool.false_ne_true, if_pos rfl]
      omega
    · have hlt := ih htail hx
      have hy := h y List.mem_cons_self
      by_cases hpy : p y = true
      · rw [if_pos hpy, if_pos (hy hpy)]
        omega
      · rw [if_neg hpy]
        omega

end YpfRuta.Lib
