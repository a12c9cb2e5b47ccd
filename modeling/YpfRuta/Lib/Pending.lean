/-
  The items still to be worked off: `f i` is what step `i` of a list of steps brings to
  some worker, and `pending f p r` lists what the steps from `p` up to `r` bring, in order.
-/
import Mathlib.Data.List.Nodup
import Mathlib.Data.List.Range

namespace YpfRuta.Lib

variable {β : Type} {f : Nat → Option β} {p q r i : Nat} {x : β}

def pending (f : Nat → Option β) (p r : Nat) : List (Nat × β) :=
  (List.range' p (r - p)).filterMap fun i => (f i).map fun x => (i, x)

theorem mem_pending : (i, x) ∈ pending f p r ↔ p ≤ i ∧ i < r ∧ f i = some x := by
  simp only [pending, List.mem_filterMap, List.mem_range'_1, Option.map_eq_some_iff,
    Prod.mk.injEq]
  constructor
  · rintro ⟨j, ⟨hp, hr⟩, y, hy, rfl, rfl⟩
    exact ⟨hp, by omega, hy⟩
  · rintro ⟨hp, hr, hx⟩
    exact ⟨i, ⟨hp, by omega⟩, x, hx, rfl, rfl⟩

theorem pending_append (hpq : p ≤ q) (hqr : q ≤ r) :
    pending f p r = pending f p q ++ pending f q r := by
  have hlen : r - p = (q - p) + (r - q) := by omega
  have hmid : p + (q - p) = q := by omega
  have hsplit := List.range'_append_1 (s := p) (m := q - p) (n := r - q)
  rw [hmid] at hsplit
  unfold pending
  rw [hlen, ← hsplit, List.filterMap_append]

theorem pending_self (f : Nat → Option β) (p : Nat) : pending f p p = [] := by
  simp [pending]

theorem pending_one (f : Nat → Option β) (p : Nat) :
    pending f p (p + 1) = (f p).toList.map fun x => (p, x) := by
  have hlen : p + 1 - p = 1 := by omega
  unfold pending
  rw [hlen]
  cases h : f p <;> simp [h]

/-- One more step. -/
theorem pending_snoc (hpr : p ≤ r) :
    pending f p (r + 1) = pending f p r ++ (f r).toList.map fun x => (r, x) := by
  rw [pending_append hpr (Nat.le_succ r), pending_one]

theorem pending_eq_nil : pending f p r = [] ↔ ∀ i, p ≤ i → i < r → f i = none := by
  constructor
  · intro h i hp hr
    by_contra hne
    obtain ⟨x, hx⟩ := Option.ne_none_iff_exists'.mp hne
    have hmem : (i, x) ∈ pending f p r := mem_pending.mpr ⟨hp, hr, hx⟩
    rw [h] at hmem
    cases hmem
  · intro h
    refine List.eq_nil_iff_forall_not_mem.mpr ?_
    rintro ⟨i, x⟩ hx
    obtain ⟨hp, hr, hx⟩ := mem_pending.mp hx
    rw [h i hp hr] at hx
    cases hx

/-- Steps that bring nothing. -/
theorem pending_skip (hpq : p ≤ q) (hqr : q ≤ r) (h : ∀ i, p ≤ i → i < q → f i = none) :
    pending f p r = pending f q r := by
  rw [pending_append hpq hqr, pending_eq_nil.mpr h, List.nil_append]

/-- The first item: nothing comes before it, and the rest comes after it. -/
theorem pending_cons {l : List (Nat × β)} (h : pending f p r = (i, x) :: l) :
    p ≤ i ∧ i < r ∧ f i = some x ∧ (∀ j, p ≤ j → j < i → f j = none) ∧
      l = pending f (i + 1) r := by
  have hmem : (i, x) ∈ pending f p r := by
    rw [h]
    exact List.mem_cons_self
  obtain ⟨hp, hr, hx⟩ := mem_pending.mp hmem
  have hsplit : pending f p r = pending f p i ++ (i, x) :: pending f (i + 1) r := by
    rw [pending_append hp (Nat.le_of_lt hr), pending_append (Nat.le_succ i) hr, pending_one, hx]
    rfl
  have hnil : pending f p i = [] := by
    rw [h] at hsplit
    cases hpre : pending f p i with
    | nil => rfl
    | cons y ys =>
      rw [hpre] at hsplit
      obtain ⟨rfl, -⟩ := List.cons.inj hsplit
      have hself : (i, x) ∈ pending f p i := by
        rw [hpre]
        exact List.mem_cons_self
      exact absurd (mem_pending.mp hself).2.1 (Nat.lt_irrefl i)
  refine ⟨hp, hr, hx, pending_eq_nil.mp hnil, ?_⟩
  rw [h, hnil] at hsplit
  exact (List.cons.inj hsplit).2

/-- The first of the items alone. -/
theorem pending_head {l : List β} (h : x :: l = (pending f p r).map Prod.snd) :
    ∃ i, p ≤ i ∧ i < r ∧ f i = some x ∧ (∀ j, p ≤ j → j < i → f j = none) ∧
      l = (pending f (i + 1) r).map Prod.snd := by
  obtain ⟨⟨i, y⟩, l', hpend, rfl, rfl⟩ := List.map_eq_cons_iff.mp h.symm
  obtain ⟨hp, hr, hi, hnone, rfl⟩ := pending_cons hpend
  exact ⟨i, hp, hr, hi, hnone, rfl⟩

theorem pending_steps (f : Nat → Option β) (p r : Nat) :
    (pending f p r).map Prod.fst = (List.range' p (r - p)).filter fun i => (f i).isSome := by
  unfold pending
  induction List.range' p (r - p) with
  | nil => rfl
  | cons i l ih => cases h : f i <;> simp [h, ih]

theorem pending_nodup (f : Nat → Option β) (p r : Nat) :
    ((pending f p r).map Prod.fst).Nodup := by
  rw [pending_steps]
  exact List.Nodup.filter _ List.nodup_range'

/-- A value that only changes where a step brings something. -/
theorem eq_of_none {γ : Type} {v : Nat → γ} (hpq : p ≤ q)
    (hv : ∀ i, p ≤ i → i < q → v (i + 1) = v i) : v q = v p := by
  induction q, hpq using Nat.le_induction with
  | base => rfl
  | succ q hpq ih =>
    rw [hv q hpq (Nat.lt_succ_self q)]
    exact ih fun i hp hi => hv i hp (Nat.lt_succ_of_lt hi)

end YpfRuta.Lib
