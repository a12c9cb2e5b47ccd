/-
  What one observer sees of a list: some members are seen, the others are left out, and a
  member that nobody can place may be either.
-/
import Mathlib.Data.List.Basic

namespace YpfRuta.Lib

/-- The list `ys` is `xs` without some members that meet `drop`; those left meet `keep`. -/
inductive Selects {α : Type} (keep drop : α → Prop) : List α → List α → Prop
  | nil : Selects keep drop [] []
  | keep {x : α} {xs ys : List α} (hx : keep x) (h : Selects keep drop xs ys) :
      Selects keep drop (x :: xs) (x :: ys)
  | drop {x : α} {xs ys : List α} (hx : drop x) (h : Selects keep drop xs ys) :
      Selects keep drop (x :: xs) ys

namespace Selects

variable {α : Type} {keep drop : α → Prop} {xs ys xs' ys' : List α}

theorem append (h : Selects keep drop xs ys) (h' : Selects keep drop xs' ys') :
    Selects keep drop (xs ++ xs') (ys ++ ys') := by
  induction h with
  | nil => exact h'
  | keep hx _ ih => exact .keep hx ih
  | drop hx _ ih => exact .drop hx ih

theorem of_keep (h : ∀ x ∈ xs, keep x) : Selects keep drop xs xs := by
  induction xs with
  | nil => exact .nil
  | cons x xs ih =>
    exact .keep (h x List.mem_cons_self) (ih fun y hy => h y (List.mem_cons_of_mem _ hy))

theorem of_drop (h : ∀ x ∈ xs, drop x) : Selects keep drop xs [] := by
  induction xs with
  | nil => exact .nil
  | cons x xs ih =>
    exact .drop (h x List.mem_cons_self) (ih fun y hy => h y (List.mem_cons_of_mem _ hy))

/-- What is seen under `p` is what is left under `q`. -/
theorem filter_eq {p q : α → Bool} (h : Selects keep drop xs ys)
    (hk : ∀ x, keep x → p x = q x) (hd : ∀ x, drop x → p x = false) :
    xs.filter p = ys.filter q := by
  induction h with
  | nil => rfl
  | keep hx _ ih => rw [List.filter_cons, List.filter_cons, hk _ hx, ih]
  | drop hx _ ih => rw [List.filter_cons, hd _ hx, ih]; rfl

end Selects

end YpfRuta.Lib
