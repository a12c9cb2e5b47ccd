/-
  Logs whose entries are numbered from 1 without gaps.
-/
import Mathlib.Data.List.Nodup

namespace YpfRuta.Lib

variable {β γ : Type} {num : β → Nat} {l : List β}

/-- The `k`-th entry, counted from 0, carries number `k + 1`. -/
def Numbered (num : β → Nat) (l : List β) : Prop :=
  ∀ k (h : k < l.length), num (l[k]) = k + 1

theorem Numbered.nil : Numbered num [] := fun _ h => absurd h (Nat.not_lt_zero _)

theorem Numbered.concat (h : Numbered num l) {e : β} (he : num e = l.length + 1) :
    Numbered num (l ++ [e]) := by
  intro k hk
  rw [List.length_append, List.length_singleton] at hk
  by_cases hlt : k < l.length
  · rw [List.getElem_append_left hlt]
    exact h k hlt
  · obtain rfl : k = l.length := by omega
    simpa using he

/-- A prefix of a numbered log is numbered. -/
theorem Numbered.left {m : List β} (h : Numbered num (l ++ m)) : Numbered num l := by
  intro k hk
  have := h k (by rw [List.length_append]; omega)
  rwa [List.getElem_append_left hk] at this

theorem Numbered.map {num' : γ → Nat} (h : Numbered num l) {f : β → γ}
    (hf : ∀ e, num' (f e) = num e) : Numbered num' (l.map f) := by
  intro k hk
  rw [List.length_map] at hk
  rw [List.getElem_map, hf]
  exact h k hk

/-- The entry after a prefix carries the next number. -/
theorem Numbered.next {e : β} {m : List β} (h : Numbered num (l ++ e :: m)) :
    num e = l.length + 1 := by
  have hlen : l.length < (l ++ e :: m).length := by simp
  have := h l.length hlen
  simpa using this

theorem Numbered.last {e : β} (h : Numbered num l) (he : l.getLast? = some e) :
    num e = l.length := by
  obtain ⟨m, rfl⟩ := List.getLast?_eq_some_iff.mp he
  rw [h.next, List.length_append, List.length_singleton]

theorem Numbered.bounds (h : Numbered num l) {e : β} (he : e ∈ l) :
    1 ≤ num e ∧ num e ≤ l.length := by
  obtain ⟨k, hk, rfl⟩ := List.getElem_of_mem he
  have := h k hk
  omega

/-- The numbers of a log are exactly 1 up to its length. -/
theorem Numbered.exists_iff (h : Numbered num l) {m : Nat} :
    (∃ e ∈ l, num e = m) ↔ 1 ≤ m ∧ m ≤ l.length := by
  constructor
  · rintro ⟨e, he, rfl⟩
    exact h.bounds he
  · rintro ⟨h1, h2⟩
    have hk : m - 1 < l.length := by omega
    refine ⟨l[m - 1], List.getElem_mem hk, ?_⟩
    rw [h (m - 1) hk]
    omega

/-- A number names one entry. -/
theorem Numbered.unique (h : Numbered num l) {e f : β} (he : e ∈ l) (hf : f ∈ l)
    (hef : num e = num f) : e = f := by
  obtain ⟨j, hj, rfl⟩ := List.getElem_of_mem he
  obtain ⟨k, hk, rfl⟩ := List.getElem_of_mem hf
  rw [h j hj, h k hk] at hef
  obtain rfl : j = k := by omega
  rfl

/-- A numbered log made of another one's entries is where that one starts. -/
theorem Numbered.prefix {k : List β} (hk : Numbered num k) (h : Numbered num l)
    (hsub : ∀ e ∈ k, e ∈ l) : k <+: l := by
  have hlen : k.length ≤ l.length := by
    rcases Nat.eq_zero_or_pos k.length with h0 | hpos
    · omega
    · have hlast := hk (k.length - 1) (by omega)
      have hle := (h.bounds (hsub _ (List.getElem_mem (by omega : k.length - 1 < k.length)))).2
      omega
  rw [List.prefix_iff_eq_take]
  refine List.ext_getElem (by rw [List.length_take]; omega) fun j hj hj' => ?_
  rw [List.getElem_take]
  have hjl : j < l.length := by omega
  exact h.unique (hsub _ (List.getElem_mem hj)) (List.getElem_mem hjl) (by rw [hk j hj, h j hjl])

theorem Numbered.nodup (h : Numbered num l) : l.Nodup := by
  rw [List.nodup_iff_injective_getElem]
  intro a b hab
  have ha := h a a.isLt
  have hb := h b b.isLt
  simp only at hab
  rw [hab, hb] at ha
  exact Fin.ext (by omega)

end YpfRuta.Lib
