/-
  Single-precision numbers: the value of a bit pattern, and arithmetic on the naturals as
  far as halving a count goes. There a natural is rounded to 24 significant bits, ties to
  even, and `round` goes half away from zero.
-/
import Mathlib.Algebra.Group.Nat.Defs
import Mathlib.Algebra.Ring.Rat
import Mathlib.Data.Nat.Log

namespace YpfRuta.Lib

/-- `n as f32`: the nearest number with 24 significant bits, ties to even. -/
def f32OfNat (n : Nat) : Nat :=
  if n < 2 ^ 24 then n
  else
    let ulp := 2 ^ (Nat.log 2 n - 23)
    let down := n / ulp
    let rest := n % ulp
    if 2 * rest < ulp ∨ (2 * rest = ulp ∧ down % 2 = 0) then down * ulp else (down + 1) * ulp

/-- `((n as f32 - 1f32) / 2f32).round() as usize`. The difference is rounded once
    more, the quotient is exact, and a negative one is cast to zero. -/
def f32HalfPred (n : Nat) : Nat := (f32OfNat (f32OfNat n - 1) + 1) / 2

/-- The number a bit pattern stands for. Infinities and NaNs stand for none. -/
def f32Value (bits : UInt32) : Option ℚ :=
  let exponent : Nat := bits.toNat / 2 ^ 23 % 2 ^ 8
  let fraction : Nat := bits.toNat % 2 ^ 23
  let magnitude : ℚ :=
    if exponent = 0 then (fraction : ℚ) / ((2 ^ 149 : Nat) : ℚ)
    else (((2 ^ 23 + fraction) * 2 ^ exponent : Nat) : ℚ) / ((2 ^ 150 : Nat) : ℚ)
  if exponent = 255 then none
  else if bits.toNat < 2 ^ 31 then some magnitude
  else some (-magnitude)

/-- Naturals of at most 24 bits are exact. -/
theorem f32OfNat_exact {n : Nat} (h : n ≤ 2 ^ 24) : f32OfNat n = n := by
  rcases Nat.lt_or_eq_of_le h with h | rfl
  · rw [f32OfNat, if_pos h]
  · decide +kernel

theorem f32HalfPred_eq {n : Nat} (h : n ≤ 2 ^ 24) : f32HalfPred n = n / 2 := by
  unfold f32HalfPred
  rw [f32OfNat_exact h, f32OfNat_exact (by omega)]
  omega

/-- Rounding up adds less than an eighth. -/
theorem f32OfNat_le (n : Nat) : f32OfNat n ≤ n + n / 8 := by
  unfold f32OfNat
  split
  · exact Nat.le_add_right n _
  · rename_i hbig
    have hlog : 24 ≤ Nat.log 2 n := Nat.le_log_of_pow_le (by decide) (Nat.not_lt.mp hbig)
    have hulp : 2 ^ (Nat.log 2 n - 23) * 8 ≤ n :=
      calc 2 ^ (Nat.log 2 n - 23) * 8 = 2 ^ (Nat.log 2 n - 23 + 3) := (Nat.pow_add 2 _ 3).symm
        _ ≤ 2 ^ Nat.log 2 n := Nat.pow_le_pow_right (by decide) (by omega)
        _ ≤ n := Nat.pow_log_le_self 2 (by omega)
    have hdown := Nat.div_mul_le_self n (2 ^ (Nat.log 2 n - 23))
    simp only
    split
    · omega
    · rw [Nat.add_mul, Nat.one_mul]
      omega

/-- Half of a count of at least two leaves one out. -/
theorem f32HalfPred_lt {n : Nat} (h : 2 ≤ n) : f32HalfPred n < n := by
  obtain hn | hn := Nat.lt_or_ge (2 ^ 24) n
  · have hin := f32OfNat_le n
    have hout := f32OfNat_le (f32OfNat n - 1)
    unfold f32HalfPred
    omega
  · rw [f32HalfPred_eq hn]
    omega

end YpfRuta.Lib
