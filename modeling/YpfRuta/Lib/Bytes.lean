/-
  Big-endian bytes of numbers, and reads of an exact number of bytes.
-/
import Mathlib.Data.List.Basic
import Mathlib.Tactic.Ring

namespace YpfRuta.Lib

/-- The `n` low bytes of `v`, most significant first. -/
def toBeBytes : Nat → Nat → List UInt8
  | 0, _ => []
  | n + 1, v => UInt8.ofNat (v / 256 ^ n) :: toBeBytes n v

/-- The number some bytes spell, most significant first. -/
def fromBeBytes : List UInt8 → Nat
  | [] => 0
  | b :: bs => b.toNat * 256 ^ bs.length + fromBeBytes bs

/-- The first `n` bytes and the ones after them, once that many are there. -/
def readExact (n : Nat) (bytes : List UInt8) : Option (List UInt8 × List UInt8) :=
  if n ≤ bytes.length then some (bytes.take n, bytes.drop n) else none

@[simp] theorem toBeBytes_length (n v : Nat) : (toBeBytes n v).length = n := by
  induction n with
  | zero => rfl
  | succ n ih => rw [toBeBytes, List.length_cons, ih]

/-- Reading back what was written gives the number, cut to the bytes it was given. -/
theorem fromBeBytes_toBeBytes (n v : Nat) : fromBeBytes (toBeBytes n v) = v % 256 ^ n := by
  induction n with
  | zero => rw [Nat.pow_zero, Nat.mod_one, toBeBytes, fromBeBytes]
  | succ n ih =>
    have hbyte : (UInt8.ofNat (v / 256 ^ n)).toNat = v / 256 ^ n % 256 := by simp
    rw [toBeBytes, fromBeBytes, ih, toBeBytes_length, hbyte, Nat.mod_pow_succ]
    ring

theorem readExact_append {front rest : List UInt8} {n : Nat} (h : front.length = n) :
    readExact n (front ++ rest) = some (front, rest) := by
  unfold readExact
  rw [if_pos (by rw [List.length_append]; omega), List.take_left' h, List.drop_left' h]

theorem readExact_eq_some {n : Nat} {bytes front rest : List UInt8}
    (h : readExact n bytes = some (front, rest)) : bytes = front ++ rest ∧ front.length = n := by
  unfold readExact at h
  split at h
  · rename_i hn
    cases h
    exact ⟨(List.take_append_drop n bytes).symm, List.length_take_of_le hn⟩
  · cases h

end YpfRuta.Lib
