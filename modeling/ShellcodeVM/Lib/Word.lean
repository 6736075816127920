import Mathlib.Data.Nat.Bitwise
import Mathlib.Tactic

/-!
Bit fields of 32-bit words kept as natural numbers. The mask and shift
operations of C are turned into division and remainder here, once, so that
the address arithmetic above is linear.
-/
namespace Machine

theorem shiftRight_eq_div (x n : Nat) : x >>> n = x / 2 ^ n :=
  Nat.shiftRight_eq_div_pow x n

theorem and_mask (x n : Nat) : x &&& (2 ^ n - 1) = x % 2 ^ n :=
  Nat.and_two_pow_sub_one_eq_mod x n

theorem and_ne_zero (x k : Nat) : x &&& 2 ^ k ≠ 0 ↔ x.testBit k = true := by
  rw [Nat.and_two_pow]
  cases x.testBit k <;> simp

theorem and_eq_zero (x k : Nat) : x &&& 2 ^ k = 0 ↔ x.testBit k = false := by
  rw [← not_iff_not, ← ne_eq, and_ne_zero]
  simp

theorem and_indexMask (x : Nat) : x &&& 0x3FF = x % 1024 :=
  and_mask x 10

/-- A mask of `n` bits at bit `k` keeps that field in its place. -/
theorem and_shiftedMask (x n k : Nat) :
    x &&& (2 ^ n - 1) * 2 ^ k = x / 2 ^ k % 2 ^ n * 2 ^ k := by
  apply Nat.eq_of_testBit_eq
  intro i
  simp only [Nat.testBit_and, Nat.testBit_mul_two_pow, Nat.testBit_two_pow_sub_one,
    Nat.testBit_mod_two_pow, Nat.testBit_div_two_pow]
  by_cases hi : k ≤ i
  · have hs : i - k + k = i := Nat.sub_add_cancel hi
    simp only [hi, hs, decide_true, Bool.true_and, Bool.and_comm]
  · simp only [hi, decide_false, Bool.false_and, Bool.and_false]

/-- The page mask keeps the upper twenty bits of a 32-bit word. -/
theorem and_pageMask (x : Nat) : x &&& 0xFFFFF000 = x % 2 ^ 32 / 4096 * 4096 := by
  have hmask : 0xFFFFF000 = (2 ^ 20 - 1) * 2 ^ 12 := by norm_num
  rw [hmask, and_shiftedMask]
  omega

/-- Joining two fields, the lower one below bit `k`, adds them. -/
theorem or_field {x : Nat} (y : Nat) {k : Nat} (hx : x < 2 ^ k) :
    x ||| y * 2 ^ k = x + y * 2 ^ k := by
  rw [Nat.or_comm, Nat.mul_comm, ← Nat.two_pow_add_eq_or_of_lt hx, Nat.add_comm]

/-- Joining attribute bits to a page-aligned address adds them. -/
theorem or_attr {a p : Nat} (ha : a % 4096 = 0) (hp : p < 4096) : a ||| p = a + p := by
  have h := or_field (a / 4096) (k := 12) hp
  have ha' : a / 4096 * 2 ^ 12 = a := by omega
  rw [ha'] at h
  rw [Nat.or_comm, h, Nat.add_comm]

theorem or_lt_page {p q : Nat} (hp : p < 4096) (hq : q < 4096) : p ||| q < 4096 :=
  Nat.or_lt_two_pow (n := 12) hp hq

theorem or_odd_left {p q : Nat} (hp : p % 2 = 1) : (p ||| q) % 2 = 1 := by
  have h : (p ||| q).testBit 0 = true := by
    rw [Nat.testBit_or, Nat.testBit_zero, hp]
    simp
  simpa [Nat.testBit_zero] using h

end Machine
