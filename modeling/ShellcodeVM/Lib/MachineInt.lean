import Mathlib.Tactic

/-!
Conversions between `int` and the unsigned 64-bit type, as C makes them when an
`int` counter meets `uint64_t` bounds.
-/
namespace Machine

/-- Conversion to a 32-bit `int`. -/
def toInt32 (x : Int) : Int := Int.bmod x (2 ^ 32)

/-- Conversion of an `int` to `uint64_t`: sign extension. -/
def toUInt64 (i : Int) : Nat := (i % 2 ^ 64).toNat

/-- The passes that a loop over a non-negative `int` counter can make below a
bound before the counter reaches it or overflows. -/
@[irreducible] def intPasses (bound : Nat) : Nat := min bound (2 ^ 31)

theorem intPasses_pos {bound : Nat} (h : 0 < bound) : ∃ n, intPasses bound = n + 1 := by
  rw [intPasses]
  exact Nat.exists_eq_add_one.mpr (lt_min h (by decide))

theorem toInt32_small {x : Nat} (h : x < 2 ^ 31) : toInt32 x = x := by
  rw [toInt32]
  apply Int.bmod_eq_of_le <;> omega

theorem toUInt64_small {x : Nat} (h : x < 2 ^ 64) : toUInt64 x = x := by
  rw [toUInt64]
  omega

end Machine
