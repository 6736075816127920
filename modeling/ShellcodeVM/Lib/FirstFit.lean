import Mathlib.Tactic

/-!
Runs of free cells in a bounded map, and the lowest one that is long enough.
-/
namespace Frames
variable {free : Nat → Prop} {size pages : Nat}

/-- `pages` free cells from `start`, all inside the map. -/
def FreeRun (free : Nat → Prop) (size pages start : Nat) : Prop :=
  start + pages ≤ size ∧ ∀ i, start ≤ i → i < start + pages → free i

def FirstFit (free : Nat → Prop) (size pages start : Nat) : Prop :=
  FreeRun free size pages start ∧ ∀ k, k < start → ¬ FreeRun free size pages k

/-- A used cell ends every run that starts at or below it. -/
theorem not_freeRun_of_used {start u : Nat} (hused : ¬ free u) (hle : start ≤ u)
    (hlt : u < start + pages) : ¬ FreeRun free size pages start := by
  intro h
  exact hused (h.2 u hle hlt)

theorem FirstFit.unique {i j : Nat} (hi : FirstFit free size pages i)
    (hj : FirstFit free size pages j) : i = j := by
  rcases Nat.lt_trichotomy i j with h | h | h
  · exact absurd hi.1 (hj.2 i h)
  · exact h
  · exact absurd hj.1 (hi.2 j h)

end Frames
