import Mathlib.Tactic

/-!
The scan of an array of slots for the lowest free one.
-/
namespace Machine
variable {free : Nat → Prop} [DecidablePred free]

/-- `for (i = start; i < start + n; i++) if (free(i)) return i;`. -/
def firstFree (free : Nat → Prop) [DecidablePred free] : Nat → Nat → Option Nat
  | 0, _ => none
  | n + 1, i => if free i then some i else firstFree free n (i + 1)

/-- The scan stops at the lowest free slot of its range. -/
theorem firstFree_some {n i k : Nat} (h : firstFree free n i = some k) :
    i ≤ k ∧ k < i + n ∧ free k ∧ ∀ j, i ≤ j → j < k → ¬ free j := by
  induction n generalizing i with
  | zero => cases h
  | succ n ih =>
      rw [firstFree] at h
      by_cases hi : free i
      · rw [if_pos hi] at h
        cases h
        exact ⟨le_refl k, by omega, hi, fun j hj hlt => absurd hlt (by omega)⟩
      · rw [if_neg hi] at h
        obtain ⟨hle, hlt, hk, hbefore⟩ := ih h
        refine ⟨by omega, by omega, hk, ?_⟩
        intro j hj hjk
        rcases Nat.eq_or_lt_of_le hj with heq | hj
        · exact heq ▸ hi
        · exact hbefore j hj hjk

theorem firstFree_none_iff {n i : Nat} :
    firstFree free n i = none ↔ ∀ j, i ≤ j → j < i + n → ¬ free j := by
  induction n generalizing i with
  | zero => exact ⟨fun _ j hj hlt => absurd hlt (by omega), fun _ => rfl⟩
  | succ n ih =>
      rw [firstFree]
      by_cases hi : free i
      · rw [if_pos hi]
        refine ⟨fun h => absurd h (Option.some_ne_none i), ?_⟩
        intro h
        exact absurd hi (h i (le_refl i) (by omega))
      · rw [if_neg hi, ih]
        refine ⟨?_, fun h j hj hlt => h j (by omega) (by omega)⟩
        intro h j hj hlt
        rcases Nat.eq_or_lt_of_le hj with heq | hj
        · exact heq ▸ hi
        · exact h j hj (by omega)

end Machine
