import Mathlib.Tactic

/-!
Programs that stop at the first access outside what they may touch. A check gives the
value of an access or the fault; a program is safe when it returns, and the lemmas take
this apart check by check.
-/
namespace Machine
universe u v
variable {ε : Type u} {α β : Type v}

def check (c : Prop) [Decidable c] (fault : ε) (a : α) : Except ε α :=
  if c then .ok a else .error fault

/-- The program comes to its end. -/
def Returns (x : Except ε α) : Prop := ∃ a, x = .ok a

theorem ok_bind (a : α) (f : α → Except ε β) : (.ok a : Except ε α) >>= f = f a :=
  rfl

theorem check_bind_of_pos {c : Prop} [Decidable c] (h : c) (fault : ε) (a : α)
    (f : α → Except ε β) : check c fault a >>= f = f a := by
  rw [check, if_pos h]
  rfl

theorem check_bind_of_neg {c : Prop} [Decidable c] (h : ¬ c) (fault : ε) (a : α)
    (f : α → Except ε β) : check c fault a >>= f = .error fault := by
  rw [check, if_neg h]
  rfl

theorem returns_ok (a : α) : Returns (.ok a : Except ε α) :=
  ⟨a, rfl⟩

theorem returns_pure (a : α) : Returns (pure a : Except ε α) :=
  ⟨a, rfl⟩

theorem not_returns_error (fault : ε) : ¬ Returns (.error fault : Except ε α) := by
  rintro ⟨a, h⟩
  cases h

theorem returns_check_bind {c : Prop} [Decidable c] {fault : ε} {a : α} {f : α → Except ε β} :
    Returns (check c fault a >>= f) ↔ c ∧ Returns (f a) := by
  by_cases h : c
  · rw [check_bind_of_pos h]
    exact ⟨fun hf => ⟨h, hf⟩, fun hf => hf.2⟩
  · rw [check_bind_of_neg h]
    exact ⟨fun hf => absurd hf (not_returns_error fault), fun hf => absurd hf.1 h⟩

theorem returns_bind {x : Except ε α} {f : α → Except ε β} :
    Returns (x >>= f) ↔ ∃ a, x = .ok a ∧ Returns (f a) := by
  cases x with
  | error fault =>
      constructor
      · exact fun h => absurd h (not_returns_error fault)
      · rintro ⟨a, h, -⟩
        cases h
  | ok a =>
      constructor
      · exact fun h => ⟨a, rfl, h⟩
      · rintro ⟨a', h, hf⟩
        cases h
        exact hf

/-- What is done with a result at the end does not matter where it cannot fail. -/
theorem returns_bind_of_returns {x : Except ε α} {f : α → Except ε β} (hf : ∀ a, Returns (f a)) :
    Returns (x >>= f) ↔ Returns x := by
  rw [returns_bind]
  constructor
  · rintro ⟨a, heq, -⟩
    exact ⟨a, heq⟩
  · rintro ⟨a, heq⟩
    exact ⟨a, heq, hf a⟩

/-- The first `n` passes of a loop. -/
def passes {σ : Type v} (body : σ → Nat → Except ε σ) (s : σ) : Nat → Except ε σ
  | 0 => .ok s
  | n + 1 => passes body s n >>= fun s => body s n

/-- A loop comes to its end when every pass does. What a pass needs may be worked out from
what the passes before it needed, not from what they have computed. -/
theorem returns_passes {σ : Type v} {body : σ → Nat → Except ε σ} {P : Nat → Prop}
    (hbody : ∀ i, (∀ j, j < i → P j) → ∀ s, (Returns (body s i) ↔ P i)) (s : σ) (n : Nat) :
    Returns (passes body s n) ↔ ∀ i, i < n → P i := by
  induction n with
  | zero => exact ⟨fun _ i hi => absurd hi (Nat.not_lt_zero i), fun _ => returns_ok s⟩
  | succ n ih =>
      rw [passes, returns_bind]
      constructor
      · rintro ⟨s', heq, hlast⟩ i hi
        have hbefore := ih.mp ⟨s', heq⟩
        rcases Nat.lt_succ_iff_lt_or_eq.mp hi with hlt | rfl
        · exact hbefore i hlt
        · exact (hbody i hbefore s').mp hlast
      · intro h
        have hbefore : ∀ i, i < n → P i := fun i hi => h i (Nat.lt_succ_of_lt hi)
        obtain ⟨s', heq⟩ := ih.mpr hbefore
        exact ⟨s', heq, (hbody n hbefore s').mpr (h n (Nat.lt_succ_self n))⟩

end Machine
