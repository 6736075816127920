import Mathlib.Tactic

/-!
Loops as step functions: a pass either goes on with a new state or exits with a
result. `iterate` makes at most a given number of passes, so a loop terminates
when some number of passes exits, and runs for ever when none does.
-/
namespace Machine
variable {σ ρ : Type*}

def iterate (step : σ → σ ⊕ ρ) : Nat → σ → Option ρ
  | 0, _ => none
  | n + 1, s =>
      match step s with
      | .inl s' => iterate step n s'
      | .inr r => some r

/-- A pass from a state that meets `I` goes on in one, or exits with `R`. -/
def Keeps (step : σ → σ ⊕ ρ) (I : σ → Prop) (R : ρ → Prop) : Prop :=
  ∀ s, I s → (∃ s', step s = .inl s' ∧ I s') ∨ ∃ r, step s = .inr r ∧ R r

theorem iterate_of_inl {step : σ → σ ⊕ ρ} {s s' : σ} (h : step s = .inl s') (n : Nat) :
    iterate step (n + 1) s = iterate step n s' := by
  rw [iterate, h]

theorem iterate_of_inr {step : σ → σ ⊕ ρ} {s : σ} {r : ρ} (h : step s = .inr r) (n : Nat) :
    iterate step (n + 1) s = some r := by
  rw [iterate, h]

/-- What a loop exits with meets the condition that every pass establishes. -/
theorem iterate_exit {step : σ → σ ⊕ ρ} {I : σ → Prop} {R : ρ → Prop} (keeps : Keeps step I R)
    {n : Nat} {s : σ} (hs : I s) {r : ρ} (h : iterate step n s = some r) : R r := by
  induction n generalizing s with
  | zero => cases h
  | succ n ih =>
      rcases keeps s hs with ⟨s', hstep, hs'⟩ | ⟨r', hstep, hr'⟩
      · rw [iterate_of_inl hstep] at h
        exact ih hs' h
      · rw [iterate_of_inr hstep] at h
        cases h
        exact hr'

/-- A measure that every pass decreases bounds the number of passes. -/
theorem iterate_terminates {step : σ → σ ⊕ ρ} {I : σ → Prop} {R : ρ → Prop} (measure : σ → Nat)
    (progress : ∀ s, I s →
      (∃ s', step s = .inl s' ∧ I s' ∧ measure s' < measure s) ∨ ∃ r, step s = .inr r ∧ R r)
    {n : Nat} {s : σ} (hs : I s) (hn : measure s < n) : ∃ r, iterate step n s = some r ∧ R r := by
  induction n generalizing s with
  | zero => exact absurd hn (Nat.not_lt_zero _)
  | succ n ih =>
      rcases progress s hs with ⟨s', hstep, hs', hless⟩ | ⟨r, hstep, hr⟩
      · rw [iterate_of_inl hstep]
        exact ih hs' (Nat.lt_of_lt_of_le hless (Nat.le_of_lt_succ hn))
      · exact ⟨r, iterate_of_inr hstep n, hr⟩

/-! Loops that take the next value of a stream in every pass. -/

variable {α : Type*}

/-- The state before pass `n`, none when the loop has exited by then. -/
def stateBefore (pass : σ → α → σ ⊕ ρ) (s₀ : σ) (input : Nat → α) : Nat → Option σ
  | 0 => some s₀
  | n + 1 => (stateBefore pass s₀ input n).bind fun s => (pass s (input n)).getLeft?

/-- Does the loop begin pass `n`? -/
def Begins (pass : σ → α → σ ⊕ ρ) (s₀ : σ) (input : Nat → α) (n : Nat) : Prop :=
  (stateBefore pass s₀ input n).isSome = true

/-- When the value taken decides whether a pass goes on, a pass is begun exactly when
all values before it go on. -/
theorem begins_iff {pass : σ → α → σ ⊕ ρ} {I : σ → Prop} {GoesOn : α → Prop} {s₀ : σ}
    (hs₀ : I s₀) (hpass : ∀ s a, I s →
      (GoesOn a ∧ ∃ s', pass s a = .inl s' ∧ I s') ∨ (¬ GoesOn a ∧ ∃ r, pass s a = .inr r))
    (input : Nat → α) (n : Nat) :
    Begins pass s₀ input n ↔ ∀ k, k < n → GoesOn (input k) := by
  have hstate : (∃ s, stateBefore pass s₀ input n = some s ∧ I s ∧ ∀ k, k < n → GoesOn (input k)) ∨
      (stateBefore pass s₀ input n = none ∧ ∃ k, k < n ∧ ¬ GoesOn (input k)) := by
    induction n with
    | zero => exact .inl ⟨s₀, rfl, hs₀, fun k hk => absurd hk (Nat.not_lt_zero k)⟩
    | succ n ih =>
        rcases ih with ⟨s, hbefore, hs, hall⟩ | ⟨hbefore, k, hk, hstop⟩
        · rw [stateBefore, hbefore]
          rcases hpass s (input n) hs with ⟨hgoes, s', heq, hs'⟩ | ⟨hstop, r, heq⟩
          · refine .inl ⟨s', by rw [Option.bind_some, heq]; rfl, hs', fun k hk => ?_⟩
            rcases Nat.lt_succ_iff_lt_or_eq.mp hk with hlt | rfl
            · exact hall k hlt
            · exact hgoes
          · exact .inr ⟨by rw [Option.bind_some, heq]; rfl, n, Nat.lt_succ_self n, hstop⟩
        · rw [stateBefore, hbefore]
          exact .inr ⟨rfl, k, Nat.lt_succ_of_lt hk, hstop⟩
  rw [Begins]
  rcases hstate with ⟨s, hbefore, -, hall⟩ | ⟨hbefore, k, hk, hstop⟩
  · rw [hbefore]
    exact ⟨fun _ => hall, fun _ => rfl⟩
  · rw [hbefore]
    exact ⟨fun h => (by cases h), fun hall => absurd (hall k hk) hstop⟩

/-! Loops that give up at the first pass that fails, in a monad in which a pass may also
raise an error or not return. -/

section Passes
variable {ε σ α β : Type}

/-- At most `n` passes from pass `i` on; `false` for a pass that failed. -/
def tryPasses (pass : Nat → σ → ExceptT ε Option (Bool × σ)) :
    Nat → Nat → σ → ExceptT ε Option (Bool × σ)
  | 0, _, s => pure (true, s)
  | n + 1, i, s => do
      let passed ← pass i s
      if passed.1 = false then return (false, passed.2) else tryPasses pass n (i + 1) passed.2

theorem pure_inj {a b : α} (h : (pure a : ExceptT ε Option α) = pure b) : a = b :=
  Except.ok.inj (Option.some.inj h)

/-- What returns has returned in all its parts. -/
theorem bind_eq_pure {x : ExceptT ε Option α} {f : α → ExceptT ε Option β} {b : β}
    (h : x >>= f = pure b) : ∃ a, x = pure a ∧ f a = pure b := by
  obtain _ | _ | a : Option (Except ε α) := x
  · cases h
  · cases h
  · exact ⟨a, rfl, h⟩

/-- A loop that gives up has made some passes with success, and the next one failed. -/
theorem tryPasses_fails {pass : Nat → σ → ExceptT ε Option (Bool × σ)} {n i : Nat} {s s' : σ}
    (h : tryPasses pass n i s = pure (false, s')) :
    ∃ k before, k < n ∧ tryPasses pass k i s = pure (true, before) ∧
      pass (i + k) before = pure (false, s') := by
  induction n generalizing i s with
  | zero => cases pure_inj h
  | succ n ih =>
      rw [tryPasses] at h
      obtain ⟨⟨ok, s₁⟩, hpass, hrest⟩ := bind_eq_pure h
      cases ok with
      | false =>
          rw [if_pos rfl] at hrest
          cases pure_inj hrest
          exact ⟨0, s, Nat.succ_pos n, rfl, hpass⟩
      | true =>
          rw [if_neg Bool.noConfusion] at hrest
          obtain ⟨k, before, hk, hrun, hlast⟩ := ih hrest
          refine ⟨k + 1, before, Nat.succ_lt_succ hk, ?_, ?_⟩
          · rw [tryPasses, hpass, pure_bind, if_neg Bool.noConfusion]
            exact hrun
          · rwa [Nat.add_comm k 1, ← Nat.add_assoc]

end Passes

end Machine
