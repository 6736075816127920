import ShellcodeVM.Lib.Memory

/-!
Byte memory behind 32-bit addresses that keeps a record of what a program touches: the
bytes it stores itself, and the pairs that `memcpy` copies. A copy may overlap its
source; it goes upwards byte by byte. A buffer is seen by distance from its base.
-/
namespace Machine

inductive Access where
  | store (a : Nat)
  | copy (src dst : Nat)
deriving DecidableEq, Repr

def Access.addrs : Access → List Nat
  | .store a => [a]
  | .copy src dst => [src, dst]

structure Ram where
  bytes : Memory
  log : List Access

namespace Ram

def store (r : Ram) (a : Nat) (b : UInt8) : Ram where
  bytes := write8 r.bytes (a % 2 ^ 32) b
  log := .store (a % 2 ^ 32) :: r.log

def copyByte (r : Ram) (dst src : Nat) : Ram where
  bytes := write8 r.bytes (dst % 2 ^ 32) (r.bytes (src % 2 ^ 32))
  log := .copy (src % 2 ^ 32) (dst % 2 ^ 32) :: r.log

def memcpy (r : Ram) (dst src : Nat) : Nat → Ram
  | 0 => r
  | n + 1 => (memcpy r dst src n).copyByte (dst + n) (src + n)

theorem memcpy_zero (r : Ram) (dst src : Nat) : r.memcpy dst src 0 = r :=
  rfl

theorem memcpy_succ (r : Ram) (dst src n : Nat) :
    r.memcpy dst src (n + 1) = (r.memcpy dst src n).copyByte (dst + n) (src + n) :=
  rfl

-- no unification is to count a length of 32 bits down
attribute [irreducible] memcpy

/-- The byte at a distance from a base. -/
def cell (r : Ram) (base i : Nat) : UInt8 := r.bytes ((base + i) % 2 ^ 32)

/-- An address within a distance of a base. -/
def Within (base size a : Nat) : Prop := ∃ i, i < size ∧ a = (base + i) % 2 ^ 32

/-- What `r` has touched since `r₀` lies within a distance of a base, and nothing else
has changed. -/
structure Confined (base size : Nat) (r₀ r : Ram) : Prop where
  log : ∃ new, r.log = new ++ r₀.log ∧ ∀ e ∈ new, ∀ a ∈ e.addrs, Within base size a
  bytes : ∀ a, ¬ Within base size a → r.bytes a = r₀.bytes a

theorem wrap_inj {base i j : Nat} (hi : i < 2 ^ 32) (hj : j < 2 ^ 32) :
    (base + i) % 2 ^ 32 = (base + j) % 2 ^ 32 ↔ i = j := by
  omega

section
variable {r : Ram} {base size i j : Nat}

theorem cell_store_same (r : Ram) (base i : Nat) (b : UInt8) :
    (r.store (base + i) b).cell base i = b :=
  if_pos rfl

theorem cell_store_of_ne (r : Ram) (base : Nat) (b : UInt8) (hi : i < 2 ^ 32) (hj : j < 2 ^ 32)
    (h : j ≠ i) : (r.store (base + i) b).cell base j = r.cell base j :=
  write8_of_ne _ _ _ (mt (wrap_inj hj hi).mp h)

theorem cell_copyByte_same (r : Ram) (base i j : Nat) :
    (r.copyByte (base + i) (base + j)).cell base i = r.cell base j :=
  if_pos rfl

theorem cell_copyByte_of_ne (r : Ram) (base : Nat) {k : Nat} (hi : i < 2 ^ 32) (hk : k < 2 ^ 32)
    (h : k ≠ i) : (r.copyByte (base + i) (base + j)).cell base k = r.cell base k :=
  write8_of_ne _ _ _ (mt (wrap_inj hk hi).mp h)

/-- A copy towards the base puts in place of every byte of the destination the one that
the source had there, also where the two overlap. -/
theorem cell_memcpy (r : Ram) (base d : Nat) {n i : Nat} (hn : n + d ≤ 2 ^ 32) (hi : i < 2 ^ 32) :
    (r.memcpy base (base + d) n).cell base i =
      if i < n then r.cell base (d + i) else r.cell base i := by
  induction n generalizing i with
  | zero =>
      rw [memcpy_zero]
      rfl
  | succ n ih =>
      rw [memcpy_succ, Nat.add_assoc]
      by_cases hin : i = n
      · -- the source byte lies above everything copied so far
        subst hin
        rw [cell_copyByte_same, ih (by omega) (by omega), if_neg (by omega),
          if_pos (Nat.lt_succ_self i)]
      · have hlt : i < n + 1 ↔ i < n := by omega
        rw [cell_copyByte_of_ne _ _ (by omega) hi hin, ih (by omega) hi]
        simp only [hlt]

/-! ### Confinement -/

theorem Confined.refl (base size : Nat) (r : Ram) : Confined base size r r :=
  ⟨⟨[], rfl, fun _ he => absurd he List.not_mem_nil⟩, fun _ _ => rfl⟩

theorem Confined.trans {r₀ r₁ r₂ : Ram} (h : Confined base size r₀ r₁)
    (h' : Confined base size r₁ r₂) : Confined base size r₀ r₂ := by
  obtain ⟨new, hlog, hnew⟩ := h.log
  obtain ⟨new', hlog', hnew'⟩ := h'.log
  refine ⟨⟨new' ++ new, ?_, ?_⟩, fun a ha => (h'.bytes a ha).trans (h.bytes a ha)⟩
  · rw [hlog', hlog, List.append_assoc]
  · intro e he
    rcases List.mem_append.mp he with he | he
    · exact hnew' e he
    · exact hnew e he

theorem within_add (base : Nat) (h : i < size) : Within base size ((base + i) % 2 ^ 32) :=
  ⟨i, h, rfl⟩

theorem Confined.store (h : i < size) (b : UInt8) :
    Confined base size r (r.store (base + i) b) := by
  refine ⟨⟨[.store ((base + i) % 2 ^ 32)], rfl, ?_⟩, ?_⟩
  · intro e he a ha
    cases List.mem_singleton.mp he
    cases List.mem_singleton.mp ha
    exact within_add base h
  · intro a ha
    exact write8_of_ne _ _ _ fun heq => ha (heq ▸ within_add base h)

theorem Confined.copyByte (hi : i < size) (hj : j < size) :
    Confined base size r (r.copyByte (base + i) (base + j)) := by
  refine ⟨⟨[.copy ((base + j) % 2 ^ 32) ((base + i) % 2 ^ 32)], rfl, ?_⟩, ?_⟩
  · intro e he a ha
    cases List.mem_singleton.mp he
    rcases List.mem_cons.mp ha with rfl | ha
    · exact within_add base hj
    · cases List.mem_singleton.mp ha
      exact within_add base hi
  · intro a ha
    exact write8_of_ne _ _ _ fun heq => ha (heq ▸ within_add base hi)

theorem Confined.memcpy {d n : Nat} (h : n + d ≤ size) :
    Confined base size r (r.memcpy base (base + d) n) := by
  induction n with
  | zero =>
      rw [memcpy_zero]
      exact Confined.refl base size r
  | succ n ih =>
      have hdst : n < size := by omega
      have hsrc : d + n < size := by omega
      have hstep : Confined base size (r.memcpy base (base + d) n) _ :=
        Confined.copyByte hdst hsrc
      rw [← Nat.add_assoc] at hstep
      rw [memcpy_succ]
      exact (ih (by omega)).trans hstep

/-- `memcpy` makes copies only. -/
theorem memcpy_log (r : Ram) (dst src n : Nat) :
    ∃ new, (r.memcpy dst src n).log = new ++ r.log ∧ ∀ a, Access.store a ∉ new := by
  induction n with
  | zero =>
      rw [memcpy_zero]
      exact ⟨[], rfl, fun a => List.not_mem_nil⟩
  | succ n ih =>
      obtain ⟨new, hlog, hnew⟩ := ih
      refine ⟨.copy ((src + n) % 2 ^ 32) ((dst + n) % 2 ^ 32) :: new, ?_, ?_⟩
      · rw [memcpy_succ, copyByte, hlog]
        rfl
      · intro a ha
        rcases List.mem_cons.mp ha with ha | ha
        · cases ha
        · exact hnew a ha

end

end Ram
end Machine
