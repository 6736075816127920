import Mathlib.Data.Nat.Bitwise
import Mathlib.Tactic.Ring

/-!
The arithmetic flags of additions and subtractions on words of any width, and the conditions
that a conditional jump tests. After a comparison the conditions are those of the operands.
-/
namespace Machine

structure Flags where
  cf : Bool
  pf : Bool
  af : Bool
  zf : Bool
  sf : Bool
  of : Bool
deriving DecidableEq, Repr

namespace Flags

/-- The flags at their places in the flags register. -/
def word (f : Flags) : Nat :=
  f.cf.toNat ||| f.pf.toNat <<< 2 ||| f.af.toNat <<< 4 ||| f.zf.toNat <<< 6 ||| f.sf.toNat <<< 7 |||
    f.of.toNat <<< 11

theorem word_bits (f : Flags) : f.word.testBit 0 = f.cf ∧ f.word.testBit 2 = f.pf ∧
    f.word.testBit 4 = f.af ∧ f.word.testBit 6 = f.zf ∧ f.word.testBit 7 = f.sf ∧
    f.word.testBit 11 = f.of := by
  obtain ⟨cf, pf, af, zf, sf, of⟩ := f
  revert cf pf af zf sf of
  decide

theorem word_lt (f : Flags) : f.word < 2 ^ 12 := by
  obtain ⟨cf, pf, af, zf, sf, of⟩ := f
  revert cf pf af zf sf of
  decide

end Flags

/-- The conditions, of which each has an inverse. -/
inductive Cond where
  | o | b | z | be | s | p | l | le
deriving DecidableEq, Repr

def Flags.holds (f : Flags) : Cond → Bool
  | .o => f.of
  | .b => f.cf
  | .z => f.zf
  | .be => f.cf || f.zf
  | .s => f.sf
  | .p => f.pf
  | .l => f.sf != f.of
  | .le => f.zf || f.sf != f.of

/-- A word of `w` bits in two's complement. -/
def signed (w x : Nat) : Int := if x < 2 ^ (w - 1) then x else x - 2 ^ w

def FitsSigned (w : Nat) (s : Int) : Prop := -2 ^ (w - 1) ≤ s ∧ s < 2 ^ (w - 1)

instance (w : Nat) (s : Int) : Decidable (FitsSigned w s) := inferInstanceAs (Decidable (_ ∧ _))

/-- The parity of the lowest byte. -/
def evenParity (r : Nat) : Bool := (List.range 8).countP (r.testBit ·) % 2 = 0

/-- The flags that a result gives, with those that the operation gives. -/
def resultFlags (w r : Nat) (cf af of : Bool) : Flags where
  cf := cf
  pf := evenParity r
  af := af
  zf := r = 0
  sf := 2 ^ (w - 1) ≤ r
  of := of

section
variable (w a b c : Nat)

def addResult : Nat := (a + b + c) % 2 ^ w

def addFlags : Flags :=
  resultFlags w (addResult w a b c) (2 ^ w ≤ a + b + c) (16 ≤ a % 16 + b % 16 + c)
    (¬ FitsSigned w (signed w a + signed w b + c))

def subResult : Nat := (a + 2 ^ w - (b + c)) % 2 ^ w

def subFlags : Flags :=
  resultFlags w (subResult w a b c) (a < b + c) (a % 16 < b % 16 + c)
    (¬ FitsSigned w (signed w a - signed w b - c))

end

def logicFlags (w r : Nat) : Flags := resultFlags w r false false false

theorem two_pow_eq {w : Nat} (hw : 0 < w) : 2 ^ w = 2 * 2 ^ (w - 1) := by
  rw [← Nat.pow_succ', Nat.succ_eq_add_one, Nat.sub_add_cancel hw]

theorem subResult_eq {w a b : Nat} (ha : a < 2 ^ w) (hb : b < 2 ^ w) :
    subResult w a b 0 = if b ≤ a then a - b else a + 2 ^ w - b := by
  rw [subResult, Nat.add_zero]
  split_ifs with hle
  · have hsum : a + 2 ^ w - b = a - b + 2 ^ w := by omega
    rw [hsum, Nat.add_mod_right, Nat.mod_eq_of_lt (by omega)]
  · exact Nat.mod_eq_of_lt (by omega)

section
variable {w a b : Nat} (hw : 0 < w) (ha : a < 2 ^ w) (hb : b < 2 ^ w)
include ha hb

theorem subFlags_zf : (subFlags w a b 0).zf = decide (a = b) := by
  simp only [subFlags, resultFlags, subResult_eq ha hb, decide_eq_decide]
  split_ifs <;> omega

include hw

/-- The sign flag differs from the overflow flag when the first operand is the smaller one. -/
theorem subFlags_lt :
    ((subFlags w a b 0).sf != (subFlags w a b 0).of) = decide (signed w a < signed w b) := by
  have hpow : (2 : Int) ^ w = 2 * 2 ^ (w - 1) := by exact_mod_cast two_pow_eq hw
  have hnat := two_pow_eq hw
  have hcast : ((2 ^ (w - 1) : Nat) : Int) = 2 ^ (w - 1) := by push_cast; rfl
  simp only [subFlags, resultFlags, subResult_eq ha hb, signed, FitsSigned, hpow]
  rw [hnat] at ha hb ⊢
  rw [← hcast]
  generalize 2 ^ (w - 1) = half at *
  rw [Bool.eq_iff_iff, bne_iff_ne, ne_eq, decide_eq_decide, decide_eq_true_eq]
  by_cases c1 : a < half <;> by_cases c2 : b < half <;> by_cases c3 : b ≤ a <;>
    simp only [c1, c2, c3, if_true, if_false] <;>
    omega

theorem signed_inj : signed w a = signed w b ↔ a = b := by
  have hpow : (2 : Int) ^ w = 2 * 2 ^ (w - 1) := by exact_mod_cast two_pow_eq hw
  have hnat := two_pow_eq hw
  have hcast : ((2 ^ (w - 1) : Nat) : Int) = 2 ^ (w - 1) := by push_cast; rfl
  simp only [signed, hpow]
  rw [hnat] at ha hb
  rw [← hcast]
  generalize 2 ^ (w - 1) = half at *
  split_ifs <;> omega

omit hw in
theorem subFlags_holds_be : (subFlags w a b 0).holds .be = decide (a ≤ b) := by
  rw [Flags.holds, subFlags_zf ha hb, subFlags, resultFlags, ← Bool.decide_or, decide_eq_decide]
  omega

theorem subFlags_holds_le :
    (subFlags w a b 0).holds .le = decide (signed w a ≤ signed w b) := by
  rw [Flags.holds, subFlags_lt hw ha hb, subFlags_zf ha hb, ← Bool.decide_or, decide_eq_decide,
    ← signed_inj hw ha hb]
  omega

end

end Machine
