import ShellcodeVM.TargetI386.CcHelper

/-!
The condition codes that an addition, a subtraction, an increment or a decrement leaves give
the flags of that operation, and the carry alone is the carry of the flags.
-/
namespace ShellcodeVM.TargetI386
open Machine

/-! ### The parts of the flags word -/

/-- The sign of a word, as a bit of it. -/
theorem testBit_sign (size : OperandSize) (x : Nat) :
    x.testBit (size.dataBits - 1) = decide (2 ^ (size.dataBits - 1) ≤ size.data x) := by
  rw [Nat.testBit_eq_decide_div_mod_eq, decide_eq_decide]
  cases size <;> simp only [OperandSize.dataBits, OperandSize.data] <;> omega

theorem lshift_sign (size : OperandSize) (x : Nat) :
    lshift x (8 - size.dataBits) &&& 0x80 =
        (decide (2 ^ (size.dataBits - 1) ≤ size.data x)).toNat <<< 7 ∧
      lshift x (12 - size.dataBits) &&& ccO =
        (decide (2 ^ (size.dataBits - 1) ≤ size.data x)).toNat <<< 11 := by
  have h7 : (0x80 : Nat) = 2 ^ 7 := by norm_num
  have h11 : ccO = 2 ^ 11 := by norm_num [ccO]
  rw [h7, h11, Nat.and_two_pow, Nat.and_two_pow, ← testBit_sign, Nat.shiftLeft_eq, Nat.shiftLeft_eq]
  cases size <;>
    simp [lshift, OperandSize.dataBits, Nat.testBit_shiftLeft, Nat.testBit_shiftRight]

theorem parityTable_eq (r : Nat) :
    parityTable.getD (r % 2 ^ 8) 0 = (evenParity r).toNat <<< 2 := by
  have hbyte : evenParity r = evenParity (r % 2 ^ 8) := by
    have hbits : ∀ i ∈ List.range 8, r.testBit i = (r % 2 ^ 8).testBit i := by
      intro i hi
      rw [Nat.testBit_mod_two_pow, decide_eq_true (List.mem_range.mp hi), Bool.true_and]
    rw [evenParity, evenParity, List.countP_congr]
    intro i hi
    rw [hbits i hi]
  have htable : ∀ b < 2 ^ 8, parityTable.getD b 0 = (evenParity b).toNat <<< 2 := by
    decide +kernel
  rw [hbyte]
  exact htable _ (Nat.mod_lt _ (by norm_num))

theorem evenParity_data (size : OperandSize) (x : Nat) :
    evenParity (size.data x) = evenParity x := by
  have hbits : ∀ i ∈ List.range 8, (size.data x).testBit i = x.testBit i := by
    intro i hi
    have hlt : i < size.dataBits := by
      have hi8 := List.mem_range.mp hi
      cases size <;> simp only [OperandSize.dataBits] <;> omega
    rw [OperandSize.data, Nat.testBit_mod_two_pow, decide_eq_true hlt, Bool.true_and]
  rw [evenParity, evenParity, List.countP_congr]
  intro i hi
  rw [hbits i hi]

theorem flagsOf_eq (size : OperandSize) (dst : Nat) (cf af of : Bool) :
    flagsOf size dst cf.toNat (af.toNat <<< 4) (of.toNat <<< 11) =
      (resultFlags size.dataBits (size.data dst) cf af of).word := by
  have hzf : (if dst % 2 ^ size.dataBits = 0 then 1 else 0) =
      (decide (size.data dst = 0)).toNat := by
    rw [OperandSize.data]
    split_ifs with h <;> simp [h]
  simp only [flagsOf, parityTable_eq, hzf, (lshift_sign size dst).1]
  simp only [resultFlags, Flags.word, evenParity_data]

theorem testBit_xor₃ (x y z i : Nat) :
    (x ^^^ y ^^^ z).testBit i = decide ((x / 2 ^ i + y / 2 ^ i + z / 2 ^ i) % 2 = 1) := by
  rw [Nat.testBit_xor, Nat.testBit_xor, Nat.testBit_eq_decide_div_mod_eq,
    Nat.testBit_eq_decide_div_mod_eq, Nat.testBit_eq_decide_div_mod_eq]
  generalize x / 2 ^ i = a
  generalize y / 2 ^ i = b
  generalize z / 2 ^ i = c
  obtain ha | ha := Nat.mod_two_eq_zero_or_one a <;>
    obtain hb | hb := Nat.mod_two_eq_zero_or_one b <;>
    obtain hc | hc := Nat.mod_two_eq_zero_or_one c <;>
    simp [ha, hb, hc, Nat.add_mod]

theorem and_adjust (x : Nat) : x &&& 0x10 = (x.testBit 4).toNat <<< 4 := by
  have h4 : (0x10 : Nat) = 2 ^ 4 := by norm_num
  rw [h4, Nat.and_two_pow, Nat.shiftLeft_eq]

/-! ### Sums and differences -/

theorem computeAllSum_eq {size : OperandSize} {dst src1 src2 cf signs : Nat}
    {carry adjust overflow : Bool}
    (hcf : cf = carry.toNat) (haf : (dst ^^^ src1 ^^^ src2).testBit 4 = adjust)
    (hof : signs.testBit (size.dataBits - 1) = overflow) :
    computeAllSum size dst src1 src2 cf signs =
      (resultFlags size.dataBits (size.data dst) carry adjust overflow).word := by
  rw [computeAllSum, and_adjust, (lshift_sign size signs).2, ← testBit_sign, haf, hof, hcf,
    flagsOf_eq]

/-- The signs of a sum's operands agree, and not with the sign of the sum. -/
theorem sumSigns (size : OperandSize) (x y r : Nat) :
    ((x ^^^ y ^^^ (2 ^ 32 - 1)) &&& (x ^^^ r)).testBit (size.dataBits - 1) =
      decide ((2 ^ (size.dataBits - 1) ≤ size.data x ↔ 2 ^ (size.dataBits - 1) ≤ size.data y) ∧
        ¬ (2 ^ (size.dataBits - 1) ≤ size.data x ↔ 2 ^ (size.dataBits - 1) ≤ size.data r)) := by
  have hones : (2 ^ 32 - 1).testBit (size.dataBits - 1) = true := by
    cases size <;> decide
  rw [Nat.testBit_and, Nat.testBit_xor, Nat.testBit_xor, Nat.testBit_xor, hones]
  simp only [testBit_sign]
  by_cases hx : 2 ^ (size.dataBits - 1) ≤ size.data x <;>
    by_cases hy : 2 ^ (size.dataBits - 1) ≤ size.data y <;>
    by_cases hr : 2 ^ (size.dataBits - 1) ≤ size.data r <;>
    simp [hx, hy, hr]

/-- The signs of a difference's operands differ, and the first one from the difference's. -/
theorem differenceSigns (size : OperandSize) (x y r : Nat) :
    ((x ^^^ y) &&& (x ^^^ r)).testBit (size.dataBits - 1) =
      decide (¬ (2 ^ (size.dataBits - 1) ≤ size.data x ↔ 2 ^ (size.dataBits - 1) ≤ size.data y) ∧
        ¬ (2 ^ (size.dataBits - 1) ≤ size.data x ↔ 2 ^ (size.dataBits - 1) ≤ size.data r)) := by
  rw [Nat.testBit_and, Nat.testBit_xor, Nat.testBit_xor]
  simp only [testBit_sign]
  by_cases hx : 2 ^ (size.dataBits - 1) ≤ size.data x <;>
    by_cases hy : 2 ^ (size.dataBits - 1) ≤ size.data y <;>
    by_cases hr : 2 ^ (size.dataBits - 1) ≤ size.data r <;>
    simp [hx, hy, hr]

/-! The results, as much of them as the operand has. -/

theorem data_add (size : OperandSize) (t0 t1 : Nat) : size.data ((t0 + t1) % 2 ^ 32) =
    addResult size.dataBits (size.data t0) (size.data t1) 0 := by
  simp only [addResult, OperandSize.data]
  cases size <;> simp only [OperandSize.dataBits] <;> omega

theorem data_adc (size : OperandSize) (t0 t1 : Nat) : size.data ((t0 + t1 + 1) % 2 ^ 32) =
    addResult size.dataBits (size.data t0) (size.data t1) 1 := by
  simp only [addResult, OperandSize.data]
  cases size <;> simp only [OperandSize.dataBits] <;> omega

theorem data_one (size : OperandSize) : size.data 1 = 1 := by
  cases size <;> decide

theorem data_inc (size : OperandSize) (t0 : Nat) : size.data ((t0 + 1) % 2 ^ 32) =
    addResult size.dataBits (size.data t0) 1 0 := by
  rw [data_add, data_one]

theorem data_sub (size : OperandSize) {t0 t1 : Nat} (h0 : t0 < 2 ^ 32) (h1 : t1 < 2 ^ 32) :
    size.data (subWord t0 t1) = subResult size.dataBits (size.data t0) (size.data t1) 0 := by
  simp only [subResult, OperandSize.data, subWord]
  cases size <;> simp only [OperandSize.dataBits] <;> omega

theorem data_sbb (size : OperandSize) {t0 t1 : Nat} (h0 : t0 < 2 ^ 32) (h1 : t1 < 2 ^ 32) :
    size.data (subWord (subWord t0 t1) 1) =
      subResult size.dataBits (size.data t0) (size.data t1) 1 := by
  simp only [subResult, OperandSize.data, subWord]
  cases size <;> simp only [OperandSize.dataBits] <;> omega

theorem data_dec (size : OperandSize) {t0 : Nat} (h0 : t0 < 2 ^ 32) :
    size.data (subWord t0 1) = subResult size.dataBits (size.data t0) 1 0 := by
  rw [data_sub size h0 (by decide), data_one]

section
variable (size : OperandSize) {t0 t1 : Nat}

/-- The sum of the operands and a carry, in two's complement. -/
theorem sum_overflows {c r : Nat} (hc : c ≤ 1)
    (hr : size.data r = addResult size.dataBits (size.data t0) (size.data t1) c) :
    ((2 ^ (size.dataBits - 1) ≤ size.data t1 ↔ 2 ^ (size.dataBits - 1) ≤ size.data t0) ∧
        ¬ (2 ^ (size.dataBits - 1) ≤ size.data t1 ↔ 2 ^ (size.dataBits - 1) ≤ size.data r)) ↔
      ¬ FitsSigned size.dataBits (signed size.dataBits (size.data t0) +
        signed size.dataBits (size.data t1) + c) := by
  have h0 : size.data t0 < 2 ^ size.dataBits := Nat.mod_lt _ (Nat.two_pow_pos _)
  have h1 : size.data t1 < 2 ^ size.dataBits := Nat.mod_lt _ (Nat.two_pow_pos _)
  rw [hr]
  generalize size.data t0 = a at *
  generalize size.data t1 = b at *
  simp only [addResult, signed, FitsSigned]
  cases size <;> simp only [OperandSize.dataBits] at h0 h1 ⊢ <;> norm_num at h0 h1 ⊢ <;>
    split_ifs <;> omega

/-- The difference of the operands and a borrow, in two's complement. -/
theorem difference_overflows {c r : Nat} (hc : c ≤ 1)
    (hr : size.data r = subResult size.dataBits (size.data t0) (size.data t1) c) :
    (¬ (2 ^ (size.dataBits - 1) ≤ size.data t0 ↔ 2 ^ (size.dataBits - 1) ≤ size.data t1) ∧
        ¬ (2 ^ (size.dataBits - 1) ≤ size.data t0 ↔ 2 ^ (size.dataBits - 1) ≤ size.data r)) ↔
      ¬ FitsSigned size.dataBits (signed size.dataBits (size.data t0) -
        signed size.dataBits (size.data t1) - c) := by
  have h0 : size.data t0 < 2 ^ size.dataBits := Nat.mod_lt _ (Nat.two_pow_pos _)
  have h1 : size.data t1 < 2 ^ size.dataBits := Nat.mod_lt _ (Nat.two_pow_pos _)
  rw [hr]
  generalize size.data t0 = a at *
  generalize size.data t1 = b at *
  simp only [subResult, signed, FitsSigned]
  cases size <;> simp only [OperandSize.dataBits] at h0 h1 ⊢ <;> norm_num at h0 h1 ⊢ <;>
    split_ifs <;> omega

theorem toNat_decide (c : Prop) [Decidable c] : (if c then 1 else 0) = (decide c).toNat := by
  split_ifs with h <;> simp [h]

variable (h0 : t0 < 2 ^ 32) (h1 : t1 < 2 ^ 32)
include h0 h1

theorem computeAllAdd_eq : computeAllAdd size t1 ((t0 + t1) % 2 ^ 32) =
    (addFlags size.dataBits (size.data t0) (size.data t1) 0).word := by
  have hdst := data_add size t0 t1
  have hsrc2 : subWord ((t0 + t1) % 2 ^ 32) t1 = t0 := by
    rw [subWord]
    omega
  rw [addFlags, ← hdst, computeAllAdd, hsrc2]
  apply computeAllSum_eq
  · rw [computeCAdd, toNat_decide]
    refine congrArg Bool.toNat ?_
    rw [decide_eq_decide]
    simp only [OperandSize.data]
    cases size <;> simp only [OperandSize.dataBits] <;> omega
  · rw [testBit_xor₃, decide_eq_decide]
    simp only [OperandSize.data]
    cases size <;> simp only [OperandSize.dataBits] <;> omega
  · rw [sumSigns, decide_eq_decide]
    exact sum_overflows size (Nat.zero_le 1) hdst

theorem computeAllAdc_eq : computeAllAdc size t1 ((t0 + t1 + 1) % 2 ^ 32) =
    (addFlags size.dataBits (size.data t0) (size.data t1) 1).word := by
  have hdst := data_adc size t0 t1
  have hsrc2 : subWord (subWord ((t0 + t1 + 1) % 2 ^ 32) t1) 1 = t0 := by
    simp only [subWord]
    omega
  rw [addFlags, ← hdst, computeAllAdc, hsrc2]
  apply computeAllSum_eq
  · rw [computeCAdc, toNat_decide]
    refine congrArg Bool.toNat ?_
    rw [decide_eq_decide]
    simp only [OperandSize.data]
    cases size <;> simp only [OperandSize.dataBits] <;> omega
  · rw [testBit_xor₃, decide_eq_decide]
    simp only [OperandSize.data]
    cases size <;> simp only [OperandSize.dataBits] <;> omega
  · rw [sumSigns, decide_eq_decide]
    exact sum_overflows size (le_refl 1) hdst

theorem computeAllSub_eq : computeAllSub size t1 (subWord t0 t1) =
    (subFlags size.dataBits (size.data t0) (size.data t1) 0).word := by
  have hdst := data_sub size h0 h1
  have hsrc1 : (subWord t0 t1 + t1) % 2 ^ 32 = t0 := by
    rw [subWord]
    omega
  rw [subFlags, ← hdst, computeAllSub, hsrc1]
  apply computeAllSum_eq
  · rw [computeCSub, hsrc1, toNat_decide]
    rfl
  · rw [testBit_xor₃, decide_eq_decide]
    simp only [OperandSize.data, subWord]
    cases size <;> simp only [OperandSize.dataBits] <;> omega
  · rw [differenceSigns, decide_eq_decide]
    exact difference_overflows size (Nat.zero_le 1) hdst

theorem computeAllSbb_eq : computeAllSbb size t1 (subWord (subWord t0 t1) 1) =
    (subFlags size.dataBits (size.data t0) (size.data t1) 1).word := by
  have hdst := data_sbb size h0 h1
  have hsrc1 : (subWord (subWord t0 t1) 1 + t1 + 1) % 2 ^ 32 = t0 := by
    simp only [subWord]
    omega
  rw [subFlags, ← hdst, computeAllSbb, hsrc1]
  apply computeAllSum_eq
  · rw [computeCSbb, hsrc1, toNat_decide]
    refine congrArg Bool.toNat ?_
    rw [decide_eq_decide]
    omega
  · rw [testBit_xor₃, decide_eq_decide]
    simp only [OperandSize.data, subWord]
    cases size <;> simp only [OperandSize.dataBits] <;> omega
  · rw [differenceSigns, decide_eq_decide]
    exact difference_overflows size (le_refl 1) hdst

end

theorem resultFlags_carry (w r : Nat) (carry cf af of : Bool) :
    { resultFlags w r cf af of with cf := carry } = resultFlags w r carry af of :=
  rfl

section
variable (size : OperandSize) {t0 : Nat} (h0 : t0 < 2 ^ 32) (carry : Bool)
include h0

theorem computeAllInc_eq : computeAllInc size carry.toNat ((t0 + 1) % 2 ^ 32) =
    { addFlags size.dataBits (size.data t0) 1 0 with cf := carry }.word := by
  have hdst := data_inc size t0
  have hsrc1 : subWord ((t0 + 1) % 2 ^ 32) 1 = t0 := by
    rw [subWord]
    omega
  have haf : ((t0 + 1) % 2 ^ 32 ^^^ t0 ^^^ 1).testBit 4 =
      decide (16 ≤ size.data t0 % 16 + 1 % 16 + 0) := by
    rw [testBit_xor₃, decide_eq_decide]
    simp only [OperandSize.data]
    cases size <;> simp only [OperandSize.dataBits] <;> omega
  have hof : (if size.data ((t0 + 1) % 2 ^ 32) = 2 ^ (size.dataBits - 1) then 1 else 0) =
      (decide (¬ FitsSigned size.dataBits (signed size.dataBits (size.data t0) +
        signed size.dataBits 1 + (0 : Nat)))).toNat := by
    rw [toNat_decide]
    refine congrArg Bool.toNat ?_
    have ha : size.data t0 < 2 ^ size.dataBits := Nat.mod_lt _ (Nat.two_pow_pos _)
    rw [decide_eq_decide, hdst]
    generalize size.data t0 = a at ha
    simp only [addResult, signed, FitsSigned]
    cases size <;> simp only [OperandSize.dataBits] at ha ⊢ <;> norm_num at ha ⊢ <;>
      split_ifs <;> omega
  rw [addFlags, ← hdst, resultFlags_carry, computeAllInc, hsrc1, and_adjust, haf, hof, flagsOf_eq]

theorem computeAllDec_eq : computeAllDec size carry.toNat (subWord t0 1) =
    { subFlags size.dataBits (size.data t0) 1 0 with cf := carry }.word := by
  have hdst := data_dec size h0
  have hsrc1 : (subWord t0 1 + 1) % 2 ^ 32 = t0 := by
    rw [subWord]
    omega
  have haf : (subWord t0 1 ^^^ t0 ^^^ 1).testBit 4 =
      decide (size.data t0 % 16 < 1 % 16 + 0) := by
    rw [testBit_xor₃, decide_eq_decide]
    simp only [OperandSize.data, subWord]
    cases size <;> simp only [OperandSize.dataBits] <;> omega
  have hof : (if size.data (subWord t0 1) = 2 ^ (size.dataBits - 1) - 1 then 1 else 0) =
      (decide (¬ FitsSigned size.dataBits (signed size.dataBits (size.data t0) -
        signed size.dataBits 1 - (0 : Nat)))).toNat := by
    rw [toNat_decide]
    refine congrArg Bool.toNat ?_
    have ha : size.data t0 < 2 ^ size.dataBits := Nat.mod_lt _ (Nat.two_pow_pos _)
    rw [decide_eq_decide, hdst]
    generalize size.data t0 = a at ha
    simp only [subResult, signed, FitsSigned]
    cases size <;>
      simp only [OperandSize.dataBits, Nat.reducePow, Nat.reduceSub, Int.reducePow] at ha ⊢ <;>
      split_ifs <;> omega
  rw [subFlags, ← hdst, resultFlags_carry, computeAllDec, hsrc1, and_adjust, haf, hof, flagsOf_eq]

end

theorem computeAllLogic_eq (size : OperandSize) (dst : Nat) :
    computeAllLogic size dst = (logicFlags size.dataBits (size.data dst)).word :=
  flagsOf_eq size dst false false false

/-! ### The flags of the condition codes -/

/-- The flags in a flags register. -/
def flagsOfWord (x : Nat) : Flags :=
  ⟨x.testBit 0, x.testBit 2, x.testBit 4, x.testBit 6, x.testBit 7, x.testBit 11⟩

theorem flagsOfWord_word (f : Flags) : flagsOfWord f.word = f := by
  obtain ⟨hcf, hpf, haf, hzf, hsf, hof⟩ := f.word_bits
  rw [flagsOfWord, hcf, hpf, haf, hzf, hsf, hof]

def Cc.flags (cc : Cc) : Flags := flagsOfWord cc.computeAll

/-- The fields are words, and an increment has left a carry. -/
structure Cc.Valid (cc : Cc) : Prop where
  src : cc.src < 2 ^ 32
  dst : cc.dst < 2 ^ 32
  carry : ∀ size, cc.op = .of .inc size ∨ cc.op = .of .dec size → cc.src ≤ 1

theorem and_one (x : Nat) : x &&& 1 = (x.testBit 0).toNat := by
  have h0 : (1 : Nat) = 2 ^ 0 := rfl
  rw [h0, Nat.and_two_pow, Nat.pow_zero, Nat.mul_one]

/-- The flags word of each kind: the sign, the zero and the parity flag are the result's, and
the carry is the one that is computed alone. -/
theorem Cc.Valid.computeAll_eq {cc : Cc} (h : cc.Valid) {kind : CcKind} {size : OperandSize}
    (hop : cc.op = .of kind size) :
    ∃ carry adjust overflow : Bool, cc.computeC = carry.toNat ∧ cc.computeAll =
      (resultFlags size.dataBits (size.data cc.dst) carry adjust overflow).word := by
  have hsrc : cc.op = .of .inc size ∨ cc.op = .of .dec size →
      cc.src = (decide (cc.src = 1)).toNat := by
    intro hcount
    have hle := h.carry size hcount
    by_cases h1 : cc.src = 1 <;> simp [h1]
    omega
  simp only [Cc.computeC, Cc.computeAll, hop]
  cases kind with
  | mul =>
      refine ⟨cc.src ≠ 0, false, cc.src ≠ 0, toNat_decide _, ?_⟩
      rw [← flagsOf_eq, ← toNat_decide]
      rfl
  | add => exact ⟨_, _, _, toNat_decide _, computeAllSum_eq (toNat_decide _) rfl rfl⟩
  | adc => exact ⟨_, _, _, toNat_decide _, computeAllSum_eq (toNat_decide _) rfl rfl⟩
  | sub => exact ⟨_, _, _, toNat_decide _, computeAllSum_eq (toNat_decide _) rfl rfl⟩
  | sbb => exact ⟨_, _, _, toNat_decide _, computeAllSum_eq (toNat_decide _) rfl rfl⟩
  | logic => exact ⟨false, false, false, rfl, computeAllLogic_eq size cc.dst⟩
  | inc =>
      refine ⟨cc.src = 1, (cc.dst ^^^ subWord cc.dst 1 ^^^ 1).testBit 4,
        size.data cc.dst = 2 ^ (size.dataBits - 1), hsrc (.inl hop), ?_⟩
      rw [← flagsOf_eq, ← hsrc (.inl hop), ← toNat_decide, ← and_adjust]
      rfl
  | dec =>
      refine ⟨cc.src = 1, (cc.dst ^^^ ((cc.dst + 1) % 2 ^ 32) ^^^ 1).testBit 4,
        size.data cc.dst = 2 ^ (size.dataBits - 1) - 1, hsrc (.inr hop), ?_⟩
      rw [← flagsOf_eq, ← hsrc (.inr hop), ← toNat_decide, ← and_adjust]
      rfl
  | shl =>
      refine ⟨_, false, 2 ^ (size.dataBits - 1) ≤ size.data (cc.src ^^^ cc.dst), and_one _, ?_⟩
      rw [← flagsOf_eq, ← and_one, ← (lshift_sign size (cc.src ^^^ cc.dst)).2]
      rfl
  | sar =>
      refine ⟨_, false, 2 ^ (size.dataBits - 1) ≤ size.data (cc.src ^^^ cc.dst), and_one _, ?_⟩
      rw [← flagsOf_eq, ← and_one, ← (lshift_sign size (cc.src ^^^ cc.dst)).2]
      rfl

end ShellcodeVM.TargetI386
