import ShellcodeVM.TargetI386.LazyFlags

/-!
The lazy condition codes over runs. A jump is taken as the flags say that each instruction had
set, whether `gen_jcc1` tests the flags or the operands of a comparison. When it has to compute
them, `gen_jcc` drops the `cc_op` that goes with them, and the next block reads the old one.
-/
namespace ShellcodeVM.TargetI386
open Machine

/-! ### Bits of the flags -/

section
variable {cc : Cc} (h : cc.Valid)
include h

theorem Cc.Valid.computeC_eq : cc.computeC = cc.flags.cf.toNat := by
  cases hop : cc.op with
  | eflags =>
      rw [Cc.computeC, Cc.flags, Cc.computeAll, hop]
      exact and_one cc.src
  | of kind size =>
      obtain ⟨carry, adjust, overflow, hc, hall⟩ := h.computeAll_eq hop
      rw [hc, Cc.flags, hall, flagsOfWord_word]
      rfl

theorem Cc.Valid.flags_result {kind : CcKind} {size : OperandSize} (hop : cc.op = .of kind size) :
    cc.flags.zf = decide (size.data cc.dst = 0) ∧
      cc.flags.sf = decide (2 ^ (size.dataBits - 1) ≤ size.data cc.dst) := by
  obtain ⟨carry, adjust, overflow, -, hall⟩ := h.computeAll_eq hop
  rw [Cc.flags, hall, flagsOfWord_word]
  exact ⟨rfl, rfl⟩

theorem Cc.Valid.computeAll_lt : cc.computeAll < 2 ^ 32 := by
  cases hop : cc.op with
  | eflags =>
      rw [Cc.computeAll, hop]
      exact h.src
  | of kind size =>
      obtain ⟨carry, adjust, overflow, -, hall⟩ := h.computeAll_eq hop
      rw [hall]
      exact (Flags.word_lt _).trans (Nat.pow_lt_pow_right (by decide) (by decide))

theorem Cc.Valid.computeEflags : cc.computeEflags.Valid ∧ cc.computeEflags.flags = cc.flags := by
  refine ⟨⟨h.computeAll_lt, h.dst, ?_⟩, rfl⟩
  rintro size (hop | hop) <;> cases hop

/-- After a comparison, the flags are those of the operands. -/
theorem Cc.Valid.flags_sub {size : OperandSize} (hop : cc.op = .of .sub size) :
    cc.flags = subFlags size.dataBits (size.data ((cc.dst + cc.src) % 2 ^ 32))
      (size.data cc.src) 0 := by
  have hsrc := h.src
  have hdst := h.dst
  have hback : subWord ((cc.dst + cc.src) % 2 ^ 32) cc.src = cc.dst := by
    rw [subWord]
    omega
  have hsum : (cc.dst + cc.src) % 2 ^ 32 < 2 ^ 32 := Nat.mod_lt _ (Nat.two_pow_pos 32)
  have hall := computeAllSub_eq size hsum hsrc
  rw [hback] at hall
  rw [Cc.flags, Cc.computeAll, hop]
  exact (congrArg flagsOfWord hall).trans (flagsOfWord_word _)

end

theorem bit_ne_zero (x i : Nat) : decide ((x >>> i) &&& 1 ≠ 0) = x.testBit i := by
  rw [and_one, Nat.testBit_shiftRight, Nat.add_zero]
  cases x.testBit i <;> decide

theorem signed_neg (size : OperandSize) (x : Nat) :
    decide (signed size.dataBits (size.data x) < 0) =
      decide (2 ^ (size.dataBits - 1) ≤ size.data x) := by
  have hlt : size.data x < 2 ^ size.dataBits := Nat.mod_lt _ (Nat.two_pow_pos _)
  generalize size.data x = a at hlt ⊢
  rw [decide_eq_decide, signed]
  cases size <;> simp only [OperandSize.dataBits] at hlt ⊢ <;> norm_num at hlt ⊢ <;>
    split_ifs <;> omega

/-! ### Jumps -/

section
variable {cc : Cc} (h : cc.Valid)
include h

theorem Cc.Valid.fastJcc_eq {jccOp : Cond} {taken : Bool} (hfast : cc.fastJcc jccOp = some taken) :
    taken = cc.flags.holds jccOp := by
  have ha : ∀ size : OperandSize, size.data ((cc.dst + cc.src) % 2 ^ 32) < 2 ^ size.dataBits :=
    fun size => Nat.mod_lt _ (Nat.two_pow_pos _)
  have hb : ∀ size : OperandSize, size.data cc.src < 2 ^ size.dataBits :=
    fun size => Nat.mod_lt _ (Nat.two_pow_pos _)
  have hpos : ∀ size : OperandSize, 0 < size.dataBits := by
    intro size
    cases size <;> decide
  unfold Cc.fastJcc at hfast
  split at hfast
  case h_1 => cases hfast
  case h_2 =>
    rename_i size hne hknown hop
    cases hfast
    exact (h.flags_result hop).1.symm
  case h_3 =>
    rename_i size hne hknown hop
    cases hfast
    rw [signed_neg]
    exact (h.flags_result hop).2.symm
  case h_4 =>
    rename_i size hknown hop
    cases hfast
    rw [h.flags_sub hop]
    rfl
  case h_5 =>
    rename_i size hknown hop
    cases hfast
    rw [h.flags_sub hop, subFlags_holds_be (ha size) (hb size)]
  case h_6 =>
    rename_i size hknown hop
    cases hfast
    rw [h.flags_sub hop]
    exact (subFlags_lt (hpos size) (ha size) (hb size)).symm
  case h_7 =>
    rename_i size hknown hop
    cases hfast
    rw [h.flags_sub hop, subFlags_holds_le (hpos size) (ha size) (hb size)]
  case h_8 => cases hfast

theorem Cc.Valid.computeEflagsZ_spec :
    decide (cc.computeEflagsZ.1 ≠ 0) = cc.flags.zf ∧ cc.computeEflagsZ.2.Valid ∧
      cc.computeEflagsZ.2.flags = cc.flags := by
  rw [Cc.computeEflagsZ]
  split
  · rename_i size hknown hop
    refine ⟨?_, h, rfl⟩
    rw [(h.flags_result hop).1]
    split_ifs with hzero <;> simp [hzero]
  · exact ⟨bit_ne_zero cc.computeAll 6, h.computeEflags⟩

theorem Cc.Valid.computeEflagsS_spec :
    decide (cc.computeEflagsS.1 ≠ 0) = cc.flags.sf ∧ cc.computeEflagsS.2.Valid ∧
      cc.computeEflagsS.2.flags = cc.flags := by
  rw [Cc.computeEflagsS]
  split
  · rename_i size hknown hop
    refine ⟨?_, h, rfl⟩
    rw [(h.flags_result hop).2, ← signed_neg]
    split_ifs with hneg <;> simp [hneg]
  · exact ⟨bit_ne_zero cc.computeAll 7, h.computeEflags⟩

/-- The slow case computes the condition, and the flags for it. -/
theorem Cc.Valid.setccSlow_spec (jccOp : Cond) :
    decide ((cc.setccSlow jccOp).1 ≠ 0) = cc.flags.holds jccOp ∧ (cc.setccSlow jccOp).2.Valid ∧
      (cc.setccSlow jccOp).2.flags = cc.flags := by
  have hbit : ∀ x i : Nat, (x >>> i).testBit 0 = x.testBit i := by
    intro x i
    rw [Nat.testBit_shiftRight, Nat.add_zero]
  have hbool : ∀ b : Bool, decide (b.toNat ≠ 0) = b := by decide
  cases jccOp with
  | o => exact ⟨bit_ne_zero cc.computeAll 11, h.computeEflags⟩
  | p => exact ⟨bit_ne_zero cc.computeAll 2, h.computeEflags⟩
  | z => exact h.computeEflagsZ_spec
  | s => exact h.computeEflagsS_spec
  | b =>
      refine ⟨?_, h, rfl⟩
      simp only [Cc.setccSlow, h.computeC_eq, hbool, Flags.holds]
  | be =>
      refine ⟨?_, h.computeEflags⟩
      have hparts : cc.computeAll &&& (0x40 ||| 1) =
          (cc.computeAll &&& 2 ^ 6) ||| (cc.computeAll &&& 2 ^ 0) := by
        rw [← Nat.and_or_distrib_left]
        rfl
      simp only [Cc.setccSlow, Cc.computeEflags, hparts, Nat.and_two_pow, Flags.holds, Cc.flags,
        flagsOfWord]
      cases cc.computeAll.testBit 0 <;> cases cc.computeAll.testBit 6 <;> rfl
  | l =>
      refine ⟨?_, h.computeEflags⟩
      simp only [Cc.setccSlow, Cc.computeEflags, and_one, Nat.testBit_xor, hbit, hbool]
      exact Bool.xor_comm _ _
  | le =>
      refine ⟨?_, h.computeEflags⟩
      simp only [Cc.setccSlow, Cc.computeEflags, and_one, Nat.testBit_or, Nat.testBit_xor, hbit,
        hbool]
      change _ = (cc.computeAll.testBit 6 || (cc.computeAll.testBit 7 != cc.computeAll.testBit 11))
      rw [Bool.or_comm, Bool.xor_comm]

/-- A jump on any condition is taken as the flags say, and leaves them as they are. -/
theorem Cc.Valid.jcc_spec (jccOp : Cond) (inv : Bool) :
    (cc.jcc jccOp inv).1 = (cc.flags.holds jccOp != inv) ∧ (cc.jcc jccOp inv).2.Valid ∧
      (cc.jcc jccOp inv).2.flags = cc.flags := by
  rw [Cc.jcc]
  split
  · rename_i taken hfast
    exact ⟨by rw [h.fastJcc_eq hfast], h, rfl⟩
  · obtain ⟨hvalue, hvalid, hflags⟩ := h.setccSlow_spec jccOp
    exact ⟨by rw [hvalue], hvalid, hflags⟩

end

/-! ### Instructions -/

/-- The general registers. -/
abbrev Regs := Nat → Nat

/-- `gen_op_mov_TN_reg`: above the operand a word may hold anything. -/
def readReg (regs : Regs) (size : OperandSize) (reg : Nat) : Nat :=
  if size = .byte ∧ 4 ≤ reg then regs (reg - 4) / 2 ^ 8 % 2 ^ 8 else regs reg

/-- `gen_op_mov_reg_T0`: as much is stored as the operand has. -/
def writeReg (regs : Regs) (size : OperandSize) (reg t0 : Nat) : Regs :=
  if size = .byte ∧ 4 ≤ reg then
    Function.update regs (reg - 4)
      (regs (reg - 4) / 2 ^ 16 * 2 ^ 16 + size.data t0 * 2 ^ 8 + regs (reg - 4) % 2 ^ 8)
  else
    Function.update regs reg (regs reg / 2 ^ size.dataBits * 2 ^ size.dataBits + size.data t0)

/-- The operations of `gen_op`. -/
inductive AluOp where
  | add | or | adc | sbb | and | sub | xor | cmp
deriving DecidableEq, Repr

/-- The second operand; memory operands are left out. -/
inductive AluSource where
  | reg (r : Nat)
  | imm (val : UInt32)
deriving DecidableEq, Repr

def AluSource.read (regs : Regs) (size : OperandSize) : AluSource → Nat
  | .reg r => readReg regs size r
  | .imm val => val.toNat

namespace Cc

/-- `gen_op`: what is left in `T0`, and the condition codes. -/
def genOp (cc : Cc) (op : AluOp) (size : OperandSize) (t0 t1 : Nat) : Nat × Cc :=
  let c := cc.computeC
  match op with
  | .add => ((t0 + t1) % 2 ^ 32, ⟨.of .add size, t1, (t0 + t1) % 2 ^ 32, true⟩)
  | .adc =>
      let t0 := ((t0 + t1) % 2 ^ 32 + c) % 2 ^ 32
      (t0, ⟨.of (if c = 0 then .add else .adc) size, t1, t0, false⟩)
  | .sub => (subWord t0 t1, ⟨.of .sub size, t1, subWord t0 t1, true⟩)
  | .sbb =>
      let t0 := subWord (subWord t0 t1) c
      (t0, ⟨.of (if c = 0 then .sub else .sbb) size, t1, t0, false⟩)
  | .and => (t0 &&& t1, { cc with op := .of .logic size, dst := t0 &&& t1, known := true })
  | .or => (t0 ||| t1, { cc with op := .of .logic size, dst := t0 ||| t1, known := true })
  | .xor => (t0 ^^^ t1, { cc with op := .of .logic size, dst := t0 ^^^ t1, known := true })
  | .cmp => (t0, ⟨.of .sub size, t1, subWord t0 t1, true⟩)

/-- `gen_inc`, for an increment or a decrement. -/
def genInc (cc : Cc) (up : Bool) (size : OperandSize) (t0 : Nat) : Nat × Cc :=
  let t := if up then (t0 + 1) % 2 ^ 32 else subWord t0 1
  (t, ⟨.of (if up then .inc else .dec) size, cc.computeC, t, true⟩)

/-- Behind the end of a translation block the translator no longer knows `cc_op`, which
`gen_eob` has stored. -/
def blockEnd (cc : Cc) : Cc := { cc with known := false }

end Cc

/-- The result and the flags that the instruction is to have. -/
def aluSpec (f : Flags) (op : AluOp) (w a b : Nat) : Nat × Flags :=
  let c := f.cf.toNat
  match op with
  | .add => (addResult w a b 0, addFlags w a b 0)
  | .adc => (addResult w a b c, addFlags w a b c)
  | .sub => (subResult w a b 0, subFlags w a b 0)
  | .sbb => (subResult w a b c, subFlags w a b c)
  | .and => (a &&& b, logicFlags w (a &&& b))
  | .or => (a ||| b, logicFlags w (a ||| b))
  | .xor => (a ^^^ b, logicFlags w (a ^^^ b))
  | .cmp => (a, subFlags w a b 0)

def incSpec (f : Flags) (up : Bool) (w a : Nat) : Nat × Flags :=
  if up then (addResult w a 1 0, { addFlags w a 1 0 with cf := f.cf })
  else (subResult w a 1 0, { subFlags w a 1 0 with cf := f.cf })

/-- The condition codes are those of the flags, and the word ends in the result. -/
structure LeavesFlags (size : OperandSize) (lazily : Nat × Cc) (spec : Nat × Flags) : Prop where
  result : size.data lazily.1 = spec.1
  valid : lazily.2.Valid
  flags : lazily.2.flags = spec.2

theorem valid_of_words {kind : CcKind} {size : OperandSize} {src dst : Nat} {known : Bool}
    (hsrc : src < 2 ^ 32) (hdst : dst < 2 ^ 32) (hkind : kind ≠ .inc ∧ kind ≠ .dec) :
    Cc.Valid ⟨.of kind size, src, dst, known⟩ := by
  refine ⟨hsrc, hdst, fun size' hop => ?_⟩
  obtain hop | hop := hop
  · cases hop
    exact absurd rfl hkind.1
  · cases hop
    exact absurd rfl hkind.2

section
variable (size : OperandSize) {t0 t1 : Nat} (h0 : t0 < 2 ^ 32) (h1 : t1 < 2 ^ 32) (known : Bool)
include h0 h1

theorem leavesFlags_add : LeavesFlags size
    ((t0 + t1) % 2 ^ 32, ⟨.of .add size, t1, (t0 + t1) % 2 ^ 32, known⟩)
    (addResult size.dataBits (size.data t0) (size.data t1) 0,
      addFlags size.dataBits (size.data t0) (size.data t1) 0) := by
  refine ⟨data_add size t0 t1, valid_of_words h1 (Nat.mod_lt _ (by decide)) (by decide), ?_⟩
  exact (congrArg flagsOfWord (computeAllAdd_eq size h0 h1)).trans (flagsOfWord_word _)

theorem leavesFlags_adc : LeavesFlags size
    ((t0 + t1 + 1) % 2 ^ 32, ⟨.of .adc size, t1, (t0 + t1 + 1) % 2 ^ 32, known⟩)
    (addResult size.dataBits (size.data t0) (size.data t1) 1,
      addFlags size.dataBits (size.data t0) (size.data t1) 1) := by
  refine ⟨data_adc size t0 t1, valid_of_words h1 (Nat.mod_lt _ (by decide)) (by decide), ?_⟩
  exact (congrArg flagsOfWord (computeAllAdc_eq size h0 h1)).trans (flagsOfWord_word _)

theorem leavesFlags_sub : LeavesFlags size
    (subWord t0 t1, ⟨.of .sub size, t1, subWord t0 t1, known⟩)
    (subResult size.dataBits (size.data t0) (size.data t1) 0,
      subFlags size.dataBits (size.data t0) (size.data t1) 0) := by
  refine ⟨data_sub size h0 h1, valid_of_words h1 (Nat.mod_lt _ (by decide)) (by decide), ?_⟩
  exact (congrArg flagsOfWord (computeAllSub_eq size h0 h1)).trans (flagsOfWord_word _)

theorem leavesFlags_sbb : LeavesFlags size
    (subWord (subWord t0 t1) 1, ⟨.of .sbb size, t1, subWord (subWord t0 t1) 1, known⟩)
    (subResult size.dataBits (size.data t0) (size.data t1) 1,
      subFlags size.dataBits (size.data t0) (size.data t1) 1) := by
  refine ⟨data_sbb size h0 h1, valid_of_words h1 (Nat.mod_lt _ (by decide)) (by decide), ?_⟩
  exact (congrArg flagsOfWord (computeAllSbb_eq size h0 h1)).trans (flagsOfWord_word _)

end

theorem leavesFlags_logic (size : OperandSize) {cc : Cc} (h : cc.Valid) {t r : Nat}
    (ht : t < 2 ^ 32) (hr : size.data t = r) :
    LeavesFlags size (t, { cc with op := .of .logic size, dst := t, known := true })
      (r, logicFlags size.dataBits r) := by
  refine ⟨hr, valid_of_words h.src ht (by decide), ?_⟩
  rw [← hr]
  exact (congrArg flagsOfWord (computeAllLogic_eq size t)).trans (flagsOfWord_word _)

theorem Cc.Valid.op_leavesFlags {cc : Cc} (h : cc.Valid) (op : AluOp) (size : OperandSize)
    {t0 t1 : Nat} (h0 : t0 < 2 ^ 32) (h1 : t1 < 2 ^ 32) :
    LeavesFlags size (cc.genOp op size t0 t1)
      (aluSpec cc.flags op size.dataBits (size.data t0) (size.data t1)) := by
  cases op with
  | add => exact leavesFlags_add size h0 h1 true
  | sub => exact leavesFlags_sub size h0 h1 true
  | and =>
      exact leavesFlags_logic size h (Nat.and_lt_two_pow _ h1) (Nat.and_mod_two_pow ..)
  | or => exact leavesFlags_logic size h (Nat.or_lt_two_pow h0 h1) (Nat.or_mod_two_pow ..)
  | xor => exact leavesFlags_logic size h (Nat.xor_lt_two_pow h0 h1) (Nat.xor_mod_two_pow ..)
  | cmp =>
      have hsub := leavesFlags_sub size h0 h1 true
      exact ⟨rfl, hsub.valid, hsub.flags⟩
  | adc =>
      simp only [Cc.genOp, aluSpec, h.computeC_eq]
      cases cc.flags.cf with
      | false =>
          have hsum : ((t0 + t1) % 2 ^ 32 + 0) % 2 ^ 32 = (t0 + t1) % 2 ^ 32 := by omega
          simp only [Bool.toNat_false, hsum, if_true]
          exact leavesFlags_add size h0 h1 false
      | true =>
          have hsum : ((t0 + t1) % 2 ^ 32 + 1) % 2 ^ 32 = (t0 + t1 + 1) % 2 ^ 32 := by omega
          simp only [Bool.toNat_true, hsum, one_ne_zero, if_false]
          exact leavesFlags_adc size h0 h1 false
  | sbb =>
      simp only [Cc.genOp, aluSpec, h.computeC_eq]
      cases cc.flags.cf with
      | false =>
          have hdiff : subWord (subWord t0 t1) 0 = subWord t0 t1 := by
            simp only [subWord]
            omega
          simp only [Bool.toNat_false, hdiff, if_true]
          exact leavesFlags_sub size h0 h1 false
      | true =>
          simp only [Bool.toNat_true, one_ne_zero, if_false]
          exact leavesFlags_sbb size h0 h1 false

section
variable (size : OperandSize) {t0 : Nat} (h0 : t0 < 2 ^ 32) (carry : Bool)
include h0

theorem leavesFlags_inc : LeavesFlags size
    ((t0 + 1) % 2 ^ 32, ⟨.of .inc size, carry.toNat, (t0 + 1) % 2 ^ 32, true⟩)
    (addResult size.dataBits (size.data t0) 1 0,
      { addFlags size.dataBits (size.data t0) 1 0 with cf := carry }) := by
  have hcarry : carry.toNat ≤ 1 := Bool.toNat_le carry
  have hdst := Nat.mod_lt (t0 + 1) (Nat.two_pow_pos 32)
  refine ⟨data_inc size t0, ⟨hcarry.trans_lt (by decide), hdst, fun _ _ => hcarry⟩, ?_⟩
  exact (congrArg flagsOfWord (computeAllInc_eq size h0 carry)).trans (flagsOfWord_word _)

theorem leavesFlags_dec : LeavesFlags size
    (subWord t0 1, ⟨.of .dec size, carry.toNat, subWord t0 1, true⟩)
    (subResult size.dataBits (size.data t0) 1 0,
      { subFlags size.dataBits (size.data t0) 1 0 with cf := carry }) := by
  have hcarry : carry.toNat ≤ 1 := Bool.toNat_le carry
  have hdst := Nat.mod_lt (t0 + 2 ^ 32 - 1) (Nat.two_pow_pos 32)
  refine ⟨data_dec size h0, ⟨hcarry.trans_lt (by decide), hdst, fun _ _ => hcarry⟩, ?_⟩
  exact (congrArg flagsOfWord (computeAllDec_eq size h0 carry)).trans (flagsOfWord_word _)

end

theorem Cc.Valid.inc_leavesFlags {cc : Cc} (h : cc.Valid) (up : Bool) (size : OperandSize)
    {t0 : Nat} (h0 : t0 < 2 ^ 32) :
    LeavesFlags size (cc.genInc up size t0) (incSpec cc.flags up size.dataBits (size.data t0)) := by
  simp only [Cc.genInc, incSpec, h.computeC_eq]
  cases up with
  | true =>
      simp only [if_true]
      exact leavesFlags_inc size h0 cc.flags.cf
  | false =>
      simp only [Bool.false_eq_true, if_false]
      exact leavesFlags_dec size h0 cc.flags.cf

/-! ### Blocks -/

/-- The condition codes that the code of a block goes on with, where `cc_op` is `s->cc_op` or,
when that is `CC_OP_DYNAMIC`, `env->cc_op`; and `env->cc_op`. -/
structure CcState where
  cc : Cc
  stored : CcOp
deriving DecidableEq, Repr

namespace CcState

/-- `gen_update_cc_op`; what is not dirty has been stored, and is stored again. -/
def genUpdateCcOp (x : CcState) : CcState := { x with stored := x.cc.op }

/-- `set_cc_op(s, CC_OP_DYNAMIC)`; a dirty `s->cc_op` is dropped. -/
def setDynamic (x : CcState) : CcState :=
  { x with cc := { x.cc with op := x.stored, known := false } }

/-- An instruction that leaves other condition codes. `ADC` and `SBB`, which leave no `s->cc_op`,
store `env->cc_op` themselves. -/
def leave (x : CcState) (cc : Cc) : CcState := ⟨cc, if cc.known then x.stored else cc.op⟩

/-- `gen_jcc`, where blocks may be chained (`s->jmp_opt`). The jump ends its block. -/
def genJcc (x : CcState) (jccOp : Cond) (inv : Bool) : Bool × CcState :=
  let x := x.genUpdateCcOp
  let r := x.cc.jcc jccOp inv
  (r.1, { x with cc := r.2 }.setDynamic)

/-- `gen_eob`, for a block that ends otherwise. -/
def genEob (x : CcState) : CcState := x.genUpdateCcOp.setDynamic

end CcState

/-- The jump computes no flags, or they had been computed. -/
def Cc.KeepsOp (cc : Cc) (jccOp : Cond) (inv : Bool) : Prop :=
  (cc.jcc jccOp inv).2.op = cc.op

instance (cc : Cc) (jccOp : Cond) (inv : Bool) : Decidable (cc.KeepsOp jccOp inv) :=
  inferInstanceAs (Decidable (_ = _))

/-- Such a jump leaves the next block the flags. -/
theorem Cc.KeepsOp.genJcc_cc {x : CcState} {jccOp : Cond} {inv : Bool}
    (h : x.cc.KeepsOp jccOp inv) : (x.genJcc jccOp inv).2.cc = (x.cc.jcc jccOp inv).2.blockEnd := by
  change { (x.cc.jcc jccOp inv).2 with op := x.cc.op, known := false } = _
  rw [← h]
  rfl

/-! ### Runs -/

inductive FlagInstr where
  | op (op : AluOp) (size : OperandSize) (d : Nat) (src : AluSource)
  | inc (up : Bool) (size : OperandSize) (d : Nat)
  | jcc (jccOp : Cond) (inv : Bool)
  | blockEnd
deriving DecidableEq, Repr

/-- The registers, the condition codes, and which jumps have been taken, the last one first. -/
structure LazyState where
  regs : Regs
  cc : CcState
  taken : List Bool

namespace LazyState

def exec (s : LazyState) : FlagInstr → LazyState
  | .op op size d src =>
      let r := s.cc.cc.genOp op size (readReg s.regs size d) (src.read s.regs size)
      { s with
        regs := if op = .cmp then s.regs else writeReg s.regs size d r.1
        cc := s.cc.leave r.2 }
  | .inc up size d =>
      let r := s.cc.cc.genInc up size (readReg s.regs size d)
      { s with regs := writeReg s.regs size d r.1, cc := s.cc.leave r.2 }
  | .jcc jccOp inv =>
      let r := s.cc.genJcc jccOp inv
      { s with cc := r.2, taken := r.1 :: s.taken }
  | .blockEnd => { s with cc := s.cc.genEob }

/-- No jump of the run computes flags that it does not find computed. -/
def KeepsOps (s : LazyState) : List FlagInstr → Prop
  | [] => True
  | .jcc jccOp inv :: rest => s.cc.cc.KeepsOp jccOp inv ∧ (s.exec (.jcc jccOp inv)).KeepsOps rest
  | i :: rest => (s.exec i).KeepsOps rest

end LazyState

/-- The machine that sets its flags at every instruction. -/
structure EagerState where
  regs : Regs
  flags : Flags
  taken : List Bool

def EagerState.exec (s : EagerState) : FlagInstr → EagerState
  | .op op size d src =>
      let r := aluSpec s.flags op size.dataBits (size.data (readReg s.regs size d))
        (size.data (src.read s.regs size))
      { s with regs := if op = .cmp then s.regs else writeReg s.regs size d r.1, flags := r.2 }
  | .inc up size d =>
      let r := incSpec s.flags up size.dataBits (size.data (readReg s.regs size d))
      { s with regs := writeReg s.regs size d r.1, flags := r.2 }
  | .jcc jccOp inv => { s with taken := (s.flags.holds jccOp != inv) :: s.taken }
  | .blockEnd => s

theorem Cc.Valid.blockEnd {cc : Cc} (h : cc.Valid) : cc.blockEnd.Valid :=
  ⟨h.src, h.dst, h.carry⟩

structure Agrees (l : LazyState) (e : EagerState) : Prop where
  words : ∀ reg, l.regs reg < 2 ^ 32
  regs : l.regs = e.regs
  valid : l.cc.cc.Valid
  flags : l.cc.cc.flags = e.flags
  taken : l.taken = e.taken

theorem readReg_lt {regs : Regs} (h : ∀ reg, regs reg < 2 ^ 32) (size : OperandSize) (reg : Nat) :
    readReg regs size reg < 2 ^ 32 := by
  have hhigh := h (reg - 4)
  rw [readReg]
  split_ifs
  · omega
  · exact h reg

theorem AluSource.read_lt {regs : Regs} (h : ∀ reg, regs reg < 2 ^ 32) (size : OperandSize)
    (src : AluSource) : src.read regs size < 2 ^ 32 := by
  cases src with
  | reg r => exact readReg_lt h size r
  | imm val => exact val.toNat_lt

theorem writeReg_lt {regs : Regs} (h : ∀ reg, regs reg < 2 ^ 32) (size : OperandSize) (d t0 : Nat)
    (reg : Nat) : writeReg regs size d t0 reg < 2 ^ 32 := by
  have hhigh := h (d - 4)
  have hd := h d
  have hreg := h reg
  rw [writeReg]
  split_ifs with hbyte
  · have hdata : size.data t0 < 2 ^ 8 := by
      rw [hbyte.1]
      exact Nat.mod_lt _ (Nat.two_pow_pos 8)
    rw [Function.update_apply]
    split_ifs
    · omega
    · exact hreg
  · rw [Function.update_apply]
    split_ifs
    · simp only [OperandSize.data]
      cases size <;> simp only [OperandSize.dataBits] <;> omega
    · exact hreg

/-- A register takes as much of the word as the operand has. -/
theorem writeReg_data (regs : Regs) (size : OperandSize) (d t0 : Nat) :
    writeReg regs size d (size.data t0) = writeReg regs size d t0 := by
  have hdata : size.data (size.data t0) = size.data t0 := Nat.mod_mod _ _
  rw [writeReg, writeReg, hdata]

theorem LeavesFlags.writeReg_eq {size : OperandSize} {lazily : Nat × Cc} {spec : Nat × Flags}
    (h : LeavesFlags size lazily spec) (regs : Regs) (d : Nat) :
    writeReg regs size d lazily.1 = writeReg regs size d spec.1 := by
  rw [← h.result, writeReg_data]

/-- The instructions that are no jumps. -/
def FlagInstr.NoJump : FlagInstr → Prop
  | .jcc _ _ => False
  | _ => True

theorem Agrees.exec {l : LazyState} {e : EagerState} (h : Agrees l e) {i : FlagInstr}
    (hi : i.NoJump) : Agrees (l.exec i) (e.exec i) := by
  obtain ⟨regs, flags, taken⟩ := e
  obtain ⟨hwords, rfl, hvalid, rfl, rfl⟩ := h
  cases i with
  | op op size d src =>
      have hleaves := hvalid.op_leavesFlags op size (readReg_lt hwords size d)
        (src.read_lt hwords size)
      refine ⟨?_, ?_, hleaves.valid, hleaves.flags, rfl⟩
      · intro reg
        simp only [LazyState.exec]
        split_ifs
        · exact hwords reg
        · exact writeReg_lt hwords ..
      · exact congrArg (if op = .cmp then l.regs else ·) (hleaves.writeReg_eq l.regs d)
  | inc up size d =>
      have hleaves := hvalid.inc_leavesFlags up size (readReg_lt hwords size d)
      exact ⟨writeReg_lt hwords size d _, hleaves.writeReg_eq .., hleaves.valid, hleaves.flags, rfl⟩
  | jcc jccOp inv => exact absurd hi id
  | blockEnd => exact ⟨hwords, rfl, hvalid.blockEnd, rfl, rfl⟩

theorem Agrees.jcc {l : LazyState} {e : EagerState} (h : Agrees l e) {jccOp : Cond} {inv : Bool}
    (hkeeps : l.cc.cc.KeepsOp jccOp inv) :
    Agrees (l.exec (.jcc jccOp inv)) (e.exec (.jcc jccOp inv)) := by
  obtain ⟨regs, flags, taken⟩ := e
  obtain ⟨hwords, rfl, hvalid, rfl, rfl⟩ := h
  obtain ⟨htaken, hvalid', hflags⟩ := hvalid.jcc_spec jccOp inv
  have hcc := hkeeps.genJcc_cc
  refine ⟨hwords, rfl, ?_, ?_, congrArg (· :: l.taken) htaken⟩
  · change (l.cc.genJcc jccOp inv).2.cc.Valid
    rw [hcc]
    exact hvalid'.blockEnd
  · change (l.cc.genJcc jccOp inv).2.cc.flags = _
    rw [hcc]
    exact hflags

/-- Whatever a program does, and wherever its blocks end, its jumps are taken and its registers
set as on the machine that keeps its flags up to date, as long as no jump has to compute them. -/
theorem lazy_flags_agree {l : LazyState} {e : EagerState} (h : Agrees l e)
    (program : List FlagInstr) (hkeeps : l.KeepsOps program) :
    Agrees (program.foldl LazyState.exec l) (program.foldl EagerState.exec e) := by
  induction program generalizing l e with
  | nil => exact h
  | cons i program ih =>
      cases i with
      | jcc jccOp inv => exact ih (h.jcc hkeeps.1) hkeeps.2
      | op op size d src => exact ih (h.exec trivial) hkeeps
      | inc up size d => exact ih (h.exec trivial) hkeeps
      | blockEnd => exact ih (h.exec trivial) hkeeps

theorem valid_eflags {src : Nat} (h : src < 2 ^ 32) (known : Bool) :
    Cc.Valid ⟨.eflags, src, 0, known⟩ := by
  refine ⟨h, Nat.two_pow_pos 32, ?_⟩
  rintro size (hop | hop) <;> cases hop

/-- The start of a block, with a number in every register and no flag set. -/
theorem agrees_start {n : Nat} (hn : n < 2 ^ 32) :
    Agrees ⟨fun _ => n, ⟨⟨.eflags, 0, 0, false⟩, .eflags⟩, []⟩ ⟨fun _ => n, flagsOfWord 0, []⟩ :=
  ⟨fun _ => hn, rfl, valid_eflags (Nat.two_pow_pos 32) false, rfl, rfl⟩

/-- A comparison with a smaller number, a jump, and a decrement in the next block. -/
def countdown : List FlagInstr :=
  [.op .cmp .long 0 (.imm 3), .jcc .le false, .inc false .byte 4, .jcc .b true]

theorem lazy_flags_agree_countdown :
    Agrees (countdown.foldl LazyState.exec ⟨fun _ => 5, ⟨⟨.eflags, 0, 0, false⟩, .eflags⟩, []⟩)
      (countdown.foldl EagerState.exec ⟨fun _ => 5, flagsOfWord 0, []⟩) :=
  lazy_flags_agree (agrees_start (by decide)) countdown ⟨by decide, by decide, trivial⟩

/-- The overflow of `1 + 2` is computed into the flags; `jb` in the next block takes them for an
operand of the addition. -/
theorem computed_flags_misread :
    ¬ ∀ l e, Agrees l e → ∀ program : List FlagInstr,
      Agrees (program.foldl LazyState.exec l) (program.foldl EagerState.exec e) := by
  intro hall
  have hagrees := hall _ _ (agrees_start (n := 1) (by decide))
    [.op .add .long 0 (.imm 2), .jcc .o false, .jcc .b false]
  exact absurd hagrees.taken (by decide +kernel)

/-! ### Comparisons -/

/-- What a jump after `cmp` says about the operands. -/
def compares (w a b : Nat) : Cond → Bool
  | .o => ¬ FitsSigned w (signed w a - signed w b)
  | .b => a < b
  | .z => a = b
  | .be => a ≤ b
  | .s => 2 ^ (w - 1) ≤ subResult w a b 0
  | .p => evenParity (subResult w a b 0)
  | .l => signed w a < signed w b
  | .le => signed w a ≤ signed w b

theorem subFlags_holds {w a b : Nat} (hw : 0 < w) (ha : a < 2 ^ w) (hb : b < 2 ^ w) (c : Cond) :
    (subFlags w a b 0).holds c = compares w a b c := by
  cases c with
  | o => simp only [Flags.holds, subFlags, resultFlags, compares, Nat.cast_zero, sub_zero]
  | b => rfl
  | z => exact subFlags_zf ha hb
  | be => exact subFlags_holds_be ha hb
  | s => rfl
  | p => rfl
  | l => exact subFlags_lt hw ha hb
  | le => exact subFlags_holds_le hw ha hb

theorem Cc.Valid.jcc_of_compared {cc : Cc} (h : cc.Valid) {size : OperandSize} {t0 t1 : Nat}
    (hflags : cc.flags = subFlags size.dataBits (size.data t0) (size.data t1) 0) (jccOp : Cond)
    (inv : Bool) :
    (cc.jcc jccOp inv).1 =
      (compares size.dataBits (size.data t0) (size.data t1) jccOp != inv) := by
  have hbits : 0 < size.dataBits := by
    cases size <;> decide
  have ha : size.data t0 < 2 ^ size.dataBits := Nat.mod_lt _ (Nat.two_pow_pos _)
  have hb : size.data t1 < 2 ^ size.dataBits := Nat.mod_lt _ (Nat.two_pow_pos _)
  rw [(h.jcc_spec jccOp inv).1, hflags, subFlags_holds hbits ha hb]

/-- A jump after a comparison is taken as the operands compare, as numbers with or without a
sign, in the block of the comparison and in one after it. -/
theorem jump_after_compare {cc : Cc} (h : cc.Valid) (size : OperandSize) {t0 t1 : Nat}
    (h0 : t0 < 2 ^ 32) (h1 : t1 < 2 ^ 32) (jccOp : Cond) (inv : Bool) :
    ((cc.genOp .cmp size t0 t1).2.jcc jccOp inv).1 =
        (compares size.dataBits (size.data t0) (size.data t1) jccOp != inv) ∧
      ((cc.genOp .cmp size t0 t1).2.blockEnd.jcc jccOp inv).1 =
        (compares size.dataBits (size.data t0) (size.data t1) jccOp != inv) := by
  have hleaves := h.op_leavesFlags .cmp size h0 h1
  exact ⟨hleaves.valid.jcc_of_compared hleaves.flags jccOp inv,
    hleaves.valid.blockEnd.jcc_of_compared hleaves.flags jccOp inv⟩

/-- As a byte, 200 is a negative number. -/
theorem jump_after_compare_signed :
    compares 8 200 5 .l = true ∧ compares 8 200 5 .b = false ∧
      (((⟨.eflags, 0, 0, true⟩ : Cc).genOp .cmp .byte 200 5).2.jcc .l false).1 =
        (compares 8 200 5 .l != false) := by
  exact ⟨by decide, by decide, (jump_after_compare (valid_eflags (Nat.two_pow_pos 32) true) .byte
    (by decide) (by decide) .l false).1⟩

end ShellcodeVM.TargetI386
