import ShellcodeVM.Lib.AluFlags

/-!
The condition codes of the emulator (`target-i386/cc_helper.c`, `cc_helper_template.h`, and what
`translate.c` generates for them): an instruction leaves its result and an operand, and the
flags are computed when something asks for them. The quad size is
left out, and with it all but the low 32 bits of a word.
-/
namespace ShellcodeVM.TargetI386
open Machine

inductive OperandSize where
  | byte | word | long
deriving DecidableEq, Repr

def OperandSize.dataBits : OperandSize → Nat
  | .byte => 8
  | .word => 16
  | .long => 32

inductive CcKind where
  | mul | add | adc | sub | sbb | logic | inc | dec | shl | sar
deriving DecidableEq, Repr

/-- `CC_OP_EFLAGS`, and a constant for each kind and size. -/
inductive CcOp where
  | eflags
  | of (kind : CcKind) (size : OperandSize)
deriving DecidableEq, Repr

/-- The condition codes; `known` when the translator has `cc_op` and not `CC_OP_DYNAMIC`, and
otherwise `op` is the one of the processor. -/
structure Cc where
  op : CcOp
  src : Nat
  dst : Nat
  known : Bool
deriving DecidableEq, Repr

def ccO : Nat := 0x800

/-- `parity_table`, with 4 for `CC_P`. -/
def parityTable : Array Nat := #[
  4, 0, 0, 4, 0, 4, 4, 0, 0, 4, 4, 0, 4, 0, 0, 4,
  0, 4, 4, 0, 4, 0, 0, 4, 4, 0, 0, 4, 0, 4, 4, 0,
  0, 4, 4, 0, 4, 0, 0, 4, 4, 0, 0, 4, 0, 4, 4, 0,
  4, 0, 0, 4, 0, 4, 4, 0, 0, 4, 4, 0, 4, 0, 0, 4,
  0, 4, 4, 0, 4, 0, 0, 4, 4, 0, 0, 4, 0, 4, 4, 0,
  4, 0, 0, 4, 0, 4, 4, 0, 0, 4, 4, 0, 4, 0, 0, 4,
  4, 0, 0, 4, 0, 4, 4, 0, 0, 4, 4, 0, 4, 0, 0, 4,
  0, 4, 4, 0, 4, 0, 0, 4, 4, 0, 0, 4, 0, 4, 4, 0,
  0, 4, 4, 0, 4, 0, 0, 4, 4, 0, 0, 4, 0, 4, 4, 0,
  4, 0, 0, 4, 0, 4, 4, 0, 0, 4, 4, 0, 4, 0, 0, 4,
  4, 0, 0, 4, 0, 4, 4, 0, 0, 4, 4, 0, 4, 0, 0, 4,
  0, 4, 4, 0, 4, 0, 0, 4, 4, 0, 0, 4, 0, 4, 4, 0,
  4, 0, 0, 4, 0, 4, 4, 0, 0, 4, 4, 0, 4, 0, 0, 4,
  0, 4, 4, 0, 4, 0, 0, 4, 4, 0, 0, 4, 0, 4, 4, 0,
  0, 4, 4, 0, 4, 0, 0, 4, 4, 0, 0, 4, 0, 4, 4, 0,
  4, 0, 0, 4, 0, 4, 4, 0, 0, 4, 4, 0, 4, 0, 0, 4]

/-- `lshift`; to the right it is a logical shift here, since no bit from above the word is used. -/
def lshift (x : Nat) (n : Int) : Nat := if 0 ≤ n then x <<< n.toNat else x >>> (-n).toNat

/-- A difference of words. -/
def subWord (x y : Nat) : Nat := (x + 2 ^ 32 - y) % 2 ^ 32

/-- The last lines of each `compute_all` function. -/
def flagsOf (size : OperandSize) (dst cf af of : Nat) : Nat :=
  let pf := parityTable.getD (dst % 2 ^ 8) 0
  let zf := (if dst % 2 ^ size.dataBits = 0 then 1 else 0) <<< 6
  let sf := lshift dst (8 - size.dataBits) &&& 0x80
  cf ||| pf ||| af ||| zf ||| sf ||| of

section
variable (size : OperandSize) (src dst : Nat)

/-- A word as `DATA_TYPE`. -/
def OperandSize.data (x : Nat) : Nat := x % 2 ^ size.dataBits

def computeCAdd : Nat := if size.data dst < size.data src then 1 else 0

def computeCAdc : Nat := if size.data dst ≤ size.data src then 1 else 0

def computeCSub : Nat := if size.data ((dst + src) % 2 ^ 32) < size.data src then 1 else 0

def computeCSbb : Nat := if size.data ((dst + src + 1) % 2 ^ 32) ≤ size.data src then 1 else 0

def computeCShl : Nat := (src >>> (size.dataBits - 1)) &&& 1

/-- What the four functions for sums and differences share. -/
def computeAllSum (src1 src2 cf signs : Nat) : Nat :=
  flagsOf size dst cf ((dst ^^^ src1 ^^^ src2) &&& 0x10) (lshift signs (12 - size.dataBits) &&& ccO)

def computeAllAdd : Nat :=
  let src2 := subWord dst src
  computeAllSum size dst src src2 (computeCAdd size src dst)
    ((src ^^^ src2 ^^^ (2 ^ 32 - 1)) &&& (src ^^^ dst))

def computeAllAdc : Nat :=
  let src2 := subWord (subWord dst src) 1
  computeAllSum size dst src src2 (computeCAdc size src dst)
    ((src ^^^ src2 ^^^ (2 ^ 32 - 1)) &&& (src ^^^ dst))

def computeAllSub : Nat :=
  let src1 := (dst + src) % 2 ^ 32
  computeAllSum size dst src1 src (computeCSub size src dst) ((src1 ^^^ src) &&& (src1 ^^^ dst))

def computeAllSbb : Nat :=
  let src1 := (dst + src + 1) % 2 ^ 32
  computeAllSum size dst src1 src (computeCSbb size src dst) ((src1 ^^^ src) &&& (src1 ^^^ dst))

def computeAllLogic : Nat := flagsOf size dst 0 0 0

def computeAllInc : Nat :=
  flagsOf size dst src ((dst ^^^ subWord dst 1 ^^^ 1) &&& 0x10)
    ((if size.data dst = 2 ^ (size.dataBits - 1) then 1 else 0) <<< 11)

def computeAllDec : Nat :=
  flagsOf size dst src ((dst ^^^ ((dst + 1) % 2 ^ 32) ^^^ 1) &&& 0x10)
    ((if size.data dst = 2 ^ (size.dataBits - 1) - 1 then 1 else 0) <<< 11)

def computeAllShl : Nat :=
  flagsOf size dst (computeCShl size src) 0 (lshift (src ^^^ dst) (12 - size.dataBits) &&& ccO)

def computeAllSar : Nat :=
  flagsOf size dst (src &&& 1) 0 (lshift (src ^^^ dst) (12 - size.dataBits) &&& ccO)

def computeAllMul : Nat :=
  let cf := if src ≠ 0 then 1 else 0
  flagsOf size dst cf 0 (cf <<< 11)

end

namespace Cc

/-- `helper_cc_compute_all`. -/
def computeAll (cc : Cc) : Nat :=
  match cc.op with
  | .eflags => cc.src
  | .of .mul size => computeAllMul size cc.src cc.dst
  | .of .add size => computeAllAdd size cc.src cc.dst
  | .of .adc size => computeAllAdc size cc.src cc.dst
  | .of .sub size => computeAllSub size cc.src cc.dst
  | .of .sbb size => computeAllSbb size cc.src cc.dst
  | .of .logic size => computeAllLogic size cc.dst
  | .of .inc size => computeAllInc size cc.src cc.dst
  | .of .dec size => computeAllDec size cc.src cc.dst
  | .of .shl size => computeAllShl size cc.src cc.dst
  | .of .sar size => computeAllSar size cc.src cc.dst

/-- `helper_cc_compute_c`, and `gen_compute_eflags_c`, which generates the same expressions
where `cc_op` is known. -/
def computeC (cc : Cc) : Nat :=
  match cc.op with
  | .eflags => cc.src &&& 1
  | .of .mul _ => if cc.src ≠ 0 then 1 else 0
  | .of .add size => computeCAdd size cc.src cc.dst
  | .of .adc size => computeCAdc size cc.src cc.dst
  | .of .sub size => computeCSub size cc.src cc.dst
  | .of .sbb size => computeCSbb size cc.src cc.dst
  | .of .logic _ => 0
  | .of .inc _ | .of .dec _ => cc.src
  | .of .shl size => computeCShl size cc.src
  | .of .sar _ => cc.src &&& 1

/-- `gen_compute_eflags`. -/
def computeEflags (cc : Cc) : Cc :=
  { cc with op := .eflags, src := cc.computeAll, known := true }

/-- `gen_compute_eflags_z`, without `inv`. -/
def computeEflagsZ (cc : Cc) : Nat × Cc :=
  match cc.known, cc.op with
  | true, .of _ size => (if size.data cc.dst = 0 then 1 else 0, cc)
  | _, _ => ((cc.computeEflags.src >>> 6) &&& 1, cc.computeEflags)

/-- `gen_compute_eflags_s`, without `inv`. -/
def computeEflagsS (cc : Cc) : Nat × Cc :=
  match cc.known, cc.op with
  | true, .of _ size => (if signed size.dataBits (size.data cc.dst) < 0 then 1 else 0, cc)
  | _, _ => ((cc.computeEflags.src >>> 7) &&& 1, cc.computeEflags)

/-- `gen_setcc_slow`, without `inv`. -/
def setccSlow (cc : Cc) (jccOp : Cond) : Nat × Cc :=
  let eflags := cc.computeEflags
  match jccOp with
  | .o => ((eflags.src >>> 11) &&& 1, eflags)
  | .b => (cc.computeC, cc)
  | .z => cc.computeEflagsZ
  | .be => (if eflags.src &&& (0x40 ||| 1) ≠ 0 then 1 else 0, eflags)
  | .s => cc.computeEflagsS
  | .p => ((eflags.src >>> 2) &&& 1, eflags)
  | .l => (((eflags.src >>> 11) ^^^ (eflags.src >>> 7)) &&& 1, eflags)
  | .le => ((((eflags.src >>> 11) ^^^ (eflags.src >>> 7)) ||| (eflags.src >>> 6)) &&& 1, eflags)

/-- The fast cases of `gen_jcc1`. -/
def fastJcc (cc : Cc) (jccOp : Cond) : Option Bool :=
  match cc.known, cc.op, jccOp with
  | true, .of .mul _, _ => none
  | true, .of _ size, .z => some (size.data cc.dst = 0)
  | true, .of _ size, .s => some (signed size.dataBits (size.data cc.dst) < 0)
  | true, .of .sub size, .b => some (size.data ((cc.dst + cc.src) % 2 ^ 32) < size.data cc.src)
  | true, .of .sub size, .be => some (size.data ((cc.dst + cc.src) % 2 ^ 32) ≤ size.data cc.src)
  | true, .of .sub size, .l =>
      some (signed size.dataBits (size.data ((cc.dst + cc.src) % 2 ^ 32)) <
        signed size.dataBits (size.data cc.src))
  | true, .of .sub size, .le =>
      some (signed size.dataBits (size.data ((cc.dst + cc.src) % 2 ^ 32)) ≤
        signed size.dataBits (size.data cc.src))
  | _, _, _ => none

/-- `gen_jcc1`: whether the jump is taken, and the condition codes after it. -/
def jcc (cc : Cc) (jccOp : Cond) (inv : Bool) : Bool × Cc :=
  match cc.fastJcc jccOp with
  | some taken => (taken != inv, cc)
  | none => ((decide ((cc.setccSlow jccOp).1 ≠ 0)) != inv, (cc.setccSlow jccOp).2)

end Cc

end ShellcodeVM.TargetI386
