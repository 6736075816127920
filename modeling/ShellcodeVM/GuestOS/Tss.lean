import ShellcodeVM.GuestOS.Gdt
import ShellcodeVM.GuestOS.Layout
import ShellcodeVM.Lib.StackWords

/-!
The guest's task state segment (`tss.cpp`, `tss.h`), of which the processor takes the stack
of ring 0, and its descriptor in the GDT.
-/
namespace ShellcodeVM.GuestOS
open Machine

def kernelStackTopVirtualAddr : Nat := 0xC0800000 - pageSize

def selKernelData : Nat := 0x10

structure Tss where
  mBackLink : UInt32 := 0
  mEsp0 : UInt32 := 0
  mSs0 : UInt32 := 0
  mEsp1 : UInt32 := 0
  mSs1 : UInt32 := 0
  mEsp2 : UInt32 := 0
  mSs2 : UInt32 := 0
  mCr3 : UInt32 := 0
  mEip : UInt32 := 0
  mEflags : UInt32 := 0
  mEax : UInt32 := 0
  mEcx : UInt32 := 0
  mEdx : UInt32 := 0
  mEbx : UInt32 := 0
  mEsp : UInt32 := 0
  mEbp : UInt32 := 0
  mEsi : UInt32 := 0
  mEdi : UInt32 := 0
  mEs : UInt32 := 0
  mCs : UInt32 := 0
  mSs : UInt32 := 0
  mDs : UInt32 := 0
  mFs : UInt32 := 0
  mGs : UInt32 := 0
  mLdt : UInt32 := 0
  mTrap : UInt16 := 0
  mIobase : UInt16 := 0
  mTssSeg : UInt16 := 0
deriving DecidableEq, Repr

namespace Tss

/-- `TSS::Init`, for an object at `this`. -/
def init (gdt : Gdt) (this cr3 : UInt32) : Tss × Gdt :=
  let (mTssSeg, gdt) := gdt.addTssEntry this.toNat 103
  ({ mBackLink := 0
     mEsp0 := UInt32.ofNat kernelStackTopVirtualAddr
     mSs0 := UInt32.ofNat selKernelData
     mCr3 := cr3
     mEip := 0
     mEflags := 0x00000202
     mLdt := 0
     mTrap := 0
     mIobase := 104
     mTssSeg := UInt16.ofNat mTssSeg }, gdt)

/-- The segment, a word after the other. -/
def words (tss : Tss) : List UInt32 :=
  [tss.mBackLink, tss.mEsp0, tss.mSs0, tss.mEsp1, tss.mSs1, tss.mEsp2, tss.mSs2, tss.mCr3,
    tss.mEip, tss.mEflags, tss.mEax, tss.mEcx, tss.mEdx, tss.mEbx, tss.mEsp, tss.mEbp, tss.mEsi,
    tss.mEdi, tss.mEs, tss.mCs, tss.mSs, tss.mDs, tss.mFs, tss.mGs, tss.mLdt,
    tss.mTrap.toUInt32 ||| (tss.mIobase.toUInt32 <<< 16)]

/-- The stack of ring 0, where the processor looks for it. -/
theorem ring0_stack {m : Memory32} {a : UInt32} {gdt : Gdt} {this cr3 : UInt32}
    (h : Holds m a (init gdt this cr3).1.words) :
    load32 m (a + 4) = UInt32.ofNat kernelStackTopVirtualAddr ∧
      load32 m (a + 8) = UInt32.ofNat selKernelData := by
  have hss : a + 4 + 4 = a + 8 := by grind
  obtain ⟨-, hesp0, hss0, -⟩ := h
  rw [hss] at hss0
  exact ⟨hesp0, hss0⟩

end Tss
end ShellcodeVM.GuestOS
