import ShellcodeVM.Lib.LinearMemory
import ShellcodeVM.Boot.MemoryLayout

/-!
`main` of the boot loader: the frame database, the page tables, and the switch to paging,
after which every address is linear.
-/
namespace ShellcodeVM.Boot
open Machine

def vmContextPhysicalAddr : Nat := osCodePhysicalAddr
def vmContextVirtualAddr : Nat := osCodeVirtualAddr

/-- `offsetof(VM_CONTEXT, os_entry_point)`. -/
def osEntryPointOffset : Nat := 36

def startupPagingMode (m : Memory) : Mmu where
  mem := m
  dir := pageDirPhysicalAddr
  stores := []

/-- The processor that `main` leaves behind. -/
def startup (m : Memory) : Mmu := startupPagingMode (initPageTable (initFrameDatabase m))

@[simp] theorem startup_mem (m : Memory) :
    (startup m).mem = initPageTable (initFrameDatabase m) := by
  simp only [startup, startupPagingMode]

@[simp] theorem startup_dir (m : Memory) : (startup m).dir = pageDirPhysicalAddr := by
  simp only [startup, startupPagingMode]

/-- The boot loader writes to the frame database and to the tables only. -/
theorem startup_mem_outside (m : Memory) {x : Nat} (hdb : x < 0x100000 ∨ 0x200000 ≤ x)
    (htables : x < 0x400000 ∨ 0x800000 ≤ x) : (startup m).mem x = m x := by
  have hsize : frameDbSize = 0x100000 := mb_eq 1
  have hpages : sizeToPages kernelMemSize = 0x1000 := by decide
  have htable : pageTableSize = 0x400000 := mb_eq 4
  rw [startup_mem, initPageTable_eq, mapRanges_outside _ (by decide) htables,
    fillPageDir_outside _ (le_refl 1024) htables, memset_outside, initFrameDatabase,
    memset_outside, memset_outside]
  · rw [hsize, frameDbPhysicalAddr]
    omega
  · rw [hpages, frameDbPhysicalAddr]
    omega
  · rw [htable, pageTablePhysicalAddr]
    omega

/-- `main`, with the address that it jumps to. -/
def main (m : Memory) : Option (Nat × Mmu) := do
  let u := startup m
  let osEntryPoint ← u.load32 (vmContextVirtualAddr + osEntryPointOffset)
  return (osEntryPoint, u)

end ShellcodeVM.Boot
