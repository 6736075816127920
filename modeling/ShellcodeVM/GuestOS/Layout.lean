import ShellcodeVM.Lib.Word

/-!
Constants and address macros of `os.h` and `paging.h`, shared by the boot code
and the guest kernel. Addresses, sizes and entries are 32-bit values kept as
natural numbers; a macro that adds reduces its sum as `uint32_t` does.
-/
namespace ShellcodeVM

def mb (x : Nat) : Nat := x <<< 20

def pageSize : Nat := 0x1000

def pdeIndex (virtualAddr : Nat) : Nat := virtualAddr >>> 22
def pteIndex (virtualAddr : Nat) : Nat := (virtualAddr >>> 12) &&& 0x3FF

def kernelBase : Nat := 0x80000000
def pageDirBase : Nat := 0xC0300000
def pageTableBase : Nat := 0xC0000000
def pageFrameBase : Nat := 0xC0400000

def ptPresent : Nat := 0x001
def ptWritable : Nat := 0x002
def ptUser : Nat := 0x004

def pageFree : UInt8 := 0x00
def pageUsed : UInt8 := 0x01

def sizeToPages (size : Nat) : Nat := ((size + pageSize - 1) % 2 ^ 32) >>> 12

def vmRamSize : Nat := mb 100
def bootCodeSize : Nat := mb 1

def frameDbPhysicalAddr : Nat := 0x00100000
def frameDbVirtualAddr : Nat := 0xC0400000
def frameDbSize : Nat := mb 1

def videoBufPhysicalAddr : Nat := 0x00200000
def videoBufVirtualAddr : Nat := 0xC0500000
def videoBufSize : Nat := mb 2

def pageTablePhysicalAddr : Nat := 0x00400000
def pageTableVirtualAddr : Nat := 0xC0000000
def pageTableSize : Nat := mb 4

def pageDirPhysicalAddr : Nat := 0x00700000
def pageDirVirtualAddr : Nat := 0xC0300000

def osCodePhysicalAddr : Nat := 0x00800000
def osCodeVirtualAddr : Nat := 0x80000000
def osCodeSize : Nat := mb 8

def kernelMemSize : Nat := mb 16

def kernelStackBottomPhysicalAddr : Nat := 0x00000000 + pageSize
def kernelStackBottomVirtualAddr : Nat := 0xC0700000 + pageSize
def kernelStackSize : Nat := frameDbPhysicalAddr - 2 * pageSize

theorem mb_eq (x : Nat) : mb x = x * 0x100000 :=
  Nat.shiftLeft_eq x 20

theorem pdeIndex_eq (va : Nat) : pdeIndex va = va / 2 ^ 22 :=
  Machine.shiftRight_eq_div va 22

theorem pteIndex_eq (va : Nat) : pteIndex va = va / 2 ^ 12 % 2 ^ 10 := by
  rw [pteIndex, Machine.and_indexMask, Machine.shiftRight_eq_div]
  norm_num

theorem sizeToPages_eq (size : Nat) : sizeToPages size = (size + 4095) % 2 ^ 32 / 4096 := by
  rw [sizeToPages, Machine.shiftRight_eq_div]
  rfl

/-- The page count is exact whenever the rounding does not wrap. -/
theorem sizeToPages_bound {size : Nat} (h : size + 4095 < 2 ^ 32) :
    size ≤ 4096 * sizeToPages size ∧ 4096 * sizeToPages size < size + 4096 := by
  rw [sizeToPages_eq, Nat.mod_eq_of_lt h]
  omega

theorem flags_eq : ptPresent ||| ptWritable = 3 := rfl

theorem userFlags_eq : ptPresent ||| ptWritable ||| ptUser = 7 := rfl

end ShellcodeVM
