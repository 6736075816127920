import ShellcodeVM.Haxm.FrameDatabase
import ShellcodeVM.Haxm.MemBlocks

/-!
`HAXM_VM::map_pages` and `unmap_pages` (`HAXM_VM.h`). They reach the page directory,
the page tables and the frame database through host pointers, so the model is of the
host's memory. `map_pages` has no return statement at its end; the result there is
`true`. Page counts are natural numbers: for a negative count the loops do nothing.
-/
namespace ShellcodeVM.Haxm
open Machine

def pageSize : Nat := 0x1000

/-- `PDE_INDEX(virtual_addr)`, assigned to an `int`. -/
def pdeIndex (virtualAddr : Nat) : Int := toInt32 (virtualAddr >>> 22)

def pteIndex (virtualAddr : Nat) : Nat := (virtualAddr >>> 12) &&& 0x3FF

def pdeAddress (pde : Nat) : Nat := pde &&& 0xFFFFF000
def pteAddress (pte : Nat) : Nat := pte &&& 0xFFFFF000

def ptPresent : Nat := 0x001
def ptWritable : Nat := 0x002

def frameDatabaseGpa : Nat := 0x00000000

/-- The fields of `HAXM_VM` that paging reads. -/
structure VmPaging where
  memBlocks : MemBlocks
  pageDirPhysicalAddr : Nat
  pageDirVirtualAddr : Nat
deriving DecidableEq, Repr

/-- Where `hva[index]` lies, for a pointer to 32-bit entries. -/
def entryAddr (hva : Nat) (index : Int) : Nat := (hva + 4 * index).toNat

/-- The search may run for ever, and an access may leave the frame database. -/
abbrev Paging := ExceptT Fault Option

namespace VmPaging

/-- `alloc_physical_pages(pages)` on the database in the memory of the host. -/
def allocPhysicalPages (vm : VmPaging) (fuel : Nat) (host : Memory) (pages : Nat) :
    Paging (Nat × Memory) := do
  let frameDbHva := gpaToHva vm.memBlocks frameDatabaseGpa
  let found ← ExceptT.mk (Haxm.allocPhysicalPages fuel (window host frameDbHva) pages)
  return (found.1, replaceWindow host frameDbHva found.2)

/-- `free_physical_pages(guest_physical_addr, pages)` on the same database. -/
def freePhysicalPages (vm : VmPaging) (host : Memory) (guestPhysicalAddr pages : Nat) :
    Paging Memory := do
  let frameDbHva := gpaToHva vm.memBlocks frameDatabaseGpa
  let db ← ExceptT.mk (some (Haxm.freePhysicalPages (window host frameDbHva) guestPhysicalAddr pages))
  return replaceWindow host frameDbHva db

/-- One pass of the loop of `map_pages`, `false` for `return false`. -/
def mapPage (vm : VmPaging) (fuel : Nat) (pageDirHva : Nat) (host : Memory)
    (guestPhysicalAddr guestVirtualAddr : Nat) : Paging (Bool × Memory) :=
  let pdeAddr := entryAddr pageDirHva (pdeIndex guestVirtualAddr)
  let ptGpa := pdeAddress (read32 host pdeAddr)
  let pte := guestPhysicalAddr ||| ptPresent ||| ptWritable
  if ptGpa ≠ 0 then
    let ptHva := gpaToHva vm.memBlocks ptGpa
    return (true, write32 host (entryAddr ptHva (pteIndex guestVirtualAddr)) pte)
  else do
    let found ← vm.allocPhysicalPages fuel host 1
    let ptGpa := found.1
    if ptGpa = 0 then return (false, found.2)
    else
      let ptHva := gpaToHva vm.memBlocks ptGpa
      let host := memset found.2 ptHva 0 pageSize
      let host := write32 host pdeAddr (ptGpa ||| ptPresent ||| ptWritable)
      return (true, write32 host (entryAddr ptHva (pteIndex guestVirtualAddr)) pte)

def mapPagesLoop (vm : VmPaging) (fuel : Nat) (pageDirHva : Nat) :
    Nat → Memory → Nat → Nat → Paging (Bool × Memory)
  | 0, host, _, _ => return (true, host)
  | pages + 1, host, guestPhysicalAddr, guestVirtualAddr => do
      let mapped ← vm.mapPage fuel pageDirHva host guestPhysicalAddr guestVirtualAddr
      if mapped.1 = false then return (false, mapped.2)
      else
        vm.mapPagesLoop fuel pageDirHva pages mapped.2
          ((guestPhysicalAddr + pageSize) % 2 ^ 64) ((guestVirtualAddr + pageSize) % 2 ^ 64)

/-- `map_pages(guest_physical_addr, guest_virtual_addr, pages)`. -/
def mapPages (vm : VmPaging) (fuel : Nat) (host : Memory)
    (guestPhysicalAddr guestVirtualAddr pages : Nat) : Paging (Bool × Memory) :=
  vm.mapPagesLoop fuel (gpaToHva vm.memBlocks vm.pageDirPhysicalAddr) pages host
    guestPhysicalAddr guestVirtualAddr

/-- One pass of the loop of `unmap_pages`, `false` for `return false`. -/
def unmapPage (vm : VmPaging) (pageDirHva : Nat) (host : Memory) (guestVirtualAddr : Nat) :
    Paging (Bool × Memory) :=
  let ptGpa := pdeAddress (read32 host (entryAddr pageDirHva (pdeIndex guestVirtualAddr)))
  if ptGpa = 0 then return (false, host)
  else do
    let ptHva := gpaToHva vm.memBlocks ptGpa
    let pteAddr := entryAddr ptHva (pteIndex guestVirtualAddr)
    let pteGpa := pteAddress (read32 host pteAddr)
    let host ← vm.freePhysicalPages host pteGpa 1
    return (true, write32 host pteAddr 0)

def unmapPagesLoop (vm : VmPaging) (pageDirHva : Nat) :
    Nat → Memory → Nat → Paging (Bool × Memory)
  | 0, host, _ => return (true, host)
  | pages + 1, host, guestVirtualAddr => do
      let unmapped ← vm.unmapPage pageDirHva host guestVirtualAddr
      if unmapped.1 = false then return (false, unmapped.2)
      else
        vm.unmapPagesLoop pageDirHva pages unmapped.2 ((guestVirtualAddr + pageSize) % 2 ^ 64)

/-- `unmap_pages(guest_virtual_addr, pages)`. -/
def unmapPages (vm : VmPaging) (host : Memory) (guestVirtualAddr pages : Nat) :
    Paging (Bool × Memory) :=
  vm.unmapPagesLoop (gpaToHva vm.memBlocks vm.pageDirPhysicalAddr) pages host guestVirtualAddr

end VmPaging
end ShellcodeVM.Haxm
