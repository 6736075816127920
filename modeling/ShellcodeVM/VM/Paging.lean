import ShellcodeVM.Lib.PageWalk
import ShellcodeVM.VM.PageFrame

/-!
The host's `pager` (`VM/paging.cpp`) over the memory of the host. It reads the page
directory through a host pointer, clears page tables through `GPA_TO_HVA` and stores
their entries at linear addresses from `m_page_table_base`. The allocator of page
frames is an argument, with a state of its own. `CHECK_PAGE_ALGINED` only prints.
-/
namespace ShellcodeVM.VM
open Machine

def ptPresent : Nat := 0x001
def ptWritable : Nat := 0x002
def ptUser : Nat := 0x004

def kernelBase : Nat := 0x80000000

/-- `USER_SPACE(addr)`. -/
def userSpace (addr : Nat) : Bool := addr % 2 ^ 32 < kernelBase

/-- `((uint32_t*)base)[index]`, as an address. -/
def entryAddr (base index : Nat) : Nat := (base + 4 * index) % 2 ^ 64

structure Pager where
  pageDir : Nat
  hostMem : Nat
  pageTableBase : Nat
deriving DecidableEq, Repr

namespace Pager

def init (p : Pager) (hostMem pageTableBase : Nat) : Pager :=
  { p with hostMem := hostMem, pageTableBase := pageTableBase }

/-- `GPA_TO_HVA(gpa)`. -/
def gpaToHva (p : Pager) (gpa : Nat) : Nat := (p.hostMem + gpa) % 2 ^ 64

/-- Where `GET_PDE` and `SET_PDE` find the entry of the directory. -/
def pdeAddr (p : Pager) (addr : Nat) : Nat := entryAddr p.pageDir ((addr % 2 ^ 32) >>> 22)

/-- Where `SET_PTE` puts the entry of a page. -/
def pteAddr (p : Pager) (addr : Nat) : Nat := entryAddr p.pageTableBase ((addr % 2 ^ 32) >>> 12)

section Allocator

variable {σ : Type} (alloc : σ → Nat × σ)

def newPageDir (p : Pager) (db : σ) (host : Memory) : Pager × σ × Memory :=
  let allocated := alloc db
  let cr3 := allocated.1
  let p := { p with pageDir := p.gpaToHva cr3 }
  let host := memset host p.pageDir 0 pageSize
  let host := write32 host (entryAddr p.pageDir (p.pageTableBase >>> 22))
    (cr3 ||| ptPresent ||| ptWritable)
  (p, allocated.2, host)

/-- `new_page_table`, with the address of the table that it returns. -/
def newPageTable (p : Pager) (db : σ) (host : Memory) (virtualAddress : Nat) :
    Nat × σ × Memory :=
  let allocated := alloc db
  let pageTablePA := allocated.1
  let val := pageTablePA ||| ptPresent ||| ptWritable
  let val := if userSpace virtualAddress then val ||| ptUser else val
  let host := write32 host (p.pdeAddr virtualAddress) val
  let pageTableHVA := p.gpaToHva pageTablePA
  (pageTableHVA, allocated.2, memset host pageTableHVA 0 pageSize)

/-- One pass of the loop of `map_pages`. -/
def mapPage (p : Pager) (physicalAddress virtualAddress protect i : Nat) (s : σ × Memory) :
    σ × Memory :=
  let va := (virtualAddress + i * pageSize) % 2 ^ 64
  let pa := (physicalAddress + i * pageSize) % 2 ^ 64
  let s := if read32 s.2 (p.pdeAddr va) = 0 then (p.newPageTable alloc s.1 s.2 va).2 else s
  (s.1, write32 s.2 (p.pteAddr va) (pa ||| protect))

/-- The first `n` passes of the loop. -/
def mapPagesLoop (p : Pager) (physicalAddress virtualAddress protect : Nat) (s : σ × Memory) :
    Nat → σ × Memory
  | 0 => s
  | n + 1 =>
      p.mapPage alloc physicalAddress virtualAddress protect n
        (p.mapPagesLoop physicalAddress virtualAddress protect s n)

/-- `map_pages`, with the address that it returns. -/
def mapPages (p : Pager) (db : σ) (host : Memory) (physicalAddr virtualAddr size : Nat)
    (protect : Nat := ptPresent ||| ptWritable) : Nat × σ × Memory :=
  let protect := if userSpace virtualAddr then protect ||| ptUser else protect
  let virtualAddress := virtualAddr &&& 0xfffff000
  let physicalAddress := physicalAddr &&& 0xfffff000
  let pages := ((virtualAddr - virtualAddress + size + pageSize - 1) % 2 ^ 64) >>> 12
  (virtualAddress, p.mapPagesLoop alloc physicalAddress virtualAddress protect (db, host) pages)

end Allocator

section Frees

variable {σ : Type} (free : σ → Nat → σ)

/-- One pass of the loop of `unmap_pages`. -/
def unmapPage (p : Pager) (virtualAddress i : Nat) (s : σ × Memory) : σ × Memory :=
  let va := (virtualAddress + i * pageSize) % 2 ^ 64
  let pageTablePA := read32 s.2 (p.pdeAddr va) &&& 0xfffff000
  if pageTablePA ≠ 0 then
    let page := read32 s.2 (p.pteAddr va) >>> 12
    let host := write32 s.2 (p.pteAddr va) 0
    (free s.1 page, host)
  else s

/-- The first `n` passes of the loop. -/
def unmapPagesLoop (p : Pager) (virtualAddress : Nat) (s : σ × Memory) : Nat → σ × Memory
  | 0 => s
  | n + 1 => p.unmapPage free virtualAddress n (p.unmapPagesLoop virtualAddress s n)

def unmapPages (p : Pager) (db : σ) (host : Memory) (virtualAddr size : Nat) : σ × Memory :=
  let virtualAddress := virtualAddr &&& 0xfffff000
  let pages := ((virtualAddr - virtualAddress + size + pageSize - 1) % 2 ^ 64) >>> 12
  p.unmapPagesLoop free virtualAddress (db, host) pages

end Frees

end Pager
end ShellcodeVM.VM
