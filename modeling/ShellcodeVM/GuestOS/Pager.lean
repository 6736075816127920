import ShellcodeVM.Lib.PageWalk
import ShellcodeVM.GuestOS.Layout

/-!
The guest kernel's `PAGER` (`paging.h`, `paging.cpp`): page directory set-up,
mapping through the window of the page tables, and the frame allocator.

`Init` runs before paging and stores to physical memory. Everything that runs
later stores through an `Mmu`, so a page that is not present makes it fault.
The array behind `m_page_frame_database` is passed to the allocator as the
bytes it holds; the field keeps the pointer.
-/
namespace ShellcodeVM.GuestOS
open Machine

structure Pager where
  pageDir : Nat
  pageTableBase : Nat
  pageFrameMin : Nat
  pageFrameMax : Nat
  nextFreePageFrame : Nat
  pageFrameDatabase : Nat
  databaseUsable : Bool
deriving DecidableEq, Repr

/-! ### Macros over the window of the tables -/

/-- Where `GET_PDE` and `SET_PDE` find the entry of the directory. -/
def pdeAddr (addr : Nat) : Nat := (pageDirBase + 4 * (addr >>> 22)) % 2 ^ 32

/-- Where `GET_PTE` and `SET_PTE` find the entry of a page. -/
def pteAddr (addr : Nat) : Nat := (pageTableBase + 4 * (addr >>> 12)) % 2 ^ 32

/-- `GET_PAGE_TABLE(addr)`. -/
def getPageTable (addr : Nat) : Nat := (pageTableBase + (addr >>> 22) * pageSize) % 2 ^ 32

/-- `USER_SPACE(addr)`. -/
def userSpace (addr : Nat) : Bool := addr < kernelBase

namespace Pager

/-- `PAGER::PAGER()`. -/
def new : Pager where
  pageDir := 0
  pageTableBase := pageTablePhysicalAddr
  pageFrameMin := 0
  pageFrameMax := 0
  nextFreePageFrame := 0
  pageFrameDatabase := 0
  databaseUsable := false

/-! ### Frame allocation -/

/-- While there is no database, frames are taken off the bottom of the range. -/
def bump (p : Pager) (pages : Nat) : Nat × Pager :=
  let next := (p.pageFrameMin + pages) % 2 ^ 32
  (p.pageFrameMin * pageSize % 2 ^ 32,
    { p with pageFrameMin := next, nextFreePageFrame := next })

/-- `for (i = ..; i < ..; i++) if (database[i] == PAGE_FREE) ..`, as the first
free index among `n` indices from `i`. -/
def firstFree (database : Memory) : Nat → Nat → Option Nat
  | 0, _ => none
  | n + 1, i => if database i = pageFree then some i else firstFree database n (i + 1)

/-- What a search ends in: the address of the first frame of the run, with
`m_next_free_page_frame` at its end, or 0. -/
def grant (p : Pager) : Option (Nat × Nat) → Nat × Pager
  | some (i, j) => (i * pageSize % 2 ^ 32, { p with nextFreePageFrame := j })
  | none => (0, p)

/-- A grant moves the hint and nothing else. -/
theorem grant_snd (p : Pager) (found : Option (Nat × Nat)) :
    (p.grant found).2 = { p with nextFreePageFrame := (p.grant found).2.nextFreePageFrame } := by
  cases found <;> rfl

def allocPhysicalPage (database : Memory) (p : Pager) : Nat × Pager :=
  if p.databaseUsable then
    p.grant ((firstFree database (p.pageFrameMax - p.nextFreePageFrame) p.nextFreePageFrame).map
      fun i => (i, (i + 1) % 2 ^ 32))
  else p.bump 1

/-- The inner loop: the first index of `n` from `j` that is not free. -/
def freeRunEnd (database : Memory) : Nat → Nat → Nat
  | 0, j => j
  | n + 1, j => if database j = pageFree then freeRunEnd database n (j + 1) else j

/-- The outer loop over `n` indices from `i`. The condition of the source is an
assignment, so the end of the run that the inner loop found is overwritten. -/
def searchPages (database : Memory) (pages max : Nat) : Nat → Nat → Option (Nat × Nat)
  | 0, _ => none
  | n + 1, i =>
      if database i = pageFree then
        let runLimit := min ((i + pages) % 2 ^ 32) max
        let _found := freeRunEnd database (runLimit - (i + 1)) (i + 1)
        let j := (i + pages) % 2 ^ 32
        if j ≠ 0 then some (i, j) else searchPages database pages max n (i + 1)
      else searchPages database pages max n (i + 1)

def allocPhysicalPages (database : Memory) (p : Pager) (pages : Nat) : Nat × Pager :=
  if p.databaseUsable then
    p.grant (searchPages database pages p.pageFrameMax
      ((p.pageFrameMax + 2 ^ 32 - pages) % 2 ^ 32 - p.nextFreePageFrame) p.nextFreePageFrame)
  else p.bump pages

def freePhysicalPage (database : Memory) (p : Pager) (page : Nat) : Memory × Pager :=
  (write8 database page pageFree,
    if page < p.nextFreePageFrame then { p with nextFreePageFrame := page } else p)

def freePhysicalPages (database : Memory) (p : Pager) (startPage pages : Nat) : Memory × Pager :=
  (memset database startPage pageFree ((startPage + pages) % 2 ^ 32 - startPage),
    if startPage < p.nextFreePageFrame then { p with nextFreePageFrame := startPage } else p)

/-! ### Mapping -/

/-- The linear address of `page_table[pte_index]`. -/
def pteWindowAddress (virtualAddr : Nat) : Nat :=
  (pageTableVirtualAddr + pdeIndex virtualAddr * pageSize) % 2 ^ 32 + 4 * pteIndex virtualAddr

/-- The loop of `map_pages` and `unmap_pages`, which differ in the entry that
they store for the physical address reached. -/
def storeEntries (entry : Nat → Nat) : Nat → Mmu → Nat → Nat → Option Mmu
  | 0, u, _, _ => some u
  | n + 1, u, physicalAddr, virtualAddr => do
      let u ← u.store32 (pteWindowAddress virtualAddr) (entry physicalAddr)
      storeEntries entry n u ((physicalAddr + pageSize) % 2 ^ 32)
        ((virtualAddr + pageSize) % 2 ^ 32)

def mapPages (u : Mmu) (physicalAddr virtualAddr size : Nat)
    (protect : Nat := ptPresent ||| ptWritable) : Option Mmu :=
  let protect := protect ||| ptUser
  storeEntries (fun physicalAddr => physicalAddr ||| protect) (sizeToPages size) u
    physicalAddr virtualAddr

def unmapPages (u : Mmu) (virtualAddr size : Nat) : Option Mmu :=
  storeEntries (fun _ => 0) (sizeToPages size) u 0 virtualAddr

/-- `new_page_table`, with the linear address of the table that it returns. -/
def newPageTable (database : Memory) (p : Pager) (u : Mmu) (virtualAddress : Nat) :
    Option (Nat × Pager × Mmu) := do
  let (pageTablePA, p) := p.allocPhysicalPage database
  let val := pageTablePA ||| ptPresent ||| ptWritable
  let val := if userSpace virtualAddress then val ||| ptUser else val
  let u ← u.store32 (pdeAddr virtualAddress) val
  let pageTableVA := getPageTable virtualAddress
  let u ← u.memset pageTableVA 0 pageSize
  return (pageTableVA, p, u)

def createDatabase (database : Memory) (p : Pager) (u : Mmu) : Option (Pager × Mmu) := do
  let (databasePA, p) := p.allocPhysicalPages database (sizeToPages (mb 1))
  let u ← mapPages u databasePA pageFrameBase (mb 1)
  let u ← u.memset pageFrameBase pageFree (mb 1)
  return ({ p with nextFreePageFrame := p.pageFrameMin, databaseUsable := true }, u)

/-! ### Set-up before paging -/

def newPageDir (database m : Memory) (p : Pager) : Memory × Pager :=
  let (addr, p) := p.allocPhysicalPage database
  let m := memset m addr 0 pageSize
  let m := write32 m (addr + 4 * (pageTablePhysicalAddr >>> 22)) (addr ||| ptPresent ||| ptWritable)
  (m, { p with pageDir := addr })

/-- `page_table_0[i] = i | PT_PRESENT | PT_WRITABLE | PT_USER`. -/
def fillPageTable0 (m : Memory) (pageTable0 : Nat) : Nat → Memory
  | 0 => m
  | i + 1 => write32 (fillPageTable0 m pageTable0 i) (pageTable0 + 4 * i)
      (i ||| ptPresent ||| ptWritable ||| ptUser)

def identityPagingLowest4M (database m : Memory) (p : Pager) : Memory × Pager :=
  let (pageTable0, p) := p.allocPhysicalPage database
  let m := write32 m p.pageDir (pageTable0 ||| ptPresent ||| ptWritable)
  (fillPageTable0 m pageTable0 1024, p)

/-- The assignments at the start of `Init`. -/
def start (p : Pager) (pageFrameMin pageFrameMax : Nat) : Pager :=
  { p with
    pageTableBase := pageTablePhysicalAddr
    pageFrameMin := pageFrameMin
    pageFrameMax := pageFrameMax
    nextFreePageFrame := pageFrameMin
    databaseUsable := false }

/-- `Init`: the processor leaves it with paging on, under the new directory. -/
def init (database m : Memory) (p : Pager) (pageFrameMin pageFrameMax : Nat) : Pager × Mmu :=
  let p := p.start pageFrameMin pageFrameMax
  let (m, p) := newPageDir database m p
  let (m, p) := identityPagingLowest4M database m p
  (p, ⟨m, p.pageDir, []⟩)

end Pager
end ShellcodeVM.GuestOS
