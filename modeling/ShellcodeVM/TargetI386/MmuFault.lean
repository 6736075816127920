import ShellcodeVM.Lib.MarkedEntries

/-!
The page walk of the emulator (`target-i386/helper.c`): `cpu_x86_handle_mmu_fault`, which
fills the TLB or raises a page fault, and `cpu_get_phys_page_debug`, which only looks. These
are the branches for 32-bit paging, with pages of 4 KB and of 4 MB, and for paging off; the
branches for PAE and long mode and the exit to a nested hypervisor are left out. Every value
of these branches has 32 bits.
-/
namespace ShellcodeVM.TargetI386
open Machine

def pgPresentMask : Nat := 0x01
def pgRwMask : Nat := 0x02
def pgUserMask : Nat := 0x04
def pgAccessedMask : Nat := 0x20
def pgDirtyMask : Nat := 0x40
def pgPseMask : Nat := 0x80

def pgErrorPMask : Nat := 0x01
def pgErrorWBit : Nat := 1
def pgErrorUMask : Nat := 0x04

def cr0WpMask : Nat := 0x00010000
def cr0PgMask : Nat := 0x80000000
def cr4PseMask : Nat := 0x10

def excp0ePage : Nat := 14

def mmuUserIdx : Nat := 1

def pageRead : Nat := 1
def pageWrite : Nat := 2
def pageExec : Nat := 4

/-- `TARGET_PAGE_MASK`, on 32 bits. -/
def targetPageMask : Nat := 0xFFFFF000

/-- What `tlb_set_page` is given. -/
structure TlbEntry where
  vaddr : Nat
  paddr : Nat
  prot : Nat
  mmuIdx : Nat
  size : Nat
deriving DecidableEq, Repr

/-- The part of `CPUX86State` that the walk uses, and what has gone into the TLB since it
was flushed. -/
structure CpuX86State where
  mem : Memory
  cr0 : Nat
  cr2 : Nat
  cr3 : Nat
  cr4 : Nat
  a20Mask : Nat
  errorCode : Nat
  exceptionIndex : Nat
  tlb : List TlbEntry

namespace CpuX86State

def tlbSetPage (env : CpuX86State) (entry : TlbEntry) : CpuX86State :=
  { env with tlb := entry :: env.tlb }

/-- The statements between the reading of an entry and its use: the accessed bit is set,
and the dirty bit for the first store. -/
def markEntry (env : CpuX86State) (addr entry : Nat) (isDirty : Bool) : Nat × CpuX86State :=
  if entry &&& pgAccessedMask = 0 ∨ isDirty = true then
    let entry := entry ||| pgAccessedMask
    let entry := if isDirty then entry ||| pgDirtyMask else entry
    (entry, { env with mem := write32 env.mem addr entry })
  else (entry, env)

/-- The tests that lead to `do_fault_protect`. -/
def protectionFault (env : CpuX86State) (isUser isWrite : Bool) (ptep : Nat) : Bool :=
  if isUser then ptep &&& pgUserMask = 0 ∨ isWrite ∧ ptep &&& pgRwMask = 0
  else env.cr0 &&& cr0WpMask ≠ 0 ∧ isWrite ∧ ptep &&& pgRwMask = 0

/-- `do_fault`. -/
def doFault (env : CpuX86State) (addr : Nat) (isUser isWrite : Bool) (errorCode : Nat) :
    Nat × CpuX86State :=
  (1, { env with
    cr2 := addr
    errorCode := errorCode ||| (isWrite.toNat <<< pgErrorWBit) |||
      (if isUser then pgErrorUMask else 0)
    exceptionIndex := excp0ePage })

/-- The protection of a page that is put in the TLB; no entry of 32 bits has the bit that
forbids execution. -/
def pageProt (env : CpuX86State) (isUser : Bool) (pte ptep : Nat) : Nat :=
  let prot := pageRead ||| pageExec
  if pte &&& pgDirtyMask ≠ 0 then
    if isUser then
      if ptep &&& pgRwMask ≠ 0 then prot ||| pageWrite else prot
    else
      if env.cr0 &&& cr0WpMask = 0 ∨ ptep &&& pgRwMask ≠ 0 then prot ||| pageWrite else prot
  else prot

/-- `do_mapping`. -/
def doMapping (env : CpuX86State) (addr pte prot virtAddr pageSize mmuIdx : Nat) :
    Nat × CpuX86State :=
  let pte := pte &&& env.a20Mask
  let pageOffset := addr &&& targetPageMask &&& (pageSize - 1)
  (0, env.tlbSetPage
    { vaddr := virtAddr + pageOffset
      paddr := (pte &&& targetPageMask) + pageOffset
      prot := prot
      mmuIdx := mmuIdx
      size := pageSize })

def pdeAddr (env : CpuX86State) (addr : Nat) : Nat :=
  ((env.cr3 &&& 0xFFFFF000) + ((addr >>> 20) &&& 0xffc)) &&& env.a20Mask

def pteAddr (env : CpuX86State) (pde addr : Nat) : Nat :=
  ((pde &&& 0xFFFFF000) + ((addr >>> 10) &&& 0xffc)) &&& env.a20Mask

def largePage (env : CpuX86State) (pde : Nat) : Prop :=
  pde &&& pgPseMask ≠ 0 ∧ env.cr4 &&& cr4PseMask ≠ 0

instance (env : CpuX86State) (pde : Nat) : Decidable (env.largePage pde) :=
  inferInstanceAs (Decidable (_ ∧ _))

/-- The branch for a page of 4 MB. -/
def mapLarge (env : CpuX86State) (addr pde mmuIdx : Nat) (isUser isWrite : Bool) :
    Nat × CpuX86State :=
  if env.protectionFault isUser isWrite pde then env.doFault addr isUser isWrite pgErrorPMask
  else
    let isDirty : Bool := isWrite ∧ pde &&& pgDirtyMask = 0
    let marked := env.markEntry (env.pdeAddr addr) pde isDirty
    let pte := marked.1 &&& 0xFFC00FFF
    marked.2.doMapping addr pte (marked.2.pageProt isUser pte pte) (addr &&& 0xFFC00000)
      (4096 * 1024) mmuIdx

/-- The branch for a page of 4 KB, from the reading of the table entry on; `pde` is the
directory entry, marked. -/
def mapTableEntry (env : CpuX86State) (addr pde mmuIdx : Nat) (isUser isWrite : Bool) :
    Nat × CpuX86State :=
  let pte := read32 env.mem (env.pteAddr pde addr)
  if pte &&& pgPresentMask = 0 then env.doFault addr isUser isWrite 0
  else
    let ptep := pte &&& pde
    if env.protectionFault isUser isWrite ptep then env.doFault addr isUser isWrite pgErrorPMask
    else
      let isDirty : Bool := isWrite ∧ pte &&& pgDirtyMask = 0
      let marked := env.markEntry (env.pteAddr pde addr) pte isDirty
      marked.2.doMapping addr marked.1 (marked.2.pageProt isUser marked.1 ptep)
        (addr &&& 0xFFFFF000) 4096 mmuIdx

def mapSmall (env : CpuX86State) (addr pde mmuIdx : Nat) (isUser isWrite : Bool) :
    Nat × CpuX86State :=
  let marked := env.markEntry (env.pdeAddr addr) pde false
  marked.2.mapTableEntry addr marked.1 mmuIdx isUser isWrite

/-- `cpu_x86_handle_mmu_fault`, with the value it returns. -/
def handleMmuFault (env : CpuX86State) (addr isWrite1 mmuIdx : Nat) : Nat × CpuX86State :=
  let isUser : Bool := mmuIdx = mmuUserIdx
  let isWrite : Bool := isWrite1 &&& 1 ≠ 0
  if env.cr0 &&& cr0PgMask = 0 then
    env.doMapping addr addr (pageRead ||| pageWrite ||| pageExec) (addr &&& targetPageMask) 4096
      mmuIdx
  else
    let pde := read32 env.mem (env.pdeAddr addr)
    if pde &&& pgPresentMask = 0 then env.doFault addr isUser isWrite 0
    else if env.largePage pde then env.mapLarge addr pde mmuIdx isUser isWrite
    else env.mapSmall addr pde mmuIdx isUser isWrite

/-- `cpu_get_phys_page_debug`; `none` stands for -1. -/
def getPhysPageDebug (env : CpuX86State) (addr : Nat) : Option Nat :=
  let page (pte pageSize : Nat) : Nat :=
    (pte &&& env.a20Mask &&& targetPageMask) + (addr &&& targetPageMask &&& (pageSize - 1))
  if env.cr0 &&& cr0PgMask = 0 then some (page addr 4096)
  else
    let pde := read32 env.mem (env.pdeAddr addr)
    if pde &&& pgPresentMask = 0 then none
    else if env.largePage pde then some (page (pde &&& 0xFFC00FFF) (4096 * 1024))
    else
      let pte := read32 env.mem (env.pteAddr pde addr)
      if pte &&& pgPresentMask = 0 then none else some (page pte 4096)

end CpuX86State
end ShellcodeVM.TargetI386
