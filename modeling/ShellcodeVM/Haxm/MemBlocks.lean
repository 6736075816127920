import ShellcodeVM.Lib.AssocMap

/-!
The memory blocks of a `HAXM_VM` (`HAXM_VM.h`): the table that `hax_populate_ram` and
`hax_set_phys_mem` keep, and the two translations that scan it. Addresses are numbers
below `2^64`; sums are reduced where the code adds `UINT64`s. Whether a request to
the driver succeeds is an argument.
-/
namespace ShellcodeVM.Haxm
open Machine

structure VmMemBlock where
  hostVirtualAddress : Nat
  guestPhysicalAddrress : Nat
  size : Nat
deriving DecidableEq, Repr

/-- `m_mem_blocks`. -/
abbrev MemBlocks := List (Nat × VmMemBlock)

/-- What `HAX_VM_IOCTL_ALLOC_RAM` is given. -/
structure HaxAllocRamInfo where
  size : Nat
  va : Nat
deriving DecidableEq, Repr

/-- What `HAX_VM_IOCTL_SET_RAM` is given. -/
structure HaxSetRamInfo where
  paStart : Nat
  size : Nat
  va : Nat
deriving DecidableEq, Repr

/-- `hax_populate_ram`, with the request that it made successfully. -/
def haxPopulateRam (blocks : MemBlocks) (hostVirtualAddr size : Nat) (ioctl : Bool) :
    Bool × MemBlocks × Option HaxAllocRamInfo :=
  match valueOf hostVirtualAddr blocks with
  | some _ => (false, blocks, none)
  | none =>
      if ioctl = false then (false, blocks, none)
      else
        (true, assign hostVirtualAddr ⟨hostVirtualAddr, 0, size⟩ blocks,
          some ⟨size, hostVirtualAddr⟩)

/-- `hax_set_phys_mem`, with the request that it made successfully. -/
def haxSetPhysMem (blocks : MemBlocks) (guestPhysicalAddr : Nat) (size : Int)
    (hostVirtualAddr : Nat) (ioctl : Bool) : Bool × MemBlocks × Option HaxSetRamInfo :=
  match valueOf hostVirtualAddr blocks with
  | none => (false, blocks, none)
  | some block =>
      if block.guestPhysicalAddrress ≠ 0 then (false, blocks, none)
      else
        let info : HaxSetRamInfo := ⟨guestPhysicalAddr, (size % 2 ^ 32).toNat, hostVirtualAddr⟩
        if ioctl = false then (false, blocks, none)
        else
          (true, assign hostVirtualAddr
            { block with guestPhysicalAddrress := guestPhysicalAddr } blocks, some info)

/-- The scan of both translations: the first block that contains the address. -/
def translate (source target : VmMemBlock → Nat) : MemBlocks → Nat → Nat
  | [], _ => 0
  | (_, block) :: blocks, addr =>
      let startAddr := source block
      let endAddr := (source block + block.size) % 2 ^ 64
      if startAddr ≤ addr ∧ addr < endAddr then
        let offset := addr - source block
        (target block + offset) % 2 ^ 64
      else translate source target blocks addr

def gpaToHva : MemBlocks → Nat → Nat :=
  translate VmMemBlock.guestPhysicalAddrress VmMemBlock.hostVirtualAddress

def hvaToGpa : MemBlocks → Nat → Nat :=
  translate VmMemBlock.hostVirtualAddress VmMemBlock.guestPhysicalAddrress

end ShellcodeVM.Haxm
