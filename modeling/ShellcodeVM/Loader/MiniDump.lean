import ShellcodeVM.Lib.Memory
import ShellcodeVM.Lib.MachineInt

/-!
`LoadMiniDump` of `main.cpp`, which copies the memory ranges of a dump into guest
RAM behind a table of `MEM_BLOCK_INFO`. The host is a 32-bit process. Guest RAM is
the block at `ram_base`: a pointer into it is kept as its offset from `ram_base`,
reduced as pointers are, and a store that leaves the block is a fault. The dump
is mapped elsewhere and is only read: a read outside its view is a fault too.
-/
namespace ShellcodeVM.Loader
open Machine

structure VmContext where
  ramBase : UInt32
  ramSize : UInt32
  ramUsed : UInt32
  bootStart : UInt32
  videoBufBase : UInt32
  videoBufSize : UInt32
  osPhyscialAddress : UInt32
  osVirtualAddress : UInt32
  osImageSize : UInt32
  osEntryPoint : UInt32
  shellcodeBase : UInt32
  shellcodeFileSize : UInt32
  shellcodeBufSize : UInt32
  memBlocks : UInt32
deriving DecidableEq, Repr

structure MemBlockInfo where
  physicalAddress : UInt32
  virtualAddress : UInt32
  size : UInt32
  flags : UInt32
deriving DecidableEq, Repr

/-- `sizeof(MEM_BLOCK_INFO)`. -/
def memBlockInfoSize : Nat := 16

def blockMiniDump : UInt32 := 2

/-- `PAGE_ALGIN_SIZE(size)`. -/
def pageAlginSize (size : UInt32) : UInt32 := (size + 4095) &&& 0xFFFFF000

structure MemoryDescriptor64 where
  startOfMemoryRange : UInt64
  dataSize : UInt64
deriving DecidableEq, Repr

/-- What is behind a `PMINIDUMP_MEMORY64_LIST`: the header at `address`, and as
descriptors whatever follows it. -/
structure Memory64List where
  address : UInt32
  numberOfMemoryRanges : UInt64
  baseRva : UInt64
  memoryRanges : Nat → MemoryDescriptor64

/-- An opened dump: where its view is, how long, the bytes of memory, and what
`MiniDumpReadDumpStream` answers when asked for the `Memory64ListStream`, with the
pointer that it stores. No view reaches the end of the address space. -/
structure WinMiniDump where
  mapBuf : UInt32
  size : Nat
  mapped : Memory
  readDumpStream : Bool × UInt32
  size_lt : mapBuf.toNat + size < 2 ^ 32

/-- `n` bytes at `p` are in the view. -/
def WinMiniDump.InView (dump : WinMiniDump) (p : UInt32) (n : Nat) : Prop :=
  dump.mapBuf.toNat ≤ p.toNat ∧ p.toNat + n ≤ dump.mapBuf.toNat + dump.size

instance (dump : WinMiniDump) (p : UInt32) (n : Nat) : Decidable (dump.InView p n) :=
  inferInstanceAs (Decidable (_ ∧ _))

def readUlong64 (m : Memory) (a : Nat) : UInt64 :=
  UInt64.ofNat (read32 m a + 2 ^ 32 * read32 m (a + 4))

/-- `sizeof(MINIDUMP_MEMORY_DESCRIPTOR64)`, and of the header of the list. -/
def memoryDescriptorSize : Nat := 16

/-- Where `mem_desc` points after `i` passes. -/
def descriptorAddress (address : UInt32) (i : Nat) : UInt32 :=
  address + UInt32.ofNat (memoryDescriptorSize * (i + 1))

/-- The list that a pointer points to. -/
def WinMiniDump.memory64List (dump : WinMiniDump) (address : UInt32) : Memory64List where
  address := address
  numberOfMemoryRanges := readUlong64 dump.mapped address.toNat
  baseRva := readUlong64 dump.mapped (address.toNat + 8)
  memoryRanges i :=
    { startOfMemoryRange := readUlong64 dump.mapped (descriptorAddress address i).toNat
      dataSize := readUlong64 dump.mapped ((descriptorAddress address i).toNat + 8) }

def WinMiniDump.getStream (dump : WinMiniDump) : Option Memory64List :=
  if dump.readDumpStream.1 ∧ dump.readDumpStream.2 ≠ 0 then
    some (dump.memory64List dump.readDumpStream.2)
  else none

def WinMiniDump.rvaToAddress (dump : WinMiniDump) (rva : UInt32) : UInt32 :=
  dump.mapBuf + rva

inductive Fault where
  | nullStream
  | outsideView
  | outsideRam
deriving DecidableEq, Repr

/-- The four stores to the fields of a table entry. -/
def writeBlockInfo (ram : Memory) (a : Nat) (info : MemBlockInfo) : Memory :=
  let ram := write32 ram a info.physicalAddress.toNat
  let ram := write32 ram (a + 4) info.virtualAddress.toNat
  let ram := write32 ram (a + 8) info.size.toNat
  write32 ram (a + 12) info.flags.toNat

/-- Where `mem_block_info[i]` is. -/
def blockInfoOffset (vm : VmContext) (i : Nat) : UInt32 :=
  vm.ramUsed + UInt32.ofNat (memBlockInfoSize * i)

def setBlockInfo (vm : VmContext) (ram : Memory) (i : Nat) (info : MemBlockInfo) :
    Except Fault Memory :=
  if (blockInfoOffset vm i).toNat + memBlockInfoSize ≤ vm.ramSize.toNat then
    .ok (writeBlockInfo ram (blockInfoOffset vm i).toNat info)
  else .error .outsideRam

/-- `memcpy((byte*)vm->ram_base + offset, src, size)`. -/
def copyToRam (vm : VmContext) (ram : Memory) (offset : UInt32) (src : Memory) (size : UInt32) :
    Except Fault Memory :=
  if size = 0 ∨ offset.toNat + size.toNat ≤ vm.ramSize.toNat then
    .ok (memcpy ram offset.toNat src size.toNat)
  else .error .outsideRam

/-- The running quantities of the loop. -/
structure Placement where
  dataBase : UInt32
  memBlockDataOffset : UInt32
  memBlockTotalSize : UInt32
deriving DecidableEq, Repr

/-- The bytes at `DataBase`, as the source of a `memcpy` of `size` bytes. -/
def Placement.source (p : Placement) (dump : WinMiniDump) (size : UInt32) :
    Except Fault Memory :=
  if size = 0 ∨ dump.InView p.dataBase size.toNat then
    .ok fun k => dump.mapped (p.dataBase + UInt32.ofNat k).toNat
  else .error .outsideView

def Placement.advance (p : Placement) (dataSize : UInt64) : Placement where
  dataBase := p.dataBase + dataSize.toUInt32
  memBlockDataOffset := p.memBlockDataOffset + dataSize.toUInt32
  memBlockTotalSize := p.memBlockTotalSize + dataSize.toUInt32

/-- What pass `i` records in the table. -/
def Placement.blockInfo (p : Placement) (desc : MemoryDescriptor64) : MemBlockInfo where
  physicalAddress := p.memBlockDataOffset
  virtualAddress := desc.startOfMemoryRange.toUInt32
  size := desc.dataSize.toUInt32
  flags := blockMiniDump

/-- `*mem_desc` in pass `i`. -/
def readDescriptor (dump : WinMiniDump) (list : Memory64List) (i : Nat) :
    Except Fault MemoryDescriptor64 :=
  if dump.InView (descriptorAddress list.address i) memoryDescriptorSize then
    .ok (list.memoryRanges i)
  else .error .outsideView

/-- One pass. All fields of the descriptor are read before the first is stored. -/
def loadRange (vm : VmContext) (dump : WinMiniDump) (list : Memory64List) (i : Nat)
    (p : Placement) (ram : Memory) : Except Fault (Placement × Memory) := do
  let desc ← readDescriptor dump list i
  let ram ← setBlockInfo vm ram i (p.blockInfo desc)
  let src ← p.source dump desc.dataSize.toUInt32
  let ram ← copyToRam vm ram p.memBlockDataOffset src desc.dataSize.toUInt32
  return (p.advance desc.dataSize, ram)

/-- The first `n` passes of the loop. -/
def loadRanges (vm : VmContext) (dump : WinMiniDump) (list : Memory64List) (p : Placement)
    (ram : Memory) : Nat → Except Fault (Placement × Memory)
  | 0 => .ok (p, ram)
  | n + 1 => do
      let (p, ram) ← loadRanges vm dump list p ram n
      loadRange vm dump list n p ram

/-- The size of the table, from the 32-bit count. -/
def memBlockListSize (list : Memory64List) : UInt32 :=
  pageAlginSize (list.numberOfMemoryRanges.toUInt32 * UInt32.ofNat memBlockInfoSize)

/-- The running quantities before the first pass. -/
def firstPlacement (vm : VmContext) (dump : WinMiniDump) (list : Memory64List) : Placement where
  dataBase := dump.rvaToAddress list.baseRva.toUInt32
  memBlockDataOffset := vm.ramUsed + memBlockListSize list
  memBlockTotalSize := memBlockListSize list

/-- `BaseRva` and `NumberOfMemoryRanges` of the list are read. -/
def readHeader (dump : WinMiniDump) (list : Memory64List) : Except Fault Unit :=
  if dump.InView list.address memoryDescriptorSize then .ok () else .error .outsideView

/-- `LoadMiniDump`; the file is `none` when `Open` fails. The counter is an `int`. -/
def loadMiniDump (vm : VmContext) (ram : Memory) :
    Option WinMiniDump → Except Fault (Bool × VmContext × Memory)
  | none => .ok (false, vm, ram)
  | some dump =>
      match dump.getStream with
      | none => .error .nullStream
      | some list => do
          readHeader dump list
          let vm := { vm with memBlocks := list.numberOfMemoryRanges.toUInt32 }
          let (p, ram) ← loadRanges vm dump list (firstPlacement vm dump list) ram
            (intPasses list.numberOfMemoryRanges.toNat)
          return (true, { vm with ramUsed := vm.ramUsed + p.memBlockTotalSize }, ram)

end ShellcodeVM.Loader
