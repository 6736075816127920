import ShellcodeVM.Lib.Checked
import ShellcodeVM.Lib.Memory

/-!
`WinMiniDump::DumpHeader` and `DumpDirectory`, with the list walkers, on a mapped file
(`WinMiniDump.cpp`). The structures are those of `DbgHelp.h`, packed to four bytes; the
host is a 32-bit process, so a pointer is its offset in the file reduced to 32 bits. A
read outside the file is a fault. A loop's counter is an `int`, and every pass reads an
entry of its own, so that it cannot overflow inside a file.
-/
namespace ShellcodeVM.Loader
open Machine

/-- A mapped file. No view includes the first 64 KiB of the address space. -/
structure MappedFile where
  bytes : Memory
  size : Nat
  size_le : size + 2 ^ 16 ≤ 2 ^ 32

inductive DumpFault where
  | outsideFile
deriving DecidableEq, Repr

/-- A little-endian field of some width. -/
def readLe (m : Memory) (a : Nat) : Nat → Nat
  | 0 => 0
  | width + 1 => (m a).toNat + 256 * readLe m (a + 1) width

/-- What the functions print. -/
inductive Printed where
  | header (version numberOfStreams streamDirectoryRva flags : Nat)
  | streamType (type : Nat)
  | thread (threadId : Nat)
  | module (baseOfImage sizeOfImage : Nat) (name : List Nat)
  | memory (index start end_ size : Nat)
  | memoryInfo (count start end_ size type protect : Nat)
  | memSize (size : Nat)
deriving DecidableEq, Repr

namespace MappedFile

def field (f : MappedFile) (offset width : Nat) : Nat := readLe f.bytes offset width

/-- A field behind a pointer. -/
def read (f : MappedFile) (p width : Nat) : Except DumpFault Nat :=
  check (p % 2 ^ 32 + width ≤ f.size) .outsideFile (f.field (p % 2 ^ 32) width)

/-- The characters up to a NUL, as `%ws` reads them. -/
def wideString (f : MappedFile) (offset : Nat) : Except DumpFault (List Nat) :=
  if offset + 2 ≤ f.size then
    if f.field offset 2 = 0 then .ok []
    else do
      let rest ← wideString f (offset + 2)
      return f.field offset 2 :: rest
  else .error .outsideFile
termination_by f.size - offset

/-- `WinMiniDump::DumpHeader` -/
def dumpHeader (f : MappedFile) : Except DumpFault (List Printed) := do
  let version ← f.read 4 4
  let numberOfStreams ← f.read 8 4
  let streamDirectoryRva ← f.read 12 4
  let flags ← f.read 24 8
  return [.header version numberOfStreams streamDirectoryRva flags]

/-- `WinMiniDump::DumpThreadList` -/
def dumpThreadList (f : MappedFile) (dir : Nat) (out : List Printed) :
    Except DumpFault (List Printed) := do
  let rva ← f.read (dir + 8) 4
  let numberOfThreads ← f.read rva 4
  passes (fun out i => do
    let threadId ← f.read (rva + 4 + 48 * i) 4
    return out ++ [.thread threadId]) out numberOfThreads

/-- `WinMiniDump::DumpModuleList` -/
def dumpModuleList (f : MappedFile) (dir : Nat) (out : List Printed) :
    Except DumpFault (List Printed) := do
  let rva ← f.read (dir + 8) 4
  let numberOfModules ← f.read rva 4
  passes (fun out i => do
    let moduleNameRva ← f.read (rva + 4 + 108 * i + 20) 4
    let baseOfImage ← f.read (rva + 4 + 108 * i) 8
    let sizeOfImage ← f.read (rva + 4 + 108 * i + 8) 4
    let name ← f.wideString ((moduleNameRva + 4) % 2 ^ 32)
    return out ++ [.module (baseOfImage % 2 ^ 32) sizeOfImage name]) out numberOfModules

/-- `WinMiniDump::DumpMemoryList` -/
def dumpMemoryList (f : MappedFile) (dir : Nat) (out : List Printed) :
    Except DumpFault (List Printed) := do
  let rva ← f.read (dir + 8) 4
  let numberOfMemoryRanges ← f.read rva 4
  let (out, memSize) ← passes (fun (out, memSize) i => do
    let start ← f.read (rva + 4 + 16 * i) 8
    let size ← f.read (rva + 4 + 16 * i + 8) 4
    return (out ++ [.memory i (start % 2 ^ 32) ((start + size) % 2 ^ 32) size], memSize + size))
    (out, 0) numberOfMemoryRanges
  return out ++ [.memSize memSize]

/-- `WinMiniDump::DumpMemory64List` -/
def dumpMemory64List (f : MappedFile) (dir : Nat) (out : List Printed) :
    Except DumpFault (List Printed) := do
  let rva ← f.read (dir + 8) 4
  let numberOfMemoryRanges ← f.read rva 8
  let (out, memSize) ← passes (fun (out, memSize) i => do
    let start ← f.read (rva + 16 + 16 * i) 8
    let size ← f.read (rva + 16 + 16 * i + 8) 8
    return (out ++ [.memory i start ((start + size) % 2 ^ 64) size], (memSize + size) % 2 ^ 64))
    (out, 0) numberOfMemoryRanges
  return out ++ [.memSize memSize]

/-- `MEM_COMMIT` -/
def memCommit : Nat := 0x1000

/-- The entry of a committed region; `count` and `mem_size` go on with it. -/
def dumpCommitted (f : MappedFile) (memInfo : Nat) (out : List Printed × Nat × Nat) :
    Except DumpFault (List Printed × Nat × Nat) := do
  let (out, count, memSize) := out
  let baseAddress ← f.read memInfo 8
  let regionSize ← f.read (memInfo + 24) 8
  let type ← f.read (memInfo + 40) 4
  let protect ← f.read (memInfo + 36) 4
  return (out ++ [.memoryInfo count (baseAddress % 2 ^ 32) ((baseAddress + regionSize) % 2 ^ 32)
    (regionSize % 2 ^ 32) type protect], count + 1, (memSize + regionSize) % 2 ^ 64)

/-- `WinMiniDump::DumpMemoryInfoList` -/
def dumpMemoryInfoList (f : MappedFile) (dir : Nat) (out : List Printed) :
    Except DumpFault (List Printed) := do
  let rva ← f.read (dir + 8) 4
  let numberOfEntries ← f.read (rva + 8) 8
  let (out, _, memSize) ← passes (fun out i => do
    let memInfo := (rva + 16 + 48 * i) % 2 ^ 32
    let state ← f.read (memInfo + 32) 4
    if state &&& memCommit = 0 then return out
    else f.dumpCommitted memInfo out) (out, 0, 0) numberOfEntries
  return out ++ [.memSize memSize]

/-- The stream types whose `case` calls a walker. -/
def threadListStream : Nat := 3
def moduleListStream : Nat := 4
def memoryListStream : Nat := 5
def memory64ListStream : Nat := 9
def memoryInfoListStream : Nat := 16

/-- The `switch` of `DumpDirectory`. The other cases print the type only. -/
def dumpStream (f : MappedFile) (dir streamType : Nat) (out : List Printed) :
    Except DumpFault (List Printed) :=
  if streamType = threadListStream then f.dumpThreadList dir out
  else if streamType = moduleListStream then f.dumpModuleList dir out
  else if streamType = memoryListStream then f.dumpMemoryList dir out
  else if streamType = memory64ListStream then f.dumpMemory64List dir out
  else if streamType = memoryInfoListStream then f.dumpMemoryInfoList dir out
  else .ok out

/-- A pass of `DumpDirectory`. -/
def dumpEntry (f : MappedFile) (streamDirectoryRva : Nat) (out : List Printed) (i : Nat) :
    Except DumpFault (List Printed) := do
  let dir := streamDirectoryRva + 12 * i
  let streamType ← f.read dir 4
  f.dumpStream dir streamType (out ++ [.streamType streamType])

/-- `WinMiniDump::DumpDirectory` -/
def dumpDirectory (f : MappedFile) : Except DumpFault (List Printed) := do
  let streamDirectoryRva ← f.read 12 4
  let numberOfStreams ← f.read 8 4
  passes (f.dumpEntry streamDirectoryRva) [] numberOfStreams

end MappedFile
end ShellcodeVM.Loader
