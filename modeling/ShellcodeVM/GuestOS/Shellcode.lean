import ShellcodeVM.Lib.LinkedList
import ShellcodeVM.Lib.StackWords

/-!
`clone_PEB_Module_list` of `Shellcode.h`. The process environment is read from the memory
of a 32-bit process; what the function fills is an object of its own, with pointers to
its own parts kept apart from the addresses that it copies.
-/
namespace ShellcodeVM.GuestOS
open Machine

/-- The three lists that a module is in. -/
inductive ModuleOrder where
  | load | memory | initialization
deriving DecidableEq, Repr

/-- A pointer in the object: a copied address, or a part of the object itself. -/
inductive Ptr where
  | process (a : UInt32)
  | peb
  | pebLdrData
  | head (order : ModuleOrder)
  | clone (i : Fin 5) (order : ModuleOrder)
deriving DecidableEq, Repr

/-- `LIST_ENTRY` -/
structure ListEntry where
  flink : Ptr
  blink : Ptr
deriving DecidableEq, Repr

/-- The three entries that `PEB_LDR_DATA` and `LDR_MODULE` have one after the other. -/
structure ModuleLinks where
  inLoadOrderModuleList : ListEntry
  inMemoryOrderModuleList : ListEntry
  inInitializationOrderModuleList : ListEntry
deriving DecidableEq, Repr

structure PebLdrData where
  dwLength : UInt32
  dwInitialized : UInt32
  lpSsHandle : Ptr
  links : ModuleLinks
  lpEntryInProgress : Ptr
deriving DecidableEq, Repr

structure Peb where
  bInheritedAddressSpace : UInt8
  bReadImageFileExecOptions : UInt8
  bBeingDebugged : UInt8
  bSpareBool : UInt8
  lpMutant : Ptr
  lpImageBaseAddress : Ptr
  pLdr : Ptr
deriving DecidableEq, Repr

structure UnicodeStr where
  length : UInt16
  maximumLength : UInt16
  pBuffer : Ptr
deriving DecidableEq, Repr

/-- The fields of `LDR_MODULE` behind its links. -/
structure LdrModuleData where
  baseAddress : Ptr
  entryPoint : Ptr
  sizeOfImage : UInt32
  fullDllName : UnicodeStr
  baseDllName : UnicodeStr
  flags : UInt32
  loadCount : UInt16
  tlsIndex : UInt16
  hashTableEntry : ListEntry
  timeDateStamp : UInt32
deriving DecidableEq, Repr

structure LdrModule where
  links : ModuleLinks
  data : LdrModuleData
deriving DecidableEq, Repr

/-- `DUMMY_PEB_MODULE_LIST` -/
structure DummyPebModuleList where
  ppeb : Ptr
  peb : Peb
  pebLdrData : PebLdrData
  kernel32Modules : Fin 5 → LdrModule

/-! ### Reading the process -/

def loadPtr (m : Memory32) (a : UInt32) : Ptr := .process (load32 m a)

def ListEntry.read (m : Memory32) (a : UInt32) : ListEntry where
  flink := loadPtr m a
  blink := loadPtr m (a + 4)

def ModuleLinks.read (m : Memory32) (a : UInt32) : ModuleLinks where
  inLoadOrderModuleList := ListEntry.read m a
  inMemoryOrderModuleList := ListEntry.read m (a + 8)
  inInitializationOrderModuleList := ListEntry.read m (a + 16)

def PebLdrData.read (m : Memory32) (a : UInt32) : PebLdrData where
  dwLength := load32 m a
  dwInitialized := load32 m (a + 4)
  lpSsHandle := loadPtr m (a + 8)
  links := ModuleLinks.read m (a + 12)
  lpEntryInProgress := loadPtr m (a + 36)

def Peb.read (m : Memory32) (a : UInt32) : Peb where
  bInheritedAddressSpace := m a
  bReadImageFileExecOptions := m (a + 1)
  bBeingDebugged := m (a + 2)
  bSpareBool := m (a + 3)
  lpMutant := loadPtr m (a + 4)
  lpImageBaseAddress := loadPtr m (a + 8)
  pLdr := loadPtr m (a + 12)

def UnicodeStr.read (m : Memory32) (a : UInt32) : UnicodeStr where
  length := load16 m a
  maximumLength := load16 m (a + 2)
  pBuffer := loadPtr m (a + 4)

def LdrModuleData.read (m : Memory32) (a : UInt32) : LdrModuleData where
  baseAddress := loadPtr m (a + 24)
  entryPoint := loadPtr m (a + 28)
  sizeOfImage := load32 m (a + 32)
  fullDllName := UnicodeStr.read m (a + 36)
  baseDllName := UnicodeStr.read m (a + 44)
  flags := load32 m (a + 52)
  loadCount := load16 m (a + 56)
  tlsIndex := load16 m (a + 58)
  hashTableEntry := ListEntry.read m (a + 60)
  timeDateStamp := load32 m (a + 68)

def LdrModule.read (m : Memory32) (a : UInt32) : LdrModule where
  links := ModuleLinks.read m a
  data := LdrModuleData.read m a

/-! ### The search -/

/-- `tolower` in the C locale. -/
def toLower (c : Nat) : Nat := if 0x41 ≤ c ∧ c ≤ 0x5A then c + 0x20 else c

/-- `_memicmp` with a constant: the difference at the first bytes that differ. -/
def memicmp (m : Memory32) (a : UInt32) : List Nat → Int
  | [] => 0
  | b :: rest =>
      if toLower (m a).toNat = toLower b then memicmp m (a + 1) rest
      else toLower (m a).toNat - toLower b

/-- `"kernel32.dll"` -/
def kernel32Name : List Nat := [107, 101, 114, 110, 101, 108, 51, 50, 46, 100, 108, 108]

/-- The bytes of a wide string of such characters. -/
def wideBytes (name : List Nat) : List Nat := name.flatMap fun c => [c, 0]

/-- `CONTAINING_RECORD(pLink, LDR_MODULE, InMemoryOrderModuleList)` -/
def containingModule (pLink : UInt32) : UInt32 := pLink - 8

/-- `BaseDllName.Length` and `BaseDllName.pBuffer` of a module. -/
def nameLength (m : Memory32) (pModule : UInt32) : UInt16 := load16 m (pModule + 44)
def nameBuffer (m : Memory32) (pModule : UInt32) : UInt32 := load32 m (pModule + 48)

/-- The test of the loop. -/
def matchesKernel32 (m : Memory32) (pModule : UInt32) : Bool :=
  (nameLength m pModule).toNat = 24 ∧ memicmp m (nameBuffer m pModule) (wideBytes kernel32Name) = 0

/-- A pass of the loop, with `moduleKernel32` so far. -/
def visitModule (m : Memory32) (moduleKernel32 : Option UInt32) (pLink : UInt32) :
    Option UInt32 ⊕ Option UInt32 :=
  let pModule := containingModule pLink
  if nameBuffer m pModule = 0 then .inr moduleKernel32
  else .inl (if matchesKernel32 m pModule then some pModule else moduleKernel32)

/-- `pPeb->pLdr` -/
def ldrData (m : Memory32) (pPeb : UInt32) : UInt32 := load32 m (pPeb + 12)

/-- `&pPebLdrData->InMemoryOrderModuleList` -/
def memoryOrderHead (m : Memory32) (pPeb : UInt32) : UInt32 := ldrData m pPeb + 20

/-- At most `passes` passes of the loop. -/
def findKernel32 (m : Memory32) (pPeb : UInt32) (passes : Nat) : Option (Option UInt32) :=
  iterate (followStep (load32 m) (memoryOrderHead m pPeb) (visitModule m)) passes
    (load32 m (memoryOrderHead m pPeb), none)

/-! ### The clones -/

/-- The three assignments to `Flink` that the code has together each time. -/
def ModuleLinks.setFlinks (links : ModuleLinks) (target : ModuleOrder → Ptr) : ModuleLinks where
  inLoadOrderModuleList := { links.inLoadOrderModuleList with flink := target .load }
  inMemoryOrderModuleList := { links.inMemoryOrderModuleList with flink := target .memory }
  inInitializationOrderModuleList :=
    { links.inInitializationOrderModuleList with flink := target .initialization }

def ModuleLinks.setBlinks (links : ModuleLinks) (target : ModuleOrder → Ptr) : ModuleLinks where
  inLoadOrderModuleList := { links.inLoadOrderModuleList with blink := target .load }
  inMemoryOrderModuleList := { links.inMemoryOrderModuleList with blink := target .memory }
  inInitializationOrderModuleList :=
    { links.inInitializationOrderModuleList with blink := target .initialization }

/-- A pass of the second loop. -/
def cloneModule (moduleKernel32 : LdrModule) (modules : Fin 5 → LdrModule) (i : Fin 5) :
    Fin 5 → LdrModule :=
  let modules := Function.update modules i moduleKernel32
  let modules := Function.update modules i { modules i with
    links := (modules i).links.setBlinks (if i = 0 then .head else .clone (i - 1)) }
  Function.update modules i { modules i with
    links := (modules i).links.setFlinks (if i = 4 then .head else .clone (i + 1)) }

/-- What a pass makes of its module: a copy with its links set to its neighbours. -/
def clonedModule (moduleKernel32 : LdrModule) (i : Fin 5) : LdrModule where
  links := (moduleKernel32.links.setBlinks (if i = 0 then .head else .clone (i - 1))).setFlinks
    (if i = 4 then .head else .clone (i + 1))
  data := moduleKernel32.data

def nullEntry : ListEntry := ⟨.process 0, .process 0⟩

def nullName : UnicodeStr := ⟨0, 0, .process 0⟩

/-- What `memset` makes of a module. -/
def zeroModule : LdrModule where
  links := ⟨nullEntry, nullEntry, nullEntry⟩
  data := ⟨.process 0, .process 0, 0, nullName, nullName, 0, 0, 0, nullEntry, 0⟩

/-- `clone_PEB_Module_list` once the search is over. -/
def fillModuleList (m : Memory32) (pPeb moduleKernel32 : UInt32) : DummyPebModuleList where
  ppeb := .peb
  peb := { Peb.read m pPeb with pLdr := .pebLdrData }
  pebLdrData :=
    let data := PebLdrData.read m (ldrData m pPeb)
    { data with links := (data.links.setFlinks (.clone 0)).setBlinks (.clone 4) }
  kernel32Modules :=
    (List.finRange 5).foldl (cloneModule (LdrModule.read m moduleKernel32)) fun _ => zeroModule

/-- `clone_PEB_Module_list`, with at most `passes` passes of the search. There is no
result when the search goes on, or has found nothing to copy. -/
def clonePebModuleList (m : Memory32) (teb : UInt32) (passes : Nat) :
    Option DummyPebModuleList := do
  let pPeb := load32 m (teb + 0x30)
  let found ← findKernel32 m pPeb passes
  let moduleKernel32 ← found
  return fillModuleList m pPeb moduleKernel32

end ShellcodeVM.GuestOS
