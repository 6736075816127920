import ShellcodeVM.Lib.Memory
import ShellcodeVM.Lib.MachineInt
import ShellcodeVM.Lib.HintPool

/-!
The host's `page_frame_database` (`VM/page_frame.cpp`), with its `int` loop
counters over `uint64_t` bounds.

`m_page_frame_map` is taken to be the `m_page_frame_max` bytes that `Init`
clears; that `new uint8_t(n)` reserves a single byte for them is not modelled.
-/
namespace ShellcodeVM.VM
open Machine Frames

def pageSize : Nat := 0x1000

def mb (x : Nat) : Nat := x <<< 20

def sizeToPages (size : Nat) : Nat := ((size + pageSize - 1) % 2 ^ 64) >>> 12

def pageFrameFree : UInt8 := 0

structure PageFrameDatabase where
  memSize : Nat
  pageFrameMin : Nat
  pageFrameMax : Nat
  nextFreePageFrame : Nat
  pageFrameMap : Memory

namespace PageFrameDatabase

/-- The constructor. `fresh` is the memory that `Init` gets its map from. -/
def new (fresh : Memory) : PageFrameDatabase := ⟨0, 0, 0, 0, fresh⟩

/-- `i*PAGE_SIZE` is a product of two `int`s. -/
def frameAddress (i : Int) : Nat := toUInt64 (toInt32 (i * pageSize))

def firstFree (map : Memory) (max : Nat) : Nat → Int → Option Int
  | 0, _ => none
  | n + 1, i =>
      if toUInt64 i < max then
        if map (toUInt64 i) = pageFrameFree then some i
        else firstFree map max n (toInt32 (i + 1))
      else none

/-- What a search ends in: the address of the first frame of the run, with
`m_next_free_page_frame` at its end, or 0. -/
def grant (db : PageFrameDatabase) : Option (Int × Int) → Nat × PageFrameDatabase
  | some (i, j) => (frameAddress i, { db with nextFreePageFrame := toUInt64 j })
  | none => (0, db)

def allocPhysicalPage (db : PageFrameDatabase) : Nat × PageFrameDatabase :=
  db.grant ((firstFree db.pageFrameMap db.pageFrameMax (intPasses db.pageFrameMax)
    (toInt32 db.nextFreePageFrame)).map fun i => (i, toInt32 (i + 1)))

/-- The inner loop of `alloc_physical_pages`. -/
def freeRunEnd (map : Memory) (limit max : Nat) : Nat → Int → Int
  | 0, j => j
  | n + 1, j =>
      if toUInt64 j < limit ∧ toUInt64 j < max ∧ map (toUInt64 j) = pageFrameFree then
        freeRunEnd map limit max n (toInt32 (j + 1))
      else j

/-- The outer loop. Its last condition is an assignment, so the end of the run
that the inner loop found is overwritten. -/
def searchPages (map : Memory) (pages max bound : Nat) : Nat → Int → Option (Int × Int)
  | 0, _ => none
  | n + 1, i =>
      if toUInt64 i < bound then
        if map (toUInt64 i) = pageFrameFree then
          let limit := (toUInt64 i + pages) % 2 ^ 64
          let _found := freeRunEnd map limit max (intPasses max) (toInt32 (i + 1))
          let j := toInt32 limit
          if j ≠ 0 then some (i, j) else searchPages map pages max bound n (toInt32 (i + 1))
        else searchPages map pages max bound n (toInt32 (i + 1))
      else none

def allocPhysicalPages (db : PageFrameDatabase) (pages : Nat) : Nat × PageFrameDatabase :=
  let bound := (db.pageFrameMax + 2 ^ 64 - pages) % 2 ^ 64
  db.grant (searchPages db.pageFrameMap pages db.pageFrameMax bound (intPasses bound)
    (toInt32 db.nextFreePageFrame))

def freePhysicalPage (db : PageFrameDatabase) (page : Nat) : PageFrameDatabase :=
  { db with
    pageFrameMap := write8 db.pageFrameMap page pageFrameFree
    nextFreePageFrame := if page < db.nextFreePageFrame then page else db.nextFreePageFrame }

def freePhysicalPages (db : PageFrameDatabase) (startPage pages : Nat) : PageFrameDatabase :=
  let count := (startPage + pages) % 2 ^ 64 - startPage
  { db with
    pageFrameMap := memset db.pageFrameMap startPage pageFrameFree count
    nextFreePageFrame :=
      if db.nextFreePageFrame > startPage then startPage else db.nextFreePageFrame }

/-- `Init` up to the call of `new_page_dir`. -/
def cleared (db : PageFrameDatabase) (memSize : Nat) : PageFrameDatabase :=
  { db with
    memSize := memSize
    pageFrameMin := sizeToPages (mb 4)
    pageFrameMax := sizeToPages memSize
    nextFreePageFrame := 0
    pageFrameMap := memset db.pageFrameMap 0 0 (sizeToPages memSize) }

/-- `Init`: the call to `pager->new_page_dir()` takes one frame from this
database, the frame of the page directory. -/
def init (db : PageFrameDatabase) (memSize : Nat) : Nat × PageFrameDatabase :=
  (db.cleared memSize).allocPhysicalPage

def allocator : Allocator PageFrameDatabase :=
  ⟨allocPhysicalPage, allocPhysicalPages, freePhysicalPage, freePhysicalPages⟩

end PageFrameDatabase
end ShellcodeVM.VM
