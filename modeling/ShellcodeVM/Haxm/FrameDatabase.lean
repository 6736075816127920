import ShellcodeVM.Lib.Memory
import ShellcodeVM.Lib.MachineInt
import ShellcodeVM.Lib.Loop

/-!
The frame database of `HAXM_VM` (`HAXM_VM.h`): one byte per frame, at guest
physical address 0. The model is of the bytes of guest RAM from there on; the loops test no
bound of the database, so they go on behind it until they leave the RAM. The RAM of the
32-bit host is smaller than the indices that an `int` holds.
-/
namespace ShellcodeVM.Haxm
open Machine

def frameDatabaseSize : Nat := 0x00100000

def pageFree : UInt8 := 0
def pageUsed : UInt8 := 1

/-- `PAGE_INDEX(addr)`, assigned to an `int`. -/
def pageIndex (addr : Nat) : Int := toInt32 (addr >>> 12)

/-- `PAGE_ADDRESS(page_index)`. -/
def pageAddress (index : Nat) : Nat := (index <<< 12) % 2 ^ 32

inductive Fault where
  | outside
deriving DecidableEq, Repr

/-- What the search ends in: the run is marked and its address returned, or 0. -/
def claim (db : Memory) (pages : Nat) : Option Nat → Nat × Memory
  | some i => (pageAddress i, memset db i pageUsed pages)
  | none => (0, db)

/-! ### The calls, in a RAM of a given size -/

namespace Ram

/-- The inner loop of the search: `frame_db_hva[i + j]` for `n` values from `j`.
It stops at the first frame that is not free. -/
def scan (ramSize : Nat) (db : Memory) (i : Nat) : Nat → Nat → Except Fault Nat
  | 0, j => .ok j
  | n + 1, j =>
      if i + j < ramSize then
        if db (i + j) ≠ pageFree then .ok j else scan ramSize db i n (j + 1)
      else .error .outside

/-- One pass of the outer loop. After a run that is too short the index is set
to the inner count, `i = j`, before `i++`. -/
def searchStep (ramSize : Nat) (db : Memory) (pages i : Nat) : Nat ⊕ Except Fault (Option Nat) :=
  if i < frameDatabaseSize then
    if i < ramSize then
      if db i = pageFree then
        match scan ramSize db i (pages - 1) 1 with
        | .error fault => .inr (.error fault)
        | .ok j => if j = pages then .inr (.ok (some i)) else .inl (j + 1)
      else .inl (i + 1)
    else .inr (.error .outside)
  else .inr (.ok none)

/-- `alloc_physical_pages(int)`, with at most `fuel` passes of its outer loop. -/
def allocPhysicalPages (ramSize fuel : Nat) (db : Memory) (pages : Nat) :
    Option (Except Fault (Nat × Memory)) :=
  (iterate (searchStep ramSize db pages) fuel 0).map fun found => found.map (claim db pages)

/-- The test of the fixed-address version: are all of `n` frames from `index` free? -/
def allFree (ramSize : Nat) (db : Memory) : Nat → Int → Except Fault Bool
  | 0, _ => .ok true
  | n + 1, index =>
      if 0 ≤ index ∧ index < ramSize then
        if db index.toNat ≠ pageFree then .ok false else allFree ramSize db n (index + 1)
      else .error .outside

/-- `alloc_physical_pages(UINT64, int)`. A negative count makes `memset` leave
the RAM, so counts are natural numbers. -/
def allocPhysicalPagesAt (ramSize : Nat) (db : Memory) (guestPhysicalAddr pages : Nat) :
    Except Fault (Nat × Memory) := do
  let pageIndex := pageIndex guestPhysicalAddr
  if ← allFree ramSize db pages pageIndex then
    return (guestPhysicalAddr, memset db pageIndex.toNat pageUsed pages)
  else
    return (0, db)

end Ram

/-! ### The calls, with any access outside the database as a fault -/

def searchStep (db : Memory) (pages i : Nat) : Nat ⊕ Except Fault (Option Nat) :=
  Ram.searchStep frameDatabaseSize db pages i

def allocPhysicalPages (fuel : Nat) (db : Memory) (pages : Nat) :
    Option (Except Fault (Nat × Memory)) :=
  Ram.allocPhysicalPages frameDatabaseSize fuel db pages

def allocPhysicalPagesAt (db : Memory) (guestPhysicalAddr pages : Nat) :
    Except Fault (Nat × Memory) :=
  Ram.allocPhysicalPagesAt frameDatabaseSize db guestPhysicalAddr pages

def freePhysicalPages (db : Memory) (guestPhysicalAddr pages : Nat) : Except Fault Memory :=
  let pageIndex := pageIndex guestPhysicalAddr
  if pages = 0 ∨ 0 ≤ pageIndex ∧ pageIndex + pages ≤ frameDatabaseSize then
    .ok (memset db pageIndex.toNat pageFree pages)
  else .error .outside

end ShellcodeVM.Haxm
