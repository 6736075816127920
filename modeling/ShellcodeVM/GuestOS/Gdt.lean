import ShellcodeVM.Lib.Slots

/-!
The guest's global descriptor table (`gdt.cpp`, `gdt.h`). A slot is kept as the
eight bytes that `find_free_gdt_entry` tests, one 64-bit word; every encoder fills
all fields of its descriptor, so it replaces the word. Bases, limits and attributes
are 32-bit values kept as natural numbers.
-/
namespace ShellcodeVM.GuestOS
open Machine

def maxGdtNum : Nat := 32

def gdtKernelCode : Nat := 1
def gdtKernelData : Nat := 2
def gdtUserCode : Nat := 3
def gdtUserData : Nat := 4
def gdtKernelFs : Nat := 5
def gdtUserFs : Nat := 6

def selKernelCode : Nat := 0x08

def da32 : Nat := 0x4000
def daLimit4K : Nat := 0x8000
def daDpl0 : Nat := 0x00
def daDpl3 : Nat := 0x60
def daDrw : Nat := 0x92
def daCr : Nat := 0x9A
def da386Tss : Nat := 0x89
def da386CGate : Nat := 0x8C

structure SegmentDesc where
  limitLow : UInt16
  baseLow : UInt16
  baseMid : UInt8
  attr1 : UInt8
  limitHighAttr2 : UInt8
  baseHigh : UInt8
deriving DecidableEq, Repr

structure GateDesc where
  offsetLow : UInt16
  selector : UInt16
  dcount : UInt8
  attr : UInt8
  offsetHigh : UInt16
deriving DecidableEq, Repr

/-- The eight bytes of a segment descriptor, the first one lowest. -/
def SegmentDesc.image (desc : SegmentDesc) : Nat :=
  desc.limitLow.toNat + desc.baseLow.toNat * 2 ^ 16 + desc.baseMid.toNat * 2 ^ 32 +
    desc.attr1.toNat * 2 ^ 40 + desc.limitHighAttr2.toNat * 2 ^ 48 + desc.baseHigh.toNat * 2 ^ 56

/-- The eight bytes of a gate descriptor. -/
def GateDesc.image (desc : GateDesc) : Nat :=
  desc.offsetLow.toNat + desc.selector.toNat * 2 ^ 16 + desc.dcount.toNat * 2 ^ 32 +
    desc.attr.toNat * 2 ^ 40 + desc.offsetHigh.toNat * 2 ^ 48

/-- The fields that `set_gdt_entry`, `add_gdt_entry` and `add_ldt_entry` store. -/
def segmentDesc (base limit attr : Nat) : SegmentDesc where
  limitLow := UInt16.ofNat (limit &&& 0x0FFFF)
  baseLow := UInt16.ofNat (base &&& 0x0FFFF)
  baseMid := UInt8.ofNat ((base >>> 16) &&& 0x0FF)
  attr1 := UInt8.ofNat (attr &&& 0xFF)
  limitHighAttr2 := UInt8.ofNat (((limit >>> 16) &&& 0x0F) ||| ((attr >>> 8) &&& 0xF0))
  baseHigh := UInt8.ofNat ((base >>> 24) &&& 0x0FF)

/-- The fields that `add_tss_entry` stores. -/
def tssDesc (base limit : Nat) : SegmentDesc where
  limitLow := UInt16.ofNat (limit &&& 0x0FFFF)
  baseLow := UInt16.ofNat (base &&& 0x0FFFF)
  baseMid := UInt8.ofNat ((base >>> 16) &&& 0x0FF)
  attr1 := UInt8.ofNat da386Tss
  limitHighAttr2 := UInt8.ofNat ((limit >>> 16) &&& 0x0F)
  baseHigh := UInt8.ofNat ((base >>> 24) &&& 0x0FF)

/-- The fields that `add_call_gate` stores; `argc` is an `int` cut to a byte. -/
def callGateDesc (handler : Nat) (argc : Int) : GateDesc where
  offsetLow := UInt16.ofNat (handler &&& 0xFFFF)
  selector := UInt16.ofNat selKernelCode
  dcount := UInt8.ofInt argc
  attr := UInt8.ofNat (da386CGate ||| daDpl3)
  offsetHigh := UInt16.ofNat ((handler >>> 16) &&& 0xFFFF)

/-- The table, a word a slot. -/
structure Gdt where
  mGdt : Nat → Nat

namespace Gdt

/-- `GDT::GDT`. -/
def zeroed : Gdt where
  mGdt _ := 0

def store (gdt : Gdt) (vector image : Nat) : Gdt where
  mGdt i := if i = vector then image else gdt.mGdt i

def setGdtEntry (gdt : Gdt) (vector base limit attr : Nat) : Bool × Gdt :=
  if vector = 0 ∨ maxGdtNum ≤ vector then (false, gdt)
  else (true, gdt.store vector (segmentDesc base limit attr).image)

/-- `GDT::Init`, up to loading the segment registers. -/
def init (gdt : Gdt) : Gdt :=
  let gdt := (gdt.setGdtEntry gdtKernelCode 0x00000000 0x000FFFFF
    (daCr ||| da32 ||| daDpl0 ||| daLimit4K)).2
  let gdt := (gdt.setGdtEntry gdtKernelData 0x00000000 0x000FFFFF
    (daDrw ||| da32 ||| daDpl0 ||| daLimit4K)).2
  let gdt := (gdt.setGdtEntry gdtUserCode 0x00000000 0x0007FFFF
    (daCr ||| da32 ||| daDpl3 ||| daLimit4K)).2
  let gdt := (gdt.setGdtEntry gdtUserData 0x00000000 0x0007FFFF
    (daDrw ||| da32 ||| daDpl3 ||| daLimit4K)).2
  let gdt := (gdt.setGdtEntry gdtKernelFs 0xFFDFF000 0x000003FF (daDrw ||| da32 ||| daDpl3)).2
  (gdt.setGdtEntry gdtUserFs 0x7EFDD000 0x000003FF (daDrw ||| da32 ||| daDpl3)).2

/-- `find_free_gdt_entry`; 0 when there is none. -/
def findFreeGdtEntry (gdt : Gdt) : Nat :=
  (firstFree (fun i => gdt.mGdt i = 0) (maxGdtNum - 1) 1).getD 0

/-- What the four `add_..` functions share: find a slot, fill it, return its selector. -/
def addEntry (gdt : Gdt) (image : Nat) : Nat × Gdt :=
  let vector := gdt.findFreeGdtEntry
  if vector = 0 then (0, gdt) else (vector * 8, gdt.store vector image)

def addGdtEntry (gdt : Gdt) (base limit attr : Nat) : Nat × Gdt :=
  gdt.addEntry (segmentDesc base limit attr).image

def addLdtEntry (gdt : Gdt) (base limit attr : Nat) : Nat × Gdt :=
  gdt.addEntry (segmentDesc base limit attr).image

def addTssEntry (gdt : Gdt) (base limit : Nat) : Nat × Gdt :=
  gdt.addEntry (tssDesc base limit).image

def addCallGate (gdt : Gdt) (handler : Nat) (argc : Int) : Nat × Gdt :=
  gdt.addEntry (callGateDesc handler argc).image

theorem store_same (gdt : Gdt) (vector image : Nat) :
    (gdt.store vector image).mGdt vector = image :=
  if_pos rfl

theorem store_of_ne (gdt : Gdt) {vector i : Nat} (image : Nat) (h : i ≠ vector) :
    (gdt.store vector image).mGdt i = gdt.mGdt i :=
  if_neg h

end Gdt

theorem SegmentDesc.image_pos {desc : SegmentDesc} (h : desc.attr1.toNat ≠ 0) :
    desc.image ≠ 0 := by
  rw [SegmentDesc.image]
  omega

theorem GateDesc.image_pos {desc : GateDesc} (h : desc.attr.toNat ≠ 0) : desc.image ≠ 0 := by
  rw [GateDesc.image]
  omega

end ShellcodeVM.GuestOS
