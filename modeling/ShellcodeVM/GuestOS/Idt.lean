import ShellcodeVM.GuestOS.Gdt

/-!
The guest's interrupt descriptor table (`idt.cpp`, `idt.h`), a word a slot as in the
GDT. `set_idt_entry` is private and tests nothing; its callers pass the vectors of
`Init` and of `TRAP::Init`.
-/
namespace ShellcodeVM.GuestOS

def maxIdtNum : Nat := 256

def idtTssGate : Int := 0x89
def idtCallGate : Int := 0x8C
def idtIntrGate : Int := 0x8E
def idtTrapGate : Int := 0x8F

/-- The fields that `set_idt_entry` stores; `desc_type` is an `int` cut to a byte. -/
def idtDesc (descType : Int) (handler : Nat) : GateDesc where
  offsetLow := UInt16.ofNat (handler &&& 0xFFFF)
  selector := UInt16.ofNat selKernelCode
  dcount := 0
  attr := UInt8.ofInt descType
  offsetHigh := UInt16.ofNat ((handler >>> 16) &&& 0xFFFF)

/-- The table, a word a slot. -/
structure Idt where
  mIdt : Nat → Nat

namespace Idt

/-- `IDT::IDT`. -/
def zeroed : Idt where
  mIdt _ := 0

def setIdtEntry (idt : Idt) (vector : Nat) (descType : Int) (handler : Nat) : Idt where
  mIdt i := if i = vector then (idtDesc descType handler).image else idt.mIdt i

def setTssGate (idt : Idt) (vector handler : Nat) : Idt :=
  idt.setIdtEntry vector idtTssGate handler

def setCallGate (idt : Idt) (vector handler : Nat) : Idt :=
  idt.setIdtEntry vector idtCallGate handler

def setIntrGate (idt : Idt) (vector handler : Nat) : Idt :=
  idt.setIdtEntry vector idtIntrGate handler

def setTrapGate (idt : Idt) (vector handler : Nat) : Idt :=
  idt.setIdtEntry vector idtTrapGate handler

/-- The loop of `IDT::Init` over the first `n` vectors. -/
def fillDefault (idt : Idt) (irqDefaultEntry : Nat) : Nat → Idt
  | 0 => idt
  | i + 1 => (fillDefault idt irqDefaultEntry i).setIdtEntry i idtIntrGate irqDefaultEntry

/-- `IDT::Init`, up to `lidt`. -/
def init (idt : Idt) (irqDefaultEntry : Nat) : Idt :=
  idt.fillDefault irqDefaultEntry maxIdtNum

theorem setIdtEntry_same (idt : Idt) (vector : Nat) (descType : Int) (handler : Nat) :
    (idt.setIdtEntry vector descType handler).mIdt vector = (idtDesc descType handler).image :=
  if_pos rfl

theorem setIdtEntry_of_ne (idt : Idt) {vector i : Nat} (descType : Int) (handler : Nat)
    (h : i ≠ vector) : (idt.setIdtEntry vector descType handler).mIdt i = idt.mIdt i :=
  if_neg h

theorem fillDefault_slot (idt : Idt) (irqDefaultEntry : Nat) {n i : Nat} (h : i < n) :
    (idt.fillDefault irqDefaultEntry n).mIdt i = (idtDesc idtIntrGate irqDefaultEntry).image := by
  induction n with
  | zero => exact absurd h (Nat.not_lt_zero i)
  | succ n ih =>
      rw [fillDefault]
      by_cases hi : i = n
      · rw [hi, setIdtEntry_same]
      · rw [setIdtEntry_of_ne _ _ _ hi]
        exact ih (by omega)

end Idt
end ShellcodeVM.GuestOS
