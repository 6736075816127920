import ShellcodeVM.Lib.X86
import ShellcodeVM.GuestOS.DescriptorDecode

/-!
The trap stubs of the guest (`trap.cpp`, `trap.h`): the two macros that make them, the
table of vectors, and the structure on the stack that `TRAP::dispatch` gets.
-/
namespace ShellcodeVM.GuestOS
open Machine

/-- `TRAP_CONTEXT`, packed, in the order of its declaration. -/
structure TrapContext where
  gs : UInt32
  fs : UInt32
  es : UInt32
  ds : UInt32
  edi : UInt32
  esi : UInt32
  ebp : UInt32
  tmp : UInt32
  ebx : UInt32
  edx : UInt32
  ecx : UInt32
  eax : UInt32
  irqNo : UInt32
  errCode : UInt32
  eip : UInt32
  cs : UInt32
  eflags : UInt32
  esp : UInt32
  ss : UInt32
deriving DecidableEq, Repr

/-- The structure behind a pointer. -/
def TrapContext.read (m : Memory32) (context : UInt32) : TrapContext where
  gs := load32 m context
  fs := load32 m (context + 4)
  es := load32 m (context + 8)
  ds := load32 m (context + 12)
  edi := load32 m (context + 16)
  esi := load32 m (context + 20)
  ebp := load32 m (context + 24)
  tmp := load32 m (context + 28)
  ebx := load32 m (context + 32)
  edx := load32 m (context + 36)
  ecx := load32 m (context + 40)
  eax := load32 m (context + 44)
  irqNo := load32 m (context + 48)
  errCode := load32 m (context + 52)
  eip := load32 m (context + 56)
  cs := load32 m (context + 60)
  eflags := load32 m (context + 64)
  esp := load32 m (context + 68)
  ss := load32 m (context + 72)

/-- A stub: what runs before `call TRAP::dispatch` and what runs after it. -/
structure Stub where
  save : List Instr
  restore : List Instr
deriving DecidableEq, Repr

/-- The part of both macros from `push int_no` to the call. -/
def saveContext (intNo : UInt32) : List Instr :=
  [.pushImm intNo, .pushad, .pushSeg .ds, .pushSeg .es, .pushSeg .fs, .pushSeg .gs,
    .movEaxEsp, .pushEax, .movAxSs, .movSegAx .ds, .movSegAx .es, .movSegAx .fs, .movSegAx .gs]

/-- The part of both macros after the call. -/
def restoreContext : List Instr :=
  [.popEax, .popSeg .gs, .popSeg .fs, .popSeg .es, .popSeg .ds, .popad, .addEsp 8, .sti, .iretd]

/-- `TRAP_WITH_ERROR_CODE(int_no)`. -/
def trapWithErrorCode (intNo : UInt32) : Stub where
  save := .cli :: saveContext intNo
  restore := restoreContext

/-- `TRAP_NO_ERROR_CODE(int_no)`. -/
def trapNoErrorCode (intNo : UInt32) : Stub where
  save := .cli :: .pushImm (-1) :: saveContext intNo
  restore := restoreContext

/-- The stubs that the macros are used for. -/
def trapEntry (v : Nat) : Stub :=
  match v with
  | 8 | 10 | 11 | 12 | 13 | 14 | 15 | 17 => trapWithErrorCode (UInt32.ofNat v)
  | _ => trapNoErrorCode (UInt32.ofNat v)

/-- The number of vectors that `TRAP::Init` sets. -/
def trapEntries : Nat := 20

/-- The gates of `TRAP::Init`, for stubs at the addresses given. -/
def trapInit (idt : Idt) (address : Nat → UInt32) : Nat → Idt
  | 0 => idt
  | v + 1 => (trapInit idt address v).setTrapGate v (address v).toNat

/-- The `switch` of `TRAP::dispatch`: the number of the handler called. The `hlt` in front of
it, which only an interrupt that is let through would end, is left out. -/
def dispatch (context : TrapContext) : Option Nat :=
  if context.irqNo.toNat < trapEntries then some context.irqNo.toNat else none

theorem trapInit_slot (idt : Idt) (address : Nat → UInt32) {n v : Nat} (h : v < n) :
    decodeGate ((trapInit idt address n).mIdt v) = askedIdtGate (address v) 0x8F := by
  induction n with
  | zero => exact absurd h (Nat.not_lt_zero v)
  | succ n ih =>
      rw [trapInit, Idt.setTrapGate]
      by_cases hv : v = n
      · rw [hv, Idt.setIdtEntry_same, decode_idtDesc]
        rfl
      · rw [Idt.setIdtEntry_of_ne _ _ _ hv]
        exact ih (by omega)

end ShellcodeVM.GuestOS
