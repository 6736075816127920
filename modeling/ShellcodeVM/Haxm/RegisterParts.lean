import ShellcodeVM.Lib.Cells
import ShellcodeVM.Haxm.WriteVmcs

/-!
The parts of the register state that VMCS fields name. Each part is a cell of
`VcpuState`, and the cells of two parts are independent, also when both lie in one
descriptor.
-/
namespace ShellcodeVM
open Machine Haxm

inductive DescriptorRegister where
  | es | cs | ss | ds | fs | gs | ldtr | tr | gdtr | idtr
deriving DecidableEq, Repr

namespace DescriptorRegister

def cell : DescriptorRegister → Cell VcpuState SegmentDesc
  | es => ⟨fun s => s.es, fun s d => { s with es := d }, fun _ _ => rfl, fun _ => rfl,
      fun _ _ _ => rfl⟩
  | cs => ⟨fun s => s.cs, fun s d => { s with cs := d }, fun _ _ => rfl, fun _ => rfl,
      fun _ _ _ => rfl⟩
  | ss => ⟨fun s => s.ss, fun s d => { s with ss := d }, fun _ _ => rfl, fun _ => rfl,
      fun _ _ _ => rfl⟩
  | ds => ⟨fun s => s.ds, fun s d => { s with ds := d }, fun _ _ => rfl, fun _ => rfl,
      fun _ _ _ => rfl⟩
  | fs => ⟨fun s => s.fs, fun s d => { s with fs := d }, fun _ _ => rfl, fun _ => rfl,
      fun _ _ _ => rfl⟩
  | gs => ⟨fun s => s.gs, fun s d => { s with gs := d }, fun _ _ => rfl, fun _ => rfl,
      fun _ _ _ => rfl⟩
  | ldtr => ⟨fun s => s.ldt, fun s d => { s with ldt := d }, fun _ _ => rfl, fun _ => rfl,
      fun _ _ _ => rfl⟩
  | tr => ⟨fun s => s.tr, fun s d => { s with tr := d }, fun _ _ => rfl, fun _ => rfl,
      fun _ _ _ => rfl⟩
  | gdtr => ⟨fun s => s.gdt, fun s d => { s with gdt := d }, fun _ _ => rfl, fun _ => rfl,
      fun _ _ _ => rfl⟩
  | idtr => ⟨fun s => s.idt, fun s d => { s with idt := d }, fun _ _ => rfl, fun _ => rfl,
      fun _ _ _ => rfl⟩

theorem cell_independent {r r' : DescriptorRegister} (h : r ≠ r') :
    r.cell.Independent r'.cell := by
  cases r <;> cases r' <;> first | exact absurd rfl h | exact fun _ _ _ => rfl

end DescriptorRegister

/-! ### The parts of a descriptor -/

/-- The bits of `ar` that `SET_SEGMENT_ACCESS` stores: type, S, DPL, P and AVL. -/
def accessMask : UInt32 := 0x10ff

/-- Access rights with no other bit set. -/
abbrev AccessBits := { bits : UInt32 // bits &&& ~~~accessMask = 0 }

theorem or_and_distrib (a b mask : UInt32) : (a ||| b) &&& mask = a &&& mask ||| b &&& mask := by
  rw [← UInt32.toBitVec_inj]
  exact BitVec.and_or_distrib_right

/-- `word` with the bits of `mask` taken from `value`. -/
def replaceBits (word value mask : UInt32) : UInt32 :=
  (word &&& ~~~mask) ||| (value &&& mask)

theorem replaceBits_self (word mask : UInt32) : replaceBits word word mask = word := by
  rw [replaceBits, UInt32.and_comm word, UInt32.and_comm word, ← or_and_distrib,
    UInt32.not_or_self, UInt32.neg_one_and]

/-- Bits of the same value, stored in two steps. -/
theorem replaceBits_replaceBits (word value mask mask' : UInt32) :
    replaceBits (replaceBits word value mask) value mask' =
      replaceBits word value (mask ||| mask') := by
  apply UInt32.eq_of_toBitVec_eq
  ext i hi
  simp only [replaceBits, UInt32.toBitVec_or, UInt32.toBitVec_and, UInt32.toBitVec_not,
    BitVec.getElem_or, BitVec.getElem_and, BitVec.getElem_not]
  cases word.toBitVec[i] <;> cases value.toBitVec[i] <;> cases mask.toBitVec[i] <;>
    cases mask'.toBitVec[i] <;> rfl

theorem shift_and_mask (value : UInt64) (mask : UInt32) {lo : Nat} (hlo : lo < 32) :
    (((value >>> UInt64.ofNat lo) &&& mask.toUInt64).toUInt32 &&& mask) <<< UInt32.ofNat lo =
      value.toUInt32 &&& (mask <<< UInt32.ofNat lo) := by
  apply UInt32.eq_of_toBitVec_eq
  ext i hi
  have h32 : lo % 32 = lo := Nat.mod_eq_of_lt hlo
  have h64 : lo % 64 = lo := Nat.mod_eq_of_lt (by omega)
  by_cases hi : i < lo
  · simp [h32, h64, hi]
  · have hsplit : lo + (i - lo) = i := by omega
    simp [h32, h64, hi, hsplit]

/-- A bit-field set to the same bits of a 64-bit value. -/
theorem setBits_shifted (word : UInt32) (value : UInt64) (width : UInt32) {lo : Nat}
    (hlo : lo < 32) :
    setBits word (UInt32.ofNat lo) width
        ((value >>> UInt64.ofNat lo) &&& ((1 <<< width) - 1).toUInt64).toUInt32 =
      replaceBits word value.toUInt32 (((1 <<< width) - 1) <<< UInt32.ofNat lo) := by
  rw [setBits, shift_and_mask value _ hlo, replaceBits]

/-- `SET_SEGMENT_ACCESS` stores the bits of the mask and no other. -/
theorem setSegmentAccess_eq (seg : SegmentDesc) (value : UInt64) :
    HaxmCpu.setSegmentAccess seg value =
      { seg with ar := replaceBits seg.ar value.toUInt32 accessMask } := by
  have havailable (word : UInt32) :
      setBits word 12 1 ((value >>> 12) &&& 1).toUInt32 = replaceBits word value.toUInt32 0x1000 :=
    setBits_shifted word value 1 (by decide : 12 < 32)
  have hpresent (word : UInt32) :
      setBits word 7 1 ((value >>> 7) &&& 1).toUInt32 = replaceBits word value.toUInt32 0x80 :=
    setBits_shifted word value 1 (by decide : 7 < 32)
  have hdpl (word : UInt32) :
      setBits word 5 2 ((value >>> 5) &&& 3).toUInt32 = replaceBits word value.toUInt32 0x60 :=
    setBits_shifted word value 2 (by decide : 5 < 32)
  have hdesc (word : UInt32) :
      setBits word 4 1 ((value >>> 4) &&& 1).toUInt32 = replaceBits word value.toUInt32 0x10 :=
    setBits_shifted word value 1 (by decide : 4 < 32)
  have htype (word : UInt32) :
      setBits word 0 4 ((value >>> 0) &&& 15).toUInt32 = replaceBits word value.toUInt32 0xf :=
    setBits_shifted word value 4 (by decide : 0 < 32)
  simp only [HaxmCpu.setSegmentAccess, SegmentDesc.setType, SegmentDesc.setDesc,
    SegmentDesc.setDpl, SegmentDesc.setPresent, SegmentDesc.setAvailable, havailable, hpresent,
    hdpl, hdesc, htype, replaceBits_replaceBits]
  rfl

def AccessBits.of (word : UInt32) : AccessBits :=
  ⟨word &&& accessMask, by rw [UInt32.and_assoc, UInt32.and_not_self, UInt32.and_zero]⟩

theorem AccessBits.and_mask (bits : AccessBits) : bits.val &&& accessMask = bits.val := by
  have h := replaceBits_self bits.val accessMask
  rwa [replaceBits, bits.property, UInt32.zero_or] at h

def accessCell : Cell UInt32 AccessBits where
  get ar := .of ar
  put ar bits := (ar &&& ~~~accessMask) ||| bits.val
  get_put ar bits := by
    apply Subtype.ext
    change ((ar &&& ~~~accessMask) ||| bits.val) &&& accessMask = bits.val
    rw [or_and_distrib, bits.and_mask, UInt32.and_assoc, UInt32.and_comm (~~~accessMask),
      UInt32.and_not_self, UInt32.and_zero, UInt32.zero_or]
  put_get ar := replaceBits_self ar accessMask
  put_put ar bits bits' := by
    rw [or_and_distrib, bits.property, UInt32.and_assoc, UInt32.and_self, UInt32.or_zero]

inductive DescriptorPart where
  | selector | limit | accessRights | base
deriving DecidableEq, Repr

namespace DescriptorPart

/-- What a part holds. -/
@[reducible] def Value : DescriptorPart → Type
  | selector => UInt16
  | limit => UInt32
  | accessRights => AccessBits
  | base => UInt64

def arCell : Cell SegmentDesc UInt32 :=
  ⟨fun d => d.ar, fun d v => { d with ar := v }, fun _ _ => rfl, fun _ => rfl, fun _ _ _ => rfl⟩

def cell : (p : DescriptorPart) → Cell SegmentDesc p.Value
  | selector => ⟨fun d => d.selector, fun d v => { d with selector := v }, fun _ _ => rfl,
      fun _ => rfl, fun _ _ _ => rfl⟩
  | limit => ⟨fun d => d.limit, fun d v => { d with limit := v }, fun _ _ => rfl, fun _ => rfl,
      fun _ _ _ => rfl⟩
  | accessRights => arCell.comp accessCell
  | base => ⟨fun d => d.base, fun d v => { d with base := v }, fun _ _ => rfl, fun _ => rfl,
      fun _ _ _ => rfl⟩

theorem cell_independent {p p' : DescriptorPart} (h : p ≠ p') : p.cell.Independent p'.cell := by
  cases p <;> cases p' <;> first | exact absurd rfl h | exact fun _ _ _ => rfl

/-- The value stored for a 64-bit operand. -/
def ofWord : (p : DescriptorPart) → UInt64 → p.Value
  | selector, value => value.toUInt16
  | limit, value => value.toUInt32
  | accessRights, value => .of value.toUInt32
  | base, value => value

end DescriptorPart

/-! ### The other registers -/

inductive WordRegister where
  | cr0 | cr3 | cr4 | dr7 | rsp | rip | rflags | sysenterEsp | sysenterEip
deriving DecidableEq, Repr

def WordRegister.cell : WordRegister → Cell VcpuState UInt64
  | cr0 => ⟨fun s => s.cr0, fun s v => { s with cr0 := v }, fun _ _ => rfl, fun _ => rfl,
      fun _ _ _ => rfl⟩
  | cr3 => ⟨fun s => s.cr3, fun s v => { s with cr3 := v }, fun _ _ => rfl, fun _ => rfl,
      fun _ _ _ => rfl⟩
  | cr4 => ⟨fun s => s.cr4, fun s v => { s with cr4 := v }, fun _ _ => rfl, fun _ => rfl,
      fun _ _ _ => rfl⟩
  | dr7 => ⟨fun s => s.dr7, fun s v => { s with dr7 := v }, fun _ _ => rfl, fun _ => rfl,
      fun _ _ _ => rfl⟩
  | rsp => ⟨fun s => s.rsp, fun s v => { s with rsp := v }, fun _ _ => rfl, fun _ => rfl,
      fun _ _ _ => rfl⟩
  | rip => ⟨fun s => s.rip, fun s v => { s with rip := v }, fun _ _ => rfl, fun _ => rfl,
      fun _ _ _ => rfl⟩
  | rflags => ⟨fun s => s.rflags, fun s v => { s with rflags := v }, fun _ _ => rfl,
      fun _ => rfl, fun _ _ _ => rfl⟩
  | sysenterEsp => ⟨fun s => s.sysenterEsp, fun s v => { s with sysenterEsp := v },
      fun _ _ => rfl, fun _ => rfl, fun _ _ _ => rfl⟩
  | sysenterEip => ⟨fun s => s.sysenterEip, fun s v => { s with sysenterEip := v },
      fun _ _ => rfl, fun _ => rfl, fun _ _ _ => rfl⟩

theorem WordRegister.cell_independent {r r' : WordRegister} (h : r ≠ r') :
    r.cell.Independent r'.cell := by
  cases r <;> cases r' <;> first | exact absurd rfl h | exact fun _ _ _ => rfl

/-- `_sysenter_cs`, a register of 32 bits. -/
def sysenterCsCell : Cell VcpuState UInt32 :=
  ⟨fun s => s.sysenterCs, fun s v => { s with sysenterCs := v }, fun _ _ => rfl, fun _ => rfl,
    fun _ _ _ => rfl⟩

inductive RegisterPart where
  | descriptor (r : DescriptorRegister) (p : DescriptorPart)
  | word (r : WordRegister)
  | sysenterCs
deriving DecidableEq, Repr

namespace RegisterPart

@[reducible] def Value : RegisterPart → Type
  | descriptor _ p => p.Value
  | word _ => UInt64
  | sysenterCs => UInt32

def cell : (part : RegisterPart) → Cell VcpuState part.Value
  | descriptor r p => r.cell.comp p.cell
  | word r => r.cell
  | sysenterCs => sysenterCsCell

def ofWord : (part : RegisterPart) → UInt64 → part.Value
  | descriptor _ p, value => p.ofWord value
  | word _, value => value
  | sysenterCs, value => value.toUInt32

theorem word_independent (r : DescriptorRegister) (r' : WordRegister) :
    r.cell.Independent r'.cell := by
  cases r <;> cases r' <;> exact fun _ _ _ => rfl

theorem sysenterCs_independent (r : DescriptorRegister) : r.cell.Independent sysenterCsCell := by
  cases r <;> exact fun _ _ _ => rfl

theorem sysenterCs_independent_word (r : WordRegister) : r.cell.Independent sysenterCsCell := by
  cases r <;> exact fun _ _ _ => rfl

theorem cell_independent {part part' : RegisterPart} (h : part ≠ part') :
    part.cell.Independent part'.cell := by
  cases part with
  | descriptor r p =>
      cases part' with
      | descriptor r' p' =>
          by_cases hr : r = r'
          · subst hr
            have hp : p ≠ p' := fun hp => h (by rw [hp])
            exact (DescriptorPart.cell_independent hp).comp_same r.cell
          · exact (DescriptorRegister.cell_independent hr).comp p.cell p'.cell
      | word r' => exact (word_independent r r').comp_right p.cell
      | sysenterCs => exact (sysenterCs_independent r).comp_right p.cell
  | word r =>
      cases part' with
      | descriptor r' p' => exact ((word_independent r' r).comp_right p'.cell).symm
      | word r' => exact WordRegister.cell_independent (fun hr => h (by rw [hr]))
      | sysenterCs => exact sysenterCs_independent_word r
  | sysenterCs =>
      cases part' with
      | descriptor r' p' => exact ((sysenterCs_independent r').comp_right p'.cell).symm
      | word r' => exact (sysenterCs_independent_word r').symm
      | sysenterCs => exact absurd rfl h

end RegisterPart

/-! ### Fields and parts -/

/-- The guest-state fields and the parts that they name. -/
def vmcsFields : List (UInt32 × RegisterPart) :=
  [(vmcsGuestEsSelector, .descriptor .es .selector),
    (vmcsGuestEsLimit, .descriptor .es .limit),
    (vmcsGuestEsAccessRights, .descriptor .es .accessRights),
    (vmcsGuestEsBase, .descriptor .es .base),
    (vmcsGuestCsSelector, .descriptor .cs .selector),
    (vmcsGuestCsLimit, .descriptor .cs .limit),
    (vmcsGuestCsAccessRights, .descriptor .cs .accessRights),
    (vmcsGuestCsBase, .descriptor .cs .base),
    (vmcsGuestSsSelector, .descriptor .ss .selector),
    (vmcsGuestSsLimit, .descriptor .ss .limit),
    (vmcsGuestSsAccessRights, .descriptor .ss .accessRights),
    (vmcsGuestSsBase, .descriptor .ss .base),
    (vmcsGuestDsSelector, .descriptor .ds .selector),
    (vmcsGuestDsLimit, .descriptor .ds .limit),
    (vmcsGuestDsAccessRights, .descriptor .ds .accessRights),
    (vmcsGuestDsBase, .descriptor .ds .base),
    (vmcsGuestFsSelector, .descriptor .fs .selector),
    (vmcsGuestFsLimit, .descriptor .fs .limit),
    (vmcsGuestFsAccessRights, .descriptor .fs .accessRights),
    (vmcsGuestFsBase, .descriptor .fs .base),
    (vmcsGuestGsSelector, .descriptor .gs .selector),
    (vmcsGuestGsLimit, .descriptor .gs .limit),
    (vmcsGuestGsAccessRights, .descriptor .gs .accessRights),
    (vmcsGuestGsBase, .descriptor .gs .base),
    (vmcsGuestLdtrSelector, .descriptor .ldtr .selector),
    (vmcsGuestLdtrLimit, .descriptor .ldtr .limit),
    (vmcsGuestLdtrAccessRights, .descriptor .ldtr .accessRights),
    (vmcsGuestLdtrBase, .descriptor .ldtr .base),
    (vmcsGuestTrSelector, .descriptor .tr .selector),
    (vmcsGuestTrLimit, .descriptor .tr .limit),
    (vmcsGuestTrAccessRights, .descriptor .tr .accessRights),
    (vmcsGuestTrBase, .descriptor .tr .base),
    (vmcsGuestGdtrLimit, .descriptor .gdtr .limit),
    (vmcsGuestGdtrBase, .descriptor .gdtr .base),
    (vmcsGuestIdtrLimit, .descriptor .idtr .limit),
    (vmcsGuestIdtrBase, .descriptor .idtr .base),
    (vmcsGuestCr0, .word .cr0),
    (vmcsGuestCr3, .word .cr3),
    (vmcsGuestCr4, .word .cr4),
    (vmcsGuestDr7, .word .dr7),
    (vmcsGuestRsp, .word .rsp),
    (vmcsGuestRip, .word .rip),
    (vmcsGuestRflags, .word .rflags),
    (vmcsGuestIa32SysenterCs, .sysenterCs),
    (vmcsGuestIa32SysenterEsp, .word .sysenterEsp),
    (vmcsGuestIa32SysenterEip, .word .sysenterEip)]

/-- The part that a VMCS field names. -/
def registerPart (field : UInt32) : Option RegisterPart := vmcsFields.lookup field

theorem writeField_of_mem (state : VcpuState) (value : UInt64) :
    ∀ f ∈ vmcsFields, HaxmCpu.writeField state f.1 value =
      some (f.2.cell.put state (f.2.ofWord value)) := by
  simp only [vmcsFields, List.forall_mem_cons]
  repeat' apply And.intro
  all_goals first | rfl | exact congrArg some (by rw [setSegmentAccess_eq]; rfl) | simp

theorem mem_of_writeField {state state' : VcpuState} {field : UInt32} {value : UInt64}
    (h : HaxmCpu.writeField state field value = some state') :
    field ∈ vmcsFields.map Prod.fst := by
  unfold HaxmCpu.writeField at h
  split at h
  case h_47 => cases h
  all_goals decide

end ShellcodeVM
