import Mathlib.Tactic

/-!
`vcpu_state_t` and `segment_desc_t` (`hax-interface.h`), and the VMCS field
encodings (`VMCS.h`) that the two register writers handle. A register union is
kept as its 64-bit member, an access-rights union as the word `ar`.
-/
namespace ShellcodeVM

/-- Store into the bit-field of `width` bits from bit `lo`. -/
def setBits (word lo width value : UInt32) : UInt32 :=
  let mask := (1 <<< width) - 1
  (word &&& ~~~(mask <<< lo)) ||| ((value &&& mask) <<< lo)

structure SegmentDesc where
  selector : UInt16
  dummy : UInt16
  limit : UInt32
  base : UInt64
  ar : UInt32
  ipad : UInt32
deriving DecidableEq, Repr, Inhabited

namespace SegmentDesc

def setType (seg : SegmentDesc) (value : UInt32) : SegmentDesc :=
  { seg with ar := setBits seg.ar 0 4 value }

def setDesc (seg : SegmentDesc) (value : UInt32) : SegmentDesc :=
  { seg with ar := setBits seg.ar 4 1 value }

def setDpl (seg : SegmentDesc) (value : UInt32) : SegmentDesc :=
  { seg with ar := setBits seg.ar 5 2 value }

def setPresent (seg : SegmentDesc) (value : UInt32) : SegmentDesc :=
  { seg with ar := setBits seg.ar 7 1 value }

def setAvailable (seg : SegmentDesc) (value : UInt32) : SegmentDesc :=
  { seg with ar := setBits seg.ar 12 1 value }

end SegmentDesc

structure VcpuState where
  rax : UInt64
  rcx : UInt64
  rdx : UInt64
  rbx : UInt64
  rsp : UInt64
  rbp : UInt64
  rsi : UInt64
  rdi : UInt64
  r8 : UInt64
  r9 : UInt64
  r10 : UInt64
  r11 : UInt64
  r12 : UInt64
  r13 : UInt64
  r14 : UInt64
  r15 : UInt64
  rip : UInt64
  rflags : UInt64
  cs : SegmentDesc
  ss : SegmentDesc
  ds : SegmentDesc
  es : SegmentDesc
  fs : SegmentDesc
  gs : SegmentDesc
  ldt : SegmentDesc
  tr : SegmentDesc
  gdt : SegmentDesc
  idt : SegmentDesc
  cr0 : UInt64
  cr2 : UInt64
  cr3 : UInt64
  cr4 : UInt64
  dr0 : UInt64
  dr1 : UInt64
  dr2 : UInt64
  dr3 : UInt64
  dr6 : UInt64
  dr7 : UInt64
  pde : UInt64
  efer : UInt32
  sysenterCs : UInt32
  sysenterEip : UInt64
  sysenterEsp : UInt64
  activityState : UInt32
  pad : UInt32
  interruptibilityState : UInt64
deriving DecidableEq, Repr, Inhabited

/-! Guest-state fields. -/

@[match_pattern] def vmcsGuestEsSelector : UInt32 := 0x00000800
@[match_pattern] def vmcsGuestCsSelector : UInt32 := 0x00000802
@[match_pattern] def vmcsGuestSsSelector : UInt32 := 0x00000804
@[match_pattern] def vmcsGuestDsSelector : UInt32 := 0x00000806
@[match_pattern] def vmcsGuestFsSelector : UInt32 := 0x00000808
@[match_pattern] def vmcsGuestGsSelector : UInt32 := 0x0000080a
@[match_pattern] def vmcsGuestLdtrSelector : UInt32 := 0x0000080c
@[match_pattern] def vmcsGuestTrSelector : UInt32 := 0x0000080e
@[match_pattern] def vmcsGuestEsLimit : UInt32 := 0x00004800
@[match_pattern] def vmcsGuestCsLimit : UInt32 := 0x00004802
@[match_pattern] def vmcsGuestSsLimit : UInt32 := 0x00004804
@[match_pattern] def vmcsGuestDsLimit : UInt32 := 0x00004806
@[match_pattern] def vmcsGuestFsLimit : UInt32 := 0x00004808
@[match_pattern] def vmcsGuestGsLimit : UInt32 := 0x0000480a
@[match_pattern] def vmcsGuestLdtrLimit : UInt32 := 0x0000480c
@[match_pattern] def vmcsGuestTrLimit : UInt32 := 0x0000480e
@[match_pattern] def vmcsGuestGdtrLimit : UInt32 := 0x00004810
@[match_pattern] def vmcsGuestIdtrLimit : UInt32 := 0x00004812
@[match_pattern] def vmcsGuestEsAccessRights : UInt32 := 0x00004814
@[match_pattern] def vmcsGuestCsAccessRights : UInt32 := 0x00004816
@[match_pattern] def vmcsGuestSsAccessRights : UInt32 := 0x00004818
@[match_pattern] def vmcsGuestDsAccessRights : UInt32 := 0x0000481a
@[match_pattern] def vmcsGuestFsAccessRights : UInt32 := 0x0000481c
@[match_pattern] def vmcsGuestGsAccessRights : UInt32 := 0x0000481e
@[match_pattern] def vmcsGuestLdtrAccessRights : UInt32 := 0x00004820
@[match_pattern] def vmcsGuestTrAccessRights : UInt32 := 0x00004822
@[match_pattern] def vmcsGuestIa32SysenterCs : UInt32 := 0x0000482a
@[match_pattern] def vmcsGuestCr0 : UInt32 := 0x00006800
@[match_pattern] def vmcsGuestCr3 : UInt32 := 0x00006802
@[match_pattern] def vmcsGuestCr4 : UInt32 := 0x00006804
@[match_pattern] def vmcsGuestEsBase : UInt32 := 0x00006806
@[match_pattern] def vmcsGuestCsBase : UInt32 := 0x00006808
@[match_pattern] def vmcsGuestSsBase : UInt32 := 0x0000680a
@[match_pattern] def vmcsGuestDsBase : UInt32 := 0x0000680c
@[match_pattern] def vmcsGuestFsBase : UInt32 := 0x0000680e
@[match_pattern] def vmcsGuestGsBase : UInt32 := 0x00006810
@[match_pattern] def vmcsGuestLdtrBase : UInt32 := 0x00006812
@[match_pattern] def vmcsGuestTrBase : UInt32 := 0x00006814
@[match_pattern] def vmcsGuestGdtrBase : UInt32 := 0x00006816
@[match_pattern] def vmcsGuestIdtrBase : UInt32 := 0x00006818
@[match_pattern] def vmcsGuestDr7 : UInt32 := 0x0000681a
@[match_pattern] def vmcsGuestRsp : UInt32 := 0x0000681c
@[match_pattern] def vmcsGuestRip : UInt32 := 0x0000681e
@[match_pattern] def vmcsGuestRflags : UInt32 := 0x00006820
@[match_pattern] def vmcsGuestIa32SysenterEsp : UInt32 := 0x00006824
@[match_pattern] def vmcsGuestIa32SysenterEip : UInt32 := 0x00006826

/-- The driver's copy of a vCPU's registers: `HAX_VCPU_GET_REGS` reads it and
`HAX_VCPU_SET_REGS` replaces it. -/
structure Driver where
  regs : VcpuState
deriving DecidableEq, Repr, Inhabited

end ShellcodeVM
