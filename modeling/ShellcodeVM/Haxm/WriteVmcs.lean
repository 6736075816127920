import ShellcodeVM.Haxm.VcpuState

/-!
`HAXM_CPU::write_vmcs` and the register transfers around it (`HAXM_CPU.h`). The
writes go to the object's own copy of the registers. A field that the switch does
not list stops in `__debugbreak`, here `none`.
-/
namespace ShellcodeVM.Haxm

structure HaxmCpu where
  mState : VcpuState
deriving DecidableEq, Repr, Inhabited

namespace HaxmCpu

/-- `SET_SEGMENT_ACCESS(seg, value)`. -/
def setSegmentAccess (seg : SegmentDesc) (value : UInt64) : SegmentDesc :=
  let seg := seg.setAvailable ((value >>> 12) &&& 1).toUInt32
  let seg := seg.setPresent ((value >>> 7) &&& 1).toUInt32
  let seg := seg.setDpl ((value >>> 5) &&& 3).toUInt32
  let seg := seg.setDesc ((value >>> 4) &&& 1).toUInt32
  seg.setType ((value >>> 0) &&& 15).toUInt32

/-- The switch of `write_vmcs` on `m_state`. -/
def writeField (state : VcpuState) (field : UInt32) (value : UInt64) : Option VcpuState :=
  match field with
  | vmcsGuestEsSelector => some { state with es := { state.es with selector := value.toUInt16 } }
  | vmcsGuestEsLimit => some { state with es := { state.es with limit := value.toUInt32 } }
  | vmcsGuestEsAccessRights => some { state with es := setSegmentAccess state.es value }
  | vmcsGuestEsBase => some { state with es := { state.es with base := value } }
  | vmcsGuestCsSelector => some { state with cs := { state.cs with selector := value.toUInt16 } }
  | vmcsGuestCsLimit => some { state with cs := { state.cs with limit := value.toUInt32 } }
  | vmcsGuestCsAccessRights => some { state with cs := setSegmentAccess state.cs value }
  | vmcsGuestCsBase => some { state with cs := { state.cs with base := value } }
  | vmcsGuestSsSelector => some { state with ss := { state.ss with selector := value.toUInt16 } }
  | vmcsGuestSsLimit => some { state with ss := { state.ss with limit := value.toUInt32 } }
  | vmcsGuestSsAccessRights => some { state with ss := setSegmentAccess state.ss value }
  | vmcsGuestSsBase => some { state with ss := { state.ss with base := value } }
  | vmcsGuestDsSelector => some { state with ds := { state.ds with selector := value.toUInt16 } }
  | vmcsGuestDsLimit => some { state with ds := { state.ds with limit := value.toUInt32 } }
  | vmcsGuestDsAccessRights => some { state with ds := setSegmentAccess state.ds value }
  | vmcsGuestDsBase => some { state with ds := { state.ds with base := value } }
  | vmcsGuestFsSelector => some { state with fs := { state.fs with selector := value.toUInt16 } }
  | vmcsGuestFsLimit => some { state with fs := { state.fs with limit := value.toUInt32 } }
  | vmcsGuestFsAccessRights => some { state with fs := setSegmentAccess state.fs value }
  | vmcsGuestFsBase => some { state with fs := { state.fs with base := value } }
  | vmcsGuestGsSelector => some { state with gs := { state.gs with selector := value.toUInt16 } }
  | vmcsGuestGsLimit => some { state with gs := { state.gs with limit := value.toUInt32 } }
  | vmcsGuestGsAccessRights => some { state with gs := setSegmentAccess state.gs value }
  | vmcsGuestGsBase => some { state with gs := { state.gs with base := value } }
  | vmcsGuestLdtrSelector =>
      some { state with ldt := { state.ldt with selector := value.toUInt16 } }
  | vmcsGuestLdtrLimit => some { state with ldt := { state.ldt with limit := value.toUInt32 } }
  | vmcsGuestLdtrAccessRights => some { state with ldt := setSegmentAccess state.ldt value }
  | vmcsGuestLdtrBase => some { state with ldt := { state.ldt with base := value } }
  | vmcsGuestTrSelector => some { state with tr := { state.tr with selector := value.toUInt16 } }
  | vmcsGuestTrLimit => some { state with tr := { state.tr with limit := value.toUInt32 } }
  | vmcsGuestTrAccessRights => some { state with tr := setSegmentAccess state.tr value }
  | vmcsGuestTrBase => some { state with tr := { state.tr with base := value } }
  | vmcsGuestGdtrLimit => some { state with gdt := { state.gdt with limit := value.toUInt32 } }
  | vmcsGuestGdtrBase => some { state with gdt := { state.gdt with base := value } }
  | vmcsGuestIdtrLimit => some { state with idt := { state.idt with limit := value.toUInt32 } }
  | vmcsGuestIdtrBase => some { state with idt := { state.idt with base := value } }
  | vmcsGuestCr0 => some { state with cr0 := value }
  | vmcsGuestCr3 => some { state with cr3 := value }
  | vmcsGuestCr4 => some { state with cr4 := value }
  | vmcsGuestDr7 => some { state with dr7 := value }
  | vmcsGuestRsp => some { state with rsp := value }
  | vmcsGuestRip => some { state with rip := value }
  | vmcsGuestRflags => some { state with rflags := value }
  | vmcsGuestIa32SysenterCs => some { state with sysenterCs := value.toUInt32 }
  | vmcsGuestIa32SysenterEsp => some { state with sysenterEsp := value }
  | vmcsGuestIa32SysenterEip => some { state with sysenterEip := value }
  | _ => none

def writeVmcs (cpu : HaxmCpu) (field : UInt32) (value : UInt64) : Option HaxmCpu :=
  (writeField cpu.mState field value).map fun state => { cpu with mState := state }

/-- `get_cpu_state`, with the outcome of its ioctl. -/
def getCpuState (ok : Bool) (driver : Driver) (cpu : HaxmCpu) : Bool × HaxmCpu :=
  if ok then (true, { cpu with mState := driver.regs }) else (false, cpu)

/-- `set_cpu_state()`, with the outcome of its ioctl. -/
def setCpuState (ok : Bool) (driver : Driver) (cpu : HaxmCpu) : Bool × Driver :=
  if ok then (true, { driver with regs := cpu.mState }) else (false, driver)

end HaxmCpu
end ShellcodeVM.Haxm
