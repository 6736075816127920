import ShellcodeVM.Haxm.VcpuState

/-!
`VCpu_WriteVMCS` (`VirtualCPU.cpp`): every write reads the registers from the
driver, sets one field and puts them back.
-/
namespace ShellcodeVM.Hax

/-- `SET_SEGMENT_ACCESS(seg, value)`. -/
def setSegmentAccess (seg : SegmentDesc) (value : UInt64) : SegmentDesc :=
  let seg := seg.setAvailable ((value >>> 12) &&& 1).toUInt32
  let seg := seg.setPresent ((value >>> 7) &&& 1).toUInt32
  let seg := seg.setDpl ((value >>> 5) &&& 3).toUInt32
  let seg := seg.setDesc ((value >>> 4) &&& 1).toUInt32
  seg.setType ((value >>> 0) &&& 15).toUInt32

/-- The switch of `VCpu_WriteVMCS`. -/
def writeField (state : VcpuState) (field : UInt32) (value : UInt64) : Option VcpuState :=
  match field with
  | vmcsGuestEsSelector => some { state with es := { state.es with selector := value.toUInt16 } }
  | vmcsGuestEsLimit => some { state with es := { state.es with limit := value.toUInt32 } }
  | vmcsGuestEsAccessRights => some { state with es := setSegmentAccess state.es value }
  | vmcsGuestEsBase => some { state with es := { state.es with base := value } }
  | vmcsGuestCsSelector => some { state with cs := { state.cs with selector := value.toUInt16 } }
  | vmcsGuestCsLimit => some { state with cs := { state.cs with limit := value.toUInt32 } }
  | vmcsGuestCsAccessRights => some { state with cs := setSegmentAccess state.cs value }
  | vmcsGuestCsBase => some { state with cs := { state.cs with base := value } }
  | vmcsGuestSsSelector => some { state with ss := { state.ss with selector := value.toUInt16 } }
  | vmcsGuestSsLimit => some { state with ss := { state.ss with limit := value.toUInt32 } }
  | vmcsGuestSsAccessRights => some { state with ss := setSegmentAccess state.ss value }
  | vmcsGuestSsBase => some { state with ss := { state.ss with base := value } }
  | vmcsGuestDsSelector => some { state with ds := { state.ds with selector := value.toUInt16 } }
  | vmcsGuestDsLimit => some { state with ds := { state.ds with limit := value.toUInt32 } }
  | vmcsGuestDsAccessRights => some { state with ds := setSegmentAccess state.ds value }
  | vmcsGuestDsBase => some { state with ds := { state.ds with base := value } }
  | vmcsGuestFsSelector => some { state with fs := { state.fs with selector := value.toUInt16 } }
  | vmcsGuestFsLimit => some { state with fs := { state.fs with limit := value.toUInt32 } }
  | vmcsGuestFsAccessRights => some { state with fs := setSegmentAccess state.fs value }
  | vmcsGuestFsBase => some { state with fs := { state.fs with base := value } }
  | vmcsGuestGsSelector => some { state with gs := { state.gs with selector := value.toUInt16 } }
  | vmcsGuestGsLimit => some { state with gs := { state.gs with limit := value.toUInt32 } }
  | vmcsGuestGsAccessRights => some { state with gs := setSegmentAccess state.gs value }
  | vmcsGuestGsBase => some { state with gs := { state.gs with base := value } }
  | vmcsGuestLdtrSelector =>
      some { state with ldt := { state.ldt with selector := value.toUInt16 } }
  | vmcsGuestLdtrLimit => some { state with ldt := { state.ldt with limit := value.toUInt32 } }
  | vmcsGuestLdtrAccessRights => some { state with ldt := setSegmentAccess state.ldt value }
  | vmcsGuestLdtrBase => some { state with ldt := { state.ldt with base := value } }
  | vmcsGuestTrSelector => some { state with tr := { state.tr with selector := value.toUInt16 } }
  | vmcsGuestTrLimit => some { state with tr := { state.tr with limit := value.toUInt32 } }
  | vmcsGuestTrAccessRights => some { state with tr := setSegmentAccess state.tr value }
  | vmcsGuestTrBase => some { state with tr := { state.tr with base := value } }
  | vmcsGuestGdtrLimit => some { state with gdt := { state.gdt with limit := value.toUInt32 } }
  | vmcsGuestGdtrBase => some { state with gdt := { state.gdt with base := value } }
  | vmcsGuestIdtrLimit => some { state with idt := { state.idt with limit := value.toUInt32 } }
  | vmcsGuestIdtrBase => some { state with idt := { state.idt with base := value } }
  | vmcsGuestCr0 => some { state with cr0 := value }
  | vmcsGuestCr3 => some { state with cr3 := value }
  | vmcsGuestCr4 => some { state with cr4 := value }
  | vmcsGuestDr7 => some { state with dr7 := value }
  | vmcsGuestRsp => some { state with rsp := value }
  | vmcsGuestRip => some { state with rip := value }
  | vmcsGuestRflags => some { state with rflags := value }
  | vmcsGuestIa32SysenterCs => some { state with sysenterCs := value.toUInt32 }
  | vmcsGuestIa32SysenterEsp => some { state with sysenterEsp := value }
  | vmcsGuestIa32SysenterEip => some { state with sysenterEip := value }
  | _ => none

/-- `hax_sync_vcpu_state(CPU, &state, 0)`, with the outcome of its ioctl. -/
def readVcpuState (ok : Bool) (driver : Driver) : Option VcpuState :=
  if ok then some driver.regs else none

/-- `hax_sync_vcpu_state(CPU, &state, 1)`. -/
def writeVcpuState (ok : Bool) (driver : Driver) (state : VcpuState) : Option Driver :=
  if ok then some { driver with regs := state } else none

/-- `VCpu_WriteVMCS`, with the outcomes of its two ioctls. Each failure and an
unlisted field stop in `__debugbreak`. -/
def vCpuWriteVmcs (readOk writeOk : Bool) (driver : Driver) (field : UInt32) (value : UInt64) :
    Option Driver := do
  let state ← readVcpuState readOk driver
  let state ← writeField state field value
  writeVcpuState writeOk driver state

end ShellcodeVM.Hax
