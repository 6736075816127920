import ShellcodeVM.Lib.Store
import ShellcodeVM.Haxm.WriteVmcs
import ShellcodeVM.Hax.WriteVmcs

/-!
The two ways of writing VMCS fields. `HAXM_CPU` reads the registers, writes any
number of fields to its copy and puts the copy back; `VCpu_WriteVMCS` goes through
the driver for every field. Both are updates of the same cell, by two switches that
are compared case by case.
-/
namespace ShellcodeVM
open Machine Haxm

/-- A VMCS field and the value to write. -/
abbrev VmcsWrite := UInt32 × UInt64

/-- `get_cpu_state`, `write_vmcs` for each pair, `set_cpu_state`. -/
def batchedUpdate (cpu : HaxmCpu) (driver : Driver) (writes : List VmcsWrite) :
    Option Driver := do
  let cpu := (cpu.getCpuState true driver).2
  let cpu ← writes.foldlM (fun cpu write => cpu.writeVmcs write.1 write.2) cpu
  return (cpu.setCpuState true driver).2

/-- `VCpu_WriteVMCS` for each pair. -/
def perFieldUpdate (driver : Driver) (writes : List VmcsWrite) : Option Driver :=
  writes.foldlM (fun driver write => Hax.vCpuWriteVmcs true true driver write.1 write.2) driver

/-- The fields that the switch of `write_vmcs` lists. -/
def Haxm.HaxmCpu.Handles (field : UInt32) : Prop :=
  ∀ state value, (HaxmCpu.writeField state field value).isSome

/-- The fields that the switch of `VCpu_WriteVMCS` lists. -/
def Hax.Handles (field : UInt32) : Prop :=
  ∀ state value, (Hax.writeField state field value).isSome

/-- The copy that a `HAXM_CPU` keeps. -/
def stateCell : Cell HaxmCpu VcpuState where
  get cpu := cpu.mState
  put cpu state := { cpu with mState := state }
  get_put _ _ := rfl
  put_get _ := rfl
  put_put _ _ _ := rfl

/-- The registers that the driver keeps. -/
def driverCell : Cell Driver VcpuState where
  get driver := driver.regs
  put driver state := { driver with regs := state }
  get_put _ _ := rfl
  put_get _ := rfl
  put_put _ _ _ := rfl

/-- The two switches agree on every field. -/
theorem writeField_eq (state : VcpuState) (field : UInt32) (value : UInt64) :
    HaxmCpu.writeField state field value = Hax.writeField state field value := by
  -- Both list the same labels, and reduction compares their actions pair by pair.
  rfl

theorem handles_iff (field : UInt32) : HaxmCpu.Handles field ↔ Hax.Handles field := by
  simp only [HaxmCpu.Handles, Hax.Handles, writeField_eq]

/-- One write of a list, on a register file. -/
def writePair (state : VcpuState) (write : VmcsWrite) : Option VcpuState :=
  Hax.writeField state write.1 write.2

theorem writeVmcs_eq_modify (cpu : HaxmCpu) (write : VmcsWrite) :
    cpu.writeVmcs write.1 write.2 = stateCell.modify writePair cpu write := by
  rw [HaxmCpu.writeVmcs, writeField_eq]
  rfl

theorem vCpuWriteVmcs_eq_modify (driver : Driver) (write : VmcsWrite) :
    Hax.vCpuWriteVmcs true true driver write.1 write.2 =
      driverCell.modify writePair driver write := by
  change (Hax.writeField driver.regs write.1 write.2 >>= _) =
    (Hax.writeField driver.regs write.1 write.2).map _
  cases Hax.writeField driver.regs write.1 write.2 with
  | none => rfl
  | some state => rfl

theorem perFieldUpdate_eq (driver : Driver) (writes : List VmcsWrite) :
    perFieldUpdate driver writes = driverCell.batch writePair driver writes := by
  have hstep : (fun driver write => Hax.vCpuWriteVmcs true true driver write.1 write.2) =
      driverCell.modify writePair := by
    funext driver write
    exact vCpuWriteVmcs_eq_modify driver write
  rw [perFieldUpdate, hstep, Cell.foldlM_modify]

theorem batchedUpdate_eq (cpu : HaxmCpu) (driver : Driver) (writes : List VmcsWrite) :
    batchedUpdate cpu driver writes = driverCell.batch writePair driver writes := by
  have hstep : (fun (cpu : HaxmCpu) (write : VmcsWrite) => cpu.writeVmcs write.1 write.2) =
      stateCell.modify writePair := by
    funext cpu write
    exact writeVmcs_eq_modify cpu write
  simp only [batchedUpdate]
  rw [hstep, Cell.foldlM_modify]
  change ((writes.foldlM writePair driver.regs).map _ >>= _) =
    (writes.foldlM writePair driver.regs).map _
  cases writes.foldlM writePair driver.regs with
  | none => rfl
  | some state => rfl

/-- Batched and per-field updates by handled fields both succeed and leave the same
registers, and both switches handle the same fields. -/
theorem vmcsUpdates_agree (cpu : HaxmCpu) (driver : Driver) (writes : List VmcsWrite)
    (handled : ∀ write ∈ writes, HaxmCpu.Handles write.1) :
    (∃ driver', batchedUpdate cpu driver writes = some driver' ∧
      perFieldUpdate driver writes = some driver') ∧
    ∀ field, HaxmCpu.Handles field ↔ Hax.Handles field := by
  refine ⟨?_, handles_iff⟩
  have hsome : (driverCell.batch writePair driver writes).isSome := by
    apply Cell.batch_isSome
    intro write hmem state
    exact (handles_iff write.1).mp (handled write hmem) state write.2
  obtain ⟨driver', hdriver⟩ := Option.isSome_iff_exists.mp hsome
  refine ⟨driver', ?_, ?_⟩
  · rw [batchedUpdate_eq, hdriver]
  · rw [perFieldUpdate_eq, hdriver]

/-- Two parts of CS, the rights before the selector. -/
theorem vmcsUpdates_agree_cs :
    (∃ driver', batchedUpdate default default
        [(vmcsGuestCsAccessRights, 0x9b), (vmcsGuestCsSelector, 8)] = some driver' ∧
      perFieldUpdate default
        [(vmcsGuestCsAccessRights, 0x9b), (vmcsGuestCsSelector, 8)] = some driver') ∧
    ∀ field, HaxmCpu.Handles field ↔ Hax.Handles field := by
  apply vmcsUpdates_agree default default
    [(vmcsGuestCsAccessRights, 0x9b), (vmcsGuestCsSelector, 8)]
  intro write hmem
  rcases List.mem_cons.mp hmem with rfl | hmem
  · exact fun _ _ => rfl
  · rw [List.mem_singleton.mp hmem]
    exact fun _ _ => rfl

end ShellcodeVM
