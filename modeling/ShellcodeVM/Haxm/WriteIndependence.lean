import ShellcodeVM.VmcsUpdates
import ShellcodeVM.Haxm.RegisterParts

/-!
Writes of `HAXM_CPU::write_vmcs` to different fields do not meet: each is a write
to the cell of the part that its field names, and no two fields name one part.
-/
namespace ShellcodeVM.Haxm
open Machine

/-- A write of a list, which does nothing for a field that the switch does not list. -/
def storePart (state : VcpuState) (w : VmcsWrite) : VcpuState :=
  match registerPart w.1 with
  | some part => part.cell.put state (part.ofWord w.2)
  | none => state

theorem mem_of_registerPart {field : UInt32} {part : RegisterPart}
    (h : registerPart field = some part) : (field, part) ∈ vmcsFields := by
  obtain ⟨before, after, heq, -⟩ := List.lookup_eq_some_iff.mp h
  rw [heq]
  exact List.mem_append_right before List.mem_cons_self

theorem writeField_eq_store {field : UInt32} {part : RegisterPart}
    (h : registerPart field = some part) (state : VcpuState) (value : UInt64) :
    HaxmCpu.writeField state field value = some (storePart state (field, value)) := by
  simp only [writeField_of_mem state value _ (mem_of_registerPart h), storePart, h]

/-- Every handled field names a part. -/
theorem registerPart_of_handles {field : UInt32} (h : HaxmCpu.Handles field) :
    ∃ part, registerPart field = some part := by
  obtain ⟨state', hstate⟩ := Option.isSome_iff_exists.mp (h default 0)
  obtain ⟨w, hmem, rfl⟩ := List.mem_map.mp (mem_of_writeField hstate)
  cases hpart : registerPart w.1 with
  | some part => exact ⟨part, rfl⟩
  | none =>
      have hne := List.lookup_eq_none_iff.mp hpart w hmem
      simp at hne

/-- No two fields name one part. -/
theorem registerPart_injective {f g : UInt32} {part : RegisterPart}
    (hf : registerPart f = some part) (hg : registerPart g = some part) : f = g := by
  have hinj : ∀ w ∈ vmcsFields, ∀ w' ∈ vmcsFields, w.2 = w'.2 → w.1 = w'.1 := by decide
  exact hinj _ (mem_of_registerPart hf) _ (mem_of_registerPart hg) rfl

theorem storePart_lastWins : LastWins storePart where
  overwrite state f a b := by
    cases hf : registerPart f with
    | none => simp only [storePart, hf]
    | some part => simp only [storePart, hf, part.cell.put_put]
  commute state f g a b hne := by
    cases hf : registerPart f with
    | none => simp only [storePart, hf]
    | some part =>
        cases hg : registerPart g with
        | none => simp only [storePart, hf, hg]
        | some part' =>
            have hparts : part ≠ part' := by
              rintro rfl
              exact hne (registerPart_injective hf hg)
            simp only [storePart, hf, hg]
            exact RegisterPart.cell_independent hparts _ _ _

theorem writeVmcs_eq_store {field : UInt32} (h : HaxmCpu.Handles field) (cpu : HaxmCpu)
    (value : UInt64) : cpu.writeVmcs field value = some ⟨storePart cpu.mState (field, value)⟩ := by
  obtain ⟨part, hpart⟩ := registerPart_of_handles h
  rw [HaxmCpu.writeVmcs, writeField_eq_store hpart, Option.map_some]

/-- A sequence of writes as one fold over the registers. -/
theorem foldlM_writeVmcs {ws : List VmcsWrite} (h : ∀ w ∈ ws, HaxmCpu.Handles w.1)
    (cpu : HaxmCpu) :
    ws.foldlM (fun cpu w => cpu.writeVmcs w.1 w.2) cpu =
      some ⟨ws.foldl storePart cpu.mState⟩ := by
  induction ws generalizing cpu with
  | nil => rfl
  | cons w ws ih =>
      rw [List.foldlM_cons, writeVmcs_eq_store (h w List.mem_cons_self)]
      exact ih (fun w' hw' => h w' (List.mem_cons_of_mem w hw')) _

/-- Sequences with the same last writes write the same fields. -/
theorem handles_of_lastWrite {ws ws' : List VmcsWrite} (h : ∀ w ∈ ws, HaxmCpu.Handles w.1)
    (hlast : ∀ field, lastWrite field ws = lastWrite field ws') :
    ∀ w ∈ ws', HaxmCpu.Handles w.1 := by
  intro w' hw'
  have hwritten : lastWrite w'.1 ws ≠ none := by
    rw [hlast, Ne, lastWrite_eq_none]
    exact fun hnone => hnone w' hw' rfl
  rw [Ne, lastWrite_eq_none] at hwritten
  push Not at hwritten
  obtain ⟨w, hw, hfield⟩ := hwritten
  exact hfield ▸ h w hw

/-- Writes to different fields commute, of two writes to one field the second stays,
a write changes nothing but the part that its field names, and so a sequence of writes
leaves what the last write to each field leaves. -/
theorem writeVmcs_independent (f g : UInt32) (hf : HaxmCpu.Handles f) (hg : HaxmCpu.Handles g)
    (cpu : HaxmCpu) (a b : UInt64) :
    (f ≠ g → ((cpu.writeVmcs f a).bind fun cpu => cpu.writeVmcs g b) =
      (cpu.writeVmcs g b).bind fun cpu => cpu.writeVmcs f a) ∧
    ((cpu.writeVmcs f a).bind fun cpu => cpu.writeVmcs f b) = cpu.writeVmcs f b ∧
    (∃ part cpu', registerPart f = some part ∧ cpu.writeVmcs f a = some cpu' ∧
      part.cell.put cpu'.mState (part.cell.get cpu.mState) = cpu.mState) ∧
    ∀ ws ws' : List VmcsWrite, (∀ w ∈ ws, HaxmCpu.Handles w.1) →
      (∀ field, lastWrite field ws = lastWrite field ws') →
      ws.foldlM (fun cpu w => cpu.writeVmcs w.1 w.2) cpu =
        ws'.foldlM (fun cpu w => cpu.writeVmcs w.1 w.2) cpu := by
  refine ⟨?_, ?_, ?_, ?_⟩
  · intro hne
    simp only [writeVmcs_eq_store hf, writeVmcs_eq_store hg, Option.bind_some]
    rw [storePart_lastWins.commute cpu.mState f g a b hne]
  · simp only [writeVmcs_eq_store hf, Option.bind_some]
    rw [storePart_lastWins.overwrite]
  · obtain ⟨part, hpart⟩ := registerPart_of_handles hf
    refine ⟨part, _, hpart, writeVmcs_eq_store hf cpu a, ?_⟩
    simp only [storePart, hpart]
    exact part.cell.put_back cpu.mState (part.ofWord a)
  · intro ws ws' hws hlast
    rw [foldlM_writeVmcs hws, foldlM_writeVmcs (handles_of_lastWrite hws hlast),
      storePart_lastWins.foldl_congr hlast]

/-- Registers with a flat ES and a busy TR whose rights have bits that no write to them
reaches. -/
def runningCpu : HaxmCpu where
  mState :=
    { (default : VcpuState) with
      rax := 0x1122334455667788
      cr0 := 0x80000033
      es := ⟨0x23, 0, 0xFFFFFFFF, 0, 0xC0F3, 0⟩
      tr := ⟨0x38, 0, 0x67, 0x80102000, 0xFFFFE08B, 0⟩ }

/-- The rights and the base of TR. -/
theorem writeVmcs_independent_tr :
    (vmcsGuestTrAccessRights ≠ vmcsGuestTrBase →
      ((runningCpu.writeVmcs vmcsGuestTrAccessRights 0x1089).bind fun cpu =>
          cpu.writeVmcs vmcsGuestTrBase 0x80203000) =
        (runningCpu.writeVmcs vmcsGuestTrBase 0x80203000).bind fun cpu =>
          cpu.writeVmcs vmcsGuestTrAccessRights 0x1089) ∧
    ((runningCpu.writeVmcs vmcsGuestTrAccessRights 0x1089).bind fun cpu =>
        cpu.writeVmcs vmcsGuestTrAccessRights 0x80203000) =
      runningCpu.writeVmcs vmcsGuestTrAccessRights 0x80203000 ∧
    (∃ part cpu', registerPart vmcsGuestTrAccessRights = some part ∧
      runningCpu.writeVmcs vmcsGuestTrAccessRights 0x1089 = some cpu' ∧
      part.cell.put cpu'.mState (part.cell.get runningCpu.mState) = runningCpu.mState) ∧
    ∀ ws ws' : List VmcsWrite, (∀ w ∈ ws, HaxmCpu.Handles w.1) →
      (∀ field, lastWrite field ws = lastWrite field ws') →
      ws.foldlM (fun cpu w => cpu.writeVmcs w.1 w.2) runningCpu =
        ws'.foldlM (fun cpu w => cpu.writeVmcs w.1 w.2) runningCpu :=
  writeVmcs_independent vmcsGuestTrAccessRights vmcsGuestTrBase (fun _ _ => rfl)
    (fun _ _ => rfl) runningCpu 0x1089 0x80203000

end ShellcodeVM.Haxm
