import ShellcodeVM.Haxm.WriteIndependence

/-!
Access-rights writes. `SET_SEGMENT_ACCESS` stores type, S, DPL, P and AVL; the bits
of `segment_desc_t` for L, D/B, G and unusable are left as they were, so a write
gives the segment the rights asked for only when those already agree.
-/
namespace ShellcodeVM
open Machine Haxm

/-- The bits of an access-rights word that have no meaning: 8-11 and 17-31. -/
def reservedRights : UInt32 := 0xfffe0f00

/-- L, D/B, G and unusable. -/
def highRights : UInt32 := 0x1e000

theorem replaceBits_and_compl (word value mask : UInt32) :
    replaceBits word value mask &&& ~~~mask = word &&& ~~~mask := by
  rw [replaceBits, or_and_distrib, UInt32.and_assoc, UInt32.and_self, UInt32.and_assoc value,
    UInt32.and_not_self, UInt32.and_zero, UInt32.or_zero]

/-- All bits come out right when those outside the mask were right before. -/
theorem replaceBits_eq_iff (word value mask : UInt32) :
    replaceBits word value mask = value ↔ word &&& ~~~mask = value &&& ~~~mask := by
  constructor
  · intro h
    rw [← replaceBits_and_compl word value mask, h]
  · intro h
    rw [replaceBits, h]
    exact replaceBits_self value mask

/-- Outside the mask, rights with clear reserved bits are the four high bits. -/
theorem and_compl_accessMask {rights : UInt32} (h : rights &&& reservedRights = 0) :
    rights &&& ~~~accessMask = rights &&& highRights := by
  have hbits : ~~~accessMask = reservedRights ||| highRights := by decide
  rw [hbits, UInt32.and_comm, or_and_distrib, UInt32.and_comm, h, UInt32.zero_or,
    UInt32.and_comm]

/-- The register word after a write to the access rights of a segment. -/
theorem ar_storePart {field : UInt32} {r : DescriptorRegister}
    (h : registerPart field = some (.descriptor r .accessRights)) (state : VcpuState)
    (rights : UInt32) :
    (r.cell.get (storePart state (field, rights.toUInt64))).ar =
      replaceBits (r.cell.get state).ar rights accessMask := by
  simp only [storePart, h]
  change (r.cell.get (r.cell.put state _)).ar = _
  rw [r.cell.get_put]
  change replaceBits (r.cell.get state).ar rights.toUInt64.toUInt32 accessMask = _
  rw [UInt32.toUInt32_toUInt64]

theorem ar_storePart_iff {field : UInt32} {r : DescriptorRegister}
    (h : registerPart field = some (.descriptor r .accessRights)) (state : VcpuState)
    {rights : UInt32} (hreserved : rights &&& reservedRights = 0) :
    (r.cell.get (storePart state (field, rights.toUInt64))).ar = rights ↔
      (r.cell.get state).ar &&& ~~~accessMask = rights &&& highRights := by
  rw [ar_storePart h, replaceBits_eq_iff, and_compl_accessMask hreserved]

/-- Either writer gives a segment the rights asked for exactly when its word had the
reserved bits clear and L, D/B, G and unusable as asked for before the write. -/
theorem accessRights_faithful_iff (field : UInt32) (r : DescriptorRegister)
    (hfield : registerPart field = some (.descriptor r .accessRights)) (rights : UInt32)
    (hreserved : rights &&& reservedRights = 0) (cpu : HaxmCpu) (driver : Driver) :
    ((∃ cpu', cpu.writeVmcs field rights.toUInt64 = some cpu' ∧
        (r.cell.get cpu'.mState).ar = rights) ↔
      (r.cell.get cpu.mState).ar &&& ~~~accessMask = rights &&& highRights) ∧
    ((∃ driver', Hax.vCpuWriteVmcs true true driver field rights.toUInt64 = some driver' ∧
        (r.cell.get driver'.regs).ar = rights) ↔
      (r.cell.get driver.regs).ar &&& ~~~accessMask = rights &&& highRights) := by
  have hwrite (state : VcpuState) : HaxmCpu.writeField state field rights.toUInt64 =
      some (storePart state (field, rights.toUInt64)) :=
    writeField_eq_store hfield state rights.toUInt64
  have hcpu : cpu.writeVmcs field rights.toUInt64 =
      some ⟨storePart cpu.mState (field, rights.toUInt64)⟩ := by
    rw [HaxmCpu.writeVmcs, hwrite, Option.map_some]
  have hdriver : Hax.vCpuWriteVmcs true true driver field rights.toUInt64 =
      some ⟨storePart driver.regs (field, rights.toUInt64)⟩ := by
    rw [vCpuWriteVmcs_eq_modify driver (field, rights.toUInt64), Cell.modify, writePair,
      ← writeField_eq]
    exact congrArg _ (hwrite driver.regs)
  refine ⟨?_, ?_⟩
  · rw [← ar_storePart_iff hfield cpu.mState hreserved]
    simp [hcpu]
  · rw [← ar_storePart_iff hfield driver.regs hreserved]
    simp [hdriver]

/-- A flat 4 GB code segment: G and D/B were set before. -/
theorem accessRights_faithful_iff_cs :
    ((∃ cpu', HaxmCpu.writeVmcs ⟨{ (default : VcpuState) with cs.ar := 0xc093 }⟩
          vmcsGuestCsAccessRights (0xc09b : UInt32).toUInt64 = some cpu' ∧
        (DescriptorRegister.cs.cell.get cpu'.mState).ar = 0xc09b) ↔
      (0xc093 : UInt32) &&& ~~~accessMask = 0xc09b &&& highRights) ∧
    ((∃ driver', Hax.vCpuWriteVmcs true true ⟨{ (default : VcpuState) with cs.ar := 0xc093 }⟩
          vmcsGuestCsAccessRights (0xc09b : UInt32).toUInt64 = some driver' ∧
        (DescriptorRegister.cs.cell.get driver'.regs).ar = 0xc09b) ↔
      (0xc093 : UInt32) &&& ~~~accessMask = 0xc09b &&& highRights) :=
  accessRights_faithful_iff vmcsGuestCsAccessRights .cs rfl 0xc09b (by decide) _ _

/-- The rights that `reset` writes to LDTR, on a register file that is zero. -/
theorem ldtrAccessRights_lost :
    ¬ ∀ (field : UInt32) (r : DescriptorRegister) (rights : UInt32) (cpu : HaxmCpu),
      registerPart field = some (.descriptor r .accessRights) → rights &&& reservedRights = 0 →
      ∃ cpu', cpu.writeVmcs field rights.toUInt64 = some cpu' ∧
        (r.cell.get cpu'.mState).ar = rights := by
  intro h
  obtain ⟨cpu', hwrite, har⟩ := h vmcsGuestLdtrAccessRights .ldtr 0x10000 default rfl (by decide)
  have hzero : (default : HaxmCpu).writeVmcs vmcsGuestLdtrAccessRights
      (0x10000 : UInt32).toUInt64 = some default := by decide
  rw [hzero] at hwrite
  cases hwrite
  exact absurd har (by decide)

end ShellcodeVM
