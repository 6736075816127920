import ShellcodeVM.GuestOS.Kernel
import ShellcodeVM.TargetI386.Tlb

/-!
What code may do in the address space of the guest kernel, on a processor that reads its
tables: user code may store to every page that is mapped, the kernel's own and the page
tables among them, but for the shellcode buffer.
-/
namespace ShellcodeVM.TargetI386
open Machine Boot GuestOS CpuX86State

/-- The processor uses the tables that the pager's processor uses, and small pages only. -/
structure RunsOn (env : CpuX86State) (u : Mmu) : Prop where
  paged : env.Paged
  mem : env.mem = u.mem
  dir : env.cr3 = u.dir
  small : env.largePages = false

/-- The addresses of the shellcode buffer. -/
def InShellcodeBuf (v : Nat) : Prop :=
  shellcodeBufVirtualAddr ≤ v ∧ v < shellcodeBufVirtualAddr + shellcodeBufSize

instance (v : Nat) : Decidable (InShellcodeBuf v) := inferInstanceAs (Decidable (_ ∧ _))

theorem translate_kernel {m : Memory} {u : Mmu} (hu : mainPaging (startup m) = some u)
    {env : CpuX86State} (h : RunsOn env u) {v : Nat} (hv : v < 2 ^ 32) :
    env.translate v = kernelTranslation v := by
  obtain ⟨u', hrun, hdir, htab, hentry, hmap⟩ := mainPaging_spec m
  have hsame : u' = u := Option.some.inj (hrun.symm.trans hu)
  subst hsame
  have hcr3 : env.dir = u'.dir := by
    rw [CpuX86State.dir, h.dir, hdir]
    rfl
  rw [CpuX86State.translate, h.small, h.mem, hcr3, walkLarge_false]
  exact walk_kernel hdir htab hentry hmap hv

/-- Only the shellcode buffer has entries without the write bit. -/
theorem kernelRange_attr : ∀ r ∈ kernelRanges,
    r.attr = 7 ∧ (r.vaBase + r.size ≤ 0x1000000 ∨ 0x1100000 ≤ r.vaBase) ∨
      r = ⟨⟨0x1000000, 0x1000000, 0x100000⟩, 5⟩ := by decide

theorem inShellcodeBuf_iff (v : Nat) : InShellcodeBuf v ↔ 0x1000000 ≤ v ∧ v < 0x1100000 := by
  have hsize : shellcodeBufSize = 0x100000 := mb_eq 1
  rw [InShellcodeBuf, hsize, shellcodeBufVirtualAddr]

theorem testBit_seven : ∀ k < 3, Nat.testBit 7 k = true := by decide

theorem both_buffer (address : Nat) : Translation.both ⟨address, 7, 5⟩ 1 = false ∧
    Translation.both ⟨address, 7, 5⟩ 2 = true := by
  have hrw : (Nat.testBit 7 1 && Nat.testBit 5 1) = false := by decide
  have huser : (Nat.testBit 7 2 && Nat.testBit 5 2) = true := by decide
  exact ⟨hrw, huser⟩

theorem permits_kernel {v : Nat} {t : Translation} (ht : kernelTranslation v = some t)
    (protect isUser isWrite : Bool) :
    t.permits protect isUser isWrite = true ↔
      (isWrite = true → InShellcodeBuf v → isUser = false ∧ protect = false) := by
  obtain ⟨r, hr, hin, rfl⟩ := kernelTranslation_some ht
  simp only [MapRange.Contains] at hin
  rw [inShellcodeBuf_iff]
  obtain ⟨hattr, hplace⟩ | rfl := kernelRange_attr r hr
  · have hout : ¬ (0x1000000 ≤ v ∧ v < 0x1100000) := by omega
    have hboth : ∀ k, k < 3 → Translation.both ⟨r.paBase + (v - r.vaBase), 7, r.attr⟩ k = true := by
      intro k hk
      rw [Translation.both, hattr, testBit_seven k hk]
      rfl
    simp [Translation.permits, hboth, hout]
  · have hinside : 0x1000000 ≤ v ∧ v < 0x1100000 := by
      dsimp only at hin
      omega
    obtain ⟨hrw, huser⟩ := both_buffer (0x1000000 + (v - 0x1000000))
    rw [Translation.permits, hrw, huser]
    cases isUser <;> cases isWrite <;> cases protect <;> simp [hinside]

theorem permitted_kernel {m : Memory} {u : Mmu} (hu : mainPaging (startup m) = some u)
    {env : CpuX86State} (h : RunsOn env u) {a : Access} (ha : a.addr < 2 ^ 32) :
    a.permitted env = true ↔ (kernelTranslation a.addr).isSome = true ∧
      (a.stores = true → InShellcodeBuf a.addr → a.isUser = false ∧ env.writeProtect = false) := by
  rw [Access.permitted, translate_kernel hu h ha]
  cases ht : kernelTranslation a.addr with
  | none => simp
  | some t =>
      rw [Option.any_some, permits_kernel ht]
      simp

/-- After any run of TLB fills in the address space of the kernel, the fill for an access fails
where nothing is mapped, and for a store to the shellcode buffer from user mode, or from any
mode under write protection; no other fails. -/
theorem kernel_tables_enforce {m : Memory} {u : Mmu} (hu : mainPaging (startup m) = some u)
    {env : CpuX86State} (h : RunsOn env u) {fills : List Access}
    (hfills : ∀ a ∈ fills, a.addr < 2 ^ 32) {a : Access} (ha : a.addr < 2 ^ 32) :
    let r := (env.runFills fills).tlbFill a
    (r.1 = 0 ↔ (kernelTranslation a.addr).isSome = true ∧
      (a.stores = true → InShellcodeBuf a.addr → a.isUser = false ∧ env.writeProtect = false)) ∧
    (r.1 ≠ 0 → r.2.cr2 = a.addr ∧ r.2.errorCode =
      (kernelTranslation a.addr).isSome.toNat + 2 * a.stores.toNat + 4 * a.isUser.toNat) := by
  intro r
  rw [← permitted_kernel hu h ha]
  cases hp : a.permitted env with
  | true =>
      obtain ⟨hret, -⟩ := run_permitted h.paged hfills ha hp
      exact ⟨⟨fun _ => rfl, fun _ => hret⟩, fun hne => absurd hret hne⟩
  | false =>
      obtain ⟨hret, -, hcr2, -, hcode⟩ := run_forbidden h.paged hfills ha hp
      rw [translate_kernel hu h ha] at hcode
      refine ⟨⟨fun hzero => ?_, fun hno => by cases hno⟩, fun _ => ⟨hcr2, hcode⟩⟩
      rw [hret] at hzero
      cases hzero

/-- The processor, as the boot loader leaves its control registers. -/
def kernelCpu (u : Mmu) : CpuX86State where
  mem := u.mem
  cr0 := 0x80000021
  cr2 := 0
  cr3 := u.dir
  cr4 := 0x2000
  a20Mask := 2 ^ 64 - 1
  errorCode := 0
  exceptionIndex := 0
  tlb := []

theorem kernelCpu_runsOn (u : Mmu) : RunsOn (kernelCpu u) u := by
  have hpaging : 0x80000021 &&& cr0PgMask ≠ 0 := by decide
  have hsmall : decide (0x2000 &&& cr4PseMask ≠ 0) = false := by decide
  exact ⟨⟨hpaging, rfl⟩, rfl, rfl, hsmall⟩

/-- Fills for user code that reads a page table and is to store to another. -/
def tableFills : List Access := [⟨0xC0000000, 0, 1⟩, ⟨0xC0004000, 1, 1⟩]

theorem tableFills_small : ∀ a ∈ tableFills, a.addr < 2 ^ 32 := by decide

/-- The buffer is refused to a store from user mode and open to one of the kernel; nothing is
mapped at 0x88000000. -/
theorem kernel_tables_enforce_buffer :
    ∃ u, mainPaging (startup fun _ => 0) = some u ∧
      (((kernelCpu u).runFills tableFills).tlbFill ⟨0x01000000, 1, 1⟩).2.errorCode = 7 ∧
      (((kernelCpu u).runFills tableFills).tlbFill ⟨0x01000000, 1, 0⟩).1 = 0 ∧
      (((kernelCpu u).runFills tableFills).tlbFill ⟨0x88000000, 0, 1⟩).2.errorCode = 4 := by
  obtain ⟨u, hu, -⟩ := mainPaging_spec fun _ => 0
  have henforced := fun a ha => kernel_tables_enforce hu (kernelCpu_runsOn u) tableFills_small
    (a := a) ha
  obtain ⟨huser, hcode⟩ := henforced ⟨0x01000000, 1, 1⟩ (by decide)
  obtain ⟨hkernel, -⟩ := henforced ⟨0x01000000, 1, 0⟩ (by decide)
  obtain ⟨hunmapped, hcode'⟩ := henforced ⟨0x88000000, 0, 1⟩ (by decide)
  refine ⟨u, hu, (hcode fun hzero => ?_).2.trans (by decide), hkernel.mpr ⟨by decide, ?_⟩,
    (hcode' fun hzero => ?_).2.trans (by decide)⟩
  · have hprotected := (huser.mp hzero).2 (by decide) (by decide)
    exact absurd hprotected.1 (by decide)
  · intro _ _
    exact ⟨by decide, (by decide : decide (0x80000021 &&& cr0WpMask ≠ 0) = false)⟩
  · exact absurd (hunmapped.mp hzero).1 (by decide)

end ShellcodeVM.TargetI386
