import ShellcodeVM.GuestOS.Layout
import ShellcodeVM.GuestOS.GdtSlots

/-!
The segments that ring 3 may load, read from the descriptor words as the processor
reads them. Every one but `GDT_KERNEL_FS` stays below `KERNEL_BASE`; that one is a
DPL 3 data segment in the kernel half, so no run confines ring 3.
-/
namespace ShellcodeVM.GuestOS

/-! The fields of a segment descriptor word. -/

def descLimit (w : Nat) : Nat := w % 2 ^ 16 + w / 2 ^ 48 % 2 ^ 4 * 2 ^ 16

def descBase (w : Nat) : Nat :=
  w / 2 ^ 16 % 2 ^ 16 + w / 2 ^ 32 % 2 ^ 8 * 2 ^ 16 + w / 2 ^ 56 % 2 ^ 8 * 2 ^ 24

/-- The S bit: a code or data descriptor. -/
def descCodeOrData (w : Nat) : Bool := w / 2 ^ 44 % 2 = 1

def descDpl (w : Nat) : Nat := w / 2 ^ 45 % 2 ^ 2

def descGranularity (w : Nat) : Bool := w / 2 ^ 55 % 2 = 1

/-- The last offset that the limit admits: the limit counts bytes or 4K pages. -/
def descLastOffset (w : Nat) : Nat :=
  if descGranularity w then descLimit w * 2 ^ 12 + (2 ^ 12 - 1) else descLimit w

/-- A code or data descriptor of DPL 3. -/
def Ring3Loadable (w : Nat) : Prop := descCodeOrData w ∧ descDpl w = 3

/-- Every linear address of the segment is below the kernel half. -/
def BelowKernel (w : Nat) : Prop :=
  ∀ offset, offset ≤ descLastOffset w → (descBase w + offset) % 2 ^ 32 < kernelBase

/-- Ring 3 cannot reach the kernel half through any descriptor of the table. -/
def Ring3Confined (gdt : Gdt) : Prop :=
  ∀ i, 1 ≤ i → i < maxGdtNum → Ring3Loadable (gdt.mGdt i) → BelowKernel (gdt.mGdt i)

/-- `add_tss_entry(base, limit)` calls after `Init`. -/
def addTssEntries (entries : List (Nat × Nat)) : Gdt :=
  entries.foldl (fun gdt entry => (gdt.addTssEntry entry.1 entry.2).2) Gdt.zeroed.init

theorem not_ring3Loadable_zero : ¬ Ring3Loadable 0 := by
  intro h
  exact absurd h.1 (by decide)

/-- A TSS descriptor is a system descriptor. -/
theorem not_ring3Loadable_tss (base limit : Nat) : ¬ Ring3Loadable (tssDesc base limit).image := by
  intro h
  have hsystem := h.1
  have h0 := (tssDesc base limit).limitLow.toNat_lt
  have h1 := (tssDesc base limit).baseLow.toNat_lt
  have h2 := (tssDesc base limit).baseMid.toNat_lt
  have hattr : (tssDesc base limit).attr1.toNat = 0x89 := rfl
  simp only [descCodeOrData, SegmentDesc.image, hattr, decide_eq_true_eq] at hsystem
  omega

/-- A slot of the table after `Init` and TSS calls is the one of `Init`, zero or a TSS. -/
def TssOnly (gdt : Gdt) : Prop :=
  ∀ i, 1 ≤ i → i < maxGdtNum →
    (i ≤ gdtUserFs → gdt.mGdt i = Gdt.zeroed.init.mGdt i) ∧
    (gdtUserFs < i → ¬ Ring3Loadable (gdt.mGdt i))

theorem tssOnly_init : TssOnly Gdt.zeroed.init := by
  intro i hi _
  refine ⟨fun _ => rfl, ?_⟩
  intro hlt
  have hzero : Gdt.zeroed.init.mGdt i = 0 := by
    by_contra hne
    exact absurd ((init_slot hi).mp hne) (by omega)
  rw [hzero]
  exact not_ring3Loadable_zero

theorem TssOnly.addTssEntry {gdt : Gdt} (h : TssOnly gdt) (base limit : Nat) :
    TssOnly (gdt.addTssEntry base limit).2 := by
  rw [Gdt.addTssEntry]
  rcases gdt.addEntry_cases (tssDesc base limit).image with ⟨k, hk, hklt, hzero, hadd⟩ | ⟨_, hadd⟩
  · rw [hadd]
    have hkuser : gdtUserFs < k := by
      by_contra hle
      have hinit := (h k hk hklt).1 (by omega)
      rw [hzero] at hinit
      exact (init_slot hk).mpr (by omega) hinit.symm
    intro i hi hlt
    by_cases hik : i = k
    · refine ⟨fun hle => absurd hle (by omega), fun _ => ?_⟩
      rw [hik, Gdt.store_same]
      exact not_ring3Loadable_tss base limit
    · rw [Gdt.store_of_ne gdt _ hik]
      exact h i hi hlt
  · rw [hadd]
    exact h

theorem addTssEntries_tssOnly (entries : List (Nat × Nat)) : TssOnly (addTssEntries entries) := by
  induction entries using List.reverseRecOn with
  | nil => exact tssOnly_init
  | append_singleton entries entry ih =>
      rw [addTssEntries, List.foldl_append]
      exact ih.addTssEntry entry.1 entry.2

/-- The last linear address bounds all of them when the segment does not wrap. -/
theorem belowKernel_of_last {w : Nat} (h : descBase w + descLastOffset w < kernelBase) :
    BelowKernel w := by
  intro offset hoffset
  have hbase : kernelBase < 2 ^ 32 := by decide
  rw [Nat.mod_eq_of_lt (by omega)]
  omega

/-- Of the descriptors of `Init`, ring 3 reaches the kernel half through one only. -/
theorem init_belowKernel {i : Nat} (hi : 1 ≤ i) (hle : i ≤ gdtUserFs) (hfs : i ≠ gdtKernelFs)
    (h : Ring3Loadable (Gdt.zeroed.init.mGdt i)) : BelowKernel (Gdt.zeroed.init.mGdt i) := by
  have hcases : i = 1 ∨ i = 2 ∨ i = 3 ∨ i = 4 ∨ i = 6 := by
    rw [gdtUserFs] at hle
    rw [gdtKernelFs] at hfs
    omega
  rcases hcases with rfl | rfl | rfl | rfl | rfl
  · exact absurd h.2 (by decide)
  · exact absurd h.2 (by decide)
  · exact belowKernel_of_last (by decide)
  · exact belowKernel_of_last (by decide)
  · exact belowKernel_of_last (by decide)

theorem init_kernelFs :
    Ring3Loadable (Gdt.zeroed.init.mGdt gdtKernelFs) ∧
      ¬ BelowKernel (Gdt.zeroed.init.mGdt gdtKernelFs) := by
  refine ⟨⟨by decide, by decide⟩, ?_⟩
  intro h
  have hfirst := h 0 (Nat.zero_le _)
  exact absurd hfirst (by decide)

/-- After any TSS calls `GDT_KERNEL_FS` is the one segment that lets ring 3 into the
kernel half. -/
theorem ring3_reaches_kernel_iff (entries : List (Nat × Nat)) {i : Nat} (hi : 1 ≤ i)
    (hlt : i < maxGdtNum) :
    (Ring3Loadable ((addTssEntries entries).mGdt i) ∧
      ¬ BelowKernel ((addTssEntries entries).mGdt i)) ↔ i = gdtKernelFs := by
  have htss := addTssEntries_tssOnly entries i hi hlt
  by_cases hle : i ≤ gdtUserFs
  · rw [htss.1 hle]
    by_cases hfs : i = gdtKernelFs
    · rw [hfs]
      exact ⟨fun _ => rfl, fun _ => init_kernelFs⟩
    · refine ⟨fun h => absurd (init_belowKernel hi hle hfs h.1) h.2, fun h => absurd h hfs⟩
  · refine ⟨fun h => absurd h.1 (htss.2 (by omega)), ?_⟩
    intro h
    rw [h] at hle
    exact absurd (by decide : gdtKernelFs ≤ gdtUserFs) hle

/-- No run of TSS calls after `Init` confines ring 3. -/
theorem ring3_never_confined (entries : List (Nat × Nat)) :
    ¬ Ring3Confined (addTssEntries entries) := by
  intro h
  have hfs := (ring3_reaches_kernel_iff entries (by decide : 1 ≤ gdtKernelFs) (by decide)).mpr rfl
  exact hfs.2 (h gdtKernelFs (by decide) (by decide) hfs.1)

/-- The table that `Init` leaves. -/
theorem init_not_confined : ¬ ∀ entries, Ring3Confined (addTssEntries entries) := by
  intro h
  exact init_kernelFs.2 (h [] gdtKernelFs (by decide) (by decide) init_kernelFs.1)

end ShellcodeVM.GuestOS
