import ShellcodeVM.Boot.Startup
import ShellcodeVM.GuestOS.PagerRefinement

/-!
The address space that `main` of `kernel.cpp` leaves for the shellcode: the identity
mapping of the boot loader is taken away and the shellcode buffer is mapped read-only.
-/
namespace ShellcodeVM.GuestOS
open Machine Boot

def ptReadonly : Nat := 0x000

def shellcodeBufPhysicalAddr : Nat := 0x01000000
def shellcodeBufVirtualAddr : Nat := 0x01000000
def shellcodeBufSize : Nat := mb 1

/-- What `main` asks of the pager. -/
def mainPaging (u : Mmu) : Option Mmu := do
  let u ← Pager.unmapPages u 0 frameDbPhysicalAddr
  Pager.mapPages u shellcodeBufPhysicalAddr shellcodeBufVirtualAddr shellcodeBufSize
    (ptPresent ||| ptReadonly ||| ptUser)

def mainCalls : List PagerCall :=
  [.unmapPages 0 frameDbPhysicalAddr,
   .mapPages shellcodeBufPhysicalAddr shellcodeBufVirtualAddr shellcodeBufSize
     (ptPresent ||| ptReadonly ||| ptUser)]

theorem mainPaging_eq (u : Mmu) : mainPaging u = runCalls u mainCalls := by
  simp [mainPaging, runCalls, mainCalls, PagerCall.run]

theorem mainCalls_legal : ∀ c ∈ mainCalls, c.Legal := by
  simp [mainCalls, PagerCall.Legal, frameDbPhysicalAddr, shellcodeBufPhysicalAddr,
    shellcodeBufVirtualAddr, shellcodeBufSize, mb_eq, ptPresent, ptReadonly, ptUser, Present]

/-! ### The layout -/

structure KernelRange extends MapRange where
  attr : Nat
deriving DecidableEq, Repr

/-- The layout of the boot loader without its first range, and the shellcode buffer, where
the entries have no write bit. -/
def kernelRanges : List KernelRange :=
  [⟨⟨kernelStackBottomPhysicalAddr, kernelStackBottomVirtualAddr, kernelStackSize⟩, 7⟩,
   ⟨⟨frameDbPhysicalAddr, frameDbVirtualAddr, frameDbSize⟩, 7⟩,
   ⟨⟨videoBufPhysicalAddr, videoBufVirtualAddr, videoBufSize⟩, 7⟩,
   ⟨⟨pageTablePhysicalAddr, pageTableVirtualAddr, pageTableSize⟩, 7⟩,
   ⟨⟨osCodePhysicalAddr, osCodeVirtualAddr, osCodeSize⟩, 7⟩,
   ⟨⟨shellcodeBufPhysicalAddr, shellcodeBufVirtualAddr, shellcodeBufSize⟩, 5⟩]

/-- What an address is to translate to. -/
def kernelTranslation (v : Nat) : Option Translation :=
  (kernelRanges.find? fun r => r.Contains v).map fun r => ⟨r.paBase + (v - r.vaBase), 7, r.attr⟩

def MapRange.FramesApart (r r' : MapRange) : Prop :=
  r.paBase + r.size ≤ r'.paBase ∨ r'.paBase + r'.size ≤ r.paBase

instance (r r' : MapRange) : Decidable (MapRange.FramesApart r r') :=
  inferInstanceAs (Decidable (_ ∨ _))

/-- No two of the ranges share an address, on either side. -/
theorem kernelRanges_apart : ∀ r ∈ kernelRanges, ∀ r' ∈ kernelRanges, r ≠ r' →
    MapRange.Apart r.toMapRange r'.toMapRange ∧
      MapRange.FramesApart r.toMapRange r'.toMapRange := by decide

theorem kernelTranslation_some {v : Nat} {t : Translation} (h : kernelTranslation v = some t) :
    ∃ r ∈ kernelRanges, r.Contains v ∧ t = ⟨r.paBase + (v - r.vaBase), 7, r.attr⟩ := by
  obtain ⟨r, hfind, heq⟩ := Option.map_eq_some_iff.mp h
  exact ⟨r, List.mem_of_find?_eq_some hfind, by simpa using List.find?_some hfind, heq.symm⟩

theorem kernelTranslation_none {v : Nat} (h : ∀ r ∈ kernelRanges, ¬ r.Contains v) :
    kernelTranslation v = none := by
  simpa [kernelTranslation] using h

theorem kernelRange_unique {r r' : KernelRange} (hr : r ∈ kernelRanges) (hr' : r' ∈ kernelRanges)
    {v : Nat} (hin : r.Contains v) (hin' : r'.Contains v) : r = r' := by
  by_contra hne
  have hapart := (kernelRanges_apart r hr r' hr' hne).1
  simp only [MapRange.Apart, MapRange.Contains] at hapart hin hin'
  omega

theorem kernelTranslation_of_mem {r : KernelRange} (hr : r ∈ kernelRanges) {v : Nat}
    (hin : r.Contains v) : kernelTranslation v = some ⟨r.paBase + (v - r.vaBase), 7, r.attr⟩ := by
  cases htrans : kernelTranslation v with
  | none =>
      have hnone : ∀ r ∈ kernelRanges, ¬ r.Contains v := by simpa [kernelTranslation] using htrans
      exact absurd hin (hnone r hr)
  | some t =>
      obtain ⟨r', hr', hin', rfl⟩ := kernelTranslation_some htrans
      rw [kernelRange_unique hr hr' hin hin']

/-- No byte of the memory has two linear addresses. -/
theorem kernelTranslation_inj {v v' : Nat} {t t' : Translation} (h : kernelTranslation v = some t)
    (h' : kernelTranslation v' = some t') (haddr : t.address = t'.address) : v = v' := by
  obtain ⟨r, hr, hin, rfl⟩ := kernelTranslation_some h
  obtain ⟨r', hr', hin', rfl⟩ := kernelTranslation_some h'
  simp only [MapRange.Contains] at hin hin'
  dsimp only at haddr
  by_cases heq : r = r'
  · subst heq
    omega
  · have hapart := (kernelRanges_apart r hr r' hr' heq).2
    simp only [MapRange.FramesApart] at hapart
    omega

/-! ### From the boot loader to the shellcode -/

theorem pageMap_booted_of_range (m : Memory) {r : MapRange} (hr : r ∈ bootRanges) {v : Nat}
    (hin : r.Contains v) :
    pageMap (startup m).mem (v / 4096) =
      some ⟨r.paBase + 4096 * (v / 4096 - r.vaBase / 4096), 7⟩ := by
  have hword := pageWord_of_range (initFrameDatabase m) hr hin
  obtain ⟨hpa, -⟩ := bootRanges_wellPlaced r hr
  generalize hframe : r.paBase + 4096 * (v / 4096 - r.vaBase / 4096) = frame at hword ⊢
  have hattr : (frame + 7) % 4096 = 7 := by omega
  have hpres : Present (frame + 7) := by
    simp only [Present]
    omega
  rw [startup_mem, pageMap_eq hword, if_pos hpres, frameOf_add (by omega) (by norm_num), hattr]

theorem pageMap_booted_of_hole (m : Memory) {v : Nat} (hv : v < 2 ^ 32)
    (hout : ∀ r ∈ bootRanges, ¬ r.Contains v) : pageMap (startup m).mem (v / 4096) = none := by
  rw [startup_mem, pageMap_eq (pageWord_of_hole (initFrameDatabase m) hv hout)]
  rfl

theorem dirEntry_booted (m : Memory) {i : Nat} (hi : i < 1024) :
    dirEntry (startup m).mem pageDirPhysicalAddr i = 0x400000 + 4096 * i + 7 := by
  rw [startup_mem, dirEntry_eq_pageWord, pageWord_initPageTable_dir (initFrameDatabase m) hi]

theorem walk_startup (m : Memory) {r : MapRange} (hr : r ∈ bootRanges) {v : Nat}
    (hin : r.Contains v) :
    walk (startup m).mem (startup m).dir v = some ⟨r.paBase + (v - r.vaBase), 7, 7⟩ := by
  obtain ⟨hpa, hva, -, hend, -⟩ := bootRanges_wellPlaced r hr
  have hin' := hin
  simp only [MapRange.Contains] at hin'
  have hlt : v < 2 ^ 32 := by omega
  have hi := dirIndex_lt hlt
  have htab : TablesInPlace (startup m).mem := by
    rw [startup_mem]
    exact tablesInPlace_initPageTable _
  have hattr : (0x400000 + 4096 * dirIndex v + 7) % 4096 = 7 := by omega
  have haddr : r.paBase + 4096 * (v / 4096 - r.vaBase / 4096) + v % 4096 =
      r.paBase + (v - r.vaBase) := by omega
  rw [startup_dir, walk_eq_pageMap htab hlt, pageMap_booted_of_range m hr hin,
    dirEntry_booted m hi, hattr, Option.map_some, haddr]

/-- The page map that `main` leaves. -/
def kernelPageMap (m : Memory) : PageMap :=
  mainCalls.foldl PagerCall.apply (pageMap (startup m).mem)

theorem mainPaging_spec (m : Memory) :
    ∃ u, mainPaging (startup m) = some u ∧ u.dir = pageDirPhysicalAddr ∧ TablesInPlace u.mem ∧
      (∀ i, i < 1024 → dirEntry u.mem pageDirPhysicalAddr i % 4096 = 7) ∧
      pageMap u.mem = kernelPageMap m := by
  obtain ⟨u, hrun, hdir, htab, -, hentry, hmap⟩ :=
    runCalls_refines mainCalls_legal (startup_dir m)
      (by rw [startup_mem]; exact tablesInPlace_initPageTable _)
  refine ⟨u, ?_, hdir, htab, ?_, funext hmap⟩
  · rw [mainPaging_eq, hrun]
  · intro i hi
    rw [hentry i hi, dirEntry_booted m hi]
    omega

theorem sizeToPages_frameDb : sizeToPages frameDbPhysicalAddr = 256 := by decide

theorem sizeToPages_shellcodeBuf : sizeToPages shellcodeBufSize = 256 := by decide

theorem kernelPageMap_apply (m : Memory) (k : Nat) :
    kernelPageMap m k =
      if 0x1000 ≤ k ∧ k < 0x1100 then some ⟨0x1000000 + 4096 * (k - 0x1000), 5⟩
      else if k < 256 then none
      else pageMap (startup m).mem k := by
  simp only [kernelPageMap, mainCalls, List.foldl_cons, List.foldl_nil, PagerCall.apply,
    PagerCall.Covers, PagerCall.virtualAddr, PagerCall.pages, PagerCall.size, PagerCall.mapping,
    sizeToPages_frameDb, sizeToPages_shellcodeBuf, shellcodeBufPhysicalAddr,
    shellcodeBufVirtualAddr]
  norm_num
  rfl

/-- A page of the kernel's layout, other than the shellcode buffer, is a page of the boot
loader's that the first call leaves alone. -/
theorem bootRange_of_kernelRange : ∀ r ∈ kernelRanges,
    (r.toMapRange ∈ bootRanges ∧ r.attr = 7 ∧ 0x100000 ≤ r.vaBase ∧
      (r.vaBase + r.size ≤ 0x1000000 ∨ 0x1100000 ≤ r.vaBase)) ∨
    r = ⟨⟨0x1000000, 0x1000000, 0x100000⟩, 5⟩ := by decide

/-- The ranges of the boot loader that the kernel does not keep are its own code. -/
theorem kernelRange_of_bootRange : ∀ r ∈ bootRanges,
    r.vaBase + r.size ≤ 0x100000 ∨ (⟨r, 7⟩ : KernelRange) ∈ kernelRanges := by decide

theorem kernelPageMap_of_mem (m : Memory) {r : KernelRange} (hr : r ∈ kernelRanges) {v : Nat}
    (hin : r.Contains v) :
    ∃ e, kernelPageMap m (v / 4096) = some e ∧
      e.frame + v % 4096 = r.paBase + (v - r.vaBase) ∧ e.attr = r.attr := by
  rw [kernelPageMap_apply]
  obtain ⟨hboot, hattr, hlo, hhi⟩ | rfl := bootRange_of_kernelRange r hr
  · obtain ⟨hpa, hva, -⟩ := bootRanges_wellPlaced r.toMapRange hboot
    have hmap := pageMap_booted_of_range m hboot hin
    simp only [MapRange.Contains] at hin
    rw [if_neg (by omega), if_neg (by omega), hmap]
    exact ⟨_, rfl, by dsimp only; omega, hattr.symm⟩
  · simp only [MapRange.Contains] at hin
    rw [if_pos (by omega)]
    exact ⟨_, rfl, by dsimp only; omega, rfl⟩

theorem kernelPageMap_of_none (m : Memory) {v : Nat} (hv : v < 2 ^ 32)
    (hout : ∀ r ∈ kernelRanges, ¬ r.Contains v) : kernelPageMap m (v / 4096) = none := by
  have hbuffer := hout ⟨⟨0x1000000, 0x1000000, 0x100000⟩, 5⟩ (by decide)
  simp only [MapRange.Contains] at hbuffer
  rw [kernelPageMap_apply, if_neg (by omega)]
  split_ifs with hlow
  · rfl
  · apply pageMap_booted_of_hole m hv
    intro r hr hin
    obtain hcode | hkept := kernelRange_of_bootRange r hr
    · simp only [MapRange.Contains] at hin
      omega
    · exact hout _ hkept hin

theorem walk_kernel {m : Memory} {u : Mmu} (hdir : u.dir = pageDirPhysicalAddr)
    (htab : TablesInPlace u.mem)
    (hentry : ∀ i, i < 1024 → dirEntry u.mem pageDirPhysicalAddr i % 4096 = 7)
    (hmap : pageMap u.mem = kernelPageMap m) {v : Nat} (hv : v < 2 ^ 32) :
    walk u.mem u.dir v = kernelTranslation v := by
  rw [hdir, walk_eq_pageMap htab hv, hentry _ (dirIndex_lt hv), hmap]
  by_cases hall : ∀ r ∈ kernelRanges, ¬ r.Contains v
  · rw [kernelTranslation_none hall, kernelPageMap_of_none m hv hall]
    rfl
  · simp only [not_forall, not_not] at hall
    obtain ⟨r, hr, hin⟩ := hall
    obtain ⟨e, hpage, haddr, hattr⟩ := kernelPageMap_of_mem m hr hin
    rw [kernelTranslation_of_mem hr hin, hpage, Option.map_some, haddr, hattr]

/-- The boot loader and then `main` leave the documented layout without the identity
mapping, with a read-only shellcode buffer and with one linear address at most for a byte
of the memory, whatever the memory held before. -/
theorem kernel_address_space (m : Memory) :
    ∃ u, mainPaging (startup m) = some u ∧
      (∀ v, v < 2 ^ 32 → walk u.mem u.dir v = kernelTranslation v) ∧
      ∀ v v' t t', v < 2 ^ 32 → v' < 2 ^ 32 → walk u.mem u.dir v = some t →
        walk u.mem u.dir v' = some t' → t.address = t'.address → v = v' := by
  obtain ⟨u, hrun, hdir, htab, hentry, hmap⟩ := mainPaging_spec m
  have hwalk : ∀ v, v < 2 ^ 32 → walk u.mem u.dir v = kernelTranslation v :=
    fun v hv => walk_kernel hdir htab hentry hmap hv
  refine ⟨u, hrun, hwalk, ?_⟩
  intro v v' t t' hv hv' ht ht' haddr
  rw [hwalk v hv] at ht
  rw [hwalk v' hv'] at ht'
  exact kernelTranslation_inj ht ht' haddr

example : kernelTranslation 0x01000010 = some ⟨0x01000010, 7, 5⟩ := by decide

end ShellcodeVM.GuestOS
