import ShellcodeVM.Boot.PageTables

/-!
The memory layout documented in `os.h`, and the proof that the boot loader's
page tables realise it: six ranges translate, nothing else does, and every
frame behind a translation is reserved in the frame database.
-/
namespace ShellcodeVM.Boot
open Machine

structure MapRange where
  paBase : Nat
  vaBase : Nat
  size : Nat
deriving DecidableEq, Repr

def MapRange.Contains (r : MapRange) (v : Nat) : Prop :=
  r.vaBase ≤ v ∧ v < r.vaBase + r.size

instance (r : MapRange) (v : Nat) : Decidable (r.Contains v) :=
  inferInstanceAs (Decidable (_ ∧ _))

/-- The memory layout, in the order in which `init_page_table` maps it. -/
def bootRanges : List MapRange :=
  [⟨0, 0, bootCodeSize⟩,
   ⟨kernelStackBottomPhysicalAddr, kernelStackBottomVirtualAddr, kernelStackSize⟩,
   ⟨frameDbPhysicalAddr, frameDbVirtualAddr, frameDbSize⟩,
   ⟨videoBufPhysicalAddr, videoBufVirtualAddr, videoBufSize⟩,
   ⟨pageTablePhysicalAddr, pageTableVirtualAddr, pageTableSize⟩,
   ⟨osCodePhysicalAddr, osCodeVirtualAddr, osCodeSize⟩]

/-- `r` maps virtual page `k`. -/
def MapRange.Covers (r : MapRange) (k : Nat) : Prop :=
  r.vaBase / 4096 ≤ k ∧ k < r.vaBase / 4096 + r.size / 4096

/-- Page-aligned, inside the 32-bit space on both sides, and inside the memory
that `init_frame_database` reserves. -/
def MapRange.WellPlaced (r : MapRange) : Prop :=
  r.paBase % 4096 = 0 ∧ r.vaBase % 4096 = 0 ∧ r.size % 4096 = 0 ∧
  r.vaBase + r.size ≤ 2 ^ 32 ∧ r.paBase + r.size ≤ kernelMemSize

instance (r : MapRange) : Decidable r.WellPlaced :=
  inferInstanceAs (Decidable (_ ∧ _ ∧ _ ∧ _ ∧ _))

def MapRange.Apart (r r' : MapRange) : Prop :=
  r.vaBase + r.size ≤ r'.vaBase ∨ r'.vaBase + r'.size ≤ r.vaBase

instance (r r' : MapRange) : Decidable (r.Apart r') :=
  inferInstanceAs (Decidable (_ ∨ _))

theorem bootRanges_wellPlaced : ∀ r ∈ bootRanges, r.WellPlaced := by decide

theorem bootRanges_apart : bootRanges.Pairwise MapRange.Apart := by decide

def mapRanges (m : Memory) (ranges : List MapRange) : Memory :=
  ranges.foldl (fun m r => mapPages m r.paBase r.vaBase r.size) m

theorem initPageTable_eq (m : Memory) :
    initPageTable m =
      mapRanges (fillPageDir (memset m pageTablePhysicalAddr 0 pageTableSize) 1024)
        bootRanges := by
  simp only [initPageTable, mapRanges, bootRanges, List.foldl_cons, List.foldl_nil]

theorem MapRange.WellPlaced.pages {r : MapRange} (h : r.WellPlaced) :
    sizeToPages r.size = r.size / 4096 := by
  obtain ⟨_, _, hsize, _, hpa⟩ := h
  rw [kernelMemSize, mb_eq] at hpa
  rw [sizeToPages_eq]
  omega

theorem pageWord_mapRange (m : Memory) {r : MapRange} (h : r.WellPlaced) (k : Nat) :
    pageWord (mapPages m r.paBase r.vaBase r.size) k =
      if r.vaBase / 4096 ≤ k ∧ k < r.vaBase / 4096 + r.size / 4096 then
        r.paBase + 4096 * (k - r.vaBase / 4096) + 7
      else pageWord m k := by
  have hpages := h.pages
  obtain ⟨hpa, hva, hsize, hvaEnd, hpaEnd⟩ := h
  rw [kernelMemSize, mb_eq] at hpaEnd
  rw [userFlags_eq, pageWord_mapPages (by norm_num) m hpa hva (by omega) (by omega), hpages]

theorem pageWord_mapRanges_uncovered (m : Memory) {ranges : List MapRange}
    (hwell : ∀ r ∈ ranges, r.WellPlaced) {k : Nat} (hout : ∀ r ∈ ranges, ¬ r.Covers k) :
    pageWord (mapRanges m ranges) k = pageWord m k := by
  induction ranges generalizing m with
  | nil => rfl
  | cons r rest ih =>
      rw [List.forall_mem_cons] at hwell hout
      change pageWord (mapRanges (mapPages m r.paBase r.vaBase r.size) rest) k = _
      rw [ih _ hwell.2 hout.2, pageWord_mapRange m hwell.1]
      exact if_neg hout.1

/-- Ranges that are apart do not overwrite each other's pages, in whatever
order they are mapped. -/
theorem pageWord_mapRanges_covered (m : Memory) {ranges : List MapRange}
    (hwell : ∀ r ∈ ranges, r.WellPlaced) (hapart : ranges.Pairwise MapRange.Apart)
    {r : MapRange} (hr : r ∈ ranges) {k : Nat} (hk : r.Covers k) :
    pageWord (mapRanges m ranges) k = r.paBase + 4096 * (k - r.vaBase / 4096) + 7 := by
  induction ranges generalizing m with
  | nil => cases hr
  | cons a rest ih =>
      rw [List.forall_mem_cons] at hwell
      rw [List.pairwise_cons] at hapart
      change pageWord (mapRanges (mapPages m a.paBase a.vaBase a.size) rest) k = _
      rcases List.mem_cons.mp hr with rfl | hr
      · have hlater : ∀ r' ∈ rest, ¬ r'.Covers k := by
          intro r' hr' hk'
          have hap := hapart.1 r' hr'
          obtain ⟨_, _, _, _, _⟩ := hwell.1
          obtain ⟨_, _, _, _, _⟩ := hwell.2 r' hr'
          simp only [MapRange.Apart, MapRange.Covers] at hap hk hk'
          omega
        rw [pageWord_mapRanges_uncovered _ hwell.2 hlater, pageWord_mapRange m hwell.1]
        exact if_pos hk
      · exact ih _ hwell.2 hapart.2 hr

theorem mapRanges_outside (m : Memory) {ranges : List MapRange}
    (hva : ∀ r ∈ ranges, r.vaBase < 2 ^ 32) {x : Nat} (hx : x < 0x400000 ∨ 0x800000 ≤ x) :
    mapRanges m ranges x = m x := by
  induction ranges generalizing m with
  | nil => rfl
  | cons r rest ih =>
      rw [List.forall_mem_cons] at hva
      change mapRanges (mapPages m r.paBase r.vaBase r.size) rest x = _
      rw [ih _ hva.2, mapPages_outside m hva.1 hx]

theorem MapRange.WellPlaced.covers_iff {r : MapRange} (h : r.WellPlaced) (v : Nat) :
    r.Covers (v / 4096) ↔ r.Contains v := by
  obtain ⟨_, hva, hsize, _, _⟩ := h
  simp only [MapRange.Covers, MapRange.Contains]
  omega

/-- The mark of a frame in the database at `FRAME_DB_PHYSICAL_ADDR`. -/
def frameMark (m : Memory) (frame : Nat) : UInt8 := m (frameDbPhysicalAddr + frame)

theorem pageWord_of_range (m : Memory) {r : MapRange} (hr : r ∈ bootRanges) {v : Nat}
    (hin : r.Contains v) :
    pageWord (initPageTable m) (v / 4096) =
      r.paBase + 4096 * (v / 4096 - r.vaBase / 4096) + 7 := by
  rw [initPageTable_eq]
  exact pageWord_mapRanges_covered _ bootRanges_wellPlaced bootRanges_apart hr
    (((bootRanges_wellPlaced r hr).covers_iff v).mpr hin)

/-- The directory slice is written twice, and the second time by the window of
the tables, so a page outside every range is outside the slice as well. -/
theorem pageWord_of_hole (m : Memory) {v : Nat} (hv : v < 2 ^ 32)
    (hout : ∀ r ∈ bootRanges, ¬ r.Contains v) :
    pageWord (initPageTable m) (v / 4096) = 0 := by
  have hwindow := hout ⟨pageTablePhysicalAddr, pageTableVirtualAddr, pageTableSize⟩ (by decide)
  simp only [MapRange.Contains, pageTableVirtualAddr, pageTableSize, mb_eq] at hwindow
  rw [initPageTable_eq, pageWord_mapRanges_uncovered _ bootRanges_wellPlaced, pageWord_fillPageDir,
    pageWord_clear m (by omega), if_neg (by omega)]
  · exact le_refl 1024
  · intro r hr hk
    exact hout r hr (((bootRanges_wellPlaced r hr).covers_iff v).mp hk)

/-- The directory slice points back at the tables, user-accessible. -/
theorem pageWord_initPageTable_dir (m : Memory) {i : Nat} (hi : i < 1024) :
    pageWord (initPageTable m) (0xC0000 + i) = 0x400000 + 4096 * i + 7 := by
  have hword := pageWord_of_range m
    (r := ⟨pageTablePhysicalAddr, pageTableVirtualAddr, pageTableSize⟩) (by decide)
    (v := 0xC0000000 + i * 4096)
    (by simp only [MapRange.Contains, pageTableVirtualAddr, pageTableSize, mb_eq]; omega)
  have hpage : (0xC0000000 + i * 4096) / 4096 = 0xC0000 + i := by omega
  have hbase : pageTableVirtualAddr / 4096 = 0xC0000 := rfl
  rw [hpage, hbase, Nat.add_sub_cancel_left] at hword
  exact hword

/-- The walk reads the page's own word, because the window of the tables maps
the directory slice onto the tables once more. -/
theorem walk_initPageTable (m : Memory) {v : Nat} (hv : v < 2 ^ 32) :
    walk (initPageTable m) pageDirPhysicalAddr v =
      if Present (pageWord (initPageTable m) (v / 4096)) then
        some ⟨frameOf (pageWord (initPageTable m) (v / 4096)) + v % 4096, 7,
          pageWord (initPageTable m) (v / 4096) % 4096⟩
      else none :=
  walk_of_pageWords (a := 7) (by norm_num) (by decide) (pageWord_initPageTable_dir m (by omega))

theorem frameMark_initPageTable (m : Memory) {frame : Nat} (hf : frame < 0x1000) :
    frameMark (initPageTable (initFrameDatabase m)) frame = pageUsed := by
  have hpages : sizeToPages kernelMemSize = 0x1000 := by decide
  have hx : 0x100000 + frame < 0x400000 := by omega
  rw [frameMark, initPageTable_eq, frameDbPhysicalAddr,
    mapRanges_outside _ (by decide) (.inl hx), fillPageDir_outside _ (le_refl 1024) (.inl hx),
    pageTablePhysicalAddr, memset_outside _ _ (.inl hx), initFrameDatabase, hpages, frameDbPhysicalAddr,
    memset_inside _ _ (by omega)]

/-- After the boot loader has built its tables, a virtual address of one of the
six ranges translates into that range and its frame is marked used; every
other address is not present. -/
theorem initPageTable_realises_layout (m : Memory) (v : Nat) (hv : v < 2 ^ 32) :
    let booted := initPageTable (initFrameDatabase m)
    (∀ r ∈ bootRanges, r.Contains v →
      ∃ t, walk booted pageDirPhysicalAddr v = some t ∧
        t.address = r.paBase + (v - r.vaBase) ∧
        frameMark booted (t.address / 4096) = pageUsed) ∧
    ((∀ r ∈ bootRanges, ¬ r.Contains v) → walk booted pageDirPhysicalAddr v = none) := by
  intro booted
  have hwalk := walk_initPageTable (initFrameDatabase m) hv
  refine ⟨?_, ?_⟩
  · intro r hr hin
    have hword := pageWord_of_range (initFrameDatabase m) hr hin
    obtain ⟨hpa, hva, hsize, hvaEnd, hpaEnd⟩ := bootRanges_wellPlaced r hr
    rw [kernelMemSize, mb_eq] at hpaEnd
    obtain ⟨hlo, hhi⟩ := hin
    have hpres : Present (pageWord booted (v / 4096)) := by
      rw [hword, Present]
      omega
    have haddr : frameOf (pageWord booted (v / 4096)) + v % 4096 = r.paBase + (v - r.vaBase) := by
      rw [hword, frameOf_add (by omega) (by norm_num)]
      omega
    rw [if_pos hpres] at hwalk
    refine ⟨_, hwalk, haddr, ?_⟩
    apply frameMark_initPageTable
    change (frameOf (pageWord booted (v / 4096)) + v % 4096) / 4096 < 0x1000
    rw [haddr]
    omega
  · intro hout
    rw [hwalk, pageWord_of_hole (initFrameDatabase m) hv hout]
    rfl

theorem initPageTable_realises_layout_kernelStack :
    ∃ t, walk (initPageTable (initFrameDatabase fun _ => 0xCC)) pageDirPhysicalAddr 0xC0701234 =
        some t ∧ t.address = 0x1234 := by
  obtain ⟨t, hwalk, haddr, _⟩ :=
    (initPageTable_realises_layout (fun _ => 0xCC) 0xC0701234 (by norm_num)).1
      ⟨kernelStackBottomPhysicalAddr, kernelStackBottomVirtualAddr, kernelStackSize⟩
      (by decide) (by decide)
  exact ⟨t, hwalk, haddr⟩

end ShellcodeVM.Boot
