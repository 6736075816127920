import ShellcodeVM.Lib.Word
import ShellcodeVM.Loader.MiniDump

/-!
What `LoadMiniDump` leaves in guest RAM. The memory after any number of passes is
described byte by byte: a table entry holds what its pass recorded unless a later
copy covers it, and the data area holds the contiguous data of the dump. From this
follow the layout of a dump that fits, and exactly which dumps load safely.
-/
namespace ShellcodeVM.Loader
open Machine
variable {vm : VmContext} {dump : WinMiniDump} {list : Memory64List} {ram : Memory}

def Memory64List.count (list : Memory64List) : Nat := list.numberOfMemoryRanges.toNat

def Memory64List.start (list : Memory64List) (i : Nat) : Nat :=
  (list.memoryRanges i).startOfMemoryRange.toNat

def Memory64List.size (list : Memory64List) (i : Nat) : Nat :=
  (list.memoryRanges i).dataSize.toNat

/-- Where the slice of range `i` starts in the contiguous data. -/
def Memory64List.dataStart (list : Memory64List) (i : Nat) : Nat :=
  ∑ j ∈ Finset.range i, list.size j

/-- The contiguous data of the dump. -/
def WinMiniDump.data (dump : WinMiniDump) (list : Memory64List) : Memory :=
  fun k => dump.mapped (dump.rvaToAddress list.baseRva.toUInt32 + UInt32.ofNat k).toNat

/-- The running quantities at pass `i`. -/
def placement (vm : VmContext) (dump : WinMiniDump) (list : Memory64List) (i : Nat) :
    Placement where
  dataBase := dump.rvaToAddress list.baseRva.toUInt32 + UInt32.ofNat (list.dataStart i)
  memBlockDataOffset :=
    vm.ramUsed + memBlockListSize list + UInt32.ofNat (list.dataStart i)
  memBlockTotalSize := memBlockListSize list + UInt32.ofNat (list.dataStart i)

def blockInfo (vm : VmContext) (dump : WinMiniDump) (list : Memory64List) (i : Nat) :
    MemBlockInfo :=
  (placement vm dump list i).blockInfo (list.memoryRanges i)

/-- Guest RAM after `n` passes that do not fault. -/
def ramAfter (vm : VmContext) (dump : WinMiniDump) (list : Memory64List) (ram : Memory) :
    Nat → Memory
  | 0 => ram
  | n + 1 =>
      memcpy (writeBlockInfo (ramAfter vm dump list ram n) (blockInfoOffset vm n).toNat
          (blockInfo vm dump list n))
        (placement vm dump list n).memBlockDataOffset.toNat
        (fun k => dump.mapped ((placement vm dump list n).dataBase + UInt32.ofNat k).toNat)
        (list.memoryRanges n).dataSize.toUInt32.toNat

/-- The reads of pass `i` stay inside the view of the dump, its stores inside guest RAM. -/
structure RangeFits (vm : VmContext) (dump : WinMiniDump) (list : Memory64List) (i : Nat) :
    Prop where
  descriptor : dump.InView (descriptorAddress list.address i) memoryDescriptorSize
  entry : (blockInfoOffset vm i).toNat + memBlockInfoSize ≤ vm.ramSize.toNat
  source : (list.memoryRanges i).dataSize.toUInt32 = 0 ∨
    dump.InView (placement vm dump list i).dataBase (list.memoryRanges i).dataSize.toUInt32.toNat
  data : (list.memoryRanges i).dataSize.toUInt32 = 0 ∨
    (placement vm dump list i).memBlockDataOffset.toNat +
      (list.memoryRanges i).dataSize.toUInt32.toNat ≤ vm.ramSize.toNat

theorem Memory64List.dataStart_succ (list : Memory64List) (i : Nat) :
    list.dataStart (i + 1) = list.dataStart i + list.size i :=
  Finset.sum_range_succ _ i

theorem Memory64List.dataStart_mono (list : Memory64List) {i j : Nat} (h : i ≤ j) :
    list.dataStart i ≤ list.dataStart j :=
  Finset.sum_le_sum_of_subset (Finset.range_mono h)

/-- The 32-bit size of a range that fits is its size. -/
theorem Memory64List.toUInt32_size (list : Memory64List) {i : Nat} (h : list.size i < 2 ^ 32) :
    (list.memoryRanges i).dataSize.toUInt32.toNat = list.size i := by
  rw [UInt64.toNat_toUInt32]
  exact Nat.mod_eq_of_lt h

theorem firstPlacement_eq : firstPlacement vm dump list = placement vm dump list 0 := by
  simp [firstPlacement, placement, Memory64List.dataStart]

theorem placement_succ (i : Nat) :
    (placement vm dump list i).advance (list.memoryRanges i).dataSize =
      placement vm dump list (i + 1) := by
  have hsize : (list.memoryRanges i).dataSize.toUInt32 = UInt32.ofNat (list.size i) :=
    (UInt32.ofNat_uInt64ToNat _).symm
  simp only [placement, Placement.advance, hsize, list.dataStart_succ, UInt32.ofNat_add,
    UInt32.add_assoc]

theorem loadRange_of_fits {i : Nat} (h : RangeFits vm dump list i) :
    loadRange vm dump list i (placement vm dump list i) (ramAfter vm dump list ram i) =
      .ok (placement vm dump list (i + 1), ramAfter vm dump list ram (i + 1)) := by
  rw [loadRange, readDescriptor, if_pos h.descriptor]
  simp only [bind, Except.bind]
  rw [setBlockInfo, if_pos h.entry, Placement.source, if_pos h.source]
  simp only [copyToRam]
  rw [if_pos h.data, placement_succ]
  rfl

theorem loadRange_of_not_fits {i : Nat} (h : ¬ RangeFits vm dump list i) :
    ∃ fault, loadRange vm dump list i (placement vm dump list i)
      (ramAfter vm dump list ram i) = .error fault := by
  rw [loadRange, readDescriptor]
  by_cases hdesc : dump.InView (descriptorAddress list.address i) memoryDescriptorSize
  · rw [if_pos hdesc]
    simp only [bind, Except.bind]
    rw [setBlockInfo]
    by_cases hentry : (blockInfoOffset vm i).toNat + memBlockInfoSize ≤ vm.ramSize.toNat
    · rw [if_pos hentry, Placement.source]
      simp only
      by_cases hsource : (list.memoryRanges i).dataSize.toUInt32 = 0 ∨
          dump.InView (placement vm dump list i).dataBase
            (list.memoryRanges i).dataSize.toUInt32.toNat
      · rw [if_pos hsource]
        simp only [copyToRam]
        rw [if_neg fun hdata => h ⟨hdesc, hentry, hsource, hdata⟩]
        exact ⟨_, rfl⟩
      · rw [if_neg hsource]
        exact ⟨_, rfl⟩
    · rw [if_neg hentry]
      exact ⟨_, rfl⟩
  · rw [if_neg hdesc]
    exact ⟨_, rfl⟩

theorem loadRanges_of_fits {n : Nat} (h : ∀ i, i < n → RangeFits vm dump list i) :
    loadRanges vm dump list (firstPlacement vm dump list) ram n =
      .ok (placement vm dump list n, ramAfter vm dump list ram n) := by
  induction n with
  | zero => rw [firstPlacement_eq]; rfl
  | succ n ih =>
      rw [loadRanges, ih fun i hi => h i (Nat.lt_succ_of_lt hi)]
      exact loadRange_of_fits (h n (Nat.lt_succ_self n))

/-- A pass that leaves the view or guest RAM ends the loop in a fault. -/
theorem loadRanges_faults {n : Nat} (h : ¬ ∀ i, i < n → RangeFits vm dump list i) :
    ∃ fault, loadRanges vm dump list (firstPlacement vm dump list) ram n = .error fault := by
  induction n with
  | zero => exact absurd (fun i hi => absurd hi (Nat.not_lt_zero i)) h
  | succ n ih =>
      rw [loadRanges]
      by_cases hbefore : ∀ i, i < n → RangeFits vm dump list i
      · rw [loadRanges_of_fits hbefore]
        apply loadRange_of_not_fits
        intro hlast
        apply h
        intro i hi
        rcases Nat.lt_succ_iff_lt_or_eq.mp hi with hlt | rfl
        · exact hbefore i hlt
        · exact hlast
      · obtain ⟨fault, hfault⟩ := ih hbefore
        rw [hfault]
        exact ⟨fault, rfl⟩

/-- The loop reads only `ram_used` and `ram_size` of the context. -/
theorem loadRanges_memBlocks (blocks : UInt32) (p : Placement) (n : Nat) :
    loadRanges { vm with memBlocks := blocks } dump list p ram n =
      loadRanges vm dump list p ram n := by
  induction n with
  | zero => rfl
  | succ n ih =>
      rw [loadRanges, loadRanges, ih]
      rfl

/-- The passes that the `int` counter makes. -/
def Memory64List.passes (list : Memory64List) : Nat :=
  intPasses list.count

/-- The context that a load leaves. -/
def loadedContext (vm : VmContext) (dump : WinMiniDump) (list : Memory64List) : VmContext :=
  { vm with
    memBlocks := list.numberOfMemoryRanges.toUInt32
    ramUsed := vm.ramUsed + (placement vm dump list list.passes).memBlockTotalSize }

/-- What a load returns, from the placement and the RAM that its passes end with. -/
def loaded (vm : VmContext) (list : Memory64List) (placed : Placement × Memory) :
    Bool × VmContext × Memory :=
  (true, { vm with
    memBlocks := list.numberOfMemoryRanges.toUInt32
    ramUsed := vm.ramUsed + placed.1.memBlockTotalSize }, placed.2)

/-- The header of the list is in the view, and every pass fits. -/
structure PassesRun (vm : VmContext) (dump : WinMiniDump) (list : Memory64List) : Prop where
  header : dump.InView list.address memoryDescriptorSize
  ranges : ∀ i, i < list.passes → RangeFits vm dump list i

theorem loadMiniDump_eq (hstream : dump.getStream = some list)
    (hheader : dump.InView list.address memoryDescriptorSize) :
    loadMiniDump vm ram (some dump) =
      (loadRanges vm dump list (firstPlacement vm dump list) ram list.passes).map
        (loaded vm list) := by
  have hfirst : firstPlacement { vm with memBlocks := list.numberOfMemoryRanges.toUInt32 } dump
      list = firstPlacement vm dump list := rfl
  simp only [loadMiniDump, hstream]
  rw [loadRanges_memBlocks, hfirst, Memory64List.passes, Memory64List.count, readHeader,
    if_pos hheader]
  cases loadRanges vm dump list (firstPlacement vm dump list) ram
    (intPasses list.numberOfMemoryRanges.toNat) with
  | error _ => rfl
  | ok _ => rfl

theorem loadMiniDump_of_run (hstream : dump.getStream = some list) (h : PassesRun vm dump list) :
    loadMiniDump vm ram (some dump) =
      .ok (true, loadedContext vm dump list, ramAfter vm dump list ram list.passes) := by
  rw [loadMiniDump_eq hstream h.header, loadRanges_of_fits h.ranges]
  rfl

theorem loadMiniDump_faults (hstream : dump.getStream = some list)
    (h : ¬ PassesRun vm dump list) : ∃ fault, loadMiniDump vm ram (some dump) = .error fault := by
  by_cases hheader : dump.InView list.address memoryDescriptorSize
  · obtain ⟨fault, hfault⟩ : ∃ fault, loadRanges vm dump list (firstPlacement vm dump list) ram
        list.passes = .error fault := loadRanges_faults fun hranges => h ⟨hheader, hranges⟩
    rw [loadMiniDump_eq hstream hheader, hfault]
    exact ⟨fault, rfl⟩
  · simp only [loadMiniDump, hstream]
    rw [readHeader, if_neg hheader]
    exact ⟨_, rfl⟩

/-- A load that returns has run all its passes. -/
theorem passesRun_of_ok (hstream : dump.getStream = some list) {done : Bool × VmContext × Memory}
    (h : loadMiniDump vm ram (some dump) = .ok done) : PassesRun vm dump list := by
  by_contra hrun
  obtain ⟨fault, hfault⟩ : ∃ fault, loadMiniDump vm ram (some dump) = .error fault :=
    loadMiniDump_faults hstream hrun
  rw [hfault] at h
  cases h

section offsets

theorem blockInfoOffset_toNat {i : Nat}
    (h : vm.ramUsed.toNat + memBlockInfoSize * i ≤ vm.ramSize.toNat) :
    (blockInfoOffset vm i).toNat = vm.ramUsed.toNat + memBlockInfoSize * i := by
  have hram := vm.ramSize.toNat_lt
  have hmod : memBlockInfoSize * i < 2 ^ 32 := by omega
  rw [blockInfoOffset, UInt32.toNat_add, UInt32.toNat_ofNat', Nat.mod_eq_of_lt hmod,
    Nat.mod_eq_of_lt (by omega)]

/-- Entries that stay inside guest RAM do not wrap: the table itself is inside. -/
theorem table_inside (hused : vm.ramUsed ≤ vm.ramSize) {n : Nat}
    (h : ∀ i, i < n → RangeFits vm dump list i) :
    vm.ramUsed.toNat + memBlockInfoSize * n ≤ vm.ramSize.toNat := by
  induction n with
  | zero => exact UInt32.le_iff_toNat_le.mp hused
  | succ n ih =>
      have hn := ih fun i hi => h i (Nat.lt_succ_of_lt hi)
      have hentry := (h n (Nat.lt_succ_self n)).entry
      rw [blockInfoOffset_toNat hn] at hentry
      rw [Nat.mul_succ]
      omega

theorem passes_eq_of_lt (h : list.passes < 2 ^ 31) : list.passes = list.count := by
  rw [Memory64List.passes, intPasses] at h ⊢
  omega

theorem passes_eq (h : list.count ≤ 2 ^ 31) : list.passes = list.count := by
  rw [Memory64List.passes, intPasses, Nat.min_eq_left h]

theorem passes_eq_of_fits (hused : vm.ramUsed ≤ vm.ramSize)
    (h : ∀ i, i < list.passes → RangeFits vm dump list i) : list.passes = list.count := by
  have htable := table_inside hused h
  have hram := vm.ramSize.toNat_lt
  apply passes_eq_of_lt
  rw [memBlockInfoSize] at htable
  omega

/-- The offset of the first data area. -/
def dataOffset (vm : VmContext) (list : Memory64List) : Nat :=
  (vm.ramUsed + memBlockListSize list).toNat

theorem memBlockDataOffset_toNat (i : Nat) :
    (placement vm dump list i).memBlockDataOffset.toNat =
      (dataOffset vm list + list.dataStart i) % 2 ^ 32 := by
  rw [placement, UInt32.toNat_add, UInt32.toNat_ofNat', dataOffset]
  omega

/-- Data areas that stay inside guest RAM follow each other without a wrap. -/
theorem dataArea_eq {n : Nat}
    (hsize : ∀ i, i < n → list.size i < 2 ^ 32) (h : ∀ i, i < n → RangeFits vm dump list i) :
    (placement vm dump list n).memBlockDataOffset.toNat =
      dataOffset vm list + list.dataStart n := by
  rw [memBlockDataOffset_toNat]
  apply Nat.mod_eq_of_lt
  induction n with
  | zero =>
      rw [Memory64List.dataStart, Finset.sum_range_zero]
      exact (vm.ramUsed + memBlockListSize list).toNat_lt
  | succ n ih =>
      have hn := ih (fun i hi => hsize i (Nat.lt_succ_of_lt hi))
        fun i hi => h i (Nat.lt_succ_of_lt hi)
      have hram := vm.ramSize.toNat_lt
      have hsizen := list.toUInt32_size (hsize n (Nat.lt_succ_self n))
      rw [list.dataStart_succ]
      rcases (h n (Nat.lt_succ_self n)).data with hempty | harea
      · rw [hempty] at hsizen
        have : list.size n = 0 := hsizen.symm
        omega
      · rw [memBlockDataOffset_toNat, Nat.mod_eq_of_lt hn, hsizen] at harea
        omega

/-- Where the contiguous data is. -/
def WinMiniDump.dataAddress (dump : WinMiniDump) (list : Memory64List) : UInt32 :=
  dump.rvaToAddress list.baseRva.toUInt32

theorem WinMiniDump.InView.mono {p : UInt32} {k n : Nat} (h : dump.InView p n) (hk : k ≤ n) :
    dump.InView p k :=
  ⟨h.1, Nat.le_trans (Nat.add_le_add_left hk _) h.2⟩

theorem descriptorAddress_toNat {i : Nat}
    (h : list.address.toNat + memoryDescriptorSize * (i + 1) < 2 ^ 32) :
    (descriptorAddress list.address i).toNat =
      list.address.toNat + memoryDescriptorSize * (i + 1) := by
  have hmod : memoryDescriptorSize * (i + 1) < 2 ^ 32 := by omega
  rw [descriptorAddress, UInt32.toNat_add, UInt32.toNat_ofNat', Nat.mod_eq_of_lt hmod,
    Nat.mod_eq_of_lt h]

/-- Descriptors that stay inside the view do not wrap: the list itself is inside. -/
theorem list_inView (hheader : dump.InView list.address memoryDescriptorSize) {n : Nat}
    (h : ∀ i, i < n → RangeFits vm dump list i) :
    dump.InView list.address (memoryDescriptorSize * (n + 1)) := by
  induction n with
  | zero => exact hheader
  | succ n ih =>
      have hn := ih fun i hi => h i (Nat.lt_succ_of_lt hi)
      have hend := hn.2
      have hsize := dump.size_lt
      have hdesc := (h n (Nat.lt_succ_self n)).descriptor.2
      rw [descriptorAddress_toNat (by omega)] at hdesc
      refine ⟨hn.1, ?_⟩
      rw [Nat.mul_succ]
      omega

/-- Ranges whose data stays inside the view follow each other without a wrap. -/
theorem data_inView {n : Nat} (hsize : ∀ i, i < n → list.size i < 2 ^ 32)
    (h : ∀ i, i < n → RangeFits vm dump list i) :
    list.dataStart n = 0 ∨ dump.InView (dump.dataAddress list) (list.dataStart n) := by
  induction n with
  | zero =>
      left
      rw [Memory64List.dataStart, Finset.sum_range_zero]
  | succ n ih =>
      have hbefore := ih (fun i hi => hsize i (Nat.lt_succ_of_lt hi))
        fun i hi => h i (Nat.lt_succ_of_lt hi)
      have hsizen := list.toUInt32_size (hsize n (Nat.lt_succ_self n))
      have hview := dump.size_lt
      rw [list.dataStart_succ]
      rcases (h n (Nat.lt_succ_self n)).source with hempty | hsource
      · rw [hempty] at hsizen
        have hzero : list.size n = 0 := hsizen.symm
        rw [hzero]
        exact hbefore
      · right
        rw [hsizen] at hsource
        have hbase : (placement vm dump list n).dataBase.toNat =
            (dump.dataAddress list).toNat + list.dataStart n := by
          rcases hbefore with hzero | hdata
          · rw [placement, hzero]
            simp [WinMiniDump.dataAddress]
          · have hend := hdata.2
            rw [placement, UInt32.toNat_add, UInt32.toNat_ofNat', ← WinMiniDump.dataAddress,
              Nat.mod_eq_of_lt (a := list.dataStart n) (by omega), Nat.mod_eq_of_lt (by omega)]
        have hend := hsource.2
        have hstart := hsource.1
        rw [hbase] at hend hstart
        refine ⟨?_, by omega⟩
        rcases hbefore with hzero | hdata
        · rwa [hzero] at hstart
        · exact hdata.1

end offsets

section entries

/-- The bytes of a table entry. -/
def MemBlockInfo.bytes (info : MemBlockInfo) : Memory :=
  writeBlockInfo (fun _ => 0) 0 info

theorem writeBlockInfo_outside (ram : Memory) {a x : Nat} (info : MemBlockInfo)
    (h : x < a ∨ a + memBlockInfoSize ≤ x) : writeBlockInfo ram a info x = ram x := by
  rw [memBlockInfoSize] at h
  simp only [writeBlockInfo]
  rw [write32_of_disjoint _ _ _ (by omega), write32_of_disjoint _ _ _ (by omega),
    write32_of_disjoint _ _ _ (by omega), write32_of_disjoint _ _ _ (by omega)]

theorem window_writeBlockInfo (ram : Memory) (a : Nat) (info : MemBlockInfo) :
    window (writeBlockInfo ram a info) a = writeBlockInfo (window ram a) 0 info := by
  have hzero : window (write32 ram a info.physicalAddress.toNat) a =
      write32 (window ram a) 0 info.physicalAddress.toNat :=
    window_write32 ram a 0 info.physicalAddress.toNat
  simp only [writeBlockInfo, window_write32, hzero, Nat.zero_add]

/-- An entry is stored as its own bytes. -/
theorem writeBlockInfo_inside (ram : Memory) (a : Nat) (info : MemBlockInfo) {b : Nat}
    (hb : b < memBlockInfoSize) : writeBlockInfo ram a info (a + b) = info.bytes b := by
  have hwindow := congrFun (window_writeBlockInfo ram a info) b
  rw [window] at hwindow
  rw [hwindow, MemBlockInfo.bytes]
  rw [memBlockInfoSize] at hb
  apply write32_congr
  intro h12
  apply write32_congr
  intro h8
  apply write32_congr
  intro h4
  apply write32_congr
  intro h0
  omega

theorem bytes_physicalAddress (info : MemBlockInfo) :
    read32 info.bytes 0 = info.physicalAddress.toNat := by
  simp only [MemBlockInfo.bytes, writeBlockInfo]
  rw [read32_write32_of_disjoint _ _ _ (by omega), read32_write32_of_disjoint _ _ _ (by omega),
    read32_write32_of_disjoint _ _ _ (by omega), read32_write32_same]
  exact Nat.mod_eq_of_lt info.physicalAddress.toNat_lt

theorem bytes_virtualAddress (info : MemBlockInfo) :
    read32 info.bytes 4 = info.virtualAddress.toNat := by
  simp only [MemBlockInfo.bytes, writeBlockInfo]
  rw [read32_write32_of_disjoint _ _ _ (by omega), read32_write32_of_disjoint _ _ _ (by omega),
    read32_write32_same]
  exact Nat.mod_eq_of_lt info.virtualAddress.toNat_lt

theorem bytes_size (info : MemBlockInfo) : read32 info.bytes 8 = info.size.toNat := by
  simp only [MemBlockInfo.bytes, writeBlockInfo]
  rw [read32_write32_of_disjoint _ _ _ (by omega), read32_write32_same]
  exact Nat.mod_eq_of_lt info.size.toNat_lt

theorem bytes_flags (info : MemBlockInfo) : read32 info.bytes 12 = info.flags.toNat := by
  simp only [MemBlockInfo.bytes, writeBlockInfo]
  rw [read32_write32_same]
  exact Nat.mod_eq_of_lt info.flags.toNat_lt

/-- A table entry read back from guest RAM. -/
def readBlockInfo (ram : Memory) (a : Nat) : MemBlockInfo where
  physicalAddress := UInt32.ofNat (read32 ram a)
  virtualAddress := UInt32.ofNat (read32 ram (a + 4))
  size := UInt32.ofNat (read32 ram (a + 8))
  flags := UInt32.ofNat (read32 ram (a + 12))

theorem readBlockInfo_of_bytes {a : Nat} {info : MemBlockInfo}
    (h : ∀ b, b < memBlockInfoSize → ram (a + b) = info.bytes b) :
    readBlockInfo ram a = info := by
  rw [memBlockInfoSize] at h
  have hfield : ∀ f, f ≤ 12 → read32 ram (a + f) = read32 info.bytes f := by
    intro f hf
    apply read32_congr
    intro i hi
    rw [Nat.add_assoc]
    exact h (f + i) (by omega)
  have hzero : read32 ram a = read32 info.bytes 0 := hfield 0 (Nat.zero_le 12)
  rw [readBlockInfo, hzero, hfield 4 (by omega), hfield 8 (by omega), hfield 12 (by omega),
    bytes_physicalAddress, bytes_virtualAddress, bytes_size, bytes_flags]
  simp only [UInt32.ofNat_toNat]

end entries

section bytes

/-- `n` passes stay inside guest RAM, with sizes that fit 32 bits. -/
structure PassesFit (vm : VmContext) (dump : WinMiniDump) (list : Memory64List) (n : Nat) :
    Prop where
  used : vm.ramUsed ≤ vm.ramSize
  sizes : ∀ i, i < n → list.size i < 2 ^ 32
  ranges : ∀ i, i < n → RangeFits vm dump list i

theorem PassesFit.mono {n k : Nat} (h : PassesFit vm dump list n) (hk : k ≤ n) :
    PassesFit vm dump list k where
  used := h.used
  sizes i hi := h.sizes i (Nat.lt_of_lt_of_le hi hk)
  ranges i hi := h.ranges i (Nat.lt_of_lt_of_le hi hk)

/-- Where entry `k` of the table is. -/
def entryOffset (vm : VmContext) (k : Nat) : Nat :=
  vm.ramUsed.toNat + memBlockInfoSize * k

theorem entryOffset_succ (vm : VmContext) (k : Nat) :
    entryOffset vm (k + 1) = entryOffset vm k + memBlockInfoSize := by
  rw [entryOffset, Nat.mul_succ, ← Nat.add_assoc, entryOffset]

theorem entryOffset_mono (vm : VmContext) {k n : Nat} (h : k ≤ n) :
    entryOffset vm k ≤ entryOffset vm n :=
  Nat.add_le_add_left (Nat.mul_le_mul_left _ h) _

theorem source_apply (i k : Nat) :
    dump.mapped ((placement vm dump list i).dataBase + UInt32.ofNat k).toNat =
      dump.data list (list.dataStart i + k) := by
  simp only [placement, WinMiniDump.data, UInt32.ofNat_add, UInt32.add_assoc]

/-- What one pass does to each byte. -/
theorem ramAfter_succ {n : Nat} (h : PassesFit vm dump list (n + 1)) (x : Nat) :
    ramAfter vm dump list ram (n + 1) x =
      if dataOffset vm list + list.dataStart n ≤ x ∧
          x < dataOffset vm list + list.dataStart (n + 1) then
        dump.data list (x - dataOffset vm list)
      else
        writeBlockInfo (ramAfter vm dump list ram n) (entryOffset vm n)
          (blockInfo vm dump list n) x := by
  have hn := h.mono (Nat.le_succ n)
  have hentry : (blockInfoOffset vm n).toNat = entryOffset vm n :=
    blockInfoOffset_toNat (table_inside hn.used hn.ranges)
  have harea := dataArea_eq hn.sizes hn.ranges
  have hsize := list.toUInt32_size (h.sizes n (Nat.lt_succ_self n))
  rw [ramAfter, memcpy_apply, hentry, harea, hsize, source_apply, list.dataStart_succ,
    Nat.add_assoc]
  by_cases hx : dataOffset vm list + list.dataStart n ≤ x ∧
      x < dataOffset vm list + (list.dataStart n + list.size n)
  · rw [if_pos hx, if_pos hx]
    congr 1
    omega
  · rw [if_neg hx, if_neg hx]

/-- A table entry holds what its pass recorded, unless the data copied by that
pass or a later one covers the byte. -/
theorem ramAfter_entry {n : Nat} (h : PassesFit vm dump list n) {k b : Nat} (hk : k < n)
    (hb : b < memBlockInfoSize) :
    ramAfter vm dump list ram n (entryOffset vm k + b) =
      if dataOffset vm list + list.dataStart k ≤ entryOffset vm k + b ∧
          entryOffset vm k + b < dataOffset vm list + list.dataStart n then
        dump.data list (entryOffset vm k + b - dataOffset vm list)
      else (blockInfo vm dump list k).bytes b := by
  induction n with
  | zero => exact absurd hk (Nat.not_lt_zero k)
  | succ n ih =>
      have hmono : list.dataStart n ≤ list.dataStart (n + 1) :=
        list.dataStart_mono (Nat.le_succ n)
      rw [ramAfter_succ h]
      rcases Nat.lt_succ_iff_lt_or_eq.mp hk with hlt | rfl
      · have hstart := list.dataStart_mono (Nat.le_of_lt hlt)
        have hrow := entryOffset_mono vm (Nat.succ_le_of_lt hlt)
        rw [Nat.succ_eq_add_one, entryOffset_succ] at hrow
        rw [writeBlockInfo_outside _ _ (by omega), ih (h.mono (Nat.le_succ n)) hlt]
        split_ifs <;> first | rfl | omega
      · rw [writeBlockInfo_inside _ _ _ hb]

/-- Outside the table only the data area changes, and it holds the contiguous data. -/
theorem ramAfter_outsideTable {n : Nat} (h : PassesFit vm dump list n) {x : Nat}
    (hx : x < vm.ramUsed.toNat ∨ entryOffset vm n ≤ x) :
    ramAfter vm dump list ram n x =
      if dataOffset vm list ≤ x ∧ x < dataOffset vm list + list.dataStart n then
        dump.data list (x - dataOffset vm list)
      else ram x := by
  induction n with
  | zero =>
      rw [Memory64List.dataStart, Finset.sum_range_zero, if_neg (by omega)]
      rfl
  | succ n ih =>
      have hmono : list.dataStart n ≤ list.dataStart (n + 1) :=
        list.dataStart_mono (Nat.le_succ n)
      have hfirst := entryOffset_mono vm (Nat.zero_le n)
      have hzero : entryOffset vm 0 = vm.ramUsed.toNat := rfl
      rw [entryOffset_succ] at hx
      rw [ramAfter_succ h, writeBlockInfo_outside _ _ (by omega),
        ih (h.mono (Nat.le_succ n)) (by omega)]
      split_ifs <;> first | rfl | omega

end bytes

section safety

/-- Entry `i` of the table has the exact start and size of its range. -/
def Recorded (vm : VmContext) (list : Memory64List) (ram : Memory) (i : Nat) : Prop :=
  (readBlockInfo ram (entryOffset vm i)).virtualAddress.toNat = list.start i ∧
    (readBlockInfo ram (entryOffset vm i)).size.toNat = list.size i

/-- A load fails and changes nothing, or it succeeds: it has dereferenced a stream
that is there, read nothing outside the view of the dump, stored nothing outside guest
RAM (each would be a fault), and recorded every range without truncation. -/
def LoadsSafely (vm : VmContext) (ram : Memory) (dump : WinMiniDump) : Prop :=
  loadMiniDump vm ram (some dump) = .ok (false, vm, ram) ∨
    ∃ list vm' ram', dump.getStream = some list ∧
      loadMiniDump vm ram (some dump) = .ok (true, vm', ram') ∧
      ∀ i, i < list.count → Recorded vm list ram' i

/-- The data area, where the 32-bit offset puts it, covers byte `b` of entry `k`
after it was recorded. Without a wrap of the offset this never happens. -/
def Covers (vm : VmContext) (list : Memory64List) (k b : Nat) : Prop :=
  dataOffset vm list + list.dataStart k ≤ entryOffset vm k + b ∧
    entryOffset vm k + b < dataOffset vm list + list.dataStart list.count

/-- The list and the data behind it are inside the view of the dump. -/
structure Readable (dump : WinMiniDump) (list : Memory64List) : Prop where
  descriptors : dump.InView list.address (memoryDescriptorSize * (list.count + 1))
  data : list.dataStart list.count = 0 ∨
    dump.InView (dump.dataAddress list) (list.dataStart list.count)

/-- A dump that fits: what is read is inside the view, starts and sizes have 32 bits,
table and data are inside guest RAM, and no start or size field is covered by other
bytes. -/
structure Loadable (vm : VmContext) (dump : WinMiniDump) (list : Memory64List) : Prop where
  readable : Readable dump list
  ranges : ∀ i, i < list.count → list.start i < 2 ^ 32 ∧ list.size i < 2 ^ 32
  table : vm.ramUsed.toNat + memBlockInfoSize * list.count ≤ vm.ramSize.toNat
  data : list.dataStart list.count = 0 ∨
    dataOffset vm list + list.dataStart list.count ≤ vm.ramSize.toNat
  intact : ∀ k, k < list.count → ∀ b, 4 ≤ b → b < 12 → Covers vm list k b →
    dump.data list (entryOffset vm k + b - dataOffset vm list) =
      (blockInfo vm dump list k).bytes b

theorem passes_eq_of_table
    (h : vm.ramUsed.toNat + memBlockInfoSize * list.count ≤ vm.ramSize.toNat) :
    list.passes = list.count := by
  have hram := vm.ramSize.toNat_lt
  apply passes_eq
  rw [memBlockInfoSize] at h
  omega

theorem Readable.header (h : Readable dump list) :
    dump.InView list.address memoryDescriptorSize :=
  h.descriptors.mono (Nat.le_mul_of_pos_right _ (Nat.succ_pos _))

theorem Readable.descriptor (h : Readable dump list) {i : Nat} (hi : i < list.count) :
    dump.InView (descriptorAddress list.address i) memoryDescriptorSize := by
  have hrow : memoryDescriptorSize * (i + 2) ≤ memoryDescriptorSize * (list.count + 1) :=
    Nat.mul_le_mul_left _ (Nat.succ_le_succ hi)
  have hlow := h.descriptors.1
  have hend := h.descriptors.2
  have hview := dump.size_lt
  rw [Nat.mul_succ] at hrow
  rw [WinMiniDump.InView, descriptorAddress_toNat (by omega)]
  omega

theorem Readable.source (h : Readable dump list) (vm : VmContext) {i : Nat} (hi : i < list.count)
    (hsize : list.size i < 2 ^ 32) : (list.memoryRanges i).dataSize.toUInt32 = 0 ∨
      dump.InView (placement vm dump list i).dataBase
        (list.memoryRanges i).dataSize.toUInt32.toNat := by
  have hstart := list.dataStart_mono (Nat.succ_le_of_lt hi)
  have hsizei := list.toUInt32_size hsize
  have hview := dump.size_lt
  rw [Nat.succ_eq_add_one, list.dataStart_succ] at hstart
  rcases h.data with hempty | hdata
  · left
    apply UInt32.toNat_inj.mp
    rw [hsizei]
    change list.size i = 0
    omega
  · by_cases hzero : list.size i = 0
    · left
      apply UInt32.toNat_inj.mp
      rw [hsizei]
      exact hzero
    · right
      have hlow := hdata.1
      have hend := hdata.2
      rw [WinMiniDump.InView, hsizei, placement, UInt32.toNat_add, UInt32.toNat_ofNat',
        ← WinMiniDump.dataAddress, Nat.mod_eq_of_lt (a := list.dataStart i) (by omega),
        Nat.mod_eq_of_lt (by omega)]
      omega

theorem Loadable.passesFit (hused : vm.ramUsed ≤ vm.ramSize) (h : Loadable vm dump list) :
    PassesFit vm dump list list.count where
  used := hused
  sizes i hi := (h.ranges i hi).2
  ranges i hi := by
    have hrow : memBlockInfoSize * (i + 1) ≤ memBlockInfoSize * list.count :=
      Nat.mul_le_mul_left _ hi
    have htable := h.table
    rw [Nat.mul_succ] at hrow
    refine ⟨h.readable.descriptor hi, ?_, h.readable.source vm hi (h.ranges i hi).2, ?_⟩
    · rw [blockInfoOffset_toNat (by omega)]
      omega
    · have hstart := list.dataStart_mono (Nat.succ_le_of_lt hi)
      have hram := vm.ramSize.toNat_lt
      have hsize := list.toUInt32_size (h.ranges i hi).2
      rw [Nat.succ_eq_add_one, list.dataStart_succ] at hstart
      rcases h.data with hempty | hdata
      · left
        apply UInt32.toNat_inj.mp
        rw [hsize]
        change list.size i = 0
        omega
      · right
        rw [memBlockDataOffset_toNat, hsize, Nat.mod_eq_of_lt (by omega)]
        omega

theorem PassesFit.data_inside {n : Nat} (h : PassesFit vm dump list n) :
    list.dataStart n = 0 ∨ dataOffset vm list + list.dataStart n ≤ vm.ramSize.toNat := by
  induction n with
  | zero =>
      left
      rw [Memory64List.dataStart, Finset.sum_range_zero]
  | succ n ih =>
      have hn := h.mono (Nat.le_succ n)
      have hsize := list.toUInt32_size (h.sizes n (Nat.lt_succ_self n))
      rw [list.dataStart_succ]
      rcases (h.ranges n (Nat.lt_succ_self n)).data with hempty | harea
      · rw [hempty] at hsize
        have hzero : list.size n = 0 := hsize.symm
        rw [hzero]
        exact ih hn
      · right
        rw [dataArea_eq hn.sizes hn.ranges, hsize] at harea
        omega

theorem recorded_iff {i : Nat} :
    Recorded vm list ram i ↔
      read32 ram (entryOffset vm i + 4) = list.start i ∧
        read32 ram (entryOffset vm i + 8) = list.size i := by
  rw [Recorded, readBlockInfo, UInt32.toNat_ofNat', UInt32.toNat_ofNat',
    Nat.mod_eq_of_lt (read32_lt _ _), Nat.mod_eq_of_lt (read32_lt _ _)]

/-- An entry whose field bytes are in place records its range exactly, and only then. -/
theorem recorded_iff_bytes (dump : WinMiniDump) {i : Nat} (hstart : list.start i < 2 ^ 32)
    (hsize : list.size i < 2 ^ 32) :
    Recorded vm list ram i ↔
      ∀ b, 4 ≤ b → b < 12 → ram (entryOffset vm i + b) = (blockInfo vm dump list i).bytes b := by
  have hva : read32 (blockInfo vm dump list i).bytes 4 = list.start i := by
    rw [bytes_virtualAddress]
    change (list.memoryRanges i).startOfMemoryRange.toUInt32.toNat = list.start i
    rw [UInt64.toNat_toUInt32]
    exact Nat.mod_eq_of_lt hstart
  have hsz : read32 (blockInfo vm dump list i).bytes 8 = list.size i := by
    rw [bytes_size]
    change (list.memoryRanges i).dataSize.toUInt32.toNat = list.size i
    rw [UInt64.toNat_toUInt32]
    exact Nat.mod_eq_of_lt hsize
  rw [recorded_iff]
  refine ⟨?_, ?_⟩
  · intro h b h4 h12
    by_cases h8 : b < 8
    · have hbyte := read32_inj (h.1.trans hva.symm) (i := b - 4) (by omega)
      have hb : 4 + (b - 4) = b := by omega
      rwa [Nat.add_assoc, hb] at hbyte
    · have hbyte := read32_inj (h.2.trans hsz.symm) (i := b - 8) (by omega)
      have hb : 8 + (b - 8) = b := by omega
      rwa [Nat.add_assoc, hb] at hbyte
  · intro h
    refine ⟨?_, ?_⟩
    · rw [← hva]
      apply read32_congr
      intro j hj
      rw [Nat.add_assoc]
      exact h (4 + j) (by omega) (by omega)
    · rw [← hsz]
      apply read32_congr
      intro j hj
      rw [Nat.add_assoc]
      exact h (8 + j) (by omega) (by omega)

theorem Recorded.lt {i : Nat} (h : Recorded vm list ram i) :
    list.start i < 2 ^ 32 ∧ list.size i < 2 ^ 32 := by
  rw [recorded_iff] at h
  rw [← h.1, ← h.2]
  exact ⟨read32_lt _ _, read32_lt _ _⟩

theorem loadsSafely_of_loadable (hused : vm.ramUsed ≤ vm.ramSize)
    (hstream : dump.getStream = some list) (h : Loadable vm dump list) :
    LoadsSafely vm ram dump := by
  have hfit := h.passesFit hused
  have hpasses := passes_eq_of_table h.table
  right
  have hrun : PassesRun vm dump list := ⟨h.readable.header, hpasses ▸ hfit.ranges⟩
  refine ⟨list, _, _, hstream, loadMiniDump_of_run hstream hrun, ?_⟩
  intro i hi
  obtain ⟨hstart, hsize⟩ := h.ranges i hi
  apply (recorded_iff_bytes dump hstart hsize).mpr
  intro b h4 h12
  have hb : b < memBlockInfoSize := by rw [memBlockInfoSize]; omega
  rw [hpasses, ramAfter_entry hfit hi hb]
  split_ifs with hcovers
  · exact h.intact i hi b h4 h12 hcovers
  · rfl

theorem loadable_of_loadsSafely (hused : vm.ramUsed ≤ vm.ramSize)
    (h : LoadsSafely vm ram dump) : ∃ list, dump.getStream = some list ∧ Loadable vm dump list := by
  have hload : ∃ list, dump.getStream = some list ∧ PassesRun vm dump list ∧
      ∀ i, i < list.count → Recorded vm list (ramAfter vm dump list ram list.passes) i := by
    cases hstream : dump.getStream with
    | none =>
        rw [LoadsSafely, loadMiniDump, hstream] at h
        rcases h with h | ⟨_, _, _, h, _⟩
        · cases h
        · cases h
    | some list =>
        refine ⟨list, rfl, ?_⟩
        by_cases hrun : PassesRun vm dump list
        · refine ⟨hrun, ?_⟩
          rw [LoadsSafely, loadMiniDump_of_run hstream hrun] at h
          rcases h with h | ⟨list', vm', ram', hstream', hok, hrec⟩
          · cases h
          · rw [hstream] at hstream'
            cases hstream'
            cases hok
            exact hrec
        · obtain ⟨fault, hfault⟩ : ∃ fault, loadMiniDump vm ram (some dump) = .error fault :=
            loadMiniDump_faults hstream hrun
          rw [LoadsSafely, hfault] at h
          rcases h with h | ⟨_, _, _, _, h, _⟩
          · cases h
          · cases h
  obtain ⟨list, hstream, ⟨hheader, hfits⟩, hrec⟩ := hload
  have hpasses := passes_eq_of_fits hused hfits
  rw [hpasses] at hfits hrec
  have hranges := fun i hi => (hrec i hi).lt
  have hsizes := fun i hi => (hranges i hi).2
  have hfit : PassesFit vm dump list list.count := ⟨hused, hsizes, hfits⟩
  have hreadable : Readable dump list := ⟨list_inView hheader hfits, data_inView hsizes hfits⟩
  refine ⟨list, hstream, hreadable, hranges, table_inside hused hfits, hfit.data_inside, ?_⟩
  intro k hk b h4 h12 hcovers
  have hb : b < memBlockInfoSize := by rw [memBlockInfoSize]; omega
  have hbytes := (recorded_iff_bytes dump (hranges k hk).1 (hranges k hk).2).mp
    (hrec k hk) b h4 h12
  rw [ramAfter_entry hfit hk hb] at hbytes
  exact (if_pos hcovers).symm.trans hbytes

/-- `LoadMiniDump` is safe on a dump exactly when the dump has a memory list, holds all
that the list tells of, and fits. -/
theorem loadsSafely_iff (vm : VmContext) (ram : Memory) (dump : WinMiniDump)
    (hused : vm.ramUsed ≤ vm.ramSize) :
    LoadsSafely vm ram dump ↔ ∃ list, dump.getStream = some list ∧ Loadable vm dump list := by
  refine ⟨loadable_of_loadsSafely hused, ?_⟩
  rintro ⟨list, hstream, h⟩
  exact loadsSafely_of_loadable hused hstream h

/-- A view at 0x20000 with a list of two ranges at 0x20020, of 16 and 4096 bytes, whose
data is at 0x20080. -/
def twoRangeDump : WinMiniDump where
  mapBuf := 0x20000
  size := 0x2000
  mapped a :=
    if a = 0x20020 then 2
    else if a = 0x20028 then 0x80
    else if a = 0x20032 ∨ a = 0x20042 then 0x40
    else if a = 0x20038 ∨ a = 0x20041 ∨ a = 0x20049 then 0x10
    else if 0x20080 ≤ a then 7
    else 0
  readDumpStream := (true, 0x20020)
  size_lt := by decide

/-- Guest RAM of 64 KiB whose first page is used. -/
def onePageContext : VmContext :=
  ⟨0, 0x10000, 0x1000, 0, 0, 0, 0, 0, 0, 0, 0, 0, 0, 0⟩

theorem twoRangeDump_getStream :
    twoRangeDump.getStream = some (twoRangeDump.memory64List 0x20020) :=
  if_pos (by decide)

theorem twoRangeDump_ranges (i : Nat) (hi : i < (twoRangeDump.memory64List 0x20020).count) :
    (twoRangeDump.memory64List 0x20020).start i < 2 ^ 32 ∧
      (twoRangeDump.memory64List 0x20020).size i < 2 ^ 32 := by
  have hcount : (twoRangeDump.memory64List 0x20020).count = 2 := by decide +kernel
  have hcases : i = 0 ∨ i = 1 := by omega
  rcases hcases with rfl | rfl
  · decide +kernel
  · decide +kernel

theorem twoRangeDump_readable : Readable twoRangeDump (twoRangeDump.memory64List 0x20020) :=
  ⟨by decide +kernel, by decide +kernel⟩

theorem loadsSafely_iff_twoRanges : LoadsSafely onePageContext (fun _ => 0) twoRangeDump := by
  apply (loadsSafely_iff onePageContext (fun _ => 0) twoRangeDump (by decide)).mpr
  refine ⟨_, twoRangeDump_getStream, twoRangeDump_readable, twoRangeDump_ranges,
    by decide +kernel, by decide +kernel, ?_⟩
  intro k hk b h4 h12 hcovers
  have hcount : (twoRangeDump.memory64List 0x20020).count = 2 := by decide +kernel
  have hoffset : dataOffset onePageContext (twoRangeDump.memory64List 0x20020) = 0x2000 := by
    decide +kernel
  have hused : onePageContext.ramUsed.toNat = 0x1000 := rfl
  have hle := hcovers.1
  rw [hoffset, entryOffset, hused, memBlockInfoSize] at hle
  omega

/-- A dump without a memory list. -/
theorem load_dereferences_null :
    ¬ ∀ (vm : VmContext) (ram : Memory) (dump : WinMiniDump), vm.ramUsed ≤ vm.ramSize →
      LoadsSafely vm ram dump := by
  intro hall
  rcases hall onePageContext (fun _ => 0) ⟨0x20000, 0x1000, fun _ => 0, (false, 0), by decide⟩
    (by decide) with h | ⟨_, _, _, h, _⟩
  · cases h
  · cases h

end safety

section layout

/-- `PAGE_ALGIN_SIZE` of a size whose rounding does not wrap. -/
def roundToPages (size : Nat) : Nat := (size + 4095) / 4096 * 4096

/-- Where the table says that the data of range `i` is. -/
def areaStart (vm : VmContext) (ram : Memory) (i : Nat) : Nat :=
  (readBlockInfo ram (entryOffset vm i)).physicalAddress.toNat

/-- The dump is laid out in guest RAM: the table, then the data of each range. -/
structure LaidOut (vm vm' : VmContext) (dump : WinMiniDump) (list : Memory64List)
    (ram ram' : Memory) : Prop where
  memBlocks : vm'.memBlocks.toNat = list.count
  recorded : ∀ i, i < list.count → Recorded vm list ram' i
  flags : ∀ i, i < list.count →
    (readBlockInfo ram' (entryOffset vm i)).flags = blockMiniDump
  data : ∀ i, i < list.count → ∀ k, k < list.size i →
    ram' (areaStart vm ram' i + k) = dump.data list (list.dataStart i + k)
  offTable : ∀ i, i < list.count → entryOffset vm list.count ≤ areaStart vm ram' i
  disjoint : ∀ i j, i < j → j < list.count →
    areaStart vm ram' i + list.size i ≤ areaStart vm ram' j
  ramUsed : vm'.ramUsed.toNat = vm.ramUsed.toNat +
    roundToPages (memBlockInfoSize * list.count) + list.dataStart list.count
  lastArea : ∀ i, i + 1 = list.count → vm'.ramUsed.toNat = areaStart vm ram' i + list.size i
  frame : ∀ x, x < vm.ramUsed.toNat ∨ vm'.ramUsed.toNat ≤ x → ram' x = ram x
  context : vm' = { vm with memBlocks := vm'.memBlocks, ramUsed := vm'.ramUsed }

theorem pageAlginSize_toNat {size : UInt32} (h : size.toNat + 4095 < 2 ^ 32) :
    (pageAlginSize size).toNat = roundToPages size.toNat := by
  have hadd : (size + 4095).toNat = size.toNat + 4095 := by
    rw [UInt32.toNat_add]
    exact Nat.mod_eq_of_lt h
  have hmask : (0xFFFFF000 : UInt32).toNat = 0xFFFFF000 := rfl
  rw [pageAlginSize, UInt32.toNat_and, hadd, hmask, and_pageMask, Nat.mod_eq_of_lt h,
    roundToPages]

/-- The hypothesis of a dump that fits, without any wrap. -/
structure Fits (vm : VmContext) (list : Memory64List) : Prop where
  ranges : ∀ i, i < list.count → list.start i < 2 ^ 32 ∧ list.size i < 2 ^ 32
  room : vm.ramUsed.toNat + roundToPages (memBlockInfoSize * list.count) +
    list.dataStart list.count ≤ vm.ramSize.toNat

theorem Fits.memBlockListSize_eq (h : Fits vm list) :
    (memBlockListSize list).toNat = roundToPages (memBlockInfoSize * list.count) := by
  have hroom := h.room
  have hram := vm.ramSize.toNat_lt
  have hlow : memBlockInfoSize * list.count + 4095 < 2 ^ 32 := by
    rw [roundToPages] at hroom
    omega
  have hcount : list.count < 2 ^ 32 := by
    rw [memBlockInfoSize] at hlow
    omega
  have hsize : (list.numberOfMemoryRanges.toUInt32 * UInt32.ofNat memBlockInfoSize).toNat =
      memBlockInfoSize * list.count := by
    have hnum : list.numberOfMemoryRanges.toUInt32.toNat = list.count := by
      rw [UInt64.toNat_toUInt32]
      exact Nat.mod_eq_of_lt hcount
    have hinfo : (UInt32.ofNat memBlockInfoSize).toNat = memBlockInfoSize := rfl
    rw [UInt32.toNat_mul, hnum, hinfo, Nat.mul_comm]
    exact Nat.mod_eq_of_lt (by omega)
  rw [memBlockListSize, pageAlginSize_toNat (by rw [hsize]; exact hlow), hsize]

theorem Fits.dataOffset_eq (h : Fits vm list) :
    dataOffset vm list = vm.ramUsed.toNat + roundToPages (memBlockInfoSize * list.count) := by
  have hroom := h.room
  have hram := vm.ramSize.toNat_lt
  rw [dataOffset, UInt32.toNat_add, h.memBlockListSize_eq]
  exact Nat.mod_eq_of_lt (by omega)

/-- The data starts behind the table, so no copy covers an entry. -/
theorem Fits.entryOffset_le (h : Fits vm list) {k : Nat} (hk : k ≤ list.count) :
    entryOffset vm k ≤ dataOffset vm list := by
  have hrow := entryOffset_mono vm hk
  have hround : memBlockInfoSize * list.count ≤
      roundToPages (memBlockInfoSize * list.count) := by
    rw [roundToPages]
    omega
  rw [h.dataOffset_eq]
  rw [entryOffset] at hrow ⊢
  rw [entryOffset] at hrow
  omega

theorem Fits.table (h : Fits vm list) :
    vm.ramUsed.toNat + memBlockInfoSize * list.count ≤ vm.ramSize.toNat := by
  have hrow := h.entryOffset_le (Nat.le_refl list.count)
  have hroom := h.room
  rw [h.dataOffset_eq] at hrow
  rw [entryOffset] at hrow
  omega

theorem Fits.loadable (h : Fits vm list) (hreadable : Readable dump list) :
    Loadable vm dump list where
  readable := hreadable
  ranges := h.ranges
  table := h.table
  data := by
    right
    rw [h.dataOffset_eq]
    exact h.room
  intact k hk b h4 h12 hcovers := by
    have hrow := h.entryOffset_le (Nat.succ_le_of_lt hk)
    have hle := hcovers.1
    rw [Nat.succ_eq_add_one, entryOffset_succ, memBlockInfoSize] at hrow
    omega

theorem Fits.used (h : Fits vm list) : vm.ramUsed ≤ vm.ramSize := by
  have hroom := h.room
  apply UInt32.le_iff_toNat_le.mpr
  omega

/-- The passes of a load that returns fit. -/
theorem Fits.passesFit (h : Fits vm list) (hrun : PassesRun vm dump list) :
    PassesFit vm dump list list.count where
  used := h.used
  sizes i hi := (h.ranges i hi).2
  ranges := passes_eq_of_table h.table ▸ hrun.ranges

theorem Fits.readBlockInfo_eq (h : Fits vm list) (hrun : PassesRun vm dump list) {k : Nat}
    (hk : k < list.count) :
    readBlockInfo (ramAfter vm dump list ram list.count) (entryOffset vm k) =
      blockInfo vm dump list k := by
  have hrow := h.entryOffset_le (Nat.succ_le_of_lt hk)
  rw [Nat.succ_eq_add_one, entryOffset_succ] at hrow
  apply readBlockInfo_of_bytes
  intro b hb
  rw [ramAfter_entry (h.passesFit hrun) hk hb]
  exact if_neg (by omega)

theorem Fits.areaStart_eq (h : Fits vm list) (hrun : PassesRun vm dump list) {k : Nat}
    (hk : k < list.count) :
    areaStart vm (ramAfter vm dump list ram list.count) k =
      dataOffset vm list + list.dataStart k := by
  have hbefore := (h.passesFit hrun).mono (Nat.le_of_lt hk)
  rw [areaStart, h.readBlockInfo_eq hrun hk]
  exact dataArea_eq hbefore.sizes hbefore.ranges

theorem Fits.loadedContext_ramUsed (h : Fits vm list) (dump : WinMiniDump) :
    (loadedContext vm dump list).ramUsed.toNat = vm.ramUsed.toNat +
      roundToPages (memBlockInfoSize * list.count) + list.dataStart list.count := by
  have hroom := h.room
  have hram := vm.ramSize.toNat_lt
  rw [loadedContext, passes_eq_of_table h.table]
  simp only [placement]
  rw [UInt32.toNat_add, UInt32.toNat_add, UInt32.toNat_ofNat', h.memBlockListSize_eq]
  omega

theorem Fits.loadedContext_memBlocks (h : Fits vm list) (dump : WinMiniDump) :
    (loadedContext vm dump list).memBlocks.toNat = list.count := by
  have htable := h.table
  have hram := vm.ramSize.toNat_lt
  rw [memBlockInfoSize] at htable
  have hcount : list.count < 2 ^ 32 := by omega
  change list.numberOfMemoryRanges.toUInt32.toNat = list.count
  rw [UInt64.toNat_toUInt32]
  exact Nat.mod_eq_of_lt hcount

theorem Fits.recorded (h : Fits vm list) (hrun : PassesRun vm dump list) {i : Nat}
    (hi : i < list.count) : Recorded vm list (ramAfter vm dump list ram list.count) i := by
  rw [Recorded, h.readBlockInfo_eq hrun hi]
  change (list.memoryRanges i).startOfMemoryRange.toUInt32.toNat = list.start i ∧
    (list.memoryRanges i).dataSize.toUInt32.toNat = list.size i
  rw [UInt64.toNat_toUInt32, UInt64.toNat_toUInt32]
  exact ⟨Nat.mod_eq_of_lt (h.ranges i hi).1, Nat.mod_eq_of_lt (h.ranges i hi).2⟩

theorem Fits.laidOut (h : Fits vm list) (hrun : PassesRun vm dump list) :
    LaidOut vm (loadedContext vm dump list) dump list ram
      (ramAfter vm dump list ram list.count) where
  memBlocks := h.loadedContext_memBlocks dump
  recorded _ hi := h.recorded hrun hi
  flags i hi := by
    rw [h.readBlockInfo_eq hrun hi]
    rfl
  data i hi k hk := by
    have hnext := list.dataStart_mono (Nat.succ_le_of_lt hi)
    have hend := h.entryOffset_le (Nat.le_refl list.count)
    rw [Nat.succ_eq_add_one, list.dataStart_succ] at hnext
    rw [h.areaStart_eq hrun hi, ramAfter_outsideTable (h.passesFit hrun) (by omega),
      if_pos (by omega), Nat.add_assoc, Nat.add_sub_cancel_left]
  offTable i hi := by
    have hend := h.entryOffset_le (Nat.le_refl list.count)
    rw [h.areaStart_eq hrun hi]
    omega
  disjoint i j hij hj := by
    have hnext := list.dataStart_mono (Nat.succ_le_of_lt hij)
    rw [Nat.succ_eq_add_one, list.dataStart_succ] at hnext
    rw [h.areaStart_eq hrun (Nat.lt_trans hij hj), h.areaStart_eq hrun hj]
    omega
  ramUsed := h.loadedContext_ramUsed dump
  lastArea i hi := by
    have hlt : i < list.count := by omega
    rw [h.loadedContext_ramUsed dump, h.areaStart_eq hrun hlt, h.dataOffset_eq, ← hi,
      list.dataStart_succ]
    omega
  frame x hx := by
    have hend := h.entryOffset_le (Nat.le_refl list.count)
    have hzero := h.entryOffset_le (Nat.zero_le list.count)
    rw [h.loadedContext_ramUsed dump, ← h.dataOffset_eq] at hx
    change vm.ramUsed.toNat ≤ _ at hzero
    rw [ramAfter_outsideTable (h.passesFit hrun) (by omega)]
    exact if_neg (by omega)
  context := rfl

/-- Every dump that fits is laid out in guest RAM without loss or overlap when the load
returns, and it returns when the dump holds all that its list tells of. -/
theorem loadMiniDump_laysOut (vm : VmContext) (ram : Memory) (dump : WinMiniDump)
    (list : Memory64List) (hstream : dump.getStream = some list)
    (hranges : ∀ i, i < list.count → list.start i < 2 ^ 32 ∧ list.size i < 2 ^ 32)
    (hroom : vm.ramUsed.toNat + roundToPages (memBlockInfoSize * list.count) +
      list.dataStart list.count ≤ vm.ramSize.toNat) :
    (∀ done vm' ram', loadMiniDump vm ram (some dump) = .ok (done, vm', ram') →
      done = true ∧ LaidOut vm vm' dump list ram ram') ∧
    (Readable dump list →
      ∃ vm' ram', loadMiniDump vm ram (some dump) = .ok (true, vm', ram')) := by
  have h : Fits vm list := ⟨hranges, hroom⟩
  have hpasses := passes_eq_of_table h.table
  refine ⟨?_, ?_⟩
  · intro done vm' ram' hload
    have hrun := passesRun_of_ok hstream hload
    rw [loadMiniDump_of_run hstream hrun, hpasses] at hload
    cases hload
    exact ⟨rfl, h.laidOut hrun⟩
  · intro hreadable
    have hfit := (h.loadable hreadable).passesFit h.used
    exact ⟨_, _, loadMiniDump_of_run hstream ⟨hreadable.header, hpasses ▸ hfit.ranges⟩⟩

theorem loadMiniDump_laysOut_twoRanges :
    ∃ vm' ram', loadMiniDump onePageContext (fun _ => 0) (some twoRangeDump) =
        .ok (true, vm', ram') ∧
      LaidOut onePageContext vm' twoRangeDump (twoRangeDump.memory64List 0x20020) (fun _ => 0)
        ram' := by
  have h := loadMiniDump_laysOut onePageContext (fun _ => 0) twoRangeDump _
    twoRangeDump_getStream twoRangeDump_ranges (by decide +kernel)
  obtain ⟨vm', ram', hload⟩ := h.2 twoRangeDump_readable
  exact ⟨vm', ram', hload, (h.1 _ _ _ hload).2⟩

end layout

end ShellcodeVM.Loader
