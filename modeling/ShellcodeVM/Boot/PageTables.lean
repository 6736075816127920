import ShellcodeVM.Lib.PageWalk
import ShellcodeVM.GuestOS.Layout

/-!
The boot loader's frame database and page tables (`Boot/main.cpp`).
Paging is still off here: every store goes straight to physical memory.

The 1024 preallocated tables form one array of 2^20 words, one word a virtual
page, and the directory is the slice of that array at table 0x300. All results
about the boot loader are read off the words of this array.
-/
namespace ShellcodeVM.Boot
open Machine

def initFrameDatabase (m : Memory) : Memory :=
  memset (memset m frameDbPhysicalAddr pageFree frameDbSize)
    frameDbPhysicalAddr pageUsed (sizeToPages kernelMemSize)

/-- The address of `page_table[pte_index]`. -/
def pteAddress (virtualAddress : Nat) : Nat :=
  (pageTablePhysicalAddr + pdeIndex virtualAddress * pageSize) % 2 ^ 32 +
    4 * pteIndex virtualAddress

def mapPagesLoop (protect : Nat) : Nat → Memory → Nat → Nat → Memory
  | 0, m, _, _ => m
  | n + 1, m, physicalAddress, virtualAddress =>
      mapPagesLoop protect n
        (write32 m (pteAddress virtualAddress) (physicalAddress ||| protect))
        ((physicalAddress + pageSize) % 2 ^ 32) ((virtualAddress + pageSize) % 2 ^ 32)

def mapPages (m : Memory) (physicalAddress virtualAddress size : Nat)
    (protect : Nat := ptPresent ||| ptWritable ||| ptUser) : Memory :=
  mapPagesLoop protect (sizeToPages size) m physicalAddress virtualAddress

/-- `page_dir[i] = (PAGE_TABLE_PHYSICAL_ADDR + i*PAGE_SIZE) | PT_PRESENT | PT_WRITABLE`. -/
def fillPageDir (m : Memory) : Nat → Memory
  | 0 => m
  | i + 1 => write32 (fillPageDir m i) (pageDirPhysicalAddr + 4 * i)
      ((pageTablePhysicalAddr + i * pageSize) ||| ptPresent ||| ptWritable)

def initPageTable (m : Memory) : Memory :=
  let m := memset m pageTablePhysicalAddr 0 pageTableSize
  let m := fillPageDir m 1024
  let m := mapPages m 0 0 bootCodeSize
  let m := mapPages m kernelStackBottomPhysicalAddr kernelStackBottomVirtualAddr kernelStackSize
  let m := mapPages m frameDbPhysicalAddr frameDbVirtualAddr frameDbSize
  let m := mapPages m videoBufPhysicalAddr videoBufVirtualAddr videoBufSize
  let m := mapPages m pageTablePhysicalAddr pageTableVirtualAddr pageTableSize
  mapPages m osCodePhysicalAddr osCodeVirtualAddr osCodeSize

/-- The word of the preallocated tables that belongs to a virtual page. -/
def pageWord (m : Memory) (vpn : Nat) : Nat := read32 m (0x400000 + 4 * vpn)

theorem pteAddress_eq {va : Nat} (h : va < 2 ^ 32) :
    pteAddress va = 0x400000 + 4 * (va / 4096) := by
  simp only [pteAddress, pdeIndex_eq, pteIndex_eq, pageTablePhysicalAddr, pageSize]
  omega

theorem pageWord_write (m : Memory) (v k n : Nat) :
    pageWord (write32 m (0x400000 + 4 * k) v) n =
      if n = k then v % 2 ^ 32 else pageWord m n := by
  simp only [pageWord]
  split_ifs with h
  · rw [h, read32_write32_same]
  · exact read32_write32_of_disjoint m _ v (by omega)

/-- One pass of the mapping loop writes the words of `n` consecutive pages. -/
theorem pageWord_mapPagesLoop {protect : Nat} (hprot : protect < 4096) (n : Nat) (m : Memory)
    (pa va : Nat) (hpa : pa % 4096 = 0) (hva : va % 4096 = 0)
    (hpaEnd : pa + 4096 * n ≤ 2 ^ 32) (hvaEnd : va + 4096 * n ≤ 2 ^ 32) (k : Nat) :
    pageWord (mapPagesLoop protect n m pa va) k =
      if va / 4096 ≤ k ∧ k < va / 4096 + n then pa + 4096 * (k - va / 4096) + protect
      else pageWord m k := by
  induction n generalizing m pa va with
  | zero =>
      rw [if_neg (by omega)]
      rfl
  | succ n ih =>
      simp only [mapPagesLoop, pageSize]
      rw [ih _ _ _ (by omega) (by omega) (by omega) (by omega),
        pteAddress_eq (by omega), pageWord_write, or_attr hpa hprot]
      by_cases hn : n = 0
      · subst hn
        split_ifs <;> omega
      · have hmod : (va + 4096) % 2 ^ 32 / 4096 = va / 4096 + 1 := by omega
        rw [hmod]
        split_ifs <;> omega

theorem pageWord_mapPages {pa va size protect : Nat} (hprot : protect < 4096) (m : Memory)
    (hpa : pa % 4096 = 0) (hva : va % 4096 = 0)
    (hpaEnd : pa + 4096 * sizeToPages size ≤ 2 ^ 32)
    (hvaEnd : va + 4096 * sizeToPages size ≤ 2 ^ 32) (k : Nat) :
    pageWord (mapPages m pa va size protect) k =
      if va / 4096 ≤ k ∧ k < va / 4096 + sizeToPages size then
        pa + 4096 * (k - va / 4096) + protect
      else pageWord m k :=
  pageWord_mapPagesLoop hprot _ m pa va hpa hva hpaEnd hvaEnd k

theorem pageWord_fillPageDir (m : Memory) {n : Nat} (hn : n ≤ 1024) (k : Nat) :
    pageWord (fillPageDir m n) k =
      if 0xC0000 ≤ k ∧ k < 0xC0000 + n then 0x400000 + 4096 * (k - 0xC0000) + 3
      else pageWord m k := by
  induction n with
  | zero =>
      rw [if_neg (by omega)]
      rfl
  | succ n ih =>
      have hentry : (pageTablePhysicalAddr + n * pageSize) ||| ptPresent ||| ptWritable =
          0x400000 + 4096 * n + 3 := by
        rw [Nat.lor_assoc, flags_eq, or_attr _ (by norm_num)]
        · simp only [pageTablePhysicalAddr, pageSize]
          omega
        · simp only [pageTablePhysicalAddr, pageSize]
          omega
      have haddr : pageDirPhysicalAddr + 4 * n = 0x400000 + 4 * (0xC0000 + n) := by
        simp only [pageDirPhysicalAddr]
        omega
      simp only [fillPageDir]
      rw [hentry, haddr, pageWord_write, ih (by omega)]
      split_ifs <;> omega

theorem pageWord_clear (m : Memory) {k : Nat} (hk : k < 2 ^ 20) :
    pageWord (memset m pageTablePhysicalAddr 0 pageTableSize) k = 0 := by
  have hsize : pageTableSize = 0x400000 := mb_eq 4
  rw [pageWord, hsize, pageTablePhysicalAddr, read32_memset_zero]
  omega

/-- The mapping loop stays inside the preallocated tables. -/
theorem mapPagesLoop_outside {protect : Nat} (n : Nat) (m : Memory) (pa va : Nat)
    (hva : va < 2 ^ 32) {x : Nat} (hx : x < 0x400000 ∨ 0x800000 ≤ x) :
    mapPagesLoop protect n m pa va x = m x := by
  induction n generalizing m pa va with
  | zero => rfl
  | succ n ih =>
      simp only [mapPagesLoop]
      rw [ih _ _ _ (Nat.mod_lt _ (by norm_num)), pteAddress_eq hva]
      exact write32_of_disjoint m _ _ (by omega)

theorem mapPages_outside (m : Memory) {pa va size protect : Nat} (hva : va < 2 ^ 32) {x : Nat}
    (hx : x < 0x400000 ∨ 0x800000 ≤ x) : mapPages m pa va size protect x = m x :=
  mapPagesLoop_outside _ m pa va hva hx

theorem fillPageDir_outside (m : Memory) {n : Nat} (hn : n ≤ 1024) {x : Nat}
    (hx : x < 0x400000 ∨ 0x800000 ≤ x) : fillPageDir m n x = m x := by
  induction n with
  | zero => rfl
  | succ n ih =>
      simp only [fillPageDir]
      rw [write32_of_disjoint _ _ _ (by simp only [pageDirPhysicalAddr]; omega), ih (by omega)]

/-- A walk from the boot directory reads the page's own word of the array,
once the directory slice points back into the array. -/
theorem walk_of_pageWords {m : Memory} {va a : Nat}
    (ha : a < 4096) (hp : Present a)
    (hdir : pageWord m (0xC0000 + va / 2 ^ 22) = 0x400000 + 4096 * (va / 2 ^ 22) + a) :
    walk m pageDirPhysicalAddr va =
      if Present (pageWord m (va / 4096)) then
        some ⟨frameOf (pageWord m (va / 4096)) + va % 4096, a, pageWord m (va / 4096) % 4096⟩
      else none := by
  have hpde : dirEntry m pageDirPhysicalAddr (dirIndex va) =
      0x400000 + 4096 * (va / 2 ^ 22) + a := by
    rw [← hdir, dirEntry, pageWord, dirIndex, pageDirPhysicalAddr]
    congr 1
    omega
  have hframe : frameOf (0x400000 + 4096 * (va / 2 ^ 22) + a) = 0x400000 + 4096 * (va / 2 ^ 22) :=
    frameOf_add (by omega) ha
  have hpte : tableEntry m (frameOf (0x400000 + 4096 * (va / 2 ^ 22) + a)) (tableIndex va) =
      pageWord m (va / 4096) := by
    rw [hframe, tableEntry, pageWord, tableIndex]
    congr 1
    omega
  have hpres : Present (0x400000 + 4096 * (va / 2 ^ 22) + a) := by
    simp only [Present] at hp ⊢
    omega
  split_ifs with hq
  · rw [walk_mapped hpde hpres hpte hq]
    congr 2
    omega
  · apply walk_table_absent
    rwa [hpde, hpte]

end ShellcodeVM.Boot
