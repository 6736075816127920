import ShellcodeVM.Lib.Memory

/-!
The two-level page walk of a 32-bit MMU with 4 KB pages, read over a physical
memory, and the rules for the stores that edit the tables it reads.
The accessed and dirty bits that a processor sets on its own are not modelled.
-/
namespace Machine

structure Translation where
  address : Nat
  pdeAttr : Nat
  pteAttr : Nat
deriving DecidableEq, Repr

def Translation.writable (t : Translation) : Prop :=
  t.pdeAttr / 2 % 2 = 1 ∧ t.pteAttr / 2 % 2 = 1

def dirIndex (va : Nat) : Nat := va / 2 ^ 22

def tableIndex (va : Nat) : Nat := va / 2 ^ 12 % 2 ^ 10

def Present (entry : Nat) : Prop := entry % 2 = 1

instance (entry : Nat) : Decidable (Present entry) :=
  inferInstanceAs (Decidable (entry % 2 = 1))

/-- The page frame address held in bits 31:12 of an entry. -/
def frameOf (entry : Nat) : Nat := entry / 4096 * 4096

def dirEntry (m : Memory) (dir d : Nat) : Nat := read32 m (dir + 4 * d)

theorem dirEntry_zero (m : Memory) (dir : Nat) : dirEntry m dir 0 = read32 m dir := rfl

def tableEntry (m : Memory) (table j : Nat) : Nat := read32 m (table + 4 * j)

def walk (m : Memory) (dir va : Nat) : Option Translation :=
  let pde := dirEntry m dir (dirIndex va)
  let pte := tableEntry m (frameOf pde) (tableIndex va)
  if Present pde ∧ Present pte then
    some ⟨frameOf pte + va % 4096, pde % 4096, pte % 4096⟩
  else none

theorem dirIndex_lt {va : Nat} (h : va < 2 ^ 32) : dirIndex va < 1024 := by
  simp only [dirIndex]
  omega

theorem tableIndex_lt (va : Nat) : tableIndex va < 1024 := by
  simp only [tableIndex]
  omega

theorem samePage_iff (va va' : Nat) :
    va / 4096 = va' / 4096 ↔ dirIndex va = dirIndex va' ∧ tableIndex va = tableIndex va' := by
  simp only [dirIndex, tableIndex]
  omega

theorem frameOf_aligned (entry : Nat) : frameOf entry % 4096 = 0 := by
  simp [frameOf]

theorem frameOf_add {a p : Nat} (ha : a % 4096 = 0) (hp : p < 4096) : frameOf (a + p) = a := by
  simp only [frameOf]
  omega

theorem walk_mapped {m : Memory} {dir va pde pte : Nat}
    (hd : dirEntry m dir (dirIndex va) = pde) (hp : Present pde)
    (ht : tableEntry m (frameOf pde) (tableIndex va) = pte) (hq : Present pte) :
    walk m dir va = some ⟨frameOf pte + va % 4096, pde % 4096, pte % 4096⟩ := by
  simp only [walk, hd, ht]
  rw [if_pos ⟨hp, hq⟩]

theorem walk_dir_absent {m : Memory} {dir va : Nat}
    (h : ¬ Present (dirEntry m dir (dirIndex va))) : walk m dir va = none := by
  simp only [walk]
  rw [if_neg (fun hh => h hh.1)]

theorem walk_table_absent {m : Memory} {dir va : Nat}
    (h : ¬ Present (tableEntry m (frameOf (dirEntry m dir (dirIndex va))) (tableIndex va))) :
    walk m dir va = none := by
  simp only [walk]
  rw [if_neg (fun hh => h hh.2)]

/-- The frame that a walk finds is the one in the table entry. -/
theorem walk_frame {m : Memory} {dir va : Nat} {t : Translation} (h : walk m dir va = some t) :
    t.address / 4096 =
      tableEntry m (frameOf (dirEntry m dir (dirIndex va))) (tableIndex va) / 4096 := by
  simp only [walk] at h
  split_ifs at h
  cases h
  simp only [frameOf]
  omega

/-- A walk reads two words, the second only when the first is present. -/
theorem walk_congr {m m' : Memory} {dir va : Nat}
    (hd : dirEntry m' dir (dirIndex va) = dirEntry m dir (dirIndex va))
    (ht : Present (dirEntry m dir (dirIndex va)) →
      tableEntry m' (frameOf (dirEntry m dir (dirIndex va))) (tableIndex va) =
        tableEntry m (frameOf (dirEntry m dir (dirIndex va))) (tableIndex va)) :
    walk m' dir va = walk m dir va := by
  by_cases hp : Present (dirEntry m dir (dirIndex va))
  · simp only [walk, hd, ht hp]
  · rw [walk_dir_absent (by rwa [hd]), walk_dir_absent hp]

/-- A page-aligned directory whose table at one index is shared with no other
present entry and is not the directory itself. -/
structure OwnTable (m : Memory) (dir d table : Nat) : Prop where
  dirAligned : dir % 4096 = 0
  tableAligned : table % 4096 = 0
  notDir : table ≠ dir
  alone : ∀ d', d' < 1024 → d' ≠ d → Present (dirEntry m dir d') →
    frameOf (dirEntry m dir d') ≠ table

theorem OwnTable.dirEntry_write {m : Memory} {dir d table : Nat} (own : OwnTable m dir d table)
    {j d' : Nat} (v : Nat) (hj : j < 1024) (hd' : d' < 1024) :
    dirEntry (write32 m (table + 4 * j) v) dir d' = dirEntry m dir d' := by
  have h1 := own.dirAligned
  have h2 := own.tableAligned
  have h3 := own.notDir
  exact read32_write32_of_disjoint m _ v (by omega)

/-- Storing one entry of a table changes the translation of its page only. -/
theorem walk_write_entry {m : Memory} {dir va : Nat} (v : Nat)
    (hp : Present (dirEntry m dir (dirIndex va)))
    (own : OwnTable m dir (dirIndex va) (frameOf (dirEntry m dir (dirIndex va))))
    {va' : Nat} (hva' : va' < 2 ^ 32) :
    walk (write32 m (frameOf (dirEntry m dir (dirIndex va)) + 4 * tableIndex va) v) dir va' =
      if va' / 4096 = va / 4096 then
        if Present (v % 2 ^ 32) then
          some ⟨frameOf (v % 2 ^ 32) + va' % 4096, dirEntry m dir (dirIndex va) % 4096,
            v % 2 ^ 32 % 4096⟩
        else none
      else walk m dir va' := by
  have hdir := own.dirEntry_write v (tableIndex_lt va) (dirIndex_lt hva')
  have ha := own.tableAligned
  split_ifs with hs hv
  · obtain ⟨hi, hj⟩ := (samePage_iff va' va).mp hs
    rw [hi] at hdir
    refine walk_mapped (by rw [hi]; exact hdir) hp ?_ hv
    rw [hj]
    exact read32_write32_same m _ v
  · obtain ⟨hi, hj⟩ := (samePage_iff va' va).mp hs
    rw [hi] at hdir
    apply walk_table_absent
    rw [hi, hj, hdir, tableEntry, read32_write32_same]
    exact hv
  · apply walk_congr hdir
    intro hq
    apply read32_write32_of_disjoint
    have hj := tableIndex_lt va
    have hj' := tableIndex_lt va'
    have ha' := frameOf_aligned (dirEntry m dir (dirIndex va'))
    by_cases hi : dirIndex va' = dirIndex va
    · have hne : tableIndex va' ≠ tableIndex va := fun h => hs ((samePage_iff va' va).mpr ⟨hi, h⟩)
      rw [hi]
      omega
    · have hne := own.alone (dirIndex va') (dirIndex_lt hva') hi hq
      omega

/-- Installing a cleared table under an absent entry changes no translation,
except in a window that reads the directory itself as a table. -/
theorem walk_install_table {m : Memory} {dir d table : Nat} (attr : Nat)
    (own : OwnTable m dir d table) (hd : d < 1024) (habs : ¬ Present (dirEntry m dir d))
    (hattr : attr < 4096) (hlt : table < 2 ^ 32)
    {va : Nat} (hva : va < 2 ^ 32) (hwin : frameOf (dirEntry m dir (dirIndex va)) ≠ dir) :
    walk (write32 (memset m table 0 4096) (dir + 4 * d) (table + attr)) dir va =
      walk m dir va := by
  have h1 := own.dirAligned
  have h2 := own.tableAligned
  have h3 := own.notDir
  have hi := dirIndex_lt hva
  have hj := tableIndex_lt va
  by_cases hd' : dirIndex va = d
  · rw [walk_dir_absent (m := m) (by rwa [hd'])]
    have hpde : dirEntry (write32 (memset m table 0 4096) (dir + 4 * d) (table + attr)) dir
        (dirIndex va) = table + attr := by
      rw [hd', dirEntry, read32_write32_same]
      omega
    apply walk_table_absent
    rw [hpde, frameOf_add h2 hattr, tableEntry, read32_write32_of_disjoint _ _ _ (by omega),
      read32_memset_zero m (by omega)]
    decide
  · have hpde : dirEntry (write32 (memset m table 0 4096) (dir + 4 * d) (table + attr)) dir
        (dirIndex va) = dirEntry m dir (dirIndex va) := by
      rw [dirEntry, read32_write32_of_disjoint _ _ _ (by omega),
        read32_memset_outside m 0 (by omega)]
      rfl
    apply walk_congr hpde
    intro hq
    have ha := frameOf_aligned (dirEntry m dir (dirIndex va))
    have hne := own.alone (dirIndex va) hi hd' hq
    rw [tableEntry, read32_write32_of_disjoint _ _ _ (by omega),
      read32_memset_outside m 0 (by omega)]
    rfl

/-- A processor with paging on. `stores` records the physical address of every
word stored through the page tables, in order. -/
structure Mmu where
  mem : Memory
  dir : Nat
  stores : List Nat

/-- A 32-bit store at a linear address; it faults when the page is absent. -/
def Mmu.store32 (u : Mmu) (va v : Nat) : Option Mmu :=
  (walk u.mem u.dir va).map fun t =>
    { u with mem := write32 u.mem t.address v, stores := u.stores ++ [t.address] }

def Mmu.store8 (u : Mmu) (va : Nat) (b : UInt8) : Option Mmu :=
  (walk u.mem u.dir va).map fun t => { u with mem := write8 u.mem t.address b }

def Mmu.load8 (u : Mmu) (va : Nat) : Option UInt8 :=
  (walk u.mem u.dir va).map fun t => u.mem t.address

def Mmu.memset (u : Mmu) (va : Nat) (b : UInt8) : Nat → Option Mmu
  | 0 => some u
  | n + 1 => do
      let u ← u.memset va b n
      u.store8 (va + n) b

theorem Mmu.store32_of_walk {u : Mmu} {va : Nat} {t : Translation} (v : Nat)
    (h : walk u.mem u.dir va = some t) :
    u.store32 va v =
      some { u with mem := write32 u.mem t.address v, stores := u.stores ++ [t.address] } := by
  rw [Mmu.store32, h]
  rfl

theorem Mmu.store32_fault {u : Mmu} {va : Nat} (v : Nat) (h : walk u.mem u.dir va = none) :
    u.store32 va v = none := by
  rw [Mmu.store32, h]
  rfl

end Machine
