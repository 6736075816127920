import ShellcodeVM.Boot.MemoryLayout
import ShellcodeVM.GuestOS.Pager

/-!
The guest pager against an abstract page map and against the boot loader.

The pager stores every entry through the window at 0xC0000000, so the target of
a store is found by a walk over the memory being edited. The invariant that
makes the target known is `TablesInPlace`: the directory entries, with entry
0x300 pointing back at the directory, are the ones the boot loader left.
-/
namespace ShellcodeVM.GuestOS
open Machine Boot

/-- Every directory entry is present and points to its preallocated table. -/
def TablesInPlace (m : Memory) : Prop :=
  ∀ i, i < 1024 → Present (dirEntry m pageDirPhysicalAddr i) ∧
    frameOf (dirEntry m pageDirPhysicalAddr i) = pageTablePhysicalAddr + i * pageSize

/-! ### The abstract page map -/

structure PageMapping where
  frame : Nat
  attr : Nat
deriving DecidableEq, Repr

/-- What the pager is for: virtual pages to frames and attributes. -/
abbrev PageMap := Nat → Option PageMapping

inductive PagerCall where
  | mapPages (physicalAddr virtualAddr size protect : Nat)
  | unmapPages (virtualAddr size : Nat)
deriving DecidableEq, Repr

namespace PagerCall

def virtualAddr : PagerCall → Nat
  | mapPages _ va _ _ | unmapPages va _ => va

def size : PagerCall → Nat
  | mapPages _ _ size _ | unmapPages _ size => size

def pages (c : PagerCall) : Nat := sizeToPages c.size

def Covers (c : PagerCall) (k : Nat) : Prop :=
  c.virtualAddr / 4096 ≤ k ∧ k < c.virtualAddr / 4096 + c.pages

instance (c : PagerCall) (k : Nat) : Decidable (c.Covers k) :=
  inferInstanceAs (Decidable (_ ∧ _))

/-- The mapping that a call gives to a page it covers. -/
def mapping : PagerCall → PageMap
  | mapPages pa va _ protect, k => some ⟨pa + 4096 * (k - va / 4096), protect ||| ptUser⟩
  | unmapPages _ _, _ => none

def apply (f : PageMap) (c : PagerCall) : PageMap :=
  fun k => if c.Covers k then c.mapping k else f k

/-- The concrete call, on a processor with paging on. -/
def run (u : Mmu) : PagerCall → Option Mmu
  | mapPages pa va size protect => Pager.mapPages u pa va size protect
  | unmapPages va size => Pager.unmapPages u va size

/-- Page-aligned addresses, a present protection, ranges inside the 32-bit
spaces and outside the window. -/
def Legal : PagerCall → Prop
  | mapPages pa va size protect =>
      pa % 4096 = 0 ∧ va % 4096 = 0 ∧ protect < 4096 ∧ Present protect ∧
      pa + size ≤ 2 ^ 32 ∧ va + size ≤ 2 ^ 32 ∧
      (size = 0 ∨ va + size ≤ 0xC0000000 ∨ 0xC0400000 ≤ va)
  | unmapPages va size =>
      va % 4096 = 0 ∧ va + size ≤ 2 ^ 32 ∧
      (size = 0 ∨ va + size ≤ 0xC0000000 ∨ 0xC0400000 ≤ va)

/-- The addresses of the pages of a call, in the order in which it visits them. -/
def pageAddresses (c : PagerCall) : List Nat :=
  (List.range c.pages).map fun i => c.virtualAddr + i * pageSize

end PagerCall

/-- The page map that the preallocated tables hold. -/
def pageMap (m : Memory) : PageMap := fun k =>
  if Present (pageWord m k) then some ⟨frameOf (pageWord m k), pageWord m k % 4096⟩ else none

/-- The last call of a run that covers a page. -/
def lastCovering (calls : List PagerCall) (k : Nat) : Option PagerCall :=
  calls.reverse.find? fun c => c.Covers k

theorem foldl_apply (calls : List PagerCall) (f : PageMap) (k : Nat) :
    calls.foldl PagerCall.apply f k =
      match lastCovering calls k with
      | some c => c.mapping k
      | none => f k := by
  induction calls using List.reverseRecOn with
  | nil => rfl
  | append_singleton calls c ih =>
      simp only [List.foldl_append, List.foldl_cons, List.foldl_nil, PagerCall.apply,
        lastCovering, List.reverse_append, List.reverse_cons, List.reverse_nil,
        List.nil_append, List.singleton_append, List.find?_cons]
      by_cases hc : c.Covers k
      · simp [hc]
      · simp only [hc, if_false, decide_false]
        exact ih

/-! ### One store through the window -/

theorem dirEntry_eq_pageWord (m : Memory) (i : Nat) :
    dirEntry m pageDirPhysicalAddr i = pageWord m (0xC0000 + i) := by
  rw [dirEntry, pageWord, pageDirPhysicalAddr]
  congr 1
  omega

/-- The boot loader establishes the invariant. -/
theorem tablesInPlace_initPageTable (m : Memory) : TablesInPlace (initPageTable m) := by
  intro i hi
  have hword := pageWord_initPageTable_dir m hi
  rw [dirEntry_eq_pageWord, hword]
  refine ⟨?_, ?_⟩
  · simp only [Present]
    omega
  · rw [frameOf_add (by omega) (by norm_num), pageTablePhysicalAddr, pageSize, Nat.mul_comm]

/-- The window leads a store to the word the boot loader addresses directly. -/
theorem walk_window {m : Memory} (h : TablesInPlace m) {va : Nat} (hva : va < 2 ^ 32) :
    ∃ t, walk m pageDirPhysicalAddr (Pager.pteWindowAddress va) = some t ∧
      t.address = pteAddress va := by
  have hself := h 0x300 (by norm_num)
  have htab := h (va / 2 ^ 22) (by omega)
  simp only [pageTablePhysicalAddr, pageSize] at hself htab
  have haddr : Pager.pteWindowAddress va =
      0xC0000000 + va / 2 ^ 22 * 4096 + 4 * (va / 4096 % 1024) := by
    simp only [Pager.pteWindowAddress, pdeIndex_eq, pteIndex_eq, pageTableVirtualAddr, pageSize]
    omega
  have hdi : dirIndex (Pager.pteWindowAddress va) = 0x300 := by
    rw [haddr, dirIndex]
    omega
  have hti : tableIndex (Pager.pteWindowAddress va) = va / 2 ^ 22 := by
    rw [haddr, tableIndex]
    omega
  have hpte : tableEntry m (frameOf (dirEntry m pageDirPhysicalAddr 0x300))
      (tableIndex (Pager.pteWindowAddress va)) =
        dirEntry m pageDirPhysicalAddr (va / 2 ^ 22) := by
    rw [hself.2, hti]
    rfl
  refine ⟨_, walk_mapped (congrArg _ hdi) hself.1 hpte htab.1, ?_⟩
  change frameOf _ + _ = _
  rw [htab.2, haddr, pteAddress_eq hva]
  omega

theorem TablesInPlace.write {m : Memory} (h : TablesInPlace m) {k : Nat} (v : Nat)
    (hk : k < 0xC0000 ∨ 0xC0400 ≤ k) : TablesInPlace (write32 m (0x400000 + 4 * k) v) := by
  intro i hi
  rw [dirEntry_eq_pageWord, pageWord_write, if_neg (by omega), ← dirEntry_eq_pageWord]
  exact h i hi

/-! ### One call -/

/-- One pass stores the word of its page, through the window. -/
theorem TablesInPlace.store {u : Mmu} (h : TablesInPlace u.mem) (hdir : u.dir = pageDirPhysicalAddr)
    {va : Nat} (hva : va < 2 ^ 32) (v : Nat) :
    u.store32 (Pager.pteWindowAddress va) v = some { u with
      mem := write32 u.mem (0x400000 + 4 * (va / 4096)) v
      stores := u.stores ++ [0x400000 + 4 * (va / 4096)] } := by
  obtain ⟨t, hwalk, haddr⟩ := walk_window h hva
  rw [← hdir] at hwalk
  rw [Mmu.store32_of_walk v hwalk, haddr, pteAddress_eq hva]

/-- The words that `n + 1` passes visit are that of the first page and those of the others. -/
theorem visited_succ {va n : Nat} (hnext : n = 0 ∨ (va + pageSize) % 2 ^ 32 = va + 4096) :
    (List.range (n + 1)).map (fun i => pteAddress (va + i * pageSize)) =
      pteAddress va :: (List.range n).map
        (fun i => pteAddress ((va + pageSize) % 2 ^ 32 + i * pageSize)) := by
  rw [List.range_succ_eq_map, List.map_cons, List.map_map, Nat.zero_mul, Nat.add_zero]
  refine congrArg (fun later => pteAddress va :: later) ?_
  apply List.map_congr_left
  intro i hi
  have hi' := List.mem_range.mp hi
  rw [hnext.resolve_left (by omega)]
  change pteAddress (va + (i + 1) * pageSize) = pteAddress (va + 4096 + i * pageSize)
  exact congrArg pteAddress (by simp only [pageSize]; ring)

/-- What the loop of one call does: it never faults, it visits the boot loader's
words in order, and it changes exactly the words of the pages it covers. -/
theorem storeEntries_spec (entry : Nat → Nat) (n : Nat) (u : Mmu) (pa va : Nat)
    (hdir : u.dir = pageDirPhysicalAddr) (h : TablesInPlace u.mem)
    (hentry : ∀ i, i < n → entry (pa + 4096 * i) < 2 ^ 32)
    (hpa : n = 0 ∨ pa + 4096 * n ≤ 2 ^ 32) (hva : va % 4096 = 0)
    (hend : n = 0 ∨ va + 4096 * n ≤ 0xC0000000 ∨ 0xC0400000 ≤ va ∧ va + 4096 * n ≤ 2 ^ 32) :
    ∃ u', Pager.storeEntries entry n u pa va = some u' ∧ u'.dir = pageDirPhysicalAddr ∧
      TablesInPlace u'.mem ∧
      u'.stores = u.stores ++ (List.range n).map (fun i => pteAddress (va + i * pageSize)) ∧
      ∀ k, pageWord u'.mem k =
        if va / 4096 ≤ k ∧ k < va / 4096 + n then entry (pa + 4096 * (k - va / 4096))
        else pageWord u.mem k := by
  induction n generalizing u pa va with
  | zero =>
      refine ⟨u, rfl, hdir, h, by simp, ?_⟩
      intro k
      rw [if_neg (by omega)]
  | succ n ih =>
      have hlt : va < 2 ^ 32 := by omega
      have hstep := h.store hdir hlt (entry pa)
      have hin : va / 4096 < 0xC0000 ∨ 0xC0400 ≤ va / 4096 := by omega
      -- the last iteration may wrap to 0, but then nothing is left to visit
      have hpa' : n = 0 ∨ (pa + pageSize) % 2 ^ 32 = pa + 4096 := by
        simp only [pageSize]
        omega
      have hva' : n = 0 ∨ (va + pageSize) % 2 ^ 32 = va + 4096 := by
        simp only [pageSize]
        omega
      have halign : (va + pageSize) % 2 ^ 32 % 4096 = 0 := by
        simp only [pageSize]
        omega
      obtain ⟨u', hrun, hdir', htab', hst, hword⟩ :=
        ih { u with
              mem := write32 u.mem (0x400000 + 4 * (va / 4096)) (entry pa)
              stores := u.stores ++ [0x400000 + 4 * (va / 4096)] }
          ((pa + pageSize) % 2 ^ 32) ((va + pageSize) % 2 ^ 32) hdir (h.write (entry pa) hin)
          (by
            intro i hi
            have hnext := hentry (i + 1) (by omega)
            rw [hpa'.resolve_left (by omega)]
            rwa [show pa + 4096 + 4096 * i = pa + 4096 * (i + 1) by ring])
          (by omega) halign (by omega)
      refine ⟨u', ?_, hdir', htab', ?_, ?_⟩
      · simp only [Pager.storeEntries, hstep, Option.bind_eq_bind, Option.bind_some]
        exact hrun
      · rw [hst, visited_succ hva', pteAddress_eq hlt, List.append_assoc, List.singleton_append]
      · intro k
        have he := hentry 0 (by omega)
        rw [hword, pageWord_write]
        by_cases hk : k = va / 4096
        · subst hk
          rw [if_neg (by omega), if_pos rfl, if_pos (by omega),
            Nat.mod_eq_of_lt (by simpa using he), Nat.sub_self]
          rfl
        · by_cases hlater : va / 4096 + 1 ≤ k ∧ k < va / 4096 + 1 + n
          · have hpaNext := hpa'.resolve_left (by omega)
            have hvaNext := hva'.resolve_left (by omega)
            rw [hpaNext, hvaNext, if_pos (by omega), if_pos (by omega)]
            exact congrArg entry (by omega)
          · rw [if_neg (by omega), if_neg hk, if_neg (by omega)]

theorem pageMap_eq {m : Memory} {k w : Nat} (h : pageWord m k = w) :
    pageMap m k = if Present w then some ⟨frameOf w, w % 4096⟩ else none := by
  rw [pageMap, h]

/-- A call left its linear stores to the words of its pages, the directory as it was,
and the map that the abstract call gives. -/
structure CallRefines (c : PagerCall) (u u' : Mmu) : Prop where
  dir : u'.dir = pageDirPhysicalAddr
  tables : TablesInPlace u'.mem
  stores : u'.stores = u.stores ++ c.pageAddresses.map pteAddress
  entries : ∀ i, i < 1024 → dirEntry u'.mem pageDirPhysicalAddr i =
    dirEntry u.mem pageDirPhysicalAddr i
  pages : ∀ k, pageMap u'.mem k = PagerCall.apply (pageMap u.mem) c k

theorem mapPages_refines {pa va size protect : Nat}
    (hc : (PagerCall.mapPages pa va size protect).Legal) {u : Mmu}
    (hdir : u.dir = pageDirPhysicalAddr) (h : TablesInPlace u.mem) :
    ∃ u', (PagerCall.mapPages pa va size protect).run u = some u' ∧
      CallRefines (.mapPages pa va size protect) u u' := by
  obtain ⟨hpa, hva, hprot, hodd, hpaEnd, hvaEnd, hwin⟩ := hc
  have hbound := sizeToPages_bound (show size + 4095 < 2 ^ 32 by omega)
  have hattr : protect ||| ptUser < 4096 := or_lt_page hprot (by decide)
  obtain ⟨u', hrun, hdir', htab, hst, hword⟩ :=
    storeEntries_spec (fun pa => pa ||| (protect ||| ptUser)) (sizeToPages size) u
      pa va hdir h
      (by
        intro i hi
        rw [or_attr (by omega) hattr]
        omega)
      (by omega) hva (by omega)
  refine ⟨u', hrun, hdir', htab, ?_, ?_, ?_⟩
  · rw [hst, PagerCall.pageAddresses, List.map_map]
    rfl
  · intro i hi
    rw [dirEntry_eq_pageWord, dirEntry_eq_pageWord, hword, if_neg (by omega)]
  · intro k
    rw [pageMap_eq (hword k)]
    by_cases hk : (PagerCall.mapPages pa va size protect).Covers k
    · have hin : va / 4096 ≤ k ∧ k < va / 4096 + sizeToPages size := hk
      have hbits : (protect ||| ptUser) % 2 = 1 := or_odd_left hodd
      simp only [PagerCall.apply, if_pos hk, PagerCall.mapping]
      rw [if_pos hin, or_attr (by omega) hattr, frameOf_add (by omega) hattr,
        if_pos (by simp only [Present]; omega)]
      congr 2
      omega
    · have hout : ¬ (va / 4096 ≤ k ∧ k < va / 4096 + sizeToPages size) := hk
      simp only [PagerCall.apply, if_neg hk, if_neg hout]
      rfl

theorem unmapPages_refines {va size : Nat} (hc : (PagerCall.unmapPages va size).Legal) {u : Mmu}
    (hdir : u.dir = pageDirPhysicalAddr) (h : TablesInPlace u.mem) :
    ∃ u', (PagerCall.unmapPages va size).run u = some u' ∧
      CallRefines (.unmapPages va size) u u' := by
  obtain ⟨hva, hvaEnd, hwin⟩ := hc
  have hbound := sizeToPages_bound (show size + 4095 < 2 ^ 32 by omega)
  obtain ⟨u', hrun, hdir', htab, hst, hword⟩ :=
    storeEntries_spec (fun _ => 0) (sizeToPages size) u 0 va hdir h
      (by
        intro i _
        norm_num)
      (by omega) hva (by omega)
  refine ⟨u', hrun, hdir', htab, ?_, ?_, ?_⟩
  · rw [hst, PagerCall.pageAddresses, List.map_map]
    rfl
  · intro i hi
    rw [dirEntry_eq_pageWord, dirEntry_eq_pageWord, hword, if_neg (by omega)]
  · intro k
    rw [pageMap_eq (hword k)]
    by_cases hk : (PagerCall.unmapPages va size).Covers k
    · have hin : va / 4096 ≤ k ∧ k < va / 4096 + sizeToPages size := hk
      simp only [PagerCall.apply, if_pos hk, if_pos hin]
      rfl
    · have hout : ¬ (va / 4096 ≤ k ∧ k < va / 4096 + sizeToPages size) := hk
      simp only [PagerCall.apply, if_neg hk, if_neg hout]
      rfl

/-- The concrete call refines the abstract one outside the window. -/
theorem run_refines {c : PagerCall} (hc : c.Legal) {u : Mmu}
    (hdir : u.dir = pageDirPhysicalAddr) (h : TablesInPlace u.mem) :
    ∃ u', c.run u = some u' ∧ CallRefines c u u' := by
  cases c with
  | mapPages pa va size protect => exact mapPages_refines hc hdir h
  | unmapPages va size => exact unmapPages_refines hc hdir h

/-! ### Runs -/

def runCalls (u : Mmu) (calls : List PagerCall) : Option Mmu :=
  calls.foldlM PagerCall.run u

theorem runCalls_refines {calls : List PagerCall} (hlegal : ∀ c ∈ calls, c.Legal) {u : Mmu}
    (hdir : u.dir = pageDirPhysicalAddr) (h : TablesInPlace u.mem) :
    ∃ u', runCalls u calls = some u' ∧ u'.dir = pageDirPhysicalAddr ∧ TablesInPlace u'.mem ∧
      u'.stores = u.stores ++ (calls.flatMap PagerCall.pageAddresses).map pteAddress ∧
      (∀ i, i < 1024 → dirEntry u'.mem pageDirPhysicalAddr i =
        dirEntry u.mem pageDirPhysicalAddr i) ∧
      ∀ k, pageMap u'.mem k = calls.foldl PagerCall.apply (pageMap u.mem) k := by
  induction calls generalizing u with
  | nil =>
      refine ⟨u, rfl, hdir, h, ?_, fun _ _ => rfl, ?_⟩
      · rw [List.flatMap_nil, List.map_nil, List.append_nil]
      · intro k
        rw [List.foldl_nil]
  | cons c calls ih =>
      rw [List.forall_mem_cons] at hlegal
      obtain ⟨u₁, hrun, hdir₁, htab₁, hst₁, hpde₁, hmap₁⟩ := run_refines hlegal.1 hdir h
      obtain ⟨u₂, hrest, hdir₂, htab₂, hst₂, hpde₂, hmap₂⟩ := ih hlegal.2 hdir₁ htab₁
      refine ⟨u₂, ?_, hdir₂, htab₂, ?_, ?_, ?_⟩
      · rw [runCalls, List.foldlM_cons, hrun, Option.bind_eq_bind, Option.bind_some]
        exact hrest
      · rw [hst₂, hst₁, List.flatMap_cons, List.map_append, List.append_assoc]
      · intro i hi
        rw [hpde₂ i hi, hpde₁ i hi]
      · intro k
        rw [hmap₂, List.foldl_cons, funext hmap₁]

/-- Walking is looking the page up in the page map. -/
theorem walk_eq_pageMap {m : Memory} (h : TablesInPlace m) {v : Nat} (hv : v < 2 ^ 32) :
    walk m pageDirPhysicalAddr v =
      (pageMap m (v / 4096)).map fun e =>
        ⟨e.frame + v % 4096, dirEntry m pageDirPhysicalAddr (dirIndex v) % 4096, e.attr⟩ := by
  obtain ⟨hpres, hframe⟩ := h (dirIndex v) (dirIndex_lt hv)
  rw [walk_of_pageWords (a := dirEntry m pageDirPhysicalAddr (dirIndex v) % 4096)
    (Nat.mod_lt _ (by norm_num))]
  · rw [pageMap]
    split_ifs <;> rfl
  · simp only [Present] at hpres ⊢
    omega
  · rw [← dirEntry_eq_pageWord]
    simp only [frameOf, pageTablePhysicalAddr, pageSize, dirIndex] at hframe ⊢
    omega

/-- The translation that a run of calls should leave at an address: the page's
last covering call decides, and without one the address keeps its own. -/
def expectedTranslation (m : Memory) (calls : List PagerCall) (v : Nat) : Option Translation :=
  match lastCovering calls (v / 4096) with
  | some (.mapPages pa va _ protect) =>
      some ⟨pa + (v - va), dirEntry m pageDirPhysicalAddr (dirIndex v) % 4096, protect ||| ptUser⟩
  | some (.unmapPages _ _) => none
  | none => walk m pageDirPhysicalAddr v

theorem lastCovering_spec {calls : List PagerCall} {k : Nat} {c : PagerCall}
    (h : lastCovering calls k = some c) : c ∈ calls ∧ c.Covers k := by
  have hmem := List.mem_of_find?_eq_some h
  have hcov := List.find?_some h
  exact ⟨List.mem_reverse.mp hmem, of_decide_eq_true hcov⟩

/-- The guest pager refines the abstract page map and agrees with the boot-time
mapper, over any run of legal calls from the state the boot loader leaves. -/
theorem pager_refines_pageMap (m : Memory) (h : TablesInPlace m) (calls : List PagerCall)
    (hlegal : ∀ c ∈ calls, c.Legal) :
    ∃ u, runCalls ⟨m, pageDirPhysicalAddr, []⟩ calls = some u ∧
      u.stores = (calls.flatMap PagerCall.pageAddresses).map pteAddress ∧
      (∀ i, i < 1024 → dirEntry u.mem pageDirPhysicalAddr i = dirEntry m pageDirPhysicalAddr i) ∧
      ∀ v, v < 2 ^ 32 → ¬ (0xC0000000 ≤ v ∧ v < 0xC0400000) →
        walk u.mem pageDirPhysicalAddr v = expectedTranslation m calls v := by
  obtain ⟨u, hrun, hdir, htab, hst, hpde, hmap⟩ :=
    runCalls_refines hlegal (u := ⟨m, pageDirPhysicalAddr, []⟩) rfl h
  refine ⟨u, hrun, by simpa using hst, hpde, ?_⟩
  intro v hv _
  have hattr := hpde (dirIndex v) (dirIndex_lt hv)
  rw [walk_eq_pageMap htab hv, hmap, foldl_apply, hattr, expectedTranslation]
  cases hlast : lastCovering calls (v / 4096) with
  | none => exact (walk_eq_pageMap h hv).symm
  | some c =>
      obtain ⟨hmem, hcov⟩ := lastCovering_spec hlast
      cases c with
      | mapPages pa va size protect =>
          obtain ⟨hpa, hva, _⟩ := hlegal _ hmem
          obtain ⟨hlo, _⟩ := hcov
          simp only [PagerCall.virtualAddr] at hlo
          simp only [PagerCall.mapping, Option.map_some]
          congr 2
          omega
      | unmapPages va size => rfl

theorem pager_refines_pageMap_overlap :
    ∃ u, runCalls ⟨initPageTable fun _ => 0, pageDirPhysicalAddr, []⟩
        [.mapPages 0x800000 0x3FF000 0x2000 1, .unmapPages 0x400000 0x1000] = some u ∧
      u.stores = [0x400FFC, 0x401000, 0x401000] ∧
      (walk u.mem pageDirPhysicalAddr 0x3FF234).map Translation.address = some 0x800234 ∧
      walk u.mem pageDirPhysicalAddr 0x400234 = none := by
  obtain ⟨u, hrun, hst, _, hwalk⟩ :=
    pager_refines_pageMap (initPageTable fun _ => 0) (tablesInPlace_initPageTable _)
      [.mapPages 0x800000 0x3FF000 0x2000 1, .unmapPages 0x400000 0x1000]
      (by
        intro c hc
        simp only [List.mem_cons, List.not_mem_nil, or_false] at hc
        rcases hc with rfl | rfl <;> simp only [PagerCall.Legal, Present] <;> norm_num)
  refine ⟨u, hrun, hst.trans (by decide), ?_, ?_⟩
  · rw [hwalk 0x3FF234 (by norm_num) (by norm_num)]
    rfl
  · rw [hwalk 0x400234 (by norm_num) (by norm_num)]
    rfl

end ShellcodeVM.GuestOS
