import ShellcodeVM.Lib.Word
import ShellcodeVM.VM.Paging

/-!
Where the host's `pager` stores the entries of the pages that it maps, and where the
processor reads them. The pager takes its page tables for one array that starts at
`m_page_table_base`; the processor finds each of them in the frame that the allocator
gave. A page is mapped when the two agree on its entry.
-/
namespace ShellcodeVM.VM
open Machine

/-- A pager to initialise, an allocator with its state, the memory of the host, and the
arguments of `Init` and of `map_pages`. -/
structure MapInput (σ : Type) where
  pager : Pager
  alloc : σ → Nat × σ
  db : σ
  host : Memory
  hostMem : Nat
  pageTableBase : Nat
  physicalAddr : Nat
  virtualAddr : Nat
  size : Nat
  protect : Nat

namespace MapInput

variable {σ : Type} (x : MapInput σ)

/-- What `Init` and `new_page_dir` leave. -/
def dirMade : Pager × σ × Memory :=
  (x.pager.init x.hostMem x.pageTableBase).newPageDir x.alloc x.db x.host

def mapped : Nat × σ × Memory :=
  x.dirMade.1.mapPages x.alloc x.dirMade.2.1 x.dirMade.2.2 x.physicalAddr x.virtualAddr x.size
    x.protect

def dbAfter : Nat → σ
  | 0 => x.db
  | k + 1 => (x.alloc (dbAfter k)).2

/-- The frame of allocation `k`. -/
def frame (k : Nat) : Nat := (x.alloc (x.dbAfter k)).1

/-- The directory is the first allocation. -/
def cr3 : Nat := x.frame 0

def firstDir : Nat := dirIndex x.virtualAddr

/-- The tables are the allocations behind it, one for each entry of the directory that
the range uses, in order. -/
def table (d : Nat) : Nat := x.frame (d - x.firstDir + 1)

def pages : Nat := x.size / 4096

def page (i : Nat) : Nat := x.virtualAddr + 4096 * i

/-- The range has a page under entry `d` of the directory. -/
def Uses (d : Nat) : Prop := ∃ i, i < x.pages ∧ dirIndex (x.page i) = d

/-- The host address at which the processor reads entry `j` of the table at entry `d`. -/
def slot (d j : Nat) : Nat := x.hostMem + (x.table d + 4 * j)

/-- The host address at which the pager stores the entry of page `i`. -/
def linear (i : Nat) : Nat := entryAddr x.pageTableBase (x.page i / 4096)

/-- Aligned 32-bit ranges outside the window of the directory, host pointers on which
32-bit words are aligned, and attributes with `PT_PRESENT`. -/
structure Valid : Prop where
  physicalAligned : x.physicalAddr % 4096 = 0
  virtualAligned : x.virtualAddr % 4096 = 0
  sizeAligned : x.size % 4096 = 0
  physicalEnd : x.physicalAddr + x.size ≤ 2 ^ 32
  virtualEnd : x.virtualAddr + x.size ≤ 2 ^ 32
  virtualLt : x.virtualAddr < 2 ^ 32
  protectLt : x.protect < 4096
  protectPresent : x.protect % 2 = 1
  outside : ∀ i, i < x.pages → dirIndex (x.page i) ≠ x.pageTableBase >>> 22
  baseLt : x.pageTableBase < 2 ^ 64
  baseAligned : x.pageTableBase % 4 = 0
  hostAligned : x.hostMem % 4 = 0

/-- A page frame of the guest, inside the memory of the host. -/
structure IsFrame (f : Nat) : Prop where
  aligned : f % 4096 = 0
  below : f + 4096 ≤ 2 ^ 32
  fits : x.hostMem + f + 4096 ≤ 2 ^ 64

/-- The allocations that are made succeed with frames of their own. -/
structure Fresh : Prop where
  dir : x.IsFrame x.cr3
  table : ∀ d, x.Uses d → x.IsFrame (x.table d)
  notDir : ∀ d, x.Uses d → x.table d ≠ x.cr3
  distinct : ∀ d d', x.Uses d → x.Uses d' → d ≠ d' → x.table d ≠ x.table d'

/-- The range is mapped, and outside the window of the directory nothing else changes. -/
structure MapsRange : Prop where
  mapped : ∀ k, k < x.size → ∃ t, walk (window x.mapped.2.2 x.hostMem) x.cr3 (x.virtualAddr + k) =
    some t ∧ t.address = x.physicalAddr + k
  others : ∀ a, a < 2 ^ 32 → dirIndex a ≠ x.pageTableBase >>> 22 →
    ¬ (x.virtualAddr ≤ a ∧ a < x.virtualAddr + x.size) →
    walk (window x.mapped.2.2 x.hostMem) x.cr3 a = walk (window x.dirMade.2.2 x.hostMem) x.cr3 a

/-- For every page of the range, the pager stores its entry where the processor reads it. -/
def LinearTables : Prop :=
  ∀ i, i < x.pages → x.linear i = x.slot (dirIndex (x.page i)) (tableIndex (x.page i))

/-- The pager stores none of the entries into the directory. -/
def DirectoryKept : Prop :=
  ∀ i, i < x.pages → x.linear i + 4 ≤ x.hostMem + x.cr3 ∨ x.hostMem + x.cr3 + 4096 ≤ x.linear i

/-- The attributes that `new_page_table` gives to an entry of the directory. -/
def dirAttr (d : Nat) : Nat := if d < 512 then 7 else 3

/-- The attributes that `map_pages` gives to the entries of the pages. -/
def pageAttr : Nat :=
  if userSpace x.virtualAddr then x.protect ||| ptUser else x.protect

def pageEntry (i : Nat) : Nat := x.physicalAddr + 4096 * i + x.pageAttr

/-- After the tables of the first `e` entries of the range and the entries of its first
`n` pages: what is in the directory and what can be in the tables. -/
structure Stored (e n : Nat) (s : σ × Memory) : Prop where
  allocated : s.1 = x.dbAfter (e + 1)
  dir : ∀ d, d < 1024 → dirEntry (window s.2 x.hostMem) x.cr3 d =
    if x.firstDir ≤ d ∧ d < x.firstDir + e then x.table d + dirAttr d
    else dirEntry (window x.dirMade.2.2 x.hostMem) x.cr3 d
  only : ∀ d j, x.firstDir ≤ d → d < x.firstDir + e → j < 1024 →
    read32 s.2 (x.slot d j) = 0 ∨
      ∃ r, r < n ∧ x.linear r = x.slot d j ∧ read32 s.2 (x.slot d j) = x.pageEntry r
  there : ∀ r, r < n → x.linear r = x.slot (dirIndex (x.page r)) (tableIndex (x.page r)) →
    read32 s.2 (x.slot (dirIndex (x.page r)) (tableIndex (x.page r))) = x.pageEntry r

variable {x}

theorem Valid.page_lt (h : x.Valid) {i : Nat} (hi : i < x.pages) : x.page i < 2 ^ 32 := by
  have hend := h.virtualEnd
  rw [pages] at hi
  rw [page]
  omega

theorem IsFrame.hva {f : Nat} (h : x.IsFrame f) (p : Pager) (hp : p.hostMem = x.hostMem) :
    p.gpaToHva f = x.hostMem + f := by
  have hfits := h.fits
  rw [Pager.gpaToHva, hp]
  omega

/-- The pager that `new_page_dir` leaves. -/
theorem Fresh.dirMade_pager (h : x.Fresh) :
    x.dirMade.1 = ⟨x.hostMem + x.cr3, x.hostMem, x.pageTableBase⟩ := by
  have hva := h.dir.hva (x.pager.init x.hostMem x.pageTableBase) rfl
  simp only [dirMade, Pager.newPageDir, Pager.init] at hva ⊢
  exact congrArg (fun dir => (⟨dir, x.hostMem, x.pageTableBase⟩ : Pager)) hva

/-- Only the entry for the window of the directory is set. -/
theorem Fresh.dirMade_entry (h : x.Fresh) (hx : x.Valid) {d : Nat} (hd : d < 1024)
    (hself : d ≠ x.pageTableBase >>> 22) :
    dirEntry (window x.dirMade.2.2 x.hostMem) x.cr3 d = 0 := by
  have hva := h.dir.hva (x.pager.init x.hostMem x.pageTableBase) rfl
  have hfits := h.dir.fits
  have hbase := hx.baseLt
  have hindex : x.pageTableBase >>> 22 = x.pageTableBase / 2 ^ 22 := Nat.shiftRight_eq_div_pow _ _
  rw [dirEntry, read32_window]
  simp only [dirMade, Pager.newPageDir]
  change read32 (write32 (memset x.host (Pager.gpaToHva _ x.cr3) 0 pageSize) _ _) _ = 0
  rw [hva, read32_write32_of_disjoint, read32_memset_zero]
  · rw [pageSize]
    omega
  · change _ + 4 ≤ entryAddr (Pager.gpaToHva _ x.cr3) (x.pageTableBase >>> 22) ∨
      entryAddr (Pager.gpaToHva _ x.cr3) (x.pageTableBase >>> 22) + 4 ≤ _
    rw [hva, entryAddr]
    omega

theorem Fresh.pdeAddr (h : x.Fresh) {va : Nat} (hva : va < 2 ^ 32) :
    (⟨x.hostMem + x.cr3, x.hostMem, x.pageTableBase⟩ : Pager).pdeAddr va =
      x.hostMem + (x.cr3 + 4 * dirIndex va) := by
  have hfits := h.dir.fits
  have hindex : (va % 2 ^ 32) >>> 22 = dirIndex va := by
    rw [Nat.mod_eq_of_lt hva, Nat.shiftRight_eq_div_pow, dirIndex]
  have hlt := dirIndex_lt hva
  rw [Pager.pdeAddr, hindex, entryAddr]
  change (x.hostMem + x.cr3 + 4 * dirIndex va) % 2 ^ 64 = _
  omega

theorem Valid.pteAddr (h : x.Valid) {i : Nat} (hi : i < x.pages) :
    (⟨x.hostMem + x.cr3, x.hostMem, x.pageTableBase⟩ : Pager).pteAddr (x.page i) = x.linear i := by
  have hpage := h.page_lt hi
  rw [Pager.pteAddr, Nat.mod_eq_of_lt hpage, Nat.shiftRight_eq_div_pow]
  rfl

/-- Different pages have their entries stored at different addresses. -/
theorem Valid.linear_inj (h : x.Valid) {i j : Nat} (hi : i < x.pages) (hj : j < x.pages)
    (heq : x.linear i = x.linear j) : i = j := by
  have hpi := h.page_lt hi
  have hpj := h.page_lt hj
  simp only [linear, entryAddr, page] at heq hpi hpj
  omega

theorem Valid.linear_aligned (h : x.Valid) (i : Nat) : x.linear i % 4 = 0 := by
  have hbase := h.baseAligned
  rw [linear, entryAddr]
  omega

theorem Valid.slot_aligned (h : x.Valid) (hf : x.Fresh) {d : Nat} (hd : x.Uses d) (j : Nat) :
    x.slot d j % 4 = 0 := by
  have hhost := h.hostAligned
  have htable := (hf.table d hd).aligned
  rw [slot]
  omega

/-- Different entries of the tables are at different addresses. -/
theorem Fresh.slot_inj (h : x.Fresh) {d d' j j' : Nat} (hd : x.Uses d) (hd' : x.Uses d')
    (hj : j < 1024) (hj' : j' < 1024) (heq : x.slot d j = x.slot d' j') : d = d' ∧ j = j' := by
  have haligned := (h.table d hd).aligned
  have haligned' := (h.table d' hd').aligned
  simp only [slot] at heq
  have htable : x.table d = x.table d' := by omega
  constructor
  · by_contra hne
    exact h.distinct d d' hd hd' hne htable
  · omega

theorem Valid.pageAttr_spec (h : x.Valid) : x.pageAttr < 4096 ∧ x.pageAttr % 2 = 1 := by
  rw [pageAttr]
  split_ifs
  · exact ⟨or_lt_page h.protectLt (by decide), or_odd_left h.protectPresent⟩
  · exact ⟨h.protectLt, h.protectPresent⟩

theorem Valid.pageEntry_lt (h : x.Valid) {i : Nat} (hi : i < x.pages) : x.pageEntry i < 2 ^ 32 := by
  have hend := h.physicalEnd
  have haligned := h.physicalAligned
  have hattr := h.pageAttr_spec.1
  rw [pages] at hi
  rw [pageEntry]
  omega

theorem Valid.pageEntry_frame (h : x.Valid) (i : Nat) :
    frameOf (x.pageEntry i) = x.physicalAddr + 4096 * i := by
  have haligned := h.physicalAligned
  exact frameOf_add (by omega) h.pageAttr_spec.1

theorem Valid.pageEntry_present (h : x.Valid) (i : Nat) : Present (x.pageEntry i) := by
  have haligned := h.physicalAligned
  have hodd := h.pageAttr_spec.2
  rw [Present, pageEntry]
  omega

theorem dirAttr_spec (d : Nat) : dirAttr d < 4096 ∧ dirAttr d % 2 = 1 := by
  rw [dirAttr]
  split_ifs <;> decide

theorem userSpace_iff {va : Nat} (hva : va < 2 ^ 32) : userSpace va = true ↔ dirIndex va < 512 := by
  rw [userSpace, Nat.mod_eq_of_lt hva, decide_eq_true_iff, kernelBase, dirIndex]
  omega

/-- The entry that `new_page_table` builds. -/
theorem newEntry_eq {va t : Nat} (hva : va < 2 ^ 32) (ht : t % 4096 = 0) :
    (if userSpace va = true then t ||| ptPresent ||| ptWritable ||| ptUser
      else t ||| ptPresent ||| ptWritable) = t + dirAttr (dirIndex va) := by
  have hiff := userSpace_iff hva
  rw [dirAttr]
  by_cases huser : dirIndex va < 512
  · rw [if_pos huser, if_pos (hiff.mpr huser), Nat.or_assoc, Nat.or_assoc]
    exact or_attr ht (by decide)
  · rw [if_neg huser, if_neg (fun h => huser (hiff.mp h)), Nat.or_assoc]
    exact or_attr ht (by decide)

/-- The table at entry `d` put into the directory and cleared. -/
def putTable (x : MapInput σ) (d : Nat) (host : Memory) : Memory :=
  memset (write32 host (x.hostMem + (x.cr3 + 4 * d)) (x.table d + dirAttr d))
    (x.hostMem + x.table d) 0 4096

/-- What `new_page_table` does for the next entry of the range. -/
theorem Stored.newPageTable_eq {e n : Nat} {s : σ × Memory} (h : x.Stored e n s) (hf : x.Fresh)
    {va : Nat} (hva : va < 2 ^ 32) (hd : dirIndex va = x.firstDir + e)
    (huses : x.Uses (dirIndex va)) :
    (Pager.newPageTable x.alloc ⟨x.hostMem + x.cr3, x.hostMem, x.pageTableBase⟩ s.1 s.2 va).2 =
      (x.dbAfter (e + 2), x.putTable (dirIndex va) s.2) := by
  have htable : (x.alloc s.1).1 = x.table (dirIndex va) := by
    rw [h.allocated, table, hd, Nat.add_sub_cancel_left]
    rfl
  have hnext : (x.alloc s.1).2 = x.dbAfter (e + 2) := by
    rw [h.allocated]
    rfl
  have hframe := hf.table _ huses
  simp only [Pager.newPageTable, htable, hnext, newEntry_eq hva hframe.aligned, hf.pdeAddr hva,
    hframe.hva ⟨x.hostMem + x.cr3, x.hostMem, x.pageTableBase⟩ rfl, pageSize, putTable]

theorem Fresh.putTable_dir (hf : x.Fresh) {d d' : Nat} (hd : x.Uses d) (hd' : d' < 1024)
    (host : Memory) :
    dirEntry (window (x.putTable d host) x.hostMem) x.cr3 d' =
      if d' = d then x.table d + dirAttr d else dirEntry (window host x.hostMem) x.cr3 d' := by
  have hframe := hf.table d hd
  have haligned := hframe.aligned
  have hnotDir := hf.notDir d hd
  have hdirAligned := hf.dir.aligned
  rw [dirEntry, read32_window, putTable, read32_memset_outside _ 0 (by omega)]
  by_cases heq : d' = d
  · have hsmall : x.table d + dirAttr d < 2 ^ 32 := by
      have hbelow := hframe.below
      have hattr := (dirAttr_spec d).1
      omega
    rw [if_pos heq, heq, read32_write32_same, Nat.mod_eq_of_lt hsmall]
  · rw [if_neg heq, read32_write32_of_disjoint _ _ _ (by omega), dirEntry, read32_window]

/-- The entries of the other tables stay as they are. -/
theorem Fresh.putTable_slot (hf : x.Fresh) {d d' j : Nat} (hd : x.Uses d) (hd' : x.Uses d')
    (hne : d' ≠ d) (hlt : d < 1024) (hj : j < 1024) (host : Memory) :
    read32 (x.putTable d host) (x.slot d' j) = read32 host (x.slot d' j) := by
  have hframe := hf.distinct d' d hd' hd hne
  have haligned := (hf.table d hd).aligned
  have haligned' := (hf.table d' hd').aligned
  have hdirAligned := hf.dir.aligned
  have hnotDir := hf.notDir d' hd'
  rw [putTable, slot, read32_memset_outside _ 0 (by omega),
    read32_write32_of_disjoint _ _ _ (by omega)]

/-- Its own entries are cleared. -/
theorem putTable_cleared (x : MapInput σ) (d : Nat) {j : Nat} (hj : j < 1024) (host : Memory) :
    read32 (x.putTable d host) (x.slot d j) = 0 := by
  rw [putTable, slot]
  exact read32_memset_zero _ (by omega)

/-- The first page under an entry of the directory gets it a cleared table. -/
theorem Stored.newTable {e n : Nat} {s : σ × Memory} (h : x.Stored e n s) (hf : x.Fresh)
    {va : Nat} (hva : va < 2 ^ 32) (hd : dirIndex va = x.firstDir + e)
    (huses : ∀ d, x.firstDir ≤ d → d < x.firstDir + (e + 1) → x.Uses d)
    (hpages : ∀ r, r < n → x.firstDir ≤ dirIndex (x.page r) ∧
      dirIndex (x.page r) < x.firstDir + e) :
    x.Stored (e + 1) n (Pager.newPageTable x.alloc
      ⟨x.hostMem + x.cr3, x.hostMem, x.pageTableBase⟩ s.1 s.2 va).2 := by
  have husesNew : x.Uses (dirIndex va) := huses _ (by omega) (by omega)
  have hindex := dirIndex_lt hva
  rw [h.newPageTable_eq hf hva hd husesNew]
  have hold : ∀ d j, x.firstDir ≤ d → d < x.firstDir + e → j < 1024 →
      read32 (x.putTable (dirIndex va) s.2) (x.slot d j) = read32 s.2 (x.slot d j) := by
    intro d j hge hlt hj
    exact hf.putTable_slot husesNew (huses d hge (by omega)) (by omega) hindex hj s.2
  refine ⟨rfl, ?_, ?_, ?_⟩
  · intro d hlt
    rw [hf.putTable_dir husesNew hlt]
    by_cases hnew : d = dirIndex va
    · rw [if_pos hnew, if_pos (by omega), hnew]
    · rw [if_neg hnew, h.dir d hlt]
      by_cases hin : x.firstDir ≤ d ∧ d < x.firstDir + e
      · rw [if_pos hin, if_pos (by omega)]
      · rw [if_neg hin, if_neg (by omega)]
  · intro d j hge hlt hj
    by_cases hnew : d = dirIndex va
    · rw [hnew]
      exact .inl (x.putTable_cleared _ hj s.2)
    · have hlt' : d < x.firstDir + e := by omega
      rw [hold d j hge hlt' hj]
      exact h.only d j hge hlt' hj
  · intro r hr heq
    obtain ⟨hge, hlt⟩ := hpages r hr
    rw [hold _ _ hge hlt (tableIndex_lt _)]
    exact h.there r hr heq

/-- The entry of the next page. -/
theorem Stored.storeEntry {e n : Nat} {s : σ × Memory} (h : x.Stored e n s) (hx : x.Valid)
    (hf : x.Fresh) (hn : n < x.pages)
    (hkept : x.linear n + 4 ≤ x.hostMem + x.cr3 ∨ x.hostMem + x.cr3 + 4096 ≤ x.linear n)
    (huses : ∀ d, x.firstDir ≤ d → d < x.firstDir + e → x.Uses d)
    (hpages : ∀ r, r < n + 1 → x.firstDir ≤ dirIndex (x.page r) ∧
      dirIndex (x.page r) < x.firstDir + e) :
    x.Stored e (n + 1) (s.1, write32 s.2 (x.linear n) (x.pageEntry n)) := by
  have hlinear := hx.linear_aligned n
  have hsmall : x.pageEntry n % 2 ^ 32 = x.pageEntry n := Nat.mod_eq_of_lt (hx.pageEntry_lt hn)
  refine ⟨h.allocated, ?_, ?_, ?_⟩
  · intro d hd
    have hdir := h.dir d hd
    rw [dirEntry, read32_window] at hdir ⊢
    rw [← hdir]
    exact read32_write32_of_disjoint _ _ _ (by omega)
  · intro d j hge hlt hj
    have hslot := hx.slot_aligned hf (huses d hge hlt) j
    by_cases hat : x.linear n = x.slot d j
    · refine .inr ⟨n, Nat.lt_succ_self n, hat, ?_⟩
      rw [← hat]
      exact (read32_write32_same _ _ _).trans hsmall
    · have hsame : read32 (write32 s.2 (x.linear n) (x.pageEntry n)) (x.slot d j) =
          read32 s.2 (x.slot d j) := read32_write32_of_disjoint _ _ _ (by omega)
      rw [hsame]
      refine (h.only d j hge hlt hj).imp_right ?_
      rintro ⟨r, hr, hstored⟩
      exact ⟨r, Nat.lt_succ_of_lt hr, hstored⟩
  · intro r hr heq
    rcases Nat.lt_succ_iff_lt_or_eq.mp hr with hlt | rfl
    · have hne : x.linear n ≠ x.linear r := by
        intro hsame
        have hnr := hx.linear_inj hn (by omega) hsame
        omega
      have haligned := hx.linear_aligned r
      rw [← h.there r hlt heq, ← heq]
      exact read32_write32_of_disjoint _ _ _ (by omega)
    · rw [← heq]
      exact (read32_write32_same _ _ _).trans hsmall

/-- The first `n` passes, from what `new_page_dir` leaves. -/
def passes (x : MapInput σ) (n : Nat) : σ × Memory :=
  x.dirMade.1.mapPagesLoop x.alloc (x.physicalAddr &&& 0xfffff000)
    (x.virtualAddr &&& 0xfffff000) x.pageAttr x.dirMade.2 n

theorem Valid.mapped_eq (h : x.Valid) : x.mapped.2 = x.passes x.pages := by
  have hmask : x.virtualAddr &&& 0xfffff000 = x.virtualAddr := by
    have haligned := h.virtualAligned
    have hlt := h.virtualLt
    rw [and_pageMask]
    omega
  have hpages : ((x.virtualAddr - x.virtualAddr + x.size + pageSize - 1) % 2 ^ 64) >>> 12 =
      x.pages := by
    have haligned := h.sizeAligned
    have hend := h.virtualEnd
    rw [Nat.shiftRight_eq_div_pow, pageSize, pages]
    omega
  rw [mapped, Pager.mapPages, passes, pageAttr, hmask]
  simp only [hpages]

/-- One pass for a page of the range. -/
theorem Fresh.mapPage_eq (hf : x.Fresh) (hx : x.Valid) {n : Nat} (hn : n < x.pages)
    (s : σ × Memory) :
    x.dirMade.1.mapPage x.alloc (x.physicalAddr &&& 0xfffff000) (x.virtualAddr &&& 0xfffff000)
        x.pageAttr n s =
      let s := if dirEntry (window s.2 x.hostMem) x.cr3 (dirIndex (x.page n)) = 0 then
          (Pager.newPageTable x.alloc ⟨x.hostMem + x.cr3, x.hostMem, x.pageTableBase⟩ s.1 s.2
            (x.page n)).2
        else s
      (s.1, write32 s.2 (x.linear n) (x.pageEntry n)) := by
  have hpage := hx.page_lt hn
  have hva : (x.virtualAddr &&& 0xfffff000) + n * pageSize = x.page n := by
    have haligned := hx.virtualAligned
    have hlt := hx.virtualLt
    rw [and_pageMask, page, pageSize]
    omega
  have hentry : ((x.physicalAddr &&& 0xfffff000) + n * pageSize) % 2 ^ 64 ||| x.pageAttr =
      x.pageEntry n := by
    have haligned := hx.physicalAligned
    have hend := hx.physicalEnd
    have hat : ((x.physicalAddr &&& 0xfffff000) + n * pageSize) % 2 ^ 64 =
        x.physicalAddr + 4096 * n := by
      rw [pages] at hn
      rw [and_pageMask, pageSize]
      omega
    rw [hat]
    exact or_attr (by omega) hx.pageAttr_spec.1
  have hread : read32 s.2 (x.hostMem + (x.cr3 + 4 * dirIndex (x.page n))) =
      dirEntry (window s.2 x.hostMem) x.cr3 (dirIndex (x.page n)) := by
    rw [dirEntry, read32_window]
  have hmod : x.page n % 2 ^ 64 = x.page n := by omega
  simp only [Pager.mapPage, hf.dirMade_pager, hva, hmod, hentry, hf.pdeAddr hpage, hx.pteAddr hn,
    hread]

/-- What holds between the passes, when the range has used `e` entries of the directory
for its first `n` pages. -/
structure Reached (x : MapInput σ) (n e : Nat) (s : σ × Memory) : Prop where
  stored : x.Stored e n s
  uses : ∀ d, x.firstDir ≤ d → d < x.firstDir + e → x.Uses d
  begun : ∀ r, r < n → x.firstDir ≤ dirIndex (x.page r) ∧ dirIndex (x.page r) < x.firstDir + e
  last : n = 0 ∧ e = 0 ∨ ∃ k, n = k + 1 ∧ x.firstDir + e = dirIndex (x.page k) + 1

theorem reached_start (x : MapInput σ) : x.Reached 0 0 x.dirMade.2 where
  stored := by
    refine ⟨rfl, ?_, ?_, fun r hr => absurd hr (Nat.not_lt_zero r)⟩
    · intro d _
      rw [if_neg (by omega)]
    · intro d j hge hlt
      exact absurd hlt (Nat.not_lt_of_le hge)
  uses := fun d hge hlt => absurd hlt (Nat.not_lt_of_le hge)
  begun := fun r hr => absurd hr (Nat.not_lt_zero r)
  last := .inl ⟨rfl, rfl⟩

/-- The next page is under an entry used before, or under the one behind those. -/
theorem Reached.next_dir {n e : Nat} {s : σ × Memory} (h : x.Reached n e s) :
    x.firstDir ≤ dirIndex (x.page n) ∧ dirIndex (x.page n) ≤ x.firstDir + e ∧
      (dirIndex (x.page n) < x.firstDir + e → x.firstDir + e = dirIndex (x.page n) + 1) := by
  rcases h.last with ⟨rfl, rfl⟩ | ⟨k, rfl, hk⟩
  · exact ⟨le_refl _, le_refl _, fun hlt => absurd hlt (Nat.lt_irrefl _)⟩
  · have hnext : dirIndex (x.page k) ≤ dirIndex (x.page (k + 1)) ∧
        dirIndex (x.page (k + 1)) ≤ dirIndex (x.page k) + 1 := by
      simp only [dirIndex, page]
      omega
    have hbegun := (h.begun k (Nat.lt_succ_self k)).1
    omega

theorem Reached.begun_succ {n e e' : Nat} {s : σ × Memory} (h : x.Reached n e s) (he : e ≤ e')
    (hnext : dirIndex (x.page n) < x.firstDir + e') : ∀ r, r < n + 1 →
      x.firstDir ≤ dirIndex (x.page r) ∧ dirIndex (x.page r) < x.firstDir + e' := by
  intro r hr
  rcases Nat.lt_succ_iff_lt_or_eq.mp hr with hlt | rfl
  · have hold := h.begun r hlt
    omega
  · exact ⟨h.next_dir.1, hnext⟩

/-- A pass that finds a table. -/
theorem Reached.sameTable {n e : Nat} {s : σ × Memory} (h : x.Reached n e s) (hx : x.Valid)
    (hf : x.Fresh) (hkept : x.DirectoryKept) (hn : n < x.pages)
    (hseen : dirIndex (x.page n) < x.firstDir + e) :
    x.Reached (n + 1) e (s.1, write32 s.2 (x.linear n) (x.pageEntry n)) where
  stored := h.stored.storeEntry hx hf hn (hkept n hn) h.uses (h.begun_succ (le_refl e) hseen)
  uses := h.uses
  begun := h.begun_succ (le_refl e) hseen
  last := .inr ⟨n, rfl, h.next_dir.2.2 hseen⟩

/-- A pass that makes a table. -/
theorem Reached.nextTable {n e : Nat} {s : σ × Memory} (h : x.Reached n e s) (hx : x.Valid)
    (hf : x.Fresh) (hkept : x.DirectoryKept) (hn : n < x.pages)
    (hnew : dirIndex (x.page n) = x.firstDir + e) {t : σ × Memory}
    (ht : (Pager.newPageTable x.alloc ⟨x.hostMem + x.cr3, x.hostMem, x.pageTableBase⟩ s.1 s.2
      (x.page n)).2 = t) :
    x.Reached (n + 1) (e + 1) (t.1, write32 t.2 (x.linear n) (x.pageEntry n)) := by
  have huses : ∀ d, x.firstDir ≤ d → d < x.firstDir + (e + 1) → x.Uses d := by
    intro d hge hlt
    by_cases hlast : d = dirIndex (x.page n)
    · exact ⟨n, hn, hlast.symm⟩
    · exact h.uses d hge (by omega)
  have hbegun := h.begun_succ (Nat.le_succ e) (by omega)
  have htable := h.stored.newTable hf (hx.page_lt hn) hnew huses h.begun
  rw [ht] at htable
  exact ⟨htable.storeEntry hx hf hn (hkept n hn) huses hbegun, huses, hbegun,
    .inr ⟨n, rfl, by omega⟩⟩

theorem Reached.pass {n e : Nat} {s : σ × Memory} (h : x.Reached n e s) (hx : x.Valid)
    (hf : x.Fresh) (hkept : x.DirectoryKept) (hn : n < x.pages) :
    ∃ e', x.Reached (n + 1) e' (x.dirMade.1.mapPage x.alloc (x.physicalAddr &&& 0xfffff000)
      (x.virtualAddr &&& 0xfffff000) x.pageAttr n s) := by
  obtain ⟨hfirst, hle, -⟩ := h.next_dir
  have hindex := dirIndex_lt (hx.page_lt hn)
  have hdir := h.stored.dir _ hindex
  rw [hf.mapPage_eq hx hn]
  by_cases hseen : dirIndex (x.page n) < x.firstDir + e
  · have hpresent : dirEntry (window s.2 x.hostMem) x.cr3 (dirIndex (x.page n)) ≠ 0 := by
      have hodd := (dirAttr_spec (dirIndex (x.page n))).2
      rw [hdir, if_pos ⟨hfirst, hseen⟩]
      omega
    rw [if_neg hpresent]
    exact ⟨e, h.sameTable hx hf hkept hn hseen⟩
  · have hnew := Nat.le_antisymm hle (Nat.le_of_not_lt hseen)
    have habsent : dirEntry (window s.2 x.hostMem) x.cr3 (dirIndex (x.page n)) = 0 := by
      rw [hdir, if_neg (fun hin => hseen hin.2)]
      exact hf.dirMade_entry hx hindex (hx.outside n hn)
    rw [if_pos habsent]
    exact ⟨e + 1, h.nextTable hx hf hkept hn hnew rfl⟩

/-- All passes, when none of the entries is stored into the directory. -/
theorem Fresh.passes_reached (hf : x.Fresh) (hx : x.Valid) (hkept : x.DirectoryKept) {n : Nat}
    (hn : n ≤ x.pages) : ∃ e, x.Reached n e (x.passes n) := by
  induction n with
  | zero => exact ⟨0, x.reached_start⟩
  | succ n ih =>
      obtain ⟨e, hreached⟩ := ih (Nat.le_of_succ_le hn)
      exact hreached.pass hx hf hkept hn

end MapInput
end ShellcodeVM.VM
