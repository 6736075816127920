import ShellcodeVM.Lib.Word
import ShellcodeVM.Haxm.FrameSearch
import ShellcodeVM.Haxm.GuestTables
import ShellcodeVM.Haxm.MapPages

/-!
`map_pages` seen from the guest: which translations a walk of the page directory finds
after it. One pass either puts a new table into the directory or finds one there; then
it stores one entry. The run is an induction over the pages, and at any page the pass
may come to the next entry of the directory.
-/
namespace ShellcodeVM.Haxm
open Machine

/-- RAM as one block of the host's memory, set at guest address 0. -/
structure OneBlock (vm : VmPaging) (base ramSize : Nat) : Prop where
  blocks : vm.memBlocks = [(base, ⟨base, 0, ramSize⟩)]
  fits : base + ramSize < 2 ^ 64

/-- The entry of the directory that refers to the directory. -/
def VmPaging.selfMap (vm : VmPaging) : Nat := dirIndex vm.pageDirVirtualAddr

/-- RAM holds a directory, its tables and a database that marks them as used. -/
structure WellFormed (vm : VmPaging) (base ramSize : Nat) (host : Memory) : Prop where
  oneBlock : OneBlock vm base ramSize
  tables : Tables vm.pageDirPhysicalAddr vm.selfMap ramSize (window host base)
  marks : MarksReserved vm.pageDirPhysicalAddr vm.selfMap ramSize (window host base)

/-- Moreover the directory lies outside the database, and no entry of it is read-only. -/
structure Usable (vm : VmPaging) (base ramSize : Nat) (host : Memory) : Prop where
  wellFormed : WellFormed vm base ramSize host
  usable : DirUsable vm.pageDirPhysicalAddr vm.selfMap (window host base)

/-- The translation of an address in the guest. -/
def guestWalk (vm : VmPaging) (base : Nat) (host : Memory) (va : Nat) : Option Translation :=
  walk (window host base) vm.pageDirPhysicalAddr va

/-- The pages from `gva` are mapped to the frames from `gpa`; nothing else changes. -/
structure MapsPages (vm : VmPaging) (base : Nat) (host host' : Memory) (gpa gva pages : Nat) :
    Prop where
  mapped : ∀ k o, k < pages → o < 4096 → ∃ t, guestWalk vm base host' (gva + k * 4096 + o) = some t ∧
    t.address = gpa + k * 4096 + o ∧ t.writable
  others : ∀ va, va < 2 ^ 32 → dirIndex va ≠ vm.selfMap →
    ¬ (gva ≤ va ∧ va < gva + pages * 4096) → guestWalk vm base host' va = guestWalk vm base host va

/-- A page-aligned range of virtual addresses that ends below 4 GB and keeps out of the
window of the directory. -/
structure PageRange (vm : VmPaging) (gva pages : Nat) : Prop where
  aligned : gva % 4096 = 0
  ends : gva + pages * 4096 ≤ 2 ^ 32
  outside : ∀ va, gva ≤ va → va < gva + pages * 4096 → dirIndex va ≠ vm.selfMap

theorem PageRange.start_lt {vm : VmPaging} {gva pages : Nat} (h : PageRange vm gva (pages + 1)) :
    gva < 2 ^ 32 := by
  have := h.ends
  omega

theorem PageRange.start_outside {vm : VmPaging} {gva pages : Nat}
    (h : PageRange vm gva (pages + 1)) : dirIndex gva ≠ vm.selfMap :=
  h.outside gva (le_refl gva) (by omega)

theorem PageRange.tail {vm : VmPaging} {gva pages : Nat} (h : PageRange vm gva (pages + 1)) :
    PageRange vm (gva + 4096) pages where
  aligned := by
    have := h.aligned
    omega
  ends := by
    have := h.ends
    omega
  outside := fun va hge hlt => h.outside va (by omega) (by omega)

/-- The loops step from page to page without wrapping. -/
theorem PageRange.next {vm : VmPaging} {gva pages : Nat} (h : PageRange vm gva (pages + 1)) :
    (gva + pageSize) % 2 ^ 64 = gva + 4096 := by
  have hends := h.ends
  rw [pageSize]
  omega

/-- What neither the first page of a range nor the pages behind it change. -/
theorem others_cons {vm : VmPaging} {base : Nat} {host host₁ host' : Memory} {gva pages : Nat}
    (hfirst : ∀ va, va < 2 ^ 32 → dirIndex va ≠ vm.selfMap →
      ¬ (gva ≤ va ∧ va < gva + 1 * 4096) → guestWalk vm base host₁ va = guestWalk vm base host va)
    (hrest : ∀ va, va < 2 ^ 32 → dirIndex va ≠ vm.selfMap →
      ¬ (gva + 4096 ≤ va ∧ va < gva + 4096 + pages * 4096) →
      guestWalk vm base host' va = guestWalk vm base host₁ va) :
    ∀ va, va < 2 ^ 32 → dirIndex va ≠ vm.selfMap →
      ¬ (gva ≤ va ∧ va < gva + (pages + 1) * 4096) →
      guestWalk vm base host' va = guestWalk vm base host va := by
  intro va hva hwin hout
  have houtFirst : ¬ (gva ≤ va ∧ va < gva + 1 * 4096) := by
    intro hin
    exact hout ⟨hin.1, Nat.lt_of_lt_of_le hin.2 (by omega)⟩
  rw [hrest va hva hwin (by omega), hfirst va hva hwin houtFirst]

/-- The pages behind the first one leave its translation alone. -/
theorem PageRange.first_kept {vm : VmPaging} {base : Nat} {host host' : Memory} {gva pages : Nat}
    (h : PageRange vm gva (pages + 1))
    (hrest : ∀ va, va < 2 ^ 32 → dirIndex va ≠ vm.selfMap →
      ¬ (gva + 4096 ≤ va ∧ va < gva + 4096 + pages * 4096) →
      guestWalk vm base host' va = guestWalk vm base host va) {o : Nat} (ho : o < 4096) :
    guestWalk vm base host' (gva + 0 * 4096 + o) = guestWalk vm base host (gva + 0 * 4096 + o) := by
  have hends := h.ends
  have hat := h.outside (gva + 0 * 4096 + o) (by omega) (by omega)
  exact hrest (gva + 0 * 4096 + o) (by omega) hat (by omega)

section Addresses

variable {vm : VmPaging} {base ramSize : Nat}

theorem OneBlock.gpaToHva (h : OneBlock vm base ramSize) {gpa : Nat} (hin : gpa < ramSize) :
    gpaToHva vm.memBlocks gpa = base + gpa := by
  have hfits := h.fits
  have hend : (0 + ramSize) % 2 ^ 64 = ramSize := by omega
  simp only [Haxm.gpaToHva, h.blocks, translate, hend]
  rw [if_pos ⟨Nat.zero_le _, hin⟩]
  omega

theorem OneBlock.databaseHva (h : OneBlock vm base ramSize) (hpos : 0 < ramSize) :
    Haxm.gpaToHva vm.memBlocks frameDatabaseGpa = base :=
  h.gpaToHva hpos

theorem OneBlock.directoryHva (h : OneBlock vm base ramSize) {m : Memory}
    (ht : Tables vm.pageDirPhysicalAddr vm.selfMap ramSize m) :
    Haxm.gpaToHva vm.memBlocks vm.pageDirPhysicalAddr = base + vm.pageDirPhysicalAddr := by
  have hinside := ht.dirInside
  exact h.gpaToHva (by omega)

theorem entryAddr_pde {hva va : Nat} (hva' : va < 2 ^ 32) :
    entryAddr hva (pdeIndex va) = hva + 4 * dirIndex va := by
  have hindex : va >>> 22 = dirIndex va := Nat.shiftRight_eq_div_pow va 22
  have hlt := dirIndex_lt hva'
  rw [entryAddr, pdeIndex, hindex, toInt32_small (by omega)]
  omega

theorem entryAddr_pte (hva va : Nat) :
    entryAddr hva (pteIndex va) = hva + 4 * tableIndex va := by
  have hindex : pteIndex va = tableIndex va := by
    rw [pteIndex, and_indexMask, Nat.shiftRight_eq_div_pow]
    rfl
  rw [entryAddr, hindex]
  omega

theorem pdeAddress_eq {pde : Nat} (h : pde < 2 ^ 32) : pdeAddress pde = frameOf pde := by
  rw [pdeAddress, and_pageMask, Nat.mod_eq_of_lt h]
  rfl

theorem pteAddress_eq {pte : Nat} (h : pte < 2 ^ 32) : pteAddress pte = frameOf pte :=
  pdeAddress_eq h

theorem newEntry_eq {address : Nat} (h : address % 4096 = 0) :
    address ||| ptPresent ||| ptWritable = address + 3 := by
  rw [Nat.or_assoc]
  exact or_attr h (by decide)

end Addresses

section Passes

variable {vm : VmPaging} {base ramSize : Nat} {host host' : Memory} {gpa gva : Nat}

/-- What holds of RAM holds of every memory of the host with the same RAM. -/
theorem Usable.congr (h : Usable vm base ramSize host)
    (hdir : ∀ d, d < 1024 → dirEntry (window host' base) vm.pageDirPhysicalAddr d =
      dirEntry (window host base) vm.pageDirPhysicalAddr d)
    (hmarks : ∀ f, f < frameDatabaseSize → window host' base f = window host base f) :
    Usable vm base ramSize host' where
  wellFormed := ⟨h.wellFormed.oneBlock, h.wellFormed.tables.congr hdir,
    h.wellFormed.marks.congr hdir hmarks⟩
  usable := h.usable.congr hdir

theorem WellFormed.directoryHva (h : WellFormed vm base ramSize host) :
    gpaToHva vm.memBlocks vm.pageDirPhysicalAddr = base + vm.pageDirPhysicalAddr :=
  h.oneBlock.directoryHva h.tables

theorem read32_pde (hgva : gva < 2 ^ 32) :
    read32 host (entryAddr (base + vm.pageDirPhysicalAddr) (pdeIndex gva)) =
      dirEntry (window host base) vm.pageDirPhysicalAddr (dirIndex gva) := by
  rw [entryAddr_pde hgva, dirEntry, read32_window, Nat.add_assoc]

/-- A pass that finds a table stores the entry in it. -/
theorem mapPage_table (h : WellFormed vm base ramSize host) (fuel : Nat)
    (hgpa : gpa % 4096 = 0) (hgva : gva < 2 ^ 32) (hwin : dirIndex gva ≠ vm.selfMap)
    (hentry : dirEntry (window host base) vm.pageDirPhysicalAddr (dirIndex gva) ≠ 0) :
    ∃ host', vm.mapPage fuel (base + vm.pageDirPhysicalAddr) host gpa gva = pure (true, host') ∧
      window host' base = write32 (window host base)
        (frameOf (dirEntry (window host base) vm.pageDirPhysicalAddr (dirIndex gva)) +
          4 * tableIndex gva) (gpa + 3) := by
  have htable := h.tables.table _ (dirIndex_lt hgva) hwin hentry
  have hinside := htable.inside
  have hnonzero : frameOf (dirEntry (window host base) vm.pageDirPhysicalAddr (dirIndex gva)) ≠ 0 := by
    have habove := htable.above
    rw [frameDatabaseSize] at habove
    omega
  have hlt : dirEntry (window host base) vm.pageDirPhysicalAddr (dirIndex gva) < 2 ^ 32 :=
    read32_lt _ _
  rw [VmPaging.mapPage]
  simp only [read32_pde hgva, pdeAddress_eq hlt, newEntry_eq hgpa]
  rw [if_pos hnonzero, h.oneBlock.gpaToHva (by omega), entryAddr_pte, Nat.add_assoc]
  exact ⟨_, rfl, window_write32 _ _ _ _⟩

theorem allocPhysicalPages_one (h : WellFormed vm base ramSize host) {fuel : Nat}
    (hfuel : frameDatabaseSize < fuel) :
    (∃ f found, f < frameDatabaseSize ∧ window host base f = pageFree ∧
      (∀ k, k < f → window host base k ≠ pageFree) ∧
      vm.allocPhysicalPages fuel host 1 = pure (f * 4096, found) ∧
      window found base = memset (window host base) f pageUsed 1) ∨
    (∀ k, k < frameDatabaseSize → window host base k ≠ pageFree) ∧
      ∃ found, vm.allocPhysicalPages fuel host 1 = pure (0, found) := by
  have hinside := h.tables.dirInside
  have hdatabase := h.oneBlock.databaseHva (by omega)
  rcases allocOne_returns (window host base) hfuel with
    ⟨f, hf, hfree, hlowest, hcall⟩ | ⟨hnone, hcall⟩
  · refine .inl ⟨f, replaceWindow host base (memset (window host base) f pageUsed 1), hf, hfree,
      hlowest, ?_, window_replaceWindow _ _ _⟩
    simp only [VmPaging.allocPhysicalPages, hdatabase, hcall]
    rfl
  · refine .inr ⟨hnone, replaceWindow host base (window host base), ?_⟩
    simp only [VmPaging.allocPhysicalPages, hdatabase, hcall]
    rfl

/-- A pass that finds no table takes the lowest free frame for a new one, or gives up. -/
theorem mapPage_newTable (h : WellFormed vm base ramSize host) {fuel : Nat}
    (hfuel : frameDatabaseSize < fuel) (hgpa : gpa % 4096 = 0) (hgva : gva < 2 ^ 32)
    (hentry : dirEntry (window host base) vm.pageDirPhysicalAddr (dirIndex gva) = 0) :
    ((∀ k, k < frameDatabaseSize → window host base k ≠ pageFree) ∧
      ∃ host', vm.mapPage fuel (base + vm.pageDirPhysicalAddr) host gpa gva = pure (false, host')) ∨
    ∃ f host', f < frameDatabaseSize ∧ window host base f = pageFree ∧
      (∀ k, k < f → window host base k ≠ pageFree) ∧
      vm.mapPage fuel (base + vm.pageDirPhysicalAddr) host gpa gva = pure (true, host') ∧
      window host' base = write32
        (withTable vm.pageDirPhysicalAddr (dirIndex gva) f (window host base))
        (f * 4096 + 4 * tableIndex gva) (gpa + 3) := by
  have hzero : frameOf 0 = 0 := rfl
  rw [VmPaging.mapPage]
  simp only [read32_pde hgva, hentry, pdeAddress_eq (by decide : 0 < 2 ^ 32), hzero]
  rw [if_neg (not_not.mpr rfl)]
  rcases allocPhysicalPages_one h hfuel with
    ⟨f, found, hf, hfree, hlowest, hcall, hfound⟩ | ⟨hnone, found, hcall⟩
  · obtain ⟨habove, -, hinside, -⟩ := h.marks.free_frame hf hfree
    have hnonzero : f * 4096 ≠ 0 := by
      rw [frameDatabaseSize] at habove
      omega
    rw [hcall, pure_bind]
    simp only [newEntry_eq hgpa, newEntry_eq (Nat.mul_mod_left f 4096)]
    rw [if_neg hnonzero, h.oneBlock.gpaToHva (by omega), entryAddr_pde hgva, entryAddr_pte,
      Nat.add_assoc, Nat.add_assoc]
    refine .inr ⟨f, _, hf, hfree, hlowest, rfl, ?_⟩
    rw [window_write32, window_write32, window_memset, hfound]
    rfl
  · rw [hcall, pure_bind]
    exact .inl ⟨hnone, found, rfl⟩

/-- Storing an entry leaves the directory and the database alone. -/
theorem Usable.storeEntry (h : Usable vm base ramSize host) {v : Nat} (hgva : gva < 2 ^ 32)
    (hwin : dirIndex gva ≠ vm.selfMap)
    (hentry : dirEntry (window host base) vm.pageDirPhysicalAddr (dirIndex gva) ≠ 0)
    (hstore : window host' base = write32 (window host base)
      (frameOf (dirEntry (window host base) vm.pageDirPhysicalAddr (dirIndex gva)) +
        4 * tableIndex gva) v) : Usable vm base ramSize host' := by
  have ht := h.wellFormed.tables
  refine h.congr ?_ ?_
  · rw [hstore]
    exact ht.dirEntry_entry hgva hwin hentry v
  · rw [hstore]
    exact ht.marks_entry hgva hwin hentry v

/-- A new table is one more table of the directory. -/
theorem Usable.newTable (h : Usable vm base ramSize host) {d f : Nat}
    (hnew : NewTable vm.pageDirPhysicalAddr vm.selfMap ramSize (window host base) d f)
    (hwindow : window host' base = withTable vm.pageDirPhysicalAddr d f (window host base)) :
    Usable vm base ramSize host' where
  wellFormed := by
    refine ⟨h.wellFormed.oneBlock, ?_, ?_⟩
    · rw [hwindow]
      exact hnew.withTable_tables
    · rw [hwindow]
      exact hnew.withTable_marks
  usable := by
    rw [hwindow]
    exact hnew.withTable_usable

/-- The entry of a page that is stored with both attributes maps the page. -/
theorem Usable.mapsPage (h : Usable vm base ramSize host) (hgpa : gpa % 4096 = 0)
    (hgpaEnd : gpa + 4096 ≤ 2 ^ 32) (haligned : gva % 4096 = 0) (hgva : gva < 2 ^ 32)
    (hwin : dirIndex gva ≠ vm.selfMap)
    (hentry : dirEntry (window host base) vm.pageDirPhysicalAddr (dirIndex gva) ≠ 0)
    (hstore : window host' base = write32 (window host base)
      (frameOf (dirEntry (window host base) vm.pageDirPhysicalAddr (dirIndex gva)) +
        4 * tableIndex gva) (gpa + 3)) : MapsPages vm base host host' gpa gva 1 := by
  have hsmall : (gpa + 3) % 2 ^ 32 = gpa + 3 := Nat.mod_eq_of_lt (by omega)
  have hpresent : Present (gpa + 3) := by
    rw [Present]
    omega
  have hwalk : ∀ va, va < 2 ^ 32 → guestWalk vm base host' va =
      if va / 4096 = gva / 4096 then
        some ⟨gpa + va % 4096,
          dirEntry (window host base) vm.pageDirPhysicalAddr (dirIndex gva) % 4096,
          (gpa + 3) % 4096⟩
      else guestWalk vm base host va := by
    intro va hva
    have hedit := h.wellFormed.tables.walk_entry hgva hwin hentry (gpa + 3) hva
    rw [hsmall, if_pos hpresent, frameOf_add hgpa (by decide)] at hedit
    rw [guestWalk, hstore]
    exact hedit
  constructor
  · intro k o hk ho
    obtain rfl : k = 0 := Nat.lt_one_iff.mp hk
    have hwritable := h.usable.writable _ (dirIndex_lt hgva) hwin hentry
    refine ⟨_, (hwalk _ (by omega)).trans (if_pos (by omega)), ?_, ?_, ?_⟩
    · change gpa + (gva + 0 * 4096 + o) % 4096 = gpa + 0 * 4096 + o
      omega
    · change dirEntry _ _ _ % 4096 / 2 % 2 = 1
      omega
    · change (gpa + 3) % 4096 / 2 % 2 = 1
      omega
  · intro va hva _ hout
    rw [hwalk va hva, if_neg (by omega)]

/-- One pass of `map_pages`. -/
theorem mapPage_spec (h : Usable vm base ramSize host) {fuel : Nat}
    (hfuel : frameDatabaseSize < fuel) (hgpa : gpa % 4096 = 0) (hgpaEnd : gpa + 4096 ≤ 2 ^ 32)
    (haligned : gva % 4096 = 0) (hgva : gva < 2 ^ 32) (hwin : dirIndex gva ≠ vm.selfMap) :
    ∃ ok host', vm.mapPage fuel (base + vm.pageDirPhysicalAddr) host gpa gva = pure (ok, host') ∧
      (ok = true → Usable vm base ramSize host' ∧ MapsPages vm base host host' gpa gva 1) := by
  by_cases hentry : dirEntry (window host base) vm.pageDirPhysicalAddr (dirIndex gva) = 0
  · rcases mapPage_newTable h.wellFormed hfuel hgpa hgva hentry with
      ⟨-, host', hcall⟩ | ⟨f, host', hf, hfree, -, hcall, hstore⟩
    · refine ⟨false, host', hcall, ?_⟩
      rintro ⟨⟩
    · refine ⟨true, host', hcall, fun _ => ?_⟩
      have hnew : NewTable vm.pageDirPhysicalAddr vm.selfMap ramSize (window host base)
          (dirIndex gva) f :=
        ⟨h.wellFormed.tables, h.wellFormed.marks, h.usable, dirIndex_lt hgva, hwin, hentry, hf,
          hfree⟩
      -- the memory between the two stores
      obtain ⟨between, hbetween⟩ : ∃ between, window between base =
          withTable vm.pageDirPhysicalAddr (dirIndex gva) f (window host base) :=
        ⟨replaceWindow host base _, window_replaceWindow _ _ _⟩
      have husable := h.newTable hnew hbetween
      have hnewEntry : dirEntry (window between base) vm.pageDirPhysicalAddr (dirIndex gva) =
          f * 4096 + 3 := by
        rw [hbetween, hnew.dirEntry_withTable hnew.indexLt, if_pos rfl]
      have hnonzero : dirEntry (window between base) vm.pageDirPhysicalAddr (dirIndex gva) ≠ 0 := by
        rw [hnewEntry]
        exact Nat.succ_ne_zero _
      have hstore' : window host' base = write32 (window between base)
          (frameOf (dirEntry (window between base) vm.pageDirPhysicalAddr (dirIndex gva)) +
            4 * tableIndex gva) (gpa + 3) := by
        rw [hnewEntry, frameOf_newEntry, hbetween, hstore]
      have hmaps := husable.mapsPage hgpa hgpaEnd haligned hgva hwin hnonzero hstore'
      refine ⟨husable.storeEntry hgva hwin hnonzero hstore', hmaps.mapped, ?_⟩
      intro va hva hwin' hout
      rw [hmaps.others va hva hwin' hout, guestWalk, hbetween]
      exact hnew.walk_withTable hva hwin'
  · obtain ⟨host', hcall, hstore⟩ := mapPage_table h.wellFormed fuel hgpa hgva hwin hentry
    exact ⟨true, host', hcall, fun _ => ⟨h.storeEntry hgva hwin hentry hstore,
      h.mapsPage hgpa hgpaEnd haligned hgva hwin hentry hstore⟩⟩

end Passes

/-- A page mapped, and then the pages behind it. -/
theorem MapsPages.cons {vm : VmPaging} {base : Nat} {host host₁ host' : Memory}
    {gpa gva pages : Nat} (hrange : PageRange vm gva (pages + 1))
    (hfirst : MapsPages vm base host host₁ gpa gva 1)
    (hrest : MapsPages vm base host₁ host' (gpa + 4096) (gva + 4096) pages) :
    MapsPages vm base host host' gpa gva (pages + 1) where
  mapped := by
    intro k o hk ho
    cases k with
    | zero =>
        rw [hrange.first_kept hrest.others ho]
        exact hfirst.mapped 0 o Nat.one_pos ho
    | succ k =>
        obtain ⟨t, hwalk, haddress, hwritable⟩ := hrest.mapped k o (Nat.lt_of_succ_lt_succ hk) ho
        refine ⟨t, ?_, by omega, hwritable⟩
        rw [← hwalk]
        congr 1
        omega
  others := others_cons hfirst.others hrest.others

/-- All passes of `map_pages`. -/
theorem mapPagesLoop_spec {vm : VmPaging} {base ramSize fuel : Nat}
    (hfuel : frameDatabaseSize < fuel) {pages : Nat} {host : Memory} {gpa gva : Nat}
    (h : Usable vm base ramSize host) (hgpa : gpa % 4096 = 0)
    (hgpaEnd : gpa + pages * 4096 ≤ 2 ^ 32) (hrange : PageRange vm gva pages) :
    ∃ ok host', vm.mapPagesLoop fuel (base + vm.pageDirPhysicalAddr) pages host gpa gva =
        pure (ok, host') ∧
      (ok = true → Usable vm base ramSize host' ∧ MapsPages vm base host host' gpa gva pages) := by
  induction pages generalizing host gpa gva with
  | zero =>
      refine ⟨true, host, rfl, fun _ => ⟨h, ?_, fun _ _ _ _ => rfl⟩⟩
      intro k o hk
      exact absurd hk (Nat.not_lt_zero k)
  | succ pages ih =>
      obtain ⟨ok, host₁, hcall, hpass⟩ := mapPage_spec h hfuel hgpa (by omega) hrange.aligned
        hrange.start_lt hrange.start_outside
      rw [VmPaging.mapPagesLoop, hcall, pure_bind]
      cases ok with
      | false =>
          refine ⟨false, host₁, rfl, ?_⟩
          rintro ⟨⟩
      | true =>
          obtain ⟨husable, hfirst⟩ := hpass rfl
          have hgpaNext : (gpa + pageSize) % 2 ^ 64 = gpa + 4096 := by
            rw [pageSize]
            omega
          obtain ⟨ok, host', hrun, hrest⟩ := ih husable
            (by omega : (gpa + 4096) % 4096 = 0) (by omega) hrange.tail
          refine ⟨ok, host', ?_, fun hok => ?_⟩
          · rw [if_neg Bool.noConfusion, hgpaNext, hrange.next]
            exact hrun
          · exact ⟨(hrest hok).1, hfirst.cons hrange (hrest hok).2⟩

end ShellcodeVM.Haxm
