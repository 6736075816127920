import ShellcodeVM.Haxm.PageMapping

/-!
`unmap_pages` seen from the guest, and then both. A pass marks the frame of the page as
free whoever holds it, so the database may no longer mark what the tables use; the
translations do not depend on that.
-/
namespace ShellcodeVM.Haxm
open Machine

/-- The pages from `gva` are mapped to nothing and the frames that they were mapped to
are free; no other translation changes. -/
structure UnmapsPages (vm : VmPaging) (base : Nat) (host host' : Memory) (gva pages : Nat) :
    Prop where
  absent : ∀ k o, k < pages → o < 4096 → guestWalk vm base host' (gva + k * 4096 + o) = none
  freed : ∀ k o t, k < pages → o < 4096 → guestWalk vm base host (gva + k * 4096 + o) = some t →
    t.address / 4096 < frameDatabaseSize ∧ window host' base (t.address / 4096) = pageFree
  keepsFree : ∀ f, f < frameDatabaseSize → window host base f = pageFree →
    window host' base f = pageFree
  others : ∀ va, va < 2 ^ 32 → dirIndex va ≠ vm.selfMap →
    ¬ (gva ≤ va ∧ va < gva + pages * 4096) → guestWalk vm base host' va = guestWalk vm base host va

/-- RAM holds a directory and its tables, outside the database. -/
structure Translates (vm : VmPaging) (base ramSize : Nat) (host : Memory) : Prop where
  oneBlock : OneBlock vm base ramSize
  tables : Tables vm.pageDirPhysicalAddr vm.selfMap ramSize (window host base)
  above : frameDatabaseSize ≤ vm.pageDirPhysicalAddr

theorem Usable.translates {vm : VmPaging} {base ramSize : Nat} {host : Memory}
    (h : Usable vm base ramSize host) : Translates vm base ramSize host :=
  ⟨h.wellFormed.oneBlock, h.wellFormed.tables, h.usable.above⟩

theorem freePhysicalPages_frame (db : Memory) {entry : Nat} (h : entry < 2 ^ 32) :
    Haxm.freePhysicalPages db (frameOf entry) 1 =
      .ok (memset db (entry / 4096) pageFree 1) := by
  have hshift : frameOf entry >>> 12 = entry / 4096 := by
    rw [Nat.shiftRight_eq_div_pow]
    exact Nat.mul_div_cancel _ (by decide)
  have hindex : pageIndex (frameOf entry) = (entry / 4096 : Nat) := by
    rw [pageIndex, hshift, toInt32_small (by omega)]
  have hinside : 0 ≤ ((entry / 4096 : Nat) : Int) ∧
      ((entry / 4096 : Nat) : Int) + (1 : Nat) ≤ frameDatabaseSize := by
    rw [frameDatabaseSize]
    omega
  rw [Haxm.freePhysicalPages, hindex, if_pos (.inr hinside)]
  rfl

section Passes

variable {vm : VmPaging} {base ramSize : Nat} {host host' : Memory} {gva : Nat}

/-- A pass that finds a table inside RAM frees the frame in the entry of the page and
clears the entry. -/
theorem unmapPage_entry (hblock : OneBlock vm base ramSize) (hgva : gva < 2 ^ 32) {pde pte : Nat}
    (hpde : dirEntry (window host base) vm.pageDirPhysicalAddr (dirIndex gva) = pde)
    (hpte : tableEntry (window host base) (frameOf pde) (tableIndex gva) = pte)
    (hnonzero : frameOf pde ≠ 0) (hinside : frameOf pde + 4096 ≤ ramSize) :
    ∃ host', vm.unmapPage (base + vm.pageDirPhysicalAddr) host gva = pure (true, host') ∧
      window host' base = write32 (memset (window host base) (pte / 4096) pageFree 1)
        (frameOf pde + 4 * tableIndex gva) 0 := by
  have hpdeLt : pde < 2 ^ 32 := by
    rw [← hpde]
    exact read32_lt _ _
  have hpteLt : pte < 2 ^ 32 := by
    rw [← hpte]
    exact read32_lt _ _
  have hdatabase := hblock.databaseHva (by omega)
  have hread : read32 host (entryAddr (base + frameOf pde) (pteIndex gva)) = pte := by
    rw [entryAddr_pte, ← hpte, tableEntry, read32_window, Nat.add_assoc]
  rw [VmPaging.unmapPage]
  simp only [read32_pde hgva, hpde, pdeAddress_eq hpdeLt]
  rw [if_neg hnonzero, hblock.gpaToHva (by omega)]
  simp only [hread, pteAddress_eq hpteLt, VmPaging.freePhysicalPages, hdatabase,
    freePhysicalPages_frame _ hpteLt]
  refine ⟨_, rfl, ?_⟩
  rw [entryAddr_pte, Nat.add_assoc, window_write32, window_replaceWindow]

/-- A pass that finds no table ends the loop. -/
theorem unmapPage_noTable (hgva : gva < 2 ^ 32)
    (hentry : dirEntry (window host base) vm.pageDirPhysicalAddr (dirIndex gva) = 0) :
    vm.unmapPage (base + vm.pageDirPhysicalAddr) host gva = pure (false, host) := by
  have hzero : pdeAddress 0 = 0 := by decide
  rw [VmPaging.unmapPage]
  simp only [read32_pde hgva, hentry, hzero, if_true]

theorem unmapPage_table (h : Translates vm base ramSize host) (hgva : gva < 2 ^ 32)
    (hwin : dirIndex gva ≠ vm.selfMap) {pde pte : Nat}
    (hpde : dirEntry (window host base) vm.pageDirPhysicalAddr (dirIndex gva) = pde)
    (hpte : tableEntry (window host base) (frameOf pde) (tableIndex gva) = pte) (hentry : pde ≠ 0) :
    ∃ host', vm.unmapPage (base + vm.pageDirPhysicalAddr) host gva = pure (true, host') ∧
      window host' base = write32 (memset (window host base) (pte / 4096) pageFree 1)
        (frameOf pde + 4 * tableIndex gva) 0 := by
  have htable := h.tables.table _ (dirIndex_lt hgva) hwin (by rwa [hpde])
  rw [hpde] at htable
  have habove := htable.above
  have hnonzero : frameOf pde ≠ 0 := by
    rw [frameDatabaseSize] at habove
    omega
  exact unmapPage_entry h.oneBlock hgva hpde hpte hnonzero htable.inside

/-- One page is mapped to nothing and one frame is marked free. -/
structure ClearsPage (vm : VmPaging) (base ramSize : Nat) (host host' : Memory) (gva frame : Nat) :
    Prop where
  translates : Translates vm base ramSize host'
  walk : ∀ va, va < 2 ^ 32 → dirIndex va ≠ vm.selfMap → guestWalk vm base host' va =
    if va / 4096 = gva / 4096 then none else guestWalk vm base host va
  mark : ∀ f, f < frameDatabaseSize → window host' base f =
    if f = frame then pageFree else window host base f

/-- What the two stores of such a pass do to the guest. -/
theorem Translates.clearsPage (h : Translates vm base ramSize host) (hgva : gva < 2 ^ 32)
    (hwin : dirIndex gva ≠ vm.selfMap) {frame : Nat} (hframe : frame < frameDatabaseSize)
    (hentry : dirEntry (window host base) vm.pageDirPhysicalAddr (dirIndex gva) ≠ 0)
    (hstore : window host' base = write32 (memset (window host base) frame pageFree 1)
      (frameOf (dirEntry (window host base) vm.pageDirPhysicalAddr (dirIndex gva)) +
        4 * tableIndex gva) 0) :
    ClearsPage vm base ramSize host host' gva frame := by
  obtain ⟨freed, hfreed⟩ : ∃ freed, freed = memset (window host base) frame pageFree 1 := ⟨_, rfl⟩
  have hdir : ∀ d, dirEntry freed vm.pageDirPhysicalAddr d =
      dirEntry (window host base) vm.pageDirPhysicalAddr d := by
    intro d
    rw [hfreed]
    exact dirEntry_mark h.above hframe pageFree d
  have htables : Tables vm.pageDirPhysicalAddr vm.selfMap ramSize freed :=
    h.tables.congr fun d _ => hdir d
  rw [← hdir] at hentry
  rw [← hfreed, ← hdir] at hstore
  refine ⟨⟨h.oneBlock, ?_, h.above⟩, ?_, ?_⟩
  · rw [hstore]
    exact htables.congr (htables.dirEntry_entry hgva hwin hentry 0)
  · intro va hva hwin'
    have hedit := htables.walk_entry hgva hwin hentry 0 hva
    rw [if_neg (by decide : ¬ Present (0 % 2 ^ 32))] at hedit
    rw [guestWalk, hstore, hedit, hfreed, guestWalk, walk_mark h.tables h.above hframe _ hva hwin']
  · intro f hf
    rw [hstore, htables.marks_entry hgva hwin hentry 0 f hf, hfreed, memset_apply]
    by_cases heq : f = frame
    · rw [if_pos heq, if_pos (by omega)]
    · rw [if_neg heq, if_neg (by omega)]

/-- When the frame is the one that the page was mapped to, the page is unmapped. -/
theorem ClearsPage.unmaps {frame : Nat} (h : ClearsPage vm base ramSize host host' gva frame)
    (haligned : gva % 4096 = 0) (hgva : gva < 2 ^ 32) (hwin : dirIndex gva ≠ vm.selfMap)
    (hframe : frame < frameDatabaseSize)
    (hmapped : ∀ o t, o < 4096 → guestWalk vm base host (gva + o) = some t →
      t.address / 4096 = frame) : UnmapsPages vm base host host' gva 1 where
  absent := by
    intro k o hk ho
    obtain rfl : k = 0 := Nat.lt_one_iff.mp hk
    have hdir := ((samePage_iff (gva + o) gva).mp (by omega)).1
    rw [Nat.zero_mul, Nat.add_zero, h.walk (gva + o) (by omega) (by rwa [hdir]), if_pos (by omega)]
  freed := by
    intro k o t hk ho ht
    obtain rfl : k = 0 := Nat.lt_one_iff.mp hk
    rw [Nat.zero_mul, Nat.add_zero] at ht
    rw [hmapped o t ho ht, h.mark frame hframe, if_pos rfl]
    exact ⟨hframe, rfl⟩
  keepsFree := by
    intro f hf hfree
    rw [h.mark f hf, hfree, ite_self]
  others := by
    intro va hva hwin' hout
    rw [h.walk va hva hwin', if_neg (by omega)]

/-- One pass of `unmap_pages`. -/
theorem unmapPage_spec (h : Translates vm base ramSize host) (haligned : gva % 4096 = 0)
    (hgva : gva < 2 ^ 32) (hwin : dirIndex gva ≠ vm.selfMap) :
    ∃ ok host', vm.unmapPage (base + vm.pageDirPhysicalAddr) host gva = pure (ok, host') ∧
      (ok = true → Translates vm base ramSize host' ∧ UnmapsPages vm base host host' gva 1) := by
  by_cases hentry : dirEntry (window host base) vm.pageDirPhysicalAddr (dirIndex gva) = 0
  · refine ⟨false, host, unmapPage_noTable hgva hentry, ?_⟩
    rintro ⟨⟩
  · obtain ⟨host', hcall, hstore⟩ := unmapPage_table h hgva hwin rfl rfl hentry
    have hframe : ∀ table j, tableEntry (window host base) table j / 4096 < frameDatabaseSize := by
      intro table j
      have hlt : tableEntry (window host base) table j < 2 ^ 32 := read32_lt _ _
      rw [frameDatabaseSize]
      omega
    have hclears := h.clearsPage hgva hwin (hframe _ _) hentry hstore
    refine ⟨true, host', hcall, fun _ => ⟨hclears.translates,
      hclears.unmaps haligned hgva hwin (hframe _ _) ?_⟩⟩
    intro o t ho ht
    obtain ⟨hdir, htable⟩ := (samePage_iff (gva + o) gva).mp (by omega)
    rw [walk_frame ht, hdir, htable]

end Passes

/-- A page unmapped, and then the pages behind it. -/
theorem UnmapsPages.cons {vm : VmPaging} {base : Nat} {host host₁ host' : Memory} {gva pages : Nat}
    (hrange : PageRange vm gva (pages + 1)) (hfirst : UnmapsPages vm base host host₁ gva 1)
    (hrest : UnmapsPages vm base host₁ host' (gva + 4096) pages) :
    UnmapsPages vm base host host' gva (pages + 1) where
  absent := by
    intro k o hk ho
    cases k with
    | zero =>
        rw [hrange.first_kept hrest.others ho]
        exact hfirst.absent 0 o Nat.one_pos ho
    | succ k =>
        rw [← hrest.absent k o (Nat.lt_of_succ_lt_succ hk) ho]
        congr 1
        omega
  freed := by
    intro k o t hk ho ht
    have hends := hrange.ends
    cases k with
    | zero =>
        obtain ⟨hframe, hfree⟩ := hfirst.freed 0 o t Nat.one_pos ho ht
        exact ⟨hframe, hrest.keepsFree _ hframe hfree⟩
    | succ k =>
        have hat := hrange.outside (gva + (k + 1) * 4096 + o) (by omega) (by omega)
        have hsame := hfirst.others (gva + (k + 1) * 4096 + o) (by omega) hat (by omega)
        refine hrest.freed k o t (Nat.lt_of_succ_lt_succ hk) ho ?_
        rw [← ht, ← hsame]
        congr 1
        omega
  keepsFree := fun f hf hfree => hrest.keepsFree f hf (hfirst.keepsFree f hf hfree)
  others := others_cons hfirst.others hrest.others

/-- All passes of `unmap_pages`. -/
theorem unmapPagesLoop_spec {vm : VmPaging} {base ramSize pages : Nat} {host : Memory} {gva : Nat}
    (h : Translates vm base ramSize host) (hrange : PageRange vm gva pages) :
    ∃ ok host', vm.unmapPagesLoop (base + vm.pageDirPhysicalAddr) pages host gva =
        pure (ok, host') ∧
      (ok = true → UnmapsPages vm base host host' gva pages) := by
  induction pages generalizing host gva with
  | zero =>
      refine ⟨true, host, rfl, fun _ => ⟨?_, ?_, fun _ _ hfree => hfree, fun _ _ _ _ => rfl⟩⟩
      · exact fun k _ hk => absurd hk (Nat.not_lt_zero k)
      · exact fun k _ _ hk => absurd hk (Nat.not_lt_zero k)
  | succ pages ih =>
      obtain ⟨ok, host₁, hcall, hpass⟩ := unmapPage_spec h hrange.aligned hrange.start_lt
        hrange.start_outside
      rw [VmPaging.unmapPagesLoop, hcall, pure_bind]
      cases ok with
      | false =>
          refine ⟨false, host₁, rfl, ?_⟩
          rintro ⟨⟩
      | true =>
          obtain ⟨hnext, hfirst⟩ := hpass rfl
          obtain ⟨ok, host', hrun, hrest⟩ := ih hnext hrange.tail
          refine ⟨ok, host', ?_, fun hok => hfirst.cons hrange (hrest hok)⟩
          rw [if_neg Bool.noConfusion, hrange.next]
          exact hrun

/-- Both calls return. Unless `map_pages` returns false it maps the pages and the state
is good again; unless `unmap_pages` returns false it unmaps them. -/
structure EditsPages (vm : VmPaging) (base : Nat) (Good : Memory → Prop) (fuel : Nat)
    (host : Memory) (gpa gva pages : Nat) : Prop where
  maps : ∃ ok host', vm.mapPages fuel host gpa gva pages = pure (ok, host') ∧
    (ok = true → Good host' ∧ MapsPages vm base host host' gpa gva pages)
  unmaps : ∃ ok host', vm.unmapPages host gva pages = pure (ok, host') ∧
    (ok = true → UnmapsPages vm base host host' gva pages)

/-- With no read-only entry in the directory and the directory outside the database,
`map_pages` and `unmap_pages` edit exactly the pages that they are given. -/
theorem pages_edited (vm : VmPaging) (base ramSize fuel : Nat) (host : Memory)
    (gpa gva pages : Nat) (h : Usable vm base ramSize host) (hfuel : frameDatabaseSize < fuel)
    (hgpa : gpa % 4096 = 0) (hgpaEnd : gpa + pages * 4096 ≤ 2 ^ 32)
    (hrange : PageRange vm gva pages) :
    EditsPages vm base (Usable vm base ramSize) fuel host gpa gva pages where
  maps := by
    rw [VmPaging.mapPages, h.wellFormed.directoryHva]
    exact mapPagesLoop_spec hfuel h hgpa hgpaEnd hrange
  unmaps := by
    rw [VmPaging.unmapPages, h.wellFormed.directoryHva]
    exact unmapPagesLoop_spec h.translates hrange

/-! RAM of 0x102 frames with the directory in frame 0x100 and one table behind it, at
entry 0, with the given attributes. -/

def oneTableVm (self : Nat) : VmPaging where
  memBlocks := [(0x10000000, ⟨0x10000000, 0, 0x102000⟩)]
  pageDirPhysicalAddr := 0x100000
  pageDirVirtualAddr := 0x400000 * self

def oneTableRam (self attr : Nat) : Memory :=
  write32 (write32 (fun a => if a < 0x100000 then pageUsed else 0) (0x100000 + 4 * self) 0x100003)
    0x100000 (0x101000 + attr)

/-- A host with the RAM of a guest at an address. -/
def hostWith (base : Nat) (ram : Memory) : Memory := replaceWindow (fun _ => 0) base ram

theorem oneTableVm_selfMap (self : Nat) : (oneTableVm self).selfMap = self :=
  Nat.mul_div_cancel_left self (by decide)

theorem oneTableRam_entry {self attr d : Nat} (hattr : attr < 4096) :
    dirEntry (oneTableRam self attr) 0x100000 d =
      if d = 0 then 0x101000 + attr else if d = self then 0x100003 else 0 := by
  rw [dirEntry, oneTableRam]
  by_cases h0 : d = 0
  · rw [if_pos h0, h0, Nat.mul_zero, Nat.add_zero, read32_write32_same]
    omega
  · rw [if_neg h0, read32_write32_of_disjoint _ _ _ (by omega)]
    by_cases h1 : d = self
    · rw [if_pos h1, h1, read32_write32_same, Nat.mod_eq_of_lt (by decide)]
    · rw [if_neg h1, read32_write32_of_disjoint _ _ _ (by omega), read32]
      rw [if_neg (by omega), if_neg (by omega), if_neg (by omega), if_neg (by omega)]
      rfl

theorem oneTableVm_wellFormed {self attr : Nat} (hattr : attr < 4096) (hpresent : attr % 2 = 1)
    (hself : 0 < self) (hlt : self < 1024) :
    WellFormed (oneTableVm self) 0x10000000 0x102000 (hostWith 0x10000000 (oneTableRam self attr)) := by
  have hentry : ∀ d, dirEntry (oneTableRam self attr) 0x100000 d =
      if d = 0 then 0x101000 + attr else if d = self then 0x100003 else 0 :=
    fun _ => oneTableRam_entry hattr
  have hframe : frameOf (0x101000 + attr) = 0x101000 := frameOf_add (by decide) hattr
  -- entry 0 is the only one that refers to a table
  have honly : ∀ d, d ≠ self → dirEntry (oneTableRam self attr) 0x100000 d ≠ 0 → d = 0 := by
    intro d h1 hne
    by_contra h0
    rw [hentry, if_neg h0, if_neg h1] at hne
    exact hne rfl
  refine ⟨⟨rfl, by decide⟩, ?_, ?_⟩
  · rw [hostWith, window_replaceWindow, oneTableVm_selfMap]
    refine ⟨(by decide : 0x100000 % 4096 = 0), (by decide : 0x100000 ≠ 0),
      (by decide : 0x100000 + 4096 ≤ 0x102000), by decide, hlt, ?_, ?_, ?_, ?_⟩
    · change Present (dirEntry (oneTableRam self attr) 0x100000 self)
      rw [hentry, if_neg (by omega), if_pos rfl]
      decide
    · change frameOf (dirEntry (oneTableRam self attr) 0x100000 self) = 0x100000
      rw [hentry, if_neg (by omega), if_pos rfl]
      decide
    · intro d hd h1 hne
      obtain rfl := honly d h1 hne
      change IsTable 0x100000 0x102000 (dirEntry (oneTableRam self attr) 0x100000 0)
      rw [hentry, if_pos rfl]
      refine ⟨?_, ?_, ?_, ?_⟩
      · rw [Present]
        omega
      · rw [hframe]
        decide
      · rw [hframe]
      · rw [hframe]
        decide
    · intro d d' hd hd' h1 h1' hne hentry hentry'
      exact absurd ((honly d h1 hentry).trans (honly d' h1' hentry').symm) hne
  · rw [hostWith, window_replaceWindow]
    intro f hf _
    rw [frameDatabaseSize] at hf
    rw [oneTableRam, write32_of_disjoint _ _ _ (.inl hf), write32_of_disjoint _ _ _ (.inl (by omega)),
      if_pos hf]

/-- With a writable entry the directory is one that `map_pages` can use. -/
theorem oneTableVm_usable {self : Nat} (hself : 0 < self) (hlt : self < 1024) :
    Usable (oneTableVm self) 0x10000000 0x102000 (hostWith 0x10000000 (oneTableRam self 3)) := by
  refine ⟨oneTableVm_wellFormed (by decide) (by decide) hself hlt,
    (by decide : frameDatabaseSize ≤ 0x100000), ?_⟩
  intro d _ h1 hne
  rw [oneTableVm_selfMap] at h1
  rw [hostWith, window_replaceWindow] at hne ⊢
  change dirEntry (oneTableRam self 3) 0x100000 d ≠ 0 at hne
  change dirEntry (oneTableRam self 3) 0x100000 d / 2 % 2 = 1
  rw [oneTableRam_entry (by decide), if_neg h1] at hne ⊢
  by_cases h0 : d = 0
  · rw [if_pos h0]
  · rw [if_neg h0] at hne
    exact absurd rfl hne

/-! The same with one frame more, the only one that is free, and the directory at entry 3. -/

def freeFrameVm : VmPaging where
  memBlocks := [(0x10000000, ⟨0x10000000, 0, 0x103000⟩)]
  pageDirPhysicalAddr := 0x100000
  pageDirVirtualAddr := 0xC00000

def freeFrameRam : Memory := write8 (oneTableRam 3 3) 0x102 pageFree

theorem freeFrameRam_mark {f : Nat} (hf : f < frameDatabaseSize) (hne : f ≠ 0x102) :
    freeFrameRam f = pageUsed := by
  rw [frameDatabaseSize] at hf
  rw [freeFrameRam, write8_of_ne _ _ _ hne, oneTableRam, write32_of_disjoint _ _ _ (.inl hf),
    write32_of_disjoint _ _ _ (.inl (by omega)), if_pos hf]

theorem freeFrameRam_entry (d : Nat) :
    dirEntry freeFrameRam 0x100000 d = dirEntry (oneTableRam 3 3) 0x100000 d := by
  apply read32_congr
  intro i _
  rw [freeFrameRam, write8_of_ne _ _ _ (by omega)]

theorem freeFrameVm_usable :
    Usable freeFrameVm 0x10000000 0x103000 (hostWith 0x10000000 freeFrameRam) := by
  have h := oneTableVm_usable (by decide : 0 < 3) (by decide)
  have htables := h.wellFormed.tables
  have husable := h.usable
  rw [hostWith, window_replaceWindow, oneTableVm_selfMap] at htables husable
  have hself : freeFrameVm.selfMap = 3 := by decide
  have hentry : ∀ d, d < 1024 → dirEntry freeFrameRam 0x100000 d =
      dirEntry (oneTableRam 3 3) 0x100000 d := fun d _ => freeFrameRam_entry d
  refine ⟨⟨⟨rfl, by decide⟩, ?_, ?_⟩, ?_⟩
  · rw [hostWith, window_replaceWindow, hself]
    exact (htables.mono (by decide)).congr hentry
  · rw [hostWith, window_replaceWindow, hself]
    intro f hf hreserved
    refine freeFrameRam_mark hf ?_
    rintro rfl
    rcases hreserved with hdatabase | hdir | ⟨d, hd, hne, hpde, hframe⟩ | houtside
    · exact absurd hdatabase (by decide)
    · exact absurd hdir (by decide)
    · -- entry 0 is the only one that refers to a table
      change dirEntry freeFrameRam 0x100000 d ≠ 0 at hpde
      change 0x102 * 4096 = frameOf (dirEntry freeFrameRam 0x100000 d) at hframe
      rw [hentry d hd, oneTableRam_entry (by decide), if_neg hne] at hpde hframe
      by_cases h0 : d = 0
      · rw [if_pos h0] at hframe
        exact absurd hframe (by decide)
      · rw [if_neg h0] at hpde
        exact hpde rfl
    · exact absurd houtside (by decide)
  · rw [hostWith, window_replaceWindow, hself]
    exact husable.congr hentry

theorem freeFrame_range : PageRange freeFrameVm 0x3ff000 2 := by
  have hself : freeFrameVm.selfMap = 3 := by decide
  refine ⟨by decide, by decide, ?_⟩
  intro va _ hlt
  rw [hself, dirIndex]
  omega

/-- The page at 0x3ff000 has a table, and that at 0x400000 gets the free frame as one. -/
theorem freeFrame_maps : ∃ host', freeFrameVm.mapPages (frameDatabaseSize + 1)
    (hostWith 0x10000000 freeFrameRam) 0x5000 0x3ff000 2 = pure (true, host') := by
  have husable := freeFrameVm_usable
  have htables := husable.wellFormed.tables
  have hwindow : window (hostWith 0x10000000 freeFrameRam) 0x10000000 = freeFrameRam :=
    window_replaceWindow _ _ _
  have hgva : 0x3ff000 < 2 ^ 32 := by decide
  have houtside : dirIndex 0x3ff000 ≠ freeFrameVm.selfMap := freeFrame_range.start_outside
  have hentry : dirEntry (window (hostWith 0x10000000 freeFrameRam) 0x10000000)
      freeFrameVm.pageDirPhysicalAddr (dirIndex 0x3ff000) ≠ 0 := by
    rw [hwindow]
    change dirEntry freeFrameRam 0x100000 0 ≠ 0
    rw [freeFrameRam_entry, oneTableRam_entry (by decide), if_pos rfl]
    decide
  obtain ⟨host₁, hfirst, hstore⟩ := mapPage_table husable.wellFormed (frameDatabaseSize + 1)
    (by decide : 0x5000 % 4096 = 0) hgva houtside hentry
  have husable₁ := husable.storeEntry hgva houtside hentry hstore
  have hdir := htables.dirEntry_entry hgva houtside hentry (0x5000 + 3)
  have hmarks := htables.marks_entry hgva houtside hentry (0x5000 + 3)
  rw [← hstore, hwindow] at hdir hmarks
  have hnone : dirEntry (window host₁ 0x10000000) freeFrameVm.pageDirPhysicalAddr
      (dirIndex 0x400000) = 0 := by
    change dirEntry (window host₁ 0x10000000) 0x100000 1 = 0
    refine (hdir 1 (by decide)).trans ?_
    change dirEntry freeFrameRam 0x100000 1 = 0
    rw [freeFrameRam_entry, oneTableRam_entry (by decide), if_neg (by decide), if_neg (by decide)]
  rcases mapPage_newTable husable₁.wellFormed (Nat.lt_succ_self frameDatabaseSize)
      (by decide : 0x6000 % 4096 = 0) (by decide) hnone with
    ⟨hfull, -⟩ | ⟨f, host₂, -, -, -, hlast, -⟩
  · refine absurd ?_ (hfull 0x102 (by decide))
    rw [hmarks 0x102 (by decide), freeFrameRam, write8, if_pos rfl]
  · have hgpaNext : (0x5000 + pageSize) % 2 ^ 64 = 0x6000 := by decide
    have hgvaNext : (0x3ff000 + pageSize) % 2 ^ 64 = 0x400000 := by decide
    refine ⟨host₂, ?_⟩
    rw [VmPaging.mapPages, husable.wellFormed.directoryHva, VmPaging.mapPagesLoop, hfirst,
      pure_bind, if_neg Bool.noConfusion, VmPaging.mapPagesLoop, hgpaNext, hgvaNext, hlast,
      pure_bind, if_neg Bool.noConfusion]
    rfl

theorem pages_edited_newTable :
    EditsPages freeFrameVm 0x10000000 (Usable freeFrameVm 0x10000000 0x103000)
      (frameDatabaseSize + 1) (hostWith 0x10000000 freeFrameRam) 0x5000 0x3ff000 2 ∧
    ∃ host', freeFrameVm.mapPages (frameDatabaseSize + 1) (hostWith 0x10000000 freeFrameRam)
        0x5000 0x3ff000 2 = pure (true, host') ∧
      MapsPages freeFrameVm 0x10000000 (hostWith 0x10000000 freeFrameRam) host' 0x5000 0x3ff000
        2 := by
  have h := pages_edited freeFrameVm 0x10000000 0x103000 (frameDatabaseSize + 1)
    (hostWith 0x10000000 freeFrameRam) 0x5000 0x3ff000 2 freeFrameVm_usable (Nat.lt_succ_self _)
    (by decide) (by decide) freeFrame_range
  obtain ⟨host', hcall⟩ := freeFrame_maps
  obtain ⟨ok, left, hmaps, himp⟩ := h.maps
  obtain ⟨rfl, rfl⟩ := Prod.mk.inj (pure_inj (hcall.symm.trans hmaps))
  exact ⟨h, host', hcall, (himp rfl).2⟩

/-! RAM of 0x2000 frames with the directory in frame 1, where the marks of the frames
from 0x1000 are. The frames below those are used. -/

def overlapVm : VmPaging where
  memBlocks := [(0x10000000, ⟨0x10000000, 0, 0x2000000⟩)]
  pageDirPhysicalAddr := 0x1000
  pageDirVirtualAddr := 0x400000

def overlapRam : Memory :=
  write32 (fun a => if 0x1000 ≤ a ∧ a < 0x2000 then 0 else pageUsed) 0x1004 0x1003

theorem overlapRam_entry {d : Nat} (hd : d < 1024) :
    dirEntry overlapRam 0x1000 d = if d = 1 then 0x1003 else 0 := by
  rw [dirEntry, overlapRam]
  by_cases h1 : d = 1
  · rw [if_pos h1, h1, read32_write32_same, Nat.mod_eq_of_lt (by decide)]
  · rw [if_neg h1, read32_write32_of_disjoint _ _ _ (by omega), read32]
    rw [if_pos (by omega), if_pos (by omega), if_pos (by omega), if_pos (by omega)]
    rfl

theorem overlapRam_mark {f : Nat} (hf : f < 0x1000 ∨ 0x2000 ≤ f) : overlapRam f = pageUsed := by
  rw [overlapRam, write32_of_disjoint _ _ _ (by omega), if_neg (by omega)]

theorem overlapVm_wellFormed :
    WellFormed overlapVm 0x10000000 0x2000000 (hostWith 0x10000000 overlapRam) := by
  have hself : overlapVm.selfMap = 1 := by decide
  have hnone : ∀ d, d < 1024 → d ≠ 1 → dirEntry overlapRam 0x1000 d = 0 := by
    intro d hd h1
    rw [overlapRam_entry hd, if_neg h1]
  have hone : dirEntry overlapRam 0x1000 1 = 0x1003 := overlapRam_entry (by decide)
  refine ⟨⟨rfl, by decide⟩, ?_, ?_⟩
  · rw [hostWith, window_replaceWindow, hself]
    refine ⟨by decide, by decide, by decide, by decide, by decide, ?_, ?_, ?_, ?_⟩
    · change Present (dirEntry overlapRam 0x1000 1)
      rw [hone]
      decide
    · change frameOf (dirEntry overlapRam 0x1000 1) = 0x1000
      rw [hone]
      decide
    · exact fun d hd h1 hne => absurd (hnone d hd h1) hne
    · exact fun d _ hd _ h1 _ _ hne => absurd (hnone d hd h1) hne
  · rw [hostWith, window_replaceWindow, hself]
    rintro f hf (hdatabase | hdir | ⟨d, hd, h1, hne, -⟩ | houtside)
    · rw [frameDatabaseSize] at hdatabase
      exact overlapRam_mark (.inl (by omega))
    · have hdir' : f * 4096 = 0x1000 := hdir
      exact overlapRam_mark (.inl (by omega))
    · exact absurd (hnone d hd h1) hne
    · exact overlapRam_mark (.inr (by omega))

/-- What `map_pages` of one page leaves when its pass succeeds. -/
theorem EditsPages.onePage {vm : VmPaging} {base ramSize fuel gpa gva : Nat}
    {Good : Memory → Prop} {host host' : Memory}
    (h : EditsPages vm base Good fuel host gpa gva 1) (hw : WellFormed vm base ramSize host)
    (hcall : vm.mapPage fuel (base + vm.pageDirPhysicalAddr) host gpa gva = pure (true, host')) :
    Good host' ∧ MapsPages vm base host host' gpa gva 1 := by
  have hrun : vm.mapPages fuel host gpa gva 1 = pure (true, host') := by
    rw [VmPaging.mapPages, hw.directoryHva, VmPaging.mapPagesLoop, hcall, pure_bind]
    rfl
  obtain ⟨ok, left, hmaps, himp⟩ := h.maps
  obtain ⟨rfl, rfl⟩ := Prod.mk.inj (pure_inj (hrun.symm.trans hmaps))
  exact himp rfl

/-- The page at 0 below a read-only entry is mapped, but not writable. -/
theorem oneTable_readOnly {Good : Memory → Prop} {fuel : Nat} :
    ¬ EditsPages (oneTableVm 1) 0x10000000 Good fuel (hostWith 0x10000000 (oneTableRam 1 1)) 0 0 1 := by
  intro h
  have hw := oneTableVm_wellFormed (by decide : 1 < 4096) (by decide) Nat.one_pos (by decide)
  have hself : (oneTableVm 1).selfMap = 1 := by decide
  have hwindow : window (hostWith 0x10000000 (oneTableRam 1 1)) 0x10000000 = oneTableRam 1 1 :=
    window_replaceWindow _ _ _
  have hzero : dirIndex 0 ≠ (oneTableVm 1).selfMap := by
    rw [hself]
    decide
  have hpde : dirEntry (window (hostWith 0x10000000 (oneTableRam 1 1)) 0x10000000)
      (oneTableVm 1).pageDirPhysicalAddr (dirIndex 0) = 0x101001 := by
    rw [hwindow]
    exact (oneTableRam_entry (by decide)).trans (if_pos rfl)
  have hentry : dirEntry (window (hostWith 0x10000000 (oneTableRam 1 1)) 0x10000000)
      (oneTableVm 1).pageDirPhysicalAddr (dirIndex 0) ≠ 0 := by
    rw [hpde]
    decide
  obtain ⟨host', hcall, hstore⟩ := mapPage_table hw fuel (rfl : 0 % 4096 = 0)
    (by decide : 0 < 2 ^ 32) hzero hentry
  obtain ⟨t, ht, -, hwritable, -⟩ := (h.onePage hw hcall).2.mapped 0 0 Nat.one_pos (by decide)
  have hwalk := hw.tables.walk_entry (by decide : 0 < 2 ^ 32) hzero hentry (0 + 3)
    (by decide : 0 < 2 ^ 32)
  rw [← hstore, if_pos rfl, if_pos (by decide), hpde] at hwalk
  have heq := Option.some.inj (ht.symm.trans hwalk)
  rw [heq] at hwritable
  exact absurd hwritable (by decide)

/-- The table that is put into the directory overwrites the mark of its own frame. -/
theorem overlapVm_unmarked {fuel : Nat} (hfuel : frameDatabaseSize < fuel) :
    ¬ EditsPages overlapVm 0x10000000 (WellFormed overlapVm 0x10000000 0x2000000) fuel
      (hostWith 0x10000000 overlapRam) 0 0 1 := by
  intro h
  have hw := overlapVm_wellFormed
  have hself : overlapVm.selfMap = 1 := by decide
  have hwindow : window (hostWith 0x10000000 overlapRam) 0x10000000 = overlapRam :=
    window_replaceWindow _ _ _
  have hpde : dirEntry (window (hostWith 0x10000000 overlapRam) 0x10000000)
      overlapVm.pageDirPhysicalAddr (dirIndex 0) = 0 := by
    rw [hwindow]
    exact (overlapRam_entry (by decide)).trans (if_neg (by decide))
  have hfirst : overlapRam 0x1000 = pageFree := by
    rw [overlapRam, write32_of_disjoint _ _ _ (by omega)]
    decide
  rcases mapPage_newTable hw hfuel (rfl : 0 % 4096 = 0) (by decide : 0 < 2 ^ 32) hpde with
    ⟨hnone, -⟩ | ⟨f, host', hf, hfree, hlowest, hcall, hstore⟩
  · rw [hwindow] at hnone
    exact hnone 0x1000 (by decide) hfirst
  · rw [hwindow] at hfree hlowest hstore
    obtain rfl : f = 0x1000 := by
      by_contra hne
      rcases Nat.lt_or_gt_of_ne hne with hlt | hgt
      · rw [overlapRam_mark (.inl hlt)] at hfree
        exact absurd hfree (by decide)
      · exact hlowest 0x1000 hgt hfirst
    have hgood := (h.onePage hw hcall).1
    have hnew : dirEntry (window host' 0x10000000) overlapVm.pageDirPhysicalAddr 0 = 0x1000003 := by
      rw [hstore, dirEntry, read32_write32_of_disjoint _ _ _ (by decide)]
      change read32 (write32 _ 0x1000 0x1000003) 0x1000 = _
      rw [read32_write32_same, Nat.mod_eq_of_lt (by decide)]
    have hmark := hgood.marks 0x1000 (by decide) (.inr (.inr (.inl ⟨0, by decide, ?_, ?_, ?_⟩)))
    · have hbyte := read32_mod (window host' 0x10000000) 0x1000
      rw [hmark] at hbyte
      rw [dirEntry_zero] at hnew
      change read32 _ 0x1000 = _ at hnew
      rw [hnew] at hbyte
      exact absurd hbyte (by decide)
    · rw [hself]
      decide
    · rw [hnew]
      decide
    · rw [hnew]
      decide

/-- A read-only entry of the directory is enough to spoil `map_pages`, and without one a
directory inside the database is. -/
theorem wellFormed_not_enough :
    (¬ ∀ (vm : VmPaging) (base ramSize fuel : Nat) (host : Memory) (gpa gva pages : Nat),
      WellFormed vm base ramSize host → frameDatabaseSize < fuel → gpa % 4096 = 0 →
      gpa + pages * 4096 ≤ 2 ^ 32 → PageRange vm gva pages →
      EditsPages vm base (WellFormed vm base ramSize) fuel host gpa gva pages) ∧
    ¬ ∀ (vm : VmPaging) (base ramSize fuel : Nat) (host : Memory) (gpa gva pages : Nat),
      WellFormed vm base ramSize host →
      (∀ d, d < 1024 → d ≠ vm.selfMap →
        dirEntry (window host base) vm.pageDirPhysicalAddr d ≠ 0 →
          dirEntry (window host base) vm.pageDirPhysicalAddr d / 2 % 2 = 1) →
      frameDatabaseSize < fuel → gpa % 4096 = 0 → gpa + pages * 4096 ≤ 2 ^ 32 →
      PageRange vm gva pages →
      EditsPages vm base (WellFormed vm base ramSize) fuel host gpa gva pages := by
  have hsmall : (oneTableVm 1).selfMap = 1 := by decide
  have hoverlap : overlapVm.selfMap = 1 := by decide
  constructor
  · intro hall
    refine oneTable_readOnly (hall (oneTableVm 1) 0x10000000 0x102000 (frameDatabaseSize + 1) _ 0 0 1
      (oneTableVm_wellFormed (by decide) (by decide) Nat.one_pos (by decide)) (Nat.lt_succ_self _)
      rfl (by decide)
      ⟨rfl, by decide, ?_⟩)
    intro va _ hlt
    rw [hsmall, dirIndex]
    omega
  · intro hall
    refine overlapVm_unmarked (Nat.lt_succ_self _) (hall overlapVm 0x10000000 0x2000000
      (frameDatabaseSize + 1) _ 0 0 1 overlapVm_wellFormed ?_ (Nat.lt_succ_self _) rfl (by decide)
      ⟨rfl, by decide, ?_⟩)
    · intro d hd hself hentry
      rw [hostWith, window_replaceWindow] at hentry
      rw [hoverlap] at hself
      exact absurd ((overlapRam_entry hd).trans (if_neg hself)) hentry
    · intro va _ hlt
      rw [hoverlap, dirIndex]
      omega

end ShellcodeVM.Haxm
