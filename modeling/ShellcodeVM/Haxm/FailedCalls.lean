import ShellcodeVM.Haxm.UnmappedFrames

/-!
What `map_pages` and `unmap_pages` leave when they return false. Neither takes back what
it has done to the pages in front of the one for which there is no table: a failed call
is a successful call for those pages.
-/
namespace ShellcodeVM.Haxm
open Machine

/-- The directory has no entry for a page. -/
def NoTable (vm : VmPaging) (host : Memory) (va : Nat) : Prop :=
  pdeAddress (read32 host
    (entryAddr (gpaToHva vm.memBlocks vm.pageDirPhysicalAddr) (pdeIndex va))) = 0

/-- The database has no free frame. -/
def DatabaseFull (base : Nat) (host : Memory) : Prop :=
  ∀ f, f < frameDatabaseSize → window host base f ≠ pageFree

/-- Frames are taken out of the database, and none is given back. -/
def TakesFrames (base : Nat) (host host' : Memory) : Prop :=
  ∀ f, f < frameDatabaseSize → window host' base f = window host base f ∨
    window host base f = pageFree ∧ window host' base f = pageUsed

/-- Frames are freed that are named by the words of the first `k` pages, and no others change. -/
def FreesFrames (vm : VmPaging) (base : Nat) (host host' : Memory) (gva k : Nat) : Prop :=
  ∀ f, f < frameDatabaseSize → window host' base f = window host base f ∨
    window host' base f = pageFree ∧
      ∃ i, i < k ∧ rawEntry vm base host (gva + i * 4096) / 4096 = f

/-- A failed call of `map_pages` stopped at page `k`, and `before` is what the call for the
pages in front of it leaves. -/
structure StopsMapping (vm : VmPaging) (base fuel : Nat) (host host' before : Memory)
    (gpa gva k : Nat) : Prop where
  first : vm.mapPages fuel host gpa gva k = pure (true, before)
  noTable : NoTable vm before ((gva + k * pageSize) % 2 ^ 64)
  kept : DatabaseFull base before → host' = before

/-- The same for `unmap_pages`, which changes nothing at the page that it stops at. -/
structure StopsUnmapping (vm : VmPaging) (host host' : Memory) (gva k : Nat) : Prop where
  first : vm.unmapPages host gva k = pure (true, host')
  noTable : NoTable vm host' ((gva + k * pageSize) % 2 ^ 64)

theorem nextPage_eq (a i : Nat) : ((a + i * pageSize) % 2 ^ 64 + pageSize) % 2 ^ 64 =
    (a + (i + 1) * pageSize) % 2 ^ 64 := by
  rw [pageSize]
  omega

/-- The loops make passes for the pages of the range one after another. -/
theorem mapPagesLoop_eq (vm : VmPaging) (fuel dirHva gpa gva pages i : Nat) (host : Memory) :
    vm.mapPagesLoop fuel dirHva pages host ((gpa + i * pageSize) % 2 ^ 64)
        ((gva + i * pageSize) % 2 ^ 64) =
      tryPasses (fun i host => vm.mapPage fuel dirHva host ((gpa + i * pageSize) % 2 ^ 64)
        ((gva + i * pageSize) % 2 ^ 64)) pages i host := by
  induction pages generalizing i host with
  | zero => rfl
  | succ pages ih => simp only [VmPaging.mapPagesLoop, tryPasses, nextPage_eq, ih]

theorem unmapPagesLoop_eq (vm : VmPaging) (dirHva gva pages i : Nat) (host : Memory) :
    vm.unmapPagesLoop dirHva pages host ((gva + i * pageSize) % 2 ^ 64) =
      tryPasses (fun i host => vm.unmapPage dirHva host ((gva + i * pageSize) % 2 ^ 64))
        pages i host := by
  induction pages generalizing i host with
  | zero => rfl
  | succ pages ih => simp only [VmPaging.unmapPagesLoop, tryPasses, nextPage_eq, ih]

theorem mapPages_eq (vm : VmPaging) (fuel : Nat) (host : Memory) {gpa gva : Nat}
    (hgpa : gpa < 2 ^ 64) (hgva : gva < 2 ^ 64) (pages : Nat) :
    vm.mapPages fuel host gpa gva pages =
      tryPasses (fun i host => vm.mapPage fuel (gpaToHva vm.memBlocks vm.pageDirPhysicalAddr) host
        ((gpa + i * pageSize) % 2 ^ 64) ((gva + i * pageSize) % 2 ^ 64)) pages 0 host := by
  rw [← mapPagesLoop_eq, Nat.zero_mul, Nat.add_zero, Nat.add_zero, Nat.mod_eq_of_lt hgpa,
    Nat.mod_eq_of_lt hgva]
  rfl

theorem unmapPages_eq (vm : VmPaging) (host : Memory) {gva : Nat} (hgva : gva < 2 ^ 64)
    (pages : Nat) :
    vm.unmapPages host gva pages =
      tryPasses (fun i host => vm.unmapPage (gpaToHva vm.memBlocks vm.pageDirPhysicalAddr) host
        ((gva + i * pageSize) % 2 ^ 64)) pages 0 host := by
  rw [← unmapPagesLoop_eq, Nat.zero_mul, Nat.add_zero, Nat.mod_eq_of_lt hgva]
  rfl

theorem replaceWindow_window (host : Memory) (base : Nat) :
    replaceWindow host base (window host base) = host := by
  funext x
  rw [replaceWindow]
  split_ifs with h
  · rw [window, Nat.add_sub_cancel' h]
  · rfl

section Passes
variable {vm : VmPaging} {base ramSize fuel : Nat} {host host' : Memory} {gpa gva : Nat}

/-- A pass of `map_pages` fails when there is neither a table nor a frame for one. -/
theorem mapPage_fails
    (h : vm.mapPage fuel (gpaToHva vm.memBlocks vm.pageDirPhysicalAddr) host gpa gva =
      pure (false, host')) :
    NoTable vm host gva ∧ vm.allocPhysicalPages fuel host 1 = pure (0, host') := by
  rw [VmPaging.mapPage] at h
  dsimp only at h
  split_ifs at h with htable
  · cases pure_inj h
  · obtain ⟨⟨address, found⟩, hfound, hrest⟩ := bind_eq_pure h
    dsimp only at hrest
    split_ifs at hrest with hzero
    · cases pure_inj hrest
      rw [hzero] at hfound
      exact ⟨not_not.mp htable, hfound⟩
    · cases pure_inj hrest

theorem allocPhysicalPages_full (hblock : OneBlock vm base ramSize) (hpos : 0 < ramSize)
    (hfuel : frameDatabaseSize < fuel) (hfull : DatabaseFull base host) :
    vm.allocPhysicalPages fuel host 1 = pure (0, host) := by
  have hdatabase := hblock.databaseHva hpos
  rcases allocOne_returns (window host base) hfuel with ⟨f, hf, hfree, -, -⟩ | ⟨-, hcall⟩
  · exact absurd hfree (hfull f hf)
  · simp only [VmPaging.allocPhysicalPages, hdatabase, hcall]
    change (pure (0, replaceWindow host base (window host base)) : Paging (Nat × Memory)) = _
    rw [replaceWindow_window]

/-- With no free frame, a pass that fails changes nothing. -/
theorem mapPage_kept (hblock : OneBlock vm base ramSize) (hpos : 0 < ramSize)
    (hfuel : frameDatabaseSize < fuel) (hfull : DatabaseFull base host)
    (h : vm.mapPage fuel (gpaToHva vm.memBlocks vm.pageDirPhysicalAddr) host gpa gva =
      pure (false, host')) : host' = host := by
  obtain ⟨-, halloc⟩ := mapPage_fails h
  have hsame := halloc.symm.trans (allocPhysicalPages_full hblock hpos hfuel hfull)
  exact (Prod.mk.inj (pure_inj hsame)).2

/-- A pass of `unmap_pages` fails when there is no table. -/
theorem unmapPage_fails
    (h : vm.unmapPage (gpaToHva vm.memBlocks vm.pageDirPhysicalAddr) host gva =
      pure (false, host')) : NoTable vm host' gva ∧ host' = host := by
  rw [VmPaging.unmapPage] at h
  dsimp only at h
  split_ifs at h with htable
  · cases pure_inj h
    exact ⟨htable, rfl⟩
  · obtain ⟨freed, -, hrest⟩ := bind_eq_pure h
    cases pure_inj hrest

end Passes

/-- A failed call has worked for the pages in front of the one that it stopped at. -/
theorem mapPages_stops {vm : VmPaging} {fuel : Nat} {host host' : Memory} {gpa gva pages : Nat}
    (hgpa : gpa < 2 ^ 64) (hgva : gva < 2 ^ 64)
    (hcall : vm.mapPages fuel host gpa gva pages = pure (false, host')) :
    ∃ k before, k < pages ∧ vm.mapPages fuel host gpa gva k = pure (true, before) ∧
      vm.mapPage fuel (gpaToHva vm.memBlocks vm.pageDirPhysicalAddr) before
        ((gpa + k * pageSize) % 2 ^ 64) ((gva + k * pageSize) % 2 ^ 64) = pure (false, host') := by
  rw [mapPages_eq vm fuel host hgpa hgva] at hcall
  obtain ⟨k, before, hk, hrun, hpass⟩ := tryPasses_fails hcall
  rw [Nat.zero_add] at hpass
  refine ⟨k, before, hk, ?_, hpass⟩
  rwa [mapPages_eq vm fuel host hgpa hgva]

/-- It stopped for want of a table, and unless it took frame 0 for one it has changed
nothing since. -/
theorem stopsMapping_of_fails {vm : VmPaging} {base ramSize fuel : Nat}
    {host host' before : Memory} {gpa gva k : Nat} (hblock : OneBlock vm base ramSize)
    (hpos : 0 < ramSize) (hfuel : frameDatabaseSize < fuel)
    (hfirst : vm.mapPages fuel host gpa gva k = pure (true, before))
    (hpass : vm.mapPage fuel (gpaToHva vm.memBlocks vm.pageDirPhysicalAddr) before
      ((gpa + k * pageSize) % 2 ^ 64) ((gva + k * pageSize) % 2 ^ 64) = pure (false, host')) :
    StopsMapping vm base fuel host host' before gpa gva k := by
  obtain ⟨htable, -⟩ := mapPage_fails hpass
  exact ⟨hfirst, htable, fun hfull => mapPage_kept hblock hpos hfuel hfull hpass⟩

theorem unmapPages_stops {vm : VmPaging} {host host' : Memory} {gva pages : Nat}
    (hgva : gva < 2 ^ 64) (hcall : vm.unmapPages host gva pages = pure (false, host')) :
    ∃ k, k < pages ∧ StopsUnmapping vm host host' gva k := by
  rw [unmapPages_eq vm host hgva] at hcall
  obtain ⟨k, before, hk, hrun, hpass⟩ := tryPasses_fails hcall
  rw [Nat.zero_add] at hpass
  obtain ⟨htable, rfl⟩ := unmapPage_fails hpass
  refine ⟨k, hk, ?_, htable⟩
  rwa [unmapPages_eq vm host hgva]

/-! In a range outside the window of the directory. -/

theorem PageRange.take {vm : VmPaging} {gva pages k : Nat} (h : PageRange vm gva pages)
    (hk : k ≤ pages) : PageRange vm gva k := by
  have hle : gva + k * 4096 ≤ gva + pages * 4096 :=
    Nat.add_le_add_left (Nat.mul_le_mul_right 4096 hk) gva
  refine ⟨h.aligned, le_trans hle h.ends, ?_⟩
  intro va hge hlt
  exact h.outside va hge (Nat.lt_of_lt_of_le hlt hle)

/-- One pass of `map_pages` takes at most one frame. -/
theorem mapPage_takes {vm : VmPaging} {base ramSize fuel : Nat} {host host' : Memory}
    {gpa gva : Nat} (h : Usable vm base ramSize host) (hfuel : frameDatabaseSize < fuel)
    (hgpa : gpa % 4096 = 0) (hgva : gva < 2 ^ 32) (hwin : dirIndex gva ≠ vm.selfMap)
    (hcall : vm.mapPage fuel (base + vm.pageDirPhysicalAddr) host gpa gva = pure (true, host')) :
    TakesFrames base host host' := by
  intro f hf
  by_cases hentry : dirEntry (window host base) vm.pageDirPhysicalAddr (dirIndex gva) = 0
  · rcases mapPage_newTable h.wellFormed hfuel hgpa hgva hentry with
      ⟨-, left, hfails⟩ | ⟨f₀, left, hf₀, hfree, -, hmaps, hstore⟩
    · cases pure_inj (hcall.symm.trans hfails)
    · cases pure_inj (hcall.symm.trans hmaps)
      have hnew : NewTable vm.pageDirPhysicalAddr vm.selfMap ramSize (window host base)
          (dirIndex gva) f₀ :=
        ⟨h.wellFormed.tables, h.wellFormed.marks, h.usable, dirIndex_lt hgva, hwin, hentry, hf₀,
          hfree⟩
      obtain ⟨habove, -, -, -⟩ := hnew.frame
      rw [hstore, write32_of_disjoint _ _ _ (.inl (by omega)), hnew.withTable_mark hf]
      split_ifs with heq
      · exact .inr ⟨heq ▸ hfree, rfl⟩
      · exact .inl rfl
  · obtain ⟨left, hmaps, hstore⟩ := mapPage_table h.wellFormed fuel hgpa hgva hwin hentry
    cases pure_inj (hcall.symm.trans hmaps)
    rw [hstore]
    exact .inl (h.wellFormed.tables.marks_entry hgva hwin hentry _ f hf)

theorem TakesFrames.trans {base : Nat} {host host₁ host' : Memory}
    (h : TakesFrames base host host₁) (h' : TakesFrames base host₁ host') :
    TakesFrames base host host' := by
  intro f hf
  rcases h' f hf with heq | ⟨hfree, hused⟩
  · rw [heq]
    exact h f hf
  · rcases h f hf with heq | ⟨-, hused'⟩
    · exact .inr ⟨heq ▸ hfree, hused⟩
    · rw [hused'] at hfree
      exact absurd hfree (by decide)

theorem mapPagesLoop_takes {vm : VmPaging} {base ramSize fuel : Nat}
    (hfuel : frameDatabaseSize < fuel) {pages : Nat} {host host' : Memory} {gpa gva : Nat}
    (h : Usable vm base ramSize host) (hgpa : gpa % 4096 = 0)
    (hgpaEnd : gpa + pages * 4096 ≤ 2 ^ 32) (hrange : PageRange vm gva pages)
    (hcall : vm.mapPagesLoop fuel (base + vm.pageDirPhysicalAddr) pages host gpa gva =
      pure (true, host')) : TakesFrames base host host' := by
  induction pages generalizing host gpa gva with
  | zero =>
      cases pure_inj hcall
      exact fun _ _ => .inl rfl
  | succ pages ih =>
      rw [VmPaging.mapPagesLoop] at hcall
      obtain ⟨⟨ok, host₁⟩, hpass, hrest⟩ := bind_eq_pure hcall
      cases ok with
      | false =>
          rw [if_pos rfl] at hrest
          cases pure_inj hrest
      | true =>
          have hgpaNext : (gpa + pageSize) % 2 ^ 64 = gpa + 4096 := by
            rw [pageSize]
            omega
          rw [if_neg Bool.noConfusion, hgpaNext, hrange.next] at hrest
          obtain ⟨ok, left, hspec, hgood⟩ := mapPage_spec h hfuel hgpa (by omega) hrange.aligned
            hrange.start_lt hrange.start_outside
          cases pure_inj (hpass.symm.trans hspec)
          have hfirst := mapPage_takes h hfuel hgpa hrange.start_lt hrange.start_outside hpass
          exact hfirst.trans (ih (hgood rfl).1 (by omega) (by omega) hrange.tail hrest)

/-- Without a table and without a free frame a pass changes nothing. -/
theorem mapPage_full {vm : VmPaging} {base ramSize fuel : Nat} {host : Memory} {gpa gva : Nat}
    (h : WellFormed vm base ramSize host) (hfuel : frameDatabaseSize < fuel)
    (hgpa : gpa % 4096 = 0) (hgva : gva < 2 ^ 32) (hfull : DatabaseFull base host)
    (hentry : dirEntry (window host base) vm.pageDirPhysicalAddr (dirIndex gva) = 0) :
    vm.mapPage fuel (base + vm.pageDirPhysicalAddr) host gpa gva = pure (false, host) := by
  rcases mapPage_newTable h hfuel hgpa hgva hentry with ⟨-, left, hcall⟩ | ⟨f, left, hf, hfree, -⟩
  · have hinside := h.tables.dirInside
    rw [← h.directoryHva] at hcall ⊢
    rw [hcall, mapPage_kept h.oneBlock (by omega) hfuel hfull hcall]
  · exact absurd hfree (hfull f hf)

/-- In a usable state the failed pass has found no free frame. -/
theorem databaseFull_of_fails {vm : VmPaging} {base ramSize fuel : Nat} {host host' : Memory}
    {gpa gva : Nat} (h : Usable vm base ramSize host) (hfuel : frameDatabaseSize < fuel)
    (hgpa : gpa % 4096 = 0) (hgva : gva < 2 ^ 32) (hwin : dirIndex gva ≠ vm.selfMap)
    (hpass : vm.mapPage fuel (base + vm.pageDirPhysicalAddr) host gpa gva = pure (false, host')) :
    DatabaseFull base host := by
  by_cases hentry : dirEntry (window host base) vm.pageDirPhysicalAddr (dirIndex gva) = 0
  · rcases mapPage_newTable h.wellFormed hfuel hgpa hgva hentry with
      ⟨hfull, -⟩ | ⟨f, left, -, -, -, hmaps, -⟩
    · exact hfull
    · cases pure_inj (hpass.symm.trans hmaps)
  · obtain ⟨left, hmaps, -⟩ := mapPage_table h.wellFormed fuel hgpa hgva hwin hentry
    cases pure_inj (hpass.symm.trans hmaps)

/-- The first `k` pages are mapped, with frames for their tables, and there is no other. -/
structure MapsFirst (vm : VmPaging) (base : Nat) (host before : Memory) (gpa gva k : Nat) :
    Prop where
  full : DatabaseFull base before
  maps : MapsPages vm base host before gpa gva k
  takes : TakesFrames base host before

/-- The first `k` pages are unmapped. -/
structure UnmapsFirst (vm : VmPaging) (base : Nat) (host host' : Memory) (gva k : Nat) :
    Prop where
  unmaps : UnmapsPages vm base host host' gva k
  frees : FreesFrames vm base host host' gva k

theorem mapsFirst_of_fails {vm : VmPaging} {base ramSize fuel : Nat} {host host' before : Memory}
    {gpa gva pages k : Nat} (h : Usable vm base ramSize host) (hfuel : frameDatabaseSize < fuel)
    (hgpa : gpa % 4096 = 0) (hgpaEnd : gpa + pages * 4096 ≤ 2 ^ 32)
    (hrange : PageRange vm gva pages) (hk : k < pages)
    (hfirst : vm.mapPages fuel host gpa gva k = pure (true, before))
    (hpass : vm.mapPage fuel (gpaToHva vm.memBlocks vm.pageDirPhysicalAddr) before
      ((gpa + k * pageSize) % 2 ^ 64) ((gva + k * pageSize) % 2 ^ 64) = pure (false, host')) :
    MapsFirst vm base host before gpa gva k := by
  have hdir := h.wellFormed.directoryHva
  have hpage : k * 4096 + 4096 ≤ pages * 4096 := by omega
  have hbehind : gva + k * 4096 < gva + pages * 4096 := by omega
  have hgpaK : (gpa + k * pageSize) % 2 ^ 64 = gpa + k * 4096 := by
    rw [pageSize]
    omega
  have hends := hrange.ends
  have hgvaK : (gva + k * pageSize) % 2 ^ 64 = gva + k * 4096 := by
    rw [pageSize]
    omega
  rw [VmPaging.mapPages, hdir] at hfirst
  rw [hdir, hgpaK, hgvaK] at hpass
  have hle : k * 4096 ≤ pages * 4096 := Nat.mul_le_mul_right 4096 (Nat.le_of_lt hk)
  have hgpaFirst : gpa + k * 4096 ≤ 2 ^ 32 := le_trans (Nat.add_le_add_left hle gpa) hgpaEnd
  have hrangeFirst := hrange.take (Nat.le_of_lt hk)
  obtain ⟨ok, left, hspec, hgood⟩ := mapPagesLoop_spec hfuel h hgpa hgpaFirst hrangeFirst
  cases pure_inj (hfirst.symm.trans hspec)
  obtain ⟨husable, hmaps⟩ := hgood rfl
  have hwin := hrange.outside (gva + k * 4096) (Nat.le_add_right _ _) hbehind
  exact ⟨databaseFull_of_fails husable hfuel (by omega) (by omega) hwin hpass, hmaps,
    mapPagesLoop_takes hfuel h hgpa hgpaFirst hrangeFirst hfirst⟩

theorem unmapsFirst_of_stops {vm : VmPaging} {base ramSize : Nat} {host host' : Memory}
    {gva pages k : Nat} (h : Translates vm base ramSize host) (hrange : PageRange vm gva pages)
    (hk : k < pages) (hstops : StopsUnmapping vm host host' gva k) :
    UnmapsFirst vm base host host' gva k := by
  have hrangeFirst := hrange.take (Nat.le_of_lt hk)
  have hdir := h.oneBlock.directoryHva h.tables
  have hfirst := hstops.first
  refine ⟨?_, ?_⟩
  · rw [VmPaging.unmapPages, hdir] at hfirst
    obtain ⟨ok, left, hspec, hgood⟩ := unmapPagesLoop_spec h hrangeFirst
    cases pure_inj (hfirst.symm.trans hspec)
    exact hgood rfl
  · obtain ⟨ok, left, s, hspec, hs, -, hun, -, -⟩ := h.unmapPages hrangeFirst.ends
    cases pure_inj (hfirst.symm.trans hspec)
    intro f hf
    by_cases hnamed : ∃ i, i < s ∧ rawEntry vm base host (gva + i * 4096) / 4096 = f
    · obtain ⟨i, hi, heq⟩ := hnamed
      refine .inr ⟨?_, i, by omega, heq⟩
      rw [← heq]
      exact hun.freed i hi
    · exact .inl (hun.marks f hf fun i hi heq => hnamed ⟨i, hi, heq⟩)

/-- A call that returns false is a successful call for the pages in front of the one that
it stopped at, which has no table. -/
theorem failed_calls_stop (vm : VmPaging) (base ramSize fuel : Nat) (host : Memory)
    (gpa gva pages : Nat) (h : WellFormed vm base ramSize host) (hfuel : frameDatabaseSize < fuel)
    (hgpa : gpa < 2 ^ 64) (hgva : gva < 2 ^ 64) :
    (∀ host', vm.mapPages fuel host gpa gva pages = pure (false, host') →
      ∃ k before, k < pages ∧ StopsMapping vm base fuel host host' before gpa gva k ∧
        (Usable vm base ramSize host → gpa % 4096 = 0 → gpa + pages * 4096 ≤ 2 ^ 32 →
          PageRange vm gva pages → MapsFirst vm base host before gpa gva k)) ∧
    ∀ host', vm.unmapPages host gva pages = pure (false, host') →
      ∃ k, k < pages ∧ StopsUnmapping vm host host' gva k ∧
        (Translates vm base ramSize host → PageRange vm gva pages →
          UnmapsFirst vm base host host' gva k) := by
  have hinside := h.tables.dirInside
  constructor
  · intro host' hcall
    obtain ⟨k, before, hk, hfirst, hpass⟩ := mapPages_stops hgpa hgva hcall
    refine ⟨k, before, hk, stopsMapping_of_fails h.oneBlock (by omega) hfuel hfirst hpass, ?_⟩
    intro husable haligned hgpaEnd hrange
    exact mapsFirst_of_fails husable hfuel haligned hgpaEnd hrange hk hfirst hpass
  · intro host' hcall
    obtain ⟨k, hk, hstops⟩ := unmapPages_stops hgva hcall
    refine ⟨k, hk, hstops, ?_⟩
    intro htranslates hrange
    exact unmapsFirst_of_stops htranslates hrange hk hstops

/-! RAM with one table, the directory at entry 3 and no free frame. The second of two
pages has no table. -/

theorem oneTableRam_mark {self attr f : Nat} (hf : f < frameDatabaseSize) :
    oneTableRam self attr f = pageUsed := by
  rw [frameDatabaseSize] at hf
  rw [oneTableRam, write32_of_disjoint _ _ _ (.inl hf), write32_of_disjoint _ _ _ (.inl (by omega)),
    if_pos hf]

theorem oneTable_window :
    window (hostWith 0x10000000 (oneTableRam 3 3)) 0x10000000 = oneTableRam 3 3 :=
  window_replaceWindow _ _ _

theorem oneTable_outside : dirIndex 0x3ff000 ≠ (oneTableVm 3).selfMap := by
  rw [oneTableVm_selfMap]
  decide

theorem oneTable_entry : dirEntry (window (hostWith 0x10000000 (oneTableRam 3 3)) 0x10000000)
    (oneTableVm 3).pageDirPhysicalAddr (dirIndex 0x3ff000) ≠ 0 := by
  rw [oneTable_window]
  change dirEntry (oneTableRam 3 3) 0x100000 0 ≠ 0
  rw [oneTableRam_entry (by decide), if_pos rfl]
  decide

theorem oneTable_noEntry {host : Memory}
    (hdir : ∀ d, d < 1024 → dirEntry (window host 0x10000000) 0x100000 d =
      dirEntry (oneTableRam 3 3) 0x100000 d) :
    dirEntry (window host 0x10000000) (oneTableVm 3).pageDirPhysicalAddr (dirIndex 0x400000) = 0 := by
  change dirEntry (window host 0x10000000) 0x100000 1 = 0
  rw [hdir 1 (by decide), oneTableRam_entry (by decide), if_neg (by decide), if_neg (by decide)]

/-- `map_pages` maps the first page and returns false. -/
theorem oneTable_map_fails :
    ∃ host', (oneTableVm 3).mapPages (frameDatabaseSize + 1)
        (hostWith 0x10000000 (oneTableRam 3 3)) 0 0x3ff000 2 = pure (false, host') ∧
      ∃ t, guestWalk (oneTableVm 3) 0x10000000 host' 0x3ff000 = some t := by
  have husable := oneTableVm_usable (by decide : 0 < 3) (by decide)
  have htables := husable.wellFormed.tables
  have hgva : 0x3ff000 < 2 ^ 32 := by decide
  obtain ⟨host', hfirst, hstore⟩ := mapPage_table husable.wellFormed (frameDatabaseSize + 1)
    (by decide : 0 % 4096 = 0) hgva oneTable_outside oneTable_entry
  have husable' := husable.storeEntry hgva oneTable_outside oneTable_entry hstore
  have hmaps := husable.mapsPage (by decide) (by decide) (by decide) hgva oneTable_outside
    oneTable_entry hstore
  have hdir := htables.dirEntry_entry hgva oneTable_outside oneTable_entry (0 + 3)
  have hmarks := htables.marks_entry hgva oneTable_outside oneTable_entry (0 + 3)
  rw [← hstore, oneTable_window] at hdir hmarks
  have hfull : DatabaseFull 0x10000000 host' := by
    intro f hf
    rw [hmarks f hf, oneTableRam_mark hf]
    decide
  have hlast := mapPage_full husable'.wellFormed (Nat.lt_succ_self frameDatabaseSize)
    (by decide : 0x1000 % 4096 = 0) (by decide) hfull (oneTable_noEntry hdir)
  have hgpaNext : (0 + pageSize) % 2 ^ 64 = 0x1000 := by decide
  have hgvaNext : (0x3ff000 + pageSize) % 2 ^ 64 = 0x400000 := by decide
  refine ⟨host', ?_, ?_⟩
  · rw [VmPaging.mapPages, husable.wellFormed.directoryHva, VmPaging.mapPagesLoop, hfirst, pure_bind,
      if_neg Bool.noConfusion, VmPaging.mapPagesLoop, hgpaNext, hgvaNext, hlast, pure_bind, if_pos rfl]
  · obtain ⟨t, hwalk, -, -⟩ := hmaps.mapped 0 0 Nat.one_pos (by decide)
    exact ⟨t, hwalk⟩

/-- `unmap_pages` frees frame 0 and returns false. -/
theorem oneTable_unmap_fails :
    ∃ host', (oneTableVm 3).unmapPages (hostWith 0x10000000 (oneTableRam 3 3)) 0x3ff000 2 =
        pure (false, host') ∧ window host' 0x10000000 0 = pageFree := by
  have husable := oneTableVm_usable (by decide : 0 < 3) (by decide)
  obtain ⟨ok, host', s, hcall, hs, hok, hun, hcome, hend⟩ := husable.translates.unmapPages
    (by decide : 0x3ff000 + 2 * 4096 ≤ 2 ^ 32)
  -- the call comes to the first page, and not to the second
  have hfirst : ComesTo (oneTableVm 3) 0x10000000 (hostWith 0x10000000 (oneTableRam 3 3)) 0x3ff000
      0 := by
    intro i hi
    obtain rfl : i = 0 := Nat.le_zero.mp hi
    exact ⟨oneTable_entry, fun j hj => absurd hj (Nat.not_lt_zero j)⟩
  have hsecond : ¬ ComesTo (oneTableVm 3) 0x10000000 (hostWith 0x10000000 (oneTableRam 3 3))
      0x3ff000 1 := by
    intro hcome
    exact (hcome 1 (le_refl 1)).1 (oneTable_noEntry fun d _ => by rw [oneTable_window])
  have hpos : 0 < s := by
    by_contra hzero
    exact hend (by omega) (hfirst.mono (by omega))
  have hfalse : ok = false := by
    by_contra hne
    have htwo := hok (Bool.eq_true_of_not_eq_false hne)
    exact hsecond (hcome 1 (by omega))
  have hword : rawEntry (oneTableVm 3) 0x10000000 (hostWith 0x10000000 (oneTableRam 3 3))
      (0x3ff000 + 0 * 4096) = 0 := by
    rw [rawEntry, oneTable_window]
    decide +kernel
  have hfreed := hun.freed 0 hpos
  rw [hword] at hfreed
  exact ⟨host', hfalse ▸ hcall, hfreed⟩

/-- The first of two pages stays mapped, or its frame freed, when there is no table for
the second. -/
theorem failed_calls_leave_traces :
    WellFormed (oneTableVm 3) 0x10000000 0x102000 (hostWith 0x10000000 (oneTableRam 3 3)) ∧
    (∃ host', (oneTableVm 3).mapPages (frameDatabaseSize + 1)
        (hostWith 0x10000000 (oneTableRam 3 3)) 0 0x3ff000 2 = pure (false, host') ∧
      guestWalk (oneTableVm 3) 0x10000000 host' 0x3ff000 ≠
        guestWalk (oneTableVm 3) 0x10000000 (hostWith 0x10000000 (oneTableRam 3 3)) 0x3ff000) ∧
    ∃ host', (oneTableVm 3).unmapPages (hostWith 0x10000000 (oneTableRam 3 3)) 0x3ff000 2 =
        pure (false, host') ∧
      window host' 0x10000000 0 ≠
        window (hostWith 0x10000000 (oneTableRam 3 3)) 0x10000000 0 := by
  refine ⟨(oneTableVm_usable (by decide) (by decide)).wellFormed, ?_, ?_⟩
  · obtain ⟨host', hcall, t, hwalk⟩ := oneTable_map_fails
    have habsent : guestWalk (oneTableVm 3) 0x10000000 (hostWith 0x10000000 (oneTableRam 3 3))
        0x3ff000 = none := by
      rw [guestWalk, oneTable_window]
      decide +kernel
    refine ⟨host', hcall, ?_⟩
    rw [hwalk, habsent]
    exact Option.some_ne_none t
  · obtain ⟨host', hcall, hfreed⟩ := oneTable_unmap_fails
    refine ⟨host', hcall, ?_⟩
    rw [hfreed, oneTable_window]
    decide +kernel

theorem oneTable_range : PageRange (oneTableVm 3) 0x3ff000 2 := by
  refine ⟨by decide, by decide, ?_⟩
  intro va _ hlt
  rw [oneTableVm_selfMap, dirIndex]
  omega

/-- Both calls have worked for some first pages. -/
theorem failed_calls_stop_oneTable :
    (∃ host' k before, k < 2 ∧ StopsMapping (oneTableVm 3) 0x10000000 (frameDatabaseSize + 1)
        (hostWith 0x10000000 (oneTableRam 3 3)) host' before 0 0x3ff000 k ∧
      MapsFirst (oneTableVm 3) 0x10000000 (hostWith 0x10000000 (oneTableRam 3 3)) before 0 0x3ff000
        k) ∧
    ∃ host' k, k < 2 ∧ StopsUnmapping (oneTableVm 3) (hostWith 0x10000000 (oneTableRam 3 3)) host'
        0x3ff000 k ∧
      UnmapsFirst (oneTableVm 3) 0x10000000 (hostWith 0x10000000 (oneTableRam 3 3)) host' 0x3ff000
        k := by
  have husable := oneTableVm_usable (by decide : 0 < 3) (by decide)
  have hstop := failed_calls_stop (oneTableVm 3) 0x10000000 0x102000 (frameDatabaseSize + 1)
    (hostWith 0x10000000 (oneTableRam 3 3)) 0 0x3ff000 2 husable.wellFormed (Nat.lt_succ_self _)
    (by decide) (by decide)
  obtain ⟨host', hmaps, -⟩ := oneTable_map_fails
  obtain ⟨host'', hunmaps, -⟩ := oneTable_unmap_fails
  obtain ⟨k, before, hk, hmapping, hmapped⟩ := hstop.1 host' hmaps
  obtain ⟨k', hk', hunmapping, hunmapped⟩ := hstop.2 host'' hunmaps
  exact ⟨⟨host', k, before, hk, hmapping,
      hmapped husable (by decide) (by decide) oneTable_range⟩,
    host'', k', hk', hunmapping, hunmapped husable.translates oneTable_range⟩

end ShellcodeVM.Haxm
