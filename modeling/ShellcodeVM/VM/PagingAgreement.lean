import ShellcodeVM.VM.PagingTables

/-!
`map_pages` of the host's `pager` creates the translations it promises exactly where its
linear page tables are the ones that the processor walks.
-/
namespace ShellcodeVM.VM
open Machine
namespace MapInput

variable {σ : Type} {x : MapInput σ}

/-- A walk under one of the new tables. -/
theorem Stored.walk_table {e n : Nat} {s : σ × Memory} (h : x.Stored e n s) (hf : x.Fresh)
    {a : Nat} (ha : a < 2 ^ 32) (hge : x.firstDir ≤ dirIndex a)
    (hlt : dirIndex a < x.firstDir + e) (huses : x.Uses (dirIndex a)) :
    walk (window s.2 x.hostMem) x.cr3 a =
      if Present (read32 s.2 (x.slot (dirIndex a) (tableIndex a))) then
        some ⟨frameOf (read32 s.2 (x.slot (dirIndex a) (tableIndex a))) + a % 4096,
          (x.table (dirIndex a) + dirAttr (dirIndex a)) % 4096,
          read32 s.2 (x.slot (dirIndex a) (tableIndex a)) % 4096⟩
      else none := by
  have hframe := hf.table _ huses
  have hattr := dirAttr_spec (dirIndex a)
  have hdir := h.dir _ (dirIndex_lt ha)
  rw [if_pos ⟨hge, hlt⟩] at hdir
  have hpresent : Present (x.table (dirIndex a) + dirAttr (dirIndex a)) := by
    have haligned := hframe.aligned
    rw [Present]
    omega
  have htable : tableEntry (window s.2 x.hostMem)
      (frameOf (x.table (dirIndex a) + dirAttr (dirIndex a))) (tableIndex a) =
      read32 s.2 (x.slot (dirIndex a) (tableIndex a)) := by
    rw [frameOf_add hframe.aligned hattr.1, tableEntry, read32_window]
    rfl
  by_cases hentry : Present (read32 s.2 (x.slot (dirIndex a) (tableIndex a)))
  · rw [if_pos hentry]
    exact walk_mapped hdir hpresent htable hentry
  · rw [if_neg hentry]
    apply walk_table_absent
    rw [hdir, htable]
    exact hentry

theorem Valid.page_index (hx : x.Valid) {i o : Nat} (hi : i < x.pages) (ho : o < 4096) :
    x.page i + o < 2 ^ 32 ∧ dirIndex (x.page i + o) = dirIndex (x.page i) ∧
      tableIndex (x.page i + o) = tableIndex (x.page i) ∧ (x.page i + o) % 4096 = o := by
  have haligned := hx.virtualAligned
  have hlt := hx.page_lt hi
  obtain ⟨hdir, htable⟩ := (samePage_iff (x.page i + o) (x.page i)).mp (by
    rw [page]
    omega)
  refine ⟨?_, hdir, htable, ?_⟩
  · rw [page] at *
    omega
  · rw [page]
    omega

/-- A page whose entry is stored where the processor reads it is mapped. -/
theorem Stored.page_mapped {e : Nat} {s : σ × Memory} (h : x.Stored e x.pages s) (hx : x.Valid)
    (hf : x.Fresh) {i o : Nat} (hi : i < x.pages) (ho : o < 4096)
    (hdirs : x.firstDir ≤ dirIndex (x.page i) ∧ dirIndex (x.page i) < x.firstDir + e)
    (hat : x.linear i = x.slot (dirIndex (x.page i)) (tableIndex (x.page i))) :
    ∃ t, walk (window s.2 x.hostMem) x.cr3 (x.page i + o) = some t ∧
      t.address = x.physicalAddr + 4096 * i + o := by
  obtain ⟨hlt, hdir, htable, hoffset⟩ := hx.page_index hi ho
  have hwalk := h.walk_table hf hlt (by rw [hdir]; exact hdirs.1) (by rw [hdir]; exact hdirs.2)
    (by rw [hdir]; exact ⟨i, hi, rfl⟩)
  rw [hdir, htable, h.there i hi hat, if_pos (hx.pageEntry_present i), hx.pageEntry_frame,
    hoffset] at hwalk
  exact ⟨_, hwalk, rfl⟩

/-- A page that is mapped has its entry stored where the processor reads it. -/
theorem Stored.page_linear {e : Nat} {s : σ × Memory} (h : x.Stored e x.pages s) (hx : x.Valid)
    (hf : x.Fresh) {i : Nat} (hi : i < x.pages)
    (hdirs : x.firstDir ≤ dirIndex (x.page i) ∧ dirIndex (x.page i) < x.firstDir + e)
    (hmapped : ∃ t, walk (window s.2 x.hostMem) x.cr3 (x.page i) = some t ∧
      t.address = x.physicalAddr + 4096 * i) :
    x.linear i = x.slot (dirIndex (x.page i)) (tableIndex (x.page i)) := by
  obtain ⟨t, ht, haddress⟩ := hmapped
  have hwalk := h.walk_table hf (hx.page_lt hi) hdirs.1 hdirs.2 ⟨i, hi, rfl⟩
  rcases h.only _ _ hdirs.1 hdirs.2 (tableIndex_lt (x.page i)) with hzero | ⟨r, hr, hat, hentry⟩
  · rw [hzero, if_neg (by decide)] at hwalk
    rw [hwalk] at ht
    cases ht
  · rw [hentry, if_pos (hx.pageEntry_present r), hx.pageEntry_frame] at hwalk
    rw [hwalk] at ht
    cases ht
    have haligned := hx.virtualAligned
    have hir : r = i := by
      have hoffset : x.page i % 4096 = 0 := by
        rw [page]
        omega
      change x.physicalAddr + 4096 * r + x.page i % 4096 = _ at haddress
      omega
    rw [← hir] at hat ⊢
    exact hat

/-- Under an entry of the directory that is not the pager's nothing is mapped. -/
theorem Fresh.walk_dirMade (hf : x.Fresh) (hx : x.Valid) {a : Nat} (ha : a < 2 ^ 32)
    (hself : dirIndex a ≠ x.pageTableBase >>> 22) :
    walk (window x.dirMade.2.2 x.hostMem) x.cr3 a = none := by
  apply walk_dir_absent
  rw [hf.dirMade_entry hx (dirIndex_lt ha) hself]
  decide

/-- With linear tables no address outside the range becomes mapped. -/
theorem Stored.walk_outside {e : Nat} {s : σ × Memory} (h : x.Stored e x.pages s) (hx : x.Valid)
    (hf : x.Fresh) (hlinear : x.LinearTables)
    (huses : ∀ d, x.firstDir ≤ d → d < x.firstDir + e → x.Uses d) {a : Nat} (ha : a < 2 ^ 32)
    (hself : dirIndex a ≠ x.pageTableBase >>> 22)
    (hout : ¬ (x.virtualAddr ≤ a ∧ a < x.virtualAddr + x.size)) :
    walk (window s.2 x.hostMem) x.cr3 a = none := by
  by_cases hin : x.firstDir ≤ dirIndex a ∧ dirIndex a < x.firstDir + e
  · have husesDir := huses _ hin.1 hin.2
    rw [h.walk_table hf ha hin.1 hin.2 husesDir]
    rcases h.only _ _ hin.1 hin.2 (tableIndex_lt a) with hzero | ⟨r, hr, hat, -⟩
    · rw [hzero, if_neg (by decide)]
    · -- the entry would be that of a page of the range
      exfalso
      rw [hlinear r hr] at hat
      have hsame := (samePage_iff (x.page r) a).mpr
        (hf.slot_inj ⟨r, hr, rfl⟩ husesDir (tableIndex_lt _) (tableIndex_lt _) hat)
      have haligned := hx.virtualAligned
      rw [pages] at hr
      rw [page] at hsame
      omega
  · apply walk_dir_absent
    rw [h.dir _ (dirIndex_lt ha), if_neg hin, hf.dirMade_entry hx (dirIndex_lt ha) hself]
    decide

theorem LinearTables.directoryKept (h : x.LinearTables) (hf : x.Fresh) : x.DirectoryKept := by
  intro i hi
  have huses : x.Uses (dirIndex (x.page i)) := ⟨i, hi, rfl⟩
  have hne := hf.notDir _ huses
  have haligned := (hf.table _ huses).aligned
  have hdirAligned := hf.dir.aligned
  have hindex := tableIndex_lt (x.page i)
  rw [h i hi, slot]
  omega

theorem LinearTables.mapsRange (h : x.LinearTables) (hx : x.Valid) (hf : x.Fresh) :
    x.MapsRange := by
  obtain ⟨e, hstored, huses, hdirs, -⟩ :=
    hf.passes_reached hx (h.directoryKept hf) (le_refl x.pages)
  have haligned := hx.virtualAligned
  have hsize := hx.sizeAligned
  constructor
  · intro k hk
    have hpage : k / 4096 < x.pages := by
      rw [pages]
      omega
    obtain ⟨t, hwalk, haddress⟩ := hstored.page_mapped hx hf hpage
      (Nat.mod_lt k (by decide)) (hdirs _ hpage) (h _ hpage)
    have hat : x.page (k / 4096) + k % 4096 = x.virtualAddr + k := by
      rw [page]
      omega
    rw [hat] at hwalk
    rw [hx.mapped_eq]
    exact ⟨t, hwalk, by omega⟩
  · intro a ha hself hout
    rw [hx.mapped_eq, hf.walk_dirMade hx ha hself]
    exact hstored.walk_outside hx hf h huses ha hself hout

theorem MapsRange.linearTables (h : x.MapsRange) (hx : x.Valid) (hf : x.Fresh)
    (hkept : x.DirectoryKept) : x.LinearTables := by
  obtain ⟨e, hstored, -, hdirs, -⟩ := hf.passes_reached hx hkept (le_refl x.pages)
  intro i hi
  have hsize := hx.sizeAligned
  have hin : 4096 * i < x.size := by
    rw [pages] at hi
    omega
  refine hstored.page_linear hx hf hi (hdirs i hi) ?_
  have hmapped := h.mapped (4096 * i) hin
  rw [hx.mapped_eq] at hmapped
  exact hmapped

/-- The pager maps the range, and keeps its entries out of the directory, exactly when
it stores every entry where the processor reads it. -/
theorem mapsRange_iff {σ : Type} (x : MapInput σ) (hx : x.Valid) (hf : x.Fresh) :
    x.MapsRange ∧ x.DirectoryKept ↔ x.LinearTables := by
  constructor
  · intro h
    exact h.1.linearTables hx hf h.2
  · intro h
    exact ⟨h.mapsRange hx hf, h.directoryKept hf⟩

/-- An allocator of consecutive frames, for a guest whose memory is at 0x10000000. -/
def consecutive (pageTableBase virtualAddr size : Nat) : MapInput Nat where
  pager := ⟨0, 0, 0⟩
  alloc := fun k => (0x400000 + 4096 * k, k + 1)
  db := 0
  host := fun _ => 0xCC
  hostMem := 0x10000000
  pageTableBase := pageTableBase
  physicalAddr := 0x800000
  virtualAddr := virtualAddr
  size := size
  protect := ptPresent ||| ptWritable

theorem consecutive_frame (pageTableBase virtualAddr size k : Nat) :
    (consecutive pageTableBase virtualAddr size).frame k = 0x400000 + 4096 * k := by
  have hdb : (consecutive pageTableBase virtualAddr size).dbAfter k = k := by
    induction k with
    | zero => rfl
    | succ k ih =>
        rw [dbAfter, ih]
        rfl
  rw [frame, hdb]
  rfl

theorem consecutive_fresh {pageTableBase virtualAddr size : Nat}
    (hend : virtualAddr + size ≤ 2 ^ 32) :
    (consecutive pageTableBase virtualAddr size).Fresh := by
  have hframe := consecutive_frame pageTableBase virtualAddr size
  have hpage : ∀ d, (consecutive pageTableBase virtualAddr size).Uses d →
      dirIndex virtualAddr ≤ d ∧ d < 1024 := by
    rintro d ⟨i, hi, rfl⟩
    change i < size / 4096 at hi
    change dirIndex virtualAddr ≤ dirIndex (virtualAddr + 4096 * i) ∧
      dirIndex (virtualAddr + 4096 * i) < 1024
    simp only [dirIndex]
    omega
  refine ⟨⟨?_, ?_, ?_⟩, ?_, ?_, ?_⟩
  · rw [cr3, hframe]
  · rw [cr3, hframe]
    decide
  · rw [cr3, hframe]
    change 0x10000000 + (0x400000 + 4096 * 0) + 4096 ≤ 2 ^ 64
    decide
  · intro d hd
    have hlt := (hpage d hd).2
    refine ⟨?_, ?_, ?_⟩
    · rw [table, hframe]
      omega
    · rw [table, hframe]
      omega
    · rw [table, hframe]
      change 0x10000000 + _ + 4096 ≤ _
      omega
  · intro d _
    rw [table, cr3, hframe, hframe]
    omega
  · intro d d' hd hd' hne
    have hge : dirIndex virtualAddr ≤ d := (hpage d hd).1
    have hge' : dirIndex virtualAddr ≤ d' := (hpage d' hd').1
    rw [table, table, hframe, hframe]
    change _ + 4096 * (d - dirIndex virtualAddr + 1) ≠ _ + 4096 * (d' - dirIndex virtualAddr + 1)
    omega

theorem consecutive_valid {pageTableBase virtualAddr size : Nat}
    (hvirtual : virtualAddr % 4096 = 0) (hsize : size % 4096 = 0)
    (hend : virtualAddr + size ≤ 2 ^ 31) (hbase : pageTableBase < 2 ^ 64)
    (haligned : pageTableBase % 4 = 0)
    (houtside : ∀ a, virtualAddr ≤ a → a < virtualAddr + size →
      dirIndex a ≠ pageTableBase >>> 22) :
    (consecutive pageTableBase virtualAddr size).Valid where
  physicalAligned := by
    change 0x800000 % 4096 = 0
    decide
  virtualAligned := hvirtual
  sizeAligned := hsize
  physicalEnd := by
    change 0x800000 + size ≤ 2 ^ 32
    omega
  virtualEnd := by
    change virtualAddr + size ≤ 2 ^ 32
    omega
  virtualLt := by
    change virtualAddr < 2 ^ 32
    omega
  protectLt := by
    change (ptPresent ||| ptWritable) < 4096
    decide
  protectPresent := by
    change (ptPresent ||| ptWritable) % 2 = 1
    decide
  outside := by
    intro i hi
    change i < size / 4096 at hi
    exact houtside (virtualAddr + 4096 * i) (by omega) (by omega)
  baseLt := hbase
  baseAligned := haligned
  hostAligned := by
    change 0x10000000 % 4 = 0
    decide

/-- With the base one table in front of the first one that is allocated, two pages on both
sides of a border between tables are mapped. -/
theorem mapsRange_iff_consecutive :
    (consecutive 0x10401000 0x3ff000 0x2000).MapsRange ∧
      (consecutive 0x10401000 0x3ff000 0x2000).DirectoryKept := by
  have hvalid : (consecutive 0x10401000 0x3ff000 0x2000).Valid := by
    refine consecutive_valid (by decide) (by decide) (by decide) (by decide) (by decide) ?_
    intro a hge hlt
    have hself : 0x10401000 >>> 22 = 65 := by decide
    rw [hself, dirIndex]
    omega
  have hfresh : (consecutive 0x10401000 0x3ff000 0x2000).Fresh := consecutive_fresh (by decide)
  refine (mapsRange_iff (consecutive 0x10401000 0x3ff000 0x2000) hvalid hfresh).mpr ?_
  intro i hi
  change i < 0x2000 / 4096 at hi
  rw [linear, slot, table, consecutive_frame]
  change (0x10401000 + 4 * ((0x3ff000 + 4096 * i) / 4096)) % 2 ^ 64 =
    0x10000000 + (0x400000 + 4096 * (dirIndex (0x3ff000 + 4096 * i) - dirIndex 0x3ff000 + 1) +
      4 * tableIndex (0x3ff000 + 4096 * i))
  simp only [dirIndex, tableIndex]
  omega

/-- With the tables of a self-map at 0xC0000000 the entry of a page is stored at that
address of the host, and the page is not mapped. -/
theorem mapPages_notMapped :
    ¬ ∀ x : MapInput Nat, x.Valid → x.Fresh → x.MapsRange := by
  intro hall
  have hvalid : (consecutive 0xC0000000 0 0x1000).Valid := by
    refine consecutive_valid (by decide) (by decide) (by decide) (by decide) (by decide) ?_
    intro a hge hlt
    have hself : 0xC0000000 >>> 22 = 768 := by decide
    rw [hself, dirIndex]
    omega
  have hfresh : (consecutive 0xC0000000 0 0x1000).Fresh := consecutive_fresh (by decide)
  have hkept : (consecutive 0xC0000000 0 0x1000).DirectoryKept := by
    intro i hi
    change i < 0x1000 / 4096 at hi
    right
    rw [linear, cr3, consecutive_frame]
    change 0x10000000 + (0x400000 + 4096 * 0) + 4096 ≤
      (0xC0000000 + 4 * ((0 + 4096 * i) / 4096)) % 2 ^ 64
    omega
  have hlinear := (hall _ hvalid hfresh).linearTables hvalid hfresh hkept 0 (by decide)
  rw [linear, slot, table, consecutive_frame] at hlinear
  exact absurd hlinear (by decide)

end MapInput
end ShellcodeVM.VM
