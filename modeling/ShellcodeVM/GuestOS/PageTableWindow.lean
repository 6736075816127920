import ShellcodeVM.Lib.SelfMap
import ShellcodeVM.GuestOS.Pager

/-!
The window at 0xC0000000 of a directory whose entry 0x300 points back at it, and
`PAGER::new_page_table`, which stores the new entry through the window and then
clears the table through the entry it has just stored. Translations are those of
the tables in memory: what a processor may have cached is not modelled.
-/
namespace ShellcodeVM.GuestOS
open Machine

theorem dirIndex_eq_slot {va : Nat} (h : dirIndex va = 0x300) :
    0xC0000000 ≤ va ∧ va < 0xC0400000 := by
  simp only [dirIndex] at h
  omega

theorem pdeAddr_eq {va : Nat} (hva : va < 2 ^ 32) :
    pdeAddr va = windowAddress 0x300 0x300 (4 * dirIndex va) := by
  simp only [pdeAddr, shiftRight_eq_div, windowAddress, dirIndex, pageDirBase]
  omega

theorem pteAddr_eq {va : Nat} (hva : va < 2 ^ 32) :
    pteAddr va = windowAddress 0x300 (dirIndex va) (4 * tableIndex va) := by
  simp only [pteAddr, shiftRight_eq_div, windowAddress, dirIndex, tableIndex, pageTableBase]
  omega

theorem getPageTable_eq {va : Nat} (hva : va < 2 ^ 32) :
    getPageTable va = windowAddress 0x300 (dirIndex va) 0 := by
  simp only [getPageTable, shiftRight_eq_div, windowAddress, dirIndex, pageTableBase, pageSize]
  omega

/-- The three macros lead to what a walk of the address reads: the directory entry,
the table entry and the frame of the table. -/
structure MacrosReach (m : Memory) (dir va : Nat) : Prop where
  pde : ∃ t, walk m dir (pdeAddr va) = some t ∧ t.address = dir + 4 * dirIndex va
  pte : ∃ t, walk m dir (pteAddr va) = some t ∧
    t.address = frameOf (dirEntry m dir (dirIndex va)) + 4 * tableIndex va
  pageTable : ∀ o, o < pageSize → ∃ t, walk m dir (getPageTable va + o) = some t ∧
    t.address = frameOf (dirEntry m dir (dirIndex va)) + o

theorem macrosReach {m : Memory} {dir : Nat} (h : SelfMapped m dir 0x300) {va : Nat}
    (hva : va < 2 ^ 32) (hp : Present (dirEntry m dir (dirIndex va))) : MacrosReach m dir va := by
  have hd := dirIndex_lt hva
  have hj := tableIndex_lt va
  refine ⟨?_, ?_, ?_⟩
  · rw [pdeAddr_eq hva]
    exact h.walk_directory (by omega)
  · rw [pteAddr_eq hva]
    exact h.walk_table hd (by omega) hp
  · intro o ho
    rw [getPageTable_eq hva, windowAddress_add]
    exact h.walk_table hd ho hp

namespace Pager

/-- The entry that `new_page_table` stores for a frame. -/
def tableAttr (virtualAddress : Nat) : Nat :=
  if userSpace virtualAddress then ptPresent ||| ptWritable ||| ptUser
  else ptPresent ||| ptWritable

theorem tableAttr_spec (va : Nat) : tableAttr va < 4096 ∧ tableAttr va % 2 = 1 := by
  rw [tableAttr]
  split_ifs <;> decide

theorem frame_of_alloc {database : Memory} {p p' : Pager} {frame : Nat}
    (halloc : p.allocPhysicalPage database = (frame, p')) :
    frame % 4096 = 0 ∧ frame < 2 ^ 32 := by
  have hframe : frame = (p.allocPhysicalPage database).1 := by rw [halloc]
  rw [hframe, allocPhysicalPage]
  split_ifs
  · cases firstFree database (p.pageFrameMax - p.nextFreePageFrame) p.nextFreePageFrame with
    | none => simp [grant]
    | some i =>
        simp only [grant, Option.map_some, pageSize]
        omega
  · simp only [bump, pageSize]
    omega

/-- The stored entry is the frame with its attributes. -/
theorem tableEntry_eq {frame : Nat} (hframe : frame % 4096 = 0) (va : Nat) :
    (if userSpace va then frame ||| ptPresent ||| ptWritable ||| ptUser
      else frame ||| ptPresent ||| ptWritable) = frame + tableAttr va := by
  have hattr := (tableAttr_spec va).1
  rw [← or_attr hframe hattr, tableAttr]
  split_ifs <;> simp only [Nat.lor_assoc]

/-- `new_page_table` is its store followed by its `memset`. -/
theorem newPageTable_of_steps {database : Memory} {p p' : Pager} {frame va : Nat} {u u₁ u₂ : Mmu}
    (halloc : p.allocPhysicalPage database = (frame, p')) (hframe : frame % 4096 = 0)
    (hstore : u.store32 (pdeAddr va) (frame + tableAttr va) = some u₁)
    (hclear : u₁.memset (getPageTable va) 0 pageSize = some u₂) :
    p.newPageTable database u va = some (getPageTable va, p', u₂) := by
  rw [newPageTable, halloc]
  refine Option.bind_eq_some_iff.mpr ⟨u₁, ?_, Option.bind_eq_some_iff.mpr ⟨u₂, hclear, rfl⟩⟩
  rw [← tableEntry_eq hframe] at hstore
  exact hstore

/-- The memory that `new_page_table` leaves, for any fresh frame. -/
theorem newPageTable_eq {database : Memory} {p p' : Pager} {frame : Nat} {u : Mmu}
    (halloc : p.allocPhysicalPage database = (frame, p')) (h : SelfMapped u.mem u.dir 0x300)
    {va : Nat} (hva : va < 2 ^ 32) (hslot : dirIndex va ≠ 0x300)
    (hfresh : FreshTable u.mem u.dir frame) :
    p.newPageTable database u va = some (getPageTable va, p',
      { u with
        mem := memset (write32 u.mem (u.dir + 4 * dirIndex va) (frame + tableAttr va)) frame 0
          pageSize
        stores := u.stores ++ [u.dir + 4 * dirIndex va] }) := by
  obtain ⟨haligned, hlt⟩ := frame_of_alloc halloc
  obtain ⟨hattr, hodd⟩ := tableAttr_spec va
  have hd := dirIndex_lt hva
  have hne := h.ne_of_fresh hfresh
  obtain ⟨t, hwalk, haddr⟩ := h.walk_directory (o := 4 * dirIndex va) (by omega)
  rw [← pdeAddr_eq hva] at hwalk
  have hstore := Mmu.store32_of_walk (frame + tableAttr va) hwalk
  rw [haddr] at hstore
  -- the table is cleared through the entry that was just stored
  have hself := h.write (frame + tableAttr va) (Ne.symm hslot)
  have hentry : dirEntry (write32 u.mem (u.dir + 4 * dirIndex va) (frame + tableAttr va)) u.dir
      (dirIndex va) = frame + tableAttr va := by
    rw [dirEntry_write32, if_pos rfl]
    omega
  have hpresent : Present (frame + tableAttr va) := by
    simp only [Present]
    omega
  have hclear := SelfMapped.fill_table
    (u := { u with
      mem := write32 u.mem (u.dir + 4 * dirIndex va) (frame + tableAttr va)
      stores := u.stores ++ [u.dir + 4 * dirIndex va] })
    hself hd (by rwa [hentry]) (by rwa [hentry, frameOf_add haligned hattr]) 0
    (show pageSize ≤ 4096 from le_refl 4096)
  rw [hentry, frameOf_add haligned hattr, ← getPageTable_eq hva] at hclear
  exact newPageTable_of_steps halloc haligned hstore hclear

end Pager

/-- The table of an address is the directory: the address lies in a window. -/
def ReadsDirectory (m : Memory) (dir va : Nat) : Prop :=
  Present (dirEntry m dir (dirIndex va)) ∧ frameOf (dirEntry m dir (dirIndex va)) = dir

/-- A table of 1024 zero entries stands at the slot of an address. The other slots are as
they were, and so is every translation that neither starts at the slot nor reads the
directory as a table. -/
structure TableInstalled (frame va : Nat) (u u' : Mmu) : Prop where
  dir : u'.dir = u.dir
  entry : dirEntry u'.mem u'.dir (dirIndex va) = frame + Pager.tableAttr va
  cleared : ∀ j, j < 1024 → tableEntry u'.mem frame j = 0
  others : ∀ d, d < 1024 → d ≠ dirIndex va →
    dirEntry u'.mem u'.dir d = dirEntry u.mem u.dir d
  walks : ∀ a, a < 2 ^ 32 → dirIndex a ≠ dirIndex va → ¬ ReadsDirectory u.mem u.dir a →
    walk u'.mem u'.dir a = walk u.mem u.dir a

theorem newPageTable_installs {database : Memory} {p p' : Pager} {frame : Nat} {u : Mmu}
    (halloc : p.allocPhysicalPage database = (frame, p')) (h : SelfMapped u.mem u.dir 0x300)
    {va : Nat} (hva : va < 2 ^ 32) (hslot : dirIndex va ≠ 0x300)
    (hfresh : FreshTable u.mem u.dir frame) :
    ∃ u', p.newPageTable database u va = some (getPageTable va, p', u') ∧
      TableInstalled frame va u u' := by
  obtain ⟨haligned, hlt⟩ := Pager.frame_of_alloc halloc
  have hattr := (Pager.tableAttr_spec va).1
  have hd := dirIndex_lt hva
  have hne := h.ne_of_fresh hfresh
  have hdir := h.aligned
  have hsize : pageSize ≤ 4096 := le_refl 4096
  refine ⟨_, Pager.newPageTable_eq halloc h hva hslot hfresh, rfl, ?_, ?_, ?_, ?_⟩
  · dsimp only
    rw [dirEntry_memset _ 0 hdir haligned hne hsize hd, dirEntry_write32, if_pos rfl]
    exact Nat.mod_eq_of_lt (by omega)
  · intro j hj
    exact read32_memset_zero _ (by simp only [pageSize]; omega)
  · intro d hd' hother
    dsimp only
    rw [dirEntry_memset _ 0 hdir haligned hne hsize hd', dirEntry_write32, if_neg hother]
  · intro a ha hother hread
    exact walk_install_fresh _ 0 hdir haligned hne hfresh ha hother
      (fun hp htable => hread ⟨hp, htable⟩) hd

/-- Under a directory that is its own table at entry 0x300, the macros reach what the
walk of an address reads, and `new_page_table` installs an empty table. -/
theorem window_serves_pager {u : Mmu} (h : SelfMapped u.mem u.dir 0x300) {va : Nat}
    (hva : va < 2 ^ 32) (hout : ¬ (0xC0000000 ≤ va ∧ va < 0xC0400000)) :
    (Present (dirEntry u.mem u.dir (dirIndex va)) → MacrosReach u.mem u.dir va) ∧
    ∀ (database : Memory) (p : Pager),
      FreshTable u.mem u.dir (p.allocPhysicalPage database).1 →
      ∃ u', p.newPageTable database u va =
          some (getPageTable va, (p.allocPhysicalPage database).2, u') ∧
        TableInstalled (p.allocPhysicalPage database).1 va u u' := by
  have hslot : dirIndex va ≠ 0x300 := fun hd => hout (dirIndex_eq_slot hd)
  refine ⟨macrosReach h hva, ?_⟩
  intro database p hfresh
  have halloc : p.allocPhysicalPage database =
      ((p.allocPhysicalPage database).1, (p.allocPhysicalPage database).2) := rfl
  exact newPageTable_installs halloc h hva hslot hfresh

/-- A directory at 0x1000 that is its own table at entry 0x300, and at 0x301 as well. -/
def doublyMapped : Memory :=
  write32 (write32 (fun _ => 0) (0x1000 + 4 * 0x300) 0x1003) (0x1000 + 4 * 0x301) 0x1003

/-- Two entries of a directory at 0x1000 that is empty apart from them. -/
theorem dirEntry_twoEntries (i v j w d : Nat) :
    dirEntry (write32 (write32 (fun _ => 0) (0x1000 + 4 * i) v) (0x1000 + 4 * j) w) 0x1000 d =
      if d = j then w % 2 ^ 32 else if d = i then v % 2 ^ 32 else 0 := by
  have hblank : dirEntry (fun _ => 0) 0x1000 d = 0 := by simp [dirEntry, read32]
  rw [dirEntry_write32, dirEntry_write32, hblank]

theorem doublyMapped_entry (d : Nat) :
    dirEntry doublyMapped 0x1000 d = if d = 0x300 ∨ d = 0x301 then 0x1003 else 0 := by
  rw [doublyMapped, dirEntry_twoEntries]
  split_ifs <;> omega

theorem doublyMapped_selfMapped : SelfMapped doublyMapped 0x1000 0x300 := by
  refine ⟨by norm_num, ?_, ?_⟩ <;> rw [doublyMapped_entry] <;> decide

/-- An allocator without a database whose next frame is number 2. -/
def pagerAtFrame2 : Pager := { Pager.new with pageFrameMin := 2 }

theorem doublyMapped_fresh : FreshTable doublyMapped 0x1000 0x2000 := by
  intro d _ hp
  rw [doublyMapped_entry] at hp ⊢
  split_ifs with hd
  · decide
  · rw [if_neg hd] at hp
    exact absurd hp (by decide)

theorem pagerAtFrame2_alloc :
    pagerAtFrame2.allocPhysicalPage (fun _ => 0) =
      (0x2000, { pagerAtFrame2 with pageFrameMin := 3, nextFreePageFrame := 3 }) := rfl

/-- A directory at 0x1000 that is its own table at entry 0x300, with a table at 0x3000 for
the second 4 MB. -/
def oneTableMapped : Memory :=
  write32 (write32 (fun _ => 0) (0x1000 + 4 * 0x300) 0x1003) (0x1000 + 4 * 1) 0x3007

theorem oneTableMapped_entry (d : Nat) :
    dirEntry oneTableMapped 0x1000 d =
      if d = 1 then 0x3007 else if d = 0x300 then 0x1003 else 0 := by
  rw [oneTableMapped, dirEntry_twoEntries]
  split_ifs <;> omega

theorem oneTableMapped_selfMapped : SelfMapped oneTableMapped 0x1000 0x300 := by
  refine ⟨by norm_num, ?_, ?_⟩ <;> rw [oneTableMapped_entry] <;> decide

theorem oneTableMapped_fresh : FreshTable oneTableMapped 0x1000 0x2000 := by
  intro d _ hp
  rw [oneTableMapped_entry] at hp ⊢
  split_ifs with h1 h300
  · decide
  · decide
  · rw [if_neg h1, if_neg h300] at hp
    exact absurd hp (by decide)

/-- The macros for an address under the table, and a new table for kernel code. -/
theorem window_serves_pager_oneTable :
    MacrosReach oneTableMapped 0x1000 0x00402345 ∧
    ∃ u', pagerAtFrame2.newPageTable (fun _ => 0) ⟨oneTableMapped, 0x1000, []⟩ 0x80001000 =
        some (0xC0200000, { pagerAtFrame2 with pageFrameMin := 3, nextFreePageFrame := 3 }, u') ∧
      TableInstalled 0x2000 0x80001000 ⟨oneTableMapped, 0x1000, []⟩ u' := by
  constructor
  · apply (window_serves_pager (u := ⟨oneTableMapped, 0x1000, []⟩) oneTableMapped_selfMapped
      (by norm_num) (by norm_num)).1
    rw [show dirIndex 0x00402345 = 1 from rfl, oneTableMapped_entry]
    decide
  · exact (window_serves_pager (u := ⟨oneTableMapped, 0x1000, []⟩) oneTableMapped_selfMapped
      (by norm_num) (by norm_num)).2 (fun _ => 0) pagerAtFrame2 oneTableMapped_fresh

/-- With a second entry that points at the directory there is a second window, and the new
entry shows in it: page 0 of the region at 0xC0400000 becomes the new table. -/
theorem newPageTable_changes_second_window :
    ¬ ∀ (u : Mmu) (va : Nat) (database : Memory) (p : Pager),
      SelfMapped u.mem u.dir 0x300 → va < 2 ^ 32 → ¬ (0xC0000000 ≤ va ∧ va < 0xC0400000) →
      (p.allocPhysicalPage database).1 ≠ 0 →
      FreshTable u.mem u.dir (p.allocPhysicalPage database).1 →
      ∃ p' u', p.newPageTable database u va = some (getPageTable va, p', u') ∧
        ∀ a, a < 2 ^ 32 → dirIndex a ≠ dirIndex va → ¬ (0xC0000000 ≤ a ∧ a < 0xC0400000) →
          walk u'.mem u'.dir a = walk u.mem u.dir a := by
  intro hall
  obtain ⟨p', u', hrun, hkept⟩ := hall ⟨doublyMapped, 0x1000, []⟩ 0 (fun _ => 0) pagerAtFrame2
    doublyMapped_selfMapped (by norm_num) (by norm_num) (by decide) doublyMapped_fresh
  obtain ⟨u'', hrun', hinst⟩ := newPageTable_installs (u := ⟨doublyMapped, 0x1000, []⟩)
    pagerAtFrame2_alloc doublyMapped_selfMapped (show (0 : Nat) < 2 ^ 32 by norm_num) (by decide)
    doublyMapped_fresh
  obtain rfl : u' = u'' := by
    rw [hrun, Option.some.injEq, Prod.mk.injEq, Prod.mk.injEq] at hrun'
    exact hrun'.2.2
  have hbefore : walk doublyMapped 0x1000 0xC0400000 = none := by
    have hwindow : frameOf (dirEntry doublyMapped 0x1000 (dirIndex 0xC0400000)) = 0x1000 := by
      rw [doublyMapped_entry]
      decide
    apply walk_table_absent
    rw [hwindow]
    change ¬ Present (dirEntry doublyMapped 0x1000 0)
    rw [doublyMapped_entry]
    decide
  have hdir : u'.dir = 0x1000 := hinst.dir
  have hwindow : dirEntry u'.mem u'.dir (dirIndex 0xC0400000) = 0x1003 := by
    rw [hinst.others _ (by decide) (by decide)]
    change dirEntry doublyMapped 0x1000 0x301 = 0x1003
    rw [doublyMapped_entry]
    decide
  have hentry : tableEntry u'.mem (frameOf 0x1003) (tableIndex 0xC0400000) = 0x2007 := by
    have hnew := hinst.entry
    rw [hdir] at hnew
    exact hnew
  have hafter := walk_mapped hwindow (by decide) hentry (by decide)
  have hsame := hkept 0xC0400000 (by norm_num) (by decide) (by norm_num)
  rw [hafter] at hsame
  exact absurd (hsame.trans hbefore) (by simp)

end ShellcodeVM.GuestOS
