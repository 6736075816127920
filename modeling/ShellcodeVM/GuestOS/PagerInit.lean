import ShellcodeVM.GuestOS.Pager

/-!
What `PAGER::Init` and `create_database` really leave behind.

`Init` is meant to identity-map the low 4 MB, to map the tables at 0xC0000000
and to put the frame database at `PAGE_FRAME_BASE`. Its table entries carry the
page number unshifted, the self-map sits in slot 1 instead of slot 0x300, and
no statement ever sets `m_page_frame_database`.
-/
namespace ShellcodeVM.GuestOS
open Machine

/-- Every virtual address below 4 MB translates to itself. -/
def IdentityBelow4M (u : Mmu) : Prop :=
  ∀ v, v < 0x400000 → ∃ t, walk u.mem u.dir v = some t ∧ t.address = v

/-- The directory view and the window of the tables show the directory and the
tables that its present entries name. -/
def WindowsInPlace (u : Mmu) : Prop :=
  (∀ o, o < 4096 → ∃ t, walk u.mem u.dir (pageDirBase + o) = some t ∧ t.address = u.dir + o) ∧
  ∀ d, d < 1024 → Present (dirEntry u.mem u.dir d) → ∀ o, o < 4096 →
    ∃ t, walk u.mem u.dir (pageTableVirtualAddr + d * pageSize + o) = some t ∧
      t.address = frameOf (dirEntry u.mem u.dir d) + o

/-- `create_database` completes, the allocator's array is the database at
`PAGE_FRAME_BASE`, and all of it reads free. -/
def DatabaseInPlace (database : Memory) (p : Pager) (u : Mmu) : Prop :=
  ∃ p' u', p.createDatabase database u = some (p', u') ∧ p'.pageFrameDatabase = pageFrameBase ∧
    ∀ i, i < mb 1 → u'.load8 (pageFrameBase + i) = some pageFree

/-- The paging state that the rest of `PAGER` relies on. -/
structure PagingEstablished (database : Memory) (p : Pager) (u : Mmu) : Prop where
  identity : IdentityBelow4M u
  windows : WindowsInPlace u
  database : DatabaseInPlace database p u

/-- Room above 4 KB and below 4 MB for the directory and the first table. -/
structure AcceptedRange (pageFrameMin pageFrameMax : Nat) : Prop where
  aboveFirst : 1 ≤ pageFrameMin
  below4M : pageFrameMin + 2 ≤ 1024
  inRange : pageFrameMin + 2 ≤ pageFrameMax

namespace Pager

theorem allocPhysicalPage_bump (database : Memory) {p : Pager} (h : p.databaseUsable = false) :
    p.allocPhysicalPage database = p.bump 1 := by
  rw [allocPhysicalPage, h]
  rfl

/-- Below the highest frame no address and no pointer wraps. -/
theorem bump_eq {p : Pager} {n : Nat} (hmin : p.pageFrameMin < 2 ^ 20) (hn : n ≤ 2 ^ 20) :
    p.bump n = (p.pageFrameMin * 4096,
      { p with pageFrameMin := p.pageFrameMin + n, nextFreePageFrame := p.pageFrameMin + n }) := by
  have haddr : p.pageFrameMin * 4096 % 2 ^ 32 = p.pageFrameMin * 4096 :=
    Nat.mod_eq_of_lt (by omega)
  have hnext : (p.pageFrameMin + n) % 2 ^ 32 = p.pageFrameMin + n := Nat.mod_eq_of_lt (by omega)
  rw [bump, pageSize, haddr, hnext]

theorem entry_eq (frame : Nat) :
    frame * 4096 ||| ptPresent ||| ptWritable = frame * 4096 + 3 := by
  rw [Nat.lor_assoc, flags_eq, or_attr (Nat.mul_mod_left frame 4096) (by norm_num)]

theorem newPageDir_eq (database m : Memory) {p : Pager} (h : p.databaseUsable = false)
    (hmin : p.pageFrameMin < 2 ^ 20) :
    newPageDir database m p =
      (write32 (memset m (p.pageFrameMin * 4096) 0 4096) (p.pageFrameMin * 4096 + 4)
        (p.pageFrameMin * 4096 + 3),
       { p with
          pageDir := p.pageFrameMin * 4096
          pageFrameMin := p.pageFrameMin + 1
          nextFreePageFrame := p.pageFrameMin + 1 }) := by
  have hslot : 4 * (pageTablePhysicalAddr >>> 22) = 4 := by decide
  rw [newPageDir, allocPhysicalPage_bump database h, bump_eq hmin (by norm_num)]
  simp only [entry_eq, hslot]
  rfl

theorem identityPagingLowest4M_eq (database m : Memory) {p : Pager} (h : p.databaseUsable = false)
    (hmin : p.pageFrameMin < 2 ^ 20) :
    identityPagingLowest4M database m p =
      (fillPageTable0 (write32 m p.pageDir (p.pageFrameMin * 4096 + 3))
        (p.pageFrameMin * 4096) 1024,
       { p with
          pageFrameMin := p.pageFrameMin + 1
          nextFreePageFrame := p.pageFrameMin + 1 }) := by
  rw [identityPagingLowest4M, allocPhysicalPage_bump database h, bump_eq hmin (by norm_num)]
  simp only [entry_eq]

theorem init_eq (database m : Memory) (p : Pager) {lo : Nat} (hi : Nat) (hlo : lo + 1 < 2 ^ 20) :
    p.init database m lo hi =
      ({ p with
          pageDir := lo * 4096
          pageTableBase := pageTablePhysicalAddr
          pageFrameMin := lo + 2
          pageFrameMax := hi
          nextFreePageFrame := lo + 2
          databaseUsable := false },
       ⟨fillPageTable0
          (write32 (write32 (memset m (lo * 4096) 0 4096) (lo * 4096 + 4) (lo * 4096 + 3))
            (lo * 4096) ((lo + 1) * 4096 + 3))
          ((lo + 1) * 4096) 1024, lo * 4096, []⟩) := by
  rw [init, newPageDir_eq database m rfl (by simp only [start]; omega)]
  simp only [start]
  rw [identityPagingLowest4M_eq database _ rfl (by simp only; omega)]

theorem fillPageTable0_outside (m : Memory) (table : Nat) {n x : Nat}
    (h : x + 4 ≤ table ∨ table + 4 * n ≤ x) :
    read32 (fillPageTable0 m table n) x = read32 m x := by
  induction n with
  | zero => rfl
  | succ n ih =>
      rw [fillPageTable0, read32_write32_of_disjoint _ _ _ (by omega), ih (by omega)]

/-- The stored entry is the page number, not the page address. -/
theorem fillPageTable0_entry (m : Memory) (table : Nat) {n i : Nat} (hn : n ≤ 1024) (hi : i < n) :
    tableEntry (fillPageTable0 m table n) table i = i ||| 7 := by
  induction n with
  | zero => omega
  | succ n ih =>
      rw [fillPageTable0, tableEntry]
      by_cases h : i = n
      · subst h
        have hlt : i ||| 7 < 4096 := or_lt_page (by omega) (by norm_num)
        rw [read32_write32_same, Nat.lor_assoc, Nat.lor_assoc]
        exact Nat.mod_eq_of_lt (Nat.lt_trans hlt (by norm_num))
      · rw [read32_write32_of_disjoint _ _ _ (by omega)]
        exact ih (by omega) (by omega)

/-- The memory that `Init` leaves, word by word. -/
theorem init_words (database m : Memory) (p : Pager) {lo hi : Nat} (h : AcceptedRange lo hi) :
    let u := (p.init database m lo hi).2
    u.dir = lo * 4096 ∧
    dirEntry u.mem u.dir 0 = (lo + 1) * 4096 + 3 ∧
    (∀ d, 2 ≤ d → d < 1024 → dirEntry u.mem u.dir d = 0) ∧
    ∀ i, i < 1024 → tableEntry u.mem ((lo + 1) * 4096) i = i ||| 7 := by
  obtain ⟨habove, hbelow, _⟩ := h
  rw [init_eq database m p hi (by omega)]
  dsimp only
  refine ⟨rfl, ?_, ?_, ?_⟩
  · rw [dirEntry_zero, fillPageTable0_outside _ _ (by omega), read32_write32_same]
    omega
  · intro d hd hd'
    rw [dirEntry, fillPageTable0_outside _ _ (by omega),
      read32_write32_of_disjoint _ _ _ (by omega), read32_write32_of_disjoint _ _ _ (by omega),
      read32_memset_zero m (by omega)]
  · intro i hi
    exact fillPageTable0_entry _ _ (le_refl 1024) hi

/-- All of the low 4 MB lands in frame 0. -/
theorem walk_init_low (database m : Memory) (p : Pager) {lo hi : Nat} (h : AcceptedRange lo hi)
    {v : Nat} (hv : v < 0x400000) :
    walk (p.init database m lo hi).2.mem (p.init database m lo hi).2.dir v =
      some ⟨v % 4096, 3, v / 4096 ||| 7⟩ := by
  obtain ⟨hdir, hpde, _, htab⟩ := init_words database m p h
  have hd : dirIndex v = 0 := by
    rw [dirIndex]
    omega
  have ht : tableIndex v = v / 4096 := by
    rw [tableIndex]
    omega
  have hlt : v / 4096 ||| 7 < 4096 := or_lt_page (by omega) (by norm_num)
  have hodd : Present (v / 4096 ||| 7) := by
    rw [Present, Nat.lor_comm]
    exact or_odd_left (by norm_num)
  have hframe : frameOf (v / 4096 ||| 7) = 0 := by
    rw [frameOf]
    omega
  have hattr : ((lo + 1) * 4096 + 3) % 4096 = 3 := by omega
  have htable : frameOf ((lo + 1) * 4096 + 3) = (lo + 1) * 4096 := by
    rw [frameOf]
    omega
  rw [@walk_mapped _ _ _ ((lo + 1) * 4096 + 3) (v / 4096 ||| 7), hframe,
    Nat.mod_eq_of_lt hlt, Nat.zero_add, hattr]
  · rw [hd, hpde]
  · rw [Present]
    omega
  · rw [htable, ht]
    exact htab (v / 4096) (by omega)
  · exact hodd

theorem walk_init_window (database m : Memory) (p : Pager) {lo hi : Nat} (h : AcceptedRange lo hi)
    {v : Nat} (hlow : 0x800000 ≤ v) (hv : v < 2 ^ 32) :
    walk (p.init database m lo hi).2.mem (p.init database m lo hi).2.dir v = none := by
  obtain ⟨_, _, hzero, _⟩ := init_words database m p h
  apply walk_dir_absent
  rw [hzero (dirIndex v) (by rw [dirIndex]; omega) (dirIndex_lt hv)]
  decide

/-- Neither function assigns the database pointer. -/
theorem createDatabase_pointer {database : Memory} {p p' : Pager} {u u' : Mmu}
    (h : p.createDatabase database u = some (p', u')) :
    p'.pageFrameDatabase = p.pageFrameDatabase := by
  have halloc : (p.allocPhysicalPages database (sizeToPages (mb 1))).2.pageFrameDatabase =
      p.pageFrameDatabase := by
    rw [allocPhysicalPages]
    split_ifs
    · rw [grant_snd]
    · rfl
  simp only [createDatabase, Option.bind_eq_bind, Option.bind_eq_some_iff, Option.pure_def,
    Option.some.injEq, Prod.mk.injEq] at h
  obtain ⟨_, _, _, _, hp, _⟩ := h
  rw [← hp]
  exact halloc

/-- On whatever processor state `create_database` completes, the allocator still
reads through the null pointer of the constructor. -/
theorem database_pointer_stays_null {database m : Memory} {lo hi : Nat} {p' : Pager} {u u' : Mmu}
    (h : (new.init database m lo hi).1.createDatabase database u = some (p', u')) :
    p'.pageFrameDatabase = 0 := by
  rw [createDatabase_pointer h]
  simp [init, start, newPageDir, identityPagingLowest4M, allocPhysicalPage, bump, new]

theorem createDatabase_init_faults (database m : Memory) (p : Pager) {lo hi : Nat}
    (h : AcceptedRange lo hi) :
    (p.init database m lo hi).1.createDatabase database (p.init database m lo hi).2 = none := by
  have hpages : sizeToPages (mb 1) = 255 + 1 := by decide
  have haddr : pteWindowAddress pageFrameBase = 0xC0301000 := by decide
  have hfault := walk_init_window database m p h (v := 0xC0301000) (by norm_num) (by norm_num)
  have hmap : ∀ pa, mapPages (p.init database m lo hi).2 pa pageFrameBase (mb 1) = none := by
    intro pa
    rw [mapPages, hpages, storeEntries, haddr, Mmu.store32_fault _ hfault]
    rfl
  simp only [createDatabase, hmap, Option.bind_eq_bind, Option.bind_none]

end Pager

/-- The entry of the second page already points at frame 0. -/
theorem not_identityBelow4M_init (database m : Memory) (p : Pager) {lo hi : Nat}
    (h : AcceptedRange lo hi) : ¬ IdentityBelow4M (p.init database m lo hi).2 := by
  intro hid
  obtain ⟨t, hwalk, haddr⟩ := hid 0x1000 (by norm_num)
  rw [Pager.walk_init_low database m p h (by norm_num)] at hwalk
  cases hwalk
  exact absurd haddr (by norm_num)

/-- No accepted frame range leads to the promised state, and each of its three
parts fails on its own. -/
theorem init_never_establishes_paging (database m : Memory) (p : Pager) (lo hi : Nat)
    (h : AcceptedRange lo hi) :
    let r := p.init database m lo hi
    ¬ PagingEstablished database r.1 r.2 ∧
      ¬ IdentityBelow4M r.2 ∧ ¬ WindowsInPlace r.2 ∧ ¬ DatabaseInPlace database r.1 r.2 := by
  have hidentity := not_identityBelow4M_init database m p h
  refine ⟨fun hest => hidentity hest.identity, hidentity, ?_, ?_⟩
  · intro hwin
    obtain ⟨t, hwalk, _⟩ := hwin.1 0 (by norm_num)
    rw [Pager.walk_init_window database m p h (by decide) (by decide)] at hwalk
    cases hwalk
  · rintro ⟨p', u', hrun, _⟩
    rw [Pager.createDatabase_init_faults database m p h] at hrun
    cases hrun

theorem init_never_establishes_paging_atFrame2 :
    AcceptedRange 2 0x6400 ∧
      ¬ WindowsInPlace (Pager.new.init (fun _ => 0) (fun _ => 0) 2 0x6400).2 :=
  ⟨⟨by norm_num, by norm_num, by norm_num⟩,
    (init_never_establishes_paging (fun _ => 0) (fun _ => 0) Pager.new 2 0x6400
      ⟨by norm_num, by norm_num, by norm_num⟩).2.2.1⟩

/-- Frames 2 to 0x63FF of 100 MB: the state after `Init` is not the promised one. -/
theorem paging_not_established_atFrame2 :
    ¬ ∀ (database m : Memory) (lo hi : Nat), AcceptedRange lo hi →
      PagingEstablished database (Pager.new.init database m lo hi).1
        (Pager.new.init database m lo hi).2 := by
  intro hall
  have haccept : AcceptedRange 2 0x6400 := ⟨by norm_num, by norm_num, by norm_num⟩
  exact not_identityBelow4M_init (fun _ => 0) (fun _ => 0) Pager.new haccept
    (hall (fun _ => 0) (fun _ => 0) 2 0x6400 haccept).identity

end ShellcodeVM.GuestOS
