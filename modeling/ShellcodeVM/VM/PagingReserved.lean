import ShellcodeVM.Lib.Word
import ShellcodeVM.VM.Paging
import ShellcodeVM.VM.PageFrameHint

/-!
The host's `pager` and its `page_frame_database` over runs of calls after `Init`. No
frame is ever marked as used, so the page directory and the page tables are kept from
being granted again by the hint alone, which every `unmap_pages` may lower.
-/
namespace ShellcodeVM.VM
open Machine Frames

structure PagerState where
  pager : Pager
  db : PageFrameDatabase
  host : Memory

inductive PagerCall where
  | allocPhysicalPage
  | allocPhysicalPages (pages : Nat)
  | newPageDir
  | mapPages (physicalAddr virtualAddr size protect : Nat)
  | unmapPages (virtualAddr size : Nat)
deriving DecidableEq, Repr

namespace PagerState

/-- `page_frame_database::Init`, with a `pager` that was initialised before. -/
def start (p : Pager) (db : PageFrameDatabase) (host : Memory)
    (memSize hostMem pageTableBase : Nat) : PagerState :=
  let made := (p.init hostMem pageTableBase).newPageDir PageFrameDatabase.allocPhysicalPage
    (db.cleared memSize) host
  ⟨made.1, made.2.1, made.2.2⟩

def call (s : PagerState) : PagerCall → PagerState
  | .allocPhysicalPage => { s with db := s.db.allocPhysicalPage.2 }
  | .allocPhysicalPages pages => { s with db := (s.db.allocPhysicalPages pages).2 }
  | .newPageDir =>
      let made := s.pager.newPageDir PageFrameDatabase.allocPhysicalPage s.db s.host
      ⟨made.1, made.2.1, made.2.2⟩
  | .mapPages physicalAddr virtualAddr size protect =>
      let mapped := s.pager.mapPages PageFrameDatabase.allocPhysicalPage s.db s.host physicalAddr
        virtualAddr size protect
      { s with db := mapped.2.1, host := mapped.2.2 }
  | .unmapPages virtualAddr size =>
      let unmapped := s.pager.unmapPages PageFrameDatabase.freePhysicalPage s.db s.host
        virtualAddr size
      { s with db := unmapped.1, host := unmapped.2 }

/-! ### Reserved frames -/

/-- Entry `d` of the page directory in use. -/
def pde (s : PagerState) (d : Nat) : Nat := read32 s.host (entryAddr s.pager.pageDir d)

/-- Frame `f` holds the page directory in use. -/
def IsDirectory (s : PagerState) (f : Nat) : Prop :=
  f < 2 ^ 20 ∧ s.pager.gpaToHva (PageFrameDatabase.frameAddress f) = s.pager.pageDir

/-- Frame `f` is named by a non-zero entry of the directory. -/
def IsTable (s : PagerState) (f : Nat) : Prop := ∃ d, d < 1024 ∧ s.pde d ≠ 0 ∧ s.pde d >>> 12 = f

/-- No call of `alloc_physical_page` would now return the directory or a page table. -/
def KeepsReserved (s : PagerState) : Prop :=
  ∀ f : Nat, s.db.searchPage = some (f : Int) → ¬ s.IsDirectory f ∧ ¬ s.IsTable f

/-! ### Safe calls -/

/-- The passes that `map_pages` and `unmap_pages` make. -/
def passes (virtualAddr size : Nat) : Nat :=
  ((virtualAddr - (virtualAddr &&& 0xfffff000) + size + pageSize - 1) % 2 ^ 64) >>> 12

def passAddr (addr i : Nat) : Nat := ((addr &&& 0xfffff000) + i * pageSize) % 2 ^ 64

/-- The entry that pass `i` of `map_pages` stores. -/
def passEntry (physicalAddr virtualAddr protect i : Nat) : Nat :=
  (passAddr physicalAddr i ||| if userSpace virtualAddr then protect ||| ptUser else protect) %
    2 ^ 32

/-- A frame that the database grants no more as long as the hint is not lowered. -/
def Passed (db : PageFrameDatabase) (f : Nat) : Prop :=
  f < db.nextFreePageFrame ∨ db.pageFrameMax ≤ f

/-- What a pass of `unmap_pages` frees is not below the hint, or it is above the frame of
the directory and those of all tables that stay in the directory. -/
def FreesAbove (s : PagerState) (va : Nat) : Prop :=
  read32 s.host (s.pager.pdeAddr va) &&& 0xfffff000 ≠ 0 →
    s.db.nextFreePageFrame ≤ read32 s.host (s.pager.pteAddr va) >>> 12 ∨
    (∀ c, s.IsDirectory c →
      c < read32 s.host (s.pager.pteAddr va) >>> 12 ∨ s.db.pageFrameMax ≤ c) ∧
    ∀ d, d < 1024 → entryAddr s.pager.pageDir d ≠ s.pager.pteAddr va → s.pde d ≠ 0 →
      s.pde d >>> 12 < read32 s.host (s.pager.pteAddr va) >>> 12 ∨ s.db.pageFrameMax ≤ s.pde d >>> 12

/-- The state before pass `i` of `unmap_pages`. -/
def beforePass (s : PagerState) (virtualAddr i : Nat) : PagerState :=
  let unmapped := s.pager.unmapPagesLoop PageFrameDatabase.freePhysicalPage
    (virtualAddr &&& 0xfffff000) (s.db, s.host) i
  { s with db := unmapped.1, host := unmapped.2 }

/-- Multi-page requests ask for something that there can be, an entry that `map_pages`
stores into the directory itself names a frame that was passed, and every page that
`unmap_pages` comes to frees a frame above the reserved ones. -/
def Safe (s : PagerState) : PagerCall → Prop
  | .allocPhysicalPage | .newPageDir => True
  | .allocPhysicalPages pages => 1 ≤ pages ∧ pages ≤ s.db.pageFrameMax
  | .mapPages physicalAddr virtualAddr size protect =>
      ∀ i, i < passes virtualAddr size → ∀ d, d < 1024 →
        entryAddr s.pager.pageDir d = s.pager.pteAddr (passAddr virtualAddr i) →
        passEntry physicalAddr virtualAddr protect i ≠ 0 →
        Passed s.db (passEntry physicalAddr virtualAddr protect i >>> 12)
  | .unmapPages virtualAddr size =>
      ∀ i, i < passes virtualAddr size →
        (s.beforePass virtualAddr i).FreesAbove (passAddr virtualAddr i)

/-- Every call of a run is safe in the state that it is made in. -/
def SafeAlong : PagerState → List PagerCall → Prop
  | _, [] => True
  | s, c :: cs => s.Safe c ∧ SafeAlong (s.call c) cs

/-! ### The invariant -/

/-- A database of at most 2^20 frames, all of them marked free. -/
structure Manages (max : Nat) (db : PageFrameDatabase) : Prop where
  free : ∀ i, i < max → db.pageFrameMap i = pageFrameFree
  max_eq : db.pageFrameMax = max
  max_le : max ≤ 2 ^ 20
  hint_le : db.nextFreePageFrame ≤ 2 ^ 20

/-- The directory and every table that it names are passed. -/
structure Reserves (max : Nat) (s : PagerState) : Prop where
  manages : Manages max s.db
  dirAligned : s.pager.pageDir % 4096 = 0
  hostAligned : s.pager.hostMem % 4096 = 0
  baseAligned : s.pager.pageTableBase % 4 = 0
  dir : ∃ c, s.IsDirectory c ∧ Passed s.db c
  tables : ∀ d, d < 1024 → s.pde d ≠ 0 → Passed s.db (s.pde d >>> 12)

theorem frameAddress_mod {f : Nat} (h : f < 2 ^ 20) :
    PageFrameDatabase.frameAddress f % 2 ^ 32 = f * 4096 ∧
      PageFrameDatabase.frameAddress f < 2 ^ 64 := by
  rw [PageFrameDatabase.frameAddress, toUInt64, toInt32, Int.bmod_def, pageSize]
  split_ifs <;> omega

theorem frameAddress_zero : PageFrameDatabase.frameAddress (0 : Nat) = 0 :=
  PageFrameDatabase.frameAddress_small (by decide : 0 < 2 ^ 19)

theorem gpaToHva_inj {p : Pager} {f f' : Nat} (hf : f < 2 ^ 20) (hf' : f' < 2 ^ 20)
    (h : p.gpaToHva (PageFrameDatabase.frameAddress f) =
      p.gpaToHva (PageFrameDatabase.frameAddress f')) : f = f' := by
  obtain ⟨hmod, hlt⟩ := frameAddress_mod hf
  obtain ⟨hmod', hlt'⟩ := frameAddress_mod hf'
  simp only [Pager.gpaToHva] at h
  omega

/-- A database that finds a frame finds the one at the hint. -/
theorem Manages.searchPage_eq {max : Nat} {db : PageFrameDatabase} (h : Manages max db) :
    db.searchPage = if db.nextFreePageFrame < db.pageFrameMax then
      some (db.nextFreePageFrame : Int) else none := by
  have hhint := h.hint_le
  have hstart : toInt32 (db.nextFreePageFrame : Int) = db.nextFreePageFrame :=
    toInt32_small (by omega)
  rw [PageFrameDatabase.searchPage, hstart]
  exact PageFrameDatabase.firstFree_unmarked (by omega) (h.max_eq ▸ h.free)

/-- `alloc_physical_page` answers with a frame that is passed afterwards: the one at the
hint, or frame 0, whose address stands for failure. -/
theorem Manages.alloc {max : Nat} {db : PageFrameDatabase} (h : Manages max db) :
    ∃ c hint, db.allocPhysicalPage =
        (PageFrameDatabase.frameAddress (c : Nat), { db with nextFreePageFrame := hint }) ∧
      c < 2 ^ 20 ∧ db.nextFreePageFrame ≤ hint ∧ Manages max { db with nextFreePageFrame := hint } ∧
      Passed { db with nextFreePageFrame := hint } c := by
  have hmax : db.pageFrameMax ≤ 2 ^ 20 := h.max_eq ▸ h.max_le
  rw [PageFrameDatabase.allocPhysicalPage_eq_grant, h.searchPage_eq]
  by_cases hlt : db.nextFreePageFrame < db.pageFrameMax
  · have hnext : toUInt64 (toInt32 ((db.nextFreePageFrame : Int) + 1)) =
        db.nextFreePageFrame + 1 := by
      have hint : toInt32 ((db.nextFreePageFrame : Int) + 1) = (db.nextFreePageFrame + 1 : Nat) :=
        toInt32_small (x := db.nextFreePageFrame + 1) (by omega)
      rw [hint, toUInt64_small (by omega)]
    refine ⟨db.nextFreePageFrame, db.nextFreePageFrame + 1, ?_, by omega, Nat.le_succ _,
      ⟨h.free, h.max_eq, h.max_le, ?_⟩, .inl (Nat.lt_succ_self _)⟩
    · rw [if_pos hlt, Option.map_some, PageFrameDatabase.grant, hnext]
    · change db.nextFreePageFrame + 1 ≤ 2 ^ 20
      omega
  · refine ⟨0, db.nextFreePageFrame, ?_, by decide, le_refl _, h, ?_⟩
    · rw [if_neg hlt, Option.map_none, PageFrameDatabase.grant, frameAddress_zero]
    · change 0 < db.nextFreePageFrame ∨ db.pageFrameMax ≤ 0
      omega

theorem Manages.allocPages {max : Nat} {db : PageFrameDatabase} (h : Manages max db) {pages : Nat}
    (hpos : 1 ≤ pages) (hle : pages ≤ db.pageFrameMax) :
    ∃ hint, (db.allocPhysicalPages pages).2 = { db with nextFreePageFrame := hint } ∧
      db.nextFreePageFrame ≤ hint ∧ Manages max { db with nextFreePageFrame := hint } := by
  have hmax : db.pageFrameMax ≤ 2 ^ 20 := h.max_eq ▸ h.max_le
  have hhint := h.hint_le
  have hstart : toInt32 (db.nextFreePageFrame : Int) = db.nextFreePageFrame :=
    toInt32_small (by omega)
  have hbound : (db.pageFrameMax + 2 ^ 64 - pages) % 2 ^ 64 = db.pageFrameMax - pages := by omega
  have hfits : db.nextFreePageFrame < db.pageFrameMax - pages →
      db.nextFreePageFrame < db.pageFrameMax ∧ db.nextFreePageFrame + pages < 2 ^ 31 := by
    intro hlt
    exact ⟨by omega, by omega⟩
  have hsearch := PageFrameDatabase.searchPages_unmarked (b := db.pageFrameMax - pages) hpos
    hfits (by omega) (h.max_eq ▸ h.free)
  rw [PageFrameDatabase.allocPhysicalPages_eq_grant, PageFrameDatabase.searchRun, hstart]
  simp only [hbound]
  rw [hsearch]
  by_cases hlt : db.nextFreePageFrame < db.pageFrameMax - pages
  · refine ⟨db.nextFreePageFrame + pages, ?_, Nat.le_add_right _ _,
      ⟨h.free, h.max_eq, h.max_le, ?_⟩⟩
    · rw [if_pos hlt, PageFrameDatabase.grant, toUInt64_small (by omega)]
    · change db.nextFreePageFrame + pages ≤ 2 ^ 20
      omega
  · refine ⟨db.nextFreePageFrame, ?_, le_refl _, h⟩
    rw [if_neg hlt, PageFrameDatabase.grant]

/-! ### Calls keep the invariant -/

theorem entryAddr_mod {base : Nat} (h : base % 4 = 0) (i : Nat) : entryAddr base i % 4 = 0 := by
  rw [entryAddr]
  omega

/-- The frame of the entry that `new_page_dir` and `new_page_table` store. -/
theorem entry_frame {f p : Nat} (hf : f < 2 ^ 20) (hp : p < 4096) :
    ((PageFrameDatabase.frameAddress f ||| p) % 2 ^ 32) >>> 12 = f := by
  obtain ⟨hmod, _⟩ := frameAddress_mod hf
  have hp' : p % 2 ^ 32 = p := Nat.mod_eq_of_lt (by omega)
  have hzero : p >>> 12 = 0 := by
    rw [shiftRight_eq_div]
    omega
  have hframe : (f * 4096) >>> 12 = f := by
    rw [shiftRight_eq_div]
    omega
  rw [Nat.or_mod_two_pow, hmod, hp', Nat.shiftRight_or_distrib, hzero, hframe, Nat.or_zero]

theorem Passed.mono {db db' : PageFrameDatabase} {f : Nat} (h : Passed db f)
    (hmax : db'.pageFrameMax = db.pageFrameMax)
    (hhint : db.nextFreePageFrame ≤ db'.nextFreePageFrame) : Passed db' f := by
  rw [Passed] at h ⊢
  omega

theorem Passed.free {db : PageFrameDatabase} {f page : Nat} (h : Passed db f)
    (hpage : db.nextFreePageFrame ≤ page ∨ f < page ∨ db.pageFrameMax ≤ f) :
    Passed (db.freePhysicalPage page) f := by
  rw [Passed] at h ⊢
  dsimp only [PageFrameDatabase.freePhysicalPage]
  split_ifs with hlt <;> omega

theorem Manages.freePhysicalPage {max : Nat} {db : PageFrameDatabase} (h : Manages max db)
    (page : Nat) : Manages max (db.freePhysicalPage page) := by
  refine ⟨?_, h.max_eq, h.max_le, ?_⟩
  · intro i hi
    by_cases heq : i = page
    · exact if_pos heq
    · exact (write8_of_ne _ _ _ heq).trans (h.free i hi)
  · have hhint := h.hint_le
    dsimp only [PageFrameDatabase.freePhysicalPage]
    split_ifs with hlt <;> omega

/-- A database that goes on from another, with no frame of it granted again. -/
structure Advances (db db' : PageFrameDatabase) : Prop where
  max_eq : db'.pageFrameMax = db.pageFrameMax
  hint_le : db.nextFreePageFrame ≤ db'.nextFreePageFrame

theorem Advances.refl (db : PageFrameDatabase) : Advances db db := ⟨rfl, le_refl _⟩

theorem Advances.trans {db db' db'' : PageFrameDatabase} (h : Advances db db')
    (h' : Advances db' db'') : Advances db db'' :=
  ⟨h'.max_eq.trans h.max_eq, le_trans h.hint_le h'.hint_le⟩

theorem Advances.passed {db db' : PageFrameDatabase} {f : Nat} (h : Advances db db')
    (hf : Passed db f) : Passed db' f :=
  hf.mono h.max_eq h.hint_le

section Keeps
variable {max : Nat} {s : PagerState}

theorem Reserves.advance (h : Reserves max s) {db : PageFrameDatabase} (hdb : Manages max db)
    (hadv : Advances s.db db) : Reserves max { s with db := db } := by
  obtain ⟨c, hc, hpassed⟩ := h.dir
  refine ⟨hdb, h.dirAligned, h.hostAligned, h.baseAligned, ⟨c, hc, hadv.passed hpassed⟩, ?_⟩
  intro d hd hne
  exact hadv.passed (h.tables d hd hne)

theorem Reserves.write (h : Reserves max s) {a v : Nat} (ha : a % 4 = 0)
    (hv : ∀ d, d < 1024 → entryAddr s.pager.pageDir d = a → v % 2 ^ 32 ≠ 0 →
      Passed s.db ((v % 2 ^ 32) >>> 12)) :
    Reserves max { s with host := write32 s.host a v } := by
  refine ⟨h.manages, h.dirAligned, h.hostAligned, h.baseAligned, h.dir, ?_⟩
  intro d hd
  have hdir := h.dirAligned
  have hmod : entryAddr s.pager.pageDir d % 4 = 0 := entryAddr_mod (by omega) d
  rw [pde, read32_write32_aligned s.host v ha hmod]
  split_ifs with heq
  · exact hv d hd heq
  · exact h.tables d hd

theorem Reserves.clear (h : Reserves max s) {a : Nat} (ha : a % 4 = 0) :
    Reserves max { s with host := memset s.host a 0 pageSize } := by
  refine ⟨h.manages, h.dirAligned, h.hostAligned, h.baseAligned, h.dir, ?_⟩
  intro d hd hne
  have hdir := h.dirAligned
  have hmod : entryAddr s.pager.pageDir d % 4 = 0 := entryAddr_mod (by omega) d
  rw [pde] at hne ⊢
  cases read32_memset_aligned s.host ha (by decide : pageSize % 4 = 0) hmod with
  | inl hzero => exact absurd hzero hne
  | inr hsame =>
      dsimp only at hne ⊢
      rw [hsame] at hne ⊢
      exact h.tables d hd hne

theorem gpaToHva_mod (h : s.pager.hostMem % 4096 = 0) {f : Nat} (hf : f < 2 ^ 20) :
    s.pager.gpaToHva (PageFrameDatabase.frameAddress f) % 4096 = 0 := by
  obtain ⟨hmod, hlt⟩ := frameAddress_mod hf
  rw [Pager.gpaToHva]
  omega

theorem Reserves.allocPhysicalPage (h : Reserves max s) :
    Reserves max { s with db := s.db.allocPhysicalPage.2 } ∧
      Advances s.db s.db.allocPhysicalPage.2 ∧
      ∃ c, s.db.allocPhysicalPage.1 = PageFrameDatabase.frameAddress (c : Nat) ∧ c < 2 ^ 20 ∧
        Passed s.db.allocPhysicalPage.2 c := by
  obtain ⟨c, hint, hcall, hc, hle, hdb, hpassed⟩ := h.manages.alloc
  rw [hcall]
  dsimp only
  have hadv : Advances s.db { s.db with nextFreePageFrame := hint } := ⟨rfl, hle⟩
  exact ⟨h.advance hdb hadv, hadv, c, rfl, hc, hpassed⟩

theorem Reserves.newPageTable (h : Reserves max s) (va : Nat) :
    let made := s.pager.newPageTable PageFrameDatabase.allocPhysicalPage s.db s.host va
    Reserves max { s with db := made.2.1, host := made.2.2 } ∧ Advances s.db made.2.1 := by
  obtain ⟨hnext, hadv, c, haddr, hc, hpassed⟩ := h.allocPhysicalPage
  have hhva := gpaToHva_mod h.hostAligned hc
  have hdir := h.dirAligned
  have hentry : entryAddr s.pager.pageDir ((va % 2 ^ 32) >>> 22) % 4 = 0 :=
    entryAddr_mod (by omega) _
  intro made
  refine ⟨?_, hadv⟩
  refine (hnext.write hentry ?_).clear (by dsimp only [Pager.gpaToHva] at hhva ⊢; omega)
  intro d _ _ _
  rw [haddr]
  split_ifs with huser
  · rw [Nat.or_assoc, Nat.or_assoc, entry_frame hc (by decide)]
    exact hpassed
  · rw [Nat.or_assoc, entry_frame hc (by decide)]
    exact hpassed

/-- A directory is made reserved, whatever was reserved before. -/
theorem Manages.newPageDir (h : Manages max s.db) (hhost : s.pager.hostMem % 4096 = 0)
    (hbase : s.pager.pageTableBase % 4 = 0) : Reserves max (s.call .newPageDir) := by
  obtain ⟨c, hint, hcall, hc, _, hdb, hnext⟩ := h.alloc
  have haddr : s.db.allocPhysicalPage.1 = PageFrameDatabase.frameAddress c := by rw [hcall]
  have hleft : s.db.allocPhysicalPage.2 = { s.db with nextFreePageFrame := hint } := by rw [hcall]
  have hmanages : Manages max s.db.allocPhysicalPage.2 := hleft.symm ▸ hdb
  have hpassed : Passed s.db.allocPhysicalPage.2 c := hleft.symm ▸ hnext
  have hhva : s.pager.gpaToHva s.db.allocPhysicalPage.1 % 4096 = 0 :=
    haddr ▸ gpaToHva_mod hhost hc
  refine ⟨hmanages, hhva, hhost, hbase, ⟨c, ⟨hc, ?_⟩, hpassed⟩, ?_⟩
  · exact congrArg s.pager.gpaToHva haddr.symm
  · intro d hd hne
    have hmod := entryAddr_mod (by omega : s.pager.gpaToHva s.db.allocPhysicalPage.1 % 4 = 0)
    have hinside : entryAddr (s.pager.gpaToHva s.db.allocPhysicalPage.1) d =
        s.pager.gpaToHva s.db.allocPhysicalPage.1 + 4 * d := by
      have hlt : s.pager.gpaToHva s.db.allocPhysicalPage.1 < 2 ^ 64 := Nat.mod_lt _ (by norm_num)
      rw [entryAddr]
      omega
    have hpde : (s.call .newPageDir).pde d =
        if entryAddr (s.pager.gpaToHva s.db.allocPhysicalPage.1) d =
            entryAddr (s.pager.gpaToHva s.db.allocPhysicalPage.1) (s.pager.pageTableBase >>> 22) then
          (s.db.allocPhysicalPage.1 ||| ptPresent ||| ptWritable) % 2 ^ 32
        else 0 := by
      refine (read32_write32_aligned _ _ (hmod _) (hmod _)).trans (if_congr Iff.rfl rfl ?_)
      have hfits : s.pager.gpaToHva s.db.allocPhysicalPage.1 + 4 * d + 4 ≤
          s.pager.gpaToHva s.db.allocPhysicalPage.1 + pageSize := by
        rw [pageSize]
        omega
      rw [hinside]
      exact read32_memset_zero s.host ⟨Nat.le_add_right _ _, hfits⟩
    rw [hpde] at hne ⊢
    split_ifs at hne ⊢ with heq
    · rw [haddr, Nat.or_assoc, entry_frame hc (by decide)]
      exact hpassed
    · exact absurd rfl hne

/-- A pass of `map_pages` that stores no frame into the directory that could be granted. -/
theorem Reserves.mapPage (h : Reserves max s) (pa va protect i : Nat)
    (hstored : ∀ d, d < 1024 →
      entryAddr s.pager.pageDir d = s.pager.pteAddr ((va + i * pageSize) % 2 ^ 64) →
      ((pa + i * pageSize) % 2 ^ 64 ||| protect) % 2 ^ 32 ≠ 0 →
      Passed s.db ((((pa + i * pageSize) % 2 ^ 64 ||| protect) % 2 ^ 32) >>> 12)) :
    let m := s.pager.mapPage PageFrameDatabase.allocPhysicalPage pa va protect i (s.db, s.host)
    Reserves max { s with db := m.1, host := m.2 } ∧ Advances s.db m.1 := by
  have hbase := h.baseAligned
  have hpte : s.pager.pteAddr ((va + i * pageSize) % 2 ^ 64) % 4 = 0 := entryAddr_mod hbase _
  intro m
  by_cases hzero : read32 s.host (s.pager.pdeAddr ((va + i * pageSize) % 2 ^ 64)) = 0
  · obtain ⟨hmade, hadv⟩ := h.newPageTable ((va + i * pageSize) % 2 ^ 64)
    have hm : m = ((s.pager.newPageTable PageFrameDatabase.allocPhysicalPage s.db s.host
          ((va + i * pageSize) % 2 ^ 64)).2.1,
        write32 (s.pager.newPageTable PageFrameDatabase.allocPhysicalPage s.db s.host
          ((va + i * pageSize) % 2 ^ 64)).2.2 (s.pager.pteAddr ((va + i * pageSize) % 2 ^ 64))
          ((pa + i * pageSize) % 2 ^ 64 ||| protect)) := by
      dsimp only [m, Pager.mapPage]
      rw [if_pos hzero]
    rw [hm]
    refine ⟨hmade.write hpte ?_, hadv⟩
    intro d hd heq hne
    exact hadv.passed (hstored d hd heq hne)
  · have hm : m = (s.db, write32 s.host (s.pager.pteAddr ((va + i * pageSize) % 2 ^ 64))
        ((pa + i * pageSize) % 2 ^ 64 ||| protect)) := by
      dsimp only [m, Pager.mapPage]
      rw [if_neg hzero]
    rw [hm]
    exact ⟨h.write hpte hstored, Advances.refl s.db⟩

theorem Reserves.mapPagesLoop (h : Reserves max s) {pa va protect : Nat} {n : Nat}
    (hstored : ∀ i, i < n → ∀ d, d < 1024 →
      entryAddr s.pager.pageDir d = s.pager.pteAddr ((va + i * pageSize) % 2 ^ 64) →
      ((pa + i * pageSize) % 2 ^ 64 ||| protect) % 2 ^ 32 ≠ 0 →
      Passed s.db ((((pa + i * pageSize) % 2 ^ 64 ||| protect) % 2 ^ 32) >>> 12)) :
    let m := s.pager.mapPagesLoop PageFrameDatabase.allocPhysicalPage pa va protect
      (s.db, s.host) n
    Reserves max { s with db := m.1, host := m.2 } ∧ Advances s.db m.1 := by
  induction n with
  | zero => exact ⟨h, Advances.refl s.db⟩
  | succ n ih =>
      obtain ⟨hkept, hadv⟩ := ih (fun i hi => hstored i (by omega))
      obtain ⟨hnext, hadv'⟩ := hkept.mapPage pa va protect n
        (fun d hd heq hne => hadv.passed (hstored n (Nat.lt_succ_self n) d hd heq hne))
      exact ⟨hnext, hadv.trans hadv'⟩

/-- A frame above the reserved ones is freed, with the entry that named it. -/
theorem Reserves.free (h : Reserves max s) {a page : Nat} (ha : a % 4 = 0)
    (hdirectory : ∀ c, s.IsDirectory c →
      s.db.nextFreePageFrame ≤ page ∨ c < page ∨ s.db.pageFrameMax ≤ c)
    (htables : ∀ d, d < 1024 → entryAddr s.pager.pageDir d ≠ a → s.pde d ≠ 0 →
      s.db.nextFreePageFrame ≤ page ∨ s.pde d >>> 12 < page ∨ s.db.pageFrameMax ≤ s.pde d >>> 12) :
    Reserves max { s with db := s.db.freePhysicalPage page, host := write32 s.host a 0 } := by
  obtain ⟨c, hc, hpassed⟩ := h.dir
  refine ⟨h.manages.freePhysicalPage page, h.dirAligned, h.hostAligned, h.baseAligned,
    ⟨c, hc, hpassed.free (hdirectory c hc)⟩, ?_⟩
  intro d hd
  have hdir := h.dirAligned
  have hmod : entryAddr s.pager.pageDir d % 4 = 0 := entryAddr_mod (by omega) d
  rw [pde, read32_write32_aligned s.host 0 ha hmod]
  split_ifs with heq
  · intro hne
    exact absurd rfl hne
  · intro hne
    exact (h.tables d hd hne).free (htables d hd heq hne)

/-- A pass of `unmap_pages` that frees nothing at or below a reserved frame. -/
theorem Reserves.unmapPage (h : Reserves max s) (va i : Nat)
    (hfrees : s.FreesAbove ((va + i * pageSize) % 2 ^ 64)) :
    let u := s.pager.unmapPage PageFrameDatabase.freePhysicalPage va i (s.db, s.host)
    Reserves max { s with db := u.1, host := u.2 } := by
  intro u
  have hpte : s.pager.pteAddr ((va + i * pageSize) % 2 ^ 64) % 4 = 0 :=
    entryAddr_mod h.baseAligned _
  by_cases htable : read32 s.host (s.pager.pdeAddr ((va + i * pageSize) % 2 ^ 64)) &&& 0xfffff000 ≠ 0
  · have hu : u = (s.db.freePhysicalPage
          (read32 s.host (s.pager.pteAddr ((va + i * pageSize) % 2 ^ 64)) >>> 12),
        write32 s.host (s.pager.pteAddr ((va + i * pageSize) % 2 ^ 64)) 0) := by
      dsimp only [u, Pager.unmapPage]
      rw [if_pos htable]
    have habove := hfrees htable
    rw [hu]
    exact h.free hpte (fun c hc => habove.imp_right fun hall => hall.1 c hc)
      (fun d hd heq hne => habove.imp_right fun hall => hall.2 d hd heq hne)
  · have hu : u = (s.db, s.host) := by
      dsimp only [u, Pager.unmapPage]
      rw [if_neg htable]
    rw [hu]
    exact h

theorem Reserves.unmapPagesLoop (h : Reserves max s) {virtualAddr n : Nat}
    (hfrees : ∀ i, i < n → (s.beforePass virtualAddr i).FreesAbove (passAddr virtualAddr i)) :
    Reserves max (s.beforePass virtualAddr n) := by
  induction n with
  | zero => exact h
  | succ n ih =>
      have hkept := ih (fun i hi => hfrees i (by omega))
      exact hkept.unmapPage (virtualAddr &&& 0xfffff000) n (hfrees n (Nat.lt_succ_self n))

/-- Every safe call keeps the directory and the tables behind the hint. -/
theorem Reserves.call (h : Reserves max s) {c : PagerCall} (hsafe : s.Safe c) :
    Reserves max (s.call c) := by
  cases c with
  | allocPhysicalPage => exact h.allocPhysicalPage.1
  | allocPhysicalPages pages =>
      obtain ⟨hint, hcall, hle, hdb⟩ := h.manages.allocPages hsafe.1 hsafe.2
      rw [PagerState.call, hcall]
      exact h.advance hdb ⟨rfl, hle⟩
  | newPageDir => exact h.manages.newPageDir h.hostAligned h.baseAligned
  | mapPages physicalAddr virtualAddr size protect => exact (h.mapPagesLoop hsafe).1
  | unmapPages virtualAddr size => exact h.unmapPagesLoop hsafe

theorem Reserves.run (h : Reserves max s) {calls : List PagerCall} (hsafe : s.SafeAlong calls) :
    Reserves max (calls.foldl PagerState.call s) := by
  induction calls generalizing s with
  | nil => exact h
  | cons c cs ih =>
      obtain ⟨hc, hcs⟩ := hsafe
      exact ih (h.call hc) hcs

/-- The frame at the hint is no reserved one. -/
theorem Reserves.keepsReserved (h : Reserves max s) : s.KeepsReserved := by
  intro f hf
  have hmax : s.db.pageFrameMax ≤ 2 ^ 20 := h.manages.max_eq ▸ h.manages.max_le
  rw [h.manages.searchPage_eq] at hf
  split_ifs at hf with hlt
  have hhint : s.db.nextFreePageFrame = f := Int.ofNat.inj (Option.some.inj hf)
  refine ⟨?_, ?_⟩
  · intro hdir
    obtain ⟨c, hc, hpassed⟩ := h.dir
    have heq : c = f := gpaToHva_inj hc.1 hdir.1 (hc.2.trans hdir.2.symm)
    rw [Passed] at hpassed
    omega
  · rintro ⟨d, hd, hne, heq⟩
    have hpassed := h.tables d hd hne
    rw [Passed] at hpassed
    omega

end Keeps

/-- `Init` leaves a directory with itself as its only table. -/
theorem reserves_start (p : Pager) (db : PageFrameDatabase) (host : Memory)
    {memSize hostMem pageTableBase : Nat} (hsize : sizeToPages memSize ≤ 2 ^ 20)
    (hhost : hostMem % 4096 = 0) (hbase : pageTableBase % 4 = 0) :
    Reserves (sizeToPages memSize) (start p db host memSize hostMem pageTableBase) := by
  have hunmarked := PageFrameDatabase.cleared_unmarked db memSize
  have hdb : Manages (sizeToPages memSize) (db.cleared memSize) :=
    ⟨hunmarked.free, rfl, hsize, Nat.zero_le _⟩
  exact Manages.newPageDir (s := ⟨p.init hostMem pageTableBase, db.cleared memSize, host⟩)
    hdb hhost hbase

theorem pager_call (s : PagerState) {c : PagerCall} (h : c ≠ .newPageDir) :
    (s.call c).pager = s.pager := by
  cases c with
  | newPageDir => exact absurd rfl h
  | allocPhysicalPage | allocPhysicalPages _ | mapPages _ _ _ _ | unmapPages _ _ => rw [call]

theorem pde_allocPhysicalPage (s : PagerState) (d : Nat) :
    (s.call .allocPhysicalPage).pde d = s.pde d := by
  rw [pde, pde, call]

/-- 64 KB of guest memory, with the base of the entries one table in front of frame 2. -/
def smallStart : PagerState :=
  start ⟨0, 0, 0⟩ (PageFrameDatabase.new fun _ => 0) (fun _ => 0) 0x10000 0x10000000 0x10001000

/-- A page is mapped, and behind it its table. -/
def oneMapped : PagerState :=
  (smallStart.call .allocPhysicalPage).call (.mapPages 0x1000 0x400000 0x1000 3)

/-- A second page under that table, behind both. -/
def twoMapped : PagerState :=
  (oneMapped.call .allocPhysicalPage).call (.mapPages 0x3000 0x401000 0x1000 3)

theorem smallStart_pager : smallStart.pager = ⟨0x10000000, 0x10000000, 0x10001000⟩ := by
  decide +kernel

theorem oneMapped_pager : oneMapped.pager = ⟨0x10000000, 0x10000000, 0x10001000⟩ := by
  rw [oneMapped, pager_call, pager_call, smallStart_pager] <;> decide

theorem twoMapped_pager : twoMapped.pager = ⟨0x10000000, 0x10000000, 0x10001000⟩ := by
  rw [twoMapped, pager_call, pager_call, oneMapped_pager] <;> decide

theorem onePage_passes (virtualAddr : Nat) :
    ((virtualAddr - virtualAddr + 0x1000 + pageSize - 1) % 2 ^ 64) >>> 12 = 1 := by
  rw [Nat.sub_self]
  decide

/-- A call of `map_pages` for one page is one pass. -/
theorem call_mapPages_onePage (s : PagerState) {physicalAddr virtualAddr : Nat}
    (hphysical : physicalAddr &&& 0xfffff000 = physicalAddr)
    (hvirtual : virtualAddr &&& 0xfffff000 = virtualAddr) (protect : Nat) :
    s.call (.mapPages physicalAddr virtualAddr 0x1000 protect) =
      let m := s.pager.mapPage PageFrameDatabase.allocPhysicalPage physicalAddr virtualAddr
        (if userSpace virtualAddr then protect ||| ptUser else protect) 0 (s.db, s.host)
      { s with db := m.1, host := m.2 } := by
  simp only [call, Pager.mapPages, onePage_passes, hphysical, hvirtual, Pager.mapPagesLoop]

theorem call_unmapPages_onePage (s : PagerState) {virtualAddr : Nat}
    (hvirtual : virtualAddr &&& 0xfffff000 = virtualAddr) :
    s.call (.unmapPages virtualAddr 0x1000) =
      let u := s.pager.unmapPage PageFrameDatabase.freePhysicalPage virtualAddr 0 (s.db, s.host)
      { s with db := u.1, host := u.2 } := by
  simp only [call, Pager.unmapPages, onePage_passes, hvirtual, Pager.unmapPagesLoop]

theorem smallStart_host : smallStart.host = write32 (fun _ => 0) 0x10000100 3 := by
  have hcr3 : ((PageFrameDatabase.new fun _ => 0).cleared 0x10000).allocPhysicalPage.1 = 0 := by
    decide +kernel
  simp only [smallStart, start, Pager.newPageDir, hcr3]
  rw [memset_zero_same fun _ _ => rfl]
  rfl

theorem oneMapped_eq : oneMapped =
    { smallStart with
      db := smallStart.db.allocPhysicalPage.2.allocPhysicalPage.2
      host := write32 (write32 (write32 (fun _ => 0) 0x10000100 3) 0x10000004 0x2007) 0x10002000
        0x1007 } := by
  have htable : read32 smallStart.host (smallStart.pager.pdeAddr 0x400000) = 0 := by
    rw [smallStart_host, smallStart_pager]
    decide +kernel
  have hva : (0x400000 + 0 * pageSize) % 2 ^ 64 = 0x400000 := by decide
  have hframe : smallStart.db.allocPhysicalPage.2.allocPhysicalPage.1 = 0x2000 := by decide +kernel
  rw [oneMapped, call_mapPages_onePage _ (by decide) (by decide)]
  simp only [call, Pager.mapPage, hva]
  rw [if_pos htable]
  simp only [Pager.newPageTable, hframe, smallStart_pager, smallStart_host]
  rw [memset_zero_same]
  · rfl
  · intro x hx
    change write32 (write32 _ 0x10000100 3) 0x10000004 0x2007 x = 0
    change 0x10002000 ≤ x ∧ _ at hx
    rw [write32_of_disjoint _ _ _ (by omega), write32_of_disjoint _ _ _ (by omega)]

theorem oneMapped_host : oneMapped.host =
    write32 (write32 (write32 (fun _ => 0) 0x10000100 3) 0x10000004 0x2007) 0x10002000 0x1007 := by
  rw [oneMapped_eq]

theorem oneMapped_db : oneMapped.db = smallStart.db.allocPhysicalPage.2.allocPhysicalPage.2 := by
  rw [oneMapped_eq]

theorem twoMapped_host : twoMapped.host = write32 oneMapped.host 0x10002004 0x3007 := by
  have htable : read32 oneMapped.host (oneMapped.pager.pdeAddr 0x401000) ≠ 0 := by
    rw [oneMapped_host, oneMapped_pager]
    decide +kernel
  have hva : (0x401000 + 0 * pageSize) % 2 ^ 64 = 0x401000 := by decide
  rw [twoMapped, call_mapPages_onePage _ (by decide) (by decide)]
  simp only [call, Pager.mapPage, hva]
  rw [if_neg htable, oneMapped_pager]
  rfl

/-- A page whose entry is not in the directory. -/
theorem safe_mapPage {s : PagerState} (hpager : s.pager = ⟨0x10000000, 0x10000000, 0x10001000⟩)
    (physicalAddr protect : Nat) {virtualAddr : Nat} (hpasses : passes virtualAddr 0x1000 = 1)
    (hentry : 0x10001000 ≤ entryAddr 0x10001000 ((passAddr virtualAddr 0 % 2 ^ 32) >>> 12)) :
    s.Safe (.mapPages physicalAddr virtualAddr 0x1000 protect) := by
  intro i hi d hd heq
  rw [hpasses] at hi
  have hzero : i = 0 := by omega
  rw [hpager, hzero, Pager.pteAddr] at heq
  dsimp only at heq
  rw [← heq, entryAddr] at hentry
  omega

theorem safe_unmapPage {s : PagerState} {virtualAddr size : Nat} (hpasses : passes virtualAddr size = 1)
    (hfrees : s.FreesAbove (passAddr virtualAddr 0)) : s.Safe (.unmapPages virtualAddr size) := by
  intro i hi
  rw [hpasses] at hi
  have hzero : i = 0 := by omega
  rw [hzero]
  exact hfrees

theorem oneMapped_reserves : Reserves 16 oneMapped := by
  have hstart : Reserves 16 smallStart :=
    reserves_start ⟨0, 0, 0⟩ (PageFrameDatabase.new fun _ => 0) (fun _ => 0)
      (by decide : sizeToPages 0x10000 ≤ 2 ^ 20) (by decide) (by decide)
  have hpager : (smallStart.call .allocPhysicalPage).pager = ⟨0x10000000, 0x10000000, 0x10001000⟩ := by
    rw [pager_call, smallStart_pager]
    decide
  exact (hstart.call (c := .allocPhysicalPage) trivial).call
    (safe_mapPage hpager _ _ (by decide) (by decide))

theorem twoMapped_reserves : Reserves 16 twoMapped := by
  have hpager : (oneMapped.call .allocPhysicalPage).pager = ⟨0x10000000, 0x10000000, 0x10001000⟩ := by
    rw [pager_call, oneMapped_pager]
    decide
  exact (oneMapped_reserves.call (c := .allocPhysicalPage) trivial).call
    (safe_mapPage hpager _ _ (by decide) (by decide))

/-- Behind the directory and its tables, a page can be unmapped. -/
theorem twoMapped_freesAbove : twoMapped.FreesAbove (passAddr 0x401000 0) := by
  have hpte : twoMapped.pager.pteAddr (passAddr 0x401000 0) = 0x10002004 := by
    rw [twoMapped_pager]
    decide
  have hpage : read32 twoMapped.host 0x10002004 >>> 12 = 3 := by
    rw [twoMapped_host, read32_write32_same]
    decide
  have hhint : oneMapped.db.nextFreePageFrame = 3 := by
    rw [oneMapped_db]
    decide +kernel
  have hmax : twoMapped.db.pageFrameMax = oneMapped.db.pageFrameMax :=
    twoMapped_reserves.manages.max_eq.trans oneMapped_reserves.manages.max_eq.symm
  intro _
  right
  rw [hpte, hpage]
  refine ⟨?_, ?_⟩
  · intro c hc
    have hzero : twoMapped.pager.gpaToHva (PageFrameDatabase.frameAddress (0 : Nat)) =
        twoMapped.pager.pageDir := by
      rw [twoMapped_pager]
      decide
    have hc0 : c = 0 := gpaToHva_inj hc.1 (by decide) (hc.2.trans hzero.symm)
    omega
  · intro d hd _ hne
    have hsame : twoMapped.pde d = oneMapped.pde d := by
      rw [pde, pde, twoMapped_host, twoMapped_pager, oneMapped_pager]
      refine read32_write32_of_disjoint _ _ _ (.inl ?_)
      rw [entryAddr]
      dsimp only
      omega
    rw [hsame] at hne ⊢
    have hpassed := oneMapped_reserves.tables d hd hne
    rw [Passed, hhint] at hpassed
    rwa [hmax]

/-- In a run of safe calls after `Init`, no frame is ever to be granted that holds the
directory or a page table in it. -/
theorem reserved_kept_along (p : Pager) (db : PageFrameDatabase) (host : Memory)
    {memSize hostMem pageTableBase : Nat} (hsize : sizeToPages memSize ≤ 2 ^ 20)
    (hhost : hostMem % 4096 = 0) (hbase : pageTableBase % 4 = 0) {calls : List PagerCall}
    (hsafe : (start p db host memSize hostMem pageTableBase).SafeAlong calls) :
    (calls.foldl call (start p db host memSize hostMem pageTableBase)).KeepsReserved :=
  ((reserves_start p db host hsize hhost hbase).run hsafe).keepsReserved

/-- The calls are safe that map the two pages and unmap the second. -/
theorem reserved_kept_along_twoMapped :
    KeepsReserved (([.allocPhysicalPage, .mapPages 0x1000 0x400000 0x1000 3, .allocPhysicalPage,
      .mapPages 0x3000 0x401000 0x1000 3, .unmapPages 0x401000 0x1000] : List PagerCall).foldl call
      smallStart) := by
  have hpager : (smallStart.call .allocPhysicalPage).pager = ⟨0x10000000, 0x10000000, 0x10001000⟩ := by
    rw [pager_call, smallStart_pager]
    decide
  have hpager' : (oneMapped.call .allocPhysicalPage).pager = ⟨0x10000000, 0x10000000, 0x10001000⟩ := by
    rw [pager_call, oneMapped_pager]
    decide
  refine reserved_kept_along ⟨0, 0, 0⟩ (PageFrameDatabase.new fun _ => 0) (fun _ => 0)
    (by decide : sizeToPages 0x10000 ≤ 2 ^ 20) (by decide : 0x10000000 % 4096 = 0)
    (by decide : 0x10001000 % 4 = 0) ?_
  exact ⟨trivial, safe_mapPage hpager _ _ (by decide) (by decide), trivial,
    safe_mapPage hpager' _ _ (by decide) (by decide),
    safe_unmapPage (by decide) twoMapped_freesAbove, trivial⟩

theorem holeUnmapped_eq : oneMapped.call (.unmapPages 0x401000 0x1000) =
    { oneMapped with
      db := oneMapped.db.freePhysicalPage 0
      host := write32 oneMapped.host 0x10002004 0 } := by
  have hva : (0x401000 + 0 * pageSize) % 2 ^ 64 = 0x401000 := by decide
  have hpte : oneMapped.pager.pteAddr 0x401000 = 0x10002004 := by
    rw [oneMapped_pager]
    decide
  have htable : read32 oneMapped.host (oneMapped.pager.pdeAddr 0x401000) &&& 0xfffff000 ≠ 0 := by
    rw [oneMapped_host, oneMapped_pager]
    decide +kernel
  have hpage : read32 oneMapped.host 0x10002004 >>> 12 = 0 := by
    rw [oneMapped_host]
    decide +kernel
  rw [call_unmapPages_onePage _ (by decide)]
  simp only [Pager.unmapPage, hva, hpte, hpage]
  rw [if_pos htable]

/-- A page that was never mapped is unmapped under the table of a mapped one. This frees
frame 0, which holds the directory, and two allocations later the frame of the table. -/
theorem unmapped_hole_grants_directory :
    ¬ KeepsReserved (([.allocPhysicalPage, .mapPages 0x1000 0x400000 0x1000 3,
        .unmapPages 0x401000 0x1000] : List PagerCall).foldl call smallStart) ∧
      ¬ KeepsReserved (([.allocPhysicalPage, .mapPages 0x1000 0x400000 0x1000 3,
        .unmapPages 0x401000 0x1000, .allocPhysicalPage, .allocPhysicalPage] :
        List PagerCall).foldl call smallStart) := by
  simp only [List.foldl_cons, List.foldl_nil]
  rw [← oneMapped, holeUnmapped_eq]
  refine ⟨?_, ?_⟩
  · intro hkept
    have hfound : (oneMapped.db.freePhysicalPage 0).searchPage = some 0 := by
      rw [oneMapped_db]
      decide +kernel
    refine (hkept 0 hfound).1 ⟨by decide, ?_⟩
    rw [oneMapped_pager]
    decide
  · intro hkept
    have hfound : (oneMapped.db.freePhysicalPage 0).allocPhysicalPage.2.allocPhysicalPage.2.searchPage =
        some 2 := by
      rw [oneMapped_db]
      decide +kernel
    have htable : read32 (write32 oneMapped.host 0x10002004 0) (entryAddr oneMapped.pager.pageDir 1) =
        0x2007 := by
      rw [oneMapped_host, oneMapped_pager]
      decide +kernel
    refine (hkept 2 hfound).2 ⟨1, by decide, ?_⟩
    simp only [pde_allocPhysicalPage]
    rw [pde, htable]
    decide

end PagerState
end ShellcodeVM.VM
