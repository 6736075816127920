import ShellcodeVM.Lib.HintPool
import ShellcodeVM.GuestOS.Pager

/-!
The guest's `PAGER` as a hint pool, once its database is in use. As on the host,
no function stores `PAGE_USED`, so the marks stay as `create_database` left them.
-/
namespace ShellcodeVM.GuestOS.Pager
open Machine Frames

/-- The allocator over a database, its bytes beside the `PAGER`. -/
def allocator : Allocator (Memory × Pager) where
  allocPage s := ((s.2.allocPhysicalPage s.1).1, s.1, (s.2.allocPhysicalPage s.1).2)
  allocPages s pages :=
    ((s.2.allocPhysicalPages s.1 pages).1, s.1, (s.2.allocPhysicalPages s.1 pages).2)
  freePage s page := s.2.freePhysicalPage s.1 page
  freePages s startPage pages := s.2.freePhysicalPages s.1 startPage pages

/-- The first frame whose address does not fit a `uint32_t`. -/
def reach : Nat := 2 ^ 20

/-- The database is in use and the marks of all frames with an address are free. -/
structure Unmarked (s : Memory × Pager) : Prop where
  usable : s.2.databaseUsable = true
  free : ∀ i, i < reach → s.1 i = pageFree

def pool (s : Memory × Pager) : HintPool := ⟨2 ^ 32, s.2.pageFrameMax, s.2.nextFreePageFrame⟩

/-- The scan stops at its first index, if that is one and its mark is free. -/
theorem firstFree_unmarked {database : Memory} {max start : Nat}
    (hfree : start < max → database start = pageFree) :
    firstFree database (max - start) start = if start < max then some start else none := by
  split_ifs with hlt
  · obtain ⟨n, hn⟩ := Nat.exists_eq_add_one.mpr (Nat.sub_pos_of_lt hlt)
    rw [hn, firstFree, if_pos (hfree hlt)]
  · rw [Nat.sub_eq_zero_of_le (Nat.le_of_not_lt hlt), firstFree]

/-- So does the search for a run: what its inner loop finds is overwritten. -/
theorem searchPages_unmarked {database : Memory} {pages max b start : Nat} (hpos : 1 ≤ pages)
    (hrun : start < b → database start = pageFree ∧ start + pages < 2 ^ 32) :
    searchPages database pages max (b - start) start =
      if start < b then some (start, start + pages) else none := by
  split_ifs with hlt
  · obtain ⟨hfree, hend⟩ := hrun hlt
    have hne : start + pages ≠ 0 := by omega
    obtain ⟨n, hn⟩ := Nat.exists_eq_add_one.mpr (Nat.sub_pos_of_lt hlt)
    rw [hn, searchPages, if_pos hfree, Nat.mod_eq_of_lt hend]
    simp only [if_pos hne]
  · rw [Nat.sub_eq_zero_of_le (Nat.le_of_not_lt hlt), searchPages]

theorem allocPhysicalPage_unmarked {database : Memory} {p : Pager} (h : Unmarked (database, p))
    (hreach : (pool (database, p)).InReach reach .allocPage) :
    p.allocPhysicalPage database =
      if p.nextFreePageFrame < p.pageFrameMax then
        (p.nextFreePageFrame * 4096, { p with nextFreePageFrame := p.nextFreePageFrame + 1 })
      else (0, p) := by
  have hlow : p.nextFreePageFrame < p.pageFrameMax → p.nextFreePageFrame < 2 ^ 20 := hreach
  rw [allocPhysicalPage, if_pos h.usable, firstFree_unmarked fun hlt => h.free _ (hlow hlt)]
  split_ifs with hlt
  · have hlow := hlow hlt
    have haddr : p.nextFreePageFrame * 4096 % 2 ^ 32 = p.nextFreePageFrame * 4096 :=
      Nat.mod_eq_of_lt (by omega)
    have hnext : (p.nextFreePageFrame + 1) % 2 ^ 32 = p.nextFreePageFrame + 1 :=
      Nat.mod_eq_of_lt (by omega)
    rw [Option.map_some, grant, hnext, pageSize, haddr]
  · rw [Option.map_none, grant]

theorem allocPhysicalPages_unmarked {database : Memory} {p : Pager} (h : Unmarked (database, p))
    {pages : Nat} (hreach : (pool (database, p)).InReach reach (.allocPages pages)) :
    p.allocPhysicalPages database pages =
      if p.nextFreePageFrame < (pool (database, p)).bound pages then
        (p.nextFreePageFrame * 4096, { p with nextFreePageFrame := p.nextFreePageFrame + pages })
      else (0, p) := by
  obtain ⟨hpos, hrun⟩ := hreach
  have hbound : (p.pageFrameMax + 2 ^ 32 - pages) % 2 ^ 32 = (pool (database, p)).bound pages := rfl
  have hend : p.nextFreePageFrame < (pool (database, p)).bound pages →
      p.nextFreePageFrame + pages ≤ 2 ^ 20 := fun hlt => (hrun hlt).2
  have hfits : p.nextFreePageFrame < (pool (database, p)).bound pages →
      database p.nextFreePageFrame = pageFree ∧ p.nextFreePageFrame + pages < 2 ^ 32 := by
    intro hlt
    have hlast := hend hlt
    refine ⟨h.free _ ?_, by omega⟩
    rw [reach]
    omega
  rw [allocPhysicalPages, if_pos h.usable, hbound, searchPages_unmarked hpos hfits]
  split_ifs with hlt
  · have hlast := hend hlt
    have haddr : p.nextFreePageFrame * 4096 % 2 ^ 32 = p.nextFreePageFrame * 4096 :=
      Nat.mod_eq_of_lt (by omega)
    rw [grant, pageSize, haddr]
  · rw [grant]

theorem pool_allocPage {s : Memory × Pager} (h : Unmarked s)
    (hreach : (pool s).InReach reach .allocPage) :
    Prod.map id pool (allocator.allocPage s) = (pool s).allocPage ∧
      Unmarked (allocator.allocPage s).2 := by
  obtain ⟨database, p⟩ := s
  change Prod.map id pool ((p.allocPhysicalPage database).1, database,
    (p.allocPhysicalPage database).2) = _ ∧ Unmarked (database, (p.allocPhysicalPage database).2)
  rw [allocPhysicalPage_unmarked h hreach, HintPool.allocPage]
  by_cases hlt : p.nextFreePageFrame < p.pageFrameMax
  · rw [if_pos hlt]
    exact ⟨(if_pos hlt).symm, h.usable, h.free⟩
  · rw [if_neg hlt]
    exact ⟨(if_neg hlt).symm, h⟩

theorem pool_allocPages {s : Memory × Pager} (h : Unmarked s) {pages : Nat}
    (hreach : (pool s).InReach reach (.allocPages pages)) :
    Prod.map id pool (allocator.allocPages s pages) = (pool s).allocPages pages ∧
      Unmarked (allocator.allocPages s pages).2 := by
  obtain ⟨database, p⟩ := s
  change Prod.map id pool ((p.allocPhysicalPages database pages).1, database,
      (p.allocPhysicalPages database pages).2) = _ ∧
    Unmarked (database, (p.allocPhysicalPages database pages).2)
  rw [allocPhysicalPages_unmarked h hreach, HintPool.allocPages]
  by_cases hlt : p.nextFreePageFrame < (pool (database, p)).bound pages
  · rw [if_pos hlt]
    exact ⟨(if_pos hlt).symm, h.usable, h.free⟩
  · rw [if_neg hlt]
    exact ⟨(if_neg hlt).symm, h⟩

/-- A free lowers the hint to the freed frame if it is below it. -/
theorem nextFreePageFrame_lower (p : Pager) (f : Nat) :
    (if f < p.nextFreePageFrame then { p with nextFreePageFrame := f } else p) =
      { p with nextFreePageFrame := min p.nextFreePageFrame f } := by
  split_ifs with hlt
  · rw [Nat.min_eq_right hlt.le]
  · rw [Nat.min_eq_left (Nat.le_of_not_lt hlt)]

theorem pool_freePage {s : Memory × Pager} (h : Unmarked s) (page : Nat) :
    pool (allocator.freePage s page) = (pool s).freePage page ∧
      Unmarked (allocator.freePage s page) := by
  obtain ⟨database, p⟩ := s
  change pool (p.freePhysicalPage database page) = _ ∧ Unmarked (p.freePhysicalPage database page)
  rw [freePhysicalPage, nextFreePageFrame_lower]
  refine ⟨rfl, h.usable, ?_⟩
  intro i hi
  simp only [write8]
  split_ifs
  · rfl
  · exact h.free i hi

theorem pool_freePages {s : Memory × Pager} (h : Unmarked s) (startPage pages : Nat) :
    pool (allocator.freePages s startPage pages) = (pool s).freePages startPage pages ∧
      Unmarked (allocator.freePages s startPage pages) := by
  obtain ⟨database, p⟩ := s
  change pool (p.freePhysicalPages database startPage pages) = _ ∧
    Unmarked (p.freePhysicalPages database startPage pages)
  rw [freePhysicalPages, nextFreePageFrame_lower]
  refine ⟨rfl, h.usable, ?_⟩
  intro i hi
  simp only [memset_apply]
  split_ifs
  · rfl
  · exact h.free i hi

/-- The `PAGER` over its database is a hint pool, call for call. -/
theorem simulates_pool :
    Simulates allocator HintPool.allocator pool Unmarked (HintPool.InReach reach) := by
  apply HintPool.simulates_of_ops
  · intro s h hreach
    exact pool_allocPage h hreach
  · intro s pages h hreach
    exact pool_allocPages h hreach
  · intro s page h
    exact pool_freePage h page
  · intro s startPage pages h
    exact pool_freePages h startPage pages

end ShellcodeVM.GuestOS.Pager
