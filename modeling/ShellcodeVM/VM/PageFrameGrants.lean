import ShellcodeVM.VM.PageFrame

/-!
`page_frame_database` as a hint pool. No function ever stores
`PAGE_FRAME_USED`, so after `Init` every mark stays free and all that keeps
a frame from being granted again is `m_next_free_page_frame`.
-/
namespace ShellcodeVM.VM.PageFrameDatabase
open Machine Frames

/-- The first frame whose address, a product of two `int`s, overflows. -/
def reach : Nat := 2 ^ 19

/-- All managed marks are free, and the hint is a frame with an address. -/
structure Unmarked (db : PageFrameDatabase) : Prop where
  hint : db.nextFreePageFrame ≤ reach
  free : ∀ i, i < db.pageFrameMax → db.pageFrameMap i = pageFrameFree

def pool (db : PageFrameDatabase) : HintPool := ⟨2 ^ 64, db.pageFrameMax, db.nextFreePageFrame⟩

theorem frameAddress_small {i : Nat} (h : i < 2 ^ 19) : frameAddress i = i * 4096 := by
  have hprod : ((i : Int) * (pageSize : Nat)) = ((i * 4096 : Nat) : Int) := by
    rw [pageSize]
    push_cast
    rfl
  rw [frameAddress, hprod, toInt32_small (by omega), toUInt64_small (by omega)]

/-- The scan of an all-free map stops at its first index, if it has one. -/
theorem firstFree_unmarked {map : Memory} {max start : Nat} (hstart : start < 2 ^ 31)
    (hfree : ∀ i, i < max → map i = pageFrameFree) :
    firstFree map max (intPasses max) start = if start < max then some (start : Int) else none := by
  have hidx : toUInt64 (start : Int) = start := toUInt64_small (by omega)
  by_cases hlt : start < max
  · obtain ⟨n, hn⟩ := intPasses_pos (Nat.zero_lt_of_lt hlt)
    rw [hn, firstFree, hidx, if_pos hlt, if_pos (hfree start hlt), if_pos hlt]
  · rw [if_neg hlt]
    cases intPasses max with
    | zero => rw [firstFree]
    | succ n => rw [firstFree, hidx, if_neg hlt]

/-- The search stops at its first index as well: what the inner loop finds is
overwritten. -/
theorem searchPages_unmarked {map : Memory} {pages max b start : Nat}
    (hpos : 1 ≤ pages) (hreach : start < b → start < max ∧ start + pages < 2 ^ 31)
    (hstart : start < 2 ^ 31) (hfree : ∀ i, i < max → map i = pageFrameFree) :
    searchPages map pages max b (intPasses b) start =
      if start < b then some ((start : Int), ((start + pages : Nat) : Int)) else none := by
  have hidx : toUInt64 (start : Int) = start := toUInt64_small (by omega)
  by_cases hlt : start < b
  · obtain ⟨hmax, hfits⟩ := hreach hlt
    have hend : (start + pages) % 2 ^ 64 = start + pages := by omega
    have hint : toInt32 ((start + pages : Nat) : Int) = ((start + pages : Nat) : Int) :=
      toInt32_small hfits
    have hne : ((start + pages : Nat) : Int) ≠ 0 := by omega
    obtain ⟨n, hn⟩ := intPasses_pos (Nat.zero_lt_of_lt hlt)
    rw [hn, searchPages, hidx, if_pos hlt, if_pos (hfree start hmax), hend, if_pos hlt]
    simp only [hint, if_pos hne]
  · rw [if_neg hlt]
    cases intPasses b with
    | zero => rw [searchPages]
    | succ n => rw [searchPages, hidx, if_neg hlt]

theorem allocPhysicalPage_eq {db : PageFrameDatabase} (h : db.Unmarked)
    (hreach : db.pool.InReach reach .allocPage) :
    db.allocPhysicalPage =
      if db.nextFreePageFrame < db.pageFrameMax then
        (db.nextFreePageFrame * 4096,
          { db with nextFreePageFrame := db.nextFreePageFrame + 1 })
      else (0, db) := by
  obtain ⟨hhint, hfree⟩ := h
  rw [reach] at hhint
  have hstart : toInt32 (db.nextFreePageFrame : Int) = db.nextFreePageFrame :=
    toInt32_small (by omega)
  rw [allocPhysicalPage, hstart, firstFree_unmarked (by omega) hfree]
  by_cases hlt : db.nextFreePageFrame < db.pageFrameMax
  · have hlow : db.nextFreePageFrame < 2 ^ 19 := hreach hlt
    have hnext : toInt32 ((db.nextFreePageFrame : Int) + 1) = (db.nextFreePageFrame + 1 : Nat) :=
      toInt32_small (x := db.nextFreePageFrame + 1) (by omega)
    rw [if_pos hlt, if_pos hlt, Option.map_some, hnext, grant, frameAddress_small hlow,
      toUInt64_small (by omega)]
  · rw [if_neg hlt, if_neg hlt, Option.map_none, grant]

theorem allocPhysicalPages_eq {db : PageFrameDatabase} (h : db.Unmarked) {pages : Nat}
    (hreach : db.pool.InReach reach (.allocPages pages)) :
    db.allocPhysicalPages pages =
      if db.nextFreePageFrame < db.pool.bound pages then
        (db.nextFreePageFrame * 4096,
          { db with nextFreePageFrame := db.nextFreePageFrame + pages })
      else (0, db) := by
  obtain ⟨hhint, hfree⟩ := h
  obtain ⟨hpos, hrun⟩ := hreach
  have hfits (hlt : db.nextFreePageFrame < db.pool.bound pages) :
      db.nextFreePageFrame < db.pageFrameMax ∧ db.nextFreePageFrame + pages ≤ 2 ^ 19 := hrun hlt
  rw [reach] at hhint
  have hstart : toInt32 (db.nextFreePageFrame : Int) = db.nextFreePageFrame :=
    toInt32_small (by omega)
  have hbound : (db.pageFrameMax + 2 ^ 64 - pages) % 2 ^ 64 = db.pool.bound pages := rfl
  have hsearch := searchPages_unmarked (b := db.pool.bound pages) hpos
    (fun hlt => ⟨(hfits hlt).1, by have := (hfits hlt).2; omega⟩) (by omega) hfree
  rw [allocPhysicalPages, hbound, hstart, hsearch]
  by_cases hlt : db.nextFreePageFrame < db.pool.bound pages
  · have hend := (hfits hlt).2
    rw [if_pos hlt, if_pos hlt, grant, frameAddress_small (by omega), toUInt64_small (by omega)]
  · rw [if_neg hlt, if_neg hlt, grant]

theorem freePhysicalPage_eq (db : PageFrameDatabase) (page : Nat) :
    (db.freePhysicalPage page).pool = db.pool.freePage page := by
  have hint : (if page < db.nextFreePageFrame then page else db.nextFreePageFrame) =
      min db.nextFreePageFrame page := by
    split_ifs <;> omega
  exact congrArg (HintPool.mk _ db.pageFrameMax) hint

theorem freePhysicalPages_eq (db : PageFrameDatabase) (start pages : Nat) :
    (db.freePhysicalPages start pages).pool = db.pool.freePages start pages := by
  have hint : (if db.nextFreePageFrame > start then start else db.nextFreePageFrame) =
      min db.nextFreePageFrame start := by
    split_ifs <;> omega
  exact congrArg (HintPool.mk _ db.pageFrameMax) hint

/-- A free stores the free mark, so no mark ever changes. -/
theorem Unmarked.freePhysicalPage {db : PageFrameDatabase} (h : db.Unmarked) (page : Nat) :
    (db.freePhysicalPage page).Unmarked := by
  refine ⟨?_, ?_⟩
  · have := h.hint
    simp only [PageFrameDatabase.freePhysicalPage]
    split_ifs <;> omega
  · intro i hi
    simp only [PageFrameDatabase.freePhysicalPage, write8]
    split_ifs
    · rfl
    · exact h.free i hi

theorem Unmarked.freePhysicalPages {db : PageFrameDatabase} (h : db.Unmarked) (start pages : Nat) :
    (db.freePhysicalPages start pages).Unmarked := by
  refine ⟨?_, ?_⟩
  · have := h.hint
    simp only [PageFrameDatabase.freePhysicalPages]
    split_ifs <;> omega
  · intro i hi
    simp only [PageFrameDatabase.freePhysicalPages, memset_apply]
    split_ifs
    · rfl
    · exact h.free i hi

theorem pool_allocPhysicalPage {db : PageFrameDatabase} (h : db.Unmarked)
    (hreach : db.pool.InReach reach .allocPage) :
    Prod.map id pool db.allocPhysicalPage = db.pool.allocPage ∧ db.allocPhysicalPage.2.Unmarked := by
  rw [allocPhysicalPage_eq h hreach, HintPool.allocPage]
  by_cases hlt : db.nextFreePageFrame < db.pageFrameMax
  · rw [if_pos hlt]
    exact ⟨(if_pos hlt).symm, hreach hlt, h.free⟩
  · rw [if_neg hlt]
    exact ⟨(if_neg hlt).symm, h⟩

theorem pool_allocPhysicalPages {db : PageFrameDatabase} (h : db.Unmarked) {pages : Nat}
    (hreach : db.pool.InReach reach (.allocPages pages)) :
    Prod.map id pool (db.allocPhysicalPages pages) = db.pool.allocPages pages ∧
      (db.allocPhysicalPages pages).2.Unmarked := by
  rw [allocPhysicalPages_eq h hreach, HintPool.allocPages]
  by_cases hlt : db.nextFreePageFrame < db.pool.bound pages
  · rw [if_pos hlt]
    exact ⟨(if_pos hlt).symm, (hreach.2 hlt).2, h.free⟩
  · rw [if_neg hlt]
    exact ⟨(if_neg hlt).symm, h⟩

/-- The database is a hint pool, call for call. -/
theorem simulates_pool :
    Simulates allocator HintPool.allocator pool Unmarked (HintPool.InReach reach) := by
  apply HintPool.simulates_of_ops
  · intro db h hreach
    exact pool_allocPhysicalPage h hreach
  · intro db pages h hreach
    exact pool_allocPhysicalPages h hreach
  · intro db f h
    exact ⟨freePhysicalPage_eq db f, h.freePhysicalPage f⟩
  · intro db f pages h
    exact ⟨freePhysicalPages_eq db f pages, h.freePhysicalPages f pages⟩

theorem cleared_unmarked (db : PageFrameDatabase) (memSize : Nat) : (db.cleared memSize).Unmarked := by
  refine ⟨Nat.zero_le _, ?_⟩
  intro i hi
  have hi : i < sizeToPages memSize := hi
  exact memset_inside db.pageFrameMap 0 ⟨Nat.zero_le i, by omega⟩

/-- `Init` clears the marks, and the directory takes the first frame. -/
theorem init_unmarked (db : PageFrameDatabase) (memSize : Nat) :
    (db.init memSize).2.Unmarked ∧
      (db.init memSize).2.pool =
        (HintPool.allocPage ⟨2 ^ 64, sizeToPages memSize, 0⟩).2 := by
  have hfirst : 0 < reach := by decide
  rw [init]
  obtain ⟨hpool, hunmarked⟩ := pool_allocPhysicalPage (cleared_unmarked db memSize) (fun _ => hfirst)
  exact ⟨hunmarked, congrArg Prod.snd hpool⟩

end ShellcodeVM.VM.PageFrameDatabase
