import ShellcodeVM.Lib.HintRuns
import ShellcodeVM.VM.PageFrameGrants

/-!
`page_frame_database` over runs of calls after `Init`, with the frames that its
searches find: the hint passes over no frame that is not granted.
-/
namespace ShellcodeVM.VM.PageFrameDatabase
open Machine Frames

/-- The scan of `alloc_physical_page`. -/
def searchPage (db : PageFrameDatabase) : Option Int :=
  firstFree db.pageFrameMap db.pageFrameMax (intPasses db.pageFrameMax)
    (toInt32 db.nextFreePageFrame)

/-- The scan of `alloc_physical_pages`. -/
def searchRun (db : PageFrameDatabase) (pages : Nat) : Option (Int × Int) :=
  let bound := (db.pageFrameMax + 2 ^ 64 - pages) % 2 ^ 64
  searchPages db.pageFrameMap pages db.pageFrameMax bound (intPasses bound)
    (toInt32 db.nextFreePageFrame)

theorem allocPhysicalPage_eq_grant (db : PageFrameDatabase) :
    db.allocPhysicalPage = db.grant (db.searchPage.map fun i => (i, toInt32 (i + 1))) :=
  rfl

theorem allocPhysicalPages_eq_grant (db : PageFrameDatabase) (pages : Nat) :
    db.allocPhysicalPages pages = db.grant (db.searchRun pages) :=
  rfl

/-- The run that a request finds. -/
def found (db : PageFrameDatabase) : Request → Option Run
  | .allocPage => db.searchPage.map fun i => ⟨toUInt64 i, 1⟩
  | .allocPages pages => (db.searchRun pages).map fun run => ⟨toUInt64 run.1, pages⟩
  | .freePage _ | .freePages _ _ => none

/-- An all-free map of a given length, none of whose addresses overflows. -/
structure Ready (max : Nat) (db : PageFrameDatabase) : Prop where
  unmarked : db.Unmarked
  max_eq : db.pageFrameMax = max
  max_le : max ≤ 2 ^ 19

section Pool
variable {max : Nat} {db : PageFrameDatabase} (h : Ready max db)
include h

theorem Ready.inReach {r : Request} (hasks : AsksFor max r) : db.pool.InReach reach r := by
  have hmax : db.pageFrameMax ≤ 2 ^ 19 := h.max_eq ▸ h.max_le
  cases r with
  | allocPage =>
      intro hlt
      rw [reach]
      exact Nat.lt_of_lt_of_le hlt hmax
  | allocPages pages =>
      obtain ⟨hpos, hle⟩ := hasks pages rfl
      rw [← h.max_eq] at hle
      refine ⟨hpos, ?_⟩
      intro hlt
      have hbound : db.pool.bound pages = db.pageFrameMax - pages := by
        rw [HintPool.bound, pool]
        dsimp only
        omega
      rw [hbound] at hlt
      rw [reach]
      simp only [pool] at hlt ⊢
      omega
  | freePage _ | freePages _ _ => trivial

theorem Ready.hint_toInt32 : toInt32 (db.nextFreePageFrame : Int) = db.nextFreePageFrame := by
  have hhint := h.unmarked.hint
  rw [reach] at hhint
  exact toInt32_small (by omega)

theorem Ready.found_eq {r : Request} (hasks : AsksFor max r) : db.found r = db.pool.found r := by
  have hhint := h.unmarked.hint
  rw [reach] at hhint
  have hidx : toUInt64 (db.nextFreePageFrame : Int) = db.nextFreePageFrame :=
    toUInt64_small (by omega)
  cases r with
  | allocPage =>
      rw [found, searchPage, h.hint_toInt32, firstFree_unmarked (by omega) h.unmarked.free]
      change _ = if db.nextFreePageFrame < db.pageFrameMax then _ else _
      split_ifs with hlt
      · rw [Option.map_some, hidx]
        rfl
      · rfl
  | allocPages pages =>
      obtain ⟨hpos, hrun⟩ := h.inReach hasks
      have hfits : db.nextFreePageFrame < db.pool.bound pages →
          db.nextFreePageFrame < db.pageFrameMax ∧ db.nextFreePageFrame + pages < 2 ^ 31 := by
        intro hlt
        obtain ⟨hin, hend⟩ := hrun hlt
        change db.nextFreePageFrame + pages ≤ 2 ^ 19 at hend
        exact ⟨hin, by omega⟩
      have hsearch := searchPages_unmarked (b := db.pool.bound pages) hpos hfits (by omega)
        h.unmarked.free
      have hscan : db.searchRun pages = searchPages db.pageFrameMap pages db.pageFrameMax
          (db.pool.bound pages) (intPasses (db.pool.bound pages))
          (toInt32 db.nextFreePageFrame) := rfl
      rw [found, hscan, h.hint_toInt32, hsearch]
      change _ = if db.nextFreePageFrame < db.pool.bound pages then _ else _
      split_ifs with hlt
      · rw [Option.map_some, hidx]
        rfl
      · rfl
  | freePage _ | freePages _ _ => rfl

theorem Ready.found_none (hnone : db.searchPage = none) : db.pool.found .allocPage = none := by
  rw [← h.found_eq (asksFor_allocPage max), found, hnone, Option.map_none]

end Pool

theorem grant_pageFrameMax (db : PageFrameDatabase) (run : Option (Int × Int)) :
    (db.grant run).2.pageFrameMax = db.pageFrameMax := by
  cases run with
  | none => rfl
  | some run => rfl

/-- Every call keeps the length of the map. -/
theorem pageFrameMax_call (db : PageFrameDatabase) (r : Request) :
    (allocator.call db r).2.pageFrameMax = db.pageFrameMax := by
  refine call_keeps (I := fun db' : PageFrameDatabase => db'.pageFrameMax = db.pageFrameMax) ?_ ?_ ?_ ?_ r
  · rw [allocPhysicalPage_eq_grant]
    exact grant_pageFrameMax db _
  · intro pages
    rw [allocPhysicalPages_eq_grant]
    exact grant_pageFrameMax db _
  · exact fun _ => rfl
  · exact fun _ _ => rfl

theorem findsAsPool (max : Nat) :
    HintPool.FindsAsPool allocator found pool (Ready max) (AsksFor max) where
  found _ _ h hasks := h.found_eq hasks
  state db r h hasks := simulates_pool.state db r h.unmarked (h.inReach hasks)
  inv db r h hasks := ⟨simulates_pool.inv db r h.unmarked (h.inReach hasks),
    (pageFrameMax_call db r).trans h.max_eq, h.max_le⟩

/-- The live frames after `Init`: the frame of the page directory, if there is one. -/
def directoryFrames (db : PageFrameDatabase) (memSize : Nat) : Set Nat :=
  liveAfter ∅ ((db.cleared memSize).found .allocPage) .allocPage

/-- In every state reached after `Init` all frames below the hint are live. -/
theorem reaches_covered {db s : PageFrameDatabase} {memSize : Nat}
    (hsize : sizeToPages memSize ≤ 2 ^ 19) {live : Set Nat}
    (h : Reaches allocator found (AsksFor (sizeToPages memSize)) (db.init memSize).2
      (db.directoryFrames memSize) s live) :
    Ready (sizeToPages memSize) s ∧ s.pool.Covered 0 live := by
  have hcleared : Ready (sizeToPages memSize) (db.cleared memSize) :=
    ⟨cleared_unmarked db memSize, rfl, hsize⟩
  have hasks := asksFor_allocPage (sizeToPages memSize)
  have hempty : (db.cleared memSize).pool.Covered 0 ∅ := fun f _ hf => absurd hf (Nat.not_lt_zero f)
  -- `Init` ends with a first call of its own
  obtain ⟨hready, hcovered⟩ := HintPool.covered_of_reaches (findsAsPool (sizeToPages memSize))
    hcleared hempty (Reaches.start.call hasks (fun _ hg => by cases hg))
  exact HintPool.covered_of_reaches (findsAsPool (sizeToPages memSize)) hready hcovered h

end ShellcodeVM.VM.PageFrameDatabase
