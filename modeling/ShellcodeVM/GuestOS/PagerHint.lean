import ShellcodeVM.Lib.HintRuns
import ShellcodeVM.GuestOS.PagerGrants

/-!
The guest's `PAGER` over runs of calls once its database is in use, with the frames
that its searches find.
-/
namespace ShellcodeVM.GuestOS.Pager
open Machine Frames

/-- The scan of `alloc_physical_page`. -/
def searchPage (database : Memory) (p : Pager) : Option Nat :=
  firstFree database (p.pageFrameMax - p.nextFreePageFrame) p.nextFreePageFrame

/-- The scan of `alloc_physical_pages`. -/
def searchRun (database : Memory) (p : Pager) (pages : Nat) : Option (Nat × Nat) :=
  searchPages database pages p.pageFrameMax
    ((p.pageFrameMax + 2 ^ 32 - pages) % 2 ^ 32 - p.nextFreePageFrame) p.nextFreePageFrame

/-- The run that a request finds. -/
def found (s : Memory × Pager) : Request → Option Run
  | .allocPage => (s.2.searchPage s.1).map fun i => ⟨i, 1⟩
  | .allocPages pages => (s.2.searchRun s.1 pages).map fun run => ⟨run.1, pages⟩
  | .freePage _ | .freePages _ _ => none

theorem allocPhysicalPage_eq_grant {database : Memory} {p : Pager} (h : p.databaseUsable = true) :
    p.allocPhysicalPage database =
      p.grant ((p.searchPage database).map fun i => (i, (i + 1) % 2 ^ 32)) := by
  rw [allocPhysicalPage, if_pos h]
  rfl

theorem allocPhysicalPages_eq_grant {database : Memory} {p : Pager} (h : p.databaseUsable = true)
    (pages : Nat) : p.allocPhysicalPages database pages = p.grant (p.searchRun database pages) := by
  rw [allocPhysicalPages, if_pos h]
  rfl

/-- The database is in use, and its marks for a given number of frames are all free. -/
structure Ready (min max : Nat) (s : Memory × Pager) : Prop where
  usable : s.2.databaseUsable = true
  free : ∀ i, i < max → s.1 i = pageFree
  min_eq : s.2.pageFrameMin = min
  max_eq : s.2.pageFrameMax = max
  max_le : max ≤ 2 ^ 19

section Pool
variable {min max : Nat} {s : Memory × Pager} (h : Ready min max s)
include h

theorem Ready.searchPage_eq : s.2.searchPage s.1 =
    if s.2.nextFreePageFrame < s.2.pageFrameMax then some s.2.nextFreePageFrame else none := by
  exact firstFree_unmarked fun hlt => h.free _ (h.max_eq ▸ hlt)

theorem Ready.bound_eq {pages : Nat} (hasks : AsksFor max (.allocPages pages)) :
    (pool s).bound pages = s.2.pageFrameMax - pages := by
  have hle := (hasks pages rfl).2
  have hmax : s.2.pageFrameMax ≤ 2 ^ 19 := h.max_eq ▸ h.max_le
  rw [← h.max_eq] at hle
  rw [HintPool.bound, pool]
  dsimp only
  omega

theorem Ready.searchRun_eq {pages : Nat} (hasks : AsksFor max (.allocPages pages)) :
    s.2.searchRun s.1 pages = if s.2.nextFreePageFrame < (pool s).bound pages then
      some (s.2.nextFreePageFrame, s.2.nextFreePageFrame + pages) else none := by
  have hpos := (hasks pages rfl).1
  have hmax : s.2.pageFrameMax ≤ 2 ^ 19 := h.max_eq ▸ h.max_le
  have hbound : (s.2.pageFrameMax + 2 ^ 32 - pages) % 2 ^ 32 = (pool s).bound pages := rfl
  rw [searchRun, hbound]
  refine searchPages_unmarked hpos fun hlt => ?_
  rw [h.bound_eq hasks] at hlt
  refine ⟨h.free _ ?_, by omega⟩
  rw [← h.max_eq]
  omega

theorem Ready.found_eq {r : Request} (hasks : AsksFor max r) : found s r = (pool s).found r := by
  cases r with
  | allocPage =>
      rw [found, h.searchPage_eq]
      change _ = if s.2.nextFreePageFrame < s.2.pageFrameMax then _ else _
      split_ifs <;> rfl
  | allocPages pages =>
      rw [found, h.searchRun_eq hasks]
      change _ = if s.2.nextFreePageFrame < (pool s).bound pages then _ else _
      split_ifs <;> rfl
  | freePage _ | freePages _ _ => rfl

theorem Ready.found_none (hnone : s.2.searchPage s.1 = none) :
    (pool s).found .allocPage = none := by
  rw [← h.found_eq (asksFor_allocPage max), found, hnone, Option.map_none]

theorem Ready.allocPage : pool (s.1, (s.2.allocPhysicalPage s.1).2) = (pool s).allocPage.2 ∧
    Ready min max (s.1, (s.2.allocPhysicalPage s.1).2) := by
  have hmax : s.2.pageFrameMax ≤ 2 ^ 19 := h.max_eq ▸ h.max_le
  rw [allocPhysicalPage_eq_grant h.usable, h.searchPage_eq, HintPool.allocPage]
  by_cases hlt : s.2.nextFreePageFrame < s.2.pageFrameMax
  · have hpool : (pool s).hint < (pool s).limit := hlt
    have hnext : (s.2.nextFreePageFrame + 1) % 2 ^ 32 = s.2.nextFreePageFrame + 1 :=
      Nat.mod_eq_of_lt (by omega)
    rw [if_pos hlt, if_pos hpool, Option.map_some, hnext, grant]
    exact ⟨rfl, h.usable, h.free, h.min_eq, h.max_eq, h.max_le⟩
  · have hpool : ¬ (pool s).hint < (pool s).limit := hlt
    rw [if_neg hlt, if_neg hpool, Option.map_none, grant]
    exact ⟨rfl, h⟩

theorem Ready.allocPages {pages : Nat} (hasks : AsksFor max (.allocPages pages)) :
    pool (s.1, (s.2.allocPhysicalPages s.1 pages).2) = ((pool s).allocPages pages).2 ∧
      Ready min max (s.1, (s.2.allocPhysicalPages s.1 pages).2) := by
  rw [allocPhysicalPages_eq_grant h.usable, h.searchRun_eq hasks, HintPool.allocPages]
  by_cases hlt : s.2.nextFreePageFrame < (pool s).bound pages
  · have hpool : (pool s).hint < (pool s).bound pages := hlt
    rw [if_pos hlt, if_pos hpool, grant]
    exact ⟨rfl, h.usable, h.free, h.min_eq, h.max_eq, h.max_le⟩
  · have hpool : ¬ (pool s).hint < (pool s).bound pages := hlt
    rw [if_neg hlt, if_neg hpool, grant]
    exact ⟨rfl, h⟩

theorem Ready.freePage (page : Nat) :
    pool (s.2.freePhysicalPage s.1 page) = (pool s).freePage page ∧
      Ready min max (s.2.freePhysicalPage s.1 page) := by
  rw [freePhysicalPage, nextFreePageFrame_lower]
  refine ⟨rfl, h.usable, ?_, h.min_eq, h.max_eq, h.max_le⟩
  intro i hi
  simp only [write8]
  split_ifs
  · rfl
  · exact h.free i hi

theorem Ready.freePages (startPage pages : Nat) :
    pool (s.2.freePhysicalPages s.1 startPage pages) = (pool s).freePages startPage pages ∧
      Ready min max (s.2.freePhysicalPages s.1 startPage pages) := by
  rw [freePhysicalPages, nextFreePageFrame_lower]
  refine ⟨rfl, h.usable, ?_, h.min_eq, h.max_eq, h.max_le⟩
  intro i hi
  simp only [memset_apply]
  split_ifs
  · rfl
  · exact h.free i hi

end Pool

theorem findsAsPool (min max : Nat) :
    HintPool.FindsAsPool allocator found pool (Ready min max) (AsksFor max) := by
  apply HintPool.findsAsPool_of_ops
  · intro s r h hasks
    exact h.found_eq hasks
  · intro s h
    exact h.allocPage
  · intro s pages h hasks
    exact h.allocPages hasks
  · intro s page h
    exact h.freePage page
  · intro s startPage pages h
    exact h.freePages startPage pages

theorem reaches_covered {s t : Memory × Pager} {min max : Nat} (h : Ready min max s) {live : Set Nat}
    (hreach : Reaches allocator found (AsksFor max) s ∅ t live) :
    Ready min max t ∧ (pool t).Covered s.2.nextFreePageFrame live :=
  HintPool.covered_of_reaches (findsAsPool min max) h
    (fun _ hfloor hf => absurd hf (Nat.not_lt.mpr hfloor)) hreach

end ShellcodeVM.GuestOS.Pager
