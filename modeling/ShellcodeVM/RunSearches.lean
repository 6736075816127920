import ShellcodeVM.VM.PageFrameSearch
import ShellcodeVM.GuestOS.PagerSearch

/-!
Multi-page allocation on the host and in the guest. Both copies test the end of a run
with an assignment, so they return the first free frame below `max - pages` whatever
follows it, and leave out a run that ends with the last frame.
-/
namespace ShellcodeVM
open Machine Frames VM GuestOS

/-- Both searches find a free run, or refuse with nothing changed and nothing read
outside the map, exactly when the first free frame of the scan starts one. -/
theorem runSearches_find_iff (db : PageFrameDatabase) (database : Memory) (p : Pager)
    (pages guestPages : Nat) (hpos : 1 ≤ pages) (hpages : pages < 2 ^ 64)
    (hmax : db.pageFrameMax < 2 ^ 31) (husable : p.databaseUsable = true)
    (hguestPos : 1 ≤ guestPages) (hguestPages : guestPages < 2 ^ 32)
    (hguestMax : p.pageFrameMax < 2 ^ 32) :
    (FindsRun (PageFrameDatabase.IsFree db.pageFrameMap) db.nextFreePageFrame db.pageFrameMax pages
        (db.allocPhysicalPages pages).1 ((db.allocPhysicalPages pages).2 = db)
        (db.allocReads pages) ↔
      FindsWhen (PageFrameDatabase.IsFree db.pageFrameMap) (2 ^ 64) PageFrameDatabase.reach
        db.searchStart db.nextFreePageFrame db.pageFrameMax pages) ∧
    (FindsRun (Pager.IsFree database) p.nextFreePageFrame p.pageFrameMax guestPages
        (p.allocPhysicalPages database guestPages).1
        ((p.allocPhysicalPages database guestPages).2 = p)
        (p.allocReads database guestPages) ↔
      FindsWhen (Pager.IsFree database) (2 ^ 32) Pager.reach p.nextFreePageFrame
        p.nextFreePageFrame p.pageFrameMax guestPages) :=
  ⟨PageFrameDatabase.allocPhysicalPages_findsRun_iff hpos hmax hpages,
    Pager.allocPhysicalPages_findsRun_iff husable hguestPos hguestMax hguestPages⟩

/-- Of six frames, frames 1, 3 and 4 free: a hole in front of a run of two. -/
def holeBeforeRun : Memory := fun i => if i = 1 ∨ i = 3 ∨ i = 4 then 0 else 1

def hostHole : PageFrameDatabase := ⟨0x6000, 0, 6, 1, holeBeforeRun⟩

def guestHole : Pager := ⟨0, 0, 1, 6, 1, 0, true⟩

/-- Two frames are asked for on both sides. -/
theorem runSearches_find_twoFrames :
    (FindsRun (PageFrameDatabase.IsFree holeBeforeRun) 1 6 2 (hostHole.allocPhysicalPages 2).1
        ((hostHole.allocPhysicalPages 2).2 = hostHole) (hostHole.allocReads 2) ↔
      FindsWhen (PageFrameDatabase.IsFree holeBeforeRun) (2 ^ 64) PageFrameDatabase.reach
        hostHole.searchStart 1 6 2) ∧
    (FindsRun (Pager.IsFree holeBeforeRun) 1 6 2 (guestHole.allocPhysicalPages holeBeforeRun 2).1
        ((guestHole.allocPhysicalPages holeBeforeRun 2).2 = guestHole)
        (guestHole.allocReads holeBeforeRun 2) ↔
      FindsWhen (Pager.IsFree holeBeforeRun) (2 ^ 32) Pager.reach 1 1 6 2) :=
  runSearches_find_iff hostHole holeBeforeRun guestHole 2 2 (by decide) (by decide) (by decide) rfl
    (by decide) (by decide) (by decide)

/-- Two frames are taken from the hole at frame 1. -/
theorem holeBeforeRun_granted :
    (¬ ∀ (db : PageFrameDatabase) (pages : Nat), 1 ≤ pages →
      FindsRun (PageFrameDatabase.IsFree db.pageFrameMap) db.nextFreePageFrame db.pageFrameMax
        pages (db.allocPhysicalPages pages).1 ((db.allocPhysicalPages pages).2 = db)
        (db.allocReads pages)) ∧
    ¬ ∀ (database : Memory) (p : Pager) (pages : Nat), p.databaseUsable = true → 1 ≤ pages →
      FindsRun (Pager.IsFree database) p.nextFreePageFrame p.pageFrameMax pages
        (p.allocPhysicalPages database pages).1 ((p.allocPhysicalPages database pages).2 = p)
        (p.allocReads database pages) := by
  have hfirst : First (fun i => holeBeforeRun i = 0) 1 (6 - 2) (some 1) :=
    ⟨le_refl 1, by decide, by decide, fun k hk hlt => by omega⟩
  have hnot : ¬ FreeRun (fun i => holeBeforeRun i = 0) 6 2 1 :=
    not_freeRun_of_used (u := 2) (by decide) (by decide) (by decide)
  refine ⟨?_, ?_⟩
  · intro h
    have hwhen := (PageFrameDatabase.allocPhysicalPages_findsRun_iff (by decide) (by decide)
      (by decide)).mp (h hostHole 2 (by decide))
    have hstart : hostHole.searchStart = 1 :=
      (PageFrameDatabase.searchStart_eq (by decide)).resolve_right (by decide)
    rw [hstart] at hwhen
    exact hnot ((hwhen.within (by decide)).first 1 hfirst).2.2
  · intro h
    have hwhen := (Pager.allocPhysicalPages_findsRun_iff rfl (by decide) (by decide)
      (by decide)).mp (h holeBeforeRun guestHole 2 rfl (by decide))
    exact hnot ((hwhen.within (by decide)).first 1 hfirst).2.2

end ShellcodeVM
