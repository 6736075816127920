import ShellcodeVM.VM.PageFrameHint

/-!
The range that `page_frame_database` manages. `Init` sets `m_page_frame_min` to the end
of the low 4 MB and starts the hint at 0, and no search looks at the minimum, so the
first frame granted is frame 0.
-/
namespace ShellcodeVM.VM.PageFrameDatabase
open Machine Frames

/-- The address that a request is answered with. -/
def answer (db : PageFrameDatabase) : Request → Nat
  | .allocPage => db.allocPhysicalPage.1
  | .allocPages pages => (db.allocPhysicalPages pages).1
  | .freePage _ | .freePages _ _ => 0

/-- What the request finds starts at a managed frame, and its address is exact. -/
def InRange (db : PageFrameDatabase) (r : Request) : Prop :=
  ∀ run ∈ db.found r, db.answer r = run.start * 4096 ∧
    db.pageFrameMin ≤ run.start ∧ run.start < db.pageFrameMax

def Typed (r : Request) : Prop := ∀ pages, r = .allocPages pages → pages < 2 ^ 64

/-- Every allocation is in range: the one that `Init` makes, and those of every later
sequence of allocations and frees of granted frames. -/
def RespectsRange (db : PageFrameDatabase) (memSize : Nat) : Prop :=
  (db.cleared memSize).InRange .allocPage ∧
    ∀ s live r, Reaches allocator found Typed (db.init memSize).2 (db.directoryFrames memSize)
      s live → Typed r → s.InRange r

theorem sizeToPages_eq_zero_iff {memSize : Nat} (hlow : mb 4 < memSize) (hsize : memSize < 2 ^ 64) :
    sizeToPages memSize = 0 ↔ 2 ^ 64 ≤ memSize + 4095 := by
  have hmb : mb 4 = 4194304 := by decide
  rw [sizeToPages, pageSize, Nat.shiftRight_eq_div_pow]
  omega

/-- With a frame to grant, `Init` takes frame 0. -/
theorem not_inRange_cleared {db : PageFrameDatabase} {memSize : Nat}
    (hpos : 0 < sizeToPages memSize) : ¬ (db.cleared memSize).InRange .allocPage := by
  intro h
  have hfound : (db.cleared memSize).found .allocPage = some ⟨0, 1⟩ := by
    have hsearch := firstFree_unmarked (by decide : 0 < 2 ^ 31) (cleared_unmarked db memSize).free
    have hmax : 0 < (db.cleared memSize).pageFrameMax := hpos
    have hstart : toInt32 ((db.cleared memSize).nextFreePageFrame : Int) = ((0 : Nat) : Int) :=
      toInt32_small (by decide : 0 < 2 ^ 31)
    rw [found, searchPage, hstart, hsearch, if_pos hmax]
    rfl
  have hmin : sizeToPages (mb 4) ≤ 0 := (h _ hfound).2.1
  exact absurd hmin (by decide)

/-! ### No frames at all -/

/-- A scan of bytes that are not zero finds nothing. -/
theorem searchPages_none {map : Memory} {pages max bound : Nat}
    (h : ∀ k, k < 2 ^ 31 → map k ≠ pageFrameFree) {n i : Nat} (hn : i + n ≤ 2 ^ 31) :
    searchPages map pages max bound n i = none := by
  induction n generalizing i with
  | zero => rfl
  | succ n ih =>
      have hidx : toUInt64 (i : Int) = i := toUInt64_small (by omega)
      rw [searchPages, hidx, if_neg (h i (by omega))]
      split_ifs with hpass
      · cases n with
        | zero => rfl
        | succ n =>
            have hnext : toInt32 ((i : Int) + 1) = (i + 1 : Nat) :=
              toInt32_small (by omega : i + 1 < 2 ^ 31)
            rw [hnext]
            exact ih (by omega)
      · rfl

/-- A scan for one frame that comes to a zero byte finds a frame. -/
theorem searchPages_some {map : Memory} (max : Nat) {bound k : Nat} (hfree : map k = pageFrameFree)
    (hk : k < 2 ^ 31) (hbound : k < bound) {n i : Nat} (hi : i ≤ k) (hn : k < i + n) :
    searchPages map 1 max bound n i ≠ none := by
  induction n generalizing i with
  | zero => omega
  | succ n ih =>
      have hidx : toUInt64 (i : Int) = i := toUInt64_small (by omega)
      rw [searchPages, hidx, if_pos (by omega)]
      by_cases hmark : map i = pageFrameFree
      · have haccept : toInt32 ((i + 1) % 2 ^ 64 : Nat) ≠ 0 := by
          rw [Nat.mod_eq_of_lt (by omega), toInt32, Int.bmod_def]
          split_ifs <;> omega
        simp only [if_pos hmark, if_pos haccept]
        exact Option.some_ne_none _
      · have hne : i ≠ k := fun h => hmark (h ▸ hfree)
        have hnext : toInt32 ((i : Int) + 1) = (i + 1 : Nat) :=
          toInt32_small (by omega : i + 1 < 2 ^ 31)
        rw [if_neg hmark, hnext]
        exact ih (by omega) (by omega)

theorem searchPage_of_zero (db : PageFrameDatabase) (h : db.pageFrameMax = 0) :
    db.searchPage = none := by
  have hpasses : intPasses 0 = 0 := by
    rw [intPasses, Nat.zero_min]
  rw [searchPage, h, hpasses, firstFree]

/-- A database without frames whose searches read no zero byte. -/
structure Barren (db : PageFrameDatabase) : Prop where
  max_eq : db.pageFrameMax = 0
  hint_eq : db.nextFreePageFrame = 0
  noZero : ∀ k, k < 2 ^ 31 → db.pageFrameMap k ≠ pageFrameFree

theorem Barren.found_eq {db : PageFrameDatabase} (h : db.Barren) (r : Request) :
    db.found r = none := by
  have hstart : toInt32 (db.nextFreePageFrame : Int) = ((0 : Nat) : Int) := by
    rw [h.hint_eq]
    exact toInt32_small (by decide : 0 < 2 ^ 31)
  cases r with
  | allocPage => rw [found, searchPage_of_zero db h.max_eq, Option.map_none]
  | allocPages pages =>
      have hpasses (bound : Nat) : 0 + intPasses bound ≤ 2 ^ 31 := by
        rw [Nat.zero_add, intPasses]
        exact Nat.min_le_right _ _
      rw [found, searchRun, hstart, searchPages_none h.noZero (hpasses _), Option.map_none]
  | freePage _ | freePages _ _ => rfl

theorem liveAfter_empty (r : Request) : liveAfter ∅ none r = ∅ := by
  ext f
  simp [liveAfter]

/-- A free of no frames at or above the hint changes nothing. -/
theorem freePhysicalPages_zero {db : PageFrameDatabase} (start : Nat)
    (h : db.nextFreePageFrame ≤ start) : db.freePhysicalPages start 0 = db := by
  have hcount : (start + 0) % 2 ^ 64 - start = 0 := by omega
  have hmap : memset db.pageFrameMap start pageFrameFree 0 = db.pageFrameMap := by
    funext i
    rw [memset_apply, if_neg (by omega)]
  rw [freePhysicalPages, hcount, hmap, if_neg (Nat.not_lt.mpr h)]

/-- Nothing is granted, so nothing can be given back and nothing changes. -/
theorem Barren.call {db : PageFrameDatabase} (h : db.Barren) {r : Request}
    (hfreed : ∀ g ∈ r.freed, ∀ f, g.Has f → f ∈ (∅ : Set Nat)) :
    (allocator.call db r).2 = db := by
  cases r with
  | allocPage =>
      have hnone : db.searchPage = none := by
        have hfound := h.found_eq .allocPage
        rwa [found, Option.map_eq_none_iff] at hfound
      simp only [Allocator.call, allocator, allocPhysicalPage_eq_grant, hnone, Option.map_none,
        grant]
  | allocPages pages =>
      have hnone : db.searchRun pages = none := by
        have hfound := h.found_eq (.allocPages pages)
        rwa [found, Option.map_eq_none_iff] at hfound
      refine (call_allocPages db pages).trans ?_
      rw [allocPhysicalPages_eq_grant, hnone, grant]
  | freePage page => exact absurd (hfreed _ rfl page ⟨le_refl page, Nat.lt_succ_self page⟩) id
  | freePages start pages =>
      cases pages with
      | zero => exact freePhysicalPages_zero start (h.hint_eq ▸ Nat.zero_le start)
      | succ pages =>
          exact absurd (hfreed _ rfl start
            ⟨le_refl start, Nat.lt_add_of_pos_right (Nat.succ_pos pages)⟩) id

/-- Without frames, a database stays as `Init` left it. -/
theorem Barren.reaches {db s : PageFrameDatabase} (h : db.Barren) {live : Set Nat}
    (hreach : Reaches allocator found Typed db ∅ s live) : s = db ∧ live = ∅ := by
  induction hreach with
  | start => exact ⟨rfl, rfl⟩
  | @call s live r _ _ hfreed ih =>
      obtain ⟨rfl, rfl⟩ := ih
      exact ⟨h.call hfreed, by rw [h.found_eq, liveAfter_empty]⟩

theorem cleared_barren {db : PageFrameDatabase} {memSize : Nat} (hzero : sizeToPages memSize = 0)
    (hmap : ∀ k, k < 2 ^ 31 → db.pageFrameMap k ≠ pageFrameFree) :
    (db.cleared memSize).Barren := by
  refine ⟨hzero, rfl, ?_⟩
  intro k hk
  simp only [cleared, hzero]
  rw [memset_outside _ _ (.inr (Nat.zero_le k))]
  exact hmap k hk

/-- Without frames the directory gets none. -/
theorem init_of_zero (db : PageFrameDatabase) {memSize : Nat} (hzero : sizeToPages memSize = 0) :
    (db.init memSize).2 = db.cleared memSize ∧ db.directoryFrames memSize = ∅ := by
  have hnone := searchPage_of_zero (db.cleared memSize) hzero
  refine ⟨?_, ?_⟩
  · rw [init, allocPhysicalPage_eq_grant, hnone, Option.map_none, grant]
  · rw [directoryFrames, found, hnone, Option.map_none, liveAfter_empty]

/-- The search for one frame reads behind the empty map. -/
theorem found_of_zeroByte (db : PageFrameDatabase) (hmax : db.pageFrameMax = 0)
    (hhint : db.nextFreePageFrame = 0) {k : Nat} (hk : k < 2 ^ 31)
    (hfree : db.pageFrameMap k = pageFrameFree) : ∃ run, db.found (.allocPages 1) = some run := by
  have hstart : toInt32 (db.nextFreePageFrame : Int) = ((0 : Nat) : Int) := by
    rw [hhint]
    exact toInt32_small (by decide : 0 < 2 ^ 31)
  have hpasses : k < 0 + intPasses ((0 + 2 ^ 64 - 1) % 2 ^ 64) := by
    rw [Nat.zero_add, intPasses]
    exact lt_min (by omega) hk
  have hsome := searchPages_some 0 hfree hk (by omega : k < (0 + 2 ^ 64 - 1) % 2 ^ 64)
    (Nat.zero_le k) hpasses
  obtain ⟨run, hrun⟩ := Option.ne_none_iff_exists'.mp hsome
  refine ⟨⟨toUInt64 run.1, 1⟩, ?_⟩
  rw [found, searchRun, hstart, hmax, hrun, Option.map_some]

/-- `Init` and all later calls respect the range for no memory size but those whose page
count wraps to 0, and then only as long as no zero byte is read behind the empty map. -/
theorem range_respected_iff (db : PageFrameDatabase) (memSize : Nat) (hlow : mb 4 < memSize)
    (hsize : memSize < 2 ^ 64) :
    db.RespectsRange memSize ↔
      2 ^ 64 ≤ memSize + 4095 ∧ ∀ k, k < 2 ^ 31 → db.pageFrameMap k ≠ pageFrameFree := by
  rw [← sizeToPages_eq_zero_iff hlow hsize]
  constructor
  · rintro ⟨hinit, hruns⟩
    have hzero : sizeToPages memSize = 0 := by
      by_contra hne
      exact not_inRange_cleared (Nat.pos_of_ne_zero hne) hinit
    refine ⟨hzero, ?_⟩
    intro k hk hfree
    obtain ⟨hinit', hlive⟩ := init_of_zero db hzero
    have hcleared : (db.cleared memSize).pageFrameMap k = pageFrameFree := by
      simp only [cleared, hzero]
      rw [memset_outside _ _ (.inr (Nat.zero_le k))]
      exact hfree
    obtain ⟨run, hrun⟩ := found_of_zeroByte (db.cleared memSize) hzero rfl hk hcleared
    have htyped : Typed (.allocPages 1) := by
      intro pages hpages
      cases hpages
      decide
    have hstart := hruns _ _ (.allocPages 1) .start htyped
    rw [hinit'] at hstart
    have hbelow : run.start < sizeToPages memSize := (hstart run hrun).2.2
    omega
  · rintro ⟨hzero, hmap⟩
    have hbarren := cleared_barren hzero hmap
    refine ⟨fun run hrun => ?_, fun s live r hreach _ run hrun => ?_⟩
    · rw [hbarren.found_eq] at hrun
      cases hrun
    · obtain ⟨hinit, hlive⟩ := init_of_zero db hzero
      rw [hinit, hlive] at hreach
      obtain ⟨rfl, -⟩ := hbarren.reaches hreach
      rw [hbarren.found_eq] at hrun
      cases hrun

/-- A guest of 256 MB. -/
theorem range_respected_iff_256mb :
    (new fun _ => 0).RespectsRange (mb 256) ↔
      2 ^ 64 ≤ mb 256 + 4095 ∧ ∀ k, k < 2 ^ 31 → (new fun _ => 0).pageFrameMap k ≠ pageFrameFree :=
  range_respected_iff (new fun _ => 0) (mb 256) (by decide) (by decide)

/-- There the directory is put into frame 0, below the minimum, at address 0. -/
theorem init_grants_frame_zero :
    ¬ ∀ (db : PageFrameDatabase) (memSize : Nat), mb 4 < memSize → memSize < 2 ^ 64 →
      db.RespectsRange memSize := by
  intro h
  exact not_inRange_cleared (by decide) (h (new fun _ => 0) (mb 256) (by decide) (by decide)).1

end ShellcodeVM.VM.PageFrameDatabase
