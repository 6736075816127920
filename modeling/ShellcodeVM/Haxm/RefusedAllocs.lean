import ShellcodeVM.Haxm.FrameGrants

/-!
Allocations that return 0. `map_pages` takes 0 to mean that no frame was left, but it
is also the address of frame 0, and a run that starts there is marked before the
address is returned.
-/
namespace ShellcodeVM.Haxm
open Machine Frames

/-- The bytes of the database. -/
def SameDatabase (db db' : Memory) : Prop := ∀ k, k < frameDatabaseSize → db' k = db k

/-- The first `pages` bytes of a RAM are free marks. Behind the database they are whatever
the guest has there. -/
abbrev FreeFromZero (ramSize : Nat) (db : Memory) (pages : Nat) : Prop :=
  FreeRun (IsFree db) ramSize pages 0

theorem not_sameDatabase_memset {db : Memory} {pages : Nat} (hpos : 1 ≤ pages)
    (hfree : IsFree db 0) : ¬ SameDatabase db (memset db 0 pageUsed pages) := by
  intro h
  have hmark : memset db 0 pageUsed pages 0 = pageUsed :=
    memset_inside db pageUsed ⟨le_refl 0, by omega⟩
  rw [h 0 (by decide), hfree] at hmark
  exact absurd hmark (by decide)

/-- A run at frame 0 is found in the first pass. -/
theorem searchStep_zero {ramSize : Nat} {db : Memory} {pages : Nat} (hpos : 1 ≤ pages)
    (h : FreeFromZero ramSize db pages) :
    Ram.searchStep ramSize db pages 0 = .inr (.ok (some 0)) := by
  obtain ⟨hend, hfree⟩ := h
  have hlimit : 0 < frameDatabaseSize := by decide
  have hmark : db 0 = pageFree := hfree 0 (le_refl 0) (by omega)
  have hfirst : ∀ k, 0 ≤ k → k < 0 + 1 → IsFree db k := fun k _ hk => by
    rw [show k = 0 by omega]
    exact hmark
  rw [Ram.searchStep, if_pos hlimit, if_pos (by omega), if_pos hmark]
  obtain ⟨e, hle, hge, hscan, -, -, hstop⟩ | ⟨-, -, hlong⟩ :=
    scan_spec (n := pages - 1) (by omega : 0 + 1 ≤ ramSize) hfirst
  · have hall : e = pages := by
      by_contra hne
      obtain ⟨-, hused⟩ := hstop (by omega)
      exact hused (hfree (0 + e) (Nat.zero_le _) (by omega))
    rw [hscan]
    exact if_pos hall
  · omega

/-- What the search finds starts in the database, is free and is inside the RAM. -/
theorem ram_search_found {ramSize : Nat} {db : Memory} {pages : Nat}
    {fuel i : Nat} (h : iterate (Ram.searchStep ramSize db pages) fuel 0 = some (.ok (some i))) :
    i < frameDatabaseSize ∧ FreeRun (IsFree db) ramSize pages i := by
  have keeps : Keeps (Ram.searchStep ramSize db pages) (fun _ => True)
      (fun r => ∀ i, r = .ok (some i) →
        i < frameDatabaseSize ∧ FreeRun (IsFree db) ramSize pages i) := by
    intro q _
    rw [Ram.searchStep]
    by_cases hin : q < frameDatabaseSize
    · rw [if_pos hin]
      by_cases hram : q < ramSize
      · rw [if_pos hram]
        by_cases hmark : db q = pageFree
        · rw [if_pos hmark]
          have hfirst : ∀ k, q ≤ k → k < q + 1 → IsFree db k := fun k _ hk => by
            rw [show k = q by omega]
            exact hmark
          obtain ⟨e, -, -, hscan, hend, hfree, -⟩ | ⟨hscan, -, -⟩ :=
            scan_spec (n := pages - 1) hram hfirst
          · rw [hscan]
            by_cases hdone : e = pages
            · rw [hdone] at hend hfree
              refine .inr ⟨_, if_pos hdone, ?_⟩
              intro i hi
              cases hi
              exact ⟨hin, hend, hfree⟩
            · exact .inl ⟨_, if_neg hdone, trivial⟩
          · rw [hscan]
            exact .inr ⟨_, rfl, by rintro _ ⟨⟩⟩
        · exact .inl ⟨_, if_neg hmark, trivial⟩
      · exact .inr ⟨_, if_neg hram, by rintro _ ⟨⟩⟩
    · exact .inr ⟨_, if_neg hin, by rintro _ ⟨⟩⟩
  exact iterate_exit keeps trivial h i rfl

/-- A search that returns 0 found the run at frame 0, or nothing. -/
theorem alloc_zero_cases {ramSize : Nat} {db db' : Memory} {fuel pages : Nat}
    (h : Ram.allocPhysicalPages ramSize fuel db pages = some (.ok (0, db'))) :
    FreeFromZero ramSize db pages ∨ db' = db := by
  rw [Ram.allocPhysicalPages, Option.map_eq_some_iff] at h
  obtain ⟨found, hfound, hclaim⟩ := h
  cases found with
  | error fault => cases hclaim
  | ok found =>
      cases found with
      | none =>
          cases hclaim
          exact .inr rfl
      | some i =>
          obtain ⟨hi, hrun⟩ := ram_search_found hfound
          have hzero : pageAddress i = 0 := by
            simp only [Except.map, claim, Except.ok.injEq, Prod.mk.injEq] at hclaim
            exact hclaim.1
          rw [pageAddress_eq hi] at hzero
          obtain rfl : i = 0 := by omega
          exact .inl hrun

theorem alloc_unchanged_iff (ramSize : Nat) (db : Memory) {pages : Nat} (hpos : 1 ≤ pages) :
    (∀ fuel db', Ram.allocPhysicalPages ramSize fuel db pages = some (.ok (0, db')) →
      SameDatabase db db') ↔ ¬ FreeFromZero ramSize db pages := by
  constructor
  · intro h hrun
    have hcall : Ram.allocPhysicalPages ramSize 1 db pages =
        some (.ok (0, memset db 0 pageUsed pages)) := by
      rw [Ram.allocPhysicalPages, iterate_of_inr (searchStep_zero hpos hrun)]
      rfl
    exact not_sameDatabase_memset hpos (hrun.2 0 (le_refl 0) (by omega)) (h 1 _ hcall)
  · intro hnone fuel db' hcall
    rw [(alloc_zero_cases hcall).resolve_left hnone]
    exact fun _ _ => rfl

/-- The test of the fixed-address version on frames that are all free. -/
theorem allFree_of_free {ramSize : Nat} {db : Memory} {n start : Nat} (hend : start + n ≤ ramSize)
    (hfree : ∀ k, start ≤ k → k < start + n → IsFree db k) :
    Ram.allFree ramSize db n start = .ok true := by
  induction n generalizing start with
  | zero => rfl
  | succ n ih =>
      have hin : (0 : Int) ≤ start ∧ (start : Int) < ramSize := by omega
      have hmark : db start = pageFree := hfree start (le_refl start) (by omega)
      rw [Ram.allFree, if_pos hin, Int.toNat_natCast, if_neg (not_not.mpr hmark)]
      exact @ih (start + 1) (by omega) fun k hk hlt => hfree k (by omega) (by omega)

theorem allocAt_unchanged_iff (ramSize : Nat) (db : Memory) {pages : Nat} (hpos : 1 ≤ pages)
    (addr : Nat) :
    (∀ db', Ram.allocPhysicalPagesAt ramSize db addr pages = .ok (0, db') →
      SameDatabase db db') ↔ ¬ (addr = 0 ∧ FreeFromZero ramSize db pages) := by
  constructor
  · rintro h ⟨rfl, hend, hfree⟩
    have htest : Ram.allFree ramSize db pages (pageIndex 0) = .ok true :=
      allFree_of_free hend hfree
    have hcall : Ram.allocPhysicalPagesAt ramSize db 0 pages =
        .ok (0, memset db 0 pageUsed pages) := by
      rw [Ram.allocPhysicalPagesAt, htest]
      rfl
    exact not_sameDatabase_memset hpos (hfree 0 (le_refl 0) (by omega)) (h _ hcall)
  · intro hnot db' hcall
    cases htest : Ram.allFree ramSize db pages (pageIndex addr) with
    | error fault =>
        simp only [Ram.allocPhysicalPagesAt, htest] at hcall
        cases hcall
    | ok allFree =>
        simp only [Ram.allocPhysicalPagesAt, htest] at hcall
        cases allFree with
        | false =>
            cases hcall
            exact fun _ _ => rfl
        | true =>
            -- the run was marked, so the address returned is the one asked for
            cases hcall
            have hspec := allFree_spec htest
            refine absurd ⟨rfl, ?_, ?_⟩ hnot
            · have hlast := (hspec (pages - 1) (by omega)).2.1
              change (0 : Int) + (pages - 1 : Nat) < ramSize at hlast
              omega
            · intro k _ hk
              have hmark := (hspec k (by omega)).2.2
              change db ((0 : Int) + k).toNat = pageFree at hmark
              rwa [zero_add, Int.toNat_natCast] at hmark

/-- In a RAM of any size, an allocation that returns 0 leaves every database as it was exactly
when the first bytes of the RAM are not that many free marks; the fixed-address one also when
frame 0 was not asked for. -/
theorem refused_alloc_unchanged_iff (ramSize : Nat) (db : Memory) (pages : Nat) (hpos : 1 ≤ pages) :
    ((∀ fuel db', Ram.allocPhysicalPages ramSize fuel db pages = some (.ok (0, db')) →
        SameDatabase db db') ↔ ¬ FreeFromZero ramSize db pages) ∧
    ∀ addr, (∀ db', Ram.allocPhysicalPagesAt ramSize db addr pages = .ok (0, db') →
        SameDatabase db db') ↔ ¬ (addr = 0 ∧ FreeFromZero ramSize db pages) :=
  ⟨alloc_unchanged_iff ramSize db hpos, fun addr => allocAt_unchanged_iff ramSize db hpos addr⟩

/-- 64 MB whose first frame alone is used. -/
theorem refused_alloc_unchanged_firstUsed :
    ((∀ fuel db', Ram.allocPhysicalPages 0x4000000 fuel (write8 (fun _ => 0) 0 pageUsed) 0x100001 =
          some (.ok (0, db')) → SameDatabase (write8 (fun _ => 0) 0 pageUsed) db') ↔
        ¬ FreeFromZero 0x4000000 (write8 (fun _ => 0) 0 pageUsed) 0x100001) ∧
    ∀ addr, (∀ db', Ram.allocPhysicalPagesAt 0x4000000 (write8 (fun _ => 0) 0 pageUsed) addr
          0x100001 = .ok (0, db') → SameDatabase (write8 (fun _ => 0) 0 pageUsed) db') ↔
        ¬ (addr = 0 ∧ FreeFromZero 0x4000000 (write8 (fun _ => 0) 0 pageUsed) 0x100001) :=
  refused_alloc_unchanged_iff 0x4000000 (write8 (fun _ => 0) 0 pageUsed) 0x100001 (by decide)

/-- The first allocation on a fresh database reserves frame 0 and returns 0. -/
theorem fresh_alloc_reserves :
    (¬ ∀ (ramSize : Nat) (db : Memory) (pages fuel : Nat) (db' : Memory), 1 ≤ pages →
      Ram.allocPhysicalPages ramSize fuel db pages = some (.ok (0, db')) → SameDatabase db db') ∧
    ¬ ∀ (ramSize : Nat) (db : Memory) (pages addr : Nat) (db' : Memory), 1 ≤ pages → 4096 ∣ addr →
      Ram.allocPhysicalPagesAt ramSize db addr pages = .ok (0, db') → SameDatabase db db' := by
  have hfree : IsFree (fun _ => pageFree) 0 := rfl
  refine ⟨?_, ?_⟩
  · intro h
    exact not_sameDatabase_memset (le_refl 1) hfree
      (h 0x4000000 (fun _ => pageFree) 1 1 _ (le_refl 1) rfl)
  · intro h
    exact not_sameDatabase_memset (le_refl 1) hfree
      (h 0x4000000 (fun _ => pageFree) 1 0 _ (le_refl 1) (dvd_zero 4096) rfl)

end ShellcodeVM.Haxm
