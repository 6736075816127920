import ShellcodeVM.Lib.RunSearch
import ShellcodeVM.GuestOS.PagerGrants

/-!
`PAGER::alloc_physical_pages` on databases of any content, with 32-bit counters
where the host's copy has `int`s.
-/
namespace ShellcodeVM.GuestOS.Pager
open Machine Frames

/-- Frame `i` is free in a database. -/
def IsFree (database : Memory) (i : Nat) : Prop := database i = pageFree

instance (database : Memory) (i : Nat) : Decidable (IsFree database i) :=
  inferInstanceAs (Decidable (_ = _))

/-- The indices that `freeRunEnd` reads. -/
def freeRunReads (database : Memory) : Nat → Nat → List Nat
  | 0, _ => []
  | n + 1, j => j :: if database j = pageFree then freeRunReads database n (j + 1) else []

/-- The indices that `searchPages` reads. -/
def searchReads (database : Memory) (pages max : Nat) : Nat → Nat → List Nat
  | 0, _ => []
  | n + 1, i =>
      i ::
        if database i = pageFree then
          let runLimit := min ((i + pages) % 2 ^ 32) max
          freeRunReads database (runLimit - (i + 1)) (i + 1) ++
            if (i + pages) % 2 ^ 32 ≠ 0 then [] else searchReads database pages max n (i + 1)
        else searchReads database pages max n (i + 1)

/-- The indices that a call reads once the database is in use. -/
def allocReads (database : Memory) (p : Pager) (pages : Nat) : List Nat :=
  searchReads database pages p.pageFrameMax
    ((p.pageFrameMax + 2 ^ 32 - pages) % 2 ^ 32 - p.nextFreePageFrame) p.nextFreePageFrame

theorem freeRunReads_lt {database : Memory} {n j : Nat} :
    ∀ k ∈ freeRunReads database n j, k < j + n := by
  induction n generalizing j with
  | zero => exact fun k hk => absurd hk List.not_mem_nil
  | succ n ih =>
      intro k hk
      rw [freeRunReads] at hk
      cases hk with
      | head => omega
      | tail _ hk =>
          split_ifs at hk with hfree
          · have := ih k hk
            omega
          · cases hk

/-- The search depends on nothing but what it reads. -/
theorem searchPages_congr {database database' : Memory} {pages max n i : Nat}
    (h : ∀ k ∈ searchReads database pages max n i, database k = database' k) :
    searchPages database pages max n i = searchPages database' pages max n i := by
  induction n generalizing i with
  | zero => rfl
  | succ n ih =>
      rw [searchReads] at h
      rw [searchPages, searchPages, ← h _ List.mem_cons_self]
      have hrest := fun k hk => h k (List.mem_cons_of_mem _ hk)
      by_cases hfree : database i = pageFree
      · simp only [if_pos hfree] at hrest ⊢
        by_cases haccept : (i + pages) % 2 ^ 32 ≠ 0
        · rw [if_pos haccept, if_pos haccept]
        · rw [if_neg haccept] at hrest ⊢
          rw [if_neg haccept]
          exact ih fun k hk => hrest k (List.mem_append_right _ hk)
      · simp only [if_neg hfree] at hrest ⊢
        exact ih hrest

section Scan
variable (database : Memory) (pages max : Nat)

theorem searchPages_pass {i : Nat} (hmax : i < max) (n : Nat) :
    ScanPass (searchPages database pages max) (searchReads database pages max)
      (Accepted (IsFree database) pages) (fun f => (f, (f + pages) % 2 ^ 32)) max i n := by
  have hinner : ∀ k ∈ i :: freeRunReads database
      (min ((i + pages) % 2 ^ 32) max - (i + 1)) (i + 1), k < max := by
    intro k hk
    cases hk with
    | head => exact hmax
    | tail _ hk =>
        cases hn : min ((i + pages) % 2 ^ 32) max - (i + 1) with
        | zero =>
            rw [hn] at hk
            cases hk
        | succ m =>
            have := freeRunReads_lt k hk
            omega
  unfold ScanPass
  rw [searchPages, searchReads]
  by_cases hfree : database i = pageFree
  · simp only [if_pos hfree]
    by_cases haccept : (i + pages) % 2 ^ 32 ≠ 0
    · refine .inl ⟨⟨hfree, haccept⟩, by rw [if_pos haccept], ?_⟩
      rw [if_pos haccept, List.append_nil]
      exact hinner
    · refine .inr ⟨fun h => haccept h.2, by rw [if_neg haccept], ?_⟩
      rw [if_neg haccept]
      exact ⟨_, hinner, rfl⟩
  · simp only [if_neg hfree]
    refine .inr ⟨fun h => hfree h.1, trivial, [i], ?_, rfl⟩
    intro k hk
    rw [List.mem_singleton.mp hk]
    exact hmax

end Scan

/-! ### The call -/

/-- Addresses are exact for the frames whose address fits. -/
theorem address_eq_iff (f s : Nat) :
    f * pageSize % 2 ^ 32 = 4096 * s ↔ f % 2 ^ 20 = s ∧ s < reach := by
  rw [reach, pageSize]
  omega

theorem reach_bounds : 0 < reach ∧ reach ≤ 2 ^ 20 := by
  rw [reach]
  omega

theorem hint_eq_iff (p : Pager) (next : Nat) :
    { p with nextFreePageFrame := next } = p ↔ next = p.nextFreePageFrame := by
  constructor
  · intro h
    exact congrArg nextFreePageFrame h
  · rintro rfl
    rfl

variable {database : Memory} {p : Pager} {pages : Nat} (husable : p.databaseUsable = true)
include husable

theorem allocPhysicalPages_within (hpos : 1 ≤ pages) (hmax : p.pageFrameMax < 2 ^ 32)
    (hle : pages ≤ p.pageFrameMax) :
    FindsRun (IsFree database) p.nextFreePageFrame p.pageFrameMax pages
        (p.allocPhysicalPages database pages).1 ((p.allocPhysicalPages database pages).2 = p)
        (p.allocReads database pages) ↔
      StopsAtRun (IsFree database) reach p.nextFreePageFrame p.nextFreePageFrame
        p.pageFrameMax pages := by
  have hbound : (p.pageFrameMax + 2 ^ 32 - pages) % 2 ^ 32 = p.pageFrameMax - pages := by omega
  simp only [allocPhysicalPages, allocReads, hbound, if_pos husable]
  by_cases hpass : p.nextFreePageFrame < p.pageFrameMax - pages
  · have haccept : ∀ k, p.nextFreePageFrame ≤ k → k < p.pageFrameMax - pages →
        (Accepted (IsFree database) pages k ↔ IsFree database k) := by
      intro k _ hk
      exact and_iff_left (by omega)
    cases scansTo (fun i hi n => searchPages_pass database pages p.pageFrameMax
        (by omega : i < p.pageFrameMax) n) hpass.le
        (by omega : p.pageFrameMax - pages ≤
          p.pageFrameMax - pages - p.nextFreePageFrame + p.nextFreePageFrame) with
    | stops f hfirst hfound hreads =>
        have hend : (f + pages) % 2 ^ 32 = f + pages := by
          have hlt : f < p.pageFrameMax - pages := hfirst.2.1
          exact Nat.mod_eq_of_lt (by omega)
        rw [hfound, grant, hend]
        dsimp only
        exact findsRun_iff_of_stop (fun f => f * pageSize % 2 ^ 32) hpos (.inl rfl) reach_bounds
          (fun f s _ => address_eq_iff f s) hle (hfirst.congr haccept) rfl (hint_eq_iff p _)
    | goesOn m hm hnone hfound hreads hinside =>
        obtain rfl : m = 0 := by omega
        rw [hfound, searchPages, grant]
        refine findsRun_iff_of_end hpos (.inl rfl) hle (hnone.congr haccept) rfl rfl ?_
        intro k hk
        exact (hinside k hk).resolve_right List.not_mem_nil
  · have hzero : p.pageFrameMax - pages - p.nextFreePageFrame = 0 := by omega
    rw [hzero, searchPages, searchReads, grant]
    exact findsRun_iff_of_end hpos (.inl rfl) hle (fun k hk hlt => by omega) rfl rfl
      (fun k hk => absurd hk List.not_mem_nil)

theorem allocPhysicalPages_beyond (hpages : pages < 2 ^ 32) (hgt : p.pageFrameMax < pages) :
    FindsRun (IsFree database) p.nextFreePageFrame p.pageFrameMax pages
        (p.allocPhysicalPages database pages).1 ((p.allocPhysicalPages database pages).2 = p)
        (p.allocReads database pages) ↔
      StaysInside (IsFree database) (2 ^ 32) p.nextFreePageFrame p.nextFreePageFrame
        p.pageFrameMax pages := by
  obtain ⟨bound, hbound⟩ : ∃ bound, bound = (p.pageFrameMax + 2 ^ 32 - pages) % 2 ^ 32 := ⟨_, rfl⟩
  have hboundEq : bound + pages = 2 ^ 32 + p.pageFrameMax := by omega
  simp only [allocPhysicalPages, allocReads, ← hbound, if_pos husable]
  by_cases hpass : p.nextFreePageFrame < bound
  · by_cases hin : p.nextFreePageFrame < p.pageFrameMax
    · cases scansTo (fun i hi n => searchPages_pass database pages p.pageFrameMax hi n) hin.le
          (by omega : p.pageFrameMax ≤ bound - p.nextFreePageFrame + p.nextFreePageFrame) with
      | stops f hfirst hfound hreads =>
          rw [hfound, grant]
          dsimp only
          exact findsRun_iff_of_stopBeyond (fun f => f * pageSize % 2 ^ 32) reach_bounds
            (fun f s _ => address_eq_iff f s) hgt (by omega) hfirst rfl (hint_eq_iff p _) hreads
      | goesOn m hm hnone hfound hreads hinside =>
          obtain ⟨m, rfl⟩ : ∃ m', m = m' + 1 := ⟨m - 1, by omega⟩
          have hread : p.pageFrameMax ∈
              searchReads database pages p.pageFrameMax (m + 1) p.pageFrameMax := by
            rw [searchReads]
            exact List.mem_cons_self
          exact findsRun_iff_of_leave hgt (by omega) hnone ⟨_, hreads _ hread, le_refl _⟩
    · obtain ⟨n, hn⟩ : ∃ n, bound - p.nextFreePageFrame = n + 1 := ⟨_, (Nat.succ_pred_eq_of_pos (by omega)).symm⟩
      refine findsRun_iff_of_leave hgt (by omega) (fun k hk hlt => by omega)
        ⟨p.nextFreePageFrame, ?_, Nat.le_of_not_lt hin⟩
      rw [hn, searchReads]
      exact List.mem_cons_self
  · have hzero : bound - p.nextFreePageFrame = 0 := by omega
    rw [hzero, searchPages, searchReads, grant]
    exact findsRun_iff_of_noPass hgt (by omega) rfl rfl (fun k hk => absurd hk List.not_mem_nil)

theorem allocPhysicalPages_findsRun_iff (hpos : 1 ≤ pages) (hmax : p.pageFrameMax < 2 ^ 32)
    (hpages : pages < 2 ^ 32) :
    FindsRun (IsFree database) p.nextFreePageFrame p.pageFrameMax pages
        (p.allocPhysicalPages database pages).1 ((p.allocPhysicalPages database pages).2 = p)
        (p.allocReads database pages) ↔
      FindsWhen (IsFree database) (2 ^ 32) reach p.nextFreePageFrame p.nextFreePageFrame
        p.pageFrameMax pages := by
  rcases Nat.lt_or_ge p.pageFrameMax pages with hgt | hle
  · rw [findsWhen_of_gt hgt, allocPhysicalPages_beyond husable hpages hgt]
  · rw [findsWhen_of_le hle, allocPhysicalPages_within husable hpos hmax hle]

end ShellcodeVM.GuestOS.Pager
