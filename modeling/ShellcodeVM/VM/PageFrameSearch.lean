import ShellcodeVM.Lib.RunSearch
import ShellcodeVM.VM.PageFrameGrants

/-!
`page_frame_database::alloc_physical_pages` on maps of any content: the frame at which
the search stops, the indices that it reads, and the condition under which what it
returns is a free run.
-/
namespace ShellcodeVM.VM.PageFrameDatabase
open Machine Frames

/-- Frame `i` is free in a map. -/
def IsFree (map : Memory) (i : Nat) : Prop := map i = pageFrameFree

instance (map : Memory) (i : Nat) : Decidable (IsFree map i) :=
  inferInstanceAs (Decidable (_ = _))

/-- The indices that `freeRunEnd` reads. -/
def freeRunReads (map : Memory) (limit max : Nat) : Nat → Int → List Nat
  | 0, _ => []
  | n + 1, j =>
      if toUInt64 j < limit ∧ toUInt64 j < max then
        toUInt64 j ::
          if map (toUInt64 j) = pageFrameFree then freeRunReads map limit max n (toInt32 (j + 1))
          else []
      else []

/-- The indices that `searchPages` reads. -/
def searchReads (map : Memory) (pages max bound : Nat) : Nat → Int → List Nat
  | 0, _ => []
  | n + 1, i =>
      if toUInt64 i < bound then
        toUInt64 i ::
          if map (toUInt64 i) = pageFrameFree then
            let limit := (toUInt64 i + pages) % 2 ^ 64
            freeRunReads map limit max (intPasses max) (toInt32 (i + 1)) ++
              if toInt32 limit ≠ 0 then []
              else searchReads map pages max bound n (toInt32 (i + 1))
          else searchReads map pages max bound n (toInt32 (i + 1))
      else []

/-- The indices that a call reads. -/
def allocReads (db : PageFrameDatabase) (pages : Nat) : List Nat :=
  let bound := (db.pageFrameMax + 2 ^ 64 - pages) % 2 ^ 64
  searchReads db.pageFrameMap pages db.pageFrameMax bound (intPasses bound)
    (toInt32 db.nextFreePageFrame)

theorem freeRunReads_lt {map : Memory} {limit max n : Nat} {j : Int} :
    ∀ k ∈ freeRunReads map limit max n j, k < max := by
  induction n generalizing j with
  | zero => exact fun k hk => absurd hk List.not_mem_nil
  | succ n ih =>
      intro k hk
      rw [freeRunReads] at hk
      split_ifs at hk with hin hfree
      · cases hk with
        | head => exact hin.2
        | tail _ hk => exact ih k hk
      · rw [List.mem_singleton.mp hk]
        exact hin.2
      · cases hk

/-- The search depends on nothing but what it reads. -/
theorem searchPages_congr {map map' : Memory} {pages max bound n : Nat} {i : Int}
    (h : ∀ k ∈ searchReads map pages max bound n i, map k = map' k) :
    searchPages map pages max bound n i = searchPages map' pages max bound n i := by
  induction n generalizing i with
  | zero => rfl
  | succ n ih =>
      rw [searchReads] at h
      rw [searchPages, searchPages]
      by_cases hpass : toUInt64 i < bound
      · rw [if_pos hpass] at h
        rw [if_pos hpass, if_pos hpass, ← h _ List.mem_cons_self]
        have hrest := fun k hk => h k (List.mem_cons_of_mem _ hk)
        by_cases hfree : map (toUInt64 i) = pageFrameFree
        · simp only [if_pos hfree] at hrest ⊢
          by_cases haccept : toInt32 ((toUInt64 i + pages) % 2 ^ 64 : Nat) ≠ 0
          · rw [if_pos haccept, if_pos haccept]
          · rw [if_neg haccept] at hrest ⊢
            rw [if_neg haccept]
            exact ih fun k hk => hrest k (List.mem_append_right _ hk)
        · simp only [if_neg hfree] at hrest ⊢
          exact ih hrest
      · rw [if_neg hpass, if_neg hpass]

theorem toInt32_eq_zero_iff (x : Nat) : toInt32 x = 0 ↔ x % 2 ^ 32 = 0 := by
  rw [toInt32, Int.bmod_def]
  split_ifs <;> omega

section Scan
variable (map : Memory) (pages max : Nat) {bound : Nat}

/-- A search that makes no pass reads nothing. -/
theorem searchPages_noPass {i : Int} (h : bound ≤ toUInt64 i) (n : Nat) :
    searchPages map pages max bound n i = none ∧ searchReads map pages max bound n i = [] := by
  have hno : ¬ toUInt64 i < bound := Nat.not_lt.mpr h
  cases n with
  | zero => exact ⟨rfl, rfl⟩
  | succ n => exact ⟨by rw [searchPages, if_neg hno], by rw [searchReads, if_neg hno]⟩

/-- A pass reads its index. -/
theorem mem_searchReads {i : Int} (h : toUInt64 i < bound) (n : Nat) :
    toUInt64 i ∈ searchReads map pages max bound (n + 1) i := by
  rw [searchReads, if_pos h]
  exact List.mem_cons_self

theorem accepted_iff (i : Nat) :
    Accepted (IsFree map) pages i ↔
      map i = pageFrameFree ∧ toInt32 ((i + pages) % 2 ^ 64 : Nat) ≠ 0 := by
  have hmod : (i + pages) % 2 ^ 64 % 2 ^ 32 = (i + pages) % 2 ^ 32 := by omega
  simp only [Accepted, IsFree, ne_eq, toInt32_eq_zero_iff, hmod]

theorem searchPages_pass {i : Nat} (hbound : i < bound) (hmax : i < max) (hint : i + 1 < 2 ^ 31)
    (n : Nat) :
    ScanPass (fun n i => searchPages map pages max bound n (i : Nat))
      (fun n i => searchReads map pages max bound n (i : Nat)) (Accepted (IsFree map) pages)
      (fun f => ((f : Int), toInt32 ((f + pages) % 2 ^ 64 : Nat))) max i n := by
  unfold ScanPass
  beta_reduce
  have hidx : toUInt64 (i : Int) = i := toUInt64_small (by omega)
  have hnext : toInt32 ((i : Int) + 1) = (i + 1 : Nat) := toInt32_small hint
  rw [searchPages, searchReads, hidx, if_pos hbound, if_pos hbound, hnext, accepted_iff]
  by_cases hfree : map i = pageFrameFree
  · simp only [if_pos hfree]
    by_cases haccept : toInt32 ((i + pages) % 2 ^ 64 : Nat) ≠ 0
    · refine .inl ⟨⟨hfree, haccept⟩, by rw [if_pos haccept], ?_⟩
      intro k hk
      rw [if_pos haccept, List.append_nil] at hk
      cases hk with
      | head => exact hmax
      | tail _ hk => exact freeRunReads_lt k hk
    · refine .inr ⟨fun h => haccept h.2, by rw [if_neg haccept], ?_⟩
      rw [if_neg haccept]
      refine ⟨_ :: freeRunReads map _ max _ _, ?_, rfl⟩
      intro k hk
      cases hk with
      | head => exact hmax
      | tail _ hk => exact freeRunReads_lt k hk
  · simp only [if_neg hfree]
    refine .inr ⟨fun h => hfree h.1, trivial, [i], ?_, rfl⟩
    intro k hk
    rw [List.mem_singleton.mp hk]
    exact hmax

theorem scansTo {lim : Nat} (hbound : lim ≤ bound) (hmax : lim ≤ max) (hint : lim < 2 ^ 31)
    {i n : Nat} (hi : i ≤ lim) (hn : lim ≤ n + i) :
    ScansTo (fun n i => searchPages map pages max bound n (i : Nat))
      (fun n i => searchReads map pages max bound n (i : Nat)) (Accepted (IsFree map) pages)
      (fun f => ((f : Int), toInt32 ((f + pages) % 2 ^ 64 : Nat))) max lim i n := by
  refine Frames.scansTo ?_ hi hn
  intro i hi n
  exact searchPages_pass map pages max (hi.trans_le hbound) (hi.trans_le hmax) (by omega) n

end Scan

/-! ### The call -/

/-- The first index that the search looks at: an `int`, compared as a `uint64_t`. -/
def searchStart (db : PageFrameDatabase) : Nat := toUInt64 (toInt32 db.nextFreePageFrame)

theorem toInt32_eq_toUInt64 {x : Int} (h : toUInt64 (toInt32 x) < 2 ^ 31) :
    toInt32 x = toUInt64 (toInt32 x) := by
  have hlo : -2 ^ 31 ≤ toInt32 x := by
    rw [toInt32]
    have := Int.le_bmod (x := x) (m := 2 ^ 32) (by decide)
    omega
  have hhi : toInt32 x < 2 ^ 31 := by
    rw [toInt32]
    have := Int.bmod_lt (x := x) (m := 2 ^ 32) (by decide)
    omega
  rw [toUInt64] at h ⊢
  omega

theorem searchStart_eq {db : PageFrameDatabase} (h : db.pageFrameMax < 2 ^ 31) :
    db.searchStart = db.nextFreePageFrame ∨ db.pageFrameMax ≤ db.nextFreePageFrame := by
  by_cases hlt : db.nextFreePageFrame < 2 ^ 31
  · left
    rw [searchStart, toInt32_small hlt, toUInt64_small (by omega)]
  · right
    omega

/-- A product of two `int`s is exact for the low frames, and names no frame otherwise. -/
theorem frameAddress_eq_iff (f : Nat) {s : Nat} (hs : s < 2 ^ 31) :
    frameAddress f = 4096 * s ↔ f % 2 ^ 20 = s ∧ s < reach := by
  rw [frameAddress, toUInt64, toInt32, Int.bmod_def, reach, pageSize]
  split_ifs <;> omega

theorem reach_bounds : 0 < reach ∧ reach ≤ 2 ^ 20 := by
  rw [reach]
  omega

theorem le_intPasses {bound n : Nat} (hbound : n ≤ bound) (hint : n ≤ 2 ^ 31) :
    n ≤ intPasses bound := by
  rw [intPasses]
  exact le_min hbound hint

theorem hint_eq_iff (db : PageFrameDatabase) (next : Nat) :
    { db with nextFreePageFrame := next } = db ↔ next = db.nextFreePageFrame := by
  constructor
  · intro h
    exact congrArg nextFreePageFrame h
  · rintro rfl
    rfl

/-- A hint that comes back to a non-negative `int` is its own low half. -/
theorem hint_returns_iff {next : Nat} (h : toUInt64 (toInt32 next) < 2 ^ 31) (x : Nat) :
    toUInt64 (toInt32 x) = next ↔ x % 2 ^ 32 = next := by
  simp only [toUInt64, toInt32, Int.bmod_def] at h ⊢
  constructor
  · intro heq
    split_ifs at h heq <;> omega
  · intro heq
    split_ifs at h ⊢ <;> omega

/-- A search for at most as many frames as there are. -/
theorem allocPhysicalPages_within {db : PageFrameDatabase} {pages : Nat} (hpos : 1 ≤ pages)
    (hmax : db.pageFrameMax < 2 ^ 31) (hle : pages ≤ db.pageFrameMax) :
    FindsRun (IsFree db.pageFrameMap) db.nextFreePageFrame db.pageFrameMax pages
        (db.allocPhysicalPages pages).1 ((db.allocPhysicalPages pages).2 = db)
        (db.allocReads pages) ↔
      StopsAtRun (IsFree db.pageFrameMap) reach db.searchStart db.nextFreePageFrame
        db.pageFrameMax pages := by
  have hbound : (db.pageFrameMax + 2 ^ 64 - pages) % 2 ^ 64 = db.pageFrameMax - pages := by omega
  have hstart := searchStart_eq hmax
  have haddress : ∀ f s, s < db.pageFrameMax →
      (frameAddress (f : Nat) = 4096 * s ↔ f % 2 ^ 20 = s ∧ s < reach) :=
    fun f s hs => frameAddress_eq_iff f (hs.trans hmax)
  simp only [allocPhysicalPages, allocReads, hbound]
  by_cases hpass : db.searchStart < db.pageFrameMax - pages
  · have hidx : toInt32 (db.nextFreePageFrame : Int) = db.searchStart :=
      toInt32_eq_toUInt64 (by rw [searchStart] at hpass; omega)
    have haccept : ∀ k, db.searchStart ≤ k → k < db.pageFrameMax - pages →
        (Accepted (IsFree db.pageFrameMap) pages k ↔ IsFree db.pageFrameMap k) := by
      intro k _ hk
      exact and_iff_left (by omega)
    have hfuel : db.pageFrameMax - pages ≤
        intPasses (db.pageFrameMax - pages) + db.searchStart :=
      Nat.le_add_right_of_le (le_intPasses (le_refl _) (by omega))
    rw [hidx]
    cases scansTo db.pageFrameMap pages db.pageFrameMax (le_refl (db.pageFrameMax - pages))
        (Nat.sub_le _ _) (by omega) hpass.le hfuel with
    | stops f hfirst hfound hreads =>
        have hend : toUInt64 (toInt32 ((f + pages) % 2 ^ 64 : Nat)) = f + pages := by
          have hlt : f < db.pageFrameMax - pages := hfirst.2.1
          rw [Nat.mod_eq_of_lt (by omega), toInt32_small (by omega), toUInt64_small (by omega)]
        rw [hfound, grant, hend]
        dsimp only
        exact findsRun_iff_of_stop (fun f => frameAddress f) hpos hstart reach_bounds
          haddress hle (hfirst.congr haccept) rfl (hint_eq_iff db _)
    | goesOn m hm hnone hfound hreads hinside =>
        have hstop : db.pageFrameMax - pages ≤ toUInt64 ((db.pageFrameMax - pages : Nat) : Int) :=
          (toUInt64_small (by omega)).ge
        obtain ⟨hno, hempty⟩ := searchPages_noPass db.pageFrameMap pages
          db.pageFrameMax hstop m
        rw [hfound, hno, grant]
        refine findsRun_iff_of_end hpos hstart hle (hnone.congr haccept) rfl rfl ?_
        intro k hk
        rcases hinside k hk with hk | hk
        · exact hk
        · rw [hempty] at hk
          cases hk
  · obtain ⟨hno, hempty⟩ := searchPages_noPass db.pageFrameMap pages db.pageFrameMax
      (Nat.le_of_not_lt hpass) (intPasses (db.pageFrameMax - pages))
    rw [hno, hempty, grant]
    exact findsRun_iff_of_end hpos hstart hle (fun k hk hlt => by omega) rfl rfl
      (fun k hk => absurd hk List.not_mem_nil)

/-- A search for more frames than there are. -/
theorem allocPhysicalPages_beyond {db : PageFrameDatabase} {pages : Nat}
    (hmax : db.pageFrameMax < 2 ^ 31) (hpages : pages < 2 ^ 64) (hgt : db.pageFrameMax < pages) :
    FindsRun (IsFree db.pageFrameMap) db.nextFreePageFrame db.pageFrameMax pages
        (db.allocPhysicalPages pages).1 ((db.allocPhysicalPages pages).2 = db)
        (db.allocReads pages) ↔
      StaysInside (IsFree db.pageFrameMap) (2 ^ 64) db.searchStart db.nextFreePageFrame
        db.pageFrameMax pages := by
  obtain ⟨bound, hbound⟩ : ∃ bound, bound = (db.pageFrameMax + 2 ^ 64 - pages) % 2 ^ 64 := ⟨_, rfl⟩
  have hboundEq : bound + pages = 2 ^ 64 + db.pageFrameMax := by omega
  have haddress : ∀ f s, s < db.pageFrameMax →
      (frameAddress (f : Nat) = 4096 * s ↔ f % 2 ^ 20 = s ∧ s < reach) :=
    fun f s hs => frameAddress_eq_iff f (hs.trans hmax)
  have hfuel : db.pageFrameMax + 1 ≤ intPasses bound := le_intPasses (by omega) (by omega)
  simp only [allocPhysicalPages, allocReads, ← hbound]
  by_cases hpass : db.searchStart < bound
  · by_cases hin : db.searchStart < db.pageFrameMax
    · have hidx : toInt32 (db.nextFreePageFrame : Int) = db.searchStart :=
        toInt32_eq_toUInt64 (by rw [searchStart] at hin; omega)
      rw [hidx]
      cases scansTo db.pageFrameMap pages db.pageFrameMax
          (by omega : db.pageFrameMax ≤ bound) (le_refl _) hmax hin.le
          (by omega : db.pageFrameMax ≤ intPasses bound + db.searchStart) with
      | stops f hfirst hfound hreads =>
          rw [hfound, grant]
          dsimp only
          refine findsRun_iff_of_stopBeyond (fun f => frameAddress f) reach_bounds
            haddress hgt (by omega) hfirst rfl ?_ hreads
          have hmod : (f + pages) % 2 ^ 64 % 2 ^ 32 = (f + pages) % 2 ^ 32 := by omega
          rw [hint_eq_iff, hint_returns_iff (hin.trans hmax), hmod]
      | goesOn m hm hnone hfound hreads hinside =>
          obtain ⟨m, rfl⟩ : ∃ m', m = m' + 1 := ⟨m - 1, by omega⟩
          have hidx' : toUInt64 (db.pageFrameMax : Int) = db.pageFrameMax :=
            toUInt64_small (by omega)
          have hread : db.pageFrameMax ∈ searchReads db.pageFrameMap pages db.pageFrameMax bound
              (m + 1) db.pageFrameMax := by
            have hmem := mem_searchReads db.pageFrameMap pages db.pageFrameMax
              (by omega : toUInt64 (db.pageFrameMax : Int) < bound) m
            rwa [hidx'] at hmem
          exact findsRun_iff_of_leave hgt (by omega) hnone ⟨_, hreads _ hread, le_refl _⟩
    · obtain ⟨n, hn⟩ : ∃ n, intPasses bound = n + 1 := ⟨intPasses bound - 1, by omega⟩
      refine findsRun_iff_of_leave hgt (by omega) (fun k hk hlt => by omega)
        ⟨db.searchStart, ?_, Nat.le_of_not_lt hin⟩
      rw [hn]
      exact mem_searchReads _ _ _ hpass n
  · obtain ⟨hno, hempty⟩ := searchPages_noPass db.pageFrameMap pages db.pageFrameMax
      (Nat.le_of_not_lt hpass) (intPasses bound)
    rw [hno, hempty, grant]
    exact findsRun_iff_of_noPass hgt (by omega) rfl rfl (fun k hk => absurd hk List.not_mem_nil)

/-- In every state the search finds a free run, or refuses with nothing changed, exactly
when the first free frame that it meets is good. -/
theorem allocPhysicalPages_findsRun_iff {db : PageFrameDatabase} {pages : Nat} (hpos : 1 ≤ pages)
    (hmax : db.pageFrameMax < 2 ^ 31) (hpages : pages < 2 ^ 64) :
    FindsRun (IsFree db.pageFrameMap) db.nextFreePageFrame db.pageFrameMax pages
        (db.allocPhysicalPages pages).1 ((db.allocPhysicalPages pages).2 = db)
        (db.allocReads pages) ↔
      FindsWhen (IsFree db.pageFrameMap) (2 ^ 64) reach db.searchStart db.nextFreePageFrame
        db.pageFrameMax pages := by
  rcases Nat.lt_or_ge db.pageFrameMax pages with hgt | hle
  · rw [findsWhen_of_gt hgt, allocPhysicalPages_beyond hmax hpages hgt]
  · rw [findsWhen_of_le hle, allocPhysicalPages_within hpos hmax hle]

end ShellcodeVM.VM.PageFrameDatabase
