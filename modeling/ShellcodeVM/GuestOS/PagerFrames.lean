import ShellcodeVM.GuestOS.PagerInit
import ShellcodeVM.GuestOS.PagerRefinement
import ShellcodeVM.GuestOS.PagerGrants

/-!
The two regimes of the `PAGER` allocator. Before the database exists, frames are
taken off the bottom of the range; afterwards a scan runs from a hint that
`create_database` sets to the new bottom. The invariant of the second regime is
that the hint never falls below that bottom, whatever the marks say.
-/
namespace ShellcodeVM.GuestOS.Pager
open Machine Frames
open Boot (pageWord)

/-! ### Before the database -/

inductive AllocCall where
  | page
  | pages (n : Nat)
deriving DecidableEq, Repr

def AllocCall.count : AllocCall → Nat
  | page => 1
  | pages n => n

def AllocCall.run (database : Memory) (p : Pager) : AllocCall → Nat × Pager
  | page => p.allocPhysicalPage database
  | pages n => p.allocPhysicalPages database n

/-- The frames granted at an address. -/
def runAt (address count : Nat) : Run := ⟨address / 4096, count⟩

/-- What a sequence of allocations grants. -/
def grantsOf (database : Memory) : Pager → List AllocCall → List Run
  | _, [] => []
  | p, c :: cs => runAt (c.run database p).1 c.count :: grantsOf database (c.run database p).2 cs

def afterCalls (database : Memory) (p : Pager) (cs : List AllocCall) : Pager :=
  cs.foldl (fun p c => (c.run database p).2) p

/-- No call of the sequence takes `m_page_frame_min` to frame 2^20. -/
def KeepsMinBelow (database : Memory) : Pager → List AllocCall → Prop
  | _, [] => True
  | p, c :: cs => p.pageFrameMin + c.count < 2 ^ 20 ∧ KeepsMinBelow database (c.run database p).2 cs

/-- The grants of `Init`: the page directory and the low page table. -/
def initGrants (database m : Memory) (p : Pager) (lo hi : Nat) : List Run :=
  let beforeDir := p.start lo hi
  let beforeTable := (newPageDir database m beforeDir).2
  [runAt (beforeDir.allocPhysicalPage database).1 1,
    runAt (beforeTable.allocPhysicalPage database).1 1]

/-- The allocation of `create_database`. -/
def databaseAlloc : AllocCall := .pages (sizeToPages (mb 1))

theorem AllocCall.run_bump (database : Memory) {p : Pager} (h : p.databaseUsable = false)
    (c : AllocCall) : c.run database p = p.bump c.count := by
  cases c with
  | page => exact allocPhysicalPage_bump database h
  | pages n =>
      rw [run, allocPhysicalPages, h]
      rfl

theorem runAt_frame (f n : Nat) : runAt (f * 4096) n = ⟨f, n⟩ := by
  rw [runAt, Nat.mul_div_cancel _ (by decide)]

theorem afterCalls_snoc (database : Memory) (p : Pager) (cs : List AllocCall) (c : AllocCall) :
    afterCalls database p (cs ++ [c]) = (c.run database (afterCalls database p cs)).2 := by
  rw [afterCalls, afterCalls, List.foldl_append, List.foldl_cons, List.foldl_nil]

theorem keepsMinBelow_append {database : Memory} {p : Pager} {cs ds : List AllocCall} :
    KeepsMinBelow database p (cs ++ ds) ↔
      KeepsMinBelow database p cs ∧ KeepsMinBelow database (afterCalls database p cs) ds := by
  induction cs generalizing p with
  | nil => exact ⟨fun h => ⟨trivial, h⟩, fun h => h.2⟩
  | cons c cs ih =>
      rw [List.cons_append, KeepsMinBelow, KeepsMinBelow, ih, and_assoc]
      rfl

/-- Runs between two frame numbers, no two of which share a frame. -/
structure Between (lo hi : Nat) (gs : List Run) : Prop where
  apart : gs.Pairwise Run.Apart
  bounds : ∀ g ∈ gs, lo ≤ g.start ∧ g.start + g.count ≤ hi

theorem Between.nil (lo : Nat) : Between lo lo [] := by
  refine ⟨List.Pairwise.nil, ?_⟩
  intro g hg
  cases hg

theorem Between.cons {lo mid hi : Nat} {g : Run} {gs : List Run} (hg : g.start = lo)
    (hend : g.start + g.count = mid) (h : Between mid hi gs) (hle : mid ≤ hi) :
    Between lo hi (g :: gs) := by
  refine ⟨List.pairwise_cons.mpr ⟨?_, h.apart⟩, ?_⟩
  · intro g' hg' f hf hf'
    have hlow := (h.bounds g' hg').1
    simp only [Run.Has] at hf hf'
    omega
  · intro g' hg'
    rcases List.mem_cons.mp hg' with rfl | hmem
    · omega
    · have hb := h.bounds g' hmem
      omega

/-- The sequence grants the frames from `m_page_frame_min` up, each to one call. -/
theorem grantsOf_between (database : Memory) {p : Pager} (husable : p.databaseUsable = false)
    {cs : List AllocCall} (hkeep : KeepsMinBelow database p cs) :
    Between p.pageFrameMin (afterCalls database p cs).pageFrameMin (grantsOf database p cs) ∧
      p.pageFrameMin ≤ (afterCalls database p cs).pageFrameMin ∧
      (afterCalls database p cs).databaseUsable = false ∧
      (afterCalls database p cs).pageFrameMax = p.pageFrameMax := by
  induction cs generalizing p with
  | nil => exact ⟨Between.nil _, le_refl _, husable, rfl⟩
  | cons c cs ih =>
      obtain ⟨hfit, hrest⟩ := hkeep
      have hrun := (c.run_bump database husable).trans (bump_eq (by omega) (by omega))
      rw [hrun] at hrest
      obtain ⟨hbetween, hle, husable', hmax⟩ := ih
        (p := { p with
                pageFrameMin := p.pageFrameMin + c.count
                nextFreePageFrame := p.pageFrameMin + c.count }) husable hrest
      rw [grantsOf, afterCalls, List.foldl_cons, hrun, runAt_frame]
      exact ⟨Between.cons rfl rfl hbetween hle, Nat.le_trans (Nat.le_add_right _ _) hle,
        husable', hmax⟩

/-! ### With the database -/

def Covered (gs : List Run) (f : Nat) : Prop := ∃ g ∈ gs, g.Has f

/-- Multi-page requests are for 1 to `m_page_frame_max` pages, and only frames
are freed that were granted since the database is in use. -/
def LegalCall (p : Pager) (gs : List Run) : Request → Prop
  | .allocPage => True
  | .allocPages n => 1 ≤ n ∧ n ≤ p.pageFrameMax
  | .freePage f => Covered gs f
  | .freePages s n => Covered gs s ∧ ∀ f, (⟨s, n⟩ : Run).Has f → Covered gs f

/-- The grants of a sequence of calls, each with the bytes that it finds in the
database. -/
def databaseGrants : Pager → List (Memory × Request) → List Run
  | _, [] => []
  | p, (database, r) :: cs =>
      (allocator.call (database, p) r).1.toList ++
        databaseGrants (allocator.call (database, p) r).2.2 cs

def LegalCalls : Pager → List Run → List (Memory × Request) → Prop
  | _, _, [] => True
  | p, gs, (database, r) :: cs =>
      LegalCall p gs r ∧ LegalCalls (allocator.call (database, p) r).2.2
        (gs ++ (allocator.call (database, p) r).1.toList) cs

/-- The hint and all grants stay at or above a base, the grants below the maximum. -/
structure AboveBase (base hi : Nat) (p : Pager) (gs : List Run) : Prop where
  usable : p.databaseUsable = true
  max : p.pageFrameMax = hi
  hint : base ≤ p.nextFreePageFrame
  grants : ∀ g ∈ gs, base ≤ g.start ∧ g.start + g.count ≤ hi

theorem firstFree_bounds {database : Memory} {n i k : Nat} (h : firstFree database n i = some k) :
    i ≤ k ∧ k < i + n := by
  induction n generalizing i with
  | zero => cases h
  | succ n ih =>
      rw [firstFree] at h
      split_ifs at h with hfree
      · cases h
        omega
      · have hk := ih h
        omega

/-- Whatever the inner loop finds, the run of the search ends `pages` after its start. -/
theorem searchPages_bounds {database : Memory} {pages max n i k j : Nat}
    (h : searchPages database pages max n i = some (k, j)) :
    i ≤ k ∧ k < i + n ∧ j = (k + pages) % 2 ^ 32 := by
  induction n generalizing i with
  | zero => cases h
  | succ n ih =>
      rw [searchPages] at h
      simp only at h
      split_ifs at h with hfree hend
      · cases h
        omega
      · have hk := ih h
        omega
      · have hk := ih h
        omega

theorem AboveBase.grant {base hi : Nat} {p : Pager} {gs : List Run} (h : AboveBase base hi p gs)
    (hhi : hi ≤ 2 ^ 20) {found : Option (Nat × Nat)} {n : Nat} (hpos : 1 ≤ n)
    (hfound : ∀ i j, found = some (i, j) → p.nextFreePageFrame ≤ i ∧ i + n ≤ hi ∧ i ≤ j) :
    AboveBase base hi (p.grant found).2 (gs ++ (granted (p.grant found).1 n).toList) := by
  have hbase := h.hint
  cases found with
  | none => exact ⟨h.usable, h.max, h.hint, by simpa [Pager.grant, granted] using h.grants⟩
  | some run =>
      obtain ⟨i, j⟩ := run
      obtain ⟨hi₁, hi₂, hi₃⟩ := hfound i j rfl
      have haddr : i * pageSize % 2 ^ 32 = i * 4096 := by
        rw [pageSize]
        exact Nat.mod_eq_of_lt (by omega)
      refine ⟨h.usable, h.max, Nat.le_trans hbase (Nat.le_trans hi₁ hi₃), ?_⟩
      intro g hg
      rcases List.mem_append.mp hg with hold | hnew
      · exact h.grants g hold
      · rw [Pager.grant, haddr] at hnew
        obtain ⟨_, rfl⟩ := mem_granted.mp (Option.mem_toList.mp hnew)
        simp only
        omega

theorem AboveBase.lower {base hi : Nat} {p : Pager} {gs : List Run} (h : AboveBase base hi p gs)
    {f : Nat} (hf : Covered gs f) :
    AboveBase base hi (if f < p.nextFreePageFrame then { p with nextFreePageFrame := f } else p)
      gs := by
  obtain ⟨g, hg, hlow, _⟩ := hf
  have hbase := (h.grants g hg).1
  rw [nextFreePageFrame_lower]
  exact ⟨h.usable, h.max, le_min h.hint (Nat.le_trans hbase hlow), h.grants⟩

/-- One call over the database, whatever bytes it finds there. -/
theorem AboveBase.call {base hi : Nat} {p : Pager} {gs : List Run} (h : AboveBase base hi p gs)
    (hhi : hi ≤ 2 ^ 20) (database : Memory) {r : Request} (hr : LegalCall p gs r) :
    AboveBase base hi (allocator.call (database, p) r).2.2
      (gs ++ (allocator.call (database, p) r).1.toList) := by
  have hmax := h.max
  cases r with
  | allocPage =>
      change AboveBase base hi (p.allocPhysicalPage database).2
        (gs ++ (granted (p.allocPhysicalPage database).1 1).toList)
      rw [allocPhysicalPage, if_pos h.usable]
      apply h.grant hhi (le_refl 1)
      intro i j hfound
      obtain ⟨k, hk, hij⟩ := Option.map_eq_some_iff.mp hfound
      have hb := firstFree_bounds hk
      cases hij
      omega
  | allocPages n =>
      obtain ⟨hpos, hn⟩ := hr
      change AboveBase base hi (p.allocPhysicalPages database n).2
        (gs ++ (granted (p.allocPhysicalPages database n).1 n).toList)
      rw [allocPhysicalPages, if_pos h.usable]
      apply h.grant hhi hpos
      intro i j hfound
      have hb := searchPages_bounds hfound
      omega
  | freePage f =>
      change AboveBase base hi (p.freePhysicalPage database f).2 (gs ++ [])
      rw [List.append_nil]
      exact h.lower hr
  | freePages s n =>
      change AboveBase base hi (p.freePhysicalPages database s n).2 (gs ++ [])
      rw [List.append_nil]
      exact h.lower hr.1

theorem databaseGrants_aboveBase {base hi : Nat} {p : Pager} {gs : List Run}
    (h : AboveBase base hi p gs) (hhi : hi ≤ 2 ^ 20) {cs : List (Memory × Request)}
    (hlegal : LegalCalls p gs cs) :
    ∀ g ∈ databaseGrants p cs, base ≤ g.start ∧ g.start + g.count ≤ hi := by
  induction cs generalizing p gs with
  | nil =>
      intro g hg
      cases hg
  | cons c cs ih =>
      obtain ⟨database, r⟩ := c
      have hnext := h.call hhi database hlegal.1
      intro g hg
      rcases List.mem_append.mp hg with hnow | hlater
      · exact hnext.grants g (List.mem_append_right gs hnow)
      · exact ih hnext hlegal.2 g hlater

/-- `create_database` moves the hint to the bottom that its own allocation leaves. -/
theorem createDatabase_aboveBase {database : Memory} {p p' : Pager} {u u' : Mmu}
    (h : p.createDatabase database u = some (p', u')) :
    AboveBase (databaseAlloc.run database p).2.pageFrameMin
      (databaseAlloc.run database p).2.pageFrameMax p' [] := by
  simp only [createDatabase, Option.bind_eq_bind, Option.bind_eq_some_iff, Option.pure_def,
    Option.some.injEq, Prod.mk.injEq] at h
  obtain ⟨_, _, _, _, hp, _⟩ := h
  rw [← hp]
  refine ⟨rfl, rfl, le_refl _, ?_⟩
  intro g hg
  cases hg

theorem initGrants_eq (database m : Memory) (p : Pager) {lo hi : Nat} (hlo : lo + 2 < 2 ^ 20) :
    initGrants database m p lo hi = [⟨lo, 1⟩, ⟨lo + 1, 1⟩] := by
  have hdir : (p.start lo hi).allocPhysicalPage database = (p.start lo hi).bump 1 :=
    allocPhysicalPage_bump database rfl
  have htable := newPageDir_eq database m (p := p.start lo hi) rfl (show lo < 2 ^ 20 by omega)
  rw [initGrants, hdir, htable]
  simp only
  rw [allocPhysicalPage_bump database (by rfl), bump_eq (show lo < 2 ^ 20 by omega) (by norm_num),
    bump_eq (show lo + 1 < 2 ^ 20 by omega) (by norm_num), runAt_frame]
  exact congrArg (fun g => [_, g]) (runAt_frame _ _)

theorem initGrants_between (database m : Memory) (p : Pager) {lo : Nat} (hi : Nat)
    (hlo : lo + 2 < 2 ^ 20) {mid : Nat} {gs : List Run} (h : Between (lo + 2) mid gs)
    (hmid : lo + 2 ≤ mid) : Between lo mid (initGrants database m p lo hi ++ gs) := by
  rw [initGrants_eq database m p hlo]
  exact Between.cons rfl rfl (Between.cons rfl rfl h hmid) (show lo + 1 ≤ mid by omega)

/-- The frames granted before the database is in use, those of `Init` and of
`create_database` included, are pairwise apart; no later grant shares a frame
with one of them, and every later grant lies below the maximum. -/
theorem grants_stay_reserved (database m : Memory) (p : Pager) {lo hi : Nat}
    (hhi : hi ≤ 2 ^ 20) (hlo : lo + 2 < 2 ^ 20) (calls : List AllocCall)
    (hkeep : KeepsMinBelow database (p.init database m lo hi).1 (calls ++ [databaseAlloc]))
    (u : Mmu) {p' : Pager} {u' : Mmu}
    (hcreate : (afterCalls database (p.init database m lo hi).1 calls).createDatabase database u =
      some (p', u'))
    (databaseCalls : List (Memory × Request)) (hlegal : LegalCalls p' [] databaseCalls) :
    let reserved := initGrants database m p lo hi ++
      grantsOf database (p.init database m lo hi).1 (calls ++ [databaseAlloc])
    reserved.Pairwise Run.Apart ∧
      ∀ g ∈ databaseGrants p' databaseCalls,
        (∀ r ∈ reserved, r.Apart g) ∧ g.start + g.count ≤ hi := by
  have hinit := congrArg Prod.fst (init_eq database m p hi (show lo + 1 < 2 ^ 20 by omega))
  have hmin : (p.init database m lo hi).1.pageFrameMin = lo + 2 := by rw [hinit]
  have hmax : (p.init database m lo hi).1.pageFrameMax = hi := by rw [hinit]
  have husable : (p.init database m lo hi).1.databaseUsable = false := by rw [hinit]
  obtain ⟨hbetween, hle, _, hmax'⟩ := grantsOf_between database husable hkeep
  rw [hmin] at hbetween hle
  have hreserved := initGrants_between database m p hi hlo hbetween hle
  have hbase := createDatabase_aboveBase hcreate
  rw [← afterCalls_snoc, hmax', hmax] at hbase
  refine ⟨hreserved.apart, ?_⟩
  intro g hg
  obtain ⟨hlow, hend⟩ := databaseGrants_aboveBase hbase hhi hlegal g hg
  refine ⟨?_, hend⟩
  intro r hr f hf hf'
  have hr' := (hreserved.bounds r hr).2
  simp only [Run.Has] at hf hf'
  omega

/-! ### Over the boot loader's tables -/

/-- The page words decide every translation through the preallocated tables. -/
theorem walk_congr_pageWord {m m' : Memory} (h : TablesInPlace m)
    (hword : ∀ k, k < 2 ^ 20 → pageWord m' k = pageWord m k) :
    TablesInPlace m' ∧
      ∀ v, v < 2 ^ 32 → walk m' pageDirPhysicalAddr v = walk m pageDirPhysicalAddr v := by
  have hdir (i : Nat) (hi : i < 1024) :
      dirEntry m' pageDirPhysicalAddr i = dirEntry m pageDirPhysicalAddr i := by
    rw [dirEntry_eq_pageWord, dirEntry_eq_pageWord, hword _ (by omega)]
  have htab : TablesInPlace m' := by
    intro i hi
    rw [hdir i hi]
    exact h i hi
  refine ⟨htab, ?_⟩
  intro v hv
  rw [walk_eq_pageMap htab hv, walk_eq_pageMap h hv, hdir _ (dirIndex_lt hv), pageMap, pageMap,
    hword _ (by omega)]

/-- Clearing mapped memory above the tables completes and leaves them alone. -/
theorem memset_completes {u : Mmu} (hdir : u.dir = pageDirPhysicalAddr) (h : TablesInPlace u.mem)
    (va : Nat) (b : UInt8) (n : Nat)
    (hmapped : ∀ i, i < n → va + i < 2 ^ 32 ∧
      ∃ t, walk u.mem pageDirPhysicalAddr (va + i) = some t ∧ 0x800000 ≤ t.address) :
    ∃ u', u.memset va b n = some u' ∧ u'.dir = pageDirPhysicalAddr ∧
      ∀ k, k < 2 ^ 20 → pageWord u'.mem k = pageWord u.mem k := by
  induction n with
  | zero => exact ⟨u, rfl, hdir, fun _ _ => rfl⟩
  | succ n ih =>
      obtain ⟨u', hrun, hdir', hword⟩ := ih fun i hi => hmapped i (by omega)
      obtain ⟨hlt, t, hwalk, habove⟩ := hmapped n (Nat.lt_succ_self n)
      rw [← (walk_congr_pageWord h hword).2 _ hlt, ← hdir'] at hwalk
      refine ⟨{ u' with mem := write8 u'.mem t.address b }, ?_, hdir', ?_⟩
      · rw [Mmu.memset, hrun, Option.bind_eq_bind, Option.bind_some, Mmu.store8, hwalk,
          Option.map_some]
      · intro k hk
        rw [← hword k hk]
        apply read32_congr
        intro i hi
        exact write8_of_ne _ _ _ (by omega)

/-- Where a page that a call maps leads to. -/
theorem walk_of_mapPages {m₀ m : Memory} (h : TablesInPlace m) {pa va size protect : Nat}
    (hpage : ∀ k, pageMap m k =
      PagerCall.apply (pageMap m₀) (.mapPages pa va size protect) k)
    {v : Nat} (hv : v < 2 ^ 32) (hcov : (PagerCall.mapPages pa va size protect).Covers (v / 4096)) :
    ∃ t, walk m pageDirPhysicalAddr v = some t ∧
      t.address = pa + 4096 * (v / 4096 - va / 4096) + v % 4096 := by
  rw [walk_eq_pageMap h hv, hpage, PagerCall.apply, if_pos hcov, PagerCall.mapping]
  exact ⟨_, rfl, rfl⟩

theorem covers_mapPages {pa va size protect k : Nat} :
    (PagerCall.mapPages pa va size protect).Covers k ↔
      va / 4096 ≤ k ∧ k < va / 4096 + sizeToPages size :=
  Iff.rfl

theorem createDatabase_eq {database : Memory} {p p₁ : Pager} {u u₁ u₂ : Mmu} {databasePA : Nat}
    (halloc : p.allocPhysicalPages database (sizeToPages (mb 1)) = (databasePA, p₁))
    (hstore : mapPages u databasePA pageFrameBase (mb 1) = some u₁)
    (hclear : u₁.memset pageFrameBase pageFree (mb 1) = some u₂) :
    p.createDatabase database u =
      some ({ p₁ with nextFreePageFrame := p₁.pageFrameMin, databaseUsable := true }, u₂) := by
  rw [createDatabase, halloc]
  simp only [Option.bind_eq_bind]
  rw [hstore, Option.bind_some, hclear, Option.bind_some]
  rfl

/-- On the tables of the boot loader, with the frames above them, `create_database`
completes. -/
theorem createDatabase_completes (database : Memory) {p : Pager}
    (husable : p.databaseUsable = false) (hlow : 0x800 ≤ p.pageFrameMin)
    (hfit : p.pageFrameMin + 256 < 2 ^ 20) {u : Mmu} (hdir : u.dir = pageDirPhysicalAddr)
    (h : TablesInPlace u.mem) : ∃ p' u', p.createDatabase database u = some (p', u') := by
  have hpages : sizeToPages (mb 1) = 256 := by decide
  have hsize : mb 1 = 0x100000 := by decide
  have hbase : pageFrameBase = 0xC0400000 := rfl
  have halloc : p.allocPhysicalPages database (sizeToPages (mb 1)) = p.bump 256 := by
    rw [hpages]
    exact AllocCall.run_bump database husable (.pages 256)
  have hlegal : (PagerCall.mapPages (p.pageFrameMin * 4096) pageFrameBase (mb 1)
      (ptPresent ||| ptWritable)).Legal :=
    ⟨by omega, by decide, by decide, by decide, by omega, by decide, .inr (.inr (by decide))⟩
  obtain ⟨u₁, hmap, hdir₁, htab₁, _, _, hpage⟩ := run_refines hlegal hdir h
  have hmapped (i : Nat) (hi : i < mb 1) : pageFrameBase + i < 2 ^ 32 ∧
      ∃ t, walk u₁.mem pageDirPhysicalAddr (pageFrameBase + i) = some t ∧ 0x800000 ≤ t.address := by
    have hv : pageFrameBase + i < 2 ^ 32 := by omega
    obtain ⟨t, hwalk, haddr⟩ := walk_of_mapPages htab₁ hpage hv
      (covers_mapPages.mpr ⟨by omega, by omega⟩)
    refine ⟨hv, t, hwalk, ?_⟩
    omega
  obtain ⟨u₂, hclear, _⟩ := memset_completes hdir₁ htab₁ pageFrameBase pageFree (mb 1) hmapped
  exact ⟨_, u₂, createDatabase_eq (halloc.trans (bump_eq (by omega) (by norm_num))) hmap hclear⟩

/-- Frames from 0x800 on, the boot loader's tables, four frames before the
database and two allocations after it. -/
theorem grants_stay_reserved_onBootTables :
    ∃ p' u', (afterCalls (fun _ => 0xff) (new.init (fun _ => 0xff) (fun _ => 0) 0x800 0x6400).1
        [.page, .pages 3]).createDatabase (fun _ => 0xff)
          ⟨Boot.initPageTable fun _ => 0, pageDirPhysicalAddr, []⟩ = some (p', u') ∧
      ∀ g ∈ databaseGrants p' [(fun _ => 0, .allocPages 2), (fun _ => 0xff, .allocPage)],
        (∀ r ∈ initGrants (fun _ => 0xff) (fun _ => 0) new 0x800 0x6400 ++
          grantsOf (fun _ => 0xff) (new.init (fun _ => 0xff) (fun _ => 0) 0x800 0x6400).1
            ([.page, .pages 3] ++ [databaseAlloc]), r.Apart g) ∧ g.start + g.count ≤ 0x6400 := by
  have hinit := congrArg Prod.fst (init_eq (fun _ => 0xff) (fun _ => 0) new 0x6400
    (show 0x800 + 1 < 2 ^ 20 by norm_num))
  have hkeep : KeepsMinBelow (fun _ => 0xff)
      (new.init (fun _ => 0xff) (fun _ => 0) 0x800 0x6400).1
      ([.page, .pages 3] ++ [databaseAlloc]) := by
    rw [hinit]
    refine ⟨by decide, by decide, by decide, trivial⟩
  obtain ⟨hcalls, hdatabase⟩ := keepsMinBelow_append.mp hkeep
  obtain ⟨_, hmin, husable, _⟩ := grantsOf_between _ (by rw [hinit]) hcalls
  obtain ⟨_, _, _, hlast⟩ := grantsOf_between _ (by rw [hinit]) hkeep
  have hlow : (new.init (fun _ => 0xff) (fun _ => 0) 0x800 0x6400).1.pageFrameMin = 0x802 := by
    rw [hinit]
  have htables := tablesInPlace_initPageTable fun _ => 0
  obtain ⟨p', u', hcreate⟩ := createDatabase_completes (fun _ => 0xff)
    (p := afterCalls (fun _ => 0xff) (new.init (fun _ => 0xff) (fun _ => 0) 0x800 0x6400).1
      [.page, .pages 3])
    husable (by omega) hdatabase.1
    (u := ⟨Boot.initPageTable fun _ => 0, pageDirPhysicalAddr, []⟩) rfl (by simp only; exact htables)
  have hmax : p'.pageFrameMax = 0x6400 := by
    rw [(createDatabase_aboveBase hcreate).max, ← afterCalls_snoc, hlast, hinit]
  have hlegal : LegalCalls p' [] [(fun _ => 0, .allocPages 2), (fun _ => 0xff, .allocPage)] :=
    ⟨⟨by norm_num, by rw [hmax]; norm_num⟩, trivial, trivial⟩
  refine ⟨p', u', hcreate, ?_⟩
  exact (grants_stay_reserved (fun _ => 0xff) (fun _ => 0) new (by norm_num) (by norm_num)
    [.page, .pages 3] hkeep _ hcreate _ hlegal).2

end ShellcodeVM.GuestOS.Pager
