import ShellcodeVM.GuestOS.Kernel

/-!
Calls of the pager interleaved with what the rest of the guest does to memory. The page
tables are reachable through the window only, and as long as nobody else stores there the
translations are those of the calls alone.
-/
namespace ShellcodeVM.GuestOS
open Machine Boot

/-- The window of the page tables. -/
def InWindow (v : Nat) : Prop := 0xC0000000 ≤ v ∧ v < 0xC0400000

instance (v : Nat) : Decidable (InWindow v) := inferInstanceAs (Decidable (_ ∧ _))

/-- The preallocated tables in physical memory. -/
def InTables (x : Nat) : Prop := 0x400000 ≤ x ∧ x < 0x800000

instance (x : Nat) : Decidable (InTables x) := inferInstanceAs (Decidable (_ ∧ _))

inductive KernelStep where
  | call (c : PagerCall)
  | access (op : MemOp)
deriving DecidableEq, Repr

namespace KernelStep

/-- An access to a page that is not present faults and leaves no trace. -/
def next (u : Mmu) : KernelStep → Mmu
  | call c => (c.run u).getD u
  | access op => (op.run u).getD u

/-- Calls that map no frame of the tables, and stores outside the window. -/
def Legal : KernelStep → Prop
  | call (.mapPages pa va size protect) =>
      (PagerCall.mapPages pa va size protect).Legal ∧
        (pa + 4096 * sizeToPages size ≤ 0x400000 ∨ 0x800000 ≤ pa)
  | call (.unmapPages va size) => (PagerCall.unmapPages va size).Legal
  | access op => op.target < 2 ^ 32 ∧ ¬ InWindow op.target

def call? : KernelStep → Option PagerCall
  | call c => some c
  | access _ => none

end KernelStep

def runSteps (u : Mmu) (steps : List KernelStep) : Mmu := steps.foldl KernelStep.next u

@[simp] theorem runSteps_nil (u : Mmu) : runSteps u [] = u := rfl

@[simp] theorem runSteps_cons (u : Mmu) (s : KernelStep) (steps : List KernelStep) :
    runSteps u (s :: steps) = runSteps (s.next u) steps := rfl

/-- The directory is the one of the boot loader, and only the window leads to the tables. -/
structure TablesHidden (u : Mmu) : Prop where
  dir : u.dir = pageDirPhysicalAddr
  inPlace : TablesInPlace u.mem
  hidden : ∀ v, v < 2 ^ 32 → ¬ InWindow v → ∀ t, walk u.mem u.dir v = some t →
    ¬ InTables t.address

/-- `u'` has the tables of `u`. -/
structure SameTables (u u' : Mmu) : Prop where
  dir : u'.dir = u.dir
  bytes : ∀ x, InTables x → u'.mem x = u.mem x

section
variable {u u' : Mmu}

theorem SameTables.refl (u : Mmu) : SameTables u u := ⟨rfl, fun _ _ => rfl⟩

theorem SameTables.pageWord_eq (h : SameTables u u') {k : Nat} (hk : k < 2 ^ 20) :
    pageWord u'.mem k = pageWord u.mem k := by
  apply read32_congr
  intro i hi
  apply h.bytes
  simp only [InTables]
  omega

theorem SameTables.dirEntry_eq (h : SameTables u u') {i : Nat} (hi : i < 1024) :
    dirEntry u'.mem pageDirPhysicalAddr i = dirEntry u.mem pageDirPhysicalAddr i := by
  rw [dirEntry_eq_pageWord, dirEntry_eq_pageWord, h.pageWord_eq (by omega)]

theorem SameTables.pageMap_eq (h : SameTables u u') {k : Nat} (hk : k < 2 ^ 20) :
    pageMap u'.mem k = pageMap u.mem k := by
  simp only [pageMap, h.pageWord_eq hk]

theorem SameTables.tablesInPlace (h : SameTables u u') (htab : TablesInPlace u.mem) :
    TablesInPlace u'.mem := by
  intro i hi
  rw [h.dirEntry_eq hi]
  exact htab i hi

theorem SameTables.walk_eq (h : SameTables u u') (hdir : u.dir = pageDirPhysicalAddr)
    (htab : TablesInPlace u.mem) {v : Nat} (hv : v < 2 ^ 32) :
    walk u'.mem u'.dir v = walk u.mem u.dir v := by
  rw [h.dir, hdir, walk_eq_pageMap htab hv, walk_eq_pageMap (h.tablesInPlace htab) hv,
    h.pageMap_eq (by omega), h.dirEntry_eq (dirIndex_lt hv)]

theorem SameTables.tablesHidden (h : SameTables u u') (hu : TablesHidden u) : TablesHidden u' := by
  refine ⟨h.dir.trans hu.dir, h.tablesInPlace hu.inPlace, ?_⟩
  intro v hv hout t hwalk
  rw [h.walk_eq hu.dir hu.inPlace hv] at hwalk
  exact hu.hidden v hv hout t hwalk

/-! ### One step -/

/-- A store outside the window does not reach the tables. -/
theorem TablesHidden.access (h : TablesHidden u) {op : MemOp} (hlt : op.target < 2 ^ 32)
    (hout : ¬ InWindow op.target) : SameTables u ((KernelStep.access op).next u) := by
  rw [KernelStep.next]
  cases hrun : op.run u with
  | none => exact SameTables.refl u
  | some u' =>
      obtain ⟨hdir, t, hwalk, hsame⟩ := MemOp.run_spec hrun
      refine ⟨hdir, ?_⟩
      intro x hx
      apply hsame
      intro heq
      exact h.hidden _ hlt hout t hwalk (heq ▸ hx)

theorem KernelStep.Legal.call_legal {c : PagerCall} (h : (KernelStep.call c).Legal) : c.Legal := by
  cases c with
  | mapPages pa va size protect => exact h.1
  | unmapPages va size => exact h

/-- The pages that a legal call maps are not those of the tables. -/
theorem KernelStep.Legal.mapping_hidden {c : PagerCall} (h : (KernelStep.call c).Legal) {k : Nat}
    (hcov : c.Covers k) {e : PageMapping} (hmap : c.mapping k = some e) (o : Nat) (ho : o < 4096) :
    ¬ InTables (e.frame + o) := by
  cases c with
  | unmapPages va size => cases hmap
  | mapPages pa va size protect =>
      obtain ⟨⟨hpa, -⟩, hframes⟩ := h
      cases hmap
      simp only [PagerCall.Covers, PagerCall.virtualAddr, PagerCall.pages, PagerCall.size] at hcov
      simp only [InTables]
      omega

theorem TablesHidden.call (h : TablesHidden u) {c : PagerCall} (hc : (KernelStep.call c).Legal) :
    ∃ u', c.run u = some u' ∧ CallRefines c u u' ∧ TablesHidden u' := by
  obtain ⟨u', hrun, href⟩ := run_refines hc.call_legal h.dir h.inPlace
  refine ⟨u', hrun, href, href.dir, href.tables, ?_⟩
  intro v hv hout t hwalk
  rw [href.dir, walk_eq_pageMap href.tables hv, href.pages] at hwalk
  by_cases hcov : c.Covers (v / 4096)
  · rw [PagerCall.apply, if_pos hcov] at hwalk
    obtain ⟨e, hmap, rfl⟩ := Option.map_eq_some_iff.mp hwalk
    exact hc.mapping_hidden hcov hmap _ (Nat.mod_lt _ (by norm_num))
  · rw [PagerCall.apply, if_neg hcov] at hwalk
    obtain ⟨e, hmap, rfl⟩ := Option.map_eq_some_iff.mp hwalk
    refine h.hidden v hv hout ⟨e.frame + v % 4096, _, e.attr⟩ ?_
    rw [h.dir, walk_eq_pageMap h.inPlace hv, hmap, Option.map_some,
      href.entries _ (dirIndex_lt hv)]

end

/-! ### Runs -/

theorem foldl_apply_congr (calls : List PagerCall) {f g : PageMap} {k : Nat} (h : f k = g k) :
    calls.foldl PagerCall.apply f k = calls.foldl PagerCall.apply g k := by
  rw [foldl_apply, foldl_apply, h]

theorem TablesHidden.run {u : Mmu} (h : TablesHidden u) {steps : List KernelStep}
    (hsteps : ∀ s ∈ steps, s.Legal) :
    TablesHidden (runSteps u steps) ∧
      (∀ i, i < 1024 → dirEntry (runSteps u steps).mem pageDirPhysicalAddr i =
        dirEntry u.mem pageDirPhysicalAddr i) ∧
      ∀ k, k < 2 ^ 20 → pageMap (runSteps u steps).mem k =
        (steps.filterMap KernelStep.call?).foldl PagerCall.apply (pageMap u.mem) k := by
  induction steps generalizing u with
  | nil =>
      rw [runSteps_nil, List.filterMap_nil, List.foldl_nil]
      exact ⟨h, fun _ _ => rfl, fun _ _ => rfl⟩
  | cons s steps ih =>
      rw [List.forall_mem_cons] at hsteps
      cases s with
      | call c =>
          obtain ⟨u₁, hrun, href, h₁⟩ := h.call hsteps.1
          have hnext : (KernelStep.call c).next u = u₁ := by rw [KernelStep.next, hrun]; rfl
          obtain ⟨h₂, hentry, hmap⟩ := ih h₁ hsteps.2
          rw [runSteps_cons, hnext]
          refine ⟨h₂, ?_, ?_⟩
          · intro i hi
            exact (hentry i hi).trans (href.entries i hi)
          · intro k hk
            have hcalls : (KernelStep.call c :: steps).filterMap KernelStep.call? =
                c :: steps.filterMap KernelStep.call? := rfl
            rw [hcalls, List.foldl_cons, ← funext href.pages]
            exact hmap k hk
      | access op =>
          have hsame := h.access hsteps.1.1 hsteps.1.2
          obtain ⟨h₂, hentry, hmap⟩ := ih (hsame.tablesHidden h) hsteps.2
          rw [runSteps_cons]
          refine ⟨h₂, ?_, ?_⟩
          · intro i hi
            exact (hentry i hi).trans (hsame.dirEntry_eq hi)
          · intro k hk
            have hcalls : (KernelStep.access op :: steps).filterMap KernelStep.call? =
                steps.filterMap KernelStep.call? := rfl
            rw [hcalls]
            exact (hmap k hk).trans (foldl_apply_congr _ (hsame.pageMap_eq hk))

/-- The tables that the boot loader leaves are hidden: only the window maps their frames. -/
theorem tablesHidden_startup (m : Memory) : TablesHidden (startup m) := by
  have htab : TablesInPlace (startup m).mem := by
    rw [startup_mem]
    exact tablesInPlace_initPageTable _
  refine ⟨startup_dir m, htab, ?_⟩
  intro v hv hout t hwalk
  rw [startup_dir, walk_eq_pageMap htab hv] at hwalk
  by_cases hall : ∀ r ∈ bootRanges, ¬ r.Contains v
  · rw [pageMap_booted_of_hole m hv hall] at hwalk
    cases hwalk
  · simp only [not_forall, not_not] at hall
    obtain ⟨r, hr, hin⟩ := hall
    have hplace : ∀ r ∈ bootRanges, r.vaBase = 0xC0000000 ∧ r.size = 0x400000 ∨
        r.paBase + r.size ≤ 0x400000 ∨ 0x800000 ≤ r.paBase := by decide
    obtain ⟨hpa, hva, hsize, -⟩ := bootRanges_wellPlaced r hr
    have hcase := hplace r hr
    rw [pageMap_booted_of_range m hr hin] at hwalk
    cases hwalk
    simp only [MapRange.Contains] at hin
    simp only [InWindow] at hout
    simp only [InTables]
    omega

/-- The map that a run leaves: that of its calls alone. -/
def runPageMap (m : Memory) (steps : List KernelStep) : PageMap :=
  (steps.filterMap KernelStep.call?).foldl PagerCall.apply (pageMap (startup m).mem)

theorem walk_runSteps (m : Memory) {steps : List KernelStep} (hsteps : ∀ s ∈ steps, s.Legal)
    {v : Nat} (hv : v < 2 ^ 32) :
    walk (runSteps (startup m) steps).mem (runSteps (startup m) steps).dir v =
      (runPageMap m steps (v / 4096)).map fun e => ⟨e.frame + v % 4096, 7, e.attr⟩ := by
  obtain ⟨h, hentry, hmap⟩ := (tablesHidden_startup m).run hsteps
  have hi := dirIndex_lt hv
  have hattr : (0x400000 + 4096 * dirIndex v + 7) % 4096 = 7 := by omega
  rw [h.dir, walk_eq_pageMap h.inPlace hv, hmap _ (by omega), hentry _ hi, dirEntry_booted m hi,
    hattr, runPageMap]

theorem runPageMap_of_uncovered (m : Memory) {steps : List KernelStep} {k : Nat}
    (h : ∀ c, .call c ∈ steps → ¬ c.Covers k) :
    runPageMap m steps k = pageMap (startup m).mem k := by
  have hnone : lastCovering (steps.filterMap KernelStep.call?) k = none := by
    cases hlast : lastCovering (steps.filterMap KernelStep.call?) k with
    | none => rfl
    | some c =>
        obtain ⟨hmem, hcov⟩ := lastCovering_spec hlast
        obtain ⟨s, hs, hcall⟩ := List.mem_filterMap.mp hmem
        cases s with
        | call c' =>
            cases hcall
            exact absurd hcov (h c hs)
        | access op => cases hcall
  rw [runPageMap, foldl_apply, hnone]

/-- In any run of the booted guest the translations are those that its calls alone give,
whatever it stores elsewhere in between, and the tables stay hidden. -/
theorem kernel_run_translates (m : Memory) {steps : List KernelStep}
    (hsteps : ∀ s ∈ steps, s.Legal) :
    TablesHidden (runSteps (startup m) steps) ∧
      ∀ v, v < 2 ^ 32 → walk (runSteps (startup m) steps).mem (runSteps (startup m) steps).dir v =
        (runPageMap m steps (v / 4096)).map fun e => ⟨e.frame + v % 4096, 7, e.attr⟩ :=
  ⟨((tablesHidden_startup m).run hsteps).1, fun _ hv => walk_runSteps m hsteps hv⟩

/-- The first call of `main`, a store to the page that it has unmapped, a store to the
console, and the second call. -/
def mixedSteps : List KernelStep :=
  [.call (.unmapPages 0 0x100000), .access (.store 0x234 1), .access (.store 0xC0500000 65),
   .call (.mapPages 0x1000000 0x1000000 0x100000 5)]

theorem mixedSteps_legal : ∀ s ∈ mixedSteps, s.Legal := by
  simp [mixedSteps, KernelStep.Legal, PagerCall.Legal, MemOp.target, InWindow, Present]

theorem kernel_run_translates_mixed :
    TablesHidden (runSteps (startup fun _ => 0) mixedSteps) ∧
      walk (runSteps (startup fun _ => 0) mixedSteps).mem
        (runSteps (startup fun _ => 0) mixedSteps).dir 0x1000123 = some ⟨0x1000123, 7, 5⟩ := by
  obtain ⟨h, hwalk⟩ := kernel_run_translates (fun _ => 0) mixedSteps_legal
  refine ⟨h, ?_⟩
  rw [hwalk 0x1000123 (by norm_num), runPageMap, foldl_apply]
  rfl

end ShellcodeVM.GuestOS
