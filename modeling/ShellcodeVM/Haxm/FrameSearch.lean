import ShellcodeVM.Lib.FirstFit
import ShellcodeVM.Haxm.FrameDatabase

/-!
When the frame search of `HAXM_VM` is a first fit. After a hole of `j` frames
that is too short the search goes on at index `j + 1` instead of behind the
hole. Behind a hole at index 1 that is the same place; behind any other hole it
is a place at or before the hole, and the search never comes out of it.
-/
namespace ShellcodeVM.Haxm
open Machine Frames

/-- Frame `i` is free in a database. -/
def IsFree (db : Memory) (i : Nat) : Prop := db i = pageFree

instance (db : Memory) (i : Nat) : Decidable (IsFree db i) :=
  inferInstanceAs (Decidable (_ = _))

abbrev FreeFrames (db : Memory) (pages start : Nat) : Prop :=
  FreeRun (IsFree db) frameDatabaseSize pages start

/-- What one pass can do at an index. -/
inductive SearchPass (db : Memory) (pages i : Nat) :
    Nat ⊕ Except Fault (Option Nat) → Prop where
  | finished (hend : frameDatabaseSize ≤ i) : SearchPass db pages i (.inr (.ok none))
  | used (hin : i < frameDatabaseSize) (hused : ¬ IsFree db i) :
      SearchPass db pages i (.inl (i + 1))
  | found (hrun : FreeFrames db pages i) : SearchPass db pages i (.inr (.ok (some i)))
  | hole (j : Nat) (hj : 1 ≤ j ∧ j < pages) (hin : i + j < frameDatabaseSize)
      (hfree : ∀ k, i ≤ k → k < i + j → IsFree db k) (hused : ¬ IsFree db (i + j)) :
      SearchPass db pages i (.inl (j + 1))
  | overrun (hin : i < frameDatabaseSize) (hfree : ∀ k, i ≤ k → k < frameDatabaseSize → IsFree db k)
      (hlong : frameDatabaseSize < i + pages) :
      SearchPass db pages i (.inr (.error .outside))

/-- What the inner loop finds, from an index up to which all frames are free. -/
theorem scan_spec {ramSize : Nat} {db : Memory} {i n j : Nat} (hin : i + j ≤ ramSize)
    (hfree : ∀ k, i ≤ k → k < i + j → IsFree db k) :
    (∃ e, j ≤ e ∧ e ≤ j + n ∧ Ram.scan ramSize db i n j = .ok e ∧ i + e ≤ ramSize ∧
      (∀ k, i ≤ k → k < i + e → IsFree db k) ∧
      (e < j + n → i + e < ramSize ∧ ¬ IsFree db (i + e))) ∨
    (Ram.scan ramSize db i n j = .error .outside ∧
      (∀ k, i ≤ k → k < ramSize → IsFree db k) ∧ ramSize < i + j + n) := by
  induction n generalizing j with
  | zero =>
      refine .inl ⟨j, le_refl j, le_refl j, rfl, hin, hfree, ?_⟩
      intro h
      exact absurd h (Nat.lt_irrefl j)
  | succ n ih =>
      by_cases hlt : i + j < ramSize
      · by_cases hmark : db (i + j) = pageFree
        · have hnext : Ram.scan ramSize db i (n + 1) j = Ram.scan ramSize db i n (j + 1) := by
            rw [Ram.scan, if_pos hlt, if_neg (not_not.mpr hmark)]
          have hfree' : ∀ k, i ≤ k → k < i + (j + 1) → IsFree db k := by
            intro k hk hlt'
            rcases Nat.lt_succ_iff_lt_or_eq.mp hlt' with h | h
            · exact hfree k hk h
            · rw [h]
              exact hmark
          rw [hnext]
          rcases ih hlt hfree' with ⟨e, hle, hge, hrun, hend, hall, hstop⟩ | ⟨hrun, hall, hlong⟩
          · exact .inl ⟨e, by omega, by omega, hrun, hend, hall, fun h => hstop (by omega)⟩
          · exact .inr ⟨hrun, hall, by omega⟩
        · refine .inl ⟨j, le_refl j, by omega, ?_, hin, hfree, fun _ => ⟨hlt, hmark⟩⟩
          rw [Ram.scan, if_pos hlt, if_pos hmark]
      · refine .inr ⟨?_, ?_, by omega⟩
        · rw [Ram.scan, if_neg hlt]
        · intro k hk hlt'
          exact hfree k hk (by omega)

theorem searchStep_spec (db : Memory) {pages : Nat} (hpos : 1 ≤ pages) (i : Nat) :
    SearchPass db pages i (searchStep db pages i) := by
  rw [searchStep, Ram.searchStep]
  by_cases hin : i < frameDatabaseSize
  · rw [if_pos hin, if_pos hin]
    by_cases hmark : db i = pageFree
    · have hfirst : ∀ k, i ≤ k → k < i + 1 → IsFree db k := by
        intro k hk hlt
        rw [show k = i by omega]
        exact hmark
      rw [if_pos hmark]
      rcases scan_spec (n := pages - 1) hin hfirst with
        ⟨e, hle, hge, hrun, hend, hall, hstop⟩ | ⟨hrun, hall, hlong⟩
      · rw [hrun]
        by_cases hdone : e = pages
        · subst hdone
          simp only [if_pos]
          exact .found ⟨hend, hall⟩
        · obtain ⟨hlt, hused⟩ := hstop (by omega)
          simp only [if_neg hdone]
          exact .hole e ⟨hle, by omega⟩ hlt hall hused
      · rw [hrun]
        exact .overrun hin hall (by omega)
    · rw [if_neg hmark]
      exact .used hin hmark
  · rw [if_neg hin]
    exact .finished (Nat.le_of_not_lt hin)

/-- The search grants only free frames inside the database. -/
theorem search_found {db : Memory} {pages : Nat} (hpos : 1 ≤ pages) {fuel start i : Nat}
    (h : iterate (searchStep db pages) fuel start = some (.ok (some i))) :
    FreeFrames db pages i := by
  have keeps : Keeps (searchStep db pages) (fun _ => True)
      (fun r => ∀ i, r = .ok (some i) → FreeFrames db pages i) := by
    intro q _
    generalize hstep : searchStep db pages q = result
    have hpass := searchStep_spec db hpos q
    rw [hstep] at hpass
    cases hpass with
    | finished _ => exact .inr ⟨_, rfl, by rintro _ ⟨⟩⟩
    | used _ _ => exact .inl ⟨_, rfl, trivial⟩
    | found hrun =>
        refine .inr ⟨_, rfl, ?_⟩
        intro i hi
        cases hi
        exact hrun
    | hole j _ _ _ _ => exact .inl ⟨_, rfl, trivial⟩
    | overrun _ _ _ => exact .inr ⟨_, rfl, by rintro _ ⟨⟩⟩
  exact iterate_exit keeps trivial h i rfl

theorem pageAddress_eq {i : Nat} (hi : i < frameDatabaseSize) : pageAddress i = i * 4096 := by
  rw [frameDatabaseSize] at hi
  rw [pageAddress, Nat.shiftLeft_eq]
  omega

/-- The search for one frame terminates: it marks the lowest free frame, or refuses. -/
theorem allocOne_returns (db : Memory) {fuel : Nat} (hfuel : frameDatabaseSize < fuel) :
    (∃ f, f < frameDatabaseSize ∧ db f = pageFree ∧ (∀ k, k < f → db k ≠ pageFree) ∧
      allocPhysicalPages fuel db 1 = some (.ok (f * 4096, memset db f pageUsed 1))) ∨
    (∀ k, k < frameDatabaseSize → db k ≠ pageFree) ∧
      allocPhysicalPages fuel db 1 = some (.ok (0, db)) := by
  have hprogress : ∀ q, (∀ k, k < q → db k ≠ pageFree) →
      (∃ q', searchStep db 1 q = .inl q' ∧ (∀ k, k < q' → db k ≠ pageFree) ∧
        frameDatabaseSize - q' < frameDatabaseSize - q) ∨
      ∃ r, searchStep db 1 q = .inr r ∧
        ((r = .ok none ∧ ∀ k, k < frameDatabaseSize → db k ≠ pageFree) ∨
          ∃ f, r = .ok (some f) ∧ FreeFrames db 1 f ∧ ∀ k, k < f → db k ≠ pageFree) := by
    intro q hbelow
    generalize hstep : searchStep db 1 q = result
    have hpass := searchStep_spec db (le_refl 1) q
    rw [hstep] at hpass
    cases hpass with
    | finished hend =>
        exact .inr ⟨_, rfl, .inl ⟨rfl, fun k hk => hbelow k (Nat.lt_of_lt_of_le hk hend)⟩⟩
    | used hin hused =>
        refine .inl ⟨q + 1, rfl, ?_, by omega⟩
        intro k hk
        rcases Nat.lt_succ_iff_lt_or_eq.mp hk with hlt | rfl
        · exact hbelow k hlt
        · exact hused
    | found hrun => exact .inr ⟨_, rfl, .inr ⟨q, rfl, hrun, hbelow⟩⟩
    | hole j hj _ _ _ => exact absurd hj (by omega)
    | overrun hin _ hlong => exact absurd hin (by omega)
  obtain ⟨r, hrun, hresult⟩ := iterate_terminates (n := fuel) (s := 0)
    (fun q => frameDatabaseSize - q) hprogress (fun k hk => absurd hk (Nat.not_lt_zero k)) (by omega)
  rcases hresult with ⟨rfl, hnone⟩ | ⟨f, rfl, hfree, hbelow⟩
  · refine .inr ⟨hnone, ?_⟩
    exact congrArg (Option.map fun found => Except.map (claim db 1) found) hrun
  · have hf : f < frameDatabaseSize := hfree.1
    refine .inl ⟨f, hf, hfree.2 f (le_refl f) (Nat.lt_succ_self f), hbelow, ?_⟩
    rw [← pageAddress_eq hf]
    exact congrArg (Option.map fun found => Except.map (claim db 1) found) hrun

/-- Every hole that the search meets before the first fit, or before the end
where nothing fits, is the one at frame 1, and it ends inside the database. -/
def HolesSkipped (db : Memory) (pages : Nat) : Prop :=
  ∀ i, 1 ≤ i → i < frameDatabaseSize → IsFree db i → ¬ IsFree db (i - 1) →
    (∀ k, k ≤ i → ¬ FreeFrames db pages k) →
    i = 1 ∧ ∃ u, i < u ∧ u < frameDatabaseSize ∧ ¬ IsFree db u

/-- The search terminates inside the database and is a first fit: it marks the
lowest run and returns its address, or without one returns 0 and marks nothing. -/
def SearchesFirstFit (db : Memory) (pages : Nat) : Prop :=
  ∃ fuel addr db', allocPhysicalPages fuel db pages = some (.ok (addr, db')) ∧
    ((∃ i, FirstFit (IsFree db) frameDatabaseSize pages i ∧ addr = 4096 * i ∧
        db' = memset db i pageUsed pages) ∨
      ((∀ i, ¬ FreeFrames db pages i) ∧ addr = 0 ∧ db' = db))

/-- The result that a first fit has. -/
def FirstFitResult (db : Memory) (pages : Nat) : Except Fault (Option Nat) → Prop
  | .ok (some i) => FirstFit (IsFree db) frameDatabaseSize pages i
  | .ok none => ∀ i, ¬ FreeFrames db pages i
  | .error _ => False

/-- No run starts below the index, and the index is not inside a hole. -/
structure SearchedTo (db : Memory) (pages q : Nat) : Prop where
  searched : ∀ k, k < q → ¬ FreeFrames db pages k
  outside : q = 0 ∨ ¬ IsFree db (q - 1) ∨ ¬ IsFree db q

/-- At a free index the search stands at the start of a hole. -/
theorem SearchedTo.hole_start {db : Memory} {pages q : Nat} (h : SearchedTo db pages q)
    (hzero : ¬ IsFree db 0) (hfree : IsFree db q) : 1 ≤ q ∧ ¬ IsFree db (q - 1) := by
  rcases h.outside with hq | hprev | hused
  · rw [hq] at hfree
    exact absurd hfree hzero
  · refine ⟨Nat.one_le_iff_ne_zero.mpr ?_, hprev⟩
    intro hq
    rw [hq] at hfree
    exact hzero hfree
  · exact absurd hfree hused

theorem SearchedTo.none_upto {db : Memory} {pages q : Nat} (h : SearchedTo db pages q)
    (hnot : ¬ FreeFrames db pages q) : ∀ k, k ≤ q → ¬ FreeFrames db pages k := by
  intro k hk
  rcases Nat.lt_or_eq_of_le hk with hlt | heq
  · exact h.searched k hlt
  · rw [heq]
    exact hnot

theorem search_progress {db : Memory} {pages : Nat} (hzero : ¬ IsFree db 0) (hpos : 1 ≤ pages)
    (hholes : HolesSkipped db pages) (q : Nat) (hq : SearchedTo db pages q) :
    (∃ q', searchStep db pages q = .inl q' ∧ SearchedTo db pages q' ∧
      frameDatabaseSize - q' < frameDatabaseSize - q) ∨
    ∃ r, searchStep db pages q = .inr r ∧ FirstFitResult db pages r := by
  generalize hstep : searchStep db pages q = result
  have hpass := searchStep_spec db hpos q
  rw [hstep] at hpass
  cases hpass with
  | finished hend =>
      refine .inr ⟨_, rfl, ?_⟩
      intro i hi
      by_cases hlt : i < q
      · exact hq.searched i hlt hi
      · have := hi.1
        omega
  | used hin hused =>
      refine .inl ⟨_, rfl, ⟨?_, .inr (.inl hused)⟩, by omega⟩
      intro k hk
      exact hq.none_upto (not_freeRun_of_used hused (le_refl q) (by omega)) k (Nat.le_of_lt_succ hk)
  | found hrun => exact .inr ⟨_, rfl, hrun, hq.searched⟩
  | hole j hj hin hfree hused =>
      have hqfree : IsFree db q := hfree q (le_refl q) (by omega)
      obtain ⟨hone, hprev⟩ := hq.hole_start hzero hqfree
      have hnot : ∀ k, q ≤ k → k < q + j → ¬ FreeFrames db pages k := by
        intro k hk hlt
        exact not_freeRun_of_used hused (by omega) (by omega)
      obtain ⟨hq1, _⟩ := hholes q hone (by omega) hqfree hprev
        (hq.none_upto (hnot q (le_refl q) (by omega)))
      rw [show q + j = j + 1 by omega] at hused hnot hin
      refine .inl ⟨_, rfl, ⟨?_, .inr (.inr hused)⟩, by omega⟩
      intro k hk
      by_cases hlt : k < q
      · exact hq.searched k hlt
      · exact hnot k (Nat.le_of_not_lt hlt) hk
  | overrun hin hfree hlong =>
      obtain ⟨hone, hprev⟩ := hq.hole_start hzero (hfree q (le_refl q) hin)
      have hnot : ¬ FreeFrames db pages q := by
        intro h
        have := h.1
        omega
      obtain ⟨_, u, hlt, hu, hused⟩ := hholes q hone hin (hfree q (le_refl q) hin) hprev
        (hq.none_upto hnot)
      exact absurd (hfree u hlt.le hu) hused

theorem searchesFirstFit_of_holesSkipped {db : Memory} {pages : Nat} (hzero : ¬ IsFree db 0)
    (hpos : 1 ≤ pages) (hholes : HolesSkipped db pages) : SearchesFirstFit db pages := by
  have hinit : SearchedTo db pages 0 := ⟨fun k hk => absurd hk (Nat.not_lt_zero k), .inl rfl⟩
  obtain ⟨r, hrun, hresult⟩ := iterate_terminates (fun q => frameDatabaseSize - q)
    (search_progress hzero hpos hholes) hinit (Nat.lt_succ_self _)
  have hcall := congrArg (Option.map fun found => Except.map (claim db pages) found) hrun
  cases r with
  | error fault => exact absurd hresult id
  | ok found =>
      cases found with
      | none => exact ⟨_, _, _, hcall, .inr ⟨hresult, rfl, rfl⟩⟩
      | some i =>
          have hend : i + pages ≤ frameDatabaseSize := hresult.1.1
          have haddr : pageAddress i = 4096 * i := by
            rw [pageAddress_eq (by omega), Nat.mul_comm]
          exact ⟨_, _, _, hcall, .inl ⟨i, hresult, haddr, rfl⟩⟩

/-- Below a used frame behind a hole that is too short, and not the one at
frame 1, the search runs for ever. -/
theorem search_caught {db : Memory} {pages i u : Nat} (hzero : ¬ IsFree db 0) (hpos : 1 ≤ pages)
    (hi : 2 ≤ i) (hprev : ¬ IsFree db (i - 1)) (hlt : i < u) (hu : u < frameDatabaseSize)
    (hhole : ∀ k, i ≤ k → k < u → IsFree db k) (hused : ¬ IsFree db u)
    (hnone : ∀ k, k ≤ i → ¬ FreeFrames db pages k) :
    Keeps (searchStep db pages) (fun q => q < u) (fun _ => False) := by
  have hshort : u < i + pages := by
    by_contra hfit
    exact hnone i (le_refl i) ⟨by omega, fun k hk hlt => hhole k hk (by omega)⟩
  intro q hq
  generalize hstep : searchStep db pages q = result
  have hpass := searchStep_spec db hpos q
  rw [hstep] at hpass
  cases hpass with
  | finished hend => omega
  | used hin hq' =>
      refine .inl ⟨_, rfl, ?_⟩
      by_contra hge
      exact hq' (hhole q (by omega) hq)
  | found hrun =>
      exfalso
      by_cases hle : q ≤ i
      · exact hnone q hle hrun
      · exact hused (hrun.2 u hq.le (by omega))
  | hole j hj hin hfree hend =>
      refine .inl ⟨_, rfl, ?_⟩
      have hstop : ∀ v, ¬ IsFree db v → q ≤ v → q + j ≤ v := by
        intro v hv hle
        by_contra hlt'
        exact hv (hfree v hle (by omega))
      have hqu := hstop u hused hq.le
      have hone : q ≠ 0 := by
        intro h0
        exact hzero (hfree 0 (by omega) (by omega))
      by_cases hq1 : q = 1
      · have := hstop (i - 1) hprev (by omega)
        omega
      · omega
  | overrun hin hfree _ => exact absurd (hfree u hq.le hu) hused

/-- With a hole up to the end of the database that is too short, the search
never comes to its own end. -/
theorem search_overruns {db : Memory} {pages i : Nat} (hpos : 1 ≤ pages)
    (hi : i < frameDatabaseSize)
    (hhole : ∀ k, i ≤ k → k < frameDatabaseSize → IsFree db k)
    (hnone : ∀ k, k ≤ i → ¬ FreeFrames db pages k) :
    Keeps (searchStep db pages) (fun q => q < frameDatabaseSize)
      (fun r => r = .error .outside) := by
  have hshort : frameDatabaseSize < i + pages := by
    by_contra hfit
    exact hnone i (le_refl i) ⟨by omega, fun k hk hlt => hhole k hk (by omega)⟩
  intro q hq
  generalize hstep : searchStep db pages q = result
  have hpass := searchStep_spec db hpos q
  rw [hstep] at hpass
  cases hpass with
  | finished hend => omega
  | used hin hq' =>
      refine .inl ⟨_, rfl, ?_⟩
      by_contra hge
      exact hq' (hhole q (by omega) hq)
  | found hrun =>
      exfalso
      by_cases hle : q ≤ i
      · exact hnone q hle hrun
      · have := hrun.1
        omega
  | hole j hj hin hfree hend =>
      refine .inl ⟨_, rfl, ?_⟩
      have hbelow : q + j < i := by
        by_contra hge
        exact hend (hhole _ (by omega) hin)
      omega
  | overrun _ _ _ => exact .inr ⟨_, rfl, rfl⟩

theorem holesSkipped_of_searchesFirstFit {db : Memory} {pages : Nat} (hzero : ¬ IsFree db 0)
    (hpos : 1 ≤ pages) (h : SearchesFirstFit db pages) : HolesSkipped db pages := by
  obtain ⟨fuel, addr, db', hcall, _⟩ := h
  obtain ⟨r, hrun, hr⟩ := Option.map_eq_some_iff.mp hcall
  intro i hone hi hfree hprev hnone
  by_cases hend : ∃ u, i < u ∧ u < frameDatabaseSize ∧ ¬ IsFree db u
  · refine ⟨?_, hend⟩
    by_contra hne
    -- the first used frame behind the hole
    have hlow := Nat.find_spec hend
    have hhole : ∀ k, i ≤ k → k < Nat.find hend → IsFree db k := by
      intro k hk hlt
      rcases Nat.lt_or_eq_of_le hk with h | h
      · by_contra hused
        exact Nat.find_min hend hlt ⟨h, by omega, hused⟩
      · rw [← h]
        exact hfree
    exact iterate_exit (search_caught hzero hpos (by omega) hprev hlow.1 hlow.2.1 hhole hlow.2.2
      hnone) (by omega : 0 < Nat.find hend) hrun
  · have hhole : ∀ k, i ≤ k → k < frameDatabaseSize → IsFree db k := by
      intro k hk hlt
      rcases Nat.lt_or_eq_of_le hk with h | h
      · by_contra hused
        exact hend ⟨k, h, hlt, hused⟩
      · rw [← h]
        exact hfree
    have herror := iterate_exit (search_overruns hpos hi hhole hnone)
      (by omega : 0 < frameDatabaseSize) hrun
    rw [herror] at hr
    cases hr

/-- The search is a first fit exactly when the holes it meets are skipped. -/
theorem searchesFirstFit_iff (db : Memory) (pages : Nat) (hzero : ¬ IsFree db 0)
    (hpos : 1 ≤ pages) : SearchesFirstFit db pages ↔ HolesSkipped db pages :=
  ⟨holesSkipped_of_searchesFirstFit hzero hpos, searchesFirstFit_of_holesSkipped hzero hpos⟩

/-- Frames 0 and 2 used: the hole at frame 1 is too short, and frame 3 fits. -/
theorem searchesFirstFit_iff_holeAtOne :
    SearchesFirstFit (fun i => if i = 0 ∨ i = 2 then 1 else 0) 2 := by
  apply (searchesFirstFit_iff (fun i => if i = 0 ∨ i = 2 then 1 else 0) 2 (by decide)
    (by decide)).mpr
  intro i hone hi hfree hprev hnone
  have hi1 : i = 1 ∨ i = 3 := by
    by_contra hne
    apply hprev
    have : ¬ (i - 1 = 0 ∨ i - 1 = 2) := by omega
    simp only [IsFree, if_neg this]
    rfl
  rcases hi1 with rfl | rfl
  · exact ⟨rfl, 2, by decide, by decide, by decide⟩
  · refine absurd ⟨by decide, ?_⟩ (hnone 3 (le_refl 3))
    intro k hk hlt
    have : ¬ (k = 0 ∨ k = 2) := by omega
    simp only [IsFree, if_neg this]
    rfl

/-- Frames 0, 1 and 3 used: the search for two frames is caught at frame 2. -/
theorem search_caught_atFrame2 :
    ¬ ∀ (db : Memory) (pages : Nat), ¬ IsFree db 0 → 1 ≤ pages → SearchesFirstFit db pages := by
  intro hall
  have hholes := holesSkipped_of_searchesFirstFit (by decide) (by decide)
    (hall (fun i => if i < 4 ∧ i ≠ 2 then 1 else 0) 2 (by decide) (by decide))
  have hnone : ∀ k, k ≤ 2 →
      ¬ FreeFrames (fun i => if i < 4 ∧ i ≠ 2 then 1 else 0) 2 k := by
    intro k hk
    by_cases h2 : k = 2
    · exact not_freeRun_of_used (u := 3) (by decide) (by omega) (by omega)
    · exact not_freeRun_of_used (u := 1) (by decide) (by omega) (by omega)
  have habsurd := (hholes 2 (by decide) (by decide) (by decide) (by decide) hnone).1
  omega

end ShellcodeVM.Haxm
