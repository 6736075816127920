import ShellcodeVM.Lib.FirstFit

/-!
Searches for a run of free cells that stop at the first free cell of their range,
whatever follows it. What such a search should answer, and when it does.

A search over cells `0 .. max` for `pages` cells from the hint `next` scans the
indices from `start` below `max - pages`, a difference of machine words, and
returns a byte address that is exact below `reach`.
-/
namespace Frames

/-- The first index of a range with a property, none when no index has it. -/
def First (P : Nat → Prop) (lo hi : Nat) : Option Nat → Prop
  | some f => lo ≤ f ∧ f < hi ∧ P f ∧ ∀ k, lo ≤ k → k < f → ¬ P k
  | none => ∀ k, lo ≤ k → k < hi → ¬ P k

theorem First.unique {P : Nat → Prop} {lo hi f g : Nat} (hf : First P lo hi (some f))
    (hg : First P lo hi (some g)) : f = g := by
  obtain ⟨hf1, _, hPf, hminf⟩ := hf
  obtain ⟨hg1, _, hPg, hming⟩ := hg
  rcases Nat.lt_trichotomy f g with h | h | h
  · exact absurd hPf (hming f hf1 h)
  · exact h
  · exact absurd hPg (hminf g hg1 h)

theorem First.congr {P Q : Nat → Prop} {lo hi : Nat} {found : Option Nat}
    (h : First P lo hi found) (hPQ : ∀ k, lo ≤ k → k < hi → (P k ↔ Q k)) :
    First Q lo hi found := by
  cases found with
  | none => exact fun k hk hlt hQ => h k hk hlt ((hPQ k hk hlt).mpr hQ)
  | some f =>
      obtain ⟨hle, hlt, hP, hmin⟩ := h
      refine ⟨hle, hlt, (hPQ f hle hlt).mp hP, ?_⟩
      intro k hk hkf hQ
      exact hmin k hk hkf ((hPQ k hk (hkf.trans hlt)).mpr hQ)

/-- An index without the property can be skipped. -/
theorem First.step {P : Nat → Prop} {lo hi : Nat} {found : Option Nat} (hlo : ¬ P lo)
    (h : First P (lo + 1) hi found) : First P lo hi found := by
  cases found with
  | none =>
      intro k hk hlt
      rcases Nat.eq_or_lt_of_le hk with rfl | hk
      · exact hlo
      · exact h k hk hlt
  | some f =>
      obtain ⟨hle, hlt, hP, hmin⟩ := h
      refine ⟨by omega, hlt, hP, ?_⟩
      intro k hk hlt
      rcases Nat.eq_or_lt_of_le hk with rfl | hk
      · exact hlo
      · exact hmin k hk hlt

/-! ### Scans -/

section Scan
variable {ρ : Type*} {search : Nat → Nat → Option ρ} {reads : Nat → Nat → List Nat}
  {P : Nat → Prop} {result : Nat → ρ} {max lim : Nat}

/-- One pass of a scan at an index: it ends the scan with a result, or it leaves the
scan to the next index; its reads are below `max`. -/
def ScanPass (search : Nat → Nat → Option ρ) (reads : Nat → Nat → List Nat) (P : Nat → Prop)
    (result : Nat → ρ) (max i n : Nat) : Prop :=
  (P i ∧ search (n + 1) i = some (result i) ∧ ∀ k ∈ reads (n + 1) i, k < max) ∨
    (¬ P i ∧ search (n + 1) i = search n (i + 1) ∧
      ∃ inner, (∀ k ∈ inner, k < max) ∧ reads (n + 1) i = inner ++ reads n (i + 1))

/-- What a scan with `n` passes left does from an index up to `lim`: it stops at the
first index with the property, or it goes on from there. -/
inductive ScansTo (search : Nat → Nat → Option ρ) (reads : Nat → Nat → List Nat) (P : Nat → Prop)
    (result : Nat → ρ) (max lim i n : Nat) : Prop where
  | stops (f : Nat) (hfirst : First P i lim (some f)) (hfound : search n i = some (result f))
      (hreads : ∀ k ∈ reads n i, k < max)
  | goesOn (m : Nat) (hm : m + lim = n + i) (hnone : First P i lim none)
      (hfound : search n i = search m lim) (hreads : ∀ k ∈ reads m lim, k ∈ reads n i)
      (hinside : ∀ k ∈ reads n i, k < max ∨ k ∈ reads m lim)

theorem scansTo (hpass : ∀ i, i < lim → ∀ n, ScanPass search reads P result max i n) {i n : Nat}
    (hi : i ≤ lim) (hn : lim ≤ n + i) : ScansTo search reads P result max lim i n := by
  induction hk : lim - i generalizing i n with
  | zero =>
      obtain rfl : i = lim := by omega
      exact .goesOn n rfl (fun k hk hlt => absurd hlt (Nat.not_lt.mpr hk)) rfl
        (fun _ hk => hk) (fun _ hk => .inr hk)
  | succ d ih =>
      obtain ⟨n, rfl⟩ : ∃ n', n = n' + 1 := ⟨n - 1, by omega⟩
      rcases hpass i (by omega) n with ⟨hstop, hfound, hreads⟩ | ⟨hskip, hfound, inner, hinner, hreads⟩
      · exact .stops i ⟨le_refl i, by omega, hstop, fun k hk hlt => by omega⟩ hfound hreads
      · cases @ih (i + 1) n (by omega) (by omega) (by omega) with
        | stops f hfirst hfound' hreads' =>
            refine .stops f (hfirst.step hskip) (hfound.trans hfound') ?_
            intro k hk
            rw [hreads] at hk
            rcases List.mem_append.mp hk with hk | hk
            · exact hinner k hk
            · exact hreads' k hk
        | goesOn m hm hnone hfound' hreads' hinside =>
            refine .goesOn m (by omega) (hnone.step hskip) (hfound.trans hfound') ?_ ?_
            · intro k hk
              rw [hreads]
              exact List.mem_append_right _ (hreads' k hk)
            · intro k hk
              rw [hreads] at hk
              rcases List.mem_append.mp hk with hk | hk
              · exact .inl (hinner k hk)
              · exact hinside k hk

end Scan

/-! ### What a search should answer -/

section Search
variable {free : Nat → Prop} {word reach start next max pages : Nat} {address : Nat}
  {unchanged : Prop} {reads : List Nat}

/-- The answer to a search: the address of a free run from the hint on, if there is
one, and otherwise 0, with nothing changed and no cell consulted beyond the last. -/
structure FindsRun (free : Nat → Prop) (next max pages address : Nat) (unchanged : Prop)
    (reads : List Nat) : Prop where
  found : (∃ s, next ≤ s ∧ FreeRun free max pages s) →
    ∃ s, next ≤ s ∧ FreeRun free max pages s ∧ address = 4096 * s
  refused : (¬ ∃ s, next ≤ s ∧ FreeRun free max pages s) →
    address = 0 ∧ unchanged ∧ ∀ i ∈ reads, i < max

/-- The first free cell that the scan meets starts a run, below the reach, and the run
at the end of the map, which the scan leaves out, is not the only one; only there the
address of cell 0 stands for both answers. -/
structure StopsAtRun (free : Nat → Prop) (reach start next max pages : Nat) : Prop where
  first : ∀ f, First free start (max - pages) (some f) →
    next ≤ f ∧ f < reach ∧ FreeRun free max pages f
  tail : First free start (max - pages) none → next ≤ max - pages →
    FreeRun free max pages (max - pages) → pages = max

/-- A cell at which the scan stops: it is free, and the end of its run is not 0. -/
def Accepted (free : Nat → Prop) (pages k : Nat) : Prop :=
  free k ∧ (k + pages) % 2 ^ 32 ≠ 0

/-- With more cells asked for than there are, the scan makes no pass, or it stops at a
cell with address 0 and a run that ends where the hint was. -/
def StaysInside (free : Nat → Prop) (word start next max pages : Nat) : Prop :=
  word + max ≤ start + pages ∨
    ∃ f, First (Accepted free pages) start max (some f) ∧ f % 2 ^ 20 = 0 ∧
      (f + pages) % 2 ^ 32 = next

structure FindsWhen (free : Nat → Prop) (word reach start next max pages : Nat) : Prop where
  within : pages ≤ max → StopsAtRun free reach start next max pages
  beyond : max < pages → StaysInside free word start next max pages

theorem findsWhen_of_le (h : pages ≤ max) :
    FindsWhen free word reach start next max pages ↔ StopsAtRun free reach start next max pages :=
  ⟨fun hw => hw.within h, fun hs => ⟨fun _ => hs, fun hgt => absurd h (Nat.not_le.mpr hgt)⟩⟩

theorem findsWhen_of_gt (h : max < pages) :
    FindsWhen free word reach start next max pages ↔ StaysInside free word start next max pages :=
  ⟨fun hw => hw.beyond h, fun hs => ⟨fun hle => absurd hle (Nat.not_le.mpr h), fun _ => hs⟩⟩

variable (addr : Nat → Nat) (hpos : 1 ≤ pages) (hstart : start = next ∨ max ≤ next)
  (hreach : 0 < reach ∧ reach ≤ 2 ^ 20)
  (haddr : ∀ f s, s < max → (addr f = 4096 * s ↔ f % 2 ^ 20 = s ∧ s < reach))
include hpos hstart

/-- A run from the hint on starts where the scan looks, or just behind. -/
theorem run_in_scan {s : Nat} (hnext : next ≤ s) (hrun : FreeRun free max pages s) :
    start = next ∧ s ≤ max - pages ∧ s < max ∧ free s := by
  obtain ⟨hend, hfree⟩ := hrun
  have hs := hfree s (le_refl s) (by omega)
  refine ⟨?_, by omega, by omega, hs⟩
  rcases hstart with h | h
  · exact h
  · omega

include hreach haddr

/-- A search that stopped at a cell. -/
theorem findsRun_iff_of_stop (hle : pages ≤ max) {f : Nat}
    (hfirst : First free start (max - pages) (some f)) (haddress : address = addr f)
    (hunchanged : unchanged ↔ f + pages = next) :
    FindsRun free next max pages address unchanged reads ↔
      StopsAtRun free reach start next max pages := by
  have hf := hfirst
  obtain ⟨hlo, hhi, hfree, hmin⟩ := hf
  constructor
  · intro h
    refine ⟨?_, fun hnone => absurd hfree (hnone f hlo hhi)⟩
    intro f' hfirst'
    obtain rfl := First.unique hfirst hfirst'
    by_cases hex : ∃ s, next ≤ s ∧ FreeRun free max pages s
    · obtain ⟨s, hnext, hrun, heq⟩ := h.found hex
      obtain ⟨hsame, _, hlt, hs⟩ := run_in_scan hpos hstart hnext hrun
      obtain ⟨hmod, hsreach⟩ := (haddr f s hlt).mp (haddress ▸ heq)
      -- the run found starts at the stop: no cell before it is free
      have hsf : s = f := by
        by_contra hne
        have hless : s < f := by
          have := Nat.mod_le f (2 ^ 20)
          omega
        exact hmin s (by omega) hless hs
      exact hsf ▸ ⟨hnext, hsreach, hrun⟩
    · have hhint := hunchanged.mp (h.refused hex).2.1
      omega
  · intro h
    obtain ⟨hnext, hfreach, hrun⟩ := h.first f hfirst
    refine ⟨?_, fun hnone => absurd ⟨f, hnext, hrun⟩ hnone⟩
    intro _
    refine ⟨f, hnext, hrun, ?_⟩
    rw [haddress]
    exact (haddr f f (by omega)).mpr ⟨Nat.mod_eq_of_lt (by omega), hfreach⟩

omit hreach haddr in
/-- A search that came to the end of its range. -/
theorem findsRun_iff_of_end (hle : pages ≤ max) (hnone : First free start (max - pages) none)
    (haddress : address = 0) (hunchanged : unchanged) (hreads : ∀ i ∈ reads, i < max) :
    FindsRun free next max pages address unchanged reads ↔
      StopsAtRun free reach start next max pages := by
  constructor
  · intro h
    refine ⟨fun f hf => absurd hf.2.2.1 (hnone f hf.1 hf.2.1), ?_⟩
    intro _ hnext hrun
    obtain ⟨s, hs, hsrun, hzero⟩ := h.found ⟨_, hnext, hrun⟩
    obtain ⟨hsame, _, _, hsfree⟩ := run_in_scan hpos hstart hs hsrun
    by_contra hne
    exact hnone s (by omega) (by omega) hsfree
  · intro h
    refine ⟨?_, fun _ => ⟨haddress, hunchanged, hreads⟩⟩
    rintro ⟨s, hs, hrun⟩
    obtain ⟨hsame, hlast, _, hsfree⟩ := run_in_scan hpos hstart hs hrun
    have hsend : s = max - pages := by
      by_contra hne
      exact hnone s (by omega) (by omega) hsfree
    have hall := h.tail hnone (hsend ▸ hs) (hsend ▸ hrun)
    exact ⟨s, hs, hrun, by omega⟩

omit hpos hstart hreach haddr in
/-- With more cells asked for than there are, only a refusal is right. -/
theorem findsRun_iff_refused (hgt : max < pages) :
    FindsRun free next max pages address unchanged reads ↔
      address = 0 ∧ unchanged ∧ ∀ i ∈ reads, i < max := by
  have hnone : ¬ ∃ s, next ≤ s ∧ FreeRun free max pages s := by
    rintro ⟨s, _, hend, _⟩
    omega
  exact ⟨fun h => h.refused hnone, fun h => ⟨fun hex => absurd hex hnone, fun _ => h⟩⟩

omit hpos hstart in
/-- A scan for more cells than there are that stopped inside the map. -/
theorem findsRun_iff_of_stopBeyond (hgt : max < pages) {f : Nat}
    (hpass : start + pages < word + max)
    (hfirst : First (Accepted free pages) start max (some f)) (haddress : address = addr f)
    (hunchanged : unchanged ↔ (f + pages) % 2 ^ 32 = next) (hreads : ∀ i ∈ reads, i < max) :
    FindsRun free next max pages address unchanged reads ↔
      StaysInside free word start next max pages := by
  have hzero : addr f = 0 ↔ f % 2 ^ 20 = 0 := by
    have hlt : f < max := hfirst.2.1
    rw [← Nat.mul_zero 4096, haddr f 0 (by omega)]
    exact and_iff_left hreach.1
  rw [findsRun_iff_refused hgt, haddress, hzero, hunchanged, StaysInside]
  constructor
  · rintro ⟨hmod, hhint, _⟩
    exact .inr ⟨f, hfirst, hmod, hhint⟩
  · rintro (hno | ⟨f', hfirst', hmod, hhint⟩)
    · omega
    · obtain rfl := First.unique hfirst hfirst'
      exact ⟨hmod, hhint, hreads⟩

omit hpos hstart hreach haddr in
/-- Such a scan that left the map. -/
theorem findsRun_iff_of_leave (hgt : max < pages) (hpass : start + pages < word + max)
    (hnone : First (Accepted free pages) start max none) (hread : ∃ i ∈ reads, max ≤ i) :
    FindsRun free next max pages address unchanged reads ↔
      StaysInside free word start next max pages := by
  rw [findsRun_iff_refused hgt, StaysInside]
  obtain ⟨i, hi, hmax⟩ := hread
  constructor
  · rintro ⟨_, _, hreads⟩
    exact absurd (hreads i hi) (by omega)
  · rintro (hno | ⟨f, hfirst, _⟩)
    · omega
    · exact absurd hfirst.2.2.1 (hnone f hfirst.1 hfirst.2.1)

omit hpos hstart hreach haddr in
/-- Such a scan that made no pass. -/
theorem findsRun_iff_of_noPass (hgt : max < pages) (hpass : word + max ≤ start + pages)
    (haddress : address = 0) (hunchanged : unchanged) (hreads : ∀ i ∈ reads, i < max) :
    FindsRun free next max pages address unchanged reads ↔
      StaysInside free word start next max pages := by
  rw [findsRun_iff_refused hgt]
  exact ⟨fun _ => .inl hpass, fun _ => ⟨haddress, hunchanged, hreads⟩⟩

end Search
end Frames
