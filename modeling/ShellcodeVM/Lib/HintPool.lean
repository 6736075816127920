import ShellcodeVM.Lib.Frames

/-!
The abstract hint allocator: it grants from the hint on, moves the hint past
what it granted, and a free moves it back to the freed frame. It grants no
frame twice as long as no free moves the hint to or below a frame that stays
live, and the first free that does opens the way to a double grant.
-/
namespace Frames

/-- `limit - pages` is computed modulo `word`. -/
structure HintPool where
  word : Nat
  limit : Nat
  hint : Nat
deriving DecidableEq, Repr

namespace HintPool

def bound (p : HintPool) (pages : Nat) : Nat := (p.limit + p.word - pages) % p.word

def allocPage (p : HintPool) : Nat × HintPool :=
  if p.hint < p.limit then (p.hint * 4096, { p with hint := p.hint + 1 }) else (0, p)

def allocPages (p : HintPool) (pages : Nat) : Nat × HintPool :=
  if p.hint < p.bound pages then (p.hint * 4096, { p with hint := p.hint + pages }) else (0, p)

def freePage (p : HintPool) (page : Nat) : HintPool :=
  { p with hint := min p.hint page }

def freePages (p : HintPool) (start _pages : Nat) : HintPool :=
  { p with hint := min p.hint start }

def allocator : Allocator HintPool := ⟨allocPage, allocPages, freePage, freePages⟩

/-- An allocation that goes through starts below the limit and ends at or below
`reach`, the first frame whose address does not fit. -/
def InReach (reach : Nat) (p : HintPool) : Request → Prop
  | .allocPage => p.hint < p.limit → p.hint < reach
  | .allocPages pages =>
      1 ≤ pages ∧ (p.hint < p.bound pages → p.hint < p.limit ∧ p.hint + pages ≤ reach)
  | .freePage _ | .freePages _ _ => True

/-- A free keeps every frame that stays live below the hint: either the hint
does not move, or all of them are below the frame it moves to. -/
def KeepsLiveBelow (p : HintPool) (live : Set Nat) (r : Request) : Prop :=
  ∀ g ∈ r.freed, ∀ f ∈ live, ¬ g.Has f → p.hint ≤ g.start ∨ f < g.start

/-- The pool's invariant: no live frame is at or above the hint. -/
def LiveBelow (p : HintPool) (live : Set Nat) : Prop :=
  ∀ f ∈ live, 0 < f ∧ f < p.hint

end HintPool

theorem mem_granted {address count : Nat} {g : Run} :
    g ∈ granted address count ↔ address ≠ 0 ∧ g = ⟨address / 4096, count⟩ := by
  rw [granted]
  split_ifs with h
  · simp [h]
  · simp [h, eq_comm]

namespace HintPool

/-- A successful allocation: its run starts at the hint, so it meets no live
frame, and the hint moves past it. -/
theorem step_grant {p : HintPool} {live : Set Nat} {r : Request} {n : Nat} (h : p.LiveBelow live)
    (hcall : allocator.call p r =
      (granted (p.hint * 4096) n, { p with hint := p.hint + n })) :
    (∀ g ∈ (allocator.call p r).1, ∀ f, g.Has f → f ∉ live) ∧
      (allocator.call p r).2.LiveBelow (liveAfter live (allocator.call p r).1 r) := by
  rw [hcall]
  refine ⟨?_, ?_⟩
  · intro g hg f hf hmem
    obtain ⟨_, rfl⟩ := mem_granted.mp hg
    have hbelow := (h f hmem).2
    simp only [Run.Has] at hf
    omega
  · rintro f ⟨hmem | ⟨g, hg, hf⟩, _⟩
    · obtain ⟨hpos, hbelow⟩ := h f hmem
      exact ⟨hpos, Nat.lt_of_lt_of_le hbelow (Nat.le_add_right _ _)⟩
    · obtain ⟨hne, rfl⟩ := mem_granted.mp hg
      simp only [Run.Has] at hf
      change 0 < f ∧ f < p.hint + n
      omega

theorem step_fail {p : HintPool} {live : Set Nat} {r : Request} (h : p.LiveBelow live)
    (hcall : allocator.call p r = (none, p)) :
    (∀ g ∈ (allocator.call p r).1, ∀ f, g.Has f → f ∉ live) ∧
      (allocator.call p r).2.LiveBelow (liveAfter live (allocator.call p r).1 r) := by
  rw [hcall]
  refine ⟨?_, ?_⟩
  · rintro g ⟨⟩
  · rintro f ⟨hmem | ⟨g, ⟨⟩, _⟩, _⟩
    exact h f hmem

theorem step_liveBelow (p : HintPool) (live : Set Nat) (r : Request) (h : p.LiveBelow live)
    (hkeep : p.KeepsLiveBelow live r) :
    (∀ g ∈ (allocator.call p r).1, ∀ f, g.Has f → f ∉ live) ∧
      (allocator.call p r).2.LiveBelow (liveAfter live (allocator.call p r).1 r) := by
  cases r with
  | allocPage =>
      by_cases hfit : p.hint < p.limit
      · apply step_grant h (n := 1)
        simp only [Allocator.call, allocator, allocPage, if_pos hfit]
      · apply step_fail h
        simp only [Allocator.call, allocator, allocPage, if_neg hfit]
        rfl
  | allocPages pages =>
      by_cases hfit : p.hint < p.bound pages
      · apply step_grant h (n := pages)
        simp only [Allocator.call, allocator, allocPages, if_pos hfit]
      · apply step_fail h
        simp only [Allocator.call, allocator, allocPages, if_neg hfit]
        rfl
  | freePage page | freePages page _ =>
      refine ⟨by rintro g ⟨⟩, ?_⟩
      rintro f ⟨hmem | ⟨g, ⟨⟩, _⟩, hout⟩
      obtain ⟨hpos, hf⟩ := h f hmem
      have hnot := hout _ rfl
      rcases hkeep _ rfl f hmem hnot with hhint | hbelow
      · exact ⟨hpos, lt_min hf (Nat.lt_of_lt_of_le hf hhint)⟩
      · exact ⟨hpos, lt_min hf hbelow⟩

theorem call_allocPage {p : HintPool} (hpos : 0 < p.hint) (hlt : p.hint < p.limit) :
    allocator.call p .allocPage = (some ⟨p.hint, 1⟩, { p with hint := p.hint + 1 }) := by
  have hne : p.hint * 4096 ≠ 0 := by omega
  have hframe : p.hint * 4096 / 4096 = p.hint := Nat.mul_div_cancel _ (by decide)
  simp only [Allocator.call, allocator, allocPage, if_pos hlt, granted, if_neg hne, hframe]

theorem call_allocPage_snd {p : HintPool} (hlt : p.hint < p.limit) :
    (allocator.call p .allocPage).2 = { p with hint := p.hint + 1 } := by
  simp only [Allocator.call, allocator, allocPage, if_pos hlt]

/-- With a live frame at or above the hint, single allocations reach it. -/
theorem doubleGrant_of_live {p : HintPool} {live : Set Nat} {f d : Nat} (hf : f ∈ live)
    (hpos : 0 < f) (hlim : f < p.limit) (hd : p.hint + d = f) :
    ¬ NoDoubleGrant allocator p live (List.replicate (d + 1) .allocPage) := by
  induction d generalizing p live with
  | zero =>
      intro hno
      have hhint : p.hint = f := by omega
      have hgrant : (⟨p.hint, 1⟩ : Run) ∈ (allocator.call p .allocPage).1 := by
        rw [call_allocPage (by omega) (by omega)]
        rfl
      have hhas : (⟨p.hint, 1⟩ : Run).Has f := ⟨hhint.le, Nat.lt_succ_of_le hhint.ge⟩
      exact hno.1 _ hgrant f hhas hf
  | succ d ih =>
      intro hno
      have hrest : NoDoubleGrant allocator (allocator.call p .allocPage).2
          (liveAfter live (allocator.call p .allocPage).1 .allocPage)
          (List.replicate (d + 1) .allocPage) := hno.2
      rw [call_allocPage_snd (by omega)] at hrest
      have hlive : f ∈ liveAfter live (allocator.call p .allocPage).1 .allocPage :=
        ⟨.inl hf, by rintro g ⟨⟩⟩
      refine ih (p := { p with hint := p.hint + 1 }) hlive hlim ?_ hrest
      change p.hint + 1 + d = f
      omega

/-- A free that lets the hint move to or below a frame `f` that stays live opens
the way to a double grant: after it, some number of single allocations makes one. -/
theorem doubleGrant_of_unsafe_free {p : HintPool} {live : Set Nat} {g : Run} {f : Nat}
    {r : Request} (hg : r.freed = some g) (hf : f ∈ live) (hpos : 0 < f) (hlim : f < p.limit)
    (hout : ¬ g.Has f) (hhint : g.start < p.hint) (hstart : g.start ≤ f) :
    ¬ NoDoubleGrant allocator p live (r :: List.replicate (f - g.start + 1) .allocPage) := by
  have hstay : f ∈ liveAfter live (allocator.call p r).1 r := by
    refine ⟨.inl hf, ?_⟩
    intro g' hg'
    rw [Option.mem_def, hg] at hg'
    cases hg'
    exact hout
  have hnext : (allocator.call p r).2 = { p with hint := g.start } := by
    cases r with
    | allocPage | allocPages _ => cases hg
    | freePage page | freePages page _ =>
        cases hg
        exact congrArg (HintPool.mk _ _) (Nat.min_eq_right hhint.le)
  rintro ⟨_, hrest⟩
  refine doubleGrant_of_live hstay hpos ?_ ?_ hrest
  · rw [hnext]
    exact hlim
  · rw [hnext]
    simp only
    omega

/-- An allocator whose operations are those of a pool, seen through `pool`. -/
theorem simulates_of_ops {σ : Type*} {page : σ → Nat × σ} {multi : σ → Nat → Nat × σ}
    {free : σ → Nat → σ} {frees : σ → Nat → Nat → σ} {pool : σ → HintPool} {I : σ → Prop}
    {reach : Nat}
    (hpage : ∀ s, I s → (pool s).InReach reach .allocPage →
      Prod.map id pool (page s) = (pool s).allocPage ∧ I (page s).2)
    (hmulti : ∀ s n, I s → (pool s).InReach reach (.allocPages n) →
      Prod.map id pool (multi s n) = (pool s).allocPages n ∧ I (multi s n).2)
    (hfree : ∀ s f, I s → pool (free s f) = (pool s).freePage f ∧ I (free s f))
    (hfrees : ∀ s f n, I s → pool (frees s f n) = (pool s).freePages f n ∧ I (frees s f n)) :
    Simulates ⟨page, multi, free, frees⟩ allocator pool I (InReach reach) := by
  refine ⟨?_, ?_, ?_⟩
  · intro s r hI hok
    cases r with
    | allocPage => exact congrArg (granted · 1) (congrArg Prod.fst (hpage s hI hok).1)
    | allocPages n => exact congrArg (granted · n) (congrArg Prod.fst (hmulti s n hI hok).1)
    | freePage _ | freePages _ _ => rfl
  · intro s r hI hok
    cases r with
    | allocPage => exact congrArg Prod.snd (hpage s hI hok).1
    | allocPages n => exact congrArg Prod.snd (hmulti s n hI hok).1
    | freePage f => exact (hfree s f hI).1
    | freePages f n => exact (hfrees s f n hI).1
  · intro s r hI hok
    cases r with
    | allocPage => exact (hpage s hI hok).2
    | allocPages n => exact (hmulti s n hI hok).2
    | freePage f => exact (hfree s f hI).2
    | freePages f n => exact (hfrees s f n hI).2

section Simulated
variable {σ : Type*} {A : Allocator σ} {pool : σ → HintPool} {I : σ → Prop} {reach : Nat}

/-- Runs that stay in reach and whose frees keep the live frames below the hint
grant no frame twice. -/
theorem noDoubleGrant_of_simulates (sim : Simulates A allocator pool I (InReach reach)) {s : σ}
    {live : Set Nat} (hI : I s) (hlive : (pool s).LiveBelow live) {rs : List Request}
    (h : Along A (fun s live r => (pool s).InReach reach r ∧ (pool s).KeepsLiveBelow live r)
      s live rs) :
    NoDoubleGrant A s live rs := by
  refine (along_invariant (I := fun s live => I s ∧ (pool s).LiveBelow live) ?_ ⟨hI, hlive⟩ h).1
  rintro s live r ⟨hI, hlive⟩ ⟨hreach, hkeep⟩
  obtain ⟨hnew, hbelow⟩ := step_liveBelow (pool s) live r hlive hkeep
  rw [sim.grant s r hI hreach, sim.state s r hI hreach]
  exact ⟨hnew, sim.inv s r hI hreach, hbelow⟩

/-- Single requests below the reach stay in it. -/
theorem along_inReach {p : HintPool} (h : p.limit ≤ reach) {live : Set Nat} {rs : List Request}
    (hsingle : ∀ r ∈ rs, ∀ n, r ≠ .allocPages n) :
    Along allocator (fun p _ r => p.InReach reach r) p live rs := by
  induction rs generalizing p live with
  | nil => trivial
  | cons r rs ih =>
      have hrest := fun r hr => hsingle r (List.mem_cons_of_mem _ hr)
      cases r with
      | allocPage =>
          refine ⟨fun hlt => Nat.lt_of_lt_of_le hlt h, ih ?_ hrest⟩
          simp only [Allocator.call, allocator, allocPage]
          split_ifs <;> exact h
      | allocPages n => exact absurd rfl (hsingle _ List.mem_cons_self n)
      | freePage f => exact ⟨trivial, ih (p := p.freePage f) h hrest⟩
      | freePages f n => exact ⟨trivial, ih (p := p.freePages f n) h hrest⟩

/-- The converse: a free that moves the hint to or below a frame that stays live. -/
theorem doubleGrant_of_simulates (sim : Simulates A allocator pool I (InReach reach)) {s : σ}
    {live : Set Nat} (hI : I s) (hlimit : (pool s).limit ≤ reach) {r : Request} {g : Run} {f : Nat}
    (hg : r.freed = some g) (hf : f ∈ live) (hpos : 0 < f) (hlim : f < (pool s).limit)
    (hout : ¬ g.Has f) (hhint : g.start < (pool s).hint) (hstart : g.start ≤ f) :
    ¬ NoDoubleGrant A s live (r :: List.replicate (f - g.start + 1) .allocPage) := by
  have hreach : Along allocator (fun p _ r => p.InReach reach r) (pool s) live
      (r :: List.replicate (f - g.start + 1) .allocPage) := by
    apply along_inReach hlimit
    intro r' hr' n heq
    rw [heq] at hr'
    rcases List.mem_cons.mp hr' with rfl | hmem
    · cases hg
    · cases List.eq_of_mem_replicate hmem
  rw [sim.noDoubleGrant_iff hI hreach]
  exact doubleGrant_of_unsafe_free hg hf hpos hlim hout hhint hstart

end Simulated

end HintPool
end Frames
