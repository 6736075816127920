import ShellcodeVM.Lib.HintPool

/-!
Hint allocators over runs in which a frame counts as granted when the search finds
it, whatever its address: every frame below the hint is live, so an allocator that
finds nothing has granted everything.
-/
namespace Frames

section Runs
variable {σ : Type*}

/-- The states and the live frames that are reached by requests that meet `ok` and
give back live frames only. -/
inductive Reaches (A : Allocator σ) (found : σ → Request → Option Run) (ok : Request → Prop)
    (s₀ : σ) (live₀ : Set Nat) : σ → Set Nat → Prop where
  | start : Reaches A found ok s₀ live₀ s₀ live₀
  | call {s : σ} {live : Set Nat} {r : Request} (h : Reaches A found ok s₀ live₀ s live)
      (hok : ok r) (hfreed : ∀ g ∈ r.freed, ∀ f, g.Has f → f ∈ live) :
      Reaches A found ok s₀ live₀ (A.call s r).2 (liveAfter live (found s r) r)

/-- Multi-page requests ask for something, and not for more than there is. -/
def AsksFor (limit : Nat) (r : Request) : Prop :=
  ∀ pages, r = .allocPages pages → 1 ≤ pages ∧ pages ≤ limit

theorem asksFor_allocPage (limit : Nat) : AsksFor limit .allocPage :=
  fun _ hr => by cases hr

theorem call_allocPages {page : σ → Nat × σ} {multi : σ → Nat → Nat × σ} {free : σ → Nat → σ}
    {frees : σ → Nat → Nat → σ} (s : σ) (n : Nat) :
    (Allocator.call ⟨page, multi, free, frees⟩ s (.allocPages n)).2 = (multi s n).2 :=
  rfl

/-- What each operation keeps, every call keeps. -/
theorem call_keeps {page : σ → Nat × σ} {multi : σ → Nat → Nat × σ} {free : σ → Nat → σ}
    {frees : σ → Nat → Nat → σ} {I : σ → Prop} {s : σ} (hpage : I (page s).2)
    (hmulti : ∀ n, I (multi s n).2) (hfree : ∀ f, I (free s f)) (hfrees : ∀ f n, I (frees s f n))
    (r : Request) : I (Allocator.call ⟨page, multi, free, frees⟩ s r).2 := by
  cases r with
  | allocPage => exact hpage
  | allocPages n => exact hmulti n
  | freePage f => exact hfree f
  | freePages f n => exact hfrees f n

end Runs

namespace HintPool

/-- The run that a request is granted. -/
def found (p : HintPool) : Request → Option Run
  | .allocPage => if p.hint < p.limit then some ⟨p.hint, 1⟩ else none
  | .allocPages pages => if p.hint < p.bound pages then some ⟨p.hint, pages⟩ else none
  | .freePage _ | .freePages _ _ => none

/-- Every frame from the floor up to the hint is live. -/
def Covered (floor : Nat) (p : HintPool) (live : Set Nat) : Prop :=
  ∀ f, floor ≤ f → f < p.hint → f ∈ live

/-- The hint moves past what was granted. -/
theorem Covered.grant {floor : Nat} {p : HintPool} {live : Set Nat} (h : p.Covered floor live)
    {r : Request} (hr : r.freed = none) (n : Nat) :
    Covered floor { p with hint := p.hint + n } (liveAfter live (some ⟨p.hint, n⟩) r) := by
  intro f hfloor hf
  refine ⟨?_, ?_⟩
  · by_cases hlt : f < p.hint
    · exact .inl (h f hfloor hlt)
    · exact .inr ⟨_, rfl, Nat.le_of_not_lt hlt, hf⟩
  · rw [hr]
    rintro g ⟨⟩

/-- A free moves the hint to or below the run that is given back. -/
theorem Covered.free {floor : Nat} {p : HintPool} {live : Set Nat} (h : p.Covered floor live)
    {r : Request} {g : Run} (hr : r.freed = some g) :
    Covered floor { p with hint := min p.hint g.start } (liveAfter live none r) := by
  intro f hfloor hf
  have hlow : f < p.hint ∧ f < g.start := lt_min_iff.mp hf
  refine ⟨.inl (h f hfloor hlow.1), ?_⟩
  rw [hr]
  rintro g' ⟨⟩ hhas
  exact absurd hhas.1 (Nat.not_le.mpr hlow.2)

theorem Covered.refuse {floor : Nat} {p : HintPool} {live : Set Nat} (h : p.Covered floor live)
    {r : Request} (hr : r.freed = none) : Covered floor p (liveAfter live none r) := by
  intro f hfloor hf
  refine ⟨.inl (h f hfloor hf), ?_⟩
  rw [hr]
  rintro g ⟨⟩

theorem Covered.call {floor : Nat} {p : HintPool} {live : Set Nat} (h : p.Covered floor live)
    (r : Request) :
    Covered floor (allocator.call p r).2 (liveAfter live (p.found r) r) := by
  cases r with
  | allocPage =>
      simp only [Allocator.call, allocator, allocPage, found]
      split_ifs with hlt
      · exact h.grant rfl 1
      · exact h.refuse rfl
  | allocPages pages =>
      simp only [Allocator.call, allocator, allocPages, found]
      split_ifs with hlt
      · exact h.grant rfl pages
      · exact h.refuse rfl
  | freePage page => exact h.free (g := ⟨page, 1⟩) rfl
  | freePages start pages => exact h.free (g := ⟨start, pages⟩) rfl

section Simulated
variable {σ : Type*} {A : Allocator σ} {found : σ → Request → Option Run} {pool : σ → HintPool}
  {I : σ → Prop} {ok : Request → Prop}

/-- An allocator whose searches find what the pool grants. -/
structure FindsAsPool (A : Allocator σ) (found : σ → Request → Option Run) (pool : σ → HintPool)
    (I : σ → Prop) (ok : Request → Prop) : Prop where
  found : ∀ s r, I s → ok r → found s r = (pool s).found r
  state : ∀ s r, I s → ok r → pool (A.call s r).2 = (allocator.call (pool s) r).2
  inv : ∀ s r, I s → ok r → I (A.call s r).2

/-- The four operations one by one. -/
theorem findsAsPool_of_ops {page : σ → Nat × σ} {multi : σ → Nat → Nat × σ} {free : σ → Nat → σ}
    {frees : σ → Nat → Nat → σ} (hfound : ∀ s r, I s → ok r → found s r = (pool s).found r)
    (hpage : ∀ s, I s → pool (page s).2 = (pool s).allocPage.2 ∧ I (page s).2)
    (hmulti : ∀ s n, I s → ok (.allocPages n) →
      pool (multi s n).2 = ((pool s).allocPages n).2 ∧ I (multi s n).2)
    (hfree : ∀ s f, I s → pool (free s f) = (pool s).freePage f ∧ I (free s f))
    (hfrees : ∀ s f n, I s → pool (frees s f n) = (pool s).freePages f n ∧ I (frees s f n)) :
    FindsAsPool ⟨page, multi, free, frees⟩ found pool I ok where
  found := hfound
  state s r hI hok := by
    cases r with
    | allocPage => exact (hpage s hI).1
    | allocPages n => exact (hmulti s n hI hok).1
    | freePage f => exact (hfree s f hI).1
    | freePages f n => exact (hfrees s f n hI).1
  inv s r hI hok := by
    cases r with
    | allocPage => exact (hpage s hI).2
    | allocPages n => exact (hmulti s n hI hok).2
    | freePage f => exact (hfree s f hI).2
    | freePages f n => exact (hfrees s f n hI).2

theorem covered_of_reaches (sim : FindsAsPool A found pool I ok) {floor : Nat} {s₀ s : σ}
    {live₀ live : Set Nat} (hI : I s₀) (hlive : (pool s₀).Covered floor live₀)
    (h : Reaches A found ok s₀ live₀ s live) : I s ∧ (pool s).Covered floor live := by
  induction h with
  | start => exact ⟨hI, hlive⟩
  | call _ hok _ ih =>
      refine ⟨sim.inv _ _ ih.1 hok, ?_⟩
      rw [sim.state _ _ ih.1 hok, sim.found _ _ ih.1 hok]
      exact ih.2.call _

/-- An allocator that finds no frame has granted every one of them. -/
theorem Covered.exhausted {floor : Nat} {p : HintPool} {live : Set Nat} (h : p.Covered floor live)
    (hnone : p.found .allocPage = none) : ∀ f, floor ≤ f → f < p.limit → f ∈ live := by
  intro f hfloor hf
  refine h f hfloor ?_
  by_contra hlow
  rw [HintPool.found, if_pos (by omega)] at hnone
  cases hnone

end Simulated
end HintPool
end Frames
