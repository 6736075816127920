import ShellcodeVM.VM.PageFrameGrants
import ShellcodeVM.GuestOS.PagerGrants

/-!
Double grants by the two hint allocators, `page_frame_database` and `PAGER`:
the runs that make none, the frees that lead to one, and a run of five calls
that makes one in each.
-/
namespace ShellcodeVM
open Machine Frames

/-- What a call must meet for the frames granted so far to stay reserved. -/
def KeepsReservations {σ : Type*} (pool : σ → HintPool) (reach : Nat) (s : σ) (live : Set Nat)
    (r : Request) : Prop :=
  (pool s).InReach reach r ∧ (pool s).KeepsLiveBelow live r

theorem liveBelow_empty (p : HintPool) : p.LiveBelow ∅ := by
  intro f hf
  cases hf

theorem unmarked_cleared (database : Memory) {p : GuestOS.Pager} (h : p.databaseUsable = true) :
    GuestOS.Pager.Unmarked (memset database 0 pageFree (mb 1), p) := by
  have hsize : mb 1 = GuestOS.Pager.reach := by decide
  refine ⟨h, ?_⟩
  intro i hi
  exact memset_inside database _ ⟨Nat.zero_le i, by omega⟩

/-- After `Init`, and over a database as `create_database` leaves it, no frame is
granted twice in the runs whose frees keep every live frame below the hint. -/
theorem noDoubleGrant_of_keepsReservations (rs : List Request) (db : VM.PageFrameDatabase)
    (memSize : Nat) (database : Memory) (p : GuestOS.Pager) :
    (Along VM.PageFrameDatabase.allocator
        (KeepsReservations VM.PageFrameDatabase.pool VM.PageFrameDatabase.reach)
        (db.init memSize).2 ∅ rs →
      NoDoubleGrant VM.PageFrameDatabase.allocator (db.init memSize).2 ∅ rs) ∧
    (p.databaseUsable = true →
      Along GuestOS.Pager.allocator
        (KeepsReservations GuestOS.Pager.pool GuestOS.Pager.reach)
        (memset database 0 pageFree (mb 1), p) ∅ rs →
      NoDoubleGrant GuestOS.Pager.allocator (memset database 0 pageFree (mb 1), p) ∅ rs) := by
  refine ⟨?_, ?_⟩
  · intro h
    exact HintPool.noDoubleGrant_of_simulates VM.PageFrameDatabase.simulates_pool
      (VM.PageFrameDatabase.init_unmarked db memSize).1 (liveBelow_empty _) h
  · intro husable h
    exact HintPool.noDoubleGrant_of_simulates GuestOS.Pager.simulates_pool
      (unmarked_cleared database husable) (liveBelow_empty _) h

theorem keepsLiveBelow_allocPage (p : HintPool) (live : Set Nat) :
    p.KeepsLiveBelow live .allocPage := by
  intro g h
  cases h

/-- Grant a frame, give it back, grant it again. -/
theorem keepsReservations_reuse {σ : Type*} {A : Allocator σ} {pool : σ → HintPool} {I : σ → Prop}
    {reach w : Nat} (sim : Simulates A HintPool.allocator pool I (HintPool.InReach reach)) {s : σ}
    (hI : I s) (hpool : pool s = ⟨w, 16, 1⟩) (hreach : 16 ≤ reach) :
    Along A (KeepsReservations pool reach) s ∅ [.allocPage, .freePage 1, .allocPage] := by
  have hlimit : (pool s).limit ≤ reach := by
    rw [hpool]
    exact hreach
  have hok : Along HintPool.allocator (fun p _ r => p.InReach reach r) (pool s) ∅
      [.allocPage, .freePage 1, .allocPage] := by
    apply HintPool.along_inReach hlimit
    simp
  apply (sim.along_iff (P := KeepsReservations pool reach)
    (Q := fun p live r => p.InReach reach r ∧ p.KeepsLiveBelow live r)
    (fun _ _ _ _ _ => Iff.rfl) hI hok).mpr
  obtain ⟨hfirst, hsecond, hthird, _⟩ := hok
  refine ⟨⟨hfirst, keepsLiveBelow_allocPage _ _⟩, ⟨hsecond, ?_⟩,
    ⟨hthird, keepsLiveBelow_allocPage _ _⟩, trivial⟩
  have hcall : HintPool.allocator.call ⟨w, 16, 1⟩ .allocPage = (some ⟨1, 1⟩, ⟨w, 16, 2⟩) :=
    HintPool.call_allocPage (by decide : 0 < 1) (by decide : 1 < 16)
  rw [hpool, hcall]
  -- the only live frame is the one that is freed
  rintro g ⟨⟩ f ⟨hmem | ⟨g', ⟨⟩, hf⟩, _⟩ hout
  · cases hmem
  · exact absurd hf hout

theorem init_pool_sixteen (fresh : Memory) :
    ((VM.PageFrameDatabase.new fresh).init 0x10000).2.pool = ⟨2 ^ 64, 16, 1⟩ := by
  have hpages : VM.sizeToPages 0x10000 = 16 := by decide
  rw [(VM.PageFrameDatabase.init_unmarked _ _).2, hpages]
  exact congrArg Prod.snd (if_pos (by decide : 0 < 16))

/-- A `PAGER` whose database of 16 frames is in use. -/
def pagerSixteen : GuestOS.Pager :=
  { GuestOS.Pager.new with
    pageFrameMin := 1, pageFrameMax := 16, nextFreePageFrame := 1, databaseUsable := true }

theorem noDoubleGrant_of_keepsReservations_reuse :
    NoDoubleGrant VM.PageFrameDatabase.allocator
      ((VM.PageFrameDatabase.new fun _ => 0).init 0x10000).2 ∅
      [.allocPage, .freePage 1, .allocPage] ∧
    NoDoubleGrant GuestOS.Pager.allocator (memset (fun _ => 0xff) 0 pageFree (mb 1), pagerSixteen) ∅
      [.allocPage, .freePage 1, .allocPage] :=
  ⟨(noDoubleGrant_of_keepsReservations _ _ _ (fun _ => 0xff) pagerSixteen).1
      (keepsReservations_reuse VM.PageFrameDatabase.simulates_pool
        (VM.PageFrameDatabase.init_unmarked _ _).1 (init_pool_sixteen _) (by decide)),
    (noDoubleGrant_of_keepsReservations _ (.new fun _ => 0) 0x10000 _ _).2 rfl
      (keepsReservations_reuse GuestOS.Pager.simulates_pool
        (unmarked_cleared _ rfl) rfl (by decide))⟩

/-- Conversely, once a free has moved the hint to or below a frame that stays
live, single allocations grant that frame again. -/
theorem pageFrameDatabase_doubleGrant {db : VM.PageFrameDatabase} (h : db.Unmarked)
    (hlimit : db.pageFrameMax ≤ VM.PageFrameDatabase.reach) {live : Set Nat} {r : Request}
    {g : Run} {f : Nat} (hg : r.freed = some g) (hf : f ∈ live) (hpos : 0 < f)
    (hmax : f < db.pageFrameMax) (hout : ¬ g.Has f) (hhint : g.start < db.nextFreePageFrame)
    (hstart : g.start ≤ f) :
    ¬ NoDoubleGrant VM.PageFrameDatabase.allocator db live
      (r :: List.replicate (f - g.start + 1) .allocPage) :=
  HintPool.doubleGrant_of_simulates VM.PageFrameDatabase.simulates_pool h hlimit hg hf hpos hmax
    hout hhint hstart

theorem pager_doubleGrant {database : Memory} {p : GuestOS.Pager}
    (h : GuestOS.Pager.Unmarked (database, p)) (hlimit : p.pageFrameMax ≤ GuestOS.Pager.reach)
    {live : Set Nat} {r : Request} {g : Run} {f : Nat} (hg : r.freed = some g) (hf : f ∈ live)
    (hpos : 0 < f) (hmax : f < p.pageFrameMax) (hout : ¬ g.Has f)
    (hhint : g.start < p.nextFreePageFrame) (hstart : g.start ≤ f) :
    ¬ NoDoubleGrant GuestOS.Pager.allocator (database, p) live
      (r :: List.replicate (f - g.start + 1) .allocPage) :=
  HintPool.doubleGrant_of_simulates GuestOS.Pager.simulates_pool h hlimit hg hf hpos hmax
    hout hhint hstart

/-- Grant frames 1 and 2, give 1 back, grant again twice. -/
def freeThenReuse : List Request :=
  [.allocPage, .allocPage, .freePage 1, .allocPage, .allocPage]

theorem legalRequest_allocPage (live : Set Nat) : LegalRequest live .allocPage := by
  refine ⟨?_, ?_⟩
  · intro pages h
    cases h
  · intro g h
    cases h

/-- After the two grants. -/
theorem freeThenReuse_granted (w : Nat) :
    ∃ live, after HintPool.allocator ⟨w, 16, 1⟩ ∅ [.allocPage, .allocPage] = (⟨w, 16, 3⟩, live) ∧
      1 ∈ live ∧ 2 ∈ live := by
  have hfirst : HintPool.allocator.call ⟨w, 16, 1⟩ .allocPage = (some ⟨1, 1⟩, ⟨w, 16, 2⟩) :=
    HintPool.call_allocPage (by decide : 0 < 1) (by decide : 1 < 16)
  have hsecond : HintPool.allocator.call ⟨w, 16, 2⟩ .allocPage = (some ⟨2, 1⟩, ⟨w, 16, 3⟩) :=
    HintPool.call_allocPage (by decide : 0 < 2) (by decide : 2 < 16)
  rw [after, after, after, hfirst, hsecond]
  refine ⟨_, rfl, ?_, ?_⟩
  · exact ⟨.inl ⟨.inr ⟨_, rfl, by decide⟩, by rintro g ⟨⟩⟩, by rintro g ⟨⟩⟩
  · exact ⟨.inr ⟨_, rfl, by decide⟩, by rintro g ⟨⟩⟩

theorem freeThenReuse_legal (w : Nat) :
    Legal HintPool.allocator ⟨w, 16, 1⟩ ∅ freeThenReuse := by
  obtain ⟨live, hafter, hone, _⟩ := freeThenReuse_granted w
  have hfree : LegalRequest live (.freePage 1) := by
    refine ⟨?_, ?_⟩
    · intro pages h
      cases h
    · rintro g ⟨⟩ f hf
      have hf : f = 1 := by
        simp only [Run.Has] at hf
        omega
      rw [hf]
      exact hone
  change Legal _ _ _ ([.allocPage, .allocPage] ++ [.freePage 1, .allocPage, .allocPage])
  rw [Legal, along_append, hafter]
  exact ⟨⟨legalRequest_allocPage _, legalRequest_allocPage _, trivial⟩, hfree,
    legalRequest_allocPage _, legalRequest_allocPage _, trivial⟩

theorem freeThenReuse_doubleGrant (w : Nat) :
    ¬ NoDoubleGrant HintPool.allocator ⟨w, 16, 1⟩ ∅ freeThenReuse := by
  obtain ⟨live, hafter, _, htwo⟩ := freeThenReuse_granted w
  intro hno
  have hrest := along_append.mp (show NoDoubleGrant _ _ _
    ([.allocPage, .allocPage] ++ [.freePage 1, .allocPage, .allocPage]) from hno)
  rw [hafter] at hrest
  have hlow : 1 < 3 := by decide
  have hmanaged : 2 < 16 := by decide
  exact HintPool.doubleGrant_of_unsafe_free (g := ⟨1, 1⟩) (f := 2) rfl htwo (by decide)
    hmanaged (by decide) hlow (by decide) hrest.2

theorem freeThenReuse_simulated {σ : Type*} {A : Allocator σ} {pool : σ → HintPool} {I : σ → Prop}
    {reach w : Nat} (sim : Simulates A HintPool.allocator pool I (HintPool.InReach reach)) {s : σ}
    (hI : I s) (hpool : pool s = ⟨w, 16, 1⟩) (hreach : 16 ≤ reach) :
    Legal A s ∅ freeThenReuse ∧ ¬ NoDoubleGrant A s ∅ freeThenReuse := by
  have hok : Along HintPool.allocator (fun p _ r => p.InReach reach r) (pool s) ∅ freeThenReuse := by
    rw [hpool]
    apply HintPool.along_inReach hreach
    simp [freeThenReuse]
  rw [sim.legal_iff hI hok, sim.noDoubleGrant_iff hI hok, hpool]
  exact ⟨freeThenReuse_legal w, freeThenReuse_doubleGrant w⟩

theorem doubleGrant_freeThenReuse :
    (Legal VM.PageFrameDatabase.allocator
        ((VM.PageFrameDatabase.new fun _ => 0).init 0x10000).2 ∅ freeThenReuse ∧
      ¬ NoDoubleGrant VM.PageFrameDatabase.allocator
        ((VM.PageFrameDatabase.new fun _ => 0).init 0x10000).2 ∅ freeThenReuse) ∧
    (Legal GuestOS.Pager.allocator (memset (fun _ => 0xff) 0 pageFree (mb 1), pagerSixteen) ∅
        freeThenReuse ∧
      ¬ NoDoubleGrant GuestOS.Pager.allocator
        (memset (fun _ => 0xff) 0 pageFree (mb 1), pagerSixteen) ∅ freeThenReuse) :=
  ⟨freeThenReuse_simulated VM.PageFrameDatabase.simulates_pool
      (VM.PageFrameDatabase.init_unmarked _ _).1 (init_pool_sixteen _) (by decide),
    freeThenReuse_simulated GuestOS.Pager.simulates_pool (unmarked_cleared _ rfl) rfl (by decide)⟩

end ShellcodeVM
