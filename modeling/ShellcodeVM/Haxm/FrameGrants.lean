import ShellcodeVM.Lib.LiveRuns
import ShellcodeVM.Haxm.FrameSearch

/-!
The frame database over runs of the search, the fixed-address allocation and the
free. Every grant was free before and is marked, so live grants share no frame.
-/
namespace ShellcodeVM.Haxm
open Machine Frames

/-- A granted run as its caller knows it: the address returned and the page count. -/
structure Grant where
  address : Nat
  pages : Nat
deriving DecidableEq, Repr

/-- The frames of a grant. -/
def Grant.run (g : Grant) : Run where
  start := (pageIndex g.address).toNat
  count := g.pages

/-- A call that returned, with the address that it returned. -/
inductive FrameCall where
  | alloc (pages address : Nat)
  | allocAt (guestPhysicalAddr pages address : Nat)
  | free (g : Grant)
deriving DecidableEq, Repr

/-- An address of 0 is no grant. -/
def FrameCall.granted : FrameCall → Option Grant
  | .alloc pages address | .allocAt _ pages address =>
      if address = 0 then none else some ⟨address, pages⟩
  | .free _ => none

def FrameCall.freed : FrameCall → Option Grant
  | .free g => some g
  | .alloc _ _ | .allocAt _ _ _ => none

/-- A call on a database. It returns and stays inside the database. -/
inductive FrameCall.Returns : FrameCall → Memory → Memory → Prop where
  | alloc {db db' : Memory} {fuel pages address : Nat} (hpages : 1 ≤ pages)
      (h : allocPhysicalPages fuel db pages = some (.ok (address, db'))) :
      FrameCall.Returns (.alloc pages address) db db'
  | allocAt {db db' : Memory} {guestPhysicalAddr pages address : Nat}
      (haddr : guestPhysicalAddr < 2 ^ 64) (haligned : 4096 ∣ guestPhysicalAddr)
      (h : allocPhysicalPagesAt db guestPhysicalAddr pages = .ok (address, db')) :
      FrameCall.Returns (.allocAt guestPhysicalAddr pages address) db db'
  | free {db db' : Memory} {g : Grant} (h : freePhysicalPages db g.address g.pages = .ok db') :
      FrameCall.Returns (.free g) db db'

/-- Runs from a database of any content, with the grants that are live. A free gives
back a live grant. -/
inductive FrameRun : Memory → List Grant → Prop where
  | start (db : Memory) : FrameRun db []
  | call {db db' : Memory} {live : List Grant} {c : FrameCall} (h : FrameRun db live)
      (hlive : ∀ g ∈ c.freed, g ∈ live) (hc : c.Returns db db') :
      FrameRun db' (c.granted.toList ++ c.freed.elim live live.erase)

theorem pageIndex_pageAddress {i : Nat} (hi : i < frameDatabaseSize) :
    pageIndex (pageAddress i) = i := by
  have hshift : (i * 4096) >>> 12 = i := by
    rw [Nat.shiftRight_eq_div_pow]
    omega
  rw [pageIndex, pageAddress_eq hi, hshift, toInt32_small (by rw [frameDatabaseSize] at hi; omega)]

/-- What the fixed-address test has seen when all frames are free. -/
theorem allFree_spec {ramSize : Nat} {db : Memory} {n : Nat} {index : Int}
    (h : Ram.allFree ramSize db n index = .ok true) :
    ∀ k, k < n → 0 ≤ index + k ∧ index + k < ramSize ∧ db (index + k).toNat = pageFree := by
  induction n generalizing index with
  | zero => exact fun k hk => absurd hk (Nat.not_lt_zero k)
  | succ n ih =>
      rw [Ram.allFree] at h
      split_ifs at h with hin hmark
      · cases h
      · intro k hk
        cases k with
        | zero => simpa using ⟨hin.1, hin.2, not_not.mp hmark⟩
        | succ k =>
            have hnext := ih h k (Nat.lt_of_succ_lt_succ hk)
            rw [Nat.cast_succ, add_comm (k : Int) 1, ← add_assoc]
            exact hnext

/-- What a call does to the bytes: it marks a free run and grants it unless it starts
at frame 0, it marks a live run free, or it changes nothing and grants nothing. -/
inductive FrameEffect (db : Memory) : FrameCall → Memory → Prop where
  | grants {c : FrameCall} (start count : Nat) (hgrant : ∀ g ∈ c.granted, g.run = ⟨start, count⟩)
      (hfreed : c.freed = none) (hfree : ∀ f, (Run.mk start count).Has f → db f = pageFree) :
      FrameEffect db c (memset db start pageUsed count)
  | refuses {c : FrameCall} (hgrant : c.granted = none) (hfreed : c.freed = none) :
      FrameEffect db c db
  | frees {g : Grant} (start count : Nat) (hrun : g.run = ⟨start, count⟩) :
      FrameEffect db (.free g) (memset db start pageFree count)

theorem alloc_effect {db db' : Memory} {fuel pages address : Nat} (hpages : 1 ≤ pages)
    (h : allocPhysicalPages fuel db pages = some (.ok (address, db'))) :
    FrameEffect db (.alloc pages address) db' := by
  rw [allocPhysicalPages, Ram.allocPhysicalPages, Option.map_eq_some_iff] at h
  obtain ⟨found, hfound, hclaim⟩ := h
  cases found with
  | error fault => cases hclaim
  | ok found =>
      cases found with
      | none =>
          cases hclaim
          exact .refuses rfl rfl
      | some i =>
          cases hclaim
          have hrun := search_found hpages hfound
          refine .grants i pages ?_ rfl fun f hf => hrun.2 f hf.1 hf.2
          intro g hg
          rw [FrameCall.granted] at hg
          split_ifs at hg with hzero
          · cases hg
          · cases hg
            have hi : i < frameDatabaseSize := by
              have hend := hrun.1
              omega
            rw [Grant.run, pageIndex_pageAddress hi]
            rfl

theorem allocAt_effect {db db' : Memory} {guestPhysicalAddr pages address : Nat}
    (h : allocPhysicalPagesAt db guestPhysicalAddr pages = .ok (address, db')) :
    FrameEffect db (.allocAt guestPhysicalAddr pages address) db' := by
  cases htest : Ram.allFree frameDatabaseSize db pages (pageIndex guestPhysicalAddr) with
  | error fault =>
      simp only [allocPhysicalPagesAt, Ram.allocPhysicalPagesAt, htest] at h
      cases h
  | ok allFree =>
      simp only [allocPhysicalPagesAt, Ram.allocPhysicalPagesAt, htest] at h
      cases allFree with
      | false =>
          cases h
          exact .refuses rfl rfl
      | true =>
          cases h
          refine .grants (pageIndex guestPhysicalAddr).toNat pages ?_ rfl ?_
          · intro g hg
            rw [FrameCall.granted] at hg
            split_ifs at hg with hzero
            · cases hg
            · cases hg
              rfl
          · rintro f ⟨hstart, hend⟩
            dsimp only at hstart hend
            have hfirst := allFree_spec htest 0 (by omega)
            have hframe := allFree_spec htest (f - (pageIndex guestPhysicalAddr).toNat) (by omega)
            have hindex : (pageIndex guestPhysicalAddr +
                (f - (pageIndex guestPhysicalAddr).toNat : Nat)).toNat = f := by omega
            rw [← hindex]
            exact hframe.2.2

theorem free_effect {db db' : Memory} {g : Grant}
    (h : freePhysicalPages db g.address g.pages = .ok db') : FrameEffect db (.free g) db' := by
  rw [freePhysicalPages] at h
  split_ifs at h
  cases h
  exact .frees _ _ rfl

theorem FrameCall.Returns.effect {c : FrameCall} {db db' : Memory} (h : c.Returns db db') :
    FrameEffect db c db' := by
  cases h with
  | alloc hpages h => exact alloc_effect hpages h
  | allocAt _ _ h => exact allocAt_effect h
  | free h => exact free_effect h

/-- A frame that is marked as used. -/
def IsUsed (db : Memory) (f : Nat) : Prop := db f = pageUsed

theorem memset_run (db : Memory) (start count : Nat) (mark : UInt8) (f : Nat) :
    memset db start mark count f = if (Run.mk start count).Has f then mark else db f :=
  memset_apply db start mark count f

theorem FrameEffect.marksLive {db db' : Memory} {c : FrameCall} (h : FrameEffect db c db')
    {live : List Grant} (hfreed : ∀ g ∈ c.freed, g ∈ live)
    (hmarks : MarksLive (IsUsed db) (live.map Grant.run)) :
    MarksLive (IsUsed db')
      ((c.granted.toList ++ c.freed.elim live live.erase).map Grant.run) := by
  cases h with
  | grants start count hgrant hnone hfree =>
      have hmore : ∀ f, IsUsed db f → IsUsed (memset db start pageUsed count) f := by
        intro f hf
        rw [IsUsed, memset_run]
        split_ifs
        · rfl
        · exact hf
      rw [hnone]
      cases hg : c.granted with
      | none => exact hmarks.mono hmore
      | some g =>
          have hrun := hgrant g hg
          simp only [Option.toList, Option.elim, List.cons_append, List.nil_append, List.map_cons,
            hrun]
          refine hmarks.grant ?_ hmore ?_
          · intro f hf hused
            rw [IsUsed, hfree f hf] at hused
            exact absurd hused (by decide)
          · intro f hf
            rw [IsUsed, memset_run, if_pos hf]
  | refuses hgrant hnone =>
      rw [hgrant, hnone]
      exact hmarks
  | frees start count hrun =>
      have hperm := (List.perm_cons_erase (hfreed _ rfl)).map Grant.run
      rw [List.map_cons, hrun] at hperm
      refine hmarks.release hperm ?_
      intro f hout hused
      rw [IsUsed, memset_run, if_neg hout]
      exact hused

theorem FrameRun.marksLive {db : Memory} {live : List Grant} (h : FrameRun db live) :
    MarksLive (IsUsed db) (live.map Grant.run) := by
  induction h with
  | start db => exact marksLive_nil _
  | call _ hlive hc ih => exact hc.effect.marksLive hlive ih

/-- The frames of a grant were free, and a call that grants or frees a run changes
nothing outside it. -/
structure GrantsFreeRun (db : Memory) (c : FrameCall) (db' : Memory) : Prop where
  free : ∀ g ∈ c.granted, ∀ f, g.run.Has f → db f = pageFree
  outside : ∀ g, g ∈ c.granted ∨ g ∈ c.freed → ∀ f, ¬ g.run.Has f → db' f = db f

theorem FrameEffect.grantsFreeRun {db db' : Memory} {c : FrameCall} (h : FrameEffect db c db') :
    GrantsFreeRun db c db' := by
  cases h with
  | grants start count hgrant hnone hfree =>
      refine ⟨fun g hg f hf => hfree f (hgrant g hg ▸ hf), ?_⟩
      intro g hg f hout
      rw [hnone] at hg
      rcases hg with hg | hg
      · rw [memset_run, if_neg (hgrant g hg ▸ hout)]
      · cases hg
  | refuses hgrant hnone =>
      refine ⟨fun g hg => ?_, fun g _ f _ => rfl⟩
      rw [hgrant] at hg
      cases hg
  | frees start count hrun =>
      refine ⟨fun g' hg => (by cases hg), ?_⟩
      intro g' hg f hout
      rcases hg with hg | hg
      · cases hg
      · cases hg
        rw [memset_run, if_neg (hrun ▸ hout)]

/-- In every run the live grants share no frame and all their frames are marked, and
every further call grants only free frames and touches no others. -/
theorem frameDatabase_neverDoubleGrants {db : Memory} {live : List Grant} (h : FrameRun db live) :
    (live.Pairwise fun g g' => g.run.Apart g'.run) ∧
      (∀ g ∈ live, ∀ f, g.run.Has f → db f = pageUsed) ∧
      ∀ c db', (∀ g ∈ c.freed, g ∈ live) → c.Returns db db' → GrantsFreeRun db c db' := by
  have hmarks := h.marksLive
  refine ⟨List.pairwise_map.mp hmarks.apart, ?_, fun c db' _ hc => hc.effect.grantsFreeRun⟩
  intro g hg f hf
  exact hmarks.marked g.run (List.mem_map_of_mem hg) f hf

/-- Behind the used frame 0 one frame is granted, then two; the first is freed and granted
again. -/
theorem frameDatabase_neverDoubleGrants_regrant :
    ∃ db, FrameRun db [⟨0x1000, 1⟩, ⟨0x2000, 2⟩] ∧
      ([Grant.mk 0x1000 1, Grant.mk 0x2000 2].Pairwise fun g g' => g.run.Apart g'.run) ∧
      (∀ g ∈ [Grant.mk 0x1000 1, Grant.mk 0x2000 2], ∀ f, g.run.Has f → db f = pageUsed) ∧
      ∀ c db', (∀ g ∈ c.freed, g ∈ [Grant.mk 0x1000 1, Grant.mk 0x2000 2]) → c.Returns db db' →
        GrantsFreeRun db c db' := by
  let db₀ : Memory := fun f => if f = 0 then pageUsed else pageFree
  let db₁ := memset db₀ 1 pageUsed 1
  let db₂ := memset db₁ 2 pageUsed 2
  let db₃ := memset db₂ 1 pageFree 1
  have halloc₁ : allocPhysicalPages 2 db₀ 1 = some (.ok (0x1000, db₁)) := rfl
  have halloc₂ : allocPhysicalPages 3 db₁ 2 = some (.ok (0x2000, db₂)) := rfl
  have hfree : freePhysicalPages db₂ 0x1000 1 = .ok db₃ := rfl
  have halloc₃ : allocPhysicalPages 2 db₃ 1 = some (.ok (0x1000, memset db₃ 1 pageUsed 1)) := rfl
  have hrun₁ := (FrameRun.start db₀).call (fun g hg => by cases hg) (.alloc (le_refl 1) halloc₁)
  have hrun₂ := hrun₁.call (fun g hg => by cases hg) (.alloc (by decide) halloc₂)
  have hlive : ∀ g ∈ (FrameCall.free ⟨0x1000, 1⟩).freed, g ∈ [Grant.mk 0x2000 2, ⟨0x1000, 1⟩] := by
    decide
  have hrun₃ := hrun₂.call hlive (.free hfree)
  have hrun := hrun₃.call (fun g hg => by cases hg) (.alloc (le_refl 1) halloc₃)
  obtain ⟨hpairs, hused, hcalls⟩ := frameDatabase_neverDoubleGrants hrun
  exact ⟨_, hrun, hpairs, hused, hcalls⟩

end ShellcodeVM.Haxm
