import ShellcodeVM.VM.PageFrameHint
import ShellcodeVM.GuestOS.PagerHint

/-!
The hint of both frame allocators loses no frame: in every state reached, the frames
that a search skips are live, and a search that finds none finds all of them live.
-/
namespace ShellcodeVM
open Machine Frames VM GuestOS

theorem asksFor_two {limit : Nat} (h : 2 ≤ limit) : AsksFor limit (.allocPages 2) := by
  rintro pages ⟨⟩
  exact ⟨by decide, h⟩

theorem asksFor_freePages (limit start pages : Nat) : AsksFor limit (.freePages start pages) :=
  fun _ hr => by cases hr

/-- A page, a run of two frames, and the run given back: the hint is as after the page, and
the frames of the run are free again. -/
theorem reaches_freed {σ : Type*} (A : Allocator σ) (found : σ → Request → Option Run)
    {limit f : Nat} (hlimit : 2 ≤ limit) (s : σ) {t : σ} {live : Set Nat}
    (ht : t = (A.call (A.call s .allocPage).2 (.allocPages 2)).2)
    (hrun : found (A.call s .allocPage).2 (.allocPages 2) = some ⟨f, 2⟩) :
    ∃ live', Reaches A found (AsksFor limit) s live (A.call t (.freePages f 2)).2 live' ∧
      f ∉ live' := by
  have hstart : Reaches A found (AsksFor limit) s live s live := .start
  have hpage := hstart.call (asksFor_allocPage limit) (fun _ hg => by cases hg)
  have hpages := hpage.call (asksFor_two hlimit) (fun _ hg => by cases hg)
  rw [← ht] at hpages
  refine ⟨_, hpages.call (asksFor_freePages limit f 2) ?_, ?_⟩
  · rintro g ⟨⟩ k hk
    exact ⟨.inr ⟨_, hrun, hk⟩, by rintro g ⟨⟩⟩
  · rintro ⟨-, hkept⟩
    exact hkept ⟨f, 2⟩ rfl ⟨le_refl f, by dsimp only; omega⟩

/-- The calls of `reaches_freed`, on seven frames of the host. -/
def hostFreed : PageFrameDatabase :=
  ((((PageFrameDatabase.new fun _ => 0).init 0x7000).2.allocPhysicalPage.2.allocPhysicalPages
    2).2).freePhysicalPages 2 2

/-- The same calls in the guest, on the frames 1 to 6. -/
def guestFreed : Memory × Pager :=
  (((⟨0, 0, 1, 7, 1, 0, true⟩ : Pager).allocPhysicalPage fun _ => 0).2.allocPhysicalPages
    (fun _ => 0) 2).2.freePhysicalPages (fun _ => 0) 2 2

end ShellcodeVM
