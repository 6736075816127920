import ShellcodeVM.Lib.Frames

/-!
Live runs of frames over a map that marks frames as used: the runs are pairwise
apart and all their frames are marked. Granting a run without a marked frame and
giving back a live run keep this.
-/
namespace Frames
variable {used used' : Nat → Prop} {live rest : List Run} {r : Run}

theorem Run.Apart.symm {r s : Run} (h : r.Apart s) : s.Apart r :=
  fun f hs hr => h f hr hs

structure MarksLive (used : Nat → Prop) (live : List Run) : Prop where
  apart : live.Pairwise Run.Apart
  marked : ∀ r ∈ live, ∀ f, r.Has f → used f

theorem marksLive_nil (used : Nat → Prop) : MarksLive used [] where
  apart := .nil
  marked _ hr := absurd hr List.not_mem_nil

/-- More marks do no harm. -/
theorem MarksLive.mono (h : MarksLive used live) (hmore : ∀ f, used f → used' f) :
    MarksLive used' live where
  apart := h.apart
  marked r hr f hf := hmore f (h.marked r hr f hf)

theorem MarksLive.grant (h : MarksLive used live) (hunmarked : ∀ f, r.Has f → ¬ used f)
    (hmore : ∀ f, used f → used' f) (hrun : ∀ f, r.Has f → used' f) :
    MarksLive used' (r :: live) where
  apart := by
    refine List.pairwise_cons.mpr ⟨?_, h.apart⟩
    intro s hs f hr hf
    exact hunmarked f hr (h.marked s hs f hf)
  marked := by
    intro s hs f hf
    cases hs with
    | head => exact hrun f hf
    | tail _ hs => exact hmore f (h.marked s hs f hf)

theorem MarksLive.release (h : MarksLive used live) (hperm : live.Perm (r :: rest))
    (hkept : ∀ f, ¬ r.Has f → used f → used' f) : MarksLive used' rest := by
  have hapart := (hperm.pairwise_iff fun hs => hs.symm).mp h.apart
  rw [List.pairwise_cons] at hapart
  refine ⟨hapart.2, ?_⟩
  intro s hs f hf
  refine hkept f (fun hr => hapart.1 s hs f hr hf) (h.marked s ?_ f hf)
  exact hperm.mem_iff.mpr (List.mem_cons_of_mem _ hs)

end Frames
