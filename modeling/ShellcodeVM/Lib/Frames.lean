import Mathlib.Data.Set.Basic
import Mathlib.Tactic

/-!
Page-frame allocators as components that are called over and over: the runs of
frames they grant, the frames that are live, and what holds along a run of calls.

An allocator returns byte addresses and 0 for failure. `HintPool` is the
abstract allocator that knows nothing about a frame but a hint below which it
does not look; the runs in which it grants no frame twice are exactly those in
which no free moves the hint to or below a frame that stays live.
-/
namespace Frames

structure Run where
  start : Nat
  count : Nat
deriving DecidableEq, Repr

def Run.Has (r : Run) (f : Nat) : Prop := r.start ≤ f ∧ f < r.start + r.count

instance (r : Run) (f : Nat) : Decidable (r.Has f) := inferInstanceAs (Decidable (_ ∧ _))

/-- Two runs share no frame. -/
def Run.Apart (r s : Run) : Prop := ∀ f, r.Has f → ¬ s.Has f

inductive Request where
  | allocPage
  | allocPages (pages : Nat)
  | freePage (page : Nat)
  | freePages (start pages : Nat)
deriving DecidableEq, Repr

/-- The run that a request gives back. -/
def Request.freed : Request → Option Run
  | freePage page => some ⟨page, 1⟩
  | freePages start pages => some ⟨start, pages⟩
  | allocPage | allocPages _ => none

structure Allocator (σ : Type*) where
  allocPage : σ → Nat × σ
  allocPages : σ → Nat → Nat × σ
  freePage : σ → Nat → σ
  freePages : σ → Nat → Nat → σ

def granted (address count : Nat) : Option Run :=
  if address = 0 then none else some ⟨address / 4096, count⟩

section Runs
variable {σ τ : Type*} (A : Allocator σ) (B : Allocator τ)

/-- The run granted by a request, if any, and the state after it. -/
def Allocator.call (s : σ) : Request → Option Run × σ
  | .allocPage => (granted (A.allocPage s).1 1, (A.allocPage s).2)
  | .allocPages pages => (granted (A.allocPages s pages).1 pages, (A.allocPages s pages).2)
  | .freePage page => (none, A.freePage s page)
  | .freePages start pages => (none, A.freePages s start pages)

/-- The live frames after a request: granted and not given back. -/
def liveAfter (live : Set Nat) (grant : Option Run) (r : Request) : Set Nat :=
  {f | (f ∈ live ∨ ∃ g ∈ grant, g.Has f) ∧ ∀ g ∈ r.freed, ¬ g.Has f}

/-- A condition on state, live frames and request holds at every call of a run. -/
def Along (P : σ → Set Nat → Request → Prop) : σ → Set Nat → List Request → Prop
  | _, _, [] => True
  | s, live, r :: rs =>
      P s live r ∧ Along P (A.call s r).2 (liveAfter live (A.call s r).1 r) rs

/-- Multi-page requests ask for something, and only live frames are freed. -/
def LegalRequest (live : Set Nat) (r : Request) : Prop :=
  (∀ pages, r = .allocPages pages → 1 ≤ pages) ∧ ∀ g ∈ r.freed, ∀ f, g.Has f → f ∈ live

def Legal (s : σ) (live : Set Nat) (rs : List Request) : Prop :=
  Along A (fun _ live r => LegalRequest live r) s live rs

/-- No call of the run is granted a frame that is still live. -/
def NoDoubleGrant (s : σ) (live : Set Nat) (rs : List Request) : Prop :=
  Along A (fun s live r => ∀ g ∈ (A.call s r).1, ∀ f, g.Has f → f ∉ live) s live rs

/-- The state and the live frames that a run leads to. -/
def after : σ → Set Nat → List Request → σ × Set Nat
  | s, live, [] => (s, live)
  | s, live, r :: rs => after (A.call s r).2 (liveAfter live (A.call s r).1 r) rs

variable {A B}

theorem along_append {P : σ → Set Nat → Request → Prop} {s : σ} {live : Set Nat}
    {rs rs' : List Request} :
    Along A P s live (rs ++ rs') ↔
      Along A P s live rs ∧ Along A P (after A s live rs).1 (after A s live rs).2 rs' := by
  induction rs generalizing s live with
  | nil => exact ⟨fun h => ⟨trivial, h⟩, fun h => h.2⟩
  | cons r rs ih => simp only [List.cons_append, Along, after, ih, and_assoc]

/-- An invariant of single calls holds along and after a run, as long as the
calls meet their condition. -/
theorem along_invariant {P Q : σ → Set Nat → Request → Prop} {I : σ → Set Nat → Prop}
    (step : ∀ s live r, I s live → P s live r →
      Q s live r ∧ I (A.call s r).2 (liveAfter live (A.call s r).1 r))
    {s : σ} {live : Set Nat} (hI : I s live) {rs : List Request} (hP : Along A P s live rs) :
    Along A Q s live rs ∧ I (after A s live rs).1 (after A s live rs).2 := by
  induction rs generalizing s live with
  | nil => exact ⟨trivial, hI⟩
  | cons r rs ih =>
      obtain ⟨hq, hI'⟩ := step s live r hI hP.1
      obtain ⟨hrest, hend⟩ := ih hI' hP.2
      exact ⟨⟨hq, hrest⟩, hend⟩

/-- `A` behaves as `B` under an abstraction, for the requests that `ok` admits. -/
structure Simulates (A : Allocator σ) (B : Allocator τ) (abs : σ → τ) (I : σ → Prop)
    (ok : τ → Request → Prop) : Prop where
  grant : ∀ s r, I s → ok (abs s) r → (A.call s r).1 = (B.call (abs s) r).1
  state : ∀ s r, I s → ok (abs s) r → abs (A.call s r).2 = (B.call (abs s) r).2
  inv : ∀ s r, I s → ok (abs s) r → I (A.call s r).2

/-- A simulated run has the same grants, so a condition on the abstract side is
the same condition on the concrete side. -/
theorem Simulates.along_iff {abs : σ → τ} {I : σ → Prop} {ok : τ → Request → Prop}
    (sim : Simulates A B abs I ok) {P : σ → Set Nat → Request → Prop}
    {Q : τ → Set Nat → Request → Prop}
    (hPQ : ∀ s live r, I s → ok (abs s) r → (P s live r ↔ Q (abs s) live r))
    {s : σ} {live : Set Nat} (hI : I s) {rs : List Request}
    (hok : Along B (fun t _ r => ok t r) (abs s) live rs) :
    Along A P s live rs ↔ Along B Q (abs s) live rs := by
  induction rs generalizing s live with
  | nil => exact Iff.rfl
  | cons r rs ih =>
      obtain ⟨hr, hrest⟩ := hok
      rw [← sim.grant s r hI hr, ← sim.state s r hI hr] at hrest
      have hnext := ih (sim.inv s r hI hr) hrest
      rw [sim.grant s r hI hr, sim.state s r hI hr] at hnext
      rw [Along, Along, hPQ s live r hI hr, sim.grant s r hI hr]
      rw [hnext]

theorem Simulates.legal_iff {abs : σ → τ} {I : σ → Prop} {ok : τ → Request → Prop}
    (sim : Simulates A B abs I ok) {s : σ} {live : Set Nat} (hI : I s) {rs : List Request}
    (hok : Along B (fun t _ r => ok t r) (abs s) live rs) :
    Legal A s live rs ↔ Legal B (abs s) live rs :=
  sim.along_iff (Q := fun _ live r => LegalRequest live r) (fun _ _ _ _ _ => Iff.rfl) hI hok

theorem Simulates.noDoubleGrant_iff {abs : σ → τ} {I : σ → Prop} {ok : τ → Request → Prop}
    (sim : Simulates A B abs I ok) {s : σ} {live : Set Nat} (hI : I s) {rs : List Request}
    (hok : Along B (fun t _ r => ok t r) (abs s) live rs) :
    NoDoubleGrant A s live rs ↔ NoDoubleGrant B (abs s) live rs := by
  apply sim.along_iff _ hI hok
  intro s live r hI hr
  rw [sim.grant s r hI hr]

end Runs
end Frames
