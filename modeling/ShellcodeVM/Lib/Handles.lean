import Mathlib.Tactic

/-!
A ledger of system handles. Opening adds a handle, closing removes it, and closing
one that is not open is recorded as stray. A program owns its handles exactly when
the open ones are those of a list without repetition and no close was stray.
-/
namespace Machine
variable {η : Type*}

structure Ledger (η : Type*) where
  opened : Finset η
  stray : Bool
deriving DecidableEq

/-- What a program does to handles. -/
inductive HandleEvent (η : Type*) where
  | opened (h : η)
  | closed (h : η)
deriving DecidableEq

namespace HandleEvent

def openedHandle : HandleEvent η → Option η
  | .opened h => some h
  | .closed _ => none

def closedHandle : HandleEvent η → Option η
  | .opened _ => none
  | .closed h => some h

end HandleEvent

namespace Ledger

def empty : Ledger η where
  opened := ∅
  stray := false

/-- The open handles are those in `held`, each of them once. -/
structure Owns (l : Ledger η) (held : List η) : Prop where
  nodup : held.Nodup
  mem : ∀ h, h ∈ l.opened ↔ h ∈ held
  stray : l.stray = false

theorem owns_empty : (empty : Ledger η).Owns [] where
  nodup := List.nodup_nil
  mem h := by simp [empty]
  stray := rfl

/-- Who holds a handle does not matter. -/
theorem Owns.perm {l : Ledger η} {held held' : List η} (h : l.Owns held)
    (hperm : held.Perm held') : l.Owns held' where
  nodup := hperm.nodup_iff.mp h.nodup
  mem x := (h.mem x).trans hperm.mem_iff
  stray := h.stray

variable [DecidableEq η]

def create (l : Ledger η) (h : η) : Ledger η where
  opened := insert h l.opened
  stray := l.stray

def close (l : Ledger η) (h : η) : Ledger η where
  opened := l.opened.erase h
  stray := l.stray || decide (h ∉ l.opened)

/-- The system hands out a handle that is not open. -/
theorem Owns.create {l : Ledger η} {held : List η} (h : l.Owns held) {x : η}
    (hfresh : x ∉ l.opened) : (l.create x).Owns (x :: held) where
  nodup := List.nodup_cons.mpr ⟨fun hmem => hfresh ((h.mem x).mpr hmem), h.nodup⟩
  mem y := by simp only [Ledger.create, Finset.mem_insert, List.mem_cons, h.mem]
  stray := h.stray

/-- Closing a held handle releases it. -/
theorem Owns.close {l : Ledger η} {held : List η} {x : η} (h : l.Owns (x :: held)) :
    (l.close x).Owns held where
  nodup := (List.nodup_cons.mp h.nodup).2
  mem y := by
    have hx := (List.nodup_cons.mp h.nodup).1
    simp only [Ledger.close, Finset.mem_erase, h.mem, List.mem_cons]
    refine ⟨?_, fun hy => ⟨fun hyx => hx (hyx ▸ hy), .inr hy⟩⟩
    rintro ⟨hne, hy | hy⟩
    · exact absurd hy hne
    · exact hy
  stray := by
    have hopen : x ∈ l.opened := (h.mem x).mpr (List.mem_cons_self ..)
    simp only [Ledger.close, h.stray, hopen, not_true_eq_false, decide_false, Bool.or_self]

def record (l : Ledger η) : HandleEvent η → Ledger η
  | .opened h => l.create h
  | .closed h => l.close h

def recordAll (l : Ledger η) (events : List (HandleEvent η)) : Ledger η :=
  events.foldl record l

/-- The system never opens a handle that is open already. -/
def Fresh (l : Ledger η) : List (HandleEvent η) → Prop
  | [] => True
  | .opened h :: events => h ∉ l.opened ∧ Fresh (l.create h) events
  | .closed h :: events => Fresh (l.close h) events

/-- Freshness of a given list of events can be computed. -/
instance decidableFresh : (l : Ledger η) → (events : List (HandleEvent η)) →
    Decidable (l.Fresh events)
  | _, [] => .isTrue trivial
  | l, .opened h :: events =>
      haveI := decidableFresh (l.create h) events
      inferInstanceAs (Decidable (h ∉ l.opened ∧ Fresh (l.create h) events))
  | l, .closed h :: events => decidableFresh (l.close h) events

theorem recordAll_append (l : Ledger η) (events events' : List (HandleEvent η)) :
    l.recordAll (events ++ events') = (l.recordAll events).recordAll events' :=
  List.foldl_append

theorem fresh_append {l : Ledger η} {events events' : List (HandleEvent η)} :
    l.Fresh (events ++ events') ↔ l.Fresh events ∧ (l.recordAll events).Fresh events' := by
  induction events generalizing l with
  | nil => exact ⟨fun h => ⟨trivial, h⟩, fun h => h.2⟩
  | cons event events ih =>
      cases event with
      | opened h => exact ⟨fun hf => ⟨⟨hf.1, (ih.mp hf.2).1⟩, (ih.mp hf.2).2⟩,
          fun hf => ⟨hf.1.1, ih.mpr ⟨hf.1.2, hf.2⟩⟩⟩
      | closed h => exact ih

theorem Owns.recordOpened {xs : List η} {l : Ledger η} {held : List η} (h : l.Owns held)
    (hfresh : l.Fresh (xs.map .opened)) : (l.recordAll (xs.map .opened)).Owns (xs ++ held) := by
  induction xs generalizing l held with
  | nil => exact h
  | cons x xs ih => exact (ih (h.create hfresh.1) hfresh.2).perm List.perm_middle

/-- Closing a list of held handles releases all of them. -/
theorem Owns.recordClosed {xs : List η} {l : Ledger η} {held : List η} (h : l.Owns (xs ++ held)) :
    (l.recordAll (xs.map .closed)).Owns held := by
  induction xs generalizing l with
  | nil => exact h
  | cons x xs ih => exact ih h.close

end Ledger

/-- The entries that a table contributes, with those of one index in front. -/
theorem filterMap_perm_erase {α : Type*} {is : List Nat} (hnodup : is.Nodup) {i : Nat}
    (hi : i ∈ is) {f g : Nat → Option α} (hfg : ∀ j, j ≠ i → f j = g j) :
    (is.filterMap f).Perm ((f i).toList ++ (is.erase i).filterMap g) := by
  have hrest : (is.erase i).filterMap f = (is.erase i).filterMap g := by
    apply List.filterMap_congr
    intro j hj
    exact hfg j (hnodup.mem_erase_iff.mp hj).1
  have hperm := (List.perm_cons_erase hi).filterMap f
  rw [← hrest]
  cases hf : f i with
  | none => rwa [List.filterMap_cons_none hf] at hperm
  | some x => rwa [List.filterMap_cons_some hf] at hperm

end Machine
