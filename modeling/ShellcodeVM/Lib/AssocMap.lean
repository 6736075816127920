import Mathlib.Tactic

/-!
An ordered map from keys to values, kept as the list of its entries in the order
of the keys, which is the order in which it is traversed.
-/
namespace Machine
variable {κ α : Type*} [LinearOrder κ]

/-- Assign a value to a key: its entry is overwritten, or inserted in order. -/
def assign (k : κ) (v : α) : List (κ × α) → List (κ × α)
  | [] => [(k, v)]
  | e :: es =>
      if k < e.1 then (k, v) :: e :: es
      else if k = e.1 then (k, v) :: es
      else e :: assign k v es

/-- A key without an entry gets one, and no other entry changes. -/
theorem assign_perm {k : κ} {es : List (κ × α)} (habsent : ∀ e ∈ es, e.1 ≠ k) (v : α) :
    (assign k v es).Perm ((k, v) :: es) := by
  induction es with
  | nil => exact .refl _
  | cons e es ih =>
      have htail := ih fun e' he' => habsent e' (List.mem_cons_of_mem _ he')
      have hne : ¬ k = e.1 := fun h => habsent e (List.mem_cons_self ..) h.symm
      rw [assign, if_neg hne]
      by_cases hlt : k < e.1
      · rw [if_pos hlt]
      · rw [if_neg hlt]
        exact (htail.cons e).trans (.swap ..)

/-- The value of a key. -/
def valueOf (k : κ) (es : List (κ × α)) : Option α :=
  (es.find? fun e => e.1 = k).map Prod.snd

/-- The entries are in strict order of their keys. -/
def Ordered (es : List (κ × α)) : Prop :=
  es.Pairwise fun e e' => e.1 < e'.1

theorem ordered_nil : Ordered ([] : List (κ × α)) := .nil

theorem Ordered.unique {es : List (κ × α)} (h : Ordered es) {e e' : κ × α} (he : e ∈ es)
    (he' : e' ∈ es) (hkey : e.1 = e'.1) : e = e' := by
  induction es with
  | nil => cases he
  | cons first es ih =>
      have hfirst := List.pairwise_cons.mp h
      cases he with
      | head =>
          cases he' with
          | head => rfl
          | tail _ he' => exact absurd hkey (hfirst.1 e' he').ne
      | tail _ he =>
          cases he' with
          | head => exact absurd hkey.symm (hfirst.1 e he).ne
          | tail _ he' => exact ih hfirst.2 he he'

theorem valueOf_eq_some {es : List (κ × α)} {k : κ} {v : α} (h : valueOf k es = some v) :
    (k, v) ∈ es := by
  rw [valueOf, Option.map_eq_some_iff] at h
  obtain ⟨e, hfind, rfl⟩ := h
  have hkey : e.1 = k := by simpa using List.find?_some hfind
  rw [← hkey]
  exact List.mem_of_find?_eq_some hfind

theorem valueOf_eq_none {es : List (κ × α)} {k : κ} (h : valueOf k es = none) :
    ∀ e ∈ es, e.1 ≠ k := by
  rw [valueOf, Option.map_eq_none_iff, List.find?_eq_none] at h
  intro e he hkey
  exact h e he (decide_eq_true hkey)

/-- An assignment replaces the entry of its key and keeps the others. -/
theorem mem_assign {es : List (κ × α)} (h : Ordered es) {k : κ} {v : α} {e : κ × α} :
    e ∈ assign k v es ↔ e = (k, v) ∨ e ∈ es ∧ e.1 ≠ k := by
  induction es with
  | nil => simp [assign]
  | cons first es ih =>
      have hfirst := List.pairwise_cons.mp h
      rw [assign]
      split_ifs with hlt heq
      · have hall : ∀ e' ∈ first :: es, e'.1 ≠ k := by
          intro e' he'
          cases he' with
          | head => exact hlt.ne'
          | tail _ he' => exact (hlt.trans (hfirst.1 e' he')).ne'
        rw [List.mem_cons]
        exact or_congr_right ⟨fun he => ⟨he, hall e he⟩, fun he => he.1⟩
      · have hrest : ∀ e' ∈ es, e'.1 ≠ k := fun e' he' => heq ▸ (hfirst.1 e' he').ne'
        rw [List.mem_cons, List.mem_cons]
        refine or_congr_right ⟨fun he => ⟨.inr he, hrest e he⟩, ?_⟩
        rintro ⟨he | he, hne⟩
        · exact absurd (he ▸ heq.symm) hne
        · exact he
      · rw [List.mem_cons, ih hfirst.2, List.mem_cons]
        refine ⟨?_, ?_⟩
        · rintro (he | he | he)
          · exact .inr ⟨.inl he, fun hkey => heq (he ▸ hkey.symm)⟩
          · exact .inl he
          · exact .inr ⟨.inr he.1, he.2⟩
        · rintro (he | ⟨he | he, hne⟩)
          · exact .inr (.inl he)
          · exact .inl he
          · exact .inr (.inr ⟨he, hne⟩)

theorem Ordered.assign {es : List (κ × α)} (h : Ordered es) (k : κ) (v : α) :
    Ordered (assign k v es) := by
  induction es with
  | nil => exact List.pairwise_singleton _ _
  | cons first es ih =>
      have hfirst := List.pairwise_cons.mp h
      rw [Machine.assign]
      split_ifs with hlt heq
      · refine List.pairwise_cons.mpr ⟨?_, h⟩
        intro e he
        cases he with
        | head => exact hlt
        | tail _ he => exact hlt.trans (hfirst.1 e he)
      · exact List.pairwise_cons.mpr ⟨fun e he => heq ▸ hfirst.1 e he, hfirst.2⟩
      · refine List.pairwise_cons.mpr ⟨?_, ih hfirst.2⟩
        intro e he
        rcases (mem_assign hfirst.2).mp he with rfl | ⟨he, -⟩
        · exact lt_of_le_of_ne (not_lt.mp hlt) (Ne.symm heq)
        · exact hfirst.1 e he

end Machine
