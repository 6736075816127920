import ShellcodeVM.Lib.Store

/-!
Parts of a state as cells: a cell within a cell, cells whose writes do not meet,
and sequences of writes to a family of such cells, which leave what the last write
to each member leaves.
-/
namespace Machine
variable {δ σ α β φ : Type*}

namespace Cell

/-- A cell of the contents of a cell. -/
def comp (c : Cell δ σ) (part : Cell σ α) : Cell δ α where
  get d := part.get (c.get d)
  put d a := c.put d (part.put (c.get d) a)
  get_put d a := by rw [c.get_put, part.get_put]
  put_get d := by rw [part.put_get, c.put_get]
  put_put d a b := by rw [c.get_put, part.put_put, c.put_put]

def Independent (c : Cell δ α) (e : Cell δ β) : Prop :=
  ∀ d a b, e.put (c.put d a) b = c.put (e.put d b) a

theorem Independent.symm {c : Cell δ α} {e : Cell δ β} (h : c.Independent e) :
    e.Independent c :=
  fun d b a => (h d a b).symm

/-- A write to one of two independent cells is not seen through the other. -/
theorem Independent.get_put {c : Cell δ α} {e : Cell δ β} (h : c.Independent e) (d : δ) (a : α) :
    e.get (c.put d a) = e.get d := by
  have hkept : e.put (c.put d a) (e.get d) = c.put d a := by
    rw [h, e.put_get]
  calc
    e.get (c.put d a) = e.get (e.put (c.put d a) (e.get d)) := by rw [hkept]
    _ = e.get d := e.get_put _ _

/-- Parts of independent cells are independent. -/
theorem Independent.comp {σ' : Type*} {c : Cell δ σ} {e : Cell δ σ'} (h : c.Independent e)
    (part : Cell σ α) (part' : Cell σ' β) : (c.comp part).Independent (e.comp part') := by
  intro d a b
  simp only [Cell.comp, h.get_put, h.symm.get_put]
  exact h d _ _

/-- Independent parts of one cell are independent. -/
theorem Independent.comp_same {part : Cell σ α} {part' : Cell σ β} (h : part.Independent part')
    (c : Cell δ σ) : (c.comp part).Independent (c.comp part') := by
  intro d a b
  simp only [Cell.comp, c.get_put, c.put_put, h (c.get d) a b]

theorem Independent.comp_right {c : Cell δ σ} {e : Cell δ β} (h : c.Independent e)
    (part : Cell σ α) : (c.comp part).Independent e := by
  intro d a b
  simp only [Cell.comp, h.symm.get_put]
  exact h d _ _

/-- What a write leaves, with the part put back, is the state before the write. -/
theorem put_back (c : Cell δ α) (d : δ) (a : α) : c.put (c.put d a) (c.get d) = d := by
  rw [c.put_put, c.put_get]

end Cell

/-! ### Sequences of writes -/

/-- Writes at one index overwrite each other and writes at different ones commute. -/
structure LastWins (write : σ → φ × α → σ) : Prop where
  overwrite : ∀ s f a b, write (write s (f, a)) (f, b) = write s (f, b)
  commute : ∀ s f g a b, f ≠ g → write (write s (f, a)) (g, b) = write (write s (g, b)) (f, a)

variable [DecidableEq φ]

/-- The last value that a sequence writes at an index. -/
def lastWrite (f : φ) : List (φ × α) → Option α
  | [] => none
  | w :: ws => (lastWrite f ws).or (if w.1 = f then some w.2 else none)

theorem lastWrite_eq_none {f : φ} {ws : List (φ × α)} :
    lastWrite f ws = none ↔ ∀ w ∈ ws, w.1 ≠ f := by
  induction ws with
  | nil => simp [lastWrite]
  | cons w ws ih => simp [lastWrite, ih, and_comm]

theorem lastWrite_filter_self (f : φ) (ws : List (φ × α)) :
    lastWrite f (ws.filter (·.1 ≠ f)) = none := by
  rw [lastWrite_eq_none]
  intro w hw
  simpa using (List.mem_filter.mp hw).2

theorem lastWrite_filter_ne {f g : φ} (h : g ≠ f) (ws : List (φ × α)) :
    lastWrite g (ws.filter (·.1 ≠ f)) = lastWrite g ws := by
  induction ws with
  | nil => rfl
  | cons w ws ih =>
      by_cases hw : w.1 = f
      · have hg : w.1 ≠ g := fun hg => h (hg.symm.trans hw)
        rw [List.filter_cons_of_neg (by simpa using hw), ih, lastWrite, if_neg hg, Option.or_none]
      · rw [List.filter_cons_of_pos (by simpa using hw), lastWrite, lastWrite, ih]

namespace LastWins
variable {write : σ → φ × α → σ}

/-- A write at an index that the sequence leaves alone can be made after it. -/
theorem foldl_write (h : LastWins write) {f : φ} (a : α) {ws : List (φ × α)}
    (hf : lastWrite f ws = none) (s : σ) :
    ws.foldl write (write s (f, a)) = write (ws.foldl write s) (f, a) := by
  rw [lastWrite_eq_none] at hf
  induction ws generalizing s with
  | nil => rfl
  | cons w ws ih =>
      have hne : f ≠ w.1 := (hf w List.mem_cons_self).symm
      rw [List.foldl_cons, List.foldl_cons, h.commute s f w.1 a w.2 hne]
      exact ih (fun w' hw' => hf w' (List.mem_cons_of_mem w hw')) _

/-- Of the writes at an index only the last one counts, and it can be made last. -/
theorem foldl_eq_write_last (h : LastWins write) {f : φ} {a : α} {ws : List (φ × α)}
    (hf : lastWrite f ws = some a) (s : σ) :
    ws.foldl write s = write ((ws.filter (·.1 ≠ f)).foldl write s) (f, a) := by
  induction ws generalizing s with
  | nil => cases hf
  | cons w ws ih =>
      rw [lastWrite] at hf
      cases hrest : lastWrite f ws with
      | some b =>
          rw [hrest, Option.some_or] at hf
          obtain rfl := Option.some.inj hf
          rw [List.foldl_cons, ih hrest]
          by_cases hw : w.1 = f
          · obtain ⟨g, c⟩ := w
            obtain rfl : g = f := hw
            rw [List.filter_cons_of_neg (by simp), h.foldl_write c (lastWrite_filter_self g ws),
              h.overwrite]
          · rw [List.filter_cons_of_pos (by simpa using hw), List.foldl_cons]
      | none =>
          rw [hrest, Option.none_or] at hf
          obtain ⟨hw, ha⟩ : w.1 = f ∧ w.2 = a := by
            split_ifs at hf with hw
            exact ⟨hw, Option.some.inj hf⟩
          obtain ⟨g, c⟩ := w
          obtain rfl : g = f := hw
          obtain rfl : c = a := ha
          have hkeep : ws.filter (·.1 ≠ g) = ws := by
            rw [List.filter_eq_self]
            intro w hmem
            simpa using lastWrite_eq_none.mp hrest w hmem
          rw [List.filter_cons_of_neg (by simp), hkeep, List.foldl_cons, h.foldl_write c hrest]

/-- Two sequences with the same last value at every index leave the same state. -/
theorem foldl_congr (h : LastWins write) {ws ws' : List (φ × α)}
    (hlast : ∀ f, lastWrite f ws = lastWrite f ws') (s : σ) :
    ws.foldl write s = ws'.foldl write s := by
  -- Strip both sequences of one index after the other.
  induction hn : ws.length using Nat.strong_induction_on generalizing ws ws' with
  | _ n ih =>
      cases ws with
      | nil =>
          have hempty : ws' = [] := by
            rw [List.eq_nil_iff_forall_not_mem]
            intro w hw
            exact lastWrite_eq_none.mp (hlast w.1).symm w hw rfl
          rw [hempty]
      | cons w ws =>
          obtain ⟨a, ha⟩ : ∃ a, lastWrite w.1 (w :: ws) = some a := by
            rw [← Option.isSome_iff_exists, ← Option.ne_none_iff_isSome]
            intro hnone
            exact lastWrite_eq_none.mp hnone w List.mem_cons_self rfl
          have hshorter : ((w :: ws).filter (·.1 ≠ w.1)).length < n := by
            rw [List.filter_cons_of_neg (by simp), ← hn, List.length_cons]
            exact Nat.lt_succ_of_le (List.length_filter_le _ _)
          rw [h.foldl_eq_write_last ha, h.foldl_eq_write_last ((hlast w.1).symm.trans ha)]
          congr 1
          refine ih _ hshorter ?_ rfl
          intro f
          by_cases hf : f = w.1
          · rw [hf, lastWrite_filter_self, lastWrite_filter_self]
          · rw [lastWrite_filter_ne hf, lastWrite_filter_ne hf, hlast]

end LastWins
end Machine
