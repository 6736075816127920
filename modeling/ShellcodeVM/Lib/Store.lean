import Mathlib.Tactic

/-!
A cell of some larger state, read and replaced as a whole, and partial updates of
its contents. Updating the cell once for each item of a list is the same as reading
it once, making all updates on the copy and putting the copy back.
-/
namespace Machine
variable {δ σ ι : Type*}

structure Cell (δ σ : Type*) where
  get : δ → σ
  put : δ → σ → δ
  get_put : ∀ d s, get (put d s) = s
  put_get : ∀ d, put d (get d) = d
  put_put : ∀ d s s', put (put d s) s' = put d s'

namespace Cell

/-- Read, update and put back. -/
def modify (c : Cell δ σ) (f : σ → ι → Option σ) (d : δ) (i : ι) : Option δ :=
  (f (c.get d) i).map (c.put d)

/-- The whole list of updates through one copy of the contents. -/
def batch (c : Cell δ σ) (f : σ → ι → Option σ) (d : δ) (is : List ι) : Option δ :=
  (is.foldlM f (c.get d)).map (c.put d)

/-- A second replacement overwrites the first. -/
theorem put_put_eq (c : Cell δ σ) (d : δ) (s : σ) : c.put (c.put d s) = c.put d := by
  funext s'
  exact c.put_put d s s'

theorem batch_nil (c : Cell δ σ) (f : σ → ι → Option σ) (d : δ) : c.batch f d [] = some d :=
  congrArg some (c.put_get d)

theorem batch_cons (c : Cell δ σ) (f : σ → ι → Option σ) (d : δ) (i : ι) (is : List ι) :
    c.batch f d (i :: is) = (c.modify f d i).bind fun d' => c.batch f d' is := by
  cases hi : f (c.get d) i with
  | none => simp [batch, modify, hi]
  | some s => simp [batch, modify, hi, c.get_put, c.put_put_eq]

/-- Updates one at a time agree with one batch. -/
theorem foldlM_modify (c : Cell δ σ) (f : σ → ι → Option σ) (d : δ) (is : List ι) :
    is.foldlM (c.modify f) d = c.batch f d is := by
  induction is generalizing d with
  | nil => exact (c.batch_nil f d).symm
  | cons i is ih =>
      rw [batch_cons, List.foldlM_cons]
      exact bind_congr ih

/-- A list of updates that all succeed has a result. -/
theorem batch_isSome (c : Cell δ σ) {f : σ → ι → Option σ} {is : List ι}
    (h : ∀ i ∈ is, ∀ s, (f s i).isSome) (d : δ) : (c.batch f d is).isSome := by
  induction is generalizing d with
  | nil => rw [batch_nil]; rfl
  | cons i is ih =>
      obtain ⟨s, hs⟩ := Option.isSome_iff_exists.mp (h i (List.mem_cons_self ..) (c.get d))
      rw [batch_cons, modify, hs]
      exact ih (fun j hj => h j (List.mem_cons_of_mem i hj)) (c.put d s)

end Cell
end Machine
