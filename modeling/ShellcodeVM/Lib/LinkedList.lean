import ShellcodeVM.Lib.Loop

/-!
Lists whose nodes are reached by following pointers: a loop that visits them up to a stop
node, and rings of nodes that are linked both ways.
-/
namespace Machine

section
variable {α σ : Type*}

/-- The nodes from a pointer on, up to the stop node. -/
def Chain (next : α → α) (stop : α) : α → List α → Prop
  | a, [] => a = stop
  | a, b :: rest => a = b ∧ a ≠ stop ∧ Chain next stop (next a) rest

/-- A visit goes on with a new state, or leaves the loop with one. -/
def visitAll (visit : σ → α → σ ⊕ σ) : σ → List α → σ
  | s, [] => s
  | s, a :: rest =>
      match visit s a with
      | .inl s' => visitAll visit s' rest
      | .inr s' => s'

/-- `for (p = ...; p != stop; p = p->next)` -/
def followStep [DecidableEq α] (next : α → α) (stop : α) (visit : σ → α → σ ⊕ σ) :
    α × σ → (α × σ) ⊕ σ
  | (a, s) =>
      if a = stop then .inr s
      else
        match visit s a with
        | .inl s' => .inl (next a, s')
        | .inr s' => .inr s'

/-- The loop ends after as many passes as there are nodes, and one more. -/
theorem iterate_followStep [DecidableEq α] {next : α → α} {stop : α} {visit : σ → α → σ ⊕ σ}
    {nodes : List α} {a : α} (h : Chain next stop a nodes) (s : σ) {n : Nat}
    (hn : nodes.length < n) :
    iterate (followStep next stop visit) n (a, s) = some (visitAll visit s nodes) := by
  induction nodes generalizing a s n with
  | nil =>
      obtain ⟨n, rfl⟩ := Nat.exists_eq_succ_of_ne_zero (Nat.ne_of_gt hn)
      have hstep : followStep next stop visit (a, s) = .inr s := if_pos h
      exact iterate_of_inr hstep n
  | cons b rest ih =>
      obtain ⟨rfl, hstop, hrest⟩ := h
      obtain ⟨n, rfl⟩ := Nat.exists_eq_succ_of_ne_zero (Nat.ne_of_gt (Nat.lt_of_le_of_lt
        (Nat.zero_le _) hn))
      have hstep : followStep next stop visit (a, s) =
          match visit s a with
          | .inl s' => .inl (next a, s')
          | .inr s' => .inr s' := if_neg hstop
      rw [visitAll]
      cases hvisit : visit s a with
      | inl s' =>
          rw [hvisit] at hstep
          rw [Nat.succ_eq_add_one, iterate_of_inl hstep]
          exact ih hrest s' (Nat.lt_of_succ_lt_succ hn)
      | inr s' =>
          rw [hvisit] at hstep
          exact iterate_of_inr hstep n

end

/-! ### Rings -/

section
variable {α : Type*} {n : Nat} [NeZero n]

/-- `next` goes through the nodes in order and back to the first, and `prev` undoes it. -/
structure Ring (next prev : α → Option α) (node : Fin n → α) : Prop where
  next_node : ∀ j, next (node j) = some (node (j + 1))
  prev_node : ∀ j, prev (node (j + 1)) = some (node j)

variable {next prev : α → Option α} {node : Fin n → α}

theorem Ring.prev_next (h : Ring next prev node) (j : Fin n) :
    (next (node j)).bind prev = some (node j) := by
  rw [h.next_node, Option.bind_some, h.prev_node]

theorem Ring.next_prev (h : Ring next prev node) (j : Fin n) :
    (prev (node j)).bind next = some (node j) := by
  have hback := h.prev_node (j - 1)
  rw [sub_add_cancel] at hback
  rw [hback, Option.bind_some, h.next_node, sub_add_cancel]

end
end Machine
