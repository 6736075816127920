import Mathlib.Data.List.GetD
import Mathlib.Tactic

/-!
A line cut into chunks of a width: every chunk but the last is full, and the last is
empty only where the line is. And lists read by index, with a default behind their end.
-/
namespace Machine
variable {α : Type*} {w : Nat}

def chunks (w : Nat) (line : List α) : List (List α) :=
  if 0 < w ∧ w < line.length then line.take w :: chunks w (line.drop w) else [line]
termination_by line.length
decreasing_by
  rw [List.length_drop]
  omega

theorem chunks_of_length_le {line : List α} (h : line.length ≤ w) : chunks w line = [line] := by
  rw [chunks, if_neg (by omega)]

/-- A full chunk in front of characters that are still to come. -/
theorem chunks_append {full rest : List α} (hw : 0 < w) (hfull : full.length = w)
    (hrest : rest ≠ []) : chunks w (full ++ rest) = full :: chunks w rest := by
  have hpos := List.length_pos_iff.mpr hrest
  rw [chunks, if_pos ⟨hw, by rw [List.length_append]; omega⟩, ← hfull, List.take_left,
    List.drop_left]

theorem length_chunks (hw : 0 < w) (line : List α) :
    (chunks w line).length = max 1 ((line.length + w - 1) / w) := by
  induction line using chunks.induct w with
  | case1 line h ih =>
      have hdrop : line.length + w - 1 = (line.length - w + w - 1) + w := by omega
      have hpos : 0 < (line.length - w + w - 1) / w := Nat.div_pos (by omega) hw
      rw [chunks, if_pos h, List.length_cons, ih, List.length_drop, hdrop, Nat.add_div_right _ hw]
      omega
  | case2 line h =>
      have hshort : (line.length + w - 1) / w ≤ 1 := by
        rw [← Nat.lt_succ_iff, Nat.div_lt_iff_lt_mul hw]
        omega
      rw [chunks, if_neg h, List.length_singleton]
      omega

/-- The chunks hold nothing but the line's characters, and none is longer than the
width. -/
theorem mem_chunks (hw : 0 < w) (line : List α) {chunk : List α} (h : chunk ∈ chunks w line) :
    chunk.length ≤ w ∧ ∀ a ∈ chunk, a ∈ line := by
  induction line using chunks.induct w with
  | case1 line hlong ih =>
      rw [chunks, if_pos hlong] at h
      rcases List.mem_cons.mp h with rfl | h
      · exact ⟨List.length_take_le w line, fun a ha => List.mem_of_mem_take ha⟩
      · obtain ⟨hlen, hmem⟩ := ih h
        exact ⟨hlen, fun a ha => List.mem_of_mem_drop (hmem a ha)⟩
  | case2 line hshort =>
      rw [chunks, if_neg hshort] at h
      cases List.mem_singleton.mp h
      exact ⟨by omega, fun a ha => ha⟩

/-- A line is no longer than its chunks can be. -/
theorem length_le_chunks (hw : 0 < w) (line : List α) :
    line.length ≤ w * (chunks w line).length := by
  rw [length_chunks hw]
  have hdiv := Nat.lt_mul_div_succ (line.length + w - 1) hw
  have hmax : (line.length + w - 1) / w ≤ max 1 ((line.length + w - 1) / w) := le_max_right _ _
  calc line.length ≤ w * ((line.length + w - 1) / w) := by
        rw [Nat.mul_add] at hdiv
        omega
    _ ≤ w * max 1 ((line.length + w - 1) / w) := Nat.mul_le_mul_left w hmax

/-- Reading past the end pads with the default. -/
theorem map_getD_range (l : List α) (d : α) {n : Nat} (h : l.length ≤ n) :
    (List.range n).map (l.getD · d) = l ++ List.replicate (n - l.length) d := by
  apply List.ext_getElem
  · rw [List.length_map, List.length_range, List.length_append, List.length_replicate]
    omega
  · intro k hk hk'
    rw [List.getElem_map, List.getElem_range]
    by_cases hin : k < l.length
    · rw [List.getElem_append_left hin, List.getD_eq_getElem _ _ hin]
    · rw [List.getElem_append_right (by omega), List.getElem_replicate,
        List.getD_eq_default _ _ (by omega)]

end Machine
