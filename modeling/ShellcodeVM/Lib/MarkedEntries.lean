import ShellcodeVM.Lib.PageWalk
import ShellcodeVM.Lib.Word

/-!
The accessed and dirty bits that a processor sets in the entries of its page tables. A
memory whose aligned words have gained some of these bits translates as before, however
the tables lie in it: an entry may be read as a directory entry, as a table entry, or both.
-/
namespace Machine

theorem dirEntry_lt (m : Memory) (dir d : Nat) : dirEntry m dir d < 2 ^ 32 :=
  read32_lt m _

theorem tableEntry_lt (m : Memory) (table j : Nat) : tableEntry m table j < 2 ^ 32 :=
  read32_lt m _

/-- `e'` is `e` with the accessed bit or the dirty bit set in addition, or both, or neither. -/
structure Marks (e e' : Nat) : Prop where
  high : e' / 128 = e / 128
  low : e' % 32 = e % 32
  dirty : e / 64 % 2 ≤ e' / 64 % 2

theorem Marks.refl (e : Nat) : Marks e e := ⟨rfl, rfl, le_refl _⟩

theorem Marks.trans {e e₁ e₂ : Nat} (h : Marks e e₁) (h' : Marks e₁ e₂) : Marks e e₂ :=
  ⟨h'.high.trans h.high, h'.low.trans h.low, h.dirty.trans h'.dirty⟩

/-- Setting bit `k`. -/
theorem or_two_pow (e k : Nat) :
    e ||| 2 ^ k = e / 2 ^ (k + 1) * 2 ^ (k + 1) + 2 ^ k + e % 2 ^ k := by
  apply Nat.eq_of_testBit_eq
  intro i
  have hsum : e / 2 ^ (k + 1) * 2 ^ (k + 1) + 2 ^ k + e % 2 ^ k =
      2 ^ k * (e / 2 ^ (k + 1) * 2 + 1) + e % 2 ^ k := by ring
  have hlt : e % 2 ^ k < 2 ^ k := Nat.mod_lt _ (by positivity)
  rw [hsum, Nat.testBit_two_pow_mul_add _ hlt, Nat.testBit_or, Nat.testBit_two_pow]
  by_cases hi : i < k
  · have hne : k ≠ i := by omega
    simp [hi, hne, Nat.testBit_mod_two_pow]
  · obtain ⟨j, rfl⟩ := Nat.exists_eq_add_of_le (Nat.le_of_not_lt hi)
    cases j with
    | zero => simp
    | succ j =>
        have hne : k ≠ k + (j + 1) := by omega
        have hhalf : (e / 2 ^ (k + 1) * 2 + 1) / 2 = e / 2 ^ (k + 1) := by omega
        have hindex : j + (k + 1) = k + (j + 1) := by omega
        rw [Nat.add_sub_cancel_left, Nat.testBit_succ, hhalf, Nat.testBit_div_two_pow, hindex,
          if_neg hi, decide_eq_false hne, Bool.or_false]

theorem marks_or_accessed (e : Nat) : Marks e (e ||| 0x20) := by
  have h := or_two_pow e 5
  norm_num at h
  rw [h]
  constructor <;> omega

theorem marks_or_dirty (e : Nat) : Marks e (e ||| 0x40) := by
  have h := or_two_pow e 6
  norm_num at h
  rw [h]
  constructor <;> omega

section
variable {e e' : Nat}

theorem Marks.present_iff (h : Marks e e') : Present e' ↔ Present e := by
  have hlow := h.low
  simp only [Present]
  omega

theorem Marks.frameOf_eq (h : Marks e e') : frameOf e' = frameOf e := by
  have hhigh := h.high
  simp only [frameOf]
  omega

theorem Marks.attr (h : Marks e e') : Marks (e % 4096) (e' % 4096) := by
  obtain ⟨hhigh, hlow, hdirty⟩ := h
  constructor <;> omega

theorem Marks.lt (h : Marks e e') (he : e < 2 ^ 32) : e' < 2 ^ 32 := by
  have hhigh := h.high
  omega

end

/-- The words of `m'` are those of `m` with marks. -/
def Marked (m m' : Memory) : Prop := ∀ a, a % 4 = 0 → Marks (read32 m a) (read32 m' a)

theorem Marked.refl (m : Memory) : Marked m m := fun _ _ => Marks.refl _

theorem Marked.trans {m m₁ m₂ : Memory} (h : Marked m m₁) (h' : Marked m₁ m₂) : Marked m m₂ :=
  fun a ha => (h a ha).trans (h' a ha)

theorem Marked.write (m : Memory) {a v : Nat} (ha : a % 4 = 0) (h : Marks (read32 m a) v) :
    Marked m (write32 m a v) := by
  intro x hx
  rw [read32_write32_aligned m v ha hx]
  split_ifs with heq
  · rw [heq, Nat.mod_eq_of_lt (h.lt (read32_lt m a))]
    exact h
  · exact Marks.refl _

/-- A translation whose attributes have gained marks. -/
structure Translation.Marked (t t' : Translation) : Prop where
  address : t'.address = t.address
  pdeAttr : Marks t.pdeAttr t'.pdeAttr
  pteAttr : Marks t.pteAttr t'.pteAttr

/-- The walk of a processor that has pages of 4 MB: a directory entry with the size bit is
the entry of its page as well. -/
def walkLarge (largePages : Bool) (m : Memory) (dir va : Nat) : Option Translation :=
  let pde := dirEntry m dir (dirIndex va)
  if largePages ∧ pde / 128 % 2 = 1 then
    if Present pde then some ⟨pde / 2 ^ 22 * 2 ^ 22 + va % 2 ^ 22, pde % 4096, pde % 4096⟩
    else none
  else walk m dir va

@[simp] theorem walkLarge_false (m : Memory) (dir va : Nat) :
    walkLarge false m dir va = walk m dir va := by
  simp [walkLarge]

/-- The translation of another address of the page. -/
def Translation.within (t : Translation) (va : Nat) : Translation :=
  { t with address := t.address / 4096 * 4096 + va % 4096 }

theorem walk_within {m : Memory} {dir va va' : Nat} (h : va' / 4096 = va / 4096) :
    walk m dir va' = (walk m dir va).map (·.within va') := by
  have hd : dirIndex va' = dirIndex va := by
    simp only [dirIndex]
    omega
  have ht : tableIndex va' = tableIndex va := by
    simp only [tableIndex]
    omega
  rw [walk, walk, hd, ht]
  split_ifs
  · have hframe := frameOf_aligned
      (Machine.tableEntry m (frameOf (Machine.dirEntry m dir (dirIndex va))) (tableIndex va))
    simp only [Option.map_some, Translation.within, Option.some.injEq, Translation.mk.injEq,
      and_self, and_true]
    omega
  · rfl

theorem walkLarge_within {m : Memory} {dir va va' : Nat} (largePages : Bool)
    (h : va' / 4096 = va / 4096) :
    walkLarge largePages m dir va' = (walkLarge largePages m dir va).map (·.within va') := by
  have hd : dirIndex va' = dirIndex va := by
    simp only [dirIndex]
    omega
  rw [walkLarge, walkLarge, hd]
  generalize Machine.dirEntry m dir (dirIndex va) = pde
  split_ifs
  · simp only [Option.map_some, Translation.within, Option.some.injEq, Translation.mk.injEq,
      and_self, and_true]
    omega
  · rfl
  · exact walk_within h

theorem walkLarge_offset {largePages : Bool} {m : Memory} {dir va : Nat} {t : Translation}
    (h : walkLarge largePages m dir va = some t) : t.address % 4096 = va % 4096 := by
  have hself : walkLarge largePages m dir va = some (t.within va) := by
    have hpage : va / 4096 = va / 4096 := rfl
    rw [walkLarge_within largePages hpage, h, Option.map_some]
  have heq : t = t.within va := Option.some.inj (h.symm.trans hself)
  rw [heq, Translation.within]
  dsimp only
  omega

section
variable {m m' : Memory} {dir : Nat}

theorem Marked.dirEntry (h : Marked m m') (hdir : dir % 4 = 0) (d : Nat) :
    Marks (dirEntry m dir d) (dirEntry m' dir d) :=
  h _ (by omega)

theorem Marked.tableEntry (h : Marked m m') {table : Nat} (htable : table % 4 = 0) (j : Nat) :
    Marks (tableEntry m table j) (tableEntry m' table j) :=
  h _ (by omega)

theorem Marked.walk (h : Marked m m') (hdir : dir % 4 = 0) (va : Nat) :
    Option.Rel Translation.Marked (walk m dir va) (walk m' dir va) := by
  have hpde := h.dirEntry hdir (dirIndex va)
  have htable := frameOf_aligned (Machine.dirEntry m dir (dirIndex va))
  have htable' : frameOf (Machine.dirEntry m dir (dirIndex va)) % 4 = 0 := by omega
  have hpte := h.tableEntry htable' (tableIndex va)
  by_cases hp : Present (Machine.dirEntry m dir (dirIndex va))
  · have hp' := hpde.present_iff.mpr hp
    have hframe := hpde.frameOf_eq
    by_cases hq : Present (Machine.tableEntry m
        (frameOf (Machine.dirEntry m dir (dirIndex va))) (tableIndex va))
    · have hq' := hpte.present_iff.mpr hq
      rw [walk_mapped rfl hp rfl hq, walk_mapped rfl hp' (congrArg (Machine.tableEntry m' · _) hframe)
        hq']
      exact .some ⟨congrArg (· + va % 4096) hpte.frameOf_eq, hpde.attr, hpte.attr⟩
    · have hq' := mt hpte.present_iff.mp hq
      rw [walk_table_absent hq, walk_table_absent (by rwa [hframe])]
      exact .none
  · have hp' := mt hpde.present_iff.mp hp
    rw [walk_dir_absent hp, walk_dir_absent hp']
    exact .none

theorem Marked.walkLarge (h : Marked m m') (hdir : dir % 4 = 0) (largePages : Bool) (va : Nat) :
    Option.Rel Translation.Marked (walkLarge largePages m dir va)
      (walkLarge largePages m' dir va) := by
  have hpde := h.dirEntry hdir (dirIndex va)
  have hsize : Machine.dirEntry m' dir (dirIndex va) / 128 =
      Machine.dirEntry m dir (dirIndex va) / 128 := hpde.high
  have hframe : Machine.dirEntry m' dir (dirIndex va) / 2 ^ 22 =
      Machine.dirEntry m dir (dirIndex va) / 2 ^ 22 := by omega
  simp only [Machine.walkLarge, hsize, hframe, hpde.present_iff]
  split_ifs
  · exact .some ⟨rfl, hpde.attr, hpde.attr⟩
  · exact .none
  · exact h.walk hdir va

end

/-! ### Rights -/

/-- Both entries have bit `k`. -/
def Translation.both (t : Translation) (k : Nat) : Bool :=
  t.pdeAttr.testBit k && t.pteAttr.testBit k

/-- The access is allowed on the page: by user code, a user page, and a writable one for a
store; by the kernel, a writable one for a store where write protection is on. -/
def Translation.permits (t : Translation) (protect user write : Bool) : Bool :=
  if user then t.both 2 && (!write || t.both 1) else !(protect && write) || t.both 1

/-- The page has been stored to. -/
def Translation.dirty (t : Translation) : Bool := t.pteAttr.testBit 6

section
variable {t t' : Translation}

theorem Marks.testBit_eq {e e' k : Nat} (h : Marks e e') (hk : k < 5) :
    e'.testBit k = e.testBit k := by
  have hlow : (e' % 2 ^ 5).testBit k = (e % 2 ^ 5).testBit k := congrArg (Nat.testBit · k) h.low
  rwa [Nat.testBit_mod_two_pow, Nat.testBit_mod_two_pow, decide_eq_true hk, Bool.true_and,
    Bool.true_and] at hlow

theorem Translation.Marked.both_eq (h : t.Marked t') {k : Nat} (hk : k < 5) :
    t'.both k = t.both k := by
  rw [both, both, h.pdeAttr.testBit_eq hk, h.pteAttr.testBit_eq hk]

theorem Translation.Marked.permits_eq (h : t.Marked t') (protect user write : Bool) :
    t'.permits protect user write = t.permits protect user write := by
  rw [permits, permits, h.both_eq (by norm_num), h.both_eq (by norm_num)]

theorem Translation.Marked.dirty_mono (h : t.Marked t') (hd : t.dirty = true) : t'.dirty = true := by
  have hmono := h.pteAttr.dirty
  simp only [dirty, Nat.testBit_eq_decide_div_mod_eq, decide_eq_true_eq] at hd ⊢
  omega

end
end Machine
