import ShellcodeVM.Lib.PageWalk

/-!
A page directory that serves as its own table at one slot. The 4 MB region of
that slot is a window: page `d` of it is the table of slot `d`, and the page at
the slot itself is the directory. A table is installed by a store through the
directory's page and cleared through its own, which the store has just moved.
-/
namespace Machine

structure SelfMapped (m : Memory) (dir slot : Nat) : Prop where
  inDirectory : slot < 1024
  present : Present (dirEntry m dir slot)
  itself : frameOf (dirEntry m dir slot) = dir

/-- The linear address of byte `o` of page `d` of the window at a slot. -/
def windowAddress (slot d o : Nat) : Nat := slot * 2 ^ 22 + d * 4096 + o

/-- A frame that no present entry of the directory names. -/
def FreshTable (m : Memory) (dir f : Nat) : Prop :=
  ∀ d, d < 1024 → Present (dirEntry m dir d) → frameOf (dirEntry m dir d) ≠ f

theorem dirIndex_windowAddress (slot : Nat) {d o : Nat} (hd : d < 1024) (ho : o < 4096) :
    dirIndex (windowAddress slot d o) = slot := by
  simp only [dirIndex, windowAddress]
  omega

theorem tableIndex_windowAddress (slot : Nat) {d o : Nat} (hd : d < 1024) (ho : o < 4096) :
    tableIndex (windowAddress slot d o) = d := by
  simp only [tableIndex, windowAddress]
  omega

theorem windowAddress_mod (slot d : Nat) {o : Nat} (ho : o < 4096) :
    windowAddress slot d o % 4096 = o := by
  simp only [windowAddress]
  omega

theorem windowAddress_add (slot d i : Nat) :
    windowAddress slot d 0 + i = windowAddress slot d i := by
  simp only [windowAddress, Nat.add_zero]

section SelfMapped

variable {m : Memory} {dir slot : Nat}

theorem SelfMapped.aligned (h : SelfMapped m dir slot) : dir % 4096 = 0 := by
  rw [← h.itself]
  exact frameOf_aligned _

/-- A fresh frame is not the directory, which its own slot names. -/
theorem SelfMapped.ne_of_fresh (h : SelfMapped m dir slot) {f : Nat} (hf : FreshTable m dir f) :
    f ≠ dir := by
  have hne := hf slot h.inDirectory h.present
  rw [h.itself] at hne
  exact hne.symm

/-- Page `d` of the window is the table of slot `d`. -/
theorem SelfMapped.walk_table (h : SelfMapped m dir slot) {d o : Nat} (hd : d < 1024)
    (ho : o < 4096) (hp : Present (dirEntry m dir d)) :
    ∃ t, walk m dir (windowAddress slot d o) = some t ∧
      t.address = frameOf (dirEntry m dir d) + o := by
  have htable : tableEntry m (frameOf (dirEntry m dir slot))
      (tableIndex (windowAddress slot d o)) = dirEntry m dir d := by
    rw [h.itself, tableIndex_windowAddress slot hd ho]
    rfl
  refine ⟨_, walk_mapped (congrArg _ (dirIndex_windowAddress slot hd ho)) h.present htable hp, ?_⟩
  exact congrArg _ (windowAddress_mod slot d ho)

/-- The page of the window at the slot itself is the directory, which the walk reads twice. -/
theorem SelfMapped.walk_directory (h : SelfMapped m dir slot) {o : Nat} (ho : o < 4096) :
    ∃ t, walk m dir (windowAddress slot slot o) = some t ∧ t.address = dir + o := by
  obtain ⟨t, hwalk, haddr⟩ := h.walk_table h.inDirectory ho h.present
  rw [h.itself] at haddr
  exact ⟨t, hwalk, haddr⟩

end SelfMapped

/-! ### Editing one slot -/

section Install

variable {m : Memory} {dir d f : Nat}

/-- A store to one entry of a directory leaves the others. -/
theorem dirEntry_write32 (m : Memory) (dir d v d' : Nat) :
    dirEntry (write32 m (dir + 4 * d) v) dir d' =
      if d' = d then v % 2 ^ 32 else dirEntry m dir d' := by
  split_ifs with h
  · rw [h, dirEntry, read32_write32_same]
  · exact read32_write32_of_disjoint m _ v (by omega)

theorem SelfMapped.write {slot : Nat} (h : SelfMapped m dir slot) (v : Nat) (hd : slot ≠ d) :
    SelfMapped (write32 m (dir + 4 * d) v) dir slot := by
  have hentry : dirEntry (write32 m (dir + 4 * d) v) dir slot = dirEntry m dir slot := by
    rw [dirEntry_write32, if_neg hd]
  exact ⟨h.inDirectory, by rw [hentry]; exact h.present, by rw [hentry]; exact h.itself⟩

/-- Clearing a page other than the directory's leaves the entries. -/
theorem dirEntry_memset (m : Memory) {d' n : Nat} (b : UInt8) (hdir : dir % 4096 = 0)
    (hf : f % 4096 = 0) (hne : f ≠ dir) (hn : n ≤ 4096) (hd' : d' < 1024) :
    dirEntry (memset m f b n) dir d' = dirEntry m dir d' :=
  read32_memset_outside m b (by omega)

theorem SelfMapped.fill {slot n : Nat} (h : SelfMapped m dir slot) (b : UInt8)
    (hf : f % 4096 = 0) (hne : f ≠ dir) (hn : n ≤ 4096) :
    SelfMapped (memset m f b n) dir slot := by
  have hentry := dirEntry_memset m b h.aligned hf hne hn h.inDirectory
  exact ⟨h.inDirectory, by rw [hentry]; exact h.present, by rw [hentry]; exact h.itself⟩

/-- Pointing one slot at a fresh frame and filling that frame leaves every walk that
starts at another slot, unless its table is the directory. -/
theorem walk_install_fresh {va : Nat} (v : Nat) (b : UInt8) (hdir : dir % 4096 = 0)
    (hf : f % 4096 = 0) (hne : f ≠ dir) (hfresh : FreshTable m dir f) (hva : va < 2 ^ 32)
    (hslot : dirIndex va ≠ d)
    (hwin : Present (dirEntry m dir (dirIndex va)) → frameOf (dirEntry m dir (dirIndex va)) ≠ dir)
    (hd : d < 1024) :
    walk (memset (write32 m (dir + 4 * d) v) f b 4096) dir va = walk m dir va := by
  have hi := dirIndex_lt hva
  have hj := tableIndex_lt va
  apply walk_congr
  · rw [dirEntry_memset _ b hdir hf hne (le_refl _) hi, dirEntry_write32, if_neg hslot]
  · intro hp
    have htable := frameOf_aligned (dirEntry m dir (dirIndex va))
    have hown := hfresh (dirIndex va) hi hp
    have hother := hwin hp
    rw [tableEntry, read32_memset_outside _ b (by omega),
      read32_write32_of_disjoint _ _ _ (by omega)]
    rfl

end Install

/-- A `memset` at linear addresses that lead, at every byte reached, to the bytes
of one physical block. -/
theorem Mmu.memset_of_walks {u : Mmu} {va base n : Nat} (b : UInt8)
    (h : ∀ i, i < n → ∃ t, walk (Machine.memset u.mem base b i) u.dir (va + i) = some t ∧
      t.address = base + i) :
    u.memset va b n = some { u with mem := Machine.memset u.mem base b n } := by
  induction n with
  | zero => rfl
  | succ n ih =>
      obtain ⟨t, hwalk, haddr⟩ := h n (Nat.lt_succ_self n)
      rw [Mmu.memset, ih fun i hi => h i (Nat.lt_succ_of_lt hi), Option.bind_eq_bind,
        Option.bind_some, Mmu.store8]
      simp only [hwalk, Option.map_some, haddr]
      rfl

/-- The window of a self-mapped directory clears the table of a slot: the bytes stored
never move the walk, because the table is not the directory. -/
theorem SelfMapped.fill_table {u : Mmu} {slot d : Nat} (h : SelfMapped u.mem u.dir slot)
    (hd : d < 1024) (hp : Present (dirEntry u.mem u.dir d))
    (hne : frameOf (dirEntry u.mem u.dir d) ≠ u.dir) (b : UInt8) {n : Nat} (hn : n ≤ 4096) :
    u.memset (windowAddress slot d 0) b n =
      some { u with mem := memset u.mem (frameOf (dirEntry u.mem u.dir d)) b n } := by
  apply Mmu.memset_of_walks
  intro i hi
  have hi' : i < 4096 := Nat.lt_of_lt_of_le hi hn
  have hframe := frameOf_aligned (dirEntry u.mem u.dir d)
  have hentry := dirEntry_memset u.mem b h.aligned hframe hne hi'.le hd
  have hself := h.fill b hframe hne hi'.le
  obtain ⟨t, hwalk, haddr⟩ := hself.walk_table hd hi' (by rwa [hentry])
  rw [hentry] at haddr
  rw [windowAddress_add]
  exact ⟨t, hwalk, haddr⟩

end Machine
