import ShellcodeVM.Lib.PageWalk
import ShellcodeVM.Haxm.FrameDatabase

/-!
The page tables of a guest whose frames come from the frame database in the same
memory: when the directory, the tables and the database keep out of each other's way,
and what the three stores of `map_pages` and `unmap_pages` do then.
-/
namespace ShellcodeVM.Haxm
open Machine

/-- An entry of the directory that refers to a page table: a frame inside RAM that is
neither part of the frame database nor the directory. -/
structure IsTable (dir ramSize entry : Nat) : Prop where
  present : Present entry
  above : frameDatabaseSize ≤ frameOf entry
  inside : frameOf entry + 4096 ≤ ramSize
  notDir : frameOf entry ≠ dir

/-- The directory, whose entry `selfMap` refers to itself, with page tables of their own. -/
structure Tables (dir selfMap ramSize : Nat) (m : Memory) : Prop where
  dirAligned : dir % 4096 = 0
  dirNonzero : dir ≠ 0
  dirInside : dir + 4096 ≤ ramSize
  databaseInside : frameDatabaseSize ≤ ramSize
  selfIndex : selfMap < 1024
  selfPresent : Present (dirEntry m dir selfMap)
  selfFrame : frameOf (dirEntry m dir selfMap) = dir
  table : ∀ d, d < 1024 → d ≠ selfMap → dirEntry m dir d ≠ 0 →
    IsTable dir ramSize (dirEntry m dir d)
  distinct : ∀ d d', d < 1024 → d' < 1024 → d ≠ selfMap → d' ≠ selfMap → d ≠ d' →
    dirEntry m dir d ≠ 0 → dirEntry m dir d' ≠ 0 →
      frameOf (dirEntry m dir d) ≠ frameOf (dirEntry m dir d')

/-- The frames that are not to be allocated: those of the database, the directory, the
page tables, and what is not inside RAM. -/
def Reserved (dir selfMap ramSize : Nat) (m : Memory) (f : Nat) : Prop :=
  f * 4096 < frameDatabaseSize ∨ f * 4096 = dir ∨
    (∃ d, d < 1024 ∧ d ≠ selfMap ∧ dirEntry m dir d ≠ 0 ∧ f * 4096 = frameOf (dirEntry m dir d)) ∨
    ramSize < f * 4096 + 4096

/-- The database marks the reserved frames as used. -/
def MarksReserved (dir selfMap ramSize : Nat) (m : Memory) : Prop :=
  ∀ f, f < frameDatabaseSize → Reserved dir selfMap ramSize m f → m f = pageUsed

/-- The directory lies outside the database and allows writing everywhere. -/
structure DirUsable (dir selfMap : Nat) (m : Memory) : Prop where
  above : frameDatabaseSize ≤ dir
  writable : ∀ d, d < 1024 → d ≠ selfMap → dirEntry m dir d ≠ 0 → dirEntry m dir d / 2 % 2 = 1

section Stores

variable {dir selfMap ramSize : Nat} {m m' : Memory}

theorem present_ne_zero {entry : Nat} (h : Present entry) : entry ≠ 0 := by
  intro hzero
  rw [hzero] at h
  exact absurd h (by decide)

/-- Every page table is edited without touching the directory or another table. -/
theorem Tables.ownTable (h : Tables dir selfMap ramSize m) {d : Nat} (hd : d < 1024)
    (hself : d ≠ selfMap) (hentry : dirEntry m dir d ≠ 0) :
    OwnTable m dir d (frameOf (dirEntry m dir d)) where
  dirAligned := h.dirAligned
  tableAligned := frameOf_aligned _
  notDir := (h.table d hd hself hentry).notDir
  alone := by
    intro d' hd' hne hpresent
    by_cases hself' : d' = selfMap
    · rw [hself', h.selfFrame]
      exact (h.table d hd hself hentry).notDir.symm
    · exact h.distinct d' d hd' hd hself' hself hne (present_ne_zero hpresent) hentry

theorem Tables.mono (h : Tables dir selfMap ramSize m) {ramSize' : Nat}
    (hle : ramSize ≤ ramSize') : Tables dir selfMap ramSize' m :=
  { h with
    dirInside := le_trans h.dirInside hle
    databaseInside := le_trans h.databaseInside hle
    table := fun d hd hself hentry =>
      { h.table d hd hself hentry with
        inside := le_trans (h.table d hd hself hentry).inside hle } }

/-- What is said of the tables depends on the entries of the directory only. -/
theorem Tables.congr (h : Tables dir selfMap ramSize m)
    (hdir : ∀ d, d < 1024 → dirEntry m' dir d = dirEntry m dir d) :
    Tables dir selfMap ramSize m' where
  dirAligned := h.dirAligned
  dirNonzero := h.dirNonzero
  dirInside := h.dirInside
  databaseInside := h.databaseInside
  selfIndex := h.selfIndex
  selfPresent := by rw [hdir selfMap h.selfIndex]; exact h.selfPresent
  selfFrame := by rw [hdir selfMap h.selfIndex]; exact h.selfFrame
  table := by
    intro d hd hself hentry
    rw [hdir d hd] at hentry ⊢
    exact h.table d hd hself hentry
  distinct := by
    intro d d' hd hd' hself hself' hne hentry hentry'
    rw [hdir d hd] at hentry ⊢
    rw [hdir d' hd'] at hentry' ⊢
    exact h.distinct d d' hd hd' hself hself' hne hentry hentry'

theorem MarksReserved.congr (h : MarksReserved dir selfMap ramSize m)
    (hdir : ∀ d, d < 1024 → dirEntry m' dir d = dirEntry m dir d)
    (hmarks : ∀ f, f < frameDatabaseSize → m' f = m f) : MarksReserved dir selfMap ramSize m' := by
  intro f hf hreserved
  rw [hmarks f hf]
  refine h f hf (hreserved.imp_right (Or.imp_right (Or.imp_left ?_)))
  rintro ⟨d, hd, hself, hentry, hframe⟩
  rw [hdir d hd] at hentry hframe
  exact ⟨d, hd, hself, hentry, hframe⟩

/-- A free frame is not reserved. -/
theorem MarksReserved.free_frame (h : MarksReserved dir selfMap ramSize m) {f : Nat}
    (hf : f < frameDatabaseSize) (hfree : m f = pageFree) :
    frameDatabaseSize ≤ f * 4096 ∧ f * 4096 ≠ dir ∧ f * 4096 + 4096 ≤ ramSize ∧
      ∀ d, d < 1024 → d ≠ selfMap → dirEntry m dir d ≠ 0 → f * 4096 ≠ frameOf (dirEntry m dir d) := by
  have hnot : ¬ Reserved dir selfMap ramSize m f := by
    intro hreserved
    have hused := h f hf hreserved
    rw [hfree] at hused
    exact absurd hused (by decide)
  refine ⟨?_, ?_, ?_, ?_⟩
  · by_contra hlt
    exact hnot (.inl (Nat.lt_of_not_le hlt))
  · exact fun heq => hnot (.inr (.inl heq))
  · by_contra hlt
    exact hnot (.inr (.inr (.inr (Nat.lt_of_not_le hlt))))
  · exact fun d hd hself hentry heq => hnot (.inr (.inr (.inl ⟨d, hd, hself, hentry, heq⟩)))

theorem DirUsable.congr (h : DirUsable dir selfMap m)
    (hdir : ∀ d, d < 1024 → dirEntry m' dir d = dirEntry m dir d) : DirUsable dir selfMap m' where
  above := h.above
  writable := by
    intro d hd hself hentry
    rw [hdir d hd] at hentry ⊢
    exact h.writable d hd hself hentry

/-- Outside its own window the walk does not use the directory as a table. -/
theorem Tables.frameOf_ne_dir (h : Tables dir selfMap ramSize m) {d : Nat} (hd : d < 1024)
    (hself : d ≠ selfMap) : frameOf (dirEntry m dir d) ≠ dir := by
  by_cases hentry : dirEntry m dir d = 0
  · rw [hentry, frameOf]
    exact fun hzero => h.dirNonzero hzero.symm
  · exact (h.table d hd hself hentry).notDir

/-! A mark in the database. -/

theorem dirEntry_mark (habove : frameDatabaseSize ≤ dir) {f : Nat} (hf : f < frameDatabaseSize)
    (mark : UInt8) (d : Nat) : dirEntry (memset m f mark 1) dir d = dirEntry m dir d :=
  read32_memset_outside m mark (.inr (by omega))

theorem walk_mark (h : Tables dir selfMap ramSize m) (habove : frameDatabaseSize ≤ dir) {f : Nat}
    (hf : f < frameDatabaseSize) (mark : UInt8) {va : Nat} (hva : va < 2 ^ 32)
    (hwin : dirIndex va ≠ selfMap) : walk (memset m f mark 1) dir va = walk m dir va := by
  refine walk_congr (dirEntry_mark habove hf mark _) fun hpresent => ?_
  have htable := h.table _ (dirIndex_lt hva) hwin (present_ne_zero hpresent)
  have hout := htable.above
  exact read32_memset_outside m mark (.inr (by omega))

/-! The entry of a page. -/

section Entry

variable {va : Nat} (h : Tables dir selfMap ramSize m) (hva : va < 2 ^ 32) (hwin : dirIndex va ≠ selfMap)
  (hentry : dirEntry m dir (dirIndex va) ≠ 0)
include h hva hwin hentry

theorem Tables.dirEntry_entry (v : Nat) : ∀ d, d < 1024 →
    dirEntry (write32 m (frameOf (dirEntry m dir (dirIndex va)) + 4 * tableIndex va) v) dir d =
      dirEntry m dir d :=
  fun _ hd => (h.ownTable (dirIndex_lt hva) hwin hentry).dirEntry_write v (tableIndex_lt va) hd

theorem Tables.marks_entry (v : Nat) : ∀ f, f < frameDatabaseSize →
    write32 m (frameOf (dirEntry m dir (dirIndex va)) + 4 * tableIndex va) v f = m f := by
  intro f hf
  have hout := (h.table _ (dirIndex_lt hva) hwin hentry).above
  exact write32_of_disjoint m _ v (.inl (by omega))

/-- Storing an entry edits the translation of its page. -/
theorem Tables.walk_entry (v : Nat) {va' : Nat} (hva' : va' < 2 ^ 32) :
    walk (write32 m (frameOf (dirEntry m dir (dirIndex va)) + 4 * tableIndex va) v) dir va' =
      if va' / 4096 = va / 4096 then
        if Present (v % 2 ^ 32) then
          some ⟨frameOf (v % 2 ^ 32) + va' % 4096, dirEntry m dir (dirIndex va) % 4096,
            v % 2 ^ 32 % 4096⟩
        else none
      else walk m dir va' :=
  walk_write_entry v (h.table _ (dirIndex_lt hva) hwin hentry).present
    (h.ownTable (dirIndex_lt hva) hwin hentry) hva'

end Entry

/-! A new page table. -/

/-- Frame `f` marked, cleared and put into entry `d` of the directory. -/
def withTable (dir d f : Nat) (m : Memory) : Memory :=
  write32 (memset (memset m f pageUsed 1) (f * 4096) 0 4096) (dir + 4 * d) (f * 4096 + 3)

/-- A free frame for the table at an empty entry of the directory. -/
structure NewTable (dir selfMap ramSize : Nat) (m : Memory) (d f : Nat) : Prop where
  tables : Tables dir selfMap ramSize m
  marks : MarksReserved dir selfMap ramSize m
  usable : DirUsable dir selfMap m
  indexLt : d < 1024
  notSelf : d ≠ selfMap
  empty : dirEntry m dir d = 0
  frameLt : f < frameDatabaseSize
  free : m f = pageFree

section Install

variable {d f : Nat}

theorem NewTable.frame (h : NewTable dir selfMap ramSize m d f) :
    frameDatabaseSize ≤ f * 4096 ∧ f * 4096 ≠ dir ∧ f * 4096 + 4096 ≤ ramSize ∧
      ∀ d', d' < 1024 → d' ≠ selfMap → dirEntry m dir d' ≠ 0 →
        f * 4096 ≠ frameOf (dirEntry m dir d') :=
  h.marks.free_frame h.frameLt h.free

theorem frameOf_newEntry (f : Nat) : frameOf (f * 4096 + 3) = f * 4096 :=
  frameOf_add (Nat.mul_mod_left f 4096) (by decide)

theorem NewTable.entry_lt (h : NewTable dir selfMap ramSize m d f) : f * 4096 + 3 < 2 ^ 32 := by
  have hf := h.frameLt
  rw [frameDatabaseSize] at hf
  omega

theorem NewTable.dirEntry_withTable (h : NewTable dir selfMap ramSize m d f) {d' : Nat}
    (hd' : d' < 1024) :
    dirEntry (withTable dir d f m) dir d' = if d' = d then f * 4096 + 3 else dirEntry m dir d' := by
  obtain ⟨habove, hnotDir, -, -⟩ := h.frame
  have hdirAbove := h.usable.above
  have hdirAligned := h.tables.dirAligned
  have hd := h.indexLt
  have hf := h.frameLt
  rw [withTable, dirEntry]
  by_cases heq : d' = d
  · rw [if_pos heq, heq, read32_write32_same, Nat.mod_eq_of_lt h.entry_lt]
  · rw [if_neg heq, read32_write32_of_disjoint _ _ _ (by omega),
      read32_memset_outside _ 0 (by omega), read32_memset_outside _ pageUsed (by omega)]
    rfl

theorem NewTable.withTable_tables (h : NewTable dir selfMap ramSize m d f) :
    Tables dir selfMap ramSize (withTable dir d f m) := by
  obtain ⟨habove, hnotDir, hinside, hapart⟩ := h.frame
  have ht := h.tables
  have hselfEntry : dirEntry (withTable dir d f m) dir selfMap = dirEntry m dir selfMap := by
    rw [h.dirEntry_withTable ht.selfIndex, if_neg h.notSelf.symm]
  refine ⟨ht.dirAligned, ht.dirNonzero, ht.dirInside, ht.databaseInside, ht.selfIndex, ?_, ?_,
    ?_, ?_⟩
  · rw [hselfEntry]
    exact ht.selfPresent
  · rw [hselfEntry]
    exact ht.selfFrame
  · intro d' hd' hself' hentry'
    rw [h.dirEntry_withTable hd'] at hentry' ⊢
    by_cases heq : d' = d
    · rw [if_pos heq]
      have hpresent : Present (f * 4096 + 3) := by
        rw [Present]
        omega
      rw [← frameOf_newEntry f] at habove hinside hnotDir
      exact ⟨hpresent, habove, hinside, hnotDir⟩
    · rw [if_neg heq] at hentry' ⊢
      exact ht.table d' hd' hself' hentry'
  · intro d₁ d₂ hd₁ hd₂ hself₁ hself₂ hne hentry₁ hentry₂
    rw [h.dirEntry_withTable hd₁] at hentry₁ ⊢
    rw [h.dirEntry_withTable hd₂] at hentry₂ ⊢
    by_cases heq₁ : d₁ = d
    · have heq₂ : d₂ ≠ d := fun heq₂ => hne (heq₁.trans heq₂.symm)
      rw [if_neg heq₂] at hentry₂ ⊢
      rw [if_pos heq₁, frameOf_newEntry]
      exact hapart d₂ hd₂ hself₂ hentry₂
    · rw [if_neg heq₁] at hentry₁ ⊢
      by_cases heq₂ : d₂ = d
      · rw [if_pos heq₂, frameOf_newEntry]
        exact (hapart d₁ hd₁ hself₁ hentry₁).symm
      · rw [if_neg heq₂] at hentry₂ ⊢
        exact ht.distinct d₁ d₂ hd₁ hd₂ hself₁ hself₂ hne hentry₁ hentry₂

theorem NewTable.withTable_mark (h : NewTable dir selfMap ramSize m d f) {f' : Nat}
    (hf' : f' < frameDatabaseSize) :
    withTable dir d f m f' = if f' = f then pageUsed else m f' := by
  obtain ⟨habove, -, -, -⟩ := h.frame
  have hdirAbove := h.usable.above
  rw [withTable, write32_of_disjoint _ _ _ (.inl (by omega)),
    memset_outside _ 0 (.inl (by omega)), memset_apply]
  by_cases heq : f' = f
  · rw [if_pos heq, if_pos (by omega)]
  · rw [if_neg heq, if_neg (by omega)]

theorem NewTable.withTable_marks (h : NewTable dir selfMap ramSize m d f) :
    MarksReserved dir selfMap ramSize (withTable dir d f m) := by
  intro f' hf' hreserved
  rw [h.withTable_mark hf']
  by_cases heq : f' = f
  · rw [if_pos heq]
  · rw [if_neg heq]
    refine h.marks f' hf' (hreserved.imp_right (Or.imp_right (Or.imp_left ?_)))
    rintro ⟨d', hd', hself', hentry', hat⟩
    rw [h.dirEntry_withTable hd'] at hentry' hat
    by_cases hnew : d' = d
    · rw [if_pos hnew, frameOf_newEntry] at hat
      exact absurd (Nat.eq_of_mul_eq_mul_right (by decide) hat) heq
    · rw [if_neg hnew] at hentry' hat
      exact ⟨d', hd', hself', hentry', hat⟩

theorem NewTable.withTable_usable (h : NewTable dir selfMap ramSize m d f) :
    DirUsable dir selfMap (withTable dir d f m) where
  above := h.usable.above
  writable := by
    intro d' hd' hself' hentry'
    rw [h.dirEntry_withTable hd'] at hentry' ⊢
    by_cases heq : d' = d
    · rw [if_pos heq]
      omega
    · rw [if_neg heq] at hentry' ⊢
      exact h.usable.writable d' hd' hself' hentry'

/-- A new table changes no translation. -/
theorem NewTable.walk_withTable (h : NewTable dir selfMap ramSize m d f) {va : Nat}
    (hva : va < 2 ^ 32) (hwin : dirIndex va ≠ selfMap) :
    walk (withTable dir d f m) dir va = walk m dir va := by
  obtain ⟨-, hnotDir, -, hapart⟩ := h.frame
  have hmark := fun d' => dirEntry_mark (m := m) h.usable.above h.frameLt pageUsed d'
  have htables : Tables dir selfMap ramSize (memset m f pageUsed 1) :=
    h.tables.congr fun d' _ => hmark d'
  have hown : OwnTable (memset m f pageUsed 1) dir d (f * 4096) := by
    refine ⟨h.tables.dirAligned, Nat.mul_mod_left f 4096, hnotDir, ?_⟩
    intro d' hd' hne hpresent
    rw [hmark d'] at hpresent ⊢
    by_cases hself' : d' = selfMap
    · rw [hself', h.tables.selfFrame]
      exact hnotDir.symm
    · exact (hapart d' hd' hself' (present_ne_zero hpresent)).symm
  have habsent : ¬ Present (dirEntry (memset m f pageUsed 1) dir d) := by
    rw [hmark d, h.empty]
    decide
  have hlt : f * 4096 < 2 ^ 32 := Nat.lt_of_le_of_lt (Nat.le_add_right _ 3) h.entry_lt
  have hinstall := walk_install_table 3 hown h.indexLt habsent (by decide) hlt hva
    (htables.frameOf_ne_dir (dirIndex_lt hva) hwin)
  exact hinstall.trans (walk_mark h.tables h.usable.above h.frameLt pageUsed hva hwin)

end Install

end Stores

end ShellcodeVM.Haxm
