import ShellcodeVM.Loader.DumpWalk

/-!
Exactly which mapped files `DumpHeader` and `DumpDirectory` walk without leaving the
file. Nothing in the walkers compares an RVA or a count with the file's size, so the
condition is on the file: every list ends in it, and every module name.
-/
namespace ShellcodeVM.Loader
open Machine

namespace MappedFile
variable {f : MappedFile}

/-! ### Files whose lists end in them -/

/-- The entries of a list that starts at `base`: the bytes used of the last one end in
the file. -/
def EntriesInside (f : MappedFile) (base step used count : Nat) : Prop :=
  count = 0 ∨ base + step * (count - 1) + used ≤ f.size

/-- A name whose NUL is in the file. -/
def NameEnds (f : MappedFile) (offset : Nat) : Prop :=
  ∃ k, offset + 2 * k + 2 ≤ f.size ∧ f.field (offset + 2 * k) 2 = 0

structure ThreadListInside (f : MappedFile) (rva : Nat) : Prop where
  count : rva + 4 ≤ f.size
  threads : f.EntriesInside (rva + 4) 48 4 (f.field rva 4)

/-- `ModuleNameRva` of a module; the name is behind its length. -/
def nameOffset (f : MappedFile) (rva i : Nat) : Nat :=
  (f.field (rva + 4 + 108 * i + 20) 4 + 4) % 2 ^ 32

structure ModuleListInside (f : MappedFile) (rva : Nat) : Prop where
  count : rva + 4 ≤ f.size
  modules : f.EntriesInside (rva + 4) 108 24 (f.field rva 4)
  names : ∀ i, i < f.field rva 4 → f.NameEnds (f.nameOffset rva i)

structure MemoryListInside (f : MappedFile) (rva : Nat) : Prop where
  count : rva + 4 ≤ f.size
  ranges : f.EntriesInside (rva + 4) 16 12 (f.field rva 4)

structure Memory64ListInside (f : MappedFile) (rva : Nat) : Prop where
  count : rva + 8 ≤ f.size
  ranges : f.EntriesInside (rva + 16) 16 16 (f.field rva 8)

/-- `State & MEM_COMMIT` of an entry. -/
def Committed (f : MappedFile) (memInfo : Nat) : Prop :=
  f.field (memInfo + 32) 4 &&& memCommit ≠ 0

/-- Where `NumberOfEntries` is. The walker does not read the sizes before it, which an
RVA at the end of the address space leaves out. -/
def numberOfEntriesAt (rva : Nat) : Nat := (rva + 8) % 2 ^ 32

structure MemoryInfoListInside (f : MappedFile) (rva : Nat) : Prop where
  count : numberOfEntriesAt rva + 8 ≤ f.size
  states : f.EntriesInside (numberOfEntriesAt rva + 8) 48 36 (f.field (numberOfEntriesAt rva) 8)
  committed : ∀ i, i < f.field (numberOfEntriesAt rva) 8 →
    f.Committed (numberOfEntriesAt rva + 8 + 48 * i) →
      numberOfEntriesAt rva + 8 + 48 * i + 44 ≤ f.size

/-- What a type's walker needs; the directory entry needs its own RVA too. -/
def WalkInside (f : MappedFile) (dir : Nat) (ListInside : MappedFile → Nat → Prop) : Prop :=
  dir + 12 ≤ f.size ∧ ListInside f (f.field (dir + 8) 4)

def StreamInside (f : MappedFile) (dir streamType : Nat) : Prop :=
  if streamType = threadListStream then f.WalkInside dir ThreadListInside
  else if streamType = moduleListStream then f.WalkInside dir ModuleListInside
  else if streamType = memoryListStream then f.WalkInside dir MemoryListInside
  else if streamType = memory64ListStream then f.WalkInside dir Memory64ListInside
  else if streamType = memoryInfoListStream then f.WalkInside dir MemoryInfoListInside
  else True

/-- `StreamDirectoryRva` and `NumberOfStreams`. -/
def streamDirectoryRva (f : MappedFile) : Nat := f.field 12 4
def numberOfStreams (f : MappedFile) : Nat := f.field 8 4

structure DumpInside (f : MappedFile) : Prop where
  header : 32 ≤ f.size
  directory : f.EntriesInside f.streamDirectoryRva 12 4 f.numberOfStreams
  streams : ∀ i, i < f.numberOfStreams →
    f.StreamInside (f.streamDirectoryRva + 12 * i) (f.field (f.streamDirectoryRva + 12 * i) 4)

/-! ### Reads and loops -/

theorem readLe_lt (m : Memory) (a width : Nat) : readLe m a width < 256 ^ width := by
  induction width generalizing a with
  | zero => exact Nat.one_pos
  | succ width ih =>
      have hbyte := (m a).toNat_lt
      have hrest := ih (a + 1)
      rw [readLe, Nat.pow_succ]
      omega

theorem field_lt (f : MappedFile) (offset : Nat) : f.field offset 4 < 2 ^ 32 :=
  readLe_lt f.bytes offset 4

/-- A pointer into the file needs no reduction. -/
theorem read_bind {β : Type} {p width : Nat} {next : Nat → Except DumpFault β}
    (hp : p < 2 ^ 32) :
    Returns (f.read p width >>= next) ↔ p + width ≤ f.size ∧ Returns (next (f.field p width)) := by
  rw [read, Nat.mod_eq_of_lt hp]
  exact returns_check_bind

theorem entriesInside_iff {base step used count : Nat} :
    f.EntriesInside base step used count ↔ ∀ i, i < count → base + step * i + used ≤ f.size := by
  constructor
  · rintro (hzero | hlast) i hi
    · omega
    · have hle : step * i ≤ step * (count - 1) := Nat.mul_le_mul_left step (by omega)
      omega
  · intro h
    rcases Nat.eq_zero_or_pos count with hzero | hpos
    · exact .inl hzero
    · exact .inr (h (count - 1) (by omega))

/-- A loop over the entries of a list. A pass uses some bytes of its own entry, and needs
what else `P` says of the entry. The entry before it was in the file, so that its own
pointer has not wrapped. -/
theorem returns_entries {σ : Type} {body : σ → Nat → Except DumpFault σ} {P : Nat → Prop}
    {base step used count room : Nat} (hbase : base + room < 2 ^ 32) (hstep : step + room < 2 ^ 16)
    (hbody : ∀ s i, base + step * i + room < 2 ^ 32 →
      (Returns (body s i) ↔ base + step * i + used ≤ f.size ∧ P (base + step * i))) (s : σ) :
    Returns (passes body s count) ↔
      f.EntriesInside base step used count ∧ ∀ i, i < count → P (base + step * i) := by
  have hsize := f.size_le
  have hpass : ∀ i, (∀ j, j < i → base + step * j + used ≤ f.size ∧ P (base + step * j)) →
      ∀ s, (Returns (body s i) ↔ base + step * i + used ≤ f.size ∧ P (base + step * i)) := by
    intro i hbefore s
    apply hbody
    cases i with
    | zero => rwa [Nat.mul_zero]
    | succ i =>
        have hlast := (hbefore i (Nat.lt_succ_self i)).1
        rw [Nat.mul_succ]
        omega
  rw [returns_passes hpass, entriesInside_iff]
  exact ⟨fun h => ⟨fun i hi => (h i hi).1, fun i hi => (h i hi).2⟩,
    fun h i hi => ⟨h.1 i hi, h.2 i hi⟩⟩

theorem wideString_returns_iff (f : MappedFile) (offset : Nat) :
    Returns (f.wideString offset) ↔ f.NameEnds offset := by
  induction offset using wideString.induct f with
  | case1 offset hin hnul =>
      rw [wideString, if_pos hin, if_pos hnul]
      exact ⟨fun _ => ⟨0, hin, hnul⟩, fun _ => returns_ok _⟩
  | case2 offset hin hchar ih =>
      rw [wideString, if_pos hin, if_neg hchar, returns_bind]
      have hnext : f.NameEnds (offset + 2) ↔ f.NameEnds offset := by
        constructor
        · rintro ⟨k, hk, hnul⟩
          have hoffset : offset + 2 * (k + 1) = offset + 2 + 2 * k := by omega
          exact ⟨k + 1, by omega, hoffset ▸ hnul⟩
        · rintro ⟨k, hk, hnul⟩
          cases k with
          | zero => exact absurd hnul hchar
          | succ k =>
              have hoffset : offset + 2 * (k + 1) = offset + 2 + 2 * k := by omega
              exact ⟨k, by omega, hoffset ▸ hnul⟩
      rw [← hnext, ← ih]
      constructor
      · rintro ⟨rest, heq, -⟩
        exact ⟨rest, heq⟩
      · rintro ⟨rest, heq⟩
        exact ⟨rest, heq, returns_ok _⟩
  | case3 offset hout =>
      rw [wideString, if_neg hout]
      constructor
      · exact fun h => absurd h (not_returns_error _)
      · rintro ⟨k, hk, -⟩
        omega

/-! ### The walkers -/

section
variable {dir : Nat}

/-- Every walker begins with the RVA of its list. -/
theorem walk_returns_iff {β : Type} {ListInside : MappedFile → Nat → Prop}
    {next : Nat → Except DumpFault β} (hdir : dir + 4 ≤ f.size)
    (hlist : ∀ rva, rva < 2 ^ 32 → (Returns (next rva) ↔ ListInside f rva)) :
    Returns (f.read (dir + 8) 4 >>= next) ↔ f.WalkInside dir ListInside := by
  have hsize := f.size_le
  rw [read_bind (by omega), WalkInside, hlist _ (field_lt f _)]

/-- A list is a count and, `header` bytes behind it, its entries. -/
theorem list_returns_iff {β σ : Type} {body : σ → Nat → Except DumpFault σ} {P : Nat → Prop}
    {s : σ} {next : Nat → Except DumpFault β} (list width header step used : Nat)
    (hlist : list < 2 ^ 32) (hheader : header ≤ 2 ^ 10) (hstep : step ≤ 2 ^ 10)
    (hnext : ∀ count, Returns (next count) ↔ Returns (passes body s count))
    (hbody : ∀ s i, list + header + step * i + 2 ^ 10 < 2 ^ 32 →
      (Returns (body s i) ↔
        list + header + step * i + used ≤ f.size ∧ P (list + header + step * i))) :
    Returns (f.read list width >>= next) ↔
      list + width ≤ f.size ∧ f.EntriesInside (list + header) step used (f.field list width) ∧
        ∀ i, i < f.field list width → P (list + header + step * i) := by
  have hsize := f.size_le
  rw [read_bind hlist, hnext]
  apply and_congr_right
  intro hcount
  exact returns_entries (by omega) (by omega) hbody s

theorem dumpThreadList_returns_iff (hdir : dir + 4 ≤ f.size) (out : List Printed) :
    Returns (f.dumpThreadList dir out) ↔ f.WalkInside dir ThreadListInside := by
  apply walk_returns_iff hdir
  intro rva hrva
  refine (list_returns_iff rva 4 4 48 4 hrva (by norm_num) (by norm_num)
    (fun count => Iff.rfl) (P := fun _ => True) ?_).trans ?_
  · intro out i hi
    rw [read_bind (by omega)]
    exact and_congr_right fun _ => iff_true_intro (returns_pure _)
  · constructor
    · exact fun h => ⟨h.1, h.2.1⟩
    · exact fun h => ⟨h.count, h.threads, fun _ _ => trivial⟩

theorem dumpModuleList_returns_iff (hdir : dir + 4 ≤ f.size) (out : List Printed) :
    Returns (f.dumpModuleList dir out) ↔ f.WalkInside dir ModuleListInside := by
  apply walk_returns_iff hdir
  intro rva hrva
  refine (list_returns_iff rva 4 4 108 24 hrva (by norm_num) (by norm_num)
    (fun count => Iff.rfl) (P := fun module =>
      f.NameEnds ((f.field (module + 20) 4 + 4) % 2 ^ 32)) ?_).trans ?_
  · intro out i hi
    rw [read_bind (by omega), read_bind (by omega), read_bind (by omega),
      returns_bind_of_returns fun _ => returns_pure _, wideString_returns_iff]
    constructor
    · rintro ⟨hname, hbase, hlength, hends⟩
      exact ⟨by omega, hends⟩
    · rintro ⟨hentry, hends⟩
      exact ⟨by omega, by omega, by omega, hends⟩
  · constructor
    · exact fun h => ⟨h.1, h.2.1, h.2.2⟩
    · exact fun h => ⟨h.count, h.modules, h.names⟩

theorem dumpMemoryList_returns_iff (hdir : dir + 4 ≤ f.size) (out : List Printed) :
    Returns (f.dumpMemoryList dir out) ↔ f.WalkInside dir MemoryListInside := by
  apply walk_returns_iff hdir
  intro rva hrva
  refine (list_returns_iff rva 4 4 16 12 hrva (by norm_num) (by norm_num)
    (fun count => returns_bind_of_returns fun _ => returns_pure _) (P := fun _ => True) ?_).trans ?_
  · rintro ⟨out, memSize⟩ i hi
    rw [read_bind (by omega), read_bind (by omega)]
    constructor
    · rintro ⟨hstart, hlength, -⟩
      exact ⟨by omega, trivial⟩
    · rintro ⟨hentry, -⟩
      exact ⟨by omega, by omega, returns_pure _⟩
  · constructor
    · exact fun h => ⟨h.1, h.2.1⟩
    · exact fun h => ⟨h.count, h.ranges, fun _ _ => trivial⟩

theorem dumpMemory64List_returns_iff (hdir : dir + 4 ≤ f.size) (out : List Printed) :
    Returns (f.dumpMemory64List dir out) ↔ f.WalkInside dir Memory64ListInside := by
  apply walk_returns_iff hdir
  intro rva hrva
  refine (list_returns_iff rva 8 16 16 16 hrva (by norm_num) (by norm_num)
    (fun count => returns_bind_of_returns fun _ => returns_pure _) (P := fun _ => True) ?_).trans ?_
  · rintro ⟨out, memSize⟩ i hi
    rw [read_bind (by omega), read_bind (by omega)]
    constructor
    · rintro ⟨hstart, hlength, -⟩
      exact ⟨by omega, trivial⟩
    · rintro ⟨hentry, -⟩
      exact ⟨by omega, by omega, returns_pure _⟩
  · constructor
    · exact fun h => ⟨h.1, h.2.1⟩
    · exact fun h => ⟨h.count, h.ranges, fun _ _ => trivial⟩

theorem dumpCommitted_returns_iff {memInfo : Nat} (hmem : memInfo + 2 ^ 10 < 2 ^ 32)
    (out : List Printed × Nat × Nat) :
    Returns (f.dumpCommitted memInfo out) ↔ memInfo + 44 ≤ f.size := by
  rw [dumpCommitted, read_bind (by omega), read_bind (by omega), read_bind (by omega),
    read_bind (by omega)]
  constructor
  · rintro ⟨hbase, hregion, htype, hprotect, -⟩
    exact htype
  · intro h
    exact ⟨by omega, by omega, by omega, by omega, returns_pure _⟩

theorem read_mod (f : MappedFile) (p width : Nat) : f.read (p % 2 ^ 32) width = f.read p width := by
  rw [read, read, Nat.mod_mod]

theorem dumpMemoryInfoList_returns_iff (hdir : dir + 4 ≤ f.size) (out : List Printed) :
    Returns (f.dumpMemoryInfoList dir out) ↔ f.WalkInside dir MemoryInfoListInside := by
  apply walk_returns_iff hdir
  intro rva hrva
  rw [← read_mod]
  refine (list_returns_iff (numberOfEntriesAt rva) 8 8 48 36 (Nat.mod_lt _ (by norm_num))
    (by norm_num) (by norm_num) (fun count => returns_bind_of_returns fun _ => returns_pure _)
    (P := fun memInfo => f.Committed memInfo → memInfo + 44 ≤ f.size) ?_).trans ?_
  · intro out i hi
    have hentry : (rva + 16 + 48 * i) % 2 ^ 32 = numberOfEntriesAt rva + 8 + 48 * i := by
      rw [numberOfEntriesAt] at hi ⊢
      omega
    simp only [hentry]
    rw [read_bind (by omega)]
    apply and_congr (by omega)
    by_cases hfree : f.field (numberOfEntriesAt rva + 8 + 48 * i + 32) 4 &&& memCommit = 0
    · rw [if_pos hfree]
      exact ⟨fun _ hcommitted => absurd hfree hcommitted, fun _ => returns_pure _⟩
    · rw [if_neg hfree, dumpCommitted_returns_iff hi]
      exact ⟨fun h _ => h, fun h => h hfree⟩
  · constructor
    · exact fun h => ⟨h.1, h.2.1, h.2.2⟩
    · exact fun h => ⟨h.count, h.states, h.committed⟩

theorem dumpStream_returns_iff (hdir : dir + 4 ≤ f.size) (streamType : Nat) (out : List Printed) :
    Returns (f.dumpStream dir streamType out) ↔ f.StreamInside dir streamType := by
  rw [dumpStream, StreamInside]
  split_ifs
  · exact dumpThreadList_returns_iff hdir out
  · exact dumpModuleList_returns_iff hdir out
  · exact dumpMemoryList_returns_iff hdir out
  · exact dumpMemory64List_returns_iff hdir out
  · exact dumpMemoryInfoList_returns_iff hdir out
  · exact iff_true_intro (returns_ok _)

end

theorem dumpHeader_returns_iff (f : MappedFile) : Returns f.dumpHeader ↔ 32 ≤ f.size := by
  rw [dumpHeader, read_bind (by norm_num), read_bind (by norm_num), read_bind (by norm_num),
    read_bind (by norm_num)]
  constructor
  · rintro ⟨hversion, hstreams, hrva, hflags, -⟩
    exact hflags
  · intro h
    exact ⟨by omega, by omega, by omega, h, returns_pure _⟩

theorem dumpEntry_returns_iff (f : MappedFile) (out : List Printed) (i : Nat)
    (hdir : f.streamDirectoryRva + 12 * i + 0 < 2 ^ 32) :
    Returns (f.dumpEntry f.streamDirectoryRva out i) ↔
      f.streamDirectoryRva + 12 * i + 4 ≤ f.size ∧
        f.StreamInside (f.streamDirectoryRva + 12 * i)
          (f.field (f.streamDirectoryRva + 12 * i) 4) := by
  rw [Nat.add_zero] at hdir
  rw [dumpEntry, read_bind hdir]
  exact and_congr_right fun hin => dumpStream_returns_iff hin _ _

theorem dumpDirectory_returns_iff (f : MappedFile) (hheader : 32 ≤ f.size) :
    Returns f.dumpDirectory ↔ f.EntriesInside f.streamDirectoryRva 12 4 f.numberOfStreams ∧
      ∀ i, i < f.numberOfStreams →
        f.StreamInside (f.streamDirectoryRva + 12 * i) (f.field (f.streamDirectoryRva + 12 * i) 4) := by
  have hrva : f.streamDirectoryRva + 0 < 2 ^ 32 := field_lt f 12
  have hstep : 12 + 0 < 2 ^ 16 := by norm_num
  rw [dumpDirectory, read_bind (by norm_num), read_bind (by norm_num)]
  change _ ∧ _ ∧ Returns (passes (f.dumpEntry f.streamDirectoryRva) [] f.numberOfStreams) ↔ _
  rw [returns_entries (P := fun dir => f.StreamInside dir (f.field dir 4)) hrva hstep
    (dumpEntry_returns_iff f) []]
  constructor
  · exact fun h => h.2.2
  · exact fun h => ⟨by omega, by omega, h⟩

/-- The dumper keeps to a file exactly when everything it follows ends in it. -/
theorem dump_returns_iff (f : MappedFile) :
    Returns f.dumpHeader ∧ Returns f.dumpDirectory ↔ f.DumpInside := by
  rw [dumpHeader_returns_iff]
  constructor
  · rintro ⟨hheader, hdirectory⟩
    have hinside := (dumpDirectory_returns_iff f hheader).mp hdirectory
    exact ⟨hheader, hinside.1, hinside.2⟩
  · intro h
    exact ⟨h.header, (dumpDirectory_returns_iff f h.header).mpr ⟨h.directory, h.streams⟩⟩

/-- A header of 32 bytes that claims one stream, in a directory behind the file. -/
def truncatedDump : MappedFile where
  bytes := fun a => if a = 8 then 1 else if a = 12 then 32 else 0
  size := 32
  size_le := by norm_num

theorem truncatedDump_leaves_file :
    Returns truncatedDump.dumpHeader ∧ ¬ Returns truncatedDump.dumpDirectory := by
  have hheader : 32 ≤ truncatedDump.size := le_refl 32
  refine ⟨(dumpHeader_returns_iff truncatedDump).mpr hheader, ?_⟩
  intro h
  have hdirectory := ((dumpDirectory_returns_iff truncatedDump hheader).mp h).1
  exact absurd hdirectory (by unfold EntriesInside; decide)

end MappedFile
end ShellcodeVM.Loader
