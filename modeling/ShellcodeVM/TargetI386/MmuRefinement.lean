import ShellcodeVM.TargetI386.MmuFault

/-!
The emulator's page walk against the tables in memory: it succeeds exactly where they give a
translation that permits the access, says in the error code why it does not, and marks the
entries it uses, which changes no translation.
-/
namespace ShellcodeVM.TargetI386
open Machine

namespace CpuX86State

/-- The directory that `cr3` names. -/
def dir (env : CpuX86State) : Nat := env.cr3 &&& 0xFFFFF000

def largePages (env : CpuX86State) : Bool := env.cr4 &&& cr4PseMask ≠ 0

def writeProtect (env : CpuX86State) : Bool := env.cr0 &&& cr0WpMask ≠ 0

/-- The translation that the tables give. -/
def translate (env : CpuX86State) (addr : Nat) : Option Translation :=
  walkLarge env.largePages env.mem env.dir addr

/-- Paging is on, and so is the address line 20. -/
structure Paged (env : CpuX86State) : Prop where
  paging : env.cr0 &&& cr0PgMask ≠ 0
  a20 : env.a20Mask = 2 ^ 64 - 1

end CpuX86State

open CpuX86State

/-! ### Masks -/

theorem and_all {x : Nat} (h : x < 2 ^ 64) : x &&& (2 ^ 64 - 1) = x := by
  rw [and_mask, Nat.mod_eq_of_lt h]

theorem present_iff_testBit (e : Nat) : Present e ↔ e.testBit 0 = true := by
  simp [Present, Nat.testBit_zero]

theorem testBit_attr (e : Nat) {k : Nat} (hk : k < 12) : (e % 4096).testBit k = e.testBit k := by
  have hpow : 4096 = 2 ^ 12 := by norm_num
  rw [hpow, Nat.testBit_mod_two_pow]
  simp [hk]

section
variable {env : CpuX86State}

theorem dir_eq (env : CpuX86State) : env.dir = env.cr3 % 2 ^ 32 / 4096 * 4096 :=
  and_pageMask env.cr3

theorem dir_aligned (env : CpuX86State) : env.dir % 4096 = 0 := by
  rw [dir_eq]
  omega

theorem pdeAddr_eq (h : env.Paged) {addr : Nat} (haddr : addr < 2 ^ 32) :
    env.pdeAddr addr = env.dir + 4 * dirIndex addr := by
  have hindex : (addr >>> 20) &&& 0xffc = 4 * dirIndex addr := by
    have hmask : 0xffc = (2 ^ 10 - 1) * 2 ^ 2 := by norm_num
    rw [hmask, and_shiftedMask, shiftRight_eq_div, dirIndex]
    omega
  have hlt := dirIndex_lt haddr
  have hdir := dir_eq env
  rw [CpuX86State.pdeAddr, hindex, h.a20]
  change (env.dir + 4 * dirIndex addr) &&& (2 ^ 64 - 1) = _
  exact and_all (by omega)

theorem pteAddr_eq (h : env.Paged) {pde : Nat} (hpde : pde < 2 ^ 32) (addr : Nat) :
    env.pteAddr pde addr = frameOf pde + 4 * tableIndex addr := by
  have hindex : (addr >>> 10) &&& 0xffc = 4 * tableIndex addr := by
    have hmask : 0xffc = (2 ^ 10 - 1) * 2 ^ 2 := by norm_num
    rw [hmask, and_shiftedMask, shiftRight_eq_div, tableIndex]
    omega
  have hlt := tableIndex_lt addr
  have hframe : pde &&& 0xFFFFF000 = frameOf pde := by
    rw [and_pageMask, Nat.mod_eq_of_lt hpde, frameOf]
  have hle : frameOf pde ≤ pde := Nat.div_mul_le_self pde 4096
  rw [CpuX86State.pteAddr, hindex, hframe, h.a20]
  exact and_all (by omega)

end

/-! ### The entries -/

/-- `env'` is `env` with marks in memory. -/
structure Marking (env env' : CpuX86State) : Prop where
  mem : Marked env.mem env'.mem
  same : env' = { env with mem := env'.mem }

theorem Marking.refl (env : CpuX86State) : Marking env env := ⟨Marked.refl _, rfl⟩

theorem Marking.trans {env env₁ env₂ : CpuX86State} (h : Marking env env₁)
    (h' : Marking env₁ env₂) : Marking env env₂ := by
  refine ⟨h.mem.trans h'.mem, ?_⟩
  rw [h'.same, h.same]

/-- Storing a marked entry where it came from. -/
theorem Marking.store (env : CpuX86State) {a e v : Nat} (ha : a % 4 = 0)
    (he : read32 env.mem a = e) (hv : Marks e v) :
    Marking env { env with mem := write32 env.mem a v } ∧
      read32 (write32 env.mem a v) a = v := by
  have hlt := read32_lt env.mem a
  rw [he] at hlt
  refine ⟨⟨Marked.write env.mem ha (he ▸ hv), rfl⟩, ?_⟩
  rw [read32_write32_same, Nat.mod_eq_of_lt (hv.lt hlt)]

theorem markEntry_dirty (env : CpuX86State) (a e : Nat) :
    env.markEntry a e true =
      (e ||| pgAccessedMask ||| pgDirtyMask,
        { env with mem := write32 env.mem a (e ||| pgAccessedMask ||| pgDirtyMask) }) := by
  rw [markEntry, if_pos (.inr rfl)]
  simp only [if_true]

theorem markEntry_accessed (env : CpuX86State) (a : Nat) {e : Nat}
    (h : e &&& pgAccessedMask = 0) :
    env.markEntry a e false =
      (e ||| pgAccessedMask, { env with mem := write32 env.mem a (e ||| pgAccessedMask) }) := by
  rw [markEntry, if_pos (.inl h)]
  simp only [Bool.false_eq_true, if_false]

theorem markEntry_marked (env : CpuX86State) (a : Nat) {e : Nat}
    (h : e &&& pgAccessedMask ≠ 0) : env.markEntry a e false = (e, env) := by
  rw [markEntry, if_neg]
  simpa using h

/-- What `markEntry` makes of an entry and of the memory. -/
theorem markEntry_spec (env : CpuX86State) {a e : Nat} (ha : a % 4 = 0)
    (he : read32 env.mem a = e) (isDirty : Bool) :
    ∃ e' env', env.markEntry a e isDirty = (e', env') ∧ Marking env env' ∧ Marks e e' ∧
      read32 env'.mem a = e' ∧ e'.testBit 6 = (isDirty || e.testBit 6) := by
  have hdirty : pgDirtyMask = 2 ^ 6 := rfl
  have haccessed : pgAccessedMask = 2 ^ 5 := rfl
  have hone : Marks e (e ||| pgAccessedMask) := marks_or_accessed e
  cases isDirty with
  | true =>
      have hmarks := hone.trans (marks_or_dirty (e ||| pgAccessedMask))
      obtain ⟨hmarking, hread⟩ := Marking.store env ha he hmarks
      refine ⟨_, _, markEntry_dirty env a e, hmarking, hmarks, hread, ?_⟩
      rw [Nat.testBit_or, hdirty, Nat.testBit_two_pow_self, Bool.or_true, Bool.true_or]
  | false =>
      by_cases hset : e &&& pgAccessedMask = 0
      · obtain ⟨hmarking, hread⟩ := Marking.store env ha he hone
        refine ⟨_, _, markEntry_accessed env a hset, hmarking, hone, hread, ?_⟩
        rw [Nat.testBit_or, haccessed, Nat.testBit_two_pow_of_ne (by norm_num), Bool.or_false,
          Bool.false_or]
      · exact ⟨e, env, markEntry_marked env a hset, Marking.refl env, Marks.refl e, he,
          (Bool.false_or _).symm⟩

/-! ### Rights -/

/-- What the rights in both entries together allow. -/
def rights (protect isUser isWrite : Bool) (ptep : Nat) : Bool :=
  if isUser then ptep.testBit 2 && (!isWrite || ptep.testBit 1)
  else !(protect && isWrite) || ptep.testBit 1

theorem protectionFault_eq (env : CpuX86State) (isUser isWrite : Bool) (ptep : Nat) :
    env.protectionFault isUser isWrite ptep = !rights env.writeProtect isUser isWrite ptep := by
  have huser : pgUserMask = 2 ^ 2 := rfl
  have hrw : pgRwMask = 2 ^ 1 := rfl
  rw [protectionFault, rights, writeProtect, huser, hrw]
  simp only [and_eq_zero]
  cases isUser <;> cases isWrite <;> cases ptep.testBit 1 <;> cases ptep.testBit 2 <;> simp

/-- A page may be written through the TLB once it is dirty. -/
theorem pageProt_eq (env : CpuX86State) {isUser : Bool} {pte ptep : Nat}
    (h : rights env.writeProtect isUser false ptep = true) :
    env.pageProt isUser pte ptep =
      if pte.testBit 6 && rights env.writeProtect isUser true ptep then 7 else 5 := by
  have hdirty : pte &&& pgDirtyMask ≠ 0 ↔ pte.testBit 6 = true := and_ne_zero pte 6
  have hrw : ptep &&& pgRwMask ≠ 0 ↔ ptep.testBit 1 = true := and_ne_zero ptep 1
  simp only [rights, writeProtect] at h ⊢
  simp only [pageProt, hdirty, hrw]
  by_cases hset : pte.testBit 6 = true
  · by_cases hwrite : ptep.testBit 1 = true
    · cases isUser <;> simp_all [pageRead, pageExec, pageWrite]
    · cases isUser <;> simp_all [pageRead, pageExec, pageWrite]
  · simp [hset, pageRead, pageExec]

theorem rights_mono {protect isUser isWrite : Bool} {ptep : Nat}
    (h : rights protect isUser isWrite ptep = true) : rights protect isUser false ptep = true := by
  cases isUser <;> simp_all [rights]

theorem permits_eq_rights {t : Translation} {ptep : Nat} (h1 : t.both 1 = ptep.testBit 1)
    (h2 : t.both 2 = ptep.testBit 2) (protect isUser isWrite : Bool) :
    t.permits protect isUser isWrite = rights protect isUser isWrite ptep := by
  rw [Translation.permits, rights, h1, h2]

theorem Marking.pageProt_eq {env env₁ : CpuX86State} (h : Marking env env₁) (isUser : Bool)
    (pte ptep : Nat) : env₁.pageProt isUser pte ptep = env.pageProt isUser pte ptep := by
  rw [h.same]
  rfl

/-! ### What the walk ends in -/

/-- The page fault that is raised. -/
structure Raises (env env' : CpuX86State) (addr : Nat) (isUser isWrite isPresent : Bool) : Prop where
  mem : Marked env.mem env'.mem
  regs : env' = { env with
    mem := env'.mem
    cr2 := addr
    errorCode := isPresent.toNat + 2 * isWrite.toNat + 4 * isUser.toNat
    exceptionIndex := excp0ePage }

/-- The entry that a page gets; it can be stored through once the page is dirty. -/
def pageEntry (env : CpuX86State) (t : Translation) (addr mmuIdx size : Nat) (isUser : Bool) :
    TlbEntry where
  vaddr := addr / 4096 * 4096
  paddr := t.address / 4096 * 4096
  prot := if t.dirty && t.permits env.writeProtect isUser true then 7 else 5
  mmuIdx := mmuIdx
  size := size

structure Fills (env env' : CpuX86State) (addr mmuIdx : Nat) (isUser isWrite : Bool) : Prop where
  mem : Marked env.mem env'.mem
  entry : ∃ t size, env'.translate addr = some t ∧ (isWrite = true → t.dirty = true) ∧
    env' = { env with mem := env'.mem, tlb := pageEntry env t addr mmuIdx size isUser :: env.tlb }

/-- The result of an access: the tables decide. -/
def Outcome (env : CpuX86State) (addr mmuIdx : Nat) (isUser isWrite : Bool)
    (r : Nat × CpuX86State) : Prop :=
  match env.translate addr with
  | none => r.1 = 1 ∧ Raises env r.2 addr isUser isWrite false
  | some t =>
      if t.permits env.writeProtect isUser isWrite then
        r.1 = 0 ∧ Fills env r.2 addr mmuIdx isUser isWrite
      else r.1 = 1 ∧ Raises env r.2 addr isUser isWrite true

theorem doFault_raises {env env₁ : CpuX86State} (h : Marking env env₁) (addr : Nat)
    (isUser isWrite isPresent : Bool) :
    Raises env (env₁.doFault addr isUser isWrite isPresent.toNat).2 addr isUser isWrite
      isPresent := by
  have hcode : (isPresent.toNat ||| (isWrite.toNat <<< pgErrorWBit) |||
      (if isUser then pgErrorUMask else 0)) =
        isPresent.toNat + 2 * isWrite.toNat + 4 * isUser.toNat := by
    cases isUser <;> cases isWrite <;> cases isPresent <;> rfl
  refine ⟨h.mem, ?_⟩
  rw [doFault, hcode, h.same]

/-! ### Pages of 4 KB -/

theorem Marking.paged {env env' : CpuX86State} (h : Marking env env') (hp : env.Paged) :
    env'.Paged := by
  rw [h.same]
  exact ⟨hp.paging, hp.a20⟩

theorem doMapping_small {env : CpuX86State} (h : env.Paged) {addr pte : Nat}
    (haddr : addr < 2 ^ 32) (hpte : pte < 2 ^ 32) (prot mmuIdx : Nat) :
    env.doMapping addr pte prot (addr &&& 0xFFFFF000) 4096 mmuIdx =
      (0, env.tlbSetPage ⟨addr / 4096 * 4096, frameOf pte, prot, mmuIdx, 4096⟩) := by
  have hpage : addr &&& 0xFFFFF000 = addr / 4096 * 4096 := by
    rw [and_pageMask, Nat.mod_eq_of_lt haddr]
  have hoffset : addr / 4096 * 4096 &&& (4096 - 1) = 0 := by
    have hmask := and_mask (addr / 4096 * 4096) 12
    norm_num at hmask ⊢
    omega
  have hframe : pte &&& 0xFFFFF000 = frameOf pte := by
    rw [and_pageMask, Nat.mod_eq_of_lt hpte, frameOf]
  have hwide : pte &&& (2 ^ 64 - 1) = pte := and_all (by omega)
  rw [doMapping, h.a20, hwide, targetPageMask, hframe, hpage, hoffset, Nat.add_zero, Nat.add_zero]

/-- The tables after the entries of a small page have been marked. -/
theorem walk_of_marked {m m' : Memory} {dir addr : Nat} (h : Marked m m') (hdir : dir % 4 = 0)
    (hp : Present (dirEntry m dir (dirIndex addr)))
    (hq : Present (tableEntry m (frameOf (dirEntry m dir (dirIndex addr))) (tableIndex addr))) :
    walk m' dir addr = some
      ⟨frameOf (tableEntry m' (frameOf (dirEntry m dir (dirIndex addr))) (tableIndex addr)) +
          addr % 4096, dirEntry m' dir (dirIndex addr) % 4096,
        tableEntry m' (frameOf (dirEntry m dir (dirIndex addr))) (tableIndex addr) % 4096⟩ := by
  have hpde := h.dirEntry hdir (dirIndex addr)
  have htable := frameOf_aligned (dirEntry m dir (dirIndex addr))
  have htable' : frameOf (dirEntry m dir (dirIndex addr)) % 4 = 0 := by omega
  have hpte := h.tableEntry htable' (tableIndex addr)
  have hread := congrArg (tableEntry m' · (tableIndex addr)) hpde.frameOf_eq
  rw [walk_mapped rfl (hpde.present_iff.mpr hp) hread (hpte.present_iff.mpr hq)]

theorem not_present_iff (e : Nat) : e &&& pgPresentMask = 0 ↔ ¬ Present e := by
  rw [present_iff_testBit, Bool.not_eq_true]
  exact and_eq_zero e 0

theorem pse_iff (pde : Nat) : pde &&& pgPseMask ≠ 0 ↔ pde / 128 % 2 = 1 := by
  have hbit := and_ne_zero pde 7
  rwa [Nat.testBit_eq_decide_div_mod_eq, decide_eq_true_eq] at hbit

theorem present_mask {e : Nat} (h : Present e) : e &&& pgPresentMask ≠ 0 :=
  fun habsent => (not_present_iff e).mp habsent h

theorem translate_absent {env : CpuX86State} {addr pde : Nat}
    (hpde : dirEntry env.mem env.dir (dirIndex addr) = pde) (h : ¬ Present pde) :
    env.translate addr = none := by
  rw [CpuX86State.translate, walkLarge, hpde]
  split_ifs
  · rfl
  · exact walk_dir_absent (by rwa [hpde])

theorem translate_small {env : CpuX86State} {addr pde : Nat}
    (hpde : dirEntry env.mem env.dir (dirIndex addr) = pde) (hsmall : ¬ env.largePage pde) :
    env.translate addr = walk env.mem env.dir addr := by
  rw [CpuX86State.translate, walkLarge, hpde, if_neg]
  rintro ⟨hlarge, hbit⟩
  exact hsmall ⟨(pse_iff pde).mpr hbit, by simpa [largePages] using hlarge⟩

theorem Marking.translate_small {env env₁ : CpuX86State} (h : Marking env env₁) {addr pde : Nat}
    (hpde : dirEntry env.mem env.dir (dirIndex addr) = pde) (hsmall : ¬ env.largePage pde) :
    env₁.translate addr = walk env₁.mem env.dir addr := by
  have hdir := dir_aligned env
  have hdir' : env.dir % 4 = 0 := by omega
  have hmarks := h.mem.dirEntry hdir' (dirIndex addr)
  have hsame : env₁.dir = env.dir ∧ env₁.cr4 = env.cr4 := by
    rw [h.same]
    exact ⟨rfl, rfl⟩
  rw [TargetI386.translate_small rfl, hsame.1]
  rintro ⟨hbit, hlarge⟩
  rw [hsame.1, pse_iff, hmarks.high, hpde] at hbit
  exact hsmall ⟨(pse_iff pde).mpr hbit, hsame.2 ▸ hlarge⟩

/-- The three ends of the branch. -/
theorem mapTableEntry_absent {env : CpuX86State} {addr pde pte : Nat}
    (hread : read32 env.mem (env.pteAddr pde addr) = pte) (hpte : pte &&& pgPresentMask = 0)
    (mmuIdx : Nat) (isUser isWrite : Bool) :
    env.mapTableEntry addr pde mmuIdx isUser isWrite = env.doFault addr isUser isWrite 0 := by
  subst hread
  exact if_pos hpte

theorem mapTableEntry_protected {env : CpuX86State} {addr pde pte : Nat} {isUser isWrite : Bool}
    (hread : read32 env.mem (env.pteAddr pde addr) = pte) (hpte : pte &&& pgPresentMask ≠ 0)
    (hfault : env.protectionFault isUser isWrite (pte &&& pde) = true) (mmuIdx : Nat) :
    env.mapTableEntry addr pde mmuIdx isUser isWrite =
      env.doFault addr isUser isWrite pgErrorPMask := by
  subst hread
  exact (if_neg hpte).trans (if_pos hfault)

theorem mapTableEntry_mapped {env env₁ : CpuX86State} {addr pde pte pte' : Nat}
    {isUser isWrite : Bool} (hread : read32 env.mem (env.pteAddr pde addr) = pte)
    (hpte : pte &&& pgPresentMask ≠ 0)
    (hfault : env.protectionFault isUser isWrite (pte &&& pde) ≠ true)
    (hmark : env.markEntry (env.pteAddr pde addr) pte
      (decide (isWrite = true ∧ pte &&& pgDirtyMask = 0)) = (pte', env₁)) (mmuIdx : Nat) :
    env.mapTableEntry addr pde mmuIdx isUser isWrite =
      env₁.doMapping addr pte' (env₁.pageProt isUser pte' (pte &&& pde)) (addr &&& 0xFFFFF000)
        4096 mmuIdx := by
  subst hread
  refine (if_neg hpte).trans ((if_neg hfault).trans ?_)
  exact congrArg (fun marked : Nat × CpuX86State => marked.2.doMapping addr marked.1
    (marked.2.pageProt isUser marked.1 (_ &&& pde)) (addr &&& 0xFFFFF000) 4096 mmuIdx) hmark

theorem permits_mk (a pde pte : Nat) (protect isUser isWrite : Bool) :
    Translation.permits ⟨a, pde % 4096, pte % 4096⟩ protect isUser isWrite =
      rights protect isUser isWrite (pte &&& pde) := by
  have hboth : ∀ k, k < 5 →
      Translation.both ⟨a, pde % 4096, pte % 4096⟩ k = (pte &&& pde).testBit k := by
    intro k hk
    rw [Translation.both, Nat.testBit_and, testBit_attr pde (by omega), testBit_attr pte (by omega),
      Bool.and_comm]
  exact permits_eq_rights (hboth 1 (by norm_num)) (hboth 2 (by norm_num)) protect isUser isWrite

theorem dirty_mk (a pde pte : Nat) :
    Translation.dirty ⟨a, pde % 4096, pte % 4096⟩ = pte.testBit 6 :=
  testBit_attr pte (by norm_num)

/-- What a page is entered with. -/
theorem pageProt_translation {env : CpuX86State} {t : Translation} {isUser isWrite : Bool}
    {pte ptep : Nat} (hrights : rights env.writeProtect isUser isWrite ptep = true)
    (hdirty : t.dirty = pte.testBit 6)
    (hpermits : ∀ w, t.permits env.writeProtect isUser w = rights env.writeProtect isUser w ptep) :
    env.pageProt isUser pte ptep =
      if t.dirty && t.permits env.writeProtect isUser true then 7 else 5 := by
  rw [pageProt_eq env (rights_mono hrights), hdirty, hpermits]

/-- Entering a page after its entries have been marked. -/
theorem fills_of_marking {env env₁ : CpuX86State} (h : Marking env env₁) {addr : Nat}
    {t : Translation} (ht : env₁.translate addr = some t) {isWrite : Bool}
    (hdirty : isWrite = true → t.dirty = true) (mmuIdx size : Nat) (isUser : Bool) :
    Fills env (env₁.tlbSetPage (pageEntry env t addr mmuIdx size isUser)) addr mmuIdx isUser
      isWrite := by
  refine ⟨h.mem, t, size, ht, hdirty, ?_⟩
  rw [tlbSetPage, h.same]

theorem dirty_of_store {isWrite : Bool} {e e' : Nat}
    (h : e'.testBit 6 = (decide (isWrite = true ∧ e &&& pgDirtyMask = 0) || e.testBit 6)) :
    isWrite = true → e'.testBit 6 = true := by
  intro hw
  have hbit : e &&& pgDirtyMask = 0 ↔ e.testBit 6 = false := and_eq_zero e 6
  rw [h, hw]
  cases hset : e.testBit 6 <;> simp [hbit, hset]

theorem mapTableEntry_outcome {env : CpuX86State} (h : env.Paged) {addr pde : Nat}
    (haddr : addr < 2 ^ 32) (hread : dirEntry env.mem env.dir (dirIndex addr) = pde)
    (hpres : Present pde) (hsmall : ¬ env.largePage pde) (mmuIdx : Nat) (isUser isWrite : Bool) :
    Outcome env addr mmuIdx isUser isWrite
      (env.mapTableEntry addr pde mmuIdx isUser isWrite) := by
  have hdir := dir_aligned env
  have hpdeLt : pde < 2 ^ 32 := by
    rw [← hread]
    exact dirEntry_lt _ _ _
  have hframe := frameOf_aligned pde
  have hwalk := translate_small hread hsmall
  obtain ⟨pte, hpte⟩ : ∃ pte, tableEntry env.mem (frameOf pde) (tableIndex addr) = pte := ⟨_, rfl⟩
  have hpteRead : read32 env.mem (env.pteAddr pde addr) = pte := by
    rw [pteAddr_eq h hpdeLt]
    exact hpte
  by_cases habsent : pte &&& pgPresentMask = 0
  · have hnone : walk env.mem env.dir addr = none :=
      walk_table_absent (by rw [hread, hpte]; exact (not_present_iff pte).mp habsent)
    rw [mapTableEntry_absent hpteRead habsent, Outcome, hwalk, hnone]
    exact ⟨rfl, doFault_raises (Marking.refl env) addr isUser isWrite false⟩
  have hpresent : Present pte := by
    by_contra hp
    exact habsent ((not_present_iff pte).mpr hp)
  have hsome : walk env.mem env.dir addr =
      some ⟨frameOf pte + addr % 4096, pde % 4096, pte % 4096⟩ :=
    walk_mapped hread hpres hpte hpresent
  have hprotection := protectionFault_eq env isUser isWrite (pte &&& pde)
  rw [Outcome, hwalk, hsome]
  simp only [permits_mk]
  cases hrights : rights env.writeProtect isUser isWrite (pte &&& pde) with
  | false =>
      rw [hrights] at hprotection
      rw [mapTableEntry_protected hpteRead habsent hprotection]
      exact ⟨rfl, doFault_raises (Marking.refl env) addr isUser isWrite true⟩
  | true =>
      rw [hrights] at hprotection
      obtain ⟨pte', env₁, hmark, hmarking, hpte', hpteRead', hset⟩ := markEntry_spec env
        (a := env.pteAddr pde addr) (e := pte) (by rw [pteAddr_eq h hpdeLt]; omega) hpteRead
        (decide (isWrite = true ∧ pte &&& pgDirtyMask = 0))
      have hentry : tableEntry env₁.mem (frameOf pde) (tableIndex addr) = pte' := by
        rw [← hpteRead', pteAddr_eq h hpdeLt, tableEntry]
      have hdir' : env.dir % 4 = 0 := by omega
      have hpdeMarks := hmarking.mem.dirEntry hdir' (dirIndex addr)
      rw [hread] at hpdeMarks
      have htranslate : env₁.translate addr = some ⟨frameOf pte' + addr % 4096,
          dirEntry env₁.mem env.dir (dirIndex addr) % 4096, pte' % 4096⟩ := by
        rw [hmarking.translate_small hread hsmall, walk_of_marked hmarking.mem (by omega)
          (by rwa [hread]) (by rwa [hread, hpte]), hread, hentry]
      have hpermits : ∀ w, Translation.permits ⟨frameOf pte' + addr % 4096,
          dirEntry env₁.mem env.dir (dirIndex addr) % 4096, pte' % 4096⟩ env.writeProtect isUser w =
            rights env.writeProtect isUser w (pte &&& pde) := by
        intro w
        have hmarked : Translation.Marked ⟨frameOf pte + addr % 4096, pde % 4096, pte % 4096⟩
            ⟨frameOf pte' + addr % 4096, dirEntry env₁.mem env.dir (dirIndex addr) % 4096,
              pte' % 4096⟩ :=
          ⟨congrArg (· + addr % 4096) hpte'.frameOf_eq, hpdeMarks.attr, hpte'.attr⟩
        rw [hmarked.permits_eq, permits_mk]
      have hfills := fills_of_marking hmarking htranslate
        (fun hw => (dirty_mk _ _ _).trans (dirty_of_store hset hw)) mmuIdx 4096 isUser
      have hpteLt : pte' < 2 ^ 32 := by
        rw [← hentry]
        exact tableEntry_lt _ _ _
      have hprot := pageProt_translation hrights (dirty_mk _ _ _) hpermits
      rw [mapTableEntry_mapped hpteRead habsent (by rw [hprotection]; simp) hmark,
        doMapping_small (hmarking.paged h) haddr hpteLt]
      refine ⟨rfl, ?_⟩
      have hframe' : (frameOf pte' + addr % 4096) / 4096 * 4096 = frameOf pte' := by
        rw [frameOf]
        omega
      rw [hmarking.pageProt_eq, hprot]
      rw [pageEntry, hframe'] at hfills
      exact hfills

/-! ### The whole walk -/

theorem Raises.of_marking {env env₁ env₂ : CpuX86State} (h : Marking env env₁) {addr : Nat}
    {isUser isWrite isPresent : Bool} (hr : Raises env₁ env₂ addr isUser isWrite isPresent) :
    Raises env env₂ addr isUser isWrite isPresent := by
  refine ⟨h.mem.trans hr.mem, ?_⟩
  rw [hr.regs, h.same]

theorem Fills.of_marking {env env₁ env₂ : CpuX86State} (h : Marking env env₁) {addr mmuIdx : Nat}
    {isUser isWrite : Bool} (hf : Fills env₁ env₂ addr mmuIdx isUser isWrite) :
    Fills env env₂ addr mmuIdx isUser isWrite := by
  obtain ⟨hmem, t, size, ht, hdirty, hregs⟩ := hf
  refine ⟨h.mem.trans hmem, t, size, ht, hdirty, ?_⟩
  rw [hregs, h.same]
  rfl

theorem Marking.translate {env env₁ : CpuX86State} (h : Marking env env₁) (addr : Nat) :
    Option.Rel Translation.Marked (env.translate addr) (env₁.translate addr) := by
  have hdir := dir_aligned env
  have htranslate : env₁.translate addr = walkLarge env.largePages env₁.mem env.dir addr := by
    rw [h.same]
    rfl
  rw [htranslate]
  exact h.mem.walkLarge (by omega) env.largePages addr

/-- A walk that starts by marking entries decides as it would before. -/
theorem Outcome.of_marking {env env₁ : CpuX86State} (h : Marking env env₁) {addr mmuIdx : Nat}
    {isUser isWrite : Bool} {r : Nat × CpuX86State}
    (ho : Outcome env₁ addr mmuIdx isUser isWrite r) :
    Outcome env addr mmuIdx isUser isWrite r := by
  have hwp : env₁.writeProtect = env.writeProtect := by rw [h.same]; rfl
  have hrel := h.translate addr
  rw [Outcome, hwp] at ho
  rw [Outcome]
  generalize env.translate addr = t at hrel ⊢
  generalize env₁.translate addr = t₁ at hrel ho
  cases hrel with
  | none => exact ⟨ho.1, ho.2.of_marking h⟩
  | some hmarked =>
      simp only [hmarked.permits_eq] at ho
      dsimp only
      split_ifs at ho ⊢
      · exact ⟨ho.1, ho.2.of_marking h⟩
      · exact ⟨ho.1, ho.2.of_marking h⟩

theorem mapSmall_outcome {env : CpuX86State} (h : env.Paged) {addr pde : Nat}
    (haddr : addr < 2 ^ 32) (hread : dirEntry env.mem env.dir (dirIndex addr) = pde)
    (hpres : Present pde) (hsmall : ¬ env.largePage pde) (mmuIdx : Nat) (isUser isWrite : Bool) :
    Outcome env addr mmuIdx isUser isWrite (env.mapSmall addr pde mmuIdx isUser isWrite) := by
  have hdir := dir_aligned env
  have hpdeAddr := pdeAddr_eq h haddr
  obtain ⟨pde', env₁, hmark, hmarking, hpde', hread', -⟩ := markEntry_spec env
    (a := env.pdeAddr addr) (e := pde) (by omega) (by rw [hpdeAddr]; exact hread) false
  have hsame : env₁.dir = env.dir ∧ env₁.cr4 = env.cr4 := by
    rw [hmarking.same]
    exact ⟨rfl, rfl⟩
  have hsmall' : ¬ env₁.largePage pde' := by
    rintro ⟨hbit, hlarge⟩
    rw [pse_iff, hpde'.high] at hbit
    exact hsmall ⟨(pse_iff pde).mpr hbit, hsame.2 ▸ hlarge⟩
  have hresult : env.mapSmall addr pde mmuIdx isUser isWrite =
      env₁.mapTableEntry addr pde' mmuIdx isUser isWrite :=
    congrArg (fun marked : Nat × CpuX86State =>
      marked.2.mapTableEntry addr marked.1 mmuIdx isUser isWrite) hmark
  rw [hresult]
  refine Outcome.of_marking hmarking (mapTableEntry_outcome (hmarking.paged h) haddr ?_
    (hpde'.present_iff.mpr hpres) hsmall' mmuIdx isUser isWrite)
  rw [hsame.1, ← hread', hpdeAddr, dirEntry]

/-! ### Pages of 4 MB -/

/-- The part of the directory entry of a large page that is used as its page table entry. -/
theorem and_largeMask {pde : Nat} (h : pde < 2 ^ 32) :
    pde &&& 0xFFC00FFF = pde / 2 ^ 22 * 2 ^ 22 + pde % 4096 := by
  have hmask : 0xFFC00FFF = ((2 ^ 10 - 1) * 2 ^ 22) ||| (2 ^ 12 - 1) := by decide
  have hpow : pde / 2 ^ 22 % 2 ^ 10 * 2 ^ 22 = 2 ^ 22 * (pde / 2 ^ 22) := by omega
  rw [hmask, Nat.and_or_distrib_left, and_shiftedMask, and_mask, hpow,
    ← Nat.two_pow_add_eq_or_of_lt (by omega)]
  omega

theorem testBit_large {pde : Nat} (h : pde < 2 ^ 32) {k : Nat} (hk : k < 12) :
    (pde &&& 0xFFC00FFF).testBit k = pde.testBit k := by
  have hlow : (pde &&& 0xFFC00FFF) % 4096 = pde % 4096 := by
    rw [and_largeMask h]
    omega
  rw [← testBit_attr _ hk, hlow, testBit_attr _ hk]

theorem page_in_large (p addr : Nat) :
    p * 2 ^ 22 + addr % 2 ^ 22 / 4096 * 4096 = (p * 2 ^ 22 + addr % 2 ^ 22) / 4096 * 4096 := by
  omega

theorem largeOffset (addr : Nat) :
    addr &&& targetPageMask &&& (4096 * 1024 - 1) = addr % 2 ^ 22 / 4096 * 4096 := by
  have hsize : 4096 * 1024 - 1 = 2 ^ 22 - 1 := by norm_num
  rw [hsize, and_mask, targetPageMask, and_pageMask]
  omega

theorem largeFrame {pde : Nat} (h : pde < 2 ^ 32) :
    pde &&& 0xFFC00FFF &&& (2 ^ 64 - 1) &&& targetPageMask = pde / 2 ^ 22 * 2 ^ 22 := by
  have hwide : (pde / 2 ^ 22 * 2 ^ 22 + pde % 4096) &&& (2 ^ 64 - 1) =
      pde / 2 ^ 22 * 2 ^ 22 + pde % 4096 :=
    and_all (by omega)
  rw [and_largeMask h, hwide, targetPageMask, and_pageMask]
  omega

theorem doMapping_large {env : CpuX86State} (h : env.Paged) {addr pde : Nat}
    (haddr : addr < 2 ^ 32) (hpde : pde < 2 ^ 32) (prot mmuIdx : Nat) :
    env.doMapping addr (pde &&& 0xFFC00FFF) prot (addr &&& 0xFFC00000) (4096 * 1024) mmuIdx =
      (0, env.tlbSetPage ⟨addr / 4096 * 4096,
        (pde / 2 ^ 22 * 2 ^ 22 + addr % 2 ^ 22) / 4096 * 4096, prot, mmuIdx, 4096 * 1024⟩) := by
  have hblock : addr &&& 0xFFC00000 = addr / 2 ^ 22 * 2 ^ 22 := by
    have hmask : 0xFFC00000 = (2 ^ 10 - 1) * 2 ^ 22 := by norm_num
    rw [hmask, and_shiftedMask]
    omega
  have hvaddr : addr / 2 ^ 22 * 2 ^ 22 + addr % 2 ^ 22 / 4096 * 4096 = addr / 4096 * 4096 := by
    omega
  rw [doMapping, h.a20, largeFrame hpde, hblock, largeOffset, hvaddr, page_in_large]

theorem translate_large {env : CpuX86State} {addr pde : Nat}
    (hpde : dirEntry env.mem env.dir (dirIndex addr) = pde) (hlarge : env.largePage pde)
    (hpres : Present pde) :
    env.translate addr =
      some ⟨pde / 2 ^ 22 * 2 ^ 22 + addr % 2 ^ 22, pde % 4096, pde % 4096⟩ := by
  have hsize : env.largePages = true ∧ pde / 128 % 2 = 1 :=
    ⟨decide_eq_true hlarge.2, (pse_iff pde).mp hlarge.1⟩
  rw [CpuX86State.translate, walkLarge, hpde, if_pos hsize, if_pos hpres]

theorem mapLarge_protected {env : CpuX86State} {addr pde : Nat} {isUser isWrite : Bool}
    (hfault : env.protectionFault isUser isWrite pde = true) (mmuIdx : Nat) :
    env.mapLarge addr pde mmuIdx isUser isWrite = env.doFault addr isUser isWrite pgErrorPMask :=
  if_pos hfault

theorem mapLarge_mapped {env env₁ : CpuX86State} {addr pde pde' : Nat} {isUser isWrite : Bool}
    (hfault : env.protectionFault isUser isWrite pde ≠ true)
    (hmark : env.markEntry (env.pdeAddr addr) pde
      (decide (isWrite = true ∧ pde &&& pgDirtyMask = 0)) = (pde', env₁)) (mmuIdx : Nat) :
    env.mapLarge addr pde mmuIdx isUser isWrite =
      env₁.doMapping addr (pde' &&& 0xFFC00FFF)
        (env₁.pageProt isUser (pde' &&& 0xFFC00FFF) (pde' &&& 0xFFC00FFF)) (addr &&& 0xFFC00000)
        (4096 * 1024) mmuIdx := by
  refine (if_neg hfault).trans ?_
  exact congrArg (fun marked : Nat × CpuX86State => marked.2.doMapping addr
    (marked.1 &&& 0xFFC00FFF) (marked.2.pageProt isUser (marked.1 &&& 0xFFC00FFF)
      (marked.1 &&& 0xFFC00FFF)) (addr &&& 0xFFC00000) (4096 * 1024) mmuIdx) hmark

theorem rights_congr {ptep ptep' : Nat} (h1 : ptep'.testBit 1 = ptep.testBit 1)
    (h2 : ptep'.testBit 2 = ptep.testBit 2) (protect isUser isWrite : Bool) :
    rights protect isUser isWrite ptep' = rights protect isUser isWrite ptep := by
  rw [rights, rights, h1, h2]

theorem mapLarge_outcome {env : CpuX86State} (h : env.Paged) {addr pde : Nat}
    (haddr : addr < 2 ^ 32) (hread : dirEntry env.mem env.dir (dirIndex addr) = pde)
    (hpres : Present pde) (hlarge : env.largePage pde) (mmuIdx : Nat) (isUser isWrite : Bool) :
    Outcome env addr mmuIdx isUser isWrite (env.mapLarge addr pde mmuIdx isUser isWrite) := by
  have hdir := dir_aligned env
  have hpdeAddr := pdeAddr_eq h haddr
  have hprotection := protectionFault_eq env isUser isWrite pde
  rw [Outcome, translate_large hread hlarge hpres]
  simp only [permits_mk, Nat.and_self]
  cases hrights : rights env.writeProtect isUser isWrite pde with
  | false =>
      rw [hrights] at hprotection
      rw [mapLarge_protected hprotection]
      exact ⟨rfl, doFault_raises (Marking.refl env) addr isUser isWrite true⟩
  | true =>
      rw [hrights] at hprotection
      obtain ⟨pde', env₁, hmark, hmarking, hpde', hread', hset⟩ := markEntry_spec env
        (a := env.pdeAddr addr) (e := pde) (by omega) (by rw [hpdeAddr]; exact hread)
        (decide (isWrite = true ∧ pde &&& pgDirtyMask = 0))
      have hentry : dirEntry env₁.mem env.dir (dirIndex addr) = pde' := by
        rw [← hread', hpdeAddr, dirEntry]
      have hpdeLt : pde' < 2 ^ 32 := by
        rw [← hentry]
        exact dirEntry_lt _ _ _
      have hsame : env₁.dir = env.dir ∧ env₁.cr4 = env.cr4 := by
        rw [hmarking.same]
        exact ⟨rfl, rfl⟩
      have hlarge' : env₁.largePage pde' := by
        refine ⟨(pse_iff pde').mpr ?_, hsame.2 ▸ hlarge.2⟩
        rw [hpde'.high]
        exact (pse_iff pde).mp hlarge.1
      have hentry' : dirEntry env₁.mem env₁.dir (dirIndex addr) = pde' := hsame.1 ▸ hentry
      have htranslate := translate_large hentry' hlarge' (hpde'.present_iff.mpr hpres)
      have hbit : ∀ k, k < 5 → (pde' &&& 0xFFC00FFF).testBit k = pde.testBit k := by
        intro k hk
        rw [testBit_large hpdeLt (by omega), hpde'.testBit_eq hk]
      have hcongr : ∀ w, rights env.writeProtect isUser w (pde' &&& 0xFFC00FFF) =
          rights env.writeProtect isUser w pde := fun w =>
        rights_congr (hbit 1 (by norm_num)) (hbit 2 (by norm_num)) _ _ w
      have hpermits : ∀ w, Translation.permits
          ⟨pde' / 2 ^ 22 * 2 ^ 22 + addr % 2 ^ 22, pde' % 4096, pde' % 4096⟩ env.writeProtect
            isUser w = rights env.writeProtect isUser w (pde' &&& 0xFFC00FFF) := by
        intro w
        rw [permits_mk, Nat.and_self, hcongr]
        exact rights_congr (hpde'.testBit_eq (by norm_num)) (hpde'.testBit_eq (by norm_num)) _ _ w
      have hdirty : Translation.dirty
          ⟨pde' / 2 ^ 22 * 2 ^ 22 + addr % 2 ^ 22, pde' % 4096, pde' % 4096⟩ =
            (pde' &&& 0xFFC00FFF).testBit 6 := by
        rw [dirty_mk, testBit_large hpdeLt (by norm_num)]
      have hprot := pageProt_translation ((hcongr isWrite).trans hrights) hdirty hpermits
      have hfills := fills_of_marking hmarking htranslate
        (fun hw => (dirty_mk _ _ _).trans (dirty_of_store hset hw)) mmuIdx (4096 * 1024) isUser
      rw [mapLarge_mapped (by rw [hprotection]; simp) hmark,
        doMapping_large (hmarking.paged h) haddr hpdeLt, hmarking.pageProt_eq, hprot]
      exact ⟨rfl, hfills⟩

/-! ### The walk -/

theorem handleMmuFault_paged {env : CpuX86State} (h : env.Paged) (addr isWrite1 mmuIdx : Nat) :
    env.handleMmuFault addr isWrite1 mmuIdx =
      if read32 env.mem (env.pdeAddr addr) &&& pgPresentMask = 0 then
        env.doFault addr (mmuIdx = mmuUserIdx) (isWrite1 &&& 1 ≠ 0) 0
      else if env.largePage (read32 env.mem (env.pdeAddr addr)) then
        env.mapLarge addr (read32 env.mem (env.pdeAddr addr)) mmuIdx (mmuIdx = mmuUserIdx)
          (isWrite1 &&& 1 ≠ 0)
      else
        env.mapSmall addr (read32 env.mem (env.pdeAddr addr)) mmuIdx (mmuIdx = mmuUserIdx)
          (isWrite1 &&& 1 ≠ 0) :=
  if_neg h.paging

theorem handleMmuFault_outcome {env : CpuX86State} (h : env.Paged) {addr : Nat}
    (haddr : addr < 2 ^ 32) (isWrite1 mmuIdx : Nat) :
    Outcome env addr mmuIdx (mmuIdx = mmuUserIdx) (isWrite1 &&& 1 ≠ 0)
      (env.handleMmuFault addr isWrite1 mmuIdx) := by
  have hread : dirEntry env.mem env.dir (dirIndex addr) = read32 env.mem (env.pdeAddr addr) := by
    rw [pdeAddr_eq h haddr, dirEntry]
  rw [handleMmuFault_paged h]
  generalize read32 env.mem (env.pdeAddr addr) = pde at hread
  by_cases habsent : pde &&& pgPresentMask = 0
  · have hp : ¬ Present pde := (not_present_iff pde).mp habsent
    rw [if_pos habsent, Outcome, translate_absent hread hp]
    exact ⟨rfl, doFault_raises (Marking.refl env) addr _ _ false⟩
  · have hp : Present pde := by
      by_contra hp
      exact habsent ((not_present_iff pde).mpr hp)
    rw [if_neg habsent]
    split_ifs with hlarge
    · exact mapLarge_outcome h haddr hread hp hlarge mmuIdx _ _
    · exact mapSmall_outcome h haddr hread hp hlarge mmuIdx _ _

/-! ### The walk of the debugger -/

theorem debugPage_small {env : CpuX86State} (h : env.Paged) {addr pte : Nat}
    (hpte : pte < 2 ^ 32) :
    (pte &&& env.a20Mask &&& targetPageMask) + (addr &&& targetPageMask &&& (4096 - 1)) =
      frameOf pte := by
  have hoffset : addr &&& targetPageMask &&& (4096 - 1) = 0 := by
    have hmask : 4096 - 1 = 2 ^ 12 - 1 := by norm_num
    rw [hmask, and_mask, targetPageMask, and_pageMask]
    omega
  have hwide : pte &&& (2 ^ 64 - 1) = pte := and_all (by omega)
  rw [hoffset, h.a20, hwide, targetPageMask, and_pageMask, Nat.mod_eq_of_lt hpte, frameOf,
    Nat.add_zero]

theorem debugPage_large {env : CpuX86State} (h : env.Paged) (addr : Nat) {pde : Nat}
    (hpde : pde < 2 ^ 32) :
    (pde &&& 0xFFC00FFF &&& env.a20Mask &&& targetPageMask) +
        (addr &&& targetPageMask &&& (4096 * 1024 - 1)) =
      (pde / 2 ^ 22 * 2 ^ 22 + addr % 2 ^ 22) / 4096 * 4096 := by
  rw [h.a20, largeFrame hpde, largeOffset, page_in_large]

theorem getPhysPageDebug_paged {env : CpuX86State} (h : env.Paged) {addr pde : Nat}
    (hread : read32 env.mem (env.pdeAddr addr) = pde) :
    env.getPhysPageDebug addr =
      if pde &&& pgPresentMask = 0 then none
      else if env.largePage pde then
        some ((pde &&& 0xFFC00FFF &&& env.a20Mask &&& targetPageMask) +
          (addr &&& targetPageMask &&& (4096 * 1024 - 1)))
      else if read32 env.mem (env.pteAddr pde addr) &&& pgPresentMask = 0 then none
      else some ((read32 env.mem (env.pteAddr pde addr) &&& env.a20Mask &&& targetPageMask) +
        (addr &&& targetPageMask &&& (4096 - 1))) := by
  subst hread
  exact if_neg h.paging

/-- The page of the translation, and nothing else. -/
theorem getPhysPageDebug_eq {env : CpuX86State} (h : env.Paged) {addr : Nat}
    (haddr : addr < 2 ^ 32) :
    env.getPhysPageDebug addr = (env.translate addr).map fun t => t.address / 4096 * 4096 := by
  obtain ⟨pde, hpde⟩ : ∃ pde, read32 env.mem (env.pdeAddr addr) = pde := ⟨_, rfl⟩
  have hread : dirEntry env.mem env.dir (dirIndex addr) = pde := by
    rw [← hpde, pdeAddr_eq h haddr, dirEntry]
  have hlt : pde < 2 ^ 32 := by
    rw [← hpde]
    exact read32_lt _ _
  rw [getPhysPageDebug_paged h hpde]
  by_cases hpres : Present pde
  · rw [if_neg (present_mask hpres)]
    by_cases hlarge : env.largePage pde
    · rw [if_pos hlarge, translate_large hread hlarge hpres, debugPage_large h addr hlt]
      rfl
    · have hpteAddr := pteAddr_eq h hlt addr
      rw [if_neg hlarge, translate_small hread hlarge, hpteAddr,
        debugPage_small h (read32_lt _ _)]
      by_cases hpte : Present (tableEntry env.mem (frameOf pde) (tableIndex addr))
      · have hframe := frameOf_aligned (tableEntry env.mem (frameOf pde) (tableIndex addr))
        have hpage : (frameOf (tableEntry env.mem (frameOf pde) (tableIndex addr)) + addr % 4096)
            / 4096 * 4096 = frameOf (tableEntry env.mem (frameOf pde) (tableIndex addr)) := by
          omega
        rw [walk_mapped hread hpres rfl hpte, Option.map_some, hpage]
        exact if_neg (present_mask hpte)
      · rw [walk_table_absent (by rwa [hread])]
        exact if_pos ((not_present_iff _).mpr hpte)
  · rw [if_pos ((not_present_iff pde).mpr hpres), translate_absent hread hpres, Option.map_none]

end ShellcodeVM.TargetI386
