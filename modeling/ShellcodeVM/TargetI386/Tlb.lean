import ShellcodeVM.TargetI386.MmuRefinement

/-!
Runs of TLB fills. The walks write into the tables that they read, which may lie anywhere in
memory, even among themselves; the translations, the rights and the pages that the TLB has been
given stay those that the tables gave when it was flushed. The data of the stores that the fills
are for is left out: what is said of a run holds while none of it goes to a table.
-/
namespace ShellcodeVM.TargetI386
open Machine CpuX86State

/-- The arguments of `tlb_fill`. -/
structure Access where
  addr : Nat
  isWrite : Nat
  mmuIdx : Nat
deriving DecidableEq, Repr

namespace Access

def isUser (a : Access) : Bool := a.mmuIdx = mmuUserIdx

def stores (a : Access) : Bool := a.isWrite &&& 1 ≠ 0

/-- What the tables say of the access. -/
def permitted (a : Access) (env : CpuX86State) : Bool :=
  (env.translate a.addr).any (·.permits env.writeProtect a.isUser a.stores)

end Access

namespace CpuX86State

def tlbFill (env : CpuX86State) (a : Access) : Nat × CpuX86State :=
  env.handleMmuFault a.addr a.isWrite a.mmuIdx

/-- The fills for accesses that miss the TLB, one after the other. -/
def runFills (env : CpuX86State) (fills : List Access) : CpuX86State :=
  fills.foldl (fun env a => (env.tlbFill a).2) env

end CpuX86State

/-- Nothing the tables are read with has changed, and the entries have gained marks only. -/
structure Kept (env env' : CpuX86State) : Prop where
  mem : Marked env.mem env'.mem
  cr0 : env'.cr0 = env.cr0
  cr3 : env'.cr3 = env.cr3
  cr4 : env'.cr4 = env.cr4
  a20 : env'.a20Mask = env.a20Mask

namespace Kept
variable {env env₁ env' : CpuX86State}

theorem refl (env : CpuX86State) : Kept env env := ⟨Marked.refl _, rfl, rfl, rfl, rfl⟩

theorem trans (h : Kept env env₁) (h' : Kept env₁ env') : Kept env env' :=
  ⟨h.mem.trans h'.mem, h'.cr0.trans h.cr0, h'.cr3.trans h.cr3, h'.cr4.trans h.cr4,
    h'.a20.trans h.a20⟩

theorem paged (h : Kept env env') (hp : env.Paged) : env'.Paged :=
  ⟨h.cr0 ▸ hp.paging, h.a20.trans hp.a20⟩

theorem writeProtect (h : Kept env env') : env'.writeProtect = env.writeProtect := by
  rw [CpuX86State.writeProtect, CpuX86State.writeProtect, h.cr0]

theorem translate (h : Kept env env') (addr : Nat) :
    Option.Rel Translation.Marked (env.translate addr) (env'.translate addr) := by
  have hdir := dir_aligned env
  have hdirEq : env'.dir = env.dir := by rw [CpuX86State.dir, CpuX86State.dir, h.cr3]
  have hlargeEq : env'.largePages = env.largePages := by
    rw [CpuX86State.largePages, CpuX86State.largePages, h.cr4]
  rw [CpuX86State.translate, CpuX86State.translate, hdirEq, hlargeEq]
  exact h.mem.walkLarge (by omega) env.largePages addr

theorem permitted (h : Kept env env') (a : Access) : a.permitted env' = a.permitted env := by
  have hrel := h.translate a.addr
  rw [Access.permitted, Access.permitted, h.writeProtect]
  generalize env.translate a.addr = t at hrel ⊢
  generalize env'.translate a.addr = t' at hrel ⊢
  cases hrel with
  | none => rfl
  | some hmarked => exact hmarked.permits_eq _ _ _

end Kept

theorem Raises.kept {env env' : CpuX86State} {addr : Nat} {isUser isWrite isPresent : Bool}
    (h : Raises env env' addr isUser isWrite isPresent) : Kept env env' := by
  have hregs := h.regs
  refine ⟨h.mem, ?_, ?_, ?_, ?_⟩ <;> rw [hregs]

theorem Fills.kept {env env' : CpuX86State} {addr mmuIdx : Nat} {isUser isWrite : Bool}
    (h : Fills env env' addr mmuIdx isUser isWrite) : Kept env env' := by
  obtain ⟨hmem, t, size, -, -, hregs⟩ := h
  refine ⟨hmem, ?_, ?_, ?_, ?_⟩ <;> rw [hregs]

/-- The two ends of `tlbFill`. -/
theorem tlbFill_cases {env : CpuX86State} (h : env.Paged) {a : Access} (ha : a.addr < 2 ^ 32) :
    (a.permitted env = true ∧ (env.tlbFill a).1 = 0 ∧
      Fills env (env.tlbFill a).2 a.addr a.mmuIdx a.isUser a.stores) ∨
    (a.permitted env = false ∧ (env.tlbFill a).1 = 1 ∧
      Raises env (env.tlbFill a).2 a.addr a.isUser a.stores (env.translate a.addr).isSome) := by
  have ho := handleMmuFault_outcome h ha a.isWrite a.mmuIdx
  rw [Outcome] at ho
  rw [Access.permitted]
  generalize env.translate a.addr = t at ho ⊢
  cases t with
  | none => exact .inr ⟨rfl, ho⟩
  | some t =>
      by_cases hp : t.permits env.writeProtect a.isUser a.stores = true
      · exact .inl ⟨hp, (if_pos hp).mp ho⟩
      · exact .inr ⟨Bool.eq_false_of_not_eq_true hp, (if_neg hp).mp ho⟩

theorem tlbFill_kept {env : CpuX86State} (h : env.Paged) {a : Access} (ha : a.addr < 2 ^ 32) :
    Kept env (env.tlbFill a).2 := by
  obtain ⟨-, -, hfills⟩ | ⟨-, -, hraises⟩ := tlbFill_cases h ha
  · exact hfills.kept
  · exact hraises.kept

theorem runFills_kept {env : CpuX86State} (h : env.Paged) {fills : List Access}
    (ha : ∀ a ∈ fills, a.addr < 2 ^ 32) : Kept env (env.runFills fills) := by
  induction fills generalizing env with
  | nil => exact Kept.refl env
  | cons a rest ih =>
      have hstep := tlbFill_kept h (ha a List.mem_cons_self)
      exact hstep.trans (ih (hstep.paged h) fun b hb => ha b (List.mem_cons_of_mem a hb))

/-! ### Entries of the TLB -/

/-- The entry says of its page what the tables say, and lets a page be stored to once that
has been recorded in them. -/
def TlbEntry.Agrees (e : TlbEntry) (env : CpuX86State) : Prop :=
  ∀ addr, addr / 4096 * 4096 = e.vaddr → ∃ t, env.translate addr = some t ∧
    t.address = e.paddr + addr % 4096 ∧
    t.permits env.writeProtect (e.mmuIdx = mmuUserIdx) false = true ∧
    (e.prot &&& pageWrite ≠ 0 →
      t.dirty = true ∧ t.permits env.writeProtect (e.mmuIdx = mmuUserIdx) true = true)

theorem TlbEntry.Agrees.mono {e : TlbEntry} {env env' : CpuX86State} (h : Kept env env')
    (he : e.Agrees env) : e.Agrees env' := by
  intro addr haddr
  obtain ⟨t, ht, haddress, hread, hwrite⟩ := he addr haddr
  have hrel := h.translate addr
  rw [ht] at hrel
  generalize hopt : env'.translate addr = t' at hrel
  cases hrel with
  | some hmarked =>
      refine ⟨_, rfl, hmarked.address.trans haddress, ?_, fun hprot => ?_⟩
      · rw [h.writeProtect, hmarked.permits_eq, hread]
      · obtain ⟨hdirty, hpermits⟩ := hwrite hprot
        rw [h.writeProtect, hmarked.permits_eq]
        exact ⟨hmarked.dirty_mono hdirty, hpermits⟩

theorem permits_read {t : Translation} {protect user write : Bool}
    (h : t.permits protect user write = true) : t.permits protect user false = true := by
  cases user <;> simp_all [Translation.permits]

theorem pageEntry_writable (env : CpuX86State) (t : Translation) (addr mmuIdx size : Nat)
    (isUser : Bool) :
    (pageEntry env t addr mmuIdx size isUser).prot &&& pageWrite ≠ 0 ↔
      (t.dirty && t.permits env.writeProtect isUser true) = true := by
  simp only [pageEntry]
  cases t.dirty && t.permits env.writeProtect isUser true <;> decide

theorem pageEntry_agrees {env env' : CpuX86State} (h : Kept env env') {t : Translation}
    {addr mmuIdx size : Nat} (ht : env'.translate addr = some t)
    (hread : t.permits env.writeProtect (mmuIdx = mmuUserIdx) false = true) :
    (pageEntry env t addr mmuIdx size (mmuIdx = mmuUserIdx)).Agrees env' := by
  intro addr' hpage
  have hsame : addr' / 4096 = addr / 4096 := by
    simp only [pageEntry] at hpage
    omega
  refine ⟨t.within addr', ?_, rfl, ?_, fun hprot => ?_⟩
  · rw [CpuX86State.translate, walkLarge_within _ hsame]
    exact congrArg (Option.map _) ht
  · rw [h.writeProtect]
    exact hread
  · rw [h.writeProtect]
    exact (Bool.and_eq_true _ _).mp ((pageEntry_writable env t addr mmuIdx size _).mp hprot)

/-- The translation through which a permitted access goes. -/
theorem permits_of_permitted {env : CpuX86State} {a : Access} {t : Translation}
    (ha : a.permitted env = true) (ht : env.translate a.addr = some t) :
    t.permits env.writeProtect a.isUser a.stores = true := by
  rw [Access.permitted, ht] at ha
  exact ha

theorem tlbFill_agrees {env : CpuX86State} (h : env.Paged) {a : Access} (ha : a.addr < 2 ^ 32)
    (htlb : ∀ e ∈ env.tlb, e.Agrees env) :
    ∀ e ∈ (env.tlbFill a).2.tlb, e.Agrees (env.tlbFill a).2 := by
  intro e he
  have hkept := tlbFill_kept h ha
  obtain ⟨hpermitted, -, hfills⟩ | ⟨-, -, hraises⟩ := tlbFill_cases h ha
  · obtain ⟨-, t, size, ht, -, hregs⟩ := hfills
    rw [hregs] at he
    rcases List.mem_cons.mp he with rfl | hold
    · have hpermits := permits_of_permitted ((hkept.permitted a).trans hpermitted) ht
      rw [hkept.writeProtect] at hpermits
      exact pageEntry_agrees hkept ht (permits_read hpermits)
    · exact (htlb e hold).mono hkept
  · rw [hraises.regs] at he
    exact (htlb e he).mono hkept

theorem runFills_agrees {env : CpuX86State} (h : env.Paged) {fills : List Access}
    (ha : ∀ a ∈ fills, a.addr < 2 ^ 32) (htlb : ∀ e ∈ env.tlb, e.Agrees env) :
    ∀ e ∈ (env.runFills fills).tlb, e.Agrees (env.runFills fills) := by
  induction fills generalizing env with
  | nil => exact htlb
  | cons a rest ih =>
      have hfirst := ha a List.mem_cons_self
      exact ih ((tlbFill_kept h hfirst).paged h) (fun b hb => ha b (List.mem_cons_of_mem a hb))
        (tlbFill_agrees h hfirst htlb)

theorem agrees_of_flushed {env : CpuX86State} (h : env.tlb = []) : ∀ e ∈ env.tlb, e.Agrees env := by
  rw [h]
  intro e he
  exact absurd he List.not_mem_nil

/-- The entry lets the access through. -/
structure TlbEntry.Serves (e : TlbEntry) (a : Access) : Prop where
  page : e.vaddr = a.addr / 4096 * 4096
  mode : e.mmuIdx = a.mmuIdx
  write : a.stores = true → e.prot &&& pageWrite ≠ 0

theorem Fills.serves {env env' : CpuX86State} {a : Access}
    (h : Fills env env' a.addr a.mmuIdx a.isUser a.stores) (hp : a.permitted env = true) :
    ∃ e, e.Serves a ∧ env'.tlb = e :: env.tlb := by
  have hkept := h.kept
  obtain ⟨-, t, size, ht, hdirty, hregs⟩ := h
  have hpermits := permits_of_permitted ((hkept.permitted a).trans hp) ht
  rw [hkept.writeProtect] at hpermits
  refine ⟨pageEntry env t a.addr a.mmuIdx size a.isUser, ⟨rfl, rfl, fun hw => ?_⟩, by rw [hregs]⟩
  rw [hw] at hpermits
  rw [pageEntry_writable, hdirty hw, hpermits]
  rfl

/-! ### What a run of fills keeps -/

section
variable {env : CpuX86State} {fills : List Access} {a : Access}

theorem run_permitted (h : env.Paged) (hfills : ∀ a ∈ fills, a.addr < 2 ^ 32)
    (ha : a.addr < 2 ^ 32) (hp : a.permitted env = true) :
    ((env.runFills fills).tlbFill a).1 = 0 ∧
      ∃ e, e.Serves a ∧
        ((env.runFills fills).tlbFill a).2.tlb = e :: (env.runFills fills).tlb := by
  have hkept := runFills_kept h hfills
  have hpermitted := (hkept.permitted a).trans hp
  obtain ⟨-, hret, hfills⟩ | ⟨hno, -, -⟩ := tlbFill_cases (hkept.paged h) ha
  · exact ⟨hret, hfills.serves hpermitted⟩
  · rw [hpermitted] at hno
    cases hno

theorem run_forbidden (h : env.Paged) (hfills : ∀ a ∈ fills, a.addr < 2 ^ 32)
    (ha : a.addr < 2 ^ 32) (hp : a.permitted env = false) :
    ((env.runFills fills).tlbFill a).1 = 1 ∧
      ((env.runFills fills).tlbFill a).2.tlb = (env.runFills fills).tlb ∧
      ((env.runFills fills).tlbFill a).2.cr2 = a.addr ∧
      ((env.runFills fills).tlbFill a).2.exceptionIndex = excp0ePage ∧
      ((env.runFills fills).tlbFill a).2.errorCode =
        (env.translate a.addr).isSome.toNat + 2 * a.stores.toNat + 4 * a.isUser.toNat := by
  have hkept := runFills_kept h hfills
  have hsome : ((env.runFills fills).translate a.addr).isSome =
      (env.translate a.addr).isSome := by
    have hrel := hkept.translate a.addr
    generalize env.translate a.addr = t at hrel ⊢
    generalize (env.runFills fills).translate a.addr = t₁ at hrel ⊢
    cases hrel <;> rfl
  obtain ⟨hyes, -, -⟩ | ⟨-, hret, hraises⟩ := tlbFill_cases (hkept.paged h) ha
  · rw [hkept.permitted, hp] at hyes
    cases hyes
  · have hregs := hraises.regs
    rw [hsome] at hregs
    refine ⟨hret, ?_, ?_, ?_, ?_⟩ <;> rw [hregs]

end

/-- Whatever fills came before, the tables as they were at the start decide the fill for an
access: it fails exactly where they forbid the access, with the error code of a page fault, and
otherwise leaves an entry that lets it through when it is tried again. -/
theorem run_decided_by_tables {env : CpuX86State} (h : env.Paged) {fills : List Access}
    (hfills : ∀ a ∈ fills, a.addr < 2 ^ 32) {a : Access} (ha : a.addr < 2 ^ 32) :
    let env₁ := env.runFills fills
    let r := env₁.tlbFill a
    (a.permitted env = true → r.1 = 0 ∧ ∃ e, e.Serves a ∧ r.2.tlb = e :: env₁.tlb) ∧
    (a.permitted env = false → r.1 = 1 ∧ r.2.tlb = env₁.tlb ∧ r.2.cr2 = a.addr ∧
      r.2.exceptionIndex = excp0ePage ∧
      r.2.errorCode = (env.translate a.addr).isSome.toNat + 2 * a.stores.toNat +
        4 * a.isUser.toNat) :=
  ⟨run_permitted h hfills ha, run_forbidden h hfills ha⟩

/-- One page, which user code may read. -/
def onePage : CpuX86State where
  mem := write32 (write32 (fun _ => 0) 0x1000 0x2007) 0x2000 0x5005
  cr0 := 0x80000001
  cr2 := 0
  cr3 := 0x1000
  cr4 := 0
  a20Mask := 2 ^ 64 - 1
  errorCode := 0
  exceptionIndex := 0
  tlb := []

theorem onePage_paged : onePage.Paged := ⟨by decide, rfl⟩

theorem onePage_store : (⟨0x456, 1, 1⟩ : Access).permitted onePage = false := by decide

theorem onePage_fills : ∀ b ∈ [(⟨0x123, 0, 1⟩ : Access)], b.addr < 2 ^ 32 := by decide

theorem run_decided_by_tables_onePage :
    ((onePage.runFills [⟨0x123, 0, 1⟩]).tlbFill ⟨0x456, 1, 1⟩).1 = 1 ∧
      ((onePage.runFills [⟨0x123, 0, 1⟩]).tlbFill ⟨0x456, 1, 1⟩).2.errorCode = 7 := by
  obtain ⟨hret, -, -, -, hcode⟩ := (run_decided_by_tables onePage_paged onePage_fills
    (a := ⟨0x456, 1, 1⟩) (by decide)).2 onePage_store
  exact ⟨hret, hcode.trans (by decide)⟩

/-- After a flush, the TLB holds no page that the tables, as they were then, do not give, and
none that may be stored to unless they allow it and the store has been recorded in them. -/
theorem tlb_agrees_with_tables {env : CpuX86State} (h : env.Paged) (hflushed : env.tlb = [])
    {fills : List Access} (hfills : ∀ a ∈ fills, a.addr < 2 ^ 32) {e : TlbEntry}
    (he : e ∈ (env.runFills fills).tlb) {addr : Nat}
    (haddr : addr / 4096 * 4096 = e.vaddr) :
    ∃ t t', env.translate addr = some t ∧ (env.runFills fills).translate addr = some t' ∧
      t.address = e.paddr + addr % 4096 ∧
      t.permits env.writeProtect (e.mmuIdx = mmuUserIdx) false = true ∧
      (e.prot &&& pageWrite ≠ 0 →
        t.permits env.writeProtect (e.mmuIdx = mmuUserIdx) true = true ∧ t'.dirty = true) := by
  have hkept : Kept env (env.runFills fills) := runFills_kept h hfills
  obtain ⟨t', ht', haddress, hread, hwrite⟩ :=
    runFills_agrees h hfills (agrees_of_flushed hflushed) e he addr haddr
  have hrel := hkept.translate addr
  rw [ht'] at hrel
  generalize hopt : env.translate addr = o at hrel
  cases hrel with
  | some hmarked =>
      refine ⟨_, t', rfl, ht', hmarked.address.symm.trans haddress, ?_, fun hprot => ?_⟩
      · rwa [hkept.writeProtect, hmarked.permits_eq] at hread
      · obtain ⟨hdirty, hpermits⟩ := hwrite hprot
        rw [hkept.writeProtect, hmarked.permits_eq] at hpermits
        exact ⟨hpermits, hdirty⟩

theorem onePage_tlb :
    (onePage.runFills [⟨0x123, 0, 1⟩]).tlb = [⟨0, 0x5000, 5, 1, 4096⟩] := by decide

theorem onePage_page : 0x789 / 4096 * 4096 = (⟨0, 0x5000, 5, 1, 4096⟩ : TlbEntry).vaddr := rfl

theorem tlb_agrees_with_tables_onePage :
    ∃ t, onePage.translate 0x789 = some t ∧ t.address = 0x5789 := by
  have hmem : ⟨0, 0x5000, 5, 1, 4096⟩ ∈ (onePage.runFills [⟨0x123, 0, 1⟩]).tlb := by
    rw [onePage_tlb]
    exact List.mem_cons_self
  obtain ⟨t, -, ht, -, haddress, -⟩ := tlb_agrees_with_tables onePage_paged rfl onePage_fills
    hmem onePage_page
  exact ⟨t, ht, haddress⟩

/-! ### The debugger -/

theorem page_of_address {address page addr : Nat} (h : address = page + addr % 4096)
    (hoffset : address % 4096 = addr % 4096) : address / 4096 * 4096 = page := by
  omega

/-- The addresses that the debugger is told are not changed by fills, and are those that the
TLB holds. -/
theorem debugger_agrees_with_tlb {env : CpuX86State} (h : env.Paged) (hflushed : env.tlb = [])
    {fills : List Access} (hfills : ∀ a ∈ fills, a.addr < 2 ^ 32) {addr : Nat}
    (haddr : addr < 2 ^ 32) :
    (env.runFills fills).getPhysPageDebug addr = env.getPhysPageDebug addr ∧
      ∀ e ∈ (env.runFills fills).tlb, addr / 4096 * 4096 = e.vaddr →
        env.getPhysPageDebug addr = some e.paddr := by
  have hkept := runFills_kept h hfills
  have hsame : (env.runFills fills).getPhysPageDebug addr = env.getPhysPageDebug addr := by
    have hrel := hkept.translate addr
    rw [getPhysPageDebug_eq (hkept.paged h) haddr, getPhysPageDebug_eq h haddr]
    generalize env.translate addr = t at hrel ⊢
    generalize (env.runFills fills).translate addr = t' at hrel ⊢
    cases hrel with
    | none => rfl
    | some hmarked => rw [Option.map_some, Option.map_some, hmarked.address]
  refine ⟨hsame, fun e he hpage => ?_⟩
  obtain ⟨t, ht, haddress, -⟩ := runFills_agrees h hfills (agrees_of_flushed hflushed) e he
    addr hpage
  have hoffset := walkLarge_offset ht
  have hframe := page_of_address haddress hoffset
  rw [← hsame, getPhysPageDebug_eq (hkept.paged h) haddr, ht, Option.map_some, hframe]

theorem debugger_agrees_with_tlb_onePage :
    onePage.getPhysPageDebug 0x789 = some 0x5000 := by
  have hmem : ⟨0, 0x5000, 5, 1, 4096⟩ ∈ (onePage.runFills [⟨0x123, 0, 1⟩]).tlb := by
    rw [onePage_tlb]
    exact List.mem_cons_self
  exact (debugger_agrees_with_tlb onePage_paged rfl onePage_fills (by decide)).2 _ hmem rfl

end ShellcodeVM.TargetI386
