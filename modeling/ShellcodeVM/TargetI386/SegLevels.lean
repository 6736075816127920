import ShellcodeVM.TargetI386.SegHelper
import ShellcodeVM.Lib.Word

/-!
The privilege levels of the emulator's segments. Whatever the descriptor tables and the
memory hold, the level of the processor is that of its code and stack segments, no data
segment is of a more privileged level, and only an interrupt makes the level more privileged.
-/
namespace ShellcodeVM.TargetI386
open Machine SegState

/-! ### Stops -/

theorem raiseIf_bind {α : Type} {c : Prop} [Decidable c] {e : Stop} {f : Unit → Except Stop α}
    {x : α} : (raiseIf c e >>= f) = .ok x ↔ ¬ c ∧ f () = .ok x := by
  by_cases h : c
  · rw [raiseIf, if_pos h]
    exact ⟨fun hbind => (nomatch hbind), fun hboth => absurd h hboth.1⟩
  · rw [raiseIf, if_neg h]
    exact ⟨fun hrest => ⟨h, hrest⟩, fun hboth => hboth.2⟩

theorem bind_ok {α β : Type} {m : Except Stop α} {f : α → Except Stop β} {y : β} :
    (m >>= f) = .ok y ↔ ∃ a, m = .ok a ∧ f a = .ok y := by
  cases m with
  | error e => exact ⟨fun h => (nomatch h), fun ⟨_, h, _⟩ => (nomatch h)⟩
  | ok a => exact ⟨fun h => ⟨a, rfl, h⟩, fun ⟨_, heq, h⟩ => by cases heq; exact h⟩

/-! ### Descriptors -/

def dplOf (e2 : Nat) : Nat := (e2 >>> descDplShift) &&& 3

theorem dplOf_le (e2 : Nat) : dplOf e2 ≤ 3 := Nat.and_le_right

/-- The segment may be used at the level: its register is empty, or it is of conforming code,
or of no more privileged a level. -/
def OpenTo (flags cpl : Nat) : Prop :=
  flags = 0 ∨ (flags &&& descCsMask ≠ 0 ∧ flags &&& descCMask ≠ 0) ∨ cpl ≤ dplOf flags

/-- The level of a code segment suits the processor's. -/
def RunsAt (flags cpl : Nat) : Prop :=
  if flags &&& descCMask ≠ 0 then dplOf flags ≤ cpl else dplOf flags = cpl

def IsData (seg : SegReg) : Prop := seg ≠ .cs ∧ seg ≠ .ss

/-- The levels agree. -/
structure Levels (env : SegState) : Prop where
  cpl_le : env.cpl ≤ 3
  cs : privilege (env.selector .cs) = env.cpl
  ss : privilege (env.selector .ss) = env.cpl
  code : RunsAt (env.segs .cs).flags env.cpl
  stack : dplOf (env.segs .ss).flags = env.cpl
  vm : env.cpu.regs.eflags &&& flagVm = 0
  data : ∀ seg, IsData seg → OpenTo (env.segs seg).flags env.cpl
  null : ∀ seg, IsData seg → (env.selector seg).toNat &&& 0xfffc = 0 → (env.segs seg).flags = 0

/-! ### Inversion -/

theorem handlerSegment_ok {env : SegState} {selector : Nat} {e : Nat × Nat}
    (h : env.handlerSegment selector = .ok e) : dplOf e.2 ≤ env.cpl := by
  rw [handlerSegment, bind_ok] at h
  obtain ⟨⟨e1, e2⟩, -, h⟩ := h
  simp only [raiseIf_bind] at h
  obtain ⟨-, hdpl, -, hpure⟩ := h
  cases hpure
  exact Nat.le_of_not_lt hdpl

/-- The frame goes to an inner stack of the handler's level, or to the stack in use. -/
theorem handlerStack_ok {env : SegState} {selector e2 : Nat} {stack : HandlerStack}
    (h : env.handlerStack selector e2 = .ok stack) :
    (stack.newStack = true ∧ e2 &&& descCMask = 0 ∧ dplOf e2 < env.cpl ∧ stack.dpl = dplOf e2 ∧
      dplOf stack.e2 = dplOf e2) ∨
    (stack.newStack = false ∧ (e2 &&& descCMask ≠ 0 ∨ dplOf e2 = env.cpl) ∧
      stack.dpl = env.cpl) := by
  rw [handlerStack] at h
  split_ifs at h with hinner hsame
  · rw [bind_ok] at h
    obtain ⟨⟨ss, esp⟩, -, h⟩ := h
    simp only [raiseIf_bind] at h
    obtain ⟨-, -, h⟩ := h
    rw [bind_ok] at h
    obtain ⟨⟨ssE1, ssE2⟩, -, h⟩ := h
    simp only [raiseIf_bind] at h
    obtain ⟨hdpl, -, -, hpure⟩ := h
    cases hpure
    exact .inl ⟨rfl, hinner.1, hinner.2, rfl, not_not.mp hdpl⟩
  · rw [raiseIf_bind] at h
    obtain ⟨-, hpure⟩ := h
    cases hpure
    exact .inr ⟨rfl, hsame, rfl⟩

theorem loadable_ok {env : SegState} {seg : SegReg} {selector e2 : Nat}
    (h : env.loadable seg selector e2 = .ok ()) :
    if seg = .ss then selector &&& 3 = env.cpl ∧ dplOf e2 = env.cpl
    else (e2 &&& descCsMask ≠ 0 ∧ e2 &&& descCMask ≠ 0) ∨ env.cpl ≤ dplOf e2 := by
  rw [loadable] at h
  split_ifs at h ⊢ with hseg
  · simp only [raiseIf_bind, not_or, not_not] at h
    obtain ⟨-, -, hlevels, -⟩ := h
    exact hlevels
  · simp only [raiseIf_bind] at h
    obtain ⟨-, -, hrights, -⟩ := h
    rw [not_and_or, not_or, not_or, Nat.not_lt] at hrights
    obtain hcode | hdpl := hrights
    · exact .inl hcode
    · exact .inr hdpl.1

theorem returnSegment_ok {env : SegState} {newCs : Nat} {e : Nat × Nat}
    (h : env.returnSegment newCs = .ok e) :
    env.cpl ≤ newCs &&& 3 ∧ RunsAt e.2 (newCs &&& 3) := by
  simp only [returnSegment, raiseIf_bind] at h
  obtain ⟨-, h⟩ := h
  rw [bind_ok] at h
  obtain ⟨⟨e1, e2⟩, -, h⟩ := h
  simp only [raiseIf_bind] at h
  obtain ⟨-, hrpl, hdpl, -, hpure⟩ := h
  cases hpure
  refine ⟨Nat.le_of_not_lt hrpl, ?_⟩
  rw [RunsAt]
  split_ifs at hdpl ⊢
  · exact Nat.le_of_not_lt hdpl
  · exact not_not.mp hdpl

theorem returnStack_ok {env : SegState} {newSs rpl : Nat} {e : Nat × Nat}
    (h : env.returnStack newSs rpl = .ok e) : newSs &&& 3 = rpl ∧ dplOf e.2 = rpl := by
  simp only [returnStack, raiseIf_bind] at h
  obtain ⟨-, hrpl, h⟩ := h
  rw [bind_ok] at h
  obtain ⟨⟨e1, e2⟩, -, h⟩ := h
  simp only [raiseIf_bind] at h
  obtain ⟨-, hdpl, -, hpure⟩ := h
  cases hpure
  exact ⟨not_not.mp hrpl, not_not.mp hdpl⟩

/-! ### Registers -/

section
variable (env : SegState) (seg s : SegReg)

@[simp] theorem loadSegCache_cpl (sel : Nat) (base : UInt32) (limit flags : Nat) :
    (env.loadSegCache seg sel base limit flags).cpl = env.cpl :=
  rfl

@[simp] theorem loadSegCache_eflags (sel : Nat) (base : UInt32) (limit flags : Nat) :
    (env.loadSegCache seg sel base limit flags).cpu.regs.eflags = env.cpu.regs.eflags := by
  cases seg <;> rfl

@[simp] theorem loadSegCache_segs (sel : Nat) (base : UInt32) (limit flags : Nat) :
    (env.loadSegCache seg sel base limit flags).segs s =
      if s = seg then ⟨base, limit, flags⟩ else env.segs s :=
  rfl

@[simp] theorem loadSegCache_selector (sel : Nat) (base : UInt32) (limit flags : Nat) :
    (env.loadSegCache seg sel base limit flags).selector s =
      if s = seg then UInt16.ofNat sel else env.selector s := by
  cases seg <;> cases s <;> rfl

@[simp] theorem setEsp_cpl (val mask : UInt32) : (env.setEsp val mask).cpl = env.cpl := rfl

@[simp] theorem setEsp_eflags (val mask : UInt32) :
    (env.setEsp val mask).cpu.regs.eflags = env.cpu.regs.eflags := rfl

@[simp] theorem setEsp_segs (val mask : UInt32) : (env.setEsp val mask).segs s = env.segs s := rfl

@[simp] theorem setEsp_selector (val mask : UInt32) :
    (env.setEsp val mask).selector s = env.selector s := by
  cases s <;> rfl

@[simp] theorem setMem_cpl (mem : Memory32) : (env.setMem mem).cpl = env.cpl := rfl

@[simp] theorem setMem_eflags (mem : Memory32) :
    (env.setMem mem).cpu.regs.eflags = env.cpu.regs.eflags := rfl

@[simp] theorem setMem_segs (mem : Memory32) : (env.setMem mem).segs s = env.segs s := rfl

@[simp] theorem setMem_selector (mem : Memory32) : (env.setMem mem).selector s = env.selector s := by
  cases s <;> rfl

@[simp] theorem setCpl_cpl (cpl : Nat) : (env.setCpl cpl).cpl = cpl := rfl

@[simp] theorem setCpl_eflags (cpl : Nat) :
    (env.setCpl cpl).cpu.regs.eflags = env.cpu.regs.eflags := rfl

@[simp] theorem setCpl_segs (cpl : Nat) : (env.setCpl cpl).segs s = env.segs s := rfl

@[simp] theorem setCpl_selector (cpl : Nat) : (env.setCpl cpl).selector s = env.selector s := by
  cases s <;> rfl

@[simp] theorem jump_cpl (gate : Gate) (dpl : Nat) : (env.jump gate dpl).cpl = dpl := rfl

@[simp] theorem jump_segs (gate : Gate) (dpl : Nat) : (env.jump gate dpl).segs s = env.segs s := rfl

@[simp] theorem jump_selector (gate : Gate) (dpl : Nat) :
    (env.jump gate dpl).selector s = env.selector s := by
  cases s <;> rfl

theorem jump_vm (gate : Gate) (dpl : Nat) :
    (env.jump gate dpl).cpu.regs.eflags &&& flagVm = 0 := by
  have hmask : ~~~(flagTf ||| flagVm ||| flagRf ||| flagNt) &&& flagVm = 0 := by decide
  simp only [jump]
  rw [UInt32.and_assoc, hmask, UInt32.and_zero]

end

theorem privilege_ofNat (sel : Nat) : privilege (UInt16.ofNat sel) = sel &&& 3 := by
  have hmask := and_mask sel 2
  rw [privilege, UInt16.toNat_ofNat']
  norm_num at hmask ⊢
  omega

theorem privilege_raised (sel : Nat) {level : Nat} (h : level ≤ 3) :
    privilege (UInt16.ofNat ((sel &&& 0xfffc) ||| level)) = level := by
  have hmask : sel &&& 0xfffc = 2 ^ 2 * (sel / 2 ^ 2 % 2 ^ 14) := by
    have hnum : 0xfffc = (2 ^ 14 - 1) * 2 ^ 2 := by norm_num
    rw [hnum, and_shiftedMask, Nat.mul_comm]
  rw [hmask, ← Nat.two_pow_add_eq_or_of_lt (by omega), privilege_ofNat]
  have hlow := and_mask (2 ^ 2 * (sel / 2 ^ 2 % 2 ^ 14) + level) 2
  norm_num at hlow ⊢
  omega

/-! ### Interrupts -/

theorem clearSegments_eq {env : SegState} (h : env.cpu.regs.eflags &&& flagVm = 0) :
    env.clearSegments = env :=
  if_neg (not_not_intro h)

theorem loadInnerStack_segs {env : SegState} (h : env.cpu.regs.eflags &&& flagVm = 0)
    (stack : HandlerStack) (s : SegReg) :
    (env.loadInnerStack stack).segs s =
      if stack.newStack = true ∧ s = .ss then
        ⟨stack.ssp, getSegLimit stack.e1 stack.e2, stack.e2⟩
      else env.segs s := by
  rw [loadInnerStack, clearSegments_eq h]
  cases stack.newStack <;> simp

theorem loadInnerStack_selector {env : SegState} (h : env.cpu.regs.eflags &&& flagVm = 0)
    (stack : HandlerStack) (s : SegReg) :
    (env.loadInnerStack stack).selector s =
      if stack.newStack = true ∧ s = .ss then UInt16.ofNat ((stack.ss &&& 0xfffc) ||| stack.dpl)
      else env.selector s := by
  rw [loadInnerStack, clearSegments_eq h]
  cases stack.newStack <;> simp

section
variable {env : SegState} (hvm : env.cpu.regs.eflags &&& flagVm = 0) (gate : Gate) (e1 e2 : Nat)
  (stack : HandlerStack) (words : List UInt32) (s : SegReg)
include hvm

theorem enterHandler_segs :
    (env.enterHandler gate e1 e2 stack words).segs s =
      if s = .cs then ⟨getSegBase e1 e2, getSegLimit e1 e2, e2⟩
      else if stack.newStack = true ∧ s = .ss then
        ⟨stack.ssp, getSegLimit stack.e1 stack.e2, stack.e2⟩
      else env.segs s := by
  have hset : ∀ mem, (env.setMem mem).cpu.regs.eflags &&& flagVm = 0 := fun _ => hvm
  simp only [enterHandler, jump_segs, loadSegCache_segs, setEsp_segs, loadInnerStack_segs (hset _),
    setMem_segs]

theorem enterHandler_selector :
    (env.enterHandler gate e1 e2 stack words).selector s =
      if s = .cs then UInt16.ofNat ((gate.selector &&& 0xfffc) ||| stack.dpl)
      else if stack.newStack = true ∧ s = .ss then
        UInt16.ofNat ((stack.ss &&& 0xfffc) ||| stack.dpl)
      else env.selector s := by
  have hset : ∀ mem, (env.setMem mem).cpu.regs.eflags &&& flagVm = 0 := fun _ => hvm
  simp only [enterHandler, jump_selector, loadSegCache_selector, setEsp_selector,
    loadInnerStack_selector (hset _), setMem_selector]

end

theorem OpenTo.lower {flags cpl cpl' : Nat} (h : OpenTo flags cpl) (hle : cpl' ≤ cpl) :
    OpenTo flags cpl' := by
  obtain hempty | hcode | hdpl := h
  · exact .inl hempty
  · exact .inr (.inl hcode)
  · exact .inr (.inr (hle.trans hdpl))

theorem Levels.enterHandler {env : SegState} (h : Levels env) {selector : Nat} {e : Nat × Nat}
    {stack : HandlerStack} (he : env.handlerSegment selector = .ok e)
    (hstack : env.handlerStack selector e.2 = .ok stack) (gate : Gate) (words : List UInt32) :
    Levels (env.enterHandler gate e.1 e.2 stack words) ∧
      (env.enterHandler gate e.1 e.2 stack words).cpl ≤ env.cpl := by
  have hdpl := handlerSegment_ok he
  have hle := dplOf_le e.2
  have hcase := handlerStack_ok hstack
  have hstackDpl : stack.dpl ≤ env.cpl := by
    obtain ⟨-, -, hlt, heq, -⟩ | ⟨-, -, heq⟩ := hcase <;> omega
  have hsegs := enterHandler_segs h.vm gate e.1 e.2 stack words
  have hsels := enterHandler_selector h.vm gate e.1 e.2 stack words
  have hcpl : (env.enterHandler gate e.1 e.2 stack words).cpl = stack.dpl := rfl
  have hthree : stack.dpl ≤ 3 := hstackDpl.trans h.cpl_le
  refine ⟨⟨hthree, ?_, ?_, ?_, ?_, jump_vm .., ?_, ?_⟩, hstackDpl⟩
  · rw [hsels, if_pos rfl, privilege_raised _ hthree, hcpl]
  · rw [hsels, hcpl]
    obtain ⟨hnew, -⟩ | ⟨hold, -, heq⟩ := hcase
    · rw [if_neg (by decide), if_pos ⟨hnew, rfl⟩]
      exact privilege_raised _ hthree
    · rw [if_neg (by decide), if_neg (by simp [hold]), heq, h.ss]
  · rw [hsegs, if_pos rfl, hcpl]
    simp only [RunsAt]
    obtain ⟨-, hc, -, heq, -⟩ | ⟨-, hc, heq⟩ := hcase
    · rw [if_neg (not_not_intro hc), heq]
    · rw [heq]
      split_ifs with hconforming
      · exact hdpl
      · exact hc.resolve_left hconforming
  · rw [hsegs, hcpl]
    obtain ⟨hnew, -, -, heq, hss⟩ | ⟨hold, -, heq⟩ := hcase
    · simp [hnew, hss, heq]
    · simp [hold, heq, h.stack]
  · intro seg hseg
    rw [hsegs, if_neg hseg.1, if_neg fun hss => hseg.2 hss.2]
    exact (h.data seg hseg).lower hstackDpl
  · intro seg hseg
    rw [hsegs, hsels, if_neg hseg.1, if_neg hseg.1, if_neg fun hss => hseg.2 hss.2,
      if_neg fun hss => hseg.2 hss.2]
    exact h.null seg hseg

theorem Levels.interrupt {env env' : SegState} (h : Levels env) {intno : Nat}
    {isInt isHw : Bool} {errorCode nextEip : UInt32}
    (hok : env.doInterruptProtected intno isInt errorCode nextEip isHw = .ok env') :
    Levels env' ∧ env'.cpl ≤ env.cpl := by
  rw [doInterruptProtected, bind_ok] at hok
  obtain ⟨gate, -, hok⟩ := hok
  rw [bind_ok] at hok
  obtain ⟨⟨e1, e2⟩, he, hok⟩ := hok
  dsimp only at hok
  rw [bind_ok] at hok
  obtain ⟨stack, hstack, hpure⟩ := hok
  cases hpure
  exact h.enterHandler he hstack gate _

/-! ### Loads -/

/-- A data segment register may hold what it holds. -/
structure DataOk (env : SegState) (cpl : Nat) (seg : SegReg) : Prop where
  opened : OpenTo (env.segs seg).flags cpl
  null : (env.selector seg).toNat &&& 0xfffc = 0 → (env.segs seg).flags = 0

theorem Levels.loadSegCache {env : SegState} (h : Levels env) {seg : SegReg} (hcs : seg ≠ .cs)
    {sel : Nat} {base : UInt32} {limit flags : Nat}
    (hss : seg = .ss → sel &&& 3 = env.cpl ∧ dplOf flags = env.cpl)
    (hdata : seg ≠ .ss → OpenTo flags env.cpl)
    (hnull : (UInt16.ofNat sel).toNat &&& 0xfffc = 0 → flags = 0) :
    Levels (env.loadSegCache seg sel base limit flags) := by
  refine ⟨h.cpl_le, ?_, ?_, ?_, ?_, ?_, ?_, ?_⟩
  · rw [loadSegCache_selector, if_neg hcs.symm, loadSegCache_cpl, h.cs]
  · rw [loadSegCache_selector, loadSegCache_cpl]
    split_ifs with heq
    · rw [privilege_ofNat, (hss heq.symm).1]
    · exact h.ss
  · rw [loadSegCache_segs, if_neg hcs.symm, loadSegCache_cpl]
    exact h.code
  · rw [loadSegCache_segs, loadSegCache_cpl]
    split_ifs with heq
    · exact (hss heq.symm).2
    · exact h.stack
  · rw [loadSegCache_eflags]
    exact h.vm
  · intro s hs
    rw [loadSegCache_segs, loadSegCache_cpl]
    split_ifs with heq
    · exact hdata (heq ▸ hs.2)
    · exact h.data s hs
  · intro s hs
    rw [loadSegCache_segs, loadSegCache_selector]
    split_ifs with heq
    · exact hnull
    · exact h.null s hs

theorem and_or_of_apart {e2 mark mask : Nat} (h : mark &&& mask = 0) :
    (e2 ||| mark) &&& mask = e2 &&& mask := by
  rw [Nat.and_or_distrib_right, h, Nat.or_zero]

/-- The accessed bit says nothing about the rights. -/
theorem dplOf_accessed (e2 : Nat) : dplOf (e2 ||| descAMask) = dplOf e2 := by
  have hshift : descAMask >>> descDplShift = 0 := by decide
  rw [dplOf, Nat.shiftRight_or_distrib, hshift, Nat.or_zero, dplOf]

theorem OpenTo.accessed {e2 cpl : Nat}
    (h : (e2 &&& descCsMask ≠ 0 ∧ e2 &&& descCMask ≠ 0) ∨ cpl ≤ dplOf e2) :
    OpenTo (e2 ||| descAMask) cpl := by
  right
  rwa [and_or_of_apart (by decide), and_or_of_apart (by decide), dplOf_accessed]

theorem toNat_selector (selector : Nat) :
    (UInt16.ofNat (selector &&& 0xffff)).toNat = selector &&& 0xffff := by
  have hmask := and_mask selector 16
  norm_num at hmask
  rw [UInt16.toNat_ofNat', hmask]
  omega

theorem Levels.setMem {env : SegState} (h : Levels env) (mem : Memory32) :
    Levels (env.setMem mem) where
  cpl_le := h.cpl_le
  cs := h.cs
  ss := h.ss
  code := h.code
  stack := h.stack
  vm := h.vm
  data := h.data
  null := h.null

theorem Levels.loadSeg {env env' : SegState} (h : Levels env) {seg : SegReg} (hcs : seg ≠ .cs)
    {selector : Nat} (hok : env.helperLoadSeg seg selector = .ok env') :
    Levels env' ∧ env'.cpl = env.cpl := by
  rw [helperLoadSeg] at hok
  dsimp only at hok
  split_ifs at hok with hzero
  · rw [raiseIf_bind] at hok
    obtain ⟨hss, hpure⟩ := hok
    cases hpure
    exact ⟨h.loadSegCache hcs (fun heq => absurd heq hss) (fun _ => .inl rfl) fun _ => rfl, rfl⟩
  all_goals
    rw [bind_ok] at hok
    obtain ⟨⟨e1, e2⟩, -, hok⟩ := hok
    dsimp only at hok
    rw [bind_ok] at hok
    obtain ⟨⟨⟩, hload, hpure⟩ := hok
    cases hpure
    have hrights := loadable_ok hload
    refine ⟨(h.setMem _).loadSegCache hcs ?_ ?_ ?_, rfl⟩
    · intro hss
      rw [if_pos hss] at hrights
      rwa [dplOf_accessed]
    · intro hss
      rw [if_neg hss] at hrights
      exact OpenTo.accessed hrights
    · intro hnull
      rw [toNat_selector] at hnull
      exact absurd hnull hzero

/-! ### Returns -/

section
variable (env : SegState) (cpl : Nat) (seg s : SegReg)

@[simp] theorem validateSeg_cpl : (env.validateSeg seg cpl).cpl = env.cpl := by
  simp only [validateSeg]
  split_ifs <;> rfl

@[simp] theorem validateSeg_eflags :
    (env.validateSeg seg cpl).cpu.regs.eflags = env.cpu.regs.eflags := by
  simp only [validateSeg]
  split_ifs <;> simp only [loadSegCache_eflags]

theorem validateSeg_of_ne (h : s ≠ seg) :
    (env.validateSeg seg cpl).segs s = env.segs s ∧
      (env.validateSeg seg cpl).selector s = env.selector s := by
  simp only [validateSeg]
  split_ifs <;> simp [h]

end

/-- The register is emptied or may stay. -/
theorem validateSeg_ok {env : SegState} {seg : SegReg}
    (hnull : (env.selector seg).toNat &&& 0xfffc = 0 → (env.segs seg).flags = 0) (cpl : Nat) :
    DataOk (env.validateSeg seg cpl) cpl seg := by
  simp only [validateSeg]
  split_ifs with hempty hshut
  · exact ⟨.inl (hnull hempty.2), hnull⟩
  · refine ⟨.inl ?_, fun _ => ?_⟩ <;> rw [loadSegCache_segs, if_pos rfl]
  · refine ⟨?_, hnull⟩
    rw [not_and_or, not_or, Nat.not_lt] at hshut
    obtain hcode | hdpl := hshut
    · exact .inr (.inl hcode)
    · exact .inr (.inr hdpl)

theorem DataOk.validateSeg {env : SegState} {cpl : Nat} {seg s : SegReg} (h : DataOk env cpl s) :
    DataOk (env.validateSeg seg cpl) cpl s := by
  by_cases heq : s = seg
  · subst heq
    exact validateSeg_ok h.null cpl
  · obtain ⟨hsegs, hsel⟩ := validateSeg_of_ne env cpl seg s heq
    exact ⟨by rw [hsegs]; exact h.opened, by rw [hsegs, hsel]; exact h.null⟩

theorem validate_foldl (segs : List SegReg) {env : SegState} {cpl : Nat} {s : SegReg}
    (hnull : ∀ seg ∈ segs, (env.selector seg).toNat &&& 0xfffc = 0 → (env.segs seg).flags = 0)
    (hs : s ∈ segs ∨ DataOk env cpl s) :
    DataOk (segs.foldl (fun env seg => env.validateSeg seg cpl) env) cpl s := by
  induction segs generalizing env with
  | nil => exact hs.resolve_left List.not_mem_nil
  | cons seg segs ih =>
      have hfirst := validateSeg_ok (hnull seg List.mem_cons_self) cpl
      refine ih ?_ ?_
      · intro seg' hmem
        by_cases heq : seg' = seg
        · subst heq
          exact hfirst.null
        · obtain ⟨hsegs, hsel⟩ := validateSeg_of_ne env cpl seg seg' heq
          rw [hsegs, hsel]
          exact hnull seg' (List.mem_cons_of_mem seg hmem)
      · obtain hmem | hok := hs
        · obtain rfl | hrest := List.mem_cons.mp hmem
          · exact .inr hfirst
          · exact .inl hrest
        · exact .inr hok.validateSeg

theorem validate_foldl_of_not_mem (segs : List SegReg) (env : SegState) (cpl : Nat) {s : SegReg}
    (hs : s ∉ segs) :
    let env' := segs.foldl (fun env seg => env.validateSeg seg cpl) env
    env'.segs s = env.segs s ∧ env'.selector s = env.selector s ∧ env'.cpl = env.cpl ∧
      env'.cpu.regs.eflags = env.cpu.regs.eflags := by
  induction segs generalizing env with
  | nil => exact ⟨rfl, rfl, rfl, rfl⟩
  | cons seg segs ih =>
      rw [List.mem_cons, not_or] at hs
      obtain ⟨hsegs, hsel⟩ := validateSeg_of_ne env cpl seg s hs.1
      have hrest := ih (env.validateSeg seg cpl) hs.2
      rw [hsegs, hsel, validateSeg_cpl, validateSeg_eflags] at hrest
      exact hrest

theorem or_and (a b c : UInt32) : (a ||| b) &&& c = (a &&& c) ||| (b &&& c) := by
  apply UInt32.toBitVec_inj.mp
  ext i
  simp [Bool.and_or_distrib_right]

theorem eflagsMask_vm (cpl : Nat) (eflags : UInt32) (shift : Nat) :
    (eflagsMask cpl eflags shift ||| flagsCcDf) &&& flagVm = 0 := by
  simp only [eflagsMask]
  split_ifs <;> decide

theorem loadEflags_vm {old : UInt32} (h : old &&& flagVm = 0) (new : UInt32) {mask : UInt32}
    (hmask : (mask ||| flagsCcDf) &&& flagVm = 0) : loadEflags old new mask &&& flagVm = 0 := by
  have htwo : (0x2 : UInt32) &&& flagVm = 0 := by decide
  have hold : old &&& ~~~(mask ||| flagsCcDf) &&& flagVm = 0 := by
    rw [UInt32.and_assoc, UInt32.and_comm (~~~(mask ||| flagsCcDf)), ← UInt32.and_assoc, h,
      UInt32.zero_and]
  rw [loadEflags, or_and, or_and, hold, htwo, UInt32.and_assoc, hmask]
  simp

/-- The end of a return changes no segment, and not the mode. -/
theorem Levels.finishReturn {env : SegState} (h : Levels env) (cpl shift : Nat) (isIret : Bool)
    (newEip newEflags : UInt32) :
    Levels (env.finishReturn cpl shift isIret newEip newEflags) := by
  refine ⟨h.cpl_le, h.cs, h.ss, h.code, h.stack, ?_, h.data, h.null⟩
  simp only [SegState.finishReturn]
  split_ifs
  · exact loadEflags_vm h.vm newEflags (eflagsMask_vm _ _ _)
  · exact h.vm

theorem Levels.setEsp {env : SegState} (h : Levels env) (val mask : UInt32) :
    Levels (env.setEsp val mask) :=
  ⟨h.cpl_le, h.cs, h.ss, h.code, h.stack, h.vm, h.data, h.null⟩

/-- A return within the level loads `cs` only. -/
theorem Levels.returnWithin {env : SegState} (h : Levels env) {newCs e1 e2 : Nat}
    (hrpl : newCs &&& 3 = env.cpl) (hcode : RunsAt e2 (newCs &&& 3)) :
    Levels (env.loadSegCache .cs newCs (getSegBase e1 e2) (getSegLimit e1 e2) e2) := by
  refine ⟨h.cpl_le, ?_, ?_, ?_, ?_, ?_, ?_, ?_⟩
  · rw [loadSegCache_selector, if_pos rfl, privilege_ofNat, loadSegCache_cpl, hrpl]
  · rw [loadSegCache_selector, if_neg (by decide), loadSegCache_cpl, h.ss]
  · rw [loadSegCache_segs, if_pos rfl, loadSegCache_cpl, ← hrpl]
    exact hcode
  · rw [loadSegCache_segs, if_neg (by decide), loadSegCache_cpl, h.stack]
  · rw [loadSegCache_eflags, h.vm]
  · intro seg hseg
    rw [loadSegCache_segs, if_neg hseg.1, loadSegCache_cpl]
    exact h.data seg hseg
  · intro seg hseg
    rw [loadSegCache_segs, loadSegCache_selector, if_neg hseg.1, if_neg hseg.1]
    exact h.null seg hseg

/-- A return to an outer level loads both segments, and empties the registers that are not
for that level. -/
theorem Levels.returnAcross {env : SegState} (h : Levels env) {newCs e1 e2 newSs ssE1 ssE2 : Nat}
    (hcode : RunsAt e2 (newCs &&& 3)) (hss : newSs &&& 3 = newCs &&& 3)
    (hstack : dplOf ssE2 = newCs &&& 3) :
    Levels ((((env.loadSegCache .ss newSs (getSegBase ssE1 ssE2) (getSegLimit ssE1 ssE2)
      ssE2).loadSegCache .cs newCs (getSegBase e1 e2) (getSegLimit e1 e2) e2).setCpl
        (newCs &&& 3)).validateSegs (newCs &&& 3)) ∧
      ((((env.loadSegCache .ss newSs (getSegBase ssE1 ssE2) (getSegLimit ssE1 ssE2)
      ssE2).loadSegCache .cs newCs (getSegBase e1 e2) (getSegLimit e1 e2) e2).setCpl
        (newCs &&& 3)).validateSegs (newCs &&& 3)).cpl = newCs &&& 3 := by
  generalize hloaded : ((env.loadSegCache .ss newSs (getSegBase ssE1 ssE2) (getSegLimit ssE1 ssE2)
    ssE2).loadSegCache .cs newCs (getSegBase e1 e2) (getSegLimit e1 e2) e2).setCpl
      (newCs &&& 3) = env₁
  have hsegs : ∀ s, env₁.segs s =
      if s = .cs then ⟨getSegBase e1 e2, getSegLimit e1 e2, e2⟩
      else if s = .ss then ⟨getSegBase ssE1 ssE2, getSegLimit ssE1 ssE2, ssE2⟩
      else env.segs s := by
    intro s
    rw [← hloaded, setCpl_segs, loadSegCache_segs, loadSegCache_segs]
  have hsels : ∀ s, env₁.selector s =
      if s = .cs then UInt16.ofNat newCs else if s = .ss then UInt16.ofNat newSs
      else env.selector s := by
    intro s
    rw [← hloaded, setCpl_selector, loadSegCache_selector, loadSegCache_selector]
  have hvm : env₁.cpu.regs.eflags &&& flagVm = 0 := by
    rw [← hloaded, setCpl_eflags, loadSegCache_eflags, loadSegCache_eflags, h.vm]
  have hcpl : env₁.cpl = newCs &&& 3 := by rw [← hloaded, setCpl_cpl]
  obtain ⟨hcsSegs, hcsSel, hcplKept, hvmKept⟩ := validate_foldl_of_not_mem
    [SegReg.es, .ds, .fs, .gs] env₁ (newCs &&& 3) (s := .cs) (by decide)
  obtain ⟨hssSegs, hssSel, -, -⟩ := validate_foldl_of_not_mem
    [SegReg.es, .ds, .fs, .gs] env₁ (newCs &&& 3) (s := .ss) (by decide)
  have hkept : (env₁.validateSegs (newCs &&& 3)).cpl = newCs &&& 3 := hcplKept.trans hcpl
  have hdata : ∀ s, IsData s → DataOk (env₁.validateSegs (newCs &&& 3)) (newCs &&& 3) s := by
    intro s hs
    refine validate_foldl _ ?_ (.inl ?_)
    · intro seg hseg
      have hne : seg ≠ .cs ∧ seg ≠ .ss := by
        constructor <;> rintro rfl <;> exact absurd hseg (by decide)
      rw [hsegs, hsels, if_neg hne.1, if_neg hne.1, if_neg hne.2, if_neg hne.2]
      exact h.null seg hne
    · obtain ⟨hcs, hss⟩ := hs
      cases s <;> simp_all
  refine ⟨⟨?_, ?_, ?_, ?_, ?_, ?_, ?_, fun s hs => (hdata s hs).null⟩, hkept⟩
  · rw [hkept]
    exact Nat.and_le_right
  · rw [hkept, validateSegs, hcsSel, hsels, if_pos rfl, privilege_ofNat]
  · rw [hkept, validateSegs, hssSel, hsels, if_neg (by decide), if_pos rfl, privilege_ofNat, hss]
  · rw [hkept, validateSegs, hcsSegs, hsegs, if_pos rfl]
    exact hcode
  · rw [hkept, validateSegs, hssSegs, hsegs, if_neg (by decide), if_pos rfl]
    exact hstack
  · exact hvmKept ▸ hvm
  · intro s hs
    rw [hkept]
    exact (hdata s hs).opened

theorem Levels.returnTo {env env' : SegState} (h : Levels env) {s : StackTop} {shift : Nat}
    {isIret : Bool} {addend newEip newEflags : UInt32} {newCs : Nat}
    (hok : env.returnTo s shift isIret addend newCs newEip newEflags = .ok env') :
    Levels env' ∧ env.cpl ≤ env'.cpl := by
  rw [SegState.returnTo, bind_ok] at hok
  obtain ⟨⟨e1, e2⟩, hsegment, hok⟩ := hok
  obtain ⟨hrpl, hcode⟩ := returnSegment_ok hsegment
  dsimp only at hok
  split_ifs at hok with hsame
  · cases hok
    exact ⟨((h.returnWithin hsame hcode).setEsp _ _).finishReturn _ _ _ _ _, le_refl _⟩
  · rw [returnOutward] at hok
    dsimp only at hok
    rw [bind_ok] at hok
    obtain ⟨⟨ssE1, ssE2⟩, hstack, hpure⟩ := hok
    cases hpure
    obtain ⟨hss, hdpl⟩ := returnStack_ok hstack
    obtain ⟨hlevels, hcpl⟩ := h.returnAcross hcode hss hdpl
    exact ⟨(hlevels.setEsp _ _).finishReturn _ _ _ _ _, hrpl.trans (le_of_eq hcpl.symm)⟩

theorem Levels.ret {env env' : SegState} (h : Levels env) {shift : Nat} {isIret : Bool}
    {addend : UInt32} (hok : env.helperRetProtected shift isIret addend = .ok env') :
    Levels env' ∧ env.cpl ≤ env'.cpl := by
  simp only [helperRetProtected, raiseIf_bind] at hok
  exact h.returnTo hok.2

/-! ### Runs -/

/-- What the processor does next. -/
inductive SegStep where
  | loadSeg (seg : SegReg) (selector : Nat)
  | interrupt (intno : Nat) (isInt : Bool) (errorCode nextEip : UInt32) (isHw : Bool)
  | iret (shift : Nat)
  | lret (shift : Nat) (addend : UInt32)
  | ltr (selector : Nat)
  /-- An instruction that loads no segment register and leaves the mode alone. -/
  | compute (mem : Memory32) (regs : Registers)
  /-- The tables are moved, and the memory that they lie in is changed. -/
  | tables (gdt ldt idt tr : SegmentCache) (mem : Memory32)

namespace SegStep

/-- `cs` is not loaded like a data segment. -/
def Legal : SegStep → Prop
  | .loadSeg seg _ => seg ≠ .cs
  | _ => True

def IsInterrupt : SegStep → Prop
  | .interrupt .. => True
  | _ => False

def apply (env : SegState) : SegStep → Except Stop SegState
  | .loadSeg seg selector => env.helperLoadSeg seg selector
  | .interrupt intno isInt errorCode nextEip isHw =>
      env.doInterruptProtected intno isInt errorCode nextEip isHw
  | .iret shift => env.helperIretProtected shift
  | .lret shift addend => env.helperLretProtected shift addend
  | .ltr selector => env.helperLtr selector
  | .compute mem regs =>
      let r := env.cpu.regs
      .ok { env with cpu := ⟨{ regs with
        eflags := regs.eflags &&& ~~~flagVm
        cs := r.cs
        ss := r.ss
        ds := r.ds
        es := r.es
        fs := r.fs
        gs := r.gs }, mem⟩ }
  | .tables gdt ldt idt tr mem => .ok { env.setMem mem with gdt, ldt, idt, tr }

/-- A step that raises an exception has changed nothing, and the run goes on. With a task
switch, virtual 8086 mode or an abort it ends. -/
def next (env : SegState) (step : SegStep) : Except Stop SegState :=
  match step.apply env with
  | .error (.exception _ _) => .ok env
  | ended => ended

end SegStep

def runSegSteps (env : SegState) : List SegStep → Except Stop SegState
  | [] => .ok env
  | step :: steps => do
      let env ← step.next env
      runSegSteps env steps

theorem Levels.ltr {env env' : SegState} (h : Levels env) {selector : Nat}
    (hok : env.helperLtr selector = .ok env') : Levels env' ∧ env'.cpl = env.cpl := by
  rw [helperLtr] at hok
  split_ifs at hok
  · cases hok
    exact ⟨⟨h.cpl_le, h.cs, h.ss, h.code, h.stack, h.vm, h.data, h.null⟩, rfl⟩
  · simp only [raiseIf_bind] at hok
    obtain ⟨-, -, -, -, hpure⟩ := hok
    cases hpure
    exact ⟨⟨h.cpl_le, h.cs, h.ss, h.code, h.stack, h.vm, h.data, h.null⟩, rfl⟩

theorem Levels.setTables {env : SegState} (h : Levels env) (gdt ldt idt tr : SegmentCache)
    (mem : Memory32) : Levels { env.setMem mem with gdt, ldt, idt, tr } :=
  ⟨h.cpl_le, h.cs, h.ss, h.code, h.stack, h.vm, h.data, h.null⟩

/-- One step keeps the levels in agreement; the processor's own gets more privileged by an
interrupt only. -/
theorem Levels.apply {env env' : SegState} (h : Levels env) {step : SegStep} (hlegal : step.Legal)
    (hok : step.apply env = .ok env') :
    Levels env' ∧ (¬ step.IsInterrupt → env.cpl ≤ env'.cpl) := by
  cases step with
  | loadSeg seg selector =>
      obtain ⟨hlevels, hcpl⟩ := h.loadSeg hlegal hok
      exact ⟨hlevels, fun _ => hcpl.ge⟩
  | interrupt intno isInt errorCode nextEip isHw =>
      exact ⟨(h.interrupt hok).1, fun hno => absurd trivial hno⟩
  | iret shift =>
      simp only [SegStep.apply, helperIretProtected] at hok
      split_ifs at hok
      obtain ⟨hlevels, hcpl⟩ := h.ret hok
      exact ⟨hlevels, fun _ => hcpl⟩
  | lret shift addend =>
      obtain ⟨hlevels, hcpl⟩ := h.ret hok
      exact ⟨hlevels, fun _ => hcpl⟩
  | ltr selector =>
      obtain ⟨hlevels, hcpl⟩ := h.ltr hok
      exact ⟨hlevels, fun _ => hcpl.ge⟩
  | compute mem regs =>
      cases hok
      have hvm : regs.eflags &&& ~~~flagVm &&& flagVm = 0 := by
        have hmask : ~~~flagVm &&& flagVm = 0 := by decide
        rw [UInt32.and_assoc, hmask, UInt32.and_zero]
      refine ⟨⟨h.cpl_le, h.cs, h.ss, h.code, h.stack, hvm, h.data, ?_⟩, fun _ => le_refl _⟩
      intro seg hseg hnull
      refine h.null seg hseg ?_
      rw [← hnull]
      cases seg <;> rfl
  | tables gdt ldt idt tr mem =>
      cases hok
      exact ⟨h.setTables gdt ldt idt tr mem, fun _ => le_refl _⟩

theorem Levels.next {env env' : SegState} (h : Levels env) {step : SegStep}
    (hlegal : step.Legal) (hok : step.next env = .ok env') :
    Levels env' ∧ (¬ step.IsInterrupt → env.cpl ≤ env'.cpl) := by
  rw [SegStep.next] at hok
  cases hstep : step.apply env with
  | ok env₁ =>
      rw [hstep] at hok
      cases hok
      exact h.apply hlegal hstep
  | error stop =>
      rw [hstep] at hok
      cases stop with
      | exception _ _ =>
          cases hok
          exact ⟨h, fun _ => le_refl _⟩
      | abort => cases hok
      | taskSwitch => cases hok
      | vm86 => cases hok

theorem Levels.run {env env' : SegState} (h : Levels env) {steps : List SegStep}
    (hlegal : ∀ s ∈ steps, s.Legal) (hok : runSegSteps env steps = .ok env') :
    Levels env' ∧ ((∀ s ∈ steps, ¬ s.IsInterrupt) → env.cpl ≤ env'.cpl) := by
  induction steps generalizing env with
  | nil =>
      cases hok
      exact ⟨h, fun _ => le_refl _⟩
  | cons step steps ih =>
      rw [List.forall_mem_cons] at hlegal
      rw [runSegSteps, bind_ok] at hok
      obtain ⟨env₁, hstep, hrest⟩ := hok
      obtain ⟨hnext, hcpl⟩ := h.next hlegal.1 hstep
      obtain ⟨hrun, hraised⟩ := ih hnext hlegal.2 hrest
      refine ⟨hrun, fun hnone => ?_⟩
      rw [List.forall_mem_cons] at hnone
      exact (hcpl hnone.1).trans (hraised hnone.2)

/-- In any run, whatever the tables hold at each step, the code and the stack are of the
processor's level and no data register opens a more privileged segment. Only an interrupt
makes the level more privileged: no load and no return does. -/
theorem run_keeps_levels {env env' : SegState} (h : Levels env) {steps : List SegStep}
    (hlegal : ∀ s ∈ steps, s.Legal) (hok : runSegSteps env steps = .ok env') :
    privilege (env'.selector .cs) = env'.cpl ∧ privilege (env'.selector .ss) = env'.cpl ∧
      RunsAt (env'.segs .cs).flags env'.cpl ∧ dplOf (env'.segs .ss).flags = env'.cpl ∧
      (∀ seg, IsData seg → OpenTo (env'.segs seg).flags env'.cpl) ∧
      ((∀ s ∈ steps, ¬ s.IsInterrupt) → env.cpl ≤ env'.cpl) := by
  obtain ⟨hrun, hraised⟩ := h.run hlegal hok
  exact ⟨hrun.cs, hrun.ss, hrun.code, hrun.stack, hrun.data, hraised⟩

/-- User code on flat segments, with a GDT of zeros. -/
def flatUser : SegState where
  cpu := ⟨⟨0, 0, 0, 0, 0x7000, 0, 0, 0, 0x401000, 0x202, 0x1B, 0x23, 0x23, 0x23, 0x3B, 0x23⟩,
    fun _ => 0⟩
  cpl := 3
  segs seg := if seg = .cs then ⟨0, 0xffffffff, 0xCFFA00⟩ else ⟨0, 0xffffffff, 0xCFF200⟩
  gdt := ⟨0, 0x3FF, 0⟩
  ldt := ⟨0, 0, 0⟩
  idt := ⟨0, 0x7FF, 0⟩
  tr := ⟨0, 103, 0x8900⟩
  trSelector := 0x40

theorem levels_flatUser : Levels flatUser where
  cpl_le := le_refl 3
  cs := by decide
  ss := by decide
  code := by
    rw [RunsAt, if_neg (by decide)]
    decide
  stack := by decide
  vm := by decide
  data seg hseg := by
    cases seg with
    | cs => exact absurd rfl hseg.1
    | ss => exact absurd rfl hseg.2
    | es | ds | fs | gs => exact .inr (.inr (by decide))
  null seg hseg := by
    cases seg with
    | cs => exact absurd rfl hseg.1
    | ss => exact absurd rfl hseg.2
    | es | ds | fs | gs => exact fun hnull => absurd hnull (by decide)

/-- A GDT at 0x1000 with flat segments of the kernel and of user code, an IDT at 0x2000 whose
gate 3 is open to user code, and a TSS at 0x3000. -/
def trapMemory : Memory32 :=
  [(0x1008, 0x0000FFFF), (0x100C, 0x00CF9A00), (0x1010, 0x0000FFFF), (0x1014, 0x00CF9200),
    (0x1018, 0x0000FFFF), (0x101C, 0x00CFFA00), (0x1020, 0x0000FFFF), (0x1024, 0x00CFF200),
    (0x2018, 0x00082000), (0x201C, 0xC000EF00), (0x3004, 0x9000), (0x3008, 0x10)].foldl
    (fun m (w : UInt32 × UInt32) => store32 m w.1 w.2) fun _ => 0

def trapUser : SegState :=
  { flatUser.setMem trapMemory with
    gdt := ⟨0x1000, 0x3FF, 0⟩
    ldt := ⟨0, 0, 0⟩
    idt := ⟨0x2000, 0x7FF, 0⟩
    tr := ⟨0x3000, 103, 0x8900⟩ }

/-- A refused load of a kernel segment, and a trap with the return from it. -/
def trapSteps : List SegStep :=
  [.loadSeg .ds 0x10, .interrupt 3 true 0 0x401002 false, .iret 1]

theorem trapSteps_legal : ∀ s ∈ trapSteps, s.Legal := by
  simp [trapSteps, SegStep.Legal]

/-- Behind a second trap the kernel runs on its own segments. -/
theorem run_keeps_levels_trap :
    (∃ env, runSegSteps trapUser trapSteps = .ok env ∧ env.cpl = 3 ∧
      privilege (env.selector .cs) = 3 ∧ privilege (env.selector .ss) = 3 ∧
      ∀ seg, IsData seg → OpenTo (env.segs seg).flags 3) ∧
    ∃ env, runSegSteps trapUser (trapSteps ++ [.interrupt 3 true 0 0x401002 false]) = .ok env ∧
      env.cpl = 0 ∧ privilege (env.selector .cs) = 0 ∧ privilege (env.selector .ss) = 0 ∧
      ∀ seg, IsData seg → OpenTo (env.segs seg).flags 0 := by
  have hlevels : Levels trapUser := levels_flatUser.setTables _ _ _ _ _
  have hback : (runSegSteps trapUser trapSteps).map SegState.cpl = .ok 3 := by decide +kernel
  have htrap : (runSegSteps trapUser (trapSteps ++ [.interrupt 3 true 0 0x401002 false])).map
      SegState.cpl = .ok 0 := by decide +kernel
  have hlegal : ∀ s ∈ trapSteps ++ [SegStep.interrupt 3 true 0 0x401002 false], s.Legal := by
    simp [trapSteps, SegStep.Legal]
  constructor
  · cases hrun : runSegSteps trapUser trapSteps with
    | error stop =>
        rw [hrun] at hback
        cases hback
    | ok env =>
        rw [hrun] at hback
        have hcpl : env.cpl = 3 := Except.ok.inj hback
        obtain ⟨hcs, hss, -, -, hdata, -⟩ := run_keeps_levels hlevels trapSteps_legal hrun
        rw [hcpl] at hcs hss hdata
        exact ⟨env, rfl, hcpl, hcs, hss, hdata⟩
  · cases hrun : runSegSteps trapUser (trapSteps ++ [.interrupt 3 true 0 0x401002 false]) with
    | error stop =>
        rw [hrun] at htrap
        cases htrap
    | ok env =>
        rw [hrun] at htrap
        have hcpl : env.cpl = 0 := Except.ok.inj htrap
        obtain ⟨hcs, hss, -, -, hdata, -⟩ := run_keeps_levels hlevels hlegal hrun
        rw [hcpl] at hcs hss hdata
        exact ⟨env, rfl, hcpl, hcs, hss, hdata⟩

end ShellcodeVM.TargetI386
