import ShellcodeVM.GuestOS.TrapFrames
import ShellcodeVM.TargetI386.ExceptionDelivery
import ShellcodeVM.TargetI386.GuestGates

/-!
An exception on the tables of the guest: `do_interrupt_protected` delivers it as the processor
model of the trap stubs has it, and so the stubs find the frame that they are written for.
-/
namespace ShellcodeVM.TargetI386
open Machine GuestOS SegState

/-- A segment descriptor at a pointer, which may have been accessed since. -/
def HoldsSegment (m : Memory32) (ptr : UInt32) (w : Nat) : Prop :=
  (load32 m ptr).toNat = w % 2 ^ 32 ∧
    ((load32 m (ptr + 4)).toNat = w / 2 ^ 32 ∨ (load32 m (ptr + 4)).toNat = w / 2 ^ 32 ||| descAMask)

/-- The tables of the guest, as `GDT::Init`, `IDT::Init` and `TSS::active` leave them. -/
structure GuestTables (env : SegState) (idt : Idt) : Prop where
  idt : IdtLoaded env idt
  gdtLimit : env.gdt.limit = 8 * maxGdtNum - 1
  gdtSlot : ∀ i, 1 ≤ i → i ≤ gdtUserFs →
    HoldsSegment env.cpu.mem (env.gdt.base + UInt32.ofNat (i * 8)) (Gdt.zeroed.init.mGdt i)
  trPresent : env.tr.flags &&& descPMask ≠ 0
  trType : (env.tr.flags >>> descTypeShift) &&& 0xf = 9
  trLimit : env.tr.limit = 103
  esp0 : load32 env.cpu.mem (env.tr.base + 4) = UInt32.ofNat kernelStackTopVirtualAddr
  ss0 : load32 env.cpu.mem (env.tr.base + 8) = UInt32.ofNat selKernelData

/-- The stack in use is a flat one. -/
structure FlatStack (env : SegState) : Prop where
  base : (env.segs .ss).base = 0
  mask : getSpMask (env.segs .ss).flags = 0xffffffff

/-- The stack of ring 0, from the TSS. -/
def kernelStack : InnerStack where
  ss := UInt16.ofNat selKernelData
  esp := UInt32.ofNat kernelStackTopVirtualAddr

theorem load16_eq (m : Memory32) (a : UInt32) :
    (Machine.load16 m a).toNat = (load32 m a).toNat % 2 ^ 16 := by
  have h0 := (m a).toNat_lt
  have h1 := (m (a + 1)).toNat_lt
  have h2 := (m (a + 2)).toNat_lt
  have h3 := (m (a + 3)).toNat_lt
  rw [Machine.load16, load32, UInt16.toNat_ofNat', UInt32.toNat_ofNat']
  omega

section
variable {env : SegState} {idt : Idt} (h : GuestTables env idt)
include h

/-- A segment of the guest, by its selector without the level that is asked for. -/
theorem loadSegment_guest {i rpl : Nat} (hi : 1 ≤ i) (hle : i ≤ gdtUserFs) (hrpl : rpl ≤ 3) :
    ∃ e2, env.loadSegment (i * 8 + rpl) = some (Gdt.zeroed.init.mGdt i % 2 ^ 32, e2) ∧
      (e2 = Gdt.zeroed.init.mGdt i / 2 ^ 32 ∨
        e2 = Gdt.zeroed.init.mGdt i / 2 ^ 32 ||| descAMask) := by
  obtain ⟨hlow, hhigh⟩ := h.gdtSlot i hi hle
  have htable : ∀ i ≤ 6, ∀ rpl ≤ 3, (i * 8 + rpl) &&& 0x4 = 0 ∧ (i * 8 + rpl) &&& 0xfff8 = i * 8 := by
    decide
  obtain ⟨hgdt, hindex⟩ := htable i hle rpl hrpl
  have hlimit := h.gdtLimit
  have hwithin : ¬ i * 8 + 7 > env.gdt.limit := by
    simp only [maxGdtNum, gdtUserFs] at hlimit hle
    omega
  refine ⟨(load32 env.cpu.mem (env.gdt.base + UInt32.ofNat (i * 8) + 4)).toNat, ?_, hhigh⟩
  rw [loadSegment, hindex]
  simp only [hgdt, ne_eq, not_true, if_false, if_neg hwithin, descriptor, hlow]

theorem handlerSegment_guest : ∃ e1 e2, env.handlerSegment 8 = .ok (e1, e2) ∧ dplOf e2 = 0 ∧
    e2 &&& descCMask = 0 := by
  obtain ⟨e2, hload, hword⟩ := loadSegment_guest h (le_refl 1) (by decide) (Nat.zero_le 3)
  have hcode : ∀ e ∈ [Gdt.zeroed.init.mGdt 1 / 2 ^ 32,
      Gdt.zeroed.init.mGdt 1 / 2 ^ 32 ||| descAMask],
      ¬ (e &&& descSMask = 0 ∨ e &&& descCsMask = 0) ∧ ¬ e &&& descPMask = 0 ∧
        dplOf e = 0 ∧ e &&& descCMask = 0 := by decide
  obtain ⟨hkind, hpresent, hdpl, hconforming⟩ := hcode e2 (by simpa using hword)
  have hlevel : ¬ (e2 >>> descDplShift) &&& 3 > env.cpl := by
    change ¬ dplOf e2 > env.cpl
    omega
  have hload' : env.loadSegment 8 = some (Gdt.zeroed.init.mGdt 1 % 2 ^ 32, e2) := hload
  refine ⟨Gdt.zeroed.init.mGdt 1 % 2 ^ 32, e2, ?_, hdpl, hconforming⟩
  rw [handlerSegment, loadSegmentOr, hload']
  dsimp only [bind, Except.bind]
  simp only [raiseIf, if_neg hkind, if_neg hlevel, if_neg hpresent]
  rfl

theorem getSsEspFromTss_guest :
    env.getSsEspFromTss 0 = .ok (selKernelData, UInt32.ofNat kernelStackTopVirtualAddr) := by
  have hsum : env.tr.base + 4 + 4 = env.tr.base + 8 := by grind
  have hss : (Machine.load16 env.cpu.mem (env.tr.base + 4 + 4)).toNat = selKernelData := by
    rw [load16_eq, hsum, h.ss0]
    rfl
  have hlimit : ¬ (0 * 4 + 2) <<< (9 >>> 3) + (4 <<< (9 >>> 3)) - 1 > env.tr.limit := by
    rw [h.trLimit]
    decide
  have hindex : UInt32.ofNat ((0 * 4 + 2) <<< (9 >>> 3)) = 4 := by decide
  have hone : ¬ 9 &&& 7 ≠ 1 := by decide
  have hshift : ¬ 9 >>> 3 = 0 := by decide
  rw [getSsEspFromTss, h.trType]
  simp only [raiseIf, if_neg h.trPresent, if_neg hone, if_neg hlimit, if_neg hshift, hindex, hss,
    h.esp0]
  rfl

theorem handlerStack_outer {e2 : Nat} (hdpl : dplOf e2 = 0) (hconforming : e2 &&& descCMask = 0)
    (hcpl : 0 < env.cpl) :
    ∃ ssE1 ssE2, env.handlerStack 8 e2 = .ok ⟨true, 0, 0, 0xffffffff,
      UInt32.ofNat kernelStackTopVirtualAddr, selKernelData, ssE1, ssE2⟩ ∧
        getSpMask ssE2 = 0xffffffff := by
  obtain ⟨ssE2, hload, hword⟩ := loadSegment_guest h one_le_two (by decide) (Nat.zero_le 3)
  have hdata : ∀ e ∈ [Gdt.zeroed.init.mGdt 2 / 2 ^ 32,
      Gdt.zeroed.init.mGdt 2 / 2 ^ 32 ||| descAMask],
      ¬ (e >>> descDplShift) &&& 3 ≠ 0 ∧
      ¬ (e &&& descSMask = 0 ∨ e &&& descCsMask ≠ 0 ∨ e &&& descWMask = 0) ∧
      ¬ e &&& descPMask = 0 ∧ getSpMask e = 0xffffffff ∧
      getSegBase (Gdt.zeroed.init.mGdt 2 % 2 ^ 32) e = 0 := by decide
  obtain ⟨hssDpl, hkind, hpresent, hmask, hbase⟩ := hdata ssE2 (by simpa using hword)
  have hnull : ¬ selKernelData &&& 0xfffc = 0 := by decide
  have hrpl : ¬ selKernelData &&& 3 ≠ 0 := by decide
  have hlevel : (e2 >>> descDplShift) &&& 3 = 0 := hdpl
  have hload' : env.loadSegment selKernelData =
      some (Gdt.zeroed.init.mGdt 2 % 2 ^ 32, ssE2) := hload
  refine ⟨Gdt.zeroed.init.mGdt 2 % 2 ^ 32, ssE2, ?_, hmask⟩
  rw [handlerStack]
  simp only [hlevel]
  rw [if_pos ⟨hconforming, hcpl⟩, getSsEspFromTss_guest h]
  dsimp only [bind, Except.bind]
  simp only [raiseIf, loadSegmentOr, hload', if_neg hnull, if_neg hrpl, if_neg hssDpl, if_neg hkind,
    if_neg hpresent, hmask, hbase]
  rfl

end

theorem handlerStack_inner {env : SegState} {e2 : Nat} (hdpl : dplOf e2 = 0) (hcpl : env.cpl = 0)
    (hvm : env.cpu.regs.eflags &&& flagVm = 0) (hflat : FlatStack env) :
    env.handlerStack 8 e2 =
      .ok ⟨false, 0, 0, 0xffffffff, env.cpu.regs.esp, 0, 0, 0⟩ := by
  have hlevel : (e2 >>> descDplShift) &&& 3 = 0 := hdpl
  rw [handlerStack]
  simp only [hlevel, hcpl]
  rw [if_neg (fun hlt => absurd hlt.2 (lt_irrefl 0)), if_pos (.inr trivial)]
  simp only [raiseIf, if_neg (not_not_intro hvm), hflat.base, hflat.mask]
  rfl

/-! ### The frame -/

/-- The stack of a processor whose stack segment is flat. -/
def flatTop (s : Cpu) : StackTop where
  mem := s.mem
  ssp := 0
  spMask := 0xffffffff
  sp := s.regs.esp

theorem and_ones (x : UInt32) : x &&& 0xffffffff = x := by
  apply UInt32.toBitVec_inj.mp
  exact BitVec.and_allOnes

theorem push_flatTop (s : Cpu) (w : UInt32) : (flatTop s).push 1 w = flatTop (s.push w) := by
  simp only [StackTop.push, flatTop, Cpu.push, if_true, and_ones, UInt32.zero_add]

theorem pushes_flatTop (ws : List UInt32) (s : Cpu) :
    ws.foldl (fun t w => t.push 1 w) (flatTop s) = flatTop (ws.foldl Cpu.push s) := by
  induction ws generalizing s with
  | nil => rfl
  | cons w ws ih => rw [List.foldl_cons, List.foldl_cons, push_flatTop, ih]

theorem pushes_eq (ws : List UInt32) (s : Cpu) :
    ∃ esp mem, ws.foldl Cpu.push s = ⟨{ s.regs with esp := esp }, mem⟩ := by
  induction ws generalizing s with
  | nil => exact ⟨s.regs.esp, s.mem, rfl⟩
  | cons w ws ih =>
      obtain ⟨esp, mem, heq⟩ := ih (s.push w)
      exact ⟨esp, mem, heq⟩

/-- The stack that a handler starts with. -/
def enteredStack (inner : InnerStack) (handler : UInt16) (s : Cpu) : Cpu :=
  if ChangesPrivilege handler s.regs then
    ⟨{ s.regs with ss := inner.ss, esp := inner.esp }, s.mem⟩
  else s

/-- The words of a frame. -/
def savedWords (handler : UInt16) (errorCode : Option UInt32) (r : Registers) : List UInt32 :=
  (if ChangesPrivilege handler r then [r.ss.toUInt32, r.esp] else []) ++
    [r.eflags, r.cs.toUInt32, r.eip] ++ errorCode.toList

/-- A delivery is a run of pushes and a jump. -/
theorem deliver_eq_pushes {p : Processor} (hp : p.ZeroExtends) (inner : InnerStack)
    (handler : UInt16) (offset : UInt32) (errorCode : Option UInt32) (s : Cpu) :
    Cpu.deliver p inner handler offset errorCode s =
      let u := (savedWords handler errorCode s.regs).foldl Cpu.push (enteredStack inner handler s)
      ⟨{ u.regs with
        eip := offset
        cs := handler
        eflags := u.regs.eflags &&& ~~~(flagTf ||| flagNt ||| flagRf ||| flagVm) }, u.mem⟩ := by
  have hselector : ∀ (t : Cpu) (sel : UInt16), t.pushSelector p sel = t.push sel.toUInt32 := by
    intro t sel
    rw [Cpu.pushSelector, hp]
  cases errorCode with
  | none =>
      simp only [Cpu.deliver, Cpu.saveFrame, Cpu.switchStack, savedWords, enteredStack, hselector]
      split_ifs <;> rfl
  | some e =>
      simp only [Cpu.deliver, Cpu.saveFrame, Cpu.switchStack, savedWords, enteredStack, hselector]
      split_ifs <;> rfl

theorem enterHandler_cpu {env : SegState} (hvm : env.cpu.regs.eflags &&& flagVm = 0) (gate : Gate)
    (e1 e2 : Nat) (stack : HandlerStack) (words : List UInt32) :
    (env.enterHandler gate e1 e2 stack words).cpu =
      ⟨{ env.cpu.regs with
        ss := if stack.newStack then UInt16.ofNat ((stack.ss &&& 0xfffc) ||| stack.dpl)
          else env.cpu.regs.ss
        esp := (env.cpu.regs.esp &&& ~~~stack.spMask) |||
          ((env.pushFrame gate stack words).sp &&& stack.spMask)
        cs := UInt16.ofNat ((gate.selector &&& 0xfffc) ||| stack.dpl)
        eip := gate.offset
        eflags := (if gate.type &&& 1 = 0 then env.cpu.regs.eflags &&& ~~~flagIf
          else env.cpu.regs.eflags) &&& ~~~(flagTf ||| flagVm ||| flagRf ||| flagNt) },
        (env.pushFrame gate stack words).mem⟩ := by
  have hset : ∀ mem, (env.setMem mem).clearSegments = env.setMem mem :=
    fun _ => clearSegments_eq hvm
  rw [enterHandler]
  simp only [loadInnerStack, hset]
  cases stack.newStack <;> rfl

theorem flags_comm : flagTf ||| flagVm ||| flagRf ||| flagNt =
    flagTf ||| flagNt ||| flagRf ||| flagVm := by decide

theorem changesPrivilege_kernel {env : SegState} (h : Levels env) :
    ChangesPrivilege (UInt16.ofNat selKernelCode) env.cpu.regs ↔ 0 < env.cpl := by
  have hcs : privilege env.cpu.regs.cs = env.cpl := h.cs
  rw [ChangesPrivilege, privilege_selKernelCode, hcs]

/-- The frame that the emulator pushes is that of the processor model. -/
theorem frame_eq {env : SegState} (h : Levels env) (errorCode : Option UInt32) :
    env.frame (decide (0 < env.cpl)) env.cpu.regs.eip errorCode =
      savedWords (UInt16.ofNat selKernelCode) errorCode env.cpu.regs := by
  simp only [frame, savedWords, h.vm, changesPrivilege_kernel h, ne_eq, not_true, if_false,
    List.nil_append, decide_eq_true_eq]

theorem espOf_flat (old new : UInt32) :
    (old &&& ~~~0xffffffff) ||| (new &&& 0xffffffff) = new := by
  have hnone : ~~~(0xffffffff : UInt32) = 0 := by decide
  rw [hnone, UInt32.and_zero, and_ones, UInt32.zero_or]

/-- On either stack the handler is entered as the processor model has it. -/
theorem enterHandler_deliver {env : SegState} (h : Levels env) {p : Processor} (hp : p.ZeroExtends)
    (offset : UInt32) (e1 e2 ssE1 ssE2 : Nat) (errorCode : Option UInt32) {stack : HandlerStack}
    (hstack : stack = if 0 < env.cpl then
        ⟨true, 0, 0, 0xffffffff, UInt32.ofNat kernelStackTopVirtualAddr, selKernelData, ssE1, ssE2⟩
      else ⟨false, 0, 0, 0xffffffff, env.cpu.regs.esp, 0, 0, 0⟩) :
    (env.enterHandler ⟨15, 8, offset⟩ e1 e2 stack
        (env.frame stack.newStack env.cpu.regs.eip errorCode)).cpu =
      Cpu.deliver p kernelStack (UInt16.ofNat selKernelCode) offset errorCode env.cpu := by
  have hnew : stack.newStack = decide (0 < env.cpl) := by
    rw [hstack]
    split_ifs with hcpl <;> simp [hcpl]
  have htop : env.pushFrame ⟨15, 8, offset⟩ stack
      (savedWords (UInt16.ofNat selKernelCode) errorCode env.cpu.regs) =
        flatTop ((savedWords (UInt16.ofNat selKernelCode) errorCode env.cpu.regs).foldl Cpu.push
          (enteredStack kernelStack (UInt16.ofNat selKernelCode) env.cpu)) := by
    rw [← pushes_flatTop, pushFrame, enteredStack]
    simp only [changesPrivilege_kernel h]
    rw [hstack]
    split_ifs <;> rfl
  rw [hnew, frame_eq h, deliver_eq_pushes hp, enterHandler_cpu h.vm, htop]
  generalize savedWords (UInt16.ofNat selKernelCode) errorCode env.cpu.regs = words
  obtain ⟨esp, mem, hpushed⟩ := pushes_eq words
    (enteredStack kernelStack (UInt16.ofNat selKernelCode) env.cpu)
  have hentered := changesPrivilege_kernel h
  have htrap : ¬ 15 &&& 1 = 0 := by decide
  have hcs : UInt16.ofNat ((8 &&& 0xfffc) ||| 0) = UInt16.ofNat selKernelCode := by decide
  have hss : UInt16.ofNat ((selKernelData &&& 0xfffc) ||| 0) = kernelStack.ss := by decide
  rw [hpushed, flags_comm]
  by_cases hcpl : 0 < env.cpl
  · rw [if_pos hcpl] at hstack
    subst hstack
    simp only [enteredStack, if_pos (hentered.mpr hcpl), flatTop, espOf_flat, if_true, if_neg htrap,
      hcs, hss]
  · rw [if_neg hcpl] at hstack
    subst hstack
    simp only [enteredStack, if_neg (mt hentered.mp hcpl), flatTop, espOf_flat, Bool.false_eq_true,
      if_false, if_neg htrap, hcs]

/-! ### Delivery -/

theorem exeptionHasErrorCode_eq {v : Nat} (hv : v < trapEntries) :
    exeptionHasErrorCode v = pushesErrorCode v := by
  rw [trapEntries] at hv
  interval_cases v <;> rfl

/-- The IDT that the guest loads. -/
def guestIdt (irqDefaultEntry : UInt32) (address : Nat → UInt32) : Idt :=
  trapInit (Idt.zeroed.init irqDefaultEntry.toNat) address trapEntries

theorem guestIdt_slot (irqDefaultEntry : UInt32) (address : Nat → UInt32) {n v : Nat}
    (hv : v < n) :
    (trapInit (Idt.zeroed.init irqDefaultEntry.toNat) address n).mIdt v =
      (idtDesc idtTrapGate (address v).toNat).image := by
  induction n with
  | zero => exact absurd hv (Nat.not_lt_zero v)
  | succ n ih =>
      rw [trapInit, Idt.setTrapGate]
      by_cases heq : v = n
      · rw [heq, Idt.setIdtEntry_same]
      · rw [Idt.setIdtEntry_of_ne _ _ _ heq]
        exact ih (by omega)

theorem interruptGate_guest {env : SegState} {irqDefaultEntry : UInt32} {address : Nat → UInt32}
    (h : IdtLoaded env (guestIdt irqDefaultEntry address)) {v : Nat} (hv : v < trapEntries) :
    env.interruptGate v false = .ok ⟨15, 8, address v⟩ := by
  have hmax : v < maxIdtNum := lt_trans hv (by decide)
  rw [interruptGate_idtDesc h hmax (guestIdt_slot irqDefaultEntry address hv) (by decide)
    (by decide), if_neg (by decide), if_neg (by simp)]
  rfl

/-- The gate that the processor model goes through is the one that the emulator reads. -/
theorem interrupt_eq (p : Processor) (irqDefaultEntry : UInt32) (address : Nat → UInt32) {v : Nat}
    (hv : v < trapEntries) (errorCode : UInt32) (s : Cpu) :
    interrupt p kernelStack (Idt.zeroed.init irqDefaultEntry.toNat) address v errorCode s =
      Cpu.deliver p kernelStack (UInt16.ofNat selKernelCode) (address v)
        (if pushesErrorCode v then some errorCode else none) s := by
  have hoffset : UInt32.ofNat (address v).toNat = address v := UInt32.ofNat_toNat
  rw [interrupt, trapInit_slot _ address hv]
  simp only [askedIdtGate, hoffset]

theorem enteredFlat {env : SegState} (hvm : env.cpu.regs.eflags &&& flagVm = 0)
    (hflat : env.cpl = 0 → FlatStack env) {ssE1 ssE2 : Nat}
    (hmask : 0 < env.cpl → getSpMask ssE2 = 0xffffffff) {stack : HandlerStack}
    (hstack : stack = if 0 < env.cpl then
        ⟨true, 0, 0, 0xffffffff, UInt32.ofNat kernelStackTopVirtualAddr, selKernelData, ssE1, ssE2⟩
      else ⟨false, 0, 0, 0xffffffff, env.cpu.regs.esp, 0, 0, 0⟩)
    (gate : Gate) (e1 e2 : Nat) (words : List UInt32) :
    FlatStack (env.enterHandler gate e1 e2 stack words) := by
  have hsegs := enterHandler_segs hvm gate e1 e2 stack words .ss
  rw [if_neg (by decide)] at hsegs
  by_cases hcpl : 0 < env.cpl
  · rw [if_pos hcpl] at hstack
    subst hstack
    rw [if_pos ⟨rfl, rfl⟩] at hsegs
    exact ⟨congrArg SegmentCache.base hsegs,
      (congrArg (getSpMask ∘ SegmentCache.flags) hsegs).trans (hmask hcpl)⟩
  · have hold := hflat (by omega)
    rw [if_neg hcpl] at hstack
    subst hstack
    rw [if_neg (by simp)] at hsegs
    exact ⟨(congrArg SegmentCache.base hsegs).trans hold.base,
      (congrArg (getSpMask ∘ SegmentCache.flags) hsegs).trans hold.mask⟩

theorem exception_enters {env : SegState} {irqDefaultEntry : UInt32} {address : Nat → UInt32}
    (h : GuestTables env (guestIdt irqDefaultEntry address)) (hlevels : Levels env)
    (hflat : env.cpl = 0 → FlatStack env) {p : Processor} (hp : p.ZeroExtends) {v : Nat}
    (hv : v < trapEntries) (errorCode nextEip : UInt32) :
    ∃ env', env.doInterruptProtected v false errorCode nextEip false = .ok env' ∧
      env'.cpl = 0 ∧ FlatStack env' ∧
      env'.cpu = interrupt p kernelStack (Idt.zeroed.init irqDefaultEntry.toNat) address v errorCode
        env.cpu := by
  obtain ⟨e1, e2, hsegment, hdpl, hconforming⟩ := handlerSegment_guest h
  have hcode := exeptionHasErrorCode_eq hv
  obtain ⟨ssE1, ssE2, stack, hstack, hshape, hmask⟩ : ∃ ssE1 ssE2 stack,
      env.handlerStack 8 e2 = .ok stack ∧
      (stack = if 0 < env.cpl then
        ⟨true, 0, 0, 0xffffffff, UInt32.ofNat kernelStackTopVirtualAddr, selKernelData, ssE1, ssE2⟩
        else ⟨false, 0, 0, 0xffffffff, env.cpu.regs.esp, 0, 0, 0⟩) ∧
      (0 < env.cpl → getSpMask ssE2 = 0xffffffff) := by
    by_cases hcpl : 0 < env.cpl
    · obtain ⟨ssE1, ssE2, hstack, hmask⟩ := handlerStack_outer h hdpl hconforming hcpl
      exact ⟨ssE1, ssE2, _, hstack, (if_pos hcpl).symm, fun _ => hmask⟩
    · have hzero : env.cpl = 0 := by omega
      exact ⟨0, 0, _, handlerStack_inner hdpl hzero hlevels.vm (hflat hzero), (if_neg hcpl).symm,
        fun hpos => absurd hpos hcpl⟩
  have hrun : env.doInterruptProtected v false errorCode nextEip false =
      .ok (env.enterHandler ⟨15, 8, address v⟩ e1 e2 stack
        (env.frame stack.newStack env.cpu.regs.eip
          (if pushesErrorCode v then some errorCode else none))) := by
    rw [doInterruptProtected, interruptGate_guest h.idt hv]
    dsimp only [bind, Except.bind]
    rw [hsegment]
    dsimp only
    rw [hstack, hcode]
    rfl
  refine ⟨_, hrun, ?_, ?_, ?_⟩
  · rw [hshape]
    split_ifs <;> rfl
  · exact enteredFlat hlevels.vm hflat hmask hshape _ _ _ _
  · rw [interrupt_eq p irqDefaultEntry address hv]
    exact enterHandler_deliver hlevels hp (address v) e1 e2 ssE1 ssE2 _ hshape

/-! ### Reports -/

/-- The structure that `TRAP::dispatch` gets from the stub, when a delivery has entered that. -/
def trapContext (p : Processor) (v : Nat) (returnAddress : UInt32) (s : Cpu) : TrapContext :=
  dispatchContext ((run p (trapEntry v).save s).call returnAddress)

/-- The exception `v` of `env` was delivered in `env'`: the kernel's stub of `v` is entered, and
tells `TRAP::dispatch` where `env` was, and with what registers. -/
structure Reports (p : Processor) (address : Nat → UInt32) (v : Nat)
    (errorCode returnAddress : UInt32) (env env' : SegState) : Prop where
  eip : env'.cpu.regs.eip = address v
  cs : env'.cpu.regs.cs = UInt16.ofNat selKernelCode
  cpl : env'.cpl = 0
  levels : Levels env'
  saves : (trapContext p v returnAddress env'.cpu).Saves p v errorCode env.cpu.regs
  outer : 0 < env.cpl → (trapContext p v returnAddress env'.cpu).esp = env.cpu.regs.esp ∧
    p.HoldsSelector (trapContext p v returnAddress env'.cpu).ss env.cpu.regs.ss

theorem handled_lt {v : Nat} (hv : Handled v) : v < trapEntries := by
  rw [Handled] at hv
  rw [trapEntries]
  omega

section
variable {env : SegState} {irqDefaultEntry : UInt32} {address : Nat → UInt32}
  (h : GuestTables env (guestIdt irqDefaultEntry address)) (hlevels : Levels env)
  (hflat : env.cpl = 0 → FlatStack env) {p : Processor} (hp : p.ZeroExtends) {v : Nat}
include h hlevels hflat hp

theorem exception_reports (hv : Handled v) (errorCode nextEip returnAddress : UInt32) :
    ∃ env', env.doInterruptProtected v false errorCode nextEip false = .ok env' ∧
      Reports p address v errorCode returnAddress env env' := by
  obtain ⟨env', hrun, hcpl, -, hcpu⟩ :=
    exception_enters h hlevels hflat hp (handled_lt hv) errorCode nextEip
  obtain ⟨a, c, outer, hesp, -, hwords, hsaves, houter⟩ := dispatchEntry_spec
    (r := env.cpu.regs) (m := env.cpu.mem) p kernelStack (Idt.zeroed.init irqDefaultEntry.toNat)
    address hv errorCode returnAddress
  have hentry : (run p (trapEntry v).save env'.cpu).call returnAddress = dispatchEntry p kernelStack
      (Idt.zeroed.init irqDefaultEntry.toNat) address v errorCode returnAddress env.cpu := by
    rw [hcpu, dispatchEntry]
  generalize dispatchEntry p kernelStack (Idt.zeroed.init irqDefaultEntry.toNat) address v errorCode
    returnAddress env.cpu = entry at hentry hesp hwords houter
  have hcontext : a - 76 + 4 + 4 = a - 68 := by grind
  have hbase : a - 68 + 68 = a := by grind
  have hframe : Holds entry.mem (a - 68) (c.words ++ outer) := hcontext ▸ hwords.2.2
  have hargument : argument entry = a - 68 := by
    rw [argument, Cpu.word, hesp]
    exact hwords.2.1
  have hread := read_spec hframe hsaves (hbase.symm ▸ houter)
  have hargs : trapContext p v returnAddress env'.cpu = TrapContext.read entry.mem (a - 68) := by
    rw [trapContext, hentry, dispatchContext, hargument]
  rw [← hargs] at hread
  have hjump : env'.cpu.regs.eip = address v ∧ env'.cpu.regs.cs = UInt16.ofNat selKernelCode := by
    rw [hcpu, interrupt_eq p irqDefaultEntry address (handled_lt hv), deliver_eq_pushes hp]
    exact ⟨rfl, rfl⟩
  refine ⟨env', hrun, hjump.1, hjump.2, hcpl, (hlevels.interrupt hrun).1, hread.1,
    fun hcpl => ?_⟩
  exact hread.2 ((changesPrivilege_kernel hlevels).mpr hcpl)

end

/-- The gates of `TRAP::Init` as calls of the setter. -/
theorem guestIdt_eq (irqDefaultEntry : UInt32) (address : Nat → UInt32) :
    guestIdt irqDefaultEntry address =
      runGateCalls irqDefaultEntry ((List.range trapEntries).map fun v => .trapGate v (address v)) := by
  have hinit : ∀ n, trapInit (Idt.zeroed.init irqDefaultEntry.toNat) address n =
      runGateCalls irqDefaultEntry ((List.range n).map fun v => .trapGate v (address v)) := by
    intro n
    induction n with
    | zero => rfl
    | succ n ih =>
        rw [trapInit, ih, List.range_succ, List.map_append, runGateCalls, runGateCalls,
          List.foldl_append]
        rfl
  exact hinit trapEntries

/-! ### A guest in memory -/

/-- A table laid over other memory. -/
def overlay (base : UInt32) (size : Nat) (m m' : Memory32) : Memory32 := fun a =>
  if (a - base).toNat < size then m a else m' a

section
variable {base a : UInt32} {size : Nat} (m m' : Memory32)

theorem toNat_add_sub {k : UInt32} (h : (a - base).toNat + k.toNat < 2 ^ 32) :
    (a + k - base).toNat = (a - base).toNat + k.toNat := by
  have heq : a + k - base = (a - base) + k := by grind
  rw [heq, UInt32.toNat_add, Nat.mod_eq_of_lt h]

theorem load32_overlay_inside (h : (a - base).toNat + 4 ≤ size) (hsize : size ≤ 2 ^ 32) :
    load32 (overlay base size m m') a = load32 m a := by
  apply load32_congr
  intro k hk
  rw [overlay, if_pos]
  rw [toNat_add_sub (by omega)]
  omega

theorem load32_overlay_outside (h : size ≤ (a - base).toNat)
    (hend : (a - base).toNat + 4 ≤ 2 ^ 32) :
    load32 (overlay base size m m') a = load32 m' a := by
  apply load32_congr
  intro k hk
  rw [overlay, if_neg]
  rw [toNat_add_sub (by omega)]
  omega

end

/-- The words of the TSS that hold the stack of ring 0. -/
def ring0Slots (i : Nat) : Nat :=
  if i = 0 then kernelStackTopVirtualAddr * 2 ^ 32 else if i = 1 then selKernelData else 0

/-- The three tables, at addresses of the kernel. -/
def guestMemory (idt : Idt) : Memory32 :=
  overlay 0xC0200000 2048 (tableMemory 0xC0200000 idt.mIdt)
    (overlay 0xC0100000 1024 (tableMemory 0xC0100000 Gdt.zeroed.init.mGdt)
      (tableMemory 0xC0300000 ring0Slots))

/-- User code of the guest. -/
def guestUser (idt : Idt) : SegState :=
  { flatUser.setMem (guestMemory idt) with
    gdt := ⟨0xC0100000, 8 * maxGdtNum - 1, 0⟩
    idt := ⟨0xC0200000, 8 * maxIdtNum - 1, 0⟩
    tr := ⟨0xC0300000, 103, 0x8900⟩ }

theorem idtOverlay_holds (idt : Idt) (m : Memory32) {v : Nat} (hv : v < maxIdtNum)
    (hslot : idt.mIdt v < 2 ^ 64) :
    HoldsGate (overlay 0xC0200000 2048 (tableMemory 0xC0200000 idt.mIdt) m)
      (0xC0200000 + UInt32.ofNat (v * 8)) (idt.mIdt v) := by
  rw [maxIdtNum] at hv
  have hpast : (UInt32.ofNat (v * 8)).toNat = v * 8 := by
    rw [UInt32.toNat_ofNat']
    omega
  have hlow : (0xC0200000 + UInt32.ofNat (v * 8) - 0xC0200000).toNat = v * 8 := by
    rw [add_sub_self_left, hpast]
  have hhigh : (0xC0200000 + UInt32.ofNat (v * 8) + 4 - 0xC0200000).toNat = v * 8 + 4 := by
    rw [toNat_add_sub (by rw [hlow]; change v * 8 + 4 < 2 ^ 32; omega), hlow]
    rfl
  have hheld := holdsGate_tableMemory 0xC0200000 idt.mIdt (by omega) hslot
  rw [HoldsGate, load32_overlay_inside _ _ (by omega) (by norm_num),
    load32_overlay_inside _ _ (by omega) (by norm_num)]
  exact hheld

theorem gdtOverlay_holds (m m' : Memory32) (slots : Nat → Nat) {i : Nat} (hle : i ≤ 7)
    (hslot : slots i < 2 ^ 64) :
    HoldsGate (overlay 0xC0200000 2048 m
        (overlay 0xC0100000 1024 (tableMemory 0xC0100000 slots) m'))
      (0xC0100000 + UInt32.ofNat (i * 8)) (slots i) := by
  have haddr : ∀ i ≤ 7,
      2048 ≤ (0xC0100000 + UInt32.ofNat (i * 8) - 0xC0200000).toNat ∧
      (0xC0100000 + UInt32.ofNat (i * 8) - 0xC0200000).toNat + 8 ≤ 2 ^ 32 ∧
      2048 ≤ (0xC0100000 + UInt32.ofNat (i * 8) + 4 - 0xC0200000).toNat ∧
      (0xC0100000 + UInt32.ofNat (i * 8) + 4 - 0xC0200000).toNat + 4 ≤ 2 ^ 32 ∧
      (0xC0100000 + UInt32.ofNat (i * 8) - 0xC0100000).toNat + 4 ≤ 1024 ∧
      (0xC0100000 + UInt32.ofNat (i * 8) + 4 - 0xC0100000).toNat + 4 ≤ 1024 := by decide
  obtain ⟨h1, h2, h3, h4, h5, h6⟩ := haddr i hle
  have hheld := holdsGate_tableMemory 0xC0100000 slots (by omega) hslot
  rw [HoldsGate, load32_overlay_outside _ _ h1 (by omega), load32_overlay_outside _ _ h3 h4,
    load32_overlay_inside _ _ h5 (by norm_num), load32_overlay_inside _ _ h6 (by norm_num)]
  exact hheld

theorem init_slot_lt : ∀ i ≤ 6, Gdt.zeroed.init.mGdt i < 2 ^ 64 := by decide

theorem guestMemory_gdt (idt : Idt) {i : Nat} (hle : i ≤ gdtUserFs) :
    HoldsSegment (guestMemory idt) (0xC0100000 + UInt32.ofNat (i * 8)) (Gdt.zeroed.init.mGdt i) := by
  have hseven : i ≤ 7 := by
    rw [gdtUserFs] at hle
    omega
  obtain ⟨hlow, hhigh⟩ := gdtOverlay_holds (tableMemory 0xC0200000 idt.mIdt)
    (tableMemory 0xC0300000 ring0Slots) Gdt.zeroed.init.mGdt hseven (init_slot_lt i hle)
  exact ⟨hlow, .inl hhigh⟩

theorem guestMemory_tss (idt : Idt) {k : UInt32} (hk : k = 4 ∨ k = 8) :
    load32 (guestMemory idt) (0xC0300000 + k) =
      load32 (tableMemory 0xC0300000 ring0Slots) (0xC0300000 + k) := by
  have haddr : 2048 ≤ (0xC0300000 + k - 0xC0200000).toNat ∧
      (0xC0300000 + k - 0xC0200000).toNat + 4 ≤ 2 ^ 32 ∧
      1024 ≤ (0xC0300000 + k - 0xC0100000).toNat ∧
      (0xC0300000 + k - 0xC0100000).toNat + 4 ≤ 2 ^ 32 := by
    obtain rfl | rfl := hk <;> refine ⟨?_, ?_, ?_, ?_⟩ <;> decide
  obtain ⟨h1, h2, h3, h4⟩ := haddr
  rw [guestMemory, load32_overlay_outside _ _ h1 h2, load32_overlay_outside _ _ h3 h4]

theorem guestTables_guestUser (irqDefaultEntry : UInt32) (address : Nat → UInt32) :
    GuestTables (guestUser (guestIdt irqDefaultEntry address)) (guestIdt irqDefaultEntry address) := by
  have htr : 0x8900 &&& descPMask ≠ 0 ∧ (0x8900 >>> descTypeShift) &&& 0xf = 9 := by decide
  refine ⟨⟨rfl, fun v hv => ?_⟩, rfl, fun i _ hle => guestMemory_gdt _ hle, htr.1, htr.2, rfl,
    ?_, ?_⟩
  · refine idtOverlay_holds _ _ hv ?_
    rw [guestIdt_eq]
    exact runGateCalls_slot_lt irqDefaultEntry _ hv
  · refine (guestMemory_tss _ (.inl rfl)).trans ?_
    decide
  · refine (guestMemory_tss _ (.inr rfl)).trans ?_
    decide

theorem levels_guestUser (idt : Idt) : Levels (guestUser idt) :=
  have h := levels_flatUser
  ⟨h.cpl_le, h.cs, h.ss, h.code, h.stack, h.vm, h.data, h.null⟩

theorem zeroExtends_zeroExtending : zeroExtending.ZeroExtends := fun _ _ => rfl

/-! ### The handlers -/

/-- Whatever exception an instruction of the guest raises, in user mode or in the kernel, the
emulator delivers it at once, and the stub of the vector hands `TRAP::dispatch` the interrupted
context. -/
theorem exception_reaches_handler {env : SegState} {irqDefaultEntry : UInt32}
    {address : Nat → UInt32} (h : GuestTables env (guestIdt irqDefaultEntry address))
    (hlevels : Levels env) (hflat : env.cpl = 0 → FlatStack env) {p : Processor}
    (hp : p.ZeroExtends) {v : Nat} (hv : Handled v) (errorCode returnAddress : UInt32) :
    ∃ env', env.raise mapped 4 v false errorCode 0 = some (.entered env') ∧
      Reports p address v errorCode returnAddress env env' := by
  obtain ⟨oldException, hcheck, -⟩ := checkException_first v errorCode
  obtain ⟨env', hrun, hreports⟩ := exception_reports h hlevels hflat hp hv errorCode
    (env.cpu.regs.eip + 0) returnAddress
  refine ⟨env', ?_, hreports⟩
  simp only [raise, raiseInterrupt, hcheck, Bool.false_eq_true, if_false, Option.map_some, deliver,
    attempt, mapped, hrun]

/-- The IDT for witnesses: a stub every 16 bytes. -/
def spacedIdt : Idt := guestIdt 0xC0001000 fun v => UInt32.ofNat (0xC0002000 + 16 * v)

theorem exception_reaches_handler_pageFault :
    ∃ env', (guestUser spacedIdt).raise mapped 4 14 false 6 0 = some (.entered env') ∧
      env'.cpu.regs.eip = 0xC00020E0 ∧
      (trapContext zeroExtending 14 0xC0001234 env'.cpu).eip = 0x401000 ∧
      (trapContext zeroExtending 14 0xC0001234 env'.cpu).errCode = 6 := by
  have htables := guestTables_guestUser 0xC0001000 fun v => UInt32.ofNat (0xC0002000 + 16 * v)
  have hflat : (guestUser spacedIdt).cpl = 0 → FlatStack (guestUser spacedIdt) :=
    fun hzero => absurd hzero (by change ¬ 3 = 0; decide)
  obtain ⟨env', hrun, hreports⟩ := exception_reaches_handler htables (levels_guestUser _) hflat
    zeroExtends_zeroExtending (v := 14) (by decide) 6 0xC0001234
  exact ⟨env', hrun, hreports.eip, hreports.saves.eip, hreports.saves.errCode⟩

/-- No `INT` of user code passes the gate of its vector: whichever it names, the stub of the
protection fault is entered, and reports the place of the `INT` and the vector. -/
theorem int_reported_as_protection_fault {env : SegState} {irqDefaultEntry : UInt32}
    {address : Nat → UInt32} (h : GuestTables env (guestIdt irqDefaultEntry address))
    (hlevels : Levels env) (huser : 0 < env.cpl) {p : Processor} (hp : p.ZeroExtends) {v : Nat}
    (hv : v < maxIdtNum) (nextEipAddend returnAddress : UInt32) :
    ∃ env', env.raise mapped 4 v true 0 nextEipAddend = some (.entered env') ∧
      Reports p address excp0dGpf (UInt32.ofNat (v * 8 + 2)) returnAddress env env' := by
  have hidt : IdtLoaded env (runGateCalls irqDefaultEntry
      ((List.range trapEntries).map fun v => .trapGate v (address v))) :=
    guestIdt_eq irqDefaultEntry address ▸ h.idt
  have hrefused := interrupt_refused hidt hv (.inl ⟨rfl, huser⟩) 0
    (env.cpu.regs.eip + nextEipAddend) false
  obtain ⟨oldException, hcheck, -⟩ := checkException_first excp0dGpf (UInt32.ofNat (v * 8 + 2))
  have hhandled : Handled excp0dGpf := by decide
  obtain ⟨env', hrun, hreports⟩ := exception_reports h hlevels (fun hzero => by omega) hp hhandled
    (UInt32.ofNat (v * 8 + 2)) (env.cpu.regs.eip + 0) returnAddress
  refine ⟨env', ?_, hreports⟩
  simp only [raise, raiseInterrupt, if_true, deliver, attempt, mapped, hrefused, hcheck,
    Bool.false_eq_true, if_false, Option.map_some, hrun]

theorem int_reported_as_protection_fault_syscall :
    ∃ env', (guestUser spacedIdt).raise mapped 4 0x80 true 0 2 = some (.entered env') ∧
      env'.cpu.regs.eip = 0xC00020D0 ∧
      (trapContext zeroExtending 13 0xC0001234 env'.cpu).irqNo = 13 ∧
      (trapContext zeroExtending 13 0xC0001234 env'.cpu).errCode = 0x402 := by
  have htables := guestTables_guestUser 0xC0001000 fun v => UInt32.ofNat (0xC0002000 + 16 * v)
  have huser : 0 < (guestUser spacedIdt).cpl := by
    change 0 < 3
    decide
  obtain ⟨env', hrun, hreports⟩ := int_reported_as_protection_fault htables (levels_guestUser _)
    huser zeroExtends_zeroExtending (v := 0x80) (by decide) 2 0xC0001234
  exact ⟨env', hrun, hreports.eip, hreports.saves.irqNo, hreports.saves.errCode⟩

end ShellcodeVM.TargetI386
