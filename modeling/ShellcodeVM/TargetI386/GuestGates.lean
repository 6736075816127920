import ShellcodeVM.GuestOS.Trap
import ShellcodeVM.GuestOS.Tss
import ShellcodeVM.TargetI386.SegLevels

/-!
The gates that `IDT` and `TRAP` write, as `do_interrupt_protected` reads them. No gate of
theirs has another DPL than 0, and two of the four kinds are no gates of an IDT at all.
-/
namespace ShellcodeVM.TargetI386
open Machine GuestOS SegState

/-! ### The two words of a gate -/

section
variable {low high attr : Nat}

theorem gateWord_type :
    ((attr * 2 ^ 8 + high * 2 ^ 16) >>> descTypeShift) &&& 0x1f = attr % 32 := by
  have hmask := and_mask ((attr * 2 ^ 8 + high * 2 ^ 16) >>> descTypeShift) 5
  rw [shiftRight_eq_div, descTypeShift] at hmask ⊢
  norm_num at hmask ⊢
  omega

theorem gateWord_dpl : dplOf (attr * 2 ^ 8 + high * 2 ^ 16) = attr / 32 % 4 := by
  have hmask := and_mask ((attr * 2 ^ 8 + high * 2 ^ 16) >>> descDplShift) 2
  rw [shiftRight_eq_div, descDplShift] at hmask
  rw [dplOf, shiftRight_eq_div, descDplShift]
  norm_num at hmask ⊢
  omega

theorem gateWord_present :
    (attr * 2 ^ 8 + high * 2 ^ 16) &&& descPMask = 0 ↔ attr / 128 % 2 = 0 := by
  have hpow : descPMask = 2 ^ 15 := rfl
  have hbit : (attr * 2 ^ 8 + high * 2 ^ 16) / 2 ^ 15 % 2 = attr / 128 % 2 := by omega
  rw [hpow, and_eq_zero, Nat.testBit_eq_decide_div_mod_eq, hbit, decide_eq_false_iff_not]
  omega

theorem gateWord_offset (hlow : low < 2 ^ 16) (hhigh : high < 2 ^ 16) (hattr : attr < 2 ^ 8)
    (selector : Nat) :
    ((attr * 2 ^ 8 + high * 2 ^ 16) &&& 0xffff0000) ||| ((low + selector * 2 ^ 16) &&& 0x0000ffff) =
      low + high * 2 ^ 16 := by
  have hupper : (attr * 2 ^ 8 + high * 2 ^ 16) &&& 0xffff0000 = 2 ^ 16 * high := by
    have hmask : 0xffff0000 = (2 ^ 16 - 1) * 2 ^ 16 := by norm_num
    rw [hmask, and_shiftedMask]
    omega
  have hlower : (low + selector * 2 ^ 16) &&& 0x0000ffff = low := by
    have hmask : 0x0000ffff = 2 ^ 16 - 1 := by norm_num
    rw [hmask, and_mask]
    omega
  rw [hupper, hlower, ← Nat.two_pow_add_eq_or_of_lt hlow]
  omega

end

/-- The eight bytes at a pointer. -/
def HoldsGate (m : Memory32) (ptr : UInt32) (w : Nat) : Prop :=
  (load32 m ptr).toNat = w % 2 ^ 32 ∧ (load32 m (ptr + 4)).toNat = w / 2 ^ 32

/-- `lidt` of `IDT::Init`. -/
structure IdtLoaded (env : SegState) (idt : Idt) : Prop where
  limit : env.idt.limit = 8 * maxIdtNum - 1
  slot : ∀ v, v < maxIdtNum →
    HoldsGate env.cpu.mem (env.idt.base + UInt32.ofNat (v * 8)) (idt.mIdt v)

/-- The attribute byte of a gate. -/
def attrOf (descType : Int) : Nat := (descType % 2 ^ 8).toNat

theorem attrOf_lt (descType : Int) : attrOf descType < 2 ^ 8 := by
  rw [attrOf]
  omega

theorem idtDesc_words (descType : Int) (handler : UInt32) :
    (idtDesc descType handler.toNat).image =
      (handler.toNat % 2 ^ 16 + 8 * 2 ^ 16) +
        (attrOf descType * 2 ^ 8 + handler.toNat / 2 ^ 16 * 2 ^ 16) * 2 ^ 32 := by
  have hhandler := handler.toNat_lt
  have hsel : (UInt16.ofNat selKernelCode).toNat = 8 := rfl
  have hcount : (0 : UInt8).toNat = 0 := rfl
  simp only [GateDesc.image, idtDesc, low16_toNat, ofInt_toNat, shiftRight_eq_div, hsel, hcount,
    attrOf]
  omega

section
variable {env : SegState} {idt : Idt} {v : Nat} {descType : Int} {handler : UInt32}

theorem descriptor_idt (h : IdtLoaded env idt) (hv : v < maxIdtNum)
    (hslot : idt.mIdt v = (idtDesc descType handler.toNat).image) :
    env.descriptor env.idt (v * 8) =
      (handler.toNat % 2 ^ 16 + 8 * 2 ^ 16,
        attrOf descType * 2 ^ 8 + handler.toNat / 2 ^ 16 * 2 ^ 16) := by
  obtain ⟨hlow, hhigh⟩ := h.slot v hv
  have hhandler := handler.toNat_lt
  have hattr := attrOf_lt descType
  have hwords := idtDesc_words descType handler
  rw [hslot, hwords] at hlow hhigh
  have h1 : (load32 env.cpu.mem (env.idt.base + UInt32.ofNat (v * 8))).toNat =
      handler.toNat % 2 ^ 16 + 8 * 2 ^ 16 := by omega
  have h2 : (load32 env.cpu.mem (env.idt.base + UInt32.ofNat (v * 8) + 4)).toNat =
      attrOf descType * 2 ^ 8 + handler.toNat / 2 ^ 16 * 2 ^ 16 := by omega
  rw [descriptor, h1, h2]

theorem idt_within (h : IdtLoaded env idt) (hv : v < maxIdtNum) :
    ¬ v * 8 + 7 > env.idt.limit := by
  have hlimit := h.limit
  simp only [maxIdtNum] at hlimit hv
  omega

/-- What `do_interrupt_protected` makes of a gate of the guest. -/
theorem interruptGate_idtDesc (h : IdtLoaded env idt) (hv : v < maxIdtNum)
    (hslot : idt.mIdt v = (idtDesc descType handler.toNat).image)
    (htask : attrOf descType % 32 ≠ 5) (hpresent : attrOf descType / 128 % 2 = 1) (isInt : Bool) :
    env.interruptGate v isInt =
      if attrOf descType % 32 ≠ 6 ∧ attrOf descType % 32 ≠ 7 ∧ attrOf descType % 32 ≠ 14 ∧
          attrOf descType % 32 ≠ 15 then .error (.exception excp0dGpf (v * 8 + 2))
      else if isInt = true ∧ attrOf descType / 32 % 4 < env.cpl then
        .error (.exception excp0dGpf (v * 8 + 2))
      else .ok ⟨attrOf descType % 32, 8, handler⟩ := by
  have hhandler := handler.toNat_lt
  have hselector : (handler.toNat % 2 ^ 16 + 8 * 2 ^ 16) >>> 16 = 8 := by
    rw [shiftRight_eq_div]
    omega
  have hoffset : UInt32.ofNat (handler.toNat % 2 ^ 16 + handler.toNat / 2 ^ 16 * 2 ^ 16) =
      handler := by
    rw [Nat.mod_add_div', UInt32.ofNat_toNat]
  have hnotAbsent : ¬ (attrOf descType * 2 ^ 8 + handler.toNat / 2 ^ 16 * 2 ^ 16) &&& descPMask = 0 := by
    rw [gateWord_present]
    omega
  have hdpl : ((attrOf descType * 2 ^ 8 + handler.toNat / 2 ^ 16 * 2 ^ 16) >>> descDplShift) &&& 3 =
      attrOf descType / 32 % 4 := gateWord_dpl
  rw [interruptGate, descriptor_idt h hv hslot]
  dsimp only
  rw [gateWord_type, hdpl, hselector,
    gateWord_offset (Nat.mod_lt _ (by norm_num)) (by omega) (attrOf_lt _) 8, hoffset]
  have hnull : ¬ 8 &&& 0xfffc = 0 := by decide
  simp only [raiseIf, idt_within h hv, htask, hnotAbsent, hnull, false_and, if_false]
  split_ifs <;> rfl

end

/-! ### Runs of the setters -/

/-- A call of one of the four setters of `IDT`. -/
inductive GateCall where
  | tssGate (vector : Nat) (handler : UInt32)
  | callGate (vector : Nat) (handler : UInt32)
  | intrGate (vector : Nat) (handler : UInt32)
  | trapGate (vector : Nat) (handler : UInt32)

namespace GateCall

def vector : GateCall → Nat
  | .tssGate v _ | .callGate v _ | .intrGate v _ | .trapGate v _ => v

def handler : GateCall → UInt32
  | .tssGate _ a | .callGate _ a | .intrGate _ a | .trapGate _ a => a

def descType : GateCall → Int
  | .tssGate .. => idtTssGate
  | .callGate .. => idtCallGate
  | .intrGate .. => idtIntrGate
  | .trapGate .. => idtTrapGate

def perform (idt : Idt) : GateCall → Idt
  | .tssGate v a => idt.setTssGate v a.toNat
  | .callGate v a => idt.setCallGate v a.toNat
  | .intrGate v a => idt.setIntrGate v a.toNat
  | .trapGate v a => idt.setTrapGate v a.toNat

/-- The kinds that may stand in an IDT. -/
def Delivers (call : GateCall) : Prop :=
  call.descType = idtIntrGate ∨ call.descType = idtTrapGate

instance (call : GateCall) : Decidable call.Delivers := inferInstanceAs (Decidable (_ ∨ _))

theorem perform_eq (idt : Idt) (call : GateCall) :
    call.perform idt = idt.setIdtEntry call.vector call.descType call.handler.toNat := by
  cases call <;> rfl

theorem descType_mem (call : GateCall) :
    call.descType ∈ [idtTssGate, idtCallGate, idtIntrGate, idtTrapGate] := by
  cases call <;> simp [descType]

/-- The gate is present, of DPL 0, and no task gate. -/
theorem attrOf_descType (call : GateCall) :
    attrOf call.descType % 32 ≠ 5 ∧ attrOf call.descType / 128 % 2 = 1 ∧
      attrOf call.descType / 32 % 4 = 0 := by
  have hall : ∀ t ∈ [idtTssGate, idtCallGate, idtIntrGate, idtTrapGate],
      attrOf t % 32 ≠ 5 ∧ attrOf t / 128 % 2 = 1 ∧ attrOf t / 32 % 4 = 0 := by decide
  exact hall _ call.descType_mem

theorem delivers_iff (call : GateCall) :
    call.Delivers ↔ ¬ (attrOf call.descType % 32 ≠ 6 ∧ attrOf call.descType % 32 ≠ 7 ∧
      attrOf call.descType % 32 ≠ 14 ∧ attrOf call.descType % 32 ≠ 15) := by
  have hall : ∀ t ∈ [idtTssGate, idtCallGate, idtIntrGate, idtTrapGate],
      (t = idtIntrGate ∨ t = idtTrapGate) ↔ ¬ (attrOf t % 32 ≠ 6 ∧ attrOf t % 32 ≠ 7 ∧
        attrOf t % 32 ≠ 14 ∧ attrOf t % 32 ≠ 15) := by decide
  exact hall _ call.descType_mem

end GateCall

/-- `IDT::Init`, and then the calls. -/
def runGateCalls (irqDefaultEntry : UInt32) (calls : List GateCall) : Idt :=
  calls.foldl GateCall.perform (Idt.zeroed.init irqDefaultEntry.toNat)

/-- The call that a vector has its gate from; `Init` sets interrupt gates. -/
def gateOf (irqDefaultEntry : UInt32) (calls : List GateCall) (v : Nat) : GateCall :=
  (calls.reverse.find? fun call => call.vector = v).getD (.intrGate v irqDefaultEntry)

theorem runGateCalls_slot (irqDefaultEntry : UInt32) (calls : List GateCall) {v : Nat}
    (hv : v < maxIdtNum) :
    (runGateCalls irqDefaultEntry calls).mIdt v =
      (idtDesc (gateOf irqDefaultEntry calls v).descType
        (gateOf irqDefaultEntry calls v).handler.toNat).image := by
  induction calls using List.reverseRecOn with
  | nil => exact Idt.fillDefault_slot Idt.zeroed irqDefaultEntry.toNat hv
  | append_singleton calls call ih =>
      rw [runGateCalls, List.foldl_append, List.foldl_cons, List.foldl_nil, GateCall.perform_eq]
      simp only [gateOf, List.reverse_append, List.reverse_cons, List.reverse_nil, List.nil_append,
        List.cons_append, List.find?_cons]
      by_cases heq : call.vector = v
      · rw [heq, Idt.setIdtEntry_same]
        simp
      · rw [Idt.setIdtEntry_of_ne _ _ _ (Ne.symm heq)]
        simp only [heq, decide_false]
        exact ih

section
variable {env : SegState} {irqDefaultEntry : UInt32} {calls : List GateCall} {v : Nat}
  (h : IdtLoaded env (runGateCalls irqDefaultEntry calls)) (hv : v < maxIdtNum) {isInt : Bool}
include h hv

theorem interruptGate_calls (isInt : Bool) :
    env.interruptGate v isInt =
      if ¬ (gateOf irqDefaultEntry calls v).Delivers then
        .error (.exception excp0dGpf (v * 8 + 2))
      else if isInt = true ∧ 0 < env.cpl then .error (.exception excp0dGpf (v * 8 + 2))
      else .ok ⟨attrOf (gateOf irqDefaultEntry calls v).descType % 32, 8,
        (gateOf irqDefaultEntry calls v).handler⟩ := by
  obtain ⟨htask, hpresent, hdpl⟩ := (gateOf irqDefaultEntry calls v).attrOf_descType
  rw [interruptGate_idtDesc h hv (runGateCalls_slot irqDefaultEntry calls hv) htask hpresent isInt,
    hdpl]
  simp only [GateCall.delivers_iff, not_not]

theorem interrupt_refused
    (hrefused : isInt = true ∧ 0 < env.cpl ∨ ¬ (gateOf irqDefaultEntry calls v).Delivers)
    (errorCode nextEip : UInt32) (isHw : Bool) :
    env.doInterruptProtected v isInt errorCode nextEip isHw =
      .error (.exception excp0dGpf (v * 8 + 2)) := by
  rw [doInterruptProtected, interruptGate_calls h hv isInt]
  obtain hlevel | hkind := hrefused
  · split_ifs <;> rfl
  · rw [if_pos hkind]
    rfl

end

/-! ### A table in memory -/

/-- A table of descriptors laid out from a pointer on. -/
def tableMemory (base : UInt32) (slots : Nat → Nat) : Memory32 := fun a =>
  UInt8.ofNat (slots ((a - base).toNat / 8) / 2 ^ (8 * ((a - base).toNat % 8)))

theorem load32_tableMemory (base : UInt32) (slots : Nat → Nat) {v k : Nat} (hk : k = 0 ∨ k = 4)
    (hv : v * 8 + 8 ≤ 2 ^ 32) :
    (load32 (tableMemory base slots) (base + UInt32.ofNat (v * 8 + k))).toNat =
      slots v / 2 ^ (8 * k) % 2 ^ 32 := by
  have hbyte : ∀ j < 4, tableMemory base slots (base + UInt32.ofNat (v * 8 + k + j)) =
      UInt8.ofNat (slots v / 2 ^ (8 * (k + j))) := by
    intro j hj
    have hoffset : (UInt32.ofNat (v * 8 + k + j)).toNat = v * 8 + (k + j) := by
      rw [UInt32.toNat_ofNat']
      omega
    have hslot : (v * 8 + (k + j)) / 8 = v := by omega
    have hpart : (v * 8 + (k + j)) % 8 = k + j := by omega
    rw [tableMemory, add_sub_self_left, hoffset, hslot, hpart]
  have haddr : ∀ j < 4, base + UInt32.ofNat (v * 8 + k) + UInt32.ofNat j =
      base + UInt32.ofNat (v * 8 + k + j) := by
    intro j hj
    apply UInt32.toNat_inj.mp
    simp only [UInt32.toNat_add, UInt32.toNat_ofNat']
    omega
  have h0 := hbyte 0 (by norm_num)
  have h1 := haddr 1 (by norm_num)
  have h2 := haddr 2 (by norm_num)
  have h3 := haddr 3 (by norm_num)
  rw [Nat.add_zero, Nat.add_zero] at h0
  have hone : UInt32.ofNat 1 = 1 := rfl
  have htwo : UInt32.ofNat 2 = 2 := rfl
  have hthree : UInt32.ofNat 3 = 3 := rfl
  rw [hone] at h1
  rw [htwo] at h2
  rw [hthree] at h3
  rw [load32, h0, h1, h2, h3, hbyte 1 (by norm_num), hbyte 2 (by norm_num), hbyte 3 (by norm_num)]
  simp only [UInt8.toNat_ofNat', UInt32.toNat_ofNat', Nat.mul_add, Nat.pow_add,
    ← Nat.div_div_eq_div_mul]
  generalize slots v / 2 ^ (8 * k) = w
  omega

/-- A table that is laid out is one that can be loaded. -/
theorem holdsGate_tableMemory (base : UInt32) (slots : Nat → Nat) {v : Nat}
    (hv : v * 8 + 8 ≤ 2 ^ 32) (hslot : slots v < 2 ^ 64) :
    HoldsGate (tableMemory base slots) (base + UInt32.ofNat (v * 8)) (slots v) := by
  have hlow := load32_tableMemory base slots (k := 0) (.inl rfl) hv
  have hhigh := load32_tableMemory base slots (k := 4) (.inr rfl) hv
  have haddr : base + UInt32.ofNat (v * 8) + 4 = base + UInt32.ofNat (v * 8 + 4) := by
    apply UInt32.toNat_inj.mp
    simp only [UInt32.toNat_add, UInt32.toNat_ofNat', UInt32.toNat_ofNat]
    omega
  refine ⟨?_, ?_⟩
  · simpa using hlow
  · rw [haddr, hhigh]
    omega

theorem runGateCalls_slot_lt (irqDefaultEntry : UInt32) (calls : List GateCall) {v : Nat}
    (hv : v < maxIdtNum) : (runGateCalls irqDefaultEntry calls).mIdt v < 2 ^ 64 := by
  have hattr := attrOf_lt (gateOf irqDefaultEntry calls v).descType
  have hhandler := (gateOf irqDefaultEntry calls v).handler.toNat_lt
  rw [runGateCalls_slot irqDefaultEntry calls hv, idtDesc_words]
  omega

theorem idtLoaded_tableMemory {env : SegState} {irqDefaultEntry : UInt32} {calls : List GateCall}
    (hlimit : env.idt.limit = 8 * maxIdtNum - 1)
    (hmem : env.cpu.mem =
      tableMemory env.idt.base (runGateCalls irqDefaultEntry calls).mIdt) :
    IdtLoaded env (runGateCalls irqDefaultEntry calls) := by
  refine ⟨hlimit, fun v hv => ?_⟩
  rw [hmem]
  refine holdsGate_tableMemory _ _ ?_ (runGateCalls_slot_lt irqDefaultEntry calls hv)
  rw [maxIdtNum] at hv
  omega

/-! ### The gates decide -/

/-- Whichever gates the setters have set, user code cannot go through any of them with an
`INT`, and an exception goes through those only that were set as interrupt or trap gates;
every other attempt is a protection fault that names the gate. -/
theorem gate_calls_decide_interrupts {env : SegState} {irqDefaultEntry : UInt32}
    {calls : List GateCall} (h : IdtLoaded env (runGateCalls irqDefaultEntry calls)) {v : Nat}
    (hv : v < maxIdtNum) (errorCode nextEip : UInt32) (isInt isHw : Bool) :
    let call := gateOf irqDefaultEntry calls v
    let r := env.doInterruptProtected v isInt errorCode nextEip isHw
    ((isInt = true ∧ 0 < env.cpl ∨ ¬ call.Delivers) →
      r = .error (.exception excp0dGpf (v * 8 + 2))) ∧
    (¬ (isInt = true ∧ 0 < env.cpl) → call.Delivers →
      env.interruptGate v isInt = .ok ⟨attrOf call.descType % 32, 8, call.handler⟩) := by
  refine ⟨fun hrefused => interrupt_refused h hv hrefused errorCode nextEip isHw, ?_⟩
  intro hlevel hdelivers
  rw [interruptGate_calls h hv, if_neg (not_not_intro hdelivers), if_neg hlevel]

/-- A system call gate as a guest might want one, and a call gate. -/
def someGates : List GateCall := [.trapGate 0x80 0xC0002000, .callGate 0x81 0xC0003000]

/-- User code with an IDT at address 0. -/
def gatedUser (mem : Memory32) : SegState :=
  { flatUser.setMem mem with idt := ⟨0, 8 * maxIdtNum - 1, 0⟩ }

@[simp] theorem gatedUser_mem (mem : Memory32) : (gatedUser mem).cpu.mem = mem := rfl

@[simp] theorem gatedUser_base (mem : Memory32) : (gatedUser mem).idt.base = 0 := rfl

theorem gate_calls_decide_interrupts_syscall :
    (gatedUser (tableMemory 0 (runGateCalls 0xC0001000 someGates).mIdt)).doInterruptProtected 0x80
      true 0 0x401002 false = .error (.exception excp0dGpf 0x402) := by
  generalize hmem : tableMemory 0 (runGateCalls 0xC0001000 someGates).mIdt = mem
  have hloaded : IdtLoaded (gatedUser mem) (runGateCalls 0xC0001000 someGates) :=
    idtLoaded_tableMemory rfl (by rw [gatedUser_mem, gatedUser_base, hmem])
  have huser : 0 < (gatedUser mem).cpl := by
    change 0 < 3
    decide
  exact (gate_calls_decide_interrupts hloaded (by decide) 0 0x401002 true false).1
    (.inl ⟨rfl, huser⟩)

end ShellcodeVM.TargetI386
