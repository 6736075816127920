import ShellcodeVM.Lib.StackWords

/-!
The part of a 32-bit x86 processor that interrupt entry code uses: its registers, the
stack instructions, the delivery of an interrupt through a gate and `iretd`, in
protected mode on flat segments. Loading a selector is taken to succeed; virtual-8086
mode and task switches are left out.
-/
namespace Machine

structure Registers where
  eax : UInt32
  ecx : UInt32
  edx : UInt32
  ebx : UInt32
  esp : UInt32
  ebp : UInt32
  esi : UInt32
  edi : UInt32
  eip : UInt32
  eflags : UInt32
  cs : UInt16
  ss : UInt16
  ds : UInt16
  es : UInt16
  fs : UInt16
  gs : UInt16
deriving DecidableEq, Repr

structure Cpu where
  regs : Registers
  mem : Memory32

/-- What is left to the processor model: the upper half of the stack slot of a pushed
selector, which may keep its old contents, and the flags after an addition. -/
structure Processor where
  selectorWord : UInt16 → UInt32 → UInt32
  selectorWord_low : ∀ sel old, (selectorWord sel old).toUInt16 = sel
  addFlags : UInt32 → UInt32 → UInt32 → UInt32

/-- A processor that clears the upper half. -/
def Processor.ZeroExtends (p : Processor) : Prop :=
  ∀ sel old, p.selectorWord sel old = sel.toUInt32

/-- A stack slot that a selector was pushed to. -/
def Processor.HoldsSelector (p : Processor) (w : UInt32) (sel : UInt16) : Prop :=
  w.toUInt16 = sel ∧ (p.ZeroExtends → w = sel.toUInt32)

theorem Processor.selectorWord_holds (p : Processor) (sel : UInt16) (old : UInt32) :
    p.HoldsSelector (p.selectorWord sel old) sel :=
  ⟨p.selectorWord_low sel old, fun h => h sel old⟩

inductive DataSegment where
  | ds | es | fs | gs
deriving DecidableEq, Repr

def Registers.segment (r : Registers) : DataSegment → UInt16
  | .ds => r.ds
  | .es => r.es
  | .fs => r.fs
  | .gs => r.gs

def Registers.setSegment (r : Registers) (sel : UInt16) : DataSegment → Registers
  | .ds => { r with ds := sel }
  | .es => { r with es := sel }
  | .fs => { r with fs := sel }
  | .gs => { r with gs := sel }

/-- The privilege level that a code selector stands for once it is in `cs`. -/
def privilege (cs : UInt16) : Nat := cs.toNat % 4

def flagTf : UInt32 := 0x00000100
def flagIf : UInt32 := 0x00000200
def flagNt : UInt32 := 0x00004000
def flagRf : UInt32 := 0x00010000
def flagVm : UInt32 := 0x00020000

namespace Cpu

def push (s : Cpu) (w : UInt32) : Cpu where
  regs := { s.regs with esp := s.regs.esp - 4 }
  mem := store32 s.mem (s.regs.esp - 4) w

def pushSelector (p : Processor) (s : Cpu) (sel : UInt16) : Cpu :=
  s.push (p.selectorWord sel (load32 s.mem (s.regs.esp - 4)))

/-- The word on top of the stack. -/
def top (s : Cpu) : UInt32 := load32 s.mem s.regs.esp

/-- The word at a distance below the top, in bytes. -/
def word (s : Cpu) (offset : UInt32) : UInt32 := load32 s.mem (s.regs.esp + offset)

/-- The top word taken off. -/
def drop (s : Cpu) : Cpu where
  regs := { s.regs with esp := s.regs.esp + 4 }
  mem := s.mem

def pushad (s : Cpu) : Cpu :=
  let r := s.regs
  [r.eax, r.ecx, r.edx, r.ebx, r.esp, r.ebp, r.esi, r.edi].foldl push s

/-- The slot of `esp` is skipped. -/
def popad (s : Cpu) : Cpu where
  regs := { s.regs with
    edi := s.top
    esi := s.word 4
    ebp := s.word 8
    ebx := s.word 16
    edx := s.word 20
    ecx := s.word 24
    eax := s.word 28
    esp := s.regs.esp + 32 }
  mem := s.mem

/-- `iretd` goes to an outer level when the code selector on the stack is of one. -/
def ReturnsOutward (s : Cpu) : Prop := privilege s.regs.cs < privilege (s.word 4).toUInt16

instance (s : Cpu) : Decidable s.ReturnsOutward := inferInstanceAs (Decidable (_ < _))

/-- The return to an outer level also takes the stack pointer off the stack. -/
def iretd (s : Cpu) : Cpu where
  regs := { s.regs with
    eip := s.top
    cs := (s.word 4).toUInt16
    eflags := s.word 8
    esp := if s.ReturnsOutward then s.word 12 else s.regs.esp + 12
    ss := if s.ReturnsOutward then (s.word 16).toUInt16 else s.regs.ss }
  mem := s.mem

end Cpu

inductive Instr where
  | cli
  | sti
  | pushImm (v : UInt32)
  | pushEax
  | popEax
  | pushad
  | popad
  | pushSeg (r : DataSegment)
  | popSeg (r : DataSegment)
  | movEaxEsp
  | movAxSs
  | movSegAx (r : DataSegment)
  | addEsp (n : UInt32)
  | iretd
deriving DecidableEq, Repr

def exec (p : Processor) (s : Cpu) : Instr → Cpu
  | .cli => { s with regs := { s.regs with eflags := s.regs.eflags &&& ~~~flagIf } }
  | .sti => { s with regs := { s.regs with eflags := s.regs.eflags ||| flagIf } }
  | .pushImm v => s.push v
  | .pushEax => s.push s.regs.eax
  | .popEax => { s.drop with regs := { s.drop.regs with eax := s.top } }
  | .pushad => s.pushad
  | .popad => s.popad
  | .pushSeg r => s.pushSelector p (s.regs.segment r)
  | .popSeg r => { s.drop with regs := s.drop.regs.setSegment s.top.toUInt16 r }
  | .movEaxEsp => { s with regs := { s.regs with eax := s.regs.esp } }
  | .movAxSs =>
      { s with regs := { s.regs with
          eax := (s.regs.eax &&& 0xFFFF0000) ||| s.regs.ss.toUInt32 } }
  | .movSegAx r => { s with regs := s.regs.setSegment s.regs.eax.toUInt16 r }
  | .addEsp n =>
      { s with regs := { s.regs with
          esp := s.regs.esp + n
          eflags := p.addFlags s.regs.eflags s.regs.esp n } }
  | .iretd => s.iretd

def run (p : Processor) (code : List Instr) (s : Cpu) : Cpu := code.foldl (exec p) s

/-- `call`: the return address goes on the stack. -/
def Cpu.call (s : Cpu) (returnAddress : UInt32) : Cpu := s.push returnAddress

/-- The stack of an inner level, from the task state segment. -/
structure InnerStack where
  ss : UInt16
  esp : UInt32
deriving DecidableEq, Repr

/-- An interrupt changes the privilege level when its handler's is lower. -/
def ChangesPrivilege (handler : UInt16) (r : Registers) : Prop :=
  privilege handler < privilege r.cs

instance (handler : UInt16) (r : Registers) : Decidable (ChangesPrivilege handler r) :=
  inferInstanceAs (Decidable (_ < _))

/-- A change of level switches to the inner stack and saves the old stack pointer there. -/
def Cpu.switchStack (p : Processor) (inner : InnerStack) (handler : UInt16) (s : Cpu) : Cpu :=
  if ChangesPrivilege handler s.regs then
    let t : Cpu := { s with regs := { s.regs with ss := inner.ss, esp := inner.esp } }
    (t.pushSelector p s.regs.ss).push s.regs.esp
  else s

/-- What the processor saves. -/
def Cpu.saveFrame (p : Processor) (inner : InnerStack) (handler : UInt16) (s : Cpu) : Cpu :=
  (((s.switchStack p inner handler).push s.regs.eflags).pushSelector p s.regs.cs).push s.regs.eip

/-- The exceptions for which the processor pushes an error code. -/
def pushesErrorCode (v : Nat) : Bool := v = 8 ∨ 10 ≤ v ∧ v ≤ 14 ∨ v = 17

/-- The delivery of an exception through a trap gate, with its error code if it has one. -/
def Cpu.deliver (p : Processor) (inner : InnerStack) (handler : UInt16) (offset : UInt32)
    (errorCode : Option UInt32) (s : Cpu) : Cpu :=
  let s := s.saveFrame p inner handler
  let s :=
    match errorCode with
    | some e => s.push e
    | none => s
  { s with regs := { s.regs with
      eip := offset
      cs := handler
      eflags := s.regs.eflags &&& ~~~(flagTf ||| flagNt ||| flagRf ||| flagVm) } }

/-! The instructions on the words of the stack. A push leaves some memory that holds one
word more, so that no later step sees the memory itself. -/

section
variable {p : Processor} {r : Registers} {m : Memory32} {a w : UInt32} {ws : List UInt32}

theorem run_cons (i : Instr) (code : List Instr) (s : Cpu) :
    run p (i :: code) s = run p code (exec p s i) :=
  rfl

theorem run_step {i : Instr} {code : List Instr} {s s' t : Cpu} (h : exec p s i = s')
    (hrest : run p code s' = t) : run p (i :: code) s = t := by
  rw [run_cons, h, hrest]

theorem push_spec (w : UInt32) (h : Holds m a ws) (ha : r.esp = a)
    (hlen : 4 * (ws.length + 1) ≤ 2 ^ 32) :
    ∃ m', Cpu.push ⟨r, m⟩ w = ⟨{ r with esp := a - 4 }, m'⟩ ∧ Holds m' (a - 4) (w :: ws) := by
  subst ha
  exact ⟨_, rfl, h.push w hlen⟩

theorem pushSelector_spec (p : Processor) (sel : UInt16) (h : Holds m a ws) (ha : r.esp = a)
    (hlen : 4 * (ws.length + 1) ≤ 2 ^ 32) :
    ∃ m' w, Cpu.pushSelector p ⟨r, m⟩ sel = ⟨{ r with esp := a - 4 }, m'⟩ ∧
      Holds m' (a - 4) (w :: ws) ∧ p.HoldsSelector w sel := by
  subst ha
  exact ⟨_, _, rfl, h.push _ hlen, p.selectorWord_holds sel _⟩

/-- Where the outer stack pointer ends up: in front of the frame when the privilege level
changes; else the frame is on the interrupted stack itself. -/
def OuterStack (p : Processor) (handler : UInt16) (r : Registers) (ss : UInt16) (a : UInt32)
    (outer : List UInt32) : Prop :=
  (ChangesPrivilege handler r ∧ ∃ w, outer = [r.esp, w] ∧ p.HoldsSelector w r.ss) ∨
    (¬ ChangesPrivilege handler r ∧ outer = [] ∧ ss = r.ss ∧ a = r.esp)

theorem OuterStack.length_le {handler ss : UInt16} {outer : List UInt32}
    (h : OuterStack p handler r ss a outer) : outer.length ≤ 2 := by
  obtain ⟨-, w, rfl, -⟩ | ⟨-, rfl, -⟩ := h
  · exact le_refl 2
  · exact Nat.zero_le 2

theorem switchStack_spec (p : Processor) (inner : InnerStack) (handler : UInt16) :
    ∃ m' a ss outer,
      Cpu.switchStack p inner handler ⟨r, m⟩ = ⟨{ r with ss := ss, esp := a }, m'⟩ ∧
      Holds m' a outer ∧ OuterStack p handler r ss a outer := by
  by_cases hchanges : ChangesPrivilege handler r
  · have hnone : Holds m inner.esp [] := trivial
    obtain ⟨m1, w, e1, h1, hw⟩ := pushSelector_spec
      (r := { r with ss := inner.ss, esp := inner.esp }) p r.ss hnone rfl (by norm_num)
    obtain ⟨m2, e2, h2⟩ := push_spec (r := { r with ss := inner.ss, esp := inner.esp - 4 }) r.esp h1
      rfl (by norm_num)
    refine ⟨m2, inner.esp - 4 - 4, inner.ss, [r.esp, w], ?_, h2, .inl ⟨hchanges, w, rfl, hw⟩⟩
    rw [Cpu.switchStack, if_pos hchanges]
    exact (congrArg (Cpu.push · r.esp) e1).trans e2
  · refine ⟨m, r.esp, r.ss, [], ?_, trivial, .inr ⟨hchanges, rfl, rfl, rfl⟩⟩
    rw [Cpu.switchStack, if_neg hchanges]

theorem saveFrame_spec (p : Processor) (inner : InnerStack) (handler : UInt16) :
    ∃ m' a ss cs outer,
      Cpu.saveFrame p inner handler ⟨r, m⟩ = ⟨{ r with ss := ss, esp := a - 12 }, m'⟩ ∧
      Holds m' (a - 12) (r.eip :: cs :: r.eflags :: outer) ∧ p.HoldsSelector cs r.cs ∧
      OuterStack p handler r ss a outer := by
  obtain ⟨m1, a, ss, outer, e1, h1, houter⟩ := switchStack_spec (r := r) (m := m) p inner handler
  have hlen := houter.length_le
  have haddr : a - 4 - 4 - 4 = a - 12 := by grind
  obtain ⟨m2, e2, h2⟩ := push_spec (r := { r with ss := ss, esp := a }) r.eflags h1 rfl (by omega)
  obtain ⟨m3, cs, e3, h3, hcs⟩ := pushSelector_spec (r := { r with ss := ss, esp := a - 4 }) p r.cs
    h2 rfl (by simp only [List.length_cons]; omega)
  obtain ⟨m4, e4, h4⟩ := push_spec (r := { r with ss := ss, esp := a - 4 - 4 }) r.eip h3 rfl
    (by simp only [List.length_cons]; omega)
  rw [haddr] at e4 h4
  refine ⟨m4, a, ss, cs, outer, ?_, h4, hcs, houter⟩
  rw [Cpu.saveFrame, e1, e2]
  exact (congrArg (Cpu.push · r.eip) e3).trans e4

/-- Words pushed one after the other lie on the stack with the last one on top. -/
theorem pushes_spec (vs : List UInt32) (h : Holds m a ws) (ha : r.esp = a)
    (hlen : 4 * (ws.length + vs.length) ≤ 2 ^ 32) :
    ∃ m', vs.foldl Cpu.push ⟨r, m⟩ = ⟨{ r with esp := a - UInt32.ofNat (4 * vs.length) }, m'⟩ ∧
      Holds m' (a - UInt32.ofNat (4 * vs.length)) (vs.reverse ++ ws) := by
  induction vs generalizing r m a ws with
  | nil =>
      subst ha
      have hzero : r.esp - UInt32.ofNat (4 * ([] : List UInt32).length) = r.esp :=
        UInt32.sub_zero r.esp
      rw [hzero]
      exact ⟨m, rfl, h⟩
  | cons v vs ih =>
      rw [List.length_cons] at hlen
      obtain ⟨m1, e1, h1⟩ := push_spec v h ha (by omega)
      obtain ⟨m2, e2, h2⟩ := ih (r := { r with esp := a - 4 }) h1 rfl
        (by rw [List.length_cons]; omega)
      have haddr : a - 4 - UInt32.ofNat (4 * vs.length) =
          a - UInt32.ofNat (4 * (vs.length + 1)) := by
        apply UInt32.toNat_inj.mp
        simp only [UInt32.toNat_sub, UInt32.toNat_ofNat', UInt32.toNat_ofNat]
        omega
      rw [haddr] at e2 h2
      refine ⟨m2, ?_, ?_⟩
      · rw [List.foldl_cons, e1, e2]
        rfl
      · rw [List.reverse_cons, List.append_assoc]
        exact h2

theorem pushad_spec (h : Holds m a ws) (ha : r.esp = a) (hlen : 4 * (ws.length + 8) ≤ 2 ^ 32) :
    ∃ m', Cpu.pushad ⟨r, m⟩ = ⟨{ r with esp := a - 32 }, m'⟩ ∧
      Holds m' (a - 32) (r.edi :: r.esi :: r.ebp :: a :: r.ebx :: r.edx :: r.ecx :: r.eax :: ws) := by
  subst ha
  have hpushes := pushes_spec [r.eax, r.ecx, r.edx, r.ebx, r.esp, r.ebp, r.esi, r.edi] h rfl
  simp only [List.length_cons, List.length_nil, Nat.reduceAdd, Nat.reduceMul, UInt32.reduceOfNat,
    List.reverse_cons, List.reverse_nil, List.nil_append, List.cons_append] at hpushes
  exact hpushes hlen

theorem exec_popEax (h : Holds m a (w :: ws)) (ha : r.esp = a) :
    exec p ⟨r, m⟩ .popEax = ⟨{ r with eax := w, esp := a + 4 }, m⟩ := by
  rw [← h.1, ← ha]
  rfl

theorem exec_popSeg (seg : DataSegment) (h : Holds m a (w :: ws)) (ha : r.esp = a) :
    exec p ⟨r, m⟩ (.popSeg seg) = ⟨{ r.setSegment w.toUInt16 seg with esp := a + 4 }, m⟩ := by
  rw [← h.1, ← ha]
  cases seg <;> rfl

theorem exec_popad {edi esi ebp skipped ebx edx ecx eax : UInt32}
    (h : Holds m a (edi :: esi :: ebp :: skipped :: ebx :: edx :: ecx :: eax :: ws))
    (ha : r.esp = a) :
    exec p ⟨r, m⟩ .popad =
      ⟨{ r with
        edi := edi
        esi := esi
        ebp := ebp
        ebx := ebx
        edx := edx
        ecx := ecx
        eax := eax
        esp := a + 32 }, m⟩ := by
  simp only [Holds, UInt32.add_assoc, UInt32.reduceAdd] at h
  obtain ⟨hedi, hesi, hebp, -, hebx, hedx, hecx, heax, -⟩ := h
  rw [← hedi, ← hesi, ← hebp, ← hebx, ← hedx, ← hecx, ← heax, ← ha]
  rfl

theorem exec_addEsp (n : UInt32) (ha : r.esp = a) :
    exec p ⟨r, m⟩ (.addEsp n) =
      ⟨{ r with esp := a + n, eflags := p.addFlags r.eflags a n }, m⟩ := by
  rw [← ha]
  rfl

theorem exec_sti : exec p ⟨r, m⟩ .sti = ⟨{ r with eflags := r.eflags ||| flagIf }, m⟩ :=
  rfl

/-- What `iretd` makes of the three words it always takes. -/
theorem iretd_regs {eip cs eflags : UInt32} (h : Holds m a (eip :: cs :: eflags :: ws))
    (ha : r.esp = a) :
    (Cpu.iretd ⟨r, m⟩).regs =
      { r with
        eip := eip
        cs := cs.toUInt16
        eflags := eflags
        esp := if privilege r.cs < privilege cs.toUInt16 then load32 m (a + 12) else a + 12
        ss := if privilege r.cs < privilege cs.toUInt16 then (load32 m (a + 16)).toUInt16
          else r.ss } := by
  simp only [Holds, UInt32.add_assoc, UInt32.reduceAdd] at h
  obtain ⟨heip, hcs, heflags, -⟩ := h
  subst ha
  simp only [Cpu.iretd, Cpu.ReturnsOutward, Cpu.top, Cpu.word, heip, hcs, heflags]

theorem run_iretd (s : Cpu) : run p [.iretd] s = s.iretd :=
  rfl

/-- `mov ax, ss` and the moves of `ax` that follow it. -/
theorem toUInt16_merge (x : UInt32) (sel : UInt16) :
    ((x &&& 0xFFFF0000) ||| sel.toUInt32).toUInt16 = sel := by
  apply UInt16.toBitVec_inj.mp
  ext i hi
  simp

end

end Machine
