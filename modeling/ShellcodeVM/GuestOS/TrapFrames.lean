import ShellcodeVM.GuestOS.Trap

/-!
The stubs save the interrupted context where `TRAP_CONTEXT` has its fields, and put it
back. A stub is entered on the words that the processor has pushed; its own pushes go
in front of them, and the structure is the list read from its top.
-/
namespace ShellcodeVM.GuestOS
open Machine
variable {p : Processor} {r : Registers} {m : Memory32} {a : UInt32}

/-! ### Before the call -/

/-- The vectors with an exception of their own; 15 is reserved. -/
def Handled (v : Nat) : Prop := v ≤ 14 ∨ 16 ≤ v ∧ v ≤ 19

instance (v : Nat) : Decidable (Handled v) := inferInstanceAs (Decidable (_ ∨ _))

/-- The stub of a handled vector has the shape that goes with the processor's frame. -/
theorem trapEntry_eq {v : Nat} (hv : Handled v) :
    trapEntry v = if pushesErrorCode v then trapWithErrorCode (UInt32.ofNat v)
      else trapNoErrorCode (UInt32.ofNat v) := by
  have hle : v ≤ 19 := by
    rw [Handled] at hv
    omega
  interval_cases v <;> first | rfl | exact absurd hv (by decide)

/-- The error code that a stub leaves on the stack. -/
def savedErrorCode (v : Nat) (errorCode : UInt32) : UInt32 :=
  if pushesErrorCode v then errorCode else 0xFFFFFFFF

/-- The flags with which `push int_no` is reached. -/
def entryFlags (eflags : UInt32) : UInt32 :=
  eflags &&& ~~~(flagTf ||| flagNt ||| flagRf ||| flagVm) &&& ~~~flagIf

/-- Both kinds of stub come to `push int_no` on the same stack: the error code, or the
word in its place, in front of what the processor saves. -/
theorem enter_spec (p : Processor) (inner : InnerStack) (handler : UInt16) (offset : UInt32)
    (errorCode : UInt32) {v : Nat} (hv : Handled v) :
    ∃ m' a ss cs outer,
      run p (trapEntry v).save (Cpu.deliver p inner handler offset
          (if pushesErrorCode v then some errorCode else none) ⟨r, m⟩) =
        run p (saveContext (UInt32.ofNat v)) ⟨{ r with
          eip := offset
          cs := handler
          eflags := entryFlags r.eflags
          ss := ss
          esp := a - 16 }, m'⟩ ∧
      Holds m' (a - 16) (savedErrorCode v errorCode :: r.eip :: cs :: r.eflags :: outer) ∧
      p.HoldsSelector cs r.cs ∧ OuterStack p handler r ss a outer := by
  obtain ⟨m1, a, ss, cs, outer, e1, h1, hcs, houter⟩ :=
    saveFrame_spec (r := r) (m := m) p inner handler
  have hlen := houter.length_le
  have haddr : a - 12 - 4 = a - 16 := by grind
  rw [trapEntry_eq hv, savedErrorCode]
  by_cases herr : pushesErrorCode v = true
  · -- the processor pushes the error code before it enters the stub
    obtain ⟨m2, e2, h2⟩ := push_spec (r := { r with ss := ss, esp := a - 12 }) errorCode h1 rfl
      (by simp only [List.length_cons]; omega)
    rw [haddr] at e2 h2
    rw [if_pos herr, if_pos herr, if_pos herr, Cpu.deliver, e1]
    refine ⟨m2, a, ss, cs, outer, ?_, h2, hcs, houter⟩
    rw [trapWithErrorCode, run_cons, e2]
    rfl
  · -- the stub pushes -1 itself
    obtain ⟨m2, e2, h2⟩ := push_spec (r := { r with
        ss := ss
        esp := a - 12
        eip := offset
        cs := handler
        eflags := entryFlags r.eflags }) (-1) h1 rfl (by simp only [List.length_cons]; omega)
    rw [haddr] at e2 h2
    rw [if_neg herr, if_neg herr, if_neg herr, Cpu.deliver, e1]
    refine ⟨m2, a, ss, cs, outer, ?_, h2, hcs, houter⟩
    rw [trapNoErrorCode, run_cons]
    exact run_step e2 rfl

/-- The stub makes the data segments those of the stack. -/
theorem loadSegments_eq :
    run p [.movAxSs, .movSegAx .ds, .movSegAx .es, .movSegAx .fs, .movSegAx .gs] ⟨r, m⟩ =
      ⟨{ r with
        eax := (r.eax &&& 0xFFFF0000) ||| r.ss.toUInt32
        ds := r.ss
        es := r.ss
        fs := r.ss
        gs := r.ss }, m⟩ := by
  simp only [run, List.foldl, exec, Registers.setSegment, toUInt16_merge]

/-- What `saveContext` puts in front of the words it finds: the argument of the call, the
data segments, the general registers and the vector. -/
theorem saveContext_spec (v : UInt32) {ws : List UInt32} (h : Holds m a ws) (ha : r.esp = a)
    (hlen : 4 * (ws.length + 14) ≤ 2 ^ 32) :
    ∃ m' eax gs fs es ds,
      run p (saveContext v) ⟨r, m⟩ =
        ⟨{ r with
          eax := eax
          esp := a - 56
          ds := r.ss
          es := r.ss
          fs := r.ss
          gs := r.ss }, m'⟩ ∧
      Holds m' (a - 56) ((a - 52) :: gs :: fs :: es :: ds :: r.edi :: r.esi :: r.ebp :: (a - 4) ::
        r.ebx :: r.edx :: r.ecx :: r.eax :: v :: ws) ∧
      p.HoldsSelector gs r.gs ∧ p.HoldsSelector fs r.fs ∧ p.HoldsSelector es r.es ∧
      p.HoldsSelector ds r.ds := by
  obtain ⟨m1, e1, h1⟩ := push_spec v h ha (by omega)
  obtain ⟨m2, e2, h2⟩ := pushad_spec (r := { r with esp := a - 4 }) h1 rfl
    (by simp only [List.length_cons]; omega)
  obtain ⟨m3, ds, e3, h3, hds⟩ := pushSelector_spec (r := { r with esp := a - 4 - 32 }) p r.ds h2 rfl
    (by simp only [List.length_cons]; omega)
  obtain ⟨m4, es, e4, h4, hes⟩ := pushSelector_spec (r := { r with esp := a - 4 - 32 - 4 }) p r.es
    h3 rfl (by simp only [List.length_cons]; omega)
  obtain ⟨m5, fs, e5, h5, hfs⟩ := pushSelector_spec (r := { r with esp := a - 4 - 32 - 4 - 4 }) p
    r.fs h4 rfl (by simp only [List.length_cons]; omega)
  obtain ⟨m6, gs, e6, h6, hgs⟩ := pushSelector_spec (r := { r with esp := a - 4 - 32 - 4 - 4 - 4 }) p
    r.gs h5 rfl (by simp only [List.length_cons]; omega)
  have hc : a - 4 - 32 - 4 - 4 - 4 - 4 = a - 52 := by grind
  have hc' : a - 52 - 4 = a - 56 := by grind
  rw [hc] at e6 h6
  obtain ⟨m7, e7, h7⟩ := push_spec (r := { r with esp := a - 52, eax := a - 52 }) (a - 52) h6 rfl
    (by simp only [List.length_cons]; omega)
  rw [hc'] at e7 h7
  refine ⟨m7, ((a - 52) &&& 0xFFFF0000) ||| r.ss.toUInt32, gs, fs, es, ds, ?_, h7, hgs, hfs, hes,
    hds⟩
  rw [saveContext]
  refine run_step e1 (run_step e2 (run_step e3 (run_step e4 (run_step e5 (run_step e6
    (run_step rfl (run_step e7 ?_)))))))
  exact loadSegments_eq

/-! ### After the call -/

/-- The words of the structure without the `esp` and `ss` of an outer level. -/
def TrapContext.words (c : TrapContext) : List UInt32 :=
  [c.gs, c.fs, c.es, c.ds, c.edi, c.esi, c.ebp, c.tmp, c.ebx, c.edx, c.ecx, c.eax, c.irqNo,
    c.errCode, c.eip, c.cs, c.eflags]

/-- The registers that the stub itself restores. -/
def TrapContext.load (c : TrapContext) (r : Registers) : Registers :=
  { r with
    eax := c.eax
    ecx := c.ecx
    edx := c.edx
    ebx := c.ebx
    ebp := c.ebp
    esi := c.esi
    edi := c.edi
    ds := c.ds.toUInt16
    es := c.es.toUInt16
    fs := c.fs.toUInt16
    gs := c.gs.toUInt16 }

/-- Up to `iretd` the stub takes the words of the structure off the stack again. -/
theorem unwind_eq {x : UInt32} {c : TrapContext} (h : Holds m a (x :: c.words)) (ha : r.esp = a) :
    run p restoreContext ⟨r, m⟩ =
      Cpu.iretd ⟨{ c.load r with
        esp := a + 4 + 4 + 4 + 4 + 4 + 32 + 8
        eflags := p.addFlags r.eflags (a + 4 + 4 + 4 + 4 + 4 + 32) 8 ||| flagIf }, m⟩ := by
  have hgs := h.2
  have hfs := hgs.2
  have hes := hfs.2
  have hds := hes.2
  rw [restoreContext, run_cons, exec_popEax h ha, run_cons, exec_popSeg .gs hgs rfl, run_cons,
    exec_popSeg .fs hfs rfl, run_cons, exec_popSeg .es hes rfl, run_cons,
    exec_popSeg .ds hds rfl, run_cons, exec_popad hds.2 rfl, run_cons, exec_addEsp 8 rfl,
    run_cons, exec_sti, run_iretd]
  rfl

/-- What the stub resumes with. The stack pointer of an outer level lies behind the words. -/
theorem restoreContext_regs {x : UInt32} {c : TrapContext} (h : Holds m a (x :: c.words))
    (ha : r.esp = a) (hcs : privilege r.cs = 0) :
    (run p restoreContext ⟨r, m⟩).regs =
      { c.load r with
        eip := c.eip
        cs := c.cs.toUInt16
        eflags := c.eflags
        esp := if 0 < privilege c.cs.toUInt16 then load32 m (a + 72) else a + 72
        ss := if 0 < privilege c.cs.toUInt16 then (load32 m (a + 76)).toUInt16 else r.ss } := by
  have haddr : a + 4 + 4 + 4 + 4 + 4 + 32 + 8 = a + 60 := by grind
  have hframe : Holds m (a + 60) [c.eip, c.cs, c.eflags] := h.drop 15
  have hesp : a + 60 + 12 = a + 72 := by grind
  have hss : a + 60 + 16 = a + 76 := by grind
  rw [unwind_eq h ha, haddr, iretd_regs hframe rfl, hesp, hss]
  change { c.load r with
    eip := c.eip
    cs := c.cs.toUInt16
    eflags := c.eflags
    esp := if privilege r.cs < privilege c.cs.toUInt16 then load32 m (a + 72) else a + 72
    ss := if privilege r.cs < privilege c.cs.toUInt16 then (load32 m (a + 76)).toUInt16
      else r.ss } = _
  rw [hcs]

theorem TrapContext.read_eq {c : TrapContext} {outer : List UInt32}
    (h : Holds m a (c.words ++ outer)) :
    TrapContext.read m a = { c with esp := load32 m (a + 68), ss := load32 m (a + 72) } := by
  simp only [TrapContext.words, List.cons_append, Holds, UInt32.add_assoc, UInt32.reduceAdd] at h
  obtain ⟨h0, h1, h2, h3, h4, h5, h6, h7, h8, h9, h10, h11, h12, h13, h14, h15, h16, -⟩ := h
  simp only [TrapContext.read, h0, h1, h2, h3, h4, h5, h6, h7, h8, h9, h10, h11, h12, h13, h14,
    h15, h16]

/-! ### A trap from its delivery to `iretd` -/

/-- The fields that are there whatever the privilege level was. -/
structure TrapContext.Saves (c : TrapContext) (p : Processor) (v : Nat) (errorCode : UInt32)
    (r : Registers) : Prop where
  eax : c.eax = r.eax
  ecx : c.ecx = r.ecx
  edx : c.edx = r.edx
  ebx : c.ebx = r.ebx
  ebp : c.ebp = r.ebp
  esi : c.esi = r.esi
  edi : c.edi = r.edi
  eip : c.eip = r.eip
  eflags : c.eflags = r.eflags
  cs : p.HoldsSelector c.cs r.cs
  ds : p.HoldsSelector c.ds r.ds
  es : p.HoldsSelector c.es r.es
  fs : p.HoldsSelector c.fs r.fs
  gs : p.HoldsSelector c.gs r.gs
  irqNo : c.irqNo = UInt32.ofNat v
  errCode : c.errCode = savedErrorCode v errorCode

/-- The processor delivers an exception through the gate that `TRAP::Init` has set. -/
def interrupt (p : Processor) (inner : InnerStack) (idt : Idt) (address : Nat → UInt32)
    (v : Nat) (errorCode : UInt32) (s : Cpu) : Cpu :=
  let gate := decodeGate ((trapInit idt address trapEntries).mIdt v)
  s.deliver p inner (UInt16.ofNat gate.selector) (UInt32.ofNat gate.offset)
    (if pushesErrorCode v then some errorCode else none)

/-- Where `TRAP::dispatch` is entered: the stub has run up to its call. -/
def dispatchEntry (p : Processor) (inner : InnerStack) (idt : Idt) (address : Nat → UInt32)
    (v : Nat) (errorCode returnAddress : UInt32) (s : Cpu) : Cpu :=
  (run p (trapEntry v).save (interrupt p inner idt address v errorCode s)).call returnAddress

/-- The argument of a `cdecl` function, behind its return address. -/
def argument (s : Cpu) : UInt32 := s.word 4

/-- The structure that `TRAP::dispatch` gets. -/
def dispatchContext (entry : Cpu) : TrapContext :=
  TrapContext.read entry.mem (argument entry)

/-- How much of the structure the stack has. -/
def frameLength (r : Registers) : Nat :=
  if ChangesPrivilege (UInt16.ofNat selKernelCode) r then 76 else 68

/-- A function has returned, with the bytes behind its argument as it got them. -/
structure Returned (entry returned : Cpu) (length : Nat) : Prop where
  esp : returned.regs.esp = entry.regs.esp + 4
  cs : returned.regs.cs = entry.regs.cs
  ss : returned.regs.ss = entry.regs.ss
  frame : ∀ k : UInt32, k.toNat < length →
    returned.mem (argument entry + k) = entry.mem (argument entry + k)

/-- What lies on the stack when `TRAP::dispatch` is entered. -/
theorem dispatchEntry_spec (p : Processor) (inner : InnerStack) (idt : Idt)
    (address : Nat → UInt32) {v : Nat} (hv : Handled v) (errorCode returnAddress : UInt32) :
    ∃ a c outer,
      let entry := dispatchEntry p inner idt address v errorCode returnAddress ⟨r, m⟩
      entry.regs.esp = a - 76 ∧
      entry.regs.cs = UInt16.ofNat selKernelCode ∧
      Holds entry.mem (a - 76) (returnAddress :: (a - 68) :: (TrapContext.words c ++ outer)) ∧
      c.Saves p v errorCode r ∧
      OuterStack p (UInt16.ofNat selKernelCode) r entry.regs.ss a outer := by
  have hle : v < trapEntries := by
    rw [Handled] at hv
    rw [trapEntries]
    omega
  obtain ⟨m1, a, ss, cs, outer, e1, h1, hcs, houter⟩ := enter_spec (r := r) (m := m) p inner
    (UInt16.ofNat selKernelCode) (UInt32.ofNat (address v).toNat) errorCode hv
  have hlen := houter.length_le
  obtain ⟨m2, eax, gs, fs, es, ds, e2, h2, hgs, hfs, hes, hds⟩ := saveContext_spec (p := p)
    (r := { r with
      eip := UInt32.ofNat (address v).toNat
      cs := UInt16.ofNat selKernelCode
      eflags := entryFlags r.eflags
      ss := ss
      esp := a - 16 }) (UInt32.ofNat v) h1 rfl (by simp only [List.length_cons]; omega)
  have hesp : a - 16 - 56 = a - 72 := by grind
  have harg : a - 16 - 52 = a - 68 := by grind
  have hret : a - 72 - 4 = a - 76 := by grind
  rw [hesp] at e2 h2
  rw [harg] at h2
  obtain ⟨m3, e3, h3⟩ := push_spec (r := { r with
      eip := UInt32.ofNat (address v).toNat
      cs := UInt16.ofNat selKernelCode
      eflags := entryFlags r.eflags
      ss := ss
      eax := eax
      esp := a - 72
      ds := ss
      es := ss
      fs := ss
      gs := ss }) returnAddress h2 rfl (by simp only [List.length_cons]; omega)
  rw [hret] at e3 h3
  have hentry : dispatchEntry p inner idt address v errorCode returnAddress ⟨r, m⟩ =
      ⟨{ r with
        eip := UInt32.ofNat (address v).toNat
        cs := UInt16.ofNat selKernelCode
        eflags := entryFlags r.eflags
        ss := ss
        eax := eax
        esp := a - 76
        ds := ss
        es := ss
        fs := ss
        gs := ss }, m3⟩ := by
    rw [dispatchEntry, interrupt, trapInit_slot idt address hle, Cpu.call]
    exact (congrArg (Cpu.push · returnAddress) (e1.trans e2)).trans e3
  refine ⟨a, ⟨gs, fs, es, ds, r.edi, r.esi, r.ebp, a - 16 - 4, r.ebx, r.edx, r.ecx, r.eax,
    UInt32.ofNat v, savedErrorCode v errorCode, r.eip, cs, r.eflags, 0, 0⟩, outer, ?_⟩
  rw [hentry]
  exact ⟨rfl, rfl, h3, ⟨rfl, rfl, rfl, rfl, rfl, rfl, rfl, rfl, rfl, hcs, hds, hes, hfs, hgs, rfl,
    rfl⟩, houter⟩

/-- The frame is as long as its words. -/
theorem frameLength_eq {ss : UInt16} {outer : List UInt32} (c : TrapContext)
    (h : OuterStack p (UInt16.ofNat selKernelCode) r ss a outer) :
    4 * (c.words ++ outer).length = frameLength r := by
  rw [List.length_append, frameLength]
  obtain ⟨hchanges, w, rfl, -⟩ | ⟨hstays, rfl, -⟩ := h
  · rw [if_pos hchanges]
    rfl
  · rw [if_neg hstays]
    rfl

/-- A saved context is loaded back into the registers it was saved from. -/
theorem TrapContext.Saves.resume {c : TrapContext} {v : Nat} {errorCode esp : UInt32} {ss : UInt16}
    (h : c.Saves p v errorCode r) (r' : Registers) (hesp : esp = r.esp) (hss : ss = r.ss) :
    { c.load r' with
      eip := c.eip
      cs := c.cs.toUInt16
      eflags := c.eflags
      esp := esp
      ss := ss } = r := by
  rw [TrapContext.load, h.eax, h.ecx, h.edx, h.ebx, h.ebp, h.esi, h.edi, h.eip, h.eflags, h.cs.1,
    h.ds.1, h.es.1, h.fs.1, h.gs.1, hesp, hss]

theorem privilege_selKernelCode : privilege (UInt16.ofNat selKernelCode) = 0 :=
  rfl

/-- The stub puts back what it has saved, whatever the argument word has become. -/
theorem restore_spec {v : Nat} {errorCode : UInt32} {c : TrapContext} {outer : List UInt32}
    {s : Cpu} {x : UInt32} (hesp : s.regs.esp = a - 72)
    (hcs : s.regs.cs = UInt16.ofNat selKernelCode)
    (h : Holds s.mem (a - 72) (x :: (c.words ++ outer))) (hsaves : c.Saves p v errorCode r)
    (houter : OuterStack p (UInt16.ofNat selKernelCode) r s.regs.ss a outer) :
    (run p restoreContext s).regs = r := by
  have hlevel : privilege s.regs.cs = 0 := hcs ▸ privilege_selKernelCode
  have haddr : a - 72 + 72 = a := by grind
  have hss : a - 72 + 76 = a + 4 := by grind
  have hbehind : Holds s.mem (a - 72 + 72) outer := h.drop 18
  have hwords : Holds s.mem (a - 72) (x :: c.words) := h.left
  have hregs := restoreContext_regs (p := p) hwords hesp hlevel
  rw [haddr] at hbehind
  rw [haddr, hss] at hregs
  rw [hregs]
  apply hsaves.resume
  · rw [hsaves.cs.1]
    obtain ⟨hchanges, w, rfl, -⟩ | ⟨hstays, -, -, ha⟩ := houter
    · rw [ChangesPrivilege, privilege_selKernelCode] at hchanges
      rw [if_pos hchanges]
      exact hbehind.1
    · rw [ChangesPrivilege, privilege_selKernelCode] at hstays
      rw [if_neg hstays, ha]
  · rw [hsaves.cs.1]
    obtain ⟨hchanges, w, rfl, hw⟩ | ⟨hstays, -, hsame, -⟩ := houter
    · rw [ChangesPrivilege, privilege_selKernelCode] at hchanges
      rw [if_pos hchanges, hbehind.2.1]
      exact hw.1
    · rw [ChangesPrivilege, privilege_selKernelCode] at hstays
      rw [if_neg hstays, hsame]

/-- What `dispatch` finds behind its pointer. -/
theorem read_spec {v : Nat} {errorCode : UInt32} {c : TrapContext} {outer : List UInt32}
    {ss : UInt16} (h : Holds m a (c.words ++ outer)) (hsaves : c.Saves p v errorCode r)
    (houter : OuterStack p (UInt16.ofNat selKernelCode) r ss (a + 68) outer) :
    (TrapContext.read m a).Saves p v errorCode r ∧
    (ChangesPrivilege (UInt16.ofNat selKernelCode) r →
      (TrapContext.read m a).esp = r.esp ∧ p.HoldsSelector (TrapContext.read m a).ss r.ss) := by
  rw [TrapContext.read_eq h]
  refine ⟨{ hsaves with }, ?_⟩
  intro hchanges
  obtain ⟨-, w, rfl, hw⟩ | ⟨hstays, -⟩ := houter
  · have hbehind : Holds m (a + 68) [r.esp, w] := h.drop 17
    have haddr : a + 68 + 4 = a + 72 := by grind
    refine ⟨hbehind.1, ?_⟩
    change p.HoldsSelector (load32 m (a + 72)) r.ss
    rw [← haddr, hbehind.2.1]
    exact hw
  · exact absurd hchanges hstays

theorem dispatch_irqNo {context : TrapContext} {v : Nat} (hv : Handled v)
    (h : context.irqNo = UInt32.ofNat v) : dispatch context = some v := by
  have hle : v < trapEntries := by
    rw [Handled] at hv
    rw [trapEntries]
    omega
  have hnat : (UInt32.ofNat v).toNat = v :=
    UInt32.toNat_ofNat_of_lt' (lt_trans hle (by decide))
  rw [dispatch, h, hnat, if_pos hle]

/-- The exception `v` interrupted `s`, and `dispatch` was entered in `entry`. -/
structure SavesAndRestores (p : Processor) (v : Nat) (errorCode : UInt32) (s entry : Cpu) :
    Prop where
  saves : (dispatchContext entry).Saves p v errorCode s.regs
  outer : ChangesPrivilege (UInt16.ofNat selKernelCode) s.regs →
    (dispatchContext entry).esp = s.regs.esp ∧
      p.HoldsSelector (dispatchContext entry).ss s.regs.ss
  dispatched : dispatch (dispatchContext entry) = some v
  resumes : ∀ returned, Returned entry returned (frameLength s.regs) →
    (run p (trapEntry v).restore returned).regs = s.regs

/-- The stubs of the handled exceptions save the interrupted context where `dispatch` looks
for it, and `iretd` resumes with it when `dispatch` has left it alone. -/
theorem stubs_save_and_restore {v : Nat} (hv : Handled v) (p : Processor) (inner : InnerStack)
    (idt : Idt) (address : Nat → UInt32) (errorCode returnAddress : UInt32) (s : Cpu) :
    SavesAndRestores p v errorCode s
      (dispatchEntry p inner idt address v errorCode returnAddress s) := by
  obtain ⟨a, c, outer, hentry⟩ := dispatchEntry_spec (r := s.regs) (m := s.mem) p inner idt
    address hv errorCode returnAddress
  generalize dispatchEntry p inner idt address v errorCode returnAddress s = entry at hentry ⊢
  obtain ⟨hesp, hcs, hwords, hsaves, houter⟩ := hentry
  have hcontext : a - 76 + 4 + 4 = a - 68 := by grind
  have hbase : a - 68 + 68 = a := by grind
  have hframe : Holds entry.mem (a - 68) (c.words ++ outer) := hcontext ▸ hwords.2.2
  have hargument : argument entry = a - 68 := by
    rw [argument, Cpu.word, hesp]
    exact hwords.2.1
  have hread := read_spec hframe hsaves (hbase.symm ▸ houter)
  have hargs : dispatchContext entry = TrapContext.read entry.mem (a - 68) := by
    rw [dispatchContext, hargument]
  rw [← hargs] at hread
  refine ⟨hread.1, hread.2, dispatch_irqNo hv hread.1.irqNo, ?_⟩
  intro returned hreturned
  have harg : a - 76 + 4 = a - 72 := by grind
  have hbehind : a - 72 + 4 = a - 68 := by grind
  have hlength := frameLength_eq c houter
  have hlen := houter.length_le
  have hunchanged : Holds returned.mem (a - 68) (c.words ++ outer) := by
    apply hframe.congr
    · rw [List.length_append]
      change 4 * (17 + outer.length) ≤ 2 ^ 32
      omega
    · intro k hk
      rw [← hargument]
      exact hreturned.frame k (hlength ▸ hk)
  have hstub : (trapEntry v).restore = restoreContext := by
    rw [trapEntry_eq hv]
    split <;> rfl
  rw [hstub]
  have htop : Holds returned.mem (a - 72)
      (load32 returned.mem (a - 72) :: (c.words ++ outer)) := ⟨rfl, hbehind.symm ▸ hunchanged⟩
  apply restore_spec (hreturned.esp.trans (hesp ▸ harg)) (hreturned.cs.trans hcs) htop hsaves
  rw [hreturned.ss]
  exact houter

/-- A processor whose selector pushes clear the upper half. -/
def zeroExtending : Processor where
  selectorWord sel _ := sel.toUInt32
  selectorWord_low sel _ := UInt16.toUInt16_toUInt32 sel
  addFlags eflags _ _ := eflags

/-- A program at level 3, about to fault. -/
def userCpu : Cpu where
  regs := ⟨1, 2, 3, 4, 0x7000, 6, 7, 8, 0x401000, 0x202, 0x1B, 0x23, 0x23, 0x23, 0x3B, 0x23⟩
  mem _ := 0

theorem pageFault_saves_and_restores :
    Handled 14 ∧ SavesAndRestores zeroExtending 14 6 userCpu
      (dispatchEntry zeroExtending ⟨0x10, 0x9000⟩ Idt.zeroed (fun _ => 0xC0001000) 14 6
        0xC0001234 userCpu) :=
  ⟨by decide, stubs_save_and_restore (by decide) zeroExtending ⟨0x10, 0x9000⟩ Idt.zeroed
    (fun _ => 0xC0001000) 6 0xC0001234 userCpu⟩

end ShellcodeVM.GuestOS
