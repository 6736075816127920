import ShellcodeVM.Lib.X86

/-!
Segments and interrupts in the emulator (`target-i386/seg_helper.c`): the descriptor tables,
`helper_ltr`, `do_interrupt_protected` and `helper_iret_protected` outside long mode. Their
memory accesses are taken to succeed. What switches tasks and what returns to virtual-8086
mode is left out; a run that comes to it stops there.
-/
namespace ShellcodeVM.TargetI386
open Machine

def descGMask : Nat := 1 <<< 23
def descBMask : Nat := 1 <<< 22
def descPMask : Nat := 1 <<< 15
def descDplShift : Nat := 13
def descSMask : Nat := 1 <<< 12
def descTypeShift : Nat := 8
def descCsMask : Nat := 1 <<< 11
def descCMask : Nat := 1 <<< 10
def descRMask : Nat := 1 <<< 9
def descWMask : Nat := 1 <<< 9
def descAMask : Nat := 1 <<< 8
def descTssBusyMask : Nat := 1 <<< 9

def excp0aTss : Nat := 10
def excp0bNoseg : Nat := 11
def excp0cStack : Nat := 12
def excp0dGpf : Nat := 13

/-- The flags that are computed from `CC_SRC`, and `DF`. -/
def flagsCcDf : UInt32 := 0x00000CD5
def flagIopl : UInt32 := 0x00003000
def flagAc : UInt32 := 0x00040000
def flagId : UInt32 := 0x00200000

/-- `SegmentCache` without its selector, which is among the registers. -/
structure SegmentCache where
  base : UInt32
  limit : Nat
  flags : Nat
deriving DecidableEq, Repr

inductive SegReg where
  | es | cs | ss | ds | fs | gs
deriving DecidableEq, Repr

/-- The part of `CPUX86State` that the functions use; `cpl` is in its `hflags`. -/
structure SegState where
  cpu : Cpu
  cpl : Nat
  segs : SegReg → SegmentCache
  gdt : SegmentCache
  ldt : SegmentCache
  idt : SegmentCache
  tr : SegmentCache
  trSelector : Nat

/-- How a function is left before its end: by `raise_exception_err` or `cpu_abort`, or for
the parts that are left out. -/
inductive Stop where
  | exception (index errorCode : Nat)
  | abort
  | taskSwitch
  | vm86
deriving DecidableEq, Repr

def raiseIf (c : Prop) [Decidable c] (e : Stop) : Except Stop Unit :=
  if c then .error e else .ok ()

def getSegLimit (e1 e2 : Nat) : Nat :=
  let limit := (e1 &&& 0xffff) ||| (e2 &&& 0x000f0000)
  if e2 &&& descGMask ≠ 0 then (limit <<< 12) ||| 0xfff else limit

def getSegBase (e1 e2 : Nat) : UInt32 :=
  UInt32.ofNat ((e1 >>> 16) ||| ((e2 &&& 0xff) <<< 16) ||| (e2 &&& 0xff000000))

def getSpMask (e2 : Nat) : UInt32 :=
  if e2 &&& descBMask ≠ 0 then 0xffffffff else 0xffff

def exeptionHasErrorCode (intno : Nat) : Bool :=
  match intno with
  | 8 | 10 | 11 | 12 | 13 | 14 | 17 => true
  | _ => false

/-- A stack: its memory, the segment's base, the mask, and the offset of its top. -/
structure StackTop where
  mem : Memory32
  ssp : UInt32
  spMask : UInt32
  sp : UInt32

namespace StackTop

/-- `PUSHW` and `PUSHL`, by the size of the gate. -/
def push (s : StackTop) (shift : Nat) (val : UInt32) : StackTop :=
  if shift = 1 then
    { s with mem := store32 s.mem (s.ssp + ((s.sp - 4) &&& s.spMask)) val, sp := s.sp - 4 }
  else
    { s with mem := store16 s.mem (s.ssp + ((s.sp - 2) &&& s.spMask)) val.toUInt16, sp := s.sp - 2 }

/-- `POPW` and `POPL`. -/
def pop (s : StackTop) (shift : Nat) : UInt32 × StackTop :=
  if shift = 1 then (load32 s.mem (s.ssp + (s.sp &&& s.spMask)), { s with sp := s.sp + 4 })
  else ((load16 s.mem (s.ssp + (s.sp &&& s.spMask))).toUInt32, { s with sp := s.sp + 2 })

end StackTop

namespace SegState

def descriptor (env : SegState) (dt : SegmentCache) (index : Nat) : Nat × Nat :=
  let ptr := dt.base + UInt32.ofNat index
  ((load32 env.cpu.mem ptr).toNat, (load32 env.cpu.mem (ptr + 4)).toNat)

/-- `load_segment`; `none` stands for -1. -/
def loadSegment (env : SegState) (selector : Nat) : Option (Nat × Nat) :=
  let dt := if selector &&& 0x4 ≠ 0 then env.ldt else env.gdt
  let index := selector &&& 0xfff8
  if index + 7 > dt.limit then none else some (env.descriptor dt index)

/-- `load_segment`, and the exception for its failure. -/
def loadSegmentOr (env : SegState) (selector excp : Nat) : Except Stop (Nat × Nat) :=
  match env.loadSegment selector with
  | some e => .ok e
  | none => .error (.exception excp (selector &&& 0xfffc))

def selector (env : SegState) : SegReg → UInt16
  | .es => env.cpu.regs.es
  | .cs => env.cpu.regs.cs
  | .ss => env.cpu.regs.ss
  | .ds => env.cpu.regs.ds
  | .fs => env.cpu.regs.fs
  | .gs => env.cpu.regs.gs

def setSelector (r : Registers) (seg : SegReg) (sel : UInt16) : Registers :=
  match seg with
  | .es => { r with es := sel }
  | .cs => { r with cs := sel }
  | .ss => { r with ss := sel }
  | .ds => { r with ds := sel }
  | .fs => { r with fs := sel }
  | .gs => { r with gs := sel }

/-- `cpu_x86_load_seg_cache`. -/
def loadSegCache (env : SegState) (seg : SegReg) (sel : Nat) (base : UInt32) (limit flags : Nat) :
    SegState :=
  { env with
    cpu := { env.cpu with regs := setSelector env.cpu.regs seg (UInt16.ofNat sel) }
    segs := fun s => if s = seg then ⟨base, limit, flags⟩ else env.segs s }

def setMem (env : SegState) (mem : Memory32) : SegState :=
  { env with cpu := { env.cpu with mem := mem } }

/-- `SET_ESP`. -/
def setEsp (env : SegState) (val spMask : UInt32) : SegState :=
  { env with cpu := { env.cpu with regs := { env.cpu.regs with
      esp := (env.cpu.regs.esp &&& ~~~spMask) ||| (val &&& spMask) } } }

/-! ### `helper_load_seg` and `helper_ltr` -/

/-- The tests on a descriptor that is to be loaded into a data segment register or `ss`. -/
def loadable (env : SegState) (seg : SegReg) (selector e2 : Nat) : Except Stop Unit := do
  let gpf := Stop.exception excp0dGpf (selector &&& 0xfffc)
  raiseIf (e2 &&& descSMask = 0) gpf
  let rpl := selector &&& 3
  let dpl := (e2 >>> descDplShift) &&& 3
  if seg = .ss then
    raiseIf (e2 &&& descCsMask ≠ 0 ∨ e2 &&& descWMask = 0) gpf
    raiseIf (rpl ≠ env.cpl ∨ dpl ≠ env.cpl) gpf
  else
    raiseIf (e2 &&& (descCsMask ||| descRMask) = descCsMask) gpf
    raiseIf ((e2 &&& descCsMask = 0 ∨ e2 &&& descCMask = 0) ∧ (dpl < env.cpl ∨ dpl < rpl)) gpf
  raiseIf (e2 &&& descPMask = 0)
    (.exception (if seg = .ss then excp0cStack else excp0bNoseg) (selector &&& 0xfffc))

def helperLoadSeg (env : SegState) (seg : SegReg) (selector : Nat) : Except Stop SegState :=
  let selector := selector &&& 0xffff
  if selector &&& 0xfffc = 0 then do
    raiseIf (seg = .ss) (.exception excp0dGpf 0)
    return env.loadSegCache seg selector 0 0 0
  else do
    let (e1, e2) ← env.loadSegmentOr selector excp0dGpf
    env.loadable seg selector e2
    let dt := if selector &&& 0x4 ≠ 0 then env.ldt else env.gdt
    let ptr := dt.base + UInt32.ofNat (selector &&& 0xfff8)
    let marked := e2 ||| descAMask
    let mem := if e2 &&& descAMask = 0 then store32 env.cpu.mem (ptr + 4) (UInt32.ofNat marked)
      else env.cpu.mem
    return (env.setMem mem).loadSegCache seg selector (getSegBase e1 marked)
      (getSegLimit e1 marked) marked

def helperLtr (env : SegState) (selector : Nat) : Except Stop SegState :=
  if selector &&& 0xfffc = 0 then
    .ok { env with tr := ⟨0, 0, 0⟩, trSelector := selector }
  else do
    raiseIf (selector &&& 0x4 ≠ 0) (.exception excp0dGpf (selector &&& 0xfffc))
    let index := selector &&& 0xfff8
    raiseIf (index + 7 > env.gdt.limit) (.exception excp0dGpf (selector &&& 0xfffc))
    let (e1, e2) := env.descriptor env.gdt index
    let type := (e2 >>> descTypeShift) &&& 0xf
    raiseIf (e2 &&& descSMask ≠ 0 ∨ type ≠ 1 ∧ type ≠ 9)
      (.exception excp0dGpf (selector &&& 0xfffc))
    raiseIf (e2 &&& descPMask = 0) (.exception excp0bNoseg (selector &&& 0xfffc))
    let env := env.setMem (store32 env.cpu.mem (env.gdt.base + UInt32.ofNat index + 4)
      (UInt32.ofNat (e2 ||| descTssBusyMask)))
    return { env with tr := ⟨getSegBase e1 e2, getSegLimit e1 e2, e2⟩, trSelector := selector }

/-! ### `do_interrupt_protected` -/

/-- What is read from a gate of the IDT. -/
structure Gate where
  type : Nat
  selector : Nat
  offset : UInt32
deriving DecidableEq, Repr

/-- From the reading of the gate to the test of its selector. -/
def interruptGate (env : SegState) (intno : Nat) (isInt : Bool) : Except Stop Gate := do
  raiseIf (intno * 8 + 7 > env.idt.limit) (.exception excp0dGpf (intno * 8 + 2))
  let (e1, e2) := env.descriptor env.idt (intno * 8)
  let type := (e2 >>> descTypeShift) &&& 0x1f
  raiseIf (type = 5 ∧ e2 &&& descPMask = 0) (.exception excp0bNoseg (intno * 8 + 2))
  raiseIf (type = 5) .taskSwitch
  raiseIf (type ≠ 6 ∧ type ≠ 7 ∧ type ≠ 14 ∧ type ≠ 15) (.exception excp0dGpf (intno * 8 + 2))
  let dpl := (e2 >>> descDplShift) &&& 3
  raiseIf (isInt = true ∧ dpl < env.cpl) (.exception excp0dGpf (intno * 8 + 2))
  raiseIf (e2 &&& descPMask = 0) (.exception excp0bNoseg (intno * 8 + 2))
  let selector := e1 >>> 16
  let offset := UInt32.ofNat ((e2 &&& 0xffff0000) ||| (e1 &&& 0x0000ffff))
  raiseIf (selector &&& 0xfffc = 0) (.exception excp0dGpf 0)
  return ⟨type, selector, offset⟩

/-- The tests on the handler's code segment. -/
def handlerSegment (env : SegState) (selector : Nat) : Except Stop (Nat × Nat) := do
  let (e1, e2) ← env.loadSegmentOr selector excp0dGpf
  raiseIf (e2 &&& descSMask = 0 ∨ e2 &&& descCsMask = 0)
    (.exception excp0dGpf (selector &&& 0xfffc))
  let dpl := (e2 >>> descDplShift) &&& 3
  raiseIf (dpl > env.cpl) (.exception excp0dGpf (selector &&& 0xfffc))
  raiseIf (e2 &&& descPMask = 0) (.exception excp0bNoseg (selector &&& 0xfffc))
  return (e1, e2)

def getSsEspFromTss (env : SegState) (dpl : Nat) : Except Stop (Nat × UInt32) := do
  raiseIf (env.tr.flags &&& descPMask = 0) .abort
  let type := (env.tr.flags >>> descTypeShift) &&& 0xf
  raiseIf (type &&& 7 ≠ 1) .abort
  let shift := type >>> 3
  let index := (dpl * 4 + 2) <<< shift
  raiseIf (index + (4 <<< shift) - 1 > env.tr.limit)
    (.exception excp0aTss (env.trSelector &&& 0xfffc))
  let ptr := env.tr.base + UInt32.ofNat index
  if shift = 0 then
    return ((load16 env.cpu.mem (ptr + 2)).toNat, (load16 env.cpu.mem ptr).toUInt32)
  else
    return ((load16 env.cpu.mem (ptr + 4)).toNat, load32 env.cpu.mem ptr)

/-- The stack that the frame goes to. With `newStack`, `ss` is its selector and `e1`, `e2` are
its descriptor. -/
structure HandlerStack where
  newStack : Bool
  dpl : Nat
  ssp : UInt32
  spMask : UInt32
  esp : UInt32
  ss : Nat
  e1 : Nat
  e2 : Nat

/-- The three cases of the handler's level; `e2` is of its code segment. -/
def handlerStack (env : SegState) (selector e2 : Nat) : Except Stop HandlerStack :=
  let dpl := (e2 >>> descDplShift) &&& 3
  if e2 &&& descCMask = 0 ∧ dpl < env.cpl then do
    let (ss, esp) ← env.getSsEspFromTss dpl
    raiseIf (ss &&& 0xfffc = 0) (.exception excp0aTss (ss &&& 0xfffc))
    raiseIf (ss &&& 3 ≠ dpl) (.exception excp0aTss (ss &&& 0xfffc))
    let (ssE1, ssE2) ← env.loadSegmentOr ss excp0aTss
    raiseIf ((ssE2 >>> descDplShift) &&& 3 ≠ dpl) (.exception excp0aTss (ss &&& 0xfffc))
    raiseIf (ssE2 &&& descSMask = 0 ∨ ssE2 &&& descCsMask ≠ 0 ∨ ssE2 &&& descWMask = 0)
      (.exception excp0aTss (ss &&& 0xfffc))
    raiseIf (ssE2 &&& descPMask = 0) (.exception excp0aTss (ss &&& 0xfffc))
    return ⟨true, dpl, getSegBase ssE1 ssE2, getSpMask ssE2, esp, ss, ssE1, ssE2⟩
  else if e2 &&& descCMask ≠ 0 ∨ dpl = env.cpl then do
    raiseIf (env.cpu.regs.eflags &&& flagVm ≠ 0) (.exception excp0dGpf (selector &&& 0xfffc))
    return ⟨false, env.cpl, (env.segs .ss).base, getSpMask (env.segs .ss).flags,
      env.cpu.regs.esp, 0, 0, 0⟩
  else .error (.exception excp0dGpf (selector &&& 0xfffc))

/-- The words that are pushed, the first one first. -/
def frame (env : SegState) (newStack : Bool) (oldEip : UInt32) (errorCode : Option UInt32) :
    List UInt32 :=
  let r := env.cpu.regs
  let vm := if r.eflags &&& flagVm ≠ 0 then
      [r.gs.toUInt32, r.fs.toUInt32, r.ds.toUInt32, r.es.toUInt32] else []
  let outer := if newStack then vm ++ [r.ss.toUInt32, r.esp] else []
  outer ++ [r.eflags, r.cs.toUInt32, oldEip] ++ errorCode.toList

/-- The data segments are cleared when virtual-8086 mode is left. -/
def clearSegments (env : SegState) : SegState :=
  if env.cpu.regs.eflags &&& flagVm ≠ 0 then
    [SegReg.es, .ds, .fs, .gs].foldl (fun env seg => env.loadSegCache seg 0 0 0 0) env
  else env

/-- The frame is pushed. -/
def pushFrame (env : SegState) (gate : Gate) (stack : HandlerStack) (words : List UInt32) :
    StackTop :=
  words.foldl (fun s w => s.push (gate.type >>> 3) w)
    ⟨env.cpu.mem, stack.ssp, stack.spMask, stack.esp⟩

/-- `ss` of the inner level. -/
def loadInnerStack (env : SegState) (stack : HandlerStack) : SegState :=
  if stack.newStack then
    env.clearSegments.loadSegCache .ss ((stack.ss &&& 0xfffc) ||| stack.dpl) stack.ssp
      (getSegLimit stack.e1 stack.e2) stack.e2
  else env

/-- The last statements. -/
def jump (env : SegState) (gate : Gate) (dpl : Nat) : SegState :=
  let r := env.cpu.regs
  let eflags := if gate.type &&& 1 = 0 then r.eflags &&& ~~~flagIf else r.eflags
  { env with
    cpl := dpl
    cpu := { env.cpu with regs := { r with
      eip := gate.offset
      eflags := eflags &&& ~~~(flagTf ||| flagVm ||| flagRf ||| flagNt) } } }

/-- From the pushes to the end; `e1` and `e2` are of the handler's code segment. -/
def enterHandler (env : SegState) (gate : Gate) (e1 e2 : Nat) (stack : HandlerStack)
    (words : List UInt32) : SegState :=
  let top := env.pushFrame gate stack words
  let env := (env.setMem top.mem).loadInnerStack stack
  let env := env.setEsp top.sp stack.spMask
  let env := env.loadSegCache .cs ((gate.selector &&& 0xfffc) ||| stack.dpl) (getSegBase e1 e2)
    (getSegLimit e1 e2) e2
  env.jump gate stack.dpl

def doInterruptProtected (env : SegState) (intno : Nat) (isInt : Bool) (errorCode : UInt32)
    (nextEip : UInt32) (isHw : Bool) : Except Stop SegState := do
  let hasErrorCode := !isInt && !isHw && exeptionHasErrorCode intno
  let oldEip := if isInt then nextEip else env.cpu.regs.eip
  let gate ← env.interruptGate intno isInt
  let (e1, e2) ← env.handlerSegment gate.selector
  let stack ← env.handlerStack gate.selector e2
  return env.enterHandler gate e1 e2 stack
    (env.frame stack.newStack oldEip (if hasErrorCode then some errorCode else none))

/-! ### `helper_iret_protected` -/

/-- The tests on the code segment that is returned to. -/
def returnSegment (env : SegState) (newCs : Nat) : Except Stop (Nat × Nat) := do
  let gpf := Stop.exception excp0dGpf (newCs &&& 0xfffc)
  raiseIf (newCs &&& 0xfffc = 0) gpf
  let (e1, e2) ← env.loadSegmentOr newCs excp0dGpf
  raiseIf (e2 &&& descSMask = 0 ∨ e2 &&& descCsMask = 0) gpf
  let rpl := newCs &&& 3
  raiseIf (rpl < env.cpl) gpf
  let dpl := (e2 >>> descDplShift) &&& 3
  raiseIf (if e2 &&& descCMask ≠ 0 then dpl > rpl else dpl ≠ rpl) gpf
  raiseIf (e2 &&& descPMask = 0) (.exception excp0bNoseg (newCs &&& 0xfffc))
  return (e1, e2)

/-- The tests on the stack segment of an outer level. -/
def returnStack (env : SegState) (newSs rpl : Nat) : Except Stop (Nat × Nat) := do
  raiseIf (newSs &&& 0xfffc = 0) (.exception excp0dGpf 0)
  let gpf := Stop.exception excp0dGpf (newSs &&& 0xfffc)
  raiseIf (newSs &&& 3 ≠ rpl) gpf
  let (ssE1, ssE2) ← env.loadSegmentOr newSs excp0dGpf
  raiseIf (ssE2 &&& descSMask = 0 ∨ ssE2 &&& descCsMask ≠ 0 ∨ ssE2 &&& descWMask = 0) gpf
  raiseIf ((ssE2 >>> descDplShift) &&& 3 ≠ rpl) gpf
  raiseIf (ssE2 &&& descPMask = 0) (.exception excp0bNoseg (newSs &&& 0xfffc))
  return (ssE1, ssE2)

def validateSeg (env : SegState) (seg : SegReg) (cpl : Nat) : SegState :=
  if (seg = .fs ∨ seg = .gs) ∧ (env.selector seg).toNat &&& 0xfffc = 0 then env
  else
    let e2 := (env.segs seg).flags
    let dpl := (e2 >>> descDplShift) &&& 3
    if (e2 &&& descCsMask = 0 ∨ e2 &&& descCMask = 0) ∧ dpl < cpl then
      env.loadSegCache seg 0 0 0 0
    else env

/-- `cpu_load_eflags`. -/
def loadEflags (old new updateMask : UInt32) : UInt32 :=
  (old &&& ~~~(updateMask ||| flagsCcDf)) ||| (new &&& (updateMask ||| flagsCcDf)) ||| 0x2

/-- The flags that `iret` may change; `cpl` is the old one. -/
def eflagsMask (cpl : Nat) (eflags : UInt32) (shift : Nat) : UInt32 :=
  let mask := flagTf ||| flagAc ||| flagId ||| flagRf ||| flagNt
  let mask := if cpl = 0 then mask ||| flagIopl else mask
  let mask := if cpl ≤ ((eflags >>> 12) &&& 3).toNat then mask ||| flagIf else mask
  if shift = 0 then mask &&& 0xffff else mask

/-- The end of `helper_ret_protected`. -/
def finishReturn (env : SegState) (cpl shift : Nat) (isIret : Bool) (newEip newEflags : UInt32) :
    SegState :=
  let r := env.cpu.regs
  { env with cpu := { env.cpu with regs := { r with
      eip := newEip
      eflags := if isIret then loadEflags r.eflags newEflags (eflagsMask cpl r.eflags shift)
        else r.eflags } } }

def setCpl (env : SegState) (cpl : Nat) : SegState := { env with cpl := cpl }

def validateSegs (env : SegState) (cpl : Nat) : SegState :=
  [SegReg.es, .ds, .fs, .gs].foldl (fun env seg => env.validateSeg seg cpl) env

/-- The return to another level, from the popping of its stack pointer on. -/
def returnOutward (env : SegState) (s : StackTop) (shift : Nat) (isIret : Bool) (addend : UInt32)
    (newCs e1 e2 : Nat) (newEip newEflags : UInt32) : Except Stop SegState := do
  let rpl := newCs &&& 3
  let (newEsp, s) := s.pop shift
  let newSs := (s.pop shift).1.toNat &&& 0xffff
  let (ssE1, ssE2) ← env.returnStack newSs rpl
  let env' := env.loadSegCache .ss newSs (getSegBase ssE1 ssE2) (getSegLimit ssE1 ssE2) ssE2
  let env' := env'.loadSegCache .cs newCs (getSegBase e1 e2) (getSegLimit e1 e2) e2
  let env' := (env'.setCpl rpl).validateSegs rpl
  let env' := env'.setEsp (newEsp + addend) (getSpMask ssE2)
  return env'.finishReturn env.cpl shift isIret newEip newEflags

/-- `helper_ret_protected` once the return address and the flags have been popped. -/
def returnTo (env : SegState) (s : StackTop) (shift : Nat) (isIret : Bool) (addend : UInt32)
    (newCs : Nat) (newEip newEflags : UInt32) : Except Stop SegState := do
  let (e1, e2) ← env.returnSegment newCs
  let s := { s with sp := s.sp + addend }
  if newCs &&& 3 = env.cpl then
    let env' := env.loadSegCache .cs newCs (getSegBase e1 e2) (getSegLimit e1 e2) e2
    return (env'.setEsp s.sp s.spMask).finishReturn env.cpl shift isIret newEip newEflags
  else env.returnOutward s shift isIret addend newCs e1 e2 newEip newEflags

def helperRetProtected (env : SegState) (shift : Nat) (isIret : Bool) (addend : UInt32) :
    Except Stop SegState := do
  let s : StackTop :=
    ⟨env.cpu.mem, (env.segs .ss).base, getSpMask (env.segs .ss).flags, env.cpu.regs.esp⟩
  let (newEip, s) := s.pop shift
  let (newCs, s) := s.pop shift
  let (newEflags, s) := if isIret then s.pop shift else (0, s)
  raiseIf (shift = 1 ∧ isIret = true ∧ newEflags &&& flagVm ≠ 0) .vm86
  env.returnTo s shift isIret addend (newCs.toNat &&& 0xffff) newEip newEflags

/-- `helper_iret_protected`; with `NT` set it switches to the task that was left. -/
def helperIretProtected (env : SegState) (shift : Nat) : Except Stop SegState :=
  if env.cpu.regs.eflags &&& flagNt ≠ 0 then .error .taskSwitch
  else env.helperRetProtected shift true 0

/-- `helper_lret_protected`. -/
def helperLretProtected (env : SegState) (shift : Nat) (addend : UInt32) : Except Stop SegState :=
  env.helperRetProtected shift false addend

end SegState
end ShellcodeVM.TargetI386
