import ShellcodeVM.TargetI386.MmuFault
import ShellcodeVM.TargetI386.SegLevels

/-!
Exceptions of exceptions (`target-i386/excp_helper.c`, and `do_interrupt` of `seg_helper.c`):
a delivery that fails raises an exception of its own, `check_exception` makes double faults
of these, and the processor is reset when a double fault cannot be delivered either. Which
deliveries page-fault is a parameter. SVM is left out.
-/
namespace ShellcodeVM.TargetI386
open Machine SegState

def excp08Dble : Nat := 8

/-- The exceptions that the architecture calls contributory. -/
def Contributory (intno : Nat) : Prop := intno = 0 ∨ 10 ≤ intno ∧ intno ≤ 13

instance (intno : Nat) : Decidable (Contributory intno) := inferInstanceAs (Decidable (_ ∨ _))

/-- `check_exception`, for an `old_exception` that is `none` where the source has -1: the new
number, error code and `old_exception`, or `none` for the reset after a triple fault. -/
def checkException (oldException : Option Nat) (intno : Nat) (errorCode : UInt32) :
    Option (Nat × UInt32 × Option Nat) :=
  if oldException = some excp08Dble then none
  else
    let doubles := (oldException.any (Contributory ·) ∧ Contributory intno) ∨
      oldException = some excp0ePage ∧ (Contributory intno ∨ intno = excp0ePage)
    let newIntno := if doubles then excp08Dble else intno
    let errorCode := if doubles then 0 else errorCode
    if Contributory intno ∨ newIntno = excp0ePage ∨ newIntno = excp08Dble then
      some (newIntno, errorCode, some newIntno)
    else some (newIntno, errorCode, oldException)

example : checkException (some excp0ePage) 13 2 = some (excp08Dble, 0, some excp08Dble) := by
  decide

/-- What `raise_interrupt` leaves for `do_interrupt`. -/
structure Pending where
  exceptionIndex : Nat
  exceptionIsInt : Bool
  errorCode : UInt32
  exceptionNextEip : UInt32
deriving DecidableEq, Repr

/-- How an exception ends. -/
inductive Delivery where
  | entered (env : SegState)
  | reset
  | stopped (stop : Stop)

namespace SegState

/-- `raise_interrupt`; `none` stands for the reset. -/
def raiseInterrupt (env : SegState) (oldException : Option Nat) (intno : Nat) (isInt : Bool)
    (errorCode nextEipAddend : UInt32) : Option (Pending × Option Nat) :=
  if isInt then
    some (⟨intno, true, errorCode, env.cpu.regs.eip + nextEipAddend⟩, oldException)
  else
    (checkException oldException intno errorCode).map fun (intno, errorCode, oldException) =>
      (⟨intno, false, errorCode, env.cpu.regs.eip + nextEipAddend⟩, oldException)

/-- Whether an access of a delivery page-faults: the error code, and the memory that the
accesses before it leave. The registers are stored after the last access. -/
abbrev PageFaults := SegState → Pending → Option (UInt32 × Memory32)

/-- Tables and stacks that are mapped. -/
def mapped : PageFaults := fun _ _ => none

@[simp] theorem setMem_self (env : SegState) : env.setMem env.cpu.mem = env := rfl

/-- `do_interrupt` once: the processor that is left when it raises, and how it ends. -/
def attempt (env : SegState) (faults : PageFaults) (pending : Pending) :
    SegState × Except Stop SegState :=
  match faults env pending with
  | some (errorCode, mem) => (env.setMem mem, .error (.exception excp0ePage errorCode.toNat))
  | none => (env, env.doInterruptProtected pending.exceptionIndex pending.exceptionIsInt
      pending.errorCode pending.exceptionNextEip false)

/-- `do_interrupt`, again and again for the exceptions that it raises itself. -/
def deliver (faults : PageFaults) (env : SegState) : Nat → Option Nat → Pending → Option Delivery
  | 0, _, _ => none
  | attempts + 1, oldException, pending =>
      match env.attempt faults pending with
      | (_, .ok env') => some (.entered env')
      | (env, .error (.exception intno errorCode)) =>
          match env.raiseInterrupt oldException intno false (UInt32.ofNat errorCode) 0 with
          | none => some .reset
          | some (pending, oldException) => deliver faults env attempts oldException pending
      | (_, .error stop) => some (.stopped stop)

/-- An instruction raises an exception, or is an `INT`. -/
def raise (env : SegState) (faults : PageFaults) (attempts intno : Nat) (isInt : Bool)
    (errorCode nextEipAddend : UInt32) : Option Delivery :=
  match env.raiseInterrupt none intno isInt errorCode nextEipAddend with
  | none => some .reset
  | some (pending, oldException) => deliver faults env attempts oldException pending

end SegState

/-! ### What a delivery may raise -/

/-- A failed delivery raises a contributory exception; it returns to nothing. -/
def Stop.OfDelivery : Stop → Prop
  | .exception intno _ => Contributory intno
  | .vm86 => False
  | _ => True

def RaisesContributory {α : Type} (m : Except Stop α) : Prop :=
  ∀ stop, m = .error stop → stop.OfDelivery

section
variable {α β : Type}

@[simp] theorem raisesContributory_ok (a : α) : RaisesContributory (.ok a : Except Stop α) :=
  fun _ h => (nomatch h)

@[simp] theorem raisesContributory_pure (a : α) : RaisesContributory (pure a : Except Stop α) :=
  fun _ h => (nomatch h)

@[simp] theorem raisesContributory_error (e : Stop) :
    RaisesContributory (.error e : Except Stop α) ↔ e.OfDelivery :=
  ⟨fun h => h e rfl, fun h _ heq => by cases heq; exact h⟩

theorem RaisesContributory.raiseIf {c : Prop} [Decidable c] {e : Stop} (h : e.OfDelivery) :
    RaisesContributory (raiseIf c e) := by
  rw [TargetI386.raiseIf]
  split_ifs <;> simp [h]

theorem RaisesContributory.bind {m : Except Stop α} {f : α → Except Stop β}
    (hm : RaisesContributory m) (hf : ∀ a, RaisesContributory (f a)) :
    RaisesContributory (m >>= f) := by
  cases m with
  | error e => exact fun stop h => by cases h; exact hm e rfl
  | ok a => exact hf a

/-- A test in front of the rest. -/
theorem RaisesContributory.test {c : Prop} [Decidable c] {e : Stop} {f : Unit → Except Stop β}
    (he : e.OfDelivery) (hf : RaisesContributory (f ())) :
    RaisesContributory (TargetI386.raiseIf c e >>= f) :=
  (RaisesContributory.raiseIf he).bind fun _ => hf

end

@[simp] theorem ofDelivery_gpf (code : Nat) : (Stop.exception excp0dGpf code).OfDelivery :=
  .inr (by decide)

@[simp] theorem ofDelivery_noseg (code : Nat) : (Stop.exception excp0bNoseg code).OfDelivery :=
  .inr (by decide)

@[simp] theorem ofDelivery_tss (code : Nat) : (Stop.exception excp0aTss code).OfDelivery :=
  .inr (by decide)

section
variable (env : SegState)

theorem loadSegmentOr_raises (selector : Nat) {excp : Nat} (h : Contributory excp) :
    RaisesContributory (env.loadSegmentOr selector excp) := by
  rw [loadSegmentOr]
  split <;> simp [Stop.OfDelivery, h]

theorem interruptGate_raises (intno : Nat) (isInt : Bool) :
    RaisesContributory (env.interruptGate intno isInt) := by
  refine .test (ofDelivery_gpf _) (.test (ofDelivery_noseg _) (.test trivial ?_))
  refine .test (ofDelivery_gpf _) (.test (ofDelivery_gpf _) (.test (ofDelivery_noseg _) ?_))
  exact .test (ofDelivery_gpf _) (raisesContributory_pure _)

theorem handlerSegment_raises (selector : Nat) :
    RaisesContributory (env.handlerSegment selector) := by
  refine (loadSegmentOr_raises env selector (.inr (by decide))).bind fun _ => ?_
  refine .test (ofDelivery_gpf _) (.test (ofDelivery_gpf _) ?_)
  exact .test (ofDelivery_noseg _) (raisesContributory_pure _)

theorem getSsEspFromTss_raises (dpl : Nat) : RaisesContributory (env.getSsEspFromTss dpl) := by
  refine .test trivial (.test trivial (.test (ofDelivery_tss _) ?_))
  split_ifs <;> exact raisesContributory_pure _

theorem handlerStack_raises (selector e2 : Nat) :
    RaisesContributory (env.handlerStack selector e2) := by
  rw [handlerStack]
  split_ifs
  · refine (getSsEspFromTss_raises env _).bind fun _ => ?_
    refine .test (ofDelivery_tss _) (.test (ofDelivery_tss _) ?_)
    refine (loadSegmentOr_raises env _ (.inr (by decide))).bind fun _ => ?_
    refine .test (ofDelivery_tss _) (.test (ofDelivery_tss _) ?_)
    exact .test (ofDelivery_tss _) (raisesContributory_pure _)
  · exact .test (ofDelivery_gpf _) (raisesContributory_pure _)
  · exact (raisesContributory_error _).mpr (ofDelivery_gpf _)

theorem doInterruptProtected_raises (intno : Nat) (isInt : Bool) (errorCode nextEip : UInt32)
    (isHw : Bool) :
    RaisesContributory (env.doInterruptProtected intno isInt errorCode nextEip isHw) := by
  refine (interruptGate_raises env intno isInt).bind fun gate => ?_
  refine (handlerSegment_raises env gate.selector).bind fun e => ?_
  exact (handlerStack_raises env gate.selector e.2).bind fun _ => raisesContributory_pure _

end

/-! ### The end of a chain of exceptions -/

/-- The exceptions of a delivery. -/
def OfAttempt (intno : Nat) : Prop := Contributory intno ∨ intno = excp0ePage

/-- An attempt changes nothing but memory when it raises an exception, and it raises one of
these. -/
theorem attempt_raises {env left : SegState} {faults : PageFaults} {pending : Pending} {stop : Stop}
    (h : env.attempt faults pending = (left, .error stop)) :
    (∃ mem, left = env.setMem mem) ∧
      ((∃ intno code, stop = .exception intno code ∧ OfAttempt intno) ∨ stop = .abort ∨
        stop = .taskSwitch) := by
  rw [attempt] at h
  cases hfault : faults env pending with
  | some fault =>
      obtain ⟨code, mem⟩ := fault
      rw [hfault] at h
      obtain ⟨rfl, hstop⟩ := Prod.mk.inj h
      cases hstop
      exact ⟨⟨mem, rfl⟩, .inl ⟨_, _, rfl, .inr rfl⟩⟩
  | none =>
      rw [hfault] at h
      obtain ⟨rfl, hstop⟩ := Prod.mk.inj h
      refine ⟨⟨env.cpu.mem, rfl⟩, ?_⟩
      have hraises := doInterruptProtected_raises env _ _ _ _ _ _ hstop
      cases stop with
      | exception intno code => exact .inl ⟨intno, code, rfl, .inl hraises⟩
      | abort => exact .inr (.inl rfl)
      | taskSwitch => exact .inr (.inr rfl)
      | vm86 => exact absurd hraises id

/-- A handler that an attempt enters. -/
theorem attempt_enters {env left env' : SegState} {faults : PageFaults} {pending : Pending}
    (h : env.attempt faults pending = (left, .ok env')) :
    env.doInterruptProtected pending.exceptionIndex pending.exceptionIsInt pending.errorCode
      pending.exceptionNextEip false = .ok env' := by
  rw [attempt] at h
  cases hfault : faults env pending with
  | some fault =>
      rw [hfault] at h
      cases (Prod.mk.inj h).2
  | none =>
      rw [hfault] at h
      exact (Prod.mk.inj h).2

/-- How many deliveries there may be. -/
def attemptsLeft (oldException : Option Nat) : Nat :=
  if oldException = some excp08Dble then 1
  else if oldException = some excp0ePage then 2
  else if oldException.any (Contributory ·) then 3
  else 4

theorem attemptsLeft_noted {intno : Nat} (h : OfAttempt intno) : attemptsLeft (some intno) ≤ 3 := by
  rw [attemptsLeft]
  split_ifs with hdouble hpage hcontributory
  · decide
  · decide
  · decide
  · refine absurd ?_ hcontributory
    have : intno ≠ excp0ePage := fun heq => hpage (congrArg some heq)
    simpa using h.resolve_right this

/-- An exception that follows another leaves fewer deliveries. -/
theorem checkException_ofAttempt {intno : Nat} (h : OfAttempt intno) (oldException : Option Nat)
    (errorCode : UInt32) :
    (checkException oldException intno errorCode = none ∧
      oldException = some excp08Dble) ∨
    ∃ intno' errorCode' oldException',
      checkException oldException intno errorCode = some (intno', errorCode', oldException') ∧
        attemptsLeft oldException' < attemptsLeft oldException ∧
        (oldException' = some excp08Dble → intno' = excp08Dble) := by
  have hne : intno ≠ excp08Dble := by
    rw [OfAttempt, Contributory, excp0ePage] at h
    rw [excp08Dble]
    omega
  by_cases hdouble : oldException = some excp08Dble
  · exact .inl ⟨if_pos hdouble, hdouble⟩
  · right
    by_cases hdoubles : (oldException.any (Contributory ·) ∧ Contributory intno) ∨
        oldException = some excp0ePage ∧ (Contributory intno ∨ intno = excp0ePage)
    · refine ⟨excp08Dble, 0, some excp08Dble, ?_, ?_, fun _ => rfl⟩
      · simp only [checkException, if_neg hdouble, if_pos hdoubles, or_true, if_true]
      · have hone : attemptsLeft (some excp08Dble) = 1 := by decide
        rw [hone, attemptsLeft, if_neg hdouble]
        obtain ⟨hold, -⟩ | ⟨hold, -⟩ := hdoubles
        · split_ifs <;> decide
        · rw [if_pos hold]
          decide
    · have hfirst : Contributory intno ∨ intno = excp0ePage ∨ intno = excp08Dble :=
        h.imp_right .inl
      refine ⟨intno, errorCode, some intno, ?_, ?_, fun heq => absurd (Option.some.inj heq) hne⟩
      · simp only [checkException, if_neg hdouble, if_neg hdoubles, if_pos hfirst]
      · -- after a page fault every exception doubles, after a contributory one a page fault does not
        have hpage : oldException ≠ some excp0ePage := fun heq => hdoubles (.inr ⟨heq, h⟩)
        rw [attemptsLeft.eq_def oldException, if_neg hdouble, if_neg hpage]
        split_ifs with hcontributory
        · have hintno : intno = excp0ePage :=
            h.resolve_left fun hnew => hdoubles (.inl ⟨hcontributory, hnew⟩)
          rw [hintno]
          decide
        · exact Nat.lt_succ_of_le (attemptsLeft_noted h)

/-- The end of a chain, for the state that it began in. -/
def Delivery.Sound (faults : PageFaults) (env : SegState) : Delivery → Prop
  | .entered env' => Levels env → Levels env' ∧ env'.cpl ≤ env.cpl
  | .reset => ∃ mem pending intno code, pending.exceptionIndex = excp08Dble ∧
      pending.exceptionIsInt = false ∧
      ((env.setMem mem).attempt faults pending).2 = .error (.exception intno code)
  | .stopped stop => stop = .abort ∨ stop = .taskSwitch

/-- What is pending is the double fault that has been noted. -/
def Pending.Noted (pending : Pending) (oldException : Option Nat) : Prop :=
  oldException = some excp08Dble →
    pending.exceptionIndex = excp08Dble ∧ pending.exceptionIsInt = false

theorem deliver_ends (faults : PageFaults) (env : SegState) (mem : Memory32) {attempts : Nat}
    {oldException : Option Nat} {pending : Pending} (hnoted : pending.Noted oldException)
    (hattempts : attemptsLeft oldException ≤ attempts) :
    ∃ r, deliver faults (env.setMem mem) attempts oldException pending = some r ∧
      r.Sound faults env := by
  induction attempts generalizing mem oldException pending with
  | zero =>
      have hpos : 0 < attemptsLeft oldException := by
        rw [attemptsLeft]
        split_ifs <;> decide
      omega
  | succ attempts ih =>
      rw [deliver]
      rcases hattempt : (env.setMem mem).attempt faults pending with ⟨left, ended⟩
      cases ended with
      | ok env' =>
          refine ⟨.entered env', rfl, fun h => ?_⟩
          have hlevels : Levels (env.setMem mem) :=
            ⟨h.cpl_le, h.cs, h.ss, h.code, h.stack, h.vm, h.data, h.null⟩
          exact hlevels.interrupt (attempt_enters hattempt)
      | error stop =>
          obtain ⟨⟨mem', rfl⟩, ⟨intno, code, rfl, hof⟩ | rfl | rfl⟩ := attempt_raises hattempt
          · obtain ⟨hnone, hold⟩ | ⟨intno', code', old', hsome, hfewer, hdouble⟩ :=
              checkException_ofAttempt hof oldException (UInt32.ofNat code)
            · obtain ⟨hindex, hint⟩ := hnoted hold
              refine ⟨.reset, ?_, mem, pending, intno, code, hindex, hint, ?_⟩
              · simp [raiseInterrupt, hnone]
              · rw [hattempt]
            · have hnext : (⟨intno', false, code', env.cpu.regs.eip + 0⟩ : Pending).Noted old' :=
                fun heq => ⟨hdouble heq, rfl⟩
              obtain ⟨r, hr, hsound⟩ := ih mem' hnext (by omega)
              refine ⟨r, ?_, hsound⟩
              have heip : ((env.setMem mem).setMem mem').cpu.regs.eip = env.cpu.regs.eip := rfl
              simp only [raiseInterrupt, Bool.false_eq_true, if_false, hsome, Option.map_some, heip]
              exact hr
          · exact ⟨.stopped .abort, rfl, .inl rfl⟩
          · exact ⟨.stopped .taskSwitch, rfl, .inr rfl⟩

/-- The first exception is noted. -/
theorem checkException_first (intno : Nat) (errorCode : UInt32) :
    ∃ oldException, checkException none intno errorCode = some (intno, errorCode, oldException) ∧
      (oldException = some excp08Dble → intno = excp08Dble) := by
  have hsingle : ¬ (((none : Option Nat).any (Contributory ·) ∧ Contributory intno) ∨
      none = some excp0ePage ∧ (Contributory intno ∨ intno = excp0ePage)) := by simp
  rw [checkException, if_neg (by simp)]
  simp only [if_neg hsingle]
  split_ifs
  · exact ⟨some intno, rfl, Option.some.inj⟩
  · exact ⟨none, rfl, fun h => (nomatch h)⟩

end ShellcodeVM.TargetI386
