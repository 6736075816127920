import ShellcodeVM.Lib.Loop

/-!
The two loops that run a vCPU: the one in `main` (`main.cpp`) over `HAXM_CPU::run`, and
`VCpu_Exec` (`VirtualContext.cpp`) over `hax_vcpu_run`. Each pass makes one request
`HAX_VCPU_IOCTL_RUN` and takes its result. The reads of the registers in between,
which only print them, are left out.
-/
namespace ShellcodeVM
open Machine

/-! `exit_status` (`hax-interface.h`). -/

@[match_pattern] def haxExitIo : UInt32 := 1
@[match_pattern] def haxExitMmio : UInt32 := 2
@[match_pattern] def haxExitReal : UInt32 := 3
@[match_pattern] def haxExitInterrupt : UInt32 := 4
@[match_pattern] def haxExitUnknownVmexit : UInt32 := 5
@[match_pattern] def haxExitHlt : UInt32 := 6
@[match_pattern] def haxExitStatechange : UInt32 := 7
@[match_pattern] def haxExitPaused : UInt32 := 8
@[match_pattern] def haxExitFastMmio : UInt32 := 9

def exitStatuses : List UInt32 :=
  [haxExitIo, haxExitMmio, haxExitReal, haxExitInterrupt, haxExitUnknownVmexit, haxExitHlt,
    haxExitStatechange, haxExitPaused, haxExitFastMmio]

/-- What a request to run ends in: the answer of the driver, and `_exit_status` in
the tunnel afterwards. -/
structure RunResult where
  ok : Bool
  exitStatus : UInt32
deriving DecidableEq, Repr

/-! The loop in `main`. -/

/-- `HAXM_CPU::run`. -/
def Haxm.run (result : RunResult) : Int32 :=
  if result.ok = false then 0 else result.exitStatus.toInt32

/-- `exit_status` after the switch. -/
def mainSwitch (exitStatus : Int32) : Int32 :=
  match exitStatus.toUInt32 with
  | haxExitIo => exitStatus
  | haxExitMmio => exitStatus
  | haxExitFastMmio => exitStatus
  | haxExitReal => exitStatus
  | haxExitStatechange => exitStatus  -- the assignment of 0 is commented out
  | haxExitUnknownVmexit => 0
  | haxExitHlt => exitStatus
  | haxExitInterrupt => exitStatus
  | haxExitPaused => exitStatus
  | _ => 0

/-- One pass; the state is `exit_status`. -/
def mainPass (_ : Int32) (result : RunResult) : Int32 ⊕ Unit :=
  let exitStatus := mainSwitch (Haxm.run result)
  if 0 < exitStatus then .inl exitStatus else .inr ()

/-- Does `main` make request `n` when these are the results? -/
def MainRequests (results : Nat → RunResult) (n : Nat) : Prop :=
  Begins mainPass 0 results n

/-! `VCpu_Exec`. -/

def eintr : Int := 8
def eagain : Int := 9
def efault : Int := 2

def haxEmulOne : Int := 1
def haxEmulReal : Int := 2
def haxEmulExitloop : Int := 5

/-- `hax_vcpu_run`. -/
def Hax.haxVcpuRun (result : RunResult) : Int :=
  if result.ok = false then -efault else 0

/-- `ret` after the switch. -/
def vCpuExecSwitch (ret : Int) (exitStatus : UInt32) : Int :=
  match exitStatus with
  | haxExitIo => ret
  | haxExitMmio => haxEmulOne
  | haxExitFastMmio => ret
  | haxExitReal => haxEmulReal
  | haxExitStatechange => haxEmulExitloop
  | haxExitUnknownVmexit => haxEmulExitloop
  | haxExitHlt => ret
  | haxExitInterrupt => ret
  | haxExitPaused => ret
  | _ => haxEmulExitloop

/-- How `VCpu_Exec` ends. -/
inductive ExecEnd where
  | aborted
  | returned (ret : Int)
deriving DecidableEq, Repr

/-- `while (!ret)`. -/
def whileNotRet (ret : Int) : Int ⊕ ExecEnd :=
  if ret = 0 then .inl ret else .inr (.returned ret)

/-- One pass; the state is `ret`. -/
def vCpuExecPass (ret : Int) (result : RunResult) : Int ⊕ ExecEnd :=
  let haxResult := Hax.haxVcpuRun result
  if haxResult = -eintr ∨ haxResult = -eagain then whileNotRet ret
  else if haxResult < 0 then .inr .aborted
  else whileNotRet (vCpuExecSwitch ret result.exitStatus)

/-- Does `VCpu_Exec` make request `n` when these are the results? -/
def VCpuExecRequests (results : Nat → RunResult) (n : Nat) : Prop :=
  Begins vCpuExecPass 0 results n

/-! What the loops should do. -/

/-- The vCPU has shut down, or it is not known what happened to it. -/
def RunResult.ShutDown (result : RunResult) : Prop :=
  result.ok = true ∧ (result.exitStatus = haxExitStatechange ∨
    result.exitStatus = haxExitUnknownVmexit ∨ result.exitStatus ∉ exitStatuses)

/-- The exits after which the guest goes on. -/
def RunResult.GuestGoesOn (result : RunResult) : Prop :=
  result.ok = true ∧ result.exitStatus ∈
    [haxExitIo, haxExitFastMmio, haxExitHlt, haxExitInterrupt, haxExitPaused]

/-- No request follows a shutdown, and one follows an exit after which the guest goes on. -/
structure RespectsShutdown (Requests : Nat → Prop) (results : Nat → RunResult) : Prop where
  stops : ∀ n m, n < m → Requests n → (results n).ShutDown → ¬ Requests m
  goesOn : ∀ n, Requests n → (results n).GuestGoesOn → Requests (n + 1)

/-- The results that end the loop in `main`. -/
def RunResult.EndsMain (result : RunResult) : Prop :=
  result.ok = false ∨ result.exitStatus = haxExitUnknownVmexit ∨ result.exitStatus ∉ exitStatuses

/-! Every switch, status by status. -/

theorem mainSwitch_pos_iff (status : UInt32) :
    0 < mainSwitch status.toInt32 ↔
      status ∈ exitStatuses ∧ status ≠ haxExitUnknownVmexit := by
  rw [mainSwitch, UInt32.toUInt32_toInt32]
  split
  case h_10 h₁ h₂ h₃ h₄ h₅ h₆ h₇ h₈ h₉ =>
    refine ⟨fun h => absurd h (by decide), fun h => ?_⟩
    simp only [exitStatuses, List.mem_cons, List.not_mem_nil, or_false] at h
    tauto
  all_goals decide

theorem vCpuExecSwitch_eq_zero_iff (status : UInt32) :
    vCpuExecSwitch 0 status = 0 ↔ status ∈
      [haxExitIo, haxExitFastMmio, haxExitHlt, haxExitInterrupt, haxExitPaused] := by
  unfold vCpuExecSwitch
  split
  case h_10 h₁ h₂ h₃ h₄ h₅ h₆ h₇ h₈ h₉ =>
    refine ⟨fun h => absurd h (by decide), fun h => ?_⟩
    simp only [List.mem_cons, List.not_mem_nil, or_false] at h
    tauto
  all_goals decide

theorem mainPass_cases (exitStatus : Int32) (result : RunResult) :
    (¬ result.EndsMain ∧ ∃ next, mainPass exitStatus result = .inl next ∧ True) ∨
      (¬ ¬ result.EndsMain ∧ ∃ last, mainPass exitStatus result = .inr last) := by
  have hstatus := mainSwitch_pos_iff result.exitStatus
  cases hok : result.ok with
  | false =>
      have hrun : Haxm.run result = 0 := if_pos hok
      refine .inr ⟨not_not.mpr (.inl hok), (), ?_⟩
      rw [mainPass, hrun]
      rfl
  | true =>
      have hrun : Haxm.run result = result.exitStatus.toInt32 :=
        if_neg (by rw [hok]; decide)
      rw [mainPass, hrun, RunResult.EndsMain, hok]
      by_cases hpos : 0 < mainSwitch result.exitStatus.toInt32
      · left
        obtain ⟨hlisted, hknown⟩ := hstatus.mp hpos
        refine ⟨?_, _, if_pos hpos, trivial⟩
        rintro (h | h | h)
        · cases h
        · exact hknown h
        · exact h hlisted
      · right
        refine ⟨?_, (), if_neg hpos⟩
        intro hnot
        refine hpos (hstatus.mpr ⟨?_, ?_⟩)
        · exact not_not.mp fun h => hnot (.inr (.inr h))
        · exact fun h => hnot (.inr (.inl h))

theorem vCpuExecPass_cases (ret : Int) (result : RunResult) (hret : ret = 0) :
    (result.GuestGoesOn ∧ ∃ next, vCpuExecPass ret result = .inl next ∧ next = 0) ∨
      (¬ result.GuestGoesOn ∧ ∃ last, vCpuExecPass ret result = .inr last) := by
  have hstatus := vCpuExecSwitch_eq_zero_iff result.exitStatus
  rw [RunResult.GuestGoesOn, hret]
  cases hok : result.ok with
  | false =>
      have hrun : Hax.haxVcpuRun result = -efault := if_pos hok
      refine .inr ⟨fun h => (by cases h.1), .aborted, ?_⟩
      rw [vCpuExecPass, hrun]
      rfl
  | true =>
      have hrun : Hax.haxVcpuRun result = 0 := if_neg (by rw [hok]; decide)
      have hpass : vCpuExecPass 0 result = whileNotRet (vCpuExecSwitch 0 result.exitStatus) := by
        rw [vCpuExecPass, hrun]
        rfl
      rw [hpass]
      by_cases hzero : vCpuExecSwitch 0 result.exitStatus = 0
      · exact .inl ⟨⟨rfl, hstatus.mp hzero⟩, _, if_pos hzero, hzero⟩
      · exact .inr ⟨fun h => hzero (hstatus.mpr h.2), _, if_neg hzero⟩

/-! The loops over all results. -/

theorem mainRequests_iff (results : Nat → RunResult) (n : Nat) :
    MainRequests results n ↔ ∀ k, k < n → ¬ (results k).EndsMain :=
  begins_iff (I := fun _ => True) trivial (fun s a _ => mainPass_cases s a) results n

theorem vCpuExecRequests_iff (results : Nat → RunResult) (n : Nat) :
    VCpuExecRequests results n ↔ ∀ k, k < n → (results k).GuestGoesOn :=
  begins_iff (I := fun ret => ret = 0) rfl vCpuExecPass_cases results n

theorem RunResult.ShutDown.not_goesOn {result : RunResult} (h : result.ShutDown) :
    ¬ result.GuestGoesOn := by
  rintro ⟨-, hmem⟩
  rcases h.2 with heq | heq | hnot
  · rw [heq] at hmem
    exact absurd hmem (by decide)
  · rw [heq] at hmem
    exact absurd hmem (by decide)
  · refine hnot ?_
    simp only [exitStatuses, List.mem_cons, List.not_mem_nil, or_false] at hmem ⊢
    tauto

theorem RunResult.GuestGoesOn.not_endsMain {result : RunResult} (h : result.GuestGoesOn) :
    ¬ result.EndsMain := by
  rintro (hok | heq | hnot)
  · rw [h.1] at hok
    cases hok
  · have hmem := h.2
    rw [heq] at hmem
    exact absurd hmem (by decide)
  · refine hnot ?_
    have hmem := h.2
    simp only [exitStatuses, List.mem_cons, List.not_mem_nil, or_false] at hmem ⊢
    tauto

theorem vCpuExec_respectsShutdown (results : Nat → RunResult) :
    RespectsShutdown (VCpuExecRequests results) results where
  stops n m hlt _ hshut hreq :=
    hshut.not_goesOn ((vCpuExecRequests_iff results m).mp hreq n hlt)
  goesOn n hreq hgoes := by
    rw [vCpuExecRequests_iff] at hreq ⊢
    intro k hk
    rcases Nat.lt_succ_iff_lt_or_eq.mp hk with hlt | rfl
    · exact hreq k hlt
    · exact hgoes

/-- `VCpu_Exec` always respects a shutdown. The loop in `main` does exactly when a result
that ends it comes before any `HAX_EXIT_STATECHANGE`. -/
theorem respectsShutdown_iff (results : Nat → RunResult) :
    RespectsShutdown (VCpuExecRequests results) results ∧
      (RespectsShutdown (MainRequests results) results ↔
        ∀ n, (results n).ok = true → (results n).exitStatus = haxExitStatechange →
          ∃ k, k < n ∧ (results k).EndsMain) := by
  refine ⟨vCpuExec_respectsShutdown results, ?_, ?_⟩
  · intro h n hok hchange
    by_contra hnone
    push Not at hnone
    have hreq : MainRequests results n := (mainRequests_iff results n).mpr hnone
    have hmore : ¬ (results n).EndsMain := by
      rw [RunResult.EndsMain, hok, hchange]
      decide
    refine h.stops n (n + 1) (Nat.lt_succ_self n) hreq ⟨hok, .inl hchange⟩ ?_
    rw [mainRequests_iff]
    intro k hk
    rcases Nat.lt_succ_iff_lt_or_eq.mp hk with hlt | rfl
    · exact hnone k hlt
    · exact hmore
  · intro h
    refine ⟨?_, ?_⟩
    · intro n m hlt hreq hshut hlater
      rw [mainRequests_iff] at hreq hlater
      rcases hshut.2 with hchange | hunknown | hunlisted
      · obtain ⟨k, hk, hends⟩ := h n hshut.1 hchange
        exact hreq k hk hends
      · exact hlater n hlt (.inr (.inl hunknown))
      · exact hlater n hlt (.inr (.inr hunlisted))
    · intro n hreq hgoes
      rw [mainRequests_iff] at hreq ⊢
      intro k hk
      rcases Nat.lt_succ_iff_lt_or_eq.mp hk with hlt | rfl
      · exact hreq k hlt
      · exact hgoes.not_endsMain

/-- A guest that shuts down in every pass is run again by `main`. -/
theorem shutdown_runAgain :
    ¬ ∀ results : Nat → RunResult, RespectsShutdown (VCpuExecRequests results) results ∧
      RespectsShutdown (MainRequests results) results := by
  intro hall
  have hstops := (hall fun _ => ⟨true, haxExitStatechange⟩).2.stops 0 1 (by decide) rfl
    ⟨rfl, .inl rfl⟩
  exact hstops rfl

end ShellcodeVM
