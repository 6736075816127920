import ShellcodeVM.Haxm.Objects

/-!
Ownership of handles in `HAXM` over runs of its calls. A handle is open exactly
while an object of the tree below the `HAXM` stores it; closing an owner closes
first what is below it.
-/
namespace ShellcodeVM.Haxm
open Machine

def handlesOf (h : Handle) : List Handle :=
  if h = invalidHandleValue then [] else [h]

def HaxmCpuObject.handles (cpu : HaxmCpuObject) : List Handle :=
  handlesOf cpu.mHCpu

/-- The handles below a `HAXM_VM`, in the order in which they are closed. -/
def HaxmVm.handles (vm : HaxmVm) : List Handle :=
  (vm.mCpuList.flatMap fun entry => entry.2.handles) ++ handlesOf vm.mHVm

def HaxmDevice.handles (haxm : HaxmDevice) : List Handle :=
  (haxm.mVmList.flatMap fun entry => entry.2.handles) ++ handlesOf haxm.mHDevice

/-- A closed VM has no vCPU, and the ids of vCPUs are below their number. -/
structure HaxmVm.WellFormed (vm : HaxmVm) : Prop where
  closed : vm.mHVm = invalidHandleValue → vm.mCpuList = []
  ids : ∀ entry ∈ vm.mCpuList, entry.1 < vm.mCpuList.length

/-- A closed device has no VM. -/
structure HaxmDevice.WellFormed (haxm : HaxmDevice) : Prop where
  closed : haxm.mHDevice = invalidHandleValue → haxm.mVmList = []
  vms : ∀ entry ∈ haxm.mVmList, entry.2.WellFormed

/-- The object and the handles of the process. -/
structure Process where
  haxm : HaxmDevice
  ledger : Ledger Handle
deriving DecidableEq

def Process.after (s : Process) (haxm : HaxmDevice) (calls : List SystemCall) : Process where
  haxm := haxm
  ledger := s.ledger.recordAll (handleEvents calls)

/-- One call. The system opens no handle that is open already, a request on an invalid
handle fails and the driver gives a new VM an id that no VM has. A `HAXM_VM` is one of
those that the `HAXM` keeps; `renew` destroys the `HAXM` and constructs another. -/
inductive HaxmStep (closeHandle : Handle → Bool) : Process → Process → Prop where
  | openDevice {s : Process} {h : Handle}
      (hfresh : s.ledger.Fresh (handleEvents (s.haxm.openDevice h).2.2)) :
      HaxmStep closeHandle s (s.after (s.haxm.openDevice h).2.1 (s.haxm.openDevice h).2.2)
  | createVm {s : Process} {o : VmOutcome}
      (hioctl : s.haxm.mHDevice = invalidHandleValue → o.createVm = none)
      (hid : ∀ vmid, o.createVm = some vmid → ∀ entry ∈ s.haxm.mVmList, entry.1 ≠ vmid)
      (hfresh : s.ledger.Fresh (handleEvents (s.haxm.createVm closeHandle o).2.2)) :
      HaxmStep closeHandle s
        (s.after (s.haxm.createVm closeHandle o).2.1 (s.haxm.createVm closeHandle o).2.2)
  | createCpu {s : Process} {before after : List (Int × HaxmVm)} {vmid : Int} {vm : HaxmVm}
      {o : CpuOutcome} (hvm : s.haxm.mVmList = before ++ (vmid, vm) :: after)
      (hioctl : vm.mHVm = invalidHandleValue → o.vcpuCreate = false)
      (hfresh : s.ledger.Fresh (handleEvents (vm.createCpu closeHandle o).2.2)) :
      HaxmStep closeHandle s
        (s.after { s.haxm with
            mVmList := before ++ (vmid, (vm.createCpu closeHandle o).2.1) :: after }
          (vm.createCpu closeHandle o).2.2)
  | closeVm {s : Process} {before after : List (Int × HaxmVm)} {vmid : Int} {vm : HaxmVm}
      (hvm : s.haxm.mVmList = before ++ (vmid, vm) :: after) :
      HaxmStep closeHandle s
        (s.after { s.haxm with mVmList := before ++ (vmid, (vm.closeVm closeHandle).2.1) :: after }
          (vm.closeVm closeHandle).2.2)
  | closeDevice {s : Process} :
      HaxmStep closeHandle s
        (s.after (s.haxm.closeDevice closeHandle).2.1 (s.haxm.closeDevice closeHandle).2.2)
  | renew {s : Process} :
      HaxmStep closeHandle s (s.after .new (s.haxm.delete closeHandle))

/-- Runs from the construction of a `HAXM`. -/
inductive HaxmRun (closeHandle : Handle → Bool) : Process → Prop where
  | start : HaxmRun closeHandle ⟨.new, Ledger.empty⟩
  | step {s s' : Process} (h : HaxmRun closeHandle s) (hstep : HaxmStep closeHandle s s') :
      HaxmRun closeHandle s'

/-! What the calls do to handles. -/

theorem handleEvents_append (calls calls' : List SystemCall) :
    handleEvents (calls ++ calls') = handleEvents calls ++ handleEvents calls' :=
  List.filterMap_append

theorem handleEvents_createFile (name : DeviceName) (h : Handle) (calls : List SystemCall) :
    handleEvents (.createFile name h :: calls) =
      (handlesOf h).map .opened ++ handleEvents calls := by
  rw [handlesOf]
  by_cases hh : h = invalidHandleValue
  · rw [if_pos hh]
    exact List.filterMap_cons_none (if_pos hh)
  · rw [if_neg hh]
    exact List.filterMap_cons_some (if_neg hh)

theorem handleEvents_ioctl (h : Handle) (code : IoctlCode) (ok : Bool) (calls : List SystemCall) :
    handleEvents (.deviceIoControl h code ok :: calls) = handleEvents calls :=
  rfl

theorem handleEvents_closeHandle (h : Handle) :
    handleEvents [.closeHandle h true] = [.closed h] :=
  rfl

theorem handleEvents_flatMap {α : Type} (entries : List α) (calls : α → List SystemCall)
    (handles : α → List Handle)
    (h : ∀ entry ∈ entries, handleEvents (calls entry) = (handles entry).map .closed) :
    handleEvents (entries.flatMap calls) = (entries.flatMap handles).map .closed := by
  induction entries with
  | nil => rfl
  | cons entry entries ih =>
      rw [List.flatMap_cons, List.flatMap_cons, handleEvents_append, List.map_append,
        h entry (List.mem_cons_self ..), ih fun e he => h e (List.mem_cons_of_mem _ he)]

theorem setupAndGet_spec (cpu : HaxmCpuObject) (o : CpuOutcome) :
    (cpu.setupAndGet o).2.1.mHCpu = cpu.mHCpu ∧ handleEvents (cpu.setupAndGet o).2.2 = [] := by
  rw [HaxmCpuObject.setupAndGet]
  cases o.setupTunnel with
  | none => exact ⟨rfl, rfl⟩
  | some info =>
      by_cases hsize : info.size.toNat < Hax.haxTunnelSize
      · simp only [HaxmCpuObject.setupChannel, if_pos hsize]
        exact ⟨rfl, rfl⟩
      · simp only [HaxmCpuObject.setupChannel, if_neg hsize, HaxmCpuObject.getCpuState]
        cases o.getRegs with
        | none => exact ⟨rfl, rfl⟩
        | some state => exact ⟨rfl, rfl⟩

/-- Whether or not `HAXM_CPU::open` succeeds, the object stores the handle it opened. -/
theorem openCpu_spec (cpu : HaxmCpuObject) (o : CpuOutcome) :
    (cpu.openCpu o).2.1.mHCpu = o.createFile ∧
      handleEvents (cpu.openCpu o).2.2 = (handlesOf o.createFile).map .opened := by
  rw [HaxmCpuObject.openCpu]
  by_cases hh : o.createFile = invalidHandleValue
  · rw [if_pos hh, handleEvents_createFile]
    exact ⟨rfl, List.append_nil _⟩
  · rw [if_neg hh]
    obtain ⟨hsame, hevents⟩ := setupAndGet_spec { cpu with mHCpu := o.createFile } o
    simp only [handleEvents_createFile, hevents, List.append_nil]
    exact ⟨hsame, trivial⟩

section Closing

variable {closeHandle : Handle → Bool} (hclose : ∀ h, closeHandle h = true)
include hclose

theorem deleteCpu_events (cpu : HaxmCpuObject) :
    handleEvents (cpu.delete closeHandle) = cpu.handles.map .closed := by
  rw [HaxmCpuObject.delete, HaxmCpuObject.close, HaxmCpuObject.handles, handlesOf, hclose]
  by_cases hh : cpu.mHCpu = invalidHandleValue
  · rw [if_pos hh, if_pos hh]
    rfl
  · rw [if_neg hh, if_neg hh]
    rfl

/-- `HAXM_VM::close_vm` closes all handles below the VM and leaves it empty. -/
theorem closeVm_spec {vm : HaxmVm} (hwf : vm.WellFormed) :
    (vm.closeVm closeHandle).2.1 = { vm with mHVm := invalidHandleValue, mCpuList := [] } ∧
      handleEvents (vm.closeVm closeHandle).2.2 = vm.handles.map .closed := by
  simp only [HaxmVm.closeVm, HaxmVm.handles, handlesOf, hclose, Bool.true_eq_false, if_false]
  by_cases hh : vm.mHVm = invalidHandleValue
  · rw [if_pos hh, if_pos hh, hwf.closed hh]
    refine ⟨?_, rfl⟩
    rw [← hh, ← hwf.closed hh]
  · rw [if_neg hh, if_neg hh]
    refine ⟨rfl, ?_⟩
    have hcpus := handleEvents_flatMap vm.mCpuList (fun entry => entry.2.delete closeHandle)
      (fun entry => entry.2.handles) fun entry _ => deleteCpu_events hclose entry.2
    rw [handleEvents_append, hcpus, handleEvents_closeHandle, List.map_append]
    rfl

/-- `HAXM::close_device` closes all handles below the device and leaves it as new. -/
theorem closeDevice_spec {haxm : HaxmDevice} (hwf : haxm.WellFormed) :
    (haxm.closeDevice closeHandle).2.1 = .new ∧
      handleEvents (haxm.closeDevice closeHandle).2.2 = haxm.handles.map .closed := by
  simp only [HaxmDevice.closeDevice, HaxmDevice.handles, handlesOf, hclose, Bool.true_eq_false,
    if_false]
  by_cases hh : haxm.mHDevice = invalidHandleValue
  · rw [if_pos hh, if_pos hh, hwf.closed hh]
    refine ⟨?_, rfl⟩
    rw [HaxmDevice.new, ← hh, ← hwf.closed hh]
  · rw [if_neg hh, if_neg hh]
    refine ⟨rfl, ?_⟩
    have hvms := handleEvents_flatMap haxm.mVmList (fun entry => entry.2.delete closeHandle)
      (fun entry => entry.2.handles)
      fun entry hentry => (closeVm_spec hclose (hwf.vms entry hentry)).2
    rw [handleEvents_append, hvms, handleEvents_closeHandle, List.map_append]
    rfl

/-- `HAXM_VM::create_cpu` keeps the new vCPU with the handle it opened, or deletes it. -/
theorem createCpu_cases (vm : HaxmVm) (o : CpuOutcome) :
    (∃ vcpu calls, vm.createCpu closeHandle o = (some vcpu,
        { vm with mCpuList := assign (vm.mCpuList.length : Int) vcpu vm.mCpuList }, calls) ∧
      handleEvents calls = vcpu.handles.map .opened ∧ o.vcpuCreate = true) ∨
    (∃ (calls : List SystemCall) (handles : List Handle),
      vm.createCpu closeHandle o = (none, vm, calls) ∧
      handleEvents calls = handles.map .opened ++ handles.map .closed) := by
  rw [HaxmVm.createCpu]
  cases o.vcpuCreate with
  | false => exact .inr ⟨_, [], rfl, rfl⟩
  | true =>
      obtain ⟨hsame, hevents⟩ := openCpu_spec
        (.new vm.mVmid (UInt32.ofInt (vm.mCpuList.length : Int))) o
      generalize HaxmCpuObject.openCpu (.new vm.mVmid (UInt32.ofInt (vm.mCpuList.length : Int))) o =
        answer at hsame hevents ⊢
      obtain ⟨ok, vcpu, calls⟩ := answer
      have hhandles : vcpu.handles = handlesOf o.createFile := congrArg handlesOf hsame
      rw [← hhandles] at hevents
      cases ok with
      | false =>
          refine .inr ⟨_, vcpu.handles, rfl, ?_⟩
          rw [List.cons_append, handleEvents_ioctl, handleEvents_append, hevents,
            deleteCpu_events hclose]
      | true =>
          refine .inl ⟨vcpu, _, rfl, ?_, rfl⟩
          rw [handleEvents_ioctl, hevents]

/-- `HAXM::create_vm` keeps the new VM with the handle it opened, or opens none. -/
theorem createVm_cases (haxm : HaxmDevice) (o : VmOutcome) :
    (∃ vmid vm calls, haxm.createVm closeHandle o =
        (some vm, { haxm with mVmList := assign vmid vm haxm.mVmList }, calls) ∧
      vm.WellFormed ∧ handleEvents calls = vm.handles.map .opened ∧ o.createVm = some vmid) ∨
    (∃ calls, haxm.createVm closeHandle o = (none, haxm, calls) ∧ handleEvents calls = []) := by
  rw [HaxmDevice.createVm]
  cases o.createVm with
  | none => exact .inr ⟨_, rfl, rfl⟩
  | some vmid =>
      by_cases hh : o.createFile = invalidHandleValue
      · right
        have hvm : (HaxmVm.mk (UInt32.ofInt vmid) o.createFile []).WellFormed :=
          ⟨fun _ => rfl, fun _ hmem => absurd hmem List.not_mem_nil⟩
        have hdelete := (closeVm_spec hclose hvm).2
        simp only [HaxmVm.openVm, hh, HaxmVm.new, HaxmVm.delete, ne_eq, not_true_eq_false,
          decide_false, if_true] at hdelete ⊢
        refine ⟨_, rfl, ?_⟩
        rw [handleEvents_append, hdelete]
        rfl
      · left
        simp only [HaxmVm.openVm, ne_eq, hh, not_false_eq_true, decide_true, Bool.true_eq_false, if_false]
        refine ⟨vmid, _, _, rfl, ⟨fun hinvalid => absurd hinvalid hh, fun _ hmem => ?_⟩, ?_, rfl⟩
        · exact absurd hmem List.not_mem_nil
        · rw [handleEvents_ioctl, handleEvents_createFile]
          exact List.append_nil _

end Closing

/-! The invariant. -/

/-- The open handles are those stored in the tree of objects. -/
structure Owned (s : Process) : Prop where
  owns : s.ledger.Owns s.haxm.handles
  wellFormed : s.haxm.WellFormed

theorem owned_start : Owned ⟨.new, Ledger.empty⟩ where
  owns := Ledger.owns_empty
  wellFormed := ⟨fun _ => rfl, fun _ hmem => absurd hmem List.not_mem_nil⟩

/-- The handles of one VM in front of the others. -/
theorem vmHandles_perm (before : List (Int × HaxmVm)) (entry : Int × HaxmVm)
    (after : List (Int × HaxmVm)) (device : List Handle) :
    (((before ++ entry :: after).flatMap fun e => e.2.handles) ++ device).Perm
      (entry.2.handles ++ (((before ++ after).flatMap fun e => e.2.handles) ++ device)) := by
  have hperm : (before ++ entry :: after).Perm (entry :: (before ++ after)) := List.perm_middle
  have hflat := hperm.flatMap_right fun e => e.2.handles
  rw [List.flatMap_cons] at hflat
  rw [← List.append_assoc]
  exact hflat.append_right device

section Steps

variable {s : Process} (h : Owned s)
include h

/-- A VM of the `HAXM` is replaced by a well-formed one that owns what is open. -/
theorem Owned.replaceVm {before after : List (Int × HaxmVm)} {vmid : Int} {vm : HaxmVm}
    (hvm : s.haxm.mVmList = before ++ (vmid, vm) :: after) {vm' : HaxmVm}
    (hwf : vm'.WellFormed) {calls : List SystemCall}
    (howns : (s.ledger.recordAll (handleEvents calls)).Owns (vm'.handles ++
      (((before ++ after).flatMap fun e => e.2.handles) ++ handlesOf s.haxm.mHDevice))) :
    Owned (s.after { s.haxm with mVmList := before ++ (vmid, vm') :: after } calls) where
  owns := howns.perm (vmHandles_perm before (vmid, vm') after _).symm
  wellFormed := by
    refine ⟨?_, ?_⟩
    · intro hinvalid
      have hnil := h.wellFormed.closed hinvalid
      rw [hvm] at hnil
      exact absurd hnil (List.append_ne_nil_of_right_ne_nil _ (List.cons_ne_nil _ _))
    · intro entry hentry
      rcases List.mem_append.mp hentry with hbefore | hcons
      · exact h.wellFormed.vms entry (hvm ▸ List.mem_append_left _ hbefore)
      · cases hcons with
        | head => exact hwf
        | tail _ hafter =>
            refine h.wellFormed.vms entry ?_
            rw [hvm]
            exact List.mem_append_right _ (List.mem_cons_of_mem _ hafter)

/-- What a VM of the `HAXM` owns, in front of what the others own. -/
theorem Owned.front {before after : List (Int × HaxmVm)} {vmid : Int} {vm : HaxmVm}
    (hvm : s.haxm.mVmList = before ++ (vmid, vm) :: after) :
    vm.WellFormed ∧ s.ledger.Owns (vm.handles ++
      (((before ++ after).flatMap fun e => e.2.handles) ++ handlesOf s.haxm.mHDevice)) := by
  refine ⟨h.wellFormed.vms (vmid, vm) ?_, ?_⟩
  · rw [hvm]
    exact List.mem_append_right _ (List.mem_cons_self ..)
  · have howns := h.owns
    rw [HaxmDevice.handles, hvm] at howns
    exact howns.perm (vmHandles_perm before (vmid, vm) after _)

theorem Owned.openDevice (file : Handle)
    (hfresh : s.ledger.Fresh (handleEvents (s.haxm.openDevice file).2.2)) :
    Owned (s.after (s.haxm.openDevice file).2.1 (s.haxm.openDevice file).2.2) := by
  rw [HaxmDevice.openDevice] at hfresh ⊢
  by_cases hopen : s.haxm.mHDevice ≠ invalidHandleValue
  · rw [if_pos hopen]
    exact ⟨h.owns, h.wellFormed⟩
  · rw [if_neg hopen] at hfresh ⊢
    have hinvalid : s.haxm.mHDevice = invalidHandleValue := not_not.mp hopen
    have hnil := h.wellFormed.closed hinvalid
    have hnone : s.haxm.handles = [] := by rw [HaxmDevice.handles, hnil, hinvalid]; rfl
    have howns := h.owns
    rw [hnone] at howns
    refine ⟨?_, fun _ => hnil, h.wellFormed.vms⟩
    simp only [handleEvents_createFile, Process.after, HaxmDevice.handles, hnil] at hfresh ⊢
    have hevents : handleEvents [] = [] := rfl
    rw [hevents, List.append_nil] at hfresh ⊢
    have hopened := howns.recordOpened hfresh
    rwa [List.append_nil] at hopened

variable {closeHandle : Handle → Bool} (hclose : ∀ file, closeHandle file = true)
include hclose

theorem Owned.createVm (o : VmOutcome)
    (hioctl : s.haxm.mHDevice = invalidHandleValue → o.createVm = none)
    (hid : ∀ vmid, o.createVm = some vmid → ∀ entry ∈ s.haxm.mVmList, entry.1 ≠ vmid)
    (hfresh : s.ledger.Fresh (handleEvents (s.haxm.createVm closeHandle o).2.2)) :
    Owned (s.after (s.haxm.createVm closeHandle o).2.1 (s.haxm.createVm closeHandle o).2.2) := by
  rcases createVm_cases hclose s.haxm o with
    ⟨vmid, vm, calls, heq, hwf, hevents, hsome⟩ | ⟨calls, heq, hevents⟩
  · rw [heq, hevents] at hfresh
    rw [heq]
    have hperm := assign_perm (hid vmid hsome) vm
    refine ⟨?_, ?_, ?_⟩
    · have hflat := hperm.flatMap_right fun e => e.2.handles
      rw [List.flatMap_cons] at hflat
      have howns := h.owns.recordOpened hfresh
      rw [HaxmDevice.handles, ← List.append_assoc] at howns
      simp only [Process.after, hevents]
      exact howns.perm (hflat.symm.append_right _)
    · intro hinvalid
      rw [hioctl hinvalid] at hsome
      cases hsome
    · intro entry hentry
      cases hperm.mem_iff.mp hentry with
      | head => exact hwf
      | tail _ hold => exact h.wellFormed.vms entry hold
  · rw [heq]
    refine ⟨?_, h.wellFormed⟩
    simp only [Process.after, hevents]
    exact h.owns

theorem Owned.createCpu {before after : List (Int × HaxmVm)} {vmid : Int} {vm : HaxmVm}
    (hvm : s.haxm.mVmList = before ++ (vmid, vm) :: after) (o : CpuOutcome)
    (hioctl : vm.mHVm = invalidHandleValue → o.vcpuCreate = false)
    (hfresh : s.ledger.Fresh (handleEvents (vm.createCpu closeHandle o).2.2)) :
    Owned (s.after { s.haxm with
        mVmList := before ++ (vmid, (vm.createCpu closeHandle o).2.1) :: after }
      (vm.createCpu closeHandle o).2.2) := by
  obtain ⟨hwf, howns⟩ := h.front hvm
  rcases createCpu_cases hclose vm o with
    ⟨vcpu, calls, heq, hevents, hcreated⟩ | ⟨calls, handles, heq, hevents⟩
  · rw [heq, hevents] at hfresh
    rw [heq]
    -- the new id is the number of vCPUs, which no vCPU has
    have hperm := assign_perm (fun e he => (hwf.ids e he).ne) vcpu
    refine h.replaceVm hvm ⟨?_, ?_⟩ ?_
    · intro hinvalid
      rw [hioctl hinvalid] at hcreated
      cases hcreated
    · intro entry hentry
      rw [hperm.length_eq, List.length_cons, Nat.cast_add_one]
      cases hperm.mem_iff.mp hentry with
      | head => exact Int.lt_succ _
      | tail _ hold => exact (hwf.ids entry hold).trans (Int.lt_succ _)
    · have hflat := hperm.flatMap_right fun e => e.2.handles
      rw [List.flatMap_cons] at hflat
      have hopened := howns.recordOpened hfresh
      rw [HaxmVm.handles, ← List.append_assoc, ← List.append_assoc vcpu.handles] at hopened
      rw [hevents]
      exact hopened.perm ((hflat.symm.append_right _).append_right _)
  · rw [heq, hevents, Ledger.fresh_append] at hfresh
    rw [heq]
    refine h.replaceVm hvm hwf ?_
    rw [hevents, Ledger.recordAll_append]
    exact (howns.recordOpened hfresh.1).recordClosed

theorem Owned.closeVm {before after : List (Int × HaxmVm)} {vmid : Int} {vm : HaxmVm}
    (hvm : s.haxm.mVmList = before ++ (vmid, vm) :: after) :
    Owned (s.after { s.haxm with mVmList := before ++ (vmid, (vm.closeVm closeHandle).2.1) :: after }
      (vm.closeVm closeHandle).2.2) := by
  obtain ⟨hwf, howns⟩ := h.front hvm
  obtain ⟨hempty, hevents⟩ := closeVm_spec hclose hwf
  rw [hempty]
  refine h.replaceVm hvm ⟨fun _ => rfl, fun _ hmem => absurd hmem List.not_mem_nil⟩ ?_
  rw [hevents]
  exact howns.recordClosed

/-- Closing the device releases every handle. -/
theorem Owned.closeDevice :
    Owned (s.after (s.haxm.closeDevice closeHandle).2.1 (s.haxm.closeDevice closeHandle).2.2) ∧
      (s.haxm.closeDevice closeHandle).2.1 = .new := by
  obtain ⟨hnew, hevents⟩ := closeDevice_spec hclose h.wellFormed
  have howns := h.owns
  rw [← List.append_nil s.haxm.handles] at howns
  refine ⟨⟨?_, ?_⟩, hnew⟩
  · simp only [Process.after, hnew, hevents]
    exact howns.recordClosed
  · rw [Process.after, hnew]
    exact owned_start.wellFormed

end Steps

theorem HaxmStep.owned {closeHandle : Handle → Bool} (hclose : ∀ file, closeHandle file = true)
    {s s' : Process} (hstep : HaxmStep closeHandle s s') (h : Owned s) : Owned s' := by
  cases hstep with
  | openDevice hfresh => exact h.openDevice _ hfresh
  | createVm hioctl hid hfresh => exact h.createVm hclose _ hioctl hid hfresh
  | createCpu hvm hioctl hfresh => exact h.createCpu hclose hvm _ hioctl hfresh
  | closeVm hvm => exact h.closeVm hclose hvm
  | closeDevice => exact (h.closeDevice hclose).1
  | renew =>
      obtain ⟨howned, hnew⟩ := h.closeDevice hclose
      rwa [hnew] at howned

theorem HaxmRun.owned {closeHandle : Handle → Bool} (hclose : ∀ file, closeHandle file = true)
    {s : Process} (h : HaxmRun closeHandle s) : Owned s := by
  induction h with
  | start => exact owned_start
  | step _ hstep ih => exact hstep.owned hclose ih

/-- In every run the open handles are those that live objects store, each of them once,
no handle was closed that was not open, and none is left by `close_device` or `~HAXM`. -/
theorem haxmHandles_exact {closeHandle : Handle → Bool} (hclose : ∀ file, closeHandle file = true)
    {s : Process} (h : HaxmRun closeHandle s) :
    s.haxm.handles.Nodup ∧ (∀ file, file ∈ s.ledger.opened ↔ file ∈ s.haxm.handles) ∧
      s.ledger.stray = false ∧
      (s.ledger.recordAll (handleEvents (s.haxm.closeDevice closeHandle).2.2)).opened = ∅ ∧
      (s.ledger.recordAll (handleEvents (s.haxm.delete closeHandle))).opened = ∅ := by
  have howned := h.owned hclose
  obtain ⟨hafter, hnew⟩ := howned.closeDevice hclose
  rw [hnew] at hafter
  have hnone : (s.ledger.recordAll
      (handleEvents (s.haxm.closeDevice closeHandle).2.2)).opened = ∅ := by
    rw [Finset.eq_empty_iff_forall_notMem]
    intro file hopen
    exact absurd ((hafter.owns.mem file).mp hopen) List.not_mem_nil
  exact ⟨howned.owns.nodup, howned.owns.mem, howned.owns.stray, hnone, hnone⟩

/-- The device, one VM and one vCPU are opened. -/
theorem haxmHandles_exact_oneVcpu : ∃ s, HaxmRun (fun _ => true) s ∧
    s.haxm.handles = [12, 8, 4] ∧ (∀ file, file ∈ s.ledger.opened ↔ file ∈ s.haxm.handles) ∧
    (s.ledger.recordAll (handleEvents (s.haxm.delete fun _ => true))).opened = ∅ := by
  let vm : HaxmVm := ⟨0, 8, []⟩
  have hdevice : HaxmRun (fun _ => true) ⟨⟨4, []⟩, ⟨{4}, false⟩⟩ :=
    HaxmRun.start.step (.openDevice (h := 4) (by decide))
  have hvm : HaxmRun (fun _ => true) ⟨⟨4, [(0, vm)]⟩, ⟨{8, 4}, false⟩⟩ :=
    hdevice.step (.createVm (o := ⟨some 0, 8⟩) (by decide)
      (fun _ _ _ hmem => absurd hmem List.not_mem_nil) (by decide))
  have hlist : [((0 : Int), vm)] = [] ++ (0, vm) :: [] := rfl
  have hcpu := hvm.step (.createCpu (o := ⟨true, 12, some ⟨0x1000, 0x2000, 48⟩, some default⟩)
    hlist (by decide) (by decide))
  obtain ⟨-, hopen, -, -, hnone⟩ := haxmHandles_exact (fun _ => rfl) hcpu
  exact ⟨_, hcpu, rfl, hopen, hnone⟩

end ShellcodeVM.Haxm
