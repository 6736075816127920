import ShellcodeVM.Hax.Vm
import ShellcodeVM.Hax.VcpuSlots

/-!
The handles of the C-style VM API over runs of its calls. VM and vCPU handles are
always those of live instances, and none is closed twice. The handle of the device
is closed by `VM_HaxEnabled` only: a failed `VM_CreateInstance` and a successful
`VM_DestroyInstance` leave it open.
-/
namespace ShellcodeVM.Hax
open Machine

inductive ApiCall where
  | haxEnabled (fd : HaxFd) (cap : Option HaxCapabilityInfo) (version : Option HaxModuleVersion)
  | createInstance (ramSize : UInt32) (o : InstanceOutcome)
  | createVcpu (hax : HaxState) (o : VcpuOutcome)
  | destroyVcpu (hax : HaxState) (cpu : HaxVcpuState)
  | destroyInstance (hax : HaxState)

/-- The live instances and the handles of the process. -/
structure ApiState where
  instances : List HaxState
  ledger : Ledger HaxFd

def ApiState.after (s : ApiState) (instances : List HaxState) (calls : List DriverCall) :
    ApiState where
  instances := instances
  ledger := s.ledger.recordAll (handleEvents calls)

/-- One API call. The system opens no handle that is open already, instances are those
returned and not destroyed, and a vCPU to destroy has an id that `VCpu_Create` gives. -/
inductive ApiStep : ApiState → ApiCall → ApiState → Prop where
  | haxEnabled {s : ApiState} {fd : HaxFd} {cap : Option HaxCapabilityInfo}
      {version : Option HaxModuleVersion}
      (hfresh : s.ledger.Fresh (handleEvents (vmHaxEnabled fd cap version).2)) :
      ApiStep s (.haxEnabled fd cap version) (s.after s.instances (vmHaxEnabled fd cap version).2)
  | createInstance {s : ApiState} {ramSize : UInt32} {o : InstanceOutcome}
      (hfresh : s.ledger.Fresh (handleEvents (vmCreateInstance ramSize o).2)) :
      ApiStep s (.createInstance ramSize o)
        (s.after ((vmCreateInstance ramSize o).1.toList ++ s.instances)
          (vmCreateInstance ramSize o).2)
  | createVcpu {s : ApiState} {before after : List HaxState} {hax : HaxState} {o : VcpuOutcome}
      (hinst : s.instances = before ++ hax :: after)
      (hfresh : s.ledger.Fresh (handleEvents (vCpuCreate hax o).2.2)) :
      ApiStep s (.createVcpu hax o)
        (s.after (before ++ (vCpuCreate hax o).2.1 :: after) (vCpuCreate hax o).2.2)
  | destroyVcpu {s : ApiState} {before after : List HaxState} {hax : HaxState}
      {cpu : HaxVcpuState} (hinst : s.instances = before ++ hax :: after)
      (hid : cpu.vcpuId < haxMaxVcpu) :
      ApiStep s (.destroyVcpu hax cpu)
        (s.after (before ++ (vCpuDestroy hax cpu).2.1 :: after) (vCpuDestroy hax cpu).2.2)
  | destroyInstance {s : ApiState} {before after : List HaxState} {hax : HaxState}
      (hinst : s.instances = before ++ hax :: after) :
      ApiStep s (.destroyInstance hax)
        (s.after (if (vmDestroyInstance hax).1 then before ++ after else s.instances)
          (vmDestroyInstance hax).2)

/-- Runs from the start of the process, with the calls made. -/
inductive ApiRun : List ApiCall → ApiState → Prop where
  | start : ApiRun [] ⟨[], Ledger.empty⟩
  | step {calls : List ApiCall} {s s' : ApiState} {call : ApiCall} (h : ApiRun calls s)
      (hstep : ApiStep s call s') : ApiRun (calls ++ [call]) s'

def vcpuHandles (vm : HaxVm) : List HaxFd :=
  (List.range haxMaxVcpu).filterMap fun i => (vm.vcpus i).map HaxVcpuState.fd

def HaxState.handles (hax : HaxState) : List HaxFd :=
  hax.fd :: hax.vm.elim [] fun vm => vm.fd :: vcpuHandles vm

/-- The handles that live instances hold. -/
def ApiState.handles (s : ApiState) : List HaxFd :=
  s.instances.flatMap HaxState.handles

/-- No handle was closed twice, and one that no live instance holds has been closed. -/
structure HandlesReleased (s : ApiState) : Prop where
  closedOnce : s.ledger.stray = false
  released : ∀ fd ∈ s.ledger.opened, fd ∈ s.handles

/-- The outcomes with which `HaxVmCreate` gets its VM. -/
def VmOpens (o : InstanceOutcome) : Prop :=
  o.vmMalloc = true ∧ haxInvalidFd o.openVm = false ∧
    ∃ vmId, o.createVm = some vmId ∧ vmId ≤ maxVmId

/-- The calls that lose no device handle: an instance is created or the device does
not open, and an instance to destroy still has a vCPU, so that it stays. -/
def ApiCall.Releases : ApiCall → Prop
  | .createInstance _ o =>
      o.instanceMalloc = false ∨ haxInvalidFd o.modOpen = true ∨
        VmOpens o
  | .destroyInstance hax => hax.vm.elim True fun vm => hasVcpu vm = true
  | .haxEnabled _ _ _ | .createVcpu _ _ | .destroyVcpu _ _ => True

/-! What each call does to handles. -/

theorem haxIsAvailable_events (hax : HaxState) (cap : Option HaxCapabilityInfo) :
    handleEvents (haxIsAvailable hax cap).2 = [] := by
  rw [haxIsAvailable]
  split_ifs
  · rfl
  · cases cap with
    | none => rfl
    | some cap =>
        simp only
        split_ifs <;> rfl

theorem haxIsSupported_events (hax : HaxState) (version : Option HaxModuleVersion) :
    handleEvents (haxIsSupported hax version).2 = [] := by
  rw [haxIsSupported]
  split_ifs
  · rfl
  · cases version with
    | none => rfl
    | some version => rfl

theorem vmHaxEnabled_events (fd : HaxFd) (cap : Option HaxCapabilityInfo)
    (version : Option HaxModuleVersion) :
    handleEvents (vmHaxEnabled fd cap version).2 = [] ∨
      handleEvents (vmHaxEnabled fd cap version).2 = [.opened fd, .closed fd] := by
  have hopen : handleEvents [DriverCall.modOpen fd] =
      if haxInvalidFd fd then [] else [.opened fd] := handleEvents_of_opens rfl
  have havailable := haxIsAvailable_events ⟨fd, none, 0⟩ cap
  have hsupported := haxIsSupported_events ⟨fd, none, 0⟩ version
  rw [vmHaxEnabled]
  cases hfd : haxInvalidFd fd with
  | true =>
      left
      rw [hfd] at hopen
      exact hopen
  | false =>
      right
      rw [hfd] at hopen
      simp only [Bool.false_eq_true, if_false]
      split_ifs
      · simp only [handleEvents_append, havailable, hopen]
        rfl
      · simp only [handleEvents_append, havailable, hsupported, hopen]
        rfl

theorem haxHostOpenVm_events (vmId : Int) (fd : HaxFd) :
    handleEvents (haxHostOpenVm vmId fd).2 =
      if haxInvalidFd (haxHostOpenVm vmId fd).1 then []
      else [.opened (haxHostOpenVm vmId fd).1] := by
  rw [haxHostOpenVm]
  by_cases hid : maxVmId < vmId
  · rw [if_pos hid]
    rfl
  · rw [if_neg hid]
    exact handleEvents_of_opens rfl

theorem haxHostOpenVm_valid_iff (vmId : Int) (fd : HaxFd) :
    haxInvalidFd (haxHostOpenVm vmId fd).1 = false ↔
      haxInvalidFd fd = false ∧ vmId ≤ maxVmId := by
  rw [haxHostOpenVm]
  by_cases hid : maxVmId < vmId
  · rw [if_pos hid]
    exact ⟨fun h => absurd h (by decide), fun h => absurd h.2 (Int.not_le.mpr hid)⟩
  · rw [if_neg hid]
    exact ⟨fun h => ⟨h, Int.not_lt.mp hid⟩, fun h => h.1⟩

/-- The VM is opened, or nothing is. -/
theorem haxVmOpen_cases (vmId : Int) (o : InstanceOutcome) :
    (∃ calls, haxVmOpen vmId o = (none, calls) ∧ handleEvents calls = [] ∧
      ¬ (haxInvalidFd o.openVm = false ∧ vmId ≤ maxVmId)) ∨
    (∃ vm calls, haxVmOpen vmId o = (some vm, calls) ∧ (∀ i, vm.vcpus i = none) ∧
      handleEvents calls = [.opened vm.fd] ∧
      haxInvalidFd o.openVm = false ∧ vmId ≤ maxVmId) := by
  have hevents := haxHostOpenVm_events vmId o.openVm
  have hvalid := haxHostOpenVm_valid_iff vmId o.openVm
  rw [haxVmOpen]
  generalize haxHostOpenVm vmId o.openVm = answer at hevents hvalid ⊢
  obtain ⟨fd, opened⟩ := answer
  cases hfd : haxInvalidFd fd with
  | true =>
      simp only [hfd, if_true, Bool.true_eq_false, false_iff] at hevents hvalid
      exact .inl ⟨opened, if_pos hfd, hevents, hvalid⟩
  | false =>
      simp only [hfd, Bool.false_eq_true, if_false, true_iff] at hevents hvalid
      refine .inr ⟨⟨fd, vmId, fun _ => none⟩, _, if_neg (by rw [hfd]; decide), fun _ => rfl, ?_,
        hvalid⟩
      rw [handleEvents_append, hevents]
      rfl

theorem haxVmCreate_cases (hax : HaxState) (hvm : hax.vm = none)
    (hfd : haxInvalidFd hax.fd = false) (o : InstanceOutcome) :
    (∃ calls, haxVmCreate hax o = (none, calls) ∧ handleEvents calls = [] ∧ ¬ VmOpens o) ∨
    (∃ vm calls, haxVmCreate hax o = (some vm, calls) ∧ (∀ i, vm.vcpus i = none) ∧
      handleEvents calls = [.opened vm.fd] ∧ VmOpens o) := by
  rw [haxVmCreate, hvm, hfd, VmOpens]
  cases o.vmMalloc with
  | false => exact .inl ⟨[], rfl, rfl, fun h => absurd h.1 (by decide)⟩
  | true =>
      cases o.createVm with
      | none =>
          refine .inl ⟨_, rfl, rfl, ?_⟩
          rintro ⟨-, -, vmId, hsome, -⟩
          cases hsome
      | some vmId =>
          rcases haxVmOpen_cases vmId o with
            ⟨calls, heq, hevents, hclosed⟩ | ⟨vm, calls, heq, hnew, hevents, hopen, hle⟩
          · left
            simp only [heq]
            refine ⟨_, rfl, hevents, ?_⟩
            rintro ⟨-, hopen, id, hsome, hle⟩
            cases hsome
            exact hclosed ⟨hopen, hle⟩
          · right
            simp only [heq]
            exact ⟨vm, _, rfl, hnew, hevents, trivial, hopen, vmId, rfl, hle⟩

/-- What `VM_CreateInstance` does to handles: nothing, it opens those of the new
instance, or it opens the device and forgets the handle. -/
theorem vmCreateInstance_cases (ramSize : UInt32) (o : InstanceOutcome) :
    (∃ calls, vmCreateInstance ramSize o = (none, calls) ∧ handleEvents calls = [] ∧
      (ApiCall.createInstance ramSize o).Releases) ∨
    (∃ calls, vmCreateInstance ramSize o = (none, calls) ∧
      handleEvents calls = [.opened o.modOpen] ∧
      ¬ (ApiCall.createInstance ramSize o).Releases) ∨
    (∃ hax vm calls, vmCreateInstance ramSize o = (some hax, calls) ∧ hax.vm = some vm ∧
      (∀ i, vm.vcpus i = none) ∧ handleEvents calls = [.opened hax.fd, .opened vm.fd] ∧
      (ApiCall.createInstance ramSize o).Releases) := by
  have hopen : handleEvents [DriverCall.modOpen o.modOpen] =
      if haxInvalidFd o.modOpen then [] else [.opened o.modOpen] := handleEvents_of_opens rfl
  rw [vmCreateInstance, ApiCall.Releases]
  cases o.instanceMalloc with
  | false => exact .inl ⟨[], rfl, rfl, .inl rfl⟩
  | true =>
      cases hfd : haxInvalidFd o.modOpen with
      | true =>
          left
          have hvm : haxVmCreate ⟨o.modOpen, none, ramSize.toUInt64⟩ o = (none, []) := if_pos hfd
          simp only [hvm, hfd, if_true] at hopen ⊢
          exact ⟨_, rfl, hopen, .inr (.inl trivial)⟩
      | false =>
          right
          rw [hfd] at hopen
          rcases haxVmCreate_cases ⟨o.modOpen, none, ramSize.toUInt64⟩ rfl hfd o with
            ⟨calls, heq, hevents, hfails⟩ | ⟨vm, calls, heq, hnew, hevents, hopens⟩
          · left
            simp only [heq]
            refine ⟨_, rfl, ?_, by simp [hfails]⟩
            rw [handleEvents_append, hopen, hevents]
            rfl
          · right
            simp only [heq]
            refine ⟨_, vm, _, rfl, rfl, hnew, ?_, .inr (.inr hopens)⟩
            rw [handleEvents_append, hopen, hevents]
            rfl

/-! The handles of the slots. -/

/-- Whatever a slot is set to, its handle is in front of those of the other slots. -/
theorem vcpuHandles_perm (vm : HaxVm) {i : Nat} (hi : i < haxMaxVcpu) :
    ∃ rest, ∀ vcpu, (vcpuHandles (vm.setVcpu i vcpu)).Perm
      ((vcpu.map HaxVcpuState.fd).toList ++ rest) := by
  refine ⟨((List.range haxMaxVcpu).erase i).filterMap
    fun j => (vm.vcpus j).map HaxVcpuState.fd, fun vcpu => ?_⟩
  have hperm := filterMap_perm_erase (f := fun j => ((vm.setVcpu i vcpu).vcpus j).map
      HaxVcpuState.fd) (g := fun j => (vm.vcpus j).map HaxVcpuState.fd)
    List.nodup_range (List.mem_range.mpr hi)
    fun j hj => congrArg (Option.map HaxVcpuState.fd) (vm.setVcpu_of_ne vcpu hj)
  rwa [vm.setVcpu_same] at hperm

/-- A slot set to what it holds leaves the VM as it is. -/
theorem HaxVm.setVcpu_self (vm : HaxVm) (i : Nat) : vm.setVcpu i (vm.vcpus i) = vm := by
  have hvcpus : (fun j => if j = i then vm.vcpus i else vm.vcpus j) = vm.vcpus := by
    funext j
    by_cases hj : j = i
    · rw [if_pos hj, hj]
    · rw [if_neg hj]
  rw [HaxVm.setVcpu, hvcpus]

theorem vcpuHandles_publish {vm : HaxVm} {i : Nat} (hi : i < haxMaxVcpu)
    (hfree : vm.vcpus i = none) (vcpu : HaxVcpuState) :
    (vcpuHandles (vm.setVcpu i (some vcpu))).Perm (vcpu.fd :: vcpuHandles vm) := by
  obtain ⟨rest, hrest⟩ := vcpuHandles_perm vm hi
  have hbefore := hrest (vm.vcpus i)
  rw [vm.setVcpu_self, hfree] at hbefore
  exact (hrest (some vcpu)).trans (hbefore.symm.cons vcpu.fd)

theorem vcpuHandles_release {vm : HaxVm} {i : Nat} (hi : i < haxMaxVcpu) {vcpu : HaxVcpuState}
    (hslot : vm.vcpus i = some vcpu) :
    (vcpuHandles vm).Perm (vcpu.fd :: vcpuHandles (vm.setVcpu i none)) := by
  obtain ⟨rest, hrest⟩ := vcpuHandles_perm vm hi
  have hbefore := hrest (vm.vcpus i)
  rw [vm.setVcpu_self, hslot] at hbefore
  exact hbefore.trans ((hrest none).symm.cons vcpu.fd)

theorem vcpuHandles_eq_nil {vm : HaxVm} (h : hasVcpu vm = false) : vcpuHandles vm = [] := by
  rw [vcpuHandles, List.filterMap_eq_nil_iff]
  intro i hi
  rw [hasVcpu, List.any_eq_false] at h
  have hslot := h i hi
  rw [Bool.not_eq_true, Option.isSome_eq_false_iff, Option.isNone_iff_eq_none] at hslot
  rw [hslot]
  rfl

/-- The handles of one instance in front of those of the others. -/
theorem instanceHandles_perm (before : List HaxState) (hax : HaxState) (after : List HaxState) :
    ((before ++ hax :: after).flatMap HaxState.handles).Perm
      (hax.handles ++ (before ++ after).flatMap HaxState.handles) := by
  have hperm : (before ++ hax :: after).Perm (hax :: (before ++ after)) := List.perm_middle
  have hflat := hperm.flatMap_right HaxState.handles
  rwa [List.flatMap_cons] at hflat

/-- The handles `leaked` are open besides those of live instances, which all have a VM. -/
structure Accounts (s : ApiState) (leaked : List HaxFd) : Prop where
  owns : s.ledger.Owns (s.handles ++ leaked)
  linked : ∀ hax ∈ s.instances, ∃ vm, hax.vm = some vm

/-- The handles of an instance in front of all others that are open. -/
theorem Accounts.front {s : ApiState} {leaked : List HaxFd} (h : Accounts s leaked)
    {before after : List HaxState} {hax : HaxState} (hinst : s.instances = before ++ hax :: after) :
    s.ledger.Owns (hax.handles ++ ((before ++ after).flatMap HaxState.handles ++ leaked)) := by
  have howns := h.owns
  rw [ApiState.handles, hinst] at howns
  rw [← List.append_assoc]
  exact howns.perm ((instanceHandles_perm before hax after).append_right leaked)

/-- An instance is replaced by one with a VM and the handles that are open. -/
theorem Accounts.replace {s : ApiState} {leaked : List HaxFd} (h : Accounts s leaked)
    {before after : List HaxState} {hax : HaxState} (hinst : s.instances = before ++ hax :: after)
    {hax' : HaxState} {vm' : HaxVm} (hvm : hax'.vm = some vm') {calls : List DriverCall}
    (howns : (s.ledger.recordAll (handleEvents calls)).Owns
      (hax'.handles ++ ((before ++ after).flatMap HaxState.handles ++ leaked))) :
    Accounts (s.after (before ++ hax' :: after) calls) leaked where
  owns := by
    rw [← List.append_assoc] at howns
    exact howns.perm ((instanceHandles_perm before hax' after).symm.append_right leaked)
  linked := by
    intro other hother
    rcases List.mem_append.mp hother with hbefore | hcons
    · exact h.linked other (hinst ▸ List.mem_append_left _ hbefore)
    · cases hcons with
      | head => exact ⟨vm', hvm⟩
      | tail _ hafter =>
          exact h.linked other (hinst ▸ List.mem_append_right _ (List.mem_cons_of_mem _ hafter))

theorem Accounts.vm {s : ApiState} {leaked : List HaxFd} (h : Accounts s leaked)
    {before after : List HaxState} {hax : HaxState} (hinst : s.instances = before ++ hax :: after) :
    ∃ vm, hax.vm = some vm :=
  h.linked hax (hinst ▸ List.mem_append_right _ (List.mem_cons_self ..))

/-- Nothing changes for the handles when a call opens none, or closes what it opened. -/
theorem Accounts.unchanged {s : ApiState} {leaked : List HaxFd} (h : Accounts s leaked)
    {calls : List DriverCall} (hfresh : s.ledger.Fresh (handleEvents calls))
    (hevents : handleEvents calls = [] ∨ ∃ fd, handleEvents calls = [.opened fd, .closed fd]) :
    Accounts (s.after s.instances calls) leaked where
  owns := by
    rcases hevents with hnone | ⟨fd, hpair⟩
    · rw [ApiState.after, hnone]
      exact h.owns
    · rw [hpair] at hfresh
      rw [ApiState.after, hpair]
      exact (h.owns.create hfresh.1).close
  linked := h.linked

/-! What each call does to the accounts. -/

theorem Accounts.haxEnabled {s : ApiState} {leaked : List HaxFd} (h : Accounts s leaked)
    (fd : HaxFd) (cap : Option HaxCapabilityInfo) (version : Option HaxModuleVersion)
    (hfresh : s.ledger.Fresh (handleEvents (vmHaxEnabled fd cap version).2)) :
    Accounts (s.after s.instances (vmHaxEnabled fd cap version).2) leaked := by
  refine h.unchanged hfresh ?_
  rcases vmHaxEnabled_events fd cap version with hnone | hpair
  · exact .inl hnone
  · exact .inr ⟨fd, hpair⟩

/-- A failed `VM_CreateInstance` that opened the device leaks its handle. -/
theorem Accounts.createInstance {s : ApiState} {leaked : List HaxFd} (h : Accounts s leaked)
    (ramSize : UInt32) (o : InstanceOutcome)
    (hfresh : s.ledger.Fresh (handleEvents (vmCreateInstance ramSize o).2)) :
    ∃ extra, Accounts (s.after ((vmCreateInstance ramSize o).1.toList ++ s.instances)
        (vmCreateInstance ramSize o).2) (extra ++ leaked) ∧
      (extra = [] ↔ (ApiCall.createInstance ramSize o).Releases) := by
  rcases vmCreateInstance_cases ramSize o with
    ⟨calls, heq, hevents, hrel⟩ | ⟨calls, heq, hevents, hrel⟩ |
    ⟨hax, vm, calls, heq, hvm, hnew, hevents, hrel⟩
  · rw [heq] at hfresh ⊢
    exact ⟨[], h.unchanged hfresh (.inl hevents), fun _ => hrel, fun _ => rfl⟩
  · rw [heq, hevents] at hfresh
    rw [heq]
    refine ⟨[o.modOpen], ⟨?_, h.linked⟩, fun hnil => (by cases hnil), fun hr => absurd hr hrel⟩
    rw [ApiState.after, hevents]
    exact (h.owns.create hfresh.1).perm List.perm_middle.symm
  · rw [heq, hevents] at hfresh
    rw [heq]
    refine ⟨[], ⟨?_, ?_⟩, fun _ => hrel, fun _ => rfl⟩
    · have hnil : vcpuHandles vm = [] :=
        List.filterMap_eq_nil_iff.mpr fun i _ => by rw [hnew i]; rfl
      have hhandles : hax.handles = [hax.fd, vm.fd] := by
        simp only [HaxState.handles, hvm, hnil, Option.elim]
      have howns := (h.owns.create hfresh.1).create hfresh.2.1
      simp only [ApiState.after, ApiState.handles, hevents, Option.toList, List.cons_append,
        List.nil_append, List.flatMap_cons, hhandles]
      exact howns.perm (List.Perm.swap ..)
    · intro other hother
      cases hother with
      | head => exact ⟨vm, hvm⟩
      | tail _ hold => exact h.linked other hold

/-- The handle of a vCPU in front of those of the device and the VM. -/
theorem vcpuHandle_front (device vm vcpu : HaxFd) (rest : List HaxFd) :
    (device :: vm :: vcpu :: rest).Perm (vcpu :: device :: vm :: rest) :=
  (List.perm_middle : ([device, vm] ++ vcpu :: rest).Perm (vcpu :: ([device, vm] ++ rest)))

/-- `VCpu_Create` opens the handle of the slot that it publishes. -/
theorem Accounts.createVcpu {s : ApiState} {leaked : List HaxFd} (h : Accounts s leaked)
    {before after : List HaxState} {hax : HaxState} (hinst : s.instances = before ++ hax :: after)
    (o : VcpuOutcome) (hfresh : s.ledger.Fresh (handleEvents (vCpuCreate hax o).2.2)) :
    Accounts (s.after (before ++ (vCpuCreate hax o).2.1 :: after) (vCpuCreate hax o).2.2)
      leaked := by
  obtain ⟨vm, hvm⟩ := h.vm hinst
  have hcreate := vCpuCreate_eq hvm o
  rcases vCpuCreateOn_cases vm o with
    ⟨i, vcpu, calls, hfind, heq, hid, hevents⟩ | ⟨calls, heq, hevents, -⟩
  · obtain ⟨-, hlt, hfree, -⟩ := firstFree_some hfind
    rw [Nat.zero_add] at hlt
    rw [heq] at hcreate
    rw [hcreate] at hfresh ⊢
    simp only [hevents] at hfresh
    refine h.replace hinst rfl ?_
    have hpublish := vcpuHandles_publish hlt hfree vcpu
    have howns := (h.front hinst).create hfresh.1
    rw [HaxState.handles, hvm] at howns
    rw [hevents]
    refine howns.perm ?_
    have hmove : (vcpu.fd :: hax.fd :: vm.fd :: vcpuHandles vm).Perm
        (hax.fd :: vm.fd :: vcpuHandles (vm.setVcpu i (some vcpu))) := by
      calc (vcpu.fd :: hax.fd :: vm.fd :: vcpuHandles vm).Perm
            (hax.fd :: vm.fd :: vcpu.fd :: vcpuHandles vm) := (vcpuHandle_front ..).symm
        _ |>.Perm (hax.fd :: vm.fd :: vcpuHandles (vm.setVcpu i (some vcpu))) :=
          .cons _ (.cons _ hpublish.symm)
    exact hmove.append_right _
  · rw [heq] at hcreate
    rw [hcreate] at hfresh ⊢
    have hsame : ({ hax with vm := some vm } : HaxState) = hax := by rw [← hvm]
    simp only [hsame, ← hinst]
    exact h.unchanged hfresh hevents

/-- `VCpu_Destroy` closes the handle of the slot that it empties. -/
theorem Accounts.destroyVcpu {s : ApiState} {leaked : List HaxFd} (h : Accounts s leaked)
    {before after : List HaxState} {hax : HaxState} (hinst : s.instances = before ++ hax :: after)
    {cpu : HaxVcpuState} (hid : cpu.vcpuId < haxMaxVcpu) :
    Accounts (s.after (before ++ (vCpuDestroy hax cpu).2.1 :: after) (vCpuDestroy hax cpu).2.2)
      leaked := by
  obtain ⟨vm, hvm⟩ := h.vm hinst
  have howns := h.front hinst
  cases hslot : vm.vcpus cpu.vcpuId with
  | none =>
      have hdestroy : vCpuDestroy hax cpu = (false, { hax with vm := some vm }, []) := by
        simp only [vCpuDestroy, hvm, vCpuDestroyOn, hslot]
      rw [hdestroy]
      refine h.replace hinst rfl ?_
      rwa [HaxState.handles, hvm] at howns
  | some vcpu =>
      have hdestroy : vCpuDestroy hax cpu =
          (true, { hax with vm := some (vm.setVcpu cpu.vcpuId none) }, [.close vcpu.fd]) := by
        simp only [vCpuDestroy, hvm, vCpuDestroyOn, hslot]
      rw [hdestroy]
      refine h.replace hinst rfl ?_
      have hrelease := vcpuHandles_release hid hslot
      rw [HaxState.handles, hvm] at howns
      have hmove : (hax.fd :: vm.fd :: vcpuHandles vm).Perm
          (vcpu.fd :: hax.fd :: vm.fd :: vcpuHandles (vm.setVcpu cpu.vcpuId none)) := by
        calc (hax.fd :: vm.fd :: vcpuHandles vm).Perm
              (hax.fd :: vm.fd :: vcpu.fd :: vcpuHandles (vm.setVcpu cpu.vcpuId none)) :=
              .cons _ (.cons _ hrelease)
          _ |>.Perm (vcpu.fd :: hax.fd :: vm.fd :: vcpuHandles (vm.setVcpu cpu.vcpuId none)) :=
              vcpuHandle_front ..
      exact (howns.perm (hmove.append_right _)).close

/-- A successful `VM_DestroyInstance` leaks the handle of the device. -/
theorem Accounts.destroyInstance {s : ApiState} {leaked : List HaxFd} (h : Accounts s leaked)
    {before after : List HaxState} {hax : HaxState}
    (hinst : s.instances = before ++ hax :: after) :
    ∃ extra, Accounts (s.after (if (vmDestroyInstance hax).1 then before ++ after
        else s.instances) (vmDestroyInstance hax).2) (extra ++ leaked) ∧
      (extra = [] ↔ (ApiCall.destroyInstance hax).Releases) := by
  obtain ⟨vm, hvm⟩ := h.vm hinst
  rw [vmDestroyInstance, ApiCall.Releases, hvm, haxVmDestroy]
  cases hhas : hasVcpu vm with
  | true =>
      have hkept : Accounts (s.after s.instances []) leaked := ⟨h.owns, h.linked⟩
      exact ⟨[], hkept, fun _ => hhas, fun _ => rfl⟩
  | false =>
      refine ⟨[hax.fd], ⟨?_, ?_⟩, fun hnil => (by cases hnil), fun hr => ?_⟩
      · have howns := h.front hinst
        rw [HaxState.handles, hvm, Option.elim, vcpuHandles_eq_nil hhas] at howns
        have hclosed : (s.ledger.close vm.fd).Owns
            (hax.fd :: ((before ++ after).flatMap HaxState.handles ++ leaked)) :=
          (howns.perm (List.Perm.swap ..)).close
        exact hclosed.perm List.perm_middle.symm
      · intro other hother
        refine h.linked other ?_
        rw [hinst]
        exact List.mem_append.mpr ((List.mem_append.mp hother).imp_right (List.mem_cons_of_mem _))
      · rw [Option.elim, hhas] at hr
        cases hr

theorem ApiStep.accounts {s s' : ApiState} {call : ApiCall} (hstep : ApiStep s call s')
    {leaked : List HaxFd} (h : Accounts s leaked) :
    ∃ extra, Accounts s' (extra ++ leaked) ∧ (extra = [] ↔ call.Releases) := by
  cases hstep with
  | haxEnabled hfresh =>
      exact ⟨[], h.haxEnabled _ _ _ hfresh, fun _ => trivial, fun _ => rfl⟩
  | createInstance hfresh => exact h.createInstance _ _ hfresh
  | createVcpu hinst hfresh =>
      exact ⟨[], h.createVcpu hinst _ hfresh, fun _ => trivial, fun _ => rfl⟩
  | destroyVcpu hinst hid =>
      exact ⟨[], h.destroyVcpu hinst hid, fun _ => trivial, fun _ => rfl⟩
  | destroyInstance hinst => exact h.destroyInstance hinst

theorem ApiRun.accounts {calls : List ApiCall} {s : ApiState} (h : ApiRun calls s) :
    ∃ leaked, Accounts s leaked ∧ (leaked = [] ↔ ∀ call ∈ calls, call.Releases) := by
  induction h with
  | start =>
      refine ⟨[], ⟨Ledger.owns_empty, fun _ hmem => absurd hmem List.not_mem_nil⟩, ?_⟩
      exact ⟨fun _ _ hmem => absurd hmem List.not_mem_nil, fun _ => rfl⟩
  | step _ hstep ih =>
      obtain ⟨leaked, haccounts, hleaked⟩ := ih
      obtain ⟨extra, hnext, hextra⟩ := hstep.accounts haccounts
      refine ⟨extra ++ leaked, hnext, ?_⟩
      rw [List.append_eq_nil_iff, hextra, hleaked, List.forall_mem_append, List.forall_mem_singleton,
        and_comm]

/-- In every run no handle is closed twice, and the handles that are neither closed nor
held by a live instance are those of calls that lose them. -/
theorem handlesReleased_iff {calls : List ApiCall} {s : ApiState} (h : ApiRun calls s) :
    s.ledger.stray = false ∧
      (HandlesReleased s ↔ ∀ call ∈ calls, call.Releases) := by
  obtain ⟨leaked, haccounts, hleaked⟩ := h.accounts
  have howns := haccounts.owns
  refine ⟨howns.stray, ?_⟩
  rw [← hleaked]
  refine ⟨?_, ?_⟩
  · intro hreleased
    rw [List.eq_nil_iff_forall_not_mem]
    intro fd hfd
    have hopen : fd ∈ s.ledger.opened := (howns.mem fd).mpr (List.mem_append_right _ hfd)
    have hdisjoint := List.disjoint_of_nodup_append howns.nodup
    exact hdisjoint (hreleased.released fd hopen) hfd
  · intro hnil
    rw [hnil, List.append_nil] at howns
    exact ⟨howns.stray, fun fd hopen => (howns.mem fd).mp hopen⟩

theorem createInstance_fromStart (ramSize : UInt32) (o : InstanceOutcome)
    (hfresh : (Ledger.empty : Ledger HaxFd).Fresh (handleEvents (vmCreateInstance ramSize o).2)) :
    ApiRun [.createInstance ramSize o]
      (ApiState.after ⟨[], Ledger.empty⟩ ((vmCreateInstance ramSize o).1.toList ++ [])
        (vmCreateInstance ramSize o).2) :=
  ApiRun.start.step (.createInstance hfresh)

/-- An instance is created and stays. -/
theorem handlesReleased_iff_oneInstance :
    ∃ s, ApiRun [.createInstance 4096 ⟨true, 4, true, some 0, 8, true⟩] s ∧
      s.ledger.stray = false ∧ HandlesReleased s := by
  have hrun := createInstance_fromStart 4096 ⟨true, 4, true, some 0, 8, true⟩ (by decide)
  obtain ⟨hstray, hiff⟩ := handlesReleased_iff hrun
  refine ⟨_, hrun, hstray, hiff.mpr ?_⟩
  intro call hcall
  rw [List.mem_singleton.mp hcall]
  exact .inr (.inr ⟨rfl, rfl, 0, rfl, by decide⟩)

/-- `VM_CreateInstance` with a device that opens and a driver that creates no VM. -/
theorem handles_lost_withoutVm :
    ¬ ∀ (calls : List ApiCall) (s : ApiState), ApiRun calls s → HandlesReleased s := by
  intro hall
  have hrun := createInstance_fromStart 4096 ⟨true, 4, true, none, 8, true⟩ (by decide)
  have hheld := (hall _ _ hrun).released 4 (by decide)
  exact absurd hheld List.not_mem_nil

end ShellcodeVM.Hax
