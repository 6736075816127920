import ShellcodeVM.Hax.VirtualCpu

/-!
The vCPU slots of a VM over runs of `VCpu_Create` and `VCpu_Destroy`. A call of
`VCpu_Create` either publishes a vCPU in the lowest free slot or leaves the VM as
it was and closes what it opened; the slots then always hold the live vCPUs.
-/
namespace ShellcodeVM.Hax
open Machine

/-- What `hax_host_open_vcpu` does to handles: it opens the one that it returns. -/
theorem haxHostOpenVcpu_events (vmId : Int) (vcpuId : Nat) (fd : HaxFd) :
    handleEvents (haxHostOpenVcpu vmId vcpuId fd).2 =
      if haxInvalidFd (haxHostOpenVcpu vmId vcpuId fd).1 then []
      else [.opened (haxHostOpenVcpu vmId vcpuId fd).1] := by
  rw [haxHostOpenVcpu]
  by_cases hid : maxVmId < vmId ∨ maxVcpuId < vcpuId
  · rw [if_pos hid]
    rfl
  · rw [if_neg hid]
    exact handleEvents_of_opens rfl

theorem haxHostSetupVcpuChannel_some {vcpu vcpu' : HaxVcpuState} {info : Option HaxTunnelInfo}
    (h : haxHostSetupVcpuChannel vcpu info = some vcpu') :
    vcpu'.fd = vcpu.fd ∧ vcpu'.vcpuId = vcpu.vcpuId := by
  simp only [haxHostSetupVcpuChannel, Option.bind_eq_some_iff] at h
  obtain ⟨info, -, hsome⟩ := h
  split at hsome
  · cases hsome
    exact ⟨rfl, rfl⟩
  · cases hsome

/-- A vCPU whose slot was free is published, or the VM is restored and its handle closed. -/
theorem vCpuPublish_cases {vm : HaxVm} (vcpu : HaxVcpuState)
    (hfree : vm.vcpus vcpu.vcpuId = none) (hfd : haxInvalidFd vcpu.fd = false)
    (o : VcpuOutcome) :
    (∃ vcpu' calls, vCpuPublish vm vcpu o = (some vcpu', vm.setVcpu vcpu.vcpuId (some vcpu'), calls) ∧
      vcpu'.fd = vcpu.fd ∧ vcpu'.vcpuId = vcpu.vcpuId ∧ handleEvents calls = []) ∨
    (∃ calls, vCpuPublish vm vcpu o = (none, vm, calls) ∧
      handleEvents calls = [.closed vcpu.fd]) := by
  rw [vCpuPublish]
  cases hchannel : haxHostSetupVcpuChannel vcpu o.setupTunnel with
  | none =>
      right
      simp only [vCpuCreateError, hfd, HaxVm.setVcpu_setVcpu, HaxVm.setVcpu_none hfree,
        Bool.false_eq_true, if_false]
      exact ⟨_, rfl, rfl⟩
  | some vcpu' =>
      left
      obtain ⟨hsame, hid⟩ := haxHostSetupVcpuChannel_some hchannel
      simp only [hid, HaxVm.setVcpu_setVcpu]
      exact ⟨vcpu', _, rfl, hsame, hid, rfl⟩

/-- Every way through `VCpu_Create` after a free slot is found. The error label is
reached before the handle is there, and after the slot is published. -/
theorem vCpuCreateAt_cases {vm : HaxVm} {cpuId : Nat} (hfree : vm.vcpus cpuId = none)
    (o : VcpuOutcome) :
    (∃ vcpu calls, vCpuCreateAt vm cpuId o =
        (some vcpu, vm.setVcpu cpuId (some vcpu), calls) ∧
      vcpu.vcpuId = cpuId ∧ handleEvents calls = [.opened vcpu.fd]) ∨
    (∃ calls, vCpuCreateAt vm cpuId o = (none, vm, calls) ∧
      (handleEvents calls = [] ∨ ∃ fd, handleEvents calls = [.opened fd, .closed fd])) := by
  have hnull : haxInvalidFd 0 = true := rfl
  rw [vCpuCreateAt]
  cases o.createVcpu with
  | false =>
      right
      simp only [vCpuCreateError, hnull, HaxVm.setVcpu_none hfree, if_true]
      exact ⟨_, rfl, .inl rfl⟩
  | true =>
      have hevents := haxHostOpenVcpu_events vm.id cpuId o.openVcpu
      generalize haxHostOpenVcpu vm.id cpuId o.openVcpu = answer at hevents ⊢
      obtain ⟨fd, opened⟩ := answer
      cases hfd : haxInvalidFd fd with
      | true =>
          right
          simp only [hfd, if_true] at hevents
          simp only [vCpuCreateError, hfd, HaxVm.setVcpu_none hfree, Bool.true_eq_false, if_true,
            if_false]
          refine ⟨_, rfl, .inl ?_⟩
          rw [List.append_nil, handleEvents_ioctl, hevents]
      | false =>
          simp only [hfd, Bool.false_eq_true, if_false] at hevents
          simp only [hfd, Bool.true_eq_false, Bool.false_eq_true, if_false]
          rcases vCpuPublish_cases ⟨fd, cpuId, 0, 0⟩ hfree hfd o with
            ⟨vcpu, calls, heq, hsame, hid, hcalls⟩ | ⟨calls, heq, hcalls⟩
          · left
            simp only [heq]
            refine ⟨vcpu, _, rfl, hid, ?_⟩
            rw [List.cons_append, handleEvents_ioctl, handleEvents_append, hevents, hcalls, hsame]
            rfl
          · right
            simp only [heq]
            refine ⟨_, rfl, .inr ⟨fd, ?_⟩⟩
            rw [List.cons_append, handleEvents_ioctl, handleEvents_append, hevents, hcalls]
            rfl

/-- What `VCpu_Create` does on a VM: it publishes a vCPU in the lowest free slot, or
it leaves the VM as it was; without a free slot it makes no call. -/
theorem vCpuCreateOn_cases (vm : HaxVm) (o : VcpuOutcome) :
    (∃ i vcpu calls, findFreeVcpu vm = some i ∧
      vCpuCreateOn vm o = (some vcpu, vm.setVcpu i (some vcpu), calls) ∧
      vcpu.vcpuId = i ∧ handleEvents calls = [.opened vcpu.fd]) ∨
    (∃ calls, vCpuCreateOn vm o = (none, vm, calls) ∧
      (handleEvents calls = [] ∨ ∃ fd, handleEvents calls = [.opened fd, .closed fd]) ∧
      (findFreeVcpu vm = none → calls = [])) := by
  rw [vCpuCreateOn]
  cases hfind : findFreeVcpu vm with
  | none => exact .inr ⟨[], rfl, .inl rfl, fun _ => rfl⟩
  | some i =>
      have hfree : vm.vcpus i = none := (firstFree_some hfind).2.2.1
      cases o.malloc with
      | false => exact .inr ⟨[], rfl, .inl rfl, fun _ => rfl⟩
      | true =>
          rcases vCpuCreateAt_cases hfree o with ⟨vcpu, calls, heq, hrest⟩ | ⟨calls, heq, hrest⟩
          · exact .inl ⟨i, vcpu, calls, rfl, heq, hrest⟩
          · refine .inr ⟨calls, heq, hrest, fun h => ?_⟩
            cases h

/-- `VCpu_Create` on an instance with a VM. -/
theorem vCpuCreate_eq {hax : HaxState} {vm : HaxVm} (hvm : hax.vm = some vm) (o : VcpuOutcome) :
    vCpuCreate hax o = ((vCpuCreateOn vm o).1, { hax with vm := some (vCpuCreateOn vm o).2.1 },
      (vCpuCreateOn vm o).2.2) := by
  simp only [vCpuCreate, hvm]

/-- The slots hold exactly the live vCPUs, each under its own id. -/
structure HoldsLive (vm : HaxVm) (live : List HaxVcpuState) : Prop where
  slot : ∀ i, i < haxMaxVcpu → ∀ vcpu, vm.vcpus i = some vcpu ↔ vcpu ∈ live ∧ vcpu.vcpuId = i
  ids : (live.map HaxVcpuState.vcpuId).Nodup
  bound : ∀ vcpu ∈ live, vcpu.vcpuId < haxMaxVcpu

theorem HoldsLive.publish {vm : HaxVm} {live : List HaxVcpuState} (h : HoldsLive vm live)
    {vcpu : HaxVcpuState} (hbound : vcpu.vcpuId < haxMaxVcpu)
    (hfree : vm.vcpus vcpu.vcpuId = none) :
    HoldsLive (vm.setVcpu vcpu.vcpuId (some vcpu)) (vcpu :: live) := by
  have hfresh : ∀ cpu ∈ live, cpu.vcpuId ≠ vcpu.vcpuId := by
    intro cpu hcpu hid
    have hslot := (h.slot vcpu.vcpuId hbound cpu).mpr ⟨hcpu, hid⟩
    rw [hfree] at hslot
    cases hslot
  refine ⟨?_, ?_, ?_⟩
  · intro i hi cpu
    by_cases hiv : i = vcpu.vcpuId
    · rw [hiv, HaxVm.setVcpu_same]
      refine ⟨?_, ?_⟩
      · intro hcpu
        cases hcpu
        exact ⟨List.mem_cons_self .., rfl⟩
      · rintro ⟨hcpu, hid⟩
        rcases List.mem_cons.mp hcpu with rfl | hcpu
        · rfl
        · exact absurd hid (hfresh cpu hcpu)
    · rw [HaxVm.setVcpu_of_ne vm _ hiv, h.slot i hi cpu]
      refine ⟨fun hcpu => ⟨List.mem_cons_of_mem _ hcpu.1, hcpu.2⟩, ?_⟩
      rintro ⟨hcpu, hid⟩
      rcases List.mem_cons.mp hcpu with rfl | hcpu
      · exact absurd hid.symm hiv
      · exact ⟨hcpu, hid⟩
  · rw [List.map_cons, List.nodup_cons]
    refine ⟨?_, h.ids⟩
    intro hmem
    obtain ⟨cpu, hcpu, hid⟩ := List.mem_map.mp hmem
    exact hfresh cpu hcpu hid
  · intro cpu hcpu
    rcases List.mem_cons.mp hcpu with rfl | hcpu
    · exact hbound
    · exact h.bound cpu hcpu

theorem HoldsLive.release {vm : HaxVm} {live : List HaxVcpuState} (h : HoldsLive vm live)
    {cpu : HaxVcpuState} (hcpu : cpu ∈ live) :
    HoldsLive (vm.setVcpu cpu.vcpuId none) (live.erase cpu) := by
  have hnodup : live.Nodup := h.ids.of_map _
  have hother : ∀ other ∈ live, other.vcpuId = cpu.vcpuId → other = cpu :=
    fun other hmem hid => List.inj_on_of_nodup_map h.ids hmem hcpu hid
  refine ⟨?_, ?_, ?_⟩
  · intro i hi vcpu
    rw [hnodup.mem_erase_iff]
    by_cases hiv : i = cpu.vcpuId
    · rw [hiv, HaxVm.setVcpu_same]
      refine ⟨fun hsome => (by cases hsome), ?_⟩
      rintro ⟨⟨hne, hmem⟩, hid⟩
      exact absurd (hother vcpu hmem hid) hne
    · rw [HaxVm.setVcpu_of_ne vm _ hiv, h.slot i hi vcpu]
      refine ⟨?_, fun hlive => ⟨hlive.1.2, hlive.2⟩⟩
      rintro ⟨hmem, hid⟩
      refine ⟨⟨?_, hmem⟩, hid⟩
      intro heq
      exact hiv (heq ▸ hid.symm)
  · exact h.ids.sublist ((List.erase_sublist ..).map _)
  · exact fun vcpu hmem => h.bound vcpu (List.mem_of_mem_erase hmem)

/-- Runs on one VM: `VCpu_Create` with any outcomes, and `VCpu_Destroy` of a vCPU that
was returned and is not destroyed yet. -/
inductive VcpuRun : HaxState → List HaxVcpuState → Prop where
  | start {hax : HaxState} {vm : HaxVm} (hvm : hax.vm = some vm) (hnew : ∀ i, vm.vcpus i = none) :
      VcpuRun hax []
  | create {hax : HaxState} {live : List HaxVcpuState} (h : VcpuRun hax live) (o : VcpuOutcome) :
      VcpuRun (vCpuCreate hax o).2.1 ((vCpuCreate hax o).1.toList ++ live)
  | destroy {hax : HaxState} {live : List HaxVcpuState} (h : VcpuRun hax live)
      {cpu : HaxVcpuState} (hcpu : cpu ∈ live) :
      VcpuRun (vCpuDestroy hax cpu).2.1 (live.erase cpu)

theorem vCpuCreate_holdsLive {hax : HaxState} {vm : HaxVm} {live : List HaxVcpuState}
    (hvm : hax.vm = some vm) (h : HoldsLive vm live) (o : VcpuOutcome) :
    ∃ vm', (vCpuCreate hax o).2.1.vm = some vm' ∧
      HoldsLive vm' ((vCpuCreate hax o).1.toList ++ live) := by
  rw [vCpuCreate_eq hvm o]
  rcases vCpuCreateOn_cases vm o with ⟨i, vcpu, calls, hfind, heq, hid, -⟩ | ⟨calls, heq, -⟩
  · obtain ⟨-, hlt, hfree, -⟩ := firstFree_some hfind
    rw [Nat.zero_add] at hlt
    rw [← hid] at hlt hfree heq
    rw [heq]
    exact ⟨_, rfl, h.publish hlt hfree⟩
  · rw [heq]
    exact ⟨_, rfl, h⟩

/-- `VCpu_Destroy` of a live vCPU: it succeeds, empties the slot and closes the handle. -/
structure Destroys (hax : HaxState) (vm : HaxVm) (cpu : HaxVcpuState) : Prop where
  succeeds : (vCpuDestroy hax cpu).1 = true
  emptied : (vCpuDestroy hax cpu).2.1 = { hax with vm := some (vm.setVcpu cpu.vcpuId none) }
  closed : handleEvents (vCpuDestroy hax cpu).2.2 = [.closed cpu.fd]

theorem HoldsLive.destroys {hax : HaxState} {vm : HaxVm} {live : List HaxVcpuState}
    (h : HoldsLive vm live) (hvm : hax.vm = some vm) {cpu : HaxVcpuState} (hcpu : cpu ∈ live) :
    Destroys hax vm cpu := by
  have hslot := (h.slot cpu.vcpuId (h.bound cpu hcpu) cpu).mpr ⟨hcpu, rfl⟩
  have hdestroy : vCpuDestroy hax cpu =
      (true, { hax with vm := some (vm.setVcpu cpu.vcpuId none) }, [.close cpu.fd]) := by
    simp only [vCpuDestroy, hvm, vCpuDestroyOn, hslot]
  refine ⟨?_, ?_, ?_⟩
  · rw [hdestroy]
  · rw [hdestroy]
  · rw [hdestroy]
    rfl

theorem VcpuRun.holdsLive {hax : HaxState} {live : List HaxVcpuState} (h : VcpuRun hax live) :
    ∃ vm, hax.vm = some vm ∧ HoldsLive vm live := by
  induction h with
  | start hvm hnew =>
      refine ⟨_, hvm, ?_, List.nodup_nil, fun vcpu hmem => absurd hmem List.not_mem_nil⟩
      intro i _ vcpu
      rw [hnew i]
      exact ⟨fun hsome => (by cases hsome), fun hmem => absurd hmem.1 List.not_mem_nil⟩
  | create _ o ih =>
      obtain ⟨vm, hvm, hlive⟩ := ih
      exact vCpuCreate_holdsLive hvm hlive o
  | destroy _ hcpu ih =>
      obtain ⟨vm, hvm, hlive⟩ := ih
      refine ⟨_, ?_, hlive.release hcpu⟩
      rw [(hlive.destroys hvm hcpu).emptied]

/-- Every step of a `VCpu_Create` in slot `i` succeeds. -/
structure VcpuOutcome.Succeeds (o : VcpuOutcome) (vm : HaxVm) (i : Nat) : Prop where
  malloc : o.malloc = true
  create : o.createVcpu = true
  opens : haxInvalidFd (haxHostOpenVcpu vm.id i o.openVcpu).1 = false
  setsUp : ∃ info, o.setupTunnel = some info ∧ validHaxTunnelSize info.size.toNat = true

theorem VcpuOutcome.Succeeds.createAt {vm : HaxVm} {i : Nat} {o : VcpuOutcome}
    (h : o.Succeeds vm i) : ∃ vcpu calls, vCpuCreateAt vm i o =
      (some vcpu, vm.setVcpu i (some vcpu), calls) ∧ vcpu.vcpuId = i := by
  obtain ⟨info, hinfo, hsize⟩ := h.setsUp
  have hchannel : ∀ vcpu : HaxVcpuState, haxHostSetupVcpuChannel vcpu o.setupTunnel =
      some { vcpu with tunnel := info.va, iobuf := info.ioVa } := by
    intro vcpu
    rw [haxHostSetupVcpuChannel, hinfo, Option.bind_some, if_pos hsize]
  have hopens := h.opens
  rw [vCpuCreateAt, if_neg (by rw [h.create]; decide)]
  generalize haxHostOpenVcpu vm.id i o.openVcpu = answer at hopens
  obtain ⟨fd, opened⟩ := answer
  simp only [hopens, Bool.false_eq_true, if_false, vCpuPublish, hchannel, HaxVm.setVcpu_setVcpu]
  exact ⟨_, _, rfl, rfl⟩

/-- What one `VCpu_Create` does: with all steps succeeding it takes the lowest free slot,
else it fails without a trace. It does not reach the driver when no slot is free. -/
structure CreatesInOrder (hax : HaxState) (vm : HaxVm) (o : VcpuOutcome) : Prop where
  publishes : ∀ i, i < haxMaxVcpu → vm.vcpus i = none → (∀ j, j < i → vm.vcpus j ≠ none) →
    o.Succeeds vm i → ∃ vcpu, (vCpuCreate hax o).1 = some vcpu ∧ vcpu.vcpuId = i ∧
      (vCpuCreate hax o).2.1 = { hax with vm := some (vm.setVcpu i (some vcpu)) }
  lowest : ∀ vcpu, (vCpuCreate hax o).1 = some vcpu →
    vm.vcpus vcpu.vcpuId = none ∧ ∀ j, j < vcpu.vcpuId → vm.vcpus j ≠ none
  full : (∀ i, i < haxMaxVcpu → vm.vcpus i ≠ none) →
    (vCpuCreate hax o).1 = none ∧ (vCpuCreate hax o).2.2 = []
  restored : (vCpuCreate hax o).1 = none → (vCpuCreate hax o).2.1 = hax
  closed : (vCpuCreate hax o).1 = none →
    (handleEvents (vCpuCreate hax o).2.2).filterMap HandleEvent.closedHandle =
      (handleEvents (vCpuCreate hax o).2.2).filterMap HandleEvent.openedHandle

theorem vCpuCreate_publishes {hax : HaxState} {vm : HaxVm} (hvm : hax.vm = some vm)
    {o : VcpuOutcome} {i : Nat} (hi : i < haxMaxVcpu) (hfree : vm.vcpus i = none)
    (hbefore : ∀ j, j < i → vm.vcpus j ≠ none) (hall : o.Succeeds vm i) :
    ∃ vcpu, (vCpuCreate hax o).1 = some vcpu ∧ vcpu.vcpuId = i ∧
      (vCpuCreate hax o).2.1 = { hax with vm := some (vm.setVcpu i (some vcpu)) } := by
  have hfind : findFreeVcpu vm = some i := by
    cases hfind : findFreeVcpu vm with
    | none =>
        exact absurd hfree (firstFree_none_iff.mp hfind i (Nat.zero_le i) (by omega))
    | some k =>
        obtain ⟨-, -, hkfree, hklow⟩ := firstFree_some hfind
        have hle : ¬ k < i := fun hlt => hbefore k hlt hkfree
        have hge : ¬ i < k := fun hlt => hklow i (Nat.zero_le i) hlt hfree
        rw [show k = i by omega]
  obtain ⟨vcpu, calls, hcreate, hid⟩ := hall.createAt
  refine ⟨vcpu, ?_⟩
  simp only [vCpuCreate_eq hvm o, vCpuCreateOn, hfind, hall.malloc, if_true, hcreate, hid, and_self]

theorem vCpuCreate_inOrder {hax : HaxState} {vm : HaxVm} (hvm : hax.vm = some vm)
    (o : VcpuOutcome) : CreatesInOrder hax vm o := by
  have hcreate := vCpuCreate_eq hvm o
  rcases vCpuCreateOn_cases vm o with
    ⟨i, vcpu, calls, hfind, heq, hid, -⟩ | ⟨calls, heq, hevents, hnone⟩
  · obtain ⟨-, hlt, hfree, hbefore⟩ := firstFree_some hfind
    rw [Nat.zero_add] at hlt
    rw [heq] at hcreate
    refine ⟨fun _ hi hslot hlow hall => vCpuCreate_publishes hvm hi hslot hlow hall, ?_, ?_, ?_, ?_⟩
    · rw [hcreate]
      intro vcpu' hvcpu
      cases hvcpu
      rw [hid]
      exact ⟨hfree, fun j hj => hbefore j (Nat.zero_le j) hj⟩
    · intro hall
      exact absurd hfree (hall i hlt)
    · rw [hcreate]
      intro h
      cases h
    · rw [hcreate]
      intro h
      cases h
  · rw [heq] at hcreate
    refine ⟨fun _ hi hslot hlow hall => vCpuCreate_publishes hvm hi hslot hlow hall, ?_, ?_, ?_, ?_⟩
    · rw [hcreate]
      intro vcpu' hvcpu
      cases hvcpu
    · rw [hcreate]
      intro hall
      refine ⟨rfl, hnone (firstFree_none_iff.mpr ?_)⟩
      intro j _ hj
      rw [Nat.zero_add] at hj
      exact hall j hj
    · rw [hcreate]
      intro _
      simp only [← hvm]
    · rw [hcreate]
      intro _
      rcases hevents with hevents | ⟨fd, hevents⟩
      · rw [hevents]
        rfl
      · rw [hevents]
        rfl

/-- In every run the slots match the live vCPUs, and every `VCpu_Create` and every
`VCpu_Destroy` of a live vCPU keeps to it. -/
theorem vcpuSlots_consistent {hax : HaxState} {live : List HaxVcpuState} (h : VcpuRun hax live) :
    ∃ vm, hax.vm = some vm ∧
      (∀ i, i < haxMaxVcpu → (vm.vcpus i ≠ none ↔ ∃ vcpu ∈ live, vcpu.vcpuId = i)) ∧
      (live.map HaxVcpuState.vcpuId).Nodup ∧
      (∀ vcpu ∈ live, vcpu.vcpuId < haxMaxVcpu) ∧
      (∀ o, CreatesInOrder hax vm o) ∧
      ∀ cpu ∈ live, Destroys hax vm cpu := by
  obtain ⟨vm, hvm, hlive⟩ := h.holdsLive
  refine ⟨vm, hvm, ?_, hlive.ids, hlive.bound, vCpuCreate_inOrder hvm,
    fun cpu hcpu => hlive.destroys hvm hcpu⟩
  intro i hi
  rw [Option.ne_none_iff_exists']
  refine ⟨?_, ?_⟩
  · rintro ⟨vcpu, hslot⟩
    exact ⟨vcpu, (hlive.slot i hi vcpu).mp hslot⟩
  · rintro ⟨vcpu, hmem⟩
    exact ⟨vcpu, (hlive.slot i hi vcpu).mpr hmem⟩

/-- Two vCPUs, a third one whose channel fails, and the slot of the first one used again. -/
theorem vcpuSlots_consistent_reused :
    ∃ (hax : HaxState) (vm : HaxVm), hax.vm = some vm ∧
      VcpuRun hax [⟨20, 0, 0x5000, 0x6000⟩, ⟨16, 1, 0x3000, 0x4000⟩] ∧
      (∀ i, i < haxMaxVcpu → (vm.vcpus i ≠ none ↔
        ∃ vcpu ∈ [(⟨20, 0, 0x5000, 0x6000⟩ : HaxVcpuState), ⟨16, 1, 0x3000, 0x4000⟩],
          vcpu.vcpuId = i)) ∧
      (∀ o, CreatesInOrder hax vm o) ∧ Destroys hax vm ⟨16, 1, 0x3000, 0x4000⟩ := by
  have hnew : VcpuRun ⟨4, some ⟨8, 0, fun _ => none⟩, 0⟩ [] := .start rfl fun _ => rfl
  have hone := hnew.create ⟨true, true, 12, some ⟨0x1000, 0x2000, 48⟩⟩
  have htwo := hone.create ⟨true, true, 16, some ⟨0x3000, 0x4000, 48⟩⟩
  have hfailed := htwo.create ⟨true, true, 18, some ⟨0x3000, 0x4000, 47⟩⟩
  have hfirst : (⟨12, 0, 0x1000, 0x2000⟩ : HaxVcpuState) ∈
      [(⟨16, 1, 0x3000, 0x4000⟩ : HaxVcpuState), ⟨12, 0, 0x1000, 0x2000⟩] := by decide
  have hdestroyed := hfailed.destroy hfirst
  have hreused := hdestroyed.create ⟨true, true, 20, some ⟨0x5000, 0x6000, 48⟩⟩
  obtain ⟨vm, hvm, hslot, -, -, hcreates, hdestroys⟩ := vcpuSlots_consistent hreused
  exact ⟨_, vm, hvm, hreused, hslot, hcreates, hdestroys _ (by decide)⟩

end ShellcodeVM.Hax
