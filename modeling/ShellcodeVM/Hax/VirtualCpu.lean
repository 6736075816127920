import ShellcodeVM.Lib.Slots
import ShellcodeVM.Hax.HaxState

/-!
`VCpu_Create` and `VCpu_Destroy` (`VirtualCPU.cpp`). The outcomes of the allocation
and of the driver are arguments; the calls made are returned with the result.
-/
namespace ShellcodeVM.Hax
open Machine

/-- What the allocation and the driver answer to one `VCpu_Create`. -/
structure VcpuOutcome where
  malloc : Bool
  createVcpu : Bool
  openVcpu : HaxFd
  setupTunnel : Option HaxTunnelInfo
deriving DecidableEq, Repr

/-- `hax_host_open_vcpu`: no file is opened for an id that is too big. -/
def haxHostOpenVcpu (vmId : Int) (vcpuId : Nat) (fd : HaxFd) : HaxFd × List DriverCall :=
  if maxVmId < vmId ∨ maxVcpuId < vcpuId then (invalidHandleValue, [])
  else (fd, [.openVcpu vmId vcpuId fd])

/-- `hax_host_setup_vcpu_channel`: the vCPU with its tunnel, or none when it fails. -/
def haxHostSetupVcpuChannel (vcpu : HaxVcpuState) (info : Option HaxTunnelInfo) :
    Option HaxVcpuState :=
  info.bind fun info =>
    if validHaxTunnelSize info.size.toNat then
      some { vcpu with tunnel := info.va, iobuf := info.ioVa }
    else none

/-- The lowest free slot. -/
def findFreeVcpu (vm : HaxVm) : Option Nat :=
  firstFree (fun i => vm.vcpus i = none) haxMaxVcpu 0

/-- The label `error:` of `VCpu_Create`. -/
def vCpuCreateError (vm : HaxVm) (vcpu : HaxVcpuState) : HaxVm × List DriverCall :=
  (vm.setVcpu vcpu.vcpuId none, if haxInvalidFd vcpu.fd then [] else [.close vcpu.fd])

/-- `VCpu_Create` once the handle is there: the slot is published before the channel
is set up. -/
def vCpuPublish (vm : HaxVm) (vcpu : HaxVcpuState) (o : VcpuOutcome) :
    Option HaxVcpuState × HaxVm × List DriverCall :=
  let vm := vm.setVcpu vcpu.vcpuId (some vcpu)
  let call := DriverCall.ioctl vcpu.fd .setupTunnel o.setupTunnel.isSome
  match haxHostSetupVcpuChannel vcpu o.setupTunnel with
  | none =>
      let (vm, closed) := vCpuCreateError vm vcpu
      (none, vm, call :: closed)
  | some vcpu => (some vcpu, vm.setVcpu vcpu.vcpuId (some vcpu), [call])

/-- `VCpu_Create` once a slot and memory are there. -/
def vCpuCreateAt (vm : HaxVm) (cpuId : Nat) (o : VcpuOutcome) :
    Option HaxVcpuState × HaxVm × List DriverCall :=
  let vcpu : HaxVcpuState := ⟨0, cpuId, 0, 0⟩
  let call := DriverCall.ioctl vm.fd .vcpuCreate o.createVcpu
  if o.createVcpu = false then
    let (vm, closed) := vCpuCreateError vm vcpu
    (none, vm, call :: closed)
  else
    let (fd, opened) := haxHostOpenVcpu vm.id cpuId o.openVcpu
    let vcpu := { vcpu with fd := fd }
    if haxInvalidFd vcpu.fd then
      let (vm, closed) := vCpuCreateError vm vcpu
      (none, vm, call :: opened ++ closed)
    else
      let (vcpu, vm, calls) := vCpuPublish vm vcpu o
      (vcpu, vm, call :: opened ++ calls)

/-- `VCpu_Create` on a VM. -/
def vCpuCreateOn (vm : HaxVm) (o : VcpuOutcome) :
    Option HaxVcpuState × HaxVm × List DriverCall :=
  match findFreeVcpu vm with
  | none => (none, vm, [])
  | some cpuId => if o.malloc then vCpuCreateAt vm cpuId o else (none, vm, [])

/-- `VCpu_Create(Hax)`. -/
def vCpuCreate (hax : HaxState) (o : VcpuOutcome) :
    Option HaxVcpuState × HaxState × List DriverCall :=
  match hax.vm with
  | none => (none, hax, [])
  | some vm =>
      let (vcpu, vm, calls) := vCpuCreateOn vm o
      (vcpu, { hax with vm := some vm }, calls)

/-- `VCpu_Destroy` on a VM. -/
def vCpuDestroyOn (vm : HaxVm) (cpu : HaxVcpuState) : Bool × HaxVm × List DriverCall :=
  match vm.vcpus cpu.vcpuId with
  | none => (false, vm, [])
  | some vcpu => (true, vm.setVcpu cpu.vcpuId none, [.close vcpu.fd])

/-- `VCpu_Destroy(Hax, CPU)`. -/
def vCpuDestroy (hax : HaxState) (cpu : HaxVcpuState) : Bool × HaxState × List DriverCall :=
  match hax.vm with
  | none => (false, hax, [])
  | some vm =>
      let (ok, vm, calls) := vCpuDestroyOn vm cpu
      (ok, { hax with vm := some vm }, calls)

end ShellcodeVM.Hax
