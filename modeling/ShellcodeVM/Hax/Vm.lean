import ShellcodeVM.Hax.VirtualCpu

/-!
`VM_HaxEnabled`, `VM_CreateInstance` and `VM_DestroyInstance` (`VM.cpp`) over
`HaxVM.cpp`. As in `VirtualCPU.cpp` the outcomes of allocations and of the driver
are arguments. `hax_mod_open` is taken to return an invalid handle when it fails.
-/
namespace ShellcodeVM.Hax

def haxCurrentVersion : UInt32 := 0x2
def haxMinVersion : UInt32 := 0x1

def haxCapWorkstatusMask : UInt16 := 0x1
def haxCapStatusNotworking : UInt16 := 0x0
def haxCapMemquota : UInt16 := 0x2

structure HaxModuleVersion where
  compatVersion : UInt32
  curVersion : UInt32
deriving DecidableEq, Repr

structure HaxCapabilityInfo where
  wstatus : UInt16
  winfo : UInt16
  memQuota : UInt64
deriving DecidableEq, Repr

/-- `HaxIsAvailable`: the answer of `HAX_IOCTL_CAPABILITY`, none when it fails. -/
def haxIsAvailable (hax : HaxState) (cap : Option HaxCapabilityInfo) : Bool × List DriverCall :=
  if haxInvalidFd hax.fd then (false, [])
  else
    let calls := [DriverCall.ioctl hax.fd .capability cap.isSome]
    match cap with
    | none => (false, calls)
    | some cap =>
        if cap.wstatus &&& haxCapWorkstatusMask = haxCapStatusNotworking then (false, calls)
        else if cap.wstatus &&& haxCapMemquota ≠ 0 ∧ cap.memQuota < hax.memQuota then (false, calls)
        else (true, calls)

/-- `HaxIsSupported`: the answer of `HAX_IOCTL_VERSION`, none when it fails. -/
def haxIsSupported (hax : HaxState) (version : Option HaxModuleVersion) :
    Bool × List DriverCall :=
  if haxInvalidFd hax.fd then (false, [])
  else
    let calls := [DriverCall.ioctl hax.fd .version version.isSome]
    match version with
    | none => (false, calls)
    | some version =>
        (!(version.curVersion < haxMinVersion || haxCurrentVersion < version.compatVersion), calls)

/-- `VM_HaxEnabled`: the temporary state is closed on every way out. -/
def vmHaxEnabled (fd : HaxFd) (cap : Option HaxCapabilityInfo)
    (version : Option HaxModuleVersion) : Bool × List DriverCall :=
  let hax : HaxState := ⟨fd, none, 0⟩
  let opened := [DriverCall.modOpen fd]
  if haxInvalidFd hax.fd then (false, opened)
  else
    let (available, calls) := haxIsAvailable hax cap
    if available = false then (false, opened ++ calls ++ [.close hax.fd])
    else
      let (supported, calls') := haxIsSupported hax version
      (supported, opened ++ calls ++ calls' ++ [.close hax.fd])

/-- What the allocations and the driver answer to one `VM_CreateInstance`. -/
structure InstanceOutcome where
  instanceMalloc : Bool
  modOpen : HaxFd
  vmMalloc : Bool
  createVm : Option Int
  openVm : HaxFd
  notify : Bool
deriving DecidableEq, Repr

/-- `hax_host_open_vm`: no file is opened for an id that is too big. -/
def haxHostOpenVm (vmId : Int) (fd : HaxFd) : HaxFd × List DriverCall :=
  if maxVmId < vmId then (invalidHandleValue, []) else (fd, [.openVm vmId fd])

/-- `HaxVmCreate` once the driver has created the VM. -/
def haxVmOpen (vmId : Int) (o : InstanceOutcome) : Option HaxVm × List DriverCall :=
  let (fd, opened) := haxHostOpenVm vmId o.openVm
  if haxInvalidFd fd then (none, opened)
  else (some ⟨fd, vmId, fun _ => none⟩, opened ++ [.ioctl fd .notifyQemuVersion o.notify])

/-- `HaxVmCreate`: the VM to link to the state, or none. -/
def haxVmCreate (hax : HaxState) (o : InstanceOutcome) : Option HaxVm × List DriverCall :=
  if haxInvalidFd hax.fd then (none, [])
  else
    match hax.vm with
    | some vm => (some vm, [])
    | none =>
        if o.vmMalloc = false then (none, [])
        else
          let call := DriverCall.ioctl hax.fd .createVm o.createVm.isSome
          match o.createVm with
          | none => (none, [call])
          | some vmId =>
              let (vm, calls) := haxVmOpen vmId o
              (vm, call :: calls)

/-- `VM_CreateInstance`; the state is freed when no VM can be linked to it. -/
def vmCreateInstance (ramSize : UInt32) (o : InstanceOutcome) :
    Option HaxState × List DriverCall :=
  if o.instanceMalloc = false then (none, [])
  else
    let inst : HaxState := ⟨o.modOpen, none, ramSize.toUInt64⟩
    let opened := [DriverCall.modOpen o.modOpen]
    match haxVmCreate inst o with
    | (none, calls) => (none, opened ++ calls)
    | (some vm, calls) => (some { inst with vm := some vm }, opened ++ calls)

/-- Does some slot of the VM hold a vCPU? -/
def hasVcpu (vm : HaxVm) : Bool :=
  (List.range haxMaxVcpu).any fun i => (vm.vcpus i).isSome

/-- `HaxVmDestroy`. -/
def haxVmDestroy (vm : Option HaxVm) : Bool × List DriverCall :=
  match vm with
  | none => (false, [])
  | some vm => if hasVcpu vm then (false, []) else (true, [.close vm.fd])

/-- `VM_DestroyInstance`: on success the state is freed. -/
def vmDestroyInstance (hax : HaxState) : Bool × List DriverCall :=
  haxVmDestroy hax.vm

end ShellcodeVM.Hax
