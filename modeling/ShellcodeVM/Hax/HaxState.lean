import ShellcodeVM.Lib.Handles

/-!
The records of the C-style VM API (`hax-i386.h`) and what it asks of the system
(`hax-windows.c`, `hax-windows.h`). Objects are kept by value: a slot of `vcpus` is
the vCPU it points to. Every system call is recorded with its outcome.
-/
namespace ShellcodeVM.Hax
open Machine

/-- A 32-bit `HANDLE`. -/
abbrev HaxFd := UInt32

def invalidHandleValue : HaxFd := 0xFFFFFFFF

def haxInvalidFd (fd : HaxFd) : Bool := fd == invalidHandleValue || fd == 0

def haxMaxVcpu : Nat := 0x10
def maxVmId : Int := 0x40
def maxVcpuId : Int := 0x40

structure HaxVcpuState where
  fd : HaxFd
  vcpuId : Nat
  tunnel : UInt64
  iobuf : UInt64
deriving DecidableEq, Repr

structure HaxVm where
  fd : HaxFd
  id : Int
  vcpus : Nat → Option HaxVcpuState

structure HaxState where
  fd : HaxFd
  vm : Option HaxVm
  memQuota : UInt64

def HaxVm.setVcpu (vm : HaxVm) (i : Nat) (vcpu : Option HaxVcpuState) : HaxVm :=
  { vm with vcpus := fun j => if j = i then vcpu else vm.vcpus j }

inductive IoctlCode where
  | capability
  | version
  | createVm
  | notifyQemuVersion
  | vcpuCreate
  | setupTunnel
deriving DecidableEq, Repr

/-- A call to the system with its outcome. -/
inductive DriverCall where
  | modOpen (fd : HaxFd)
  | openVm (vmId : Int) (fd : HaxFd)
  | openVcpu (vmId : Int) (vcpuId : Nat) (fd : HaxFd)
  | ioctl (fd : HaxFd) (code : IoctlCode) (ok : Bool)
  | close (fd : HaxFd)
deriving DecidableEq, Repr

/-- The handle that a call opens or closes. -/
def DriverCall.handleEvent : DriverCall → Option (HandleEvent HaxFd)
  | .modOpen fd | .openVm _ fd | .openVcpu _ _ fd =>
      if haxInvalidFd fd then none else some (.opened fd)
  | .ioctl _ _ _ => none
  | .close fd => some (.closed fd)

def handleEvents (calls : List DriverCall) : List (HandleEvent HaxFd) :=
  calls.filterMap DriverCall.handleEvent

structure HaxTunnelInfo where
  va : UInt64
  ioVa : UInt64
  size : UInt16
deriving DecidableEq, Repr

/-- `sizeof(struct hax_tunnel)`. -/
def haxTunnelSize : Nat := 48

def validHaxTunnelSize (size : Nat) : Bool := haxTunnelSize ≤ size

theorem handleEvents_ioctl (fd : HaxFd) (code : IoctlCode) (ok : Bool) (calls : List DriverCall) :
    handleEvents (.ioctl fd code ok :: calls) = handleEvents calls :=
  rfl

/-- A call that opens does so when the handle it returns is valid. -/
theorem handleEvents_of_opens {call : DriverCall} {fd : HaxFd}
    (h : call.handleEvent = if haxInvalidFd fd then none else some (.opened fd)) :
    handleEvents [call] = if haxInvalidFd fd then [] else [.opened fd] := by
  cases hfd : haxInvalidFd fd with
  | true =>
      rw [hfd] at h
      exact List.filterMap_cons_none h
  | false =>
      rw [hfd] at h
      exact List.filterMap_cons_some h

theorem handleEvents_append (calls calls' : List DriverCall) :
    handleEvents (calls ++ calls') = handleEvents calls ++ handleEvents calls' :=
  List.filterMap_append

theorem HaxVm.setVcpu_same (vm : HaxVm) (i : Nat) (vcpu : Option HaxVcpuState) :
    (vm.setVcpu i vcpu).vcpus i = vcpu :=
  if_pos rfl

theorem HaxVm.setVcpu_of_ne (vm : HaxVm) {i j : Nat} (vcpu : Option HaxVcpuState) (h : j ≠ i) :
    (vm.setVcpu i vcpu).vcpus j = vm.vcpus j :=
  if_neg h

/-- Emptying a slot that was empty restores the VM. -/
theorem HaxVm.setVcpu_none {vm : HaxVm} {i : Nat} (h : vm.vcpus i = none) :
    vm.setVcpu i none = vm := by
  have hvcpus : (fun j => if j = i then none else vm.vcpus j) = vm.vcpus := by
    funext j
    by_cases hj : j = i
    · rw [if_pos hj, hj, h]
    · rw [if_neg hj]
  rw [HaxVm.setVcpu, hvcpus]

/-- A second store to a slot overwrites the first. -/
theorem HaxVm.setVcpu_setVcpu (vm : HaxVm) (i : Nat) (vcpu vcpu' : Option HaxVcpuState) :
    (vm.setVcpu i vcpu).setVcpu i vcpu' = vm.setVcpu i vcpu' := by
  have hvcpus : (fun j => if j = i then vcpu' else if j = i then vcpu else vm.vcpus j) =
      fun j => if j = i then vcpu' else vm.vcpus j := by
    funext j
    by_cases hj : j = i
    · rw [if_pos hj, if_pos hj]
    · rw [if_neg hj, if_neg hj, if_neg hj]
  simp only [HaxVm.setVcpu, hvcpus]

end ShellcodeVM.Hax
