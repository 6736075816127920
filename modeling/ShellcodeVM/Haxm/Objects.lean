import ShellcodeVM.Lib.AssocMap
import ShellcodeVM.Hax.HaxState
import ShellcodeVM.Haxm.WriteVmcs

/-!
The objects `HAXM`, `HAXM_VM` and `HAXM_CPU` (`HAXM.h`, `HAXM_VM.h`, `HAXM_CPU.h`)
and the handles that they own. An owner keeps its objects by value; what `CreateFile`
and the driver answer are arguments, and `closeHandle` tells whether `CloseHandle`
succeeds on a handle. The system calls made are returned with the result.
-/
namespace ShellcodeVM.Haxm
open Machine

/-- A `HANDLE`; one of 32 bits is sign-extended. -/
abbrev Handle := UInt64

def invalidHandleValue : Handle := 0xFFFFFFFFFFFFFFFF

/-- The files that `CreateFile` is asked for. -/
inductive DeviceName where
  | hax
  | haxVm (vmid : UInt32)
  | haxVmVcpu (vmid vcpuid : UInt32)
deriving DecidableEq, Repr

inductive IoctlCode where
  | createVm
  | vcpuCreate
  | setupTunnel
  | getRegs
deriving DecidableEq, Repr

/-- A call to the system with its outcome. -/
inductive SystemCall where
  | createFile (name : DeviceName) (h : Handle)
  | deviceIoControl (h : Handle) (code : IoctlCode) (ok : Bool)
  | closeHandle (h : Handle) (ok : Bool)
deriving DecidableEq, Repr

/-- The handle that a call opens or closes. -/
def SystemCall.handleEvent : SystemCall → Option (HandleEvent Handle)
  | .createFile _ h => if h = invalidHandleValue then none else some (.opened h)
  | .deviceIoControl _ _ _ => none
  | .closeHandle h ok => if ok then some (.closed h) else none

def handleEvents (calls : List SystemCall) : List (HandleEvent Handle) :=
  calls.filterMap SystemCall.handleEvent

/-! `HAXM_CPU`. -/

/-- The registers of a `HAXM_CPU` with its identity, its handle and its tunnel. -/
structure HaxmCpuObject extends HaxmCpu where
  mVmid : UInt32
  mVcpuid : UInt32
  mHCpu : Handle
  mTunnel : UInt64
  mIobuf : UInt64
deriving DecidableEq, Repr

/-- What the system answers to `HAXM_VM::create_cpu`. -/
structure CpuOutcome where
  vcpuCreate : Bool
  createFile : Handle
  setupTunnel : Option Hax.HaxTunnelInfo
  getRegs : Option VcpuState
deriving DecidableEq, Repr

namespace HaxmCpuObject

def new (vmid vcpuid : UInt32) : HaxmCpuObject where
  mState := default
  mVmid := vmid
  mVcpuid := vcpuid
  mHCpu := invalidHandleValue
  mTunnel := 0
  mIobuf := 0

def setupChannel (cpu : HaxmCpuObject) (info : Option Hax.HaxTunnelInfo) :
    Bool × HaxmCpuObject × List SystemCall :=
  let call := SystemCall.deviceIoControl cpu.mHCpu .setupTunnel info.isSome
  match info with
  | none => (false, cpu, [call])
  | some info =>
      if info.size.toNat < Hax.haxTunnelSize then (false, cpu, [call])
      else (true, { cpu with mTunnel := info.va, mIobuf := info.ioVa }, [call])

def getCpuState (cpu : HaxmCpuObject) (state : Option VcpuState) :
    Bool × HaxmCpuObject × List SystemCall :=
  let call := SystemCall.deviceIoControl cpu.mHCpu .getRegs state.isSome
  match state with
  | none => (false, cpu, [call])
  | some state => (true, { cpu with mState := state }, [call])

/-- `return setup_channel() && get_cpu_state()`. -/
def setupAndGet (cpu : HaxmCpuObject) (o : CpuOutcome) :
    Bool × HaxmCpuObject × List SystemCall :=
  let (ok, cpu, calls) := cpu.setupChannel o.setupTunnel
  if ok = false then (false, cpu, calls)
  else
    let (ok, cpu, calls') := cpu.getCpuState o.getRegs
    (ok, cpu, calls ++ calls')

/-- `HAXM_CPU::open`. -/
def openCpu (cpu : HaxmCpuObject) (o : CpuOutcome) : Bool × HaxmCpuObject × List SystemCall :=
  let call := SystemCall.createFile (.haxVmVcpu cpu.mVmid cpu.mVcpuid) o.createFile
  let cpu := { cpu with mHCpu := o.createFile }
  if cpu.mHCpu = invalidHandleValue then (false, cpu, [call])
  else
    let (ok, cpu, calls) := cpu.setupAndGet o
    (ok, cpu, call :: calls)

/-- `HAXM_CPU::close`. -/
def close (closeHandle : Handle → Bool) (cpu : HaxmCpuObject) :
    Bool × HaxmCpuObject × List SystemCall :=
  if cpu.mHCpu = invalidHandleValue then (true, cpu, [])
  else
    let call := SystemCall.closeHandle cpu.mHCpu (closeHandle cpu.mHCpu)
    if closeHandle cpu.mHCpu = false then (false, cpu, [call])
    else (true, { cpu with mHCpu := invalidHandleValue }, [call])

/-- `~HAXM_CPU`: the calls that `delete` makes. -/
def delete (closeHandle : Handle → Bool) (cpu : HaxmCpuObject) : List SystemCall :=
  (cpu.close closeHandle).2.2

end HaxmCpuObject

/-! `HAXM_VM`. -/

structure HaxmVm where
  mVmid : UInt32
  mHVm : Handle
  mCpuList : List (Int × HaxmCpuObject)
deriving DecidableEq, Repr

namespace HaxmVm

def new (vmid : UInt32) : HaxmVm where
  mVmid := vmid
  mHVm := invalidHandleValue
  mCpuList := []

/-- `HAXM_VM::open_vm`. -/
def openVm (vm : HaxmVm) (h : Handle) : Bool × HaxmVm × List SystemCall :=
  let vm := { vm with mHVm := h }
  (vm.mHVm ≠ invalidHandleValue, vm, [.createFile (.haxVm vm.mVmid) h])

/-- `HAXM_VM::close_vm`. -/
def closeVm (closeHandle : Handle → Bool) (vm : HaxmVm) : Bool × HaxmVm × List SystemCall :=
  if vm.mHVm = invalidHandleValue then (true, vm, [])
  else
    let deleted := vm.mCpuList.flatMap fun entry => entry.2.delete closeHandle
    let vm := { vm with mCpuList := [] }
    let call := SystemCall.closeHandle vm.mHVm (closeHandle vm.mHVm)
    if closeHandle vm.mHVm = false then (false, vm, deleted ++ [call])
    else (true, { vm with mHVm := invalidHandleValue }, deleted ++ [call])

/-- `~HAXM_VM`: the calls that `delete` makes. -/
def delete (closeHandle : Handle → Bool) (vm : HaxmVm) : List SystemCall :=
  (vm.closeVm closeHandle).2.2

/-- `HAXM_VM::create_cpu`. -/
def createCpu (closeHandle : Handle → Bool) (vm : HaxmVm) (o : CpuOutcome) :
    Option HaxmCpuObject × HaxmVm × List SystemCall :=
  let vcpuid : Int := vm.mCpuList.length
  let call := SystemCall.deviceIoControl vm.mHVm .vcpuCreate o.vcpuCreate
  if o.vcpuCreate = false then (none, vm, [call])
  else
    let (ok, vcpu, calls) := (HaxmCpuObject.new vm.mVmid (UInt32.ofInt vcpuid)).openCpu o
    if ok = false then (none, vm, call :: calls ++ vcpu.delete closeHandle)
    else (some vcpu, { vm with mCpuList := assign vcpuid vcpu vm.mCpuList }, call :: calls)

end HaxmVm

/-! `HAXM`. -/

/-- A `HAXM`. -/
structure HaxmDevice where
  mHDevice : Handle
  mVmList : List (Int × HaxmVm)
deriving DecidableEq, Repr

/-- What the system answers to `HAXM::create_vm`. -/
structure VmOutcome where
  createVm : Option Int
  createFile : Handle
deriving DecidableEq, Repr

namespace HaxmDevice

def new : HaxmDevice where
  mHDevice := invalidHandleValue
  mVmList := []

/-- `HAXM::open_device`. -/
def openDevice (haxm : HaxmDevice) (h : Handle) : Bool × HaxmDevice × List SystemCall :=
  if haxm.mHDevice ≠ invalidHandleValue then (true, haxm, [])
  else
    let haxm := { haxm with mHDevice := h }
    (haxm.mHDevice ≠ invalidHandleValue, haxm, [.createFile .hax h])

/-- `HAXM::close_device`. -/
def closeDevice (closeHandle : Handle → Bool) (haxm : HaxmDevice) : Bool × HaxmDevice × List SystemCall :=
  if haxm.mHDevice = invalidHandleValue then (true, haxm, [])
  else
    let deleted := haxm.mVmList.flatMap fun entry => entry.2.delete closeHandle
    let haxm := { haxm with mVmList := [] }
    let call := SystemCall.closeHandle haxm.mHDevice (closeHandle haxm.mHDevice)
    if closeHandle haxm.mHDevice = false then (false, haxm, deleted ++ [call])
    else (true, { haxm with mHDevice := invalidHandleValue }, deleted ++ [call])

/-- `~HAXM`: the calls that the destructor makes. -/
def delete (closeHandle : Handle → Bool) (haxm : HaxmDevice) : List SystemCall :=
  (haxm.closeDevice closeHandle).2.2

/-- `HAXM::create_vm`. -/
def createVm (closeHandle : Handle → Bool) (haxm : HaxmDevice) (o : VmOutcome) :
    Option HaxmVm × HaxmDevice × List SystemCall :=
  let call := SystemCall.deviceIoControl haxm.mHDevice .createVm o.createVm.isSome
  match o.createVm with
  | none => (none, haxm, [call])
  | some vmid =>
      let (ok, vm, calls) := (HaxmVm.new (UInt32.ofInt vmid)).openVm o.createFile
      if ok = false then (none, haxm, call :: calls ++ vm.delete closeHandle)
      else (some vm, { haxm with mVmList := assign vmid vm haxm.mVmList }, call :: calls)

end HaxmDevice
end ShellcodeVM.Haxm
