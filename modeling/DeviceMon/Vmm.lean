import DeviceMon.DevMon

/-!
# VM-exit handlers

The handlers of `vmm.cpp` that touch the tables, the monitor list or the guest's state
through them : EPT violations, the monitor trap flag and VMCALL. `VmmState` is the state
of one processor at an exit. The VMCS is a function of its fields and holds the guest's
`rip` and `rflags` and the exit information; `flagReg`, `ip` and `vmContinue` are the
`GuestContext` of the exit; `pci`, `world` and `memory` are configuration space, what the
callbacks work on, and memory as the VMM addresses it.

A handler that dereferences a null pointer does not return (`none`). Logging, IRQL and
`cr8` are left out, and so are the invalidations of the TLB, which follow every change of
an entry.
-/

namespace DeviceMon

/-- `VmcsField`, the fields in use. -/
inductive VmcsField where
  -- 16-bit fields
  | virtualProcessorId
  | guestEsSelector
  | guestCsSelector
  | guestSsSelector
  | guestDsSelector
  | guestFsSelector
  | guestGsSelector
  | guestLdtrSelector
  | guestTrSelector
  | hostEsSelector
  | hostCsSelector
  | hostSsSelector
  | hostDsSelector
  | hostFsSelector
  | hostGsSelector
  | hostTrSelector
  -- 64-bit fields
  | ioBitmapA
  | ioBitmapB
  | msrBitmap
  | eptPointer
  | guestPhysicalAddress
  | vmcsLinkPointer
  | guestIa32Debugctl
  -- 32-bit fields
  | pinBasedVmExecControl
  | cpuBasedVmExecControl
  | exceptionBitmap
  | vmExitControls
  | vmEntryControls
  | vmEntryIntrInfoField
  | vmEntryExceptionErrorCode
  | vmEntryInstructionLen
  | secondaryVmExecControl
  | vmExitReason
  | vmExitIntrInfo
  | vmExitIntrErrorCode
  | vmExitInstructionLen
  | vmxInstructionInfo
  | guestEsLimit
  | guestCsLimit
  | guestSsLimit
  | guestDsLimit
  | guestFsLimit
  | guestGsLimit
  | guestLdtrLimit
  | guestTrLimit
  | guestGdtrLimit
  | guestIdtrLimit
  | guestEsArBytes
  | guestCsArBytes
  | guestSsArBytes
  | guestDsArBytes
  | guestFsArBytes
  | guestGsArBytes
  | guestLdtrArBytes
  | guestTrArBytes
  | guestSysenterCs
  | hostIa32SysenterCs
  -- natural-width fields
  | cr0GuestHostMask
  | cr4GuestHostMask
  | cr0ReadShadow
  | cr4ReadShadow
  | exitQualification
  | guestCr0
  | guestCr3
  | guestCr4
  | guestEsBase
  | guestCsBase
  | guestSsBase
  | guestDsBase
  | guestFsBase
  | guestGsBase
  | guestLdtrBase
  | guestTrBase
  | guestGdtrBase
  | guestIdtrBase
  | guestDr7
  | guestRsp
  | guestRip
  | guestRflags
  | guestSysenterEsp
  | guestSysenterEip
  | hostCr0
  | hostCr3
  | hostCr4
  | hostFsBase
  | hostGsBase
  | hostTrBase
  | hostGdtrBase
  | hostIdtrBase
  | hostIa32SysenterEsp
  | hostIa32SysenterEip
  | hostRsp
  | hostRip
deriving DecidableEq

/-- The bits of a field. -/
def VmcsField.width : VmcsField → ℕ
  | .virtualProcessorId | .guestEsSelector | .guestCsSelector | .guestSsSelector
  | .guestDsSelector | .guestFsSelector | .guestGsSelector | .guestLdtrSelector
  | .guestTrSelector | .hostEsSelector | .hostCsSelector | .hostSsSelector | .hostDsSelector
  | .hostFsSelector | .hostGsSelector | .hostTrSelector => 16
  | .pinBasedVmExecControl | .cpuBasedVmExecControl | .exceptionBitmap | .vmExitControls
  | .vmEntryControls | .vmEntryIntrInfoField | .vmEntryExceptionErrorCode
  | .vmEntryInstructionLen | .secondaryVmExecControl | .vmExitReason | .vmExitIntrInfo
  | .vmExitIntrErrorCode | .vmExitInstructionLen | .vmxInstructionInfo | .guestEsLimit
  | .guestCsLimit | .guestSsLimit | .guestDsLimit | .guestFsLimit | .guestGsLimit
  | .guestLdtrLimit | .guestTrLimit | .guestGdtrLimit | .guestIdtrLimit | .guestEsArBytes
  | .guestCsArBytes | .guestSsArBytes | .guestDsArBytes | .guestFsArBytes | .guestGsArBytes
  | .guestLdtrArBytes | .guestTrArBytes | .guestSysenterCs | .hostIa32SysenterCs => 32
  | _ => 64

/-- What a field keeps of a value : a narrow field ignores the upper bits. -/
def VmcsField.held (field : VmcsField) (value : BitVec 64) : BitVec 64 :=
  if field.width = 64 then value else (value.setWidth field.width).setWidth 64

theorem VmcsField.held_of_width_64 {field : VmcsField} (h : field.width = 64) (value : BitVec 64) :
    field.held value = value :=
  if_pos h

/-- A narrow field keeps a value of its width. -/
theorem VmcsField.held_setWidth {field : VmcsField} {w : ℕ} (h : field.width = w) (hw : w < 64)
    (value : BitVec w) : field.held (value.setWidth 64) = value.setWidth 64 := by
  rw [VmcsField.held, if_neg (by omega)]
  subst h
  rw [BitVec.setWidth_setWidth_of_le _ hw.le, BitVec.setWidth_eq]

@[simp] theorem VmcsField.held_guestRip (value : BitVec 64) :
    VmcsField.guestRip.held value = value :=
  held_of_width_64 rfl value

@[simp] theorem VmcsField.held_guestRflags (value : BitVec 64) :
    VmcsField.guestRflags.held value = value :=
  held_of_width_64 rfl value

@[simp] theorem VmcsField.held_cpuBasedVmExecControl (value : BitVec 32) :
    VmcsField.cpuBasedVmExecControl.held (value.setWidth 64) = value.setWidth 64 :=
  held_setWidth (w := 32) rfl (by decide) value

/-- Limit and base, as `lgdt` and `lidt` load them. -/
structure DescriptorTable where
  limit : BitVec 16
  base : BitVec 64

/-- One processor at a VM exit. -/
structure VmmState (B C : Type) where
  vmcs : VmcsField → BitVec 64
  gpRegs : GpRegisters
  flagReg : BitVec 64
  ip : BitVec 64
  vmContinue : Bool
  gdtr : DescriptorTable
  idtr : DescriptorTable
  /-- `ept_data` of the processor. -/
  ept : EptState
  /-- `LastFaultEntry` of the processor. -/
  lastFaultEntry : Option EntryPtr
  /-- `shared_data` of the processor. -/
  sharedData : BitVec 64
  /-- Address of the processor's data. -/
  processorData : BitVec 64
  /-- `g_MonitorDeviceList`. -/
  devices : List (PciMonitorCfg C)
  pci : B
  world : C
  memory : BitVec 64 → BitVec 8

/-- What the system around the VMM is like. -/
structure Machine (B : Type) where
  pool : Pool
  mtrr : Mtrr
  bus : PciBus B

section Handlers

variable {B C : Type}

/-! ## VMCS and guest state -/

/-- `UtilVmRead`. -/
def utilVmRead (s : VmmState B C) (field : VmcsField) : BitVec 64 :=
  s.vmcs field

/-- `UtilVmWrite`. -/
def utilVmWrite (field : VmcsField) (value : BitVec 64) (s : VmmState B C) : VmmState B C :=
  { s with vmcs := Function.update s.vmcs field (field.held value) }

def dmSetMonitorTrapFlag (enable : Bool) (s : VmmState B C) : VmmState B C :=
  let vmProcctl := (utilVmRead s .cpuBasedVmExecControl).setWidth 32
  utilVmWrite .cpuBasedVmExecControl
    ((VmxProcessorBasedControls.setMonitorTrapFlag vmProcctl enable).setWidth 64) s

/-- Injects interruption to a guest. -/
def vmmpInjectInterruption (interruptionType : InterruptionType) (vector : InterruptionVector)
    (deliverErrorCode : Bool) (errorCode : BitVec 32) (s : VmmState B C) : VmmState B C :=
  let s := utilVmWrite .vmEntryIntrInfoField
    ((vmEntryInterruptionInformation interruptionType vector deliverErrorCode).setWidth 64) s
  if deliverErrorCode then utilVmWrite .vmEntryExceptionErrorCode (errorCode.setWidth 64) s else s

/-- Advances guest's IP to the next instruction, with #DB if TF is set. -/
def vmmpAdjustGuestInstructionPointer (s : VmmState B C) : VmmState B C :=
  let exitInstLength := utilVmRead s .vmExitInstructionLen
  let s := utilVmWrite .guestRip (s.ip + exitInstLength) s
  if FlagRegister.tf s.flagReg then
    utilVmWrite .vmEntryInstructionLen exitInstLength
      (vmmpInjectInterruption .hardwareException .debugException false 0 s)
  else s

/-- Returns guest's CPL. -/
def vmmpGetGuestCpl (s : VmmState B C) : BitVec 2 :=
  dpl ((utilVmRead s .guestSsArBytes).setWidth 32)

/-! ## MTF VM-exit -/

/-- `VmmpHandleMonitorTrap` : closes the entry opened last and ends the single step. -/
def vmmpHandleMonitorTrap (s : VmmState B C) : Option (VmmState B C) :=
  match s.lastFaultEntry with
  | none => none
  | some eptPtEntry =>
    some (dmSetMonitorTrapFlag false
      { s with ept := s.ept.modify eptPtEntry .trap, lastFaultEntry := none })

/-! ## EPT violation -/

/-- The `Access` argument of the callbacks : 1 for a read, 2 for a write, 0 for neither. -/
def mmioAccess (exitQualification : EptViolationQualification) : BitVec 32 :=
  if exitQualification.readAccess then 0x1
  else if exitQualification.writeAccess then 0x2
  else 0

/-- The call of `DmExecuteCallback` in `VmmpHandleMmio`. -/
def mmioCallback (s : VmmState B C) : CallbackRun C :=
  dmExecuteCallback s.devices s.gpRegs (utilVmRead s .guestRip)
    (utilVmRead s .guestPhysicalAddress) ((utilVmRead s .vmExitInstructionLen).setWidth 32)
    (mmioAccess ⟨utilVmRead s .exitQualification⟩) s.world

/-- The entry `VmmpHandleMmio` calls the callbacks for : the address counts as monitored and
has a present entry. -/
def mmioEntry (s : VmmState B C) : Option EntryPtr :=
  let faultAddress := utilVmRead s .guestPhysicalAddress
  if !dmIsMonitoredDevice s.devices (faultAddress.setWidth 32) then none
  else
    match eptGetEptPtEntry s.ept faultAddress with
    | none => none
    | some faultEntry => if (s.ept.read faultEntry).all = 0 then none else some faultEntry

/-- `VmmpHandleMmio` : opens the entry for a single step, or skips the instruction. -/
def vmmpHandleMmio (s : VmmState B C) : Bool × VmmState B C :=
  match mmioEntry s with
  | none => (false, s)
  | some faultEntry =>
    let r := mmioCallback s
    let s := { s with gpRegs := r.context, world := r.world }
    if !r.ret then
      (true, dmSetMonitorTrapFlag true
        { s with ept := s.ept.modify faultEntry .pass, lastFaultEntry := some faultEntry })
    else (true, vmmpAdjustGuestInstructionPointer s)

/-- `VmmpHandleEptViolation`. -/
def vmmpHandleEptViolation (m : Machine B) (s : VmmState B C) : VmmState B C :=
  match vmmpHandleMmio s with
  | (true, s) => s
  | (false, s) =>
    let exitQualification := ⟨utilVmRead s .exitQualification⟩
    let faultPa := utilVmRead s .guestPhysicalAddress
    { s with ept := eptHandleEptViolation m.pool m.mtrr exitQualification faultPa s.ept }

/-! ## VMCALL -/

/-- `HypercallNumber`. -/
inductive HypercallNumber where
  | terminateVmm
  | pingVmm
  | getSharedProcessorData
  | enableVmmDeviceMonitor
  | disableVmmDeviceMonitor
deriving DecidableEq

/-- The enumerator's value. -/
def HypercallNumber.value : HypercallNumber → BitVec 32
  | .terminateVmm => 0
  | .pingVmm => 1
  | .getSharedProcessorData => 2
  | .enableVmmDeviceMonitor => 3
  | .disableVmmDeviceMonitor => 4

/-- The enumerator of a value in bounds. -/
def HypercallNumber.ofValue (value : BitVec 32) : Option HypercallNumber :=
  match value.toNat with
  | 0 => some .terminateVmm
  | 1 => some .pingVmm
  | 2 => some .getSharedProcessorData
  | 3 => some .enableVmmDeviceMonitor
  | 4 => some .disableVmmDeviceMonitor
  | _ => none

theorem HypercallNumber.ofValue_eq_some {value : BitVec 32} {number : HypercallNumber} :
    HypercallNumber.ofValue value = some number ↔ value = number.value := by
  constructor
  · intro h
    unfold HypercallNumber.ofValue at h
    split at h <;> cases h
    all_goals exact BitVec.eq_of_toNat_eq ‹_›
  · rintro rfl
    cases number <;> rfl

/-- A store of a pointer. -/
def storePointer (address value : BitVec 64) (s : VmmState B C) : VmmState B C :=
  { s with memory := fun a =>
      if (a - address).toNat < 8 then value.extractLsb' (8 * (a - address).toNat) 8
      else s.memory a }

/-- Indicates successful VMCALL. -/
def vmmpIndicateSuccessfulVmcall (s : VmmState B C) : VmmState B C :=
  let s := { s with flagReg := FlagRegister.clearStatus s.flagReg }
  vmmpAdjustGuestInstructionPointer (utilVmWrite .guestRflags s.flagReg s)

/-- Indicates unsuccessful VMCALL. -/
def vmmpIndicateUnsuccessfulVmcall (s : VmmState B C) : VmmState B C :=
  let s := vmmpInjectInterruption .hardwareException .invalidOpcodeException false 0 s
  utilVmWrite .vmEntryInstructionLen (utilVmRead s .vmExitInstructionLen) s

/-- Handles an unloading request. -/
def vmmpHandleVmCallTermination (context : BitVec 64) (s : VmmState B C) : VmmState B C :=
  let s := { s with
    gdtr := ⟨(utilVmRead s .guestGdtrLimit).setWidth 16, utilVmRead s .guestGdtrBase⟩
    idtr := ⟨(utilVmRead s .guestIdtrLimit).setWidth 16, utilVmRead s .guestIdtrBase⟩ }
  let s := storePointer context s.processorData s
  let returnAddress := s.ip + utilVmRead s .vmExitInstructionLen
  let s := { s with flagReg := FlagRegister.clearStatus s.flagReg }
  { s with
    gpRegs := { s.gpRegs with cx := returnAddress, dx := s.gpRegs.sp, ax := s.flagReg }
    vmContinue := false }

/-- `VmmpHandleVmCall`. A number out of bounds matches no case of the `switch`. -/
def vmmpHandleVmCall (m : Machine B) (s : VmmState B C) : VmmState B C :=
  let hypercallNumber := s.gpRegs.cx.setWidth 32
  let context := s.gpRegs.dx
  match HypercallNumber.ofValue hypercallNumber with
  | none => vmmpIndicateUnsuccessfulVmcall s
  | some .terminateVmm =>
    if vmmpGetGuestCpl s = 0 then vmmpHandleVmCallTermination context s
    else vmmpIndicateUnsuccessfulVmcall s
  | some .pingVmm => vmmpIndicateSuccessfulVmcall s
  | some .getSharedProcessorData =>
    vmmpIndicateSuccessfulVmcall (storePointer context s.sharedData s)
  | some .enableVmmDeviceMonitor =>
    let ((devices, ept), pci) :=
      (dmEnableDeviceMonitor m.pool m.mtrr s.devices s.ept).run m.bus s.pci
    vmmpIndicateSuccessfulVmcall { s with devices := devices, ept := ept, pci := pci }
  | some .disableVmmDeviceMonitor =>
    let ((devices, ept), pci) := (dmDisableDeviceMonitor s.devices s.ept).run m.bus s.pci
    vmmpIndicateSuccessfulVmcall { s with devices := devices, ept := ept, pci := pci }

/-! ## Dispatch -/

/-- The exits this model handles. No other handler touches the tables, `LastFaultEntry` or
the execution controls. -/
inductive VmExitReason where
  | monitorTrapFlag
  | eptViolation
  | vmcall
deriving DecidableEq

/-- Captures the guest's context. -/
def captureGuestContext (s : VmmState B C) : VmmState B C :=
  { s with
    flagReg := utilVmRead s .guestRflags
    ip := utilVmRead s .guestRip
    vmContinue := true
    gpRegs := { s.gpRegs with sp := utilVmRead s .guestRsp } }

/-- `VmmpHandleVmExit`. -/
def vmmpHandleVmExit (m : Machine B) (reason : VmExitReason) (s : VmmState B C) :
    Option (VmmState B C) :=
  match reason with
  | .monitorTrapFlag => vmmpHandleMonitorTrap s
  | .eptViolation => some (vmmpHandleEptViolation m s)
  | .vmcall => some (vmmpHandleVmCall m s)

/-- `VmmVmExitHandler`. -/
def vmmVmExitHandler (m : Machine B) (reason : VmExitReason) (s : VmmState B C) :
    Option (VmmState B C) :=
  vmmpHandleVmExit m reason (captureGuestContext s)

end Handlers

end DeviceMon
