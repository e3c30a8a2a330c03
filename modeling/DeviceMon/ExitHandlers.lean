import DeviceMon.Processor

/-!
# All VM-exit handlers

The handlers of `vmm.cpp` on `ExitState`, and `VmmpHandleVmExit` with every reason it names. A
handler that ends in a bug check, or dereferences a null pointer, does not return (`none`).
Logging, the invalidations of the caches and the trap frame are left out. What a handler reads
and decides without writing the VMCS is as in `VmmState`.
-/

namespace DeviceMon

namespace ExitState

variable {B C : Type}

/-! ## Guest state -/

/-- Injects interruption to a guest. -/
def vmmpInjectInterruption (interruptionType : InterruptionType) (vector : InterruptionVector)
    (deliverErrorCode : Bool) (errorCode : BitVec 32) (s : ExitState B C) : ExitState B C :=
  let s := utilVmWrite .vmEntryIntrInfoField
    ((vmEntryInterruptionInformation interruptionType vector deliverErrorCode).setWidth 64) s
  if deliverErrorCode then utilVmWrite .vmEntryExceptionErrorCode (errorCode.setWidth 64) s else s

/-- Advances guest's IP to the next instruction, with #DB if TF is set. -/
def vmmpAdjustGuestInstructionPointer (s : ExitState B C) : ExitState B C :=
  let exitInstLength := utilVmRead s .vmExitInstructionLen
  let s := utilVmWrite .guestRip (s.ip + exitInstLength) s
  if FlagRegister.tf s.flagReg then
    utilVmWrite .vmEntryInstructionLen exitInstLength
      (vmmpInjectInterruption .hardwareException .debugException false 0 s)
  else s

/-- Returns a kernel CR3 value of the current process. -/
def vmmpGetKernelCr3 (m : ExitMachine B) (s : ExitState B C) : BitVec 64 :=
  let guestCr3 := utilVmRead s .guestCr3
  if guestCr3.getLsbD 0 then m.directoryTableBase else guestCr3

/-- Runs `f` with the guest's `cr3`. -/
def withGuestCr3 (m : ExitMachine B) (f : ExitState B C → ExitState B C) (s : ExitState B C) :
    ExitState B C :=
  let vmmCr3 := s.cpu.cr3
  let s := f { s with cpu := { s.cpu with cr3 := vmmpGetKernelCr3 m s } }
  { s with cpu := { s.cpu with cr3 := vmmCr3 } }

/-! ## Exceptions -/

/-- `VmmpHandleException` : #PF, #GP and #BP are passed on. -/
def vmmpHandleException (s : ExitState B C) : Option (ExitState B C) :=
  let exception := (utilVmRead s .vmExitIntrInfo).setWidth 32
  let interruptionType := VmExitInterruptionInformation.interruptionType exception
  let vector := VmExitInterruptionInformation.vector exception
  let errorCode := (utilVmRead s .vmExitIntrErrorCode).setWidth 32
  if interruptionType = InterruptionType.hardwareException.code then
    if vector = InterruptionVector.pageFaultException.code then
      let faultAddress := utilVmRead s .exitQualification
      let s := vmmpInjectInterruption .hardwareException .pageFaultException true errorCode s
      some { s with cpu := { s.cpu with cr2 := faultAddress } }
    else if vector = InterruptionVector.generalProtectionException.code then
      some (vmmpInjectInterruption .hardwareException .generalProtectionException true errorCode s)
    else none
  else if interruptionType = InterruptionType.softwareException.code then
    if vector = InterruptionVector.breakpointException.code then
      let s := vmmpInjectInterruption .softwareException .breakpointException false 0 s
      some (utilVmWrite .vmEntryInstructionLen (utilVmRead s .vmExitInstructionLen) s)
    else none
  else none

/-! ## Instructions without operands -/

/-- `VmmpHandleCpuid` : presents a hypervisor, and its signature. -/
def vmmpHandleCpuid (m : ExitMachine B) (s : ExitState B C) : ExitState B C :=
  let functionId := s.gpRegs.ax.setWidth 32
  let subFunctionId := s.gpRegs.cx.setWidth 32
  let cpuInfo := m.cpuid functionId subFunctionId
  let cpuInfo :=
    if functionId = 1 then { cpuInfo with ecx := CpuFeaturesEcx.setNotUsed cpuInfo.ecx }
    else if functionId = kHyperVCpuidInterface then { cpuInfo with eax := 0x50707948 }
    else cpuInfo
  vmmpAdjustGuestInstructionPointer (s.lift fun s => { s with
    gpRegs := { s.gpRegs with
      ax := cpuInfo.eax.setWidth 64
      bx := cpuInfo.ebx.setWidth 64
      cx := cpuInfo.ecx.setWidth 64
      dx := cpuInfo.edx.setWidth 64 } })

/-- `VmmpHandleRdtsc`. -/
def vmmpHandleRdtsc (m : ExitMachine B) (s : ExitState B C) : ExitState B C :=
  let tsc := m.rdtsc s.trace
  vmmpAdjustGuestInstructionPointer (s.lift fun s => { s with
    gpRegs := { s.gpRegs with
      dx := (tsc >>> 32)
      ax := (tsc.setWidth 32).setWidth 64 } })

/-- `VmmpHandleRdtscp`. -/
def vmmpHandleRdtscp (m : ExitMachine B) (s : ExitState B C) : ExitState B C :=
  let tsc := m.rdtsc s.trace
  vmmpAdjustGuestInstructionPointer (s.lift fun s => { s with
    gpRegs := { s.gpRegs with
      dx := (tsc >>> 32)
      ax := (tsc.setWidth 32).setWidth 64
      cx := m.tscAux.setWidth 64 } })

/-- `VmmpHandleXsetbv`. -/
def vmmpHandleXsetbv (s : ExitState B C) : ExitState B C :=
  let value := s.gpRegs.dx.setWidth 32 ++ s.gpRegs.ax.setWidth 32
  let index := s.gpRegs.cx.setWidth 32
  vmmpAdjustGuestInstructionPointer
    { s with cpu := { s.cpu with xcr := Function.update s.cpu.xcr index value } }

/-- `VmmpHandleInvalidateInternalCaches`. -/
def vmmpHandleInvalidateInternalCaches (s : ExitState B C) : ExitState B C :=
  vmmpAdjustGuestInstructionPointer s

/-- `VmmpHandleInvalidateTlbEntry`. -/
def vmmpHandleInvalidateTlbEntry (s : ExitState B C) : ExitState B C :=
  vmmpAdjustGuestInstructionPointer s

/-- VMX instructions except for VMCALL fail without status. -/
def vmmpHandleVmx (s : ExitState B C) : ExitState B C :=
  let s := s.lift fun s => { s with flagReg := FlagRegister.errorWithoutStatus s.flagReg }
  vmmpAdjustGuestInstructionPointer (utilVmWrite .guestRflags s.flagReg s)

/-! ## Model-specific registers -/

/-- The VMCS field an access is for instead of a real MSR. -/
def msrVmcsField (msr : BitVec 32) : Option VmcsField :=
  match msr.toNat with
  | 0x174 => some .guestSysenterCs
  | 0x175 => some .guestSysenterEsp
  | 0x176 => some .guestSysenterEip
  | 0x1D9 => some .guestIa32Debugctl
  | 0xC0000101 => some .guestGsBase
  | 0xC0000100 => some .guestFsBase
  | _ => none

/-- `VmmpHandleMsrAccess`. The high half of the `LARGE_INTEGER` is signed. -/
def vmmpHandleMsrAccess (readAccess : Bool) (s : ExitState B C) : ExitState B C :=
  let msr := s.gpRegs.cx.setWidth 32
  if readAccess then
    let (msrValue, s) :=
      match msrVmcsField msr with
      | some vmcsField => (utilVmRead s vmcsField, s)
      | none => utilReadMsr msr s
    vmmpAdjustGuestInstructionPointer (s.lift fun s => { s with
      gpRegs := { s.gpRegs with
        ax := (msrValue.setWidth 32).setWidth 64
        dx := (msrValue.extractLsb' 32 32).signExtend 64 } })
  else
    let msrValue := s.gpRegs.dx.setWidth 32 ++ s.gpRegs.ax.setWidth 32
    vmmpAdjustGuestInstructionPointer
      (match msrVmcsField msr with
      | some vmcsField => utilVmWrite vmcsField msrValue s
      | none => utilWriteMsr64 msr msrValue s)

/-- `VmmpHandleMsrReadAccess`. -/
def vmmpHandleMsrReadAccess (s : ExitState B C) : ExitState B C :=
  vmmpHandleMsrAccess true s

/-- `VmmpHandleMsrWriteAccess`. -/
def vmmpHandleMsrWriteAccess (s : ExitState B C) : ExitState B C :=
  vmmpHandleMsrAccess false s

/-! ## Descriptor tables -/

/-- The base of the segment of an operand; there are six segments. -/
def segmentBase (info : InstInformation) (s : ExitState B C) : BitVec 64 :=
  match info.segmentRegister.toNat with
  | 0 => utilVmRead s .guestEsBase
  | 1 => utilVmRead s .guestCsBase
  | 2 => utilVmRead s .guestSsBase
  | 3 => utilVmRead s .guestDsBase
  | 4 => utilVmRead s .guestFsBase
  | 5 => utilVmRead s .guestGsBase
  | _ => 0

/-- The address of a memory operand. -/
def operationAddress (info : InstInformation) (s : ExitState B C) : BitVec 64 :=
  let displacement := utilVmRead s .exitQualification
  let baseValue := if !info.baseRegisterInvalid then s.gpRegs.select info.baseRegister else 0
  let indexValue :=
    if !info.indexRegisterInvalid then
      let indexValue := s.gpRegs.select info.indexRegister
      match info.scalling.toNat with
      | 1 => indexValue * 2
      | 2 => indexValue * 4
      | 3 => indexValue * 8
      | _ => indexValue
    else 0
  let operationAddress := segmentBase info s + baseValue + indexValue + displacement
  if info.addressSize = 1 then operationAddress &&& 0xFFFFFFFF else operationAddress

/-- The address of the descriptor a selector names in the GDT. -/
def descriptorAddress (gdtBase : BitVec 64) (selector : BitVec 16) : BitVec 64 :=
  gdtBase + (segmentIndex selector).setWidth 64 * 8

/-- SGDT and SIDT : 10 bytes from a 64-bit code segment, else 6. -/
def storeDescriptorTable (address base limit : BitVec 64) (s : ExitState B C) : ExitState B C :=
  let selector := (utilVmRead s .guestCsSelector).setWidth 16
  let segmentDescriptor := s.load (descriptorAddress (utilVmRead s .guestGdtrBase) selector) 8
  if SegmentDescriptor.l segmentDescriptor then
    (s.store (address + 2) 8 base).store address 2 limit
  else (s.store (address + 2) 4 base).store address 2 limit

/-- `VmmpHandleGdtrOrIdtrAccess` : SGDT, SIDT, LGDT and LIDT. -/
def vmmpHandleGdtrOrIdtrAccess (m : ExitMachine B) (s : ExitState B C) : ExitState B C :=
  let info : InstInformation := ⟨(utilVmRead s .vmxInstructionInfo).setWidth 32⟩
  let address := operationAddress info s
  vmmpAdjustGuestInstructionPointer (withGuestCr3 m (fun s =>
    match info.instructionIdentity.toNat with
    | 0 => storeDescriptorTable address (utilVmRead s .guestGdtrBase)
        (utilVmRead s .guestGdtrLimit) s
    | 1 => storeDescriptorTable address (utilVmRead s .guestIdtrBase)
        (utilVmRead s .guestIdtrLimit) s
    | 2 => utilVmWrite .guestGdtrLimit (s.load address 2)
        (utilVmWrite .guestGdtrBase (s.load (address + 2) 8) s)
    | _ => utilVmWrite .guestIdtrLimit (s.load address 2)
        (utilVmWrite .guestIdtrBase (s.load (address + 2) 8) s)) s)

/-- `*selector` : the operand is a register or in memory. -/
def loadSelector (info : InstInformation) (address : BitVec 64) (s : ExitState B C) :
    BitVec 16 :=
  if info.registerAccess then (s.gpRegs.select info.register1).setWidth 16
  else (s.load address 2).setWidth 16

/-- `*selector = value` : the low 16 bits of a register, or two bytes. -/
def storeSelector (info : InstInformation) (address : BitVec 64) (value : BitVec 16)
    (s : ExitState B C) : ExitState B C :=
  if info.registerAccess then
    let register := s.gpRegs.select info.register1
    setRegister info.register1 (register.extractLsb' 16 48 ++ value) s
  else s.store address 2 (value.setWidth 64)

/-- `VmmpHandleLdtrOrTrAccess` : SLDT, STR, LLDT and LTR. -/
def vmmpHandleLdtrOrTrAccess (m : ExitMachine B) (s : ExitState B C) : ExitState B C :=
  let info : InstInformation := ⟨(utilVmRead s .vmxInstructionInfo).setWidth 32⟩
  let address := operationAddress info s
  vmmpAdjustGuestInstructionPointer (withGuestCr3 m (fun s =>
    match info.instructionIdentity.toNat with
    | 0 => storeSelector info address ((utilVmRead s .guestLdtrSelector).setWidth 16) s
    | 1 => storeSelector info address ((utilVmRead s .guestTrSelector).setWidth 16) s
    | 2 => utilVmWrite .guestLdtrSelector ((loadSelector info address s).setWidth 64) s
    | _ =>
      let selector := loadSelector info address s
      let s := utilVmWrite .guestTrSelector (selector.setWidth 64) s
      let sd := descriptorAddress (utilVmRead s .guestGdtrBase) selector
      s.store sd 8 (SegmentDescriptor.setBusy (s.load sd 8))) s)

/-! ## Debug registers -/

/-- `__writedr(n, *register_used)`, where DR6 and DR7 get their fixed bits. There is no other
number. -/
def moveToDr (debuglRegister : BitVec 3) (value : BitVec 64) (s : ExitState B C) :
    ExitState B C :=
  match debuglRegister.toNat with
  | 0 => writeDr 0 value s
  | 1 => writeDr 1 value s
  | 2 => writeDr 2 value s
  | 3 => writeDr 3 value s
  | 6 => writeDr 6 (Dr6.withReserved value) s
  | 7 => utilVmWrite .guestDr7 (Dr7.withReserved value) s
  | _ => s

/-- `*register_used = __readdr(n)`. -/
def moveFromDr (debuglRegister : BitVec 3) (gpRegister : BitVec 4) (s : ExitState B C) :
    ExitState B C :=
  match debuglRegister.toNat with
  | 0 => setRegister gpRegister (s.cpu.dr 0) s
  | 1 => setRegister gpRegister (s.cpu.dr 1) s
  | 2 => setRegister gpRegister (s.cpu.dr 2) s
  | 3 => setRegister gpRegister (s.cpu.dr 3) s
  | 6 => setRegister gpRegister (s.cpu.dr 6) s
  | 7 => setRegister gpRegister (utilVmRead s .guestDr7) s
  | _ => s

/-- `VmmpHandleDrAccess` once DR4 and DR5 are DR6 and DR7. -/
def accessDr (debuglRegister : BitVec 3) (s : ExitState B C) : ExitState B C :=
  let exitQualification := utilVmRead s .exitQualification
  let guestDr7 := utilVmRead s .guestDr7
  if Dr7.gd guestDr7 then
    let s := writeDr 6 (Dr6.debugAccess (s.cpu.dr 6)) s
    let s := vmmpInjectInterruption .hardwareException .debugException false 0 s
    utilVmWrite .guestDr7 (Dr7.clearGd guestDr7) s
  else
    let gpRegister := MovDrQualification.gpRegister exitQualification
    let value := s.gpRegs.select gpRegister
    if MovDrQualification.moveFromDr exitQualification then
      vmmpAdjustGuestInstructionPointer (moveFromDr debuglRegister gpRegister s)
    else if (debuglRegister = 6 ∨ debuglRegister = 7) ∧ value >>> 32 ≠ 0 then
      vmmpInjectInterruption .hardwareException .generalProtectionException true 0 s
    else vmmpAdjustGuestInstructionPointer (moveToDr debuglRegister value s)

/-- `VmmpHandleDrAccess`. -/
def vmmpHandleDrAccess (s : ExitState B C) : ExitState B C :=
  if vmmpGetGuestCpl s.toVmmState ≠ 0 then
    vmmpInjectInterruption .hardwareException .generalProtectionException true 0 s
  else
    let debuglRegister := MovDrQualification.debuglRegister (utilVmRead s .exitQualification)
    if debuglRegister = 4 ∨ debuglRegister = 5 then
      if Cr4.de (utilVmRead s .guestCr4) then
        vmmpInjectInterruption .hardwareException .invalidOpcodeException false 0 s
      else accessDr (if debuglRegister = 4 then 6 else 7) s
    else accessDr debuglRegister s

/-! ## Control registers -/

/-- A value with the bits a pair of MSRs fixes. -/
def applyFixedBits (fixed0Msr fixed1Msr : BitVec 32) (value : BitVec 64) (s : ExitState B C) :
    BitVec 64 × ExitState B C :=
  let (fixed0, s) := utilReadMsr fixed0Msr s
  let (fixed1, s) := utilReadMsr fixed1Msr s
  ((value &&& fixed1) ||| fixed0, s)

/-- `VmmpHandleCrAccess`. `kClts` and `kLmsw` are not implemented. -/
def vmmpHandleCrAccess (s : ExitState B C) : Option (ExitState B C) :=
  let exitQualification := utilVmRead s .exitQualification
  let gpRegister := MovCrQualification.gpRegister exitQualification
  let value := s.gpRegs.select gpRegister
  match (MovCrQualification.accessType exitQualification).toNat,
      (MovCrQualification.controlRegister exitQualification).toNat with
  | 0, 0 =>
    let (cr0, s) := applyFixedBits 0x486 0x487 value s
    let s := utilVmWrite .guestCr0 cr0 s
    some (vmmpAdjustGuestInstructionPointer (utilVmWrite .cr0ReadShadow cr0 s))
  | 0, 3 =>
    some (vmmpAdjustGuestInstructionPointer
      (utilVmWrite .guestCr3 (value &&& ~~~(1#64 <<< 63)) s))
  | 0, 4 =>
    let (cr4, s) := applyFixedBits 0x488 0x489 value s
    let s := utilVmWrite .guestCr4 cr4 s
    some (vmmpAdjustGuestInstructionPointer (utilVmWrite .cr4ReadShadow cr4 s))
  | 0, 8 => some (vmmpAdjustGuestInstructionPointer { s with cr8 := value })
  | 0, _ => none
  | 1, 3 =>
    some (vmmpAdjustGuestInstructionPointer (setRegister gpRegister (utilVmRead s .guestCr3) s))
  | 1, 8 => some (vmmpAdjustGuestInstructionPointer (setRegister gpRegister s.cr8 s))
  | 1, _ => none
  | _, _ => some (vmmpAdjustGuestInstructionPointer s)

/-! ## Ports -/

/-- `__inbytestring`, `__inwordstring` and `__indwordstring`, with the count last. -/
def portInString (m : ExitMachine B) (port : BitVec 16) (size : ℕ) (address : BitVec 64)
    (s : ExitState B C) : ℕ → ExitState B C
  | 0 => s
  | count + 1 =>
    let (value, s) := portIn m port size s
    portInString m port size (address + BitVec.ofNat 64 size)
      ((s.store address size (value.setWidth 64)).log [.stringStore address size]) count

/-- `__outbytestring`, `__outwordstring` and `__outdwordstring`. -/
def portOutString (port : BitVec 16) (size : ℕ) (address : BitVec 64) (s : ExitState B C) :
    ℕ → ExitState B C
  | 0 => s
  | count + 1 =>
    portOutString port size (address + BitVec.ofNat 64 size)
      (portOut port size ((s.load address size).setWidth 32)
        (s.log [.stringLoad address size])) count

/-- `VmmpIoWrapper`. The address is that of a string in memory, or of `ax`. -/
def vmmpIoWrapper (m : ExitMachine B) (toMemory isString : Bool) (sizeOfAccess : ℕ)
    (port : BitVec 16) (address : BitVec 64) (count : BitVec 32) (s : ExitState B C) :
    ExitState B C :=
  withGuestCr3 m (fun s =>
    if sizeOfAccess = 0 then s
    else if toMemory then
      if isString then portInString m port sizeOfAccess address s count.toNat
      else
        let (value, s) := portIn m port sizeOfAccess s
        let mask := BitVec.ofNat 64 (2 ^ (8 * sizeOfAccess) - 1)
        s.lift fun s => { s with
          gpRegs := { s.gpRegs with
            ax := (s.gpRegs.ax &&& ~~~mask) ||| (value.setWidth 64 &&& mask) } }
    else
      if isString then portOutString port sizeOfAccess address s count.toNat
      else
        let mask := BitVec.ofNat 32 (2 ^ (8 * sizeOfAccess) - 1)
        portOut port sizeOfAccess (s.gpRegs.ax.setWidth 32 &&& mask) s) s

/-- `size_of_access` in bytes; there are three sizes. -/
def sizeOfAccess (exitQualification : BitVec 64) : ℕ :=
  match (IoInstQualification.sizeOfAccess exitQualification).toNat with
  | 0 => 1
  | 1 => 2
  | 3 => 4
  | _ => 0

/-- Updates RCX, RDI and RSI after a string instruction. -/
def updateStringRegisters (isIn isRep : Bool) (size : ℕ) (s : ExitState B C) : ExitState B C :=
  let updateCount := if isRep then s.gpRegs.cx else 1
  let updateSize := updateCount * BitVec.ofNat 64 size
  let update := fun register =>
    if FlagRegister.df s.flagReg then register - updateSize else register + updateSize
  s.lift fun s => { s with
    gpRegs := { s.gpRegs with
      di := if isIn then update s.gpRegs.di else s.gpRegs.di
      si := if isIn then s.gpRegs.si else update s.gpRegs.si
      cx := if isRep then 0 else s.gpRegs.cx } }

/-- `VmmpHandleIoPort` : IN, INS, OUT and OUTS. -/
def vmmpHandleIoPort (m : ExitMachine B) (s : ExitState B C) : ExitState B C :=
  let exitQualification := utilVmRead s .exitQualification
  let isIn := IoInstQualification.direction exitQualification
  let isString := IoInstQualification.stringInstruction exitQualification
  let isRep := IoInstQualification.repPrefixed exitQualification
  let port := IoInstQualification.portNumber exitQualification
  let address := if isIn then s.gpRegs.di else s.gpRegs.si
  let count := if isRep then s.gpRegs.cx.setWidth 32 else 1
  let size := sizeOfAccess exitQualification
  let s := vmmpIoWrapper m isIn isString size port address count s
  vmmpAdjustGuestInstructionPointer
    (if isString then updateStringRegisters isIn isRep size s else s)

/-! ## The monitor -/

def dmSetMonitorTrapFlag (enable : Bool) (s : ExitState B C) : ExitState B C :=
  let vmProcctl := (utilVmRead s .cpuBasedVmExecControl).setWidth 32
  utilVmWrite .cpuBasedVmExecControl
    ((VmxProcessorBasedControls.setMonitorTrapFlag vmProcctl enable).setWidth 64) s

/-- `VmmpHandleMonitorTrap`. -/
def vmmpHandleMonitorTrap (s : ExitState B C) : Option (ExitState B C) :=
  match s.lastFaultEntry with
  | none => none
  | some eptPtEntry =>
    some (dmSetMonitorTrapFlag false (s.lift fun s =>
      { s with ept := s.ept.modify eptPtEntry .trap, lastFaultEntry := none }))

/-- `VmmpHandleMmio`. -/
def vmmpHandleMmio (s : ExitState B C) : Bool × ExitState B C :=
  match mmioEntry s.toVmmState with
  | none => (false, s)
  | some faultEntry =>
    let r := mmioCallback s.toVmmState
    let s := s.lift fun s => { s with gpRegs := r.context, world := r.world }
    if !r.ret then
      (true, dmSetMonitorTrapFlag true (s.lift fun s =>
        { s with ept := s.ept.modify faultEntry .pass, lastFaultEntry := some faultEntry }))
    else (true, vmmpAdjustGuestInstructionPointer s)

/-- `VmmpHandleEptViolation`. -/
def vmmpHandleEptViolation (m : ExitMachine B) (s : ExitState B C) : ExitState B C :=
  match vmmpHandleMmio s with
  | (true, s) => s
  | (false, s) =>
    let exitQualification := ⟨utilVmRead s .exitQualification⟩
    let faultPa := utilVmRead s .guestPhysicalAddress
    s.lift fun s =>
      { s with ept := eptHandleEptViolation m.pool m.mtrr exitQualification faultPa s.ept }

/-! ## VMCALL -/

/-- Indicates successful VMCALL. -/
def vmmpIndicateSuccessfulVmcall (s : ExitState B C) : ExitState B C :=
  let s := s.lift fun s => { s with flagReg := FlagRegister.clearStatus s.flagReg }
  vmmpAdjustGuestInstructionPointer (utilVmWrite .guestRflags s.flagReg s)

/-- Indicates unsuccessful VMCALL. -/
def vmmpIndicateUnsuccessfulVmcall (s : ExitState B C) : ExitState B C :=
  let s := vmmpInjectInterruption .hardwareException .invalidOpcodeException false 0 s
  utilVmWrite .vmEntryInstructionLen (utilVmRead s .vmExitInstructionLen) s

/-- `VmmpHandleVmCall`. -/
def vmmpHandleVmCall (m : ExitMachine B) (s : ExitState B C) : ExitState B C :=
  let hypercallNumber := s.gpRegs.cx.setWidth 32
  let context := s.gpRegs.dx
  match HypercallNumber.ofValue hypercallNumber with
  | none => vmmpIndicateUnsuccessfulVmcall s
  | some .terminateVmm =>
    if vmmpGetGuestCpl s.toVmmState = 0 then s.lift (vmmpHandleVmCallTermination context)
    else vmmpIndicateUnsuccessfulVmcall s
  | some .pingVmm => vmmpIndicateSuccessfulVmcall s
  | some .getSharedProcessorData =>
    vmmpIndicateSuccessfulVmcall (s.lift (storePointer context s.sharedData))
  | some .enableVmmDeviceMonitor =>
    vmmpIndicateSuccessfulVmcall
      (runCfg m (dmEnableDeviceMonitor m.pool m.mtrr s.devices s.ept) s)
  | some .disableVmmDeviceMonitor =>
    vmmpIndicateSuccessfulVmcall (runCfg m (dmDisableDeviceMonitor s.devices s.ept) s)

/-! ## Dispatch -/

/-- The reason of the exit. -/
def exitReason (s : ExitState B C) : Option VmxExitReason :=
  VmxExitReason.ofValue ((utilVmRead s .vmExitReason).setWidth 16)

/-- `VmmpHandleVmExit`. -/
def vmmpHandleVmExit (m : ExitMachine B) (s : ExitState B C) : Option (ExitState B C) :=
  match s.exitReason with
  | some .exceptionOrNmi => vmmpHandleException s
  | some .tripleFault => none
  | some .cpuid => some (vmmpHandleCpuid m s)
  | some .invd => some (vmmpHandleInvalidateInternalCaches s)
  | some .invlpg => some (vmmpHandleInvalidateTlbEntry s)
  | some .rdtsc => some (vmmpHandleRdtsc m s)
  | some .crAccess => vmmpHandleCrAccess s
  | some .drAccess => some (vmmpHandleDrAccess s)
  | some .ioInstruction => some (vmmpHandleIoPort m s)
  | some .msrRead => some (vmmpHandleMsrReadAccess s)
  | some .msrWrite => some (vmmpHandleMsrWriteAccess s)
  | some .monitorTrapFlag => vmmpHandleMonitorTrap s
  | some .gdtrOrIdtrAccess => some (vmmpHandleGdtrOrIdtrAccess m s)
  | some .ldtrOrTrAccess => some (vmmpHandleLdtrOrTrAccess m s)
  | some .eptViolation => some (vmmpHandleEptViolation m s)
  | some .eptMisconfig => none
  | some .vmcall => some (vmmpHandleVmCall m s)
  | some .vmclear | some .vmlaunch | some .vmptrld | some .vmptrst | some .vmread
  | some .vmresume | some .vmwrite | some .vmoff | some .vmon | some .invept | some .invvpid =>
    some (vmmpHandleVmx s)
  | some .rdtscp => some (vmmpHandleRdtscp m s)
  | some .xsetbv => some (vmmpHandleXsetbv s)
  | none => none

/-- `DISPATCH_LEVEL`. -/
def dispatchLevel : BitVec 64 :=
  2

/-- Captures the guest's context and raises IRQL. -/
def captureGuestContext (s : ExitState B C) : ExitState B C :=
  let guestIrql := s.cpu.cr8
  { s.lift DeviceMon.captureGuestContext with
    cr8 := s.cpu.cr8
    irql := guestIrql
    cpu := { s.cpu with cr8 := if guestIrql < dispatchLevel then dispatchLevel else guestIrql }
    trace := [] }

/-- Restores IRQL, and applies possibly updated CR8. -/
def restoreGuestContext (s : ExitState B C) : ExitState B C :=
  let cpu := if s.irql < dispatchLevel then { s.cpu with cr8 := s.irql } else s.cpu
  { s with cpu := { cpu with cr8 := s.cr8 } }

/-- `VmmVmExitHandler`. -/
def vmmVmExitHandler (m : ExitMachine B) (s : ExitState B C) : Option (ExitState B C) :=
  (vmmpHandleVmExit m s.captureGuestContext).map restoreGuestContext

end ExitState

end DeviceMon
