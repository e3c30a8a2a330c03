import DeviceMon.VmcsSetup
import DeviceMon.VmmRun

/-!
# Starting and stopping the VMM

The functions of `vm.cpp` over all processors, with `UtilForEachProcessor` and `UtilVmCall`.
`System` has the pool, the shared data and what the VMMs of the processors share. A
processor that is not virtualized has no VMM, and a VMCALL on it raises an exception, which
`UtilVmCall` turns into a status. `Platform` is how the system answers : the pool, the VMX
instructions on each processor and the context a new guest starts with.

Contiguous memory counts as pool. A pointer and the block at it are one thing. The memory
type of pages, `CR4.VMXE`, logging, and filling in the regions and the bitmaps are left out.
-/

namespace DeviceMon

/-! ## Statuses -/

/-- `NTSTATUS`, the values in use. `illegalInstruction` is the code of the exception a VMCALL
raises outside VMX operation. -/
inductive NtStatus where
  | success
  | unsuccessful
  | cancelled
  | hvFeatureUnavailable
  | memoryNotAllocated
  | illegalInstruction
deriving DecidableEq

/-- `NT_SUCCESS`. -/
def NtStatus.isSuccess (status : NtStatus) : Bool :=
  status = .success

/-- The loop of `UtilForEachProcessor` from index `i` on, with the number of processors left.
It stops at the first callback that fails. -/
def utilForEachProcessorLoop {S : Type} (callbackRoutine : ℕ → S → NtStatus × S) :
    ℕ → ℕ → S → NtStatus × S
  | 0, _, s => (.success, s)
  | n + 1, i, s =>
    match callbackRoutine i s with
    | (status, s) =>
      if !status.isSuccess then (status, s)
      else utilForEachProcessorLoop callbackRoutine n (i + 1) s

/-! ## The system -/

/-- `SharedProcessorData`. `io_bitmap_b` points into the block of `io_bitmap_a`. -/
structure SharedProcessorData where
  referenceCount : ℤ
  msrBitmap : Option PoolBlock
  ioBitmapA : Option PoolBlock

/-- `ProcessorData`, with its own block. `shared_data` is set before anything reads it. -/
structure ProcessorData where
  self : PoolBlock
  sharedData : PoolBlock
  eptData : Option EptData
  vmmStackLimit : Option PoolBlock
  vmcsRegion : Option PoolBlock
  vmxonRegion : Option PoolBlock

/-- A virtualized processor. -/
structure Processor (B C : Type) where
  /-- The state of its VMM. What all processors share is out of date here. -/
  vmm : VmmState B C
  /-- Its data, with `ept_data` as it was at the launch. -/
  data : ProcessorData

/-- Its data, with `ept_data` as it is now. -/
def Processor.processorData {B C : Type} (p : Processor B C) : ProcessorData :=
  { p.data with eptData := some p.vmm.ept.data }

/-- All processors and what they share. -/
structure System (B C : Type) where
  heap : Heap
  /-- The memory of blocks with shared data. -/
  sharedMemory : PoolBlock → SharedProcessorData
  devices : List (PciMonitorCfg C)
  pci : B
  world : C
  memory : BitVec 64 → BitVec 8
  /-- `KeQueryActiveProcessorCountEx`. -/
  activeProcessorCount : ℕ
  /-- The virtualized processors by their index. -/
  processors : ℕ → Option (Processor B C)

/-- How a processor answers while it is virtualized. -/
structure VmxAnswers (B C : Type) where
  /-- The page of `IA32_APIC_BASE`. -/
  apicBase : BitVec 64
  vmxOn : Bool
  vmClear : Bool
  vmPtrld : Bool
  /-- What `VmpSetupVmcs` reads and gets, and the VMCS before it. -/
  setup : SetupCpu
  guestStackPointer : BitVec 64
  guestInstructionPointer : BitVec 64
  vmmStackPointer : BitVec 64
  clearVmcs : VmcsField → BitVec 64
  /-- How the `k`-th VMWRITE of `VmpSetupVmcs` ends. -/
  vmWrite : ℕ → VmxStatus
  vmLaunch : Bool
  /-- The VMCS and the registers the guest starts with. -/
  guest : VmmState B C
  noFlag : guest.monitorTrapFlag = false

/-- How the system answers. -/
structure Platform (B C : Type) where
  machine : Machine B
  physicalMemoryRuns : List PhysicalMemoryRun
  /-- `VmpIsVmxAvailable`. -/
  vmxAvailable : Bool
  /-- The processor `VmInitialization` is called on. -/
  currentProcessor : ℕ
  answers : ℕ → VmxAnswers B C
  /-- The address of the local variable a hypercall writes to. -/
  localVariable : BitVec 64

section Vm

variable {B C : Type}

/-- `UtilForEachProcessor`. -/
def utilForEachProcessor (callbackRoutine : ℕ → System B C → NtStatus × System B C)
    (sys : System B C) : NtStatus × System B C :=
  utilForEachProcessorLoop callbackRoutine sys.activeProcessorCount 0 sys

/-- The state the VMM of a processor sees. -/
def System.vmm (sys : System B C) (p : Processor B C) : VmmState B C :=
  { p.vmm with
    ept := ⟨sys.heap, p.vmm.ept.data⟩
    devices := sys.devices
    pci := sys.pci
    world := sys.world
    memory := sys.memory }

/-- The system after the VMM of processor `i` left the state `s` : without `vmContinue` it
left VMX operation. -/
def System.store (sys : System B C) (i : ℕ) (p : Processor B C) (s : VmmState B C) :
    System B C :=
  { sys with
    heap := s.ept.heap
    devices := s.devices
    pci := s.pci
    world := s.world
    memory := s.memory
    processors := Function.update sys.processors i
      (if s.vmContinue then some { p with vmm := s } else none) }

/-! ## Hypercalls -/

/-- A kernel-mode guest at a VMCALL. -/
def atVmCall (number : HypercallNumber) (context : BitVec 64) (s : VmmState B C) :
    VmmState B C :=
  { s with
    vmcs := Function.update s.vmcs .guestSsArBytes 0x4093
    gpRegs := { s.gpRegs with cx := number.value.setWidth 64, dx := context } }

/-- `AsmVmxCall` : the status is in the flags the guest comes back with. -/
def asmVmxCall (m : Machine B) (number : HypercallNumber) (context : BitVec 64)
    (s : VmmState B C) : VmxStatus × VmmState B C :=
  let s := vmmpHandleVmCall m (captureGuestContext (atVmCall number context s))
  let flags := if s.vmContinue then utilVmRead s .guestRflags else s.gpRegs.ax
  (if FlagRegister.zf flags then .errorWithStatus
    else if FlagRegister.cf flags then .errorWithoutStatus
    else .ok, s)

/-- `UtilVmCall` on processor `i`. From kernel mode no enumerator makes the VMM inject an
exception. -/
def utilVmCall (m : Machine B) (number : HypercallNumber) (context : BitVec 64) (i : ℕ)
    (sys : System B C) : NtStatus × System B C :=
  match sys.processors i with
  | none => (.illegalInstruction, sys)
  | some p =>
    let (vmxStatus, s) := asmVmxCall m number context (sys.vmm p)
    (if vmxStatus = .ok then .success else .unsuccessful, sys.store i p s)

/-- `DmEnableMonitor`. -/
def dmEnableMonitor (m : Machine B) (sys : System B C) : NtStatus × System B C :=
  utilForEachProcessor (utilVmCall m .enableVmmDeviceMonitor 0) sys

/-- `DmDisableMonitor`. -/
def dmDisableMonitor (m : Machine B) (sys : System B C) : NtStatus × System B C :=
  utilForEachProcessor (utilVmCall m .disableVmmDeviceMonitor 0) sys

/-! ## Freeing -/

/-- Frees a block if there is one. -/
def Heap.freeIf (b : Option PoolBlock) (h : Heap) : Heap :=
  match b with
  | none => h
  | some b => h.free b

/-- Decrements the reference count of shared data and frees it if there is no reference. -/
def vmpFreeSharedData (processorData : ProcessorData) (sys : System B C) : System B C :=
  let sharedData := sys.sharedMemory processorData.sharedData
  let referenceCount := sharedData.referenceCount - 1
  let sys := { sys with
    sharedMemory := Function.update sys.sharedMemory processorData.sharedData
      { sharedData with referenceCount := referenceCount } }
  if referenceCount ≠ 0 then sys
  else
    let h := sys.heap.freeIf sharedData.ioBitmapA
    let h := h.freeIf sharedData.msrBitmap
    { sys with heap := h.free processorData.sharedData }

/-- Frees all related memory. -/
def vmpFreeProcessorData (processorData : ProcessorData) (sys : System B C) : System B C :=
  let h := sys.heap.freeIf processorData.vmmStackLimit
  let h := h.freeIf processorData.vmcsRegion
  let h := h.freeIf processorData.vmxonRegion
  let h := match processorData.eptData with
    | none => h
    | some eptData => eptTermination ⟨h, eptData⟩
  let sys := vmpFreeSharedData processorData { sys with heap := h }
  { sys with heap := sys.heap.free processorData.self }

/-! ## Starting -/

/-- `VmpInitializeSharedData`, with the two functions that build the bitmaps. -/
def vmpInitializeSharedData (pool : Pool) (sys : System B C) : Option PoolBlock × System B C :=
  match sys.heap.allocateData pool with
  | (none, h) => (none, { sys with heap := h })
  | (some sharedData, h) =>
    match h.allocateData pool with
    | (none, h) => (none, { sys with heap := h.free sharedData })
    | (some msrBitmap, h) =>
      match h.allocateData pool with
      | (none, h) => (none, { sys with heap := (h.free msrBitmap).free sharedData })
      | (some ioBitmaps, h) =>
        (some sharedData, { sys with
          heap := h
          sharedMemory := Function.update sys.sharedMemory sharedData
            ⟨0, some msrBitmap, some ioBitmaps⟩ })

/-- `InterlockedIncrement(&shared_data->reference_count)`. -/
def System.addReference (sys : System B C) (sharedData : PoolBlock) : System B C :=
  let shared := sys.sharedMemory sharedData
  { sys with
    sharedMemory := Function.update sys.sharedMemory sharedData
      { shared with referenceCount := shared.referenceCount + 1 } }

/-- `VmpSetupVmcs` on this processor. -/
def VmxAnswers.setupVmcs (a : VmxAnswers B C) : Bool × (VmcsField → BitVec 64) :=
  vmpSetupVmcs a.setup a.guestStackPointer a.guestInstructionPointer a.vmmStackPointer a.vmWrite
    a.clearVmcs

/-- The processor a launch with these answers gives. -/
def VmxAnswers.launched (a : VmxAnswers B C) (heap : Heap) (eptData : EptData)
    (data : ProcessorData) : Processor B C :=
  ⟨{ a.guest with ept := ⟨heap, eptData⟩, lastFaultEntry := none, vmContinue := true }, data⟩

/-- Allocates structures for virtualization and virtualizes processor `i`; the answer is
whether that worked. -/
def vmpInitializeVm (pf : Platform B C) (sharedData : PoolBlock) (i : ℕ) (sys : System B C) :
    Bool × System B C :=
  let pool := pf.machine.pool
  let a := pf.answers i
  let fail (processorData : ProcessorData) (sys : System B C) (h : Heap) : Bool × System B C :=
    (false, vmpFreeProcessorData processorData { sys with heap := h })
  match sys.heap.allocateData pool with
  | (none, h) => (false, { sys with heap := h })
  | (some self, h) =>
    let data : ProcessorData := ⟨self, sharedData, none, none, none, none⟩
    let sys := sys.addReference sharedData
    match eptInitialization pool pf.machine.mtrr pf.physicalMemoryRuns a.apicBase h with
    | (none, h) => fail data sys h
    | (some eptData, h) =>
      let data := { data with eptData := some eptData }
      match h.allocateData pool with
      | (none, h) => fail data sys h
      | (some vmmStackLimit, h) =>
        let data := { data with vmmStackLimit := some vmmStackLimit }
        match h.allocateData pool with
        | (none, h) => fail data sys h
        | (some vmcsRegion, h) =>
          let data := { data with vmcsRegion := some vmcsRegion }
          match h.allocateData pool with
          | (none, h) => fail data sys h
          | (some vmxonRegion, h) =>
            let data := { data with vmxonRegion := some vmxonRegion }
            -- `VmpEnterVmxMode`
            if !a.vmxOn then fail data sys h
            -- `VmpInitializeVmcs`, `VmpSetupVmcs` and `VmpLaunchVm`, else `Exit`
            else if !a.vmClear || !a.vmPtrld || !a.setupVmcs.1 || !a.vmLaunch then
              fail data sys h
            else (true, { sys with
              heap := h
              processors := Function.update sys.processors i (some (a.launched h eptData data)) })

/-- Virtualizes the current processor. -/
def vmpStartVm (pf : Platform B C) (sharedData : PoolBlock) (i : ℕ) (sys : System B C) :
    NtStatus × System B C :=
  match vmpInitializeVm pf sharedData i sys with
  | (ok, sys) => (if ok then .success else .unsuccessful, sys)

/-- Stops virtualization through a hypercall and frees all related memory. The hypercall hands
over the processor's data. -/
def vmpStopVm (pf : Platform B C) (i : ℕ) (sys : System B C) : NtStatus × System B C :=
  let processorData := (sys.processors i).map Processor.processorData
  match utilVmCall pf.machine .terminateVmm pf.localVariable i sys, processorData with
  | (.success, sys), some processorData => (.success, vmpFreeProcessorData processorData sys)
  | (status, sys), _ => (status, sys)

/-- `VmpIsDeviceMonInstalled` : the VMM of the processor answers its CPUID. -/
def vmpIsDeviceMonInstalled (pf : Platform B C) (sys : System B C) : Bool :=
  (sys.processors pf.currentProcessor).isSome

/-- Checks if a VMM can be installed, and so, installs it. -/
def vmInitialization (pf : Platform B C) (sys : System B C) : NtStatus × System B C :=
  if vmpIsDeviceMonInstalled pf sys then (.cancelled, sys)
  else if !pf.vmxAvailable then (.hvFeatureUnavailable, sys)
  else
    match vmpInitializeSharedData pf.machine.pool sys with
    | (none, sys) => (.memoryNotAllocated, sys)
    | (some sharedData, sys) =>
      match utilForEachProcessor (vmpStartVm pf sharedData) sys with
      | (status, sys) =>
        if !status.isSuccess then (status, (utilForEachProcessor (vmpStopVm pf) sys).2)
        else
          match dmEnableMonitor pf.machine sys with
          | (status, sys) =>
            if !status.isSuccess then (status, (utilForEachProcessor (vmpStopVm pf) sys).2)
            else (status, sys)

/-- Terminates VM. -/
def vmTermination (pf : Platform B C) (sys : System B C) : System B C :=
  let sys := (dmDisableMonitor pf.machine sys).2
  (utilForEachProcessor (vmpStopVm pf) sys).2

/-! ## Hot-add -/

/-- `VmHotplugCallback` for processor `added`, by a thread that runs on `current` when it asks
for the shared data. The hypercall hands over the `shared_data` of its processor. -/
def vmHotplugCallback (pf : Platform B C) (current added : ℕ) (sys : System B C) :
    NtStatus × System B C :=
  let sharedData := (sys.processors current).map fun p => p.data.sharedData
  match utilVmCall pf.machine .getSharedProcessorData pf.localVariable current sys, sharedData with
  | (.success, sys), some sharedData => vmpStartVm pf sharedData added sys
  | (status, sys), _ => (status, sys)

/-- A processor is added : it gets the next index. -/
def System.hotAdd (pf : Platform B C) (current : ℕ) (sys : System B C) : NtStatus × System B C :=
  vmHotplugCallback pf current sys.activeProcessorCount
    { sys with activeProcessorCount := sys.activeProcessorCount + 1 }

end Vm

end DeviceMon
