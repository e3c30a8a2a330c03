import DeviceMon.Ledger
import DeviceMon.LogPut
import DeviceMon.PhysicalMemory
import DeviceMon.Vm

/-!
# What the driver gets from the kernel

The parts of the driver that `DriverEntry` initializes and `DriverpDriverUnload` terminates, with
the objects each takes and gives back : the log, the global objects, the performance collector, the
physical memory ranges and the two callbacks. `DriverKernel` has the answers of the kernel, which
may refuse anything.

A pointer or a handle is a flag here, or the object it is for. The flush thread starts. The lines
of the log are left out but for the one that is tested, and so is what else `UtilInitialization`
looks up, which takes nothing.
-/

namespace DeviceMon

/-! ## Statuses -/

/-- `STATUS_REINITIALIZATION_NEEDED`. -/
def statusReinitializationNeeded : BitVec 32 :=
  0xC0000287

/-- `STATUS_OBJECT_PATH_NOT_FOUND`. -/
def statusObjectPathNotFound : BitVec 32 :=
  0xC000003A

/-- `STATUS_INSUFFICIENT_RESOURCES`. -/
def statusInsufficientResources : BitVec 32 :=
  0xC000009A

/-- The status as a number. -/
def NtStatus.value : NtStatus → BitVec 32
  | success => statusSuccess
  | unsuccessful => 0xC0000001
  | cancelled => 0xC0000120
  | hvFeatureUnavailable => 0xC035001E
  | memoryNotAllocated => 0xC00000A0
  | illegalInstruction => 0xC000001D

theorem NtStatus.ntSuccess_value (status : NtStatus) :
    ntSuccess status.value = status.isSuccess := by
  cases status <;> decide

/-! ## Objects -/

/-- Objects the driver gets from the kernel and gives back. -/
inductive KernelObject where
  | resource
  | logBuffer (b : LogBuffer)
  | logFile
  | logThread
  /-- Freed right after the call of `dtor`. -/
  | destructorEntry (dtor : ℕ)
  | perfCollector
  | pmRanges
  | pmBlock
  | callbackObject
  | powerRegistration
  | hotplugHandle
deriving DecidableEq

/-- `LogBufferInfo`, as far as it was allocated. -/
structure LogAllocations where
  logBuffer1 : Bool
  logBuffer2 : Bool
  logFileHandle : Bool
  resourceInitialized : Bool
  bufferFlushThreadShouldBeAlive : Bool
  bufferFlushThreadHandle : Bool

/-- `g_logp_log_buffer_info` when the driver is loaded. -/
def LogAllocations.zero : LogAllocations :=
  ⟨false, false, false, false, false, false⟩

/-- The global variables of the driver. -/
structure DriverState (B C : Type) where
  objects : Ledger KernelObject
  info : LogAllocations
  /-- `g_gop_dtors_list_head`. -/
  dtors : List ℕ
  performanceCollector : Bool
  physicalMemoryRanges : Option PhysicalMemoryDescriptor
  /-- `g_pcp_callback_object` and `g_pcp_registration`. -/
  callbackObject : Bool
  registration : Bool
  /-- `g_hpp_callback_handle`. -/
  callbackHandle : Bool
  /-- Whether `LogpReinitializationRoutine` is registered. -/
  reinitialization : Bool
  sys : System B C

/-- What the kernel answers to the log. -/
structure LogKernel where
  exInitializeResourceLite : BitVec 32
  logBuffer1 : Bool
  logBuffer2 : Bool
  zwCreateFile : BitVec 32
  psCreateSystemThread : BitVec 32
  /-- The status of the first line. -/
  logInfo : BitVec 32

/-- What the kernel answers while the driver is loaded. -/
structure DriverKernel (B C : Type) extends LogKernel where
  rtlGetVersion : BitVec 32
  majorVersion : BitVec 32
  /-- The calls of `atexit` of each constructor, with the answers of the pool. -/
  constructors : List (List (ℕ × Bool))
  perfCollector : Bool
  /-- The status of `UtilpInitializePageTableVariables`. -/
  pageTableVariables : BitVec 32
  mmGetPhysicalMemoryRanges : Option PhysicalMemoryRanges
  pmBlock : Bool
  exCreateCallback : BitVec 32
  exRegisterCallback : Bool
  keRegisterProcessorChangeCallback : Bool
  platform : Platform B C

namespace Driver

variable {B C : Type}

def take (o : KernelObject) (s : DriverState B C) : DriverState B C :=
  { s with objects := s.objects.take o }

def give (o : KernelObject) (s : DriverState B C) : DriverState B C :=
  { s with objects := s.objects.give o }

/-! ## The log -/

/-- Terminates a log file related code. -/
def logpFinalizeBufferInfo (s : DriverState B C) : DriverState B C :=
  let s := if s.info.bufferFlushThreadHandle then
      give .logThread { s with info := { s.info with
        bufferFlushThreadShouldBeAlive := false, bufferFlushThreadHandle := false } }
    else s
  let s := if s.info.logFileHandle then
      give .logFile { s with info := { s.info with logFileHandle := false } }
    else s
  let s := if s.info.logBuffer2 then
      give (.logBuffer .logBuffer2) { s with info := { s.info with logBuffer2 := false } }
    else s
  let s := if s.info.logBuffer1 then
      give (.logBuffer .logBuffer1) { s with info := { s.info with logBuffer1 := false } }
    else s
  if s.info.resourceInitialized then
    give .resource { s with info := { s.info with resourceInitialized := false } }
  else s

/-- Initializes a log file and starts a log buffer thread. -/
def logpInitializeLogFile (k : LogKernel) (s : DriverState B C) : BitVec 32 × DriverState B C :=
  if s.info.logFileHandle then (statusSuccess, s)
  else if !ntSuccess k.zwCreateFile then (k.zwCreateFile, s)
  else
    let s := take .logFile { s with info := { s.info with logFileHandle := true } }
    let s := { s with info := { s.info with bufferFlushThreadShouldBeAlive := true } }
    if !ntSuccess k.psCreateSystemThread then
      (k.psCreateSystemThread, give .logFile { s with info := { s.info with
        logFileHandle := false, bufferFlushThreadShouldBeAlive := false } })
    else
      (k.psCreateSystemThread,
        take .logThread { s with info := { s.info with bufferFlushThreadHandle := true } })

/-- Initialize a log file related code such as a flushing thread. The path is short enough. -/
def logpInitializeBufferInfo (k : LogKernel) (s : DriverState B C) :
    BitVec 32 × DriverState B C :=
  if !ntSuccess k.exInitializeResourceLite then (k.exInitializeResourceLite, s)
  else
    let s := take .resource { s with info := { s.info with resourceInitialized := true } }
    if !k.logBuffer1 then (statusInsufficientResources, logpFinalizeBufferInfo s)
    else
      let s := take (.logBuffer .logBuffer1) { s with info := { s.info with logBuffer1 := true } }
      if !k.logBuffer2 then (statusInsufficientResources, logpFinalizeBufferInfo s)
      else
        let s := take (.logBuffer .logBuffer2) { s with info := { s.info with logBuffer2 := true } }
        match logpInitializeLogFile k s with
        | (status, s) =>
          if status = statusObjectPathNotFound then (statusReinitializationNeeded, s)
          else if !ntSuccess status then (status, logpFinalizeBufferInfo s)
          else (status, s)

/-- `LogInitialization` with a log file path. -/
def logInitialization (k : LogKernel) (s : DriverState B C) : BitVec 32 × DriverState B C :=
  match logpInitializeBufferInfo k s with
  | (status, s) =>
    let needReinitialization := status = statusReinitializationNeeded
    if !needReinitialization && !ntSuccess status then (status, s)
    else if !ntSuccess k.logInfo then (k.logInfo, logpFinalizeBufferInfo s)
    else (if needReinitialization then statusReinitializationNeeded else statusSuccess, s)

/-- Registers `LogpReinitializationRoutine` for re-initialization. -/
def logRegisterReinitialization (s : DriverState B C) : DriverState B C :=
  { s with reinitialization := true }

/-- Initializes a log file at the re-initialization phase. The status is only asserted. -/
def logpReinitializationRoutine (k : LogKernel) (s : DriverState B C) : DriverState B C :=
  (logpInitializeLogFile k s).2

/-- Terminates the log functions. -/
def logTermination (s : DriverState B C) : DriverState B C :=
  logpFinalizeBufferInfo s

/-! ## Global objects -/

/-- `atexit`, with the answer of the pool. -/
def atexit (dtor : ℕ) (element : Bool) (s : DriverState B C) : DriverState B C :=
  if !element then s
  else take (.destructorEntry dtor) { s with dtors := dtor :: s.dtors }

/-- Calls all constructors. -/
def globalObjectInitialization (ctors : List (List (ℕ × Bool))) (s : DriverState B C) :
    BitVec 32 × DriverState B C :=
  (statusSuccess, ctors.foldl (fun s ctor =>
    ctor.foldl (fun s call => atexit call.1 call.2 s) s) s)

/-- The loop of `GlobalObjectTermination` over the list it pops. -/
def popDestructors : List ℕ → DriverState B C → DriverState B C
  | [], s => s
  | dtor :: dtors, s =>
    popDestructors dtors (give (.destructorEntry dtor) { s with dtors := dtors })

/-- Calls all registered destructors. -/
def globalObjectTermination (s : DriverState B C) : DriverState B C :=
  popDestructors s.dtors s

/-! ## Performance -/

def perfInitialization (k : DriverKernel B C) (s : DriverState B C) : BitVec 32 × DriverState B C :=
  if !k.perfCollector then (NtStatus.memoryNotAllocated.value, s)
  else (statusSuccess, take .perfCollector { s with performanceCollector := true })

def perfTermination (s : DriverState B C) : DriverState B C :=
  if s.performanceCollector then give .perfCollector { s with performanceCollector := false } else s

/-! ## Utility functions -/

/-- Builds the physical memory ranges. -/
def utilpBuildPhysicalMemoryRanges (k : DriverKernel B C) (s : DriverState B C) :
    Option PhysicalMemoryDescriptor × DriverState B C :=
  match k.mmGetPhysicalMemoryRanges with
  | none => (none, s)
  | some pmRanges =>
    let s := take .pmRanges s
    if pmRanges.descriptor.numberOfRuns = 0 then (none, give .pmRanges s)
    else if !k.pmBlock then (none, give .pmRanges s)
    else (some pmRanges.descriptor, give .pmRanges (take .pmBlock s))

/-- Initializes the physical memory ranges. -/
def utilpInitializePhysicalMemoryRanges (k : DriverKernel B C) (s : DriverState B C) :
    BitVec 32 × DriverState B C :=
  match utilpBuildPhysicalMemoryRanges k s with
  | (none, s) => (NtStatus.unsuccessful.value, s)
  | (some ranges, s) => (statusSuccess, { s with physicalMemoryRanges := some ranges })

/-- Initializes utility functions. -/
def utilInitialization (k : DriverKernel B C) (s : DriverState B C) : BitVec 32 × DriverState B C :=
  if !ntSuccess k.pageTableVariables then (k.pageTableVariables, s)
  else utilpInitializePhysicalMemoryRanges k s

/-- Terminates utility functions. The pointer is left as it is. -/
def utilTermination (s : DriverState B C) : DriverState B C :=
  if s.physicalMemoryRanges.isSome then give .pmBlock s else s

/-! ## Callbacks -/

/-- Registers power callback. -/
def powerCallbackInitialization (k : DriverKernel B C) (s : DriverState B C) :
    BitVec 32 × DriverState B C :=
  if !ntSuccess k.exCreateCallback then (k.exCreateCallback, s)
  else
    let s := take .callbackObject { s with callbackObject := true }
    let s := { s with registration := k.exRegisterCallback }
    if !s.registration then
      (NtStatus.unsuccessful.value, give .callbackObject { s with callbackObject := false })
    else (k.exCreateCallback, take .powerRegistration s)

/-- Unregister power callback. -/
def powerCallbackTermination (s : DriverState B C) : DriverState B C :=
  let s := if s.registration then give .powerRegistration s else s
  if s.callbackObject then give .callbackObject s else s

/-- `HotplugCallbackInitialization`. -/
def hotplugCallbackInitialization (k : DriverKernel B C) (s : DriverState B C) :
    BitVec 32 × DriverState B C :=
  if !k.keRegisterProcessorChangeCallback then (NtStatus.unsuccessful.value, s)
  else (statusSuccess, take .hotplugHandle { s with callbackHandle := true })

/-- `HotplugCallbackTermination`. -/
def hotplugCallbackTermination (s : DriverState B C) : DriverState B C :=
  if s.callbackHandle then give .hotplugHandle s else s

/-! ## Processors -/

/-- `VmInitialization` with the physical memory ranges that were built. -/
def vmInitialization (k : DriverKernel B C) (s : DriverState B C) : BitVec 32 × DriverState B C :=
  let runs := s.physicalMemoryRanges.elim [] PhysicalMemoryDescriptor.run
  let (status, sys) :=
    DeviceMon.vmInitialization { k.platform with physicalMemoryRuns := runs } s.sys
  (status.value, { s with sys := sys })

/-- `VmTermination`. -/
def vmTermination (pf : Platform B C) (s : DriverState B C) : DriverState B C :=
  { s with sys := DeviceMon.vmTermination pf s.sys }

/-! ## DriverEntry -/

/-- Test if the system is one of supported OS versions, on x64. -/
def driverpIsSuppoetedOS (k : DriverKernel B C) : Bool :=
  if !ntSuccess k.rtlGetVersion then false
  else if k.majorVersion ≠ 6 ∧ k.majorVersion ≠ 10 then false
  else true

/-- A driver entry point. -/
def driverEntry (k : DriverKernel B C) (s : DriverState B C) : BitVec 32 × DriverState B C :=
  match logInitialization k.toLogKernel s with
  | (status, s) =>
  let needReinitialization := status = statusReinitializationNeeded
  if !needReinitialization && !ntSuccess status then (status, s)
  else if !driverpIsSuppoetedOS k then (NtStatus.cancelled.value, logTermination s)
  else
  match globalObjectInitialization k.constructors s with
  | (status, s) =>
  if !ntSuccess status then (status, logTermination s)
  else
  match perfInitialization k s with
  | (status, s) =>
  if !ntSuccess status then (status, logTermination (globalObjectTermination s))
  else
  match utilInitialization k s with
  | (status, s) =>
  if !ntSuccess status then
    (status, logTermination (globalObjectTermination (perfTermination s)))
  else
  match powerCallbackInitialization k s with
  | (status, s) =>
  if !ntSuccess status then
    (status, logTermination (globalObjectTermination (perfTermination (utilTermination s))))
  else
  match hotplugCallbackInitialization k s with
  | (status, s) =>
  if !ntSuccess status then
    (status, logTermination (globalObjectTermination (perfTermination (utilTermination
      (powerCallbackTermination s)))))
  else
  match vmInitialization k s with
  | (status, s) =>
  if !ntSuccess status then
    (status, logTermination (globalObjectTermination (perfTermination (utilTermination
      (powerCallbackTermination (hotplugCallbackTermination s))))))
  else (status, if needReinitialization then logRegisterReinitialization s else s)

/-- Unload handler. -/
def driverpDriverUnload (pf : Platform B C) (s : DriverState B C) : DriverState B C :=
  logTermination (globalObjectTermination (perfTermination (utilTermination
    (powerCallbackTermination (hotplugCallbackTermination (vmTermination pf s))))))

end Driver

end DeviceMon
