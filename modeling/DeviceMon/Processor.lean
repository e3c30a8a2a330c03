import DeviceMon.ExitInfo
import DeviceMon.Vmm

/-!
# The processor of a VM exit

`ExitState` is `VmmState` with the rest of what the VM-exit handlers work on : `cr8` and `irql`
of the `GuestContext`, the registers of the processor that are not in the VMCS, and a `trace` of
what the handlers do, from the exit on. The trace has the writes of the VMCS, the accesses to
model-specific registers, to ports and to the strings that ports are read to and written from, and
the changes of the interrupt flag, in order.

`ExitMachine` says what the processor answers : `cpuid`, the time stamp counter and the ports may
answer anything, the last two depending on what was done before.

The build is the x64 one. A handler accesses memory with the guest's `cr3` loaded; `memory` is
memory as it is seen then.
-/

namespace DeviceMon

/-- What a handler does to the processor. -/
inductive CpuEvent where
  | vmWrite (field : VmcsField) (value : BitVec 64)
  | readMsr (msr : BitVec 32)
  | writeMsr (msr : BitVec 32) (value : BitVec 64)
  | portIn (port : BitVec 16) (size : ℕ)
  | portOut (port : BitVec 16) (size : ℕ) (value : BitVec 32)
  /-- An element of a string that is written to a port is loaded. -/
  | stringLoad (address : BitVec 64) (size : ℕ)
  /-- An element of a string that is read from a port is stored. -/
  | stringStore (address : BitVec 64) (size : ℕ)
  | cli
  | sti
deriving DecidableEq

/-- The value an event writes to a field. -/
def CpuEvent.written (field : VmcsField) : CpuEvent → Option (BitVec 64)
  | .vmWrite f value => if f = field then some value else none
  | _ => none

/-- Registers that are not in the VMCS. -/
structure CpuRegisters where
  /-- The debug registers but DR7. -/
  dr : BitVec 3 → BitVec 64
  cr2 : BitVec 64
  cr3 : BitVec 64
  cr8 : BitVec 64
  msr : BitVec 32 → BitVec 64
  xcr : BitVec 32 → BitVec 64

/-- What the system around the VMM is like, with the processor. -/
structure ExitMachine (B : Type) extends Machine B where
  cpuid : BitVec 32 → BitVec 32 → CpuInfo
  rdtsc : List CpuEvent → BitVec 64
  tscAux : BitVec 32
  portValue : List CpuEvent → BitVec 16 → ℕ → BitVec 32
  /-- `_KPROCESS::DirectoryTableBase` of the current process. -/
  directoryTableBase : BitVec 64

/-- One processor at a VM exit, with all that its handlers work on. -/
structure ExitState (B C : Type) extends VmmState B C where
  cr8 : BitVec 64
  irql : BitVec 64
  cpu : CpuRegisters
  trace : List CpuEvent

/-! ## Memory -/

/-- `size` bytes from `address` on, the lowest first. -/
def loadBytes (memory : BitVec 64 → BitVec 8) (address : BitVec 64) : ℕ → BitVec 64
  | 0 => 0
  | size + 1 =>
    (memory address).setWidth 64 ||| loadBytes memory (address + 1) size <<< 8

/-- A store of `size` bytes. -/
def storeBytes (memory : BitVec 64 → BitVec 8) (address : BitVec 64) (size : ℕ)
    (value : BitVec 64) : BitVec 64 → BitVec 8 := fun a =>
  if (a - address).toNat < size then value.extractLsb' (8 * (a - address).toNat) 8 else memory a

namespace ExitState

variable {B C : Type}

/-! ## Accesses -/

/-- A step that is not of this level. -/
def lift (f : VmmState B C → VmmState B C) (s : ExitState B C) : ExitState B C :=
  { s with toVmmState := f s.toVmmState }

/-- A step into the trace. -/
def log (events : List CpuEvent) (s : ExitState B C) : ExitState B C :=
  { s with trace := s.trace ++ events }

/-- `UtilVmRead`, and `UtilVmRead64`. -/
def utilVmRead (s : ExitState B C) (field : VmcsField) : BitVec 64 :=
  s.vmcs field

/-- `UtilVmWrite`, and `UtilVmWrite64`. -/
def utilVmWrite (field : VmcsField) (value : BitVec 64) (s : ExitState B C) : ExitState B C :=
  (s.lift (DeviceMon.utilVmWrite field value)).log [.vmWrite field value]

/-- `UtilReadMsr`, and `UtilReadMsr64`. -/
def utilReadMsr (msr : BitVec 32) (s : ExitState B C) : BitVec 64 × ExitState B C :=
  (s.cpu.msr msr, s.log [.readMsr msr])

/-- `UtilWriteMsr64`. -/
def utilWriteMsr64 (msr : BitVec 32) (value : BitVec 64) (s : ExitState B C) : ExitState B C :=
  { s with cpu := { s.cpu with msr := Function.update s.cpu.msr msr value } }.log
    [.writeMsr msr value]

/-- `__writedr`. -/
def writeDr (number : BitVec 3) (value : BitVec 64) (s : ExitState B C) : ExitState B C :=
  { s with cpu := { s.cpu with dr := Function.update s.cpu.dr number value } }

/-- `*register_used = value`. -/
def setRegister (index : BitVec 4) (value : BitVec 64) (s : ExitState B C) : ExitState B C :=
  s.lift fun s => { s with gpRegs := s.gpRegs.setSelected index value }

/-- A load of `size` bytes. -/
def load (address : BitVec 64) (size : ℕ) (s : ExitState B C) : BitVec 64 :=
  loadBytes s.memory address size

/-- A store of `size` bytes. -/
def store (address : BitVec 64) (size : ℕ) (value : BitVec 64) (s : ExitState B C) :
    ExitState B C :=
  s.lift fun s => { s with memory := storeBytes s.memory address size value }

/-- `__inbyte`, `__inword` and `__indword`. -/
def portIn (m : ExitMachine B) (port : BitVec 16) (size : ℕ) (s : ExitState B C) :
    BitVec 32 × ExitState B C :=
  (m.portValue s.trace port size, s.log [.portIn port size])

/-- `__outbyte`, `__outword` and `__outdword`. -/
def portOut (port : BitVec 16) (size : ℕ) (value : BitVec 32) (s : ExitState B C) :
    ExitState B C :=
  s.log [.portOut port size value]

/-- The values written to a field, in order. -/
def writes (s : ExitState B C) (field : VmcsField) : List (BitVec 64) :=
  s.trace.filterMap (CpuEvent.written field)

/-! ## Configuration space -/

/-- A `ReadPCIByte`, `ReadPCIWord` or `ReadPCIDword`, or a write of that width : the address
goes to the address port, and the value through the data port, with interrupts disabled
meanwhile. -/
def cfgEvents : IoProg.Access CfgAccess (BitVec 32) → List CpuEvent
  | .read access _ => [.cli, .portOut 0xCF8 4 access.pciAddr,
      .portIn access.cfgDataPort access.len.toNat, .sti]
  | .write access value => [.cli, .portOut 0xCF8 4 access.pciAddr,
      .portOut access.cfgDataPort access.len.toNat value, .sti]

/-- A change of the monitor list and the tables by a program of configuration accesses. -/
def runCfg (m : ExitMachine B) (prog : CfgProg (List (PciMonitorCfg C) × EptState))
    (s : ExitState B C) : ExitState B C :=
  let ((devices, ept), pci) := prog.run m.bus s.pci
  (s.lift fun s => { s with devices := devices, ept := ept, pci := pci }).log
    ((prog.trace m.bus s.pci).flatMap cfgEvents)

end ExitState

end DeviceMon
