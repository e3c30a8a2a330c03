import Mathlib.Tactic.IntervalCases
import DeviceMon.Ia32

/-!
# Exit information

The words of `ia32_type.h` that the remaining VM-exit handlers read : exit reasons, exit
qualifications, instruction information, control and debug registers, and segment descriptors.
Like the other words they are kept whole, with readers and writers for the bits in use.
-/

namespace DeviceMon

/-! ## Exit reasons -/

/-- `VmxExitReason`, the reasons `VmmpHandleVmExit` names. -/
inductive VmxExitReason where
  | exceptionOrNmi
  | tripleFault
  | cpuid
  | invd
  | invlpg
  | rdtsc
  | vmcall
  | vmclear
  | vmlaunch
  | vmptrld
  | vmptrst
  | vmread
  | vmresume
  | vmwrite
  | vmoff
  | vmon
  | crAccess
  | drAccess
  | ioInstruction
  | msrRead
  | msrWrite
  | monitorTrapFlag
  | gdtrOrIdtrAccess
  | ldtrOrTrAccess
  | eptViolation
  | eptMisconfig
  | invept
  | rdtscp
  | invvpid
  | xsetbv
deriving DecidableEq

/-- The reason of a value, or none for the `default` case. -/
def VmxExitReason.ofValue (value : BitVec 16) : Option VmxExitReason :=
  match value.toNat with
  | 0 => some .exceptionOrNmi
  | 2 => some .tripleFault
  | 10 => some .cpuid
  | 13 => some .invd
  | 14 => some .invlpg
  | 16 => some .rdtsc
  | 18 => some .vmcall
  | 19 => some .vmclear
  | 20 => some .vmlaunch
  | 21 => some .vmptrld
  | 22 => some .vmptrst
  | 23 => some .vmread
  | 24 => some .vmresume
  | 25 => some .vmwrite
  | 26 => some .vmoff
  | 27 => some .vmon
  | 28 => some .crAccess
  | 29 => some .drAccess
  | 30 => some .ioInstruction
  | 31 => some .msrRead
  | 32 => some .msrWrite
  | 37 => some .monitorTrapFlag
  | 46 => some .gdtrOrIdtrAccess
  | 47 => some .ldtrOrTrAccess
  | 48 => some .eptViolation
  | 49 => some .eptMisconfig
  | 50 => some .invept
  | 51 => some .rdtscp
  | 53 => some .invvpid
  | 55 => some .xsetbv
  | _ => none

/-! ## Exceptions -/

namespace VmExitInterruptionInformation

/-- `vector`, bits 0 to 7. -/
def vector (exception : BitVec 32) : BitVec 8 :=
  exception.extractLsb' 0 8

/-- `interruption_type`, bits 8 to 10. -/
def interruptionType (exception : BitVec 32) : BitVec 3 :=
  exception.extractLsb' 8 3

end VmExitInterruptionInformation

/-! ## Exit qualifications -/

namespace MovCrQualification

variable (qualification : BitVec 64)

/-- `control_register`, bits 0 to 3. -/
def controlRegister : BitVec 4 := qualification.extractLsb' 0 4

/-- `access_type`, bits 4 and 5. -/
def accessType : BitVec 2 := qualification.extractLsb' 4 2

/-- `gp_register`, bits 8 to 11. -/
def gpRegister : BitVec 4 := qualification.extractLsb' 8 4

end MovCrQualification

namespace MovDrQualification

variable (qualification : BitVec 64)

/-- `debugl_register`, bits 0 to 2. -/
def debuglRegister : BitVec 3 := qualification.extractLsb' 0 3

/-- `direction` is `kMoveFromDr`, bit 4. -/
def moveFromDr : Bool := qualification.getLsbD 4

/-- `gp_register`, bits 8 to 11. -/
def gpRegister : BitVec 4 := qualification.extractLsb' 8 4

end MovDrQualification

namespace IoInstQualification

variable (qualification : BitVec 64)

/-- `size_of_access`, bits 0 to 2. -/
def sizeOfAccess : BitVec 3 := qualification.extractLsb' 0 3

/-- `direction`, bit 3 : to memory. -/
def direction : Bool := qualification.getLsbD 3

/-- `string_instruction`, bit 4. -/
def stringInstruction : Bool := qualification.getLsbD 4

/-- `rep_prefixed`, bit 5. -/
def repPrefixed : Bool := qualification.getLsbD 5

/-- `port_number`, bits 16 to 31. -/
def portNumber : BitVec 16 := qualification.extractLsb' 16 16

end IoInstQualification

/-! ## Instruction information -/

/-- `GdtrOrIdtrInstInformation` and `LdtrOrTrInstInformation` : the memory operand and the
identity lie in the same bits, the register operand is in the second only. -/
structure InstInformation where
  all : BitVec 32

namespace InstInformation

variable (info : InstInformation)

/-- `scalling`, bits 0 and 1. -/
def scalling : BitVec 2 := info.all.extractLsb' 0 2

/-- `register1`, bits 3 to 6. -/
def register1 : BitVec 4 := info.all.extractLsb' 3 4

/-- `address_size`, bits 7 to 9. -/
def addressSize : BitVec 3 := info.all.extractLsb' 7 3

/-- `register_access`, bit 10. -/
def registerAccess : Bool := info.all.getLsbD 10

/-- `segment_register`, bits 15 to 17. -/
def segmentRegister : BitVec 3 := info.all.extractLsb' 15 3

/-- `index_register`, bits 18 to 21. -/
def indexRegister : BitVec 4 := info.all.extractLsb' 18 4

/-- `index_register_invalid`, bit 22. -/
def indexRegisterInvalid : Bool := info.all.getLsbD 22

/-- `base_register`, bits 23 to 26. -/
def baseRegister : BitVec 4 := info.all.extractLsb' 23 4

/-- `base_register_invalid`, bit 27. -/
def baseRegisterInvalid : Bool := info.all.getLsbD 27

/-- `instruction_identity`, bits 28 and 29. -/
def instructionIdentity : BitVec 2 := info.all.extractLsb' 28 2

end InstInformation

/-! ## Registers -/

namespace GpRegisters

/-- `*VmmpSelectRegister(index)`. -/
def select (regs : GpRegisters) (index : BitVec 4) : BitVec 64 :=
  match index.toNat with
  | 0 => regs.ax
  | 1 => regs.cx
  | 2 => regs.dx
  | 3 => regs.bx
  | 4 => regs.sp
  | 5 => regs.bp
  | 6 => regs.si
  | 7 => regs.di
  | 8 => regs.r8
  | 9 => regs.r9
  | 10 => regs.r10
  | 11 => regs.r11
  | 12 => regs.r12
  | 13 => regs.r13
  | 14 => regs.r14
  | _ => regs.r15

/-- `*VmmpSelectRegister(index) = value`. -/
def setSelected (regs : GpRegisters) (index : BitVec 4) (value : BitVec 64) : GpRegisters :=
  match index.toNat with
  | 0 => { regs with ax := value }
  | 1 => { regs with cx := value }
  | 2 => { regs with dx := value }
  | 3 => { regs with bx := value }
  | 4 => { regs with sp := value }
  | 5 => { regs with bp := value }
  | 6 => { regs with si := value }
  | 7 => { regs with di := value }
  | 8 => { regs with r8 := value }
  | 9 => { regs with r9 := value }
  | 10 => { regs with r10 := value }
  | 11 => { regs with r11 := value }
  | 12 => { regs with r12 := value }
  | 13 => { regs with r13 := value }
  | 14 => { regs with r14 := value }
  | _ => { regs with r15 := value }

/-- An index selects one register. -/
@[simp] theorem select_setSelected (regs : GpRegisters) (index : BitVec 4) (value : BitVec 64) :
    (regs.setSelected index value).select = Function.update regs.select index value := by
  funext other
  obtain ⟨⟨i, hi⟩⟩ := index
  obtain ⟨⟨j, hj⟩⟩ := other
  interval_cases i <;> interval_cases j <;> rfl

end GpRegisters

namespace FlagRegister

/-- `df`, bit 10. -/
def df (flags : BitVec 64) : Bool :=
  flags.getLsbD 10

/-- `cf` set, and `pf`, `af`, `zf`, `sf` and `of` cleared. -/
def errorWithoutStatus (flags : BitVec 64) : BitVec 64 :=
  clearStatus flags ||| 1

end FlagRegister

namespace Cr4

/-- `de`, bit 3. -/
def de (cr4 : BitVec 64) : Bool :=
  cr4.getLsbD 3

end Cr4

namespace Dr6

/-- `b0` to `b3` cleared and `bd` set. -/
def debugAccess (dr6 : BitVec 64) : BitVec 64 :=
  (dr6 &&& ~~~0xF#64) ||| 0x2000

/-- `reserved1` and `reserved3` all ones, `reserved2` zero. -/
def withReserved (value : BitVec 64) : BitVec 64 :=
  ((value ||| 0xFF0) &&& ~~~0x1000#64) ||| 0xFFFE0000

end Dr6

namespace Dr7

/-- `gd`, bit 13. -/
def gd (dr7 : BitVec 64) : Bool :=
  dr7.getLsbD 13

/-- `gd` cleared. -/
def clearGd (dr7 : BitVec 64) : BitVec 64 :=
  dr7 &&& ~~~0x2000#64

/-- `reserved1` one, `reserved2` and `reserved3` zero. -/
def withReserved (value : BitVec 64) : BitVec 64 :=
  (value ||| 0x400) &&& ~~~0xD000#64

end Dr7

/-! ## Segments -/

/-- `SegmentSelector.fields.index`, bits 3 to 15. -/
def segmentIndex (selector : BitVec 16) : BitVec 13 :=
  selector.extractLsb' 3 13

namespace SegmentDescriptor

/-- `l`, bit 53. -/
def l (descriptor : BitVec 64) : Bool :=
  descriptor.getLsbD 53

/-- `type |= 2` : the busy bit of a TSS, bit 41. -/
def setBusy (descriptor : BitVec 64) : BitVec 64 :=
  descriptor ||| 1 <<< 41

end SegmentDescriptor

/-! ## CPUID -/

/-- `cpu_info` : EAX, EBX, ECX and EDX of `cpuid`. -/
structure CpuInfo where
  eax : BitVec 32
  ebx : BitVec 32
  ecx : BitVec 32
  edx : BitVec 32
deriving Inhabited

/-- `not_used` of `CpuFeaturesEcx` set : the bit of a hypervisor, bit 31. -/
def CpuFeaturesEcx.setNotUsed (cpuFeatures : BitVec 32) : BitVec 32 :=
  cpuFeatures ||| 0x80000000

/-- `kHyperVCpuidInterface`. -/
def kHyperVCpuidInterface : BitVec 32 :=
  0x40000001

end DeviceMon
