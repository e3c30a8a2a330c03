import DeviceMon.ExitDiscipline

/-!
# Memory operands of the descriptor table instructions

The instruction information of an exit encodes a memory operand (`InstInformation.operand`). Its
address is the segment base plus the offset, and the offset wraps around at the address size
(`MemoryOperand.address`).

The handlers of SGDT, SIDT, LGDT and LIDT and of SLDT, STR, LLDT and LTR compute the address by
`operationAddress` : the sum with the segment base is cut to 32 bits if the address size is 32, and
an address size of 16 is not looked at. `operationAddress_eq_iff` says when the address is right.
-/

namespace DeviceMon

/-! ## Operands -/

/-- The segments of memory operands. -/
inductive Segment where
  | es
  | cs
  | ss
  | ds
  | fs
  | gs
deriving DecidableEq

namespace Segment

def ofNumber (number : BitVec 3) : Option Segment :=
  match number.toNat with
  | 0 => some es
  | 1 => some cs
  | 2 => some ss
  | 3 => some ds
  | 4 => some fs
  | 5 => some gs
  | _ => none

def baseField : Segment → VmcsField
  | es => .guestEsBase
  | cs => .guestCsBase
  | ss => .guestSsBase
  | ds => .guestDsBase
  | fs => .guestFsBase
  | gs => .guestGsBase

end Segment

/-- `AddressSize`. -/
inductive AddressSize where
  | k16bit
  | k32bit
  | k64bit
deriving DecidableEq

namespace AddressSize

def ofValue (value : BitVec 3) : Option AddressSize :=
  match value.toNat with
  | 0 => some k16bit
  | 1 => some k32bit
  | 2 => some k64bit
  | _ => none

def width : AddressSize → ℕ
  | k16bit => 16
  | k32bit => 32
  | k64bit => 64

end AddressSize

/-- An operand in memory. The index counts `2 ^ scaling` times. -/
structure MemoryOperand where
  segment : Segment
  addressSize : AddressSize
  base : Option (BitVec 4)
  index : Option (BitVec 4)
  scaling : ℕ

/-- The memory operand that instruction information encodes; other segments and address sizes are
not in use. -/
def InstInformation.operand (info : InstInformation) : Option MemoryOperand :=
  match Segment.ofNumber info.segmentRegister, AddressSize.ofValue info.addressSize with
  | some segment, some addressSize => some
    { segment := segment
      addressSize := addressSize
      base := if info.baseRegisterInvalid then none else some info.baseRegister
      index := if info.indexRegisterInvalid then none else some info.indexRegister
      scaling := info.scalling.toNat }
  | _, _ => none

namespace MemoryOperand

variable (operand : MemoryOperand)

/-- The value of a register, if there is one. -/
def registerValue (regs : GpRegisters) (register : Option (BitVec 4)) : ℕ :=
  register.elim 0 fun index => (regs.select index).toNat

/-- Base, scaled index and displacement, before they wrap around. -/
def offset (regs : GpRegisters) (displacement : BitVec 64) : ℕ :=
  registerValue regs operand.base + registerValue regs operand.index * 2 ^ operand.scaling +
    displacement.toNat

/-- The address of the operand. -/
def address (regs : GpRegisters) (displacement segmentBase : BitVec 64) : BitVec 64 :=
  BitVec.ofNat 64
    (segmentBase.toNat + operand.offset regs displacement % 2 ^ operand.addressSize.width)

end MemoryOperand

/-! ## The computed address -/

namespace ExitState

variable {B C : Type} {s : ExitState B C} {info : InstInformation} {operand : MemoryOperand}

theorem segmentBase_eq {segment : Segment}
    (h : Segment.ofNumber info.segmentRegister = some segment) :
    segmentBase info s = s.vmcs segment.baseField := by
  unfold Segment.ofNumber at h
  split at h
  case h_7 => cases h
  all_goals
    rename_i hnumber
    cases h
    rw [segmentBase, hnumber]
    rfl

/-- Scaling multiplies by a power of two. -/
theorem scaled_eq (scaling : BitVec 2) (value : BitVec 64) :
    (match scaling.toNat with
      | 1 => value * 2
      | 2 => value * 4
      | 3 => value * 8
      | _ => value) = BitVec.ofNat 64 (value.toNat * 2 ^ scaling.toNat) := by
  have hscaling := scaling.isLt
  generalize scaling.toNat = k at *
  rw [← BitVec.toNat_inj, BitVec.toNat_ofNat]
  interval_cases k
  · simp [Nat.mod_eq_of_lt value.isLt]
  · simp [BitVec.toNat_mul]
  · simp [BitVec.toNat_mul]
  · simp [BitVec.toNat_mul]

theorem operand_spec (h : info.operand = some operand) :
    Segment.ofNumber info.segmentRegister = some operand.segment ∧
      AddressSize.ofValue info.addressSize = some operand.addressSize ∧
      operand.base = (if info.baseRegisterInvalid then none else some info.baseRegister) ∧
      operand.index = (if info.indexRegisterInvalid then none else some info.indexRegister) ∧
      operand.scaling = info.scalling.toNat := by
  unfold InstInformation.operand at h
  split at h
  case h_1 hsegment hsize =>
    cases h
    exact ⟨hsegment, hsize, rfl, rfl, rfl⟩
  case h_2 => cases h

theorem addressSize_eq_one_iff {addressSize : AddressSize}
    (h : AddressSize.ofValue info.addressSize = some addressSize) :
    info.addressSize = 1 ↔ addressSize = .k32bit := by
  revert h
  generalize info.addressSize = value
  cases addressSize with
  | k16bit => revert value; decide
  | k32bit => revert value; decide
  | k64bit => revert value; decide

/-- The computed address is the sum, cut if the address size is 32. -/
theorem operationAddress_sum (h : info.operand = some operand) : operationAddress info s =
    if operand.addressSize = .k32bit then
      BitVec.ofNat 64 ((s.vmcs operand.segment.baseField).toNat +
        operand.offset s.gpRegs (s.vmcs .exitQualification)) &&& 0xFFFFFFFF
    else BitVec.ofNat 64 ((s.vmcs operand.segment.baseField).toNat +
      operand.offset s.gpRegs (s.vmcs .exitQualification)) := by
  obtain ⟨hsegment, hsize, hbase, hindex, hscaling⟩ := operand_spec h
  have hbaseValue : (if !info.baseRegisterInvalid then s.gpRegs.select info.baseRegister else 0) =
      BitVec.ofNat 64 (MemoryOperand.registerValue s.gpRegs operand.base) := by
    rw [hbase]
    cases info.baseRegisterInvalid with
    | true => rfl
    | false => exact (BitVec.setWidth_eq _).symm.trans (BitVec.ofNat_toNat _ _).symm
  have hindexValue : (if !info.indexRegisterInvalid then
      BitVec.ofNat 64 ((s.gpRegs.select info.indexRegister).toNat * 2 ^ info.scalling.toNat)
      else 0) = BitVec.ofNat 64
        (MemoryOperand.registerValue s.gpRegs operand.index * 2 ^ operand.scaling) := by
    rw [hindex, hscaling]
    cases info.indexRegisterInvalid with
    | true =>
      have hzero : MemoryOperand.registerValue s.gpRegs none * 2 ^ info.scalling.toNat = 0 :=
        Nat.zero_mul _
      exact (congrArg (BitVec.ofNat 64) hzero).symm
    | false => rfl
  have hsum : segmentBase info s +
      BitVec.ofNat 64 (MemoryOperand.registerValue s.gpRegs operand.base) + BitVec.ofNat 64
        (MemoryOperand.registerValue s.gpRegs operand.index * 2 ^ operand.scaling) +
      s.vmcs .exitQualification = BitVec.ofNat 64 ((s.vmcs operand.segment.baseField).toNat +
        operand.offset s.gpRegs (s.vmcs .exitQualification)) := by
    rw [segmentBase_eq hsegment, MemoryOperand.offset, ← BitVec.toNat_inj]
    simp only [BitVec.toNat_add, BitVec.toNat_ofNat]
    omega
  rw [← hsum, ← hbaseValue, ← hindexValue, ← scaled_eq, operationAddress]
  simp only [addressSize_eq_one_iff hsize]
  rfl

/-- **When operand addresses are right.** For every memory operand an exit can encode, the address
the handlers compute is that of the operand exactly when : the address size is 64; it is 32, and
the address is below 4 GiB; or it is 16, and the offset does not wrap around. -/
theorem operationAddress_eq_iff {B C : Type} (info : InstInformation) (s : ExitState B C)
    (operand : MemoryOperand) (h : info.operand = some operand) :
    operationAddress info s = operand.address s.gpRegs (s.vmcs .exitQualification)
        (s.vmcs operand.segment.baseField) ↔
      match operand.addressSize with
      | .k64bit => True
      | .k32bit => ((s.vmcs operand.segment.baseField).toNat +
          operand.offset s.gpRegs (s.vmcs .exitQualification) % 2 ^ 32) % 2 ^ 64 < 2 ^ 32
      | .k16bit => operand.offset s.gpRegs (s.vmcs .exitQualification) % 2 ^ 64 < 2 ^ 16 := by
  rw [operationAddress_sum h, MemoryOperand.address]
  generalize s.vmcs operand.segment.baseField = base
  generalize operand.offset s.gpRegs (s.vmcs .exitQualification) = offset
  have hbase := base.isLt
  rw [← BitVec.toNat_inj, BitVec.toNat_ofNat]
  cases operand.addressSize with
  | k16bit =>
    simp only [reduceCtorEq, if_false, BitVec.toNat_ofNat, AddressSize.width]
    omega
  | k32bit =>
    rw [if_pos rfl, toNat_and_mask _ 32 rfl, BitVec.toNat_ofNat]
    simp only [AddressSize.width]
    omega
  | k64bit =>
    simp only [reduceCtorEq, if_false, BitVec.toNat_ofNat, AddressSize.width, Nat.add_mod_mod]

end ExitState

/-- The operand `[ebx]` of an LGDT, in the segment FS with the base given. -/
def fsExit (segmentBase : BitVec 64) : ExitState (BitVec 32) Unit where
  toVmmState := { userState 0 bootEpt with
    gpRegs := { (userState 0 bootEpt).gpRegs with bx := 0x1000 }
    vmcs := fun
      | .vmExitReason => 46
      | .vmxInstructionInfo => 0x21C20080
      | .guestFsBase => segmentBase
      | _ => 0 }
  cr8 := 0
  irql := 0
  cpu := ⟨fun _ => 0, 0, 0, 0, fun _ => 0, fun _ => 0⟩
  trace := []

/-- Its instruction information. -/
def fsOperand : MemoryOperand :=
  ⟨.fs, .k32bit, some 3, none, 0⟩

theorem operationAddress_eq_iff_fs :
    ExitState.operationAddress ⟨0x21C20080⟩ (fsExit 0x7FF00000) =
      fsOperand.address (fsExit 0x7FF00000).gpRegs 0 0x7FF00000 := by
  have hlow : ((0x7FF00000 : BitVec 64).toNat +
      fsOperand.offset (fsExit 0x7FF00000).gpRegs 0 % 2 ^ 32) % 2 ^ 64 < 2 ^ 32 := by decide
  exact (ExitState.operationAddress_eq_iff ⟨0x21C20080⟩ (fsExit 0x7FF00000) fsOperand rfl).2 hlow

/-- The base of FS is cut as well. -/
theorem operationAddress_cuts_base : ¬∀ (info : InstInformation)
    (s : ExitState (BitVec 32) Unit) (operand : MemoryOperand), info.operand = some operand →
      ExitState.operationAddress info s = operand.address s.gpRegs (s.vmcs .exitQualification)
        (s.vmcs operand.segment.baseField) := by
  intro hall
  have haddress := hall ⟨0x21C20080⟩ (fsExit 0x7FF000000000) fsOperand rfl
  exact absurd haddress (by decide)

end DeviceMon
