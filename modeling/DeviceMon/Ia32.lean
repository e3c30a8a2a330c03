import Mathlib.Data.BitVec
import Mathlib.Logic.Function.Basic

/-!
# Processor structures

The unions of `ia32_type.h` and `ept.h` that the monitor reads bit by bit. An EPT
entry is kept as its bit fields; `EptCommonEntry.all` is the 64-bit word they
form, and the word is zero exactly when every field is (`all_eq_zero_iff`).
The qualification, control, flag and interruption words are kept as words with
readers and writers for the bits in use.
-/

namespace DeviceMon

/-- Number of a 4 KiB page or frame, as wide as the frame field of an entry. -/
abbrev Frame := BitVec 36

/-- Index of an entry in a table of 512. -/
abbrev TableIndex := BitVec 9

/-! ## Fields of words -/

theorem toNat_and_mask {w : ℕ} (x : BitVec w) {mask : BitVec w} (n : ℕ)
    (hmask : mask.toNat = 2 ^ n - 1) : (x &&& mask).toNat = x.toNat % 2 ^ n := by
  rw [BitVec.toNat_and, hmask, Nat.and_two_pow_sub_one_eq_mod]

/-- A field of `n` bits from bit `k` on, shifted down. -/
theorem toNat_shiftRight_and {w : ℕ} (x : BitVec w) {mask : BitVec w} (k n : ℕ)
    (hmask : mask.toNat = 2 ^ n - 1) : ((x >>> k) &&& mask).toNat = x.toNat / 2 ^ k % 2 ^ n := by
  rw [toNat_and_mask _ n hmask, BitVec.toNat_ushiftRight, Nat.shiftRight_eq_div_pow]

theorem toNat_high (x : BitVec 64) : (x.extractLsb' 32 32).toNat = x.toNat / 2 ^ 32 := by
  rw [BitVec.extractLsb'_toNat, Nat.shiftRight_eq_div_pow]
  omega

/-! ## EPT entries -/

/-- `EptCommonEntry` : the fields shared by the entries of all levels. -/
structure EptCommonEntry where
  readAccess : Bool
  writeAccess : Bool
  executeAccess : Bool
  memoryType : BitVec 3
  reserved1 : BitVec 6
  physialAddress : Frame
  reserved2 : BitVec 16
deriving DecidableEq

namespace EptCommonEntry

/-- A zeroed entry. -/
def zero : EptCommonEntry :=
  ⟨false, false, false, 0, 0, 0, 0⟩

/-- The entry as one word, `reserved2` in the top bits and `read_access` in bit 0. -/
def all (e : EptCommonEntry) : BitVec 64 :=
  e.reserved2 ++ e.physialAddress ++ e.reserved1 ++ e.memoryType ++
    BitVec.ofBool e.executeAccess ++ BitVec.ofBool e.writeAccess ++ BitVec.ofBool e.readAccess

@[simp] theorem all_zero : zero.all = 0 := by
  decide

theorem append_eq_zero {n m : ℕ} {a : BitVec n} {b : BitVec m} (h : a ++ b = 0#(n + m)) :
    a = 0#n ∧ b = 0#m := by
  have ha : (a ++ b).extractLsb' m n = a := BitVec.extractLsb'_append_eq_left
  have hb : (a ++ b).extractLsb' 0 m = b := BitVec.extractLsb'_append_eq_right
  rw [h] at ha hb
  exact ⟨by simpa using ha.symm, by simpa using hb.symm⟩

theorem ofBool_eq_zero {b : Bool} (h : BitVec.ofBool b = 0#1) : b = false := by
  cases b with
  | false => rfl
  | true => exact absurd h (by decide)

/-- The word is zero only if every field is. -/
theorem all_eq_zero_iff (e : EptCommonEntry) : e.all = 0 ↔ e = zero := by
  constructor
  · intro h
    obtain ⟨h, hr⟩ := append_eq_zero h
    obtain ⟨h, hw⟩ := append_eq_zero h
    obtain ⟨h, hx⟩ := append_eq_zero h
    obtain ⟨h, hm⟩ := append_eq_zero h
    obtain ⟨h, h1⟩ := append_eq_zero h
    obtain ⟨h2, hp⟩ := append_eq_zero h
    cases e
    simp only [zero, mk.injEq]
    exact ⟨ofBool_eq_zero hr, ofBool_eq_zero hw, ofBool_eq_zero hx, hm, h1, hp, h2⟩
  · rintro rfl
    exact all_zero

/-- An executable entry is not zero. -/
theorem all_ne_zero_of_execute {e : EptCommonEntry} (h : e.executeAccess = true) :
    e.all ≠ 0 := by
  rw [Ne, all_eq_zero_iff]
  rintro rfl
  cases h

/-- Read and write denied, execute left on : every data access to the page exits. -/
def trap (e : EptCommonEntry) : EptCommonEntry :=
  { e with readAccess := false, writeAccess := false, executeAccess := true }

/-- All accesses allowed. -/
def pass (e : EptCommonEntry) : EptCommonEntry :=
  { e with readAccess := true, writeAccess := true, executeAccess := true }

/-- An entry that allows every access. -/
def Open (e : EptCommonEntry) : Prop :=
  e.readAccess = true ∧ e.writeAccess = true ∧ e.executeAccess = true

instance (e : EptCommonEntry) : Decidable e.Open :=
  inferInstanceAs (Decidable (_ ∧ _ ∧ _))

theorem open_pass (e : EptCommonEntry) : e.pass.Open :=
  ⟨rfl, rfl, rfl⟩

/-- A present entry that denies reads and writes and allows fetches. -/
def Trapped (e : EptCommonEntry) : Prop :=
  e.all ≠ 0 ∧ e.readAccess = false ∧ e.writeAccess = false ∧ e.executeAccess = true

instance (e : EptCommonEntry) : Decidable e.Trapped :=
  inferInstanceAs (Decidable (_ ∧ _ ∧ _ ∧ _))

@[simp] theorem trap_all_ne_zero (e : EptCommonEntry) : e.trap.all ≠ 0 :=
  all_ne_zero_of_execute rfl

@[simp] theorem pass_all_ne_zero (e : EptCommonEntry) : e.pass.all ≠ 0 :=
  all_ne_zero_of_execute rfl

theorem trapped_trap (e : EptCommonEntry) : e.trap.Trapped :=
  ⟨e.trap_all_ne_zero, rfl, rfl, rfl⟩

end EptCommonEntry

/-! ## EPT capabilities -/

/-- `Ia32VmxEptVpidCapMsr`, the bits in use. -/
structure Ia32VmxEptVpidCapMsr where
  all : BitVec 64
deriving DecidableEq

namespace Ia32VmxEptVpidCapMsr

variable (capability : Ia32VmxEptVpidCapMsr)

def supportExecuteOnlyPages : Bool := capability.all.getLsbD 0

def supportPageWalkLength4 : Bool := capability.all.getLsbD 6

def supportWriteBackMemoryType : Bool := capability.all.getLsbD 14

def supportInvept : Bool := capability.all.getLsbD 20

def supportSingleContextInvept : Bool := capability.all.getLsbD 25

def supportAllContextInvept : Bool := capability.all.getLsbD 26

def supportInvvpid : Bool := capability.all.getLsbD 32

def supportIndividualAddressInvvpid : Bool := capability.all.getLsbD 40

def supportSingleContextInvvpid : Bool := capability.all.getLsbD 41

def supportAllContextInvvpid : Bool := capability.all.getLsbD 42

def supportSingleContextRetainingGlobalsInvvpid : Bool := capability.all.getLsbD 43

end Ia32VmxEptVpidCapMsr

/-! ## EPT violations -/

/-- `EptViolationQualification` : the exit qualification of an EPT violation. -/
structure EptViolationQualification where
  all : BitVec 64

namespace EptViolationQualification

variable (q : EptViolationQualification)

def readAccess : Bool := q.all.getLsbD 0

def writeAccess : Bool := q.all.getLsbD 1

def executeAccess : Bool := q.all.getLsbD 2

def eptReadable : Bool := q.all.getLsbD 3

def eptWriteable : Bool := q.all.getLsbD 4

def eptExecutable : Bool := q.all.getLsbD 5

end EptViolationQualification

/-! ## Registers -/

/-- `GpRegisters`, the x64 layout. -/
structure GpRegisters where
  r15 : BitVec 64
  r14 : BitVec 64
  r13 : BitVec 64
  r12 : BitVec 64
  r11 : BitVec 64
  r10 : BitVec 64
  r9 : BitVec 64
  r8 : BitVec 64
  di : BitVec 64
  si : BitVec 64
  bp : BitVec 64
  sp : BitVec 64
  bx : BitVec 64
  dx : BitVec 64
  cx : BitVec 64
  ax : BitVec 64
deriving DecidableEq, Inhabited

/-! ## Control and flag words -/

namespace VmxProcessorBasedControls

/-- `monitor_trap_flag`, bit 27. -/
def monitorTrapFlag (controls : BitVec 32) : Bool :=
  controls.getLsbD 27

/-- `fields.monitor_trap_flag = enable`. -/
def setMonitorTrapFlag (controls : BitVec 32) (enable : Bool) : BitVec 32 :=
  if enable then controls ||| 1#32 <<< 27 else controls &&& ~~~(1#32 <<< 27)

@[simp] theorem monitorTrapFlag_set (controls : BitVec 32) (enable : Bool) :
    monitorTrapFlag (setMonitorTrapFlag controls enable) = enable := by
  cases enable <;> simp [monitorTrapFlag, setMonitorTrapFlag]

end VmxProcessorBasedControls

namespace FlagRegister

/-- `tf`, bit 8. -/
def tf (flags : BitVec 64) : Bool :=
  flags.getLsbD 8

/-- `cf`, bit 0. -/
def cf (flags : BitVec 64) : Bool :=
  flags.getLsbD 0

/-- `zf`, bit 6. -/
def zf (flags : BitVec 64) : Bool :=
  flags.getLsbD 6

/-- `cf`, `pf`, `af`, `zf`, `sf` and `of` cleared. -/
def clearStatus (flags : BitVec 64) : BitVec 64 :=
  flags &&& ~~~0x8d5#64

end FlagRegister

/-- `InterruptionType`, the values in use. -/
inductive InterruptionType where
  | hardwareException
  | softwareException
deriving DecidableEq

/-- The enumerator's value. -/
def InterruptionType.code : InterruptionType → BitVec 3
  | .hardwareException => 3
  | .softwareException => 6

/-- `InterruptionVector`, the values in use. -/
inductive InterruptionVector where
  | debugException
  | breakpointException
  | invalidOpcodeException
  | generalProtectionException
  | pageFaultException
deriving DecidableEq

/-- The enumerator's value. -/
def InterruptionVector.code : InterruptionVector → BitVec 8
  | .debugException => 1
  | .breakpointException => 3
  | .invalidOpcodeException => 6
  | .generalProtectionException => 13
  | .pageFaultException => 14

/-- `VmEntryInterruptionInformationField` with `valid` set. -/
def vmEntryInterruptionInformation (type : InterruptionType) (vector : InterruptionVector)
    (deliverErrorCode : Bool) : BitVec 32 :=
  BitVec.ofBool true ++ 0#19 ++ BitVec.ofBool deliverErrorCode ++ type.code ++ vector.code

/-- `VmxRegmentDescriptorAccessRight.fields.dpl`, bits 5 and 6. -/
def dpl (accessRights : BitVec 32) : BitVec 2 :=
  accessRights.extractLsb' 5 2

end DeviceMon
