import DeviceMon.ExitDiscipline
import DeviceMon.SegmentDescriptors

/-!
# LLDT and LTR

The processor loads LDTR and TR with a selector and with the base, the limit and the access rights
of the descriptor it names (`Describes`). `VmmpHandleLdtrOrTrAccess` writes the selector to the
VMCS and leaves the other fields as they are. For LTR it marks the descriptor as busy
(`storeBytes_setBusy`). So the register is loaded exactly when the VMCS described the descriptor
before (`segmentRegister_loaded_iff`).
-/

namespace DeviceMon

/-! ## Descriptors -/

namespace SegmentDescriptor

/-- The limit in bytes. -/
def limit (descriptor : BitVec 64) : BitVec 32 :=
  let units := (descriptor.extractLsb' 48 4 ++ descriptor.extractLsb' 0 16).setWidth 32
  if descriptor.getLsbD 55 then units <<< 12 ||| 0xFFF else units

/-- The access rights as the VMCS has them. -/
def accessRights (descriptor : BitVec 64) : BitVec 32 :=
  (descriptor.extractLsb' 40 16).setWidth 32 &&& 0xF0FF

/-- A present system descriptor of an LDT. -/
def IsLdt (descriptor : BitVec 64) : Prop :=
  descriptor.extractLsb' 40 5 = 2 ∧ descriptor.getLsbD 47 = true

/-- A present system descriptor of a TSS that is not busy. -/
def IsAvailableTss (descriptor : BitVec 64) : Prop :=
  descriptor.extractLsb' 40 5 = 9 ∧ descriptor.getLsbD 47 = true

end SegmentDescriptor

/-- The VMCS fields of a segment register. -/
structure SegmentFields where
  selector : VmcsField
  base : VmcsField
  limit : VmcsField
  arBytes : VmcsField

def ldtrFields : SegmentFields :=
  ⟨.guestLdtrSelector, .guestLdtrBase, .guestLdtrLimit, .guestLdtrArBytes⟩

def trFields : SegmentFields :=
  ⟨.guestTrSelector, .guestTrBase, .guestTrLimit, .guestTrArBytes⟩

/-- The part of a segment register without the selector is that of a descriptor. -/
structure DescribesHidden (fields : SegmentFields) (vmcs : VmcsField → BitVec 64)
    (base descriptor : BitVec 64) : Prop where
  base : vmcs fields.base = base
  limit : vmcs fields.limit = (SegmentDescriptor.limit descriptor).setWidth 64
  arBytes : vmcs fields.arBytes = (SegmentDescriptor.accessRights descriptor).setWidth 64

/-- A segment register describes the descriptor a selector names. -/
structure Describes (fields : SegmentFields) (vmcs : VmcsField → BitVec 64)
    (selector : BitVec 16) (base descriptor : BitVec 64) : Prop
    extends DescribesHidden fields vmcs base descriptor where
  selector : vmcs fields.selector = selector.setWidth 64

/-! ## The busy bit -/

/-- A load by its bits. -/
theorem getLsbD_loadBytes (memory : BitVec 64 → BitVec 8) (address : BitVec 64) {size : ℕ}
    (hsize : size ≤ 8) (i : ℕ) : (loadBytes memory address size).getLsbD i =
      (decide (i < 8 * size) && (memory (address + BitVec.ofNat 64 (i / 8))).getLsbD (i % 8)) := by
  induction size generalizing address i with
  | zero => simp [loadBytes]
  | succ size ih =>
    rw [loadBytes, BitVec.getLsbD_or, BitVec.getLsbD_setWidth, BitVec.getLsbD_shiftLeft,
      ih (address + 1) (by omega)]
    by_cases hlow : i < 8
    · have hdiv : i / 8 = 0 := by omega
      have hmod : i % 8 = i := by omega
      simp [hlow, hdiv, hmod, show i < 64 by omega, show i < 8 * (size + 1) by omega]
    · have hbyte := BitVec.getLsbD_of_ge (memory address) i (by omega)
      have haddress : address + 1#64 + BitVec.ofNat 64 ((i - 8) / 8) =
          address + BitVec.ofNat 64 (i / 8) := by
        have hnext : i / 8 = (i - 8) / 8 + 1 := by omega
        rw [hnext, BitVec.add_assoc, BitVec.ofNat_add]
        exact congrArg (address + ·) (BitVec.add_comm _ _)
      have hmod : (i - 8) % 8 = i % 8 := by omega
      by_cases hhigh : i < 8 * (size + 1)
      · simp [hlow, hhigh, hbyte, haddress, hmod, show i < 64 by omega,
          show i - 8 < 8 * size by omega]
      · simp [hlow, hhigh, hbyte, show ¬i - 8 < 8 * size by omega]

/-- A byte of a load. -/
theorem extractLsb'_loadBytes (memory : BitVec 64 → BitVec 8) (address : BitVec 64) {k : ℕ}
    (hk : k < 8) : (loadBytes memory address 8).extractLsb' (8 * k) 8 =
      memory (address + BitVec.ofNat 64 k) := by
  refine BitVec.eq_of_getLsbD_eq fun j hj => ?_
  rw [BitVec.getLsbD_extractLsb', getLsbD_loadBytes memory address le_rfl]
  have hdiv : (8 * k + j) / 8 = k := by omega
  have hmod : (8 * k + j) % 8 = j := by omega
  simp [hdiv, hmod, hj, show 8 * k + j < 64 by omega]

/-- Setting the busy bit sets a bit of one byte. -/
theorem extractLsb'_setBusy (descriptor : BitVec 64) {k : ℕ} (hk : k < 8) :
    (SegmentDescriptor.setBusy descriptor).extractLsb' (8 * k) 8 =
      descriptor.extractLsb' (8 * k) 8 ||| if k = 5 then 2 else 0 := by
  have hbit : ∀ k < 8, (1#64 <<< 41).extractLsb' (8 * k) 8 = if k = 5 then 2#8 else 0#8 := by
    decide
  refine BitVec.eq_of_getLsbD_eq fun j hj => ?_
  have hbyte := congrArg (fun byte : BitVec 8 => byte.getLsbD j) (hbit k hk)
  simp only [BitVec.getLsbD_extractLsb'] at hbyte
  rw [SegmentDescriptor.setBusy, BitVec.getLsbD_extractLsb', BitVec.getLsbD_or, BitVec.getLsbD_or,
    BitVec.getLsbD_extractLsb', Bool.and_or_distrib_left]
  exact congrArg (_ || ·) hbyte

/-- Setting the busy bit changes one byte of memory. -/
theorem storeBytes_setBusy (memory : BitVec 64 → BitVec 8) (address : BitVec 64) :
    storeBytes memory address 8 (SegmentDescriptor.setBusy (loadBytes memory address 8)) =
      Function.update memory (address + 5) (memory (address + 5) ||| 2) := by
  funext a
  have ha : a = address + BitVec.ofNat 64 (a - address).toNat := by
    rw [BitVec.ofNat_toNat, BitVec.setWidth_eq]
    exact (add_sub_cancel address a).symm
  have hbusy : a = address + 5 ↔ (a - address).toNat = 5 := by
    rw [← sub_eq_iff_eq_add', ← BitVec.toNat_inj]
    rfl
  rw [storeBytes, Function.update_apply]
  by_cases hk : (a - address).toNat < 8
  · rw [if_pos hk, extractLsb'_setBusy _ hk, extractLsb'_loadBytes _ _ hk, ← ha]
    by_cases h : a = address + 5
    · rw [if_pos h, if_pos (hbusy.1 h), h]
    · rw [if_neg h, if_neg (mt hbusy.2 h)]
      exact BitVec.or_zero
  · have hother : a ≠ address + 5 := fun h => hk (by rw [hbusy.1 h]; decide)
    rw [if_neg hk, if_neg hother]

/-- A load of what was stored. -/
theorem loadBytes_storeBytes (memory : BitVec 64 → BitVec 8) (address value : BitVec 64) :
    loadBytes (storeBytes memory address 8 value) address 8 = value := by
  refine BitVec.eq_of_getLsbD_eq fun i hi => ?_
  have hk : i / 8 < 8 := by omega
  have hoffset : (address + BitVec.ofNat 64 (i / 8) - address).toNat = i / 8 := by
    have hcancel : address + BitVec.ofNat 64 (i / 8) - address = BitVec.ofNat 64 (i / 8) :=
      add_sub_cancel_left address _
    rw [hcancel, BitVec.toNat_ofNat]
    omega
  have hindex : 8 * (i / 8) + i % 8 = i := Nat.div_add_mod i 8
  rw [getLsbD_loadBytes _ _ le_rfl, storeBytes, if_pos (by omega), hoffset,
    BitVec.getLsbD_extractLsb', hindex]
  simp [hi, show i % 8 < 8 by omega]

/-! ## The loads -/

namespace ExitState

variable {B C : Type}

/-- The instruction information of an exit. -/
def instInformation (s : ExitState B C) : InstInformation :=
  ⟨(s.vmcs .vmxInstructionInfo).setWidth 32⟩

/-- The selector LLDT and LTR load. -/
def operandSelector (s : ExitState B C) : BitVec 16 :=
  loadSelector s.instInformation (operationAddress s.instInformation s) s

/-- Where the descriptor of that selector is. -/
def operandDescriptor (s : ExitState B C) : BitVec 64 :=
  descriptorAddress (s.vmcs .guestGdtrBase) s.operandSelector

/-- The base `VmpGetSegmentBase` computes for that selector. -/
def operandBase (cpu : SetupCpu) (s : ExitState B C) : BitVec 64 :=
  vmpGetSegmentBase { cpu with memory := s.memory } (s.vmcs .guestGdtrBase) s.operandSelector

/-- LLDT writes the selector. -/
theorem lldt_eq (m : ExitMachine B) {s : ExitState B C}
    (hlldt : s.instInformation.instructionIdentity = 2) : vmmpHandleLdtrOrTrAccess m s =
      vmmpAdjustGuestInstructionPointer (withGuestCr3 m
        (utilVmWrite .guestLdtrSelector (s.operandSelector.setWidth 64)) s) := by
  have hidentity : s.instInformation.instructionIdentity.toNat = 2 := by rw [hlldt]; rfl
  unfold instInformation at hidentity
  simp only [vmmpHandleLdtrOrTrAccess, utilVmRead, hidentity]
  rfl

/-- LTR writes the selector and marks the descriptor. -/
theorem ltr_eq (m : ExitMachine B) {s : ExitState B C}
    (hltr : s.instInformation.instructionIdentity = 3) : vmmpHandleLdtrOrTrAccess m s =
      vmmpAdjustGuestInstructionPointer (withGuestCr3 m (fun s₁ =>
        (utilVmWrite .guestTrSelector (s.operandSelector.setWidth 64) s₁).store
          s.operandDescriptor 8 (SegmentDescriptor.setBusy
            (loadBytes s.memory s.operandDescriptor 8))) s) := by
  have hidentity : s.instInformation.instructionIdentity.toNat = 3 := by rw [hltr]; rfl
  unfold instInformation at hidentity
  simp only [vmmpHandleLdtrOrTrAccess, utilVmRead, hidentity]
  rfl

theorem vmcs_lldt (m : ExitMachine B) {s : ExitState B C}
    (hlldt : s.instInformation.instructionIdentity = 2) {f : VmcsField}
    (hf : f ∉ [.guestRip, .vmEntryIntrInfoField, .vmEntryInstructionLen]) :
    (vmmpHandleLdtrOrTrAccess m s).vmcs f =
      if f = .guestLdtrSelector then s.operandSelector.setWidth 64 else s.vmcs f := by
  have hwrite := vmcs_utilVmWrite .guestLdtrSelector f (s.operandSelector.setWidth 64) s
  have hheld : VmcsField.guestLdtrSelector.held (s.operandSelector.setWidth 64) =
      s.operandSelector.setWidth 64 :=
    VmcsField.held_setWidth rfl (by decide) _
  rw [hheld] at hwrite
  rw [lldt_eq m hlldt, vmcs_adjust hf]
  exact hwrite

theorem vmcs_ltr (m : ExitMachine B) {s : ExitState B C}
    (hltr : s.instInformation.instructionIdentity = 3) {f : VmcsField}
    (hf : f ∉ [.guestRip, .vmEntryIntrInfoField, .vmEntryInstructionLen]) :
    (vmmpHandleLdtrOrTrAccess m s).vmcs f =
      if f = .guestTrSelector then s.operandSelector.setWidth 64 else s.vmcs f := by
  have hwrite := vmcs_utilVmWrite .guestTrSelector f (s.operandSelector.setWidth 64) s
  have hheld : VmcsField.guestTrSelector.held (s.operandSelector.setWidth 64) =
      s.operandSelector.setWidth 64 :=
    VmcsField.held_setWidth rfl (by decide) _
  rw [hheld] at hwrite
  rw [ltr_eq m hltr, vmcs_adjust hf]
  exact hwrite

/-- A register whose selector alone was written describes what it did before. -/
theorem describes_iff_hidden {fields : SegmentFields} {vmcs vmcs' : VmcsField → BitVec 64}
    {selector : BitVec 16} {base descriptor : BitVec 64}
    (hfields : [fields.selector, fields.base, fields.limit, fields.arBytes].Nodup)
    (hvmcs : ∀ f ∈ [fields.selector, fields.base, fields.limit, fields.arBytes],
      vmcs' f = if f = fields.selector then selector.setWidth 64 else vmcs f) :
    Describes fields vmcs' selector base descriptor ↔
      DescribesHidden fields vmcs base descriptor := by
  simp only [List.nodup_cons, List.mem_cons, List.not_mem_nil, or_false, not_or] at hfields
  obtain ⟨⟨hbase, hlimit, hrights⟩, -⟩ := hfields
  have hselector' : vmcs' fields.selector = selector.setWidth 64 := by
    rw [hvmcs _ (by simp), if_pos rfl]
  have hbase' : vmcs' fields.base = vmcs fields.base := by
    rw [hvmcs _ (by simp), if_neg (Ne.symm hbase)]
  have hlimit' : vmcs' fields.limit = vmcs fields.limit := by
    rw [hvmcs _ (by simp), if_neg (Ne.symm hlimit)]
  have hrights' : vmcs' fields.arBytes = vmcs fields.arBytes := by
    rw [hvmcs _ (by simp), if_neg (Ne.symm hrights)]
  constructor
  · rintro ⟨⟨h₁, h₂, h₃⟩, -⟩
    exact ⟨hbase'.symm.trans h₁, hlimit'.symm.trans h₂, hrights'.symm.trans h₃⟩
  · rintro ⟨h₁, h₂, h₃⟩
    exact ⟨⟨hbase'.trans h₁, hlimit'.trans h₂, hrights'.trans h₃⟩, hselector'⟩

/-- **LLDT and LTR.** `VmmpHandleLdtrOrTrAccess` loads LDTR (TR) with the descriptor of the
selector, whose base is that of `VmpGetSegmentBase`, exactly when the VMCS had the base, the limit
and the access rights of the descriptor before. LLDT leaves memory as it is, and LTR sets the busy
bit of the descriptor and nothing else. -/
theorem segmentRegister_loaded_iff {B C : Type} (m : ExitMachine B) (cpu : SetupCpu)
    (s : ExitState B C) :
    (s.instInformation.instructionIdentity = 2 →
      (vmmpHandleLdtrOrTrAccess m s).memory = s.memory ∧
      (Describes ldtrFields (vmmpHandleLdtrOrTrAccess m s).vmcs s.operandSelector
          (s.operandBase cpu) (loadBytes s.memory s.operandDescriptor 8) ↔
        DescribesHidden ldtrFields s.vmcs (s.operandBase cpu)
          (loadBytes s.memory s.operandDescriptor 8))) ∧
    (s.instInformation.instructionIdentity = 3 →
      (vmmpHandleLdtrOrTrAccess m s).memory = Function.update s.memory (s.operandDescriptor + 5)
        (s.memory (s.operandDescriptor + 5) ||| 2) ∧
      loadBytes (vmmpHandleLdtrOrTrAccess m s).memory s.operandDescriptor 8 =
        SegmentDescriptor.setBusy (loadBytes s.memory s.operandDescriptor 8) ∧
      (Describes trFields (vmmpHandleLdtrOrTrAccess m s).vmcs s.operandSelector
          (s.operandBase cpu)
          (SegmentDescriptor.setBusy (loadBytes s.memory s.operandDescriptor 8)) ↔
        DescribesHidden trFields s.vmcs (s.operandBase cpu)
          (SegmentDescriptor.setBusy (loadBytes s.memory s.operandDescriptor 8)))) := by
  constructor
  · intro hlldt
    refine ⟨?_, describes_iff_hidden (by decide) fun f hf => vmcs_lldt m hlldt ?_⟩
    · rw [lldt_eq m hlldt, memory_adjust]
      rfl
    · revert f
      decide
  · intro hltr
    have hstored : (vmmpHandleLdtrOrTrAccess m s).memory =
        storeBytes s.memory s.operandDescriptor 8
          (SegmentDescriptor.setBusy (loadBytes s.memory s.operandDescriptor 8)) := by
      rw [ltr_eq m hltr, memory_adjust]
      rfl
    refine ⟨?_, ?_, describes_iff_hidden (by decide) fun f hf => vmcs_ltr m hltr ?_⟩
    · rw [hstored, storeBytes_setBusy]
    · rw [hstored, loadBytes_storeBytes]
    · revert f
      decide

end ExitState

/-- An LTR of the selector 0x40 in AX, when the TR has the hidden part given. -/
def ltrExit (trBase trLimit trArBytes : BitVec 64) : ExitState (BitVec 32) Unit where
  toVmmState := { userState 0 bootEpt with
    gpRegs := { (userState 0 bootEpt).gpRegs with ax := 0x40 }
    memory := tssMemory 0xFFFFF80012345678
    vmcs := fun
      | .vmExitReason => 47
      | .vmxInstructionInfo => 0x30000400
      | .guestGdtrBase => 0x1000
      | .guestTrBase => trBase
      | .guestTrLimit => trLimit
      | .guestTrArBytes => trArBytes
      | _ => 0 }
  cr8 := 0
  irql := 0
  cpu := ⟨fun _ => 0, 0, 0, 0, fun _ => 0, fun _ => 0⟩
  trace := []

theorem segmentRegister_loaded_iff_ltr :
    Describes trFields (ExitState.vmmpHandleLdtrOrTrAccess idleMachine
        (ltrExit 0xFFFFF80012345678 0x67 0x8B)).vmcs 0x40 0xFFFFF80012345678
      (SegmentDescriptor.setBusy (tssFields.word 0x12345678)) := by
  have hloaded := (ExitState.segmentRegister_loaded_iff idleMachine zeroCpu
    (ltrExit 0xFFFFF80012345678 0x67 0x8B)).2 (by decide)
  have hselector : (ltrExit 0xFFFFF80012345678 0x67 0x8B).operandSelector = 0x40 := by decide
  have hbase : (ltrExit 0xFFFFF80012345678 0x67 0x8B).operandBase zeroCpu =
      0xFFFFF80012345678 := by decide +kernel
  have hdescriptor : loadBytes (ltrExit 0xFFFFF80012345678 0x67 0x8B).memory
      (ltrExit 0xFFFFF80012345678 0x67 0x8B).operandDescriptor 8 = tssFields.word 0x12345678 := by
    decide +kernel
  rw [hselector, hbase, hdescriptor] at hloaded
  exact hloaded.2.2.2 ⟨rfl, by decide, by decide⟩

/-- The base of TR stays. -/
theorem ltr_keeps_base : ¬∀ (m : ExitMachine (BitVec 32)) (cpu : SetupCpu)
    (s : ExitState (BitVec 32) Unit), s.operandSelector ≠ 0 →
      s.operandSelector.getLsbD 2 = false →
      (s.instInformation.instructionIdentity = 2 →
        SegmentDescriptor.IsLdt (loadBytes s.memory s.operandDescriptor 8) →
        (ExitState.vmmpHandleLdtrOrTrAccess m s).memory = s.memory ∧
        Describes ldtrFields (ExitState.vmmpHandleLdtrOrTrAccess m s).vmcs s.operandSelector
          (s.operandBase cpu) (loadBytes s.memory s.operandDescriptor 8)) ∧
      (s.instInformation.instructionIdentity = 3 →
        SegmentDescriptor.IsAvailableTss (loadBytes s.memory s.operandDescriptor 8) →
        (ExitState.vmmpHandleLdtrOrTrAccess m s).memory = Function.update s.memory
          (s.operandDescriptor + 5) (s.memory (s.operandDescriptor + 5) ||| 2) ∧
        Describes trFields (ExitState.vmmpHandleLdtrOrTrAccess m s).vmcs s.operandSelector
          (s.operandBase cpu)
          (SegmentDescriptor.setBusy (loadBytes s.memory s.operandDescriptor 8))) := by
  intro hall
  have htss : SegmentDescriptor.IsAvailableTss
      (loadBytes (ltrExit 0 0 0).memory (ltrExit 0 0 0).operandDescriptor 8) :=
    ⟨by decide +kernel, by decide +kernel⟩
  have hloaded := ((hall idleMachine zeroCpu (ltrExit 0 0 0) (by decide) (by decide)).2
    (by decide) htss).2.base
  rw [trFields, ExitState.vmcs_ltr idleMachine (by decide) (by decide)] at hloaded
  exact absurd hloaded (by decide +kernel)

end DeviceMon
