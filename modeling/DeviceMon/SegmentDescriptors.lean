import DeviceMon.VmcsSetup

/-!
# Segment descriptors

A descriptor has its base in three pieces, and a system descriptor has the upper half in another 4
bytes (`DescriptorFields.word`). `VmpGetSegmentBaseByDescriptor` puts the base together again, and
`VmpGetSegmentBase` finds the descriptor a selector names (`vmpGetSegmentBase_decodes`).
-/

namespace DeviceMon

/-! ## The encoding -/

/-- The fields of `SegmentDescriptor` but the base. -/
structure DescriptorFields where
  limitLow : BitVec 16
  type : BitVec 4
  system : BitVec 1
  dpl : BitVec 2
  present : BitVec 1
  limitHigh : BitVec 4
  avl : BitVec 1
  l : BitVec 1
  db : BitVec 1
  gran : BitVec 1

/-- The 8 bytes of a descriptor with a base. -/
def DescriptorFields.word (d : DescriptorFields) (base : BitVec 32) : BitVec 64 :=
  base.extractLsb' 24 8 ++ d.gran ++ d.db ++ d.l ++ d.avl ++ d.limitHigh ++ d.present ++ d.dpl ++
    d.system ++ d.type ++ base.extractLsb' 16 8 ++ base.extractLsb' 0 16 ++ d.limitLow

namespace SegmentDescriptor

/-- `base_high`, `base_mid` and `base_low`. -/
def base (descriptor : BitVec 64) : BitVec 32 :=
  descriptor.extractLsb' 56 8 ++ descriptor.extractLsb' 32 8 ++ descriptor.extractLsb' 16 16

/-- `system`, bit 44, is zero in a system descriptor. -/
def system (descriptor : BitVec 64) : Bool :=
  descriptor.getLsbD 44

@[simp] theorem base_word (d : DescriptorFields) (b : BitVec 32) : base (d.word b) = b := by
  have hhigh : (d.word b).extractLsb' 56 8 = b.extractLsb' 24 8 := by
    simp (disch := decide) only [DescriptorFields.word, BitVec.extractLsb'_append_eq_of_le,
      Nat.reduceSub, BitVec.extractLsb'_eq_self]
  have hmid : (d.word b).extractLsb' 32 8 = b.extractLsb' 16 8 := by
    simp (disch := decide) only [DescriptorFields.word, BitVec.extractLsb'_append_eq_of_le,
      BitVec.extractLsb'_append_eq_of_add_le, Nat.reduceSub, BitVec.extractLsb'_eq_self]
  have hlow : (d.word b).extractLsb' 16 16 = b.extractLsb' 0 16 := by
    simp (disch := decide) only [DescriptorFields.word, BitVec.extractLsb'_append_eq_of_le,
      BitVec.extractLsb'_append_eq_of_add_le, Nat.reduceSub, BitVec.extractLsb'_eq_self]
  have hupper : b.extractLsb' 24 8 ++ b.extractLsb' 16 8 = b.extractLsb' 16 16 :=
    BitVec.extractLsb'_append_extractLsb'_eq_extractLsb' rfl
  have hall : b.extractLsb' 16 16 ++ b.extractLsb' 0 16 = b.extractLsb' 0 32 :=
    BitVec.extractLsb'_append_extractLsb'_eq_extractLsb' rfl
  rw [base, hhigh, hmid, hlow, hupper, hall, BitVec.extractLsb'_eq_self]

@[simp] theorem system_word (d : DescriptorFields) (b : BitVec 32) :
    system (d.word b) = d.system.getLsbD 0 := by
  simp only [system, DescriptorFields.word, BitVec.getLsbD_append, Nat.reduceLT, Nat.reduceSub,
    if_true, if_false]

end SegmentDescriptor

/-! ## Descriptors in memory -/

/-- The base of the descriptor at an address. -/
def descriptorBase (memory : BitVec 64 → BitVec 8) (address : BitVec 64) : BitVec 64 :=
  let descriptor := loadBytes memory address 8
  if SegmentDescriptor.system descriptor then (SegmentDescriptor.base descriptor).setWidth 64
  else (loadBytes memory (address + 8) 4).setWidth 32 ++ SegmentDescriptor.base descriptor

/-- The address of the descriptor a selector names : in the GDT, or in the table whose descriptor
the LDTR names. -/
def namedDescriptor (memory : BitVec 64 → BitVec 8) (gdtBase : BitVec 64)
    (ldtr selector : BitVec 16) : BitVec 64 :=
  let entry := fun table (selector : BitVec 16) =>
    table + BitVec.ofNat 64 (8 * (selector.toNat / 8))
  if selector.getLsbD 2 then entry (descriptorBase memory (entry gdtBase ldtr)) selector
  else entry gdtBase selector

theorem vmpGetSegmentDescriptor_eq (table : BitVec 64) (selector : BitVec 16) :
    vmpGetSegmentDescriptor table selector =
      table + BitVec.ofNat 64 (8 * (selector.toNat / 8)) := by
  have hselector := selector.isLt
  have hindex : (selector.extractLsb' 3 13).setWidth 64 * 8 =
      BitVec.ofNat 64 (8 * (selector.toNat / 8)) := by
    have height : (8 : BitVec 64).toNat = 8 := rfl
    rw [← BitVec.toNat_inj, BitVec.toNat_mul, height, BitVec.toNat_setWidth,
      BitVec.extractLsb'_toNat, Nat.shiftRight_eq_div_pow, BitVec.toNat_ofNat]
    omega
  rw [vmpGetSegmentDescriptor, hindex]

/-- A word is the upper half over the lower. -/
theorem or_shiftLeft_eq_append (upper : BitVec 64) (lower : BitVec 32) :
    lower.setWidth 64 ||| upper <<< 32 = upper.setWidth 32 ++ lower := by
  refine BitVec.eq_of_getLsbD_eq fun j hj => ?_
  simp only [BitVec.getLsbD_or, BitVec.getLsbD_shiftLeft, BitVec.getLsbD_setWidth,
    BitVec.getLsbD_append]
  by_cases hlow : j < 32
  · simp [hlow, hj]
  · have hhigh : j - 32 < 32 := by omega
    simp [hlow, hj, hhigh, BitVec.getLsbD_of_ge lower j (by omega)]

/-- The pieces of a base, shifted and joined. -/
theorem joinPieces_eq (high mid : BitVec 8) (low : BitVec 16) :
    (high.setWidth 64 <<< 24 ||| mid.setWidth 64 <<< 16 ||| low.setWidth 64) &&& 0xFFFFFFFF =
      (high ++ mid ++ low).setWidth 64 := by
  have hmask : (0xFFFFFFFF : BitVec 64) = BitVec.ofNat 64 (2 ^ 32 - 1) := rfl
  rw [hmask]
  refine BitVec.eq_of_getLsbD_eq fun j hj => ?_
  simp only [BitVec.getLsbD_and, BitVec.getLsbD_or, BitVec.getLsbD_shiftLeft,
    BitVec.getLsbD_setWidth, BitVec.getLsbD_append, BitVec.getLsbD_ofNat,
    Nat.testBit_two_pow_sub_one]
  by_cases h16 : j < 16
  · simp [h16, hj, show j < 24 by omega, show j < 32 by omega]
  have hlow := BitVec.getLsbD_of_ge low j (by omega)
  by_cases h24 : j < 24
  · simp [h16, h24, hj, hlow, show j < 32 by omega, show j - 16 < 8 by omega,
      show j - 16 < 64 by omega]
  have hmid := BitVec.getLsbD_of_ge mid (j - 16) (by omega)
  by_cases h32 : j < 32
  · simp [h16, h24, h32, hj, hlow, hmid, show ¬j - 16 < 8 by omega,
      show j - 16 - 8 = j - 24 by omega, show j - 24 < 64 by omega]
  · simp [h16, h24, h32, hj, show ¬j - 16 < 8 by omega, show 8 ≤ j - 16 - 8 by omega]

theorem vmpGetSegmentBaseByDescriptor_eq (cpu : SetupCpu) (address : BitVec 64) :
    vmpGetSegmentBaseByDescriptor cpu address = descriptorBase cpu.memory address := by
  rw [descriptorBase, ← or_shiftLeft_eq_append, SegmentDescriptor.base, ← joinPieces_eq]
  rfl

/-- **Segment bases.** `VmpGetSegmentBase` returns 0 for the selector 0, and else the base of the
descriptor the selector names. `VmpGetSegmentBaseByDescriptor` returns the base that a descriptor
was made with : 64 bits for the 16 bytes of a system descriptor, 32 bits for the others. -/
theorem vmpGetSegmentBase_decodes (cpu : SetupCpu) :
    (∀ (gdtBase : BitVec 64) (selector : BitVec 16), vmpGetSegmentBase cpu gdtBase selector =
      if selector = 0 then 0
      else descriptorBase cpu.memory (namedDescriptor cpu.memory gdtBase cpu.ldtr selector)) ∧
    (∀ (d : DescriptorFields) (base : BitVec 64) (address : BitVec 64), d.system = 0 →
      loadBytes cpu.memory address 8 = d.word (base.setWidth 32) →
      loadBytes cpu.memory (address + 8) 4 = (base.extractLsb' 32 32).setWidth 64 →
      vmpGetSegmentBaseByDescriptor cpu address = base) ∧
    ∀ (d : DescriptorFields) (base : BitVec 32) (address : BitVec 64), d.system = 1 →
      loadBytes cpu.memory address 8 = d.word base →
      vmpGetSegmentBaseByDescriptor cpu address = base.setWidth 64 := by
  refine ⟨fun gdtBase selector => ?_, fun d base address hsystem hlow hhigh => ?_,
    fun d base address hsystem hlow => ?_⟩
  · rw [vmpGetSegmentBase, namedDescriptor]
    simp only [vmpGetSegmentBaseByDescriptor_eq, vmpGetSegmentDescriptor_eq]
    split_ifs
    · rfl
    · rfl
    · rfl
  · rw [vmpGetSegmentBaseByDescriptor_eq, descriptorBase, hlow, hhigh]
    have hupper : ((base.extractLsb' 32 32).setWidth 64).setWidth 32 = base.extractLsb' 32 32 :=
      BitVec.setWidth_setWidth_of_le _ (by decide)
    have hlower : base.setWidth 32 = base.extractLsb' 0 32 :=
      BitVec.setWidth_eq_extractLsb' (by decide)
    simp only [SegmentDescriptor.system_word, hsystem, SegmentDescriptor.base_word, hupper, hlower]
    exact BitVec.extractLsb'_append_extractLsb'
  · rw [vmpGetSegmentBaseByDescriptor_eq, descriptorBase, hlow]
    simp only [SegmentDescriptor.system_word, hsystem, SegmentDescriptor.base_word]
    rfl

/-- An available TSS of 0x67 bytes. -/
def tssFields : DescriptorFields :=
  ⟨0x67, 0x9, 0, 0, 1, 0, 0, 0, 0, 0⟩

/-- A GDT at 0x1000 that has the descriptor of a TSS at its entry 8. -/
def tssMemory (base : BitVec 64) : BitVec 64 → BitVec 8 :=
  storeBytes (storeBytes (fun _ => 0) 0x1040 8 (tssFields.word (base.setWidth 32))) 0x1048 8
    (base >>> 32)

theorem vmpGetSegmentBase_decodes_tss :
    vmpGetSegmentBaseByDescriptor { zeroCpu with memory := tssMemory 0xFFFFF80012345678 } 0x1040 =
      0xFFFFF80012345678 :=
  (vmpGetSegmentBase_decodes { zeroCpu with memory := tssMemory 0xFFFFF80012345678 }).2.1
    tssFields 0xFFFFF80012345678 0x1040 rfl (by decide +kernel) (by decide +kernel)

end DeviceMon
