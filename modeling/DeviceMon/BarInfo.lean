import DeviceMon.MonitorCfg

/-!
# Reading a BAR

What `DmInitBarInfo` records. An address of zero or a probed size of zero leaves the
record alone; anything else is taken over (`recordInfo`). The address of a 64-bit BAR
goes through `DmGetDeviceBarAddress` twice, so the upper register loses its low four bits
as well (`intelMeHandleBarCallback_masked`), and the record is right exactly when these
are zero (`dmInitBarInfo_records_iff`).
-/

namespace DeviceMon

/-! ## Masks -/

theorem and_mask_eq (n k : ℕ) : n &&& (2 ^ k - 1) * 2 ^ 4 = n / 16 % 2 ^ k * 16 := by
  have hdiv : (n &&& (2 ^ k - 1) * 2 ^ 4) / 2 ^ 4 = n / 16 % 2 ^ k := by
    rw [← Nat.shiftRight_eq_div_pow, Nat.shiftRight_and_distrib, Nat.shiftRight_eq_div_pow,
      Nat.shiftRight_eq_div_pow, Nat.mul_div_cancel _ (by decide),
      Nat.and_two_pow_sub_one_eq_mod]
  have hmod : (n &&& (2 ^ k - 1) * 2 ^ 4) % 2 ^ 4 = 0 := by
    rw [Nat.and_mod_two_pow, Nat.mul_mod_left, Nat.and_zero]
  omega

/-- The address mask of `DmGetDeviceBarAddress` drops the low four bits. -/
theorem toNat_and_barMask (x : BitVec 32) :
    (x.setWidth 64 &&& 0x00000000FFFFFFF0).toNat = x.toNat / 16 * 16 := by
  have hx := x.isLt
  have hmask : (0x00000000FFFFFFF0 : BitVec 64).toNat = (2 ^ 28 - 1) * 2 ^ 4 := rfl
  rw [BitVec.toNat_and, BitVec.toNat_setWidth, hmask, and_mask_eq]
  omega

/-- The address a lower and an upper register stand for. -/
def joinBar (upper lower : BitVec 32) : BitVec 64 :=
  upper.setWidth 64 <<< 32 ||| lower.setWidth 64 &&& 0x00000000FFFFFFF0

theorem toNat_joinBar (upper lower : BitVec 32) :
    (joinBar upper lower).toNat = upper.toNat * 2 ^ 32 + lower.toNat / 16 * 16 := by
  have hu := upper.isLt
  have hl := lower.isLt
  have hshift : (upper.setWidth 64 <<< 32).toNat = upper.toNat <<< 32 := by
    rw [BitVec.toNat_shiftLeft, BitVec.toNat_setWidth, Nat.shiftLeft_eq, Nat.shiftLeft_eq]
    omega
  rw [joinBar, BitVec.toNat_or, hshift, toNat_and_barMask,
    ← Nat.shiftLeft_add_eq_or_of_lt (by omega), Nat.shiftLeft_eq]

/-- Joining what `DmGetDeviceBarAddress` returns drops the low four bits of the upper
register too. -/
theorem intelMeHandleBarCallback_masked (lower upper : BitVec 32) :
    (intelMeHandleBarCallback (lower.setWidth 64 &&& 0x00000000FFFFFFF0)
      (upper.setWidth 64 &&& 0x00000000FFFFFFF0)).toNat =
      upper.toNat / 16 * 16 * 2 ^ 32 + lower.toNat / 16 * 16 := by
  have hu := upper.isLt
  have hl := lower.isLt
  -- a masked register is never all ones
  have hones : ∀ x : BitVec 32,
      x.setWidth 64 &&& 0x00000000FFFFFFF0 &&& 0xFFFFFFFF ≠ (0xFFFFFFFF : BitVec 64) := by
    intro x h
    have h' := congrArg BitVec.toNat h
    have hf : (0xFFFFFFFF : BitVec 64).toNat = 2 ^ 32 - 1 := rfl
    rw [BitVec.toNat_and, toNat_and_barMask, hf, Nat.and_two_pow_sub_one_eq_mod] at h'
    omega
  have hlow : (lower.setWidth 64 &&& 0x00000000FFFFFFF0 &&& intelMeLowerMask).toNat =
      lower.toNat / 16 * 16 := by
    have hmask : intelMeLowerMask.toNat = (2 ^ 32 - 1) * 2 ^ 4 := rfl
    rw [BitVec.toNat_and, toNat_and_barMask, hmask, and_mask_eq]
    omega
  rw [intelMeHandleBarCallback, if_neg (not_or.2 ⟨hones lower, hones upper⟩),
    BitVec.toNat_append, BitVec.toNat_setWidth _ (_ &&& intelMeLowerMask), hlow,
    BitVec.toNat_setWidth, toNat_and_barMask, ← Nat.shiftLeft_add_eq_or_of_lt (by omega),
    Nat.shiftLeft_eq]
  omega

/-! ## The record -/

section Record

variable {C B : Type} (cfg : PciMonitorCfg C) {barIndex : Fin maxBarIndex}

/-- How the record takes a probed size and an address. -/
def PciMonitorCfg.recordInfo (barIndex : Fin maxBarIndex) (size : BitVec 32)
    (pciBarPa : BitVec 64) : PciMonitorCfg C :=
  if size = 0 ∨ pciBarPa = 0 then cfg
  else cfg.record barIndex pciBarPa (pciBarPa + size.setWidth 64)

/-- The run of `DmInitBarInfo` for a 64-bit BAR, given what its three reads return. -/
theorem run_dmInitBarInfo_64 {bus : PciBus B} {b b₁ b₂ b₃ : B} {k : ℕ}
    {size lower upper : BitVec 32}
    {callback2 : OffsetMakeCallback} (hk : k + 1 < maxBarIndex) (h64 : cfg.Is64Bit barIndex)
    (hcb : cfg.callback2 = some callback2)
    (hsize : (dmGetDeviceBarSize cfg.busNumber cfg.deviceNum cfg.funcNum
      (cfg.barOffset ⟨k, by omega⟩)).run bus b = (size, b₁)) (hs : size ≠ 0)
    (hlower : (readPCICfg cfg.busNumber cfg.deviceNum cfg.funcNum
      (cfg.barOffset ⟨k, by omega⟩) 4).run bus b₁ = (lower, b₂))
    (hupper : (readPCICfg cfg.busNumber cfg.deviceNum cfg.funcNum
      (cfg.barOffset ⟨k + 1, hk⟩) 4).run bus b₂ = (upper, b₃)) :
    (dmInitBarInfo cfg k barIndex).run bus b =
      (cfg.recordInfo barIndex size (callback2 (lower.setWidth 64 &&& 0x00000000FFFFFFF0)
        (upper.setWidth 64 &&& 0x00000000FFFFFFF0)), b₃) := by
  have hlow : (dmGetDeviceBarAddress cfg.busNumber cfg.deviceNum cfg.funcNum
      (cfg.barOffset ⟨k, by omega⟩)).run bus b₁ =
      (lower.setWidth 64 &&& 0x00000000FFFFFFF0, b₂) := by
    rw [dmGetDeviceBarAddress, IoProg.run_bind, hlower]
    rfl
  have hup : (dmGetDeviceBarAddress cfg.busNumber cfg.deviceNum cfg.funcNum
      (cfg.barOffset ⟨k + 1, hk⟩)).run bus b₂ = (upper.setWidth 64 &&& 0x00000000FFFFFFF0, b₃) := by
    rw [dmGetDeviceBarAddress, IoProg.run_bind, hupper]
    rfl
  rw [dmInitBarInfo, dif_pos (by omega), IoProg.run_bind, hsize, if_neg hs, IoProg.run_bind, hlow,
    dif_pos ⟨h64, hk⟩]
  have hget : ∀ h, cfg.callback2.get h = callback2 := fun h => by simp only [hcb, Option.get_some]
  rw [IoProg.run_bind, hup, IoProg.pure_bind_eq, hget]
  simp only [PciMonitorCfg.recordInfo, hs, false_or]
  split_ifs <;> rfl

/-- `DmInitBarInfo` records the address and the limit of a 64-bit BAR exactly when the low four
bits of the upper register are zero. The only other case is an address made of these bits
alone : then nothing is recorded, and the old record may happen to be right. -/
theorem dmInitBarInfo_records_iff {bus : PciBus B} {b b₁ b₂ b₃ : B} {k : ℕ}
    {size lower upper : BitVec 32} (hk : k + 1 < maxBarIndex) (h64 : cfg.Is64Bit barIndex)
    (hcb : cfg.callback2 = some intelMeHandleBarCallback)
    (hsize : (dmGetDeviceBarSize cfg.busNumber cfg.deviceNum cfg.funcNum
      (cfg.barOffset ⟨k, by omega⟩)).run bus b = (size, b₁)) (hs : size ≠ 0)
    (hlower : (readPCICfg cfg.busNumber cfg.deviceNum cfg.funcNum
      (cfg.barOffset ⟨k, by omega⟩) 4).run bus b₁ = (lower, b₂))
    (hupper : (readPCICfg cfg.busNumber cfg.deviceNum cfg.funcNum
      (cfg.barOffset ⟨k + 1, hk⟩) 4).run bus b₂ = (upper, b₃))
    (hne : joinBar upper lower ≠ 0) :
    (((dmInitBarInfo cfg k barIndex).run bus b).1.barAddress barIndex = joinBar upper lower ∧
      ((dmInitBarInfo cfg k barIndex).run bus b).1.barLimit barIndex =
        joinBar upper lower + size.setWidth 64) ↔
    upper.toNat % 16 = 0 ∨
      (upper.toNat < 16 ∧ lower.toNat < 16 ∧ cfg.barAddress barIndex = joinBar upper lower ∧
        cfg.barLimit barIndex = joinBar upper lower + size.setWidth 64) := by
  have hmade := intelMeHandleBarCallback_masked lower upper
  have hjoin := toNat_joinBar upper lower
  rw [run_dmInitBarInfo_64 cfg hk h64 hcb hsize hs hlower hupper]
  generalize intelMeHandleBarCallback _ _ = made at hmade ⊢
  have hzero : made = 0 ↔ upper.toNat < 16 ∧ lower.toNat < 16 := by
    rw [← BitVec.toNat_inj, hmade]
    have h0 : (0 : BitVec 64).toNat = 0 := rfl
    omega
  have heq : made = joinBar upper lower ↔ upper.toNat % 16 = 0 := by
    rw [← BitVec.toNat_inj, hmade, hjoin]
    omega
  simp only [PciMonitorCfg.recordInfo, hs, false_or]
  split_ifs with h
  · -- nothing is recorded
    have hlow : upper.toNat % 16 ≠ 0 := fun hu => hne (by rw [← heq.2 hu, h])
    obtain ⟨h1, h2⟩ := hzero.1 h
    constructor
    · rintro ⟨ha, hl⟩
      exact Or.inr ⟨h1, h2, ha, hl⟩
    · rintro (hu | ⟨-, -, ha, hl⟩)
      · exact (hlow hu).elim
      · exact ⟨ha, hl⟩
  · simp only [PciMonitorCfg.record, Function.update_self]
    constructor
    · rintro ⟨ha, -⟩
      exact Or.inl (heq.1 ha)
    · rintro (hu | ⟨h1, h2, -⟩)
      · rw [heq.2 hu]
        exact ⟨rfl, rfl⟩
      · exact (h (hzero.2 ⟨h1, h2⟩)).elim

/-- A function with one 64-bit BAR of 4 KiB, whose registers are at offsets `0x10` and `0x14`. -/
def bar64Bus : PciBus (BitVec 32 × BitVec 32) where
  read access b :=
    if access.pciAddr.setWidth 8 = (0x10 : BitVec 8) then (b.1 &&& 0xFFFFF000 ||| 0x4, b)
    else if access.pciAddr.setWidth 8 = (0x14 : BitVec 8) then (b.2, b)
    else (0xFFFFFFFF, b)
  write access value b :=
    if access.pciAddr.setWidth 8 = (0x10 : BitVec 8) then (value, b.2)
    else if access.pciAddr.setWidth 8 = (0x14 : BitVec 8) then (b.1, value)
    else b

/-- The management engine with its BAR at `0x10F0000000`. -/
theorem dmInitBarInfo_records_iff_intelMe :
    ((((dmInitBarInfo (intelMeDeviceInfo 0 : PciMonitorCfg Unit) 0 0).run bar64Bus
          (0xF0000004, 0x10)).1.barAddress 0 = joinBar 0x10 0xF0000004 ∧
        ((dmInitBarInfo (intelMeDeviceInfo 0 : PciMonitorCfg Unit) 0 0).run bar64Bus
          (0xF0000004, 0x10)).1.barLimit 0 =
          joinBar 0x10 0xF0000004 + (0x1000 : BitVec 32).setWidth 64) ↔
      (0x10 : BitVec 32).toNat % 16 = 0 ∨
        ((0x10 : BitVec 32).toNat < 16 ∧ (0xF0000004 : BitVec 32).toNat < 16 ∧
          (intelMeDeviceInfo 0 : PciMonitorCfg Unit).barAddress 0 = joinBar 0x10 0xF0000004 ∧
          (intelMeDeviceInfo 0 : PciMonitorCfg Unit).barLimit 0 =
            joinBar 0x10 0xF0000004 + (0x1000 : BitVec 32).setWidth 64)) :=
  dmInitBarInfo_records_iff (intelMeDeviceInfo 0) (by decide) (by decide) rfl
    rfl (by decide) rfl rfl (by decide)

/-- With its BAR at `0x1F0000000` it is recorded at `0xF0000000`. -/
theorem dmInitBarInfo_loses_upper_bits :
    ¬∀ (cfg : PciMonitorCfg Unit) (barIndex : Fin maxBarIndex)
        (b b₁ b₂ b₃ : BitVec 32 × BitVec 32) (k : ℕ) (size lower upper : BitVec 32)
        (hk : k + 1 < maxBarIndex),
      cfg.Is64Bit barIndex → cfg.callback2 = some intelMeHandleBarCallback →
      (dmGetDeviceBarSize cfg.busNumber cfg.deviceNum cfg.funcNum
        (cfg.barOffset ⟨k, by omega⟩)).run bar64Bus b = (size, b₁) → size ≠ 0 →
      (readPCICfg cfg.busNumber cfg.deviceNum cfg.funcNum
        (cfg.barOffset ⟨k, by omega⟩) 4).run bar64Bus b₁ = (lower, b₂) →
      (readPCICfg cfg.busNumber cfg.deviceNum cfg.funcNum
        (cfg.barOffset ⟨k + 1, hk⟩) 4).run bar64Bus b₂ = (upper, b₃) →
      joinBar upper lower ≠ 0 → lower ≠ 0xFFFFFFFF → upper ≠ 0xFFFFFFFF →
      ((dmInitBarInfo cfg k barIndex).run bar64Bus b).1.barAddress barIndex = joinBar upper lower ∧
        ((dmInitBarInfo cfg k barIndex).run bar64Bus b).1.barLimit barIndex =
          joinBar upper lower + size.setWidth 64 := by
  intro hall
  have hrec := hall (intelMeDeviceInfo 0) 0 (0xF0000004, 0x1) (0xF0000004, 0x1) (0xF0000004, 0x1)
    (0xF0000004, 0x1) 0 0x1000 0xF0000004 0x1 (by decide) (by decide) rfl rfl (by decide) rfl rfl
    (by decide) (by decide) (by decide)
  exact absurd hrec.1 (by decide)

end Record

end DeviceMon
