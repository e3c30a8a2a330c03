import DeviceMon.MtrrReread

/-!
# The memory type of an address

The processor's rule reads the MTRR registers : below 1 MiB a byte of a fixed range register, above
it UC if a range that covers the address is UC, else the type of the range that covers it, else the
default (`sdmMemoryType`). The driver turns each pair into an interval and searches a table. Where
no two ranges of other types overlap the two agree (`eptpGetMemoryType_eq_sdmMemoryType`) : ranges
of a fixed register are side by side (`tile_contains_iff`), and a mask of the bits from `n` on
stands for the interval of length `2 ^ n` (`variableRange_contains_iff`).
-/

namespace DeviceMon

/-! ## The rule of the processor -/

namespace MemoryType

/-- The encodings of the memory types. -/
def encodings : List (BitVec 8) :=
  [0, 1, 4, 5, 6]

end MemoryType

section Rule

variable (rdmsr : BitVec 32 → BitVec 64) (maxPhyAddr : ℕ)

/-- The `k`-th range of a row of fixed range registers, eight to a register. -/
def sdmFixedRange (first : BitVec 32) (k : ℕ) : BitVec 8 :=
  (rdmsr (first + BitVec.ofNat 32 (k / 8))).extractLsb' (8 * (k % 8)) 8

/-- The type of an address below 1 MiB : ranges of 64K, then of 16K, then of 4K. -/
def sdmFixedType (pa : ℕ) : BitVec 8 :=
  if pa < 0x80000 then sdmFixedRange rdmsr Msr.kIa32MtrrFix64k00000 (pa / 0x10000)
  else if pa < 0xC0000 then
    sdmFixedRange rdmsr Msr.kIa32MtrrFix16k80000 ((pa - 0x80000) / 0x4000)
  else sdmFixedRange rdmsr Msr.kIa32MtrrFix4kC0000 ((pa - 0xC0000) / 0x1000)

/-- PHYSBASE or PHYSMASK in its place : bits 12 to MAXPHYADDR - 1 of a register. -/
def addressBits (all : BitVec 64) : BitVec 64 :=
  (all.extractLsb' 12 (maxPhyAddr - 12)).setWidth 64 <<< 12

/-- The pair `i` covers the address. -/
def sdmCovers (pa : BitVec 64) (i : ℕ) : Bool :=
  pa &&& addressBits maxPhyAddr (mtrrMask rdmsr i) =
    addressBits maxPhyAddr (mtrrBase rdmsr i) &&& addressBits maxPhyAddr (mtrrMask rdmsr i)

/-- The type of the pair `i`. -/
def sdmPairType (i : ℕ) : BitVec 8 :=
  Ia32MtrrPhysBaseMsr.type (mtrrBase rdmsr i)

/-- The valid pairs that cover the address. -/
def coveringPairs (pa : BitVec 64) : List ℕ :=
  (validPairs rdmsr).filter (sdmCovers rdmsr maxPhyAddr pa)

/-- The memory type of an address with MTRRs enabled. -/
def sdmMemoryType (pa : BitVec 64) : BitVec 8 :=
  if fixedRangesOn rdmsr ∧ pa.toNat < 0x100000 then sdmFixedType rdmsr pa.toNat
  else if ∃ i ∈ coveringPairs rdmsr maxPhyAddr pa, sdmPairType rdmsr i = MemoryType.uncacheable then
    MemoryType.uncacheable
  else ((coveringPairs rdmsr maxPhyAddr pa).head?.map (sdmPairType rdmsr)).getD
    (Ia32MtrrDefaultTypeMsr.defaultMemoryType (rdmsr Msr.kIa32MtrrDefType))

/-- The pair `i` is of the range of `2 ^ n` bytes from an aligned base : the mask is that of the
bits from `n` on, and the reserved bits of the base are clear. -/
structure WellFormedPair (i n : ℕ) : Prop where
  twelve_le : 12 ≤ n
  lt_maxPhyAddr : n < maxPhyAddr
  mask : ∀ j, 12 ≤ j → j < 48 →
    (mtrrMask rdmsr i).getLsbD j = decide (n ≤ j ∧ j < maxPhyAddr)
  base : ∀ j, 12 ≤ j → j < 48 → (j < n ∨ maxPhyAddr ≤ j) →
    (mtrrBase rdmsr i).getLsbD j = false
  type : sdmPairType rdmsr i ∈ MemoryType.encodings

/-- What the registers may hold with MTRRs enabled. -/
structure WellFormedMtrrs : Prop where
  maxPhyAddr_le : maxPhyAddr ≤ 48
  enabled : Ia32MtrrDefaultTypeMsr.mtrrsEnabled (rdmsr Msr.kIa32MtrrDefType) = true
  default :
    Ia32MtrrDefaultTypeMsr.defaultMemoryType (rdmsr Msr.kIa32MtrrDefType) ∈ MemoryType.encodings
  fixed : fixedRangesOn rdmsr = true → ∀ type ∈ fixedTypes rdmsr
    (registersFrom Msr.kIa32MtrrFix64k00000 1 ++ registersFrom Msr.kIa32MtrrFix16k80000 2 ++
      registersFrom Msr.kIa32MtrrFix4kC0000 8), type ∈ MemoryType.encodings
  pair : ∀ i ∈ validPairs rdmsr, ∃ n, WellFormedPair rdmsr maxPhyAddr i n

end Rule

section Agreement

variable {rdmsr : BitVec 32 → BitVec 64} {undefinedLength : ℕ → ℕ} {maxPhyAddr : ℕ}
  {pa : BitVec 64}

/-! ## Fixed ranges -/

theorem contains_iff {e : MtrrData} : e.contains pa = true ↔
    e.rangeBase.toNat ≤ pa.toNat ∧ pa.toNat ≤ e.rangeEnd.toNat := by
  rw [MtrrData.contains, utilIsInBounds, Bool.and_eq_true, decide_eq_true_iff, decide_eq_true_iff,
    BitVec.le_def, BitVec.le_def]

/-- Ranges of one size are side by side : the address has the index of its range. -/
theorem tile_contains_iff {type : BitVec 8} {kBase kManagedSize i : ℕ} (hsize : 0 < kManagedSize)
    (hbound : kBase + i * kManagedSize + kManagedSize ≤ 2 ^ 64) :
    (fixedEntry type (kBase + i * kManagedSize) kManagedSize).contains pa = true ↔
      kBase ≤ pa.toNat ∧ (pa.toNat - kBase) / kManagedSize = i := by
  have hbase : (BitVec.ofNat 64 (kBase + i * kManagedSize)).toNat = kBase + i * kManagedSize :=
    Nat.mod_eq_of_lt (by omega)
  have hend : (BitVec.ofNat 64 (kBase + i * kManagedSize + kManagedSize - 1)).toNat =
      kBase + i * kManagedSize + kManagedSize - 1 := Nat.mod_eq_of_lt (by omega)
  rw [contains_iff, fixedEntry, hbase, hend, Nat.div_eq_iff hsize]
  constructor
  · rintro ⟨hle, hlt⟩
    exact ⟨by omega, by omega, by omega⟩
  · rintro ⟨hle, hlow, hhigh⟩
    omega

theorem fixedTypes_append (msrs msrs' : List (BitVec 32)) :
    fixedTypes rdmsr (msrs ++ msrs') = fixedTypes rdmsr msrs ++ fixedTypes rdmsr msrs' :=
  List.flatMap_append

theorem getElem?_types (msr : BitVec 32) {k : ℕ} (hk : k < 8) :
    (fixedTypes rdmsr [msr])[k]? = some ((rdmsr msr).extractLsb' (8 * k) 8) := by
  rw [fixedTypes, List.flatMap_singleton, Ia32MtrrFixedRangeMsr.types, List.getElem?_map,
    List.getElem?_range hk]
  rfl

/-- The types of a row of registers by index. -/
theorem getElem?_fixedTypes (first : BitVec 32) (count k : ℕ) :
    (fixedTypes rdmsr (registersFrom first count))[k]? =
      if k < 8 * count then some (sdmFixedRange rdmsr first k) else none := by
  induction count with
  | zero => rfl
  | succ count ih =>
    have hlength : (fixedTypes rdmsr (registersFrom first count)).length = 8 * count := by
      rw [length_fixedTypes, registersFrom, List.length_map, List.length_range]
    have hsnoc : registersFrom first (count + 1) =
        registersFrom first count ++ [first + BitVec.ofNat 32 count] := by
      rw [registersFrom, List.range_succ, List.map_append]
      rfl
    rw [hsnoc, fixedTypes_append, List.getElem?_append, hlength, ih]
    split_ifs with hlt hlt' hlt'
    · rfl
    · omega
    · have hdiv : k / 8 = count := by omega
      have hmod : k % 8 = k - 8 * count := by omega
      rw [getElem?_types _ (by omega), sdmFixedRange, hdiv, hmod]
    · exact List.getElem?_eq_none (by
        rw [length_fixedTypes, List.length_singleton]
        omega)

/-- A range of one row of registers contains the address : it has the type the row gives. -/
theorem tile_type {e : MtrrData} {first : BitVec 32} {count kBase kManagedSize : ℕ}
    (hsize : 0 < kManagedSize) (hbound : kBase + 8 * count * kManagedSize ≤ 2 ^ 64)
    (he : e ∈ tiles kBase kManagedSize (fixedTypes rdmsr (registersFrom first count)) 0)
    (hcontains : e.contains pa = true) :
    kBase ≤ pa.toNat ∧ pa.toNat < kBase + 8 * count * kManagedSize ∧
      e.type = sdmFixedRange rdmsr first ((pa.toNat - kBase) / kManagedSize) := by
  obtain ⟨i, type, htype, rfl⟩ := mem_tiles.1 he
  rw [getElem?_fixedTypes] at htype
  split_ifs at htype with hi
  have hmul : (i + 1) * kManagedSize ≤ 8 * count * kManagedSize := Nat.mul_le_mul_right _ hi
  rw [Nat.succ_mul] at hmul
  obtain ⟨hbase, hdiv⟩ := (tile_contains_iff hsize (by omega)).1 hcontains
  have hlt := (Nat.div_lt_iff_lt_mul hsize).1 (hdiv.trans_lt hi)
  exact ⟨hbase, by omega, by rw [hdiv]; exact (Option.some.inj htype).symm⟩

/-- Every address of a row of registers is in one of its ranges. -/
theorem exists_tile (first : BitVec 32) (count kBase : ℕ) {kManagedSize : ℕ}
    (hsize : 0 < kManagedSize) (hbound : kBase + 8 * count * kManagedSize ≤ 2 ^ 64)
    (hbase : kBase ≤ pa.toNat) (hlt : pa.toNat < kBase + 8 * count * kManagedSize) :
    ∃ e ∈ tiles kBase kManagedSize (fixedTypes rdmsr (registersFrom first count)) 0,
      e.contains pa = true := by
  have hi : (pa.toNat - kBase) / kManagedSize < 8 * count :=
    (Nat.div_lt_iff_lt_mul hsize).2 (by omega)
  have hmul := Nat.mul_le_mul_right kManagedSize hi
  rw [Nat.succ_mul] at hmul
  have htype : (fixedTypes rdmsr (registersFrom first count))[(pa.toNat - kBase) / kManagedSize]? =
      some (sdmFixedRange rdmsr first ((pa.toNat - kBase) / kManagedSize)) := by
    rw [getElem?_fixedTypes, if_pos hi]
  exact ⟨_, mem_tiles.2 ⟨_, _, htype, rfl⟩, (tile_contains_iff hsize (by omega)).2 ⟨hbase, rfl⟩⟩

/-- The fixed ranges are those of the addresses below 1 MiB. -/
theorem fixedEntries_contains {e : MtrrData} (he : e ∈ fixedEntries rdmsr)
    (hcontains : e.contains pa = true) :
    pa.toNat < 0x100000 ∧ e.type = sdmFixedType rdmsr pa.toNat := by
  rw [fixedEntries, List.mem_append, List.mem_append] at he
  rw [sdmFixedType]
  obtain (he | he) | he := he
  · obtain ⟨-, hlt, htype⟩ := tile_type (by decide) (by decide) he hcontains
    rw [if_pos (by omega), htype, Nat.sub_zero]
    exact ⟨by omega, rfl⟩
  · obtain ⟨hle, hlt, htype⟩ := tile_type (by decide) (by decide) he hcontains
    rw [if_neg (by omega), if_pos (by omega), htype]
    exact ⟨by omega, rfl⟩
  · obtain ⟨hle, hlt, htype⟩ := tile_type (by decide) (by decide) he hcontains
    rw [if_neg (by omega), if_neg (by omega), htype]
    exact ⟨by omega, rfl⟩

theorem type_mem_fixedTypes {e : MtrrData} (he : e ∈ fixedEntries rdmsr) :
    e.type ∈ fixedTypes rdmsr
      (registersFrom Msr.kIa32MtrrFix64k00000 1 ++ registersFrom Msr.kIa32MtrrFix16k80000 2 ++
        registersFrom Msr.kIa32MtrrFix4kC0000 8) := by
  simp only [fixedEntries, List.mem_append, mem_tiles] at he
  simp only [fixedTypes_append, List.mem_append]
  obtain (⟨i, type, htype, rfl⟩ | ⟨i, type, htype, rfl⟩) | ⟨i, type, htype, rfl⟩ := he
  · exact Or.inl (Or.inl (List.mem_of_getElem? htype))
  · exact Or.inl (Or.inr (List.mem_of_getElem? htype))
  · exact Or.inr (List.mem_of_getElem? htype)

theorem exists_fixedEntry (rdmsr : BitVec 32 → BitVec 64) (hpa : pa.toNat < 0x100000) :
    ∃ e ∈ fixedEntries rdmsr, e.contains pa = true := by
  simp only [fixedEntries, List.mem_append, or_and_right, exists_or]
  by_cases h64 : pa.toNat < 0x80000
  · exact Or.inl (Or.inl (exists_tile _ 1 0x0 (by decide) (by decide) (by omega) (by omega)))
  by_cases h16 : pa.toNat < 0xC0000
  · exact Or.inl (Or.inr (exists_tile _ 2 0x80000 (by decide) (by decide) (by omega) (by omega)))
  · exact Or.inr (exists_tile _ 8 0xC0000 (by decide) (by decide) (by omega) (by omega))

/-! ## Variable ranges -/

theorem bitScanForward64_eq {mask : BitVec 64} {n : ℕ} (hn : n < 64)
    (hset : mask.getLsbD n = true) (hlow : ∀ j < n, mask.getLsbD j = false) :
    bitScanForward64 mask = some n := by
  rw [bitScanForward64, List.find?_range_eq_some]
  exact ⟨hset, List.mem_range.2 hn, fun j hj => by simp [hlow j hj]⟩

/-- A field of a register put back in its place. -/
theorem getLsbD_field (all : BitVec 64) {start len : ℕ} (j : ℕ) (hlen : start + len ≤ 64) :
    ((all.extractLsb' start len).setWidth 64 <<< start).getLsbD j =
      (decide (start ≤ j ∧ j < start + len) && all.getLsbD j) := by
  rw [BitVec.getLsbD_shiftLeft, BitVec.getLsbD_setWidth, BitVec.getLsbD_extractLsb']
  by_cases hj : start ≤ j ∧ j < start + len
  · have hsum : start + (j - start) = j := by omega
    have hwidth : j < 64 := by omega
    have hsub : j - start < 64 ∧ j - start < len := by omega
    simp [hj, hsum, hwidth, hsub]
  · by_cases hle : start ≤ j
    · have hsub : ¬j - start < len := by omega
      simp [hj, hsub]
    · simp [hle, Nat.lt_of_not_le hle]

/-- A field of page frames times the size of a page is in its place in the register. -/
theorem getLsbD_pages (all : BitVec 64) (j : ℕ) :
    ((all.extractLsb' 12 36).setWidth 64 * (0x1000 : BitVec 64)).getLsbD j =
      (decide (12 ≤ j ∧ j < 48) && all.getLsbD j) := by
  have hshift : (all.extractLsb' 12 36).setWidth 64 * (0x1000 : BitVec 64) =
      (all.extractLsb' 12 36).setWidth 64 <<< 12 :=
    BitVec.mul_twoPow_eq_shiftLeft _ 12
  rw [hshift, getLsbD_field all j (by decide)]

theorem getLsbD_addressBits (all : BitVec 64) (j : ℕ) (hmax : maxPhyAddr ≤ 48) :
    (addressBits maxPhyAddr all).getLsbD j =
      (decide (12 ≤ j ∧ j < maxPhyAddr) && all.getLsbD j) := by
  have hrange : 12 ≤ j ∧ j < 12 + (maxPhyAddr - 12) ↔ 12 ≤ j ∧ j < maxPhyAddr := by omega
  rw [addressBits, getLsbD_field all j (by omega), decide_eq_decide.2 hrange]

/-- An aligned interval of length `2 ^ n` is given by the bits from `n` on. -/
theorem aligned_interval_iff {base pa n : ℕ} (hbase : ∀ j < n, base.testBit j = false) :
    base ≤ pa ∧ pa ≤ base + 2 ^ n - 1 ↔ ∀ j, n ≤ j → pa.testBit j = base.testBit j := by
  have hmod : base % 2 ^ n = 0 := by
    refine Nat.eq_of_testBit_eq fun j => ?_
    rw [Nat.testBit_mod_two_pow, Nat.zero_testBit]
    by_cases hj : j < n
    · rw [hbase j hj, Bool.and_false]
    · rw [decide_eq_false hj, Bool.false_and]
  have hpos : 0 < 2 ^ n := Nat.two_pow_pos n
  have hmul : base / 2 ^ n * 2 ^ n = base := Nat.div_mul_cancel (Nat.dvd_of_mod_eq_zero hmod)
  calc base ≤ pa ∧ pa ≤ base + 2 ^ n - 1 ↔ pa / 2 ^ n = base / 2 ^ n := by
        rw [Nat.div_eq_iff hpos, hmul]
    _ ↔ ∀ j, n ≤ j → pa.testBit j = base.testBit j := by
        constructor
        · intro hdiv j hj
          have hbit := congrArg (Nat.testBit · (j - n)) hdiv
          simp only [Nat.testBit_div_two_pow, Nat.sub_add_cancel hj] at hbit
          exact hbit
        · intro hbits
          refine Nat.eq_of_testBit_eq fun j => ?_
          rw [Nat.testBit_div_two_pow, Nat.testBit_div_two_pow]
          exact hbits _ (Nat.le_add_left n j)

/-- The base address of a pair. -/
theorem getLsbD_physBase (i j : ℕ) :
    (Ia32MtrrPhysBaseMsr.physBase (mtrrBase rdmsr i) * (0x1000 : BitVec 64)).getLsbD j =
      (decide (12 ≤ j ∧ j < 48) && (mtrrBase rdmsr i).getLsbD j) :=
  getLsbD_pages _ j

section Pair

variable {i n : ℕ} (hpair : WellFormedPair rdmsr maxPhyAddr i n) (hmax : maxPhyAddr ≤ 48)

include hpair hmax

/-- The scan finds where the mask begins. -/
theorem WellFormedPair.bitScanForward :
    bitScanForward64 (Ia32MtrrPhysMaskMsr.physMask (mtrrMask rdmsr i) * 0x1000) = some n := by
  have hbit (j : ℕ) := getLsbD_pages (mtrrMask rdmsr i) j
  have hle := hpair.twelve_le
  have hlt := hpair.lt_maxPhyAddr
  refine bitScanForward64_eq (by omega) ?_ fun j hj => ?_
  · rw [Ia32MtrrPhysMaskMsr.physMask, hbit, hpair.mask n hle (by omega)]
    simp [hle, hlt, hlt.trans_le hmax]
  · rw [Ia32MtrrPhysMaskMsr.physMask, hbit]
    by_cases hj12 : 12 ≤ j ∧ j < 48
    · rw [hpair.mask j hj12.1 hj12.2, decide_eq_false (p := n ≤ j ∧ j < maxPhyAddr) (by omega),
        Bool.and_false]
    · rw [decide_eq_false hj12, Bool.false_and]

/-- The interval of the entry is the one of the pair. -/
theorem WellFormedPair.contains_iff_bits :
    (variableRange rdmsr undefinedLength i).contains pa = true ↔
      ∀ j, n ≤ j → pa.getLsbD j = (decide (12 ≤ j ∧ j < 48) && (mtrrBase rdmsr i).getLsbD j) := by
  have hlt := hpair.lt_maxPhyAddr
  set base := Ia32MtrrPhysBaseMsr.physBase (mtrrBase rdmsr i) * (0x1000 : BitVec 64) with hbase
  have hbits (j : ℕ) : base.toNat.testBit j =
      (decide (12 ≤ j ∧ j < 48) && (mtrrBase rdmsr i).getLsbD j) := by
    rw [BitVec.testBit_toNat, hbase, getLsbD_physBase]
  have hsmall : base.toNat < 2 ^ 48 := Nat.lt_pow_two_of_testBit _ fun j hj => by
    rw [hbits, decide_eq_false (by omega), Bool.false_and]
  have hpow : 2 ^ n ≤ 2 ^ 47 := Nat.pow_le_pow_right (by decide) (by omega)
  have hpos : 0 < 2 ^ n := Nat.two_pow_pos n
  have hlength : ((1 : BitVec 64) <<< (n % 64)).toNat = 2 ^ n := by
    rw [Nat.mod_eq_of_lt (by omega), BitVec.toNat_shiftLeft, Nat.shiftLeft_eq]
    exact (congrArg (· % _) (Nat.one_mul _)).trans (Nat.mod_eq_of_lt (by omega))
  have hfinish : (base + (1 : BitVec 64) <<< (n % 64) - 1).toNat = base.toNat + 2 ^ n - 1 := by
    rw [BitVec.toNat_sub, BitVec.toNat_add, hlength]
    have hone : (1 : BitVec 64).toNat = 1 := rfl
    omega
  have hlow : ∀ j < n, base.toNat.testBit j = false := fun j hj => by
    rw [hbits]
    by_cases hj12 : 12 ≤ j ∧ j < 48
    · rw [hpair.base j hj12.1 hj12.2 (Or.inl hj), Bool.and_false]
    · rw [decide_eq_false hj12, Bool.false_and]
  rw [contains_iff, variableRange, hpair.bitScanForward hmax]
  simp only [Option.getD_some, variableEntry, ← hbase, hfinish]
  rw [aligned_interval_iff hlow]
  simp only [hbits, BitVec.testBit_toNat]

/-- The entry contains the addresses the pair covers. -/
theorem WellFormedPair.contains_iff_covers (hpa : pa.toNat < 2 ^ maxPhyAddr) :
    (variableRange rdmsr undefinedLength i).contains pa = sdmCovers rdmsr maxPhyAddr pa i := by
  have hle := hpair.twelve_le
  rw [Bool.eq_iff_iff, hpair.contains_iff_bits hmax, sdmCovers, decide_eq_true_iff,
    BitVec.eq_of_getLsbD_eq_iff]
  simp only [BitVec.getLsbD_and, getLsbD_addressBits _ _ hmax]
  constructor
  · intro hbits j _
    by_cases hj : n ≤ j ∧ j < maxPhyAddr
    · have hj12 : 12 ≤ j ∧ j < 48 := by omega
      have hj12' : 12 ≤ j ∧ j < maxPhyAddr := by omega
      rw [hbits j hj.1, decide_eq_true hj12, decide_eq_true hj12', Bool.true_and, Bool.true_and]
    · by_cases hj12 : 12 ≤ j ∧ j < maxPhyAddr
      · rw [hpair.mask j hj12.1 (by omega), decide_eq_false hj, Bool.and_false, Bool.and_false,
          Bool.and_false]
      · simp only [decide_eq_false hj12, Bool.false_and, Bool.and_false]
  · intro hbits j hj
    by_cases hlt : j < maxPhyAddr
    · have hj12 : 12 ≤ j ∧ j < 48 := by omega
      have hj12' : 12 ≤ j ∧ j < maxPhyAddr := by omega
      have hbit := hbits j (by omega)
      rw [decide_eq_true hj12', hpair.mask j hj12.1 hj12.2,
        decide_eq_true (p := n ≤ j ∧ j < maxPhyAddr) ⟨hj, hlt⟩] at hbit
      simpa [hj12] using hbit
    · have hpow : 2 ^ maxPhyAddr ≤ 2 ^ j := Nat.pow_le_pow_right (by decide) (by omega)
      have hzero : pa.getLsbD j = false := Nat.testBit_lt_two_pow (by omega)
      rw [hzero]
      by_cases hj12 : 12 ≤ j ∧ j < 48
      · rw [hpair.base j hj12.1 hj12.2 (Or.inr (by omega)), Bool.and_false]
      · rw [decide_eq_false hj12, Bool.false_and]

end Pair

/-! ## The search -/

/-- The entries of the pairs that contain the address are those of the pairs that cover it. -/
theorem filter_variableRanges (h : WellFormedMtrrs rdmsr maxPhyAddr)
    (hpa : pa.toNat < 2 ^ maxPhyAddr) :
    ((validPairs rdmsr).map (variableRange rdmsr undefinedLength)).filter
        (MtrrData.contains pa) =
      (coveringPairs rdmsr maxPhyAddr pa).map (variableRange rdmsr undefinedLength) := by
  rw [List.filter_map, coveringPairs]
  refine congrArg _ (List.filter_congr fun i hi => ?_)
  obtain ⟨n, hpair⟩ := h.pair i hi
  exact hpair.contains_iff_covers h.maxPhyAddr_le hpa

theorem decides_variableRange (i : ℕ) : (variableRange rdmsr undefinedLength i).decides = true ↔
    sdmPairType rdmsr i = MemoryType.uncacheable := by
  rw [MtrrData.decides, Bool.or_eq_true, decide_eq_true_iff]
  exact or_iff_right Bool.false_ne_true

/-- The search over the entries of covering pairs. -/
theorem scan_variableRanges {pairs : List ℕ} {r : BitVec 8}
    (hoverlap : pairs.length ≤ 1 ∨ ∃ i ∈ pairs, sdmPairType rdmsr i = MemoryType.uncacheable) :
    scan MtrrData.decides MtrrData.type
        (pairs.map (variableRange rdmsr undefinedLength)) r =
      if ∃ i ∈ pairs, sdmPairType rdmsr i = MemoryType.uncacheable then MemoryType.uncacheable
      else (pairs.head?.map (sdmPairType rdmsr)).getD r := by
  split_ifs with huc
  · obtain ⟨i, hi, htype⟩ := huc
    refine scan_eq_of_stop
      ⟨_, List.mem_map_of_mem hi, (decides_variableRange i).2 htype⟩ fun e he hstop => ?_
    obtain ⟨j, -, rfl⟩ := List.mem_map.1 he
    exact (decides_variableRange j).1 hstop
  · obtain - | ⟨i, - | ⟨j, pairs⟩⟩ := pairs
    · rfl
    · have hstop : (variableRange rdmsr undefinedLength i).decides = false :=
        Bool.eq_false_iff.2 fun hstop =>
          huc ⟨i, List.mem_singleton_self i, (decides_variableRange i).1 hstop⟩
      rw [List.map_singleton, scan_cons, hstop]
      rfl
    · exact (hoverlap.resolve_right huc).not_gt (by simp) |>.elim

theorem orDefault_encoding {type defaultType : BitVec 8} (h : type ∈ MemoryType.encodings) :
    orDefault defaultType type = type :=
  if_neg fun hff => absurd (hff ▸ h) (by decide)

/-- The search ends in the fixed ranges below 1 MiB. -/
theorem scan_fixedEntries (hpa : pa.toNat < 0x100000) (vars : List MtrrData) (r : BitVec 8) :
    scan MtrrData.decides MtrrData.type
      ((fixedEntries rdmsr).filter (MtrrData.contains pa) ++ vars) r =
        sdmFixedType rdmsr pa.toNat := by
  obtain ⟨e, he, hcontains⟩ := exists_fixedEntry rdmsr hpa
  have hmem := List.mem_filter.2 ⟨he, hcontains⟩
  have hdecides : e.decides = true := by
    rw [MtrrData.decides, (mem_fixedEntries he).2, Bool.true_or]
  rw [scan_append, if_pos (List.any_eq_true.2 ⟨e, hmem, hdecides⟩)]
  refine scan_eq_of_stop ⟨e, hmem, hdecides⟩ fun a ha _ => ?_
  obtain ⟨ha, hcontains⟩ := List.mem_filter.1 ha
  exact (fixedEntries_contains ha hcontains).2

/-- Elsewhere no fixed range contains the address. -/
theorem filter_fixedEntries (hpa : ¬(fixedRangesOn rdmsr = true ∧ pa.toNat < 0x100000)) :
    (if fixedRangesOn rdmsr then fixedEntries rdmsr else []).filter (MtrrData.contains pa) =
      [] := by
  split_ifs with hon
  · exact List.filter_eq_nil_iff.2 fun e he hcontains =>
      hpa ⟨hon, (fixedEntries_contains he hcontains).1⟩
  · rfl

/-- **The driver finds the memory type the processor uses.** The entries fit the table, and at
every address that at most one valid range covers, or several of which one is UC, the search of
the table gives the type of the processor's rule. -/
theorem eptpGetMemoryType_eq_sdmMemoryType (rdmsr : BitVec 32 → BitVec 64)
    (undefinedLength : ℕ → ℕ) (maxPhyAddr : ℕ) (h : WellFormedMtrrs rdmsr maxPhyAddr) :
    ∃ mtrr, eptInitializeMtrrEntries rdmsr undefinedLength zeroTable = some mtrr ∧
      ∀ pa : BitVec 64, pa.toNat < 2 ^ maxPhyAddr →
        (coveringPairs rdmsr maxPhyAddr pa).length ≤ 1 ∨
          (∃ i ∈ coveringPairs rdmsr maxPhyAddr pa,
            sdmPairType rdmsr i = MemoryType.uncacheable) →
        eptpGetMemoryType mtrr pa = sdmMemoryType rdmsr maxPhyAddr pa := by
  refine ⟨_, MtrrReading.read_zeroTable ⟨rdmsr, undefinedLength⟩, fun pa hpa hoverlap => ?_⟩
  rw [eptpGetMemoryType_fresh, MtrrReading.entries, mtrrEntries, List.filter_append,
    filter_variableRanges h hpa, sdmMemoryType, MtrrReading.defaultType]
  by_cases hfixed : fixedRangesOn rdmsr = true ∧ pa.toNat < 0x100000
  · obtain ⟨e, he, hcontains⟩ := exists_fixedEntry rdmsr hfixed.2
    have htype : sdmFixedType rdmsr pa.toNat ∈ MemoryType.encodings := by
      rw [← (fixedEntries_contains he hcontains).2]
      exact h.fixed hfixed.1 _ (type_mem_fixedTypes he)
    rw [if_pos hfixed, if_pos hfixed.1, scan_fixedEntries hfixed.2, orDefault_encoding htype]
  rw [if_neg hfixed, filter_fixedEntries hfixed, List.nil_append, scan_variableRanges hoverlap]
  split_ifs with huc
  · exact orDefault_encoding (by decide)
  · cases hpairs : coveringPairs rdmsr maxPhyAddr pa with
    | nil => exact if_pos rfl
    | cons i pairs =>
      have hi : i ∈ coveringPairs rdmsr maxPhyAddr pa := hpairs ▸ List.mem_cons_self
      obtain ⟨n, hpair⟩ := h.pair i (List.mem_of_mem_filter hi)
      exact orDefault_encoding hpair.type

end Agreement

/-- Fixed ranges on, all UC, and a write-through range of one megabyte from the second on. -/
def bootMtrrs : BitVec 32 → BitVec 64 := fun msr =>
  if msr = Msr.kIa32MtrrCap then 0x101
  else if msr = Msr.kIa32MtrrDefType then 0xC06
  else if msr = Msr.kIa32MtrrPhysBaseN then 0x100004
  else if msr = Msr.kIa32MtrrPhysMaskN then 0xFFFF00800
  else 0

theorem wellFormedMtrrs_bootMtrrs : WellFormedMtrrs bootMtrrs 36 where
  maxPhyAddr_le := by decide
  enabled := by decide
  default := by decide
  fixed _ type htype := by
    have hzero : (registersFrom Msr.kIa32MtrrFix64k00000 1 ++
        registersFrom Msr.kIa32MtrrFix16k80000 2 ++
        registersFrom Msr.kIa32MtrrFix4kC0000 8).all fun msr => bootMtrrs msr = 0 := by decide
    have hbytes : (Ia32MtrrFixedRangeMsr.types 0).all fun type =>
        type ∈ MemoryType.encodings := by decide
    obtain ⟨msr, hmsr, hmem⟩ := List.mem_flatMap.1 htype
    rw [of_decide_eq_true (List.all_eq_true.1 hzero msr hmsr)] at hmem
    exact of_decide_eq_true (List.all_eq_true.1 hbytes type hmem)
  pair i hi := by
    have hpairs : validPairs bootMtrrs = [0] := by decide
    rw [hpairs, List.mem_singleton] at hi
    subst hi
    have hmask : ∀ j < 48, 12 ≤ j →
        (mtrrMask bootMtrrs 0).getLsbD j = decide (20 ≤ j ∧ j < 36) := by decide
    have hbase : ∀ j < 48, 12 ≤ j → (j < 20 ∨ 36 ≤ j) →
        (mtrrBase bootMtrrs 0).getLsbD j = false := by decide
    exact ⟨20, by decide, by decide, fun j hle hlt => hmask j hlt hle,
      fun j hle hlt hout => hbase j hlt hle hout, by decide⟩

theorem eptpGetMemoryType_eq_sdmMemoryType_boot :
    ∃ mtrr, eptInitializeMtrrEntries bootMtrrs (fun _ => 0) zeroTable = some mtrr ∧
      eptpGetMemoryType mtrr 0x100000 = MemoryType.writeThrough := by
  obtain ⟨mtrr, hread, htype⟩ :=
    eptpGetMemoryType_eq_sdmMemoryType bootMtrrs (fun _ => 0) 36 wellFormedMtrrs_bootMtrrs
  exact ⟨mtrr, hread, (htype 0x100000 (by decide) (Or.inl (by decide))).trans (by decide)⟩

end DeviceMon
