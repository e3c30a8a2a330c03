import DeviceMon.MemoryType

/-!
# Reading the MTRRs

`EptInitializeMtrrEntries` reads the MTRR registers and stores one entry for each fixed range and
each valid variable range, from the first slot of `g_eptp_mtrr_entries` on. It never runs out of
slots, and the slots behind the new entries keep what they had (`eptInitializeMtrrEntries_eq`).
-/

namespace DeviceMon

/-! ## The registers -/

/-- `kEptpMtrrEntriesSize` : 255 variable ranges, and 8 ranges for each of the 11 registers of
fixed ranges. -/
def kEptpMtrrEntriesSize : ℕ :=
  255 + (1 + 2 + 8) * 8

namespace Msr

def kIa32MtrrCap : BitVec 32 := 0xFE

def kIa32MtrrDefType : BitVec 32 := 0x2FF

def kIa32MtrrPhysBaseN : BitVec 32 := 0x200

def kIa32MtrrPhysMaskN : BitVec 32 := 0x201

def kIa32MtrrFix64k00000 : BitVec 32 := 0x250

def kIa32MtrrFix16k80000 : BitVec 32 := 0x258

def kIa32MtrrFix4kC0000 : BitVec 32 := 0x268

end Msr

namespace Ia32MtrrCapabilitiesMsr

def variableRangeCount (all : BitVec 64) : ℕ :=
  (all.extractLsb' 0 8).toNat

def fixedRangeSupported (all : BitVec 64) : Bool :=
  all.getLsbD 8

end Ia32MtrrCapabilitiesMsr

namespace Ia32MtrrDefaultTypeMsr

def defaultMemoryType (all : BitVec 64) : BitVec 8 :=
  all.extractLsb' 0 8

def fixedMtrrsEnabled (all : BitVec 64) : Bool :=
  all.getLsbD 10

def mtrrsEnabled (all : BitVec 64) : Bool :=
  all.getLsbD 11

end Ia32MtrrDefaultTypeMsr

namespace Ia32MtrrFixedRangeMsr

def types (all : BitVec 64) : List (BitVec 8) :=
  (List.range 8).map fun k => all.extractLsb' (8 * k) 8

end Ia32MtrrFixedRangeMsr

namespace Ia32MtrrPhysBaseMsr

def type (all : BitVec 64) : BitVec 8 :=
  all.extractLsb' 0 8

def physBase (all : BitVec 64) : BitVec 64 :=
  (all.extractLsb' 12 36).setWidth 64

end Ia32MtrrPhysBaseMsr

namespace Ia32MtrrPhysMaskMsr

def valid (all : BitVec 64) : Bool :=
  all.getLsbD 11

def physMask (all : BitVec 64) : BitVec 64 :=
  (all.extractLsb' 12 36).setWidth 64

end Ia32MtrrPhysMaskMsr

/-- `BitScanForward64` : the index of the lowest set bit, if there is one. -/
def bitScanForward64 (mask : BitVec 64) : Option ℕ :=
  (List.range 64).find? fun i => mask.getLsbD i

/-! ## The table -/

/-- `g_eptp_mtrr_entries` with the `index` of the next slot. -/
structure MtrrTable where
  entries : List MtrrData
  index : ℕ

/-- Save an entry and go to the next slot. A slot past the end of the array is `none`. -/
def MtrrTable.save (t : MtrrTable) (e : MtrrData) : Option MtrrTable :=
  if t.index < kEptpMtrrEntriesSize then some ⟨t.entries.set t.index e, t.index + 1⟩ else none

/-- The entry of a fixed range. -/
def fixedEntry (type : BitVec 8) (base managedSize : ℕ) : MtrrData where
  enabled := true
  fixedMtrr := true
  type := type
  rangeBase := BitVec.ofNat 64 base
  rangeEnd := BitVec.ofNat 64 (base + managedSize - 1)

section Read

variable (rdmsr : BitVec 32 → BitVec 64) (undefinedLength : ℕ → ℕ)

/-- The loop over the types of one register, with the running `offset`. -/
def saveTypes (kBase kManagedSize : ℕ) : List (BitVec 8) → ℕ → MtrrTable → Option (MtrrTable × ℕ)
  | [], offset, t => some (t, offset)
  | memoryType :: types, offset, t => do
    let base := kBase + offset
    let t ← t.save (fixedEntry memoryType base kManagedSize)
    saveTypes kBase kManagedSize types (offset + kManagedSize) t

/-- The loop over the registers of one size of range. -/
def saveFixedRanges (kBase kManagedSize : ℕ) :
    List (BitVec 32) → ℕ → MtrrTable → Option (MtrrTable × ℕ)
  | [], offset, t => some (t, offset)
  | msr :: msrs, offset, t => do
    let (t, offset) ←
      saveTypes kBase kManagedSize (Ia32MtrrFixedRangeMsr.types (rdmsr msr)) offset t
    saveFixedRanges kBase kManagedSize msrs offset t

/-- `count` registers from one on. -/
def registersFrom (first : BitVec 32) (count : ℕ) : List (BitVec 32) :=
  (List.range count).map fun k => first + BitVec.ofNat 32 k

/-- `PhysMask` of the pair `i`. -/
def mtrrMask (i : ℕ) : BitVec 64 :=
  rdmsr (Msr.kIa32MtrrPhysMaskN + BitVec.ofNat 32 (i * 2))

/-- The pair `i` is in use. -/
def validPair (i : ℕ) : Bool :=
  Ia32MtrrPhysMaskMsr.valid (mtrrMask rdmsr i)

/-- `PhysBase` of the pair `i`. -/
def mtrrBase (i : ℕ) : BitVec 64 :=
  rdmsr (Msr.kIa32MtrrPhysBaseN + BitVec.ofNat 32 (i * 2))

/-- The entry of the pair `i`. Without a bit in the mask `length` keeps the value the variable
happens to have. -/
def variableRange (i : ℕ) : MtrrData :=
  let length :=
    (bitScanForward64 (Ia32MtrrPhysMaskMsr.physMask (mtrrMask rdmsr i) * 0x1000)).getD
      (undefinedLength i)
  let base := Ia32MtrrPhysBaseMsr.physBase (mtrrBase rdmsr i) * 0x1000
  let finish := base + (1 : BitVec 64) <<< (length % 64) - 1
  variableEntry (Ia32MtrrPhysBaseMsr.type (mtrrBase rdmsr i)) base finish

/-- The loop over the variable ranges. -/
def saveVariableRanges : List ℕ → MtrrTable → Option MtrrTable
  | [], t => some t
  | i :: is, t =>
    if !validPair rdmsr i then saveVariableRanges is t
    else do
      let t ← t.save (variableRange rdmsr undefinedLength i)
      saveVariableRanges is t

/-- The processor has fixed ranges and they are on. -/
def fixedRangesOn : Bool :=
  Ia32MtrrCapabilitiesMsr.fixedRangeSupported (rdmsr Msr.kIa32MtrrCap) &&
    Ia32MtrrDefaultTypeMsr.fixedMtrrsEnabled (rdmsr Msr.kIa32MtrrDefType)

/-- `EptInitializeMtrrEntries`, from the entries the table has. -/
def eptInitializeMtrrEntries (entries : List MtrrData) : Option Mtrr := do
  let defaultType := Ia32MtrrDefaultTypeMsr.defaultMemoryType (rdmsr Msr.kIa32MtrrDefType)
  let variableRangeCount :=
    Ia32MtrrCapabilitiesMsr.variableRangeCount (rdmsr Msr.kIa32MtrrCap)
  let t : MtrrTable := ⟨entries, 0⟩
  let t ←
    if fixedRangesOn rdmsr then do
      let (t, _) ←
        saveFixedRanges rdmsr 0x0 0x10000 (registersFrom Msr.kIa32MtrrFix64k00000 1) 0 t
      let (t, _) ←
        saveFixedRanges rdmsr 0x80000 0x4000 (registersFrom Msr.kIa32MtrrFix16k80000 2) 0 t
      let (t, _) ←
        saveFixedRanges rdmsr 0xC0000 0x1000 (registersFrom Msr.kIa32MtrrFix4kC0000 8) 0 t
      some t
    else some t
  let t ← saveVariableRanges rdmsr undefinedLength (List.range variableRangeCount) t
  some ⟨t.entries, defaultType⟩

/-! ## What is stored -/

/-- The types of the fixed ranges of some registers, in order. -/
def fixedTypes (msrs : List (BitVec 32)) : List (BitVec 8) :=
  msrs.flatMap fun msr => Ia32MtrrFixedRangeMsr.types (rdmsr msr)

/-- Ranges of one size side by side, from the one with index `k` on. -/
def tiles (kBase kManagedSize : ℕ) (types : List (BitVec 8)) (k : ℕ) : List MtrrData :=
  (types.zipIdx k).map fun e => fixedEntry e.1 (kBase + e.2 * kManagedSize) kManagedSize

/-- The entries of the fixed ranges. -/
def fixedEntries : List MtrrData :=
  tiles 0x0 0x10000 (fixedTypes rdmsr (registersFrom Msr.kIa32MtrrFix64k00000 1)) 0 ++
    tiles 0x80000 0x4000 (fixedTypes rdmsr (registersFrom Msr.kIa32MtrrFix16k80000 2)) 0 ++
    tiles 0xC0000 0x1000 (fixedTypes rdmsr (registersFrom Msr.kIa32MtrrFix4kC0000 8)) 0

/-- The pairs that are valid, in order. -/
def validPairs : List ℕ :=
  (List.range (Ia32MtrrCapabilitiesMsr.variableRangeCount (rdmsr Msr.kIa32MtrrCap))).filter
    (validPair rdmsr)

/-- The entries one reading of the registers stores. -/
def mtrrEntries : List MtrrData :=
  (if fixedRangesOn rdmsr then fixedEntries rdmsr else []) ++
    (validPairs rdmsr).map (variableRange rdmsr undefinedLength)

variable {rdmsr undefinedLength} {t : MtrrTable}

/-- Save entries one after the other. -/
def MtrrTable.saveAll (t : MtrrTable) (es : List MtrrData) : Option MtrrTable :=
  es.foldlM MtrrTable.save t

theorem MtrrTable.saveAll_append (es es' : List MtrrData) :
    t.saveAll (es ++ es') = (t.saveAll es).bind fun t => t.saveAll es' :=
  List.foldlM_append

theorem MtrrTable.saveAll_nil : t.saveAll [] = some t :=
  rfl

theorem MtrrTable.saveAll_cons (e : MtrrData) (es : List MtrrData) :
    t.saveAll (e :: es) = (t.save e).bind fun t => t.saveAll es :=
  List.foldlM_cons

theorem tiles_cons (kBase kManagedSize : ℕ) (type : BitVec 8) (types : List (BitVec 8)) (k : ℕ) :
    tiles kBase kManagedSize (type :: types) k =
      fixedEntry type (kBase + k * kManagedSize) kManagedSize ::
        tiles kBase kManagedSize types (k + 1) := by
  rw [tiles, List.zipIdx_cons]
  rfl

theorem tiles_append (kBase kManagedSize : ℕ) (types types' : List (BitVec 8)) (k : ℕ) :
    tiles kBase kManagedSize (types ++ types') k =
      tiles kBase kManagedSize types k ++
        tiles kBase kManagedSize types' (k + types.length) := by
  rw [tiles, List.zipIdx_append, List.map_append]
  rfl

theorem saveTypes_eq (kBase kManagedSize : ℕ) (types : List (BitVec 8)) (k : ℕ) :
    saveTypes kBase kManagedSize types (k * kManagedSize) t =
      (t.saveAll (tiles kBase kManagedSize types k)).map fun t =>
        (t, (k + types.length) * kManagedSize) := by
  induction types generalizing k t with
  | nil => rfl
  | cons type types ih =>
    have hlength : k + (types.length + 1) = k + 1 + types.length := by omega
    rw [saveTypes, tiles_cons, MtrrTable.saveAll_cons, ← Nat.succ_mul, List.length_cons, hlength]
    cases t.save (fixedEntry type (kBase + k * kManagedSize) kManagedSize) with
    | none => rfl
    | some t' => exact ih (k + 1)

theorem saveFixedRanges_eq (kBase kManagedSize : ℕ) (msrs : List (BitVec 32)) (k : ℕ) :
    saveFixedRanges rdmsr kBase kManagedSize msrs (k * kManagedSize) t =
      (t.saveAll (tiles kBase kManagedSize (fixedTypes rdmsr msrs) k)).map fun t =>
        (t, (k + (fixedTypes rdmsr msrs).length) * kManagedSize) := by
  induction msrs generalizing k t with
  | nil => rfl
  | cons msr msrs ih =>
    rw [saveFixedRanges, saveTypes_eq, fixedTypes, List.flatMap_cons, tiles_append,
      MtrrTable.saveAll_append, List.length_append, ← Nat.add_assoc]
    cases t.saveAll (tiles kBase kManagedSize (Ia32MtrrFixedRangeMsr.types (rdmsr msr)) k) with
    | none => rfl
    | some t' => exact ih _

theorem saveVariableRanges_eq (is : List ℕ) :
    saveVariableRanges rdmsr undefinedLength is t =
      t.saveAll ((is.filter (validPair rdmsr)).map (variableRange rdmsr undefinedLength)) := by
  induction is generalizing t with
  | nil => rfl
  | cons i is ih =>
    rw [saveVariableRanges]
    by_cases hvalid : validPair rdmsr i = true
    · rw [List.filter_cons_of_pos hvalid, List.map_cons, MtrrTable.saveAll_cons, hvalid,
        Bool.not_true, if_neg Bool.false_ne_true]
      exact congrArg _ (funext fun t' => ih)
    · rw [List.filter_cons_of_neg hvalid, Bool.eq_false_iff.2 hvalid, Bool.not_false, if_pos rfl,
        ih]

/-- The ranges of one size, from the first. -/
theorem saveFixedRanges_zero (kBase kManagedSize : ℕ) (msrs : List (BitVec 32)) :
    saveFixedRanges rdmsr kBase kManagedSize msrs 0 t =
      (t.saveAll (tiles kBase kManagedSize (fixedTypes rdmsr msrs) 0)).map fun t =>
        (t, (0 + (fixedTypes rdmsr msrs).length) * kManagedSize) := by
  rw [← saveFixedRanges_eq, Nat.zero_mul]

/-- The loops save the entries one after the other. -/
theorem eptInitializeMtrrEntries_saveAll (entries : List MtrrData) :
    eptInitializeMtrrEntries rdmsr undefinedLength entries =
      (MtrrTable.saveAll ⟨entries, 0⟩ (mtrrEntries rdmsr undefinedLength)).map fun t =>
        ⟨t.entries, Ia32MtrrDefaultTypeMsr.defaultMemoryType (rdmsr Msr.kIa32MtrrDefType)⟩ := by
  rw [eptInitializeMtrrEntries, mtrrEntries, MtrrTable.saveAll_append, validPairs]
  simp only [saveFixedRanges_zero, saveVariableRanges_eq, fixedEntries]
  split_ifs with hon
  · simp only [MtrrTable.saveAll_append, Option.bind_eq_bind, Option.map_eq_bind,
      Option.bind_assoc, Option.bind_some, Function.comp_def]
  · simp only [MtrrTable.saveAll_nil, Option.bind_eq_bind, Option.map_eq_bind, Option.bind_some,
      Function.comp_def]

/-- The table with the new entries in front of what it had behind them. -/
def storedOver (written previous : List MtrrData) : List MtrrData :=
  written ++ previous.drop written.length

theorem MtrrTable.save_storedOver {previous written : List MtrrData} (e : MtrrData)
    (hprevious : previous.length = kEptpMtrrEntriesSize)
    (hwritten : written.length < kEptpMtrrEntriesSize) :
    MtrrTable.save ⟨storedOver written previous, written.length⟩ e =
      some ⟨storedOver (written ++ [e]) previous, (written ++ [e]).length⟩ := by
  have hlt : written.length < previous.length := by omega
  have hdrop : previous.drop written.length =
      previous[written.length] :: previous.drop (written.length + 1) :=
    List.drop_eq_getElem_cons hlt
  rw [MtrrTable.save, if_pos hwritten, storedOver, storedOver, List.set_append_right _ _ le_rfl,
    Nat.sub_self, hdrop, List.set_cons_zero, List.length_append, List.append_assoc]
  rfl

/-- As long as there are slots, every entry is stored. -/
theorem MtrrTable.saveAll_storedOver {previous written : List MtrrData} (es : List MtrrData)
    (hprevious : previous.length = kEptpMtrrEntriesSize)
    (hroom : written.length + es.length ≤ kEptpMtrrEntriesSize) :
    MtrrTable.saveAll ⟨storedOver written previous, written.length⟩ es =
      some ⟨storedOver (written ++ es) previous, (written ++ es).length⟩ := by
  induction es generalizing written with
  | nil => rw [List.append_nil]; rfl
  | cons e es ih =>
    rw [List.length_cons] at hroom
    have hlength : (written ++ [e]).length = written.length + 1 := List.length_append
    rw [MtrrTable.saveAll_cons, MtrrTable.save_storedOver e hprevious (by omega),
      Option.bind_some, ih (by omega), List.append_assoc]
    rfl

/-! ## How much is stored -/

theorem length_fixedTypes (msrs : List (BitVec 32)) :
    (fixedTypes rdmsr msrs).length = 8 * msrs.length := by
  induction msrs with
  | nil => rfl
  | cons msr msrs ih =>
    have htypes : (Ia32MtrrFixedRangeMsr.types (rdmsr msr)).length = 8 := List.length_map _
    rw [fixedTypes, List.flatMap_cons, List.length_append, htypes, ← fixedTypes, ih,
      List.length_cons]
    omega

theorem length_tiles (kBase kManagedSize : ℕ) (types : List (BitVec 8)) (k : ℕ) :
    (tiles kBase kManagedSize types k).length = types.length := by
  rw [tiles, List.length_map, List.length_zipIdx]

theorem length_fixedEntries : (fixedEntries rdmsr).length = (1 + 2 + 8) * 8 := by
  simp only [fixedEntries, List.length_append, length_tiles, length_fixedTypes, registersFrom,
    List.length_map, List.length_range]

/-- The entries of one reading fit the table. -/
theorem length_mtrrEntries_le :
    (mtrrEntries rdmsr undefinedLength).length ≤ kEptpMtrrEntriesSize := by
  have hfixed : (if fixedRangesOn rdmsr then fixedEntries rdmsr else []).length ≤
      (1 + 2 + 8) * 8 := by
    split_ifs
    · exact length_fixedEntries.le
    · exact Nat.zero_le _
  have hcount :
      Ia32MtrrCapabilitiesMsr.variableRangeCount (rdmsr Msr.kIa32MtrrCap) < 2 ^ 8 :=
    BitVec.isLt _
  have hpairs := (List.length_filter_le (validPair rdmsr) (List.range
    (Ia32MtrrCapabilitiesMsr.variableRangeCount (rdmsr Msr.kIa32MtrrCap)))).trans_eq
      List.length_range
  rw [mtrrEntries, List.length_append, List.length_map, validPairs, kEptpMtrrEntriesSize]
  omega

/-- **What the table is afterwards.** The new entries stand in front, and the slots behind them
are as they were. No store leaves the array. -/
theorem eptInitializeMtrrEntries_eq {previous : List MtrrData}
    (hprevious : previous.length = kEptpMtrrEntriesSize) :
    eptInitializeMtrrEntries rdmsr undefinedLength previous =
      some ⟨storedOver (mtrrEntries rdmsr undefinedLength) previous,
        Ia32MtrrDefaultTypeMsr.defaultMemoryType (rdmsr Msr.kIa32MtrrDefType)⟩ := by
  have hroom : ([] : List MtrrData).length + (mtrrEntries rdmsr undefinedLength).length ≤
      kEptpMtrrEntriesSize := by
    rw [List.length_nil, Nat.zero_add]
    exact length_mtrrEntries_le
  rw [eptInitializeMtrrEntries_saveAll]
  exact congrArg _ (MtrrTable.saveAll_storedOver _ hprevious hroom)

theorem mem_tiles {kBase kManagedSize : ℕ} {types : List (BitVec 8)} {e : MtrrData} :
    e ∈ tiles kBase kManagedSize types 0 ↔ ∃ i type, types[i]? = some type ∧
      fixedEntry type (kBase + i * kManagedSize) kManagedSize = e := by
  simp only [tiles, List.mem_map, List.mem_zipIdx_iff_getElem?, Prod.exists]
  exact exists_comm

theorem mem_fixedEntries {e : MtrrData} (he : e ∈ fixedEntries rdmsr) :
    e.enabled = true ∧ e.fixedMtrr = true := by
  simp only [fixedEntries, List.mem_append, mem_tiles] at he
  obtain (⟨i, type, -, rfl⟩ | ⟨i, type, -, rfl⟩) | ⟨i, type, -, rfl⟩ := he
  all_goals exact ⟨rfl, rfl⟩

/-- The search of the table goes through all the new entries. -/
theorem enabled_mtrrEntries : ∀ e ∈ mtrrEntries rdmsr undefinedLength, e.enabled = true := by
  intro e he
  rw [mtrrEntries, List.mem_append] at he
  rcases he with he | he
  · split_ifs at he with hon
    · exact (mem_fixedEntries he).1
    · simp at he
  · obtain ⟨i, -, rfl⟩ := List.mem_map.1 he
    rfl

end Read

end DeviceMon
