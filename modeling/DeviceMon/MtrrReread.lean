import DeviceMon.MtrrEntries

/-!
# Reading the MTRRs again

After a resume from sleep `VmInitialization` calls `EptInitializeMtrrEntries` again, on the table
the earlier calls left. The call writes its entries over the first slots and clears nothing, so
the entries of a longer earlier reading stay behind the new ones, enabled, and the search goes on
into them (`reread_forgets_iff`).
-/

namespace DeviceMon

/-- A slot of `g_eptp_mtrr_entries` as the driver is loaded. -/
def zeroEntry : MtrrData where
  enabled := false
  fixedMtrr := false
  type := 0
  rangeBase := 0
  rangeEnd := 0

/-- `g_eptp_mtrr_entries` as the driver is loaded. -/
def zeroTable : List MtrrData :=
  List.replicate kEptpMtrrEntriesSize zeroEntry

/-- What one call finds : the registers, and the values `length` happens to have. -/
structure MtrrReading where
  rdmsr : BitVec 32 → BitVec 64
  undefinedLength : ℕ → ℕ

namespace MtrrReading

variable (r : MtrrReading)

/-- The call of `EptInitializeMtrrEntries`. -/
def read (previous : List MtrrData) : Option Mtrr :=
  eptInitializeMtrrEntries r.rdmsr r.undefinedLength previous

/-- The entries it stores. -/
def entries : List MtrrData :=
  mtrrEntries r.rdmsr r.undefinedLength

/-- The default type it stores. -/
def defaultType : BitVec 8 :=
  Ia32MtrrDefaultTypeMsr.defaultMemoryType (r.rdmsr Msr.kIa32MtrrDefType)

end MtrrReading

/-- The table after calls one after the other. -/
def tableAfter (earlier : List MtrrReading) : Option (List MtrrData) :=
  earlier.foldlM (fun previous r => (r.read previous).map Mtrr.entries) zeroTable

/-- The entries in use after calls one after the other. -/
def storedAfter (earlier : List MtrrReading) : List MtrrData :=
  earlier.foldl (fun stored r => storedOver r.entries stored) []

/-! ## The table after any number of calls -/

theorem length_storedOver (written previous : List MtrrData) :
    (storedOver written previous).length = max written.length previous.length := by
  rw [storedOver, List.length_append, List.length_drop]
  omega

theorem storedAfter_snoc (earlier : List MtrrReading) (r : MtrrReading) :
    storedAfter (earlier ++ [r]) = storedOver r.entries (storedAfter earlier) := by
  rw [storedAfter, List.foldl_append]
  rfl

/-- As many entries are in use as the longest of the calls stored. -/
theorem length_storedAfter_le_iff (earlier : List MtrrReading) (n : ℕ) :
    (storedAfter earlier).length ≤ n ↔ ∀ r ∈ earlier, r.entries.length ≤ n := by
  induction earlier using List.reverseRecOn with
  | nil => simp [storedAfter]
  | append_singleton earlier r ih =>
    rw [storedAfter_snoc, length_storedOver, max_le_iff, ih, List.forall_mem_append,
      List.forall_mem_singleton, and_comm]

theorem enabled_storedAfter (earlier : List MtrrReading) :
    ∀ e ∈ storedAfter earlier, e.enabled = true := by
  induction earlier using List.reverseRecOn with
  | nil => exact fun e he => absurd he List.not_mem_nil
  | append_singleton earlier r ih =>
    rw [storedAfter_snoc, storedOver, List.forall_mem_append]
    exact ⟨enabled_mtrrEntries, fun e he => ih e (List.mem_of_mem_drop he)⟩

/-- A table with entries in use and zeroed slots behind them. -/
def zeroPadded (stored : List MtrrData) : List MtrrData :=
  stored ++ List.replicate (kEptpMtrrEntriesSize - stored.length) zeroEntry

theorem length_zeroPadded {stored : List MtrrData} (h : stored.length ≤ kEptpMtrrEntriesSize) :
    (zeroPadded stored).length = kEptpMtrrEntriesSize := by
  rw [zeroPadded, List.length_append, List.length_replicate]
  omega

theorem storedOver_zeroPadded (written stored : List MtrrData) :
    storedOver written (zeroPadded stored) = zeroPadded (storedOver written stored) := by
  have hzeros : kEptpMtrrEntriesSize - stored.length - (written.length - stored.length) =
      kEptpMtrrEntriesSize - (storedOver written stored).length := by
    rw [length_storedOver]
    omega
  rw [storedOver, zeroPadded, List.drop_append, List.drop_replicate, hzeros, zeroPadded,
    ← List.append_assoc]
  rfl

theorem MtrrReading.read_zeroPadded (r : MtrrReading) {stored : List MtrrData}
    (h : stored.length ≤ kEptpMtrrEntriesSize) : r.read (zeroPadded stored) =
      some ⟨zeroPadded (storedOver r.entries stored), r.defaultType⟩ := by
  rw [MtrrReading.read, eptInitializeMtrrEntries_eq (length_zeroPadded h), ← storedOver_zeroPadded]
  rfl

theorem length_storedAfter_le (earlier : List MtrrReading) :
    (storedAfter earlier).length ≤ kEptpMtrrEntriesSize :=
  (length_storedAfter_le_iff earlier _).2 fun _ _ => length_mtrrEntries_le

/-- The calls succeed, and the table is the entries in use before zeroed slots. -/
theorem tableAfter_eq (earlier : List MtrrReading) :
    tableAfter earlier = some (zeroPadded (storedAfter earlier)) := by
  induction earlier using List.reverseRecOn with
  | nil => rfl
  | append_singleton earlier r ih =>
    rw [tableAfter, List.foldlM_append, ← tableAfter, ih, storedAfter_snoc]
    simp only [List.foldlM_cons, List.foldlM_nil, Option.bind_eq_bind, Option.bind_some,
      r.read_zeroPadded (length_storedAfter_le earlier), Option.map_some]
    rfl

theorem eptpGetMemoryType_zeroPadded {stored : List MtrrData} (defaultType : BitVec 8)
    (pa : BitVec 64) (hstored : ∀ e ∈ stored, e.enabled = true) :
    eptpGetMemoryType ⟨zeroPadded stored, defaultType⟩ pa = orDefault defaultType
      (scan MtrrData.decides MtrrData.type (stored.filter (MtrrData.contains pa)) 0xff) := by
  refine eptpGetMemoryType_stored hstored fun e he => ?_
  cases hzeros : kEptpMtrrEntriesSize - stored.length with
  | zero => simp [hzeros] at he
  | succ n =>
    rw [hzeros, List.replicate_succ, List.head?_cons, Option.mem_some_iff] at he
    rw [← he]
    rfl

/-- The zeroed table is the one after no call. -/
theorem zeroTable_eq : zeroTable = zeroPadded (storedAfter []) := by
  rw [zeroTable, zeroPadded, storedAfter, List.foldl_nil, List.nil_append, List.length_nil,
    Nat.sub_zero]

/-! ## What is left over -/

/-- The entries of earlier calls behind those of the current one. -/
def leftOver (earlier : List MtrrReading) (current : MtrrReading) : List MtrrData :=
  (storedAfter earlier).drop current.entries.length

/-- Nothing is left over exactly when no earlier call stored more entries. -/
theorem leftOver_eq_nil_iff (earlier : List MtrrReading) (current : MtrrReading) :
    leftOver earlier current = [] ↔
      ∀ r ∈ earlier, r.entries.length ≤ current.entries.length := by
  rw [leftOver, List.drop_eq_nil_iff, length_storedAfter_le_iff]

/-- The type that entries which all contain the address come to : that of the first deciding one,
or else of the last, or else the default. -/
def overlapType (defaultType : BitVec 8) (entries : List MtrrData) : BitVec 8 :=
  orDefault defaultType (((scanEnd MtrrData.decides entries).map MtrrData.type).getD 0xff)

/-- The earlier calls do not matter at an address : an entry of the current call decides there, or
no entry left over contains it, or those that do come to the same type. -/
def ForgetsAt (earlier : List MtrrReading) (current : MtrrReading) (pa : BitVec 64) : Prop :=
  (∃ e ∈ current.entries, e.contains pa = true ∧ e.decides = true) ∨
    (∀ e ∈ leftOver earlier current, e.contains pa = false) ∨
    overlapType current.defaultType ((leftOver earlier current).filter (MtrrData.contains pa)) =
      overlapType current.defaultType (current.entries.filter (MtrrData.contains pa))

/-- The answer of the table after a call, with the entries left over behind the new ones. -/
theorem eptpGetMemoryType_reread (earlier : List MtrrReading) (current : MtrrReading)
    (pa : BitVec 64) :
    eptpGetMemoryType
        ⟨zeroPadded (storedOver current.entries (storedAfter earlier)), current.defaultType⟩ pa =
      orDefault current.defaultType (scan MtrrData.decides MtrrData.type
        (current.entries.filter (MtrrData.contains pa) ++
          (leftOver earlier current).filter (MtrrData.contains pa)) 0xff) := by
  have henabled := enabled_storedAfter (earlier ++ [current])
  rw [storedAfter_snoc] at henabled
  rw [eptpGetMemoryType_zeroPadded current.defaultType pa henabled, storedOver, List.filter_append]
  rfl

/-- A call on the zeroed table. -/
theorem MtrrReading.read_zeroTable (r : MtrrReading) : r.read zeroTable =
    some ⟨zeroPadded (storedOver r.entries (storedAfter [])), r.defaultType⟩ := by
  rw [zeroTable_eq, r.read_zeroPadded (length_storedAfter_le [])]

/-- The answer of the table after a call on the zeroed table. -/
theorem eptpGetMemoryType_fresh (r : MtrrReading) (pa : BitVec 64) :
    eptpGetMemoryType ⟨zeroPadded (storedOver r.entries (storedAfter [])), r.defaultType⟩ pa =
      orDefault r.defaultType (scan MtrrData.decides MtrrData.type
        (r.entries.filter (MtrrData.contains pa)) 0xff) := by
  have hleft : leftOver [] r = [] := List.drop_nil
  rw [eptpGetMemoryType_reread, hleft, List.filter_nil, List.append_nil]

theorem overlapType_eq (defaultType : BitVec 8) (entries : List MtrrData) :
    orDefault defaultType (scan MtrrData.decides MtrrData.type entries 0xff) =
      overlapType defaultType entries := by
  rw [scan_eq, overlapType]

/-- **When reading the registers again forgets the past.** After any number of earlier calls the
current one succeeds, and at an address the search then finds what it finds from a zeroed table
exactly when the earlier calls do not matter there. Nothing is left over exactly when no earlier
call stored more entries. -/
theorem reread_forgets_iff (earlier : List MtrrReading) (current : MtrrReading) :
    ∃ previous now fresh, tableAfter earlier = some previous ∧
      current.read previous = some now ∧ current.read zeroTable = some fresh ∧
      (leftOver earlier current = [] ↔
        ∀ r ∈ earlier, r.entries.length ≤ current.entries.length) ∧
      ∀ pa : BitVec 64, eptpGetMemoryType now pa = eptpGetMemoryType fresh pa ↔
        ForgetsAt earlier current pa := by
  refine ⟨_, _, _, tableAfter_eq earlier,
    current.read_zeroPadded (length_storedAfter_le earlier), current.read_zeroTable,
    leftOver_eq_nil_iff earlier current, fun pa => ?_⟩
  rw [eptpGetMemoryType_reread, eptpGetMemoryType_fresh, overlapType_eq, overlapType_eq,
    ForgetsAt]
  by_cases hdecided : ∃ e ∈ current.entries, e.contains pa = true ∧ e.decides = true
  · obtain ⟨e, he, hcontains, hdecides⟩ := hdecided
    have hstop : (current.entries.filter (MtrrData.contains pa)).any MtrrData.decides = true :=
      List.any_eq_true.2 ⟨e, List.mem_filter.2 ⟨he, hcontains⟩, hdecides⟩
    rw [← overlapType_eq, scan_append, if_pos hstop, overlapType_eq]
    exact iff_of_true rfl (Or.inl ⟨e, he, hcontains, hdecides⟩)
  have hnone : (current.entries.filter (MtrrData.contains pa)).any MtrrData.decides = false :=
    List.any_eq_false.2 fun e he hdecides =>
      hdecided ⟨e, (List.mem_filter.1 he).1, (List.mem_filter.1 he).2, hdecides⟩
  by_cases hleft : (leftOver earlier current).filter (MtrrData.contains pa) = []
  · rw [hleft, List.append_nil]
    exact iff_of_true rfl (Or.inr (Or.inl fun e he =>
      Bool.eq_false_iff.2 (List.filter_eq_nil_iff.1 hleft e he)))
  · have hsome : ¬∀ e ∈ leftOver earlier current, e.contains pa = false := fun h =>
      hleft (List.filter_eq_nil_iff.2 fun e he => by simp [h e he])
    rw [← overlapType_eq, scan_append_of_ne_nil hnone hleft, overlapType_eq]
    simp only [hdecided, hsome, false_or]

/-- One pair in use : the write-through range of the second megabyte. The default is WB. -/
def oneRange : MtrrReading where
  rdmsr msr :=
    if msr = Msr.kIa32MtrrCap then 0x1
    else if msr = Msr.kIa32MtrrDefType then 0x806
    else if msr = Msr.kIa32MtrrPhysBaseN then 0x100004
    else if msr = Msr.kIa32MtrrPhysMaskN then 0xFFFF00800
    else 0
  undefinedLength _ := 0

/-- The same processor with the pair out of use. -/
def noRange : MtrrReading where
  rdmsr msr :=
    if msr = Msr.kIa32MtrrCap then 0x1
    else if msr = Msr.kIa32MtrrDefType then 0x806
    else 0
  undefinedLength _ := 0

/-- A range that is out of use after the resume still counts : the second megabyte is
write-through, where the registers say WB. -/
theorem reread_remembers :
    ¬∀ (earlier : List MtrrReading) (current : MtrrReading) (previous : List MtrrData)
      (now fresh : Mtrr), tableAfter earlier = some previous →
      current.read previous = some now → current.read zeroTable = some fresh →
      ∀ pa : BitVec 64, eptpGetMemoryType now pa = eptpGetMemoryType fresh pa := by
  intro h
  have heq := h [oneRange] noRange _ _ _ (tableAfter_eq [oneRange])
    (noRange.read_zeroPadded (length_storedAfter_le [oneRange])) noRange.read_zeroTable 0x100000
  rw [eptpGetMemoryType_reread, eptpGetMemoryType_fresh] at heq
  exact absurd heq (by decide)

end DeviceMon
