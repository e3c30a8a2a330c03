import DeviceMon.Mtrr
import DeviceMon.Scan

/-!
# What the table says of an address

`EptpGetMemoryType` is a search over the entries that contain the address, up to the first
disabled one : a fixed or uncacheable entry decides, and any other one replaces the answer
(`eptpGetMemoryTypeLoop_eq`). Its rule for WT and WB only looks at an answer of WB, so a WB entry
after a WT one wins : the order of the entries matters (`memoryType_precedence_iff`).
-/

namespace DeviceMon

/-! ## The search -/

namespace MtrrData

/-- The range of the entry has the address. -/
def contains (pa : BitVec 64) (e : MtrrData) : Bool :=
  utilIsInBounds pa e.rangeBase e.rangeEnd

/-- The entry has the last word. -/
def decides (e : MtrrData) : Bool :=
  e.fixedMtrr || e.type = MemoryType.uncacheable

end MtrrData

/-- The entries that contain an address, up to the first disabled one. -/
def covering (pa : BitVec 64) (entries : List MtrrData) : List MtrrData :=
  (entries.takeWhile MtrrData.enabled).filter (MtrrData.contains pa)

/-- An entry that contains the address : the rule for WT and WB comes to the type of the entry,
since the answer is WB there. -/
theorem eptpGetMemoryTypeLoop_contains {pa : BitVec 64} {e : MtrrData} (es : List MtrrData)
    (r : BitVec 8) (henabled : e.enabled = true) (hcontains : e.contains pa = true) :
    eptpGetMemoryTypeLoop pa (e :: es) r =
      if e.decides then e.type else eptpGetMemoryTypeLoop pa es e.type := by
  have hbounds : utilIsInBounds pa e.rangeBase e.rangeEnd = true := hcontains
  rw [eptpGetMemoryTypeLoop, henabled, hbounds]
  simp only [Bool.not_true, Bool.false_eq_true, if_false, MtrrData.decides, Bool.or_eq_true,
    decide_eq_true_eq]
  by_cases hfixed : e.fixedMtrr = true
  · simp [hfixed]
  by_cases huc : e.type = MemoryType.uncacheable
  · simp [huc]
  rw [if_neg hfixed, if_neg huc, if_neg (not_or.2 ⟨hfixed, huc⟩)]
  split_ifs with hrule
  · obtain ⟨hwt | hwt, hwb⟩ := hrule
    · exact absurd (hwt.symm.trans hwb) (by decide)
    · rw [hwt]
  · rfl

theorem eptpGetMemoryTypeLoop_eq (pa : BitVec 64) (entries : List MtrrData) (r : BitVec 8) :
    eptpGetMemoryTypeLoop pa entries r =
      scan MtrrData.decides MtrrData.type (covering pa entries) r := by
  induction entries generalizing r with
  | nil => rfl
  | cons e es ih =>
    rw [covering]
    by_cases henabled : e.enabled = true
    · rw [List.takeWhile_cons_of_pos henabled]
      by_cases hcontains : e.contains pa = true
      · rw [List.filter_cons_of_pos hcontains, scan_cons,
          eptpGetMemoryTypeLoop_contains es r henabled hcontains, ih]
        rfl
      · have hbounds : utilIsInBounds pa e.rangeBase e.rangeEnd = false :=
          Bool.eq_false_iff.2 hcontains
        rw [List.filter_cons_of_neg hcontains, eptpGetMemoryTypeLoop, henabled, hbounds]
        exact ih r
    · rw [List.takeWhile_cons_of_neg henabled, eptpGetMemoryTypeLoop]
      simp [henabled]

/-- The last step of `EptpGetMemoryType` : no answer means the default type. -/
def orDefault (defaultType resultType : BitVec 8) : BitVec 8 :=
  if resultType = 0xff then defaultType else resultType

theorem eptpGetMemoryType_eq (mtrr : Mtrr) (pa : BitVec 64) :
    eptpGetMemoryType mtrr pa = orDefault mtrr.defaultType
      (scan MtrrData.decides MtrrData.type (covering pa mtrr.entries) 0xff) := by
  rw [← eptpGetMemoryTypeLoop_eq]
  rfl

/-- What a table has behind its first disabled entry does not count. -/
theorem covering_append {stored : List MtrrData} (rest : List MtrrData) (pa : BitVec 64)
    (hstored : ∀ e ∈ stored, e.enabled = true) : covering pa (stored ++ rest) =
      stored.filter (MtrrData.contains pa) ++ covering pa rest := by
  rw [covering, List.takeWhile_append_of_pos hstored, List.filter_append]
  rfl

theorem covering_of_disabled {rest : List MtrrData} (pa : BitVec 64)
    (hrest : ∀ e ∈ rest.head?, e.enabled = false) : covering pa rest = [] := by
  cases rest with
  | nil => rfl
  | cons e rest =>
    have he : e.enabled = false := hrest e rfl
    rw [covering, List.takeWhile_cons_of_neg (by simp [he])]
    rfl

/-! ## Overlapping variable ranges -/

/-- The precedence of the types UC, WT and WB where ranges overlap. -/
def precedence (types : List (BitVec 8)) : BitVec 8 :=
  if MemoryType.uncacheable ∈ types then MemoryType.uncacheable
  else if MemoryType.writeThrough ∈ types then MemoryType.writeThrough
  else MemoryType.writeBack

/-- The types of the entries that contain an address, in the order of the table. -/
def typesAt (pa : BitVec 64) (stored : List MtrrData) : List (BitVec 8) :=
  (stored.filter (MtrrData.contains pa)).map MtrrData.type

/-- The entries that contain the address are of variable ranges of type UC, WT or WB. -/
def VariableAt (pa : BitVec 64) (stored : List MtrrData) : Prop :=
  ∀ e ∈ stored, e.contains pa = true → e.fixedMtrr = false ∧
    e.type ∈ [MemoryType.uncacheable, MemoryType.writeThrough, MemoryType.writeBack]

theorem mem_typesAt {pa : BitVec 64} {stored : List MtrrData} {t : BitVec 8} :
    t ∈ typesAt pa stored ↔ ∃ e ∈ stored, e.contains pa = true ∧ e.type = t := by
  simp [typesAt, and_assoc]

section Overlap

variable {stored rest : List MtrrData} {defaultType : BitVec 8} {pa : BitVec 64}

theorem mem_typesAt_of_perm {stored' : List MtrrData} (hperm : stored'.Perm stored)
    (t : BitVec 8) : t ∈ typesAt pa stored' ↔ t ∈ typesAt pa stored :=
  ((hperm.filter _).map _).mem_iff

theorem VariableAt.of_perm {stored' : List MtrrData} (hvariable : VariableAt pa stored)
    (hperm : stored'.Perm stored) : VariableAt pa stored' :=
  fun e he => hvariable e (hperm.mem_iff.1 he)

/-- Only the uncacheable ones of these entries stop the search. -/
theorem VariableAt.decides_iff (hvariable : VariableAt pa stored) {e : MtrrData}
    (he : e ∈ stored.filter (MtrrData.contains pa)) :
    e.decides = true ↔ e.type = MemoryType.uncacheable := by
  obtain ⟨hmem, hcontains⟩ := List.mem_filter.1 he
  simp [MtrrData.decides, (hvariable e hmem hcontains).1]

theorem VariableAt.mem_types (hvariable : VariableAt pa stored) {t : BitVec 8}
    (ht : t ∈ typesAt pa stored) :
    t ∈ [MemoryType.uncacheable, MemoryType.writeThrough, MemoryType.writeBack] := by
  obtain ⟨e, he, hcontains, rfl⟩ := mem_typesAt.1 ht
  exact (hvariable e he hcontains).2

theorem orDefault_of_mem {t : BitVec 8}
    (ht : t ∈ [MemoryType.uncacheable, MemoryType.writeThrough, MemoryType.writeBack]) :
    orDefault defaultType t = t :=
  if_neg fun hff => absurd (hff ▸ ht) (by decide)

/-- The table reads as its stored part. -/
theorem eptpGetMemoryType_stored (hstored : ∀ e ∈ stored, e.enabled = true)
    (hrest : ∀ e ∈ rest.head?, e.enabled = false) :
    eptpGetMemoryType ⟨stored ++ rest, defaultType⟩ pa = orDefault defaultType
      (scan MtrrData.decides MtrrData.type (stored.filter (MtrrData.contains pa)) 0xff) := by
  rw [eptpGetMemoryType_eq, covering_append rest pa hstored, covering_of_disabled pa hrest,
    List.append_nil]

/-- An uncacheable range decides, wherever it stands. -/
theorem eptpGetMemoryType_uncacheable (hstored : ∀ e ∈ stored, e.enabled = true)
    (hrest : ∀ e ∈ rest.head?, e.enabled = false) (hvariable : VariableAt pa stored)
    (huc : MemoryType.uncacheable ∈ typesAt pa stored) :
    eptpGetMemoryType ⟨stored ++ rest, defaultType⟩ pa = MemoryType.uncacheable := by
  obtain ⟨e, he, hcontains, htype⟩ := mem_typesAt.1 huc
  have hmem := List.mem_filter.2 ⟨he, hcontains⟩
  have hstop : ∃ e ∈ stored.filter (MtrrData.contains pa), e.decides = true :=
    ⟨e, hmem, (hvariable.decides_iff hmem).2 htype⟩
  rw [eptpGetMemoryType_stored hstored hrest,
    scan_eq_of_stop hstop fun a ha hstopped => (hvariable.decides_iff ha).1 hstopped]
  exact orDefault_of_mem List.mem_cons_self

/-- Without an uncacheable range the last one decides. -/
theorem eptpGetMemoryType_last (hstored : ∀ e ∈ stored, e.enabled = true)
    (hrest : ∀ e ∈ rest.head?, e.enabled = false) (hvariable : VariableAt pa stored)
    (huc : MemoryType.uncacheable ∉ typesAt pa stored) {t : BitVec 8}
    (hlast : (typesAt pa stored).getLast? = some t) :
    eptpGetMemoryType ⟨stored ++ rest, defaultType⟩ pa = t := by
  have hnone : ∀ e ∈ stored.filter (MtrrData.contains pa), e.decides = false := fun e he =>
    Bool.eq_false_iff.2 fun hstop =>
      huc (List.mem_map.2 ⟨e, he, (hvariable.decides_iff he).1 hstop⟩)
  rw [typesAt, List.getLast?_map] at hlast
  rw [eptpGetMemoryType_stored hstored hrest, scan_of_forall_not hnone, hlast]
  refine orDefault_of_mem (hvariable.mem_types (List.mem_of_mem_getLast? ?_))
  rw [typesAt, List.getLast?_map]
  exact hlast

/-- One of the ranges of the table may be taken for the last one. -/
theorem exists_perm_last {t : BitVec 8} (ht : t ∈ typesAt pa stored) :
    ∃ stored' : List MtrrData, stored'.Perm stored ∧ (typesAt pa stored').getLast? = some t := by
  obtain ⟨e, he, hcontains, rfl⟩ := mem_typesAt.1 ht
  refine ⟨stored.erase e ++ [e], ?_, ?_⟩
  · exact List.perm_append_comm.trans (List.perm_cons_erase he).symm
  · simp [typesAt, hcontains]

/-- Without UC the precedence is the last type exactly when WT, if there is one, comes last. -/
theorem precedence_eq_last_iff (hvariable : VariableAt pa stored)
    (huc : MemoryType.uncacheable ∉ typesAt pa stored) {t : BitVec 8}
    (hlast : (typesAt pa stored).getLast? = some t) : t = precedence (typesAt pa stored) ↔
      MemoryType.writeThrough ∉ typesAt pa stored ∨ t = MemoryType.writeThrough := by
  have hmem : t ∈ typesAt pa stored := List.mem_of_mem_getLast? hlast
  rw [precedence, if_neg huc]
  by_cases hwt : MemoryType.writeThrough ∈ typesAt pa stored
  · simp [hwt]
  · have hthree := hvariable.mem_types hmem
    simp only [List.mem_cons, List.not_mem_nil, or_false] at hthree
    rcases hthree with rfl | rfl | rfl
    · exact (huc hmem).elim
    · exact (hwt hmem).elim
    · simp [hwt]

/-- **What overlapping variable ranges come to.** The answer is that of the precedence exactly
when one of them is uncacheable, none is write-through, or the last one is; and it is the same in
every order of the table exactly when one of them is uncacheable or write-through and write-back
do not meet. -/
theorem memoryType_precedence_iff (stored rest : List MtrrData) (defaultType : BitVec 8)
    (pa : BitVec 64) (hstored : ∀ e ∈ stored, e.enabled = true)
    (hrest : ∀ e ∈ rest.head?, e.enabled = false) (hvariable : VariableAt pa stored)
    (hsome : ∃ e ∈ stored, e.contains pa = true) :
    (eptpGetMemoryType ⟨stored ++ rest, defaultType⟩ pa = precedence (typesAt pa stored) ↔
      MemoryType.uncacheable ∈ typesAt pa stored ∨
        MemoryType.writeThrough ∉ typesAt pa stored ∨
        (typesAt pa stored).getLast? = some MemoryType.writeThrough) ∧
    ((∀ stored' : List MtrrData, stored'.Perm stored →
        eptpGetMemoryType ⟨stored' ++ rest, defaultType⟩ pa =
          eptpGetMemoryType ⟨stored ++ rest, defaultType⟩ pa) ↔
      MemoryType.uncacheable ∈ typesAt pa stored ∨
        ¬(MemoryType.writeThrough ∈ typesAt pa stored ∧
          MemoryType.writeBack ∈ typesAt pa stored)) := by
  have hstored' : ∀ stored' : List MtrrData, stored'.Perm stored →
      ∀ e ∈ stored', e.enabled = true := fun _ hperm e he => hstored e (hperm.mem_iff.1 he)
  by_cases huc : MemoryType.uncacheable ∈ typesAt pa stored
  · refine ⟨iff_of_true ?_ (Or.inl huc), iff_of_true (fun stored' hperm => ?_) (Or.inl huc)⟩
    · rw [eptpGetMemoryType_uncacheable hstored hrest hvariable huc, precedence, if_pos huc]
    · rw [eptpGetMemoryType_uncacheable hstored hrest hvariable huc,
        eptpGetMemoryType_uncacheable (hstored' stored' hperm) hrest (hvariable.of_perm hperm)
          ((mem_typesAt_of_perm hperm _).2 huc)]
  -- Without UC every order answers with its last type.
  have hanswer : ∀ stored' : List MtrrData, stored'.Perm stored → ∀ t : BitVec 8,
      (typesAt pa stored').getLast? = some t →
        eptpGetMemoryType ⟨stored' ++ rest, defaultType⟩ pa = t := fun stored' hperm t hlast =>
    eptpGetMemoryType_last (hstored' stored' hperm) hrest (hvariable.of_perm hperm)
      (fun hmem => huc ((mem_typesAt_of_perm hperm _).1 hmem)) hlast
  obtain ⟨e, he, hcontains⟩ := hsome
  have hmem : e.type ∈ typesAt pa stored := mem_typesAt.2 ⟨e, he, hcontains, rfl⟩
  obtain ⟨t, ht⟩ : ∃ t, (typesAt pa stored).getLast? = some t :=
    ⟨_, List.getLast?_eq_some_getLast (List.ne_nil_of_mem hmem)⟩
  refine ⟨?_, fun hsame => Or.inr fun ⟨hwt, hwb⟩ => ?_, fun hcond stored' hperm => ?_⟩
  · rw [hanswer stored (List.Perm.refl _) t ht, precedence_eq_last_iff hvariable huc ht, ht]
    simp [huc]
  · obtain ⟨one, hone, hlastOne⟩ := exists_perm_last hwt
    obtain ⟨two, htwo, hlastTwo⟩ := exists_perm_last hwb
    have heq := (hsame one hone).trans (hsame two htwo).symm
    rw [hanswer one hone _ hlastOne, hanswer two htwo _ hlastTwo] at heq
    exact absurd heq (by decide)
  · obtain ⟨t', ht'⟩ : ∃ t', (typesAt pa stored').getLast? = some t' :=
      ⟨_, List.getLast?_eq_some_getLast
        (List.ne_nil_of_mem ((mem_typesAt_of_perm hperm _).2 hmem))⟩
    have hmem' := (mem_typesAt_of_perm hperm t').1 (List.mem_of_mem_getLast? ht')
    have hmemt := List.mem_of_mem_getLast? ht
    rw [hanswer stored' hperm t' ht', hanswer stored (List.Perm.refl _) t ht]
    have hthree := hvariable.mem_types hmemt
    have hthree' := hvariable.mem_types hmem'
    simp only [List.mem_cons, List.not_mem_nil, or_false] at hthree hthree'
    have hmeet := hcond.resolve_left huc
    rcases hthree with rfl | rfl | rfl <;> rcases hthree' with rfl | rfl | rfl <;>
      first | rfl | exact (huc ‹_›).elim | exact (hmeet ⟨‹_›, ‹_›⟩).elim

end Overlap

/-- The entry of a variable range. -/
def variableEntry (type : BitVec 8) (base finish : BitVec 64) : MtrrData :=
  { enabled := true, fixedMtrr := false, type := type, rangeBase := base, rangeEnd := finish }

theorem memoryType_precedence_iff_uncacheable :
    (eptpGetMemoryType ⟨[variableEntry 4 0 0xffff, variableEntry 0 0 0xfff] ++ [], 6⟩ 0x10 =
        precedence (typesAt 0x10 [variableEntry 4 0 0xffff, variableEntry 0 0 0xfff]) ↔
      MemoryType.uncacheable ∈
          typesAt 0x10 [variableEntry 4 0 0xffff, variableEntry 0 0 0xfff] ∨
        MemoryType.writeThrough ∉
          typesAt 0x10 [variableEntry 4 0 0xffff, variableEntry 0 0 0xfff] ∨
        (typesAt 0x10 [variableEntry 4 0 0xffff, variableEntry 0 0 0xfff]).getLast? =
          some MemoryType.writeThrough) ∧
    ((∀ stored' : List MtrrData,
        stored'.Perm [variableEntry 4 0 0xffff, variableEntry 0 0 0xfff] →
        eptpGetMemoryType ⟨stored' ++ [], 6⟩ 0x10 =
          eptpGetMemoryType
            ⟨[variableEntry 4 0 0xffff, variableEntry 0 0 0xfff] ++ [], 6⟩ 0x10) ↔
      MemoryType.uncacheable ∈
          typesAt 0x10 [variableEntry 4 0 0xffff, variableEntry 0 0 0xfff] ∨
        ¬(MemoryType.writeThrough ∈
            typesAt 0x10 [variableEntry 4 0 0xffff, variableEntry 0 0 0xfff] ∧
          MemoryType.writeBack ∈
            typesAt 0x10 [variableEntry 4 0 0xffff, variableEntry 0 0 0xfff])) :=
  memoryType_precedence_iff [variableEntry 4 0 0xffff, variableEntry 0 0 0xfff] [] 6 0x10
    (by decide) (by decide) (by unfold VariableAt; decide) (by decide)

/-- A write-back range after a write-through one wins : the two orders differ, and one of them is
not the precedence. -/
theorem writeThrough_lost :
    eptpGetMemoryType ⟨[variableEntry 4 0 0xffff, variableEntry 6 0 0xfff], 0⟩ 0x10 = 6 ∧
    precedence (typesAt 0x10 [variableEntry 4 0 0xffff, variableEntry 6 0 0xfff]) = 4 ∧
    eptpGetMemoryType ⟨[variableEntry 6 0 0xfff, variableEntry 4 0 0xffff], 0⟩ 0x10 = 4 := by
  decide

end DeviceMon
