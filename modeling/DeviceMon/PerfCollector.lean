import Mathlib.Algebra.BigOperators.Group.List.Basic
import Mathlib.Data.BitVec
import Mathlib.Logic.Function.Basic
import DeviceMon.Tally

/-!
# The performance collector

`PerfCollector` keeps a count and a time for each place of the code that is measured, in an array
that `GetPerfDataIndex` searches up to the first free entry, which a new place takes. Calls of
`AddData` come one at a time, as the lock routines see to.

After any calls the array is the tally of those that were successful, in the order of first use
(`Recorded`). A call fails only for a null key, or for a new one when all entries are taken, and
`Terminate` reports each entry once (`perfCollector_exact`).
-/

namespace DeviceMon

open Tally

/-! ## The collector -/

/-- `PerfDataEntry`. The key is the address of a name. -/
structure PerfDataEntry where
  key : BitVec 64
  totalExecutionCount : BitVec 64
  totalElapsedTime : BitVec 64
  deriving DecidableEq

/-- `kInvalidDataIndex`, which is `MAXULONG`. -/
def kInvalidDataIndex : ℕ :=
  0xffffffff

def kMaxNumberOfDataEntries : ℕ :=
  200

theorem ne_kInvalidDataIndex {i : ℕ} (hi : i < kMaxNumberOfDataEntries) : i ≠ kInvalidDataIndex :=
  (Nat.lt_trans hi (by decide)).ne

/-- `data_`, of which the first `kMaxNumberOfDataEntries` entries exist. -/
abbrev PerfData := ℕ → PerfDataEntry

/-- `data_` after `Initialize`. -/
def initializedPerfData : PerfData := fun _ =>
  ⟨0, 0, 0⟩

/-- A call of `AddData`. -/
structure AddDataCall where
  locationName : BitVec 64
  elapsedTime : BitVec 64

/-- What a call does to the entry of its place. -/
def PerfDataEntry.add (e : PerfDataEntry) (c : AddDataCall) : PerfDataEntry :=
  { e with
    totalExecutionCount := e.totalExecutionCount + 1
    totalElapsedTime := e.totalElapsedTime + c.elapsedTime }

section Calls

variable (key : BitVec 64) (data : PerfData)

/-- The loop of `GetPerfDataIndex`. -/
def getPerfDataIndexLoop (i : ℕ) : ℕ × PerfData :=
  if i < kMaxNumberOfDataEntries then
    if (data i).key = key then (i, data)
    else if (data i).key = 0 then (i, Function.update data i { data i with key := key })
    else getPerfDataIndexLoop (i + 1)
  else (kInvalidDataIndex, data)
termination_by kMaxNumberOfDataEntries - i

/-- `PerfCollector::GetPerfDataIndex`. -/
def getPerfDataIndex : ℕ × PerfData :=
  if key = 0 then (kInvalidDataIndex, data) else getPerfDataIndexLoop key data 0

/-- `PerfCollector::AddData`. -/
def addData (c : AddDataCall) : Bool × PerfData :=
  let (dataIndex, data) := getPerfDataIndex c.locationName data
  if dataIndex = kInvalidDataIndex then (false, data)
  else (true, Function.update data dataIndex ((data dataIndex).add c))

end Calls

/-- A sequence of calls, each with what it returns. -/
def addDataCalls : List AddDataCall → PerfData → List (AddDataCall × Bool) × PerfData
  | [], data => ([], data)
  | c :: calls, data =>
    let (result, data) := addData data c
    let (results, data) := addDataCalls calls data
    ((c, result) :: results, data)

/-- The calls that returned `true`. -/
def successfulCalls (results : List (AddDataCall × Bool)) : List AddDataCall :=
  (results.filter (·.2)).map (·.1)

/-- The calls of the output routines. -/
inductive PerfOutput where
  | initialOutput
  | output (locationName totalExecutionCount totalElapsedTime : BitVec 64)
  | finalOutput

/-- The loop of `Terminate`. -/
def outputLoop (data : PerfData) (i : ℕ) : List PerfOutput :=
  if i < kMaxNumberOfDataEntries then
    if (data i).key = 0 then []
    else .output (data i).key (data i).totalExecutionCount (data i).totalElapsedTime ::
      outputLoop data (i + 1)
  else []
termination_by kMaxNumberOfDataEntries - i

/-- `PerfCollector::Terminate`. -/
def terminate (data : PerfData) : List PerfOutput :=
  (if (data 0).key ≠ 0 then [.initialOutput] else []) ++ outputLoop data 0 ++
    (if (data 0).key ≠ 0 then [.finalOutput] else [])

/-! ## Finding an entry -/

/-- The used entries have these keys, and no others are used. -/
structure UsedKeys (data : PerfData) (used : List (BitVec 64)) : Prop where
  length_le : used.length ≤ kMaxNumberOfDataEntries
  nodup : used.Nodup
  zero_notMem : 0 ∉ used
  key_eq : ∀ i < kMaxNumberOfDataEntries, (data i).key = used[i]?.getD 0

namespace UsedKeys

variable {data : PerfData} {used : List (BitVec 64)} {key : BitVec 64} {n : ℕ}

/-- The search gets past used entries with other keys. -/
theorem loop_eq (h : UsedKeys data used) (hn : n ≤ used.length)
    (hother : ∀ i < n, used[i]? ≠ some key) :
    getPerfDataIndexLoop key data 0 = getPerfDataIndexLoop key data n := by
  induction n with
  | zero => rfl
  | succ n ih =>
    have hin : n < kMaxNumberOfDataEntries := Nat.lt_of_lt_of_le hn h.length_le
    have hkey : (data n).key = used.get ⟨n, hn⟩ := by
      rw [h.key_eq n hin, List.getElem?_eq_getElem hn]
      rfl
    have hne : used.get ⟨n, hn⟩ ≠ key := fun heq =>
      hother n (Nat.lt_succ_self n) (heq ▸ List.getElem?_eq_getElem hn)
    have hused : used.get ⟨n, hn⟩ ≠ 0 := fun heq => h.zero_notMem (heq ▸ List.get_mem _ _)
    rw [ih (Nat.le_of_succ_le hn) fun i hi => hother i (Nat.lt_succ_of_lt hi),
      getPerfDataIndexLoop, if_pos hin, if_neg (hkey ▸ hne), if_neg (hkey ▸ hused)]

variable (h : UsedKeys data used)
include h

theorem getPerfDataIndex_found (hn : used[n]? = some key) :
    getPerfDataIndex key data = (n, data) := by
  obtain ⟨hlt, rfl⟩ := List.getElem?_eq_some_iff.1 hn
  have hin : n < kMaxNumberOfDataEntries := Nat.lt_of_lt_of_le hlt h.length_le
  have hne : used[n] ≠ 0 := fun heq => h.zero_notMem (heq ▸ List.getElem_mem hlt)
  have hother : ∀ i < n, used[i]? ≠ some used[n] := fun i hi heq =>
    hi.ne' ((List.getElem?_inj hlt h.nodup).1 (hn.trans heq.symm))
  rw [getPerfDataIndex, if_neg hne, h.loop_eq hlt.le hother, getPerfDataIndexLoop, if_pos hin,
    if_pos (by rw [h.key_eq n hin, hn, Option.getD_some])]

/-- With a new key the search comes to the first free place. -/
theorem getPerfDataIndex_of_notMem (hkey : key ≠ 0) (hnew : key ∉ used) :
    getPerfDataIndex key data = getPerfDataIndexLoop key data used.length := by
  rw [getPerfDataIndex, if_neg hkey]
  exact h.loop_eq le_rfl fun i _ heq => hnew (List.mem_of_getElem? heq)

theorem getPerfDataIndex_new (hkey : key ≠ 0) (hnew : key ∉ used)
    (hroom : used.length < kMaxNumberOfDataEntries) : getPerfDataIndex key data =
      (used.length, Function.update data used.length { data used.length with key := key }) := by
  have hfree : (data used.length).key = 0 := by
    rw [h.key_eq _ hroom, List.getElem?_eq_none le_rfl, Option.getD_none]
  rw [h.getPerfDataIndex_of_notMem hkey hnew, getPerfDataIndexLoop, if_pos hroom,
    if_neg (hfree ▸ hkey.symm), if_pos hfree]

theorem getPerfDataIndex_full (hkey : key ≠ 0) (hnew : key ∉ used)
    (hfull : used.length = kMaxNumberOfDataEntries) :
    getPerfDataIndex key data = (kInvalidDataIndex, data) := by
  rw [h.getPerfDataIndex_of_notMem hkey hnew, getPerfDataIndexLoop, if_neg (by omega)]

variable {c : AddDataCall}

theorem addData_found (hn : used[n]? = some c.locationName) :
    addData data c = (true, Function.update data n ((data n).add c)) := by
  have hlt : n < used.length := (List.getElem?_eq_some_iff.1 hn).1
  rw [addData, h.getPerfDataIndex_found hn]
  exact if_neg (ne_kInvalidDataIndex (Nat.lt_of_lt_of_le hlt h.length_le))

theorem addData_new (hkey : c.locationName ≠ 0) (hnew : c.locationName ∉ used)
    (hroom : used.length < kMaxNumberOfDataEntries) : addData data c =
      (true, Function.update data used.length
        ({ data used.length with key := c.locationName }.add c)) := by
  rw [addData, h.getPerfDataIndex_new hkey hnew hroom]
  refine (if_neg (ne_kInvalidDataIndex hroom)).trans ?_
  rw [Function.update_self, Function.update_idem]

/-- A call fails when its key is null, or is new and there is no room. Nothing changes then. -/
theorem addData_refused (hrefused : c.locationName = 0 ∨
    c.locationName ∉ used ∧ used.length = kMaxNumberOfDataEntries) :
    addData data c = (false, data) := by
  have hindex : getPerfDataIndex c.locationName data = (kInvalidDataIndex, data) := by
    by_cases hkey : c.locationName = 0
    · rw [getPerfDataIndex, if_pos hkey]
    · obtain ⟨hnew, hfull⟩ := hrefused.resolve_left hkey
      exact h.getPerfDataIndex_full hkey hnew hfull
  rw [addData, hindex]
  exact if_pos rfl

/-- Otherwise it finds an entry, or takes a free one. -/
theorem addData_cases (c : AddDataCall) :
    (c.locationName = 0 ∨ c.locationName ∉ used ∧ used.length = kMaxNumberOfDataEntries) ∨
      (∃ n : ℕ, used[n]? = some c.locationName) ∨
      (c.locationName ≠ 0 ∧ c.locationName ∉ used ∧ used.length < kMaxNumberOfDataEntries) := by
  have hle := h.length_le
  by_cases hkey : c.locationName = 0
  · exact Or.inl (Or.inl hkey)
  · by_cases hmem : c.locationName ∈ used
    · exact Or.inr (Or.inl (List.mem_iff_getElem?.1 hmem))
    · obtain hfull | hroom := hle.eq_or_lt
      · exact Or.inl (Or.inr ⟨hmem, hfull⟩)
      · exact Or.inr (Or.inr ⟨hkey, hmem, hroom⟩)

theorem addData_eq_false_iff : (addData data c).1 = false ↔ c.locationName = 0 ∨
    c.locationName ∉ used ∧ used.length = kMaxNumberOfDataEntries := by
  refine ⟨fun hfalse => ?_, fun hrefused => by rw [h.addData_refused hrefused]⟩
  obtain hrefused | ⟨n, hn⟩ | ⟨hkey, hnew, hroom⟩ := h.addData_cases c
  · exact hrefused
  · rw [h.addData_found hn] at hfalse
    cases hfalse
  · rw [h.addData_new hkey hnew hroom] at hfalse
    cases hfalse

end UsedKeys

/-! ## The tally of the successful calls -/

/-- The entries after some successful calls. -/
abbrev perfTally (calls : List AddDataCall) : List PerfDataEntry :=
  tally AddDataCall.locationName (fun key => ⟨key, 0, 0⟩) PerfDataEntry.add calls

/-- The keys that get an entry. -/
def perfKeys (calls : List AddDataCall) : List (BitVec 64) :=
  firstUses kMaxNumberOfDataEntries ((calls.map AddDataCall.locationName).filter (· ≠ 0))

/-- The entry of a key has its number of calls and their time. -/
theorem perfEntry_eq (calls : List AddDataCall) (key : BitVec 64) :
    entry AddDataCall.locationName (fun key => ⟨key, 0, 0⟩) PerfDataEntry.add calls key =
      let own := calls.filter (·.locationName = key)
      ⟨key, BitVec.ofNat 64 own.length,
        BitVec.ofNat 64 (own.map (·.elapsedTime.toNat)).sum⟩ := by
  have hfold : ∀ (own : List AddDataCall) (e : PerfDataEntry), own.foldl PerfDataEntry.add e =
      ⟨e.key, e.totalExecutionCount + BitVec.ofNat 64 own.length,
        e.totalElapsedTime + BitVec.ofNat 64 (own.map (·.elapsedTime.toNat)).sum⟩ := by
    intro own
    induction own with
    | nil => intro e; simp
    | cons c own ih =>
      intro e
      rw [List.foldl_cons, ih]
      simp only [PerfDataEntry.add, List.length_cons, List.map_cons, List.sum_cons,
        BitVec.ofNat_add, BitVec.ofNat_toNat, BitVec.setWidth_eq, BitVec.add_assoc]
      rw [BitVec.add_comm (BitVec.ofNat 64 own.length)]
      rfl
  rw [entry, hfold]
  simp

section Keys

variable {calls : List AddDataCall} {c : AddDataCall}

theorem perfKeys_concat_of_zero (hkey : c.locationName = 0) :
    perfKeys (calls ++ [c]) = perfKeys calls := by
  rw [perfKeys, List.map_append, List.filter_append, List.map_singleton,
    List.filter_cons_of_neg (by simp [hkey]), List.filter_nil, List.append_nil, perfKeys]

theorem perfKeys_concat (hkey : c.locationName ≠ 0) : perfKeys (calls ++ [c]) =
    if c.locationName ∈ perfKeys calls ∨ (perfKeys calls).length = kMaxNumberOfDataEntries
    then perfKeys calls else perfKeys calls ++ [c.locationName] := by
  rw [perfKeys, List.map_append, List.filter_append, List.map_singleton,
    List.filter_cons_of_pos (by simpa using hkey), List.filter_nil, firstUses_concat, perfKeys]

theorem zero_notMem_perfKeys : 0 ∉ perfKeys calls := fun hmem => by
  simpa using List.of_mem_filter (mem_of_mem_firstUses hmem)

end Keys

/-- After these calls, of which some were successful. -/
structure Recorded (calls succeeded : List AddDataCall) (data : PerfData) : Prop where
  keys : (succeeded.map AddDataCall.locationName).eraseDups = perfKeys calls
  data_eq : ∀ i < kMaxNumberOfDataEntries,
    data i = (perfTally succeeded)[i]?.getD ⟨0, 0, 0⟩

theorem Recorded.nil : Recorded [] [] initializedPerfData :=
  ⟨rfl, fun _ _ => rfl⟩

namespace Recorded

variable {calls succeeded : List AddDataCall} {data : PerfData}
variable (h : Recorded calls succeeded data)
include h

/-- The used entries are those of the first keys. -/
theorem usedKeys : UsedKeys data (perfKeys calls) where
  length_le := length_firstUses_le
  nodup := nodup_firstUses
  zero_notMem := zero_notMem_perfKeys
  key_eq i hi := by
    rw [h.data_eq i hi, getElem?_tally, ← h.keys]
    cases (succeeded.map AddDataCall.locationName).eraseDups[i]? with
    | none => rfl
    | some key => rw [Option.map_some, Option.getD_some, Option.getD_some, perfEntry_eq]

theorem length_tally_eq : (perfTally succeeded).length = (perfKeys calls).length := by
  rw [length_tally, h.keys]

theorem notMem_of_new {key : BitVec 64} (hnew : key ∉ perfKeys calls) :
    key ∉ succeeded.map AddDataCall.locationName := fun hmem =>
  hnew (h.keys ▸ List.mem_eraseDups.2 hmem)

/-- A call that finds its entry. -/
theorem found {c : AddDataCall} {n : ℕ} (hn : (perfKeys calls)[n]? = some c.locationName) :
    Recorded (calls ++ [c]) (succeeded ++ [c]) (Function.update data n ((data n).add c)) := by
  have hmem : c.locationName ∈ perfKeys calls := List.mem_of_getElem? hn
  have hkey : c.locationName ≠ 0 := fun heq => zero_notMem_perfKeys (heq ▸ hmem)
  rw [← h.keys] at hn
  constructor
  · rw [perfKeys_concat hkey, if_pos (Or.inl hmem), List.map_append, List.map_singleton,
      eraseDups_concat_of_mem (List.mem_eraseDups.1 (h.keys ▸ hmem)), h.keys]
  · intro i hi
    have htally : perfTally (succeeded ++ [c]) = (perfTally succeeded).modify n (·.add c) :=
      tally_concat_of_mem hn
    rw [htally, List.getElem?_modify]
    by_cases hin : n = i
    · subst hin
      rw [Function.update_self, h.data_eq n hi, getElem?_tally, hn]
      simp
    · rw [Function.update_of_ne (Ne.symm hin), h.data_eq i hi]
      simp [hin]

/-- A call that takes a free entry. -/
theorem new {c : AddDataCall} (hkey : c.locationName ≠ 0) (hnew : c.locationName ∉ perfKeys calls)
    (hroom : (perfKeys calls).length < kMaxNumberOfDataEntries) :
    Recorded (calls ++ [c]) (succeeded ++ [c]) (Function.update data (perfKeys calls).length
      ({ data (perfKeys calls).length with key := c.locationName }.add c)) := by
  have hlen := h.length_tally_eq
  have hnotMem := h.notMem_of_new hnew
  constructor
  · rw [perfKeys_concat hkey, if_neg (not_or.2 ⟨hnew, hroom.ne⟩), List.map_append,
      List.map_singleton, eraseDups_concat_of_notMem hnotMem, h.keys]
  · intro i hi
    have htally : perfTally (succeeded ++ [c]) =
        perfTally succeeded ++ [PerfDataEntry.add ⟨c.locationName, 0, 0⟩ c] :=
      tally_concat_of_notMem hnotMem
    rw [htally]
    obtain hlt | rfl | hgt := lt_trichotomy i (perfKeys calls).length
    · rw [Function.update_of_ne hlt.ne, h.data_eq i hi, List.getElem?_append_left (by omega)]
    · -- the entry was free
      have hfree : data (perfKeys calls).length = ⟨0, 0, 0⟩ := by
        rw [h.data_eq _ hi, List.getElem?_eq_none hlen.le, Option.getD_none]
      rw [Function.update_self, hfree, ← hlen, List.getElem?_concat_length, Option.getD_some]
    · rw [Function.update_of_ne hgt.ne', h.data_eq i hi, List.getElem?_eq_none (by omega),
        List.getElem?_eq_none (by simp only [List.length_append, List.length_singleton]; omega)]

/-- One call. -/
theorem addData (c : AddDataCall) : Recorded (calls ++ [c])
    (succeeded ++ successfulCalls [(c, (addData data c).1)]) (addData data c).2 := by
  obtain hrefused | ⟨n, hn⟩ | ⟨hkey, hnew, hroom⟩ := h.usedKeys.addData_cases c
  · have hkeys : perfKeys (calls ++ [c]) = perfKeys calls := by
      by_cases hkey : c.locationName = 0
      · exact perfKeys_concat_of_zero hkey
      · rw [perfKeys_concat hkey, if_pos (Or.inr (hrefused.resolve_left hkey).2)]
    rw [h.usedKeys.addData_refused hrefused]
    exact ⟨by simpa [successfulCalls, hkeys] using h.keys,
      by simpa [successfulCalls] using h.data_eq⟩
  · rw [h.usedKeys.addData_found hn]
    exact h.found hn
  · rw [h.usedKeys.addData_new hkey hnew hroom]
    exact h.new hkey hnew hroom

end Recorded

/-- Any calls. -/
theorem recorded_addDataCalls (calls : List AddDataCall) {before succeeded : List AddDataCall}
    {data : PerfData} (h : Recorded before succeeded data) :
    Recorded (before ++ calls) (succeeded ++ successfulCalls (addDataCalls calls data).1)
      (addDataCalls calls data).2 := by
  induction calls generalizing before succeeded data with
  | nil => simpa [addDataCalls, successfulCalls] using h
  | cons c calls ih =>
    have hrest := ih (h.addData c)
    rw [List.append_assoc, List.append_assoc, successfulCalls, successfulCalls, ← List.map_append,
      ← List.filter_append] at hrest
    exact hrest

/-! ## Reports -/

/-- The calls with a key. -/
def callsOf (calls : List AddDataCall) (key : BitVec 64) : List AddDataCall :=
  calls.filter (·.locationName = key)

/-- The report on a key after some successful calls. -/
def perfReport (succeeded : List AddDataCall) (key : BitVec 64) : PerfOutput :=
  .output key (BitVec.ofNat 64 (callsOf succeeded key).length)
    (BitVec.ofNat 64 ((callsOf succeeded key).map (·.elapsedTime.toNat)).sum)

theorem perfReport_eq (succeeded : List AddDataCall) (key : BitVec 64) :
    let e := entry AddDataCall.locationName (fun key => ⟨key, 0, 0⟩) PerfDataEntry.add succeeded key
    perfReport succeeded key = .output e.key e.totalExecutionCount e.totalElapsedTime := by
  simp only [perfEntry_eq, perfReport, callsOf]

namespace Recorded

variable {calls succeeded : List AddDataCall} {data : PerfData}
variable (h : Recorded calls succeeded data)
include h

/-- The keys that are used are in front. -/
theorem outputLoop_eq (i : ℕ) :
    outputLoop data i = ((perfKeys calls).drop i).map (perfReport succeeded) := by
  have hused := h.usedKeys
  have hle := hused.length_le
  fun_induction outputLoop data i with
  | case1 i hi hfree =>
    rw [hused.key_eq i hi] at hfree
    have hnone : (perfKeys calls)[i]? = none := by
      cases hkey : (perfKeys calls)[i]? with
      | none => rfl
      | some key =>
        rw [hkey, Option.getD_some] at hfree
        exact absurd (hfree ▸ List.mem_of_getElem? hkey) hused.zero_notMem
    rw [List.drop_eq_nil_of_le (List.getElem?_eq_none_iff.1 hnone), List.map_nil]
  | case2 i hi hkey ih =>
    have hlt : i < (perfKeys calls).length := by
      by_contra hge
      rw [hused.key_eq i hi, List.getElem?_eq_none (by omega)] at hkey
      exact hkey rfl
    have hentry : data i = entry AddDataCall.locationName (fun key => ⟨key, 0, 0⟩)
        PerfDataEntry.add succeeded ((perfKeys calls).get ⟨i, hlt⟩) := by
      rw [h.data_eq i hi, getElem?_tally, h.keys, List.getElem?_eq_getElem hlt]
      rfl
    rw [ih, List.drop_eq_getElem_cons hlt, List.map_cons, hentry]
    exact congrArg (· :: _) (perfReport_eq succeeded _).symm
  | case3 i hi => rw [List.drop_eq_nil_of_le (by omega), List.map_nil]

/-- `Terminate` reports the keys in order, between two lines if there are any. -/
theorem terminate_eq : terminate data = if perfKeys calls = [] then [] else
    .initialOutput :: (perfKeys calls).map (perfReport succeeded) ++ [.finalOutput] := by
  have hkey : (data 0).key = (perfKeys calls)[0]?.getD 0 := h.usedKeys.key_eq 0 (by decide)
  rw [terminate, h.outputLoop_eq 0, List.drop_zero]
  split_ifs with hfree hnil hnil
  · rw [hnil] at hkey
    exact absurd hkey hfree
  · rfl
  · rw [hnil]
    rfl
  · obtain ⟨key, keys, hkeys⟩ := List.exists_cons_of_ne_nil hnil
    rw [not_not, hkey, hkeys] at hfree
    have hzero : key = 0 := hfree
    refine absurd ?_ h.usedKeys.zero_notMem
    rw [hkeys, hzero]
    exact List.mem_cons_self

end Recorded

/-- After any calls the used entries are those of the first keys, in order and without a gap. The
next call fails only for a null key, or for a new one with all entries taken, and then changes
nothing. `Terminate` reports, once for each key, the number of its successful calls and the sum of
their times, both as 64-bit words. -/
theorem perfCollector_exact (calls : List AddDataCall) :
    let run := addDataCalls calls initializedPerfData
    let used := perfKeys calls
    (used.Nodup ∧ 0 ∉ used ∧ ∀ i < kMaxNumberOfDataEntries, (run.2 i).key = used[i]?.getD 0) ∧
      (∀ c, (addData run.2 c).1 = false ↔
        c.locationName = 0 ∨ c.locationName ∉ used ∧ used.length = kMaxNumberOfDataEntries) ∧
      (∀ c, (addData run.2 c).1 = false → (addData run.2 c).2 = run.2) ∧
      terminate run.2 = if used = [] then [] else
        .initialOutput :: used.map (perfReport (successfulCalls run.1)) ++ [.finalOutput] := by
  have h := recorded_addDataCalls calls Recorded.nil
  rw [List.nil_append, List.nil_append] at h
  have hused := h.usedKeys
  refine ⟨⟨hused.nodup, hused.zero_notMem, hused.key_eq⟩, fun c => hused.addData_eq_false_iff,
    fun c hfalse => ?_, h.terminate_eq⟩
  rw [hused.addData_refused (hused.addData_eq_false_iff.1 hfalse)]

/-! ## No place is lost -/

theorem addDataCalls_concat (calls : List AddDataCall) (c : AddDataCall) (data : PerfData) :
    (addDataCalls (calls ++ [c]) data).1 = (addDataCalls calls data).1 ++
      [(c, (addData (addDataCalls calls data).2 c).1)] := by
  induction calls generalizing data with
  | nil => rfl
  | cons c' calls ih => exact congrArg (_ :: ·) (ih _)

/-- With room for all keys, every call with a key is successful. -/
theorem successfulCalls_addDataCalls {calls : List AddDataCall}
    (hkeys : ∀ c ∈ calls, c.locationName ≠ 0)
    (hroom : (calls.map AddDataCall.locationName).eraseDups.length ≤ kMaxNumberOfDataEntries) :
    successfulCalls (addDataCalls calls initializedPerfData).1 = calls := by
  induction calls using List.reverseRecOn with
  | nil => rfl
  | append_singleton calls c ih =>
    have h := recorded_addDataCalls calls Recorded.nil
    rw [List.map_append, List.map_singleton] at hroom
    have hfits : (calls.map AddDataCall.locationName).eraseDups.length ≤
        (calls.map AddDataCall.locationName ++ [c.locationName]).eraseDups.length := by
      rw [List.eraseDups_append, List.length_append]
      exact Nat.le_add_right _ _
    have hbefore := ih (fun c' hc' => hkeys c' (List.mem_append_left _ hc')) (hfits.trans hroom)
    rw [List.nil_append, List.nil_append, hbefore] at h
    have htrue : (addData (addDataCalls calls initializedPerfData).2 c).1 = true := by
      by_contra hfalse
      obtain hzero | ⟨hnew, hfull⟩ :=
        h.usedKeys.addData_eq_false_iff.1 (Bool.eq_false_iff.2 hfalse)
      · exact hkeys c (List.mem_append_right _ (List.mem_singleton_self c)) hzero
      · -- the key would be one too many
        rw [eraseDups_concat_of_notMem (h.notMem_of_new hnew), h.keys, List.length_append,
          List.length_singleton] at hroom
        omega
    rw [addDataCalls_concat, successfulCalls, List.filter_append, List.map_append, htrue]
    exact congrArg (· ++ [c]) hbefore

theorem callsOf_replicate (n : ℕ) (c : AddDataCall) :
    callsOf (List.replicate n c) c.locationName = List.replicate n c :=
  List.filter_replicate_of_pos (decide_eq_true rfl)

/-- Calls from one place alone. -/
theorem terminate_replicate {n : ℕ} (hn : n ≠ 0) {c : AddDataCall} (hkey : c.locationName ≠ 0) :
    let run := addDataCalls (List.replicate n c) initializedPerfData
    successfulCalls run.1 = List.replicate n c ∧
      terminate run.2 = [.initialOutput, .output c.locationName (BitVec.ofNat 64 n)
        (BitVec.ofNat 64 (n * c.elapsedTime.toNat)), .finalOutput] := by
  have hkeys : ((List.replicate n c).map AddDataCall.locationName).eraseDups =
      [c.locationName] := by
    rw [List.map_replicate, eraseDups_replicate hn]
  have hroom : ((List.replicate n c).map AddDataCall.locationName).eraseDups.length ≤
      kMaxNumberOfDataEntries := by
    rw [hkeys, List.length_singleton]
    decide
  have hsucceeded : successfulCalls (addDataCalls (List.replicate n c) initializedPerfData).1 =
      List.replicate n c :=
    successfulCalls_addDataCalls (fun c' hc' => List.eq_of_mem_replicate hc' ▸ hkey) hroom
  have h := recorded_addDataCalls (List.replicate n c) Recorded.nil
  rw [List.nil_append, List.nil_append, hsucceeded] at h
  refine ⟨hsucceeded, ?_⟩
  rw [h.terminate_eq, ← h.keys, hkeys, if_neg (List.cons_ne_nil _ _), List.map_singleton,
    perfReport, callsOf_replicate, List.length_replicate, List.map_replicate, List.sum_replicate]
  rfl

/-- Enough calls bring the count back to zero. -/
theorem count_ne_of_ofNat_eq_zero {n : ℕ} (hn : n ≠ 0) (hzero : BitVec.ofNat 64 n = 0)
    {c : AddDataCall} (hkey : c.locationName ≠ 0) :
    let run := addDataCalls (List.replicate n c) initializedPerfData
    ¬∀ key count time, .output key count time ∈ terminate run.2 →
      count.toNat = (callsOf (successfulCalls run.1) key).length := by
  intro run hexact
  obtain ⟨hsucceeded, hterminate⟩ := terminate_replicate hn hkey
  have hcount := hexact c.locationName (BitVec.ofNat 64 n) _
    (hterminate ▸ List.mem_cons_of_mem _ List.mem_cons_self)
  rw [hsucceeded, callsOf_replicate, List.length_replicate, hzero] at hcount
  exact hn hcount.symm

/-- The count is a 64-bit word : `2 ^ 64` calls are too many for it. -/
theorem perfCollector_count_overflows :
    let run := addDataCalls (List.replicate (2 ^ 64) ⟨1, 0⟩) initializedPerfData
    ¬∀ key count time, .output key count time ∈ terminate run.2 →
      count.toNat = (callsOf (successfulCalls run.1) key).length :=
  count_ne_of_ofNat_eq_zero (by decide) (by decide) (by decide)

end DeviceMon
