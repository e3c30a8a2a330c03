import Mathlib.Data.List.TakeWhile
import DeviceMon.PageTables

/-!
# The search for a pattern

`UtilMemMem` tries the places of a buffer from the start, with one call to `RtlCompareMemory` each,
and stops at the first that holds the pattern. A call reads its two ranges, and no call gets past
the buffer (`reads_utilMemMemLoop`). The offset cannot run over : the last one is tried only for an
empty pattern, which is found at once.

The driver takes the base of the PTEs from the operand behind such a place
(`utilpFindPteBase_eq`).
-/

namespace DeviceMon

/-! ## Comparing memory -/

/-- Memory by bytes. -/
abbrev Bytes := BitVec 64 → BitVec 8

/-- `a` is one of the `size` bytes from `base` on. -/
def InBuffer (base size a : BitVec 64) : Prop :=
  a - base < size

/-- A call to `RtlCompareMemory`. -/
structure CompareCall where
  source1 : BitVec 64
  source2 : BitVec 64
  length : BitVec 64

/-- The bytes a call may read : those of both blocks. -/
def CompareCall.Reads (c : CompareCall) (a : BitVec 64) : Prop :=
  InBuffer c.source1 c.length a ∨ InBuffer c.source2 c.length a

/-- `RtlCompareMemory` : how many bytes of the two blocks match until the first difference. -/
def rtlCompareMemory (memory : Bytes) (c : CompareCall) : BitVec 64 :=
  let matching := (List.range c.length.toNat).takeWhile fun k =>
    memory (c.source1 + BitVec.ofNat 64 k) = memory (c.source2 + BitVec.ofNat 64 k)
  BitVec.ofNat 64 matching.length

section Compare

variable (memory : Bytes)

/-- All bytes match exactly when the whole blocks are equal. -/
theorem rtlCompareMemory_eq_length {c : CompareCall} :
    rtlCompareMemory memory c = c.length ↔ ∀ k < c.length.toNat,
      memory (c.source1 + BitVec.ofNat 64 k) = memory (c.source2 + BitVec.ofNat 64 k) := by
  have hle := (List.takeWhile_prefix (fun k => decide (memory (c.source1 + BitVec.ofNat 64 k) =
    memory (c.source2 + BitVec.ofNat 64 k))) (l := List.range c.length.toNat)).length_le
  rw [List.length_range] at hle
  have hlen := c.length.isLt
  rw [rtlCompareMemory, ← BitVec.toNat_inj, BitVec.toNat_ofNat, Nat.mod_eq_of_lt (by omega)]
  constructor
  · intro h k hk
    have hall := (List.takeWhile_prefix _).eq_of_length (h.trans List.length_range.symm)
    simpa using List.takeWhile_eq_self_iff.1 hall k (List.mem_range.2 hk)
  · intro h
    rw [List.takeWhile_eq_self_iff.2 (by simpa using h), List.length_range]

end Compare

/-! ## The loop -/

section Search

variable {memory : Bytes} {searchBase searchSize pattern patternSize i : BitVec 64}

/-- The offset never overflows : the last one of all is only tried for an empty pattern. -/
theorem toNat_succ_of_not_found (h : patternSize ≤ searchSize)
    (hi : i ≤ searchSize - patternSize)
    (hcall : rtlCompareMemory memory ⟨pattern, searchBase + i, patternSize⟩ ≠ patternSize) :
    (i + 1).toNat = i.toNat + 1 := by
  have hne : patternSize.toNat ≠ 0 := fun hzero =>
    hcall ((rtlCompareMemory_eq_length memory (c := ⟨_, _, patternSize⟩)).2 fun k hk =>
      absurd (hk.trans_eq hzero) (Nat.not_lt_zero k))
  bv_omega

variable (memory searchBase searchSize pattern patternSize)

/-- The loop of `UtilMemMem` from offset `i` on : the calls it makes, and what it returns. -/
def utilMemMemLoop (h : patternSize ≤ searchSize) (i : BitVec 64) :
    List CompareCall × Option (BitVec 64) :=
  if hi : i ≤ searchSize - patternSize then
    let call : CompareCall := ⟨pattern, searchBase + i, patternSize⟩
    if hcall : rtlCompareMemory memory call = patternSize then
      ([call], some (searchBase + i))
    else
      let rest := utilMemMemLoop h (i + 1)
      (call :: rest.1, rest.2)
  else ([], none)
termination_by 2 ^ 64 - i.toNat
decreasing_by
  have hsucc := toNat_succ_of_not_found h hi hcall
  omega

/-- `UtilMemMem`, with the calls to `RtlCompareMemory` it makes. -/
def utilMemMem : List CompareCall × Option (BitVec 64) :=
  if h : patternSize ≤ searchSize then
    utilMemMemLoop memory searchBase searchSize pattern patternSize h 0
  else ([], none)

/-- The pattern lies at offset `i` of the buffer. -/
def OccursAt (i : ℕ) : Prop :=
  i + patternSize.toNat ≤ searchSize.toNat ∧ ∀ k < patternSize.toNat,
    memory (searchBase + BitVec.ofNat 64 (i + k)) = memory (pattern + BitVec.ofNat 64 k)

variable {memory searchBase searchSize pattern patternSize}

theorem le_sub_iff (h : patternSize ≤ searchSize) : i ≤ searchSize - patternSize ↔
    i.toNat + patternSize.toNat ≤ searchSize.toNat := by
  bv_omega

/-- A call at an offset inside tells whether the pattern lies there. -/
theorem rtlCompareMemory_eq_iff_occursAt (h : patternSize ≤ searchSize)
    (hi : i ≤ searchSize - patternSize) :
    rtlCompareMemory memory ⟨pattern, searchBase + i, patternSize⟩ = patternSize ↔
      OccursAt memory searchBase searchSize pattern patternSize i.toNat := by
  have hplace : ∀ k, searchBase + i + BitVec.ofNat 64 k =
      searchBase + BitVec.ofNat 64 (i.toNat + k) := by
    intro k
    rw [BitVec.ofNat_add, BitVec.ofNat_toNat, BitVec.setWidth_eq, BitVec.add_assoc]
  rw [rtlCompareMemory_eq_length memory (c := ⟨pattern, searchBase + i, patternSize⟩), OccursAt,
    and_iff_right ((le_sub_iff h).1 hi)]
  simp only [hplace, eq_comm]

variable (h : patternSize ≤ searchSize)

/-- Each call stays within the buffer and the pattern. -/
theorem reads_utilMemMemLoop : ∀ c ∈ (utilMemMemLoop memory searchBase searchSize pattern
    patternSize h i).1, ∀ a, c.Reads a →
      InBuffer searchBase searchSize a ∨ InBuffer pattern patternSize a := by
  have hcall : ∀ i ≤ searchSize - patternSize, ∀ a,
      CompareCall.Reads ⟨pattern, searchBase + i, patternSize⟩ a →
        InBuffer searchBase searchSize a ∨ InBuffer pattern patternSize a := by
    rintro i hi a (ha | ha)
    · exact Or.inr ha
    · refine Or.inl ?_
      unfold InBuffer at ha ⊢
      bv_omega
  fun_induction utilMemMemLoop memory searchBase searchSize pattern patternSize h i with
  | case1 i hi call _ =>
    intro c hc
    rw [List.mem_singleton.1 hc]
    exact hcall i hi
  | case2 i hi call _ rest ih =>
    rintro c (_ | ⟨_, hc⟩)
    · exact hcall i hi
    · exact ih c hc
  | case3 => simp

/-- As many calls as there are places left, at most. -/
theorem length_utilMemMemLoop : (utilMemMemLoop memory searchBase searchSize pattern patternSize h
    i).1.length ≤ searchSize.toNat - patternSize.toNat + 1 - i.toNat := by
  fun_induction utilMemMemLoop memory searchBase searchSize pattern patternSize h i with
  | case1 i hi =>
    have := (le_sub_iff h).1 hi
    simp only [List.length_singleton]
    omega
  | case2 i hi call hcall rest ih =>
    have := (le_sub_iff h).1 hi
    have hsucc := toNat_succ_of_not_found h hi hcall
    have hrest : rest.1.length ≤ searchSize.toNat - patternSize.toNat + 1 - (i + 1).toNat := ih
    simp only [List.length_cons]
    omega
  | case3 => simp

/-- What the loop finds is the first place from `i` on. -/
theorem utilMemMemLoop_some {p : BitVec 64}
    (hp : (utilMemMemLoop memory searchBase searchSize pattern patternSize h i).2 = some p) :
    ∃ j, p = searchBase + BitVec.ofNat 64 j ∧ IsLeast {j | i.toNat ≤ j ∧
      OccursAt memory searchBase searchSize pattern patternSize j} j := by
  fun_induction utilMemMemLoop memory searchBase searchSize pattern patternSize h i with
  | case1 i hi call hcall =>
    have hoccurs := (rtlCompareMemory_eq_iff_occursAt h hi).1 hcall
    obtain rfl := Option.some.inj hp
    refine ⟨i.toNat, by rw [BitVec.ofNat_toNat, BitVec.setWidth_eq], ⟨le_rfl, hoccurs⟩, ?_⟩
    exact fun j hj => hj.1
  | case2 i hi call hcall rest ih =>
    obtain ⟨j, hj, ⟨hle, hoccurs⟩, hleast⟩ := ih hp
    have hsucc := toNat_succ_of_not_found h hi hcall
    refine ⟨j, hj, ⟨by omega, hoccurs⟩, fun k ⟨hk, hkoccurs⟩ => hleast ⟨?_, hkoccurs⟩⟩
    -- the place tried last is not one
    have hne : k ≠ i.toNat := by
      rintro rfl
      exact hcall ((rtlCompareMemory_eq_iff_occursAt h hi).2 hkoccurs)
    omega
  | case3 => cases hp

/-- The loop gives up only without a place from `i` on. -/
theorem utilMemMemLoop_none
    (hnone : (utilMemMemLoop memory searchBase searchSize pattern patternSize h i).2 = none) :
    ∀ j, i.toNat ≤ j → ¬OccursAt memory searchBase searchSize pattern patternSize j := by
  fun_induction utilMemMemLoop memory searchBase searchSize pattern patternSize h i with
  | case1 => cases hnone
  | case2 i hi call hcall rest ih =>
    intro j hj hoccurs
    have hsucc := toNat_succ_of_not_found h hi hcall
    obtain rfl | hlt := hj.eq_or_lt
    · exact hcall ((rtlCompareMemory_eq_iff_occursAt h hi).2 hoccurs)
    · exact ih hnone j (by omega) hoccurs
  | case3 i hi =>
    rintro j hj ⟨hin, -⟩
    exact hi ((le_sub_iff h).2 (by omega))

end Search

/-! ## First occurrences -/

section First

variable (memory : Bytes) (searchBase searchSize pattern patternSize : BitVec 64)

theorem utilMemMem_some {i : ℕ}
    (hi : IsLeast {j | OccursAt memory searchBase searchSize pattern patternSize j} i) :
    (utilMemMem memory searchBase searchSize pattern patternSize).2 =
      some (searchBase + BitVec.ofNat 64 i) := by
  have h : patternSize ≤ searchSize := (Nat.le_add_left _ _).trans hi.1.1
  rw [utilMemMem, dif_pos h]
  cases hr : (utilMemMemLoop memory searchBase searchSize pattern patternSize h 0).2 with
  | none => exact absurd hi.1 (utilMemMemLoop_none h hr i (Nat.zero_le i))
  | some p =>
    obtain ⟨j, rfl, hj, hleast⟩ := utilMemMemLoop_some h hr
    rw [(hi.2 hj.2).antisymm (hleast ⟨Nat.zero_le i, hi.1⟩)]

theorem utilMemMem_none
    (hnone : ∀ i, ¬OccursAt memory searchBase searchSize pattern patternSize i) :
    (utilMemMem memory searchBase searchSize pattern patternSize).2 = none := by
  rw [utilMemMem]
  split_ifs with h
  · refine Option.eq_none_iff_forall_not_mem.2 fun p hp => ?_
    obtain ⟨j, -, hj, -⟩ := utilMemMemLoop_some h hp
    exact hnone j hj.2
  · rfl

end First

/-- The search makes finitely many calls, none of which reads outside the buffer and the pattern,
and returns the first place of the pattern, if there is one. -/
theorem utilMemMem_first (memory : Bytes)
    (searchBase searchSize pattern patternSize : BitVec 64) :
    let r := utilMemMem memory searchBase searchSize pattern patternSize
    r.1.length ≤ searchSize.toNat - patternSize.toNat + 1 ∧
      (∀ c ∈ r.1, ∀ a, c.Reads a →
        InBuffer searchBase searchSize a ∨ InBuffer pattern patternSize a) ∧
      (∀ i, IsLeast {j | OccursAt memory searchBase searchSize pattern patternSize j} i →
        r.2 = some (searchBase + BitVec.ofNat 64 i)) ∧
      ((∀ i, ¬OccursAt memory searchBase searchSize pattern patternSize i) → r.2 = none) := by
  refine ⟨?_, ?_, fun i hi => utilMemMem_some memory _ _ _ _ hi, utilMemMem_none memory _ _ _ _⟩
  · rw [utilMemMem]
    split_ifs with h
    · exact length_utilMemMemLoop h
    · exact Nat.zero_le _
  · rw [utilMemMem]
    split_ifs with h
    · exact reads_utilMemMemLoop h
    · exact List.forall_mem_nil _

/-! ## The base of the PTEs -/

/-- `kPatternWin10x64` : two instructions, and a third up to its operand. -/
def kPatternWin10x64 : List (BitVec 8) :=
  [0x48, 0x8b, 0x04, 0xd0, 0x48, 0xc1, 0xe0, 0x19, 0x48, 0xba]

section PteBase

variable (memory : Bytes) (p_MmGetVirtualForPhysical pattern : BitVec 64)

/-- A `ULONG_PTR` in memory. -/
def readUlongPtr (a : BitVec 64) : BitVec 64 :=
  memory (a + 7) ++ memory (a + 6) ++ memory (a + 5) ++ memory (a + 4) ++
    memory (a + 3) ++ memory (a + 2) ++ memory (a + 1) ++ memory a

/-- Where `UtilpInitializePageTableVariables` gets the base of the PTEs from, `pattern` being the
place of `kPatternWin10x64`. -/
def utilpFindPteBase : Option (BitVec 64) :=
  match (utilMemMem memory p_MmGetVirtualForPhysical 0x30 pattern
      (BitVec.ofNat 64 kPatternWin10x64.length)).2 with
  | none => none
  | some found => some (readUlongPtr memory (found + BitVec.ofNat 64 kPatternWin10x64.length))

/-- The bytes of the pattern are at offset `i` of the function. -/
def IsPteBaseLoad (i : ℕ) : Prop :=
  i + 10 ≤ 0x30 ∧ ∀ k (hk : k < 10),
    memory (p_MmGetVirtualForPhysical + BitVec.ofNat 64 (i + k)) = kPatternWin10x64.get ⟨k, hk⟩

/-- The base is the operand of the first load of one. -/
theorem utilpFindPteBase_eq {i : ℕ}
    (hpattern : ∀ k (hk : k < 10),
      memory (pattern + BitVec.ofNat 64 k) = kPatternWin10x64.get ⟨k, hk⟩)
    (hi : IsLeast {j | IsPteBaseLoad memory p_MmGetVirtualForPhysical j} i) :
    utilpFindPteBase memory p_MmGetVirtualForPhysical pattern =
      some (readUlongPtr memory (p_MmGetVirtualForPhysical + BitVec.ofNat 64 i + 10)) := by
  have hiff : ∀ j, OccursAt memory p_MmGetVirtualForPhysical 0x30 pattern 10 j ↔
      IsPteBaseLoad memory p_MmGetVirtualForPhysical j := fun j =>
    and_congr_right fun _ => forall₂_congr fun k hk => by rw [hpattern k hk]
  have hleast : IsLeast {j | OccursAt memory p_MmGetVirtualForPhysical 0x30 pattern 10 j} i := by
    simpa only [hiff] using hi
  have hfound := utilMemMem_some memory p_MmGetVirtualForPhysical 0x30 pattern 10 hleast
  rw [utilpFindPteBase, show BitVec.ofNat 64 kPatternWin10x64.length = 10 from rfl, hfound]

end PteBase

end DeviceMon
