import DeviceMon.EptTree

/-!
# Guest pages

The tables read page by page. A page number is the 36 bits of an address above the
offset, and its four 9-bit parts are the indices of the walk, so the walk for an
address depends on its page alone (`eptGetEptPtEntry_eq`) and two pages never share a
slot. `EptState.leaf` is the entry the walk of the code finds for a page.

`EptReady` is what a processor's tables satisfy from start-up on. The lemmas about it
say what the rest of the driver does in these terms : a write through a slot changes
one leaf (`EptReady.write_slot`), mapping a page initializes its leaf or fails on a
refused allocation (`EptReady.map_spec`).
-/

namespace DeviceMon

/-! ## Addresses -/

/-- Number of a guest page. -/
abbrev Page := BitVec 36

/-- The page an address below `2 ^ 48` lies in. Higher bits do not reach the tables. -/
def pageOf (pa : BitVec 64) : Page :=
  pa.extractLsb' 12 36

/-- The first address of a page. -/
def pageAddr (p : Page) : BitVec 64 :=
  p.setWidth 64 <<< 12

/-- The indices above the leaf table. -/
def pagePath (p : Page) : List TableIndex :=
  [p.extractLsb' 27 9, p.extractLsb' 18 9, p.extractLsb' 9 9]

/-- The index in the leaf table. -/
def pageIndex (p : Page) : TableIndex :=
  p.extractLsb' 0 9

@[simp] theorem length_pagePath (p : Page) : (pagePath p).length = 3 :=
  rfl

theorem toNat_pageOf (pa : BitVec 64) : (pageOf pa).toNat = pa.toNat / 4096 % 2 ^ 36 := by
  simp [pageOf, Nat.shiftRight_eq_div_pow]

theorem toNat_pageAddr (p : Page) : (pageAddr p).toNat = p.toNat * 4096 := by
  have := p.isLt
  simp only [pageAddr, BitVec.toNat_shiftLeft, BitVec.toNat_setWidth, Nat.shiftLeft_eq]
  omega

@[simp] theorem pageOf_pageAddr (p : Page) : pageOf (pageAddr p) = p := by
  have := p.isLt
  refine BitVec.eq_of_toNat_eq ?_
  rw [toNat_pageOf, toNat_pageAddr]
  omega

theorem toNat_index (pa : BitVec 64) (n : ℕ) :
    (((pa >>> n) &&& kEptpPtxMask).setWidth 9).toNat = pa.toNat / 2 ^ n % 512 := by
  rw [BitVec.toNat_setWidth, toNat_shiftRight_and pa n 9 rfl]
  omega

/-- An index of the walk is a part of the page number. -/
theorem index_eq_extract (pa : BitVec 64) (n : ℕ) (hn : n ≤ 27) :
    ((pa >>> (n + 12)) &&& kEptpPtxMask).setWidth 9 = (pageOf pa).extractLsb' n 9 := by
  refine BitVec.eq_of_toNat_eq ?_
  rw [toNat_index, BitVec.extractLsb'_toNat, toNat_pageOf, Nat.shiftRight_eq_div_pow, pow_add,
    Nat.mul_comm, ← Nat.div_div_eq_div_mul]
  have hsplit : (2 : ℕ) ^ 36 = 2 ^ n * 2 ^ (36 - n) := by rw [← pow_add]; congr 1; omega
  have hpow : (2 : ℕ) ^ (36 - n) = 2 ^ 9 * 2 ^ (27 - n) := by rw [← pow_add]; congr 1; omega
  rw [hsplit, Nat.mod_mul_right_div_self, hpow, Nat.mod_mul_right_mod]
  rfl

theorem tablePath_eq (pa : BitVec 64) : tablePath pa 4 = pagePath (pageOf pa) := by
  have h4 := index_eq_extract pa 27 (by omega)
  have h3 := index_eq_extract pa 18 (by omega)
  have h2 := index_eq_extract pa 9 (by omega)
  simp only [tablePath, pagePath, List.cons.injEq, and_true]
  exact ⟨h4, h3, h2⟩

theorem tableIndex_leaf (pa : BitVec 64) : tableIndex 1 pa = pageIndex (pageOf pa) :=
  index_eq_extract pa 0 (by omega)

/-- The indices determine the page. -/
theorem page_ext {p q : Page} (hpath : pagePath p = pagePath q) (hidx : pageIndex p = pageIndex q) :
    p = q := by
  simp only [pagePath, List.cons.injEq, and_true] at hpath
  obtain ⟨h1, h2, h3⟩ := hpath
  have e1 := congrArg BitVec.toNat h1
  have e2 := congrArg BitVec.toNat h2
  have e3 := congrArg BitVec.toNat h3
  have e4 := congrArg BitVec.toNat hidx
  simp only [pageIndex, BitVec.extractLsb'_toNat, Nat.shiftRight_eq_div_pow] at e1 e2 e3 e4
  have := p.isLt
  have := q.isLt
  refine BitVec.eq_of_toNat_eq ?_
  omega

/-! ## Leaves -/

/-- The leaf the walk of the code finds for an address below a PML4, zero if it finds none. -/
def walkedLeaf (s : EptState) (root : Frame) (pa : BitVec 64) : EptCommonEntry :=
  match eptpGetEptPtEntry s 4 root pa with
  | some ptr => s.read ptr
  | none => .zero

namespace EptState

/-- The leaf entry of a page, zero if the walk finds none. -/
def leaf (s : EptState) (p : Page) : EptCommonEntry :=
  match eptGetEptPtEntry s (pageAddr p) with
  | some ptr => s.read ptr
  | none => .zero

end EptState

open EptState

/-- Tables in use : well formed, with a full array of preallocated tables. -/
structure EptReady (s : EptState) : Prop where
  wf : EptWF s.data.eptPml4 s
  full : s.data.preallocatedEntries.length = kEptpNumberOfPreallocatedEntries

section Pages

variable {s s' : EptState} {ptr : EntryPtr} {pa pa' : BitVec 64} {p : Page}

/-- The walk of the code is the walk of the tree : tables in it are not null. -/
theorem getEptPtEntry_eq_follow {P : EptCommonEntry → Prop} {root : Frame}
    (hw : EptTables P root s) (pa : BitVec 64) :
    ∀ (level : ℕ) {q : List TableIndex} {table : Frame}, q.length + (level + 1) = 4 →
      s.walk root q = some table →
      eptpGetEptPtEntry s (level + 1) table pa =
        (Radix.follow nextTable s.heap.table table (tablePath pa (level + 1))).map
          fun f => (f, tableIndex 1 pa)
  | 0, q, table, hq, hg => by
    have hne : table ≠ 0 := hw.reached_ne_zero (by omega) hg
    rw [eptpGetEptPtEntry, if_neg hne]
    rfl
  | level + 1, q, table, hq, hg => by
    have hne : table ≠ 0 := hw.reached_ne_zero (by omega) hg
    rw [eptpGetEptPtEntry, if_neg hne, if_neg (by omega), tablePath, Radix.follow]
    by_cases hz : (s.read (table, tableIndex (level + 2) pa)).all = 0
    · have hnone : nextTable (s.heap.table table (tableIndex (level + 2) pa)) = none :=
        nextTable_eq_none hz
      rw [hnone]
      simp only [hz, if_true, Option.bind_none, Option.map_none]
    · have hsome := nextTable_of_ne hz
      have hrec :=
        getEptPtEntry_eq_follow hw pa level (by simp; omega) (EptState.walk_snoc hg hz)
      rw [EptState.read] at hsome
      simp only [hz, if_false, hrec]
      rw [hsome]
      rfl

/-- The slot of an address below a PML4 is the one its page selects. -/
theorem eptpGetEptPtEntry_eq {P : EptCommonEntry → Prop} {root : Frame}
    (hw : EptTables P root s) (pa : BitVec 64) : eptpGetEptPtEntry s 4 root pa =
      (s.walk root (pagePath (pageOf pa))).map fun f => (f, pageIndex (pageOf pa)) := by
  rw [getEptPtEntry_eq_follow hw pa 3 (q := []) rfl rfl, tablePath_eq, tableIndex_leaf]
  rfl

theorem eptGetEptPtEntry_eq (h : EptReady s) (pa : BitVec 64) :
    eptGetEptPtEntry s pa =
      (s.walk s.data.eptPml4 (pagePath (pageOf pa))).map fun f => (f, pageIndex (pageOf pa)) :=
  eptpGetEptPtEntry_eq h.wf pa

theorem walkedLeaf_eq {P : EptCommonEntry → Prop} {root : Frame} (hw : EptTables P root s)
    (pa : BitVec 64) : walkedLeaf s root pa =
      s.leafEntry root (pagePath (pageOf pa)) (pageIndex (pageOf pa)) := by
  rw [walkedLeaf, eptpGetEptPtEntry_eq hw]
  cases hf : s.walk root (pagePath (pageOf pa)) with
  | none => exact (leafEntry_of_walk_none hf _).symm
  | some f => exact (leafEntry_of_walk hf _).symm

theorem leaf_eq_leafEntry (h : EptReady s) (p : Page) :
    s.leaf p = s.leafEntry s.data.eptPml4 (pagePath p) (pageIndex p) := by
  have hleaf := walkedLeaf_eq h.wf (pageAddr p)
  rw [pageOf_pageAddr] at hleaf
  exact hleaf

/-- What a slot holds is the leaf of its page. -/
theorem EptReady.read_slot (h : EptReady s) (hptr : eptGetEptPtEntry s pa = some ptr) :
    s.read ptr = s.leaf (pageOf pa) := by
  rw [EptState.leaf, eptGetEptPtEntry_eq h, pageOf_pageAddr, ← eptGetEptPtEntry_eq h, hptr]

/-- A page without a slot has no leaf. -/
theorem EptReady.leaf_of_none (h : EptReady s) (hn : eptGetEptPtEntry s pa = none) :
    s.leaf (pageOf pa) = .zero := by
  rw [EptState.leaf, eptGetEptPtEntry_eq h, pageOf_pageAddr, ← eptGetEptPtEntry_eq h, hn]

/-- Addresses of one page have one slot. -/
theorem EptReady.slot_congr (h : EptReady s) (hp : pageOf pa = pageOf pa') :
    eptGetEptPtEntry s pa = eptGetEptPtEntry s pa' := by
  rw [eptGetEptPtEntry_eq h, eptGetEptPtEntry_eq h, hp]

/-- A slot belongs to one page. -/
theorem EptReady.slot_page (h : EptReady s) (hptr : eptGetEptPtEntry s pa = some ptr)
    (hptr' : eptGetEptPtEntry s pa' = some ptr) : pageOf pa = pageOf pa' := by
  rw [eptGetEptPtEntry_eq h] at hptr hptr'
  obtain ⟨f, hf, rfl⟩ := Option.map_eq_some_iff.1 hptr
  obtain ⟨g, hg, heq⟩ := Option.map_eq_some_iff.1 hptr'
  obtain ⟨rfl, hidx⟩ := Prod.mk.inj heq
  exact page_ext (h.wf.tree _ _ _ (by simp) (by simp) hf hg) hidx.symm

/-- A write through a slot changes the leaf of its page and nothing else. -/
theorem EptReady.write_slot (h : EptReady s) (hptr : eptGetEptPtEntry s pa = some ptr)
    (e : EptCommonEntry) :
    EptReady (s.write ptr e) ∧
      (∀ pa', eptGetEptPtEntry (s.write ptr e) pa' = eptGetEptPtEntry s pa') ∧
      ∀ p, (s.write ptr e).leaf p = if p = pageOf pa then e else s.leaf p := by
  rw [eptGetEptPtEntry_eq h] at hptr
  obtain ⟨f, hf, rfl⟩ := Option.map_eq_some_iff.1 hptr
  obtain ⟨hw, hwalk, hleaf⟩ := write_leaf_spec h.wf hf (length_pagePath _)
    (pageIndex (pageOf pa)) e
  have hready : EptReady (s.write (f, pageIndex (pageOf pa)) e) := ⟨hw, h.full⟩
  refine ⟨hready, fun pa' => ?_, fun p => ?_⟩
  · rw [eptGetEptPtEntry_eq hready, eptGetEptPtEntry_eq h]
    exact congrArg _ (hwalk (length_pagePath _).le)
  · rw [leaf_eq_leafEntry hready, leaf_eq_leafEntry h]
    refine (hleaf (length_pagePath p) _).trans ?_
    by_cases hp : p = pageOf pa
    · rw [if_pos hp, if_pos ⟨by rw [hp], by rw [hp]⟩]
    · rw [if_neg hp, if_neg fun h' => hp (page_ext h'.1 h'.2)]

/-! ## Steps -/

/-- A step of the driver : the tables stay ready, no slot moves, and no refusal is undone. -/
structure Keeps (s s' : EptState) : Prop where
  ready : EptReady s'
  slot : ∀ {pa ptr}, eptGetEptPtEntry s pa = some ptr → eptGetEptPtEntry s' pa = some ptr
  refused : s.heap.refused ≤ s'.heap.refused

theorem Keeps.refl (h : EptReady s) : Keeps s s :=
  ⟨h, id, le_rfl⟩

theorem Keeps.trans {s'' : EptState} (h : Keeps s s') (h' : Keeps s' s'') : Keeps s s'' :=
  ⟨h'.ready, fun hp => h'.slot (h.slot hp), h.refused.trans h'.refused⟩

/-- A write through a slot is a step. -/
theorem EptReady.keeps_write (h : EptReady s) (hptr : eptGetEptPtEntry s pa = some ptr)
    (e : EptCommonEntry) : Keeps s (s.write ptr e) := by
  obtain ⟨hready, hslot, -⟩ := h.write_slot hptr e
  exact ⟨hready, fun hp => (hslot _).trans hp, le_rfl⟩

/-! ## Mapping a page -/

/-- A fresh leaf maps its page to the frame of the same number. -/
@[simp] theorem init_physialAddress (mtrr : Mtrr) (e : EptCommonEntry) (level : ℕ)
    (pa : BitVec 64) : (eptpInitTableEntry mtrr e level pa).physialAddress = pageOf pa := by
  refine BitVec.eq_of_toNat_eq ?_
  simp [eptpInitTableEntry, utilPfnFromPa, pageOf]

/-- Outcome `r` of mapping the page of `pa`. -/
structure Mapped (mtrr : Mtrr) (pa : BitVec 64) (s : EptState) (r : Option EntryPtr × EptState) :
    Prop where
  keeps : Keeps s r.2
  mapped : ∀ {ptr}, r.1 = some ptr → eptGetEptPtEntry r.2 pa = some ptr ∧
    ∀ p, r.2.leaf p =
      if p = pageOf pa then eptpInitTableEntry mtrr (s.leaf p) 1 pa else s.leaf p
  failed : r.1 = none → (∀ p, r.2.leaf p = s.leaf p) ∧ s.heap.refused < r.2.heap.refused

/-- Mapping keeps the tables ready, initializes one leaf, and fails only if the pool did. -/
theorem EptReady.map_spec (pool : Pool) (mtrr : Mtrr) (h : EptReady s) (pa : BitVec 64) :
    Mapped mtrr pa s (eptpMapGpaToHpa pool mtrr pa s) := by
  have hc : Constructed s.data.eptPml4 mtrr true (pagePath (pageOf pa)) (pageIndex (pageOf pa))
      pa s (eptpMapGpaToHpa pool mtrr pa s) := by
    rw [← tablePath_eq, ← tableIndex_leaf]
    exact construct_spec_aux pool mtrr true pa 4 (q := []) rfl (by omega) h.wf rfl
  set r := eptpMapGpaToHpa pool mtrr pa s with hr
  have hready : EptReady r.2 :=
    ⟨by rw [hc.pml4]; exact hc.wf, by rw [hc.preallocated]; exact h.full⟩
  have hleaf : ∀ p, r.2.leaf p = r.2.leafEntry s.data.eptPml4 (pagePath p) (pageIndex p) := by
    intro p
    rw [leaf_eq_leafEntry hready, hc.pml4]
  have hother : ∀ p, p ≠ pageOf pa → r.2.leaf p = s.leaf p := by
    intro p hp
    rw [hleaf, leaf_eq_leafEntry h]
    exact hc.other (length_pagePath p) _ fun h' => hp (page_ext h'.1 h'.2)
  refine ⟨⟨hready, ?_, hc.refused⟩, ?_, ?_⟩
  · intro pa' ptr hptr
    rw [eptGetEptPtEntry_eq h] at hptr
    obtain ⟨f, hf, rfl⟩ := Option.map_eq_some_iff.1 hptr
    rw [eptGetEptPtEntry_eq hready, hc.pml4, hc.walk (length_pagePath _).le hf]
    rfl
  · rintro ⟨f, i⟩ hptr
    obtain ⟨hi, hf, he⟩ := hc.mapped hptr
    obtain rfl : i = pageIndex (pageOf pa) := hi
    refine ⟨?_, fun p => ?_⟩
    · rw [eptGetEptPtEntry_eq hready, hc.pml4, hf]
      rfl
    · by_cases hp : p = pageOf pa
      · rw [if_pos hp, hp, hleaf, he, leaf_eq_leafEntry h]
      · rw [if_neg hp, hother p hp]
  · intro hn
    refine ⟨fun p => ?_, hc.refuses hn fun _ => h.full⟩
    by_cases hp : p = pageOf pa
    · rw [hp, hleaf, hc.failed hn, leaf_eq_leafEntry h]
    · exact hother p hp

/-- Linking a table while there are spare ones asks the pool for nothing. -/
theorem link_of_spare (pool : Pool) (mtrr : Mtrr) (level : ℕ) (ptr : EntryPtr)
    (hc : s.data.preallocatedEntriesCount < kEptpNumberOfPreallocatedEntries) :
    (eptpLinkTable pool mtrr true level ptr s).2.heap.refused = s.heap.refused ∧
      (eptpLinkTable pool mtrr true level ptr s).2.data.preallocatedEntriesCount ≤
        s.data.preallocatedEntriesCount + 1 := by
  unfold eptpLinkTable
  split_ifs
  · have halloc : (eptpAllocateEptEntry pool true s).2 = { s with data := { s.data with
        preallocatedEntriesCount := s.data.preallocatedEntriesCount + 1 } } := by
      simp only [eptpAllocateEptEntry, if_true, eptpAllocateEptEntryFromPreAllocated]
      rw [if_neg (by omega)]
    generalize eptpAllocateEptEntry pool true s = r at halloc ⊢
    obtain ⟨t, s₁⟩ := r
    obtain rfl : s₁ = _ := halloc
    cases t <;> exact ⟨rfl, le_rfl⟩
  · exact ⟨rfl, Nat.le_succ _⟩

theorem construct_of_spare (pool : Pool) (mtrr : Mtrr) (pa : BitVec 64) :
    ∀ (level : ℕ) (table : Frame) (s : EptState),
      s.data.preallocatedEntriesCount + level ≤ kEptpNumberOfPreallocatedEntries + 1 →
      (eptpConstructTables pool mtrr true level table pa s).2.heap.refused = s.heap.refused
  | 0, _, _, _ => rfl
  | 1, _, _, _ => rfl
  | level + 2, table, s, hc => by
    obtain ⟨hr, hn⟩ := link_of_spare pool mtrr (level + 2) (table, tableIndex (level + 2) pa)
      (s := s) (by omega)
    rw [eptpConstructTables]
    split_ifs
    · rfl
    · cases h : eptpLinkTable pool mtrr true (level + 2) (table, tableIndex (level + 2) pa) s with
      | mk ok s₁ =>
        rw [h] at hr hn
        simp only [h]
        cases ok with
        | false => exact hr
        | true =>
          exact (construct_of_spare pool mtrr pa (level + 1) _ s₁
            (by simp only at hn; omega)).trans hr

/-- With three spare tables left a mapping succeeds. -/
theorem EptReady.map_of_spare (pool : Pool) (mtrr : Mtrr) (h : EptReady s) (pa : BitVec 64)
    (hc : s.data.preallocatedEntriesCount + 3 ≤ kEptpNumberOfPreallocatedEntries) :
    ∃ ptr, (eptpMapGpaToHpa pool mtrr pa s).1 = some ptr := by
  have hm := h.map_spec pool mtrr pa
  have hr : (eptpMapGpaToHpa pool mtrr pa s).2.heap.refused = s.heap.refused :=
    construct_of_spare pool mtrr pa 4 s.data.eptPml4 s (by omega)
  cases hs : (eptpMapGpaToHpa pool mtrr pa s).1 with
  | some ptr => exact ⟨ptr, rfl⟩
  | none =>
    have hlt := (hm.failed hs).2
    omega

/-! ## What the processor allows -/

/-- Whether all entries of the processor's walk for `pa` have a permission. -/
def eptAllows (permission : EptCommonEntry → Bool) (s : EptState) : ℕ → Frame → BitVec 64 → Bool
  | 0, _, _ => true
  | level + 1, table, pa =>
    let e := s.read (table, tableIndex (level + 1) pa)
    permission e && eptAllows permission s level (utilVaFromPfn e.physialAddress) pa

theorem eptAllows_eq_follow {permission : EptCommonEntry → Bool}
    (hz : permission .zero = false) (ho : ∀ e, e.Open → permission e = true) {root : Frame}
    (hw : EptWF root s) (pa : BitVec 64) :
    ∀ (level : ℕ) {q : List TableIndex} {table : Frame}, q.length + (level + 1) = 4 →
      s.walk root q = some table →
      eptAllows permission s (level + 1) table pa =
        permission ((Radix.entry nextTable s.heap.table table (tablePath pa (level + 1))
          (tableIndex 1 pa)).getD .zero)
  | 0, q, table, hq, hg => by simp [eptAllows, tablePath, Radix.entry, EptState.read]
  | level + 1, q, table, hq, hg => by
    rw [eptAllows, tablePath, Radix.entry, Radix.follow]
    by_cases hzero : (s.read (table, tableIndex (level + 2) pa)).all = 0
    · have hnone : nextTable (s.heap.table table (tableIndex (level + 2) pa)) = none :=
        nextTable_eq_none hzero
      rw [hnone, (EptCommonEntry.all_eq_zero_iff _).1 hzero]
      simp [hz]
    · have hsome := nextTable_of_ne hzero
      have hrec :=
        eptAllows_eq_follow hz ho hw pa level (by simp; omega) (EptState.walk_snoc hg hzero)
      have hopen := hw.inner (by omega) hg (tableIndex (level + 2) pa) hzero
      rw [EptState.read] at hsome
      simp only [EptState.read] at hrec ⊢
      rw [ho _ hopen, Bool.true_and, hrec, hsome]
      rfl

/-- The tables above a leaf restrict nothing : the leaf decides. -/
theorem EptReady.allows_eq {permission : EptCommonEntry → Bool} (h : EptReady s)
    (hz : permission .zero = false) (ho : ∀ e, e.Open → permission e = true) (pa : BitVec 64) :
    eptAllows permission s 4 s.data.eptPml4 pa = permission (s.leaf (pageOf pa)) := by
  rw [leaf_eq_leafEntry h, eptAllows_eq_follow hz ho h.wf pa 3 (q := []) rfl rfl, tablePath_eq,
    tableIndex_leaf]
  rfl

end Pages

end DeviceMon
