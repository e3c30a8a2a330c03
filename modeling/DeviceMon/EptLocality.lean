import DeviceMon.EptOwnership
import DeviceMon.LeafInvariant
import Mathlib.Logic.Relation

/-!
# The tables of several processors

Each processor has tables of its own, all in one heap. `Uses` are the frames of its tree and
its spare tables. What the driver does to the tables of a processor comes down to two
operations, mapping an address and writing through a slot (`EptOps`). Both stay local : of
the pages in use they take none and change only those of the processor (`Local`). So they
leave the tables of the other processors as they are (`Local.ready`).
-/

namespace DeviceMon

open EptState

/-! ## Local steps -/

/-- The frame is in the tree or among the spare tables. -/
def Uses (root : Frame) (s : EptState) (f : Frame) : Prop :=
  (∃ p, p.length ≤ 3 ∧ s.walk root p = some f) ∨ f ∈ s.spare

/-- Pages in use stay in use. Of these `s'` uses and changes none that `s` does not use. -/
structure Local (root : Frame) (s s' : EptState) : Prop where
  live : ∀ {b}, b ∈ s.heap.live → b ∈ s'.heap.live
  table : ∀ {f}, .page f ∈ s.heap.live → ¬Uses root s f → s'.heap.table f = s.heap.table f
  uses : ∀ {f}, .page f ∈ s.heap.live → Uses root s' f → Uses root s f

section Local

variable {root : Frame} {s s' s'' : EptState} (pool : Pool) (mtrr : Mtrr)

theorem Local.refl (s : EptState) : Local root s s :=
  ⟨id, fun _ _ => rfl, fun _ => id⟩

theorem Local.trans (h : Local root s s') (h' : Local root s' s'') : Local root s s'' := by
  refine ⟨fun hb => h'.live (h.live hb), fun hf hn => ?_, fun hf hu => ?_⟩
  · rw [h'.table (h.live hf) fun hu => hn (h.uses hf hu), h.table hf hn]
  · exact h.uses hf (h'.uses (h.live hf) hu)

/-- Frames in use are held. -/
theorem EptWF.uses_live (hw : EptWF root s) {f : Frame} (hf : Uses root s f) :
    .page f ∈ s.heap.live := by
  rcases hf with ⟨p, hp, hwalk⟩ | hspare
  · exact hw.reached_live hp hwalk
  · exact hw.spare_live hspare

/-- Walks that only pass tables left alone are the same. -/
theorem EptWF.walk_congr (hw : EptWF root s)
    (ht : ∀ f, .page f ∈ s.heap.live → s'.heap.table f = s.heap.table f) {p : List TableIndex}
    (hp : p.length ≤ 3) : s'.walk root p = s.walk root p := by
  refine Radix.follow_congr fun q i r g hq hg => ?_
  have hlen : q.length ≤ 3 := by
    rw [hq, List.length_append] at hp
    omega
  rw [ht g (hw.reached_live hlen hg)]

/-- A step that changes no table in use. -/
theorem Local.of_table (hw : EptWF root s) (hlive : ∀ {b}, b ∈ s.heap.live → b ∈ s'.heap.live)
    (ht : ∀ f, .page f ∈ s.heap.live → s'.heap.table f = s.heap.table f)
    (hspare : ∀ {f}, f ∈ s'.spare → f ∈ s.spare) : Local root s s' := by
  refine ⟨hlive, fun hf _ => ht _ hf, fun _ hu => ?_⟩
  rcases hu with ⟨p, hp, hwalk⟩ | hf
  · exact Or.inl ⟨p, hp, by rw [← hw.walk_congr ht hp]; exact hwalk⟩
  · exact Or.inr (hspare hf)

/-! ### Mapping -/

/-- Allocating a table takes no page in use but a spare one. -/
theorem allocateFromPool_live :
    (∀ {b}, b ∈ s.heap.live → b ∈ (eptpAllocateEptEntryFromPool pool s).2.heap.live) ∧
      (eptpAllocateEptEntryFromPool pool s).2.data = s.data ∧
      ∀ t, (eptpAllocateEptEntryFromPool pool s).1 = some t → .page t ∉ s.heap.live := by
  cases h : (eptpAllocateEptEntryFromPool pool s).1 with
  | none =>
    rw [allocateFromPool_none pool h]
    exact ⟨id, rfl, by simp⟩
  | some t =>
    obtain ⟨⟨-, hfresh⟩, heq⟩ := allocateFromPool_some pool h
    rw [heq]
    refine ⟨List.mem_cons_of_mem _, rfl, fun t' ht' => ?_⟩
    obtain rfl := Option.some.inj ht'
    exact hfresh

theorem allocate_local (hasData : Bool) (hw : EptWF root s) :
    Local root s (eptpAllocateEptEntry pool hasData s).2 ∧
      ∀ t, (eptpAllocateEptEntry pool hasData s).1 = some t → .page t ∈ s.heap.live →
        t ∈ s.spare := by
  have htable : ∀ f, .page f ∈ s.heap.live →
      (eptpAllocateEptEntry pool hasData s).2.heap.table f = s.heap.table f :=
    fun f hf => allocate_table pool hasData hf
  cases hasData with
  | false =>
    obtain ⟨hlive, hdata, hfresh⟩ := allocateFromPool_live (s := s) pool
    refine ⟨.of_table hw hlive htable fun hf => ?_, fun t ht hl => (hfresh t ht hl).elim⟩
    exact (show (eptpAllocateEptEntryFromPool pool s).2.spare = s.spare by
      rw [EptState.spare, hdata]; rfl) ▸ hf
  | true =>
    have hdrop : ∀ {f}, f ∈ s.data.preallocatedEntries.drop
        (s.data.preallocatedEntriesCount + 1) → f ∈ s.spare :=
      fun hf => (List.drop_sublist_drop_left _ (Nat.le_succ _)).subset hf
    simp only [eptpAllocateEptEntry, if_true, eptpAllocateEptEntryFromPreAllocated] at htable ⊢
    split_ifs at htable ⊢ with hc
    · obtain ⟨hlive, hdata, hfresh⟩ := allocateFromPool_live (s := { s with data := { s.data with
        preallocatedEntriesCount := s.data.preallocatedEntriesCount + 1 } }) pool
      refine ⟨.of_table hw hlive htable fun hf => hdrop ?_, fun t ht hl => (hfresh t ht hl).elim⟩
      rw [EptState.spare, hdata] at hf
      exact hf
    · refine ⟨.of_table hw id htable hdrop, fun t ht _ => ?_⟩
      have hnext : s.data.preallocatedEntries[s.data.preallocatedEntriesCount]? = some t := ht
      obtain ⟨hlt, hget⟩ := List.getElem?_eq_some_iff.1 hnext
      rw [EptState.spare, List.drop_eq_getElem_cons hlt, hget]
      exact List.mem_cons_self

theorem link_local (hasData : Bool) (level : ℕ) (hw : EptWF root s) {q : List TableIndex}
    {g : Frame} {i : TableIndex} (hg : s.walk root q = some g) (hq : q.length < 3) :
    Local root s (eptpLinkTable pool mtrr hasData level (g, i) s).2 := by
  unfold eptpLinkTable
  by_cases hi : (s.read (g, i)).all = 0
  · rw [if_pos hi]
    obtain ⟨hw₁, he₁, hf₁, -⟩ := allocate_spec pool hasData hw
    obtain ⟨hl₁, htaken⟩ := allocate_local pool hasData hw
    have htab := allocate_table pool hasData (hw.reached_live hq.le hg)
    generalize eptpAllocateEptEntry pool hasData s = r at hw₁ he₁ hf₁ hl₁ htaken htab ⊢
    obtain ⟨t, s₁⟩ := r
    cases t with
    | none => exact hl₁
    | some t =>
      have hg₁ := he₁.walk hq.le hg
      have hunused : nextTable (s₁.heap.table g i) = none := by
        rw [htab]
        exact nextTable_eq_none hi
      have hfresh := hf₁ t rfl
      have ha : Radix.Attach nextTable s₁.heap.table root 3 q g i
          (eptpInitTableEntry mtrr (s₁.read (g, i)) level (utilPaFromVa t)) t :=
        ⟨hg₁, hq, hunused, hfresh.unreached,
          fun j => by rw [hfresh.empty j]; exact nextTable_zero, nextTable_init mtrr _ level t⟩
      refine ⟨hl₁.live, fun {f} hf hn => ?_, fun {f} hf hu => ?_⟩
      · have hfg : f ≠ g := by
          rintro rfl
          exact hn (Or.inl ⟨q, hq.le, hg⟩)
        exact (Radix.set_frame_ne hfg).trans (hl₁.table hf hn)
      · rcases hu with ⟨p, hp, hwalk⟩ | hspare
        · -- the new table was a spare one, if it was in use at all
          rcases Radix.reached_attach hw₁.tree ha hp hwalk with rfl | hold
          · exact Or.inr (htaken f rfl hf)
          · exact hl₁.uses hf (Or.inl ⟨p, hp, hold⟩)
        · exact hl₁.uses hf (Or.inr hspare)
  · rw [if_neg hi]
    exact .refl s

theorem writeLeaf_local (hw : EptWF root s) {q : List TableIndex} {g : Frame}
    (hg : s.walk root q = some g) (hq : q.length = 3) (i : TableIndex) (e : EptCommonEntry) :
    Local root s (s.write (g, i) e) := by
  obtain ⟨-, hwalk, -⟩ := write_leaf_spec hw hg hq i e
  refine ⟨id, fun {f} hf hn => ?_, fun {f} hf hu => ?_⟩
  · refine Radix.set_frame_ne ?_
    rintro rfl
    exact hn (Or.inl ⟨q, hq.le, hg⟩)
  · refine hu.imp_left ?_
    rintro ⟨p, hp, h⟩
    exact ⟨p, hp, by rw [← hwalk hp]; exact h⟩

theorem construct_local (hasData : Bool) (pa : BitVec 64) :
    ∀ (level : ℕ) {q : List TableIndex} {table : Frame} {s : EptState},
      q.length + level = 4 → 1 ≤ level → EptWF root s → s.walk root q = some table →
      Local root s (eptpConstructTables pool mtrr hasData level table pa s).2
  | 0, _, _, _, _, hl, _, _ => by omega
  | 1, q, table, s, hq, _, hw, hg => writeLeaf_local hw hg (by omega) _ _
  | level + 2, q, table, s, hq, _, hw, hg => by
    obtain ⟨hw₁, -, hlink, -⟩ := link_spec pool mtrr (fun _ => id) hasData (level + 2) hw hg
      (i := tableIndex (level + 2) pa) (by omega)
    have h₁ := link_local pool mtrr hasData (level + 2) hw hg (i := tableIndex (level + 2) pa)
      (by omega)
    rw [eptpConstructTables, if_neg (by omega)]
    cases hr : eptpLinkTable pool mtrr hasData (level + 2) (table, tableIndex (level + 2) pa) s with
    | mk ok s₁ =>
      rw [hr] at hw₁ hlink h₁
      simp only [hr]
      cases ok with
      | false => exact h₁
      | true =>
        exact h₁.trans (construct_local hasData pa (level + 1) (by simp; omega) (by omega) hw₁
          (hlink rfl))

end Local

/-! ## Operations -/

/-- What the driver does to ready tables, step by step. -/
inductive EptOp (pool : Pool) (mtrr : Mtrr) (s : EptState) : EptState → Prop where
  | map (pa : BitVec 64) : EptOp pool mtrr s (eptpMapGpaToHpa pool mtrr pa s).2
  | write {pa : BitVec 64} {ptr : EntryPtr} (slot : eptGetEptPtEntry s pa = some ptr)
      (e : EptCommonEntry) : EptOp pool mtrr s (s.write ptr e)

/-- Any number of steps. -/
abbrev EptOps (pool : Pool) (mtrr : Mtrr) : EptState → EptState → Prop :=
  Relation.ReflTransGen (EptOp pool mtrr)

section Ops

variable {s s' : EptState} {pool : Pool} {mtrr : Mtrr} {start : Ledger PoolBlock}
  {base : List PoolBlock}

theorem EptOp.keeps (h : EptOp pool mtrr s s') (hr : EptReady s) : Keeps s s' := by
  cases h with
  | map pa => exact (hr.map_spec pool mtrr pa).keeps
  | write slot e => exact hr.keeps_write slot e

theorem EptOp.pml4 (h : EptOp pool mtrr s s') (hr : EptReady s) :
    s'.data.eptPml4 = s.data.eptPml4 := by
  cases h with
  | map pa => exact (construct_spec_aux pool mtrr true pa 4 (q := []) rfl (by omega) hr.wf rfl).pml4
  | write slot e => rfl

theorem EptOp.keepsBlocks (h : EptOp pool mtrr s s') : KeepsBlocks s s' := by
  cases h with
  | map pa => exact construct_keepsBlocks pool mtrr true pa 4 s.data.eptPml4 s
  | write slot e => exact ⟨rfl, rfl, rfl, le_rfl, le_rfl⟩

theorem EptOp.isLocal (h : EptOp pool mtrr s s') (hr : EptReady s) :
    Local s.data.eptPml4 s s' := by
  cases h with
  | map pa => exact construct_local pool mtrr true pa 4 (q := []) rfl (by omega) hr.wf rfl
  | write slot e =>
    rw [eptGetEptPtEntry_eq hr] at slot
    obtain ⟨f, hf, rfl⟩ := Option.map_eq_some_iff.1 slot
    exact writeLeaf_local hr.wf hf (length_pagePath _) _ e

theorem EptOp.owns (h : EptOp pool mtrr s s') (hr : EptReady s)
    (ho : Owns start base s.data.eptPml4 s) : Owns start base s.data.eptPml4 s' := by
  cases h with
  | map pa =>
    exact construct_owns pool mtrr true pa 4 (q := []) rfl (by omega) hr.wf ho hr.full.le rfl
  | write slot e =>
    rw [eptGetEptPtEntry_eq hr] at slot
    obtain ⟨f, hf, rfl⟩ := Option.map_eq_some_iff.1 slot
    exact ho.writeLeaf hr.wf hf (length_pagePath _) _ e

/-- What any operation on the tables of a processor keeps. -/
structure Served (s s' : EptState) : Prop extends Keeps s s', KeepsBlocks s s' where
  pml4 : s'.data.eptPml4 = s.data.eptPml4
  isLocal : Local s.data.eptPml4 s s'
  owns : ∀ {start base}, Owns start base s.data.eptPml4 s → Owns start base s.data.eptPml4 s'

theorem Served.trans {s'' : EptState} (h : Served s s') (h' : Served s' s'') : Served s s'' where
  toKeeps := h.toKeeps.trans h'.toKeeps
  toKeepsBlocks := h.toKeepsBlocks.trans h'.toKeepsBlocks
  pml4 := h'.pml4.trans h.pml4
  isLocal := h.isLocal.trans (h.pml4 ▸ h'.isLocal)
  owns ho := by
    have howns := h'.owns (h.pml4.symm ▸ h.owns ho)
    rwa [h.pml4] at howns

theorem EptOps.served (h : EptOps pool mtrr s s') (hr : EptReady s) : Served s s' := by
  induction h with
  | refl => exact ⟨⟨hr, id, le_rfl⟩, .refl s, rfl, .refl s, id⟩
  | tail _ hop ih =>
    exact ih.trans ⟨hop.keeps ih.ready, hop.keepsBlocks, hop.pml4 ih.ready, hop.isLocal ih.ready,
      hop.owns ih.ready⟩

/-! ### The operations of the driver -/

theorem findOrMapEntry_ops (pa : BitVec 64) :
    EptOps pool mtrr s (findOrMapEntry pool mtrr pa s).2 := by
  unfold findOrMapEntry
  split
  · split_ifs
    · exact .single (.map pa)
    · exact .refl
  · exact .single (.map pa)

theorem invalidateEptPage_ops (hr : EptReady s) (pa : BitVec 64) :
    EptOps pool mtrr s (invalidateEptPage pool mtrr pa s).2 := by
  have hops : EptOps pool mtrr s (findOrMapEntry pool mtrr pa s).2 := findOrMapEntry_ops pa
  obtain ⟨-, hsome, -⟩ := findOrMapEntry_spec pool mtrr hr pa
  unfold invalidateEptPage
  generalize findOrMapEntry pool mtrr pa s = r at hops hsome ⊢
  obtain ⟨entry, s₁⟩ := r
  cases entry with
  | none => exact hops
  | some ptr =>
    simp only
    split_ifs
    · exact hops
    · exact hops.tail (.write (hsome ptr rfl).1 _)

theorem invalidateEptPagesLoop_ops (gpa : BitVec 64) (n k : ℕ) (cursor : BitVec 32)
    (hr : EptReady s) : EptOps pool mtrr s (invalidateEptPagesLoop pool mtrr gpa n k cursor s) := by
  induction n generalizing k cursor s with
  | zero => exact .refl
  | succ n ih =>
    have hops : EptOps pool mtrr s (invalidateEptPage pool mtrr (cursor.setWidth 64) s).2 :=
      invalidateEptPage_ops hr (cursor.setWidth 64)
    have hready := (hops.served hr).ready
    rw [invalidateEptPagesLoop]
    generalize invalidateEptPage pool mtrr (cursor.setWidth 64) s = r at hops hready ⊢
    obtain ⟨ok, s₁⟩ := r
    cases ok with
    | false => exact hops
    | true => exact hops.trans (ih (k + 1) _ hready)

theorem validateEptPagesLoop_ops (gpa : BitVec 64) (n k : ℕ) (cursor : BitVec 32)
    (hr : EptReady s) : EptOps pool mtrr s (validateEptPagesLoop gpa n k cursor s) := by
  induction n generalizing k cursor s with
  | zero => exact .refl
  | succ n ih =>
    have hops : EptOps pool mtrr s (validateEptPage (cursor.setWidth 64) s) := by
      unfold validateEptPage
      cases hget : eptGetEptPtEntry s (cursor.setWidth 64) with
      | none => exact .refl
      | some ptr =>
        simp only
        split_ifs
        · exact .refl
        · exact .single (.write hget _)
    exact hops.trans (ih (k + 1) _ (hops.served hr).ready)

/-- Page loops made of operations are operations. -/
theorem onRanges_ops {pages : BitVec 64 → BitVec 32 → EptState → EptState}
    (hp : ∀ {s}, EptReady s → ∀ gpa size, EptOps pool mtrr s (pages gpa size s))
    (ranges : List BarRange) (hr : EptReady s) : EptOps pool mtrr s (onRanges pages ranges s) := by
  induction ranges generalizing s with
  | nil => exact .refl
  | cons range ranges ih =>
    have hops := hp hr range.1 range.2
    exact hops.trans (ih (hops.served hr).ready)

theorem enable_ops (ranges : List BarRange) (hr : EptReady s) :
    EptOps pool mtrr s (onRanges (invalidateEptPages pool mtrr) ranges s) :=
  onRanges_ops (fun hr gpa _ => invalidateEptPagesLoop_ops gpa _ 0 _ hr) ranges hr

theorem disable_ops (ranges : List BarRange) (hr : EptReady s) :
    EptOps pool mtrr s (onRanges validateEptPages ranges s) :=
  onRanges_ops (fun hr gpa _ => validateEptPagesLoop_ops gpa _ 0 _ hr) ranges hr

theorem violation_ops (q : EptViolationQualification) (hr : EptReady s) (pa : BitVec 64) :
    EptOps pool mtrr s (eptHandleEptViolation pool mtrr q pa s) := by
  rcases eptHandleEptViolation_spec pool mtrr q hr pa with heq | ⟨-, heq⟩
  · rw [heq]
  · rw [heq]
    exact .single (.map pa)

end Ops

/-! ## Other processors -/

section Others

variable {h h' : Heap} {data : EptData}

/-- Tables whose frames keep their contents and stay held are the same tables. -/
theorem EptReady.of_heap (hr : EptReady ⟨h, data⟩)
    (ht : ∀ f, Uses data.eptPml4 ⟨h, data⟩ f → h'.table f = h.table f)
    (hl : ∀ f, Uses data.eptPml4 ⟨h, data⟩ f → .page f ∈ h'.live) :
    EptReady ⟨h', data⟩ ∧
      (∀ {p}, p.length ≤ 3 → EptState.walk data.eptPml4 ⟨h', data⟩ p =
        EptState.walk data.eptPml4 ⟨h, data⟩ p) := by
  obtain ⟨hw, hfull⟩ := hr
  have hwalk : ∀ {p}, p.length ≤ 3 → EptState.walk data.eptPml4 ⟨h', data⟩ p =
      EptState.walk data.eptPml4 ⟨h, data⟩ p := by
    intro p hp
    refine Radix.follow_congr fun q i r g hq hg => ?_
    have hlen : q.length ≤ 3 := by
      rw [hq, List.length_append] at hp
      omega
    rw [show h'.table g = h.table g from ht g (Or.inl ⟨q, hlen, hg⟩)]
  refine ⟨⟨⟨?_, ?_, ?_, hw.spare_nodup, ?_, hw.spare_ne_zero, ?_, ?_, ?_⟩, hfull⟩, hwalk⟩
  · intro p q f hp hq hf hf'
    exact hw.tree p q f hp hq ((hwalk hp).symm.trans hf) ((hwalk hq).symm.trans hf')
  · intro p f hp hf
    exact hl f (Or.inl ⟨p, hp, (hwalk hp).symm.trans hf⟩)
  · intro p f hp hf
    exact hw.reached_ne_zero hp ((hwalk hp).symm.trans hf)
  · intro f hf
    exact hl f (Or.inr hf)
  · intro f hf i
    rw [show h'.table f = h.table f from ht f (Or.inr hf)]
    exact hw.spare_empty hf i
  · intro f hf p hp hp'
    exact hw.spare_unreached hf p hp ((hwalk hp).symm.trans hp')
  · intro p f hp hf i hi
    have hf' := (hwalk hp.le).symm.trans hf
    rw [show h'.table f = h.table f from ht f (Or.inl ⟨p, hp.le, hf'⟩)] at hi ⊢
    exact hw.inner hp hf' i hi

/-- The tables of `data` have the contents and are held as before. -/
structure Undisturbed (data : EptData) (h h' : Heap) : Prop where
  ready : EptReady ⟨h, data⟩
  table : ∀ f, Uses data.eptPml4 ⟨h, data⟩ f → h'.table f = h.table f
  live : ∀ f, Uses data.eptPml4 ⟨h, data⟩ f → .page f ∈ h'.live

namespace Undisturbed

theorem ready' (hu : Undisturbed data h h') : EptReady ⟨h', data⟩ :=
  (hu.ready.of_heap hu.table hu.live).1

theorem walk (hu : Undisturbed data h h') {p : List TableIndex} (hp : p.length ≤ 3) :
    EptState.walk data.eptPml4 ⟨h', data⟩ p = EptState.walk data.eptPml4 ⟨h, data⟩ p :=
  (hu.ready.of_heap hu.table hu.live).2 hp

theorem uses {f : Frame} (hu : Undisturbed data h h') :
    Uses data.eptPml4 ⟨h', data⟩ f ↔ Uses data.eptPml4 ⟨h, data⟩ f := by
  refine or_congr ?_ Iff.rfl
  exact exists_congr fun p => and_congr_right fun hp => by rw [hu.walk hp]

theorem slot (hu : Undisturbed data h h') (pa : BitVec 64) :
    eptGetEptPtEntry ⟨h', data⟩ pa = eptGetEptPtEntry ⟨h, data⟩ pa := by
  rw [eptGetEptPtEntry_eq hu.ready', eptGetEptPtEntry_eq hu.ready]
  exact congrArg _ (hu.walk (length_pagePath _).le)

theorem leaf (hu : Undisturbed data h h') (p : Page) :
    EptState.leaf ⟨h', data⟩ p = EptState.leaf ⟨h, data⟩ p := by
  rw [leaf_eq_leafEntry hu.ready', leaf_eq_leafEntry hu.ready]
  have hwalk := hu.walk (length_pagePath p).le
  cases hf : EptState.walk data.eptPml4 ⟨h, data⟩ (pagePath p) with
  | none => rw [leafEntry_of_walk_none hf, leafEntry_of_walk_none (hwalk.trans hf)]
  | some f =>
    rw [leafEntry_of_walk hf, leafEntry_of_walk (hwalk.trans hf)]
    exact congrFun (hu.table f (Or.inl ⟨_, (length_pagePath p).le, hf⟩)) _

theorem pages_perm (hu : Undisturbed data h h') :
    (EptState.pages data.eptPml4 ⟨h', data⟩).Perm (EptState.pages data.eptPml4 ⟨h, data⟩) :=
  ((hu.ready.wf.tables_perm hu.ready'.wf hu.walk).append_right _).map _

end Undisturbed

/-- A local step of one processor leaves the tables of the others as they are. -/
theorem Local.undisturbed {d d' : EptData} {root : Frame} (hl : Local root ⟨h, d⟩ ⟨h', d'⟩)
    (hr : EptReady ⟨h, data⟩)
    (hdisj : ∀ f, Uses data.eptPml4 ⟨h, data⟩ f → ¬Uses root ⟨h, d⟩ f) : Undisturbed data h h' :=
  ⟨hr, fun f hf => hl.table (hr.wf.uses_live hf) (hdisj f hf),
    fun _ hf => hl.live (hr.wf.uses_live hf)⟩

/-- Frames used by nobody else stay apart from those a local step takes. -/
theorem Local.disjoint {d d' : EptData} {root : Frame} (hl : Local root ⟨h, d⟩ ⟨h', d'⟩)
    (hr : EptReady ⟨h, data⟩)
    (hdisj : ∀ f, Uses data.eptPml4 ⟨h, data⟩ f → ¬Uses root ⟨h, d⟩ f) :
    ∀ f, Uses data.eptPml4 ⟨h', data⟩ f → ¬Uses root ⟨h', d'⟩ f := by
  intro f hf hu
  have hf' := (hl.undisturbed hr hdisj).uses.1 hf
  exact hdisj f hf' (hl.uses (hr.wf.uses_live hf') hu)

end Others

/-! ## A new processor -/

section Start

variable {root : Frame} {s : EptState} (pool : Pool) (mtrr : Mtrr)

theorem constructAll_local (pas : List (BitVec 64)) (hw : EptWF root s)
    (hf : FreshLeaves mtrr root s) : Local root s (eptpConstructAll pool mtrr root pas s).2 := by
  induction pas generalizing s with
  | nil => exact .refl s
  | cons pa pas ih =>
    obtain ⟨hw₁, hf₁, -⟩ := constructTables_start pool mtrr hw hf pa
    have hl := construct_local pool mtrr false pa 4 (q := []) rfl (by omega) hw rfl
    rw [eptpConstructAll]
    generalize eptpConstructTables pool mtrr false 4 root pa s = r at hw₁ hf₁ hl ⊢
    obtain ⟨r, s₁⟩ := r
    cases r with
    | none => exact hl
    | some ptr => exact hl.trans (ih hw₁ hf₁)

theorem fillPreallocated_local (n : ℕ) {entries : List Frame}
    (hw : EptWF root (withPreallocated root entries s)) :
    Local root (withPreallocated root entries s)
      (withPreallocated root (eptpFillPreallocated pool n entries s).2.1
        (eptpFillPreallocated pool n entries s).2.2) := by
  induction n generalizing entries s with
  | zero => exact .refl _
  | succ n ih =>
    obtain ⟨hw₁, -, ht₁, -⟩ := allocateFromPool_spec pool hw
    obtain ⟨hlive, -, hfresh⟩ := allocateFromPool_live
      (s := withPreallocated root entries s) pool
    have htable : ∀ f, .page f ∈ s.heap.live →
        (eptpAllocateEptEntryFromPool pool s).2.heap.table f = s.heap.table f :=
      fun f hf => allocate_table pool false hf
    rw [allocateFromPool_withPreallocated] at hw₁ ht₁ hlive hfresh
    have hstep : eptpAllocateEptEntry pool false s = eptpAllocateEptEntryFromPool pool s := rfl
    rw [eptpFillPreallocated, hstep]
    generalize eptpAllocateEptEntryFromPool pool s = r at hw₁ ht₁ hlive hfresh htable ⊢
    obtain ⟨t, s₁⟩ := r
    cases t with
    | none => exact .of_table hw hlive htable id
    | some t =>
      have hadd : Local root (withPreallocated root entries s)
          (withPreallocated root (entries ++ [t]) s₁) := by
        refine ⟨hlive, fun hf _ => htable _ hf, fun {f} hf hu => ?_⟩
        rcases hu with ⟨p, hp, hwalk⟩ | hspare
        · exact Or.inl ⟨p, hp, (hw.walk_congr htable hp).symm.trans hwalk⟩
        · rcases List.mem_append.1 hspare with h | h
          · exact Or.inr h
          · obtain rfl := List.mem_singleton.1 h
            exact (hfresh f rfl hf).elim
      exact hadd.trans (ih (EptWF.addSpare hw₁ (ht₁ t rfl)))

/-- Freeing tables does not change them. -/
theorem eptpDestructTables_table : ∀ (level : ℕ) (table : Frame) (s : EptState),
    (eptpDestructTables level table s).heap.table = s.heap.table
  | 0, _, _ => rfl
  | level + 1, table, s => by
    have hloop : ∀ (l : List (Fin 512)) (s : EptState), (l.foldl (fun s i =>
        let e := s.read (table, BitVec.ofFin i)
        if e.physialAddress = 0 then s
        else
          let subTable := utilVaFromPfn e.physialAddress
          if level + 1 = 4 ∨ level + 1 = 3 then eptpDestructTables level subTable s
          else if level + 1 = 2 then { s with heap := s.heap.free (.page subTable) }
          else s) s).heap.table = s.heap.table := by
      intro l
      induction l with
      | nil => exact fun _ => rfl
      | cons i l ih =>
        intro s
        refine (ih _).trans ?_
        simp only
        split_ifs
        · rfl
        · exact eptpDestructTables_table level _ s
        · rfl
        · rfl
    rw [eptpDestructTables, Heap.free]
    simp only [hloop]

/-- A page in use is left alone while the tables are built. -/
structure LeftAlone (f : Frame) (h h' : Heap) (root : Frame) (s' : EptState) : Prop where
  table : h'.table f = h.table f
  live : .page f ∈ h'.live
  unused : ¬Uses root s' f

variable {h h₁ h₂ h₄ : Heap} {eptData array : PoolBlock} {pml4 f : Frame} {s₃ s₅ : EptState}
  {ok : Bool} {pas : List (BitVec 64)} {entries : List Frame} {n : ℕ}

theorem mapped_leftAlone (hdata : h.allocateData pool = (some eptData, h₁))
    (hpage : h₁.allocatePage pool = (some pml4, h₂))
    (hall : eptpConstructAll pool mtrr pml4 pas ⟨h₂.zeroPage pml4, .zero⟩ = (ok, s₃))
    (hf : .page f ∈ h.live) : LeftAlone f h s₃.heap pml4 s₃ := by
  obtain ⟨ht₁, hl₁⟩ := allocateData_some pool hdata
  obtain ⟨hne, hlive⟩ := allocatePage_some pool hpage
  obtain ⟨hw, hfresh⟩ := EptWF.zeroPage mtrr hne hlive
  have hl := constructAll_local pool mtrr pas hw hfresh
  rw [hall] at hl
  have hpage' : h₂.table = h₁.table ∧ .page f ∈ h₂.live ∧ f ≠ pml4 := by
    unfold Heap.allocatePage at hpage
    cases hp : pool.page h₁.requests h₁ with
    | none => rw [hp] at hpage; cases hpage
    | some g =>
      rw [hp] at hpage
      cases hpage
      refine ⟨rfl, List.mem_cons_of_mem _ (hl₁ _ hf), ?_⟩
      rintro rfl
      exact (pool.page_fresh hp).2 (hl₁ _ hf)
  obtain ⟨ht₂, hf₂, hne'⟩ := hpage'
  have hunused : ¬Uses pml4 ⟨h₂.zeroPage pml4, .zero⟩ f := by
    have htab : (h₂.zeroPage pml4).table pml4 = fun _ => .zero := if_pos rfl
    rintro (⟨p, -, hwalk⟩ | hspare)
    · cases p with
      | nil => exact hne' (Option.some.inj hwalk).symm
      | cons i p =>
        rw [EptState.walk, Radix.follow, htab, nextTable_zero, Option.bind_none] at hwalk
        cases hwalk
    · cases hspare
  refine ⟨?_, hl.live hf₂, fun hu => hunused (hl.uses hf₂ hu)⟩
  rw [hl.table hf₂ hunused, ← ht₁, ← ht₂]
  exact if_neg hne'

theorem filled_leftAlone (hw : EptWF pml4 s₃) (hspare : s₃.spare = [])
    (harr : s₃.heap.allocateData pool = (some array, h₄))
    (hfill : eptpFillPreallocated pool n [] { s₃ with heap := h₄ } = (ok, entries, s₅))
    (hf : LeftAlone f h s₃.heap pml4 s₃) :
    LeftAlone f h s₅.heap pml4 (withPreallocated pml4 entries s₅) := by
  obtain ⟨ht₄, hl₄⟩ := allocateData_some pool harr
  have hw₄ : EptWF pml4 (withPreallocated pml4 [] { s₃ with heap := h₄ }) :=
    hw.of_heap ht₄ hl₄ hspare.symm
  have hl := fillPreallocated_local pool n hw₄
  rw [hfill] at hl
  have hunused : ¬Uses pml4 (withPreallocated pml4 [] { s₃ with heap := h₄ }) f := by
    intro hu
    refine hf.unused (hu.imp (fun ⟨p, hp, hwalk⟩ => ⟨p, hp, ?_⟩) fun h => by cases h)
    rw [EptState.walk, ← ht₄]
    exact hwalk
  refine ⟨?_, hl.live (hl₄ _ hf.live), fun hu => hunused (hl.uses (hl₄ _ hf.live) hu)⟩
  rw [show s₅.heap.table f = h₄.table f from hl.table (hl₄ _ hf.live) hunused, ht₄]
  exact hf.table

/-- `EptInitialization` uses no page that was in use. -/
theorem eptInitialization_unused {runs : List PhysicalMemoryRun} {apicBase : BitVec 64}
    {h' : Heap} {data : EptData}
    (hok : eptInitialization pool mtrr runs apicBase h = (some data, h')) (hf : .page f ∈ h.live) :
    ¬Uses data.eptPml4 ⟨h', data⟩ f := by
  obtain ⟨eptData, h₁, pml4, h₂, s₃, array, h₄, entries, s₅, hdata, hpage, hall, harr, hfill, rfl,
    rfl⟩ := eptInitialization_some pool mtrr hok
  obtain ⟨hw₃, -, hspare, -⟩ := mapped_owns pool mtrr hdata hpage hall
  exact (filled_leftAlone pool hw₃ hspare harr hfill
    (mapped_leftAlone pool mtrr hdata hpage hall hf)).unused

/-- Whether it succeeds or not, it changes no page that was in use. -/
theorem eptInitialization_table {runs : List PhysicalMemoryRun} {apicBase : BitVec 64}
    {h' : Heap} {r : Option EptData}
    (heq : eptInitialization pool mtrr runs apicBase h = (r, h')) (hf : .page f ∈ h.live) :
    h'.table f = h.table f := by
  cases r with
  | some data =>
    obtain ⟨eptData, h₁, pml4, h₂, s₃, array, h₄, entries, s₅, hdata, hpage, hall, harr, hfill, -,
      rfl⟩ := eptInitialization_some pool mtrr heq
    obtain ⟨hw₃, -, hspare, -⟩ := mapped_owns pool mtrr hdata hpage hall
    exact (filled_leftAlone pool hw₃ hspare harr hfill
      (mapped_leftAlone pool mtrr hdata hpage hall hf)).table
  | none =>
    unfold eptInitialization at heq
    split at heq
    · rename_i h₁ hdata
      cases heq
      rw [(allocateData_none pool hdata).1]
    rename_i eptData h₁ hdata
    obtain ⟨ht₁, hl₁⟩ := allocateData_some pool hdata
    split at heq
    · rename_i h₂ hpage
      cases heq
      have ht₂ : h₂.table = h₁.table := by
        unfold Heap.allocatePage at hpage
        split at hpage
        · cases hpage
          rfl
        · cases hpage
      rw [Heap.free, ht₂, ht₁]
    rename_i pml4 h₂ hpage
    simp only at heq
    split at heq
    · rename_i s₃ hall
      obtain ⟨-, rfl⟩ := Prod.mk.inj heq
      rw [Heap.free, eptpDestructTables_table]
      exact (mapped_leftAlone pool mtrr hdata hpage hall hf).table
    rename_i s₃ hall
    have hleft₃ := mapped_leftAlone pool mtrr hdata hpage hall hf
    obtain ⟨hw₃, -, hspare, -⟩ := mapped_owns pool mtrr hdata hpage hall
    split at heq
    · rename_i h₄ harr
      obtain ⟨-, rfl⟩ := Prod.mk.inj heq
      rw [Heap.free, eptpDestructTables_table, (allocateData_none pool harr).1]
      exact hleft₃.table
    rename_i array h₄ harr
    split at heq
    · rename_i entries s₅ hfill
      obtain ⟨-, rfl⟩ := Prod.mk.inj heq
      rw [Heap.free, eptpDestructTables_table]
      exact (congrFun (Heap.freePages_table _ s₅.heap) f).trans
        (filled_leftAlone pool hw₃ hspare harr hfill hleft₃).table
    · cases heq

/-- A start leaves the tables of the other processors as they are. -/
theorem eptInitialization_undisturbed {runs : List PhysicalMemoryRun} {apicBase : BitVec 64}
    {h' : Heap} {r : Option EptData} {data : EptData} (hr : EptReady ⟨h, data⟩)
    (heq : eptInitialization pool mtrr runs apicBase h = (r, h')) : Undisturbed data h h' := by
  refine ⟨hr, fun f hf => eptInitialization_table pool mtrr heq (hr.wf.uses_live hf),
    fun f hf => ?_⟩
  have hlive : PoolBlock.page f ∈ h.ledger.live := hr.wf.uses_live hf
  cases r with
  | none => exact (eptInitialization_none pool mtrr heq).live.mem_iff.2 hlive
  | some d =>
    exact (eptInitialization_owns pool mtrr heq).live.mem_iff.2 (List.mem_append_right _ hlive)

end Start

end DeviceMon
