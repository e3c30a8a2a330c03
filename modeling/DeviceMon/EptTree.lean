import DeviceMon.Ept
import DeviceMon.Radix

/-!
# The tables as a tree

`nextTable` reads the EPT as a tree of depth 3 below the PML4 : `walk` follows a
path of indices, `leafEntry` is the entry a full path selects, a missing path
counting as a zero entry. `EptWF` says what the driver's tables satisfy : every
table is reached by one path and held in the pool, an entry above the last level
opens all accesses, and the unused preallocated tables are empty, distinct and not
in the tree.

Allocating and linking a table extend the tree and change no leaf (`Extends`).
`construct_spec` puts the steps together : `eptpConstructTables` keeps the tables
well formed, changes the leaf on its own path and no other, and fails only if
the pool refused. What holds of the entries above the last level plays no part in it,
so the steps are about tables where they satisfy any condition that an open entry
does (`EptTables`, of which `EptWF` is one).
-/

namespace DeviceMon

/-- The table an entry above the last level points to. -/
def nextTable (e : EptCommonEntry) : Option Frame :=
  if e.all = 0 then none else some (utilVaFromPfn e.physialAddress)

@[simp] theorem nextTable_zero : nextTable .zero = none := by
  simp [nextTable]

theorem nextTable_of_ne {e : EptCommonEntry} (h : e.all ≠ 0) :
    nextTable e = some (utilVaFromPfn e.physialAddress) :=
  if_neg h

theorem nextTable_eq_none {e : EptCommonEntry} (h : e.all = 0) : nextTable e = none :=
  if_pos h

namespace EptState

/-- The table reached from `root` along a path of indices. -/
def walk (root : Frame) (s : EptState) (p : List TableIndex) : Option Frame :=
  Radix.follow nextTable s.heap.table root p

/-- The entry a path and an index select, zero if a table on the path is missing. -/
def leafEntry (root : Frame) (s : EptState) (p : List TableIndex) (i : TableIndex) :
    EptCommonEntry :=
  (Radix.entry nextTable s.heap.table root p i).getD .zero

/-- The preallocated tables not used yet. -/
def spare (s : EptState) : List Frame :=
  s.data.preallocatedEntries.drop s.data.preallocatedEntriesCount

/-- A present entry leads a walk one table further. -/
theorem walk_snoc {root table : Frame} {s : EptState} {p : List TableIndex}
    (h : s.walk root p = some table) {i : TableIndex} (hpresent : (s.read (table, i)).all ≠ 0) :
    s.walk root (p ++ [i]) = some (utilVaFromPfn (s.read (table, i)).physialAddress) := by
  rw [walk] at h ⊢
  rw [Radix.follow_snoc, h]
  exact nextTable_of_ne hpresent

theorem leafEntry_of_walk {root f : Frame} {s : EptState} {p : List TableIndex}
    (h : s.walk root p = some f) (i : TableIndex) : s.leafEntry root p i = s.read (f, i) := by
  rw [walk] at h
  simp [leafEntry, Radix.entry, h, read]

theorem leafEntry_of_walk_none {root : Frame} {s : EptState} {p : List TableIndex}
    (h : s.walk root p = none) (i : TableIndex) : s.leafEntry root p i = .zero := by
  rw [walk] at h
  simp [leafEntry, Radix.entry, h]

end EptState

open EptState

/-- One path to each table, all held in the pool, and the unused preallocated ones empty and apart
from the tree. The entries above the last level satisfy `P`. -/
structure EptTables (P : EptCommonEntry → Prop) (root : Frame) (s : EptState) : Prop where
  tree : Radix.IsTree nextTable s.heap.table root 3
  reached_live : ∀ {p f}, p.length ≤ 3 → s.walk root p = some f → .page f ∈ s.heap.live
  reached_ne_zero : ∀ {p f}, p.length ≤ 3 → s.walk root p = some f → f ≠ 0
  spare_nodup : s.spare.Nodup
  spare_live : ∀ {f}, f ∈ s.spare → .page f ∈ s.heap.live
  spare_ne_zero : ∀ {f}, f ∈ s.spare → f ≠ 0
  spare_empty : ∀ {f}, f ∈ s.spare → ∀ i, s.heap.table f i = .zero
  spare_unreached : ∀ {f}, f ∈ s.spare → Radix.Unreached nextTable s.heap.table root 3 f
  inner : ∀ {p f}, p.length < 3 → s.walk root p = some f → ∀ i,
    (s.heap.table f i).all ≠ 0 → P (s.heap.table f i)

/-- The tables of the driver : entries above the last level are open. -/
abbrev EptWF (root : Frame) (s : EptState) : Prop :=
  EptTables EptCommonEntry.Open root s

theorem EptTables.imp {P Q : EptCommonEntry → Prop} {root : Frame} {s : EptState}
    (h : EptTables P root s) (hPQ : ∀ e, P e → Q e) : EptTables Q root s :=
  ⟨h.tree, h.reached_live, h.reached_ne_zero, h.spare_nodup, h.spare_live, h.spare_ne_zero,
    h.spare_empty, h.spare_unreached, fun hp hf i hi => hPQ _ (h.inner hp hf i hi)⟩

/-- A table that can be linked : held, empty, and neither in the tree nor spare. -/
structure FreshTable (root : Frame) (s : EptState) (t : Frame) : Prop where
  ne_zero : t ≠ 0
  live : .page t ∈ s.heap.live
  empty : ∀ i, s.heap.table t i = .zero
  unreached : Radix.Unreached nextTable s.heap.table root 3 t
  not_spare : t ∉ s.spare

/-- `s'` has the tables of `s`, maybe more, and the same leaves. -/
structure Extends (root : Frame) (s s' : EptState) : Prop where
  walk : ∀ {p f}, p.length ≤ 3 → s.walk root p = some f → s'.walk root p = some f
  leafEntry : ∀ {p}, p.length = 3 → ∀ i, s'.leafEntry root p i = s.leafEntry root p i
  pml4 : s'.data.eptPml4 = s.data.eptPml4
  preallocated : s'.data.preallocatedEntries = s.data.preallocatedEntries
  refused : s.heap.refused ≤ s'.heap.refused

namespace Extends

variable {root : Frame} {s₁ s₂ s₃ : EptState}

theorem refl (s : EptState) : Extends root s s :=
  ⟨fun _ h => h, fun _ _ => rfl, rfl, rfl, le_rfl⟩

theorem trans (h₁ : Extends root s₁ s₂) (h₂ : Extends root s₂ s₃) : Extends root s₁ s₃ where
  walk hp h := h₂.walk hp (h₁.walk hp h)
  leafEntry hp i := (h₂.leafEntry hp i).trans (h₁.leafEntry hp i)
  pml4 := h₂.pml4.trans h₁.pml4
  preallocated := h₂.preallocated.trans h₁.preallocated
  refused := h₁.refused.trans h₂.refused

end Extends

section Construct

variable {P : EptCommonEntry → Prop} {root : Frame} {s s' : EptState} (pool : Pool) (mtrr : Mtrr)

/-! ## Allocation -/

/-- The states of two allocations with the same tables agree on walks and leaves. -/
theorem extends_of_table_eq (ht : s'.heap.table = s.heap.table)
    (h4 : s'.data.eptPml4 = s.data.eptPml4)
    (hp : s'.data.preallocatedEntries = s.data.preallocatedEntries)
    (hr : s.heap.refused ≤ s'.heap.refused) : Extends root s s' where
  walk _ h := by rw [EptState.walk, ht]; exact h
  leafEntry _ i := by rw [EptState.leafEntry, ht]; rfl
  pml4 := h4
  preallocated := hp
  refused := hr

theorem allocateFromPool_none (h : (eptpAllocateEptEntryFromPool pool s).1 = none) :
    (eptpAllocateEptEntryFromPool pool s).2 = { s with heap := { s.heap with
      requests := s.heap.requests + 1, refused := s.heap.refused + 1 } } := by
  unfold eptpAllocateEptEntryFromPool Heap.allocatePage at h ⊢
  cases hp : pool.page s.heap.requests s.heap with
  | none => rfl
  | some f => simp [hp] at h

theorem allocateFromPool_some {t : Frame} (h : (eptpAllocateEptEntryFromPool pool s).1 = some t) :
    (t ≠ 0 ∧ .page t ∉ s.heap.live) ∧
      (eptpAllocateEptEntryFromPool pool s).2 = { s with heap := { s.heap with
        table := fun g => if g = t then fun _ => .zero else s.heap.table g
        live := .page t :: s.heap.live, allocated := .page t :: s.heap.allocated
        requests := s.heap.requests + 1 } } := by
  unfold eptpAllocateEptEntryFromPool Heap.allocatePage at h ⊢
  cases hp : pool.page s.heap.requests s.heap with
  | none => simp [hp] at h
  | some f =>
    obtain rfl : f = t := by simpa [hp] using h
    exact ⟨pool.page_fresh hp, rfl⟩

/-- A page the pool hands out is outside the tree and the spare tables. -/
theorem EptTables.unreached_of_not_live (hw : EptTables P root s) {t : Frame}
    (ht : .page t ∉ s.heap.live) : Radix.Unreached nextTable s.heap.table root 3 t :=
  fun _ hp h => ht (hw.reached_live hp h)

/-- What `eptpAllocateEptEntryFromPool` does to well-formed tables. -/
theorem allocateFromPool_spec (hw : EptTables P root s) :
    EptTables P root (eptpAllocateEptEntryFromPool pool s).2 ∧
      Extends root s (eptpAllocateEptEntryFromPool pool s).2 ∧
      (∀ t, (eptpAllocateEptEntryFromPool pool s).1 = some t →
        FreshTable root (eptpAllocateEptEntryFromPool pool s).2 t) ∧
      ((eptpAllocateEptEntryFromPool pool s).1 = none →
        s.heap.refused < (eptpAllocateEptEntryFromPool pool s).2.heap.refused) := by
  cases h : (eptpAllocateEptEntryFromPool pool s).1 with
  | none =>
    rw [allocateFromPool_none pool h]
    refine ⟨⟨hw.tree, hw.reached_live, hw.reached_ne_zero, hw.spare_nodup, hw.spare_live,
      hw.spare_ne_zero, hw.spare_empty, hw.spare_unreached, hw.inner⟩, ?_, by simp,
      fun _ => Nat.lt_succ_self _⟩
    exact extends_of_table_eq rfl rfl rfl (Nat.le_succ _)
  | some t =>
    obtain ⟨⟨hne, hfresh⟩, heq⟩ := allocateFromPool_some pool h
    have hunr := hw.unreached_of_not_live hfresh
    have hspare : t ∉ s.spare := fun hs => hfresh (hw.spare_live hs)
    rw [heq]
    set s' : EptState := { s with heap := { s.heap with
      table := fun g => if g = t then fun _ => .zero else s.heap.table g
      live := .page t :: s.heap.live, allocated := .page t :: s.heap.allocated
      requests := s.heap.requests + 1 } } with hs'
    have htab : ∀ g, g ≠ t → s'.heap.table g = s.heap.table g := fun g hg => if_neg hg
    have hwalk : ∀ {p}, p.length ≤ 3 → s'.walk root p = s.walk root p := fun hp =>
      Radix.follow_of_unreached hunr htab hp
    refine ⟨⟨?_, ?_, ?_, hw.spare_nodup, ?_, hw.spare_ne_zero, ?_, ?_, ?_⟩,
      ⟨?_, ?_, rfl, rfl, le_rfl⟩, ?_, by simp⟩
    · intro p q f hp hq hf hf'
      exact hw.tree p q f hp hq ((hwalk hp).symm.trans hf) ((hwalk hq).symm.trans hf')
    · intro p f hp hf
      exact List.mem_cons_of_mem _ (hw.reached_live hp ((hwalk hp).symm.trans hf))
    · intro p f hp hf
      exact hw.reached_ne_zero hp ((hwalk hp).symm.trans hf)
    · intro f hf
      exact List.mem_cons_of_mem _ (hw.spare_live hf)
    · intro f hf i
      rw [htab f (fun h => hspare (h ▸ hf))]
      exact hw.spare_empty hf i
    · intro f hf p hp h
      exact hw.spare_unreached hf p hp ((hwalk hp).symm.trans h)
    · intro p f hp hf i hi
      have hf' := (hwalk hp.le).symm.trans hf
      have hft : f ≠ t := by
        rintro rfl
        exact hunr p hp.le hf'
      rw [htab f hft] at hi ⊢
      exact hw.inner hp hf' i hi
    · intro p f hp hf
      exact (hwalk hp).trans hf
    · intro p hp i
      exact congrArg (Option.getD · _) (Radix.entry_of_unreached hunr htab hp.le i)
    · intro t' ht'
      obtain rfl := Option.some.inj ht'
      refine ⟨hne, List.mem_cons_self, fun i => by simp [hs'], ?_, hspare⟩
      intro p hp h
      exact hunr p hp ((hwalk hp).symm.trans h)

/-- Moving the counter past a spare table keeps the tables well formed. -/
theorem EptTables.advance (hw : EptTables P root s) (n : ℕ)
    (hn : s.data.preallocatedEntriesCount ≤ n) :
    EptTables P root { s with data := { s.data with preallocatedEntriesCount := n } } := by
  have hsub : (s.data.preallocatedEntries.drop n).Sublist s.spare :=
    List.drop_sublist_drop_left _ hn
  exact ⟨hw.tree, hw.reached_live, hw.reached_ne_zero, hw.spare_nodup.sublist hsub,
    fun hf => hw.spare_live (hsub.subset hf), fun hf => hw.spare_ne_zero (hsub.subset hf),
    fun hf => hw.spare_empty (hsub.subset hf), fun hf => hw.spare_unreached (hsub.subset hf),
    hw.inner⟩

/-- The next spare table, once the counter has passed it, can be linked. -/
theorem EptTables.freshTable_of_spare (hw : EptTables P root s) {t : Frame}
    (ht : s.data.preallocatedEntries[s.data.preallocatedEntriesCount]? = some t) :
    FreshTable root { s with data := { s.data with
      preallocatedEntriesCount := s.data.preallocatedEntriesCount + 1 } } t := by
  obtain ⟨hlt, hget⟩ := List.getElem?_eq_some_iff.1 ht
  have hspare : s.spare = t :: s.data.preallocatedEntries.drop
      (s.data.preallocatedEntriesCount + 1) := by
    rw [EptState.spare, List.drop_eq_getElem_cons hlt, hget]
  have hmem : t ∈ s.spare := by rw [hspare]; exact List.mem_cons_self
  have hnd := hw.spare_nodup
  rw [hspare] at hnd
  exact ⟨hw.spare_ne_zero hmem, hw.spare_live hmem, hw.spare_empty hmem, hw.spare_unreached hmem,
    (List.nodup_cons.1 hnd).1⟩

/-- What `eptpAllocateEptEntry` does to well-formed tables. A null answer is a refusal of
the pool, once the preallocated array is full. -/
theorem allocate_spec (hasData : Bool) (hw : EptTables P root s) :
    EptTables P root (eptpAllocateEptEntry pool hasData s).2 ∧
      Extends root s (eptpAllocateEptEntry pool hasData s).2 ∧
      (∀ t, (eptpAllocateEptEntry pool hasData s).1 = some t →
        FreshTable root (eptpAllocateEptEntry pool hasData s).2 t) ∧
      ((eptpAllocateEptEntry pool hasData s).1 = none →
        (hasData = true → s.data.preallocatedEntries.length = kEptpNumberOfPreallocatedEntries) →
        s.heap.refused < (eptpAllocateEptEntry pool hasData s).2.heap.refused) := by
  cases hasData with
  | false =>
    obtain ⟨hw', he, hf, hn⟩ := allocateFromPool_spec pool hw
    exact ⟨hw', he, hf, fun h _ => hn h⟩
  | true =>
    have hw₁ := hw.advance (s.data.preallocatedEntriesCount + 1) (Nat.le_succ _)
    simp only [eptpAllocateEptEntry, if_true, eptpAllocateEptEntryFromPreAllocated]
    split_ifs with hc
    · obtain ⟨hw', he, hf, hn⟩ := allocateFromPool_spec pool hw₁
      exact ⟨hw', ⟨he.walk, he.leafEntry, he.pml4, he.preallocated, he.refused⟩, hf,
        fun h _ => hn h⟩
    · refine ⟨hw₁, extends_of_table_eq rfl rfl rfl le_rfl, ?_, ?_⟩
      · intro t ht
        exact hw.freshTable_of_spare ht
      · intro h hlen
        have := List.getElem?_eq_none_iff.1 h
        have := hlen trivial
        simp only at *
        omega

/-- Allocation leaves the tables in use alone. -/
theorem allocate_table (hasData : Bool) {f : Frame} (hf : .page f ∈ s.heap.live) :
    (eptpAllocateEptEntry pool hasData s).2.heap.table f = s.heap.table f := by
  have hpool : ∀ {s : EptState}, .page f ∈ s.heap.live →
      (eptpAllocateEptEntryFromPool pool s).2.heap.table f = s.heap.table f := by
    intro s hf
    cases h : (eptpAllocateEptEntryFromPool pool s).1 with
    | none => rw [allocateFromPool_none pool h]
    | some t =>
      obtain ⟨⟨-, hfresh⟩, heq⟩ := allocateFromPool_some pool h
      rw [heq]
      exact if_neg fun h' : f = t => hfresh (h' ▸ hf)
  cases hasData with
  | false => exact hpool hf
  | true =>
    simp only [eptpAllocateEptEntry, if_true, eptpAllocateEptEntryFromPreAllocated]
    split_ifs with hc
    · exact hpool (s := { s with data := { s.data with
        preallocatedEntriesCount := s.data.preallocatedEntriesCount + 1 } }) hf
    · rfl

/-! ## Linking a table -/

@[simp] theorem read_write_self (ptr : EntryPtr) (e : EptCommonEntry) :
    (s.write ptr e).read ptr = e := by
  simp [EptState.read, EptState.write, Heap.write]

theorem utilVaFromPfn_pa (t : Frame) : (utilPfnFromPa (utilPaFromVa t)).setWidth 36 = t := by
  unfold utilPfnFromPa utilPaFromVa
  apply BitVec.eq_of_toNat_eq
  have := t.isLt
  simp only [BitVec.toNat_setWidth, BitVec.toNat_ushiftRight, BitVec.toNat_shiftLeft,
    Nat.shiftLeft_eq, Nat.shiftRight_eq_div_pow]
  omega

/-- An initialized entry is present and opens all accesses. -/
theorem init_all_ne_zero (e : EptCommonEntry) (level : ℕ) (pa : BitVec 64) :
    (eptpInitTableEntry mtrr e level pa).all ≠ 0 :=
  EptCommonEntry.all_ne_zero_of_execute rfl

theorem init_open (e : EptCommonEntry) (level : ℕ) (pa : BitVec 64) :
    (eptpInitTableEntry mtrr e level pa).Open :=
  ⟨rfl, rfl, rfl⟩

theorem nextTable_init (e : EptCommonEntry) (level : ℕ) (t : Frame) :
    nextTable (eptpInitTableEntry mtrr e level (utilPaFromVa t)) = some t := by
  rw [nextTable_of_ne (init_all_ne_zero mtrr e level _)]
  exact congrArg some (utilVaFromPfn_pa t)

theorem heap_write_table (ptr : EntryPtr) (e : EptCommonEntry) :
    (s.write ptr e).heap.table = Radix.set s.heap.table ptr.1 ptr.2 e :=
  rfl

/-- Linking a fresh table under an unused entry. -/
theorem attach_spec (hw : EptTables P root s) {q : List TableIndex} {g t : Frame} {i : TableIndex}
    {e : EptCommonEntry} (hg : s.walk root q = some g) (hq : q.length < 3)
    (hi : (s.read (g, i)).all = 0) (ht : FreshTable root s t) (he : nextTable e = some t)
    (hep : P e) :
    EptTables P root (s.write (g, i) e) ∧ Extends root s (s.write (g, i) e) ∧
      (s.write (g, i) e).walk root (q ++ [i]) = some t := by
  have hunused : nextTable (s.heap.table g i) = none := nextTable_eq_none hi
  have ha : Radix.Attach nextTable s.heap.table root 3 q g i e t :=
    ⟨hg, hq, hunused, ht.unreached, fun j => by rw [ht.empty j]; exact nextTable_zero, he⟩
  have htree := hw.tree
  have hnone : s.walk root (q ++ [i]) = none := by
    rw [EptState.walk, Radix.follow_snoc]
    rw [EptState.walk] at hg
    rw [hg, Option.bind_some, hunused]
  have hfg : ∀ {f}, f ∈ s.spare → f ≠ g := by
    rintro f hf rfl
    exact hw.spare_unreached hf q hq.le hg
  refine ⟨⟨htree.attach ha, ?_, ?_, hw.spare_nodup, hw.spare_live, hw.spare_ne_zero, ?_, ?_, ?_⟩,
    ⟨?_, ?_, rfl, rfl, le_rfl⟩, ?_⟩
  · intro p f hp hf
    rcases Radix.reached_attach htree ha hp hf with rfl | h
    · exact ht.live
    · exact hw.reached_live hp h
  · intro p f hp hf
    rcases Radix.reached_attach htree ha hp hf with rfl | h
    · exact ht.ne_zero
    · exact hw.reached_ne_zero hp h
  · intro f hf j
    rw [heap_write_table, Radix.set_frame_ne (hfg hf)]
    exact hw.spare_empty hf j
  · intro f hf p hp h
    rcases Radix.reached_attach htree ha hp h with rfl | h
    · exact ht.not_spare hf
    · exact hw.spare_unreached hf p hp h
  · intro p f hp hf j hj
    rw [heap_write_table] at hj ⊢
    by_cases hs : f = g ∧ j = i
    · rw [hs.1, hs.2, Radix.set_self]
      exact hep
    · rw [Radix.set_of_ne hs] at hj ⊢
      rcases Radix.reached_attach htree ha hp.le hf with rfl | h
      · rw [ht.empty j] at hj
        exact (hj EptCommonEntry.all_zero).elim
      · exact hw.inner hp h j hj
  · intro p f hp hf
    exact Radix.follow_attach_of_some htree ha hp hf
  · intro p hp j
    unfold EptState.leafEntry
    rw [heap_write_table, Radix.entry_attach htree ha hp]
    by_cases h : p = q ++ [i]
    · rw [if_pos h, h, ht.empty j]
      exact (leafEntry_of_walk_none hnone j).symm
    · rw [if_neg h]
  · have hlen : (q ++ [i]).length ≤ 3 := by
      rw [List.length_append, List.length_singleton]
      omega
    rw [EptState.walk, heap_write_table, Radix.follow_attach htree ha _ hlen, if_pos rfl]

/-- What `eptpLinkTable` does : on success the entry leads to a table. -/
theorem link_spec (hopen : ∀ e : EptCommonEntry, e.Open → P e) (hasData : Bool) (level : ℕ)
    (hw : EptTables P root s) {q : List TableIndex} {g : Frame} {i : TableIndex}
    (hg : s.walk root q = some g) (hq : q.length < 3) :
    EptTables P root (eptpLinkTable pool mtrr hasData level (g, i) s).2 ∧
      Extends root s (eptpLinkTable pool mtrr hasData level (g, i) s).2 ∧
      ((eptpLinkTable pool mtrr hasData level (g, i) s).1 = true →
        (eptpLinkTable pool mtrr hasData level (g, i) s).2.walk root (q ++ [i]) =
          some (utilVaFromPfn ((eptpLinkTable pool mtrr hasData level (g, i) s).2.read
            (g, i)).physialAddress)) ∧
      ((eptpLinkTable pool mtrr hasData level (g, i) s).1 = false →
        (hasData = true → s.data.preallocatedEntries.length = kEptpNumberOfPreallocatedEntries) →
        s.heap.refused < (eptpLinkTable pool mtrr hasData level (g, i) s).2.heap.refused) := by
  unfold eptpLinkTable
  by_cases hi : (s.read (g, i)).all = 0
  · rw [if_pos hi]
    obtain ⟨hw₁, he₁, hf₁, hn₁⟩ := allocate_spec pool hasData hw
    cases ha : eptpAllocateEptEntry pool hasData s with
    | mk r s₁ =>
      rw [ha] at hw₁ he₁ hf₁ hn₁
      cases r with
      | none => exact ⟨hw₁, he₁, by simp, fun _ => hn₁ rfl⟩
      | some t =>
        have hfresh := hf₁ t rfl
        have hg₁ := he₁.walk hq.le hg
        have hunused : (s₁.read (g, i)).all = 0 := by
          have htab := allocate_table pool hasData (hw.reached_live hq.le hg)
          rw [ha] at htab
          rw [EptState.read, htab]
          exact hi
        obtain ⟨hw₂, he₂, hwalk⟩ := attach_spec hw₁ hg₁ hq hunused hfresh
          (nextTable_init mtrr (s₁.read (g, i)) level t) (hopen _ (init_open mtrr _ level _))
        refine ⟨hw₂, he₁.trans he₂, fun _ => ?_, by simp⟩
        simp only [EptState.modify, read_write_self]
        exact hwalk.trans (congrArg some (utilVaFromPfn_pa t).symm)
  · rw [if_neg hi]
    exact ⟨hw, .refl s, fun _ => walk_snoc hg hi, by simp⟩

/-! ## Leaf writes -/

/-- A write to a leaf slot moves no table and changes one leaf. -/
theorem write_leaf_spec (hw : EptTables P root s) {q : List TableIndex} {g : Frame}
    (hg : s.walk root q = some g) (hq : q.length = 3) (i : TableIndex) (e : EptCommonEntry) :
    EptTables P root (s.write (g, i) e) ∧
      (∀ {p}, p.length ≤ 3 → (s.write (g, i) e).walk root p = s.walk root p) ∧
      ∀ {p}, p.length = 3 → ∀ j, (s.write (g, i) e).leafEntry root p j =
        if p = q ∧ j = i then e else s.leafEntry root p j := by
  have hwalk : ∀ {p}, p.length ≤ 3 → (s.write (g, i) e).walk root p = s.walk root p :=
    fun hp => Radix.follow_set_leaf hw.tree hg hq hp
  have hfg : ∀ {f}, f ∈ s.spare → f ≠ g := by
    rintro f hf rfl
    exact hw.spare_unreached hf q hq.le hg
  refine ⟨⟨hw.tree.set_leaf hg hq, ?_, ?_, hw.spare_nodup, hw.spare_live, hw.spare_ne_zero, ?_, ?_,
    ?_⟩, hwalk, ?_⟩
  · intro p f hp hf
    exact hw.reached_live hp ((hwalk hp).symm.trans hf)
  · intro p f hp hf
    exact hw.reached_ne_zero hp ((hwalk hp).symm.trans hf)
  · intro f hf j
    rw [heap_write_table, Radix.set_frame_ne (hfg hf)]
    exact hw.spare_empty hf j
  · intro f hf p hp h
    exact hw.spare_unreached hf p hp ((hwalk hp).symm.trans h)
  · intro p f hp hf j hj
    have hf' := (hwalk hp.le).symm.trans hf
    have hne : f ≠ g := by
      rintro rfl
      obtain rfl := hw.tree p q f hp.le hq.le hf' hg
      omega
    rw [heap_write_table, Radix.set_frame_ne hne] at hj ⊢
    exact hw.inner hp hf' j hj
  · intro p hp j
    unfold EptState.leafEntry
    rw [heap_write_table, Radix.entry_set_leaf hw.tree hg hq hp.le]
    split_ifs <;> rfl

/-! ## Construction -/

/-- The indices a walk for `pa` uses from `level` down to the page directory. -/
def tablePath (pa : BitVec 64) : ℕ → List TableIndex
  | level + 2 => tableIndex (level + 2) pa :: tablePath pa (level + 1)
  | _ => []

theorem length_tablePath (pa : BitVec 64) : ∀ level, (tablePath pa (level + 1)).length = level
  | 0 => rfl
  | level + 1 => congrArg (· + 1) (length_tablePath pa level)

/-- Outcome `r` of constructing the tables along `path` for the leaf slot `i` of `pa`. -/
structure Constructed (root : Frame) (mtrr : Mtrr) (hasData : Bool) (path : List TableIndex)
    (i : TableIndex) (pa : BitVec 64) (s : EptState) (r : Option EntryPtr × EptState) : Prop where
  wf : EptWF root r.2
  walk : ∀ {p f}, p.length ≤ 3 → s.walk root p = some f → r.2.walk root p = some f
  other : ∀ {p}, p.length = 3 → ∀ j, ¬(p = path ∧ j = i) →
    r.2.leafEntry root p j = s.leafEntry root p j
  mapped : ∀ {ptr}, r.1 = some ptr → ptr.2 = i ∧ r.2.walk root path = some ptr.1 ∧
    r.2.leafEntry root path i = eptpInitTableEntry mtrr (s.leafEntry root path i) 1 pa
  failed : r.1 = none → r.2.leafEntry root path i = s.leafEntry root path i
  refuses : r.1 = none →
    (hasData = true → s.data.preallocatedEntries.length = kEptpNumberOfPreallocatedEntries) →
    s.heap.refused < r.2.heap.refused
  pml4 : r.2.data.eptPml4 = s.data.eptPml4
  preallocated : r.2.data.preallocatedEntries = s.data.preallocatedEntries
  refused : s.heap.refused ≤ r.2.heap.refused

/-- The same of any tables, apart from their being well formed. -/
structure Built (root : Frame) (mtrr : Mtrr) (hasData : Bool) (path : List TableIndex)
    (i : TableIndex) (pa : BitVec 64) (s : EptState) (r : Option EntryPtr × EptState) : Prop where
  walk : ∀ {p f}, p.length ≤ 3 → s.walk root p = some f → r.2.walk root p = some f
  other : ∀ {p}, p.length = 3 → ∀ j, ¬(p = path ∧ j = i) →
    r.2.leafEntry root p j = s.leafEntry root p j
  mapped : ∀ {ptr}, r.1 = some ptr → ptr.2 = i ∧ r.2.walk root path = some ptr.1 ∧
    r.2.leafEntry root path i = eptpInitTableEntry mtrr (s.leafEntry root path i) 1 pa
  failed : r.1 = none → r.2.leafEntry root path i = s.leafEntry root path i
  refuses : r.1 = none →
    (hasData = true → s.data.preallocatedEntries.length = kEptpNumberOfPreallocatedEntries) →
    s.heap.refused < r.2.heap.refused
  pml4 : r.2.data.eptPml4 = s.data.eptPml4
  preallocated : r.2.data.preallocatedEntries = s.data.preallocatedEntries
  refused : s.heap.refused ≤ r.2.heap.refused

/-- A step that only extends the tables can come first. -/
theorem Built.of_extends {hasData : Bool} {path : List TableIndex} {i : TableIndex}
    {pa : BitVec 64} {r : Option EntryPtr × EptState} (hpath : path.length = 3)
    (he : Extends root s s') (h : Built root mtrr hasData path i pa s' r) :
    Built root mtrr hasData path i pa s r where
  walk hp hf := h.walk hp (he.walk hp hf)
  other hp j hne := (h.other hp j hne).trans (he.leafEntry hp j)
  mapped hr := by
    obtain ⟨h1, h2, h3⟩ := h.mapped hr
    exact ⟨h1, h2, by rw [h3, he.leafEntry hpath]⟩
  failed hr := (h.failed hr).trans (he.leafEntry hpath i)
  refuses hr hlen := lt_of_le_of_lt he.refused (h.refuses hr fun hd => by
    rw [he.preallocated]; exact hlen hd)
  pml4 := h.pml4.trans he.pml4
  preallocated := h.preallocated.trans he.preallocated
  refused := he.refused.trans h.refused

/-- `eptpConstructTables` from the table reached along `q` constructs the rest of the path. -/
theorem construct_spec (hopen : ∀ e : EptCommonEntry, e.Open → P e) (hasData : Bool)
    (pa : BitVec 64) : ∀ (level : ℕ) {q : List TableIndex} {table : Frame} {s : EptState},
      q.length + level = 4 → 1 ≤ level → EptTables P root s → s.walk root q = some table →
      EptTables P root (eptpConstructTables pool mtrr hasData level table pa s).2 ∧
        Built root mtrr hasData (q ++ tablePath pa level) (tableIndex 1 pa) pa s
          (eptpConstructTables pool mtrr hasData level table pa s)
  | 0, _, _, _, _, hl, _, _ => by omega
  | 1, q, table, s, hq, _, hw, hg => by
    have hq3 : q.length = 3 := by omega
    obtain ⟨hw', hwalk, hleaf⟩ := write_leaf_spec hw hg hq3 (tableIndex 1 pa)
      (eptpInitTableEntry mtrr (s.read (table, tableIndex 1 pa)) 1 pa)
    simp only [eptpConstructTables, tablePath, List.append_nil, EptState.modify]
    refine ⟨hw', fun hp hf => (hwalk hp).trans hf, ?_, ?_, by simp, by simp, rfl, rfl, le_rfl⟩
    · intro p hp j hne
      rw [hleaf hp, if_neg hne]
    · intro ptr hptr
      obtain rfl := Option.some.inj hptr
      refine ⟨rfl, (hwalk hq3.le).trans hg, ?_⟩
      rw [hleaf hq3, if_pos ⟨rfl, rfl⟩, leafEntry_of_walk hg]
  | level + 2, q, table, s, hq, _, hw, hg => by
    obtain ⟨hw₁, he₁, hlink, hfail⟩ := link_spec pool mtrr hopen hasData (level + 2) hw hg
      (i := tableIndex (level + 2) pa) (by omega)
    have hpath : q ++ tablePath pa (level + 2) =
        (q ++ [tableIndex (level + 2) pa]) ++ tablePath pa (level + 1) := by
      simp [tablePath]
    have hlen : (q ++ tablePath pa (level + 2)).length = 3 := by
      rw [List.length_append, length_tablePath]
      omega
    rw [eptpConstructTables, if_neg (by omega)]
    cases h : eptpLinkTable pool mtrr hasData (level + 2) (table, tableIndex (level + 2) pa) s with
    | mk ok s₁ =>
      rw [h] at hw₁ he₁ hlink hfail
      simp only [h]
      cases ok with
      | false =>
        refine ⟨hw₁, he₁.walk, fun hp j _ => he₁.leafEntry hp j, by simp, fun _ => ?_,
          fun _ => hfail rfl, he₁.pml4, he₁.preallocated, he₁.refused⟩
        exact he₁.leafEntry hlen _
      | true =>
        obtain ⟨hw₂, hbuilt⟩ := construct_spec hopen hasData pa (level + 1)
          (by simp; omega) (by omega) hw₁ (hlink rfl)
        refine ⟨hw₂, Built.of_extends mtrr hlen he₁ ?_⟩
        rw [hpath]
        exact hbuilt

/-- Construction in the tables of the driver. -/
theorem construct_spec_aux (hasData : Bool) (pa : BitVec 64) (level : ℕ) {q : List TableIndex}
    {table : Frame} {s : EptState} (hq : q.length + level = 4) (hlevel : 1 ≤ level)
    (hw : EptWF root s) (hg : s.walk root q = some table) :
    Constructed root mtrr hasData (q ++ tablePath pa level) (tableIndex 1 pa) pa s
      (eptpConstructTables pool mtrr hasData level table pa s) := by
  obtain ⟨hw', h⟩ := construct_spec pool mtrr (fun _ => id) hasData pa level hq hlevel hw hg
  exact ⟨hw', h.walk, h.other, h.mapped, h.failed, h.refuses, h.pml4, h.preallocated, h.refused⟩

end Construct

end DeviceMon
