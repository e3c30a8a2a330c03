import DeviceMon.EptPages

/-!
# Start-up of the tables

`eptInitialization` builds the tables from an empty PML4. Each address it maps keeps
the tables well formed, and each table it sets aside joins the spare ones. When it
succeeds the tables are ready and every present leaf is one that was just initialized
(`eptInitialization_spec`).
-/

namespace DeviceMon

open EptState

section Start

variable {root : Frame} {s s' : EptState} (pool : Pool) (mtrr : Mtrr)

/-- Well-formedness only reads the tables, the live blocks and the spare tables. -/
theorem EptWF.of_heap (hw : EptWF root s) (ht : s'.heap.table = s.heap.table)
    (hl : ∀ b ∈ s.heap.live, b ∈ s'.heap.live) (hs : s'.spare = s.spare) : EptWF root s' := by
  have hwalk : ∀ p, s'.walk root p = s.walk root p := fun p => by
    rw [EptState.walk, EptState.walk, ht]
  refine ⟨by rw [ht]; exact hw.tree, ?_, ?_, by rw [hs]; exact hw.spare_nodup, ?_, ?_, ?_, ?_, ?_⟩
  · intro p f hp hf
    exact hl _ (hw.reached_live hp (by rwa [hwalk] at hf))
  · intro p f hp hf
    exact hw.reached_ne_zero hp (by rwa [hwalk] at hf)
  · intro f hf
    exact hl _ (hw.spare_live (by rwa [hs] at hf))
  · intro f hf
    exact hw.spare_ne_zero (by rwa [hs] at hf)
  · intro f hf
    rw [ht]
    exact hw.spare_empty (by rwa [hs] at hf)
  · intro f hf
    rw [ht]
    exact hw.spare_unreached (by rwa [hs] at hf)
  · intro p f hp hf i hi
    rw [ht] at hi ⊢
    exact hw.inner hp (by rwa [hwalk] at hf) i hi

/-- A leaf that is empty or was initialized for its page. -/
def FreshLeaf (mtrr : Mtrr) (p : Page) (e : EptCommonEntry) : Prop :=
  e = .zero ∨ ∃ old pa, pageOf pa = p ∧ e = eptpInitTableEntry mtrr old 1 pa

theorem FreshLeaf.open {p : Page} {e : EptCommonEntry} (h : FreshLeaf mtrr p e)
    (hne : e.all ≠ 0) : e.Open := by
  rcases h with rfl | ⟨old, pa, -, rfl⟩
  · exact (hne EptCommonEntry.all_zero).elim
  · exact init_open mtrr old 1 pa

/-- All leaves below `root` are empty or initialized for their pages. -/
def FreshLeaves (mtrr : Mtrr) (root : Frame) (s : EptState) : Prop :=
  ∀ p, FreshLeaf mtrr p (s.leafEntry root (pagePath p) (pageIndex p))

/-- An empty PML4 has no leaf. -/
theorem EptWF.leafEntry_zeroPage (h : Heap) (pml4 : Frame) (p : Page) :
    EptState.leafEntry pml4 ⟨h.zeroPage pml4, .zero⟩ (pagePath p) (pageIndex p) = .zero := by
  refine leafEntry_of_walk_none ?_ _
  have htab : (h.zeroPage pml4).table pml4 = fun _ => .zero := if_pos rfl
  rw [EptState.walk, pagePath, Radix.follow, htab, nextTable_zero, Option.bind_none]

/-- An empty PML4 is a tree by itself. -/
theorem EptWF.zeroPage {h : Heap} {pml4 : Frame} (hne : pml4 ≠ 0) (hl : .page pml4 ∈ h.live) :
    EptWF pml4 ⟨h.zeroPage pml4, .zero⟩ ∧ FreshLeaves mtrr pml4 ⟨h.zeroPage pml4, .zero⟩ := by
  set s : EptState := ⟨h.zeroPage pml4, .zero⟩
  have htab : s.heap.table pml4 = fun _ => .zero := if_pos rfl
  have hcons : ∀ i p, s.walk pml4 (i :: p) = none := by
    intro i p
    rw [EptState.walk, Radix.follow, htab, nextTable_zero, Option.bind_none]
  have hwalk : ∀ {p f}, s.walk pml4 p = some f → p = [] ∧ f = pml4 := by
    intro p f hf
    cases p with
    | nil => exact ⟨rfl, (Option.some.inj hf).symm⟩
    | cons i p => rw [hcons] at hf; cases hf
  have hspare : s.spare = [] := rfl
  refine ⟨⟨?_, ?_, ?_, ?_, ?_, ?_, ?_, ?_, ?_⟩, fun p => Or.inl ?_⟩
  · intro p q f _ _ hf hf'
    rw [(hwalk hf).1, (hwalk hf').1]
  · intro p f _ hf
    rw [(hwalk hf).2]
    exact hl
  · intro p f _ hf
    rw [(hwalk hf).2]
    exact hne
  · rw [hspare]
    exact List.nodup_nil
  · simp [hspare]
  · simp [hspare]
  · simp [hspare]
  · simp [hspare]
  · intro p f _ hf i hi
    rw [(hwalk hf).2, htab] at hi
    exact (hi EptCommonEntry.all_zero).elim
  · exact EptWF.leafEntry_zeroPage h pml4 p

/-- Mapping one address during start-up. -/
theorem constructTables_start (hw : EptWF root s) (hf : FreshLeaves mtrr root s)
    (pa : BitVec 64) :
    EptWF root (eptpConstructTables pool mtrr false 4 root pa s).2 ∧
      FreshLeaves mtrr root (eptpConstructTables pool mtrr false 4 root pa s).2 ∧
      (eptpConstructTables pool mtrr false 4 root pa s).2.data.preallocatedEntries =
        s.data.preallocatedEntries := by
  have hc := construct_spec_aux pool mtrr false pa 4 (q := []) rfl (by omega) hw rfl
  rw [List.nil_append, tablePath_eq, tableIndex_leaf] at hc
  refine ⟨hc.wf, fun p => ?_, hc.preallocated⟩
  by_cases hp : p = pageOf pa
  · subst hp
    cases hr : (eptpConstructTables pool mtrr false 4 root pa s).1 with
    | none =>
      rw [hc.failed hr]
      exact hf _
    | some ptr => exact Or.inr ⟨_, pa, rfl, (hc.mapped hr).2.2⟩
  · rw [hc.other (length_pagePath p) _ fun h => hp (page_ext h.1 h.2)]
    exact hf p

/-- Mapping a list of addresses during start-up. -/
theorem constructAll_start (pas : List (BitVec 64)) (hw : EptWF root s)
    (hf : FreshLeaves mtrr root s) :
    EptWF root (eptpConstructAll pool mtrr root pas s).2 ∧
      FreshLeaves mtrr root (eptpConstructAll pool mtrr root pas s).2 ∧
      (eptpConstructAll pool mtrr root pas s).2.data.preallocatedEntries =
        s.data.preallocatedEntries := by
  induction pas generalizing s with
  | nil => exact ⟨hw, hf, rfl⟩
  | cons pa pas ih =>
    obtain ⟨hw₁, hf₁, hp₁⟩ := constructTables_start pool mtrr hw hf pa
    rw [eptpConstructAll]
    generalize eptpConstructTables pool mtrr false 4 root pa s = r at hw₁ hf₁ hp₁ ⊢
    obtain ⟨r, s₁⟩ := r
    cases r with
    | none => exact ⟨hw₁, hf₁, hp₁⟩
    | some ptr =>
      obtain ⟨hw₂, hf₂, hp₂⟩ := ih hw₁ hf₁
      exact ⟨hw₂, hf₂, hp₂.trans hp₁⟩

/-- The state with a given list of preallocated tables, none of them used. -/
def withPreallocated (root : Frame) (entries : List Frame) (s : EptState) : EptState :=
  ⟨s.heap, { EptData.zero with eptPml4 := root, preallocatedEntries := entries }⟩

@[simp] theorem spare_withPreallocated (root : Frame) (entries : List Frame) (s : EptState) :
    (withPreallocated root entries s).spare = entries :=
  rfl

/-- A table from the pool can join the preallocated ones. -/
theorem EptWF.addSpare {entries : List Frame} {t : Frame}
    (hw : EptWF root (withPreallocated root entries s))
    (ht : FreshTable root (withPreallocated root entries s) t) :
    EptWF root (withPreallocated root (entries ++ [t]) s) := by
  have hmem : ∀ {f}, f ∈ (withPreallocated root (entries ++ [t]) s).spare →
      f ∈ (withPreallocated root entries s).spare ∨ f = t := by
    intro f hf
    simpa using hf
  refine ⟨hw.tree, hw.reached_live, hw.reached_ne_zero, ?_, ?_, ?_, ?_, ?_, hw.inner⟩
  · have hnd := hw.spare_nodup
    have hns := ht.not_spare
    rw [spare_withPreallocated] at hnd hns ⊢
    exact List.Nodup.append hnd (List.nodup_singleton t) (by simpa using hns)
  · intro f hf
    rcases hmem hf with hf | rfl
    · exact hw.spare_live hf
    · exact ht.live
  · intro f hf
    rcases hmem hf with hf | rfl
    · exact hw.spare_ne_zero hf
    · exact ht.ne_zero
  · intro f hf
    rcases hmem hf with hf | rfl
    · exact hw.spare_empty hf
    · exact ht.empty
  · intro f hf
    rcases hmem hf with hf | rfl
    · exact hw.spare_unreached hf
    · exact ht.unreached

theorem allocateFromPool_withPreallocated (entries : List Frame) :
    eptpAllocateEptEntryFromPool pool (withPreallocated root entries s) =
      ((eptpAllocateEptEntryFromPool pool s).1,
        withPreallocated root entries (eptpAllocateEptEntryFromPool pool s).2) := by
  unfold eptpAllocateEptEntryFromPool withPreallocated Heap.allocatePage
  cases pool.page s.heap.requests s.heap <;> rfl

/-- Filling the array of preallocated tables changes no leaf. -/
theorem fillPreallocated_start (n : ℕ) {entries : List Frame}
    (hw : EptWF root (withPreallocated root entries s))
    (hok : (eptpFillPreallocated pool n entries s).1 = true) :
    EptWF root (withPreallocated root (eptpFillPreallocated pool n entries s).2.1
        (eptpFillPreallocated pool n entries s).2.2) ∧
      (∀ p, (eptpFillPreallocated pool n entries s).2.2.leafEntry root (pagePath p) (pageIndex p) =
        s.leafEntry root (pagePath p) (pageIndex p)) ∧
      (eptpFillPreallocated pool n entries s).2.1.length = entries.length + n := by
  induction n generalizing entries s with
  | zero => exact ⟨hw, fun _ => rfl, rfl⟩
  | succ n ih =>
    obtain ⟨hw₁, he₁, ht₁, -⟩ := allocateFromPool_spec pool hw
    rw [allocateFromPool_withPreallocated] at hw₁ he₁ ht₁
    have hstep : eptpAllocateEptEntry pool false s = eptpAllocateEptEntryFromPool pool s := rfl
    rw [eptpFillPreallocated, hstep] at hok ⊢
    generalize eptpAllocateEptEntryFromPool pool s = r at hw₁ he₁ ht₁ hok ⊢
    obtain ⟨t, s₁⟩ := r
    cases t with
    | none => cases hok
    | some t =>
      obtain ⟨hw₂, hf₂, hl₂⟩ := ih (EptWF.addSpare hw₁ (ht₁ t rfl)) hok
      refine ⟨hw₂, fun p => (hf₂ p).trans ?_, ?_⟩
      · exact he₁.leafEntry (length_pagePath p) (pageIndex p)
      · rw [hl₂, List.length_append, List.length_singleton]
        omega

/-- A successful start : every allocation and every mapping succeeded. -/
theorem eptInitialization_some {runs : List PhysicalMemoryRun} {apicBase : BitVec 64}
    {h h' : Heap} {data : EptData}
    (hok : eptInitialization pool mtrr runs apicBase h = (some data, h')) :
    ∃ (eptData : PoolBlock) (h₁ : Heap) (pml4 : Frame) (h₂ : Heap) (s₃ : EptState)
      (array : PoolBlock) (h₄ : Heap) (entries : List Frame) (s₅ : EptState),
      h.allocateData pool = (some eptData, h₁) ∧
      h₁.allocatePage pool = (some pml4, h₂) ∧
      eptpConstructAll pool mtrr pml4 (runs.flatMap PhysicalMemoryRun.addresses ++
        [apicBase * 0x1000]) ⟨h₂.zeroPage pml4, .zero⟩ = (true, s₃) ∧
      s₃.heap.allocateData pool = (some array, h₄) ∧
      eptpFillPreallocated pool kEptpNumberOfPreallocatedEntries [] { s₃ with heap := h₄ } =
        (true, entries, s₅) ∧
      data = ⟨pml4, entries, 0, array, eptData⟩ ∧ h' = s₅.heap := by
  unfold eptInitialization at hok
  split at hok
  · cases hok
  · rename_i eptData h₁ hdata
    split at hok
    · cases hok
    · rename_i pml4 h₂ hpage
      simp only at hok
      split at hok
      · cases hok
      · rename_i s₃ hall
        split at hok
        · cases hok
        · rename_i array h₄ harr
          split at hok
          · cases hok
          · rename_i entries s₅ hfill
            cases hok
            exact ⟨eptData, h₁, pml4, h₂, s₃, array, h₄, _, s₅, hdata, hpage, hall, harr, hfill,
              rfl, rfl⟩

theorem allocatePage_some {h h' : Heap} {f : Frame} (hp : h.allocatePage pool = (some f, h')) :
    f ≠ 0 ∧ .page f ∈ h'.live := by
  unfold Heap.allocatePage at hp
  cases hf : pool.page h.requests h with
  | none => rw [hf] at hp; cases hp
  | some g =>
    rw [hf] at hp
    cases hp
    exact ⟨(pool.page_fresh hf).1, List.mem_cons_self⟩

theorem allocateData_some {h h' : Heap} {b : PoolBlock}
    (hd : h.allocateData pool = (some b, h')) :
    h'.table = h.table ∧ ∀ b ∈ h.live, b ∈ h'.live := by
  unfold Heap.allocateData at hd
  split_ifs at hd
  · cases hd
    exact ⟨rfl, fun b hb => List.mem_cons_of_mem _ hb⟩
  · cases hd

/-- A successful start gives ready tables whose leaves are those of the mapped addresses. -/
theorem eptInitialization_leaves {runs : List PhysicalMemoryRun} {apicBase : BitVec 64}
    {h h' : Heap} {data : EptData}
    (hok : eptInitialization pool mtrr runs apicBase h = (some data, h')) :
    EptReady ⟨h', data⟩ ∧ ∃ (pml4 : Frame) (h₂ : Heap) (s₃ : EptState),
      pml4 ≠ 0 ∧ .page pml4 ∈ h₂.live ∧
      eptpConstructAll pool mtrr pml4 (runs.flatMap PhysicalMemoryRun.addresses ++
        [apicBase * 0x1000]) ⟨h₂.zeroPage pml4, .zero⟩ = (true, s₃) ∧
      ∀ p, (⟨h', data⟩ : EptState).leaf p = s₃.leafEntry pml4 (pagePath p) (pageIndex p) := by
  obtain ⟨eptData, h₁, pml4, h₂, s₃, array, h₄, entries, s₅, -, hpage, hall, harr, hfill, rfl,
    rfl⟩ := eptInitialization_some pool mtrr hok
  obtain ⟨hne, hlive⟩ := allocatePage_some pool hpage
  obtain ⟨ht₄, hl₄⟩ := allocateData_some pool harr
  obtain ⟨hw₂, hf₂⟩ := EptWF.zeroPage mtrr hne hlive
  obtain ⟨hw₃, -, hp₃⟩ := constructAll_start pool mtrr
    (runs.flatMap PhysicalMemoryRun.addresses ++ [apicBase * 0x1000]) hw₂ hf₂
  rw [hall] at hw₃ hp₃
  have hspare : s₃.spare = [] := by
    rw [EptState.spare, hp₃]
    exact List.drop_nil
  have hw₄ : EptWF pml4 (withPreallocated pml4 [] { s₃ with heap := h₄ }) :=
    hw₃.of_heap ht₄ hl₄ hspare.symm
  obtain ⟨hw₅, hf₅, hl₅⟩ := fillPreallocated_start pool kEptpNumberOfPreallocatedEntries
    hw₄ (by rw [hfill])
  rw [hfill] at hw₅ hf₅ hl₅
  have hready : EptReady ⟨s₅.heap, ⟨pml4, entries, 0, array, eptData⟩⟩ :=
    ⟨hw₅.of_heap rfl (fun _ hb => hb) rfl, by rw [hl₅]; rfl⟩
  refine ⟨hready, pml4, h₂, s₃, hne, hlive, hall, fun p => ?_⟩
  have hp : s₅.leafEntry pml4 (pagePath p) (pageIndex p) =
      s₃.leafEntry pml4 (pagePath p) (pageIndex p) := by
    refine (hf₅ p).trans ?_
    rw [EptState.leafEntry, ht₄]
    rfl
  rw [leaf_eq_leafEntry hready]
  exact hp

/-- A successful start gives ready tables whose leaves are empty or just initialized. -/
theorem eptInitialization_spec {runs : List PhysicalMemoryRun} {apicBase : BitVec 64}
    {h h' : Heap} {data : EptData}
    (hok : eptInitialization pool mtrr runs apicBase h = (some data, h')) :
    EptReady ⟨h', data⟩ ∧ ∀ p, FreshLeaf mtrr p ((⟨h', data⟩ : EptState).leaf p) := by
  obtain ⟨hready, pml4, h₂, s₃, hne, hlive, hall, hleaf⟩ := eptInitialization_leaves pool mtrr hok
  obtain ⟨hw₂, hf₂⟩ := EptWF.zeroPage mtrr hne hlive
  obtain ⟨-, hf₃, -⟩ := constructAll_start pool mtrr
    (runs.flatMap PhysicalMemoryRun.addresses ++ [apicBase * 0x1000]) hw₂ hf₂
  rw [hall] at hf₃
  exact ⟨hready, fun p => by rw [hleaf]; exact hf₃ p⟩

end Start

/-! ## A machine -/

/-- A pool that hands out the frames one after another, as long as they are free. -/
def bumpPool : Pool where
  page n h :=
    if BitVec.ofNat 36 (n + 1) ≠ 0 ∧ .page (BitVec.ofNat 36 (n + 1)) ∉ h.live then
      some (BitVec.ofNat 36 (n + 1))
    else none
  data _ := true
  page_fresh := by
    intro n h f hf
    split_ifs at hf with hfree
    obtain rfl := Option.some.inj hf
    exact hfree

/-- No MTRR enabled : all memory is uncacheable. -/
def uncached : Mtrr :=
  ⟨[], MemoryType.uncacheable⟩

/-- Start-up on an empty heap, with one page of memory and the local APIC. -/
def boot : Option EptData × Heap :=
  eptInitialization bumpPool uncached [⟨0, 1⟩] 0xFEE00 ⟨fun _ _ => .zero, [], [], [], 0, 0⟩

/-- The tables after start-up. -/
def bootEpt : EptState :=
  ⟨boot.2, boot.1.getD .zero⟩

theorem boot_eq : boot = (some bootEpt.data, bootEpt.heap) := by
  obtain ⟨data, hdata⟩ : ∃ data, boot.1 = some data :=
    Option.isSome_iff_exists.1 (by decide +kernel)
  refine Prod.ext ?_ rfl
  rw [bootEpt, hdata]
  rfl

theorem bootEpt_ready : EptReady bootEpt :=
  (eptInitialization_spec bumpPool uncached boot_eq).1

theorem bootEpt_open (p : Page) (hne : (bootEpt.leaf p).all ≠ 0) : (bootEpt.leaf p).Open :=
  ((eptInitialization_spec bumpPool uncached boot_eq).2 p).open uncached hne

end DeviceMon
