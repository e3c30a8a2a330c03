import DeviceMon.EptStart

/-!
# The initial map

Which pages `EptInitialization` maps. The two loops over the physical memory runs pass
the first address of every page of a run, once each, and the local APIC comes last. Each
call initializes the leaf of its own page and no other, whatever tables the pages share,
so after a successful start the present leaves are those of the runs and of the APIC
page, and each maps its page to the frame of the same number
(`eptInitialization_maps`).
-/

namespace DeviceMon

/-- The leaf of `p` maps it to the frame of the same number, opens all accesses and has
the memory type of the page. -/
structure MapsIdentity (mtrr : Mtrr) (p : Page) (e : EptCommonEntry) : Prop where
  frame : e.physialAddress = p
  allows : e.Open
  type : e.memoryType = (eptpGetMemoryType mtrr (pageAddr p)).setWidth 3

/-- `p` is a page of the run. -/
def PhysicalMemoryRun.Contains (r : PhysicalMemoryRun) (p : Page) : Prop :=
  r.basePage.toNat ≤ p.toNat ∧ p.toNat < r.basePage.toNat + r.pageCount

section Map

variable {root : Frame} {s : EptState} (pool : Pool) (mtrr : Mtrr)

theorem init_mapsIdentity (old : EptCommonEntry) (p : Page) :
    MapsIdentity mtrr p (eptpInitTableEntry mtrr old 1 (pageAddr p)) :=
  ⟨by rw [init_physialAddress, pageOf_pageAddr], init_open mtrr old 1 _, rfl⟩

/-- Mapping one address initializes the leaf of its page and changes no other. -/
theorem constructTables_leaf (hw : EptWF root s) (pa : BitVec 64)
    (hok : (eptpConstructTables pool mtrr false 4 root pa s).1 ≠ none) (p : Page) :
    (eptpConstructTables pool mtrr false 4 root pa s).2.leafEntry root (pagePath p) (pageIndex p) =
      if p = pageOf pa then
        eptpInitTableEntry mtrr (s.leafEntry root (pagePath p) (pageIndex p)) 1 pa
      else s.leafEntry root (pagePath p) (pageIndex p) := by
  have hc := construct_spec_aux pool mtrr false pa 4 (q := []) rfl (by omega) hw rfl
  rw [List.nil_append, tablePath_eq, tableIndex_leaf] at hc
  split_ifs with hp
  · rw [hp]
    obtain ⟨ptr, hptr⟩ := Option.ne_none_iff_exists'.1 hok
    exact (hc.mapped hptr).2.2
  · exact hc.other (length_pagePath p) _ fun h => hp (page_ext h.1 h.2)

/-- Mapping a list of addresses : each leaf stays, or was initialized for one of them. -/
theorem constructAll_leaf (pas : List (BitVec 64)) (hw : EptWF root s)
    (hf : FreshLeaves mtrr root s) (hok : (eptpConstructAll pool mtrr root pas s).1 = true)
    (p : Page) :
    ((∀ pa ∈ pas, pageOf pa ≠ p) ∧
        (eptpConstructAll pool mtrr root pas s).2.leafEntry root (pagePath p) (pageIndex p) =
          s.leafEntry root (pagePath p) (pageIndex p)) ∨
      ∃ pa ∈ pas, pageOf pa = p ∧ ∃ old,
        (eptpConstructAll pool mtrr root pas s).2.leafEntry root (pagePath p) (pageIndex p) =
          eptpInitTableEntry mtrr old 1 pa := by
  induction pas generalizing s with
  | nil => exact Or.inl ⟨fun _ hpa => (List.not_mem_nil hpa).elim, rfl⟩
  | cons pa pas ih =>
    obtain ⟨hw₁, hf₁, -⟩ := constructTables_start pool mtrr hw hf pa
    have hleaf := constructTables_leaf pool mtrr hw pa
    rw [eptpConstructAll] at hok ⊢
    generalize eptpConstructTables pool mtrr false 4 root pa s = r at hw₁ hf₁ hleaf hok ⊢
    obtain ⟨r, s₁⟩ := r
    cases r with
    | none => cases hok
    | some ptr =>
      rcases ih hw₁ hf₁ hok with ⟨hnot, heq⟩ | ⟨pa', hmem, hpage, old, heq⟩
      · rw [heq, hleaf (Option.some_ne_none ptr) p]
        split_ifs with hp
        · exact Or.inr ⟨pa, List.mem_cons_self, hp.symm, _, rfl⟩
        · refine Or.inl ⟨fun pa' hpa' => ?_, rfl⟩
          rcases List.mem_cons.1 hpa' with rfl | hpa'
          · exact Ne.symm hp
          · exact hnot pa' hpa'
      · exact Or.inr ⟨pa', List.mem_cons_of_mem _ hmem, hpage, old, heq⟩

/-! ## The addresses -/

theorem toNat_address {r : PhysicalMemoryRun} {i : ℕ}
    (hr : r.basePage.toNat + r.pageCount ≤ 2 ^ 36) (hi : i < r.pageCount) :
    (r.basePage * 0x1000 + BitVec.ofNat 64 i * 0x1000).toNat = (r.basePage.toNat + i) * 4096 := by
  have hpage : (0x1000 : BitVec 64).toNat = 4096 := rfl
  simp only [BitVec.toNat_add, BitVec.toNat_mul, BitVec.toNat_ofNat, hpage]
  omega

/-- The loops pass the first address of every page of a run. -/
theorem mem_addresses {r : PhysicalMemoryRun} (hr : r.basePage.toNat + r.pageCount ≤ 2 ^ 36)
    {pa : BitVec 64} : pa ∈ r.addresses ↔ ∃ p, r.Contains p ∧ pa = pageAddr p := by
  rw [PhysicalMemoryRun.addresses, List.mem_map]
  constructor
  · rintro ⟨i, hi, rfl⟩
    have hlt := List.mem_range.1 hi
    have hp : (BitVec.ofNat 36 (r.basePage.toNat + i)).toNat = r.basePage.toNat + i := by
      rw [BitVec.toNat_ofNat]
      exact Nat.mod_eq_of_lt (by omega)
    refine ⟨BitVec.ofNat 36 (r.basePage.toNat + i), ⟨by omega, by omega⟩, ?_⟩
    refine BitVec.eq_of_toNat_eq ?_
    rw [toNat_address hr hlt, toNat_pageAddr, hp]
  · rintro ⟨p, ⟨h1, h2⟩, rfl⟩
    refine ⟨p.toNat - r.basePage.toNat, List.mem_range.2 (by omega), ?_⟩
    refine BitVec.eq_of_toNat_eq ?_
    rw [toNat_address hr (by omega), toNat_pageAddr]
    congr 1
    omega

theorem apic_address (apicBase : BitVec 24) :
    apicBase.setWidth 64 * 0x1000 = pageAddr (apicBase.setWidth 36) := by
  refine BitVec.eq_of_toNat_eq ?_
  have := apicBase.isLt
  have hpage : (0x1000 : BitVec 64).toNat = 4096 := rfl
  rw [toNat_pageAddr]
  simp only [BitVec.toNat_mul, BitVec.toNat_setWidth, hpage]
  omega

/-! ## The map -/

/-- After a successful start a page has a leaf exactly if it lies in a run or is the page of
the local APIC, and then the leaf maps it to the frame of the same number. -/
theorem eptInitialization_maps {runs : List PhysicalMemoryRun} {apicBase : BitVec 24}
    {h h' : Heap} {data : EptData}
    (hruns : ∀ r ∈ runs, r.basePage.toNat + r.pageCount ≤ 2 ^ 36)
    (hok : eptInitialization pool mtrr runs (apicBase.setWidth 64) h = (some data, h'))
    (p : Page) :
    (((⟨h', data⟩ : EptState).leaf p).all ≠ 0 ↔
        (∃ r ∈ runs, r.Contains p) ∨ p.toNat = apicBase.toNat) ∧
      (((⟨h', data⟩ : EptState).leaf p).all ≠ 0 →
        MapsIdentity mtrr p ((⟨h', data⟩ : EptState).leaf p)) := by
  obtain ⟨-, pml4, h₂, s₃, hne, hlive, hall, hleaf⟩ := eptInitialization_leaves pool mtrr hok
  obtain ⟨hw₂, hf₂⟩ := EptWF.zeroPage mtrr hne hlive
  have hcases := constructAll_leaf pool mtrr _ hw₂ hf₂ (by rw [hall]) p
  rw [hall] at hcases
  -- the addresses are the first ones of the pages to map
  have hmem : ∀ pa, pa ∈ runs.flatMap PhysicalMemoryRun.addresses ++
      [apicBase.setWidth 64 * 0x1000] ↔
      ∃ p, ((∃ r ∈ runs, r.Contains p) ∨ p.toNat = apicBase.toNat) ∧ pa = pageAddr p := by
    intro pa
    rw [List.mem_append, List.mem_flatMap, List.mem_singleton, apic_address]
    have hapic : (apicBase.setWidth 36).toNat = apicBase.toNat := by
      have := apicBase.isLt
      rw [BitVec.toNat_setWidth]
      omega
    constructor
    · rintro (⟨r, hr, hpa⟩ | rfl)
      · obtain ⟨p, hp, rfl⟩ := (mem_addresses (hruns r hr)).1 hpa
        exact ⟨p, Or.inl ⟨r, hr, hp⟩, rfl⟩
      · exact ⟨_, Or.inr hapic, rfl⟩
    · rintro ⟨p, ⟨r, hr, hp⟩ | hp, rfl⟩
      · exact Or.inl ⟨r, hr, (mem_addresses (hruns r hr)).2 ⟨p, hp, rfl⟩⟩
      · refine Or.inr (congrArg pageAddr (BitVec.eq_of_toNat_eq ?_))
        rw [hp, hapic]
  rw [hleaf]
  rcases hcases with ⟨hnot, heq⟩ | ⟨pa, hpa, hpage, old, heq⟩
  · -- nothing was mapped at `p`, so its leaf is that of an empty PML4
    have hzero : s₃.leafEntry pml4 (pagePath p) (pageIndex p) = .zero := by
      rw [heq]
      exact EptWF.leafEntry_zeroPage h₂ pml4 p
    rw [hzero]
    refine ⟨⟨fun hne => (hne EptCommonEntry.all_zero).elim, fun hin => ?_⟩,
      fun hne => (hne EptCommonEntry.all_zero).elim⟩
    exact (hnot (pageAddr p) ((hmem _).2 ⟨p, hin, rfl⟩) (pageOf_pageAddr p)).elim
  · obtain ⟨p', hin, rfl⟩ := (hmem pa).1 hpa
    rw [pageOf_pageAddr] at hpage
    rw [heq, ← hpage]
    exact ⟨⟨fun _ => hin, fun _ => init_all_ne_zero mtrr old 1 _⟩,
      fun _ => init_mapsIdentity mtrr old p'⟩

/-- One page of memory, and the local APIC at its usual place. -/
theorem eptInitialization_maps_boot :
    ((bootEpt.leaf 0).all ≠ 0 ↔
        (∃ r ∈ [(⟨0, 1⟩ : PhysicalMemoryRun)], r.Contains 0) ∨
          (0 : Page).toNat = (0xFEE00 : BitVec 24).toNat) ∧
      ((bootEpt.leaf 0).all ≠ 0 → MapsIdentity uncached 0 (bootEpt.leaf 0)) :=
  @eptInitialization_maps bumpPool uncached [⟨0, 1⟩] 0xFEE00 _ _ _ (by simp) boot_eq 0

end Map

end DeviceMon
