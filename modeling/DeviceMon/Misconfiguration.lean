import DeviceMon.VmmRun

/-!
# EPT misconfigurations

What the processor rejects in an entry of its walk (`Misconfigured`) : writes without
reads, execution alone on a processor without execute-only pages, and a reserved memory
type in a leaf. `EptIsEptAvailable` reads many capabilities but not that of execute-only
pages, and a trapped leaf is execute-only.

In a reachable state the entries above the leaves allow everything and a leaf is open or
trapped, with a memory type from the MTRRs. So with execute-only pages no entry is ever
misconfigured, and without them none is as long as no enabling hypercall reads a range
with a page (`reachable_wellConfigured`).
-/

namespace DeviceMon

open EptState

/-! ## Entries -/

/-- The processor answers an access through this entry, read at `level` of a walk, with an EPT
misconfiguration. -/
def EptCommonEntry.Misconfigured (capability : Ia32VmxEptVpidCapMsr) (level : ℕ)
    (e : EptCommonEntry) : Prop :=
  e.writeAccess = true ∧ e.readAccess = false ∨
    e.executeAccess = true ∧ e.readAccess = false ∧ e.writeAccess = false ∧
      capability.supportExecuteOnlyPages = false ∨
    level = 1 ∧ (e.memoryType = 2 ∨ e.memoryType = 3 ∨ e.memoryType = 7)

instance (capability : Ia32VmxEptVpidCapMsr) (level : ℕ) (e : EptCommonEntry) :
    Decidable (e.Misconfigured capability level) :=
  inferInstanceAs (Decidable (_ ∨ _ ∨ _))

/-- The entries the processor reads on its walk for `pa`, with their levels. It stops at an
unused one. -/
def walkEntries (s : EptState) : ℕ → Frame → BitVec 64 → List (ℕ × EptCommonEntry)
  | 0, _, _ => []
  | level + 1, table, pa =>
    let e := s.read (table, tableIndex (level + 1) pa)
    (level + 1, e) ::
      if e.all = 0 then [] else walkEntries s level (utilVaFromPfn e.physialAddress) pa

/-- No entry in use on any walk is misconfigured. -/
def WellConfigured (capability : Ia32VmxEptVpidCapMsr) (s : EptState) : Prop :=
  ∀ pa, ∀ entry ∈ walkEntries s 4 s.data.eptPml4 pa, entry.2.all ≠ 0 →
    ¬entry.2.Misconfigured capability entry.1

section Entries

variable {capability : Ia32VmxEptVpidCapMsr} {s : EptState} {e : EptCommonEntry} {level : ℕ}

/-- An entry above the leaves that opens all accesses is fine. -/
theorem EptCommonEntry.Open.not_misconfigured (h : e.Open) (hl : level ≠ 1) :
    ¬e.Misconfigured capability level := by
  obtain ⟨hr, -, -⟩ := h
  rintro (⟨-, hr'⟩ | ⟨-, hr', -⟩ | ⟨hl', -⟩)
  · rw [hr] at hr'
    cases hr'
  · rw [hr] at hr'
    cases hr'
  · exact hl hl'

theorem walkEntries_eq {root : Frame} (hw : EptWF root s) (pa : BitVec 64) :
    ∀ (level : ℕ) {q : List TableIndex} {table : Frame}, q.length + (level + 1) = 4 →
      s.walk root q = some table → ∀ entry ∈ walkEntries s (level + 1) table pa,
        (entry.1 ≠ 1 ∧ (entry.2.all ≠ 0 → entry.2.Open)) ∨
          entry = (1, (Radix.entry nextTable s.heap.table table (tablePath pa (level + 1))
            (tableIndex 1 pa)).getD .zero)
  | 0, q, table, hq, hg, entry, he => by
    refine Or.inr ?_
    simp only [walkEntries, ite_self, List.mem_singleton] at he
    rw [he]
    simp [tablePath, Radix.entry, EptState.read]
  | level + 1, q, table, hq, hg, entry, he => by
    rw [walkEntries] at he
    rcases List.mem_cons.1 he with rfl | he
    · refine Or.inl ⟨by simp, fun hne => ?_⟩
      exact hw.inner (by omega) hg (tableIndex (level + 2) pa) hne
    · by_cases hz : (s.read (table, tableIndex (level + 1 + 1) pa)).all = 0
      · rw [if_pos hz] at he
        cases he
      · rw [if_neg hz] at he
        have hsome := nextTable_of_ne hz
        have hnext := EptState.walk_snoc hg hz
        refine (walkEntries_eq hw pa level (by simp; omega) hnext entry he).imp_right fun heq => ?_
        rw [heq, tablePath, Radix.entry, Radix.entry, Radix.follow]
        rw [EptState.read] at hsome
        rw [hsome]
        rfl

theorem mem_walkEntries_of_follow (pa : BitVec 64) :
    ∀ (level : ℕ) {table f : Frame},
      Radix.follow nextTable s.heap.table table (tablePath pa (level + 1)) = some f →
      (1, s.read (f, tableIndex 1 pa)) ∈ walkEntries s (level + 1) table pa
  | 0, table, f, hf => by
    obtain rfl := Option.some.inj hf
    exact List.mem_cons_self
  | level + 1, table, f, hf => by
    obtain ⟨t, hnext, hrest⟩ := Option.bind_eq_some_iff.1 hf
    have hne : (s.heap.table table (tableIndex (level + 2) pa)).all ≠ 0 := by
      intro hz
      rw [nextTable_eq_none hz] at hnext
      cases hnext
    rw [nextTable_of_ne hne] at hnext
    obtain rfl := Option.some.inj hnext
    have hread : ¬(s.read (table, tableIndex (level + 1 + 1) pa)).all = 0 := hne
    rw [walkEntries]
    refine List.mem_cons_of_mem _ ?_
    rw [if_neg hread]
    exact mem_walkEntries_of_follow pa level hrest

/-- The entries of the walk for `pa` are open ones and the leaf of its page. -/
theorem EptReady.walkEntries_cases (h : EptReady s) (pa : BitVec 64) {entry : ℕ × EptCommonEntry}
    (he : entry ∈ walkEntries s 4 s.data.eptPml4 pa) :
    (entry.1 ≠ 1 ∧ (entry.2.all ≠ 0 → entry.2.Open)) ∨ entry = (1, s.leaf (pageOf pa)) := by
  refine (walkEntries_eq h.wf pa 3 (q := []) rfl rfl entry he).imp_right fun heq => ?_
  rw [heq, leaf_eq_leafEntry h, tablePath_eq, tableIndex_leaf]
  rfl

/-- The walk for a page with a leaf reads it. -/
theorem EptReady.mem_walkEntries (h : EptReady s) {p : Page} (hne : (s.leaf p).all ≠ 0) :
    (1, s.leaf p) ∈ walkEntries s 4 s.data.eptPml4 (pageAddr p) := by
  rw [leaf_eq_leafEntry h] at hne ⊢
  have hpath : tablePath (pageAddr p) 4 = pagePath p := by rw [tablePath_eq, pageOf_pageAddr]
  have hindex : tableIndex 1 (pageAddr p) = pageIndex p := by
    rw [tableIndex_leaf, pageOf_pageAddr]
  cases hf : s.walk s.data.eptPml4 (pagePath p) with
  | none =>
    rw [leafEntry_of_walk_none hf] at hne
    exact (hne EptCommonEntry.all_zero).elim
  | some f =>
    have hmem := mem_walkEntries_of_follow (s := s) (f := f) (pageAddr p) 3
      (by rw [hpath]; exact hf)
    rw [leafEntry_of_walk hf, ← hindex]
    exact hmem

/-- A memory type of the processor. -/
def EptCommonEntry.TypeValid (e : EptCommonEntry) : Prop :=
  e.memoryType ≠ 2 ∧ e.memoryType ≠ 3 ∧ e.memoryType ≠ 7

/-- With identity leaves and valid memory types, nothing is misconfigured exactly if the
processor has execute-only pages or all leaves are open. -/
theorem EptReady.wellConfigured_iff (h : EptReady s) (hid : ∀ p, (s.leaf p).IsIdentity p)
    (htype : ∀ p, (s.leaf p).TypeValid) :
    WellConfigured capability s ↔ capability.supportExecuteOnlyPages = true ∨
      ∀ p, (s.leaf p).all ≠ 0 → (s.leaf p).Open := by
  constructor
  · intro hall
    cases hcap : capability.supportExecuteOnlyPages with
    | true => exact Or.inl rfl
    | false =>
      refine Or.inr fun p hne => ?_
      obtain ⟨-, hx, hrw⟩ := hid p hne
      have hnot := hall _ _ (h.mem_walkEntries hne) hne
      cases hr : (s.leaf p).readAccess with
      | true => exact ⟨hr, hrw ▸ hr, hx⟩
      | false => exact (hnot (Or.inr (Or.inl ⟨hx, hr, hrw ▸ hr, hcap⟩))).elim
  · intro hcond pa entry he hne
    rcases h.walkEntries_cases pa he with ⟨hl, hopen⟩ | rfl
    · exact (hopen hne).not_misconfigured hl
    · obtain ⟨-, hx, hrw⟩ := hid _ hne
      rintro (⟨hw, hr⟩ | ⟨-, hr, -, hcap⟩ | ⟨-, ht⟩)
      · rw [hr, hw] at hrw
        cases hrw
      · rcases hcond with hcap' | hopen
        · rw [hcap] at hcap'
          cases hcap'
        · have hr' := (hopen _ hne).1
          rw [hr] at hr'
          cases hr'
      · obtain ⟨h2, h3, h7⟩ := htype (pageOf pa)
        rcases ht with ht | ht | ht
        · exact h2 ht
        · exact h3 ht
        · exact h7 ht

end Entries

/-! ## Memory types -/

/-- The types an MTRR can have. -/
def ValidType (type : BitVec 8) : Prop :=
  type = 0 ∨ type = 1 ∨ type = 4 ∨ type = 5 ∨ type = 6

/-- All MTRRs have a type of the processor. -/
structure Mtrr.Valid (mtrr : Mtrr) : Prop where
  entries : ∀ e ∈ mtrr.entries, ValidType e.type
  default : ValidType mtrr.defaultType

section Types

variable {mtrr : Mtrr} {e e' e'' : EptCommonEntry}

theorem eptpGetMemoryTypeLoop_valid (pa : BitVec 64) :
    ∀ (es : List MtrrData) (resultType : BitVec 8), (∀ e ∈ es, ValidType e.type) →
      eptpGetMemoryTypeLoop pa es resultType = resultType ∨
        ValidType (eptpGetMemoryTypeLoop pa es resultType)
  | [], _, _ => Or.inl rfl
  | e :: es, resultType, h => by
    have he := h e List.mem_cons_self
    have hes : ∀ e ∈ es, ValidType e.type := fun e' he' => h e' (List.mem_cons_of_mem _ he')
    rw [eptpGetMemoryTypeLoop]
    split_ifs
    · exact Or.inl rfl
    · exact eptpGetMemoryTypeLoop_valid pa es resultType hes
    · exact Or.inr he
    · exact Or.inr he
    · rcases eptpGetMemoryTypeLoop_valid pa es MemoryType.writeThrough hes with heq | hv
      · rw [heq]
        exact Or.inr (Or.inr (Or.inr (Or.inl rfl)))
      · exact Or.inr hv
    · rcases eptpGetMemoryTypeLoop_valid pa es e.type hes with heq | hv
      · rw [heq]
        exact Or.inr he
      · exact Or.inr hv

theorem eptpGetMemoryType_valid (hm : mtrr.Valid) (pa : BitVec 64) :
    ValidType (eptpGetMemoryType mtrr pa) := by
  unfold eptpGetMemoryType
  simp only
  split_ifs with hff
  · exact hm.default
  · exact (eptpGetMemoryTypeLoop_valid pa mtrr.entries 0xff hm.entries).resolve_left hff

/-- An initialized leaf has a valid type. -/
theorem init_typeValid (hm : mtrr.Valid) (e : EptCommonEntry) (pa : BitVec 64) :
    (eptpInitTableEntry mtrr e 1 pa).TypeValid := by
  have htype : (eptpInitTableEntry mtrr e 1 pa).memoryType =
      (eptpGetMemoryType mtrr pa).setWidth 3 := rfl
  unfold EptCommonEntry.TypeValid
  rw [htype]
  rcases eptpGetMemoryType_valid hm pa with h | h | h | h | h <;> rw [h] <;> decide

theorem TrapsLeaf.typeValid {p : Page} (hm : mtrr.Valid) (h : TrapsLeaf mtrr p e e')
    (he : e.TypeValid) : e'.TypeValid := by
  obtain ⟨pa, -, rfl⟩ := h
  have hmapped : (mappedLeaf mtrr pa e).TypeValid := by
    unfold mappedLeaf
    split_ifs
    · exact init_typeValid hm e pa
    · exact he
  exact hmapped

theorem PassesLeaf.typeValid {p : Page} (h : PassesLeaf p e e') (he : e.TypeValid) :
    e'.TypeValid := by
  unfold PassesLeaf at h
  rw [h]
  split_ifs <;> exact he

end Types

/-! ## Runs -/

section Runs

variable {B C : Type} {m : Machine B} {s s₀ s' : VmmState B C} {reason : VmExitReason}
  {capability : Ia32VmxEptVpidCapMsr}

/-- The processor as `VmInitialization` leaves it. -/
def Launched (m : Machine B) (s : VmmState B C) : Prop :=
  ∃ runs apicBase h, eptInitialization m.pool m.mtrr runs apicBase h =
    (some s.ept.data, s.ept.heap) ∧ s.lastFaultEntry = none ∧ s.monitorTrapFlag = false

theorem Launched.reachable (h : Launched m s) : Reachable m s := by
  obtain ⟨runs, apicBase, heap, hstart, hfault, hflag⟩ := h
  exact .launch hstart hfault hflag

/-- The invariant of reachable states with the memory types of the leaves. -/
structure TypedInv (s : VmmState B C) : Prop where
  inv : VmmInv s
  type : ∀ p, (s.ept.leaf p).TypeValid

theorem TypedInv.of_guestRuns (hi : TypedInv s) (h : GuestRuns s s') : TypedInv s' :=
  ⟨hi.inv.of_guestRuns h, by rw [h.ept]; exact hi.type⟩

theorem TypedInv.launch (hm : m.mtrr.Valid) (h : Launched m s) : TypedInv s := by
  refine ⟨h.reachable.inv, fun p => ?_⟩
  obtain ⟨runs, apicBase, heap, hstart, -, -⟩ := h
  rcases (eptInitialization_spec m.pool m.mtrr hstart).2 p with hz | ⟨old, pa, -, he⟩
  · rw [show s.ept.leaf p = .zero from hz]
    unfold EptCommonEntry.TypeValid
    decide
  · rw [show s.ept.leaf p = _ from he]
    exact init_typeValid hm old pa

/-- A change of leaves keeps their types if each change does. -/
theorem Changes.typeValid {R : Page → EptCommonEntry → EptCommonEntry → Prop} {V : Page → Prop}
    {e e' : EptState} (hch : Changes R V e e')
    (hR : ∀ {p x y}, R p x y → x.TypeValid → y.TypeValid) (ht : ∀ p, (e.leaf p).TypeValid)
    (p : Page) : (e'.leaf p).TypeValid := by
  by_cases hp : V p
  · exact hR ((hch p).1 hp) (ht p)
  · rw [(hch p).2 hp]
    exact ht p

theorem TypedInv.exit (hm : m.mtrr.Valid) (hi : TypedInv s) (h : ExitEffect m s s' reason) :
    TypedInv s' := by
  refine ⟨hi.inv.exit h, fun p => ?_⟩
  cases h with
  | closed hfault hept hnone hflag =>
    obtain ⟨q, -, -, hleaf⟩ := closed_step hi.inv hfault
    rw [hept, hleaf]
    split_ifs
    · exact hi.type p
    · exact hi.type p
  | opened hentry hret hept hfault hflag =>
    obtain ⟨-, -, hleaf⟩ := opened_step hi.inv hentry
    rw [hept, hleaf]
    split_ifs
    · exact hi.type p
    · exact hi.type p
  | skipped hentry hret hguest hrip =>
    rw [hguest.ept]
    exact hi.type p
  | unmonitored hentry hstate =>
    subst hstate
    rcases violation_leaf m.pool m.mtrr s.qualification hi.inv.ready s.faultAddress p with
      heq | heq
    · exact heq ▸ hi.type p
    · exact heq ▸ init_typeValid hm (s.ept.leaf p) s.faultAddress
  | enabled ranges hnumber hept hfault hflag =>
    obtain ⟨-, V, -, hch, -⟩ := enable_spec m.pool m.mtrr ranges hi.inv.ready
    rw [hept]
    exact hch.typeValid (TrapsLeaf.typeValid hm) hi.type p
  | disabled ranges hnumber hept hfault hflag =>
    rw [hept]
    exact (disable_spec ranges hi.inv.ready).2.typeValid PassesLeaf.typeValid hi.type p
  | other hguest =>
    rw [hguest.ept]
    exact hi.type p

/-! ### Without execute-only pages -/

/-- An enabling hypercall that reads a range with a page. -/
def TrapsPages (m : Machine B) (reason : VmExitReason) (s : VmmState B C) : Prop :=
  reason = .vmcall ∧ s.gpRegs.cx.setWidth 32 = HypercallNumber.enableVmmDeviceMonitor.value ∧
    ∃ p, RangePages ((scanRanges s.devices).run m.bus s.pci).1.2 p

/-- The invariant of the runs that trap no page. -/
structure OpenInv (s : VmmState B C) : Prop where
  inv : VmmInv s
  allows : ∀ p, (s.ept.leaf p).all ≠ 0 → (s.ept.leaf p).Open
  noFault : s.lastFaultEntry = none

theorem OpenInv.launch (h : Launched m s) : OpenInv s := by
  refine ⟨h.reachable.inv, fun p hne => ?_, ?_⟩
  · obtain ⟨runs, apicBase, heap, hstart, -, -⟩ := h
    exact ((eptInitialization_spec m.pool m.mtrr hstart).2 p).open m.mtrr hne
  · obtain ⟨-, -, -, -, hfault, -⟩ := h
    exact hfault

theorem OpenInv.of_guestRuns (hi : OpenInv s) (h : GuestRuns s s') : OpenInv s' :=
  ⟨hi.inv.of_guestRuns h, by rw [h.ept]; exact hi.allows, h.lastFaultEntry.trans hi.noFault⟩

/-- An open leaf raises no violation. -/
theorem OpenInv.faultLeaf_zero (hi : OpenInv s) (hraised : EptViolationRaised s) :
    s.faultLeaf.all = 0 := by
  by_contra hne
  obtain ⟨hr, hw, hx⟩ := hi.allows _ hne
  rcases hraised.denied with ⟨-, hd⟩ | ⟨-, hd⟩ | ⟨-, hd⟩
  · rw [hi.inv.walkAllows_eq (·.readAccess) rfl fun e he => he.1, VmmState.faultLeaf, hr] at hd
    cases hd
  · rw [hi.inv.walkAllows_eq (·.writeAccess) rfl fun e he => he.2.1, VmmState.faultLeaf, hw] at hd
    cases hd
  · rw [hi.inv.walkAllows_eq (·.executeAccess) rfl fun e he => he.2.2, VmmState.faultLeaf,
      hx] at hd
    cases hd

/-- The page loops of an enabling hypercall. -/
theorem enable_vmcall_ept
    (hn : s.gpRegs.cx.setWidth 32 = HypercallNumber.enableVmmDeviceMonitor.value) :
    (vmmpHandleVmCall m s).ept = onRanges (invalidateEptPages m.pool m.mtrr)
      ((scanRanges s.devices).run m.bus s.pci).1.2 s.ept := by
  simp only [vmmpHandleVmCall, HypercallNumber.ofValue_eq_some.2 hn, dmEnableDeviceMonitor,
    run_dmScanDevices]
  exact (onlyVmcs_successful _).ept

/-- An exit that traps no page keeps the leaves open. -/
theorem OpenInv.exit (hi : OpenInv s) (hraised : ExitRaised reason s)
    (heff : ExitEffect m s s' reason)
    (hept : reason = .vmcall → s'.ept = (vmmpHandleVmCall m s).ept)
    (hno : ¬TrapsPages m reason s) : OpenInv s' := by
  have hinv := hi.inv.exit heff
  cases heff with
  | closed hfault hept hnone hflag =>
    rw [hi.noFault] at hfault
    cases hfault
  | opened hentry hret hept hfault hflag =>
    obtain ⟨-, hslot, hne⟩ := mmioEntry_eq_some.1 hentry
    rw [hi.inv.ready.read_slot hslot] at hne
    exact (hne (hi.faultLeaf_zero hraised)).elim
  | skipped hentry hret hguest hrip => exact hi.of_guestRuns hguest
  | unmonitored hentry hstate =>
    subst hstate
    refine ⟨hinv, fun p hne => ?_, hi.noFault⟩
    rcases violation_leaf m.pool m.mtrr s.qualification hi.inv.ready s.faultAddress p with
      heq | heq
    · exact heq ▸ hi.allows p (heq ▸ hne)
    · exact heq ▸ init_open m.mtrr (s.ept.leaf p) 1 s.faultAddress
  | enabled ranges hnumber hept' hfault hflag =>
    refine ⟨hinv, fun p hne => ?_, hfault.trans hi.noFault⟩
    rw [hept rfl, enable_vmcall_ept hnumber] at hne ⊢
    obtain ⟨-, V, hV, hch, -⟩ := enable_spec m.pool m.mtrr
      ((scanRanges s.devices).run m.bus s.pci).1.2 hi.inv.ready
    have hleaf := (hch p).2 fun hp => hno ⟨rfl, hnumber, p, hV p hp⟩
    rw [hleaf] at hne ⊢
    exact hi.allows p hne
  | disabled ranges hnumber hept' hfault hflag =>
    refine ⟨hinv, fun p hne => ?_, hfault.trans hi.noFault⟩
    rw [hept'] at hne ⊢
    obtain ⟨-, hch⟩ := disable_spec ranges hi.inv.ready
    by_cases hp : RangePages ranges p
    · have hpass := (hch p).1 hp
      unfold PassesLeaf at hpass
      rw [hpass] at hne ⊢
      split_ifs at hne ⊢ with hz
      · exact (hne hz).elim
      · exact EptCommonEntry.open_pass _
    · rw [(hch p).2 hp] at hne ⊢
      exact hi.allows p hne
  | other hguest => exact hi.of_guestRuns hguest

/-! ### The condition -/

/-- An exit on a processor with execute-only pages, or one that traps no page. -/
def CapableStep (m : Machine B) (capability : Ia32VmxEptVpidCapMsr) (s s' : VmmState B C) : Prop :=
  ∃ reason s₀, ExitStep m reason s s₀ s' ∧
    (capability.supportExecuteOnlyPages = true ∨ ¬TrapsPages m reason s₀)

theorem TypedInv.step (hm : m.mtrr.Valid) (hi : TypedInv s) (hs : CapableStep m capability s s') :
    TypedInv s' := by
  obtain ⟨reason, s₀, hstep, -⟩ := hs
  exact ((hi.of_guestRuns hstep.guest).of_guestRuns (guestRuns_capture s₀)).exit hm
    (exit_effect hstep.handled)

theorem TypedInv.run (hm : m.mtrr.Valid) (hi : TypedInv s₀)
    (hrun : Relation.ReflTransGen (CapableStep m capability) s₀ s) : TypedInv s := by
  induction hrun with
  | refl => exact hi
  | tail _ hs ih => exact ih.step hm hs

theorem OpenInv.step (hi : OpenInv s) (hcap : capability.supportExecuteOnlyPages = false)
    (hs : CapableStep m capability s s') : OpenInv s' := by
  obtain ⟨reason, s₀, hstep, hcond⟩ := hs
  have hno : ¬TrapsPages m reason s₀ := by
    refine hcond.resolve_left fun htrue => ?_
    rw [hcap] at htrue
    cases htrue
  refine ((hi.of_guestRuns hstep.guest).of_guestRuns (guestRuns_capture s₀)).exit
    hstep.raised.capture (exit_effect hstep.handled) (fun hr => ?_) hno
  subst hr
  rw [← Option.some.inj hstep.handled]

theorem OpenInv.run (hi : OpenInv s₀) (hcap : capability.supportExecuteOnlyPages = false)
    (hrun : Relation.ReflTransGen (CapableStep m capability) s₀ s) : OpenInv s := by
  induction hrun with
  | refl => exact hi
  | tail _ hs ih => exact ih.step hcap hs

/-- The page loops of an enabling hypercall leave an execute-only leaf behind. -/
theorem trapsPages_not_wellConfigured (h : Reachable m s)
    (hcap : capability.supportExecuteOnlyPages = false) (hstep : ExitStep m reason s s₀ s')
    (htraps : TrapsPages m reason s₀) (hr : s'.ept.heap.refused = s₀.ept.heap.refused) :
    ¬WellConfigured capability s'.ept := by
  obtain ⟨rfl, hnumber, p, hp⟩ := htraps
  have hinv : VmmInv s₀ := h.inv.of_guestRuns hstep.guest
  have hept : s'.ept = onRanges (invalidateEptPages m.pool m.mtrr)
      ((scanRanges s₀.devices).run m.bus s₀.pci).1.2 s₀.ept := by
    rw [← Option.some.inj hstep.handled]
    exact enable_vmcall_ept (s := captureGuestContext s₀) hnumber
  obtain ⟨hk, V, -, hch, hall⟩ := enable_spec m.pool m.mtrr
    ((scanRanges s₀.devices).run m.bus s₀.pci).1.2 hinv.ready
  rw [← hept] at hk hch hall
  have htrapped := ((hch p).1 (hall hr p hp)).trapped
  obtain ⟨hne, hread, hwrite, hexec⟩ := htrapped
  intro hwell
  exact hwell _ _ (hk.ready.mem_walkEntries hne) hne (Or.inr (Or.inl ⟨hexec, hread, hwrite, hcap⟩))

/-- As long as every exit is on a processor with execute-only pages or traps no page, no entry of
a walk is misconfigured. Without them, the first enabling hypercall that traps its pages
leaves a misconfigured entry. -/
theorem reachable_wellConfigured (hm : m.mtrr.Valid) (hl : Launched m s₀) :
    (Relation.ReflTransGen (CapableStep m capability) s₀ s → WellConfigured capability s.ept) ∧
      ∀ reason (s₁ s' : VmmState B C), Reachable m s → ExitStep m reason s s₁ s' →
        s'.ept.heap.refused = s₁.ept.heap.refused →
        capability.supportExecuteOnlyPages = false → TrapsPages m reason s₁ →
        ¬WellConfigured capability s'.ept := by
  refine ⟨fun hrun => ?_, fun reason s₁ s' hreach hstep hr hcap htraps =>
    trapsPages_not_wellConfigured hreach hcap hstep htraps hr⟩
  have htyped := (TypedInv.launch hm hl).run hm hrun
  refine (htyped.inv.ready.wellConfigured_iff htyped.inv.identity htyped.type).2 ?_
  cases hcap : capability.supportExecuteOnlyPages with
  | true => exact Or.inl rfl
  | false => exact Or.inr ((OpenInv.launch hl).run hcap hrun).allows

end Runs

/-! ## A processor without execute-only pages -/

/-- All `EptIsEptAvailable` asks for, without execute-only pages. -/
def noExecuteOnly : Ia32VmxEptVpidCapMsr :=
  ⟨0x00000F0106104040⟩

theorem noExecuteOnly_available : eptIsEptAvailable noExecuteOnly = true := by
  decide

/-- The same with execute-only pages. -/
def executeOnly : Ia32VmxEptVpidCapMsr :=
  ⟨0x00000F0106104041⟩

theorem uncached_valid : uncached.Valid :=
  ⟨fun _ he => (List.not_mem_nil he).elim, Or.inl rfl⟩

theorem userState_launched (mask : BitVec 32) :
    Launched (spiMachine mask) (userState 3 bootEpt) :=
  ⟨_, _, _, boot_eq, rfl, rfl⟩

theorem reachable_wellConfigured_spi :
    WellConfigured executeOnly (userCall 0xFFFFF000 3 bootEpt).ept := by
  have hstep : ExitStep (spiMachine 0xFFFFF000) .vmcall (userState 3 bootEpt) (userState 3 bootEpt)
      (userCall 0xFFFFF000 3 bootEpt) := ⟨rfl, ⟨rfl, rfl, rfl⟩, trivial, rfl⟩
  have hcap : executeOnly.supportExecuteOnlyPages = true := by decide
  exact (reachable_wellConfigured uncached_valid (userState_launched _)).1
    (.single ⟨_, _, hstep, Or.inl hcap⟩)

/-- `EptIsEptAvailable` accepts a processor on which the trapped page of the SPI controller is
misconfigured. -/
theorem available_misconfigured :
    ¬∀ (capability : Ia32VmxEptVpidCapMsr) (m : Machine (BitVec 32))
      (s : VmmState (BitVec 32) Unit), eptIsEptAvailable capability = true → m.mtrr.Valid →
      Reachable m s → WellConfigured capability s.ept := by
  intro hall
  have hreach := reachable_enabled 0xFFFFF000
  obtain ⟨hne, hread, hwrite, hexec⟩ := enable_traps
  have hmem := hreach.inv.ready.mem_walkEntries hne
  have hcap : noExecuteOnly.supportExecuteOnlyPages = false := by decide
  exact hall noExecuteOnly _ _ noExecuteOnly_available uncached_valid hreach _ _ hmem hne
    (Or.inr (Or.inl ⟨hexec, hread, hwrite, hcap⟩))

end DeviceMon
