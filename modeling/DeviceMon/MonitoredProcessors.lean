import DeviceMon.Processors
import DeviceMon.SingleStep

/-!
# Which processors are monitored

`VmInitialization` enables the monitor on the processors it starts, one after another, and
`VmHotplugCallback` on none. A VMM guards a page that is trapped, or open for a single step
(`Guards`). An enabling call guards the pages its rounds visit, a launch none, and what one
processor does leaves what the others guard (`Guarding`). An exit only changes which of the two a
page is, unless it overwrites `LastFaultEntry` (`VmmInv.guards_exit`).

So after any hot-adds and exits each of the first processors guards the pages of its enabling call
and an added one nothing (`run_monitored_iff`).
-/

namespace DeviceMon

section OneVmm

variable {B C : Type} {m : Machine B} {s s' : VmmState B C} {reason : VmExitReason} {page : Page}

/-! ## One VMM -/

/-- A page that is trapped, or open for a single step. -/
def Guards (s : VmmState B C) (page : Page) : Prop :=
  (s.ept.leaf page).Trapped ∨ Pending s page

theorem guards_of_guestRuns (h : GuestRuns s s') : Guards s' page ↔ Guards s page := by
  rw [Guards, Guards, Pending, Pending, h.ept, h.lastFaultEntry]

/-- Steps of the tables that leave `LastFaultEntry` alone keep what is pending. -/
theorem VmmInv.pending_iff (hi : VmmInv s) (hk : Keeps s.ept s'.ept)
    (hfault : s'.lastFaultEntry = s.lastFaultEntry) : Pending s' page ↔ Pending s page := by
  constructor
  · rintro ⟨ptr, hptr, hslot⟩
    rw [hfault] at hptr
    obtain ⟨q, hq, -⟩ := hi.fault hptr
    have hpage := hk.ready.slot_page hslot (hk.slot hq)
    rw [pageOf_pageAddr, pageOf_pageAddr] at hpage
    exact ⟨ptr, hptr, hpage ▸ hq⟩
  · rintro ⟨ptr, hptr, hslot⟩
    exact ⟨ptr, hfault.trans hptr, hk.slot hslot⟩

/-- A present leaf that raises a violation is trapped. -/
theorem VmmInv.faultLeaf_trapped (hi : VmmInv s) (h : EptViolationRaised s)
    (hne : s.faultLeaf.all ≠ 0) : s.faultLeaf.Trapped := by
  obtain ⟨-, hexec, hsame⟩ := hi.identity _ hne
  have hread : s.faultLeaf.readAccess = false := by
    rcases h.denied with ⟨-, hd⟩ | ⟨-, hd⟩ | ⟨-, hd⟩
    · rwa [hi.walkAllows_eq (·.readAccess) rfl fun e he => he.1] at hd
    · rw [hi.walkAllows_eq (·.writeAccess) rfl fun e he => he.2.1] at hd
      exact hsame.trans hd
    · rw [hi.walkAllows_eq (·.executeAccess) rfl fun e he => he.2.2,
        show s.faultLeaf.executeAccess = true from hexec] at hd
      cases hd
  exact ⟨hne, hread, hsame.symm.trans hread, hexec⟩

/-- Any exit but a hypercall keeps the guarded pages if it overwrites none. -/
theorem VmmInv.guards_exit (hi : VmmInv s) (hno : reason ≠ .vmcall)
    (hraised : ExitRaised reason s) (hover : ¬Overwrites Set.univ reason s)
    (heff : ExitEffect m s s' reason) (page : Page) : Guards s' page ↔ Guards s page := by
  cases heff with
  | closed hfault hept hnone hflag =>
    obtain ⟨q, hslot, -, hleaf⟩ := closed_step hi hfault
    have hpending : Pending s page ↔ page = q :=
      ⟨fun h => h.page_eq hi hfault hslot, fun h => ⟨_, hfault, h ▸ hslot⟩⟩
    have hclosed : ¬Pending s' page := by
      rintro ⟨ptr, hptr, -⟩
      rw [hnone] at hptr
      cases hptr
    rw [Guards, Guards, hpending, or_iff_left hclosed, hept, hleaf]
    split_ifs with hq
    · exact iff_of_true (EptCommonEntry.trapped_trap _) (Or.inr hq)
    · exact (or_iff_left hq).symm
  | @opened ptr hentry hret hept hfault hflag =>
    obtain ⟨-, hptr, hne⟩ := mmioEntry_eq_some.1 hentry
    obtain ⟨hslot, hstep, hleaf⟩ := opened_step hi hentry
    rw [← hept] at hstep hleaf
    by_cases hq : page = pageOf s.faultAddress
    · have htrapped : s.faultLeaf.Trapped := hi.faultLeaf_trapped hraised (by
        rw [VmmState.faultLeaf, ← hi.ready.read_slot hptr]
        exact hne)
      rw [hq]
      exact iff_of_true (Or.inr ⟨ptr, hfault, hstep.slot hslot⟩) (Or.inl htrapped)
    · have hpending : ¬Pending s page := fun hp =>
        hover ⟨⟨rfl, by rw [hentry]; simp, hret⟩, page, trivial, hq, hp⟩
      have hpending' : ¬Pending s' page := by
        rintro ⟨ptr', hptr', hslot'⟩
        rw [hfault] at hptr'
        obtain rfl := Option.some.inj hptr'
        have hpage := hstep.ready.slot_page hslot' (hstep.slot hslot)
        rw [pageOf_pageAddr, pageOf_pageAddr] at hpage
        exact hq hpage
      rw [Guards, Guards, or_iff_left hpending, or_iff_left hpending', hleaf, if_neg hq]
  | skipped hentry hret hguest hrip => exact guards_of_guestRuns hguest
  | unmonitored hentry hstate =>
    obtain ⟨hstep, hkept⟩ := violation_step m.pool m.mtrr s.qualification hi.ready s.faultAddress
    subst hstate
    refine or_congr ⟨fun h => ?_, fun h => ?_⟩ (hi.pending_iff hstep.toKeeps rfl)
    · -- a leaf that was mapped is open
      have hleaf := violation_leaf m.pool m.mtrr s.qualification hi.ready s.faultAddress page
      rcases hleaf with heq | heq
      · rwa [show _ = s.ept.leaf page from heq] at h
      · rw [show EptState.leaf _ page = _ from heq] at h
        cases h.2.1
    · rwa [show EptState.leaf _ page = _ from hkept page h.1]
  | enabled => exact (hno rfl).elim
  | disabled => exact (hno rfl).elim
  | other => exact (hno rfl).elim

/-- Nothing is overwritten while nothing is pending. -/
theorem not_overwrites_of_none {T : Set Page} {q : EptViolationQualification} {address : BitVec 64}
    (hfault : s.lastFaultEntry = none) :
    ¬Overwrites T reason (captureGuestContext (atViolation q address s)) := by
  rintro ⟨-, page, -, -, ptr, hptr, -⟩
  rw [show s.lastFaultEntry = some ptr from hptr] at hfault
  cases hfault

/-- Enabling guards the pages of its rounds if no table is refused. -/
theorem VmmInv.guards_enable (hi : VmmInv s) (ranges : List BarRange)
    (hept : s'.ept = onRanges (invalidateEptPages m.pool m.mtrr) ranges s.ept)
    (hfault : s'.lastFaultEntry = s.lastFaultEntry)
    (hrefused : s'.ept.heap.refused = s.ept.heap.refused) (page : Page) :
    Guards s' page ↔ Guards s page ∨ RangePages ranges page := by
  obtain ⟨hk, V, hV, hch, hall⟩ := enable_spec m.pool m.mtrr ranges hi.ready
  rw [← hept] at hk hch hall
  have htrapped : (s'.ept.leaf page).Trapped ↔
      (s.ept.leaf page).Trapped ∨ RangePages ranges page := by
    by_cases hp : V page
    · exact iff_of_true ((hch page).1 hp).trapped (Or.inr (hV page hp))
    · rw [(hch page).2 hp]
      exact (or_iff_left fun hr => hp (hall hrefused page hr)).symm
  rw [Guards, Guards, htrapped, hi.pending_iff hk hfault, or_right_comm]

/-- Right after a start nothing is guarded. -/
theorem not_guards_launch {runs : List PhysicalMemoryRun} {apicBase : BitVec 64} {h : Heap}
    (hstart : eptInitialization m.pool m.mtrr runs apicBase h = (some s.ept.data, s.ept.heap))
    (hfault : s.lastFaultEntry = none) (page : Page) : ¬Guards s page := by
  rintro (htrapped | ⟨ptr, hptr, -⟩)
  · have hopen := ((eptInitialization_spec m.pool m.mtrr hstart).2 page).open m.mtrr htrapped.1
    exact hopen.not_denies htrapped.denies
  · rw [hfault] at hptr
    cases hptr

/-! ### Hypercalls -/

/-- What `kEnableVmmDeviceMonitor` does. -/
theorem asmVmxCall_enable (m : Machine B) (context : BitVec 64) (s : VmmState B C) :
    let s' := (asmVmxCall m .enableVmmDeviceMonitor context s).2
    (s'.devices, s'.pci) = (((scanRanges s.devices).run m.bus s.pci).1.1,
        ((scanRanges s.devices).run m.bus s.pci).2) ∧
      s'.ept = onRanges (invalidateEptPages m.pool m.mtrr)
        ((scanRanges s.devices).run m.bus s.pci).1.2 s.ept ∧
      s'.lastFaultEntry = s.lastFaultEntry := by
  set s₀ := captureGuestContext (atVmCall .enableVmmDeviceMonitor context s)
  have hnumber : HypercallNumber.ofValue (s₀.gpRegs.cx.setWidth 32) =
      some .enableVmmDeviceMonitor := rfl
  set s₁ : VmmState B C := { s₀ with
    devices := ((scanRanges s.devices).run m.bus s.pci).1.1
    ept := onRanges (invalidateEptPages m.pool m.mtrr)
      ((scanRanges s.devices).run m.bus s.pci).1.2 s.ept
    pci := ((scanRanges s.devices).run m.bus s.pci).2 }
  have hcall : vmmpHandleVmCall m s₀ = vmmpIndicateSuccessfulVmcall s₁ := by
    simp only [vmmpHandleVmCall, hnumber, dmEnableDeviceMonitor, run_dmScanDevices]
    rfl
  have hresult : (asmVmxCall m .enableVmmDeviceMonitor context s).2 = vmmpHandleVmCall m s₀ := rfl
  have hvmcs := onlyVmcs_successful s₁
  rw [hresult, hcall]
  exact ⟨congrArg₂ Prod.mk hvmcs.devices hvmcs.pci, hvmcs.ept, hvmcs.lastFaultEntry⟩

/-- `kGetSharedProcessorData` leaves the monitor alone. -/
theorem asmVmxCall_getSharedProcessorData (m : Machine B) (context : BitVec 64)
    (s : VmmState B C) : GuestRuns s (asmVmxCall m .getSharedProcessorData context s).2 := by
  set s₀ := captureGuestContext (atVmCall .getSharedProcessorData context s)
  have hguest : GuestRuns s s₀ := ⟨rfl, rfl, by simp [s₀, captureGuestContext, atVmCall]⟩
  have hcx : s₀.gpRegs.cx.setWidth 32 = HypercallNumber.getSharedProcessorData.value := rfl
  have heffect : ExitEffect m s₀ (vmmpHandleVmCall m s₀) .vmcall := vmcall_effect m s₀
  cases heffect with
  | enabled ranges hnumber =>
    rw [hcx] at hnumber
    exact absurd hnumber (by decide)
  | disabled ranges hnumber =>
    rw [hcx] at hnumber
    exact absurd hnumber (by decide)
  | other h =>
    exact ⟨h.ept.trans hguest.ept, h.lastFaultEntry.trans hguest.lastFaultEntry,
      h.controls.trans hguest.controls⟩

end OneVmm

section AllVmms

variable {B C : Type} {pf : Platform B C} {m : Machine B} {sys sys' sys₁ sys₂ : System B C}
  {i j : ℕ} {p q : Processor B C} {G G' : ℕ → Page → Prop} {outcomes : List Bool}

/-! ## All VMMs -/

/-- `G` says of each processor which pages its VMM guards. -/
def Guarding (G : ℕ → Page → Prop) (sys : System B C) : Prop :=
  ∀ i p, sys.processors i = some p → ∀ page, Guards (sys.vmm p) page ↔ G i page

theorem guards_of_undisturbed (hu : Undisturbed q.vmm.ept.data sys.heap sys'.heap) (page : Page) :
    Guards (sys'.vmm q) page ↔ Guards (sys.vmm q) page := by
  have hleaf : (sys'.vmm q).ept.leaf page = (sys.vmm q).ept.leaf page := hu.leaf page
  have hslot : eptGetEptPtEntry (sys'.vmm q).ept (pageAddr page) =
      eptGetEptPtEntry (sys.vmm q).ept (pageAddr page) := hu.slot _
  rw [Guards, Guards, Pending, Pending, hleaf, hslot]
  exact Iff.rfl

/-- Processor `i` is new or has changed. -/
theorem Guarding.insert (hg : Guarding G sys)
    (hproc : sys'.processors = Function.update sys.processors i (some p))
    (hu : ∀ {j q}, j ≠ i → sys.processors j = some q →
      Undisturbed q.vmm.ept.data sys.heap sys'.heap)
    (hold : ∀ j, j ≠ i → ∀ page, G' j page ↔ G j page)
    (hnew : ∀ page, Guards (sys'.vmm p) page ↔ G' i page) : Guarding G' sys' := by
  intro j q hq page
  rw [hproc] at hq
  by_cases hj : j = i
  · subst hj
    rw [Function.update_self] at hq
    obtain rfl := Option.some.inj hq
    exact hnew page
  · rw [Function.update_of_ne hj] at hq
    exact (guards_of_undisturbed (hu hj hq) page).trans
      ((hg j q hq page).trans (hold j hj page).symm)

/-- One processor goes on after an exit or a hypercall. -/
theorem Guarding.store {s' : VmmState B C} (hg : Guarding G sys) (hv : Vmms sys)
    (hp : sys.processors i = some p) (hs : Served (sys.vmm p).ept s'.ept)
    (hcont : s'.vmContinue = true) (hold : ∀ j, j ≠ i → ∀ page, G' j page ↔ G j page)
    (hnew : ∀ page, Guards s' page ↔ G' i page) : Guarding G' (sys.store i p s') :=
  hg.insert (processors_store p hcont) (fun hj hq => hv.store_undisturbed hp hs hj hq) hold hnew

/-- A processor that starts guards nothing. -/
theorem Guarding.started {start : Ledger PoolBlock}
    {sharedData msrBitmap ioBitmap : PoolBlock} {vs : List ℕ} (pf : Platform B C)
    (hg : Guarding G sys) (ha : Accounted start sharedData msrBitmap ioBitmap vs sys)
    (hi : sys.processors i = none) (hnew : ∀ page, ¬G i page) :
    Guarding G (vmpInitializeVm pf sharedData i sys).2 := by
  have hu : ∀ {j q}, sys.processors j = some q →
      Undisturbed q.vmm.ept.data sys.heap (vmpInitializeVm pf sharedData i sys).2.heap :=
    fun hq => ha.initialize_undisturbed pf hi hq
  cases hok : (vmpInitializeVm pf sharedData i sys).1 with
  | false =>
    intro j q hq page
    rw [vmpInitializeVm_processors_of_false pf sharedData i sys hok] at hq
    exact (guards_of_undisturbed (hu hq) page).trans (hg j q hq page)
  | true =>
    obtain ⟨self, h₁, d, h₂, data, -, hept, hlaunched, hproc⟩ := ha.initialize_launched pf hi hok
    refine hg.insert hproc (fun _ hq => hu hq) (fun _ _ _ => Iff.rfl) fun page => ?_
    refine iff_of_false (fun h => ?_) (hnew page)
    have hleaf := hlaunched.leaf page
    have hlaunch := not_guards_launch (m := pf.machine)
      (s := { (pf.answers i).guest with ept := ⟨h₂, d⟩, lastFaultEntry := none }) hept rfl page
    rcases h with htrapped | ⟨ptr, hptr, -⟩
    · have hthere : (EptState.leaf ⟨(vmpInitializeVm pf sharedData i sys).2.heap, d⟩
          page).Trapped := htrapped
      rw [hleaf] at hthere
      exact hlaunch (Or.inl hthere)
    · cases hptr

/-! ## After VmInitialization -/

/-- The monitor list and configuration space after a call has read the ranges. -/
def scanned (m : Machine B) (found : List (PciMonitorCfg C) × B) : List (PciMonitorCfg C) × B :=
  (((scanRanges found.1).run m.bus found.2).1.1, ((scanRanges found.1).run m.bus found.2).2)

/-- What the `k`-th enabling call finds. -/
def callFinds (m : Machine B) (sys : System B C) (k : ℕ) : List (PciMonitorCfg C) × B :=
  (scanned m)^[k] (sys.devices, sys.pci)

theorem callFinds_succ (m : Machine B) (sys : System B C) (k : ℕ) :
    callFinds m sys (k + 1) = scanned m (callFinds m sys k) :=
  Function.iterate_succ_apply' _ _ _

/-- The pages the rounds of the `k`-th enabling call visit. -/
def EnablePages (m : Machine B) (sys : System B C) (k : ℕ) (page : Page) : Prop :=
  RangePages ((scanRanges (callFinds m sys k).1).run m.bus (callFinds m sys k).2).1.2 page

/-- A successful launch asks configuration space nothing. -/
theorem vmpInitializeVm_found {sharedData : PoolBlock}
    (hok : (vmpInitializeVm pf sharedData i sys).1 = true) :
    (vmpInitializeVm pf sharedData i sys).2.devices = sys.devices ∧
      (vmpInitializeVm pf sharedData i sys).2.pci = sys.pci ∧
      sys.heap.refused ≤ (vmpInitializeVm pf sharedData i sys).2.heap.refused := by
  unfold vmpInitializeVm at hok ⊢
  simp only at hok ⊢
  split at hok
  · cases hok
  rename_i self h₁ hself
  split at hok
  · cases hok
  rename_i d h₂ hept
  split at hok
  · cases hok
  rename_i stack h₃ hstack
  split at hok
  · cases hok
  rename_i vmcs h₄ hvmcs
  split at hok
  · cases hok
  rename_i vmxon h₅ hvmxon
  split_ifs at hok with hon hentered
  rw [if_neg hon, if_neg hentered]
  obtain ⟨-, -, -, h₁_eq⟩ := allocateData_block _ hself
  obtain ⟨-, h₂_le, -⟩ := eptInitialization_keepsBlocks _ _ hept
  obtain ⟨-, -, -, h₃_eq⟩ := allocateData_block _ hstack
  obtain ⟨-, -, -, h₄_eq⟩ := allocateData_block _ hvmcs
  obtain ⟨-, -, -, h₅_eq⟩ := allocateData_block _ hvmxon
  have hle : sys.heap.refused ≤ h₅.refused := by omega
  exact ⟨rfl, rfl, hle⟩

theorem vmpInitializeSharedData_found {pool : Pool} {sharedData : PoolBlock}
    (hshared : vmpInitializeSharedData pool sys = (some sharedData, sys₁)) :
    sys₁.devices = sys.devices ∧ sys₁.pci = sys.pci ∧ sys₁.heap.refused = sys.heap.refused := by
  unfold vmpInitializeSharedData at hshared
  split at hshared
  · cases hshared
  rename_i self h₁ hself
  split at hshared
  · cases hshared
  rename_i msrBitmap h₂ hmsr
  split at hshared
  · cases hshared
  rename_i ioBitmap h₃ hio
  obtain ⟨-, -, -, h₁_eq⟩ := allocateData_block _ hself
  obtain ⟨-, -, -, h₂_eq⟩ := allocateData_block _ hmsr
  obtain ⟨-, -, -, h₃_eq⟩ := allocateData_block _ hio
  cases hshared
  exact ⟨rfl, rfl, h₃_eq.trans (h₂_eq.trans h₁_eq)⟩

/-- The enabling calls of the first `k` processors are done, on tables that guarded nothing. -/
structure Enabling (m : Machine B) (start : Ledger PoolBlock)
    (sharedData msrBitmap ioBitmap : PoolBlock) (vs : List ℕ) (sys₀ : System B C) (k : ℕ)
    (sys : System B C) : Prop where
  accounted : Accounted start sharedData msrBitmap ioBitmap vs sys
  vmms : Vmms sys
  found : (sys.devices, sys.pci) = callFinds m sys₀ k
  refused : sys₀.heap.refused ≤ sys.heap.refused
  guarding : sys.heap.refused = sys₀.heap.refused →
    Guarding (fun i page => i < k ∧ EnablePages m sys₀ i page) sys

section Enabling

variable {start : Ledger PoolBlock} {sharedData msrBitmap ioBitmap : PoolBlock} {vs : List ℕ}
  {sys₀ : System B C} {k : ℕ}

theorem Enabling.step (he : Enabling m start sharedData msrBitmap ioBitmap vs sys₀ k sys)
    (hvs : vs.Nodup) (hp : sys.processors k = some p) :
    Enabling m start sharedData msrBitmap ioBitmap vs sys₀ (k + 1)
      (utilVmCall m .enableVmmDeviceMonitor 0 k sys).2 := by
  obtain ⟨hcall, hcont⟩ := utilVmCall_serves m .enableVmmDeviceMonitor (by decide) 0 hp
  obtain ⟨ha, hv⟩ := he.accounted.vmCall he.vmms hvs m .enableVmmDeviceMonitor (by decide) 0 k
  have hi := he.vmms.inv hp
  obtain ⟨-, hserved⟩ := hi.vmCall_served (m := m) .enableVmmDeviceMonitor 0
  obtain ⟨hfound, hept, hfault⟩ := asmVmxCall_enable m 0 (sys.vmm p)
  have hbefore : ((sys.vmm p).devices, (sys.vmm p).pci) = callFinds m sys₀ k := he.found
  have hdevices : (sys.vmm p).devices = (callFinds m sys₀ k).1 := congrArg Prod.fst hbefore
  have hpci : (sys.vmm p).pci = (callFinds m sys₀ k).2 := congrArg Prod.snd hbefore
  rw [hdevices, hpci] at hfound hept
  rw [hcall] at ha hv ⊢
  generalize (asmVmxCall m .enableVmmDeviceMonitor 0 (sys.vmm p)).2 = s'
    at hcont hserved hfound hept hfault ha hv ⊢
  have hle : sys.heap.refused ≤ s'.ept.heap.refused := hserved.refused
  refine ⟨ha, hv, hfound.trans (callFinds_succ m sys₀ k).symm, he.refused.trans hle,
    fun hrefused => ?_⟩
  have hrefused' : s'.ept.heap.refused = sys₀.heap.refused := hrefused
  have hsame : sys.heap.refused = sys₀.heap.refused :=
    le_antisymm (hle.trans hrefused'.le) he.refused
  have hg := he.guarding hsame
  refine hg.store he.vmms hp hserved hcont (fun j hj page => ?_) fun page => ?_
  · exact and_congr_left fun _ => by omega
  · rw [hi.guards_enable _ hept hfault (hrefused'.trans hsame.symm), hg k p hp page]
    simp [EnablePages]

/-- The enabling loop. -/
theorem Enabling.loop (he : Enabling m start sharedData msrBitmap ioBitmap vs sys₀ 0 sys)
    (hvs : vs.Nodup) (hok : dmEnableMonitor m sys = (.success, sys₁)) :
    Enabling m start sharedData msrBitmap ioBitmap vs sys₀ sys.activeProcessorCount sys₁ := by
  rcases utilForEachProcessorLoop_rule
      (I := fun k s => Enabling m start sharedData msrBitmap ioBitmap vs sys₀ k s)
      (fun {k s s'} he (hcall : utilVmCall m .enableVmmDeviceMonitor 0 k s = (.success, s')) => by
        cases hp : s.processors k with
        | none =>
          rw [utilVmCall_unserved m _ _ hp] at hcall
          cases hcall
        | some p =>
          have hnext := he.step hvs hp
          rwa [hcall] at hnext)
      sys.activeProcessorCount (i := 0) he with ⟨-, hI⟩ | ⟨k, sk, -, -, -, hfail, heq⟩
  · rw [show utilForEachProcessorLoop _ _ 0 sys = _ from hok, Nat.zero_add] at hI
    exact hI
  · rw [← heq] at hfail
    exact (hfail (congrArg Prod.fst hok)).elim

end Enabling

/-- What holds between two events. -/
structure Watched (G : ℕ → Page → Prop) (sys : System B C) : Prop where
  accounted : ∃ start sharedData msrBitmap ioBitmap vs, vs.Nodup ∧
    Accounted start sharedData msrBitmap ioBitmap vs sys
  vmms : Vmms sys
  guarding : Guarding G sys

/-- After a `VmInitialization` in which no request was refused each processor guards the pages of
its enabling call. -/
theorem vmInitialization_watched (hnone : ∀ i, sys.processors i = none)
    (hok : vmInitialization pf sys = (.success, sys₁))
    (hrefused : sys₁.heap.refused = sys.heap.refused) :
    Watched (fun i page => i < sys.activeProcessorCount ∧ EnablePages pf.machine sys i page)
      sys₁ := by
  obtain ⟨sharedData, msrBitmap, ioBitmap, sys₀, sys₂, hshared, ha, hstart, hl, hcount, henable⟩ :=
    vmInitialization_some hnone hok
  have hnone₀ : ∀ i, sys₀.processors i = none := fun i => by
    rw [← Option.not_isSome_iff_eq_none, ha.held.virtualized i]
    exact List.not_mem_nil
  obtain ⟨hdevices, hpci, hrefused₀⟩ := vmpInitializeSharedData_found hshared
  -- no start touches configuration space, and none makes a processor guard anything
  have hstarted := startLoop_vmms pf (J := fun s => s.devices = sys.devices ∧ s.pci = sys.pci ∧
      sys.heap.refused ≤ s.heap.refused ∧ Guarding (fun _ _ => False) s)
    (fun {i vs s} ha hv hi hok hJ => by
      obtain ⟨hd, hp, hr⟩ := vmpInitializeVm_found hok
      exact ⟨hd.trans hJ.1, hp.trans hJ.2.1, hJ.2.2.1.trans hr,
        hJ.2.2.2.started pf ha hi fun _ => id⟩)
    ha (.of_none hnone₀) ⟨hdevices, hpci, hrefused₀.ge, fun i p hp => by
      rw [hnone₀ i] at hp
      cases hp⟩ (congrArg Prod.fst hstart)
  rw [hstart] at hstarted
  obtain ⟨hv, hdevices₂, hpci₂, hrefused₂, hg⟩ := hstarted
  have he : Enabling pf.machine sys.heap.ledger sharedData msrBitmap ioBitmap
      (List.range sys.activeProcessorCount) sys 0 sys₂ :=
    ⟨hl.accounted, hv, congrArg₂ Prod.mk hdevices₂ hpci₂, hrefused₂, fun _ i p hp page =>
      (hg i p hp page).trans (by simp)⟩
  have hend := he.loop List.nodup_range henable
  rw [hl.count, hcount] at hend
  exact ⟨⟨_, _, _, _, _, List.nodup_range, hend.accounted⟩, hend.vmms, hend.guarding hrefused⟩

/-! ## Runs -/

/-- A run of hot-adds and exits in which no violation opens a page while its processor has another
one open. -/
inductive GuardedRun (pf : Platform B C) (sys : System B C) : List Bool → System B C → Prop where
  | refl : GuardedRun pf sys [] sys
  | hotAdd {outcomes : List Bool} {sys₁ : System B C} (run : GuardedRun pf sys outcomes sys₁)
      (current : ℕ) : GuardedRun pf sys (outcomes ++ [(sys₁.hotAdd pf current).1.isSuccess])
        (sys₁.hotAdd pf current).2
  | exit {outcomes : List Bool} {sys₁ : System B C} {i : ℕ} {p : Processor B C}
      {reason : VmExitReason} {s₀ s' : VmmState B C} (run : GuardedRun pf sys outcomes sys₁)
      (running : sys₁.processors i = some p) (noCall : reason ≠ .vmcall)
      (step : ExitStep pf.machine reason (sys₁.vmm p) s₀ s')
      (safe : ¬Overwrites Set.univ reason (captureGuestContext s₀)) :
      GuardedRun pf sys outcomes (sys₁.store i p s')

theorem GuardedRun.driverRun (hr : GuardedRun pf sys outcomes sys₁) :
    DriverRun pf sys outcomes sys₁ := by
  induction hr with
  | refl => exact .refl
  | hotAdd _ current ih => exact ih.tail (.hotAdd current)
  | exit _ hp hno hstep _ ih =>
    have htail := ih.tail (.exit hp hno hstep)
    rwa [List.append_nil] at htail

theorem Watched.exit {reason : VmExitReason} {s₀ s' : VmmState B C} (hw : Watched G sys)
    (hp : sys.processors i = some p) (hno : reason ≠ .vmcall)
    (hstep : ExitStep m reason (sys.vmm p) s₀ s')
    (hsafe : ¬Overwrites Set.univ reason (captureGuestContext s₀)) :
    Watched G (sys.store i p s') := by
  have hi := hw.vmms.inv hp
  have hi₀ := (hi.of_guestRuns hstep.guest).of_guestRuns (guestRuns_capture s₀)
  obtain ⟨hinv, hserved⟩ := hi.exit_served hstep
  have hcont := vmContinue_of_noCall hno hstep.handled
  obtain ⟨start, sharedData, msrBitmap, ioBitmap, vs, hvs, ha⟩ := hw.accounted
  refine ⟨⟨_, _, _, _, vs, hvs, ha.store hw.vmms hvs hp hserved hcont rfl⟩,
    hw.vmms.store hp hserved hinv hcont p,
    hw.guarding.store hw.vmms hp hserved hcont (fun _ _ _ => Iff.rfl) fun page => ?_⟩
  rw [hi₀.guards_exit hno hstep.raised.capture hsafe (exit_effect hstep.handled) page,
    guards_of_guestRuns (guestRuns_capture s₀), guards_of_guestRuns hstep.guest]
  exact hw.guarding i p hp page

/-- Among virtualized processors a start keeps the accounts, whether it succeeds or not. -/
theorem Accounted.initialize_more {start : Ledger PoolBlock}
    {sharedData msrBitmap ioBitmap : PoolBlock} {vs : List ℕ} (pf : Platform B C)
    (ha : Accounted start sharedData msrBitmap ioBitmap vs sys) (hvs : vs.Nodup) (hne : vs ≠ [])
    (hi : sys.processors i = none) :
    ∃ vs', vs'.Nodup ∧ Accounted start sharedData msrBitmap ioBitmap vs'
      (vmpInitializeVm pf sharedData i sys).2 := by
  rcases ha.initialize pf hi with ⟨-, ha'⟩ | ⟨-, -, hundone⟩ | ⟨-, -, ha'⟩
  · have hnew : i ∉ vs := fun hmem => by
      have hsome := (ha.held.virtualized i).2 hmem
      rw [hi] at hsome
      cases hsome
    exact ⟨_, List.nodup_append_comm.1 (List.nodup_cons.2 ⟨hnew, hvs⟩), ha'⟩
  · exact ⟨vs, hvs, hundone.1 hne⟩
  · exact ⟨vs, hvs, ha'⟩

/-- The processor that `VmHotplugCallback` starts guards nothing. -/
theorem Watched.hotAdd {running : List Bool} (hw : Watched G sys) (hpop : Populated running sys)
    (hG : ∀ page, ¬G sys.activeProcessorCount page) (current : ℕ) :
    Watched G (sys.hotAdd pf current).2 := by
  obtain ⟨start, sharedData, msrBitmap, ioBitmap, vs, hvs, ha⟩ := hw.accounted
  unfold System.hotAdd vmHotplugCallback
  set sys₁ : System B C := { sys with activeProcessorCount := sys.activeProcessorCount + 1 }
    with hsys₁
  have ha₁ := ha.activate (sys.activeProcessorCount + 1)
  have hv₁ : Vmms sys₁ := ⟨hw.vmms.inv, hw.vmms.apart⟩
  have hg₁ : Guarding G sys₁ := hw.guarding
  have hlast : sys₁.processors sys.activeProcessorCount = none := hpop.none_of_le le_rfl
  rw [← hsys₁] at ha₁
  cases hp : sys₁.processors current with
  | none =>
    simp only [utilVmCall_unserved _ _ _ hp, Option.map_none]
    exact ⟨⟨_, _, _, _, vs, hvs, ha₁⟩, hv₁, hg₁⟩
  | some p =>
    obtain ⟨hcall, hcont⟩ := utilVmCall_serves pf.machine .getSharedProcessorData (by decide)
      pf.localVariable hp
    obtain ⟨ha₂, hv₂⟩ := ha₁.vmCall hv₁ hvs pf.machine .getSharedProcessorData (by decide)
      pf.localVariable current
    have hserved := ((hv₁.inv hp).vmCall_served (m := pf.machine) .getSharedProcessorData
      pf.localVariable).2
    have hg₂ := hg₁.store hv₁ hp hserved hcont (fun _ _ _ => Iff.rfl) fun page =>
      (guards_of_guestRuns (asmVmxCall_getSharedProcessorData _ _ _)).trans (hg₁ current p hp page)
    have hne : vs ≠ [] := List.ne_nil_of_mem ((ha₁.held.virtualized current).1 (by rw [hp]; rfl))
    have hnew := isSome_store (p := p) hcont (by rw [hp]; rfl) sys.activeProcessorCount
    simp only [hcall, Option.map_some, ha₁.users hp] at ha₂ hv₂ hg₂ hnew ⊢
    generalize System.store sys₁ current _ _ = sys₂ at ha₂ hv₂ hg₂ hnew ⊢
    rw [hlast, Option.isSome_none, Option.isSome_eq_false_iff, Option.isNone_iff_eq_none] at hnew
    rw [vmpStartVm]
    obtain ⟨vs', hvs', ha'⟩ := ha₂.initialize_more pf hvs hne hnew
    exact ⟨⟨_, _, _, _, vs', hvs', ha'⟩, ha₂.initialize_vmms pf hv₂ hnew,
      hg₂.started pf ha₂ hnew hG⟩

/-- A processor that joins later guards nothing, and the others what they did. -/
theorem Watched.run {running : List Bool} (hw : Watched G sys) (hpop : Populated running sys)
    (hG : ∀ i, running.length ≤ i → ∀ page, ¬G i page) (hr : GuardedRun pf sys outcomes sys₁) :
    Watched G sys₁ := by
  induction hr with
  | refl => exact hw
  | hotAdd hr current ih =>
    have hpop₁ := hpop.run hr.driverRun
    refine ih.hotAdd hpop₁ (hG _ ?_) current
    rw [hpop₁.count, List.length_append]
    exact Nat.le_add_right _ _
  | exit hr hp hno hstep hsafe ih => exact ih.exit hp hno hstep hsafe

/-! ## Results -/

/-- On every virtualized processor each page of `V` is trapped, or open for a single step. And a
page that is trapped on one processor is trapped on all but those in a single step. -/
structure AllMonitored (V : Page → Prop) (sys : System B C) : Prop where
  guards : ∀ i p, sys.processors i = some p → ∀ page, V page → Guards (sys.vmm p) page
  trapped : ∀ i j p q, sys.processors i = some p → sys.processors j = some q →
    (sys.vmm q).monitorTrapFlag = false →
    ∀ page, ((sys.vmm p).ept.leaf page).Trapped → ((sys.vmm q).ept.leaf page).Trapped

/-- While the flag is clear a guarded page is trapped. -/
theorem VmmInv.trapped_of_guards {s : VmmState B C} (hi : VmmInv s)
    (hflag : s.monitorTrapFlag = false) {page : Page} (h : Guards s page) :
    (s.ept.leaf page).Trapped := by
  refine h.resolve_right fun ⟨ptr, hptr, _⟩ => ?_
  have hset := hi.flag
  rw [hptr, hflag] at hset
  cases hset

/-- **Which processors are monitored.** Take a `VmInitialization` whose enabling calls visit the
same pages on all processors and are refused no table, and any run of hot-adds and exits in which
no violation opens a page while its processor has another one open. Then every virtualized
processor is monitored if and only if no hot-add succeeded, or there was no page to trap. -/
theorem run_monitored_iff (hnone : ∀ i, sys.processors i = none)
    (hok : vmInitialization pf sys = (.success, sys₁))
    (hsame : ∀ k < sys.activeProcessorCount, ∀ page,
      EnablePages pf.machine sys k page ↔ EnablePages pf.machine sys 0 page)
    (hrefused : sys₁.heap.refused = sys.heap.refused)
    (hrun : GuardedRun pf sys₁ outcomes sys₂) :
    AllMonitored (EnablePages pf.machine sys 0) sys₂ ↔
      true ∉ outcomes ∨ ∀ page, ¬EnablePages pf.machine sys 0 page := by
  have hlen : (List.replicate sys.activeProcessorCount true).length = sys.activeProcessorCount :=
    List.length_replicate
  have hpop := vmInitialization_populated hnone hok
  have hrunning := (hpop.run hrun.driverRun).virtualized
  have hw : Watched _ sys₂ := (vmInitialization_watched hnone hok hrefused).run hpop
    (fun i hi page h => by rw [hlen] at hi; omega) hrun
  constructor
  · intro hall
    by_contra hcon
    obtain ⟨htrue, hpages⟩ := not_or.1 hcon
    obtain ⟨page, hpage⟩ := not_forall_not.1 hpages
    -- a hot-add that succeeded
    rw [not_not] at htrue
    obtain ⟨k, hk, hget⟩ := List.mem_iff_getElem.1 htrue
    have hsome := hrunning (sys.activeProcessorCount + k)
    rw [List.getElem?_append_right (by omega), hlen, Nat.add_sub_cancel_left,
      List.getElem?_eq_getElem hk, hget] at hsome
    obtain ⟨p, hp⟩ := Option.isSome_iff_exists.1 (hsome.2 rfl)
    have hguards := (hw.guarding _ p hp page).1 (hall.guards _ p hp page hpage)
    omega
  · intro hcond
    -- the pages each processor guards
    have hguards : ∀ i p, sys₂.processors i = some p → ∀ page,
        Guards (sys₂.vmm p) page ↔ EnablePages pf.machine sys 0 page := fun i p hp page => by
      have hguarding := hw.guarding i p hp page
      by_cases hi : i < sys.activeProcessorCount
      · exact (hguarding.trans (and_iff_right hi)).trans (hsame i hi page)
      · refine iff_of_false (fun h => hi (hguarding.1 h).1) fun hpage => ?_
        have hget := (hrunning i).1 (by rw [hp]; rfl)
        rw [List.getElem?_append_right (by omega)] at hget
        exact hcond.elim (fun hno => hno (List.mem_of_getElem? hget)) fun hno => hno page hpage
    refine ⟨fun i p hp page => (hguards i p hp page).2, fun i j p q hp hq hflag page htrapped => ?_⟩
    have hpage := (hguards i p hp page).1 (Or.inl htrapped)
    exact (hw.vmms.inv hq).trapped_of_guards hflag ((hguards j q hq page).2 hpage)

end AllVmms

/-! ## A violation on one of two processors -/

/-- Two processors after `VmInitialization`. -/
def spiBoth : System (BitVec 32) Unit :=
  (vmInitialization (spiPlatform (bumpPoolWithout 0x10000)) (freshSystem 2)).2

theorem spiBoth_eq : vmInitialization (spiPlatform (bumpPoolWithout 0x10000)) (freshSystem 2) =
    (.success, spiBoth) :=
  Prod.ext (by decide +kernel) rfl

theorem spiBoth_refused : spiBoth.heap.refused = (freshSystem 2).heap.refused := by
  decide +kernel

/-- Both enabling calls read the BAR of the SPI controller. -/
theorem spiBoth_same (k : ℕ) (hk : k < 2) (page : Page) :
    EnablePages (spiPlatform (bumpPoolWithout 0x10000)).machine (freshSystem 2) k page ↔
      EnablePages (spiPlatform (bumpPoolWithout 0x10000)).machine (freshSystem 2) 0 page := by
  have hranges : ∀ k < 2,
      let found := callFinds (spiPlatform (bumpPoolWithout 0x10000)).machine (freshSystem 2) k
      ((scanRanges found.1).run (bar32Bus 0xFFFFF000) found.2).1.2 = [(0xFED00000, 0x1000)] := by
    decide +kernel
  have heq := (hranges k hk).trans (hranges 0 (by decide)).symm
  exact iff_of_eq (congrArg (fun ranges => RangePages ranges page) heq)

/-- While the guest of the first processor is in the single step of a read of the BAR, both are
monitored. -/
theorem run_monitored_iff_violation :
    ∃ p, spiBoth.processors 0 = some p ∧
      AllMonitored (EnablePages (spiPlatform (bumpPoolWithout 0x10000)).machine (freshSystem 2) 0)
        (spiBoth.store 0 p (afterViolation (spiPlatform (bumpPoolWithout 0x10000)).machine readFault
          0xFED00000 (spiBoth.vmm p))) := by
  set pf := spiPlatform (bumpPoolWithout 0x10000)
  have hfirst : (spiBoth.processors 0).any (fun p =>
      (spiBoth.vmm p).vmContinue && (spiBoth.vmm p).lastFaultEntry.isNone &&
        ((spiBoth.vmm p).ept.leaf (pageOf 0xFED00000)).Trapped) = true := by
    decide +kernel
  obtain ⟨p, hp, hstate⟩ := (Option.any_eq_true _ _).1 hfirst
  rw [Bool.and_eq_true, Bool.and_eq_true, decide_eq_true_eq] at hstate
  obtain ⟨⟨hcont, hfault⟩, htrapped⟩ := hstate
  have hnone : ∀ i, (freshSystem 2).processors i = none := fun _ => rfl
  have hi := (vmInitialization_watched hnone spiBoth_eq spiBoth_refused).vmms.inv hp
  have hstep : ExitStep pf.machine .eptViolation (spiBoth.vmm p)
      (atViolation readFault 0xFED00000 (spiBoth.vmm p))
      (afterViolation pf.machine readFault 0xFED00000 (spiBoth.vmm p)) :=
    hi.exitStep hcont htrapped (Or.inl rfl)
  have hrun : GuardedRun pf spiBoth [] _ := .exit .refl hp (by decide) hstep
    (not_overwrites_of_none (Option.isNone_iff_eq_none.1 hfault))
  exact ⟨p, hp, (run_monitored_iff hnone spiBoth_eq spiBoth_same spiBoth_refused hrun).2
    (Or.inl (by decide))⟩

/-- The BAR page of the SPI controller is trapped on the first processor and not on one that is
added, which nobody enables the monitor on. -/
theorem added_processor_unmonitored :
    ¬∀ (pf : Platform (BitVec 32) Unit) (sys sys₁ sys₂ : System (BitVec 32) Unit)
      (outcomes : List Bool), (∀ i, sys.processors i = none) →
      vmInitialization pf sys = (.success, sys₁) → DriverRun pf sys₁ outcomes sys₂ →
      ∀ i j p q, sys₂.processors i = some p → sys₂.processors j = some q →
        (sys₂.vmm q).monitorTrapFlag = false →
        ∀ page, ((sys₂.vmm p).ept.leaf page).Trapped → ((sys₂.vmm q).ept.leaf page).Trapped := by
  intro hall
  set sys₂ := (spiAdded 0x10000).2
  have hfirst : (sys₂.processors 0).any (fun p =>
      ((sys₂.vmm p).ept.leaf 0xFED00).Trapped) = true := by
    decide +kernel
  have hsecond : (sys₂.processors 1).any (fun p =>
      !(sys₂.vmm p).monitorTrapFlag && ¬((sys₂.vmm p).ept.leaf 0xFED00).Trapped) = true := by
    decide +kernel
  obtain ⟨p, hp, htrapped⟩ := (Option.any_eq_true _ _).1 hfirst
  obtain ⟨q, hq, hnot⟩ := (Option.any_eq_true _ _).1 hsecond
  rw [Bool.and_eq_true, Bool.not_eq_true', decide_eq_true_eq] at hnot
  exact hnot.2 (hall _ _ _ _ _ (fun _ => rfl) spiStarted_eq_all (spiAdded_run 0x10000) 0 1 p q
    hp hq hnot.1 _ (of_decide_eq_true htrapped))

end DeviceMon
