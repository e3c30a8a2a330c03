import DeviceMon.VmmRun

/-!
# Single-step re-arm

A page opened for a single step is in `LastFaultEntry` until the MTF exit closes it
(`Pending`), and `LastFaultEntry` holds one page. An instruction that touches two trapped
pages faults on both before it retires; the second fault overwrites the first
(`Overwrites`), and the one MTF exit closes the second only.

`Armed` is the invariant of the runs without such a fault : each page of `T` is trapped or
pending. While the flag is clear nothing is pending (`armed_of_flag_clear`).
-/

namespace DeviceMon

section SingleStep

variable {B C : Type} {m : Machine B} {s s₀ s' : VmmState B C} {reason : VmExitReason}
  {T : Set Page} {p : Page}

/-! ## Steps -/

/-- The hypercall that disables the monitor. -/
def DisableCall (reason : VmExitReason) (s : VmmState B C) : Prop :=
  reason = .vmcall ∧ s.gpRegs.cx.setWidth 32 = HypercallNumber.disableVmmDeviceMonitor.value

/-- `LastFaultEntry` is the slot of `p`. -/
def Pending (s : VmmState B C) (p : Page) : Prop :=
  ∃ ptr, s.lastFaultEntry = some ptr ∧ eptGetEptPtEntry s.ept (pageAddr p) = some ptr

/-- A violation whose page is opened for a single step. -/
def SingleStepped (reason : VmExitReason) (s : VmmState B C) : Prop :=
  reason = .eptViolation ∧ mmioEntry s ≠ none ∧ (mmioCallback s).ret = false

/-- A violation that is single-stepped while another page of `T` is pending. -/
def Overwrites (T : Set Page) (reason : VmExitReason) (s : VmmState B C) : Prop :=
  SingleStepped reason s ∧ ∃ p ∈ T, p ≠ pageOf s.faultAddress ∧ Pending s p

/-- An exit that does not disable the monitor. -/
def ArmedStep (m : Machine B) (s s' : VmmState B C) : Prop :=
  ∃ reason s₀, ExitStep m reason s s₀ s' ∧ ¬DisableCall reason s₀

/-- One that does not overwrite a pending page of `T` either. -/
def SafeStep (m : Machine B) (T : Set Page) (s s' : VmmState B C) : Prop :=
  ∃ reason s₀, ExitStep m reason s s₀ s' ∧ ¬DisableCall reason s₀ ∧
    ¬Overwrites T reason (captureGuestContext s₀)

/-! ## Trapped or pending -/

/-- Every page of `T` is trapped or pending. -/
structure Armed (T : Set Page) (s : VmmState B C) : Prop where
  inv : VmmInv s
  page : ∀ p ∈ T, (s.ept.leaf p).Trapped ∨ Pending s p

/-- A pending page is the one the slot belongs to. -/
theorem Pending.page_eq {ptr : EntryPtr} {q : Page} (hi : VmmInv s) (h : Pending s p)
    (hfault : s.lastFaultEntry = some ptr) (hq : eptGetEptPtEntry s.ept (pageAddr q) = some ptr) :
    p = q := by
  obtain ⟨ptr', hfault', hp⟩ := h
  rw [hfault] at hfault'
  obtain rfl := Option.some.inj hfault'
  simpa using hi.ready.slot_page hp hq

/-- A step that traps no less and leaves `LastFaultEntry` alone. -/
theorem Armed.of_step (h : Armed T s) (hi : VmmInv s') (hk : Keeps s.ept s'.ept)
    (hfault : s'.lastFaultEntry = s.lastFaultEntry)
    (hleaf : ∀ p, (s.ept.leaf p).Trapped → (s'.ept.leaf p).Trapped) : Armed T s' := by
  refine ⟨hi, fun p hp => ?_⟩
  rcases h.page p hp with htrap | ⟨ptr, hptr, hslot⟩
  · exact Or.inl (hleaf p htrap)
  · exact Or.inr ⟨ptr, hfault.trans hptr, hk.slot hslot⟩

theorem Armed.of_guestRuns (h : Armed T s) (hg : GuestRuns s s') : Armed T s' :=
  h.of_step (h.inv.of_guestRuns hg) (by rw [hg.ept]; exact .refl h.inv.ready) hg.lastFaultEntry
    fun p hp => by rw [hg.ept]; exact hp

/-- Enabling keeps trapped pages trapped. -/
theorem enable_traps_more {ept : EptState} (pool : Pool) (mtrr : Mtrr) (h : EptReady ept)
    (ranges : List BarRange) (p : Page) (htrap : (ept.leaf p).Trapped) :
    ((onRanges (invalidateEptPages pool mtrr) ranges ept).leaf p).Trapped := by
  obtain ⟨-, V, -, hch, -⟩ := enable_spec pool mtrr ranges h
  by_cases hp : V p
  · exact ((hch p).1 hp).trapped
  · rw [(hch p).2 hp]
    exact htrap

/-- What one exit keeps, one case for each effect. -/
theorem Armed.exit (h : Armed T s) (hdisable : ¬DisableCall reason s)
    (hover : ¬Overwrites T reason s) (heff : ExitEffect m s s' reason) : Armed T s' := by
  have hi := h.inv
  have hi' : VmmInv s' := hi.exit heff
  cases heff with
  | closed hfault hept hnone hflag =>
    obtain ⟨q, hslot, -, hleaf⟩ := closed_step hi hfault
    refine ⟨hi', fun p hp => Or.inl ?_⟩
    rw [hept, hleaf]
    split_ifs with hq
    · exact EptCommonEntry.trapped_trap _
    · rcases h.page p hp with htrap | hpend
      · exact htrap
      · exact (hq (hpend.page_eq hi hfault hslot)).elim
  | opened hentry hret hept hfault hflag =>
    obtain ⟨hslot, hstep, hleaf⟩ := opened_step hi hentry
    rw [← hept] at hstep hleaf
    refine ⟨hi', fun p hp => ?_⟩
    by_cases hq : p = pageOf s.faultAddress
    · rw [hq]
      exact Or.inr ⟨_, hfault, hstep.slot hslot⟩
    · rw [hleaf, if_neg hq]
      rcases h.page p hp with htrap | hpend
      · exact Or.inl htrap
      · have hstepped : SingleStepped .eptViolation s := ⟨rfl, by rw [hentry]; simp, hret⟩
        exact (hover ⟨hstepped, p, hp, hq, hpend⟩).elim
  | skipped hentry hret hguest hrip => exact h.of_guestRuns hguest
  | unmonitored hentry hstate =>
    obtain ⟨hstep, hleaf⟩ := violation_step m.pool m.mtrr s.qualification hi.ready s.faultAddress
    subst hstate
    refine h.of_step hi' hstep.toKeeps rfl fun p htrap => ?_
    rw [show _ = s.ept.leaf p from hleaf p htrap.1]
    exact htrap
  | enabled ranges hnumber hept hfault hflag =>
    refine h.of_step hi' ?_ hfault fun p htrap => ?_
    · rw [hept]
      exact (enable_step m.pool m.mtrr hi.ready ranges).toKeeps
    · rw [hept]
      exact enable_traps_more m.pool m.mtrr hi.ready ranges p htrap
  | disabled ranges hnumber hept hfault hflag => exact (hdisable ⟨rfl, hnumber⟩).elim
  | other hguest => exact h.of_guestRuns hguest

theorem Armed.step (h : Armed T s) (hs : SafeStep m T s s') : Armed T s' := by
  obtain ⟨reason, s₀, hstep, hdisable, hover⟩ := hs
  have h₀ : Armed T (captureGuestContext s₀) :=
    (h.of_guestRuns hstep.guest).of_guestRuns (guestRuns_capture s₀)
  exact h₀.exit hdisable hover (exit_effect hstep.handled)

/-- Nothing is pending while the flag is clear. -/
theorem Armed.trapped (h : Armed T s) (hflag : s.monitorTrapFlag = false) :
    ∀ p ∈ T, (s.ept.leaf p).Trapped := by
  intro p hp
  rcases h.page p hp with htrap | ⟨ptr, hptr, -⟩
  · exact htrap
  · have hset := h.inv.flag
    rw [hptr, hflag] at hset
    cases hset

theorem Armed.run (h : Armed T s₀) (hrun : Relation.ReflTransGen (SafeStep m T) s₀ s) :
    Armed T s := by
  induction hrun with
  | refl => exact h
  | tail _ hs ih => exact ih.step hs

/-- From trapped pages, a run that neither disables the monitor nor overwrites a pending page of
`T` has them all trapped whenever the monitor trap flag is clear. -/
theorem trapped_of_flag_clear (h : Reachable m s₀) (hstart : ∀ p ∈ T, (s₀.ept.leaf p).Trapped)
    (hrun : Relation.ReflTransGen (SafeStep m T) s₀ s) (hflag : s.monitorTrapFlag = false) :
    ∀ p ∈ T, (s.ept.leaf p).Trapped := by
  have harmed : Armed T s₀ := ⟨h.inv, fun p hp => Or.inl (hstart p hp)⟩
  exact (harmed.run hrun).trapped hflag

/-- A single-stepped violation makes its page the pending one and changes no other. -/
theorem singleStepped_leaf (hi : VmmInv s) (hstepped : SingleStepped .eptViolation s)
    (heff : ExitEffect m s s' .eptViolation) (hp : p ≠ pageOf s.faultAddress) :
    s'.ept.leaf p = s.ept.leaf p ∧ Pending s' (pageOf s.faultAddress) := by
  obtain ⟨-, hsome, hret⟩ := hstepped
  cases heff with
  | opened hentry hret' hept hfault hflag =>
    obtain ⟨hslot, hstep, hleaf⟩ := opened_step hi hentry
    rw [← hept] at hstep hleaf
    exact ⟨by rw [hleaf, if_neg hp], _, hfault, hstep.slot hslot⟩
  | skipped hentry hret' hguest hrip =>
    rw [hret] at hret'
    cases hret'
  | unmonitored hentry hstate => exact (hsome hentry).elim

/-- The MTF exit changes the pending page only. -/
theorem monitorTrap_leaf {q : Page} (hi : VmmInv s) (hpend : Pending s q)
    (heff : ExitEffect m s s' .monitorTrapFlag) (hp : p ≠ q) :
    s'.ept.leaf p = s.ept.leaf p := by
  cases heff with
  | closed hfault hept hnone hflag =>
    obtain ⟨q', hslot, -, hleaf⟩ := closed_step hi hfault
    have hq : q = q' := hpend.page_eq hi hfault hslot
    rw [hept, hleaf, if_neg (by rw [← hq]; exact hp)]

/-- A page that is open when another violation is single-stepped stays open past the next MTF
exit. -/
theorem overwritten_stays_open {s₁ s₁' s₂ : VmmState B C} (h : Reachable m s)
    (hstep : ExitStep m .eptViolation s s₀ s₁) (hopen : (s.ept.leaf p).Open)
    (hstepped : SingleStepped .eptViolation (captureGuestContext s₀))
    (hp : p ≠ pageOf s₀.faultAddress) (hstep' : ExitStep m .monitorTrapFlag s₁ s₁' s₂) :
    (s₂.ept.leaf p).Open := by
  have hi : VmmInv (captureGuestContext s₀) :=
    (h.inv.of_guestRuns hstep.guest).of_guestRuns (guestRuns_capture s₀)
  have hi' : VmmInv (captureGuestContext s₁') :=
    ((h.exit hstep).inv.of_guestRuns hstep'.guest).of_guestRuns (guestRuns_capture s₁')
  obtain ⟨hleaf, ptr, hptr, hslot⟩ :=
    singleStepped_leaf hi hstepped (exit_effect hstep.handled) hp
  have hg := hstep'.guest
  have hpend : Pending (captureGuestContext s₁') (pageOf s₀.faultAddress) :=
    ⟨ptr, hg.lastFaultEntry.trans hptr, by rw [← hslot, ← hg.ept]; rfl⟩
  have hleaf' := monitorTrap_leaf hi' hpend (exit_effect hstep'.handled) hp
  rw [hleaf', show (captureGuestContext s₁').ept = s₁.ept from hg.ept, hleaf,
    show (captureGuestContext s₀).ept = s.ept from hstep.guest.ept]
  exact hopen

end SingleStep

/-! ## Two pages of one BAR -/

/-- The monitor enabled for a BAR of 16 KiB. -/
def largeBar : VmmState (BitVec 32) Unit :=
  userCall 0xFFFFC000 3 bootEpt

/-- A read of its first page. -/
def largeBarRead : VmmState (BitVec 32) Unit :=
  afterViolation (spiMachine 0xFFFFC000) readFault 0xFED00000 largeBar

/-- A write of its second page by the same instruction. -/
def largeBarWrite : VmmState (BitVec 32) Unit :=
  afterViolation (spiMachine 0xFFFFC000) writeFault 0xFED01000 largeBarRead

theorem largeBar_traps :
    (largeBar.ept.leaf 0xFED00).Trapped ∧ (largeBar.ept.leaf 0xFED01).Trapped := by
  decide +kernel

theorem largeBarRead_opens : largeBarRead.vmContinue = true ∧
    largeBarRead.monitorTrapFlag = true ∧ (largeBarRead.ept.leaf 0xFED00).Open ∧
    (largeBarRead.ept.leaf 0xFED01).Trapped := by
  decide +kernel

theorem pageOf_firstPage : pageOf 0xFED00000 = 0xFED00 := by
  decide

theorem pageOf_secondPage : pageOf 0xFED01000 = 0xFED01 := by
  decide

theorem largeBar_reachable : Reachable (spiMachine 0xFFFFC000) largeBar :=
  reachable_enabled 0xFFFFC000

theorem read_step : ExitStep (spiMachine 0xFFFFC000) .eptViolation largeBar
    (atViolation readFault 0xFED00000 largeBar) largeBarRead := by
  have hrun : largeBar.vmContinue = true := by decide +kernel
  refine largeBar_reachable.inv.exitStep hrun ?_ (Or.inl rfl)
  rw [pageOf_firstPage]
  exact largeBar_traps.1

theorem largeBarRead_reachable : Reachable (spiMachine 0xFFFFC000) largeBarRead :=
  largeBar_reachable.exit read_step

theorem write_step : ExitStep (spiMachine 0xFFFFC000) .eptViolation largeBarRead
    (atViolation writeFault 0xFED01000 largeBarRead) largeBarWrite := by
  obtain ⟨hrun, -, -, htrap⟩ := largeBarRead_opens
  refine largeBarRead_reachable.inv.exitStep hrun ?_ (Or.inr rfl)
  rw [pageOf_secondPage]
  exact htrap

/-- The MTF exit after the read alone. -/
theorem read_monitorTrap_step : ExitStep (spiMachine 0xFFFFC000) .monitorTrapFlag largeBarRead
    largeBarRead (afterMonitorTrap (spiMachine 0xFFFFC000) largeBarRead) :=
  largeBarRead_reachable.inv.monitorTrap_step largeBarRead_opens.1 largeBarRead_opens.2.1

/-- The MTF exit after the read and the write. -/
theorem write_monitorTrap_step : ExitStep (spiMachine 0xFFFFC000) .monitorTrapFlag largeBarWrite
    largeBarWrite (afterMonitorTrap (spiMachine 0xFFFFC000) largeBarWrite) := by
  have hflag : largeBarWrite.vmContinue = true ∧ largeBarWrite.monitorTrapFlag = true := by
    decide +kernel
  exact (largeBarRead_reachable.exit write_step).inv.monitorTrap_step hflag.1 hflag.2

/-- One access to one page : the MTF exit closes it. -/
theorem trapped_of_flag_clear_one_page :
    ((afterMonitorTrap (spiMachine 0xFFFFC000) largeBarRead).ept.leaf 0xFED00).Trapped := by
  have hread : SafeStep (spiMachine 0xFFFFC000) {0xFED00} largeBar largeBarRead := by
    refine ⟨_, _, read_step, fun h => ?_, ?_⟩
    · cases h.1
    · rintro ⟨-, p, -, -, ptr, hptr, -⟩
      cases hptr
  have htrap : SafeStep (spiMachine 0xFFFFC000) {0xFED00} largeBarRead
      (afterMonitorTrap (spiMachine 0xFFFFC000) largeBarRead) := by
    refine ⟨_, _, read_monitorTrap_step, fun h => ?_, fun h => ?_⟩
    · cases h.1
    · cases h.1.1
  refine trapped_of_flag_clear largeBar_reachable (fun p hp => ?_)
    ((Relation.ReflTransGen.single hread).tail htrap)
    (flag_after_monitorTrap read_monitorTrap_step) 0xFED00 rfl
  rw [Set.mem_singleton_iff.1 hp]
  exact largeBar_traps.1

theorem read_write_run : Relation.ReflTransGen (ArmedStep (spiMachine 0xFFFFC000)) largeBar
    (afterMonitorTrap (spiMachine 0xFFFFC000) largeBarWrite) := by
  refine ((Relation.ReflTransGen.single ⟨_, _, read_step, fun h => ?_⟩).tail
    ⟨_, _, write_step, fun h => ?_⟩).tail ⟨_, _, write_monitorTrap_step, fun h => ?_⟩
  all_goals cases h.1

/-- An instruction that touches two trapped pages leaves the first one open. -/
theorem two_pages_one_stays_open :
    ¬∀ (m : Machine (BitVec 32)) (s₀ s : VmmState (BitVec 32) Unit) (T : Set Page),
      Reachable m s₀ → (∀ p ∈ T, (s₀.ept.leaf p).Trapped) →
      Relation.ReflTransGen (ArmedStep m) s₀ s → s.monitorTrapFlag = false →
      ∀ p ∈ T, (s.ept.leaf p).Trapped := by
  intro hall
  have htrap := hall _ _ _ {0xFED00, 0xFED01} largeBar_reachable (by simpa using largeBar_traps)
    read_write_run (flag_after_monitorTrap write_monitorTrap_step) 0xFED00 (by simp)
  have hstepped : SingleStepped .eptViolation
      (captureGuestContext (atViolation writeFault 0xFED01000 largeBarRead)) :=
    ⟨rfl, by decide +kernel, by decide +kernel⟩
  have hpage : (0xFED00 : Page) ≠ pageOf 0xFED01000 := by decide
  have hopen := overwritten_stays_open largeBarRead_reachable write_step
    largeBarRead_opens.2.2.1 hstepped hpage write_monitorTrap_step
  exact hopen.not_denies htrap.denies

end DeviceMon
