import DeviceMon.VmmRun

/-!
# Progress of EPT violations

What handling an EPT violation gains. It makes progress if the leaf of the faulting page
then permits the access, or the guest moved past the instruction (`MadeProgress`). The
tables are page granular and the scan of the BARs byte granular : a page trapped for a
small BAR also denies the bytes around it, nobody monitors those, and the handler takes a
present leaf as a reason to do nothing (`violation_progress_iff`).
-/

namespace DeviceMon

/-- The entry permits every kind of access that the qualification reports. -/
def EptCommonEntry.Permits (e : EptCommonEntry) (q : EptViolationQualification) : Prop :=
  (q.readAccess = true → e.readAccess = true) ∧ (q.writeAccess = true → e.writeAccess = true) ∧
    (q.executeAccess = true → e.executeAccess = true)

instance (e : EptCommonEntry) (q : EptViolationQualification) : Decidable (e.Permits q) :=
  inferInstanceAs (Decidable (_ ∧ _ ∧ _))

theorem EptCommonEntry.Open.permits {e : EptCommonEntry} (h : e.Open)
    (q : EptViolationQualification) : e.Permits q :=
  ⟨fun _ => h.1, fun _ => h.2.1, fun _ => h.2.2⟩

section Progress

variable {B C : Type} {m : Machine B} {s s₀ s' : VmmState B C}

/-- The leaf of the faulting page permits the access after the exit, or the guest's IP is past
the instruction. -/
def MadeProgress (s s' : VmmState B C) : Prop :=
  (s'.ept.leaf (pageOf s.faultAddress)).Permits s.qualification ∨
    s'.vmcs .guestRip = s.vmcs .guestRip + s.vmcs .vmExitInstructionLen

instance (s s' : VmmState B C) : Decidable (MadeProgress s s') :=
  inferInstanceAs (Decidable (_ ∨ _))

/-! ## Violations nobody monitors -/

/-- The guest's IP that an exit leaves alone is not past the instruction. -/
theorem EptViolationRaised.rip_ne (h : EptViolationRaised s) :
    s.vmcs .guestRip ≠ s.vmcs .guestRip + s.vmcs .vmExitInstructionLen := by
  intro heq
  have hlen := h.length.1
  have hzero : s.vmcs .vmExitInstructionLen = 0 := by
    have hsub := congrArg (· - s.vmcs .guestRip) heq
    simpa [BitVec.add_comm] using hsub.symm
  rw [hzero] at hlen
  exact absurd hlen (by decide)

/-- The leaf denies an access the processor reports. -/
theorem VmmInv.not_permits (hi : VmmInv s) (h : EptViolationRaised s) :
    ¬s.faultLeaf.Permits s.qualification := by
  rintro ⟨hr, hw, hx⟩
  rcases h.denied with ⟨hq, hwalk⟩ | ⟨hq, hwalk⟩ | ⟨hq, hwalk⟩
  · rw [hi.walkAllows_eq (·.readAccess) rfl fun e he => he.1, hr hq] at hwalk
    cases hwalk
  · rw [hi.walkAllows_eq (·.writeAccess) rfl fun e he => he.2.1, hw hq] at hwalk
    cases hwalk
  · rw [hi.walkAllows_eq (·.executeAccess) rfl fun e he => he.2.2, hx hq] at hwalk
    cases hwalk

/-- On an absent leaf the qualification reports no permission, and the page is mapped. -/
theorem VmmInv.absent_maps (hi : VmmInv s) (h : EptViolationRaised s) (hz : s.faultLeaf.all = 0) :
    eptHandleEptViolation m.pool m.mtrr s.qualification s.faultAddress s.ept =
      (eptpMapGpaToHpa m.pool m.mtrr s.faultAddress s.ept).2 := by
  have hleaf : s.faultLeaf = .zero := (EptCommonEntry.all_eq_zero_iff _).1 hz
  have hr := h.readable
  have hw := h.writeable
  have hx := h.executable
  rw [hi.walkAllows_eq (·.readAccess) rfl fun e he => he.1, hleaf] at hr
  rw [hi.walkAllows_eq (·.writeAccess) rfl fun e he => he.2.1, hleaf] at hw
  rw [hi.walkAllows_eq (·.executeAccess) rfl fun e he => he.2.2, hleaf] at hx
  exact hi.ready.eptHandleEptViolation_absent m.pool m.mtrr hr hw hx hz

/-- Mapping the page opens it unless a table was refused. -/
theorem VmmInv.map_opens (hi : VmmInv s)
    (hr : (eptpMapGpaToHpa m.pool m.mtrr s.faultAddress s.ept).2.heap.refused =
      s.ept.heap.refused) :
    ((eptpMapGpaToHpa m.pool m.mtrr s.faultAddress s.ept).2.leaf (pageOf s.faultAddress)).Open := by
  have hm := hi.ready.map_spec m.pool m.mtrr s.faultAddress
  cases hptr : (eptpMapGpaToHpa m.pool m.mtrr s.faultAddress s.ept).1 with
  | none =>
    have hlt := (hm.failed hptr).2
    omega
  | some ptr =>
    rw [(hm.mapped hptr).2, if_pos rfl]
    exact ⟨rfl, rfl, rfl⟩

/-- A violation nobody monitors makes progress exactly on an absent leaf. -/
theorem VmmInv.unmonitored_progress (hi : VmmInv s) (h : EptViolationRaised s)
    (hept : s'.ept = eptHandleEptViolation m.pool m.mtrr s.qualification s.faultAddress s.ept)
    (hrip : s'.vmcs .guestRip = s.vmcs .guestRip)
    (hr : s'.ept.heap.refused = s.ept.heap.refused) :
    MadeProgress s s' ↔ s.faultLeaf.all = 0 := by
  constructor
  · rintro (hpermits | hmoved)
    · by_contra hne
      rw [hept, (violation_step m.pool m.mtrr s.qualification hi.ready s.faultAddress).2 _ hne]
        at hpermits
      exact hi.not_permits h hpermits
    · rw [hrip] at hmoved
      exact (h.rip_ne hmoved).elim
  · intro hz
    rw [hi.absent_maps h hz] at hept
    rw [hept] at hr
    refine Or.inl ?_
    rw [hept]
    exact (hi.map_opens hr).permits _

/-! ## Every violation -/

/-- If no table is refused, a violation in a reachable state makes progress exactly when the page
has no leaf or the low 32 bits of the address count as monitored. -/
theorem violation_progress_iff (h : Reachable m s) (hstep : ExitStep m .eptViolation s s₀ s')
    (hr : s'.ept.heap.refused = s₀.ept.heap.refused) :
    MadeProgress s₀ s' ↔ s₀.faultLeaf.all = 0 ∨
      dmIsMonitoredDevice s₀.devices (s₀.faultAddress.setWidth 32) = true := by
  have hi : VmmInv s₀ := h.inv.of_guestRuns hstep.guest
  have hi' : VmmInv (captureGuestContext s₀) := hi.of_guestRuns (guestRuns_capture s₀)
  have hraised : EptViolationRaised s₀ := hstep.raised
  cases exit_effect hstep.handled with
  | opened hentry hret hept hfault hflag =>
    obtain ⟨-, -, hleaf⟩ := opened_step hi' hentry
    refine iff_of_true (Or.inl ?_) (Or.inr (mmioEntry_eq_some.1 hentry).1)
    have hopen : s'.ept.leaf (pageOf s₀.faultAddress) = s₀.faultLeaf.pass := by
      rw [hept, hleaf]
      exact if_pos rfl
    rw [hopen]
    exact (EptCommonEntry.open_pass _).permits _
  | skipped hentry hret hguest hrip =>
    exact iff_of_true (Or.inr hrip) (Or.inr (mmioEntry_eq_some.1 hentry).1)
  | unmonitored hentry hstate =>
    rw [hi.unmonitored_progress hraised (by rw [hstate]; rfl) (by rw [hstate]; rfl) hr]
    refine ⟨Or.inl, ?_⟩
    rintro (hz | hmon)
    · exact hz
    · by_contra hne
      cases hptr : eptGetEptPtEntry s₀.ept s₀.faultAddress with
      | none =>
        rw [VmmState.faultLeaf, hi.ready.leaf_of_none hptr] at hne
        exact hne EptCommonEntry.all_zero
      | some ptr =>
        have hread : s₀.ept.read ptr = s₀.faultLeaf := hi.ready.read_slot hptr
        have hsome : mmioEntry (captureGuestContext s₀) = some ptr :=
          mmioEntry_eq_some.2 ⟨hmon, hptr, by rw [← hread] at hne; exact hne⟩
        rw [hsome] at hentry
        cases hentry

end Progress

/-! ## A small BAR -/

/-- The monitor enabled for a BAR of 16 bytes. -/
def smallBar : VmmState (BitVec 32) Unit :=
  userCall 0xFFFFFFF0 3 bootEpt

theorem smallBar_step {address : BitVec 64} (hp : pageOf address = 0xFED00) :
    ExitStep (spiMachine 0xFFFFFFF0) .eptViolation smallBar
      (atViolation readFault address smallBar)
      (afterViolation (spiMachine 0xFFFFFFF0) readFault address smallBar) := by
  have htrap : (smallBar.ept.leaf 0xFED00).Trapped := by decide +kernel
  exact (reachable_enabled 0xFFFFFFF0).inv.exitStep rfl (by rw [hp]; exact htrap) (Or.inl rfl)

/-- A read inside the BAR. -/
theorem violation_progress_iff_smallBar :
    MadeProgress (atViolation readFault 0xFED00008 smallBar)
        (afterViolation (spiMachine 0xFFFFFFF0) readFault 0xFED00008 smallBar) ↔
      (atViolation readFault 0xFED00008 smallBar).faultLeaf.all = 0 ∨
        dmIsMonitoredDevice (atViolation readFault 0xFED00008 smallBar).devices
          ((atViolation readFault 0xFED00008 smallBar).faultAddress.setWidth 32) = true :=
  violation_progress_iff (reachable_enabled 0xFFFFFFF0) (smallBar_step (by decide))
    (by decide +kernel)

/-- A read of the rest of its page faults forever. -/
theorem small_bar_refaults :
    ¬∀ (m : Machine (BitVec 32)) (s s₀ s' : VmmState (BitVec 32) Unit), Reachable m s →
      ExitStep m .eptViolation s s₀ s' →
      (∀ cfg ∈ s₀.devices, ∀ j ∈ cfg.bars, cfg.barAddress j + 16 ≤ cfg.barLimit j) →
      s'.ept.heap.refused = s₀.ept.heap.refused → MadeProgress s₀ s' := by
  intro hall
  have hstep := smallBar_step (show pageOf 0xFED00800 = 0xFED00 by decide)
  have hprogress := hall (spiMachine 0xFFFFFFF0) smallBar _ _ (reachable_enabled 0xFFFFFFF0)
    hstep (by decide +kernel) (by decide +kernel)
  exact absurd hprogress (by decide +kernel)

end DeviceMon
