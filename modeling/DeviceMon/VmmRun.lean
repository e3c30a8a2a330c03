import DeviceMon.Hypercall
import DeviceMon.LeafInvariant

/-!
# Runs of VM exits

What one exit does (`exit_effect`), which exits the processor raises (`ExitRaised`), and
the states reached from start-up by any sequence of exits (`Reachable`). Between two exits
the guest runs : its registers, the exit information, configuration space, memory, the
monitor list (other processors share it) and the world of the callbacks may change in any
way, the tables, `LastFaultEntry` and the execution controls not (`GuestRuns`). The exits
handled without touching these three are part of the guest's run.

The processor raises an EPT violation when an entry of its walk denies the access, and
reports the permissions of the walk in the qualification; it raises an MTF exit only while
the flag is set. The instruction length it reports is between 1 and 15.

`VmmInv` holds in every reachable state (`Reachable.inv`), and with it the leaf invariant
(`reachable_leaf_identity`).
-/

namespace DeviceMon

section Runs

variable {B C : Type} {m : Machine B} {s s₀ s' : VmmState B C} {reason : VmExitReason}

/-! ## Exits -/

namespace VmmState

/-- The qualification of the exit. -/
def qualification (s : VmmState B C) : EptViolationQualification :=
  ⟨s.vmcs .exitQualification⟩

/-- The guest physical address of the exit. -/
def faultAddress (s : VmmState B C) : BitVec 64 :=
  s.vmcs .guestPhysicalAddress

/-- The leaf of the faulting address. -/
def faultLeaf (s : VmmState B C) : EptCommonEntry :=
  s.ept.leaf (pageOf s.faultAddress)

/-- The monitor trap flag in the execution controls. -/
def monitorTrapFlag (s : VmmState B C) : Bool :=
  VmxProcessorBasedControls.monitorTrapFlag ((s.vmcs .cpuBasedVmExecControl).setWidth 32)

/-- Whether the processor's walk for the faulting address has a permission throughout. -/
def walkAllows (permission : EptCommonEntry → Bool) (s : VmmState B C) : Bool :=
  eptAllows permission s.ept 4 s.ept.data.eptPml4 s.faultAddress

end VmmState

/-- An EPT violation as the processor raises it. -/
structure EptViolationRaised (s : VmmState B C) : Prop where
  denied : s.qualification.readAccess = true ∧ s.walkAllows (·.readAccess) = false ∨
    s.qualification.writeAccess = true ∧ s.walkAllows (·.writeAccess) = false ∨
    s.qualification.executeAccess = true ∧ s.walkAllows (·.executeAccess) = false
  readable : s.qualification.eptReadable = s.walkAllows (·.readAccess)
  writeable : s.qualification.eptWriteable = s.walkAllows (·.writeAccess)
  executable : s.qualification.eptExecutable = s.walkAllows (·.executeAccess)
  length : 1 ≤ (s.vmcs .vmExitInstructionLen).toNat ∧ (s.vmcs .vmExitInstructionLen).toNat ≤ 15

/-- The processor can raise this exit. -/
def ExitRaised (reason : VmExitReason) (s : VmmState B C) : Prop :=
  match reason with
  | .monitorTrapFlag => s.monitorTrapFlag = true
  | .eptViolation => EptViolationRaised s
  | .vmcall => True

/-- What the guest's run keeps. -/
structure GuestRuns (s s₀ : VmmState B C) : Prop where
  ept : s₀.ept = s.ept
  lastFaultEntry : s₀.lastFaultEntry = s.lastFaultEntry
  controls : s₀.vmcs .cpuBasedVmExecControl = s.vmcs .cpuBasedVmExecControl

/-- The guest runs from `s` to `s₀`, where an exit is raised and handled. -/
structure ExitStep (m : Machine B) (reason : VmExitReason) (s s₀ s' : VmmState B C) : Prop where
  running : s.vmContinue = true
  guest : GuestRuns s s₀
  raised : ExitRaised reason s₀
  handled : vmmVmExitHandler m reason s₀ = some s'

/-- The states reached from a successful start. -/
inductive Reachable (m : Machine B) : VmmState B C → Prop where
  | launch {s : VmmState B C} {runs : List PhysicalMemoryRun} {apicBase : BitVec 64} {h : Heap}
      (start : eptInitialization m.pool m.mtrr runs apicBase h = (some s.ept.data, s.ept.heap))
      (noFault : s.lastFaultEntry = none) (noFlag : s.monitorTrapFlag = false) : Reachable m s
  | exit {reason : VmExitReason} {s s₀ s' : VmmState B C} (reached : Reachable m s)
      (step : ExitStep m reason s s₀ s') : Reachable m s'

/-! ## What an exit does -/

@[simp] theorem monitorTrapFlag_dmSetMonitorTrapFlag (enable : Bool) (s : VmmState B C) :
    (dmSetMonitorTrapFlag enable s).monitorTrapFlag = enable := by
  simp [VmmState.monitorTrapFlag, dmSetMonitorTrapFlag, utilVmWrite]

theorem OnlyVmcs.monitorTrapFlag (h : OnlyVmcs s s') :
    s'.monitorTrapFlag = s.monitorTrapFlag := by
  rw [VmmState.monitorTrapFlag, h.controls]
  rfl

theorem mmioEntry_eq_some {ptr : EntryPtr} : mmioEntry s = some ptr ↔
    dmIsMonitoredDevice s.devices (s.faultAddress.setWidth 32) = true ∧
      eptGetEptPtEntry s.ept s.faultAddress = some ptr ∧ (s.ept.read ptr).all ≠ 0 := by
  have hfault : utilVmRead s .guestPhysicalAddress = s.faultAddress := rfl
  simp only [mmioEntry, hfault]
  cases dmIsMonitoredDevice s.devices (s.faultAddress.setWidth 32) with
  | false => simp
  | true =>
    cases eptGetEptPtEntry s.ept s.faultAddress with
    | none => simp
    | some ptr' =>
      by_cases hz : (s.ept.read ptr').all = 0
      · simp only [Bool.not_true, Bool.false_eq_true, if_false, if_pos hz]
        constructor
        · intro h
          cases h
        · rintro ⟨-, hptr, hne⟩
          obtain rfl := Option.some.inj hptr
          exact (hne hz).elim
      · simp only [Bool.not_true, Bool.false_eq_true, if_false, if_neg hz, true_and]
        constructor
        · intro h
          obtain rfl := Option.some.inj h
          exact ⟨rfl, hz⟩
        · exact And.left

/-- The effect of handling an exit at `s` on what the guest's run keeps. -/
inductive ExitEffect (m : Machine B) (s s' : VmmState B C) : VmExitReason → Prop where
  /-- The MTF handler closes the entry opened last. -/
  | closed {ptr : EntryPtr} (fault : s.lastFaultEntry = some ptr)
      (ept : s'.ept = s.ept.modify ptr .trap) (noFault : s'.lastFaultEntry = none)
      (noFlag : s'.monitorTrapFlag = false) : ExitEffect m s s' .monitorTrapFlag
  /-- A monitored access is opened for a single step. -/
  | opened {ptr : EntryPtr} (entry : mmioEntry s = some ptr) (ret : (mmioCallback s).ret = false)
      (ept : s'.ept = s.ept.modify ptr .pass) (fault : s'.lastFaultEntry = some ptr)
      (flag : s'.monitorTrapFlag = true) : ExitEffect m s s' .eptViolation
  /-- A monitored access is skipped. -/
  | skipped {ptr : EntryPtr} (entry : mmioEntry s = some ptr) (ret : (mmioCallback s).ret = true)
      (guest : GuestRuns s s') (rip : s'.vmcs .guestRip = s.ip + s.vmcs .vmExitInstructionLen) :
      ExitEffect m s s' .eptViolation
  /-- Nobody monitors the access. -/
  | unmonitored (entry : mmioEntry s = none)
      (state : s' = { s with
        ept := eptHandleEptViolation m.pool m.mtrr s.qualification s.faultAddress s.ept }) :
      ExitEffect m s s' .eptViolation
  /-- `kEnableVmmDeviceMonitor`. -/
  | enabled (ranges : List BarRange)
      (number : s.gpRegs.cx.setWidth 32 = HypercallNumber.enableVmmDeviceMonitor.value)
      (ept : s'.ept = onRanges (invalidateEptPages m.pool m.mtrr) ranges s.ept)
      (fault : s'.lastFaultEntry = s.lastFaultEntry)
      (flag : s'.monitorTrapFlag = s.monitorTrapFlag) : ExitEffect m s s' .vmcall
  /-- `kDisableVmmDeviceMonitor`. -/
  | disabled (ranges : List BarRange)
      (number : s.gpRegs.cx.setWidth 32 = HypercallNumber.disableVmmDeviceMonitor.value)
      (ept : s'.ept = onRanges validateEptPages ranges s.ept)
      (fault : s'.lastFaultEntry = s.lastFaultEntry)
      (flag : s'.monitorTrapFlag = s.monitorTrapFlag) : ExitEffect m s s' .vmcall
  /-- Any other hypercall. -/
  | other (guest : GuestRuns s s') : ExitEffect m s s' .vmcall

theorem OnlyVmcs.guestRuns (h : OnlyVmcs s s') : GuestRuns s s' :=
  ⟨h.ept, h.lastFaultEntry, h.controls⟩

theorem violation_effect (m : Machine B) (s : VmmState B C) :
    ExitEffect m s (vmmpHandleEptViolation m s) .eptViolation := by
  unfold vmmpHandleEptViolation vmmpHandleMmio
  cases hentry : mmioEntry s with
  | none => exact .unmonitored hentry rfl
  | some ptr =>
    cases hret : (mmioCallback s).ret with
    | false =>
      simp only [hret, Bool.not_false, if_true]
      exact .opened hentry hret rfl rfl (monitorTrapFlag_dmSetMonitorTrapFlag _ _)
    | true =>
      simp only [hret, Bool.not_true, Bool.false_eq_true, if_false]
      refine .skipped hentry hret ?_ ?_
      · have hkeep : GuestRuns s
            { s with gpRegs := (mmioCallback s).context, world := (mmioCallback s).world } :=
          ⟨rfl, rfl, rfl⟩
        have hadjust := (onlyVmcs_adjust
          { s with gpRegs := (mmioCallback s).context, world := (mmioCallback s).world }).guestRuns
        exact ⟨hadjust.ept.trans hkeep.ept, hadjust.lastFaultEntry.trans hkeep.lastFaultEntry,
          hadjust.controls.trans hkeep.controls⟩
      · unfold vmmpAdjustGuestInstructionPointer
        simp only
        split_ifs <;> simp [vmmpInjectInterruption, utilVmWrite, utilVmRead]

theorem vmcall_effect (m : Machine B) (s : VmmState B C) :
    ExitEffect m s (vmmpHandleVmCall m s) .vmcall := by
  cases hn : HypercallNumber.ofValue (s.gpRegs.cx.setWidth 32) with
  | none =>
    simp only [vmmpHandleVmCall, hn]
    exact .other (onlyVmcs_unsuccessful s).guestRuns
  | some number =>
    have hvalue := HypercallNumber.ofValue_eq_some.1 hn
    cases number with
    | terminateVmm =>
      simp only [vmmpHandleVmCall, hn]
      split_ifs
      · exact .other ⟨rfl, rfl, rfl⟩
      · exact .other (onlyVmcs_unsuccessful s).guestRuns
    | pingVmm =>
      simp only [vmmpHandleVmCall, hn]
      exact .other (onlyVmcs_successful s).guestRuns
    | getSharedProcessorData =>
      simp only [vmmpHandleVmCall, hn]
      obtain ⟨h1, h2, h3⟩ :=
        (onlyVmcs_successful (storePointer s.gpRegs.dx s.sharedData s)).guestRuns
      exact .other ⟨h1, h2, h3⟩
    | enableVmmDeviceMonitor =>
      simp only [vmmpHandleVmCall, hn, dmEnableDeviceMonitor, run_dmScanDevices]
      have hvmcs := onlyVmcs_successful { s with
        devices := ((scanRanges s.devices).run m.bus s.pci).1.1
        ept := onRanges (invalidateEptPages m.pool m.mtrr)
          ((scanRanges s.devices).run m.bus s.pci).1.2 s.ept
        pci := ((scanRanges s.devices).run m.bus s.pci).2 }
      exact .enabled _ hvalue hvmcs.ept hvmcs.lastFaultEntry hvmcs.monitorTrapFlag
    | disableVmmDeviceMonitor =>
      simp only [vmmpHandleVmCall, hn, dmDisableDeviceMonitor, run_dmScanDevices]
      have hvmcs := onlyVmcs_successful { s with
        devices := ((scanRanges s.devices).run m.bus s.pci).1.1
        ept := onRanges validateEptPages ((scanRanges s.devices).run m.bus s.pci).1.2 s.ept
        pci := ((scanRanges s.devices).run m.bus s.pci).2 }
      exact .disabled _ hvalue hvmcs.ept hvmcs.lastFaultEntry hvmcs.monitorTrapFlag

/-- All an exit can do, from the context the VMM captured. -/
theorem exit_effect (h : vmmVmExitHandler m reason s₀ = some s') :
    ExitEffect m (captureGuestContext s₀) s' reason := by
  unfold vmmVmExitHandler vmmpHandleVmExit at h
  cases reason with
  | monitorTrapFlag =>
    unfold vmmpHandleMonitorTrap at h
    cases hfault : (captureGuestContext s₀).lastFaultEntry with
    | none =>
      simp only [hfault] at h
      cases h
    | some ptr =>
      simp only [hfault] at h
      cases h
      exact .closed hfault rfl rfl (monitorTrapFlag_dmSetMonitorTrapFlag _ _)
  | eptViolation =>
    cases h
    exact violation_effect m _
  | vmcall =>
    cases h
    exact vmcall_effect m _

/-- Capturing the context changes nothing the processor looks at. -/
theorem ExitRaised.capture (h : ExitRaised reason s) : ExitRaised reason (captureGuestContext s) :=
  match reason, h with
  | .monitorTrapFlag, h => h
  | .eptViolation, h => ⟨h.denied, h.readable, h.writeable, h.executable, h.length⟩
  | .vmcall, h => h

/-! ## The invariant -/

/-- What holds between exits : the tables are ready and identity mapped, and the monitor trap
flag is set exactly while `LastFaultEntry` is the slot of a page with a leaf. -/
structure VmmInv (s : VmmState B C) : Prop where
  ready : EptReady s.ept
  identity : ∀ p, (s.ept.leaf p).IsIdentity p
  fault : ∀ {ptr}, s.lastFaultEntry = some ptr →
    ∃ p, eptGetEptPtEntry s.ept (pageAddr p) = some ptr ∧ (s.ept.leaf p).all ≠ 0
  flag : s.monitorTrapFlag = s.lastFaultEntry.isSome

/-- A step of the tables that leaves the single step alone. -/
theorem VmmInv.of_step (hi : VmmInv s) (hstep : EptStep s.ept s'.ept)
    (hfault : s'.lastFaultEntry = s.lastFaultEntry)
    (hflag : s'.monitorTrapFlag = s.monitorTrapFlag) : VmmInv s' := by
  refine ⟨hstep.ready, fun p => hstep.identity p (hi.identity p), fun hptr => ?_, ?_⟩
  · rw [hfault] at hptr
    obtain ⟨p, hslot, hne⟩ := hi.fault hptr
    exact ⟨p, hstep.slot hslot, hstep.present p hne⟩
  · rw [hflag, hfault]
    exact hi.flag

theorem GuestRuns.monitorTrapFlag (h : GuestRuns s s') :
    s'.monitorTrapFlag = s.monitorTrapFlag := by
  rw [VmmState.monitorTrapFlag, h.controls]
  rfl

theorem VmmInv.of_guestRuns (hi : VmmInv s) (h : GuestRuns s s') : VmmInv s' :=
  hi.of_step (by rw [h.ept]; exact .refl hi.ready) h.lastFaultEntry h.monitorTrapFlag

theorem guestRuns_capture (s : VmmState B C) : GuestRuns s (captureGuestContext s) :=
  ⟨rfl, rfl, rfl⟩

/-- What closing and opening an entry have in common. -/
theorem trap_keeps_frame (e : EptCommonEntry) : e.trap.physialAddress = e.physialAddress ∧
    e.trap.executeAccess = true ∧ e.trap.readAccess = e.trap.writeAccess :=
  ⟨rfl, rfl, rfl⟩

theorem pass_keeps_frame (e : EptCommonEntry) : e.pass.physialAddress = e.physialAddress ∧
    e.pass.executeAccess = true ∧ e.pass.readAccess = e.pass.writeAccess :=
  ⟨rfl, rfl, rfl⟩

/-- The MTF handler closes one page. -/
theorem closed_step {ptr : EntryPtr} (hi : VmmInv s) (hfault : s.lastFaultEntry = some ptr) :
    ∃ p, eptGetEptPtEntry s.ept (pageAddr p) = some ptr ∧ EptStep s.ept (s.ept.modify ptr .trap) ∧
      ∀ q, (s.ept.modify ptr .trap).leaf q =
        if q = p then (s.ept.leaf q).trap else s.ept.leaf q := by
  obtain ⟨p, hslot, hne⟩ := hi.fault hfault
  have hread := hi.ready.read_slot hslot
  rw [pageOf_pageAddr] at hread
  obtain ⟨hstep, hleaf⟩ := modify_step hi.ready hslot (by rw [hread]; exact hne) trap_keeps_frame
  rw [pageOf_pageAddr] at hleaf
  exact ⟨p, hslot, hstep, hleaf⟩

/-- Opening for a single step opens the page of the fault. -/
theorem opened_step {ptr : EntryPtr} (hi : VmmInv s) (hentry : mmioEntry s = some ptr) :
    eptGetEptPtEntry s.ept (pageAddr (pageOf s.faultAddress)) = some ptr ∧
      EptStep s.ept (s.ept.modify ptr .pass) ∧
      ∀ q, (s.ept.modify ptr .pass).leaf q =
        if q = pageOf s.faultAddress then (s.ept.leaf q).pass else s.ept.leaf q := by
  obtain ⟨-, hslot, hne⟩ := mmioEntry_eq_some.1 hentry
  obtain ⟨hstep, hleaf⟩ := modify_step hi.ready hslot hne pass_keeps_frame
  exact ⟨(hi.ready.slot_congr (pageOf_pageAddr _)).trans hslot, hstep, hleaf⟩

/-- Every exit keeps the invariant. -/
theorem VmmInv.exit (hi : VmmInv s) (h : ExitEffect m s s' reason) : VmmInv s' := by
  cases h with
  | closed hfault hept hnone hflag =>
    obtain ⟨p, -, hstep, -⟩ := closed_step hi hfault
    rw [← hept] at hstep
    exact ⟨hstep.ready, fun p => hstep.identity p (hi.identity p), by rw [hnone]; simp,
      by rw [hflag, hnone]; rfl⟩
  | opened hentry hret hept hfault hflag =>
    obtain ⟨hslot, hstep, hleaf⟩ := opened_step hi hentry
    rw [← hept] at hstep hleaf
    refine ⟨hstep.ready, fun p => hstep.identity p (hi.identity p), fun hptr => ?_,
      by rw [hflag, hfault]; rfl⟩
    rw [hfault] at hptr
    obtain rfl := Option.some.inj hptr
    refine ⟨_, hstep.slot hslot, ?_⟩
    rw [hleaf, if_pos rfl]
    exact EptCommonEntry.pass_all_ne_zero _
  | skipped hentry hret hguest hrip => exact hi.of_guestRuns hguest
  | unmonitored hentry hstate =>
    subst hstate
    obtain ⟨hstep, -⟩ := violation_step m.pool m.mtrr s.qualification hi.ready s.faultAddress
    exact hi.of_step hstep rfl rfl
  | enabled ranges hnumber hept hfault hflag =>
    exact hi.of_step (by rw [hept]; exact enable_step m.pool m.mtrr hi.ready ranges) hfault hflag
  | disabled ranges hnumber hept hfault hflag =>
    exact hi.of_step (by rw [hept]; exact disable_step hi.ready ranges) hfault hflag
  | other hguest => exact hi.of_guestRuns hguest

/-- Right after a successful start. -/
theorem VmmInv.launch {runs : List PhysicalMemoryRun} {apicBase : BitVec 64} {h : Heap}
    (hstart : eptInitialization m.pool m.mtrr runs apicBase h = (some s.ept.data, s.ept.heap))
    (hfault : s.lastFaultEntry = none) (hflag : s.monitorTrapFlag = false) : VmmInv s := by
  obtain ⟨hready, hfresh⟩ := eptInitialization_spec m.pool m.mtrr hstart
  refine ⟨hready, fun p => ?_, by rw [hfault]; simp, by rw [hflag, hfault]; rfl⟩
  rcases hfresh p with hz | ⟨old, pa, rfl, he⟩
  · rw [show s.ept.leaf p = .zero from hz]
    exact isIdentity_zero
  · rw [show s.ept.leaf (pageOf pa) = _ from he]
    exact fun _ => ⟨init_physialAddress m.mtrr old 1 pa, rfl, rfl⟩

theorem Reachable.inv (h : Reachable m s) : VmmInv s := by
  induction h with
  | launch start noFault noFlag => exact .launch start noFault noFlag
  | exit reached step ih =>
    exact ((ih.of_guestRuns step.guest).of_guestRuns (guestRuns_capture _)).exit
      (exit_effect step.handled)

/-! ## The leaf invariant of reachable states -/

/-- The leaf decides what the processor's walk allows. -/
theorem VmmInv.walkAllows_eq (hi : VmmInv s) (permission : EptCommonEntry → Bool)
    (hz : permission .zero = false) (ho : ∀ e, e.Open → permission e = true) :
    s.walkAllows permission = permission s.faultLeaf :=
  hi.ready.allows_eq hz ho s.faultAddress

/-- A violation on a present leaf is a read or a write. -/
theorem VmmInv.read_or_write (hi : VmmInv s) (hraised : EptViolationRaised s)
    (hne : s.faultLeaf.all ≠ 0) :
    s.qualification.readAccess = true ∨ s.qualification.writeAccess = true := by
  rcases hraised.denied with ⟨hr, -⟩ | ⟨hw, -⟩ | ⟨-, hx⟩
  · exact Or.inl hr
  · exact Or.inr hw
  · rw [hi.walkAllows_eq (·.executeAccess) rfl fun e he => he.2.2] at hx
    have hexec : s.faultLeaf.executeAccess = true := (hi.identity _ hne).2.1
    rw [hexec] at hx
    cases hx

theorem mmioAccess_of_read_or_write {q : EptViolationQualification}
    (h : q.readAccess = true ∨ q.writeAccess = true) : mmioAccess q = 1 ∨ mmioAccess q = 2 := by
  unfold mmioAccess
  split_ifs with hr hw
  · exact Or.inl rfl
  · exact Or.inr rfl
  · exact (h.elim hr hw).elim

/-- In every reachable state each present leaf maps its own page, is executable and allows
reads exactly when it allows writes. So a violation that reaches the callbacks is never a
pure fetch, and they see access 1 or 2. -/
theorem reachable_leaf_identity (h : Reachable m s) :
    (∀ p, (s.ept.leaf p).all ≠ 0 → (s.ept.leaf p).physialAddress = p ∧
      (s.ept.leaf p).executeAccess = true ∧
      (s.ept.leaf p).readAccess = (s.ept.leaf p).writeAccess) ∧
    ∀ s₀ : VmmState B C, GuestRuns s s₀ → EptViolationRaised s₀ →
      ∀ ptr, mmioEntry (captureGuestContext s₀) = some ptr →
        (s₀.qualification.readAccess = true ∨ s₀.qualification.writeAccess = true) ∧
        (mmioAccess s₀.qualification = 1 ∨ mmioAccess s₀.qualification = 2) := by
  refine ⟨h.inv.identity, fun s₀ hguest hraised ptr hentry => ?_⟩
  have hi := h.inv.of_guestRuns hguest
  obtain ⟨-, hslot, hne⟩ := mmioEntry_eq_some.1 hentry
  have hread : s₀.ept.read ptr = s₀.faultLeaf := hi.ready.read_slot hslot
  have hrw := hi.read_or_write hraised (by rw [← hread]; exact hne)
  exact ⟨hrw, mmioAccess_of_read_or_write hrw⟩

end Runs

/-! ## Violations on a trapped page -/

section Trapped

variable {B C : Type} {m : Machine B} {s s' : VmmState B C} {address : BitVec 64}

/-- The state `s` at an EPT violation, with an instruction of three bytes. -/
def atViolation (q : EptViolationQualification) (address : BitVec 64) (s : VmmState B C) :
    VmmState B C :=
  { s with vmcs := fun field => match field with
      | .exitQualification => q.all
      | .guestPhysicalAddress => address
      | .vmExitInstructionLen => 3
      | field => s.vmcs field }

/-- The state after handling it. -/
def afterViolation (m : Machine B) (q : EptViolationQualification) (address : BitVec 64)
    (s : VmmState B C) : VmmState B C :=
  vmmpHandleEptViolation m (captureGuestContext (atViolation q address s))

/-- What the processor reports for a read of a trapped page. -/
def readFault : EptViolationQualification :=
  ⟨0x21⟩

/-- What it reports for a write. -/
def writeFault : EptViolationQualification :=
  ⟨0x22⟩

/-- A read and a write of a trapped page are violations. -/
theorem VmmInv.raised (hi : VmmInv s) (htrap : (s.ept.leaf (pageOf address)).Trapped)
    {q : EptViolationQualification} (hq : q = readFault ∨ q = writeFault) :
    EptViolationRaised (atViolation q address s) := by
  have hi' : VmmInv (atViolation q address s) := hi.of_guestRuns ⟨rfl, rfl, rfl⟩
  obtain ⟨-, hread, hwrite, hexec⟩ := htrap
  have hr := hi'.walkAllows_eq (·.readAccess) rfl fun e he => he.1
  have hw := hi'.walkAllows_eq (·.writeAccess) rfl fun e he => he.2.1
  have hx := hi'.walkAllows_eq (·.executeAccess) rfl fun e he => he.2.2
  have hlen : 1 ≤ (3#64).toNat ∧ (3#64).toNat ≤ 15 := by decide
  have hbits : q.eptReadable = false ∧ q.eptWriteable = false ∧ q.eptExecutable = true := by
    rcases hq with rfl | rfl <;> decide
  obtain ⟨h3, h4, h5⟩ := hbits
  refine ⟨?_, h3.trans (hr.trans hread).symm, h4.trans (hw.trans hwrite).symm,
    h5.trans (hx.trans hexec).symm, hlen⟩
  rcases hq with rfl | rfl
  · have hacc : readFault.readAccess = true := by decide
    exact Or.inl ⟨hacc, hr.trans hread⟩
  · have hacc : writeFault.writeAccess = true := by decide
    exact Or.inr (Or.inl ⟨hacc, hw.trans hwrite⟩)

theorem VmmInv.exitStep (hi : VmmInv s) (hrun : s.vmContinue = true)
    (htrap : (s.ept.leaf (pageOf address)).Trapped) {q : EptViolationQualification}
    (hq : q = readFault ∨ q = writeFault) :
    ExitStep m .eptViolation s (atViolation q address s) (afterViolation m q address s) :=
  ⟨hrun, ⟨rfl, rfl, rfl⟩, hi.raised htrap hq, rfl⟩

/-- The state after an MTF exit. -/
def afterMonitorTrap (m : Machine B) (s : VmmState B C) : VmmState B C :=
  (vmmVmExitHandler m .monitorTrapFlag s).getD s

/-- While the flag is set `LastFaultEntry` is not null, so the MTF handler returns. -/
theorem VmmInv.monitorTrap_step (hi : VmmInv s) (hrun : s.vmContinue = true)
    (hflag : s.monitorTrapFlag = true) :
    ExitStep m .monitorTrapFlag s s (afterMonitorTrap m s) := by
  refine ⟨hrun, ⟨rfl, rfl, rfl⟩, hflag, ?_⟩
  have hsome := hi.flag
  rw [hflag] at hsome
  obtain ⟨ptr, hptr⟩ := Option.isSome_iff_exists.1 hsome.symm
  have hptr' : (captureGuestContext s).lastFaultEntry = some ptr := hptr
  simp only [afterMonitorTrap, vmmVmExitHandler, vmmpHandleVmExit, vmmpHandleMonitorTrap, hptr',
    Option.getD_some]

theorem flag_after_monitorTrap {s₀ : VmmState B C}
    (hstep : ExitStep m .monitorTrapFlag s s₀ s') : s'.monitorTrapFlag = false := by
  cases exit_effect hstep.handled with
  | closed hfault hept hnone hflag => exact hflag

end Trapped

/-! ## A run -/

/-- The machine of `spiMachine` after the enabling hypercall of `userState`. -/
theorem reachable_enabled (mask : BitVec 32) :
    Reachable (spiMachine mask) (userCall mask 3 bootEpt) := by
  have hlaunch : Reachable (spiMachine mask) (userState 3 bootEpt) := .launch boot_eq rfl rfl
  have hstep : ExitStep (spiMachine mask) .vmcall (userState 3 bootEpt) (userState 3 bootEpt)
      (userCall mask 3 bootEpt) := ⟨rfl, ⟨rfl, rfl, rfl⟩, trivial, rfl⟩
  exact hlaunch.exit hstep

theorem reachable_leaf_identity_enabled :
    (∀ p, (trappedEpt.leaf p).all ≠ 0 → (trappedEpt.leaf p).physialAddress = p ∧
      (trappedEpt.leaf p).executeAccess = true ∧
      (trappedEpt.leaf p).readAccess = (trappedEpt.leaf p).writeAccess) ∧
    ∀ s₀ : VmmState (BitVec 32) Unit, GuestRuns (userCall 0xFFFFF000 3 bootEpt) s₀ →
      EptViolationRaised s₀ → ∀ ptr, mmioEntry (captureGuestContext s₀) = some ptr →
        (s₀.qualification.readAccess = true ∨ s₀.qualification.writeAccess = true) ∧
        (mmioAccess s₀.qualification = 1 ∨ mmioAccess s₀.qualification = 2) :=
  reachable_leaf_identity (reachable_enabled 0xFFFFF000)

end DeviceMon
