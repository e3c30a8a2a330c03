import DeviceMon.ProcessorControls

/-!
# The entry to close

`VmmpHandleMonitorTrap` writes to the entry `LastFaultEntry` points to, and only asserts that there
is one. `MonitorRun` is a run of one processor with all its exits, from the setup of its VMCS on.
Of these only an MTF exit needs anything : the flag is set when it is raised. Through the whole run
the flag is set exactly while there is an entry, and it is a present leaf of the processor's own
tables (`monitorTrap_has_entry`).
-/

namespace DeviceMon

section Entry

variable {B C : Type} {s : VmmState B C} {ptr : EntryPtr}

/-- `ptr` is a leaf entry of the processor's tables, and not zero. -/
def PresentLeaf (s : VmmState B C) (ptr : EntryPtr) : Prop :=
  (∃ pa, eptGetEptPtEntry s.ept pa = some ptr) ∧ (s.ept.read ptr).all ≠ 0

theorem VmmInv.presentLeaf (hi : VmmInv s) (hptr : s.lastFaultEntry = some ptr) :
    PresentLeaf s ptr := by
  obtain ⟨p, hslot, hne⟩ := hi.fault hptr
  have hread := hi.ready.read_slot hslot
  rw [pageOf_pageAddr] at hread
  exact ⟨⟨_, hslot⟩, by rw [hread]; exact hne⟩

theorem VmmInv.flag_iff (hi : VmmInv s) :
    s.monitorTrapFlag = true ↔ s.lastFaultEntry ≠ none := by
  rw [hi.flag, Option.isSome_iff_ne_none]

end Entry

/-! ## Runs -/

section Runs

variable {B C : Type} {m : ExitMachine B} {cpu : SetupCpu} {s s₀ s' : ExitState B C}

/-- The monitor trap flag in a VMCS. -/
def trapFlagOf (vmcs : VmcsField → BitVec 64) : Bool :=
  VmxProcessorBasedControls.monitorTrapFlag ((vmcs .cpuBasedVmExecControl).setWidth 32)

/-- The states of one processor from its setup on, with every exit handled. -/
inductive MonitorRun (m : ExitMachine B) (cpu : SetupCpu) : ExitState B C → Prop where
  | launch {s : ExitState B C} {runs : List PhysicalMemoryRun} {apicBase : BitVec 64} {h : Heap}
      {guestStackPointer guestInstructionPointer vmmStackPointer : BitVec 64}
      {outcome : ℕ → VmxStatus} {vmcs : VmcsField → BitVec 64}
      (start : eptInitialization m.pool m.mtrr runs apicBase h = (some s.ept.data, s.ept.heap))
      (noFault : s.lastFaultEntry = none) (cleared : trapFlagOf vmcs = false)
      (setup : s.vmcs .cpuBasedVmExecControl = (vmpSetupVmcs cpu guestStackPointer
        guestInstructionPointer vmmStackPointer outcome vmcs).2 .cpuBasedVmExecControl) :
      MonitorRun m cpu s
  | exit {s s₀ s' : ExitState B C} (run : MonitorRun m cpu s) (running : s.vmContinue = true)
      (guest : GuestRuns s.toVmmState s₀.toVmmState)
      (raised : s₀.exitReason = some .monitorTrapFlag → s₀.toVmmState.monitorTrapFlag = true)
      (handled : ExitState.vmmVmExitHandler m s₀ = some s') : MonitorRun m cpu s'

/-- The setup does not ask for the flag, so it is set only if it must be. -/
theorem monitorTrapFlag_vmProcctl : VmxProcessorBasedControls.monitorTrapFlag (vmProcctl cpu) =
    trapFlagFixed (cpu.msr (procctlMsr cpu)) := by
  have hrequested : vmProcctlRequested[27] = false := by decide
  simp [VmxProcessorBasedControls.monitorTrapFlag, trapFlagFixed, vmProcctl,
    vmpAdjustControlValue, hrequested]

/-- After the setup of a VMCS without the flag it is clear, unless the register forces it. -/
theorem trapFlagOf_setup {guestStackPointer guestInstructionPointer vmmStackPointer : BitVec 64}
    {outcome : ℕ → VmxStatus} {vmcs : VmcsField → BitVec 64}
    (hfree : trapFlagFixed (cpu.msr (procctlMsr cpu)) = false)
    (hcleared : trapFlagOf vmcs = false) :
    trapFlagOf (vmpSetupVmcs cpu guestStackPointer guestInstructionPointer vmmStackPointer outcome
      vmcs).2 = false := by
  rw [trapFlagOf, vmpSetupVmcs_cpuBasedVmExecControl]
  split_ifs
  · rw [BitVec.setWidth_setWidth_of_le _ (by decide), BitVec.setWidth_eq,
      monitorTrapFlag_vmProcctl, hfree]
  · exact hcleared

/-- Every state of a run satisfies the invariant. -/
theorem MonitorRun.inv (hfree : trapFlagFixed (cpu.msr (procctlMsr cpu)) = false)
    (run : MonitorRun m cpu s) : VmmInv s.toVmmState := by
  induction run with
  | launch start noFault cleared setup =>
    refine .launch (m := m.toMachine) start noFault ?_
    exact (congrArg _ (congrArg (BitVec.setWidth 32) setup)).trans (trapFlagOf_setup hfree cleared)
  | exit run running guest raised handled ih =>
    have hi := ih.of_guestRuns guest
    rcases ExitState.exit_refines handled with ⟨reason, -, hupper⟩ | ⟨hkeep, -⟩
    · exact (hi.of_guestRuns (guestRuns_capture _)).exit (exit_effect hupper)
    · exact hi.of_guestRuns hkeep

/-- An MTF exit with an entry to close is handled. -/
theorem monitorTrap_handled {ptr : EntryPtr} (hreason : s.exitReason = some .monitorTrapFlag)
    (hptr : s.lastFaultEntry = some ptr) : ∃ s', ExitState.vmmVmExitHandler m s = some s' := by
  have hcapture : s.captureGuestContext.exitReason = some .monitorTrapFlag := hreason
  have hfault : s.captureGuestContext.lastFaultEntry = some ptr := hptr
  rw [ExitState.vmmVmExitHandler, ExitState.vmmpHandleVmExit, hcapture]
  simp only [ExitState.vmmpHandleMonitorTrap, hfault]
  exact ⟨_, rfl⟩

/-- **The monitor trap always has an entry to close.** -/
theorem monitorTrap_has_entry (m : ExitMachine B) (cpu : SetupCpu)
    (hfree : trapFlagFixed (cpu.msr (procctlMsr cpu)) = false) {s : ExitState B C}
    (run : MonitorRun m cpu s) :
    (s.toVmmState.monitorTrapFlag = true ↔ s.lastFaultEntry ≠ none) ∧
      (∀ ptr, s.lastFaultEntry = some ptr → PresentLeaf s.toVmmState ptr) ∧
      ∀ s₀ : ExitState B C, GuestRuns s.toVmmState s₀.toVmmState →
        s₀.exitReason = some .monitorTrapFlag → s₀.toVmmState.monitorTrapFlag = true →
          ∃ ptr s', s₀.lastFaultEntry = some ptr ∧ PresentLeaf s₀.toVmmState ptr ∧
            ExitState.vmmVmExitHandler m s₀ = some s' := by
  have hi := run.inv hfree
  refine ⟨hi.flag_iff, fun ptr => hi.presentLeaf, fun s₀ hguest hreason hflag => ?_⟩
  have hi₀ := hi.of_guestRuns hguest
  obtain ⟨ptr, hptr⟩ := Option.ne_none_iff_exists'.1 (hi₀.flag_iff.1 hflag)
  obtain ⟨s', hhandled⟩ := monitorTrap_handled (m := m) hreason hptr
  exact ⟨ptr, s', hptr, hi₀.presentLeaf hptr, hhandled⟩

end Runs

/-! ## A read of a BAR -/

/-- The guest makes the hypercall that enables the monitor. -/
def enableCall : ExitState (BitVec 32) Unit where
  toVmmState := { userState 3 bootEpt with
    vmcs := fun
      | .vmExitReason => 18
      | .guestSsArBytes => 0x60
      | .cpuBasedVmExecControl => (vmProcctl trapFlagCpu).setWidth 64
      | _ => 0 }
  cr8 := 0
  irql := 0
  cpu := ⟨fun _ => 0, 0, 0, 0, fun _ => 0, fun _ => 0⟩
  trace := []

/-- The state after an exit. -/
def afterExit (s : ExitState (BitVec 32) Unit) : ExitState (BitVec 32) Unit :=
  (ExitState.vmmVmExitHandler idleMachine s).getD s

/-- It reads the BAR then. -/
def enabledRead : ExitState (BitVec 32) Unit :=
  let s := afterExit enableCall
  { s with vmcs := fun
      | .vmExitReason => 48
      | .exitQualification => readFault.all
      | .guestPhysicalAddress => 0xFED00000
      | .vmExitInstructionLen => 3
      | field => s.vmcs field }

/-- The instruction is executed. -/
def enabledTrap : ExitState (BitVec 32) Unit :=
  let s := afterExit enabledRead
  { s with vmcs := fun
      | .vmExitReason => 37
      | field => s.vmcs field }

theorem enabledRead_run : MonitorRun idleMachine trapFlagCpu (afterExit enabledRead) := by
  have hsetup : enableCall.vmcs .cpuBasedVmExecControl =
      (vmpSetupVmcs trapFlagCpu 0 0 0 (fun _ => .ok) fun _ => 0).2 .cpuBasedVmExecControl :=
    (vmpSetupVmcs_cpuBasedVmExecControl.trans (if_pos rfl)).symm
  have hlaunch : MonitorRun idleMachine trapFlagCpu enableCall := by
    refine .launch boot_eq rfl ?_ hsetup
    decide
  have hcall : ExitState.vmmVmExitHandler idleMachine enableCall = some (afterExit enableCall) :=
    rfl
  have hread : ExitState.vmmVmExitHandler idleMachine enabledRead =
      some (afterExit enabledRead) := rfl
  have henabled := hlaunch.exit rfl ⟨rfl, rfl, rfl⟩ (fun h => by cases h) hcall
  have hrunning : (afterExit enableCall).vmContinue = true := by decide +kernel
  have hguest : GuestRuns (afterExit enableCall).toVmmState enabledRead.toVmmState :=
    ⟨rfl, rfl, rfl⟩
  exact henabled.exit hrunning hguest (fun h => by cases h) hread

theorem monitorTrap_has_entry_read :
    ∃ ptr s', enabledTrap.lastFaultEntry = some ptr ∧ PresentLeaf enabledTrap.toVmmState ptr ∧
      ExitState.vmmVmExitHandler idleMachine enabledTrap = some s' := by
  have hfree : trapFlagFixed (trapFlagCpu.msr (procctlMsr trapFlagCpu)) = false := by
    rw [trapFlagCpu, capability_controlsCpu]
    decide
  obtain ⟨-, -, hhandled⟩ := monitorTrap_has_entry idleMachine trapFlagCpu hfree enabledRead_run
  exact hhandled enabledTrap ⟨rfl, rfl, rfl⟩ rfl (by decide +kernel)

end DeviceMon
