import DeviceMon.ExitDiscipline

/-!
# Exits of the processor and exits of the monitor

`VmmState` has the exits that concern the monitor. `exit_refines` says what a handler on
`ExitState` does to `VmmState` : at an EPT violation, a monitor trap or a VMCALL what the handler
there does, and at any other exit no more than a run of the guest. So the runs of all exits
(`Exits`) project to the runs of those (`Exits.refines`), and what holds in every state these
reach holds with all exits handled.
-/

namespace DeviceMon

/-- The exits of the monitor among all reasons. -/
def VmExitReason.toVmx : VmExitReason → VmxExitReason
  | .monitorTrapFlag => .monitorTrapFlag
  | .eptViolation => .eptViolation
  | .vmcall => .vmcall

namespace ExitState

variable {B C : Type} {m : ExitMachine B} {s s' s₀ : ExitState B C}

/-! ## The handlers of the monitor -/

theorem monitorTrap_toVmmState (s : ExitState B C) :
    (vmmpHandleMonitorTrap s).map toVmmState =
      DeviceMon.vmmpHandleMonitorTrap s.toVmmState := by
  unfold vmmpHandleMonitorTrap DeviceMon.vmmpHandleMonitorTrap
  cases s.lastFaultEntry <;> rfl

theorem eptViolation_toVmmState (m : ExitMachine B) (s : ExitState B C) :
    (vmmpHandleEptViolation m s).toVmmState =
      DeviceMon.vmmpHandleEptViolation m.toMachine s.toVmmState := by
  unfold vmmpHandleEptViolation DeviceMon.vmmpHandleEptViolation vmmpHandleMmio
    DeviceMon.vmmpHandleMmio
  cases mmioEntry s.toVmmState with
  | none => rfl
  | some entry =>
    cases hret : (mmioCallback s.toVmmState).ret with
    | false =>
      simp only [hret, Bool.not_false, if_true]
      rfl
    | true =>
      simp only [hret, Bool.not_true, Bool.false_eq_true, if_false]
      exact adjust_toVmmState _

theorem successful_toVmmState (s : ExitState B C) :
    (vmmpIndicateSuccessfulVmcall s).toVmmState =
      DeviceMon.vmmpIndicateSuccessfulVmcall s.toVmmState :=
  adjust_toVmmState _

theorem unsuccessful_toVmmState (s : ExitState B C) :
    (vmmpIndicateUnsuccessfulVmcall s).toVmmState =
      DeviceMon.vmmpIndicateUnsuccessfulVmcall s.toVmmState :=
  rfl

theorem vmcall_toVmmState (m : ExitMachine B) (s : ExitState B C) :
    (vmmpHandleVmCall m s).toVmmState =
      DeviceMon.vmmpHandleVmCall m.toMachine s.toVmmState := by
  unfold vmmpHandleVmCall DeviceMon.vmmpHandleVmCall
  simp only
  cases HypercallNumber.ofValue (s.gpRegs.cx.setWidth 32) with
  | none => exact unsuccessful_toVmmState s
  | some number =>
    cases number with
    | terminateVmm =>
      simp only
      split_ifs
      · rfl
      · exact unsuccessful_toVmmState s
    | pingVmm => exact successful_toVmmState _
    | getSharedProcessorData => exact successful_toVmmState _
    | enableVmmDeviceMonitor => exact successful_toVmmState _
    | disableVmmDeviceMonitor => exact successful_toVmmState _

/-! ## All other handlers -/

theorem InstructionEnd.guestRuns (h : InstructionEnd s s') :
    GuestRuns s.toVmmState s'.toVmmState ∧ s'.vmContinue = s.vmContinue := by
  cases h with
  | @advance s₁ eq work =>
    subst eq
    refine ⟨guestRuns_trans work.guest ?_, (adjust_spec s₁).2.2.2.trans work.vmContinue⟩
    rw [adjust_toVmmState]
    exact (onlyVmcs_adjust _).guestRuns
  | @fault s₁ type vector b code work rest =>
    refine ⟨guestRuns_trans work.guest (guestRuns_trans ?_ rest.guest),
      (rest.vmContinue.trans (inject_spec type vector b code s₁).2.2.2).trans work.vmContinue⟩
    rw [inject_toVmmState]
    exact (onlyVmcs_inject _ _ _ _ _).guestRuns

/-- What one handler does to `VmmState`. -/
theorem handler_refines (h : vmmpHandleVmExit m s = some s') :
    (∃ reason : VmExitReason, s.exitReason = some reason.toVmx ∧
      DeviceMon.vmmpHandleVmExit m.toMachine reason s.toVmmState = some s'.toVmmState) ∨
    (GuestRuns s.toVmmState s'.toVmmState ∧ s'.vmContinue = s.vmContinue) := by
  cases handlerCase_of_exit h with
  | monitorTrap reason handled =>
    refine Or.inl ⟨.monitorTrapFlag, reason, ?_⟩
    exact (monitorTrap_toVmmState s).symm.trans (congrArg (Option.map toVmmState) handled)
  | eptViolation reason eq =>
    subst eq
    exact Or.inl ⟨.eptViolation, reason, congrArg some (eptViolation_toVmmState m s).symm⟩
  | vmcall reason eq =>
    subst eq
    exact Or.inl ⟨.vmcall, reason, congrArg some (vmcall_toVmmState m s).symm⟩
  | instruction other ends => exact Or.inr ends.guestRuns

/-- What one exit does to `VmmState`. -/
theorem exit_refines (h : vmmVmExitHandler m s = some s') :
    (∃ reason : VmExitReason, s.exitReason = some reason.toVmx ∧
      DeviceMon.vmmVmExitHandler m.toMachine reason s.toVmmState = some s'.toVmmState) ∨
    (GuestRuns s.toVmmState s'.toVmmState ∧ s'.vmContinue = true) := by
  obtain ⟨s₁, hexit, rfl⟩ := Option.map_eq_some_iff.1 h
  rcases handler_refines hexit with ⟨reason, hreason, hupper⟩ | ⟨hkeep, hcontinue⟩
  · exact Or.inl ⟨reason, hreason, hupper⟩
  · exact Or.inr ⟨⟨hkeep.ept, hkeep.lastFaultEntry, hkeep.controls⟩, hcontinue⟩

/-! ## Runs -/

/-- The states reached from a successful start, with every exit handled. -/
inductive Exits (m : ExitMachine B) : ExitState B C → Prop where
  | launch {s : ExitState B C} {runs : List PhysicalMemoryRun} {apicBase : BitVec 64} {h : Heap}
      (start : eptInitialization m.pool m.mtrr runs apicBase h = (some s.ept.data, s.ept.heap))
      (noFault : s.lastFaultEntry = none) (noFlag : s.toVmmState.monitorTrapFlag = false) :
      Exits m s
  | exit {s s₀ s' : ExitState B C} (reached : Exits m s) (running : s.vmContinue = true)
      (guest : GuestRuns s.toVmmState s₀.toVmmState)
      (raised : ∀ reason : VmExitReason, s₀.exitReason = some reason.toVmx →
        ExitRaised reason s₀.toVmmState)
      (handled : vmmVmExitHandler m s₀ = some s') : Exits m s'

/-- Every run is a run of the exits of the monitor, with the other exits in the guest's runs. -/
theorem Exits.refines (h : Exits m s) : ∃ v : VmmState B C, Reachable m.toMachine v ∧
    v.vmContinue = s.vmContinue ∧ GuestRuns v s.toVmmState := by
  induction h with
  | @launch s runs apicBase h start noFault noFlag =>
    exact ⟨s.toVmmState, .launch start noFault noFlag, rfl, ⟨rfl, rfl, rfl⟩⟩
  | @exit s s₀ s' _ running guest raised handled ih =>
    obtain ⟨v, hreached, hcontinue, hguest⟩ := ih
    have hrun := guestRuns_trans hguest guest
    rcases exit_refines handled with ⟨reason, hreason, hupper⟩ | ⟨hkeep, hrunning⟩
    · have hstep : ExitStep m.toMachine reason v s₀.toVmmState s'.toVmmState :=
        ⟨hcontinue.trans running, hrun, raised reason hreason, hupper⟩
      exact ⟨s'.toVmmState, .exit hreached hstep, rfl, ⟨rfl, rfl, rfl⟩⟩
    · exact ⟨v, hreached, (hcontinue.trans running).trans hrunning.symm,
        guestRuns_trans hrun hkeep⟩

end ExitState

end DeviceMon
