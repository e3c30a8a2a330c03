import DeviceMon.ExitRefinement
import DeviceMon.SingleStep
import DeviceMon.VmcsSetup

/-!
# The processor-based controls

A capability register says which values a control field may have : the bits of its low half are
one, and only bits of its high half are (`Allowed`). `VmpSetupVmcs` adjusts what it writes
(`vmpAdjustControlValue_allowed`). `DmSetMonitorTrapFlag` sets or clears the monitor trap flag in
the field as it is, without a look at the register.

`ControlRun` is a run of one processor from the setup on, with the values written to the field and
the exits so far. All of them are allowed exactly if the register leaves the flag free wherever an
exit changes it (`controls_allowed_iff`). A processor without the monitor trap flag cannot
be entered once a page is opened for a single step.
-/

namespace DeviceMon

/-! ## Capability registers -/

/-- The bits of the low half of the register are set, and no others than those of its high
half. -/
def Allowed (capability : BitVec 64) (value : BitVec 32) : Prop :=
  ∀ i < 32, (capability.getLsbD i = true → value.getLsbD i = true) ∧
    (value.getLsbD i = true → capability.getLsbD (32 + i) = true)

/-- A bit that must be one may be one. -/
def WellFormedCapability (capability : BitVec 64) : Prop :=
  ∀ i < 32, capability.getLsbD i = true → capability.getLsbD (32 + i) = true

/-- What the setup writes is allowed. -/
theorem vmpAdjustControlValue_allowed {cpu : SetupCpu} {msr : BitVec 32}
    (h : WellFormedCapability (cpu.msr msr)) (requestedValue : BitVec 32) :
    Allowed (cpu.msr msr) (vmpAdjustControlValue cpu msr requestedValue) := by
  intro i hi
  simp only [vmpAdjustControlValue, BitVec.getLsbD_or, BitVec.getLsbD_and,
    BitVec.getLsbD_extractLsb', hi, decide_true, Bool.true_and, Nat.zero_add, Bool.or_eq_true,
    Bool.and_eq_true]
  refine ⟨Or.inr, ?_⟩
  rintro (⟨-, hhigh⟩ | hlow)
  · exact hhigh
  · exact h i hi hlow

/-- The flag that must be one. -/
def trapFlagFixed (capability : BitVec 64) : Bool :=
  VmxProcessorBasedControls.monitorTrapFlag (capability.extractLsb' 0 32)

/-- The flag that may be one. -/
def trapFlagAllowed (capability : BitVec 64) : Bool :=
  VmxProcessorBasedControls.monitorTrapFlag (capability.extractLsb' 32 32)

theorem getLsbD_setMonitorTrapFlag (value : BitVec 32) (enable : Bool) {i : ℕ} (hi : i < 32) :
    (VmxProcessorBasedControls.setMonitorTrapFlag value enable).getLsbD i =
      if i = 27 then enable else value.getLsbD i := by
  have hbit : (1#32 <<< 27).getLsbD i = decide (27 = i) :=
    (BitVec.getLsbD_twoPow 27 i).trans (Bool.true_and _)
  have hflag : decide (27 = i) = decide (i = 27) := decide_eq_decide.2 eq_comm
  rw [hflag] at hbit
  cases enable with
  | true =>
    simp only [VmxProcessorBasedControls.setMonitorTrapFlag, if_true, BitVec.getLsbD_or, hbit]
    by_cases h : i = 27 <;> simp [h]
  | false =>
    simp only [VmxProcessorBasedControls.setMonitorTrapFlag, Bool.false_eq_true, if_false,
      BitVec.getLsbD_and, BitVec.getLsbD_not, hi, hbit]
    by_cases h : i = 27 <;> simp [h]

/-- A change of the flag keeps an allowed value allowed if the flag may have the new value. -/
theorem setMonitorTrapFlag_allowed {capability : BitVec 64} {value : BitVec 32}
    (h : Allowed capability value) (enable : Bool) :
    Allowed capability (VmxProcessorBasedControls.setMonitorTrapFlag value enable) ↔
      if enable then trapFlagAllowed capability = true else trapFlagFixed capability = false := by
  have hfixed : trapFlagFixed capability = capability.getLsbD 27 := by
    simp [trapFlagFixed, VmxProcessorBasedControls.monitorTrapFlag]
  have hallowed : trapFlagAllowed capability = capability.getLsbD 59 := by
    simp [trapFlagAllowed, VmxProcessorBasedControls.monitorTrapFlag]
  rw [hfixed, hallowed]
  constructor
  · intro hset
    obtain ⟨hlow, hhigh⟩ := hset 27 (by decide)
    rw [getLsbD_setMonitorTrapFlag _ _ (by decide), if_pos rfl] at hlow hhigh
    cases enable with
    | true => exact hhigh rfl
    | false => exact Bool.eq_false_iff.2 fun hbit => Bool.false_ne_true (hlow hbit)
  · intro hflag i hi
    rw [getLsbD_setMonitorTrapFlag _ _ hi]
    split_ifs with h27
    · subst h27
      cases enable with
      | true => exact ⟨fun _ => rfl, fun _ => hflag⟩
      | false =>
        exact ⟨fun hbit => absurd (hflag.symm.trans hbit) Bool.false_ne_true,
          fun hbit => absurd hbit Bool.false_ne_true⟩
    · exact h i hi

namespace ExitState

variable {B C : Type} {m : ExitMachine B} {s s' s'' : ExitState B C}

/-! ## What an exit writes -/

/-- The controls are not written. -/
structure KeepsControls (s s' : ExitState B C) : Prop where
  writes : s'.writes .cpuBasedVmExecControl = s.writes .cpuBasedVmExecControl
  field : s'.vmcs .cpuBasedVmExecControl = s.vmcs .cpuBasedVmExecControl

theorem KeepsControls.trans (h : KeepsControls s s') (h' : KeepsControls s' s'') :
    KeepsControls s s'' :=
  ⟨h'.writes.trans h.writes, h'.field.trans h.field⟩

theorem Instruction.keepsControls (h : Instruction s s') : KeepsControls s s' :=
  ⟨h.controlWrites, h.guest.controls⟩

theorem keepsControls_write {f : VmcsField} (hf : f ≠ .cpuBasedVmExecControl) (value : BitVec 64)
    (s : ExitState B C) : KeepsControls s (utilVmWrite f value s) :=
  ⟨writes_of_ne hf value s, Function.update_of_ne (Ne.symm hf) _ _⟩

theorem keepsControls_inject (type : InterruptionType) (vector : InterruptionVector) (b : Bool)
    (code : BitVec 32) (s : ExitState B C) :
    KeepsControls s (vmmpInjectInterruption type vector b code s) := by
  have hinfo : KeepsControls s (utilVmWrite .vmEntryIntrInfoField
      ((vmEntryInterruptionInformation type vector b).setWidth 64) s) :=
    keepsControls_write (by decide) _ s
  cases b with
  | false => exact hinfo
  | true => exact hinfo.trans (keepsControls_write (by decide) _ _)

theorem keepsControls_adjust (s : ExitState B C) :
    KeepsControls s (vmmpAdjustGuestInstructionPointer s) := by
  have hrip : KeepsControls s (utilVmWrite .guestRip (s.ip + s.vmcs .vmExitInstructionLen) s) :=
    keepsControls_write (by decide) _ s
  rw [adjust_eq]
  split_ifs
  · exact (hrip.trans (keepsControls_write (by decide) _ _)).trans
      (keepsControls_write (by decide) _ _)
  · exact hrip

theorem InstructionEnd.keepsControls (h : InstructionEnd s s') : KeepsControls s s' := by
  cases h with
  | advance eq work =>
    subst eq
    exact work.keepsControls.trans (keepsControls_adjust _)
  | fault work rest =>
    exact (work.keepsControls.trans (keepsControls_inject _ _ _ _ _)).trans rest.keepsControls

/-- A change of neither the VMCS nor the trace. -/
theorem keepsControls_of_eq (htrace : s'.trace = s.trace) (hvmcs : s'.vmcs = s.vmcs) :
    KeepsControls s s' :=
  ⟨by rw [ExitState.writes, htrace, ExitState.writes], congrFun hvmcs _⟩

theorem keepsControls_runCfg (prog : CfgProg (List (PciMonitorCfg C) × EptState)) :
    KeepsControls s (runCfg m prog s) := by
  refine ⟨?_, rfl⟩
  rw [runCfg, writes_log, cfgEvents_written, List.append_nil]
  rfl

theorem keepsControls_successful {s₁ : ExitState B C} (h : KeepsControls s s₁) :
    KeepsControls s (vmmpIndicateSuccessfulVmcall s₁) := by
  have hflags := (Instruction.setFlags s₁ (tf_clearStatus s₁.flagReg)).keepsControls
  exact ((h.trans hflags).trans (keepsControls_write (by decide) _ _)).trans
    (keepsControls_adjust _)

theorem keepsControls_unsuccessful (s : ExitState B C) :
    KeepsControls s (vmmpIndicateUnsuccessfulVmcall s) :=
  (keepsControls_inject _ _ _ _ s).trans (keepsControls_write (by decide) _ _)

theorem vmcall_keepsControls (m : ExitMachine B) (s : ExitState B C) :
    KeepsControls s (vmmpHandleVmCall m s) := by
  unfold vmmpHandleVmCall
  simp only
  split
  · exact keepsControls_unsuccessful s
  · split_ifs
    · exact keepsControls_of_eq rfl rfl
    · exact keepsControls_unsuccessful s
  · exact keepsControls_successful (keepsControls_of_eq rfl rfl)
  · exact keepsControls_successful (keepsControls_of_eq rfl rfl)
  · exact keepsControls_successful (keepsControls_runCfg _)
  · exact keepsControls_successful (keepsControls_runCfg _)

/-- An EPT violation whose page is opened for a single step. -/
def OpensPage (s : ExitState B C) : Prop :=
  s.exitReason = some .eptViolation ∧ SingleStepped .eptViolation s.toVmmState

/-- What a handler does to the controls. -/
inductive ControlEffect (s s' : ExitState B C) : Prop where
  | kept (opens : ¬OpensPage s) (trap : s.exitReason ≠ some .monitorTrapFlag)
      (keeps : KeepsControls s s')
  | opened {s₁ : ExitState B C} (opens : OpensPage s)
      (trap : s.exitReason ≠ some .monitorTrapFlag) (keeps : KeepsControls s s₁)
      (eq : s' = dmSetMonitorTrapFlag true s₁)
  | closed {s₁ : ExitState B C} (opens : ¬OpensPage s)
      (trap : s.exitReason = some .monitorTrapFlag) (keeps : KeepsControls s s₁)
      (eq : s' = dmSetMonitorTrapFlag false s₁)

theorem eptViolation_controlEffect (hreason : s.exitReason = some .eptViolation) :
    ControlEffect s (vmmpHandleEptViolation m s) := by
  have htrap : s.exitReason ≠ some .monitorTrapFlag := by simp [hreason]
  unfold vmmpHandleEptViolation vmmpHandleMmio
  cases hentry : mmioEntry s.toVmmState with
  | none =>
    refine .kept (fun hopens => hopens.2.2.1 hentry) htrap ?_
    exact keepsControls_of_eq rfl rfl
  | some entry =>
    cases hret : (mmioCallback s.toVmmState).ret with
    | false =>
      simp only [hret, Bool.not_false, if_true]
      refine .opened ⟨hreason, rfl, by simp [hentry], hret⟩ htrap ?_ rfl
      exact keepsControls_of_eq rfl rfl
    | true =>
      simp only [hret, Bool.not_true, Bool.false_eq_true, if_false]
      refine .kept (fun hopens => ?_) htrap (.trans ?_ (keepsControls_adjust _))
      · exact Bool.false_ne_true (hopens.2.2.2.symm.trans hret)
      · exact keepsControls_of_eq rfl rfl

theorem monitorTrap_controlEffect (hreason : s.exitReason = some .monitorTrapFlag)
    (h : vmmpHandleMonitorTrap s = some s') : ControlEffect s s' := by
  have hopens : ¬OpensPage s := fun hopens => by cases hreason.symm.trans hopens.1
  unfold vmmpHandleMonitorTrap at h
  split at h
  · cases h
  · refine .closed hopens hreason ?_ (Option.some.inj h).symm
    exact keepsControls_of_eq rfl rfl

theorem controlEffect_of_exit (h : vmmpHandleVmExit m s = some s') : ControlEffect s s' := by
  cases handlerCase_of_exit h with
  | monitorTrap reason handled => exact monitorTrap_controlEffect reason handled
  | eptViolation reason eq =>
    subst eq
    exact eptViolation_controlEffect reason
  | vmcall reason eq =>
    subst eq
    refine .kept (fun hopens => ?_) (by simp [reason]) (vmcall_keepsControls m s)
    cases reason.symm.trans hopens.1
  | instruction other ends =>
    refine .kept (fun hopens => other (by simp [hopens.1])) (fun htrap => ?_) ends.keepsControls
    exact other (by simp [htrap])

/-- The register leaves the flag free where the exit changes it. -/
def LeavesFlagFree (capability : BitVec 64) (s : ExitState B C) : Prop :=
  (OpensPage s → trapFlagAllowed capability = true) ∧
    (s.exitReason = some .monitorTrapFlag → trapFlagFixed capability = false)

/-- The value `DmSetMonitorTrapFlag` writes, and the field has from then on. -/
theorem dmSetMonitorTrapFlag_spec {s₁ : ExitState B C} (h : KeepsControls s s₁) (enable : Bool) :
    (dmSetMonitorTrapFlag enable s₁).writes .cpuBasedVmExecControl =
        s.writes .cpuBasedVmExecControl ++ [(VmxProcessorBasedControls.setMonitorTrapFlag
          ((s.vmcs .cpuBasedVmExecControl).setWidth 32) enable).setWidth 64] ∧
      (dmSetMonitorTrapFlag enable s₁).vmcs .cpuBasedVmExecControl =
        (VmxProcessorBasedControls.setMonitorTrapFlag
          ((s.vmcs .cpuBasedVmExecControl).setWidth 32) enable).setWidth 64 := by
  rw [dmSetMonitorTrapFlag, writes_utilVmWrite, if_pos rfl, vmcs_utilVmWrite, if_pos rfl,
    VmcsField.held_cpuBasedVmExecControl, h.writes, ← h.field]
  exact ⟨rfl, rfl⟩

/-- One exit from an allowed value : what it writes is allowed exactly if the flag is free, and
then the field has an allowed value again. -/
theorem exit_allowed {capability : BitVec 64} (h : vmmVmExitHandler m s = some s')
    (hfield : Allowed capability ((s.vmcs .cpuBasedVmExecControl).setWidth 32)) :
    ((∀ value ∈ s'.writes .cpuBasedVmExecControl, Allowed capability (value.setWidth 32)) ↔
        LeavesFlagFree capability s.captureGuestContext) ∧
      (LeavesFlagFree capability s.captureGuestContext →
        Allowed capability ((s'.vmcs .cpuBasedVmExecControl).setWidth 32)) := by
  obtain ⟨s₁, hexit, rfl⟩ := Option.map_eq_some_iff.1 h
  have hwrites : s₁.restoreGuestContext.writes .cpuBasedVmExecControl =
      s₁.writes .cpuBasedVmExecControl := rfl
  have hvmcs : s₁.restoreGuestContext.vmcs = s₁.vmcs := rfl
  have hnone : s.captureGuestContext.writes .cpuBasedVmExecControl = [] := rfl
  have hcapture : s.captureGuestContext.vmcs = s.vmcs := rfl
  rw [hwrites, hvmcs]
  cases controlEffect_of_exit hexit with
  | kept opens trap keeps =>
    have hfree : LeavesFlagFree capability s.captureGuestContext :=
      ⟨fun h => (opens h).elim, fun h => (trap h).elim⟩
    rw [keeps.writes, hnone, keeps.field, hcapture]
    exact ⟨iff_of_true (List.forall_mem_nil _) hfree, fun _ => hfield⟩
  | @opened s₂ opens trap keeps eq =>
    obtain ⟨hlog, hvalue⟩ := dmSetMonitorTrapFlag_spec keeps true
    have hfree : LeavesFlagFree capability s.captureGuestContext ↔
        trapFlagAllowed capability = true :=
      ⟨fun h => h.1 opens, fun h => ⟨fun _ => h, fun h => (trap h).elim⟩⟩
    rw [eq, hlog, hvalue, hnone, hfree, List.nil_append, List.forall_mem_singleton, hcapture,
      BitVec.setWidth_setWidth_of_le _ (by decide), BitVec.setWidth_eq]
    exact ⟨setMonitorTrapFlag_allowed hfield true, (setMonitorTrapFlag_allowed hfield true).2⟩
  | @closed s₂ opens trap keeps eq =>
    obtain ⟨hlog, hvalue⟩ := dmSetMonitorTrapFlag_spec keeps false
    have hfree : LeavesFlagFree capability s.captureGuestContext ↔
        trapFlagFixed capability = false :=
      ⟨fun h => h.2 trap, fun h => ⟨fun h => (opens h).elim, fun _ => h⟩⟩
    rw [eq, hlog, hvalue, hnone, hfree, List.nil_append, List.forall_mem_singleton, hcapture,
      BitVec.setWidth_setWidth_of_le _ (by decide), BitVec.setWidth_eq]
    have hset := setMonitorTrapFlag_allowed hfield false
    simp only [Bool.false_eq_true, if_false] at hset
    exact ⟨hset, hset.2⟩

end ExitState

/-! ## Runs -/

section Runs

variable {B C : Type} {m : ExitMachine B} {cpu : SetupCpu}

/-- The values a list of writes writes to a field. -/
def writesTo (field : VmcsField) (ws : List (VmcsField × BitVec 64)) : List (BitVec 64) :=
  ws.filterMap fun w => if w.1 = field then some w.2 else none

/-- A run of one processor from its setup on, with the values written to the primary
processor-based controls and the exits in it, each as its handler finds it. -/
inductive ControlRun (m : ExitMachine B) (cpu : SetupCpu) :
    ExitState B C → List (BitVec 64) → List (ExitState B C) → Prop where
  | launch {s : ExitState B C} {guestStackPointer guestInstructionPointer : BitVec 64}
      {vmmStackPointer : BitVec 64} {outcome : ℕ → VmxStatus} {vmcs : VmcsField → BitVec 64}
      (written : ∀ k value, (setupWrites cpu guestStackPointer guestInstructionPointer
        vmmStackPointer)[k]? = some (.cpuBasedVmExecControl, value) → outcome k = .ok)
      (setup : s.vmcs .cpuBasedVmExecControl = (vmpSetupVmcs cpu guestStackPointer
        guestInstructionPointer vmmStackPointer outcome vmcs).2 .cpuBasedVmExecControl) :
      ControlRun m cpu s (writesTo .cpuBasedVmExecControl (setupWrites cpu guestStackPointer
        guestInstructionPointer vmmStackPointer)) []
  | exit {s s₀ s' : ExitState B C} {values : List (BitVec 64)} {exits : List (ExitState B C)}
      (run : ControlRun m cpu s values exits) (running : s.vmContinue = true)
      (guest : GuestRuns s.toVmmState s₀.toVmmState)
      (handled : ExitState.vmmVmExitHandler m s₀ = some s') :
      ControlRun m cpu s' (values ++ s'.writes .cpuBasedVmExecControl)
        (exits ++ [s₀.captureGuestContext])

theorem writesTo_setupWrites {guestStackPointer guestInstructionPointer vmmStackPointer} :
    writesTo .cpuBasedVmExecControl (setupWrites cpu guestStackPointer guestInstructionPointer
      vmmStackPointer) = [(vmProcctl cpu).setWidth 64] :=
  rfl

/-- **When the controls stay allowed.** All values written in a run are allowed by the capability
register exactly if every exit that changes the monitor trap flag finds it free there : it may be
set where a page is opened for a single step, and cleared where the step ends. -/
theorem controls_allowed_iff (m : ExitMachine B) (cpu : SetupCpu)
    (hcapability : WellFormedCapability (cpu.msr (procctlMsr cpu))) {s : ExitState B C}
    {values : List (BitVec 64)} {exits : List (ExitState B C)}
    (run : ControlRun m cpu s values exits) :
    (∀ value ∈ values, Allowed (cpu.msr (procctlMsr cpu)) (value.setWidth 32)) ↔
      ∀ exit ∈ exits, exit.LeavesFlagFree (cpu.msr (procctlMsr cpu)) := by
  -- while the exits leave the flag free, the field has an allowed value
  suffices h : ((∀ value ∈ values, Allowed (cpu.msr (procctlMsr cpu)) (value.setWidth 32)) ↔
      ∀ exit ∈ exits, exit.LeavesFlagFree (cpu.msr (procctlMsr cpu))) ∧
      ((∀ exit ∈ exits, exit.LeavesFlagFree (cpu.msr (procctlMsr cpu))) →
        Allowed (cpu.msr (procctlMsr cpu)) ((s.vmcs .cpuBasedVmExecControl).setWidth 32)) from h.1
  induction run with
  | launch written setup =>
    have hallowed := vmpAdjustControlValue_allowed hcapability vmProcctlRequested
    have hfield := setup.trans vmpSetupVmcs_cpuBasedVmExecControl
    rw [if_pos (written 23 _ rfl)] at hfield
    rw [hfield, writesTo_setupWrites, List.forall_mem_singleton,
      BitVec.setWidth_setWidth_of_le _ (by decide), BitVec.setWidth_eq]
    exact ⟨iff_of_true hallowed (List.forall_mem_nil _), fun _ => hallowed⟩
  | @exit s s₀ s' values exits run running guest handled ih =>
    have hstep := fun hfree => ExitState.exit_allowed handled (guest.controls ▸ ih.2 hfree)
    rw [List.forall_mem_append, List.forall_mem_append, List.forall_mem_singleton, ih.1]
    exact ⟨and_congr_right fun hfree => (hstep hfree).1, fun hfree => (hstep hfree.1).2 hfree.2⟩

end Runs

/-! ## A read of a BAR -/

/-- A processor with this capability register of the primary controls. -/
def controlsCpu (capability : BitVec 64) : SetupCpu :=
  { zeroCpu with msr := fun msr => if msr = Msr.kIa32VmxProcBasedCtls then capability else 0 }

theorem msr_controlsCpu (capability : BitVec 64) (msr : BitVec 32) :
    (controlsCpu capability).msr msr =
      if msr = Msr.kIa32VmxProcBasedCtls then capability else 0 :=
  rfl

theorem capability_controlsCpu (capability : BitVec 64) :
    (controlsCpu capability).msr (procctlMsr (controlsCpu capability)) = capability := by
  have hbasic : (controlsCpu capability).msr Msr.kIa32VmxBasic = 0 := by
    rw [msr_controlsCpu, if_neg (by decide)]
  have hmsr : procctlMsr (controlsCpu capability) = Msr.kIa32VmxProcBasedCtls := by
    rw [procctlMsr, useTrueMsrs, hbasic]
    rfl
  rw [hmsr, msr_controlsCpu, if_pos rfl]

/-- All controls may be set. -/
def trapFlagCpu : SetupCpu :=
  controlsCpu 0xFFF9FFFE0401E172

/-- The monitor trap flag may not. -/
def noTrapFlagCpu : SetupCpu :=
  controlsCpu 0xF7F9FFFE0401E172

/-- The guest reads a monitored BAR. -/
def barRead (cpu : SetupCpu) : ExitState (BitVec 32) Unit where
  toVmmState := { largeBar with
    vmContinue := true
    vmcs := fun
      | .vmExitReason => 48
      | .exitQualification => readFault.all
      | .guestPhysicalAddress => 0xFED00000
      | .vmExitInstructionLen => 3
      | .guestRip => 0x401000
      | .cpuBasedVmExecControl => (vmProcctl cpu).setWidth 64
      | _ => 0 }
  cr8 := 0
  irql := 0
  cpu := ⟨fun _ => 0, 0, 0, 0, fun _ => 0, fun _ => 0⟩
  trace := []

theorem opensPage_barRead : (barRead noTrapFlagCpu).captureGuestContext.OpensPage := by
  refine ⟨by decide, rfl, ?_, ?_⟩
  · decide +kernel
  · decide +kernel

theorem barRead_handled (cpu : SetupCpu) :
    ∃ s', ExitState.vmmVmExitHandler idleMachine (barRead cpu) = some s' := by
  have hreason : (barRead cpu).captureGuestContext.exitReason = some .eptViolation := rfl
  rw [ExitState.vmmVmExitHandler, ExitState.vmmpHandleVmExit, hreason]
  exact ⟨_, rfl⟩

/-- The setup and the read. -/
theorem barRead_run {cpu : SetupCpu} {s' : ExitState (BitVec 32) Unit}
    (h : ExitState.vmmVmExitHandler idleMachine (barRead cpu) = some s') :
    ControlRun idleMachine cpu s'
      ([(vmProcctl cpu).setWidth 64] ++ s'.writes .cpuBasedVmExecControl)
      [(barRead cpu).captureGuestContext] := by
  have hsetup : (barRead cpu).vmcs .cpuBasedVmExecControl =
      (vmpSetupVmcs cpu 0 0 0 (fun _ => .ok) fun _ => 0).2 .cpuBasedVmExecControl :=
    (vmpSetupVmcs_cpuBasedVmExecControl.trans (if_pos rfl)).symm
  have hlaunch : ControlRun idleMachine cpu (barRead cpu) [(vmProcctl cpu).setWidth 64] [] :=
    .launch (fun _ _ _ => rfl) hsetup
  exact hlaunch.exit rfl ⟨rfl, rfl, rfl⟩ h

theorem controls_allowed_iff_barRead : ∃ s' : ExitState (BitVec 32) Unit,
    ExitState.vmmVmExitHandler idleMachine (barRead trapFlagCpu) = some s' ∧
      ∀ value ∈ [(vmProcctl trapFlagCpu).setWidth 64] ++ s'.writes .cpuBasedVmExecControl,
        Allowed 0xFFF9FFFE0401E172 (value.setWidth 32) := by
  have hcapability : WellFormedCapability 0xFFF9FFFE0401E172 := by
    unfold WellFormedCapability
    decide
  rw [← capability_controlsCpu 0xFFF9FFFE0401E172] at hcapability
  obtain ⟨s', hhandled⟩ := barRead_handled trapFlagCpu
  have hiff := controls_allowed_iff idleMachine trapFlagCpu hcapability (barRead_run hhandled)
  rw [trapFlagCpu, capability_controlsCpu] at hiff
  refine ⟨s', hhandled, hiff.2 fun exit hexit => ?_⟩
  rw [List.mem_singleton.1 hexit]
  exact ⟨fun _ => by decide, fun htrap => by cases htrap⟩

/-- Without the flag the read leaves a value that is not allowed. -/
theorem barRead_not_allowed : ¬∀ (m : ExitMachine (BitVec 32)) (cpu : SetupCpu)
    (s : ExitState (BitVec 32) Unit) (values : List (BitVec 64))
    (exits : List (ExitState (BitVec 32) Unit)),
    WellFormedCapability (cpu.msr (procctlMsr cpu)) → ControlRun m cpu s values exits →
      ∀ value ∈ values, Allowed (cpu.msr (procctlMsr cpu)) (value.setWidth 32) := by
  intro hall
  have hcapability : WellFormedCapability 0xF7F9FFFE0401E172 := by
    unfold WellFormedCapability
    decide
  rw [← capability_controlsCpu 0xF7F9FFFE0401E172] at hcapability
  obtain ⟨s', hhandled⟩ := barRead_handled noTrapFlagCpu
  have hvalues := hall idleMachine noTrapFlagCpu s' _ _ hcapability (barRead_run hhandled)
  rw [List.forall_mem_append, noTrapFlagCpu, capability_controlsCpu] at hvalues
  have hfield : Allowed 0xF7F9FFFE0401E172
      (((barRead noTrapFlagCpu).vmcs .cpuBasedVmExecControl).setWidth 32) := by
    have hallowed := vmpAdjustControlValue_allowed hcapability vmProcctlRequested
    rw [capability_controlsCpu] at hallowed
    exact hallowed
  have hfree := (ExitState.exit_allowed hhandled hfield).1.1 hvalues.2
  exact absurd (hfree.1 opensPage_barRead) (by decide)

end DeviceMon
