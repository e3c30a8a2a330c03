import DeviceMon.ExitDiscipline
import DeviceMon.PciAccessors

/-!
# Interrupts in VMX root operation

A VM exit clears RFLAGS.IF, and until the VMRESUME the handlers should leave it clear
(`InterruptsMasked`). Every accessor of configuration space ends in an STI, so the flag is set as
soon as one is called. The handlers get there only from `VmmpHandleVmCall`, which scans the monitor
list for two numbers, and a scan accesses configuration space as soon as a device has a BAR
(`ScansBars`). No other handler has an STI : it is clear throughout exactly when the exit is no such
scan (`interruptsMasked_exit_iff`).
-/

namespace DeviceMon

/-! ## The flag along a trace -/

/-- RFLAGS.IF is clear at every point of a trace. -/
def InterruptsMasked (trace : List CpuEvent) : Prop :=
  ∀ n, interruptFlag (trace.take n) = false

theorem interruptFlag_of_not_mem {trace : List CpuEvent} (h : .sti ∉ trace) :
    interruptFlag trace = false := by
  induction trace using List.reverseRecOn with
  | nil => rfl
  | append_singleton trace event ih =>
    have hflag := ih fun hmem => h (List.mem_append_left _ hmem)
    rw [interruptFlag_concat, hflag]
    cases event with
    | sti => exact (h (by simp)).elim
    | vmWrite field value => rfl
    | readMsr msr => rfl
    | writeMsr msr value => rfl
    | portIn port size => rfl
    | portOut port size value => rfl
    | stringLoad address size => rfl
    | stringStore address size => rfl
    | cli => rfl

/-- Only an STI sets the flag. -/
theorem interruptsMasked_iff {trace : List CpuEvent} : InterruptsMasked trace ↔ .sti ∉ trace := by
  constructor
  · intro hmasked hmem
    -- the flag is set right after it
    obtain ⟨before, after, rfl⟩ := List.append_of_mem hmem
    rw [List.append_cons] at hmasked
    have hflag := hmasked (before ++ [CpuEvent.sti]).length
    rw [List.take_left, interruptFlag_concat] at hflag
    cases hflag
  · intro hmem n
    exact interruptFlag_of_not_mem fun h => hmem (List.mem_of_mem_take h)

/-! ## Accesses of a scan -/

section Scan

variable {B C S : Type} {bus : PciBus B} {cfg : PciMonitorCfg C}

theorem trace_dmGetDeviceBarSize (busNumber deviceNum funcNum offset : BitVec 8) (b : B) :
    (dmGetDeviceBarSize busNumber deviceNum funcNum offset).trace bus b ≠ [] := by
  rw [dmGetDeviceBarSize, IoProg.trace_bind]
  exact List.cons_ne_nil _ _

/-- A BAR is probed first of all. -/
theorem trace_dmInitBarInfo {k : ℕ} (hk : k < maxBarIndex) (barIndex : Fin maxBarIndex) (b : B) :
    (dmInitBarInfo cfg k barIndex).trace bus b ≠ [] := by
  rw [dmInitBarInfo, dif_pos hk, IoProg.trace_bind]
  exact List.append_ne_nil_of_left_ne_nil (trace_dmGetDeviceBarSize _ _ _ _ b) _

theorem bars_eq_nil_iff : cfg.bars = [] ↔ cfg.barCount.val = 0 := by
  constructor
  · intro h
    by_contra hcount
    have hpos : 0 < cfg.barCount.val := Nat.pos_of_ne_zero hcount
    have hmem : (0 : Fin maxBarIndex) ∈ cfg.bars :=
      List.mem_filter.2 ⟨List.mem_finRange _, decide_eq_true hpos⟩
    rw [h] at hmem
    cases hmem
  · intro h
    refine List.filter_eq_nil_iff.2 fun i _ => ?_
    simp [h]

theorem trace_dmScanBars (pages : BitVec 64 → BitVec 32 → S → S) (s : S) (b : B) :
    (dmScanBars pages cfg.bars 0 cfg s).trace bus b = [] ↔ cfg.barCount.val = 0 := by
  rw [← bars_eq_nil_iff]
  cases hbars : cfg.bars with
  | nil => exact iff_of_true rfl rfl
  | cons barIndex bars =>
    refine iff_of_false ?_ (List.cons_ne_nil _ _)
    rw [dmScanBars, IoProg.trace_bind]
    exact List.append_ne_nil_of_left_ne_nil (trace_dmInitBarInfo (by decide) barIndex b) _

/-- The loop over the devices accesses configuration space exactly when one has a BAR. -/
theorem trace_dmScanDevices (pages : BitVec 64 → BitVec 32 → S → S)
    (devices : List (PciMonitorCfg C)) :
    ∀ (s : S) (b : B), (dmScanDevices pages devices s).trace bus b = [] ↔
      ∀ cfg ∈ devices, cfg.barCount.val = 0 := by
  induction devices with
  | nil => exact fun s b => iff_of_true rfl (by simp)
  | cons cfg devices ih =>
    intro s b
    rw [dmScanDevices, IoProg.trace_bind, List.append_eq_nil_iff, trace_dmScanBars,
      IoProg.trace_bind, List.append_eq_nil_iff, ih, List.forall_mem_cons]
    exact and_congr_right fun _ => and_iff_left rfl

end Scan

/-! ## The flag along an exit -/

namespace ExitState

variable {B C : Type} {m : ExitMachine B} {s s' : ExitState B C}

theorem sti_mem_cfgEvents (accesses : List (IoProg.Access CfgAccess (BitVec 32))) :
    .sti ∈ accesses.flatMap cfgEvents ↔ accesses ≠ [] := by
  cases accesses with
  | nil => simp
  | cons access accesses =>
    refine iff_of_true (List.mem_flatMap.2 ⟨access, List.mem_cons_self, ?_⟩) (List.cons_ne_nil _ _)
    cases access <;> simp [cfgEvents]

theorem sti_mem_runCfg (prog : CfgProg (List (PciMonitorCfg C) × EptState)) :
    .sti ∈ (runCfg m prog s).trace ↔ .sti ∈ s.trace ∨ prog.trace m.bus s.pci ≠ [] := by
  rw [← sti_mem_cfgEvents]
  exact List.mem_append

theorem sti_mem_successful : .sti ∈ (vmmpIndicateSuccessfulVmcall s).trace ↔ .sti ∈ s.trace := by
  rw [vmmpIndicateSuccessfulVmcall, sti_mem_adjust, sti_mem_utilVmWrite]
  rfl

theorem sti_mem_unsuccessful :
    .sti ∈ (vmmpIndicateUnsuccessfulVmcall s).trace ↔ .sti ∈ s.trace := by
  rw [vmmpIndicateUnsuccessfulVmcall, sti_mem_utilVmWrite, sti_mem_inject]

theorem InstructionEnd.masked (h : InstructionEnd s s') (hs : .sti ∉ s.trace) :
    .sti ∉ s'.trace := by
  cases h with
  | advance eq work =>
    subst eq
    exact (sti_mem_adjust _).not.2 (work.masked hs)
  | fault work rest => exact rest.masked ((sti_mem_inject _ _ _ _ _).not.2 (work.masked hs))

theorem monitorTrap_masked (h : vmmpHandleMonitorTrap s = some s') (hs : .sti ∉ s.trace) :
    .sti ∉ s'.trace := by
  unfold vmmpHandleMonitorTrap at h
  split at h
  · cases h
  · obtain rfl := Option.some.inj h
    exact (sti_mem_utilVmWrite _ _ _).not.2 hs

theorem eptViolation_masked (hs : .sti ∉ s.trace) : .sti ∉ (vmmpHandleEptViolation m s).trace := by
  unfold vmmpHandleEptViolation vmmpHandleMmio
  cases mmioEntry s.toVmmState with
  | none => exact hs
  | some entry =>
    cases hret : (mmioCallback s.toVmmState).ret with
    | false =>
      simp only [hret, Bool.not_false, if_true]
      exact (sti_mem_utilVmWrite _ _ _).not.2 hs
    | true =>
      simp only [hret, Bool.not_true, Bool.false_eq_true, if_false]
      exact (sti_mem_adjust _).not.2 hs

/-- The exit is a hypercall that scans the monitor list, and a device there has a BAR. -/
def ScansBars (s : ExitState B C) : Prop :=
  s.exitReason = some .vmcall ∧
    (HypercallNumber.ofValue (s.gpRegs.cx.setWidth 32) = some .enableVmmDeviceMonitor ∨
      HypercallNumber.ofValue (s.gpRegs.cx.setWidth 32) = some .disableVmmDeviceMonitor) ∧
    ∃ cfg ∈ s.devices, cfg.barCount.val ≠ 0

theorem sti_mem_scan (pages : BitVec 64 → BitVec 32 → EptState → EptState)
    (hs : .sti ∉ s.trace) :
    .sti ∈ (vmmpIndicateSuccessfulVmcall
        (runCfg m (dmScanDevices pages s.devices s.ept) s)).trace ↔
      ∃ cfg ∈ s.devices, cfg.barCount.val ≠ 0 := by
  rw [sti_mem_successful, sti_mem_runCfg, or_iff_right hs, Ne, trace_dmScanDevices]
  push Not
  rfl

theorem vmcall_sti (hreason : s.exitReason = some .vmcall) (hs : .sti ∉ s.trace) :
    .sti ∈ (vmmpHandleVmCall m s).trace ↔ ScansBars s := by
  rw [ScansBars, and_iff_right hreason]
  unfold vmmpHandleVmCall
  simp only
  cases HypercallNumber.ofValue (s.gpRegs.cx.setWidth 32) with
  | none => simp [sti_mem_unsuccessful, hs]
  | some number =>
    cases number with
    | terminateVmm =>
      simp only
      split_ifs
      · simp [lift, hs]
      · simp [sti_mem_unsuccessful, hs]
    | pingVmm => simp [sti_mem_successful, hs]
    | getSharedProcessorData => simp [sti_mem_successful, lift, hs]
    | enableVmmDeviceMonitor =>
      simpa [dmEnableDeviceMonitor] using sti_mem_scan (invalidateEptPages m.pool m.mtrr) hs
    | disableVmmDeviceMonitor =>
      simpa [dmDisableDeviceMonitor] using sti_mem_scan validateEptPages hs

/-- A handler has an STI exactly when it scans. -/
theorem sti_mem_handler (h : vmmpHandleVmExit m s = some s') (hs : .sti ∉ s.trace) :
    .sti ∈ s'.trace ↔ ScansBars s := by
  cases handlerCase_of_exit h with
  | monitorTrap reason handled =>
    exact iff_of_false (monitorTrap_masked handled hs) fun hscan => by
      cases reason.symm.trans hscan.1
  | eptViolation reason eq =>
    subst eq
    exact iff_of_false (eptViolation_masked hs) fun hscan => by cases reason.symm.trans hscan.1
  | vmcall reason eq =>
    subst eq
    exact vmcall_sti reason hs
  | instruction other ends =>
    exact iff_of_false (ends.masked hs) fun hscan => other (by simp [hscan.1])

/-- Interrupts stay disabled throughout an exit exactly when it scans no BAR. -/
theorem interruptsMasked_exit_iff (h : vmmVmExitHandler m s = some s') :
    InterruptsMasked s'.trace ↔ ¬ScansBars s := by
  obtain ⟨s₁, hexit, rfl⟩ := Option.map_eq_some_iff.1 h
  rw [interruptsMasked_iff]
  exact (sti_mem_handler hexit List.not_mem_nil).not

end ExitState

/-- User mode enables the monitor of the SPI controller. -/
def scanExit : ExitState (BitVec 32) Unit where
  toVmmState := { userState 3 bootEpt with
    vmcs := fun
      | .vmExitReason => 18
      | .guestSsArBytes => 0x60
      | .vmExitInstructionLen => 3
      | .guestRip => 0x401000
      | _ => 0 }
  cr8 := 0
  irql := 0
  cpu := ⟨fun _ => 0, 0, 0, 0, fun _ => 0, fun _ => 0⟩
  trace := []

theorem interruptsMasked_exit_iff_scan :
    ∃ s', ExitState.vmmVmExitHandler idleMachine scanExit = some s' ∧
      (InterruptsMasked s'.trace ↔ ¬ExitState.ScansBars scanExit) :=
  ⟨_, rfl, ExitState.interruptsMasked_exit_iff (m := idleMachine) rfl⟩

/-- The first access of the scan leaves the flag set. -/
theorem scan_enables_interrupts :
    ¬∀ (m : ExitMachine (BitVec 32)) (s s' : ExitState (BitVec 32) Unit),
      ExitState.vmmVmExitHandler m s = some s' → InterruptsMasked s'.trace := by
  intro hall
  have hflag := hall idleMachine scanExit _ rfl 4
  exact absurd hflag (by decide)

end DeviceMon
