import DeviceMon.MonitorCalls
import DeviceMon.Vmm

/-!
# Hypercalls from user mode

What a VMCALL changes besides the guest's own state. `OnlyVmcs` is the effect of the
functions that answer the guest : the VMCS apart from the execution controls, and the
flags. `NoEffect` is what a VMCALL from user mode should keep : the leaves, the BAR
records, configuration space, memory and virtualization itself.

Only the case `kTerminateVmm` reads the CPL. The numbers out of bounds, `kTerminateVmm`
and `kPingVmm` have no effect from user mode; each of the other three has one in some
state (`vmcall_noEffect_iff`).
-/

namespace DeviceMon

section Frame

variable {B C : Type} {s s' s'' : VmmState B C}

/-- `s'` is `s` up to VMCS fields other than the execution controls, and the flags. -/
structure OnlyVmcs (s s' : VmmState B C) : Prop where
  ept : s'.ept = s.ept
  lastFaultEntry : s'.lastFaultEntry = s.lastFaultEntry
  devices : s'.devices = s.devices
  pci : s'.pci = s.pci
  memory : s'.memory = s.memory
  vmContinue : s'.vmContinue = s.vmContinue
  controls : s'.vmcs .cpuBasedVmExecControl = s.vmcs .cpuBasedVmExecControl

theorem OnlyVmcs.trans (h : OnlyVmcs s s') (h' : OnlyVmcs s' s'') : OnlyVmcs s s'' :=
  ⟨h'.ept.trans h.ept, h'.lastFaultEntry.trans h.lastFaultEntry, h'.devices.trans h.devices,
    h'.pci.trans h.pci, h'.memory.trans h.memory, h'.vmContinue.trans h.vmContinue,
    h'.controls.trans h.controls⟩

theorem onlyVmcs_write {field : VmcsField} (value : BitVec 64) (s : VmmState B C)
    (hf : field ≠ .cpuBasedVmExecControl) : OnlyVmcs s (utilVmWrite field value s) :=
  ⟨rfl, rfl, rfl, rfl, rfl, rfl, Function.update_of_ne hf.symm _ _⟩

theorem onlyVmcs_inject (type : InterruptionType) (vector : InterruptionVector) (b : Bool)
    (code : BitVec 32) (s : VmmState B C) :
    OnlyVmcs s (vmmpInjectInterruption type vector b code s) := by
  unfold vmmpInjectInterruption
  cases b with
  | false => exact onlyVmcs_write _ s (by decide)
  | true => exact (onlyVmcs_write _ s (by decide)).trans (onlyVmcs_write _ _ (by decide))

theorem onlyVmcs_adjust (s : VmmState B C) : OnlyVmcs s (vmmpAdjustGuestInstructionPointer s) := by
  have hrip : OnlyVmcs s (utilVmWrite .guestRip (s.ip + utilVmRead s .vmExitInstructionLen) s) :=
    onlyVmcs_write _ s (by decide)
  unfold vmmpAdjustGuestInstructionPointer
  simp only
  split_ifs
  · exact hrip.trans ((onlyVmcs_inject _ _ _ _ _).trans (onlyVmcs_write _ _ (by decide)))
  · exact hrip

theorem onlyVmcs_successful (s : VmmState B C) : OnlyVmcs s (vmmpIndicateSuccessfulVmcall s) := by
  have hflags : OnlyVmcs s { s with flagReg := FlagRegister.clearStatus s.flagReg } :=
    ⟨rfl, rfl, rfl, rfl, rfl, rfl, rfl⟩
  exact hflags.trans ((onlyVmcs_write _ _ (by decide)).trans (onlyVmcs_adjust _))

theorem onlyVmcs_unsuccessful (s : VmmState B C) :
    OnlyVmcs s (vmmpIndicateUnsuccessfulVmcall s) :=
  (onlyVmcs_inject _ _ _ _ s).trans (onlyVmcs_write _ _ (by decide))

end Frame

/-! ## No effect from user mode -/

/-- `s'` has the leaves, the BAR records, the configuration space and the memory of `s`, and
is still virtualized. -/
structure NoEffect {B C : Type} (s s' : VmmState B C) : Prop where
  leaf : ∀ p, s'.ept.leaf p = s.ept.leaf p
  records : s'.devices.map (fun cfg => (cfg.barAddress, cfg.barLimit)) =
    s.devices.map fun cfg => (cfg.barAddress, cfg.barLimit)
  pci : s'.pci = s.pci
  memory : s'.memory = s.memory
  running : s'.vmContinue = true

section UserMode

variable {B C : Type} {m : Machine B} {s s' : VmmState B C}

theorem OnlyVmcs.noEffect (h : OnlyVmcs (captureGuestContext s) s') : NoEffect s s' :=
  ⟨fun p => by rw [h.ept]; rfl, by rw [h.devices]; rfl, h.pci, h.memory, h.vmContinue⟩

/-- The numbers that do nothing for user mode. -/
theorem vmcall_noEffect (hcpl : vmmpGetGuestCpl s ≠ 0) (h2 : s.gpRegs.cx.setWidth 32 ≠ 2#32)
    (h3 : s.gpRegs.cx.setWidth 32 ≠ 3#32) (h4 : s.gpRegs.cx.setWidth 32 ≠ 4#32) :
    NoEffect s (vmmpHandleVmCall m (captureGuestContext s)) := by
  have hcpl' : vmmpGetGuestCpl (captureGuestContext s) ≠ 0 := hcpl
  refine OnlyVmcs.noEffect ?_
  cases hn : HypercallNumber.ofValue ((captureGuestContext s).gpRegs.cx.setWidth 32) with
  | none =>
    simp only [vmmpHandleVmCall, hn]
    exact onlyVmcs_unsuccessful _
  | some number =>
    have hvalue : s.gpRegs.cx.setWidth 32 = number.value := HypercallNumber.ofValue_eq_some.1 hn
    cases number with
    | terminateVmm =>
      simp only [vmmpHandleVmCall, hn, if_neg hcpl']
      exact onlyVmcs_unsuccessful _
    | pingVmm =>
      simp only [vmmpHandleVmCall, hn]
      exact onlyVmcs_successful _
    | getSharedProcessorData => exact (h2 hvalue).elim
    | enableVmmDeviceMonitor => exact (h3 hvalue).elim
    | disableVmmDeviceMonitor => exact (h4 hvalue).elim

end UserMode

/-- A user-mode guest that makes hypercall `number` with a null context, on a machine with the
SPI controller as its only monitored device. -/
def userState (number : BitVec 64) (ept : EptState) : VmmState (BitVec 32) Unit where
  vmcs field := if field = .guestSsArBytes then 0x60 else 0
  gpRegs := { (default : GpRegisters) with cx := number }
  flagReg := 0
  ip := 0
  vmContinue := true
  gdtr := ⟨0, 0⟩
  idtr := ⟨0, 0⟩
  ept := ept
  lastFaultEntry := none
  sharedData := 1
  processorData := 0
  devices := spiDevices
  pci := 0xFED00000
  world := ()
  memory _ := 0

theorem userState_cpl (number : BitVec 64) (ept : EptState) :
    vmmpGetGuestCpl (userState number ept) ≠ 0 := by
  have hcpl : vmmpGetGuestCpl (userState number ept) = dpl 0x60 := rfl
  rw [hcpl]
  decide

/-- The machine of `userState`, with the writable bits of the BAR. -/
def spiMachine (mask : BitVec 32) : Machine (BitVec 32) :=
  ⟨bumpPool, uncached, bar32Bus mask⟩

/-- After the hypercall of `userState`. -/
def userCall (mask : BitVec 32) (number : BitVec 64) (ept : EptState) :
    VmmState (BitVec 32) Unit :=
  vmmpHandleVmCall (spiMachine mask) (captureGuestContext (userState number ept))

/-- The tables with the 4 KiB BAR of the SPI controller trapped. -/
def trappedEpt : EptState :=
  (userCall 0xFFFFF000 3 bootEpt).ept

theorem getSharedProcessorData_writes : (userCall 0xFFFFF000 2 bootEpt).memory 0 = 1 := by
  decide +kernel

theorem enable_traps : (trappedEpt.leaf 0xFED00).Trapped := by
  decide +kernel

theorem disable_opens : ((userCall 0xFFFFF000 4 trappedEpt).ept.leaf 0xFED00).Open := by
  decide +kernel

/-- A VMCALL from user mode has no effect, whatever the state, exactly when its number is not
`kGetSharedProcessorData`, `kEnableVmmDeviceMonitor` or `kDisableVmmDeviceMonitor`. -/
theorem vmcall_noEffect_iff (number : BitVec 32) :
    (∀ (B C : Type) (m : Machine B) (s : VmmState B C), vmmpGetGuestCpl s ≠ 0 →
      s.gpRegs.cx.setWidth 32 = number →
      ∃ s', vmmVmExitHandler m .vmcall s = some s' ∧ NoEffect s s') ↔
      number ≠ 2 ∧ number ≠ 3 ∧ number ≠ 4 := by
  constructor
  · intro hall
    have huser : ∀ (n : BitVec 64) (ept : EptState), n.setWidth 32 = number →
        NoEffect (userState n ept) (userCall 0xFFFFF000 n ept) := by
      intro n ept hn
      obtain ⟨s', hs', hno⟩ :=
        hall _ _ (spiMachine 0xFFFFF000) (userState n ept) (userState_cpl n ept) hn
      obtain rfl := Option.some.inj hs'
      exact hno
    refine ⟨?_, ?_, ?_⟩
    · rintro rfl
      have hmem := congrFun (huser 2 bootEpt rfl).memory 0
      rw [getSharedProcessorData_writes] at hmem
      exact absurd hmem (by decide)
    · rintro rfl
      have hleaf := (huser 3 bootEpt rfl).leaf 0xFED00
      obtain ⟨hne, hread, -⟩ := enable_traps
      rw [trappedEpt, hleaf] at hne hread
      exact absurd ((bootEpt_open 0xFED00 hne).1.symm.trans hread) (by decide)
    · rintro rfl
      have hleaf := (huser 4 trappedEpt rfl).leaf 0xFED00
      have hopen := disable_opens
      rw [hleaf] at hopen
      exact hopen.not_denies enable_traps.denies
  · rintro ⟨h2, h3, h4⟩ B C m s hcpl rfl
    exact ⟨_, rfl, vmcall_noEffect hcpl h2 h3 h4⟩

/-- User mode can disable the monitor. -/
theorem user_mode_disables :
    ¬∀ (m : Machine (BitVec 32)) (s s' : VmmState (BitVec 32) Unit), vmmpGetGuestCpl s ≠ 0 →
      vmmVmExitHandler m .vmcall s = some s' → NoEffect s s' := by
  intro hall
  have hleaf := (hall (spiMachine 0xFFFFF000) (userState 4 trappedEpt) _
    (userState_cpl 4 trappedEpt) rfl).leaf 0xFED00
  have hopen := disable_opens
  have hcall : (userState 4 trappedEpt).ept.leaf 0xFED00 = trappedEpt.leaf 0xFED00 := rfl
  rw [show (userCall 0xFFFFF000 4 trappedEpt).ept.leaf 0xFED00 = _ from hleaf, hcall] at hopen
  exact hopen.not_denies enable_traps.denies

end DeviceMon
