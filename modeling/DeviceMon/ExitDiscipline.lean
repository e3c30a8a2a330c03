import DeviceMon.ExitHandlers
import DeviceMon.VmmRun

/-!
# Exit-handling discipline

How a VM-exit handler leaves the guest. `Emulates` is what the work of a handler keeps until it
advances the guest or injects an exception : it writes neither RIP nor the VM-entry interruption
field, and keeps what these depend on. Nearly every handler is such work followed by
`vmmpAdjustGuestInstructionPointer`. An exit ends in one of four ways (`ExitOutcome`), and in
exactly one (`exit_outcome_unique`).

`HandlerCase` is the dispatch : what is said of all exits goes through its four cases.
-/

namespace DeviceMon

namespace ExitState

variable {B C : Type} {m : ExitMachine B} {s s' s'' : ExitState B C}

/-! ## Writes -/

theorem writes_log (s : ExitState B C) (field : VmcsField) (events : List CpuEvent) :
    (s.log events).writes field = s.writes field ++ events.filterMap (CpuEvent.written field) :=
  List.filterMap_append

theorem writes_utilVmWrite (s : ExitState B C) (f field : VmcsField) (value : BitVec 64) :
    (utilVmWrite f value s).writes field =
      s.writes field ++ if f = field then [value] else [] := by
  rw [utilVmWrite, writes_log]
  congr 1
  split_ifs with h <;> simp [CpuEvent.written, h]

/-- A field that was not written. -/
theorem writes_of_ne {f field : VmcsField} (h : f ≠ field) (value : BitVec 64)
    (s : ExitState B C) : (utilVmWrite f value s).writes field = s.writes field := by
  rw [writes_utilVmWrite, if_neg h, List.append_nil]

theorem sti_mem_log (s : ExitState B C) (events : List CpuEvent) :
    .sti ∈ (s.log events).trace ↔ .sti ∈ s.trace ∨ .sti ∈ events :=
  List.mem_append

/-- A write of the VMCS is no STI. -/
@[simp] theorem sti_mem_utilVmWrite (f : VmcsField) (value : BitVec 64) (s : ExitState B C) :
    .sti ∈ (utilVmWrite f value s).trace ↔ .sti ∈ s.trace := by
  rw [utilVmWrite, sti_mem_log]
  simp [lift]

/-! ## What is kept -/

/-- `s'` is `s` up to work that neither advances the guest nor injects anything. -/
structure Emulates (s s' : ExitState B C) : Prop where
  ripWrites : s'.writes .guestRip = s.writes .guestRip
  injections : s'.writes .vmEntryIntrInfoField = s.writes .vmEntryIntrInfoField
  rip : s'.vmcs .guestRip = s.vmcs .guestRip
  length : s'.vmcs .vmExitInstructionLen = s.vmcs .vmExitInstructionLen
  ip : s'.ip = s.ip
  tf : FlagRegister.tf s'.flagReg = FlagRegister.tf s.flagReg
  vmContinue : s'.vmContinue = s.vmContinue

/-- The work of a handler that leaves the tables, the single step and the interrupt flag alone. -/
structure Instruction (s s' : ExitState B C) : Prop extends Emulates s s' where
  guest : GuestRuns s.toVmmState s'.toVmmState
  masked : .sti ∉ s.trace → .sti ∉ s'.trace
  controlWrites : s'.writes .cpuBasedVmExecControl = s.writes .cpuBasedVmExecControl

theorem Emulates.refl (s : ExitState B C) : Emulates s s :=
  ⟨rfl, rfl, rfl, rfl, rfl, rfl, rfl⟩

theorem Emulates.trans (h : Emulates s s') (h' : Emulates s' s'') : Emulates s s'' :=
  ⟨h'.ripWrites.trans h.ripWrites, h'.injections.trans h.injections, h'.rip.trans h.rip,
    h'.length.trans h.length, h'.ip.trans h.ip, h'.tf.trans h.tf,
    h'.vmContinue.trans h.vmContinue⟩

/-- The fields that advancing the guest and injecting an exception depend on. -/
def entryFields : List VmcsField :=
  [.guestRip, .vmEntryIntrInfoField, .vmExitInstructionLen]

/-- A write of another field. -/
theorem Emulates.write {f : VmcsField} (value : BitVec 64) (s : ExitState B C)
    (hf : f ∉ entryFields) : Emulates s (utilVmWrite f value s) := by
  simp only [entryFields, List.mem_cons, List.not_mem_nil, or_false, not_or] at hf
  obtain ⟨hrip, hintr, hlen⟩ := hf
  exact ⟨writes_of_ne hrip value s, writes_of_ne hintr value s,
    Function.update_of_ne (Ne.symm hrip) _ _, Function.update_of_ne (Ne.symm hlen) _ _,
    rfl, rfl, rfl⟩

/-- What `Emulates` reads off a state. -/
def entryPart (s : ExitState B C) :
    List CpuEvent × (VmcsField → BitVec 64) × BitVec 64 × Bool × Bool :=
  (s.trace, s.vmcs, s.ip, FlagRegister.tf s.flagReg, s.vmContinue)

/-- A change of what the rest does not depend on. -/
theorem Emulates.of_eq (h : s'.entryPart = s.entryPart) : Emulates s s' := by
  simp only [entryPart, Prod.mk.injEq] at h
  obtain ⟨htrace, hvmcs, hip, htf, hcontinue⟩ := h
  refine ⟨?_, ?_, ?_, ?_, hip, htf, hcontinue⟩
  · rw [writes, htrace, writes]
  · rw [writes, htrace, writes]
  · rw [hvmcs]
  · rw [hvmcs]

/-- Events that write no field. -/
theorem Emulates.log (s : ExitState B C) {events : List CpuEvent}
    (h : ∀ field, events.filterMap (CpuEvent.written field) = []) : Emulates s (s.log events) := by
  refine ⟨?_, ?_, rfl, rfl, rfl, rfl, rfl⟩
  · rw [writes_log, h, List.append_nil]
  · rw [writes_log, h, List.append_nil]

theorem guestRuns_trans {v v' v'' : VmmState B C} (h : GuestRuns v v') (h' : GuestRuns v' v'') :
    GuestRuns v v'' :=
  ⟨h'.ept.trans h.ept, h'.lastFaultEntry.trans h.lastFaultEntry, h'.controls.trans h.controls⟩

namespace Instruction

theorem refl (s : ExitState B C) : Instruction s s :=
  ⟨.refl s, ⟨rfl, rfl, rfl⟩, id, rfl⟩

theorem trans (h : Instruction s s') (h' : Instruction s' s'') : Instruction s s'' :=
  ⟨h.toEmulates.trans h'.toEmulates, guestRuns_trans h.guest h'.guest,
    fun hs => h'.masked (h.masked hs), h'.controlWrites.trans h.controlWrites⟩

/-- A change of registers, of memory or of the monitor's world. -/
theorem of_eq (h : (s'.entryPart, s'.ept, s'.lastFaultEntry) =
    (s.entryPart, s.ept, s.lastFaultEntry)) : Instruction s s' := by
  obtain ⟨hentry, hmonitor⟩ := Prod.mk.inj h
  obtain ⟨hept, hfault⟩ := Prod.mk.inj hmonitor
  have htrace : s'.trace = s.trace := congrArg Prod.fst hentry
  have hvmcs : s'.vmcs = s.vmcs := congrArg (fun part => part.2.1) hentry
  refine ⟨.of_eq hentry, ⟨hept, hfault, congrFun hvmcs _⟩, fun hs => htrace.symm ▸ hs, ?_⟩
  rw [writes, htrace, writes]

/-- A change of the flags that keeps TF. -/
theorem setFlags {flags : BitVec 64} (s : ExitState B C)
    (h : FlagRegister.tf flags = FlagRegister.tf s.flagReg) :
    Instruction s (s.lift fun s => { s with flagReg := flags }) := by
  refine .of_eq ?_
  simp [entryPart, lift, h]

/-- A write of another field than those, and the execution controls. -/
theorem write {f : VmcsField} (value : BitVec 64) (s : ExitState B C)
    (hf : f ∉ .cpuBasedVmExecControl :: entryFields) : Instruction s (utilVmWrite f value s) := by
  obtain ⟨hctl, hentry⟩ := not_or.1 (List.mem_cons.not.1 hf)
  exact ⟨.write value s hentry, ⟨rfl, rfl, Function.update_of_ne (Ne.symm hctl) _ _⟩,
    (sti_mem_utilVmWrite f value s).not.2, writes_of_ne hctl value s⟩

/-- Events that write no field and leave interrupts disabled. -/
theorem log (s : ExitState B C) {events : List CpuEvent}
    (h : ∀ field, events.filterMap (CpuEvent.written field) = []) (hsti : .sti ∉ events) :
    Instruction s (s.log events) :=
  ⟨.log s h, ⟨rfl, rfl, rfl⟩, fun hs => by simp [sti_mem_log, hs, hsti],
    by rw [writes_log, h, List.append_nil]⟩

theorem guestCr3 (m : ExitMachine B) {f : ExitState B C → ExitState B C}
    (h : ∀ s, Instruction s (f s)) (s : ExitState B C) : Instruction s (withGuestCr3 m f s) := by
  have hload : Instruction s { s with cpu := { s.cpu with cr3 := vmmpGetKernelCr3 m s } } :=
    .of_eq rfl
  exact (hload.trans (h _)).trans (.of_eq rfl)

end Instruction

/-! ## Advancing and injecting -/

theorem adjust_eq (s : ExitState B C) : vmmpAdjustGuestInstructionPointer s =
    if FlagRegister.tf s.flagReg then
      utilVmWrite .vmEntryInstructionLen (s.vmcs .vmExitInstructionLen)
        (utilVmWrite .vmEntryIntrInfoField ((vmEntryInterruptionInformation .hardwareException
          .debugException false).setWidth 64)
          (utilVmWrite .guestRip (s.ip + s.vmcs .vmExitInstructionLen) s))
    else utilVmWrite .guestRip (s.ip + s.vmcs .vmExitInstructionLen) s :=
  rfl

@[simp] theorem vmcs_utilVmWrite (f field : VmcsField) (value : BitVec 64) (s : ExitState B C) :
    (utilVmWrite f value s).vmcs field = if field = f then f.held value else s.vmcs field :=
  Function.update_apply _ _ _ _

/-- What `VmmpAdjustGuestInstructionPointer` writes. -/
theorem adjust_spec (s : ExitState B C) :
    (vmmpAdjustGuestInstructionPointer s).writes .guestRip =
        s.writes .guestRip ++ [s.ip + s.vmcs .vmExitInstructionLen] ∧
      (vmmpAdjustGuestInstructionPointer s).writes .vmEntryIntrInfoField =
        s.writes .vmEntryIntrInfoField ++ (if FlagRegister.tf s.flagReg then
          [(vmEntryInterruptionInformation .hardwareException .debugException false).setWidth 64]
          else []) ∧
      (vmmpAdjustGuestInstructionPointer s).vmcs .guestRip =
        s.ip + s.vmcs .vmExitInstructionLen ∧
      (vmmpAdjustGuestInstructionPointer s).vmContinue = s.vmContinue := by
  rw [adjust_eq]
  split_ifs
  · refine ⟨?_, ?_, ?_, rfl⟩
    · simp [writes_utilVmWrite]
    · simp [writes_utilVmWrite]
    · simp
  · refine ⟨?_, ?_, ?_, rfl⟩
    · simp [writes_utilVmWrite]
    · simp [writes_utilVmWrite]
    · simp

/-- Advancing the guest writes RIP, and what injects a #DB. -/
theorem vmcs_adjust {f : VmcsField}
    (hf : f ∉ [.guestRip, .vmEntryIntrInfoField, .vmEntryInstructionLen]) (s : ExitState B C) :
    (vmmpAdjustGuestInstructionPointer s).vmcs f = s.vmcs f := by
  simp only [List.mem_cons, List.not_mem_nil, or_false, not_or] at hf
  rw [adjust_eq]
  split_ifs
  · simp [hf]
  · simp [hf]

@[simp] theorem gpRegs_adjust (s : ExitState B C) :
    (vmmpAdjustGuestInstructionPointer s).gpRegs = s.gpRegs := by
  rw [adjust_eq]
  split_ifs
  · rfl
  · rfl

@[simp] theorem memory_adjust (s : ExitState B C) :
    (vmmpAdjustGuestInstructionPointer s).memory = s.memory := by
  rw [adjust_eq]
  split_ifs
  · rfl
  · rfl

@[simp] theorem cpu_adjust (s : ExitState B C) :
    (vmmpAdjustGuestInstructionPointer s).cpu = s.cpu := by
  rw [adjust_eq]
  split_ifs
  · rfl
  · rfl

/-- Restoring the guest's context changes CR8 at most. -/
theorem cpu_restoreGuestContext (s : ExitState B C) :
    s.restoreGuestContext.cpu = { s.cpu with cr8 := s.cr8 } := by
  rw [restoreGuestContext]
  simp only
  split_ifs
  · rfl
  · rfl

theorem adjust_toVmmState (s : ExitState B C) :
    (vmmpAdjustGuestInstructionPointer s).toVmmState =
      DeviceMon.vmmpAdjustGuestInstructionPointer s.toVmmState :=
  apply_ite ExitState.toVmmState _ _ _

/-- `VmmpInjectInterruption` writes one event. -/
theorem inject_spec (type : InterruptionType) (vector : InterruptionVector) (b : Bool)
    (code : BitVec 32) (s : ExitState B C) :
    (vmmpInjectInterruption type vector b code s).writes .guestRip = s.writes .guestRip ∧
      (vmmpInjectInterruption type vector b code s).writes .vmEntryIntrInfoField =
        s.writes .vmEntryIntrInfoField ++
          [(vmEntryInterruptionInformation type vector b).setWidth 64] ∧
      (vmmpInjectInterruption type vector b code s).vmcs .guestRip = s.vmcs .guestRip ∧
      (vmmpInjectInterruption type vector b code s).vmContinue = s.vmContinue := by
  unfold vmmpInjectInterruption
  cases b with
  | false =>
    refine ⟨?_, ?_, ?_, rfl⟩
    · simp [writes_utilVmWrite]
    · simp [writes_utilVmWrite]
    · simp
  | true =>
    refine ⟨?_, ?_, ?_, rfl⟩
    · simp [writes_utilVmWrite]
    · simp [writes_utilVmWrite]
    · simp

theorem inject_toVmmState (type : InterruptionType) (vector : InterruptionVector) (b : Bool)
    (code : BitVec 32) (s : ExitState B C) :
    (vmmpInjectInterruption type vector b code s).toVmmState =
      DeviceMon.vmmpInjectInterruption type vector b code s.toVmmState := by
  cases b <;> rfl

@[simp] theorem sti_mem_adjust (s : ExitState B C) :
    .sti ∈ (vmmpAdjustGuestInstructionPointer s).trace ↔ .sti ∈ s.trace := by
  rw [adjust_eq]
  split_ifs
  · simp
  · simp

@[simp] theorem sti_mem_inject (type : InterruptionType) (vector : InterruptionVector) (b : Bool)
    (code : BitVec 32) (s : ExitState B C) :
    .sti ∈ (vmmpInjectInterruption type vector b code s).trace ↔ .sti ∈ s.trace := by
  unfold vmmpInjectInterruption
  cases b with
  | false => simp
  | true => simp

/-! ## Instructions -/

/-- An instruction is emulated and passed, or it faults. -/
inductive InstructionEnd (s s' : ExitState B C) : Prop where
  | advance {s₁ : ExitState B C} (eq : s' = vmmpAdjustGuestInstructionPointer s₁)
      (work : Instruction s s₁)
  | fault {s₁ : ExitState B C} {type : InterruptionType} {vector : InterruptionVector} {b : Bool}
      {code : BitVec 32} (work : Instruction s s₁)
      (rest : Instruction (vmmpInjectInterruption type vector b code s₁) s')

theorem cpuid_instruction (m : ExitMachine B) (s : ExitState B C) :
    InstructionEnd s (vmmpHandleCpuid m s) := by
  refine .advance rfl ?_
  exact .of_eq rfl

theorem rdtsc_instruction (m : ExitMachine B) (s : ExitState B C) :
    InstructionEnd s (vmmpHandleRdtsc m s) := by
  refine .advance rfl ?_
  exact .of_eq rfl

theorem rdtscp_instruction (m : ExitMachine B) (s : ExitState B C) :
    InstructionEnd s (vmmpHandleRdtscp m s) := by
  refine .advance rfl ?_
  exact .of_eq rfl

theorem xsetbv_instruction (s : ExitState B C) : InstructionEnd s (vmmpHandleXsetbv s) := by
  refine .advance rfl ?_
  exact .of_eq rfl

theorem tf_errorWithoutStatus (flags : BitVec 64) :
    FlagRegister.tf (FlagRegister.errorWithoutStatus flags) = FlagRegister.tf flags := by
  simp [FlagRegister.tf, FlagRegister.errorWithoutStatus, FlagRegister.clearStatus]

theorem vmx_instruction (s : ExitState B C) : InstructionEnd s (vmmpHandleVmx s) := by
  have hflags := Instruction.setFlags s (tf_errorWithoutStatus s.flagReg)
  exact .advance rfl (hflags.trans (.write _ _ (by decide)))

/-- The fields MSRs are kept in. -/
theorem msrVmcsField_not_mem {msr : BitVec 32} {field : VmcsField}
    (h : msrVmcsField msr = some field) : field ∉ .cpuBasedVmExecControl :: entryFields := by
  unfold msrVmcsField at h
  split at h <;> cases h <;> decide

theorem msr_instruction (readAccess : Bool) (s : ExitState B C) :
    InstructionEnd s (vmmpHandleMsrAccess readAccess s) := by
  unfold vmmpHandleMsrAccess
  cases readAccess with
  | true =>
    cases hf : msrVmcsField (s.gpRegs.cx.setWidth 32) with
    | some field =>
      simp only [hf, if_true]
      refine .advance rfl ?_
      exact .of_eq rfl
    | none =>
      simp only [hf, if_true]
      have hread : Instruction s (utilReadMsr (s.gpRegs.cx.setWidth 32) s).2 :=
        .log s (fun _ => rfl) (by simp)
      refine .advance rfl (hread.trans ?_)
      exact .of_eq rfl
  | false =>
    cases hf : msrVmcsField (s.gpRegs.cx.setWidth 32) with
    | some field =>
      simp only [hf, Bool.false_eq_true, if_false]
      exact .advance rfl (.write _ s (msrVmcsField_not_mem hf))
    | none =>
      simp only [hf, Bool.false_eq_true, if_false]
      refine .advance rfl (.trans ?_ (.log _ (fun _ => rfl) (by simp)))
      exact .of_eq rfl

/-! ### Descriptor tables -/

theorem storeDescriptorTable_instruction (address base limit : BitVec 64) (s : ExitState B C) :
    Instruction s (storeDescriptorTable address base limit s) := by
  unfold storeDescriptorTable
  simp only
  split_ifs
  · exact .of_eq rfl
  · exact .of_eq rfl

theorem gdtrOrIdtr_instruction (m : ExitMachine B) (s : ExitState B C) :
    InstructionEnd s (vmmpHandleGdtrOrIdtrAccess m s) := by
  refine .advance rfl (Instruction.guestCr3 m (fun s => ?_) s)
  split
  · exact storeDescriptorTable_instruction _ _ _ s
  · exact storeDescriptorTable_instruction _ _ _ s
  · exact (Instruction.write _ s (by decide)).trans
      (.write _ _ (by decide))
  · exact (Instruction.write _ s (by decide)).trans
      (.write _ _ (by decide))

theorem storeSelector_instruction (info : InstInformation) (address : BitVec 64)
    (value : BitVec 16) (s : ExitState B C) :
    Instruction s (storeSelector info address value s) := by
  unfold storeSelector
  split_ifs
  · exact .of_eq rfl
  · exact .of_eq rfl

theorem ldtrOrTr_instruction (m : ExitMachine B) (s : ExitState B C) :
    InstructionEnd s (vmmpHandleLdtrOrTrAccess m s) := by
  refine .advance rfl (Instruction.guestCr3 m (fun s => ?_) s)
  split
  · exact storeSelector_instruction _ _ _ s
  · exact storeSelector_instruction _ _ _ s
  · exact .write _ s (by decide)
  · exact (Instruction.write _ s (by decide)).trans
      (.of_eq rfl)

/-! ### Control and debug registers -/

theorem moveToDr_instruction (number : BitVec 3) (value : BitVec 64) (s : ExitState B C) :
    Instruction s (moveToDr number value s) := by
  unfold moveToDr
  split
  case h_6 => exact .write _ s (by decide)
  case h_7 => exact .refl s
  all_goals exact .of_eq rfl

theorem moveFromDr_instruction (number : BitVec 3) (gpRegister : BitVec 4) (s : ExitState B C) :
    Instruction s (moveFromDr number gpRegister s) := by
  unfold moveFromDr
  split <;> exact .of_eq rfl

/-- #DB when DR7.GD is set, #GP(0) for high bits, or the access. -/
theorem accessDr_instruction (number : BitVec 3) (s : ExitState B C) :
    InstructionEnd s (accessDr number s) := by
  unfold accessDr
  simp only
  split_ifs
  · have hdr6 : Instruction s (writeDr 6 (Dr6.debugAccess (s.cpu.dr 6)) s) :=
      .of_eq rfl
    exact .fault hdr6 (.write _ _ (by decide))
  · exact .advance rfl (moveFromDr_instruction _ _ s)
  · exact .fault (.refl s) (.refl _)
  · exact .advance rfl (moveToDr_instruction _ _ s)

/-- Every path injects once and leaves, or advances once. -/
theorem drAccess_instruction (s : ExitState B C) : InstructionEnd s (vmmpHandleDrAccess s) := by
  unfold vmmpHandleDrAccess
  simp only
  split_ifs
  · exact .fault (.refl s) (.refl _)
  · exact .fault (.refl s) (.refl _)
  · exact accessDr_instruction _ s
  · exact accessDr_instruction _ s
  · exact accessDr_instruction _ s

theorem applyFixedBits_instruction (msr0 msr1 : BitVec 32) (value : BitVec 64)
    (s : ExitState B C) : Instruction s (applyFixedBits msr0 msr1 value s).2 :=
  (Instruction.log s (fun _ => rfl) (by simp)).trans (.log _ (fun _ => rfl) (by simp))

theorem crAccess_instruction (h : vmmpHandleCrAccess s = some s') : InstructionEnd s s' := by
  unfold vmmpHandleCrAccess at h
  simp only at h
  split at h
  case h_1 | h_3 =>
    obtain rfl := Option.some.inj h
    refine .advance rfl (((applyFixedBits_instruction _ _ _ s).trans (.write _ _ ?_)).trans
      (.write _ _ ?_))
    · decide
    · decide
  case h_2 =>
    obtain rfl := Option.some.inj h
    exact .advance rfl (.write _ s (by decide))
  case h_5 | h_8 => cases h
  all_goals
    obtain rfl := Option.some.inj h
    refine .advance rfl ?_
    exact .of_eq rfl

/-! ### Ports -/

theorem portInString_instruction (m : ExitMachine B) (port : BitVec 16) (size : ℕ) (count : ℕ) :
    ∀ (address : BitVec 64) (s : ExitState B C),
      Instruction s (portInString m port size address s count) := by
  induction count with
  | zero => exact fun address s => .refl s
  | succ count ih =>
    intro address s
    have hread : Instruction s (portIn m port size s).2 := .log s (fun _ => rfl) (by simp)
    have hstore : Instruction (portIn m port size s).2 ((portIn m port size s).2.store address size
        ((portIn m port size s).1.setWidth 64)) :=
      .of_eq rfl
    have hlog : ∀ s : ExitState B C, Instruction s (s.log [.stringStore address size]) :=
      fun s => .log s (fun _ => rfl) (by simp)
    exact ((hread.trans hstore).trans (hlog _)).trans (ih _ _)

theorem portOutString_instruction (port : BitVec 16) (size : ℕ) (count : ℕ) :
    ∀ (address : BitVec 64) (s : ExitState B C),
      Instruction s (portOutString port size address s count) := by
  induction count with
  | zero => exact fun address s => .refl s
  | succ count ih =>
    intro address s
    have hload : Instruction s (s.log [.stringLoad address size]) :=
      .log s (fun _ => rfl) (by simp)
    have hwrite : Instruction (s.log [.stringLoad address size])
        (portOut port size ((s.load address size).setWidth 32)
          (s.log [.stringLoad address size])) :=
      .log _ (fun _ => rfl) (by simp)
    exact (hload.trans hwrite).trans (ih _ _)

theorem ioWrapper_instruction (m : ExitMachine B) (toMemory isString : Bool) (size : ℕ)
    (port : BitVec 16) (address : BitVec 64) (count : BitVec 32) (s : ExitState B C) :
    Instruction s (vmmpIoWrapper m toMemory isString size port address count s) := by
  refine Instruction.guestCr3 m (fun s => ?_) s
  split_ifs
  · exact .refl s
  · exact portInString_instruction m port size _ _ s
  · have hread : Instruction s (portIn m port size s).2 := .log s (fun _ => rfl) (by simp)
    refine hread.trans ?_
    exact .of_eq rfl
  · exact portOutString_instruction port size _ _ s
  · exact .log s (fun _ => rfl) (by simp)

theorem ioPort_instruction (m : ExitMachine B) (s : ExitState B C) :
    InstructionEnd s (vmmpHandleIoPort m s) := by
  have hupdate : ∀ (isString isIn isRep : Bool) (size : ℕ) (s : ExitState B C), Instruction s
      (if isString then updateStringRegisters isIn isRep size s else s) := by
    intro isString isIn isRep size s
    split_ifs
    · exact .of_eq rfl
    · exact .refl s
  exact .advance rfl ((ioWrapper_instruction m _ _ _ _ _ _ s).trans (hupdate _ _ _ _ _))

/-! ### Exceptions -/

theorem exception_instruction (h : vmmpHandleException s = some s') : InstructionEnd s s' := by
  unfold vmmpHandleException at h
  simp only at h
  split_ifs at h
  · obtain rfl := Option.some.inj h
    exact .fault (.refl s) (.of_eq rfl)
  · obtain rfl := Option.some.inj h
    exact .fault (.refl s) (.refl _)
  · obtain rfl := Option.some.inj h
    exact .fault (.refl s) (.write _ _ (by decide))

/-! ## Dispatch -/

/-- What `VmmpHandleVmExit` comes to : the exits of the monitor have a handler each, and any other
reason that is dispatched is an instruction. -/
inductive HandlerCase (m : ExitMachine B) (s s' : ExitState B C) : Prop where
  | monitorTrap (reason : s.exitReason = some .monitorTrapFlag)
      (handled : vmmpHandleMonitorTrap s = some s')
  | eptViolation (reason : s.exitReason = some .eptViolation)
      (eq : s' = vmmpHandleEptViolation m s)
  | vmcall (reason : s.exitReason = some .vmcall) (eq : s' = vmmpHandleVmCall m s)
  | instruction
      (other : s.exitReason ∉ [some .monitorTrapFlag, some .eptViolation, some .vmcall])
      (ends : InstructionEnd s s')

theorem handlerCase_of_exit (h : vmmpHandleVmExit m s = some s') : HandlerCase m s s' := by
  unfold vmmpHandleVmExit at h
  cases hreason : s.exitReason with
  | none =>
    rw [hreason] at h
    cases h
  | some reason =>
    rw [hreason] at h
    cases reason
    case tripleFault | eptMisconfig => cases h
    case monitorTrapFlag => exact .monitorTrap hreason h
    case eptViolation => exact .eptViolation hreason (Option.some.inj h).symm
    case vmcall => exact .vmcall hreason (Option.some.inj h).symm
    all_goals refine .instruction (by simp [hreason]) ?_
    case exceptionOrNmi => exact exception_instruction h
    case crAccess => exact crAccess_instruction h
    all_goals obtain rfl := Option.some.inj h
    case cpuid => exact cpuid_instruction m s
    case invd | invlpg => exact .advance rfl (.refl s)
    case rdtsc => exact rdtsc_instruction m s
    case rdtscp => exact rdtscp_instruction m s
    case xsetbv => exact xsetbv_instruction s
    case drAccess => exact drAccess_instruction s
    case ioInstruction => exact ioPort_instruction m s
    case msrRead | msrWrite => exact msr_instruction _ s
    case gdtrOrIdtrAccess => exact gdtrOrIdtr_instruction m s
    case ldtrOrTrAccess => exact ldtrOrTr_instruction m s
    all_goals exact vmx_instruction s

/-! ## All exits -/

/-- How a handler ends : it advances the guest, injects an exception, lets the guest retry, or
stops the VMM. -/
inductive Handled (s s' : ExitState B C) : Prop where
  | advance {s₁ : ExitState B C} (eq : s' = vmmpAdjustGuestInstructionPointer s₁)
      (work : Emulates s s₁)
  | fault {s₁ : ExitState B C} {type : InterruptionType} {vector : InterruptionVector} {b : Bool}
      {code : BitVec 32} (work : Emulates s s₁)
      (rest : Emulates (vmmpInjectInterruption type vector b code s₁) s')
  | retry (reason : s.exitReason = some .eptViolation ∨ s.exitReason = some .monitorTrapFlag)
      (work : Emulates s s')
  | terminate {context : BitVec 64} (reason : s.exitReason = some .vmcall)
      (eq : s' = s.lift (vmmpHandleVmCallTermination context))

theorem InstructionEnd.handled (h : InstructionEnd s s') : Handled s s' := by
  cases h with
  | advance eq work => exact .advance eq work.toEmulates
  | fault work rest => exact .fault work.toEmulates rest.toEmulates

theorem emulates_monitorTrapFlag (enable : Bool) (s : ExitState B C) :
    Emulates s (dmSetMonitorTrapFlag enable s) :=
  .write _ s (by decide)

theorem monitorTrap_handled (hreason : s.exitReason = some .monitorTrapFlag)
    (h : vmmpHandleMonitorTrap s = some s') : Handled s s' := by
  unfold vmmpHandleMonitorTrap at h
  cases hfault : s.lastFaultEntry with
  | none =>
    rw [hfault] at h
    cases h
  | some entry =>
    rw [hfault] at h
    obtain rfl := Option.some.inj h
    refine .retry (Or.inr hreason) (.trans ?_ (emulates_monitorTrapFlag false _))
    exact .of_eq rfl

theorem eptViolation_handled (hreason : s.exitReason = some .eptViolation) :
    Handled s (vmmpHandleEptViolation m s) := by
  unfold vmmpHandleEptViolation vmmpHandleMmio
  cases hentry : mmioEntry s.toVmmState with
  | none =>
    refine .retry (Or.inl hreason) ?_
    exact .of_eq rfl
  | some entry =>
    cases hret : (mmioCallback s.toVmmState).ret with
    | false =>
      simp only [hret, Bool.not_false, if_true]
      refine .retry (Or.inl hreason) (.trans ?_ (emulates_monitorTrapFlag true _))
      exact .of_eq rfl
    | true =>
      simp only [hret, Bool.not_true, Bool.false_eq_true, if_false]
      refine .advance rfl ?_
      exact .of_eq rfl

theorem cfgEvents_written (field : VmcsField)
    (accesses : List (IoProg.Access CfgAccess (BitVec 32))) :
    (accesses.flatMap cfgEvents).filterMap (CpuEvent.written field) = [] := by
  induction accesses with
  | nil => rfl
  | cons access accesses ih =>
    rw [List.flatMap_cons, List.filterMap_append, ih]
    cases access <;> rfl

theorem emulates_runCfg (prog : CfgProg (List (PciMonitorCfg C) × EptState)) :
    Emulates s (runCfg m prog s) := by
  refine .trans ?_ (.log _ fun field => cfgEvents_written field _)
  exact .of_eq rfl

theorem tf_clearStatus (flags : BitVec 64) :
    FlagRegister.tf (FlagRegister.clearStatus flags) = FlagRegister.tf flags := by
  simp [FlagRegister.tf, FlagRegister.clearStatus]

theorem successful_handled {s₁ : ExitState B C} (h : Emulates s s₁) :
    Handled s (vmmpIndicateSuccessfulVmcall s₁) := by
  have hflags := (Instruction.setFlags s₁ (tf_clearStatus s₁.flagReg)).toEmulates
  refine .advance rfl ((h.trans hflags).trans ?_)
  exact .write _ _ (by decide)

theorem unsuccessful_handled (s : ExitState B C) :
    Handled s (vmmpIndicateUnsuccessfulVmcall s) :=
  .fault (.refl s) (.write _ _ (by decide))

theorem vmcall_handled (hreason : s.exitReason = some .vmcall) :
    Handled s (vmmpHandleVmCall m s) := by
  unfold vmmpHandleVmCall
  simp only
  split
  · exact unsuccessful_handled s
  · split_ifs
    · exact .terminate hreason rfl
    · exact unsuccessful_handled s
  · exact successful_handled (.refl s)
  · refine successful_handled ?_
    exact .of_eq rfl
  · exact successful_handled (emulates_runCfg _)
  · exact successful_handled (emulates_runCfg _)

/-- Every handler that returns ends in one of these ways. -/
theorem exit_handled (h : vmmpHandleVmExit m s = some s') : Handled s s' := by
  cases handlerCase_of_exit h with
  | monitorTrap reason handled => exact monitorTrap_handled reason handled
  | eptViolation reason eq =>
    subst eq
    exact eptViolation_handled reason
  | vmcall reason eq =>
    subst eq
    exact vmcall_handled reason
  | instruction other ends => exact ends.handled

/-! ## Outcomes -/

/-- A VM-entry interruption-information word with an exception : the valid bit is set, and the
type is that of a hardware or software exception. -/
def IsValidException (info : BitVec 64) : Prop :=
  info.getLsbD 31 = true ∧ (info.extractLsb' 8 3 = InterruptionType.hardwareException.code ∨
    info.extractLsb' 8 3 = InterruptionType.softwareException.code)

theorem isValidException_inject (type : InterruptionType) (vector : InterruptionVector)
    (b : Bool) : IsValidException ((vmEntryInterruptionInformation type vector b).setWidth 64) := by
  unfold IsValidException
  revert b
  cases type <;> cases vector <;> decide

end ExitState

/-- The ways an exit may end. -/
inductive ExitOutcome where
  | advanced
  | faulted
  | resumed
  | terminated
deriving DecidableEq

/-- What each way means, from the state at the exit to the one the handler returns in. -/
def ExitOutcome.Holds {B C : Type} (s s' : ExitState B C) : ExitOutcome → Prop
  /- RIP was set to the next instruction, and nothing was injected but a #DB for TF. -/
  | .advanced =>
    s'.writes .guestRip = [s.vmcs .guestRip + s.vmcs .vmExitInstructionLen] ∧
    s'.vmcs .guestRip = s.vmcs .guestRip + s.vmcs .vmExitInstructionLen ∧
    s'.writes .vmEntryIntrInfoField = if FlagRegister.tf (s.vmcs .guestRflags) then
      [(vmEntryInterruptionInformation .hardwareException .debugException false).setWidth 64]
      else []
  /- RIP is unchanged, and one exception was injected. -/
  | .faulted =>
    s'.writes .guestRip = [] ∧ s'.vmcs .guestRip = s.vmcs .guestRip ∧
    ∃ info, s'.writes .vmEntryIntrInfoField = [info] ∧ ExitState.IsValidException info
  /- RIP is unchanged and nothing was injected, at an EPT violation or a monitor trap. -/
  | .resumed =>
    s'.writes .guestRip = [] ∧ s'.vmcs .guestRip = s.vmcs .guestRip ∧
    s'.writes .vmEntryIntrInfoField = [] ∧
    (s.exitReason = some .eptViolation ∨ s.exitReason = some .monitorTrapFlag)
  /- The VMM stops, with what its caller goes on with in RCX, RDX and RAX. -/
  | .terminated =>
    s'.vmContinue = false ∧
    s'.gpRegs.cx = s.vmcs .guestRip + s.vmcs .vmExitInstructionLen ∧
    s'.gpRegs.dx = s.vmcs .guestRsp ∧
    s'.gpRegs.ax = FlagRegister.clearStatus (s.vmcs .guestRflags) ∧
    FlagRegister.cf s'.gpRegs.ax = false ∧ FlagRegister.zf s'.gpRegs.ax = false

namespace ExitState

variable {B C : Type} {m : ExitMachine B} {s s' s₁ : ExitState B C}

theorem clearStatus_flags (flags : BitVec 64) :
    FlagRegister.cf (FlagRegister.clearStatus flags) = false ∧
      FlagRegister.zf (FlagRegister.clearStatus flags) = false := by
  constructor
  · simp [FlagRegister.cf, FlagRegister.clearStatus]
  · simp [FlagRegister.zf, FlagRegister.clearStatus]

/-- Whatever way a handler ends, its outcome holds. -/
theorem Handled.outcome (h : Handled s.captureGuestContext s₁) :
    ∃ outcome : ExitOutcome, outcome.Holds s s₁.restoreGuestContext := by
  cases h with
  | @advance s₂ eq work =>
    obtain ⟨hrip, hintr, hvalue, -⟩ := adjust_spec s₂
    rw [work.ripWrites, work.ip, work.length] at hrip
    rw [work.injections, work.tf] at hintr
    rw [work.ip, work.length] at hvalue
    rw [← eq] at hrip hintr hvalue
    exact ⟨.advanced, hrip, hvalue, hintr⟩
  | @fault s₂ type vector b code work rest =>
    obtain ⟨hrip, hintr, hvalue, -⟩ := inject_spec type vector b code s₂
    refine ⟨.faulted, ?_, ?_, _, ?_, isValidException_inject type vector b⟩
    · exact (rest.ripWrites.trans hrip).trans work.ripWrites
    · exact (rest.rip.trans hvalue).trans work.rip
    · refine (rest.injections.trans hintr).trans ?_
      rw [work.injections]
      rfl
  | retry reason work =>
    exact ⟨.resumed, work.ripWrites, work.rip, work.injections, reason⟩
  | terminate reason eq =>
    subst eq
    exact ⟨.terminated, rfl, rfl, rfl, rfl, clearStatus_flags _⟩

/-- The VMM stops only at a VMCALL, without a write. -/
theorem Handled.continues (h : Handled s.captureGuestContext s₁) :
    s₁.restoreGuestContext.vmContinue = true ∨ (s₁.restoreGuestContext.writes .guestRip = [] ∧
      s₁.restoreGuestContext.writes .vmEntryIntrInfoField = [] ∧
      s.exitReason = some .vmcall) := by
  cases h with
  | @advance s₂ eq work =>
    obtain ⟨-, -, -, hcontinue⟩ := adjust_spec s₂
    rw [← eq, work.vmContinue] at hcontinue
    exact Or.inl hcontinue
  | @fault s₂ type vector b code work rest =>
    obtain ⟨-, -, -, hcontinue⟩ := inject_spec type vector b code s₂
    exact Or.inl ((rest.vmContinue.trans hcontinue).trans work.vmContinue)
  | retry reason work => exact Or.inl work.vmContinue
  | terminate reason eq =>
    subst eq
    exact Or.inr ⟨rfl, rfl, reason⟩

/-- No two outcomes hold together. -/
theorem outcome_unique {o p : ExitOutcome}
    (h : s'.vmContinue = true ∨ (s'.writes .guestRip = [] ∧ s'.writes .vmEntryIntrInfoField = [] ∧
      s.exitReason = some .vmcall)) (ho : o.Holds s s') (hp : p.Holds s s') : o = p := by
  have key : ∀ q : ExitOutcome, q.Holds s s' → q =
      if s'.vmContinue = false then .terminated
      else if s'.writes .guestRip ≠ [] then .advanced
      else if s'.writes .vmEntryIntrInfoField ≠ [] then .faulted
      else .resumed := by
    intro q hq
    rcases h with hcontinue | ⟨hrip, hintr, hreason⟩
    · cases q with
      | advanced => simp [hcontinue, hq.1]
      | faulted =>
        obtain ⟨hrip, -, info, hinfo, -⟩ := hq
        simp [hcontinue, hrip, hinfo]
      | resumed => simp [hcontinue, hq.1, hq.2.2.1]
      | terminated => exact absurd (hcontinue.symm.trans hq.1) (by decide)
    · cases q with
      | advanced => exact absurd (hrip.symm.trans hq.1) (by simp)
      | faulted =>
        obtain ⟨-, -, info, hinfo, -⟩ := hq
        exact absurd (hintr.symm.trans hinfo) (by simp)
      | resumed => rcases hq.2.2.2 with hr | hr <;> cases hreason.symm.trans hr
      | terminated => simp [hq.1]
  rw [key o ho, key p hp]

/-- Every exit whose handler returns ends in exactly one way. -/
theorem exit_outcome_unique (h : vmmVmExitHandler m s = some s') :
    ∃! outcome : ExitOutcome, outcome.Holds s s' := by
  obtain ⟨s₁, hexit, rfl⟩ := Option.map_eq_some_iff.1 h
  have hhandled := exit_handled hexit
  obtain ⟨outcome, houtcome⟩ := hhandled.outcome
  exact ⟨outcome, houtcome, fun o ho => outcome_unique hhandled.continues ho houtcome⟩

end ExitState

/-- A machine whose processor answers zero. -/
def idleMachine : ExitMachine (BitVec 32) where
  toMachine := spiMachine 0xFFFFF000
  cpuid _ _ := default
  rdtsc _ := 0
  tscAux := 0
  portValue _ _ _ := 0
  directoryTableBase := 0

/-- User mode executes a MOV from a debug register. -/
def drExit : ExitState (BitVec 32) Unit where
  toVmmState := { userState 0 bootEpt with
    vmcs := fun
      | .vmExitReason => 29
      | .guestSsArBytes => 0x60
      | .vmExitInstructionLen => 3
      | .guestRip => 0x401000
      | _ => 0 }
  cr8 := 0
  irql := 0
  cpu := ⟨fun _ => 0, 0, 0, 0, fun _ => 0, fun _ => 0⟩
  trace := []

theorem exit_outcome_unique_dr : ∃ s', ExitState.vmmVmExitHandler idleMachine drExit = some s' ∧
    s'.writes .vmEntryIntrInfoField = [0x80000B0D] ∧
    ∃! outcome : ExitOutcome, outcome.Holds drExit s' :=
  ⟨_, rfl, by decide, ExitState.exit_outcome_unique (m := idleMachine) rfl⟩

end DeviceMon
