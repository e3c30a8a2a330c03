import DeviceMon.DrAccess

/-!
# The guest's registers across an exit

At an exit RSP goes to the VMCS, and `AsmVmmEntryPoint` saves the other general registers on the
stack (`pushaq`). The handlers work on this frame; its slot for RSP is a dummy, which
`VmmVmExitHandler` fills with the guest's. Before the next VM entry `popaq` loads the frame but for
the dummy, and RSP comes from the VMCS again (`enteredWith`).

A handler that stores a result through `VmmpSelectRegister` writes the frame only
(`StoresResult`) : a result for RSP stays in the dummy (`registerWrite_reaches_iff`).
-/

namespace DeviceMon

/-! ## The frame -/

/-- Instructions of `PUSHAQ` and `POPAQ`. Registers have the numbers of `VmmpSelectRegister`. -/
inductive FrameInstruction where
  | push (register : BitVec 4)
  | pushImmediate (value : BitVec 64)
  | pop (register : BitVec 4)
  /-- `add rsp, 8`. -/
  | skip
deriving DecidableEq

/-- The general registers of the processor, and the stack with its top first. -/
structure FrameState where
  register : BitVec 4 → BitVec 64
  stack : List (BitVec 64)

namespace FrameState

def step (s : FrameState) : FrameInstruction → FrameState
  | .push register => { s with stack := s.register register :: s.stack }
  | .pushImmediate value => { s with stack := value :: s.stack }
  | .pop register =>
    { s with
      register := Function.update s.register register (s.stack.headD 0)
      stack := s.stack.tail }
  | .skip => { s with stack := s.stack.tail }

def run (instructions : List FrameInstruction) (s : FrameState) : FrameState :=
  instructions.foldl step s

end FrameState

/-- `PUSHAQ`. -/
def pushaq : List FrameInstruction :=
  [.push 0, .push 1, .push 2, .push 3,
    -- dummy for rsp
    .pushImmediate (-1),
    .push 5, .push 6, .push 7, .push 8, .push 9, .push 10, .push 11, .push 12, .push 13,
    .push 14, .push 15]

/-- `POPAQ`. -/
def popaq : List FrameInstruction :=
  [.pop 15, .pop 14, .pop 13, .pop 12, .pop 11, .pop 10, .pop 9, .pop 8, .pop 7, .pop 6, .pop 5,
    -- dummy for rsp
    .skip,
    .pop 3, .pop 2, .pop 1, .pop 0]

namespace GpRegisters

/-- The words of the structure, from its address on. -/
def frame (regs : GpRegisters) : List (BitVec 64) :=
  [regs.r15, regs.r14, regs.r13, regs.r12, regs.r11, regs.r10, regs.r9, regs.r8, regs.di, regs.si,
    regs.bp, regs.sp, regs.bx, regs.dx, regs.cx, regs.ax]

theorem frame_injective : Function.Injective frame := by
  rintro ⟨⟩ ⟨⟩ h
  simpa [frame] using h

/-- What `PUSHAQ` saves. -/
def pushed (register : BitVec 4 → BitVec 64) : GpRegisters where
  r15 := register 15
  r14 := register 14
  r13 := register 13
  r12 := register 12
  r11 := register 11
  r10 := register 10
  r9 := register 9
  r8 := register 8
  di := register 7
  si := register 6
  bp := register 5
  sp := -1
  bx := register 3
  dx := register 2
  cx := register 1
  ax := register 0

end GpRegisters

/-- `PUSHAQ` leaves a `GpRegisters` on the stack. -/
theorem run_pushaq (register : BitVec 4 → BitVec 64) (stack : List (BitVec 64)) :
    FrameState.run pushaq ⟨register, stack⟩ =
      ⟨register, (GpRegisters.pushed register).frame ++ stack⟩ :=
  rfl

/-- `POPAQ` loads it, and leaves RSP alone. -/
theorem run_popaq (regs : GpRegisters) (register : BitVec 4 → BitVec 64)
    (stack : List (BitVec 64)) : FrameState.run popaq ⟨register, regs.frame ++ stack⟩ =
      ⟨Function.update regs.select 4 (register 4), stack⟩ := by
  refine congrArg (FrameState.mk · stack) (funext fun index => ?_)
  obtain ⟨⟨i, hi⟩⟩ := index
  interval_cases i <;> rfl

namespace ExitState

variable {B C : Type} {m : ExitMachine B} {s s' : ExitState B C}
  {register : BitVec 4 → BitVec 64} {index : BitVec 4} {value : BitVec 64}

/-! ## Exit and entry -/

/-- The exit of a guest with these general registers. -/
structure ExitsWith (register : BitVec 4 → BitVec 64) (s : ExitState B C) : Prop where
  frame : s.gpRegs.frame = (FrameState.run pushaq ⟨register, []⟩).stack
  rsp : s.vmcs .guestRsp = register 4

/-- The guest's general registers after the VM entry from `s`, when the processor has `register`
before `POPAQ`. -/
def enteredWith (register : BitVec 4 → BitVec 64) (s : ExitState B C) : BitVec 4 → BitVec 64 :=
  Function.update (FrameState.run popaq ⟨register, s.gpRegs.frame⟩).register 4 (s.vmcs .guestRsp)

/-- The handlers find the guest's registers in the frame. -/
theorem ExitsWith.select (h : ExitsWith register s) :
    s.captureGuestContext.gpRegs.select = register := by
  have hframe : s.gpRegs.frame = (GpRegisters.pushed register).frame := by
    rw [h.frame, run_pushaq, List.append_nil]
  have hregs : s.captureGuestContext.gpRegs =
      { GpRegisters.pushed register with sp := register 4 } := by
    rw [← GpRegisters.frame_injective hframe, ← h.rsp]
    rfl
  rw [hregs]
  funext index
  obtain ⟨⟨i, hi⟩⟩ := index
  interval_cases i <;> rfl

theorem enteredWith_eq (register : BitVec 4 → BitVec 64) (s : ExitState B C) :
    enteredWith register s = Function.update s.gpRegs.select 4 (s.vmcs .guestRsp) := by
  have hpop := run_popaq s.gpRegs register []
  rw [List.append_nil] at hpop
  rw [enteredWith, hpop, Function.update_idem]

/-! ## Results -/

/-- The exits whose handler stores a result in the register it selects : a MOV from a debug register
that does not fault, and a MOV from CR3 or CR8. -/
inductive StoresResult (s : ExitState B C) : BitVec 4 → BitVec 64 → Prop where
  | moveFromDr (reason : s.exitReason = some .drAccess) (fromDr : s.movDr.fromDr = true)
      (transfers : (s.movDr.exec s.captureGuestContext.debugState).1 = none) :
      StoresResult s s.movDr.gpRegister (s.captureGuestContext.debugState.dr s.movDr.register)
  | moveFromCr3 (reason : s.exitReason = some .crAccess)
      (access : MovCrQualification.accessType (s.vmcs .exitQualification) = 1)
      (number : MovCrQualification.controlRegister (s.vmcs .exitQualification) = 3) :
      StoresResult s (MovCrQualification.gpRegister (s.vmcs .exitQualification)) (s.vmcs .guestCr3)
  | moveFromCr8 (reason : s.exitReason = some .crAccess)
      (access : MovCrQualification.accessType (s.vmcs .exitQualification) = 1)
      (number : MovCrQualification.controlRegister (s.vmcs .exitQualification) = 8) :
      StoresResult s (MovCrQualification.gpRegister (s.vmcs .exitQualification)) s.cpu.cr8

/-- An instruction without a fault passes the checks. -/
theorem exec_eq_none {i : MovDr} {g : DebugState} (h : (i.exec g).1 = none) :
    g.cpl = 0 ∧ ¬((i.number = 4 ∨ i.number = 5) ∧ g.de = true) ∧
      ¬(g.dr 7).getLsbD 13 = true := by
  unfold MovDr.exec at h
  split_ifs at h with hcpl hde hgd
  all_goals exact ⟨not_not.1 hcpl, hde, hgd⟩

/-- A MOV from a debug register that does not fault. -/
theorem drAccess_transfers (hfrom : s.movDr.fromDr = true)
    (htransfers : (s.movDr.exec s.debugState).1 = none) :
    vmmpHandleDrAccess s = vmmpAdjustGuestInstructionPointer
      (setRegister s.movDr.gpRegister (s.debugState.dr s.movDr.register) s) := by
  obtain ⟨hcpl, hde, hgd⟩ := exec_eq_none htransfers
  obtain ⟨h4, h5⟩ := register_ne s.movDr
  rw [drAccess_eq, if_neg (not_not.2 hcpl), if_neg hde, accessDr_eq, if_neg hgd, if_pos hfrom,
    moveFromDr_eq h4 h5]

/-- A handler that stores a value and advances the guest. -/
theorem stored_of_handler (h : vmmpHandleVmExit m s.captureGuestContext =
    some (vmmpAdjustGuestInstructionPointer (setRegister index value s.captureGuestContext))) :
    ∃ s', vmmVmExitHandler m s = some s' ∧
      s'.gpRegs = s.captureGuestContext.gpRegs.setSelected index value ∧
      s'.vmcs .guestRsp = s.vmcs .guestRsp :=
  ⟨_, congrArg (Option.map restoreGuestContext) h, gpRegs_adjust _, vmcs_adjust (by decide) _⟩

/-- The result is stored in the frame, and RSP in the VMCS stays. -/
theorem StoresResult.stored (h : StoresResult s index value) :
    ∃ s', vmmVmExitHandler m s = some s' ∧
      s'.gpRegs = s.captureGuestContext.gpRegs.setSelected index value ∧
      s'.vmcs .guestRsp = s.vmcs .guestRsp := by
  refine stored_of_handler ?_
  cases h with
  | moveFromDr reason fromDr transfers =>
    have hreason : s.captureGuestContext.exitReason = some .drAccess := reason
    rw [vmmpHandleVmExit, hreason]
    exact congrArg some (drAccess_transfers fromDr transfers)
  | moveFromCr3 reason access number =>
    have hreason : s.captureGuestContext.exitReason = some .crAccess := reason
    have hvmcs : s.captureGuestContext.vmcs = s.vmcs := rfl
    rw [vmmpHandleVmExit, hreason]
    simp only [vmmpHandleCrAccess, utilVmRead, hvmcs, access, number]
    rfl
  | moveFromCr8 reason access number =>
    have hreason : s.captureGuestContext.exitReason = some .crAccess := reason
    have hvmcs : s.captureGuestContext.vmcs = s.vmcs := rfl
    rw [vmmpHandleVmExit, hreason]
    simp only [vmmpHandleCrAccess, utilVmRead, hvmcs, access, number]
    rfl

/-- **When a result reaches the guest.** After the next VM entry the selected register has the
result and the others are as they were, exactly if the register is not RSP, or RSP had that
value. -/
theorem registerWrite_reaches_iff {B C : Type} (m : ExitMachine B) (s : ExitState B C)
    (guest : BitVec 4 → BitVec 64) (hexit : ExitsWith guest s) {index : BitVec 4}
    {value : BitVec 64} (hresult : StoresResult s index value) :
    ∃ s', vmmVmExitHandler m s = some s' ∧ ∀ register : BitVec 4 → BitVec 64,
      (enteredWith register s' index = value ∧
          ∀ other, other ≠ index → enteredWith register s' other = guest other) ↔
        index ≠ 4 ∨ value = guest 4 := by
  obtain ⟨s', hhandled, hregs, hrsp⟩ := hresult.stored (m := m)
  refine ⟨s', hhandled, fun register => ?_⟩
  rw [enteredWith_eq, hregs, GpRegisters.select_setSelected, hexit.select, hrsp, hexit.rsp]
  by_cases hindex : index = 4
  · subst hindex
    rw [Function.update_self, Function.update_idem, Function.update_eq_self]
    simp [eq_comm]
  · refine iff_of_true ⟨?_, fun other hother => ?_⟩ (Or.inl hindex)
    · rw [Function.update_of_ne hindex, Function.update_self]
    · by_cases h4 : other = 4
      · rw [h4, Function.update_self]
      · rw [Function.update_of_ne h4, Function.update_of_ne hother]

end ExitState

/-- Registers of a guest. -/
def someRegisters (register : BitVec 4) : BitVec 64 :=
  register.setWidth 64 <<< 12

/-- The guest reads CR3 into a register. -/
def cr3Read (gpRegister : BitVec 64) : ExitState (BitVec 32) Unit where
  toVmmState := { userState 0 bootEpt with
    gpRegs := .pushed someRegisters
    vmcs := fun
      | .vmExitReason => 28
      | .exitQualification => 0x13 ||| gpRegister <<< 8
      | .vmExitInstructionLen => 3
      | .guestRip => 0x401000
      | .guestRsp => 0x4000
      | .guestCr3 => 0x1AB000
      | _ => 0 }
  cr8 := 0
  irql := 0
  cpu := ⟨fun _ => 0, 0, 0, 0, fun _ => 0, fun _ => 0⟩
  trace := []

theorem exitsWith_cr3Read (gpRegister : BitVec 64) :
    (cr3Read gpRegister).ExitsWith someRegisters :=
  ⟨rfl, rfl⟩

/-- A read of CR3 into RBX. -/
theorem registerWrite_reaches_iff_rbx :
    ∃ s', ExitState.vmmVmExitHandler idleMachine (cr3Read 3) = some s' ∧
      ExitState.enteredWith (fun _ => 0) s' 3 = 0x1AB000 := by
  obtain ⟨s', hhandled, hreach⟩ := ExitState.registerWrite_reaches_iff idleMachine (cr3Read 3)
    someRegisters (exitsWith_cr3Read 3)
    (ExitState.StoresResult.moveFromCr3 (by decide) (by decide) (by decide))
  exact ⟨s', hhandled, ((hreach fun _ => 0).2 (Or.inl (by decide))).1⟩

/-- A read of CR3 into RSP is lost. -/
theorem rspWrite_lost : ¬∀ (m : ExitMachine (BitVec 32)) (s : ExitState (BitVec 32) Unit)
    (guest : BitVec 4 → BitVec 64) (index : BitVec 4) (value : BitVec 64),
    s.ExitsWith guest → s.StoresResult index value →
      ∃ s', ExitState.vmmVmExitHandler m s = some s' ∧ ∀ register : BitVec 4 → BitVec 64,
        ExitState.enteredWith register s' index = value ∧
          ∀ other, other ≠ index → ExitState.enteredWith register s' other = guest other := by
  intro hall
  have hresult : (cr3Read 4).StoresResult 4 0x1AB000 :=
    ExitState.StoresResult.moveFromCr3 (s := cr3Read 4) (by decide) (by decide) (by decide)
  obtain ⟨s', hhandled, hreach⟩ :=
    hall idleMachine (cr3Read 4) someRegisters _ _ (exitsWith_cr3Read 4) hresult
  obtain ⟨s'', hhandled', -, hrsp⟩ := hresult.stored (m := idleMachine)
  obtain rfl := Option.some.inj (hhandled.symm.trans hhandled')
  have hvalue := (hreach fun _ => 0).1
  rw [ExitState.enteredWith_eq, Function.update_self, hrsp] at hvalue
  exact absurd hvalue (by decide)

end DeviceMon
