import DeviceMon.ExitDiscipline

/-!
# MOV to and from debug registers

`MovDr.exec` is the instruction in 64-bit mode : the checks in their order, and the access. The
state it works on (`DebugState`) has the debug registers with DR7 among them. A fault changes
nothing, but #DB reports itself in DR6 and clears DR7.GD.

`VmmpHandleDrAccess` finds DR7, RIP and CR4 in the VMCS, DR0 to DR3 and DR6 in the processor and the
general registers in the saved frame. From there it does what the instruction does, and injects
the fault of the instruction (`drAccess_refines_movDr`).
-/

namespace DeviceMon

/-! ## The instruction -/

/-- The bits `low` to `high`. -/
def bits (low high : ℕ) : BitVec 64 :=
  (BitVec.allOnes 64 >>> (63 - (high - low))) <<< low

/-- The word with some bits set and some cleared. -/
def withBits (ones zeros value : BitVec 64) : BitVec 64 :=
  (value ||| ones) &&& ~~~zeros

/-- What the instruction works on. -/
structure DebugState where
  cpl : BitVec 2
  /-- CR4.DE. -/
  de : Bool
  gpr : BitVec 4 → BitVec 64
  dr : BitVec 3 → BitVec 64
  rip : BitVec 64

/-- The faults of the instruction. -/
inductive DebugFault where
  | generalProtection
  | invalidOpcode
  | debugException
deriving DecidableEq

/-- MOV from or to a debug register. -/
structure MovDr where
  number : BitVec 3
  fromDr : Bool
  gpRegister : BitVec 4
  length : BitVec 64

namespace MovDr

/-- The register that is accessed : DR4 and DR5 are DR6 and DR7. -/
def register (i : MovDr) : BitVec 3 :=
  if i.number = 4 then 6 else if i.number = 5 then 7 else i.number

/-- What a register has after a write : some bits of DR6 and DR7 are fixed. -/
def written (number : BitVec 3) (value : BitVec 64) : BitVec 64 :=
  if number = 6 then withBits (bits 4 11 ||| bits 17 31) (bits 12 12) value
  else if number = 7 then withBits (bits 10 10) (bits 12 12 ||| bits 14 15) value
  else value

/-- #DB for an access : BD is set and B0 to B3 are cleared in DR6, GD is cleared in DR7. -/
def detected (g : DebugState) : DebugState :=
  { g with
    dr := Function.update (Function.update g.dr 6 (withBits (bits 13 13) (bits 0 3) (g.dr 6))) 7
      (withBits 0#64 (bits 13 13) (g.dr 7)) }

/-- The instruction : its fault, if there is one, and the state it leaves. -/
def exec (i : MovDr) (g : DebugState) : Option DebugFault × DebugState :=
  if g.cpl ≠ 0 then (some .generalProtection, g)
  else if (i.number = 4 ∨ i.number = 5) ∧ g.de then (some .invalidOpcode, g)
  else if (g.dr 7).getLsbD 13 then (some .debugException, detected g)
  else if i.fromDr then
    (none, { g with
      gpr := Function.update g.gpr i.gpRegister (g.dr i.register)
      rip := g.rip + i.length })
  else if (i.register = 6 ∨ i.register = 7) ∧ 2 ^ 32 ≤ (g.gpr i.gpRegister).toNat then
    (some .generalProtection, g)
  else
    (none, { g with
      dr := Function.update g.dr i.register (written i.register (g.gpr i.gpRegister))
      rip := g.rip + i.length })

end MovDr

namespace DebugFault

def vector : DebugFault → InterruptionVector
  | generalProtection => .generalProtectionException
  | invalidOpcode => .invalidOpcodeException
  | debugException => .debugException

/-- Whether the fault has an error code; it is 0. -/
def deliverErrorCode : DebugFault → Bool
  | generalProtection => true
  | invalidOpcode => false
  | debugException => false

/-- The interruption information of a fault. -/
def information (fault : DebugFault) : BitVec 64 :=
  (vmEntryInterruptionInformation .hardwareException fault.vector
    fault.deliverErrorCode).setWidth 64

/-- What is injected at the end of an instruction : its fault, or the #DB of a single step. -/
def injected (tf : Bool) : Option DebugFault → List (BitVec 64)
  | none => if tf then [debugException.information] else []
  | some fault => [fault.information]

/-- The error codes that go with it. -/
def errorCodes : Option DebugFault → List (BitVec 64)
  | none => []
  | some fault => if fault.deliverErrorCode then [0] else []

end DebugFault

/-! ## Fixed bits -/

/-- Bits that are set and bits that are cleared : the order does not matter if they differ. -/
theorem or_withBits {ones zeros : BitVec 64} (h : ones &&& zeros = 0#64) (value : BitVec 64) :
    (value &&& ~~~zeros) ||| ones = withBits ones zeros value := by
  refine BitVec.eq_of_getLsbD_eq fun i hi => ?_
  have hbit := congrArg (fun word => BitVec.getLsbD word i) h
  simp only [BitVec.getLsbD_and, BitVec.getLsbD_zero, Bool.and_eq_false_imp] at hbit
  simp only [withBits, BitVec.getLsbD_or, BitVec.getLsbD_and, BitVec.getLsbD_not, hi, decide_true,
    Bool.true_and]
  cases hone : ones.getLsbD i with
  | false => simp
  | true => simp [hbit hone]

theorem dr6_withReserved (value : BitVec 64) :
    Dr6.withReserved value = withBits (bits 4 11 ||| bits 17 31) (bits 12 12) value := by
  have hlow : bits 4 11 = 0xFF0#64 := by decide
  have hhigh : bits 17 31 = 0xFFFE0000#64 := by decide
  have hzeros : bits 12 12 = 0x1000#64 := by decide
  rw [Dr6.withReserved, hlow, hhigh, hzeros]
  refine (or_withBits (by decide) _).trans ?_
  rw [withBits, withBits, ← BitVec.or_assoc]
  rfl

theorem dr7_withReserved (value : BitVec 64) :
    Dr7.withReserved value = withBits (bits 10 10) (bits 12 12 ||| bits 14 15) value := by
  have hones : bits 10 10 = 0x400#64 := by decide
  have hzeros : bits 12 12 ||| bits 14 15 = 0xD000#64 := by decide
  rw [Dr7.withReserved, withBits, hones, hzeros]
  rfl

theorem dr6_debugAccess (dr6 : BitVec 64) :
    Dr6.debugAccess dr6 = withBits (bits 13 13) (bits 0 3) dr6 := by
  have hones : bits 13 13 = 0x2000#64 := by decide
  have hzeros : bits 0 3 = 0xF#64 := by decide
  rw [Dr6.debugAccess, hones, hzeros]
  exact or_withBits (by decide) dr6

theorem dr7_clearGd (dr7 : BitVec 64) : Dr7.clearGd dr7 = withBits 0#64 (bits 13 13) dr7 := by
  have hzeros : bits 13 13 = 0x2000#64 := by decide
  rw [Dr7.clearGd, withBits, hzeros, BitVec.or_zero]

/-- A word has an upper half. -/
theorem ushiftRight_ne_zero_iff (value : BitVec 64) : value >>> 32 ≠ 0 ↔ 2 ^ 32 ≤ value.toNat := by
  have hzero : value >>> 32 = 0 ↔ value.toNat / 2 ^ 32 = 0 := by
    rw [← BitVec.toNat_inj, BitVec.toNat_ushiftRight, Nat.shiftRight_eq_div_pow]
    rfl
  rw [Ne, hzero, Nat.div_eq_zero_iff]
  omega

namespace ExitState

variable {B C : Type} {m : ExitMachine B} {s s' s₁ : ExitState B C}

/-! ## The state in the handler -/

/-- The state of the instruction as the handler finds it. -/
def debugState (s : ExitState B C) : DebugState where
  cpl := vmmpGetGuestCpl s.toVmmState
  de := Cr4.de (s.vmcs .guestCr4)
  gpr := s.gpRegs.select
  dr number := if number = 7 then s.vmcs .guestDr7 else s.cpu.dr number
  rip := s.vmcs .guestRip

/-- The instruction of the exit. -/
def movDr (s : ExitState B C) : MovDr where
  number := MovDrQualification.debuglRegister (s.vmcs .exitQualification)
  fromDr := MovDrQualification.moveFromDr (s.vmcs .exitQualification)
  gpRegister := MovDrQualification.gpRegister (s.vmcs .exitQualification)
  length := s.vmcs .vmExitInstructionLen

theorem debugState_write {f : VmcsField} (value : BitVec 64) (s : ExitState B C)
    (hf : f ∉ [.guestSsArBytes, .guestCr4, .guestDr7, .guestRip]) :
    (utilVmWrite f value s).debugState = s.debugState := by
  simp only [List.mem_cons, List.not_mem_nil, or_false, not_or] at hf
  obtain ⟨hss, hcr4, hdr7, hrip⟩ := hf
  have hkeep : ∀ {field : VmcsField}, f ≠ field →
      (utilVmWrite f value s).vmcs field = s.vmcs field := fun h =>
    Function.update_of_ne (Ne.symm h) _ _
  rw [debugState, debugState, hkeep hcr4, hkeep hdr7, hkeep hrip]
  have hcpl : vmmpGetGuestCpl (utilVmWrite f value s).toVmmState = vmmpGetGuestCpl s.toVmmState :=
    congrArg (fun accessRights : BitVec 64 => dpl (accessRights.setWidth 32)) (hkeep hss)
  rw [hcpl]
  rfl

theorem debugState_writeDr7 (value : BitVec 64) (s : ExitState B C) :
    (utilVmWrite .guestDr7 value s).debugState =
      { s.debugState with dr := Function.update s.debugState.dr 7 value } := by
  have hdr : (fun number : BitVec 3 => if number = 7 then value else s.cpu.dr number) =
      Function.update s.debugState.dr 7 value := by
    funext number
    rw [Function.update_apply, debugState]
    split_ifs with h
    · rfl
    · exact (if_neg h).symm
  rw [← hdr]
  rfl

theorem debugState_writeDr {number : BitVec 3} (h : number ≠ 7) (value : BitVec 64)
    (s : ExitState B C) : (writeDr number value s).debugState =
      { s.debugState with dr := Function.update s.debugState.dr number value } := by
  have hdr : (fun other : BitVec 3 => if other = 7 then s.vmcs .guestDr7 else
      Function.update s.cpu.dr number value other) =
      Function.update s.debugState.dr number value := by
    funext other
    rw [Function.update_apply, Function.update_apply, debugState]
    split_ifs with h7 hother hother
    · exact (h (hother.symm.trans h7)).elim
    · exact (if_pos h7).symm
    · rfl
    · exact (if_neg h7).symm
  rw [← hdr]
  rfl

theorem debugState_setRegister (index : BitVec 4) (value : BitVec 64) (s : ExitState B C) :
    (setRegister index value s).debugState =
      { s.debugState with gpr := Function.update s.debugState.gpr index value } := by
  rw [debugState, setRegister]
  simp only [lift, GpRegisters.select_setSelected]
  rfl

theorem debugState_inject (type : InterruptionType) (vector : InterruptionVector) (b : Bool)
    (code : BitVec 32) (s : ExitState B C) :
    (vmmpInjectInterruption type vector b code s).debugState = s.debugState := by
  unfold vmmpInjectInterruption
  cases b with
  | false => exact debugState_write _ s (by decide)
  | true => exact (debugState_write _ _ (by decide)).trans (debugState_write _ s (by decide))

theorem debugState_adjust (s : ExitState B C) : (vmmpAdjustGuestInstructionPointer s).debugState =
    { s.debugState with rip := s.ip + s.vmcs .vmExitInstructionLen } := by
  have hrip : (utilVmWrite .guestRip (s.ip + s.vmcs .vmExitInstructionLen) s).debugState =
      { s.debugState with rip := s.ip + s.vmcs .vmExitInstructionLen } := rfl
  rw [adjust_eq]
  split_ifs
  · exact ((debugState_write _ _ (by decide)).trans (debugState_write _ _ (by decide))).trans hrip
  · exact hrip

/-! ## What is injected -/

theorem adjust_errorCode (s : ExitState B C) :
    (vmmpAdjustGuestInstructionPointer s).writes .vmEntryExceptionErrorCode =
      s.writes .vmEntryExceptionErrorCode := by
  rw [adjust_eq]
  split_ifs
  · simp [writes_utilVmWrite]
  · simp [writes_utilVmWrite]

/-- `VmmpInjectInterruption` for a fault. -/
def injectFault (fault : DebugFault) (s : ExitState B C) : ExitState B C :=
  vmmpInjectInterruption .hardwareException fault.vector fault.deliverErrorCode 0 s

theorem inject_errorCode (fault : DebugFault) (s : ExitState B C) :
    (injectFault fault s).writes .vmEntryExceptionErrorCode =
      s.writes .vmEntryExceptionErrorCode ++ DebugFault.errorCodes (some fault) := by
  unfold injectFault vmmpInjectInterruption DebugFault.errorCodes
  cases fault with
  | generalProtection => simp [writes_utilVmWrite, DebugFault.deliverErrorCode]
  | invalidOpcode => simp [writes_utilVmWrite, DebugFault.deliverErrorCode]
  | debugException => simp [writes_utilVmWrite, DebugFault.deliverErrorCode]

/-- From `s` the handler ends in `s'` as the instruction ends in `r`. -/
structure EndsAs (s s' : ExitState B C) (r : Option DebugFault × DebugState) : Prop where
  state : s'.debugState = r.2
  injected : s'.writes .vmEntryIntrInfoField =
    s.writes .vmEntryIntrInfoField ++ DebugFault.injected (FlagRegister.tf s.flagReg) r.1
  errorCodes : s'.writes .vmEntryExceptionErrorCode =
    s.writes .vmEntryExceptionErrorCode ++ DebugFault.errorCodes r.1

/-- A state that differs in the registers at most. -/
structure SameEntry (s s₁ : ExitState B C) : Prop where
  injected : s₁.writes .vmEntryIntrInfoField = s.writes .vmEntryIntrInfoField
  errorCodes : s₁.writes .vmEntryExceptionErrorCode = s.writes .vmEntryExceptionErrorCode
  length : s₁.vmcs .vmExitInstructionLen = s.vmcs .vmExitInstructionLen
  ip : s₁.ip = s.ip
  flagReg : s₁.flagReg = s.flagReg

theorem endsAs_fault (fault : DebugFault) (h : SameEntry s s₁) :
    EndsAs s (injectFault fault s₁) (some fault, s₁.debugState) := by
  refine ⟨debugState_inject _ _ _ _ s₁, ?_, ?_⟩
  · rw [injectFault, (inject_spec _ _ _ _ s₁).2.1, h.injected]
    rfl
  · rw [inject_errorCode, h.errorCodes]

theorem endsAs_adjust (h : SameEntry s s₁) : EndsAs s (vmmpAdjustGuestInstructionPointer s₁)
    (none, { s₁.debugState with rip := s.ip + s.vmcs .vmExitInstructionLen }) := by
  refine ⟨?_, ?_, ?_⟩
  · rw [debugState_adjust, h.ip, h.length]
  · rw [(adjust_spec s₁).2.1, h.injected, h.flagReg]
    rfl
  · rw [adjust_errorCode, h.errorCodes]
    exact (List.append_nil _).symm

/-! ## The access -/

theorem sameEntry_writeDr7 (value : BitVec 64) (s : ExitState B C) :
    SameEntry s (utilVmWrite .guestDr7 value s) :=
  ⟨writes_of_ne (by decide) value s, writes_of_ne (by decide) value s,
    (vmcs_utilVmWrite _ _ _ _).trans (if_neg (by decide)), rfl, rfl⟩

theorem SameEntry.of_eq (htrace : s₁.trace = s.trace) (hvmcs : s₁.vmcs = s.vmcs)
    (hip : s₁.ip = s.ip) (hflags : s₁.flagReg = s.flagReg) : SameEntry s s₁ :=
  ⟨by rw [writes, htrace, writes], by rw [writes, htrace, writes], congrFun hvmcs _, hip, hflags⟩

/-- The numbers of the debug registers. -/
theorem debugRegister_cases {number : BitVec 3} (h4 : number ≠ 4) (h5 : number ≠ 5) :
    number = 0 ∨ number = 1 ∨ number = 2 ∨ number = 3 ∨ number = 6 ∨ number = 7 := by
  revert number
  decide

/-- A move to a debug register. -/
theorem moveToDr_spec {number : BitVec 3} (h4 : number ≠ 4) (h5 : number ≠ 5)
    (value : BitVec 64) (s : ExitState B C) :
    (moveToDr number value s).debugState = { s.debugState with
        dr := Function.update s.debugState.dr number (MovDr.written number value) } ∧
      SameEntry s (moveToDr number value s) := by
  rcases debugRegister_cases h4 h5 with rfl | rfl | rfl | rfl | rfl | rfl
  case inr.inr.inr.inr.inl =>
    refine ⟨?_, .of_eq rfl rfl rfl rfl⟩
    exact (debugState_writeDr (by decide) _ s).trans (by rw [dr6_withReserved]; rfl)
  case inr.inr.inr.inr.inr =>
    refine ⟨?_, sameEntry_writeDr7 _ s⟩
    exact (debugState_writeDr7 _ s).trans (by rw [dr7_withReserved]; rfl)
  all_goals exact ⟨debugState_writeDr (by decide) value s, .of_eq rfl rfl rfl rfl⟩

theorem moveFromDr_eq {number : BitVec 3} (h4 : number ≠ 4) (h5 : number ≠ 5)
    (gpRegister : BitVec 4) (s : ExitState B C) :
    moveFromDr number gpRegister s = setRegister gpRegister (s.debugState.dr number) s := by
  rcases debugRegister_cases h4 h5 with rfl | rfl | rfl | rfl | rfl | rfl
  all_goals rfl

/-- A move from a debug register. -/
theorem moveFromDr_spec {number : BitVec 3} (h4 : number ≠ 4) (h5 : number ≠ 5)
    (gpRegister : BitVec 4) (s : ExitState B C) :
    (moveFromDr number gpRegister s).debugState = { s.debugState with
        gpr := Function.update s.debugState.gpr gpRegister (s.debugState.dr number) } ∧
      SameEntry s (moveFromDr number gpRegister s) := by
  rw [moveFromDr_eq h4 h5]
  exact ⟨debugState_setRegister gpRegister _ s, .of_eq rfl rfl rfl rfl⟩

theorem register_ne (i : MovDr) : i.register ≠ 4 ∧ i.register ≠ 5 := by
  unfold MovDr.register
  generalize i.number = number
  revert number
  decide

/-- #DB is injected once DR6 reports it; then GD is cleared. -/
theorem detected_endsAs (s : ExitState B C) :
    EndsAs s (utilVmWrite .guestDr7 (Dr7.clearGd (s.vmcs .guestDr7))
        (injectFault .debugException (writeDr 6 (Dr6.debugAccess (s.cpu.dr 6)) s)))
      (some .debugException, MovDr.detected s.debugState) := by
  have hdr6 : SameEntry s (writeDr 6 (Dr6.debugAccess (s.cpu.dr 6)) s) := .of_eq rfl rfl rfl rfl
  have hfault := endsAs_fault .debugException hdr6
  have hdr7 := sameEntry_writeDr7 (Dr7.clearGd (s.vmcs .guestDr7))
    (injectFault .debugException (writeDr 6 (Dr6.debugAccess (s.cpu.dr 6)) s))
  refine ⟨?_, hdr7.injected.trans hfault.injected, hdr7.errorCodes.trans hfault.errorCodes⟩
  rw [debugState_writeDr7, hfault.state, debugState_writeDr (by decide), dr7_clearGd,
    dr6_debugAccess]
  rfl

theorem accessDr_eq (s : ExitState B C) : accessDr s.movDr.register s =
    if (s.debugState.dr 7).getLsbD 13 then
      utilVmWrite .guestDr7 (Dr7.clearGd (s.vmcs .guestDr7))
        (injectFault .debugException (writeDr 6 (Dr6.debugAccess (s.cpu.dr 6)) s))
    else if s.movDr.fromDr then
      vmmpAdjustGuestInstructionPointer (moveFromDr s.movDr.register s.movDr.gpRegister s)
    else if (s.movDr.register = 6 ∨ s.movDr.register = 7) ∧
        s.debugState.gpr s.movDr.gpRegister >>> 32 ≠ 0 then
      injectFault .generalProtection s
    else vmmpAdjustGuestInstructionPointer
      (moveToDr s.movDr.register (s.debugState.gpr s.movDr.gpRegister) s) :=
  rfl

theorem accessDr_endsAs (hip : s.ip = s.vmcs .guestRip) (hcpl : s.debugState.cpl = 0)
    (hde : ¬((s.movDr.number = 4 ∨ s.movDr.number = 5) ∧ s.debugState.de = true)) :
    EndsAs s (accessDr s.movDr.register s) (s.movDr.exec s.debugState) := by
  obtain ⟨h4, h5⟩ := register_ne s.movDr
  have hrip : s.debugState.rip + s.movDr.length = s.ip + s.vmcs .vmExitInstructionLen := by
    rw [hip]
    rfl
  rw [MovDr.exec, if_neg (not_not.2 hcpl), if_neg hde, accessDr_eq, hrip]
  simp only [ushiftRight_ne_zero_iff]
  split_ifs with hdetect hfrom hbits
  · exact detected_endsAs s
  · obtain ⟨hstate, hsame⟩ := moveFromDr_spec h4 h5 s.movDr.gpRegister s
    have hends := endsAs_adjust hsame
    rwa [hstate] at hends
  · exact endsAs_fault .generalProtection (.of_eq rfl rfl rfl rfl)
  · obtain ⟨hstate, hsame⟩ := moveToDr_spec h4 h5 (s.debugState.gpr s.movDr.gpRegister) s
    have hends := endsAs_adjust hsame
    rwa [hstate] at hends

/-- The checks before the access. -/
theorem drAccess_eq (s : ExitState B C) : vmmpHandleDrAccess s =
    if s.debugState.cpl ≠ 0 then injectFault .generalProtection s
    else if (s.movDr.number = 4 ∨ s.movDr.number = 5) ∧ s.debugState.de = true then
      injectFault .invalidOpcode s
    else accessDr s.movDr.register s := by
  have hcases : vmmpHandleDrAccess s =
      if s.debugState.cpl ≠ 0 then injectFault .generalProtection s
      else if s.movDr.number = 4 ∨ s.movDr.number = 5 then
        if s.debugState.de then injectFault .invalidOpcode s
        else accessDr (if s.movDr.number = 4 then 6 else 7) s
      else accessDr s.movDr.number s :=
    rfl
  rw [hcases, MovDr.register]
  by_cases hcpl : s.debugState.cpl ≠ 0
  · rw [if_pos hcpl, if_pos hcpl]
  rw [if_neg hcpl, if_neg hcpl]
  by_cases halias : s.movDr.number = 4 ∨ s.movDr.number = 5
  · simp only [if_pos halias, and_iff_right halias]
    congr 2
    split_ifs with h4 h5
    · rfl
    · rfl
    · exact (halias.elim h4 h5).elim
  · obtain ⟨h4, h5⟩ := not_or.1 halias
    rw [if_neg halias, if_neg fun hde => halias hde.1, if_neg h4, if_neg h5]

theorem drAccess_endsAs (hip : s.ip = s.vmcs .guestRip) :
    EndsAs s (vmmpHandleDrAccess s) (s.movDr.exec s.debugState) := by
  have hsame : SameEntry s s := .of_eq rfl rfl rfl rfl
  rw [drAccess_eq]
  split_ifs with hcpl hde
  · rw [MovDr.exec, if_pos hcpl]
    exact endsAs_fault .generalProtection hsame
  · rw [MovDr.exec, if_neg hcpl, if_pos hde]
    exact endsAs_fault .invalidOpcode hsame
  · exact accessDr_endsAs hip (not_not.1 hcpl) hde

theorem debugState_restore (s : ExitState B C) :
    s.restoreGuestContext.debugState = s.debugState := by
  rw [debugState, cpu_restoreGuestContext]
  rfl

/-- **MOV DR is emulated as the processor executes it.** At every exit for the instruction the
handler returns, and leaves the debug registers, the saved general registers and RIP as the
instruction does; it injects the fault of the instruction and nothing else, but the #DB of a
single step. -/
theorem drAccess_refines_movDr {B C : Type} (m : ExitMachine B) (s : ExitState B C)
    (h : s.exitReason = some .drAccess) :
    ∃ s', vmmVmExitHandler m s = some s' ∧
      s'.debugState = (s.movDr.exec s.captureGuestContext.debugState).2 ∧
      s'.writes .vmEntryIntrInfoField = DebugFault.injected (FlagRegister.tf (s.vmcs .guestRflags))
        (s.movDr.exec s.captureGuestContext.debugState).1 ∧
      s'.writes .vmEntryExceptionErrorCode =
        DebugFault.errorCodes (s.movDr.exec s.captureGuestContext.debugState).1 := by
  have hexit : vmmVmExitHandler m s =
      some (vmmpHandleDrAccess s.captureGuestContext).restoreGuestContext := by
    have hreason : s.captureGuestContext.exitReason = some .drAccess := h
    rw [vmmVmExitHandler, vmmpHandleVmExit, hreason]
    rfl
  have hends : EndsAs s.captureGuestContext (vmmpHandleDrAccess s.captureGuestContext)
      (s.movDr.exec s.captureGuestContext.debugState) :=
    drAccess_endsAs rfl
  exact ⟨_, hexit, (debugState_restore _).trans hends.state, hends.injected, hends.errorCodes⟩

end ExitState

/-- User mode : #GP(0), and nothing is changed. -/
theorem drAccess_refines_movDr_user :
    ∃ s', ExitState.vmmVmExitHandler idleMachine drExit = some s' ∧
      s'.debugState = drExit.captureGuestContext.debugState ∧
      s'.writes .vmEntryIntrInfoField = [0x80000B0D] ∧
      s'.writes .vmEntryExceptionErrorCode = [0] := by
  obtain ⟨s', hhandled, hstate, hinjected, hcodes⟩ :=
    ExitState.drAccess_refines_movDr idleMachine drExit rfl
  have hexec : drExit.movDr.exec drExit.captureGuestContext.debugState =
      (some .generalProtection, drExit.captureGuestContext.debugState) :=
    if_pos (by decide)
  rw [hexec] at hstate hinjected hcodes
  exact ⟨s', hhandled, hstate, hinjected, hcodes⟩

end DeviceMon
