import DeviceMon.ExitDiscipline
import DeviceMon.VmcsSetup

/-!
# RDMSR and WRMSR

`VmmpHandleMsrAccess` moves a value between an MSR and RDX:RAX; for six of the MSRs the VMCS has the
guest's value (`msrValue`). The value goes through a `LARGE_INTEGER`, whose high part is signed :
RDMSR extends the sign into the upper half of RDX. The field of IA32_SYSENTER_CS has 32 bits, and
WRMSR hands it the whole value.

`msrAccess_exact_iff` says for which values the emulation is exact.
-/

namespace DeviceMon

/-- EDX:EAX. -/
def GpRegisters.edxEax (regs : GpRegisters) : BitVec 64 :=
  regs.dx.setWidth 32 ++ regs.ax.setWidth 32

/-- The registers after the RDMSR of a value, as the processor executes it. -/
def GpRegisters.Reads (value : BitVec 64) (regs : GpRegisters) : Prop :=
  regs.ax.toNat = value.toNat % 2 ^ 32 ∧ regs.dx.toNat = value.toNat / 2 ^ 32

/-- The registers after the handler returns a value. -/
def GpRegisters.returned (value : BitVec 64) (regs : GpRegisters) : GpRegisters :=
  { regs with
    ax := (value.setWidth 32).setWidth 64
    dx := (value.extractLsb' 32 32).signExtend 64 }

theorem msb_high (value : BitVec 64) : (value.extractLsb' 32 32).msb = value.msb := by
  rw [BitVec.msb_eq_getLsbD_last, BitVec.msb_eq_getLsbD_last, BitVec.getLsbD_extractLsb']
  rfl

/-- A returned value is read exactly unless its sign is extended. -/
theorem reads_returned_iff (value read : BitVec 64) (regs : GpRegisters) :
    (regs.returned value).Reads read ↔ value = read ∧ read.msb = false := by
  have hax : (regs.returned value).ax.toNat = value.toNat % 2 ^ 32 := by
    rw [GpRegisters.returned, BitVec.toNat_setWidth, BitVec.toNat_setWidth]
    omega
  have hdx : (regs.returned value).dx.toNat =
      value.toNat / 2 ^ 32 + if value.msb then 2 ^ 64 - 2 ^ 32 else 0 := by
    rw [GpRegisters.returned, BitVec.toNat_signExtend, msb_high, BitVec.toNat_setWidth, toNat_high]
    omega
  rw [GpRegisters.Reads, hax, hdx, ← BitVec.toNat_inj]
  constructor
  · rintro ⟨hlow, hhigh⟩
    cases hmsb : value.msb with
    | true =>
      rw [hmsb, if_pos rfl] at hhigh
      omega
    | false =>
      rw [hmsb, if_neg Bool.false_ne_true] at hhigh
      have hvalue : value.toNat = read.toNat := by omega
      exact ⟨hvalue, BitVec.toNat_inj.1 hvalue ▸ hmsb⟩
  · rintro ⟨hvalue, hmsb⟩
    obtain rfl := BitVec.toNat_inj.1 hvalue
    rw [hmsb, if_neg Bool.false_ne_true]
    exact ⟨rfl, rfl⟩

theorem msb_edxEax (regs : GpRegisters) : regs.edxEax.msb = (regs.dx.setWidth 32).msb := by
  rw [GpRegisters.edxEax, BitVec.msb_append]
  rfl

theorem toNat_edxEax (regs : GpRegisters) : regs.edxEax.toNat =
    (regs.dx.setWidth 32).toNat * 2 ^ 32 + (regs.ax.setWidth 32).toNat := by
  rw [GpRegisters.edxEax, BitVec.toNat_append, ← Nat.shiftLeft_add_eq_or_of_lt (BitVec.isLt _),
    Nat.shiftLeft_eq]

/-- A 32-bit field keeps a value that has no upper half. -/
theorem held_edxEax_iff {field : VmcsField} (h : field.width = 32) (regs : GpRegisters) :
    field.held regs.edxEax = regs.edxEax ↔ regs.dx.setWidth 32 = 0 := by
  have hlow := (regs.ax.setWidth 32).isLt
  rw [VmcsField.held, h, if_neg (by decide), ← BitVec.toNat_inj, ← BitVec.toNat_inj,
    BitVec.toNat_setWidth, BitVec.toNat_setWidth, toNat_edxEax]
  have hzero : (0 : BitVec 32).toNat = 0 := rfl
  rw [hzero]
  omega

namespace ExitState

variable {B C : Type} {m : ExitMachine B} {s s' : ExitState B C}

/-- The MSR an exit is for. -/
def msrIndex (s : ExitState B C) : BitVec 32 :=
  s.gpRegs.cx.setWidth 32

/-- The guest's value of an MSR. -/
def msrValue (msr : BitVec 32) (s : ExitState B C) : BitVec 64 :=
  match msrVmcsField msr with
  | some field => s.vmcs field
  | none => s.cpu.msr msr

/-- The fields MSRs are kept in have 64 bits, but for that of IA32_SYSENTER_CS. -/
theorem msrVmcsField_width {msr : BitVec 32} {field : VmcsField}
    (h : msrVmcsField msr = some field) : msr = Msr.kIa32SysenterCs ∧ field.width = 32 ∨
      msr ≠ Msr.kIa32SysenterCs ∧ field.width = 64 := by
  unfold msrVmcsField at h
  split at h
  case h_1 hmsr =>
    cases h
    exact Or.inl ⟨BitVec.eq_of_toNat_eq hmsr, rfl⟩
  case h_7 => cases h
  all_goals
    rename_i hmsr
    cases h
    refine Or.inr ⟨fun heq => ?_, rfl⟩
    rw [heq] at hmsr
    exact absurd hmsr (by decide)

/-- Advancing the guest leaves them alone. -/
theorem msrVmcsField_not_adjusted {msr : BitVec 32} {field : VmcsField}
    (h : msrVmcsField msr = some field) :
    field ∉ [.guestRip, .vmEntryIntrInfoField, .vmEntryInstructionLen] := by
  unfold msrVmcsField at h
  split at h <;> cases h <;> decide

/-- RDMSR returns the guest's value. -/
theorem gpRegs_readAccess (s : ExitState B C) :
    (vmmpHandleMsrAccess true s).gpRegs = s.gpRegs.returned (s.msrValue s.msrIndex) := by
  unfold vmmpHandleMsrAccess msrValue
  simp only [if_true, gpRegs_adjust]
  cases hfield : msrVmcsField s.msrIndex with
  | some field =>
    rw [msrIndex] at hfield
    rw [hfield]
    rfl
  | none =>
    rw [msrIndex] at hfield
    rw [hfield]
    rfl

/-- WRMSR stores EDX:EAX, as far as it is stored. -/
theorem msrValue_writeAccess (s : ExitState B C) :
    (vmmpHandleMsrAccess false s).msrValue s.msrIndex =
      match msrVmcsField s.msrIndex with
      | some field => field.held s.gpRegs.edxEax
      | none => s.gpRegs.edxEax := by
  unfold vmmpHandleMsrAccess msrValue
  simp only [Bool.false_eq_true, if_false]
  cases hfield : msrVmcsField s.msrIndex with
  | some field =>
    rw [msrIndex] at hfield
    simp only [hfield]
    rw [vmcs_adjust (msrVmcsField_not_adjusted hfield), vmcs_utilVmWrite, if_pos rfl]
    rfl
  | none =>
    rw [msrIndex] at hfield
    simp only [hfield, cpu_adjust]
    exact Function.update_self _ _ _

theorem msrValue_writeAccess_iff (s : ExitState B C) :
    (vmmpHandleMsrAccess false s).msrValue s.msrIndex = s.gpRegs.edxEax ↔
      s.msrIndex ≠ Msr.kIa32SysenterCs ∨ s.gpRegs.dx.setWidth 32 = 0 := by
  rw [msrValue_writeAccess]
  cases hfield : msrVmcsField s.msrIndex with
  | some field =>
    rcases msrVmcsField_width hfield with ⟨hmsr, hwidth⟩ | ⟨hmsr, hwidth⟩
    · exact (held_edxEax_iff hwidth s.gpRegs).trans
        ⟨Or.inr, fun h => h.resolve_left fun hne => hne hmsr⟩
    · exact iff_of_true (VmcsField.held_of_width_64 hwidth _) (Or.inl hmsr)
  | none =>
    refine iff_of_true rfl (Or.inl fun hmsr => ?_)
    rw [hmsr] at hfield
    cases hfield

/-! ## Exits -/

/-- Restoring the guest's context keeps all MSRs. -/
theorem msrValue_restore (msr : BitVec 32) (s : ExitState B C) :
    s.restoreGuestContext.msrValue msr = s.msrValue msr := by
  rw [msrValue, msrValue, cpu_restoreGuestContext]
  rfl

theorem msrRead_handler (m : ExitMachine B) (h : s.exitReason = some .msrRead) :
    vmmVmExitHandler m s =
      some (vmmpHandleMsrAccess true s.captureGuestContext).restoreGuestContext := by
  have hreason : s.captureGuestContext.exitReason = some .msrRead := h
  rw [vmmVmExitHandler, vmmpHandleVmExit, hreason]
  rfl

theorem msrWrite_handler (m : ExitMachine B) (h : s.exitReason = some .msrWrite) :
    vmmVmExitHandler m s =
      some (vmmpHandleMsrAccess false s.captureGuestContext).restoreGuestContext := by
  have hreason : s.captureGuestContext.exitReason = some .msrWrite := h
  rw [vmmVmExitHandler, vmmpHandleVmExit, hreason]
  rfl

/-- A RDMSR returns the guest's value of the MSR. -/
theorem msrRead_exit (m : ExitMachine B) (h : s.exitReason = some .msrRead) :
    ∃ s', vmmVmExitHandler m s = some s' ∧ ∃ regs : GpRegisters,
      s'.gpRegs = regs.returned (s.msrValue s.msrIndex) :=
  ⟨_, msrRead_handler m h, _, gpRegs_readAccess s.captureGuestContext⟩

/-- A WRMSR stores EDX:EAX, unless its upper half is lost. -/
theorem msrWrite_exit (m : ExitMachine B) (h : s.exitReason = some .msrWrite) :
    ∃ s', vmmVmExitHandler m s = some s' ∧
      (s'.msrValue s.msrIndex = s.gpRegs.edxEax ↔
        s.msrIndex ≠ Msr.kIa32SysenterCs ∨ s.gpRegs.dx.setWidth 32 = 0) := by
  refine ⟨_, msrWrite_handler m h, ?_⟩
  rw [msrValue_restore]
  exact msrValue_writeAccess_iff s.captureGuestContext

/-- **When RDMSR and WRMSR are exact.** RDMSR is, exactly for values without the top bit. WRMSR is,
exactly when the MSR is not IA32_SYSENTER_CS or EDX is zero. A RDMSR of a written MSR returns what
was written exactly when both hold. -/
theorem msrAccess_exact_iff {B C : Type} (m : ExitMachine B) (s : ExitState B C) :
    (s.exitReason = some .msrRead → ∃ s', vmmVmExitHandler m s = some s' ∧
      (s'.gpRegs.Reads (s.msrValue s.msrIndex) ↔ (s.msrValue s.msrIndex).msb = false)) ∧
    (s.exitReason = some .msrWrite → ∃ s', vmmVmExitHandler m s = some s' ∧
      (s'.msrValue s.msrIndex = s.gpRegs.edxEax ↔
        s.msrIndex ≠ Msr.kIa32SysenterCs ∨ s.gpRegs.dx.setWidth 32 = 0) ∧
      ∀ s₁ : ExitState B C, s₁.exitReason = some .msrRead → s₁.msrIndex = s.msrIndex →
        s₁.msrValue s.msrIndex = s'.msrValue s.msrIndex →
        ∃ s₁', vmmVmExitHandler m s₁ = some s₁' ∧ (s₁'.gpRegs.Reads s.gpRegs.edxEax ↔
          (s.gpRegs.dx.setWidth 32).msb = false ∧
            (s.msrIndex ≠ Msr.kIa32SysenterCs ∨ s.gpRegs.dx.setWidth 32 = 0))) := by
  refine ⟨fun hread => ?_, fun hwrite => ?_⟩
  · obtain ⟨s', hexit, regs, hregs⟩ := msrRead_exit m hread
    refine ⟨s', hexit, ?_⟩
    rw [hregs, reads_returned_iff]
    exact and_iff_right rfl
  · obtain ⟨s', hexit, hstored⟩ := msrWrite_exit m hwrite
    refine ⟨s', hexit, hstored, fun s₁ hread hindex hvalue => ?_⟩
    obtain ⟨s₁', hexit₁, regs, hregs⟩ := msrRead_exit m hread
    refine ⟨s₁', hexit₁, ?_⟩
    rw [hregs, hindex, hvalue, reads_returned_iff, hstored, msb_edxEax]
    exact and_comm

end ExitState

/-- The guest accesses IA32_LSTAR, which has the address of a kernel. -/
def lstarExit (reason : BitVec 64) : ExitState (BitVec 32) Unit where
  toVmmState := { userState 0xC0000082 bootEpt with
    vmcs := fun
      | .vmExitReason => reason
      | .vmExitInstructionLen => 2
      | .guestRip => 0x401000
      | _ => 0 }
  cr8 := 0
  irql := 0
  cpu := ⟨fun _ => 0, 0, 0, 0, fun _ => 0xFFFFF80000001000, fun _ => 0⟩
  trace := []

/-- A WRMSR of zero. -/
theorem msrAccess_exact_iff_lstar :
    ∃ s', ExitState.vmmVmExitHandler idleMachine (lstarExit 32) = some s' ∧
      s'.msrValue 0xC0000082 = 0 := by
  obtain ⟨s', hhandled, hstored, -⟩ :=
    (ExitState.msrAccess_exact_iff idleMachine (lstarExit 32)).2 rfl
  exact ⟨s', hhandled, hstored.2 (Or.inl (by decide))⟩

/-- A RDMSR leaves ones in the upper half of RDX. -/
theorem lstarRead_extends : ¬∀ (m : ExitMachine (BitVec 32)) (s : ExitState (BitVec 32) Unit),
    s.exitReason = some .msrRead → ∃ s', ExitState.vmmVmExitHandler m s = some s' ∧
      s'.gpRegs.Reads (s.msrValue s.msrIndex) := by
  intro hall
  obtain ⟨s', hhandled, hreads⟩ := hall idleMachine (lstarExit 31) rfl
  obtain ⟨s'', hhandled', regs, hregs⟩ :=
    ExitState.msrRead_exit (s := lstarExit 31) idleMachine rfl
  obtain rfl := Option.some.inj (hhandled.symm.trans hhandled')
  rw [hregs, reads_returned_iff] at hreads
  exact absurd hreads.2 (by decide)

end DeviceMon
