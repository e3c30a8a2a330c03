import DeviceMon.Bitmap
import DeviceMon.MsrAccess

/-!
# The MSR bitmap

`VmpBuildMsrBitmap` makes every RDMSR exit and then clears the bits of some MSRs : of those below
0x1000 whose read raises #GP, as it finds by reading them, and of four more. An MSR that is in
neither range of the bitmap exits in any case (`rdmsrExits`).

At the exit `VmmpHandleMsrAccess` reads the MSR itself, unless the VMCS has it. So the VMM reads an
MSR that raises #GP when the guest does, unless it is below 0x1000 or one of three others
(`rdmsr_safe_iff`).
-/

namespace DeviceMon

/-! ## The bitmap -/

/-- `RtlFillMemory`. -/
def rtlFillMemory (destination length : ℕ) (fill : BitVec 8) (memory : ℕ → BitVec 8) :
    ℕ → BitVec 8 :=
  fillBytes memory destination length fill

/-- `RtlClearBits` on a bitmap that starts at the byte `buffer`. -/
def rtlClearBits (buffer startingIndex numberToClear : ℕ) (memory : ℕ → BitVec 8) :
    ℕ → BitVec 8 :=
  clearBits memory (8 * buffer + startingIndex) numberToClear

/-- Ignores the MSRs below `count` that cause #GP. -/
def ignoreFaulting (raisesGp : BitVec 32 → Bool) (memory : ℕ → BitVec 8) : ℕ → ℕ → BitVec 8
  | 0 => memory
  | msr + 1 =>
    let memory := ignoreFaulting raisesGp memory msr
    if raisesGp (BitVec.ofNat 32 msr) then rtlClearBits 0 msr 1 memory else memory

/-- `VmpBuildMsrBitmap`, with the page that is allocated. -/
def vmpBuildMsrBitmap (raisesGp : BitVec 32 → Bool) (msrBitmap : Option (ℕ → BitVec 8)) :
    Option (ℕ → BitVec 8) :=
  msrBitmap.map fun msrBitmap =>
    let msrBitmap := rtlFillMemory 0 4096 0 msrBitmap
    -- Activate VM-exit for RDMSR against all MSRs
    let msrBitmap := rtlFillMemory 0 1024 0xff msrBitmap
    let msrBitmap := rtlFillMemory 1024 1024 0xff msrBitmap
    -- Ignore IA32_MPERF (000000e7) and IA32_APERF (000000e8)
    let msrBitmap := rtlClearBits 0 0xe7 2 msrBitmap
    -- Checks MSRs that cause #GP from 0 to 0xfff, and ignore all of them
    let msrBitmap := ignoreFaulting raisesGp msrBitmap 0x1000
    -- Ignore IA32_GS_BASE (c0000101) and IA32_KERNEL_GS_BASE (c0000102)
    rtlClearBits 1024 0x101 2 msrBitmap

/-- Whether a RDMSR exits under a bitmap. -/
def rdmsrExits (msrBitmap : ℕ → BitVec 8) (msr : BitVec 32) : Bool :=
  if msr.toNat < 0x2000 then bitAt msrBitmap msr.toNat
  else if 0xC0000000 ≤ msr.toNat ∧ msr.toNat < 0xC0002000 then
    bitAt msrBitmap (8 * 1024 + (msr.toNat - 0xC0000000))
  else true

/-! ## Which MSRs exit -/

section Exits

variable {raisesGp : BitVec 32 → Bool} {memory : ℕ → BitVec 8}

/-- One step of the loop ignores one MSR. -/
theorem bitAt_ignoreFaulting_succ (count k : ℕ) :
    bitAt (ignoreFaulting raisesGp memory (count + 1)) k =
      (bitAt (ignoreFaulting raisesGp memory count) k &&
        !(decide (k = count) && raisesGp (BitVec.ofNat 32 k))) := by
  have hcleared : (8 * 0 + count ≤ k ∧ k < 8 * 0 + count + 1) ↔ k = count := by omega
  rw [ignoreFaulting]
  split_ifs with hgp
  · simp only [rtlClearBits, bitAt_clearBits, hcleared]
    by_cases hk : k = count
    · simp [hk, hgp]
    · simp [hk]
  · by_cases hk : k = count
    · simp [hk, hgp]
    · simp [hk]

theorem bitAt_ignoreFaulting (count k : ℕ) : bitAt (ignoreFaulting raisesGp memory count) k =
    (bitAt memory k && !(decide (k < count) && raisesGp (BitVec.ofNat 32 k))) := by
  induction count with
  | zero => simp [ignoreFaulting]
  | succ count ih =>
    have hlt : k < count + 1 ↔ k < count ∨ k = count := by omega
    rw [bitAt_ignoreFaulting_succ, ih, Bool.and_assoc, ← Bool.not_or, ← Bool.and_or_distrib_right,
      ← Bool.decide_or, decide_eq_decide.2 hlt]

/-- The bits for reads. -/
theorem bitAt_msrBitmap {k : ℕ} (hk : k < 8 * 2048) {msrBitmap : ℕ → BitVec 8}
    (h : vmpBuildMsrBitmap raisesGp (some memory) = some msrBitmap) : bitAt msrBitmap k = true ↔
      ¬(k = 0xE7 ∨ k = 0xE8 ∨ k < 0x1000 ∧ raisesGp (BitVec.ofNat 32 k) = true ∨
        k = 8 * 1024 + 0x101 ∨ k = 8 * 1024 + 0x102) := by
  have hfill : bitAt (rtlFillMemory 1024 1024 0xff (rtlFillMemory 0 1024 0xff
      (rtlFillMemory 0 4096 0 memory))) k = true := by
    have hones : ∀ i < 8, (0xff : BitVec 8).getLsbD i = true := by decide
    simp only [rtlFillMemory, bitAt_fillBytes]
    rw [hones _ (Nat.mod_lt _ (by decide))]
    split_ifs with hhigh hlow
    · rfl
    · rfl
    · omega
    · omega
  obtain rfl := Option.some.inj h
  simp only [rtlClearBits, bitAt_clearBits, bitAt_ignoreFaulting, hfill, Bool.true_and,
    Bool.and_eq_true, Bool.not_eq_true', Bool.and_eq_false_imp, decide_eq_false_iff_not,
    decide_eq_true_eq]
  cases hgp : raisesGp (BitVec.ofNat 32 k) with
  | false =>
    simp only [Bool.false_eq_true, and_false, false_or, implies_true, and_true]
    omega
  | true =>
    simp only [and_true, Bool.true_eq_false, imp_false]
    omega

/-- The MSRs whose RDMSR does not exit. -/
theorem rdmsrExits_iff {msrBitmap : ℕ → BitVec 8}
    (h : vmpBuildMsrBitmap raisesGp (some memory) = some msrBitmap) (msr : BitVec 32) :
    rdmsrExits msrBitmap msr = true ↔
      ¬(msr.toNat = 0xE7 ∨ msr.toNat = 0xE8 ∨ msr.toNat < 0x1000 ∧ raisesGp msr = true ∨
        msr.toNat = 0xC0000101 ∨ msr.toNat = 0xC0000102) := by
  rw [rdmsrExits]
  split_ifs with hlow hhigh
  · rw [bitAt_msrBitmap (by omega) h, BitVec.ofNat_toNat, BitVec.setWidth_eq]
    cases raisesGp msr with
    | false => simp; omega
    | true => simp; omega
  · rw [bitAt_msrBitmap (by omega) h]
    cases raisesGp msr with
    | false => simp; omega
    | true => simp; omega
  · simp; omega

end Exits

namespace ExitState

variable {B C : Type} {m : ExitMachine B} {s s' : ExitState B C}

/-! ## Reads in root mode -/

/-- A write of the VMCS reads no MSR. -/
@[simp] theorem readMsr_mem_utilVmWrite (msr : BitVec 32) (f : VmcsField) (value : BitVec 64)
    (s : ExitState B C) :
    .readMsr msr ∈ (utilVmWrite f value s).trace ↔ .readMsr msr ∈ s.trace := by
  rw [utilVmWrite, log, List.mem_append]
  simp [lift]

@[simp] theorem readMsr_mem_adjust (msr : BitVec 32) (s : ExitState B C) :
    .readMsr msr ∈ (vmmpAdjustGuestInstructionPointer s).trace ↔ .readMsr msr ∈ s.trace := by
  rw [adjust_eq]
  split_ifs
  · simp
  · simp

/-- The handler reads the MSR of the exit, if the VMCS does not have it. -/
theorem readMsr_mem_readAccess (msr : BitVec 32) (s : ExitState B C) :
    .readMsr msr ∈ (vmmpHandleMsrAccess true s).trace ↔
      .readMsr msr ∈ s.trace ∨ msrVmcsField s.msrIndex = none ∧ msr = s.msrIndex := by
  unfold vmmpHandleMsrAccess
  simp only [if_true, readMsr_mem_adjust]
  cases hfield : msrVmcsField s.msrIndex with
  | some field =>
    rw [msrIndex] at hfield
    rw [hfield]
    simp [lift]
  | none =>
    rw [msrIndex] at hfield
    rw [hfield]
    simp [lift, utilReadMsr, log, msrIndex]

theorem msrVmcsField_eq_none_iff (msr : BitVec 32) : msrVmcsField msr = none ↔
    msr.toNat ∉ [0x174, 0x175, 0x176, 0x1D9, 0xC0000101, 0xC0000100] := by
  unfold msrVmcsField
  split
  case h_7 =>
    simp only [List.mem_cons, List.not_mem_nil, or_false, not_or, true_iff]
    exact ⟨‹_›, ‹_›, ‹_›, ‹_›, ‹_›, ‹_›⟩
  all_goals simp [*]

/-- The MSRs that are read while a RDMSR of the guest is handled. -/
theorem msrRead_reads (m : ExitMachine B) (h : s.exitReason = some .msrRead) :
    ∃ s', vmmVmExitHandler m s = some s' ∧ ∀ msr,
      .readMsr msr ∈ s'.trace ↔ msrVmcsField s.msrIndex = none ∧ msr = s.msrIndex := by
  refine ⟨_, msrRead_handler m h, fun msr => ?_⟩
  exact (readMsr_mem_readAccess msr s.captureGuestContext).trans (or_iff_right List.not_mem_nil)

/-- **Which reads are safe.** If a RDMSR of the guest exits, the VMM reads no MSR that raises #GP,
exactly when the MSR does not raise #GP, or is below 0x1000, or is IA32_FS_BASE, IA32_GS_BASE or
IA32_KERNEL_GS_BASE. -/
theorem rdmsr_safe_iff {B C : Type} (m : ExitMachine B) (raisesGp : BitVec 32 → Bool)
    (page : ℕ → BitVec 8) (s : ExitState B C) (h : s.exitReason = some .msrRead) :
    ∃ msrBitmap, vmpBuildMsrBitmap raisesGp (some page) = some msrBitmap ∧
      ((rdmsrExits msrBitmap s.msrIndex = true → ∃ s', vmmVmExitHandler m s = some s' ∧
          ∀ msr, .readMsr msr ∈ s'.trace → raisesGp msr = false) ↔
        raisesGp s.msrIndex = false ∨ s.msrIndex.toNat < 0x1000 ∨
          0xC0000100 ≤ s.msrIndex.toNat ∧ s.msrIndex.toNat ≤ 0xC0000102) := by
  refine ⟨_, rfl, ?_⟩
  obtain ⟨s', hexit, htrace⟩ := msrRead_reads m h
  have hreads : (∃ s', vmmVmExitHandler m s = some s' ∧
      ∀ msr, .readMsr msr ∈ s'.trace → raisesGp msr = false) ↔
        (msrVmcsField s.msrIndex = none → raisesGp s.msrIndex = false) := by
    constructor
    · rintro ⟨s'', hexit', hsafe⟩ hfield
      obtain rfl := Option.some.inj (hexit.symm.trans hexit')
      exact hsafe _ ((htrace _).2 ⟨hfield, rfl⟩)
    · intro hsafe
      refine ⟨s', hexit, fun msr hmem => ?_⟩
      obtain ⟨hfield, rfl⟩ := (htrace msr).1 hmem
      exact hsafe hfield
  rw [rdmsrExits_iff rfl, hreads, msrVmcsField_eq_none_iff]
  cases hgp : raisesGp s.msrIndex with
  | false => simp
  | true =>
    simp only [and_true, Bool.true_eq_false, false_or, List.mem_cons, List.not_mem_nil, or_false]
    constructor
    · intro hsafe
      by_contra hmsr
      exact hsafe (by omega) (by omega)
    · intro hmsr hexits hfield
      omega

end ExitState

/-- The guest reads the MSR 0x40000000. -/
def hypervisorMsrRead : ExitState (BitVec 32) Unit where
  toVmmState := { userState 0x40000000 bootEpt with
    vmcs := fun
      | .vmExitReason => 31
      | .vmExitInstructionLen => 2
      | .guestRip => 0x401000
      | _ => 0 }
  cr8 := 0
  irql := 0
  cpu := ⟨fun _ => 0, 0, 0, 0, fun _ => 0, fun _ => 0⟩
  trace := []

/-- It is outside of the bitmap, and is safe where it does not raise #GP. -/
theorem rdmsr_safe_iff_hypervisorMsr : ∃ msrBitmap s',
    vmpBuildMsrBitmap (fun _ => false) (some fun _ => 0) = some msrBitmap ∧
      ExitState.vmmVmExitHandler idleMachine hypervisorMsrRead = some s' := by
  obtain ⟨msrBitmap, hbitmap, hsafe⟩ := ExitState.rdmsr_safe_iff idleMachine (fun _ => false)
    (fun _ => 0) hypervisorMsrRead rfl
  obtain ⟨s', hhandled, -⟩ := hsafe.2 (Or.inl rfl) rfl
  exact ⟨msrBitmap, s', hbitmap, hhandled⟩

/-- Where it raises #GP the VMM reads it all the same. -/
theorem hypervisorMsr_read : ¬∀ (m : ExitMachine (BitVec 32)) (raisesGp : BitVec 32 → Bool)
    (page msrBitmap : ℕ → BitVec 8) (s : ExitState (BitVec 32) Unit),
    vmpBuildMsrBitmap raisesGp (some page) = some msrBitmap → s.exitReason = some .msrRead →
      rdmsrExits msrBitmap s.msrIndex = true → ∃ s', ExitState.vmmVmExitHandler m s = some s' ∧
        ∀ msr, .readMsr msr ∈ s'.trace → raisesGp msr = false := by
  intro hall
  have hindex : hypervisorMsrRead.msrIndex = 0x40000000 := by decide
  obtain ⟨s', hhandled, hsafe⟩ := hall idleMachine (fun msr => decide (msr = 0x40000000))
    (fun _ => 0) _ hypervisorMsrRead rfl rfl ((rdmsrExits_iff rfl _).2 (by rw [hindex]; decide))
  obtain ⟨s'', hhandled', hreads⟩ :=
    ExitState.msrRead_reads (s := hypervisorMsrRead) idleMachine rfl
  obtain rfl := Option.some.inj (hhandled.symm.trans hhandled')
  have hread := hsafe 0x40000000 ((hreads _).2 ⟨by rw [hindex]; rfl, hindex.symm⟩)
  exact absurd hread (by decide)

end DeviceMon
