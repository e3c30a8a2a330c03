import DeviceMon.Processor

/-!
# Setting up the VMCS

`VmpSetupVmcs` fills the VMCS of a processor before the launch. Each of its writes hands the status
of its VMWRITE to `error` through the operator `|=` of `util.h`. That operator takes its left
operand by value : `error` keeps what it has, and the function returns true whatever the writes
did (`vmpSetupVmcs_reports_iff`). The control fields get values that are adjusted to the capability
registers (`vmpAdjustControlValue`).

The build is the x64 one. `SetupCpu` has what the function reads.
-/

namespace DeviceMon

/-! ## Statuses -/

/-- `VmxStatus`. -/
inductive VmxStatus where
  | ok
  | errorWithStatus
  | errorWithoutStatus
deriving DecidableEq

namespace VmxStatus

def value : VmxStatus → BitVec 8
  | ok => 0
  | errorWithStatus => 1
  | errorWithoutStatus => 2

/-- `lhs |= rhs` with the operator of `util.h` : the value of the expression and what the variable
on the left has afterwards. The operator takes both operands by value. -/
def orAssign (lhs rhs : BitVec 8) : BitVec 8 × BitVec 8 :=
  (lhs ||| rhs, lhs)

end VmxStatus

/-! ## What is read -/

namespace Msr

def kIa32SysenterCs : BitVec 32 := 0x174

def kIa32SysenterEsp : BitVec 32 := 0x175

def kIa32SysenterEip : BitVec 32 := 0x176

def kIa32Debugctl : BitVec 32 := 0x1D9

def kIa32VmxBasic : BitVec 32 := 0x480

def kIa32VmxPinbasedCtls : BitVec 32 := 0x481

def kIa32VmxProcBasedCtls : BitVec 32 := 0x482

def kIa32VmxExitCtls : BitVec 32 := 0x483

def kIa32VmxEntryCtls : BitVec 32 := 0x484

def kIa32VmxProcBasedCtls2 : BitVec 32 := 0x48B

def kIa32VmxTruePinbasedCtls : BitVec 32 := 0x48D

def kIa32VmxTrueProcBasedCtls : BitVec 32 := 0x48E

def kIa32VmxTrueExitCtls : BitVec 32 := 0x48F

def kIa32VmxTrueEntryCtls : BitVec 32 := 0x490

def kIa32FsBase : BitVec 32 := 0xC0000100

def kIa32GsBase : BitVec 32 := 0xC0000101

end Msr

/-- The processor and the processor's data as `VmpSetupVmcs` reads them. -/
structure SetupCpu where
  es : BitVec 16
  cs : BitVec 16
  ss : BitVec 16
  ds : BitVec 16
  fs : BitVec 16
  gs : BitVec 16
  ldtr : BitVec 16
  tr : BitVec 16
  gdtr : DescriptorTable
  idtr : DescriptorTable
  /-- `GetSegmentLimit`. -/
  segmentLimit : BitVec 16 → BitVec 32
  /-- `AsmLoadAccessRightsByte`. -/
  loadAccessRightsByte : BitVec 16 → BitVec 64
  memory : BitVec 64 → BitVec 8
  msr : BitVec 32 → BitVec 64
  cr0 : BitVec 64
  cr3 : BitVec 64
  cr4 : BitVec 64
  dr7 : BitVec 64
  rflags : BitVec 64
  /-- `KeGetCurrentProcessorNumberEx`. -/
  processorNumber : BitVec 32
  /-- Physical addresses of the bitmaps. -/
  ioBitmapA : BitVec 64
  ioBitmapB : BitVec 64
  msrBitmap : BitVec 64
  /-- `EptGetEptPointer`. -/
  eptPointer : BitVec 64
  /-- The address of `AsmVmmEntryPoint`. -/
  vmmEntryPoint : BitVec 64

section Setup

variable (cpu : SetupCpu)

/-- Adjust the requested control value with consulting a value of related MSR. -/
def vmpAdjustControlValue (msr : BitVec 32) (requestedValue : BitVec 32) : BitVec 32 :=
  let msrValue := cpu.msr msr
  let adjustedValue := requestedValue &&& msrValue.extractLsb' 32 32
  adjustedValue ||| msrValue.extractLsb' 0 32

/-- Returns access right of the segment specified by the selector for VMX. -/
def vmpGetSegmentAccessRight (segmentSelector : BitVec 16) : BitVec 32 :=
  if segmentSelector ≠ 0 then
    let nativeAccessRight := cpu.loadAccessRightsByte segmentSelector >>> 8
    -- `reserved1`, `unusable` and `reserved2` cleared
    nativeAccessRight.setWidth 32 &&& 0xF0FF
  else 1#32 <<< 16

/-- Returns the address of the segment descriptor that corresponds to the selector. -/
def vmpGetSegmentDescriptor (descriptorTableBase : BitVec 64) (segmentSelector : BitVec 16) :
    BitVec 64 :=
  descriptorTableBase + (segmentSelector.extractLsb' 3 13).setWidth 64 * 8

/-- Returns a base address of the segment descriptor. -/
def vmpGetSegmentBaseByDescriptor (segmentDescriptor : BitVec 64) : BitVec 64 :=
  let all := loadBytes cpu.memory segmentDescriptor 8
  let baseHigh := (all.extractLsb' 56 8).setWidth 64 <<< 24
  let baseMiddle := (all.extractLsb' 32 8).setWidth 64 <<< 16
  let baseLow := (all.extractLsb' 16 16).setWidth 64
  let base := (baseHigh ||| baseMiddle ||| baseLow) &&& 0xFFFFFFFF
  -- a system descriptor has 16 bytes
  if all.getLsbD 44 then base
  else base ||| loadBytes cpu.memory (segmentDescriptor + 8) 4 <<< 32

/-- Returns a base address of the segment specified by the selector. -/
def vmpGetSegmentBase (gdtBase : BitVec 64) (segmentSelector : BitVec 16) : BitVec 64 :=
  if segmentSelector = 0 then 0
  else if segmentSelector.getLsbD 2 then
    let ldtBase := vmpGetSegmentBaseByDescriptor cpu (vmpGetSegmentDescriptor gdtBase cpu.ldtr)
    vmpGetSegmentBaseByDescriptor cpu (vmpGetSegmentDescriptor ldtBase segmentSelector)
  else vmpGetSegmentBaseByDescriptor cpu (vmpGetSegmentDescriptor gdtBase segmentSelector)

/-! ## The controls -/

/-- `vmx_capability_hint`, bit 55. -/
def useTrueMsrs : Bool :=
  (cpu.msr Msr.kIa32VmxBasic).getLsbD 55

/-- `load_debug_controls` and `ia32e_mode_guest`. -/
def vmEntryctl : BitVec 32 :=
  vmpAdjustControlValue cpu
    (if useTrueMsrs cpu then Msr.kIa32VmxTrueEntryCtls else Msr.kIa32VmxEntryCtls)
    (1#32 <<< 2 ||| 1#32 <<< 9)

/-- `host_address_space_size`. -/
def vmExitctl : BitVec 32 :=
  vmpAdjustControlValue cpu
    (if useTrueMsrs cpu then Msr.kIa32VmxTrueExitCtls else Msr.kIa32VmxExitCtls) (1#32 <<< 9)

def vmPinctl : BitVec 32 :=
  vmpAdjustControlValue cpu
    (if useTrueMsrs cpu then Msr.kIa32VmxTruePinbasedCtls else Msr.kIa32VmxPinbasedCtls) 0

/-- The capability register of the primary processor-based controls. -/
def procctlMsr : BitVec 32 :=
  if useTrueMsrs cpu then Msr.kIa32VmxTrueProcBasedCtls else Msr.kIa32VmxProcBasedCtls

/-- `cr3_load_exiting`, `mov_dr_exiting`, `use_msr_bitmaps` and `activate_secondary_control`. -/
def vmProcctlRequested : BitVec 32 :=
  1#32 <<< 15 ||| 1#32 <<< 23 ||| 1#32 <<< 28 ||| 1#32 <<< 31

def vmProcctl : BitVec 32 :=
  vmpAdjustControlValue cpu (procctlMsr cpu) vmProcctlRequested

/-- `enable_ept`, `descriptor_table_exiting`, `enable_rdtscp`, `enable_vpid`, `enable_invpcid` and
`enable_xsaves_xstors`. -/
def vmProcctl2 : BitVec 32 :=
  vmpAdjustControlValue cpu Msr.kIa32VmxProcBasedCtls2
    (1#32 <<< 1 ||| 1#32 <<< 2 ||| 1#32 <<< 3 ||| 1#32 <<< 5 ||| 1#32 <<< 12 ||| 1#32 <<< 20)

/-! ## The writes -/

/-- The selector of the host : RPL and TI have to be 0. -/
def hostSelector (segmentSelector : BitVec 16) : BitVec 64 :=
  (segmentSelector &&& 0xf8).setWidth 64

/-- The writes of `VmpSetupVmcs`, in order. -/
def setupWrites (guestStackPointer guestInstructionPointer vmmStackPointer : BitVec 64) :
    List (VmcsField × BitVec 64) :=
  [(.virtualProcessorId, (cpu.processorNumber + 1).setWidth 64),
    (.guestEsSelector, cpu.es.setWidth 64),
    (.guestCsSelector, cpu.cs.setWidth 64),
    (.guestSsSelector, cpu.ss.setWidth 64),
    (.guestDsSelector, cpu.ds.setWidth 64),
    (.guestFsSelector, cpu.fs.setWidth 64),
    (.guestGsSelector, cpu.gs.setWidth 64),
    (.guestLdtrSelector, cpu.ldtr.setWidth 64),
    (.guestTrSelector, cpu.tr.setWidth 64),
    (.hostEsSelector, hostSelector cpu.es),
    (.hostCsSelector, hostSelector cpu.cs),
    (.hostSsSelector, hostSelector cpu.ss),
    (.hostDsSelector, hostSelector cpu.ds),
    (.hostFsSelector, hostSelector cpu.fs),
    (.hostGsSelector, hostSelector cpu.gs),
    (.hostTrSelector, hostSelector cpu.tr),
    (.ioBitmapA, cpu.ioBitmapA),
    (.ioBitmapB, cpu.ioBitmapB),
    (.msrBitmap, cpu.msrBitmap),
    (.eptPointer, cpu.eptPointer),
    (.vmcsLinkPointer, 0xFFFFFFFFFFFFFFFF),
    (.guestIa32Debugctl, cpu.msr Msr.kIa32Debugctl),
    (.pinBasedVmExecControl, (vmPinctl cpu).setWidth 64),
    (.cpuBasedVmExecControl, (vmProcctl cpu).setWidth 64),
    (.exceptionBitmap, 0),
    (.vmExitControls, (vmExitctl cpu).setWidth 64),
    (.vmEntryControls, (vmEntryctl cpu).setWidth 64),
    (.secondaryVmExecControl, (vmProcctl2 cpu).setWidth 64),
    (.guestEsLimit, (cpu.segmentLimit cpu.es).setWidth 64),
    (.guestCsLimit, (cpu.segmentLimit cpu.cs).setWidth 64),
    (.guestSsLimit, (cpu.segmentLimit cpu.ss).setWidth 64),
    (.guestDsLimit, (cpu.segmentLimit cpu.ds).setWidth 64),
    (.guestFsLimit, (cpu.segmentLimit cpu.fs).setWidth 64),
    (.guestGsLimit, (cpu.segmentLimit cpu.gs).setWidth 64),
    (.guestLdtrLimit, (cpu.segmentLimit cpu.ldtr).setWidth 64),
    (.guestTrLimit, (cpu.segmentLimit cpu.tr).setWidth 64),
    (.guestGdtrLimit, cpu.gdtr.limit.setWidth 64),
    (.guestIdtrLimit, cpu.idtr.limit.setWidth 64),
    (.guestEsArBytes, (vmpGetSegmentAccessRight cpu cpu.es).setWidth 64),
    (.guestCsArBytes, (vmpGetSegmentAccessRight cpu cpu.cs).setWidth 64),
    (.guestSsArBytes, (vmpGetSegmentAccessRight cpu cpu.ss).setWidth 64),
    (.guestDsArBytes, (vmpGetSegmentAccessRight cpu cpu.ds).setWidth 64),
    (.guestFsArBytes, (vmpGetSegmentAccessRight cpu cpu.fs).setWidth 64),
    (.guestGsArBytes, (vmpGetSegmentAccessRight cpu cpu.gs).setWidth 64),
    (.guestLdtrArBytes, (vmpGetSegmentAccessRight cpu cpu.ldtr).setWidth 64),
    (.guestTrArBytes, (vmpGetSegmentAccessRight cpu cpu.tr).setWidth 64),
    (.guestSysenterCs, cpu.msr Msr.kIa32SysenterCs),
    (.hostIa32SysenterCs, cpu.msr Msr.kIa32SysenterCs),
    (.cr0GuestHostMask, 0),
    (.cr4GuestHostMask, 0),
    (.cr0ReadShadow, cpu.cr0),
    (.cr4ReadShadow, cpu.cr4),
    (.guestCr0, cpu.cr0),
    (.guestCr3, cpu.cr3),
    (.guestCr4, cpu.cr4),
    (.guestEsBase, 0),
    (.guestCsBase, 0),
    (.guestSsBase, 0),
    (.guestDsBase, 0),
    (.guestFsBase, cpu.msr Msr.kIa32FsBase),
    (.guestGsBase, cpu.msr Msr.kIa32GsBase),
    (.guestLdtrBase, vmpGetSegmentBase cpu cpu.gdtr.base cpu.ldtr),
    (.guestTrBase, vmpGetSegmentBase cpu cpu.gdtr.base cpu.tr),
    (.guestGdtrBase, cpu.gdtr.base),
    (.guestIdtrBase, cpu.idtr.base),
    (.guestDr7, cpu.dr7),
    (.guestRsp, guestStackPointer),
    (.guestRip, guestInstructionPointer),
    (.guestRflags, cpu.rflags),
    (.guestSysenterEsp, cpu.msr Msr.kIa32SysenterEsp),
    (.guestSysenterEip, cpu.msr Msr.kIa32SysenterEip),
    (.hostCr0, cpu.cr0),
    (.hostCr3, cpu.cr3),
    (.hostCr4, cpu.cr4),
    (.hostFsBase, cpu.msr Msr.kIa32FsBase),
    (.hostGsBase, cpu.msr Msr.kIa32GsBase),
    (.hostTrBase, vmpGetSegmentBase cpu cpu.gdtr.base cpu.tr),
    (.hostGdtrBase, cpu.gdtr.base),
    (.hostIdtrBase, cpu.idtr.base),
    (.hostIa32SysenterEsp, cpu.msr Msr.kIa32SysenterEsp),
    (.hostIa32SysenterEip, cpu.msr Msr.kIa32SysenterEip),
    (.hostRsp, vmmStackPointer),
    (.hostRip, cpu.vmmEntryPoint)]

/-- The VMCS, the variable `error`, and the number of VMWRITEs so far. -/
structure SetupState where
  vmcs : VmcsField → BitVec 64
  error : BitVec 8
  writes : ℕ

/-- `error |= UtilVmWrite(field, value)`. A VMWRITE that fails leaves the VMCS alone. -/
def SetupState.write (outcome : ℕ → VmxStatus) (s : SetupState) (w : VmcsField × BitVec 64) :
    SetupState :=
  let status := outcome s.writes
  let (_, error) := VmxStatus.orAssign s.error status.value
  { vmcs := if status = .ok then Function.update s.vmcs w.1 (w.1.held w.2) else s.vmcs
    error := error
    writes := s.writes + 1 }

/-- `VmpSetupVmcs` : what it returns, and the VMCS it leaves. -/
def vmpSetupVmcs (guestStackPointer guestInstructionPointer vmmStackPointer : BitVec 64)
    (outcome : ℕ → VmxStatus) (vmcs : VmcsField → BitVec 64) :
    Bool × (VmcsField → BitVec 64) :=
  let s := (setupWrites cpu guestStackPointer guestInstructionPointer vmmStackPointer).foldl
    (SetupState.write outcome) ⟨vmcs, VmxStatus.ok.value, 0⟩
  (s.error = VmxStatus.ok.value, s.vmcs)

/-! ## What is reported -/

variable {cpu} {guestStackPointer guestInstructionPointer vmmStackPointer : BitVec 64}
  {outcome : ℕ → VmxStatus} {vmcs : VmcsField → BitVec 64}

@[simp] theorem SetupState.error_write (s : SetupState) (w : VmcsField × BitVec 64) :
    (s.write outcome w).error = s.error :=
  rfl

/-- The variable `error` keeps its value over any writes. -/
theorem error_foldl_write (ws : List (VmcsField × BitVec 64)) (s : SetupState) :
    (ws.foldl (SetupState.write outcome) s).error = s.error := by
  induction ws generalizing s with
  | nil => rfl
  | cons w ws ih => rw [List.foldl_cons, ih, SetupState.error_write]

/-- The function returns true, whatever the writes did. -/
theorem vmpSetupVmcs_returns : (vmpSetupVmcs cpu guestStackPointer guestInstructionPointer
    vmmStackPointer outcome vmcs).1 = true := by
  rw [vmpSetupVmcs, decide_eq_true_iff, error_foldl_write]

/-- **What the result says of the writes.** The function returns true exactly if all writes
succeeded, if and only if all writes succeeded : a failure is never reported. -/
theorem vmpSetupVmcs_reports_iff (cpu : SetupCpu)
    (guestStackPointer guestInstructionPointer vmmStackPointer : BitVec 64)
    (outcome : ℕ → VmxStatus) (vmcs : VmcsField → BitVec 64) :
    ((vmpSetupVmcs cpu guestStackPointer guestInstructionPointer vmmStackPointer outcome
        vmcs).1 = true ↔
      ∀ k < (setupWrites cpu guestStackPointer guestInstructionPointer vmmStackPointer).length,
        outcome k = .ok) ↔
    ∀ k < (setupWrites cpu guestStackPointer guestInstructionPointer vmmStackPointer).length,
      outcome k = .ok :=
  ⟨fun h => h.1 vmpSetupVmcs_returns, fun h => iff_of_true vmpSetupVmcs_returns h⟩

/-- A processor that reads zeros everywhere. -/
def zeroCpu : SetupCpu where
  es := 0
  cs := 0
  ss := 0
  ds := 0
  fs := 0
  gs := 0
  ldtr := 0
  tr := 0
  gdtr := ⟨0, 0⟩
  idtr := ⟨0, 0⟩
  segmentLimit _ := 0
  loadAccessRightsByte _ := 0
  memory _ := 0
  msr _ := 0
  cr0 := 0
  cr3 := 0
  cr4 := 0
  dr7 := 0
  rflags := 0
  processorNumber := 0
  ioBitmapA := 0
  ioBitmapB := 0
  msrBitmap := 0
  eptPointer := 0
  vmmEntryPoint := 0

/-- The first write fails, and nothing is reported. -/
theorem vmpSetupVmcs_loses_status : ¬∀ (cpu : SetupCpu)
    (guestStackPointer guestInstructionPointer vmmStackPointer : BitVec 64)
    (outcome : ℕ → VmxStatus) (vmcs : VmcsField → BitVec 64),
    (vmpSetupVmcs cpu guestStackPointer guestInstructionPointer vmmStackPointer outcome
        vmcs).1 = true ↔
      ∀ k < (setupWrites cpu guestStackPointer guestInstructionPointer vmmStackPointer).length,
        outcome k = .ok := by
  intro h
  have hreports := h zeroCpu 0 0 0 (fun k => if k = 0 then .errorWithStatus else .ok) fun _ => 0
  exact absurd (hreports.1 vmpSetupVmcs_returns 0 (by decide)) (by decide)

/-! ## What is written -/

/-- A field that no write is to keeps its value. -/
theorem vmcs_foldl_write_of_notMem (ws : List (VmcsField × BitVec 64)) (s : SetupState)
    {field : VmcsField} (h : field ∉ ws.map Prod.fst) :
    (ws.foldl (SetupState.write outcome) s).vmcs field = s.vmcs field := by
  induction ws generalizing s with
  | nil => rfl
  | cons w ws ih =>
    rw [List.map_cons, List.mem_cons, not_or] at h
    rw [List.foldl_cons, ih _ h.2, SetupState.write]
    dsimp only
    split_ifs
    · exact Function.update_of_ne h.1 _ _
    · rfl

theorem writes_foldl_write (ws : List (VmcsField × BitVec 64)) (s : SetupState) :
    (ws.foldl (SetupState.write outcome) s).writes = s.writes + ws.length := by
  induction ws generalizing s with
  | nil => rfl
  | cons w ws ih =>
    rw [List.foldl_cons, ih, List.length_cons, SetupState.write]
    dsimp only
    omega

/-- A field that is written once has what was written to it if the write succeeded, and what it
had before if not. -/
theorem vmcs_foldl_write {before after : List (VmcsField × BitVec 64)}
    {w : VmcsField × BitVec 64} (s : SetupState) (hbefore : w.1 ∉ before.map Prod.fst)
    (hafter : w.1 ∉ after.map Prod.fst) :
    ((before ++ w :: after).foldl (SetupState.write outcome) s).vmcs w.1 =
      if outcome (s.writes + before.length) = .ok then w.1.held w.2 else s.vmcs w.1 := by
  rw [List.foldl_append, List.foldl_cons, vmcs_foldl_write_of_notMem after _ hafter,
    SetupState.write]
  simp only [writes_foldl_write]
  split_ifs
  · exact Function.update_self _ _ _
  · exact vmcs_foldl_write_of_notMem before s hbefore

/-- Each field is written once. -/
theorem nodup_setupWrites : ((setupWrites cpu guestStackPointer guestInstructionPointer
    vmmStackPointer).map Prod.fst).Nodup := by
  rw [setupWrites]
  simp only [List.map_cons, List.map_nil]
  decide

/-- What a field has after the setup. -/
theorem vmpSetupVmcs_vmcs_eq {k : ℕ} {w : VmcsField × BitVec 64}
    (hw : (setupWrites cpu guestStackPointer guestInstructionPointer vmmStackPointer)[k]? =
      some w) :
    (vmpSetupVmcs cpu guestStackPointer guestInstructionPointer vmmStackPointer outcome
      vmcs).2 w.1 = if outcome k = .ok then w.1.held w.2 else vmcs w.1 := by
  have hfields : ((setupWrites cpu guestStackPointer guestInstructionPointer
    vmmStackPointer).map Prod.fst).Nodup := nodup_setupWrites
  rw [vmpSetupVmcs]
  generalize setupWrites cpu guestStackPointer guestInstructionPointer vmmStackPointer = ws at *
  obtain ⟨hk, rfl⟩ := List.getElem?_eq_some_iff.1 hw
  have hsplit : ws.take k ++ ws[k] :: ws.drop (k + 1) = ws := by
    rw [← List.drop_eq_getElem_cons hk, List.take_append_drop]
  rw [← hsplit, List.map_append, List.map_cons] at hfields
  have hafter := (List.nodup_cons.1 hfields.of_append_right).1
  have hbefore : ws[k].1 ∉ (ws.take k).map Prod.fst := fun hmem =>
    (List.nodup_append.1 hfields).2.2 _ hmem _ List.mem_cons_self rfl
  have hvmcs := @vmcs_foldl_write outcome _ _ _ ⟨vmcs, VmxStatus.ok.value, 0⟩ hbefore hafter
  rw [List.length_take, Nat.zero_add, Nat.min_eq_left hk.le, hsplit] at hvmcs
  exact hvmcs

/-- The primary processor-based controls after the setup. -/
theorem vmpSetupVmcs_cpuBasedVmExecControl :
    (vmpSetupVmcs cpu guestStackPointer guestInstructionPointer vmmStackPointer outcome
      vmcs).2 .cpuBasedVmExecControl =
      if outcome 23 = .ok then (vmProcctl cpu).setWidth 64 else vmcs .cpuBasedVmExecControl := by
  have hfield := @vmpSetupVmcs_vmcs_eq cpu guestStackPointer guestInstructionPointer
    vmmStackPointer outcome vmcs 23 (.cpuBasedVmExecControl, (vmProcctl cpu).setWidth 64) rfl
  rwa [VmcsField.held_cpuBasedVmExecControl] at hfield

end Setup

end DeviceMon
