import DeviceMon.AsmExit
import DeviceMon.ExitRefinement
import DeviceMon.Vm

/-!
# Exits through the assembler code

`AsmVmmEntryPoint` with the handlers of `ExitState` : the handlers find the guest's registers in
the frame and the guest gets what they leave there, as `ExitsWith` and `enteredWith` say
(`vmmEntryPoint_refines`).

A hypercall goes from `AsmVmxCall` through the entry point and back. The status it returns, and
what it does to the VMM, are those of the model, `asmVmxCall` (`asmVmxCall_refines`). So is memory,
but for the stack of the VMM and the word below the stack of the caller.
-/

namespace DeviceMon

open X64

/-! ## The handlers -/

/-- What the assembler code does not see : what the handlers work on, and whether the processor is
in VMX operation. -/
structure AsmWorld (B C : Type) where
  exit : ExitState B C
  vmx : Bool

section Refinement

variable {B C : Type} {base : BitVec 64} {l : AsmLabels} {s t : Cpu (AsmWorld B C)}
  {code : BitVec 64 → Option (X64.Instruction AsmExtern × BitVec 64)}

/-- The state `VmmVmExitHandler` is called in. -/
def ExitState.called (regs : GpRegisters) (processorData : BitVec 64) (memory : Memory)
    (e : ExitState B C) : ExitState B C :=
  { e with gpRegs := regs, processorData := processorData, memory := memory }

/-- The VMCS after an exit by VMCALL. -/
def vmcallExit (rip sp flags length : BitVec 64) (vmcs : VmcsField → BitVec 64) :
    VmcsField → BitVec 64
  | .guestRip => rip
  | .guestRsp => sp
  | .guestRflags => flags
  | .vmExitReason => 18
  | .vmExitInstructionLen => length
  | .vmEntryIntrInfoField => vmcs .vmEntryIntrInfoField &&& ~~~0x80000000
  | field => vmcs field

/-- The handlers and the VMX instructions. -/
def exitVmx (m : ExitMachine B)
    (routine : BitVec 64 → BitVec 64 → BitVec 64 → AsmWorld B C → Bool × AsmWorld B C) (depth : ℕ)
    (hdepth : depth ≤ 0x5D60) : Vmx (AsmWorld B C) where
  vmmVmExitHandler regs processorData memory w :=
    ((w.exit.called regs processorData memory).vmmVmExitHandler m).map fun e =>
      ⟨e.vmContinue, e.gpRegs, e.memory, { w with exit := e }⟩
  vmInitializationRoutine := routine
  vmcall rip sp flags length w :=
    if w.vmx then some (w.exit.vmcs .hostRip, w.exit.vmcs .hostRsp, { w with
      exit := { w.exit with vmcs := vmcallExit rip sp flags length w.exit.vmcs } })
    else none
  vmresume w :=
    if (w.exit.vmcs .vmEntryIntrInfoField).getLsbD 31 then none
    else some (.succeed (w.exit.vmcs .guestRip, w.exit.vmcs .guestRsp, w.exit.vmcs .guestRflags))
  vmxoff w := .succeed { w with vmx := false }
  depth := depth
  depth_le := hdepth

/-- The processor where a guest with these registers goes on after an exit. -/
structure GoesOn (code : BitVec 64 → Option (Instruction AsmExtern × BitVec 64))
    (base : BitVec 64) (guest : BitVec 4 → BitVec 64) (e : ExitState B C)
    (t : Cpu (AsmWorld B C)) : Prop where
  vmresume : ∃ next, code t.rip = some (.external .vmresume, next)
  register : Function.update t.register rsp (e.vmcs .guestRsp) = ExitState.enteredWith guest e
  memory : ∀ b, ¬OnVmmStack base b → t.memory b = e.memory b

end Refinement

/-- **The handlers' frame.** After every exit the code calls `VmmVmExitHandler` with the guest's
registers in the frame, and the guest goes on with the registers that the model of the VM entry
gives it, or after VMXOFF with those the handler asks for. It keeps its XMM registers. -/
theorem vmmEntryPoint_refines {B C : Type} (m : ExitMachine B)
    (routine : BitVec 64 → BitVec 64 → BitVec 64 → AsmWorld B C → Bool × AsmWorld B C) (depth : ℕ)
    (hdepth : depth ≤ 0x5D60) {l : AsmLabels} {base : BitVec 64} {s : Cpu (AsmWorld B C)}
    {code : BitVec 64 → Option (Instruction AsmExtern × BitVec 64)} (hl : l.Loaded code)
    (hs : AtEntryPoint l base s)
    (hreturns : HandlerReturns (exitVmx m routine depth hdepth) base s) :
    let guest := Function.update s.register rsp (s.world.exit.vmcs .guestRsp)
    Ensures code (asmExt (exitVmx m routine depth hdepth)) (fun t => ∃ e e' : ExitState B C,
      (∃ memory : Memory, (∀ b, ¬OnVmmStack base b → memory b = s.memory b) ∧
        e = s.world.exit.called (.pushed s.register) (s.memory.read (base + 0x28)) memory) ∧
      e.ExitsWith guest ∧ e.vmmVmExitHandler m = some e' ∧ t.world.exit = e' ∧ t.xmm = s.xmm ∧
      if e'.vmContinue then GoesOn code base guest e' t
      else t.register = Function.update e'.gpRegs.select rsp e'.gpRegs.dx ∧
        t.rip = e'.gpRegs.cx ∧ t.flags = loadFlags e'.gpRegs.ax ∧ t.world.vmx = false) s := by
  intro guest
  refine vmmEntryPoint_handles hl hs hreturns fun r t hr hafter hcode => ?_
  obtain ⟨memory, hmemory, hhandled⟩ := hr
  obtain ⟨e', he', rfl⟩ := Option.map_eq_some_iff.1 hhandled
  have hexits : ExitState.ExitsWith guest
      (s.world.exit.called (.pushed s.register) (s.memory.read (base + 0x28)) memory) := by
    refine ⟨?_, (Function.update_self rsp (s.world.exit.vmcs .guestRsp) s.register).symm⟩
    rw [run_pushaq, List.append_nil]
    rfl
  cases hcont : e'.vmContinue with
  | true =>
    rw [hcont, if_pos rfl] at hcode
    refine ensures_vmresume hafter hcode fun t₁ ht₁ => .here ⟨_, e', ⟨memory, hmemory, rfl⟩, hexits,
      he', congrArg AsmWorld.exit ht₁.after.world, ht₁.after.xmm, ?_⟩
    obtain ⟨next, -, hvmresume, -⟩ := ht₁.code
    rw [hcont, if_pos rfl]
    obtain ⟨trap, -, hframes⟩ := ht₁.after.frames
    refine ⟨⟨next, hvmresume⟩, ?_, ht₁.after.memory⟩
    rw [ExitState.enteredWith_eq]
    exact hframes.update_eq _
  | false =>
    rw [hcont] at hcode
    refine ensures_vmxoff hl hafter hcode fun t₁ ht₁ => ensures_leftVmx ht₁ rfl fun t₂ ht₂ =>
      .here ⟨_, e', ⟨memory, hmemory, rfl⟩, hexits, he', congrArg AsmWorld.exit ht₂.world, ht₂.xmm,
        ?_⟩
    rw [hcont]
    exact ⟨ht₂.register, ht₂.rip, ht₂.flags, congrArg AsmWorld.vmx ht₂.world⟩

/-- The processor after the exit of a guest that executes INVD. -/
def invdCpu : Cpu (AsmWorld (BitVec 32) Unit) :=
  someCpu 106 0xFFFD0 ⟨{ cr3Read 0 with
    vmcs := fun
      | .vmExitReason => 13
      | .vmExitInstructionLen => 2
      | .guestRip => 0x401000
      | .guestRsp => 0x4000
      | _ => 0 }, true⟩

/-- The routine is not called here. -/
def noRoutine (_ _ _ : BitVec 64) (w : AsmWorld (BitVec 32) Unit) :
    Bool × AsmWorld (BitVec 32) Unit :=
  (false, w)

theorem invdCpu_returns :
    HandlerReturns (exitVmx idleMachine noRoutine 0x1000 (by decide)) 0xFFFD0 invdCpu := by
  intro memory _
  exact ⟨_, rfl, fun b _ => congrFun (ExitState.memory_adjust _) b⟩

theorem vmmEntryPoint_refines_invd : Ensures (place 0 placedCode)
    (asmExt (exitVmx idleMachine noRoutine 0x1000 (by decide)))
    (fun t => ∃ e', t.world.exit = e' ∧ t.xmm = invdCpu.xmm ∧ (e'.vmContinue = true →
      GoesOn (place 0 placedCode) 0xFFFD0 (Function.update invdCpu.register rsp 0x4000) e' t))
    invdCpu := by
  refine (vmmEntryPoint_refines idleMachine noRoutine 0x1000 (by decide) placed_loaded
    (someCpu_atEntryPoint _) invdCpu_returns).trans fun t ht => .here ?_
  obtain ⟨e, e', -, -, -, hexit, hxmm, hgoes⟩ := ht
  refine ⟨e', hexit, hxmm, fun hcont => ?_⟩
  rw [hcont, if_pos rfl] at hgoes
  exact hgoes

/-! ## Hypercalls -/

section Hypercall

variable {B C : Type} {base next : BitVec 64} {l : AsmLabels} {number : HypercallNumber}
  {code : BitVec 64 → Option (Instruction AsmExtern × BitVec 64)}

/-- What a hypercall stores for its caller. -/
def HypercallNumber.stored (v : VmmState B C) : HypercallNumber → Option (BitVec 64)
  | .terminateVmm => some v.processorData
  | .getSharedProcessorData => some v.sharedData
  | _ => none

/-- A guest in kernel mode calls the VMM. -/
structure Calls (number : HypercallNumber) (v : VmmState B C) : Prop where
  number : v.gpRegs.cx = number.value.setWidth 64
  kernel : v.vmcs .guestSsArBytes = 0x4093

/-- Memory is what the call stores to, and nothing else depends on it. -/
theorem Calls.withMemory {v : VmmState B C} (h : Calls number v) (m : Machine B)
    (memory : Memory) : vmmpHandleVmCall m { v with memory := memory } =
      { vmmpHandleVmCall m v with
        memory := (number.stored v).elim memory (memory.write v.gpRegs.dx) } := by
  have hsuccess : ∀ (v : VmmState B C) (memory : Memory),
      vmmpIndicateSuccessfulVmcall { v with memory := memory } =
        { vmmpIndicateSuccessfulVmcall v with memory := memory } := fun v memory => by
    simp only [vmmpIndicateSuccessfulVmcall, vmmpAdjustGuestInstructionPointer, utilVmRead,
      utilVmWrite, vmmpInjectInterruption]
    split_ifs <;> rfl
  have hvalue : HypercallNumber.ofValue (v.gpRegs.cx.setWidth 32) = some number := by
    rw [h.number, BitVec.setWidth_setWidth_of_le _ (by decide), BitVec.setWidth_eq]
    exact HypercallNumber.ofValue_eq_some.2 rfl
  have hcpl : vmmpGetGuestCpl v = 0 := by
    rw [vmmpGetGuestCpl, utilVmRead, h.kernel]
    decide
  have hcpl' : vmmpGetGuestCpl { v with memory := memory } = 0 := hcpl
  simp only [vmmpHandleVmCall, hvalue]
  cases number with
  | terminateVmm =>
    simp only [hcpl, hcpl', if_true]
    rfl
  | pingVmm => exact hsuccess v memory
  | getSharedProcessorData =>
    have hstored := hsuccess v (Memory.write v.gpRegs.dx v.sharedData v.memory)
    refine (hsuccess v (memory.write v.gpRegs.dx v.sharedData)).trans ?_
    rw [show storePointer v.gpRegs.dx v.sharedData v = { v with
      memory := Memory.write v.gpRegs.dx v.sharedData v.memory } from rfl, hstored]
    rfl
  | enableVmmDeviceMonitor =>
    obtain ⟨⟨devices, ept⟩, pci⟩ :=
      (dmEnableDeviceMonitor m.pool m.mtrr v.devices v.ept).run m.bus v.pci
    exact hsuccess { v with devices := devices, ept := ept, pci := pci } memory
  | disableVmmDeviceMonitor =>
    obtain ⟨⟨devices, ept⟩, pci⟩ :=
      (dmDisableDeviceMonitor v.devices v.ept).run m.bus v.pci
    exact hsuccess { v with devices := devices, ept := ept, pci := pci } memory

/-- The status of a hypercall by the flags the guest comes back with. -/
def vmxStatusOf (flags : BitVec 64) : VmxStatus :=
  if FlagRegister.zf flags then .errorWithStatus
  else if FlagRegister.cf flags then .errorWithoutStatus
  else .ok

theorem vmxStatusOf_eq (flags : BitVec 64) : vmxStatusOf flags =
    if zero flags then .errorWithStatus else if carry flags then .errorWithoutStatus else .ok :=
  rfl

theorem vmxStatusOf_loadFlags (flags : BitVec 64) :
    vmxStatusOf (loadFlags flags) = vmxStatusOf flags := by
  simp [vmxStatusOf, loadFlags, FlagRegister.zf, FlagRegister.cf]

/-- `AsmVmxCall` after VMCALL. -/
theorem ensures_vmxStatus {W : Type} {x : Vmx W} {Q : Cpu W → Prop} {u : Cpu W} (hl : l.Loaded code)
    (hrip : code l.asmVmxCall = some (.external .vmcall, u.rip))
    (hrest : ∀ t : Cpu W, t.rip = u.top →
      t.register = Function.update (Function.update u.register rax
        ((vmxStatusOf u.flags).value.setWidth 64)) rsp (u.register rsp + 8) →
      t.xmm = u.xmm → t.memory = u.memory → t.world = u.world → Ensures code (asmExt x) Q t) :
    Ensures code (asmExt x) Q u := by
  obtain ⟨next, hvmcall, jcNext, hjz, xorNext, hjc, retNext, hxor, after, hret, -⟩ := hl.vmxCall
  obtain rfl : next = u.rip := by
    rw [hrip] at hvmcall
    exact (Prod.mk.inj (Option.some.inj hvmcall)).2.symm
  have hreturn : ∀ {c after flags : BitVec 64}, code c = some (.ret, after) →
      Ensures code (asmExt x) Q (Cpu.set rax ((vmxStatusOf u.flags).value.setWidth 64)
        { u with rip := c, flags := flags }) := by
    intro c after flags hret
    have hrsp : Function.update u.register rax ((vmxStatusOf u.flags).value.setWidth 64) rsp =
        u.register rsp := Function.update_of_ne (show rsp ≠ rax by decide) _ _
    refine .exec hret rfl (hrest _ (congrArg u.memory.read hrsp) ?_ rfl rfl rfl)
    rw [← hrsp]
    rfl
  cases hzero : zero u.flags with
  | true =>
    obtain ⟨after, movNext, hmov, retNext, hret, -⟩ := hl.errorWithCode
    have hstatus : vmxStatusOf u.flags = .errorWithStatus := if_pos hzero
    rw [hstatus] at hreturn
    exact .exec hjz (by rw [Instruction.exec, hzero, if_pos rfl]) (.exec hmov rfl (hreturn hret))
  | false =>
  cases hcarry : carry u.flags with
  | true =>
    obtain ⟨movNext, hmov, retNext, hret, -⟩ := hl.errorWithoutCode
    have hstatus : vmxStatusOf u.flags = .errorWithoutStatus := by
      rw [vmxStatusOf_eq, hzero, hcarry]
      rfl
    rw [hstatus] at hreturn
    refine .not_zero hjz hzero (.exec hjc (by rw [Instruction.exec, hcarry, if_pos rfl]) ?_)
    exact .exec hmov rfl (hreturn hret)
  | false =>
    have hstatus : vmxStatusOf u.flags = .ok := by
      rw [vmxStatusOf_eq, hzero, hcarry]
      rfl
    rw [hstatus] at hreturn
    exact .not_zero hjz hzero (.not_carry hjc hcarry (.exec hxor rfl (hreturn hret)))

/-- The state at the exit, with some memory. -/
def calledState (base next : BitVec 64) (s : Cpu (AsmWorld B C)) (memory : Memory) :
    ExitState B C :=
  { s.world.exit with
    vmcs := vmcallExit s.rip (s.register rsp) s.flags (next - s.rip) s.world.exit.vmcs
    gpRegs := .pushed s.register
    processorData := s.memory.read (base + 0x28)
    memory := memory }

/-- The state of the VMM at the exit. -/
def vmcallState (base next : BitVec 64) (s : Cpu (AsmWorld B C)) : VmmState B C :=
  (calledState base next s s.memory).toVmmState

/-- Memory after the handler stored for the caller. -/
abbrev storedMemory (base next : BitVec 64) (number : HypercallNumber) (s : Cpu (AsmWorld B C))
    (memory : Memory) : Memory :=
  (number.stored (vmcallState base next s)).elim memory (memory.write (s.register rdx))

/-- A guest at `AsmVmxCall` : a driver in kernel mode, whose stack and `context` are not on the
stack of the VMM. The `context` is neither on the return address nor on the word below. -/
structure AtVmxCall (l : AsmLabels) (base : BitVec 64) (number : HypercallNumber)
    (s : Cpu (AsmWorld B C)) : Prop where
  rip : s.rip = l.asmVmxCall
  vmx : s.world.vmx = true
  called : s.register rcx = number.value.setWidth 64
  kernel : s.world.exit.vmcs .guestSsArBytes = 0x4093
  noTrap : FlagRegister.tf s.flags = false
  hostRip : s.world.exit.vmcs .hostRip = l.asmVmmEntryPoint
  hostRsp : s.world.exit.vmcs .hostRsp = base
  aligned : base.toNat % 16 = 0
  stack : ∀ b, Within (s.register rsp - 8) 16 b → ¬OnVmmStack base b
  context : number = .terminateVmm ∨ number = .getSharedProcessorData →
    ∀ b, Within (s.register rdx) 8 b → ¬OnVmmStack base b ∧ ¬Within (s.register rsp - 8) 16 b

/-- A guest that returned from `AsmVmxCall`, with the VMM in the state `v`. -/
structure VmxCallReturned (base : BitVec 64) (status : VmxStatus) (v : VmmState B C)
    (s t : Cpu (AsmWorld B C)) : Prop where
  rip : t.rip = s.top
  stack : t.register rsp = s.register rsp + 8
  result : t.register rax = status.value.setWidth 64
  register : ∀ r ∈ nonvolatile, t.register r = s.register r
  xmm : t.xmm = s.xmm
  vmx : t.world.vmx = v.vmContinue
  vmm : { t.world.exit.toVmmState with memory := v.memory } = v
  memory : ∀ b, ¬OnVmmStack base b → ¬Within (s.register rsp - 8) 8 b → t.memory b = v.memory b

theorem AtVmxCall.calls {s : Cpu (AsmWorld B C)} (hs : AtVmxCall l base number s) :
    Calls number (captureGuestContext (vmcallState base next s)) :=
  ⟨hs.called, hs.kernel⟩

theorem AtVmxCall.atVmCall_eq {s : Cpu (AsmWorld B C)} (hs : AtVmxCall l base number s) :
    atVmCall number (s.register rdx) (vmcallState base next s) = vmcallState base next s := by
  have hcx : (vmcallState base next s).gpRegs.cx = number.value.setWidth 64 := hs.called
  have hss : (vmcallState base next s).vmcs .guestSsArBytes = 0x4093 := hs.kernel
  have hdx : s.register rdx = (vmcallState base next s).gpRegs.dx := rfl
  rw [atVmCall, ← hss, Function.update_eq_self, ← hcx, hdx]

/-- What the call stores does not depend on the rest of memory. -/
theorem stored_congr {memory memory' : Memory} {b context : BitVec 64} (h : memory b = memory' b)
    (stored : Option (BitVec 64)) : stored.elim memory (memory.write context) b =
      stored.elim memory' (memory'.write context) b := by
  cases stored with
  | none => exact h
  | some value =>
    change Memory.write context value memory b = Memory.write context value memory' b
    rw [Memory.write, Memory.write, h]

/-- It stores to `context`. -/
theorem AtVmxCall.stored_of_not {s : Cpu (AsmWorld B C)} {v : VmmState B C} {b : BitVec 64}
    (hs : AtVmxCall l base number s) (memory : Memory)
    (hb : OnVmmStack base b ∨ Within (s.register rsp - 8) 16 b) :
    (number.stored v).elim memory (memory.write (s.register rdx)) b = memory b := by
  have hout : number = .terminateVmm ∨ number = .getSharedProcessorData →
      ¬Within (s.register rdx) 8 b := fun h hw => by
    obtain ⟨hstack, hcaller⟩ := hs.context h b hw
    exact hb.elim hstack hcaller
  cases number with
  | terminateVmm => exact if_neg (hout (Or.inl rfl))
  | getSharedProcessorData => exact if_neg (hout (Or.inr rfl))
  | pingVmm | enableVmmDeviceMonitor | disableVmmDeviceMonitor => rfl

/-- The handler on the state at the exit. -/
theorem AtVmxCall.handled {s : Cpu (AsmWorld B C)} (hs : AtVmxCall l base number s)
    (m : ExitMachine B) (memory : Memory) :
    ∃ e', (calledState base next s memory).vmmVmExitHandler m = some e' ∧
      e'.toVmmState = { vmmpHandleVmCall m.toMachine
          (captureGuestContext (vmcallState base next s)) with
        memory := storedMemory base next number s memory } := by
  refine ⟨_, rfl, ?_⟩
  refine (ExitState.vmcall_toVmmState m _).trans ?_
  exact hs.calls.withMemory m.toMachine memory

/-- The guest goes on after VMCALL. -/
structure VmcallResumes (next : BitVec 64) (s : Cpu (AsmWorld B C)) (v : VmmState B C) : Prop where
  vmContinue : v.vmContinue = true
  register : ∀ r, r ≠ rsp → v.gpRegs.select r = s.register r
  rip : v.vmcs .guestRip = next
  stack : v.vmcs .guestRsp = s.register rsp
  noEvent : (v.vmcs .vmEntryIntrInfoField).getLsbD 31 = false

/-- It goes on there after VMXOFF. -/
structure VmcallExits (next : BitVec 64) (s : Cpu (AsmWorld B C)) (v : VmmState B C) : Prop where
  vmContinue : v.vmContinue = false
  register : ∀ r ∈ nonvolatile, v.gpRegs.select r = s.register r
  rip : v.gpRegs.cx = next
  stack : v.gpRegs.dx = s.register rsp

/-- The state at a call that succeeds. -/
structure Succeeding (next : BitVec 64) (s : Cpu (AsmWorld B C)) (u : VmmState B C) : Prop where
  flagReg : FlagRegister.tf u.flagReg = false
  rip : u.ip + u.vmcs .vmExitInstructionLen = next
  gpRegs : u.gpRegs = { GpRegisters.pushed s.register with sp := s.register rsp }
  vmContinue : u.vmContinue = true
  stack : u.vmcs .guestRsp = s.register rsp
  noEvent : (u.vmcs .vmEntryIntrInfoField).getLsbD 31 = false

theorem Succeeding.resumes {s : Cpu (AsmWorld B C)} {u : VmmState B C} (h : Succeeding next s u) :
    VmcallResumes next s (vmmpIndicateSuccessfulVmcall u) := by
  have htf : FlagRegister.tf (FlagRegister.clearStatus u.flagReg) = false :=
    (ExitState.tf_clearStatus u.flagReg).trans h.flagReg
  have hsuccess : vmmpIndicateSuccessfulVmcall u = utilVmWrite .guestRip
      (u.ip + u.vmcs .vmExitInstructionLen) (utilVmWrite .guestRflags
        (FlagRegister.clearStatus u.flagReg) { u with
          flagReg := FlagRegister.clearStatus u.flagReg }) := by
    simp [vmmpIndicateSuccessfulVmcall, vmmpAdjustGuestInstructionPointer, htf, utilVmWrite,
      utilVmRead]
  rw [hsuccess]
  refine ⟨h.vmContinue, fun r hr => ?_, ?_, ?_, ?_⟩
  · exact (congrArg (GpRegisters.select · r) h.gpRegs).trans (pushed_select _ _ hr)
  · simpa [utilVmWrite] using h.rip
  · simpa [utilVmWrite] using h.stack
  · simpa [utilVmWrite] using h.noEvent

/-- What the guest of a hypercall goes on with. -/
theorem AtVmxCall.leaves {s : Cpu (AsmWorld B C)} (hs : AtVmxCall l base number s) (m : Machine B) :
    let v := vmmpHandleVmCall m (captureGuestContext (vmcallState base next s))
    VmcallResumes next s v ∨ VmcallExits next s v := by
  intro v
  have hplace : s.rip + (next - s.rip) = next := by
    rw [BitVec.add_comm, BitVec.sub_add_cancel]
  have hcall : HypercallNumber.ofValue
      ((captureGuestContext (vmcallState base next s)).gpRegs.cx.setWidth 32) = some number := by
    rw [hs.calls.number, BitVec.setWidth_setWidth_of_le _ (by decide), BitVec.setWidth_eq]
    exact HypercallNumber.ofValue_eq_some.2 rfl
  have hcpl : vmmpGetGuestCpl (captureGuestContext (vmcallState base next s)) = 0 := by
    rw [vmmpGetGuestCpl, utilVmRead, hs.calls.kernel]
    decide
  have hstart : Succeeding next s (captureGuestContext (vmcallState base next s)) :=
    ⟨hs.noTrap, hplace, rfl, rfl, rfl, by simp [captureGuestContext, vmcallState, calledState,
      vmcallExit]⟩
  obtain ⟨hflags, hrip, hregs, hcont, hstack, hinfo⟩ := hstart
  simp only [v, vmmpHandleVmCall, hcall]
  cases number with
  | terminateVmm =>
    simp only [hcpl, if_true]
    refine Or.inr ⟨rfl, fun r hr => ?_, hrip, rfl⟩
    simp only [nonvolatile, List.mem_cons, List.not_mem_nil, or_false] at hr
    rcases hr with rfl | rfl | rfl | rfl | rfl | rfl | rfl | rfl <;> rfl
  | pingVmm => exact Or.inl (Succeeding.resumes ⟨hflags, hrip, hregs, hcont, hstack, hinfo⟩)
  | getSharedProcessorData =>
    exact Or.inl (Succeeding.resumes ⟨hflags, hrip, hregs, hcont, hstack, hinfo⟩)
  | enableVmmDeviceMonitor =>
    exact Or.inl (Succeeding.resumes ⟨hflags, hrip, hregs, hcont, hstack, hinfo⟩)
  | disableVmmDeviceMonitor =>
    exact Or.inl (Succeeding.resumes ⟨hflags, hrip, hregs, hcont, hstack, hinfo⟩)

/-- The guest is back in `AsmVmxCall`. -/
structure BackInVmxCall (base next : BitVec 64) (number : HypercallNumber)
    (s : Cpu (AsmWorld B C)) (v : VmmState B C) (flags : BitVec 64) (u : Cpu (AsmWorld B C)) :
    Prop where
  rip : u.rip = next
  stack : u.register rsp = s.register rsp
  register : ∀ r ∈ nonvolatile, u.register r = s.register r
  flags : vmxStatusOf u.flags = vmxStatusOf flags
  xmm : u.xmm = s.xmm
  vmx : u.world.vmx = v.vmContinue
  vmm : ∃ memory : Memory, (∀ b, ¬OnVmmStack base b → memory b = s.memory b) ∧
    u.world.exit.toVmmState = { v with memory := storedMemory base next number s memory }
  memory : ∀ b, ¬OnVmmStack base b → ¬Within (s.register rsp - 8) 8 b →
    u.memory b = u.world.exit.memory b

theorem BackInVmxCall.returns {x : Vmx (AsmWorld B C)} {s u : Cpu (AsmWorld B C)}
    {v : VmmState B C} {flags : BitVec 64} (hl : l.Loaded code)
    (hnext : code l.asmVmxCall = some (.external .vmcall, next))
    (hs : AtVmxCall l base number s)
    (hv : v.memory = storedMemory base next number s s.memory)
    (h : BackInVmxCall base next number s v flags u) :
    Ensures code (asmExt x) (VmxCallReturned base (vmxStatusOf flags) v s) u := by
  obtain ⟨memory, hmemory, hvmm⟩ := h.vmm
  have hexit : u.world.exit.memory = _ := congrArg VmmState.memory hvmm
  have hshared : ∀ b, ¬OnVmmStack base b → u.world.exit.memory b = v.memory b := fun b hb => by
    rw [hexit, hv]
    exact stored_congr (hmemory b hb) _
  refine ensures_vmxStatus hl (h.rip ▸ hnext) fun t hrip hreg hxmm hmem hworld => .here ?_
  refine ⟨hrip.trans ?_, ?_, ?_, fun r hr => ?_, hxmm.trans h.xmm,
    (congrArg AsmWorld.vmx hworld).trans h.vmx, ?_, fun b hb hb' => ?_⟩
  · rw [Cpu.top, h.stack]
    refine Memory.read_congr fun b hb => ?_
    have hcaller : Within (s.register rsp - 8) 16 b := by
      rw [BitVec.toNat_sub] at hb
      simp only [Within, BitVec.toNat_sub, show (8 : BitVec 64).toNat = 8 from rfl]
      omega
    have hbelow : ¬Within (s.register rsp - 8) 8 b := by
      rw [BitVec.toNat_sub] at hb
      simp only [Within, BitVec.toNat_sub, show (8 : BitVec 64).toNat = 8 from rfl]
      omega
    have hstack := hs.stack b hcaller
    rw [h.memory b hstack hbelow, hexit]
    exact (hs.stored_of_not memory (Or.inr hcaller)).trans (hmemory b hstack)
  · rw [hreg, Function.update_self, h.stack]
  · rw [hreg, Function.update_of_ne (by decide), Function.update_self, h.flags]
  · have hvolatile : rsp ∉ nonvolatile ∧ rax ∉ nonvolatile := by decide
    rw [hreg, Function.update_of_ne (ne_of_mem_of_not_mem hr hvolatile.1),
      Function.update_of_ne (ne_of_mem_of_not_mem hr hvolatile.2), h.register r hr]
  · rw [hworld, hvmm]
  · rw [hmem, h.memory b hb hb', hshared b hb]

/-- The handler of a hypercall returned. It left the VMM in the state `v`, but for what is on its
stack. -/
structure HandledVmxCall (base next : BitVec 64) (number : HypercallNumber)
    (s : Cpu (AsmWorld B C)) (v : VmmState B C) (memory : Memory) (e : ExitState B C) : Prop where
  state : e.toVmmState = { v with memory := storedMemory base next number s memory }
  memory : ∀ b, ¬OnVmmStack base b → memory b = s.memory b
  result : v.memory = storedMemory base next number s s.memory

section Handled

variable {m : ExitMachine B} {depth : ℕ} {hdepth : depth ≤ 0x5D60}
  {routine : BitVec 64 → BitVec 64 → BitVec 64 → AsmWorld B C → Bool × AsmWorld B C}
  {s s₁ t : Cpu (AsmWorld B C)} {v : VmmState B C} {memory : Memory} {e : ExitState B C}

/-- VMRESUME after a hypercall. -/
theorem HandledVmxCall.resumed (h : HandledVmxCall base next number s v memory e)
    (hl : l.Loaded code) (hnext : code l.asmVmxCall = some (.external .vmcall, next))
    (hs : AtVmxCall l base number s) (hresumes : VmcallResumes next s v) (hxmm : s₁.xmm = s.xmm)
    (hafter : Handled.After base s₁ ⟨e.vmContinue, e.gpRegs, e.memory, ⟨e, true⟩⟩ t.register
      e.gpRegs.frame t)
    (hcode : Laid code t.rip (Listing.asmPopaq ++ [.external .vmresume, .jmp l.vmxError])
      l.exitVm) :
    Ensures code (asmExt (exitVmx m routine depth hdepth))
      (VmxCallReturned base (vmxStatusOf (v.vmcs .guestRflags)) v s) t := by
  have hvmcs : e.vmcs = v.vmcs := (congrArg VmmState.vmcs h.state).trans rfl
  have hregs : e.gpRegs = v.gpRegs := (congrArg VmmState.gpRegs h.state).trans rfl
  refine ensures_vmresume hafter hcode fun t₁ ht₁ => ?_
  obtain ⟨next', after, hvmresume, -⟩ := ht₁.code
  obtain ⟨trap, -, hframes⟩ := ht₁.after.frames
  have hworld : t₁.world = ⟨e, true⟩ := ht₁.after.world
  have hext : ∀ u, asmExt (exitVmx m routine depth hdepth) .vmresume next' t₁ u ↔
      u = { t₁.set rsp (s.register rsp) with rip := next, flags := v.vmcs .guestRflags } :=
    fun u => by
      simp only [asmExt, exitVmx, hworld, hvmcs, hresumes.noEvent, hresumes.rip, hresumes.stack,
        Bool.false_eq_true, if_false]
  refine .external hvmresume ⟨_, (hext _).2 rfl⟩ fun u hu => ?_
  rw [(hext u).1 hu]
  refine BackInVmxCall.returns hl hnext hs h.result ⟨rfl, t₁.set_self rsp _, fun r hr => ?_, rfl,
    ht₁.after.xmm.trans hxmm, ?_, ⟨memory, h.memory, ?_⟩, fun b hb _ => ?_⟩
  · have hne : r ≠ rsp := ne_of_mem_of_not_mem hr (by decide)
    refine (Cpu.set_of_ne hne _ _).trans ((hframes.register r hne).trans ?_)
    rw [hregs]
    exact hresumes.register r hne
  · exact (congrArg AsmWorld.vmx hworld).trans hresumes.vmContinue.symm
  · exact (congrArg (fun w => w.exit.toVmmState) hworld).trans h.state
  · exact (ht₁.after.memory b hb).trans (congrArg (fun w => w.exit.memory b) hworld).symm

/-- VMXOFF after a hypercall. -/
theorem HandledVmxCall.left (h : HandledVmxCall base next number s v memory e)
    (hl : l.Loaded code) (hnext : code l.asmVmxCall = some (.external .vmcall, next))
    (hs : AtVmxCall l base number s) (hexits : VmcallExits next s v) (hxmm : s₁.xmm = s.xmm)
    (hafter : Handled.After base s₁ ⟨e.vmContinue, e.gpRegs, e.memory, ⟨e, true⟩⟩ t.register
      e.gpRegs.frame t)
    (hcode : t.rip = l.exitVm) :
    Ensures code (asmExt (exitVmx m routine depth hdepth))
      (VmxCallReturned base (vmxStatusOf v.gpRegs.ax) v s) t := by
  have hregs : e.gpRegs = v.gpRegs := (congrArg VmmState.gpRegs h.state).trans rfl
  refine ensures_vmxoff hl hafter hcode fun t₁ ht₁ => ensures_leftVmx ht₁ rfl fun t₂ ht₂ => ?_
  have hworld : t₂.world = ⟨e, false⟩ := ht₂.world
  have hregister : t₂.register = Function.update v.gpRegs.select rsp v.gpRegs.dx := by
    rw [← hregs]
    exact ht₂.register
  refine BackInVmxCall.returns hl hnext hs h.result ⟨?_, ?_, fun r hr => ?_, ?_,
    ht₂.xmm.trans hxmm, ?_, ⟨memory, h.memory, ?_⟩, fun b hb hb' => ?_⟩
  · exact ht₂.rip.trans ((congrArg GpRegisters.cx hregs).trans hexits.rip)
  · rw [hregister, Function.update_self, hexits.stack]
  · have hne : r ≠ rsp := ne_of_mem_of_not_mem hr (by decide)
    rw [hregister, Function.update_of_ne hne]
    exact hexits.register r hr
  · have hflags : t₂.flags = loadFlags e.gpRegs.ax := ht₂.flags
    rw [hflags, hregs]
    exact vmxStatusOf_loadFlags _
  · exact (congrArg AsmWorld.vmx hworld).trans hexits.vmContinue.symm
  · exact (congrArg (fun w => w.exit.toVmmState) hworld).trans h.state
  · have hdx : e.gpRegs.dx = s.register rsp := (congrArg GpRegisters.dx hregs).trans hexits.stack
    have hleft := ht₂.memory b hb (by dsimp only; rw [hdx]; exact hb')
    exact hleft.trans (congrArg (fun w => w.exit.memory b) hworld).symm

end Handled

end Hypercall

/-- **Hypercalls.** A hypercall through `AsmVmxCall`, the exit, the entry point, the handler and
VMRESUME or VMXOFF returns the status of the model, leaves the VMM in the state of the model, and
follows the calling convention. -/
theorem asmVmxCall_refines {B C : Type} (m : ExitMachine B)
    (routine : BitVec 64 → BitVec 64 → BitVec 64 → AsmWorld B C → Bool × AsmWorld B C) (depth : ℕ)
    (hdepth : depth ≤ 0x5D60) {l : AsmLabels} {base next : BitVec 64} {number : HypercallNumber}
    {code : BitVec 64 → Option (Instruction AsmExtern × BitVec 64)} (hl : l.Loaded code)
    (hnext : code l.asmVmxCall = some (.external .vmcall, next)) (s : Cpu (AsmWorld B C))
    (hs : AtVmxCall l base number s) :
    let r := asmVmxCall m.toMachine number (s.register rdx) (vmcallState base next s)
    Ensures code (asmExt (exitVmx m routine depth hdepth)) (VmxCallReturned base r.1 r.2 s) s := by
  intro r
  obtain ⟨v, hv⟩ : ∃ v, v = vmmpHandleVmCall m.toMachine
      (captureGuestContext (vmcallState base next s)) := ⟨_, rfl⟩
  have hr : r = (vmxStatusOf (if v.vmContinue then v.vmcs .guestRflags else v.gpRegs.ax), v) := by
    have hat : atVmCall number (s.register rdx) (vmcallState base next s) =
        vmcallState base next s := hs.atVmCall_eq
    rw [hv, ← hat]
    rfl
  rw [hr]
  have hmemory : v.memory = storedMemory base next number s s.memory := by
    rw [hv]
    exact congrArg VmmState.memory (hs.calls.withMemory m.toMachine s.memory)
  -- the exit
  obtain ⟨s₁, hs₁⟩ : ∃ s₁ : Cpu (AsmWorld B C), s₁ = { s.set rsp base with
      rip := l.asmVmmEntryPoint
      flags := 2
      world := { s.world with exit := { s.world.exit with
        vmcs := vmcallExit s.rip (s.register rsp) s.flags (next - s.rip)
          s.world.exit.vmcs } } } := ⟨_, rfl⟩
  have hexit : ∀ u, asmExt (exitVmx m routine depth hdepth) .vmcall next s u ↔ u = s₁ := fun u => by
    simp only [asmExt, exitVmx, hs.vmx, if_true, Option.some.injEq, exists_eq_left', hs.hostRip,
      hs.hostRsp, hs₁]
  refine .external (by rw [hs.rip]; exact hnext) ⟨s₁, (hexit s₁).2 rfl⟩ fun u hu => ?_
  rw [(hexit u).1 hu]
  have hentry : AtEntryPoint l base s₁ := by
    rw [hs₁]
    exact ⟨rfl, s.set_self rsp base, hs.aligned⟩
  -- the handler
  have hhandled : ∀ memory : Memory, ∃ e' : ExitState B C,
      (exitVmx m routine depth hdepth).vmmVmExitHandler (.pushed s₁.register)
        (s₁.memory.read (base + 0x28)) memory s₁.world =
          some ⟨e'.vmContinue, e'.gpRegs, e'.memory, ⟨e', true⟩⟩ ∧
        e'.toVmmState = { v with memory := storedMemory base next number s memory } :=
      fun memory => by
    obtain ⟨e', he', hstate⟩ := hs.handled m memory
    refine ⟨e', ?_, hv ▸ hstate⟩
    rw [hs₁, ← hs.vmx]
    exact congrArg (Option.map fun e : ExitState B C =>
      (⟨e.vmContinue, e.gpRegs, e.memory, ⟨e, s.world.vmx⟩⟩ : Handled (AsmWorld B C))) he'
  refine vmmEntryPoint_handles hl hentry (fun memory hmem => ?_) fun r' t hr' hafter hcode => ?_
  · obtain ⟨e', he', hstate⟩ := hhandled memory
    refine ⟨_, he', fun b hb => ?_⟩
    exact (congrFun (congrArg VmmState.memory hstate) b).trans (hs.stored_of_not memory (Or.inl hb))
  obtain ⟨memory, hmem, hh⟩ := hr'
  obtain ⟨e', he', hstate⟩ := hhandled memory
  obtain rfl : r' = ⟨e'.vmContinue, e'.gpRegs, e'.memory, ⟨e', true⟩⟩ :=
    Option.some.inj (hh.symm.trans he')
  have hcont : e'.vmContinue = v.vmContinue :=
    (congrArg VmmState.vmContinue hstate).trans rfl
  have hmem₁ : ∀ b, ¬OnVmmStack base b → memory b = s.memory b := by
    rw [hs₁] at hmem
    exact hmem
  have hxmm₁ : s₁.xmm = s.xmm := by rw [hs₁]; rfl
  have hreturned : HandledVmxCall base next number s v memory e' := ⟨hstate, hmem₁, hmemory⟩
  dsimp only at hcode
  rcases hs.leaves m.toMachine with hresumes | hexits
  · rw [← hv] at hresumes
    rw [hcont, hresumes.vmContinue, if_pos rfl] at hcode
    rw [hresumes.vmContinue, if_pos rfl]
    exact hreturned.resumed hl hnext hs hresumes hxmm₁ hafter hcode
  · rw [← hv] at hexits
    rw [hcont, hexits.vmContinue] at hcode
    rw [hexits.vmContinue]
    exact hreturned.left hl hnext hs hexits hxmm₁ hafter hcode

/-- A driver at `AsmVmxCall`, for a word at 0x7000. -/
def callingCpu (number : HypercallNumber) : Cpu (AsmWorld (BitVec 32) Unit) :=
  { someCpu 207 0x8000 ⟨{ cr3Read 0 with
      vmcs := fun
        | .guestSsArBytes => 0x4093
        | .hostRip => 106
        | .hostRsp => 0xFFFD0
        | _ => 0 }, true⟩ with
    register := Function.update (Function.update (Function.update someRegisters rsp 0x8000) rcx
      (number.value.setWidth 64)) rdx 0x7000 }

theorem callingCpu_atVmxCall (number : HypercallNumber) :
    AtVmxCall placedLabels 0xFFFD0 number (callingCpu number) := by
  have hrsp : (callingCpu number).register rsp = 0x8000 := rfl
  have hrdx : (callingCpu number).register rdx = 0x7000 := rfl
  have literals : (0xFFFD0 : BitVec 64).toNat = 0xFFFD0 ∧ (0x5FD0 : BitVec 64).toNat = 0x5FD0 ∧
      (0x8000 : BitVec 64).toNat = 0x8000 ∧ (0x7000 : BitVec 64).toNat = 0x7000 ∧
      (8 : BitVec 64).toNat = 8 := by decide
  have htf : FlagRegister.tf 0x202 = false := by decide
  refine ⟨rfl, rfl, rfl, rfl, htf, rfl, rfl, by decide, fun b hb => ?_, fun _ b hb => ?_⟩
  · rw [hrsp] at hb
    simp only [OnVmmStack, Within, BitVec.toNat_sub, literals] at hb ⊢
    omega
  · rw [hrdx] at hb
    rw [hrsp]
    simp only [OnVmmStack, Within, BitVec.toNat_sub, literals] at hb ⊢
    omega

theorem asmVmxCall_refines_shared : Ensures (place 0 placedCode)
    (asmExt (exitVmx idleMachine noRoutine 0x1000 (by decide)))
    (fun t => t.rip = (callingCpu .getSharedProcessorData).top ∧ t.register rax = 0)
    (callingCpu .getSharedProcessorData) := by
  refine (asmVmxCall_refines idleMachine noRoutine 0x1000 (by decide) placed_loaded rfl _
    (callingCpu_atVmxCall .getSharedProcessorData)).trans fun t ht =>
      .here ⟨ht.rip, ht.result.trans ?_⟩
  rfl

end DeviceMon
