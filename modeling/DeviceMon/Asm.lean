import DeviceMon.GuestRegisters
import DeviceMon.X64

/-!
# The assembler code

`x64.asm` : `AsmInitializeVm` starts the guest where it was called, `AsmVmmEntryPoint` is where
the processor is after a VM exit, and `AsmVmxCall` makes a hypercall. What they leave to others is
`AsmExtern`, and `Vmx` says what that does.

The frame `PUSHAQ` leaves on the stack is the list `FrameState` works on (`effects_pushaq`,
`effects_popaq`).
-/

namespace DeviceMon

open X64

/-! ## Listings -/

/-- Calls and VMX instructions of the assembler code. -/
inductive AsmExtern where
  | vmmVmExitHandler
  | vmmVmxFailureHandler
  | utilDumpGpRegisters
  /-- `call rax`. -/
  | vmInitializationRoutine
  | vmcall
  | vmresume
  | vmxoff
deriving DecidableEq

def FrameInstruction.x64 : FrameInstruction → Instruction AsmExtern
  | push register => .push register
  | pushImmediate value => .pushImmediate value
  | pop register => .pop register
  | skip => .add rsp 8

namespace Listing

/-- `PUSHAQ`. -/
def asmPushaq : List (Instruction AsmExtern) :=
  pushaq.map FrameInstruction.x64

/-- `POPAQ`. -/
def asmPopaq : List (Instruction AsmExtern) :=
  popaq.map FrameInstruction.x64

/-- `ASM_DUMP_REGISTERS`. -/
def asmDumpRegisters : List (Instruction AsmExtern) :=
  [.pushfq] ++ asmPushaq ++
  [.mov rcx rsp, .mov rdx rsp, .add rdx (8 * 17),
    .sub rsp 0x28, .external .utilDumpGpRegisters, .add rsp 0x28] ++
  asmPopaq ++ [.popfq]

/-- `AsmInitializeVm`, up to `asmResumeVm`. -/
def asmInitializeVm (asmResumeVm : BitVec 64) : List (Instruction AsmExtern) :=
  [.pushfq] ++ asmPushaq ++
  [.mov rax rcx, .mov r8 rdx, .movImmediate rdx asmResumeVm, .mov rcx rsp,
    .sub rsp 0x20] ++
  .external .vmInitializationRoutine :: [.add rsp 0x20] ++
  asmPopaq ++ [.popfq, .xorSelf rax] ++ [.ret]

/-- `AsmInitializeVm` from `asmResumeVm` on. -/
def asmResumeVm : List (Instruction AsmExtern) :=
  [.nop] ++ asmPopaq ++ [.popfq, .sub rsp 8] ++ asmDumpRegisters ++
  [.add rsp 8, .xorSelf rax, .inc rax] ++ [.ret]

/-- `AsmVmmEntryPoint`, before the call of `VmmVmExitHandler`. The trap frame but for the machine
frame is `KTRAP_FRAME_SIZE - MACHINE_FRAME_SIZE` bytes. -/
def asmVmmPrologue : List (Instruction AsmExtern) :=
  [.sub rsp (0x190 - 0x28)] ++ asmPushaq ++
  [.mov rcx rsp, .sub rsp 0x68] ++
  [.storeXmm 0x00 0, .storeXmm 0x10 1, .storeXmm 0x20 2, .storeXmm 0x30 3, .storeXmm 0x40 4,
    .storeXmm 0x50 5] ++
  [.sub rsp 0x20]

/-- After it, up to the test of `vm_continue`. -/
def asmVmmReturn : List (Instruction AsmExtern) :=
  [.add rsp 0x20] ++
  [.loadXmm 0 0x00, .loadXmm 1 0x10, .loadXmm 2 0x20, .loadXmm 3 0x30, .loadXmm 4 0x40,
    .loadXmm 5 0x50] ++
  [.add rsp 0x68, .testAl]

/-- `AsmVmmEntryPoint`, up to `exitVm`. -/
def asmVmmEntryPoint (exitVm vmxError : BitVec 64) : List (Instruction AsmExtern) :=
  asmVmmPrologue ++ .external .vmmVmExitHandler :: asmVmmReturn ++
  .jz exitVm :: asmPopaq ++ [.external .vmresume, .jmp vmxError]

/-- `AsmVmmEntryPoint` from `exitVm` up to `vmxError`. -/
def exitVm (vmxError : BitVec 64) : List (Instruction AsmExtern) :=
  asmPopaq ++ [.external .vmxoff, .jz vmxError, .jc vmxError] ++
  [.push rax, .popfq, .mov rsp rdx, .push rcx] ++ [.ret]

/-- `AsmVmmEntryPoint` from `vmxError` on. -/
def vmxError : List (Instruction AsmExtern) :=
  [.pushfq] ++ asmPushaq ++ [.mov rcx rsp, .sub rsp 0x28] ++
  [.external .vmmVmxFailureHandler, .add rsp 0x28, .int3]

/-- `AsmVmxCall`, up to `errorWithoutCode`. -/
def asmVmxCall (errorWithoutCode errorWithCode : BitVec 64) : List (Instruction AsmExtern) :=
  [.external .vmcall, .jz errorWithCode, .jc errorWithoutCode, .xorSelf rax, .ret]

end Listing

/-- The addresses of the labels. -/
structure AsmLabels where
  asmInitializeVm : BitVec 64
  asmResumeVm : BitVec 64
  asmVmmEntryPoint : BitVec 64
  exitVm : BitVec 64
  vmxError : BitVec 64
  asmVmxCall : BitVec 64
  errorWithoutCode : BitVec 64
  errorWithCode : BitVec 64

/-- `code` has the procedures at these addresses. -/
structure AsmLabels.Loaded (l : AsmLabels)
    (code : BitVec 64 → Option (Instruction AsmExtern × BitVec 64)) : Prop where
  initializeVm : Laid code l.asmInitializeVm (Listing.asmInitializeVm l.asmResumeVm) l.asmResumeVm
  resumeVm : ∃ after, Laid code l.asmResumeVm Listing.asmResumeVm after
  vmmEntryPoint :
    Laid code l.asmVmmEntryPoint (Listing.asmVmmEntryPoint l.exitVm l.vmxError) l.exitVm
  exitVm : Laid code l.exitVm (Listing.exitVm l.vmxError) l.vmxError
  vmxError : ∃ after, Laid code l.vmxError Listing.vmxError after
  vmxCall : Laid code l.asmVmxCall (Listing.asmVmxCall l.errorWithoutCode l.errorWithCode)
    l.errorWithoutCode
  errorWithoutCode : Laid code l.errorWithoutCode [.movImmediate rax 2, .ret] l.errorWithCode
  errorWithCode : ∃ after, Laid code l.errorWithCode [.movImmediate rax 1, .ret] after

/-! ## A layout -/

/-- The labels, one procedure after the other. -/
def placedLabels : AsmLabels where
  asmInitializeVm := 0
  asmResumeVm := 43
  asmVmmEntryPoint := 106
  exitVm := 161
  vmxError := 185
  asmVmxCall := 207
  errorWithoutCode := 212
  errorWithCode := 214

/-- The procedures with these labels. -/
def placedCode : List (Instruction AsmExtern) :=
  Listing.asmInitializeVm placedLabels.asmResumeVm ++ Listing.asmResumeVm ++
  Listing.asmVmmEntryPoint placedLabels.exitVm placedLabels.vmxError ++
  Listing.exitVm placedLabels.vmxError ++ Listing.vmxError ++
  Listing.asmVmxCall placedLabels.errorWithoutCode placedLabels.errorWithCode ++
  [.movImmediate rax 2, .ret] ++ [.movImmediate rax 1, .ret]

theorem placed_loaded : placedLabels.Loaded (place 0 placedCode) := by
  have hfits : placedCode.length ≤ 2 ^ 64 := by decide +kernel
  exact ⟨Laid.place hfits (n := 0) rfl, ⟨_, Laid.place hfits (n := 43) rfl⟩,
    Laid.place hfits (n := 106) rfl, Laid.place hfits (n := 161) rfl,
    ⟨_, Laid.place hfits (n := 185) rfl⟩, Laid.place hfits (n := 207) rfl,
    Laid.place hfits (n := 212) rfl, ⟨_, Laid.place hfits (n := 214) rfl⟩⟩

/-! ## The frame -/

section Frame

variable {W : Type} {base : BitVec 64} {n : ℕ} {t : FrameState} {s s' s'' : Cpu W}
  {is : List FrameInstruction} {ws : List (BitVec 64)} {k : ℕ} {b flags : BitVec 64}
  {i : Instruction AsmExtern} {js js' : List (Instruction AsmExtern)}
  {register : BitVec 4 → BitVec 64}

/-- The processor has the registers of `t` besides RSP, and its stack, which ends at `base`. -/
structure Frames (base : BitVec 64) (t : FrameState) (s : Cpu W) : Prop where
  register : ∀ r, r ≠ rsp → s.register r = t.register r
  top : s.register rsp = base - BitVec.ofNat 64 (8 * t.stack.length)
  stack : Words s.memory (s.register rsp) t.stack

/-- Only general registers, flags and the `n` bytes below `base` differ. -/
structure Beside (base : BitVec 64) (n : ℕ) (s s' : Cpu W) : Prop where
  rip : s'.rip = s.rip
  xmm : s'.xmm = s.xmm
  world : s'.world = s.world
  memory : ∀ b, ¬Within (base - BitVec.ofNat 64 n) n b → s'.memory b = s.memory b

theorem Beside.refl (base : BitVec 64) (n : ℕ) (s : Cpu W) : Beside base n s s :=
  ⟨rfl, rfl, rfl, fun _ _ => rfl⟩

theorem Beside.trans (h : Beside base n s s') (h' : Beside base n s' s'') : Beside base n s s'' :=
  ⟨h'.rip.trans h.rip, h'.xmm.trans h.xmm, h'.world.trans h.world,
    fun b hb => (h'.memory b hb).trans (h.memory b hb)⟩

theorem Beside.mono (h : Beside base n s s') (hn : n ≤ k) : Beside base k s s' :=
  ⟨h.rip, h.xmm, h.world, fun b hb => h.memory b fun hw => hb (hw.below (Nat.le_refl n) hn)⟩

theorem Beside.memory_eq (h : Beside base 0 s s') : s'.memory = s.memory :=
  funext fun b => h.memory b (Nat.not_lt_zero _)

/-- What is above `base` stays. -/
theorem Beside.above (h : Beside base n s s') (hn : n + k ≤ 2 ^ 64) (hb : Within base k b) :
    s'.memory b = s.memory b := by
  refine h.memory b fun hw => ?_
  simp only [Within, BitVec.toNat_sub, BitVec.toNat_ofNat] at hb hw
  omega

/-- With any RSP they are the same. -/
theorem Frames.update_eq (h : Frames base t s) (value : BitVec 64) :
    Function.update s.register rsp value = Function.update t.register rsp value := by
  funext r
  by_cases hr : r = rsp
  · rw [hr, Function.update_self, Function.update_self]
  · rw [Function.update_of_ne hr, Function.update_of_ne hr, h.register r hr]

/-- A word below `base`. -/
theorem Frames.pushed (h : Frames base t s) (hn : 8 * (t.stack.length + 1) ≤ n)
    (hfits : n ≤ 2 ^ 64) (value : BitVec 64) :
    Frames base { t with stack := value :: t.stack } (s.pushed value) ∧
      Beside base n s (s.pushed value) := by
  have htop : s.register rsp - 8 = base - BitVec.ofNat 64 (8 * (t.stack.length + 1)) := by
    rw [h.top, Nat.mul_succ, BitVec.ofNat_add]
    exact BitVec.sub_sub _ _ _
  have hrsp : (s.pushed value).register rsp = s.register rsp - 8 := s.set_self rsp _
  refine ⟨⟨fun r hr => ?_, hrsp.trans htop, ?_⟩, rfl, rfl, rfl, fun b hb => if_neg fun hw => hb ?_⟩
  · exact (Cpu.set_of_ne hr _ s).trans (h.register r hr)
  · rw [hrsp]
    exact h.stack.push (by omega) value
  · rw [htop] at hw
    exact Within.below (j := 8) hw (by omega) hn

/-- A word on the top is popped. -/
theorem Frames.popped {register : BitVec 4 → BitVec 64} {w : BitVec 64}
    (h : Frames base ⟨register, w :: ws⟩ s) :
    s.top = w ∧ Frames base ⟨register, ws⟩ s.popped := by
  have hrsp : s.popped.register rsp = s.register rsp + 8 := s.set_self rsp _
  refine ⟨h.stack.1, fun r hr => (Cpu.set_of_ne hr _ s).trans (h.register r hr), ?_, ?_⟩
  · rw [hrsp, h.top, List.length_cons, Nat.mul_succ, BitVec.ofNat_add, ← BitVec.sub_sub]
    exact BitVec.sub_add_cancel _ _
  · rw [hrsp]
    exact h.stack.2

/-- A register besides RSP is loaded. -/
theorem Frames.set {r : BitVec 4} (h : Frames base t s) (hr : r ≠ rsp) (value : BitVec 64) :
    Frames base { t with register := Function.update t.register r value } (s.set r value) := by
  have hrsp : (s.set r value).register rsp = s.register rsp := Cpu.set_of_ne hr.symm _ s
  refine ⟨fun r' hr' => ?_, hrsp.trans h.top, by rw [hrsp]; exact h.stack⟩
  change _ = Function.update t.register r value r'
  by_cases hrr : r' = r
  · rw [hrr, Cpu.set_self, Function.update_self]
  · rw [Cpu.set_of_ne hrr, Function.update_of_ne hrr, h.register r' hr']

/-- An instruction of `PUSHAQ`. -/
def FrameInstruction.Pushes : FrameInstruction → Prop
  | push register => register ≠ rsp
  | pushImmediate _ => True
  | _ => False

/-- An instruction of `POPAQ`. -/
def FrameInstruction.Pops : FrameInstruction → Prop
  | pop register => register ≠ rsp
  | skip => True
  | _ => False

theorem Frames.pushes (his : ∀ i ∈ is, i.Pushes) (h : Frames base t s)
    (hn : 8 * (t.stack.length + is.length) ≤ n) (hfits : n ≤ 2 ^ 64) :
    ∃ s', effects (is.map FrameInstruction.x64) s = some s' ∧ Frames base (t.run is) s' ∧
      Beside base n s s' ∧ s'.flags = s.flags := by
  induction is generalizing t s with
  | nil => exact ⟨s, rfl, h, .refl _ _ _, rfl⟩
  | cons i is ih =>
    obtain ⟨value, heffect, hstep⟩ : ∃ value, i.x64.effect s = some (s.pushed value) ∧
        t.step i = { t with stack := value :: t.stack } := by
      have hi := his i List.mem_cons_self
      cases i with
      | push register => exact ⟨s.register register, rfl, by rw [h.register register hi]; rfl⟩
      | pushImmediate value => exact ⟨value, rfl, rfl⟩
      | pop | skip => exact hi.elim
    rw [List.length_cons] at hn
    obtain ⟨hpushed, hbeside⟩ := h.pushed (by omega) hfits value
    obtain ⟨s', heffects, hframes, hrest, hflags⟩ :=
      ih (fun i hi => his i (List.mem_cons_of_mem _ hi)) hpushed (by simp; omega)
    refine ⟨s', ?_, ?_, hbeside.trans hrest, hflags⟩
    · rw [List.map_cons, effects, heffect]
      exact heffects
    · rw [FrameState.run, List.foldl_cons, hstep]
      exact hframes

theorem Frames.pops (his : ∀ i ∈ is, i.Pops) (h : Frames base t s)
    (hlen : is.length ≤ t.stack.length) :
    ∃ s', effects (is.map FrameInstruction.x64) s = some s' ∧ Frames base (t.run is) s' ∧
      Beside base 0 s s' := by
  induction is generalizing t s with
  | nil => exact ⟨s, rfl, h, .refl _ _ _⟩
  | cons i is ih =>
    obtain ⟨register, stack⟩ := t
    cases stack with
    | nil => simp at hlen
    | cons w ws =>
    obtain ⟨htop, hpopped⟩ := h.popped
    obtain ⟨s₁, heffect, hframes, hstack, hbeside⟩ : ∃ s₁, i.x64.effect s = some s₁ ∧
        Frames base (FrameState.step ⟨register, w :: ws⟩ i) s₁ ∧
        (FrameState.step ⟨register, w :: ws⟩ i).stack = ws ∧ Beside base 0 s s₁ := by
      have hi := his i List.mem_cons_self
      cases i with
      | pop r =>
        refine ⟨_, rfl, ?_, rfl, rfl, rfl, rfl, fun _ _ => rfl⟩
        rw [htop]
        exact hpopped.set hi w
      | skip =>
        exact ⟨_, rfl, ⟨hpopped.register, hpopped.top, hpopped.stack⟩, rfl, rfl, rfl, rfl,
          fun _ _ => rfl⟩
      | push | pushImmediate => exact hi.elim
    obtain ⟨s', heffects, hframes, hrest⟩ :=
      ih (fun i hi => his i (List.mem_cons_of_mem _ hi)) hframes (by
        rw [hstack]
        exact Nat.le_of_succ_le_succ hlen)
    refine ⟨s', ?_, hframes, hbeside.trans hrest⟩
    rw [List.map_cons, effects, heffect]
    exact heffects

/-- `PUSHAQ` leaves a `GpRegisters`. -/
theorem Frames.pushaq {register : BitVec 4 → BitVec 64} (h : Frames base ⟨register, ws⟩ s)
    (hn : 8 * (ws.length + 16) ≤ n) (hfits : n ≤ 2 ^ 64) :
    ∃ s', effects Listing.asmPushaq s = some s' ∧
      Frames base ⟨register, (GpRegisters.pushed register).frame ++ ws⟩ s' ∧
      Beside base n s s' ∧ s'.flags = s.flags := by
  have hpushes : ∀ i ∈ DeviceMon.pushaq, i.Pushes := by
    simp [DeviceMon.pushaq, FrameInstruction.Pushes]
  have hrun := h.pushes hpushes hn hfits
  rwa [run_pushaq] at hrun

/-- `POPAQ` after `PUSHAQ`. -/
theorem pushed_select (register : BitVec 4 → BitVec 64) (sp : BitVec 64) {r : BitVec 4}
    (hr : r ≠ rsp) : { GpRegisters.pushed register with sp := sp }.select r = register r := by
  obtain ⟨⟨i, hi⟩⟩ := r
  interval_cases i <;> first | rfl | exact (hr rfl).elim

/-- `POPAQ` loads it. -/
theorem Frames.popaq {register : BitVec 4 → BitVec 64} {regs : GpRegisters}
    (h : Frames base ⟨register, regs.frame ++ ws⟩ s) :
    ∃ s', effects Listing.asmPopaq s = some s' ∧ Frames base ⟨regs.select, ws⟩ s' ∧
      Beside base 0 s s' := by
  have hpops : ∀ i ∈ DeviceMon.popaq, i.Pops := by
    simp [DeviceMon.popaq, FrameInstruction.Pops]
  obtain ⟨s', heffects, hframes, hbeside⟩ := h.pops hpops (by
    rw [List.length_append]
    exact Nat.le_add_right_of_le (Nat.le_refl 16))
  rw [run_popaq] at hframes
  refine ⟨s', heffects, ⟨fun r hr => ?_, hframes.top, hframes.stack⟩, hbeside⟩
  exact (hframes.register r hr).trans (Function.update_of_ne hr _ _)

theorem effects_then (h : effects js s = some s') : effects (js ++ js') s = effects js' s' := by
  rw [effects_append, h]
  rfl

theorem effects_cons (h : i.effect s = some s') : effects (i :: js) s = effects js s' := by
  rw [effects, h]
  rfl

/-- `pushfq` and `PUSHAQ`. -/
theorem Frames.saved (h : Frames base ⟨register, ws⟩ s) (hn : 8 * (ws.length + 17) ≤ n)
    (hfits : n ≤ 2 ^ 64) :
    ∃ s', effects ([.pushfq] ++ Listing.asmPushaq) s = some s' ∧ Frames base
        ⟨register, (GpRegisters.pushed register).frame ++ (s.flags &&& 0xFCFFFF) :: ws⟩ s' ∧
      Beside base n s s' := by
  obtain ⟨hf₁, hb₁⟩ := h.pushed (by simp; omega) hfits (s.flags &&& 0xFCFFFF)
  obtain ⟨s₂, h₂, hf₂, hb₂, -⟩ := hf₁.pushaq (by simp; omega) hfits
  exact ⟨s₂, (effects_cons rfl).trans h₂, hf₂, hb₁.trans hb₂⟩

/-- `POPAQ` and `popfq`. -/
theorem Frames.restored {register' : BitVec 4 → BitVec 64}
    (h : Frames base ⟨register', (GpRegisters.pushed register).frame ++ flags :: ws⟩ s) :
    ∃ s', effects (Listing.asmPopaq ++ [.popfq]) s = some s' ∧ Frames base ⟨register, ws⟩ s' ∧
      Beside base 0 s s' := by
  obtain ⟨s₁, h₁, hf₁, hb₁⟩ := h.popaq
  obtain ⟨-, hf₂⟩ := hf₁.popped
  refine ⟨_, (effects_then h₁).trans (effects_cons rfl), ⟨fun r hr => ?_, hf₂.top, hf₂.stack⟩,
    hb₁.trans ⟨rfl, rfl, rfl, fun _ _ => rfl⟩⟩
  exact (hf₂.register r hr).trans (pushed_select register (-1) hr)

/-- Space is allocated. -/
theorem Frames.sub (h : Frames base t s) (k : ℕ) :
    ∃ junk s', junk.length = k ∧
      (Instruction.sub rsp (BitVec.ofNat 64 (8 * k)) : Instruction AsmExtern).effect s = some s' ∧
      Frames base { t with stack := junk ++ t.stack } s' ∧ Beside base 0 s s' := by
  obtain ⟨junk, hlen, hjunk⟩ :=
    Words.exists_words s.memory (s.register rsp - BitVec.ofNat 64 (8 * k)) k
  refine ⟨junk, _, hlen, rfl, ⟨fun r hr => ?_, ?_, ?_⟩, rfl, rfl, rfl, fun _ _ => rfl⟩
  · exact (Cpu.set_of_ne hr _ s).trans (h.register r hr)
  · have htop : s.register rsp - BitVec.ofNat 64 (8 * k) =
        base - BitVec.ofNat 64 (8 * (junk ++ t.stack).length) := by
      rw [h.top, List.length_append, hlen, Nat.mul_add, BitVec.ofNat_add, BitVec.sub_sub,
        BitVec.add_comm]
    exact (s.set_self rsp _).trans htop
  · rw [show Cpu.register _ rsp = _ from s.set_self rsp _]
    refine Words.append.2 ⟨hjunk, ?_⟩
    rw [hlen, BitVec.sub_add_cancel]
    exact h.stack

/-- Space is freed. -/
theorem Frames.add {xs : List (BitVec 64)} {register : BitVec 4 → BitVec 64}
    (h : Frames base ⟨register, xs ++ ws⟩ s) :
    ∃ s', (Instruction.add rsp (BitVec.ofNat 64 (8 * xs.length)) :
        Instruction AsmExtern).effect s = some s' ∧
      Frames base ⟨register, ws⟩ s' ∧ Beside base 0 s s' := by
  refine ⟨_, rfl, ⟨fun r hr => ?_, ?_, ?_⟩, rfl, rfl, rfl, fun _ _ => rfl⟩
  · exact (Cpu.set_of_ne hr _ s).trans (h.register r hr)
  · have htop : s.register rsp + BitVec.ofNat 64 (8 * xs.length) =
        base - BitVec.ofNat 64 (8 * ws.length) := by
      rw [h.top, List.length_append, Nat.mul_add, BitVec.ofNat_add,
        BitVec.add_comm (BitVec.ofNat 64 (8 * xs.length)), ← BitVec.sub_sub, BitVec.sub_add_cancel]
    exact (s.set_self rsp _).trans htop
  · rw [show Cpu.register _ rsp = _ from s.set_self rsp _]
    exact (Words.append.1 h.stack).2

/-! ## The XMM registers -/

/-- The places of the volatile XMM registers. -/
def xmmSlots : List (ℕ × Fin 16) :=
  [(0, 0), (1, 1), (2, 2), (3, 3), (4, 4), (5, 5)]

/-- The words after XMM registers are stored. -/
def withXmm (xmm : Fin 16 → BitVec 128) (stack : List (BitVec 64)) (slots : List (ℕ × Fin 16)) :
    List (BitVec 64) :=
  slots.foldl (fun stack (i, x) =>
    (stack.set (2 * i) ((xmm x).extractLsb' 0 64)).set (2 * i + 1)
      ((xmm x).extractLsb' 64 64)) stack

/-- A word of the stack is replaced. -/
theorem Frames.write (h : Frames base t s) {j : ℕ} (hj : j < t.stack.length)
    (hn : 8 * t.stack.length ≤ n) (hfits : n ≤ 2 ^ 64) (value : BitVec 64) :
    let s' := { s with memory := s.memory.write (s.register rsp + BitVec.ofNat 64 (8 * j)) value }
    Frames base { t with stack := t.stack.set j value } s' ∧ Beside base n s s' := by
  have hplace : s.register rsp + BitVec.ofNat 64 (8 * j) =
      base - BitVec.ofNat 64 (8 * (t.stack.length - j)) := by
    have hsplit : 8 * t.stack.length = 8 * (t.stack.length - j) + 8 * j := by omega
    rw [h.top, hsplit, BitVec.ofNat_add, ← BitVec.sub_sub, BitVec.sub_add_cancel]
  refine ⟨⟨h.register, ?_, h.stack.set (hn.trans hfits) hj value⟩, rfl, rfl, rfl,
    fun b hb => if_neg fun hw => hb ?_⟩
  · rw [List.length_set]
    exact h.top
  · rw [hplace] at hw
    exact Within.below (j := 8) hw (by omega) (by omega)

/-- The words of one register. -/
theorem xmmSlot_words (a : BitVec 64) (i : ℕ) :
    a + BitVec.ofNat 64 (16 * i) = a + BitVec.ofNat 64 (8 * (2 * i)) ∧
      a + BitVec.ofNat 64 (8 * (2 * i)) + 8 = a + BitVec.ofNat 64 (8 * (2 * i + 1)) := by
  refine ⟨by rw [← Nat.mul_assoc], ?_⟩
  rw [BitVec.add_assoc, Nat.mul_succ, BitVec.ofNat_add]
  rfl

theorem xmmSlot_aligned {a : BitVec 64} (halign : a.toNat % 16 = 0) (i : ℕ) :
    (a + BitVec.ofNat 64 (8 * (2 * i))).toNat % 16 = 0 := by
  rw [BitVec.toNat_add, BitVec.toNat_ofNat]
  omega

/-- Aligned registers are stored on the stack. -/
theorem Frames.storeXmm {slots : List (ℕ × Fin 16)} (h : Frames base t s)
    (halign : (s.register rsp).toNat % 16 = 0)
    (hslots : ∀ slot ∈ slots, 2 * slot.1 + 1 < t.stack.length) (hn : 8 * t.stack.length ≤ n)
    (hfits : n ≤ 2 ^ 64) :
    ∃ s', effects (slots.map fun slot =>
        (Instruction.storeXmm (BitVec.ofNat 64 (16 * slot.1)) slot.2 : Instruction AsmExtern)) s =
        some s' ∧
      Frames base { t with stack := withXmm s.xmm t.stack slots } s' ∧ Beside base n s s' ∧
      s'.register = s.register := by
  induction slots generalizing t s with
  | nil => exact ⟨s, rfl, h, .refl _ _ _, rfl⟩
  | cons slot slots ih =>
    obtain ⟨i, x⟩ := slot
    have hi : 2 * i + 1 < t.stack.length := hslots (i, x) List.mem_cons_self
    obtain ⟨hplace, hnext⟩ := xmmSlot_words (s.register rsp) i
    obtain ⟨hlow, hlow'⟩ := h.write (j := 2 * i) (by omega) hn hfits
      ((s.xmm x).extractLsb' 0 64)
    obtain ⟨hhigh, hhigh'⟩ := hlow.write (j := 2 * i + 1) (by simpa using hi) (by simpa using hn)
      hfits ((s.xmm x).extractLsb' 64 64)
    obtain ⟨s', heffects, hframes, hbeside, hregister⟩ := ih hhigh halign
      (fun slot hslot => by simpa using hslots slot (List.mem_cons_of_mem _ hslot))
      (by simpa using hn)
    refine ⟨s', ?_, hframes, (hlow'.trans hhigh').trans hbeside, hregister⟩
    rw [List.map_cons, effects]
    simp only [Instruction.effect, hplace, hnext]
    rw [if_neg (not_not.2 (xmmSlot_aligned halign i))]
    exact heffects

/-- They are loaded. -/
theorem effects_loadXmm {slots : List (ℕ × Fin 16)} (s : Cpu W)
    (halign : (s.register rsp).toNat % 16 = 0) :
    effects (slots.map fun slot =>
        (Instruction.loadXmm slot.2 (BitVec.ofNat 64 (16 * slot.1)) : Instruction AsmExtern)) s =
      some { s with xmm := slots.foldl (fun xmm slot => Function.update xmm slot.2
        (s.memory.read (s.register rsp + BitVec.ofNat 64 (8 * (2 * slot.1 + 1))) ++
          s.memory.read (s.register rsp + BitVec.ofNat 64 (8 * (2 * slot.1))))) s.xmm } := by
  induction slots generalizing s with
  | nil => rfl
  | cons slot slots ih =>
    obtain ⟨i, x⟩ := slot
    obtain ⟨hplace, hnext⟩ := xmmSlot_words (s.register rsp) i
    rw [List.map_cons, effects]
    simp only [Instruction.effect, hplace, hnext]
    rw [if_neg (not_not.2 (xmmSlot_aligned halign i))]
    exact ih _ halign

end Frame

end DeviceMon
