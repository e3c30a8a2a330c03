import DeviceMon.Asm

/-!
# The entry point of the VMM

`AsmVmmEntryPoint` : it saves the guest's registers, calls `VmmVmExitHandler` on them and loads
what that leaves (`vmmEntryPoint_handles`). Then the guest goes on, by VMRESUME, or after VMXOFF at
the address in RCX. If one of these fails, it calls `VmmVmxFailureHandler`.

`Vmx` is what the assembler code calls and the VMX instructions do. The called functions follow
the calling convention, so they run only with an aligned stack.
-/

namespace DeviceMon

open X64

/-! ## Calls and VMX instructions -/

/-- How a VMX instruction ends. -/
inductive VmxOutcome (A : Type) where
  | succeed (result : A)
  | failInvalid
  | failValid

/-- The flags after it. -/
def VmxOutcome.flags {A : Type} (flags : BitVec 64) : VmxOutcome A → BitVec 64
  | succeed _ => flags &&& ~~~0x8D5
  | failInvalid => flags &&& ~~~0x8D5 ||| 1
  | failValid => flags &&& ~~~0x8D5 ||| 0x40

def VmxOutcome.failed {A : Type} : VmxOutcome A → Bool
  | succeed _ => false
  | _ => true

theorem VmxOutcome.flags_failed {A : Type} {o : VmxOutcome A} (h : o.failed = true)
    (flags : BitVec 64) : (zero (o.flags flags) || carry (o.flags flags)) = true := by
  cases o with
  | succeed result => cases h
  | failInvalid => simp [VmxOutcome.flags, carry]
  | failValid => simp [VmxOutcome.flags, zero]

/-- What `VmmVmExitHandler` returns and leaves. -/
structure Handled (W : Type) where
  vmContinue : Bool
  gpRegs : GpRegisters
  memory : Memory
  world : W

/-- What the assembler code leaves to others. -/
structure Vmx (W : Type) where
  /-- `VmmVmExitHandler` on `gp_regs`, `processor_data` and memory. -/
  vmmVmExitHandler : GpRegisters → BitVec 64 → Memory → W → Option (Handled W)
  /-- The routine on `guest_stack_pointer`, `guest_instruction_pointer` and `context` : whether it
  launches the guest. -/
  vmInitializationRoutine : BitVec 64 → BitVec 64 → BitVec 64 → W → Bool × W
  /-- The exit of a guest with this RIP, RSP, RFLAGS and instruction length. It loads RIP and
  RSP. -/
  vmcall : BitVec 64 → BitVec 64 → BitVec 64 → BitVec 64 → W → Option (BitVec 64 × BitVec 64 × W)
  /-- RIP, RSP and RFLAGS of the guest, if nothing is injected. -/
  vmresume : W → Option (VmxOutcome (BitVec 64 × BitVec 64 × BitVec 64))
  vmxoff : W → VmxOutcome W
  /-- The stack below RSP that a function uses. `KERNEL_STACK_SIZE` has room for it. -/
  depth : ℕ
  depth_le : depth ≤ 0x5D60

/-- The stack is aligned, as a call requires. -/
def Aligned {W : Type} (s : Cpu W) : Prop :=
  (s.register rsp).toNat % 16 = 0

/-- `VmmInitialStack` is at `stack` : the registers, the trap frame and `processor_data`. The
handler writes nothing of it but the first two. -/
structure HandlerCall {W : Type} (x : Vmx W) (next : BitVec 64) (s s' : Cpu W) (regs : GpRegisters)
    (r : Handled W) (memory : Memory) : Prop where
  gpRegs : Words s.memory (s.register rcx) regs.frame
  handled :
    x.vmmVmExitHandler regs (s.memory.read (s.register rcx + 0x210)) s.memory s.world = some r
  frame : Words memory (s.register rcx) r.gpRegs.frame
  outside : ∀ b, ¬Within (s.register rcx) 0x210 b → memory b = r.memory b
  returned : Returned next x.depth memory s s'
  vmContinue : (s'.register rax).extractLsb' 0 8 = 0 ↔ r.vmContinue = false
  world : s'.world = r.world

/-- The effect of what the assembler code leaves to others. -/
def asmExt {W : Type} (x : Vmx W) : AsmExtern → BitVec 64 → Cpu W → Cpu W → Prop
  | .vmmVmExitHandler, next, s, s' =>
    Aligned s ∧ ∃ regs r memory, HandlerCall x next s s' regs r memory
  -- it does not return
  | .vmmVmxFailureHandler, _, _, _ => False
  | .utilDumpGpRegisters, next, s, s' =>
    Aligned s ∧ Returned next x.depth s.memory s s' ∧ s'.world = s.world
  | .vmInitializationRoutine, next, s, s' =>
    let r := x.vmInitializationRoutine (s.register rcx) (s.register rdx) (s.register r8) s.world
    -- the frame of the caller stays
    Aligned s ∧ s'.world = r.2 ∧
      (∀ b, Within (s.register rsp + 0x20) 0x90 b → s'.memory b = s.memory b) ∧
      if r.1 then s'.rip = s.register rdx ∧ s'.register rsp = s.register rcx
      else s'.rip = next ∧ s'.register rsp = s.register rsp
  | .vmcall, next, s, s' =>
    ∃ r, x.vmcall s.rip (s.register rsp) s.flags (next - s.rip) s.world = some r ∧
      s' = { s.set rsp r.2.1 with rip := r.1, flags := 2, world := r.2.2 }
  | .vmresume, next, s, s' =>
    match x.vmresume s.world with
    | none => False
    | some (.succeed r) => s' = { s.set rsp r.2.1 with rip := r.1, flags := r.2.2 }
    | some failed => s' = { s with rip := next, flags := failed.flags s.flags }
  | .vmxoff, next, s, s' =>
    match x.vmxoff s.world with
    | .succeed world => s' = { s with
        rip := next
        flags := (VmxOutcome.succeed world).flags s.flags
        world := world }
    | failed => s' = { s with rip := next, flags := failed.flags s.flags }

/-! ## Blocks -/

section Blocks

variable {W : Type} {base : BitVec 64} {n k : ℕ} {s s' s'' : Cpu W}
  {is js : List (Instruction AsmExtern)} {i : Instruction AsmExtern}
  {register : BitVec 4 → BitVec 64} {ws : List (BitVec 64)}

/-- The words of XMM registers. -/
def xmmWords (xmm : Fin 16 → BitVec 128) : List (BitVec 64) :=
  xmmSlots.flatMap fun slot => [(xmm slot.2).extractLsb' 0 64, (xmm slot.2).extractLsb' 64 64]

/-- They fill the space for them, but for a word that aligns the stack. -/
theorem withXmm_eq (xmm : Fin 16 → BitVec 128) {space : List (BitVec 64)} (hlen : space.length = 13)
    (ws : List (BitVec 64)) :
    ∃ pad, withXmm xmm (space ++ ws) xmmSlots = xmmWords xmm ++ [pad] ++ ws := by
  match space, hlen with
  | [_, _, _, _, _, _, _, _, _, _, _, _, pad], _ => exact ⟨pad, rfl⟩

/-- The stack at the call of `VmmVmExitHandler`. -/
theorem effects_vmmPrologue (h : Frames base ⟨register, []⟩ s) (halign : base.toNat % 16 = 0) :
    ∃ shadow pad trap s', shadow.length = 4 ∧ trap.length = 45 ∧
      effects Listing.asmVmmPrologue s = some s' ∧
      Frames base ⟨Function.update register rcx (base - 0x1E8),
        shadow ++ (xmmWords s.xmm ++ [pad] ++ ((GpRegisters.pushed register).frame ++ trap))⟩ s' ∧
      Beside base 0x270 s s' := by
  obtain ⟨trap, s₁, htrap, h₁, hf₁, hb₁⟩ := h.sub 45
  rw [List.append_nil] at hf₁
  obtain ⟨s₂, h₂, hf₂, hb₂, -⟩ := @Frames.pushaq _ _ 0x270 _ _ _ hf₁ (by simp [htrap]) (by omega)
  have hframe : (GpRegisters.pushed register).frame.length = 16 := rfl
  have hrcx : s₂.register rsp = base - 0x1E8 := by
    rw [hf₂.top]
    simp [hframe, htrap]
  have hf₃ := hf₂.set (r := rcx) (by decide) (s₂.register rsp)
  obtain ⟨space, s₄, hspace, h₄, hf₄, hb₄⟩ := hf₃.sub 13
  have haligned : (s₄.register rsp).toNat % 16 = 0 := by
    rw [hf₄.top]
    simp only [List.length_append, hframe, htrap, hspace, BitVec.toNat_sub,
      BitVec.toNat_ofNat]
    omega
  obtain ⟨s₅, h₅, hf₅, hb₅, -⟩ := @Frames.storeXmm _ _ 0x270 _ _ xmmSlots hf₄ haligned
    (by simp [xmmSlots, hframe, htrap, hspace]) (by simp [hframe, htrap, hspace]) (by omega)
  obtain ⟨shadow, s₆, hshadow, h₆, hf₆, hb₆⟩ := hf₅.sub 4
  obtain ⟨pad, hpad⟩ := withXmm_eq s₄.xmm hspace ((GpRegisters.pushed register).frame ++ trap)
  refine ⟨shadow, pad, trap, s₆, hshadow, htrap, ?_, ?_, ?_⟩
  · have hlisting : Listing.asmVmmPrologue = ([.sub rsp (0x190 - 0x28)] ++ Listing.asmPushaq) ++
        (.mov rcx rsp :: .sub rsp 0x68 :: xmmSlots.map fun slot =>
          .storeXmm (BitVec.ofNat 64 (16 * slot.1)) slot.2) ++ [.sub rsp 0x20] := rfl
    have hsaved : effects ([.sub rsp (0x190 - 0x28)] ++ Listing.asmPushaq) s = some s₂ :=
      (effects_cons h₁).trans h₂
    rw [hlisting, List.append_assoc, effects_then hsaved]
    refine (effects_cons rfl).trans ((effects_cons h₄).trans ?_)
    exact (effects_then h₅).trans (effects_cons h₆)
  · have hxmm : s₄.xmm = s.xmm := hb₄.xmm.trans (hb₂.xmm.trans hb₁.xmm)
    rw [hpad, hxmm, hrcx] at hf₆
    exact hf₆
  · have hb₃ : Beside base 0 s₂ (s₂.set rcx (s₂.register rsp)) := ⟨rfl, rfl, rfl, fun _ _ => rfl⟩
    exact ((((hb₁.mono (by omega)).trans hb₂).trans (hb₃.mono (by omega))).trans
      (hb₄.mono (by omega))).trans (hb₅.trans (hb₆.mono (by omega)))

/-- Loaded registers. -/
theorem foldl_update {slots : List (ℕ × Fin 16)} {value : ℕ × Fin 16 → BitVec 128}
    {xmm xmm' : Fin 16 → BitVec 128} (hvalue : ∀ slot ∈ slots, value slot = xmm slot.2)
    (hother : ∀ i, i ∉ slots.map Prod.snd → xmm' i = xmm i) :
    slots.foldl (fun xmm slot => Function.update xmm slot.2 (value slot)) xmm' = xmm := by
  induction slots generalizing xmm' with
  | nil => exact funext fun i => hother i List.not_mem_nil
  | cons slot slots ih =>
    refine ih (fun slot hslot => hvalue slot (List.mem_cons_of_mem _ hslot)) fun i hi => ?_
    dsimp only
    by_cases hslot : i = slot.2
    · rw [hslot, Function.update_self, hvalue slot List.mem_cons_self]
    · rw [Function.update_of_ne hslot]
      exact hother i (by simpa [hslot] using hi)

/-- The volatile XMM registers are restored. -/
theorem xmm_restored {m : Memory} {a : BitVec 64} {xmm xmm' : Fin 16 → BitVec 128}
    (hwords : Words m a (xmmWords xmm ++ ws)) (hkept : ∀ i, 6 ≤ i → xmm' i = xmm i) :
    xmmSlots.foldl (fun xmm slot => Function.update xmm slot.2
      (m.read (a + BitVec.ofNat 64 (8 * (2 * slot.1 + 1))) ++
        m.read (a + BitVec.ofNat 64 (8 * (2 * slot.1))))) xmm' = xmm := by
  refine @foldl_update _ (fun slot => m.read (a + BitVec.ofNat 64 (8 * (2 * slot.1 + 1))) ++
    m.read (a + BitVec.ofNat 64 (8 * (2 * slot.1)))) _ _ ?_ ?_
  · have hjoin : ∀ x : BitVec 128, x.extractLsb' 64 64 ++ x.extractLsb' 0 64 = x := fun x => by
      rw [BitVec.extractLsb'_append_extractLsb'_eq_extractLsb' (by rfl)]
      simp
    rintro ⟨i, x⟩ hslot
    obtain ⟨hlow, hhigh⟩ : (xmmWords xmm ++ ws)[2 * i]? = some ((xmm x).extractLsb' 0 64) ∧
        (xmmWords xmm ++ ws)[2 * i + 1]? = some ((xmm x).extractLsb' 64 64) := by
      simp only [xmmSlots, List.mem_cons, List.not_mem_nil, or_false, Prod.mk.injEq] at hslot
      rcases hslot with ⟨rfl, rfl⟩ | ⟨rfl, rfl⟩ | ⟨rfl, rfl⟩ | ⟨rfl, rfl⟩ | ⟨rfl, rfl⟩ | ⟨rfl, rfl⟩
      all_goals exact ⟨rfl, rfl⟩
    obtain ⟨hl, hlow⟩ := List.getElem?_eq_some_iff.1 hlow
    obtain ⟨hh, hhigh⟩ := List.getElem?_eq_some_iff.1 hhigh
    dsimp only
    rw [hwords.get hl, hwords.get hh, hlow, hhigh, hjoin]
  · refine fun i hi => hkept i ?_
    revert hi
    revert i
    decide

end Blocks

/-! ## The exit -/

section Exit

variable {W : Type} {x : Vmx W} {l : AsmLabels} {base b : BitVec 64} {r : Handled W} {s t : Cpu W}
  {register : BitVec 4 → BitVec 64} {frame : List (BitVec 64)} {Q : Cpu W → Prop}
  {code : BitVec 64 → Option (Instruction AsmExtern × BitVec 64)}

/-- The stack of the VMM, from `vmm_stack_limit` on. Its `vmm_stack_base` is `base`. -/
def OnVmmStack (base b : BitVec 64) : Prop :=
  Within (base - 0x5FD0) 0x6000 b

theorem toNat_literals : (0x5FD0 : BitVec 64).toNat = 0x5FD0 ∧ (0x270 : BitVec 64).toNat = 0x270 ∧
    (0x250 : BitVec 64).toNat = 0x250 ∧ (0x1E8 : BitVec 64).toNat = 0x1E8 := by
  decide

/-- A part of it. -/
theorem OnVmmStack.of_within {k n : ℕ} (h : Within (base - BitVec.ofNat 64 k) n b)
    (hk : k ≤ 0x5FD0) (hn : n ≤ k + 0x30) : OnVmmStack base b := by
  simp only [OnVmmStack, Within, BitVec.toNat_sub, BitVec.toNat_ofNat,
    show (0x5FD0 : BitVec 64).toNat = 0x5FD0 from rfl] at h ⊢
  omega

/-- The processor after an exit. -/
structure AtEntryPoint (l : AsmLabels) (base : BitVec 64) (s : Cpu W) : Prop where
  rip : s.rip = l.asmVmmEntryPoint
  stack : s.register rsp = base
  aligned : base.toNat % 16 = 0

/-- `VmmVmExitHandler` returned `r`. The processor has `register`, and `frame` is on its stack. -/
structure Handled.After (base : BitVec 64) (s : Cpu W) (r : Handled W)
    (register : BitVec 4 → BitVec 64) (frame : List (BitVec 64)) (t : Cpu W) : Prop where
  frames : ∃ trap, trap.length = 45 ∧ Frames base ⟨register, frame ++ trap⟩ t
  xmm : t.xmm = s.xmm
  world : t.world = r.world
  memory : ∀ b, ¬OnVmmStack base b → t.memory b = r.memory b

/-- The handler ran on the guest's registers, with some memory on the stack of the VMM. -/
def Vmx.Handles (x : Vmx W) (base : BitVec 64) (s : Cpu W) (r : Handled W) : Prop :=
  ∃ memory : Memory, (∀ b, ¬OnVmmStack base b → memory b = s.memory b) ∧
    x.vmmVmExitHandler (.pushed s.register) (s.memory.read (base + 0x28)) memory s.world = some r

theorem signExtend_eq_zero (al : BitVec 8) : al.signExtend 64 = 0 ↔ al = 0 := by
  refine ⟨fun h => BitVec.eq_of_toInt_eq ?_, fun h => by rw [h]; rfl⟩
  rw [← BitVec.toInt_signExtend_of_le (show 8 ≤ 64 by decide), h]
  rfl

/-- Restores the volatile XMM registers and frees the stack down to the frame. -/
theorem effects_vmmReturn {xmm : Fin 16 → BitVec 128} {shadow ws : List (BitVec 64)}
    {pad : BitVec 64} (h : Frames base ⟨register, shadow ++ (xmmWords xmm ++ [pad] ++ ws)⟩ s)
    (hshadow : shadow.length = 4) (halign : (s.register rsp).toNat % 16 = 0)
    (hkept : ∀ i, 6 ≤ i → s.xmm i = xmm i) :
    ∃ s', effects Listing.asmVmmReturn s = some s' ∧ Frames base ⟨register, ws⟩ s' ∧ s'.xmm = xmm ∧
      s'.world = s.world ∧ s'.memory = s.memory ∧
      zero s'.flags = decide ((register rax).extractLsb' 0 8 = 0) := by
  obtain ⟨s₁, h₁, hf₁, hb₁⟩ := h.add
  rw [hshadow] at h₁
  have haligned : (s₁.register rsp).toNat % 16 = 0 := by
    have hfreed : s₁.register rsp = s.register rsp + 0x20 := by
      obtain rfl : _ = s₁ := Option.some.inj h₁
      exact s.set_self rsp _
    rw [hfreed, BitVec.toNat_add, show (0x20 : BitVec 64).toNat = 0x20 from rfl]
    omega
  have hkept₁ : ∀ i, 6 ≤ i → s₁.xmm i = xmm i := by
    rw [hb₁.xmm]
    exact hkept
  have hwords := hf₁.stack
  rw [List.append_assoc] at hwords
  have h₂ := @effects_loadXmm _ xmmSlots s₁ haligned
  rw [xmm_restored hwords hkept₁] at h₂
  have hf₂ : Frames base ⟨register, xmmWords xmm ++ [pad] ++ ws⟩ { s₁ with xmm := xmm } :=
    ⟨hf₁.register, hf₁.top, hf₁.stack⟩
  obtain ⟨s₃, h₃, hf₃, hb₃⟩ := hf₂.add
  have hlisting : Listing.asmVmmReturn = ([.add rsp 0x20] ++ xmmSlots.map fun slot =>
      .loadXmm slot.2 (BitVec.ofNat 64 (16 * slot.1))) ++ [.add rsp 0x68, .testAl] := rfl
  have h₄ : effects ([.add rsp 0x20] ++ (xmmSlots.map fun slot =>
      .loadXmm slot.2 (BitVec.ofNat 64 (16 * slot.1)) : List (Instruction AsmExtern))) s = _ :=
    (effects_cons h₁).trans h₂
  refine ⟨{ s₃ with
    flags := status s₃.flags false (s₃.flags.getLsbD 4) false
      (((s₃.register rax).extractLsb' 0 8).signExtend 64) }, ?_, ⟨hf₃.register, hf₃.top, hf₃.stack⟩,
    hb₃.xmm, hb₃.world.trans hb₁.world, hb₃.memory_eq.trans hb₁.memory_eq, ?_⟩
  · rw [hlisting, effects_then h₄]
    exact (effects_cons h₃).trans rfl
  · have hrax : s₃.register rax = register rax := hf₃.register rax (by decide)
    rw [zero_status, hrax, decide_eq_decide]
    exact signExtend_eq_zero _

/-- The stack of the caller when the handler returned. -/
theorem HandlerCall.frames {xmm : Fin 16 → BitVec 128} {shadow trap : List (BitVec 64)}
    {pad : BitVec 64} {regs : GpRegisters} {memory : Memory} {next : BitVec 64}
    (h : HandlerCall x next s t regs r memory)
    (hf : Frames base ⟨register, shadow ++ (xmmWords xmm ++ [pad] ++ (regs.frame ++ trap))⟩ s)
    (hshadow : shadow.length = 4) (htrap : trap.length = 45) (hrcx : s.register rcx = base - 0x1E8)
    (hkept : ∀ b, OnVmmStack base b → r.memory b = s.memory b) :
    ∃ shadow' trap', shadow'.length = 4 ∧ trap'.length = 45 ∧ Frames base ⟨t.register, shadow' ++
        (xmmWords xmm ++ [pad] ++ (r.gpRegs.frame ++ trap'))⟩ t ∧
      ∀ b, ¬OnVmmStack base b → t.memory b = r.memory b := by
  have hlen : ∀ ws, (xmmWords xmm ++ [pad] ++ ws).length = 13 + ws.length := fun ws =>
    List.length_append
  have hregs : ∀ (regs : GpRegisters) ws, (regs.frame ++ ws).length = 16 + ws.length :=
    fun regs ws => List.length_append
  have hstack := hf.stack
  rw [hf.top] at hstack
  have hsaved := (Words.append_below.1 (Words.append_below.1 hstack).2).1
  have hrsp : s.register rsp = base - 0x270 := by
    rw [hf.top, List.length_append, hlen, hregs, hshadow, htrap]
    rfl
  rw [hlen, hregs, htrap] at hsaved
  have hdepth := x.depth_le
  -- the callee had the stack below its caller's
  have hcaller : ∀ b, Within (base - 0x250) 0x250 b ∨ ¬OnVmmStack base b →
      t.memory b = memory b := by
    intro b hb
    refine h.returned.memory b fun hw => ?_
    rw [hrsp] at hw
    simp only [OnVmmStack, Within, BitVec.toNat_sub, BitVec.toNat_ofNat, toNat_literals] at hb hw
    omega
  have hw₁ : Words t.memory (base - 0x250) (xmmWords xmm ++ [pad]) := by
    refine hsaved.congr (show 8 * 13 ≤ 2 ^ 64 by decide) fun b hb => ?_
    replace hb : (b - (base - 0x250)).toNat < 8 * 13 := hb
    have hon : OnVmmStack base b := .of_within (k := 0x250) (n := 8 * 13) hb (by decide) (by decide)
    refine (hcaller b (Or.inl (hb.trans (by decide)))).trans ((h.outside b fun hw => ?_).trans
      (hkept b hon))
    rw [hrcx] at hw
    simp only [Within, BitVec.toNat_sub, toNat_literals] at hb hw
    omega
  have hw₂ : Words t.memory (base - 0x1E8) r.gpRegs.frame := by
    have hframe := h.frame
    rw [hrcx] at hframe
    refine hframe.congr (show 8 * 16 ≤ 2 ^ 64 by decide) fun b hb => hcaller b (Or.inl ?_)
    replace hb : (b - (base - 0x1E8)).toNat < 8 * 16 := hb
    simp only [Within, BitVec.toNat_sub, toNat_literals] at hb ⊢
    omega
  obtain ⟨shadow', hshadow', hw₀⟩ := Words.exists_words t.memory (base - 0x270) 4
  obtain ⟨trap', htrap', hw₃⟩ := Words.exists_words t.memory (base - 0x168) 45
  refine ⟨shadow', trap', hshadow', htrap', ⟨fun _ _ => rfl, ?_, ?_⟩, fun b hb => ?_⟩
  · rw [h.returned.stack, hrsp, List.length_append, hlen, hregs, hshadow', htrap']
    rfl
  · have htrap : Words t.memory (base - BitVec.ofNat 64 (8 * trap'.length)) trap' := by
      rw [htrap']
      exact hw₃
    have hframe := Words.join_below (k := 0x1E8) hw₂ htrap (by rw [htrap']; rfl)
    have hupper := Words.join_below (k := 0x250) hw₁ hframe (by rw [hregs, htrap']; rfl)
    have hall := Words.join_below (k := 0x270) hw₀ hupper
      (by rw [hshadow', hlen, hregs, htrap'])
    rw [List.length_append, hshadow', hlen, hregs, htrap'] at hall
    rw [h.returned.stack, hrsp]
    exact hall
  · refine (hcaller b (Or.inr hb)).trans (h.outside b fun hw => hb ?_)
    rw [hrcx] at hw
    exact OnVmmStack.of_within (k := 0x1E8) hw (by decide) (by decide)

/-- Whatever is on the stack of the VMM, the handler returns, and leaves the stack to its caller. -/
def HandlerReturns (x : Vmx W) (base : BitVec 64) (s : Cpu W) : Prop :=
  ∀ memory : Memory, (∀ b, ¬OnVmmStack base b → memory b = s.memory b) →
    ∃ r, x.vmmVmExitHandler (.pushed s.register) (s.memory.read (base + 0x28)) memory s.world =
        some r ∧ ∀ b, OnVmmStack base b → r.memory b = memory b

/-- The call of the handler, with all that it needs. -/
theorem handlerCall_exists {next : BitVec 64} {regs : GpRegisters} (halign : Aligned s)
    (hframe : Words s.memory (s.register rcx) regs.frame)
    (hhandled : x.vmmVmExitHandler regs (s.memory.read (s.register rcx + 0x210)) s.memory s.world =
      some r) : ∃ t, asmExt x .vmmVmExitHandler next s t := by
  obtain ⟨memory, hwords, hother⟩ :=
    Words.exists_memory r.memory (s.register rcx) r.gpRegs.frame (show 8 * 16 ≤ 2 ^ 64 by decide)
  let al : BitVec 64 := if r.vmContinue then 1 else 0
  refine ⟨{ s.set rax al with
    rip := next
    memory := memory
    world := r.world }, halign, regs, r, memory, hframe, hhandled, hwords, fun b hb => ?_, ?_, ?_,
    rfl⟩
  · refine hother b fun hw => hb ?_
    exact Nat.lt_trans (show _ < 8 * 16 from hw) (by decide)
  · have hrax : rax ∉ nonvolatile := by decide
    exact ⟨rfl, Cpu.set_of_ne (show rsp ≠ rax by decide) al s, fun r hr =>
      Cpu.set_of_ne (ne_of_mem_of_not_mem hr hrax) al s, fun _ _ => rfl, fun _ _ => rfl⟩
  · rw [show Cpu.register _ rax = al from s.set_self rax al]
    cases hcont : r.vmContinue <;> simp [al, hcont]

/-- The handler gets the guest's registers, and what it leaves is loaded. -/
theorem vmmEntryPoint_handles (hl : l.Loaded code) (hs : AtEntryPoint l base s)
    (hhandler : HandlerReturns x base s)
    (hrest : ∀ r t, x.Handles base s r → r.After base s t.register r.gpRegs.frame t →
      (if r.vmContinue then
        Laid code t.rip (Listing.asmPopaq ++ [.external .vmresume, .jmp l.vmxError]) l.exitVm
      else t.rip = l.exitVm) → Ensures code (asmExt x) Q t) :
    Ensures code (asmExt x) Q s := by
  have hframes : Frames base ⟨s.register, []⟩ s :=
    ⟨fun _ _ => rfl, by rw [hs.stack]; exact (BitVec.sub_zero base).symm, trivial⟩
  obtain ⟨shadow, pad, trap, s₁, hshadow, htrap, heffects, hf, hb⟩ :=
    effects_vmmPrologue hframes hs.aligned
  obtain ⟨c₃, hmain, hresume⟩ := Laid.append.1 hl.vmmEntryPoint
  obtain ⟨c₂, hcall, jnext, hjz, hpopaq⟩ := Laid.append.1 hmain
  obtain ⟨c₁, hprologue, next, hexternal, hreturn⟩ := Laid.append.1 hcall
  have hrcx : s₁.register rcx = base - 0x1E8 :=
    (hf.register rcx (by decide)).trans (Function.update_self rcx (base - 0x1E8) s.register)
  have hrsp : s₁.register rsp = base - 0x270 := by
    rw [hf.top]
    simp only [List.length_append, hshadow, htrap]
    rfl
  have halign : (s₁.register rsp).toNat % 16 = 0 := by
    have haligned := hs.aligned
    rw [hrsp, BitVec.toNat_sub, toNat_literals.2.1]
    omega
  have hdata : s₁.memory.read (s₁.register rcx + 0x210) = s.memory.read (base + 0x28) := by
    have hplace : base - 0x1E8 + 0x210 = base + 0x28 := by
      rw [BitVec.sub_eq_add_neg, BitVec.add_assoc]
      rfl
    rw [hrcx, hplace]
    refine Memory.read_congr fun b hb' => hb.memory b fun hw => ?_
    simp only [Within, BitVec.toNat_sub, BitVec.toNat_add, BitVec.toNat_ofNat,
      show (0x28 : BitVec 64).toNat = 0x28 from rfl] at hb' hw
    omega
  have hmemory : ∀ b, ¬OnVmmStack base b → s₁.memory b = s.memory b := fun b hb' =>
    hb.memory b fun hw => hb' (.of_within (k := 0x270) hw (by decide) (by decide))
  have hwords : Words s₁.memory (s₁.register rcx) (GpRegisters.pushed s.register).frame := by
    have hstack := hf.stack
    rw [hf.top] at hstack
    have hframe := (Words.append_below.1 (Words.append_below.1 (Words.append_below.1 hstack).2).2).1
    rw [List.length_append, htrap] at hframe
    rw [hrcx]
    exact hframe
  refine .block hprologue hs.rip heffects (.external hexternal ?_ ?_)
  · obtain ⟨r, hr, -⟩ := hhandler s₁.memory hmemory
    exact handlerCall_exists halign hwords (by rw [← hr, ← hb.world, ← hdata])
  · rintro s₂ ⟨-, regs, r, memory, hcalled⟩
    obtain rfl : regs = .pushed s.register :=
      GpRegisters.frame_injective (hcalled.gpRegs.unique hwords rfl)
    obtain ⟨r', hr, hkept⟩ := hhandler s₁.memory hmemory
    obtain rfl : r' = r := by
      have hhandled := hcalled.handled
      dsimp only at hhandled
      rw [hdata, hb.world, hr] at hhandled
      exact Option.some.inj hhandled
    obtain ⟨shadow', trap', hshadow', htrap', hf₂, hmemory₂⟩ :=
      hcalled.frames ⟨hf.register, hf.top, hf.stack⟩ hshadow htrap hrcx hkept
    obtain ⟨s₃, hloads, hf₃, hxmm, hworld, hmemory₃, hzero⟩ := effects_vmmReturn hf₂ hshadow'
      (by rw [hcalled.returned.stack]; exact halign)
      fun i hi => (hcalled.returned.xmm i hi).trans (congrFun hb.xmm i)
    refine .block hreturn hcalled.returned.rip hloads (.exec hjz rfl ?_)
    refine hrest r' _ ⟨s₁.memory, hmemory, hr⟩
      ⟨⟨trap', htrap', fun _ _ => rfl, hf₃.top, hf₃.stack⟩, hxmm, hworld.trans hcalled.world,
        fun b hb' => (congrFun hmemory₃ b).trans (hmemory₂ b hb')⟩ ?_
    dsimp only
    rw [hzero]
    cases hcont : r'.vmContinue with
    | true =>
      have hal : ¬(s₂.register rax).extractLsb' 0 8 = 0 := by
        rw [hcalled.vmContinue, hcont]
        decide
      rw [if_pos rfl, decide_eq_false hal]
      exact Laid.append.2 ⟨c₃, hpopaq, hresume⟩
    | false => rw [decide_eq_true (hcalled.vmContinue.2 hcont)]; rfl

/-- `POPAQ` loads what the handler left. -/
theorem Handled.After.popaq (h : r.After base s t.register r.gpRegs.frame t) :
    ∃ t', effects Listing.asmPopaq t = some t' ∧ r.After base s r.gpRegs.select [] t' := by
  obtain ⟨⟨trap, htrap, hframes⟩, hxmm, hworld, hmemory⟩ := h
  obtain ⟨t', heffects, hf, hb⟩ := hframes.popaq
  exact ⟨t', heffects, ⟨trap, htrap, hf⟩, hb.xmm.trans hxmm, hb.world.trans hworld,
    fun b hb' => (congrFun hb.memory_eq b).trans (hmemory b hb')⟩

/-! ## Leaving the VMM -/

/-- The processor before VMRESUME. -/
structure AtVmresume (l : AsmLabels) (code : BitVec 64 → Option (Instruction AsmExtern × BitVec 64))
    (base : BitVec 64) (s : Cpu W) (r : Handled W) (t : Cpu W) : Prop where
  code : ∃ next after, code t.rip = some (.external .vmresume, next) ∧
    code next = some (.jmp l.vmxError, after)
  after : r.After base s r.gpRegs.select [] t

theorem ensures_vmresume (h : r.After base s t.register r.gpRegs.frame t)
    (hcode : Laid code t.rip (Listing.asmPopaq ++ [.external .vmresume, .jmp l.vmxError]) l.exitVm)
    (hrest : ∀ t', AtVmresume l code base s r t' → Ensures code (asmExt x) Q t') :
    Ensures code (asmExt x) Q t := by
  obtain ⟨t', heffects, hafter⟩ := h.popaq
  obtain ⟨c, hpopaq, next, hvmresume, after, hjmp, -⟩ := Laid.append.1 hcode
  refine .block hpopaq rfl heffects (hrest _ ⟨⟨next, after, hvmresume, hjmp⟩, ?_⟩)
  obtain ⟨⟨trap, htrap, hframes⟩, hxmm, hworld, hmemory⟩ := hafter
  exact ⟨⟨trap, htrap, hframes.register, hframes.top, hframes.stack⟩, hxmm, hworld, hmemory⟩

/-- The processor before VMXOFF. -/
structure AtVmxoff (l : AsmLabels) (code : BitVec 64 → Option (Instruction AsmExtern × BitVec 64))
    (base : BitVec 64) (s : Cpu W) (r : Handled W) (t : Cpu W) : Prop where
  code : ∃ jzNext jcNext tail, code t.rip = some (.external .vmxoff, jzNext) ∧
    code jzNext = some (.jz l.vmxError, jcNext) ∧ code jcNext = some (.jc l.vmxError, tail) ∧
    Laid code tail [.push rax, .popfq, .mov rsp rdx, .push rcx, .ret] l.vmxError
  after : r.After base s r.gpRegs.select [] t

theorem ensures_vmxoff (hl : l.Loaded code) (h : r.After base s t.register r.gpRegs.frame t)
    (hrip : t.rip = l.exitVm)
    (hrest : ∀ t', AtVmxoff l code base s r t' → Ensures code (asmExt x) Q t') :
    Ensures code (asmExt x) Q t := by
  obtain ⟨t₁, heffects, hafter⟩ := h.popaq
  obtain ⟨c₃, hfirst, hret⟩ := Laid.append.1 hl.exitVm
  obtain ⟨c₂, hfirst, htail⟩ := Laid.append.1 hfirst
  obtain ⟨c₁, hpopaq, jzNext, hoff, jcNext, hjz, tail, hjc, hplace⟩ := Laid.append.1 hfirst
  obtain rfl : tail = c₂ := hplace
  refine .block hpopaq hrip heffects (hrest _ ⟨⟨jzNext, jcNext, tail, hoff, hjz, hjc, ?_⟩, ?_⟩)
  · exact Laid.append.2 ⟨c₃, htail, hret⟩
  · obtain ⟨⟨trap, htrap, hframes⟩, hxmm, hworld, hmemory⟩ := hafter
    exact ⟨⟨trap, htrap, hframes.register, hframes.top, hframes.stack⟩, hxmm, hworld, hmemory⟩

theorem zero_cleared (flags : BitVec 64) : zero (flags &&& ~~~0x8D5) = false := by
  simp [zero]

theorem carry_cleared (flags : BitVec 64) : carry (flags &&& ~~~0x8D5) = false := by
  simp [carry]

/-- The processor after VMXOFF and the jump to the guest. The word below its RSP is lost. -/
structure LeftVmx (base : BitVec 64) (s : Cpu W) (r : Handled W) (world : W) (t : Cpu W) :
    Prop where
  register : t.register = Function.update r.gpRegs.select rsp r.gpRegs.dx
  rip : t.rip = r.gpRegs.cx
  flags : t.flags = loadFlags r.gpRegs.ax
  xmm : t.xmm = s.xmm
  world : t.world = world
  memory : ∀ b, ¬OnVmmStack base b → ¬Within (r.gpRegs.dx - 8) 8 b → t.memory b = r.memory b

/-- Flags and RSP are loaded. -/
theorem effects_guestStack (t : Cpu W) :
    effects ([.push rax, .popfq, .mov rsp rdx] : List (Instruction AsmExtern)) t =
      some (Cpu.set rsp (t.register rdx) { t with
        flags := loadFlags (t.register rax)
        memory := t.memory.write (t.register rsp - 8) (t.register rax) }) := by
  simp only [effects, Instruction.effect, Option.bind_some, Cpu.top_pushed, Cpu.popped_pushed]

/-- VMXOFF succeeds. -/
theorem ensures_leftVmx {world : W} (h : AtVmxoff l code base s r t)
    (hvmxoff : x.vmxoff r.world = .succeed world)
    (hrest : ∀ t', LeftVmx base s r world t' → Ensures code (asmExt x) Q t') :
    Ensures code (asmExt x) Q t := by
  obtain ⟨⟨jzNext, jcNext, tail, hoff, hjz, hjc, htail⟩, ⟨trap, htrap, hframes⟩, hxmm, hworld,
    hmemory⟩ := h
  have hext : ∀ u, asmExt x .vmxoff jzNext t u ↔ u = { t with
      rip := jzNext
      flags := (VmxOutcome.succeed world).flags t.flags
      world := world } := fun u => by
    rw [asmExt, hworld, hvmxoff]
  refine .external hoff ⟨_, (hext _).2 rfl⟩ fun u hu => ?_
  obtain rfl := (hext u).1 hu
  refine .not_zero hjz (zero_cleared _) (.not_carry hjc (carry_cleared _) ?_)
  obtain ⟨n₁, h₁, n₂, h₂, n₃, h₃, n₄, h₄, retNext, hret, -⟩ := htail
  have hstack : Laid code tail [.push rax, .popfq, .mov rsp rdx] n₃ :=
    ⟨n₁, h₁, n₂, h₂, n₃, h₃, rfl⟩
  refine .block hstack rfl (effects_guestStack _) (.push_ret h₄ hret (hrest _ ?_))
  have hrax : t.register rax = r.gpRegs.ax := hframes.register rax (by decide)
  have hrdx : t.register rdx = r.gpRegs.dx := hframes.register rdx (by decide)
  have hregister : Function.update t.register rsp (t.register rdx) =
      Function.update r.gpRegs.select rsp r.gpRegs.dx := by
    rw [hrdx]
    exact hframes.update_eq _
  refine ⟨hregister, (congrFun hregister rcx).trans rfl, congrArg loadFlags hrax, hxmm, rfl,
    fun b hb hb' => ?_⟩
  · have hlost : ∀ (m : Memory) (v : BitVec 64),
        m.write (Function.update t.register rsp (t.register rdx) rsp - 8) v b = m b := by
      intro m v
      rw [Function.update_self, hrdx]
      exact if_neg hb'
    refine (hlost _ _).trans ((if_neg fun hw => hb ?_).trans (hmemory b hb))
    rw [hframes.top, List.nil_append, htrap, BitVec.sub_sub] at hw
    exact OnVmmStack.of_within (k := 0x170) hw (by decide) (by decide)

/-! ## Failures -/

/-- The processor at the call of `VmmVmxFailureHandler`. `all_regs` has the registers and the
flags. The stack is not aligned. -/
structure AtFailure (code : BitVec 64 → Option (Instruction AsmExtern × BitVec 64))
    (register : BitVec 4 → BitVec 64) (flags : BitVec 64) (t : Cpu W) : Prop where
  code : ∃ next, code t.rip = some (.external .vmmVmxFailureHandler, next)
  allRegs : Words t.memory (t.register rcx)
    ((GpRegisters.pushed register).frame ++ [flags &&& 0xFCFFFF])
  misaligned : (t.register rsp).toNat % 16 = 8

theorem ensures_vmxError {trap : List (BitVec 64)} (hl : l.Loaded code) (hrip : t.rip = l.vmxError)
    (h : Frames base ⟨register, trap⟩ t) (htrap : trap.length = 45) (halign : base.toNat % 16 = 0)
    (hrest : ∀ t', AtFailure code register t.flags t' → Ensures code (asmExt x) Q t') :
    Ensures code (asmExt x) Q t := by
  obtain ⟨after, hcode⟩ := hl.vmxError
  obtain ⟨c, hcode, next, hcall, -⟩ := Laid.append.1 hcode
  obtain ⟨t₂, h₂, hf₂, -⟩ := @Frames.saved _ _ 0x6000 _ _ _ h (by simp [htrap]) (by decide)
  have hf₃ := hf₂.set (show rcx ≠ rsp by decide) (t₂.register rsp)
  obtain ⟨space, t₄, hspace, h₄, hf₄, hb₄⟩ := hf₃.sub 5
  have heffects : effects ([.pushfq] ++ Listing.asmPushaq ++ [.mov rcx rsp, .sub rsp 0x28]) t =
      some t₄ := by
    rw [effects_then h₂]
    exact (effects_cons rfl).trans (effects_cons h₄)
  refine .block hcode hrip heffects (hrest _ ⟨⟨next, hcall⟩, ?_, ?_⟩)
  · have hrcx : t₄.register rcx = t₂.register rsp :=
      (hf₄.register rcx (by decide)).trans (Function.update_self rcx (t₂.register rsp) register)
    have hwords := hf₂.stack
    rw [List.append_cons] at hwords
    dsimp only
    rw [hrcx, hb₄.memory_eq]
    exact (Words.append.1 hwords).1
  · have hregs : (GpRegisters.pushed register).frame.length = 16 := rfl
    dsimp only
    rw [hf₄.top]
    simp only [List.length_append, List.length_cons, hspace, hregs, htrap, BitVec.toNat_sub,
      BitVec.toNat_ofNat]
    omega

/-- A VMX instruction that fails on the registers of the guest. -/
theorem ensures_failed {A : Type} {o : VmxOutcome A} {next : BitVec 64} (hl : l.Loaded code)
    (halign : base.toNat % 16 = 0) (hafter : r.After base s r.gpRegs.select [] t)
    (hfailed : o.failed = true)
    (hjump : Ensures code (asmExt x) Q
      { t with rip := l.vmxError, flags := o.flags t.flags } → Ensures code (asmExt x) Q
        { t with rip := next, flags := o.flags t.flags })
    (hrest : ∀ flags t', AtFailure code r.gpRegs.select flags t' →
      (zero flags || carry flags) = true → Ensures code (asmExt x) Q t') :
    Ensures code (asmExt x) Q { t with rip := next, flags := o.flags t.flags } := by
  obtain ⟨trap, htrap, hframes⟩ := hafter.frames
  refine hjump (ensures_vmxError hl rfl ⟨hframes.register, hframes.top, hframes.stack⟩ htrap halign
    fun t' ht' => hrest _ t' ht' (VmxOutcome.flags_failed hfailed _))

end Exit

/-- **Failures are reported.** If VMRESUME or VMXOFF fails after a handler returned,
`VmmVmxFailureHandler` is called with the registers that the guest would have had and the flags of
the failure, on a stack that is 8 bytes off the alignment that a call requires. -/
theorem vmxFailure_reported {W : Type} {x : Vmx W} {l : AsmLabels} {base : BitVec 64} {s : Cpu W}
    {code : BitVec 64 → Option (Instruction AsmExtern × BitVec 64)} (hl : l.Loaded code)
    (hs : AtEntryPoint l base s) (hhandler : HandlerReturns x base s)
    (hfails : ∀ r, x.Handles base s r → if r.vmContinue then
        ∃ o, x.vmresume r.world = some o ∧ o.failed = true
      else (x.vmxoff r.world).failed = true) :
    Ensures code (asmExt x) (fun t => ∃ r flags, x.Handles base s r ∧
      AtFailure code r.gpRegs.select flags t ∧ (zero flags || carry flags) = true) s := by
  refine vmmEntryPoint_handles hl hs hhandler fun r t hr hafter hcode => ?_
  have hfail := hfails r hr
  have hend : ∀ flags t', AtFailure code r.gpRegs.select flags t' →
      (zero flags || carry flags) = true → Ensures code (asmExt x) (fun t => ∃ r flags,
        x.Handles base s r ∧ AtFailure code r.gpRegs.select flags t ∧
          (zero flags || carry flags) = true) t' := fun flags t' ht' hflags =>
    .here ⟨r, flags, hr, ht', hflags⟩
  cases hcont : r.vmContinue with
  | true =>
    rw [hcont, if_pos rfl] at hfail hcode
    obtain ⟨o, ho, hfailed⟩ := hfail
    refine ensures_vmresume hafter hcode fun t₁ ht₁ => ?_
    obtain ⟨next, after, hvmresume, hjmp⟩ := ht₁.code
    have hext : ∀ u, asmExt x .vmresume next t₁ u ↔
        u = { t₁ with rip := next, flags := o.flags t₁.flags } := fun u => by
      rw [asmExt, ht₁.after.world, ho]
      cases o with
      | succeed result => cases hfailed
      | failInvalid | failValid => rfl
    refine .external hvmresume ⟨_, (hext _).2 rfl⟩ fun u hu => ?_
    rw [(hext u).1 hu]
    exact ensures_failed hl hs.aligned ht₁.after hfailed (fun h => .exec hjmp rfl h) hend
  | false =>
    rw [hcont] at hfail hcode
    replace hfail : (x.vmxoff r.world).failed = true := hfail
    replace hcode : t.rip = l.exitVm := hcode
    refine ensures_vmxoff hl hafter hcode fun t₁ ht₁ => ?_
    obtain ⟨jzNext, jcNext, tail, hoff, hjz, hjc, -⟩ := ht₁.code
    generalize ho : x.vmxoff r.world = o at hfail
    have hext : ∀ u, asmExt x .vmxoff jzNext t₁ u ↔
        u = { t₁ with rip := jzNext, flags := o.flags t₁.flags } := fun u => by
      rw [asmExt, ht₁.after.world, ho]
      cases o with
      | succeed result => cases hfail
      | failInvalid | failValid => rfl
    refine .external hoff ⟨_, (hext _).2 rfl⟩ fun u hu => ?_
    rw [(hext u).1 hu]
    refine ensures_failed hl hs.aligned ht₁.after hfail (fun h => ?_) hend
    have hflags := VmxOutcome.flags_failed hfail t₁.flags
    cases hzero : zero (o.flags t₁.flags) with
    | true => exact .exec hjz (by rw [Instruction.exec, hzero]; rfl) h
    | false =>
      rw [hzero, Bool.false_or] at hflags
      refine .not_zero hjz hzero (.exec hjc ?_ h)
      rw [Instruction.exec, hflags]
      rfl

/-- A processor that refuses every VM entry. The handler changes nothing. -/
def refusingVmx : Vmx Unit where
  vmmVmExitHandler regs _ memory _ := some ⟨true, regs, memory, ()⟩
  vmInitializationRoutine _ _ _ _ := (true, ())
  vmcall _ _ _ _ _ := none
  vmresume _ := some .failValid
  vmxoff _ := .succeed ()
  depth := 0x1000
  depth_le := by decide

/-- A processor with these registers. -/
def someCpu {W : Type} (rip sp : BitVec 64) (world : W) : Cpu W where
  register := Function.update someRegisters rsp sp
  rip := rip
  flags := 0x202
  xmm i := BitVec.ofNat 128 i
  memory _ := 0
  world := world

theorem someCpu_atEntryPoint {W : Type} (world : W) :
    AtEntryPoint placedLabels 0xFFFD0 (someCpu 106 0xFFFD0 world) :=
  ⟨rfl, rfl, by decide⟩

theorem vmxFailure_reported_refused : Ensures (place 0 placedCode) (asmExt refusingVmx)
    (fun t => ∃ r flags, refusingVmx.Handles 0xFFFD0 (someCpu 106 0xFFFD0 ()) r ∧
      AtFailure (place 0 placedCode) r.gpRegs.select flags t ∧ (zero flags || carry flags) = true)
    (someCpu 106 0xFFFD0 ()) :=
  vmxFailure_reported placed_loaded (someCpu_atEntryPoint ()) (fun _ _ => ⟨_, rfl, fun _ _ => rfl⟩)
    fun r hr => by
      obtain ⟨memory, -, hhandled⟩ := hr
      obtain rfl := Option.some.inj hhandled
      exact ⟨.failValid, rfl, rfl⟩

end DeviceMon
