import DeviceMon.AsmExit

/-!
# Starting the guest

`AsmInitializeVm` calls a routine that may launch the guest. It returns once for each : to the
caller, if the routine returns, and otherwise in the guest, which starts at `asmResumeVm` on the
stack of the caller. Both have the registers of the caller (`asmInitializeVm_forks`).
-/

namespace DeviceMon

open X64

section Start

variable {W : Type} {x : Vmx W} {l : AsmLabels} {a base c flags : BitVec 64} {n : ℕ} {s t : Cpu W}
  {register : BitVec 4 → BitVec 64} {ws : List (BitVec 64)} {Q : Cpu W → Prop}
  {code : BitVec 64 → Option (Instruction AsmExtern × BitVec 64)}

/-- The stack does not depend on other registers. -/
theorem Frames.same (h : Frames base ⟨register, ws⟩ s) (hrsp : t.register rsp = s.register rsp)
    (hmemory : t.memory = s.memory) : Frames base ⟨t.register, ws⟩ t :=
  ⟨fun _ _ => rfl, hrsp.trans h.top, by rw [hrsp, hmemory]; exact h.stack⟩

/-- The stack above the space that a callee has for its arguments. -/
theorem Frames.kept {space : List (BitVec 64)} (h : Frames base ⟨register, space ++ ws⟩ s)
    (hrsp : t.register rsp = s.register rsp)
    (hwords : ∀ b, Within (base - BitVec.ofNat 64 (8 * ws.length)) (8 * ws.length) b →
      t.memory b = s.memory b) (hfits : 8 * ws.length ≤ 2 ^ 64) :
    ∃ space', space'.length = space.length ∧ Frames base ⟨t.register, space' ++ ws⟩ t := by
  have hstack := h.stack
  rw [h.top] at hstack
  obtain ⟨space', hspace', hlow⟩ := Words.exists_words t.memory (t.register rsp) space.length
  have htop := hrsp.trans h.top
  refine ⟨space', hspace', fun _ _ => rfl, ?_, ?_⟩
  · rw [htop]
    simp only [List.length_append, hspace']
  · rw [htop] at hlow ⊢
    have hall := Words.join_below hlow ((Words.append_below.1 hstack).2.congr hfits hwords)
      (by simp [hspace'])
    simpa [hspace'] using hall

/-- After a call the space is freed, and what was saved before is restored. -/
theorem Frames.unwound {space : List (BitVec 64)} {register' : BitVec 4 → BitVec 64}
    (h : Frames base ⟨register', space ++ ((GpRegisters.pushed register).frame ++ [flags])⟩ s)
    (hrsp : t.register rsp = s.register rsp)
    (hwords : ∀ b, Within (base - 0x88) (8 * 17) b → t.memory b = s.memory b) :
    ∃ t', effects (.add rsp (BitVec.ofNat 64 (8 * space.length)) ::
        (Listing.asmPopaq ++ [.popfq])) t = some t' ∧
      Frames base ⟨register, []⟩ t' ∧ t'.world = t.world ∧ t'.memory = t.memory := by
  obtain ⟨space', hspace', hkept⟩ := h.kept hrsp hwords (show 8 * 17 ≤ 2 ^ 64 by decide)
  obtain ⟨t₁, h₁, ht₁, hb₁⟩ := hkept.add
  rw [hspace'] at h₁
  obtain ⟨t₂, h₂, ht₂, hb₂⟩ := ht₁.restored
  exact ⟨t₂, (effects_cons h₁).trans h₂, ht₂, hb₂.world.trans hb₁.world,
    hb₂.memory_eq.trans hb₁.memory_eq⟩

/-- `ASM_DUMP_REGISTERS` changes nothing but the stack below. -/
theorem ensures_dumpRegisters (hcode : Laid code a Listing.asmDumpRegisters c) (hrip : s.rip = a)
    (halign : Aligned s)
    (hrest : ∀ t : Cpu W, t.rip = c → t.register = s.register → t.world = s.world →
      (∀ b, Within (s.register rsp) 0x10 b → t.memory b = s.memory b) →
      Ensures code (asmExt x) Q t) :
    Ensures code (asmExt x) Q s := by
  have hframes : Frames (s.register rsp) ⟨s.register, []⟩ s :=
    ⟨fun _ _ => rfl, (BitVec.sub_zero _).symm, trivial⟩
  obtain ⟨s₁, h₁, hf₁, hb₁⟩ := @Frames.saved _ _ 0x88 _ _ _ hframes (by simp) (by decide)
  obtain ⟨s₂, h₂, hrsp₂, hmemory₂, hworld₂⟩ : ∃ s₂ : Cpu W,
      effects ([.mov rcx rsp, .mov rdx rsp, .add rdx (8 * 17)] : List (Instruction AsmExtern)) s₁ =
        some s₂ ∧ s₂.register rsp = s₁.register rsp ∧ s₂.memory = s₁.memory ∧
        s₂.world = s₁.world := ⟨_, rfl, rfl, rfl, rfl⟩
  obtain ⟨space, s₃, hspace, h₃, hf₃, hb₃⟩ := (hf₁.same hrsp₂ hmemory₂).sub 5
  have hlisting : Listing.asmDumpRegisters = ([.pushfq] ++ Listing.asmPushaq) ++
      ([.mov rcx rsp, .mov rdx rsp, .add rdx (8 * 17)] ++ [.sub rsp 0x28]) ++
      (.external .utilDumpGpRegisters :: .add rsp 0x28 :: (Listing.asmPopaq ++ [.popfq])) := rfl
  rw [hlisting] at hcode
  obtain ⟨c₁, hpre, next, hdump, hpost⟩ := Laid.append.1 hcode
  have hrsp₃ : s₃.register rsp = s.register rsp - 0xB0 := by
    rw [hf₃.top]
    simp only [List.length_append, hspace]
    rfl
  have hdepth := x.depth_le
  have hpushes : effects (([.pushfq] ++ Listing.asmPushaq) ++
      ([.mov rcx rsp, .mov rdx rsp, .add rdx (8 * 17)] ++ [.sub rsp 0x28])) s = some s₃ := by
    rw [effects_then h₁, effects_then h₂]
    exact effects_cons h₃
  have halign₃ : (s₃.register rsp).toNat % 16 = 0 := by
    have haligned : (s.register rsp).toNat % 16 = 0 := halign
    rw [hrsp₃, BitVec.toNat_sub, show (0xB0 : BitVec 64).toNat = 0xB0 from rfl]
    omega
  refine .block hpre hrip hpushes (.external hdump ?_ ?_)
  · exact ⟨{ s₃ with rip := next }, halign₃, ⟨rfl, rfl, fun _ _ => rfl, fun _ _ => rfl,
      fun _ _ => rfl⟩, rfl⟩
  · rintro s₄ ⟨-, hret, hworld₄⟩
    have hmemory₄ : ∀ b, ¬Within (s₃.register rsp - BitVec.ofNat 64 x.depth) (x.depth + 0x20) b →
        s₄.memory b = s₃.memory b := hret.memory
    rw [hrsp₃] at hmemory₄
    have hwords : ∀ b, Within (s.register rsp - 0x88) 0x88 b → s₄.memory b = s₃.memory b :=
      fun b hb => hmemory₄ b fun hw => by
        simp only [Within, BitVec.toNat_sub, BitVec.toNat_ofNat,
          show (0x88 : BitVec 64).toNat = 0x88 from rfl,
          show (0xB0 : BitVec 64).toNat = 0xB0 from rfl] at hb hw
        omega
    obtain ⟨s₅, h₅, hf₅, hworld₅, hmemory₅⟩ := hf₃.unwound hret.stack hwords
    rw [hspace] at h₅
    refine .block hpost hret.rip h₅ (hrest _ rfl ?_ ?_ fun b hb => ?_)
    · funext r
      by_cases hr : r = rsp
      · rw [hr]
        exact hf₅.top.trans (BitVec.sub_zero _)
      · exact hf₅.register r hr
    · exact hworld₅.trans ((hworld₄.trans hb₃.world).trans (hworld₂.trans hb₁.world))
    · have hcallee : s₄.memory b = s₃.memory b := hmemory₄ b fun hw => by
        simp only [Within, BitVec.toNat_sub, BitVec.toNat_ofNat,
          show (0xB0 : BitVec 64).toNat = 0xB0 from rfl] at hb hw
        omega
      refine (congrFun hmemory₅ b).trans (hcallee.trans ?_)
      rw [hb₃.memory_eq, hmemory₂]
      exact hb₁.above (by decide) hb

/-- Returns a value, on the stack of the caller. -/
theorem ensures_return {is : List (Instruction AsmExtern)} {value : BitVec 64} {s' : Cpu W}
    (hcode : Laid code s.rip (is ++ [.ret]) c) (hf : Frames base ⟨register, []⟩ s)
    (heffects : effects is s = some s')
    (hvalue : s'.register = Function.update s.register rax value)
    (hmemory : s'.memory = s.memory) (hworld : s'.world = s.world)
    (hrest : ∀ t : Cpu W, t.rip = s.memory.read base →
      t.register = Function.update (Function.update register rax value) rsp (base + 8) →
      t.world = s.world → Ensures code (asmExt x) Q t) : Ensures code (asmExt x) Q s := by
  obtain ⟨c₁, hbody, next, hret, -⟩ := Laid.append.1 hcode
  have hrsp : s'.register rsp = base := by
    rw [hvalue, Function.update_of_ne (show rsp ≠ rax by decide), hf.top]
    exact BitVec.sub_zero base
  refine .block hbody rfl heffects (.exec hret rfl (hrest _ ?_ ?_ hworld))
  · change s'.memory.read (s'.register rsp) = _
    rw [hmemory, hrsp]
  · change Function.update s'.register rsp (s'.register rsp + 8) = _
    rw [hrsp, hvalue]
    funext r
    by_cases hr : r = rsp
    · rw [hr, Function.update_self, Function.update_self]
    rw [Function.update_of_ne hr, Function.update_of_ne hr]
    by_cases hrax : r = rax
    · rw [hrax, Function.update_self, Function.update_self]
    · rw [Function.update_of_ne hrax, Function.update_of_ne hrax]
      exact hf.register r hr

/-- `return true`. -/
theorem effects_true (s : Cpu W) : ∃ s' : Cpu W,
    effects ([.xorSelf rax, .inc rax] : List (Instruction AsmExtern)) s = some s' ∧
      s'.register = Function.update s.register rax 1 ∧ s'.memory = s.memory ∧
      s'.world = s.world := by
  refine ⟨_, rfl, ?_, rfl, rfl⟩
  change Function.update (Function.update s.register rax 0) rax
    (Function.update s.register rax 0 rax + 1) = _
  rw [Function.update_self, Function.update_idem]
  rfl

/-- The guest returns from `AsmInitializeVm`. -/
theorem ensures_resumeVm (hl : l.Loaded code) (hrip : t.rip = l.asmResumeVm)
    (hf : Frames base ⟨t.register, (GpRegisters.pushed register).frame ++ [flags]⟩ t)
    (halign : base.toNat % 16 = 8)
    (hrest : ∀ u : Cpu W, u.rip = t.memory.read base →
      u.register = Function.update (Function.update register rax 1) rsp (base + 8) →
      u.world = t.world → Ensures code (asmExt x) Q u) : Ensures code (asmExt x) Q t := by
  obtain ⟨after, hcode⟩ := hl.resumeVm
  have hlisting : Listing.asmResumeVm =
      (([.nop] ++ (Listing.asmPopaq ++ [.popfq])) ++ [.sub rsp 8]) ++
      (Listing.asmDumpRegisters ++ (.add rsp 8 :: ([.xorSelf rax, .inc rax] ++ [.ret]))) := rfl
  rw [hlisting] at hcode
  obtain ⟨c₁, hpops, hcode⟩ := Laid.append.1 hcode
  obtain ⟨c₂, hdump, next, hadd, hreturn⟩ := Laid.append.1 hcode
  obtain ⟨t₁, h₁, hf₁, hb₁⟩ := hf.restored
  obtain ⟨space, t₂, hspace, h₂, hf₂, hb₂⟩ := hf₁.sub 1
  have heffects :
      effects (([.nop] ++ (Listing.asmPopaq ++ [.popfq])) ++ [.sub rsp 8]) t = some t₂ := by
    rw [List.append_assoc]
    exact (effects_cons rfl).trans ((effects_then h₁).trans (effects_cons h₂))
  have hrsp₂ : t₂.register rsp = base - 8 := by
    rw [hf₂.top, List.append_nil, hspace]
    rfl
  have halign₂ : (t₂.register rsp).toNat % 16 = 0 := by
    rw [hrsp₂, BitVec.toNat_sub, show (8 : BitVec 64).toNat = 8 from rfl]
    omega
  refine .block hpops hrip heffects (ensures_dumpRegisters hdump rfl halign₂
    fun t₃ hrip₃ hregister₃ hworld₃ hmemory₃ => ?_)
  replace hregister₃ : t₃.register = t₂.register := hregister₃
  refine .exec (hrip₃.symm ▸ hadd) rfl ?_
  obtain ⟨t₄, h₄, hregister₄, hmemory₄, hworld₄⟩ := effects_true _
  refine ensures_return hreturn ⟨fun r hr => ?_, ?_, trivial⟩ h₄ hregister₄ hmemory₄ hworld₄
    fun u hrip hregister hworld => hrest u (hrip.trans ?_) hregister ?_
  · refine (Cpu.set_of_ne hr _ t₃).trans ?_
    rw [hregister₃]
    exact hf₂.register r hr
  · refine (t₃.set_self rsp _).trans ?_
    rw [hregister₃, hrsp₂, BitVec.sub_add_cancel]
    exact (BitVec.sub_zero base).symm
  · have hkept : ∀ b, (b - base).toNat < 8 → t₃.memory b = t.memory b := fun b hb => by
      have hdumped := hmemory₃ b (by
        dsimp only
        rw [hrsp₂]
        simp only [Within, BitVec.toNat_sub, show (8 : BitVec 64).toNat = 8 from rfl] at hb ⊢
        omega)
      exact hdumped.trans ((congrFun hb₂.memory_eq b).trans (congrFun hb₁.memory_eq b))
    exact Memory.read_congr hkept
  · exact hworld.trans (hworld₃.trans (hb₂.world.trans hb₁.world))

/-- The processor at the call of the routine : its arguments, and what was saved on the stack of
the caller. -/
structure AtRoutine (asmResumeVm : BitVec 64) (s t : Cpu W) : Prop where
  top : t.register rsp = s.register rsp - 0xA8
  stackPointer : t.register rcx = s.register rsp - 0x88
  instructionPointer : t.register rdx = asmResumeVm
  context : t.register r8 = s.register rdx
  world : t.world = s.world
  saved : ∃ space, space.length = 4 ∧ Frames (s.register rsp) ⟨t.register,
    space ++ ((GpRegisters.pushed s.register).frame ++ [s.flags &&& 0xFCFFFF])⟩ t
  above : ∀ b, Within (s.register rsp) 8 b → t.memory b = s.memory b

theorem effects_beforeRoutine (asmResumeVm : BitVec 64) (s : Cpu W) :
    ∃ t, effects ((([.pushfq] ++ Listing.asmPushaq) ++
        [.mov rax rcx, .mov r8 rdx, .movImmediate rdx asmResumeVm, .mov rcx rsp]) ++
          [.sub rsp 0x20]) s = some t ∧ AtRoutine asmResumeVm s t := by
  have hframes : Frames (s.register rsp) ⟨s.register, []⟩ s :=
    ⟨fun _ _ => rfl, (BitVec.sub_zero _).symm, trivial⟩
  obtain ⟨s₁, h₁, hf₁, hb₁⟩ := @Frames.saved _ _ 0x88 _ _ _ hframes (by simp) (by decide)
  obtain ⟨s₂, h₂, hrsp₂, hmemory₂, hworld₂, hrcx₂, hrdx₂, hr8₂⟩ : ∃ s₂ : Cpu W,
      effects ([.mov rax rcx, .mov r8 rdx, .movImmediate rdx asmResumeVm, .mov rcx rsp] :
        List (Instruction AsmExtern)) s₁ = some s₂ ∧ s₂.register rsp = s₁.register rsp ∧
        s₂.memory = s₁.memory ∧ s₂.world = s₁.world ∧ s₂.register rcx = s₁.register rsp ∧
        s₂.register rdx = asmResumeVm ∧ s₂.register r8 = s₁.register rdx :=
    ⟨_, rfl, rfl, rfl, rfl, rfl, rfl, rfl⟩
  obtain ⟨space, s₃, hspace, h₃, hf₃, hb₃⟩ := (hf₁.same hrsp₂ hmemory₂).sub 4
  refine ⟨s₃, ?_, ?_, ?_, ?_, ?_, ?_, ⟨space, hspace, fun _ _ => rfl, hf₃.top, hf₃.stack⟩,
    fun b hb => ?_⟩
  · rw [List.append_assoc, effects_then h₁, effects_then h₂]
    exact effects_cons h₃
  · rw [hf₃.top]
    simp only [List.length_append, hspace]
    rfl
  · exact (hf₃.register rcx (by decide)).trans (hrcx₂.trans hf₁.top)
  · exact (hf₃.register rdx (by decide)).trans hrdx₂
  · exact (hf₃.register r8 (by decide)).trans (hr8₂.trans (hf₁.register rdx (by decide)))
  · exact hb₃.world.trans (hworld₂.trans hb₁.world)
  · rw [hb₃.memory_eq, hmemory₂]
    exact hb₁.above (by decide) hb

end Start

/-- **Two returns.** `AsmInitializeVm` returns to its caller exactly once for each side : with 0 if
the routine returned, and with 1 in the guest if the routine launched it. Both have the stack and
all other registers of the caller. -/
theorem asmInitializeVm_forks {W : Type} {x : Vmx W} {l : AsmLabels} {s : Cpu W}
    {code : BitVec 64 → Option (Instruction AsmExtern × BitVec 64)} (hl : l.Loaded code)
    (hrip : s.rip = l.asmInitializeVm) (halign : (s.register rsp).toNat % 16 = 8) :
    let r := x.vmInitializationRoutine (s.register rsp - 0x88) l.asmResumeVm (s.register rdx)
      s.world
    Ensures code (asmExt x) (fun t => t.rip = s.top ∧
      t.register = Function.update (Function.update s.register rax (if r.1 then 1 else 0)) rsp
        (s.register rsp + 8) ∧ t.world = r.2) s := by
  intro r
  obtain ⟨s₃, hpushes, hat⟩ := effects_beforeRoutine l.asmResumeVm s
  obtain ⟨space, hspace, hf₃⟩ := hat.saved
  have hlisting : Listing.asmInitializeVm l.asmResumeVm = ((([.pushfq] ++ Listing.asmPushaq) ++
      [.mov rax rcx, .mov r8 rdx, .movImmediate rdx l.asmResumeVm, .mov rcx rsp]) ++
        [.sub rsp 0x20]) ++ (.external .vmInitializationRoutine ::
          ((.add rsp 0x20 :: (Listing.asmPopaq ++ [.popfq])) ++ ([.xorSelf rax] ++ [.ret]))) := rfl
  have hcode := hl.initializeVm
  rw [hlisting] at hcode
  obtain ⟨c₁, hpre, next, hcall, hcode⟩ := Laid.append.1 hcode
  obtain ⟨c₂, hpops, hreturn⟩ := Laid.append.1 hcode
  have hr : x.vmInitializationRoutine (s₃.register rcx) (s₃.register rdx) (s₃.register r8)
      s₃.world = r := by
    rw [hat.stackPointer, hat.instructionPointer, hat.context, hat.world]
  have halign₃ : (s₃.register rsp).toNat % 16 = 0 := by
    rw [hat.top, BitVec.toNat_sub, show (0xA8 : BitVec 64).toNat = 0xA8 from rfl]
    omega
  refine .block hpre hrip hpushes (.external hcall ?_ ?_)
  · cases hlaunch : r.1 with
    | true =>
      refine ⟨{ s₃.set rsp (s₃.register rcx) with rip := s₃.register rdx, world := r.2 }, halign₃,
        (congrArg Prod.snd hr).symm, fun _ _ => rfl, ?_⟩
      dsimp only
      rw [hr, hlaunch, if_pos rfl]
      exact ⟨rfl, s₃.set_self rsp _⟩
    | false =>
      refine ⟨{ s₃ with rip := next, world := r.2 }, halign₃, (congrArg Prod.snd hr).symm,
        fun _ _ => rfl, ?_⟩
      dsimp only
      rw [hr, hlaunch]
      exact ⟨rfl, rfl⟩
  · rintro s₄ ⟨-, hworld₄, hmemory₄, hend⟩
    dsimp only at hworld₄ hmemory₄ hend
    rw [hr] at hworld₄ hend
    have hplace : s₃.register rsp + 0x20 = s.register rsp - 0x88 := by
      rw [hat.top, show (0xA8 : BitVec 64) = 0x88 + 0x20 from rfl, ← BitVec.sub_sub,
        BitVec.sub_add_cancel]
    rw [hplace] at hmemory₄
    have hwords : ∀ b, Within (s.register rsp - 0x88) (8 * 17) b → s₄.memory b = s₃.memory b :=
      fun b hb => hmemory₄ b (Nat.lt_trans hb (by decide))
    have hcaller : s₄.memory.read (s.register rsp) = s.top := by
      refine Memory.read_congr fun b hb => (hmemory₄ b ?_).trans ?_
      · simp only [Within, BitVec.toNat_sub, show (0x88 : BitVec 64).toNat = 0x88 from rfl] at hb ⊢
        omega
      · exact hat.above b hb
    cases hlaunch : r.1 with
    | true =>
      rw [hlaunch, if_pos rfl] at hend
      have hstack := hf₃.stack
      rw [hf₃.top] at hstack
      have hrsp₄ : s₄.register rsp = s.register rsp - 0x88 :=
        hend.2.trans hat.stackPointer
      have hf₄ : Frames (s.register rsp) ⟨s₄.register,
          (GpRegisters.pushed s.register).frame ++ [s.flags &&& 0xFCFFFF]⟩ s₄ := by
        refine ⟨fun _ _ => rfl, hrsp₄, ?_⟩
        rw [hrsp₄]
        exact (Words.append_below.1 hstack).2.congr (show 8 * 17 ≤ 2 ^ 64 by decide) hwords
      refine ensures_resumeVm hl ?_ hf₄ halign fun u hrip hregister hworld =>
        .here ⟨hrip.trans hcaller, hregister, hworld.trans hworld₄⟩
      exact hend.1.trans hat.instructionPointer
    | false =>
      rw [hlaunch] at hend
      obtain ⟨s₅, h₅, hf₅, hworld₅, hmemory₅⟩ := hf₃.unwound hend.2 hwords
      rw [hspace] at h₅
      refine .block hpops hend.1 h₅ (ensures_return hreturn ⟨hf₅.register, hf₅.top, hf₅.stack⟩
        rfl rfl rfl rfl fun u hrip hregister hworld => .here ⟨?_, hregister, ?_⟩)
      · exact hrip.trans ((congrArg (Memory.read · (s.register rsp)) hmemory₅).trans hcaller)
      · exact hworld.trans (hworld₅.trans hworld₄)

theorem asmInitializeVm_forks_launched : Ensures (place 0 placedCode) (asmExt refusingVmx)
    (fun t => t.rip = (someCpu 0 0x8008 ()).top ∧ t.register = Function.update (Function.update
      (someCpu 0 0x8008 ()).register rax 1) rsp 0x8010 ∧ t.world = ()) (someCpu 0 0x8008 ()) :=
  asmInitializeVm_forks placed_loaded rfl (by decide)

end DeviceMon
