import DeviceMon.EptLocality
import DeviceMon.Vm

/-!
# VmInitialization as a whole

Who holds what while the processors are started and stopped. `Accounted` says it for a list
of virtualized processors : the blocks handed out since `VmInitialization` was called are
those of these processors and of the shared data, whose reference count is their number.
Starting a processor adds it to the list or gives back all it took (`Accounted.initialize`),
stopping one removes it, and stopping the last one gives back everything
(`Accounted.stop`).

The reference count leaves one hole : when the first processor gets no `ProcessorData`,
nobody ever held a reference and nobody frees the shared data
(`vmInitialization_cleansUp_iff`).
-/

namespace DeviceMon

open EptState

/-! ## The loop over the processors -/

/-- What a loop keeps up to its first failure. -/
theorem utilForEachProcessorLoop_rule {S : Type} {callback : ℕ → S → NtStatus × S}
    {I : ℕ → S → Prop}
    (hstep : ∀ {i s s'}, I i s → callback i s = (.success, s') → I (i + 1) s') (n : ℕ) {i : ℕ}
    {s : S} (h : I i s) :
    ((utilForEachProcessorLoop callback n i s).1 = .success ∧
        I (i + n) (utilForEachProcessorLoop callback n i s).2) ∨
      ∃ k sk, i ≤ k ∧ k < i + n ∧ I k sk ∧ (callback k sk).1 ≠ .success ∧
        utilForEachProcessorLoop callback n i s = callback k sk := by
  induction n generalizing i s with
  | zero => exact Or.inl ⟨rfl, h⟩
  | succ n ih =>
    rw [utilForEachProcessorLoop]
    cases hc : callback i s with
    | mk status s' =>
      by_cases hs : status = .success
      · subst hs
        have hnext : i + (n + 1) = i + 1 + n := by omega
        rw [hnext]
        simp only [NtStatus.isSuccess, decide_true, Bool.not_true, Bool.false_eq_true, if_false]
        rcases ih (hstep h hc) with hok | ⟨k, sk, hik, hkn, hI, hfail, heq⟩
        · exact Or.inl hok
        · exact Or.inr ⟨k, sk, by omega, hkn, hI, hfail, heq⟩
      · refine Or.inr ⟨i, s, le_rfl, by omega, h, by rw [hc]; exact hs, ?_⟩
        simp [NtStatus.isSuccess, hs, hc]

/-! ## Blocks -/

/-- The blocks of the tables of a processor. -/
def EptData.blocks (h : Heap) (data : EptData) : List PoolBlock :=
  EptState.pages data.eptPml4 ⟨h, data⟩ ++ [data.preallocatedArray, data.self]

/-- The blocks of a processor's data. -/
def ProcessorData.blocks (h : Heap) (data : ProcessorData) : List PoolBlock :=
  data.vmmStackLimit.toList ++ (data.vmcsRegion.toList ++ (data.vmxonRegion.toList ++
    ((data.eptData.elim [] (EptData.blocks h)) ++ [data.self])))

section Blocks

variable {start : Ledger PoolBlock} {h h' : Heap} {rest : List PoolBlock} {data : EptData}

theorem EptData.blocks_of_table (ht : h'.table = h.table) (data : EptData) :
    data.blocks h' = data.blocks h := by
  simp only [EptData.blocks, EptState.pages, EptState.tables, EptState.spare, ht]

theorem ProcessorData.blocks_of_table (ht : h'.table = h.table) (data : ProcessorData) :
    data.blocks h' = data.blocks h := by
  simp only [ProcessorData.blocks, funext (EptData.blocks_of_table ht)]

theorem ProcessorData.blocks_perm (data : ProcessorData)
    (hu : ∀ d, data.eptData = some d → Undisturbed d h h') :
    (data.blocks h).Perm (data.blocks h') := by
  have htables : (data.eptData.elim [] (EptData.blocks h)).Perm
      (data.eptData.elim [] (EptData.blocks h')) := by
    cases hd : data.eptData with
    | none => exact List.Perm.nil
    | some d => exact List.Perm.append_right _ (hu d hd).pages_perm.symm
  exact (((htables.append_right _).append_left _).append_left _).append_left _

/-- Frames in use are listed. -/
theorem mem_pages_of_uses {root f : Frame} {s : EptState} (hf : Uses root s f) :
    .page f ∈ s.pages root := by
  refine List.mem_map.2 ⟨f, List.mem_append.2 ?_, rfl⟩
  rcases hf with ⟨p, hp, hwalk⟩ | hspare
  · exact Or.inl ((Radix.mem_frames mem_tableIndices).2 ⟨p, hp, hwalk⟩)
  · exact Or.inr hspare

/-- Tables that are held and keep their contents are ready. -/
theorem EptReady.of_held (hr : EptReady ⟨h, data⟩) (ht : h'.table = h.table)
    (hl : ∀ b ∈ data.blocks h, b ∈ h'.live) : EptReady ⟨h', data⟩ :=
  (hr.of_heap (fun _ _ => by rw [ht])
    fun _ hf => hl _ (List.mem_append_left _ (mem_pages_of_uses hf))).1

theorem Heap.freeIf_table (b : Option PoolBlock) (h : Heap) : (h.freeIf b).table = h.table := by
  cases b <;> rfl

theorem holds_freeIf {b : Option PoolBlock}
    (hheld : Ledger.Holds start h.ledger (b.toList ++ rest)) :
    Ledger.Holds start (h.freeIf b).ledger rest := by
  cases b with
  | none => exact hheld
  | some b => exact hheld.give

theorem eptTermination_table (s : EptState) : (eptTermination s).table = s.heap.table := by
  rw [eptTermination, Heap.free, eptpDestructTables_table]
  exact Heap.freePages_table _ s.heap

/-- `EptTermination` gives back the blocks of the tables. -/
theorem holds_termination (hr : EptReady ⟨h, data⟩)
    (hheld : Ledger.Holds start h.ledger (data.blocks h ++ rest)) :
    Ledger.Holds start (eptTermination ⟨h, data⟩).ledger rest := by
  refine Owns.termination hr (Ledger.Holds.perm hheld ?_)
  rw [EptData.blocks, List.append_assoc]
  rfl

end Blocks

/-! ## Accounts of the system -/

section System

variable {B C : Type} {start : Ledger PoolBlock} {sharedData msrBitmap ioBitmap : PoolBlock}
  {vs : List ℕ} {i : ℕ} {sys : System B C} {h h' : Heap} {data : ProcessorData}

/-- The blocks of processor `i`, with the tables as they are in `h`. -/
def System.blocks (sys : System B C) (h : Heap) (i : ℕ) : List PoolBlock :=
  (sys.processors i).elim [] fun p => p.processorData.blocks h

/-- The heap `h` has the blocks of the processors in `vs`, of the shared data and those in
`extra`. -/
structure Held (start : Ledger PoolBlock) (shared : List PoolBlock) (vs : List ℕ)
    (sys : System B C) (h : Heap) (extra : List PoolBlock) : Prop where
  virtualized : ∀ i, (sys.processors i).isSome = true ↔ i ∈ vs
  ready : ∀ {i p}, sys.processors i = some p → EptReady ⟨h, p.vmm.ept.data⟩
  held : Ledger.Holds start h.ledger (extra ++ (vs.flatMap (sys.blocks h) ++ shared))

/-- `vs` are the virtualized processors, and these and the shared data hold what was handed
out since `start`. -/
structure Accounted (start : Ledger PoolBlock) (sharedData msrBitmap ioBitmap : PoolBlock)
    (vs : List ℕ) (sys : System B C) : Prop where
  held : Held start [ioBitmap, msrBitmap, sharedData] vs sys sys.heap []
  users : ∀ {i p}, sys.processors i = some p → p.data.sharedData = sharedData
  shared : sys.sharedMemory sharedData = ⟨vs.length, some msrBitmap, some ioBitmap⟩

/-- No processor is virtualized, and all blocks handed out since `start` were given back, each
once. -/
structure CleanedUp (start : Ledger PoolBlock) (sys : System B C) : Prop where
  none : ∀ i, sys.processors i = none
  settled : Ledger.Holds start sys.heap.ledger []

/-- The tables of virtualized processors are among the blocks held. -/
theorem Held.mem_live {shared extra : List PoolBlock} {p : Processor B C}
    (hh : Held start shared vs sys h extra) (hp : sys.processors i = some p) {b : PoolBlock}
    (hb : b ∈ EptData.blocks h p.vmm.ept.data) : b ∈ vs.flatMap (sys.blocks h) := by
  refine List.mem_flatMap.2 ⟨i, (hh.virtualized i).1 (by rw [hp]; rfl), ?_⟩
  rw [System.blocks, hp]
  have hin : b ∈ ProcessorData.blocks h p.processorData := by
    simp only [ProcessorData.blocks, Processor.processorData, Option.elim_some, List.mem_append]
    exact Or.inr (Or.inr (Or.inr (Or.inl hb)))
  exact hin

/-- A step of the heap that changes no table and no block of the processors. -/
theorem Held.of_table {shared extra extra' : List PoolBlock}
    (hh : Held start shared vs sys h extra) (ht : h'.table = h.table)
    (hheld : Ledger.Holds start h'.ledger (extra' ++ (vs.flatMap (sys.blocks h) ++ shared))) :
    Held start shared vs sys h' extra' := by
  have hblocks : sys.blocks h' = sys.blocks h := by
    funext i
    simp only [System.blocks, funext (ProcessorData.blocks_of_table ht)]
  refine ⟨hh.virtualized, fun {i p} hp => ?_, by rw [hblocks]; exact hheld⟩
  refine (hh.ready hp).of_held ht fun b hb => hheld.live.mem_iff.2 ?_
  exact List.mem_append_left _ (List.mem_append_right _
    (List.mem_append_left _ (hh.mem_live hp hb)))

/-- Building the tables of a processor disturbs no other. -/
theorem Held.of_undisturbed {shared extra extra' : List PoolBlock}
    (hh : Held start shared vs sys h extra)
    (hu : ∀ {i p}, sys.processors i = some p → Undisturbed p.vmm.ept.data h h')
    (hheld : Ledger.Holds start h'.ledger (extra' ++ (vs.flatMap (sys.blocks h) ++ shared))) :
    Held start shared vs sys h' extra' := by
  refine ⟨hh.virtualized, fun hp => (hu hp).ready', hheld.perm ?_⟩
  have hblocks : ∀ i, (sys.blocks h i).Perm (sys.blocks h' i) := by
    intro i
    rw [System.blocks, System.blocks]
    cases hp : sys.processors i with
    | none => exact List.Perm.nil
    | some p =>
      refine p.processorData.blocks_perm fun d hd => ?_
      obtain rfl := Option.some.inj hd
      exact hu hp
  exact ((List.Perm.flatMap_left vs fun i _ => hblocks i).append_right shared).append_left extra'

/-! ### Freeing a processor's data -/

/-- The shared data with its bitmaps, in the order it is freed. -/
theorem freeSharedData_last (hs : sys.sharedMemory data.sharedData =
    ⟨1, some msrBitmap, some ioBitmap⟩) : vmpFreeSharedData data sys = { sys with
      heap := ((sys.heap.free ioBitmap).free msrBitmap).free data.sharedData
      sharedMemory := Function.update sys.sharedMemory data.sharedData
        ⟨0, some msrBitmap, some ioBitmap⟩ } := by
  simp [vmpFreeSharedData, hs, Heap.freeIf]

theorem freeSharedData_used {n : ℕ} (hn : n ≠ 0) (hs : sys.sharedMemory data.sharedData =
    ⟨n + 1, some msrBitmap, some ioBitmap⟩) : vmpFreeSharedData data sys = { sys with
      sharedMemory := Function.update sys.sharedMemory data.sharedData
        ⟨n, some msrBitmap, some ioBitmap⟩ } := by
  simp [vmpFreeSharedData, hs, hn]

/-- Freeing gives back all blocks of the data before it looks at the shared data. -/
theorem freeProcessorData_eq (sys : System B C)
    (hready : ∀ d, data.eptData = some d → EptReady ⟨h, d⟩)
    {rest : List PoolBlock} (hheld : Ledger.Holds start h.ledger (data.blocks h ++ rest)) :
    ∃ h' : Heap, h'.table = h.table ∧ Ledger.Holds start h'.ledger (data.self :: rest) ∧
      ∀ sys' : System B C, vmpFreeSharedData data { sys with heap := h' } = sys' →
        vmpFreeProcessorData data { sys with heap := h } =
          { sys' with heap := sys'.heap.free data.self } := by
  set h₁ := h.freeIf data.vmmStackLimit with hh₁
  set h₂ := h₁.freeIf data.vmcsRegion with hh₂
  set h₃ := h₂.freeIf data.vmxonRegion with hh₃
  have ht : h₃.table = h.table := by
    rw [hh₃, Heap.freeIf_table, hh₂, Heap.freeIf_table, hh₁, Heap.freeIf_table]
  have hheld₃ : Ledger.Holds start h₃.ledger
      (data.eptData.elim [] (EptData.blocks h) ++ (data.self :: rest)) := by
    simp only [ProcessorData.blocks, List.append_assoc, List.singleton_append] at hheld
    exact holds_freeIf (holds_freeIf (holds_freeIf hheld))
  cases hept : data.eptData with
  | none =>
    rw [hept] at hheld₃
    refine ⟨h₃, ht, hheld₃, ?_⟩
    rintro _ rfl
    simp only [vmpFreeProcessorData, hept, hh₃, hh₂, hh₁]
  | some d =>
    rw [hept] at hheld₃
    have hready₃ : EptReady ⟨h₃, d⟩ := (hready d hept).of_held ht fun b hb =>
      hheld₃.live.mem_iff.2 (List.mem_append_left _ (List.mem_append_left _ hb))
    refine ⟨eptTermination ⟨h₃, d⟩, (eptTermination_table _).trans ht, ?_, ?_⟩
    · refine holds_termination hready₃ ?_
      rw [EptData.blocks_of_table ht]
      exact hheld₃
    · rintro _ rfl
      simp only [vmpFreeProcessorData, hept, hh₃, hh₂, hh₁]

/-- Freeing the data of a processor that is not virtualized : the shared data stays as long as
others use it, and goes with its last user. -/
theorem Held.free (hh : Held start [ioBitmap, msrBitmap, sharedData] vs sys h (data.blocks h))
    (hready : ∀ d, data.eptData = some d → EptReady ⟨h, d⟩) (hdata : data.sharedData = sharedData)
    (husers : ∀ {i p}, sys.processors i = some p → p.data.sharedData = sharedData)
    (hshared : sys.sharedMemory sharedData = ⟨vs.length + 1, some msrBitmap, some ioBitmap⟩) :
    (vs ≠ [] → Accounted start sharedData msrBitmap ioBitmap vs
        (vmpFreeProcessorData data { sys with heap := h })) ∧
      (vs = [] → CleanedUp start (vmpFreeProcessorData data { sys with heap := h })) := by
  subst hdata
  obtain ⟨h₁, ht, hheld, heq⟩ := freeProcessorData_eq sys hready hh.held
  constructor
  · intro hvs
    have hn : vs.length ≠ 0 := fun h0 => hvs (List.length_eq_zero_iff.1 h0)
    rw [heq _ (freeSharedData_used hn hshared)]
    have hheld' : Held start [ioBitmap, msrBitmap, data.sharedData] vs sys (h₁.free data.self) [] :=
      hh.of_table ht hheld.give
    exact ⟨⟨hheld'.virtualized, hheld'.ready, hheld'.held⟩, husers, Function.update_self _ _ _⟩
  · rintro rfl
    rw [heq _ (freeSharedData_last (by simpa using hshared))]
    refine ⟨fun i => ?_, ?_⟩
    · cases hp : sys.processors i with
      | none => rfl
      | some p => exact absurd ((hh.virtualized i).1 (by rw [hp]; rfl)) List.not_mem_nil
    · have hperm : ([data.self] ++ [ioBitmap, msrBitmap, data.sharedData]).Perm
          ([ioBitmap, msrBitmap, data.sharedData] ++ [data.self]) :=
        List.perm_append_comm
      exact (((Ledger.Holds.perm hheld hperm).give.give).give).give

/-! ### Stopping a processor -/

@[simp] theorem FlagRegister.zf_clearStatus (flags : BitVec 64) :
    FlagRegister.zf (FlagRegister.clearStatus flags) = false := by
  simp [FlagRegister.zf, FlagRegister.clearStatus]

@[simp] theorem FlagRegister.cf_clearStatus (flags : BitVec 64) :
    FlagRegister.cf (FlagRegister.clearStatus flags) = false := by
  simp [FlagRegister.cf, FlagRegister.clearStatus]

theorem cpl_atVmCall (number : HypercallNumber) (context : BitVec 64) (s : VmmState B C) :
    vmmpGetGuestCpl (captureGuestContext (atVmCall number context s)) = 0 := by
  have hvmcs : (captureGuestContext (atVmCall number context s)).vmcs .guestSsArBytes = 0x4093 := by
    simp [captureGuestContext, atVmCall]
  rw [vmmpGetGuestCpl, utilVmRead, hvmcs]
  decide

/-- A hypercall outside VMX operation is an illegal instruction. -/
theorem utilVmCall_unserved (m : Machine B) (number : HypercallNumber) (context : BitVec 64)
    (hp : sys.processors i = none) :
    utilVmCall m number context i sys = (.illegalInstruction, sys) := by
  simp only [utilVmCall, hp]

/-- The terminating hypercall takes the processor out of VMX operation. -/
theorem utilVmCall_terminate {p : Processor B C} (m : Machine B) (context : BitVec 64)
    (hp : sys.processors i = some p) : ∃ memory,
      utilVmCall m .terminateVmm context i sys = (.success,
        { sys with memory := memory, processors := Function.update sys.processors i none }) := by
  have hcpl := cpl_atVmCall .terminateVmm context (sys.vmm p)
  have hnumber : HypercallNumber.ofValue ((captureGuestContext
      (atVmCall .terminateVmm context (sys.vmm p))).gpRegs.cx.setWidth 32) =
      some .terminateVmm := rfl
  set s := captureGuestContext (atVmCall .terminateVmm context (sys.vmm p))
  have hcall : vmmpHandleVmCall m s = vmmpHandleVmCallTermination s.gpRegs.dx s := by
    simp only [vmmpHandleVmCall, hnumber, if_pos hcpl]
  have hzf : FlagRegister.zf (vmmpHandleVmCallTermination s.gpRegs.dx s).gpRegs.ax = false :=
    FlagRegister.zf_clearStatus _
  have hcf : FlagRegister.cf (vmmpHandleVmCallTermination s.gpRegs.dx s).gpRegs.ax = false :=
    FlagRegister.cf_clearStatus _
  have hstatus : asmVmxCall m .terminateVmm context (sys.vmm p) =
      (.ok, vmmpHandleVmCallTermination s.gpRegs.dx s) := by
    simp only [asmVmxCall]
    rw [show vmmpHandleVmCall m _ = _ from hcall]
    simp only [vmmpHandleVmCallTermination] at hzf hcf ⊢
    simp only [Bool.false_eq_true, if_false, hzf, hcf]
  refine ⟨(vmmpHandleVmCallTermination s.gpRegs.dx s).memory, ?_⟩
  simp only [utilVmCall, hp, hstatus]
  rfl

/-- Taking a processor off the list leaves its blocks. -/
theorem Held.remove {shared : List PoolBlock} {p : Processor B C}
    (hh : Held start shared (i :: vs) sys h []) (hi : i ∉ vs) (hp : sys.processors i = some p)
    {sys' : System B C} (hsys : sys'.processors = Function.update sys.processors i none) :
    Held start shared vs sys' h (p.processorData.blocks h) := by
  have hother : ∀ {j}, j ≠ i → sys'.processors j = sys.processors j := fun hj => by
    rw [hsys, Function.update_of_ne hj]
  refine ⟨fun j => ?_, fun {j q} hq => ?_, hh.held.perm ?_⟩
  · by_cases hj : j = i
    · subst hj
      rw [hsys, Function.update_self]
      exact iff_of_false (by simp) hi
    · rw [hother hj, hh.virtualized j, List.mem_cons, or_iff_right hj]
  · refine hh.ready (i := j) ?_
    rw [← hother, hq]
    rintro rfl
    rw [hsys, Function.update_self] at hq
    cases hq
  · have hblocks : vs.flatMap (sys'.blocks h) = vs.flatMap (sys.blocks h) := by
      refine List.flatMap_congr fun j hj => ?_
      rw [System.blocks, System.blocks, hother]
      rintro rfl
      exact hi hj
    have hfirst : sys.blocks h i = p.processorData.blocks h := by
      rw [System.blocks, hp]
      rfl
    rw [hblocks, List.flatMap_cons, hfirst, List.nil_append, List.append_assoc]

/-- `VmpStopVm` on a virtualized processor succeeds, and with the last one everything is given
back. -/
theorem Accounted.stop (pf : Platform B C)
    (ha : Accounted start sharedData msrBitmap ioBitmap (i :: vs) sys) (hi : i ∉ vs) :
    (vmpStopVm pf i sys).1 = .success ∧
      (vs ≠ [] → Accounted start sharedData msrBitmap ioBitmap vs (vmpStopVm pf i sys).2) ∧
      (vs = [] → CleanedUp start (vmpStopVm pf i sys).2) := by
  obtain ⟨p, hp⟩ := Option.isSome_iff_exists.1 ((ha.held.virtualized i).2 List.mem_cons_self)
  obtain ⟨memory, hcall⟩ := utilVmCall_terminate pf.machine pf.localVariable hp
  set sys₁ : System B C :=
    { sys with memory := memory, processors := Function.update sys.processors i none }
  have hproc : sys₁.processors = Function.update sys.processors i none := rfl
  have hstop : vmpStopVm pf i sys = (.success, vmpFreeProcessorData p.processorData sys₁) := by
    simp only [vmpStopVm, hp, hcall, Option.map_some]
  have husers : ∀ {j q}, sys₁.processors j = some q → q.data.sharedData = sharedData := by
    intro j q hq
    by_cases hj : j = i
    · subst hj
      rw [hproc, Function.update_self] at hq
      cases hq
    · rw [hproc, Function.update_of_ne hj] at hq
      exact ha.users hq
  have hshared : sys₁.sharedMemory sharedData = ⟨vs.length + 1, some msrBitmap, some ioBitmap⟩ := by
    exact_mod_cast ha.shared
  have hfree := (ha.held.remove hi hp hproc).free
    (fun d hd => Option.some.inj hd ▸ ha.held.ready hp) (ha.users hp) husers hshared
  rw [hstop]
  exact ⟨rfl, hfree⟩

/-! ### Starting a processor -/

section Start

variable {pool : Pool} {mtrr : Mtrr} {shared extra : List PoolBlock}

theorem Held.take (hh : Held start shared vs sys h extra) {b : PoolBlock}
    (hdata : h.allocateData pool = (some b, h')) : Held start shared vs sys h' (b :: extra) := by
  refine hh.of_table (allocateData_some pool hdata).1 ?_
  rw [allocateData_ledger pool hdata]
  exact hh.held.take b

theorem Held.refuse (hh : Held start shared vs sys h extra)
    (hdata : h.allocateData pool = (none, h')) : Held start shared vs sys h' extra := by
  obtain ⟨ht, hl⟩ := allocateData_none pool hdata
  refine hh.of_table ht ?_
  rw [hl]
  exact hh.held

theorem Held.initEpt (hh : Held start shared vs sys h extra) {runs : List PhysicalMemoryRun}
    {apicBase : BitVec 64} {d : EptData}
    (hept : eptInitialization pool mtrr runs apicBase h = (some d, h')) :
    Held start shared vs sys h' (d.blocks h' ++ extra) := by
  refine hh.of_undisturbed (fun hp => eptInitialization_undisturbed pool mtrr (hh.ready hp) hept) ?_
  rw [List.append_assoc]
  exact hh.held.trans (eptInitialization_owns pool mtrr hept)

theorem Held.refuseEpt (hh : Held start shared vs sys h extra) {runs : List PhysicalMemoryRun}
    {apicBase : BitVec 64} (hept : eptInitialization pool mtrr runs apicBase h = (none, h')) :
    Held start shared vs sys h' extra :=
  hh.of_undisturbed (fun hp => eptInitialization_undisturbed pool mtrr (hh.ready hp) hept)
    (hh.held.trans (eptInitialization_none pool mtrr hept))

theorem Held.perm {extra' : List PoolBlock} (hh : Held start shared vs sys h extra)
    (hp : extra.Perm extra') : Held start shared vs sys h extra' :=
  ⟨hh.virtualized, hh.ready, hh.held.perm (hp.append_right _)⟩

end Start

/-- What the branches of `VmpInitializeVm` have once the reference count is up : the blocks of
the data so far. -/
structure Starting (start : Ledger PoolBlock) (sharedData msrBitmap ioBitmap : PoolBlock)
    (vs : List ℕ) (sys : System B C) (data : ProcessorData) (h : Heap) : Prop where
  held : Held start [ioBitmap, msrBitmap, sharedData] vs sys h (data.blocks h)
  ready : ∀ d, data.eptData = some d → EptReady ⟨h, d⟩
  data_shared : data.sharedData = sharedData
  users : ∀ {i p}, sys.processors i = some p → p.data.sharedData = sharedData
  shared : sys.sharedMemory sharedData = ⟨vs.length + 1, some msrBitmap, some ioBitmap⟩

/-- A failed start is undone : nothing is left of it, or of anything if nobody else runs. -/
def Undone (start : Ledger PoolBlock) (sharedData msrBitmap ioBitmap : PoolBlock) (vs : List ℕ)
    (sys : System B C) : Prop :=
  (vs ≠ [] → Accounted start sharedData msrBitmap ioBitmap vs sys) ∧ (vs = [] → CleanedUp start sys)

namespace Starting

theorem undone (hs : Starting start sharedData msrBitmap ioBitmap vs sys data h) :
    Undone start sharedData msrBitmap ioBitmap vs
      (vmpFreeProcessorData data { sys with heap := h }) :=
  hs.held.free hs.ready hs.data_shared hs.users hs.shared

theorem refuse {pool : Pool} (hs : Starting start sharedData msrBitmap ioBitmap vs sys data h)
    (hdata : h.allocateData pool = (none, h')) :
    Starting start sharedData msrBitmap ioBitmap vs sys data h' := by
  obtain ⟨ht, hl⟩ := allocateData_none pool hdata
  refine ⟨?_, fun d hd => ?_, hs.data_shared, hs.users, hs.shared⟩
  · rw [ProcessorData.blocks_of_table ht]
    exact hs.held.refuse hdata
  · refine (hs.ready d hd).of_held ht fun b hb => ?_
    have hlive := hs.held.held.live.mem_iff (a := b)
    rw [← hl] at hlive
    refine hlive.2 (List.mem_append_left _ (List.mem_append_left _ ?_))
    simp only [ProcessorData.blocks, hd, Option.elim_some, List.mem_append]
    exact Or.inr (Or.inr (Or.inr (Or.inl hb)))

/-- One more block of the data. -/
theorem take {pool : Pool} {b : PoolBlock} {data' : ProcessorData}
    (hs : Starting start sharedData msrBitmap ioBitmap vs sys data h)
    (hdata : h.allocateData pool = (some b, h')) (hshared : data'.sharedData = data.sharedData)
    (hept : data'.eptData = data.eptData)
    (hblocks : (b :: data.blocks h).Perm (data'.blocks h)) :
    Starting start sharedData msrBitmap ioBitmap vs sys data' h' := by
  obtain ⟨ht, hl⟩ := allocateData_some pool hdata
  refine ⟨?_, fun d hd => ?_, hshared.trans hs.data_shared, hs.users, hs.shared⟩
  · rw [ProcessorData.blocks_of_table ht]
    exact (hs.held.take hdata).perm hblocks
  · rw [hept] at hd
    refine (hs.ready d hd).of_held ht fun b' hb => hl _ ?_
    refine hs.held.held.live.mem_iff.2 (List.mem_append_left _ (List.mem_append_left _ ?_))
    simp only [ProcessorData.blocks, hd, Option.elim_some, List.mem_append]
    exact Or.inr (Or.inr (Or.inr (Or.inl hb)))

/-- The launch adds the processor to the list. -/
theorem launch (hs : Starting start sharedData msrBitmap ioBitmap vs sys data h)
    (a : VmxAnswers B C) {d : EptData} (hd : data.eptData = some d) (hi : sys.processors i = none) :
    Accounted start sharedData msrBitmap ioBitmap (vs ++ [i]) { sys with
      heap := h
      processors := Function.update sys.processors i (some (a.launched h d data)) } := by
  set sys' : System B C := { sys with
    heap := h
    processors := Function.update sys.processors i (some (a.launched h d data)) }
  have hproc : sys'.processors =
      Function.update sys.processors i (some (a.launched h d data)) := rfl
  have hself : sys'.processors i = some (a.launched h d data) := by
    rw [hproc, Function.update_self]
  have hother : ∀ {j}, j ≠ i → sys'.processors j = sys.processors j := fun hj => by
    rw [hproc, Function.update_of_ne hj]
  have hivs : i ∉ vs := fun hmem => by
    have hsome := (hs.held.virtualized i).2 hmem
    rw [hi] at hsome
    cases hsome
  have hdata : (a.launched h d data).processorData = data := by
    cases data
    subst hd
    rfl
  refine ⟨⟨fun j => ?_, fun {j q} hq => ?_, ?_⟩, fun {j q} hq => ?_, ?_⟩
  · rw [List.mem_append, List.mem_singleton]
    by_cases hj : j = i
    · subst hj
      rw [hself]
      exact iff_of_true rfl (Or.inr rfl)
    · rw [hother hj, hs.held.virtualized j, or_iff_left hj]
  · by_cases hj : j = i
    · subst hj
      rw [hself] at hq
      obtain rfl := Option.some.inj hq
      exact hs.ready d hd
    · rw [hother hj] at hq
      exact hs.held.ready hq
  · have hblocks : (vs ++ [i]).flatMap (sys'.blocks h) =
        vs.flatMap (sys.blocks h) ++ data.blocks h := by
      have hlast : sys'.blocks h i = data.blocks h := by
        rw [System.blocks, hself, Option.elim_some, hdata]
      have hfirst : vs.flatMap (sys'.blocks h) = vs.flatMap (sys.blocks h) := by
        refine List.flatMap_congr fun j hj => ?_
        rw [System.blocks, System.blocks, hother]
        rintro rfl
        exact hivs hj
      rw [List.flatMap_append, hfirst, List.flatMap_singleton, hlast]
    refine hs.held.held.perm ?_
    rw [show sys'.heap = h from rfl, hblocks, List.nil_append, ← List.append_assoc]
    exact List.perm_append_comm.append_right _
  · by_cases hj : j = i
    · subst hj
      rw [hself] at hq
      obtain rfl := Option.some.inj hq
      exact hs.data_shared
    · rw [hother hj] at hq
      exact hs.users hq
  · have hlen : ((vs ++ [i]).length : ℤ) = vs.length + 1 := by simp
    rw [hlen]
    exact hs.shared

end Starting

/-- Up to the reference : the data of the processor is allocated. -/
theorem Accounted.starting {pool : Pool} {self : PoolBlock}
    (ha : Accounted start sharedData msrBitmap ioBitmap vs sys)
    (hdata : sys.heap.allocateData pool = (some self, h)) :
    Starting start sharedData msrBitmap ioBitmap vs (sys.addReference sharedData)
      ⟨self, sharedData, none, none, none, none⟩ h := by
  have hheld := ha.held.take hdata
  refine ⟨⟨hheld.virtualized, hheld.ready, hheld.held⟩, fun d hd => ?_, rfl, ha.users, ?_⟩
  · cases hd
  · simp only [System.addReference, Function.update_self, ha.shared]

/-- A start adds the processor to the list or fails; it takes nothing then if there was no
memory for the processor's data, and is undone otherwise. -/
def Started (start : Ledger PoolBlock) (sharedData msrBitmap ioBitmap : PoolBlock) (vs : List ℕ)
    (i : ℕ) (refused : Bool) (r : Bool × System B C) : Prop :=
  (r.1 = true ∧ Accounted start sharedData msrBitmap ioBitmap (vs ++ [i]) r.2) ∨
    (r.1 = false ∧ refused = false ∧ Undone start sharedData msrBitmap ioBitmap vs r.2) ∨
    (r.1 = false ∧ refused = true ∧ Accounted start sharedData msrBitmap ioBitmap vs r.2)

/-- The blocks of a processor's data as its fields are set. -/
theorem blocks_self (h : Heap) (self sharedData : PoolBlock) :
    ProcessorData.blocks h ⟨self, sharedData, none, none, none, none⟩ = [self] :=
  rfl

theorem blocks_ept (h : Heap) (self sharedData : PoolBlock) (d : EptData) :
    ProcessorData.blocks h ⟨self, sharedData, some d, none, none, none⟩ = d.blocks h ++ [self] := by
  simp [ProcessorData.blocks]

theorem blocks_stack (h : Heap) (self sharedData stack : PoolBlock) (d : EptData) :
    ProcessorData.blocks h ⟨self, sharedData, some d, some stack, none, none⟩ =
      stack :: (d.blocks h ++ [self]) := by
  simp [ProcessorData.blocks]

theorem blocks_vmcs (h : Heap) (self sharedData stack vmcs : PoolBlock) (d : EptData) :
    ProcessorData.blocks h ⟨self, sharedData, some d, some stack, some vmcs, none⟩ =
      stack :: vmcs :: (d.blocks h ++ [self]) := by
  simp [ProcessorData.blocks]

theorem blocks_vmxon (h : Heap) (self sharedData stack vmcs vmxon : PoolBlock) (d : EptData) :
    ProcessorData.blocks h ⟨self, sharedData, some d, some stack, some vmcs, some vmxon⟩ =
      stack :: vmcs :: vmxon :: (d.blocks h ++ [self]) := by
  simp [ProcessorData.blocks]

/-- `VmpInitializeVm`, branch by branch. -/
theorem Accounted.initialize (pf : Platform B C)
    (ha : Accounted start sharedData msrBitmap ioBitmap vs sys) (hi : sys.processors i = none) :
    Started start sharedData msrBitmap ioBitmap vs i
      (sys.heap.allocateData pf.machine.pool).1.isNone (vmpInitializeVm pf sharedData i sys) := by
  unfold vmpInitializeVm
  simp only
  split
  · rename_i h₁ hself
    have hheld := ha.held.refuse hself
    rw [hself]
    exact Or.inr (Or.inr ⟨rfl, rfl, ⟨hheld.virtualized, hheld.ready, hheld.held⟩, ha.users,
      ha.shared⟩)
  rename_i self h₁ hself
  have hs := ha.starting hself
  rw [hself]
  generalize hsys : sys.addReference sharedData = sys₁ at hs ⊢
  have hi₁ : sys₁.processors i = none := by
    rw [← hsys]
    exact hi
  have hfail : ∀ {data : ProcessorData} {h : Heap},
      Starting start sharedData msrBitmap ioBitmap vs sys₁ data h →
      Started start sharedData msrBitmap ioBitmap vs i false
        (false, vmpFreeProcessorData data { sys₁ with heap := h }) :=
    fun hs => Or.inr (Or.inl ⟨rfl, rfl, hs.undone⟩)
  split
  · rename_i h₂ hept
    refine hfail ⟨?_, fun d hd => (by cases hd), rfl, hs.users, hs.shared⟩
    rw [blocks_self]
    exact hs.held.refuseEpt hept
  rename_i d h₂ hept
  have hs₂ : Starting start sharedData msrBitmap ioBitmap vs sys₁
      ⟨self, sharedData, some d, none, none, none⟩ h₂ := by
    refine ⟨?_, fun d' hd => ?_, rfl, hs.users, hs.shared⟩
    · rw [blocks_ept]
      exact hs.held.initEpt hept
    · obtain rfl := Option.some.inj hd
      exact (eptInitialization_spec _ _ hept).1
  split
  · rename_i h₃ hstack
    exact hfail (hs₂.refuse hstack)
  rename_i stack h₃ hstack
  have hs₃ : Starting start sharedData msrBitmap ioBitmap vs sys₁
      ⟨self, sharedData, some d, some stack, none, none⟩ h₃ :=
    hs₂.take hstack rfl rfl (by rw [blocks_ept, blocks_stack])
  split
  · rename_i h₄ hvmcs
    exact hfail (hs₃.refuse hvmcs)
  rename_i vmcs h₄ hvmcs
  have hs₄ : Starting start sharedData msrBitmap ioBitmap vs sys₁
      ⟨self, sharedData, some d, some stack, some vmcs, none⟩ h₄ :=
    hs₃.take hvmcs rfl rfl (by rw [blocks_stack, blocks_vmcs]; exact List.Perm.swap _ _ _)
  split
  · rename_i h₅ hvmxon
    exact hfail (hs₄.refuse hvmxon)
  rename_i vmxon h₅ hvmxon
  have hs₅ : Starting start sharedData msrBitmap ioBitmap vs sys₁
      ⟨self, sharedData, some d, some stack, some vmcs, some vmxon⟩ h₅ :=
    hs₄.take hvmxon rfl rfl (by
      rw [blocks_vmcs, blocks_vmxon]
      exact (List.Perm.swap _ _ _).trans ((List.Perm.swap _ _ _).cons _))
  have hlaunch := hs₅.launch (d := d) (pf.answers i) rfl hi₁
  split_ifs
  · exact hfail hs₅
  · exact hfail hs₅
  · exact Or.inl ⟨rfl, hlaunch⟩

/-! ### Other hypercalls -/

theorem successful_rflags (s : VmmState B C) :
    (vmmpIndicateSuccessfulVmcall s).vmcs .guestRflags = FlagRegister.clearStatus s.flagReg := by
  unfold vmmpIndicateSuccessfulVmcall vmmpAdjustGuestInstructionPointer
  simp only
  split_ifs <;> simp [vmmpInjectInterruption, utilVmWrite]

/-- From kernel mode every enumerator but the first is served and succeeds. -/
theorem vmmpHandleVmCall_serves (m : Machine B) (number : HypercallNumber)
    (hn : number ≠ .terminateVmm) (context : BitVec 64) (s : VmmState B C) :
    (asmVmxCall m number context s).1 = .ok ∧
      (asmVmxCall m number context s).2.vmContinue = true := by
  set s₀ := captureGuestContext (atVmCall number context s) with hs₀
  have hnumber : HypercallNumber.ofValue (s₀.gpRegs.cx.setWidth 32) = some number := by
    rw [HypercallNumber.ofValue_eq_some]
    cases number <;> rfl
  have hserved : ∃ s₁ : VmmState B C, vmmpHandleVmCall m s₀ = vmmpIndicateSuccessfulVmcall s₁ ∧
      s₁.vmContinue = true := by
    cases number with
    | terminateVmm => exact (hn rfl).elim
    | pingVmm => exact ⟨s₀, by simp only [vmmpHandleVmCall, hnumber], rfl⟩
    | getSharedProcessorData =>
      exact ⟨storePointer s₀.gpRegs.dx s₀.sharedData s₀,
        by simp only [vmmpHandleVmCall, hnumber], rfl⟩
    | enableVmmDeviceMonitor => exact ⟨_, by simp only [vmmpHandleVmCall, hnumber]; rfl, rfl⟩
    | disableVmmDeviceMonitor => exact ⟨_, by simp only [vmmpHandleVmCall, hnumber]; rfl, rfl⟩
  obtain ⟨s₁, heq, hcont⟩ := hserved
  have hcont' : (vmmpIndicateSuccessfulVmcall s₁).vmContinue = true :=
    (onlyVmcs_successful s₁).vmContinue.trans hcont
  have hflags : utilVmRead (vmmpIndicateSuccessfulVmcall s₁) .guestRflags =
      FlagRegister.clearStatus s₁.flagReg := successful_rflags s₁
  simp only [asmVmxCall, ← hs₀, heq, hcont', if_true, hflags, FlagRegister.zf_clearStatus,
    FlagRegister.cf_clearStatus, Bool.false_eq_true, if_false, and_self]

/-- So `UtilVmCall` succeeds on a virtualized processor and leaves it virtualized. -/
theorem utilVmCall_serves (m : Machine B) (number : HypercallNumber) (hn : number ≠ .terminateVmm)
    (context : BitVec 64) {p : Processor B C} (hp : sys.processors i = some p) :
    utilVmCall m number context i sys =
      (.success, sys.store i p (asmVmxCall m number context (sys.vmm p)).2) ∧
    (asmVmxCall m number context (sys.vmm p)).2.vmContinue = true := by
  obtain ⟨hok, hcont⟩ := vmmpHandleVmCall_serves m number hn context (sys.vmm p)
  refine ⟨?_, hcont⟩
  simp only [utilVmCall, hp, hok, if_true]

theorem isSome_store {p : Processor B C} {s : VmmState B C} (hs : s.vmContinue = true)
    (hp : (sys.processors i).isSome = true) (j : ℕ) :
    ((sys.store i p s).processors j).isSome = (sys.processors j).isSome := by
  simp only [System.store, hs, if_true]
  by_cases hj : j = i
  · subst hj
    rw [Function.update_self, hp]
    rfl
  · rw [Function.update_of_ne hj]

/-- With all processors virtualized `DmEnableMonitor` succeeds. -/
theorem dmEnableMonitor_succeeds (m : Machine B)
    (hall : ∀ i < sys.activeProcessorCount, (sys.processors i).isSome = true) :
    (dmEnableMonitor m sys).1 = .success := by
  have hstep : ∀ {i : ℕ} {s s' : System B C},
      (∀ j < sys.activeProcessorCount, (s.processors j).isSome = true) →
      utilVmCall m .enableVmmDeviceMonitor 0 i s = (.success, s') →
      ∀ j < sys.activeProcessorCount, (s'.processors j).isSome = true := by
    intro i s s' hI hcall
    cases hp : s.processors i with
    | none =>
      rw [utilVmCall, hp] at hcall
      cases hcall
    | some p =>
      obtain ⟨heq, hcont⟩ := utilVmCall_serves m .enableVmmDeviceMonitor (by decide) 0 hp
      rw [heq] at hcall
      obtain ⟨-, rfl⟩ := Prod.mk.inj hcall
      intro j hj
      rw [isSome_store hcont (by rw [hp]; rfl)]
      exact hI j hj
  rcases utilForEachProcessorLoop_rule
      (I := fun _ (s : System B C) => ∀ j < sys.activeProcessorCount,
        (s.processors j).isSome = true)
      hstep sys.activeProcessorCount (i := 0) hall with
    ⟨hok, -⟩ | ⟨k, sk, -, hk, hI, hfail, -⟩
  · exact hok
  · obtain ⟨p, hp⟩ := Option.isSome_iff_exists.1 (hI k (by omega))
    obtain ⟨heq, -⟩ := utilVmCall_serves m .enableVmmDeviceMonitor (by decide) 0 hp
    exact (hfail (congrArg Prod.fst heq)).elim

/-! ### The number of processors -/

theorem vmpFreeProcessorData_count (data : ProcessorData) (sys : System B C) :
    (vmpFreeProcessorData data sys).activeProcessorCount = sys.activeProcessorCount := by
  unfold vmpFreeProcessorData vmpFreeSharedData
  simp only
  split_ifs <;> rfl

theorem vmpInitializeVm_count (pf : Platform B C) (sharedData : PoolBlock) (i : ℕ)
    (sys : System B C) :
    (vmpInitializeVm pf sharedData i sys).2.activeProcessorCount = sys.activeProcessorCount := by
  unfold vmpInitializeVm
  simp only
  split
  · rfl
  split
  · exact vmpFreeProcessorData_count _ _
  split
  · exact vmpFreeProcessorData_count _ _
  split
  · exact vmpFreeProcessorData_count _ _
  split
  · exact vmpFreeProcessorData_count _ _
  split_ifs
  · exact vmpFreeProcessorData_count _ _
  · exact vmpFreeProcessorData_count _ _
  · rfl

/-! ## VmInitialization -/

theorem vmpStopVm_none (pf : Platform B C) (hi : sys.processors i = none) :
    vmpStopVm pf i sys = (.illegalInstruction, sys) := by
  simp only [vmpStopVm, utilVmCall, hi]

/-- The rounds of the stop loop over processors `0` to `k - 1` : each gives back a processor,
the last one everything. -/
def Stopping (start : Ledger PoolBlock) (sharedData msrBitmap ioBitmap : PoolBlock) (k j : ℕ)
    (sys : System B C) : Prop :=
  (j < k ∧ Accounted start sharedData msrBitmap ioBitmap (List.range' j (k - j)) sys) ∨
    (j = k ∧ CleanedUp start sys)

theorem Stopping.step (pf : Platform B C) {k j : ℕ} {sys' : System B C}
    (hs : Stopping start sharedData msrBitmap ioBitmap k j sys)
    (hstop : vmpStopVm pf j sys = (.success, sys')) :
    Stopping start sharedData msrBitmap ioBitmap k (j + 1) sys' := by
  rcases hs with ⟨hj, ha⟩ | ⟨rfl, hc⟩
  · have hrange : List.range' j (k - j) = j :: List.range' (j + 1) (k - (j + 1)) := by
      rw [show k - j = (k - (j + 1)) + 1 by omega]
      exact List.range'_succ
    rw [hrange] at ha
    have hmem : j ∉ List.range' (j + 1) (k - (j + 1)) := by
      rw [List.mem_range'_1]
      omega
    obtain ⟨-, hmore, hlast⟩ := ha.stop pf hmem
    rw [hstop] at hmore hlast
    rcases eq_or_lt_of_le (Nat.succ_le_of_lt hj) with heq | hlt
    · refine Or.inr ⟨heq, hlast ?_⟩
      rw [show k - (j + 1) = 0 by omega]
      rfl
    · refine Or.inl ⟨hlt, hmore fun hnil => ?_⟩
      have hlen := congrArg List.length hnil
      rw [List.length_range'] at hlen
      simp only [List.length_nil] at hlen
      omega
  · rw [vmpStopVm_none pf (hc.none j)] at hstop
    cases hstop

/-- After any number of rounds. -/
theorem Stopping.loop (pf : Platform B C) {k : ℕ}
    (hs : Stopping start sharedData msrBitmap ioBitmap k 0 sys) (n : ℕ) :
    ∃ j, (j = n ∨ j = k) ∧ Stopping start sharedData msrBitmap ioBitmap k j
      (utilForEachProcessorLoop (vmpStopVm pf) n 0 sys).2 := by
  rcases utilForEachProcessorLoop_rule
      (fun hI (hcall : vmpStopVm pf _ _ = _) => hI.step pf hcall) n hs with
    ⟨-, hI⟩ | ⟨j, sj, -, -, hI, hfail, heq⟩
  · exact ⟨n, Or.inl rfl, by simpa using hI⟩
  · refine ⟨j, ?_⟩
    rw [heq]
    rcases id hI with ⟨hj, ha⟩ | ⟨rfl, hc⟩
    · -- a virtualized processor stops
      have hmem : j ∈ List.range' j (k - j) := by
        rw [List.mem_range'_1]
        omega
      obtain ⟨p, hp⟩ := Option.isSome_iff_exists.1 ((ha.held.virtualized j).2 hmem)
      obtain ⟨memory, hcall⟩ := utilVmCall_terminate pf.machine pf.localVariable hp
      refine (hfail ?_).elim
      simp only [vmpStopVm, hp, hcall, Option.map_some]
    · rw [vmpStopVm_none pf (hc.none j)]
      exact ⟨Or.inr rfl, hI⟩

/-- If there is no memory for the data of processor 0, the shared data is left without a
user. -/
theorem startLoop_refused (pf : Platform B C)
    (ha : Accounted start sharedData msrBitmap ioBitmap [] sys)
    (hfail : (utilForEachProcessor (vmpStartVm pf sharedData) sys).1 ≠ .success)
    (hdata : (sys.heap.allocateData pf.machine.pool).1 = none) :
    Accounted start sharedData msrBitmap ioBitmap []
      (utilForEachProcessor (vmpStartVm pf sharedData) sys).2 := by
  unfold utilForEachProcessor at hfail ⊢
  cases hn : sys.activeProcessorCount with
  | zero =>
    rw [hn] at hfail
    exact (hfail rfl).elim
  | succ n =>
    obtain ⟨h, hpair⟩ : ∃ h, sys.heap.allocateData pf.machine.pool = (none, h) :=
      ⟨_, Prod.ext hdata rfl⟩
    have hstart : vmpStartVm pf sharedData 0 sys = (.unsuccessful, { sys with heap := h }) := by
      simp only [vmpStartVm, vmpInitializeVm, hpair, Bool.false_eq_true, if_false]
    have hheld := ha.held.refuse hpair
    simp only [utilForEachProcessorLoop, hstart, NtStatus.isSuccess]
    exact ⟨⟨hheld.virtualized, hheld.ready, hheld.held⟩, ha.users, ha.shared⟩

/-- The start loop before round `i` : all processors so far run. -/
structure Launching (start : Ledger PoolBlock) (sharedData msrBitmap ioBitmap : PoolBlock)
    (sys₀ : System B C) (i : ℕ) (sys : System B C) : Prop where
  accounted : Accounted start sharedData msrBitmap ioBitmap (List.range i) sys
  count : sys.activeProcessorCount = sys₀.activeProcessorCount
  first : i = 0 → sys = sys₀

namespace Launching

variable {sys₀ : System B C}

theorem next_none (hl : Launching start sharedData msrBitmap ioBitmap sys₀ i sys) :
    sys.processors i = none := by
  cases hp : sys.processors i with
  | none => rfl
  | some p =>
    have hmem := (hl.accounted.held.virtualized i).1 (by rw [hp]; rfl)
    rw [List.mem_range] at hmem
    omega

theorem step (pf : Platform B C) {sys' : System B C}
    (hl : Launching start sharedData msrBitmap ioBitmap sys₀ i sys)
    (hcall : vmpStartVm pf sharedData i sys = (.success, sys')) :
    Launching start sharedData msrBitmap ioBitmap sys₀ (i + 1) sys' := by
  have hinit := hl.accounted.initialize pf hl.next_none
  have hcount := vmpInitializeVm_count pf sharedData i sys
  rw [vmpStartVm] at hcall
  generalize vmpInitializeVm pf sharedData i sys = r at hinit hcount hcall
  obtain ⟨ok, s₁⟩ := r
  obtain ⟨hok, rfl⟩ := Prod.mk.inj hcall
  refine ⟨?_, hcount.trans hl.count, by omega⟩
  rcases hinit with ⟨-, hnew⟩ | ⟨hno, -⟩ | ⟨hno, -⟩
  · rw [List.range_succ]
    exact hnew
  · obtain rfl : ok = false := hno
    cases hok
  · obtain rfl : ok = false := hno
    cases hok

/-- The round that fails : unless it is the first and had no memory for the processor's data,
the processors so far run or nothing is left. -/
theorem fail (pf : Platform B C) (hl : Launching start sharedData msrBitmap ioBitmap sys₀ i sys)
    (hdata : (sys₀.heap.allocateData pf.machine.pool).1 ≠ none)
    (hfail : (vmpStartVm pf sharedData i sys).1 ≠ .success) :
    Stopping start sharedData msrBitmap ioBitmap i 0 (vmpStartVm pf sharedData i sys).2 := by
  have hinit := hl.accounted.initialize pf hl.next_none
  rw [vmpStartVm] at hfail ⊢
  generalize vmpInitializeVm pf sharedData i sys = r at hinit hfail ⊢
  obtain ⟨ok, s₁⟩ := r
  rcases Nat.eq_zero_or_pos i with rfl | hpos
  · obtain rfl := hl.first rfl
    rcases hinit with ⟨hok, -⟩ | ⟨-, -, hundone⟩ | ⟨-, href, -⟩
    · obtain rfl : ok = true := hok
      exact (hfail rfl).elim
    · exact Or.inr ⟨rfl, hundone.2 rfl⟩
    · exact (hdata (Option.isNone_iff_eq_none.1 href)).elim
  · have hne : List.range i ≠ [] := fun hnil => by
      rw [List.range_eq_nil] at hnil
      omega
    have hrest : Accounted start sharedData msrBitmap ioBitmap (List.range i) s₁ := by
      rcases hinit with ⟨hok, -⟩ | ⟨-, -, hundone⟩ | ⟨-, -, hrest⟩
      · obtain rfl : ok = true := hok
        exact (hfail rfl).elim
      · exact hundone.1 hne
      · exact hrest
    refine Or.inl ⟨hpos, ?_⟩
    rw [Nat.sub_zero, ← List.range_eq_range']
    exact hrest

end Launching

/-- The start loop succeeds with all processors running, or ends with the round that fails. -/
theorem startLoop_cases (pf : Platform B C)
    (ha : Accounted start sharedData msrBitmap ioBitmap [] sys) :
    ((utilForEachProcessor (vmpStartVm pf sharedData) sys).1 = .success ∧
        Launching start sharedData msrBitmap ioBitmap sys sys.activeProcessorCount
          (utilForEachProcessor (vmpStartVm pf sharedData) sys).2) ∨
      ∃ k sk, k < sys.activeProcessorCount ∧
        Launching start sharedData msrBitmap ioBitmap sys k sk ∧
        (vmpStartVm pf sharedData k sk).1 ≠ .success ∧
        utilForEachProcessor (vmpStartVm pf sharedData) sys = vmpStartVm pf sharedData k sk := by
  rcases utilForEachProcessorLoop_rule
      (I := fun i (s : System B C) => Launching start sharedData msrBitmap ioBitmap sys i s)
      (fun hl hcall => hl.step pf hcall) sys.activeProcessorCount (i := 0)
      ⟨ha, rfl, fun _ => rfl⟩ with ⟨hok, hl⟩ | ⟨k, sk, -, hk, hl, hfail, heq⟩
  · rw [Nat.zero_add] at hl
    exact Or.inl ⟨hok, hl⟩
  · rw [Nat.zero_add] at hk
    exact Or.inr ⟨k, sk, hk, hl, hfail, heq⟩

/-- The shared data and its bitmaps are all that was allocated. -/
theorem vmpInitializeSharedData_accounted {pool : Pool} {sys₁ : System B C}
    (hnone : ∀ i, sys.processors i = none)
    (hshared : vmpInitializeSharedData pool sys = (some sharedData, sys₁)) :
    (∃ msrBitmap ioBitmap,
      Accounted sys.heap.ledger sharedData msrBitmap ioBitmap [] sys₁) ∧
    sys₁.heap.requests = sys.heap.requests + 3 ∧
    sys₁.activeProcessorCount = sys.activeProcessorCount ∧ sys₁.processors = sys.processors := by
  unfold vmpInitializeSharedData at hshared
  split at hshared
  · cases hshared
  rename_i self h₁ hself
  split at hshared
  · cases hshared
  rename_i msrBitmap h₂ hmsr
  split at hshared
  · cases hshared
  rename_i ioBitmap h₃ hio
  cases hshared
  have hrequests : ∀ {h h' : Heap} {b : PoolBlock}, h.allocateData pool = (some b, h') →
      h'.requests = h.requests + 1 := by
    intro h h' b hdata
    unfold Heap.allocateData at hdata
    split_ifs at hdata
    · cases hdata
      rfl
    · cases hdata
  refine ⟨⟨msrBitmap, ioBitmap, ⟨fun i => ?_, fun {i p} hp => ?_, ?_⟩, fun {i p} hp => ?_, ?_⟩,
    by rw [hrequests hio, hrequests hmsr, hrequests hself], rfl, rfl⟩
  · rw [hnone i]
    exact iff_of_false (by simp) List.not_mem_nil
  · rw [hnone i] at hp
    cases hp
  · have hheld := (((Ledger.Holds.refl sys.heap.ledger).take sharedData).take msrBitmap).take
      ioBitmap
    rw [← allocateData_ledger pool hself, ← allocateData_ledger pool hmsr,
      ← allocateData_ledger pool hio] at hheld
    exact hheld
  · rw [hnone i] at hp
    cases hp
  · exact Function.update_self _ _ _

/-- Without a virtualized processor 0 nothing is stopped. -/
theorem stopLoop_none (pf : Platform B C) (hzero : sys.processors 0 = none) :
    (utilForEachProcessor (vmpStopVm pf) sys).2 = sys := by
  unfold utilForEachProcessor
  cases sys.activeProcessorCount with
  | zero => rfl
  | succ n => simp [utilForEachProcessorLoop, vmpStopVm_none pf hzero, NtStatus.isSuccess]

/-- The whole stop loop. -/
theorem Stopping.all (pf : Platform B C) {k : ℕ} (hk : k < sys.activeProcessorCount)
    (hs : Stopping start sharedData msrBitmap ioBitmap k 0 sys) :
    CleanedUp start (utilForEachProcessor (vmpStopVm pf) sys).2 := by
  obtain ⟨j, hj, hstop⟩ := hs.loop pf sys.activeProcessorCount
  rcases hstop with ⟨hlt, -⟩ | ⟨-, hc⟩
  · omega
  · exact hc

/-- Where the stop loop is, the shared data is there exactly while somebody uses it. -/
theorem Stopping.shared {k j : ℕ}
    (hs : Stopping start sharedData msrBitmap ioBitmap k j sys) :
    ((∃ i, (sys.processors i).isSome = true) → sharedData ∈ sys.heap.live) ∧
      ((∀ i, sys.processors i = none) → CleanedUp start sys) := by
  rcases hs with ⟨hj, ha⟩ | ⟨-, hc⟩
  · constructor
    · intro _
      refine ha.held.held.live.mem_iff.2 ?_
      simp
    · intro hnone
      have hmem : j ∈ List.range' j (k - j) := by
        rw [List.mem_range'_1]
        omega
      have hsome := (ha.held.virtualized j).2 hmem
      rw [hnone j] at hsome
      cases hsome
  · constructor
    · rintro ⟨i, hi⟩
      rw [hc.none i] at hi
      cases hi
    · exact fun _ => hc

/-- `VmInitialization` fails only in its start loop. -/
theorem vmInitialization_failed {pf : Platform B C} {sys₁ : System B C}
    (hnone : ∀ i, sys.processors i = none) (havailable : pf.vmxAvailable = true)
    (hshared : vmpInitializeSharedData pf.machine.pool sys = (some sharedData, sys₁))
    (hfail : (vmInitialization pf sys).1 ≠ .success) :
    (utilForEachProcessor (vmpStartVm pf sharedData) sys₁).1 ≠ .success ∧
      (vmInitialization pf sys).2 = (utilForEachProcessor (vmpStopVm pf)
        (utilForEachProcessor (vmpStartVm pf sharedData) sys₁).2).2 := by
  have hinstalled : vmpIsDeviceMonInstalled pf sys = false := by
    rw [vmpIsDeviceMonInstalled, hnone]
    rfl
  obtain ⟨⟨msrBitmap, ioBitmap, ha⟩, -⟩ := vmpInitializeSharedData_accounted hnone hshared
  have hcases := startLoop_cases pf ha
  unfold vmInitialization at hfail ⊢
  simp only [hinstalled, havailable, hshared, Bool.false_eq_true, if_false, Bool.not_true]
    at hfail ⊢
  generalize hr : utilForEachProcessor (vmpStartVm pf sharedData) sys₁ = r at hfail hcases ⊢
  obtain ⟨status, sys₂⟩ := r
  rcases hcases with ⟨hok, hl⟩ | ⟨k, sk, -, -, hne, heq⟩
  · -- then all processors are virtualized and can be monitored
    obtain rfl : status = .success := hok
    have henable : (dmEnableMonitor pf.machine sys₂).1 = .success := by
      refine dmEnableMonitor_succeeds pf.machine fun i hi => ?_
      rw [hl.accounted.held.virtualized, List.mem_range, ← hl.count]
      exact hi
    simp [NtStatus.isSuccess, henable] at hfail
  · have hstatus : status ≠ .success := by
      rw [← heq] at hne
      exact hne
    simp [NtStatus.isSuccess, hstatus]

/-- When `VmInitialization` fails with shared data allocated, it cleans up if and only if there
was memory for the data of processor 0; and then, at any point of the stop loop, the shared
data is there as long as a processor is virtualized, and all is given back once none is. -/
theorem vmInitialization_cleansUp_iff (pf : Platform B C) (sys : System B C)
    {sys₁ : System B C} (hnone : ∀ i, sys.processors i = none)
    (havailable : pf.vmxAvailable = true)
    (hshared : vmpInitializeSharedData pf.machine.pool sys = (some sharedData, sys₁))
    (hfail : (vmInitialization pf sys).1 ≠ .success) :
    (CleanedUp sys.heap.ledger (vmInitialization pf sys).2 ↔
      pf.machine.pool.data (sys.heap.requests + 3) = true) ∧
    (pf.machine.pool.data (sys.heap.requests + 3) = true → ∀ n,
      let s := (utilForEachProcessorLoop (vmpStopVm pf) n 0
        (utilForEachProcessor (vmpStartVm pf sharedData) sys₁).2).2
      ((∃ i, (s.processors i).isSome = true) → sharedData ∈ s.heap.live) ∧
        ((∀ i, s.processors i = none) → CleanedUp sys.heap.ledger s)) := by
  obtain ⟨hstart, hend⟩ := vmInitialization_failed hnone havailable hshared hfail
  obtain ⟨⟨msrBitmap, ioBitmap, ha⟩, hrequests, -⟩ :=
    vmpInitializeSharedData_accounted hnone hshared
  have hstopping : pf.machine.pool.data (sys.heap.requests + 3) = true →
      ∃ k < (utilForEachProcessor (vmpStartVm pf sharedData) sys₁).2.activeProcessorCount,
        Stopping sys.heap.ledger sharedData msrBitmap ioBitmap k 0
          (utilForEachProcessor (vmpStartVm pf sharedData) sys₁).2 := by
    intro hdata
    rcases startLoop_cases pf ha with ⟨hok, -⟩ | ⟨k, sk, hk, hl, hne, heq⟩
    · exact (hstart hok).elim
    · refine ⟨k, ?_, ?_⟩
      · rw [heq, vmpStartVm, vmpInitializeVm_count, hl.count]
        exact hk
      · rw [heq]
        refine hl.fail pf ?_ hne
        simp [Heap.allocateData, hrequests, hdata]
  refine ⟨⟨fun hclean => ?_, fun hdata => ?_⟩, fun hdata n => ?_⟩
  · by_contra hdata
    have hrefused : (sys₁.heap.allocateData pf.machine.pool).1 = none := by
      simp [Heap.allocateData, hrequests, hdata]
    have hleft := startLoop_refused pf ha hstart hrefused
    have hzero : (utilForEachProcessor (vmpStartVm pf sharedData) sys₁).2.processors 0 = none := by
      rw [← Option.not_isSome_iff_eq_none, hleft.held.virtualized 0]
      exact List.not_mem_nil
    rw [hend, stopLoop_none pf hzero] at hclean
    have hlen := (hclean.settled.live.symm.trans hleft.held.held.live).length_eq
    simp only [List.length_append, List.length_nil, List.length_cons] at hlen
    omega
  · obtain ⟨k, hk, hs⟩ := hstopping hdata
    rw [hend]
    exact hs.all pf hk
  · obtain ⟨k, hk, hs⟩ := hstopping hdata
    obtain ⟨j, -, hj⟩ := hs.loop pf n
    exact hj.shared

end System

/-! ## A pool that runs dry -/

/-- No page, and every small structure but the one of request `n`. -/
def dryPool (n : ℕ) : Pool where
  page _ _ := none
  data k := k ≠ n
  page_fresh := nofun

/-- A processor whose VMX instructions succeed. -/
def workingVmx : VmxAnswers (BitVec 32) Unit where
  apicBase := 0xFEE00
  vmxOn := true
  vmClear := true
  vmPtrld := true
  setup := zeroCpu
  guestStackPointer := 0
  guestInstructionPointer := 0
  vmmStackPointer := 0
  clearVmcs _ := 0
  vmWrite _ := .ok
  vmLaunch := true
  guest := userState 0 bootEpt
  noFlag := rfl

/-- Such processors with the SPI controller, and a pool. -/
def spiPlatform (pool : Pool) : Platform (BitVec 32) Unit where
  machine := ⟨pool, uncached, bar32Bus 0xFFFFF000⟩
  physicalMemoryRuns := [⟨0, 1⟩]
  vmxAvailable := true
  currentProcessor := 0
  answers _ := workingVmx
  localVariable := 0

/-- `count` processors and an empty heap, before `VmInitialization`. -/
def freshSystem (count : ℕ) : System (BitVec 32) Unit where
  heap := ⟨fun _ _ => .zero, [], [], [], 0, 0⟩
  sharedMemory _ := ⟨0, none, none⟩
  devices := spiDevices
  pci := 0xFED00000
  world := ()
  memory _ := 0
  activeProcessorCount := count
  processors _ := none

theorem vmpInitializeSharedData_dry (n : ℕ) (hn : 2 < n) :
    vmpInitializeSharedData (dryPool n) (freshSystem 1) =
      (some (.data 0), (vmpInitializeSharedData (dryPool n) (freshSystem 1)).2) := by
  have h0 : (0 : ℕ) ≠ n := by omega
  have h1 : (1 : ℕ) ≠ n := by omega
  have h2 : (2 : ℕ) ≠ n := by omega
  simp [vmpInitializeSharedData, dryPool, freshSystem, Heap.allocateData, h0, h1, h2]

theorem vmInitialization_cleansUp_iff_dry :
    CleanedUp (freshSystem 1).heap.ledger
      (vmInitialization (spiPlatform (dryPool 4)) (freshSystem 1)).2 :=
  (vmInitialization_cleansUp_iff (spiPlatform (dryPool 4)) (freshSystem 1) (fun _ => rfl) rfl
    (vmpInitializeSharedData_dry 4 (by decide)) (by decide)).1.2 rfl

/-- Without memory for the data of the only processor the shared data and its bitmaps leak. -/
theorem shared_data_leaks :
    ¬∀ (pf : Platform (BitVec 32) Unit) (sys sys₁ : System (BitVec 32) Unit)
      (sharedData : PoolBlock), (∀ i, sys.processors i = none) →
      vmpInitializeSharedData pf.machine.pool sys = (some sharedData, sys₁) →
      (vmInitialization pf sys).1 ≠ .success →
      CleanedUp sys.heap.ledger (vmInitialization pf sys).2 := by
  intro hall
  have hclean := hall (spiPlatform (dryPool 3)) (freshSystem 1) _ _ (fun _ => rfl)
    (vmpInitializeSharedData_dry 3 (by decide)) (by decide)
  have hlive : (vmInitialization (spiPlatform (dryPool 3)) (freshSystem 1)).2.heap.live =
      [.data 2, .data 1, .data 0] := by
    decide
  have hlen : (vmInitialization (spiPlatform (dryPool 3)) (freshSystem 1)).2.heap.live.length = 0 :=
    hclean.settled.live.length_eq
  rw [hlive] at hlen
  cases hlen

end DeviceMon
