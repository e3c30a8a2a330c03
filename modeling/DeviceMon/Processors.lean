import DeviceMon.Hotplug

/-!
# VMMs side by side

All VMMs of a system work in one heap. `Vmms` says that each has the invariant of its exits and
that no page serves the tables of two. What one processor does to its tables then leaves the
others as they are (`Vmms.insert`), and so do a processor that starts (`Vmms.initialize`) and the
blocks of one that stops. The accounts go with it (`Accounted.store`).
-/

namespace DeviceMon

open EptState

section Processors

variable {B C : Type} {m : Machine B} {s s' : VmmState B C} {reason : VmExitReason}

/-! ## One VMM -/

/-- Other processors leave the invariant of a VMM. -/
theorem VmmInv.of_undisturbed (hi : VmmInv s)
    (hu : Undisturbed s.ept.data s.ept.heap s'.ept.heap) (hdata : s'.ept.data = s.ept.data)
    (hfault : s'.lastFaultEntry = s.lastFaultEntry)
    (hflag : s'.monitorTrapFlag = s.monitorTrapFlag) : VmmInv s' := by
  have hept : s'.ept = ⟨s'.ept.heap, s.ept.data⟩ := by rw [← hdata]
  have hleaf : ∀ p, s'.ept.leaf p = s.ept.leaf p := fun p => by
    rw [hept]
    exact hu.leaf p
  refine ⟨by rw [hept]; exact hu.ready', fun p => by rw [hleaf]; exact hi.identity p,
    fun {ptr} hptr => ?_, by rw [hflag, hfault]; exact hi.flag⟩
  obtain ⟨p, hslot, hne⟩ := hi.fault (by rw [← hfault]; exact hptr)
  refine ⟨p, ?_, by rw [hleaf]; exact hne⟩
  rw [hept]
  exact (hu.slot _).trans hslot

/-- Whatever an exit does to the tables of its processor. -/
theorem ExitEffect.ops (hi : VmmInv s) (h : ExitEffect m s s' reason) :
    EptOps m.pool m.mtrr s.ept s'.ept := by
  cases h with
  | closed hfault hept hnone hflag =>
    obtain ⟨p, hslot, -⟩ := hi.fault hfault
    rw [hept]
    exact .single (.write hslot _)
  | opened hentry hret hept hfault hflag =>
    rw [hept]
    exact .single (.write (opened_step hi hentry).1 _)
  | skipped hentry hret hguest hrip =>
    rw [hguest.ept]
  | unmonitored hentry hstate =>
    rw [hstate]
    exact violation_ops s.qualification hi.ready s.faultAddress
  | enabled ranges hnumber hept hfault hflag =>
    rw [hept]
    exact enable_ops ranges hi.ready
  | disabled ranges hnumber hept hfault hflag =>
    rw [hept]
    exact disable_ops ranges hi.ready
  | other hguest => rw [hguest.ept]

/-- Tables that are there after a step of the heap that changes no table. -/
theorem Undisturbed.of_ready {h h' : Heap} {data : EptData} (hr : EptReady ⟨h, data⟩)
    (ht : ∀ f, Uses data.eptPml4 ⟨h, data⟩ f → h'.table f = h.table f)
    (hr' : EptReady ⟨h', data⟩) : Undisturbed data h h' := by
  refine ⟨hr, ht, fun f hf => hr'.wf.uses_live (s := ⟨h', data⟩) ?_⟩
  refine hf.imp_left ?_
  rintro ⟨p, hp, hwalk⟩
  refine ⟨p, hp, ?_⟩
  rw [← hwalk]
  refine Radix.follow_congr fun q i r g hq hg => ?_
  have hlen : q.length ≤ 3 := by
    rw [hq, List.length_append] at hp
    omega
  rw [show h'.table g = h.table g from ht g (Or.inl ⟨q, hlen, hg⟩)]

/-! ## All VMMs -/

variable {sys sys' : System B C} {i j : ℕ} {p q : Processor B C} {start : Ledger PoolBlock}
  {sharedData msrBitmap ioBitmap : PoolBlock} {vs : List ℕ}

/-- The frames a processor uses. -/
def System.Uses (sys : System B C) (p : Processor B C) (f : Frame) : Prop :=
  DeviceMon.Uses p.vmm.ept.data.eptPml4 (sys.vmm p).ept f

/-- Every VMM has its invariant, and no two use the same page. -/
structure Vmms (sys : System B C) : Prop where
  inv : ∀ {i p}, sys.processors i = some p → VmmInv (sys.vmm p)
  apart : ∀ {i j p q}, i ≠ j → sys.processors i = some p → sys.processors j = some q →
    ∀ f, sys.Uses p f → ¬sys.Uses q f

theorem Vmms.of_none (hnone : ∀ i, sys.processors i = none) : Vmms sys := by
  refine ⟨fun {i p} hp => ?_, fun {i j p q} _ hp => ?_⟩
  · rw [hnone i] at hp
    cases hp
  · rw [hnone i] at hp
    cases hp

/-- The VMM of a processor whose tables others left alone. -/
theorem Vmms.inv_of_undisturbed (hv : Vmms sys) (hp : sys.processors i = some p)
    (hu : Undisturbed p.vmm.ept.data sys.heap sys'.heap) : VmmInv (sys'.vmm p) :=
  (hv.inv hp).of_undisturbed hu rfl rfl rfl

theorem Vmms.of_undisturbed (hv : Vmms sys)
    (hproc : ∀ {i p}, sys'.processors i = some p → sys.processors i = some p ∧
      Undisturbed p.vmm.ept.data sys.heap sys'.heap) : Vmms sys' := by
  refine ⟨fun hp => hv.inv_of_undisturbed (hproc hp).1 (hproc hp).2,
    fun {i j p q} hij hp hq f hf hf' => ?_⟩
  obtain ⟨hp, hup⟩ := hproc hp
  obtain ⟨hq, huq⟩ := hproc hq
  exact hv.apart hij hp hq f (hup.uses.1 hf) (huq.uses.1 hf')

/-- Processor `i` is new or has changed, with tables apart from the others. -/
theorem Vmms.insert (hv : Vmms sys)
    (hproc : sys'.processors = Function.update sys.processors i (some p))
    (hu : ∀ {j q}, j ≠ i → sys.processors j = some q →
      Undisturbed q.vmm.ept.data sys.heap sys'.heap)
    (hinv : VmmInv (sys'.vmm p))
    (hnew : ∀ {j q}, j ≠ i → sys.processors j = some q →
      ∀ f, sys'.Uses q f → ¬sys'.Uses p f) : Vmms sys' := by
  have hself : ∀ {q}, sys'.processors i = some q → q = p := fun {q} hq => by
    rw [hproc, Function.update_self] at hq
    exact (Option.some.inj hq).symm
  have hother : ∀ {j}, j ≠ i → sys'.processors j = sys.processors j := fun hj => by
    rw [hproc, Function.update_of_ne hj]
  refine ⟨fun {j q} hq => ?_, fun {j k q r} hjk hq hr f hf hf' => ?_⟩
  · by_cases hj : j = i
    · subst hj
      rw [hself hq]
      exact hinv
    · rw [hother hj] at hq
      exact hv.inv_of_undisturbed hq (hu hj hq)
  · by_cases hj : j = i
    · subst hj
      obtain rfl := hself hq
      rw [hother (Ne.symm hjk)] at hr
      exact hnew (Ne.symm hjk) hr f hf' hf
    · rw [hother hj] at hq
      by_cases hk : k = i
      · subst hk
        obtain rfl := hself hr
        exact hnew hj hq f hf hf'
      · rw [hother hk] at hr
        exact hv.apart hjk hq hr f ((hu hj hq).uses.1 hf) ((hu hk hr).uses.1 hf')

/-! ## Exits -/

/-- The processors after an exit that goes on. -/
theorem processors_store (q : Processor B C) (hcont : s'.vmContinue = true) :
    (sys.store i q s').processors =
      Function.update sys.processors i (some { q with vmm := s' }) := by
  simp only [System.store, hcont, if_true]

/-- The other processors do not notice what one does to its tables. -/
theorem Vmms.store_undisturbed (hv : Vmms sys) (hp : sys.processors i = some p)
    (hs : Served (sys.vmm p).ept s'.ept) (hj : j ≠ i) (hq : sys.processors j = some q) :
    Undisturbed q.vmm.ept.data sys.heap s'.ept.heap :=
  hs.isLocal.undisturbed (hv.inv hq).ready (hv.apart hj hq hp)

theorem Vmms.store (hv : Vmms sys) (hp : sys.processors i = some p)
    (hs : Served (sys.vmm p).ept s'.ept) (hinv : VmmInv s') (hcont : s'.vmContinue = true)
    (q : Processor B C) : Vmms (sys.store i q s') := by
  refine hv.insert (processors_store q hcont)
    (fun hj hq => hv.store_undisturbed hp hs hj hq) (hinv.of_guestRuns ⟨rfl, rfl, rfl⟩) ?_
  intro j q' hj hq' f hf hf'
  have hroot : s'.ept.data.eptPml4 = p.vmm.ept.data.eptPml4 := hs.pml4
  refine hs.isLocal.disjoint (hv.inv hq').ready (hv.apart hj hq' hp) f hf ?_
  have huses : DeviceMon.Uses s'.ept.data.eptPml4 s'.ept f := hf'
  rw [hroot] at huses
  exact huses

/-- The blocks of a processor's data that are not its tables. -/
def ProcessorData.fixed (data : ProcessorData) : List PoolBlock :=
  data.vmmStackLimit.toList ++ (data.vmcsRegion.toList ++ (data.vmxonRegion.toList ++ [data.self]))

theorem ProcessorData.blocks_fixed {data : ProcessorData} {d : EptData} (h : Heap)
    (hd : data.eptData = some d) : (data.blocks h).Perm (d.blocks h ++ data.fixed) := by
  rw [ProcessorData.blocks, hd, Option.elim_some]
  have hvmxon := List.perm_append_comm_assoc data.vmxonRegion.toList (d.blocks h) [data.self]
  have hvmcs := (hvmxon.append_left data.vmcsRegion.toList).trans
    (List.perm_append_comm_assoc data.vmcsRegion.toList (d.blocks h) _)
  exact (hvmcs.append_left _).trans
    (List.perm_append_comm_assoc data.vmmStackLimit.toList (d.blocks h) _)

/-- The blocks of all processors are the tables of one and the rest. -/
theorem blocks_split {h : Heap} (hi : i ∈ vs) (hp : sys.processors i = some p)
    {rest : List PoolBlock} (hrest : ((vs.erase i).flatMap (sys.blocks h)).Perm rest) :
    (vs.flatMap (sys.blocks h)).Perm (p.vmm.ept.data.blocks h ++ (p.data.fixed ++ rest)) := by
  refine ((List.perm_cons_erase hi).flatMap_right _).trans ?_
  rw [List.flatMap_cons, ← List.append_assoc]
  refine List.Perm.append ?_ hrest
  rw [System.blocks, hp, Option.elim_some]
  exact @ProcessorData.blocks_fixed p.processorData _ h rfl

/-- The blocks of the processors after a step of one on its tables. -/
theorem Accounted.store (ha : Accounted start sharedData msrBitmap ioBitmap vs sys)
    (hv : Vmms sys) (hvs : vs.Nodup) (hp : sys.processors i = some p)
    (hs : Served (sys.vmm p).ept s'.ept) (hcont : s'.vmContinue = true) (hq : q.data = p.data) :
    Accounted start sharedData msrBitmap ioBitmap vs (sys.store i q s') := by
  have hproc : (sys.store i q s').processors = _ := processors_store q hcont
  have hother : ∀ {j}, j ≠ i → (sys.store i q s').processors j = sys.processors j := fun hj => by
    rw [hproc, Function.update_of_ne hj]
  have hself : (sys.store i q s').processors i = some { q with vmm := s' } := by
    rw [hproc, Function.update_self]
  have hi : i ∈ vs := (ha.held.virtualized i).1 (by rw [hp]; rfl)
  refine ⟨⟨fun j => ?_, fun {j r} hr => ?_, ?_⟩, fun {j r} hr => ?_, ha.shared⟩
  · rw [isSome_store hcont (by rw [hp]; rfl)]
    exact ha.held.virtualized j
  · by_cases hj : j = i
    · subst hj
      rw [hself] at hr
      obtain rfl := Option.some.inj hr
      exact hs.ready
    · rw [hother hj] at hr
      exact (hv.store_undisturbed hp hs hj hr).ready'
  · have hold := blocks_split (h := sys.heap) hi hp (List.Perm.refl _)
    have hrest : ((vs.erase i).flatMap ((sys.store i q s').blocks s'.ept.heap)).Perm
        ((vs.erase i).flatMap (sys.blocks sys.heap)) := by
      refine List.Perm.flatMap_left _ fun j hj => ?_
      have hji : j ≠ i := (hvs.mem_erase_iff.1 hj).1
      rw [System.blocks, System.blocks, hother hji]
      cases hr : sys.processors j with
      | none => exact List.Perm.nil
      | some r =>
        refine (r.processorData.blocks_perm fun d hd => ?_).symm
        obtain rfl := Option.some.inj hd
        exact hv.store_undisturbed hp hs hji hr
    have hnew := blocks_split (h := s'.ept.heap) hi hself hrest
    generalize (vs.erase i).flatMap (sys.blocks sys.heap) = rest at hold hnew
    rw [show ({ q with vmm := s' } : Processor B C).data = p.data from hq] at hnew
    have howns : Owns start ([p.vmm.ept.data.preallocatedArray, p.vmm.ept.data.self] ++
        (p.data.fixed ++ rest ++ [ioBitmap, msrBitmap, sharedData])) p.vmm.ept.data.eptPml4
        (sys.vmm p).ept := by
      refine Ledger.Holds.perm ha.held.held ?_
      rw [List.nil_append]
      refine (hold.append_right _).trans (List.Perm.of_eq ?_)
      simp only [EptData.blocks, List.append_assoc]
      rfl
    refine Ledger.Holds.perm (hs.owns howns) ?_
    rw [List.nil_append]
    refine (List.Perm.of_eq ?_).trans (hnew.append_right _).symm
    have hroot : s'.ept.data.eptPml4 = (sys.vmm p).ept.data.eptPml4 := hs.pml4
    have harray : s'.ept.data.preallocatedArray = p.vmm.ept.data.preallocatedArray := hs.array
    have hdata : s'.ept.data.self = p.vmm.ept.data.self := hs.self
    simp only [EptData.blocks, List.append_assoc, hroot, harray, hdata]
  · by_cases hj : j = i
    · subst hj
      rw [hself] at hr
      obtain rfl := Option.some.inj hr
      rw [show ({ q with vmm := s' } : Processor B C).data = p.data from hq]
      exact ha.users hp
    · rw [hother hj] at hr
      exact ha.users hr

/-! ### Exits and hypercalls -/

/-- An exit of one processor that goes on. -/
theorem VmmInv.exit_served (hi : VmmInv s) {s₀ : VmmState B C} (hs : ExitStep m reason s s₀ s') :
    VmmInv s' ∧ Served s.ept s'.ept := by
  have hi₀ := (hi.of_guestRuns hs.guest).of_guestRuns (guestRuns_capture s₀)
  have heffect := exit_effect hs.handled
  have hops := heffect.ops hi₀
  have hept : (captureGuestContext s₀).ept = s.ept := hs.guest.ept
  rw [hept] at hops
  exact ⟨hi₀.exit heffect, hops.served hi.ready⟩

/-- A hypercall from kernel mode. -/
theorem VmmInv.vmCall_served (hi : VmmInv s) (number : HypercallNumber) (context : BitVec 64) :
    VmmInv (asmVmxCall m number context s).2 ∧
      Served s.ept (asmVmxCall m number context s).2.ept := by
  set s₀ := captureGuestContext (atVmCall number context s)
  have hguest : GuestRuns s s₀ := ⟨rfl, rfl, by
    simp [s₀, captureGuestContext, atVmCall]⟩
  have hi₀ := hi.of_guestRuns hguest
  have heffect : ExitEffect m s₀ (vmmpHandleVmCall m s₀) .vmcall := vmcall_effect m s₀
  have hops := heffect.ops hi₀
  rw [hguest.ept] at hops
  exact ⟨hi₀.exit heffect, hops.served hi.ready⟩

/-- `UtilVmCall` with an enumerator but the first keeps the accounts and the VMMs. -/
theorem Accounted.vmCall (ha : Accounted start sharedData msrBitmap ioBitmap vs sys)
    (hv : Vmms sys) (hvs : vs.Nodup) (m : Machine B) (number : HypercallNumber)
    (hn : number ≠ .terminateVmm) (context : BitVec 64) (i : ℕ) :
    Accounted start sharedData msrBitmap ioBitmap vs (utilVmCall m number context i sys).2 ∧
      Vmms (utilVmCall m number context i sys).2 := by
  cases hp : sys.processors i with
  | none =>
    rw [utilVmCall_unserved m number context hp]
    exact ⟨ha, hv⟩
  | some p =>
    obtain ⟨heq, hcont⟩ := utilVmCall_serves m number hn context hp
    obtain ⟨hinv, hserved⟩ := (hv.inv hp).vmCall_served (m := m) number context
    rw [heq]
    exact ⟨ha.store hv hvs hp hserved hcont rfl, hv.store hp hserved hinv hcont _⟩

theorem utilVmCall_count (m : Machine B) (number : HypercallNumber) (context : BitVec 64) (i : ℕ)
    (sys : System B C) :
    (utilVmCall m number context i sys).2.activeProcessorCount = sys.activeProcessorCount := by
  unfold utilVmCall
  cases sys.processors i <;> rfl

/-- So does a loop of such hypercalls. -/
theorem Accounted.vmCalls (ha : Accounted start sharedData msrBitmap ioBitmap vs sys)
    (hv : Vmms sys) (hvs : vs.Nodup) (m : Machine B) (number : HypercallNumber)
    (hn : number ≠ .terminateVmm) (context : BitVec 64) :
    let r := (utilForEachProcessor (utilVmCall m number context) sys).2
    Accounted start sharedData msrBitmap ioBitmap vs r ∧ Vmms r ∧
      r.activeProcessorCount = sys.activeProcessorCount := by
  have hstep : ∀ {i : ℕ} {s : System B C},
      (Accounted start sharedData msrBitmap ioBitmap vs s ∧ Vmms s ∧
        s.activeProcessorCount = sys.activeProcessorCount) →
      let r := (utilVmCall m number context i s).2
      Accounted start sharedData msrBitmap ioBitmap vs r ∧ Vmms r ∧
        r.activeProcessorCount = sys.activeProcessorCount := by
    rintro i s ⟨ha, hv, hc⟩
    obtain ⟨ha', hv'⟩ := ha.vmCall hv hvs m number hn context i
    exact ⟨ha', hv', (utilVmCall_count m number context i s).trans hc⟩
  rcases utilForEachProcessorLoop_rule (I := fun _ (s : System B C) =>
      Accounted start sharedData msrBitmap ioBitmap vs s ∧ Vmms s ∧
        s.activeProcessorCount = sys.activeProcessorCount)
      (fun {i s s'} hs (hcall : utilVmCall m number context i s = (.success, s')) => by
        have hnext := hstep (i := i) hs
        rw [hcall] at hnext
        exact hnext)
      sys.activeProcessorCount (i := 0) ⟨ha, hv, rfl⟩ with ⟨-, hI⟩ | ⟨k, sk, -, -, hI, -, heq⟩
  · exact hI
  · simp only [utilForEachProcessor, heq]
    exact hstep hI

/-! ## Starting a processor -/

theorem Accounted.activate (ha : Accounted start sharedData msrBitmap ioBitmap vs sys) (n : ℕ) :
    Accounted start sharedData msrBitmap ioBitmap vs { sys with activeProcessorCount := n } :=
  ⟨⟨ha.held.virtualized, ha.held.ready, ha.held.held⟩, ha.users, ha.shared⟩

theorem vmpFreeProcessorData_table (data : ProcessorData) (sys : System B C) :
    (vmpFreeProcessorData data sys).heap.table = sys.heap.table := by
  have hfree : ∀ (b : PoolBlock) (h : Heap), (h.free b).table = h.table := fun _ _ => rfl
  unfold vmpFreeProcessorData vmpFreeSharedData
  simp only
  split_ifs
  · simp only [hfree]
    cases data.eptData <;> simp [Heap.freeIf_table, eptTermination_table]
  · simp only [hfree, Heap.freeIf_table]
    cases data.eptData <;> simp [Heap.freeIf_table, eptTermination_table]

/-- A start changes no table in use. If it succeeds, the new processor has the tables
`EptInitialization` made. -/
theorem vmpInitializeVm_tables (pf : Platform B C) (sharedData : PoolBlock) (i : ℕ)
    (sys : System B C) :
    let r := vmpInitializeVm pf sharedData i sys
    (∀ f, .page f ∈ sys.heap.live → r.2.heap.table f = sys.heap.table f) ∧
      ((r.1 = false ∧ r.2.processors = sys.processors) ∨
        (r.1 = true ∧ ∃ self h₁ d h₂ data,
          sys.heap.allocateData pf.machine.pool = (some self, h₁) ∧
          eptInitialization pf.machine.pool pf.machine.mtrr pf.physicalMemoryRuns
            (pf.answers i).apicBase h₁ = (some d, h₂) ∧
          r.2.heap.table = h₂.table ∧ r.2.processors = Function.update sys.processors i
            (some ((pf.answers i).launched r.2.heap d data)))) := by
  have hdata : ∀ {h h' : Heap} {r : Option PoolBlock},
      h.allocateData pf.machine.pool = (r, h') → h'.table = h.table := by
    intro h h' r hr
    cases r with
    | none => exact (allocateData_none _ hr).1
    | some b => exact (allocateData_some _ hr).1
  unfold vmpInitializeVm
  simp only
  split
  · rename_i h₁ hself
    exact ⟨fun f _ => by rw [hdata hself], Or.inl ⟨rfl, rfl⟩⟩
  rename_i self h₁ hself
  generalize hsys : sys.addReference sharedData = sys₁
  have hproc : sys₁.processors = sys.processors := by rw [← hsys]; rfl
  have htable : ∀ (data : ProcessorData) {h : Heap},
      (∀ f, .page f ∈ sys.heap.live → h.table f = sys.heap.table f) →
      ∀ f, .page f ∈ sys.heap.live →
        (vmpFreeProcessorData data { sys₁ with heap := h }).heap.table f = sys.heap.table f := by
    intro data h ht f hf
    rw [vmpFreeProcessorData_table]
    exact ht f hf
  have hfailed : ∀ (data : ProcessorData) (h : Heap),
      (vmpFreeProcessorData data { sys₁ with heap := h }).processors = sys.processors :=
    fun data h => (vmpFreeProcessorData_processors data _).trans hproc
  have htable₂ : ∀ {r h₂}, eptInitialization pf.machine.pool pf.machine.mtrr
      pf.physicalMemoryRuns (pf.answers i).apicBase h₁ = (r, h₂) →
      ∀ f, .page f ∈ sys.heap.live → h₂.table f = sys.heap.table f := fun hept f hf => by
    rw [eptInitialization_table _ _ hept ((allocateData_some _ hself).2 _ hf), hdata hself]
  split
  · rename_i h₂ hept
    exact ⟨htable _ (htable₂ hept), Or.inl ⟨rfl, hfailed _ _⟩⟩
  rename_i d h₂ hept
  have ht₂ := htable₂ hept
  split
  · rename_i h₃ hstack
    exact ⟨htable _ fun f hf => by rw [hdata hstack, ht₂ f hf], Or.inl ⟨rfl, hfailed _ _⟩⟩
  rename_i stack h₃ hstack
  split
  · rename_i h₄ hvmcs
    exact ⟨htable _ fun f hf => by rw [hdata hvmcs, hdata hstack, ht₂ f hf],
      Or.inl ⟨rfl, hfailed _ _⟩⟩
  rename_i vmcs h₄ hvmcs
  have ht₄ : h₄.table = h₂.table := (hdata hvmcs).trans (hdata hstack)
  split
  · rename_i h₅ hvmxon
    exact ⟨htable _ fun f hf => by rw [hdata hvmxon, ht₄, ht₂ f hf], Or.inl ⟨rfl, hfailed _ _⟩⟩
  rename_i vmxon h₅ hvmxon
  have ht₅ : h₅.table = h₂.table := (hdata hvmxon).trans ht₄
  have hlast : ∀ f, .page f ∈ sys.heap.live → h₅.table f = sys.heap.table f := fun f hf => by
    rw [ht₅, ht₂ f hf]
  split_ifs
  · exact ⟨htable _ hlast, Or.inl ⟨rfl, hfailed _ _⟩⟩
  · exact ⟨htable _ hlast, Or.inl ⟨rfl, hfailed _ _⟩⟩
  · exact ⟨hlast, Or.inr ⟨rfl, self, h₁, d, h₂, _, hself, hept, ht₅, by rw [hproc]⟩⟩

/-- Starting a processor leaves the tables of the others. -/
theorem Accounted.initialize_undisturbed (pf : Platform B C)
    (ha : Accounted start sharedData msrBitmap ioBitmap vs sys) (hi : sys.processors i = none)
    (hq : sys.processors j = some q) :
    Undisturbed q.vmm.ept.data sys.heap (vmpInitializeVm pf sharedData i sys).2.heap := by
  have hstarted := ha.initialize pf hi
  obtain ⟨ht, hcases⟩ := vmpInitializeVm_tables pf sharedData i sys
  generalize vmpInitializeVm pf sharedData i sys = r at hstarted ht hcases ⊢
  -- tables that are ready are as they were
  suffices hr : EptReady ⟨r.2.heap, q.vmm.ept.data⟩ from
    .of_ready (ha.held.ready hq) (fun f hf => ht f ((ha.held.ready hq).wf.uses_live hf)) hr
  have hvs : vs ≠ [] := List.ne_nil_of_mem ((ha.held.virtualized j).1 (by rw [hq]; rfl))
  rcases hcases with ⟨hfalse, hproc⟩ | ⟨htrue, self, h₁, d, h₂, data, -, -, -, hproc⟩
  · rw [← hproc] at hq
    rcases hstarted with ⟨hok, -⟩ | ⟨-, -, hundone⟩ | ⟨-, -, ha'⟩
    · rw [hfalse] at hok
      cases hok
    · exact (hundone.1 hvs).held.ready hq
    · exact ha'.held.ready hq
  · rcases hstarted with ⟨-, ha'⟩ | ⟨hno, -⟩ | ⟨hno, -⟩
    · have hj : j ≠ i := fun hj => by
        rw [hj, hi] at hq
        cases hq
      refine ha'.held.ready (i := j) ?_
      rw [hproc, Function.update_of_ne hj, hq]
    · rw [htrue] at hno
      cases hno
    · rw [htrue] at hno
      cases hno

/-- The processor that a successful start adds has the tables `EptInitialization` made. -/
theorem Accounted.initialize_launched (pf : Platform B C)
    (ha : Accounted start sharedData msrBitmap ioBitmap vs sys) (hi : sys.processors i = none)
    (hok : (vmpInitializeVm pf sharedData i sys).1 = true) :
    let h := (vmpInitializeVm pf sharedData i sys).2.heap
    ∃ self h₁ d h₂ data,
      sys.heap.allocateData pf.machine.pool = (some self, h₁) ∧
      eptInitialization pf.machine.pool pf.machine.mtrr pf.physicalMemoryRuns
        (pf.answers i).apicBase h₁ = (some d, h₂) ∧
      Undisturbed d h₂ h ∧ (vmpInitializeVm pf sharedData i sys).2.processors =
        Function.update sys.processors i (some ((pf.answers i).launched h d data)) := by
  have hstarted := ha.initialize pf hi
  obtain ⟨-, hcases⟩ := vmpInitializeVm_tables pf sharedData i sys
  generalize vmpInitializeVm pf sharedData i sys = r at hok hstarted hcases ⊢
  rcases hcases with ⟨hfalse, -⟩ | ⟨-, self, h₁, d, h₂, data, hself, hept, htab, hproc⟩
  · rw [hok] at hfalse
    cases hfalse
  refine ⟨self, h₁, d, h₂, data, hself, hept, ?_, hproc⟩
  rcases hstarted with ⟨-, ha'⟩ | ⟨hno, -⟩ | ⟨hno, -⟩
  · have hready : EptReady ⟨r.2.heap, d⟩ :=
      ha'.held.ready (i := i) (p := (pf.answers i).launched r.2.heap d data) (by
        rw [hproc, Function.update_self])
    exact .of_ready (eptInitialization_spec _ _ hept).1 (fun f _ => by rw [htab]) hready
  · rw [hok] at hno
    cases hno
  · rw [hok] at hno
    cases hno

theorem vmpInitializeVm_processors_of_false (pf : Platform B C) (sharedData : PoolBlock) (i : ℕ)
    (sys : System B C) (hno : (vmpInitializeVm pf sharedData i sys).1 = false) :
    (vmpInitializeVm pf sharedData i sys).2.processors = sys.processors := by
  rcases vmpInitializeVm_processors pf sharedData i sys with ⟨hok, -⟩ | ⟨-, hproc⟩
  · rw [hno] at hok
    cases hok
  · exact hproc

/-- Starting a processor leaves the VMMs of the others, and a new one is apart from them. -/
theorem Accounted.initialize_vmms (pf : Platform B C)
    (ha : Accounted start sharedData msrBitmap ioBitmap vs sys) (hv : Vmms sys)
    (hi : sys.processors i = none) : Vmms (vmpInitializeVm pf sharedData i sys).2 := by
  have hu : ∀ {j q}, sys.processors j = some q →
      Undisturbed q.vmm.ept.data sys.heap (vmpInitializeVm pf sharedData i sys).2.heap :=
    fun hq => ha.initialize_undisturbed pf hi hq
  cases hok : (vmpInitializeVm pf sharedData i sys).1 with
  | false =>
    refine hv.of_undisturbed fun {j q} hq => ?_
    rw [vmpInitializeVm_processors_of_false pf sharedData i sys hok] at hq
    exact ⟨hq, hu hq⟩
  | true =>
    obtain ⟨self, h₁, d, h₂, data, hself, hept, hnew, hproc⟩ := ha.initialize_launched pf hi hok
    have hinv : VmmInv { (pf.answers i).guest with ept := ⟨h₂, d⟩, lastFaultEntry := none } :=
      .launch (m := pf.machine) hept rfl (pf.answers i).noFlag
    refine hv.insert hproc (fun _ hq => hu hq) (hinv.of_undisturbed hnew rfl rfl rfl)
      fun {j q} _ hq f hf hf' => ?_
    have hlive := (ha.held.ready hq).wf.uses_live ((hu hq).uses.1 hf)
    exact eptInitialization_unused _ _ hept ((allocateData_some _ hself).2 _ hlive)
      (hnew.uses.1 hf')

/-- What each start keeps holds after the start loop. -/
theorem startLoop_vmms (pf : Platform B C) {J : System B C → Prop}
    (hstep : ∀ {i : ℕ} {vs : List ℕ} {s : System B C},
      Accounted start sharedData msrBitmap ioBitmap vs s → Vmms s → s.processors i = none →
      (vmpInitializeVm pf sharedData i s).1 = true → J s → J (vmpInitializeVm pf sharedData i s).2)
    (ha : Accounted start sharedData msrBitmap ioBitmap [] sys) (hv : Vmms sys) (hJ : J sys)
    (hok : (utilForEachProcessor (vmpStartVm pf sharedData) sys).1 = .success) :
    Vmms (utilForEachProcessor (vmpStartVm pf sharedData) sys).2 ∧
      J (utilForEachProcessor (vmpStartVm pf sharedData) sys).2 := by
  rcases utilForEachProcessorLoop_rule (I := fun i (s : System B C) =>
      Launching start sharedData msrBitmap ioBitmap sys i s ∧ Vmms s ∧ J s)
      (fun {i s s'} hI (hcall : vmpStartVm pf sharedData i s = (.success, s')) => by
        obtain ⟨hl, hv, hJ⟩ := hI
        have hnext := hl.accounted.initialize_vmms pf hv hl.next_none
        have hnextJ := fun hok => hstep hl.accounted hv hl.next_none hok hJ
        refine ⟨hl.step pf hcall, ?_⟩
        rw [vmpStartVm] at hcall
        generalize vmpInitializeVm pf sharedData i s = r at hcall hnext hnextJ
        obtain ⟨ok, s₁⟩ := r
        obtain ⟨hok, rfl⟩ := Prod.mk.inj hcall
        cases ok with
        | true => exact ⟨hnext, hnextJ rfl⟩
        | false => cases hok)
      sys.activeProcessorCount (i := 0) ⟨⟨ha, rfl, fun _ => rfl⟩, hv, hJ⟩ with
    ⟨-, hI⟩ | ⟨k, sk, -, -, -, hfail, heq⟩
  · exact hI.2
  · rw [utilForEachProcessor, heq] at hok
    exact (hfail hok).elim

end Processors

end DeviceMon
