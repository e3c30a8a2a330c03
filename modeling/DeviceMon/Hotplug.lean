import DeviceMon.Installation

/-!
# Hot-add and unloading

What happens to the driver between `VmInitialization` and `VmTermination` : processors are
added, and guests have EPT violations and single steps (`DriverRun`, with the outcome of each
hot-add). After a run the virtualized processors are the first ones and those added with
success (`Populated`).

`UtilForEachProcessor` ends at the first processor whose callback fails. So `VmTermination`
gets only as far as the first processor that could not be virtualized
(`vmTermination_stops_all_iff`).
-/

namespace DeviceMon

section Hotplug

variable {B C : Type} {pf : Platform B C} {sys sys₁ sys₂ : System B C} {i : ℕ}
  {outcomes outcomes' : List Bool}

/-! ## Runs -/

/-- One event while the driver is loaded, with the outcome of a hot-add. -/
inductive DriverStep (pf : Platform B C) (sys : System B C) : List Bool → System B C → Prop where
  /-- A processor is added. -/
  | hotAdd (current : ℕ) :
      DriverStep pf sys [(sys.hotAdd pf current).1.isSuccess] (sys.hotAdd pf current).2
  /-- An EPT violation or the end of a single step on processor `i`. -/
  | exit {i : ℕ} {p : Processor B C} {reason : VmExitReason} {s₀ s' : VmmState B C}
      (running : sys.processors i = some p) (noCall : reason ≠ .vmcall)
      (step : ExitStep pf.machine reason (sys.vmm p) s₀ s') :
      DriverStep pf sys [] (sys.store i p s')

/-- A run with the outcomes of its hot-adds. -/
inductive DriverRun (pf : Platform B C) (sys : System B C) : List Bool → System B C → Prop where
  | refl : DriverRun pf sys [] sys
  | tail {outcomes outcomes' : List Bool} {sys₁ sys₂ : System B C}
      (run : DriverRun pf sys outcomes sys₁) (step : DriverStep pf sys₁ outcomes' sys₂) :
      DriverRun pf sys (outcomes ++ outcomes') sys₂

/-- `running` says of each processor whether it is virtualized. -/
structure Populated (running : List Bool) (sys : System B C) : Prop where
  count : sys.activeProcessorCount = running.length
  virtualized : ∀ i, (sys.processors i).isSome = true ↔ running[i]? = some true

/-! ## What the calls do to the processors -/

theorem vmpFreeProcessorData_processors (data : ProcessorData) (sys : System B C) :
    (vmpFreeProcessorData data sys).processors = sys.processors := by
  unfold vmpFreeProcessorData vmpFreeSharedData
  simp only
  split_ifs <;> rfl

/-- A launch adds a processor; else nothing changes. -/
theorem vmpInitializeVm_processors (pf : Platform B C) (sharedData : PoolBlock) (i : ℕ)
    (sys : System B C) :
    ((vmpInitializeVm pf sharedData i sys).1 = true ∧ ∃ p : Processor B C,
        (vmpInitializeVm pf sharedData i sys).2.processors =
          Function.update sys.processors i (some p)) ∨
      ((vmpInitializeVm pf sharedData i sys).1 = false ∧
        (vmpInitializeVm pf sharedData i sys).2.processors = sys.processors) := by
  have hfail : ∀ (data : ProcessorData) (h : Heap),
      (vmpFreeProcessorData data { sys.addReference sharedData with heap := h }).processors =
        sys.processors :=
    fun data h => vmpFreeProcessorData_processors data _
  unfold vmpInitializeVm
  simp only
  split
  · exact Or.inr ⟨rfl, rfl⟩
  split
  · exact Or.inr ⟨rfl, hfail _ _⟩
  split
  · exact Or.inr ⟨rfl, hfail _ _⟩
  split
  · exact Or.inr ⟨rfl, hfail _ _⟩
  split
  · exact Or.inr ⟨rfl, hfail _ _⟩
  split_ifs
  · exact Or.inr ⟨rfl, hfail _ _⟩
  · exact Or.inr ⟨rfl, hfail _ _⟩
  · exact Or.inl ⟨rfl, _, rfl⟩

/-- A violation and an MTF exit leave the processor virtualized. -/
theorem vmContinue_of_noCall {m : Machine B} {reason : VmExitReason} {s₀ s' : VmmState B C}
    (hno : reason ≠ .vmcall) (h : vmmVmExitHandler m reason s₀ = some s') :
    s'.vmContinue = true := by
  cases reason with
  | monitorTrapFlag =>
    simp only [vmmVmExitHandler, vmmpHandleVmExit, vmmpHandleMonitorTrap] at h
    cases hfault : (captureGuestContext s₀).lastFaultEntry with
    | none =>
      simp only [hfault] at h
      cases h
    | some ptr =>
      simp only [hfault] at h
      cases h
      rfl
  | eptViolation =>
    cases h
    unfold vmmpHandleEptViolation vmmpHandleMmio
    cases mmioEntry (captureGuestContext s₀) with
    | none => rfl
    | some ptr =>
      simp only
      split_ifs
      · rfl
      · exact (onlyVmcs_adjust _).vmContinue
  | vmcall => exact (hno rfl).elim

/-- `VmpStopVm` takes a virtualized processor out of VMX operation. -/
theorem vmpStopVm_some {p : Processor B C} (pf : Platform B C) (hp : sys.processors i = some p) :
    (vmpStopVm pf i sys).1 = .success ∧
      (vmpStopVm pf i sys).2.processors = Function.update sys.processors i none := by
  obtain ⟨memory, hcall⟩ := utilVmCall_terminate pf.machine pf.localVariable hp
  simp only [vmpStopVm, hp, hcall, Option.map_some, true_and]
  rw [vmpFreeProcessorData_processors]

/-- The stop loop stops the virtualized processors before the first one that is not. -/
theorem stopLoop_cases (pf : Platform B C) (sys : System B C) :
    ((∀ i < sys.activeProcessorCount, (sys.processors i).isSome = true) ∧
        (∀ i < sys.activeProcessorCount,
          (utilForEachProcessor (vmpStopVm pf) sys).2.processors i = none) ∧
        ∀ i, sys.activeProcessorCount ≤ i →
          (utilForEachProcessor (vmpStopVm pf) sys).2.processors i = sys.processors i) ∨
      ∃ k < sys.activeProcessorCount, sys.processors k = none ∧
        (∀ i < k, (sys.processors i).isSome = true ∧
          (utilForEachProcessor (vmpStopVm pf) sys).2.processors i = none) ∧
        ∀ i, k ≤ i → (utilForEachProcessor (vmpStopVm pf) sys).2.processors i =
          sys.processors i := by
  have hstep : ∀ {k : ℕ} {s s' : System B C},
      ((∀ i < k, (sys.processors i).isSome = true ∧ s.processors i = none) ∧
        ∀ i, k ≤ i → s.processors i = sys.processors i) →
      vmpStopVm pf k s = (.success, s') →
      (∀ i < k + 1, (sys.processors i).isSome = true ∧ s'.processors i = none) ∧
        ∀ i, k + 1 ≤ i → s'.processors i = sys.processors i := by
    rintro k s s' ⟨hbefore, hafter⟩ hcall
    cases hp : s.processors k with
    | none =>
      rw [vmpStopVm_none pf hp] at hcall
      cases hcall
    | some p =>
      obtain ⟨-, hproc⟩ := vmpStopVm_some pf hp
      rw [hcall] at hproc
      simp only at hproc
      refine ⟨fun i hi => ?_, fun i hi => ?_⟩
      · rcases Nat.lt_succ_iff_lt_or_eq.1 hi with hlt | rfl
        · rw [hproc, Function.update_of_ne (by omega)]
          exact hbefore i hlt
        · refine ⟨?_, by rw [hproc, Function.update_self]⟩
          rw [← hafter i le_rfl, hp]
          rfl
      · rw [hproc, Function.update_of_ne (by omega)]
        exact hafter i (by omega)
  rcases utilForEachProcessorLoop_rule (I := fun k (s : System B C) =>
      (∀ i < k, (sys.processors i).isSome = true ∧ s.processors i = none) ∧
        ∀ i, k ≤ i → s.processors i = sys.processors i) hstep sys.activeProcessorCount (i := 0)
      ⟨fun i hi => (Nat.not_lt_zero i hi).elim, fun i _ => rfl⟩ with
    ⟨-, hbefore, hafter⟩ | ⟨k, sk, -, hk, ⟨hbefore, hafter⟩, hfail, heq⟩
  · rw [Nat.zero_add] at hbefore hafter
    exact Or.inl ⟨fun i hi => (hbefore i hi).1, fun i hi => (hbefore i hi).2, hafter⟩
  · rw [Nat.zero_add] at hk
    have hp : sk.processors k = none := by
      cases hp : sk.processors k with
      | none => rfl
      | some p => exact (hfail (vmpStopVm_some pf hp).1).elim
    rw [vmpStopVm_none pf hp] at heq
    unfold utilForEachProcessor
    rw [heq]
    exact Or.inr ⟨k, hk, (hafter k le_rfl).symm.trans hp, hbefore, hafter⟩

/-! ## Which processors are virtualized -/

theorem isSome_iff_of_store {p : Processor B C} {s : VmmState B C} (hs : s.vmContinue = true)
    (hp : sys.processors i = some p) (q : Processor B C) (j : ℕ) :
    ((sys.store i q s).processors j).isSome = true ↔ (sys.processors j).isSome = true := by
  rw [isSome_store hs (by rw [hp]; rfl)]

theorem Populated.store {running : List Bool} {p q : Processor B C} {s : VmmState B C}
    (h : Populated running sys) (hs : s.vmContinue = true) (hp : sys.processors i = some p) :
    Populated running (sys.store i q s) :=
  ⟨h.count, fun j => (isSome_iff_of_store hs hp q j).trans (h.virtualized j)⟩

/-- A hypercall other than the terminating one leaves all processors as they are. -/
theorem Populated.vmCall {running : List Bool} (h : Populated running sys) (m : Machine B)
    (number : HypercallNumber) (hn : number ≠ .terminateVmm) (context : BitVec 64) (i : ℕ) :
    Populated running (utilVmCall m number context i sys).2 := by
  cases hp : sys.processors i with
  | none =>
    rw [utilVmCall_unserved m number context hp]
    exact h
  | some p =>
    obtain ⟨heq, hcont⟩ := utilVmCall_serves m number hn context hp
    rw [heq]
    exact h.store hcont hp

theorem Populated.loop {running : List Bool} (callback : ℕ → System B C → NtStatus × System B C)
    (hstep : ∀ {i sys}, Populated running sys → Populated running (callback i sys).2)
    (h : Populated running sys) : Populated running (utilForEachProcessor callback sys).2 := by
  rcases utilForEachProcessorLoop_rule (I := fun _ (s : System B C) => Populated running s)
      (fun {i s s'} hs (hcall : callback i s = (.success, s')) => by
        have hnext := hstep (i := i) hs
        rw [hcall] at hnext
        exact hnext)
      sys.activeProcessorCount (i := 0) h with ⟨-, hI⟩ | ⟨k, sk, -, -, hI, -, heq⟩
  · exact hI
  · unfold utilForEachProcessor
    rw [heq]
    exact hstep hI

/-- The new processor is at the end. -/
theorem Populated.add {running : List Bool} {ok : Bool} {sys' : System B C}
    (h : Populated running sys) (hcount : sys'.activeProcessorCount = sys.activeProcessorCount + 1)
    (hnew : (sys'.processors sys.activeProcessorCount).isSome = ok)
    (hold : ∀ j, j ≠ sys.activeProcessorCount →
      ((sys'.processors j).isSome = true ↔ (sys.processors j).isSome = true)) :
    Populated (running ++ [ok]) sys' := by
  refine ⟨by rw [hcount, h.count, List.length_append, List.length_singleton], fun j => ?_⟩
  by_cases hj : j = sys.activeProcessorCount
  · subst hj
    rw [hnew, h.count, List.getElem?_concat_length]
    exact ⟨fun hok => by rw [hok], Option.some.inj⟩
  · rw [hold j hj, h.virtualized j]
    rw [h.count] at hj
    rcases Nat.lt_or_ge j running.length with hlt | hge
    · rw [List.getElem?_append_left hlt]
    · rw [List.getElem?_eq_none hge, List.getElem?_eq_none (by simp; omega)]

theorem vmpStartVm_isSuccess (pf : Platform B C) (sharedData : PoolBlock) (i : ℕ)
    (sys : System B C) : (vmpStartVm pf sharedData i sys).1.isSuccess =
      (vmpInitializeVm pf sharedData i sys).1 := by
  unfold vmpStartVm
  generalize vmpInitializeVm pf sharedData i sys = r
  obtain ⟨ok, s⟩ := r
  cases ok <;> rfl

/-- Starting a processor that is not virtualized. -/
theorem Populated.start {running : List Bool} (pf : Platform B C) (sharedData : PoolBlock)
    (h : Populated running sys) (hcount : sys₁.activeProcessorCount = sys.activeProcessorCount + 1)
    (hproc : ∀ j, (sys₁.processors j).isSome = (sys.processors j).isSome) :
    Populated (running ++ [(vmpStartVm pf sharedData sys.activeProcessorCount sys₁).1.isSuccess])
      (vmpStartVm pf sharedData sys.activeProcessorCount sys₁).2 := by
  have hlast : (sys.processors sys.activeProcessorCount).isSome = false := by
    have hnone := h.virtualized sys.activeProcessorCount
    rw [h.count, List.getElem?_eq_none le_rfl, ← h.count] at hnone
    simpa using hnone
  have hcount' := (vmpInitializeVm_count pf sharedData sys.activeProcessorCount sys₁).trans hcount
  rw [vmpStartVm_isSuccess]
  rcases vmpInitializeVm_processors pf sharedData sys.activeProcessorCount sys₁ with
    ⟨hok, p, hnew⟩ | ⟨hok, hnew⟩
  · refine h.add hcount' ?_ fun j hj => ?_
    · rw [hok, vmpStartVm, hnew, Function.update_self]
      rfl
    · rw [vmpStartVm, hnew, Function.update_of_ne hj, hproc]
  · refine h.add hcount' ?_ fun j hj => ?_
    · rw [hok, vmpStartVm, hnew, hproc]
      exact hlast
    · rw [vmpStartVm, hnew, hproc]

theorem Populated.hotAdd {running : List Bool} (current : ℕ) (h : Populated running sys) :
    Populated (running ++ [(sys.hotAdd pf current).1.isSuccess]) (sys.hotAdd pf current).2 := by
  unfold System.hotAdd vmHotplugCallback
  set sys' : System B C := { sys with activeProcessorCount := sys.activeProcessorCount + 1 }
  cases hp : sys'.processors current with
  | none =>
    simp only [utilVmCall_unserved _ _ _ hp, Option.map_none]
    refine h.add rfl ?_ fun j _ => Iff.rfl
    have hnone := h.virtualized sys.activeProcessorCount
    rw [h.count, List.getElem?_eq_none le_rfl, ← h.count] at hnone
    simpa [NtStatus.isSuccess] using hnone
  | some p =>
    obtain ⟨hcall, hcont⟩ := utilVmCall_serves pf.machine .getSharedProcessorData (by decide)
      pf.localVariable hp
    simp only [hcall, Option.map_some]
    exact h.start pf _ rfl fun j => isSome_store hcont (by rw [hp]; rfl) j

theorem Populated.step {running : List Bool} (h : Populated running sys)
    (hs : DriverStep pf sys outcomes sys₁) : Populated (running ++ outcomes) sys₁ := by
  cases hs with
  | hotAdd current => exact h.hotAdd current
  | exit hp hno hstep =>
    rw [List.append_nil]
    exact h.store (vmContinue_of_noCall hno hstep.handled) hp

theorem Populated.run {running : List Bool} (h : Populated running sys)
    (hr : DriverRun pf sys outcomes sys₁) : Populated (running ++ outcomes) sys₁ := by
  induction hr with
  | refl =>
    rw [List.append_nil]
    exact h
  | tail _ hs ih =>
    rw [← List.append_assoc]
    exact ih.step hs

/-! ## After VmInitialization -/

/-- A successful `VmInitialization` is the two loops. -/
theorem vmInitialization_some (hnone : ∀ i, sys.processors i = none)
    (hok : vmInitialization pf sys = (.success, sys₁)) :
    ∃ sharedData msrBitmap ioBitmap sys₀ sys₂,
      vmpInitializeSharedData pf.machine.pool sys = (some sharedData, sys₀) ∧
      Accounted sys.heap.ledger sharedData msrBitmap ioBitmap [] sys₀ ∧
      utilForEachProcessor (vmpStartVm pf sharedData) sys₀ = (.success, sys₂) ∧
      Launching sys.heap.ledger sharedData msrBitmap ioBitmap sys₀ sys.activeProcessorCount sys₂ ∧
      sys₀.activeProcessorCount = sys.activeProcessorCount ∧
      dmEnableMonitor pf.machine sys₂ = (.success, sys₁) := by
  unfold vmInitialization at hok
  split_ifs at hok
  · cases hok
  · cases hok
  split at hok
  · cases hok
  rename_i sharedData sys₀ hshared
  obtain ⟨⟨msrBitmap, ioBitmap, ha⟩, -, hcount, -⟩ :=
    vmpInitializeSharedData_accounted hnone hshared
  have hcases := startLoop_cases pf ha
  simp only at hok
  generalize hstart : utilForEachProcessor (vmpStartVm pf sharedData) sys₀ = r at hok hcases
  obtain ⟨status, sys₂⟩ := r
  have hstatus : status = .success := by
    by_contra hne
    simp [NtStatus.isSuccess, hne] at hok
  subst hstatus
  rcases hcases with ⟨-, hl⟩ | ⟨k, sk, -, -, hne, heq⟩
  · rw [hcount] at hl
    refine ⟨sharedData, msrBitmap, ioBitmap, sys₀, sys₂, hshared, ha, hstart, hl, hcount, ?_⟩
    simp only [NtStatus.isSuccess, decide_true, Bool.not_true, Bool.false_eq_true, if_false] at hok
    generalize dmEnableMonitor pf.machine sys₂ = r at hok ⊢
    obtain ⟨status, sys₃⟩ := r
    have hstatus : status = .success := by
      by_contra hne
      simp [hne] at hok
    subst hstatus
    simpa using hok
  · rw [← heq] at hne
    exact (hne rfl).elim

/-- After the start loop all processors are virtualized, and the other one enables the
monitor. -/
theorem vmInitialization_enables (hnone : ∀ i, sys.processors i = none)
    (hok : vmInitialization pf sys = (.success, sys₁)) : ∃ sys₂,
      Populated (List.replicate sys.activeProcessorCount true) sys₂ ∧
      sys₂.activeProcessorCount = sys.activeProcessorCount ∧
      dmEnableMonitor pf.machine sys₂ = (.success, sys₁) := by
  obtain ⟨_, _, _, sys₀, sys₂, -, -, -, hl, hcount, henable⟩ := vmInitialization_some hnone hok
  refine ⟨sys₂, ⟨by rw [hl.count, hcount, List.length_replicate], fun i => ?_⟩,
    hl.count.trans hcount, henable⟩
  rw [hl.accounted.held.virtualized i, List.mem_range, List.getElem?_replicate]
  simp

theorem vmInitialization_populated (hnone : ∀ i, sys.processors i = none)
    (hok : vmInitialization pf sys = (.success, sys₁)) :
    Populated (List.replicate sys.activeProcessorCount true) sys₁ := by
  obtain ⟨sys₂, hstart, -, henable⟩ := vmInitialization_enables hnone hok
  have hend := hstart.loop (utilVmCall pf.machine .enableVmmDeviceMonitor 0)
    fun {i sys} h => h.vmCall pf.machine .enableVmmDeviceMonitor (by decide) 0 i
  rw [show utilForEachProcessor _ sys₂ = _ from henable] at hend
  exact hend

/-! ## VmTermination -/

theorem Populated.none_of_le {running : List Bool} (h : Populated running sys)
    (hi : sys.activeProcessorCount ≤ i) : sys.processors i = none := by
  have hnone := h.virtualized i
  rw [h.count] at hi
  rw [List.getElem?_eq_none hi] at hnone
  simpa using hnone

theorem Populated.pairwise_iff {running : List Bool} (h : Populated running sys) :
    (running.Pairwise fun a b => b = true → a = true) ↔
      ∀ i j, i < j → (sys.processors j).isSome = true → (sys.processors i).isSome = true := by
  rw [List.pairwise_iff_getElem]
  constructor
  · intro hpair i j hij hj
    obtain ⟨hlt, hget⟩ := List.getElem?_eq_some_iff.1 ((h.virtualized j).1 hj)
    rw [h.virtualized i, List.getElem?_eq_getElem (hij.trans hlt)]
    exact congrArg some (hpair i j _ hlt hij hget)
  · intro hfirst i j hi hj hij hget
    have hsome := hfirst i j hij ((h.virtualized j).2 (by rw [List.getElem?_eq_getElem hj, hget]))
    rw [h.virtualized i, List.getElem?_eq_getElem hi] at hsome
    exact Option.some.inj hsome

/-- The virtualized processors stop exactly when none comes after one that is not. -/
theorem Populated.vmTermination_iff {running : List Bool} (pf : Platform B C)
    (h : Populated running sys) : (∀ i, (vmTermination pf sys).processors i = none) ↔
      running.Pairwise fun a b => b = true → a = true := by
  have hdisabled : Populated running (dmDisableMonitor pf.machine sys).2 :=
    h.loop _ fun {i sys} h => h.vmCall pf.machine .disableVmmDeviceMonitor (by decide) 0 i
  unfold vmTermination
  generalize (dmDisableMonitor pf.machine sys).2 = s at hdisabled
  have hcases := stopLoop_cases pf s
  generalize (utilForEachProcessor (vmpStopVm pf) s).2 = t at hcases
  rw [hdisabled.pairwise_iff]
  rcases hcases with ⟨hall, hstopped, hafter⟩ | ⟨k, hk, hkn, hbefore, hafter⟩
  · refine iff_of_true (fun i => ?_) fun i j hij hj => ?_
    · rcases Nat.lt_or_ge i s.activeProcessorCount with hlt | hge
      · exact hstopped i hlt
      · exact (hafter i hge).trans (hdisabled.none_of_le hge)
    · refine hall i (hij.trans (Nat.lt_of_not_le fun hge => ?_))
      rw [hdisabled.none_of_le hge] at hj
      cases hj
  · constructor
    · intro hnone i j hij hj
      have hjk : j < k := by
        by_contra hge
        rw [← hafter j (Nat.le_of_not_lt hge), hnone j] at hj
        cases hj
      exact (hbefore i (hij.trans hjk)).1
    · intro hfirst i
      rcases Nat.lt_or_ge i k with hlt | hge
      · exact (hbefore i hlt).2
      · rw [hafter i hge]
        by_contra hne
        rcases eq_or_lt_of_le hge with rfl | hlt
        · exact hne hkn
        · have hsome := hfirst k i hlt (Option.isSome_iff_ne_none.2 hne)
          rw [hkn] at hsome
          cases hsome

/-- After a run of hot-adds and exits `VmTermination` leaves no processor virtualized if and only
if no hot-add succeeded after one that failed. -/
theorem vmTermination_stops_all_iff (hnone : ∀ i, sys.processors i = none)
    (hok : vmInitialization pf sys = (.success, sys₁)) (hrun : DriverRun pf sys₁ outcomes sys₂) :
    (∀ i, (vmTermination pf sys₂).processors i = none) ↔
      outcomes.Pairwise fun a b => b = true → a = true := by
  rw [((vmInitialization_populated hnone hok).run hrun).vmTermination_iff pf,
    List.pairwise_append]
  have hfirst : (List.replicate sys.activeProcessorCount true).Pairwise
      fun a b => b = true → a = true :=
    List.pairwise_replicate.2 (Or.inr id)
  have hbefore : ∀ a ∈ List.replicate sys.activeProcessorCount true, ∀ b ∈ outcomes,
      b = true → a = true :=
    fun a ha _ _ _ => List.eq_of_mem_replicate ha
  exact ⟨fun h => h.2.1, fun h => ⟨hfirst, h, hbefore⟩⟩

end Hotplug

/-! ## Processors added to one -/

/-- A pool that refuses the small structure of request `n` only. -/
def bumpPoolWithout (n : ℕ) : Pool :=
  { bumpPool with data := fun k => k ≠ n }

/-- One processor after `VmInitialization`, where request `n` will be refused. -/
def spiStarted (n : ℕ) : System (BitVec 32) Unit :=
  (vmInitialization (spiPlatform (bumpPoolWithout n)) (freshSystem 1)).2

/-- A second one is added to it. -/
def spiAdded (n : ℕ) : NtStatus × System (BitVec 32) Unit :=
  (spiStarted n).hotAdd (spiPlatform (bumpPoolWithout n)) 0

/-- Request 65 is for the data of the second processor. -/
theorem spiStarted_eq : vmInitialization (spiPlatform (bumpPoolWithout 65)) (freshSystem 1) =
    (.success, spiStarted 65) :=
  Prod.ext (by decide +kernel) rfl

theorem spiStarted_eq_all : vmInitialization (spiPlatform (bumpPoolWithout 0x10000))
    (freshSystem 1) = (.success, spiStarted 0x10000) :=
  Prod.ext (by decide +kernel) rfl

theorem spiAdded_run (n : ℕ) : DriverRun (spiPlatform (bumpPoolWithout n)) (spiStarted n)
    [(spiAdded n).1.isSuccess] (spiAdded n).2 :=
  .tail .refl (.hotAdd 0)

theorem spiAdded_fails : (spiAdded 65).1.isSuccess = false := by
  decide +kernel

theorem spiAdded_succeeds : (spiAdded 0x10000).1.isSuccess = true := by
  decide +kernel

theorem vmTermination_stops_all_iff_added :
    (∀ i, (vmTermination (spiPlatform (bumpPoolWithout 0x10000))
      (spiAdded 0x10000).2).processors i = none) ↔
      [true].Pairwise fun a b => b = true → a = true := by
  have hrun := spiAdded_run 0x10000
  rw [spiAdded_succeeds] at hrun
  exact vmTermination_stops_all_iff (fun _ => rfl) spiStarted_eq_all hrun

/-- A processor added after one that could not be virtualized stays virtualized. -/
theorem added_processor_left :
    ¬∀ (pf : Platform (BitVec 32) Unit) (sys sys₁ sys₂ : System (BitVec 32) Unit)
      (outcomes : List Bool), (∀ i, sys.processors i = none) →
      vmInitialization pf sys = (.success, sys₁) → DriverRun pf sys₁ outcomes sys₂ →
      ∀ i, (vmTermination pf sys₂).processors i = none := by
  intro hall
  set pf := spiPlatform (bumpPoolWithout 65)
  have hthird : ((spiAdded 65).2.hotAdd pf 0).1.isSuccess = true := by decide +kernel
  have hrun := (spiAdded_run 65).tail (.hotAdd 0)
  rw [spiAdded_fails, hthird] at hrun
  have hpop := (vmInitialization_populated (fun _ => rfl) spiStarted_eq).run hrun
  have hpair := (hpop.vmTermination_iff pf).1 (hall _ _ _ _ _ (fun _ => rfl) spiStarted_eq hrun)
  exact absurd hpair (by decide)

end DeviceMon
