import DeviceMon.Processors

/-!
# Power cycles

A driver that stays loaded over suspends and resumes : the power callback terminates the VMMs
before the system leaves S0 and initializes them again after it, the hot-plug callback adds
processors, and the guests have VM exits on any processor in any order (`PowerRun`). The exits of a
run keep their processor in VMX operation. The platform may answer differently each time.

`PowerState` is kept by every event. Either no processor is virtualized, or the first ones are
and hold what was handed out; and the VMMs are side by side. So `VmTermination` always gives back
everything (`powerRun_unload`) but the shared data of each `VmInitialization` that found no memory
for the data of its first processor (`blocksLost`), which nobody frees.
-/

namespace DeviceMon

section Power

variable {B C : Type} {sys sys' sys₁ sys₂ : System B C} {i : ℕ} {p : Processor B C}
  {start base : Ledger PoolBlock} {lost lost' : ℕ} {sharedData msrBitmap ioBitmap : PoolBlock}
  {vs : List ℕ}

/-! ## The callbacks -/

/-- `PO_CB_SYSTEM_STATE_LOCK`. -/
def poCbSystemStateLock : BitVec 64 := 3

/-- Power callback routine dealing with hibernate and sleep. The status of `VmInitialization` is
only logged. -/
def powerCallbackpCallbackRoutine (pf : Platform B C) (argument1 argument2 : BitVec 64)
    (sys : System B C) : System B C :=
  if argument1 ≠ poCbSystemStateLock then sys
  else if argument2 ≠ 0 then
    -- the computer has just reentered S0
    (vmInitialization pf sys).2
  else
    -- the computer is about to exit system power state S0
    vmTermination pf sys

/-- `KE_PROCESSOR_CHANGE_NOTIFY_STATE`. -/
inductive KeProcessorChangeNotifyState where
  | addStartNotify
  | addCompleteNotify
  | addFailureNotify
deriving DecidableEq

/-- `HotplugCallbackpCallbackRoutine` for processor `added`, on `current`. -/
def hotplugCallbackpCallbackRoutine (pf : Platform B C) (current : ℕ)
    (state : KeProcessorChangeNotifyState) (added : ℕ) (sys : System B C) : System B C :=
  if state ≠ .addCompleteNotify then sys else (vmHotplugCallback pf current added sys).2

/-- A change of the processors : with the notification of its end the new one is active. -/
def System.processorChange (pf : Platform B C) (current : ℕ)
    (state : KeProcessorChangeNotifyState) (sys : System B C) : System B C :=
  hotplugCallbackpCallbackRoutine pf current state sys.activeProcessorCount
    (if state = .addCompleteNotify then
      { sys with activeProcessorCount := sys.activeProcessorCount + 1 }
    else sys)

/-! ## Runs -/

/-- The blocks `VmInitialization` leaves behind : the shared data and its bitmaps, when the next
request is refused. -/
def blocksLost (pf : Platform B C) (sys : System B C) : ℕ :=
  let data := pf.machine.pool.data
  let requests := sys.heap.requests
  if vmpIsDeviceMonInstalled pf sys = false ∧ pf.vmxAvailable = true ∧ data requests = true ∧
      data (requests + 1) = true ∧ data (requests + 2) = true ∧ data (requests + 3) = false then 3
  else 0

/-- The blocks the power callback leaves behind. -/
def blocksLostAt (pf : Platform B C) (argument1 argument2 : BitVec 64) (sys : System B C) : ℕ :=
  if argument1 = poCbSystemStateLock ∧ argument2 ≠ 0 then blocksLost pf sys else 0

/-- If a processor is virtualized, so is the one `VmInitialization` runs on. -/
def FindsItself (pf : Platform B C) (sys : System B C) : Prop :=
  (∃ i, (sys.processors i).isSome = true) → vmpIsDeviceMonInstalled pf sys = true

/-- One event, with the number of blocks it leaves behind. -/
inductive PowerStep (sys : System B C) : ℕ → System B C → Prop where
  /-- `VmInitialization`, from `DriverEntry`. -/
  | load (pf : Platform B C) (finds : FindsItself pf sys) :
      PowerStep sys (blocksLost pf sys) (vmInitialization pf sys).2
  /-- The power callback. -/
  | power (pf : Platform B C) (argument1 argument2 : BitVec 64)
      (finds : argument1 = poCbSystemStateLock → argument2 ≠ 0 → FindsItself pf sys) :
      PowerStep sys (blocksLostAt pf argument1 argument2 sys)
        (powerCallbackpCallbackRoutine pf argument1 argument2 sys)
  /-- The hot-plug callback. After a processor that could not be virtualized none is. -/
  | processorChange (pf : Platform B C) (current : ℕ) (state : KeProcessorChangeNotifyState)
      (inOrder : (sys.hotAdd pf current).1.isSuccess = true →
        ∀ i < sys.activeProcessorCount, (sys.processors i).isSome = true) :
      PowerStep sys 0 (sys.processorChange pf current state)
  /-- A VM exit of processor `i` that does not take it out of VMX operation. -/
  | exit (m : Machine B) {i : ℕ} {p : Processor B C} {reason : VmExitReason}
      {s₀ s' : VmmState B C} (running : sys.processors i = some p)
      (step : ExitStep m reason (sys.vmm p) s₀ s') (continues : s'.vmContinue = true) :
      PowerStep sys 0 (sys.store i p s')

/-- A run, with the number of blocks left behind. -/
inductive PowerRun (sys : System B C) : ℕ → System B C → Prop where
  | refl : PowerRun sys 0 sys
  | tail {lost lost' : ℕ} {sys₁ sys₂ : System B C} (run : PowerRun sys lost sys₁)
      (step : PowerStep sys₁ lost' sys₂) : PowerRun sys (lost + lost') sys₂

/-! ## Between two events -/

/-- No processor is virtualized and nothing is held since `base`, or the first ones are and hold
all of it. -/
def Settled (base : Ledger PoolBlock) (sys : System B C) : Prop :=
  CleanedUp base sys ∨ ∃ sharedData msrBitmap ioBitmap k, 0 < k ∧ k ≤ sys.activeProcessorCount ∧
    Accounted base sharedData msrBitmap ioBitmap (List.range k) sys

/-- What holds between two events, with the number of blocks left behind since `start`. -/
structure PowerState (start : Ledger PoolBlock) (lost : ℕ) (sys : System B C) : Prop where
  active : 0 < sys.activeProcessorCount
  settled : ∃ base leaked, Ledger.Holds start base leaked ∧ leaked.length = lost ∧ Settled base sys
  vmms : Vmms sys

/-- Nothing is virtualized : the account starts anew. -/
theorem PowerState.anew (hs : PowerState start lost sys) (hnone : ∀ i, sys.processors i = none) :
    ∃ leaked, Ledger.Holds start sys.heap.ledger leaked ∧ leaked.length = lost := by
  obtain ⟨base, leaked, hbase, hlen, hclean | ⟨_, _, _, k, hk, -, ha⟩⟩ := hs.settled
  · exact ⟨_, hbase.trans hclean.settled, by simpa using hlen⟩
  · have hsome := (ha.held.virtualized 0).2 (List.mem_range.2 hk)
    rw [hnone 0] at hsome
    cases hsome

/-! ## VmInitialization -/

theorem vmpStopVm_count (pf : Platform B C) (i : ℕ) (sys : System B C) :
    (vmpStopVm pf i sys).2.activeProcessorCount = sys.activeProcessorCount := by
  cases hp : sys.processors i with
  | none => rw [vmpStopVm_none pf hp]
  | some p =>
    obtain ⟨memory, hcall⟩ := utilVmCall_terminate pf.machine pf.localVariable hp
    simp only [vmpStopVm, hp, hcall, Option.map_some]
    exact vmpFreeProcessorData_count _ _

theorem stopLoop_count (pf : Platform B C) (sys : System B C) :
    (utilForEachProcessor (vmpStopVm pf) sys).2.activeProcessorCount =
      sys.activeProcessorCount := by
  rcases utilForEachProcessorLoop_rule (I := fun _ (s : System B C) =>
      s.activeProcessorCount = sys.activeProcessorCount)
      (fun {i s s'} hs (hcall : vmpStopVm pf i s = (.success, s')) => by
        have hcount := vmpStopVm_count pf i s
        rw [hcall] at hcount
        exact hcount.trans hs)
      sys.activeProcessorCount (i := 0) rfl with ⟨-, hI⟩ | ⟨k, sk, -, -, hI, -, heq⟩
  · exact hI
  · unfold utilForEachProcessor
    rw [heq, vmpStopVm_count, hI]

/-- A request for a small structure. -/
theorem allocateData_iff {pool : Pool} {h h' : Heap} {r : Option PoolBlock}
    (hr : h.allocateData pool = (r, h')) :
    (pool.data h.requests = true ↔ r.isSome = true) ∧ h'.requests = h.requests + 1 := by
  unfold Heap.allocateData at hr
  split_ifs at hr with hc
  · cases hr
    exact ⟨iff_of_true hc rfl, rfl⟩
  · cases hr
    exact ⟨iff_of_false hc (by simp), rfl⟩

/-- The answers of the pool decide whether there is shared data; without it nothing is held. -/
theorem vmpInitializeSharedData_cases {pool : Pool} {r : Option PoolBlock}
    (hshared : vmpInitializeSharedData pool sys = (r, sys₁)) :
    (r.isSome = true ↔ pool.data sys.heap.requests = true ∧
      pool.data (sys.heap.requests + 1) = true ∧ pool.data (sys.heap.requests + 2) = true) ∧
    (r = none → Ledger.Holds sys.heap.ledger sys₁.heap.ledger [] ∧
      sys₁.processors = sys.processors ∧
      sys₁.activeProcessorCount = sys.activeProcessorCount) := by
  unfold vmpInitializeSharedData at hshared
  have hheld := Ledger.Holds.refl sys.heap.ledger
  split at hshared
  · rename_i h₁ hself
    cases hshared
    obtain ⟨hdata, -⟩ := allocateData_iff hself
    refine ⟨iff_of_false (by simp) fun h => by simpa using hdata.1 h.1, fun _ => ⟨?_, rfl, rfl⟩⟩
    rw [(allocateData_none _ hself).2]
    exact hheld
  rename_i self h₁ hself
  obtain ⟨hdata₁, hreq₁⟩ := allocateData_iff hself
  have hheld₁ := hheld.take self
  rw [← allocateData_ledger _ hself] at hheld₁
  split at hshared
  · rename_i h₂ hmsr
    cases hshared
    obtain ⟨hdata₂, -⟩ := allocateData_iff hmsr
    rw [hreq₁] at hdata₂
    refine ⟨iff_of_false (by simp) fun h => by simpa using hdata₂.1 h.2.1,
      fun _ => ⟨?_, rfl, rfl⟩⟩
    rw [← (allocateData_none _ hmsr).2] at hheld₁
    exact hheld₁.give
  rename_i msrBitmap h₂ hmsr
  obtain ⟨hdata₂, hreq₂⟩ := allocateData_iff hmsr
  have hheld₂ := hheld₁.take msrBitmap
  rw [← allocateData_ledger _ hmsr] at hheld₂
  rw [hreq₁] at hdata₂ hreq₂
  split at hshared
  · rename_i h₃ hio
    cases hshared
    obtain ⟨hdata₃, -⟩ := allocateData_iff hio
    rw [hreq₂] at hdata₃
    refine ⟨iff_of_false (by simp) fun h => by simpa using hdata₃.1 h.2.2,
      fun _ => ⟨?_, rfl, rfl⟩⟩
    rw [← (allocateData_none _ hio).2] at hheld₂
    exact hheld₂.give.give
  · rename_i ioBitmap h₃ hio
    cases hshared
    obtain ⟨hdata₃, -⟩ := allocateData_iff hio
    rw [hreq₂] at hdata₃
    exact ⟨iff_of_true rfl ⟨hdata₁.2 rfl, hdata₂.2 rfl, hdata₃.2 rfl⟩, fun h => by cases h⟩

/-- Without memory for the data of the first processor the start loop fails. -/
theorem startLoop_dry (pf : Platform B C) (sharedData : PoolBlock)
    (hactive : 0 < sys.activeProcessorCount)
    (hdata : (sys.heap.allocateData pf.machine.pool).1 = none) :
    (utilForEachProcessor (vmpStartVm pf sharedData) sys).1 ≠ .success := by
  obtain ⟨n, hn⟩ := Nat.exists_eq_succ_of_ne_zero hactive.ne'
  obtain ⟨h, hpair⟩ : ∃ h, sys.heap.allocateData pf.machine.pool = (none, h) :=
    ⟨_, Prod.ext hdata rfl⟩
  have hstart : vmpStartVm pf sharedData 0 sys = (.unsuccessful, { sys with heap := h }) := by
    simp only [vmpStartVm, vmpInitializeVm, hpair, Bool.false_eq_true, if_false]
  rw [utilForEachProcessor, hn, utilForEachProcessorLoop]
  simp [hstart, NtStatus.isSuccess]

/-- `VmInitialization` with shared data is the loops. -/
theorem vmInitialization_loops {pf : Platform B C}
    (hinstalled : vmpIsDeviceMonInstalled pf sys = false) (havailable : pf.vmxAvailable = true)
    (hshared : vmpInitializeSharedData pf.machine.pool sys = (some sharedData, sys₁)) :
    let r := utilForEachProcessor (vmpStartVm pf sharedData) sys₁
    (r.1 ≠ .success →
      (vmInitialization pf sys).2 = (utilForEachProcessor (vmpStopVm pf) r.2).2) ∧
    (r.1 = .success → (dmEnableMonitor pf.machine r.2).1 = .success →
      vmInitialization pf sys = (.success, (dmEnableMonitor pf.machine r.2).2)) := by
  unfold vmInitialization
  simp only [hinstalled, havailable, hshared, Bool.false_eq_true, if_false, Bool.not_true]
  generalize utilForEachProcessor (vmpStartVm pf sharedData) sys₁ = r
  obtain ⟨status, sys₂⟩ := r
  refine ⟨fun hne => ?_, fun hok henable => ?_⟩
  · have hstatus : status ≠ .success := hne
    simp [NtStatus.isSuccess, hstatus]
  · obtain rfl : status = .success := hok
    have hstatus : (dmEnableMonitor pf.machine sys₂).1 = .success := henable
    simp [NtStatus.isSuccess, hstatus]

/-- The loops of `VmInitialization`, on a system without VMM. -/
theorem vmInitialization_shared {pf : Platform B C} (hnone : ∀ i, sys.processors i = none)
    (hactive : 0 < sys.activeProcessorCount) (havailable : pf.vmxAvailable = true)
    (hshared : vmpInitializeSharedData pf.machine.pool sys = (some sharedData, sys₁)) :
    PowerState sys.heap.ledger
      (if pf.machine.pool.data (sys.heap.requests + 3) = true then 0 else 3)
      (vmInitialization pf sys).2 ∧
    ((vmInitialization pf sys).1 = .success ∧
        pf.machine.pool.data (sys.heap.requests + 3) = true ∨
      ∀ i, (vmInitialization pf sys).2.processors i = none) := by
  have hinstalled : vmpIsDeviceMonInstalled pf sys = false := by
    rw [vmpIsDeviceMonInstalled, hnone]
    rfl
  obtain ⟨⟨msrBitmap, ioBitmap, ha⟩, hrequests, hcount, hproc⟩ :=
    vmpInitializeSharedData_accounted hnone hshared
  have hactive₁ : 0 < sys₁.activeProcessorCount := by rw [hcount]; exact hactive
  have hrequest : (sys₁.heap.allocateData pf.machine.pool).1 = none ↔
      pf.machine.pool.data (sys.heap.requests + 3) = false := by
    rw [Heap.allocateData, hrequests]
    cases pf.machine.pool.data (sys.heap.requests + 3) <;> simp
  have hcases := startLoop_cases pf ha
  have hvmms := startLoop_vmms pf (J := fun _ => True) (fun _ _ _ _ => id) ha
    (.of_none fun i => by rw [hproc]; exact hnone i) trivial
  have hleft := startLoop_refused pf ha
  have hdry := startLoop_dry pf sharedData hactive₁
  obtain ⟨hstop, hgo⟩ := vmInitialization_loops hinstalled havailable hshared
  generalize utilForEachProcessor (vmpStartVm pf sharedData) sys₁ = r
    at hcases hvmms hleft hdry hstop hgo
  have hcount₂ : r.2.activeProcessorCount = sys.activeProcessorCount := by
    rcases hcases with ⟨-, hl⟩ | ⟨k, sk, -, hl, -, heq⟩
    · exact hl.count.trans hcount
    · rw [heq, vmpStartVm, vmpInitializeVm_count, hl.count, hcount]
  rcases hcases with ⟨hok, hl⟩ | ⟨k, sk, hk, hl, hne, heq⟩
  · -- all processors run, so they can be monitored
    have henable : (dmEnableMonitor pf.machine r.2).1 = .success := by
      refine dmEnableMonitor_succeeds pf.machine fun i hi => ?_
      rw [hl.accounted.held.virtualized, List.mem_range, ← hl.count]
      exact hi
    obtain ⟨ha₃, hv₃, hcount₃⟩ := hl.accounted.vmCalls (hvmms hok).1 List.nodup_range pf.machine
      .enableVmmDeviceMonitor (by decide) 0
    have hpool : pf.machine.pool.data (sys.heap.requests + 3) = true := by
      by_contra hno
      exact hdry (hrequest.2 (by simpa using hno)) hok
    rw [hgo hok henable, if_pos hpool]
    have hcount' : (dmEnableMonitor pf.machine r.2).2.activeProcessorCount =
        sys.activeProcessorCount := hcount₃.trans hcount₂
    refine ⟨⟨by rw [hcount']; exact hactive, ⟨_, [], .refl _, rfl, Or.inr ?_⟩, hv₃⟩,
      Or.inl ⟨rfl, hpool⟩⟩
    exact ⟨sharedData, msrBitmap, ioBitmap, _, hactive₁, by rw [hcount', hcount], ha₃⟩
  · rw [← heq] at hne
    rw [hstop hne]
    cases hpool : pf.machine.pool.data (sys.heap.requests + 3) with
    | true =>
      rw [if_pos rfl]
      have hstopping := hl.fail pf (fun h => by simpa [hpool] using hrequest.1 h)
        (by rw [← heq]; exact hne)
      rw [← heq] at hstopping
      have hclean := hstopping.all pf (by rw [hcount₂, ← hcount]; exact hk)
      exact ⟨⟨by rw [stopLoop_count, hcount₂]; exact hactive,
        ⟨_, [], .refl _, rfl, Or.inl hclean⟩, .of_none hclean.none⟩, Or.inr hclean.none⟩
    | false =>
      have hrest := hleft hne (hrequest.2 hpool)
      have hnone₂ : ∀ i, r.2.processors i = none := fun i => by
        rw [← Option.not_isSome_iff_eq_none, hrest.held.virtualized i]
        exact List.not_mem_nil
      rw [stopLoop_none pf (hnone₂ 0), if_neg (by simp)]
      exact ⟨⟨by rw [hcount₂]; exact hactive,
        ⟨_, _, hrest.held.held, rfl, Or.inl ⟨hnone₂, .refl _⟩⟩, .of_none hnone₂⟩, Or.inr hnone₂⟩

/-- `VmInitialization` on a system without VMM : all processors run and nothing is lost, or none
does and everything but what `blocksLost` counts was given back. -/
theorem vmInitialization_settled (pf : Platform B C) (hnone : ∀ i, sys.processors i = none)
    (hactive : 0 < sys.activeProcessorCount) :
    PowerState sys.heap.ledger (blocksLost pf sys) (vmInitialization pf sys).2 ∧
      ((vmInitialization pf sys).1 = .success ∧ blocksLost pf sys = 0 ∨
        ∀ i, (vmInitialization pf sys).2.processors i = none) := by
  have hinstalled : vmpIsDeviceMonInstalled pf sys = false := by
    rw [vmpIsDeviceMonInstalled, hnone]
    rfl
  -- it ends before it has shared data
  have hearly : ∀ {r : System B C}, blocksLost pf sys = 0 → r.activeProcessorCount =
      sys.activeProcessorCount → CleanedUp sys.heap.ledger r →
      PowerState sys.heap.ledger (blocksLost pf sys) r ∧
        ((vmInitialization pf sys).1 = .success ∧ blocksLost pf sys = 0 ∨
          ∀ i, r.processors i = none) := fun hlost hcount hc => by
    rw [hlost]
    exact ⟨⟨by rw [hcount]; exact hactive, ⟨_, [], .refl _, rfl, Or.inl hc⟩, .of_none hc.none⟩,
      Or.inr hc.none⟩
  cases havailable : pf.vmxAvailable with
  | false =>
    have hresult : (vmInitialization pf sys).2 = sys := by
      simp [vmInitialization, hinstalled, havailable]
    rw [hresult]
    exact hearly (by simp [blocksLost, havailable]) rfl ⟨hnone, .refl _⟩
  | true =>
    cases hshared : vmpInitializeSharedData pf.machine.pool sys with
    | mk sharedData sys₁ =>
    obtain ⟨hdata, hrefused⟩ := vmpInitializeSharedData_cases hshared
    cases sharedData with
    | none =>
      have hresult : (vmInitialization pf sys).2 = sys₁ := by
        simp [vmInitialization, hinstalled, havailable, hshared]
      obtain ⟨hheld, hproc, hcount⟩ := hrefused rfl
      rw [hresult]
      refine hearly (if_neg fun h => ?_) hcount ⟨fun i => by rw [hproc]; exact hnone i, hheld⟩
      simpa using hdata.2 ⟨h.2.2.1, h.2.2.2.1, h.2.2.2.2.1⟩
    | some sharedData =>
      have hlost : blocksLost pf sys =
          if pf.machine.pool.data (sys.heap.requests + 3) = true then 0 else 3 := by
        obtain ⟨h₀, h₁, h₂⟩ := hdata.1 rfl
        simp only [blocksLost, hinstalled, havailable, h₀, h₁, h₂, true_and]
        cases pf.machine.pool.data (sys.heap.requests + 3) <;> rfl
      obtain ⟨hs, hend⟩ := vmInitialization_shared hnone hactive havailable hshared
      rw [hlost]
      exact ⟨hs, hend.imp_left fun h => ⟨h.1, if_pos h.2⟩⟩

/-! ## Events -/

theorem PowerState.trans (hs : PowerState start lost sys) (hnone : ∀ i, sys.processors i = none)
    (hs' : PowerState sys.heap.ledger lost' sys') : PowerState start (lost + lost') sys' := by
  obtain ⟨leaked, hheld, hlen⟩ := hs.anew hnone
  obtain ⟨base, leaked', hbase, hlen', hsettled⟩ := hs'.settled
  refine ⟨hs'.active, ⟨base, _, hheld.trans hbase, ?_, hsettled⟩, hs'.vmms⟩
  rw [List.length_append, hlen, hlen', Nat.add_comm]

theorem PowerState.initialize (hs : PowerState start lost sys) (pf : Platform B C)
    (hfinds : FindsItself pf sys) :
    PowerState start (lost + blocksLost pf sys) (vmInitialization pf sys).2 := by
  cases hinstalled : vmpIsDeviceMonInstalled pf sys with
  | true =>
    have hresult : (vmInitialization pf sys).2 = sys := by simp [vmInitialization, hinstalled]
    rw [hresult, show blocksLost pf sys = 0 by simp [blocksLost, hinstalled]]
    exact hs
  | false =>
    have hnone : ∀ i, sys.processors i = none := fun i => by
      by_contra hsome
      rw [hfinds ⟨i, Option.isSome_iff_ne_none.2 hsome⟩] at hinstalled
      cases hinstalled
    exact hs.trans hnone (vmInitialization_settled pf hnone hs.active).1

/-- `DmDisableMonitor` does nothing without a virtualized processor 0. -/
theorem dmDisableMonitor_none (m : Machine B) (hzero : sys.processors 0 = none) :
    (dmDisableMonitor m sys).2 = sys := by
  unfold dmDisableMonitor utilForEachProcessor
  cases sys.activeProcessorCount with
  | zero => rfl
  | succ n =>
    simp [utilForEachProcessorLoop, utilVmCall_unserved m _ _ hzero, NtStatus.isSuccess]

/-- `VmTermination` takes all processors out of VMX operation and gives back what they hold. -/
theorem PowerState.terminate (hs : PowerState start lost sys) (pf : Platform B C) :
    PowerState start lost (vmTermination pf sys) ∧
      ∀ i, (vmTermination pf sys).processors i = none := by
  obtain ⟨base, leaked, hbase, hlen, hclean | ⟨sharedData, msrBitmap, ioBitmap, k, hk, hcount,
    ha⟩⟩ := hs.settled
  · have hresult : vmTermination pf sys = sys := by
      rw [vmTermination, dmDisableMonitor_none pf.machine (hclean.none 0),
        stopLoop_none pf (hclean.none 0)]
    rw [hresult]
    exact ⟨hs, hclean.none⟩
  · obtain ⟨ha', -, hcount'⟩ := ha.vmCalls hs.vmms List.nodup_range pf.machine
      .disableVmmDeviceMonitor (by decide) 0
    have hdisabled : (dmDisableMonitor pf.machine sys).2.activeProcessorCount =
        sys.activeProcessorCount := hcount'
    have hstopping : Stopping base sharedData msrBitmap ioBitmap k 0
        (dmDisableMonitor pf.machine sys).2 := by
      refine Or.inl ⟨hk, ?_⟩
      rw [Nat.sub_zero, ← List.range_eq_range']
      exact ha'
    have hend : CleanedUp base (vmTermination pf sys) := by
      obtain ⟨j, hj, hstop⟩ := hstopping.loop pf
        (dmDisableMonitor pf.machine sys).2.activeProcessorCount
      rw [hdisabled] at hj
      rcases hstop with ⟨hlt, -⟩ | ⟨-, hc⟩
      · omega
      · exact hc
    refine ⟨⟨?_, ⟨base, leaked, hbase, hlen, Or.inl hend⟩, .of_none hend.none⟩, hend.none⟩
    rw [vmTermination, stopLoop_count, hdisabled]
    exact hs.active

theorem PowerState.exit (hs : PowerState start lost sys) {m : Machine B} {reason : VmExitReason}
    {s₀ s' : VmmState B C} (hp : sys.processors i = some p)
    (hstep : ExitStep m reason (sys.vmm p) s₀ s') (hcont : s'.vmContinue = true) :
    PowerState start lost (sys.store i p s') := by
  obtain ⟨hinv, hserved⟩ := (hs.vmms.inv hp).exit_served hstep
  obtain ⟨base, leaked, hbase, hlen, hclean | ⟨sharedData, msrBitmap, ioBitmap, k, hk, hcount,
    ha⟩⟩ := hs.settled
  · rw [hclean.none i] at hp
    cases hp
  · have ha' := ha.store hs.vmms List.nodup_range hp hserved hcont (q := p) rfl
    exact ⟨hs.active, ⟨base, leaked, hbase, hlen, Or.inr ⟨_, _, _, k, hk, hcount, ha'⟩⟩,
      hs.vmms.store hp hserved hinv hcont p⟩

/-- A start that `VmHotplugCallback` asks for. -/
theorem Accounted.hotplug (pf : Platform B C) {k : ℕ}
    (ha : Accounted base sharedData msrBitmap ioBitmap (List.range k) sys) (hk : 0 < k)
    (hki : k ≤ i) (horder : (vmpStartVm pf sharedData i sys).1.isSuccess = true → i = k) :
    ∃ k', 0 < k' ∧ k' ≤ i + 1 ∧ Accounted base sharedData msrBitmap ioBitmap (List.range k')
      (vmpStartVm pf sharedData i sys).2 := by
  have hnone : sys.processors i = none := by
    rw [← Option.not_isSome_iff_eq_none, ha.held.virtualized i, List.mem_range]
    omega
  have hstarted := ha.initialize pf hnone
  rw [vmpStartVm_isSuccess] at horder
  rw [vmpStartVm]
  rcases hstarted with ⟨hok, ha'⟩ | ⟨-, -, hundone⟩ | ⟨-, -, ha'⟩
  · obtain rfl := horder hok
    refine ⟨i + 1, Nat.succ_pos _, le_rfl, ?_⟩
    rw [List.range_succ]
    exact ha'
  · refine ⟨k, hk, by omega, hundone.1 fun hnil => ?_⟩
    rw [List.range_eq_nil] at hnil
    omega
  · exact ⟨k, hk, by omega, ha'⟩

theorem PowerState.hotAdd (hs : PowerState start lost sys) (pf : Platform B C) (current : ℕ)
    (horder : (sys.hotAdd pf current).1.isSuccess = true →
      ∀ i < sys.activeProcessorCount, (sys.processors i).isSome = true) :
    PowerState start lost (sys.hotAdd pf current).2 := by
  obtain ⟨base, leaked, hbase, hlen, hsettled⟩ := hs.settled
  unfold System.hotAdd vmHotplugCallback at horder ⊢
  set sys₁ : System B C := { sys with activeProcessorCount := sys.activeProcessorCount + 1 }
    with hsys₁
  have hv₁ : Vmms sys₁ := ⟨hs.vmms.inv, hs.vmms.apart⟩
  cases hp : sys₁.processors current with
  | none =>
    simp only [utilVmCall_unserved _ _ _ hp, Option.map_none]
    refine ⟨Nat.succ_pos _, ⟨base, leaked, hbase, hlen, ?_⟩, hv₁⟩
    rcases hsettled with hclean | ⟨_, _, _, k, hk, hcount, ha⟩
    · exact Or.inl ⟨hclean.none, hclean.settled⟩
    · exact Or.inr ⟨_, _, _, k, hk, Nat.le_succ_of_le hcount, ha.activate _⟩
  | some p =>
    rcases hsettled with hclean | ⟨sharedData, msrBitmap, ioBitmap, k, hk, hcount, ha⟩
    · rw [show sys₁.processors current = none from hclean.none current] at hp
      cases hp
    have ha₁ := ha.activate (sys.activeProcessorCount + 1)
    rw [← hsys₁] at ha₁
    obtain ⟨hcall, -⟩ := utilVmCall_serves pf.machine .getSharedProcessorData (by decide)
      pf.localVariable hp
    obtain ⟨ha₂, hv₂⟩ := ha₁.vmCall hv₁ List.nodup_range pf.machine .getSharedProcessorData
      (by decide) pf.localVariable current
    have hcount₂ := utilVmCall_count pf.machine .getSharedProcessorData pf.localVariable current
      sys₁
    simp only [hcall, Option.map_some, hp, ha₁.users hp] at horder ha₂ hv₂ hcount₂ ⊢
    generalize System.store sys₁ current _ _ = sys₂ at horder ha₂ hv₂ hcount₂ ⊢
    obtain ⟨k', hk', hle, ha'⟩ := ha₂.hotplug pf hk hcount fun hok => by
      refine le_antisymm ?_ hcount
      by_contra hlt
      have hsome := horder hok k (Nat.lt_of_not_le hlt)
      rw [ha.held.virtualized k, List.mem_range] at hsome
      exact Nat.lt_irrefl k hsome
    have hnone : sys₂.processors sys.activeProcessorCount = none := by
      rw [← Option.not_isSome_iff_eq_none, ha₂.held.virtualized, List.mem_range]
      omega
    have hlast : (vmpStartVm pf sharedData sys.activeProcessorCount sys₂).2.activeProcessorCount =
        sys.activeProcessorCount + 1 := by
      rw [vmpStartVm, vmpInitializeVm_count, hcount₂]
    refine ⟨by rw [hlast]; exact Nat.succ_pos _,
      ⟨base, leaked, hbase, hlen, Or.inr ⟨_, _, _, k', hk', by rw [hlast]; exact hle, ha'⟩⟩, ?_⟩
    rw [vmpStartVm]
    exact ha₂.initialize_vmms pf hv₂ hnone

/-- Every event keeps the state. -/
theorem PowerState.step (hs : PowerState start lost sys) (h : PowerStep sys lost' sys') :
    PowerState start (lost + lost') sys' := by
  cases h with
  | load pf hfinds => exact hs.initialize pf hfinds
  | power pf argument1 argument2 hfinds =>
    by_cases h₁ : argument1 = poCbSystemStateLock
    · by_cases h₂ : argument2 = 0#64
      · rw [show powerCallbackpCallbackRoutine pf argument1 argument2 sys = vmTermination pf sys by
            simp [powerCallbackpCallbackRoutine, h₁, h₂],
          show blocksLostAt pf argument1 argument2 sys = 0 by simp [blocksLostAt, h₂]]
        exact (hs.terminate pf).1
      · rw [show powerCallbackpCallbackRoutine pf argument1 argument2 sys =
            (vmInitialization pf sys).2 by simp [powerCallbackpCallbackRoutine, h₁, h₂],
          show blocksLostAt pf argument1 argument2 sys = blocksLost pf sys by
            simp [blocksLostAt, h₁, h₂]]
        exact hs.initialize pf (hfinds h₁ h₂)
    · rw [show powerCallbackpCallbackRoutine pf argument1 argument2 sys = sys by
          simp [powerCallbackpCallbackRoutine, h₁],
        show blocksLostAt pf argument1 argument2 sys = 0 by simp [blocksLostAt, h₁]]
      exact hs
  | processorChange pf current state horder =>
    unfold System.processorChange hotplugCallbackpCallbackRoutine
    by_cases hstate : state = .addCompleteNotify
    · rw [if_neg (by simp [hstate]), if_pos hstate]
      exact hs.hotAdd pf current horder
    · rw [if_pos hstate, if_neg hstate]
      exact hs
  | exit m hp hstep hcont => exact hs.exit hp hstep hcont

theorem PowerState.run (hs : PowerState start lost sys) (h : PowerRun sys lost' sys') :
    PowerState start (lost + lost') sys' := by
  induction h with
  | refl => exact hs
  | tail _ hstep ih =>
    rw [← Nat.add_assoc]
    exact ih.step hstep

/-- Before the driver is loaded. -/
theorem PowerState.unloaded (hnone : ∀ i, sys.processors i = none)
    (hactive : 0 < sys.activeProcessorCount) : PowerState sys.heap.ledger 0 sys :=
  ⟨hactive, ⟨_, [], .refl _, rfl, Or.inl ⟨hnone, .refl _⟩⟩, .of_none hnone⟩

/-! ## Results -/

/-- Over any suspends, resumes, hot-adds and exits : a `VmTermination` at the end takes all
processors out of VMX operation, and the blocks the pool has not got back are as many as the run
left behind. So they are none if and only if every `VmInitialization` with shared data found
memory for its first processor. -/
theorem powerRun_unload (hnone : ∀ i, sys.processors i = none)
    (hactive : 0 < sys.activeProcessorCount) (hrun : PowerRun sys lost sys') (pf : Platform B C) :
    (∀ i, (vmTermination pf sys').processors i = none) ∧
      (∃ leaked, leaked.length = lost ∧
        Ledger.Holds sys.heap.ledger (vmTermination pf sys').heap.ledger leaked) ∧
      (CleanedUp sys.heap.ledger (vmTermination pf sys') ↔ lost = 0) := by
  have hs := (PowerState.unloaded hnone hactive).run hrun
  rw [Nat.zero_add] at hs
  obtain ⟨hend, hstopped⟩ := hs.terminate pf
  obtain ⟨leaked, hheld, hlen⟩ := hend.anew hstopped
  refine ⟨hstopped, ⟨leaked, hlen, hheld⟩, fun hclean => ?_, fun hlost => ⟨hstopped, ?_⟩⟩
  · have hcount := (hheld.live.symm.trans hclean.settled.live).length_eq
    rw [List.length_append, List.nil_append, hlen] at hcount
    omega
  · obtain rfl := List.length_eq_zero_iff.1 (hlen.trans hlost)
    exact hheld

end Power

/-! ## A resume without memory -/

/-- Two processors, after the driver was loaded. -/
def spiLoaded : System (BitVec 32) Unit :=
  (vmInitialization (spiPlatform (bumpPoolWithout 0x10000)) (freshSystem 2)).2

/-- They are suspended. -/
def spiSuspended : System (BitVec 32) Unit :=
  powerCallbackpCallbackRoutine (spiPlatform (bumpPoolWithout 0x10000)) poCbSystemStateLock 0
    spiLoaded

/-- Then the pool has no memory for the data of the first processor. -/
def dryPlatform : Platform (BitVec 32) Unit :=
  spiPlatform (dryPool (spiSuspended.heap.requests + 3))

theorem spiLoaded_run : PowerRun (freshSystem 2) 0 spiLoaded := by
  have hlost : 0 + blocksLost (spiPlatform (bumpPoolWithout 0x10000)) (freshSystem 2) = 0 := by
    decide +kernel
  rw [← hlost]
  exact .tail .refl (.load _ fun ⟨_, h⟩ => by cases h)

theorem spiSuspended_none (i : ℕ) : spiSuspended.processors i = none :=
  (((PowerState.unloaded (fun _ => rfl) (by decide)).run spiLoaded_run).terminate _).2 i

theorem spiResumed_run : PowerRun (freshSystem 2) 3
    (powerCallbackpCallbackRoutine dryPlatform poCbSystemStateLock 1 spiSuspended) := by
  have hinstalled : vmpIsDeviceMonInstalled dryPlatform spiSuspended = false := by
    rw [vmpIsDeviceMonInstalled, spiSuspended_none]
    rfl
  have hlost : blocksLostAt dryPlatform poCbSystemStateLock 1 spiSuspended = 3 := by
    have hdata : ∀ n, dryPlatform.machine.pool.data n =
        decide (n ≠ spiSuspended.heap.requests + 3) := fun _ => rfl
    have havailable : dryPlatform.vmxAvailable = true := rfl
    simp [blocksLostAt, blocksLost, hinstalled, havailable, hdata]
  have hsuspended : PowerRun (freshSystem 2) 0 spiSuspended :=
    .tail spiLoaded_run (.power _ poCbSystemStateLock 0 fun _ h => (h rfl).elim)
  rw [← hlost, ← Nat.zero_add (blocksLostAt _ _ _ _)]
  refine .tail hsuspended (.power _ _ _ fun _ _ h => ?_)
  obtain ⟨i, h⟩ := h
  rw [spiSuspended_none i] at h
  cases h

theorem powerRun_unload_dry : ¬CleanedUp (freshSystem 2).heap.ledger (vmTermination dryPlatform
    (powerCallbackpCallbackRoutine dryPlatform poCbSystemStateLock 1 spiSuspended)) := fun h =>
  absurd ((powerRun_unload (fun _ => rfl) (by decide) spiResumed_run dryPlatform).2.2.1 h)
    (by decide)

section Vmms

variable {B C : Type} {sys sys' : System B C} {lost : ℕ}

/-- In every state of a run the virtualized processors are the first ones and count as many
references to their shared data. Each VMM has the invariant of its exits, no two use the same page,
and an exit of one leaves the entries of all others. -/
theorem powerRun_vmms (hnone : ∀ i, sys.processors i = none)
    (hactive : 0 < sys.activeProcessorCount) (hrun : PowerRun sys lost sys') :
    (∃ k : ℕ, (∀ i, (sys'.processors i).isSome = true ↔ i < k) ∧
      ∀ i p, sys'.processors i = some p →
        (sys'.sharedMemory p.data.sharedData).referenceCount = k) ∧
      (∀ i p, sys'.processors i = some p → VmmInv (sys'.vmm p)) ∧
      (∀ i j p q, i ≠ j → sys'.processors i = some p → sys'.processors j = some q →
        ∀ f, sys'.Uses p f → ¬sys'.Uses q f) ∧
      ∀ (m : Machine B) (i : ℕ) (p : Processor B C) (reason : VmExitReason)
        (s₀ s' : VmmState B C), sys'.processors i = some p →
        ExitStep m reason (sys'.vmm p) s₀ s' →
        ∀ j q, j ≠ i → sys'.processors j = some q →
          ∀ page, ((sys'.store i p s').vmm q).ept.leaf page = (sys'.vmm q).ept.leaf page := by
  have hs := (PowerState.unloaded hnone hactive).run hrun
  refine ⟨?_, fun i p hp => hs.vmms.inv hp, fun i j p q hij hp hq => hs.vmms.apart hij hp hq, ?_⟩
  · obtain ⟨base, leaked, -, -, hclean | ⟨sharedData, msrBitmap, ioBitmap, k, -, -, ha⟩⟩ :=
      hs.settled
    · refine ⟨0, fun i => ?_, fun i p hp => ?_⟩
      · rw [hclean.none i]
        simp
      · rw [hclean.none i] at hp
        cases hp
    · refine ⟨k, fun i => (ha.held.virtualized i).trans List.mem_range, fun i p hp => ?_⟩
      rw [ha.users hp, ha.shared, List.length_range]
  · intro m i p reason s₀ s' hp hstep j q hj hq page
    obtain ⟨-, hserved⟩ := (hs.vmms.inv hp).exit_served hstep
    exact (hs.vmms.store_undisturbed hp hserved hj hq).leaf page

end Vmms

theorem spiLoaded_both : (spiLoaded.processors 0).isSome = true ∧
    (spiLoaded.processors 1).isSome = true := by
  decide +kernel

theorem powerRun_vmms_both : ∃ p q, spiLoaded.processors 0 = some p ∧
    spiLoaded.processors 1 = some q ∧ VmmInv (spiLoaded.vmm p) ∧
      ∀ f, spiLoaded.Uses p f → ¬spiLoaded.Uses q f := by
  obtain ⟨p, hp⟩ := Option.isSome_iff_exists.1 spiLoaded_both.1
  obtain ⟨q, hq⟩ := Option.isSome_iff_exists.1 spiLoaded_both.2
  obtain ⟨-, hinv, hapart, -⟩ := powerRun_vmms (fun _ => rfl) (by decide) spiLoaded_run
  exact ⟨p, q, hp, hq, hinv 0 p hp, hapart 0 1 p q (by decide) hp hq⟩

end DeviceMon
