import DeviceMon.DevMon

/-!
# Faults and their owners

The two scans of a fault against the recorded BARs. `DmIsMonitoredDevice` compares the
low 32 bits of the address, `DmExecuteCallback` all 64 (`matches_iff_of_lt`,
`monitored_iff_matches_iff`), and both count the limit of a BAR as part of it and read
only 32 bits of it (`matches_iff_of_placed`).

`DispatchesToOwner` is what the scans are for : a fault in a BAR reaches the callback of
the device that has the BAR, once, and no other. `dispatchesToOwner_iff` says when they do.
-/

namespace DeviceMon

section Dispatch

variable {C : Type} {devices : List (PciMonitorCfg C)} {cfg : PciMonitorCfg C}
  {a : BitVec 64} {j : Fin maxBarIndex} {i : ℕ}

/-! ## The monitored test -/

theorem toNat_low (x : BitVec 64) : ((x.setWidth 32).setWidth 64).toNat = x.toNat % 2 ^ 32 := by
  have := Nat.mod_lt x.toNat (show 0 < 2 ^ 32 by decide)
  rw [BitVec.toNat_setWidth, BitVec.toNat_setWidth]
  omega

/-- The low 32 bits of `a` are between those of the address and the limit of a BAR. -/
def PciMonitorCfg.Aliases (cfg : PciMonitorCfg C) (a : BitVec 64) (j : Fin maxBarIndex) : Prop :=
  (cfg.barAddress j).toNat % 2 ^ 32 ≤ a.toNat % 2 ^ 32 ∧
    a.toNat % 2 ^ 32 ≤ (cfg.barLimit j).toNat % 2 ^ 32

theorem isMonitoredDevice_iff :
    dmIsMonitoredDevice devices (a.setWidth 32) = true ↔
      ∃ cfg ∈ devices, ∃ j ∈ cfg.bars, cfg.Aliases a j := by
  simp only [dmIsMonitoredDevice, List.any_eq_true, decide_eq_true_eq, BitVec.le_def,
    BitVec.toNat_setWidth, PciMonitorCfg.Aliases]

theorem matches_iff :
    cfg.Matches a j ↔ (cfg.barAddress j).toNat % 2 ^ 32 ≤ a.toNat ∧
      a.toNat ≤ (cfg.barLimit j).toNat % 2 ^ 32 := by
  rw [PciMonitorCfg.Matches, BitVec.le_def, BitVec.le_def, toNat_low, toNat_low]

/-- Below 4 GiB the two tests of a BAR agree. -/
theorem matches_iff_of_lt (ha : a.toNat < 2 ^ 32) : cfg.Matches a j ↔ cfg.Aliases a j := by
  rw [matches_iff, PciMonitorCfg.Aliases, Nat.mod_eq_of_lt ha]

/-- From 4 GiB on no BAR matches. -/
theorem not_matches_of_le (ha : 2 ^ 32 ≤ a.toNat) : ¬cfg.Matches a j := by
  rw [matches_iff]
  have := Nat.mod_lt (cfg.barLimit j).toNat (show 0 < 2 ^ 32 by decide)
  omega

/-- The monitored test and the dispatcher agree on an address exactly when it is below 4 GiB
or its low half is in the low halves of no recorded BAR. -/
theorem monitored_iff_matches_iff (devices : List (PciMonitorCfg C)) (a : BitVec 64) :
    (dmIsMonitoredDevice devices (a.setWidth 32) = true ↔
        ∃ cfg ∈ devices, ∃ j ∈ cfg.bars, cfg.Matches a j) ↔
      a.toNat < 2 ^ 32 ∨ ∀ cfg ∈ devices, ∀ j ∈ cfg.bars, ¬cfg.Aliases a j := by
  rw [isMonitoredDevice_iff]
  constructor
  · intro h
    rcases Nat.lt_or_ge a.toNat (2 ^ 32) with ha | ha
    · exact Or.inl ha
    · refine Or.inr fun cfg hcfg j hj hal => ?_
      obtain ⟨cfg', -, j', -, hm⟩ := h.1 ⟨cfg, hcfg, j, hj, hal⟩
      exact not_matches_of_le ha hm
  · rintro (ha | hno)
    · simp only [matches_iff_of_lt ha]
    · rcases Nat.lt_or_ge a.toNat (2 ^ 32) with ha | ha
      · simp only [matches_iff_of_lt ha]
      · constructor
        · rintro ⟨cfg, hcfg, j, hj, hal⟩
          exact (hno cfg hcfg j hj hal).elim
        · rintro ⟨cfg, -, j, -, hm⟩
          exact (not_matches_of_le ha hm).elim

/-- The SPI controller with a BAR at `0xFED00000`. -/
def spiAt (address limit : BitVec 64) : PciMonitorCfg Unit :=
  spiDeviceInfo.record 0 address limit

/-- A fault 4 GiB above that BAR counts as monitored and matches nothing. -/
theorem monitored_above_4GiB :
    ¬∀ (devices : List (PciMonitorCfg Unit)) (a : BitVec 64),
      dmIsMonitoredDevice devices (a.setWidth 32) = true ↔
        ∃ cfg ∈ devices, ∃ j ∈ cfg.bars, cfg.Matches a j := by
  intro h
  have hmon : dmIsMonitoredDevice [spiAt 0xFED00000 0xFED01000]
      ((0x1FED00000 : BitVec 64).setWidth 32) = true := by decide
  obtain ⟨cfg, -, j, -, hm⟩ := (h _ _).1 hmon
  exact not_matches_of_le (by decide) hm

/-! ## The callbacks of a fault -/

/-- A device whose callback runs on a fault at `a`. -/
def PciMonitorCfg.Called (cfg : PciMonitorCfg C) (a : BitVec 64) : Prop :=
  (∃ j ∈ cfg.bars, cfg.Matches a j) ∧ cfg.callback.isSome

variable {ip : BitVec 64} {len access : BitVec 32} {r : CallbackRun C}

theorem step_of_not_called (h : ¬cfg.Called a) :
    dmExecuteCallbackStep ip a len access i cfg r = r := by
  unfold dmExecuteCallbackStep
  split_ifs with hm
  · cases hc : cfg.callback with
    | none => rfl
    | some callback =>
      refine (h ⟨?_, by rw [hc]; rfl⟩).elim
      simpa using hm
  · rfl

theorem step_of_called {callback : MmioCallback C} (hm : ∃ j ∈ cfg.bars, cfg.Matches a j)
    (hc : cfg.callback = some callback) :
    dmExecuteCallbackStep ip a len access i cfg r =
      ⟨(callback r.context ip a len access r.world).1,
        (callback r.context ip a len access r.world).2.1,
        (callback r.context ip a len access r.world).2.2, r.called ++ [i]⟩ := by
  unfold dmExecuteCallbackStep
  rw [if_pos (by simpa using hm), hc]

/-- A device that is called leaves its position on the record. -/
theorem mem_called_step (ip a : BitVec 64) (len access : BitVec 32) (i : ℕ)
    (cfg : PciMonitorCfg C) (r : CallbackRun C) (n : ℕ) :
    n ∈ (dmExecuteCallbackStep ip a len access i cfg r).called ↔
      n ∈ r.called ∨ n = i ∧ cfg.Called a := by
  by_cases h : cfg.Called a
  · obtain ⟨callback, hc⟩ := Option.isSome_iff_exists.1 h.2
    simp [step_of_called h.1 hc, h]
  · simp [step_of_not_called h, h]

/-- Device `n` of a list that starts at position `i` is its head or in its tail. -/
theorem called_at_cons (a : BitVec 64) (i n : ℕ) (cfg : PciMonitorCfg C)
    (devices : List (PciMonitorCfg C)) :
    (∃ cfg', i ≤ n ∧ (cfg :: devices)[n - i]? = some cfg' ∧ cfg'.Called a) ↔
      n = i ∧ cfg.Called a ∨
        ∃ cfg', i + 1 ≤ n ∧ devices[n - (i + 1)]? = some cfg' ∧ cfg'.Called a := by
  rcases Nat.lt_trichotomy n i with hlt | rfl | hlt
  · constructor
    · rintro ⟨cfg', hn, -⟩
      omega
    · rintro (⟨rfl, -⟩ | ⟨cfg', hn, -⟩) <;> omega
  · simp
  · rw [show n - i = n - (i + 1) + 1 by omega, List.getElem?_cons_succ]
    constructor
    · rintro ⟨cfg', -, hcall⟩
      exact Or.inr ⟨cfg', hlt, hcall⟩
    · rintro (⟨rfl, -⟩ | ⟨cfg', -, hcall⟩)
      · exact (lt_irrefl _ hlt).elim
      · exact ⟨cfg', hlt.le, hcall⟩

/-- The record after the loop : what was on it, and the devices that are called. -/
theorem mem_called_loop (ip a : BitVec 64) (len access : BitVec 32) (i : ℕ)
    (devices : List (PciMonitorCfg C)) (r : CallbackRun C) (n : ℕ) :
    n ∈ (dmExecuteCallbackLoop ip a len access i devices r).called ↔
      n ∈ r.called ∨ ∃ cfg, i ≤ n ∧ devices[n - i]? = some cfg ∧ cfg.Called a := by
  induction devices generalizing i r with
  | nil => simp [dmExecuteCallbackLoop]
  | cons cfg devices ih =>
    rw [dmExecuteCallbackLoop, ih, mem_called_step, called_at_cons, or_assoc]

theorem loop_of_not_called (h : ∀ cfg ∈ devices, ¬cfg.Called a) :
    dmExecuteCallbackLoop ip a len access i devices r = r := by
  induction devices generalizing i r with
  | nil => rfl
  | cons cfg devices ih =>
    rw [dmExecuteCallbackLoop, step_of_not_called (h cfg List.mem_cons_self),
      ih fun cfg' hcfg' => h cfg' (List.mem_cons_of_mem _ hcfg')]

/-- With one device called, the loop is one call of its callback. -/
theorem loop_of_called_once {n : ℕ} {callback : MmioCallback C} (hn : devices[n]? = some cfg)
    (hm : ∃ j ∈ cfg.bars, cfg.Matches a j) (hc : cfg.callback = some callback)
    (honly : ∀ n' cfg', n' ≠ n → devices[n']? = some cfg' → ¬cfg'.Called a) :
    dmExecuteCallbackLoop ip a len access i devices r =
      ⟨(callback r.context ip a len access r.world).1,
        (callback r.context ip a len access r.world).2.1,
        (callback r.context ip a len access r.world).2.2, r.called ++ [i + n]⟩ := by
  induction devices generalizing i r n with
  | nil => simp at hn
  | cons cfg' devices ih =>
    rw [dmExecuteCallbackLoop]
    cases n with
    | zero =>
      obtain rfl := Option.some.inj hn
      rw [step_of_called hm hc, loop_of_not_called, Nat.add_zero]
      intro cfg'' hcfg''
      obtain ⟨n', hn'⟩ := List.mem_iff_getElem?.1 hcfg''
      exact honly (n' + 1) cfg'' (by omega) hn'
    | succ n =>
      rw [step_of_not_called (honly 0 cfg' (by omega) rfl), ih hn
        fun n' cfg'' hne hn' => honly (n' + 1) cfg'' (by omega) hn']
      rw [show i + 1 + n = i + (n + 1) by omega]

/-! ## Dispatch to the owner -/

/-- `a` is in the recorded range of BAR `j`. -/
def PciMonitorCfg.InBar (cfg : PciMonitorCfg C) (a : BitVec 64) (j : Fin maxBarIndex) : Prop :=
  cfg.barAddress j ≤ a ∧ a < cfg.barLimit j

/-- A BAR was never recorded, or its range is not empty, above 0 and below 4 GiB. -/
def PciMonitorCfg.Placed (cfg : PciMonitorCfg C) (j : Fin maxBarIndex) : Prop :=
  cfg.barAddress j = 0 ∧ cfg.barLimit j = 0 ∨
    0 < (cfg.barAddress j).toNat ∧ cfg.barAddress j < cfg.barLimit j ∧
      (cfg.barLimit j).toNat ≤ 2 ^ 32

instance (cfg : PciMonitorCfg C) (j : Fin maxBarIndex) : Decidable (cfg.Placed j) :=
  inferInstanceAs (Decidable (_ ∧ _ ∨ _ ∧ _ ∧ _))

/-- A monitor list whose BARs are placed and share no address. -/
structure PlacedList (devices : List (PciMonitorCfg C)) : Prop where
  placed : ∀ cfg ∈ devices, ∀ j ∈ cfg.bars, cfg.Placed j
  disjoint : ∀ {i i' : ℕ} {cfg cfg' : PciMonitorCfg C} {j j' : Fin maxBarIndex} {a : BitVec 64},
    devices[i]? = some cfg → devices[i']? = some cfg' → j ∈ cfg.bars → j' ∈ cfg'.bars →
      cfg.InBar a j → cfg'.InBar a j' → i = i' ∧ j = j'

/-- A placed BAR matches the addresses below its limit, unless that is 4 GiB, and its limit. -/
theorem matches_iff_of_placed (hp : cfg.Placed j) (ha : a.toNat < 2 ^ 32) :
    cfg.Matches a j ↔
      cfg.InBar a j ∧ (cfg.barLimit j).toNat ≠ 2 ^ 32 ∨ cfg.barLimit j = a := by
  rw [matches_iff, PciMonitorCfg.InBar, BitVec.le_def, BitVec.lt_def,
    ← BitVec.toNat_inj (x := cfg.barLimit j)]
  rcases hp with ⟨h1, h2⟩ | ⟨h1, h2, h3⟩
  · rw [h1, h2]
    have hz : (0 : BitVec 64).toNat = 0 := rfl
    omega
  · rw [BitVec.lt_def] at h2
    omega

/-- What the scans are for. A fault in BAR `j` of device `i` counts as monitored and is one
call of the callback of device `i`; a fault in no BAR is not monitored and calls nobody. -/
structure DispatchesToOwner (devices : List (PciMonitorCfg C)) (context : GpRegisters)
    (ip a : BitVec 64) (len access : BitVec 32) (world : C) : Prop where
  owner : ∀ {i : ℕ} {cfg : PciMonitorCfg C} {j : Fin maxBarIndex},
    devices[i]? = some cfg → j ∈ cfg.bars → cfg.InBar a j →
    dmIsMonitoredDevice devices (a.setWidth 32) = true ∧
      ∃ callback, cfg.callback = some callback ∧
        dmExecuteCallback devices context ip a len access world =
          ⟨(callback context ip a len access world).1,
            (callback context ip a len access world).2.1,
            (callback context ip a len access world).2.2, [i]⟩
  nobody : (∀ cfg ∈ devices, ∀ j ∈ cfg.bars, ¬cfg.InBar a j) →
    dmIsMonitoredDevice devices (a.setWidth 32) = false ∧
      (dmExecuteCallback devices context ip a len access world).called = []

/-- When they do. In a BAR of device `i` : the device has a callback, the limit of the BAR is
not 4 GiB or `a` is the limit of another BAR of the device, and `a` is the limit of no BAR of
another device with a callback. In no BAR : `a` is the limit of none. -/
structure DispatchCondition (devices : List (PciMonitorCfg C)) (a : BitVec 64) : Prop where
  owner : ∀ {i : ℕ} {cfg : PciMonitorCfg C} {j : Fin maxBarIndex},
    devices[i]? = some cfg → j ∈ cfg.bars → cfg.InBar a j →
    cfg.callback.isSome ∧
      ((cfg.barLimit j).toNat ≠ 2 ^ 32 ∨ ∃ j' ∈ cfg.bars, cfg.barLimit j' = a) ∧
      ∀ i' cfg', i' ≠ i → devices[i']? = some cfg' → cfg'.callback.isSome →
        ∀ j' ∈ cfg'.bars, cfg'.barLimit j' ≠ a
  nobody : (∀ cfg ∈ devices, ∀ j ∈ cfg.bars, ¬cfg.InBar a j) →
    ∀ cfg ∈ devices, ∀ j ∈ cfg.bars, cfg.barLimit j ≠ a

theorem isMonitoredDevice_of_matches (ha : a.toNat < 2 ^ 32) :
    dmIsMonitoredDevice devices (a.setWidth 32) = true ↔
      ∃ cfg ∈ devices, ∃ j ∈ cfg.bars, cfg.Matches a j := by
  simp only [isMonitoredDevice_iff, matches_iff_of_lt ha]

namespace PlacedList

theorem matches_iff (hl : PlacedList devices) (ha : a.toNat < 2 ^ 32) (hi : devices[i]? = some cfg)
    (hj : j ∈ cfg.bars) : cfg.Matches a j ↔
      cfg.InBar a j ∧ (cfg.barLimit j).toNat ≠ 2 ^ 32 ∨ cfg.barLimit j = a :=
  matches_iff_of_placed (hl.placed _ (List.mem_of_getElem? hi) _ hj) ha

/-- Another device with a matching BAR has its limit at `a`. -/
theorem limit_of_matches (hl : PlacedList devices) (ha : a.toNat < 2 ^ 32) {i' : ℕ}
    {cfg' : PciMonitorCfg C} {j' : Fin maxBarIndex} (hi : devices[i]? = some cfg)
    (hj : j ∈ cfg.bars) (hin : cfg.InBar a j) (hi' : devices[i']? = some cfg') (hne : i' ≠ i)
    (hj' : j' ∈ cfg'.bars) (hm : cfg'.Matches a j') : cfg'.barLimit j' = a := by
  rcases (hl.matches_iff ha hi' hj').1 hm with ⟨hin', -⟩ | hlim
  · exact (hne (hl.disjoint hi' hi hj' hj hin' hin).1).elim
  · exact hlim

variable {context : GpRegisters} {world : C}

/-- If the one call of a run is device `i`, then device `i` alone has a callback and a BAR that
matches. -/
theorem called_iff_of_run {ret : Bool × GpRegisters × C}
    (hrun : dmExecuteCallback devices context ip a len access world =
      ⟨ret.1, ret.2.1, ret.2.2, [i]⟩) (n : ℕ) :
    (∃ cfg, devices[n]? = some cfg ∧ cfg.Called a) ↔ n = i := by
  have hmem := mem_called_loop ip a len access 0 devices ⟨false, context, world, []⟩ n
  rw [show dmExecuteCallbackLoop ip a len access 0 devices ⟨false, context, world, []⟩ = _
    from hrun] at hmem
  simpa using hmem.symm

/-- Dispatch to the owner needs the condition. -/
theorem condition_of_dispatches (hl : PlacedList devices) (ha : a.toNat < 2 ^ 32)
    (hd : DispatchesToOwner devices context ip a len access world) :
    DispatchCondition devices a := by
  refine ⟨?_, ?_⟩
  · intro i cfg j hi hj hin
    obtain ⟨-, callback, hc, hrun⟩ := hd.owner hi hj hin
    have hcalled := called_iff_of_run hrun
    obtain ⟨cfg', hi', ⟨j', hj', hm'⟩, -⟩ := (hcalled i).2 rfl
    obtain rfl := Option.some.inj (hi.symm.trans hi')
    refine ⟨by rw [hc]; rfl, ?_, ?_⟩
    · rcases (hl.matches_iff ha hi hj').1 hm' with ⟨hin', hlim⟩ | hlim
      · obtain rfl := (hl.disjoint hi hi hj hj' hin hin').2
        exact Or.inl hlim
      · exact Or.inr ⟨j', hj', hlim⟩
    · intro n cfg' hne hn hcb j' hj' hlim
      have hm : cfg'.Matches a j' := (hl.matches_iff ha hn hj').2 (Or.inr hlim)
      exact hne ((hcalled n).1 ⟨cfg', hn, ⟨j', hj', hm⟩, hcb⟩)
  · intro hno cfg hcfg j hj hlim
    obtain ⟨i, hi⟩ := List.mem_iff_getElem?.1 hcfg
    have hmon := (isMonitoredDevice_of_matches ha).2
      ⟨cfg, hcfg, j, hj, (hl.matches_iff ha hi hj).2 (Or.inr hlim)⟩
    rw [(hd.nobody hno).1] at hmon
    cases hmon

/-- The condition is enough. -/
theorem dispatches_of_condition (hl : PlacedList devices) (ha : a.toNat < 2 ^ 32)
    (hc : DispatchCondition devices a) :
    DispatchesToOwner devices context ip a len access world := by
  refine ⟨?_, ?_⟩
  · intro i cfg j hi hj hin
    obtain ⟨hcb, hown, hother⟩ := hc.owner hi hj hin
    obtain ⟨callback, hcallback⟩ := Option.isSome_iff_exists.1 hcb
    have hm : ∃ j ∈ cfg.bars, cfg.Matches a j := by
      rcases hown with hlim | ⟨j', hj', hlim⟩
      · exact ⟨j, hj, (hl.matches_iff ha hi hj).2 (Or.inl ⟨hin, hlim⟩)⟩
      · exact ⟨j', hj', (hl.matches_iff ha hi hj').2 (Or.inr hlim)⟩
    refine ⟨(isMonitoredDevice_of_matches ha).2 ⟨cfg, List.mem_of_getElem? hi, hm⟩,
      callback, hcallback, ?_⟩
    rw [dmExecuteCallback, loop_of_called_once hi hm hcallback, List.nil_append, Nat.zero_add]
    rintro n cfg' hne hn ⟨⟨j', hj', hm'⟩, hcb'⟩
    exact hother n cfg' hne hn hcb' j' hj' (hl.limit_of_matches ha hi hj hin hn hne hj' hm')
  · intro hno
    have hnm : ∀ cfg ∈ devices, ∀ j ∈ cfg.bars, ¬cfg.Matches a j := by
      intro cfg hcfg j hj hm
      obtain ⟨i, hi⟩ := List.mem_iff_getElem?.1 hcfg
      rcases (hl.matches_iff ha hi hj).1 hm with ⟨hin, -⟩ | hlim
      · exact hno cfg hcfg j hj hin
      · exact hc.nobody hno cfg hcfg j hj hlim
    refine ⟨Bool.eq_false_iff.2 fun hmon => ?_, ?_⟩
    · obtain ⟨cfg, hcfg, j, hj, hm⟩ := (isMonitoredDevice_of_matches ha).1 hmon
      exact hnm cfg hcfg j hj hm
    · rw [dmExecuteCallback, loop_of_not_called]
      rintro cfg hcfg ⟨⟨j, hj, hm⟩, -⟩
      exact hnm cfg hcfg j hj hm

end PlacedList

/-- For disjoint BARs below 4 GiB and a fault below 4 GiB, the scans dispatch to the owner
exactly under `DispatchCondition` : neither the inclusive limit of a BAR that is not the
owner's nor a BAR that ends at 4 GiB gets in the way. -/
theorem dispatchesToOwner_iff (hl : PlacedList devices) (ha : a.toNat < 2 ^ 32)
    (context : GpRegisters) (ip : BitVec 64) (len access : BitVec 32) (world : C) :
    DispatchesToOwner devices context ip a len access world ↔ DispatchCondition devices a :=
  ⟨hl.condition_of_dispatches ha, hl.dispatches_of_condition ha⟩

/-- The SPI controller and a management engine with adjacent one-page BARs. -/
def adjacentDevices : List (PciMonitorCfg Unit) :=
  [spiAt 0xFED00000 0xFED01000, (intelMeDeviceInfo 0).record 0 0xFED01000 0xFED02000]

theorem adjacentDevices_inBar {cfg : PciMonitorCfg Unit} (hi : adjacentDevices[i]? = some cfg)
    (hj : j ∈ cfg.bars) :
    j = 0 ∧ (i = 0 ∧ (cfg.InBar a j → a < 0xFED01000) ∨
      i = 1 ∧ (cfg.InBar a j → 0xFED01000 ≤ a)) := by
  have hbars : ∀ cfg ∈ adjacentDevices, cfg.bars = [0] := by decide
  rw [hbars cfg (List.mem_of_getElem? hi), List.mem_singleton] at hj
  obtain rfl := hj
  rcases i with _ | _ | i
  · obtain rfl := Option.some.inj hi
    exact ⟨rfl, Or.inl ⟨rfl, fun h => h.2⟩⟩
  · obtain rfl := Option.some.inj hi
    exact ⟨rfl, Or.inr ⟨rfl, fun h => h.1⟩⟩
  · simp [adjacentDevices] at hi

theorem adjacentDevices_placed : PlacedList adjacentDevices where
  placed := by decide
  disjoint := by
    intro i i' cfg cfg' j j' a hi hi' hj hj' hin hin'
    obtain ⟨rfl, h⟩ := adjacentDevices_inBar hi hj (a := a)
    obtain ⟨rfl, h'⟩ := adjacentDevices_inBar hi' hj' (a := a)
    refine ⟨?_, rfl⟩
    rcases h with ⟨rfl, h⟩ | ⟨rfl, h⟩ <;> rcases h' with ⟨rfl, h'⟩ | ⟨rfl, h'⟩
    · rfl
    · exact (BitVec.not_le.2 (h hin) (h' hin')).elim
    · exact (BitVec.not_le.2 (h' hin') (h hin)).elim
    · rfl

/-- The adjacent BARs and a fault in the first. -/
theorem dispatchesToOwner_iff_adjacent :
    DispatchesToOwner adjacentDevices default 0 0xFED00004 4 1 () ↔
      DispatchCondition adjacentDevices 0xFED00004 :=
  dispatchesToOwner_iff adjacentDevices_placed (by decide) default 0 4 1 ()

/-- A fault on the first byte of the second BAR also calls the owner of the first. -/
theorem adjacent_calls_both :
    ¬∀ (devices : List (PciMonitorCfg Unit)) (context : GpRegisters) (ip a : BitVec 64)
        (len access : BitVec 32), PlacedList devices → a.toNat < 2 ^ 32 →
      DispatchesToOwner devices context ip a len access () := by
  intro hall
  have hd := hall adjacentDevices default 0 0xFED01000 4 1 adjacentDevices_placed (by decide)
  obtain ⟨-, callback, -, hrun⟩ := hd.owner (i := 1) rfl (j := 0) (by decide) ⟨by decide, by decide⟩
  have hcalled : (dmExecuteCallback adjacentDevices default 0 0xFED01000 4 1 ()).called = [0, 1] :=
    rfl
  rw [hrun] at hcalled
  cases hcalled

end Dispatch

end DeviceMon
