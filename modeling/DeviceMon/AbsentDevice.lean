import DeviceMon.BarInfo
import DeviceMon.MonitorCalls

/-!
# Functions that are not there

A function that is absent answers all ones to every read. The probed size is then
`0x10` and a register reads as `0xFFFFFFF0`, which no test of `DmInitBarInfo` knows. Only
the join of `IntelMeHandleBarCallback` makes an address that "PCIBar Found Error" rejects;
every other BAR with a register (`unfilteredBars`) is taken for a range of 16 bytes at
`0xFFFFFFF0`, and its page is trapped. So the turn of an absent function in
`DmEnableDeviceMonitor` leaves the leaves alone exactly when it has no such BAR, the page
was trapped before, or the page has no leaf and every try to map it is refused
(`absent_ignored_iff`).
-/

namespace DeviceMon

section Absent

variable {B C : Type} {bus : PciBus B} {cfg : PciMonitorCfg C}

/-! ## What is read -/

/-- Every read of a register of the function answers all ones. -/
def AbsentFunction (bus : PciBus B) (cfg : PciMonitorCfg C) : Prop :=
  ∀ off b, (bus.read (cfgAccess cfg.busNumber cfg.deviceNum cfg.funcNum off 4) b).1 = 0xFFFFFFFF

theorem AbsentFunction.run_readPCICfg (h : AbsentFunction bus cfg) (off : BitVec 8) (b : B) :
    ((readPCICfg cfg.busNumber cfg.deviceNum cfg.funcNum off 4).run bus b).1 = 0xFFFFFFFF :=
  h off b

theorem AbsentFunction.run_dmGetDeviceBarSize (h : AbsentFunction bus cfg) (off : BitVec 8)
    (b : B) :
    ((dmGetDeviceBarSize cfg.busNumber cfg.deviceNum cfg.funcNum off).run bus b).1 = 0x10 := by
  simp only [dmGetDeviceBarSize, IoProg.run_bind, h.run_readPCICfg, IoProg.run_pure]
  decide

theorem AbsentFunction.run_dmGetDeviceBarAddress (h : AbsentFunction bus cfg) (off : BitVec 8)
    (b : B) :
    ((dmGetDeviceBarAddress cfg.busNumber cfg.deviceNum cfg.funcNum off).run bus b).1 =
      0xFFFFFFF0 := by
  simp only [dmGetDeviceBarAddress, IoProg.run_bind, h.run_readPCICfg, IoProg.run_pure]
  decide

/-- The address the all-ones answers for BAR `barIndex` stand for. -/
def PciMonitorCfg.allOnesAddress (cfg : PciMonitorCfg C) (barOffsetIndex : ℕ)
    (barIndex : Fin maxBarIndex) : BitVec 64 :=
  if cfg.Is64Bit barIndex ∧ barOffsetIndex + 1 < maxBarIndex then
    cfg.callback2.elim 0xFFFFFFF0 fun callback2 => callback2 0xFFFFFFF0 0xFFFFFFF0
  else 0xFFFFFFF0

theorem AbsentFunction.run_dmInitBarInfo (h : AbsentFunction bus cfg) (k : ℕ)
    (i : Fin maxBarIndex) (b : B) :
    ((dmInitBarInfo cfg k i).run bus b).1 =
      if k < maxBarIndex then cfg.recordInfo i 0x10 (cfg.allOnesAddress k i) else cfg := by
  have hsize : (0x10 : BitVec 32) ≠ 0 := by decide
  have hite : ∀ (p : Prop) [Decidable p] (x y : PciMonitorCfg C) (b : B),
      ((if p then pure x else pure y : CfgProg _).run bus b).1 = if p then x else y := by
    intro p _ x y b
    split_ifs <;> rfl
  have hget : ∀ hsome : cfg.callback2.isSome = true,
      cfg.callback2.get hsome 0xFFFFFFF0 0xFFFFFFF0 =
        cfg.callback2.elim 0xFFFFFFF0 fun callback2 => callback2 0xFFFFFFF0 0xFFFFFFF0 := by
    generalize cfg.callback2 = callback2
    cases callback2 with
    | none => exact fun hsome => (Bool.false_ne_true hsome).elim
    | some callback2 => exact fun _ => rfl
  unfold dmInitBarInfo PciMonitorCfg.allOnesAddress
  split_ifs with hk h64
  · rw [IoProg.run_bind, h.run_dmGetDeviceBarSize, if_neg hsize, IoProg.run_bind,
      h.run_dmGetDeviceBarAddress]
    simp only [IoProg.run_bind, h.run_dmGetDeviceBarAddress, IoProg.run_pure, hget,
      PciMonitorCfg.recordInfo, hsize, false_or]
    exact hite _ _ _ _
  · rw [IoProg.run_bind, h.run_dmGetDeviceBarSize, if_neg hsize, IoProg.run_bind,
      h.run_dmGetDeviceBarAddress]
    simp only [IoProg.run_bind, IoProg.run_pure, PciMonitorCfg.recordInfo, hsize, false_or]
    exact hite _ _ _ _
  · rfl

/-! ## The filters -/

/-- The callbacks of the driver that join registers. -/
def PciMonitorCfg.JoinsRegisters (cfg : PciMonitorCfg C) : Prop :=
  ∀ i, cfg.Is64Bit i → cfg.callback2 = some intelMeHandleBarCallback ∨
    cfg.callback2 = some intelNicHandleBarCallback

/-- BAR `i` has a register, and the all-ones answers for it pass every test. -/
def PciMonitorCfg.Unfiltered (cfg : PciMonitorCfg C) (barOffsetIndex : ℕ)
    (i : Fin maxBarIndex) : Prop :=
  barOffsetIndex < maxBarIndex ∧
    ¬(cfg.Is64Bit i ∧ barOffsetIndex + 1 < maxBarIndex ∧
      cfg.callback2 = some intelMeHandleBarCallback)

open scoped Classical in
/-- The unfiltered ones among `bars`, whose registers start at `barOffsetIndex`. -/
noncomputable def PciMonitorCfg.unfilteredBars (cfg : PciMonitorCfg C) :
    List (Fin maxBarIndex) → ℕ → List (Fin maxBarIndex)
  | [], _ => []
  | i :: bars, k =>
    let rest := cfg.unfilteredBars bars ((if cfg.Is64Bit i then k + 1 else k) + 1)
    if cfg.Unfiltered k i then i :: rest else rest

/-- The range an unfiltered BAR is taken for. -/
def allOnesRange : BarRange :=
  (0xFFFFFFF0, 0x10)

theorem PciMonitorCfg.JoinsRegisters.allOnesAddress (hj : cfg.JoinsRegisters) {k : ℕ}
    {i : Fin maxBarIndex} :
    (cfg.Unfiltered k i → cfg.allOnesAddress k i = 0xFFFFFFF0) ∧
      (k < maxBarIndex → ¬cfg.Unfiltered k i →
        cfg.allOnesAddress k i = 0xFFFFFFF0FFFFFFF0) := by
  unfold PciMonitorCfg.allOnesAddress PciMonitorCfg.Unfiltered
  constructor
  · rintro ⟨-, hme⟩
    split_ifs with h64
    · rcases hj i h64.1 with hcb | hcb
      · exact (hme ⟨h64.1, h64.2, hcb⟩).elim
      · rw [hcb]
        rfl
    · rfl
  · intro hk hun
    obtain ⟨h64, hk', hcb⟩ := not_not.1 (not_and.1 hun hk)
    rw [if_pos ⟨h64, hk'⟩, hcb]
    decide

/-- "PCIBar Found Error" rejects what is recorded for a filtered BAR, and lets an unfiltered
one pass as `allOnesRange`. -/
theorem PciMonitorCfg.JoinsRegisters.foundError_iff (hj : cfg.JoinsRegisters) {k : ℕ}
    {i : Fin maxBarIndex} (hz : cfg.barAddress i = 0) {cfg' : PciMonitorCfg C}
    (hcfg' : (if k < maxBarIndex then cfg.recordInfo i 0x10 (cfg.allOnesAddress k i) else cfg) =
      cfg') :
    (cfg'.FoundError i ↔ ¬cfg.Unfiltered k i) ∧
      (cfg.Unfiltered k i → (cfg'.barAddress i, cfg'.barSize i) = allOnesRange) := by
  obtain ⟨hopen, hme⟩ := hj.allOnesAddress (k := k) (i := i)
  by_cases hk : k < maxBarIndex
  · rw [if_pos hk] at hcfg'
    by_cases hun : cfg.Unfiltered k i
    · rw [hopen hun, PciMonitorCfg.recordInfo, if_neg (by decide)] at hcfg'
      subst hcfg'
      simp only [PciMonitorCfg.FoundError, PciMonitorCfg.record, PciMonitorCfg.barSize,
        Function.update_self, hun]
      decide
    · rw [hme hk hun, PciMonitorCfg.recordInfo, if_neg (by decide)] at hcfg'
      subst hcfg'
      refine ⟨?_, fun h => (hun h).elim⟩
      simp only [PciMonitorCfg.FoundError, PciMonitorCfg.record, Function.update_self, hun]
      decide
  · have hun : ¬cfg.Unfiltered k i := fun h => hk h.1
    rw [if_neg hk] at hcfg'
    subst hcfg'
    exact ⟨⟨fun _ => hun, fun _ => Or.inl hz⟩, fun h => (hun h).elim⟩

/-! ## The turn of an absent function -/

/-- The scan of an absent function notes `allOnesRange` once for each unfiltered BAR. -/
theorem AbsentFunction.run_dmScanBars (h : AbsentFunction bus cfg) (hj : cfg.JoinsRegisters) :
    ∀ (bars : List (Fin maxBarIndex)) (k : ℕ) (a l : Fin maxBarIndex → BitVec 64)
      (ranges : List BarRange) (b : B), bars.Nodup → (∀ i ∈ bars, a i = 0) →
      ((dmScanBars (fun address size ranges => ranges ++ [(address, size)]) bars k
        { cfg with barAddress := a, barLimit := l } ranges).run bus b).1.2 =
        ranges ++ List.replicate (cfg.unfilteredBars bars k).length allOnesRange := by
  intro bars
  induction bars with
  | nil => exact fun _ _ _ _ _ _ _ => (List.append_nil _).symm
  | cons i bars ih =>
    intro k a l ranges b hnd hz
    obtain ⟨hi, hnd⟩ := List.nodup_cons.1 hnd
    set cfg' : PciMonitorCfg C := { cfg with barAddress := a, barLimit := l } with hcfg'
    have habs : AbsentFunction bus cfg' := h
    rw [dmScanBars, IoProg.run_bind, habs.run_dmInitBarInfo]
    generalize hr : (if k < maxBarIndex then
      cfg'.recordInfo i 0x10 (cfg'.allOnesAddress k i) else cfg') = r
    have hj' : cfg'.JoinsRegisters := hj
    obtain ⟨herr, hrange⟩ := hj'.foundError_iff (hz i List.mem_cons_self) hr
    -- the later BARs still have zero records
    have hform : ∃ a' l', r = { cfg with barAddress := a', barLimit := l' } ∧
        ∀ j ∈ bars, a' j = 0 := by
      have hz' : ∀ j ∈ bars, a j = 0 := fun j hj => hz j (List.mem_cons_of_mem _ hj)
      rw [← hr, PciMonitorCfg.recordInfo]
      split_ifs
      · exact ⟨a, l, rfl, hz'⟩
      · refine ⟨_, _, rfl, fun j hj => ?_⟩
        rw [Function.update_of_ne (by rintro rfl; exact hi hj)]
        exact hz' j hj
      · exact ⟨a, l, rfl, hz'⟩
    obtain ⟨a', l', rfl, hz'⟩ := hform
    by_cases hun : cfg.Unfiltered k i
    · rw [if_neg fun he => herr.1 he hun, ih _ a' l' _ _ hnd hz', hrange hun,
        PciMonitorCfg.unfilteredBars, if_pos hun, List.length_cons, List.replicate_succ,
        List.append_assoc]
      rfl
    · rw [if_pos (herr.2 hun), ih _ a' l' _ _ hnd hz', PciMonitorCfg.unfilteredBars, if_neg hun]
      rfl

/-- A call on two lists is a call on the first and then one on the second. -/
theorem run_dmScanDevices_append {S : Type} (pages : BitVec 64 → BitVec 32 → S → S)
    (devices devices' : List (PciMonitorCfg C)) (s : S) (b : B) :
    ((dmScanDevices pages (devices ++ devices') s).run bus b).1.2 =
      ((dmScanDevices pages devices' ((dmScanDevices pages devices s).run bus b).1.2).run bus
        ((dmScanDevices pages devices s).run bus b).2).1.2 := by
  induction devices generalizing s b with
  | nil => rfl
  | cons cfg devices ih =>
    simp only [List.cons_append, dmScanDevices, IoProg.run_bind, IoProg.run_pure]
    exact ih _ _

/-- The tables when `DmEnableDeviceMonitor` comes to device `i` of its list. -/
def enableTurn (pool : Pool) (mtrr : Mtrr) (bus : PciBus B) (b : B)
    (devices : List (PciMonitorCfg C)) (s : EptState) (i : ℕ) : EptState :=
  ((dmEnableDeviceMonitor pool mtrr (devices.take i) s).run bus b).1.2

theorem enableTurn_length (pool : Pool) (mtrr : Mtrr) (b : B) (devices : List (PciMonitorCfg C))
    (s : EptState) : enableTurn pool mtrr bus b devices s devices.length =
      ((dmEnableDeviceMonitor pool mtrr devices s).run bus b).1.2 := by
  rw [enableTurn, List.take_length]

/-- The turn of an absent function runs the page loop on `allOnesRange`, once for each
unfiltered BAR. -/
theorem enableTurn_succ (pool : Pool) (mtrr : Mtrr) (b : B) (devices : List (PciMonitorCfg C))
    (s : EptState) {i : ℕ} (hi : i < devices.length) (h : AbsentFunction bus devices[i])
    (hj : devices[i].JoinsRegisters) (hz : devices[i].barAddress = 0) :
    enableTurn pool mtrr bus b devices s (i + 1) =
      onRanges (invalidateEptPages pool mtrr)
        (List.replicate (devices[i].unfilteredBars devices[i].bars 0).length allOnesRange)
        (enableTurn pool mtrr bus b devices s i) := by
  have hnd : devices[i].bars.Nodup := (List.nodup_finRange _).filter _
  have hscan := fun b => h.run_dmScanBars hj devices[i].bars 0 devices[i].barAddress
    devices[i].barLimit [] b hnd fun j _ => congrFun hz j
  unfold enableTurn dmEnableDeviceMonitor
  rw [List.take_succ_eq_append_getElem hi, run_dmScanDevices_append, dmScanDevices,
    IoProg.run_bind]
  generalize ((dmScanDevices (invalidateEptPages pool mtrr) (devices.take i) s).run bus b) = r
  have hturn : (dmScanBars (invalidateEptPages pool mtrr) devices[i].bars 0 devices[i] r.1.2).run
      bus r.2 = _ :=
    run_dmScanBars (invalidateEptPages pool mtrr) r.1.2 devices[i].bars 0 devices[i] [] r.2
  rw [hturn]
  simp only [hscan, List.nil_append]
  rfl

end Absent

/-! ## The page -/

/-- The page of `allOnesRange`, the last one below 4 GiB. -/
def topPage : Page := 0xFFFFF

/-- The next `n` tries to map the page of `allOnesRange` are all refused a table. -/
def RefusedTries (pool : Pool) (mtrr : Mtrr) : ℕ → EptState → Prop
  | 0, _ => True
  | n + 1, s => (eptpMapGpaToHpa pool mtrr 0xFFFFFFF0 s).1 = none ∧
      RefusedTries pool mtrr n (eptpMapGpaToHpa pool mtrr 0xFFFFFFF0 s).2

section TopPage

variable {s : EptState} (pool : Pool) (mtrr : Mtrr)

theorem pageOf_allOnes : pageOf 0xFFFFFFF0 = topPage := by
  decide

/-- The range is one round. -/
theorem invalidateEptPages_allOnes (s : EptState) :
    invalidateEptPages pool mtrr allOnesRange.1 allOnesRange.2 s =
      (invalidateEptPage pool mtrr 0xFFFFFFF0 s).2 := by
  have hspan : addressAndSizeToSpanPages allOnesRange.2 = 1 := by decide
  have hcursor : (allOnesRange.1.setWidth 32).setWidth 64 = (0xFFFFFFF0 : BitVec 64) := by decide
  rw [invalidateEptPages, hspan, invalidateEptPagesLoop, hcursor]
  generalize invalidateEptPage pool mtrr 0xFFFFFFF0 s = r
  obtain ⟨ok, s₁⟩ := r
  cases ok <;> rfl

/-- A round on a present leaf traps it and changes no other leaf. -/
theorem invalidateEptPage_present (h : EptReady s) (hne : (s.leaf topPage).all ≠ 0) (p : Page) :
    (invalidateEptPage pool mtrr 0xFFFFFFF0 s).2.leaf p =
      if p = topPage then (s.leaf topPage).trap else s.leaf p := by
  cases hget : eptGetEptPtEntry s 0xFFFFFFF0 with
  | none =>
    have hz := h.leaf_of_none hget
    rw [pageOf_allOnes] at hz
    rw [hz] at hne
    exact (hne EptCommonEntry.all_zero).elim
  | some ptr =>
    have hread := h.read_slot hget
    rw [pageOf_allOnes] at hread
    have hfind : findOrMapEntry pool mtrr 0xFFFFFFF0 s = (some ptr, s) := by
      simp only [findOrMapEntry, hget, hread, if_neg hne]
    obtain ⟨-, -, hwrite⟩ := h.write_slot hget (s.read ptr).trap
    simp only [invalidateEptPage, hfind, hread, if_neg hne, EptState.modify]
    rw [← hread, hwrite, pageOf_allOnes, hread]

/-- A round on a missing leaf tries to map it. -/
theorem invalidateEptPage_missing (h : EptReady s) (hz : (s.leaf topPage).all = 0) :
    ((eptpMapGpaToHpa pool mtrr 0xFFFFFFF0 s).1 = none →
        (invalidateEptPage pool mtrr 0xFFFFFFF0 s).2 =
          (eptpMapGpaToHpa pool mtrr 0xFFFFFFF0 s).2) ∧
      ((eptpMapGpaToHpa pool mtrr 0xFFFFFFF0 s).1 ≠ none →
        ((invalidateEptPage pool mtrr 0xFFFFFFF0 s).2.leaf topPage).Trapped) := by
  have hfind : findOrMapEntry pool mtrr 0xFFFFFFF0 s =
      eptpMapGpaToHpa pool mtrr 0xFFFFFFF0 s := by
    unfold findOrMapEntry
    cases hget : eptGetEptPtEntry s 0xFFFFFFF0 with
    | none => rfl
    | some ptr =>
      have hread := h.read_slot hget
      rw [pageOf_allOnes] at hread
      simp only [hread, if_pos hz]
  have hm := h.map_spec pool mtrr 0xFFFFFFF0
  unfold invalidateEptPage
  rw [hfind]
  generalize eptpMapGpaToHpa pool mtrr 0xFFFFFFF0 s = r at hm ⊢
  obtain ⟨entry, s₁⟩ := r
  cases entry with
  | none => exact ⟨fun _ => rfl, fun hne => (hne rfl).elim⟩
  | some ptr =>
    obtain ⟨hptr, hleaf⟩ := hm.mapped rfl
    have hread := hm.keeps.ready.read_slot hptr
    have hne : (s₁.read ptr).all ≠ 0 := by
      rw [hread, hleaf, if_pos rfl]
      exact init_all_ne_zero mtrr _ 1 _
    obtain ⟨-, -, hwrite⟩ := hm.keeps.ready.write_slot hptr (s₁.read ptr).trap
    refine ⟨nofun, fun _ => ?_⟩
    simp only [if_neg hne, EptState.modify]
    rw [hwrite, pageOf_allOnes, if_pos rfl]
    exact EptCommonEntry.trapped_trap _

/-- Trapping a trapped leaf changes nothing. -/
theorem EptCommonEntry.trap_eq_self_iff {e : EptCommonEntry} (hne : e.all ≠ 0) :
    e.trap = e ↔ e.Trapped := by
  constructor
  · intro h
    rw [← h]
    exact e.trapped_trap
  · rintro ⟨-, hr, hw, hx⟩
    obtain ⟨_, _, _⟩ := e
    obtain rfl := hr
    obtain rfl := hw
    obtain rfl := hx
    rfl

/-- Rounds on a trapped page change no leaf. -/
theorem onRanges_allOnes_trapped (n : ℕ) (h : EptReady s) (ht : (s.leaf topPage).Trapped)
    (p : Page) :
    (onRanges (invalidateEptPages pool mtrr) (List.replicate n allOnesRange) s).leaf p =
      s.leaf p := by
  induction n generalizing s with
  | zero => rfl
  | succ n ih =>
    have hk := (invalidateEptPage_spec pool mtrr h 0xFFFFFFF0).1
    have hleaf : ∀ p, (invalidateEptPage pool mtrr 0xFFFFFFF0 s).2.leaf p = s.leaf p := by
      intro p
      rw [invalidateEptPage_present pool mtrr h ht.1, (EptCommonEntry.trap_eq_self_iff ht.1).2 ht]
      split_ifs with hp
      · rw [hp]
      · rfl
    rw [List.replicate_succ, onRanges, List.foldl_cons, ← onRanges, invalidateEptPages_allOnes,
      ih hk.ready (by rw [hleaf]; exact ht), hleaf]

/-- `n` rounds change no leaf exactly if there are none, the page was trapped before, or it
has no leaf and all tries to map it are refused. -/
theorem onRanges_allOnes_iff (n : ℕ) (h : EptReady s) :
    (∀ p, (onRanges (invalidateEptPages pool mtrr) (List.replicate n allOnesRange) s).leaf p =
        s.leaf p) ↔
      n = 0 ∨ (s.leaf topPage).Trapped ∨
        (s.leaf topPage).all = 0 ∧ RefusedTries pool mtrr n s := by
  induction n generalizing s with
  | zero => exact ⟨fun _ => Or.inl rfl, fun _ _ => rfl⟩
  | succ n ih =>
    have hk := (invalidateEptPage_spec pool mtrr h 0xFFFFFFF0).1
    rw [List.replicate_succ, onRanges, List.foldl_cons, ← onRanges, invalidateEptPages_allOnes]
    by_cases hz : (s.leaf topPage).all = 0
    · have hnot : ¬(s.leaf topPage).Trapped := fun ht => ht.1 hz
      obtain ⟨hnone, hsome⟩ := invalidateEptPage_missing pool mtrr h hz
      have hm := h.map_spec pool mtrr 0xFFFFFFF0
      by_cases hmap : (eptpMapGpaToHpa pool mtrr 0xFFFFFFF0 s).1 = none
      · have hleaf := (hm.failed hmap).1
        have hih := ih hm.keeps.ready
        simp only [hleaf] at hih
        rw [hnone hmap, hih]
        simp only [RefusedTries, hmap, hz, hnot, true_and, false_or, Nat.add_eq_zero_iff,
          one_ne_zero, and_false]
        constructor
        · rintro (rfl | hr)
          · trivial
          · exact hr
        · exact Or.inr
      · -- the page is mapped now, and trapped for good
        have ht := hsome hmap
        have hfinal := onRanges_allOnes_trapped pool mtrr n hk.ready ht topPage
        constructor
        · intro hall
          rw [hall] at hfinal
          rw [← hfinal] at ht
          exact (hnot ht).elim
        · rintro (h0 | ht' | ⟨-, hr, -⟩)
          · cases h0
          · exact (hnot ht').elim
          · exact (hmap hr).elim
    · have hpresent := invalidateEptPage_present pool mtrr h hz
      have ht : ((invalidateEptPage pool mtrr 0xFFFFFFF0 s).2.leaf topPage).Trapped := by
        rw [hpresent, if_pos rfl]
        exact EptCommonEntry.trapped_trap _
      simp only [onRanges_allOnes_trapped pool mtrr n hk.ready ht, hpresent]
      constructor
      · intro hall
        have htop := hall topPage
        rw [if_pos rfl] at htop
        exact Or.inr (Or.inl ((EptCommonEntry.trap_eq_self_iff hz).1 htop))
      · rintro (h0 | ht' | ⟨hz', -⟩) p
        · cases h0
        · rw [(EptCommonEntry.trap_eq_self_iff hz).2 ht']
          split_ifs with hp
          · rw [hp]
          · rfl
        · exact (hz hz').elim

end TopPage

/-! ## Absent functions -/

section Ignored

variable {B C : Type} {bus : PciBus B} {devices : List (PciMonitorCfg C)} {s : EptState}

/-- Enabling keeps the tables ready from device to device. -/
theorem enableTurn_ready (pool : Pool) (mtrr : Mtrr) (b : B) (h : EptReady s) (i : ℕ) :
    EptReady (enableTurn pool mtrr bus b devices s i) := by
  rw [enableTurn, dmEnableDeviceMonitor, run_dmScanDevices]
  exact (enable_spec pool mtrr _ h).1.ready

/-- The turn of an absent function with zeroed records changes no leaf exactly if each of its
BARs with a register is a 64-bit one that `IntelMeHandleBarCallback` joins, the page
`0xFFFFF` was trapped before, or it has no leaf and all tries to map it are refused. -/
theorem absent_ignored_iff (pool : Pool) (mtrr : Mtrr) (b : B) (h : EptReady s) {i : ℕ}
    (hi : i < devices.length) (habs : AbsentFunction bus devices[i])
    (hj : devices[i].JoinsRegisters) (hz : devices[i].barAddress = 0) :
    (∀ p, (enableTurn pool mtrr bus b devices s (i + 1)).leaf p =
        (enableTurn pool mtrr bus b devices s i).leaf p) ↔
      devices[i].unfilteredBars devices[i].bars 0 = [] ∨
        ((enableTurn pool mtrr bus b devices s i).leaf topPage).Trapped ∨
        ((enableTurn pool mtrr bus b devices s i).leaf topPage).all = 0 ∧
          RefusedTries pool mtrr (devices[i].unfilteredBars devices[i].bars 0).length
            (enableTurn pool mtrr bus b devices s i) := by
  rw [enableTurn_succ pool mtrr b devices s hi habs hj hz,
    onRanges_allOnes_iff pool mtrr _ (enableTurn_ready pool mtrr b h i), List.length_eq_zero_iff]

/-- A machine without the function : every read answers all ones, writes have no effect. -/
def absentBus : PciBus Unit where
  read _ b := (0xFFFFFFFF, b)
  write _ _ b := b

theorem absent_ignored_iff_spi :
    (∀ p, (enableTurn bumpPool uncached absentBus () spiDevices bootEpt 1).leaf p =
        (enableTurn bumpPool uncached absentBus () spiDevices bootEpt 0).leaf p) ↔
      spiDevices[0].unfilteredBars spiDevices[0].bars 0 = [] ∨
        ((enableTurn bumpPool uncached absentBus () spiDevices bootEpt 0).leaf topPage).Trapped ∨
        ((enableTurn bumpPool uncached absentBus () spiDevices bootEpt 0).leaf topPage).all = 0 ∧
          RefusedTries bumpPool uncached (spiDevices[0].unfilteredBars spiDevices[0].bars 0).length
            (enableTurn bumpPool uncached absentBus () spiDevices bootEpt 0) :=
  absent_ignored_iff bumpPool uncached () bootEpt_ready (by decide) (fun _ _ => rfl)
    (fun i h => (h (by simp [spiDevices, spiDeviceInfo])).elim) rfl

/-- The SPI controller is absent and page `0xFFFFF` is trapped. -/
theorem absent_function_traps_top_page :
    ¬∀ (pool : Pool) (mtrr : Mtrr) (bus : PciBus Unit) (b : Unit)
        (devices : List (PciMonitorCfg Unit)) (s : EptState) (i : ℕ) (hi : i < devices.length),
      EptReady s → AbsentFunction bus devices[i] → devices[i].JoinsRegisters →
      devices[i].barAddress = 0 → devices[i].barLimit = 0 →
      ∀ p, (enableTurn pool mtrr bus b devices s (i + 1)).leaf p =
        (enableTurn pool mtrr bus b devices s i).leaf p := by
  intro hall
  have htop := hall bumpPool uncached absentBus () spiDevices bootEpt 0 (by decide) bootEpt_ready
    (fun _ _ => rfl) (fun i h => (h (by simp [spiDevices, spiDeviceInfo])).elim) rfl rfl topPage
  exact absurd htop (by decide +kernel)

end Ignored

end DeviceMon
