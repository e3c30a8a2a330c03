import DeviceMon.BarCoverage

/-!
# Enable and disable

A call of `DmEnableDeviceMonitor` or `DmDisableDeviceMonitor` reads the BARs from
configuration space and runs a page loop on each range. `scanRanges` is the first half by
itself, and `run_dmScanDevices` the factoring : the ranges depend on the records before
the call and on what the reads return, not on the tables. So the effect of a call on the
tables is that of its page loops in turn (`enable_spec`, `disable_spec`).

`LeftTrapped` follows one page through a sequence of calls : some enable call visits it
and no later disable call does. These are the pages a sequence leaves trapped
(`runCalls_leaves_open`).
-/

namespace DeviceMon

/-! ## The ranges of a call -/

/-- Address and size of a BAR. -/
abbrev BarRange :=
  BitVec 64 × BitVec 32

/-- Page loops on a list of ranges. -/
def onRanges {S : Type} (pages : BitVec 64 → BitVec 32 → S → S) (ranges : List BarRange) (s : S) :
    S :=
  ranges.foldl (fun s range => pages range.1 range.2 s) s

/-- The scan that only notes its ranges. -/
def scanRanges {C : Type} (devices : List (PciMonitorCfg C)) :
    CfgProg (List (PciMonitorCfg C) × List BarRange) :=
  dmScanDevices (fun address size ranges => ranges ++ [(address, size)]) devices []

section Scan

variable {B C S : Type} {bus : PciBus B} (pages : BitVec 64 → BitVec 32 → S → S)

theorem onRanges_snoc (ranges : List BarRange) (address : BitVec 64) (size : BitVec 32) (s : S) :
    onRanges pages (ranges ++ [(address, size)]) s =
      pages address size (onRanges pages ranges s) := by
  simp [onRanges]

theorem run_dmScanBars (s : S) (bars : List (Fin maxBarIndex)) :
    ∀ (k : ℕ) (cfg : PciMonitorCfg C) (ranges : List BarRange) (b : B),
      (dmScanBars pages bars k cfg (onRanges pages ranges s)).run bus b =
        let r := (dmScanBars (fun address size ranges => ranges ++ [(address, size)]) bars k cfg
          ranges).run bus b
        ((r.1.1, onRanges pages r.1.2 s), r.2) := by
  induction bars with
  | nil => exact fun _ _ _ _ => rfl
  | cons i bars ih =>
    intro k cfg ranges b
    simp only [dmScanBars, IoProg.run_bind]
    by_cases he : ((dmInitBarInfo cfg k i).run bus b).1.FoundError i
    · simp only [if_pos he]
      exact ih _ _ _ _
    · simp only [if_neg he, ← onRanges_snoc]
      exact ih _ _ _ _

theorem run_dmScanDevices_from (s : S) (devices : List (PciMonitorCfg C)) :
    ∀ (ranges : List BarRange) (b : B),
      (dmScanDevices pages devices (onRanges pages ranges s)).run bus b =
        let r := (dmScanDevices (fun address size ranges => ranges ++ [(address, size)]) devices
          ranges).run bus b
        ((r.1.1, onRanges pages r.1.2 s), r.2) := by
  induction devices with
  | nil => exact fun _ _ => rfl
  | cons cfg devices ih =>
    intro ranges b
    simp only [dmScanDevices, IoProg.run_bind, run_dmScanBars pages s, ih]
    rfl

/-- A call is a reading of the ranges followed by the page loops on them. -/
theorem run_dmScanDevices (devices : List (PciMonitorCfg C)) (s : S) (b : B) :
    (dmScanDevices pages devices s).run bus b =
      ((((scanRanges devices).run bus b).1.1,
        onRanges pages ((scanRanges devices).run bus b).1.2 s),
        ((scanRanges devices).run bus b).2) :=
  run_dmScanDevices_from pages s devices [] b

end Scan

/-! ## Effect on the tables -/

/-- The pages the loops on a list of ranges visit. -/
def RangePages (ranges : List BarRange) (p : Page) : Prop :=
  ∃ range ∈ ranges, RoundPages range.1 0 (addressAndSizeToSpanPages range.2) p

section Effect

variable {s : EptState} {p : Page} (pool : Pool) (mtrr : Mtrr)

theorem rangePages_cons {range : BarRange} {ranges : List BarRange} :
    RangePages (range :: ranges) p ↔
      RoundPages range.1 0 (addressAndSizeToSpanPages range.2) p ∨ RangePages ranges p := by
  simp [RangePages]

/-- Enabling traps pages of its ranges, all of them if no table is refused. -/
theorem enable_spec (ranges : List BarRange) (h : EptReady s) :
    Keeps s (onRanges (invalidateEptPages pool mtrr) ranges s) ∧
      ∃ V : Page → Prop, (∀ p, V p → RangePages ranges p) ∧
        Changes (TrapsLeaf mtrr) V s (onRanges (invalidateEptPages pool mtrr) ranges s) ∧
        ((onRanges (invalidateEptPages pool mtrr) ranges s).heap.refused = s.heap.refused →
          ∀ p, RangePages ranges p → V p) := by
  induction ranges generalizing s with
  | nil =>
    refine ⟨.refl h, fun _ => False, fun _ => False.elim, .refl _ s, fun _ p hp => ?_⟩
    simp [RangePages] at hp
  | cons range ranges ih =>
    obtain ⟨hk, m, hm, hch, hlt⟩ := invalidateEptPages_spec pool mtrr h range.1 range.2
    obtain ⟨hk', V, hV, hch', hall⟩ := ih hk.ready
    have hcons : onRanges (invalidateEptPages pool mtrr) (range :: ranges) s =
      onRanges (invalidateEptPages pool mtrr) ranges
        (invalidateEptPages pool mtrr range.1 range.2 s) := rfl
    rw [hcons]
    refine ⟨hk.trans hk', _, fun p hp => ?_,
      hch.trans (R := TrapsLeaf mtrr) (TrapsLeaf.trans mtrr) hch', fun hr p hp => ?_⟩
    · rw [rangePages_cons]
      rcases hp with ⟨j, h1, h2, h3⟩ | hp
      · exact Or.inl ⟨j, h1, by omega, h3⟩
      · exact Or.inr (hV p hp)
    · have h1 := hk.refused
      have h2 := hk'.refused
      rcases rangePages_cons.1 hp with hp | hp
      · refine Or.inl ?_
        rcases eq_or_lt_of_le hm with rfl | hm
        · exact hp
        · have := hlt hm
          omega
      · exact Or.inr (hall (by omega) p hp)

/-- Disabling opens the present pages of its ranges. -/
theorem disable_spec (ranges : List BarRange) (h : EptReady s) :
    Keeps s (onRanges validateEptPages ranges s) ∧
      Changes PassesLeaf (RangePages ranges) s (onRanges validateEptPages ranges s) := by
  induction ranges generalizing s with
  | nil =>
    exact ⟨.refl h, (Changes.refl _ s).congr fun p => by simp [RangePages]⟩
  | cons range ranges ih =>
    obtain ⟨hk, hch⟩ := validateEptPages_spec h range.1 range.2
    obtain ⟨hk', hch'⟩ := ih hk.ready
    exact ⟨hk.trans hk', (hch.trans (R := PassesLeaf) PassesLeaf.trans hch').congr
      fun p => rangePages_cons.symm⟩

end Effect

/-! ## Sequences of calls -/

/-- A call, with the configuration space it finds. -/
structure MonitorCall (B : Type) where
  /-- `DmEnableDeviceMonitor` or `DmDisableDeviceMonitor`. -/
  enable : Bool
  bus : PciBus B
  state : B

namespace MonitorCall

variable {B C : Type} (c : MonitorCall B)

/-- The monitor list and the tables after a call. -/
def run (pool : Pool) (mtrr : Mtrr) (ds : List (PciMonitorCfg C) × EptState) :
    List (PciMonitorCfg C) × EptState :=
  if c.enable then ((dmEnableDeviceMonitor pool mtrr ds.1 ds.2).run c.bus c.state).1
  else ((dmDisableDeviceMonitor ds.1 ds.2).run c.bus c.state).1

/-- The records a call leaves. -/
def records (devices : List (PciMonitorCfg C)) : List (PciMonitorCfg C) :=
  ((scanRanges devices).run c.bus c.state).1.1

/-- The pages the rounds of a call visit : of a range of several pages below 4 GiB all but the
last. -/
def Visits (devices : List (PciMonitorCfg C)) (p : Page) : Prop :=
  RangePages ((scanRanges devices).run c.bus c.state).1.2 p

end MonitorCall

/-- The monitor list and the tables after a sequence of calls. -/
def runCalls {B C : Type} (pool : Pool) (mtrr : Mtrr) (calls : List (MonitorCall B))
    (ds : List (PciMonitorCfg C) × EptState) : List (PciMonitorCfg C) × EptState :=
  calls.foldl (fun ds c => c.run pool mtrr ds) ds

/-- No disable call of the sequence visits `p`. -/
def NeverOpened {B C : Type} (p : Page) :
    List (PciMonitorCfg C) → List (MonitorCall B) → Prop
  | _, [] => True
  | devices, c :: calls =>
    (c.enable = false → ¬c.Visits devices p) ∧ NeverOpened p (c.records devices) calls

/-- Some enable call of the sequence visits `p`, and no disable call after it does. -/
def LeftTrapped {B C : Type} (p : Page) :
    List (PciMonitorCfg C) → List (MonitorCall B) → Prop
  | _, [] => False
  | devices, c :: calls =>
    (c.enable = true ∧ c.Visits devices p ∧ NeverOpened p (c.records devices) calls) ∨
      LeftTrapped p (c.records devices) calls

namespace EptCommonEntry

/-- A present entry that denies reads or writes. -/
def Denies (e : EptCommonEntry) : Prop :=
  e.all ≠ 0 ∧ (e.readAccess = false ∨ e.writeAccess = false)

instance (e : EptCommonEntry) : Decidable e.Denies :=
  inferInstanceAs (Decidable (_ ∧ (_ ∨ _)))

theorem Trapped.denies {e : EptCommonEntry} (h : e.Trapped) : e.Denies :=
  ⟨h.1, Or.inl h.2.1⟩

theorem Open.not_denies {e : EptCommonEntry} (h : e.Open) : ¬e.Denies := by
  rintro ⟨-, hr | hw⟩
  · rw [h.1] at hr
    cases hr
  · rw [h.2.1] at hw
    cases hw

end EptCommonEntry

section Calls

variable {B C : Type} {devices : List (PciMonitorCfg C)} {s : EptState} {p : Page}
  (pool : Pool) (mtrr : Mtrr)

theorem run_enable {c : MonitorCall B} (hc : c.enable = true) :
    c.run pool mtrr (devices, s) = (c.records devices,
      onRanges (invalidateEptPages pool mtrr) ((scanRanges devices).run c.bus c.state).1.2 s) := by
  rw [MonitorCall.run, if_pos hc, dmEnableDeviceMonitor, run_dmScanDevices]
  rfl

theorem run_disable {c : MonitorCall B} (hc : c.enable = false) :
    c.run pool mtrr (devices, s) = (c.records devices,
      onRanges validateEptPages ((scanRanges devices).run c.bus c.state).1.2 s) := by
  rw [MonitorCall.run, hc, dmDisableDeviceMonitor, run_dmScanDevices]
  rfl

theorem PassesLeaf.not_denies {e e' : EptCommonEntry} (h : PassesLeaf p e e') : ¬e'.Denies := by
  unfold PassesLeaf at h
  split_ifs at h with hz
  · rintro ⟨hne, -⟩
    rw [h] at hne
    exact hne hz
  · rw [h]
    exact e.open_pass.not_denies

/-- One call : a page it leaves denied is one it trapped, or was denied before and not
opened; and without a refusal every such page is left denied. -/
theorem denies_run (c : MonitorCall B) (devices : List (PciMonitorCfg C)) (h : EptReady s) :
    Keeps s (c.run pool mtrr (devices, s)).2 ∧
      (c.run pool mtrr (devices, s)).1 = c.records devices ∧
      (((c.run pool mtrr (devices, s)).2.leaf p).Denies →
        c.enable = true ∧ c.Visits devices p ∨
          (s.leaf p).Denies ∧ (c.enable = false → ¬c.Visits devices p)) ∧
      ((c.run pool mtrr (devices, s)).2.heap.refused = s.heap.refused →
        (c.enable = true ∧ c.Visits devices p ∨
          (s.leaf p).Denies ∧ (c.enable = false → ¬c.Visits devices p)) →
        ((c.run pool mtrr (devices, s)).2.leaf p).Denies) := by
  cases hc : c.enable with
  | true =>
    obtain ⟨hk, V, hV, hch, hall⟩ := enable_spec pool mtrr
      ((scanRanges devices).run c.bus c.state).1.2 h
    rw [run_enable pool mtrr hc]
    refine ⟨hk, rfl, fun hden => ?_, fun hr hcase => ?_⟩
    · by_cases hp : V p
      · exact Or.inl ⟨rfl, hV p hp⟩
      · rw [(hch p).2 hp] at hden
        exact Or.inr ⟨hden, by simp⟩
    · by_cases hp : V p
      · exact ((hch p).1 hp).trapped.denies
      · rcases hcase with ⟨-, hvis⟩ | ⟨hden, -⟩
        · exact (hp (hall hr p hvis)).elim
        · rw [(hch p).2 hp]
          exact hden
  | false =>
    obtain ⟨hk, hch⟩ := disable_spec ((scanRanges devices).run c.bus c.state).1.2 h
    rw [run_disable pool mtrr hc]
    refine ⟨hk, rfl, fun hden => ?_, fun _ hcase => ?_⟩
    · have hnot : ¬c.Visits devices p := fun hvis => ((hch p).1 hvis).not_denies hden
      rw [(hch p).2 hnot] at hden
      exact Or.inr ⟨hden, fun _ => hnot⟩
    · rcases hcase with ⟨hcon, -⟩ | ⟨hden, hnot⟩
      · cases hcon
      · rw [(hch p).2 (hnot rfl)]
        exact hden

/-- A whole sequence, page by page. -/
theorem denies_runCalls (calls : List (MonitorCall B)) :
    ∀ (devices : List (PciMonitorCfg C)) {s : EptState}, EptReady s →
      Keeps s (runCalls pool mtrr calls (devices, s)).2 ∧
      (((runCalls pool mtrr calls (devices, s)).2.leaf p).Denies →
        LeftTrapped p devices calls ∨ (s.leaf p).Denies ∧ NeverOpened p devices calls) ∧
      ((runCalls pool mtrr calls (devices, s)).2.heap.refused = s.heap.refused →
        (LeftTrapped p devices calls ∨ (s.leaf p).Denies ∧ NeverOpened p devices calls) →
        ((runCalls pool mtrr calls (devices, s)).2.leaf p).Denies) := by
  induction calls with
  | nil =>
    intro devices s h
    exact ⟨.refl h, fun hden => Or.inr ⟨hden, trivial⟩,
      fun _ hcase => hcase.elim False.elim And.left⟩
  | cons c calls ih =>
    intro devices s h
    obtain ⟨hk, hrec, hto, hof⟩ := denies_run (p := p) pool mtrr c devices h
    have hcons : runCalls pool mtrr (c :: calls) (devices, s) =
        runCalls pool mtrr calls (c.records devices, (c.run pool mtrr (devices, s)).2) := by
      rw [← hrec]
      rfl
    rw [hcons]
    generalize (c.run pool mtrr (devices, s)).2 = s₁ at hk hto hof ⊢
    obtain ⟨hk', hto', hof'⟩ := ih (c.records devices) hk.ready
    refine ⟨hk.trans hk', fun hden => ?_, fun hr hcase => ?_⟩
    · rcases hto' hden with hleft | ⟨hden₁, hnever⟩
      · exact Or.inl (Or.inr hleft)
      · rcases hto hden₁ with ⟨hc, hvis⟩ | ⟨hden₀, hnot⟩
        · exact Or.inl (Or.inl ⟨hc, hvis, hnever⟩)
        · exact Or.inr ⟨hden₀, hnot, hnever⟩
    · have h1 := hk.refused
      have h2 := hk'.refused
      refine hof' (by omega) ?_
      rcases hcase with (⟨hc, hvis, hnever⟩ | hleft) | ⟨hden, hnot, hnever⟩
      · exact Or.inr ⟨hof (by omega) (Or.inl ⟨hc, hvis⟩), hnever⟩
      · exact Or.inl hleft
      · exact Or.inr ⟨hof (by omega) (Or.inr ⟨hden, hnot⟩), hnever⟩

/-- From tables that deny nothing, a sequence of calls leaves no page denied if each page that a
round of an enable call visits is visited by a round of a later disable call. The converse holds
as well when no table was refused. -/
theorem runCalls_leaves_open (h : EptReady s) (hopen : ∀ p, (s.leaf p).all ≠ 0 → (s.leaf p).Open)
    (devices : List (PciMonitorCfg C)) (calls : List (MonitorCall B)) :
    ((∀ p, ¬LeftTrapped p devices calls) →
        ∀ p, ¬((runCalls pool mtrr calls (devices, s)).2.leaf p).Denies) ∧
      ((runCalls pool mtrr calls (devices, s)).2.heap.refused = s.heap.refused →
        (∀ p, ¬((runCalls pool mtrr calls (devices, s)).2.leaf p).Denies) →
        ∀ p, ¬LeftTrapped p devices calls) := by
  have hnone : ∀ p, ¬(s.leaf p).Denies := fun p hden => (hopen p hden.1).not_denies hden
  refine ⟨fun hcond p hden => ?_, fun hr hall p hleft => ?_⟩
  · obtain ⟨-, hto, -⟩ := denies_runCalls (p := p) pool mtrr calls devices h
    rcases hto hden with hleft | ⟨hden₀, -⟩
    · exact hcond p hleft
    · exact hnone p hden₀
  · obtain ⟨-, -, hof⟩ := denies_runCalls (p := p) pool mtrr calls devices h
    exact hall p (hof hr (Or.inl hleft))

/-- A function with one 32-bit BAR, whose register keeps the bits in `mask`. -/
def bar32Bus (mask : BitVec 32) : PciBus (BitVec 32) where
  read _ b := (b &&& mask, b)
  write _ value _ := value

/-- A call that finds the 4 KiB BAR of the SPI controller at `bar`. -/
def spiCall (enable : Bool) (bar : BitVec 32) : MonitorCall (BitVec 32) :=
  ⟨enable, bar32Bus 0xFFFFF000, bar⟩

/-- Enabling and disabling with the BAR in one place. -/
def spiCalls : List (MonitorCall (BitVec 32)) :=
  [spiCall true 0xFED00000, spiCall false 0xFED00000]

/-- The monitor list of the driver with the SPI controller alone. -/
def spiDevices : List (PciMonitorCfg Unit) :=
  [spiDeviceInfo]

theorem runCalls_leaves_open_spi :
    ((∀ p, ¬LeftTrapped p spiDevices spiCalls) →
        ∀ p, ¬((runCalls bumpPool uncached spiCalls (spiDevices, bootEpt)).2.leaf p).Denies) ∧
      ((runCalls bumpPool uncached spiCalls (spiDevices, bootEpt)).2.heap.refused =
          bootEpt.heap.refused →
        (∀ p, ¬((runCalls bumpPool uncached spiCalls (spiDevices, bootEpt)).2.leaf p).Denies) →
        ∀ p, ¬LeftTrapped p spiDevices spiCalls) :=
  runCalls_leaves_open bumpPool uncached bootEpt_ready bootEpt_open spiDevices spiCalls

/-- A BAR that moves before the disable call leaves its old page trapped. -/
theorem moved_bar_stays_trapped :
    ¬∀ (pool : Pool) (mtrr : Mtrr) (s : EptState) (devices : List (PciMonitorCfg Unit))
        (calls : List (MonitorCall (BitVec 32))) (last : MonitorCall (BitVec 32)), EptReady s →
      (∀ p, (s.leaf p).all ≠ 0 → (s.leaf p).Open) → last.enable = false →
      ∀ p, ¬((runCalls pool mtrr (calls ++ [last]) (devices, s)).2.leaf p).Denies := by
  intro hall
  have hnot := hall bumpPool uncached bootEpt spiDevices [spiCall true 0xFED00000]
    (spiCall false 0xFEB00000) bootEpt_ready bootEpt_open rfl 0xFED00
  exact absurd hnot (by decide +kernel)

end Calls

end DeviceMon
