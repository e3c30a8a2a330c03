import DeviceMon.ConfigSpace
import DeviceMon.Interleaving

/-!
# Probing a BAR from two processors

`DmInitBarInfo` saves a BAR, overwrites it with ones, reads the size back, restores what it saved
and reads the address : five accesses, and nothing keeps another processor from its own five in
between. `Probe` is where a run is, with what it has read so far : the ones or the address.

Two runs leave the BAR programmed and record it exactly when their accesses meet a condition on
times (`ProbeTimes.Spares`), or when the address is all ones (`dmInitBarInfo_interleaved_iff`).
-/

namespace DeviceMon

open Interleaving

/-! ## Times -/

/-- When the accesses of a run are. -/
structure ProbeTimes where
  save : ℕ
  ones : ℕ
  size : ℕ
  restore : ℕ
  address : ℕ

/-- The times of a run whose turns are those of a party. -/
def ProbeTimes.of (party : Bool) (turns : List Bool) : ProbeTimes :=
  let times := turnTimes party turns
  ⟨times.getD 0 0, times.getD 1 0, times.getD 2 0, times.getD 3 0, times.getD 4 0⟩

/-- The run `x` does not spoil the run `y`. If `y` saves the ones of `x`, it restores them before
`x` restores the address, and reads the address after that. Else `y` does not restore before `x`
has read the size, and does not take the address from `x` with its own ones. -/
def ProbeTimes.Spares (x y : ProbeTimes) : Prop :=
  if x.ones < y.save ∧ y.save < x.restore then y.restore < x.restore ∧ x.restore < y.address
  else ¬(x.ones < y.restore ∧ y.restore < x.size) ∧
    ¬(x.restore < y.ones ∧ y.ones < x.address ∧ x.address < y.restore)

instance (x y : ProbeTimes) : Decidable (x.Spares y) :=
  inferInstanceAs (Decidable (ite _ _ _))

/-- Two runs spare one another. -/
def ProbesSpare (turns : List Bool) : Prop :=
  (ProbeTimes.of true turns).Spares (.of false turns) ∧
    (ProbeTimes.of false turns).Spares (.of true turns)

instance (turns : List Bool) : Decidable (ProbesSpare turns) :=
  inferInstanceAs (Decidable (_ ∧ _))

/-! ## Runs by what they have read -/

/-- Where a run of `DmInitBarInfo` is. What it read is `true` for the ones and `false` for the
address. -/
inductive Probe where
  | started
  | saved (baseAddr : Bool)
  | overwritten (baseAddr : Bool)
  | sized (baseAddr size : Bool)
  | restored (size : Bool)
  | finished (size address : Bool)
deriving DecidableEq

/-- The next access, on a BAR that has the ones or the address. -/
def Probe.turn : Probe → Bool → Probe × Bool
  | started, bar => (saved bar, bar)
  | saved baseAddr, _ => (overwritten baseAddr, true)
  | overwritten baseAddr, bar => (sized baseAddr bar, bar)
  | sized baseAddr size, _ => (restored size, baseAddr)
  | restored size, bar => (finished size bar, bar)
  | finished size address, bar => (finished size address, bar)

def Probe.isFinished : Probe → Bool
  | finished _ _ => true
  | _ => false

theorem Probe.eq_finished {p : Probe} (h : p.isFinished = true) :
    ∃ size address, p = finished size address := by
  cases p with
  | finished size address => exact ⟨size, address, rfl⟩
  | _ => cases h

/-- Two runs in an order of their accesses. -/
def probeBoth (turns : List Bool) : Probe × Probe × Bool :=
  run Probe.turn Probe.turn turns .started .started false

/-- The outcome when each processor probes alone. -/
def probedAlone : Probe × Probe × Bool :=
  (.finished true false, .finished true false, false)

/-- Both runs finish, and they fare as if alone exactly when they spare one another. -/
theorem probeBoth_orders : ∀ turns ∈ orders 5 5,
    (probeBoth turns).1.isFinished = true ∧ (probeBoth turns).2.1.isFinished = true ∧
    (probeBoth turns = probedAlone ↔ ProbesSpare turns) := by
  decide +kernel

/-! ## The runs -/

/-- A memory BAR of a size, that is programmed to an address. -/
structure ProgrammedBar (mask size flags address : BitVec 32) : Prop where
  decodes : BarDecodes mask size
  flags : flags &&& 0xFFFFFFF0 = 0
  address_and : address &&& mask = address
  address_ne : address ≠ 0

section Runs

variable {S C : Type} {kind : CfgRegister → RegisterKind S} {value : S → BitVec 32}
  {mask size flags address : BitVec 32} {b d f o : BitVec 8}

/-- The decoded bits of a BAR that has the ones or the address. -/
def barBits (mask address : BitVec 32) (ones : Bool) : BitVec 32 :=
  if ones then mask else address

/-- What a read of it returns. -/
def barWord (mask flags address : BitVec 32) (ones : Bool) : BitVec 32 :=
  barBits mask address ones ||| flags

/-- The end of `DmInitBarInfo`, from the read of the address on. -/
def readAddress (cfg : PciMonitorCfg C) (barIndex : Fin maxBarIndex) (access : CfgAccess)
    (size : BitVec 32) : CfgProg (PciMonitorCfg C) :=
  if ~~~(size &&& 0xFFFFFFF0) + 1 = 0 then .done cfg
  else .read access fun lowerPa =>
    if lowerPa.setWidth 64 &&& 0x00000000FFFFFFF0 = 0 then .done cfg
    else .done (cfg.record barIndex (lowerPa.setWidth 64 &&& 0x00000000FFFFFFF0)
      ((lowerPa.setWidth 64 &&& 0x00000000FFFFFFF0) +
        (~~~(size &&& 0xFFFFFFF0) + 1).setWidth 64))

/-- The accesses of `DmInitBarInfo` for a 32-bit BAR. -/
theorem dmInitBarInfo_accesses (cfg : PciMonitorCfg C) {k : ℕ} {barIndex : Fin maxBarIndex}
    (hk : k < maxBarIndex) (h32 : ¬(cfg.Is64Bit barIndex ∧ k + 1 < maxBarIndex)) :
    dmInitBarInfo cfg k barIndex =
      let access := cfgAccess cfg.busNumber cfg.deviceNum cfg.funcNum (cfg.barOffset ⟨k, hk⟩) 4
      .read access fun baseAddr => .write access 0xFFFFFFFF (.read access fun size =>
        .write access baseAddr (readAddress cfg barIndex access size)) := by
  rw [dmInitBarInfo, dif_pos hk]
  simp only [dif_neg h32, IoProg.pure_bind_eq]
  rfl

/-- The rest of a run, by what it has read. -/
def Probe.rest (cfg : PciMonitorCfg C) (barIndex : Fin maxBarIndex) (access : CfgAccess)
    (mask flags address : BitVec 32) : Probe → CfgProg (PciMonitorCfg C)
  | started => .read access fun baseAddr => .write access 0xFFFFFFFF (.read access fun size =>
      .write access baseAddr (readAddress cfg barIndex access size))
  | saved baseAddr => .write access 0xFFFFFFFF (.read access fun size =>
      .write access (barWord mask flags address baseAddr) (readAddress cfg barIndex access size))
  | overwritten baseAddr => .read access fun size =>
      .write access (barWord mask flags address baseAddr) (readAddress cfg barIndex access size)
  | sized baseAddr measured => .write access (barWord mask flags address baseAddr)
      (readAddress cfg barIndex access (barWord mask flags address measured))
  | restored measured => readAddress cfg barIndex access (barWord mask flags address measured)
  | finished measured found => .done (cfg.record barIndex
      ((barBits mask address found).setWidth 64)
      ((barBits mask address found).setWidth 64 +
        (~~~barBits mask address measured + 1).setWidth 64))

/-- The BAR has the ones or the address. -/
def HasBits (value : S → BitVec 32) (reg : CfgRegister) (mask address : BitVec 32) (ones : Bool)
    (host : PciHost S) : Prop :=
  value (host.registers reg) &&& mask = barBits mask address ones

namespace ProgrammedBar

variable (h : ProgrammedBar mask size flags address)
include h

/-- The mask has no bit of the flags. -/
theorem mask_and : mask &&& 0xFFFFFFF0 = mask := by
  cases h.decodes with
  | none => exact (h.address_ne (h.address_and.symm.trans (BitVec.and_zero))).elim
  | @size n low high =>
    interval_cases n
    all_goals decide

theorem barBits_and (ones : Bool) : barBits mask address ones &&& mask =
    barBits mask address ones := by
  cases ones with
  | false => exact h.address_and
  | true => exact BitVec.and_self

theorem barBits_ne (ones : Bool) : barBits mask address ones ≠ 0 := by
  cases ones with
  | false => exact h.address_ne
  | true =>
    intro hzero
    have hmask : mask = 0 := hzero
    have haddress := h.address_and
    rw [hmask] at haddress
    exact h.address_ne (haddress.symm.trans BitVec.and_zero)

theorem flags_and_mask : flags &&& mask = 0 := by
  rw [← h.mask_and, BitVec.and_comm mask, ← BitVec.and_assoc, h.flags]
  exact BitVec.zero_and

theorem barWord_and_mask (ones : Bool) : barWord mask flags address ones &&& mask =
    barBits mask address ones := by
  rw [barWord, BitVec.and_comm, BitVec.and_or_distrib_left, BitVec.and_comm, h.barBits_and,
    BitVec.and_comm, h.flags_and_mask]
  exact BitVec.or_zero

theorem barWord_and (ones : Bool) : barWord mask flags address ones &&& 0xFFFFFFF0 =
    barBits mask address ones := by
  have hbits : barBits mask address ones &&& 0xFFFFFFF0 = barBits mask address ones := by
    rw [← h.barBits_and, BitVec.and_assoc, h.mask_and]
  rw [barWord, BitVec.and_comm, BitVec.and_or_distrib_left, BitVec.and_comm, hbits,
    BitVec.and_comm, h.flags]
  exact BitVec.or_zero

/-- The address as `DmGetDeviceBarAddress` returns it. -/
theorem barAddress_eq (ones : Bool) :
    (barWord mask flags address ones).setWidth 64 &&& 0x00000000FFFFFFF0 =
      (barBits mask address ones).setWidth 64 := by
  have hmask : (0x00000000FFFFFFF0 : BitVec 64) = (0xFFFFFFF0 : BitVec 32).setWidth 64 := rfl
  rw [hmask, ← BitVec.setWidth_and, h.barWord_and]

/-- Neither the size nor the address that is read is zero. -/
theorem readAddress_eq (cfg : PciMonitorCfg C) (barIndex : Fin maxBarIndex) (access : CfgAccess)
    (measured : Bool) : readAddress cfg barIndex access (barWord mask flags address measured) =
      .read access fun lowerPa =>
        if lowerPa.setWidth 64 &&& 0x00000000FFFFFFF0 = 0 then .done cfg
        else .done (cfg.record barIndex (lowerPa.setWidth 64 &&& 0x00000000FFFFFFF0)
          ((lowerPa.setWidth 64 &&& 0x00000000FFFFFFF0) +
            (~~~barBits mask address measured + 1).setWidth 64)) := by
  have hsize : ~~~barBits mask address measured + 1 ≠ 0 := by
    have hneg := BitVec.neg_eq_not_add (barBits mask address measured)
    exact hneg ▸ neg_ne_zero.2 (h.barBits_ne measured)
  rw [readAddress, h.barWord_and, if_neg hsize]

end ProgrammedBar

section Turns

variable (h : ProgrammedBar mask size flags address) (hdev : d.toNat < 32) (hfn : f.toNat < 8)
  (hoff : o.toNat % 4 = 0) (hbar : IsMemoryBar (kind (cfgRegister b d f o)) value mask flags)
  {ones : Bool} {host : PciHost S}
include hdev hfn hoff hbar

/-- A read of the BAR. -/
theorem read_bar (hbits : HasBits value (cfgRegister b d f o) mask address ones host) :
    ((PciHost.bus kind).read (cfgAccess b d f o 4) host).1 = barWord mask flags address ones ∧
      HasBits value (cfgRegister b d f o) mask address ones
        ((PciHost.bus kind).read (cfgAccess b d f o 4) host).2 := by
  have hread : (PciHost.bus kind).read (cfgAccess b d f o 4) host = _ :=
    PciHost.run_readPCICfg hdev hfn hoff
  rw [hread]
  refine ⟨?_, ?_⟩
  · rw [hbar.read, hbits]
    rfl
  · simp only [HasBits, Function.update_self, hbar.kept]
    exact hbits

/-- A write of the BAR. -/
theorem write_bar {v : BitVec 32} (hv : v &&& mask = barBits mask address ones) :
    HasBits value (cfgRegister b d f o) mask address ones
      ((PciHost.bus kind).write (cfgAccess b d f o 4) v host) := by
  have hwrite : ((), (PciHost.bus kind).write (cfgAccess b d f o 4) v host) = _ :=
    PciHost.run_writePCICfg hdev hfn hoff v
  rw [(Prod.mk.inj hwrite).2]
  simp only [HasBits, Function.update_self, hbar.write]
  exact hv

include h

/-- A run goes on as what it has read says. -/
theorem simulates_turn (cfg : PciMonitorCfg C) (barIndex : Fin maxBarIndex) :
    Simulates (HasBits value (cfgRegister b d f o) mask address)
      (Probe.rest cfg barIndex (cfgAccess b d f o 4) mask flags address) Probe.turn
      (IoProg.step (PciHost.bus kind)) := by
  intro p ones host hbits
  obtain ⟨hread, hkept⟩ := read_bar hdev hfn hoff hbar hbits
  have hones : (0xFFFFFFFF : BitVec 32) &&& mask = barBits mask address true := BitVec.allOnes_and
  cases p with
  | started => exact ⟨by simp only [Probe.rest, Probe.turn, IoProg.step, hread], hkept⟩
  | saved baseAddr => exact ⟨rfl, write_bar hdev hfn hoff hbar hones⟩
  | overwritten baseAddr => exact ⟨by simp only [Probe.rest, Probe.turn, IoProg.step, hread], hkept⟩
  | sized baseAddr measured => exact ⟨rfl, write_bar hdev hfn hoff hbar (h.barWord_and_mask _)⟩
  | restored measured =>
    have hne : (barBits mask address ones).setWidth 64 ≠ 0 := fun hzero =>
      h.barBits_ne ones (by simpa using congrArg (BitVec.setWidth 32) hzero)
    rw [Probe.rest, h.readAddress_eq]
    refine ⟨?_, hkept⟩
    simp only [IoProg.step, hread, h.barAddress_eq, if_neg hne, Probe.turn, Probe.rest]
  | finished measured found => exact ⟨rfl, hbits⟩

end Turns

/-- The address and the limit of a BAR are recorded. -/
def RecordsBar (cfg : PciMonitorCfg C) (barIndex : Fin maxBarIndex) (address size : BitVec 32) :
    Prop :=
  cfg.barAddress barIndex = address.setWidth 64 ∧
    cfg.barLimit barIndex = address.setWidth 64 + size.setWidth 64

theorem barBits_eq_address_iff (ones : Bool) :
    barBits mask address ones = address ↔ address = mask ∨ ones = false := by
  cases ones with
  | false => simp [barBits]
  | true => simpa [barBits] using eq_comm

namespace ProgrammedBar

variable (h : ProgrammedBar mask size flags address)
include h

theorem size_eq_iff (ones : Bool) :
    ~~~barBits mask address ones + 1 = size ↔ address = mask ∨ ones = true := by
  have hsize : ~~~mask + 1 = size := by
    have hones := h.decodes.size_eq h.flags
    rwa [BitVec.allOnes_and, show mask ||| flags = barWord mask flags address true from rfl,
      h.barWord_and] at hones
  have hnot : ∀ x y : BitVec 32, ~~~x = ~~~y ↔ x = y := fun x y =>
    ⟨fun heq => by simpa using congrArg (~~~·) heq, congrArg _⟩
  rw [← hsize, add_left_inj, hnot]
  cases ones with
  | false => simp [barBits]
  | true => simp [barBits]

/-- What a finished run has recorded. -/
theorem records_iff (cfg : PciMonitorCfg C) (barIndex : Fin maxBarIndex) (measured found : Bool) :
    RecordsBar (cfg.record barIndex ((barBits mask address found).setWidth 64)
        ((barBits mask address found).setWidth 64 +
          (~~~barBits mask address measured + 1).setWidth 64)) barIndex address size ↔
      address = mask ∨ (measured = true ∧ found = false) := by
  have hinj : ∀ x y : BitVec 32, x.setWidth 64 = y.setWidth 64 ↔ x = y := fun x y =>
    ⟨fun heq => by simpa using congrArg (BitVec.setWidth 32) heq, congrArg _⟩
  simp only [RecordsBar, PciMonitorCfg.record, Function.update_self, hinj]
  constructor
  · rintro ⟨haddress, hlimit⟩
    rw [haddress, add_right_inj, hinj, h.size_eq_iff] at hlimit
    rw [barBits_eq_address_iff] at haddress
    exact or_and_left.2 ⟨hlimit, haddress⟩
  · intro hcase
    obtain ⟨hmeasured, hfound⟩ := or_and_left.1 hcase
    rw [(barBits_eq_address_iff found).2 hfound, (h.size_eq_iff measured).2 hmeasured]
    exact ⟨rfl, rfl⟩

end ProgrammedBar

/-- **Concurrent probes.** Two processors run `DmInitBarInfo` for a 32-bit BAR that is programmed
to an address. In every order of their accesses both finish. The BAR has the address again and
both have recorded the address and the limit exactly when the address is all ones or the runs
spare one another. -/
theorem dmInitBarInfo_interleaved_iff {S C : Type} (kind : CfgRegister → RegisterKind S)
    (value : S → BitVec 32) (mask size flags address : BitVec 32) (cfg : PciMonitorCfg C) (k : ℕ)
    (barIndex : Fin maxBarIndex) (hk : k < maxBarIndex)
    (h32 : ¬(cfg.Is64Bit barIndex ∧ k + 1 < maxBarIndex)) (hdev : cfg.deviceNum.toNat < 32)
    (hfn : cfg.funcNum.toNat < 8) (hoff : (cfg.barOffset ⟨k, hk⟩).toNat % 4 = 0)
    (hbar : IsMemoryBar (kind (cfgRegister cfg.busNumber cfg.deviceNum cfg.funcNum
      (cfg.barOffset ⟨k, hk⟩))) value mask flags)
    (h : ProgrammedBar mask size flags address) (host : PciHost S)
    (hhost : value (host.registers (cfgRegister cfg.busNumber cfg.deviceNum cfg.funcNum
      (cfg.barOffset ⟨k, hk⟩))) &&& mask = address)
    (turns : List Bool) (hfirst : turns.count true = 5) (hsecond : turns.count false = 5) :
    ∃ cfg₁ cfg₂ host',
      run (IoProg.step (PciHost.bus kind)) (IoProg.step (PciHost.bus kind)) turns
        (dmInitBarInfo cfg k barIndex) (dmInitBarInfo cfg k barIndex) host =
          (.done cfg₁, .done cfg₂, host') ∧
      ((value (host'.registers (cfgRegister cfg.busNumber cfg.deviceNum cfg.funcNum
            (cfg.barOffset ⟨k, hk⟩))) &&& mask = address ∧
          RecordsBar cfg₁ barIndex address size ∧ RecordsBar cfg₂ barIndex address size) ↔
        address = mask ∨ ProbesSpare turns) := by
  have hturn := simulates_turn h hdev hfn hoff hbar cfg barIndex
  obtain ⟨hfinished₁, hfinished₂, hspare⟩ := probeBoth_orders turns (mem_orders hfirst hsecond)
  obtain ⟨hrest₁, hrest₂, hbits⟩ :=
    run_simulates hturn hturn turns false host hhost .started .started
  have hstart : dmInitBarInfo cfg k barIndex = Probe.rest cfg barIndex (cfgAccess cfg.busNumber
      cfg.deviceNum cfg.funcNum (cfg.barOffset ⟨k, hk⟩) 4) mask flags address .started :=
    dmInitBarInfo_accesses cfg hk h32
  rw [← hspare, hstart]
  change _ = Probe.rest _ _ _ _ _ _ (probeBoth turns).1 at hrest₁
  change _ = Probe.rest _ _ _ _ _ _ (probeBoth turns).2.1 at hrest₂
  change HasBits _ _ _ _ (probeBoth turns).2.2 _ at hbits
  generalize probeBoth turns = outcome at *
  obtain ⟨p₁, p₂, ones⟩ := outcome
  obtain ⟨measured₁, found₁, rfl⟩ := Probe.eq_finished hfinished₁
  obtain ⟨measured₂, found₂, rfl⟩ := Probe.eq_finished hfinished₂
  refine ⟨_, _, _, Prod.ext hrest₁ (Prod.ext hrest₂ rfl), ?_⟩
  rw [h.records_iff, h.records_iff, show _ = _ from hbits, barBits_eq_address_iff, ← or_and_left,
    ← or_and_left]
  refine or_congr_right ?_
  simp only [probedAlone, Prod.mk.injEq, Probe.finished.injEq]
  exact ⟨fun ⟨hbar, hfirst, hsecond⟩ => ⟨hfirst, hsecond, hbar⟩,
    fun ⟨hfirst, hsecond, hbar⟩ => ⟨hbar, hfirst, hsecond⟩⟩

end Runs

/-- The register of the SPI controller's BAR. -/
theorem spi_programmed : ProgrammedBar 0xFFFFF000 0x1000 0x8 0xFE010000 :=
  ⟨BarDecodes.size (n := 12) (by decide) (by decide), by decide, by decide, by decide⟩

theorem dmInitBarInfo_interleaved_iff_alone : ∃ cfg₁ cfg₂ : PciMonitorCfg Unit, ∃ host',
    run (IoProg.step (PciHost.bus fun _ => pageBar)) (IoProg.step (PciHost.bus fun _ => pageBar))
        [true, true, true, true, true, false, false, false, false, false]
        (dmInitBarInfo spiDeviceInfo 0 0) (dmInitBarInfo spiDeviceInfo 0 0)
        ⟨0, fun _ => 0xFE010000⟩ = (.done cfg₁, .done cfg₂, host') ∧
      RecordsBar cfg₁ 0 0xFE010000 0x1000 ∧ RecordsBar cfg₂ 0 0xFE010000 0x1000 := by
  obtain ⟨cfg₁, cfg₂, host', hrun, hiff⟩ := dmInitBarInfo_interleaved_iff (fun _ => pageBar) id
    0xFFFFF000 0x1000 0x8 0xFE010000 (spiDeviceInfo : PciMonitorCfg Unit) 0 0 (by decide)
    (by decide) (by decide) (by decide) (by decide)
    ⟨fun _ _ => rfl, fun _ _ => rfl, fun _ _ => rfl⟩ spi_programmed ⟨0, fun _ => 0xFE010000⟩
    (by decide) [true, true, true, true, true, false, false, false, false, false] rfl rfl
  exact ⟨cfg₁, cfg₂, host', hrun, (hiff.2 (Or.inr (by decide))).2⟩

/-- The second processor saves the ones of the first, and restores them last. -/
theorem probes_unmap_bar : ¬∀ (kind : CfgRegister → RegisterKind (BitVec 32))
    (value : BitVec 32 → BitVec 32) (mask size flags address : BitVec 32)
    (cfg : PciMonitorCfg Unit) (k : ℕ) (barIndex : Fin maxBarIndex) (hk : k < maxBarIndex),
    ¬(cfg.Is64Bit barIndex ∧ k + 1 < maxBarIndex) → cfg.deviceNum.toNat < 32 →
    cfg.funcNum.toNat < 8 → (cfg.barOffset ⟨k, hk⟩).toNat % 4 = 0 →
    IsMemoryBar (kind (cfgRegister cfg.busNumber cfg.deviceNum cfg.funcNum
      (cfg.barOffset ⟨k, hk⟩))) value mask flags →
    ProgrammedBar mask size flags address → ∀ host : PciHost (BitVec 32),
    value (host.registers (cfgRegister cfg.busNumber cfg.deviceNum cfg.funcNum
      (cfg.barOffset ⟨k, hk⟩))) &&& mask = address →
    ∀ turns : List Bool, turns.count true = 5 → turns.count false = 5 →
    ∃ cfg₁ cfg₂ host',
      run (IoProg.step (PciHost.bus kind)) (IoProg.step (PciHost.bus kind)) turns
        (dmInitBarInfo cfg k barIndex) (dmInitBarInfo cfg k barIndex) host =
          (.done cfg₁, .done cfg₂, host') ∧
      value (host'.registers (cfgRegister cfg.busNumber cfg.deviceNum cfg.funcNum
        (cfg.barOffset ⟨k, hk⟩))) &&& mask = address ∧
      RecordsBar cfg₁ barIndex address size ∧ RecordsBar cfg₂ barIndex address size := by
  intro hall
  obtain ⟨cfg₁, cfg₂, host', hrun, hbar, -⟩ := hall (fun _ => pageBar) id 0xFFFFF000 0x1000 0x8
    0xFE010000 spiDeviceInfo 0 0 (by decide) (by decide) (by decide) (by decide) (by decide)
    ⟨fun _ _ => rfl, fun _ _ => rfl, fun _ _ => rfl⟩ spi_programmed ⟨0, fun _ => 0xFE010000⟩
    (by decide) [true, true, false, false, true, true, true, false, false, false] rfl rfl
  have hhost := (Prod.mk.inj (Prod.mk.inj hrun).2).2
  rw [← hhost] at hbar
  exact absurd hbar (by decide +kernel)

end DeviceMon
