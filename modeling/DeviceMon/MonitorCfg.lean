import DeviceMon.Ia32
import DeviceMon.Pci
import Mathlib.Data.Fin.VecNotation

/-!
# Monitored devices

The monitor list of `DevMon.cpp` and the functions that fill in and read its BAR
records. A `PciMonitorCfg` holds at most six BARs, and one with a 64-bit BAR has the
callback that joins the two registers.

Callbacks work on a world `C` of their own next to the guest's registers. The
callbacks of the USB and network devices drive a fuzzer and are parameters of the list;
the others only log.
-/

namespace DeviceMon

/-! ## The record -/

/-- `MAX_BAR_INDEX`. -/
abbrev maxBarIndex : ℕ := 6

/-- `PCI_BAR_64BIT`. -/
def pciBar64Bit : BitVec 32 := 0x1

/-- `MMIOCALLBACK` : registers, instruction pointer, address, length and access. -/
abbrev MmioCallback (C : Type) :=
  GpRegisters → BitVec 64 → BitVec 64 → BitVec 32 → BitVec 32 → C → Bool × GpRegisters × C

/-- `OFFSETMAKECALLBACK` : called with the lower and the upper register, in this order. -/
abbrev OffsetMakeCallback :=
  BitVec 64 → BitVec 64 → BitVec 64

/-- `PCIMONITORCFG`. A null callback is `none`. -/
structure PciMonitorCfg (C : Type) where
  busNumber : BitVec 8
  deviceNum : BitVec 8
  funcNum : BitVec 8
  barOffset : Fin maxBarIndex → BitVec 8
  barCount : Fin (maxBarIndex + 1)
  barAddress : Fin maxBarIndex → BitVec 64
  barLimit : Fin maxBarIndex → BitVec 64
  callback : Option (MmioCallback C)
  barAddressWidth : Fin maxBarIndex → BitVec 32
  callback2 : Option OffsetMakeCallback
  /-- A 64-bit BAR has the callback that joins its registers. -/
  callback2_isSome : ∀ {i}, barAddressWidth i &&& pciBar64Bit ≠ 0 → callback2.isSome

namespace PciMonitorCfg

variable {C : Type} (cfg : PciMonitorCfg C) (i : Fin maxBarIndex)

/-- The BAR indices below `BarCount`, in order. -/
def bars : List (Fin maxBarIndex) :=
  (List.finRange maxBarIndex).filter fun i => i.val < cfg.barCount.val

/-- `BarAddressWidth[i] & PCI_BAR_64BIT`. -/
def Is64Bit : Prop :=
  cfg.barAddressWidth i &&& pciBar64Bit ≠ 0

instance : Decidable (cfg.Is64Bit i) :=
  inferInstanceAs (Decidable (_ ≠ _))

/-- The test before "PCIBAR Found Error". -/
def FoundError : Prop :=
  cfg.barAddress i = 0 ∨ cfg.barLimit i = 0 ∨
    cfg.barAddress i &&& 0xFFFFF00000000000 = 0xFFFFF00000000000 ∨
    cfg.barLimit i < cfg.barAddress i

instance : Decidable (cfg.FoundError i) :=
  inferInstanceAs (Decidable (_ ∨ _ ∨ _ ∨ _))

/-- `(ULONG)(BarLimit[i] - BarAddress[i])`. -/
def barSize : BitVec 32 :=
  (cfg.barLimit i - cfg.barAddress i).setWidth 32

/-- `BarAddress[i] = address`, `BarLimit[i] = limit`. -/
def record (address limit : BitVec 64) : PciMonitorCfg C :=
  { cfg with
    barAddress := Function.update cfg.barAddress i address
    barLimit := Function.update cfg.barLimit i limit }

end PciMonitorCfg

/-! ## The devices -/

/-- `INTEL_ME_LOWER_MASK`. -/
def intelMeLowerMask : BitVec 64 := 0xFFFFFFFF0

/-- Joins the registers; a register of all ones gives 0. -/
def intelMeHandleBarCallback : OffsetMakeCallback := fun lowerBar upperBar =>
  if lowerBar &&& 0xFFFFFFFF = 0xFFFFFFFF ∨ upperBar &&& 0xFFFFFFFF = 0xFFFFFFFF then 0
  else upperBar.setWidth 32 ++ (lowerBar &&& intelMeLowerMask).setWidth 32

def intelNicHandleBarCallback : OffsetMakeCallback := fun lowerBar _ => lowerBar

/-- Logs the access. -/
def spiHandleMmioAccessCallback {C : Type} : MmioCallback C := fun context _ _ _ _ world =>
  (false, context, world)

/-- Logs the access. -/
def intelMeHandleMmioAccessCallback {C : Type} : MmioCallback C := fun context _ _ _ _ world =>
  (false, context, world)

section Devices

variable {C : Type}

/-- `SpiDeviceInfo`. -/
def spiDeviceInfo : PciMonitorCfg C where
  busNumber := 0
  deviceNum := 0x1F
  funcNum := 0x5
  barOffset := ![0x10, 0, 0, 0, 0, 0]
  barCount := 1
  barAddress := 0
  barLimit := 0
  callback := some spiHandleMmioAccessCallback
  barAddressWidth := 0
  callback2 := none
  callback2_isSome h := (h (by simp)).elim

/-- `IntelMeDeviceInfo`, `IntelMe2DeviceInfo` and `IntelMe3DeviceInfo` : they differ in the
function number. -/
def intelMeDeviceInfo (funcNum : BitVec 8) : PciMonitorCfg C where
  busNumber := 0
  deviceNum := 22
  funcNum := funcNum
  barOffset := ![0x10, 0x14, 0, 0, 0, 0]
  barCount := 1
  barAddress := 0
  barLimit := 0
  callback := some intelMeHandleMmioAccessCallback
  barAddressWidth := ![pciBar64Bit, 0, 0, 0, 0, 0]
  callback2 := some intelMeHandleBarCallback
  callback2_isSome _ := rfl

/-- `IntelUsb3DeviceInfo`. -/
def intelUsb3DeviceInfo (intelUsb3HandleMmioAccessCallback : MmioCallback C) :
    PciMonitorCfg C where
  busNumber := 0
  deviceNum := 20
  funcNum := 0
  barOffset := ![0x10, 0, 0, 0, 0, 0]
  barCount := 1
  barAddress := 0
  barLimit := 0
  callback := some intelUsb3HandleMmioAccessCallback
  barAddressWidth := 0
  callback2 := none
  callback2_isSome h := (h (by simp)).elim

/-- `MarvellNicDeviceInfo`. -/
def marvellNicDeviceInfo (intelNicHandleMmioAccessCallback : MmioCallback C) :
    PciMonitorCfg C where
  busNumber := 1
  deviceNum := 0
  funcNum := 0
  barOffset := ![0x10, 0x14, 0x18, 0x1C, 0, 0]
  barCount := 2
  barAddress := 0
  barLimit := 0
  callback := some intelNicHandleMmioAccessCallback
  barAddressWidth := ![pciBar64Bit, pciBar64Bit, 0, 0, 0, 0]
  callback2 := some intelNicHandleBarCallback
  callback2_isSome _ := rfl

/-- `g_MonitorDeviceList` as the driver starts. -/
def gMonitorDeviceList (intelUsb3HandleMmioAccessCallback : MmioCallback C)
    (intelNicHandleMmioAccessCallback : MmioCallback C) : List (PciMonitorCfg C) :=
  [spiDeviceInfo, intelMeDeviceInfo 0, intelMeDeviceInfo 1, intelMeDeviceInfo 4,
    intelUsb3DeviceInfo intelUsb3HandleMmioAccessCallback,
    marvellNicDeviceInfo intelNicHandleMmioAccessCallback]

end Devices

/-! ## BAR records -/

/-- The size a BAR decodes : writes all ones, reads back, and restores the register. -/
def dmGetDeviceBarSize (busNumber deviceNumber functionNumber offset : BitVec 8) :
    CfgProg (BitVec 32) := do
  let baseAddr ← readPCICfg busNumber deviceNumber functionNumber offset 4
  writePCICfg busNumber deviceNumber functionNumber offset 4 0xFFFFFFFF
  let size ← readPCICfg busNumber deviceNumber functionNumber offset 4
  writePCICfg busNumber deviceNumber functionNumber offset 4 baseAddr
  return ~~~(size &&& 0xFFFFFFF0) + 1

/-- A BAR register without its low four bits. -/
def dmGetDeviceBarAddress (busNumber deviceNumber functionNumber offset : BitVec 8) :
    CfgProg (BitVec 64) := do
  let pciBarPa ← readPCICfg busNumber deviceNumber functionNumber offset 4
  return pciBarPa.setWidth 64 &&& 0x00000000FFFFFFF0

section Scan

variable {C : Type}

/-- Records address and limit of BAR `barIndex`, whose register is at `barOffsetIndex`. A
BAR that cannot be read keeps its old record. -/
def dmInitBarInfo (cfg : PciMonitorCfg C) (barOffsetIndex : ℕ) (barIndex : Fin maxBarIndex) :
    CfgProg (PciMonitorCfg C) :=
  if h : barOffsetIndex < maxBarIndex then do
    let size ← dmGetDeviceBarSize cfg.busNumber cfg.deviceNum cfg.funcNum
      (cfg.barOffset ⟨barOffsetIndex, h⟩)
    if size = 0 then return cfg
    let lowerPa ← dmGetDeviceBarAddress cfg.busNumber cfg.deviceNum cfg.funcNum
      (cfg.barOffset ⟨barOffsetIndex, h⟩)
    let pciBarPa ←
      if h64 : cfg.Is64Bit barIndex ∧ barOffsetIndex + 1 < maxBarIndex then do
        let upperPa ← dmGetDeviceBarAddress cfg.busNumber cfg.deviceNum cfg.funcNum
          (cfg.barOffset ⟨barOffsetIndex + 1, h64.2⟩)
        pure (cfg.callback2.get (cfg.callback2_isSome h64.1) lowerPa upperPa)
      else pure lowerPa
    if pciBarPa = 0 then return cfg
    return cfg.record barIndex pciBarPa (pciBarPa + size.setWidth 64)
  else return cfg

/-- The loop over the BARs of a device in `DmEnableDeviceMonitor` and
`DmDisableDeviceMonitor` : `pages` is what is done to the pages of each BAR. -/
def dmScanBars {S : Type} (pages : BitVec 64 → BitVec 32 → S → S) :
    List (Fin maxBarIndex) → ℕ → PciMonitorCfg C → S → CfgProg (PciMonitorCfg C × S)
  | [], _, cfg, s => return (cfg, s)
  | barIndex :: bars, barOffsetIndex, cfg, s => do
    let cfg ← dmInitBarInfo cfg barOffsetIndex barIndex
    let barOffsetIndex := if cfg.Is64Bit barIndex then barOffsetIndex + 1 else barOffsetIndex
    if cfg.FoundError barIndex then dmScanBars pages bars (barOffsetIndex + 1) cfg s
    else
      dmScanBars pages bars (barOffsetIndex + 1) cfg
        (pages (cfg.barAddress barIndex) (cfg.barSize barIndex) s)

/-- The loop over the devices. -/
def dmScanDevices {S : Type} (pages : BitVec 64 → BitVec 32 → S → S) :
    List (PciMonitorCfg C) → S → CfgProg (List (PciMonitorCfg C) × S)
  | [], s => return ([], s)
  | cfg :: devices, s => do
    let (cfg, s) ← dmScanBars pages cfg.bars 0 cfg s
    let (devices, s) ← dmScanDevices pages devices s
    return (cfg :: devices, s)

end Scan

end DeviceMon
