import DeviceMon.Ept
import DeviceMon.MonitorCfg

/-!
# The device monitor

The rest of `DevMon.cpp` : the loops that trap and untrap the pages of a BAR, the two
hypercalls over the monitor list, and the two scans of a fault.

Both page loops move their cursor at the end of the body to `GuestPhysAddr` plus the page
size times the index of the body just run, in 32 bits. `DmEnableDeviceMonitor` and
`DmDisableDeviceMonitor` are one scan with different loops and return `STATUS_SUCCESS`,
which no caller reads.
-/

namespace DeviceMon

/-! ## Page loops -/

/-- `ADDRESS_AND_SIZE_TO_SPAN_PAGES(0, Size)`. -/
def addressAndSizeToSpanPages (size : BitVec 32) : ℕ :=
  (size.toNat + 4095) / 4096

/-- `(ULONG)GuestPhysAddr + PAGE_SIZE * k`. -/
def pageCursor (guestPhysAddr : BitVec 64) (k : ℕ) : BitVec 32 :=
  guestPhysAddr.setWidth 32 + 0x1000 * BitVec.ofNat 32 k

/-- The entry for `pa` in a round of `InvalidateEptPages`, mapped now if there is none. -/
def findOrMapEntry (pool : Pool) (mtrr : Mtrr) (pa : BitVec 64) (s : EptState) :
    Option EntryPtr × EptState :=
  match eptGetEptPtEntry s pa with
  | some ptr => if (s.read ptr).all = 0 then eptpMapGpaToHpa pool mtrr pa s else (some ptr, s)
  | none => eptpMapGpaToHpa pool mtrr pa s

/-- One round of `InvalidateEptPages`; the answer is whether it reached the end. -/
def invalidateEptPage (pool : Pool) (mtrr : Mtrr) (pa : BitVec 64) (s : EptState) :
    Bool × EptState :=
  match findOrMapEntry pool mtrr pa s with
  | (none, s) => (false, s)
  | (some ptr, s) => if (s.read ptr).all = 0 then (false, s) else (true, s.modify ptr .trap)

/-- The loop of `InvalidateEptPages` from body `k` on, with the number of bodies left. -/
def invalidateEptPagesLoop (pool : Pool) (mtrr : Mtrr) (guestPhysAddr : BitVec 64) :
    ℕ → ℕ → BitVec 32 → EptState → EptState
  | 0, _, _, s => s
  | n + 1, k, pciBarSpacePa, s =>
    match invalidateEptPage pool mtrr (pciBarSpacePa.setWidth 64) s with
    | (false, s) => s
    | (true, s) =>
      invalidateEptPagesLoop pool mtrr guestPhysAddr n (k + 1) (pageCursor guestPhysAddr k) s

/-- `InvalidateEptPages`. -/
def invalidateEptPages (pool : Pool) (mtrr : Mtrr) (guestPhysAddr : BitVec 64) (size : BitVec 32)
    (s : EptState) : EptState :=
  invalidateEptPagesLoop pool mtrr guestPhysAddr (addressAndSizeToSpanPages size) 0
    (guestPhysAddr.setWidth 32) s

/-- One round of `ValidateEptPages`. A page without an entry is skipped, so the `break`
after the second test is never taken. -/
def validateEptPage (pa : BitVec 64) (s : EptState) : EptState :=
  match eptGetEptPtEntry s pa with
  | none => s
  | some ptr => if (s.read ptr).all = 0 then s else s.modify ptr .pass

/-- The loop of `ValidateEptPages` from body `k` on, with the number of bodies left. -/
def validateEptPagesLoop (guestPhysAddr : BitVec 64) : ℕ → ℕ → BitVec 32 → EptState → EptState
  | 0, _, _, s => s
  | n + 1, k, pciBarSpacePa, s =>
    validateEptPagesLoop guestPhysAddr n (k + 1) (pageCursor guestPhysAddr k)
      (validateEptPage (pciBarSpacePa.setWidth 64) s)

/-- `ValidateEptPages`. -/
def validateEptPages (guestPhysAddr : BitVec 64) (size : BitVec 32) (s : EptState) : EptState :=
  validateEptPagesLoop guestPhysAddr (addressAndSizeToSpanPages size) 0
    (guestPhysAddr.setWidth 32) s

section Monitor

variable {C : Type}

/-! ## Hypercalls -/

/-- `DmEnableDeviceMonitor`. -/
def dmEnableDeviceMonitor (pool : Pool) (mtrr : Mtrr) (devices : List (PciMonitorCfg C))
    (s : EptState) : CfgProg (List (PciMonitorCfg C) × EptState) :=
  dmScanDevices (invalidateEptPages pool mtrr) devices s

/-- `DmDisableDeviceMonitor`. -/
def dmDisableDeviceMonitor (devices : List (PciMonitorCfg C)) (s : EptState) :
    CfgProg (List (PciMonitorCfg C) × EptState) :=
  dmScanDevices validateEptPages devices s

/-! ## Faults -/

/-- `DmIsMonitoredDevice`. -/
def dmIsMonitoredDevice (devices : List (PciMonitorCfg C)) (mmioAddress : BitVec 32) : Bool :=
  devices.any fun cfg => cfg.bars.any fun j =>
    (cfg.barAddress j).setWidth 32 ≤ mmioAddress ∧ mmioAddress ≤ (cfg.barLimit j).setWidth 32

/-- The test of `DmExecuteCallback` for one BAR. -/
def PciMonitorCfg.Matches (cfg : PciMonitorCfg C) (mmioAddress : BitVec 64)
    (j : Fin maxBarIndex) : Prop :=
  ((cfg.barAddress j).setWidth 32).setWidth 64 ≤ mmioAddress ∧
    mmioAddress ≤ ((cfg.barLimit j).setWidth 32).setWidth 64

instance (cfg : PciMonitorCfg C) (mmioAddress : BitVec 64) (j : Fin maxBarIndex) :
    Decidable (cfg.Matches mmioAddress j) :=
  inferInstanceAs (Decidable (_ ∧ _))

/-- What the callbacks of a fault have done so far. -/
structure CallbackRun (C : Type) where
  ret : Bool
  context : GpRegisters
  world : C
  /-- Positions of the devices called, in order. No code reads it. -/
  called : List ℕ

/-- The body of the loop over the devices in `DmExecuteCallback`, for device `i`. -/
def dmExecuteCallbackStep (instPointer mmioAddress : BitVec 64) (instLen access : BitVec 32)
    (i : ℕ) (cfg : PciMonitorCfg C) (r : CallbackRun C) : CallbackRun C :=
  if cfg.bars.any fun j => cfg.Matches mmioAddress j then
    match cfg.callback with
    | some callback =>
      let (ret, context, world) :=
        callback r.context instPointer mmioAddress instLen access r.world
      ⟨ret, context, world, r.called ++ [i]⟩
    | none => r
  else r

/-- The loop of `DmExecuteCallback` from device `i` on. -/
def dmExecuteCallbackLoop (instPointer mmioAddress : BitVec 64) (instLen access : BitVec 32) :
    ℕ → List (PciMonitorCfg C) → CallbackRun C → CallbackRun C
  | _, [], r => r
  | i, cfg :: devices, r =>
    dmExecuteCallbackLoop instPointer mmioAddress instLen access (i + 1) devices
      (dmExecuteCallbackStep instPointer mmioAddress instLen access i cfg r)

/-- `DmExecuteCallback` : every device with a matching BAR is called, the last one decides. -/
def dmExecuteCallback (devices : List (PciMonitorCfg C)) (context : GpRegisters)
    (instPointer mmioAddress : BitVec 64) (instLen access : BitVec 32) (world : C) :
    CallbackRun C :=
  dmExecuteCallbackLoop instPointer mmioAddress instLen access 0 devices
    ⟨false, context, world, []⟩

end Monitor

end DeviceMon
