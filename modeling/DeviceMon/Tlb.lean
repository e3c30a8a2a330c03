import DeviceMon.SingleStep
import DeviceMon.TranslationCache

/-!
# Cached translations

The processor caches what it finds in the tables, and goes by that until an INVEPT. The handlers of
`VmmState` leave the INVEPTs out; here they are, with the cache of the processor. VM exits and VM
entries keep the cache, as the guest has a VPID.

Every handler that changes the tables has flushed the cache when the guest goes on. So the cache is
coherent in every run, and the runs of the processor with its cache are runs of `Reachable`
(`cached_refines`). A page that is trapped cannot be read or written through an old translation
either (`cached_denies`).
-/

namespace DeviceMon

open Cached (Coherent Fills Follows)

/-! ## Translations -/

/-- What the processor caches for a page : its frame, and what the entries of the walk permit
together. -/
structure Translation where
  frame : BitVec 36
  readable : Bool
  writeable : Bool
  executable : Bool
deriving DecidableEq

/-- What a walk finds for a page. A page without any permission has no translation. -/
def EptState.translation (s : EptState) (p : Page) : Option Translation :=
  let allows permission := eptAllows permission s 4 s.data.eptPml4 (pageAddr p)
  let t : Translation := ⟨(s.leaf p).physialAddress, allows (·.readAccess), allows (·.writeAccess),
    allows (·.executeAccess)⟩
  if t.readable || t.writeable || t.executable then some t else none

/-- Tables with the cache of their processor. -/
abbrev CachedEpt :=
  Cached EptState Page Translation

/-- A processor with its cache. -/
abbrev CachedVmm (B C : Type) :=
  Cached (VmmState B C) Page Translation

/-- The tables of a processor, as it caches them. -/
def VmmState.translation {B C : Type} (s : VmmState B C) : Page → Option Translation :=
  s.ept.translation

/-! ## Handlers with their INVEPTs -/

namespace Tlb

/-- `UtilInveptGlobal`. -/
def utilInveptGlobal {S : Type} (x : Cached S Page Translation) : Cached S Page Translation :=
  x.flush

/-- `EptpMapGpaToHpa` with the INVEPT after it. -/
def mapGpaToHpa (pool : Pool) (mtrr : Mtrr) (pa : BitVec 64) (x : CachedEpt) :
    Option EntryPtr × CachedEpt :=
  let (entry, s) := eptpMapGpaToHpa pool mtrr pa x.state
  (entry, utilInveptGlobal { x with state := s })

def findOrMapEntry (pool : Pool) (mtrr : Mtrr) (pa : BitVec 64) (x : CachedEpt) :
    Option EntryPtr × CachedEpt :=
  match eptGetEptPtEntry x.state pa with
  | some ptr => if (x.state.read ptr).all = 0 then mapGpaToHpa pool mtrr pa x else (some ptr, x)
  | none => mapGpaToHpa pool mtrr pa x

def invalidateEptPage (pool : Pool) (mtrr : Mtrr) (pa : BitVec 64) (x : CachedEpt) :
    Bool × CachedEpt :=
  match findOrMapEntry pool mtrr pa x with
  | (none, x) => (false, x)
  | (some ptr, x) =>
    if (x.state.read ptr).all = 0 then (false, x)
    else (true, utilInveptGlobal { x with state := x.state.modify ptr .trap })

def invalidateEptPagesLoop (pool : Pool) (mtrr : Mtrr) (guestPhysAddr : BitVec 64) :
    ℕ → ℕ → BitVec 32 → CachedEpt → CachedEpt
  | 0, _, _, x => x
  | n + 1, k, pciBarSpacePa, x =>
    match invalidateEptPage pool mtrr (pciBarSpacePa.setWidth 64) x with
    | (false, x) => x
    | (true, x) =>
      invalidateEptPagesLoop pool mtrr guestPhysAddr n (k + 1) (pageCursor guestPhysAddr k) x

/-- `InvalidateEptPages`. -/
def invalidateEptPages (pool : Pool) (mtrr : Mtrr) (guestPhysAddr : BitVec 64) (size : BitVec 32)
    (x : CachedEpt) : CachedEpt :=
  invalidateEptPagesLoop pool mtrr guestPhysAddr (addressAndSizeToSpanPages size) 0
    (guestPhysAddr.setWidth 32) x

def validateEptPage (pa : BitVec 64) (x : CachedEpt) : CachedEpt :=
  match eptGetEptPtEntry x.state pa with
  | none => x
  | some ptr =>
    if (x.state.read ptr).all = 0 then x
    else utilInveptGlobal { x with state := x.state.modify ptr .pass }

def validateEptPagesLoop (guestPhysAddr : BitVec 64) : ℕ → ℕ → BitVec 32 → CachedEpt → CachedEpt
  | 0, _, _, x => x
  | n + 1, k, pciBarSpacePa, x =>
    validateEptPagesLoop guestPhysAddr n (k + 1) (pageCursor guestPhysAddr k)
      (validateEptPage (pciBarSpacePa.setWidth 64) x)

/-- `ValidateEptPages`. -/
def validateEptPages (guestPhysAddr : BitVec 64) (size : BitVec 32) (x : CachedEpt) : CachedEpt :=
  validateEptPagesLoop guestPhysAddr (addressAndSizeToSpanPages size) 0
    (guestPhysAddr.setWidth 32) x

/-- `EptHandleEptViolation`. -/
def eptHandleEptViolation (pool : Pool) (mtrr : Mtrr) (q : EptViolationQualification)
    (faultPa : BitVec 64) (x : CachedEpt) : CachedEpt :=
  if q.eptReadable || q.eptWriteable || q.eptExecutable then x
  else
    let constructed := utilInveptGlobal { x with
      state := (eptpConstructTables pool mtrr true 4 x.state.data.eptPml4 faultPa x.state).2 }
    match eptGetEptPtEntry x.state faultPa with
    | some ptr => if (x.state.read ptr).all ≠ 0 then x else constructed
    | none => constructed

section Handlers

variable {B C : Type}

/-- `VmmpHandleMonitorTrap`. -/
def vmmpHandleMonitorTrap (x : CachedVmm B C) : Option (CachedVmm B C) :=
  match x.state.lastFaultEntry with
  | none => none
  | some eptPtEntry =>
    let s := { x.state with ept := x.state.ept.modify eptPtEntry .trap, lastFaultEntry := none }
    let x := utilInveptGlobal { x with state := s }
    some { x with state := dmSetMonitorTrapFlag false x.state }

/-- `VmmpHandleMmio`. -/
def vmmpHandleMmio (x : CachedVmm B C) : Bool × CachedVmm B C :=
  match mmioEntry x.state with
  | none => (false, x)
  | some faultEntry =>
    let r := mmioCallback x.state
    let s := { x.state with gpRegs := r.context, world := r.world }
    if !r.ret then
      let x := utilInveptGlobal { x with state := { s with ept := s.ept.modify faultEntry .pass } }
      (true, { x with
        state := dmSetMonitorTrapFlag true { x.state with lastFaultEntry := some faultEntry } })
    else (true, { x with state := vmmpAdjustGuestInstructionPointer s })

/-- `VmmpHandleEptViolation`. -/
def vmmpHandleEptViolation (m : Machine B) (x : CachedVmm B C) : CachedVmm B C :=
  match vmmpHandleMmio x with
  | (true, x) => x
  | (false, x) =>
    let y := eptHandleEptViolation m.pool m.mtrr ⟨utilVmRead x.state .exitQualification⟩
      (utilVmRead x.state .guestPhysicalAddress) ⟨x.state.ept, x.cache⟩
    ⟨{ x.state with ept := y.state }, y.cache⟩

/-- `VmmpHandleVmCall`. The hypercalls that do not touch the tables have no INVEPT. -/
def vmmpHandleVmCall (m : Machine B) (x : CachedVmm B C) : CachedVmm B C :=
  match HypercallNumber.ofValue (x.state.gpRegs.cx.setWidth 32) with
  | some .enableVmmDeviceMonitor =>
    let ((devices, y), pci) :=
      (dmScanDevices (invalidateEptPages m.pool m.mtrr) x.state.devices
        (⟨x.state.ept, x.cache⟩ : CachedEpt)).run m.bus x.state.pci
    ⟨vmmpIndicateSuccessfulVmcall { x.state with devices := devices, ept := y.state, pci := pci },
      y.cache⟩
  | some .disableVmmDeviceMonitor =>
    let ((devices, y), pci) :=
      (dmScanDevices validateEptPages x.state.devices
        (⟨x.state.ept, x.cache⟩ : CachedEpt)).run m.bus x.state.pci
    ⟨vmmpIndicateSuccessfulVmcall { x.state with devices := devices, ept := y.state, pci := pci },
      y.cache⟩
  | _ => { x with state := DeviceMon.vmmpHandleVmCall m x.state }

/-- `VmmpHandleVmExit`. -/
def vmmpHandleVmExit (m : Machine B) (reason : VmExitReason) (x : CachedVmm B C) :
    Option (CachedVmm B C) :=
  match reason with
  | .monitorTrapFlag => vmmpHandleMonitorTrap x
  | .eptViolation => some (vmmpHandleEptViolation m x)
  | .vmcall => some (vmmpHandleVmCall m x)

/-- `VmmVmExitHandler`. -/
def vmmVmExitHandler (m : Machine B) (reason : VmExitReason) (x : CachedVmm B C) :
    Option (CachedVmm B C) :=
  (vmmpHandleVmExit m reason { x with state := captureGuestContext x.state }).map fun x =>
    if !x.state.vmContinue then utilInveptGlobal x else x

end Handlers

/-! ## What the handlers do -/

section Effect

variable (pool : Pool) (mtrr : Mtrr)

/-- With its cache, an operation on the tables. -/
abbrev FollowsEpt (s' : EptState) (x x' : CachedEpt) : Prop :=
  Follows EptState.translation s' x x'

theorem mapGpaToHpa_follows (pa : BitVec 64) (x : CachedEpt) :
    (mapGpaToHpa pool mtrr pa x).1 = (eptpMapGpaToHpa pool mtrr pa x.state).1 ∧
      FollowsEpt (eptpMapGpaToHpa pool mtrr pa x.state).2 x (mapGpaToHpa pool mtrr pa x).2 :=
  ⟨rfl, .flush _ x ⟨_, x.cache⟩⟩

theorem findOrMapEntry_follows (pa : BitVec 64) (x : CachedEpt) :
    (findOrMapEntry pool mtrr pa x).1 = (DeviceMon.findOrMapEntry pool mtrr pa x.state).1 ∧
      FollowsEpt (DeviceMon.findOrMapEntry pool mtrr pa x.state).2 x
        (findOrMapEntry pool mtrr pa x).2 := by
  unfold findOrMapEntry DeviceMon.findOrMapEntry
  cases eptGetEptPtEntry x.state pa with
  | none => exact mapGpaToHpa_follows pool mtrr pa x
  | some ptr =>
    by_cases hz : (x.state.read ptr).all = 0
    · simp only [if_pos hz]
      exact mapGpaToHpa_follows pool mtrr pa x
    · simp only [if_neg hz]
      exact ⟨trivial, .refl _ x⟩

theorem invalidateEptPage_follows (pa : BitVec 64) (x : CachedEpt) :
    (invalidateEptPage pool mtrr pa x).1 = (DeviceMon.invalidateEptPage pool mtrr pa x.state).1 ∧
      FollowsEpt (DeviceMon.invalidateEptPage pool mtrr pa x.state).2 x
        (invalidateEptPage pool mtrr pa x).2 := by
  obtain ⟨hptr, hfind⟩ := findOrMapEntry_follows pool mtrr pa x
  rcases hx : findOrMapEntry pool mtrr pa x with ⟨found, y⟩
  rcases hs : DeviceMon.findOrMapEntry pool mtrr pa x.state with ⟨found', t⟩
  rw [hx, hs] at hptr hfind
  obtain rfl : found = found' := hptr
  obtain rfl : y.state = t := hfind.state
  cases found with
  | none =>
    simp only [invalidateEptPage, DeviceMon.invalidateEptPage, hx, hs]
    exact ⟨trivial, hfind⟩
  | some ptr =>
    simp only [invalidateEptPage, DeviceMon.invalidateEptPage, hx, hs]
    by_cases hz : (y.state.read ptr).all = 0
    · simp only [if_pos hz]
      exact ⟨trivial, hfind⟩
    · simp only [if_neg hz]
      exact ⟨trivial, hfind.trans (.flush _ y ⟨_, y.cache⟩)⟩

theorem invalidateEptPagesLoop_follows (gpa : BitVec 64) (n k : ℕ) (cursor : BitVec 32)
    (x : CachedEpt) :
    FollowsEpt (DeviceMon.invalidateEptPagesLoop pool mtrr gpa n k cursor x.state) x
      (invalidateEptPagesLoop pool mtrr gpa n k cursor x) := by
  induction n generalizing k cursor x with
  | zero => exact .refl _ x
  | succ n ih =>
    obtain ⟨hend, hpage⟩ := invalidateEptPage_follows pool mtrr (cursor.setWidth 64) x
    rcases hx : invalidateEptPage pool mtrr (cursor.setWidth 64) x with ⟨reached, y⟩
    rcases hs : DeviceMon.invalidateEptPage pool mtrr (cursor.setWidth 64) x.state with
      ⟨reached', t⟩
    rw [hx, hs] at hend hpage
    obtain rfl : reached = reached' := hend
    obtain rfl : y.state = t := hpage.state
    cases reached with
    | false =>
      simp only [invalidateEptPagesLoop, DeviceMon.invalidateEptPagesLoop, hx, hs]
      exact hpage
    | true =>
      simp only [invalidateEptPagesLoop, DeviceMon.invalidateEptPagesLoop, hx, hs]
      exact hpage.trans (ih (k + 1) (pageCursor gpa k) y)

theorem invalidateEptPages_follows (gpa : BitVec 64) (size : BitVec 32) (x : CachedEpt) :
    FollowsEpt (DeviceMon.invalidateEptPages pool mtrr gpa size x.state) x
      (invalidateEptPages pool mtrr gpa size x) :=
  invalidateEptPagesLoop_follows pool mtrr gpa _ _ _ x

theorem validateEptPage_follows (pa : BitVec 64) (x : CachedEpt) :
    FollowsEpt (DeviceMon.validateEptPage pa x.state) x (validateEptPage pa x) := by
  unfold validateEptPage DeviceMon.validateEptPage
  cases eptGetEptPtEntry x.state pa with
  | none => exact .refl _ x
  | some ptr =>
    by_cases hz : (x.state.read ptr).all = 0
    · simp only [if_pos hz]
      exact .refl _ x
    · simp only [if_neg hz]
      exact .flush _ x ⟨_, x.cache⟩

theorem validateEptPages_follows (gpa : BitVec 64) (size : BitVec 32) (x : CachedEpt) :
    FollowsEpt (DeviceMon.validateEptPages gpa size x.state) x (validateEptPages gpa size x) := by
  have hloop : ∀ (n k : ℕ) (cursor : BitVec 32) (x : CachedEpt),
      FollowsEpt (DeviceMon.validateEptPagesLoop gpa n k cursor x.state) x
        (validateEptPagesLoop gpa n k cursor x) := by
    intro n
    induction n with
    | zero => exact fun _ _ x => .refl _ x
    | succ n ih =>
      intro k cursor x
      have hpage := validateEptPage_follows (cursor.setWidth 64) x
      have hrest := ih (k + 1) (pageCursor gpa k) (validateEptPage (cursor.setWidth 64) x)
      rw [hpage.state] at hrest
      exact hpage.trans hrest
  exact hloop _ _ _ x

/-- The page loops of a scan follow those on the tables alone. -/
theorem onRanges_follows {pages : BitVec 64 → BitVec 32 → EptState → EptState}
    {pages' : BitVec 64 → BitVec 32 → CachedEpt → CachedEpt}
    (hpages : ∀ gpa size x, FollowsEpt (pages gpa size x.state) x (pages' gpa size x))
    (ranges : List BarRange) (x : CachedEpt) :
    FollowsEpt (onRanges pages ranges x.state) x (onRanges pages' ranges x) :=
  Follows.foldl (fun x (range : BarRange) => hpages range.1 range.2 x) ranges x

theorem eptHandleEptViolation_follows (q : EptViolationQualification) (pa : BitVec 64)
    (x : CachedEpt) :
    FollowsEpt (DeviceMon.eptHandleEptViolation pool mtrr q pa x.state) x
      (eptHandleEptViolation pool mtrr q pa x) := by
  unfold eptHandleEptViolation DeviceMon.eptHandleEptViolation
  by_cases hq : (q.eptReadable || q.eptWriteable || q.eptExecutable) = true
  · simp only [if_pos hq]
    exact .refl _ x
  · simp only [if_neg hq]
    cases eptGetEptPtEntry x.state pa with
    | none => exact .flush _ x ⟨_, x.cache⟩
    | some ptr =>
      by_cases hz : (x.state.read ptr).all ≠ 0
      · simp only [if_pos hz]
        exact .refl _ x
      · simp only [if_neg hz]
        exact .flush _ x ⟨_, x.cache⟩

end Effect

section Effect

variable {B C : Type} {s' : VmmState B C} {reason : VmExitReason}

/-- With its cache, a handler. -/
abbrev FollowsVmm (s' : VmmState B C) (x x' : CachedVmm B C) : Prop :=
  Follows VmmState.translation s' x x'

/-- A handler that works on the tables with their cache. -/
theorem follows_of_ept {x : CachedVmm B C} {y : CachedEpt} {t : EptState}
    (h : FollowsEpt t ⟨x.state.ept, x.cache⟩ y) (hs : s'.ept = t) :
    FollowsVmm s' x ⟨s', y.cache⟩ := by
  refine ⟨rfl, ?_⟩
  rcases h.cache with ⟨htable, hcache⟩ | hempty
  · refine Or.inl ⟨?_, hcache⟩
    change s'.ept.translation = x.state.ept.translation
    rw [hs, ← h.state]
    exact htable
  · exact Or.inr hempty

/-- A handler that leaves the tables alone. -/
theorem follows_of_ept_eq (x : CachedVmm B C) (hs : s'.ept = x.state.ept) :
    FollowsVmm s' x { x with state := s' } :=
  .keep x (by rw [VmmState.translation, hs]; rfl)

theorem vmmpHandleMonitorTrap_follows {x x' : CachedVmm B C}
    (h : vmmpHandleMonitorTrap x = some x') : ∃ s',
      DeviceMon.vmmpHandleMonitorTrap x.state = some s' ∧ FollowsVmm s' x x' := by
  unfold vmmpHandleMonitorTrap at h
  unfold DeviceMon.vmmpHandleMonitorTrap
  cases hfault : x.state.lastFaultEntry with
  | none =>
    simp only [hfault] at h
    cases h
  | some ptr =>
    simp only [hfault] at h
    cases h
    exact ⟨_, rfl, rfl, Or.inr rfl⟩

theorem vmmpHandleMmio_follows (x : CachedVmm B C) :
    (vmmpHandleMmio x).1 = (DeviceMon.vmmpHandleMmio x.state).1 ∧
      FollowsVmm (DeviceMon.vmmpHandleMmio x.state).2 x (vmmpHandleMmio x).2 := by
  unfold vmmpHandleMmio DeviceMon.vmmpHandleMmio
  cases mmioEntry x.state with
  | none => exact ⟨rfl, .refl _ x⟩
  | some ptr =>
    cases hret : (mmioCallback x.state).ret with
    | false =>
      simp only [hret, Bool.not_false, if_true]
      exact ⟨trivial, rfl, Or.inr rfl⟩
    | true =>
      simp only [hret, Bool.not_true, Bool.false_eq_true, if_false]
      exact ⟨trivial, follows_of_ept_eq x (onlyVmcs_adjust _).ept⟩

theorem vmmpHandleEptViolation_follows (m : Machine B) (x : CachedVmm B C) :
    FollowsVmm (DeviceMon.vmmpHandleEptViolation m x.state) x (vmmpHandleEptViolation m x) := by
  obtain ⟨hret, hmmio⟩ := vmmpHandleMmio_follows x
  rcases hx : vmmpHandleMmio x with ⟨handled, y⟩
  rcases hs : DeviceMon.vmmpHandleMmio x.state with ⟨handled', t⟩
  rw [hx, hs] at hret hmmio
  obtain rfl : handled = handled' := hret
  obtain rfl : y.state = t := hmmio.state
  cases handled with
  | true =>
    simp only [vmmpHandleEptViolation, DeviceMon.vmmpHandleEptViolation, hx, hs]
    exact hmmio
  | false =>
    simp only [vmmpHandleEptViolation, DeviceMon.vmmpHandleEptViolation, hx, hs]
    have hept := eptHandleEptViolation_follows m.pool m.mtrr
      ⟨utilVmRead y.state .exitQualification⟩ (utilVmRead y.state .guestPhysicalAddress)
      ⟨y.state.ept, y.cache⟩
    rw [hept.state]
    exact hmmio.trans (follows_of_ept hept rfl)

/-- A scan with page loops that follow others. -/
theorem scan_follows (m : Machine B) (x : CachedVmm B C)
    {pages : BitVec 64 → BitVec 32 → EptState → EptState}
    {pages' : BitVec 64 → BitVec 32 → CachedEpt → CachedEpt}
    (hpages : ∀ gpa size y, FollowsEpt (pages gpa size y.state) y (pages' gpa size y)) :
    let r := (dmScanDevices pages x.state.devices x.state.ept).run m.bus x.state.pci
    let r' := (dmScanDevices pages' x.state.devices
      (⟨x.state.ept, x.cache⟩ : CachedEpt)).run m.bus x.state.pci
    FollowsVmm
      (vmmpIndicateSuccessfulVmcall { x.state with devices := r.1.1, ept := r.1.2, pci := r.2 }) x
      ⟨vmmpIndicateSuccessfulVmcall
        { x.state with devices := r'.1.1, ept := r'.1.2.state, pci := r'.2 }, r'.1.2.cache⟩ := by
  intro r r'
  have hloops := onRanges_follows hpages ((scanRanges x.state.devices).run m.bus x.state.pci).1.2
    ⟨x.state.ept, x.cache⟩
  simp only [r, r', run_dmScanDevices, hloops.state]
  exact follows_of_ept hloops (onlyVmcs_successful _).ept

/-- A hypercall that neither enables nor disables the monitor leaves the tables alone. -/
theorem vmcall_keeps_ept (m : Machine B) {s : VmmState B C}
    (he : HypercallNumber.ofValue (s.gpRegs.cx.setWidth 32) ≠ some .enableVmmDeviceMonitor)
    (hd : HypercallNumber.ofValue (s.gpRegs.cx.setWidth 32) ≠ some .disableVmmDeviceMonitor) :
    (DeviceMon.vmmpHandleVmCall m s).ept = s.ept := by
  cases vmcall_effect m s with
  | enabled ranges hnumber => exact (he (HypercallNumber.ofValue_eq_some.2 hnumber)).elim
  | disabled ranges hnumber => exact (hd (HypercallNumber.ofValue_eq_some.2 hnumber)).elim
  | other hguest => exact hguest.ept

theorem vmmpHandleVmCall_follows (m : Machine B) (x : CachedVmm B C) :
    FollowsVmm (DeviceMon.vmmpHandleVmCall m x.state) x (vmmpHandleVmCall m x) := by
  by_cases he : HypercallNumber.ofValue (x.state.gpRegs.cx.setWidth 32) =
      some .enableVmmDeviceMonitor
  · simp only [vmmpHandleVmCall, DeviceMon.vmmpHandleVmCall, he, dmEnableDeviceMonitor]
    exact scan_follows m x (invalidateEptPages_follows m.pool m.mtrr)
  · by_cases hd : HypercallNumber.ofValue (x.state.gpRegs.cx.setWidth 32) =
        some .disableVmmDeviceMonitor
    · simp only [vmmpHandleVmCall, DeviceMon.vmmpHandleVmCall, hd, dmDisableDeviceMonitor]
      exact scan_follows m x validateEptPages_follows
    · have hkeep : vmmpHandleVmCall m x =
          { x with state := DeviceMon.vmmpHandleVmCall m x.state } := by
        unfold vmmpHandleVmCall
        split
        · exact (he ‹_›).elim
        · exact (hd ‹_›).elim
        · rfl
      rw [hkeep]
      exact follows_of_ept_eq x (vmcall_keeps_ept m he hd)

/-- Every exit is handled as without the cache, which is empty afterwards unless the tables are
unchanged. -/
theorem vmmVmExitHandler_follows {m : Machine B} {x x' : CachedVmm B C}
    (h : vmmVmExitHandler m reason x = some x') : ∃ s',
      DeviceMon.vmmVmExitHandler m reason x.state = some s' ∧ FollowsVmm s' x x' := by
  have hcapture : FollowsVmm (captureGuestContext x.state) x
      { x with state := captureGuestContext x.state } := follows_of_ept_eq x rfl
  obtain ⟨y, hy, rfl⟩ := Option.map_eq_some_iff.1 h
  have hhandled : ∃ s', DeviceMon.vmmVmExitHandler m reason x.state = some s' ∧
      FollowsVmm s' { x with state := captureGuestContext x.state } y := by
    cases reason with
    | monitorTrapFlag => exact vmmpHandleMonitorTrap_follows hy
    | eptViolation =>
      cases hy
      exact ⟨_, rfl,
        vmmpHandleEptViolation_follows m { x with state := captureGuestContext x.state }⟩
    | vmcall =>
      cases hy
      exact ⟨_, rfl, vmmpHandleVmCall_follows m { x with state := captureGuestContext x.state }⟩
  obtain ⟨s', hs', hfollows⟩ := hhandled
  refine ⟨s', hs', hcapture.trans ?_⟩
  split_ifs
  · rw [← hfollows.state]
    exact .flush _ _ y
  · exact hfollows

/-- The INVEPTs stop no handler. -/
theorem vmmVmExitHandler_returns {m : Machine B} (x : CachedVmm B C)
    (h : DeviceMon.vmmVmExitHandler m reason x.state = some s') :
    ∃ x', vmmVmExitHandler m reason x = some x' := by
  cases reason with
  | eptViolation => exact ⟨_, rfl⟩
  | vmcall => exact ⟨_, rfl⟩
  | monitorTrapFlag =>
    cases hfault : x.state.lastFaultEntry with
    | none =>
      have hcapture : (captureGuestContext x.state).lastFaultEntry = none := hfault
      simp only [DeviceMon.vmmVmExitHandler, DeviceMon.vmmpHandleVmExit,
        DeviceMon.vmmpHandleMonitorTrap, hcapture] at h
      cases h
    | some ptr =>
      have hcapture : (captureGuestContext x.state).lastFaultEntry = some ptr := hfault
      simp only [vmmVmExitHandler, vmmpHandleVmExit, vmmpHandleMonitorTrap, hcapture]
      exact ⟨_, rfl⟩

end Effect

end Tlb

/-! ## Runs -/

section Runs

variable {B C : Type} {m : Machine B} {reason : VmExitReason} {x x₀ x' : CachedVmm B C}

/-- The processor denies an access by a translation, and reports what that permits. -/
structure DeniedBy (t : Translation) (s : VmmState B C) : Prop where
  denied : s.qualification.readAccess = true ∧ t.readable = false ∨
    s.qualification.writeAccess = true ∧ t.writeable = false ∨
    s.qualification.executeAccess = true ∧ t.executable = false
  readable : s.qualification.eptReadable = t.readable
  writeable : s.qualification.eptWriteable = t.writeable
  executable : s.qualification.eptExecutable = t.executable
  length : 1 ≤ (s.vmcs .vmExitInstructionLen).toNat ∧ (s.vmcs .vmExitInstructionLen).toNat ≤ 15

/-- The exits of a processor with its cache : it raises an EPT violation by a walk of the tables or
by a cached translation. -/
inductive CachedExitRaised : VmExitReason → CachedVmm B C → Prop where
  | walked {x : CachedVmm B C} {reason : VmExitReason} (h : ExitRaised reason x.state) :
      CachedExitRaised reason x
  | cached {x : CachedVmm B C} {t : Translation}
      (h : x.cache (pageOf x.state.faultAddress) = some t) (denied : DeniedBy t x.state) :
      CachedExitRaised .eptViolation x

/-- `ExitStep` with the cache. -/
structure CachedExitStep (m : Machine B) (reason : VmExitReason) (x x₀ x' : CachedVmm B C) :
    Prop where
  running : x.state.vmContinue = true
  guest : GuestRuns x.state x₀.state
  fills : Fills VmmState.translation x x₀
  raised : CachedExitRaised reason x₀
  handled : Tlb.vmmVmExitHandler m reason x₀ = some x'

/-- The states reached from a successful start. `VmpEnterVmxMode` leaves an empty cache. -/
inductive CachedReachable (m : Machine B) : CachedVmm B C → Prop where
  | launch {x : CachedVmm B C} {runs : List PhysicalMemoryRun} {apicBase : BitVec 64} {h : Heap}
      (start : eptInitialization m.pool m.mtrr runs apicBase h =
        (some x.state.ept.data, x.state.ept.heap))
      (noFault : x.state.lastFaultEntry = none) (noFlag : x.state.monitorTrapFlag = false)
      (flushed : x.cache = fun _ => none) : CachedReachable m x
  | exit {reason : VmExitReason} {x x₀ x' : CachedVmm B C} (reached : CachedReachable m x)
      (step : CachedExitStep m reason x x₀ x') : CachedReachable m x'

/-- Its leaf decides what is cached for a page. -/
theorem translation_eq {s : EptState} (h : EptReady s) (p : Page) : s.translation p =
    if (s.leaf p).readAccess || (s.leaf p).writeAccess || (s.leaf p).executeAccess then
      some ⟨(s.leaf p).physialAddress, (s.leaf p).readAccess, (s.leaf p).writeAccess,
        (s.leaf p).executeAccess⟩
    else none := by
  have hr := @EptReady.allows_eq s (·.readAccess) h rfl (fun e he => he.1) (pageAddr p)
  have hw := @EptReady.allows_eq s (·.writeAccess) h rfl (fun e he => he.2.1) (pageAddr p)
  have hx := @EptReady.allows_eq s (·.executeAccess) h rfl (fun e he => he.2.2) (pageAddr p)
  rw [pageOf_pageAddr] at hr hw hx
  simp only [EptState.translation, hr, hw, hx]

theorem translation_some {s : EptState} {p : Page} {t : Translation} (h : EptReady s)
    (ht : s.translation p = some t) : t.frame = (s.leaf p).physialAddress ∧
      t.readable = (s.leaf p).readAccess ∧ t.writeable = (s.leaf p).writeAccess ∧
      t.executable = (s.leaf p).executeAccess := by
  rw [translation_eq h] at ht
  split_ifs at ht
  obtain rfl := Option.some.inj ht
  exact ⟨rfl, rfl, rfl, rfl⟩

/-- While the cache is coherent, a violation by a cached translation is one by a walk. -/
theorem CachedExitRaised.walk (h : CachedExitRaised reason x) (hi : VmmInv x.state)
    (hc : Coherent VmmState.translation x) : ExitRaised reason x.state := by
  cases h with
  | walked h => exact h
  | @cached _ t hcached hdenied =>
    obtain ⟨-, hr, hw, hx⟩ := translation_some hi.ready (hc _ t hcached)
    have hr' := hi.walkAllows_eq (·.readAccess) rfl fun e he => he.1
    have hw' := hi.walkAllows_eq (·.writeAccess) rfl fun e he => he.2.1
    have hx' := hi.walkAllows_eq (·.executeAccess) rfl fun e he => he.2.2
    refine ⟨?_, hdenied.readable.trans (hr.trans hr'.symm),
      hdenied.writeable.trans (hw.trans hw'.symm), hdenied.executable.trans (hx.trans hx'.symm),
      hdenied.length⟩
    rw [hr', hw', hx']
    have hdenied := hdenied.denied
    rw [hr, hw, hx] at hdenied
    exact hdenied

/-- The step of the processor with its cache is a step without it, and keeps the cache coherent. -/
theorem CachedExitStep.refines (h : CachedExitStep m reason x x₀ x') (hi : VmmInv x.state)
    (hc : Coherent VmmState.translation x) : ExitStep m reason x.state x₀.state x'.state ∧
      Coherent VmmState.translation x' := by
  have htable : x₀.state.translation = x.state.translation :=
    congrArg EptState.translation h.guest.ept
  have hraised := h.raised.walk (hi.of_guestRuns h.guest) (hc.fills htable h.fills)
  obtain ⟨s', hs', hfollows⟩ := Tlb.vmmVmExitHandler_follows h.handled
  rw [← hfollows.state] at hs'
  exact ⟨⟨h.running, h.guest, hraised, hs'⟩, hc.step htable h.fills hfollows⟩

/-- The state with every translation of its tables cached. -/
def filled (s : VmmState B C) : CachedVmm B C :=
  ⟨s, s.translation⟩

/-- A step without the cache is one of a processor that caches all it can. -/
theorem ExitStep.cached {s₀ s' : VmmState B C} (h : ExitStep m reason x.state s₀ s') :
    ∃ x', CachedExitStep m reason x (filled s₀) x' ∧ x'.state = s' := by
  obtain ⟨x', hx'⟩ := Tlb.vmmVmExitHandler_returns (filled s₀) h.handled
  refine ⟨x', ⟨h.running, h.guest, fun _ _ ht => Or.inr ht, .walked h.raised, hx'⟩, ?_⟩
  obtain ⟨s'', hs'', hfollows⟩ := Tlb.vmmVmExitHandler_follows hx'
  rw [hfollows.state]
  exact Option.some.inj (hs''.symm.trans h.handled)

theorem CachedReachable.invariant (h : CachedReachable m x) :
    Reachable m x.state ∧ Coherent VmmState.translation x := by
  induction h with
  | launch start noFault noFlag flushed => exact ⟨.launch start noFault noFlag, .of_empty flushed⟩
  | exit reached step ih =>
    obtain ⟨hstep, hc⟩ := step.refines ih.1.inv ih.2
    exact ⟨ih.1.exit hstep, hc⟩

/-- With its cache the processor reaches no states but those it reaches without. Whatever it has
cached is what a walk of the tables finds, and its next exit is one that a walk raises. -/
theorem cached_refines (h : CachedReachable m x) : Reachable m x.state ∧
    (∀ p t, x.cache p = some t → x.state.ept.translation p = some t) ∧
    ∀ reason x₀, GuestRuns x.state x₀.state → Fills VmmState.translation x x₀ →
      CachedExitRaised reason x₀ → ExitRaised reason x₀.state := by
  obtain ⟨hreached, hc⟩ := h.invariant
  refine ⟨hreached, hc, fun reason x₀ hguest hfill hraised => ?_⟩
  have htable : x₀.state.translation = x.state.translation :=
    congrArg EptState.translation hguest.ept
  exact hraised.walk (hreached.inv.of_guestRuns hguest) (hc.fills htable hfill)

/-! ## Trapped pages -/

variable {T : Set Page}

/-- `SafeStep` with the cache. -/
def CachedSafeStep (m : Machine B) (T : Set Page) (x x' : CachedVmm B C) : Prop :=
  ∃ reason x₀, CachedExitStep m reason x x₀ x' ∧ ¬DisableCall reason x₀.state ∧
    ¬Overwrites T reason (captureGuestContext x₀.state)

theorem Armed.cachedStep (h : Armed T x.state) (hc : Coherent VmmState.translation x)
    (hs : CachedSafeStep m T x x') : Armed T x'.state ∧ Coherent VmmState.translation x' := by
  obtain ⟨reason, x₀, hstep, hdisable, hover⟩ := hs
  obtain ⟨hstep', hc'⟩ := hstep.refines h.inv hc
  exact ⟨h.step ⟨reason, x₀.state, hstep', hdisable, hover⟩, hc'⟩

theorem Armed.cachedRun (h : Armed T x₀.state) (hc : Coherent VmmState.translation x₀)
    (hrun : Relation.ReflTransGen (CachedSafeStep m T) x₀ x) :
    Armed T x.state ∧ Coherent VmmState.translation x := by
  induction hrun with
  | refl => exact ⟨h, hc⟩
  | tail _ hs ih => exact ih.1.cachedStep ih.2 hs

/-- A trapped page has one translation. -/
theorem translation_of_trapped {s : EptState} {p : Page} (h : EptReady s)
    (htrap : (s.leaf p).Trapped) :
    s.translation p = some ⟨(s.leaf p).physialAddress, false, false, true⟩ := by
  obtain ⟨-, hr, hw, hx⟩ := htrap
  rw [translation_eq h, hr, hw, hx]
  rfl

/-- From trapped pages, after a run that neither disables the monitor nor overwrites a pending page,
the guest runs on with the monitor trap flag clear. Then the processor denies it any read or write
of these pages, by a walk as well as by what it cached before, and it can still fetch from them. -/
theorem cached_denies (h : CachedReachable m x₀)
    (hstart : ∀ p ∈ T, (x₀.state.ept.leaf p).Trapped)
    (hrun : Relation.ReflTransGen (CachedSafeStep m T) x₀ x)
    (hflag : x.state.monitorTrapFlag = false) (hguest : GuestRuns x.state x'.state)
    (hfill : Fills VmmState.translation x x') :
    ∀ p ∈ T, x'.state.ept.translation p = some ⟨p, false, false, true⟩ ∧
      ∀ t, x'.cache p = some t → t = ⟨p, false, false, true⟩ := by
  intro p hp
  obtain ⟨hreached, hc⟩ := h.invariant
  have harmed₀ : Armed T x₀.state := ⟨hreached.inv, fun p hp => Or.inl (hstart p hp)⟩
  obtain ⟨harmed, hc'⟩ := harmed₀.cachedRun hc hrun
  have htrap := harmed.trapped hflag p hp
  have hframe : (x.state.ept.leaf p).physialAddress = p := (harmed.inv.identity p htrap.1).1
  have htable : x'.state.ept.translation p = some ⟨p, false, false, true⟩ := by
    rw [hguest.ept, translation_of_trapped harmed.inv.ready htrap, hframe]
  refine ⟨htable, fun t ht => ?_⟩
  have hcoherent := hc'.fills (congrArg EptState.translation hguest.ept) hfill
  have hwalk : x'.state.ept.translation p = some t := hcoherent p t ht
  rw [htable] at hwalk
  exact (Option.some.inj hwalk).symm

end Runs

/-! ## A run -/

/-- The monitor enabled for the BAR of `largeBar`, by a processor that had cached all it could. -/
theorem largeBar_cached :
    ∃ x, CachedReachable (spiMachine 0xFFFFC000) x ∧ x.state = largeBar := by
  have hlaunch : CachedReachable (spiMachine 0xFFFFC000)
      (⟨userState 3 bootEpt, fun _ => none⟩ : CachedVmm (BitVec 32) Unit) :=
    .launch boot_eq rfl rfl rfl
  have hcall : ExitStep (spiMachine 0xFFFFC000) .vmcall (userState 3 bootEpt)
      (userState 3 bootEpt) largeBar := ⟨rfl, ⟨rfl, rfl, rfl⟩, trivial, rfl⟩
  obtain ⟨x, hstep, hs⟩ := ExitStep.cached
    (x := (⟨userState 3 bootEpt, fun _ => none⟩ : CachedVmm (BitVec 32) Unit)) hcall
  exact ⟨x, hlaunch.exit hstep, hs⟩

theorem cached_refines_largeBar : ∃ x : CachedVmm (BitVec 32) Unit, x.state = largeBar ∧
    Reachable (spiMachine 0xFFFFC000) x.state ∧
    (∀ p t, x.cache p = some t → x.state.ept.translation p = some t) ∧
    ∀ reason x₀, GuestRuns x.state x₀.state → Fills VmmState.translation x x₀ →
      CachedExitRaised reason x₀ → ExitRaised reason x₀.state := by
  obtain ⟨x, hx, hs⟩ := largeBar_cached
  exact ⟨x, hs, cached_refines hx⟩

/-- A read of its first page is single-stepped, while the processor caches all it can. -/
theorem cached_denies_largeBar : ∃ x₀ x₁ x : CachedVmm (BitVec 32) Unit,
    x₀.state = largeBar ∧ x₁.state = largeBarRead ∧
    CachedSafeStep (spiMachine 0xFFFFC000) {0xFED00} x₀ x₁ ∧
    CachedSafeStep (spiMachine 0xFFFFC000) {0xFED00} x₁ x ∧
    ∀ p ∈ ({0xFED00} : Set Page),
      (filled x.state).state.ept.translation p = some ⟨p, false, false, true⟩ ∧
      ∀ t, (filled x.state).cache p = some t → t = ⟨p, false, false, true⟩ := by
  obtain ⟨x₀, hx₀, hs₀⟩ := largeBar_cached
  have hread := read_step
  rw [← hs₀] at hread
  obtain ⟨x₁, hstep₁, hs₁⟩ := hread.cached
  have htrap := read_monitorTrap_step
  rw [← hs₁] at htrap
  obtain ⟨x, hstep, hs⟩ := htrap.cached
  have hsafe₁ : CachedSafeStep (spiMachine 0xFFFFC000) {0xFED00} x₀ x₁ := by
    refine ⟨_, _, hstep₁, fun h => ?_, ?_⟩
    · cases h.1
    · rintro ⟨-, p, hp, hne, -⟩
      rw [Set.mem_singleton_iff.1 hp, hs₀] at hne
      exact hne pageOf_firstPage.symm
  have hsafe : CachedSafeStep (spiMachine 0xFFFFC000) {0xFED00} x₁ x := by
    refine ⟨_, _, hstep, fun h => ?_, fun h => ?_⟩
    · cases h.1
    · cases h.1.1
  have hflag : x.state.monitorTrapFlag = false := by
    rw [hs]
    exact flag_after_monitorTrap htrap
  refine ⟨x₀, x₁, x, hs₀, hs₁, hsafe₁, hsafe, cached_denies hx₀ (fun p hp => ?_)
    ((Relation.ReflTransGen.single hsafe₁).tail hsafe) hflag ⟨rfl, rfl, rfl⟩
    fun _ _ ht => Or.inr ht⟩
  rw [Set.mem_singleton_iff.1 hp, hs₀]
  exact largeBar_traps.1

end DeviceMon
