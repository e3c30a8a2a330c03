import DeviceMon.InitialMap
import DeviceMon.VmmRun
import Mathlib.Data.List.TakeWhile
import Mathlib.Logic.Relation

/-!
# Physical memory

From the ranges the kernel reports to the entries of a processor. `descriptor` is what
`UtilpBuildPhysicalMemoryRanges` makes of the array of `MmGetPhysicalMemoryRanges`, which an entry
of zeros ends. With it a successful start maps the pages of the reported bytes and the APIC page,
and no others (`physicalMemory_mapped`).

No exit removes a leaf, so an EPT violation that finds no entry is outside of physical memory, in
any state the processor reaches. That is what the assertion of `EptHandleEptViolation` says
(`deviceMemory_asserted`).
-/

namespace DeviceMon

/-! ## The ranges -/

/-- `PHYSICAL_MEMORY_RANGE`. -/
structure PhysicalMemoryRange where
  baseAddress : BitVec 64
  numberOfBytes : BitVec 64
deriving DecidableEq

/-- The array of `MmGetPhysicalMemoryRanges`, with whatever comes after the entry that ends it. -/
structure PhysicalMemoryRanges where
  entries : List PhysicalMemoryRange
  terminated : ⟨0, 0⟩ ∈ entries

/-- `BYTES_TO_PAGES`, of a `LONGLONG`. -/
def bytesToPages (size : BitVec 64) : BitVec 64 :=
  size.sshiftRight 12 + (if size &&& 0xfff ≠ 0 then 1 else 0)

/-- `PhysicalMemoryDescriptor`. The number of runs is a `PFN_COUNT` of 32 bits, which does not
wrap : the array would have to fill 64 GiB of the pool. -/
structure PhysicalMemoryDescriptor where
  numberOfRuns : ℕ
  numberOfPages : BitVec 64
  run : List PhysicalMemoryRun

/-- The first loop, with the runs and the pages so far. -/
def countRuns : List PhysicalMemoryRange → ℕ → BitVec 64 → ℕ × BitVec 64
  | [], numberOfRuns, numberOfPages => (numberOfRuns, numberOfPages)
  | range :: ranges, numberOfRuns, numberOfPages =>
    if range.baseAddress = 0 ∧ range.numberOfBytes = 0 then (numberOfRuns, numberOfPages)
    else countRuns ranges (numberOfRuns + 1) (numberOfPages + bytesToPages range.numberOfBytes)

/-- `current_run` of a block. -/
def PhysicalMemoryRange.run (currentBlock : PhysicalMemoryRange) : PhysicalMemoryRun where
  basePage := utilPfnFromPa currentBlock.baseAddress
  pageCount := (bytesToPages currentBlock.numberOfBytes).toNat

/-- What `UtilpBuildPhysicalMemoryRanges` fills in. -/
def PhysicalMemoryRanges.descriptor (pmRanges : PhysicalMemoryRanges) :
    PhysicalMemoryDescriptor :=
  let (numberOfRuns, numberOfPages) := countRuns pmRanges.entries 0 0
  ⟨numberOfRuns, numberOfPages, (pmRanges.entries.take numberOfRuns).map PhysicalMemoryRange.run⟩

/-- `EptpIsDeviceMemory`. -/
def eptpIsDeviceMemory (pmRanges : PhysicalMemoryDescriptor) (physicalAddress : BitVec 64) : Bool :=
  pmRanges.run.all fun currentRun =>
    let baseAddr := currentRun.basePage * 0x1000
    let endAddr := baseAddr + BitVec.ofNat 64 currentRun.pageCount * 0x1000 - 1
    !utilIsInBounds physicalAddress baseAddr endAddr

/-- The entries before the one that ends the array. -/
def PhysicalMemoryRanges.reported (pmRanges : PhysicalMemoryRanges) : List PhysicalMemoryRange :=
  pmRanges.entries.takeWhile fun range => ¬(range.baseAddress = 0 ∧ range.numberOfBytes = 0)

/-- A byte of the range. -/
def PhysicalMemoryRange.Contains (range : PhysicalMemoryRange) (pa : BitVec 64) : Prop :=
  range.baseAddress.toNat ≤ pa.toNat ∧
    pa.toNat < range.baseAddress.toNat + range.numberOfBytes.toNat

/-- The kernel reports whole pages the tables have an index for. -/
def PhysicalMemoryRange.Paged (range : PhysicalMemoryRange) : Prop :=
  range.baseAddress.toNat % 4096 = 0 ∧
    range.baseAddress.toNat + range.numberOfBytes.toNat ≤ 2 ^ 48

/-! ## The descriptor -/

section Descriptor

variable {range : PhysicalMemoryRange} {pmRanges : PhysicalMemoryRanges}

theorem countRuns_eq (entries : List PhysicalMemoryRange) (n : ℕ) (pages : BitVec 64) :
    countRuns entries n pages = (n + (entries.takeWhile fun range =>
        ¬(range.baseAddress = 0 ∧ range.numberOfBytes = 0)).length,
      (entries.takeWhile fun range =>
        ¬(range.baseAddress = 0 ∧ range.numberOfBytes = 0)).foldl
          (fun pages range => pages + bytesToPages range.numberOfBytes) pages) := by
  induction entries generalizing n pages with
  | nil => rfl
  | cons range entries ih =>
    rw [countRuns]
    by_cases hz : range.baseAddress = 0 ∧ range.numberOfBytes = 0
    · rw [if_pos hz, List.takeWhile_cons_of_neg (by simpa using hz)]
      rfl
    · have hcons : (range :: entries).takeWhile (fun range =>
          ¬(range.baseAddress = 0 ∧ range.numberOfBytes = 0)) = range :: entries.takeWhile
            fun range => ¬(range.baseAddress = 0 ∧ range.numberOfBytes = 0) :=
        List.takeWhile_cons_of_pos (decide_eq_true hz)
      rw [if_neg hz, ih, hcons, List.length_cons, List.foldl_cons, Nat.add_right_comm,
        Nat.add_assoc]

/-- Each reported range has its run, in order. -/
theorem descriptor_run (pmRanges : PhysicalMemoryRanges) :
    pmRanges.descriptor.run = pmRanges.reported.map PhysicalMemoryRange.run ∧
      pmRanges.descriptor.numberOfRuns = pmRanges.reported.length := by
  have hcount := countRuns_eq pmRanges.entries 0 0
  rw [Nat.zero_add] at hcount
  refine ⟨?_, congrArg Prod.fst hcount⟩
  rw [PhysicalMemoryRanges.descriptor, hcount]
  have htake := List.prefix_iff_eq_take.1 (List.takeWhile_prefix
    (fun range : PhysicalMemoryRange => ¬(range.baseAddress = 0 ∧ range.numberOfBytes = 0))
    (l := pmRanges.entries))
  exact congrArg (List.map PhysicalMemoryRange.run) htake.symm

/-- A range whose size has its sign bit clear has as many pages as it touches. -/
theorem toNat_bytesToPages {size : BitVec 64} (hsize : size.toNat ≤ 2 ^ 48) :
    (bytesToPages size).toNat = (size.toNat + 4095) / 4096 := by
  have hshift : size.sshiftRight 12 = size >>> 12 := by
    rw [BitVec.sshiftRight_eq_of_msb_false]
    rw [BitVec.msb_eq_false_iff_two_mul_lt]
    omega
  have hlow : (size &&& 0xfff).toNat = size.toNat % 4096 := by
    rw [BitVec.toNat_and]
    exact Nat.and_two_pow_sub_one_eq_mod _ 12
  have hzero : size &&& 0xfff = 0 ↔ size.toNat % 4096 = 0 := by
    rw [← hlow]
    exact ⟨fun h => by rw [h]; rfl, fun h => BitVec.eq_of_toNat_eq h⟩
  rw [bytesToPages, hshift, BitVec.toNat_add, BitVec.toNat_ushiftRight,
    Nat.shiftRight_eq_div_pow]
  by_cases hm : size.toNat % 4096 = 0
  · rw [if_neg (by simpa using hzero.2 hm)]
    have hz : (0 : BitVec 64).toNat = 0 := rfl
    omega
  · rw [if_pos fun h => hm (hzero.1 h)]
    have ho : (1 : BitVec 64).toNat = 1 := rfl
    omega

theorem toNat_basePage (range : PhysicalMemoryRange) :
    range.run.basePage.toNat = range.baseAddress.toNat / 4096 := by
  rw [PhysicalMemoryRange.run, utilPfnFromPa, BitVec.toNat_ushiftRight, Nat.shiftRight_eq_div_pow]

namespace PhysicalMemoryRange.Paged

theorem pageCount (hr : range.Paged) :
    range.run.pageCount = (range.numberOfBytes.toNat + 4095) / 4096 :=
  toNat_bytesToPages (by have := hr.2; omega)

theorem bound (hr : range.Paged) : range.run.basePage.toNat + range.run.pageCount ≤ 2 ^ 36 := by
  obtain ⟨h0, h1⟩ := hr
  rw [toNat_basePage, pageCount ⟨h0, h1⟩]
  omega

/-- The pages of a run are those of the bytes of its range. -/
theorem contains_iff (hr : range.Paged) {p : Page} :
    range.run.Contains p ↔ ∃ pa, range.Contains pa ∧ pageOf pa = p := by
  have hcount := hr.pageCount
  obtain ⟨h0, h1⟩ := hr
  rw [PhysicalMemoryRun.Contains, toNat_basePage, hcount]
  constructor
  · rintro ⟨hlow, hhigh⟩
    refine ⟨pageAddr p, ⟨?_, ?_⟩, pageOf_pageAddr p⟩
    · rw [toNat_pageAddr]
      omega
    · rw [toNat_pageAddr]
      omega
  · rintro ⟨pa, ⟨hlow, hhigh⟩, rfl⟩
    rw [toNat_pageOf]
    omega

/-- The bounds of a run, as `EptpIsDeviceMemory` computes them. Without a page the end is below
the base, which is not 0 then. -/
theorem inBounds_iff (hr : range.Paged)
    (hne : ¬(range.baseAddress = 0 ∧ range.numberOfBytes = 0)) (pa : BitVec 64) :
    utilIsInBounds pa (range.run.basePage * 0x1000)
        (range.run.basePage * 0x1000 + BitVec.ofNat 64 range.run.pageCount * 0x1000 - 1) = true ↔
      pa.toNat < 2 ^ 48 ∧ range.run.Contains (pageOf pa) := by
  have hcount := hr.pageCount
  have hbase := toNat_basePage range
  obtain ⟨h0, h1⟩ := hr
  have hpage : (0x1000 : BitVec 64).toNat = 4096 := rfl
  have hone : (1 : BitVec 64).toNat = 1 := rfl
  have hstart : (range.run.basePage * 0x1000).toNat = range.baseAddress.toNat := by
    rw [BitVec.toNat_mul, hbase, hpage]
    omega
  have hpos : range.run.pageCount = 0 → 0 < range.baseAddress.toNat := by
    intro hz
    by_contra hnot
    refine hne ⟨BitVec.eq_of_toNat_eq ?_, BitVec.eq_of_toNat_eq ?_⟩
    · have hzero : (0 : BitVec 64).toNat = 0 := rfl
      omega
    · have hzero : (0 : BitVec 64).toNat = 0 := rfl
      omega
  have hend : (range.run.basePage * 0x1000 + BitVec.ofNat 64 range.run.pageCount * 0x1000 -
      1).toNat = range.baseAddress.toNat + range.run.pageCount * 4096 - 1 := by
    rw [BitVec.toNat_sub, BitVec.toNat_add, hstart, BitVec.toNat_mul, BitVec.toNat_ofNat, hpage,
      hone]
    omega
  rw [utilIsInBounds, Bool.and_eq_true, decide_eq_true_iff, decide_eq_true_iff, BitVec.le_def,
    BitVec.le_def, hstart, hend, PhysicalMemoryRun.Contains, hbase, toNat_pageOf]
  omega

end PhysicalMemoryRange.Paged

/-- The runs lie where the tables have an index for. -/
theorem descriptor_bound (hpaged : ∀ range ∈ pmRanges.reported, range.Paged) :
    ∀ r ∈ pmRanges.descriptor.run, r.basePage.toNat + r.pageCount ≤ 2 ^ 36 := by
  rw [(descriptor_run pmRanges).1]
  intro r hr
  obtain ⟨range, hrange, rfl⟩ := List.mem_map.1 hr
  exact (hpaged range hrange).bound

theorem not_zero_of_reported (hr : range ∈ pmRanges.reported) :
    ¬(range.baseAddress = 0 ∧ range.numberOfBytes = 0) := by
  unfold PhysicalMemoryRanges.reported at hr
  have hp := List.mem_takeWhile_imp hr
  exact of_decide_eq_true hp

end Descriptor

/-! ## The entries of a processor -/

section Mapped

variable {pmRanges : PhysicalMemoryRanges} {apicBase : BitVec 24} {h h' : Heap} {data : EptData}

/-- After a successful start the pages of the bytes the kernel reports and the page of the local
APIC have an entry, which maps the page to itself, and no other page has one. -/
theorem physicalMemory_mapped (pool : Pool) (mtrr : Mtrr)
    (hpaged : ∀ range ∈ pmRanges.reported, range.Paged)
    (hok : eptInitialization pool mtrr pmRanges.descriptor.run (apicBase.setWidth 64) h =
      (some data, h')) (p : Page) :
    (((⟨h', data⟩ : EptState).leaf p).all ≠ 0 ↔
        (∃ range ∈ pmRanges.reported, ∃ pa, range.Contains pa ∧ pageOf pa = p) ∨
          p.toNat = apicBase.toNat) ∧
      (((⟨h', data⟩ : EptState).leaf p).all ≠ 0 →
        MapsIdentity mtrr p ((⟨h', data⟩ : EptState).leaf p)) := by
  obtain ⟨hrun, -⟩ := descriptor_run pmRanges
  obtain ⟨hmapped, hidentity⟩ := eptInitialization_maps pool mtrr (descriptor_bound hpaged) hok p
  refine ⟨hmapped.trans (or_congr_left ?_), hidentity⟩
  rw [hrun]
  constructor
  · rintro ⟨r, hr, hp⟩
    obtain ⟨range, hrange, rfl⟩ := List.mem_map.1 hr
    exact ⟨range, hrange, (hpaged range hrange).contains_iff.1 hp⟩
  · rintro ⟨range, hrange, hp⟩
    exact ⟨range.run, List.mem_map_of_mem hrange, (hpaged range hrange).contains_iff.2 hp⟩

/-- One page of memory. -/
def onePageRanges : PhysicalMemoryRanges :=
  ⟨[⟨0, 0x1000⟩, ⟨0, 0⟩], by decide⟩

theorem onePageRanges_paged : ∀ range ∈ onePageRanges.reported, range.Paged := by
  have hreported : onePageRanges.reported = [⟨0, 0x1000⟩] := by decide
  rw [hreported]
  rintro range hrange
  obtain rfl := List.mem_singleton.1 hrange
  exact ⟨by decide, by decide⟩

theorem physicalMemory_mapped_boot :
    ((bootEpt.leaf 0).all ≠ 0 ↔
        (∃ range ∈ onePageRanges.reported, ∃ pa, range.Contains pa ∧ pageOf pa = 0) ∨
          (0 : Page).toNat = (0xFEE00 : BitVec 24).toNat) ∧
      ((bootEpt.leaf 0).all ≠ 0 → MapsIdentity uncached 0 (bootEpt.leaf 0)) :=
  @physicalMemory_mapped onePageRanges 0xFEE00 _ _ _ bumpPool uncached onePageRanges_paged
    boot_eq 0

/-- Device memory is where no range has a byte. -/
theorem eptpIsDeviceMemory_iff (hpaged : ∀ range ∈ pmRanges.reported, range.Paged)
    (pa : BitVec 64) : eptpIsDeviceMemory pmRanges.descriptor pa = true ↔
      (pa.toNat < 2 ^ 48 → ∀ r ∈ pmRanges.descriptor.run, ¬r.Contains (pageOf pa)) := by
  obtain ⟨hrun, -⟩ := descriptor_run pmRanges
  rw [eptpIsDeviceMemory, List.all_eq_true, hrun]
  have hbounds : ∀ range ∈ pmRanges.reported, utilIsInBounds pa (range.run.basePage * 0x1000)
      (range.run.basePage * 0x1000 + BitVec.ofNat 64 range.run.pageCount * 0x1000 - 1) = true ↔
      pa.toNat < 2 ^ 48 ∧ range.run.Contains (pageOf pa) := fun range hrange =>
    (hpaged range hrange).inBounds_iff (not_zero_of_reported hrange) pa
  constructor
  · intro hall hlt r hr hcontains
    obtain ⟨range, hrange, rfl⟩ := List.mem_map.1 hr
    have hout := hall _ hr
    simp only [(hbounds range hrange).2 ⟨hlt, hcontains⟩] at hout
    cases hout
  · intro hnot r hr
    obtain ⟨range, hrange, rfl⟩ := List.mem_map.1 hr
    rw [Bool.not_eq_true', Bool.eq_false_iff]
    intro hin
    obtain ⟨hlt, hcontains⟩ := (hbounds range hrange).1 hin
    exact hnot hlt _ hr hcontains

end Mapped

/-! ## The assertion -/

section Assertion

variable {B C : Type} {m : Machine B} {s s' s₀ : VmmState B C} {reason : VmExitReason}

/-- Some exit. -/
def AnyExit (m : Machine B) (s s' : VmmState B C) : Prop :=
  ∃ reason s₀, ExitStep m reason s s₀ s'

/-- No exit removes a leaf. -/
theorem ExitEffect.eptStep (hi : VmmInv s) (h : ExitEffect m s s' reason) :
    EptStep s.ept s'.ept := by
  cases h with
  | closed hfault hept hnone hflag =>
    rw [hept]
    exact (closed_step hi hfault).choose_spec.2.1
  | opened hentry hret hept hfault hflag =>
    rw [hept]
    exact (opened_step hi hentry).2.1
  | skipped hentry hret hguest hrip =>
    rw [hguest.ept]
    exact .refl hi.ready
  | unmonitored hentry hstate =>
    rw [hstate]
    exact (violation_step m.pool m.mtrr s.qualification hi.ready s.faultAddress).1
  | enabled ranges hnumber hept hfault hflag =>
    rw [hept]
    exact enable_step m.pool m.mtrr hi.ready ranges
  | disabled ranges hnumber hept hfault hflag =>
    rw [hept]
    exact disable_step hi.ready ranges
  | other hguest =>
    rw [hguest.ept]
    exact .refl hi.ready

theorem VmmInv.anyExit (hi : VmmInv s) (h : AnyExit m s s') :
    VmmInv s' ∧ ∀ p, (s.ept.leaf p).all ≠ 0 → (s'.ept.leaf p).all ≠ 0 := by
  obtain ⟨reason, s₀, hstep⟩ := h
  have hi₀ := (hi.of_guestRuns hstep.guest).of_guestRuns (guestRuns_capture s₀)
  have heffect := exit_effect hstep.handled
  refine ⟨hi₀.exit heffect, fun p hp => (heffect.eptStep hi₀).present p ?_⟩
  rw [show (captureGuestContext s₀).ept = s.ept from hstep.guest.ept]
  exact hp

theorem VmmInv.anyExits (hi : VmmInv s) (h : Relation.ReflTransGen (AnyExit m) s s') :
    VmmInv s' ∧ ∀ p, (s.ept.leaf p).all ≠ 0 → (s'.ept.leaf p).all ≠ 0 := by
  induction h with
  | refl => exact ⟨hi, fun _ => id⟩
  | tail _ hstep ih =>
    obtain ⟨hi', hkeep⟩ := ih.1.anyExit hstep
    exact ⟨hi', fun p hp => hkeep p (ih.2 p hp)⟩

/-- `NT_ASSERT(EptpIsDeviceMemory(fault_pa))` holds whenever it is evaluated : at a violation in
any state reached from a start with the reported ranges, if no access is allowed there and the
tables have no entry for the address. -/
theorem deviceMemory_asserted {pmRanges : PhysicalMemoryRanges} {apicBase : BitVec 24} {h : Heap}
    (hpaged : ∀ range ∈ pmRanges.reported, range.Paged)
    (hstart : eptInitialization m.pool m.mtrr pmRanges.descriptor.run (apicBase.setWidth 64) h =
      (some s.ept.data, s.ept.heap))
    (hfault : s.lastFaultEntry = none) (hflag : s.monitorTrapFlag = false)
    (hrun : Relation.ReflTransGen (AnyExit m) s s') (hguest : GuestRuns s' s₀)
    (hmiss : ∀ ptr, eptGetEptPtEntry s₀.ept s₀.faultAddress = some ptr →
      (s₀.ept.read ptr).all = 0) :
    eptpIsDeviceMemory pmRanges.descriptor s₀.faultAddress = true := by
  obtain ⟨hi', hkeep⟩ := (VmmInv.launch hstart hfault hflag).anyExits hrun
  have hi₀ := hi'.of_guestRuns hguest
  rw [eptpIsDeviceMemory_iff hpaged]
  intro _ r hr hcontains
  have hpresent := (eptInitialization_maps m.pool m.mtrr (descriptor_bound hpaged) hstart
    (pageOf s₀.faultAddress)).1.2 (Or.inl ⟨r, hr, hcontains⟩)
  have hleaf := hkeep _ hpresent
  rw [← hguest.ept] at hleaf
  cases hget : eptGetEptPtEntry s₀.ept s₀.faultAddress with
  | none =>
    rw [hi₀.ready.leaf_of_none hget] at hleaf
    exact hleaf EptCommonEntry.all_zero
  | some ptr =>
    rw [← hi₀.ready.read_slot hget] at hleaf
    exact hleaf (hmiss ptr hget)

end Assertion

/-- After the enabling hypercall, the first access to the page after the BAR of the SPI
controller. Its entry is in the table that the call made for the BAR. -/
theorem deviceMemory_asserted_spi :
    eptpIsDeviceMemory onePageRanges.descriptor 0xFED01000 = true := by
  set s := userState 3 bootEpt
  set s' := userCall 0xFFFFF000 3 bootEpt
  have hcall : AnyExit (spiMachine 0xFFFFF000) s s' :=
    ⟨.vmcall, s, rfl, ⟨rfl, rfl, rfl⟩, trivial, rfl⟩
  have hmiss : ((eptGetEptPtEntry s'.ept 0xFED01000).all fun ptr =>
      (s'.ept.read ptr).all = 0) = true := by
    decide +kernel
  exact @deviceMemory_asserted _ _ (spiMachine 0xFFFFF000) s s' (atViolation ⟨1⟩ 0xFED01000 s')
    onePageRanges 0xFEE00 _ onePageRanges_paged boot_eq rfl (by decide) (.single hcall)
    ⟨rfl, rfl, rfl⟩ fun ptr hptr =>
      of_decide_eq_true ((Option.all_eq_true _ _).1 hmiss ptr hptr)

end DeviceMon
