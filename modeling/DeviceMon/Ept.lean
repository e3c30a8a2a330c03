import DeviceMon.Mtrr

/-!
# EPT tables

The functions of `ept.cpp` over an explicit heap. A table is a frame of 512
entries; `Heap.table` is the memory behind all frames, `live` the pool blocks
held and `freed` those given back. The pool is outside the driver : `Pool`
answers the `n`-th request as it likes, but a page it hands out is not in use
and not frame 0, which stands for a null table pointer. A frame and the virtual
address of its table are one thing here (`UtilVaFromPfn` inverts `UtilPaFromVa`).

`EptData *ept_data` is null while the tables are first built and non-null later;
functions that only test the pointer take that test as a `Bool`. The counter of
used preallocated tables is a natural number; the 32-bit counter of the code
agrees with it for the first `2 ^ 31 - 1` requests, and the next one would index
outside the array.
-/

namespace DeviceMon

/-! ## The pool -/

/-- A block of non-paged pool : a page of entries, or a small structure. -/
inductive PoolBlock where
  | page (frame : Frame)
  | data (id : ℕ)
deriving DecidableEq

/-- Memory of tables and the record of pool blocks. -/
structure Heap where
  table : Frame → TableIndex → EptCommonEntry
  live : List PoolBlock
  freed : List PoolBlock
  /-- Blocks handed out so far, the latest first. No code reads it. -/
  allocated : List PoolBlock
  /-- Requests made so far. -/
  requests : ℕ
  /-- Requests the pool refused so far. No code reads it. -/
  refused : ℕ

/-- How the system answers `ExAllocatePoolWithTag`. -/
structure Pool where
  /-- Answer to the `n`-th request, for a page. -/
  page : ℕ → Heap → Option Frame
  /-- Whether the `n`-th request, for a small structure, succeeds. -/
  data : ℕ → Bool
  /-- A page handed out is not frame 0 and not in use. -/
  page_fresh : ∀ {n h f}, page n h = some f → f ≠ 0 ∧ .page f ∉ h.live

namespace Heap

/-- `ExAllocatePoolWithTag(NonPagedPool, PAGE_SIZE, ..)`. The contents are left over. -/
def allocatePage (pool : Pool) (h : Heap) : Option Frame × Heap :=
  match pool.page h.requests h with
  | none => (none, { h with requests := h.requests + 1, refused := h.refused + 1 })
  | some f => (some f, { h with
      live := .page f :: h.live, allocated := .page f :: h.allocated, requests := h.requests + 1 })

/-- `ExAllocatePoolWithTag` of a structure smaller than a page. -/
def allocateData (pool : Pool) (h : Heap) : Option PoolBlock × Heap :=
  if pool.data h.requests then
    (some (.data h.requests), { h with
      live := .data h.requests :: h.live
      allocated := .data h.requests :: h.allocated
      requests := h.requests + 1 })
  else (none, { h with requests := h.requests + 1, refused := h.refused + 1 })

/-- `ExFreePoolWithTag`. -/
def free (b : PoolBlock) (h : Heap) : Heap :=
  { h with live := h.live.erase b, freed := b :: h.freed }

/-- `RtlZeroMemory` of a page of entries. -/
def zeroPage (f : Frame) (h : Heap) : Heap :=
  { h with table := fun g => if g = f then fun _ => .zero else h.table g }

/-- A store to one entry. -/
def write (f : Frame) (i : TableIndex) (e : EptCommonEntry) (h : Heap) : Heap :=
  { h with table := fun g j => if g = f ∧ j = i then e else h.table g j }

end Heap

/-! ## Addresses -/

/-- `UtilPfnFromPa`. -/
def utilPfnFromPa (pa : BitVec 64) : BitVec 64 :=
  pa >>> 12

/-- `UtilPaFromVa` of a table. -/
def utilPaFromVa (table : Frame) : BitVec 64 :=
  table.setWidth 64 <<< 12

/-- `UtilVaFromPfn` of the frame field of an entry. -/
def utilVaFromPfn (pfn : Frame) : Frame :=
  pfn

/-- `kEptpPtxMask`. -/
def kEptpPtxMask : BitVec 64 := 0x1ff

def eptpAddressToPxeIndex (pa : BitVec 64) : BitVec 64 := (pa >>> 39) &&& kEptpPtxMask

def eptpAddressToPpeIndex (pa : BitVec 64) : BitVec 64 := (pa >>> 30) &&& kEptpPtxMask

def eptpAddressToPdeIndex (pa : BitVec 64) : BitVec 64 := (pa >>> 21) &&& kEptpPtxMask

def eptpAddressToPteIndex (pa : BitVec 64) : BitVec 64 := (pa >>> 12) &&& kEptpPtxMask

/-- The index the `switch (table_level)` of the walks uses : PML4 is level 4, PT level 1. -/
def tableIndex (level : ℕ) (pa : BitVec 64) : TableIndex :=
  match level with
  | 4 => (eptpAddressToPxeIndex pa).setWidth 9
  | 3 => (eptpAddressToPpeIndex pa).setWidth 9
  | 2 => (eptpAddressToPdeIndex pa).setWidth 9
  | _ => (eptpAddressToPteIndex pa).setWidth 9

/-! ## Availability -/

/-- Checks if the system supports EPT technology sufficient enough. -/
def eptIsEptAvailable (capability : Ia32VmxEptVpidCapMsr) : Bool :=
  !(!capability.supportPageWalkLength4 || !capability.supportWriteBackMemoryType ||
    !capability.supportInvept || !capability.supportSingleContextInvept ||
    !capability.supportAllContextInvept || !capability.supportInvvpid ||
    !capability.supportIndividualAddressInvvpid || !capability.supportSingleContextInvvpid ||
    !capability.supportAllContextInvvpid ||
    !capability.supportSingleContextRetainingGlobalsInvvpid)

/-! ## EPT data -/

/-- `kEptpNumberOfPreallocatedEntries`. -/
def kEptpNumberOfPreallocatedEntries : ℕ := 50

/-- `EptData`. A slot of the array past the end of the list is null. -/
structure EptData where
  eptPml4 : Frame
  preallocatedEntries : List Frame
  preallocatedEntriesCount : ℕ
  /-- The block of the array. -/
  preallocatedArray : PoolBlock
  /-- The block of the structure itself. -/
  self : PoolBlock

/-- A zeroed `EptData`. -/
def EptData.zero : EptData :=
  ⟨0, [], 0, .data 0, .data 0⟩

/-- The heap together with the `EptData` of one processor. -/
structure EptState where
  heap : Heap
  data : EptData

/-- `EptCommonEntry *` : a frame and an index in it. -/
abbrev EntryPtr := Frame × TableIndex

namespace EptState

/-- `*ptr`. -/
def read (s : EptState) (ptr : EntryPtr) : EptCommonEntry :=
  s.heap.table ptr.1 ptr.2

/-- `*ptr = e`. -/
def write (s : EptState) (ptr : EntryPtr) (e : EptCommonEntry) : EptState :=
  { s with heap := s.heap.write ptr.1 ptr.2 e }

/-- `*ptr = f(*ptr)`. -/
def modify (s : EptState) (ptr : EntryPtr) (f : EptCommonEntry → EptCommonEntry) : EptState :=
  s.write ptr (f (s.read ptr))

end EptState

/-! ## Allocation -/

/-- Returns a new zeroed table from the pool. -/
def eptpAllocateEptEntryFromPool (pool : Pool) (s : EptState) : Option Frame × EptState :=
  match s.heap.allocatePage pool with
  | (none, h) => (none, { s with heap := h })
  | (some f, h) => (some f, { s with heap := h.zeroPage f })

/-- Returns a new table from the preallocated ones, or from the pool once they are used up. -/
def eptpAllocateEptEntryFromPreAllocated (pool : Pool) (s : EptState) : Option Frame × EptState :=
  let count := s.data.preallocatedEntriesCount + 1
  let s := { s with data := { s.data with preallocatedEntriesCount := count } }
  if count > kEptpNumberOfPreallocatedEntries then eptpAllocateEptEntryFromPool pool s
  else (s.data.preallocatedEntries[count - 1]?, s)

/-- Returns a new table; `hasData` is whether `ept_data` is non-null. -/
def eptpAllocateEptEntry (pool : Pool) (hasData : Bool) (s : EptState) : Option Frame × EptState :=
  if hasData then eptpAllocateEptEntryFromPreAllocated pool s
  else eptpAllocateEptEntryFromPool pool s

/-! ## Construction and walk -/

/-- Initializes an entry with a pass-through attribute. -/
def eptpInitTableEntry (mtrr : Mtrr) (e : EptCommonEntry) (level : ℕ) (pa : BitVec 64) :
    EptCommonEntry :=
  { e.pass with
    physialAddress := (utilPfnFromPa pa).setWidth 36
    memoryType := if level = 1 then (eptpGetMemoryType mtrr pa).setWidth 3 else e.memoryType }

/-- The `if (!entry->all)` block shared by the cases 4, 3 and 2 of `EptpConstructTables` :
links a new table under an unused entry. The answer is whether there is a table. -/
def eptpLinkTable (pool : Pool) (mtrr : Mtrr) (hasData : Bool) (level : ℕ) (ptr : EntryPtr)
    (s : EptState) : Bool × EptState :=
  if (s.read ptr).all = 0 then
    match eptpAllocateEptEntry pool hasData s with
    | (none, s) => (false, s)
    | (some t, s) =>
      (true, s.modify ptr fun e => eptpInitTableEntry mtrr e level (utilPaFromVa t))
  else (true, s)

/-- Allocates and initializes all entries on the way to `pa` and returns the leaf. -/
def eptpConstructTables (pool : Pool) (mtrr : Mtrr) (hasData : Bool) :
    ℕ → Frame → BitVec 64 → EptState → Option EntryPtr × EptState
  | 0, _, _, s => (none, s)
  | 1, table, pa, s =>
    let ptr := (table, tableIndex 1 pa)
    (some ptr, s.modify ptr fun e => eptpInitTableEntry mtrr e 1 pa)
  | level + 2, table, pa, s =>
    if 4 < level + 2 then (none, s)
    else
      let ptr := (table, tableIndex (level + 2) pa)
      match eptpLinkTable pool mtrr hasData (level + 2) ptr s with
      | (false, s) => (none, s)
      | (true, s) =>
        eptpConstructTables pool mtrr hasData (level + 1)
          (utilVaFromPfn (s.read ptr).physialAddress) pa s

/-- `EptpMapGpaToHpa`. -/
def eptpMapGpaToHpa (pool : Pool) (mtrr : Mtrr) (pa : BitVec 64) (s : EptState) :
    Option EntryPtr × EptState :=
  eptpConstructTables pool mtrr true 4 s.data.eptPml4 pa s

/-- Returns the leaf entry for `pa`, if the tables above it exist. -/
def eptpGetEptPtEntry (s : EptState) : ℕ → Frame → BitVec 64 → Option EntryPtr
  | 0, _, _ => none
  | 1, table, pa => if table = 0 then none else some (table, tableIndex 1 pa)
  | level + 2, table, pa =>
    if table = 0 then none
    else if 4 < level + 2 then none
    else
      let e := s.read (table, tableIndex (level + 2) pa)
      if e.all = 0 then none
      else eptpGetEptPtEntry s (level + 1) (utilVaFromPfn e.physialAddress) pa

/-- `EptGetEptPtEntry`. -/
def eptGetEptPtEntry (s : EptState) (pa : BitVec 64) : Option EntryPtr :=
  eptpGetEptPtEntry s 4 s.data.eptPml4 pa

/-! ## Start-up and teardown -/

/-- Frees all tables by walking through the whole EPT. -/
def eptpDestructTables : ℕ → Frame → EptState → EptState
  | 0, table, s => { s with heap := s.heap.free (.page table) }
  | level + 1, table, s =>
    let s := (List.finRange 512).foldl (fun s i =>
      let e := s.read (table, BitVec.ofFin i)
      if e.physialAddress = 0 then s
      else
        let subTable := utilVaFromPfn e.physialAddress
        if level + 1 = 4 ∨ level + 1 = 3 then eptpDestructTables level subTable s
        else if level + 1 = 2 then { s with heap := s.heap.free (.page subTable) }
        else s) s
    { s with heap := s.heap.free (.page table) }

/-- Frees the preallocated tables from `usedCount` on, and their array. A table past the
first null slot is left alone. -/
def eptpFreeUnusedPreAllocatedEntries (entries : List Frame) (array : PoolBlock) (usedCount : ℕ)
    (h : Heap) : Heap :=
  ((entries.drop usedCount).foldl (fun h f => h.free (.page f)) h).free array

/-- `PhysicalMemoryRun`. -/
structure PhysicalMemoryRun where
  basePage : BitVec 64
  pageCount : ℕ

/-- The addresses the two loops of `EptInitialization` pass to `EptpConstructTables`. -/
def PhysicalMemoryRun.addresses (r : PhysicalMemoryRun) : List (BitVec 64) :=
  (List.range r.pageCount).map fun i => r.basePage * 0x1000 + BitVec.ofNat 64 i * 0x1000

/-- Maps every address of a list, stopping at the first failure. -/
def eptpConstructAll (pool : Pool) (mtrr : Mtrr) (table : Frame) :
    List (BitVec 64) → EptState → Bool × EptState
  | [], s => (true, s)
  | pa :: pas, s =>
    match eptpConstructTables pool mtrr false 4 table pa s with
    | (none, s) => (false, s)
    | (some _, s) => eptpConstructAll pool mtrr table pas s

/-- The loop that fills `preallocated_entries`, with the tables it has so far. -/
def eptpFillPreallocated (pool : Pool) : ℕ → List Frame → EptState → Bool × List Frame × EptState
  | 0, entries, s => (true, entries, s)
  | n + 1, entries, s =>
    match eptpAllocateEptEntry pool false s with
    | (none, s) => (false, entries, s)
    | (some f, s) => eptpFillPreallocated pool n (entries ++ [f]) s

/-- Builds the EPT : maps the physical memory `runs` and the APIC page, and allocates the
preallocated tables. `none` is a null return; the state then has what is left in the pool. -/
def eptInitialization (pool : Pool) (mtrr : Mtrr) (runs : List PhysicalMemoryRun)
    (apicBase : BitVec 64) (h : Heap) : Option EptData × Heap :=
  match h.allocateData pool with
  | (none, h) => (none, h)
  | (some eptData, h) =>
    match h.allocatePage pool with
    | (none, h) => (none, h.free eptData)
    | (some pml4, h) =>
      let s : EptState := ⟨h.zeroPage pml4, .zero⟩
      let fail (s : EptState) : Option EptData × Heap :=
        (none, (eptpDestructTables 4 pml4 s).heap.free eptData)
      match eptpConstructAll pool mtrr pml4
          ((runs.flatMap PhysicalMemoryRun.addresses) ++ [apicBase * 0x1000]) s with
      | (false, s) => fail s
      | (true, s) =>
        match s.heap.allocateData pool with
        | (none, h) => fail { s with heap := h }
        | (some array, h) =>
          match eptpFillPreallocated pool kEptpNumberOfPreallocatedEntries []
              { s with heap := h } with
          | (false, entries, s) =>
            fail { s with heap := eptpFreeUnusedPreAllocatedEntries entries array 0 s.heap }
          | (true, entries, s) => (some ⟨pml4, entries, 0, array, eptData⟩, s.heap)

/-- Frees all EPT stuff. -/
def eptTermination (s : EptState) : Heap :=
  let h := eptpFreeUnusedPreAllocatedEntries s.data.preallocatedEntries s.data.preallocatedArray
    s.data.preallocatedEntriesCount s.heap
  (eptpDestructTables 4 s.data.eptPml4 { s with heap := h }).heap.free s.data.self

/-! ## Violations -/

/-- Deals with an EPT violation nobody monitors : a missing entry is mapped, a present one
is left alone, and so is a walk with any permission. -/
def eptHandleEptViolation (pool : Pool) (mtrr : Mtrr) (q : EptViolationQualification)
    (faultPa : BitVec 64) (s : EptState) : EptState :=
  if q.eptReadable || q.eptWriteable || q.eptExecutable then s
  else
    match eptGetEptPtEntry s faultPa with
    | some ptr =>
      if (s.read ptr).all ≠ 0 then s
      else (eptpConstructTables pool mtrr true 4 s.data.eptPml4 faultPa s).2
    | none => (eptpConstructTables pool mtrr true 4 s.data.eptPml4 faultPa s).2

end DeviceMon
