import DeviceMon.Ia32

/-!
# Memory types

`eptpGetMemoryType` looks an address up in the MTRR entries stored at start-up.
A leaf entry keeps the low three bits of the answer.
-/

namespace DeviceMon

/-- `MtrrData` : one stored MTRR. -/
structure MtrrData where
  enabled : Bool
  fixedMtrr : Bool
  type : BitVec 8
  rangeBase : BitVec 64
  rangeEnd : BitVec 64
deriving DecidableEq

/-- `g_eptp_mtrr_entries` and `g_eptp_mtrr_default_type`. -/
structure Mtrr where
  entries : List MtrrData
  defaultType : BitVec 8

/-- `UtilIsInBounds`. -/
def utilIsInBounds {w : ℕ} (value min max : BitVec w) : Bool :=
  decide (min ≤ value) && decide (value ≤ max)

namespace MemoryType

def uncacheable : BitVec 8 := 0

def writeThrough : BitVec 8 := 4

def writeBack : BitVec 8 := 6

end MemoryType

/-- The loop of `EptpGetMemoryType` with its running result. -/
def eptpGetMemoryTypeLoop (pa : BitVec 64) : List MtrrData → BitVec 8 → BitVec 8
  | [], resultType => resultType
  | e :: es, resultType =>
    if !e.enabled then resultType
    else if !utilIsInBounds pa e.rangeBase e.rangeEnd then eptpGetMemoryTypeLoop pa es resultType
    else if e.fixedMtrr then e.type
    else if e.type = MemoryType.uncacheable then e.type
    else if (resultType = MemoryType.writeThrough ∨ e.type = MemoryType.writeThrough) ∧
        resultType = MemoryType.writeBack then
      eptpGetMemoryTypeLoop pa es MemoryType.writeThrough
    else eptpGetMemoryTypeLoop pa es e.type

/-- Returns a memory type based on MTRRs. `0xff` stands for no MTRR found. -/
def eptpGetMemoryType (mtrr : Mtrr) (pa : BitVec 64) : BitVec 8 :=
  let resultType := eptpGetMemoryTypeLoop pa mtrr.entries 0xff
  if resultType = 0xff then mtrr.defaultType else resultType

end DeviceMon
