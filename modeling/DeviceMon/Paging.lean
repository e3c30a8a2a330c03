import Mathlib.Data.BitVec
import Mathlib.Tactic.Ring

/-!
# Four-level paging

A linear address has an index for each of four levels of tables and an offset (`linear`). Tables
are frames of physical memory, and an entry has a valid bit, a frame, and a bit that makes it map a
large page. `walk` goes through the tables, and `readWord` reads a word of memory at a linear
address that is canonical and mapped.

A table at the top that has an entry for itself (`SelfMap`) makes the tables readable : with the
index of that entry in front, a walk ends one level earlier, at the entry of that level
(`readWord_pml4e`, `readWord_pdpte`, `readWord_pde`, `readWord_pte`).

Nothing here depends on who set up the tables.
-/

namespace Paging

/-! ## Sums of parts -/

theorem toNat_append_eq {v w : ℕ} (x : BitVec v) (y : BitVec w) :
    (x ++ y).toNat = x.toNat * 2 ^ w + y.toNat := by
  rw [BitVec.toNat_append, ← Nat.shiftLeft_add_eq_or_of_lt y.isLt, Nat.shiftLeft_eq]

/-! ## Linear addresses -/

/-- The address with the indices given. -/
def linear (high : BitVec 16) (pml4 pdpt pd pt : BitVec 9) (offset : BitVec 12) : BitVec 64 :=
  high ++ pml4 ++ pdpt ++ pd ++ pt ++ offset

theorem toNat_linear (high : BitVec 16) (pml4 pdpt pd pt : BitVec 9) (offset : BitVec 12) :
    (linear high pml4 pdpt pd pt offset).toNat = high.toNat * 2 ^ 48 + pml4.toNat * 2 ^ 39 +
      pdpt.toNat * 2 ^ 30 + pd.toNat * 2 ^ 21 + pt.toNat * 2 ^ 12 + offset.toNat := by
  simp only [linear, toNat_append_eq]
  ring

def highBits (va : BitVec 64) : BitVec 16 :=
  va.extractLsb' 48 16

def pml4Index (va : BitVec 64) : BitVec 9 :=
  va.extractLsb' 39 9

def pdptIndex (va : BitVec 64) : BitVec 9 :=
  va.extractLsb' 30 9

def pdIndex (va : BitVec 64) : BitVec 9 :=
  va.extractLsb' 21 9

def ptIndex (va : BitVec 64) : BitVec 9 :=
  va.extractLsb' 12 9

/-- The word of the page. -/
def wordIndex (va : BitVec 64) : BitVec 9 :=
  va.extractLsb' 3 9

section Indices

variable (va : BitVec 64)

theorem toNat_highBits : (highBits va).toNat = va.toNat / 2 ^ 48 % 2 ^ 16 := by
  rw [highBits, BitVec.extractLsb'_toNat, Nat.shiftRight_eq_div_pow]

theorem toNat_pml4Index : (pml4Index va).toNat = va.toNat / 2 ^ 39 % 2 ^ 9 := by
  rw [pml4Index, BitVec.extractLsb'_toNat, Nat.shiftRight_eq_div_pow]

theorem toNat_pdptIndex : (pdptIndex va).toNat = va.toNat / 2 ^ 30 % 2 ^ 9 := by
  rw [pdptIndex, BitVec.extractLsb'_toNat, Nat.shiftRight_eq_div_pow]

theorem toNat_pdIndex : (pdIndex va).toNat = va.toNat / 2 ^ 21 % 2 ^ 9 := by
  rw [pdIndex, BitVec.extractLsb'_toNat, Nat.shiftRight_eq_div_pow]

theorem toNat_ptIndex : (ptIndex va).toNat = va.toNat / 2 ^ 12 % 2 ^ 9 := by
  rw [ptIndex, BitVec.extractLsb'_toNat, Nat.shiftRight_eq_div_pow]

end Indices

section Fields

variable (high : BitVec 16) (pml4 pdpt pd pt : BitVec 9) (offset : BitVec 12)

@[simp] theorem highBits_linear : highBits (linear high pml4 pdpt pd pt offset) = high := by
  simp (disch := decide) only [highBits, linear, BitVec.extractLsb'_append_eq_of_le,
    Nat.reduceSub, BitVec.extractLsb'_eq_self]

@[simp] theorem pml4Index_linear : pml4Index (linear high pml4 pdpt pd pt offset) = pml4 := by
  simp (disch := decide) only [pml4Index, linear, BitVec.extractLsb'_append_eq_of_le,
    BitVec.extractLsb'_append_eq_of_add_le, Nat.reduceSub, BitVec.extractLsb'_eq_self]

@[simp] theorem pdptIndex_linear : pdptIndex (linear high pml4 pdpt pd pt offset) = pdpt := by
  simp (disch := decide) only [pdptIndex, linear, BitVec.extractLsb'_append_eq_of_le,
    BitVec.extractLsb'_append_eq_of_add_le, Nat.reduceSub, BitVec.extractLsb'_eq_self]

@[simp] theorem pdIndex_linear : pdIndex (linear high pml4 pdpt pd pt offset) = pd := by
  simp (disch := decide) only [pdIndex, linear, BitVec.extractLsb'_append_eq_of_le,
    BitVec.extractLsb'_append_eq_of_add_le, Nat.reduceSub, BitVec.extractLsb'_eq_self]

@[simp] theorem ptIndex_linear : ptIndex (linear high pml4 pdpt pd pt offset) = pt := by
  simp (disch := decide) only [ptIndex, linear, BitVec.extractLsb'_append_eq_of_le,
    BitVec.extractLsb'_append_eq_of_add_le, Nat.reduceSub, BitVec.extractLsb'_eq_self]

@[simp] theorem wordIndex_linear (word : BitVec 9) :
    wordIndex (linear high pml4 pdpt pd pt (word ++ 0#3)) = word := by
  simp (disch := decide) only [wordIndex, linear, BitVec.extractLsb'_append_eq_of_le,
    BitVec.extractLsb'_append_eq_of_add_le, Nat.reduceSub, BitVec.extractLsb'_eq_self]

end Fields

/-- Bits 63 to 47 are equal. -/
def Canonical (va : BitVec 64) : Prop :=
  va.extractLsb' 47 17 = 0 ∨ va.extractLsb' 47 17 = BitVec.allOnes 17

instance (va : BitVec 64) : Decidable (Canonical va) :=
  inferInstanceAs (Decidable (_ ∨ _))

/-- An address is canonical or not by its upper half. -/
theorem canonical_linear_iff (high : BitVec 16) (pml4 pdpt pd pt pdpt' pd' pt' : BitVec 9)
    (offset offset' : BitVec 12) : Canonical (linear high pml4 pdpt pd pt offset) ↔
      Canonical (linear high pml4 pdpt' pd' pt' offset') := by
  have hupper : ∀ (pdpt pd pt : BitVec 9) (offset : BitVec 12),
      (linear high pml4 pdpt pd pt offset).extractLsb' 47 17 =
        (high ++ pml4).extractLsb' 8 17 := by
    intro pdpt pd pt offset
    simp (disch := decide) only [linear, BitVec.extractLsb'_append_eq_of_le, Nat.reduceSub]
  rw [Canonical, Canonical, hupper, hupper]

/-! ## Walks -/

/-- The number of a page of physical memory. -/
abbrev PageFrame :=
  BitVec 40

/-- Physical memory, as the words of its pages. -/
abbrev Memory :=
  PageFrame → BitVec 9 → BitVec 64

namespace Entry

def valid (entry : BitVec 64) : Bool :=
  entry.getLsbD 0

/-- The entry maps a large page. -/
def large (entry : BitVec 64) : Bool :=
  entry.getLsbD 7

def frame (entry : BitVec 64) : PageFrame :=
  entry.extractLsb' 12 40

end Entry

section Walk

variable (mem : Memory) (root : PageFrame) (va : BitVec 64)

def pml4e : BitVec 64 :=
  mem root (pml4Index va)

def pdpte : BitVec 64 :=
  mem (Entry.frame (pml4e mem root va)) (pdptIndex va)

def pde : BitVec 64 :=
  mem (Entry.frame (pdpte mem root va)) (pdIndex va)

def pte : BitVec 64 :=
  mem (Entry.frame (pde mem root va)) (ptIndex va)

/-- The page of an address. The bit for large pages is reserved at the top. -/
def walk : Option PageFrame :=
  if !Entry.valid (pml4e mem root va) || Entry.large (pml4e mem root va) then none
  else if !Entry.valid (pdpte mem root va) then none
  else if Entry.large (pdpte mem root va) then
    some ((pdpte mem root va).extractLsb' 30 22 ++ pdIndex va ++ ptIndex va)
  else if !Entry.valid (pde mem root va) then none
  else if Entry.large (pde mem root va) then
    some ((pde mem root va).extractLsb' 21 31 ++ ptIndex va)
  else if !Entry.valid (pte mem root va) then none
  else some (Entry.frame (pte mem root va))

/-- The walk ends at a page, of whatever size. -/
def Mapped : Prop :=
  (walk mem root va).isSome = true

instance : Decidable (Mapped mem root va) :=
  inferInstanceAs (Decidable (_ = _))

variable {mem root va} in
/-- Which addresses are mapped below tables without entries of 1 GiB. -/
theorem mapped_iff
    (hpml4e : Entry.valid (pml4e mem root va) = true → Entry.large (pml4e mem root va) = false)
    (hpdpte : Entry.valid (pml4e mem root va) = true → Entry.valid (pdpte mem root va) = true →
      Entry.large (pdpte mem root va) = false) :
    Mapped mem root va ↔ Entry.valid (pml4e mem root va) = true ∧
      Entry.valid (pdpte mem root va) = true ∧ Entry.valid (pde mem root va) = true ∧
        (Entry.large (pde mem root va) = true ∨ Entry.valid (pte mem root va) = true) := by
  rw [Mapped, walk]
  cases hxv : Entry.valid (pml4e mem root va) with
  | false => simp
  | true =>
    cases hpv : Entry.valid (pdpte mem root va) with
    | false => simp
    | true =>
      rw [hpml4e hxv, hpdpte hxv hpv]
      cases Entry.valid (pde mem root va)
      all_goals cases Entry.large (pde mem root va)
      all_goals cases Entry.valid (pte mem root va)
      all_goals simp

/-- The word at an address, or a fault. -/
def readWord : Option (BitVec 64) :=
  if Canonical va then (walk mem root va).map fun frame => mem frame (wordIndex va) else none

end Walk

/-! ## Tables that map themselves -/

/-- The entry for the top table in itself. -/
structure SelfMap (mem : Memory) (root : PageFrame) (slot : BitVec 9) : Prop where
  valid : Entry.valid (mem root slot) = true
  small : Entry.large (mem root slot) = false
  frame : Entry.frame (mem root slot) = root

section SelfMap

variable {mem : Memory} {root : PageFrame} {slot : BitVec 9} {high : BitVec 16} {va : BitVec 64}
  (h : SelfMap mem root slot) (hcanonical : Canonical (linear high slot 0 0 0 0))
include h hcanonical

/-- Reads through the self-map. -/
theorem readWord_self (pdpt pd pt : BitVec 9) (offset : BitVec 12) :
    readWord mem root (linear high slot pdpt pd pt offset) =
      if !Entry.valid (mem root pdpt) then none
      else if Entry.large (mem root pdpt) then
        some (mem ((mem root pdpt).extractLsb' 30 22 ++ pd ++ pt)
          (wordIndex (linear high slot pdpt pd pt offset)))
      else if !Entry.valid (mem (Entry.frame (mem root pdpt)) pd) then none
      else if Entry.large (mem (Entry.frame (mem root pdpt)) pd) then
        some (mem ((mem (Entry.frame (mem root pdpt)) pd).extractLsb' 21 31 ++ pt)
          (wordIndex (linear high slot pdpt pd pt offset)))
      else if !Entry.valid (mem (Entry.frame (mem (Entry.frame (mem root pdpt)) pd)) pt) then none
      else some (mem (Entry.frame (mem (Entry.frame (mem (Entry.frame (mem root pdpt)) pd)) pt))
        (wordIndex (linear high slot pdpt pd pt offset))) := by
  rw [readWord, if_pos ((canonical_linear_iff _ _ _ _ _ _ _ _ _ _).2 hcanonical), walk]
  simp only [pte, pde, pdpte, pml4e, pml4Index_linear, pdptIndex_linear, pdIndex_linear,
    ptIndex_linear, h.valid, h.small, h.frame, Bool.not_true, Bool.or_false, Bool.false_eq_true,
    if_false]
  split_ifs
  all_goals rfl

theorem readWord_pml4e (va : BitVec 64) :
    readWord mem root (linear high slot slot slot slot (pml4Index va ++ 0#3)) =
      some (pml4e mem root va) := by
  rw [readWord_self h hcanonical]
  simp [h.valid, h.small, h.frame, pml4e]

theorem readWord_pdpte (hpml4e : Entry.valid (pml4e mem root va) = true) :
    readWord mem root (linear high slot slot slot (pml4Index va) (pdptIndex va ++ 0#3)) =
      some (pdpte mem root va) := by
  rw [readWord_self h hcanonical]
  have hvalid : Entry.valid (mem root (pml4Index va)) = true := hpml4e
  simp [h.valid, h.small, h.frame, hvalid, pdpte, pml4e]

theorem readWord_pde (hpml4e : Entry.valid (pml4e mem root va) = true)
    (hsmall : Entry.large (pml4e mem root va) = false)
    (hpdpte : Entry.valid (pdpte mem root va) = true) :
    readWord mem root (linear high slot slot (pml4Index va) (pdptIndex va) (pdIndex va ++ 0#3)) =
      some (pde mem root va) := by
  rw [readWord_self h hcanonical]
  have hvalid : Entry.valid (mem root (pml4Index va)) = true := hpml4e
  have hsmall' : Entry.large (mem root (pml4Index va)) = false := hsmall
  have hvalid' : Entry.valid (mem (Entry.frame (mem root (pml4Index va))) (pdptIndex va)) = true :=
    hpdpte
  simp [h.valid, h.small, h.frame, hvalid, hsmall', hvalid', pde, pdpte, pml4e]

theorem readWord_pte (hpml4e : Entry.valid (pml4e mem root va) = true)
    (hsmall : Entry.large (pml4e mem root va) = false)
    (hpdpte : Entry.valid (pdpte mem root va) = true)
    (hsmall' : Entry.large (pdpte mem root va) = false)
    (hpde : Entry.valid (pde mem root va) = true) :
    readWord mem root
        (linear high slot (pml4Index va) (pdptIndex va) (pdIndex va) (ptIndex va ++ 0#3)) =
      some (pte mem root va) := by
  rw [readWord_self h hcanonical]
  simp only [pte, pde, pdpte, pml4e] at *
  simp [hpml4e, hsmall, hpdpte, hsmall', hpde]

/-- Below valid entries the self-map reads a word. Below a large page it is one of the page. -/
theorem readWord_pde_isSome (hpml4e : Entry.valid (pml4e mem root va) = true)
    (hpdpte : Entry.valid (pdpte mem root va) = true) :
    (readWord mem root (linear high slot slot (pml4Index va) (pdptIndex va)
      (pdIndex va ++ 0#3))).isSome = true := by
  rw [readWord_self h hcanonical]
  simp only [pdpte, pml4e] at *
  simp only [h.valid, h.small, h.frame, hpml4e, hpdpte, Bool.not_true, Bool.false_eq_true, if_false]
  split_ifs
  · rfl
  · rfl

theorem readWord_pte_isSome (hpml4e : Entry.valid (pml4e mem root va) = true)
    (hpdpte : Entry.valid (pdpte mem root va) = true)
    (hpde : Entry.large (pml4e mem root va) = false → Entry.large (pdpte mem root va) = false →
      Entry.valid (pde mem root va) = true) :
    (readWord mem root (linear high slot (pml4Index va) (pdptIndex va) (pdIndex va)
      (ptIndex va ++ 0#3))).isSome = true := by
  rw [readWord_self h hcanonical]
  simp only [pde, pdpte, pml4e] at *
  simp only [hpml4e, hpdpte, Bool.not_true, Bool.false_eq_true, if_false]
  split_ifs with hlarge hlarge' hinvalid
  · rfl
  · rfl
  · rw [hpde (by simpa using hlarge) (by simpa using hlarge')] at hinvalid
    exact (Bool.false_ne_true hinvalid).elim
  · rfl

end SelfMap

end Paging
