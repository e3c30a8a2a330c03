import DeviceMon.IoProg
import DeviceMon.Mtrr
import DeviceMon.Paging

/-!
# The page tables of Windows

`util.cpp` finds the entries of an address in the page tables by arithmetic : the tables map
themselves, and each level has a base. `UtilpInitializePageTableVariables` derives the bases from
that of the PTEs. An entry is then the PTE of the entry one level below
(`utilpAddressTo_coherent`).

`UtilIsAccessibleAddress` looks at the entries of an address from the top. It gives the right answer
when the address and the entries it passes meet a condition (`utilIsAccessibleAddress_decides_iff`).
-/

namespace DeviceMon

open Paging

/-! ## Entries by arithmetic -/

/-- `kUtilpPxeBase`. -/
def kUtilpPxeBase : BitVec 64 :=
  0xfffff6fb7dbed000

/-- `kUtilpPpeBase`. -/
def kUtilpPpeBase : BitVec 64 :=
  0xfffff6fb7da00000

/-- `kUtilpPdeBase`. -/
def kUtilpPdeBase : BitVec 64 :=
  0xfffff6fb40000000

/-- `kUtilpPteBase`. -/
def kUtilpPteBase : BitVec 64 :=
  0xfffff68000000000

def kUtilpPxiShift : ℕ := 39

def kUtilpPpiShift : ℕ := 30

def kUtilpPdiShift : ℕ := 21

def kUtilpPtiShift : ℕ := 12

def kUtilpPxiMask : BitVec 64 := 0x1ff

def kUtilpPpiMask : BitVec 64 := 0x3ffff

def kUtilpPdiMask : BitVec 64 := 0x7ffffff

def kUtilpPtiMask : BitVec 64 := 0xfffffffff

/-- `g_utilp_pxe_base`, `g_utilp_ppe_base`, `g_utilp_pde_base` and `g_utilp_pte_base`. The shifts
and the masks are the constants for x64. -/
@[ext]
structure PageTableVariables where
  pxeBase : BitVec 64
  ppeBase : BitVec 64
  pdeBase : BitVec 64
  pteBase : BitVec 64

/-- The bases before they were randomized. -/
def fixedPageTableVariables : PageTableVariables :=
  ⟨kUtilpPxeBase, kUtilpPpeBase, kUtilpPdeBase, kUtilpPteBase⟩

/-- `UtilpInitializePageTableVariables`, from the PTE base it found on. -/
def utilpInitializePageTableVariables (pteBase : BitVec 64) : PageTableVariables :=
  let index := (pteBase >>> kUtilpPxiShift) &&& kUtilpPxiMask
  let pdeBase := pteBase ||| index <<< kUtilpPpiShift
  let ppeBase := pdeBase ||| index <<< kUtilpPdiShift
  let pxeBase := ppeBase ||| index <<< kUtilpPtiShift
  ⟨pxeBase, ppeBase, pdeBase, pteBase⟩

section Entries

variable (v : PageTableVariables) (address : BitVec 64)

/-- Return an address of PXE. -/
def utilpAddressToPxe : BitVec 64 :=
  v.pxeBase + ((address >>> kUtilpPxiShift) &&& kUtilpPxiMask) * 8

/-- Return an address of PPE. -/
def utilpAddressToPpe : BitVec 64 :=
  v.ppeBase + ((address >>> kUtilpPpiShift) &&& kUtilpPpiMask) * 8

/-- Return an address of PDE. -/
def utilpAddressToPde : BitVec 64 :=
  v.pdeBase + ((address >>> kUtilpPdiShift) &&& kUtilpPdiMask) * 8

/-- Return an address of PTE. -/
def utilpAddressToPte : BitVec 64 :=
  v.pteBase + ((address >>> kUtilpPtiShift) &&& kUtilpPtiMask) * 8

end Entries

/-! ### As linear addresses -/

/-- A base for the PTEs : the start of what one entry of the top table maps. -/
structure IsPteBase (pteBase : BitVec 64) : Prop where
  canonical : Canonical pteBase
  aligned : pteBase.toNat % 2 ^ 39 = 0

variable {pteBase : BitVec 64}

/-- One more index below a base. -/
theorem or_index_eq {base index : BitVec 64} {k : ℕ} (hk : k + 9 < 64)
    (hbase : 2 ^ (k + 9) ∣ base.toNat) (hindex : index.toNat < 2 ^ 9) :
    (base ||| index <<< k).toNat = base.toNat + index.toNat * 2 ^ k := by
  have hlt : index.toNat * 2 ^ k < 2 ^ (k + 9) := by
    rw [Nat.add_comm, Nat.pow_add]
    exact Nat.mul_lt_mul_of_pos_right hindex (Nat.two_pow_pos k)
  have hshift : (index <<< k).toNat = index.toNat * 2 ^ k := by
    rw [BitVec.toNat_shiftLeft, Nat.shiftLeft_eq]
    exact Nat.mod_eq_of_lt (hlt.trans_le (Nat.pow_le_pow_right (by decide) (by omega)))
  obtain ⟨q, hq⟩ := hbase
  rw [BitVec.toNat_or, hshift, hq, Nat.two_pow_add_eq_or_of_lt hlt]

/-- The bases, from that of the PTEs and the index it is made of. -/
theorem IsPteBase.bases (h : IsPteBase pteBase) :
    let v := utilpInitializePageTableVariables pteBase
    v.pdeBase.toNat = pteBase.toNat + (pml4Index pteBase).toNat * 2 ^ 30 ∧
      v.ppeBase.toNat = v.pdeBase.toNat + (pml4Index pteBase).toNat * 2 ^ 21 ∧
      v.pxeBase.toNat = v.ppeBase.toNat + (pml4Index pteBase).toNat * 2 ^ 12 := by
  have haligned := h.aligned
  have hindex : ((pteBase >>> kUtilpPxiShift) &&& kUtilpPxiMask).toNat =
      (pml4Index pteBase).toNat := by
    rw [toNat_shiftRight_and _ kUtilpPxiShift 9 rfl, toNat_pml4Index]
    rfl
  have hlt : ((pteBase >>> kUtilpPxiShift) &&& kUtilpPxiMask).toNat < 2 ^ 9 :=
    hindex.trans_lt (pml4Index pteBase).isLt
  have hpde := or_index_eq (k := kUtilpPpiShift) (by decide) (Nat.dvd_of_mod_eq_zero haligned) hlt
  have hppe := or_index_eq (k := kUtilpPdiShift) (by decide)
    (show 2 ^ 30 ∣ _ by rw [hpde, kUtilpPpiShift]; omega) hlt
  have hpxe := or_index_eq (k := kUtilpPtiShift) (by decide)
    (show 2 ^ 21 ∣ _ by rw [hppe, hpde, kUtilpPpiShift, kUtilpPdiShift]; omega) hlt
  rw [hindex] at hpde hppe hpxe
  exact ⟨hpde, hppe, hpxe⟩

/-- A base with the word of an entry added. -/
theorem toNat_entry (base x mask : BitVec 64) (k w : ℕ) (hmask : mask.toNat = 2 ^ w - 1)
    (hbase : base.toNat + 2 ^ (w + 3) ≤ 2 ^ 64) :
    (base + ((x >>> k) &&& mask) * 8).toNat = base.toNat + x.toNat / 2 ^ k % 2 ^ w * 8 := by
  have hlt : x.toNat / 2 ^ k % 2 ^ w < 2 ^ w := Nat.mod_lt _ (Nat.two_pow_pos w)
  have height : (8 : BitVec 64).toNat = 8 := rfl
  have hpow : 2 ^ (w + 3) = 2 ^ w * 8 := Nat.pow_add 2 w 3
  rw [BitVec.toNat_add, BitVec.toNat_mul, toNat_shiftRight_and _ k w hmask, height, Nat.add_mod_mod]
  exact Nat.mod_eq_of_lt (by omega)

/-- A base for the PTEs is made of its upper parts. -/
theorem IsPteBase.toNat_eq (h : IsPteBase pteBase) : pteBase.toNat =
    (highBits pteBase).toNat * 2 ^ 48 + (pml4Index pteBase).toNat * 2 ^ 39 := by
  have haligned := h.aligned
  have hlt := pteBase.isLt
  rw [toNat_pml4Index, toNat_highBits]
  omega

theorem IsPteBase.canonical_linear (h : IsPteBase pteBase) :
    Canonical (linear (highBits pteBase) (pml4Index pteBase) 0 0 0 0) := by
  have heq : linear (highBits pteBase) (pml4Index pteBase) 0 0 0 0 = pteBase := by
    rw [← BitVec.toNat_inj, toNat_linear, h.toNat_eq]
    simp
  rw [heq]
  exact h.canonical

section Pointers

variable (h : IsPteBase pteBase) (va : BitVec 64)
include h

theorem utilpAddressToPte_eq : utilpAddressToPte (utilpInitializePageTableVariables pteBase) va =
    linear (highBits pteBase) (pml4Index pteBase) (pml4Index va) (pdptIndex va) (pdIndex va)
      (ptIndex va ++ 0#3) := by
  have hparts := h.toNat_eq
  have hhigh := (highBits pteBase).isLt
  have hslot := (pml4Index pteBase).isLt
  rw [← BitVec.toNat_inj, utilpAddressToPte, toNat_entry _ _ _ kUtilpPtiShift 36 rfl
    (by simp only [utilpInitializePageTableVariables]; omega), toNat_linear, toNat_append_eq]
  simp only [utilpInitializePageTableVariables, kUtilpPtiShift, toNat_pml4Index va,
    toNat_pdptIndex, toNat_pdIndex, toNat_ptIndex, BitVec.toNat_ofNat]
  omega

theorem utilpAddressToPde_eq : utilpAddressToPde (utilpInitializePageTableVariables pteBase) va =
    linear (highBits pteBase) (pml4Index pteBase) (pml4Index pteBase) (pml4Index va)
      (pdptIndex va) (pdIndex va ++ 0#3) := by
  have hparts := h.toNat_eq
  have hhigh := (highBits pteBase).isLt
  have hslot := (pml4Index pteBase).isLt
  obtain ⟨hpde, -, -⟩ := h.bases
  rw [← BitVec.toNat_inj, utilpAddressToPde, toNat_entry _ _ _ kUtilpPdiShift 27 rfl
    (by rw [hpde]; omega), hpde, toNat_linear, toNat_append_eq]
  simp only [kUtilpPdiShift, toNat_pml4Index va, toNat_pdptIndex, toNat_pdIndex,
    BitVec.toNat_ofNat]
  omega

theorem utilpAddressToPpe_eq : utilpAddressToPpe (utilpInitializePageTableVariables pteBase) va =
    linear (highBits pteBase) (pml4Index pteBase) (pml4Index pteBase) (pml4Index pteBase)
      (pml4Index va) (pdptIndex va ++ 0#3) := by
  have hparts := h.toNat_eq
  have hhigh := (highBits pteBase).isLt
  have hslot := (pml4Index pteBase).isLt
  obtain ⟨hpde, hppe, -⟩ := h.bases
  rw [← BitVec.toNat_inj, utilpAddressToPpe, toNat_entry _ _ _ kUtilpPpiShift 18 rfl
    (by rw [hppe, hpde]; omega), hppe, hpde, toNat_linear, toNat_append_eq]
  simp only [kUtilpPpiShift, toNat_pml4Index va, toNat_pdptIndex, BitVec.toNat_ofNat]
  omega

theorem utilpAddressToPxe_eq : utilpAddressToPxe (utilpInitializePageTableVariables pteBase) va =
    linear (highBits pteBase) (pml4Index pteBase) (pml4Index pteBase) (pml4Index pteBase)
      (pml4Index pteBase) (pml4Index va ++ 0#3) := by
  have hparts := h.toNat_eq
  have hhigh := (highBits pteBase).isLt
  have hslot := (pml4Index pteBase).isLt
  obtain ⟨hpde, hppe, hpxe⟩ := h.bases
  rw [← BitVec.toNat_inj, utilpAddressToPxe, toNat_entry _ _ _ kUtilpPxiShift 9 rfl
    (by rw [hpxe, hppe, hpde]; omega), hpxe, hppe, hpde, toNat_linear, toNat_append_eq]
  simp only [kUtilpPxiShift, toNat_pml4Index va, BitVec.toNat_ofNat]
  omega

end Pointers

/-- **Coherence.** With the bases derived from a PTE base the entries of an address above the last
are the PTEs of the entries one level below, and the bases before randomization are those derived
from their PTE base. -/
theorem utilpAddressTo_coherent (pteBase : BitVec 64) (h : IsPteBase pteBase) (va : BitVec 64) :
    let v := utilpInitializePageTableVariables pteBase
    v.pteBase = pteBase ∧
      utilpAddressToPde v va = utilpAddressToPte v (utilpAddressToPte v va) ∧
      utilpAddressToPpe v va = utilpAddressToPte v (utilpAddressToPde v va) ∧
      utilpAddressToPxe v va = utilpAddressToPte v (utilpAddressToPpe v va) ∧
      fixedPageTableVariables = utilpInitializePageTableVariables kUtilpPteBase := by
  intro v
  refine ⟨rfl, ?_, ?_, ?_, rfl⟩
  · rw [utilpAddressToPte_eq h (utilpAddressToPte v va), utilpAddressToPte_eq h va,
      utilpAddressToPde_eq h va, pml4Index_linear, pdptIndex_linear, pdIndex_linear, ptIndex_linear]
  · rw [utilpAddressToPte_eq h (utilpAddressToPde v va), utilpAddressToPde_eq h va,
      utilpAddressToPpe_eq h va, pml4Index_linear, pdptIndex_linear, pdIndex_linear, ptIndex_linear]
  · rw [utilpAddressToPte_eq h (utilpAddressToPpe v va), utilpAddressToPpe_eq h va,
      utilpAddressToPxe_eq h va, pml4Index_linear, pdptIndex_linear, pdIndex_linear, ptIndex_linear]

theorem isPteBase_kUtilpPteBase : IsPteBase kUtilpPteBase where
  canonical := by decide
  aligned := by decide

/-- The top entry of a kernel address, at a base that is not the fixed one. -/
theorem utilpAddressTo_coherent_randomized :
    let v := utilpInitializePageTableVariables 0xFFFFFA8000000000
    utilpAddressToPxe v 0xFFFFF80012345678 = 0xFFFFFAFD7EBF5F80 ∧
      utilpAddressToPxe v 0xFFFFF80012345678 =
        utilpAddressToPte v (utilpAddressToPpe v 0xFFFFF80012345678) :=
  ⟨by decide, (utilpAddressTo_coherent 0xFFFFFA8000000000 ⟨by decide, by decide⟩
    0xFFFFF80012345678).2.2.2.1⟩

/-! ## Accessible addresses -/

/-- `UtilpIsCanonicalFormAddress` on x64. The address is passed as the upper bound. -/
def utilpIsCanonicalFormAddress (address : BitVec 64) : Bool :=
  !utilIsInBounds 0x0000800000000000 0xffff7fffffffffff address

/-- The kind of an entry. -/
inductive PageLevel where
  | pxe
  | ppe
  | pde
  | pte
deriving DecidableEq

/-- Programs that read entries, each said to be of a level. -/
abbrev PageProg (α : Type) :=
  IoProg (PageLevel × BitVec 64) (BitVec 64) α

def readEntry (level : PageLevel) (address : BitVec 64) : PageProg (BitVec 64) :=
  .read (level, address) pure

/-- `UtilIsAccessibleAddress` on x64. -/
def utilIsAccessibleAddress (v : PageTableVariables) (address : BitVec 64) : PageProg Bool :=
  if !utilpIsCanonicalFormAddress address then pure false
  else do
    let pxe ← readEntry .pxe (utilpAddressToPxe v address)
    if !Entry.valid pxe then pure false
    else
      let ppe ← readEntry .ppe (utilpAddressToPpe v address)
      if !Entry.valid ppe then pure false
      else
        let pde ← readEntry .pde (utilpAddressToPde v address)
        if !Entry.valid pde then pure false
        else if Entry.large pde then pure true
        else if utilpAddressToPte v address = 0 then pure false
        else
          let pte ← readEntry .pte (utilpAddressToPte v address)
          pure (Entry.valid pte)

/-- Memory as the processor reads it. The state says whether there was a page fault. -/
def pagedMemory (mem : Memory) (root : PageFrame) :
    IoProg.Device (PageLevel × BitVec 64) (BitVec 64) Bool where
  read place fault :=
    match readWord mem root place.2 with
    | some word => (word, fault)
    | none => (0, true)
  write _ _ fault := fault

/-- The range that `UtilpIsCanonicalFormAddress` tests is never the one of the address. -/
theorem utilpIsCanonicalFormAddress_eq_true (address : BitVec 64) :
    utilpIsCanonicalFormAddress address = true :=
  rfl

section Reads

variable {mem : Memory} {root : PageFrame} {level : PageLevel} {address word : BitVec 64}
  {fault : Bool}

theorem run_readEntry (h : readWord mem root address = some word) :
    (readEntry level address).run (pagedMemory mem root) fault = (word, fault) := by
  simp only [readEntry, IoProg.run, pagedMemory, h, IoProg.run_pure]

theorem trace_readEntry (h : readWord mem root address = some word) :
    (readEntry level address).trace (pagedMemory mem root) fault =
      [.read (level, address) word] := by
  simp only [readEntry, IoProg.trace, pagedMemory, h, IoProg.trace_pure]

end Reads

/-- The levels at which `UtilIsAccessibleAddress` reads an entry, given the entries above. -/
def PageLevel.Visited (pxe ppe pde ptePtr : BitVec 64) : PageLevel → Prop
  | .pxe => True
  | .ppe => Entry.valid pxe = true
  | .pde => Entry.valid pxe = true ∧ Entry.valid ppe = true
  | .pte => Entry.valid pxe = true ∧ Entry.valid ppe = true ∧ Entry.valid pde = true ∧
    Entry.large pde = false ∧ ptePtr ≠ 0

/-- What `UtilIsAccessibleAddress` answers and reads, given the entries. -/
theorem utilIsAccessibleAddress_spec {mem : Memory} {root : PageFrame} {v : PageTableVariables}
    {address pxe ppe pde pte : BitVec 64}
    (hpxe : readWord mem root (utilpAddressToPxe v address) = some pxe)
    (hppe : Entry.valid pxe = true →
      readWord mem root (utilpAddressToPpe v address) = some ppe)
    (hpde : Entry.valid pxe = true → Entry.valid ppe = true →
      readWord mem root (utilpAddressToPde v address) = some pde)
    (hpte : Entry.valid pxe = true → Entry.valid ppe = true → Entry.valid pde = true →
      Entry.large pde = false → readWord mem root (utilpAddressToPte v address) = some pte) :
    ((utilIsAccessibleAddress v address).run (pagedMemory mem root) false).2 = false ∧
      (((utilIsAccessibleAddress v address).run (pagedMemory mem root) false).1 = true ↔
        Entry.valid pxe = true ∧ Entry.valid ppe = true ∧ Entry.valid pde = true ∧
          (Entry.large pde = true ∨
            utilpAddressToPte v address ≠ 0 ∧ Entry.valid pte = true)) ∧
      ∀ level, (∃ ptr word, .read (level, ptr) word ∈
          (utilIsAccessibleAddress v address).trace (pagedMemory mem root) false) ↔
        level.Visited pxe ppe pde (utilpAddressToPte v address) := by
  rw [utilIsAccessibleAddress, utilpIsCanonicalFormAddress_eq_true, Bool.not_true,
    if_neg Bool.false_ne_true]
  simp only [IoProg.run_bind, IoProg.trace_bind, run_readEntry hpxe, trace_readEntry hpxe]
  cases hxv : Entry.valid pxe with
  | false => exact ⟨rfl, by simp, fun level => by cases level <;> simp [PageLevel.Visited, hxv]⟩
  | true =>
    simp only [Bool.not_true, Bool.false_eq_true, if_false, IoProg.run_bind, IoProg.trace_bind,
      run_readEntry (hppe hxv), trace_readEntry (hppe hxv)]
    cases hpv : Entry.valid ppe with
    | false =>
      exact ⟨rfl, by simp, fun level => by cases level <;> simp [PageLevel.Visited, hxv, hpv]⟩
    | true =>
      simp only [Bool.not_true, Bool.false_eq_true, if_false, IoProg.run_bind, IoProg.trace_bind,
        run_readEntry (hpde hxv hpv), trace_readEntry (hpde hxv hpv)]
      cases hdv : Entry.valid pde with
      | false =>
        exact ⟨rfl, by simp,
          fun level => by cases level <;> simp [PageLevel.Visited, hxv, hpv, hdv]⟩
      | true =>
        cases hlarge : Entry.large pde with
        | true =>
          exact ⟨rfl, by simp,
            fun level => by cases level <;> simp [PageLevel.Visited, hxv, hpv, hdv, hlarge]⟩
        | false =>
          by_cases hptr : utilpAddressToPte v address = 0
          · simp only [hptr, Bool.not_true, Bool.false_eq_true, if_false, if_true]
            exact ⟨rfl, by simp,
              fun level => by cases level <;> simp [PageLevel.Visited, hxv, hpv, hdv, hlarge]⟩
          · have hptr' : utilpAddressToPte v address ≠ 0#64 := hptr
            simp only [hptr, Bool.not_true, Bool.false_eq_true, if_false, IoProg.run_bind,
              IoProg.trace_bind, run_readEntry (hpte hxv hpv hdv hlarge),
              trace_readEntry (hpte hxv hpv hdv hlarge)]
            exact ⟨rfl, by simp [hptr'], fun level => by
              cases level <;> simp [PageLevel.Visited, hxv, hpv, hdv, hlarge, hptr']⟩

/-- The entry above is for a table. -/
def PageLevel.BelowTable (mem : Memory) (root : PageFrame) (va : BitVec 64) : PageLevel → Prop
  | .pxe => True
  | .ppe => Entry.valid (pml4e mem root va) = true ∧ Entry.large (pml4e mem root va) = false
  | .pde => Entry.valid (pdpte mem root va) = true ∧ Entry.large (pdpte mem root va) = false
  | .pte => Entry.valid (Paging.pde mem root va) = true ∧
    Entry.large (Paging.pde mem root va) = false

section Words

variable {mem : Memory} {root : PageFrame} (hbase : IsPteBase pteBase)
  (hself : SelfMap mem root (pml4Index pteBase)) (va : BitVec 64)
include hbase hself

/-- Below valid entries the PDE can be read. Below a large page it is a word of the page. -/
theorem exists_pde_word : ∃ word,
    (Entry.valid (pml4e mem root va) = true → Entry.valid (pdpte mem root va) = true →
      readWord mem root (utilpAddressToPde (utilpInitializePageTableVariables pteBase) va) =
        some word) ∧
    (Entry.valid (pml4e mem root va) = true → Entry.large (pml4e mem root va) = false →
      Entry.valid (pdpte mem root va) = true → word = pde mem root va) := by
  rw [utilpAddressToPde_eq hbase]
  by_cases hvalid : Entry.valid (pml4e mem root va) = true ∧ Entry.valid (pdpte mem root va) = true
  · obtain ⟨word, hword⟩ := Option.isSome_iff_exists.1
      (readWord_pde_isSome hself hbase.canonical_linear hvalid.1 hvalid.2)
    refine ⟨word, fun _ _ => hword, fun hx hsmall hp => ?_⟩
    exact Option.some.inj
      (hword.symm.trans (readWord_pde hself hbase.canonical_linear hx hsmall hp))
  · exact ⟨0, fun hx hp => absurd ⟨hx, hp⟩ hvalid, fun hx _ hp => absurd ⟨hx, hp⟩ hvalid⟩

/-- Below valid entries the PTE can be read. Below a large page it is a word of the page. -/
theorem exists_pte_word : ∃ word,
    (Entry.valid (pml4e mem root va) = true → Entry.valid (pdpte mem root va) = true →
      (Entry.large (pml4e mem root va) = false → Entry.large (pdpte mem root va) = false →
        Entry.valid (pde mem root va) = true) →
      readWord mem root (utilpAddressToPte (utilpInitializePageTableVariables pteBase) va) =
        some word) ∧
    (Entry.valid (pml4e mem root va) = true → Entry.large (pml4e mem root va) = false →
      Entry.valid (pdpte mem root va) = true → Entry.large (pdpte mem root va) = false →
      Entry.valid (pde mem root va) = true → word = pte mem root va) := by
  rw [utilpAddressToPte_eq hbase]
  by_cases hvalid : Entry.valid (pml4e mem root va) = true ∧
    Entry.valid (pdpte mem root va) = true ∧
      (Entry.large (pml4e mem root va) = false → Entry.large (pdpte mem root va) = false →
        Entry.valid (pde mem root va) = true)
  · obtain ⟨word, hword⟩ := Option.isSome_iff_exists.1
      (readWord_pte_isSome hself hbase.canonical_linear hvalid.1 hvalid.2.1 hvalid.2.2)
    refine ⟨word, fun _ _ _ => hword, fun hx hsmall hp hsmall' hd => ?_⟩
    exact Option.some.inj
      (hword.symm.trans (readWord_pte hself hbase.canonical_linear hx hsmall hp hsmall' hd))
  · exact ⟨0, fun hx hp hd => absurd ⟨hx, hp, hd⟩ hvalid,
      fun hx _ hp _ hd => absurd ⟨hx, hp, fun _ _ => hd⟩ hvalid⟩

/-- What `UtilIsAccessibleAddress` answers and reads, with words that are entries of the walk below
tables. -/
theorem exists_words : ∃ pde' pte' : BitVec 64,
    let v := utilpInitializePageTableVariables pteBase
    let result := (utilIsAccessibleAddress v va).run (pagedMemory mem root) false
    let reads := (utilIsAccessibleAddress v va).trace (pagedMemory mem root) false
    result.2 = false ∧
      (result.1 = true ↔ Entry.valid (pml4e mem root va) = true ∧
        Entry.valid (pdpte mem root va) = true ∧ Entry.valid pde' = true ∧
          (Entry.large pde' = true ∨ utilpAddressToPte v va ≠ 0 ∧ Entry.valid pte' = true)) ∧
      (∀ level, (∃ ptr word, .read (level, ptr) word ∈ reads) ↔
        level.Visited (pml4e mem root va) (pdpte mem root va) pde' (utilpAddressToPte v va)) ∧
      (Entry.valid (pml4e mem root va) = true → Entry.large (pml4e mem root va) = false →
        Entry.valid (pdpte mem root va) = true → pde' = pde mem root va) ∧
      (Entry.valid (pml4e mem root va) = true → Entry.large (pml4e mem root va) = false →
        Entry.valid (pdpte mem root va) = true → Entry.large (pdpte mem root va) = false →
        Entry.valid (pde mem root va) = true → pte' = pte mem root va) := by
  have hpxe := readWord_pml4e hself hbase.canonical_linear va
  have hppe : Entry.valid (pml4e mem root va) = true → _ :=
    readWord_pdpte hself hbase.canonical_linear
  rw [← utilpAddressToPxe_eq hbase] at hpxe
  rw [← utilpAddressToPpe_eq hbase] at hppe
  obtain ⟨pde', hpde, hpde_eq⟩ := exists_pde_word hbase hself va
  obtain ⟨pte', hpte, hpte_eq⟩ := exists_pte_word hbase hself va
  obtain ⟨hfault, hresult, hreads⟩ := utilIsAccessibleAddress_spec hpxe hppe hpde
    fun hx hp hd _ => hpte hx hp fun hs _ => hpde_eq hx hs hp ▸ hd
  exact ⟨pde', pte', hfault, hresult, hreads, hpde_eq, hpte_eq⟩

/-- Every entry read is below one for a table exactly if there are no large pages above the last two
levels. -/
theorem reads_below_iff :
    (∀ level ptr word, .read (level, ptr) word ∈
        (utilIsAccessibleAddress (utilpInitializePageTableVariables pteBase) va).trace
          (pagedMemory mem root) false → level.BelowTable mem root va) ↔
      (Entry.valid (pml4e mem root va) = true → Entry.large (pml4e mem root va) = false) ∧
      (Entry.valid (pml4e mem root va) = true → Entry.valid (pdpte mem root va) = true →
        Entry.large (pdpte mem root va) = false) := by
  obtain ⟨pde', pte', -, -, hreads, hpde_eq, -⟩ := exists_words hbase hself va
  constructor
  · intro hbelow
    have hvisited : ∀ level : PageLevel, level.Visited (pml4e mem root va) (pdpte mem root va) pde'
        (utilpAddressToPte (utilpInitializePageTableVariables pteBase) va) →
        level.BelowTable mem root va := by
      intro level hlevel
      obtain ⟨ptr, word, hmem⟩ := (hreads level).2 hlevel
      exact hbelow level ptr word hmem
    exact ⟨fun hx => (hvisited .ppe hx).2, fun hx hp => (hvisited .pde ⟨hx, hp⟩).2⟩
  · rintro ⟨hs, hs'⟩ level ptr word hmem
    have hlevel := (hreads level).1 ⟨ptr, word, hmem⟩
    cases level with
    | pxe => trivial
    | ppe => exact ⟨hlevel, hs hlevel⟩
    | pde => exact ⟨hlevel.2, hs' hlevel.1 hlevel.2⟩
    | pte =>
      obtain ⟨hx, hp, hd, hsmall, -⟩ := hlevel
      rw [hpde_eq hx (hs hx) hp] at hd hsmall
      exact ⟨hd, hsmall⟩

/-- Without large pages above the last two levels, the answer is that of the walk. A PTE at 0 is
taken for a missing one. -/
theorem utilIsAccessibleAddress_eq_true_iff
    (hs : Entry.valid (pml4e mem root va) = true → Entry.large (pml4e mem root va) = false)
    (hs' : Entry.valid (pml4e mem root va) = true → Entry.valid (pdpte mem root va) = true →
      Entry.large (pdpte mem root va) = false) :
    ((utilIsAccessibleAddress (utilpInitializePageTableVariables pteBase) va).run
        (pagedMemory mem root) false).1 = true ↔
      Mapped mem root va ∧ (Entry.large (pde mem root va) = true ∨
        utilpAddressToPte (utilpInitializePageTableVariables pteBase) va ≠ 0) := by
  obtain ⟨pde', pte', -, hresult, -, hpde_eq, hpte_eq⟩ := exists_words hbase hself va
  rw [hresult, mapped_iff hs hs']
  constructor
  · rintro ⟨hx, hp, hd, hleaf⟩
    rw [hpde_eq hx (hs hx) hp] at hd hleaf
    rw [hpte_eq hx (hs hx) hp (hs' hx hp) hd] at hleaf
    exact ⟨⟨hx, hp, hd, hleaf.imp_right And.right⟩, hleaf.imp_right And.left⟩
  · rintro ⟨⟨hx, hp, hd, hleaf⟩, hptr⟩
    rw [hpde_eq hx (hs hx) hp, hpte_eq hx (hs hx) hp (hs' hx hp) hd]
    exact ⟨hx, hp, hd, or_and_left.2 ⟨hptr, hleaf⟩⟩

end Words

/-- **Accessible addresses.** `UtilIsAccessibleAddress` reads entries without a page fault. It
answers whether the address is canonical and mapped, and reads an entry only below one for a table,
exactly if the entry of the top level has no bit for large pages, the address is not in a page of
1 GiB, and, where the tables map it, it is canonical exactly if it is in a large page or its PTE is
not at 0 : no address is rejected for its form. -/
theorem utilIsAccessibleAddress_decides_iff (mem : Memory) (root : PageFrame) (pteBase : BitVec 64)
    (hbase : IsPteBase pteBase) (hself : SelfMap mem root (pml4Index pteBase))
    (va : BitVec 64) :
    let v := utilpInitializePageTableVariables pteBase
    let result := (utilIsAccessibleAddress v va).run (pagedMemory mem root) false
    let reads := (utilIsAccessibleAddress v va).trace (pagedMemory mem root) false
    result.2 = false ∧
      (((result.1 = true ↔ Canonical va ∧ Mapped mem root va) ∧
          ∀ level ptr word, .read (level, ptr) word ∈ reads → level.BelowTable mem root va) ↔
        ¬ (Entry.valid (pml4e mem root va) = true ∧ Entry.large (pml4e mem root va) = true) ∧
        ¬ (Entry.valid (pml4e mem root va) = true ∧ Entry.valid (pdpte mem root va) = true ∧
          Entry.large (pdpte mem root va) = true) ∧
        (Mapped mem root va → (Canonical va ↔
          Entry.large (pde mem root va) = true ∨ utilpAddressToPte v va ≠ 0))) := by
  intro v result reads
  obtain ⟨-, -, hfault, -⟩ := exists_words hbase hself va
  refine ⟨hfault, ?_⟩
  rw [reads_below_iff hbase hself va]
  simp only [not_and, Bool.not_eq_true]
  constructor
  · rintro ⟨hdecides, hs, hs'⟩
    rw [utilIsAccessibleAddress_eq_true_iff hbase hself va hs hs'] at hdecides
    exact ⟨hs, hs', fun hmapped => ⟨fun hc => (hdecides.2 ⟨hc, hmapped⟩).2,
      fun hleaf => (hdecides.1 ⟨hmapped, hleaf⟩).1⟩⟩
  · rintro ⟨hs, hs', hmapped⟩
    rw [utilIsAccessibleAddress_eq_true_iff hbase hself va hs hs']
    exact ⟨⟨fun h => ⟨(hmapped h.1).2 h.2, h.1⟩, fun h => ⟨h.2, (hmapped h.2).1 h.1⟩⟩, hs, hs'⟩

/-- Tables of four levels with one page, at `0x1000`, and the self-map of the PTE base. -/
def onePage : Memory :=
  fun frame index =>
    if frame = 0x1ad ∧ index = 0x1ed then 0x1ad063
    else if frame = 0x1ad ∧ index = 0 then 0x2063
    else if frame = 2 ∧ index = 0 then 0x3063
    else if frame = 3 ∧ index = 0 then 0x4063
    else if frame = 4 ∧ index = 1 then 0x5063
    else 0

theorem selfMap_onePage : SelfMap onePage 0x1ad (pml4Index kUtilpPteBase) where
  valid := by decide
  small := by decide
  frame := by decide

/-- The page is found. -/
theorem utilIsAccessibleAddress_decides_iff_page :
    let v := utilpInitializePageTableVariables kUtilpPteBase
    let result := (utilIsAccessibleAddress v 0x1000).run (pagedMemory onePage 0x1ad) false
    result.2 = false ∧ (result.1 = true ↔ Canonical 0x1000 ∧ Mapped onePage 0x1ad 0x1000) :=
  have hspec := utilIsAccessibleAddress_decides_iff onePage 0x1ad kUtilpPteBase
    isPteBase_kUtilpPteBase selfMap_onePage 0x1000
  ⟨hspec.1, (hspec.2.2 ⟨by decide, by decide, by decide⟩).1⟩

/-- With bit 48 set the address of the page is not canonical. It is still said to be accessible. -/
theorem alias_accessible :
    ¬ (((utilIsAccessibleAddress (utilpInitializePageTableVariables kUtilpPteBase)
        0x1000000001000).run (pagedMemory onePage 0x1ad) false).1 = true ↔
      Canonical 0x1000000001000 ∧ Mapped onePage 0x1ad 0x1000000001000) := by
  decide +kernel

end DeviceMon
