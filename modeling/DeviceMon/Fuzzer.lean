import DeviceMon.Probing

/-!
# The RIP records of the fuzzer

`GetRegIndexByRip` caches the register that `GetInstructionDestRegister` decodes, which is a
parameter here : a function of the instruction pointer. The cache is a table with linear probing.
Its first place depends on the page frame of the instruction, which may change between calls.

Whatever the page frames are, every call returns what decoding returns. If they do not change, and
there are no more instructions than places, each instruction is decoded once and is at one place,
where it stays (`getRegIndexByRip_transparent`).
-/

namespace DeviceMon

open Probing

/-! ## The table -/

/-- `FUZZ_RECORD_LEN`. -/
def fuzzRecordLen : ℕ :=
  0xFFFF

/-- `ACCESSRECORD`. -/
structure AccessRecord where
  desRegId : BitVec 32
  rip : BitVec 64

/-- `Record`, with the instruction pointers that were decoded. -/
structure FuzzState where
  record : ℕ → AccessRecord
  decoded : List (BitVec 64)

/-- `Record` as it is loaded. -/
def zeroedRecord : FuzzState :=
  ⟨fun _ => ⟨0, 0⟩, []⟩

/-- A call of `GetRegIndexByRip`, with what `UtilPfnFromVa` returns to it : it is asked again before
the search for a free slot. -/
structure FuzzCall where
  instPointer : BitVec 64
  pfn : BitVec 64
  pfnAgain : BitVec 64

section Calls

variable (getInstructionDestRegister : BitVec 64 → BitVec 32)

/-- Decodes an instruction into `Record[index]`. -/
def FuzzState.fill (index : ℕ) (instPointer : BitVec 64) (s : FuzzState) :
    BitVec 32 × FuzzState :=
  let record := Function.update s.record index
    ⟨getInstructionDestRegister instPointer, instPointer⟩
  ((record index).desRegId, ⟨record, s.decoded ++ [instPointer]⟩)

/-- The loop that looks if the record was already moved once. -/
def FuzzState.findMoved (index : ℕ) (instPointer : BitVec 64) (s : FuzzState) : ℕ × ℕ :=
  probe fuzzRecordLen (fun i => (s.record i).rip = instPointer) index 0

/-- The loop that looks for an empty slot. -/
def FuzzState.findFree (index : ℕ) (s : FuzzState) : ℕ × ℕ :=
  probe fuzzRecordLen (fun i => (s.record i).rip = 0) index 0

/-- `GetRegIndexByRip`. -/
def getRegIndexByRip (call : FuzzCall) (s : FuzzState) : BitVec 32 × FuzzState :=
  let index := call.pfn.toNat % fuzzRecordLen
  -- if RIP firstly present
  if (s.record index).rip = 0 then s.fill getInstructionDestRegister index call.instPointer
  -- if already exist
  else if (s.record index).rip = call.instPointer then ((s.record index).desRegId, s)
  else
    -- find if already moved once
    let moved := s.findMoved index call.instPointer
    if moved.2 < fuzzRecordLen then ((s.record moved.1).desRegId, s)
    else
      -- find a empty slot
      let index := call.pfnAgain.toNat % fuzzRecordLen
      let free := s.findFree index
      s.fill getInstructionDestRegister free.1 call.instPointer

/-- A sequence of calls, with what they return. -/
def getRegIndexesByRip : List FuzzCall → FuzzState → List (BitVec 32) × FuzzState
  | [], s => ([], s)
  | call :: calls, s =>
    let (regIndex, s) := getRegIndexByRip getInstructionDestRegister call s
    let (regIndexes, s) := getRegIndexesByRip calls s
    (regIndex :: regIndexes, s)

end Calls

/-! ## Transparency -/

namespace FuzzState

variable {decode : BitVec 64 → BitVec 32} {home : BitVec 64 → ℕ} {call : FuzzCall} {s : FuzzState}
  {index : ℕ}

/-- The instruction pointers of the table. -/
def rips (s : FuzzState) (i : ℕ) : BitVec 64 :=
  (s.record i).rip

/-- Every used record is what decoding returns. -/
def Caches (decode : BitVec 64 → BitVec 32) (s : FuzzState) : Prop :=
  ∀ i < fuzzRecordLen, s.rips i ≠ 0 → (s.record i).desRegId = decode (s.rips i)

theorem fuzzRecordLen_pos : 0 < fuzzRecordLen := by
  decide

theorem home_lt (pfn : BitVec 64) : pfn.toNat % fuzzRecordLen < fuzzRecordLen :=
  Nat.mod_lt _ fuzzRecordLen_pos

@[simp] theorem fill_fst (decode : BitVec 64 → BitVec 32) (index : ℕ) (rip : BitVec 64)
    (s : FuzzState) : (s.fill decode index rip).1 = decode rip := by
  simp [fill]

@[simp] theorem rips_fill (decode : BitVec 64 → BitVec 32) (index : ℕ) (rip : BitVec 64)
    (s : FuzzState) : (s.fill decode index rip).2.rips = Function.update s.rips index rip := by
  funext i
  by_cases hi : i = index
  · simp [fill, rips, hi]
  · simp [fill, rips, hi]

theorem Caches.fill (h : s.Caches decode) (index : ℕ) (rip : BitVec 64) :
    (s.fill decode index rip).2.Caches decode := by
  intro i hi hused
  by_cases hindex : i = index
  · simp [FuzzState.fill, rips, hindex]
  · rw [rips_fill, Function.update_of_ne hindex] at hused
    have hkept := h i hi hused
    simpa [FuzzState.fill, rips, hindex] using hkept

/-- What a call does : it fills a slot, or finds the instruction. -/
theorem getRegIndexByRip_cases (decode : BitVec 64 → BitVec 32) (call : FuzzCall)
    (s : FuzzState) :
    -- the first slot is empty
    (s.rips (call.pfn.toNat % fuzzRecordLen) = 0 ∧ getRegIndexByRip decode call s =
      s.fill decode (call.pfn.toNat % fuzzRecordLen) call.instPointer) ∨
    -- a slot has the instruction
    (∃ i < fuzzRecordLen, s.rips i = call.instPointer ∧
      getRegIndexByRip decode call s = ((s.record i).desRegId, s)) ∨
    -- none has, and the first slot is in use
    (s.rips (call.pfn.toNat % fuzzRecordLen) ≠ 0 ∧
      (∀ i < fuzzRecordLen, s.rips i ≠ call.instPointer) ∧
      ∃ i < fuzzRecordLen, (s.rips i = 0 ∨ ∀ j < fuzzRecordLen, s.rips j ≠ 0) ∧
        getRegIndexByRip decode call s = s.fill decode i call.instPointer) := by
  simp only [rips]
  have hhome := home_lt call.pfn
  have hagain := home_lt call.pfnAgain
  by_cases hempty : (s.record (call.pfn.toNat % fuzzRecordLen)).rip = 0
  · exact Or.inl ⟨hempty, by rw [getRegIndexByRip, if_pos hempty]⟩
  by_cases hhere : (s.record (call.pfn.toNat % fuzzRecordLen)).rip = call.instPointer
  · exact Or.inr (Or.inl ⟨_, hhome, hhere, by
      rw [getRegIndexByRip, if_neg hempty, if_pos hhere]⟩)
  rw [getRegIndexByRip, if_neg hempty, if_neg hhere]
  by_cases hmoved :
      (s.findMoved (call.pfn.toNat % fuzzRecordLen) call.instPointer).2 < fuzzRecordLen
  · obtain ⟨hlt, hfound⟩ := probe_found hhome hmoved
    simp only [hmoved, if_true]
    exact Or.inr (Or.inl ⟨_, hlt, by simpa using hfound, rfl⟩)
  · obtain ⟨-, hnone⟩ := probe_none hhome hmoved
    simp only [hmoved, if_false]
    refine Or.inr (Or.inr ⟨hempty, fun i hi => by simpa using hnone i hi, ?_⟩)
    by_cases hfree : (s.findFree (call.pfnAgain.toNat % fuzzRecordLen)).2 < fuzzRecordLen
    · obtain ⟨hlt, hfound⟩ := probe_found hagain hfree
      exact ⟨_, hlt, Or.inl (by simpa using hfound), rfl⟩
    · obtain ⟨hback, hfull⟩ := probe_none hagain hfree
      exact ⟨_, hback.symm ▸ hagain, Or.inr fun j hj => by simpa using hfull j hj, rfl⟩

/-- Right after a call its instruction is in the table. -/
theorem mem_getRegIndexByRip (decode : BitVec 64 → BitVec 32) (call : FuzzCall) (s : FuzzState) :
    ∃ i < fuzzRecordLen, (getRegIndexByRip decode call s).2.rips i = call.instPointer := by
  have hfill : ∀ i, (s.fill decode i call.instPointer).2.rips i = call.instPointer := fun i => by
    rw [rips_fill, Function.update_self]
  obtain ⟨-, heq⟩ | ⟨i, hi, hfound, heq⟩ | ⟨-, -, i, hi, -, heq⟩ :=
    getRegIndexByRip_cases decode call s
  · rw [heq]
    exact ⟨_, home_lt _, hfill _⟩
  · rw [heq]
    exact ⟨i, hi, hfound⟩
  · rw [heq]
    exact ⟨i, hi, hfill i⟩

/-- A call returns what decoding returns, and leaves the table a cache. -/
theorem Caches.getRegIndexByRip (h : s.Caches decode) (hrip : call.instPointer ≠ 0) :
    (DeviceMon.getRegIndexByRip decode call s).1 = decode call.instPointer ∧
      (DeviceMon.getRegIndexByRip decode call s).2.Caches decode := by
  obtain ⟨-, heq⟩ | ⟨i, hi, hfound, heq⟩ | ⟨-, -, i, -, -, heq⟩ :=
    getRegIndexByRip_cases decode call s
  · rw [heq]
    exact ⟨fill_fst _ _ _ _, h.fill _ _⟩
  · rw [heq, ← hfound]
    exact ⟨h i hi (hfound ▸ hrip), h⟩
  · rw [heq]
    exact ⟨fill_fst _ _ _ _, h.fill _ _⟩

/-! ## No instruction twice -/

/-- The table has the instructions that were decoded, each once. -/
def HoldsOnce (home : BitVec 64 → ℕ) (s : FuzzState) : Prop :=
  Holds 0 fuzzRecordLen home s.rips s.decoded

/-- A call with room for its instruction, whose first slot is that of the instruction. -/
theorem HoldsOnce.getRegIndexByRip (h : s.HoldsOnce home) (hrip : call.instPointer ≠ 0)
    (hhome : call.pfn.toNat % fuzzRecordLen = home call.instPointer)
    (hroom : call.instPointer ∉ s.decoded → s.decoded.length < fuzzRecordLen)
    (decode : BitVec 64 → BitVec 32) :
    (DeviceMon.getRegIndexByRip decode call s).2.HoldsOnce home := by
  have hfill : ∀ {i : ℕ}, call.instPointer ∉ s.decoded → i < fuzzRecordLen → s.rips i = 0 →
      (i = home call.instPointer ∨ s.rips (home call.instPointer) ≠ 0) →
      (s.fill decode i call.instPointer).2.HoldsOnce home := fun hnew hi hfree hused => by
    rw [HoldsOnce, rips_fill]
    exact h.insert hnew hrip hi hfree hused
  obtain ⟨hempty, heq⟩ | ⟨i, -, -, heq⟩ | ⟨hused, hnone, i, hi, hfree, heq⟩ :=
    getRegIndexByRip_cases decode call s
  · rw [heq]
    exact hfill (h.notMem_of_home (hhome ▸ hempty)) (home_lt _) hempty (Or.inl hhome)
  · rw [heq]
    exact h
  · have hnew := h.notMem_of_forall hnone
    obtain ⟨j, hj, hjfree⟩ := h.exists_empty (hroom hnew)
    have hifree : s.rips i = 0 := hfree.resolve_right fun hfull => hfull j hj hjfree
    rw [heq]
    exact hfill hnew hi hifree (Or.inr (hhome ▸ hused))

/-- The instructions that were decoded are those before, and maybe the one called. -/
theorem decoded_getRegIndexByRip (decode : BitVec 64 → BitVec 32) (call : FuzzCall)
    (s : FuzzState) : s.decoded ⊆ (getRegIndexByRip decode call s).2.decoded ∧
      ∀ rip ∈ (getRegIndexByRip decode call s).2.decoded,
        rip ∈ s.decoded ∨ rip = call.instPointer := by
  have hfill : ∀ i, s.decoded ⊆ (s.fill decode i call.instPointer).2.decoded ∧
      ∀ rip ∈ (s.fill decode i call.instPointer).2.decoded,
        rip ∈ s.decoded ∨ rip = call.instPointer := by
    simp [fill]
  obtain ⟨-, heq⟩ | ⟨i, -, -, heq⟩ | ⟨-, -, i, -, -, heq⟩ := getRegIndexByRip_cases decode call s
  · rw [heq]
    exact hfill _
  · rw [heq]
    exact ⟨List.Subset.refl _, fun rip hmem => Or.inl hmem⟩
  · rw [heq]
    exact hfill _

/-! ## Runs -/

theorem Caches.run {calls : List FuzzCall} (h : s.Caches decode)
    (hrips : ∀ call ∈ calls, call.instPointer ≠ 0) :
    (getRegIndexesByRip decode calls s).1 = calls.map fun call => decode call.instPointer := by
  induction calls generalizing s with
  | nil => rfl
  | cons call calls ih =>
    rw [List.forall_mem_cons] at hrips
    obtain ⟨hreturns, hcaches⟩ := h.getRegIndexByRip hrips.1
    simp only [getRegIndexesByRip, List.map_cons, hreturns, ih hcaches hrips.2]

theorem decoded_run (decode : BitVec 64 → BitVec 32) (calls : List FuzzCall) (s : FuzzState) :
    s.decoded ⊆ (getRegIndexesByRip decode calls s).2.decoded := by
  induction calls generalizing s with
  | nil => exact List.Subset.refl _
  | cons call calls ih =>
    exact List.Subset.trans (decoded_getRegIndexByRip decode call s).1 (ih _)

/-- Calls for the instructions of a set that fits in the table. All of them are in it then. -/
theorem HoldsOnce.run {calls : List FuzzCall} {rips : Finset (BitVec 64)}
    (hfits : rips.card ≤ fuzzRecordLen) (h : s.HoldsOnce home)
    (hdecoded : ∀ rip ∈ s.decoded, rip ∈ rips)
    (hcalls : ∀ call ∈ calls, call.instPointer ∈ rips ∧ call.instPointer ≠ 0 ∧
      call.pfn.toNat % fuzzRecordLen = home call.instPointer)
    (decode : BitVec 64 → BitVec 32) :
    (getRegIndexesByRip decode calls s).2.HoldsOnce home ∧
      ∀ call ∈ calls, call.instPointer ∈ (getRegIndexesByRip decode calls s).2.decoded := by
  induction calls generalizing s with
  | nil => exact ⟨h, fun call hc => by cases hc⟩
  | cons call calls ih =>
    rw [List.forall_mem_cons] at hcalls
    obtain ⟨⟨hmem, hrip, hhome⟩, hcalls⟩ := hcalls
    have hroom : call.instPointer ∉ s.decoded → s.decoded.length < fuzzRecordLen := by
      intro hnew
      have hproper : s.decoded.toFinset ⊂ rips :=
        Finset.ssubset_iff_of_subset (fun rip hr => hdecoded rip (List.mem_toFinset.1 hr)) |>.2
          ⟨_, hmem, fun hin => hnew (List.mem_toFinset.1 hin)⟩
      have hcard := Finset.card_lt_card hproper
      rw [List.toFinset_card_of_nodup h.nodup] at hcard
      exact hcard.trans_le hfits
    have honce := h.getRegIndexByRip hrip hhome hroom decode
    have hthere := (honce.mem_iff _).2 ⟨hrip, mem_getRegIndexByRip decode call s⟩
    obtain ⟨hrun, hin⟩ := ih honce (fun rip hr => by
      rcases (decoded_getRegIndexByRip decode call s).2 rip hr with hold | rfl
      · exact hdecoded rip hold
      · exact hmem) hcalls
    exact ⟨hrun, List.forall_mem_cons.2 ⟨decoded_run decode calls _ hthere, hin⟩⟩

end FuzzState

/-- **The RIP records are a transparent cache.** Whatever page frames `UtilPfnFromVa` returns,
every call of `GetRegIndexByRip` returns what decoding returns, and its loops pass no more than
all slots. If the first slot of each instruction is always the same and there are no more
instructions than slots, no instruction is decoded twice, and every one that was called is at one
slot. -/
theorem getRegIndexByRip_transparent (getInstructionDestRegister : BitVec 64 → BitVec 32)
    (calls : List FuzzCall) (hrips : ∀ call ∈ calls, call.instPointer ≠ 0) :
    (getRegIndexesByRip getInstructionDestRegister calls zeroedRecord).1 =
        calls.map (fun call => getInstructionDestRegister call.instPointer) ∧
      (∀ (s : FuzzState), ∀ index < fuzzRecordLen, ∀ instPointer : BitVec 64,
        (s.findMoved index instPointer).2 ≤ fuzzRecordLen ∧
          (s.findFree index).2 ≤ fuzzRecordLen) ∧
      ∀ home : BitVec 64 → ℕ,
        (∀ call ∈ calls, call.pfn.toNat % fuzzRecordLen = home call.instPointer) →
        (calls.map FuzzCall.instPointer).toFinset.card ≤ fuzzRecordLen →
        let s := (getRegIndexesByRip getInstructionDestRegister calls zeroedRecord).2
        s.decoded.Nodup ∧
          (∀ i < fuzzRecordLen, ∀ j < fuzzRecordLen,
            (s.record i).rip = (s.record j).rip → (s.record i).rip ≠ 0 → i = j) ∧
          ∀ call ∈ calls, ∃ i < fuzzRecordLen, (s.record i).rip = call.instPointer := by
  have hcaches : zeroedRecord.Caches getInstructionDestRegister := fun _ _ hused => (hused rfl).elim
  refine ⟨hcaches.run hrips, fun s index hindex _ => ⟨probe_le hindex, probe_le hindex⟩,
    fun home hhome hfits => ?_⟩
  have honce : zeroedRecord.HoldsOnce home := Holds.nil
  obtain ⟨hrun, hcalled⟩ := honce.run hfits (by simp [zeroedRecord])
    (fun call hc => ⟨List.mem_toFinset.2 (List.mem_map_of_mem hc), hrips call hc, hhome call hc⟩)
    getInstructionDestRegister
  exact ⟨hrun.nodup, hrun.distinct, fun call hc => ((hrun.mem_iff _).1 (hcalled call hc)).2⟩

/-- Two instructions whose first slot is the same. -/
theorem getRegIndexByRip_transparent_collision :
    (getRegIndexesByRip (fun rip => rip.setWidth 32)
        [⟨0x1000, 7, 7⟩, ⟨0x2000, 7, 7⟩, ⟨0x1000, 7, 7⟩] zeroedRecord).1 =
          [0x1000, 0x2000, 0x1000] ∧
      (getRegIndexesByRip (fun rip => rip.setWidth 32)
        [⟨0x1000, 7, 7⟩, ⟨0x2000, 7, 7⟩, ⟨0x1000, 7, 7⟩] zeroedRecord).2.decoded.Nodup := by
  obtain ⟨hreturns, -, honce⟩ := getRegIndexByRip_transparent (fun rip => rip.setWidth 32)
    [⟨0x1000, 7, 7⟩, ⟨0x2000, 7, 7⟩, ⟨0x1000, 7, 7⟩] (by decide)
  exact ⟨hreturns, (honce (fun _ => 7) (by decide) (by decide)).1⟩

end DeviceMon
