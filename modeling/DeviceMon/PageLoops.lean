import DeviceMon.DevMon
import DeviceMon.EptPages

/-!
# The page loops

What `InvalidateEptPages` and `ValidateEptPages` do to the leaves. `roundPage` is the page
the cursor is on in a round : the first page in rounds 0 and 1, then one page further in
each round. Both loops change the leaves of the pages their rounds visit and no others;
`Changes` is this kind of effect, and rounds compose by `Changes.trans`.

`InvalidateEptPages` visits all its rounds unless the pool refuses a table
(`invalidateEptPages_spec`), `ValidateEptPages` always (`validateEptPages_spec`).
-/

namespace DeviceMon

/-! ## Rounds -/

/-- The cursor at the start of a round. -/
def roundCursor (guestPhysAddr : BitVec 64) : ℕ → BitVec 32
  | 0 => guestPhysAddr.setWidth 32
  | k + 1 => pageCursor guestPhysAddr k

/-- The page of a round. -/
def roundPage (guestPhysAddr : BitVec 64) (k : ℕ) : Page :=
  pageOf ((roundCursor guestPhysAddr k).setWidth 64)

/-- The pages of the `n` rounds from round `k` on. -/
def RoundPages (guestPhysAddr : BitVec 64) (k n : ℕ) (p : Page) : Prop :=
  ∃ j, k ≤ j ∧ j < k + n ∧ roundPage guestPhysAddr j = p

section Rounds

variable {gpa : BitVec 64} {k n : ℕ} {p : Page}

theorem toNat_roundPage_zero (gpa : BitVec 64) :
    (roundPage gpa 0).toNat = gpa.toNat % 2 ^ 32 / 4096 := by
  have : gpa.toNat % 2 ^ 32 < 2 ^ 32 := Nat.mod_lt _ (by decide)
  simp only [roundPage, toNat_pageOf, roundCursor, BitVec.toNat_setWidth]
  omega

theorem toNat_roundPage_succ (gpa : BitVec 64) (k : ℕ) :
    (roundPage gpa (k + 1)).toNat = (gpa.toNat + 4096 * k) % 2 ^ 32 / 4096 := by
  have hpage : (0x1000 : BitVec 32).toNat = 4096 := rfl
  simp only [roundPage, toNat_pageOf, roundCursor, pageCursor, BitVec.toNat_setWidth,
    BitVec.toNat_add, BitVec.toNat_mul, BitVec.toNat_ofNat, hpage]
  omega

theorem roundPages_zero : ¬RoundPages gpa k 0 p := by
  rintro ⟨j, h1, h2, -⟩
  omega

theorem roundPages_succ :
    RoundPages gpa k (n + 1) p ↔ roundPage gpa k = p ∨ RoundPages gpa (k + 1) n p := by
  constructor
  · rintro ⟨j, h1, h2, h3⟩
    rcases eq_or_lt_of_le h1 with rfl | h
    · exact Or.inl h3
    · exact Or.inr ⟨j, h, by omega, h3⟩
  · rintro (h | ⟨j, h1, h2, h3⟩)
    · exact ⟨k, le_rfl, by omega, h⟩
    · exact ⟨j, by omega, by omega, h3⟩

end Rounds

/-! ## Effects on leaves -/

/-- The leaves of the pages in `V` change as `R` says, and no others do. -/
def Changes (R : Page → EptCommonEntry → EptCommonEntry → Prop) (V : Page → Prop)
    (s s' : EptState) : Prop :=
  ∀ p, (V p → R p (s.leaf p) (s'.leaf p)) ∧ (¬V p → s'.leaf p = s.leaf p)

section Changes

variable {R : Page → EptCommonEntry → EptCommonEntry → Prop} {V V' : Page → Prop}
  {s s' s'' : EptState}

theorem Changes.refl (R : Page → EptCommonEntry → EptCommonEntry → Prop) (s : EptState) :
    Changes R (fun _ => False) s s :=
  fun _ => ⟨False.elim, fun _ => rfl⟩

theorem Changes.congr (h : Changes R V s s') (hv : ∀ p, V p ↔ V' p) : Changes R V' s s' :=
  fun p => ⟨fun hp => (h p).1 ((hv p).2 hp), fun hp => (h p).2 fun h' => hp ((hv p).1 h')⟩

/-- Effects compose when a second change of a leaf is of the same kind. -/
theorem Changes.trans (hR : ∀ {p e e' e''}, R p e e' → R p e' e'' → R p e e'')
    (h : Changes R V s s') (h' : Changes R V' s' s'') :
    Changes R (fun p => V p ∨ V' p) s s'' := by
  intro p
  constructor
  · rintro (hp | hp)
    · by_cases hp' : V' p
      · exact hR ((h p).1 hp) ((h' p).1 hp')
      · rw [(h' p).2 hp']
        exact (h p).1 hp
    · by_cases hp' : V p
      · exact hR ((h p).1 hp') ((h' p).1 hp)
      · rw [← (h p).2 hp']
        exact (h' p).1 hp
  · intro hp
    rw [(h' p).2 fun h => hp (Or.inr h), (h p).2 fun h => hp (Or.inl h)]

end Changes

/-- The leaf of a page after a missing one was mapped at `pa`. -/
def mappedLeaf (mtrr : Mtrr) (pa : BitVec 64) (e : EptCommonEntry) : EptCommonEntry :=
  if e.all = 0 then eptpInitTableEntry mtrr e 1 pa else e

/-- A page was mapped if need be and trapped. -/
def TrapsLeaf (mtrr : Mtrr) (p : Page) (e e' : EptCommonEntry) : Prop :=
  ∃ pa, pageOf pa = p ∧ e' = (mappedLeaf mtrr pa e).trap

/-- A present leaf was opened. -/
def PassesLeaf (_ : Page) (e e' : EptCommonEntry) : Prop :=
  e' = if e.all = 0 then e else e.pass

section Loops

variable {s : EptState} (pool : Pool) (mtrr : Mtrr)

theorem mappedLeaf_ne_zero (pa : BitVec 64) (e : EptCommonEntry) :
    (mappedLeaf mtrr pa e).all ≠ 0 := by
  unfold mappedLeaf
  split_ifs with h
  · exact init_all_ne_zero mtrr e 1 pa
  · exact h

theorem TrapsLeaf.trans {p : Page} {e e' e'' : EptCommonEntry} (h : TrapsLeaf mtrr p e e')
    (h' : TrapsLeaf mtrr p e' e'') : TrapsLeaf mtrr p e e'' := by
  obtain ⟨pa, hpa, rfl⟩ := h
  obtain ⟨pa', -, rfl⟩ := h'
  exact ⟨pa, hpa, by rw [mappedLeaf, if_neg (EptCommonEntry.trap_all_ne_zero _)]; rfl⟩

theorem PassesLeaf.trans {p : Page} {e e' e'' : EptCommonEntry} (h : PassesLeaf p e e')
    (h' : PassesLeaf p e' e'') : PassesLeaf p e e'' := by
  unfold PassesLeaf at *
  by_cases he : e.all = 0
  · rw [if_pos he] at h ⊢
    rw [h', h, if_pos he]
  · rw [if_neg he] at h ⊢
    rw [h', h, if_neg (EptCommonEntry.pass_all_ne_zero _)]
    rfl

/-! ## InvalidateEptPages -/

/-- What finding or mapping an entry does : it is the slot of the page, whose leaf is
present now, or the pool refused. -/
theorem findOrMapEntry_spec (h : EptReady s) (pa : BitVec 64) :
    Keeps s (findOrMapEntry pool mtrr pa s).2 ∧
      (∀ ptr, (findOrMapEntry pool mtrr pa s).1 = some ptr →
        eptGetEptPtEntry (findOrMapEntry pool mtrr pa s).2 pa = some ptr ∧
          ∀ p, (findOrMapEntry pool mtrr pa s).2.leaf p =
            if p = pageOf pa then mappedLeaf mtrr pa (s.leaf p) else s.leaf p) ∧
      ((findOrMapEntry pool mtrr pa s).1 = none →
        (∀ p, (findOrMapEntry pool mtrr pa s).2.leaf p = s.leaf p) ∧
          s.heap.refused < (findOrMapEntry pool mtrr pa s).2.heap.refused) := by
  have hm := h.map_spec pool mtrr pa
  have hmap : (s.leaf (pageOf pa)).all = 0 →
      ∀ p, (if p = pageOf pa then eptpInitTableEntry mtrr (s.leaf p) 1 pa else s.leaf p) =
        if p = pageOf pa then mappedLeaf mtrr pa (s.leaf p) else s.leaf p := by
    intro hz p
    by_cases hp : p = pageOf pa
    · rw [if_pos hp, if_pos hp, mappedLeaf, if_pos (by rw [hp, hz])]
    · rw [if_neg hp, if_neg hp]
  unfold findOrMapEntry
  cases hget : eptGetEptPtEntry s pa with
  | none =>
    have hz : (s.leaf (pageOf pa)).all = 0 := by
      rw [h.leaf_of_none hget, EptCommonEntry.all_zero]
    refine ⟨hm.keeps, fun ptr hptr => ?_, hm.failed⟩
    obtain ⟨hslot, hleaf⟩ := hm.mapped hptr
    exact ⟨hslot, fun p => (hleaf p).trans (hmap hz p)⟩
  | some ptr =>
    have hread := h.read_slot hget
    by_cases hz : (s.read ptr).all = 0
    · simp only [if_pos hz]
      refine ⟨hm.keeps, fun ptr hptr => ?_, hm.failed⟩
      obtain ⟨hslot, hleaf⟩ := hm.mapped hptr
      exact ⟨hslot, fun p => (hleaf p).trans (hmap (by rw [← hread, hz]) p)⟩
    · simp only [if_neg hz]
      refine ⟨.refl h, fun ptr' hptr => ?_, by simp⟩
      obtain rfl := Option.some.inj hptr
      refine ⟨hget, fun p => ?_⟩
      by_cases hp : p = pageOf pa
      · rw [if_pos hp, mappedLeaf, if_neg (by rw [hp, ← hread]; exact hz)]
      · rw [if_neg hp]

/-- What one round of `InvalidateEptPages` does : it traps its page, or the pool refused. -/
theorem invalidateEptPage_spec (h : EptReady s) (pa : BitVec 64) :
    Keeps s (invalidateEptPage pool mtrr pa s).2 ∧
      ((invalidateEptPage pool mtrr pa s).1 = true →
        Changes (TrapsLeaf mtrr) (pageOf pa = ·) s (invalidateEptPage pool mtrr pa s).2) ∧
      ((invalidateEptPage pool mtrr pa s).1 = false →
        (∀ p, (invalidateEptPage pool mtrr pa s).2.leaf p = s.leaf p) ∧
          s.heap.refused < (invalidateEptPage pool mtrr pa s).2.heap.refused) := by
  obtain ⟨hk, hsome, hnone⟩ := findOrMapEntry_spec pool mtrr h pa
  unfold invalidateEptPage
  generalize findOrMapEntry pool mtrr pa s = r at hk hsome hnone ⊢
  obtain ⟨entry, s₁⟩ := r
  cases entry with
  | none => exact ⟨hk, by simp, fun _ => hnone rfl⟩
  | some ptr =>
    obtain ⟨hptr, hleaf⟩ := hsome ptr rfl
    have hread := hk.ready.read_slot hptr
    have hne : (s₁.read ptr).all ≠ 0 := by
      rw [hread, hleaf, if_pos rfl]
      exact mappedLeaf_ne_zero mtrr pa _
    simp only [if_neg hne]
    obtain ⟨-, -, hwrite⟩ := hk.ready.write_slot hptr (s₁.read ptr).trap
    refine ⟨hk.trans (hk.ready.keeps_write hptr _), fun _ p => ⟨?_, fun hp => ?_⟩, by simp⟩
    · rintro rfl
      refine ⟨pa, rfl, ?_⟩
      rw [EptState.modify, hwrite, if_pos rfl, hread, hleaf, if_pos rfl]
    · rw [EptState.modify, hwrite, if_neg (Ne.symm hp), hleaf, if_neg (Ne.symm hp)]

/-- The loop traps the pages of its rounds up to the first refusal. -/
theorem invalidateEptPagesLoop_spec (gpa : BitVec 64) (n k : ℕ) (h : EptReady s) :
    Keeps s (invalidateEptPagesLoop pool mtrr gpa n k (roundCursor gpa k) s) ∧
      ∃ m ≤ n, Changes (TrapsLeaf mtrr) (RoundPages gpa k m) s
          (invalidateEptPagesLoop pool mtrr gpa n k (roundCursor gpa k) s) ∧
        (m < n → s.heap.refused <
          (invalidateEptPagesLoop pool mtrr gpa n k (roundCursor gpa k) s).heap.refused) := by
  induction n generalizing k s with
  | zero =>
    refine ⟨.refl h, 0, le_rfl, ?_, by simp⟩
    exact (Changes.refl _ s).congr fun p => ⟨False.elim, fun hp => roundPages_zero hp⟩
  | succ n ih =>
    obtain ⟨hk, htrap, hstop⟩ := invalidateEptPage_spec pool mtrr h
      ((roundCursor gpa k).setWidth 64)
    rw [invalidateEptPagesLoop]
    generalize invalidateEptPage pool mtrr ((roundCursor gpa k).setWidth 64) s = r
      at hk htrap hstop ⊢
    obtain ⟨ok, s₁⟩ := r
    cases ok with
    | false =>
      obtain ⟨hleaf, hrefused⟩ := hstop rfl
      refine ⟨hk, 0, Nat.zero_le _,
        fun p => ⟨fun hp => (roundPages_zero hp).elim, fun _ => hleaf p⟩,
        fun _ => hrefused⟩
    | true =>
      obtain ⟨hk', m, hm, hch, hrefused⟩ := ih (k + 1) hk.ready
      refine ⟨hk.trans hk', m + 1, by omega, ?_, fun hlt => ?_⟩
      · exact ((htrap rfl).trans (R := TrapsLeaf mtrr) (TrapsLeaf.trans mtrr) hch).congr
          fun p => roundPages_succ.symm
      · exact lt_of_le_of_lt hk.refused (hrefused (by omega))

/-- `InvalidateEptPages` traps the pages of its rounds, all of them if no table is refused. -/
theorem invalidateEptPages_spec (h : EptReady s) (gpa : BitVec 64) (size : BitVec 32) :
    Keeps s (invalidateEptPages pool mtrr gpa size s) ∧
      ∃ m ≤ addressAndSizeToSpanPages size,
        Changes (TrapsLeaf mtrr) (RoundPages gpa 0 m) s (invalidateEptPages pool mtrr gpa size s) ∧
        (m < addressAndSizeToSpanPages size →
          s.heap.refused < (invalidateEptPages pool mtrr gpa size s).heap.refused) :=
  invalidateEptPagesLoop_spec pool mtrr gpa _ 0 h

/-! ## ValidateEptPages -/

/-- What one round of `ValidateEptPages` does. -/
theorem validateEptPage_spec (h : EptReady s) (pa : BitVec 64) :
    Keeps s (validateEptPage pa s) ∧
      Changes PassesLeaf (pageOf pa = ·) s (validateEptPage pa s) := by
  unfold validateEptPage
  cases hget : eptGetEptPtEntry s pa with
  | none =>
    refine ⟨.refl h, fun p => ⟨?_, fun _ => rfl⟩⟩
    rintro rfl
    rw [PassesLeaf, h.leaf_of_none hget, if_pos EptCommonEntry.all_zero]
  | some ptr =>
    have hread := h.read_slot hget
    by_cases hz : (s.read ptr).all = 0
    · simp only [if_pos hz]
      refine ⟨.refl h, fun p => ⟨?_, fun _ => rfl⟩⟩
      rintro rfl
      rw [PassesLeaf, if_pos (by rw [← hread, hz])]
    · simp only [if_neg hz]
      obtain ⟨-, -, hwrite⟩ := h.write_slot hget (s.read ptr).pass
      refine ⟨h.keeps_write hget _, fun p => ⟨?_, fun hp => ?_⟩⟩
      · rintro rfl
        rw [PassesLeaf, EptState.modify, hwrite, if_pos rfl, hread, if_neg (by rwa [← hread])]
      · rw [EptState.modify, hwrite, if_neg (Ne.symm hp)]

theorem validateEptPagesLoop_spec (gpa : BitVec 64) (n k : ℕ) (h : EptReady s) :
    Keeps s (validateEptPagesLoop gpa n k (roundCursor gpa k) s) ∧
      Changes PassesLeaf (RoundPages gpa k n) s
        (validateEptPagesLoop gpa n k (roundCursor gpa k) s) := by
  induction n generalizing k s with
  | zero =>
    exact ⟨.refl h, (Changes.refl _ s).congr fun p => ⟨False.elim, fun hp => roundPages_zero hp⟩⟩
  | succ n ih =>
    obtain ⟨hk, hch⟩ := validateEptPage_spec h ((roundCursor gpa k).setWidth 64)
    obtain ⟨hk', hch'⟩ := ih (k + 1) hk.ready
    rw [validateEptPagesLoop]
    exact ⟨hk.trans hk', (hch.trans (R := PassesLeaf) PassesLeaf.trans hch').congr
      fun p => roundPages_succ.symm⟩

/-- `ValidateEptPages` opens the present pages of all its rounds. -/
theorem validateEptPages_spec (h : EptReady s) (gpa : BitVec 64) (size : BitVec 32) :
    Keeps s (validateEptPages gpa size s) ∧
      Changes PassesLeaf (RoundPages gpa 0 (addressAndSizeToSpanPages size)) s
        (validateEptPages gpa size s) :=
  validateEptPagesLoop_spec gpa _ 0 h

end Loops

end DeviceMon
