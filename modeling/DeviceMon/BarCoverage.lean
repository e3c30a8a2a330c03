import DeviceMon.EptStart
import DeviceMon.PageLoops

/-!
# Which pages a BAR loop reaches

The rounds of a page loop against the pages of the range it is given. The cursor stands
on the first page in the first two rounds, so a range of two or more pages loses its last
one : `InvalidateEptPages` traps all pages of a range below 4 GiB exactly when the range
is one page or its last page was trapped before (`invalidateEptPages_traps_iff`).

The cursor has 32 bits, so a range that starts at or above 4 GiB, or runs past it, makes
the loops change pages outside it (`eptPages_frame_iff`).
-/

namespace DeviceMon

/-- Page `p` has a byte of `[gpa, gpa + size)`. -/
def Overlaps (gpa : BitVec 64) (size : BitVec 32) (p : Page) : Prop :=
  ∃ a, gpa.toNat ≤ a ∧ a < gpa.toNat + size.toNat ∧ a / 4096 = p.toNat

section Coverage

variable {gpa : BitVec 64} {size : BitVec 32} {p : Page} {k n m : ℕ}

/-- The pages of a range that starts on a page are consecutive. -/
theorem overlaps_iff (ha : gpa.toNat % 4096 = 0) :
    Overlaps gpa size p ↔ gpa.toNat / 4096 ≤ p.toNat ∧
      p.toNat < gpa.toNat / 4096 + addressAndSizeToSpanPages size := by
  unfold Overlaps addressAndSizeToSpanPages
  constructor
  · rintro ⟨a, h1, h2, h3⟩
    omega
  · rintro ⟨h1, h2⟩
    exact ⟨p.toNat * 4096, by omega, by omega, by omega⟩

theorem one_le_span (hs : size ≠ 0) : 1 ≤ addressAndSizeToSpanPages size := by
  have hs' : size.toNat ≠ 0 := fun h => hs (BitVec.eq_of_toNat_eq h)
  unfold addressAndSizeToSpanPages
  omega

theorem span_le (size : BitVec 32) : addressAndSizeToSpanPages size ≤ 2 ^ 20 := by
  have := size.isLt
  unfold addressAndSizeToSpanPages
  omega

/-- Below 4 GiB round `k + 1` is on the `k`-th page of the range. -/
theorem toNat_roundPage_of_lt (ha : gpa.toNat % 4096 = 0) (hk : gpa.toNat + 4096 * k < 2 ^ 32) :
    (roundPage gpa (k + 1)).toNat = gpa.toNat / 4096 + k := by
  rw [toNat_roundPage_succ, Nat.mod_eq_of_lt hk]
  omega

theorem toNat_roundPage_zero_of_lt (hlt : gpa.toNat < 2 ^ 32) :
    (roundPage gpa 0).toNat = gpa.toNat / 4096 := by
  rw [toNat_roundPage_zero, Nat.mod_eq_of_lt hlt]

/-- While the cursor does not wrap, the rounds visit the first page and `n - 1` in all. -/
theorem roundPages_iff (ha : gpa.toNat % 4096 = 0) (hlt : gpa.toNat < 2 ^ 32)
    (hn : gpa.toNat / 4096 + n ≤ 2 ^ 20 + 1) :
    RoundPages gpa 0 n p ↔ 0 < n ∧ gpa.toNat / 4096 ≤ p.toNat ∧
      p.toNat < gpa.toNat / 4096 + max 1 (n - 1) := by
  constructor
  · rintro ⟨j, -, hj, rfl⟩
    cases j with
    | zero =>
      rw [toNat_roundPage_zero_of_lt hlt]
      omega
    | succ k =>
      rw [toNat_roundPage_of_lt ha (by omega)]
      omega
  · rintro ⟨h0, h1, h2⟩
    by_cases hp : p.toNat = gpa.toNat / 4096
    · refine ⟨0, le_rfl, by omega, BitVec.eq_of_toNat_eq ?_⟩
      rw [toNat_roundPage_zero_of_lt hlt, hp]
    · refine ⟨p.toNat - gpa.toNat / 4096 + 1, by omega, by omega, BitVec.eq_of_toNat_eq ?_⟩
      rw [toNat_roundPage_of_lt ha (by omega)]
      omega

/-- The page of the last byte of a range below 4 GiB. -/
theorem toNat_lastPage (hs : size ≠ 0) (hb : gpa.toNat + size.toNat ≤ 2 ^ 32) :
    (pageOf (gpa + size.setWidth 64 - 1)).toNat = (gpa.toNat + size.toNat - 1) / 4096 := by
  have hs' : size.toNat ≠ 0 := fun h => hs (BitVec.eq_of_toNat_eq h)
  have hsize := size.isLt
  have hlast : (gpa + size.setWidth 64 - 1).toNat = gpa.toNat + size.toNat - 1 := by
    have h1 : (1 : BitVec 64).toNat = 1 := rfl
    rw [BitVec.toNat_sub, BitVec.toNat_add, BitVec.toNat_setWidth, h1]
    omega
  rw [toNat_pageOf, hlast]
  omega

theorem overlaps_lastPage (ha : gpa.toNat % 4096 = 0) (hs : size ≠ 0)
    (hb : gpa.toNat + size.toNat ≤ 2 ^ 32) :
    Overlaps gpa size (pageOf (gpa + size.setWidth 64 - 1)) := by
  have hs' : size.toNat ≠ 0 := fun h => hs (BitVec.eq_of_toNat_eq h)
  have hlast := toNat_lastPage hs hb
  have hspan : addressAndSizeToSpanPages size = (size.toNat + 4095) / 4096 := rfl
  exact (overlaps_iff ha).2 (by omega)

/-- The one page of a range below 4 GiB that no round visits is the last of several. -/
theorem not_round_iff (ha : gpa.toNat % 4096 = 0) (hs : size ≠ 0)
    (hb : gpa.toNat + size.toNat ≤ 2 ^ 32) (hov : Overlaps gpa size p) :
    ¬RoundPages gpa 0 (addressAndSizeToSpanPages size) p ↔
      4096 < size.toNat ∧ p = pageOf (gpa + size.setWidth 64 - 1) := by
  have hs' : size.toNat ≠ 0 := fun h => hs (BitVec.eq_of_toNat_eq h)
  have hlast := toNat_lastPage hs hb
  have hspan : addressAndSizeToSpanPages size = (size.toNat + 4095) / 4096 := rfl
  have hov' := (overlaps_iff ha).1 hov
  rw [roundPages_iff ha (by omega) (by omega), ← BitVec.toNat_inj (x := p)]
  omega

/-! ## Trapping a whole range -/

section Traps

variable {s : EptState} (pool : Pool) (mtrr : Mtrr)

theorem TrapsLeaf.trapped {e e' : EptCommonEntry} (h : TrapsLeaf mtrr p e e') : e'.Trapped := by
  obtain ⟨pa, -, rfl⟩ := h
  exact EptCommonEntry.trapped_trap _

/-- Without a refusal `InvalidateEptPages` traps all its rounds. -/
theorem invalidateEptPages_of_refused (h : EptReady s)
    (hr : (invalidateEptPages pool mtrr gpa size s).heap.refused = s.heap.refused) :
    Changes (TrapsLeaf mtrr) (RoundPages gpa 0 (addressAndSizeToSpanPages size)) s
      (invalidateEptPages pool mtrr gpa size s) := by
  obtain ⟨-, m, hm, hch, hlt⟩ := invalidateEptPages_spec pool mtrr h gpa size
  rcases eq_or_lt_of_le hm with rfl | hm
  · exact hch
  · have := hlt hm
    omega

/-- All pages of a range below 4 GiB are trapped after `InvalidateEptPages` exactly when the
range is at most one page, or its last page was trapped before. -/
theorem invalidateEptPages_traps_iff (h : EptReady s) (ha : gpa.toNat % 4096 = 0) (hs : size ≠ 0)
    (hb : gpa.toNat + size.toNat ≤ 2 ^ 32)
    (hr : (invalidateEptPages pool mtrr gpa size s).heap.refused = s.heap.refused) :
    (∀ p, Overlaps gpa size p → ((invalidateEptPages pool mtrr gpa size s).leaf p).Trapped) ↔
      size.toNat ≤ 4096 ∨ (s.leaf (pageOf (gpa + size.setWidth 64 - 1))).Trapped := by
  have hch := invalidateEptPages_of_refused pool mtrr h hr
  constructor
  · intro hall
    rcases Nat.lt_or_ge 4096 size.toNat with hmany | hone
    · -- no round reaches the last page, so it was trapped before
      have hov := overlaps_lastPage ha hs hb
      have hnot := (not_round_iff ha hs hb hov).2 ⟨hmany, rfl⟩
      have htrap := hall _ hov
      rw [(hch _).2 hnot] at htrap
      exact Or.inr htrap
    · exact Or.inl hone
  · intro hcond p hov
    by_cases hp : RoundPages gpa 0 (addressAndSizeToSpanPages size) p
    · exact ((hch p).1 hp).trapped
    · rw [(hch p).2 hp]
      obtain ⟨hmany, rfl⟩ := (not_round_iff ha hs hb hov).1 hp
      exact hcond.resolve_left (by omega)

/-- A two-page BAR of a machine that just started, with no refusal. -/
theorem invalidateEptPages_traps_iff_two_pages :
    (∀ p, Overlaps 0xFED00000 0x2000 p →
        ((invalidateEptPages bumpPool uncached 0xFED00000 0x2000 bootEpt).leaf p).Trapped) ↔
      (0x2000 : BitVec 32).toNat ≤ 4096 ∨
        (bootEpt.leaf (pageOf (0xFED00000 + (0x2000 : BitVec 32).setWidth 64 - 1))).Trapped :=
  invalidateEptPages_traps_iff bumpPool uncached bootEpt_ready (by decide) (by decide) (by decide)
    (by decide +kernel)

/-- The second page of that BAR stays open. -/
theorem invalidateEptPages_misses_last_page :
    ¬∀ (pool : Pool) (mtrr : Mtrr) (s : EptState) (gpa : BitVec 64) (size : BitVec 32),
      EptReady s → gpa.toNat % 4096 = 0 → size ≠ 0 → gpa.toNat + size.toNat ≤ 2 ^ 32 →
      (invalidateEptPages pool mtrr gpa size s).heap.refused = s.heap.refused →
      ∀ p, Overlaps gpa size p → ((invalidateEptPages pool mtrr gpa size s).leaf p).Trapped := by
  intro hall
  have htrap := hall bumpPool uncached bootEpt 0xFED00000 0x2000 bootEpt_ready (by decide)
    (by decide) (by decide) (by decide +kernel) 0xFED01 ((overlaps_iff (by decide)).2 (by decide))
  exact absurd htrap (by decide +kernel)

end Traps

/-! ## Changing nothing else -/

section Frame

variable {s : EptState} (pool : Pool) (mtrr : Mtrr)

/-- A range the 32-bit cursor can walk. -/
def CursorFits (gpa : BitVec 64) (size : BitVec 32) : Prop :=
  size = 0 ∨ gpa.toNat < 2 ^ 32 ∧
    gpa.toNat / 4096 + addressAndSizeToSpanPages size ≤ 2 ^ 20 + 1

instance (gpa : BitVec 64) (size : BitVec 32) : Decidable (CursorFits gpa size) :=
  inferInstanceAs (Decidable (_ ∨ _))

/-- Where the cursor fits, every round is on a page of the range. -/
theorem CursorFits.overlaps (hf : CursorFits gpa size) (ha : gpa.toNat % 4096 = 0)
    (hm : m ≤ addressAndSizeToSpanPages size) (hp : RoundPages gpa 0 m p) :
    Overlaps gpa size p := by
  rcases hf with rfl | ⟨hlt, hfit⟩
  · obtain ⟨j, -, hj, -⟩ := hp
    have : addressAndSizeToSpanPages 0 = 0 := rfl
    omega
  · rw [roundPages_iff ha hlt (by omega)] at hp
    rw [overlaps_iff ha]
    omega

/-- Where it does not, some round is on a page outside the range. -/
theorem exists_round_outside (hf : ¬CursorFits gpa size) (ha : gpa.toNat % 4096 = 0) :
    ∃ p, RoundPages gpa 0 (addressAndSizeToSpanPages size) p ∧ ¬Overlaps gpa size p := by
  unfold CursorFits at hf
  rw [not_or, not_and_or] at hf
  obtain ⟨hs, hf⟩ := hf
  have h1 := one_le_span hs
  have h20 := span_le size
  by_cases hlt : gpa.toNat < 2 ^ 32
  · -- the cursor wraps to page 0
    have hwrap : (gpa.toNat + 4096 * (2 ^ 20 - gpa.toNat / 4096)) = 2 ^ 32 := by omega
    have hzero : (roundPage gpa (2 ^ 20 - gpa.toNat / 4096 + 1)).toNat = 0 := by
      rw [toNat_roundPage_succ, hwrap]
      rfl
    refine ⟨roundPage gpa (2 ^ 20 - gpa.toNat / 4096 + 1), ⟨_, Nat.zero_le _, by omega, rfl⟩, ?_⟩
    rw [overlaps_iff ha, hzero]
    omega
  · -- the first round is below 4 GiB
    refine ⟨roundPage gpa 0, ⟨0, le_rfl, by omega, rfl⟩, ?_⟩
    rw [overlaps_iff ha, toNat_roundPage_zero]
    omega

/-- Any page can be found trapped. -/
theorem exists_trapped (p : Page) : ∃ s, EptReady s ∧ (s.leaf p).Trapped := by
  obtain ⟨ptr, hptr⟩ := bootEpt_ready.map_of_spare bumpPool uncached (pageAddr p)
    (by decide +kernel)
  have hm := bootEpt_ready.map_spec bumpPool uncached (pageAddr p)
  obtain ⟨hslot, -⟩ := hm.mapped hptr
  obtain ⟨hready, -, hleaf⟩ := hm.keeps.ready.write_slot hslot EptCommonEntry.zero.trap
  refine ⟨_, hready, ?_⟩
  rw [hleaf, if_pos (pageOf_pageAddr p).symm]
  exact EptCommonEntry.trapped_trap _

/-- The page loops change no page outside their range, whatever the tables are, exactly when
the cursor fits. -/
theorem eptPages_frame_iff (ha : gpa.toNat % 4096 = 0) :
    (∀ (pool : Pool) (mtrr : Mtrr) (s : EptState), EptReady s → ∀ p, ¬Overlaps gpa size p →
      (invalidateEptPages pool mtrr gpa size s).leaf p = s.leaf p ∧
        (validateEptPages gpa size s).leaf p = s.leaf p) ↔ CursorFits gpa size := by
  constructor
  · intro hframe
    by_contra hf
    obtain ⟨p, hround, hout⟩ := exists_round_outside hf ha
    obtain ⟨s, hready, hne, hread, -, -⟩ := exists_trapped p
    obtain ⟨-, hch⟩ := validateEptPages_spec hready gpa size
    have hpass := (hch p).1 hround
    rw [PassesLeaf, if_neg hne, (hframe bumpPool uncached s hready p hout).2] at hpass
    rw [hpass] at hread
    cases hread
  · intro hf pool mtrr s hready p hout
    obtain ⟨-, m, hm, htraps, -⟩ := invalidateEptPages_spec pool mtrr hready gpa size
    obtain ⟨-, hpasses⟩ := validateEptPages_spec hready gpa size
    exact ⟨(htraps p).2 fun hp => hout (hf.overlaps ha hm hp),
      (hpasses p).2 fun hp => hout (hf.overlaps ha le_rfl hp)⟩

/-- A one-page BAR. -/
theorem eptPages_frame_iff_one_page :
    (∀ (pool : Pool) (mtrr : Mtrr) (s : EptState), EptReady s →
      ∀ p, ¬Overlaps 0xFED00000 0x1000 p →
        (invalidateEptPages pool mtrr 0xFED00000 0x1000 s).leaf p = s.leaf p ∧
          (validateEptPages 0xFED00000 0x1000 s).leaf p = s.leaf p) ↔
      CursorFits 0xFED00000 0x1000 :=
  eptPages_frame_iff (by decide)

/-- A one-page BAR at 4 GiB : page 0 is trapped instead. -/
theorem invalidateEptPages_traps_page_zero :
    ¬∀ (pool : Pool) (mtrr : Mtrr) (s : EptState) (gpa : BitVec 64) (size : BitVec 32),
      EptReady s → gpa.toNat % 4096 = 0 → gpa.toNat < 2 ^ 48 → ∀ p, ¬Overlaps gpa size p →
      (invalidateEptPages pool mtrr gpa size s).leaf p = s.leaf p ∧
        (validateEptPages gpa size s).leaf p = s.leaf p := by
  intro hall
  have hout : ¬Overlaps 0x100000000 0x1000 0 := by
    rw [overlaps_iff (by decide)]
    decide
  have hsame := hall bumpPool uncached bootEpt 0x100000000 0x1000 bootEpt_ready (by decide)
    (by decide) 0 hout
  exact absurd hsame.1 (by decide +kernel)

end Frame

end Coverage

end DeviceMon
