import DeviceMon.MonitorCalls

/-!
# The leaf invariant

A leaf the driver installs for page `p` maps frame `p`, is executable, and grants reads
and writes together (`IsIdentity`). `EptStep` says that a step keeps this and removes no
leaf, and every operation on the tables is an `EptStep` : mapping, trapping, opening, the
two hypercalls and the handling of a violation.
-/

namespace DeviceMon

/-- If present, the entry of page `p` maps frame `p`, is executable, and allows reads exactly
when it allows writes. -/
def EptCommonEntry.IsIdentity (p : Page) (e : EptCommonEntry) : Prop :=
  e.all ≠ 0 → e.physialAddress = p ∧ e.executeAccess = true ∧ e.readAccess = e.writeAccess

/-- A step that keeps leaves identity mapped and present. -/
structure EptStep (s s' : EptState) : Prop extends Keeps s s' where
  identity : ∀ p, (s.leaf p).IsIdentity p → (s'.leaf p).IsIdentity p
  present : ∀ p, (s.leaf p).all ≠ 0 → (s'.leaf p).all ≠ 0

section Steps

variable {s s' s'' : EptState} {p : Page} {ptr : EntryPtr} {pa : BitVec 64}
  (pool : Pool) (mtrr : Mtrr)

theorem EptStep.refl (h : EptReady s) : EptStep s s :=
  ⟨.refl h, fun _ => id, fun _ => id⟩

/-! ## Leaves -/

theorem isIdentity_zero : EptCommonEntry.zero.IsIdentity p :=
  fun h => (h EptCommonEntry.all_zero).elim

/-- Mapping a page at an address in it installs an identity leaf. -/
theorem isIdentity_mappedLeaf {e : EptCommonEntry} (he : e.IsIdentity (pageOf pa)) :
    (mappedLeaf mtrr pa e).IsIdentity (pageOf pa) := by
  unfold mappedLeaf
  split_ifs
  · exact fun _ => ⟨init_physialAddress mtrr e 1 pa, rfl, rfl⟩
  · exact he

theorem TrapsLeaf.isIdentity {e e' : EptCommonEntry} (h : TrapsLeaf mtrr p e e')
    (he : e.IsIdentity p) : e'.IsIdentity p := by
  obtain ⟨pa, rfl, rfl⟩ := h
  obtain ⟨hframe, -, -⟩ := isIdentity_mappedLeaf mtrr he (mappedLeaf_ne_zero mtrr pa e)
  exact fun _ => ⟨hframe, rfl, rfl⟩

theorem PassesLeaf.isIdentity {e e' : EptCommonEntry} (h : PassesLeaf p e e')
    (he : e.IsIdentity p) : e'.IsIdentity p := by
  unfold PassesLeaf at h
  split_ifs at h with hz
  · rw [h]
    exact he
  · rw [h]
    exact fun _ => ⟨(he hz).1, rfl, rfl⟩

/-! ## Operations -/

/-- Changes of single leaves make a step. -/
theorem EptStep.of_changes {R : Page → EptCommonEntry → EptCommonEntry → Prop} {V : Page → Prop}
    (hk : Keeps s s') (hch : Changes R V s s')
    (hid : ∀ {p e e'}, R p e e' → e.IsIdentity p → e'.IsIdentity p)
    (hne : ∀ {p e e'}, R p e e' → e.all ≠ 0 → e'.all ≠ 0) : EptStep s s' := by
  refine ⟨hk, fun p hp => ?_, fun p hp => ?_⟩
  · by_cases hv : V p
    · exact hid ((hch p).1 hv) hp
    · rw [(hch p).2 hv]
      exact hp
  · by_cases hv : V p
    · exact hne ((hch p).1 hv) hp
    · rw [(hch p).2 hv]
      exact hp

theorem enable_step (h : EptReady s) (ranges : List BarRange) :
    EptStep s (onRanges (invalidateEptPages pool mtrr) ranges s) := by
  obtain ⟨hk, V, -, hch, -⟩ := enable_spec pool mtrr ranges h
  refine .of_changes hk hch (TrapsLeaf.isIdentity mtrr) ?_
  rintro p e _ ⟨pa, -, rfl⟩ -
  exact EptCommonEntry.trap_all_ne_zero _

theorem disable_step (h : EptReady s) (ranges : List BarRange) :
    EptStep s (onRanges validateEptPages ranges s) := by
  obtain ⟨hk, hch⟩ := disable_spec ranges h
  refine .of_changes hk hch PassesLeaf.isIdentity ?_
  intro p e e' hp he
  rw [PassesLeaf, if_neg he] at hp
  rw [hp]
  exact EptCommonEntry.pass_all_ne_zero _

/-- Rewriting the access bits of a present entry through its slot. -/
theorem modify_step (h : EptReady s) (hptr : eptGetEptPtEntry s pa = some ptr)
    (hne : (s.read ptr).all ≠ 0) {f : EptCommonEntry → EptCommonEntry}
    (hf : ∀ e, (f e).physialAddress = e.physialAddress ∧ (f e).executeAccess = true ∧
      (f e).readAccess = (f e).writeAccess) :
    EptStep s (s.modify ptr f) ∧
      ∀ p, (s.modify ptr f).leaf p = if p = pageOf pa then f (s.leaf p) else s.leaf p := by
  obtain ⟨hready, -, hwrite⟩ := h.write_slot hptr (f (s.read ptr))
  have hread := h.read_slot hptr
  have hleaf : ∀ p, (s.modify ptr f).leaf p = if p = pageOf pa then f (s.leaf p) else s.leaf p := by
    intro p
    rw [EptState.modify, hwrite]
    by_cases hp : p = pageOf pa
    · rw [if_pos hp, if_pos hp, hread, hp]
    · rw [if_neg hp, if_neg hp]
  refine ⟨⟨h.keeps_write hptr _, fun p hp => ?_, fun p hp => ?_⟩, hleaf⟩
  · rw [hleaf]
    split_ifs with hpa
    · obtain ⟨h1, h2, h3⟩ := hf (s.leaf p)
      rw [hread, ← hpa] at hne
      exact fun _ => ⟨h1.trans (hp hne).1, h2, h3⟩
    · exact hp
  · rw [hleaf]
    split_ifs
    · exact EptCommonEntry.all_ne_zero_of_execute (hf (s.leaf p)).2.1
    · exact hp

/-- A violation nobody monitors maps a page without a leaf, or changes nothing. -/
theorem eptHandleEptViolation_spec (q : EptViolationQualification) (h : EptReady s)
    (pa : BitVec 64) :
    eptHandleEptViolation pool mtrr q pa s = s ∨
      ((s.leaf (pageOf pa)).all = 0 ∧
        eptHandleEptViolation pool mtrr q pa s = (eptpMapGpaToHpa pool mtrr pa s).2) := by
  unfold eptHandleEptViolation
  split_ifs
  · exact Or.inl rfl
  · cases hget : eptGetEptPtEntry s pa with
    | none =>
      refine Or.inr ⟨?_, rfl⟩
      rw [h.leaf_of_none hget, EptCommonEntry.all_zero]
    | some ptr =>
      by_cases hz : (s.read ptr).all = 0
      · refine Or.inr ⟨by rw [← h.read_slot hget, hz], ?_⟩
        simp only [hz, ne_eq, not_true_eq_false, if_false]
        rfl
      · refine Or.inl ?_
        simp only [ne_eq, hz, not_false_eq_true, if_true]

/-- On an absent leaf of which the processor saw no permission, the page is mapped. -/
theorem EptReady.eptHandleEptViolation_absent {q : EptViolationQualification} (h : EptReady s)
    (hr : q.eptReadable = false) (hw : q.eptWriteable = false) (hx : q.eptExecutable = false)
    (hz : (s.leaf (pageOf pa)).all = 0) :
    eptHandleEptViolation pool mtrr q pa s = (eptpMapGpaToHpa pool mtrr pa s).2 := by
  unfold eptHandleEptViolation
  rw [hr, hw, hx]
  cases hget : eptGetEptPtEntry s pa with
  | none => rfl
  | some ptr =>
    rw [← h.read_slot hget] at hz
    simp only [hz, ne_eq, not_true_eq_false, if_false]
    rfl

/-- Mapping initializes the leaf of its page, if any. -/
theorem map_leaf (h : EptReady s) (pa : BitVec 64) (p : Page) :
    (eptpMapGpaToHpa pool mtrr pa s).2.leaf p = s.leaf p ∨
      (p = pageOf pa ∧ (eptpMapGpaToHpa pool mtrr pa s).2.leaf p =
        eptpInitTableEntry mtrr (s.leaf p) 1 pa) := by
  have hm := h.map_spec pool mtrr pa
  cases hr : (eptpMapGpaToHpa pool mtrr pa s).1 with
  | none => exact Or.inl ((hm.failed hr).1 p)
  | some ptr =>
    rw [(hm.mapped hr).2 p]
    split_ifs with hp
    · exact Or.inr ⟨hp, rfl⟩
    · exact Or.inl rfl

/-- Mapping a page without a leaf is a step that changes no present leaf. -/
theorem map_step (h : EptReady s) (hz : (s.leaf (pageOf pa)).all = 0) :
    EptStep s (eptpMapGpaToHpa pool mtrr pa s).2 ∧
      ∀ p, (s.leaf p).all ≠ 0 → (eptpMapGpaToHpa pool mtrr pa s).2.leaf p = s.leaf p := by
  have hm := h.map_spec pool mtrr pa
  have hleaf := map_leaf pool mtrr h pa
  have hsame : ∀ p, (s.leaf p).all ≠ 0 →
      (eptpMapGpaToHpa pool mtrr pa s).2.leaf p = s.leaf p := by
    intro p hp
    rcases hleaf p with heq | ⟨rfl, -⟩
    · exact heq
    · exact (hp hz).elim
  refine ⟨⟨hm.keeps, fun p hp => ?_, fun p hp => by rw [hsame p hp]; exact hp⟩, hsame⟩
  rcases hleaf p with heq | ⟨rfl, heq⟩
  · rw [heq]
    exact hp
  · rw [heq]
    exact fun _ => ⟨init_physialAddress mtrr _ 1 pa, rfl, rfl⟩

theorem violation_step (q : EptViolationQualification) (h : EptReady s) (pa : BitVec 64) :
    EptStep s (eptHandleEptViolation pool mtrr q pa s) ∧
      ∀ p, (s.leaf p).all ≠ 0 →
        (eptHandleEptViolation pool mtrr q pa s).leaf p = s.leaf p := by
  rcases eptHandleEptViolation_spec pool mtrr q h pa with heq | ⟨hz, heq⟩
  · rw [heq]
    exact ⟨.refl h, fun _ _ => rfl⟩
  · rw [heq]
    exact map_step pool mtrr h hz

/-- A violation nobody monitors initializes the leaf of its page, if any. -/
theorem violation_leaf (q : EptViolationQualification) (h : EptReady s) (pa : BitVec 64)
    (p : Page) :
    (eptHandleEptViolation pool mtrr q pa s).leaf p = s.leaf p ∨
      (eptHandleEptViolation pool mtrr q pa s).leaf p =
        eptpInitTableEntry mtrr (s.leaf p) 1 pa := by
  rcases eptHandleEptViolation_spec pool mtrr q h pa with heq | ⟨-, heq⟩
  · rw [heq]
    exact Or.inl rfl
  · rw [heq]
    exact (map_leaf pool mtrr h pa p).imp_right And.right

end Steps

end DeviceMon
