import DeviceMon.EptStart

/-!
# Construction against the walk

`eptpConstructTables` and `eptpGetEptPtEntry` go down the same tables, for any tables that are a
tree (`EptTree`). What construction returns is what the walk finds afterwards, and the walk finds
the same leaves as before for all other pages. If an allocation fails halfway, the tables linked so
far stay, and the walk finds the same leaves for all pages (`constructTables_agrees`).
-/

namespace DeviceMon

open EptState

/-- Tables of which each is reached by one path, whatever the permissions on it. -/
abbrev EptTree (root : Frame) (s : EptState) : Prop :=
  EptTables (fun _ => True) root s

theorem EptReady.eptTree {s : EptState} (h : EptReady s) : EptTree s.data.eptPml4 s :=
  h.wf.imp fun _ _ => trivial

section Agreement

variable {root : Frame} {s : EptState}

/-- An entry that is returned is the one the walk finds, and maps the page to itself. The tables
stay a tree, and no other leaf changes. -/
theorem constructTables_agrees (pool : Pool) (mtrr : Mtrr) (hasData : Bool) (ht : EptTree root s)
    (pa : BitVec 64) (hpa : pa.toNat < 2 ^ 48) :
    let r := eptpConstructTables pool mtrr hasData 4 root pa s
    (∀ ptr, r.1 = some ptr → eptpGetEptPtEntry r.2 4 root pa = some ptr ∧ (r.2.read ptr).Open ∧
      (r.2.read ptr).physialAddress.toNat = pa.toNat / 2 ^ 12 ∧
      (r.2.read ptr).memoryType = (eptpGetMemoryType mtrr pa).setWidth 3) ∧
    EptTree root r.2 ∧
    ∀ pa', pageOf pa' ≠ pageOf pa ∨ r.1 = none →
      walkedLeaf r.2 root pa' = walkedLeaf s root pa' := by
  intro r
  obtain ⟨ht', hbuilt⟩ : EptTree root r.2 ∧ Built root mtrr hasData (pagePath (pageOf pa))
      (pageIndex (pageOf pa)) pa s r := by
    rw [← tablePath_eq, ← tableIndex_leaf]
    exact construct_spec pool mtrr (fun _ _ => trivial) hasData pa 4 (q := []) rfl (by omega) ht rfl
  refine ⟨fun ⟨f, i⟩ hptr => ?_, ht', fun pa' hother => ?_⟩
  · obtain ⟨hi, hwalk, hleaf⟩ := hbuilt.mapped hptr
    obtain rfl : i = pageIndex (pageOf pa) := hi
    have hread : r.2.read (f, pageIndex (pageOf pa)) = _ :=
      (leafEntry_of_walk hwalk _).symm.trans hleaf
    refine ⟨by rw [eptpGetEptPtEntry_eq ht', hwalk]; rfl, ?_, ?_, ?_⟩
    · rw [hread]
      exact init_open mtrr _ 1 pa
    · rw [hread, init_physialAddress, toNat_pageOf]
      omega
    · rw [hread]
      rfl
  · rw [walkedLeaf_eq ht', walkedLeaf_eq ht]
    by_cases hp : pageOf pa' = pageOf pa
    · rw [hp]
      exact hbuilt.failed (hother.resolve_left (not_not.2 hp))
    · exact hbuilt.other (length_pagePath _) _ fun h => hp (page_ext h.1 h.2)

/-- A page far from those that are mapped at start-up. -/
theorem constructTables_agrees_boot :
    let r := eptpConstructTables bumpPool uncached true 4 bootEpt.data.eptPml4 0x8000000000 bootEpt
    ∃ ptr, r.1 = some ptr ∧
      eptpGetEptPtEntry r.2 4 bootEpt.data.eptPml4 0x8000000000 = some ptr ∧
      walkedLeaf r.2 bootEpt.data.eptPml4 0 = walkedLeaf bootEpt bootEpt.data.eptPml4 0 := by
  intro r
  obtain ⟨hsome, -, hother⟩ := constructTables_agrees bumpPool uncached true
    bootEpt_ready.eptTree 0x8000000000 (by decide)
  obtain ⟨ptr, hptr⟩ := Option.isSome_iff_exists.1 (show r.1.isSome = true by decide +kernel)
  exact ⟨ptr, hptr, (hsome ptr hptr).1, hother 0 (Or.inl (by decide))⟩

end Agreement

end DeviceMon
