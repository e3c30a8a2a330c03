import Mathlib.Data.List.Induction
import Mathlib.Data.List.Nodup

/-!
# Tallies in order of first use

A tally has one entry for each key that is in use, in the order of the first uses, and an entry
is made of the requests with its key (`tally`). A further request either changes the entry of its
key (`tally_concat_of_mem`) or adds one at the end (`tally_concat_of_notMem`). With a limit on the
number of keys, those that are kept are the first (`firstUses_concat`).

Nothing here depends on what keys, entries and requests are.
-/

namespace Tally

/-! ## First uses -/

section FirstUses

variable {K : Type*} [DecidableEq K] {ks : List K} {k : K} {cap : ℕ}

theorem eraseDups_concat_of_mem (h : k ∈ ks) : (ks ++ [k]).eraseDups = ks.eraseDups := by
  rw [List.eraseDups_append, List.cons_removeAll]
  simp [h]

theorem eraseDups_concat_of_notMem (h : k ∉ ks) :
    (ks ++ [k]).eraseDups = ks.eraseDups ++ [k] := by
  rw [List.eraseDups_append, List.cons_removeAll]
  simp [h, List.eraseDups_cons]

theorem nodup_eraseDups (ks : List K) : ks.eraseDups.Nodup := by
  induction ks using List.reverseRecOn with
  | nil => exact List.nodup_nil
  | append_singleton ks k ih =>
    by_cases h : k ∈ ks
    · rw [eraseDups_concat_of_mem h]
      exact ih
    · rw [eraseDups_concat_of_notMem h]
      rw [← List.concat_eq_append]
      exact ih.concat (mt List.mem_eraseDups.1 h)

theorem eraseDups_replicate {n : ℕ} (hn : n ≠ 0) (k : K) :
    (List.replicate n k).eraseDups = [k] := by
  obtain ⟨n, rfl⟩ := Nat.exists_eq_succ_of_ne_zero hn
  induction n with
  | zero => exact eraseDups_concat_of_notMem List.not_mem_nil
  | succ n ih =>
    rw [List.replicate_succ', eraseDups_concat_of_mem (by simp), ih n.succ_ne_zero]

/-- The first `cap` keys in use. -/
def firstUses (cap : ℕ) (ks : List K) : List K :=
  ks.eraseDups.take cap

theorem nodup_firstUses : (firstUses cap ks).Nodup :=
  (nodup_eraseDups ks).sublist (List.take_sublist _ _)

theorem mem_of_mem_firstUses (h : k ∈ firstUses cap ks) : k ∈ ks :=
  List.mem_eraseDups.1 (List.mem_of_mem_take h)

theorem length_firstUses_le : (firstUses cap ks).length ≤ cap :=
  List.length_take_le _ _

/-- A key that is not among the first, while there is room, is new. -/
theorem notMem_of_notMem_firstUses (h : k ∉ firstUses cap ks)
    (hroom : (firstUses cap ks).length < cap) : k ∉ ks := by
  have hlen : ks.eraseDups.length ≤ cap := by
    rw [firstUses, List.length_take] at hroom
    omega
  rwa [firstUses, List.take_of_length_le hlen, List.mem_eraseDups] at h

/-- A further key is kept if it is new and there is room. -/
theorem firstUses_concat : firstUses cap (ks ++ [k]) =
    if k ∈ firstUses cap ks ∨ (firstUses cap ks).length = cap then firstUses cap ks
    else firstUses cap ks ++ [k] := by
  split_ifs with h
  · rw [firstUses, firstUses]
    by_cases hmem : k ∈ ks
    · rw [eraseDups_concat_of_mem hmem]
    · have hfull := h.resolve_left (mt mem_of_mem_firstUses hmem)
      rw [firstUses, List.length_take] at hfull
      rw [eraseDups_concat_of_notMem hmem, List.take_append_of_le_length (by omega)]
  · push Not at h
    have hroom := Nat.lt_of_le_of_ne length_firstUses_le h.2
    have hnew := notMem_of_notMem_firstUses h.1 hroom
    rw [firstUses, List.length_take] at hroom
    have hlen : (ks.eraseDups ++ [k]).length ≤ cap := by
      rw [List.length_append, List.length_singleton]
      omega
    rw [firstUses, firstUses, eraseDups_concat_of_notMem hnew, List.take_of_length_le hlen,
      List.take_of_length_le (by omega)]

end FirstUses

/-! ## The entries -/

section Entries

variable {K E R : Type*} [DecidableEq K] (key : R → K) (start : K → E) (step : E → R → E)

/-- The entry of a key after some requests. -/
def entry (rs : List R) (k : K) : E :=
  (rs.filter fun r => key r = k).foldl step (start k)

/-- The entries after some requests. -/
def tally (rs : List R) : List E :=
  (rs.map key).eraseDups.map (entry key start step rs)

variable {key start step} {rs : List R} {r : R} {k : K}

@[simp] theorem tally_nil : tally key start step [] = [] :=
  rfl

theorem length_tally : (tally key start step rs).length = (rs.map key).eraseDups.length :=
  List.length_map _

theorem getElem?_tally (i : ℕ) : (tally key start step rs)[i]? =
    (rs.map key).eraseDups[i]?.map (entry key start step rs) :=
  List.getElem?_map

theorem entry_concat_self :
    entry key start step (rs ++ [r]) (key r) = step (entry key start step rs (key r)) r := by
  simp [entry]

theorem entry_concat_of_ne (h : key r ≠ k) :
    entry key start step (rs ++ [r]) k = entry key start step rs k := by
  simp [entry, h]

theorem entry_of_notMem (h : k ∉ rs.map key) : entry key start step rs k = start k := by
  have hnil : (rs.filter fun r => key r = k) = [] :=
    List.filter_eq_nil_iff.2 fun r hr hk => h (List.mem_map.2 ⟨r, hr, of_decide_eq_true hk⟩)
  rw [entry, hnil, List.foldl_nil]

/-- A request with a key in use changes the entry of that key. -/
theorem tally_concat_of_mem {i : ℕ} (h : (rs.map key).eraseDups[i]? = some (key r)) :
    tally key start step (rs ++ [r]) = (tally key start step rs).modify i (step · r) := by
  have hmem : key r ∈ rs.map key := List.mem_eraseDups.1 (List.mem_of_getElem? h)
  refine List.ext_getElem? fun j => ?_
  rw [List.getElem?_modify, getElem?_tally, getElem?_tally, List.map_append, List.map_singleton,
    eraseDups_concat_of_mem hmem]
  by_cases hij : i = j
  · simp [← hij, h, entry_concat_self]
  · cases hk : (rs.map key).eraseDups[j]? with
    | none => rfl
    | some k =>
      -- a key has one place only
      have hne : key r ≠ k := fun heq => hij ((List.getElem?_inj
        (List.getElem?_eq_some_iff.1 h).1 (nodup_eraseDups _)).1 (by rw [h, hk, heq]))
      simp [hij, entry_concat_of_ne hne]

/-- A request with a new key adds an entry. -/
theorem tally_concat_of_notMem (h : key r ∉ rs.map key) :
    tally key start step (rs ++ [r]) = tally key start step rs ++ [step (start (key r)) r] := by
  rw [tally, List.map_append, List.map_singleton, eraseDups_concat_of_notMem h, List.map_append,
    List.map_singleton, entry_concat_self, entry_of_notMem h]
  congr 1
  refine List.map_congr_left fun k hk => entry_concat_of_ne ?_
  rintro rfl
  exact h (List.mem_eraseDups.1 hk)

end Entries

end Tally
