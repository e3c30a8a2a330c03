import Mathlib.Algebra.Order.Group.Nat
import Mathlib.Data.Finset.Card
import Mathlib.Logic.Function.Basic

/-!
# Linear probing

A table has `len` places, and a probe goes around them from a first one until it meets a place it
stops at (`Probing.probe`). It visits every place once, so it ends without one only if there is
none (`probe_none`).

`Holds` says that a table has certain keys, each at one place, and that the home of every key it
has is in use. It is kept by putting a new key in an empty place (`Holds.insert`), and there is an
empty place as long as there are fewer keys than places (`Holds.exists_empty`).

Nothing here depends on what a key is, but that one stands for an empty place.
-/

namespace Probing

/-! ## The probe -/

section Probe

variable (len : ℕ) (stop : ℕ → Bool)

/-- Goes on from `index` until `stop` holds or `len` places are passed. Returns the place and the
number of places passed. -/
def probe (index count : ℕ) : ℕ × ℕ :=
  if !stop index ∧ count < len then probe ((index + 1) % len) (count + 1) else (index, count)
termination_by len - count
decreasing_by omega

variable {len stop}

variable (stop) in
/-- A probe ends at a place it stops at, or all places were passed. It stopped at none before. -/
theorem probe_spec {index count : ℕ} (hindex : index < len) (hcount : count ≤ len) :
    ∃ passed, (probe len stop index count).1 = (index + passed) % len ∧
      (probe len stop index count).2 = count + passed ∧ count + passed ≤ len ∧
      (∀ k < passed, stop ((index + k) % len) = false) ∧
      (count + passed < len → stop ((index + passed) % len) = true) := by
  fun_induction probe len stop index count with
  | case1 index count hgo ih =>
    obtain ⟨hstop, hlt⟩ := hgo
    obtain ⟨passed, hplace, hpassed, hle, hnone, hend⟩ := ih (Nat.mod_lt _ (by omega)) hlt
    have hshift : ∀ k, ((index + 1) % len + k) % len = (index + (k + 1)) % len := fun k => by
      rw [Nat.mod_add_mod, Nat.add_assoc, Nat.add_comm 1 k]
    refine ⟨passed + 1, ?_, by omega, by omega, fun k hk => ?_, fun hlt' => ?_⟩
    · rw [hplace, hshift]
    · cases k with
      | zero => simpa [Nat.mod_eq_of_lt hindex] using hstop
      | succ k => rw [← hshift]; exact hnone k (by omega)
    · rw [← hshift]
      exact hend (by omega)
  | case2 index count hdone =>
    refine ⟨0, (Nat.mod_eq_of_lt hindex).symm, rfl, hcount, by simp, fun hlt => ?_⟩
    rw [Nat.add_zero, Nat.mod_eq_of_lt hindex]
    by_contra hstop
    exact hdone ⟨by simpa using hstop, hlt⟩

/-- A probe that ends early has found a place. -/
theorem probe_found {index : ℕ} (hindex : index < len)
    (hfound : (probe len stop index 0).2 < len) :
    (probe len stop index 0).1 < len ∧ stop (probe len stop index 0).1 = true := by
  obtain ⟨passed, hplace, hpassed, -, -, hend⟩ := probe_spec stop hindex (Nat.zero_le _)
  rw [hplace]
  exact ⟨Nat.mod_lt _ (by omega), hend (by omega)⟩

/-- A probe that does not has passed all places and is back. -/
theorem probe_none {index : ℕ} (hindex : index < len)
    (hnone : ¬(probe len stop index 0).2 < len) :
    (probe len stop index 0).1 = index ∧ ∀ i < len, stop i = false := by
  obtain ⟨passed, hplace, hpassed, hle, hfree, -⟩ :=
    probe_spec stop hindex (Nat.zero_le _)
  have hall : passed = len := by omega
  subst hall
  refine ⟨?_, fun i hi => ?_⟩
  · rw [hplace, Nat.add_mod_right, Nat.mod_eq_of_lt hindex]
  · -- the place `i` is passed after `i - index` rounds, counted around
    have hround : (index + (i + passed - index) % passed) % passed = i := by
      have hback : index + (i + passed - index) = i + passed := by omega
      rw [Nat.add_mod_mod, hback, Nat.add_mod_right, Nat.mod_eq_of_lt hi]
    rw [← hround]
    exact hfree _ (Nat.mod_lt _ (by omega))

theorem probe_le {index : ℕ} (hindex : index < len) : (probe len stop index 0).2 ≤ len := by
  obtain ⟨passed, -, hpassed, hle, -⟩ := probe_spec stop hindex (Nat.zero_le _)
  exact hpassed.trans_le hle

end Probe

/-! ## Tables of keys -/

variable {K : Type*} {empty : K} {len : ℕ} {home : K → ℕ} {keys : ℕ → K}
  {stored : List K} {key : K} {i : ℕ}

/-- The keys of a table are those in the list, each at one place, with its home in use. -/
structure Holds (empty : K) (len : ℕ) (home : K → ℕ) (keys : ℕ → K) (stored : List K) : Prop where
  nodup : stored.Nodup
  mem_iff : ∀ k, k ∈ stored ↔ k ≠ empty ∧ ∃ i < len, keys i = k
  distinct : ∀ i < len, ∀ j < len, keys i = keys j → keys i ≠ empty → i = j
  home : ∀ k ∈ stored, keys (home k) ≠ empty

/-- A table of empty places. -/
theorem Holds.nil : Holds empty len home (fun _ => empty) [] :=
  ⟨.nil, fun k => by simp +contextual [eq_comm], fun _ _ _ _ _ h => (h rfl).elim, by simp⟩

namespace Holds

variable (h : Holds empty len home keys stored)
include h

theorem mem_of_eq (hi : i < len) (hkey : keys i ≠ empty) : keys i ∈ stored :=
  (h.mem_iff _).2 ⟨hkey, i, hi, rfl⟩

theorem notMem_of_forall (hkey : ∀ i < len, keys i ≠ key) : key ∉ stored := fun hmem => by
  obtain ⟨-, i, hi, heq⟩ := (h.mem_iff _).1 hmem
  exact hkey i hi heq

/-- A key whose home is empty is not there. -/
theorem notMem_of_home (hhome : keys (home key) = empty) : key ∉ stored :=
  fun hmem => h.home key hmem hhome

/-- A new key in an empty place, that is its home or has its home in use. -/
theorem insert (hnew : key ∉ stored) (hkey : key ≠ empty) (hi : i < len) (hfree : keys i = empty)
    (hhome : i = home key ∨ keys (home key) ≠ empty) :
    Holds empty len home (Function.update keys i key) (stored ++ [key]) := by
  have hused : ∀ j, keys j ≠ empty → Function.update keys i key j = keys j := fun j hj =>
    Function.update_of_ne (fun hji => hj (by rw [hji, hfree])) _ _
  have hother : ∀ j < len, j ≠ i → Function.update keys i key j ≠ key := fun j hj hji heq => by
    rw [Function.update_of_ne hji] at heq
    exact hnew (heq ▸ h.mem_of_eq hj (heq ▸ hkey))
  refine ⟨?_, fun k => ?_, fun a ha b hb heq hne => ?_, fun k hk => ?_⟩
  · refine List.nodup_append.2 ⟨h.nodup, List.nodup_singleton _, fun a ha b hb heq => ?_⟩
    rw [heq, List.mem_singleton.1 hb] at ha
    exact hnew ha
  · rw [List.mem_append, List.mem_singleton, h.mem_iff]
    constructor
    · rintro (⟨hne, j, hj, rfl⟩ | rfl)
      · exact ⟨hne, j, hj, hused j hne⟩
      · exact ⟨hkey, i, hi, Function.update_self _ _ _⟩
    · rintro ⟨hne, j, hj, heq⟩
      by_cases hji : j = i
      · rw [hji, Function.update_self] at heq
        exact Or.inr heq.symm
      · rw [Function.update_of_ne hji] at heq
        exact Or.inl ⟨hne, j, hj, heq⟩
  · by_cases hai : a = i
    · by_contra hab
      rw [hai, Function.update_self] at heq
      exact hother b hb (fun hbi => hab (hai.trans hbi.symm)) heq.symm
    · by_cases hbi : b = i
      · rw [hbi, Function.update_self] at heq
        exact (hother a ha hai heq).elim
      · rw [Function.update_of_ne hai] at heq hne
        rw [Function.update_of_ne hbi] at heq
        exact h.distinct a ha b hb heq hne
  · rw [List.mem_append, List.mem_singleton] at hk
    rcases hk with hk | rfl
    · rw [hused _ (h.home k hk)]
      exact h.home k hk
    · rcases hhome with hhome | hhome
      · rw [← hhome, Function.update_self]
        exact hkey
      · rw [hused _ hhome]
        exact hhome

/-- With fewer keys than places there is an empty one. -/
theorem exists_empty (hroom : stored.length < len) : ∃ i < len, keys i = empty := by
  classical
  by_contra hfull
  simp only [not_exists, not_and] at hfull
  have hcard := Finset.card_le_card_of_injOn (s := Finset.range len) (t := stored.toFinset) keys
    (fun i hi => List.mem_toFinset.2
      (h.mem_of_eq (Finset.mem_range.1 hi) (hfull i (Finset.mem_range.1 hi))))
    (fun i hi j hj heq => h.distinct i (Finset.mem_range.1 hi) j (Finset.mem_range.1 hj) heq
      (hfull i (Finset.mem_range.1 hi)))
  rw [Finset.card_range, List.toFinset_card_of_nodup h.nodup] at hcard
  omega

end Holds

end Probing
