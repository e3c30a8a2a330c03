import Mathlib.Logic.Function.Basic

/-!
# Caches of translations

A processor may use a translation it found before in place of a walk of its tables. `Cached` is a
state with such a cache. The processor fills it from the tables and forgets what it likes (`Fills`).
The software changes the tables and flushes the cache : an operation `Follows` one on the states
alone if it does the same to the state, and leaves an empty cache unless it touched neither the
tables nor the cache.

If every operation follows one, what the cache has is what the tables say throughout a run
(`Coherent.step`).

Nothing here depends on what keys, translations and states are.
-/

/-- A state with what the processor cached of its tables. -/
structure Cached (S K V : Type*) where
  state : S
  cache : K → Option V

namespace Cached

variable {S K V : Type*} {table : S → K → Option V} {x x₀ x' x'' : Cached S K V} {s' s'' : S}

/-- Empties the cache. -/
def flush (x : Cached S K V) : Cached S K V :=
  { x with cache := fun _ => none }

/-- The cache has what the tables say. -/
def Coherent (table : S → K → Option V) (x : Cached S K V) : Prop :=
  ∀ k v, x.cache k = some v → table x.state k = some v

/-- What the processor may do to its cache while the tables are those of `x₀` : each entry is an old
one or a translation of these tables. -/
def Fills (table : S → K → Option V) (x x₀ : Cached S K V) : Prop :=
  ∀ k v, x₀.cache k = some v → x.cache k = some v ∨ table x₀.state k = some v

/-- `x'` has the state `s'`, and an empty cache unless tables and cache are those of `x`. -/
structure Follows (table : S → K → Option V) (s' : S) (x x' : Cached S K V) : Prop where
  state : x'.state = s'
  cache : table x'.state = table x.state ∧ x'.cache = x.cache ∨ x'.cache = fun _ => none

/-! ## Coherence -/

theorem Coherent.of_empty (h : x.cache = fun _ => none) : Coherent table x := by
  intro k v hk
  rw [h] at hk
  cases hk

theorem Coherent.fills (h : Coherent table x) (hs : table x₀.state = table x.state)
    (hfill : Fills table x x₀) : Coherent table x₀ := by
  intro k v hk
  rcases hfill k v hk with hold | hnew
  · rw [hs]
    exact h k v hold
  · exact hnew

theorem Coherent.follows (h : Coherent table x) (hop : Follows table s' x x') :
    Coherent table x' := by
  rcases hop.cache with ⟨htable, hcache⟩ | hempty
  · intro k v hk
    rw [htable]
    rw [hcache] at hk
    exact h k v hk
  · exact .of_empty hempty

/-- The step of a run : the processor fills its cache, then an operation follows one on the
states. -/
theorem Coherent.step (h : Coherent table x) (hs : table x₀.state = table x.state)
    (hfill : Fills table x x₀) (hop : Follows table s' x₀ x') : Coherent table x' :=
  (h.fills hs hfill).follows hop

/-! ## Operations -/

theorem Follows.refl (table : S → K → Option V) (x : Cached S K V) : Follows table x.state x x :=
  ⟨rfl, Or.inl ⟨rfl, rfl⟩⟩

/-- A change that leaves the tables alone needs no flush. -/
theorem Follows.keep (x : Cached S K V) (hs : table s' = table x.state) :
    Follows table s' x { x with state := s' } :=
  ⟨rfl, Or.inl ⟨hs, rfl⟩⟩

theorem Follows.flush (table : S → K → Option V) (x x' : Cached S K V) :
    Follows table x'.state x x'.flush :=
  ⟨rfl, Or.inr rfl⟩

theorem Follows.trans (h : Follows table s' x x') (h' : Follows table s'' x' x'') :
    Follows table s'' x x'' := by
  refine ⟨h'.state, ?_⟩
  rcases h'.cache with ⟨htable, hcache⟩ | hempty
  · rcases h.cache with ⟨htable', hcache'⟩ | hempty
    · exact Or.inl ⟨htable.trans htable', hcache.trans hcache'⟩
    · exact Or.inr (hcache.trans hempty)
  · exact Or.inr hempty

/-- A fold of operations follows the fold of those they follow. -/
theorem Follows.foldl {A : Type*} {op : S → A → S} {op' : Cached S K V → A → Cached S K V}
    (hop : ∀ x a, Follows table (op x.state a) x (op' x a)) (as : List A) (x : Cached S K V) :
    Follows table (as.foldl op x.state) x (as.foldl op' x) := by
  induction as generalizing x with
  | nil => exact .refl table x
  | cons a as ih =>
    have hrest := ih (op' x a)
    rw [(hop x a).state] at hrest
    exact (hop x a).trans hrest

end Cached
