import Mathlib.Data.List.Basic
import Mathlib.Data.List.Induction
import Mathlib.Order.Basic
import Mathlib.Order.Nat
import Mathlib.Tactic.SplitIfs

/-!
# Multi-level tables

A memory of tables maps a frame and an index to an entry, and `link` reads the
next frame off an entry. `follow` walks a list of indices from a root frame.
Two paths of length at most `d` that meet in one frame are the same path when
the memory is a tree of depth `d` (`IsTree`).

Two updates keep a tree. A write below the last level changes no walk
(`follow_set_leaf`). A write that attaches an empty, unreached table under an
unused index adds exactly one path (`follow_attach`). `entry` is the entry a
full path selects; both updates change it at one place (`entry_set_leaf`,
`entry_attach`).

Nothing here depends on what the entries hold.
-/

namespace Radix

variable {F I E : Type*}

/-! ## Walks -/

/-- The frame reached from `f` along the indices `p`. -/
def follow (link : E → Option F) (m : F → I → E) : F → List I → Option F
  | f, [] => some f
  | f, i :: p => (link (m f i)).bind fun g => follow link m g p

variable {link : E → Option F} {m m' : F → I → E} {f g root : F} {i j : I} {p q : List I}

@[simp] theorem follow_nil : follow link m f [] = some f :=
  rfl

theorem follow_append : ∀ (f : F) (p q : List I),
    follow link m f (p ++ q) = (follow link m f p).bind fun g => follow link m g q
  | f, [], q => rfl
  | f, i :: p, q => by
    simp only [List.cons_append, follow, Option.bind_assoc]
    congr 1
    ext g
    rw [follow_append g p q]

theorem follow_snoc (f : F) (p : List I) (i : I) :
    follow link m f (p ++ [i]) = (follow link m f p).bind fun g => link (m g i) := by
  rw [follow_append]
  congr 1
  ext g
  simp [follow]

/-- A walk only reads the links of the slots it passes. -/
theorem follow_congr {f : F} {p : List I}
    (h : ∀ q i r g, p = q ++ i :: r → follow link m f q = some g →
      link (m' g i) = link (m g i)) :
    follow link m' f p = follow link m f p := by
  induction p using List.reverseRecOn with
  | nil => rfl
  | append_singleton p i ih =>
    have hp : follow link m' f p = follow link m f p :=
      ih fun q j r g hq hg => h q j (r ++ [i]) g (by simp [hq]) hg
    rw [follow_snoc, follow_snoc, hp]
    cases hg : follow link m f p with
    | none => rfl
    | some g => exact h p i [] g rfl hg

/-! ## Trees -/

/-- Every frame within depth `d` is reached by one path. -/
def IsTree (link : E → Option F) (m : F → I → E) (root : F) (d : ℕ) : Prop :=
  ∀ p q f, p.length ≤ d → q.length ≤ d → follow link m root p = some f →
    follow link m root q = some f → p = q

/-- No path within depth `d` reaches `f`. -/
def Unreached (link : E → Option F) (m : F → I → E) (root : F) (d : ℕ) (f : F) : Prop :=
  ∀ p, p.length ≤ d → follow link m root p ≠ some f

/-- Changing only a table that no walk reaches changes no walk. -/
theorem follow_of_unreached {d : ℕ} (hf : Unreached link m root d f)
    (hm : ∀ g, g ≠ f → m' g = m g) (hp : p.length ≤ d) :
    follow link m' root p = follow link m root p := by
  refine follow_congr fun q i r g hq hg => ?_
  have hgf : g ≠ f := by
    rintro rfl
    exact hf q (by rw [hq, List.length_append, List.length_cons] at hp; omega) hg
  rw [hm g hgf]

/-- The memory with entry `e` in slot `i` of table `g`. -/
def set [DecidableEq F] [DecidableEq I] (m : F → I → E) (g : F) (i : I) (e : E) : F → I → E :=
  fun f j => if f = g ∧ j = i then e else m f j

section Updates

variable [DecidableEq F] [DecidableEq I] {e : E} {d : ℕ}

@[simp] theorem set_self : set m g i e g i = e := by
  simp [set]

theorem set_of_ne (h : ¬(f = g ∧ j = i)) : set m g i e f j = m f j := by
  simp [set, h]

theorem set_frame_ne (h : f ≠ g) : set m g i e f = m f := by
  funext j
  simp [set, h]

/-- A write to a table of the last level leaves every walk within the depth alone. -/
theorem follow_set_leaf (ht : IsTree link m root d) (hg : follow link m root q = some g)
    (hq : q.length = d) (hp : p.length ≤ d) :
    follow link (set m g i e) root p = follow link m root p := by
  refine follow_congr fun q' j r g' hr hg' => ?_
  have hlen : q'.length < d := by
    rw [hr, List.length_append, List.length_cons] at hp
    omega
  have hne : g' ≠ g := by
    rintro rfl
    obtain rfl := ht q' q g' hlen.le hq.le hg' hg
    omega
  rw [set_frame_ne hne]

theorem IsTree.set_leaf (ht : IsTree link m root d) (hg : follow link m root q = some g)
    (hq : q.length = d) : IsTree link (set m g i e) root d := by
  intro p p' f hp hp' h h'
  rw [follow_set_leaf ht hg hq hp] at h
  rw [follow_set_leaf ht hg hq hp'] at h'
  exact ht p p' f hp hp' h h'

/-- What attaching a table needs: the parent `g` is reached above the last level,
the slot is unused, the new table `f` is unreached and empty, and the entry links it. -/
structure Attach (link : E → Option F) (m : F → I → E) (root : F) (d : ℕ) (q : List I) (g : F)
    (i : I) (e : E) (f : F) : Prop where
  parent : follow link m root q = some g
  depth : q.length < d
  unused : link (m g i) = none
  fresh : Unreached link m root d f
  empty : ∀ j, link (m f j) = none
  linked : link e = some f

/-- Attaching a table adds one path and changes no other walk. -/
theorem follow_attach [DecidableEq (List I)] (ht : IsTree link m root d)
    (ha : Attach link m root d q g i e f) :
    ∀ p : List I, p.length ≤ d → follow link (set m g i e) root p =
      if p = q ++ [i] then some f else follow link m root p := by
  have hgf : f ≠ g := by
    rintro rfl
    exact ha.fresh q ha.depth.le ha.parent
  intro p
  induction p using List.reverseRecOn with
  | nil => intro _; rw [if_neg (by simp)]; rfl
  | append_singleton p j ih =>
    intro hp
    rw [List.length_append, List.length_singleton] at hp
    have hdp : p.length ≤ d := by omega
    rw [follow_snoc, follow_snoc, ih hdp]
    by_cases hpq : p = q ++ [i]
    · -- below the new table there is nothing yet
      have hne : ¬p ++ [j] = q ++ [i] := by
        intro h
        have := congrArg List.length h
        simp [hpq] at this
      have hold : follow link m root p = none := by
        rw [hpq, follow_snoc, ha.parent, Option.bind_some, ha.unused]
      rw [if_pos hpq, if_neg hne, hold, Option.bind_some, set_frame_ne hgf, ha.empty]
      rfl
    · rw [if_neg hpq]
      cases hg : follow link m root p with
      | none =>
        have hne : ¬p ++ [j] = q ++ [i] := by
          intro h
          rw [(List.append_inj' h rfl).1, ha.parent] at hg
          cases hg
        rw [if_neg hne]
        rfl
      | some g' =>
        simp only [Option.bind_some]
        by_cases hs : g' = g ∧ j = i
        · obtain ⟨rfl, rfl⟩ := hs
          have : p = q := ht p q g' hdp ha.depth.le hg ha.parent
          rw [if_pos (by rw [this]), set_self, ha.linked]
        · have hne : ¬p ++ [j] = q ++ [i] := by
            intro h
            obtain ⟨rfl, h2⟩ := List.append_inj' h rfl
            rw [ha.parent] at hg
            exact hs ⟨(Option.some.inj hg).symm, List.singleton_inj.1 h2⟩
          rw [if_neg hne, set_of_ne hs]

theorem IsTree.attach (ht : IsTree link m root d) (ha : Attach link m root d q g i e f) :
    IsTree link (set m g i e) root d := by
  classical
  intro p p' f' hp hp' h h'
  rw [follow_attach ht ha p hp] at h
  rw [follow_attach ht ha p' hp'] at h'
  split_ifs at h h' with h1 h2 h2
  · rw [h1, h2]
  · exact (ha.fresh p' hp' (h'.trans h.symm)).elim
  · exact (ha.fresh p hp (h.trans h'.symm)).elim
  · exact ht p p' f' hp hp' h h'

/-- After attaching `f` the reached frames are `f` and those reached before. -/
theorem reached_attach (ht : IsTree link m root d) (ha : Attach link m root d q g i e f)
    (hp : p.length ≤ d) {f' : F} (h : follow link (set m g i e) root p = some f') :
    f' = f ∨ follow link m root p = some f' := by
  classical
  rw [follow_attach ht ha p hp] at h
  split_ifs at h with h1
  · exact Or.inl (Option.some.inj h).symm
  · exact Or.inr h

/-- Attaching a table keeps every walk that succeeded. -/
theorem follow_attach_of_some (ht : IsTree link m root d) (ha : Attach link m root d q g i e f)
    (hp : p.length ≤ d) {f' : F} (h : follow link m root p = some f') :
    follow link (set m g i e) root p = some f' := by
  classical
  rw [follow_attach ht ha p hp, if_neg, h]
  rintro rfl
  rw [follow_snoc, ha.parent, Option.bind_some, ha.unused] at h
  cases h

end Updates

/-! ## Entries -/

/-- The entry at index `i` of the table along `p`, if that table exists. -/
def entry (link : E → Option F) (m : F → I → E) (root : F) (p : List I) (i : I) : Option E :=
  (follow link m root p).map fun f => m f i

/-- Changing only a table that no walk reaches changes no entry. -/
theorem entry_of_unreached {d : ℕ} (hf : Unreached link m root d f)
    (hm : ∀ g, g ≠ f → m' g = m g) (hp : p.length ≤ d) (j : I) :
    entry link m' root p j = entry link m root p j := by
  unfold entry
  rw [follow_of_unreached hf hm hp]
  cases h : follow link m root p with
  | none => rfl
  | some g =>
    have hgf : g ≠ f := by
      rintro rfl
      exact hf p hp h
    rw [Option.map_some, Option.map_some, hm g hgf]

section Entries

variable [DecidableEq F] [DecidableEq I] {e : E} {d : ℕ}

/-- A write below the last level changes the entry of one path and index. -/
theorem entry_set_leaf (ht : IsTree link m root d) (hg : follow link m root q = some g)
    (hq : q.length = d) (hp : p.length ≤ d) (j : I) :
    entry link (set m g i e) root p j =
      if p = q ∧ j = i then some e else entry link m root p j := by
  unfold entry
  rw [follow_set_leaf ht hg hq hp]
  by_cases h : p = q ∧ j = i
  · rw [if_pos h, h.1, hg, h.2, Option.map_some, set_self]
  · rw [if_neg h]
    cases hf : follow link m root p with
    | none => rfl
    | some f =>
      rw [Option.map_some, Option.map_some, set_of_ne]
      rintro ⟨rfl, rfl⟩
      exact h ⟨ht p q f hp hq.le hf hg, rfl⟩

/-- Attaching a table only makes entries of that table appear on paths of full length. -/
theorem entry_attach (ht : IsTree link m root d) (ha : Attach link m root d q g i e f)
    (hp : p.length = d) (j : I) :
    entry link (set m g i e) root p j =
      if p = q ++ [i] then some (m f j) else entry link m root p j := by
  have hgf : f ≠ g := by
    rintro rfl
    exact ha.fresh q ha.depth.le ha.parent
  unfold entry
  rw [follow_attach ht ha p hp.le]
  by_cases h : p = q ++ [i]
  · rw [if_pos h, if_pos h, Option.map_some, set_frame_ne hgf]
  · rw [if_neg h, if_neg h]
    cases hf : follow link m root p with
    | none => rfl
    | some f' =>
      rw [Option.map_some, Option.map_some, set_of_ne]
      rintro ⟨rfl, -⟩
      obtain rfl := ht p q f' hp.le ha.depth.le hf ha.parent
      exact ha.depth.ne hp

end Entries

end Radix
