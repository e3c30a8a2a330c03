import DeviceMon.Radix
import Mathlib.Data.List.Perm.Basic
import Mathlib.Data.List.Nodup

/-!
# The frames of a tree

`frames` lists the frames reached from a root within a depth, each after those below it :
the order in which a recursive destructor gives them back. In a tree no frame is listed
twice (`nodup_frames`), so memories that reach the same frames list them up to order
(`frames_perm`), and attaching a table adds one frame (`frames_attach`).

Nothing here depends on what the entries hold.
-/

namespace Radix

variable {F I E : Type*} {link : E → Option F} {m m' : F → I → E} {f g root : F} {i : I} {d : ℕ}
  {is : List I}

/-- The frames within depth `d` of `f`, those below a frame first. `is` are the indices of a
table. -/
def frames (link : E → Option F) (m : F → I → E) (is : List I) : ℕ → F → List F
  | 0, f => [f]
  | d + 1, f => (is.flatMap fun i => (link (m f i)).elim [] (frames link m is d)) ++ [f]

theorem mem_frames (his : ∀ i, i ∈ is) :
    g ∈ frames link m is d f ↔ ∃ p : List I, p.length ≤ d ∧ follow link m f p = some g := by
  induction d generalizing f with
  | zero =>
    constructor
    · intro h
      obtain rfl := List.mem_singleton.1 h
      exact ⟨[], le_rfl, rfl⟩
    · rintro ⟨p, hp, h⟩
      obtain rfl := List.length_eq_zero_iff.1 (Nat.le_zero.1 hp)
      exact List.mem_singleton.2 (Option.some.inj h).symm
  | succ d ih =>
    rw [frames, List.mem_append, List.mem_flatMap, List.mem_singleton]
    constructor
    · rintro (⟨i, -, hi⟩ | rfl)
      · cases hl : link (m f i) with
        | none => simp [hl] at hi
        | some f' =>
          rw [hl] at hi
          obtain ⟨p, hp, h⟩ := ih.1 hi
          exact ⟨i :: p, Nat.succ_le_succ hp, by rw [follow, hl]; exact h⟩
      · exact ⟨[], Nat.zero_le _, rfl⟩
    · rintro ⟨p, hp, h⟩
      cases p with
      | nil => exact Or.inr (Option.some.inj h).symm
      | cons i p =>
        obtain ⟨f', hl, h'⟩ := Option.bind_eq_some_iff.1 h
        refine Or.inl ⟨i, his i, ?_⟩
        rw [hl]
        exact ih.2 ⟨p, Nat.le_of_succ_le_succ hp, h'⟩

/-- Below an entry of a tree is a tree. -/
theorem IsTree.child (ht : IsTree link m root (d + 1)) (hl : link (m root i) = some f) :
    IsTree link m f d := by
  intro p q g hp hq h h'
  have hcons : ∀ {r : List I}, follow link m f r = some g → follow link m root (i :: r) = some g :=
    fun hr => by rw [follow, hl]; exact hr
  have heq := ht (i :: p) (i :: q) g (Nat.succ_le_succ hp) (Nat.succ_le_succ hq) (hcons h)
    (hcons h')
  exact (List.cons.inj heq).2

/-- A tree lists no frame twice. -/
theorem nodup_frames (his : ∀ i, i ∈ is) (hnd : is.Nodup) :
    ∀ {d : ℕ} {root : F}, IsTree link m root d → (frames link m is d root).Nodup
  | 0, _, _ => List.nodup_singleton _
  | d + 1, root, ht => by
    have hmem : ∀ {i : I} {g : F}, g ∈ (link (m root i)).elim [] (frames link m is d) →
        ∃ p : List I, p.length ≤ d ∧ follow link m root (i :: p) = some g := by
      intro i g hg
      cases hl : link (m root i) with
      | none => simp [hl] at hg
      | some f =>
        rw [hl] at hg
        obtain ⟨p, hp, h⟩ := (mem_frames his).1 hg
        exact ⟨p, hp, by rw [follow, hl]; exact h⟩
    rw [frames, List.nodup_append']
    refine ⟨List.nodup_flatMap.2 ⟨fun i _ => ?_, ?_⟩, List.nodup_singleton _, ?_⟩
    · cases hl : link (m root i) with
      | none => exact List.nodup_nil
      | some f => exact nodup_frames his hnd (ht.child hl)
    · refine hnd.imp fun {i j} hij g hg hg' => hij ?_
      obtain ⟨p, hp, h⟩ := hmem hg
      obtain ⟨q, hq, h'⟩ := hmem hg'
      exact (List.cons.inj (ht _ _ g (Nat.succ_le_succ hp) (Nat.succ_le_succ hq) h h')).1
    · intro g hg hg'
      obtain rfl := List.mem_singleton.1 hg'
      obtain ⟨i, -, hi⟩ := List.mem_flatMap.1 hg
      obtain ⟨p, hp, h⟩ := hmem hi
      have heq := ht (i :: p) [] g (Nat.succ_le_succ hp) (Nat.zero_le _) h rfl
      cases heq

/-- Trees that reach the same frames list the same frames. -/
theorem frames_perm (his : ∀ i, i ∈ is) (hnd : is.Nodup) (ht : IsTree link m root d)
    (ht' : IsTree link m' root d)
    (h : ∀ p : List I, p.length ≤ d → follow link m' root p = follow link m root p) :
    (frames link m' is d root).Perm (frames link m is d root) := by
  refine (List.perm_ext_iff_of_nodup (nodup_frames his hnd ht') (nodup_frames his hnd ht)).2
    fun g => ?_
  rw [mem_frames his, mem_frames his]
  exact exists_congr fun p => and_congr_right fun hp => by rw [h p hp]

/-- Attaching a table adds its frame. -/
theorem frames_attach [DecidableEq F] [DecidableEq I] {q : List I} {e : E} (his : ∀ i, i ∈ is)
    (hnd : is.Nodup) (ht : IsTree link m root d) (ha : Attach link m root d q g i e f) :
    (frames link (set m g i e) is d root).Perm (f :: frames link m is d root) := by
  have hfresh : f ∉ frames link m is d root := by
    intro hf
    obtain ⟨p, hp, h⟩ := (mem_frames his).1 hf
    exact ha.fresh p hp h
  refine (List.perm_ext_iff_of_nodup (nodup_frames his hnd (ht.attach ha))
    (List.nodup_cons.2 ⟨hfresh, nodup_frames his hnd ht⟩)).2 fun g' => ?_
  rw [List.mem_cons, mem_frames his, mem_frames his]
  constructor
  · rintro ⟨p, hp, h⟩
    rcases reached_attach ht ha hp h with rfl | h'
    · exact Or.inl rfl
    · exact Or.inr ⟨p, hp, h'⟩
  · rintro (rfl | ⟨p, hp, h⟩)
    · refine ⟨q ++ [i], by rw [List.length_append]; exact ha.depth, ?_⟩
      rw [follow_attach ht ha _ (by rw [List.length_append]; exact ha.depth), if_pos rfl]
    · exact ⟨p, hp, follow_attach_of_some ht ha hp h⟩

end Radix
