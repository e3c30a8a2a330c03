import Mathlib.Data.List.Basic
import Mathlib.Data.List.Induction

/-!
# Double buffers

Threads push items into the front of a double buffer. A flush swaps the front with the back
and moves the back to the output, one item after another. A thread may also write an item to
the output directly. `DoubleBuffer.replay` follows a trace of such actions.

No pushed item is lost, duplicated or reordered (`pushed_eq`), and what was pushed before the
last swap is in the output or in the back (`swapped_eq`). The output has the items of each
thread in their order (`issued_eq`) if a direct write finds no item of its thread in the
buffers (`Ordered`).

Nothing here depends on what items and threads are.
-/

/-- A double buffer with its output, where each item says whether it was pushed. -/
structure DoubleBuffer (α : Type*) where
  front : List α
  back : List α
  output : List (α × Bool)

namespace DoubleBuffer

variable {α T : Type*}

/-- What happens to a double buffer. -/
inductive Action (α : Type*) where
  | push (a : α)
  | swap
  | drain
  | direct (a : α)

/-- Nothing pushed, nothing written. -/
def empty : DoubleBuffer α :=
  ⟨[], [], []⟩

/-- One action. -/
def act (q : DoubleBuffer α) : Action α → DoubleBuffer α
  | .push a => { q with front := q.front ++ [a] }
  | .swap => { q with front := [], back := q.back ++ q.front }
  | .drain =>
    match q.back with
    | [] => q
    | a :: back => { q with back := back, output := q.output ++ [(a, true)] }
  | .direct a => { q with output := q.output ++ [(a, false)] }

/-- A trace of actions. -/
def replay (trace : List (Action α)) : DoubleBuffer α :=
  trace.foldl act empty

@[simp] theorem replay_nil : replay ([] : List (Action α)) = empty :=
  rfl

@[simp] theorem replay_snoc (trace : List (Action α)) (action : Action α) :
    replay (trace ++ [action]) = (replay trace).act action := by
  rw [replay, List.foldl_append]
  rfl

/-! ## What a trace says -/

/-- The item an action pushes. -/
def Action.pushed : Action α → Option α
  | .push a => some a
  | _ => none

/-- The item an action hands in. -/
def Action.issued : Action α → Option α
  | .push a => some a
  | .direct a => some a
  | _ => none

/-- The items pushed before the last swap, and those pushed since. -/
def pushedBySwap (trace : List (Action α)) : List α × List α :=
  trace.foldl (fun r action =>
    match action with
    | .push a => (r.1, r.2 ++ [a])
    | .swap => (r.1 ++ r.2, [])
    | _ => r) ([], [])

/-- The pushed items in the output. -/
def flushed (q : DoubleBuffer α) : List α :=
  (q.output.filter Prod.snd).map Prod.fst

/-- All items, those written first. -/
def items (q : DoubleBuffer α) : List α :=
  q.output.map Prod.fst ++ (q.back ++ q.front)

/-- Every direct write of the trace finds no item of its author in the buffers. -/
inductive Ordered (author : α → T) : List (Action α) → Prop where
  | nil : Ordered author []
  | snoc {trace : List (Action α)} {action : Action α} (before : Ordered author trace)
      (clear : ∀ a, action = .direct a →
        ∀ b ∈ (replay trace).back ++ (replay trace).front, author b ≠ author a) :
      Ordered author (trace ++ [action])

/-! ## Nothing is lost -/

/-- What was pushed before the last swap was written or is in the back, and what was pushed
since is in the front. -/
theorem swapped_eq (trace : List (Action α)) : pushedBySwap trace =
    ((replay trace).flushed ++ (replay trace).back, (replay trace).front) := by
  induction trace using List.reverseRecOn with
  | nil => rfl
  | append_singleton trace action ih =>
    rw [pushedBySwap, List.foldl_append]
    rw [show List.foldl _ _ trace = _ from ih, replay_snoc]
    generalize replay trace = q
    cases action with
    | push a => rfl
    | swap => simp [act, flushed]
    | drain =>
      obtain ⟨front, back, output⟩ := q
      cases back with
      | nil => rfl
      | cons a back => simp [act, flushed]
    | direct a => simp [act, flushed]

/-- What was pushed was written, is in the back or is in the front, in order. -/
theorem pushed_eq (trace : List (Action α)) : trace.filterMap Action.pushed =
    (replay trace).flushed ++ ((replay trace).back ++ (replay trace).front) := by
  induction trace using List.reverseRecOn with
  | nil => rfl
  | append_singleton trace action ih =>
    rw [List.filterMap_append, ih, replay_snoc]
    generalize replay trace = q
    cases action with
    | push a => simp [act, flushed, Action.pushed]
    | swap => simp [act, flushed, Action.pushed]
    | drain =>
      obtain ⟨front, back, output⟩ := q
      cases back with
      | nil => simp [act, Action.pushed]
      | cons a back => simp [act, flushed, Action.pushed]
    | direct a => simp [act, flushed, Action.pushed]

variable [DecidableEq T] {author : α → T}

/-- The items of a thread are written in the order they were handed in, and those still in the
buffers come after. -/
theorem issued_eq {trace : List (Action α)} (h : Ordered author trace) (t : T) :
    (trace.filterMap Action.issued).filter (author · = t) =
      (replay trace).items.filter (author · = t) := by
  induction h with
  | nil => rfl
  | @snoc trace action _ hclear ih =>
    rw [List.filterMap_append, List.filter_append, ih, replay_snoc]
    generalize replay trace = q at hclear
    cases action with
    | push a => simp [act, items, Action.issued]
    | swap => simp [act, items, Action.issued]
    | drain =>
      obtain ⟨front, back, output⟩ := q
      cases back with
      | nil => simp [act, Action.issued]
      | cons a back => simp [act, items, Action.issued]
    | direct a =>
      by_cases ha : author a = t
      · -- no item of this author is left in the buffers
        have hnone : (q.back ++ q.front).filter (author · = t) = [] := by
          rw [List.filter_eq_nil_iff]
          intro b hb
          simpa [← ha] using hclear a rfl b hb
        simp only [act, items, Action.issued, List.filter_append, List.map_append] at hnone ⊢
        simp [hnone, ha, Action.issued]
      · simp [act, items, Action.issued, ha]

end DoubleBuffer
