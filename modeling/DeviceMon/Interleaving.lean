import DeviceMon.IoProg
import Mathlib.Data.Bool.Count

/-!
# Interleavings

Two parties work on one state by turns, and an order of their turns is a list (`Interleaving.run`).
If each of them simulates a party of another kind, so do both in every order (`run_simulates`).
`orders` lists the orders with given numbers of turns, and `turnTimes` is when the turns of a party
are.

A program over a device takes one access a turn (`IoProg.step`).
-/

namespace Interleaving

variable {P Q B P' Q' B' : Type*}

/-- Runs two parties by turns; `true` is a turn of the first. -/
def run (first : P → B → P × B) (second : Q → B → Q × B) : List Bool → P → Q → B → P × Q × B
  | [], p, q, b => (p, q, b)
  | true :: turns, p, q, b => run first second turns (first p b).1 q (first p b).2
  | false :: turns, p, q, b => run first second turns p (second q b).1 (second q b).2

/-- A turn of a party is a turn of what stands for it. -/
def Simulates (rel : B' → B → Prop) (embed : P' → P) (turn' : P' → B' → P' × B')
    (turn : P → B → P × B) : Prop :=
  ∀ p b' b, rel b' b →
    (turn (embed p) b).1 = embed (turn' p b').1 ∧ rel (turn' p b').2 (turn (embed p) b).2

/-- Parties that are simulated one by one are simulated in every order. -/
theorem run_simulates {rel : B' → B → Prop} {embed : P' → P} {embed₂ : Q' → Q}
    {first : P → B → P × B} {second : Q → B → Q × B} {first' : P' → B' → P' × B'}
    {second' : Q' → B' → Q' × B'} (h : Simulates rel embed first' first)
    (h₂ : Simulates rel embed₂ second' second) (turns : List Bool) (b' : B') (b : B)
    (hb : rel b' b) (p : P') (q : Q') :
    (run first second turns (embed p) (embed₂ q) b).1 =
        embed (run first' second' turns p q b').1 ∧
      (run first second turns (embed p) (embed₂ q) b).2.1 =
        embed₂ (run first' second' turns p q b').2.1 ∧
      rel (run first' second' turns p q b').2.2
        (run first second turns (embed p) (embed₂ q) b).2.2 := by
  induction turns generalizing p q b' b with
  | nil => exact ⟨rfl, rfl, hb⟩
  | cons turn turns ih =>
    cases turn with
    | true =>
      obtain ⟨hp, hb₁⟩ := h p b' b hb
      simp only [run, hp]
      exact ih _ _ hb₁ _ _
    | false =>
      obtain ⟨hq, hb₁⟩ := h₂ q b' b hb
      simp only [run, hq]
      exact ih _ _ hb₁ _ _

/-! ## Orders -/

/-- The lists of turns of a length. -/
def turnLists : ℕ → List (List Bool)
  | 0 => [[]]
  | n + 1 => (turnLists n).map (true :: ·) ++ (turnLists n).map (false :: ·)

theorem mem_turnLists (turns : List Bool) : turns ∈ turnLists turns.length := by
  induction turns with
  | nil => simp [turnLists]
  | cons turn turns ih =>
    cases turn with
    | true => simpa [turnLists] using ih
    | false => simpa [turnLists] using ih

/-- The orders of `m` turns of the first party and `n` of the second. -/
def orders (m n : ℕ) : List (List Bool) :=
  (turnLists (m + n)).filter fun turns => turns.count true = m

theorem mem_orders {m n : ℕ} {turns : List Bool} (hm : turns.count true = m)
    (hn : turns.count false = n) : turns ∈ orders m n := by
  have hlength : turns.length = m + n := by
    rw [← hm, ← hn, List.count_true_add_count_false]
  rw [orders, List.mem_filter, ← hlength]
  exact ⟨mem_turnLists turns, by simpa using hm⟩

/-- When the turns of a party are. -/
def turnTimes (party : Bool) (turns : List Bool) : List ℕ :=
  (List.range turns.length).filter fun time => turns[time]? = some party

end Interleaving

namespace IoProg

variable {A V α B : Type}

/-- The next access of a program. -/
def step (dev : Device A V B) : IoProg A V α → B → IoProg A V α × B
  | done a, b => (done a, b)
  | read place next, b => (next (dev.read place b).1, (dev.read place b).2)
  | write place value next, b => (next, dev.write place value b)

end IoProg
