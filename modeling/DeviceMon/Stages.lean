import Mathlib.Data.List.Basic

/-!
# Starting in stages

A program that starts in stages : each may fail, and then the ones before it are taken down
again, the last first. `Bracket err I J g` says that the stage `g` leads from `I` to `J` and back,
and stays in `I` when it fails, which it does with an error in `err`. Brackets that follow each
other (`Brackets`) make the whole start all or nothing (`Brackets.bringUp`), and taking all stages
down undoes it (`Brackets.takeDown`).

Nothing here depends on what a stage does.
-/

/-- A stage that comes up, or fails with an error, and its way down. -/
structure Stage (S E : Type*) where
  up : S → Option E × S
  down : S → S

namespace Stage

variable {S E : Type*} {err : E → Prop} {I J K : S → Prop} {g : Stage S E}
  {gs : List (Stage S E)} {s : S}

/-- Brings stages up in order. A failure takes down those before it, the last first. -/
def bringUp : List (Stage S E) → S → Option E × S
  | [], s => (none, s)
  | g :: gs, s =>
    match g.up s with
    | (some e, s) => (some e, s)
    | (none, s) =>
      match bringUp gs s with
      | (some e, s) => (some e, g.down s)
      | (none, s) => (none, s)

/-- Takes stages down, the last first. -/
def takeDown : List (Stage S E) → S → S
  | [], s => s
  | g :: gs, s => g.down (takeDown gs s)

/-- The stage leads from `I` to `J` and back. -/
structure Bracket (err : E → Prop) (I J : S → Prop) (g : Stage S E) : Prop where
  up : ∀ {s s'}, I s → g.up s = (none, s') → J s'
  fail : ∀ {s s' e}, I s → g.up s = (some e, s') → I s' ∧ err e
  down : ∀ {s}, J s → I (g.down s)

/-- Stages that lead from `I` to `K`. -/
inductive Brackets (err : E → Prop) :
    (S → Prop) → List (Stage S E) → (S → Prop) → Prop where
  | nil {I : S → Prop} : Brackets err I [] I
  | cons {I J K : S → Prop} {g : Stage S E} {gs : List (Stage S E)} (first : Bracket err I J g)
      (rest : Brackets err J gs K) : Brackets err I (g :: gs) K

/-- All stages come up, or none stays up. -/
theorem Brackets.bringUp (h : Brackets err I gs K) (hs : I s) :
    ((bringUp gs s).1 = none ∧ K (bringUp gs s).2) ∨
      ∃ e, (bringUp gs s).1 = some e ∧ I (bringUp gs s).2 ∧ err e := by
  induction h generalizing s with
  | nil => exact Or.inl ⟨rfl, hs⟩
  | @cons I J K g gs first rest ih =>
    rw [Stage.bringUp]
    cases hup : g.up s with
    | mk r s₁ =>
    cases r with
    | some e => exact Or.inr ⟨e, rfl, first.fail hs hup⟩
    | none =>
      have hrest := ih (first.up hs hup)
      simp only
      generalize Stage.bringUp gs s₁ = r at hrest ⊢
      obtain ⟨r, s₂⟩ := r
      rcases hrest with ⟨hok, hK⟩ | ⟨e, he, hJ, herr⟩
      · obtain rfl : r = none := hok
        exact Or.inl ⟨rfl, hK⟩
      · obtain rfl : r = some e := he
        exact Or.inr ⟨e, rfl, first.down hJ, herr⟩

/-- Taking the stages down leads back. -/
theorem Brackets.takeDown (h : Brackets err I gs K) (hs : K s) : I (takeDown gs s) := by
  induction h with
  | nil => exact hs
  | cons first _ ih => exact first.down (ih hs)

end Stage
