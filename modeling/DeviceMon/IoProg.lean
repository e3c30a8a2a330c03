import Mathlib.Logic.Basic

/-!
# Programs over a device

`IoProg A V α` is a program that reads and writes a device at places `A` with values
`V` and answers an `α` : the tree of its accesses, with a branch for each value a read
may return. A `Device` gives the accesses a meaning on a state, and `run` follows the
program through it; `trace` is what it accesses on the way.

Nothing here depends on what the device is.
-/

universe u v

/-- A program of reads and writes. -/
inductive IoProg (A V : Type) (α : Type u) where
  | done (a : α)
  | read (place : A) (next : V → IoProg A V α)
  | write (place : A) (value : V) (next : IoProg A V α)

namespace IoProg

variable {A V : Type} {α β : Type u} {B : Type v}

/-- The program that goes on with `f` after `p`. -/
def bind (p : IoProg A V α) (f : α → IoProg A V β) : IoProg A V β :=
  match p with
  | done a => f a
  | read place next => read place fun v => (next v).bind f
  | write place value next => write place value (next.bind f)

instance : Monad (IoProg A V) where
  pure := done
  bind := bind

@[simp] theorem pure_bind_eq (a : α) (f : α → IoProg A V β) : (pure a : IoProg A V α) >>= f = f a :=
  rfl

/-! ## Runs -/

/-- What reads and writes do to the state of a device. -/
structure Device (A V : Type) (B : Type v) where
  read : A → B → V × B
  write : A → V → B → B

/-- The answer of a program and the state it leaves. -/
def run (dev : Device A V B) : IoProg A V α → B → α × B
  | done a, b => (a, b)
  | read place next, b => (next (dev.read place b).1).run dev (dev.read place b).2
  | write place value next, b => next.run dev (dev.write place value b)

variable {dev : Device A V B} {b : B}

@[simp] theorem run_pure (a : α) : (pure a : IoProg A V α).run dev b = (a, b) :=
  rfl

theorem run_bind (p : IoProg A V α) (f : α → IoProg A V β) (b : B) :
    (p >>= f).run dev b = (f (p.run dev b).1).run dev (p.run dev b).2 := by
  induction p generalizing b with
  | done a => rfl
  | read place next ih => exact ih _ _
  | write place value next ih => exact ih _

/-! ## Traces -/

/-- An access with the value it moves. -/
inductive Access (A V : Type) where
  | read (place : A) (value : V)
  | write (place : A) (value : V)

/-- The accesses of a run, in order. -/
def trace (dev : Device A V B) : IoProg A V α → B → List (Access A V)
  | done _, _ => []
  | read place next, b =>
    .read place (dev.read place b).1 ::
      (next (dev.read place b).1).trace dev (dev.read place b).2
  | write place value next, b => .write place value :: next.trace dev (dev.write place value b)

@[simp] theorem trace_pure (a : α) : (pure a : IoProg A V α).trace dev b = [] :=
  rfl

theorem trace_bind (p : IoProg A V α) (f : α → IoProg A V β) (b : B) :
    (p >>= f).trace dev b = p.trace dev b ++ (f (p.run dev b).1).trace dev (p.run dev b).2 := by
  induction p generalizing b with
  | done a => rfl
  | read place next ih => exact congrArg _ (ih _ _)
  | write place value next ih => exact congrArg _ (ih _)

end IoProg
