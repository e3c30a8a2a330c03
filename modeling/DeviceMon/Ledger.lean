import Mathlib.Data.List.Perm.Basic
import Mathlib.Data.List.Basic

/-!
# Accounts of blocks

A `Ledger` lists the blocks an allocator has in use, those it got back and those it handed
out, one entry for each time. `Holds start now held` says what happened between two
ledgers : of the blocks handed out since `start`, those in `held` are out and each other
one was given back, once. A program that holds nothing at its end has given back exactly
what it was handed (`Holds.settled`).

Nothing here depends on what a block is.
-/

/-- Blocks in use, given back and handed out. -/
structure Ledger (B : Type*) where
  live : List B
  freed : List B
  allocated : List B

namespace Ledger

variable {B : Type*}

/-- A block is handed out. -/
def take (b : B) (l : Ledger B) : Ledger B :=
  ⟨b :: l.live, l.freed, b :: l.allocated⟩

/-- A block is given back. -/
def give [DecidableEq B] (b : B) (l : Ledger B) : Ledger B :=
  ⟨l.live.erase b, b :: l.freed, l.allocated⟩

/-- Several blocks are given back, in order. -/
def giveAll [DecidableEq B] (bs : List B) (l : Ledger B) : Ledger B :=
  bs.foldl (fun l b => l.give b) l

/-- `held` are the blocks handed out since `start` and not given back. -/
structure Holds (start now : Ledger B) (held : List B) : Prop where
  live : now.live.Perm (held ++ start.live)
  books : ∃ new gone, now.allocated = new ++ start.allocated ∧ now.freed = gone ++ start.freed ∧
    new.Perm (gone ++ held)

section Holds

variable {start now : Ledger B} {held held' : List B} {b : B}

theorem Holds.refl (l : Ledger B) : Holds l l [] :=
  ⟨List.Perm.refl _, [], [], rfl, rfl, List.Perm.refl _⟩

theorem Holds.perm (h : Holds start now held) (hp : held.Perm held') : Holds start now held' := by
  obtain ⟨hl, new, gone, ha, hf, hb⟩ := h
  exact ⟨hl.trans (hp.append_right _), new, gone, ha, hf, hb.trans (hp.append_left _)⟩

theorem Holds.take (h : Holds start now held) (b : B) : Holds start (now.take b) (b :: held) := by
  obtain ⟨hl, new, gone, ha, hf, hb⟩ := h
  refine ⟨hl.cons b, b :: new, gone, congrArg (b :: ·) ha, hf, ?_⟩
  exact (hb.cons b).trans List.perm_middle.symm

/-- Accounts of two periods in a row. -/
theorem Holds.trans {next : Ledger B} (h : Holds start now held) (h' : Holds now next held') :
    Holds start next (held' ++ held) := by
  obtain ⟨hl, new, gone, ha, hf, hb⟩ := h
  obtain ⟨hl', new', gone', ha', hf', hb'⟩ := h'
  refine ⟨?_, new' ++ new, gone' ++ gone, ?_, ?_, ?_⟩
  · rw [List.append_assoc]
    exact hl'.trans (hl.append_left _)
  · rw [ha', ha, List.append_assoc]
  · rw [hf', hf, List.append_assoc]
  · refine (hb'.append hb).trans ?_
    rw [List.append_assoc, List.append_assoc]
    exact (List.perm_append_comm_assoc held' gone held).append_left _

/-- Whoever holds nothing has given back what was handed out, each block as often. -/
theorem Holds.settled (h : Holds start now []) :
    now.live.Perm start.live ∧ ∃ new gone, now.allocated = new ++ start.allocated ∧
      now.freed = gone ++ start.freed ∧ gone.Perm new := by
  obtain ⟨hl, new, gone, ha, hf, hb⟩ := h
  rw [List.append_nil] at hb
  exact ⟨hl, new, gone, ha, hf, hb.symm⟩

/-- Nothing was given back until `mid` and nothing handed out after it : what was handed out is
`held`, and each block of it was given back once. -/
theorem Holds.settled_once {mid : Ledger B} (hmid : Holds start mid held)
    (hfreed : mid.freed = start.freed) (hheld : held.Nodup) (hnow : Holds start now [])
    (halloc : now.allocated = mid.allocated) :
    now.live.Perm start.live ∧ ∃ new gone, now.allocated = new ++ start.allocated ∧
      now.freed = gone ++ start.freed ∧ new.Nodup ∧ gone.Perm new := by
  obtain ⟨hl, new, gone, ha, hf, hperm⟩ := hnow.settled
  obtain ⟨-, new', gone', ha', hf', hperm'⟩ := hmid
  have hgone' : gone' = [] := List.append_left_eq_self.1 (hf'.symm.trans hfreed)
  have hnew : new = new' := List.append_cancel_right (ha.symm.trans (halloc.trans ha'))
  refine ⟨hl, new, gone, ha, hf, ?_, hperm⟩
  rw [hnew, hperm'.nodup_iff, hgone', List.nil_append]
  exact hheld

/-- A block that is held somewhere in the middle. -/
theorem Holds.take_middle {front : List B} (h : Holds start now (front ++ held)) (b : B) :
    Holds start (now.take b) (front ++ b :: held) :=
  (h.take b).perm List.perm_middle.symm

variable [DecidableEq B]

theorem Holds.give (h : Holds start now (b :: held)) : Holds start (now.give b) held := by
  obtain ⟨hl, new, gone, ha, hf, hb⟩ := h
  refine ⟨?_, new, b :: gone, ha, congrArg (b :: ·) hf, hb.trans List.perm_middle⟩
  have herase := hl.erase b
  rwa [List.cons_append, List.erase_cons_head] at herase

theorem Holds.give_middle {front : List B} (h : Holds start now (front ++ b :: held)) :
    Holds start (now.give b) (front ++ held) :=
  (h.perm List.perm_middle).give

theorem giveAll_freed (bs : List B) (l : Ledger B) :
    (l.giveAll bs).freed = bs.reverse ++ l.freed := by
  induction bs generalizing l with
  | nil => rfl
  | cons b bs ih =>
    rw [List.reverse_cons, List.append_assoc]
    exact ih (l.give b)

theorem Holds.giveAll {bs : List B} (h : Holds start now (bs ++ held)) :
    Holds start (now.giveAll bs) held := by
  induction bs generalizing now with
  | nil => exact h
  | cons b bs ih => exact ih h.give

end Holds

end Ledger
