import Mathlib.Data.List.Basic

/-!
# Strings in memory

An array of characters holds a string at a place : the characters from there up to the first
NUL (`CString.get`). `CString.put` overwrites a part of an array, and `CString.packed` is how
strings lie one after another, each with its NUL. The lemmas read a string off an array that
is given by its parts, and replace a part.

Nothing here depends on what a character is, but that there is a NUL.
-/

namespace CString

variable {α : Type*}

/-- Overwrites the characters from `p` on with `s`. -/
def put (p : ℕ) (s array : List α) : List α :=
  array.take p ++ (s ++ array.drop (p + s.length))

/-- Overwriting replaces the part it covers. -/
theorem put_append {s old : List α} (pre rest : List α) (h : s.length = old.length) :
    put pre.length s (pre ++ (old ++ rest)) = pre ++ (s ++ rest) := by
  rw [put, List.take_left', List.drop_append, List.drop_eq_nil_of_le (by omega), h,
    Nat.add_sub_cancel_left, List.drop_left', List.nil_append]
  · rfl
  · rfl

/-- Changing the first character of a part. -/
theorem modify_append (f : α → α) (pre rest : List α) (c : α) :
    (pre ++ c :: rest).modify pre.length f = pre ++ f c :: rest := by
  induction pre with
  | nil => rfl
  | cons a pre ih => simpa using ih

/-- Setting the first character of a part. -/
theorem set_append (c : α) (pre : List α) {rest : List α} (h : rest ≠ []) :
    (pre ++ rest).set pre.length c = pre ++ c :: rest.tail := by
  obtain ⟨a, rest, rfl⟩ := List.exists_cons_of_ne_nil h
  simp

section Nul

variable [OfNat α 0]

/-- Strings one after another, each with its NUL. -/
def packed (ss : List (List α)) : List α :=
  ss.flatMap (· ++ [0])

@[simp] theorem packed_nil : packed ([] : List (List α)) = [] :=
  rfl

@[simp] theorem packed_cons (s : List α) (ss : List (List α)) :
    packed (s :: ss) = s ++ 0 :: packed ss := by
  simp [packed]

@[simp] theorem packed_append (ss ss' : List (List α)) :
    packed (ss ++ ss') = packed ss ++ packed ss' := by
  simp [packed]

variable [DecidableEq α]

/-- The string at `p`. -/
def get (array : List α) (p : ℕ) : List α :=
  (array.drop p).takeWhile (· ≠ 0)

/-- A string read up to its NUL. -/
theorem get_append {s : List α} (pre rest : List α) (h : 0 ∉ s) :
    get (pre ++ (s ++ 0 :: rest)) pre.length = s := by
  rw [get, List.drop_left', List.takeWhile_append_of_pos]
  · simp
  · intro c hc
    simpa using fun h0 : c = 0 => h (h0 ▸ hc)
  · rfl

theorem get_zero {s : List α} (rest : List α) (h : 0 ∉ s) : get (s ++ 0 :: rest) 0 = s :=
  get_append [] rest h

end Nul

end CString
