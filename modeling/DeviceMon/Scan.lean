import Mathlib.Data.List.Perm.Basic

/-!
# Searches with a running answer

`scan stop f items r` goes through a list with a running answer. An item that stops the search
gives the answer, and any other one replaces it; so the answer is that of the first item that
stops, or else that of the last one (`scan_eq`).

Nothing here depends on what the items are.
-/

variable {α β : Type*}

/-- The answer after a list, from the answer so far. -/
def scan (stop : α → Bool) (f : α → β) : List α → β → β
  | [], r => r
  | a :: as, _ => if stop a then f a else scan stop f as (f a)

/-- The item a search ends with : the first that stops it, or else the last. -/
def scanEnd (stop : α → Bool) (items : List α) : Option α :=
  (items.find? stop).or items.getLast?

section Scan

variable {stop : α → Bool} {f : α → β} {as bs : List α} {r : β} {c : β}

@[simp] theorem scan_nil : scan stop f [] r = r :=
  rfl

theorem scan_cons (a : α) :
    scan stop f (a :: as) r = if stop a then f a else scan stop f as (f a) :=
  rfl

theorem scanEnd_cons_of_stop {a : α} (ha : stop a = true) : scanEnd stop (a :: as) = some a := by
  rw [scanEnd, List.find?_cons_of_pos ha, Option.some_or]

theorem scanEnd_cons_of_not {a : α} (ha : stop a = false) :
    scanEnd stop (a :: as) = some ((scanEnd stop as).getD a) := by
  rw [scanEnd, List.find?_cons_of_neg (by simp [ha]), scanEnd]
  cases as with
  | nil => rfl
  | cons b bs =>
    rw [List.getLast?_cons_cons, List.getLast?_eq_some_getLast (List.cons_ne_nil b bs)]
    cases List.find? stop (b :: bs) <;> rfl

/-- The answer is that of the item the search ends with. -/
theorem scan_eq : scan stop f as r = ((scanEnd stop as).map f).getD r := by
  induction as generalizing r with
  | nil => rfl
  | cons a as ih =>
    rw [scan_cons]
    split_ifs with ha
    · rw [scanEnd_cons_of_stop ha]
      rfl
    · rw [scanEnd_cons_of_not (Bool.eq_false_iff.2 ha), ih]
      cases scanEnd stop as <;> rfl

/-- Without an item that stops, the last one answers. -/
theorem scan_of_forall_not (h : ∀ a ∈ as, stop a = false) :
    scan stop f as r = (as.getLast?.map f).getD r := by
  have hfind : as.find? stop = none := List.find?_eq_none.2 fun a ha => by simp [h a ha]
  rw [scan_eq, scanEnd, hfind, Option.none_or]

/-- When all items that stop answer alike, so does the search. -/
theorem scan_eq_of_stop (h : ∃ a ∈ as, stop a = true) (hc : ∀ a ∈ as, stop a = true → f a = c) :
    scan stop f as r = c := by
  obtain ⟨a, ha⟩ := Option.isSome_iff_exists.1 (List.find?_isSome.2 h)
  rw [scan_eq, scanEnd, ha, Option.some_or]
  exact hc a (List.mem_of_find?_eq_some ha) (List.find?_some ha)

/-- The first list answers for both if it stops the search, or the second is empty. -/
theorem scan_append : scan stop f (as ++ bs) r =
    if as.any stop then scan stop f as r else scan stop f bs (scan stop f as r) := by
  induction as generalizing r with
  | nil => rfl
  | cons a as ih =>
    rw [List.cons_append, scan_cons, scan_cons, ih, List.any_cons]
    by_cases ha : stop a = true
    · simp [ha]
    · simp [ha]

/-- The second list has the last word if it has a word at all. -/
theorem scan_append_of_ne_nil (has : as.any stop = false) (hbs : bs ≠ []) :
    scan stop f (as ++ bs) r = scan stop f bs r := by
  rw [scan_append, has, if_neg Bool.false_ne_true]
  cases bs with
  | nil => exact (hbs rfl).elim
  | cons b bs => rw [scan_cons, scan_cons]

end Scan
