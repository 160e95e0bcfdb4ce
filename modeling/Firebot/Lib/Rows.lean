/-!
# Rows in a list

A list of rows in which the first row of a kind is replaced (`replaceFirst`), and what is then found in it: the
new row of that kind, and of any other kind the row that was there.
-/

universe u

namespace Rows

variable {α : Type u} (is : α → Bool) (f : α → α)

/-- The list with the first row of the kind changed, if there is one. -/
def replaceFirst : List α → Option (List α)
  | [] => none
  | row :: rows => if is row then some (f row :: rows) else (replaceFirst rows).map (row :: ·)

variable {is f} {rows rows' : List α}

theorem replaceFirst_eq_none : replaceFirst is f rows = none ↔ rows.find? is = none := by
  induction rows with
  | nil => simp [replaceFirst]
  | cons row rows ih =>
    unfold replaceFirst
    by_cases found : is row = true
    · simp [found]
    · rw [if_neg found, List.find?_cons_of_neg found, Option.map_eq_none_iff, ih]

/-- The row of the kind is the changed one. -/
theorem find?_replaceFirst (kept : ∀ row, is row = true → is (f row) = true)
    (h : replaceFirst is f rows = some rows') : rows'.find? is = (rows.find? is).map f := by
  induction rows generalizing rows' with
  | nil => cases h
  | cons row rows ih =>
    unfold replaceFirst at h
    by_cases found : is row = true
    · rw [if_pos found] at h
      cases h
      rw [List.find?_cons_of_pos (kept row found), List.find?_cons_of_pos found]
      rfl
    · rw [if_neg found] at h
      obtain ⟨rest, replaced, same⟩ := Option.map_eq_some_iff.mp h
      cases same
      rw [List.find?_cons_of_neg found, List.find?_cons_of_neg found]
      exact ih replaced

/-- The row of another kind is as before. -/
theorem find?_replaceFirst_other {other : α → Bool} (before : ∀ row, is row = true → other row = false)
    (after : ∀ row, is row = true → other (f row) = false)
    (h : replaceFirst is f rows = some rows') : rows'.find? other = rows.find? other := by
  induction rows generalizing rows' with
  | nil => cases h
  | cons row rows ih =>
    unfold replaceFirst at h
    by_cases found : is row = true
    · rw [if_pos found] at h
      cases h
      rw [List.find?_cons_of_neg (Bool.eq_false_iff.mp (after row found)),
        List.find?_cons_of_neg (Bool.eq_false_iff.mp (before row found))]
    · rw [if_neg found] at h
      obtain ⟨rest, replaced, same⟩ := Option.map_eq_some_iff.mp h
      cases same
      rw [List.find?_cons, List.find?_cons, ih replaced]

end Rows
