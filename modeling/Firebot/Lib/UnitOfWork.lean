/-!
# Read, modify, write back what changed

A unit of work loads a row, changes its copy in memory, and at the end writes back the columns whose
value differs from the loaded one; the others keep whatever the row holds by then. Nothing is locked
between the load and the write, so a column that was changed in memory overwrites what another unit
of work has committed in between (`column_of_ne`), and a column that was not is left to it
(`column_of_eq`).
-/

namespace UnitOfWork

universe u

variable {α : Type u} [DecidableEq α]

/-- A column of the row after a unit of work that loaded one value, left another, and finds a third
when it commits. -/
def column (loaded left found : α) : α := if left = loaded then found else left

@[simp] theorem column_self (loaded found : α) : column loaded loaded found = found := if_pos rfl

theorem column_of_eq {loaded left : α} (same : left = loaded) (found : α) :
    column loaded left found = found := if_pos same

theorem column_of_ne {loaded left : α} (changed : left ≠ loaded) (found : α) :
    column loaded left found = left := if_neg changed

end UnitOfWork
