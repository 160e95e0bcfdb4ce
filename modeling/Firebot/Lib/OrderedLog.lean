import Mathlib.Data.List.Basic
import Mathlib.Order.Basic

/-!
# Logs whose first occurrences ascend

A log may repeat its entries, at any later place. `Ascending key log` says that the first occurrences
of its entries come in the order of their keys: an entry that was not logged before has a greater key
than everything logged before. A reader that ignores what it has seen then sees ascending keys.

`Ascending.concat` is the one way to grow such a log.
-/

namespace OrderedLog

universe u v

variable {α : Type u} {β : Type v} [LT β] {key : α → β} {log : List α}

/-- An entry that was not logged before has a greater key than everything logged before. -/
def Ascending (key : α → β) (log : List α) : Prop :=
  ∀ before a after, log = before ++ a :: after → a ∉ before → ∀ b ∈ before, key b < key a

theorem Ascending.nil : Ascending key [] := fun before a after empty => by
  simp at empty

/-- The log grows by an entry it has, or by one with a greater key than all it has. -/
theorem Ascending.concat (h : Ascending key log) {a : α} (next : a ∈ log ∨ ∀ b ∈ log, key b < key a) :
    Ascending key (log ++ [a]) := by
  intro before x after split first
  rcases List.eq_nil_or_concat after with rfl | ⟨after', last, rfl⟩
  · obtain ⟨rfl, same⟩ := List.append_inj' split rfl
    cases List.singleton_inj.mp same
    exact next.resolve_left first
  · have shorter : log = before ++ x :: after' := by
      have grown : log ++ [a] = (before ++ x :: after') ++ [last] := by
        simpa [List.concat_eq_append] using split
      exact (List.append_inj' grown rfl).1
    exact h before x after' shorter first

end OrderedLog
