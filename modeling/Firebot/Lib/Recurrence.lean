import Mathlib.Order.Bounds.Basic

/-!
# Recurring instants

An instant either fires or does not, in any linear order. `Contiguous fires start stop instants` says that a list
holds every firing instant from `start` up to `stop`, once and in order. The instant at which the list stops can
be appended to it if it fires, and then the list stops at the least firing instant after it.
-/

namespace Recurrence

universe u

variable {τ : Type u} [LinearOrder τ] {fires : τ → Prop} {start stop next : τ} {instants : List τ}

/-- The least firing instant after another one. -/
def IsNext (fires : τ → Prop) (base next : τ) : Prop := IsLeast {t | fires t ∧ base < t} next

/-- Every firing instant from `start` up to `stop`, once and in order. -/
structure Contiguous (fires : τ → Prop) (start stop : τ) (instants : List τ) : Prop where
  increasing : instants.Pairwise (· < ·)
  mem_iff : ∀ t, t ∈ instants ↔ fires t ∧ start ≤ t ∧ t < stop

/-- Up to its start there is nothing. -/
theorem Contiguous.nil : Contiguous fires start start [] where
  increasing := .nil
  mem_iff _ := ⟨fun mem => absurd mem List.not_mem_nil, fun within => absurd within.2.1 (not_le_of_gt within.2.2)⟩

/-- The instant at which the list stops is appended. -/
theorem Contiguous.snoc (h : Contiguous fires start stop instants) (firing : fires stop) (reached : start ≤ stop)
    (least : IsNext fires stop next) : Contiguous fires start next (instants ++ [stop]) where
  increasing := by
    apply List.pairwise_append.mpr
    refine ⟨h.increasing, List.pairwise_singleton _ _, ?_⟩
    intro t mem last same
    rw [List.mem_singleton.mp same]
    exact ((h.mem_iff t).mp mem).2.2
  mem_iff t := by
    rw [List.mem_append, List.mem_singleton, h.mem_iff]
    constructor
    · rintro (⟨firing', from_start, before⟩ | same)
      · exact ⟨firing', from_start, lt_trans before least.1.2⟩
      · rw [same]
        exact ⟨firing, reached, least.1.2⟩
    · intro ⟨firing', from_start, before⟩
      rcases lt_trichotomy t stop with earlier | same | later
      · exact .inl ⟨firing', from_start, earlier⟩
      · exact .inr same
      · exact absurd (least.2 ⟨firing', later⟩) (not_le_of_gt before)

/-- The instant at which the list stops is not in it. -/
theorem Contiguous.stop_not_mem (h : Contiguous fires start stop instants) : stop ∉ instants :=
  fun mem => lt_irrefl _ ((h.mem_iff stop).mp mem).2.2

end Recurrence
