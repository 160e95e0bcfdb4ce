import Mathlib.Data.List.Basic

/-!
# Streaks of marked entries in a growing log

A log grows at its end, and a reader marks its last entry now and then. The marks are a `Streak` when
they ascend, every marked entry was good when it was marked, and no entry from the first mark to the
last is bad.

The reader sees last entries only, so a bad entry that another one follows may go unseen. `Unbroken`
says that this does not hide one: if the last entry is not bad, none is since the first mark. The log
keeps it by letting only a bad entry follow a bad one (`Unbroken.concat`), and a new mark rests on it
(`Streak.mark`).
-/

namespace Marked

universe u v

variable {α : Type u} {β : Type v} {good : α → β → Prop} {bad : α → Prop} {log : List α}
  {marks : List (Nat × β)}

/-- A mark is the place of an entry with what was known when it was marked. -/
structure Streak (good : α → β → Prop) (bad : α → Prop) (log : List α) (marks : List (Nat × β)) :
    Prop where
  ascending : marks.Pairwise fun a b => a.1 < b.1
  good : ∀ mark ∈ marks, ∃ a, log[mark.1]? = some a ∧ good a mark.2
  clean : ∀ (i : Nat) (a : α), log[i]? = some a → (∃ first ∈ marks, first.1 ≤ i) →
    (∃ last ∈ marks, i ≤ last.1) → ¬ bad a

/-- If the last entry is not bad, no entry since the first mark is. -/
def Unbroken (bad : α → Prop) (log : List α) (marks : List (Nat × β)) : Prop :=
  (∀ a ∈ log.getLast?, ¬ bad a) →
    ∀ (i : Nat) (a : α), log[i]? = some a → (∃ first ∈ marks, first.1 ≤ i) → ¬ bad a

theorem Streak.nil : Streak good bad log [] where
  ascending := .nil
  good := List.forall_mem_nil _
  clean := by
    rintro i a _ ⟨mark, none, _⟩
    cases none

theorem Unbroken.nil : Unbroken bad log ([] : List (Nat × β)) := by
  rintro _ i a _ ⟨mark, none, _⟩
  cases none

/-- An entry of a longer log is an entry of the log or the new one. -/
theorem entry_concat {i : Nat} {a b : α} (entry : (log ++ [b])[i]? = some a) :
    log[i]? = some a ∨ a = b := by
  rcases Nat.lt_or_ge i log.length with old | new
  · rw [List.getElem?_append_left old] at entry
    exact .inl entry
  · rw [List.getElem?_append_right new] at entry
    exact .inr (List.mem_singleton.mp (List.mem_of_getElem? entry))

/-- A mark lies in the log. -/
theorem Streak.inside (streak : Streak good bad log marks) {mark : Nat × β} (mem : mark ∈ marks) :
    mark.1 < log.length := by
  obtain ⟨a, entry, _⟩ := streak.good mark mem
  exact (List.getElem?_eq_some_iff.mp entry).1

/-- A streak stays one when the log grows. -/
theorem Streak.concat (streak : Streak good bad log marks) (b : α) :
    Streak good bad (log ++ [b]) marks where
  ascending := streak.ascending
  good mark mem := by
    obtain ⟨a, entry, here⟩ := streak.good mark mem
    exact ⟨a, by rw [List.getElem?_append_left (streak.inside mem), entry], here⟩
  clean i a entry first := by
    rintro ⟨last, mem, upto⟩
    have old : (log ++ [b])[i]? = log[i]? :=
      List.getElem?_append_left (Nat.lt_of_le_of_lt upto (streak.inside mem))
    exact streak.clean i a (old ▸ entry) first ⟨last, mem, upto⟩

/-- The log may grow by a bad entry, or by any entry when the last one is not bad. -/
theorem Unbroken.concat (unbroken : Unbroken bad log marks) {b : α}
    (next : bad b ∨ ∀ a ∈ log.getLast?, ¬ bad a) : Unbroken bad (log ++ [b]) marks := by
  intro last i a entry first
  have fine : ¬ bad b := last b (by rw [List.getLast?_concat]; rfl)
  rcases entry_concat entry with old | rfl
  · exact unbroken (next.resolve_left fine) i a old first
  · exact fine

/-- The place of the last entry. -/
theorem last_place {a : α} (last : log.getLast? = some a) : log[log.length - 1]? = some a := by
  rw [← last, List.getLast?_eq_getElem?]

/-- No entry lies behind the last one. -/
theorem last_of_entry {i : Nat} {a : α} (entry : log[i]? = some a) (behind : log.length - 1 ≤ i) :
    log.getLast? = some a := by
  have inside := (List.getElem?_eq_some_iff.mp entry).1
  rw [List.getLast?_eq_getElem?, show log.length - 1 = i by omega, entry]

/-- The last entry may be marked when it is good, is not bad, and lies behind every mark. -/
theorem Streak.mark (streak : Streak good bad log marks) (unbroken : Unbroken bad log marks) {a : α}
    {b : β} (last : log.getLast? = some a) (new : ∀ mark ∈ marks, mark.1 + 1 < log.length)
    (fine : ¬ bad a) (here : good a b) :
    Streak good bad log (marks ++ [(log.length - 1, b)]) where
  ascending := by
    refine List.pairwise_append.mpr ⟨streak.ascending, List.pairwise_singleton _ _, ?_⟩
    intro old mem mark this
    rw [List.mem_singleton.mp this]
    have := new old mem
    omega
  good mark mem := by
    rcases List.mem_append.mp mem with old | this
    · exact streak.good mark old
    · rw [List.mem_singleton.mp this]
      exact ⟨a, last_place last, here⟩
  clean i c entry := by
    rintro ⟨first, mem, since⟩ _
    rcases List.mem_append.mp mem with old | this
    · refine unbroken ?_ i c entry ⟨first, old, since⟩
      intro d isLast
      rwa [Option.some.inj (isLast.symm.trans last)]
    · rw [List.mem_singleton.mp this] at since
      rwa [Option.some.inj ((last_of_entry entry since).symm.trans last)]

/-- Marking the last entry breaks nothing. -/
theorem Unbroken.mark (unbroken : Unbroken bad log marks) (b : β) :
    Unbroken bad log (marks ++ [(log.length - 1, b)]) := by
  intro last i a entry first
  obtain ⟨mark, mem, since⟩ := first
  rcases List.mem_append.mp mem with old | this
  · exact unbroken last i a entry ⟨mark, old, since⟩
  · rw [List.mem_singleton.mp this] at since
    exact last a (last_of_entry entry since)

end Marked
