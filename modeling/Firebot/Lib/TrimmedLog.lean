import Mathlib.Data.List.Sort
import Mathlib.Order.Basic

/-!
# Logs that lose their oldest entries

Entries are appended under ever greater ids, and the oldest ones can be trimmed. A reader goes by a cursor: it
gets the entries after the cursor that are still there, and moves the cursor to the last one it has got.

What it has read is a prefix of what was appended after its start as long as nothing is trimmed that it has
yet to read (`read_prefix_iff`).
-/

universe u

/-- The ids of a log, in the order in which they have been appended, and how many of them have been trimmed. -/
structure TrimmedLog (ι : Type u) [LinearOrder ι] where
  ids : List ι
  trimmed : Nat
  ascending : ids.Pairwise (· < ·)
  inside : trimmed ≤ ids.length

namespace TrimmedLog

section

variable {ι : Type u}

/-- The cursor once these entries have been read. -/
def moved (cursor : ι) (entries : List ι) : ι := entries.getLast?.getD cursor

@[simp] theorem moved_nil (cursor : ι) : moved cursor [] = cursor := rfl

theorem moved_mem {entries : List ι} (cursor : ι) (some : entries ≠ []) :
    moved cursor entries ∈ entries := by
  unfold moved
  rw [List.getLast?_eq_some_getLast some]
  exact List.getLast_mem some

end

variable {ι : Type u} [LinearOrder ι]

/-- The entries of a list after a cursor. -/
def after (cursor : ι) (ids : List ι) : List ι := ids.filter (cursor < ·)

section

variable {ids entries rest : List ι} {cursor start : ι}

@[simp] theorem mem_after {id : ι} : id ∈ after cursor ids ↔ id ∈ ids ∧ cursor < id := by
  simp [after]

theorem after_append (cursor : ι) (first second : List ι) :
    after cursor (first ++ second) = after cursor first ++ after cursor second :=
  List.filter_append ..

theorem after_ascending (ascending : ids.Pairwise (· < ·)) : (after cursor ids).Pairwise (· < ·) :=
  ascending.filter _

/-- A smaller cursor comes first. -/
theorem after_after (le : start ≤ cursor) : after cursor (after start ids) = after cursor ids := by
  unfold after
  rw [List.filter_filter]
  refine List.filter_congr fun id _ => ?_
  by_cases later : cursor < id
  · simp [later, lt_of_le_of_lt le later]
  · simp [later]

/-- What comes after the entries that have been read is what is left of them. -/
theorem after_moved (ascending : ids.Pairwise (· < ·)) (split : after cursor ids = entries ++ rest) :
    after (moved cursor entries) ids = rest := by
  rcases List.eq_nil_or_concat entries with rfl | ⟨front, last, rfl⟩
  · exact split
  · have order : (front ++ [last] ++ rest).Pairwise (· < ·) := by
      rw [← List.concat_eq_append, ← split]
      exact after_ascending ascending
    obtain ⟨before, _, across⟩ := List.pairwise_append.mp order
    have is_last : moved cursor (front.concat last) = last := by
      simp [moved]
    have le : cursor ≤ last := by
      have mem : last ∈ after cursor ids := by
        rw [split]
        simp
      exact (mem_after.mp mem).2.le
    rw [is_last, ← after_after le, split, List.concat_eq_append, after_append]
    have none_before : after last (front ++ [last]) = [] := by
      refine List.filter_eq_nil_iff.mpr fun id mem => ?_
      rcases List.mem_append.mp mem with early | here
      · simpa using ((List.pairwise_append.mp before).2.2 id early last (by simp)).le
      · rw [List.mem_singleton.mp here]
        simp
    have all_after : after last rest = rest :=
      List.filter_eq_self.mpr fun id mem => by simpa using across last (by simp) id mem
    rw [none_before, all_after, List.nil_append]

end

variable (log : TrimmedLog ι)

/-- The entries that are still there. -/
def retained : List ι := log.ids.drop log.trimmed

/-- The entries that have been trimmed. -/
def lost : List ι := log.ids.take log.trimmed

/-- Up to `count` entries after a cursor. -/
def read (cursor : ι) (count : Nat) : List ι := (after cursor log.retained).take count

/-- An entry is appended; an id that is not new is not taken. -/
def append (id : ι) : TrimmedLog ι :=
  if new : ∀ other ∈ log.ids, other < id then
    { log with
      ids := log.ids ++ [id]
      ascending := by
        rw [List.pairwise_append]
        refine ⟨log.ascending, List.pairwise_singleton _ _, ?_⟩
        intro other mem last here
        rw [List.mem_singleton.mp here]
        exact new other mem
      inside := log.inside.trans (by simp) }
  else log

/-- Older entries are trimmed. -/
def trim (count : Nat) : TrimmedLog ι :=
  { log with trimmed := min (log.trimmed + count) log.ids.length, inside := min_le_right .. }

theorem lost_append_retained : log.lost ++ log.retained = log.ids := List.take_append_drop ..

section

variable {log} {cursor start : ι} {count : Nat} {delivered : List ι}

/-- A trim takes the oldest of the entries that are still there. -/
theorem lost_trim (log : TrimmedLog ι) (count : Nat) :
    (log.trim count).lost = log.lost ++ log.retained.take count := by
  show log.ids.take (min (log.trimmed + count) log.ids.length) = log.ids.take log.trimmed ++ _
  rw [← List.take_take, List.take_length]
  exact List.take_add

/-- An append takes none. -/
theorem lost_append (log : TrimmedLog ι) (id : ι) : (log.append id).lost = log.lost := by
  unfold append
  split
  · exact List.take_append_of_le_length log.inside
  · rfl

/-- What has been trimmed came before everything that is still there. -/
theorem lost_lt {first id : ι} (there : first ∈ log.retained) (gone : id ∈ log.lost) : id < first := by
  have order := log.ascending
  rw [← log.lost_append_retained] at order
  exact (List.pairwise_append.mp order).2.2 id gone first there

/-- Nothing is missing after a cursor that nothing has been trimmed after. -/
theorem after_retained (kept : ∀ id ∈ log.lost, id ≤ cursor) :
    after cursor log.retained = after cursor log.ids := by
  have none_lost : after cursor log.lost = [] :=
    List.filter_eq_nil_iff.mpr fun id mem => by simpa using kept id mem
  rw [← log.lost_append_retained, after_append, none_lost, List.nil_append]

/-- A reader that has read everything up to its cursor reads on without a gap exactly if nothing has been
trimmed after the cursor. -/
theorem read_prefix_iff (complete : delivered ++ after cursor log.ids = after start log.ids)
    (some : log.read cursor count ≠ []) :
    delivered ++ log.read cursor count <+: after start log.ids ↔ ∀ id ∈ log.lost, id ≤ cursor := by
  rw [← complete, List.prefix_append_right_inj]
  constructor
  · intro gapless id mem
    by_contra later
    have lost_first : after cursor log.lost ≠ [] :=
      List.ne_nil_of_mem (mem_after.mpr ⟨mem, not_le.mp later⟩)
    obtain ⟨first, front, head⟩ := List.exists_cons_of_ne_nil lost_first
    obtain ⟨next, more, begins⟩ := List.exists_cons_of_ne_nil some
    rw [← log.lost_append_retained, after_append, head, begins] at gapless
    have same : next = first := (List.cons_prefix_cons.mp gapless).1
    have next_there : next ∈ log.retained := by
      have mem : next ∈ log.read cursor count := by
        rw [begins]
        exact List.mem_cons_self
      exact (mem_after.mp (List.mem_of_mem_take mem)).1
    have first_lost : first ∈ log.lost := by
      have mem : first ∈ after cursor log.lost := by
        rw [head]
        exact List.mem_cons_self
      exact (mem_after.mp mem).1
    have less := lost_lt next_there first_lost
    rw [same] at less
    exact lt_irrefl _ less
  · intro kept
    unfold read
    rw [after_retained kept]
    exact List.take_prefix ..

/-! ## A reader -/

/-- The reader has read everything that was appended after its start, up to its cursor. -/
structure ReadUpTo (log : TrimmedLog ι) (start cursor : ι) (delivered : List ι) : Prop where
  le : start ≤ cursor
  inside : cursor = start ∨ cursor ∈ log.ids
  complete : delivered ++ after cursor log.ids = after start log.ids

theorem ReadUpTo.begin (log : TrimmedLog ι) (start : ι) : log.ReadUpTo start start [] :=
  ⟨le_refl _, .inl rfl, rfl⟩

theorem ReadUpTo.gapless (reader : log.ReadUpTo start cursor delivered) :
    delivered <+: after start log.ids :=
  ⟨_, reader.complete⟩

/-- What is appended comes after the cursor if it comes after the start. -/
theorem ReadUpTo.append (reader : log.ReadUpTo start cursor delivered) (id : ι) :
    (log.append id).ReadUpTo start cursor delivered := by
  unfold TrimmedLog.append
  split
  next new =>
    refine ⟨reader.le, reader.inside.imp_right fun mem => List.mem_append_left _ mem, ?_⟩
    have same : after cursor [id] = after start [id] := by
      rcases reader.inside with rfl | mem
      · rfl
      · have later := new cursor mem
        simp [after, later, lt_of_le_of_lt reader.le later]
    show delivered ++ after cursor (log.ids ++ [id]) = after start (log.ids ++ [id])
    rw [after_append, after_append, ← List.append_assoc, reader.complete, same]
  · exact reader

/-- The reader reads on where nothing has been trimmed after its cursor. -/
theorem ReadUpTo.read (reader : log.ReadUpTo start cursor delivered)
    (kept : ∀ id ∈ log.lost, id ≤ cursor) (count : Nat) :
    log.ReadUpTo start (moved cursor (log.read cursor count)) (delivered ++ log.read cursor count) := by
  have split : after cursor log.ids = log.read cursor count ++ (after cursor log.ids).drop count := by
    unfold TrimmedLog.read
    rw [after_retained kept, List.take_append_drop]
  have rest := after_moved log.ascending split
  by_cases nothing : log.read cursor count = []
  · rw [nothing, moved_nil, List.append_nil]
    exact reader
  · have mem := moved_mem cursor nothing
    have ahead := mem_after.mp (List.mem_of_mem_take mem)
    refine ⟨reader.le.trans ahead.2.le, .inr (List.mem_of_mem_drop ahead.1), ?_⟩
    rw [rest, List.append_assoc, ← split, reader.complete]

/-- A reader with nothing trimmed after its cursor has nothing trimmed after what it reads next. -/
theorem lost_le_moved (kept : ∀ id ∈ log.lost, id ≤ cursor) (count : Nat) :
    ∀ id ∈ log.lost, id ≤ moved cursor (log.read cursor count) := by
  intro id gone
  by_cases nothing : log.read cursor count = []
  · rw [nothing, moved_nil]
    exact kept id gone
  · have ahead := mem_after.mp (List.mem_of_mem_take (moved_mem cursor nothing))
    exact (kept id gone).trans ahead.2.le

theorem ReadUpTo.trim (reader : log.ReadUpTo start cursor delivered) (count : Nat) :
    (log.trim count).ReadUpTo start cursor delivered :=
  ⟨reader.le, reader.inside, reader.complete⟩

/-- An append leaves a prefix a prefix. -/
theorem prefix_append (id : ι) (gapless : delivered <+: after start log.ids) :
    delivered <+: after start (log.append id).ids := by
  unfold TrimmedLog.append
  split
  · show delivered <+: after start (log.ids ++ [id])
    rw [after_append]
    exact gapless.trans (List.prefix_append ..)
  · exact gapless

end

end TrimmedLog
