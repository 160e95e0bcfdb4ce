import Mathlib.Data.List.AList
import Mathlib.Data.List.MinMax

/-!
# Tables of rows by primary key

A table holds at most one row for each key. `update` changes rows and leaves the keys as they are,
`filterMap` may remove rows as well, `modify` changes the row under one key, `rows` lists what a query
runs over, and `newest` is the row that `ORDER BY … DESC` puts first. The order in which a query without
an `ORDER BY` returns its rows is not specified.
-/

universe u v w

/-- Rows of type `α` under their primary keys. -/
abbrev Table (κ : Type u) (α : Type v) := AList fun _ : κ => α

namespace Table

variable {κ : Type u} {α : Type v}

/-- Every row is changed. -/
def update (f : κ → α → α) (t : Table κ α) : Table κ α where
  entries := t.entries.map fun e => ⟨e.1, f e.1 e.2⟩
  nodupKeys := by
    have keys : (t.entries.map fun e => (⟨e.1, f e.1 e.2⟩ : Sigma fun _ : κ => α)).keys =
        t.entries.keys := by
      simp [List.keys]
    rw [List.NodupKeys, keys]
    exact t.nodupKeys

/-- Every row is changed, or removed. -/
def filterMap (f : κ → α → Option α) (t : Table κ α) : Table κ α where
  entries := t.entries.filterMap fun e => (f e.1 e.2).map (Sigma.mk e.1)
  nodupKeys := by
    rw [List.nodupKeys_iff_pairwise]
    refine (List.nodupKeys_iff_pairwise.mp t.nodupKeys).filterMap _ ?_
    intro e e' ne b found b' found'
    obtain ⟨_, _, rfl⟩ := Option.map_eq_some_iff.mp found
    obtain ⟨_, _, rfl⟩ := Option.map_eq_some_iff.mp found'
    exact ne

variable [DecidableEq κ]

/-- The row under one key is changed; a key without a row is left without one. -/
def modify (k : κ) (f : α → α) (t : Table κ α) : Table κ α :=
  update (fun k' a => if k' = k then f a else a) t

/-- The rows with their keys. -/
def rows (t : Table κ α) : List (κ × α) := t.entries.map fun e => (e.1, e.2)

/-- The rows that meet a condition. -/
def select (p : κ → α → Bool) (t : Table κ α) : List (κ × α) := t.rows.filter fun r => p r.1 r.2

/-- Of the rows that meet a condition, one with the greatest value of a column. -/
def newest {β : Type w} [LinearOrder β] (p : κ → α → Bool) (column : α → β) (t : Table κ α) :
    Option (κ × α) :=
  (t.select p).argmax fun r => column r.2

@[simp] theorem lookup_update (f : κ → α → α) (k : κ) (t : Table κ α) :
    (update f t).lookup k = (t.lookup k).map (f k) := by
  refine Option.ext fun b => ?_
  rw [← Option.mem_def, ← Option.mem_def, AList.mem_lookup_iff]
  show _ ∈ List.map _ _ ↔ _
  constructor
  · intro mem
    obtain ⟨⟨k', a⟩, inside, same⟩ := List.mem_map.mp mem
    cases same
    exact Option.mem_map_of_mem (f _) (AList.mem_lookup_iff.mpr inside)
  · intro mem
    obtain ⟨a, found, rfl⟩ := Option.mem_map.mp mem
    exact List.mem_map.mpr ⟨⟨k, a⟩, AList.mem_lookup_iff.mp found, rfl⟩

@[simp] theorem lookup_filterMap (f : κ → α → Option α) (k : κ) (t : Table κ α) :
    (filterMap f t).lookup k = (t.lookup k).bind (f k) := by
  refine Option.ext fun b => ?_
  rw [← Option.mem_def, AList.mem_lookup_iff, Option.bind_eq_some_iff]
  show _ ∈ List.filterMap _ _ ↔ _
  rw [List.mem_filterMap]
  constructor
  · rintro ⟨⟨k', a⟩, inside, same⟩
    obtain ⟨b', kept, same⟩ := Option.map_eq_some_iff.mp same
    cases same
    exact ⟨a, AList.mem_lookup_iff.mpr inside, kept⟩
  · rintro ⟨a, found, kept⟩
    exact ⟨⟨k, a⟩, AList.mem_lookup_iff.mp found, Option.map_eq_some_iff.mpr ⟨b, kept, rfl⟩⟩

theorem lookup_modify_self (k : κ) (f : α → α) (t : Table κ α) :
    (modify k f t).lookup k = (t.lookup k).map f := by
  simp [modify]

theorem lookup_modify_of_ne {k k' : κ} (ne : k' ≠ k) (f : α → α) (t : Table κ α) :
    (modify k f t).lookup k' = t.lookup k' := by
  simp [modify, ne]

/-- A row of the changed table is a row of the table, changed or not. -/
theorem of_lookup_modify {k k' : κ} {f : α → α} {t : Table κ α} {b : α}
    (found : (modify k f t).lookup k' = some b) :
    ∃ a, t.lookup k' = some a ∧ (k' = k ∧ b = f a ∨ k' ≠ k ∧ b = a) := by
  by_cases same : k' = k
  · subst same
    rw [lookup_modify_self] at found
    obtain ⟨a, before, rfl⟩ := Option.map_eq_some_iff.mp found
    exact ⟨a, before, .inl ⟨rfl, rfl⟩⟩
  · rw [lookup_modify_of_ne same] at found
    exact ⟨b, found, .inr ⟨same, rfl⟩⟩

@[simp] theorem isSome_lookup_modify (k k' : κ) (f : α → α) (t : Table κ α) :
    ((modify k f t).lookup k').isSome = (t.lookup k').isSome := by
  simp [modify]

/-- A row under a new key leaves the others. -/
theorem lookup_insert_of_found {t : Table κ α} {k new : κ} {a : α} (b : α)
    (unused : t.lookup new = none) (found : t.lookup k = some a) :
    AList.lookup k (t.insert new b) = some a := by
  have ne : k ≠ new := by
    intro same
    rw [same, unused] at found
    cases found
  rw [AList.lookup_insert_ne ne, found]

/-- A row after an insertion is the new one, or one of before. -/
theorem of_lookup_insert {t : Table κ α} {k new : κ} {a b : α}
    (found : AList.lookup k (t.insert new b) = some a) :
    k = new ∧ a = b ∨ k ≠ new ∧ t.lookup k = some a := by
  by_cases same : k = new
  · subst same
    rw [AList.lookup_insert] at found
    exact .inl ⟨rfl, (Option.some.inj found).symm⟩
  · rw [AList.lookup_insert_ne same] at found
    exact .inr ⟨same, found⟩

theorem mem_rows {t : Table κ α} {k : κ} {a : α} : (k, a) ∈ t.rows ↔ t.lookup k = some a := by
  unfold rows
  constructor
  · intro mem
    obtain ⟨e, inside, same⟩ := List.mem_map.mp mem
    obtain ⟨rfl, rfl⟩ := Prod.mk.inj same
    exact AList.mem_lookup_iff.mpr inside
  · intro found
    exact List.mem_map.mpr ⟨⟨k, a⟩, AList.mem_lookup_iff.mp found, rfl⟩

theorem mem_select {p : κ → α → Bool} {t : Table κ α} {k : κ} {a : α} :
    (k, a) ∈ t.select p ↔ t.lookup k = some a ∧ p k a = true := by
  unfold select
  rw [List.mem_filter, mem_rows]

omit [DecidableEq κ] in
/-- The selected rows have different keys. -/
theorem nodup_select (p : κ → α → Bool) (t : Table κ α) : ((t.select p).map Prod.fst).Nodup := by
  have keys : (t.rows.map Prod.fst).Nodup := by
    unfold rows
    rw [List.map_map]
    exact t.nodupKeys
  exact keys.sublist (List.filter_sublist.map Prod.fst)

/-- Some row of the table meets a condition. -/
theorem any_rows {p : κ × α → Bool} {t : Table κ α} :
    t.rows.any p = true ↔ ∃ k a, t.lookup k = some a ∧ p (k, a) = true := by
  rw [List.any_eq_true]
  constructor
  · rintro ⟨⟨k, a⟩, mem, meets⟩
    exact ⟨k, a, mem_rows.mp mem, meets⟩
  · rintro ⟨k, a, found, meets⟩
    exact ⟨(k, a), mem_rows.mpr found, meets⟩

/-- No row of the table meets a condition. -/
theorem select_eq_nil {p : κ → α → Bool} {t : Table κ α} :
    t.select p = [] ↔ ∀ k a, t.lookup k = some a → p k a = false := by
  rw [List.eq_nil_iff_forall_not_mem]
  constructor
  · intro none k a found
    by_contra meets
    exact none (k, a) (mem_select.mpr ⟨found, Bool.eq_true_of_not_eq_false meets⟩)
  · rintro none ⟨k, a⟩ mem
    obtain ⟨found, meets⟩ := mem_select.mp mem
    rw [none k a found] at meets
    cases meets

/-- The newest row is a row of the table that meets the condition. -/
theorem newest_spec {β : Type w} [LinearOrder β] {p : κ → α → Bool} {column : α → β}
    {t : Table κ α} {k : κ} {a : α} (found : t.newest p column = some (k, a)) :
    t.lookup k = some a ∧ p k a = true :=
  mem_select.mp (List.argmax_mem found)

/-- There is a newest row where any row meets the condition. -/
theorem exists_newest {β : Type w} [LinearOrder β] {p : κ → α → Bool} {t : Table κ α} {k : κ}
    {a : α} (column : α → β) (found : t.lookup k = some a) (meets : p k a = true) :
    ∃ k' a', t.newest p column = some (k', a') := by
  cases none_found : t.newest p column with
  | some r => exact ⟨r.1, r.2, rfl⟩
  | none =>
    have empty : t.select p = [] := List.argmax_eq_none.mp none_found
    have mem : (k, a) ∈ t.select p := mem_select.mpr ⟨found, meets⟩
    rw [empty] at mem
    cases mem

end Table
