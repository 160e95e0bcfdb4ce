import Mathlib.Data.List.Forall2
import Mathlib.Data.List.Nodup

/-!
# Dictionaries in the order of insertion

A dictionary is a list of entries with different keys. `assign` sets the value of a key: in its place, where the
key is there, else at the end. `update` assigns one entry after the other, so that of the entries with one key the
last counts (`mem_update`).
-/

namespace Dict

universe u v w

variable {κ : Type u} {α : Type v} [DecidableEq κ]

/-- `dict[key] = value`. -/
def assign (key : κ) (value : α) : List (κ × α) → List (κ × α)
  | [] => [(key, value)]
  | (other, old) :: rest => if other = key then (key, value) :: rest else (other, old) :: assign key value rest

/-- `dict.update(items)`. -/
def update (dict items : List (κ × α)) : List (κ × α) := items.foldl (fun dict item => assign item.1 item.2 dict) dict

/-- An entry is the last one with its key. -/
def LastOf (items : List (κ × α)) (entry : κ × α) : Prop :=
  ∃ before after, items = before ++ entry :: after ∧ entry.1 ∉ after.map Prod.fst

variable {dict items : List (κ × α)} {key : κ} {value : α} {entry : κ × α}

omit [DecidableEq κ] in
theorem lastOf_cons : LastOf ((key, value) :: items) entry ↔
    LastOf items entry ∨ entry = (key, value) ∧ key ∉ items.map Prod.fst := by
  constructor
  · rintro ⟨before, after, split, last⟩
    cases before with
    | nil =>
      obtain ⟨rfl, rfl⟩ := List.cons.inj split
      exact .inr ⟨rfl, last⟩
    | cons first before =>
      obtain ⟨_, rest⟩ := List.cons.inj split
      exact .inl ⟨before, after, rest, last⟩
  · rintro (⟨before, after, rfl, last⟩ | ⟨rfl, last⟩)
    · exact ⟨(key, value) :: before, after, rfl, last⟩
    · exact ⟨[], items, rfl, last⟩

theorem key_of_mem_assign (mem : entry ∈ assign key value dict) : entry.1 = key ∨ ∃ old ∈ dict, old.1 = entry.1 := by
  induction dict with
  | nil => exact .inl (congrArg Prod.fst (List.mem_singleton.mp mem))
  | cons first dict ih =>
    unfold assign at mem
    split at mem
    · rcases List.mem_cons.mp mem with rfl | mem
      · exact .inl rfl
      · exact .inr ⟨entry, List.mem_cons_of_mem _ mem, rfl⟩
    · rcases List.mem_cons.mp mem with rfl | mem
      · exact .inr ⟨_, List.mem_cons_self, rfl⟩
      · exact (ih mem).imp_right fun ⟨old, inside, same⟩ => ⟨old, List.mem_cons_of_mem _ inside, same⟩

/-- The keys stay different. -/
theorem nodup_assign (distinct : (dict.map Prod.fst).Nodup) : ((assign key value dict).map Prod.fst).Nodup := by
  induction dict with
  | nil => exact List.nodup_singleton key
  | cons first dict ih =>
    obtain ⟨other, old⟩ := first
    obtain ⟨new, distinct⟩ := List.nodup_cons.mp distinct
    unfold assign
    by_cases same : other = key
    · rw [if_pos same]
      exact List.nodup_cons.mpr ⟨same ▸ new, distinct⟩
    · rw [if_neg same]
      refine List.nodup_cons.mpr ⟨fun mem => ?_, ih distinct⟩
      obtain ⟨entry, inside, named⟩ := List.mem_map.mp mem
      rcases key_of_mem_assign inside with equal | ⟨old, was, equal⟩
      · exact same (named.symm.trans equal)
      · exact new (List.mem_map.mpr ⟨old, was, equal.trans named⟩)

theorem nodup_update (distinct : (dict.map Prod.fst).Nodup) : ((update dict items).map Prod.fst).Nodup := by
  induction items generalizing dict with
  | nil => exact distinct
  | cons item items ih => exact ih (nodup_assign distinct)

theorem mem_assign (distinct : (dict.map Prod.fst).Nodup) :
    entry ∈ assign key value dict ↔ entry = (key, value) ∨ entry ∈ dict ∧ entry.1 ≠ key := by
  induction dict with
  | nil => simp [assign]
  | cons first dict ih =>
    obtain ⟨other, old⟩ := first
    obtain ⟨new, distinct⟩ := List.nodup_cons.mp distinct
    unfold assign
    by_cases same : other = key
    · rw [if_pos same, List.mem_cons, List.mem_cons]
      refine or_congr_right ⟨fun mem => ⟨.inr mem, fun equal => ?_⟩, ?_⟩
      · exact new (List.mem_map.mpr ⟨entry, mem, equal.trans same.symm⟩)
      · rintro ⟨rfl | mem, ne⟩
        · exact absurd same ne
        · exact mem
    · rw [if_neg same, List.mem_cons, List.mem_cons, ih distinct, or_and_right, or_left_comm]
      refine or_congr_right (or_congr_left ⟨fun equal => ⟨equal, ?_⟩, And.left⟩)
      rw [equal]
      exact same

/-- What an update leaves: the last entry of each key, and what was there under other keys. -/
theorem mem_update (distinct : (dict.map Prod.fst).Nodup) : entry ∈ update dict items ↔
    LastOf items entry ∨ entry ∈ dict ∧ entry.1 ∉ items.map Prod.fst := by
  induction items generalizing dict with
  | nil =>
    constructor
    · intro mem
      exact .inr ⟨mem, List.not_mem_nil⟩
    · rintro (⟨before, after, split, _⟩ | ⟨mem, _⟩)
      · cases before <;> cases split
      · exact mem
  | cons item items ih =>
    obtain ⟨key, value⟩ := item
    show entry ∈ update (assign key value dict) items ↔ _
    rw [ih (nodup_assign distinct), mem_assign distinct, lastOf_cons, List.map_cons, List.mem_cons, not_or, or_assoc]
    refine or_congr_right ⟨?_, ?_⟩
    · rintro ⟨rfl | ⟨mem, ne⟩, others⟩
      · exact .inl ⟨rfl, others⟩
      · exact .inr ⟨mem, ne, others⟩
    · rintro (⟨rfl, others⟩ | ⟨mem, ne, others⟩)
      · exact ⟨.inl rfl, others⟩
      · exact ⟨.inr ⟨mem, ne⟩, others⟩

omit [DecidableEq κ] in
/-- Where keys are different, every entry is the last one with its key. -/
theorem lastOf_iff (distinct : (items.map Prod.fst).Nodup) : LastOf items entry ↔ entry ∈ items := by
  constructor
  · rintro ⟨before, after, rfl, _⟩
    exact List.mem_append_right _ List.mem_cons_self
  · intro mem
    obtain ⟨before, after, rfl⟩ := List.append_of_mem mem
    refine ⟨before, after, rfl, ?_⟩
    rw [List.map_append, List.map_cons] at distinct
    exact (List.nodup_cons.mp (List.Nodup.of_append_right distinct)).1

/-- An entry is the value of its key. -/
theorem lookup_of_mem (distinct : (dict.map Prod.fst).Nodup) (mem : (key, value) ∈ dict) :
    dict.lookup key = some value := by
  induction dict with
  | nil => cases mem
  | cons first dict ih =>
    obtain ⟨new, distinct⟩ := List.nodup_cons.mp distinct
    rcases List.mem_cons.mp mem with rfl | mem
    · exact List.lookup_cons_self
    · have ne : key ≠ first.1 := fun same => new (List.mem_map.mpr ⟨_, mem, same⟩)
      rw [List.lookup_cons, beq_false_of_ne ne]
      exact ih distinct mem

/-! ## Computed entries -/

variable {β : Type w}

/-- The result for a list, one for each member. -/
theorem mapM_eq_some_iff {f : α → Option β} {xs : List α} {ys : List β} :
    xs.mapM f = some ys ↔ List.Forall₂ (fun x y => f x = some y) xs ys := by
  induction xs generalizing ys with
  | nil =>
    rw [List.mapM_nil, List.forall₂_nil_left_iff]
    exact ⟨fun done => (Option.some.inj done).symm, fun empty => congrArg some empty.symm⟩
  | cons x xs ih =>
    rw [List.mapM_cons, List.forall₂_cons_left_iff]
    constructor
    · intro done
      obtain ⟨y, first, done⟩ := Option.bind_eq_some_iff.mp done
      obtain ⟨ys', rest, done⟩ := Option.bind_eq_some_iff.mp done
      cases done
      exact ⟨y, ys', first, ih.mp rest, rfl⟩
    · rintro ⟨y, ys', first, rest, rfl⟩
      rw [first, ih.mpr rest]
      rfl

/-- There is a result for a list where there is one for each member. -/
theorem mapM_isSome_iff {f : α → Option β} {xs : List α} :
    (xs.mapM f).isSome = true ↔ ∀ x ∈ xs, (f x).isSome = true := by
  induction xs with
  | nil => simp
  | cons x xs ih =>
    rw [List.mapM_cons, List.forall_mem_cons, ← ih]
    cases f x <;> cases xs.mapM f <;> simp

section

omit [DecidableEq κ]

variable {R : κ × α → κ × β → Prop} {xs : List (κ × α)} {ys : List (κ × β)}

theorem keys_of_forall₂ (keys : ∀ x y, R x y → x.1 = y.1) (related : List.Forall₂ R xs ys) :
    xs.map Prod.fst = ys.map Prod.fst := by
  induction related with
  | nil => rfl
  | cons head _ ih => exact congrArg₂ List.cons (keys _ _ head) ih

/-- Where the entries of two lists have the same keys, so have the last ones. -/
theorem LastOf.of_forall₂ (keys : ∀ x y, R x y → x.1 = y.1) (related : List.Forall₂ R xs ys) {x : κ × α}
    (last : LastOf xs x) : ∃ y, LastOf ys y ∧ R x y := by
  induction related with
  | nil =>
    obtain ⟨before, after, split, _⟩ := last
    cases before <;> cases split
  | @cons first first' rest rest' head tail ih =>
    rcases lastOf_cons.mp last with last | ⟨rfl, new⟩
    · obtain ⟨y, last, its⟩ := ih last
      exact ⟨y, lastOf_cons.mpr (.inl last), its⟩
    · refine ⟨first', lastOf_cons.mpr (.inr ⟨rfl, ?_⟩), head⟩
      rw [← keys_of_forall₂ keys tail, ← keys _ _ head]
      exact new

end

end Dict
