import Mathlib.Data.List.Nodup
import Firebot.Lib.JsonTree

/-!
# JSON Schema

The keywords of draft 2020-12 that a message format is written with, and when a value is valid. A keyword
says something about values of one kind and accepts every other value; a schema with several keywords is
their `allOf`.

The rules are those of a validator on Python values: `1.0` is an integer, a Boolean is no number, and a
range is checked with `<`, which is false wherever NaN is compared.

Where every alternative of a `oneOf` asks for a text of its own in one field (`Discriminated`), the
alternatives exclude each other, and a value is valid exactly if it is for the alternative it names.
-/

/-- `type`. -/
inductive JsonKind where
  | null
  | boolean
  | integer
  | number
  | string
  | array
  | object
  deriving DecidableEq, Repr

namespace JsonKind

/-- The value is of the kind. -/
def holds : JsonKind → JsonTree → Bool
  | null, .null => true
  | boolean, .bool _ => true
  | integer, .int _ => true
  | integer, .real q => q.isInt
  | number, .int _ | number, .real _ | number, .inf _ | number, .nan => true
  | string, .str _ => true
  | array, .arr _ => true
  | object, .obj _ => true
  | _, _ => false

end JsonKind

/-- A schema. -/
inductive JsonSchema where
  | kinds (ks : List JsonKind)
  | const (text : String)
  | enum (nullable : Bool) (texts : List String)
  | minimum (bound : ℚ)
  | maximum (bound : ℚ)
  | minLength (bound : Nat)
  | maxLength (bound : Nat)
  | pattern (holds : JsonText → Bool)
  | format (holds : JsonText → Bool)
  | required (names : List String)
  | property (name : String) (schema : JsonSchema)
  | closed (names : List String)
  | items (schema : JsonSchema)
  | uniqueTexts
  | allOf (schemas : List JsonSchema)
  | anyOf (schemas : List JsonSchema)
  | oneOf (schemas : List JsonSchema)
  | conditional (test yes no : JsonSchema)

namespace JsonSchema

/-- The value is not below the bound. -/
def notBelow (bound : ℚ) : JsonTree → Bool
  | .int n => bound ≤ n
  | .real q => bound ≤ q
  | .inf negative => !negative
  | _ => true

/-- The value is not above the bound. -/
def notAbove (bound : ℚ) : JsonTree → Bool
  | .int n => n ≤ bound
  | .real q => q ≤ bound
  | .inf negative => negative
  | _ => true

/-- What a keyword about texts says of a value. -/
def ofText (p : JsonText → Bool) : JsonTree → Bool
  | .str s => p s
  | _ => true

/-- What a keyword about objects says of a value. -/
def ofObject (p : List (JsonText × JsonTree) → Bool) : JsonTree → Bool
  | .obj fields => p fields
  | _ => true

mutual

/-- The value is valid. -/
def valid : JsonSchema → JsonTree → Bool
  | kinds ks, t => ks.any (·.holds t)
  | const text, t => t.isText text
  | enum nullable texts, t => (nullable && t.isNull) || texts.any t.isText
  | minimum bound, t => notBelow bound t
  | maximum bound, t => notAbove bound t
  | minLength bound, t => ofText (bound ≤ ·.length) t
  | maxLength bound, t => ofText (·.length ≤ bound) t
  | pattern p, t => ofText p t
  | format p, t => ofText p t
  | required names, t => ofObject (fun fields => names.all fun n => (fields.lookup (.chars n)).isSome) t
  | property name schema, t =>
    match t.get name with
    | some value => valid schema value
    | none => true
  | closed names, t =>
    ofObject (fun fields => fields.all fun f => names.any fun n => f.1 = .chars n) t
  | items schema, t =>
    match t with
    | .arr values => values.all (valid schema)
    | _ => true
  | uniqueTexts, t =>
    match t with
    | .arr values => (values.filterMap JsonTree.asText).Nodup
    | _ => true
  | allOf schemas, t => validAll schemas t
  | anyOf schemas, t => 0 < validCount schemas t
  | oneOf schemas, t => validCount schemas t = 1
  | conditional test yes no, t => if valid test t then valid yes t else valid no t

/-- The value is valid for every schema. -/
def validAll : List JsonSchema → JsonTree → Bool
  | [], _ => true
  | schema :: schemas, t => valid schema t && validAll schemas t

/-- The number of schemas the value is valid for. -/
def validCount : List JsonSchema → JsonTree → Nat
  | [], _ => 0
  | schema :: schemas, t => (if valid schema t then 1 else 0) + validCount schemas t

end

/-- A schema for objects: the fields that have to be there, and what holds of those that are. -/
def object (names : List String) (properties : List (String × JsonSchema)) : JsonSchema :=
  allOf (kinds [.object] :: required names :: properties.map fun p => property p.1 p.2)

/-! ## Keyword by keyword -/

attribute [local simp] valid validAll validCount

theorem valid_allOf {schemas : List JsonSchema} {t : JsonTree} :
    (allOf schemas).valid t = true ↔ ∀ schema ∈ schemas, schema.valid t = true := by
  rw [valid]
  induction schemas with
  | nil => simp [validAll]
  | cons schema schemas ih => simp [validAll, ih]

theorem valid_property {name : String} {schema : JsonSchema} {t : JsonTree} :
    (property name schema).valid t = true ↔
      ∀ value, t.get name = some value → schema.valid value = true := by
  rw [valid]
  cases t.get name with
  | none => simp
  | some value => simp

theorem valid_kinds_object {t : JsonTree} :
    (kinds [.object]).valid t = true ↔ t.isObject = true := by
  cases t <;> simp [valid, JsonKind.holds, JsonTree.isObject]

theorem valid_required {names : List String} {t : JsonTree} (isObject : t.isObject = true) :
    (required names).valid t = true ↔ ∀ name ∈ names, (t.get name).isSome = true := by
  cases t with
  | obj fields => simp [valid, ofObject, JsonTree.get]
  | _ => cases isObject

/-- What a schema for objects asks for. -/
theorem valid_object {names : List String} {properties : List (String × JsonSchema)} {t : JsonTree} :
    (object names properties).valid t = true ↔
      t.isObject = true ∧ (∀ name ∈ names, (t.get name).isSome = true) ∧
        ∀ p ∈ properties, ∀ value, t.get p.1 = some value → p.2.valid value = true := by
  unfold object
  rw [valid_allOf]
  simp only [List.mem_cons, List.mem_map, forall_eq_or_imp, forall_exists_index, and_imp,
    forall_apply_eq_imp_iff₂, valid_kinds_object, valid_property]
  constructor
  · rintro ⟨isObject, present, typed⟩
    exact ⟨isObject, (valid_required isObject).mp present, typed⟩
  · rintro ⟨isObject, present, typed⟩
    exact ⟨isObject, (valid_required isObject).mpr present, typed⟩

/-- A required field is there and is as its property says. -/
theorem exists_field {names : List String} {properties : List (String × JsonSchema)} {t : JsonTree}
    (h : (object names properties).valid t = true) (name : String) (schema : JsonSchema)
    (present : name ∈ names) (typed : (name, schema) ∈ properties) :
    ∃ value, t.get name = some value ∧ schema.valid value = true := by
  obtain ⟨_, required, properties⟩ := valid_object.mp h
  obtain ⟨value, found⟩ := Option.isSome_iff_exists.mp (required name present)
  exact ⟨value, found, properties (name, schema) typed value found⟩

theorem valid_string {t : JsonTree} :
    (kinds [.string]).valid t = true ↔ ∃ s, t = .str s := by
  cases t <;> simp [valid, JsonKind.holds]

theorem valid_const {text : String} {t : JsonTree} :
    (const text).valid t = true ↔ t = .str text := by
  cases t <;> simp [valid, JsonTree.isText, JsonTree.asText]

/-- A closed object has no other fields. -/
theorem get_eq_none_of_closed {names : List String} {t : JsonTree} {name : String}
    (h : (closed names).valid t = true) (other : name ∉ names) : t.get name = none := by
  cases t with
  | obj fields =>
    rw [valid] at h
    cases found : (JsonTree.obj fields).get name with
    | none => rfl
    | some value =>
      obtain ⟨before, after, rfl, _⟩ := List.lookup_eq_some_iff.mp found
      have listed := List.all_eq_true.mp h (.chars name, value)
        (List.mem_append_right _ List.mem_cons_self)
      simp only [List.any_eq_true, decide_eq_true_eq, JsonText.chars.injEq] at listed
      obtain ⟨n, mem, rfl⟩ := listed
      exact absurd mem other
  | _ => rfl

/-! ## Alternatives -/

theorem exists_valid_of_count {schemas : List JsonSchema} {t : JsonTree}
    (some_valid : 0 < validCount schemas t) : ∃ schema ∈ schemas, schema.valid t = true := by
  induction schemas with
  | nil => exact absurd some_valid (Nat.lt_irrefl 0)
  | cons schema schemas ih =>
    by_cases first : schema.valid t = true
    · exact ⟨schema, List.mem_cons_self, first⟩
    · rw [validCount, if_neg first, Nat.zero_add] at some_valid
      obtain ⟨other, mem, holds⟩ := ih some_valid
      exact ⟨other, List.mem_cons_of_mem _ mem, holds⟩

theorem validCount_eq_zero {schemas : List JsonSchema} {t : JsonTree}
    (none_valid : ∀ schema ∈ schemas, ¬ schema.valid t = true) : validCount schemas t = 0 := by
  by_contra positive
  obtain ⟨schema, mem, holds⟩ := exists_valid_of_count (Nat.pos_of_ne_zero positive)
  exact none_valid schema mem holds

theorem validCount_append (before after : List JsonSchema) (t : JsonTree) :
    validCount (before ++ after) t = validCount before t + validCount after t := by
  induction before with
  | nil => simp [validCount]
  | cons schema before ih => rw [List.cons_append, validCount, validCount, ih, Nat.add_assoc]

/-- Alternatives with a tag each, of which a value that is valid carries its own in a field. -/
structure Discriminated (field : String) (alternatives : List (String × JsonSchema)) : Prop where
  distinct : (alternatives.map Prod.fst).Nodup
  carries : ∀ a ∈ alternatives, ∀ t, a.2.valid t = true → t.get field = some (.str a.1)

/-- A value is valid for one of the alternatives exactly if it is for the one it names. -/
theorem Discriminated.valid_oneOf {field : String} {alternatives : List (String × JsonSchema)}
    (d : Discriminated field alternatives) {t : JsonTree} :
    (oneOf (alternatives.map Prod.snd)).valid t = true ↔
      ∃ a ∈ alternatives, t.get field = some (.str a.1) ∧ a.2.valid t = true := by
  have count_iff : (oneOf (alternatives.map Prod.snd)).valid t = true ↔
      validCount (alternatives.map Prod.snd) t = 1 := by
    simp [valid]
  rw [count_iff]
  obtain ⟨distinct, carries⟩ := d
  constructor
  · intro one
    have positive : 0 < validCount (alternatives.map Prod.snd) t := by omega
    obtain ⟨schema, mem, holds⟩ := exists_valid_of_count positive
    obtain ⟨a, inside, rfl⟩ := List.mem_map.mp mem
    exact ⟨a, inside, carries a inside t holds, holds⟩
  · rintro ⟨a, mem, tag, holds⟩
    obtain ⟨before, after, rfl⟩ := List.append_of_mem mem
    have others : ∀ b ∈ before ++ after, ¬ b.2.valid t = true := by
      intro b inside valid_b
      have member : b ∈ before ++ a :: after := by
        rcases List.mem_append.mp inside with first | second
        · exact List.mem_append_left _ first
        · exact List.mem_append_right _ (List.mem_cons_of_mem _ second)
      have same := (carries b member t valid_b).symm.trans tag
      have tags : b.1 = a.1 := by simpa using same
      rw [List.map_append, List.map_cons, List.perm_middle.nodup_iff, List.nodup_cons] at distinct
      refine distinct.1 ?_
      rw [← tags, ← List.map_append]
      exact List.mem_map_of_mem inside
    have none_before : validCount (before.map Prod.snd) t = 0 := by
      refine validCount_eq_zero fun schema inside => ?_
      obtain ⟨b, mem_b, rfl⟩ := List.mem_map.mp inside
      exact others b (List.mem_append_left _ mem_b)
    have none_after : validCount (after.map Prod.snd) t = 0 := by
      refine validCount_eq_zero fun schema inside => ?_
      obtain ⟨b, mem_b, rfl⟩ := List.mem_map.mp inside
      exact others b (List.mem_append_right _ mem_b)
    rw [List.map_append, List.map_cons, validCount_append, none_before, validCount, if_pos holds,
      none_after]

end JsonSchema
