import Mathlib.Data.Rat.Defs

/-!
# JSON values, with arrays and objects

What `json.loads` makes of a text: integers and floats are told apart, and `NaN`, `Infinity` and numbers
too large for a float are read as well. An object is a list of fields of which the first with a name
counts. A text may have surrogates of its own (`"\ud800"`), and then no UTF-8 encodes it.

`get`, `set`, `erase` and `update` are the operations of a dictionary, `depth` is the nesting, and `encodes`
says that every text in it can be written. Nothing is said of the texts that `json.loads` accepts.
-/

/-- A decoded text: of characters, or of code points with a lone surrogate among them. -/
inductive JsonText where
  | chars (s : String)
  | surrogates (points : List Nat)
  deriving DecidableEq

namespace JsonText

instance : Coe String JsonText := ⟨chars⟩

/-- The text as characters, where it has no surrogates. -/
def plain : JsonText → Option String
  | chars s => some s
  | surrogates _ => none

/-- `len(text)`. -/
def length : JsonText → Nat
  | chars s => s.length
  | surrogates points => points.length

end JsonText

/-- A decoded JSON value. -/
inductive JsonTree where
  | null
  | bool (b : Bool)
  | int (n : Int)
  | real (q : ℚ)
  | inf (negative : Bool)
  | nan
  | str (s : JsonText)
  | arr (items : List JsonTree)
  | obj (fields : List (JsonText × JsonTree))

namespace JsonTree

/-! ## Equality -/

mutual

/-- The values are the same. -/
def same : JsonTree → JsonTree → Bool
  | .null, .null | .nan, .nan => true
  | .bool a, .bool b => a = b
  | .int a, .int b => a = b
  | .real a, .real b => a = b
  | .inf a, .inf b => a = b
  | .str a, .str b => a = b
  | .arr a, .arr b => sameItems a b
  | .obj a, .obj b => sameFields a b
  | _, _ => false

/-- The items are the same. -/
def sameItems : List JsonTree → List JsonTree → Bool
  | [], [] => true
  | a :: as, b :: bs => same a b && sameItems as bs
  | _, _ => false

/-- The fields are the same, in the same order. -/
def sameFields : List (JsonText × JsonTree) → List (JsonText × JsonTree) → Bool
  | [], [] => true
  | (name, a) :: as, (name', b) :: bs => name = name' && same a b && sameFields as bs
  | _, _ => false

end

mutual

theorem same_iff : ∀ a b : JsonTree, a.same b = true ↔ a = b
  | .arr as, b => by cases b <;> simp [same, sameItems_iff as]
  | .obj as, b => by cases b <;> simp [same, sameFields_iff as]
  | .null, b => by cases b <;> simp [same]
  | .bool a, b => by cases b <;> simp [same]
  | .int a, b => by cases b <;> simp [same]
  | .real a, b => by cases b <;> simp [same]
  | .inf a, b => by cases b <;> simp [same]
  | .nan, b => by cases b <;> simp [same]
  | .str a, b => by cases b <;> simp [same]

theorem sameItems_iff : ∀ as bs : List JsonTree, sameItems as bs = true ↔ as = bs
  | [], bs => by cases bs <;> simp [sameItems]
  | a :: as, bs => by cases bs <;> simp [sameItems, same_iff a, sameItems_iff as]

theorem sameFields_iff : ∀ as bs : List (JsonText × JsonTree), sameFields as bs = true ↔ as = bs
  | [], bs => by cases bs <;> simp [sameFields]
  | (name, a) :: as, bs => by
    cases bs <;> simp [sameFields, Prod.ext_iff, same_iff a, sameFields_iff as]

end

instance : DecidableEq JsonTree := fun a b => decidable_of_iff _ (same_iff a b)

/-! ## Shape -/

/-- `value is None`. -/
def isNull : JsonTree → Bool
  | .null => true
  | _ => false

/-- `isinstance(value, dict)`. -/
def isObject : JsonTree → Bool
  | .obj _ => true
  | _ => false

/-- The text that the value is. -/
def asText : JsonTree → Option JsonText
  | .str s => some s
  | _ => none

/-- `value == text`. -/
def isText (value : JsonTree) (s : String) : Bool := value.asText = some (.chars s)

/-- The value is the text. -/
theorem isText_iff {value : JsonTree} {s : String} :
    value.isText s = true ↔ value = .str (.chars s) := by
  cases value <;> simp [isText, asText]

/-- Python's `bool(value)`. -/
def truthy : JsonTree → Bool
  | .null => false
  | .bool b => b
  | .int n => n != 0
  | .real q => q != 0
  | .inf _ => true
  | .nan => true
  | .str s => s ≠ .chars ""
  | .arr items => !items.isEmpty
  | .obj fields => !fields.isEmpty

mutual

/-- How deep containers nest below a depth. -/
def depth (d : Nat) : JsonTree → Nat
  | .arr items => depthItems d items
  | .obj fields => depthFields d fields
  | .null | .bool _ | .int _ | .real _ | .inf _ | .nan | .str _ => d

/-- The greatest depth of the items of an array at depth `d`. -/
def depthItems (d : Nat) : List JsonTree → Nat
  | [] => d
  | item :: items => max (depth (d + 1) item) (depthItems d items)

/-- The greatest depth of the fields of an object at depth `d`. -/
def depthFields (d : Nat) : List (JsonText × JsonTree) → Nat
  | [] => d
  | (_, value) :: fields => max (depth (d + 1) value) (depthFields d fields)

end

/-- An object nests no deeper than its fields do. -/
theorem depthFields_le {d bound : Nat} {fields : List (JsonText × JsonTree)} (here : d ≤ bound)
    (below : ∀ field ∈ fields, field.2.depth (d + 1) ≤ bound) : depthFields d fields ≤ bound := by
  induction fields with
  | nil => exact here
  | cons field fields ih =>
    rw [depthFields]
    exact Nat.max_le.mpr ⟨below field List.mem_cons_self, ih fun other mem => below other (List.mem_cons_of_mem _ mem)⟩

mutual

/-- Every text in the value can be written in UTF-8. -/
def encodes : JsonTree → Bool
  | .str s => s.plain.isSome
  | .arr items => encodesItems items
  | .obj fields => encodesFields fields
  | .null | .bool _ | .int _ | .real _ | .inf _ | .nan => true

/-- Every text in the items can be written. -/
def encodesItems : List JsonTree → Bool
  | [] => true
  | item :: items => encodes item && encodesItems items

/-- Every text in the fields can be written. -/
def encodesFields : List (JsonText × JsonTree) → Bool
  | [] => true
  | (name, value) :: fields => name.plain.isSome && encodes value && encodesFields fields

end

/-! ## Fields -/

/-- `value.get(name)`; `none` where there is no such field. -/
def get (name : JsonText) : JsonTree → Option JsonTree
  | .obj fields => fields.lookup name
  | _ => none

/-- `value.get(name)`, with `None` for a field that is absent. -/
def getD (value : JsonTree) (name : JsonText) : JsonTree := (value.get name).getD .null

/-- The fields with one of them set. -/
def assign (name : JsonText) (value : JsonTree) : List (JsonText × JsonTree) → List (JsonText × JsonTree)
  | [] => [(name, value)]
  | (other, old) :: fields =>
    if other = name then (name, value) :: fields else (other, old) :: assign name value fields

/-- `object[name] = value`. -/
def set : JsonTree → JsonText → JsonTree → JsonTree
  | .obj fields, name, value => .obj (assign name value fields)
  | other, _, _ => other

/-- `object.pop(name, None)`. -/
def erase (name : JsonText) : JsonTree → JsonTree
  | .obj fields => .obj (fields.filter fun f => f.1 ≠ name)
  | other => other

/-- `object.update(fields)`. -/
def update (value : JsonTree) (fields : List (JsonText × JsonTree)) : JsonTree :=
  fields.foldl (fun value f => value.set f.1 f.2) value

theorem lookup_cons_of_ne {name other : JsonText} (ne : other ≠ name) (value : JsonTree)
    (fields : List (JsonText × JsonTree)) :
    ((name, value) :: fields).lookup other = fields.lookup other := by
  rw [List.lookup_cons, beq_false_of_ne ne]

/-- An assigned field has its value. -/
theorem lookup_assign_self (name : JsonText) (value : JsonTree) (fields : List (JsonText × JsonTree)) :
    (assign name value fields).lookup name = some value := by
  induction fields with
  | nil => exact List.lookup_cons_self
  | cons f fields ih =>
    obtain ⟨other, old⟩ := f
    unfold assign
    by_cases same : other = name
    · rw [if_pos same]
      exact List.lookup_cons_self
    · rw [if_neg same, lookup_cons_of_ne (Ne.symm same), ih]

/-- The others keep theirs. -/
theorem lookup_assign_of_ne {name other : JsonText} (ne : other ≠ name) (value : JsonTree)
    (fields : List (JsonText × JsonTree)) :
    (assign name value fields).lookup other = fields.lookup other := by
  induction fields with
  | nil => exact lookup_cons_of_ne ne value []
  | cons f fields ih =>
    obtain ⟨first, old⟩ := f
    unfold assign
    by_cases same : first = name
    · subst same
      rw [if_pos rfl, lookup_cons_of_ne ne, lookup_cons_of_ne ne]
    · rw [if_neg same, List.lookup_cons, List.lookup_cons, ih]

@[simp] theorem isObject_set (name : JsonText) (value t : JsonTree) :
    (t.set name value).isObject = t.isObject := by
  cases t <;> rfl

@[simp] theorem isObject_erase (name : JsonText) (t : JsonTree) :
    (t.erase name).isObject = t.isObject := by
  cases t <;> rfl

/-- A field that is set has the value. -/
theorem get_set_self {t : JsonTree} (object : t.isObject = true) (name : JsonText)
    (value : JsonTree) : (t.set name value).get name = some value := by
  cases t with
  | obj fields => exact lookup_assign_self name value fields
  | _ => cases object

/-- The others keep theirs. -/
theorem get_set_of_ne {name other : JsonText} (ne : other ≠ name) (value t : JsonTree) :
    (t.set name value).get other = t.get other := by
  cases t with
  | obj fields => exact lookup_assign_of_ne ne value fields
  | _ => rfl

/-- An erased field leaves the others. -/
theorem get_erase_of_ne {name other : JsonText} (ne : other ≠ name) (t : JsonTree) :
    (t.erase name).get other = t.get other := by
  cases t with
  | obj fields =>
    show List.lookup other (fields.filter _) = List.lookup other fields
    induction fields with
    | nil => rfl
    | cons f fields ih =>
      obtain ⟨first, value⟩ := f
      by_cases same : first = name
      · rw [List.filter_cons_of_neg (by simpa using same), ih, lookup_cons_of_ne (same ▸ ne)]
      · rw [List.filter_cons_of_pos (by simpa using same), List.lookup_cons, List.lookup_cons, ih]
  | _ => rfl

/-- And is gone. -/
theorem get_erase_self (name : JsonText) (t : JsonTree) : (t.erase name).get name = none := by
  cases t with
  | obj fields =>
    show List.lookup name (fields.filter _) = none
    induction fields with
    | nil => rfl
    | cons f fields ih =>
      obtain ⟨first, value⟩ := f
      by_cases same : first = name
      · rw [List.filter_cons_of_neg (by simpa using same), ih]
      · rw [List.filter_cons_of_pos (by simpa using same), lookup_cons_of_ne (Ne.symm same), ih]
  | _ => rfl

/-- A field that an update does not name. -/
theorem get_update_of_notMem {name : JsonText} {fields : List (JsonText × JsonTree)}
    (absent : name ∉ fields.map Prod.fst) (t : JsonTree) :
    (t.update fields).get name = t.get name := by
  induction fields generalizing t with
  | nil => rfl
  | cons f fields ih =>
    rw [List.map_cons, List.mem_cons, not_or] at absent
    show ((t.set f.1 f.2).update fields).get name = _
    rw [ih absent.2, get_set_of_ne absent.1]

/-- The fields after an update: those that it names, and the others as they were. -/
theorem get_update {t : JsonTree} (object : t.isObject = true) (fields : List (JsonText × JsonTree))
    (name : JsonText) :
    (t.update fields).get name = (((JsonTree.obj []).update fields).get name).or (t.get name) := by
  induction fields generalizing t with
  | nil => rfl
  | cons f fields ih =>
    show ((t.set f.1 f.2).update fields).get name =
      ((((JsonTree.obj []).set f.1 f.2).update fields).get name).or (t.get name)
    rw [ih ((isObject_set ..).trans object), ih (t := (JsonTree.obj []).set f.1 f.2) rfl, Option.or_assoc]
    congr 1
    by_cases same : name = f.1
    · subst same
      rw [get_set_self object, get_set_self rfl]
      rfl
    · rw [get_set_of_ne same, get_set_of_ne same]
      rfl

/-- Two updates are one. -/
theorem update_append (t : JsonTree) (first second : List (JsonText × JsonTree)) :
    t.update (first ++ second) = (t.update first).update second := List.foldl_append

/-! ## Texts -/

/-- Fields can be written if every name and every value can. -/
theorem encodesFields_iff {fields : List (JsonText × JsonTree)} :
    encodesFields fields = true ↔
      ∀ f ∈ fields, f.1.plain.isSome = true ∧ f.2.encodes = true := by
  induction fields with
  | nil => simp [encodesFields]
  | cons f fields ih => simp [encodesFields, ih, and_assoc]

/-- So can an object. -/
theorem encodes_obj {fields : List (JsonText × JsonTree)} :
    (obj fields).encodes = true ↔
      ∀ f ∈ fields, f.1.plain.isSome = true ∧ f.2.encodes = true := encodesFields_iff

/-- A field after an assignment is the new one, or was there. -/
theorem mem_assign {name : JsonText} {value : JsonTree} {fields : List (JsonText × JsonTree)}
    {f : JsonText × JsonTree} (mem : f ∈ assign name value fields) :
    f = (name, value) ∨ f ∈ fields := by
  induction fields with
  | nil => exact .inl (List.mem_singleton.mp mem)
  | cons first fields ih =>
    obtain ⟨other, old⟩ := first
    unfold assign at mem
    split at mem
    · rcases List.mem_cons.mp mem with same | mem
      · exact .inl same
      · exact .inr (List.mem_cons_of_mem _ mem)
    · rcases List.mem_cons.mp mem with same | mem
      · exact .inr (List.mem_cons.mpr (.inl same))
      · exact (ih mem).imp_right (List.mem_cons_of_mem _)

/-- A value that encodes, with a field that does. -/
theorem encodes_set {t value : JsonTree} {name : JsonText} (h : t.encodes = true)
    (named : name.plain.isSome = true) (encodes : value.encodes = true) :
    (t.set name value).encodes = true := by
  cases t with
  | obj fields =>
    refine encodes_obj.mpr fun f mem => ?_
    rcases mem_assign mem with rfl | mem
    · exact ⟨named, encodes⟩
    · exact encodes_obj.mp h f mem
  | _ => exact h

/-- What can be written can be written without a field. -/
theorem encodes_erase {t : JsonTree} (h : t.encodes = true) (name : JsonText) :
    (t.erase name).encodes = true := by
  cases t with
  | obj fields =>
    refine encodes_obj.mpr fun f mem => ?_
    exact encodes_obj.mp h f (List.mem_filter.mp mem).1
  | _ => exact h

/-- A field of an update that names no field twice. -/
theorem get_update_of_mem {t : JsonTree} (object : t.isObject = true)
    {fields : List (JsonText × JsonTree)} (distinct : (fields.map Prod.fst).Nodup)
    {f : JsonText × JsonTree} (mem : f ∈ fields) : (t.update fields).get f.1 = some f.2 := by
  induction fields generalizing t with
  | nil => cases mem
  | cons first fields ih =>
    obtain ⟨new, distinct⟩ := List.nodup_cons.mp distinct
    show ((t.set first.1 first.2).update fields).get f.1 = _
    rcases List.mem_cons.mp mem with rfl | mem
    · rw [get_update_of_notMem new]
      exact get_set_self object _ _
    · exact ih ((isObject_set ..).trans object) distinct mem

end JsonTree
