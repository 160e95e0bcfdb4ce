import Firebot.Trace.FieldTrace

/-!
# What is sanitized, and what can be written

`sanitize` does not raise where the keys have texts and the values that are not replaced do not nest too deep
(`sanitize_isSome_iff`), and no value under a secret key is left (`noSecret_sanitize`). Whether `json.dumps` can write
what it returns depends on the values that are left: of a dictionary those under the last key with a text, where it
is not secret (`writable_iff`).
-/

namespace Firebot.Trace

open Dict

variable {ω : Type} (lib : Library ω)

/-! ## Conditions on values -/

/-- `sanitize` comes through a value. -/
def Sanitizable : Nat → Raw ω → Prop
  | 0, _ => False
  | room + 1, .dict items =>
    ∀ item ∈ items, ∃ key, item.1.str lib = some key ∧ (isSecretKey lib key = true ∨ Sanitizable room item.2)
  | room + 1, .list items => ∀ item ∈ items, Sanitizable room item
  | room + 1, .tuple items => ∀ item ∈ items, Sanitizable room item
  | _ + 1, .int _ | _ + 1, .float _ | _ + 1, .str _ | _ + 1, .other _ => True

/-- The entries of a dictionary under the texts of their keys. -/
def texted {κ : Type} (str : κ → Option JsonText) (items : List (κ × Raw ω)) : List (JsonText × Raw ω) :=
  items.filterMap fun item => (str item.1).map (·, item.2)

/-- `json.dumps` can write what is left of a value. -/
def Serializable : Nat → Raw ω → Prop
  | _, .int _ | _, .float _ | _, .str _ => True
  | _, .other object => lib.serializes object = true
  | 0, .list _ | 0, .tuple _ | 0, .dict _ => False
  | room + 1, .list items => ∀ item ∈ items, Serializable room item
  | room + 1, .tuple items => ∀ item ∈ items, Serializable room item
  | room + 1, .dict items =>
    ∀ entry, LastOf (texted (Key.str lib) items) entry → isSecretKey lib entry.1 = false → Serializable room entry.2

/-- No value under a secret key is left. -/
inductive NoSecret : Clean ω → Prop where
  | int (n : Int) : NoSecret (.int n)
  | float (q : ℚ) : NoSecret (.float q)
  | str (s : JsonText) : NoSecret (.str s)
  | other (object : ω) : NoSecret (.other object)
  | list {items : List (Clean ω)} (inner : ∀ item ∈ items, NoSecret item) : NoSecret (.list items)
  | tuple {items : List (Clean ω)} (inner : ∀ item ∈ items, NoSecret item) : NoSecret (.tuple items)
  | dict {items : List (JsonText × Clean ω)} (replaced : ∀ item ∈ items, isSecretKey lib item.1 = true → item.2 = redacted)
      (inner : ∀ item ∈ items, NoSecret item.2) : NoSecret (.dict items)

/-! ## Dictionaries -/

section

variable {lib} {κ : Type} {str : κ → Option JsonText} {inner : Raw ω → Option (Clean ω)} {items : List (κ × Raw ω)}
  {out : List (JsonText × Clean ω)} {item : κ × Raw ω} {entry : JsonText × Clean ω}

theorem sanitizeItem_eq_some : sanitizeItem lib str inner item = some entry ↔
    str item.1 = some entry.1 ∧ (if isSecretKey lib entry.1 then some redacted else inner item.2) = some entry.2 := by
  unfold sanitizeItem
  cases str item.1 with
  | none => exact iff_of_false (fun done => nomatch done) fun h => nomatch h.1
  | some key =>
    show Option.map (Prod.mk key) _ = _ ↔ _
    rw [Option.map_eq_some_iff]
    constructor
    · rintro ⟨value, computed, rfl⟩
      exact ⟨rfl, computed⟩
    · rintro ⟨named, computed⟩
      cases named
      exact ⟨entry.2, computed, rfl⟩

theorem sanitizeItem_isSome_iff : (sanitizeItem lib str inner item).isSome = true ↔
    ∃ key, str item.1 = some key ∧ (isSecretKey lib key = true ∨ (inner item.2).isSome = true) := by
  rw [Option.isSome_iff_exists]
  constructor
  · rintro ⟨entry, done⟩
    obtain ⟨named, computed⟩ := sanitizeItem_eq_some.mp done
    refine ⟨entry.1, named, ?_⟩
    split at computed
    · next secret => exact .inl secret
    · rw [computed]
      exact .inr rfl
  · rintro ⟨key, named, shown⟩
    by_cases secret : isSecretKey lib key = true
    · exact ⟨(key, redacted), sanitizeItem_eq_some.mpr ⟨named, if_pos secret⟩⟩
    · obtain ⟨value, computed⟩ := Option.isSome_iff_exists.mp (shown.resolve_left secret)
      exact ⟨(key, value), sanitizeItem_eq_some.mpr ⟨named, (if_neg secret).trans computed⟩⟩

theorem sanitizeItems_isSome_iff : (sanitizeItems lib str inner items).isSome = true ↔
    ∀ item ∈ items, ∃ key, str item.1 = some key ∧ (isSecretKey lib key = true ∨ (inner item.2).isSome = true) := by
  unfold sanitizeItems
  rw [Option.isSome_map, mapM_isSome_iff]
  exact forall₂_congr fun _ _ => sanitizeItem_isSome_iff

/-- What becomes of an entry under the text of its key. -/
def Becomes (lib : Library ω) (inner : Raw ω → Option (Clean ω)) (raw : JsonText × Raw ω) (entry : JsonText × Clean ω) :
    Prop :=
  raw.1 = entry.1 ∧ (if isSecretKey lib raw.1 then some redacted else inner raw.2) = some entry.2

theorem forall₂_sanitizeItem {pairs : List (JsonText × Clean ω)}
    (done : List.Forall₂ (fun item pair => sanitizeItem lib str inner item = some pair) items pairs) :
    List.Forall₂ (Becomes lib inner) (texted str items) pairs := by
  induction done with
  | nil => exact .nil
  | @cons item pair items pairs head _ ih =>
    obtain ⟨named, computed⟩ := sanitizeItem_eq_some.mp head
    have first : texted str (item :: items) = (pair.1, item.2) :: texted str items :=
      List.filterMap_cons_some (by rw [named]; rfl)
    rw [first]
    exact .cons ⟨rfl, computed⟩ ih

/-- The entries that are left are those under the last key with a text, sanitized. -/
theorem sanitizeItems_spec (done : sanitizeItems lib str inner items = some out) :
    (out.map Prod.fst).Nodup ∧
      (∀ entry ∈ out, ∃ raw, LastOf (texted str items) raw ∧ Becomes lib inner raw entry) ∧
      ∀ raw, LastOf (texted str items) raw → ∃ entry ∈ out, Becomes lib inner raw entry := by
  obtain ⟨pairs, found, rfl⟩ := Option.map_eq_some_iff.mp done
  have related := forall₂_sanitizeItem (mapM_eq_some_iff.mp found)
  have mem {entry : JsonText × Clean ω} : entry ∈ update [] pairs ↔ LastOf pairs entry := by
    refine (mem_update ?_).trans (or_iff_left fun h => absurd h.1 List.not_mem_nil)
    exact .nil
  refine ⟨nodup_update .nil, fun entry inside => ?_, fun raw last => ?_⟩
  · exact LastOf.of_forall₂ (fun _ _ h => h.1.symm) related.flip (mem.mp inside)
  · obtain ⟨entry, last, becomes⟩ := LastOf.of_forall₂ (fun _ _ h => h.1) related last
    exact ⟨entry, mem.mpr last, becomes⟩

end

/-! ## Values -/

theorem sanitize_isSome_iff (room : Nat) (value : Raw ω) :
    (sanitize lib room value).isSome = true ↔ Sanitizable lib room value := by
  induction room generalizing value with
  | zero => exact iff_of_false Bool.false_ne_true id
  | succ room ih =>
    cases value with
    | dict items =>
      unfold sanitize Sanitizable
      rw [Option.isSome_map, sanitizeItems_isSome_iff]
      simp only [ih]
    | list items =>
      unfold sanitize Sanitizable
      rw [Option.isSome_map, mapM_isSome_iff]
      exact forall₂_congr fun item _ => ih item
    | tuple items =>
      unfold sanitize Sanitizable
      rw [Option.isSome_map, mapM_isSome_iff]
      exact forall₂_congr fun item _ => ih item
    | _ => exact iff_of_true rfl trivial

variable {lib} {room : Nat} {value : Raw ω} {clean : Clean ω}

/-- Sanitized items of a list. -/
theorem forall_mapM {f : Raw ω → Option (Clean ω)} {items : List (Raw ω)} {out : List (Clean ω)}
    (done : items.mapM f = some out) {P : Clean ω → Prop} {Q : Raw ω → Prop} (same : ∀ x y, f x = some y → (P y ↔ Q x)) :
    (∀ y ∈ out, P y) ↔ ∀ x ∈ items, Q x := by
  rw [mapM_eq_some_iff] at done
  induction done with
  | nil => simp
  | cons head _ ih => rw [List.forall_mem_cons, List.forall_mem_cons, same _ _ head, ih]

/-- What is sanitized can be written exactly if what is left of the value can. -/
theorem writable_iff {encoderRoom : Nat} (done : sanitize lib room value = some clean) :
    writable lib encoderRoom clean = true ↔ Serializable lib encoderRoom value := by
  induction room generalizing value clean encoderRoom with
  | zero => cases done
  | succ room ih =>
    cases value with
    | dict items =>
      obtain ⟨out, sanitized, rfl⟩ := Option.map_eq_some_iff.mp done
      obtain ⟨_, from_raw, into⟩ := sanitizeItems_spec sanitized
      cases encoderRoom with
      | zero => exact iff_of_false Bool.false_ne_true id
      | succ encoderRoom =>
        unfold writable Serializable
        rw [List.all_eq_true]
        constructor
        · intro can raw last shown
          obtain ⟨entry, inside, _, computed⟩ := into raw last
          rw [if_neg (by rw [shown]; exact Bool.false_ne_true)] at computed
          exact (ih computed).mp (can entry inside)
        · intro can entry inside
          obtain ⟨raw, last, _, computed⟩ := from_raw entry inside
          split at computed
          · rw [← Option.some.inj computed]
            cases encoderRoom <;> rfl
          · next shown => exact (ih computed).mpr (can raw last (eq_false_of_ne_true shown))
    | list items =>
      obtain ⟨out, sanitized, rfl⟩ := Option.map_eq_some_iff.mp done
      cases encoderRoom with
      | zero => exact iff_of_false Bool.false_ne_true id
      | succ encoderRoom =>
        unfold writable Serializable
        rw [List.all_eq_true]
        exact forall_mapM sanitized fun _ _ computed => ih computed
    | tuple items =>
      obtain ⟨out, sanitized, rfl⟩ := Option.map_eq_some_iff.mp done
      cases encoderRoom with
      | zero => exact iff_of_false Bool.false_ne_true id
      | succ encoderRoom =>
        unfold writable Serializable
        rw [List.all_eq_true]
        exact forall_mapM sanitized fun _ _ computed => ih computed
    | other object =>
      cases done
      cases encoderRoom <;> exact Iff.rfl
    | _ =>
      cases done
      cases encoderRoom <;> exact iff_of_true rfl trivial

/-- Entries that are sanitized, of values that are. -/
theorem noSecret_items {κ : Type} {str : κ → Option JsonText} {inner : Raw ω → Option (Clean ω)}
    {items : List (κ × Raw ω)} {out : List (JsonText × Clean ω)} (done : sanitizeItems lib str inner items = some out)
    (values : ∀ raw clean, inner raw = some clean → NoSecret lib clean) : NoSecret lib (.dict out) := by
  obtain ⟨_, from_raw, _⟩ := sanitizeItems_spec done
  refine .dict (fun entry inside secret => ?_) fun entry inside => ?_
  · obtain ⟨raw, _, same, computed⟩ := from_raw entry inside
    rw [same, if_pos secret] at computed
    exact (Option.some.inj computed).symm
  · obtain ⟨raw, _, _, computed⟩ := from_raw entry inside
    split at computed
    · rw [← Option.some.inj computed]
      exact .str _
    · exact values _ _ computed

/-- `sanitize` leaves no value under a secret key. -/
theorem noSecret_sanitize (done : sanitize lib room value = some clean) : NoSecret lib clean := by
  induction room generalizing value clean with
  | zero => cases done
  | succ room ih =>
    have all {items : List (Raw ω)} {out : List (Clean ω)} (sanitized : items.mapM (sanitize lib room) = some out) :
        ∀ item ∈ out, NoSecret lib item :=
      (forall_mapM sanitized (Q := fun _ => True) fun _ _ computed => iff_of_true (ih computed) trivial).mpr
        fun _ _ => trivial
    cases value with
    | dict items =>
      obtain ⟨out, sanitized, rfl⟩ := Option.map_eq_some_iff.mp done
      exact noSecret_items sanitized fun _ _ computed => ih computed
    | list items =>
      obtain ⟨out, sanitized, rfl⟩ := Option.map_eq_some_iff.mp done
      exact .list (all sanitized)
    | tuple items =>
      obtain ⟨out, sanitized, rfl⟩ := Option.map_eq_some_iff.mp done
      exact .list (all sanitized)
    | int n =>
      cases done
      exact .int n
    | float q =>
      cases done
      exact .float q
    | str s =>
      cases done
      exact .str s
    | other object =>
      cases done
      exact .other object

end Firebot.Trace
