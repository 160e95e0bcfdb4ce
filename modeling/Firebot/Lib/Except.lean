/-!
# Computations that raise

A `do` block in `Except` that ends in a value has passed each of its steps. `Except.bind_eq_ok` takes
such a block apart, one step at a time. `Except.Passes` says of a computation only that it ends in a value,
`Except.RaisesOnly` that whatever it raises is of a kind.
-/

universe u v

namespace Except

variable {ε : Type u} {α β : Type v}

/-- A sequence ends in a value exactly if its first part does and the rest does on that part's value. -/
theorem bind_eq_ok {x : Except ε α} {f : α → Except ε β} {b : β} :
    (x >>= f) = .ok b ↔ ∃ a, x = .ok a ∧ f a = .ok b := by
  cases x <;> simp [bind, Except.bind]

theorem ok_bind (a : α) (f : α → Except ε β) : (Except.ok a >>= f) = f a := rfl

theorem error_bind (e : ε) (f : α → Except ε β) : (Except.error e >>= f) = .error e := rfl

theorem toOption_eq_some {x : Except ε α} {a : α} : x.toOption = some a ↔ x = .ok a := by
  cases x with
  | error e => simp [Except.toOption]
  | ok b => simp [Except.toOption]

/-- The computation ends in a value. -/
def Passes (x : Except ε α) : Prop := ∃ a, x = .ok a

theorem passes_ok (a : α) : (Except.ok a : Except ε α).Passes := ⟨a, rfl⟩

theorem not_passes_error (e : ε) : ¬ (Except.error e : Except ε α).Passes := by
  rintro ⟨a, same⟩
  cases same

/-- A sequence passes exactly if its first part does and the rest does on that part's value. -/
theorem passes_bind {x : Except ε α} {f : α → Except ε β} :
    (x >>= f).Passes ↔ ∃ a, x = .ok a ∧ (f a).Passes := by
  unfold Passes
  simp only [bind_eq_ok]
  constructor
  · rintro ⟨b, a, first, rest⟩
    exact ⟨a, first, b, rest⟩
  · rintro ⟨a, first, b, rest⟩
    exact ⟨b, a, first, rest⟩

/-- Whatever the computation raises is of a kind. -/
def RaisesOnly (x : Except ε α) (p : ε → Bool) : Prop := ∀ e, x = .error e → p e = true

theorem raisesOnly_ok (a : α) (p : ε → Bool) : (Except.ok a).RaisesOnly p := by
  rintro e ⟨⟩

theorem raisesOnly_error {e : ε} {p : ε → Bool} :
    (Except.error e : Except ε α).RaisesOnly p ↔ p e = true := by
  constructor
  · intro only
    exact only e rfl
  · rintro holds e' ⟨⟩
    exact holds

/-- A sequence raises only what its first part and, on that part's value, the rest does. -/
theorem raisesOnly_bind {x : Except ε α} {f : α → Except ε β} {p : ε → Bool} :
    (x >>= f).RaisesOnly p ↔ x.RaisesOnly p ∧ ∀ a, x = .ok a → (f a).RaisesOnly p := by
  cases x with
  | error e =>
    rw [error_bind, raisesOnly_error, raisesOnly_error]
    exact ⟨fun holds => ⟨holds, fun a same => by cases same⟩, And.left⟩
  | ok a =>
    rw [ok_bind]
    constructor
    · intro only
      refine ⟨raisesOnly_ok a p, ?_⟩
      rintro a' ⟨⟩
      exact only
    · rintro ⟨_, only⟩
      exact only a rfl

end Except
