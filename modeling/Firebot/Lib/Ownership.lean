import Mathlib.Logic.Function.Basic
import Mathlib.Logic.ExistsUnique

/-!
# One exclusive token beside a table of open entries

A component keeps a table of open entries under keys; some entries own an exclusive token, and the
component keeps the token that is out in a cell of its own. The cell and the table are updated by
separate statements, so they can come apart. `Sound` is the correspondence between them: the cell
holds a token exactly when an entry owns one, and then that entry's.

`Act k` is what a handler of key `k` may do: enter an entry (one with a token only into an empty
cell, and never over an entry that owns a token), close the entry and return its token, or both in a
row. Every act keeps the correspondence (`Act.sound`), and an act on one key leaves the token of
another where it is (`Act.holder_of_ne`).
-/

namespace Ownership

universe u v

/-- The cell and the table: an entry is `some none` when it owns no token. -/
@[ext] structure Book (κ : Type u) (τ : Type v) where
  holder : Option τ
  entries : κ → Option (Option τ)

variable {κ : Type u} {τ : Type v}

namespace Book

/-- The key's entry owns the token. -/
def Owns (b : Book κ τ) (k : κ) (t : τ) : Prop := b.entries k = some (some t)

/-- The cell holds what the one owning entry owns. -/
structure Sound (b : Book κ τ) : Prop where
  held : ∀ k t, b.Owns k t → b.holder = some t
  owned : ∀ t, b.holder = some t → ∃ k, b.Owns k t
  unique : ∀ k k' t t', b.Owns k t → b.Owns k' t' → k = k'

/-- With nothing open and nothing held the two agree. -/
theorem Sound.empty : (⟨none, fun _ => none⟩ : Book κ τ).Sound where
  held _ _ owns := by cases owns
  owned _ holder := by cases holder
  unique _ _ _ _ owns := by cases owns

/-- The token is out exactly when one key owns it. -/
theorem Sound.holder_iff {b : Book κ τ} (sound : b.Sound) :
    b.holder ≠ none ↔ ∃! k, ∃ t, b.Owns k t := by
  constructor
  · intro out
    obtain ⟨t, ht⟩ := Option.ne_none_iff_exists'.mp out
    obtain ⟨k, owns⟩ := sound.owned t ht
    exact ⟨k, ⟨t, owns⟩, fun k' ⟨t', owns'⟩ => sound.unique k' k t' t owns' owns⟩
  · rintro ⟨k, ⟨t, owns⟩, _⟩
    rw [sound.held k t owns]
    exact Option.some_ne_none t

variable [DecidableEq κ]

/-- An entry is opened under a key. -/
def enter (b : Book κ τ) (k : κ) (token : Option τ) : Book κ τ where
  holder := token <|> b.holder
  entries := Function.update b.entries k (some token)

/-- The entry of a key is closed and its token returned. -/
def close (b : Book κ τ) (k : κ) : Book κ τ where
  holder := if (b.entries k).join.isSome then none else b.holder
  entries := Function.update b.entries k none

/-- An entry is written under a key and the cell is left alone. -/
def put (b : Book κ τ) (k : κ) (token : Option τ) : Book κ τ :=
  { b with entries := Function.update b.entries k (some token) }

theorem Owns.put_ne {b : Book κ τ} {k k' : κ} {token : Option τ} {t : τ} (ne : k' ≠ k) :
    (b.put k token).Owns k' t ↔ b.Owns k' t := by
  simp only [Owns, put, Function.update_of_ne ne]

/-- Closing one key and writing another commute. -/
theorem put_close {b : Book κ τ} {k k' : κ} {token : Option τ} (ne : k' ≠ k) :
    (b.close k').put k token = (b.put k token).close k' := by
  refine Book.ext ?_ ?_
  · simp only [put, close, Function.update_of_ne ne]
  · simp only [put, close]
    exact Function.update_comm ne none (some token) b.entries

theorem Owns.enter_ne {b : Book κ τ} {k k' : κ} {token : Option τ} {t : τ} (ne : k' ≠ k) :
    (b.enter k token).Owns k' t ↔ b.Owns k' t := by
  simp only [Owns, enter, Function.update_of_ne ne]

theorem Owns.close_ne {b : Book κ τ} {k k' : κ} {t : τ} (ne : k' ≠ k) :
    (b.close k).Owns k' t ↔ b.Owns k' t := by
  simp only [Owns, close, Function.update_of_ne ne]

theorem Owns.enter_self {b : Book κ τ} {k : κ} {token : Option τ} {t : τ} :
    (b.enter k token).Owns k t ↔ token = some t := by
  simp only [Owns, enter, Function.update_self, Option.some.injEq]

theorem Owns.not_close_self {b : Book κ τ} {k : κ} {t : τ} : ¬ (b.close k).Owns k t := by
  simp only [Owns, close, Function.update_self, reduceCtorEq, not_false_iff]

/-- Opening an entry keeps the correspondence, when a token goes into an empty cell and no owning
entry is overwritten. -/
theorem Sound.enter {b : Book κ τ} (sound : b.Sound) {k : κ} {token : Option τ}
    (free : token.isSome → b.holder = none) (plain : ∀ t, ¬ b.Owns k t) :
    (b.enter k token).Sound := by
  cases token with
  | none =>
    have same (k' : κ) (t : τ) : (b.enter k none).Owns k' t ↔ b.Owns k' t := by
      by_cases at_key : k' = k
      · subst at_key
        exact iff_of_false (fun owns => by cases Owns.enter_self.mp owns) (plain t)
      · exact Owns.enter_ne at_key
    refine ⟨fun k' t owns => sound.held k' t ((same k' t).mp owns), ?_,
      fun k₁ k₂ t₁ t₂ owns₁ owns₂ =>
        sound.unique k₁ k₂ t₁ t₂ ((same k₁ t₁).mp owns₁) ((same k₂ t₂).mp owns₂)⟩
    intro t out
    obtain ⟨k', owns⟩ := sound.owned t out
    exact ⟨k', (same k' t).mpr owns⟩
  | some token =>
    -- nobody owned a token before, so the new entry is the only owner
    have nobody (k' : κ) (t : τ) : ¬ b.Owns k' t := fun owns =>
      Option.some_ne_none t ((sound.held k' t owns).symm.trans (free rfl))
    have owner (k' : κ) (t : τ) (owns : (b.enter k (some token)).Owns k' t) :
        k' = k ∧ token = t := by
      by_cases at_key : k' = k
      · subst at_key
        exact ⟨rfl, Option.some.inj (Owns.enter_self.mp owns)⟩
      · exact absurd ((Owns.enter_ne at_key).mp owns) (nobody k' t)
    refine ⟨fun k' t owns => congrArg some (owner k' t owns).2, ?_,
      fun k₁ k₂ t₁ t₂ owns₁ owns₂ => (owner k₁ t₁ owns₁).1.trans (owner k₂ t₂ owns₂).1.symm⟩
    intro t out
    exact ⟨k, Owns.enter_self.mpr out⟩

/-- Closing an entry keeps the correspondence. -/
theorem Sound.close {b : Book κ τ} (sound : b.Sound) (k : κ) : (b.close k).Sound := by
  have back (k' : κ) (t : τ) (owns : (b.close k).Owns k' t) : k' ≠ k ∧ b.Owns k' t := by
    have ne : k' ≠ k := fun at_key => Owns.not_close_self (at_key ▸ owns)
    exact ⟨ne, (Owns.close_ne ne).mp owns⟩
  refine ⟨?_, ?_, fun k₁ k₂ t₁ t₂ owns₁ owns₂ =>
    sound.unique k₁ k₂ t₁ t₂ (back k₁ t₁ owns₁).2 (back k₂ t₂ owns₂).2⟩
  · intro k' t owns
    obtain ⟨ne, owns⟩ := back k' t owns
    cases own : (b.entries k).join with
    | none => simp only [Book.close, own, Option.isSome_none, sound.held k' t owns]; rfl
    | some t' => exact absurd (sound.unique k' k t t' owns (Option.join_eq_some_iff.mp own)) ne
  · intro t out
    cases own : (b.entries k).join with
    | some t' => simp [Book.close, own] at out
    | none =>
      simp only [Book.close, own, Option.isSome_none, Bool.false_eq_true, if_false] at out
      obtain ⟨k', owns⟩ := sound.owned t out
      have ne : k' ≠ k := by
        rintro rfl
        exact Option.some_ne_none t ((Option.join_eq_some_iff.mpr owns).symm.trans own)
      exact ⟨k', (Owns.close_ne ne).mpr owns⟩

end Book

variable [DecidableEq κ]

/-- What a handler of key `k` may do to the book. -/
inductive Act (k : κ) : Book κ τ → Book κ τ → Prop
  | stay (b : Book κ τ) : Act k b b
  | enter (b : Book κ τ) (token : Option τ) (free : token.isSome → b.holder = none)
      (plain : ∀ t, ¬ b.Owns k t) : Act k b (b.enter k token)
  | close (b : Book κ τ) : Act k b (b.close k)
  | trans {a b c : Book κ τ} (first : Act k a b) (second : Act k b c) : Act k a c

/-- Every act keeps the correspondence. -/
theorem Act.sound {k : κ} {b b' : Book κ τ} (act : Act k b b') (sound : b.Sound) : b'.Sound := by
  induction act with
  | stay => exact sound
  | enter b token free plain => exact sound.enter free plain
  | close b => exact sound.close k
  | trans _ _ first second => exact second (first sound)

/-- An act on one key leaves what another owns. -/
theorem Act.owns_of_ne {k k' : κ} {t : τ} {b b' : Book κ τ} (act : Act k b b') (ne : k' ≠ k) :
    b'.Owns k' t ↔ b.Owns k' t := by
  induction act with
  | stay => exact Iff.rfl
  | enter b token free plain => exact Book.Owns.enter_ne ne
  | close b => exact Book.Owns.close_ne ne
  | trans _ _ first second => exact second.trans first

/-- **The token of one key survives every act on another.** -/
theorem Act.holder_of_ne {k k' : κ} {t : τ} {b b' : Book κ τ} (act : Act k b b') (sound : b.Sound)
    (ne : k' ≠ k) (owns : b.Owns k' t) : b'.holder = some t :=
  (act.sound sound).held k' t ((act.owns_of_ne ne).mpr owns)

end Ownership
