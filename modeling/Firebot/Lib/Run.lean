/-!
# Runs of a step function

A system is a total step function `step : σ → ε → σ`: an event that is not enabled in a state leaves
it unchanged, so every list of events is a run. `run` is the state a run ends in. `Meets ok` says
that every step of a run meets `ok` in the state before it; it is closed under prefixes, so a fact
proved of `run` for every run that meets `ok` holds in every state such a run passes through.

`invariant` is the one induction of this file: what the start satisfies and every admitted step
preserves holds at the end of every admitted run. `run_of_step` is its instance for facts that, once
true, stay true.
-/

namespace Runs

universe u v

variable {σ : Type u} {ε : Type v} {step : σ → ε → σ} {ok : σ → ε → Prop}

/-- The state a run ends in. -/
def run (step : σ → ε → σ) (s : σ) (events : List ε) : σ := events.foldl step s

/-- Every step of the run meets `ok` in the state before it. -/
def Meets (step : σ → ε → σ) (ok : σ → ε → Prop) : σ → List ε → Prop
  | _, [] => True
  | s, e :: events => ok s e ∧ Meets step ok (step s e) events

@[simp] theorem run_nil (s : σ) : run step s [] = s := rfl

@[simp] theorem run_cons (s : σ) (e : ε) (events : List ε) :
    run step s (e :: events) = run step (step s e) events := rfl

@[simp] theorem meets_nil (s : σ) : Meets step ok s [] := trivial

@[simp] theorem meets_cons (s : σ) (e : ε) (events : List ε) :
    Meets step ok s (e :: events) ↔ ok s e ∧ Meets step ok (step s e) events := Iff.rfl

instance Meets.decidable [∀ s e, Decidable (ok s e)] :
    ∀ (s : σ) (events : List ε), Decidable (Meets step ok s events)
  | _, [] => isTrue trivial
  | s, e :: events => @instDecidableAnd _ _ _ (Meets.decidable (step s e) events)

/-- A run meets two conditions at once exactly if it meets both. -/
theorem meets_and_iff {ok' : σ → ε → Prop} {s : σ} {events : List ε} :
    Meets step (fun s e => ok s e ∧ ok' s e) s events ↔
      Meets step ok s events ∧ Meets step ok' s events := by
  induction events generalizing s with
  | nil => simp
  | cons e events ih =>
    rw [meets_cons, meets_cons, meets_cons, ih]
    exact and_and_and_comm

/-- Two conditions that agree wherever an invariant of every step holds are met by the same runs. -/
theorem meets_congr {ok' : σ → ε → Prop} {I : σ → Prop} (preserved : ∀ s e, I s → I (step s e))
    (same : ∀ s e, I s → (ok s e ↔ ok' s e)) {s : σ} (start : I s) (events : List ε) :
    Meets step ok s events ↔ Meets step ok' s events := by
  induction events generalizing s with
  | nil => exact Iff.rfl
  | cons e events ih => exact and_congr (same s e start) (ih (preserved s e start))

/-- What every admitted step preserves holds at the end of every admitted run. -/
theorem invariant {I : σ → Prop} (preserved : ∀ s e, I s → ok s e → I (step s e)) {s : σ}
    {events : List ε} (start : I s) (met : Meets step ok s events) : I (run step s events) := by
  induction events generalizing s with
  | nil => exact start
  | cons e events ih => exact ih (preserved s e start met.1) met.2

/-- What an invariant of the admitted steps tells of a step holds of every step of an admitted run. -/
theorem meets_of_invariant {ok' : σ → ε → Prop} {I : σ → Prop}
    (preserved : ∀ s e, I s → ok s e → I (step s e)) (tells : ∀ s e, I s → ok' s e) {s : σ}
    {events : List ε} (start : I s) (met : Meets step ok s events) : Meets step ok' s events := by
  induction events generalizing s with
  | nil => trivial
  | cons e events ih => exact ⟨tells s e start, ih (preserved s e start met.1) met.2⟩

/-- What every step preserves holds at the end of every run. -/
theorem run_of_step {I : σ → Prop} (preserved : ∀ s e, I s → I (step s e)) (s : σ)
    (events : List ε) (start : I s) : I (run step s events) := by
  induction events generalizing s with
  | nil => exact start
  | cons e events ih => exact ih (step s e) (preserved s e start)

theorem run_append (s : σ) (before after : List ε) :
    run step s (before ++ after) = run step (run step s before) after := List.foldl_append

theorem meets_append (s : σ) (before after : List ε) :
    Meets step ok s (before ++ after) ↔
      Meets step ok s before ∧ Meets step ok (run step s before) after := by
  induction before generalizing s with
  | nil => simp
  | cons e before ih => simp [ih, and_assoc]

/-- A run meets a condition exactly if every step does where the run has come to it. -/
theorem meets_iff {s : σ} {events : List ε} :
    Meets step ok s events ↔
      ∀ before e after, events = before ++ e :: after → ok (run step s before) e := by
  constructor
  · intro met before e after split
    rw [split, meets_append] at met
    exact met.2.1
  · intro every
    induction events generalizing s with
    | nil => trivial
    | cons e events ih =>
      refine ⟨every [] e events rfl, ih ?_⟩
      intro before e' after split
      exact every (e :: before) e' after (by rw [split]; rfl)

/-- What holds in every state of a run tells of every step of it what it tells of the step into a
state. -/
theorem meets_of_states {P : σ → Prop} (tells : ∀ s e, P (step s e) → ok s e) {s : σ}
    {events : List ε} (states : ∀ before after, events = before ++ after → P (run step s before)) :
    Meets step ok s events := by
  induction events generalizing s with
  | nil => trivial
  | cons e events ih =>
    refine ⟨tells s e (states [e] events rfl), ih ?_⟩
    intro before after split
    exact states (e :: before) after (by rw [split]; rfl)

/-- An invariant of the admitted steps holds in every state of an admitted run. -/
theorem states_of_meets {I : σ → Prop} (preserved : ∀ s e, I s → ok s e → I (step s e)) {s : σ}
    {events : List ε} (start : I s) (met : Meets step ok s events) (before after : List ε)
    (split : events = before ++ after) : I (run step s before) := by
  rw [split, meets_append] at met
  exact invariant preserved start met.1

/-- Where a fact survives a step exactly if the step is admitted, it holds in every state of a run exactly if
the run is. -/
theorem states_iff {P : σ → Prop} (exact_ : ∀ s e, P s → (P (step s e) ↔ ok s e)) {s : σ} (start : P s)
    (events : List ε) :
    (∀ before after, events = before ++ after → P (run step s before)) ↔ Meets step ok s events := by
  constructor
  · intro states
    induction events generalizing s with
    | nil => trivial
    | cons e events ih =>
      have next : P (step s e) := states [e] events rfl
      refine ⟨(exact_ s e start).mp next, ih next ?_⟩
      intro before after split
      exact states (e :: before) after (by rw [split]; rfl)
  · intro met before after split
    exact states_of_meets (fun s e holds admitted => (exact_ s e holds).mpr admitted) start met before after split

/-- What every step keeps, every stretch of a run keeps. -/
theorem kept_of_meets {R : σ → σ → Prop} (refl : ∀ s, R s s)
    (trans : ∀ {a b c}, R a b → R b c → R a c) {s : σ} {events : List ε}
    (met : Meets step (fun s e => R s (step s e)) s events) : R s (run step s events) := by
  induction events generalizing s with
  | nil => exact refl s
  | cons e events ih => exact trans met.1 (ih met.2)

/-- Every stretch of a run keeps something exactly if every step of it does. -/
theorem kept_iff {R : σ → σ → Prop} (refl : ∀ s, R s s)
    (trans : ∀ {a b c}, R a b → R b c → R a c) (s : σ) (events : List ε) :
    (∀ before middle after, events = before ++ middle ++ after →
      R (run step s before) (run step s (before ++ middle))) ↔
      Meets step (fun s e => R s (step s e)) s events := by
  constructor
  · intro kept
    induction events generalizing s with
    | nil => trivial
    | cons e events ih =>
      refine ⟨kept [] [e] events rfl, ih (step s e) ?_⟩
      intro before middle after split
      exact kept (e :: before) middle after (by rw [split]; rfl)
  · intro met before middle after split
    rw [split, meets_append, meets_append] at met
    rw [run_append]
    exact kept_of_meets refl trans met.1.2

end Runs
