/-!
# Processes

A process is a program of calls: it returns, it raises, or it makes a call and goes on with the answer. What a
call does, and what it answers, is left to whoever runs the process; so several processes can be run against
one state, one call of one of them at a time.

`Only` says which calls a process can make at all, and `Ensures` what it can return. `Keeps` says that it
keeps a discipline: each call is allowed in the stage in which it is made, whatever has been answered before,
and the stage at the end fits the result. They are composed along the program by their rule for `bind`.
-/

universe u

/-- A program of calls. -/
inductive Process (Call : Type u) (Ans : Call → Type u) (ε α : Type u) where
  | ret (result : α)
  | raise (error : ε)
  | call (c : Call) (next : Ans c → Process Call Ans ε α)

namespace Process

variable {Call : Type u} {Ans : Call → Type u} {ε α β : Type u}

/-- One after the other. -/
def bind : Process Call Ans ε α → (α → Process Call Ans ε β) → Process Call Ans ε β
  | ret a, f => f a
  | raise e, _ => raise e
  | call c next, f => call c fun answer => (next answer).bind f

instance : Monad (Process Call Ans ε) where
  pure := ret
  bind := bind

instance : MonadExceptOf ε (Process Call Ans ε) where
  throw := raise
  tryCatch := tryCatch
where
  /-- The handler goes on where the process raises. -/
  tryCatch {α : Type u} : Process Call Ans ε α → (ε → Process Call Ans ε α) → Process Call Ans ε α
    | ret a, _ => ret a
    | raise e, handle => handle e
    | call c next, handle => call c fun answer => tryCatch (next answer) handle

/-- One call. -/
def ask (c : Call) : Process Call Ans ε (Ans c) := call c ret

/-- The process is over. -/
def ended : Process Call Ans ε α → Bool
  | ret _ | raise _ => true
  | call .. => false

/-- The monad's return is `ret`. -/
@[simp] theorem pure_eq (a : α) : (pure a : Process Call Ans ε α) = ret a := rfl

/-- The monad's exception is `raise`. -/
@[simp] theorem throw_eq (e : ε) : (throw e : Process Call Ans ε α) = raise e := rfl

/-- Returning a value goes on with it. -/
@[simp] theorem ret_bind (a : α) (f : α → Process Call Ans ε β) : ret a >>= f = f a := rfl

/-- An exception goes on with nothing. -/
@[simp] theorem raise_bind (e : ε) (f : α → Process Call Ans ε β) : raise e >>= f = raise e := rfl

/-- Three processes in a row. -/
theorem bind_assoc {γ : Type u} (p : Process Call Ans ε α) (f : α → Process Call Ans ε β)
    (g : β → Process Call Ans ε γ) : p >>= f >>= g = p >>= fun a => f a >>= g := by
  induction p with
  | ret a => rfl
  | raise e => rfl
  | call c next ih => exact congrArg (call c) (funext ih)

/-! ## Running a process alone -/

section

variable {σ : Type u}

/-- What becomes of a process, and of the state that answers its calls; calls are numbered from `n` on. -/
def exec (answer : σ → Nat → (c : Call) → Ans c × σ) :
    Nat → σ → Process Call Ans ε α → Except ε α × Nat × σ
  | n, s, ret a => (.ok a, n, s)
  | n, s, raise e => (.error e, n, s)
  | n, s, call c next => exec answer (n + 1) (answer s n c).2 (next (answer s n c).1)

/-- Running two processes in a row, with the answers of the second one after those of the first. -/
theorem exec_bind (answer : σ → Nat → (c : Call) → Ans c × σ) (n : Nat) (s : σ)
    (p : Process Call Ans ε α) (f : α → Process Call Ans ε β) :
    exec answer n s (p >>= f) =
      match exec answer n s p with
      | (.ok a, m, t) => exec answer m t (f a)
      | (.error e, m, t) => (.error e, m, t) := by
  induction p generalizing n s with
  | ret a => rfl
  | raise e => rfl
  | call c next ih => exact ih _ _ _

end

/-! ## The calls of a process -/

/-- Every call that the process can make is one of these. -/
def Only (P : Call → Prop) : Process Call Ans ε α → Prop
  | ret _ | raise _ => True
  | call c next => P c ∧ ∀ answer, Only P (next answer)

section

variable {P : Call → Prop}

/-- Returning calls nothing. -/
@[simp] theorem only_ret (a : α) : (ret a : Process Call Ans ε α).Only P := trivial

/-- Neither does raising. -/
@[simp] theorem only_raise (e : ε) : (raise e : Process Call Ans ε α).Only P := trivial

/-- A call is the one call made. -/
@[simp] theorem only_ask {c : Call} : (ask c : Process Call Ans ε _).Only P ↔ P c :=
  ⟨And.left, fun allowed => ⟨allowed, fun _ => trivial⟩⟩

/-- The calls of two processes in a row. -/
theorem only_bind {p : Process Call Ans ε α} {f : α → Process Call Ans ε β} (first : p.Only P)
    (rest : ∀ a, (f a).Only P) : (p >>= f).Only P := by
  induction p with
  | ret a => exact rest a
  | raise e => trivial
  | call c next ih => exact ⟨first.1, fun answer => ih answer (first.2 answer)⟩

/-- The calls of a process and of its handler. -/
theorem only_tryCatch {p : Process Call Ans ε α} {handle : ε → Process Call Ans ε α}
    (first : p.Only P) (rest : ∀ e, (handle e).Only P) : (tryCatch p handle).Only P := by
  induction p with
  | ret a => trivial
  | raise e => exact rest e
  | call c next ih => exact ⟨first.1, fun answer => ih answer (first.2 answer)⟩

end

/-! ## The results of a process -/

/-- Whatever is answered, what the process returns is one of these. -/
def Ensures (Q : α → Prop) : Process Call Ans ε α → Prop
  | ret a => Q a
  | raise _ => True
  | call _ next => ∀ answer, Ensures Q (next answer)

/-- What every continuation ensures, the whole ensures. -/
theorem ensures_bind {Q : β → Prop} {f : α → Process Call Ans ε β} (rest : ∀ a, (f a).Ensures Q)
    (p : Process Call Ans ε α) : (p >>= f).Ensures Q := by
  induction p with
  | ret a => exact rest a
  | raise e => trivial
  | call c next ih => exact fun answer => ih answer

/-- The rest has to be looked at for what the first part may return. -/
theorem only_bind_of_ensures {P : Call → Prop} {Q : α → Prop} {p : Process Call Ans ε α}
    {f : α → Process Call Ans ε β} (first : p.Only P) (ensures : p.Ensures Q)
    (rest : ∀ a, Q a → (f a).Only P) : (p >>= f).Only P := by
  induction p with
  | ret a => exact rest a ensures
  | raise e => trivial
  | call c next ih => exact ⟨first.1, fun answer => ih answer (first.2 answer) (ensures answer)⟩

/-- A weaker condition on the calls. -/
theorem Only.mono {P P' : Call → Prop} (weaker : ∀ c, P c → P' c) {p : Process Call Ans ε α}
    (only : p.Only P) : p.Only P' := by
  induction p with
  | ret a => trivial
  | raise e => trivial
  | call c next ih => exact ⟨weaker c only.1, fun answer => ih answer (only.2 answer)⟩

/-! ## Disciplines -/

/-- Which calls may be made in which stage, and the stage after a call has been answered. -/
structure Discipline (Call : Type u) (Ans : Call → Type u) (Stage : Type u) where
  allows : Stage → Call → Prop
  next : Stage → (c : Call) → Ans c → Stage

variable {Stage : Type u} {d : Discipline Call Ans Stage}

/-- The process keeps the discipline from a stage on, and its result fits the stage at the end. -/
def Keeps (d : Discipline Call Ans Stage) (fits : Stage → Except ε α → Prop) :
    Stage → Process Call Ans ε α → Prop
  | s, ret a => fits s (.ok a)
  | s, raise e => fits s (.error e)
  | s, call c next => d.allows s c ∧ ∀ answer, Keeps d fits (d.next s c answer) (next answer)

/-- A weaker condition on the end. -/
theorem Keeps.mono {fits fits' : Stage → Except ε α → Prop} (weaker : ∀ s r, fits s r → fits' s r)
    {s : Stage} {p : Process Call Ans ε α} (keeps : p.Keeps d fits s) : p.Keeps d fits' s := by
  induction p generalizing s with
  | ret a => exact weaker _ _ keeps
  | raise e => exact weaker _ _ keeps
  | call c next ih => exact ⟨keeps.1, fun answer => ih answer (keeps.2 answer)⟩

/-- The rest keeps the discipline from wherever the first part may end. -/
theorem keeps_bind {fits : Stage → Except ε β → Prop} {s : Stage} {p : Process Call Ans ε α}
    {f : α → Process Call Ans ε β}
    (first : p.Keeps d (fun t r => match r with
      | .ok a => (f a).Keeps d fits t
      | .error e => fits t (.error e)) s) : (p >>= f).Keeps d fits s := by
  induction p generalizing s with
  | ret a => exact first
  | raise e => exact first
  | call c next ih => exact ⟨first.1, fun answer => ih answer (first.2 answer)⟩

/-- A handler goes on from wherever the process may raise. -/
theorem keeps_tryCatch {fits : Stage → Except ε α → Prop} {s : Stage} {p : Process Call Ans ε α}
    {handle : ε → Process Call Ans ε α}
    (first : p.Keeps d (fun t r => match r with
      | .ok a => fits t (.ok a)
      | .error e => (handle e).Keeps d fits t) s) : (tryCatch p handle).Keeps d fits s := by
  induction p generalizing s with
  | ret a => exact first
  | raise e => exact first
  | call c next ih => exact ⟨first.1, fun answer => ih answer (first.2 answer)⟩

/-- Calls that a stage allows and that leave it do not take a process out of it. -/
theorem keeps_of_only {P : Call → Prop} {s : Stage} (allowed : ∀ c, P c → d.allows s c)
    (stays : ∀ c answer, P c → d.next s c answer = s) {p : Process Call Ans ε α} (only : p.Only P) :
    p.Keeps d (fun t _ => t = s) s := by
  induction p with
  | ret a => rfl
  | raise e => rfl
  | call c next ih =>
    refine ⟨allowed c only.1, fun answer => ?_⟩
    rw [stays c answer only.1]
    exact ih answer (only.2 answer)

end Process
