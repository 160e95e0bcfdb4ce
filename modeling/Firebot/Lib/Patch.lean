import Mathlib.Logic.Function.Basic
import Firebot.Lib.Run

/-!
# Writers that write late

A document is a partial function from keys to values. A writer reads the whole document, sets or removes some
of its fields and writes the whole document back, but maybe only after others have written in between.
`Patch` is what it does to the fields.

`serial_iff`: the document is in every state what the completed writers make of it one after the other, in
the order of their writes, exactly if every write finds the fields that its writer leaves as they are with
the values that the writer has read. `respects_iff` is about fields of which no newer value may be replaced,
also by writers that set them.
-/

namespace Patches

universe u v w

variable {κ : Type u} {ν : Type v}

/-- The fields of a document. -/
abbrev Doc (κ : Type u) (ν : Type v) := κ → Option ν

/-- What a writer does: the document that it starts from where there is none, and for each field the value
that it sets (`some`), the removal (`some none`), or nothing. -/
structure Patch (κ : Type u) (ν : Type v) where
  fresh : Doc κ ν
  own : κ → Option (Option ν)

namespace Patch

variable (p : Patch κ ν)

/-- The document that the writer starts from. -/
def start (d : Option (Doc κ ν)) : Doc κ ν := d.getD p.fresh

/-- The document that it writes. -/
def apply (d : Option (Doc κ ν)) : Doc κ ν := fun k => (p.own k).getD (p.start d k)

variable {p}

theorem apply_of_own {k : κ} {value : Option ν} (own : p.own k = some value) (d : Option (Doc κ ν)) :
    p.apply d k = value := by
  unfold apply
  rw [own, Option.getD_some]

theorem apply_of_not_own {k : κ} (other : p.own k = none) (d : Option (Doc κ ν)) :
    p.apply d k = p.start d k := by
  unfold apply
  rw [other, Option.getD_none]

/-- A writer makes the same of two documents that agree in the fields that it leaves as they are. -/
theorem apply_eq_iff {d d' : Option (Doc κ ν)} :
    p.apply d = p.apply d' ↔ ∀ k, p.own k = none → p.start d k = p.start d' k := by
  constructor
  · intro same k other
    rw [← apply_of_not_own other, same, apply_of_not_own other]
  · intro agree
    ext1 k
    cases own : p.own k with
    | none => rw [apply_of_not_own own, apply_of_not_own own, agree k own]
    | some value => rw [apply_of_own own, apply_of_own own]

end Patch

/-! ## Writers of stored documents -/

/-- A writer of documents that are stored in some form: what it makes of the document that it reads, if it
comes to write one. -/
structure Writer {δ : Type w} (fields : δ → Doc κ ν) where
  writes : Option δ → Option δ
  patch : Patch κ ν
  spec : ∀ d d', writes d = some d' → fields d' = patch.apply (d.map fields)

section

variable {δ : Type w} {fields : δ → Doc κ ν} {α : Type w} (writer : α → Writer fields)

/-- An operation that has read and not yet written. -/
structure Pending where
  op : α
  seen : Option δ
  doc : δ
  computed : (writer op).writes seen = some doc

/-- The document, the operations that have read, and those that have written. -/
structure World where
  doc : Option δ
  pending : List (Pending writer)
  completed : List α

/-- An operation reads, or one that has read writes or gives up. -/
inductive Event (α : Type w) where
  | read (op : α)
  | write (index : Nat)
  | abandon (index : Nat)

namespace World

/-- Nobody has read. -/
def initial (doc : Option δ) : World writer where
  doc := doc
  pending := []
  completed := []

variable {writer} (s : World writer)

/-- The operation reads the document. One that comes to nothing is done. -/
def read (op : α) : World writer :=
  match computed : (writer op).writes s.doc with
  | some doc => { s with pending := s.pending ++ [⟨op, s.doc, doc, computed⟩] }
  | none => s

/-- The operation writes the document that it has made. -/
def write (index : Nat) (p : Pending writer) : World writer where
  doc := some p.doc
  pending := s.pending.eraseIdx index
  completed := s.completed ++ [p.op]

/-- One event. -/
def step (s : World writer) : Event α → World writer
  | .read op => s.read op
  | .write index => (s.pending[index]?).elim s (s.write index)
  | .abandon index => { s with pending := s.pending.eraseIdx index }

/-- The state after a list of events. -/
abbrev run (s : World writer) (events : List (Event α)) : World writer := Runs.run step s events

/-- A write finds the fields that its operation leaves as they are with the values that it has read. -/
def Undisturbed (s : World writer) : Event α → Prop
  | .write index => ∀ p, s.pending[index]? = some p → ∀ k, (writer p.op).patch.own k = none →
      (writer p.op).patch.start (p.seen.map fields) k = (writer p.op).patch.start (s.doc.map fields) k
  | .read _ | .abandon _ => True

/-- A value of the keys that is newer than what its operation has read stays as it is when it writes. -/
def Respects (keys : κ → Prop) (s : World writer) : Event α → Prop
  | .write index => ∀ p d, s.pending[index]? = some p → s.doc = some d → ∀ k, keys k →
      (p.seen.bind fun e => fields e k) ≠ fields d k → fields p.doc k = fields d k
  | .read _ | .abandon _ => True

/-- A write finds those of the keys that its operation sets with the values that it has read, or as it sets
them. -/
def Current (keys : κ → Prop) (s : World writer) : Event α → Prop
  | .write index => ∀ p d, s.pending[index]? = some p → s.doc = some d → ∀ k, keys k →
      ∀ value, (writer p.op).patch.own k = some value →
        (p.seen.bind fun e => fields e k) = fields d k ∨ value = fields d k
  | .read _ | .abandon _ => True

end World

/-- The document after some operations, one after the other. -/
def serial (start : Option (Doc κ ν)) (ops : List α) : Option (Doc κ ν) :=
  ops.foldl (fun d op => some ((writer op).patch.apply d)) start

variable {writer}

theorem serial_concat (start : Option (Doc κ ν)) (ops : List α) (op : α) :
    serial writer start (ops ++ [op]) = some ((writer op).patch.apply (serial writer start ops)) :=
  List.foldl_append

/-- The document is what the completed operations make of it one after the other. -/
def World.Serial (start : Option δ) (s : World writer) : Prop :=
  s.doc.map fields = serial writer (start.map fields) s.completed

/-- The document is what the completed operations make of it in some order. -/
def World.Serializable (start : Option δ) (s : World writer) : Prop :=
  ∃ order : List α, order.Perm s.completed ∧ s.doc.map fields = serial writer (start.map fields) order

variable {s : World writer} {start : Option δ}

theorem World.Serial.serializable (h : s.Serial start) : s.Serializable start := ⟨s.completed, .refl _, h⟩

/-- **One event** leads from a serial state to a serial state exactly if it is undisturbed. -/
theorem World.Serial.step_iff (h : s.Serial start) (e : Event α) :
    (s.step e).Serial start ↔ s.Undisturbed e := by
  cases e with
  | read op =>
    apply iff_of_true _ trivial
    show (s.read op).Serial start
    unfold World.read
    split
    · exact h
    · exact h
  | abandon index => exact iff_of_true h trivial
  | write index =>
    show ((s.pending[index]?).elim s (s.write index)).Serial start ↔ ∀ p, _ → _
    cases found : s.pending[index]? with
    | none =>
      apply iff_of_true h
      intro p impossible
      cases impossible
    | some p =>
      have written : (some p.doc).map fields = some ((writer p.op).patch.apply (p.seen.map fields)) :=
        congrArg some ((writer p.op).spec _ _ p.computed)
      rw [Option.elim_some]
      unfold World.Serial World.write
      dsimp only
      rw [written, serial_concat, ← h, Option.some_inj, Patch.apply_eq_iff]
      constructor
      · intro agree p' same
        cases same
        exact agree
      · intro agree
        exact agree p rfl

/-- **Late writers are serial, in the order of their writes, exactly if none is disturbed.** -/
theorem serial_iff (start : Option δ) (events : List (Event α)) :
    (∀ before after, events = before ++ after →
      ((World.initial writer start).run before).Serial start) ↔
      Runs.Meets World.step World.Undisturbed (World.initial writer start) events := by
  have initially : (World.initial writer start).Serial start := rfl
  constructor
  · intro every
    rw [Runs.meets_iff]
    intro before e after split
    have now := every before (e :: after) split
    apply (now.step_iff e).mp
    have next := every (before ++ [e]) after (by rw [split, List.append_assoc]; rfl)
    rwa [World.run, Runs.run_append] at next
  · intro met before after split
    exact Runs.states_of_meets (fun s e now met => (now.step_iff e).mpr met) initially met before after split

/-- A write that is undisturbed leaves the fields that are not its operation's as they are. -/
theorem write_keeps {p : Pending writer} {index : Nat} (found : s.pending[index]? = some p)
    (undisturbed : s.Undisturbed (.write index)) {k : κ} (other : (writer p.op).patch.own k = none) :
    fields p.doc k = (writer p.op).patch.start (s.doc.map fields) k := by
  rw [(writer p.op).spec _ _ p.computed, Patch.apply_of_not_own other]
  exact undisturbed p found k other

/-- **Newer values of some keys** survive an undisturbed write exactly if its operation finds those that it
sets as it has read them, or as it sets them. -/
theorem World.respects_iff {keys : κ → Prop} {e : Event α} (undisturbed : s.Undisturbed e) :
    s.Respects keys e ↔ s.Current keys e := by
  cases e with
  | read op => exact Iff.rfl
  | abandon index => exact Iff.rfl
  | write index =>
    constructor
    · intro respects p d found now k key value own
      by_cases same : (p.seen.bind fun e => fields e k) = fields d k
      · exact .inl same
      · right
        rw [← respects p d found now k key same, (writer p.op).spec _ _ p.computed, Patch.apply_of_own own]
    · intro current p d found now k key newer
      cases own : (writer p.op).patch.own k with
      | none =>
        rw [write_keeps found undisturbed own, now]
        rfl
      | some value =>
        rcases current p d found now k key value own with same | set
        · exact absurd same newer
        · rw [(writer p.op).spec _ _ p.computed, Patch.apply_of_own own, set]

/-- A run is serial in the order of the writes and respects some keys exactly if every write is undisturbed
and current. -/
theorem serial_and_respects_iff (keys : κ → Prop) (start : Option δ) (events : List (Event α)) :
    ((∀ before after, events = before ++ after → ((World.initial writer start).run before).Serial start) ∧
        Runs.Meets World.step (World.Respects keys) (World.initial writer start) events) ↔
      Runs.Meets World.step (fun s e => World.Undisturbed s e ∧ World.Current keys s e)
        (World.initial writer start) events := by
  rw [serial_iff, ← Runs.meets_and_iff]
  apply Runs.meets_congr (I := fun _ => True)
  · intro s e _
    trivial
  · intro s e _
    exact and_congr_right World.respects_iff
  · trivial

end

end Patches
