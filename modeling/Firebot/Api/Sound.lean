import Firebot.Api.Discipline

/-!
# What holds in every world

Every process keeps its order, so what a request has written to Redis it has written after its commit; the
record of a scope belongs to the one request that has stored it, and holds the response that this request
sends.
-/

namespace Firebot.Api

/-! ## Stages -/

/-- The response has been returned. -/
def Stage.Sent (stage : Stage) (response : Response) : Prop :=
  match stage with
  | .replayed _ stored | .answered _ _ stored => stored = response
  | .entering .. | .working _ | .committed .. | .releasing | .released _ => False

/-- What a stage says, a later one says too. -/
structure Stage.Grows (t t' : Stage) : Prop where
  caller : t'.caller = t.caller
  scope : ∀ s, t.scope? = some s → t'.scope? = some s
  owns : ∀ s, t.owns = some s → t'.owns = some s
  rows : ∀ rows, t.rows? = some rows → ∃ all, t'.rows? = some all ∧ rows ⊆ all
  sent : ∀ response, t.Sent response → t'.Sent response

theorem Stage.Grows.refl (t : Stage) : t.Grows t where
  caller := rfl
  scope _ same := same
  owns _ same := same
  rows rows same := ⟨rows, same, List.Subset.refl rows⟩
  sent _ same := same

/-- A call that is allowed lets the stage grow. -/
theorem next_grows {t : Stage} {c : Call} (allowed : t.allows c) (answer : Ans c) :
    t.Grows (t.next c answer) := by
  unfold Stage.next
  split
  · obtain ⟨actor, key⟩ := allowed
    split
    · exact .refl _
    · exact ⟨by simp [Stage.caller, actor, key], nofun, nofun, nofun, fun _ sent => sent.elim⟩
    · exact ⟨by simp [Stage.caller, actor, key], nofun, nofun, nofun, fun _ sent => sent.elim⟩
  · split
    · exact ⟨rfl, fun _ same => same, nofun, nofun, fun _ sent => sent.elim⟩
    · exact .refl _
  · split
    · refine ⟨rfl, fun _ same => same, fun _ same => same, fun rows same => ?_, fun _ sent => sent.elim⟩
      cases same
      exact ⟨_, rfl, List.subset_append_left _ _⟩
    · exact .refl _
  · refine ⟨rfl, fun _ same => same, fun _ same => same, fun rows same => ?_, fun _ sent => sent.elim⟩
    exact ⟨rows, same, List.Subset.refl rows⟩
  · split
    · exact ⟨rfl, nofun, nofun, nofun, fun _ sent => sent.elim⟩
    · exact .refl _
  · exact .refl _

namespace World

/-! ## What the entries of a log say of their processes -/

/-- Every entry of a log fits the stage of its process. -/
def Fits {α : Type} (fits : Stage → α → Prop) (running : List Running) (log : List (Nat × α)) : Prop :=
  ∀ pid a, (pid, a) ∈ log → ∃ x, running[pid]? = some x ∧ fits x.stage a

section

variable {α : Type} {fits : Stage → α → Prop} {running : List Running} {log : List (Nat × α)}
  {pid : Nat} {x y : Running}

theorem fits_nil : Fits fits running [] := fun _ _ mem => by cases mem

/-- A process more. -/
theorem Fits.append (h : Fits fits running log) (y : Running) : Fits fits (running ++ [y]) log := by
  intro pid a mem
  obtain ⟨x, found, ok⟩ := h pid a mem
  exact ⟨x, by rw [List.getElem?_append_left (List.getElem?_eq_some_iff.mp found).1]; exact found, ok⟩

/-- A process goes on. -/
theorem Fits.set (h : Fits fits running log) (found : running[pid]? = some x)
    (grows : ∀ a, fits x.stage a → fits y.stage a) : Fits fits (running.set pid y) log := by
  intro other a mem
  obtain ⟨z, there, ok⟩ := h other a mem
  by_cases same : other = pid
  · subst same
    rw [found] at there
    cases there
    exact ⟨y, by rw [List.getElem?_set_self (List.getElem?_eq_some_iff.mp found).1], grows a ok⟩
  · exact ⟨z, by rw [List.getElem?_set_ne (Ne.symm same)]; exact there, ok⟩

/-- A process goes on, and there is one entry more, if any. -/
theorem Fits.step (h : Fits fits running log) (found : running[pid]? = some x)
    (grows : ∀ a, fits x.stage a → fits y.stage a) {log' : List (Nat × α)}
    (more : log' = log ∨ ∃ a, log' = log ++ [(pid, a)] ∧ fits y.stage a) :
    Fits fits (running.set pid y) log' := by
  rcases more with rfl | ⟨a, rfl, ok⟩
  · exact h.set found grows
  · intro other b mem
    rcases List.mem_append.mp mem with before | new
    · exact h.set found grows other b before
    · cases List.mem_singleton.mp new
      exact ⟨y, by rw [List.getElem?_set_self (List.getElem?_eq_some_iff.mp found).1], ok⟩

end

/-- What a process has committed. -/
def Committed (stage : Stage) (rows : List Row) : Prop := ∃ all, stage.rows? = some all ∧ rows ⊆ all

/-- A request has committed. -/
def After {α : Type} (stage : Stage) (_ : α) : Prop :=
  stage.caller.isSome = true → stage.rows?.isSome = true

/-- A request has committed the command of a payload. -/
def Queued (stage : Stage) (payload : Payload) : Prop :=
  stage.caller.isSome = true → ∃ rows command, stage.rows? = some rows ∧
    Row.command payload.commandId command ∈ rows

/-- What is committed stays so as the stage goes on. -/
theorem Committed.grows {t t' : Stage} (grows : t.Grows t') {rows : List Row} (h : Committed t rows) :
    Committed t' rows := by
  obtain ⟨all, same, mem⟩ := h
  obtain ⟨later, same', mem'⟩ := grows.rows all same
  exact ⟨later, same', List.Subset.trans mem mem'⟩

/-- So does what comes after a commit. -/
theorem After.grows {α : Type} {t t' : Stage} (grows : t.Grows t') {a : α} (h : After t a) :
    After t' a := by
  intro request
  obtain ⟨rows, same⟩ := Option.isSome_iff_exists.mp (h (grows.caller ▸ request))
  obtain ⟨later, same', _⟩ := grows.rows rows same
  rw [same']
  rfl

/-- So does what was to be queued. -/
theorem Queued.grows {t t' : Stage} (grows : t.Grows t') {payload : Payload} (h : Queued t payload) :
    Queued t' payload := by
  intro request
  obtain ⟨rows, command, same, mem⟩ := h (grows.caller ▸ request)
  obtain ⟨later, same', sub⟩ := grows.rows rows same
  exact ⟨later, command, same', sub mem⟩

/-! ## The invariant -/

/-- Whose process it is. -/
def Origin.caller : Origin → Option (String × String)
  | .request actorId key _ => some (actorId, key)
  | .release .. => none

/-- The invariant. -/
structure Sound (w : World) : Prop where
  follows : ∀ (pid : Nat) (x : Running), w.running[pid]? = some x →
    Follows x.stage (fun _ _ => True) x.process ∧ x.stage.caller = Origin.caller x.origin
  commits : Fits Committed w.running w.commits
  stream : Fits Queued w.running w.stream
  deletions : Fits After w.running w.deletions
  events : Fits After w.running w.events
  responses : Fits Stage.Sent w.running w.responses
  staged : ∀ (pid : Nat) (x : Running) (all : List Row), w.running[pid]? = some x → x.stage.rows? = some all →
    (∃ rows, (pid, rows) ∈ w.commits) ∧ ∀ row ∈ all, ∃ rows, (pid, rows) ∈ w.commits ∧ row ∈ rows
  owned : ∀ (pid : Nat) (x : Running) (s : Scope), w.running[pid]? = some x → x.stage.owns = some s →
    ∃ record, w.records s = some record ∧ x.stage.sends = some record.response
  unique : ∀ (a b : Nat) (x y : Running) (s : Scope), w.running[a]? = some x → w.running[b]? = some y → x.stage.owns = some s →
    y.stage.owns = some s → a = b

/-! ## What a call does -/

section

variable (w : World) (pid : Nat) (env : Env) (c : Call)

/-- Only a commit grows the commits. -/
theorem effect_commits : (w.effect pid c).commits = w.commits ∨
    ∃ rows, c = .commit rows ∧ (w.effect pid c).commits = w.commits ++ [(pid, rows)] := by
  cases c <;> first | exact .inl rfl | exact .inr ⟨_, rfl, rfl⟩

/-- Only an enqueue grows the stream. -/
theorem effect_stream : (w.effect pid c).stream = w.stream ∨
    ∃ payload, c = .enqueue payload ∧ (w.effect pid c).stream = w.stream ++ [(pid, payload)] := by
  cases c <;> first | exact .inl rfl | exact .inr ⟨_, rfl, rfl⟩

/-- Only a deletion grows the deletions. -/
theorem effect_deletions : (w.effect pid c).deletions = w.deletions ∨
    ∃ robotId, c = .deleteLease robotId ∧
      (w.effect pid c).deletions = w.deletions ++ [(pid, robotId)] := by
  cases c <;> first | exact .inl rfl | exact .inr ⟨_, rfl, rfl⟩

/-- Only an append grows the events. -/
theorem effect_events : (w.effect pid c).events = w.events ∨
    ∃ type, c = .appendEvent type ∧ (w.effect pid c).events = w.events ++ [(pid, type)] := by
  cases c <;> first | exact .inl rfl | exact .inr ⟨_, rfl, rfl⟩

/-- Only a response grows the responses. -/
theorem effect_responses : (w.effect pid c).responses = w.responses ∨
    ∃ response, c = .respond response ∧
      (w.effect pid c).responses = w.responses ++ [(pid, response)] := by
  cases c <;> first | exact .inl rfl | exact .inr ⟨_, rfl, rfl⟩

/-- Only a commit writes the records. -/
theorem effect_records : (w.effect pid c).records = w.records ∨
    ∃ rows, c = .commit rows ∧ (w.effect pid c).records = rows.foldl writeRecord w.records := by
  cases c <;> first | exact .inl rfl | exact .inr ⟨_, rfl, rfl⟩

end

/-! ## What a stage lets a call do -/

section

variable {t : Stage}

/-- The discipline lets only a committed command be queued. -/
theorem queued_of_allows {payload : Payload} (allowed : t.allows (.enqueue payload)) : Queued t payload := by
  cases t with
  | committed scope rows stored =>
    obtain ⟨command, mem⟩ := allowed
    exact fun _ => ⟨rows, command, rfl, mem⟩
  | releasing => exact fun request => by cases request
  | entering | replayed | working | answered | released => exact allowed.elim

/-- It lets a lease be deleted only after the commit. -/
theorem after_of_deleteLease {robotId : String} (allowed : t.allows (.deleteLease robotId)) :
    After t robotId := by
  cases t with
  | committed scope rows stored => exact fun _ => rfl
  | releasing => exact fun request => by cases request
  | entering | replayed | working | answered | released => exact allowed.elim

/-- And an event be appended only then. -/
theorem after_of_appendEvent {type : String} (allowed : t.allows (.appendEvent type)) : After t type := by
  cases t with
  | committed scope rows stored => exact fun _ => rfl
  | entering | replayed | working | answered | releasing | released => exact allowed.elim

/-- A response that is let through is the stage's own. -/
theorem sent_of_respond {response : Response} (allowed : t.allows (.respond response)) (answer : Unit) :
    (t.next (.respond response) answer).Sent response := by
  cases t with
  | committed scope rows stored => exact Eq.symm allowed
  | replayed scope stored => exact Eq.symm allowed
  | entering | working | answered | releasing | released => exact allowed.elim

/-- A commit that is applied is known to the stage. -/
theorem committed_of_commit {rows : List Row} (allowed : t.allows (.commit rows)) {fate : Fate}
    (applied : fate.applied = true) : Committed (t.next (.commit rows) fate) rows := by
  cases t with
  | working scope =>
    obtain ⟨before, record, rfl, _⟩ := allowed
    refine ⟨before ++ [.record scope record], ?_, List.Subset.refl _⟩
    simp [Stage.next, lastRecord, applied, Stage.rows?]
  | committed scope all stored =>
    refine ⟨all ++ rows, ?_, List.subset_append_right _ _⟩
    simp [Stage.next, applied, Stage.rows?]
  | releasing => exact ⟨rows, by simp [Stage.next, applied, Stage.rows?], List.Subset.refl _⟩
  | entering | replayed | answered | released => exact allowed.elim

/-- What a stage has committed comes from commits. -/
theorem next_rows {rows : List Row} {fate : Fate} {all : List Row}
    (same : (t.next (.commit rows) fate).rows? = some all) : t.rows? = some all ∨
      fate.applied = true ∧ ∀ row ∈ all, row ∈ rows ∨ ∃ before, t.rows? = some before ∧ row ∈ before := by
  cases t with
  | working scope =>
    simp only [Stage.next] at same
    split at same
    next applied _ =>
      cases same
      exact .inr ⟨applied, fun row mem => .inl mem⟩
    · cases same
  | committed scope before stored =>
    simp only [Stage.next] at same
    split at same
    next applied =>
      cases same
      refine .inr ⟨applied, fun row mem => ?_⟩
      rcases List.mem_append.mp mem with mem | mem
      · exact .inr ⟨before, rfl, mem⟩
      · exact .inl mem
    · exact .inl same
  | releasing =>
    simp only [Stage.next] at same
    split at same
    next applied =>
      cases same
      exact .inr ⟨applied, fun row mem => .inl mem⟩
    · cases same
  | entering | replayed | answered | released => exact .inl same

/-- Other calls commit nothing. -/
theorem next_of_other {c : Call} (other : ∀ rows, c ≠ .commit rows) (answer : Ans c) :
    (t.next c answer).rows? = t.rows? ∧ (t.next c answer).owns = t.owns ∧
      (t.owns.isSome = true → (t.next c answer).sends = t.sends) := by
  cases c with
  | commit rows => exact absurd rfl (other rows)
  | lookup scope =>
    cases t with
    | entering => cases answer with
      | error e => exact ⟨rfl, rfl, fun _ => rfl⟩
      | ok row => cases row <;> exact ⟨rfl, rfl, fun owns => by cases owns⟩
    | replayed | working | committed | answered | releasing | released => exact ⟨rfl, rfl, fun _ => rfl⟩
  | respond response =>
    cases t <;> exact ⟨rfl, rfl, fun _ => rfl⟩
  | read | flush | enqueue | deleteLease | appendEvent => exact ⟨rfl, rfl, fun _ => rfl⟩

/-! ## Records -/

/-- A row writes the record of its own scope only. -/
theorem writeRecord_of_ne {records : Scope → Option Record} {row : Row} {s : Scope}
    (ne : row.scope? ≠ some s) : writeRecord records row s = records s := by
  cases row with
  | record scope record =>
    exact Function.update_of_ne (fun same : s = scope => ne (by rw [same]; rfl)) _ _
  | setResponse scope response =>
    exact Function.update_of_ne (fun same : s = scope => ne (by rw [same]; rfl)) _ _
  | _ => rfl

/-- Rows that are no records of a scope leave its record. -/
theorem foldl_writeRecord_of_ne {s : Scope} {rows : List Row} (ne : ∀ row ∈ rows, row.scope? ≠ some s)
    (records : Scope → Option Record) : rows.foldl writeRecord records s = records s := by
  induction rows generalizing records with
  | nil => rfl
  | cons row rows ih =>
    rw [List.foldl_cons, ih (fun r mem => ne r (List.mem_cons_of_mem _ mem)),
      writeRecord_of_ne (ne row List.mem_cons_self)]

/-- The changes of a response are the ones that the record keeps. -/
theorem foldl_writeRecord_changes {s : Scope} {changes : List Row}
    (plain : ∀ row ∈ changes, row.scope? = none ∨ ∃ response, row = .setResponse s response)
    {records : Scope → Option Record} {record : Record} (there : records s = some record) :
    ∃ later, changes.foldl writeRecord records s = some later ∧
      later.response = stored record.response changes ∧ later.requestHash = record.requestHash := by
  induction changes generalizing records record with
  | nil => exact ⟨record, there, rfl, rfl⟩
  | cons row rows ih =>
    have rest := fun r mem => plain r (List.mem_cons_of_mem row mem)
    rw [List.foldl_cons]
    rcases plain row List.mem_cons_self with none | ⟨response, rfl⟩
    · have kept : writeRecord records row s = some record := by
        rw [writeRecord_of_ne (by rw [none]; nofun), there]
      obtain ⟨later, same, response, hash⟩ := ih rest kept
      refine ⟨later, same, ?_, hash⟩
      rw [response]
      cases row <;> first | rfl | cases none
    · have changed : writeRecord records (.setResponse s response) s =
          some { record with response := response } := by
        simp [writeRecord, there]
      exact ih rest changed

end

/-! ## One call -/

section

variable {w : World} {pid : Nat} {env : Env} {x : Running} {c : Call} {next : Ans c → Script Unit}

/-- The process after its call. -/
abbrev after (w : World) (env : Env) (x : Running) (c : Call) (next : Ans c → Script Unit) : Running :=
  { x with stage := x.stage.next c (w.reply env c), process := next (w.reply env c) }

/-- A process other than the one that has gone on is as it was. -/
theorem getElem?_after {other : Nat} {y z : Running} (there : (w.running.set pid y)[other]? = some z) :
    other = pid ∧ z = y ∨ other ≠ pid ∧ w.running[other]? = some z := by
  by_cases same : other = pid
  · subst same
    have bound : other < w.running.length := by
      have := (List.getElem?_eq_some_iff.mp there).1
      rwa [List.length_set] at this
    rw [List.getElem?_set_self bound] at there
    exact .inl ⟨rfl, (Option.some.inj there).symm⟩
  · rw [List.getElem?_set_ne (Ne.symm same)] at there
    exact .inr ⟨same, there⟩

/-- A call has no effect, or the environment has applied it. -/
theorem call_cases (w : World) (pid : Nat) (env : Env) (c : Call) : w.call pid env c = w ∨
    w.applied env c = true ∧ w.call pid env c = w.effect pid c := by
  unfold call
  split
  next applied => exact .inr ⟨applied, rfl⟩
  · exact .inl rfl

/-- What has been committed stays so. -/
theorem mem_commits_call {entry : Nat × List Row} (mem : entry ∈ w.commits) :
    entry ∈ (w.call pid env c).commits := by
  rcases call_cases w pid env c with same | ⟨_, same⟩
  · rwa [same]
  · rw [same]
    rcases effect_commits w pid c with same | ⟨rows, _, same⟩
    · rwa [same]
    · rw [same]
      exact List.mem_append_left _ mem

/-- What a call adds to the stream is its own. -/
theorem mem_stream_call {other : Nat} {payload : Payload}
    (mem : (other, payload) ∈ (w.call pid env c).stream) :
    (other, payload) ∈ w.stream ∨ other = pid ∧ c = .enqueue payload ∧ w.applied env c = true := by
  rcases call_cases w pid env c with same | ⟨applied, same⟩
  · exact .inl (same ▸ mem)
  · rw [same] at mem
    rcases effect_stream w pid c with same | ⟨sent, rfl, same⟩
    · exact .inl (same ▸ mem)
    · rw [same] at mem
      rcases List.mem_append.mp mem with old | new
      · exact .inl old
      · cases List.mem_singleton.mp new
        exact .inr ⟨rfl, rfl, applied⟩

/-- What a call adds to the deletions is its own. -/
theorem mem_deletions_call {other : Nat} {robotId : String}
    (mem : (other, robotId) ∈ (w.call pid env c).deletions) :
    (other, robotId) ∈ w.deletions ∨ other = pid := by
  rcases call_cases w pid env c with same | ⟨applied, same⟩
  · exact .inl (same ▸ mem)
  · rw [same] at mem
    rcases effect_deletions w pid c with same | ⟨deleted, rfl, same⟩
    · exact .inl (same ▸ mem)
    · rw [same] at mem
      rcases List.mem_append.mp mem with old | new
      · exact .inl old
      · cases List.mem_singleton.mp new
        exact .inr rfl

/-- A log after a call: what the call adds fits the stage after it. -/
theorem Fits.after {α : Type} {fits : Stage → α → Prop} {f : World → List (Nat × α)}
    (h : Fits fits w.running (f w)) (found : w.running[pid]? = some x)
    (grows : ∀ a, fits x.stage a → fits (after w env x c next).stage a)
    (effect : f (w.effect pid c) = f w ∨ ∃ a, f (w.effect pid c) = f w ++ [(pid, a)] ∧
      (w.applied env c = true → fits (World.after w env x c next).stage a)) :
    Fits fits (w.running.set pid (World.after w env x c next)) (f (w.call pid env c)) := by
  refine h.step found grows ?_
  rcases call_cases w pid env c with same | ⟨applied, same⟩
  · exact .inl (by rw [same])
  · rw [same]
    rcases effect with same | ⟨a, same, fits⟩
    · exact .inl same
    · exact .inr ⟨a, same, fits applied⟩

/-- What a stage has committed is in the log. -/
theorem Sound.staged_after (h : w.Sound) (found : w.running[pid]? = some x) {other : Nat} {z : Running}
    {all : List Row} (there : (w.running.set pid (after w env x c next))[other]? = some z)
    (rows : z.stage.rows? = some all) :
    (∃ rows, (other, rows) ∈ (w.call pid env c).commits) ∧
      ∀ row ∈ all, ∃ rows, (other, rows) ∈ (w.call pid env c).commits ∧ row ∈ rows := by
  have before : ∀ (y : Running) (all : List Row), w.running[other]? = some y →
      y.stage.rows? = some all → (∃ rows, (other, rows) ∈ (w.call pid env c).commits) ∧
        ∀ row ∈ all, ∃ rows, (other, rows) ∈ (w.call pid env c).commits ∧ row ∈ rows := by
    intro y all there rows
    obtain ⟨⟨some_, mem⟩, each⟩ := h.staged other y all there rows
    refine ⟨⟨some_, mem_commits_call mem⟩, fun row inside => ?_⟩
    obtain ⟨rows, mem, inside⟩ := each row inside
    exact ⟨rows, mem_commits_call mem, inside⟩
  rcases getElem?_after there with ⟨rfl, rfl⟩ | ⟨_, there⟩
  · by_cases commit : ∃ rows, c = .commit rows
    · obtain ⟨committed, rfl⟩ := commit
      rcases next_rows rows with kept | ⟨applied, each⟩
      · exact before x all found kept
      · have logged : (w.call other env (.commit committed)).commits =
            w.commits ++ [(other, committed)] := by
          unfold call
          rw [if_pos (show w.applied env (.commit committed) = true from applied)]
          rfl
        have mem : (other, committed) ∈ (w.call other env (.commit committed)).commits := by
          rw [logged]
          exact List.mem_append_right _ (List.mem_singleton.mpr rfl)
        refine ⟨⟨committed, mem⟩, fun row inside => ?_⟩
        rcases each row inside with new | ⟨earlier, had, old⟩
        · exact ⟨committed, mem, new⟩
        · exact (before x earlier found had).2 row old
    · rw [(next_of_other (fun rows same => commit ⟨rows, same⟩) _).1] at rows
      exact before x all found rows
  · exact before z all there rows

/-- A commit that takes effect has no record that is there already. -/
theorem records_of_applied {rows : List Row} (applied : w.applied env (.commit rows) = true) {s : Scope}
    {record : Record} (mem : Row.record s record ∈ rows) : w.records s = none := by
  by_contra some_
  have taken : w.taken rows = true :=
    List.any_eq_true.mpr ⟨_, mem, Option.isSome_iff_ne_none.mpr some_⟩
  simp [World.applied, reply, taken, Fate.applied] at applied

/-- A commit that takes effect writes the record of a scope that is free, or its own. -/
theorem scope_of_commit {rows : List Row} (allowed : x.stage.allows (.commit rows))
    (applied : w.applied env (.commit rows) = true) {row : Row} (mem : row ∈ rows) {s : Scope}
    (scope : row.scope? = some s) : w.records s = none ∨ x.stage.owns = some s := by
  cases stage : x.stage with
  | working free =>
    rw [stage] at allowed
    obtain ⟨before, record, rfl, plain⟩ := allowed
    rcases List.mem_append.mp mem with early | last
    · rw [plain row early] at scope
      cases scope
    · cases List.mem_singleton.mp last
      cases scope
      exact .inl (records_of_applied applied mem)
  | committed own all stored =>
    rw [stage] at allowed
    rcases (allowed row mem).2 with none | ⟨response, rfl⟩
    · rw [none] at scope
      cases scope
    · cases scope
      exact .inr rfl
  | releasing =>
    rw [stage] at allowed
    rw [allowed row mem] at scope
    cases scope
  | entering | replayed | answered | released =>
    rw [stage] at allowed
    exact allowed.elim

/-- The record of another's scope stays. -/
theorem Sound.records_after (h : w.Sound) (found : w.running[pid]? = some x) (allowed : x.stage.allows c)
    {other : Nat} {z : Running} (there : w.running[other]? = some z) (ne : other ≠ pid) {s : Scope}
    (owns : z.stage.owns = some s) : (w.call pid env c).records s = w.records s := by
  rcases call_cases w pid env c with same | ⟨applied, same⟩
  · rw [same]
  · rw [same]
    rcases effect_records w pid c with same | ⟨rows, rfl, same⟩
    · rw [same]
    · rw [same]
      refine foldl_writeRecord_of_ne (fun row mem scope => ?_) _
      rcases scope_of_commit allowed applied mem scope with free | own
      · obtain ⟨record, some_, _⟩ := h.owned other z s there owns
        rw [free] at some_
        cases some_
      · exact ne (h.unique other pid z x s there found owns own)

/-- Who owns a scope after its call has owned it before, or has found it free. -/
theorem owns_after (allowed : x.stage.allows c) {s : Scope}
    (owns : (after w env x c next).stage.owns = some s) :
    x.stage.owns = some s ∨ w.records s = none := by
  by_cases commit : ∃ rows, c = .commit rows
  · obtain ⟨rows, rfl⟩ := commit
    change (x.stage.next (.commit rows) (w.reply env (.commit rows))).owns = some s at owns
    cases stage : x.stage with
    | working scope =>
      rw [stage] at allowed owns
      obtain ⟨before, record, rfl, _⟩ := allowed
      simp only [Stage.next] at owns
      split at owns
      next applied _ =>
        cases owns
        exact .inr (records_of_applied applied (List.mem_append_right _ (List.mem_singleton.mpr rfl)))
      · cases owns
    | committed scope all stored =>
      rw [stage] at owns
      simp only [Stage.next] at owns
      split at owns <;> exact .inl owns
    | releasing =>
      rw [stage] at owns
      simp only [Stage.next] at owns
      split at owns <;> cases owns
    | entering | replayed | answered | released =>
      rw [stage] at allowed
      exact allowed.elim
  · have kept := (next_of_other (t := x.stage) (fun rows same => commit ⟨rows, same⟩) (w.reply env c)).2.1
    exact .inl (kept ▸ owns)

/-- The record of a scope after a call of its owner. -/
theorem Sound.owned_after (h : w.Sound) (found : w.running[pid]? = some x) (allowed : x.stage.allows c)
    {s : Scope} (owns : (after w env x c next).stage.owns = some s) :
    ∃ record, (w.call pid env c).records s = some record ∧
      (after w env x c next).stage.sends = some record.response := by
  by_cases commit : ∃ rows, c = .commit rows
  · obtain ⟨rows, rfl⟩ := commit
    change (x.stage.next (.commit rows) (w.reply env (.commit rows))).owns = some s at owns
    change ∃ record, _ ∧ (x.stage.next (.commit rows) (w.reply env (.commit rows))).sends = _
    cases applied : w.applied env (.commit rows) with
    | true =>
      have fate : Fate.applied (w.reply env (.commit rows)) = true := applied
      have written : (w.call pid env (.commit rows)).records = rows.foldl writeRecord w.records := by
        unfold call
        rw [if_pos applied]
        rfl
      rw [written]
      cases stage : x.stage with
      | working scope =>
        rw [stage] at allowed owns
        obtain ⟨before, record, rfl, plain⟩ := allowed
        have last : lastRecord (before ++ [.record scope record]) = some record := by
          simp [lastRecord]
        simp only [Stage.next, fate, last] at owns ⊢
        cases owns
        refine ⟨record, ?_, rfl⟩
        rw [List.foldl_append]
        exact Function.update_self ..
      | committed scope all stored =>
        rw [stage] at allowed owns
        simp only [Stage.next, fate, if_true] at owns ⊢
        cases owns
        obtain ⟨record, there, sends⟩ := h.owned pid x s found (by rw [stage]; rfl)
        rw [stage] at sends
        cases sends
        obtain ⟨later, same, response, _⟩ :=
          foldl_writeRecord_changes (fun row mem => (allowed row mem).2) there
        exact ⟨later, same, by rw [response]; rfl⟩
      | releasing =>
        rw [stage] at owns
        simp only [Stage.next, fate, if_true] at owns
        cases owns
      | entering | replayed | answered | released =>
        rw [stage] at allowed
        exact allowed.elim
    | false =>
      have fate : Fate.applied (w.reply env (.commit rows)) = false := applied
      have unwritten : (w.call pid env (.commit rows)) = w := by
        unfold call
        rw [if_neg (Bool.eq_false_iff.mp applied)]
      have stays : x.stage.next (.commit rows) (w.reply env (.commit rows)) = x.stage := by
        cases x.stage <;> simp [Stage.next, fate]
      rw [stays] at owns ⊢
      rw [unwritten]
      exact h.owned pid x s found owns
  · have other : ∀ rows, c ≠ .commit rows := fun rows same => commit ⟨rows, same⟩
    obtain ⟨_, same, sends⟩ := next_of_other (t := x.stage) other (w.reply env c)
    have before : x.stage.owns = some s := same ▸ owns
    obtain ⟨record, there, sent⟩ := h.owned pid x s found before
    refine ⟨record, ?_, (sends (by rw [before]; rfl)).trans sent⟩
    rcases call_cases w pid env c with same | ⟨_, same⟩
    · rw [same]
      exact there
    · rw [same]
      rcases effect_records w pid c with same | ⟨rows, rfl, _⟩
      · rw [same]
        exact there
      · exact absurd rfl (other rows)

/-- One call keeps the invariant. -/
theorem Sound.call (h : w.Sound) (found : w.running[pid]? = some x) (allowed : x.stage.allows c)
    (rest : Follows (x.stage.next c (w.reply env c)) (fun _ _ => True) (next (w.reply env c))) :
    Sound { w.call pid env c with running := w.running.set pid (after w env x c next) } where
  follows other z there := by
    rcases getElem?_after there with ⟨rfl, rfl⟩ | ⟨_, there⟩
    · exact ⟨rest, (next_grows allowed (w.reply env c)).caller.trans (h.follows other x found).2⟩
    · exact h.follows other z there
  commits := h.commits.after (f := World.commits) found (fun _ => Committed.grows (next_grows allowed _)) <| by
    rcases effect_commits w pid c with same | ⟨rows, rfl, same⟩
    · exact .inl same
    · exact .inr ⟨rows, same, fun applied => committed_of_commit allowed applied⟩
  stream := h.stream.after (f := World.stream) found (fun _ => Queued.grows (next_grows allowed _)) <| by
    rcases effect_stream w pid c with same | ⟨payload, rfl, same⟩
    · exact .inl same
    · exact .inr ⟨payload, same, fun _ => Queued.grows (next_grows allowed (w.reply env _)) (queued_of_allows allowed)⟩
  deletions := h.deletions.after (f := World.deletions) found (fun _ => After.grows (next_grows allowed _)) <| by
    rcases effect_deletions w pid c with same | ⟨robotId, rfl, same⟩
    · exact .inl same
    · exact .inr ⟨robotId, same, fun _ => After.grows (next_grows allowed (w.reply env _)) (after_of_deleteLease allowed)⟩
  events := h.events.after (f := World.events) found (fun _ => After.grows (next_grows allowed _)) <| by
    rcases effect_events w pid c with same | ⟨type, rfl, same⟩
    · exact .inl same
    · exact .inr ⟨type, same, fun _ => After.grows (next_grows allowed (w.reply env _)) (after_of_appendEvent allowed)⟩
  responses := h.responses.after (f := World.responses) found (fun _ => (next_grows allowed _).sent _) <| by
    rcases effect_responses w pid c with same | ⟨response, rfl, same⟩
    · exact .inl same
    · exact .inr ⟨response, same, fun _ => sent_of_respond allowed _⟩
  staged other z all there rows := h.staged_after found there rows
  owned other z s there owns := by
    rcases getElem?_after there with ⟨rfl, rfl⟩ | ⟨ne, there⟩
    · exact h.owned_after found allowed owns
    · obtain ⟨record, some_, sends⟩ := h.owned other z s there owns
      exact ⟨record, (h.records_after found allowed there ne owns).trans some_, sends⟩
  unique a b y z s left right owns owns' := by
    have apart : ∀ (other : Nat) (z : Running), other ≠ pid → w.running[other]? = some z →
        z.stage.owns = some s → (after w env x c next).stage.owns = some s → False := by
      intro other z ne there owns mine
      rcases owns_after allowed mine with before | free
      · exact ne (h.unique other pid z x s there found owns before)
      · obtain ⟨record, some_, _⟩ := h.owned other z s there owns
        rw [free] at some_
        cases some_
    rcases getElem?_after left with ⟨rfl, rfl⟩ | ⟨ne, before⟩
    · rcases getElem?_after right with ⟨rfl, rfl⟩ | ⟨ne, there⟩
      · rfl
      · exact (apart b z ne there owns' owns).elim
    · rcases getElem?_after right with ⟨rfl, rfl⟩ | ⟨_, there⟩
      · exact (apart a y ne before owns owns').elim
      · exact h.unique a b y z s before there owns owns'

end

/-! ## Every run -/

section

variable {w : World}

/-- The empty world is sound. -/
theorem Sound.initial : Sound initial where
  follows _ _ there := by cases there
  commits := fits_nil
  stream := fits_nil
  deletions := fits_nil
  events := fits_nil
  responses := fits_nil
  staged _ _ _ there := by cases there
  owned _ _ _ there := by cases there
  unique _ _ _ _ _ there := by cases there

theorem getElem?_append {other : Nat} {y z : Running} (there : (w.running ++ [y])[other]? = some z) :
    w.running[other]? = some z ∨ other = w.running.length ∧ z = y := by
  by_cases old : other < w.running.length
  · rw [List.getElem?_append_left old] at there
    exact .inl there
  · have bound := (List.getElem?_eq_some_iff.mp there).1
    rw [List.length_append, List.length_singleton] at bound
    have same : other = w.running.length := by omega
    subst same
    rw [List.getElem?_concat_length] at there
    exact .inr ⟨rfl, (Option.some.inj there).symm⟩

/-- A process begins, with nothing committed. -/
theorem Sound.begin (h : w.Sound) {y : Running} (follows : Follows y.stage (fun _ _ => True) y.process)
    (kind : y.stage.caller = Origin.caller y.origin) (rows : y.stage.rows? = none) (owns : y.stage.owns = none) :
    Sound { w with running := w.running ++ [y] } where
  follows other z there := by
    rcases getElem?_append there with there | ⟨_, rfl⟩
    · exact h.follows other z there
    · exact ⟨follows, kind⟩
  commits := h.commits.append y
  stream := h.stream.append y
  deletions := h.deletions.append y
  events := h.events.append y
  responses := h.responses.append y
  staged other z all there some_ := by
    rcases getElem?_append there with there | ⟨_, rfl⟩
    · exact h.staged other z all there some_
    · rw [rows] at some_
      cases some_
  owned other z s there some_ := by
    rcases getElem?_append there with there | ⟨_, rfl⟩
    · exact h.owned other z s there some_
    · rw [owns] at some_
      cases some_
  unique a b x z s left right some_ some_' := by
    rcases getElem?_append left with left' | ⟨_, rfl⟩
    · rcases getElem?_append right with right' | ⟨_, rfl⟩
      · exact h.unique a b x z s left' right' some_ some_'
      · rw [owns] at some_'
        cases some_'
    · rw [owns] at some_
      cases some_

/-- A process is killed. -/
theorem Sound.kill (h : w.Sound) {pid : Nat} {x : Running} (found : w.running[pid]? = some x) :
    Sound { w with running := w.running.set pid { x with process := .raise .other } } where
  follows other z there := by
    rcases getElem?_after there with ⟨rfl, rfl⟩ | ⟨_, there⟩
    · exact ⟨trivial, (h.follows other x found).2⟩
    · exact h.follows other z there
  commits := h.commits.set found fun _ ok => ok
  stream := h.stream.set found fun _ ok => ok
  deletions := h.deletions.set found fun _ ok => ok
  events := h.events.set found fun _ ok => ok
  responses := h.responses.set found fun _ ok => ok
  staged other z all there rows := by
    rcases getElem?_after there with ⟨rfl, rfl⟩ | ⟨_, there⟩
    · exact h.staged other x all found rows
    · exact h.staged other z all there rows
  owned other z s there owns := by
    rcases getElem?_after there with ⟨rfl, rfl⟩ | ⟨_, there⟩
    · exact h.owned other x s found owns
    · exact h.owned other z s there owns
  unique a b y z s left right owns owns' := by
    have back : ∀ (other : Nat) (z : Running),
        (w.running.set pid { x with process := .raise .other })[other]? = some z →
          ∃ z', w.running[other]? = some z' ∧ z'.stage = z.stage := by
      intro other z there
      rcases getElem?_after there with ⟨rfl, rfl⟩ | ⟨_, there⟩
      · exact ⟨x, found, rfl⟩
      · exact ⟨z, there, rfl⟩
    obtain ⟨y', before, same⟩ := back a y left
    obtain ⟨z', there, same'⟩ := back b z right
    exact h.unique a b y' z' s before there (same ▸ owns) (same' ▸ owns')

variable (requestHash : JsonTree → String)

/-- Every event keeps the world sound. -/
theorem Sound.step (h : w.Sound) (e : Event) : (w.step requestHash e).Sound := by
  cases e with
  | arrive actorId key request =>
    exact h.begin (request_follows requestHash actorId key request) rfl rfl rfl
  | release userId reason => exact h.begin (release_follows userId reason) rfl rfl rfl
  | kill pid =>
    simp only [World.step]
    split
    · exact h
    next x found => exact h.kill found
  | go pid env =>
    simp only [World.step]
    split
    · exact h
    next x found =>
      unfold go
      split
      · exact h
      · exact h
      next c next process =>
        have follows := (h.follows pid x found).1
        rw [process] at follows
        exact h.call found follows.1 (follows.2 _)

/-- **The invariant holds in every state of every run.** -/
theorem Sound.run (events : List Event) : (run requestHash .initial events).Sound :=
  Runs.run_of_step (fun _ e h => h.step requestHash e) _ events .initial

end

end World

end Firebot.Api
