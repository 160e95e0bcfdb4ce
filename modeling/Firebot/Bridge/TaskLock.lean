import Firebot.Lib.Ownership
import Firebot.Bridge.Run

/-!
# The task lock and the pending table

The processor takes the task lock by task id, before the command is pending, and gives it back by
command kind, in four handlers. `book` reads the lock and the pending table as a token beside a table
of entries; each handler is then one act of the `Ownership` library on the key of its own command
(`deliver_act`, `onFeedback_act`, `fire_act`), and the correspondence between the lock and the
pending task follows for every run.

One input breaks it: a command that needs no lock, forwarded under the `command_id` of a task command that is
still pending, replaces the task's entry and leaves the lock to nobody. The table of processed commands does not
stop it once the task's record has expired. `KeepsKind` excludes it. **In every run that keeps kinds apart the
lock belongs to the one pending task, and only a handler of that task's command frees it** (`task_lock`).
Nothing is said of when it is freed: a task that is never answered nor timed out keeps it.
-/

namespace Firebot.Bridge.Processor

open Ownership

/-! ## The lock and the table as a book -/

/-- The token a command needs: the task id of a task command. -/
def token (c : Command) : Option Json := if c.isTask then some c.task else none

/-- The task lock beside the pending table. -/
def book (p : Processor) : Book CommandId Json where
  holder := p.state.taskLockId
  entries id := (p.pending id).map fun entry => token entry.command

theorem owns_iff {p : Processor} {id : CommandId} {t : Json} :
    p.book.Owns id t ↔ ∃ entry, p.pending id = some entry ∧ entry.command.isTask = true ∧
      entry.command.task = t := by
  simp only [Book.Owns, book, Option.map_eq_some_iff]
  refine exists_congr fun entry => and_congr_right fun _ => ?_
  unfold token
  cases entry.command.isTask <;> simp

@[simp] theorem book_ack (p : Processor) (c : Command) (s : AckStatus) (r : Json) :
    (p.ack c s r).book = p.book := by
  simp only [book, ack_taskLockId, ack_pending]

@[simp] theorem book_reportTask (p : Processor) (id : CommandId) (task : Json) (s : ReportStatus)
    (phase progress : Json) (f : Feedback) :
    (p.reportTask id task s phase progress f).book = p.book := by
  simp only [book, reportTask_state, BridgeState.rememberTaskStatus,
    BridgeState.touchRecord_taskLockId, reportTask_pending]

@[simp] theorem book_cancelTimer (p : Processor) (handle : Nat) :
    (p.cancelTimer handle).book = p.book := rfl

@[simp] theorem book_replay (p : Processor) (record : CommandRecord) :
    (p.replay record).book = p.book := by
  rw [replay_eq]
  rfl

/-- Marking an entry as acked leaves its command where it is. -/
theorem book_markAcked {p : Processor} {id : CommandId} {entry : Pending}
    (here : p.pending id = some entry) : (p.markAcked id entry).book = p.book := by
  simp only [book, markAcked_state, markAcked_pending]
  congr 1
  funext k
  by_cases at_key : k = id
  · subst at_key
    simp only [Function.update_self, here, Option.map_some]
  · simp only [Function.update_of_ne at_key]

theorem book_acceptedAck {p : Processor} {entry : Pending} {f : Feedback}
    (here : p.pending f.commandId = some entry) : (p.acceptedAck entry f).book = p.book := by
  rw [acceptedAck, book_ack]
  exact book_markAcked here

/-- A finalized entry is a closed one, when its lock has been given back. -/
theorem book_finalize {p q : Processor} {id : CommandId} {entry : Pending}
    (here : p.pending id = some entry) (table : q.book.entries = p.book.entries)
    (lock : q.state.taskLockId = if entry.command.isTask then none else p.state.taskLockId) :
    (q.finalize id entry).book = p.book.close id := by
  have closed : (q.finalize id entry).book.entries = Function.update q.book.entries id none := by
    funext k
    by_cases at_key : k = id
    · subst at_key
      simp only [book, finalize_pending, Function.update_self, Option.map_none]
    · simp only [book, finalize_pending, Function.update_of_ne at_key]
  have returned : (q.finalize id entry).book.holder = (p.book.close id).holder := by
    simp only [book, finalize_state, BridgeState.markTerminal, BridgeState.touchRecord_taskLockId,
      lock, Book.close, here, Option.map_some, Option.join_some, token]
    cases entry.command.isTask <;> rfl
  rw [table] at closed
  exact Book.ext returned closed

/-- Entering a command writes its entry. -/
theorem book_put_entered (p : Processor) (c : Command) :
    p.book.put c.id (token c) = (p.entered c).book := by
  refine Book.ext rfl (funext ?_)
  intro k
  by_cases at_key : k = c.id
  · subst at_key
    simp only [Book.put, book, entered, Function.update_self, Option.map_some]
  · simp only [Book.put, book, entered, Function.update_of_ne at_key]

theorem book_entered (p : Processor) (c : Command) :
    (((p.registered c).locked c).called c true |>.entered c).book = p.book.enter c.id (token c) := by
  unfold token
  cases task : c.isTask with
  | false =>
    simp only [book, entered, called, locked, registered, task, Bool.false_eq_true, if_false,
      BridgeState.registerCommand_taskLockId, Book.enter, Option.orElse_eq_orElse, Option.orElse_none]
    congr 1
    funext k
    by_cases at_key : k = c.id
    · subst at_key
      simp only [Function.update_self, Option.map_some, token, task, Bool.false_eq_true, if_false]
    · simp only [Function.update_of_ne at_key]
  | true =>
    simp only [book, entered, called, locked, registered, task, if_true, Book.enter]
    congr 1
    funext k
    by_cases at_key : k = c.id
    · subst at_key
      simp only [Function.update_self, Option.map_some, token, task, if_true]
    · simp only [Function.update_of_ne at_key]

/-- A command the ROS child did not take gives back the lock it has just taken. -/
theorem book_undelivered {p : Processor} {c : Command} (free : ¬ p.conflicts c) :
    ((((p.registered c).locked c).called c false).releaseIfNeeded c).book = p.book := by
  cases task : c.isTask with
  | false => simp only [book, releaseIfNeeded, called, locked, registered, task,
      Bool.false_eq_true, if_false, BridgeState.registerCommand_taskLockId]
  | true =>
    have none_held : p.state.taskLockId = none := by_contra fun held => free ⟨task, held⟩
    simp only [book, releaseIfNeeded, called, locked, registered, task, if_true,
      BridgeState.releaseTask_taskLockId, none_held]

/-! ## Each handler is an act on its own command -/

/-- A feedback closes its command's entry, or leaves the book alone. -/
theorem onFeedback_book (p : Processor) (f : Feedback) :
    (p.onFeedback f).book = if p.closes f then p.book.close f.commandId else p.book := by
  cases here : p.pending f.commandId with
  | none => rw [onFeedback_unknown here, if_neg (not_closes_of_unknown here)]
  | some entry =>
    rw [onFeedback_pending here]
    simp only [closes_iff here]
    have taken := fed p entry f
    generalize p.applyFeedback entry f = q at taken ⊢
    cases taken with
    | acceptedTask state task =>
      rw [book_reportTask, book_acceptedAck here, if_neg (by simp [closedBy, state, task])]
    | accepted state plain =>
      have same := book_acceptedAck (f := f) here
      rw [if_pos (by simp [closedBy, state, plain]),
        book_finalize here (congrArg Book.entries same) (by
          rw [plain]
          exact congrArg Book.holder same)]
    | rejected state =>
      rw [if_pos (by simp [closedBy, state]), book_finalize here (by simp [book]) (by
        rw [ack_taskLockId, releaseIfNeeded_taskLockId])]
    | executing state task => rw [book_reportTask, if_neg (by simp [closedBy, state])]
    | terminal status phase progress state task =>
      have closed : closedBy entry f = true := by
        simp only [List.mem_cons, List.not_mem_nil, or_false] at state
        rcases state with state | state | state <;> simp [closedBy, state, task]
      rw [if_pos closed, settled, book_finalize here (by simp [book]) (by
        rw [reportTask_state, BridgeState.rememberTaskStatus, BridgeState.touchRecord_taskLockId,
          releaseIfNeeded_taskLockId])]
    | ignored state why =>
      have stays : ¬ closedBy entry f = true := by
        simp only [List.mem_cons, List.not_mem_nil, or_false, not_or] at state
        unfold closedBy
        rcases why with unknown | plain
        · rw [unknown]
          exact Bool.false_ne_true
        · cases known : f.state with
          | none => exact Bool.false_ne_true
          | some s =>
            cases s with
            | accepted => exact absurd known state.1
            | rejected => exact absurd known state.2
            | executing => exact Bool.false_ne_true
            | completed | failed | cancelled => simp only [plain, Bool.false_eq_true, not_false_eq_true]
      exact (if_neg stays).symm

/-- A fired timer closes the entry of the command it rejects, or leaves the book alone. -/
theorem fire_book (p : Processor) (handle : Nat) : (p.fire handle).book =
    match p.timesOut handle with
    | none => p.book
    | some id => p.book.close id := by
  have fires := fired p handle
  generalize p.fire handle = q at fires ⊢
  cases fires with
  | idle quiet => rw [timesOut_of_idle quiet]
  | answered timer armed done => rw [timesOut_of_answered armed done, book_cancelTimer]
  | rejected timer entry armed waiting unacked =>
    rw [timesOut_of_waiting armed waiting unacked, timedOut,
      book_finalize (p := p) waiting (by simp [book]) (by
        rw [ack_taskLockId, releaseIfNeeded_taskLockId, cancelTimer_state])]

/-- A feedback acts on the command it names. -/
theorem onFeedback_act (p : Processor) (f : Feedback) :
    Act f.commandId p.book (p.onFeedback f).book := by
  rw [onFeedback_book]
  split
  · exact .close _
  · exact .stay _

/-- A timer that rejects acts on the command it was started for. -/
theorem fire_act (p : Processor) (handle : Nat) : (p.fire handle).book = p.book ∨
    ∃ timer ∈ p.timers, timer.handle = handle ∧
      Act timer.commandId p.book (p.fire handle).book := by
  rw [fire_book]
  cases out : p.timesOut handle with
  | none => exact .inl rfl
  | some id =>
    obtain ⟨timer, _, armed, rfl, _, _⟩ := timesOut_eq_some out
    exact .inr ⟨timer, (armed_mem armed).1, (armed_mem armed).2, .close _⟩

/-- The command that goes to the ROS child replaces no pending task of another kind. -/
def KeepsKind (p : Processor) : Event → Prop
  | .deliver c true => p.forwards c → c.isTask = false →
      ∀ entry ∈ p.pending c.id, entry.command.isTask = false
  | _ => True

instance (p : Processor) : (e : Event) → Decidable (p.KeepsKind e)
  | .deliver c true =>
    inferInstanceAs (Decidable (p.forwards c → c.isTask = false →
      ∀ entry ∈ p.pending c.id, entry.command.isTask = false))
  | .deliver _ false | .feedback _ | .timeout _ | .advance _ | .applyStatus _ | .setLocation _
  | .clearRosTelemetry => isTrue trivial

/-- The first half of a delivery leaves a command in flight exactly when it is forwarded and the ROS
child takes it. -/
theorem beginCommand_written_iff {p : Processor} {c : Command} {delivered : Bool} :
    (p.beginCommand c delivered).2 = true ↔ p.forwards c ∧ delivered = true := by
  have cases_of := begun p c delivered
  generalize p.beginCommand c delivered = q at cases_of ⊢
  cases cases_of with
  | raised e verdict =>
    exact iff_of_false Bool.false_ne_true fun sent => by cases verdict.symm.trans sent.1.1
  | refused reason verdict =>
    exact iff_of_false Bool.false_ne_true fun sent => by cases verdict.symm.trans sent.1.1
  | replayed record verdict found =>
    exact iff_of_false Bool.false_ne_true fun sent => by cases found.symm.trans sent.1.2.1
  | conflict verdict fresh held =>
    exact iff_of_false Bool.false_ne_true fun sent => sent.1.2.2 held
  | undelivered verdict fresh free lost =>
    exact iff_of_false Bool.false_ne_true fun sent => by cases lost.symm.trans sent.2
  | written verdict fresh free got => exact iff_of_true rfl ⟨⟨verdict, fresh, free⟩, got⟩

/-- A delivery that leaves nothing in flight leaves the book alone. -/
theorem beginCommand_book_done {p : Processor} {c : Command} {delivered : Bool}
    (done : (p.beginCommand c delivered).2 = false) :
    (p.beginCommand c delivered).1.book = p.book := by
  have cases_of := begun p c delivered
  generalize p.beginCommand c delivered = q at cases_of done ⊢
  cases cases_of with
  | raised => rfl
  | refused => exact book_ack ..
  | replayed => exact book_replay ..
  | conflict => exact book_ack ..
  | undelivered verdict fresh free lost => rw [book_ack, book_undelivered free]
  | written => cases done

/-- A delivery that leaves its command in flight has taken the token; with the entry written beside
it, the command is entered. -/
theorem beginCommand_book_written {p : Processor} {c : Command} {delivered : Bool}
    (more : (p.beginCommand c delivered).2 = true) :
    (p.beginCommand c delivered).1.book.put c.id (token c) = p.book.enter c.id (token c) := by
  have cases_of := begun p c delivered
  generalize p.beginCommand c delivered = q at cases_of more ⊢
  cases cases_of with
  | written verdict fresh free got => rw [book_put_entered, book_entered]
  | raised | refused | replayed | conflict | undelivered => cases more

/-- A forwarded command that needs the token finds it in the cell. -/
theorem forwards_free {p : Processor} {c : Command} (sent : p.forwards c)
    (needs : (token c).isSome) : p.book.holder = none := by
  refine by_contra fun held => sent.2.2 ⟨?_, held⟩
  unfold token at needs
  exact by_contra fun plain => by simp [plain] at needs

/-- A delivery acts on the command it delivers. -/
theorem deliver_act {p : Processor} {c : Command} {delivered : Bool} (sound : p.book.Sound)
    (kept : p.KeepsKind (.deliver c delivered)) :
    Act c.id p.book (p.onCommand c delivered).book := by
  cases began : p.beginCommand c delivered with
  | mk q more =>
    cases more with
    | false =>
      have same : (p.beginCommand c delivered).1.book = p.book :=
        beginCommand_book_done (by rw [began])
      rw [began] at same
      rw [onCommand_of_done began, same]
      exact .stay _
    | true =>
      have written : (p.beginCommand c delivered).2 = true := by rw [began]
      have entered := beginCommand_book_written written
      obtain ⟨sent, got⟩ := beginCommand_written_iff.mp written
      subst got
      simp only [began, book_put_entered] at entered
      have entering : Act c.id p.book (q.entered c).book := by
        rw [entered]
        refine .enter _ _ (forwards_free sent) ?_
        intro t owns
        obtain ⟨entry, here, task, _⟩ := owns_iff.mp owns
        cases kind : c.isTask with
        | false => exact Bool.noConfusion ((kept sent kind entry here).symm.trans task)
        | true => exact sent.2.2 ⟨kind, fun none_held =>
            Option.some_ne_none t ((sound.held _ _ owns).symm.trans none_held)⟩
      rw [onCommand_of_written began, registerPending_eq]
      split
      · exact entering.trans (onFeedback_act _ (stubFeedback _ c))
      · exact entering

/-! ## Every run -/

/-- A step leaves the book alone or acts on a command it handles. -/
theorem step_act {p : Processor} {e : Event} (sound : p.book.Sound) (kept : p.KeepsKind e) :
    (p.step e).book = p.book ∨ ∃ id, p.handles e id ∧ Act id p.book (p.step e).book := by
  cases e with
  | deliver c delivered => exact .inr ⟨c.id, rfl, deliver_act sound kept⟩
  | feedback f => exact .inr ⟨f.commandId, rfl, onFeedback_act p f⟩
  | timeout handle =>
    rcases fire_act p handle with idle | ⟨timer, mem, at_handle, act⟩
    · exact .inl idle
    · exact .inr ⟨timer.commandId, ⟨timer, mem, at_handle, rfl⟩, act⟩
  | advance elapsed => exact .inl rfl
  | applyStatus fields => exact .inl rfl
  | setLocation value =>
    refine .inl ?_
    simp only [step, telemetry, book, BridgeState.setLocation_taskLockId]
  | clearRosTelemetry => exact .inl rfl

theorem book_sound_step (p : Processor) (e : Event) (sound : p.book.Sound) (kept : p.KeepsKind e) :
    (p.step e).book.Sound := by
  rcases step_act sound kept with same | ⟨id, _, act⟩
  · exact same ▸ sound
  · exact act.sound sound

/-- A task command is pending under the id. -/
def taskPending (p : Processor) (id : CommandId) : Prop :=
  ∃ entry, p.pending id = some entry ∧ entry.command.isTask = true

/-- **The task lock is held exactly when one task command is pending, and holds its task id.** -/
structure LockInvariant (p : Processor) : Prop where
  held_iff : p.state.taskLockId ≠ none ↔ ∃! id, p.taskPending id
  names : ∀ id entry, p.pending id = some entry → entry.command.isTask = true →
    p.state.taskLockId = some entry.command.task
  single : ∀ id id', p.taskPending id → p.taskPending id' → id = id'

theorem taskPending_iff {p : Processor} {id : CommandId} :
    p.taskPending id ↔ ∃ t, p.book.Owns id t := by
  constructor
  · rintro ⟨entry, here, task⟩
    exact ⟨_, owns_iff.mpr ⟨entry, here, task, rfl⟩⟩
  · rintro ⟨t, owns⟩
    obtain ⟨entry, here, task, _⟩ := owns_iff.mp owns
    exact ⟨entry, here, task⟩

theorem lockInvariant_of_sound {p : Processor} (sound : p.book.Sound) : p.LockInvariant where
  held_iff := by
    simp only [taskPending_iff]
    exact sound.holder_iff
  names id entry here task := sound.held id _ (owns_iff.mpr ⟨entry, here, task, rfl⟩)
  single id id' first second := by
    obtain ⟨t, owns⟩ := taskPending_iff.mp first
    obtain ⟨t', owns'⟩ := taskPending_iff.mp second
    exact sound.unique id id' t t' owns owns'

theorem book_sound_initial (config : Config) (vehicleId bootId : String) (start : Time) :
    (initial config vehicleId bootId start).book.Sound := Book.Sound.empty

/-- **In every run that keeps kinds apart the lock belongs to the one pending task, and only a
handler of that task's command frees it.** -/
theorem task_lock (config : Config) (vehicleId bootId : String) (start : Time)
    (events : List Event)
    (kept : Runs.Meets step KeepsKind (initial config vehicleId bootId start) events) :
    ((initial config vehicleId bootId start).run events).LockInvariant ∧
      ∀ event, ((initial config vehicleId bootId start).run events).KeepsKind event →
        ∀ t, ((initial config vehicleId bootId start).run events).state.taskLockId = some t →
          (((initial config vehicleId bootId start).run events).step event).state.taskLockId
            ≠ some t →
          ∃ id entry, ((initial config vehicleId bootId start).run events).pending id = some entry ∧
            entry.command.isTask = true ∧ entry.command.task = t ∧
            ((initial config vehicleId bootId start).run events).handles event id := by
  have sound : ((initial config vehicleId bootId start).run events).book.Sound :=
    Runs.invariant (I := fun p => p.book.Sound) book_sound_step
      (book_sound_initial config vehicleId bootId start) kept
  generalize (initial config vehicleId bootId start).run events = p at sound ⊢
  refine ⟨lockInvariant_of_sound sound, ?_⟩
  intro event keeps t held freed
  obtain ⟨id, owns⟩ := sound.owned t held
  obtain ⟨entry, here, task, names⟩ := owns_iff.mp owns
  refine ⟨id, entry, here, task, names, ?_⟩
  rcases step_act sound keeps with same | ⟨key, handled, act⟩
  · exact absurd ((congrArg Book.holder same).trans held) freed
  · have own : id = key := by_contra fun ne => freed (act.holder_of_ne sound ne owns)
    exact own ▸ handled

/-- A patrol that is accepted, driven and completed, with a `stop_motion` beside it. -/
theorem task_lock_patrol :
    (vehicle.run [.deliver (patrol "P") true, .feedback (answer "P" .accepted),
      .deliver (stopMotion "S") true, .feedback (answer "S" .accepted)]).LockInvariant :=
  (task_lock Config.vehicle "V1" "B1" 0 _ (by decide)).1

/-- Five minutes after the last word about a patrol, a `stop_motion` that carries its `command_id`
replaces the patrol's entry: the lock is held and no task is pending. -/
theorem not_task_lock_reused_id :
    ¬ (vehicle.run [.deliver (patrol "P") true, .feedback (answer "P" .accepted),
      .advance 300000001, .deliver (stopMotion "P") true]).LockInvariant := by
  intro lock
  obtain ⟨id, ⟨entry, here, task⟩, _⟩ := lock.held_iff.mp (by decide)
  by_cases reused : id = .text "P"
  · subst reused
    have stop : entry = { command := stopMotion "P", timer := 1, acked := false } :=
      Option.some.inj (here.symm.trans (by decide))
    exact absurd task (by rw [stop]; decide)
  · have other (p : Processor) (c : Command) (named : c.id = .text "P") :
        (p.step (.deliver c true)).pending id = p.pending id :=
      step_pending fun same => reused (same.symm.trans named)
    have answered (p : Processor) :
        (p.step (.feedback (answer "P" .accepted))).pending id = p.pending id :=
      step_pending fun same => reused same.symm
    have waited (p : Processor) : (p.step (.advance 300000001)).pending id = p.pending id := rfl
    have untouched (p : Processor) : (p.run [.deliver (patrol "P") true,
        .feedback (answer "P" .accepted), .advance 300000001,
        .deliver (stopMotion "P") true]).pending id = p.pending id := by
      simp only [run, Runs.run_cons, Runs.run_nil]
      rw [other _ (stopMotion "P") rfl, waited, answered, other _ (patrol "P") rfl]
    exact Option.some_ne_none entry (here.symm.trans (untouched vehicle))

end Firebot.Bridge.Processor
