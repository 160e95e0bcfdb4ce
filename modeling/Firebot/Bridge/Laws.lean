import Firebot.Bridge.Processor

/-!
# What each handler of the command processor does

One inversion for each handler: `Begun` lists the six ways `beginCommand` ends, `Fed` the ways a
pending command takes a feedback, `TimedOut` the one way a timer acts. Each constructor carries the
guard of its branch and the state the branch produces, written with the small operations of the
processor, whose effect on every field of interest is a `simp` lemma. Later proofs split on these
and never unfold a handler.
-/

namespace Firebot.Bridge.Processor

/-! ## The small operations, field by field -/

section Fields

variable (p : Processor) (c : Command) (s : AckStatus) (r : Json) (id : CommandId)
  (pending : Pending) (handle : Nat)

@[simp] theorem ack_now : (p.ack c s r).now = p.now := rfl
@[simp] theorem ack_pending : (p.ack c s r).pending = p.pending := rfl
@[simp] theorem ack_calls : (p.ack c s r).calls = p.calls := rfl

@[simp] theorem ack_published :
    (p.ack c s r).published = p.published ++ [.commandAck (p.ackMessage c s r)] := rfl

@[simp] theorem ack_state :
    (p.ack c s r).state = p.state.rememberAck c.id (p.ackMessage c s r) p.now := rfl

/-- An ACK leaves the lock alone. -/
theorem ack_taskLockId : (p.ack c s r).state.taskLockId = p.state.taskLockId := by
  rw [ack_state, BridgeState.rememberAck, BridgeState.touchRecord_taskLockId]

@[simp] theorem ackMessage_commandId : (p.ackMessage c s r).commandId = c.id := rfl

@[simp] theorem cancelTimer_now : (p.cancelTimer handle).now = p.now := rfl
@[simp] theorem cancelTimer_pending : (p.cancelTimer handle).pending = p.pending := rfl
@[simp] theorem cancelTimer_calls : (p.cancelTimer handle).calls = p.calls := rfl
@[simp] theorem cancelTimer_published : (p.cancelTimer handle).published = p.published := rfl
@[simp] theorem cancelTimer_state : (p.cancelTimer handle).state = p.state := rfl

@[simp] theorem markAcked_now : (p.markAcked id pending).now = p.now := rfl
@[simp] theorem markAcked_calls : (p.markAcked id pending).calls = p.calls := rfl
@[simp] theorem markAcked_state : (p.markAcked id pending).state = p.state := rfl

@[simp] theorem markAcked_pending : (p.markAcked id pending).pending =
    Function.update p.pending id (some { pending with acked := true }) := rfl

@[simp] theorem finalize_now : (p.finalize id pending).now = p.now := rfl
@[simp] theorem finalize_calls : (p.finalize id pending).calls = p.calls := rfl

@[simp] theorem finalize_pending :
    (p.finalize id pending).pending = Function.update p.pending id none := rfl

@[simp] theorem finalize_state :
    (p.finalize id pending).state = p.state.markTerminal id p.now := rfl

@[simp] theorem releaseIfNeeded_now : (p.releaseIfNeeded c).now = p.now := by
  unfold releaseIfNeeded; split <;> rfl

@[simp] theorem releaseIfNeeded_pending : (p.releaseIfNeeded c).pending = p.pending := by
  unfold releaseIfNeeded; split <;> rfl

@[simp] theorem releaseIfNeeded_calls : (p.releaseIfNeeded c).calls = p.calls := by
  unfold releaseIfNeeded; split <;> rfl

@[simp] theorem releaseIfNeeded_published : (p.releaseIfNeeded c).published = p.published := by
  unfold releaseIfNeeded; split <;> rfl

@[simp] theorem releaseIfNeeded_processed :
    (p.releaseIfNeeded c).state.processed = p.state.processed := by
  unfold releaseIfNeeded; split <;> rfl

/-- A task command that ends gives the lock back. -/
theorem releaseIfNeeded_taskLockId : (p.releaseIfNeeded c).state.taskLockId =
    if c.isTask then none else p.state.taskLockId := by
  unfold releaseIfNeeded; split <;> rfl

end Fields

section Reports

variable (p : Processor) (id : CommandId) (task : Json) (s : ReportStatus) (phase progress : Json)
  (f : Feedback)

@[simp] theorem reportTask_now : (p.reportTask id task s phase progress f).now = p.now := rfl

@[simp] theorem reportTask_pending :
    (p.reportTask id task s phase progress f).pending = p.pending := rfl

@[simp] theorem reportTask_calls :
    (p.reportTask id task s phase progress f).calls = p.calls := rfl

@[simp] theorem reportTask_published : (p.reportTask id task s phase progress f).published =
    p.published ++ [.taskStatus (p.taskMessage task s phase progress f)] := rfl

@[simp] theorem reportTask_state : (p.reportTask id task s phase progress f).state =
    p.state.rememberTaskStatus id (p.taskMessage task s phase progress f) p.now := rfl

end Reports

section Replay

variable (p : Processor) (record : CommandRecord)

/-- A replay only publishes: the record's ACK and its task status, where it has them. -/
theorem replay_eq : p.replay record = { p with published := p.published ++
    (record.ack.map Message.commandAck).toList ++
    (record.taskStatus.map Message.taskStatus).toList } := by
  unfold replay
  cases record.ack <;> cases record.taskStatus <;> simp [publish]

@[simp] theorem replay_pending : (p.replay record).pending = p.pending := by rw [replay_eq]

@[simp] theorem replay_state : (p.replay record).state = p.state := by rw [replay_eq]

end Replay

/-! ## Commands -/

/-- The command has been entered in the table of processed commands. -/
def registered (p : Processor) (c : Command) : Processor :=
  { p with state := p.state.registerCommand c.id c p.now }

/-- The task lock has been taken for a task command. -/
def locked (p : Processor) (c : Command) : Processor :=
  if c.isTask then
    { p with state := { p.state with taskLockId := some c.task, cancelRequested := false } }
  else p

/-- `publish_command` has been called. -/
def called (p : Processor) (c : Command) (delivered : Bool) : Processor :=
  { p with calls := p.calls ++ [{ command := c, delivered }] }

/-- The pending entry and its timer have been set up. -/
def entered (p : Processor) (c : Command) : Processor :=
  { p with pending := Function.update p.pending c.id
             (some { command := c, timer := p.timersStarted, acked := false })
           timers := p.timers ++ [{ handle := p.timersStarted, commandId := c.id,
                                    due := p.now + p.config.feedbackTimeout }]
           timersStarted := p.timersStarted + 1 }

@[simp] theorem entered_pending_self (p : Processor) (c : Command) :
    (p.entered c).pending c.id = some { command := c, timer := p.timersStarted, acked := false } :=
  Function.update_self ..

/-- Entering a command leaves the entries of the others. -/
theorem entered_pending_ne (p : Processor) (c : Command) {id : CommandId} (other : id ≠ c.id) :
    (p.entered c).pending id = p.pending id := Function.update_of_ne other ..

@[simp] theorem locked_config (p : Processor) (c : Command) : (p.locked c).config = p.config := by
  unfold locked; split <;> rfl

@[simp] theorem locked_now (p : Processor) (c : Command) : (p.locked c).now = p.now := by
  unfold locked; split <;> rfl

@[simp] theorem locked_pending (p : Processor) (c : Command) :
    (p.locked c).pending = p.pending := by unfold locked; split <;> rfl

@[simp] theorem locked_timers (p : Processor) (c : Command) : (p.locked c).timers = p.timers := by
  unfold locked; split <;> rfl

@[simp] theorem locked_timersStarted (p : Processor) (c : Command) :
    (p.locked c).timersStarted = p.timersStarted := by unfold locked; split <;> rfl

@[simp] theorem locked_calls (p : Processor) (c : Command) : (p.locked c).calls = p.calls := by
  unfold locked; split <;> rfl

@[simp] theorem locked_published (p : Processor) (c : Command) :
    (p.locked c).published = p.published := by unfold locked; split <;> rfl

@[simp] theorem locked_processed (p : Processor) (c : Command) :
    (p.locked c).state.processed = p.state.processed := by unfold locked; split <;> rfl

/-- The verdict on a command at this moment. -/
def verdict (p : Processor) (c : Command) : Verdict :=
  validateReceivedCommand c p.proto.bootId p.config p.now

/-- The record a redelivery would find at this moment. -/
def record? (p : Processor) (id : CommandId) : Option CommandRecord :=
  (p.state.processed id).filter (BridgeState.alive p.now)

/-- A task command that could not take the lock. -/
def conflicts (p : Processor) (c : Command) : Prop :=
  c.isTask = true ∧ p.state.taskLockId ≠ none

/-- The ways `beginCommand` ends. -/
inductive Begun (p : Processor) (c : Command) (delivered : Bool) : Processor × Bool → Prop
  | raised (e : Unit) (verdict : p.verdict c = .error e) : Begun p c delivered (p, false)
  | refused (reason : String) (verdict : p.verdict c = .ok (some reason)) :
      Begun p c delivered (p.ack c .rejected (.str reason), false)
  | replayed (record : CommandRecord) (verdict : p.verdict c = .ok none)
      (found : p.record? c.id = some record) :
      Begun p c delivered ({ p with state := p.state.cleanupLocked p.now }.replay record, false)
  | conflict (verdict : p.verdict c = .ok none) (fresh : p.record? c.id = none)
      (held : p.conflicts c) :
      Begun p c delivered ((p.registered c).ack c .rejected (.str "ACTIVE_TASK_CONFLICT"), false)
  | undelivered (verdict : p.verdict c = .ok none) (fresh : p.record? c.id = none)
      (free : ¬ p.conflicts c) (lost : delivered = false) :
      Begun p c delivered (((((p.registered c).locked c).called c false).releaseIfNeeded c).ack c
        .rejected (.str "BRIDGE_ADAPTER_NOT_CONNECTED"), false)
  | written (verdict : p.verdict c = .ok none) (fresh : p.record? c.id = none)
      (free : ¬ p.conflicts c) (got : delivered = true) :
      Begun p c delivered (((p.registered c).locked c).called c true, true)

/-- What the call of `publish_command` leads to, from a state where the lock is taken. -/
theorem forward_begun {p q : Processor} {c : Command} {delivered : Bool}
    (verdict : p.verdict c = .ok none) (fresh : p.record? c.id = none) (free : ¬ p.conflicts c)
    (hq : q = (p.registered c).locked c) : Begun p c delivered (q.forward c delivered) := by
  subst hq
  cases delivered with
  | false => exact .undelivered verdict fresh free rfl
  | true => exact .written verdict fresh free rfl

/-- `beginCommand` ends in one of the listed ways. -/
theorem begun (p : Processor) (c : Command) (delivered : Bool) :
    Begun p c delivered (p.beginCommand c delivered) := by
  unfold beginCommand
  cases hv : validateReceivedCommand c p.proto.bootId p.config p.now with
  | error e => exact .raised e hv
  | ok answer =>
    cases answer with
    | some reason => exact .refused reason hv
    | none =>
      cases hr : (p.state.processed c.id).filter (BridgeState.alive p.now) with
      | some record =>
        simp only [BridgeState.getCommandRecord, BridgeState.cleanupLocked_processed, hr]
        exact .replayed record hv hr
      | none =>
        simp only [BridgeState.getCommandRecord, BridgeState.cleanupLocked_processed, hr,
          BridgeState.registerCommand_cleanupLocked]
        cases ht : c.isTask with
        | false =>
          have free : ¬ p.conflicts c := fun h => Bool.noConfusion (ht.symm.trans h.1)
          exact forward_begun hv hr free (by simp only [locked, ht, registered]; rfl)
        | true =>
          have named := task_truthy_of_accepted hv ht
          rcases BridgeState.acquireTask_spec (p.registered c).state c.task with
            ⟨taken, _, free⟩ | ⟨kept, why⟩
          · simp only [registered] at taken
            simp only [taken, if_true]
            exact forward_begun hv hr (fun h => h.2 free) (by simp only [locked, ht]; rfl)
          · have held : p.state.taskLockId ≠ none :=
              why.resolve_left fun unnamed => Bool.noConfusion (unnamed.symm.trans named)
            simp only [registered] at kept
            simp only [kept, if_true]
            exact .conflict hv hr ⟨ht, held⟩

/-! ## Feedback -/

/-- The feedback finalizes the entry. -/
def closedBy (entry : Pending) (f : Feedback) : Bool :=
  match f.state with
  | none => false
  | some .accepted => !entry.command.isTask
  | some .rejected => true
  | some .executing => false
  | some .completed | some .failed | some .cancelled => entry.command.isTask

/-- The feedback finds its command pending and finalizes it. -/
def closes (p : Processor) (f : Feedback) : Prop :=
  ∃ entry ∈ p.pending f.commandId, closedBy entry f = true

instance (p : Processor) (f : Feedback) : Decidable (p.closes f) :=
  inferInstanceAs (Decidable (∃ entry ∈ p.pending f.commandId, _))

/-- Feedback closes a command exactly if its entry says so. -/
theorem closes_iff {p : Processor} {f : Feedback} {entry : Pending}
    (here : p.pending f.commandId = some entry) : p.closes f ↔ closedBy entry f = true := by
  simp only [closes, here, Option.mem_some_iff, exists_eq_left']

/-- Feedback without an entry closes nothing. -/
theorem not_closes_of_unknown {p : Processor} {f : Feedback}
    (unknown : p.pending f.commandId = none) : ¬ p.closes f := by
  rintro ⟨entry, here, _⟩
  exact Option.some_ne_none entry (here.symm.trans unknown)

/-- A terminal report: the lock is released, the task status published, the entry finalized. -/
def settled (p : Processor) (pending : Pending) (f : Feedback) (status : ReportStatus)
    (phase progress : Json) : Processor :=
  (((p.releaseIfNeeded pending.command).reportTask f.commandId
    (f.taskId.orElse pending.command.task) status phase progress f).finalize f.commandId pending)

/-- The acceptance of a command: the timer stops, the entry is marked, the ACK goes out. -/
def acceptedAck (p : Processor) (pending : Pending) (f : Feedback) : Processor :=
  (((p.cancelTimer pending.timer).markAcked f.commandId pending).ack pending.command .accepted
    .null)

/-- The ways a pending command takes a feedback. -/
inductive Fed (p : Processor) (pending : Pending) (f : Feedback) : Processor → Prop
  | acceptedTask (state : f.state = some .accepted) (task : pending.command.isTask = true) :
      Fed p pending f ((p.acceptedAck pending f).reportTask f.commandId
        (f.taskId.orElse pending.command.task) .accepted (.str "ACCEPTED") (.int 0) f)
  | accepted (state : f.state = some .accepted) (plain : pending.command.isTask = false) :
      Fed p pending f ((p.acceptedAck pending f).finalize f.commandId pending)
  | rejected (state : f.state = some .rejected) :
      Fed p pending f (((p.releaseIfNeeded pending.command).ack pending.command .rejected
        (f.reasonCode.orElse (.str "COMMAND_REJECTED"))).finalize f.commandId pending)
  | executing (state : f.state = some .executing) (task : pending.command.isTask = true)
      (phase progress : Json) :
      Fed p pending f (p.reportTask f.commandId (f.taskId.orElse pending.command.task) .executing
        phase progress f)
  | terminal (status : ReportStatus) (phase progress : Json)
      (state : f.state ∈ [some .completed, some .failed, some .cancelled])
      (task : pending.command.isTask = true) :
      Fed p pending f (p.settled pending f status phase progress)
  | ignored (state : f.state ∉ [some .accepted, some .rejected])
      (why : f.state = none ∨ pending.command.isTask = false) : Fed p pending f p

/-- A pending command takes a feedback in one of the listed ways. -/
theorem fed (p : Processor) (pending : Pending) (f : Feedback) :
    Fed p pending f (p.applyFeedback pending f) := by
  have quiet {state : Option FeedbackState} (hs : f.state = state)
      (hn : state ∉ [some .accepted, some .rejected]) : f.state ∉ [some .accepted, some .rejected] :=
    hs ▸ hn
  unfold applyFeedback
  cases hs : f.state with
  | none => exact .ignored (quiet hs (by decide)) (.inl hs)
  | some state =>
    cases ht : pending.command.isTask with
    | false =>
      simp only [ht, Bool.false_eq_true, if_false, Bool.not_false, if_true]
      cases state with
      | accepted => exact .accepted hs ht
      | rejected => exact .rejected hs
      | executing => exact .ignored (quiet hs (by decide)) (.inr ht)
      | completed => exact .ignored (quiet hs (by decide)) (.inr ht)
      | failed => exact .ignored (quiet hs (by decide)) (.inr ht)
      | cancelled => exact .ignored (quiet hs (by decide)) (.inr ht)
    | true =>
      simp only [ht, if_true, Bool.not_true, Bool.false_eq_true, if_false]
      cases state with
      | accepted => exact .acceptedTask hs ht
      | rejected => exact .rejected hs
      | executing => exact .executing hs ht ..
      | completed => exact .terminal .completed _ _ (by rw [hs]; decide) ht
      | failed => exact .terminal .failed _ _ (by rw [hs]; decide) ht
      | cancelled => exact .terminal .cancelled _ _ (by rw [hs]; decide) ht

/-- A feedback for a command that is not pending is dropped. -/
theorem onFeedback_unknown {p : Processor} {f : Feedback} (h : p.pending f.commandId = none) :
    p.onFeedback f = p := by
  simp only [onFeedback, h]

/-- Feedback with an entry is applied to it. -/
theorem onFeedback_pending {p : Processor} {f : Feedback} {pending : Pending}
    (h : p.pending f.commandId = some pending) : p.onFeedback f = p.applyFeedback pending f := by
  simp only [onFeedback, h]

/-! ## Timers -/

/-- The rejection a feedback timeout publishes. -/
def timedOut (p : Processor) (id : CommandId) (pending : Pending) : Processor :=
  (((p.releaseIfNeeded pending.command).ack pending.command .rejected
    (.str "BRIDGE_ADAPTER_NOT_CONNECTED")).finalize id pending)

/-- The ways a timer fires: not armed or not due, without an entry to reject, or with one. -/
inductive Fired (p : Processor) (handle : Nat) : Processor → Prop
  | idle (none : p.armed handle = none) : Fired p handle p
  | answered (timer : Timer) (armed : p.armed handle = some timer)
      (done : ∀ pending, p.pending timer.commandId = some pending → pending.acked = true) :
      Fired p handle (p.cancelTimer handle)
  | rejected (timer : Timer) (pending : Pending) (armed : p.armed handle = some timer)
      (waiting : p.pending timer.commandId = some pending) (unacked : pending.acked = false) :
      Fired p handle ((p.cancelTimer handle).timedOut timer.commandId pending)

/-- A timer fires in one of the listed ways. -/
theorem fired (p : Processor) (handle : Nat) : Fired p handle (p.fire handle) := by
  unfold fire
  cases hf : p.armed handle with
  | none => exact .idle hf
  | some timer =>
    simp only [onTimeout, cancelTimer_pending]
    cases hp : p.pending timer.commandId with
    | none => exact .answered timer hf (by simp [hp])
    | some pending =>
      cases ha : pending.acked with
      | true =>
        simp only [ha, if_true]
        exact .answered timer hf (by simp [hp, ha])
      | false =>
        simp only [ha, Bool.false_eq_true, if_false]
        exact .rejected timer pending hf hp ha

/-- The command a timeout event rejects. -/
def timesOut (p : Processor) (handle : Nat) : Option CommandId :=
  match p.armed handle with
  | none => none
  | some timer =>
    if ∃ entry ∈ p.pending timer.commandId, entry.acked = false then some timer.commandId else none

/-- A timer that is not due rejects nothing. -/
theorem timesOut_of_idle {p : Processor} {handle : Nat} (idle : p.armed handle = none) :
    p.timesOut handle = none := by
  simp only [timesOut, idle]

/-- Nor does one whose command was answered. -/
theorem timesOut_of_answered {p : Processor} {handle : Nat} {timer : Timer}
    (armed : p.armed handle = some timer)
    (done : ∀ entry, p.pending timer.commandId = some entry → entry.acked = true) :
    p.timesOut handle = none := by
  have settled : ¬ ∃ entry ∈ p.pending timer.commandId, entry.acked = false :=
    fun ⟨entry, here, unacked⟩ => Bool.noConfusion (unacked.symm.trans (done entry here))
  simp only [timesOut, armed, if_neg settled]

/-- A due timer rejects a command that waits for its ACK. -/
theorem timesOut_of_waiting {p : Processor} {handle : Nat} {timer : Timer} {entry : Pending}
    (armed : p.armed handle = some timer) (waiting : p.pending timer.commandId = some entry)
    (unacked : entry.acked = false) : p.timesOut handle = some timer.commandId := by
  have waits : ∃ entry ∈ p.pending timer.commandId, entry.acked = false :=
    ⟨entry, waiting, unacked⟩
  simp only [timesOut, armed, if_pos waits]

/-- A command that a timer rejects was waiting for it. -/
theorem timesOut_eq_some {p : Processor} {handle : Nat} {id : CommandId}
    (h : p.timesOut handle = some id) : ∃ timer entry, p.armed handle = some timer ∧
      timer.commandId = id ∧ p.pending id = some entry ∧ entry.acked = false := by
  unfold timesOut at h
  cases fires : p.armed handle with
  | none => simp only [fires, reduceCtorEq] at h
  | some timer =>
    by_cases waits : ∃ entry ∈ p.pending timer.commandId, entry.acked = false
    · simp only [fires, if_pos waits, Option.some.injEq] at h
      obtain ⟨entry, here, unacked⟩ := waits
      exact ⟨timer, entry, rfl, h, h ▸ here, unacked⟩
    · simp only [fires, if_neg waits, reduceCtorEq] at h

/-! ## Registration -/

/-- The feedback the stub simulates for a command. -/
def stubFeedback (p : Processor) (c : Command) : Feedback where
  commandId := c.id
  taskId := c.task
  state := if p.config.stubFeedbackSimulation = "accepted" then some .accepted else some .rejected
  reasonCode :=
    if p.config.stubFeedbackSimulation = "accepted" then .null
    else .str "BRIDGE_ADAPTER_NOT_CONNECTED"
  phase := .null
  progress := .null
  message := .null

/-- Registration enters the command; in stub mode a simulated feedback follows at once. -/
theorem registerPending_eq (p : Processor) (c : Command) : p.registerPending c =
    if p.config.bridgeStubMode && p.config.stubSimulateFeedback then
      (p.entered c).onFeedback (p.stubFeedback c)
    else p.entered c := by
  unfold registerPending simulateStubFeedback stubFeedback
  simp only [entered]
  split
  · split <;> rfl
  · rfl

/-- `on_command` is its two halves in a row. -/
theorem onCommand_of_written {p : Processor} {c : Command} {delivered : Bool} {q : Processor}
    (h : p.beginCommand c delivered = (q, true)) : p.onCommand c delivered = q.registerPending c := by
  simp only [onCommand, h]

/-- A command that is not passed on ends with its first half. -/
theorem onCommand_of_done {p : Processor} {c : Command} {delivered : Bool} {q : Processor}
    (h : p.beginCommand c delivered = (q, false)) : p.onCommand c delivered = q := by
  simp only [onCommand, h]

end Firebot.Bridge.Processor
