import Firebot.Lib.Run
import Firebot.Bridge.Laws

/-!
# Runs of the Bridge with atomic handlers

`Event` lists what can happen to a processor: a command is delivered, a ROS feedback arrives, a
started timer fires, the clock advances, the ROS side reports telemetry. Each handler is one step.
`step` is total: a timer that is not armed or not due does nothing, so every list of events is a run.

A timer may fire at any moment after it is due. `handles` says which command's handler an event
runs; the pending entries of all other commands stay as they are (`step_pending`).
-/

namespace Firebot.Bridge

/-- What can happen to the Bridge. `delivered` is the answer of `publish_command`. -/
inductive Event where
  | deliver (command : Command) (delivered : Bool)
  | feedback (feedback : Feedback)
  | timeout (handle : Nat)
  | advance (elapsed : Nat)
  | applyStatus (fields : StatusFields)
  | setLocation (value : Option Location)
  | clearRosTelemetry

namespace Processor

/-- A telemetry method of the shared state, called on a processor. -/
def telemetry (p : Processor) (change : BridgeState → BridgeState) : Processor :=
  { p with state := change p.state }

/-- The clock moves forward. -/
def advance (p : Processor) (elapsed : Nat) : Processor := { p with now := p.now + elapsed }

/-- One event. -/
def step (p : Processor) : Event → Processor
  | .deliver command delivered => p.onCommand command delivered
  | .feedback feedback => p.onFeedback feedback
  | .timeout handle => p.fire handle
  | .advance elapsed => p.advance elapsed
  | .applyStatus fields => p.telemetry (·.applyStatus fields)
  | .setLocation value => p.telemetry (·.setLocation value p.now)
  | .clearRosTelemetry => p.telemetry (·.clearRosTelemetry)

/-- The processor after a list of events. -/
abbrev run (p : Processor) (events : List Event) : Processor := Runs.run step p events

/-- Whether a delivery passes validation, finds no record and is not stopped by the task lock: it
goes to the ROS child. -/
def forwards (p : Processor) (c : Command) : Prop :=
  p.verdict c = .ok none ∧ p.record? c.id = none ∧ ¬ p.conflicts c

instance (p : Processor) (c : Command) : Decidable (p.conflicts c) :=
  inferInstanceAs (Decidable (_ ∧ _))

instance (p : Processor) (c : Command) : Decidable (p.forwards c) :=
  inferInstanceAs (Decidable (_ ∧ _ ∧ _))

/-! ## One event handles one command -/

/-- The event runs a handler of the command with this id. -/
def handles (p : Processor) : Event → CommandId → Prop
  | .deliver c _, id => c.id = id
  | .feedback f, id => f.commandId = id
  | .timeout handle, id => ∃ timer ∈ p.timers, timer.handle = handle ∧ timer.commandId = id
  | _, _ => False

/-- The timer that fires is in the list and has the handle. -/
theorem armed_mem {p : Processor} {handle : Nat} {timer : Timer}
    (armed : p.armed handle = some timer) :
    timer ∈ p.timers ∧ timer.handle = handle :=
  ⟨List.mem_of_find?_eq_some armed,
    (of_decide_eq_true (List.find?_some (a := timer) armed)).1⟩

theorem onFeedback_pending_ne {p : Processor} {f : Feedback} {id : CommandId}
    (other : id ≠ f.commandId) : (p.onFeedback f).pending id = p.pending id := by
  cases here : p.pending f.commandId with
  | none => rw [onFeedback_unknown here]
  | some entry =>
    rw [onFeedback_pending here]
    have taken := fed p entry f
    generalize p.applyFeedback entry f = q at taken ⊢
    cases taken <;> simp [settled, acceptedAck, Function.update_of_ne other]

theorem onCommand_pending_ne {p : Processor} {c : Command} {delivered : Bool} {id : CommandId}
    (other : id ≠ c.id) : (p.onCommand c delivered).pending id = p.pending id := by
  cases began : p.beginCommand c delivered with
  | mk q more =>
    have cases_of := begun p c delivered
    rw [began] at cases_of
    cases cases_of with
    | written =>
      have entering : ((((p.registered c).locked c).called c true).entered c).pending id =
          p.pending id := by
        unfold locked
        split <;> exact Function.update_of_ne other ..
      rw [onCommand_of_written began, registerPending_eq]
      split
      · rw [onFeedback_pending_ne (f := stubFeedback _ c) other, entering]
      · exact entering
    | raised => rw [onCommand_of_done began]
    | refused => rw [onCommand_of_done began, ack_pending]
    | conflict =>
      rw [onCommand_of_done began, ack_pending]
      rfl
    | replayed =>
      rw [onCommand_of_done began, replay_eq]
    | undelivered =>
      rw [onCommand_of_done began, ack_pending, releaseIfNeeded_pending]
      simp only [called, locked_pending, registered]

theorem fire_pending_ne {p : Processor} {handle : Nat} {id : CommandId}
    (other : ¬ p.handles (.timeout handle) id) : (p.fire handle).pending id = p.pending id := by
  have fires := fired p handle
  generalize p.fire handle = q at fires ⊢
  cases fires with
  | idle => rfl
  | answered => rfl
  | rejected timer entry armed =>
    have ne : id ≠ timer.commandId := fun same =>
      other ⟨timer, (armed_mem armed).1, (armed_mem armed).2, same.symm⟩
    simp [timedOut, Function.update_of_ne ne]

/-- An event leaves the entry of every command it does not handle. -/
theorem step_pending {p : Processor} {e : Event} {id : CommandId} (other : ¬ p.handles e id) :
    (p.step e).pending id = p.pending id := by
  cases e with
  | deliver c delivered => exact onCommand_pending_ne (Ne.symm other)
  | feedback f => exact onFeedback_pending_ne (Ne.symm other)
  | timeout handle => exact fire_pending_ne other
  | advance | applyStatus | setLocation | clearRosTelemetry => rfl

end Processor

/-! ## A vehicle to run on fixed inputs -/

/-- A command as the server sends it, valid for ten minutes. -/
def Command.request (cmd : Cmd) (id : String) (task : Json) : Command where
  schemaVersion := some (.str "1.3")
  messageId := some (.str id)
  type := some (.str "command")
  vehicleId := some (.str "V1")
  targetBootId := some (.str "B1")
  commandId := some (.text id)
  correlationId := some (.str id)
  issuedAt := some (.instant 0)
  expiresAt := some (.instant (600 * second))
  ttlMs := some (.int 600000)
  priority := some (.int 1)
  source := some (.str "web")
  operatorId := some (.str "O1")
  cmd := some (.str cmd.wire)
  params := some (.object [])
  taskId := some task

/-- A patrol of the task that has its command's name. -/
def patrol (id : String) : Command := .request .patrol id (.str id)

/-- A `stop_motion`. -/
def stopMotion (id : String) : Command := .request .stopMotion id .null

/-- A bare ROS feedback. -/
def answer (id : String) (state : FeedbackState) : Feedback where
  commandId := .text id
  taskId := .null
  state := some state
  reasonCode := .null
  phase := .null
  progress := .null
  message := .null

/-- A vehicle in production mode with the default feedback timeout of three seconds. -/
def Config.vehicle : Config where
  bridgeStubMode := false
  stubSimulateFeedback := false
  stubFeedbackSimulation := "rejected"
  feedbackTimeout := 3000000
  supportedCommands := [.patrol, .stopMotion]

/-- Its processor at time zero. -/
def vehicle : Processor := .initial .vehicle "V1" "B1" 0

end Firebot.Bridge
