import Firebot.Bridge.State

/-!
# The command processor

`CommandProcessor` of the vehicle Bridge: a command from MQTT is validated, deduplicated, guarded by
the task lock, written to the ROS child and registered as pending with a feedback timer; ROS
feedback and the timer answer it with a `command_ack` and, for a task command, `task_status`.

`onCommand` is cut where the source leaves its own thread: `beginCommand` is everything up to and
including the write to the ROS child, `registerPending` the registration and the timer after it. The
answer of `RosChildManager.publish_command` (`delivered`) is the environment's.

`published` is the list of messages handed to the MQTT client, `calls` the list of calls of
`publish_command`, both in order.
-/

namespace Firebot.Bridge

/-- `ROS_FEEDBACK_STATES`. -/
inductive FeedbackState where
  | accepted
  | executing
  | completed
  | rejected
  | failed
  | cancelled
  deriving DecidableEq, Repr

/-- The spelling of a feedback state on the wire. -/
def FeedbackState.wire : FeedbackState → String
  | .accepted => "ACCEPTED"
  | .executing => "EXECUTING"
  | .completed => "COMPLETED"
  | .rejected => "REJECTED"
  | .failed => "FAILED"
  | .cancelled => "CANCELLED"

/-- A ROS feedback; `state` is `none` for a state the code does not know. -/
structure Feedback where
  commandId : CommandId
  taskId : Json
  state : Option FeedbackState
  reasonCode : Json
  phase : Json
  progress : Json
  message : Json
  deriving DecidableEq

/-- `_Pending`; `timer` names the feedback timer. -/
structure Pending where
  command : Command
  timer : Nat
  acked : Bool
  deriving DecidableEq

/-- A started `threading.Timer` that has neither fired nor been cancelled. -/
structure Timer where
  handle : Nat
  commandId : CommandId
  due : Time
  deriving DecidableEq

/-- A call of `RosChildManager.publish_command`, with its answer. -/
structure RosCall where
  command : Command
  delivered : Bool
  deriving DecidableEq

/-- `CommandProcessor`, with the clock and what it has sent to either side. -/
structure Processor where
  config : Config
  state : BridgeState
  proto : Protocol
  pending : CommandId → Option Pending
  timers : List Timer
  timersStarted : Nat
  published : List Message
  calls : List RosCall
  now : Time

namespace Processor

/-- A processor as `main` creates it. -/
def initial (config : Config) (vehicleId bootId : String) (now : Time) : Processor where
  config := config
  state := .initial
  proto := { vehicleId, bootId, seq := fun _ => 0, drawn := 0 }
  pending := fun _ => none
  timers := []
  timersStarted := 0
  published := []
  calls := []
  now := now

/-! ## Replies -/

/-- `_publish`. -/
def publish (p : Processor) (message : Message) : Processor :=
  { p with published := p.published ++ [message] }

/-- The message `_ack` builds. -/
def ackMessage (p : Processor) (command : Command) (status : AckStatus) (reasonCode : Json) :
    CommandAck where
  header := (p.proto.base .commandAck p.now).1
  commandId := command.id
  taskId := command.task
  status := status
  reasonCode := reasonCode
  reason := .null

/-- `_ack`: build, remember, publish. -/
def ack (p : Processor) (command : Command) (status : AckStatus) (reasonCode : Json) : Processor :=
  let message := p.ackMessage command status reasonCode
  let p := { p with proto := (p.proto.base .commandAck p.now).2
                    state := p.state.rememberAck command.id message p.now }
  p.publish (.commandAck message)

/-- The message `_report_task` builds. -/
def taskMessage (p : Processor) (taskId : Json) (status : ReportStatus) (phase progress : Json)
    (feedback : Feedback) : TaskReport where
  header := (p.proto.base .taskStatus p.now).1
  taskId := taskId
  status := status
  phase := phase
  progress := progress
  failureCode := feedback.reasonCode
  failureMessage := feedback.message

/-- `_report_task`. -/
def reportTask (p : Processor) (id : CommandId) (taskId : Json) (status : ReportStatus)
    (phase progress : Json) (feedback : Feedback) : Processor :=
  let message := p.taskMessage taskId status phase progress feedback
  let p := { p with proto := (p.proto.base .taskStatus p.now).2
                    state := p.state.rememberTaskStatus id message p.now }
  p.publish (.taskStatus message)

/-- The answer to a redelivered command: its last ACK and its last task status, if any. -/
def replay (p : Processor) (record : CommandRecord) : Processor :=
  let p := match record.ack with
    | some ack => p.publish (.commandAck ack)
    | none => p
  match record.taskStatus with
  | some report => p.publish (.taskStatus report)
  | none => p

/-! ## Pending commands -/

/-- `Timer.cancel`. -/
def cancelTimer (p : Processor) (handle : Nat) : Processor :=
  { p with timers := p.timers.filter (·.handle ≠ handle) }

/-- `_release_if_needed`. -/
def releaseIfNeeded (p : Processor) (command : Command) : Processor :=
  if command.isTask then { p with state := p.state.releaseTask } else p

/-- `_finalize`. -/
def finalize (p : Processor) (id : CommandId) (pending : Pending) : Processor :=
  let p := p.cancelTimer pending.timer
  { p with pending := Function.update p.pending id none, state := p.state.markTerminal id p.now }

/-- `pending.acked = True`. -/
def markAcked (p : Processor) (id : CommandId) (pending : Pending) : Processor :=
  { p with pending := Function.update p.pending id (some { pending with acked := true }) }

/-! ## The handlers -/

/-- `on_feedback` once the pending command is found. -/
def applyFeedback (p : Processor) (pending : Pending) (feedback : Feedback) : Processor :=
  let command := pending.command
  let id := feedback.commandId
  let taskId := feedback.taskId.orElse command.task
  match feedback.state with
  | some .accepted =>
    let p := (p.cancelTimer pending.timer).markAcked id pending
    let p := p.ack command .accepted .null
    if command.isTask then p.reportTask id taskId .accepted (.str "ACCEPTED") (.int 0) feedback
    else p.finalize id pending
  | some .rejected =>
    let p := p.releaseIfNeeded command
    let p := p.ack command .rejected (feedback.reasonCode.orElse (.str "COMMAND_REJECTED"))
    p.finalize id pending
  | none => p
  | some .executing =>
    if !command.isTask then p
    else p.reportTask id taskId .executing (feedback.phase.orElse (.str "NAVIGATING"))
      (feedback.progress.orElse (.int 0)) feedback
  | some terminal =>
    if !command.isTask then p
    else
      let status := match terminal with
        | .completed => ReportStatus.completed
        | .failed => .failed
        | _ => .cancelled
      let phase := feedback.phase.orElse (.str terminal.wire)
      let progress := feedback.progress.orElse (if terminal = .completed then .int 100 else .int 0)
      let p := p.releaseIfNeeded command
      let p := p.reportTask id taskId status phase progress feedback
      p.finalize id pending

/-- `on_feedback`. -/
def onFeedback (p : Processor) (feedback : Feedback) : Processor :=
  match p.pending feedback.commandId with
  | none => p
  | some pending => p.applyFeedback pending feedback

/-- `_on_timeout`. -/
def onTimeout (p : Processor) (id : CommandId) : Processor :=
  match p.pending id with
  | none => p
  | some pending =>
    if pending.acked then p
    else
      let p := p.releaseIfNeeded pending.command
      let p := p.ack pending.command .rejected (.str "BRIDGE_ADAPTER_NOT_CONNECTED")
      p.finalize id pending

/-- The started timer with this handle, once it is due. -/
def armed (p : Processor) (handle : Nat) : Option Timer :=
  p.timers.find? fun t => t.handle = handle ∧ t.due ≤ p.now

/-- The timer thread: a started timer that is due leaves the list and runs `_on_timeout`. -/
def fire (p : Processor) (handle : Nat) : Processor :=
  match p.armed handle with
  | none => p
  | some timer => (p.cancelTimer handle).onTimeout timer.commandId

/-- `_simulate_stub_feedback`. -/
def simulateStubFeedback (p : Processor) (command : Command) : Processor :=
  if p.config.stubFeedbackSimulation = "accepted" then
    p.onFeedback { commandId := command.id, taskId := command.task, state := some .accepted,
                   reasonCode := .null, phase := .null, progress := .null, message := .null }
  else
    p.onFeedback { commandId := command.id, taskId := command.task, state := some .rejected,
                   reasonCode := .str "BRIDGE_ADAPTER_NOT_CONNECTED", phase := .null,
                   progress := .null, message := .null }

/-- `on_command` after a successful write: the pending entry, its timer, the stub's feedback. -/
def registerPending (p : Processor) (command : Command) : Processor :=
  let handle := p.timersStarted
  let timer := { handle, commandId := command.id, due := p.now + p.config.feedbackTimeout }
  let pending := { command, timer := handle, acked := false }
  let p := { p with pending := Function.update p.pending command.id (some pending)
                    timers := p.timers ++ [timer]
                    timersStarted := handle + 1 }
  if p.config.bridgeStubMode && p.config.stubSimulateFeedback then p.simulateStubFeedback command
  else p

/-- The call of `publish_command` and what follows a refusal. -/
def forward (p : Processor) (command : Command) (delivered : Bool) : Processor × Bool :=
  let p := { p with calls := p.calls ++ [{ command, delivered }] }
  if delivered then (p, true)
  else
    let p := p.releaseIfNeeded command
    (p.ack command .rejected (.str "BRIDGE_ADAPTER_NOT_CONNECTED"), false)

/-- `on_command` up to the write to the ROS child; `true` when the command is still to be
registered. -/
def beginCommand (p : Processor) (command : Command) (delivered : Bool) : Processor × Bool :=
  match validateReceivedCommand command p.proto.bootId p.config p.now with
  | .error _ => (p, false)
  | .ok (some reason) => (p.ack command .rejected (.str reason), false)
  | .ok none =>
    match p.state.getCommandRecord command.id p.now with
    | (some existing, state) => ({ p with state }.replay existing, false)
    | (none, state) =>
      let p := { p with state := state.registerCommand command.id command p.now }
      if command.isTask then
        match p.state.acquireTask command.task with
        | (false, _) => (p.ack command .rejected (.str "ACTIVE_TASK_CONFLICT"), false)
        | (true, state) => { p with state }.forward command delivered
      else p.forward command delivered

/-- `on_command`. -/
def onCommand (p : Processor) (command : Command) (delivered : Bool) : Processor :=
  match p.beginCommand command delivered with
  | (p, true) => p.registerPending command
  | (p, false) => p

end Processor

end Firebot.Bridge
