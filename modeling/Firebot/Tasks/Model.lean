import Firebot.Lib.JsonTree
import Firebot.Lib.Table
import Firebot.Server.CommandLifecycle

/-!
# Tasks, their commands and their fire events

The tables that the API, the dispatcher, the ingress and the worker share. A business task (a patrol, an
extinguishing run, a return to the dock, a navigation to a preset) is inserted with the command that
starts it; a navigation to a preset is started by a `patrol` command. Cancelling a task inserts another
command of the same task.

Of `parameters_json` the keys are modelled that the ingress and the worker read or write, and the task that a
resumed patrol continues.
-/

namespace Firebot.Tasks

open Firebot.Server (AckMessage Failure Outbox)

/-! ## Tasks -/

/-- `Task.type`. -/
inductive TaskType where
  | patrol
  | extinguish
  | returnDock
  | navigateToPreset
  deriving DecidableEq, Repr

/-- `Task.status`. -/
inductive TaskState where
  | created
  | queued
  | accepted
  | executing
  | succeeded
  | failed
  | cancelled
  deriving DecidableEq, Repr

/-- `ACTIVE_TASK_STATES`. -/
def TaskState.active : TaskState → Bool
  | .created | .queued | .accepted | .executing => true
  | .succeeded | .failed | .cancelled => false

/-- The states in which `cancel_task` finds a task ended. -/
def TaskState.terminal : TaskState → Bool
  | .succeeded | .failed | .cancelled => true
  | .created | .queued | .accepted | .executing => false

@[simp] theorem TaskState.not_active {state : TaskState} :
    state.active = false ↔ state.terminal = true := by
  cases state <;> decide

/-- `parameters["live_checkpoint"]`. -/
structure Checkpoint where
  index : JsonTree
  total : JsonTree
  currentSlotCode : JsonTree
  nextSlotCode : JsonTree

/-- `parameters["live_route_cursor"]`. -/
structure RouteCursor where
  waypointIndex : JsonTree
  waypointTotal : JsonTree
  targetWaypointIndex : JsonTree
  lastCompletedWaypointIndex : JsonTree

/-- `parameters["resume_state"]`. -/
inductive ResumeState where
  | available
  | consumedByReturn
  | consumedByResume
  deriving DecidableEq, Repr

/-- The patrol has been resumed, or given up by a return. -/
def ResumeState.consumed : ResumeState → Bool
  | .available => false
  | .consumedByReturn | .consumedByResume => true

/-- `Task.parameters_json`. -/
structure Parameters where
  vehicleCompletedReportedAt : Option Time
  poseVerificationFrames : Option Nat
  requiredVerificationFrames : Option Nat
  verificationTimeoutSeconds : Option Nat
  liveCheckpoint : Option Checkpoint
  liveRouteCursor : Option RouteCursor
  resumeState : Option ResumeState
  resumedFromTaskId : Option String

/-- The parameters of a task that nothing has been reported of. -/
def Parameters.empty : Parameters where
  vehicleCompletedReportedAt := none
  poseVerificationFrames := none
  requiredVerificationFrames := none
  verificationTimeoutSeconds := none
  liveCheckpoint := none
  liveRouteCursor := none
  resumeState := none
  resumedFromTaskId := none

/-- A row of `tasks`. -/
structure Task where
  robotId : String
  fireEventId : Option String
  type : TaskType
  status : TaskState
  phase : String
  progress : JsonTree
  parameters : Parameters
  createdAt : Time
  acceptedAt : Option Time
  startedAt : Option Time
  completedAt : Option Time
  failureCode : Option String
  failureMessage : Option String

/-! ## Commands -/

/-- `Command.cmd`. -/
inductive Cmd where
  | patrol
  | extinguish
  | returnDock
  | cancelTask
  | stopMotion
  | emergencyStop
  | resetEstop
  | manualControl
  deriving DecidableEq, Repr

/-- The text of the column. -/
def Cmd.text : Cmd → String
  | .patrol => "patrol"
  | .extinguish => "extinguish"
  | .returnDock => "return_dock"
  | .cancelTask => "cancel_task"
  | .stopMotion => "stop_motion"
  | .emergencyStop => "emergency_stop"
  | .resetEstop => "reset_estop"
  | .manualControl => "manual_control"

/-- The commands that start a task. -/
def Cmd.business : Cmd → Bool
  | .patrol | .extinguish | .returnDock => true
  | .cancelTask | .stopMotion | .emergencyStop | .resetEstop | .manualControl => false

/-- The command a task of this type is created with. -/
def TaskType.cmd : TaskType → Cmd
  | .patrol => .patrol
  | .extinguish => .extinguish
  | .returnDock => .returnDock
  | .navigateToPreset => .patrol

/-- `Command.lifecycle_status`. -/
inductive CommandState where
  | created
  | queued
  | published
  | publishedUnconfirmed
  | expired
  | ackAccepted
  | ackUnsupported
  | ackRejected
  | accepted
  | executing
  | succeeded
  | failed
  | cancelled
  deriving DecidableEq, Repr

/-- The vehicle refused the command, or it was never sent. -/
def CommandState.refused : CommandState → Bool
  | .ackRejected | .ackUnsupported | .expired => true
  | _ => false

/-- The states that come with a `terminal_at`. -/
def CommandState.terminal : CommandState → Bool
  | .ackRejected | .ackUnsupported | .expired | .succeeded | .failed | .cancelled => true
  | _ => false

/-- The lifecycle that a report gives the command of a task it has left in a state. -/
def TaskState.lifecycle : TaskState → CommandState
  | .created => .created
  | .queued => .queued
  | .accepted => .accepted
  | .executing => .executing
  | .succeeded => .succeeded
  | .failed => .failed
  | .cancelled => .cancelled

@[simp] theorem TaskState.lifecycle_refused (state : TaskState) :
    state.lifecycle.refused = false := by
  cases state <;> rfl

/-- A row of `commands`. -/
structure Command where
  robotId : String
  taskId : Option String
  cmd : Cmd
  lifecycleStatus : CommandState
  issuedAt : Time
  expiresAt : Time
  publishedAt : Option Time
  ackAt : Option Time
  ackStatus : Option String
  ackReason : Option String
  terminalAt : Option Time
  deriving DecidableEq

/-- The command was created to start the task. -/
def Command.starts (command : Command) (taskId : String) : Bool :=
  command.taskId = some taskId && command.cmd.business

/-! ## Fire events -/

/-- `FireEvent.state`. -/
inductive FireState where
  | new
  | acknowledged
  | confirmed
  | dispatched
  | inProgress
  | resolved
  | dismissed
  | closed
  deriving DecidableEq, Repr

/-- A row of `fire_events`; `confidence` is `null` where the column is. -/
structure Fire where
  robotId : Option String
  parkingSlotId : String
  fireType : JsonTree
  severity : JsonTree
  confidence : JsonTree
  fingerprint : String
  sourceMessageId : Option String
  sourceEventId : Option String
  state : FireState
  firstSeenAt : Time
  lastSeenAt : Time
  occurrenceCount : Nat
  resolvedAt : Option Time
  sourcePosition : JsonTree
  mediaSnapshot : JsonTree

/-! ## Reports -/

/-- The `status` of a `task_status` message. -/
inductive Reported where
  | accepted
  | executing
  | completed
  | failed
  | cancelled
  deriving DecidableEq, Repr

/-- `internal_status`. -/
def Reported.internal : Reported → TaskState
  | .accepted => .accepted
  | .executing => .executing
  | .completed => .succeeded
  | .failed => .failed
  | .cancelled => .cancelled

/-- A `task_status` message; a field it does not have reads as `null`. -/
structure TaskStatus where
  taskId : String
  status : Reported
  phase : String
  progress : JsonTree
  failureCode : Option String
  failureMessage : Option String
  checkpointIndex : JsonTree
  checkpointTotal : JsonTree
  currentSlotCode : JsonTree
  nextSlotCode : JsonTree
  waypointIndex : JsonTree
  waypointTotal : JsonTree
  targetWaypointIndex : JsonTree
  lastCompletedWaypointIndex : JsonTree

/-- A message without the optional fields. -/
def TaskStatus.plain (taskId : String) (status : Reported) (phase : String) (progress : JsonTree) :
    TaskStatus where
  taskId := taskId
  status := status
  phase := phase
  progress := progress
  failureCode := none
  failureMessage := none
  checkpointIndex := .null
  checkpointTotal := .null
  currentSlotCode := .null
  nextSlotCode := .null
  waypointIndex := .null
  waypointTotal := .null
  targetWaypointIndex := .null
  lastCompletedWaypointIndex := .null

/-! ## The database -/

/-- `TaskEvent.payload_json`. -/
inductive Payload where
  | empty
  | report (msg : TaskStatus)
  | verification (fresh localizationOk : Bool) (frames : Nat)

/-- A row of `task_events`. -/
structure TaskEvent where
  taskId : String
  status : TaskState
  phase : String
  progress : JsonTree
  payload : Payload

/-- The tables. Commands and outbox events are found by the command's id. -/
structure Database where
  tasks : Table String Task
  commands : Table String Command
  outbox : Table String Outbox
  fires : Table String Fire
  taskEvents : List TaskEvent

/-- The tables before any request. -/
def Database.empty : Database where
  tasks := ∅
  commands := ∅
  outbox := ∅
  fires := ∅
  taskEvents := []

end Firebot.Tasks
