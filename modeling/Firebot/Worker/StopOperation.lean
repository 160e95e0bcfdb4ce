import Firebot.Lib.Run
import Firebot.Worker.Observation

/-!
# STOP operations

`stop_current_operation` sends a stop to the vehicle, asks for the cancellation of the active task, and
records both as a `StopOperation`; `reconcile_stop_operations` runs once a second over the operations
that are not terminal. Three truths are reconciled independently of each other: whether the mission was
cancelled (`cancelTruth`), whether the stop was acknowledged, and whether the vehicle stands still
(`motionTruth`). From the three the operation is closed or kept open.

A tick is one database transaction. Where it raises, nothing of it is kept, for none of the operations.
Every operation that a tick reconciles is announced once with `operation.stop.updated`; the announcements
are left out.
-/

namespace Firebot.Worker

/-! ## The rows -/

/-- `StopOperation.state`. -/
inductive OperationState where
  | stopRequested
  | verifyingStationary
  | stationaryConfirmedCancelPending
  | vehicleStationaryConfirmed
  | partialUnconfirmed
  | failed
  | unconfirmed
  deriving DecidableEq, Repr

/-- The states the worker's query leaves out. -/
def OperationState.terminal : OperationState → Bool
  | .vehicleStationaryConfirmed | .partialUnconfirmed | .failed | .unconfirmed => true
  | .stopRequested | .verifyingStationary | .stationaryConfirmedCancelPending => false

/-- `StopOperation.motion_stop_state`. -/
inductive MotionState where
  | waitingAck
  | verifyingStationary
  | unconfirmed
  | stationaryConfirmed
  deriving DecidableEq, Repr

/-- `StopOperation.mission_cancel_state`. -/
inductive CancelState where
  | notRequired
  | waitingAck
  | ackAccepted
  | cancelledConfirmed
  | unconfirmed
  | unavailable
  deriving DecidableEq, Repr

/-- The mission was cancelled, or there was none to cancel. -/
def CancelState.done : CancelState → Bool
  | .notRequired | .cancelledConfirmed => true
  | _ => false

/-- The cancellation is still waited for. -/
def CancelState.waiting : CancelState → Bool
  | .waitingAck | .ackAccepted => true
  | _ => false

/-- `StopOperation.failure_reason`. -/
inductive FailureReason where
  | taskCancelTimeout
  | stopAckUnconfirmed
  | taskCancelUnconfirmed
  | telemetryStale
  | velocityNotZero
  deriving DecidableEq, Repr

/-- A row of `stop_operations`. -/
structure StopOperation (F : Type) where
  robotId : String
  taskId : Option String
  cancelCommandId : Option String
  stopCommandId : String
  state : OperationState
  motionStopState : MotionState
  missionCancelState : CancelState
  stationaryFrames : Nat
  lastStationaryObservationAt : Option Time
  linearThreshold : F
  angularThreshold : F
  telemetryFreshnessMs : Int
  stopAckDeadlineAt : Time
  cancelDeadlineAt : Option Time
  stationaryVerifyDeadlineAt : Time
  terminalAt : Option Time
  failureReason : Option FailureReason
  deriving DecidableEq

/-- A `RobotOperationEvent` that closes a STOP operation. -/
structure OperationEvent where
  robotId : String
  taskId : Option String
  state : MotionState
  stationaryFrames : Nat
  missionCancelState : CancelState
  deriving DecidableEq, Repr

/-- `Command.ack_status`. -/
inductive AckStatus where
  | accepted
  | rejected
  | unsupported
  deriving DecidableEq, Repr

/-- `Command.lifecycle_status`. -/
inductive LifecycleStatus where
  | created
  | queued
  | published
  | publishedUnconfirmed
  | expired
  | ackAccepted
  | ackUnsupported
  | ackRejected
  | executing
  | succeeded
  | failed
  | cancelled
  deriving DecidableEq, Repr

/-- The lifecycles that tell of a stop command that did not get through. -/
def LifecycleStatus.lost : LifecycleStatus → Bool
  | .publishedUnconfirmed | .failed | .expired => true
  | _ => false

/-- What the worker reads of a command. -/
structure CommandRow where
  ackStatus : Option AckStatus
  lifecycleStatus : LifecycleStatus
  deriving DecidableEq, Repr

/-- `Task.status`. -/
inductive TaskStatus where
  | created
  | queued
  | accepted
  | executing
  | succeeded
  | failed
  | cancelled
  deriving DecidableEq, Repr

/-- One tick of the worker: its time, the rows it finds, and the `latest` documents of the robots (the
empty one for a robot or a document that is not found). -/
structure Tick (F : Type) where
  now : Time
  command : String → Option CommandRow
  task : String → Option TaskStatus
  latest : String → Latest F

variable {F : Type} [PyFloat F]

/-! ## `stop_current_operation` -/

/-- How the mission stands when the stop is requested: no active task, a task whose cancellation was
sent, or a task that cannot be cancelled. -/
inductive Mission where
  | idle
  | cancelled (taskId commandId : String)
  | unavailable (taskId : String)
  deriving DecidableEq, Repr

/-- The operation `stop_current_operation` records. It looks at the clock once for each deadline. -/
def stopCurrentOperation (robotId stopCommandId : String) (mission : Mission)
    (ackNow cancelNow verifyNow : Time) : StopOperation F where
  robotId := robotId
  taskId := match mission with
    | .idle => none
    | .cancelled taskId _ | .unavailable taskId => some taskId
  cancelCommandId := match mission with
    | .cancelled _ commandId => some commandId
    | .idle | .unavailable _ => none
  stopCommandId := stopCommandId
  state := .stopRequested
  motionStopState := .waitingAck
  missionCancelState := match mission with
    | .idle => .notRequired
    | .cancelled .. => .waitingAck
    | .unavailable _ => .unavailable
  stationaryFrames := 0
  lastStationaryObservationAt := none
  linearThreshold := PyFloat.ofDecimal (2 / 100)
  angularThreshold := PyFloat.ofDecimal (3 / 100)
  telemetryFreshnessMs := 1000
  stopAckDeadlineAt := ackNow + 5 * second
  cancelDeadlineAt := match mission with
    | .cancelled .. => some (cancelNow + 10 * second)
    | .idle | .unavailable _ => none
  stationaryVerifyDeadlineAt := verifyNow + 15 * second
  terminalAt := none
  failureReason := none

namespace StopOperation

/-! ## `reconcile_stop_operations` -/

/-- `_terminate_stop_operation`. -/
def terminate (op : StopOperation F) (now : Time) (state : OperationState) (motion : MotionState)
    (reason : Option FailureReason) : StopOperation F × Option OperationEvent :=
  let op := { op with state, motionStopState := motion, terminalAt := some now,
                      failureReason := reason <|> op.failureReason }
  (op, some { robotId := op.robotId, taskId := op.taskId, state := motion,
              stationaryFrames := op.stationaryFrames, missionCancelState := op.missionCancelState })

/-- What the task and the cancel command tell of a cancellation that is waited for. -/
def cancelHeard (op : StopOperation F) (t : Tick F) : CancelState :=
  if op.taskId.bind t.task = some .cancelled then .cancelledConfirmed
  else if (op.cancelCommandId.bind t.command).bind (·.ackStatus) = some .accepted then .ackAccepted
  else op.missionCancelState

/-- The mission cancel truth. -/
def cancelTruth (op : StopOperation F) (t : Tick F) : StopOperation F :=
  if op.missionCancelState.waiting then
    if (op.cancelHeard t).waiting ∧ ∃ deadline ∈ op.cancelDeadlineAt, deadline ≤ t.now then
      { op with missionCancelState := .unconfirmed, failureReason := some .taskCancelTimeout }
    else { op with missionCancelState := op.cancelHeard t }
  else op

/-- The stop command has been accepted. -/
def ackConfirmed (op : StopOperation F) (t : Tick F) : Bool :=
  (t.command op.stopCommandId).bind (·.ackStatus) = some .accepted

/-- The stop command will not be accepted any more, or not in time. -/
def ackUnconfirmed (op : StopOperation F) (t : Tick F) : Bool :=
  (t.command op.stopCommandId).any (·.lifecycleStatus.lost) ||
    (op.stopAckDeadlineAt ≤ t.now && !op.ackConfirmed t)

/-- The vehicle stands still, and the cancellation is still waited for. -/
def awaitCancel (op : StopOperation F) : StopOperation F :=
  { op with motionStopState := .stationaryConfirmed, state := .stationaryConfirmedCancelPending }

/-- The verification goes on, with a motion state for the display. -/
def keepVerifying (op : StopOperation F) (motion : MotionState) : StopOperation F :=
  { op with motionStopState := motion, state := .verifyingStationary }

/-- The vehicle stands still: the operation is closed, unless the cancellation is still waited for. -/
def stopped (op : StopOperation F) (t : Tick F) : StopOperation F × Option OperationEvent :=
  match op.missionCancelState with
  | .notRequired | .cancelledConfirmed =>
    if op.ackConfirmed t then
      op.terminate t.now .vehicleStationaryConfirmed .stationaryConfirmed none
    else
      op.terminate t.now .partialUnconfirmed .stationaryConfirmed (some .stopAckUnconfirmed)
  | .unavailable | .unconfirmed =>
    op.terminate t.now .partialUnconfirmed .stationaryConfirmed
      (op.failureReason <|> some .taskCancelUnconfirmed)
  | .waitingAck | .ackAccepted => (op.awaitCancel, none)

/-- The vehicle is not known to stand still: the operation is closed when it can no longer be, and else
kept open. -/
def moving (op : StopOperation F) (t : Tick F) (fresh : Bool) :
    StopOperation F × Option OperationEvent :=
  if !fresh && (op.ackUnconfirmed t || op.stationaryVerifyDeadlineAt ≤ t.now) then
    op.terminate t.now .unconfirmed .unconfirmed (some .telemetryStale)
  else if op.stationaryVerifyDeadlineAt ≤ t.now then
    op.terminate t.now .unconfirmed .unconfirmed (some .velocityNotZero)
  else
    (op.keepVerifying
      (if op.ackConfirmed t then .verifyingStationary
       else if op.ackUnconfirmed t then .unconfirmed
       else .waitingAck), none)

/-- The vehicle's document as the operation's thresholds see it. -/
def sight (op : StopOperation F) (t : Tick F) : Except Raised Sight :=
  (t.latest op.robotId).sight t.now op.telemetryFreshnessMs op.linearThreshold op.angularThreshold

/-- The frame counter after an observation. -/
def count (op : StopOperation F) (sight : Sight) : StopOperation F :=
  let advanced := advanceStationaryFrames sight.fresh sight.stationary sight.token
    op.lastStationaryObservationAt op.stationaryFrames
  { op with stationaryFrames := advanced.1, lastStationaryObservationAt := advanced.2 }

/-- One operation in one tick. Once the vehicle was seen to stand still, its telemetry is not read
again. -/
def reconcile (op : StopOperation F) (t : Tick F) :
    Except Raised (StopOperation F × Option OperationEvent) :=
  let op := op.cancelTruth t
  if op.motionStopState = .stationaryConfirmed then .ok (op.stopped t)
  else do
    let sight ← op.sight t
    let op := op.count sight
    if 5 ≤ op.stationaryFrames then return op.stopped t
    else return op.moving t sight.fresh

end StopOperation

/-! ## The table -/

/-- The rows of `stop_operations`, and the operation events they have led to. -/
structure StopTable (F : Type) where
  operations : List (StopOperation F)
  events : List OperationEvent

/-- One row: the query leaves a terminal one out. -/
def reconcileRow (t : Tick F) (op : StopOperation F) :
    Except Raised (StopOperation F × Option OperationEvent) :=
  if op.state.terminal then .ok (op, none) else op.reconcile t

/-- One row in a tick of its own: a tick that raises leaves it as it is. -/
def StopOperation.tick (op : StopOperation F) (t : Tick F) : StopOperation F :=
  match reconcileRow t op with
  | .ok result => result.1
  | .error _ => op

/-- The loop of `reconcile_stop_operations`. -/
def reconcileAll (t : Tick F) :
    List (StopOperation F) → Except Raised (List (StopOperation F) × List OperationEvent)
  | [] => .ok ([], [])
  | op :: rest =>
    match reconcileRow t op with
    | .error e => .error e
    | .ok (op, event) =>
      match reconcileAll t rest with
      | .error e => .error e
      | .ok (rest, events) => .ok (op :: rest, event.toList ++ events)

/-- What happens to the table. -/
inductive StopEvent (F : Type) where
  | request (robotId stopCommandId : String) (mission : Mission) (ackNow cancelNow verifyNow : Time)
  | tick (t : Tick F)

namespace StopTable

/-- A table without operations. -/
def empty : StopTable F where
  operations := []
  events := []

/-- `reconcile_stop_operations`, committed. -/
def tick (table : StopTable F) (t : Tick F) : StopTable F :=
  match reconcileAll t table.operations with
  | .ok (operations, events) => { operations, events := table.events ++ events }
  | .error _ => table

/-- One event. -/
def step (table : StopTable F) : StopEvent F → StopTable F
  | .request robotId stopCommandId mission ackNow cancelNow verifyNow =>
    { table with operations := table.operations ++
        [stopCurrentOperation robotId stopCommandId mission ackNow cancelNow verifyNow] }
  | .tick t => table.tick t

/-- The table after a list of events. -/
abbrev run (table : StopTable F) (events : List (StopEvent F)) : StopTable F :=
  Runs.run step table events

end StopTable

end Firebot.Worker
