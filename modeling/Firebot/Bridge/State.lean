import Mathlib.Logic.Function.Basic
import Firebot.Bridge.Protocol

/-!
# The Bridge's shared state

`BridgeState` of the vehicle Bridge: the telemetry cache the ROS providers write, the task lock, and
the table of processed commands that makes redeliveries idempotent. A record of the table lives for
`dedupTtl` after its last update (`cleanupLocked` runs before every registration and every lookup),
however long the command itself lives.

Every method here holds the state's lock from its first line to its last, so each is one function of
the state. The task lock is set by `acquireTask` and cleared by `releaseTask` only; the telemetry
methods leave it and the table alone (`applyStatus_taskLockId` and its neighbours).
-/

namespace Firebot.Bridge

/-- `_DEDUP_TTL_SECONDS`. -/
def dedupTtl : Time := 300 * second

/-- A record of a processed command. -/
structure CommandRecord where
  ts : Time
  command : Command
  ack : Option CommandAck
  taskStatus : Option TaskReport
  terminal : Bool
  deriving DecidableEq

/-- A location observation, as the ROS side sends it. -/
structure Location where
  position : Json
  linear : Json
  angular : Json
  localizationStatus : Json
  deriving DecidableEq

/-- The fields a `status` event may carry. -/
structure StatusFields where
  mode : Option Json
  estopActive : Option Json
  activeTaskId : Option Json
  deriving DecidableEq

/-- `BridgeState`. -/
structure BridgeState where
  mode : Json
  estopActive : Json
  reportedActiveTaskId : Json
  taskLockId : Option Json
  cancelRequested : Bool
  lastBattery : Json
  lastSmoke : Json
  lastBottomIr : Json
  lastTopIrMax : Json
  lastLocation : Option Location
  locationRevision : Nat
  locationUpdated : Option Time
  batteryUpdated : Option Time
  smokeUpdated : Option Time
  batteryWasStale : Bool
  smokeWasStale : Bool
  processed : CommandId → Option CommandRecord

namespace BridgeState

/-- `BridgeState()`. -/
def initial : BridgeState where
  mode := .null
  estopActive := .null
  reportedActiveTaskId := .null
  taskLockId := none
  cancelRequested := false
  lastBattery := .null
  lastSmoke := .null
  lastBottomIr := .null
  lastTopIrMax := .null
  lastLocation := none
  locationRevision := 0
  locationUpdated := none
  batteryUpdated := none
  smokeUpdated := none
  batteryWasStale := false
  smokeWasStale := false
  processed := fun _ => none

/-! ## The table of processed commands -/

/-- A record that `_cleanup_locked` keeps at time `now`. -/
def alive (now : Time) (record : CommandRecord) : Bool := now - record.ts ≤ dedupTtl

/-- `_cleanup_locked`. -/
def cleanupLocked (s : BridgeState) (now : Time) : BridgeState :=
  { s with processed := fun id => (s.processed id).filter (alive now) }

/-- `register_command`. -/
def registerCommand (s : BridgeState) (id : CommandId) (command : Command) (now : Time) :
    BridgeState :=
  let s := s.cleanupLocked now
  let record := { ts := now, command, ack := none, taskStatus := none, terminal := false }
  { s with processed := Function.update s.processed id (some record) }

/-- `get_command_record`: the record of a command, and the state after the cleanup. -/
def getCommandRecord (s : BridgeState) (id : CommandId) (now : Time) :
    Option CommandRecord × BridgeState :=
  let s := s.cleanupLocked now
  (s.processed id, s)

/-- Update the record of a command, if it is still there, and its time. -/
def touchRecord (s : BridgeState) (id : CommandId) (now : Time)
    (change : CommandRecord → CommandRecord) : BridgeState :=
  match s.processed id with
  | none => s
  | some record =>
    { s with processed := Function.update s.processed id (some { (change record) with ts := now }) }

/-- `remember_ack`. -/
def rememberAck (s : BridgeState) (id : CommandId) (ack : CommandAck) (now : Time) : BridgeState :=
  s.touchRecord id now fun record => { record with ack := some ack }

/-- `remember_task_status`. -/
def rememberTaskStatus (s : BridgeState) (id : CommandId) (report : TaskReport) (now : Time) :
    BridgeState :=
  s.touchRecord id now fun record => { record with taskStatus := some report }

/-- `mark_terminal`. -/
def markTerminal (s : BridgeState) (id : CommandId) (now : Time) : BridgeState :=
  s.touchRecord id now fun record => { record with terminal := true }

/-! ## The task lock -/

/-- `acquire_task`: whether the lock was taken, and the state after it. -/
def acquireTask (s : BridgeState) (taskId : Json) : Bool × BridgeState :=
  if !taskId.truthy || s.taskLockId.isSome then (false, s)
  else (true, { s with taskLockId := some taskId, cancelRequested := false })

/-- `release_task`. -/
def releaseTask (s : BridgeState) : BridgeState :=
  { s with taskLockId := none, cancelRequested := false }

/-! ## Telemetry -/

/-- `set_location`. -/
def setLocation (s : BridgeState) (value : Option Location) (now : Time) : BridgeState :=
  match value with
  | none => { s with lastLocation := none }
  | some location =>
    { s with lastLocation := some location, locationRevision := s.locationRevision + 1,
             locationUpdated := some now }

/-- `apply_status`. -/
def applyStatus (s : BridgeState) (fields : StatusFields) : BridgeState :=
  { s with mode := fields.mode.getD s.mode
           estopActive := fields.estopActive.getD s.estopActive
           reportedActiveTaskId := fields.activeTaskId.getD s.reportedActiveTaskId }

/-- `clear_ros_telemetry`. -/
def clearRosTelemetry (s : BridgeState) : BridgeState :=
  { s with lastBattery := .null, lastSmoke := .null, lastBottomIr := .null, lastTopIrMax := .null,
           lastLocation := none, locationUpdated := none, batteryUpdated := none,
           smokeUpdated := none, batteryWasStale := false, smokeWasStale := false, mode := .null,
           estopActive := .null, reportedActiveTaskId := .null }

/-! ## What each method leaves alone -/

theorem cleanupLocked_processed (s : BridgeState) (now : Time) (id : CommandId) :
    (s.cleanupLocked now).processed id = (s.processed id).filter (alive now) := rfl

@[simp] theorem registerCommand_taskLockId (s : BridgeState) (id : CommandId) (command : Command)
    (now : Time) : (s.registerCommand id command now).taskLockId = s.taskLockId := rfl

@[simp] theorem registerCommand_processed_self (s : BridgeState) (id : CommandId)
    (command : Command) (now : Time) : (s.registerCommand id command now).processed id =
      some { ts := now, command, ack := none, taskStatus := none, terminal := false } := by
  simp only [registerCommand, Function.update_self]

theorem registerCommand_processed_ne (s : BridgeState) {id other : CommandId} (command : Command)
    (now : Time) (h : other ≠ id) : (s.registerCommand id command now).processed other =
      (s.processed other).filter (alive now) := by
  simp only [registerCommand, Function.update_of_ne h, cleanupLocked_processed]

/-- Cleaning twice at one time is cleaning once. -/
theorem cleanupLocked_cleanupLocked (s : BridgeState) (now : Time) :
    (s.cleanupLocked now).cleanupLocked now = s.cleanupLocked now := by
  simp only [cleanupLocked, Option.filter_filter, Bool.and_self]

theorem registerCommand_cleanupLocked (s : BridgeState) (id : CommandId) (command : Command)
    (now : Time) :
    (s.cleanupLocked now).registerCommand id command now = s.registerCommand id command now := by
  simp only [registerCommand, cleanupLocked_cleanupLocked]

@[simp] theorem touchRecord_taskLockId (s : BridgeState) (id : CommandId) (now : Time)
    (change : CommandRecord → CommandRecord) :
    (s.touchRecord id now change).taskLockId = s.taskLockId := by
  unfold touchRecord
  split <;> rfl

theorem touchRecord_processed_self (s : BridgeState) (id : CommandId) (now : Time)
    (change : CommandRecord → CommandRecord) : (s.touchRecord id now change).processed id =
      (s.processed id).map fun record => { (change record) with ts := now } := by
  unfold touchRecord
  cases h : s.processed id with
  | none => exact h
  | some record => exact Function.update_self ..

theorem touchRecord_processed_ne (s : BridgeState) {id other : CommandId} (now : Time)
    (change : CommandRecord → CommandRecord) (h : other ≠ id) :
    (s.touchRecord id now change).processed other = s.processed other := by
  unfold touchRecord
  split
  · rfl
  · exact Function.update_of_ne h ..

@[simp] theorem setLocation_taskLockId (s : BridgeState) (value : Option Location) (now : Time) :
    (s.setLocation value now).taskLockId = s.taskLockId := by
  cases value <;> rfl

@[simp] theorem setLocation_processed (s : BridgeState) (value : Option Location) (now : Time) :
    (s.setLocation value now).processed = s.processed := by
  cases value <;> rfl

@[simp] theorem releaseTask_taskLockId (s : BridgeState) : s.releaseTask.taskLockId = none := rfl

/-- The lock is taken exactly when the task is named and the lock is free. -/
theorem acquireTask_spec (s : BridgeState) (taskId : Json) :
    (s.acquireTask taskId = (true, { s with taskLockId := some taskId, cancelRequested := false }) ∧
      taskId.truthy = true ∧ s.taskLockId = none) ∨
    (s.acquireTask taskId = (false, s) ∧ (taskId.truthy = false ∨ s.taskLockId ≠ none)) := by
  unfold acquireTask
  cases ht : taskId.truthy <;> cases hl : s.taskLockId <;> simp

end BridgeState

end Firebot.Bridge
