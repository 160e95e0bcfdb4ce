import Firebot.Api.Idempotency

/-!
# Endpoints that command a robot

Each is an `Entry`: what it checks before the lookup stands before the entry is returned, its work stands in
it. `safety_command` makes its checks first; the others look the key up as soon as they know the robot.
-/

namespace Firebot.Api

open Firebot.Commands (assertRobotCanExecute checkBoot)
open Firebot.Manual (Lease Session)
open Firebot.Robots (Robot)
open Firebot.Scheduler (Plan checkPlan)
open Firebot.Tasks (Cmd Command CommandState Fire FireState Parameters Task TaskEvent TaskType outboxPending)
open Firebot.Worker (CancelState)
open Script

/-! ## Commands -/

/-- `require_permission(code)`. -/
def requirePermission (actorId permission : String) : Script Unit := do
  let permitted ← read (.permitted actorId permission)
  refuse (!permitted) (platformError "PERMISSION_DENIED" "当前用户没有执行此操作的权限")

/-- `find_robot`. -/
def findRobot (ref : String) : Script (String × Robot) := do
  let row ← read (.robot ref)
  found (.http 404 "机器人不存在") row

/-- `assert_robot_can_execute`. -/
def assertCanExecute (robotId : String) (robot : Robot) (cmd : Cmd) (ignoreTaskId : Option String) :
    Script Unit := do
  let sight ← read (.sight robotId cmd ignoreTaskId)
  check ((assertRobotCanExecute { sight with robot := robot } cmd).mapError .raised)

/-- Whom a command is for, from whom, and how. -/
structure Order where
  robotId : String
  robot : Robot
  operatorId : String
  cmd : Cmd
  taskId : Option String
  ttl : Time
  priority : Nat

/-- `build_command_payload`. -/
def Order.payload (order : Order) : Script Payload := do
  let now ← read .now
  check ((checkBoot order.robot order.cmd).mapError .raised)
  let commandId ← read .uuid
  return {
    commandId := commandId
    robotId := order.robotId
    targetBootId := order.robot.bootId
    taskId := order.taskId
    operatorId := order.operatorId
    cmd := order.cmd
    priority := order.priority
    issuedAt := now
    expiresAt := now + order.ttl }

/-- `create_durable_command`. -/
def createDurableCommand (order : Order) : Script Payload := do
  assertCanExecute order.robotId order.robot order.cmd order.taskId
  let payload ← order.payload
  flush
  return payload

/-- The rows that `create_durable_command` adds. -/
def Order.durableRows (order : Order) (payload : Payload) : List Row :=
  [ .command payload.commandId
      (.queued order.robotId order.taskId order.cmd payload.issuedAt payload.expiresAt),
    .outboxEvent payload.commandId payload ]

/-- `create_safety_command`. -/
def createSafetyCommand (order : Order) : Script Payload := do
  assertCanExecute order.robotId order.robot order.cmd order.taskId
  let payload ← order.payload
  flush
  return payload

/-- The row that `create_safety_command` adds. -/
def Order.safetyRow (order : Order) (payload : Payload) : Command :=
  let deliverable : Bool := order.robot.onlineState = .online
  { Command.queued order.robotId order.taskId order.cmd payload.issuedAt payload.expiresAt with
    lifecycleStatus := if deliverable then .created else .publishedUnconfirmed
    ackReason := if deliverable then none else some "OFFLINE_NOT_DELIVERED" }

/-! Their calls. -/

/-- Reading the permissions of a user. -/
theorem requirePermission_quiet (actorId permission : String) :
    (requirePermission actorId permission).Only Call.quiet :=
  Process.only_bind (only_read _) fun _ => only_refuse _ _

/-- Looking a robot up. -/
theorem findRobot_quiet (ref : String) : (findRobot ref).Only Call.quiet :=
  Process.only_bind (only_read _) fun _ => only_found _ _

/-- The gate before a command. -/
theorem assertCanExecute_quiet (robotId : String) (robot : Robot) (cmd : Cmd)
    (ignoreTaskId : Option String) : (assertCanExecute robotId robot cmd ignoreTaskId).Only Call.quiet :=
  Process.only_bind (only_read _) fun _ => only_check _

/-- The payload of an order, with the targets it resolves. -/
theorem payload_quiet (order : Order) : order.payload.Only Call.quiet :=
  Process.only_bind (only_read _) fun _ =>
    Process.only_bind (only_check _) fun _ => Process.only_bind (only_read _) fun _ => trivial

/-- The rows of a durable command. -/
theorem createDurableCommand_quiet (order : Order) : (createDurableCommand order).Only Call.quiet :=
  Process.only_bind (assertCanExecute_quiet ..) fun _ =>
    Process.only_bind (payload_quiet order) fun _ => Process.only_bind only_flush fun _ => trivial

/-- The rows of a safety command. -/
theorem createSafetyCommand_quiet (order : Order) : (createSafetyCommand order).Only Call.quiet :=
  Process.only_bind (assertCanExecute_quiet ..) fun _ =>
    Process.only_bind (payload_quiet order) fun _ => Process.only_bind only_flush fun _ => trivial

/-! ## Safety commands -/

/-- The lease that an emergency stop ends: its id, and its session where that is held. -/
structure Ended where
  leaseId : String
  session : Option Session

/-- What an emergency stop does with the lease of the robot. -/
def endLease (robotId : String) : Script (Option Ended) := do
  let active ← read (.lease robotId)
  match active with
  | none => return none
  | some lease =>
    let row ← read (.session lease.leaseId)
    match row.filter (·.state = .held) with
    | none => return some { leaseId := lease.leaseId, session := none }
    | some session =>
      let now ← read .now
      let lastSeq ← read (.lastSeq lease.leaseId)
      let ended := session.endLease .forceReleased "EMERGENCY_STOP" now lastSeq
      return some { leaseId := lease.leaseId, session := some ended }

/-- Ending a lease in the database. -/
theorem endLease_quiet (robotId : String) : (endLease robotId).Only Call.quiet := by
  refine Process.only_bind (only_read _) fun active => ?_
  split
  · trivial
  · refine Process.only_bind (only_read _) fun row => ?_
    split
    · trivial
    · exact Process.only_bind (only_read _) fun _ => Process.only_bind (only_read _) fun _ => trivial

/-- The row that is changed. -/
def Ended.rows (ended : Ended) : List Row := (ended.session.map (Row.endSession ended.leaseId)).toList

/-- The rows of an ended lease hold no recorded answer. -/
theorem Ended.unrecorded (ended : Ended) : ∀ row ∈ ended.rows, row.scope? = none := by
  obtain ⟨leaseId, session⟩ := ended
  cases session <;> simp [Ended.rows, Row.scope?]

/-- What `safety_command` commits and does afterwards. -/
def safetyOutcome (order : Order) (payload : Payload) (ended : Option Ended) : Work :=
  let row := order.safetyRow payload
  { rows := [.command payload.commandId row, .audit order.cmd.text payload.commandId] ++
      ended.toList.flatMap Ended.rows
    response := .command payload.commandId row
    leases := ended.toList.map fun _ => order.robotId
    delivery :=
      if order.robot.onlineState = .online then
        some
          { payload := payload
            unqueued := some (.command payload.commandId
              { row with
                lifecycleStatus := .publishedUnconfirmed
                ackReason := some "SAFETY_QUEUE_UNAVAILABLE" }) }
      else none
    event := some "command.updated"
    unrecorded := by
      simp only [List.forall_mem_append, List.mem_flatMap]
      refine ⟨by simp [Row.scope?], ?_⟩
      rintro row ⟨ended, _, mem⟩
      exact ended.unrecorded row mem
    delivers := by
      intro d sent
      split at sent
      · cases sent
        exact ⟨row, List.mem_cons_self⟩
      · cases sent }

/-- Only an emergency stop ends the lease. -/
def Order.endLease (order : Order) : Script (Option Ended) :=
  if order.cmd = .emergencyStop then Api.endLease order.robotId else pure none

/-- `safety_command`, from the lookup on. -/
def safetyWork (order : Order) : Script Work := do
  let payload ← createSafetyCommand order
  let ended ← order.endLease
  flush
  return safetyOutcome order payload ended

/-- The body of the safety endpoints. -/
theorem safetyWork_quiet (order : Order) : (safetyWork order).Only Call.quiet := by
  refine Process.only_bind (createSafetyCommand_quiet order) fun payload => ?_
  refine Process.only_bind ?_ fun ended => Process.only_bind only_flush fun _ => trivial
  unfold Order.endLease
  split
  · exact endLease_quiet _
  · trivial

/-- What is checked before the lookup is checked again by `create_safety_command`. -/
def safetyCommand (order : Order) (endpoint : String) : Script Entry := do
  assertCanExecute order.robotId order.robot order.cmd none
  return {
    endpoint := endpoint
    body := .obj []
    status := 202
    work := safetyWork order
    quiet := safetyWork_quiet order }

/-- `stop_motion`. -/
def stopMotion (actorId robotRef : String) : Script Entry := do
  requirePermission actorId "robot.control.stop"
  let (robotId, robot) ← findRobot robotRef
  safetyCommand
    { robotId, robot, operatorId := actorId, cmd := .stopMotion, taskId := none, ttl := 3 * second
      priority := 95 }
    ("/robots/" ++ robotId ++ "/commands/stop-motion")

/-- `emergency_stop`. -/
def emergencyStop (actorId robotRef : String) : Script Entry := do
  requirePermission actorId "robot.control.estop"
  let (robotId, robot) ← findRobot robotRef
  safetyCommand
    { robotId, robot, operatorId := actorId, cmd := .emergencyStop, taskId := none, ttl := 5 * second
      priority := 100 }
    ("/robots/" ++ robotId ++ "/commands/emergency-stop")

/-- `reset_estop`. -/
def resetEstop (actorId robotRef : String) : Script Entry := do
  requirePermission actorId "robot.control.reset_estop"
  let (robotId, robot) ← findRobot robotRef
  refuse (robot.onlineState ≠ .online)
    (platformError ("ROBOT_" ++ robot.onlineState.text) "离线或陈旧机器人不能复位软件急停")
  safetyCommand
    { robotId, robot, operatorId := actorId, cmd := .resetEstop, taskId := none, ttl := 5 * second
      priority := 90 }
    ("/robots/" ++ robotId ++ "/commands/reset-estop")

/-! ## A return to the dock -/

/-- `return_dock` of the commands, from the lookup on. -/
def returnDockCommandWork (order : Order) : Script Work := do
  let payload ← createDurableCommand order
  flush
  let row := Command.queued order.robotId order.taskId order.cmd payload.issuedAt payload.expiresAt
  return .plain (order.durableRows payload ++ [.audit "RETURN_DOCK" payload.commandId])
    (.command payload.commandId row) none (by simp [Order.durableRows, Row.scope?])

/-- The body of the command that returns to the dock. -/
theorem returnDockCommandWork_quiet (order : Order) : (returnDockCommandWork order).Only Call.quiet :=
  Process.only_bind (createDurableCommand_quiet order) fun _ =>
    Process.only_bind only_flush fun _ => trivial

/-- `return_dock` of the commands. -/
def returnDockCommand (actorId robotRef : String) (params : List (JsonText × JsonTree)) :
    Script Entry := do
  requirePermission actorId "robot.control.task"
  let (robotId, robot) ← findRobot robotRef
  let order : Order :=
    { robotId, robot, operatorId := actorId, cmd := .returnDock, taskId := none, ttl := 30 * second
      priority := 60 }
  return {
    endpoint := "/robots/" ++ robotId ++ "/commands/return-dock"
    body := .obj [("params", .obj params)]
    status := 202
    work := returnDockCommandWork order
    quiet := returnDockCommandWork_quiet order }

/-! ## Stopping what a robot does -/

/-- The cancellation that a stop asks for, and what becomes of it. -/
structure Cancellation where
  payload : Option Payload
  state : CancelState

/-- The task that a stop cancels. A refusal by the platform does not keep the stop back. -/
def cancelActive (robotId : String) (robot : Robot) (actorId : String) (active : Option (String × Task)) :
    Script Cancellation :=
  match active with
  | none => return { payload := none, state := .notRequired }
  | some (taskId, _) =>
    tryCatch (do
      let payload ← createDurableCommand
        { robotId, robot, operatorId := actorId, cmd := .cancelTask, taskId := some taskId
          ttl := 30 * second, priority := 96 }
      return { payload := some payload, state := .waitingAck }) fun e =>
        match e with
        | .raised (.platform ..) => return { payload := none, state := .unavailable }
        | e => throw e

/-- The rows of the cancellation. -/
def Cancellation.rows (cancellation : Cancellation) : List Row :=
  match cancellation.payload with
  | none => []
  | some payload =>
    [ .command payload.commandId
        (.queued payload.robotId payload.taskId payload.cmd payload.issuedAt payload.expiresAt),
      .outboxEvent payload.commandId payload, .setPhase (payload.taskId.getD "") "STOP_REQUESTED" ]

/-- Nor do the rows of a cancelled task. -/
theorem Cancellation.unrecorded (cancellation : Cancellation) :
    ∀ row ∈ cancellation.rows, row.scope? = none := by
  obtain ⟨payload, state⟩ := cancellation
  cases payload <;> simp [Cancellation.rows, Row.scope?]

/-- What `stop_current_operation` commits and does afterwards. -/
def stopOutcome (order : Order) (stop : Payload) (cancellation : Cancellation) (operationId : String)
    (now : Time) : Work :=
  let operation : StopRow :=
    { robotId := order.robotId
      bootIdSnapshot := order.robot.bootId
      taskId := order.taskId
      cancelCommandId := cancellation.payload.map Payload.commandId
      stopCommandId := stop.commandId
      missionCancelState := cancellation.state
      requestedBy := order.operatorId
      stopAckDeadlineAt := now + 5 * second
      cancelDeadlineAt := cancellation.payload.map fun _ => now + 10 * second
      stationaryVerifyDeadlineAt := now + 15 * second }
  { rows := .command stop.commandId (order.safetyRow stop) :: cancellation.rows ++
      [ .stopOperation operationId operation, .operationEvent order.robotId order.taskId,
        .audit "STOP_OPERATION_REQUEST" operationId ]
    response := .stopOperation operationId operation
    leases := []
    delivery :=
      if order.robot.onlineState = .online then some { payload := stop, unqueued := none } else none
    event := some "operation.stop.updated"
    unrecorded := by
      simp only [List.cons_append, List.forall_mem_cons, List.forall_mem_append]
      exact ⟨rfl, cancellation.unrecorded, by simp [Row.scope?]⟩
    delivers := by
      intro d sent
      split at sent
      · cases sent
        exact ⟨order.safetyRow stop, List.mem_cons_self⟩
      · cases sent }

/-- `stop_current_operation`, from the lookup on. -/
def stopOperationWork (actorId robotId : String) (robot : Robot) : Script Work := do
  let active ← read (.activeTask robotId)
  let order : Order :=
    { robotId, robot, operatorId := actorId, cmd := .stopMotion, taskId := active.map Prod.fst
      ttl := 3 * second, priority := 99 }
  let stop ← createSafetyCommand order
  let cancellation ← cancelActive robotId robot actorId active
  let now ← read .now
  let operationId ← read .uuid
  flush
  return stopOutcome order stop cancellation operationId now

/-- Cancelling the active task, if there is one. -/
theorem cancelActive_quiet (robotId : String) (robot : Robot) (actorId : String)
    (active : Option (String × Task)) : (cancelActive robotId robot actorId active).Only Call.quiet := by
  unfold cancelActive
  split
  · trivial
  · refine Process.only_tryCatch ?_ fun e => ?_
    · exact Process.only_bind (createDurableCommand_quiet _) fun _ => trivial
    · split <;> trivial

/-- The body of stopping the operation of a robot. -/
theorem stopOperationWork_quiet (actorId robotId : String) (robot : Robot) :
    (stopOperationWork actorId robotId robot).Only Call.quiet :=
  Process.only_bind (only_read _) fun _ =>
    Process.only_bind (createSafetyCommand_quiet _) fun _ =>
      Process.only_bind (cancelActive_quiet ..) fun _ =>
        Process.only_bind (only_read _) fun _ =>
          Process.only_bind (only_read _) fun _ => Process.only_bind only_flush fun _ => trivial

/-- `stop_current_operation`. -/
def stopCurrentOperation (actorId robotRef : String) : Script Entry := do
  requirePermission actorId "robot.control.stop"
  let (robotId, robot) ← findRobot robotRef
  return {
    endpoint := "/robots/" ++ robotId ++ "/stop-operation"
    body := .obj []
    status := 202
    work := stopOperationWork actorId robotId robot
    quiet := stopOperationWork_quiet .. }

end Firebot.Api
