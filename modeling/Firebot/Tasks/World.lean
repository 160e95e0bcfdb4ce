import Firebot.Lib.Run
import Firebot.Tasks.Report

/-!
# Everything that writes to tasks and their commands

Requests create and cancel tasks, the dispatcher publishes commands or notes that they have expired, the
ingress handles ACKs and reports, and the worker's tick sweeps overdue commands and verifies the pose of
finished navigations. Each is one transaction here, and one event of `Event`; a transaction that fails
leaves the database as it was and is no event.
-/

namespace Firebot.Tasks

open Firebot.Server (AckMessage Failure Outbox)

/-! ## Requests -/

/-- A task to be created, with the id of its command. -/
structure Creation where
  taskId : String
  commandId : String
  robotId : String
  fireEventId : Option String
  type : TaskType
  phase : String
  parameters : Parameters
  expiresAt : Time

namespace Creation

/-- The task as it is inserted. -/
def task (c : Creation) (now : Time) : Task where
  robotId := c.robotId
  fireEventId := c.fireEventId
  type := c.type
  status := .created
  phase := c.phase
  progress := .int 0
  parameters := c.parameters
  createdAt := now
  acceptedAt := none
  startedAt := none
  completedAt := none
  failureCode := none
  failureMessage := none

end Creation

/-- A patrol of the robot `R1`, for runs on fixed inputs. -/
def patrolCreation (taskId commandId : String) (expiresAt : Time) : Creation where
  taskId := taskId
  commandId := commandId
  robotId := "R1"
  fireEventId := none
  type := .patrol
  phase := "PATROL_PLAN_TRIGGERED"
  parameters := .empty
  expiresAt := expiresAt

/-- The row of `commands` that `create_durable_command` inserts. -/
def Command.queued (robotId : String) (taskId : Option String) (cmd : Cmd)
    (now expiresAt : Time) : Command where
  robotId := robotId
  taskId := taskId
  cmd := cmd
  lifecycleStatus := .queued
  issuedAt := now
  expiresAt := expiresAt
  publishedAt := none
  ackAt := none
  ackStatus := none
  ackReason := none
  terminalAt := none

/-- The row of `outbox_events` that `create_durable_command` inserts. -/
def outboxPending (now : Time) : Outbox where
  status := .pending
  attempts := 0
  availableAt := now
  publishedAt := none
  lastError := none

namespace Database

/-- The active tasks of a robot. -/
def active (db : Database) (robotId : String) : List (String × Task) :=
  db.tasks.select fun _ task => task.robotId = robotId && task.status.active

/-- The end of `assert_robot_can_execute`: an active task of the robot, the first the query finds,
forbids the action. -/
def activeConflict (db : Database) (robotId : String) (cmd : Cmd) : Bool :=
  match (db.active robotId).head? with
  | none => false
  | some (_, task) =>
    match cmd with
    | .manualControl | .patrol | .extinguish => true
    | .returnDock => task.type = .extinguish
    | .cancelTask | .stopMotion | .emergencyStop | .resetEstop => false

/-- `create_durable_command`, from the insertion on. -/
def enqueue (db : Database) (commandId : String) (command : Command) (now : Time) : Database :=
  { db with
    commands := db.commands.insert commandId command
    outbox := db.outbox.insert commandId (outboxPending now) }

/-- A task without its command: what the scheduler leaves when the command is refused. -/
def strand (db : Database) (c : Creation) (now : Time) : Database :=
  { db with
    tasks := db.tasks.insert c.taskId (c.task now)
    taskEvents := db.taskEvents ++ [{ taskId := c.taskId, status := .created, phase := c.phase
                                      progress := .int 0, payload := .empty }] }

/-- A task with the command that starts it. -/
def create (db : Database) (c : Creation) (now : Time) : Database :=
  ({ db.strand c now with
      tasks := db.tasks.insert c.taskId
        { c.task now with status := .queued, phase := "COMMAND_QUEUED" } }).enqueue c.commandId
    (.queued c.robotId (some c.taskId) c.type.cmd now c.expiresAt) now

/-- `cancel_task` on a task that has not ended. -/
def cancel (db : Database) (taskId commandId : String) (task : Task) (now expiresAt : Time) :
    Database :=
  { db.enqueue commandId (.queued task.robotId (some taskId) .cancelTask now expiresAt) now with
    tasks := Table.modify taskId (fun task => { task with phase := "CANCEL_QUEUED" }) db.tasks
    taskEvents := db.taskEvents ++ [{ taskId := taskId, status := task.status
                                      phase := "CANCEL_QUEUED", progress := task.progress
                                      payload := .empty }] }

end Database

/-! ## The dispatcher -/

/-- What `publish_command` ends in; `expired` stands for its `TimeoutError`. -/
inductive Publish where
  | sent
  | expired
  | failed (error : Failure)
  deriving DecidableEq

/-- `publish_command`: a payload that is not valid fails, one that has expired is not sent, and the
broker may fail. -/
def publishCommand (invalid broker : Option Failure) (expiresAt now : Time) : Publish :=
  match invalid with
  | some error => .failed error
  | none =>
    if expiresAt ≤ now then .expired
    else match broker with
      | some error => .failed error
      | none => .sent

/-- The command once the dispatcher is done with it. -/
def Command.dispatched (command : Command) (now : Time) : Publish → Command
  | .sent => { command with lifecycleStatus := .published, publishedAt := some now }
  | .expired => { command with lifecycleStatus := .expired, terminalAt := some now }
  | .failed _ => command

/-- The outbox event once the dispatcher is done with it. -/
def outboxDispatched (event : Outbox) (now : Time) : Publish → Outbox
  | .sent => { event with status := .published, publishedAt := some now
                          attempts := event.attempts + 1 }
  | .expired => { event with status := .expired, lastError := some "expired" }
  | .failed error =>
    let attempts := event.attempts + 1
    { event with
      attempts := attempts
      lastError := some (error.text.take 500).toString
      availableAt := now + (min 30 (Nat.pow 2 (min attempts 5)) : Nat) * second }

/-- The outbox event is one that `outbox_loop` selects. -/
def due (event : Outbox) (now : Time) : Bool :=
  event.status = .pending && decide (event.availableAt ≤ now)

/-- One pass of `outbox_loop` over an event and its command. -/
def Database.dispatch (db : Database) (commandId : String) (publish : Publish) (now : Time) :
    Database :=
  { db with
    commands := Table.modify commandId (·.dispatched now publish) db.commands
    outbox := Table.modify commandId (outboxDispatched · now publish) db.outbox }

/-! ## The worker -/

/-- What the worker reads of a robot's latest telemetry for the verification of a pose: whether its
stamps can be read, whether it is fresh and well localised, and whether it is within the tolerances. -/
structure PoseCheck where
  readable : Bool
  fresh : Bool
  localizationOk : Bool
  within : Bool
  deriving DecidableEq, Repr

/-- What one look at a task under verification comes to. -/
inductive Verdict where
  | verified
  | unverified
  | waiting
  deriving DecidableEq, Repr

namespace Task

/-- The worker selects the task for the verification of its pose. -/
def verifying (task : Task) : Bool :=
  task.type = .navigateToPreset && task.status = .executing &&
    task.phase = "VERIFYING_FINAL_POSE"

/-- The frames counted, with this look. -/
def frames (task : Task) (check : PoseCheck) : Nat :=
  if check.fresh && check.localizationOk && check.within then
    task.parameters.poseVerificationFrames.getD 0 + 1
  else 0

/-- The time the verification counts from. -/
def verifyingSince (task : Task) (check : PoseCheck) : Time :=
  if check.readable then task.parameters.vehicleCompletedReportedAt.getD task.createdAt
  else task.createdAt

/-- Enough frames verify the pose; without them the verification ends at its timeout. -/
def verdict (task : Task) (check : PoseCheck) (now : Time) : Verdict :=
  if task.parameters.requiredVerificationFrames.getD 3 ≤ task.frames check then .verified
  else if (task.parameters.verificationTimeoutSeconds.getD 30 : Nat) * second ≤
      now - task.verifyingSince check then .unverified
  else .waiting

/-- The task after one look. -/
def checked (task : Task) (check : PoseCheck) (now : Time) : Task :=
  let counted := { task with
    parameters := { task.parameters with poseVerificationFrames := some (task.frames check) } }
  match task.verdict check now with
  | .verified =>
    { counted with status := .succeeded, phase := "FINAL_POSE_VERIFIED", progress := .int 100
                   completedAt := some now }
  | .unverified =>
    { counted with status := .failed, phase := "FINAL_POSE_UNVERIFIED"
                   failureCode := some "FINAL_POSE_UNVERIFIED"
                   failureMessage := some "车辆报告完成，但新鲜定位数据未能连续证明到位"
                   completedAt := some now }
  | .waiting => counted

end Task

/-- The command is published and has waited for its ACK for longer than the timeout. -/
def Command.overdue (command : Command) (timeout : Nat) (now : Time) : Bool :=
  command.lifecycleStatus = .published && command.publishedAt.any (· < now - timeout)

/-- What the sweep makes of an overdue command. -/
def Command.swept (command : Command) (timeout : Nat) (now : Time) : Command :=
  if command.overdue timeout now then
    { command with lifecycleStatus := .publishedUnconfirmed, ackReason := some "ACK_TIMEOUT" }
  else command

namespace Database

/-- The command whose state a verified pose sets: the latest of the task, whatever it is. -/
def latestCommand (db : Database) (taskId : String) : Option (String × Command) :=
  db.commands.newest (fun _ command => command.taskId = some taskId) Command.issuedAt

/-- `reconcile_navigation_verification` on one task. -/
def verifyTask (now : Time) (db : Database) (id : String) (task : Task) (check : PoseCheck) :
    Database :=
  let after := task.checked check now
  { db with
    tasks := Table.modify id (·.checked check now) db.tasks
    taskEvents :=
      if task.verdict check now = .waiting then db.taskEvents
      else db.taskEvents ++ [{ taskId := id, status := after.status, phase := after.phase
                               progress := after.progress
                               payload := .verification check.fresh check.localizationOk
                                 (task.frames check) }]
    commands :=
      if task.verdict check now = .verified then
        match db.latestCommand id with
        | some (latest, _) =>
          Table.modify latest (fun command =>
            { command with lifecycleStatus := .succeeded, terminalAt := some now }) db.commands
        | none => db.commands
      else db.commands }

/-- `reconcile_navigation_verification`; `none` where a look at the telemetry raises. -/
def reconcileNavigationVerification (check : String → Task → Option PoseCheck) (now : Time)
    (db : Database) : Option Database :=
  (db.tasks.select fun _ task => task.verifying).foldlM
    (fun db r => (check r.1 r.2).map (db.verifyTask now r.1 r.2)) db

/-- `expire_sessions_and_commands`, its commands. -/
def expireCommands (timeout : Nat) (now : Time) (db : Database) : Database :=
  { db with commands := Table.update (fun _ command => command.swept timeout now) db.commands }

/-- One tick of the worker; one that raises is rolled back. -/
def tick (check : String → Task → Option PoseCheck) (timeout : Nat) (now : Time)
    (db : Database) : Database :=
  ((db.expireCommands timeout now).reconcileNavigationVerification check now).getD db

end Database

/-! ## The steps -/

/-- What can happen to the tasks and their commands. -/
inductive Event where
  | create (c : Creation) (now : Time)
  | strand (c : Creation) (now : Time)
  | cancel (taskId commandId : String) (now expiresAt : Time)
  | dispatch (commandId : String) (invalid broker : Option Failure) (now : Time)
  | ack (robotId commandId : String) (msg : AckMessage) (received : Time)
  | taskStatus (robotId : String) (msg : TaskStatus) (received : Time)
  | tick (check : String → Task → Option PoseCheck) (timeout : Nat) (now : Time)

namespace Database

/-- The ids of a new task and its command are new. -/
def fresh (db : Database) (taskId commandId : String) : Prop :=
  db.tasks.lookup taskId = none ∧ db.commands.lookup commandId = none

instance (db : Database) (taskId commandId : String) : Decidable (db.fresh taskId commandId) :=
  inferInstanceAs (Decidable (_ ∧ _))

/-- One event. -/
def step (db : Database) : Event → Database
  | .create c now =>
    if db.fresh c.taskId c.commandId ∧ db.activeConflict c.robotId c.type.cmd = false then
      db.create c now
    else db
  | .strand c now => if db.tasks.lookup c.taskId = none then db.strand c now else db
  | .cancel taskId commandId now expiresAt =>
    match db.tasks.lookup taskId with
    | none => db
    | some task =>
      if task.status.active ∧ db.commands.lookup commandId = none then
        db.cancel taskId commandId task now expiresAt
      else db
  | .dispatch commandId invalid broker now =>
    match db.outbox.lookup commandId, db.commands.lookup commandId with
    | some event, some command =>
      if due event now then
        db.dispatch commandId (publishCommand invalid broker command.expiresAt now) now
      else db
    | _, _ => db
  | .ack robotId commandId msg received => db.handleAck robotId commandId msg received
  | .taskStatus robotId msg received => db.handleTaskStatus robotId msg received
  | .tick check timeout now => db.tick check timeout now

/-- The database after a list of events. -/
abbrev run (db : Database) (events : List Event) : Database := Runs.run step db events

end Database

end Firebot.Tasks
