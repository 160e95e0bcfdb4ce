import Firebot.Api.Commands

/-!
# Endpoints that create and cancel tasks

A builder checks its target, inserts the task, and creates the command that starts it; a refusal of the
command raises out of the request, and the task goes with the session. All but one look their key up first:
`alarm_create_task` looks at the alarm before `create_task` looks the key up.
-/

namespace Firebot.Api

open Firebot.Robots (Robot)
open Firebot.Scheduler (Plan checkPlan)
open Firebot.Tasks (Command Fire FireState Parameters Task TaskType)
open Script

/-! ## The task and its command -/

/-- A task as its builder inserts it. -/
structure Draft where
  robotId : String
  fireEventId : Option String
  type : TaskType
  phase : String
  parameters : Parameters

/-- The row of `tasks` when the command has been created. -/
def Draft.row (draft : Draft) (now : Time) : Task where
  robotId := draft.robotId
  fireEventId := draft.fireEventId
  type := draft.type
  status := .queued
  phase := "COMMAND_QUEUED"
  progress := .int 0
  parameters := draft.parameters
  createdAt := now
  acceptedAt := none
  startedAt := none
  completedAt := none
  failureCode := none
  failureMessage := none

/-- A task that has been inserted with its command. -/
structure Added where
  draft : Draft
  taskId : String
  createdAt : Time
  order : Order
  payload : Payload

/-- The end of every builder: the task is added and flushed, then the command is created. -/
def addTask (actorId : String) (robot : Robot) (draft : Draft) (priority : Nat) : Script Added := do
  let taskId ← read .uuid
  let now ← read .now
  flush
  let order : Order :=
    { robotId := draft.robotId, robot, operatorId := actorId, cmd := draft.type.cmd
      taskId := some taskId, ttl := 30 * second, priority }
  let payload ← createDurableCommand order
  return { draft, taskId, createdAt := now, order, payload }

/-- The rows of a task and its command, with what else is changed. -/
def Added.rows (added : Added) : List Row :=
  [ .task added.taskId (added.draft.row added.createdAt),
    .taskEvent { taskId := added.taskId, status := .created, phase := added.draft.phase
                 progress := .int 0, payload := .empty } ] ++ added.order.durableRows added.payload

/-- What an endpoint that creates a task commits. -/
def Added.outcome (added : Added) (action : String) (changes : List Row)
    (unrecorded : ∀ row ∈ changes, row.scope? = none) : Work :=
  .plain (added.rows ++ changes ++ [.audit action added.taskId])
    (.task added.taskId (added.draft.row added.createdAt) added.payload.commandId) (some "task.created")
    (by
      simp only [List.forall_mem_append]
      exact ⟨⟨by simp [Added.rows, Order.durableRows, Row.scope?], unrecorded⟩, by simp [Row.scope?]⟩)

/-- Writing a task row and its event. -/
theorem addTask_quiet (actorId : String) (robot : Robot) (draft : Draft) (priority : Nat) :
    (addTask actorId robot draft priority).Only Call.quiet :=
  Process.only_bind (only_read _) fun _ =>
    Process.only_bind (only_read _) fun _ =>
      Process.only_bind only_flush fun _ =>
        Process.only_bind (createDurableCommand_quiet _) fun _ => trivial

/-! ## Extinguishing -/

/-- `EXTINGUISH_MODES`. -/
def extinguishModes : List String := ["DEPLOY_BLANKET", "SPRAY_AGENT", "DEPLOY_THEN_SPRAY"]

/-- `mode not in EXTINGUISH_MODES`; a list or an object cannot be looked up. -/
def checkMode (parameters : List (JsonText × JsonTree)) : Except Thrown Unit :=
  match (JsonTree.obj parameters).getD "extinguish_mode" with
  | .arr _ | .obj _ => .error .other
  | mode =>
    if extinguishModes.any mode.isText then .ok ()
    else .error (platformError "EXTINGUISH_MODE_REQUIRED" "灭火任务必须明确选择处理方式")

/-- `target_snapshot` of an extinguishing run, as far as it refuses the target. -/
def targetSnapshot (robot : Robot) (input : TaskInput) : Script Unit := do
  let row ← read (.slot input.targetParkingSlotId)
  let slot ← found (.http 404 "目标车位不存在") row
  let row ← read (.version slot.mapVersionId)
  let version ← found (.http 409 "目标必须属于 Published 地图版本") (row.filter Version.published)
  refuse (robot.currentMapId ≠ some version.mapId || robot.currentMapVersion ≠ some version.version)
    (platformError "MAP_VERSION_MISMATCH" "机器人地图版本与任务目标不一致")
  let point ← read (.extinguishPoint input.targetParkingSlotId)
  refuse point.isNone (.http 409 "目标车位缺少灭火操作点")
  match input.trajectoryId.filter (· ≠ "") with
  | none => return ()
  | some id =>
    let trajectory ← read (.trajectory id)
    refuse (trajectory.any fun path => path.mapVersionId ≠ slot.mapVersionId)
      (.http 409 "轨迹与目标地图版本不一致")

/-- The fire event that a task names: it must be there. -/
def namedFire (fireEventId : Option String) : Script (Option String) :=
  match fireEventId.filter (· ≠ "") with
  | none => return none
  | some id => do
    let row ← read (.fire id)
    let _ ← found (.http 404 "火情不存在") row
    return some id

/-- `create_task` of type `EXTINGUISH`, from the lookup on. -/
def createTaskWork (actorId : String) (input : TaskInput) : Script Work := do
  let (robotId, robot) ← findRobot input.robotId
  check (checkMode input.parameters)
  targetSnapshot robot input
  let added ← addTask actorId robot
    { robotId, fireEventId := input.fireEventId, type := .extinguish, phase := "CREATED"
      parameters := .empty } 70
  let fire ← namedFire input.fireEventId
  return added.outcome "TASK_EXTINGUISH_CREATE" (fire.toList.map fun id => .assignFire id added.taskId)
    (by simp [Row.scope?])

/-- Reading the fire a task is aimed at. -/
theorem targetSnapshot_quiet (robot : Robot) (input : TaskInput) :
    (targetSnapshot robot input).Only Call.quiet := by
  refine Process.only_bind (only_read _) fun _ => Process.only_bind (only_found _ _) fun _ => ?_
  refine Process.only_bind (only_read _) fun _ => Process.only_bind (only_found _ _) fun _ => ?_
  refine Process.only_bind (only_refuse _ _) fun _ => Process.only_bind (only_read _) fun _ => ?_
  refine Process.only_bind (only_refuse _ _) fun _ => ?_
  split
  · trivial
  · exact Process.only_bind (only_read _) fun _ => only_refuse _ _

/-- Looking up the fire the request names. -/
theorem namedFire_quiet (fireEventId : Option String) : (namedFire fireEventId).Only Call.quiet := by
  unfold namedFire
  split
  · trivial
  · exact Process.only_bind (only_read _) fun _ => Process.only_bind (only_found _ _) fun _ => trivial

/-- The body of `POST /tasks`. -/
theorem createTaskWork_quiet (actorId : String) (input : TaskInput) :
    (createTaskWork actorId input).Only Call.quiet :=
  Process.only_bind (findRobot_quiet _) fun _ =>
    Process.only_bind (only_check _) fun _ =>
      Process.only_bind (targetSnapshot_quiet _ _) fun _ =>
        Process.only_bind (addTask_quiet ..) fun _ =>
          Process.only_bind (namedFire_quiet _) fun _ => trivial

/-- `create_task` of type `EXTINGUISH`. -/
def createTask (actorId : String) (input : TaskInput) : Entry where
  endpoint := "/tasks/extinguish"
  body := input.modelDump
  status := 201
  work := createTaskWork actorId input
  quiet := createTaskWork_quiet actorId input

/-- `extinguish`. -/
def extinguish (actorId : String) (input : TaskInput) : Script Entry := do
  requirePermission actorId "extinguish.create"
  return createTask actorId input

/-- The states in which `alarm_create_task` lets a fire be extinguished. -/
def FireState.extinguishable : FireState → Bool
  | .new | .acknowledged | .confirmed => true
  | .dispatched | .inProgress | .resolved | .dismissed | .closed => false

/-- `alarm_create_task`. -/
def alarmCreateTask (actorId alarmId robotId : String) (trajectoryId : Option String)
    (parameters : List (JsonText × JsonTree)) : Script Entry := do
  requirePermission actorId "extinguish.create"
  let row ← read (.fire alarmId)
  let alarm ← found (.http 404 "火情不存在") row
  refuse (!FireState.extinguishable alarm.state) (.http 409 "该火情状态不允许创建灭火任务")
  return createTask actorId
    { robotId, targetParkingSlotId := alarm.parkingSlotId, trajectoryId, fireEventId := some alarmId
      parameters }

/-! ## Patrols -/

/-- `build_patrol_task`. -/
def buildPatrolTask (actorId robotId : String) (robot : Robot) (plan : Plan) : Script Added := do
  let catalogue ← read .catalogue
  check ((checkPlan catalogue plan robot).map (fun _ => ()) |>.mapError .raised)
  addTask actorId robot
    { robotId, fireEventId := none, type := .patrol, phase := "PATROL_PLAN_TRIGGERED"
      parameters := .empty } 50

/-- `patrol`, from the lookup on. -/
def patrolWork (actorId : String) (input : TaskInput) : Script Work := do
  let (robotId, robot) ← findRobot input.robotId
  let row ← read (.firstPlan robotId)
  let plan ← found (platformError "PATROL_PLAN_INVALID" "当前机器人没有启用的巡检计划") row
  let added ← buildPatrolTask actorId robotId robot plan
  return added.outcome "TASK_PATROL_CREATE" [] (by simp)

/-- Building a full patrol. -/
theorem buildPatrolTask_quiet (actorId robotId : String) (robot : Robot) (plan : Plan) :
    (buildPatrolTask actorId robotId robot plan).Only Call.quiet :=
  Process.only_bind (only_read _) fun _ =>
    Process.only_bind (only_check _) fun _ => addTask_quiet ..

/-- The body of `POST /tasks/patrol`. -/
theorem patrolWork_quiet (actorId : String) (input : TaskInput) :
    (patrolWork actorId input).Only Call.quiet :=
  Process.only_bind (findRobot_quiet _) fun _ =>
    Process.only_bind (only_read _) fun _ =>
      Process.only_bind (only_found _ _) fun _ =>
        Process.only_bind (buildPatrolTask_quiet ..) fun _ => trivial

/-- `patrol`. -/
def patrol (actorId : String) (input : TaskInput) : Script Entry := do
  requirePermission actorId "patrol.create"
  return {
    endpoint := "/tasks/patrol"
    body := input.modelDump
    status := 201
    work := patrolWork actorId input
    quiet := patrolWork_quiet actorId input }

/-- `PatrolPlanTaskInput`. -/
structure PatrolPlanTaskInput where
  robotId : String
  patrolPlanId : String
  parameters : List (JsonText × JsonTree)
  resumeTaskId : Option String

/-- `payload.model_dump()`. -/
def PatrolPlanTaskInput.modelDump (input : PatrolPlanTaskInput) : JsonTree :=
  .obj
    [ ("robot_id", .str input.robotId), ("patrol_plan_id", .str input.patrolPlanId),
      ("parameters", .obj input.parameters), ("resume_task_id", optionalText input.resumeTaskId) ]

/-- The task that a patrol continues, when the robot's plan is the one it is given. -/
def Resumable (robotId : String) (task : Task) : Bool :=
  task.robotId = robotId && task.type = .patrol && task.status = .cancelled

/-- `build_resumed_patrol_task`. -/
def buildResumedPatrolTask (actorId robotId : String) (robot : Robot) (plan : Plan) (previousId : String)
    (previous : Task) : Script Added := do
  let catalogue ← read .catalogue
  refuse ((catalogue.versions.lookup plan.mapVersionId).isNone || !plan.enabled)
    (platformError "PATROL_PLAN_INVALID" "巡检计划或地图版本无效")
  let poseKnown ← read (.poseKnown robotId)
  refuse (!poseKnown) (platformError "ROBOT_POSE_UNKNOWN" "无法确定机器人当前位置，不能安全恢复巡检")
  let _ ← read (.routes previous.parameters.liveRouteCursor)
  addTask actorId robot
    { robotId, fireEventId := none, type := .patrol, phase := "PATROL_RESUMED"
      parameters := { Parameters.empty with resumedFromTaskId := some previousId } } 50

/-- The builder that `patrol_plan_task` comes to, and the task it continues. -/
def startPatrolPlan (actorId robotId : String) (robot : Robot) (plan : Plan)
    (input : PatrolPlanTaskInput) : Script (Added × Option String) := do
  let newest ← read (.newestCancelled robotId)
  match input.resumeTaskId.filter (· ≠ "") with
  | some previousId =>
    let row ← read (.task previousId)
    let previous ← found (platformError "PATROL_RESUME_INVALID" "上次巡检状态无法安全恢复，请先返回等待区")
      (row.filter (Resumable robotId))
    let added ← buildResumedPatrolTask actorId robotId robot plan previousId previous
    return (added, some previousId)
  | none =>
    refuse (newest.any fun row => row.2.parameters.resumeState = some .available)
      (platformError "PATROL_RESUME_REQUIRED" "存在未完成巡检，请选择继续巡检或返回等待区")
    let atWaiting ← read (.atWaiting robotId)
    refuse (!atWaiting)
      (platformError "PATROL_START_REQUIRES_WAITING_AREA" "机器人当前不在等待区，请先返回等待区")
    let added ← buildPatrolTask actorId robotId robot plan
    return (added, none)

/-- `patrol_plan_task`, from the lookup on. -/
def patrolPlanWork (actorId : String) (input : PatrolPlanTaskInput) : Script Work := do
  let (robotId, robot) ← findRobot input.robotId
  let row ← read (.plan input.patrolPlanId)
  let plan ← found (platformError "PATROL_PLAN_INVALID" "巡检计划不存在或不属于当前机器人")
    (row.filter fun plan => plan.robotId = robotId)
  let (added, previousId) ← startPatrolPlan actorId robotId robot plan input
  return added.outcome "TASK_PATROL_CREATE"
    (previousId.toList.map fun id => .setResumeState id .consumedByResume) (by simp [Row.scope?])

/-- Building the rest of a patrol that was broken off. -/
theorem buildResumedPatrolTask_quiet (actorId robotId : String) (robot : Robot) (plan : Plan)
    (previousId : String) (previous : Task) :
    (buildResumedPatrolTask actorId robotId robot plan previousId previous).Only Call.quiet :=
  Process.only_bind (only_read _) fun _ =>
    Process.only_bind (only_refuse _ _) fun _ =>
      Process.only_bind (only_read _) fun _ =>
        Process.only_bind (only_refuse _ _) fun _ =>
          Process.only_bind (only_read _) fun _ => addTask_quiet ..

/-- Starting a plan, in full or from where it was left. -/
theorem startPatrolPlan_quiet (actorId robotId : String) (robot : Robot) (plan : Plan)
    (input : PatrolPlanTaskInput) :
    (startPatrolPlan actorId robotId robot plan input).Only Call.quiet := by
  refine Process.only_bind (only_read _) fun newest => ?_
  split
  · refine Process.only_bind (only_read _) fun _ => Process.only_bind (only_found _ _) fun _ => ?_
    exact Process.only_bind (buildResumedPatrolTask_quiet ..) fun _ => trivial
  · refine Process.only_bind (only_refuse _ _) fun _ => Process.only_bind (only_read _) fun _ => ?_
    refine Process.only_bind (only_refuse _ _) fun _ => ?_
    exact Process.only_bind (buildPatrolTask_quiet ..) fun _ => trivial

/-- The body of starting a patrol plan. -/
theorem patrolPlanWork_quiet (actorId : String) (input : PatrolPlanTaskInput) :
    (patrolPlanWork actorId input).Only Call.quiet :=
  Process.only_bind (findRobot_quiet _) fun _ =>
    Process.only_bind (only_read _) fun _ =>
      Process.only_bind (only_found _ _) fun _ =>
        Process.only_bind (startPatrolPlan_quiet ..) fun _ => trivial

/-- `patrol_plan_task`. -/
def patrolPlanTask (actorId : String) (input : PatrolPlanTaskInput) : Script Entry := do
  requirePermission actorId "patrol.create"
  return {
    endpoint := "/tasks/patrol-plan"
    body := input.modelDump
    status := 201
    work := patrolPlanWork actorId input
    quiet := patrolPlanWork_quiet actorId input }

/-! ## Returns, navigations and cancellations -/

/-- `build_return_task`. -/
def buildReturnTask (actorId robotId : String) (robot : Robot) (previous : Option (String × Task)) :
    Script Added := do
  let waiting ← read .waitingArea
  let _ ← read .cruise
  refuse waiting.isNone (platformError "WAITING_AREA_MISSING" "未配置远端待命区")
  let _ ← read (.poseKnown robotId)
  let _ ← read (.routes (previous.bind fun row => row.2.parameters.liveRouteCursor))
  addTask actorId robot
    { robotId, fireEventId := none, type := .returnDock, phase := "RETURN_TRIGGERED"
      parameters := .empty } 50

/-- `return_dock` of the tasks, from the lookup on. -/
def returnDockWork (actorId robotRef : String) : Script Work := do
  let (robotId, robot) ← findRobot robotRef
  let previous ← read (.newestCancelled robotId)
  let added ← buildReturnTask actorId robotId robot previous
  return added.outcome "RETURN_DOCK" [] (by simp)

/-- Building a return to the dock. -/
theorem buildReturnTask_quiet (actorId robotId : String) (robot : Robot)
    (previous : Option (String × Task)) :
    (buildReturnTask actorId robotId robot previous).Only Call.quiet :=
  Process.only_bind (only_read _) fun _ =>
    Process.only_bind (only_read _) fun _ =>
      Process.only_bind (only_refuse _ _) fun _ =>
        Process.only_bind (only_read _) fun _ =>
          Process.only_bind (only_read _) fun _ => addTask_quiet ..

/-- The body of `POST /robots/{ref}/return-dock`. -/
theorem returnDockWork_quiet (actorId robotRef : String) :
    (returnDockWork actorId robotRef).Only Call.quiet :=
  Process.only_bind (findRobot_quiet _) fun _ =>
    Process.only_bind (only_read _) fun _ =>
      Process.only_bind (buildReturnTask_quiet ..) fun _ => trivial

/-- `return_dock` of the tasks. -/
def returnDock (actorId robotRef : String) (parameters : List (JsonText × JsonTree)) :
    Script Entry := do
  requirePermission actorId "patrol.create"
  return {
    endpoint := "/tasks/return-dock"
    body := .obj [("robot_id", .str robotRef), ("parameters", .obj parameters)]
    status := 201
    work := returnDockWork actorId robotRef
    quiet := returnDockWork_quiet actorId robotRef }

/-- The target of `navigate_to_preset`. -/
def navigationTarget (robotId : String) (robot : Robot) (presetId : String) : Script Unit := do
  let row ← read (.preset presetId)
  let preset ← found (platformError "RESOURCE_NOT_FOUND" "预设位置不存在或已停用")
    (row.filter Preset.enabled)
  let row ← read (.version preset.mapVersionId)
  let version ← found (platformError "MAP_VERSION_NOT_PUBLISHED" "预设位置必须属于已发布地图")
    (row.filter Version.published)
  refuse (robot.currentMapId ≠ some version.mapId || robot.currentMapVersion ≠ some version.version)
    (platformError "MAP_VERSION_MISMATCH" "机器人与预设位置的地图版本不一致")
  let precise ← read (.reversePrecision robotId)
  refuse (preset.requiresReverse && !precise)
    (platformError "REVERSE_PRECISION_UNSUPPORTED" "当前 AGV 能力边界不承诺需要倒车的精确到位任务")

/-- `navigate_to_preset`, from the lookup on. -/
def navigateWork (actorId robotId : String) (robot : Robot) (presetId : String) : Script Work := do
  navigationTarget robotId robot presetId
  let added ← addTask actorId robot
    { robotId, fireEventId := none, type := .navigateToPreset, phase := "CREATED"
      parameters := { Parameters.empty with
        requiredVerificationFrames := some 3
        verificationTimeoutSeconds := some 30 } } 55
  return added.outcome "NAVIGATE_PRESET_CREATE" [] (by simp)

/-- Resolving a preset to a pose. -/
theorem navigationTarget_quiet (robotId : String) (robot : Robot) (presetId : String) :
    (navigationTarget robotId robot presetId).Only Call.quiet :=
  Process.only_bind (only_read _) fun _ =>
    Process.only_bind (only_found _ _) fun _ =>
      Process.only_bind (only_read _) fun _ =>
        Process.only_bind (only_found _ _) fun _ =>
          Process.only_bind (only_refuse _ _) fun _ =>
            Process.only_bind (only_read _) fun _ => only_refuse _ _

/-- The body of `POST /robots/{ref}/navigate`. -/
theorem navigateWork_quiet (actorId robotId : String) (robot : Robot) (presetId : String) :
    (navigateWork actorId robotId robot presetId).Only Call.quiet :=
  Process.only_bind (navigationTarget_quiet ..) fun _ =>
    Process.only_bind (addTask_quiet ..) fun _ => trivial

/-- `navigate_to_preset`. -/
def navigateToPreset (actorId robotRef presetId : String) : Script Entry := do
  requirePermission actorId "robot.control.task"
  let (robotId, robot) ← findRobot robotRef
  return {
    endpoint := "/robots/" ++ robotId ++ "/navigate-preset"
    body := .obj [("navigation_preset_id", .str presetId)]
    status := 201
    work := navigateWork actorId robotId robot presetId
    quiet := navigateWork_quiet .. }

/-- `cancel_task`, from the lookup on. -/
def cancelTaskWork (actorId taskId : String) : Script Work := do
  let row ← read (.task taskId)
  let task ← found (.http 404 "任务不存在") row
  refuse task.status.terminal (.http 409 "任务已处于终态")
  let row ← read (.robotById task.robotId)
  let robot ← found (.http 409 "任务所属机器人不存在") row
  let order : Order :=
    { robotId := task.robotId, robot, operatorId := actorId, cmd := .cancelTask, taskId := some taskId
      ttl := 30 * second, priority := 80 }
  let payload ← createDurableCommand order
  flush
  return .plain
    (order.durableRows payload ++
      [ .setPhase taskId "CANCEL_QUEUED",
        .taskEvent { taskId, status := task.status, phase := "CANCEL_QUEUED", progress := task.progress
                     payload := .empty },
        .audit "TASK_CANCEL" taskId ])
    (.task taskId { task with phase := "CANCEL_QUEUED" } payload.commandId) (some "task.updated")
    (by simp [Order.durableRows, Row.scope?])

/-- The body of cancelling a task. -/
theorem cancelTaskWork_quiet (actorId taskId : String) :
    (cancelTaskWork actorId taskId).Only Call.quiet :=
  Process.only_bind (only_read _) fun _ =>
    Process.only_bind (only_found _ _) fun _ =>
      Process.only_bind (only_refuse _ _) fun _ =>
        Process.only_bind (only_read _) fun _ =>
          Process.only_bind (only_found _ _) fun _ =>
            Process.only_bind (createDurableCommand_quiet _) fun _ =>
              Process.only_bind only_flush fun _ => trivial

/-- `cancel_task`. -/
def cancelTask (actorId taskId : String) : Script Entry := do
  requirePermission actorId "robot.control.task"
  return {
    endpoint := "/tasks/" ++ taskId ++ "/cancel"
    body := .obj [("task_id", .str taskId)]
    status := 202
    work := cancelTaskWork actorId taskId
    quiet := cancelTaskWork_quiet actorId taskId }

/-! ## Manual alarms -/

/-- `ManualAlarmInput`. -/
structure ManualAlarmInput where
  parkingSlotId : String
  fireType : String
  note : String
  mapVersion : String
  severity : String
  media : List (JsonText × JsonTree)

/-- `payload.model_dump()`. -/
def ManualAlarmInput.modelDump (input : ManualAlarmInput) : JsonTree :=
  .obj
    [ ("parking_slot_id", .str input.parkingSlotId), ("fire_type", .str input.fireType),
      ("note", .str input.note), ("map_version", .str input.mapVersion),
      ("severity", .str input.severity), ("media", .obj input.media) ]

/-- `manual_alarm`, from the lookup on. -/
def manualAlarmWork (input : ManualAlarmInput) : Script Work := do
  let row ← read (.slot input.parkingSlotId)
  let slot ← found (.http 404 "车位不存在") row
  let row ← read (.version slot.mapVersionId)
  refuse (!row.any fun version => version.version = input.mapVersion)
    (platformError "MAP_VERSION_MISMATCH" "人工火情地图版本不匹配")
  let now ← read .now
  let fingerprint ← read (.fingerprint input.parkingSlotId input.fireType now)
  let id ← read .uuid
  flush
  let fire : Fire :=
    { robotId := none, parkingSlotId := input.parkingSlotId, fireType := .str input.fireType
      severity := .str input.severity, confidence := .null, fingerprint, sourceMessageId := none
      sourceEventId := none, state := .new, firstSeenAt := now, lastSeenAt := now
      occurrenceCount := 1, resolvedAt := none, sourcePosition := slot.centerPose
      mediaSnapshot := .obj input.media }
  return .plain [.fireEvent id fire, .audit "ALARM_MANUAL_CREATE" id] (.fireEvent id fire)
    (some "alarm.created") (by simp [Row.scope?])

/-- The body of raising an alarm by hand. -/
theorem manualAlarmWork_quiet (input : ManualAlarmInput) :
    (manualAlarmWork input).Only Call.quiet :=
  Process.only_bind (only_read _) fun _ =>
    Process.only_bind (only_found _ _) fun _ =>
      Process.only_bind (only_read _) fun _ =>
        Process.only_bind (only_refuse _ _) fun _ =>
          Process.only_bind (only_read _) fun _ =>
            Process.only_bind (only_read _) fun _ =>
              Process.only_bind (only_read _) fun _ => Process.only_bind only_flush fun _ => trivial

/-- `manual_alarm`. -/
def manualAlarm (actorId : String) (input : ManualAlarmInput) : Script Entry := do
  requirePermission actorId "alarm.confirm"
  return {
    endpoint := "/alarms/manual"
    body := input.modelDump
    status := 201
    work := manualAlarmWork input
    quiet := manualAlarmWork_quiet input }

/-! ## The requests -/

/-- A request with an `Idempotency-Key`, by its path and its body. -/
inductive Request where
  | stopMotion (robotRef : String)
  | emergencyStop (robotRef : String)
  | resetEstop (robotRef : String)
  | returnDockCommand (robotRef : String) (params : List (JsonText × JsonTree))
  | stopOperation (robotRef : String)
  | navigatePreset (robotRef presetId : String)
  | patrol (input : TaskInput)
  | patrolPlan (input : PatrolPlanTaskInput)
  | returnDock (robotRef : String) (parameters : List (JsonText × JsonTree))
  | extinguish (input : TaskInput)
  | cancelTask (taskId : String)
  | manualAlarm (input : ManualAlarmInput)
  | alarmCreateTask (alarmId robotId : String) (trajectoryId : Option String)
      (parameters : List (JsonText × JsonTree))

/-- What a request does before the lookup. -/
def Request.enter (actorId : String) : Request → Script Entry
  | .stopMotion robotRef => Api.stopMotion actorId robotRef
  | .emergencyStop robotRef => Api.emergencyStop actorId robotRef
  | .resetEstop robotRef => Api.resetEstop actorId robotRef
  | .returnDockCommand robotRef params => Api.returnDockCommand actorId robotRef params
  | .stopOperation robotRef => stopCurrentOperation actorId robotRef
  | .navigatePreset robotRef presetId => navigateToPreset actorId robotRef presetId
  | .patrol input => Api.patrol actorId input
  | .patrolPlan input => patrolPlanTask actorId input
  | .returnDock robotRef parameters => Api.returnDock actorId robotRef parameters
  | .extinguish input => Api.extinguish actorId input
  | .cancelTask taskId => Api.cancelTask actorId taskId
  | .manualAlarm input => Api.manualAlarm actorId input
  | .alarmCreateTask alarmId robotId trajectoryId parameters =>
    Api.alarmCreateTask actorId alarmId robotId trajectoryId parameters

/-- A request. -/
def Request.serve (requestHash : JsonTree → String) (actorId key : String) (request : Request) :
    Script Unit := do
  let entry ← request.enter actorId
  let response ← entry.serve requestHash actorId key
  respond response

/-- A safety command dispatches without the store of keys. -/
theorem safetyCommand_quiet (order : Order) (endpoint : String) :
    (safetyCommand order endpoint).Only Call.quiet :=
  Process.only_bind (assertCanExecute_quiet ..) fun _ => trivial

/-- What others can see comes after the lookup. -/
theorem Request.enter_quiet (actorId : String) (request : Request) :
    (request.enter actorId).Only Call.quiet := by
  cases request with
  | stopMotion | emergencyStop =>
    exact Process.only_bind (requirePermission_quiet ..) fun _ =>
      Process.only_bind (findRobot_quiet _) fun _ => safetyCommand_quiet ..
  | resetEstop =>
    exact Process.only_bind (requirePermission_quiet ..) fun _ =>
      Process.only_bind (findRobot_quiet _) fun _ =>
        Process.only_bind (only_refuse _ _) fun _ => safetyCommand_quiet ..
  | returnDockCommand | stopOperation | navigatePreset =>
    exact Process.only_bind (requirePermission_quiet ..) fun _ =>
      Process.only_bind (findRobot_quiet _) fun _ => trivial
  | patrol | patrolPlan | returnDock | extinguish | cancelTask | manualAlarm =>
    exact Process.only_bind (requirePermission_quiet ..) fun _ => trivial
  | alarmCreateTask =>
    exact Process.only_bind (requirePermission_quiet ..) fun _ =>
      Process.only_bind (only_read _) fun _ =>
        Process.only_bind (only_found _ _) fun _ =>
          Process.only_bind (only_refuse _ _) fun _ => trivial

end Firebot.Api
